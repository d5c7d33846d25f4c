import Mathlib
import Gilbreth.Windows.MouseButtons

/-!
# Where drags and double clicks come from

What is held and what is remembered is read back from the calls made so far. A held button
was pressed in one call and kept down since; a remembered click is a whole hold, with no double
click after it.
-/

set_option autoImplicit false

namespace Gilbreth.Windows

open Gilbreth.Core (Captured Instant InputOrigin MouseButton WindowRef EventPayload durationMs
  checkedDurationSince)

namespace MouseCall

def downs : MouseCall → List MouseButton
  | .raw input => input.raw.downButtons
  | _ => []

def ups : MouseCall → List MouseButton
  | .raw input => input.raw.upButtons
  | _ => []

end MouseCall

def doubleClickedButton (row : Captured) : Option MouseButton :=
  match row.payload with
  | .mouseDoubleClick button _ _ _ _ _ => some button
  | _ => none

def draggedButton (row : Captured) : Option MouseButton :=
  match row.payload with
  | .mouseDrag button _ _ _ _ _ _ _ _ _ _ _ _ => some button
  | _ => none

def dragAmount (row : Captured) : MoveAmount :=
  match row.payload with
  | .mouseDrag _ dx dy distance count _ _ _ _ _ _ _ _ =>
      (dx.toInt, dy.toInt, distance.toNat, count.toNat)
  | _ => 0

/-- From the press of a button to its next release, both included. -/
structure Hold (button : MouseButton) (press release : RawInput) (span : List MouseCall) :
    Prop where
  first : span.head? = some (.raw press)
  last : span.getLast? = some (.raw release)
  pressed : button ∈ press.raw.downButtons
  released : button ∈ release.raw.upButtons
  again : ∀ call ∈ span.tail, button ∉ call.downs
  kept : ∀ call ∈ span.dropLast, button ∉ call.ups

theorem hold_prefix {button : MouseButton} {press release otherPress otherRelease : RawInput}
    {span more : List MouseCall} (hold : Hold button press release span)
    (longer : Hold button otherPress otherRelease (span ++ more)) : more = [] := by
  by_contra more_ne
  have ⟨front, whole⟩ := List.getLast?_eq_some_iff.mp hold.last
  apply longer.kept (.raw release) ?_ hold.released
  rw [List.dropLast_append_of_ne_nil more_ne, whole]
  simp

theorem hold_unique {button : MouseButton} {press release otherPress otherRelease : RawInput}
    {span other rest otherRest : List MouseCall} (hold : Hold button press release span)
    (otherHold : Hold button otherPress otherRelease other)
    (same : span ++ rest = other ++ otherRest) : span = other := by
  rcases List.append_eq_append_iff.mp same with ⟨more, longer, _⟩ | ⟨more, longer, _⟩
  · rw [longer] at otherHold
    have nothing := hold_prefix hold otherHold
    rw [longer, nothing, List.append_nil]
  · rw [longer] at hold
    have nothing := hold_prefix otherHold hold
    rw [longer, nothing, List.append_nil]

theorem before_release {button : MouseButton} {press release : RawInput}
    {before early span : List MouseCall} {call : MouseCall}
    (hold : Hold button press release span) (split : before ++ [call] = early ++ span) :
    before = early ++ span.dropLast := by
  have some : span ≠ [] := by
    intro empty
    have first := hold.first
    rw [empty] at first
    cases first
  rw [← List.dropLast_append_of_ne_nil some, ← split, List.dropLast_concat]

/-- What a held button was last seen in and at. -/
structure Sighting where
  window : Option WindowRef
  position : Option MousePosition

def RawInput.sighting (input : RawInput) : Sighting := ⟨input.window, input.position⟩

def Sighting.next (seen : Sighting) (input : RawInput) : Sighting :=
  ⟨input.window.or seen.window, input.position.or seen.position⟩

namespace MouseState

theorem flush_pending_plain (state : MouseState) :
    ∀ row ∈ state.flushPending.2, doubleClickedButton row = none ∧ draggedButton row = none := by
  intro row member
  unfold flushPending at member
  simp only [Option.mem_toList, Option.map_eq_some_iff] at member
  have ⟨pending, _, same⟩ := member
  rw [← same]
  exact ⟨rfl, rfl⟩

theorem flush_due_plain (state : MouseState) (now : Instant) :
    ∀ row ∈ (state.flushDue now).2,
      doubleClickedButton row = none ∧ draggedButton row = none := by
  intro row member
  unfold flushDue at member
  cases pending : state.pendingMove with
  | none => simp [pending] at member
  | some pendingMove =>
      simp only [pending] at member
      split_ifs at member
      · cases member
      · exact state.flush_pending_plain row member

theorem wheel_rows_plain (input : RawInput) (inputOrigin : Option InputOrigin) :
    ∀ row ∈ wheelRows input inputOrigin,
      doubleClickedButton row = none ∧ draggedButton row = none := by
  intro row member
  unfold wheelRows at member
  rcases List.mem_append.mp member with vertical | horizontal
  · split_ifs at vertical
    · rw [List.mem_singleton.mp vertical]
      exact ⟨rfl, rfl⟩
    · cases vertical
  · split_ifs at horizontal
    · rw [List.mem_singleton.mp horizontal]
      exact ⟨rfl, rfl⟩
    · cases horizontal

end MouseState

section Rows

variable [Hypot]

namespace MouseState

/-- A held button is seen again whenever the mouse moves. -/
def sighted (state : MouseState) (seen : Sighting) : MouseCall → Sighting
  | .raw input => if (state.delta input).isSome then seen.next input else seen
  | _ => seen

def sightings (state : MouseState) (seen : Sighting) : List MouseCall → Sighting
  | [] => seen
  | call :: rest => sightings (machine.step state call).1 (state.sighted seen call) rest

def rowsAt (metrics : MouseMetrics) (history : List MouseCall) (call : MouseCall) :
    List Captured :=
  (machine.step (machine.run (.new metrics) history) call).2

theorem sightings_snoc (state : MouseState) (seen : Sighting) (calls : List MouseCall)
    (call : MouseCall) :
    state.sightings seen (calls ++ [call]) =
      (machine.run state calls).sighted (state.sightings seen calls) call := by
  induction calls generalizing state seen with
  | nil => rfl
  | cons first rest induction => exact induction _ _

end MouseState

theorem deltas_snoc (state : MouseState) (calls : List MouseCall) (call : MouseCall) :
    deltasAmount state (calls ++ [call]) =
      deltasAmount state calls + (MouseState.machine.run state calls).deltaAmount call := by
  induction calls generalizing state with
  | nil => exact add_comm _ _
  | cons first rest induction =>
      rw [List.cons_append, deltasAmount, induction, deltasAmount, Machine.run_cons, add_assoc]

namespace MouseState

theorem flush_moved_plain (state : MouseState) (input : RawInput) :
    ∀ row ∈ (state.flushMoved input).2,
      doubleClickedButton row = none ∧ draggedButton row = none := by
  unfold flushMoved
  split_ifs
  · exact (state.moved input).flush_pending_plain
  · exact (state.moved input).flush_due_plain input.capturedAt

theorem on_raw_mouse_rows {state : MouseState} {input : RawInput} {row : Captured}
    (member : row ∈ (state.onRawMouse input).2) :
    (doubleClickedButton row = none ∧ draggedButton row = none) ∨
      (∃ button ∈ input.raw.downButtons, ∃ intervalMs,
        state.doubled input button = some intervalMs ∧
          row = doubleClickRow input (state.origin input) button intervalMs) ∨
      ∃ button ∈ input.raw.upButtons, ∃ active, state.heldAt input button = some active ∧
        (active.finish input.window input.position (state.origin input)).isDrag
          state.metrics.dragBox = true ∧
        row = (active.finish input.window input.position (state.origin input)).intoDrag
          input.capturedAt := by
  have ⟨ready, held, metrics, _, whole⟩ := state.on_raw_mouse_eq input
  rw [whole] at member
  dsimp only at member
  simp only [List.mem_append, List.mem_flatMap] at member
  rcases member with ((flushed | ⟨button, down, pressed⟩) | wheel) | ⟨button, up, release⟩
  · exact Or.inl (state.flush_moved_plain input row flushed)
  · rcases List.mem_cons.mp pressed with click | double
    · rw [click]
      exact Or.inl ⟨rfl, rfl⟩
    · simp only [Option.mem_toList, Option.map_eq_some_iff] at double
      rcases double with ⟨intervalMs, isDouble, same⟩
      exact Or.inr (Or.inl ⟨button, down, intervalMs, isDouble, same.symm⟩)
  · exact Or.inl (wheel_rows_plain input _ row wheel)
  · unfold releaseRows at release
    simp only [List.mem_map, Option.mem_toList, Option.filter_eq_some_iff] at release
    rcases release with ⟨active, ⟨isHeld, drag⟩, same⟩
    rw [held] at isHeld
    rw [metrics] at drag
    exact Or.inr (Or.inr ⟨button, up, active, isHeld, drag, same.symm⟩)

theorem click_row_added {state : MouseState} {input : RawInput} {button : MouseButton}
    (down : button ∈ input.raw.downButtons) :
    clickRow input (state.origin input) button ∈ (state.onRawMouse input).2 := by
  have ⟨_, _, _, _, whole⟩ := state.on_raw_mouse_eq input
  rw [whole]
  simp only [List.mem_append, List.mem_flatMap]
  exact Or.inl (Or.inl (Or.inr ⟨button, down, List.mem_cons_self⟩))

end MouseState

end Rows

/-- Where the rows of each button name at most that button, all rows name every button once. -/
theorem picked_sublist {pick : Captured → Option MouseButton}
    {rows : MouseButton → List Captured}
    (each : ∀ button, ((rows button).filterMap pick).Sublist [button])
    (buttons : List MouseButton) : ((buttons.flatMap rows).filterMap pick).Sublist buttons := by
  induction buttons with
  | nil => exact List.Sublist.refl _
  | cons button rest induction =>
      rw [List.flatMap_cons, List.filterMap_append]
      exact (each button).append induction

theorem picked_once {pick : Captured → Option MouseButton} {rows : List Captured}
    (once : (rows.filterMap pick).Nodup) {row other : Captured} {button : MouseButton}
    (member : row ∈ rows) (among : other ∈ rows) (names : pick row = some button)
    (alike : pick other = some button) : row = other := by
  induction rows with
  | nil => cases member
  | cons first rest induction =>
      have later : ∀ found ∈ rest, pick found = some button → pick first ≠ some button := by
        intro found isLater isNamed firstNamed
        rw [List.filterMap_cons_some firstNamed, List.nodup_cons] at once
        exact once.1 (List.mem_filterMap.mpr ⟨found, isLater, isNamed⟩)
      have below : (rest.filterMap pick).Nodup :=
        once.sublist ((List.sublist_cons_self first rest).filterMap pick)
      rcases List.mem_cons.mp member with head | tail
      · rcases List.mem_cons.mp among with otherHead | otherTail
        · rw [head, otherHead]
        · exact absurd (head ▸ names) (later other otherTail alike)
      · rcases List.mem_cons.mp among with otherHead | otherTail
        · exact absurd (otherHead ▸ alike) (later row tail names)
        · exact induction below tail otherTail

section Once

variable [Hypot]

namespace MouseState

/-- Every held button is held under its own name. -/
def Named (state : MouseState) : Prop :=
  ∀ button active, state.activeButtons button = some active → active.button = button

theorem held_at_named {state : MouseState} (named : state.Named) {input : RawInput}
    {button : MouseButton} {active : ActiveMouseButton}
    (held : state.heldAt input button = some active) : active.button = button := by
  unfold heldAt at held
  split_ifs at held
  · rw [← Option.some.inj held]
    rfl
  · have ⟨before, isBefore, followed⟩ := Option.map_eq_some_iff.mp held
    rw [← followed, ← named button before isBefore]
    unfold MouseState.followed
    cases state.delta input with
    | none => rfl
    | some movement => rfl

theorem on_raw_mouse_once {state : MouseState} (named : state.Named) (input : RawInput) :
    ((state.onRawMouse input).2.filterMap doubleClickedButton).Nodup ∧
      ((state.onRawMouse input).2.filterMap draggedButton).Nodup := by
  have ⟨ready, held, _, _, whole⟩ := state.on_raw_mouse_eq input
  have silent : ∀ {pick : Captured → Option MouseButton} {rows : List Captured},
      (∀ row ∈ rows, pick row = none) → rows.filterMap pick = [] :=
    fun none => List.filterMap_eq_nil_iff.mpr none
  rw [whole]
  dsimp only
  simp only [List.filterMap_append]
  rw [silent fun row member => (state.flush_moved_plain input row member).1,
    silent fun row member => (state.flush_moved_plain input row member).2,
    silent fun row member => (wheel_rows_plain input _ row member).1,
    silent fun row member => (wheel_rows_plain input _ row member).2,
    List.nil_append, List.nil_append, List.append_nil, List.append_nil]
  constructor
  · rw [@silent _ (input.raw.upButtons.flatMap _) ?_, List.append_nil]
    · apply List.Nodup.sublist _ (down_buttons_once input.raw)
      apply picked_sublist
      intro button
      unfold pressRows
      rw [List.filterMap_cons_none rfl]
      cases state.doubled input button with
      | none => exact List.nil_sublist _
      | some intervalMs => exact List.Sublist.refl _
    · intro row member
      have ⟨button, _, release⟩ := List.mem_flatMap.mp member
      have ⟨active, _, same⟩ := List.mem_map.mp release
      rw [← same]
      rfl
  · rw [@silent _ (input.raw.downButtons.flatMap _) ?_, List.nil_append]
    · apply List.Nodup.sublist _ (up_buttons_once input.raw)
      apply picked_sublist
      intro button
      unfold releaseRows
      cases isHeld : ready.activeButtons button with
      | none => exact List.nil_sublist _
      | some active =>
          have own : active.button = button := held_at_named named (held ▸ isHeld)
          rw [← own]
          rw [Option.filter_some]
          split_ifs
          · exact List.Sublist.refl _
          · exact List.nil_sublist _
    · intro row member
      have ⟨button, _, pressed⟩ := List.mem_flatMap.mp member
      rcases List.mem_cons.mp pressed with click | double
      · rw [click]
        rfl
      · simp only [Option.mem_toList, Option.map_eq_some_iff] at double
        have ⟨intervalMs, _, same⟩ := double
        rw [← same]
        rfl

end MouseState

end Once

end Gilbreth.Windows
