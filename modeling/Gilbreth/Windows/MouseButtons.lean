import Mathlib
import Gilbreth.Windows.MouseConservation

/-!
# What one raw event does to the buttons

The loops over the pressed and the released buttons meet every button at most once, so each
button can be read off the state the loop began with.
-/

set_option autoImplicit false

namespace Gilbreth.Windows

open Gilbreth.Core (Captured Instant InputOrigin MouseButton EventPayload durationMs
  checkedDurationSince)

theorem flagged_once (flags : List (UInt16 × MouseButton)) (once : (flags.map Prod.snd).Nodup)
    (set : UInt16 → Bool) :
    (flags.filterMap fun entry => if set entry.1 then some entry.2 else none).Nodup := by
  apply List.Nodup.sublist _ once
  clear once
  induction flags with
  | nil => exact List.Sublist.refl _
  | cons entry rest induction =>
      rw [List.filterMap_cons, List.map_cons]
      cases set entry.1 with
      | false => exact induction.cons entry.2
      | true => exact induction.cons_cons entry.2

theorem down_buttons_once (raw : RawMouseEvent) : raw.downButtons.Nodup := by
  have once := flagged_once RawMouseEvent.downFlags (by decide)
    fun flag => decide (raw.buttonFlags &&& flag ≠ 0)
  simpa only [RawMouseEvent.downButtons, decide_eq_true_eq] using once

theorem up_buttons_once (raw : RawMouseEvent) : raw.upButtons.Nodup := by
  have once := flagged_once RawMouseEvent.upFlags (by decide)
    fun flag => decide (raw.buttonFlags &&& flag ≠ 0)
  simpa only [RawMouseEvent.upButtons, decide_eq_true_eq] using once

def clickRow (input : RawInput) (inputOrigin : Option InputOrigin) (button : MouseButton) :
    Captured :=
  ⟨.mouse, input.capturedAt,
    .mouseClick button (input.position.map MousePosition.x) (input.position.map MousePosition.y)
      input.window inputOrigin⟩

def doubleClickRow (input : RawInput) (inputOrigin : Option InputOrigin) (button : MouseButton)
    (intervalMs : UInt64) : Captured :=
  ⟨.mouse, input.capturedAt,
    .mouseDoubleClick button intervalMs (input.position.map MousePosition.x)
      (input.position.map MousePosition.y) input.window inputOrigin⟩

namespace MouseState

/-- The interval to the click that a press would complete. -/
def doubled (state : MouseState) (input : RawInput) (button : MouseButton) : Option UInt64 :=
  state.doubleClickIntervalMs button input.position input.window input.capturedAt

def pressRows (state : MouseState) (input : RawInput) (inputOrigin : Option InputOrigin)
    (button : MouseButton) : List Captured :=
  clickRow input inputOrigin button ::
    ((state.doubled input button).map (doubleClickRow input inputOrigin button)).toList

def newlyHeld (state : MouseState) (input : RawInput) (inputOrigin : Option InputOrigin)
    (button : MouseButton) : ActiveMouseButton :=
  .new button input.position input.window input.capturedAt inputOrigin
    (state.doubled input button).isNone

def pressed (state : MouseState) (input : RawInput) (inputOrigin : Option InputOrigin)
    (buttons : List MouseButton) : MouseState :=
  { state with
    activeButtons := fun button =>
      if button ∈ buttons then some (state.newlyHeld input inputOrigin button)
      else state.activeButtons button
    lastCompletedClick :=
      if buttons.any fun button => (state.doubled input button).isSome then none
      else state.lastCompletedClick }

def releaseRows (state : MouseState) (input : RawInput) (inputOrigin : Option InputOrigin)
    (button : MouseButton) : List Captured :=
  ((state.activeButtons button).filter fun active =>
    (active.finish input.window input.position inputOrigin).isDrag state.metrics.dragBox).toList.map
      fun active => (active.finish input.window input.position inputOrigin).intoDrag
        input.capturedAt

/-- The click remembered after one release. -/
def remembered (state : MouseState) (input : RawInput) (inputOrigin : Option InputOrigin)
    (last : Option CompletedMouseClick) (button : MouseButton) : Option CompletedMouseClick :=
  match state.activeButtons button with
  | none => last
  | some active =>
      let finished := active.finish input.window input.position inputOrigin
      if finished.isDrag state.metrics.dragBox then none
      else if finished.seedCompletedClick then some finished.intoCompletedClick
      else none

def released (state : MouseState) (input : RawInput) (inputOrigin : Option InputOrigin)
    (buttons : List MouseButton) : MouseState :=
  { state with
    activeButtons := fun button =>
      if button ∈ buttons then none else state.activeButtons button
    lastCompletedClick :=
      buttons.foldl (state.remembered input inputOrigin) state.lastCompletedClick }

theorem doubled_inversion {state : MouseState} {input : RawInput} {button : MouseButton}
    {intervalMs : UInt64} (double : state.doubled input button = some intervalMs) :
    ∃ previous elapsed, state.lastCompletedClick = some previous ∧ previous.button = button ∧
      checkedDurationSince input.capturedAt previous.startedAt = some elapsed ∧
      elapsed ≤ state.metrics.doubleClickInterval ∧ intervalMs = durationMs elapsed ∧
      ∃ window position previousX previousY, input.window = some window ∧
        previous.hwnd = some window.hwnd ∧ input.position = some position ∧
        previous.x = some previousX ∧ previous.y = some previousY ∧
        state.metrics.doubleClickBox.contains previousX previousY position.x position.y =
          true := by
  unfold doubled doubleClickIntervalMs at double
  simp only [Option.bind_eq_bind, Option.bind_eq_some_iff, ite_eq_iff, reduceCtorEq, and_false,
    false_or, or_false, not_not, not_lt, Option.some.injEq] at double
  rcases double with ⟨previous, last, same, elapsed, since, within, hwnd, known, window, shown,
    matching, position, placed, previousX, knownX, previousY, knownY, inside, whole⟩
  subst matching
  exact ⟨previous, elapsed, last, same, since, within, whole.symm, window, position, previousX,
    previousY, shown, known, placed, knownX, knownY, inside⟩

theorem doubled_congr {state other : MouseState} (input : RawInput) (button : MouseButton)
    (last : other.lastCompletedClick = state.lastCompletedClick)
    (metrics : other.metrics = state.metrics) :
    other.doubled input button = state.doubled input button := by
  unfold doubled doubleClickIntervalMs
  rw [last, metrics]

theorem doubled_none {state : MouseState} (input : RawInput) (button : MouseButton)
    (other : ∀ previous, state.lastCompletedClick = some previous → previous.button ≠ button) :
    state.doubled input button = none := by
  cases double : state.doubled input button with
  | none => rfl
  | some intervalMs =>
      have ⟨previous, _, last, same, _⟩ := doubled_inversion double
      exact absurd same (other previous last)

theorem doubled_pressed {state : MouseState} (input : RawInput) (inputOrigin : Option InputOrigin)
    {first button : MouseButton} (different : button ≠ first) :
    (state.pressed input inputOrigin [first]).doubled input button =
      state.doubled input button := by
  cases double : state.doubled input first with
  | none =>
      apply doubled_congr
      · simp [pressed, double]
      · rfl
  | some intervalMs =>
      have ⟨previous, _, last, same, _⟩ := doubled_inversion double
      have nowNone : state.doubled input button = none := by
        apply doubled_none
        intro other isOther
        rw [last] at isOther
        rw [← Option.some.inj isOther, same]
        exact different.symm
      rw [nowNone]
      apply doubled_none
      simp [pressed, double]

theorem press_button_eq (input : RawInput) (inputOrigin : Option InputOrigin) (state : MouseState)
    (rows : List Captured) (button : MouseButton) :
    pressButton input inputOrigin (state, rows) button =
      (state.pressed input inputOrigin [button],
        rows ++ state.pressRows input inputOrigin button) := by
  have held : ∀ active : ActiveMouseButton,
      Function.update state.activeButtons button (some active) =
        fun other => if other ∈ [button] then some active else state.activeButtons other := by
    intro active
    funext other
    simp [Function.update_apply]
  have same : (fun other => if other ∈ [button] then some (state.newlyHeld input inputOrigin other)
      else state.activeButtons other) =
      fun other => if other ∈ [button] then some (state.newlyHeld input inputOrigin button)
        else state.activeButtons other := by
    funext other
    by_cases is : other = button
    · rw [is]
    · rw [if_neg (by simpa using is), if_neg (by simpa using is)]
  have known : state.doubleClickIntervalMs button input.position input.window input.capturedAt =
      state.doubled input button := rfl
  unfold pressButton pressed pressRows
  rw [same]
  unfold newlyHeld
  dsimp only
  rw [known]
  cases double : state.doubled input button with
  | none => simp [held, clickRow, double]
  | some intervalMs => simp [held, clickRow, doubleClickRow, double]

theorem pressed_pressed {state : MouseState} {input : RawInput}
    {inputOrigin : Option InputOrigin} {button : MouseButton} {rest : List MouseButton}
    (others : ∀ other ∈ rest, (state.pressed input inputOrigin [button]).doubled input other =
      state.doubled input other) :
    (state.pressed input inputOrigin [button]).pressed input inputOrigin rest =
      state.pressed input inputOrigin (button :: rest) := by
  have held : ((state.pressed input inputOrigin [button]).pressed input inputOrigin
      rest).activeButtons = (state.pressed input inputOrigin (button :: rest)).activeButtons := by
    funext other
    unfold pressed
    dsimp only
    by_cases member : other ∈ rest
    · rw [if_pos member, if_pos (List.mem_cons_of_mem _ member)]
      unfold newlyHeld
      rw [← others other member]
      rfl
    · rw [if_neg member]
      simp [member]
  have anyLater : (rest.any fun other =>
      ((state.pressed input inputOrigin [button]).doubled input other).isSome) =
      rest.any fun other => (state.doubled input other).isSome := by
    rw [Bool.eq_iff_iff]
    simp only [List.any_eq_true]
    apply exists_congr
    intro other
    apply and_congr_right
    intro member
    rw [others other member]
  have last : ((state.pressed input inputOrigin [button]).pressed input inputOrigin
      rest).lastCompletedClick =
      (state.pressed input inputOrigin (button :: rest)).lastCompletedClick := by
    change (if _ then none else if _ then none else _) = if _ then none else _
    rw [anyLater, List.any_cons, List.any_cons, List.any_nil, Bool.or_false]
    cases (state.doubled input button).isSome <;> simp
  unfold pressed at held last ⊢
  dsimp only at held last ⊢
  rw [held, last]

theorem press_fold (input : RawInput) (inputOrigin : Option InputOrigin)
    {buttons : List MouseButton} (once : buttons.Nodup) (state : MouseState)
    (rows : List Captured) :
    buttons.foldl (pressButton input inputOrigin) (state, rows) =
      (state.pressed input inputOrigin buttons,
        rows ++ buttons.flatMap (state.pressRows input inputOrigin)) := by
  induction buttons generalizing state rows with
  | nil => simp [pressed]
  | cons button rest induction =>
      have ⟨fresh, once⟩ := List.nodup_cons.mp once
      have others : ∀ other ∈ rest,
          (state.pressed input inputOrigin [button]).doubled input other =
            state.doubled input other := by
        intro other member
        apply doubled_pressed
        intro same
        exact fresh (same ▸ member)
      rw [List.foldl_cons, press_button_eq, induction once, List.flatMap_cons, List.append_assoc]
      have sameRows : rest.flatMap
          ((state.pressed input inputOrigin [button]).pressRows input inputOrigin) =
          rest.flatMap (state.pressRows input inputOrigin) := by
        apply List.flatMap_congr
        intro other member
        unfold pressRows
        rw [others other member]
      rw [sameRows, pressed_pressed others]

theorem release_button_eq (input : RawInput) (inputOrigin : Option InputOrigin)
    (state : MouseState) (rows : List Captured) (button : MouseButton) :
    releaseButton input inputOrigin (state, rows) button =
      (state.released input inputOrigin [button],
        rows ++ state.releaseRows input inputOrigin button) := by
  have dropped : Function.update state.activeButtons button none =
      fun other => if other ∈ [button] then none else state.activeButtons other := by
    funext other
    simp [Function.update_apply]
  unfold releaseButton released releaseRows
  rw [← dropped, List.foldl_cons, List.foldl_nil]
  unfold remembered
  dsimp only
  cases held : state.activeButtons button with
  | none =>
      have same : Function.update state.activeButtons button none = state.activeButtons :=
        Function.update_eq_self_iff.mpr held.symm
      simp [same]
  | some active =>
      dsimp only
      split_ifs with drag seeded
      · simp [Option.filter, drag]
      · simp [Option.filter, drag]
      · simp [Option.filter, drag]

theorem release_fold (input : RawInput) (inputOrigin : Option InputOrigin)
    {buttons : List MouseButton} (once : buttons.Nodup) (state : MouseState)
    (rows : List Captured) :
    buttons.foldl (releaseButton input inputOrigin) (state, rows) =
      (state.released input inputOrigin buttons,
        rows ++ buttons.flatMap (state.releaseRows input inputOrigin)) := by
  induction buttons generalizing state rows with
  | nil => simp [released]
  | cons button rest induction =>
      have ⟨fresh, once⟩ := List.nodup_cons.mp once
      have others : ∀ other ∈ rest,
          (state.released input inputOrigin [button]).activeButtons other =
            state.activeButtons other := by
        intro other member
        apply if_neg
        intro same
        exact fresh (List.mem_singleton.mp same ▸ member)
      rw [List.foldl_cons, release_button_eq, induction once, List.flatMap_cons, List.append_assoc]
      have sameRows : rest.flatMap
          ((state.released input inputOrigin [button]).releaseRows input inputOrigin) =
          rest.flatMap (state.releaseRows input inputOrigin) := by
        apply List.flatMap_congr
        intro other member
        unfold releaseRows
        rw [others other member]
        rfl
      have sameLast : ∀ last, rest.foldl
          ((state.released input inputOrigin [button]).remembered input inputOrigin) last =
          rest.foldl (state.remembered input inputOrigin) last := by
        intro last
        apply List.foldl_ext
        intro last other member
        unfold remembered
        rw [others other member]
        rfl
      have sameHeld : ((state.released input inputOrigin [button]).released input inputOrigin
          rest).activeButtons =
          (state.released input inputOrigin (button :: rest)).activeButtons := by
        funext other
        unfold released
        dsimp only
        by_cases member : other ∈ rest
        · simp [member]
        · simp [member]
      rw [sameRows]
      unfold released at sameLast sameHeld ⊢
      dsimp only at sameLast sameHeld ⊢
      rw [sameLast, sameHeld]
      rfl

section Movement

variable [Hypot]

/-- The origin that a raw event is given. -/
def origin (state : MouseState) (input : RawInput) : Option InputOrigin :=
  (state.updateInputOrigin input.raw input.position input.screen).2

/-- A held button after the movement of a raw event. -/
def followed (state : MouseState) (input : RawInput) (active : ActiveMouseButton) :
    ActiveMouseButton :=
  match state.delta input with
  | some movement =>
      active.addMovement movement input.window input.position (state.origin input)
  | none => active

theorem flush_moved_frame (state : MouseState) (input : RawInput) :
    (state.flushMoved input).1.activeButtons =
        (fun button => (state.activeButtons button).map (state.followed input)) ∧
      (state.flushMoved input).1.lastCompletedClick = state.lastCompletedClick ∧
      (state.flushMoved input).1.metrics = state.metrics := by
  have frame := update_input_origin_frame state input.raw input.position input.screen
  have flushed : (state.flushMoved input).1.activeButtons = (state.moved input).activeButtons ∧
      (state.flushMoved input).1.lastCompletedClick = (state.moved input).lastCompletedClick ∧
      (state.flushMoved input).1.metrics = (state.moved input).metrics := by
    unfold flushMoved flushDue flushPending
    split_ifs
    · exact ⟨rfl, rfl, rfl⟩
    · cases (state.moved input).pendingMove with
      | none => exact ⟨rfl, rfl, rfl⟩
      | some pending =>
          dsimp only
          split_ifs <;> exact ⟨rfl, rfl, rfl⟩
  rw [flushed.1, flushed.2.1, flushed.2.2]
  unfold moved followed
  dsimp only
  cases state.delta input with
  | none =>
      refine ⟨?_, frame.2.2⟩
      funext button
      dsimp only
      rw [frame.2.1, Option.map_id_fun', id]
  | some movement =>
      refine ⟨?_, frame.2.2⟩
      funext button
      unfold record origin
      dsimp only
      rw [frame.2.1]

/-- What is held when the releases of a raw event begin. -/
def heldAt (state : MouseState) (input : RawInput) (button : MouseButton) :
    Option ActiveMouseButton :=
  if button ∈ input.raw.downButtons then
    some (state.newlyHeld input (state.origin input) button)
  else (state.activeButtons button).map (state.followed input)

theorem on_raw_mouse_eq (state : MouseState) (input : RawInput) :
    ∃ ready : MouseState, ready.activeButtons = state.heldAt input ∧
      ready.metrics = state.metrics ∧
      ready.lastCompletedClick =
        (if input.raw.downButtons.any fun button => (state.doubled input button).isSome then none
          else state.lastCompletedClick) ∧
      state.onRawMouse input =
        (ready.released input (state.origin input) input.raw.upButtons,
          (state.flushMoved input).2 ++
            input.raw.downButtons.flatMap (state.pressRows input (state.origin input)) ++
            wheelRows input (state.origin input) ++
            input.raw.upButtons.flatMap (ready.releaseRows input (state.origin input))) := by
  have frame := state.flush_moved_frame input
  have sameDoubled : ∀ button,
      (state.flushMoved input).1.doubled input button = state.doubled input button :=
    fun button => doubled_congr input button frame.2.1 frame.2.2
  have sameRows : (state.flushMoved input).1.pressRows input (state.origin input) =
      state.pressRows input (state.origin input) := by
    funext button
    unfold pressRows
    rw [sameDoubled]
  refine ⟨(state.flushMoved input).1.pressed input (state.origin input) input.raw.downButtons,
    ?_, frame.2.2, ?_, ?_⟩
  · funext button
    unfold pressed heldAt newlyHeld
    dsimp only
    rw [sameDoubled, frame.1]
  · unfold pressed
    dsimp only
    simp only [sameDoubled, frame.2.1]
  · have whole : state.onRawMouse input =
        input.raw.upButtons.foldl (releaseButton input (state.origin input))
          ((input.raw.downButtons.foldl (pressButton input (state.origin input))
              (state.flushMoved input)).1,
            (input.raw.downButtons.foldl (pressButton input (state.origin input))
              (state.flushMoved input)).2 ++ wheelRows input (state.origin input)) := rfl
    have pressing := press_fold input (state.origin input) (down_buttons_once input.raw)
      (state.flushMoved input).1 (state.flushMoved input).2
    rw [whole, pressing, release_fold input _ (up_buttons_once input.raw), sameRows]

end Movement

end MouseState

end Gilbreth.Windows
