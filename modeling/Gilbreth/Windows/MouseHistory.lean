import Mathlib
import Gilbreth.Windows.MouseClicks

/-!
# The history of a held button and of a remembered click

Both are read back by going from the last call to the first: what a call leaves held was
pressed by it or held before it, and what it leaves remembered was released by it or remembered
before it.
-/

set_option autoImplicit false

namespace Gilbreth.Windows

open Gilbreth.Core (Captured Instant InputOrigin MouseButton WindowRef EventPayload)

/-- Where a button started, and where it was last seen. -/
structure ActiveMouseButton.Saw (active : ActiveMouseButton) (press : RawInput)
    (seen : Sighting) : Prop where
  startX : active.startX = press.position.map MousePosition.x
  startY : active.startY = press.position.map MousePosition.y
  endX : active.endX = seen.position.map MousePosition.x
  endY : active.endY = seen.position.map MousePosition.y
  window : active.window = seen.window

theorem saw_finish {active : ActiveMouseButton} {press : RawInput} {seen : Sighting}
    (saw : active.Saw press seen) (input : RawInput) (inputOrigin : Option InputOrigin) :
    (active.finish input.window input.position inputOrigin).Saw press (seen.next input) := by
  refine ⟨saw.startX, saw.startY, ?_, ?_, ?_⟩
  · unfold ActiveMouseButton.finish Sighting.next
    dsimp only
    rw [saw.endX]
    cases input.position <;> rfl
  · unfold ActiveMouseButton.finish Sighting.next
    dsimp only
    rw [saw.endY]
    cases input.position <;> rfl
  · unfold ActiveMouseButton.finish Sighting.next
    dsimp only
    rw [saw.window]

/-- A completed click lies where it was pressed, or else where it was last seen. -/
theorem completed_click_saw {active : ActiveMouseButton} {press : RawInput} {seen : Sighting}
    (saw : active.Saw press seen) :
    active.intoCompletedClick.x = (press.position.or seen.position).map MousePosition.x ∧
      active.intoCompletedClick.y = (press.position.or seen.position).map MousePosition.y ∧
      active.intoCompletedClick.hwnd = seen.window.map WindowRef.hwnd := by
  unfold ActiveMouseButton.intoCompletedClick
  dsimp only
  rw [saw.startX, saw.startY, saw.endX, saw.endY, saw.window, Option.map_or, Option.map_or]
  exact ⟨rfl, rfl, rfl⟩

section History

variable [Hypot]

namespace MouseState

def afterPress (metrics : MouseMetrics) (early : List MouseCall) (press : RawInput) :
    MouseState :=
  machine.run (.new metrics) (early ++ [.raw press])

theorem run_after_press (metrics : MouseMetrics) (early : List MouseCall) (press : RawInput)
    (rest : List MouseCall) :
    machine.run (afterPress metrics early press) rest =
      machine.run (.new metrics) (early ++ .raw press :: rest) := by
  rw [afterPress, ← machine.run_append, List.append_assoc, List.singleton_append]

def followedBy (state : MouseState) (call : MouseCall) (active : ActiveMouseButton) :
    ActiveMouseButton :=
  match call with
  | .raw input => state.followed input active
  | _ => active

/-- What a button has gathered in the calls since its press. -/
structure Gathered (metrics : MouseMetrics) (button : MouseButton) (early : List MouseCall)
    (press : RawInput) (rest : List MouseCall) (active : ActiveMouseButton) : Prop where
  own : active.button = button
  startedAt : active.startedAt = press.capturedAt
  saw : active.Saw press ((afterPress metrics early press).sightings press.sighting rest)
  amount : active.totals.amount = deltasAmount (afterPress metrics early press) rest
  single : active.seedCompletedClick = true →
    ∀ row ∈ rowsAt metrics early (.raw press), doubleClickedButton row ≠ some button

theorem held_at_cases {state : MouseState} {input : RawInput} {button : MouseButton}
    {active : ActiveMouseButton} (held : state.heldAt input button = some active) :
    (button ∈ input.raw.downButtons ∧
        active = state.newlyHeld input (state.origin input) button) ∨
      (button ∉ input.raw.downButtons ∧ ∃ before, state.activeButtons button = some before ∧
        active = state.followed input before) := by
  unfold heldAt at held
  by_cases down : button ∈ input.raw.downButtons
  · rw [if_pos down] at held
    exact Or.inl ⟨down, (Option.some.inj held).symm⟩
  · rw [if_neg down] at held
    have ⟨before, isBefore, same⟩ := Option.map_eq_some_iff.mp held
    exact Or.inr ⟨down, before, isBefore, same.symm⟩

/-- What a call leaves held is not released by it, and pressed by it or held before. -/
theorem held_step {state : MouseState} {call : MouseCall} {button : MouseButton}
    {active : ActiveMouseButton}
    (held : (machine.step state call).1.activeButtons button = some active) :
    button ∉ call.ups ∧
      ((∃ input, call = .raw input ∧ button ∈ input.raw.downButtons ∧
          active = state.newlyHeld input (state.origin input) button) ∨
        (button ∉ call.downs ∧ ∃ before, state.activeButtons button = some before ∧
          active = state.followedBy call before)) := by
  have nothing : ∀ other : MouseButton, other ∉ ([] : List MouseButton) := by simp
  cases call with
  | raw input =>
      have ⟨ready, isHeld, _, _, whole⟩ := state.on_raw_mouse_eq input
      change (state.onRawMouse input).1.activeButtons button = some active at held
      rw [whole] at held
      unfold released at held
      dsimp only at held
      rw [isHeld] at held
      by_cases up : button ∈ input.raw.upButtons
      · rw [if_pos up] at held
        cases held
      · rw [if_neg up] at held
        refine ⟨up, ?_⟩
        rcases held_at_cases held with ⟨down, same⟩ | ⟨notDown, before, isBefore, same⟩
        · exact Or.inl ⟨input, rfl, down, same⟩
        · exact Or.inr ⟨notDown, before, isBefore, same⟩
  | flushDue now =>
      have same : (state.flushDue now).1.activeButtons = state.activeButtons := by
        unfold flushDue flushPending
        cases state.pendingMove with
        | none => rfl
        | some pending =>
            dsimp only
            split_ifs <;> rfl
      change (state.flushDue now).1.activeButtons button = some active at held
      rw [same] at held
      exact ⟨nothing button, Or.inr ⟨nothing button, active, held, rfl⟩⟩
  | flushPending => exact ⟨nothing button, Or.inr ⟨nothing button, active, held, rfl⟩⟩
  | resetAfterBoundary => cases held
  | resyncActiveButtons isButtonDown =>
      change (if isButtonDown button then state.activeButtons button else none) = _ at held
      split_ifs at held
      exact ⟨nothing button, Or.inr ⟨nothing button, active, held, rfl⟩⟩

theorem gathered_press (metrics : MouseMetrics) (early : List MouseCall) (input : RawInput)
    (button : MouseButton) :
    Gathered metrics button early input []
      ((machine.run (.new metrics) early).newlyHeld input
        ((machine.run (.new metrics) early).origin input) button) := by
  refine ⟨rfl, rfl, ⟨rfl, rfl, rfl, rfl, rfl⟩, rfl, ?_⟩
  intro seeded row member isDouble
  rcases on_raw_mouse_rows member with plain | ⟨other, _, intervalMs, double, same⟩ | drag
  · rw [plain.1] at isDouble
    cases isDouble
  · rw [same] at isDouble
    have own : other = button := Option.some.inj isDouble
    rw [own] at double
    have none : (doubled _ input button).isNone = true := seeded
    rw [double] at none
    cases none
  · have ⟨_, _, _, _, _, same⟩ := drag
    rw [same] at isDouble
    cases isDouble

theorem gathered_follow {metrics : MouseMetrics} {button : MouseButton} {early : List MouseCall}
    {press : RawInput} {rest : List MouseCall} {active : ActiveMouseButton}
    (gathered : Gathered metrics button early press rest active) (call : MouseCall)
    (fits : call.Fits (machine.run (afterPress metrics early press) rest))
    (held : (machine.run (afterPress metrics early press) rest).activeButtons button =
      some active) :
    Gathered metrics button early press (rest ++ [call])
      ((machine.run (afterPress metrics early press) rest).followedBy call active) := by
  have unmoved : ∀ next : MouseCall,
      (machine.run (afterPress metrics early press) rest).deltaAmount next = 0 →
      (machine.run (afterPress metrics early press) rest).sighted
        ((afterPress metrics early press).sightings press.sighting rest) next =
          (afterPress metrics early press).sightings press.sighting rest →
      Gathered metrics button early press (rest ++ [next]) active := by
    intro next still unseen
    refine ⟨gathered.own, gathered.startedAt, ?_, ?_, gathered.single⟩
    · rw [sightings_snoc, unseen]
      exact gathered.saw
    · rw [deltas_snoc, still, add_zero]
      exact gathered.amount
  cases call with
  | raw input =>
      unfold followedBy followed
      dsimp only
      cases delta : (machine.run (afterPress metrics early press) rest).delta input with
      | none =>
          apply unmoved
          · simp [deltaAmount, delta]
          · simp [sighted, delta]
      | some movement =>
          have fitted := (fits movement delta).2 button active held
          refine ⟨gathered.own, gathered.startedAt, ?_, ?_, gathered.single⟩
          · rw [sightings_snoc]
            unfold sighted
            dsimp only
            rw [if_pos (by rw [delta]; rfl)]
            have added : ActiveMouseButton.Saw { active with totals := active.totals.add movement }
                press ((afterPress metrics early press).sightings press.sighting rest) :=
              ⟨gathered.saw.startX, gathered.saw.startY, gathered.saw.endX, gathered.saw.endY,
                gathered.saw.window⟩
            exact saw_finish added input _
          · rw [deltas_snoc, ← gathered.amount]
            unfold deltaAmount
            dsimp only
            rw [delta]
            exact totals_add_amount fitted
  | flushDue now => exact unmoved _ rfl rfl
  | flushPending => exact unmoved _ rfl rfl
  | resetAfterBoundary => exact unmoved _ rfl rfl
  | resyncActiveButtons isButtonDown => exact unmoved _ rfl rfl

theorem held_since {metrics : MouseMetrics} {calls : List MouseCall}
    (fits : machine.AllSteps (fun state call => call.Fits state) (.new metrics) calls)
    {button : MouseButton} {active : ActiveMouseButton}
    (held : (machine.run (.new metrics) calls).activeButtons button = some active) :
    ∃ early press rest, calls = early ++ .raw press :: rest ∧
      button ∈ press.raw.downButtons ∧ (∀ call ∈ MouseCall.raw press :: rest, button ∉ call.ups) ∧
      (∀ call ∈ rest, button ∉ call.downs) ∧ Gathered metrics button early press rest active := by
  induction calls using List.reverseRecOn generalizing active with
  | nil => cases held
  | append_singleton calls call induction =>
      have ⟨before, last⟩ := (machine.all_steps_append _ _ _ _).mp fits
      rw [machine.run_append, Machine.run_cons, Machine.run_nil] at held
      have ⟨notUp, cases⟩ := held_step held
      rcases cases with ⟨input, isRaw, down, same⟩ | ⟨notDown, earlier, isHeld, same⟩
      · refine ⟨calls, input, [], by rw [isRaw], down, ?_, by simp, ?_⟩
        · intro other member
          rw [List.mem_singleton.mp member, ← isRaw]
          exact notUp
        · rw [same]
          exact gathered_press metrics calls input button
      · have ⟨early, press, rest, split, down, kept, again, gathered⟩ := induction before isHeld
        have reached : machine.run (afterPress metrics early press) rest =
            machine.run (.new metrics) calls := by
          rw [split, run_after_press]
        refine ⟨early, press, rest ++ [call], by rw [split]; simp, down, ?_, ?_, ?_⟩
        · intro other member
          rcases List.mem_append.mp (List.cons_append ▸ member) with old | new
          · exact kept other old
          · rw [List.mem_singleton.mp new]
            exact notUp
        · intro other member
          rcases List.mem_append.mp member with old | new
          · exact again other old
          · rw [List.mem_singleton.mp new]
            exact notDown
        · rw [same, ← reached]
          apply gathered_follow gathered call
          · rw [reached]
            exact last.1
          · rw [reached]
            exact isHeld

theorem hold_at {metrics : MouseMetrics} {calls : List MouseCall} {input : RawInput}
    (fits : machine.AllSteps (fun state call => call.Fits state) (.new metrics)
      (calls ++ [.raw input]))
    {button : MouseButton} {active : ActiveMouseButton} (up : button ∈ input.raw.upButtons)
    (held : (machine.run (.new metrics) calls).heldAt input button = some active) :
    ∃ early press span, calls ++ [.raw input] = early ++ span ∧ Hold button press input span ∧
      Gathered metrics button early press span.tail active := by
  have ⟨before, last⟩ := (machine.all_steps_append _ _ _ _).mp fits
  rcases held_at_cases held with ⟨down, same⟩ | ⟨notDown, earlier, isHeld, same⟩
  · refine ⟨calls, input, [.raw input], rfl, ⟨rfl, rfl, down, up, by simp, by simp⟩, ?_⟩
    rw [same]
    exact gathered_press metrics calls input button
  · have ⟨early, press, rest, split, down, kept, again, gathered⟩ := held_since before isHeld
    have reached : machine.run (afterPress metrics early press) rest =
        machine.run (.new metrics) calls := by
      rw [split, run_after_press]
    refine ⟨early, press, .raw press :: rest ++ [.raw input], by rw [split]; simp,
      ⟨rfl, List.getLast?_concat, down, up, ?_, ?_⟩, ?_⟩
    · intro other member
      rcases List.mem_append.mp member with old | new
      · exact again other old
      · rw [List.mem_singleton.mp new]
        exact notDown
    · rw [List.dropLast_concat]
      exact kept
    · rw [same, ← reached]
      apply gathered_follow gathered (.raw input)
      · rw [reached]
        exact last.1
      · rw [reached]
        exact isHeld

theorem run_named {metrics : MouseMetrics} {calls : List MouseCall}
    (fits : machine.AllSteps (fun state call => call.Fits state) (.new metrics) calls) :
    (machine.run (.new metrics) calls).Named := by
  intro button active held
  have ⟨_, _, _, _, _, _, _, gathered⟩ := held_since fits held
  exact gathered.own

end MouseState

end History

end Gilbreth.Windows
