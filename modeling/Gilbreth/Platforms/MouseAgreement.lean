import Gilbreth.Linux.MouseGestures
import Gilbreth.Macos.MouseGestures
import Gilbreth.Windows.MouseGestures

/-!
# The mouse machines beside one another

macOS and Linux follow one rule. Windows follows another: its comparisons agree wherever
positions are close enough for `i32`, and its released gestures end with another window unless
the release comes from the window the gesture has.
-/

set_option autoImplicit false

namespace Gilbreth.Platforms

open Gilbreth.Core (Captured Instant MouseButton WindowRef saturatingDurationSince)
open Windows (Hypot MouseMovement MousePosition)

section Order

def inputsOf (steps : List PointerStep) : List PointerInput :=
  steps.filterMap fun step =>
    match step with
    | .input input => some input
    | .boundary => none

def InOrder (steps : List PointerStep) : Prop :=
  (inputsOf steps).Pairwise fun earlier later => earlier.now.nanos ≤ later.now.nanos

/-- The differences of two positions, either way, fit `i32`. -/
def Near (first second : MousePosition) : Prop :=
  (first.x.toInt - second.x.toInt).natAbs ≤ 2147483647 ∧
    (first.y.toInt - second.y.toInt).natAbs ≤ 2147483647

def DifferencesFit (steps : List PointerStep) : Prop :=
  ∀ first ∈ inputsOf steps, ∀ second ∈ inputsOf steps, Near first.position second.position

end Order

section Rules

theorem abs_diff_near {left right : Int32} (near : (right.toInt - left.toInt).natAbs ≤ 2147483647) :
    Linux.absDiff left right = (left.toInt - right.toInt).natAbs := by
  have bounds : (left - right).toInt = left.toInt - right.toInt := by
    rw [Int32.toInt_sub]
    apply Int.bmod_eq_of_le <;> omega
  unfold Linux.absDiff
  have absolute : (left - right).abs.toInt = (left - right).toInt.natAbs := by
    change (left - right).toBitVec.abs.toInt = _
    rw [BitVec.toInt_abs_eq_natAbs, if_neg]
    · rfl
    · intro least
      have value : (left - right).toInt = -2147483648 := by
        change (left - right).toBitVec.toInt = _
        rw [least]
        decide
      omega
  rw [absolute, bounds]

theorem leaves_near (half : Int) {start finish : MousePosition} (near : Near start finish) :
    Windows.gestureRule.leaves half start finish = Linux.gestureRule.leaves half start finish := by
  unfold Windows.gestureRule Linux.gestureRule
  simp only [abs_diff_near near.1, abs_diff_near near.2]

/-- A release leaves its gesture the window it has, as far as its end shows a window. -/
def Gestures.KeepsWindow (gestures : Gestures) (step : PointerStep) : Prop :=
  ∀ input button, step = .input input → input.act = .release button →
    ∀ hold ∈ gestures.holds button, ∀ window ∈ input.window,
      if Hold.dragged { hold with finish := input.position } Linux.gestureRule then
        hold.window = some window
      else hold.seeds = true → hold.window.map WindowRef.hwnd = some window.hwnd

theorem press_agrees {gestures : Gestures} {input : PointerInput} (button : MouseButton)
    (near : ∀ tap ∈ gestures.tap, Near tap.position input.position) :
    gestures.press Windows.gestureRule button input =
      gestures.press Linux.gestureRule button input := by
  have interval : gestures.interval Windows.gestureRule button input =
      gestures.interval Linux.gestureRule button input := by
    unfold Gestures.interval
    cases known : gestures.tap with
    | none => rfl
    | some tap =>
        simp only [Option.bind_eq_bind, Option.bind_some,
          leaves_near doubleClickHalf (near tap known)]
  unfold Gestures.press
  rw [interval]

theorem release_agrees {gestures : Gestures} {input : PointerInput} {button : MouseButton}
    (near : ∀ hold ∈ gestures.holds button, Near hold.start input.position)
    (keeps : ∀ hold ∈ gestures.holds button, ∀ window ∈ input.window,
      if Hold.dragged { hold with finish := input.position } Linux.gestureRule then
        hold.window = some window
      else hold.seeds = true → hold.window.map WindowRef.hwnd = some window.hwnd) :
    gestures.release Windows.gestureRule button input =
      gestures.release Linux.gestureRule button input := by
  unfold Gestures.release
  cases held : gestures.holds button with
  | none => rfl
  | some hold =>
      have dragged : (Gestures.released Windows.gestureRule hold input).dragged
          Windows.gestureRule =
          (Gestures.released Linux.gestureRule hold input).dragged Linux.gestureRule := by
        have leaves := leaves_near dragHalf (near hold held)
        unfold Hold.dragged Gestures.released
        simp only [leaves]
      have kept := keeps hold held
      simp only [dragged]
      cases arrived : input.window with
      | none =>
          have same : Gestures.released Windows.gestureRule hold input =
              Gestures.released Linux.gestureRule hold input := by
            unfold Gestures.released Windows.gestureRule Linux.gestureRule
            simp only [arrived, Option.none_or]
          rw [same]
      | some window =>
          have condition := kept window arrived
          have drag : Hold.dragged { hold with finish := input.position } Linux.gestureRule =
              (Gestures.released Linux.gestureRule hold input).dragged Linux.gestureRule := rfl
          rw [drag] at condition
          cases ended : (Gestures.released Linux.gestureRule hold input).dragged
              Linux.gestureRule with
          | true =>
              rw [ended, if_pos rfl] at condition
              have same : Gestures.released Windows.gestureRule hold input =
                  Gestures.released Linux.gestureRule hold input := by
                unfold Gestures.released Windows.gestureRule Linux.gestureRule
                simp only [arrived, condition, Option.some_or]
              rw [same]
          | false =>
              rw [ended, if_neg Bool.false_ne_true] at condition
              have seeded : (Gestures.released Windows.gestureRule hold input).seeds = hold.seeds ∧
                  (Gestures.released Linux.gestureRule hold input).seeds = hold.seeds := ⟨rfl, rfl⟩
              simp only [Bool.false_eq_true, if_false, seeded.1, seeded.2]
              cases seeds : hold.seeds with
              | false => rfl
              | true =>
                  have same : (Gestures.released Windows.gestureRule hold input).tap button =
                      (Gestures.released Linux.gestureRule hold input).tap button := by
                    unfold Hold.tap Gestures.released Windows.gestureRule Linux.gestureRule
                    simp only [arrived, Option.some_or, Option.map_some, condition seeds]
                  rw [same]

end Rules

section Remembered

namespace Gestures

/-- What the gestures remember of a press: where it was and when. -/
structure Remembers (gestures : Gestures) (known : MousePosition → Instant → Prop) : Prop where
  holds : ∀ button, ∀ hold ∈ gestures.holds button, known hold.start hold.startedAt
  tap : ∀ tap ∈ gestures.tap, known tap.position tap.downAt

variable {known : MousePosition → Instant → Prop}

theorem Remembers.mono {gestures : Gestures} {wider : MousePosition → Instant → Prop}
    (remembers : gestures.Remembers known)
    (weaker : ∀ position instant, known position instant → wider position instant) :
    gestures.Remembers wider where
  holds button hold held := weaker _ _ (remembers.holds button hold held)
  tap left tapped := weaker _ _ (remembers.tap left tapped)

theorem flush_due_remembers {gestures : Gestures} (remembers : gestures.Remembers known)
    (now : Instant) : (gestures.flushDue now).1.Remembers known := by
  unfold flushDue
  split
  · exact ⟨remembers.holds, remembers.tap⟩
  · exact remembers

theorem press_remembers {gestures : Gestures} (remembers : gestures.Remembers known)
    (rule : GestureRule) (button : MouseButton) {input : PointerInput}
    (fresh : known input.position input.now) :
    (gestures.press rule button input).1.Remembers known := by
  unfold press
  constructor
  · intro other hold held
    by_cases same : other = button
    · simp only [same, Function.update_self, Option.mem_some_iff] at held
      rw [← held]
      exact fresh
    · simp only [Function.update_of_ne same] at held
      exact remembers.holds other hold held
  · intro tap remembered
    dsimp only at remembered
    split at remembered
    · cases remembered
    · exact remembers.tap tap remembered

theorem release_remembers {gestures : Gestures} (remembers : gestures.Remembers known)
    (rule : GestureRule) (button : MouseButton) (input : PointerInput) :
    (gestures.release rule button input).1.Remembers known := by
  have others (tap : Option Tap) (kept : ∀ left ∈ tap, known left.position left.downAt) :
      Remembers { gestures with
        holds := Function.update gestures.holds button .none
        tap := tap } known := by
    constructor
    · intro other hold held
      by_cases same : other = button
      · simp only [same, Function.update_self, Option.not_mem_none] at held
      · simp only [Function.update_of_ne same] at held
        exact remembers.holds other hold held
    · exact kept
  unfold release
  cases held : gestures.holds button with
  | none => exact remembers
  | some hold =>
      have pressed := remembers.holds button hold held
      dsimp only
      split
      · exact others .none (fun left remembered => by cases remembered)
      · apply others
        intro left remembered
        split at remembered
        · cases remembered
          exact pressed
        · cases remembered

theorem move_remembers [Hypot] {gestures : Gestures} (remembers : gestures.Remembers known)
    (movement : MouseMovement) (input : PointerInput) :
    (gestures.move movement input).Remembers known := by
  unfold move
  constructor
  · intro button hold moved
    obtain ⟨before, held, rfl⟩ := Option.map_eq_some_iff.mp moved
    exact remembers.holds button before held
  · exact remembers.tap

theorem step_remembers [Hypot] {gestures : Gestures} (remembers : gestures.Remembers known)
    (rule : GestureRule) {step : PointerStep}
    (fresh : ∀ input, step = .input input → known input.position input.now) :
    ((machine rule).step gestures step).1.Remembers known := by
  have flushed : gestures.flush.1.Remembers known := ⟨remembers.holds, remembers.tap⟩
  cases step with
  | boundary =>
      constructor
      · intro button hold held
        cases held
      · intro tap remembered
        cases remembered
  | input input =>
      have acted : (gestures.act rule input).1.Remembers known := by
        unfold act
        cases input.act with
        | move dx dy moving => exact move_remembers remembers _ input
        | press button => exact press_remembers flushed rule button (fresh input rfl)
        | release button => exact release_remembers flushed rule button input
        | wheel axis tick => exact flushed
      exact flush_due_remembers acted input.now

end Gestures

end Remembered

section Runs

/-- A release comes from the window its gesture has: from that very window when it ends a drag,
from one with its handle when it leaves a click to be doubled. -/
def KeepsWindow (state : Linux.MouseState) (step : PointerStep) : Prop :=
  ∀ input button, step = .input input → input.act = .release button →
    ∀ active ∈ state.active button, ∀ window ∈ input.window,
      if Linux.ActiveButton.isDrag { active with finish := some input.position } then
        active.window = some window
      else active.seedCompletedClick = true →
        active.window.map WindowRef.hwnd = some window.hwnd

theorem keeps_window_of (gestures : Gestures) (step : PointerStep) :
    KeepsWindow (Linux.stateOf gestures) step ↔ gestures.KeepsWindow step := by
  unfold KeepsWindow Gestures.KeepsWindow
  have found (button : MouseButton) :
      (Linux.stateOf gestures).active button = (gestures.holds button).map Linux.activeOf := rfl
  simp only [found, Option.forall_mem_map]
  rfl

variable [Hypot]

theorem step_agrees {gestures : Gestures} {step : PointerStep}
    (near : ∀ input, step = .input input →
      gestures.Remembers fun position _ => Near position input.position)
    (keeps : gestures.KeepsWindow step) :
    (Gestures.machine Windows.gestureRule).step gestures step =
      (Gestures.machine Linux.gestureRule).step gestures step := by
  cases step with
  | boundary => rfl
  | input input =>
      have close := near input rfl
      have acted : gestures.act Windows.gestureRule input =
          gestures.act Linux.gestureRule input := by
        unfold Gestures.act
        cases act : input.act with
        | move dx dy moving => rfl
        | press button =>
            have pressed : gestures.flush.1.press Windows.gestureRule button input =
                gestures.flush.1.press Linux.gestureRule button input :=
              press_agrees button close.tap
            simp only [pressed]
        | release button =>
            have left : gestures.flush.1.release Windows.gestureRule button input =
                gestures.flush.1.release Linux.gestureRule button input :=
              release_agrees (close.holds button) (keeps input button rfl act)
            simp only [left]
        | wheel axis tick => rfl
      unfold Gestures.machine
      simp only [acted]

/-- What is remembered is not later than the inputs to come and near their positions. -/
structure Ahead (gestures : Gestures) (rest : List PointerStep) : Prop where
  remembers : gestures.Remembers fun position instant =>
    ∀ input ∈ inputsOf rest, instant.nanos ≤ input.now.nanos ∧ Near position input.position
  ordered : InOrder rest
  fit : DifferencesFit rest
  keeps : (Gestures.machine Linux.gestureRule).AllSteps Gestures.KeepsWindow gestures rest

/-- A step on which the two rules agree. -/
structure Agreeable (gestures : Gestures) (step : PointerStep) : Prop where
  remembers : ∀ input, step = .input input → gestures.Remembers fun position instant =>
    instant.nanos ≤ input.now.nanos ∧ Near position input.position
  keeps : gestures.KeepsWindow step

theorem ahead_step {gestures : Gestures} {step : PointerStep} {rest : List PointerStep}
    (ahead : Ahead gestures (step :: rest)) :
    Agreeable gestures step ∧
      Ahead ((Gestures.machine Linux.gestureRule).step gestures step).1 rest := by
  cases step with
  | boundary =>
      constructor
      · exact ⟨fun _ is => PointerStep.noConfusion is, ahead.keeps.1⟩
      · refine ⟨?_, ahead.ordered, ahead.fit, ahead.keeps.2⟩
        apply Gestures.step_remembers ahead.remembers Linux.gestureRule
        intro _ is
        exact PointerStep.noConfusion is
  | input input =>
      have listed : inputsOf (.input input :: rest) = input :: inputsOf rest := rfl
      have ordered := ahead.ordered
      have fit := ahead.fit
      have remembers := ahead.remembers
      unfold InOrder at ordered
      unfold DifferencesFit at fit
      rw [listed] at ordered fit remembers
      have later := List.pairwise_cons.mp ordered
      constructor
      · refine ⟨?_, ahead.keeps.1⟩
        rintro other ⟨⟩
        exact remembers.mono fun position instant known => known input List.mem_cons_self
      · refine ⟨?_, later.2, ?_, ahead.keeps.2⟩
        · apply Gestures.step_remembers (remembers.mono fun position instant known other member =>
            known other (List.mem_cons_of_mem input member))
          rintro other ⟨⟩ next member
          exact ⟨later.1 next member,
            fit input List.mem_cons_self next (List.mem_cons_of_mem input member)⟩
        · intro first member second among
          exact fit first (List.mem_cons_of_mem input member) second
            (List.mem_cons_of_mem input among)

theorem agreeable_along {gestures : Gestures} (steps : List PointerStep)
    (start : Ahead gestures steps) :
    (Gestures.machine Linux.gestureRule).AllSteps Agreeable gestures steps :=
  Machine.all_steps_of_invariant _ Ahead Agreeable (fun _ _ _ => ahead_step) steps start

theorem windows_shows_linux {state : Windows.MouseState} {gestures : Gestures}
    (steps : List PointerStep) (shows : Windows.ShowsGestures state gestures)
    (start : Ahead gestures steps) :
    (Windows.pointerMachine.outputs state steps).map (List.map withoutOrigin) =
      (Gestures.machine Linux.gestureRule).outputs gestures steps := by
  refine (Machine.shows_along Windows.pointerMachine (Gestures.machine Linux.gestureRule)
    Windows.ShowsGestures (List.map withoutOrigin) Agreeable ?_ steps shows
    (agreeable_along steps start)).2
  intro before shade step related agreeable
  have shown := Windows.pointer_step_shows related step
    (fun input is tap tapped => ((agreeable.remembers input is).tap tap tapped).1)
  have same : (Gestures.machine Windows.gestureRule).step shade step =
      (Gestures.machine Linux.gestureRule).step shade step :=
    step_agrees (fun input is => (agreeable.remembers input is).mono fun _ _ known => known.2)
      agreeable.keeps
  rw [same] at shown
  exact ⟨shown.state, shown.rows⟩

theorem macos_shows_linux [Macos.ScrollUnits] {state : Macos.MouseState}
    (settled : Macos.Settled state) (steps : List PointerStep) :
    (Macos.pointerMachine.outputs state steps).map (List.map withoutOrigin) =
      (Gestures.machine Linux.gestureRule).outputs (Macos.gesturesOf state) steps := by
  apply Machine.outputs_shown Macos.pointerMachine (Gestures.machine Linux.gestureRule)
    (fun before shade => Macos.Settled before ∧ Macos.gesturesOf before = shade)
    (List.map withoutOrigin) _ steps ⟨settled, rfl⟩
  rintro before shade step ⟨kept, rfl⟩
  have shown := Macos.pointer_step_shows kept step
  exact ⟨⟨shown.settled, shown.gestures⟩, shown.rows⟩

theorem linux_shows (gestures : Gestures) (steps : List PointerStep) :
    Linux.pointerMachine.outputs (Linux.stateOf gestures) steps =
      (Gestures.machine Linux.gestureRule).outputs gestures steps := by
  have shown : (Linux.pointerMachine.outputs (Linux.stateOf gestures) steps).map id =
      (Gestures.machine Linux.gestureRule).outputs gestures steps := by
    apply Machine.outputs_shown _ _ (fun before shade => before = Linux.stateOf shade) id _ steps
      rfl
    rintro before shade step rfl
    rw [Linux.pointer_step_of]
    exact ⟨rfl, rfl⟩
  rwa [List.map_id] at shown

theorem keeps_window_along (steps : List PointerStep) :
    Linux.pointerMachine.AllSteps KeepsWindow .new steps ↔
      (Gestures.machine Linux.gestureRule).AllSteps Gestures.KeepsWindow .none steps := by
  apply Machine.all_steps_shown _ _ (fun before shade => before = Linux.stateOf shade)
  · rintro before shade step rfl
    exact keeps_window_of shade step
  · rintro before shade step rfl
    rw [Linux.pointer_step_of]
  · rfl

theorem macos_rows_are_linux_rows [Macos.ScrollUnits] (steps : List PointerStep) :
    (Macos.pointerMachine.outputs (.new .default) steps).map (List.map withoutOrigin) =
      Linux.pointerMachine.outputs .new steps :=
  (macos_shows_linux ⟨rfl, rfl, rfl⟩ steps).trans (linux_shows .none steps).symm

theorem mouse_machines_agree [Macos.ScrollUnits] (steps : List PointerStep)
    (ordered : InOrder steps) (fit : DifferencesFit steps)
    (kept : Linux.pointerMachine.AllSteps KeepsWindow .new steps) :
    (Windows.pointerMachine.outputs (.new Windows.pointerMetrics) steps).map
        (List.map withoutOrigin) = Linux.pointerMachine.outputs .new steps ∧
      (Macos.pointerMachine.outputs (.new .default) steps).map (List.map withoutOrigin) =
        Linux.pointerMachine.outputs .new steps := by
  have shows : Windows.ShowsGestures (.new Windows.pointerMetrics) .none :=
    ⟨rfl, ⟨none, rfl⟩, fun _ => ⟨none, rfl⟩, rfl⟩
  have forgetful : Gestures.none.Remembers fun position instant => ∀ input ∈ inputsOf steps,
      instant.nanos ≤ input.now.nanos ∧ Near position input.position := by
    constructor
    · intro button hold held
      cases held
    · intro tap tapped
      cases tapped
  have ahead : Ahead .none steps := ⟨forgetful, ordered, fit, (keeps_window_along steps).mp kept⟩
  have windows := windows_shows_linux steps shows ahead
  exact ⟨windows.trans (linux_shows .none steps).symm, macos_rows_are_linux_rows steps⟩

end Runs

private abbrev levelDistance : Hypot :=
  ⟨fun movement => UInt64.ofNat (max movement.dx.toInt.natAbs movement.dy.toInt.natAbs)⟩

private abbrev wholeLines : Macos.ScrollUnits :=
  ⟨Int32, 0, fun lines => lines == 0, fun left right => left + right, fun lines => lines * 120⟩

private def deskInput (act : PointerAct) (x : Int32) (hwnd : UInt64) (nanos : Int) :
    PointerInput :=
  ⟨act, ⟨x, 10⟩, some ⟨hwnd, "app.exe", "", 1⟩, ⟨nanos⟩, ⟨0, 0, 640, 480⟩, none⟩

/-- A double click, then a drag that moves into another window before it is released. -/
private def deskSteps : List PointerStep :=
  [.input (deskInput (.press .left) 0 1 0), .input (deskInput (.release .left) 0 1 5),
    .input (deskInput (.press .left) 0 1 9),
    .input (deskInput (.move 40 0 (.inl (by decide))) 40 2 20),
    .input (deskInput (.release .left) 40 2 30),
    .input (deskInput (.wheel .vertical ⟨-1, by decide, by decide⟩) 40 2 40), .boundary]

theorem mouse_machines_agree_on_a_drag :
    ((@Windows.pointerMachine levelDistance).outputs (.new Windows.pointerMetrics) deskSteps).map
        (List.map withoutOrigin) =
      (@Linux.pointerMachine levelDistance).outputs .new deskSteps ∧
    ((@Macos.pointerMachine wholeLines levelDistance).outputs
        (@Macos.MouseState.new wholeLines .default) deskSteps).map (List.map withoutOrigin) =
      (@Linux.pointerMachine levelDistance).outputs .new deskSteps := by
  apply @mouse_machines_agree levelDistance wholeLines deskSteps
  · unfold InOrder
    decide
  · unfold DifferencesFit Near
    decide
  · refine ⟨?_, ?_, ?_, ?_, ?_, ?_, ?_, trivial⟩
    · rintro input button ⟨⟩ ⟨⟩
    · rintro input button ⟨⟩ ⟨⟩ active ⟨⟩ window ⟨⟩
      decide
    · rintro input button ⟨⟩ ⟨⟩
    · rintro input button ⟨⟩ ⟨⟩
    · rintro input button ⟨⟩ ⟨⟩ active ⟨⟩ window ⟨⟩
      decide
    · rintro input button ⟨⟩ ⟨⟩
    · rintro input button ⟨⟩

private def firstPress : PointerInput := deskInput (.press .left) 0 1 0

private def otherRelease : PointerInput := deskInput (.release .left) 0 2 5

private def otherPress : PointerInput := deskInput (.press .left) 0 2 9

/-- A click released in another window is doubled there by Windows alone. -/
theorem double_click_on_windows_alone :
    InOrder [.input firstPress, .input otherRelease, .input otherPress] ∧
    DifferencesFit [.input firstPress, .input otherRelease, .input otherPress] ∧
    (@Windows.pointerMachine levelDistance).outputs (.new Windows.pointerMetrics)
        [.input firstPress, .input otherRelease, .input otherPress] =
      [[Gestures.clickRow .left firstPress], [],
        [Gestures.clickRow .left otherPress, Gestures.doubleClickRow .left otherPress 0]] ∧
    (@Linux.pointerMachine levelDistance).outputs .new
        [.input firstPress, .input otherRelease, .input otherPress] =
      [[Gestures.clickRow .left firstPress], [], [Gestures.clickRow .left otherPress]] := by
  refine ⟨?_, ?_, by decide, by decide⟩
  · unfold InOrder
    decide
  · unfold DifferencesFit Near
    decide

end Gilbreth.Platforms
