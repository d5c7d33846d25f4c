import Gilbreth.Linux.MouseState
import Gilbreth.Platforms.PointerGestures

/-!
# The Linux machine on known positions

With a position for every event the machine is the gestures under one rule: a released gesture
keeps the window it had, and a box is compared with wrapping differences.
-/

set_option autoImplicit false

namespace Gilbreth.Linux

open Gilbreth.Core (Captured Instant MouseButton durationMs saturatingDurationSince)
open Gilbreth.Platforms
open Gilbreth.Windows (Hypot MousePosition MouseTotals)

def gestureRule : GestureRule where
  settle _ held := held
  leaves half start finish :=
    decide (half < absDiff finish.x start.x) || decide (half < absDiff finish.y start.y)

def pendingOf (trail : Trail) : PendingMove :=
  ⟨trail.startedAt, trail.lastAt, trail.totals, some trail.position, trail.window⟩

def activeOf (hold : Hold) : ActiveButton :=
  ⟨hold.startedAt, some hold.start, some hold.finish, hold.totals, hold.window, hold.seeds⟩

def completedOf (tap : Tap) : CompletedClick :=
  ⟨tap.button, tap.downAt, some tap.position, tap.hwnd⟩

def stateOf (gestures : Gestures) : MouseState :=
  ⟨gestures.trail.map pendingOf, fun button => (gestures.holds button).map activeOf,
    gestures.tap.map completedOf⟩

def kindOf : PointerAct → RawMouseKind
  | .move dx dy _ => .moved dx dy
  | .press button => .down button
  | .release button => .up button
  | .wheel axis tick => .wheel axis tick.ticks

def pointerMachine [Hypot] : Machine MouseState PointerStep (List Captured) where
  step state step :=
    match step with
    | .input input =>
        let fed := state.onEvent ⟨kindOf input.act, some input.position⟩ input.window input.now
        let flushed := fed.1.flushDue input.now
        (flushed.1, fed.2 ++ flushed.2)
    | .boundary => (state.resetAfterBoundary, [])

theorem flush_move_of (gestures : Gestures) :
    (stateOf gestures).flushMove = (stateOf gestures.flush.1, gestures.flush.2) := by
  unfold MouseState.flushMove Gestures.flush stateOf
  cases gestures.trail <;> rfl

theorem flush_due_of (gestures : Gestures) (now : Instant) :
    (stateOf gestures).flushDue now =
      (stateOf (gestures.flushDue now).1, (gestures.flushDue now).2) := by
  have due : ((stateOf gestures).pendingMove.any fun pending =>
      decide (moveFlushInterval ≤ saturatingDurationSince now pending.startedAt)) =
      gestures.trail.any fun trail =>
        decide (Platforms.moveFlushInterval ≤ saturatingDurationSince now trail.startedAt) := by
    unfold stateOf
    rw [Option.any_map]
    rfl
  unfold MouseState.flushDue Gestures.flushDue
  rw [due]
  split
  · exact flush_move_of gestures
  · rfl

theorem interval_of (gestures : Gestures) (button : MouseButton) (input : PointerInput) :
    (stateOf gestures).doubleClickIntervalMs button (some input.position) input.window input.now =
      gestures.interval gestureRule button input := by
  unfold MouseState.doubleClickIntervalMs Gestures.interval stateOf
  cases gestures.tap with
  | none => rfl
  | some tap =>
      cases input.window with
      | none =>
          simp only [Option.map_some, Option.bind_eq_bind, Option.bind_some, Option.bind_none]
          split_ifs <;> rfl
      | some window =>
          have box : gestureRule.leaves doubleClickHalf tap.position input.position = false ↔
              ¬(doubleClickHalfPx < absDiff input.position.x tap.position.x ∨
                doubleClickHalfPx < absDiff input.position.y tap.position.y) := by
            rw [not_or]
            exact Bool.or_eq_false_iff.trans
              (and_congr decide_eq_false_iff_not decide_eq_false_iff_not)
          have limit : Platforms.doubleClickInterval = doubleClickInterval := rfl
          simp only [Option.map_some, Option.bind_eq_bind, Option.bind_some, completedOf, box,
            limit]
          cases tap.hwnd with
          | none => simp
          | some hwnd =>
              simp only [Option.bind_some, Option.some.injEq]
              grind

theorem active_update (gestures : Gestures) (button : MouseButton) (hold : Option Hold) :
    Function.update (stateOf gestures).active button (hold.map activeOf) =
      fun other => (Function.update gestures.holds button hold other).map activeOf := by
  have composed := Function.comp_update (Option.map activeOf) gestures.holds button hold
  exact composed.symm

theorem on_button_down_of (gestures : Gestures) (button : MouseButton) (input : PointerInput) :
    (stateOf gestures).onButtonDown button (some input.position) input.window input.now =
      (stateOf (gestures.press gestureRule button input).1,
        (gestures.press gestureRule button input).2) := by
  unfold MouseState.onButtonDown Gestures.press
  rw [interval_of]
  have held (hold : Hold) := active_update gestures button (some hold)
  cases gestures.interval gestureRule button input with
  | none => simp [stateOf, ← held, activeOf, Gestures.clickRow, mouseRow]
  | some intervalMs =>
      simp [stateOf, ← held, activeOf, Gestures.clickRow, Gestures.doubleClickRow, mouseRow]

theorem on_button_up_of (gestures : Gestures) (button : MouseButton) (input : PointerInput) :
    (stateOf gestures).onButtonUp button (some input.position) input.now =
      (stateOf (gestures.release gestureRule button input).1,
        (gestures.release gestureRule button input).2) := by
  unfold MouseState.onButtonUp Gestures.release
  have dropped : Function.update (stateOf gestures).active button none =
      fun other => (Function.update gestures.holds button none other).map activeOf :=
    active_update gestures button none
  have found : (stateOf gestures).active button = (gestures.holds button).map activeOf := rfl
  rw [found, dropped]
  cases gestures.holds button with
  | none => rfl
  | some hold =>
      have dragged : ActiveButton.isDrag { activeOf hold with finish := some input.position } =
          (Gestures.released gestureRule hold input).dragged gestureRule := rfl
      simp only [Option.map_some, Option.some_or, dragged]
      split
      · rfl
      · have seeds : (Gestures.released gestureRule hold input).seeds = hold.seeds := rfl
        rw [seeds]
        change (if hold.seeds = true then _ else _) = _
        cases hold.seeds <;> rfl

theorem wheel_units_of (tick : WheelTick) : wheelUnits tick.ticks = tick.delta := by
  have fits := tick.fits
  unfold wheelUnits WheelTick.delta
  congr 1
  omega

section Movement

variable [Hypot]

theorem record_move_of (gestures : Gestures) (dx dy : Int32) (input : PointerInput) :
    (stateOf gestures).recordMove dx dy (some input.position) input.window input.now =
      { stateOf gestures with
        pendingMove := (gestures.move ⟨dx.toInt64, dy.toInt64⟩ input).trail.map pendingOf } := by
  unfold MouseState.recordMove Gestures.move
  have trail : (stateOf gestures).pendingMove = gestures.trail.map pendingOf := rfl
  rw [trail]
  cases gestures.trail with
  | none =>
      simp only [Option.map_none, Option.map_some, pendingOf, ← totals_first]
  | some trail => rfl

theorem moved_of (gestures : Gestures) (dx dy : Int32) (input : PointerInput) :
    (stateOf gestures).onEvent ⟨.moved dx dy, some input.position⟩ input.window input.now =
      (stateOf (gestures.move ⟨dx.toInt64, dy.toInt64⟩ input), []) := by
  unfold MouseState.onEvent
  simp only [record_move_of]
  unfold stateOf
  congr 2
  funext button
  unfold Gestures.move
  simp only [Option.map_map]
  rfl

theorem on_event_of (gestures : Gestures) (input : PointerInput) :
    (stateOf gestures).onEvent ⟨kindOf input.act, some input.position⟩ input.window input.now =
      (stateOf (gestures.act gestureRule input).1, (gestures.act gestureRule input).2) := by
  unfold Gestures.act
  cases input.act with
  | move dx dy moving => exact moved_of gestures dx dy input
  | press button =>
      unfold MouseState.onEvent kindOf
      simp only [flush_move_of, on_button_down_of]
  | release button =>
      unfold MouseState.onEvent kindOf
      simp only [flush_move_of, on_button_up_of]
  | wheel axis tick =>
      unfold MouseState.onEvent kindOf
      simp only [tick.turned, if_false, flush_move_of, wheel_units_of]
      rfl

theorem pointer_step_of (gestures : Gestures) (step : PointerStep) :
    pointerMachine.step (stateOf gestures) step =
      (stateOf ((Gestures.machine gestureRule).step gestures step).1,
        ((Gestures.machine gestureRule).step gestures step).2) := by
  cases step with
  | input input =>
      have fed := on_event_of gestures input
      simp only [pointerMachine, Gestures.machine, fed, flush_due_of]
  | boundary => rfl

end Movement

end Gilbreth.Linux
