import Gilbreth.Macos.MouseState
import Gilbreth.Platforms.PointerGestures

/-!
# The macOS machine on line scrolls

Without continuous scrolls the machine is the gestures under one rule, but for the origin its
rows carry: a released gesture keeps the window it had, and a box is compared with wrapping
differences.
-/

set_option autoImplicit false

namespace Gilbreth.Macos

open Gilbreth.Core (Captured Instant MouseButton MouseWheelAxis durationMs saturatingDurationSince)
open Gilbreth.Platforms
open Gilbreth.Windows (Hypot MousePosition MouseTotals)

def gestureRule : GestureRule where
  settle _ held := held
  leaves half start finish :=
    decide (half < absDiff finish.x start.x) || decide (half < absDiff finish.y start.y)

def trailOf (pending : PendingMove) : Trail :=
  ⟨pending.startedAt, pending.lastAt, pending.totals, ⟨pending.x, pending.y⟩, pending.window⟩

def holdOf (active : ActiveButton) : Hold :=
  ⟨active.startedAt, ⟨active.start.1, active.start.2⟩, ⟨active.finish.1, active.finish.2⟩,
    active.totals, active.window, active.seedCompletedClick⟩

def tapOf (click : CompletedClick) : Tap :=
  ⟨click.button, click.downAt, ⟨click.x, click.y⟩, click.hwnd⟩

theorem wheel_units_of (tick : WheelTick) : wheelUnits tick.ticks = tick.delta := by
  have fits := tick.fits
  unfold wheelUnits WheelTick.delta
  congr 1
  omega

variable [ScrollUnits]

def gesturesOf (state : MouseState) : Gestures :=
  ⟨state.pendingMove.map trailOf, fun button => (state.active button).map holdOf,
    state.lastCompletedClick.map tapOf⟩

/-- The shared metrics, and no continuous scroll under way. -/
structure Settled (state : MouseState) : Prop where
  metrics : state.metrics = .default
  vertical : state.wheelV = none
  horizontal : state.wheelH = none

def wheelOf : MouseWheelAxis → Int32 → RawWheel
  | .vertical, lines => ⟨false, false, lines, 0, ScrollUnits.zero, ScrollUnits.zero⟩
  | .horizontal, lines => ⟨false, false, 0, lines, ScrollUnits.zero, ScrollUnits.zero⟩

def kindOf : PointerAct → RawMouseKind
  | .move dx dy _ => .moved dx dy
  | .press button => .down button
  | .release button => .up button
  | .wheel axis tick => .wheel (wheelOf axis tick.ticks)

def rawOf (input : PointerInput) : RawMouseEvent :=
  ⟨kindOf input.act, input.position.x, input.position.y, input.inputOrigin⟩

def pointerMachine [Hypot] : Machine MouseState PointerStep (List Captured) where
  step state step :=
    match step with
    | .input input =>
        let fed := state.onEvent (rawOf input) input.window input.now
        let flushed := fed.1.flushDue input.now
        (flushed.1, fed.2 ++ flushed.2)
    | .boundary => (state.resetAfterBoundary, [])

/-- A result of the machine, said of the gestures. -/
structure Shows (result : MouseState × List Captured) (shown : Gestures × List Captured) :
    Prop where
  settled : Settled result.1
  gestures : gesturesOf result.1 = shown.1
  rows : result.2.map withoutOrigin = shown.2

theorem flush_wheels_settled {state : MouseState} (settled : Settled state) :
    state.flushWheels = (state, []) := by
  have vertical : state.flushWheel .vertical = (state, []) := by
    unfold MouseState.flushWheel MouseState.wheelSlot
    simp only [settled.vertical]
  have horizontal : state.flushWheel .horizontal = (state, []) := by
    unfold MouseState.flushWheel MouseState.wheelSlot
    simp only [settled.horizontal]
  unfold MouseState.flushWheels
  simp only [vertical, horizontal, List.append_nil]

theorem flush_move_shows {state : MouseState} (settled : Settled state) :
    Shows state.flushMove (gesturesOf state).flush := by
  unfold MouseState.flushMove Gestures.flush gesturesOf
  constructor
  · exact ⟨settled.metrics, settled.vertical, settled.horizontal⟩
  · rfl
  · cases state.pendingMove <;> rfl

theorem flush_wheel_due_settled {state : MouseState} (settled : Settled state) (now : Instant)
    (axis : MouseWheelAxis) : state.flushWheelDue now axis = (state, []) := by
  have empty : state.wheelSlot axis = none := by
    cases axis with
    | vertical => exact settled.vertical
    | horizontal => exact settled.horizontal
  unfold MouseState.flushWheelDue
  rw [empty]
  rfl

theorem flush_due_shows {state : MouseState} (settled : Settled state) (now : Instant) :
    Shows (state.flushDue now) ((gesturesOf state).flushDue now) := by
  have due : (gesturesOf state).trail.any (fun trail =>
      decide (Platforms.moveFlushInterval ≤ saturatingDurationSince now trail.startedAt)) =
      state.pendingMove.any fun pending =>
        decide (moveFlushInterval ≤ saturatingDurationSince now pending.startedAt) := by
    unfold gesturesOf
    rw [Option.any_map]
    rfl
  unfold MouseState.flushDue Gestures.flushDue
  rw [due]
  cases state.pendingMove.any fun pending =>
      decide (moveFlushInterval ≤ saturatingDurationSince now pending.startedAt) with
  | true =>
      have moved := flush_move_shows settled
      simp only [if_true, flush_wheel_due_settled moved.settled, List.append_nil]
      exact moved
  | false =>
      simp only [Bool.false_eq_true, if_false, flush_wheel_due_settled settled, List.append_nil]
      exact ⟨settled, rfl, rfl⟩

theorem interval_of {state : MouseState} (settled : Settled state) (button : MouseButton)
    (input : PointerInput) :
    state.doubleClickIntervalMs button input.position.x input.position.y input.window input.now =
      (gesturesOf state).interval gestureRule button input := by
  unfold MouseState.doubleClickIntervalMs Gestures.interval gesturesOf
  rw [settled.metrics]
  cases state.lastCompletedClick with
  | none => rfl
  | some click =>
      cases input.window with
      | none =>
          simp only [Option.map_some, Option.bind_eq_bind, Option.bind_some, Option.bind_none]
          split_ifs <;> rfl
      | some window =>
          have box : gestureRule.leaves doubleClickHalf ⟨click.x, click.y⟩ input.position = false ↔
              ¬(max PointerMetrics.default.doubleClickHalf.toInt 1 <
                  absDiff input.position.x click.x ∨
                max PointerMetrics.default.doubleClickHalf.toInt 1 <
                  absDiff input.position.y click.y) := by
            rw [not_or]
            exact Bool.or_eq_false_iff.trans
              (and_congr decide_eq_false_iff_not decide_eq_false_iff_not)
          have limit : doubleClickInterval = PointerMetrics.default.doubleClickInterval := rfl
          simp only [Option.map_some, Option.bind_eq_bind, Option.bind_some, tapOf, box, limit]
          cases click.hwnd with
          | none => simp
          | some hwnd =>
              simp only [Option.bind_some, Option.some.injEq]
              grind

theorem holds_update (state : MouseState) (button : MouseButton) (active : Option ActiveButton) :
    (fun other => (Function.update state.active button active other).map holdOf) =
      Function.update (gesturesOf state).holds button (active.map holdOf) := by
  have composed := Function.comp_update (Option.map holdOf) state.active button active
  exact composed

theorem on_button_down_shows {state : MouseState} (settled : Settled state) (button : MouseButton)
    (kind : RawMouseKind) (input : PointerInput) :
    Shows
      (state.onButtonDown button ⟨kind, input.position.x, input.position.y, input.inputOrigin⟩
        input.window input.now)
      ((gesturesOf state).press gestureRule button input) := by
  unfold MouseState.onButtonDown Gestures.press
  simp only [interval_of settled]
  cases (gesturesOf state).interval gestureRule button input with
  | none =>
      constructor
      · exact ⟨settled.metrics, settled.vertical, settled.horizontal⟩
      · unfold gesturesOf
        simp only [holds_update]
        rfl
      · rfl
  | some intervalMs =>
      constructor
      · exact ⟨settled.metrics, settled.vertical, settled.horizontal⟩
      · unfold gesturesOf
        simp only [holds_update]
        rfl
      · rfl

theorem on_button_up_shows {state : MouseState} (settled : Settled state) (button : MouseButton)
    (kind : RawMouseKind) (input : PointerInput) :
    Shows
      (state.onButtonUp button ⟨kind, input.position.x, input.position.y, input.inputOrigin⟩
        input.now)
      ((gesturesOf state).release gestureRule button input) := by
  unfold MouseState.onButtonUp Gestures.release
  have found : (gesturesOf state).holds button = (state.active button).map holdOf := rfl
  rw [found]
  cases state.active button with
  | none => exact ⟨settled, rfl, rfl⟩
  | some active =>
      have dragged : (Gestures.released gestureRule (holdOf active) input).dragged gestureRule =
          ActiveButton.isDrag
            { active with
              finish := (input.position.x, input.position.y)
              inputOrigin := input.inputOrigin.or active.inputOrigin }
            state.metrics.dragHalf := by
        rw [settled.metrics]
        rfl
      have seeds : (Gestures.released gestureRule (holdOf active) input).seeds =
          active.seedCompletedClick := rfl
      simp only [Option.map_some, dragged, seeds]
      split_ifs with drag seed
      all_goals
        constructor
        · exact ⟨settled.metrics, settled.vertical, settled.horizontal⟩
        · unfold gesturesOf
          simp only [holds_update]
          rfl
        · rfl

theorem on_wheel_shows {state : MouseState} (settled : Settled state) (axis : MouseWheelAxis)
    (tick : WheelTick) (kind : RawMouseKind) (input : PointerInput) :
    Shows
      (state.onWheel (wheelOf axis tick.ticks)
        ⟨kind, input.position.x, input.position.y, input.inputOrigin⟩ input.window input.now)
      ((gesturesOf state).flush.1,
        (gesturesOf state).flush.2 ++ [Gestures.wheelRow axis tick input]) := by
  have moved := flush_move_shows settled
  have wheels := flush_wheels_settled moved.settled
  have turned : tick.ticks ≠ 0 := tick.turned
  unfold MouseState.onWheel
  cases axis with
  | vertical =>
      simp only [wheelOf, Bool.false_eq_true, if_false, wheels, MouseState.lineRow, turned, if_true,
        List.append_nil, wheel_units_of]
      refine ⟨moved.settled, moved.gestures, ?_⟩
      rw [List.map_append, moved.rows]
      rfl
  | horizontal =>
      simp only [wheelOf, Bool.false_eq_true, if_false, wheels, MouseState.lineRow, turned, if_true,
        List.append_nil, wheel_units_of]
      refine ⟨moved.settled, moved.gestures, ?_⟩
      rw [List.map_append, moved.rows]
      rfl

section Movement

variable [Hypot]

theorem record_move_shows (state : MouseState) (dx dy : Int32) (kind : RawMouseKind)
    (input : PointerInput) :
    (state.recordMove dx dy ⟨kind, input.position.x, input.position.y, input.inputOrigin⟩
        input.window input.now).pendingMove.map trailOf =
      ((gesturesOf state).move ⟨dx.toInt64, dy.toInt64⟩ input).trail := by
  unfold MouseState.recordMove Gestures.move gesturesOf
  cases state.pendingMove with
  | none => simp only [Option.map_none, Option.map_some, trailOf, ← totals_first]
  | some pending => rfl

theorem moved_shows {state : MouseState} (settled : Settled state) (dx dy : Int32)
    (input : PointerInput) :
    Shows
      (state.onEvent ⟨.moved dx dy, input.position.x, input.position.y, input.inputOrigin⟩
        input.window input.now)
      ((gesturesOf state).move ⟨dx.toInt64, dy.toInt64⟩ input, []) := by
  unfold MouseState.onEvent
  constructor
  · exact ⟨settled.metrics, settled.vertical, settled.horizontal⟩
  · have holds : (fun button => ((state.active button).map fun active => active.addMovement dx dy
        (input.position.x, input.position.y) input.inputOrigin input.window).map holdOf) =
        ((gesturesOf state).move ⟨dx.toInt64, dy.toInt64⟩ input).holds := by
      funext button
      unfold gesturesOf Gestures.move
      simp only [Option.map_map]
      rfl
    have trail := record_move_shows state dx dy (.moved dx dy) input
    unfold gesturesOf
    simp only [trail, holds]
    rfl
  · rfl

theorem on_event_shows {state : MouseState} (settled : Settled state) (input : PointerInput) :
    Shows (state.onEvent (rawOf input) input.window input.now)
      ((gesturesOf state).act gestureRule input) := by
  have moved := flush_move_shows settled
  have wheels := flush_wheels_settled moved.settled
  unfold Gestures.act rawOf kindOf
  cases input.act with
  | move dx dy moving => exact moved_shows settled dx dy input
  | press button =>
      have pressed := on_button_down_shows moved.settled button (.down button) input
      rw [moved.gestures] at pressed
      unfold MouseState.onEvent
      simp only [wheels, List.append_nil]
      refine ⟨pressed.settled, pressed.gestures, ?_⟩
      rw [List.map_append, moved.rows, pressed.rows]
  | release button =>
      have left := on_button_up_shows moved.settled button (.up button) input
      rw [moved.gestures] at left
      unfold MouseState.onEvent
      simp only [wheels, List.append_nil]
      refine ⟨left.settled, left.gestures, ?_⟩
      rw [List.map_append, moved.rows, left.rows]
  | wheel axis tick => exact on_wheel_shows settled axis tick _ input

theorem pointer_step_shows {state : MouseState} (settled : Settled state) (step : PointerStep) :
    Shows (pointerMachine.step state step)
      ((Gestures.machine gestureRule).step (gesturesOf state) step) := by
  cases step with
  | input input =>
      have fed := on_event_shows settled input
      have flushed := flush_due_shows fed.settled input.now
      rw [fed.gestures] at flushed
      refine ⟨flushed.settled, flushed.gestures, ?_⟩
      unfold pointerMachine Gestures.machine
      simp only [List.map_append, fed.rows, flushed.rows]
  | boundary => exact ⟨⟨settled.metrics, settled.vertical, settled.horizontal⟩, rfl, rfl⟩

end Movement

end Gilbreth.Macos
