import Gilbreth.Platforms.PointerGestures
import Gilbreth.Windows.MouseState

/-!
# The Windows machine on known positions

One raw event says one act. The machine is then the gestures under its own rule, but for the
origin its rows carry: a released gesture takes the window of its release, and a box is
compared with exact differences.
-/

set_option autoImplicit false

namespace Gilbreth.Windows

open Gilbreth.Core (Captured InputOrigin Instant MouseButton MouseWheelAxis checkedDurationSince
  durationMs millisecond saturatingDurationSince)
open Gilbreth.Platforms

def gestureRule : GestureRule where
  settle released held := released.or held
  leaves half start finish :=
    decide (half < (finish.x.toInt - start.x.toInt).natAbs) ||
      decide (half < (finish.y.toInt - start.y.toInt).natAbs)

/-- The metrics that every platform is given here. -/
def pointerMetrics : MouseMetrics where
  moveFlushInterval := 250 * millisecond
  doubleClickInterval := 500 * millisecond
  doubleClickBox := ⟨4, 4⟩
  dragBox := ⟨8, 8⟩

section Raw

def downFlag : MouseButton → UInt16
  | .left => 0x0001
  | .right => 0x0004
  | .middle => 0x0010
  | .x1 => 0x0040
  | .x2 => 0x0100

def upFlag : MouseButton → UInt16
  | .left => 0x0002
  | .right => 0x0008
  | .middle => 0x0020
  | .x1 => 0x0080
  | .x2 => 0x0200

def wheelFlag : MouseWheelAxis → UInt16
  | .vertical => 0x0400
  | .horizontal => 0x0800

def rawEventOf : PointerAct → RawMouseEvent
  | .move dx dy _ => ⟨0, 0, 0, dx, dy⟩
  | .press button => ⟨0, downFlag button, 0, 0, 0⟩
  | .release button => ⟨0, upFlag button, 0, 0, 0⟩
  | .wheel axis tick => ⟨0, wheelFlag axis, (Int16.ofInt (120 * tick.ticks.toInt)).toUInt16, 0, 0⟩

def rawOf (input : PointerInput) : RawInput :=
  ⟨rawEventOf input.act, input.window, some input.position, input.screen, input.now⟩

theorem press_flags (button : MouseButton) :
    (rawEventOf (.press button)).downButtons = [button] ∧
      (rawEventOf (.press button)).upButtons = [] ∧
        (rawEventOf (.press button)).hasVerticalWheel = false ∧
          (rawEventOf (.press button)).hasHorizontalWheel = false := by
  cases button <;> decide

theorem release_flags (button : MouseButton) :
    (rawEventOf (.release button)).downButtons = [] ∧
      (rawEventOf (.release button)).upButtons = [button] ∧
        (rawEventOf (.release button)).hasVerticalWheel = false ∧
          (rawEventOf (.release button)).hasHorizontalWheel = false := by
  cases button <;> decide

theorem wheel_flags (axis : MouseWheelAxis) (tick : WheelTick) :
    (rawEventOf (.wheel axis tick)).downButtons = [] ∧
      (rawEventOf (.wheel axis tick)).upButtons = [] ∧
        (rawEventOf (.wheel axis tick)).hasVerticalWheel = (axis == .vertical) ∧
          (rawEventOf (.wheel axis tick)).hasHorizontalWheel = (axis == .horizontal) := by
  have known : (rawEventOf (.wheel axis tick)).buttonFlags = wheelFlag axis := rfl
  unfold RawMouseEvent.downButtons RawMouseEvent.upButtons RawMouseEvent.hasVerticalWheel
    RawMouseEvent.hasHorizontalWheel
  rw [known]
  cases axis <;> decide

theorem move_flags {dx dy : Int32} (moving : dx ≠ 0 ∨ dy ≠ 0) :
    (rawEventOf (.move dx dy moving)).downButtons = [] ∧
      (rawEventOf (.move dx dy moving)).upButtons = [] ∧
        (rawEventOf (.move dx dy moving)).hasVerticalWheel = false ∧
          (rawEventOf (.move dx dy moving)).hasHorizontalWheel = false ∧
            (rawEventOf (.move dx dy moving)).hasMovement = true := by
  have known : (rawEventOf (.move dx dy moving)).buttonFlags = 0 := rfl
  unfold RawMouseEvent.downButtons RawMouseEvent.upButtons RawMouseEvent.hasVerticalWheel
    RawMouseEvent.hasHorizontalWheel RawMouseEvent.hasMovement
  rw [known]
  refine ⟨by decide, by decide, by decide, by decide, ?_⟩
  simpa [rawEventOf] using moving

theorem wheel_delta_of (axis : MouseWheelAxis) (tick : WheelTick) :
    (rawEventOf (.wheel axis tick)).wheelDelta = tick.delta := by
  have fits := tick.fits
  unfold rawEventOf RawMouseEvent.wheelDelta WheelTick.delta
  apply Int32.toInt_inj.mp
  simp only [Int16.toInt16_toUInt16, Int16.toInt_toInt32]
  rw [Int16.toInt_ofInt_of_le (by omega) (by omega), Int32.toInt_ofInt_of_le (by omega) (by omega)]

end Raw

def pendingOf (inputOrigin : Option InputOrigin) (trail : Trail) : PendingMouseMove :=
  ⟨trail.startedAt, trail.lastAt, trail.totals, some trail.position.x, some trail.position.y,
    trail.window, inputOrigin⟩

def activeOf (button : MouseButton) (inputOrigin : Option InputOrigin) (hold : Platforms.Hold) :
    ActiveMouseButton :=
  ⟨button, hold.startedAt, some hold.start.x, some hold.start.y, some hold.finish.x,
    some hold.finish.y, hold.totals, hold.window, inputOrigin, hold.seeds⟩

def completedOf (tap : Tap) : CompletedMouseClick :=
  ⟨tap.button, tap.downAt, some tap.position.x, some tap.position.y, tap.hwnd⟩

/-- The state holds the gestures, with some origins. -/
structure ShowsGestures (state : MouseState) (gestures : Gestures) : Prop where
  metrics : state.metrics = pointerMetrics
  trail : ∃ inputOrigin, state.pendingMove = gestures.trail.map (pendingOf inputOrigin)
  holds : ∀ button, ∃ inputOrigin,
    state.activeButtons button = (gestures.holds button).map (activeOf button inputOrigin)
  tap : state.lastCompletedClick = gestures.tap.map completedOf

structure GesturesResult (result : MouseState × List Captured) (shown : Gestures × List Captured) :
    Prop where
  state : ShowsGestures result.1 shown.1
  rows : result.2.map withoutOrigin = shown.2

theorem flush_pending_shows {state : MouseState} {gestures : Gestures}
    (shows : ShowsGestures state gestures) : GesturesResult state.flushPending gestures.flush := by
  obtain ⟨inputOrigin, trail⟩ := shows.trail
  constructor
  · exact ⟨shows.metrics, ⟨none, rfl⟩, shows.holds, shows.tap⟩
  · unfold MouseState.flushPending Gestures.flush
    rw [trail]
    cases gestures.trail <;> rfl

theorem flush_due_shows {state : MouseState} {gestures : Gestures}
    (shows : ShowsGestures state gestures) (now : Instant) :
    GesturesResult (state.flushDue now) (gestures.flushDue now) := by
  obtain ⟨inputOrigin, trail⟩ := shows.trail
  unfold MouseState.flushDue Gestures.flushDue
  rw [trail, shows.metrics]
  have flushed := flush_pending_shows shows
  cases gestures.trail with
  | none => exact ⟨shows, rfl⟩
  | some trail =>
      have due :
          decide (Platforms.moveFlushInterval ≤ saturatingDurationSince now trail.startedAt) =
          !decide (saturatingDurationSince now (pendingOf inputOrigin trail).startedAt <
            pointerMetrics.moveFlushInterval) := by
        apply Bool.eq_iff_iff.mpr
        rw [Bool.not_eq_true', decide_eq_true_iff, decide_eq_false_iff_not, Nat.not_lt]
        rfl
      simp only [Option.map_some, Option.any_some, due]
      by_cases early : saturatingDurationSince now (pendingOf inputOrigin trail).startedAt <
          pointerMetrics.moveFlushInterval
      · simp only [early, if_true, decide_true, Bool.not_true, Bool.false_eq_true, if_false]
        exact ⟨shows, rfl⟩
      · simp only [early, if_false, decide_false, Bool.not_false, if_true]
        exact flushed

theorem flush_due_again (state : MouseState) (now : Instant) :
    (state.flushDue now).1.flushDue now = ((state.flushDue now).1, []) := by
  unfold MouseState.flushDue
  cases known : state.pendingMove with
  | none => simp only [known]
  | some pending =>
      by_cases early : saturatingDurationSince now pending.startedAt <
          state.metrics.moveFlushInterval
      · simp only [early, if_true, known]
      · simp only [early, if_false, MouseState.flushPending]

/-- The remembered tap is not later than the input. -/
def TapInTime (gestures : Gestures) (now : Instant) : Prop :=
  ∀ tap ∈ gestures.tap, tap.downAt.nanos ≤ now.nanos

theorem interval_of {state : MouseState} {gestures : Gestures}
    (shows : ShowsGestures state gestures)
    (button : MouseButton) (input : PointerInput) (timely : TapInTime gestures input.now) :
    state.doubleClickIntervalMs button (some input.position) input.window input.now =
      gestures.interval gestureRule button input := by
  unfold MouseState.doubleClickIntervalMs Gestures.interval
  rw [shows.tap, shows.metrics]
  cases known : gestures.tap with
  | none => rfl
  | some tap =>
      have elapsed : checkedDurationSince input.now tap.downAt =
          some (saturatingDurationSince input.now tap.downAt) := by
        exact if_pos (timely tap known)
      cases input.window with
      | none =>
          simp only [Option.map_some, Option.bind_eq_bind, Option.bind_some, Option.bind_none,
            completedOf, elapsed]
          split_ifs
          · rfl
          · rfl
          · cases tap.hwnd <;> rfl
      | some window =>
          have box : gestureRule.leaves doubleClickHalf tap.position input.position = false ↔
              pointerMetrics.doubleClickBox.contains tap.position.x tap.position.y
                input.position.x input.position.y = true :=
            Iff.of_eq (Bool.not_eq_true' _).symm
          have limit : Platforms.doubleClickInterval = pointerMetrics.doubleClickInterval := rfl
          simp only [Option.map_some, Option.bind_eq_bind, Option.bind_some, completedOf, elapsed,
            box, limit]
          cases tap.hwnd with
          | none => simp
          | some hwnd =>
              simp only [Option.bind_some, Option.some.injEq]
              grind

theorem holds_update {state : MouseState} {gestures : Gestures}
    (shows : ShowsGestures state gestures) (button : MouseButton) (inputOrigin : Option InputOrigin)
    (hold : Option Platforms.Hold) (other : MouseButton) : ∃ shown,
      Function.update state.activeButtons button (hold.map (activeOf button inputOrigin)) other =
        (Function.update gestures.holds button hold other).map (activeOf other shown) := by
  by_cases same : other = button
  · refine ⟨inputOrigin, ?_⟩
    rw [same, Function.update_self, Function.update_self]
  · obtain ⟨kept, holds⟩ := shows.holds other
    refine ⟨kept, ?_⟩
    rw [Function.update_of_ne same, Function.update_of_ne same, holds]

theorem press_shows {state : MouseState} {gestures : Gestures}
    (shows : ShowsGestures state gestures)
    (rows : List Captured) (button : MouseButton) (inputOrigin : Option InputOrigin)
    (input : PointerInput) (timely : TapInTime gestures input.now) :
    GesturesResult (MouseState.pressButton (rawOf input) inputOrigin (state, rows) button)
      ((gestures.press gestureRule button input).1,
        rows.map withoutOrigin ++ (gestures.press gestureRule button input).2) := by
  have interval := interval_of shows button input timely
  unfold MouseState.pressButton Gestures.press rawOf
  simp only [interval]
  have held (interval : Option UInt64) := holds_update shows button inputOrigin
    (some ⟨input.now, input.position, input.position, .zero, input.window, interval.isNone⟩)
  cases gestures.interval gestureRule button input with
  | none =>
      refine ⟨⟨shows.metrics, shows.trail, held none, shows.tap⟩, ?_⟩
      rw [List.map_append]
      rfl
  | some intervalMs =>
      refine ⟨⟨shows.metrics, shows.trail, held (some intervalMs), rfl⟩, ?_⟩
      rw [List.map_append]
      rfl

theorem release_shows {state : MouseState} {gestures : Gestures}
    (shows : ShowsGestures state gestures) (rows : List Captured) (button : MouseButton)
    (inputOrigin : Option InputOrigin) (input : PointerInput) :
    GesturesResult (MouseState.releaseButton (rawOf input) inputOrigin (state, rows) button)
      ((gestures.release gestureRule button input).1,
        rows.map withoutOrigin ++ (gestures.release gestureRule button input).2) := by
  have dropped := holds_update shows button inputOrigin none
  obtain ⟨kept, holds⟩ := shows.holds button
  unfold MouseState.releaseButton Gestures.release
  simp only [holds]
  cases gestures.holds button with
  | none => exact ⟨shows, (List.append_nil _).symm⟩
  | some hold =>
      have dragged : (ActiveMouseButton.finish (activeOf button kept hold) input.window
          (some input.position) inputOrigin).isDrag state.metrics.dragBox =
          (Gestures.released gestureRule hold input).dragged gestureRule := by
        rw [shows.metrics]
        rfl
      have seeds : (ActiveMouseButton.finish (activeOf button kept hold) input.window
          (some input.position) inputOrigin).seedCompletedClick =
          (Gestures.released gestureRule hold input).seeds := rfl
      simp only [Option.map_some]
      unfold rawOf
      simp only [dragged, seeds]
      split_ifs with drag seed
      · refine ⟨⟨shows.metrics, shows.trail, dropped, rfl⟩, ?_⟩
        rw [List.map_append]
        rfl
      · exact ⟨⟨shows.metrics, shows.trail, dropped, rfl⟩, (List.append_nil _).symm⟩
      · exact ⟨⟨shows.metrics, shows.trail, dropped, rfl⟩, (List.append_nil _).symm⟩

theorem positioned_shows {state : MouseState} {gestures : Gestures}
    (shows : ShowsGestures state gestures) (input : PointerInput)
    (cursor : Option MousePosition) :
    ShowsGestures
      { (state.updateInputOrigin (rawEventOf input.act) (some input.position) input.screen).1 with
        lastCursorPosition := cursor }
      gestures := by
  obtain ⟨pending, buttons, click, metrics⟩ := update_input_origin_frame state
    (rawEventOf input.act) (some input.position) input.screen
  constructor
  · exact metrics.trans shows.metrics
  · rw [pending]
    exact shows.trail
  · rw [buttons]
    exact shows.holds
  · exact click.trans shows.tap

section Movement

variable [Hypot]

theorem moved_still {state : MouseState} {gestures : Gestures}
    (shows : ShowsGestures state gestures)
    {input : PointerInput} (still : (rawEventOf input.act).hasMovement = false) :
    ShowsGestures (state.moved (rawOf input)) gestures := by
  unfold MouseState.moved MouseState.delta rawOf
  simp only [still, Bool.false_eq_true, if_false]
  exact positioned_shows shows input _

theorem record_shows {state : MouseState} {gestures : Gestures}
    (shows : ShowsGestures state gestures)
    (movement : MouseMovement) (input : PointerInput) (inputOrigin : Option InputOrigin) :
    ShowsGestures (state.record movement (rawOf input) inputOrigin)
      (gestures.move movement input) := by
  constructor
  · exact shows.metrics
  · obtain ⟨kept, trail⟩ := shows.trail
    unfold MouseState.record Gestures.move rawOf
    simp only [trail]
    cases gestures.trail with
    | none =>
        refine ⟨inputOrigin.or none, ?_⟩
        simp [PendingMouseMove.new, PendingMouseMove.add, pendingOf]
    | some trail => exact ⟨inputOrigin.or kept, rfl⟩
  · intro button
    obtain ⟨kept, holds⟩ := shows.holds button
    unfold MouseState.record Gestures.move rawOf
    simp only [holds]
    cases gestures.holds button with
    | none => exact ⟨none, rfl⟩
    | some hold => exact ⟨inputOrigin.or kept, rfl⟩
  · exact shows.tap

theorem moved_by {state : MouseState} {gestures : Gestures} (shows : ShowsGestures state gestures)
    {dx dy : Int32} {moving : dx ≠ 0 ∨ dy ≠ 0} {input : PointerInput}
    (act : input.act = .move dx dy moving) :
    ShowsGestures (state.moved (rawOf input)) (gestures.move ⟨dx.toInt64, dy.toInt64⟩ input) := by
  have turned := (move_flags moving).2.2.2.2
  have relative : (rawEventOf (.move dx dy moving)).isAbsoluteMovement = false := by
    have known : (rawEventOf (.move dx dy moving)).flags = 0 := rfl
    unfold RawMouseEvent.isAbsoluteMovement
    rw [known]
    decide
  have found : state.delta (rawOf input) = some ⟨dx.toInt64, dy.toInt64⟩ := by
    unfold MouseState.delta MouseState.movementDelta rawOf
    simp only [act, turned, relative, if_true, Bool.false_eq_true, if_false]
    rfl
  unfold MouseState.moved
  rw [found]
  exact record_shows (positioned_shows shows input _) _ input _

theorem on_raw_mouse_shows {state : MouseState} {gestures : Gestures}
    (shows : ShowsGestures state gestures) {input : PointerInput}
    (still : (rawEventOf input.act).hasMovement = false)
    (timely : TapInTime gestures input.now) :
    GesturesResult (state.onRawMouse (rawOf input)) (gestures.act gestureRule input) := by
  have flushed := flush_pending_shows (moved_still shows still)
  unfold MouseState.onRawMouse Gestures.act
  cases act : input.act with
  | move dx dy moving =>
      rw [act, (move_flags moving).2.2.2.2] at still
      exact Bool.noConfusion still
  | press button =>
      have flags := press_flags button
      have raw : (rawOf input).raw = rawEventOf (.press button) := by
        rw [← act]
        rfl
      have discrete : (rawEventOf (.press button)).hasDiscreteInput = true := by
        unfold RawMouseEvent.hasDiscreteInput
        rw [flags.1]
        rfl
      have pressed := press_shows flushed.state (state.moved (rawOf input)).flushPending.2 button
        (state.updateInputOrigin (rawOf input).raw (rawOf input).position (rawOf input).screen).2
        input timely
      rw [flushed.rows, raw] at pressed
      simp only [raw, discrete, flags.1, flags.2.1, MouseState.wheelRows, flags.2.2.1,
        flags.2.2.2, if_true, List.foldl_cons, List.foldl_nil, Bool.false_eq_true, if_false,
        List.append_nil]
      exact pressed
  | release button =>
      have flags := release_flags button
      have raw : (rawOf input).raw = rawEventOf (.release button) := by
        rw [← act]
        rfl
      have discrete : (rawEventOf (.release button)).hasDiscreteInput = true := by
        unfold RawMouseEvent.hasDiscreteInput
        rw [flags.1, flags.2.1]
        rfl
      have left := release_shows flushed.state (state.moved (rawOf input)).flushPending.2 button
        (state.updateInputOrigin (rawOf input).raw (rawOf input).position (rawOf input).screen).2
        input
      rw [flushed.rows, raw] at left
      simp only [raw, discrete, flags.1, flags.2.1, MouseState.wheelRows, flags.2.2.1,
        flags.2.2.2, if_true, List.foldl_cons, List.foldl_nil, Bool.false_eq_true, if_false,
        List.append_nil]
      exact left
  | wheel axis tick =>
      have flags := wheel_flags axis tick
      have raw : (rawOf input).raw = rawEventOf (.wheel axis tick) := by
        rw [← act]
        rfl
      have discrete : (rawEventOf (.wheel axis tick)).hasDiscreteInput = true := by
        unfold RawMouseEvent.hasDiscreteInput
        rw [flags.1, flags.2.1, flags.2.2.1, flags.2.2.2]
        cases axis <;> rfl
      simp only [raw, discrete, flags.1, flags.2.1, MouseState.wheelRows, flags.2.2.1,
        flags.2.2.2, if_true, List.foldl_nil, wheel_delta_of]
      refine ⟨flushed.state, ?_⟩
      rw [List.map_append, flushed.rows]
      cases axis <;> rfl

theorem on_raw_mouse_moves {state : MouseState} {dx dy : Int32} {moving : dx ≠ 0 ∨ dy ≠ 0}
    {input : PointerInput} (act : input.act = .move dx dy moving) :
    state.onRawMouse (rawOf input) = (state.moved (rawOf input)).flushDue input.now := by
  have flags := move_flags moving
  have quiet : (rawEventOf (.move dx dy moving)).hasDiscreteInput = false := by
    unfold RawMouseEvent.hasDiscreteInput
    rw [flags.1, flags.2.1, flags.2.2.1, flags.2.2.2.1]
    rfl
  have raw : (rawOf input).raw = rawEventOf (.move dx dy moving) := by
    rw [← act]
    rfl
  unfold MouseState.onRawMouse
  simp only [raw, quiet, flags.1, flags.2.1, MouseState.wheelRows, flags.2.2.1, flags.2.2.2.1,
    Bool.false_eq_true, if_false, List.foldl_nil, List.append_nil]
  rfl

def pointerMachine : Machine MouseState PointerStep (List Captured) where
  step state step :=
    match step with
    | .input input =>
        let fed := state.onRawMouse (rawOf input)
        let flushed := fed.1.flushDue input.now
        (flushed.1, fed.2 ++ flushed.2)
    | .boundary => (state.resetAfterBoundary, [])

theorem pointer_step_shows {state : MouseState} {gestures : Gestures}
    (shows : ShowsGestures state gestures) (step : PointerStep)
    (timely : ∀ input, step = .input input → TapInTime gestures input.now) :
    GesturesResult (pointerMachine.step state step)
      ((Gestures.machine gestureRule).step gestures step) := by
  cases step with
  | boundary => exact ⟨⟨shows.metrics, shows.trail, fun _ => ⟨none, rfl⟩, rfl⟩, rfl⟩
  | input input =>
      have now := timely input rfl
      unfold pointerMachine Gestures.machine
      simp only
      by_cases still : (rawEventOf input.act).hasMovement = false
      · have fed := on_raw_mouse_shows shows still now
        have flushed := flush_due_shows fed.state input.now
        refine ⟨flushed.state, ?_⟩
        rw [List.map_append, fed.rows, flushed.rows]
      · cases act : input.act with
        | press button =>
            rw [act] at still
            exact absurd rfl still
        | release button =>
            rw [act] at still
            exact absurd rfl still
        | wheel axis tick =>
            rw [act] at still
            exact absurd rfl still
        | move dx dy moving =>
            have flushed := flush_due_shows (moved_by shows act) input.now
            rw [on_raw_mouse_moves act, flush_due_again]
            unfold Gestures.act
            rw [act]
            refine ⟨flushed.state, ?_⟩
            rw [List.append_nil, flushed.rows]
            rfl

end Movement

end Gilbreth.Windows
