import Gilbreth.Windows.MouseState

/-!
# Mouse rows on macOS

One `CGEvent` is a movement, a press, a release or a scroll. Line scrolls are rows at once;
continuous scrolls gather by axis in floating point, which is a parameter, and are flushed with
the movement. Positions are always known.
-/

set_option autoImplicit false

namespace Gilbreth.Macos

open Gilbreth.Core (Captured EventPayload InputOrigin Instant MouseButton MouseWheelAxis WindowRef
  durationMs millisecond saturatingDurationSince)
open Gilbreth.Windows (Hypot MousePosition MouseTotals)

/-- The fixed-point deltas of a continuous scroll, as floating point. -/
class ScrollUnits where
  Fixed : Type
  zero : Fixed
  isZero : Fixed → Bool
  add : Fixed → Fixed → Fixed
  /-- `(total * f64::from(WHEEL_UNIT)).round() as i32`. -/
  units : Fixed → Int32

def moveFlushInterval : Nat := 250 * millisecond

/-- `line.saturating_mul(WHEEL_UNIT)`. -/
def wheelUnits (line : Int32) : Int32 :=
  Int32.ofInt (max (-2147483648) (min 2147483647 (line.toInt * 120)))

/-- The metrics a state is made with; the interval in nanoseconds. -/
structure PointerMetrics where
  doubleClickInterval : Nat
  doubleClickHalf : Int32
  dragHalf : Int32
deriving DecidableEq

def PointerMetrics.default : PointerMetrics := ⟨500 * millisecond, 4, 8⟩

/-- `(left - right).abs()` on `i32`, which wraps. -/
def absDiff (left right : Int32) : Int := (left - right).abs.toInt

section Kinds

variable [ScrollUnits]

structure RawWheel where
  continuous : Bool
  momentum : Bool
  lineV : Int32
  lineH : Int32
  fixedV : ScrollUnits.Fixed
  fixedH : ScrollUnits.Fixed

inductive RawMouseKind where
  | down (button : MouseButton)
  | up (button : MouseButton)
  | moved (dx dy : Int32)
  | wheel (wheel : RawWheel)

structure RawMouseEvent where
  kind : RawMouseKind
  x : Int32
  y : Int32
  inputOrigin : Option InputOrigin

structure PendingMove where
  startedAt : Instant
  lastAt : Instant
  totals : MouseTotals
  x : Int32
  y : Int32
  inputOrigin : Option InputOrigin
  window : Option WindowRef

structure ActiveButton where
  startedAt : Instant
  start : Int32 × Int32
  finish : Int32 × Int32
  totals : MouseTotals
  inputOrigin : Option InputOrigin
  window : Option WindowRef
  seedCompletedClick : Bool

structure CompletedClick where
  button : MouseButton
  downAt : Instant
  x : Int32
  y : Int32
  hwnd : Option UInt64

structure WheelAccum where
  startedAt : Instant
  total : ScrollUnits.Fixed
  x : Int32
  y : Int32
  inputOrigin : Option InputOrigin
  window : Option WindowRef

structure MouseState where
  metrics : PointerMetrics
  pendingMove : Option PendingMove
  /-- `HashMap<MouseButton, ActiveButton>`. -/
  active : MouseButton → Option ActiveButton
  lastCompletedClick : Option CompletedClick
  wheelV : Option WheelAccum
  wheelH : Option WheelAccum

end Kinds

namespace ActiveButton

def addMovement [Hypot] (active : ActiveButton) (dx dy : Int32) (finish : Int32 × Int32)
    (inputOrigin : Option InputOrigin) (window : Option WindowRef) : ActiveButton :=
  { active with
    totals := active.totals.add ⟨dx.toInt64, dy.toInt64⟩
    finish := finish
    inputOrigin := inputOrigin.or active.inputOrigin
    window := window.or active.window }

def isDrag (active : ActiveButton) (dragHalf : Int32) : Bool :=
  let half := max dragHalf.toInt 1
  decide (half < absDiff active.finish.1 active.start.1) ||
    decide (half < absDiff active.finish.2 active.start.2) ||
    decide (half.toNat ≤ active.totals.distancePx.toNat)

def intoDrag (active : ActiveButton) (button : MouseButton) (endedAt : Instant) : Captured :=
  ⟨.mouse, endedAt,
    .mouseDrag button active.totals.dxTotal active.totals.dyTotal active.totals.distancePx
      active.totals.rawEventCount (durationMs (saturatingDurationSince endedAt active.startedAt))
      (some active.start.1) (some active.start.2) (some active.finish.1) (some active.finish.2)
      active.window (button == .left) active.inputOrigin⟩

end ActiveButton

namespace MouseState

variable [ScrollUnits]

def new (metrics : PointerMetrics) : MouseState :=
  ⟨metrics, none, fun _ => none, none, none, none⟩

def flushMove (state : MouseState) : MouseState × List Captured :=
  ({ state with pendingMove := none },
    (state.pendingMove.map fun pending => (⟨.mouse, pending.lastAt,
      .mouseMove pending.totals.dxTotal pending.totals.dyTotal pending.totals.distancePx
        pending.totals.rawEventCount
        (durationMs (saturatingDurationSince pending.lastAt pending.startedAt))
        (some pending.x) (some pending.y) pending.window pending.inputOrigin⟩ : Captured)).toList)

def wheelSlot (state : MouseState) : MouseWheelAxis → Option WheelAccum
  | .vertical => state.wheelV
  | .horizontal => state.wheelH

def setWheelSlot (state : MouseState) (slot : Option WheelAccum) : MouseWheelAxis → MouseState
  | .vertical => { state with wheelV := slot }
  | .horizontal => { state with wheelH := slot }

/-- A sum that rounds to nothing is dropped. -/
def flushWheel (state : MouseState) (axis : MouseWheelAxis) : MouseState × List Captured :=
  match state.wheelSlot axis with
  | none => (state, [])
  | some accum =>
      (state.setWheelSlot none axis,
        if ScrollUnits.units accum.total = 0 then []
        else
          [⟨.mouse, accum.startedAt,
            .mouseWheel axis (ScrollUnits.units accum.total) (some accum.x) (some accum.y)
              accum.window accum.inputOrigin⟩])

def flushWheels (state : MouseState) : MouseState × List Captured :=
  let vertical := state.flushWheel .vertical
  let horizontal := vertical.1.flushWheel .horizontal
  (horizontal.1, vertical.2 ++ horizontal.2)

/-- One axis of `flush_due`. -/
def flushWheelDue (state : MouseState) (now : Instant) (axis : MouseWheelAxis) :
    MouseState × List Captured :=
  if (state.wheelSlot axis).any fun accum =>
      decide (moveFlushInterval ≤ saturatingDurationSince now accum.startedAt) then
    state.flushWheel axis
  else (state, [])

def flushDue (state : MouseState) (now : Instant) : MouseState × List Captured :=
  let moved :=
    if state.pendingMove.any fun pending =>
        decide (moveFlushInterval ≤ saturatingDurationSince now pending.startedAt) then
      state.flushMove
    else (state, [])
  let vertical := moved.1.flushWheelDue now .vertical
  let horizontal := vertical.1.flushWheelDue now .horizontal
  (horizontal.1, moved.2 ++ vertical.2 ++ horizontal.2)

def resetAfterBoundary (state : MouseState) : MouseState :=
  { state with active := fun _ => none, lastCompletedClick := none }

def recordMove [Hypot] (state : MouseState) (dx dy : Int32) (raw : RawMouseEvent)
    (window : Option WindowRef) (now : Instant) : MouseState :=
  { state with
    pendingMove := some <|
      match state.pendingMove with
      | some pending =>
          { pending with
            lastAt := now
            totals := pending.totals.add ⟨dx.toInt64, dy.toInt64⟩
            x := raw.x
            y := raw.y
            inputOrigin := raw.inputOrigin.or pending.inputOrigin
            window := window.or pending.window }
      | none =>
          ⟨now, now, ⟨dx.toInt64, dy.toInt64, Hypot.distancePx ⟨dx.toInt64, dy.toInt64⟩, 1⟩,
            raw.x, raw.y, raw.inputOrigin, window⟩ }

def doubleClickIntervalMs (state : MouseState) (button : MouseButton) (x y : Int32)
    (window : Option WindowRef) (now : Instant) : Option UInt64 := do
  let prev ← state.lastCompletedClick
  if prev.button ≠ button then none
  else
    let elapsed := saturatingDurationSince now prev.downAt
    if state.metrics.doubleClickInterval < elapsed then none
    else
      let window ← window
      let hwnd ← prev.hwnd
      if hwnd ≠ window.hwnd then none
      else
        let half := max state.metrics.doubleClickHalf.toInt 1
        if half < absDiff x prev.x ∨ half < absDiff y prev.y then none
        else some (durationMs elapsed)

def onButtonDown (state : MouseState) (button : MouseButton) (raw : RawMouseEvent)
    (window : Option WindowRef) (now : Instant) : MouseState × List Captured :=
  let intervalMs := state.doubleClickIntervalMs button raw.x raw.y window now
  let active : ActiveButton :=
    ⟨now, (raw.x, raw.y), (raw.x, raw.y), .zero, raw.inputOrigin, window, intervalMs.isNone⟩
  let held : MouseState :=
    { state with active := Function.update state.active button (some active) }
  let click : Captured :=
    ⟨.mouse, now, .mouseClick button (some raw.x) (some raw.y) window raw.inputOrigin⟩
  match intervalMs with
  | none => (held, [click])
  | some intervalMs =>
      ({ held with lastCompletedClick := none },
        [click, ⟨.mouse, now,
          .mouseDoubleClick button intervalMs (some raw.x) (some raw.y) window raw.inputOrigin⟩])

/-- The window of the release is not looked at. -/
def onButtonUp (state : MouseState) (button : MouseButton) (raw : RawMouseEvent) (now : Instant) :
    MouseState × List Captured :=
  match state.active button with
  | none => (state, [])
  | some active =>
      let removed : MouseState := { state with active := Function.update state.active button none }
      let ended : ActiveButton :=
        { active with
          finish := (raw.x, raw.y)
          inputOrigin := raw.inputOrigin.or active.inputOrigin }
      if ended.isDrag state.metrics.dragHalf then
        ({ removed with lastCompletedClick := none }, [ended.intoDrag button now])
      else if ended.seedCompletedClick then
        ({ removed with
            lastCompletedClick := some ⟨button, ended.startedAt, ended.start.1, ended.start.2,
              ended.window.map WindowRef.hwnd⟩ }, [])
      else ({ removed with lastCompletedClick := none }, [])

def accumulateContinuous (state : MouseState) (axis : MouseWheelAxis) (fixed : ScrollUnits.Fixed)
    (raw : RawMouseEvent) (window : Option WindowRef) (now : Instant) : MouseState :=
  if ScrollUnits.isZero fixed then state
  else
    match state.wheelSlot axis with
    | some accum =>
        state.setWheelSlot
          (some { accum with
            total := ScrollUnits.add accum.total fixed
            x := raw.x
            y := raw.y
            inputOrigin := raw.inputOrigin.or accum.inputOrigin
            window := window.or accum.window }) axis
    | none =>
        state.setWheelSlot (some ⟨now, fixed, raw.x, raw.y, raw.inputOrigin, window⟩) axis

def lineRow (axis : MouseWheelAxis) (line : Int32) (raw : RawMouseEvent)
    (window : Option WindowRef) (now : Instant) : List Captured :=
  if line = 0 then []
  else [⟨.mouse, now,
    .mouseWheel axis (wheelUnits line) (some raw.x) (some raw.y) window raw.inputOrigin⟩]

def onWheel (state : MouseState) (wheel : RawWheel) (raw : RawMouseEvent)
    (window : Option WindowRef) (now : Instant) : MouseState × List Captured :=
  if wheel.momentum then (state, [])
  else if wheel.continuous then
    let vertical := state.accumulateContinuous .vertical wheel.fixedV raw window now
    (vertical.accumulateContinuous .horizontal wheel.fixedH raw window now, [])
  else
    let moved := state.flushMove
    let wheels := moved.1.flushWheels
    (wheels.1, moved.2 ++ wheels.2 ++ lineRow .vertical wheel.lineV raw window now ++
      lineRow .horizontal wheel.lineH raw window now)

def onEvent [Hypot] (state : MouseState) (raw : RawMouseEvent) (window : Option WindowRef)
    (now : Instant) : MouseState × List Captured :=
  match raw.kind with
  | .moved dx dy =>
      let recorded := state.recordMove dx dy raw window now
      ({ recorded with
          active := fun button => (state.active button).map fun active =>
            active.addMovement dx dy (raw.x, raw.y) raw.inputOrigin window }, [])
  | .down button =>
      let moved := state.flushMove
      let wheels := moved.1.flushWheels
      let pressed := wheels.1.onButtonDown button raw window now
      (pressed.1, moved.2 ++ wheels.2 ++ pressed.2)
  | .up button =>
      let moved := state.flushMove
      let wheels := moved.1.flushWheels
      let left := wheels.1.onButtonUp button raw now
      (left.1, moved.2 ++ wheels.2 ++ left.2)
  | .wheel wheel => state.onWheel wheel raw window now

end MouseState

end Gilbreth.Macos
