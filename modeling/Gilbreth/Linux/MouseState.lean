import Gilbreth.Windows.MouseState

/-!
# Mouse rows on Linux

One raw X event is a movement, a press, a release or a wheel tick. Its position comes from a
query that may fail; an unknown position is stored as absent and doubles no click.
-/

set_option autoImplicit false

namespace Gilbreth.Linux

open Gilbreth.Core (Captured EventPayload Instant MouseButton MouseWheelAxis WindowRef durationMs
  millisecond saturatingDurationSince)
open Gilbreth.Windows (Hypot MousePosition MouseTotals)

/-- `MOVE_FLUSH_INTERVAL`, `DOUBLE_CLICK_MS`, `DOUBLE_CLICK_HALF_PX` and `DRAG_HALF_PX`. -/
def moveFlushInterval : Nat := 250 * millisecond

def doubleClickInterval : Nat := 500 * millisecond

def doubleClickHalfPx : Int := 4

def dragHalfPx : Int := 8

/-- `ticks.saturating_mul(WHEEL_UNIT)`. -/
def wheelUnits (ticks : Int32) : Int32 :=
  Int32.ofInt (max (-2147483648) (min 2147483647 (ticks.toInt * 120)))

/-- `(left - right).abs()` on `i32`, which wraps. -/
def absDiff (left right : Int32) : Int := (left - right).abs.toInt

inductive RawMouseKind where
  | down (button : MouseButton)
  | up (button : MouseButton)
  | moved (dx dy : Int32)
  | wheel (axis : MouseWheelAxis) (ticks : Int32)

structure RawMouseEvent where
  kind : RawMouseKind
  pos : Option MousePosition

structure PendingMove where
  startedAt : Instant
  lastAt : Instant
  totals : MouseTotals
  pos : Option MousePosition
  window : Option WindowRef

structure ActiveButton where
  startedAt : Instant
  start : Option MousePosition
  finish : Option MousePosition
  totals : MouseTotals
  window : Option WindowRef
  seedCompletedClick : Bool

structure CompletedClick where
  button : MouseButton
  downAt : Instant
  pos : Option MousePosition
  hwnd : Option UInt64

structure MouseState where
  pendingMove : Option PendingMove
  /-- `HashMap<MouseButton, ActiveButton>`. -/
  active : MouseButton → Option ActiveButton
  lastCompletedClick : Option CompletedClick

namespace ActiveButton

def addMovement [Hypot] (active : ActiveButton) (dx dy : Int32) (finish : Option MousePosition)
    (window : Option WindowRef) : ActiveButton :=
  { active with
    totals := active.totals.add ⟨dx.toInt64, dy.toInt64⟩
    finish := finish.or active.finish
    window := window.or active.window }

/-- With an unknown position the path length decides alone. -/
def isDrag (active : ActiveButton) : Bool :=
  (match active.start, active.finish with
    | some start, some finish =>
        decide (dragHalfPx < absDiff finish.x start.x) ||
          decide (dragHalfPx < absDiff finish.y start.y)
    | _, _ => false) ||
    decide (dragHalfPx.toNat ≤ active.totals.distancePx.toNat)

def intoDrag (active : ActiveButton) (button : MouseButton) (endedAt : Instant) : Captured :=
  ⟨.mouse, endedAt,
    .mouseDrag button active.totals.dxTotal active.totals.dyTotal active.totals.distancePx
      active.totals.rawEventCount (durationMs (saturatingDurationSince endedAt active.startedAt))
      (active.start.map MousePosition.x) (active.start.map MousePosition.y)
      (active.finish.map MousePosition.x) (active.finish.map MousePosition.y) active.window
      (button == .left) none⟩

end ActiveButton

namespace MouseState

def new : MouseState := ⟨none, fun _ => none, none⟩

def flushMove (state : MouseState) : MouseState × List Captured :=
  ({ state with pendingMove := none },
    (state.pendingMove.map fun pending => (⟨.mouse, pending.lastAt,
      .mouseMove pending.totals.dxTotal pending.totals.dyTotal pending.totals.distancePx
        pending.totals.rawEventCount
        (durationMs (saturatingDurationSince pending.lastAt pending.startedAt))
        (pending.pos.map MousePosition.x) (pending.pos.map MousePosition.y) pending.window
        none⟩ : Captured)).toList)

def flushDue (state : MouseState) (now : Instant) : MouseState × List Captured :=
  if state.pendingMove.any fun pending =>
      decide (moveFlushInterval ≤ saturatingDurationSince now pending.startedAt) then
    state.flushMove
  else (state, [])

def resetAfterBoundary (state : MouseState) : MouseState :=
  { state with active := fun _ => none, lastCompletedClick := none }

def recordMove [Hypot] (state : MouseState) (dx dy : Int32) (pos : Option MousePosition)
    (window : Option WindowRef) (now : Instant) : MouseState :=
  { state with
    pendingMove := some <|
      match state.pendingMove with
      | some pending =>
          { pending with
            lastAt := now
            totals := pending.totals.add ⟨dx.toInt64, dy.toInt64⟩
            pos := pos.or pending.pos
            window := window.or pending.window }
      | none =>
          ⟨now, now, ⟨dx.toInt64, dy.toInt64, Hypot.distancePx ⟨dx.toInt64, dy.toInt64⟩, 1⟩, pos,
            window⟩ }

def doubleClickIntervalMs (state : MouseState) (button : MouseButton)
    (pos : Option MousePosition) (window : Option WindowRef) (now : Instant) : Option UInt64 := do
  let prev ← state.lastCompletedClick
  if prev.button ≠ button then none
  else
    let elapsed := saturatingDurationSince now prev.downAt
    if doubleClickInterval < elapsed then none
    else
      let window ← window
      let hwnd ← prev.hwnd
      if hwnd ≠ window.hwnd then none
      else
        let pos ← pos
        let prevPos ← prev.pos
        if doubleClickHalfPx < absDiff pos.x prevPos.x ∨
            doubleClickHalfPx < absDiff pos.y prevPos.y then none
        else some (durationMs elapsed)

def onButtonDown (state : MouseState) (button : MouseButton) (pos : Option MousePosition)
    (window : Option WindowRef) (now : Instant) : MouseState × List Captured :=
  let intervalMs := state.doubleClickIntervalMs button pos window now
  let active : ActiveButton := ⟨now, pos, pos, .zero, window, intervalMs.isNone⟩
  let held : MouseState :=
    { state with active := Function.update state.active button (some active) }
  let x := pos.map MousePosition.x
  let y := pos.map MousePosition.y
  let click : Captured := ⟨.mouse, now, .mouseClick button x y window none⟩
  match intervalMs with
  | none => (held, [click])
  | some intervalMs =>
      ({ held with lastCompletedClick := none },
        [click, ⟨.mouse, now, .mouseDoubleClick button intervalMs x y window none⟩])

/-- The window of the release is not looked at. -/
def onButtonUp (state : MouseState) (button : MouseButton) (pos : Option MousePosition)
    (now : Instant) : MouseState × List Captured :=
  match state.active button with
  | none => (state, [])
  | some active =>
      let removed : MouseState := { state with active := Function.update state.active button none }
      let ended : ActiveButton := { active with finish := pos.or active.finish }
      if ended.isDrag then
        ({ removed with lastCompletedClick := none }, [ended.intoDrag button now])
      else if ended.seedCompletedClick then
        ({ removed with
            lastCompletedClick := some ⟨button, ended.startedAt, ended.start,
              ended.window.map WindowRef.hwnd⟩ }, [])
      else ({ removed with lastCompletedClick := none }, [])

def onEvent [Hypot] (state : MouseState) (raw : RawMouseEvent) (window : Option WindowRef)
    (now : Instant) : MouseState × List Captured :=
  match raw.kind with
  | .moved dx dy =>
      let recorded := state.recordMove dx dy raw.pos window now
      ({ recorded with
          active := fun button => (state.active button).map fun active =>
            active.addMovement dx dy raw.pos window }, [])
  | .down button =>
      let moved := state.flushMove
      let pressed := moved.1.onButtonDown button raw.pos window now
      (pressed.1, moved.2 ++ pressed.2)
  | .up button =>
      let moved := state.flushMove
      let left := moved.1.onButtonUp button raw.pos now
      (left.1, moved.2 ++ left.2)
  | .wheel axis ticks =>
      if ticks = 0 then (state, [])
      else
        let moved := state.flushMove
        (moved.1, moved.2 ++ [⟨.mouse, now,
          .mouseWheel axis (wheelUnits ticks) (raw.pos.map MousePosition.x)
            (raw.pos.map MousePosition.y) window none⟩])

end MouseState

end Gilbreth.Linux
