import Gilbreth.Library.Simulation
import Gilbreth.Windows.MouseConservation

/-!
# What the mouse machines derive

One pointer moves, presses, releases and turns the wheel at known positions. Movement
gathers in a trail and in every held button; a release ends in a drag or leaves a tap that
the next press may double. Two things are left to a rule: the window a released gesture ends
with, and the comparison with a box around a position.
-/

set_option autoImplicit false

namespace Gilbreth.Platforms

open Gilbreth.Core (Captured EventPayload InputOrigin Instant MouseButton MouseWheelAxis WindowRef
  durationMs millisecond saturatingDurationSince)
open Windows (Hypot MouseMovement MousePosition MouseTotals VirtualScreenSnapshot)

section Steps

/-- Wheel ticks that the raw events of every platform can carry. -/
structure WheelTick where
  ticks : Int32
  turned : ticks ≠ 0
  fits : -32768 ≤ 120 * ticks.toInt ∧ 120 * ticks.toInt ≤ 32767

def WheelTick.delta (tick : WheelTick) : Int32 := Int32.ofInt (120 * tick.ticks.toInt)

inductive PointerAct where
  | move (dx dy : Int32) (moving : dx ≠ 0 ∨ dy ≠ 0)
  | press (button : MouseButton)
  | release (button : MouseButton)
  | wheel (axis : MouseWheelAxis) (tick : WheelTick)

/-- One input with what each platform looks up for it. -/
structure PointerInput where
  act : PointerAct
  position : MousePosition
  window : Option WindowRef
  now : Instant
  screen : VirtualScreenSnapshot
  inputOrigin : Option InputOrigin

/-- An input, after which what is due is flushed, or a reset at a boundary. -/
inductive PointerStep where
  | input (input : PointerInput)
  | boundary

end Steps

section Gestures

def moveFlushInterval : Nat := 250 * millisecond

def doubleClickInterval : Nat := 500 * millisecond

def doubleClickHalf : Int := 4

def dragHalf : Int := 8

/-- What the platforms may do differently. -/
structure GestureRule where
  /-- The window of a gesture released over the first window and held over the second. -/
  settle : Option WindowRef → Option WindowRef → Option WindowRef
  /-- Whether a position lies outside a box around another. -/
  leaves : Int → MousePosition → MousePosition → Bool

structure Trail where
  startedAt : Instant
  lastAt : Instant
  totals : MouseTotals
  position : MousePosition
  window : Option WindowRef
deriving DecidableEq

structure Hold where
  startedAt : Instant
  start : MousePosition
  finish : MousePosition
  totals : MouseTotals
  window : Option WindowRef
  seeds : Bool
deriving DecidableEq

structure Tap where
  button : MouseButton
  downAt : Instant
  position : MousePosition
  hwnd : Option UInt64
deriving DecidableEq

structure Gestures where
  trail : Option Trail
  holds : MouseButton → Option Hold
  tap : Option Tap

def Gestures.none : Gestures := ⟨.none, fun _ => .none, .none⟩

def mouseRow (now : Instant) (payload : EventPayload) : Captured := ⟨.mouse, now, payload⟩

def Trail.row (trail : Trail) : Captured :=
  mouseRow trail.lastAt (.mouseMove trail.totals.dxTotal trail.totals.dyTotal
    trail.totals.distancePx trail.totals.rawEventCount
    (durationMs (saturatingDurationSince trail.lastAt trail.startedAt))
    (some trail.position.x) (some trail.position.y) trail.window .none)

def Hold.dragged (hold : Hold) (rule : GestureRule) : Bool :=
  rule.leaves dragHalf hold.start hold.finish ||
    decide (dragHalf.toNat ≤ hold.totals.distancePx.toNat)

def Hold.dragRow (hold : Hold) (button : MouseButton) (now : Instant) : Captured :=
  mouseRow now (.mouseDrag button hold.totals.dxTotal hold.totals.dyTotal
    hold.totals.distancePx hold.totals.rawEventCount
    (durationMs (saturatingDurationSince now hold.startedAt)) (some hold.start.x)
    (some hold.start.y) (some hold.finish.x) (some hold.finish.y) hold.window (button == .left)
    .none)

def Hold.tap (hold : Hold) (button : MouseButton) : Tap :=
  ⟨button, hold.startedAt, hold.start, hold.window.map WindowRef.hwnd⟩

def withoutOrigin (row : Captured) : Captured :=
  { row with
    payload :=
      match row.payload with
      | .mouseClick button x y window _ => .mouseClick button x y window .none
      | .mouseDoubleClick button intervalMs x y window _ =>
          .mouseDoubleClick button intervalMs x y window .none
      | .mouseDrag button dx dy distance count duration startX startY endX endY window candidate
          _ =>
          .mouseDrag button dx dy distance count duration startX startY endX endY window candidate
            .none
      | .mouseWheel axis delta x y window _ => .mouseWheel axis delta x y window .none
      | .mouseMove dx dy distance count duration x y window _ =>
          .mouseMove dx dy distance count duration x y window .none
      | payload => payload }

theorem totals_first [Hypot] (movement : MouseMovement) :
    (⟨movement.dx, movement.dy, Hypot.distancePx movement, 1⟩ : MouseTotals) =
      MouseTotals.zero.add movement := by
  have signed (value : Int64) : Windows.saturatingAddI64 0 value = value := by
    have low := Int64.le_toInt value
    have high := Int64.toInt_lt value
    apply Int64.toInt_inj.mp
    rw [Windows.saturating_add_i64_exact]
    · simp
    · simpa using low
    · simp only [Int64.toInt_zero]
      omega
  have counted (value : UInt64) : Windows.saturatingAddU64 0 value = value := by
    have high := UInt64.toNat_lt value
    apply UInt64.toNat_inj.mp
    rw [Windows.saturating_add_u64_exact]
    · simp
    · simp only [UInt64.toNat_zero]
      omega
  unfold MouseTotals.add MouseTotals.zero
  rw [signed, signed, counted, counted]

namespace Gestures

def flush (gestures : Gestures) : Gestures × List Captured :=
  ({ gestures with trail := .none }, (gestures.trail.map Trail.row).toList)

def flushDue (gestures : Gestures) (now : Instant) : Gestures × List Captured :=
  if gestures.trail.any fun trail =>
      decide (moveFlushInterval ≤ saturatingDurationSince now trail.startedAt) then
    gestures.flush
  else (gestures, [])

/-- A movement goes into the trail and into every held button. -/
def move [Hypot] (gestures : Gestures) (movement : MouseMovement) (input : PointerInput) :
    Gestures :=
  { gestures with
    trail := some <|
      match gestures.trail with
      | some trail =>
          { trail with
            lastAt := input.now
            totals := trail.totals.add movement
            position := input.position
            window := input.window.or trail.window }
      | .none => ⟨input.now, input.now, MouseTotals.zero.add movement, input.position, input.window⟩
    holds := fun button => (gestures.holds button).map fun hold =>
      { hold with
        finish := input.position
        totals := hold.totals.add movement
        window := input.window.or hold.window } }

/-- The interval to the tap that a press doubles. -/
def interval (rule : GestureRule) (gestures : Gestures) (button : MouseButton)
    (input : PointerInput) : Option UInt64 := do
  let tap ← gestures.tap
  let elapsed := saturatingDurationSince input.now tap.downAt
  let window ← input.window
  if tap.button = button ∧ elapsed ≤ doubleClickInterval ∧ tap.hwnd = some window.hwnd ∧
      rule.leaves doubleClickHalf tap.position input.position = false then
    some (durationMs elapsed)
  else .none

def clickRow (button : MouseButton) (input : PointerInput) : Captured :=
  mouseRow input.now (.mouseClick button (some input.position.x) (some input.position.y)
    input.window .none)

def doubleClickRow (button : MouseButton) (input : PointerInput) (intervalMs : UInt64) :
    Captured :=
  mouseRow input.now (.mouseDoubleClick button intervalMs (some input.position.x)
    (some input.position.y) input.window .none)

def press (rule : GestureRule) (gestures : Gestures) (button : MouseButton)
    (input : PointerInput) : Gestures × List Captured :=
  let intervalMs := interval rule gestures button input
  let hold : Hold :=
    ⟨input.now, input.position, input.position, .zero, input.window, intervalMs.isNone⟩
  ({ gestures with
      holds := Function.update gestures.holds button (some hold)
      tap := if intervalMs.isSome then .none else gestures.tap },
    clickRow button input :: (intervalMs.map (doubleClickRow button input)).toList)

def released (rule : GestureRule) (hold : Hold) (input : PointerInput) : Hold :=
  { hold with
    finish := input.position
    window := rule.settle input.window hold.window }

def release (rule : GestureRule) (gestures : Gestures) (button : MouseButton)
    (input : PointerInput) : Gestures × List Captured :=
  match gestures.holds button with
  | .none => (gestures, [])
  | some hold =>
      let ended := released rule hold input
      let left := { gestures with holds := Function.update gestures.holds button .none }
      if ended.dragged rule then
        ({ left with tap := .none }, [ended.dragRow button input.now])
      else ({ left with tap := if ended.seeds then some (ended.tap button) else .none }, [])

def wheelRow (axis : MouseWheelAxis) (tick : WheelTick) (input : PointerInput) : Captured :=
  mouseRow input.now (.mouseWheel axis tick.delta (some input.position.x) (some input.position.y)
    input.window .none)

/-- Forgets the held buttons and the tap, not the trail. -/
def reset (gestures : Gestures) : Gestures :=
  { gestures with holds := fun _ => .none, tap := .none }

/-- One input before what is due is flushed. Presses, releases and wheels flush the trail. -/
def act [Hypot] (rule : GestureRule) (gestures : Gestures) (input : PointerInput) :
    Gestures × List Captured :=
  match input.act with
  | .move dx dy _ => (gestures.move ⟨dx.toInt64, dy.toInt64⟩ input, [])
  | .press button =>
      let pressed := press rule gestures.flush.1 button input
      (pressed.1, gestures.flush.2 ++ pressed.2)
  | .release button =>
      let left := release rule gestures.flush.1 button input
      (left.1, gestures.flush.2 ++ left.2)
  | .wheel axis tick => (gestures.flush.1, gestures.flush.2 ++ [wheelRow axis tick input])

def machine [Hypot] (rule : GestureRule) : Machine Gestures PointerStep (List Captured) where
  step gestures step :=
    match step with
    | .input input =>
        let acted := act rule gestures input
        let flushed := acted.1.flushDue input.now
        (flushed.1, acted.2 ++ flushed.2)
    | .boundary => (gestures.reset, [])

end Gestures

end Gestures

end Gilbreth.Platforms
