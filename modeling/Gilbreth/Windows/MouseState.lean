import Gilbreth.Core.Event
import Gilbreth.Library.Machine

/-!
# Mouse rows

A raw event may move, press, turn the wheel and release at once. Movement gathers in one
pending row and in every held button; a short click is remembered for the next press of the
same button. The rounded length of a movement is floating point and a parameter.
-/

set_option autoImplicit false

namespace Gilbreth.Windows

open Core (Captured Instant InputOrigin MouseButton MouseWheelAxis WindowRef durationMs
  millisecond saturatingDurationSince checkedDurationSince)

structure MouseMovement where
  dx : Int64
  dy : Int64
deriving DecidableEq

/-- `MouseMovement::distance_px`, a rounded `hypot`. -/
class Hypot where
  distancePx : MouseMovement → UInt64

structure MousePosition where
  x : Int32
  y : Int32
deriving DecidableEq

structure RawMouseEvent where
  flags : UInt16
  buttonFlags : UInt16
  buttonData : UInt16
  lastX : Int32
  lastY : Int32
deriving DecidableEq

structure VirtualScreenSnapshot where
  x0 : Int32
  y0 : Int32
  width : Int32
  height : Int32
deriving DecidableEq

/-- `i32::saturating_add` of a half. -/
def saturatingMiddle (origin length : Int32) : Int32 :=
  Int32.ofInt (max (-2147483648) (min 2147483647 (origin.toInt + length.toInt.tdiv 2)))

def VirtualScreenSnapshot.center (screen : VirtualScreenSnapshot) : MousePosition :=
  ⟨saturatingMiddle screen.x0 screen.width, saturatingMiddle screen.y0 screen.height⟩

namespace RawMouseEvent

/-- `RI_MOUSE_*_DOWN`. -/
def downFlags : List (UInt16 × MouseButton) :=
  [(0x0001, .left), (0x0004, .right), (0x0010, .middle), (0x0040, .x1), (0x0100, .x2)]

/-- `RI_MOUSE_*_UP`. -/
def upFlags : List (UInt16 × MouseButton) :=
  [(0x0002, .left), (0x0008, .right), (0x0020, .middle), (0x0080, .x1), (0x0200, .x2)]

def downButtons (raw : RawMouseEvent) : List MouseButton :=
  downFlags.filterMap fun entry =>
    if raw.buttonFlags &&& entry.1 ≠ 0 then some entry.2 else none

def upButtons (raw : RawMouseEvent) : List MouseButton :=
  upFlags.filterMap fun entry =>
    if raw.buttonFlags &&& entry.1 ≠ 0 then some entry.2 else none

/-- `RI_MOUSE_WHEEL` and `RI_MOUSE_HWHEEL`. -/
def hasVerticalWheel (raw : RawMouseEvent) : Bool := decide (raw.buttonFlags &&& 0x0400 ≠ 0)

def hasHorizontalWheel (raw : RawMouseEvent) : Bool := decide (raw.buttonFlags &&& 0x0800 ≠ 0)

def hasDiscreteInput (raw : RawMouseEvent) : Bool :=
  !raw.downButtons.isEmpty || !raw.upButtons.isEmpty || raw.hasVerticalWheel ||
    raw.hasHorizontalWheel

def hasMovement (raw : RawMouseEvent) : Bool := raw.lastX != 0 || raw.lastY != 0

/-- `MOUSE_MOVE_ABSOLUTE`. -/
def isAbsoluteMovement (raw : RawMouseEvent) : Bool := decide (raw.flags &&& 1 ≠ 0)

def wheelDelta (raw : RawMouseEvent) : Int32 := raw.buttonData.toInt16.toInt32

end RawMouseEvent

def isVirtualScreenCenter (position : MousePosition) (screen : VirtualScreenSnapshot) : Bool :=
  position == screen.center

def remoteRelaySignature (raw : RawMouseEvent) (position previousPosition : Option MousePosition)
    (screen : VirtualScreenSnapshot) : Bool :=
  if !raw.hasMovement || raw.isAbsoluteMovement then false
  else
    match position, previousPosition with
    | some position, some previousPosition =>
        position == previousPosition && isVirtualScreenCenter position screen
    | _, _ => false

def remoteRelayPinnedCenterSamples : Nat := 2

structure MouseBox where
  halfWidth : Int32
  halfHeight : Int32
deriving DecidableEq

namespace MouseBox

def exceededBy (box : MouseBox) (startX startY endX endY : Int32) : Bool :=
  decide (max box.halfWidth.toInt 1 < (endX.toInt - startX.toInt).natAbs) ||
    decide (max box.halfHeight.toInt 1 < (endY.toInt - startY.toInt).natAbs)

def contains (box : MouseBox) (startX startY endX endY : Int32) : Bool :=
  !box.exceededBy startX startY endX endY

def maxDimension (box : MouseBox) : Nat :=
  (max (max box.halfWidth.toInt box.halfHeight.toInt) 1).toNat

end MouseBox

/-- `i64::saturating_add`. -/
def saturatingAddI64 (total amount : Int64) : Int64 :=
  Int64.ofInt (max (-9223372036854775808) (min 9223372036854775807 (total.toInt + amount.toInt)))

/-- `u64::saturating_add`. -/
def saturatingAddU64 (total amount : UInt64) : UInt64 :=
  UInt64.ofNat (min (total.toNat + amount.toNat) 18446744073709551615)

/-- The four counters that a pending row and a held button share. -/
structure MouseTotals where
  dxTotal : Int64
  dyTotal : Int64
  distancePx : UInt64
  rawEventCount : UInt64
deriving DecidableEq

def MouseTotals.zero : MouseTotals := ⟨0, 0, 0, 0⟩

def MouseTotals.add [Hypot] (totals : MouseTotals) (movement : MouseMovement) : MouseTotals :=
  { dxTotal := saturatingAddI64 totals.dxTotal movement.dx
    dyTotal := saturatingAddI64 totals.dyTotal movement.dy
    distancePx := saturatingAddU64 totals.distancePx (Hypot.distancePx movement)
    rawEventCount := saturatingAddU64 totals.rawEventCount 1 }

structure CompletedMouseClick where
  button : MouseButton
  startedAt : Instant
  x : Option Int32
  y : Option Int32
  hwnd : Option UInt64
deriving DecidableEq

structure ActiveMouseButton where
  button : MouseButton
  startedAt : Instant
  startX : Option Int32
  startY : Option Int32
  endX : Option Int32
  endY : Option Int32
  totals : MouseTotals
  window : Option WindowRef
  inputOrigin : Option InputOrigin
  seedCompletedClick : Bool
deriving DecidableEq

structure PendingMouseMove where
  startedAt : Instant
  lastAt : Instant
  totals : MouseTotals
  x : Option Int32
  y : Option Int32
  window : Option WindowRef
  inputOrigin : Option InputOrigin
deriving DecidableEq

namespace ActiveMouseButton

def new (button : MouseButton) (position : Option MousePosition) (window : Option WindowRef)
    (startedAt : Instant) (inputOrigin : Option InputOrigin) (seedCompletedClick : Bool) :
    ActiveMouseButton :=
  { button := button
    startedAt := startedAt
    startX := position.map MousePosition.x
    startY := position.map MousePosition.y
    endX := position.map MousePosition.x
    endY := position.map MousePosition.y
    totals := .zero
    window := window
    inputOrigin := inputOrigin
    seedCompletedClick := seedCompletedClick }

def finish (active : ActiveMouseButton) (window : Option WindowRef)
    (position : Option MousePosition) (inputOrigin : Option InputOrigin) : ActiveMouseButton :=
  { active with
    endX := (position.map MousePosition.x).or active.endX
    endY := (position.map MousePosition.y).or active.endY
    window := window.or active.window
    inputOrigin := inputOrigin.or active.inputOrigin }

def addMovement [Hypot] (active : ActiveMouseButton) (movement : MouseMovement)
    (window : Option WindowRef) (position : Option MousePosition)
    (inputOrigin : Option InputOrigin) : ActiveMouseButton :=
  finish { active with totals := active.totals.add movement } window position inputOrigin

def isDrag (active : ActiveMouseButton) (dragBox : MouseBox) : Bool :=
  match active.startX, active.startY, active.endX, active.endY with
  | some startX, some startY, some endX, some endY =>
      dragBox.exceededBy startX startY endX endY ||
        decide (dragBox.maxDimension ≤ active.totals.distancePx.toNat)
  | _, _, _, _ => decide (dragBox.maxDimension ≤ active.totals.distancePx.toNat)

def intoDrag (active : ActiveMouseButton) (endedAt : Instant) : Captured :=
  ⟨.mouse, endedAt,
    .mouseDrag active.button active.totals.dxTotal active.totals.dyTotal
      active.totals.distancePx active.totals.rawEventCount
      (durationMs (saturatingDurationSince endedAt active.startedAt))
      active.startX active.startY active.endX active.endY active.window
      (active.button == .left) active.inputOrigin⟩

def intoCompletedClick (active : ActiveMouseButton) : CompletedMouseClick :=
  { button := active.button
    startedAt := active.startedAt
    x := active.startX.or active.endX
    y := active.startY.or active.endY
    hwnd := active.window.map WindowRef.hwnd }

end ActiveMouseButton

namespace PendingMouseMove

def add [Hypot] (pending : PendingMouseMove) (movement : MouseMovement)
    (window : Option WindowRef) (position : Option MousePosition) (capturedAt : Instant)
    (inputOrigin : Option InputOrigin) : PendingMouseMove :=
  { pending with
    lastAt := capturedAt
    totals := pending.totals.add movement
    x := (position.map MousePosition.x).or pending.x
    y := (position.map MousePosition.y).or pending.y
    window := window.or pending.window
    inputOrigin := inputOrigin.or pending.inputOrigin }

def new [Hypot] (movement : MouseMovement) (window : Option WindowRef)
    (position : Option MousePosition) (capturedAt : Instant) (inputOrigin : Option InputOrigin) :
    PendingMouseMove :=
  add ⟨capturedAt, capturedAt, .zero, none, none, none, none⟩ movement window position capturedAt
    inputOrigin

def intoCaptured (pending : PendingMouseMove) : Captured :=
  ⟨.mouse, pending.lastAt,
    .mouseMove pending.totals.dxTotal pending.totals.dyTotal pending.totals.distancePx
      pending.totals.rawEventCount
      (durationMs (saturatingDurationSince pending.lastAt pending.startedAt))
      pending.x pending.y pending.window pending.inputOrigin⟩

end PendingMouseMove

/-- The metrics a state is made with; durations in nanoseconds. -/
structure MouseMetrics where
  moveFlushInterval : Nat
  doubleClickInterval : Nat
  doubleClickBox : MouseBox
  dragBox : MouseBox
deriving DecidableEq

structure MouseState where
  pendingMove : Option PendingMouseMove
  /-- `HashMap<MouseButton, ActiveMouseButton>`. -/
  activeButtons : MouseButton → Option ActiveMouseButton
  lastCompletedClick : Option CompletedMouseClick
  lastCursorPosition : Option MousePosition
  metrics : MouseMetrics
  pinnedCenterRawDeltaCount : Nat
  remoteRelaySuspected : Bool

/-- One raw event with what is looked up for it. -/
structure RawInput where
  raw : RawMouseEvent
  window : Option WindowRef
  position : Option MousePosition
  screen : VirtualScreenSnapshot
  capturedAt : Instant

namespace MouseState

def new (metrics : MouseMetrics) : MouseState :=
  ⟨none, fun _ => none, none, none, metrics, 0, false⟩

def updateInputOrigin (state : MouseState) (raw : RawMouseEvent)
    (position : Option MousePosition) (screen : VirtualScreenSnapshot) :
    MouseState × Option InputOrigin :=
  let updated : MouseState :=
    if remoteRelaySignature raw position state.lastCursorPosition screen then
      let count := min (state.pinnedCenterRawDeltaCount + 1) remoteRelayPinnedCenterSamples
      { state with
        pinnedCenterRawDeltaCount := count
        remoteRelaySuspected :=
          state.remoteRelaySuspected || decide (remoteRelayPinnedCenterSamples ≤ count) }
    else if raw.hasMovement ||
        position.any fun position => !isVirtualScreenCenter position screen then
      { state with pinnedCenterRawDeltaCount := 0, remoteRelaySuspected := false }
    else state
  (updated, if updated.remoteRelaySuspected then some .remoteRelaySuspected else none)

def movementDelta (state : MouseState) (raw : RawMouseEvent) (position : Option MousePosition) :
    Option MouseMovement :=
  if raw.isAbsoluteMovement then
    position.map fun position =>
      match state.lastCursorPosition with
      | none => ⟨0, 0⟩
      | some previous =>
          ⟨position.x.toInt64 - previous.x.toInt64, position.y.toInt64 - previous.y.toInt64⟩
  else some ⟨raw.lastX.toInt64, raw.lastY.toInt64⟩

/-- The movement a raw event produces, if any. -/
def delta (state : MouseState) (input : RawInput) : Option MouseMovement :=
  if input.raw.hasMovement then state.movementDelta input.raw input.position else none

def flushPending (state : MouseState) : MouseState × List Captured :=
  ({ state with pendingMove := none },
    (state.pendingMove.map PendingMouseMove.intoCaptured).toList)

def flushDue (state : MouseState) (now : Instant) : MouseState × List Captured :=
  match state.pendingMove with
  | none => (state, [])
  | some pending =>
      if saturatingDurationSince now pending.startedAt < state.metrics.moveFlushInterval then
        (state, [])
      else state.flushPending

def doubleClickIntervalMs (state : MouseState) (button : MouseButton)
    (position : Option MousePosition) (window : Option WindowRef) (capturedAt : Instant) :
    Option UInt64 := do
  let previous ← state.lastCompletedClick
  if previous.button ≠ button then none
  else
    let elapsed ← checkedDurationSince capturedAt previous.startedAt
    if state.metrics.doubleClickInterval < elapsed then none
    else
      let previousHwnd ← previous.hwnd
      let window ← window
      if previousHwnd ≠ window.hwnd then none
      else
        let position ← position
        let previousX ← previous.x
        let previousY ← previous.y
        if state.metrics.doubleClickBox.contains previousX previousY position.x position.y then
          some (durationMs elapsed)
        else none

def resetAfterBoundary (state : MouseState) : MouseState :=
  { state with activeButtons := fun _ => none, lastCompletedClick := none }

def resyncActiveButtonsWith (state : MouseState) (isButtonDown : MouseButton → Bool) :
    MouseState :=
  { state with
    activeButtons := fun button =>
      if isButtonDown button then state.activeButtons button else none }

/-- One round of the loop over the pressed buttons. -/
def pressButton (input : RawInput) (inputOrigin : Option InputOrigin)
    (found : MouseState × List Captured) (button : MouseButton) : MouseState × List Captured :=
  let x := input.position.map MousePosition.x
  let y := input.position.map MousePosition.y
  let interval :=
    found.1.doubleClickIntervalMs button input.position input.window input.capturedAt
  let active := ActiveMouseButton.new button input.position input.window input.capturedAt
    inputOrigin interval.isNone
  let held : MouseState :=
    { found.1 with activeButtons := Function.update found.1.activeButtons button (some active) }
  let click : Captured :=
    ⟨.mouse, input.capturedAt, .mouseClick button x y input.window inputOrigin⟩
  match interval with
  | none => (held, found.2 ++ [click])
  | some intervalMs =>
      ({ held with lastCompletedClick := none },
        found.2 ++ [click,
          ⟨.mouse, input.capturedAt,
            .mouseDoubleClick button intervalMs x y input.window inputOrigin⟩])

/-- One round of the loop over the released buttons. -/
def releaseButton (input : RawInput) (inputOrigin : Option InputOrigin)
    (found : MouseState × List Captured) (button : MouseButton) : MouseState × List Captured :=
  match found.1.activeButtons button with
  | none => found
  | some active =>
      let released : MouseState :=
        { found.1 with activeButtons := Function.update found.1.activeButtons button none }
      let finished := active.finish input.window input.position inputOrigin
      if finished.isDrag released.metrics.dragBox then
        ({ released with lastCompletedClick := none },
          found.2 ++ [finished.intoDrag input.capturedAt])
      else if finished.seedCompletedClick then
        ({ released with lastCompletedClick := some finished.intoCompletedClick }, found.2)
      else ({ released with lastCompletedClick := none }, found.2)

def wheelRows (input : RawInput) (inputOrigin : Option InputOrigin) : List Captured :=
  let x := input.position.map MousePosition.x
  let y := input.position.map MousePosition.y
  let row := fun axis : MouseWheelAxis => (⟨.mouse, input.capturedAt,
    .mouseWheel axis input.raw.wheelDelta x y input.window inputOrigin⟩ : Captured)
  (if input.raw.hasVerticalWheel then [row .vertical] else []) ++
    if input.raw.hasHorizontalWheel then [row .horizontal] else []

section Movement

variable [Hypot]

/-- `record_movement` and `record_active_button_movement`. -/
def record (state : MouseState) (movement : MouseMovement) (input : RawInput)
    (inputOrigin : Option InputOrigin) : MouseState :=
  { state with
    pendingMove := some <|
      match state.pendingMove with
      | some pending =>
          pending.add movement input.window input.position input.capturedAt inputOrigin
      | none =>
          .new movement input.window input.position input.capturedAt inputOrigin
    activeButtons := fun button => (state.activeButtons button).map fun active =>
      active.addMovement movement input.window input.position inputOrigin }

/-- The state before the buttons and wheels: origin, position and movement. -/
def moved (state : MouseState) (input : RawInput) : MouseState :=
  let originated := state.updateInputOrigin input.raw input.position input.screen
  let positioned : MouseState :=
    { originated.1 with lastCursorPosition := input.position.or state.lastCursorPosition }
  match state.delta input with
  | some movement => positioned.record movement input originated.2
  | none => positioned

def onRawMouse (state : MouseState) (input : RawInput) : MouseState × List Captured :=
  let inputOrigin := (state.updateInputOrigin input.raw input.position input.screen).2
  let flushed :=
    if input.raw.hasDiscreteInput then (state.moved input).flushPending
    else (state.moved input).flushDue input.capturedAt
  let pressed := input.raw.downButtons.foldl (pressButton input inputOrigin) flushed
  input.raw.upButtons.foldl (releaseButton input inputOrigin)
    (pressed.1, pressed.2 ++ wheelRows input inputOrigin)

end Movement

end MouseState

inductive MouseCall where
  | raw (input : RawInput)
  | flushDue (now : Instant)
  | flushPending
  | resetAfterBoundary
  | resyncActiveButtons (isButtonDown : MouseButton → Bool)

namespace MouseState

def machine [Hypot] : Machine MouseState MouseCall (List Captured) where
  step state call :=
    match call with
    | .raw input => state.onRawMouse input
    | .flushDue now => state.flushDue now
    | .flushPending => state.flushPending
    | .resetAfterBoundary => (state.resetAfterBoundary, [])
    | .resyncActiveButtons isButtonDown => (state.resyncActiveButtonsWith isButtonDown, [])

end MouseState

end Gilbreth.Windows
