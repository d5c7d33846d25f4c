import Gilbreth.Core.Text
import Gilbreth.Core.Time

/-!
# Captured events and the redactions of one payload

The payload of an event is one of thirty variants. Each redaction of the source
mutates it in place and reports whether anything changed; here it returns the
new payload with that report.
-/

set_option autoImplicit false

namespace Gilbreth.Core

inductive Source where
  | foreground | window | keyboard | mouse | system
deriving DecidableEq

inductive WindowLifecycleOrigin where
  | observed | seeded | synthesized
deriving DecidableEq

inductive ProcessExeSource where
  | fullPath | snapshotName
deriving DecidableEq

structure ProcessChurnEntry where
  exe : String
  dropped : UInt32
  sustained : Bool
deriving DecidableEq

inductive ClipboardFormatKind where
  | text | files | image | audio | custom | empty | unavailable | concealed
deriving DecidableEq

inductive SensitiveContextReason where
  | sessionLocked | sessionDisconnected | secureDesktop | passwordField | secureInput
deriving DecidableEq

inductive SessionConnectionKind where
  | console | remote
deriving DecidableEq

inductive MouseButton where
  | left | right | middle | x1 | x2
deriving DecidableEq

inductive MouseWheelAxis where
  | vertical | horizontal
deriving DecidableEq

inductive InputOrigin where
  | «local» | remoteRelaySuspected
deriving DecidableEq

inductive KeyClass where
  | printable | navigation | modifier | function | other
deriving DecidableEq

structure Modifiers where
  shift : Bool
  ctrl : Bool
  alt : Bool
  win : Bool
deriving DecidableEq

def Modifiers.default : Modifiers := ⟨false, false, false, false⟩

structure WindowRef where
  hwnd : UInt64
  exe : String
  title : String
  pid : UInt32
deriving DecidableEq

inductive EventPayload where
  | focusChanged (window : WindowRef) (prev : Option WindowRef)
      (previousFocusedForMs windowUnfocusedForMs : UInt64) (recovered : Bool)
  | windowOpened (window : WindowRef) (origin : WindowLifecycleOrigin)
  | windowClosed (window : WindowRef) (openForMs : UInt64) (origin : WindowLifecycleOrigin)
  | key (key : String) (mods : Modifiers) (window : Option WindowRef) (keyClass : Option KeyClass)
  | mouseClick (button : MouseButton) (x y : Option Int32) (window : Option WindowRef)
      (inputOrigin : Option InputOrigin)
  | mouseDoubleClick (button : MouseButton) (intervalMs : UInt64) (x y : Option Int32)
      (window : Option WindowRef) (inputOrigin : Option InputOrigin)
  | mouseDrag (button : MouseButton) (dxTotal dyTotal : Int64)
      (distancePx rawEventCount durationMs : UInt64) (startX startY endX endY : Option Int32)
      (window : Option WindowRef) (selectionCandidate : Bool) (inputOrigin : Option InputOrigin)
  | mouseWheel (axis : MouseWheelAxis) (delta : Int32) (x y : Option Int32)
      (window : Option WindowRef) (inputOrigin : Option InputOrigin)
  | mouseMove (dxTotal dyTotal : Int64) (distancePx rawEventCount durationMs : UInt64)
      (x y : Option Int32) (window : Option WindowRef) (inputOrigin : Option InputOrigin)
  | systemInfo (host osVersion arch : String) (processorCount : UInt32) (memoryTotalBytes : UInt64)
  | virtualScreen (x0 y0 x1 y1 width height : Int32)
  | processStarted (pid : UInt32) (exe : String) (exeSource : ProcessExeSource)
  | processExited (pid : UInt32) (exe : String) (exeSource : ProcessExeSource)
  | processChurnSummary (windowMs : UInt64) (dropped distinctExes : UInt32)
      (top : List ProcessChurnEntry)
  | powerSuspend (tickMs : Option UInt64)
  | powerResume (tickMs : Option UInt64) (matchedSuspend : Bool)
  | powerBoundaryRecovered (gapMs cappedDwellMs : UInt64)
  | capturePaused
  | captureResumed
  | powerStatusChanged (acOnline : Option Bool) (batteryPercent : Option UInt8)
      (batterySaver : Option Bool)
  | sessionLock (sessionId : UInt32)
  | sessionUnlock (sessionId : UInt32)
  | sessionConnect (sessionId : UInt32) (connection : SessionConnectionKind)
  | sessionDisconnect (sessionId : UInt32) (connection : SessionConnectionKind)
  | clipboardUsed (sequenceNumber : UInt32) (formatKind : ClipboardFormatKind)
      (formatCount : UInt32) (textCharCount byteSize : Option UInt64)
  | notificationsReceived (app : Option String) (count : UInt32)
  | sensitiveContextEntered (reason : SensitiveContextReason)
  | sensitiveContextExited (reason : SensitiveContextReason)
  | idle (idleMs : UInt64)
  | active (idleMs : UInt64)
deriving DecidableEq

structure Captured where
  source : Source
  capturedAt : Instant
  payload : EventPayload
deriving DecidableEq

def schemaVersion : UInt16 := 1

structure EventEnvelope where
  schemaVersion : UInt16
  sessionId : Int
  seq : Nat
  tsUnixMs : I64
  source : Source
  isSensitive : Bool
  payload : EventPayload
deriving DecidableEq

def WindowRef.redactTitle (window : WindowRef) : WindowRef × Bool :=
  if window.title = redacted then (window, false)
  else ({ window with title := redacted }, true)

def WindowRef.redactTitleIfNeeded (window : WindowRef) (fragments : List String) :
    WindowRef × Bool :=
  if matchesAny fragments window.title then window.redactTitle else (window, false)

def redactOptionalLabel : Option String → Option String × Bool
  | some value => if value = redacted then (some value, false) else (some redacted, true)
  | none => (none, false)

def redactOptionalLabelIfNeeded (label : Option String) (fragments : List String) :
    Option String × Bool :=
  if label.any (matchesAny fragments) then redactOptionalLabel label else (label, false)

/-- `window.as_mut().is_some_and(redact)`. -/
def redactOptionalWindow (redact : WindowRef → WindowRef × Bool) :
    Option WindowRef → Option WindowRef × Bool
  | some window => (some (redact window).1, (redact window).2)
  | none => (none, false)

/-- Coarse key families. The arms stand in source order; the `F1`..`F24` arm
tests the bytes after the first. -/
def keyClassForName (name : String) : KeyClass :=
  if name ∈ ["Shift", "Ctrl", "Alt", "Win", "CapsLock", "NumLock", "ScrollLock", "Cmd", "Option",
      "Fn"] then .modifier
  else if name ∈ ["Home", "End", "PageUp", "PageDown", "ArrowLeft", "ArrowUp", "ArrowRight",
      "ArrowDown", "Insert", "Delete", "Backspace", "Tab"] then .navigation
  else if name ∈ ["Enter", "Escape", "Pause", "Apps", "PrintScreen"] then .function
  else if name = "Space" then .printable
  else if 2 ≤ name.utf8ByteSize ∧ name.toList.head? = some 'F' ∧
      name.toList.tail.all Char.isDigit then .function
  else if "Numpad".toList <+: name.toList then .printable
  else if name.toList.length = 1 then .printable
  else .other

namespace EventPayload

def kind : EventPayload → String
  | focusChanged .. => "focus_changed"
  | windowOpened .. => "window_opened"
  | windowClosed .. => "window_closed"
  | key .. => "key"
  | mouseClick .. => "mouse_click"
  | mouseDoubleClick .. => "mouse_double_click"
  | mouseDrag .. => "mouse_drag"
  | mouseWheel .. => "mouse_wheel"
  | mouseMove .. => "mouse_move"
  | systemInfo .. => "system_info"
  | virtualScreen .. => "virtual_screen"
  | processStarted .. => "process_started"
  | processExited .. => "process_exited"
  | processChurnSummary .. => "process_churn_summary"
  | powerSuspend .. => "power_suspend"
  | powerResume .. => "power_resume"
  | powerBoundaryRecovered .. => "power_boundary_recovered"
  | capturePaused => "capture_paused"
  | captureResumed => "capture_resumed"
  | powerStatusChanged .. => "power_status"
  | sessionLock .. => "session_lock"
  | sessionUnlock .. => "session_unlock"
  | sessionConnect .. => "session_connect"
  | sessionDisconnect .. => "session_disconnect"
  | clipboardUsed .. => "clipboard_used"
  | notificationsReceived .. => "notifications_received"
  | sensitiveContextEntered .. => "sensitive_context_entered"
  | sensitiveContextExited .. => "sensitive_context_exited"
  | idle .. => "idle"
  | active .. => "active"

/-- Replace every window a payload carries and report whether one changed. The
two title redactions walk the same windows and differ only in the label arm. -/
def redactWindows (redact : WindowRef → WindowRef × Bool) : EventPayload → EventPayload × Bool
  | focusChanged window prev focusedFor unfocusedFor recovered =>
      (focusChanged (redact window).1 (redactOptionalWindow redact prev).1 focusedFor unfocusedFor
        recovered, (redact window).2 || (redactOptionalWindow redact prev).2)
  | windowOpened window origin => (windowOpened (redact window).1 origin, (redact window).2)
  | windowClosed window openFor origin =>
      (windowClosed (redact window).1 openFor origin, (redact window).2)
  | key name mods window keyClass =>
      (key name mods (redactOptionalWindow redact window).1 keyClass,
        (redactOptionalWindow redact window).2)
  | mouseClick button x y window inputOrigin =>
      (mouseClick button x y (redactOptionalWindow redact window).1 inputOrigin,
        (redactOptionalWindow redact window).2)
  | mouseDoubleClick button interval x y window inputOrigin =>
      (mouseDoubleClick button interval x y (redactOptionalWindow redact window).1 inputOrigin,
        (redactOptionalWindow redact window).2)
  | mouseDrag button dx dy distance count duration startX startY endX endY window candidate
      inputOrigin =>
      (mouseDrag button dx dy distance count duration startX startY endX endY
        (redactOptionalWindow redact window).1 candidate inputOrigin,
        (redactOptionalWindow redact window).2)
  | mouseWheel axis delta x y window inputOrigin =>
      (mouseWheel axis delta x y (redactOptionalWindow redact window).1 inputOrigin,
        (redactOptionalWindow redact window).2)
  | mouseMove dx dy distance count duration x y window inputOrigin =>
      (mouseMove dx dy distance count duration x y (redactOptionalWindow redact window).1
        inputOrigin, (redactOptionalWindow redact window).2)
  | payload => (payload, false)

def redactTitlesContaining (payload : EventPayload) (fragments : List String) :
    EventPayload × Bool :=
  match payload with
  | notificationsReceived app count =>
      (notificationsReceived (redactOptionalLabelIfNeeded app fragments).1 count,
        (redactOptionalLabelIfNeeded app fragments).2)
  | payload => payload.redactWindows fun window => window.redactTitleIfNeeded fragments

/-- Lean capture: drop the key name and record only its class. A key that a
privacy rule already replaced stays unclassified. -/
def omitKeyContent : EventPayload → EventPayload × Bool
  | key name mods window keyClass =>
      if name = "" then (key name mods window keyClass, false)
      else if name = redacted then (key "" mods window keyClass, true)
      else (key "" mods window (some (keyClassForName name)), true)
  | payload => (payload, false)

def redactKeysContaining (payload : EventPayload) (fragments : List String) :
    EventPayload × Bool :=
  match payload with
  | key name mods window keyClass =>
      if matchesAny fragments name then (key redacted mods window keyClass, true)
      else (key name mods window keyClass, false)
  | payload => (payload, false)

def redactForSensitiveContext (payload : EventPayload) : EventPayload × Bool :=
  match payload with
  | key name mods window keyClass =>
      (key redacted Modifiers.default (redactOptionalWindow WindowRef.redactTitle window).1
        keyClass,
        decide (name ≠ redacted) || decide (mods ≠ Modifiers.default) ||
          (redactOptionalWindow WindowRef.redactTitle window).2)
  | notificationsReceived app count =>
      (notificationsReceived (redactOptionalLabel app).1 count, (redactOptionalLabel app).2)
  | clipboardUsed sequenceNumber formatKind formatCount textCharCount byteSize =>
      (clipboardUsed sequenceNumber formatKind formatCount none none,
        textCharCount.isSome || byteSize.isSome)
  | payload => payload.redactWindows WindowRef.redactTitle

def keyWasCaptureRedacted : EventPayload → Bool
  | key name _ window _ => name == redacted || window.any fun window => window.title == redacted
  | _ => false

end EventPayload

end Gilbreth.Core
