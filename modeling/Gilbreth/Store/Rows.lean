import Gilbreth.Core.Sequencer

/-!
# Stored rows

One structure for each table of the schema. A stored event keeps the typed
columns beside its payload; the payload JSON is represented by the payload it
encodes, with every window executable reduced to its file name. The same goes
for the JSON of selector hops and of pause intervals, which only the store
writes.
-/

set_option autoImplicit false

namespace Gilbreth.Store

open Gilbreth.Core

/-- `exe_basename`: the file name of a path, or the path itself when it ends in
a separator. -/
def exeBasename (path : String) : String :=
  if lastPathSegment path = "" then path else lastPathSegment path

theorem exe_basename_idem (path : String) : exeBasename (exeBasename path) = exeBasename path := by
  unfold exeBasename
  split_ifs with empty again
  · rfl
  · rfl
  · exact last_path_segment_idem path

structure SessionRow where
  sessionId : Int
  startedAt : I64
  endedAt : Option I64
  host : Option String
  appVersion : Option String
  gitSha : Option String
  runLabel : Option String
deriving DecidableEq

structure EventRow where
  sessionId : Int
  seq : I64
  ts : I64
  source : Source
  kind : String
  isSensitive : Bool
  hwnd : Option String
  exe : Option String
  title : Option String
  pid : Option Int
  prevExe : Option String
  prevTitle : Option String
  key : Option String
  modShift : Option Bool
  modCtrl : Option Bool
  modAlt : Option Bool
  modWin : Option Bool
  button : Option String
  posX : Option Int
  posY : Option Int
  durationMs : Option I64
  payload : EventPayload
deriving DecidableEq

/-- `UNIQUE(session_id, seq)`, which names an event. -/
def EventRow.position (row : EventRow) : Int × I64 := (row.sessionId, row.seq)

structure RecordRequestRow where
  requestId : Int
  requestedAt : I64
  expiresAt : I64
  status : RecordRequestStatus
  candidateKind : Option String
  candidateJson : String
  fulfilledRecordSessionId : Option Int
  updatedAt : I64
deriving DecidableEq

structure RecordSessionRow where
  recordSessionId : Int
  requestId : Option Int
  sessionId : Int
  startedTs : I64
  endedTs : Option I64
  stopReason : Option RecordStopReason
  title : Option String
  policySnapshotJson : String
  pauseIntervals : List (I64 × Option I64)
  actionCount : Nat
  safetyCapMs : I64
  visibleIndicator : Bool
deriving DecidableEq

structure SelectorPathRow where
  selectorId : Int
  pathHash : String
  framework : String
  depth : UInt32
  hops : List SelectorPathHop
  leafRect : Option String
  hasName : Bool
  createdTs : I64
deriving DecidableEq

structure ActionEventRow where
  sessionId : Int
  seq : I64
  ts : I64
  actionType : ActionType
  patternAction : Option String
  selectorId : Option Int
  trustBasis : SelectorTrustBasis
  exe : Option String
  isSensitive : Bool
  recordSessionId : Int
  frameworkClass : FrameworkClass
  payload : ActionPayload
deriving DecidableEq

def ActionEventRow.position (row : ActionEventRow) : Int × I64 := (row.sessionId, row.seq)

structure OpenFocusRow where
  sessionId : Int
  exe : Option String
  startedTs : I64
  highWaterTs : I64
deriving DecidableEq

structure DeletionAuditRow where
  kind : String
  performedAt : I64
  sessionId : Int
  rowsDeleted : Nat
  seqMin : I64
  seqMax : I64
  cutoffMs : Option I64
deriving DecidableEq

structure MetaRow where
  key : String
  value : String
deriving DecidableEq

section Columns

def hwndHex (window : WindowRef) : String :=
  "0x" ++ String.ofList (Nat.toDigits 16 window.hwnd.toNat)

def mouseButtonName : MouseButton → String
  | .left => "left"
  | .right => "right"
  | .middle => "middle"
  | .x1 => "x1"
  | .x2 => "x2"

def wheelButtonName (axis : MouseWheelAxis) (delta : Int32) : String :=
  match axis, delta.toInt.sign with
  | .vertical, 1 => "wheel_up"
  | .vertical, -1 => "wheel_down"
  | .horizontal, 1 => "wheel_right"
  | .horizontal, -1 => "wheel_left"
  | .vertical, _ => "wheel"
  | .horizontal, _ => "wheel_horizontal"

def connectionName : SessionConnectionKind → String
  | .console => "console"
  | .remote => "remote"

def clipboardFormatName : ClipboardFormatKind → String
  | .text => "text"
  | .files => "files"
  | .image => "image"
  | .audio => "audio"
  | .custom => "custom"
  | .empty => "empty"
  | .unavailable => "unavailable"
  | .concealed => "concealed"

def reasonName : SensitiveContextReason → String
  | .sessionLocked => "session locked"
  | .sessionDisconnected => "session disconnected"
  | .secureDesktop => "secure desktop"
  | .passwordField => "password field"
  | .secureInput => "secure input"

/-- `payload_json`: movement rows lose their window, every other window keeps
only the file name of its executable. -/
def storedPayload (payload : EventPayload) : EventPayload :=
  match payload with
  | .mouseMove dx dy distance count duration x y _ inputOrigin =>
      .mouseMove dx dy distance count duration x y none inputOrigin
  | payload =>
      (payload.redactWindows fun window => ({ window with exe := exeBasename window.exe }, false)).1

/-- The columns every variant fills; the others are null. -/
def EventRow.base (event : EventEnvelope) : EventRow where
  sessionId := event.sessionId
  seq := u64ToI64 event.seq
  ts := event.tsUnixMs
  source := event.source
  kind := event.payload.kind
  isSensitive := event.isSensitive
  hwnd := none
  exe := none
  title := none
  pid := none
  prevExe := none
  prevTitle := none
  key := none
  modShift := none
  modCtrl := none
  modAlt := none
  modWin := none
  button := none
  posX := none
  posY := none
  durationMs := none
  payload := storedPayload event.payload

def EventRow.withWindow (row : EventRow) (window : Option WindowRef) : EventRow :=
  { row with
    hwnd := window.map hwndHex
    exe := window.map fun window => exeBasename window.exe
    title := window.map WindowRef.title
    pid := window.map fun window => window.pid.toNat }

def EventRow.fromEnvelope (event : EventEnvelope) : EventRow :=
  let row := EventRow.base event
  match event.payload with
  | .focusChanged window prev focusedFor _ _ =>
      { row.withWindow (some window) with
        prevExe := prev.map fun window => exeBasename window.exe
        prevTitle := prev.map WindowRef.title
        durationMs := some (u64ToI64 focusedFor.toNat) }
  | .windowOpened window _ => row.withWindow (some window)
  | .windowClosed window openFor _ =>
      { row.withWindow (some window) with durationMs := some (u64ToI64 openFor.toNat) }
  | .key key mods window _ =>
      { row.withWindow window with
        key := if key = "" then none else some key
        modShift := some mods.shift
        modCtrl := some mods.ctrl
        modAlt := some mods.alt
        modWin := some mods.win }
  | .mouseClick button x y window _ =>
      { row.withWindow window with
        button := some (mouseButtonName button)
        posX := x.map Int32.toInt
        posY := y.map Int32.toInt }
  | .mouseDoubleClick button interval x y window _ =>
      { row.withWindow window with
        button := some (mouseButtonName button)
        posX := x.map Int32.toInt
        posY := y.map Int32.toInt
        durationMs := some (u64ToI64 interval.toNat) }
  | .mouseDrag button _ _ _ _ duration _ _ endX endY window _ _ =>
      { row.withWindow window with
        button := some (mouseButtonName button)
        posX := endX.map Int32.toInt
        posY := endY.map Int32.toInt
        durationMs := some (u64ToI64 duration.toNat) }
  | .mouseWheel axis delta x y window _ =>
      { row.withWindow window with
        button := some (wheelButtonName axis delta)
        posX := x.map Int32.toInt
        posY := y.map Int32.toInt }
  | .mouseMove _ _ _ _ duration x y window _ =>
      -- The only windowed variant whose title column stays null.
      { row.withWindow window with
        title := none
        posX := x.map Int32.toInt
        posY := y.map Int32.toInt
        durationMs := some (u64ToI64 duration.toNat) }
  | .systemInfo host .. => { row with title := some host }
  | .virtualScreen x0 y0 .. => { row with posX := some x0.toInt, posY := some y0.toInt }
  | .processStarted pid exe _ | .processExited pid exe _ =>
      { row with exe := some exe, pid := some pid.toNat }
  | .processChurnSummary window .. => { row with durationMs := some (u64ToI64 window.toNat) }
  | .powerBoundaryRecovered gap _ => { row with durationMs := some (u64ToI64 gap.toNat) }
  | .sessionLock id | .sessionUnlock id => { row with title := some ("Session " ++ toString id) }
  | .sessionConnect id connection | .sessionDisconnect id connection =>
      { row with title := some (connectionName connection ++ " session " ++ toString id) }
  | .clipboardUsed _ formatKind .. =>
      { row with title := some ("Clipboard " ++ clipboardFormatName formatKind) }
  | .notificationsReceived app _ => { row with title := app }
  | .sensitiveContextEntered reason | .sensitiveContextExited reason =>
      { row with title := some (reasonName reason) }
  | .idle idle | .active idle => { row with durationMs := some (u64ToI64 idle.toNat) }
  | _ => row

end Columns

theorem from_envelope_columns (event : EventEnvelope) :
    (EventRow.fromEnvelope event).sessionId = event.sessionId ∧
      (EventRow.fromEnvelope event).seq = u64ToI64 event.seq ∧
      (EventRow.fromEnvelope event).ts = event.tsUnixMs ∧
      (EventRow.fromEnvelope event).kind = event.payload.kind ∧
      (EventRow.fromEnvelope event).payload = storedPayload event.payload := by
  unfold EventRow.fromEnvelope
  split <;> exact ⟨rfl, rfl, rfl, rfl, rfl⟩

end Gilbreth.Store
