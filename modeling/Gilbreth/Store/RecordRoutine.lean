import Gilbreth.Store.Statements
import Gilbreth.Store.ValueFree

/-!
# Record requests and recordings in the store

A request moves by updates that name the status they expect; a recording is
opened, paused, resumed and closed. Pause intervals are a list of starts with
ends that are still missing while paused.
-/

set_option autoImplicit false

namespace Gilbreth.Store

open Gilbreth.Core

structure PendingRecordRequest where
  requestId : Int
  candidateKind : Option String
  candidateJson : String
  expiresAt : I64
deriving DecidableEq

structure OpenRecordSessionParams where
  requestId : Option Int
  sessionId : Int
  startedTs : I64
  title : Option String
  policySnapshotJson : String
  safetyCapMs : I64
  visibleIndicator : Bool
deriving DecidableEq

/-- `ensure_value_free_json`. The parser's own error text stands for itself. -/
def ensureValueFreeJson [StoreExternals] (json label : String) : Except StoreError Unit :=
  match StoreExternals.parseJson json with
  | none => .error (.json "parse error")
  | some value =>
      match firstForbiddenJsonKey value, firstUnboundedIdentifier value with
      | some key, _ =>
          .error (.recordRoutine s!"{label} contains forbidden value-bearing key {key}")
      | none, some key =>
          .error (.recordRoutine (s!"{label} identifier {key} is over-long or carries control " ++
            "characters (likely value-bearing content, not a stable identifier)"))
      | none, none => .ok ()

namespace Database

variable (fault : Option StoreError) (db : Database)

/-- Set the status of the requests that match. -/
def updateRequests (matching : RecordRequestRow → Bool) (status : RecordRequestStatus)
    (updatedAt : I64) : Database :=
  { db with
    activity.recordRoutine.recordRequests := db.activity.recordRoutine.recordRequests.updateWhere
      matching (fun row => { row with status := status, updatedAt := updatedAt }) fun _ => rfl }

def updateRecordSessions (matching : RecordSessionRow → Bool)
    (change : RecordSessionRow → RecordSessionRow)
    (keeps : ∀ row, (change row).recordSessionId = row.recordSessionId) : Database :=
  { db with
    activity.recordRoutine.recordSessions :=
      db.activity.recordRoutine.recordSessions.updateWhere matching change keeps }

section Requests

def confirmRecordRequest (requestId : Int) (updatedAt : I64) : Except StoreError Database :=
  let matching := fun row : RecordRequestRow =>
    row.requestId == requestId && row.status == .requested
  if db.activity.recordRoutine.recordRequests.countWhere matching = 0 then
    statement fault db >>= fun _ =>
      .error (.recordRoutine s!"record request {requestId} is not requestable")
  else statement fault (db.updateRequests matching .confirmed updatedAt)

def pendingRequest (requestId : Int) (row : RecordRequestRow) : Bool :=
  row.requestId == requestId && (row.status == .requested || row.status == .confirmed)

def cancelRecordRequest (requestId : Int) (updatedAt : I64) : Except StoreError Database :=
  statement fault (db.updateRequests (pendingRequest requestId) .cancelled updatedAt)

def failRecordRequest (requestId : Int) (updatedAt : I64) : Except StoreError Database :=
  statement fault (db.updateRequests (pendingRequest requestId) .failed updatedAt)

def expireRecordRequests (nowMs : I64) : Except StoreError Database :=
  statement fault
    (db.updateRequests (fun row => row.status == .requested && decide (row.expiresAt < nowMs))
      .expired nowMs)

def recordRequestStatus (requestId : Int) : Except StoreError (Option RecordRequestStatus) :=
  statement fault
    ((db.activity.recordRoutine.recordRequests.rows.find? fun row => row.requestId == requestId).map
      RecordRequestRow.status)

def requestIds : List Int :=
  db.activity.recordRoutine.recordRequests.rows.map RecordRequestRow.requestId

def newRequest (requestedAt expiresAt : I64) (candidateKind : Option String)
    (candidateJson : String) : RecordRequestRow where
  requestId := Table.nextId db.sqliteSequence.recordRequests db.requestIds
  requestedAt := requestedAt
  expiresAt := expiresAt
  status := .requested
  candidateKind := candidateKind
  candidateJson := candidateJson
  fulfilledRecordSessionId := none
  updatedAt := requestedAt

def createRecordRequest [StoreExternals] (requestedAt expiresAt : I64)
    (candidateKind : Option String) (candidateJson : String) :
    Except StoreError (Database × Int) := do
  ensureValueFreeJson candidateJson "candidate_json"
  let row := db.newRequest requestedAt expiresAt candidateKind candidateJson
  statement fault
    ({ db with
       activity.recordRoutine.recordRequests :=
         db.activity.recordRoutine.recordRequests.append row (Table.next_id_fresh _ _)
       sqliteSequence.recordRequests := row.requestId },
      row.requestId)

def dayMs : I64 := .ofInt 86400000

/-- `request_recording`, the dashboard's way to the same insert. -/
def requestRecording [StoreExternals] (nowMs : I64) (candidateKind : Option String)
    (candidateJson : String) : Except StoreError (Database × Int) :=
  db.createRecordRequest fault nowMs (nowMs.satAdd dayMs) candidateKind candidateJson

/-- `ORDER BY requested_at, request_id`. -/
def requestBefore (left right : RecordRequestRow) : Bool :=
  decide (left.requestedAt < right.requestedAt ∨
    left.requestedAt = right.requestedAt ∧ left.requestId ≤ right.requestId)

def oldestPendingRecordRequest (nowMs : I64) : Except StoreError (Option PendingRecordRequest) :=
  let pending := db.activity.recordRoutine.recordRequests.rows.filter fun row =>
    row.status == .requested && decide (nowMs ≤ row.expiresAt)
  statement fault
    ((pending.mergeSort requestBefore).head?.map fun row =>
      ⟨row.requestId, row.candidateKind, row.candidateJson, row.expiresAt⟩)

end Requests

section Recordings

def recordSessionIds : List Int :=
  db.activity.recordRoutine.recordSessions.rows.map RecordSessionRow.recordSessionId

def openRecordSession [StoreExternals] (params : OpenRecordSessionParams) :
    Except StoreError (Database × Int) := do
  ensureValueFreeJson params.policySnapshotJson "policy_snapshot_json"
  if params.safetyCapMs ≤ .ofInt 0 then
    throw (.recordRoutine "safety_cap_ms must be positive")
  if params.sessionId ∉ db.sessionIds then
    throw (.sqlite .other "FOREIGN KEY constraint failed")
  let recordSessionId := Table.nextId db.sqliteSequence.recordSessions db.recordSessionIds
  let row : RecordSessionRow :=
    { recordSessionId := recordSessionId
      requestId := params.requestId
      sessionId := params.sessionId
      startedTs := params.startedTs
      endedTs := none
      stopReason := none
      title := params.title
      policySnapshotJson := params.policySnapshotJson
      pauseIntervals := []
      actionCount := 0
      safetyCapMs := params.safetyCapMs
      visibleIndicator := params.visibleIndicator }
  let opened : Database :=
    { db with
      activity.recordRoutine.recordSessions :=
        db.activity.recordRoutine.recordSessions.append row (Table.next_id_fresh _ _)
      sqliteSequence.recordSessions := recordSessionId }
  let confirmed := fun requestId (row : RecordRequestRow) =>
    row.requestId == requestId && row.status == .confirmed
  match params.requestId with
  | none => statement fault (opened, recordSessionId)
  | some requestId =>
      let requests := db.activity.recordRoutine.recordRequests
      if requests.countWhere (confirmed requestId) = 0 then
        throw (.recordRoutine s!"record request {requestId} was not confirmed")
      statement fault
        ({ opened with
           activity.recordRoutine.recordRequests := requests.updateWhere (confirmed requestId)
             (fun row =>
               { row with
                 status := .started
                 fulfilledRecordSessionId := some recordSessionId
                 updatedAt := params.startedTs })
             fun _ => rfl },
          recordSessionId)

/-- `SET ended_ts = max(started_ts, ?), stop_reason = ?`. -/
def endRecording (endedTs : I64) (stopReason : RecordStopReason) (row : RecordSessionRow) :
    RecordSessionRow :=
  { row with endedTs := some (max row.startedTs endedTs), stopReason := some stopReason }

def closeRecordSession (recordSessionId : Int) (endedTs : I64) (stopReason : RecordStopReason) :
    Except StoreError Database :=
  statement fault
    (db.updateRecordSessions
      (fun row => row.recordSessionId == recordSessionId && row.endedTs.isNone)
      (endRecording endedTs stopReason) fun _ => rfl)

def finalizeOpenRecordSessions (stopReason : RecordStopReason) (endedTs : I64) :
    Except StoreError Database :=
  statement fault
    (db.updateRecordSessions (fun row => row.endedTs.isNone) (endRecording endedTs stopReason)
      fun _ => rfl)

def pauseIntervals (recordSessionId : Int) : Except StoreError (List (I64 × Option I64)) :=
  match db.activity.recordRoutine.recordSessions.rows.find?
      fun row => row.recordSessionId == recordSessionId with
  | some row => .ok row.pauseIntervals
  | none => .error (.sqlite .other "Query returned no rows")

def writePauseIntervals (recordSessionId : Int) (intervals : List (I64 × Option I64)) :
    Except StoreError Database :=
  statement fault
    (db.updateRecordSessions
      (fun row => row.recordSessionId == recordSessionId && row.endedTs.isNone)
      (fun row => { row with pauseIntervals := intervals }) fun _ => rfl)

def pauseRecordSession (recordSessionId : Int) (pausedTs : I64) : Except StoreError Database := do
  let intervals ← db.pauseIntervals recordSessionId
  if intervals.getLast?.any fun interval => interval.2.isNone then statement fault db
  else db.writePauseIntervals fault recordSessionId (intervals ++ [(pausedTs, none)])

def closeLastInterval (resumedTs : I64) (intervals : List (I64 × Option I64)) :
    List (I64 × Option I64) :=
  match intervals.getLast? with
  | some (start, none) => intervals.dropLast ++ [(start, some (max resumedTs start))]
  | _ => intervals

def resumeRecordSession (recordSessionId : Int) (resumedTs : I64) : Except StoreError Database := do
  let intervals ← db.pauseIntervals recordSessionId
  db.writePauseIntervals fault recordSessionId (closeLastInterval resumedTs intervals)

/-- `ORDER BY started_ts, record_session_id`. -/
def openRecordSessions : Except StoreError (List RecordSessionRow) :=
  statement fault
    ((db.activity.recordRoutine.recordSessions.rows.filter fun row => row.endedTs.isNone).mergeSort
      fun left right => decide (left.startedTs < right.startedTs ∨
        left.startedTs = right.startedTs ∧ left.recordSessionId ≤ right.recordSessionId))

end Recordings

end Database

end Gilbreth.Store
