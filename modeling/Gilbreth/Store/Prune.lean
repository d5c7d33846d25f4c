import Gilbreth.Store.Database

/-!
# Deleting old activity

The dashboard's preview counts what a prune would delete; the prune runs the
dependent deletes one after the other, each on what the earlier ones left. The
startup retention has its own copy of that sequence. A statement that fails
aborts the transaction it runs in, so what is modelled here is the transaction
that commits.
-/

set_option autoImplicit false

namespace Gilbreth.Store

open Gilbreth.Core

/-- SQLite as far as these statements leave it a choice: which of the matching
rows a `LIMIT` without `ORDER BY` picks. -/
structure SqlEngine where
  scan : ∀ {Row : Type} (matching : Row → Bool) (limit : Nat), Table.Scan matching limit

def pruneReturningBatch : Nat := 20000

theorem prune_returning_batch_pos : 0 < pruneReturningBatch := by decide

section Audit

structure DeletionAuditSpan where
  rowsDeleted : Nat
  seqMin : I64
  seqMax : I64
deriving DecidableEq

/-- `DeletionAuditAggregate`: the spans in session order, as the B-tree map
iterates them. -/
abbrev DeletionAuditAggregate := List (Int × DeletionAuditSpan)

def DeletionAuditAggregate.note (aggregate : DeletionAuditAggregate) (sessionId : Int)
    (seq : I64) : DeletionAuditAggregate :=
  match aggregate with
  | [] => [(sessionId, ⟨1, seq, seq⟩)]
  | (session, span) :: rest =>
      if sessionId < session then (sessionId, ⟨1, seq, seq⟩) :: (session, span) :: rest
      else if sessionId = session then
        (session, ⟨span.rowsDeleted + 1, min span.seqMin seq, max span.seqMax seq⟩) :: rest
      else (session, span) :: note rest sessionId seq

def noteAll (aggregate : DeletionAuditAggregate) (deleted : List (Int × I64)) :
    DeletionAuditAggregate :=
  deleted.foldl (fun aggregate position => aggregate.note position.1 position.2) aggregate

def recordDeletionAudit (kind : String) (performedAt : I64) (cutoffMs : Option I64)
    (aggregate : DeletionAuditAggregate) (table : List DeletionAuditRow) : List DeletionAuditRow :=
  table ++ aggregate.map fun entry =>
    ⟨kind, performedAt, entry.1, entry.2.rowsDeleted, entry.2.seqMin, entry.2.seqMax, cutoffMs⟩

end Audit

section Conditions

/-- `ts < ?1` on the events. -/
def oldEvent (cutoffMs : I64) (event : EventRow) : Bool := decide (event.ts < cutoffMs)

/-- `ts < ?1` on the actions. -/
def oldAction (cutoffMs : I64) (action : ActionEventRow) : Bool := decide (action.ts < cutoffMs)

/-- `ended_ts IS NOT NULL AND ended_ts < ?1 AND NOT EXISTS (action of it)`. -/
def recordSessionPrunable (cutoffMs : I64) (actions : List ActionEventRow)
    (recording : RecordSessionRow) : Bool :=
  recording.endedTs.any (fun ended => decide (ended < cutoffMs)) &&
    !actions.any fun action => action.recordSessionId == recording.recordSessionId

/-- `NOT EXISTS (recording of it)`. -/
def orphanAction (recordings : List RecordSessionRow) (action : ActionEventRow) : Bool :=
  !recordings.any fun recording => recording.recordSessionId == action.recordSessionId

def sessionHasEvent (events : List EventRow) (session : SessionRow) : Bool :=
  events.any fun event => event.sessionId == session.sessionId

/-- `ended_at IS NOT NULL` and no event, action or recording of it. -/
def sessionPrunable (events : List EventRow) (actions : List ActionEventRow)
    (recordings : List RecordSessionRow) (session : SessionRow) : Bool :=
  session.endedAt.isSome && !sessionHasEvent events session &&
    !(actions.any fun action => action.sessionId == session.sessionId) &&
    !recordings.any fun recording => recording.sessionId == session.sessionId

/-- `expires_at < ?1` and not fulfilled by a recording that is there. -/
def recordRequestPrunable (cutoffMs : I64) (recordings : List RecordSessionRow)
    (request : RecordRequestRow) : Bool :=
  decide (request.expiresAt < cutoffMs) &&
    request.fulfilledRecordSessionId.all fun fulfilled =>
      !recordings.any fun recording => recording.recordSessionId == fulfilled

/-- `NOT EXISTS (action with this selector)`. -/
def selectorOrphan (actions : List ActionEventRow) (path : SelectorPathRow) : Bool :=
  !actions.any fun action => action.selectorId == some path.selectorId

end Conditions

structure DashboardPrunePreview where
  cutoffMs : I64
  events : Nat
  endedEmptySessions : Nat
  actionEvents : Nat
  endedEmptyRecordSessions : Nat
  recordRequests : Nat
  selectorPaths : Nat
deriving DecidableEq

structure DashboardPruneResult where
  eventsDeleted : Nat
  sessionsDeleted : Nat
  compactionCompleted : Bool
  compactError : Option String
  actionEventsDeleted : Nat
  recordSessionsDeleted : Nat
  recordRequestsDeleted : Nat
  selectorPathsDeleted : Nat
deriving DecidableEq

section Preview

variable (cutoffMs : I64)

/-- The common table expression `pruned_record_sessions`. -/
def previewRecordSession (actions : List ActionEventRow) (recording : RecordSessionRow) : Bool :=
  recording.endedTs.any (fun ended => decide (ended < cutoffMs)) &&
    !actions.any fun action =>
      action.recordSessionId == recording.recordSessionId && decide (cutoffMs ≤ action.ts)

def prunedRecordSessionIds (routine : RecordRoutineTables) : List Int :=
  (routine.recordSessions.rows.filter
    (previewRecordSession cutoffMs routine.actionEvents.rows)).map RecordSessionRow.recordSessionId

def previewSession (events : List EventRow) (session : SessionRow) : Bool :=
  session.endedAt.isSome &&
    !events.any fun event => event.sessionId == session.sessionId && decide (cutoffMs ≤ event.ts)

def previewSessionWithRoutine (events : List EventRow) (routine : RecordRoutineTables)
    (session : SessionRow) : Bool :=
  previewSession cutoffMs events session &&
    !(routine.actionEvents.rows.any fun action =>
      action.sessionId == session.sessionId && decide (cutoffMs ≤ action.ts)) &&
    !routine.recordSessions.rows.any fun recording =>
      recording.sessionId == session.sessionId &&
        decide (recording.recordSessionId ∉ prunedRecordSessionIds cutoffMs routine)

def previewRecordRequest (routine : RecordRoutineTables) (request : RecordRequestRow) : Bool :=
  decide (request.expiresAt < cutoffMs) &&
    request.fulfilledRecordSessionId.all fun fulfilled =>
      !routine.recordSessions.rows.any fun recording =>
        recording.recordSessionId == fulfilled &&
          decide (recording.recordSessionId ∉ prunedRecordSessionIds cutoffMs routine)

def previewSelectorPath (actions : List ActionEventRow) (path : SelectorPathRow) : Bool :=
  !actions.any fun action =>
    action.selectorId == some path.selectorId && decide (cutoffMs ≤ action.ts)

def prunePreview (db : DashboardDatabase) : DashboardPrunePreview where
  cutoffMs := cutoffMs
  events := db.events.countWhere (oldEvent cutoffMs)
  endedEmptySessions :=
    match db.recordRoutine with
    | some routine =>
        db.sessions.countWhere (previewSessionWithRoutine cutoffMs db.events.rows routine)
    | none => db.sessions.countWhere (previewSession cutoffMs db.events.rows)
  actionEvents :=
    db.recordRoutine.elim 0 fun routine => routine.actionEvents.countWhere (oldAction cutoffMs)
  endedEmptyRecordSessions :=
    db.recordRoutine.elim 0 fun routine =>
      routine.recordSessions.countWhere (previewRecordSession cutoffMs routine.actionEvents.rows)
  recordRequests :=
    db.recordRoutine.elim 0 fun routine =>
      routine.recordRequests.countWhere (previewRecordRequest cutoffMs routine)
  selectorPaths :=
    db.recordRoutine.elim 0 fun routine =>
      routine.selectorPaths.countWhere (previewSelectorPath cutoffMs routine.actionEvents.rows)

end Preview

section Delete

variable (engine : SqlEngine) (performedAt cutoffMs : I64)

/-- `delete_returning_audit_batched` on one of the seq-bearing tables: the
positions deleted and the table left. -/
def deleteReturningAuditBatched {Row : Type} {position : Row → Int × I64} (matching : Row → Bool)
    (table : Table position) : List (Int × I64) × Table position :=
  let result := Table.deleteBatched (engine.scan matching pruneReturningBatch)
    prune_returning_batch_pos table
  (result.1.map position, result.2)

/-- `prune_old_event_rows` where the Record Routine tables exist. -/
def pruneWithRoutine (sessions : Table SessionRow.sessionId) (events : Table EventRow.position)
    (routine : RecordRoutineTables) :
    Activity × DashboardPruneResult × DeletionAuditAggregate :=
  let oldActions := deleteReturningAuditBatched engine (oldAction cutoffMs) routine.actionEvents
  let oldEvents := deleteReturningAuditBatched engine (oldEvent cutoffMs) events
  let prunedRecording := recordSessionPrunable cutoffMs oldActions.2.rows
  let recordSessions := routine.recordSessions.deleteWhere prunedRecording
  let orphans := deleteReturningAuditBatched engine (orphanAction recordSessions.rows) oldActions.2
  let prunedSession := sessionPrunable oldEvents.2.rows orphans.2.rows recordSessions.rows
  let prunedRequest := recordRequestPrunable cutoffMs recordSessions.rows
  let orphanSelector := selectorOrphan orphans.2.rows
  (⟨sessions.deleteWhere prunedSession, oldEvents.2,
      ⟨routine.recordRequests.deleteWhere prunedRequest, recordSessions,
        routine.selectorPaths.deleteWhere orphanSelector, orphans.2⟩⟩,
    { eventsDeleted := oldEvents.1.length
      sessionsDeleted := sessions.countWhere prunedSession
      compactionCompleted := true
      compactError := none
      actionEventsDeleted := oldActions.1.length + orphans.1.length
      recordSessionsDeleted := routine.recordSessions.countWhere prunedRecording
      recordRequestsDeleted := routine.recordRequests.countWhere prunedRequest
      selectorPathsDeleted := routine.selectorPaths.countWhere orphanSelector },
    noteAll (noteAll (noteAll [] oldActions.1) oldEvents.1) orphans.1)

/-- `prune_old_event_rows` on a database that predates the Record Routine. -/
def pruneWithoutRoutine (sessions : Table SessionRow.sessionId) (events : Table EventRow.position) :
    (Table SessionRow.sessionId × Table EventRow.position) × DashboardPruneResult ×
      DeletionAuditAggregate :=
  let oldEvents := deleteReturningAuditBatched engine (oldEvent cutoffMs) events
  let prunedSession := fun session : SessionRow =>
    session.endedAt.isSome && !sessionHasEvent oldEvents.2.rows session
  ((sessions.deleteWhere prunedSession, oldEvents.2),
    { eventsDeleted := oldEvents.1.length
      sessionsDeleted := sessions.countWhere prunedSession
      compactionCompleted := true
      compactError := none
      actionEventsDeleted := 0
      recordSessionsDeleted := 0
      recordRequestsDeleted := 0
      selectorPathsDeleted := 0 },
    noteAll [] oldEvents.1)

def pruneOldEventRows (db : DashboardDatabase) : DashboardDatabase × DashboardPruneResult :=
  -- A store that has not reached migration 008 skips the audit.
  let audit := fun aggregate =>
    db.deletionAudit.map
      (recordDeletionAudit "dashboard_prune" performedAt (some cutoffMs) aggregate)
  match db.recordRoutine with
  | some routine =>
      let pruned := pruneWithRoutine engine cutoffMs db.sessions db.events routine
      (⟨pruned.1.sessions, pruned.1.events, some pruned.1.recordRoutine, audit pruned.2.2⟩,
        pruned.2.1)
  | none =>
      let pruned := pruneWithoutRoutine engine cutoffMs db.sessions db.events
      (⟨pruned.1.1, pruned.1.2, none, audit pruned.2.2⟩, pruned.2.1)

/-- `prune_old_events`, with what the compaction after the commit reported. -/
def pruneOldEvents (compactError : Option String) (db : DashboardDatabase) :
    DashboardDatabase × DashboardPruneResult :=
  let pruned := pruneOldEventRows engine performedAt cutoffMs db
  (pruned.1,
    { pruned.2 with
      compactionCompleted := compactError.isNone
      compactError := compactError })

structure PruneReport where
  eventsDeleted : Nat
  sessionsDeleted : Nat
deriving DecidableEq

/-- `prune_old_activity`: the startup retention's own copy of the sequence. -/
def pruneOldActivity (db : Database) : Database × PruneReport :=
  let oldActions := deleteReturningAuditBatched engine (oldAction cutoffMs)
    db.activity.recordRoutine.actionEvents
  let oldEvents := deleteReturningAuditBatched engine (oldEvent cutoffMs) db.activity.events
  let recordSessions := db.activity.recordRoutine.recordSessions.deleteWhere
    (recordSessionPrunable cutoffMs oldActions.2.rows)
  let orphans := deleteReturningAuditBatched engine (orphanAction recordSessions.rows) oldActions.2
  let prunedSession := sessionPrunable oldEvents.2.rows orphans.2.rows recordSessions.rows
  let recordRequests := db.activity.recordRoutine.recordRequests.deleteWhere
    (recordRequestPrunable cutoffMs recordSessions.rows)
  let selectorPaths := db.activity.recordRoutine.selectorPaths.deleteWhere
    (selectorOrphan orphans.2.rows)
  ({ db with
      activity :=
        ⟨db.activity.sessions.deleteWhere prunedSession, oldEvents.2,
          ⟨recordRequests, recordSessions, selectorPaths, orphans.2⟩⟩
      deletionAudit :=
        recordDeletionAudit "startup_retention" performedAt (some cutoffMs)
          (noteAll (noteAll (noteAll [] oldActions.1) oldEvents.1) orphans.1) db.deletionAudit },
    { eventsDeleted := oldEvents.1.length
      sessionsDeleted := db.activity.sessions.countWhere prunedSession })

end Delete

end Gilbreth.Store
