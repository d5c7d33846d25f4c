import Gilbreth.Store.DeletionAudit
import Gilbreth.Store.Statements

/-!
# The audited deletions

Two retentions of the store and three operations of the dashboard delete numbered
rows. Each runs its statements in one transaction, which either commits or leaves
nothing behind; the mouse-move retention commits batch by batch. What can fail
around a transaction is an argument.
-/

set_option autoImplicit false

namespace Gilbreth.Store

open Gilbreth.Core

section SecureDelete

/-- What fails when an operation turns `secure_delete` on, in its transaction, and
when it puts the setting back. -/
structure SecureFaults where
  setting : Option StoreError
  transaction : Option StoreError
  restore : Option StoreError

/-- `with_temporary_secure_delete`, and the same match of `prune_old_activity`. -/
def withTemporarySecureDelete {Store Report : Type} (faults : SecureFaults) (store : Store)
    (committed : Except StoreError (Store × Report)) : Store × Except StoreError Report :=
  match faults.setting with
  | some error => (store, .error error)
  | none =>
      match faults.transaction.elim committed .error with
      | .error error => (store, .error error)
      | .ok (after, report) => (after, faults.restore.elim (.ok report) .error)

structure DeleteResult where
  deleted : Nat
  scrubWarning : Option String
deriving DecidableEq

end SecureDelete

section Dashboard

variable (engine : SqlEngine) (performedAt : I64)

/-- `DELETE FROM events WHERE id = ?1 RETURNING session_id, seq`, one identifier after
the other. The row identifier is SQLite's own. -/
def deleteEventRows (eventId : EventRow → Int) :
    List Int → Table EventRow.position → List (Int × I64) × Table EventRow.position
  | [], events => ([], events)
  | id :: rest, events =>
      let matching := fun event => eventId event == id
      let later := deleteEventRows eventId rest (events.deleteWhere matching)
      ((events.rows.filter matching).map EventRow.position ++ later.1, later.2)

def sortedIds (ids : List Int) : List Int :=
  (ids.mergeSort fun left right => decide (left ≤ right)).dedup

def deleteEvents (eventId : EventRow → Int) (faults : SecureFaults)
    (scrubWarning : Option String) (eventIds : List Int) (db : DashboardDatabase) :
    DashboardDatabase × Except StoreError DeleteResult :=
  let ids := sortedIds eventIds
  if ids = [] then (db, .ok ⟨0, none⟩)
  else
    let result := deleteEventRows eventId ids db.events
    let after :=
      { db with
        events := result.2
        deletionAudit := db.deletionAudit.map
          (recordDeletionAudit "event_delete" performedAt none (noteAll [] result.1)) }
    withTemporarySecureDelete faults db (.ok (after, ⟨result.1.length, scrubWarning⟩))

def requestOfRecording (recordSessionId : Int) (requestId : Option Int)
    (request : RecordRequestRow) : Bool :=
  request.fulfilledRecordSessionId == some recordSessionId || some request.requestId == requestId

def deleteRecordingRows (recordSessionId : Int) (db : DashboardDatabase)
    (routine : RecordRoutineTables) : Except StoreError (DashboardDatabase × Nat) :=
  match routine.recordSessions.rows.find? fun row => row.recordSessionId == recordSessionId with
  | none => .ok (db, 0)
  | some recording =>
      if recording.endedTs.isNone then
        .error (.recordRoutine "cannot delete an open recording")
      else
        let actions := deleteReturningAuditBatched engine
          (fun action => action.recordSessionId == recordSessionId) routine.actionEvents
        let own := fun row : RecordSessionRow => row.recordSessionId == recordSessionId
        .ok
          ({ db with
             recordRoutine := some
               { recordRequests := routine.recordRequests.deleteWhere
                   (requestOfRecording recordSessionId recording.requestId)
                 recordSessions := routine.recordSessions.deleteWhere own
                 selectorPaths := routine.selectorPaths.deleteWhere (selectorOrphan actions.2.rows)
                 actionEvents := actions.2 }
             deletionAudit := db.deletionAudit.map
               (recordDeletionAudit "recording_delete" performedAt none (noteAll [] actions.1)) },
            routine.recordSessions.countWhere own)

def deleteRecording (faults : SecureFaults) (scrubWarning : Option String)
    (recordSessionId : Int) (db : DashboardDatabase) :
    DashboardDatabase × Except StoreError DeleteResult :=
  match db.recordRoutine with
  | none => (db, .ok ⟨0, none⟩)
  | some routine =>
      let result := withTemporarySecureDelete faults db
        (deleteRecordingRows engine performedAt recordSessionId db routine)
      (result.1, result.2.map fun deleted => ⟨deleted, scrubWarning⟩)

/-- `prune_old_events`, also when it fails. -/
def pruneOldEventsWith (cutoffMs : I64) (faults : SecureFaults) (compactError : Option String)
    (db : DashboardDatabase) : DashboardDatabase × Except StoreError DashboardPruneResult :=
  withTemporarySecureDelete faults db
    (.ok (pruneOldEvents engine performedAt cutoffMs compactError db))

end Dashboard

section Retention

variable (engine : SqlEngine) (performedAt cutoffMs : I64)

/-- `prune_old_activity`, also when it fails. -/
def pruneOldActivityWith (faults : SecureFaults) (db : Database) :
    Database × Except StoreError PruneReport :=
  withTemporarySecureDelete faults db (.ok (pruneOldActivity engine performedAt cutoffMs db))

def pruneBatch : Nat := 20000

theorem prune_batch_pos : 0 < pruneBatch := by decide

/-- `kind = 'mouse_move' AND ts < ?1`. -/
def oldMouseMove (event : EventRow) : Bool :=
  event.kind == "mouse_move" && decide (event.ts < cutoffMs)

/-- One batch of `prune_mouse_moves_before`, committed with its audit. -/
def pruneMouseBatch (db : Database) : Nat × Database :=
  let picked := (engine.scan (oldMouseMove cutoffMs) pruneBatch).pick db.activity.events.rows
  (picked.length,
    { db with
      activity.events := db.activity.events.without picked
      deletionAudit := recordDeletionAudit "mouse_move_retention" performedAt (some cutoffMs)
        (noteAll [] (picked.map EventRow.position)) db.deletionAudit })

/-- The loop from the given batch on. A batch that fails leaves the earlier ones. -/
def pruneMouseMovesFrom (faults : Nat → Option StoreError) (batch total : Nat) (db : Database) :
    Database × Except StoreError Nat :=
  match faults batch with
  | some error => (db, .error error)
  | none =>
      if _short : (pruneMouseBatch engine performedAt cutoffMs db).1 < pruneBatch then
        ((pruneMouseBatch engine performedAt cutoffMs db).2,
          .ok (total + (pruneMouseBatch engine performedAt cutoffMs db).1))
      else
        pruneMouseMovesFrom faults (batch + 1)
          (total + (pruneMouseBatch engine performedAt cutoffMs db).1)
          (pruneMouseBatch engine performedAt cutoffMs db).2
termination_by db.activity.events.rows.length
decreasing_by
  exact Table.without_full_pick_shorter (engine.scan (oldMouseMove cutoffMs) pruneBatch)
    db.activity.events prune_batch_pos _short

def pruneMouseMovesBefore (faults : Nat → Option StoreError) (db : Database) :
    Database × Except StoreError Nat :=
  pruneMouseMovesFrom engine performedAt cutoffMs faults 0 0 db

end Retention

section Calls

/-- The migrated database as a dashboard connection finds it. -/
def Database.dashboard (db : Database) : DashboardDatabase where
  sessions := db.activity.sessions
  events := db.activity.events
  recordRoutine := some db.activity.recordRoutine
  deletionAudit := some db.deletionAudit

/-- What a dashboard connection left is there for the store. -/
def Database.withDashboard (db : Database) (left : DashboardDatabase) : Database :=
  { db with activity := left.activity, deletionAudit := left.deletionAudit.getD [] }

inductive DeletionCall where
  | pruneOldActivity (performedAt cutoffMs : I64) (faults : SecureFaults)
  | pruneMouseMovesBefore (performedAt cutoffMs : I64) (faults : Nat → Option StoreError)
  | pruneOldEvents (performedAt cutoffMs : I64) (faults : SecureFaults)
      (compactError : Option String)
  | deleteEvents (performedAt : I64) (faults : SecureFaults) (scrubWarning : Option String)
      (eventIds : List Int)
  | deleteRecording (performedAt : I64) (faults : SecureFaults) (scrubWarning : Option String)
      (recordSessionId : Int)

variable (engine : SqlEngine) (eventId : EventRow → Int)

/-- The database after a call and whether the call reported success. -/
def DeletionCall.run (call : DeletionCall) (db : Database) : Database × Except StoreError Unit :=
  match call with
  | .pruneOldActivity performedAt cutoffMs faults =>
      let result := pruneOldActivityWith engine performedAt cutoffMs faults db
      (result.1, result.2.map fun _ => ())
  | .pruneMouseMovesBefore performedAt cutoffMs faults =>
      let result := Store.pruneMouseMovesBefore engine performedAt cutoffMs faults db
      (result.1, result.2.map fun _ => ())
  | .pruneOldEvents performedAt cutoffMs faults compactError =>
      let result := pruneOldEventsWith engine performedAt cutoffMs faults compactError db.dashboard
      (db.withDashboard result.1, result.2.map fun _ => ())
  | .deleteEvents performedAt faults scrubWarning eventIds =>
      let result := Store.deleteEvents performedAt eventId faults scrubWarning eventIds db.dashboard
      (db.withDashboard result.1, result.2.map fun _ => ())
  | .deleteRecording performedAt faults scrubWarning recordSessionId =>
      let result := Store.deleteRecording engine performedAt faults scrubWarning recordSessionId
        db.dashboard
      (db.withDashboard result.1, result.2.map fun _ => ())

end Calls

end Gilbreth.Store
