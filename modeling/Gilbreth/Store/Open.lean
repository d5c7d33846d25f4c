import Gilbreth.Store.Books

/-!
# Opening the store

After the migrations an open gives the database its identity, turns a focus row
left behind into one recovered row, ends what a crash left open and expires the
requests it left confirmed. Every statement commits by itself, so a failure
leaves what came before it.
-/

set_option autoImplicit false

namespace Gilbreth.Store

open Gilbreth.Core

structure OpenReadings where
  createdAt : I64
  dbUuid : String
  uuidFault : Option StoreError
  createdFault : Option StoreError
  repairFault : Option StoreError
  discardFault : Option StoreError
  sessionsFault : Option StoreError
  recordSessionsFault : Option StoreError
  reconciledAt : I64
  reconcileFault : Option StoreError

/-- Every statement of the open succeeds. -/
def OpenReadings.clear (createdAt reconciledAt : I64) (dbUuid : String) : OpenReadings where
  createdAt := createdAt
  dbUuid := dbUuid
  uuidFault := none
  createdFault := none
  repairFault := none
  discardFault := none
  sessionsFault := none
  recordSessionsFault := none
  reconciledAt := reconciledAt
  reconcileFault := none

namespace Database

variable (fault : Option StoreError) (db : Database)

/-- `INSERT OR IGNORE INTO meta`. -/
def insertMeta (key value : String) : Except StoreError Database :=
  statement fault { db with metaRows := (db.metaRows.insert? ⟨key, value⟩).getD db.metaRows }

def ensureMetaIdentity (second : Option StoreError) (createdAt : I64) (dbUuid : String) :
    Database × Except StoreError Unit :=
  match db.insertMeta fault "db_uuid" dbUuid with
  | .error error => (db, .error error)
  | .ok named =>
      match named.insertMeta second "created_at" s!"{createdAt.val}" with
      | .error error => (named, .error error)
      | .ok dated => (dated, .ok ())

/-- A failed repair discards the row as best it can. -/
def repairOrDiscard (discardFault : Option StoreError) : Database :=
  match repairOpenFocus fault db with
  | .ok repaired => repaired.1
  | .error _ => (db.deleteOpenFocus discardFault).toOption.getD db

/-- `MAX(events.ts)` of a session. -/
def newestEventTs (sessionId : Int) : Option I64 :=
  ((db.activity.events.rows.filter fun row => row.sessionId == sessionId).map EventRow.ts).max?

/-- `MAX(action_events.ts)` of a recording. -/
def newestActionTs (recordSessionId : Int) : Option I64 :=
  ((db.activity.recordRoutine.actionEvents.rows.filter fun row =>
    row.recordSessionId == recordSessionId).map ActionEventRow.ts).max?

/-- `SET ended_at = max(started_at, COALESCE(…, started_at))`. -/
def endOrphanSession (row : SessionRow) : SessionRow :=
  { row with
    endedAt := some (max row.startedAt ((db.newestEventTs row.sessionId).getD row.startedAt)) }

def finalizeOrphanSessions : Except StoreError Database :=
  statement fault
    { db with
      activity.sessions := db.activity.sessions.updateWhere (fun row => row.endedAt.isNone)
        db.endOrphanSession fun _ => rfl }

def endOrphanRecordSession (row : RecordSessionRow) : RecordSessionRow :=
  { row with
    endedTs :=
      some (max row.startedTs ((db.newestActionTs row.recordSessionId).getD row.startedTs))
    stopReason := some .error }

def finalizeOrphanRecordSessions : Except StoreError Database :=
  statement fault
    (db.updateRecordSessions (fun row => row.endedTs.isNone) db.endOrphanRecordSession
      fun _ => rfl)

def reconcileConfirmedRecordRequests (updatedAt : I64) : Except StoreError Database :=
  statement fault
    (db.updateRequests
      (fun row => row.status == .confirmed && row.fulfilledRecordSessionId.isNone) .expired
      updatedAt)

/-- `GilbrethStore::open` on a migrated database. -/
def openStore (readings : OpenReadings) : Database × Except StoreError Unit :=
  match db.ensureMetaIdentity readings.uuidFault readings.createdFault readings.createdAt
      readings.dbUuid with
  | (db, .error error) => (db, .error error)
  | (db, .ok ()) =>
      let db := db.repairOrDiscard readings.repairFault readings.discardFault
      match db.finalizeOrphanSessions readings.sessionsFault with
      | .error error => (db, .error error)
      | .ok db =>
          match db.finalizeOrphanRecordSessions readings.recordSessionsFault with
          | .error error => (db, .error error)
          | .ok db =>
              match db.reconcileConfirmedRecordRequests readings.reconcileFault
                  readings.reconciledAt with
              | .error error => (db, .error error)
              | .ok db => (db, .ok ())

end Database

section Repair

variable {fault : Option StoreError} {db repaired : Database} {count : Nat}

theorem SameBooks.repair_open_focus (succeeded : repairOpenFocus fault db = .ok (repaired, count)) :
    SameBooks db repaired := by
  unfold repairOpenFocus at succeeded
  cases present : db.openFocus with
  | none =>
      rw [present] at succeeded
      obtain ⟨rfl, _⟩ := Prod.mk.inj (statement_ok succeeded).2
      exact .refl _
  | some row =>
      rw [present] at succeeded
      dsimp only at succeeded
      split_ifs at succeeded
      · obtain ⟨rfl, _⟩ := Prod.mk.inj (statement_ok succeeded).2
        exact set_open_focus db none
      all_goals
        split at succeeded
        · cases succeeded
        · rename_i inserted added
          obtain ⟨rfl, _⟩ := Prod.mk.inj (statement_ok succeeded).2
          exact (insert_event added).trans (set_open_focus inserted none)

theorem SameBooks.repair_or_discard (db : Database) (fault discardFault : Option StoreError) :
    SameBooks db (db.repairOrDiscard fault discardFault) := by
  unfold Database.repairOrDiscard
  split
  · rename_i repaired succeeded
    exact repair_open_focus succeeded
  · cases discardFault with
    | none => exact set_open_focus db none
    | some error => exact refl db

end Repair

end Gilbreth.Store
