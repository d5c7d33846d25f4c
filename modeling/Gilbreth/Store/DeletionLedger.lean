import Gilbreth.Store.Deletions
import Gilbreth.Store.RequestLifecycle

/-!
# Every audited deletion accounts for what it deleted

Whatever fails around it, a call leaves an audit that accounts for every number
gone since before the call. Outside these calls only a reset deletes a row, or
takes an audit row away.
-/

set_option autoImplicit false

namespace Gilbreth.Store

open Gilbreth.Core

section Ledgers

def DashboardDatabase.ledger (db : DashboardDatabase) : Ledger where
  events := db.events.rows.map EventRow.position
  actions := (db.recordRoutine.getD .empty).actionEvents.rows.map ActionEventRow.position
  audit := db.deletionAudit.getD []
  eventsDistinct := db.events.distinct
  actionsDistinct := (db.recordRoutine.getD .empty).actionEvents.distinct

def Database.ledger (db : Database) : Ledger := db.dashboard.ledger

end Ledgers

section Taking

variable {Row : Type} {position : Row → Int × I64}

theorem taken_delete_where (table : Table position) (matching : Row → Bool) :
    Taken (table.rows.map position) ((table.rows.filter matching).map position)
      ((table.deleteWhere matching).rows.map position) := by
  rw [Taken, ← List.map_append]
  exact (List.filter_append_perm matching table.rows).map position

theorem taken_batched (engine : SqlEngine) (matching : Row → Bool) (table : Table position) :
    Taken (table.rows.map position) (deleteReturningAuditBatched engine matching table).1
      ((deleteReturningAuditBatched engine matching table).2.rows.map position) := by
  have deleted := Table.delete_batched_eq (engine.scan matching pruneReturningBatch)
    prune_returning_batch_pos table
  rw [deleteReturningAuditBatched]
  dsimp only
  rw [deleted.2]
  exact ((deleted.1.map position).append_right _).trans (taken_delete_where table matching)

theorem taken_pick {limit : Nat} {matching : Row → Bool} (scan : Table.Scan matching limit)
    (table : Table position) :
    Taken (table.rows.map position) ((scan.pick table.rows).map position)
      ((table.without (scan.pick table.rows)).rows.map position) := by
  rw [Taken, ← List.map_append]
  exact (Table.pick_without_perm scan table).map position

theorem taken_event_rows (eventId : EventRow → Int) (ids : List Int)
    (events : Table EventRow.position) :
    Taken (events.rows.map EventRow.position) (deleteEventRows eventId ids events).1
      ((deleteEventRows eventId ids events).2.rows.map EventRow.position) := by
  induction ids generalizing events with
  | nil => exact .none _
  | cons id rest induction =>
      exact (taken_delete_where events fun event => eventId event == id).trans (induction _)

end Taking

section Transactions

theorem with_secure_delete_cases {Store Report : Type} (faults : SecureFaults) (store : Store)
    (committed : Except StoreError (Store × Report)) :
    ((withTemporarySecureDelete faults store committed).1 = store ∧
        ∃ error, (withTemporarySecureDelete faults store committed).2 = .error error) ∨
      ∃ after report, committed = .ok (after, report) ∧
        (withTemporarySecureDelete faults store committed).1 = after ∧
        (withTemporarySecureDelete faults store committed).2 =
          faults.restore.elim (.ok report) .error := by
  rw [withTemporarySecureDelete]
  cases faults.setting with
  | some error => exact Or.inl ⟨rfl, error, rfl⟩
  | none =>
      cases faults.transaction with
      | some error => exact Or.inl ⟨rfl, error, rfl⟩
      | none =>
          cases committed with
          | error error => exact Or.inl ⟨rfl, error, rfl⟩
          | ok result => exact Or.inr ⟨result.1, result.2, rfl, rfl, rfl⟩

variable (engine : SqlEngine) (performedAt cutoffMs : I64)

theorem noted_perm (oldActions oldEvents orphans : List (Int × I64)) :
    (oldActions ++ oldEvents ++ orphans).Perm (oldEvents ++ (oldActions ++ orphans)) := by
  rw [← List.append_assoc]
  exact List.perm_append_comm.append_right orphans

theorem prune_old_activity_accounted (db : Database) :
    ∃ added, Accounted db.ledger (pruneOldActivity engine performedAt cutoffMs db).1.ledger
      added := by
  have actions := taken_batched engine (oldAction cutoffMs) db.activity.recordRoutine.actionEvents
  have events := taken_batched engine (oldEvent cutoffMs) db.activity.events
  exact ⟨_, accounted_of_taken events (actions.trans (taken_batched engine _ _))
    (noted_perm _ _ _) "startup_retention" performedAt (some cutoffMs) (by
      rw [← DeletionAuditAggregate.note_all_append, ← DeletionAuditAggregate.note_all_append]
      rfl)⟩

theorem prune_old_event_rows_accounted {db : DashboardDatabase} {audit : List DeletionAuditRow}
    (audited : db.deletionAudit = some audit) :
    ∃ added, Accounted db.ledger (pruneOldEventRows engine performedAt cutoffMs db).1.ledger
      added := by
  rcases db with ⟨sessions, events, tables, auditTable⟩
  have took := taken_batched engine (oldEvent cutoffMs) events
  obtain rfl : auditTable = some audit := audited
  cases tables with
  | none =>
      refine ⟨_, accounted_of_events _ took ?_ "dashboard_prune" performedAt (some cutoffMs) ?_⟩
      · rfl
      · rfl
  | some routine =>
      have actions := taken_batched engine (oldAction cutoffMs) routine.actionEvents
      exact ⟨_, accounted_of_taken took (actions.trans (taken_batched engine _ _))
        (noted_perm _ _ _) "dashboard_prune" performedAt (some cutoffMs) (by
          rw [← DeletionAuditAggregate.note_all_append, ← DeletionAuditAggregate.note_all_append]
          rfl)⟩

theorem delete_event_rows_accounted (eventId : EventRow → Int) (ids : List Int)
    {db : DashboardDatabase} {audit : List DeletionAuditRow}
    (audited : db.deletionAudit = some audit) :
    ∃ added, Accounted db.ledger
      { db with
        events := (deleteEventRows eventId ids db.events).2
        deletionAudit := db.deletionAudit.map (recordDeletionAudit "event_delete" performedAt none
          (noteAll [] (deleteEventRows eventId ids db.events).1)) : DashboardDatabase }.ledger
      added := by
  rcases db with ⟨sessions, events, tables, auditTable⟩
  obtain rfl : auditTable = some audit := audited
  have took := taken_event_rows eventId ids events
  refine ⟨_, accounted_of_events _ took ?_ "event_delete" performedAt none ?_⟩
  · rfl
  · rfl

theorem delete_recording_rows_accounted {recordSessionId : Int} {db after : DashboardDatabase}
    {routine : RecordRoutineTables} {deleted : Nat} {audit : List DeletionAuditRow}
    (tables : db.recordRoutine = some routine) (audited : db.deletionAudit = some audit)
    (succeeded : deleteRecordingRows engine performedAt recordSessionId db routine =
      .ok (after, deleted)) :
    ∃ added, Accounted db.ledger after.ledger added := by
  rcases db with ⟨sessions, events, recordRoutine, auditTable⟩
  obtain rfl : auditTable = some audit := audited
  obtain rfl : recordRoutine = some routine := tables
  rw [deleteRecordingRows] at succeeded
  split at succeeded
  · cases succeeded
    exact ⟨[], .refl _⟩
  · split_ifs at succeeded
    cases succeeded
    have actions := taken_batched engine
      (fun action => action.recordSessionId == recordSessionId) routine.actionEvents
    refine ⟨_, accounted_of_actions _ actions ?_ "recording_delete" performedAt none ?_⟩
    · rfl
    · rfl

theorem prune_mouse_batch_accounted (db : Database) :
    ∃ added, Accounted db.ledger (pruneMouseBatch engine performedAt cutoffMs db).2.ledger
      added := by
  have events := taken_pick (engine.scan (oldMouseMove cutoffMs) pruneBatch) db.activity.events
  refine ⟨_, accounted_of_events _ events ?_ "mouse_move_retention" performedAt (some cutoffMs) ?_⟩
  · rfl
  · rfl

/-- The batches that committed are accounted for, also when a later one fails. -/
theorem prune_mouse_moves_accounted (faults : Nat → Option StoreError) (batch total : Nat)
    (db : Database) :
    ∃ added, Accounted db.ledger
      (pruneMouseMovesFrom engine performedAt cutoffMs faults batch total db).1.ledger added := by
  fun_induction pruneMouseMovesFrom engine performedAt cutoffMs faults batch total db with
  | case1 => exact ⟨[], .refl _⟩
  | case2 => exact prune_mouse_batch_accounted engine performedAt cutoffMs _
  | case3 _ _ db _ _ induction =>
      rcases prune_mouse_batch_accounted engine performedAt cutoffMs db with ⟨added, first⟩
      rcases induction with ⟨more, later⟩
      exact ⟨added ++ more, first.trans later⟩

end Transactions

section Calls

/-- A transaction of the call may have committed before the call reports an error:
the setting could not be put back, or a later batch failed. -/
def DeletionCall.MayFailLate : DeletionCall → Prop
  | .pruneMouseMovesBefore _ _ faults => faults 0 = none
  | .pruneOldActivity _ _ faults
  | .pruneOldEvents _ _ faults _
  | .deleteEvents _ faults _ _
  | .deleteRecording _ faults _ _ => faults.restore ≠ none

variable (engine : SqlEngine) (eventId : EventRow → Int)

theorem accounted_of_secure_delete {Store Report : Type} (ledgerOf : Store → Ledger)
    (faults : SecureFaults) (store : Store) (committed : Except StoreError (Store × Report))
    (accounts : ∀ after report, committed = .ok (after, report) →
      ∃ added, Accounted (ledgerOf store) (ledgerOf after) added) :
    ∃ added, Accounted (ledgerOf store)
      (ledgerOf (withTemporarySecureDelete faults store committed).1) added := by
  rcases with_secure_delete_cases faults store committed with
    ⟨same, _⟩ | ⟨after, report, done, left, _⟩
  · rw [same]
    exact ⟨[], .refl _⟩
  · rw [left]
    exact accounts after report done

theorem deletion_call_accounted (call : DeletionCall) (db : Database) :
    ∃ added, Accounted db.ledger (call.run engine eventId db).1.ledger added := by
  cases call with
  | pruneOldActivity performedAt cutoffMs faults =>
      apply accounted_of_secure_delete Database.ledger faults db
      intro after report done
      cases done
      exact prune_old_activity_accounted engine performedAt cutoffMs db
  | pruneMouseMovesBefore performedAt cutoffMs faults =>
      exact prune_mouse_moves_accounted engine performedAt cutoffMs faults 0 0 db
  | pruneOldEvents performedAt cutoffMs faults compactError =>
      apply accounted_of_secure_delete DashboardDatabase.ledger faults db.dashboard
      intro after report done
      cases done
      exact prune_old_event_rows_accounted engine performedAt cutoffMs rfl
  | deleteEvents performedAt faults scrubWarning eventIds =>
      change ∃ added, Accounted db.dashboard.ledger
        (Store.deleteEvents performedAt eventId faults scrubWarning eventIds
          db.dashboard).1.ledger added
      rw [Store.deleteEvents]
      split_ifs
      · exact ⟨[], .refl _⟩
      · apply accounted_of_secure_delete DashboardDatabase.ledger faults db.dashboard
        intro after report done
        cases done
        exact delete_event_rows_accounted performedAt eventId (sortedIds eventIds) rfl
  | deleteRecording performedAt faults scrubWarning recordSessionId =>
      apply accounted_of_secure_delete DashboardDatabase.ledger faults db.dashboard
      intro after report done
      exact delete_recording_rows_accounted engine performedAt rfl rfl done

theorem unchanged_of_secure_delete {Store Report : Type} (faults : SecureFaults) (store : Store)
    (committed : Except StoreError (Store × Report)) (restored : faults.restore = none)
    {error : StoreError}
    (failed : (withTemporarySecureDelete faults store committed).2 = .error error) :
    (withTemporarySecureDelete faults store committed).1 = store := by
  rcases with_secure_delete_cases faults store committed with ⟨same, _⟩ | ⟨_, report, _, _, reply⟩
  · exact same
  · rw [reply, restored] at failed
    cases failed

theorem error_of_map {Report Other : Type} {result : Except StoreError Report}
    {report : Report → Other} {error : StoreError} (failed : result.map report = .error error) :
    result = .error error := by
  cases result with
  | error other =>
      cases failed
      rfl
  | ok report => cases failed

theorem failed_call_unchanged (call : DeletionCall) (db : Database) {error : StoreError}
    (failed : (call.run engine eventId db).2 = .error error) (early : ¬call.MayFailLate) :
    (call.run engine eventId db).1 = db := by
  cases call with
  | pruneOldActivity performedAt cutoffMs faults =>
      exact unchanged_of_secure_delete faults db _ (not_not.mp early) (error_of_map failed)
  | pruneMouseMovesBefore performedAt cutoffMs faults =>
      change (pruneMouseMovesBefore engine performedAt cutoffMs faults db).1 = db
      rw [pruneMouseMovesBefore, pruneMouseMovesFrom]
      split
      · rfl
      · rename_i committed
        exact absurd committed early
  | pruneOldEvents performedAt cutoffMs faults compactError =>
      exact congrArg db.withDashboard (unchanged_of_secure_delete faults db.dashboard _
        (not_not.mp early) (error_of_map failed))
  | deleteEvents performedAt faults scrubWarning eventIds =>
      have same : (deleteEvents performedAt eventId faults scrubWarning eventIds
          db.dashboard).1 = db.dashboard := by
        have reply := error_of_map failed
        by_cases none : sortedIds eventIds = []
        · rw [deleteEvents, if_pos none]
        · rw [deleteEvents, if_neg none] at reply ⊢
          exact unchanged_of_secure_delete faults db.dashboard _ (not_not.mp early) reply
      exact congrArg db.withDashboard same
  | deleteRecording performedAt faults scrubWarning recordSessionId =>
      exact congrArg db.withDashboard (unchanged_of_secure_delete faults db.dashboard _
        (not_not.mp early) (error_of_map (error_of_map failed)))

end Calls

section Lifetimes

variable [Externals]

/-- No event row and no action row is gone, and the audit is as it was. -/
structure NothingDeleted (before after : Database) : Prop where
  events : before.activity.events.rows ⊆ after.activity.events.rows
  actionEvents : before.activity.recordRoutine.actionEvents.rows ⊆
    after.activity.recordRoutine.actionEvents.rows
  audit : after.deletionAudit = before.deletionAudit

namespace NothingDeleted

variable {before after : Database}

omit [Externals] in
theorem of_rows (events : after.activity.events = before.activity.events)
    (actionEvents : after.activity.recordRoutine.actionEvents =
      before.activity.recordRoutine.actionEvents)
    (audit : after.deletionAudit = before.deletionAudit) : NothingDeleted before after := by
  refine ⟨?_, ?_, audit⟩
  · rw [events]
    exact List.Subset.refl _
  · rw [actionEvents]
    exact List.Subset.refl _

omit [Externals] in
theorem refl (db : Database) : NothingDeleted db db := of_rows rfl rfl rfl

omit [Externals] in
theorem trans {first second third : Database} (left : NothingDeleted first second)
    (right : NothingDeleted second third) : NothingDeleted first third where
  events := List.Subset.trans left.events right.events
  actionEvents := List.Subset.trans left.actionEvents right.actionEvents
  audit := right.audit.trans left.audit

omit [Externals] in
theorem books (same : SameBooks before after) : NothingDeleted before after :=
  ⟨same.events, same.actionEvents, same.deletionAudit⟩

omit [Externals] in
theorem routine (frame : RoutineFrame before after) : NothingDeleted before after :=
  of_rows frame.events frame.actionEvents frame.deletionAudit

theorem persist (state : WriterState) (faults : PersistFaults) :
    NothingDeleted state.store (state.persistDiagnosticsCounters faults).store := by
  have kept : ∀ (readFault writeFault : Option StoreError) (key : String) (runTotal : Nat)
      (counter : DropCounter) (db : Database),
      NothingDeleted db (persistDropped readFault writeFault key runTotal counter db).2 := by
    intro readFault writeFault key runTotal counter db
    unfold persistDropped
    generalize (if counter.resetPending then DropCounter.rebased runTotal else counter) = current
    dsimp only
    split_ifs
    · exact refl db
    · split
      · rename_i written upserted
        obtain ⟨_, rfl⟩ := statement_ok upserted
        exact of_rows rfl rfl rfl
      · exact refl db
  exact (kept _ _ _ _ _ _).trans (kept _ _ _ _ _ _)

omit [Externals] in
theorem open_store (store : Database) (readings : OpenReadings) :
    NothingDeleted store (store.openStore readings).1 := by
  have identified : ∀ second, NothingDeleted store
      (store.ensureMetaIdentity readings.uuidFault second readings.createdAt
        readings.dbUuid).1 := by
    intro second
    unfold Database.ensureMetaIdentity
    split
    · exact refl store
    · rename_i named inserted
      obtain ⟨_, rfl⟩ := statement_ok inserted
      split
      · exact of_rows rfl rfl rfl
      · rename_i dated stamped
        obtain ⟨_, rfl⟩ := statement_ok stamped
        exact of_rows rfl rfl rfl
  have identified := identified readings.createdFault
  unfold Database.openStore
  split
  · rename_i db error failed
    rw [failed] at identified
    exact identified
  · rename_i db succeeded
    rw [succeeded] at identified
    have repaired : NothingDeleted store
        (db.repairOrDiscard readings.repairFault readings.discardFault) :=
      identified.trans (books (.repair_or_discard db readings.repairFault readings.discardFault))
    dsimp only
    split
    · exact repaired
    · rename_i ended sessions
      obtain ⟨_, rfl⟩ := statement_ok sessions
      split
      · exact repaired.trans (of_rows rfl rfl rfl)
      · rename_i recorded recordings
        obtain ⟨_, rfl⟩ := statement_ok recordings
        split
        · exact repaired.trans (of_rows rfl rfl rfl)
        · rename_i reconciled requests
          obtain ⟨_, rfl⟩ := statement_ok requests
          exact repaired.trans (of_rows rfl rfl rfl)

theorem launch (readings : LaunchReadings) (policy : Policy) (store : Database) :
    NothingDeleted store (Store.launch readings policy store).store := by
  have opened := open_store store readings.opening
  unfold Gilbreth.Store.launch
  split
  · rename_i db error failed
    rw [failed] at opened
    exact opened
  · rename_i db succeeded
    rw [succeeded] at opened
    split
    · exact opened
    · rename_i created sessionId inserted
      obtain ⟨rfl, _⟩ := Prod.mk.inj (statement_ok inserted).2
      exact opened.trans (of_rows rfl rfl rfl)

theorem reset {state after : WriterState} (outcome : ResetOutcome state after) :
    NothingDeleted state.store after.store ∨ after.store.deletionAudit = [] := by
  cases outcome with
  | refused => exact Or.inl (refl _)
  | unsettled drained => exact Or.inl (books drained.books)
  | settled frame finalized =>
      exact Or.inl ((books frame.books).trans (routine (.finalize finalized)))
  | wiped wiped => exact Or.inr wiped.deletionAudit

variable [StoreExternals] (config : WriterConfig)

theorem writer_turn (state : WriterState) (turn : WriterTurn) :
    NothingDeleted state.store (state.turn config turn).1.store ∨
      turn.isReset = true ∧ (state.turn config turn).1.store.deletionAudit = [] := by
  cases turn with
  | input input readings =>
      exact Or.inl (books (InputFrame.queue_writer_input config state readings input).books)
  | flushTick flush actionFlush =>
      exact Or.inl (books (InputFrame.flush_all_batches state flush actionFlush).books)
  | heartbeatTick clock faults => exact Or.inl (persist _ faults)
  | openFocusTick now fault => exact Or.inl (books (InputFrame.beat state now fault).books)
  | pollTick readings => exact Or.inl (routine (polled state readings).command_frame.routine)
  | forgetFocusAttribution fault =>
      exact Or.inl (books (InputFrame.clear_focus
        { state with policy := state.policy.forgetFocusAttribution } fault).books)
  | startRecording now faults command =>
      exact Or.inl (routine (start_recording_cases state now faults command).command_frame.routine)
  | stopRecording now flush actionFlush fault recordSessionId stopReason =>
      exact Or.inl ((books (InputFrame.drain_and_flush config state
        ⟨[], flush, actionFlush⟩).books).trans
          (routine (CommandFrame.stop_recording state now config ⟨[], flush, actionFlush⟩ fault
            recordSessionId stopReason).routine))
  | pauseRecording now fault recordSessionId =>
      exact Or.inl (routine (CommandFrame.pause_recording state now fault recordSessionId).routine)
  | resumeRecording now fault recordSessionId =>
      exact Or.inl (routine (CommandFrame.resume_recording state now fault
        recordSessionId).routine)
  | declineRecordRequest now fault requestId =>
      exact Or.inl (routine (CommandFrame.decline_record_request state now fault
        requestId).routine)
  | secureErase settle readings identity =>
      exact (reset (secure_erase_outcome config state settle readings identity)).imp_right
        fun emptied => ⟨rfl, emptied⟩
  | archiveAndReset settle archiving readings archivePath archive identity =>
      exact (reset (archive_and_reset_outcome config state settle readings identity archiving
        archivePath archive)).imp_right fun emptied => ⟨rfl, emptied⟩
  | extendCap recordSessionId => exact Or.inl (refl _)
  | panicCutoff cutoff => exact Or.inl (refl _)
  | captureDropped => exact Or.inl (refl _)

theorem shut_down (state : WriterState) (readings : ShutdownReadings) :
    NothingDeleted state.store (state.shutDown config readings).1.store := by
  have ended : NothingDeleted state.store (state.endRun config readings).1.store := by
    have drained : NothingDeleted state.store _ :=
      (books (InputFrame.drain_and_flush config state readings.drain).books).trans
        (books (InputFrame.clear_focus (state.drainAndFlush config readings.drain)
          readings.clearFault).books)
    unfold WriterState.endRun
    dsimp only
    split
    · exact drained
    · rename_i db finalized
      have finalized : NothingDeleted state.store db :=
        drained.trans (routine (.finalize finalized))
      split
      · exact finalized
      · rename_i after sessions
        obtain ⟨_, rfl⟩ := statement_ok sessions
        exact finalized.trans (of_rows rfl rfl rfl)
  unfold WriterState.shutDown
  split
  · rename_i after error failed
    rw [failed] at ended
    exact ended
  · rename_i after succeeded
    rw [succeeded] at ended
    exact ended.trans (persist after readings.persist)

theorem lifetime_turn (life : Lifetime) (turn : LifetimeTurn) :
    let after := ((lifetimeMachine config).step life turn).1
    NothingDeleted life.store after.store ∨
      turn.isReset = true ∧ after.store.deletionAudit = [] := by
  have requested : ∀ (db : Database) fault nowMs candidateKind candidateJson,
      NothingDeleted db (db.requested fault nowMs candidateKind candidateJson) := by
    intro db fault nowMs candidateKind candidateJson
    rcases requested_cases fault nowMs candidateKind candidateJson db with same | ⟨row, created⟩
    · rw [same]
      exact refl db
    · exact routine created.frame
  cases life with
  | closed store =>
      cases turn with
      | launch readings policy => exact Or.inl (launch readings policy store)
      | requestRecording fault nowMs candidateKind candidateJson =>
          exact Or.inl (requested store fault nowMs candidateKind candidateJson)
      | _ => exact Or.inl (refl _)
  | running state =>
      cases turn with
      | writer turn => exact writer_turn config state turn
      | stop readings => exact Or.inl (shut_down config state readings)
      | requestRecording fault nowMs candidateKind candidateJson =>
          exact Or.inl (requested state.store fault nowMs candidateKind candidateJson)
      | _ => exact Or.inl (refl _)

end NothingDeleted

variable [StoreExternals] (config : WriterConfig)

/-- The calls one after the other, whatever they report. -/
def runDeletions (engine : SqlEngine) (eventId : EventRow → Int) (calls : List DeletionCall)
    (db : Database) : Database :=
  calls.foldl (fun db call => (call.run engine eventId db).1) db

omit [Externals] [StoreExternals] in
theorem run_deletions_accounted (engine : SqlEngine) (eventId : EventRow → Int)
    (calls : List DeletionCall) (db : Database) :
    ∃ added, Accounted db.ledger (runDeletions engine eventId calls db).ledger added := by
  induction calls generalizing db with
  | nil => exact ⟨[], .refl _⟩
  | cons call rest induction =>
      rcases deletion_call_accounted engine eventId call db with ⟨added, first⟩
      rcases induction (call.run engine eventId db).1 with ⟨more, later⟩
      exact ⟨added ++ more, first.trans later⟩

/-- In every sequence of deletions each call accounts for the rows it removed, and so
does the whole sequence; a call that fails before a commit changes nothing; and
beside the deletions only a reset takes rows or touches the audit. -/
theorem deletions_account_for_every_row (engine : SqlEngine) (eventId : EventRow → Int)
    (db : Database) (calls : List DeletionCall) :
    let reached := runDeletions engine eventId calls db
    (∃ added, Accounted db.ledger reached.ledger added) ∧
      (∀ call : DeletionCall,
        (∃ added, Accounted reached.ledger (call.run engine eventId reached).1.ledger added) ∧
        ∀ error, (call.run engine eventId reached).2 = .error error → ¬call.MayFailLate →
          (call.run engine eventId reached).1 = reached) ∧
      ∀ (life : Lifetime) (turn : LifetimeTurn),
        let after := ((lifetimeMachine config).step life turn).1
        NothingDeleted life.store after.store ∨
          turn.isReset = true ∧ after.store.deletionAudit = [] := by
  intro reached
  refine ⟨run_deletions_accounted engine eventId calls db, fun call => ⟨?_, ?_⟩,
    NothingDeleted.lifetime_turn config⟩
  · exact deletion_call_accounted engine eventId call reached
  · intro error failed early
    exact failed_call_unchanged engine eventId call reached failed early

end Lifetimes

section

private def moveRow (seq : Nat) : EventRow :=
  { sessionId := 1, seq := .ofInt seq, ts := .ofInt 0, source := .mouse, kind := "mouse_move"
    isSensitive := false, hwnd := none, exe := none, title := none, pid := none, prevExe := none
    prevTitle := none, key := none, modShift := none, modCtrl := none, modAlt := none
    modWin := none, button := none, posX := none, posY := none, durationMs := none
    payload := .mouseMove 0 0 0 1 0 none none none none }

private theorem move_rows_distinct {count : Nat} (small : count ≤ pruneBatch) :
    (((List.range count).map moveRow).map EventRow.position).Nodup := by
  rw [List.map_map]
  apply List.nodup_range.map_on
  intro left inLeft right inRight same
  have seqs : (I64.ofInt left).val = (I64.ofInt right).val :=
    congrArg (fun position : Int × I64 => position.2.val) same
  rw [pruneBatch] at small
  rw [List.mem_range] at inLeft inRight
  rw [I64.ofInt, I64.ofInt, SatInt.clamp_of_mem _ (by omega) (by omega),
    SatInt.clamp_of_mem _ (by omega) (by omega)] at seqs
  exact Int.ofNat.inj seqs

private def moves (count : Nat) (small : count ≤ pruneBatch) : Database :=
  { Database.empty with
    activity := { Activity.empty with
      events := ⟨(List.range count).map moveRow, move_rows_distinct small⟩ } }

private def busy : StoreError := .sqlite .databaseBusy "database is locked"

private def afterFirst (batch : Nat) : Option StoreError := if batch = 0 then none else some busy

private theorem first_batch_full (engine : SqlEngine) {count : Nat} (all : count = pruneBatch) :
    ¬(pruneMouseBatch engine (.ofInt 5) (.ofInt 1) (moves count all.le)).1 < pruneBatch := by
  have each : ∀ row ∈ (List.range count).map moveRow, oldMouseMove (.ofInt 1) row = true := by
    intro row member
    rcases List.mem_map.mp member with ⟨seq, _, rfl⟩
    rfl
  have matching : ((List.range count).map moveRow).countP (oldMouseMove (.ofInt 1)) = count := by
    rw [List.countP_eq_length.mpr each, List.length_map, List.length_range]
  have picked := (engine.scan (oldMouseMove (.ofInt 1)) pruneBatch).length_pick
    ((List.range count).map moveRow)
  rw [matching] at picked
  have taken : (pruneMouseBatch engine (.ofInt 5) (.ofInt 1) (moves count all.le)).1 =
      min pruneBatch count := picked
  omega

private theorem second_batch_fails (engine : SqlEngine) {count : Nat} (all : count = pruneBatch) :
    pruneMouseMovesBefore engine (.ofInt 5) (.ofInt 1) afterFirst (moves count all.le) =
      ((pruneMouseBatch engine (.ofInt 5) (.ofInt 1) (moves count all.le)).2, .error busy) := by
  rw [pruneMouseMovesBefore, pruneMouseMovesFrom]
  change dite _ _ _ = _
  rw [dif_neg (first_batch_full engine all), pruneMouseMovesFrom]
  rfl

/-- Twenty thousand old mouse moves go with the first batch, the second batch fails. -/
theorem failed_prune_keeps_its_batches :
    ¬∀ (engine : SqlEngine) (eventId : EventRow → Int) (call : DeletionCall) (db : Database)
      (error : StoreError), (call.run engine eventId db).2 = .error error →
        (call.run engine eventId db).1 = db := by
  intro unchanged
  generalize sized : pruneBatch = count
  have all := sized.symm
  let engine : SqlEngine := ⟨fun matching limit => .first matching limit⟩
  have run : DeletionCall.run engine (fun _ => 0)
      (.pruneMouseMovesBefore (.ofInt 5) (.ofInt 1) afterFirst) (moves count all.le) =
        ((pruneMouseBatch engine (.ofInt 5) (.ofInt 1) (moves count all.le)).2, .error busy) := by
    rw [DeletionCall.run, second_batch_fails engine all]
    rfl
  have same := unchanged engine (fun _ => 0)
    (.pruneMouseMovesBefore (.ofInt 5) (.ofInt 1) afterFirst) (moves count all.le) busy
    (by rw [run])
  rw [run] at same
  have shorter := Table.without_full_pick_shorter
    (engine.scan (oldMouseMove (.ofInt 1)) pruneBatch) (moves count all.le).activity.events
    prune_batch_pos (first_batch_full engine all)
  have length := congrArg (fun db : Database => db.activity.events.rows.length) same
  exact absurd length shorter.ne

end

end Gilbreth.Store
