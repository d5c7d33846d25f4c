import Gilbreth.Store.DeletionLedger
import Gilbreth.Store.ActionStore

/-!
# Counts and selectors over whole runs

The selectors stay exact through every call. The counts do as long as no prune takes an
action of a recording that stays: a prune deletes by the age of the action and of the
recording, and never lowers a count.
-/

set_option autoImplicit false

namespace Gilbreth.Store

open Gilbreth.Core

section Fewer

variable [Externals] [StoreExternals] {before after : Database} {history : ActionHistory}

theorem SelectorsInterned.fewer (held : SelectorsInterned before history)
    (references : ForeignKeys after.activity)
    (actions : ∀ row ∈ after.activity.recordRoutine.actionEvents.rows,
      row ∈ before.activity.recordRoutine.actionEvents.rows)
    (paths : after.activity.recordRoutine.selectorPaths.rows.Sublist
      before.activity.recordRoutine.selectorPaths.rows) : SelectorsInterned after history where
  references := references
  distinct := held.distinct.sublist (paths.map SelectorPathRow.pathHash)
  interned := by
    intro row listed
    have ⟨action, given, path, present, hashed, same⟩ := held.interned row (actions row listed)
    have selected : row.selectorId = some path.selectorId := by rw [same, actionRow]
    have ⟨left, there, own⟩ := references.actionSelector row listed path.selectorId selected
    have only : left = path :=
      before.activity.recordRoutine.selectorPaths.eq_of_key (paths.subset there) present own
    exact ⟨action, given, path, only ▸ there, hashed, same⟩
  named path listed := held.named path (paths.subset listed)

end Fewer

section Events

theorem fewer_events_references {activity : Activity} (references : ForeignKeys activity)
    {events : Table EventRow.position}
    (fewer : ∀ event ∈ events.rows, event ∈ activity.events.rows) :
    ForeignKeys { activity with events := events } where
  eventSession event listed := references.eventSession event (fewer event listed)
  recordSessionSession := references.recordSessionSession
  actionSession := references.actionSession
  actionSelector := references.actionSelector
  actionRecordSession := references.actionRecordSession

def FewerEvents (before after : Activity) : Prop :=
  ∃ events : Table EventRow.position, (∀ event ∈ events.rows, event ∈ before.events.rows) ∧
    after = { before with events := events }

theorem FewerEvents.refl (activity : Activity) : FewerEvents activity activity :=
  ⟨activity.events, fun _ listed => listed, rfl⟩

theorem FewerEvents.trans {first second third : Activity} (left : FewerEvents first second)
    (right : FewerEvents second third) : FewerEvents first third := by
  have ⟨events, fewer, same⟩ := left
  have ⟨rest, fewest, again⟩ := right
  subst same
  exact ⟨rest, fun event listed => fewer event (fewest event listed), again⟩

variable (engine : SqlEngine) (performedAt cutoffMs : I64)

theorem prune_mouse_batch_fewer (db : Database) :
    FewerEvents db.activity (pruneMouseBatch engine performedAt cutoffMs db).2.activity := by
  refine ⟨_, ?_, rfl⟩
  intro event listed
  exact (List.mem_filter.mp listed).1

theorem prune_mouse_moves_fewer (faults : Nat → Option StoreError) (batch total : Nat)
    (db : Database) :
    FewerEvents db.activity
      (pruneMouseMovesFrom engine performedAt cutoffMs faults batch total db).1.activity := by
  fun_induction pruneMouseMovesFrom engine performedAt cutoffMs faults batch total db with
  | case1 => exact .refl _
  | case2 => exact prune_mouse_batch_fewer engine performedAt cutoffMs _
  | case3 batch total db _ _ induction =>
      exact (prune_mouse_batch_fewer engine performedAt cutoffMs db).trans induction

theorem delete_event_rows_fewer (eventId : EventRow → Int) (ids : List Int)
    (events : Table EventRow.position) :
    ∀ event ∈ (deleteEventRows eventId ids events).2.rows, event ∈ events.rows := by
  induction ids generalizing events with
  | nil => exact fun _ listed => listed
  | cons id rest induction =>
      intro event listed
      exact (Table.mem_delete_where.mp (induction _ event listed)).1

theorem delete_events_fewer (eventId : EventRow → Int) (faults : SecureFaults)
    (scrubWarning : Option String) (eventIds : List Int) (db : Database) :
    FewerEvents db.activity
      (deleteEvents performedAt eventId faults scrubWarning eventIds db.dashboard).1.activity := by
  unfold deleteEvents
  dsimp only
  split_ifs
  · exact .refl _
  · rcases with_secure_delete_cases faults db.dashboard _ with ⟨same, _⟩ | ⟨_, _, made, same, _⟩
    · rw [same]
      exact .refl _
    · rw [same, ← (Prod.mk.inj (Except.ok.inj made)).1]
      exact ⟨_, delete_event_rows_fewer eventId _ _, rfl⟩

end Events

section Committed

/-- Nothing fails before the operation commits. -/
def SecureFaults.commits (faults : SecureFaults) : Bool :=
  faults.setting.isNone && faults.transaction.isNone

theorem with_secure_delete_committed {Store Report : Type} {faults : SecureFaults}
    (commits : faults.commits = true) (store after : Store) (report : Report) :
    (withTemporarySecureDelete faults store (.ok (after, report))).1 = after := by
  unfold SecureFaults.commits at commits
  rw [Bool.and_eq_true, Option.isNone_iff_eq_none, Option.isNone_iff_eq_none] at commits
  unfold withTemporarySecureDelete
  rw [commits.1, commits.2]
  rfl

theorem with_secure_delete_refused {Store Report : Type} {faults : SecureFaults}
    (refused : faults.commits = false) (store : Store)
    (committed : Except StoreError (Store × Report)) :
    (withTemporarySecureDelete faults store committed).1 = store := by
  unfold SecureFaults.commits at refused
  unfold withTemporarySecureDelete
  cases setting : faults.setting with
  | some error => rfl
  | none =>
      cases transaction : faults.transaction with
      | some error => rfl
      | none =>
          rw [setting, transaction] at refused
          cases refused

theorem with_secure_delete_failed {Store Report : Type} (faults : SecureFaults) (store : Store)
    (error : StoreError) :
    (withTemporarySecureDelete faults store
      (.error error : Except StoreError (Store × Report))).1 = store := by
  cases with_secure_delete_cases faults store
      (.error error : Except StoreError (Store × Report)) with
  | inl unchanged => exact unchanged.1
  | inr done =>
      have ⟨_, _, made, _⟩ := done
      cases made

variable (engine : SqlEngine) (eventId : EventRow → Int)

theorem prune_call_activity (call : DeletionCall) {faults : SecureFaults} {cutoffMs : I64}
    (prunes : (∃ performedAt, call = .pruneOldActivity performedAt cutoffMs faults) ∨
      ∃ performedAt compactError,
        call = .pruneOldEvents performedAt cutoffMs faults compactError)
    {db : Database} (references : ForeignKeys db.activity) :
    (call.run engine eventId db).1.activity =
      if faults.commits then prunedActivity cutoffMs db.activity else db.activity := by
  rcases prunes with ⟨performedAt, same⟩ | ⟨performedAt, compactError, same⟩
  · rw [same]
    change (pruneOldActivityWith engine performedAt cutoffMs faults db).1.activity = _
    unfold pruneOldActivityWith
    cases commits : faults.commits with
    | false => rw [with_secure_delete_refused commits, if_neg Bool.false_ne_true]
    | true =>
        rw [with_secure_delete_committed commits, if_pos rfl]
        exact prune_old_activity_activity engine performedAt references
  · rw [same]
    change (pruneOldEventsWith engine performedAt cutoffMs faults compactError
      db.dashboard).1.activity = _
    unfold pruneOldEventsWith
    cases commits : faults.commits with
    | false =>
        rw [with_secure_delete_refused commits, if_neg Bool.false_ne_true]
        rfl
    | true =>
        rw [with_secure_delete_committed commits, if_pos rfl]
        exact prune_old_events_activity engine performedAt compactError references

/-- A recording goes with its actions, its requests and the selectors only they named. -/
def recordingDeleted (recording : RecordSessionRow) (activity : Activity) : Activity :=
  let own := fun action : ActionEventRow => action.recordSessionId == recording.recordSessionId
  let actions := activity.recordRoutine.actionEvents.deleteWhere own
  { activity with
    recordRoutine :=
      { recordRequests := activity.recordRoutine.recordRequests.deleteWhere
          (requestOfRecording recording.recordSessionId recording.requestId)
        recordSessions := activity.recordRoutine.recordSessions.deleteWhere fun row =>
          row.recordSessionId == recording.recordSessionId
        selectorPaths := activity.recordRoutine.selectorPaths.deleteWhere
          (selectorOrphan actions.rows)
        actionEvents := actions } }

def Database.endedRecording (db : Database) (recordSessionId : Int) : Option RecordSessionRow :=
  (db.activity.recordRoutine.recordSessions.lookup recordSessionId).filter fun recording =>
    recording.endedTs.isSome

theorem delete_recording_call_activity (performedAt : I64) (faults : SecureFaults)
    (scrubWarning : Option String) (recordSessionId : Int) (db : Database) :
    ((DeletionCall.deleteRecording performedAt faults scrubWarning recordSessionId).run engine
      eventId db).1.activity =
      if faults.commits then
        (db.endedRecording recordSessionId).elim db.activity (recordingDeleted · db.activity)
      else db.activity := by
  change (deleteRecording engine performedAt faults scrubWarning recordSessionId
    db.dashboard).1.activity = _
  unfold deleteRecording
  change (withTemporarySecureDelete faults db.dashboard _).1.activity = _
  cases commits : faults.commits with
  | false =>
      rw [with_secure_delete_refused commits, if_neg Bool.false_ne_true]
      rfl
  | true =>
      rw [if_pos rfl]
      unfold Database.endedRecording deleteRecordingRows Table.lookup
      cases found : db.activity.recordRoutine.recordSessions.rows.find? fun row =>
          row.recordSessionId == recordSessionId with
      | none =>
          dsimp only
          rw [with_secure_delete_committed commits]
          rfl
      | some recording =>
          have named := List.find?_some found
          have own : recording.recordSessionId = recordSessionId := eq_of_beq named
          rw [Option.filter_some]
          dsimp only
          cases ended : recording.endedTs with
          | none =>
              rw [if_pos Option.isNone_none, with_secure_delete_failed]
              rfl
          | some endedTs =>
              rw [if_neg (by simp), with_secure_delete_committed commits,
                if_pos Option.isSome_some, Option.elim_some]
              simp only [recordingDeleted, own, delete_returning_audit_batched_table]
              rfl

end Committed

section Deleted

/-- Every selector is named by an action. -/
def SelectorsReferenced (activity : Activity) : Prop :=
  ∀ path ∈ activity.recordRoutine.selectorPaths.rows,
    ∃ action ∈ activity.recordRoutine.actionEvents.rows, action.selectorId = some path.selectorId

theorem referenced_of_swept {actions : List ActionEventRow} {path : SelectorPathRow}
    (spared : selectorOrphan actions path = false) :
    ∃ action ∈ actions, action.selectorId = some path.selectorId := by
  unfold selectorOrphan at spared
  rw [Bool.not_eq_false', List.any_eq_true] at spared
  have ⟨action, listed, same⟩ := spared
  exact ⟨action, listed, eq_of_beq same⟩

theorem pruned_activity_referenced (cutoffMs : I64) (activity : Activity) :
    SelectorsReferenced (prunedActivity cutoffMs activity) := by
  intro path listed
  have ⟨_, spared⟩ := Table.mem_delete_where.mp listed
  rw [← selector_orphan_spared] at spared
  exact referenced_of_swept spared

theorem recording_deleted_referenced (recording : RecordSessionRow) (activity : Activity) :
    SelectorsReferenced (recordingDeleted recording activity) := by
  intro path listed
  have ⟨_, spared⟩ := Table.mem_delete_where.mp listed
  exact referenced_of_swept spared

theorem recording_deleted_references {activity : Activity} (references : ForeignKeys activity)
    (recording : RecordSessionRow) : ForeignKeys (recordingDeleted recording activity) where
  eventSession := references.eventSession
  recordSessionSession row listed :=
    references.recordSessionSession row (Table.mem_delete_where.mp listed).1
  actionSession action listed :=
    references.actionSession action (Table.mem_delete_where.mp listed).1
  actionSelector := by
    intro action listed selectorId selected
    have ⟨path, present, same⟩ :=
      references.actionSelector action (Table.mem_delete_where.mp listed).1 selectorId selected
    refine ⟨path, Table.mem_delete_where.mpr ⟨present, ?_⟩, same⟩
    unfold selectorOrphan
    rw [Bool.not_eq_false', List.any_eq_true]
    refine ⟨action, listed, ?_⟩
    rw [Option.mem_def.mp selected, same, beq_self_eq_true]
  actionRecordSession := by
    intro action listed
    have ⟨present, other⟩ := Table.mem_delete_where.mp listed
    have ⟨row, found, own⟩ := references.actionRecordSession action present
    refine ⟨row, Table.mem_delete_where.mpr ⟨found, ?_⟩, own⟩
    rw [own]
    exact other

theorem recording_deleted_counted {db after : Database} {recording : RecordSessionRow}
    (counted : ActionsCounted db)
    (deleted : after.activity = recordingDeleted recording db.activity) :
    ActionsCounted after := by
  unfold ActionsCounted
  rw [deleted]
  apply (Table.Counted.delete_iff counted _ _).mpr
  intro action _ own row _ same
  rw [same]
  exact own

/-- A prune deletes an old action only together with its recording. -/
def PrunesWhole (cutoffMs : I64) (activity : Activity) : Prop :=
  ∀ action ∈ activity.recordRoutine.actionEvents.rows, oldAction cutoffMs action = true →
    ∀ recording ∈ activity.recordRoutine.recordSessions.rows,
      recording.recordSessionId = action.recordSessionId →
        previewRecordSession cutoffMs activity.recordRoutine.actionEvents.rows recording = true

theorem pruned_counted_iff {db after : Database} {cutoffMs : I64} (counted : ActionsCounted db)
    (pruned : after.activity = prunedActivity cutoffMs db.activity) :
    ActionsCounted after ↔ PrunesWhole cutoffMs db.activity := by
  unfold ActionsCounted
  rw [pruned]
  exact Table.Counted.delete_iff counted _ _

theorem fewer_events_counted {db after : Database} (counted : ActionsCounted db)
    (fewer : FewerEvents db.activity after.activity) : ActionsCounted after := by
  have ⟨_, _, same⟩ := fewer
  unfold ActionsCounted
  rw [same]
  exact counted

theorem prune_call_counted_iff (engine : SqlEngine) (eventId : EventRow → Int)
    (call : DeletionCall) {faults : SecureFaults} {cutoffMs : I64}
    (prunes : (∃ performedAt, call = .pruneOldActivity performedAt cutoffMs faults) ∨
      ∃ performedAt compactError,
        call = .pruneOldEvents performedAt cutoffMs faults compactError)
    {db : Database} (references : ForeignKeys db.activity) (counted : ActionsCounted db) :
    ActionsCounted (call.run engine eventId db).1 ↔
      (faults.commits = true → PrunesWhole cutoffMs db.activity) := by
  have left := prune_call_activity engine eventId call prunes references
  cases commits : faults.commits with
  | false =>
      rw [commits, if_neg Bool.false_ne_true] at left
      apply iff_of_true
      · unfold ActionsCounted
        rw [left]
        exact counted
      · intro done
        cases done
  | true =>
      rw [commits, if_pos rfl] at left
      rw [pruned_counted_iff counted left]
      exact ⟨fun whole _ => whole, fun whole => whole rfl⟩

theorem delete_recording_call_counted (engine : SqlEngine) (eventId : EventRow → Int)
    (performedAt : I64) (faults : SecureFaults) (scrubWarning : Option String)
    (recordSessionId : Int) {db : Database} (counted : ActionsCounted db) :
    ActionsCounted ((DeletionCall.deleteRecording performedAt faults scrubWarning
      recordSessionId).run engine eventId db).1 := by
  have left := delete_recording_call_activity engine eventId performedAt faults scrubWarning
    recordSessionId db
  cases commits : faults.commits with
  | false =>
      rw [commits, if_neg Bool.false_ne_true] at left
      unfold ActionsCounted
      rw [left]
      exact counted
  | true =>
      rw [commits, if_pos rfl] at left
      cases ended : db.endedRecording recordSessionId with
      | none =>
          rw [ended] at left
          unfold ActionsCounted
          rw [left]
          exact counted
      | some recording =>
          rw [ended] at left
          exact recording_deleted_counted counted left

variable [Externals] [StoreExternals] {db after : Database} {history : ActionHistory}

theorem pruned_interned {cutoffMs : I64} (held : SelectorsInterned db history)
    (pruned : after.activity = prunedActivity cutoffMs db.activity) :
    SelectorsInterned after history := by
  apply held.fewer
  · rw [pruned]
    exact pruned_activity_references held.references
  · rw [pruned]
    exact fun row listed => (Table.mem_delete_where.mp listed).1
  · rw [pruned]
    exact List.filter_sublist

theorem recording_deleted_interned {recording : RecordSessionRow}
    (held : SelectorsInterned db history)
    (deleted : after.activity = recordingDeleted recording db.activity) :
    SelectorsInterned after history := by
  apply held.fewer
  · rw [deleted]
    exact recording_deleted_references held.references recording
  · rw [deleted]
    exact fun row listed => (Table.mem_delete_where.mp listed).1
  · rw [deleted]
    exact List.filter_sublist

theorem fewer_events_interned (held : SelectorsInterned db history)
    (fewer : FewerEvents db.activity after.activity) : SelectorsInterned after history := by
  have ⟨events, among, same⟩ := fewer
  apply held.fewer
  · rw [same]
    exact fewer_events_references held.references among
  · rw [same]
    exact fun _ listed => listed
  · rw [same]

end Deleted

section Steps

variable [Externals] [StoreExternals] (engine : SqlEngine) (eventId : EventRow → Int)

def StoreCall.reachesActions : StoreCall → Bool
  | .insertActions _ _ => true
  | .delete _ => true
  | _ => false

/-- The call ends with a sweep of the selectors: a prune that commits, or the deletion of a
recording that is there and has ended. -/
def StoreCall.sweeps (db : Database) : StoreCall → Bool
  | .delete (.pruneOldActivity _ _ faults) => faults.commits
  | .delete (.pruneOldEvents _ _ faults _) => faults.commits
  | .delete (.deleteRecording _ faults _ recordSessionId) =>
      faults.commits && (db.endedRecording recordSessionId).isSome
  | _ => false

/-- A prune that commits deletes old actions only together with their recordings. -/
def StoreCall.keepsCounts (state : ActionStore) : StoreCall → Prop
  | .delete (.pruneOldActivity _ cutoffMs faults) =>
      faults.commits = true → PrunesWhole cutoffMs state.db.activity
  | .delete (.pruneOldEvents _ cutoffMs faults _) =>
      faults.commits = true → PrunesWhole cutoffMs state.db.activity
  | _ => True

omit [Externals] [StoreExternals] in
theorem write_apart {state : ActionStore} {written : Except StoreError Database}
    (apart : ∀ db, written = .ok db → ActionsApart state.db db) :
    ActionsApart state.db (state.write written).1.db ∧
      (state.write written).1.history = state.history := by
  cases written with
  | error error => exact ⟨.refl state.db, rfl⟩
  | ok db => exact ⟨apart db rfl, rfl⟩

omit [Externals] [StoreExternals] in
theorem map_fst_ok {Rest : Type} {result : Except StoreError (Database × Rest)} {db : Database}
    (succeeded : result.map Prod.fst = .ok db) : ∃ rest, result = .ok (db, rest) := by
  cases result with
  | error error => cases succeeded
  | ok done =>
      cases succeeded
      exact ⟨done.2, rfl⟩

theorem step_apart (state : ActionStore) {call : StoreCall}
    (elsewhere : call.reachesActions = false) :
    ActionsApart state.db (state.step engine eventId call).1.db ∧
      (state.step engine eventId call).1.history = state.history := by
  cases call with
  | createSession fault startedAt identity =>
      apply write_apart
      intro db done
      have ⟨_, created⟩ := map_fst_ok done
      exact create_session_apart created
  | endSession fault sessionId endedAt => exact write_apart fun _ => end_session_apart
  | insertEvents faults batch =>
      apply write_apart
      intro db done
      have ⟨_, inserted⟩ := map_fst_ok done
      exact insert_events_apart inserted
  | openRecordSession fault params =>
      apply write_apart
      intro db done
      have ⟨_, opened⟩ := map_fst_ok done
      exact open_record_session_apart opened
  | pauseRecordSession fault recordSessionId pausedTs =>
      exact write_apart fun _ => pause_record_session_apart
  | resumeRecordSession fault recordSessionId resumedTs =>
      exact write_apart fun _ => resume_record_session_apart
  | closeRecordSession fault recordSessionId endedTs stopReason =>
      exact write_apart fun _ => close_record_session_apart
  | finalizeOpenRecordSessions fault stopReason endedTs =>
      exact write_apart fun _ => finalize_record_sessions_apart
  | insertActions faults batch => cases elsewhere
  | delete call => cases elsewhere

variable {state : ActionStore}

theorem aborted_batch_unchanged {faults : BatchFaults ActionFault} {batch : List StampedAction}
    {error : StoreError} (aborted : insertActions faults batch state.db = .error error) :
    state.step engine eventId (.insertActions faults batch) = (state, .error error) := by
  rw [ActionStore.step, aborted]

theorem committed_batch {faults : BatchFaults ActionFault} {batch : List StampedAction}
    {done : Database × InsertReport} (committed : insertActions faults batch state.db = .ok done) :
    (state.step engine eventId (.insertActions faults batch)).1 =
      ⟨done.1, ActionHistory.rows faults.row 0 batch (state.db, ⟨0, 0⟩) state.history⟩ := by
  rw [ActionStore.step, committed]

omit [Externals] [StoreExternals] in
theorem deletion_activity (call : DeletionCall) {db : Database}
    (references : ForeignKeys db.activity) :
    FewerEvents db.activity (call.run engine eventId db).1.activity ∨
      (∃ cutoffMs, (call.run engine eventId db).1.activity = prunedActivity cutoffMs db.activity) ∨
      ∃ recording,
        (call.run engine eventId db).1.activity = recordingDeleted recording db.activity := by
  cases call with
  | pruneOldActivity performedAt cutoffMs faults =>
      rw [prune_call_activity engine eventId _ (Or.inl ⟨performedAt, rfl⟩) references]
      cases faults.commits with
      | false => exact Or.inl (.refl _)
      | true => exact Or.inr (Or.inl ⟨cutoffMs, rfl⟩)
  | pruneMouseMovesBefore performedAt cutoffMs faults =>
      exact Or.inl (prune_mouse_moves_fewer engine performedAt cutoffMs faults 0 0 db)
  | pruneOldEvents performedAt cutoffMs faults compactError =>
      rw [prune_call_activity engine eventId _ (Or.inr ⟨performedAt, compactError, rfl⟩)
        references]
      cases faults.commits with
      | false => exact Or.inl (.refl _)
      | true => exact Or.inr (Or.inl ⟨cutoffMs, rfl⟩)
  | deleteEvents performedAt faults scrubWarning eventIds =>
      exact Or.inl (delete_events_fewer performedAt eventId faults scrubWarning eventIds db)
  | deleteRecording performedAt faults scrubWarning recordSessionId =>
      rw [delete_recording_call_activity]
      cases faults.commits with
      | false => exact Or.inl (.refl _)
      | true =>
          cases db.endedRecording recordSessionId with
          | none => exact Or.inl (.refl _)
          | some recording => exact Or.inr (Or.inr ⟨recording, rfl⟩)

theorem step_interned (held : SelectorsInterned state.db state.history) (call : StoreCall) :
    SelectorsInterned (state.step engine eventId call).1.db
      (state.step engine eventId call).1.history := by
  cases reaches : call.reachesActions with
  | false =>
      have ⟨apart, same⟩ := step_apart engine eventId state reaches
      rw [same]
      exact apart.interned held
  | true =>
      cases call with
      | insertActions faults batch =>
          cases outcome : insertActions faults batch state.db with
          | error error =>
              rw [aborted_batch_unchanged engine eventId outcome]
              exact held
          | ok done =>
              rw [committed_batch engine eventId outcome]
              exact (insert_actions_keeps held outcome).2
      | delete call =>
          rcases deletion_activity engine eventId call held.references with
            fewer | ⟨_, pruned⟩ | ⟨_, deleted⟩
          · exact fewer_events_interned held fewer
          · exact pruned_interned held pruned
          · exact recording_deleted_interned held deleted
      | _ => cases reaches

/-- One call keeps the counts exactly when it deletes no action of a recording that stays. -/
theorem step_counted_iff (held : SelectorsInterned state.db state.history)
    (counted : ActionsCounted state.db) (call : StoreCall) :
    ActionsCounted (state.step engine eventId call).1.db ↔ call.keepsCounts state := by
  cases reaches : call.reachesActions with
  | false =>
      have ⟨apart, _⟩ := step_apart engine eventId state reaches
      have kept := apart.counted held.references counted
      cases call with
      | insertActions faults batch => cases reaches
      | delete call => cases reaches
      | _ => exact iff_of_true kept trivial
  | true =>
      cases call with
      | insertActions faults batch =>
          apply iff_of_true _ trivial
          cases outcome : insertActions faults batch state.db with
          | error error =>
              rw [aborted_batch_unchanged engine eventId outcome]
              exact counted
          | ok done =>
              rw [committed_batch engine eventId outcome]
              exact (insert_actions_keeps held outcome).1 counted
      | delete call =>
          change ActionsCounted (call.run engine eventId state.db).1 ↔ _
          cases call with
          | pruneOldActivity performedAt cutoffMs faults =>
              exact prune_call_counted_iff engine eventId _ (Or.inl ⟨performedAt, rfl⟩)
                held.references counted
          | pruneOldEvents performedAt cutoffMs faults compactError =>
              exact prune_call_counted_iff engine eventId _
                (Or.inr ⟨performedAt, compactError, rfl⟩) held.references counted
          | pruneMouseMovesBefore performedAt cutoffMs faults =>
              exact iff_of_true (fewer_events_counted counted
                (prune_mouse_moves_fewer engine performedAt cutoffMs faults 0 0 state.db)) trivial
          | deleteEvents performedAt faults scrubWarning eventIds =>
              exact iff_of_true (fewer_events_counted counted
                (delete_events_fewer performedAt eventId faults scrubWarning eventIds state.db))
                trivial
          | deleteRecording performedAt faults scrubWarning recordSessionId =>
              exact iff_of_true (delete_recording_call_counted engine eventId performedAt faults
                scrubWarning recordSessionId counted) trivial
      | _ => cases reaches

theorem step_sweeps (held : SelectorsInterned state.db state.history) {call : StoreCall}
    (sweeps : call.sweeps state.db = true) :
    SelectorsReferenced (state.step engine eventId call).1.db.activity := by
  cases call with
  | delete call =>
      change SelectorsReferenced (call.run engine eventId state.db).1.activity
      cases call with
      | pruneOldActivity performedAt cutoffMs faults =>
          have commits : faults.commits = true := sweeps
          rw [prune_call_activity engine eventId _ (Or.inl ⟨performedAt, rfl⟩) held.references,
            if_pos commits]
          exact pruned_activity_referenced cutoffMs state.db.activity
      | pruneOldEvents performedAt cutoffMs faults compactError =>
          have commits : faults.commits = true := sweeps
          rw [prune_call_activity engine eventId _ (Or.inr ⟨performedAt, compactError, rfl⟩)
            held.references, if_pos commits]
          exact pruned_activity_referenced cutoffMs state.db.activity
      | deleteRecording performedAt faults scrubWarning recordSessionId =>
          have ⟨commits, found⟩ := (Bool.and_eq_true _ _).mp sweeps
          have ⟨recording, ended⟩ := Option.isSome_iff_exists.mp found
          rw [delete_recording_call_activity, if_pos commits, ended]
          exact recording_deleted_referenced recording state.db.activity
      | _ => cases sweeps
  | _ => cases sweeps

end Steps

section Runs

variable [Externals] [StoreExternals] (engine : SqlEngine) (eventId : EventRow → Int)

/-- After every call of the run each recording counts its actions, each hash an action names
has one row with the right flag, a sweep leaves no row unnamed and a batch that is given up
leaves everything as it was. -/
structure StaysExact (state : ActionStore) (calls : List StoreCall) : Prop where
  counted : ∀ before, before <+: calls →
    ActionsCounted ((actionMachine engine eventId).run state before).db
  interned : ∀ before, before <+: calls →
    SelectorsInterned ((actionMachine engine eventId).run state before).db
      ((actionMachine engine eventId).run state before).history
  swept : ∀ before call, before ++ [call] <+: calls →
    call.sweeps ((actionMachine engine eventId).run state before).db = true →
      SelectorsReferenced ((actionMachine engine eventId).run state (before ++ [call])).db.activity
  aborted : ∀ before faults batch error, before ++ [.insertActions faults batch] <+: calls →
    insertActions faults batch ((actionMachine engine eventId).run state before).db =
      .error error →
        (actionMachine engine eventId).run state (before ++ [.insertActions faults batch]) =
          (actionMachine engine eventId).run state before

variable {state : ActionStore}

theorem run_interned (held : SelectorsInterned state.db state.history)
    (calls : List StoreCall) :
    SelectorsInterned ((actionMachine engine eventId).run state calls).db
      ((actionMachine engine eventId).run state calls).history :=
  (actionMachine engine eventId).run_invariant
    (fun state => SelectorsInterned state.db state.history)
    (fun _ call held => step_interned engine eventId held call) state calls held

/-- A run stays exact exactly when none of its prunes deletes an action of a recording that
stays. -/
theorem recordings_stay_exact_iff (held : SelectorsInterned state.db state.history)
    (counted : ActionsCounted state.db) (calls : List StoreCall) :
    StaysExact engine eventId state calls ↔
      (actionMachine engine eventId).AllSteps (fun state call => call.keepsCounts state) state
        calls := by
  have stepwise (call : StoreCall) (_ : call ∈ calls) (state : ActionStore)
      (held : SelectorsInterned state.db state.history) (counted : ActionsCounted state.db) :
      ActionsCounted ((actionMachine engine eventId).step state call).1.db ↔
        call.keepsCounts state :=
    step_counted_iff engine eventId held counted call
  have along := (actionMachine engine eventId).holds_along_iff_all_steps
    (fun state => SelectorsInterned state.db state.history) (fun state => ActionsCounted state.db)
    (fun state call => call.keepsCounts state)
    (fun call _ _ held => step_interned engine eventId held call) stepwise state held counted
  rw [← along]
  constructor
  · intro stays
    exact stays.counted
  · intro counts
    constructor
    · exact counts
    · intro before _
      exact run_interned engine eventId held before
    · intro before call _ sweeps
      rw [Machine.run_append]
      exact step_sweeps engine eventId (run_interned engine eventId held before) sweeps
    · intro before faults batch error _ aborted
      rw [Machine.run_append]
      exact congrArg Prod.fst (aborted_batch_unchanged engine eventId aborted)

end Runs

section Examples

instance (cutoffMs : I64) (activity : Activity) : Decidable (PrunesWhole cutoffMs activity) :=
  inferInstanceAs (Decidable (∀ action ∈ activity.recordRoutine.actionEvents.rows,
    oldAction cutoffMs action = true →
      ∀ recording ∈ activity.recordRoutine.recordSessions.rows,
        recording.recordSessionId = action.recordSessionId →
          previewRecordSession cutoffMs activity.recordRoutine.actionEvents.rows recording = true))

/-- The digest of the one selector below. -/
@[reducible] private def routineExternals : StoreExternals where
  parseJson text := if text = "{}" then some (.object []) else none
  sha256Hex _ := "07563eb98f1d7b1a387af3a45b379b29e8546eedcd306471263d329dddbac4ca"

private def routineEngine : SqlEngine := ⟨fun matching limit => .first matching limit⟩

private def routineClick (seq : Nat) (ts : Int) : StampedAction where
  sessionId := 1
  seq := seq
  tsUnixMs := I64.ofInt ts
  action := ⟨.invoke, ⟨"uia", [⟨50000, "save", "Button", 0⟩]⟩, .pidMatch⟩
  recordSessionId := 1
  exe := none
  isSensitive := false
  hasName := true
  patternAction := none
  framework := "uia"
  frameworkClass := .native
  depth := 1
  leafRect := none
  payload := .invoke none none

/-- A recording with one click before and one after the first second. -/
private def routineRecorded : List StoreCall :=
  [.createSession none (.ofInt 0) ⟨"1.0.0", none, none, none⟩,
    .openRecordSession none ⟨none, 1, .ofInt 0, none, "{}", .ofInt 1800000, true⟩,
    .insertActions .clear [routineClick 1 10, routineClick 2 1500],
    .closeRecordSession none 1 (.ofInt 1600) .userStop]

private def routinePruned (cutoffMs : Int) : StoreCall :=
  .delete (.pruneOldActivity (.ofInt 5000) (.ofInt cutoffMs) ⟨none, none, none⟩)

/-- A prune of the recording as a whole. -/
theorem recordings_stay_exact_whole :
    @StaysExact asciiExternals routineExternals routineEngine (fun _ => 0) .empty
      (routineRecorded ++ [routinePruned 2000]) := by
  have uncounted : ActionsCounted ActionStore.empty.db := by
    intro _ member
    cases member
  apply (@recordings_stay_exact_iff asciiExternals routineExternals routineEngine (fun _ => 0)
    .empty (@SelectorsInterned.empty asciiExternals routineExternals) uncounted
    (routineRecorded ++ [routinePruned 2000])).mpr
  refine ⟨trivial, trivial, trivial, trivial, fun _ => ?_, trivial⟩
  decide +kernel

/-- A prune between the two clicks leaves one of them and a count of two. -/
theorem recordings_stay_exact_partial :
    ¬@StaysExact asciiExternals routineExternals routineEngine (fun _ => 0) .empty
      (routineRecorded ++ [routinePruned 1000]) := by
  intro stays
  have counted := @StaysExact.counted asciiExternals routineExternals _ _ _ _ stays
  have before := counted routineRecorded (List.prefix_append _ _)
  have after := counted _ (List.prefix_refl _)
  rw [Machine.run_append] at after
  have held := @run_interned asciiExternals routineExternals routineEngine (fun _ => 0) .empty
    (@SelectorsInterned.empty asciiExternals routineExternals) routineRecorded
  have whole := (@step_counted_iff asciiExternals routineExternals routineEngine (fun _ => 0) _
    held before (routinePruned 1000)).mp after rfl
  revert whole
  decide +kernel

end Examples

end Gilbreth.Store
