import Gilbreth.Store.Prune

/-!
# The preview counts what the prune deletes

Everything the dependent deletes read is expressed in the tables the prune
started from: what they see of an earlier delete is the rows it spared. The
preview's anti-joins are the same conditions, and under the foreign keys the
orphan sweep finds nothing.
-/

set_option autoImplicit false

namespace Gilbreth.Store

open Gilbreth.Core

section Batched

variable (engine : SqlEngine) {Row : Type} {position : Row → Int × I64}
  (matching : Row → Bool) (table : Table position)

theorem delete_returning_audit_batched_table :
    (deleteReturningAuditBatched engine matching table).2 = table.deleteWhere matching :=
  (Table.delete_batched_eq _ prune_returning_batch_pos table).2

theorem delete_returning_audit_batched_length :
    (deleteReturningAuditBatched engine matching table).1.length = table.countWhere matching := by
  rw [deleteReturningAuditBatched, List.length_map, Table.length_delete_batched]

end Batched

/-- The six numbers a preview announces and a prune reports. -/
structure PruneCounts where
  events : Nat
  sessions : Nat
  actionEvents : Nat
  recordSessions : Nat
  recordRequests : Nat
  selectorPaths : Nat
deriving DecidableEq

def DashboardPrunePreview.counts (preview : DashboardPrunePreview) : PruneCounts :=
  ⟨preview.events, preview.endedEmptySessions, preview.actionEvents,
    preview.endedEmptyRecordSessions, preview.recordRequests, preview.selectorPaths⟩

def DashboardPruneResult.counts (result : DashboardPruneResult) : PruneCounts :=
  ⟨result.eventsDeleted, result.sessionsDeleted, result.actionEventsDeleted,
    result.recordSessionsDeleted, result.recordRequestsDeleted, result.selectorPathsDeleted⟩

section Spared

variable {cutoffMs : I64}

theorem not_old_event (event : EventRow) :
    (!oldEvent cutoffMs event) = decide (cutoffMs ≤ event.ts) := by
  rw [oldEvent, ← decide_not]
  simp only [not_lt]

theorem not_old_action (action : ActionEventRow) :
    (!oldAction cutoffMs action) = decide (cutoffMs ≤ action.ts) := by
  rw [oldAction, ← decide_not]
  simp only [not_lt]

variable (routine : RecordRoutineTables)

/-- A recording whose remaining actions are none is one whose recent actions
are none. -/
theorem record_session_prunable_spared :
    recordSessionPrunable cutoffMs (routine.actionEvents.deleteWhere (oldAction cutoffMs)).rows =
      previewRecordSession cutoffMs routine.actionEvents.rows := by
  funext recording
  simp only [recordSessionPrunable, previewRecordSession, Table.any_delete_where, not_old_action]

variable (cutoffMs)

def sparedRecordSessions : Table RecordSessionRow.recordSessionId :=
  routine.recordSessions.deleteWhere (previewRecordSession cutoffMs routine.actionEvents.rows)

variable {cutoffMs}

theorem record_sessions_left :
    routine.recordSessions.deleteWhere (previewRecordSession cutoffMs routine.actionEvents.rows) =
      sparedRecordSessions cutoffMs routine := rfl

theorem any_spared_record_sessions (property : RecordSessionRow → Bool) :
    (sparedRecordSessions cutoffMs routine).rows.any property =
      routine.recordSessions.rows.any fun recording =>
        property recording &&
          decide (recording.recordSessionId ∉ prunedRecordSessionIds cutoffMs routine) := by
  rw [sparedRecordSessions, Table.any_delete_where]
  apply Table.any_agree
  intro recording member
  have pruned := Table.mem_keys_where routine.recordSessions
    (previewRecordSession cutoffMs routine.actionEvents.rows) member
  congr 1
  rw [prunedRecordSessionIds, decide_not, Bool.not_inj_iff, eq_comm]
  simp only [pruned, Bool.decide_eq_true]

/-- Under the foreign keys no remaining action loses its recording: the delete
of recordings spares every recording an action is left for. -/
theorem orphan_action_spared {sessions : Table SessionRow.sessionId}
    {events : Table EventRow.position}
    (references : ForeignKeys ⟨sessions, events, routine⟩) {action : ActionEventRow}
    (member : action ∈ (routine.actionEvents.deleteWhere (oldAction cutoffMs)).rows) :
    orphanAction (sparedRecordSessions cutoffMs routine).rows action = false := by
  obtain ⟨present, recent⟩ := Table.mem_delete_where.mp member
  obtain ⟨recording, found, same⟩ := references.actionRecordSession action present
  have spared : previewRecordSession cutoffMs routine.actionEvents.rows recording = false := by
    rw [← record_session_prunable_spared, recordSessionPrunable, Bool.and_eq_false_iff]
    right
    rw [Bool.not_eq_false', List.any_eq_true]
    exact ⟨action, member, by simp [same]⟩
  rw [orphanAction, Bool.not_eq_false', List.any_eq_true]
  exact ⟨recording, Table.mem_delete_where.mpr ⟨found, spared⟩, by simp [same]⟩

theorem session_prunable_spared (events : Table EventRow.position) :
    sessionPrunable (events.deleteWhere (oldEvent cutoffMs)).rows
        (routine.actionEvents.deleteWhere (oldAction cutoffMs)).rows
        (sparedRecordSessions cutoffMs routine).rows =
      previewSessionWithRoutine cutoffMs events.rows routine := by
  funext session
  simp only [sessionPrunable, sessionHasEvent, previewSessionWithRoutine, previewSession,
    Table.any_delete_where, not_old_event, not_old_action, any_spared_record_sessions]

theorem session_in_use_spared {events : Table EventRow.position} {session : SessionRow}
    (used : sessionHasEvent (events.deleteWhere (oldEvent cutoffMs)).rows session = true ∨
      ((routine.actionEvents.deleteWhere (oldAction cutoffMs)).rows.any fun action =>
        action.sessionId == session.sessionId) = true ∨
      ((sparedRecordSessions cutoffMs routine).rows.any fun recording =>
        recording.sessionId == session.sessionId) = true) :
    previewSessionWithRoutine cutoffMs events.rows routine session = false := by
  rw [← session_prunable_spared, sessionPrunable]
  rcases used with used | used | used <;> simp [used]

theorem record_request_prunable_spared :
    recordRequestPrunable cutoffMs (sparedRecordSessions cutoffMs routine).rows =
      previewRecordRequest cutoffMs routine := by
  funext request
  simp only [recordRequestPrunable, previewRecordRequest, any_spared_record_sessions]

theorem selector_orphan_spared :
    selectorOrphan (routine.actionEvents.deleteWhere (oldAction cutoffMs)).rows =
      previewSelectorPath cutoffMs routine.actionEvents.rows := by
  funext path
  simp only [selectorOrphan, previewSelectorPath, Table.any_delete_where, not_old_action]

end Spared

section Pruned

variable (cutoffMs : I64)

/-- What a prune leaves, with one condition on each table of the state it
started from. -/
def prunedActivity (activity : Activity) : Activity where
  sessions := activity.sessions.deleteWhere
    (previewSessionWithRoutine cutoffMs activity.events.rows activity.recordRoutine)
  events := activity.events.deleteWhere (oldEvent cutoffMs)
  recordRoutine :=
    { recordRequests := activity.recordRoutine.recordRequests.deleteWhere
        (previewRecordRequest cutoffMs activity.recordRoutine)
      recordSessions := sparedRecordSessions cutoffMs activity.recordRoutine
      selectorPaths := activity.recordRoutine.selectorPaths.deleteWhere
        (previewSelectorPath cutoffMs activity.recordRoutine.actionEvents.rows)
      actionEvents := activity.recordRoutine.actionEvents.deleteWhere (oldAction cutoffMs) }

variable {cutoffMs} (engine : SqlEngine)

section Sequence

variable {sessions : Table SessionRow.sessionId} {events : Table EventRow.position}
  {routine : RecordRoutineTables}

theorem orphan_sweep_leaves (references : ForeignKeys ⟨sessions, events, routine⟩) :
    (routine.actionEvents.deleteWhere (oldAction cutoffMs)).deleteWhere
        (orphanAction (sparedRecordSessions cutoffMs routine).rows) =
      routine.actionEvents.deleteWhere (oldAction cutoffMs) :=
  Table.delete_where_none fun _ member => orphan_action_spared routine references member

theorem orphan_sweep_counts (references : ForeignKeys ⟨sessions, events, routine⟩) :
    (routine.actionEvents.deleteWhere (oldAction cutoffMs)).countWhere
      (orphanAction (sparedRecordSessions cutoffMs routine).rows) = 0 :=
  Table.count_where_none fun _ member => orphan_action_spared routine references member

theorem prune_with_routine_activity (references : ForeignKeys ⟨sessions, events, routine⟩) :
    (pruneWithRoutine engine cutoffMs sessions events routine).1 =
      prunedActivity cutoffMs ⟨sessions, events, routine⟩ := by
  simp only [pruneWithRoutine, prunedActivity, delete_returning_audit_batched_table,
    record_session_prunable_spared, record_sessions_left, orphan_sweep_leaves references,
    session_prunable_spared, record_request_prunable_spared, selector_orphan_spared]

theorem prune_with_routine_counts (references : ForeignKeys ⟨sessions, events, routine⟩)
    (audit : Option (List DeletionAuditRow)) :
    (pruneWithRoutine engine cutoffMs sessions events routine).2.1.counts =
      (prunePreview cutoffMs ⟨sessions, events, some routine, audit⟩).counts := by
  simp only [pruneWithRoutine, DashboardPruneResult.counts, DashboardPrunePreview.counts,
    prunePreview, Option.elim_some, delete_returning_audit_batched_table,
    delete_returning_audit_batched_length, record_session_prunable_spared, record_sessions_left,
    orphan_sweep_leaves references, orphan_sweep_counts references, Nat.add_zero,
    session_prunable_spared, record_request_prunable_spared, selector_orphan_spared]

end Sequence

theorem prune_old_activity_activity (performedAt : I64) {store : Database}
    (references : ForeignKeys store.activity) :
    (pruneOldActivity engine performedAt cutoffMs store).1.activity =
      prunedActivity cutoffMs store.activity := by
  exact prune_with_routine_activity engine references

section WithoutRoutine

variable {sessions : Table SessionRow.sessionId} {events : Table EventRow.position}

/-- With the Record Routine tables empty, a session is spared by events only. -/
theorem preview_session_without_routine :
    previewSessionWithRoutine cutoffMs events.rows .empty =
      previewSession cutoffMs events.rows := by
  funext session
  simp [previewSessionWithRoutine, RecordRoutineTables.empty, Table.empty]

theorem session_without_recent_event (session : SessionRow) :
    (session.endedAt.isSome &&
        !sessionHasEvent (events.deleteWhere (oldEvent cutoffMs)).rows session) =
      previewSession cutoffMs events.rows session := by
  simp only [sessionHasEvent, previewSession, Table.any_delete_where, not_old_event]

theorem prune_without_routine_left :
    (pruneWithoutRoutine engine cutoffMs sessions events).1 =
      (sessions.deleteWhere (previewSession cutoffMs events.rows),
        events.deleteWhere (oldEvent cutoffMs)) := by
  simp only [pruneWithoutRoutine, delete_returning_audit_batched_table,
    session_without_recent_event]

theorem prune_without_routine_counts (audit : Option (List DeletionAuditRow)) :
    (pruneWithoutRoutine engine cutoffMs sessions events).2.1.counts =
      (prunePreview cutoffMs ⟨sessions, events, none, audit⟩).counts := by
  simp only [pruneWithoutRoutine, DashboardPruneResult.counts, DashboardPrunePreview.counts,
    prunePreview, Option.elim_none, delete_returning_audit_batched_table,
    delete_returning_audit_batched_length, session_without_recent_event]

end WithoutRoutine

theorem prune_old_events_activity (performedAt : I64) (compactError : Option String)
    {db : DashboardDatabase} (references : ForeignKeys db.activity) :
    (pruneOldEvents engine performedAt cutoffMs compactError db).1.activity =
      prunedActivity cutoffMs db.activity := by
  obtain ⟨sessions, events, recordRoutine, audit⟩ := db
  cases recordRoutine with
  | some routine => exact prune_with_routine_activity engine references
  | none =>
      simp only [pruneOldEvents, pruneOldEventRows, prune_without_routine_left,
        DashboardDatabase.activity, Option.getD_none, prunedActivity,
        preview_session_without_routine]
      rfl

theorem prune_old_events_counts (performedAt : I64) (compactError : Option String)
    {db : DashboardDatabase} (references : ForeignKeys db.activity) :
    (pruneOldEvents engine performedAt cutoffMs compactError db).2.counts =
      (prunePreview cutoffMs db).counts := by
  obtain ⟨sessions, events, recordRoutine, audit⟩ := db
  cases recordRoutine with
  | some routine => exact prune_with_routine_counts engine references audit
  | none => exact prune_without_routine_counts engine audit

/-- A row that stays keeps everything it refers to, so the deletes break no
reference. -/
theorem pruned_activity_references {activity : Activity} (references : ForeignKeys activity) :
    ForeignKeys (prunedActivity cutoffMs activity) where
  eventSession := by
    intro event kept
    obtain ⟨session, found, same⟩ :=
      references.eventSession event (Table.mem_delete_where.mp kept).1
    have used : sessionHasEvent (prunedActivity cutoffMs activity).events.rows session = true :=
      List.any_eq_true.mpr ⟨event, kept, beq_iff_eq.mpr same.symm⟩
    exact ⟨session, Table.mem_delete_where.mpr
      ⟨found, session_in_use_spared activity.recordRoutine (Or.inl used)⟩, same⟩
  recordSessionSession := by
    intro recording kept
    obtain ⟨session, found, same⟩ :=
      references.recordSessionSession recording (Table.mem_delete_where.mp kept).1
    have used : ((prunedActivity cutoffMs activity).recordRoutine.recordSessions.rows.any
        fun recording => recording.sessionId == session.sessionId) = true :=
      List.any_eq_true.mpr ⟨recording, kept, beq_iff_eq.mpr same.symm⟩
    exact ⟨session, Table.mem_delete_where.mpr
      ⟨found, session_in_use_spared activity.recordRoutine (Or.inr (Or.inr used))⟩, same⟩
  actionSession := by
    intro action kept
    obtain ⟨session, found, same⟩ :=
      references.actionSession action (Table.mem_delete_where.mp kept).1
    have used : ((prunedActivity cutoffMs activity).recordRoutine.actionEvents.rows.any
        fun action => action.sessionId == session.sessionId) = true :=
      List.any_eq_true.mpr ⟨action, kept, beq_iff_eq.mpr same.symm⟩
    exact ⟨session, Table.mem_delete_where.mpr
      ⟨found, session_in_use_spared activity.recordRoutine (Or.inr (Or.inl used))⟩, same⟩
  actionSelector := by
    intro action kept selectorId selected
    obtain ⟨path, found, same⟩ :=
      references.actionSelector action (Table.mem_delete_where.mp kept).1 selectorId selected
    refine ⟨path, Table.mem_delete_where.mpr ⟨found, ?_⟩, same⟩
    rw [← selector_orphan_spared, selectorOrphan, Bool.not_eq_false', List.any_eq_true]
    refine ⟨action, kept, ?_⟩
    rw [Option.mem_def.mp selected, same, beq_iff_eq]
  actionRecordSession := by
    intro action kept
    have spared := orphan_action_spared activity.recordRoutine references kept
    rw [orphanAction, Bool.not_eq_false', List.any_eq_true] at spared
    obtain ⟨recording, found, same⟩ := spared
    exact ⟨recording, found, beq_iff_eq.mp same⟩

/-- The preview's six counts are the deletes of the prune, and the startup
retention leaves the same rows, however either of them batches its deletes. -/
theorem prune_preview_tells_the_truth (retention : SqlEngine) (cutoffMs performedAt startedAt : I64)
    (compactError : Option String) (db : DashboardDatabase) (references : ForeignKeys db.activity) :
    (prunePreview cutoffMs db).counts =
        (pruneOldEvents engine performedAt cutoffMs compactError db).2.counts ∧
      ∀ store : Database, store.activity = db.activity →
        (pruneOldActivity retention startedAt cutoffMs store).1.activity =
          (pruneOldEvents engine performedAt cutoffMs compactError db).1.activity := by
  refine ⟨(prune_old_events_counts engine performedAt compactError references).symm, ?_⟩
  intro store same
  rw [prune_old_events_activity engine performedAt compactError references, ← same]
  apply prune_old_activity_activity
  rw [same]
  exact references

end Pruned

section

private def idleRow (sessionId : Int) (seq : Nat) (ts : Int) : EventRow :=
  .fromEnvelope ⟨schemaVersion, sessionId, seq, .ofInt ts, .system, false, .idle 60000⟩

/-- An ended session whose recording, request and selector are as old as its
rows, beside a running session with a recent event. -/
private def agedDatabase : DashboardDatabase where
  sessions :=
    ⟨[⟨1, .ofInt 0, some (.ofInt 900), none, none, none, none⟩,
      ⟨2, .ofInt 950, none, none, none, none, none⟩], by decide⟩
  events := ⟨[idleRow 1 1 10, idleRow 1 2 20, idleRow 2 1 1500], by decide⟩
  recordRoutine := some
    { recordRequests :=
        ⟨[⟨4, .ofInt 5, .ofInt 65, .started, none, "{}", some 7, .ofInt 9⟩], by decide⟩
      recordSessions :=
        ⟨[⟨7, some 4, 1, .ofInt 9, some (.ofInt 60), none, none, "{}", [], 1, .ofInt 1800000,
          true⟩], by decide⟩
      selectorPaths := ⟨[⟨3, "9f2c", "uia", 1, [], none, false, .ofInt 11⟩], by decide⟩
      actionEvents :=
        ⟨[⟨1, .ofInt 3, .ofInt 30, .invoke, none, some 3, .pidMatch, none, false, 7, .native,
          .invoke none none⟩], by decide⟩ }
  deletionAudit := none

private theorem aged_database_references : ForeignKeys agedDatabase.activity :=
  ⟨by decide, by decide, by decide, by decide, by decide⟩

private def tableOrder : SqlEngine := ⟨fun matching limit => .first matching limit⟩

/-- The whole old recording goes with its session; the running one stays. -/
theorem prune_preview_tells_the_truth_aged :
    (prunePreview (.ofInt 1000) agedDatabase).counts = ⟨2, 1, 1, 1, 1, 1⟩ ∧
      (pruneOldEvents tableOrder (.ofInt 2000) (.ofInt 1000) none agedDatabase).2.counts =
        ⟨2, 1, 1, 1, 1, 1⟩ := by
  have announced : (prunePreview (.ofInt 1000) agedDatabase).counts = ⟨2, 1, 1, 1, 1, 1⟩ := by
    decide
  have truthful := (prune_preview_tells_the_truth tableOrder tableOrder (.ofInt 1000)
    (.ofInt 2000) (.ofInt 3000) none agedDatabase aged_database_references).1
  exact ⟨announced, truthful.symm.trans announced⟩

end

end Gilbreth.Store
