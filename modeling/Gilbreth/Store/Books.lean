import Gilbreth.Store.OpenFocus

/-!
# Frames of the statements

Inserting rows and moving the focus row leave the books alone: the sessions,
requests, recordings, metadata and audit. The statements of the record routine
write requests and recordings and leave everything else alone.
-/

set_option autoImplicit false

namespace Gilbreth.Store

open Gilbreth.Core

section Inputs

/-- The recordings are the same rows with other action counts. -/
def Recounted (before after : List RecordSessionRow) : Prop :=
  ∃ count : RecordSessionRow → Nat,
    after = before.map fun row => { row with actionCount := count row }

namespace Recounted

theorem refl (rows : List RecordSessionRow) : Recounted rows rows :=
  ⟨RecordSessionRow.actionCount, (List.map_id rows).symm⟩

theorem trans {first second third : List RecordSessionRow} (left : Recounted first second)
    (right : Recounted second third) : Recounted first third := by
  obtain ⟨count, rfl⟩ := left
  obtain ⟨recount, rfl⟩ := right
  refine ⟨fun row => recount { row with actionCount := count row }, ?_⟩
  rw [List.map_map]
  rfl

variable {before after : List RecordSessionRow}

theorem map_eq {Value : Type} (recounted : Recounted before after)
    (view : RecordSessionRow → Value)
    (blind : ∀ row count, view { row with actionCount := count } = view row) :
    after.map view = before.map view := by
  obtain ⟨count, rfl⟩ := recounted
  rw [List.map_map]
  apply List.map_congr_left
  intro row _
  exact blind row (count row)

end Recounted

structure SameBooks (before after : Database) : Prop where
  sessions : after.activity.sessions = before.activity.sessions
  events : before.activity.events.rows ⊆ after.activity.events.rows
  actionEvents : before.activity.recordRoutine.actionEvents.rows ⊆
    after.activity.recordRoutine.actionEvents.rows
  selectorPaths : before.activity.recordRoutine.selectorPaths.rows.map SelectorPathRow.selectorId ⊆
    after.activity.recordRoutine.selectorPaths.rows.map SelectorPathRow.selectorId
  recordRequests :
    after.activity.recordRoutine.recordRequests = before.activity.recordRoutine.recordRequests
  recordSessions : Recounted before.activity.recordRoutine.recordSessions.rows
    after.activity.recordRoutine.recordSessions.rows
  metaRows : after.metaRows = before.metaRows
  deletionAudit : after.deletionAudit = before.deletionAudit
  requestSequence : after.sqliteSequence.recordRequests = before.sqliteSequence.recordRequests
  sessionSequence : after.sqliteSequence.recordSessions = before.sqliteSequence.recordSessions

namespace SameBooks

theorem refl (db : Database) : SameBooks db db :=
  ⟨rfl, .refl _, .refl _, .refl _, rfl, .refl _, rfl, rfl, rfl, rfl⟩

theorem trans {first second third : Database} (left : SameBooks first second)
    (right : SameBooks second third) : SameBooks first third where
  sessions := right.sessions.trans left.sessions
  events := List.Subset.trans left.events right.events
  actionEvents := List.Subset.trans left.actionEvents right.actionEvents
  selectorPaths := List.Subset.trans left.selectorPaths right.selectorPaths
  recordRequests := right.recordRequests.trans left.recordRequests
  recordSessions := left.recordSessions.trans right.recordSessions
  metaRows := right.metaRows.trans left.metaRows
  deletionAudit := right.deletionAudit.trans left.deletionAudit
  requestSequence := right.requestSequence.trans left.requestSequence
  sessionSequence := right.sessionSequence.trans left.sessionSequence

variable {db after : Database}

theorem insert_event {row : EventRow} (inserted : db.insertEvent row = some after) :
    SameBooks db after := by
  unfold Database.insertEvent at inserted
  split_ifs at inserted
  obtain ⟨events, fits, rfl⟩ := Option.map_eq_some_iff.mp inserted
  refine { refl db with events := ?_ }
  change db.activity.events.rows ⊆ events.rows
  rw [Table.insert_some_rows fits]
  exact List.subset_append_left _ _

theorem insert_action {row : ActionEventRow} (inserted : db.insertAction row = some after) :
    SameBooks db after := by
  unfold Database.insertAction at inserted
  split_ifs at inserted
  obtain ⟨actions, fits, rfl⟩ := Option.map_eq_some_iff.mp inserted
  refine { refl db with actionEvents := ?_, recordSessions := ⟨fun recording => ?_, ?_⟩ }
  · change db.activity.recordRoutine.actionEvents.rows ⊆ actions.rows
    rw [Table.insert_some_rows fits]
    exact List.subset_append_left _ _
  · exact if recording.recordSessionId == row.recordSessionId then recording.actionCount + 1
      else recording.actionCount
  · apply List.map_congr_left
    intro recording _
    dsimp only
    split_ifs <;> rfl

theorem set_open_focus (db : Database) (row : Option OpenFocusRow) :
    SameBooks db { db with openFocus := row } :=
  ⟨rfl, .refl _, .refl _, .refl _, rfl, .refl _, rfl, rfl, rfl, rfl⟩

theorem clear_open_focus (fault : Option StoreError) (state : OpenFocusState) (db : Database) :
    SameBooks db (clearOpenFocus fault state db).2 := by
  unfold clearOpenFocus
  split_ifs
  · split
    · rename_i cleared deleted
      obtain ⟨_, rfl⟩ := statement_ok deleted
      exact set_open_focus db none
    · exact refl db
  · exact refl db

theorem note_open_focus (fault : Option StoreError) (state : OpenFocusState) (db : Database)
    (event : EventEnvelope) : SameBooks db (noteOpenFocusEvent fault state db event).2 := by
  have cleared := clear_open_focus fault state db
  unfold noteOpenFocusEvent
  cases event.payload with
  | focusChanged window prev focusedFor unfocusedFor recovered =>
      dsimp only
      split_ifs
      · exact cleared
      · exact cleared
      · exact refl db
  | powerSuspend _ | sessionLock _ | sessionDisconnect _ _ | capturePaused => exact cleared
  | _ => exact refl db

theorem flush_events (readings : Nat → AttemptReadings StoreError) (batch : List EventEnvelope)
    (db : Database) : SameBooks db (flushRows insertEvents readings batch db).1 := by
  have kept : RowsKeep insertEventRow (SameBooks db) batch := by
    intro event member fault position progress after held inserted
    unfold insertEventRow at inserted
    split at inserted
    · split_ifs at inserted
      exact Except.ok.inj inserted ▸ held
    · split at inserted
      · rename_i next added
        rw [← Except.ok.inj inserted]
        exact held.trans (insert_event added)
      · exact Except.ok.inj inserted ▸ held
  exact flush_rows_keeps kept readings (refl db)

variable [Externals] [StoreExternals]

theorem intern_selector (db : Database) (action : StampedAction) :
    SameBooks db (db.internSelector action).2 := by
  unfold Database.internSelector
  dsimp only
  split
  · split_ifs
    · refine ⟨rfl, .refl _, .refl _, ?_, rfl, .refl _, rfl, rfl, rfl, rfl⟩
      dsimp only
      rw [Table.keys_update_where]
      exact List.Subset.refl _
    · exact refl db
  · refine ⟨rfl, .refl _, .refl _, ?_, rfl, .refl _, rfl, rfl, rfl, rfl⟩
    exact List.map_subset _ (List.subset_append_left _ _)

theorem flush_actions (readings : Nat → AttemptReadings ActionFault) (batch : List StampedAction)
    (db : Database) : SameBooks db (flushRows insertActions readings batch db).1 := by
  have kept : RowsKeep insertActionRow (SameBooks db) batch := by
    intro action member fault position progress after held inserted
    have interned := held.trans (intern_selector progress.1 action)
    unfold insertActionRow at inserted
    dsimp only at inserted
    split_ifs at inserted
    · exact Except.ok.inj inserted ▸ held
    · exact Except.ok.inj inserted ▸ held
    · split at inserted
      · split_ifs at inserted
        · exact Except.ok.inj inserted ▸ interned
        · exact Except.ok.inj inserted ▸ held
      · split at inserted
        · rename_i next added
          rw [← Except.ok.inj inserted]
          exact interned.trans (insert_action added)
        · exact Except.ok.inj inserted ▸ interned
  exact flush_rows_keeps kept readings (refl db)

end SameBooks

end Inputs

section Routine

/-- A statement whose failure is only logged. -/
inductive Logged (statement : Except StoreError Database) (db : Database) : Database → Prop where
  | failed : Logged statement db db
  | done {after : Database} (done : statement = .ok after) : Logged statement db after

theorem logged (statement : Except StoreError Database) (db : Database) :
    Logged statement db (statement.toOption.getD db) := by
  cases statement with
  | error error => exact .failed
  | ok after => exact .done rfl

/-- The request still waits for an answer. -/
def requestable (requestId : Int) (row : RecordRequestRow) : Bool :=
  row.requestId == requestId && row.status == .requested

theorem confirm_record_request_ok {fault : Option StoreError} {db after : Database}
    {requestId : Int} {updatedAt : I64}
    (confirmed : db.confirmRecordRequest fault requestId updatedAt = .ok after) :
    db.activity.recordRoutine.recordRequests.countWhere (requestable requestId) ≠ 0 ∧
      after = db.updateRequests (requestable requestId) .confirmed updatedAt := by
  unfold Database.confirmRecordRequest at confirmed
  dsimp only at confirmed
  split_ifs at confirmed with waiting
  · cases fault <;> cases confirmed
  · exact ⟨waiting, (statement_ok confirmed).2⟩

theorem pause_record_session_ok {fault : Option StoreError} {db after : Database}
    {recordSessionId : Int} {pausedTs : I64}
    (paused : db.pauseRecordSession fault recordSessionId pausedTs = .ok after) :
    after = db ∨
      ∃ intervals, db.writePauseIntervals fault recordSessionId intervals = .ok after := by
  unfold Database.pauseRecordSession at paused
  cases read : db.pauseIntervals recordSessionId with
  | error error =>
      rw [read] at paused
      cases paused
  | ok intervals =>
      rw [read] at paused
      change (if _ then _ else _) = _ at paused
      split_ifs at paused
      · exact Or.inl (statement_ok paused).2
      · exact Or.inr ⟨_, paused⟩

theorem resume_record_session_ok {fault : Option StoreError} {db after : Database}
    {recordSessionId : Int} {resumedTs : I64}
    (resumed : db.resumeRecordSession fault recordSessionId resumedTs = .ok after) :
    ∃ intervals, db.writePauseIntervals fault recordSessionId intervals = .ok after := by
  unfold Database.resumeRecordSession at resumed
  cases read : db.pauseIntervals recordSessionId with
  | error error =>
      rw [read] at resumed
      cases resumed
  | ok intervals =>
      rw [read] at resumed
      exact ⟨_, resumed⟩

/-- Only requests and recordings differ. -/
structure RoutineFrame (before after : Database) : Prop where
  sessions : after.activity.sessions = before.activity.sessions
  events : after.activity.events = before.activity.events
  actionEvents :
    after.activity.recordRoutine.actionEvents = before.activity.recordRoutine.actionEvents
  openFocus : after.openFocus = before.openFocus
  deletionAudit : after.deletionAudit = before.deletionAudit
  metaRows : after.metaRows = before.metaRows

namespace RoutineFrame

theorem refl (db : Database) : RoutineFrame db db := ⟨rfl, rfl, rfl, rfl, rfl, rfl⟩

theorem trans {first second third : Database} (left : RoutineFrame first second)
    (right : RoutineFrame second third) : RoutineFrame first third :=
  ⟨right.sessions.trans left.sessions, right.events.trans left.events,
    right.actionEvents.trans left.actionEvents, right.openFocus.trans left.openFocus,
    right.deletionAudit.trans left.deletionAudit, right.metaRows.trans left.metaRows⟩

variable {fault : Option StoreError} {db after : Database}

theorem update_requests (db : Database) (matching : RecordRequestRow → Bool)
    (status : RecordRequestStatus) (updatedAt : I64) :
    RoutineFrame db (db.updateRequests matching status updatedAt) := ⟨rfl, rfl, rfl, rfl, rfl, rfl⟩

theorem update_record_sessions (db : Database) (matching : RecordSessionRow → Bool)
    (change : RecordSessionRow → RecordSessionRow)
    (keeps : ∀ row, (change row).recordSessionId = row.recordSessionId) :
    RoutineFrame db (db.updateRecordSessions matching change keeps) :=
  ⟨rfl, rfl, rfl, rfl, rfl, rfl⟩

theorem confirm {requestId : Int} {updatedAt : I64}
    (confirmed : db.confirmRecordRequest fault requestId updatedAt = .ok after) :
    RoutineFrame db after := by
  rw [(confirm_record_request_ok confirmed).2]
  exact update_requests _ _ _ _

theorem cancel {requestId : Int} {updatedAt : I64}
    (cancelled : db.cancelRecordRequest fault requestId updatedAt = .ok after) :
    RoutineFrame db after := by
  obtain ⟨_, rfl⟩ := statement_ok cancelled
  exact update_requests _ _ _ _

theorem fail {requestId : Int} {updatedAt : I64}
    (failed : db.failRecordRequest fault requestId updatedAt = .ok after) :
    RoutineFrame db after := by
  obtain ⟨_, rfl⟩ := statement_ok failed
  exact update_requests _ _ _ _

theorem expire {nowMs : I64} (expired : db.expireRecordRequests fault nowMs = .ok after) :
    RoutineFrame db after := by
  obtain ⟨_, rfl⟩ := statement_ok expired
  exact update_requests _ _ _ _

theorem of_logged {statement : Except StoreError Database} (outcome : Logged statement db after)
    (framed : statement = .ok after → RoutineFrame db after) : RoutineFrame db after := by
  cases outcome with
  | failed => exact refl db
  | done done => exact framed done

theorem close {recordSessionId : Int} {endedTs : I64} {stopReason : RecordStopReason}
    (closed : db.closeRecordSession fault recordSessionId endedTs stopReason = .ok after) :
    RoutineFrame db after := by
  obtain ⟨_, rfl⟩ := statement_ok closed
  exact update_record_sessions _ _ _ _

theorem finalize {endedTs : I64} {stopReason : RecordStopReason}
    (finalized : db.finalizeOpenRecordSessions fault stopReason endedTs = .ok after) :
    RoutineFrame db after := by
  obtain ⟨_, rfl⟩ := statement_ok finalized
  exact update_record_sessions _ _ _ _

theorem write_pause_intervals {recordSessionId : Int} {intervals : List (I64 × Option I64)}
    (written : db.writePauseIntervals fault recordSessionId intervals = .ok after) :
    RoutineFrame db after := by
  obtain ⟨_, rfl⟩ := statement_ok written
  exact update_record_sessions _ _ _ _

theorem pause {recordSessionId : Int} {pausedTs : I64}
    (paused : db.pauseRecordSession fault recordSessionId pausedTs = .ok after) :
    RoutineFrame db after := by
  rcases pause_record_session_ok paused with rfl | ⟨intervals, written⟩
  · exact refl _
  · exact write_pause_intervals written

theorem resume {recordSessionId : Int} {resumedTs : I64}
    (resumed : db.resumeRecordSession fault recordSessionId resumedTs = .ok after) :
    RoutineFrame db after := by
  obtain ⟨intervals, written⟩ := resume_record_session_ok resumed
  exact write_pause_intervals written

end RoutineFrame

def OpenRecordSessionParams.row (params : OpenRecordSessionParams) (recordSessionId : Int) :
    RecordSessionRow where
  recordSessionId := recordSessionId
  requestId := params.requestId
  sessionId := params.sessionId
  startedTs := params.startedTs
  endedTs := none
  stopReason := none
  title := params.title
  policySnapshotJson := params.policySnapshotJson
  pauseIntervals := []
  actionCount := 0
  safetyCapMs := params.safetyCapMs
  visibleIndicator := params.visibleIndicator

def confirmedRequest (requestId : Int) (row : RecordRequestRow) : Bool :=
  row.requestId == requestId && row.status == .confirmed

def RecordRequestRow.startedAs (recordSessionId : Int) (updatedAt : I64)
    (row : RecordRequestRow) : RecordRequestRow :=
  { row with
    status := .started
    fulfilledRecordSessionId := some recordSessionId
    updatedAt := updatedAt }

/-- An opened recording is one new row, and its request was confirmed and has
started. -/
structure RecordingOpened (params : OpenRecordSessionParams) (db after : Database)
    (recordSessionId : Int) : Prop where
  frame : RoutineFrame db after
  fresh : recordSessionId = Table.nextId db.sqliteSequence.recordSessions db.recordSessionIds
  sequence : after.sqliteSequence =
    { db.sqliteSequence with recordSessions := recordSessionId }
  inserted : after.activity.recordRoutine.recordSessions.rows =
    db.activity.recordRoutine.recordSessions.rows ++ [params.row recordSessionId]
  session : params.sessionId ∈ db.sessionIds
  unrequested : params.requestId = none →
    after.activity.recordRoutine.recordRequests = db.activity.recordRoutine.recordRequests
  requested : ∀ requestId, params.requestId = some requestId →
    db.activity.recordRoutine.recordRequests.countWhere (confirmedRequest requestId) ≠ 0 ∧
    after.activity.recordRoutine.recordRequests.rows =
      db.activity.recordRoutine.recordRequests.rows.map fun row =>
        if confirmedRequest requestId row then row.startedAs recordSessionId params.startedTs
        else row

theorem open_record_session_ok [StoreExternals] {fault : Option StoreError} {db after : Database}
    {params : OpenRecordSessionParams} {recordSessionId : Int}
    (opened : db.openRecordSession fault params = .ok (after, recordSessionId)) :
    RecordingOpened params db after recordSessionId := by
  unfold Database.openRecordSession at opened
  cases valueFree : ensureValueFreeJson params.policySnapshotJson "policy_snapshot_json" with
  | error error =>
      rw [valueFree] at opened
      cases opened
  | ok checked =>
      rw [valueFree] at opened
      change (if _ then _ else _) = _ at opened
      by_cases uncapped : params.safetyCapMs ≤ I64.ofInt 0
      · rw [if_pos uncapped] at opened
        cases opened
      rw [if_neg uncapped] at opened
      change (if _ then _ else _) = _ at opened
      by_cases absent : params.sessionId ∉ db.sessionIds
      · rw [if_pos absent] at opened
        cases opened
      rw [if_neg absent] at opened
      have session := not_not.mp absent
      dsimp only at opened
      split at opened
      · rename_i unrequested
        obtain ⟨_, same⟩ := statement_ok opened
        obtain ⟨rfl, rfl⟩ := Prod.mk.inj same
        refine ⟨⟨rfl, rfl, rfl, rfl, rfl, rfl⟩, rfl, rfl, rfl, session, fun _ => rfl, ?_⟩
        intro requestId requested
        cases unrequested.symm.trans requested
      · rename_i requestId requested
        split_ifs at opened with confirmed
        · cases opened
        · obtain ⟨_, same⟩ := statement_ok opened
          obtain ⟨rfl, rfl⟩ := Prod.mk.inj same
          refine ⟨⟨rfl, rfl, rfl, rfl, rfl, rfl⟩, rfl, rfl, rfl, session, ?_, ?_⟩
          · intro unrequested
            cases requested.symm.trans unrequested
          · intro other same
            obtain rfl := Option.some.inj (requested.symm.trans same)
            exact ⟨confirmed, rfl⟩

/-- A created request is one new row that waits for an answer. -/
structure RequestCreated (db after : Database) (row : RecordRequestRow) : Prop where
  frame : RoutineFrame db after
  fresh : row.requestId = Table.nextId db.sqliteSequence.recordRequests db.requestIds
  waiting : row.status = .requested ∧ row.fulfilledRecordSessionId = none
  inserted : after.activity.recordRoutine.recordRequests.rows =
    db.activity.recordRoutine.recordRequests.rows ++ [row]
  recordSessions :
    after.activity.recordRoutine.recordSessions = db.activity.recordRoutine.recordSessions
  sequence : after.sqliteSequence = { db.sqliteSequence with recordRequests := row.requestId }

theorem create_record_request_ok [StoreExternals] {fault : Option StoreError} {db after : Database}
    {requestedAt expiresAt : I64} {candidateKind : Option String} {candidateJson : String}
    {requestId : Int}
    (created : db.createRecordRequest fault requestedAt expiresAt candidateKind candidateJson =
      .ok (after, requestId)) :
    RequestCreated db after (db.newRequest requestedAt expiresAt candidateKind candidateJson) := by
  unfold Database.createRecordRequest at created
  cases valueFree : ensureValueFreeJson candidateJson "candidate_json" with
  | error error =>
      rw [valueFree] at created
      cases created
  | ok checked =>
      rw [valueFree] at created
      obtain ⟨_, same⟩ := statement_ok created
      obtain ⟨rfl, rfl⟩ := Prod.mk.inj same
      exact ⟨⟨rfl, rfl, rfl, rfl, rfl, rfl⟩, rfl, ⟨rfl, rfl⟩, rfl, rfl, rfl⟩

end Routine

end Gilbreth.Store
