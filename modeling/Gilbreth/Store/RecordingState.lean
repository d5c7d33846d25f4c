import Gilbreth.Store.Lifetime
import Gilbreth.Store.ResetFrame

/-!
# The writer's idea of which recording is open

The resets trust the identifier the writer keeps, not the table. The two agree
for as long as no recording is started over an open one: the start then leaves
two rows open and remembers only the second.
-/

set_option autoImplicit false

namespace Gilbreth.Store

open Gilbreth.Core

section Rows

/-- The identifier of a recording that has not ended. -/
def RecordSessionRow.openId (row : RecordSessionRow) : Option Int :=
  if row.endedTs.isNone then some row.recordSessionId else none

/-- The recordings without an end, in the order they were opened. -/
def Database.openRecordingIds (db : Database) : List Int :=
  db.activity.recordRoutine.recordSessions.rows.filterMap RecordSessionRow.openId

variable {fault : Option StoreError} {db after : Database}

theorem Recounted.open_ids {before after : List RecordSessionRow}
    (recounted : Recounted before after) :
    after.filterMap RecordSessionRow.openId = before.filterMap RecordSessionRow.openId := by
  obtain ⟨count, rfl⟩ := recounted
  rw [List.filterMap_map]
  rfl

theorem open_ids_of_same_ends (matching : RecordSessionRow → Bool)
    (change : RecordSessionRow → RecordSessionRow)
    (keeps : ∀ row, (change row).recordSessionId = row.recordSessionId)
    (ends : ∀ row, (change row).endedTs = row.endedTs) :
    (db.updateRecordSessions matching change keeps).openRecordingIds = db.openRecordingIds := by
  unfold Database.openRecordingIds
  change List.filterMap _ (List.map _ _) = _
  rw [List.filterMap_map]
  apply List.filterMap_congr
  intro row _
  change RecordSessionRow.openId (if matching row then change row else row) = row.openId
  split_ifs
  · unfold RecordSessionRow.openId
    rw [ends, keeps]
  · rfl

theorem open_id_ended (endedTs : I64) (stopReason : RecordStopReason) (row : RecordSessionRow) :
    (Database.endRecording endedTs stopReason row).openId = none := rfl

theorem open_ids_close {recordSessionId : Int} {endedTs : I64} {stopReason : RecordStopReason}
    (closed : db.closeRecordSession fault recordSessionId endedTs stopReason = .ok after) :
    after.openRecordingIds = db.openRecordingIds.filter (· != recordSessionId) := by
  obtain ⟨_, rfl⟩ := statement_ok closed
  unfold Database.openRecordingIds
  change List.filterMap _ (List.map _ _) = _
  rw [List.filterMap_map, List.filter_filterMap]
  apply List.filterMap_congr
  intro row _
  change RecordSessionRow.openId
      (if (row.recordSessionId == recordSessionId && row.endedTs.isNone) = true then
        Database.endRecording endedTs stopReason row
      else row) = row.openId.filter (· != recordSessionId)
  cases ended : row.endedTs.isNone with
  | false =>
      simp only [RecordSessionRow.openId, ended, Bool.and_false, Bool.false_eq_true, if_false,
        Option.filter_none]
  | true =>
      by_cases same : row.recordSessionId = recordSessionId
      · have touched : (row.recordSessionId == recordSessionId && true) = true := by
          rw [same, BEq.rfl, Bool.and_true]
        rw [if_pos touched, open_id_ended]
        simp only [RecordSessionRow.openId, ended, if_true, Option.filter_some, same,
          bne_self_eq_false, Bool.false_eq_true, if_false]
      · have spared : ¬(row.recordSessionId == recordSessionId && true) = true := by
          rw [Bool.and_true, beq_iff_eq]
          exact same
        have other : (row.recordSessionId != recordSessionId) = true := bne_iff_ne.mpr same
        rw [if_neg spared]
        simp only [RecordSessionRow.openId, ended, if_true, Option.filter_some, other]

theorem open_ids_finalize {endedTs : I64} {stopReason : RecordStopReason}
    (finalized : db.finalizeOpenRecordSessions fault stopReason endedTs = .ok after) :
    after.openRecordingIds = [] := by
  obtain ⟨_, rfl⟩ := statement_ok finalized
  unfold Database.openRecordingIds
  change List.filterMap _ (List.map _ _) = _
  rw [List.filterMap_map, List.filterMap_eq_nil_iff]
  intro row _
  change RecordSessionRow.openId (if _ then _ else row) = none
  split_ifs with ended
  · rfl
  · unfold RecordSessionRow.openId
    rw [if_neg ended]

theorem open_ids_write_pause_intervals {recordSessionId : Int}
    {intervals : List (I64 × Option I64)}
    (written : db.writePauseIntervals fault recordSessionId intervals = .ok after) :
    after.openRecordingIds = db.openRecordingIds := by
  obtain ⟨_, rfl⟩ := statement_ok written
  exact open_ids_of_same_ends _ _ _ fun _ => rfl

theorem open_ids_pause {recordSessionId : Int} {pausedTs : I64}
    (paused : db.pauseRecordSession fault recordSessionId pausedTs = .ok after) :
    after.openRecordingIds = db.openRecordingIds := by
  rcases pause_record_session_ok paused with rfl | ⟨intervals, written⟩
  · rfl
  · exact open_ids_write_pause_intervals written

theorem open_ids_resume {recordSessionId : Int} {resumedTs : I64}
    (resumed : db.resumeRecordSession fault recordSessionId resumedTs = .ok after) :
    after.openRecordingIds = db.openRecordingIds := by
  obtain ⟨intervals, written⟩ := resume_record_session_ok resumed
  exact open_ids_write_pause_intervals written

theorem open_ids_opened {params : OpenRecordSessionParams} {recordSessionId : Int}
    (opened : RecordingOpened params db after recordSessionId) :
    after.openRecordingIds = db.openRecordingIds ++ [recordSessionId] := by
  unfold Database.openRecordingIds
  rw [opened.inserted, List.filterMap_append]
  rfl

end Rows

section Writer

variable [Externals]

/-- The rows without an end are exactly the one recording the writer holds. -/
def WriterState.RecordingAgrees (state : WriterState) : Prop :=
  state.store.openRecordingIds = state.recordState.activeRecordSessionId.toList

theorem InputFrame.recording_agrees {before after : WriterState} (frame : InputFrame before after)
    (agrees : before.RecordingAgrees) : after.RecordingAgrees := by
  unfold WriterState.RecordingAgrees Database.openRecordingIds
  rw [frame.books.recordSessions.open_ids, frame.recordState]
  exact agrees

theorem Wiped.recording_agrees {writer : WriterState} (wiped : Wiped writer) :
    writer.RecordingAgrees := by
  unfold WriterState.RecordingAgrees Database.openRecordingIds
  rw [wiped.recordings, wiped.inactive]
  rfl

theorem ResetOutcome.recording_agrees {state after : WriterState}
    (outcome : ResetOutcome state after) (agrees : state.RecordingAgrees) :
    after.RecordingAgrees := by
  cases outcome with
  | refused => exact agrees
  | unsettled drained => exact drained.recording_agrees agrees
  | settled frame finalized => exact open_ids_finalize finalized
  | wiped wiped => exact wiped.recording_agrees

section Start

variable [StoreExternals] (state : WriterState) (faults : StartFaults) (command : StartRecording)

/-- Nothing refuses a start: the request it names is waiting, the policy
snapshot holds no value, the cap is positive and the session exists. -/
structure StartAccepted : Prop where
  waiting : ∀ requestId, command.requestId = some requestId → faults.confirm = none ∧
    state.store.activity.recordRoutine.recordRequests.countWhere (requestable requestId) ≠ 0
  valueFree : ensureValueFreeJson command.policySnapshotJson "policy_snapshot_json" = .ok ()
  capped : ¬command.safetyCapMs ≤ .ofInt 0
  session : state.sequencer.sessionId ∈ state.store.sessionIds
  written : faults.openSession = none

omit [Externals] [StoreExternals] in
theorem confirmed_of_waiting {db : Database} {requestId : Int} {updatedAt : I64}
    (waiting : db.activity.recordRoutine.recordRequests.countWhere (requestable requestId) ≠ 0) :
    (db.updateRequests (requestable requestId) .confirmed
      updatedAt).activity.recordRoutine.recordRequests.countWhere
        (confirmedRequest requestId) ≠ 0 := by
  obtain ⟨row, member, waits⟩ := List.countP_pos_iff.mp (Nat.pos_of_ne_zero waiting)
  apply Nat.pos_iff_ne_zero.mp
  apply List.countP_pos_iff.mpr
  refine ⟨_, List.mem_map.mpr ⟨row, member, rfl⟩, ?_⟩
  rw [if_pos waits]
  unfold requestable at waits
  unfold confirmedRequest
  rw [Bool.and_eq_true] at waits
  rw [waits.1]
  rfl

omit [Externals] in
theorem open_record_session_iff {fault : Option StoreError} {db : Database}
    {params : OpenRecordSessionParams} :
    (∃ opened, db.openRecordSession fault params = .ok opened) ↔
      ensureValueFreeJson params.policySnapshotJson "policy_snapshot_json" = .ok () ∧
        ¬params.safetyCapMs ≤ .ofInt 0 ∧ params.sessionId ∈ db.sessionIds ∧
        (∀ requestId, params.requestId = some requestId →
          db.activity.recordRoutine.recordRequests.countWhere (confirmedRequest requestId) ≠ 0) ∧
        fault = none := by
  constructor
  · rintro ⟨opened, succeeded⟩
    have spec := open_record_session_ok succeeded
    unfold Database.openRecordSession at succeeded
    cases valueFree : ensureValueFreeJson params.policySnapshotJson "policy_snapshot_json" with
    | error error =>
        rw [valueFree] at succeeded
        cases succeeded
    | ok checked =>
        rw [valueFree] at succeeded
        change (if _ then _ else _) = _ at succeeded
        by_cases uncapped : params.safetyCapMs ≤ I64.ofInt 0
        · rw [if_pos uncapped] at succeeded
          cases succeeded
        rw [if_neg uncapped] at succeeded
        change (if _ then _ else _) = _ at succeeded
        rw [if_neg (not_not.mpr spec.session)] at succeeded
        refine ⟨rfl, uncapped, spec.session, fun requestId named => (spec.requested _ named).1, ?_⟩
        dsimp only at succeeded
        split at succeeded
        · exact (statement_ok succeeded).1
        · split_ifs at succeeded
          · cases succeeded
          · exact (statement_ok succeeded).1
  · rintro ⟨valueFree, capped, session, confirmed, rfl⟩
    cases refused : db.openRecordSession none params with
    | ok opened => exact ⟨opened, rfl⟩
    | error error =>
        exfalso
        unfold Database.openRecordSession at refused
        rw [valueFree] at refused
        change (if _ then _ else _) = _ at refused
        rw [if_neg capped] at refused
        change (if _ then _ else _) = _ at refused
        rw [if_neg (not_not.mpr session)] at refused
        dsimp only at refused
        split at refused
        · cases refused
        · rename_i requestId named
          rw [if_neg (by exact confirmed requestId named)] at refused
          cases refused

variable (startedTs : I64)

def StartRecording.confirm (fault : Option StoreError) (db : Database) :
    Except StoreError Database :=
  match command.requestId with
  | some requestId => db.confirmRecordRequest fault requestId startedTs
  | none => .ok db

theorem start_recording_reply (now : Instant) :
    (state.startRecording now faults command).2 =
      (command.confirm (state.sequencer.timestampFor now) faults.confirm state.store).bind
        fun db => (db.openRecordSession faults.openSession
          (command.params (state.sequencer.timestampFor now) state.sequencer.sessionId)).map
            Prod.snd := by
  unfold WriterState.startRecording
  dsimp only
  split
  · rename_i error refused
    have known : command.confirm (state.sequencer.timestampFor now) faults.confirm state.store =
        .error error := refused
    rw [known]
    rfl
  · rename_i db confirmed
    have known : command.confirm (state.sequencer.timestampFor now) faults.confirm state.store =
        .ok db := confirmed
    rw [known]
    have opening : command.params (state.sequencer.timestampFor now) state.sequencer.sessionId =
        ⟨command.requestId, state.sequencer.sessionId, state.sequencer.timestampFor now,
          command.title, command.policySnapshotJson, command.safetyCapMs,
          command.visibleIndicator⟩ := rfl
    change _ = (db.openRecordSession _ _).map Prod.snd
    rw [opening]
    split
    · rename_i opened recordSessionId succeeded
      rw [succeeded]
      rfl
    · rename_i error failed
      rw [failed]
      rfl

omit [Externals] [StoreExternals] in
theorem confirm_iff (fault : Option StoreError) (db : Database) :
    (∃ confirmed, command.confirm startedTs fault db = .ok confirmed) ↔
      ∀ requestId, command.requestId = some requestId → fault = none ∧
        db.activity.recordRoutine.recordRequests.countWhere (requestable requestId) ≠ 0 := by
  unfold StartRecording.confirm
  cases command.requestId with
  | none => exact ⟨fun _ _ impossible => (by cases impossible), fun _ => ⟨db, rfl⟩⟩
  | some named =>
      dsimp only
      constructor
      · rintro ⟨confirmed, succeeded⟩ requestId same
        obtain rfl := Option.some.inj same
        have waiting := (confirm_record_request_ok succeeded).1
        unfold Database.confirmRecordRequest at succeeded
        dsimp only at succeeded
        rw [if_neg (by exact waiting)] at succeeded
        exact ⟨(statement_ok succeeded).1, waiting⟩
      · intro accepted
        obtain ⟨rfl, waiting⟩ := accepted named rfl
        unfold Database.confirmRecordRequest
        dsimp only
        rw [if_neg (by exact waiting)]
        exact ⟨_, rfl⟩

omit [Externals] [StoreExternals] in
theorem confirm_ok {fault : Option StoreError} {db confirmed : Database}
    (succeeded : command.confirm startedTs fault db = .ok confirmed) :
    confirmed.sessionIds = db.sessionIds ∧
      ∀ requestId, command.requestId = some requestId →
        confirmed.activity.recordRoutine.recordRequests.countWhere
          (confirmedRequest requestId) ≠ 0 := by
  unfold StartRecording.confirm at succeeded
  cases named : command.requestId with
  | none =>
      rw [named] at succeeded
      obtain rfl := Except.ok.inj succeeded
      exact ⟨rfl, fun _ impossible => by cases impossible⟩
  | some requestId =>
      rw [named] at succeeded
      obtain ⟨waiting, rfl⟩ := confirm_record_request_ok succeeded
      refine ⟨rfl, fun other same => ?_⟩
      obtain rfl := Option.some.inj same
      exact confirmed_of_waiting waiting

theorem start_recording_ok_iff (now : Instant) :
    (∃ recordSessionId, (state.startRecording now faults command).2 = .ok recordSessionId) ↔
      StartAccepted state faults command := by
  have waiting := confirm_iff command (state.sequencer.timestampFor now) faults.confirm state.store
  rw [start_recording_reply]
  constructor
  · rintro ⟨recordSessionId, replied⟩
    cases confirmed : command.confirm (state.sequencer.timestampFor now) faults.confirm
        state.store with
    | error error =>
        rw [confirmed] at replied
        cases replied
    | ok db =>
        rw [confirmed] at replied
        change (db.openRecordSession _ _).map Prod.snd = _ at replied
        cases opened : db.openRecordSession faults.openSession
            (command.params (state.sequencer.timestampFor now) state.sequencer.sessionId) with
        | error error =>
            rw [opened] at replied
            cases replied
        | ok result =>
            obtain ⟨valueFree, capped, session, _, written⟩ :=
              open_record_session_iff.mp ⟨result, opened⟩
            refine ⟨waiting.mp ⟨db, confirmed⟩, valueFree, capped, ?_, written⟩
            rw [← (confirm_ok command _ confirmed).1]
            exact session
  · intro accepted
    obtain ⟨db, confirmed⟩ := waiting.mpr accepted.waiting
    obtain ⟨sessions, named⟩ := confirm_ok command _ confirmed
    rw [confirmed]
    have session : state.sequencer.sessionId ∈ db.sessionIds := by
      rw [sessions]
      exact accepted.session
    have opens : ∃ result, db.openRecordSession faults.openSession
        (command.params (state.sequencer.timestampFor now) state.sequencer.sessionId) =
          .ok result :=
      open_record_session_iff.mpr
        ⟨accepted.valueFree, accepted.capped, session, named, accepted.written⟩
    obtain ⟨result, opened⟩ := opens
    refine ⟨result.2, ?_⟩
    change (db.openRecordSession _ _).map Prod.snd = _
    rw [opened]
    rfl

end Start

section Steps

variable [StoreExternals] (config : WriterConfig) (state : WriterState)

/-- A start that goes through while a recording is open. -/
def StartsOver (state : WriterState) : WriterTurn → Prop
  | .startRecording _ faults command =>
      state.recordState.activeRecordSessionId.isSome = true ∧ StartAccepted state faults command
  | _ => False

variable {state}

omit [StoreExternals] in
theorem recording_agrees_of_recordings {after : WriterState} (agrees : state.RecordingAgrees)
    (recordings : after.store.activity.recordRoutine.recordSessions =
      state.store.activity.recordRoutine.recordSessions)
    (active : after.recordState.activeRecordSessionId = state.recordState.activeRecordSessionId) :
    after.RecordingAgrees := by
  unfold WriterState.RecordingAgrees Database.openRecordingIds
  rw [recordings, active]
  exact agrees

theorem recording_agrees_start_iff (agrees : state.RecordingAgrees) (now : Instant)
    (faults : StartFaults) (command : StartRecording) :
    (state.startRecording now faults command).1.RecordingAgrees ↔
      ¬(state.recordState.activeRecordSessionId.isSome = true ∧
        StartAccepted state faults command) := by
  have outcome := start_recording_cases state now faults command
  have accepted := start_recording_ok_iff state faults command now
  generalize state.startRecording now faults command = result at outcome accepted
  obtain ⟨after, reply⟩ := result
  cases reply with
  | error error =>
      have refused : ¬StartAccepted state faults command := by
        intro accepts
        obtain ⟨_, impossible⟩ := accepted.mpr accepts
        cases impossible
      have active : after.recordState.activeRecordSessionId =
          state.recordState.activeRecordSessionId := by
        cases outcome with
        | refused error => rfl
        | failed error confirmed marked => rfl
      exact ⟨fun _ both => refused both.2,
        fun _ => recording_agrees_of_recordings agrees outcome.record_sessions active⟩
  | ok recordSessionId =>
      have accepts := accepted.mp ⟨recordSessionId, rfl⟩
      cases outcome with
      | started _ confirmed opened =>
          rename_i between store
          have before : between.openRecordingIds =
              state.recordState.activeRecordSessionId.toList := by
            unfold Database.openRecordingIds
            rw [confirmed.record_sessions]
            exact agrees
          have opened := open_ids_opened opened
          rw [before] at opened
          unfold WriterState.RecordingAgrees
          change store.openRecordingIds = [recordSessionId] ↔ _
          rw [opened]
          cases state.recordState.activeRecordSessionId with
          | none => simp
          | some active => simp [accepts]

theorem recording_agrees_step_iff (agrees : state.RecordingAgrees) (turn : WriterTurn) :
    (state.turn config turn).1.RecordingAgrees ↔ ¬StartsOver state turn := by
  have kept : ∀ {after : WriterState}, InputFrame state after → after.RecordingAgrees :=
    fun frame => frame.recording_agrees agrees
  cases turn with
  | startRecording now faults command => exact recording_agrees_start_iff agrees now faults command
  | input input readings =>
      exact iff_of_true (kept (.queue_writer_input config state readings input)) not_false
  | flushTick flush actionFlush =>
      exact iff_of_true (kept (.flush_all_batches state flush actionFlush)) not_false
  | heartbeatTick clock faults =>
      have keeps := (state.heartbeat_keeps config clock faults).2
      refine iff_of_true (recording_agrees_of_recordings agrees ?_ rfl) not_false
      exact congrArg (fun activity => activity.recordRoutine.recordSessions) keeps
  | openFocusTick now fault => exact iff_of_true (kept (.beat state now fault)) not_false
  | pollTick readings =>
      have polled := polled state readings
      refine iff_of_true (recording_agrees_of_recordings agrees polled.record_sessions ?_) not_false
      change (state.pollRecordingControl readings).recordState.activeRecordSessionId = _
      rw [polled.rest]
  | forgetFocusAttribution fault =>
      have forgotten : InputFrame state
          { state with policy := state.policy.forgetFocusAttribution } :=
        ⟨.refl _, rfl, rfl, rfl, Nat.le_refl _, rfl, rfl⟩
      exact iff_of_true (kept (forgotten.trans (.clear_focus _ fault))) not_false
  | stopRecording now flush actionFlush fault recordSessionId stopReason =>
      refine iff_of_true ?_ not_false
      have drained := kept (.drain_and_flush config state ⟨[], flush, actionFlush⟩)
      change (state.stopRecording config now ⟨[], flush, actionFlush⟩ fault recordSessionId
        stopReason).1.RecordingAgrees
      unfold WriterState.stopRecording
      dsimp only
      split
      · exact drained
      · rename_i db closed
        unfold WriterState.RecordingAgrees
        change db.openRecordingIds = _
        rw [open_ids_close closed, drained]
        unfold WriterState.recordingStopped
        dsimp only
        generalize (state.drainAndFlush config
          ⟨[], flush, actionFlush⟩).recordState.activeRecordSessionId = held
        cases held with
        | none => simp
        | some active =>
            by_cases same : active = recordSessionId
            · simp [same]
            · simp [same]
  | pauseRecording now fault recordSessionId =>
      refine iff_of_true ?_ not_false
      change (state.pauseRecording now fault recordSessionId).1.RecordingAgrees
      unfold WriterState.pauseRecording
      split
      · exact agrees
      · rename_i db paused
        exact (open_ids_pause paused).trans agrees
  | resumeRecording now fault recordSessionId =>
      refine iff_of_true ?_ not_false
      change (state.resumeRecording now fault recordSessionId).1.RecordingAgrees
      unfold WriterState.resumeRecording
      split
      · exact agrees
      · rename_i db resumed
        exact (open_ids_resume resumed).trans agrees
  | extendCap recordSessionId => exact iff_of_true agrees not_false
  | declineRecordRequest now fault requestId =>
      have declined : ∀ {after}, state.store.cancelRecordRequest fault requestId
          (state.sequencer.timestampFor now) = .ok after →
          after.activity.recordRoutine.recordSessions =
            state.store.activity.recordRoutine.recordSessions := by
        intro after cancelled
        obtain ⟨_, rfl⟩ := statement_ok cancelled
        rfl
      exact iff_of_true (recording_agrees_of_recordings agrees
        (record_sessions_of_logged (logged _ _) declined) rfl) not_false
  | secureErase settle readings identity =>
      exact iff_of_true ((secure_erase_outcome config state settle readings
        identity).recording_agrees agrees) not_false
  | archiveAndReset settle archiving readings archivePath archive identity =>
      exact iff_of_true ((archive_and_reset_outcome config state settle readings identity archiving
        archivePath archive).recording_agrees agrees) not_false
  | panicCutoff cutoff => exact iff_of_true agrees not_false
  | captureDropped => exact iff_of_true agrees not_false

end Steps

section Launch

variable [StoreExternals]

omit [Externals] [StoreExternals] in
theorem open_ids_open_store {store opened : Database} {readings : OpenReadings}
    (succeeded : store.openStore readings = (opened, .ok ())) : opened.openRecordingIds = [] := by
  unfold Database.openStore at succeeded
  split at succeeded
  · cases succeeded
  · dsimp only at succeeded
    split at succeeded
    · cases succeeded
    · split at succeeded
      · cases succeeded
      · rename_i repaired _ ended finalized
        have none_open : ended.openRecordingIds = [] := by
          obtain ⟨_, rfl⟩ := statement_ok finalized
          unfold Database.openRecordingIds
          change List.filterMap _ (List.map _ _) = _
          rw [List.filterMap_map, List.filterMap_eq_nil_iff]
          intro row _
          change RecordSessionRow.openId (if row.endedTs.isNone = true then _ else row) = none
          split_ifs with ended
          · rfl
          · unfold RecordSessionRow.openId
            rw [if_neg ended]
        split at succeeded
        · cases succeeded
        · rename_i reconciled expired
          obtain ⟨rfl, _⟩ := Prod.mk.inj succeeded
          obtain ⟨_, rfl⟩ := statement_ok expired
          exact none_open

omit [StoreExternals] in
theorem recording_agrees_launch {readings : LaunchReadings} {policy : Policy} {store : Database}
    {state : WriterState} (launched : launch readings policy store = .running state) :
    state.RecordingAgrees := by
  unfold launch at launched
  split at launched
  · cases launched
  · rename_i opened succeeded
    split at launched
    · cases launched
    · rename_i created sessionId inserted
      obtain rfl := Lifetime.running.inj launched
      obtain ⟨rfl, _⟩ := Prod.mk.inj (statement_ok inserted).2
      have idle := open_ids_open_store succeeded
      exact idle

end Launch

section Resets

variable [StoreExternals] (config : WriterConfig) (state : WriterState)

/-- `secure_erase` past its guard. -/
def WriterState.eraseUnguarded (settle : SettleReadings) (readings : DeleteReadings)
    (identity : SessionIdentity) : WriterState × SecureEraseReport :=
  match state.settleForReset config settle with
  | (state, .error error) => (state, .deleteFailed error.toText)
  | (state, .ok _) => state.eraseSettled config readings identity

/-- `archive_and_reset` past its guard. -/
def WriterState.archiveUnguarded (settle : SettleReadings) (archiving : ArchiveReadings)
    (readings : DeleteReadings) (archivePath : String) (archive : Option ArchiveFile)
    (identity : SessionIdentity) : ArchiveResetResult :=
  match state.settleForReset config settle with
  | (state, .error error) => ⟨state, .archiveFailed archivePath error.toText, .before archive⟩
  | (state, .ok endedAt) =>
      match archiveActivityTo archiving archivePath endedAt state.store archive with
      | (files, .error error) => ⟨state, .archiveFailed archivePath error.toText, files⟩
      | (files, .ok archived) =>
          let reset := state.resetArchived config readings identity archived
          ⟨reset.1, reset.2, files⟩

/-- What the database has open and what the writer holds are the same recording,
at most one, and the resets are refused exactly when there is one. -/
structure RecordingTold : Prop where
  agrees : state.RecordingAgrees
  single : state.store.openRecordingIds.length ≤ 1
  erase : ∀ settle readings identity,
    state.secureErase config settle readings identity =
      if state.store.openRecordingIds = [] then state.eraseUnguarded config settle readings identity
      else (state, .deleteFailed recordingStillActive)
  archive : ∀ settle archiving readings archivePath archive identity,
    state.archiveAndReset config settle archiving readings archivePath archive identity =
      if state.store.openRecordingIds = [] then
        state.archiveUnguarded config settle archiving readings archivePath archive identity
      else ⟨state, .archiveFailed archivePath recordingStillActive, .before archive⟩

theorem recording_told_iff : RecordingTold config state ↔ state.RecordingAgrees := by
  refine ⟨RecordingTold.agrees, fun agrees => ?_⟩
  have known : state.store.openRecordingIds = [] ↔
      ¬state.recordState.activeRecordSessionId.isSome = true := by
    rw [agrees]
    cases state.recordState.activeRecordSessionId <;> simp
  refine ⟨agrees, ?_, ?_, ?_⟩
  · rw [agrees]
    cases state.recordState.activeRecordSessionId <;> simp
  · intro settle readings identity
    unfold WriterState.secureErase
    by_cases active : state.recordState.activeRecordSessionId.isSome = true
    · rw [if_pos active, if_neg fun idle => known.mp idle active]
    · rw [if_neg active, if_pos (known.mpr active)]
      rfl
  · intro settle archiving readings archivePath archive identity
    unfold WriterState.archiveAndReset
    by_cases active : state.recordState.activeRecordSessionId.isSome = true
    · rw [if_pos active, if_neg fun idle => known.mp idle active]
    · rw [if_neg active, if_pos (known.mpr active)]
      rfl

/-- From a freshly opened store the agreement lasts exactly as long as no start
goes through while a recording is open. -/
theorem recording_told_along_run_iff (launching : LaunchReadings) (policy : Policy)
    (store : Database) (launched : launch launching policy store = .running state)
    (turns : List WriterTurn) :
    (∀ before, before <+: turns →
        RecordingTold config ((writerMachine config).run state before)) ↔
      (writerMachine config).AllSteps (fun state turn => ¬StartsOver state turn) state turns := by
  refine Iff.trans (forall_congr' fun before => imp_congr_right fun _ =>
    recording_told_iff config _) ?_
  exact (writerMachine config).holds_along_iff_all_steps (fun _ => True)
    WriterState.RecordingAgrees (fun state turn => ¬StartsOver state turn)
    (fun _ _ _ _ => trivial)
    (fun turn _ state _ agrees => recording_agrees_step_iff config agrees turn)
    state trivial (recording_agrees_launch launched)

end Resets

end Writer

section

attribute [local instance] asciiExternals bareExternals

private def deskClock (count : Nat) : Clock := ⟨⟨count * 1000000000⟩, some (count * 1000000000)⟩

private def deskLaunch : LaunchReadings :=
  ⟨.clear (deskClock 1).utcMs (deskClock 1).utcMs "6d1f", ⟨(deskClock 1).now, (deskClock 1).utcMs⟩,
    ⟨"1.0.0", none, none, none⟩, none⟩

private def deskWriter : WriterState :=
  match launch deskLaunch .identity .empty with
  | .running state => state
  | .closed store => .started store (.new 0 deskLaunch.timebase) .identity

private def begun (count : Nat) : WriterTurn :=
  .startRecording (deskClock count).now ⟨none, none, none⟩
    ⟨none, some "Manual recording", "\x7b\x7d", .ofInt 1800000, true⟩

private def ended (count : Nat) (recordSessionId : Int) : WriterTurn :=
  .stopRecording (deskClock count).now (fun _ => .clear) (fun _ => .clear) none recordSessionId
    .userStop

private def inTurn : List WriterTurn := [begun 2, ended 3 1, begun 4]

/-- One recording after the other is told right. -/
theorem recording_told_along_run_in_turn :
    RecordingTold ⟨200, .ofInt 5000⟩
      ((writerMachine ⟨200, .ofInt 5000⟩).run deskWriter inTurn) := by
  refine (recording_told_along_run_iff ⟨200, .ofInt 5000⟩ deskWriter deskLaunch .identity .empty rfl
    inTurn).mpr ?_ inTurn (List.prefix_refl _)
  refine ⟨fun both => ?_, not_false, fun both => ?_, trivial⟩
  · exact absurd both.1 (by decide +kernel)
  · exact absurd both.1 (by decide +kernel)

/-- A second start goes through while the first recording is open. Both rows are
open and only the second is held; after its stop the first is still open, nothing
is held, and a secure erase is not refused. -/
theorem second_start_hides_the_first :
    let twice := (writerMachine ⟨200, .ofInt 5000⟩).run deskWriter [begun 2, begun 3]
    let stopped := (writerMachine ⟨200, .ofInt 5000⟩).run twice [ended 4 2]
    twice.store.openRecordingIds = [1, 2] ∧ twice.recordState.activeRecordSessionId = some 2 ∧
      stopped.store.openRecordingIds = [1] ∧ stopped.recordState.activeRecordSessionId = none ∧
      ¬stopped.RecordingAgrees ∧
      (stopped.secureErase ⟨200, .ofInt 5000⟩ (.clear (deskClock 5).now)
        (.clear (deskClock 5) "7e20") ⟨"1.0.0", none, none, none⟩).2.outcome = .completed := by
  unfold WriterState.RecordingAgrees
  decide +kernel

end

end Gilbreth.Store
