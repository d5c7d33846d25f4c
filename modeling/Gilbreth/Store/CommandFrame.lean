import Gilbreth.Store.InputFrame

/-!
# What recording commands leave alone

Starting, stopping, pausing, resuming, declining and polling write the request
and recording tables and the record state. Everything else of the database and
of the writer is as it was.
-/

set_option autoImplicit false

namespace Gilbreth.Store

open Gilbreth.Core

section Writer

variable [Externals]

/-- The writer after a command that queues nothing. -/
structure CommandFrame (before after : WriterState) : Prop where
  routine : RoutineFrame before.store after.store
  rest : after = { before with store := after.store, recordState := after.recordState }

namespace CommandFrame

theorem refl (state : WriterState) : CommandFrame state state := ⟨.refl _, rfl⟩

variable (state : WriterState) (now : Instant)

theorem pause_recording (fault : Option StoreError) (recordSessionId : Int) :
    CommandFrame state (state.pauseRecording now fault recordSessionId).1 := by
  unfold WriterState.pauseRecording
  split
  · exact refl state
  · rename_i paused
    exact ⟨RoutineFrame.pause paused, rfl⟩

theorem resume_recording (fault : Option StoreError) (recordSessionId : Int) :
    CommandFrame state (state.resumeRecording now fault recordSessionId).1 := by
  unfold WriterState.resumeRecording
  split
  · exact refl state
  · rename_i resumed
    exact ⟨RoutineFrame.resume resumed, rfl⟩

theorem stop_recording [StoreExternals] (config : WriterConfig) (readings : DrainReadings)
    (fault : Option StoreError) (recordSessionId : Int) (stopReason : RecordStopReason) :
    CommandFrame (state.drainAndFlush config readings)
      (state.stopRecording config now readings fault recordSessionId stopReason).1 := by
  unfold WriterState.stopRecording
  dsimp only
  split
  · exact refl _
  · rename_i closed
    exact ⟨RoutineFrame.close closed, rfl⟩

theorem decline_record_request (fault : Option StoreError) (requestId : Int) :
    CommandFrame state (state.declineRecordRequest now fault requestId) :=
  ⟨RoutineFrame.of_logged (logged _ _) RoutineFrame.cancel, rfl⟩

end CommandFrame

/-- A poll expires requests, may fail one, and remembers what it asked about. -/
structure Polled (readings : PollReadings) (before after : WriterState) : Prop where
  requests : ∃ expired,
    Logged (before.store.expireRecordRequests readings.expireFault
      (unixNowMs readings.sinceEpoch)) before.store expired ∧
    (after.store = expired ∨ ∃ requestId,
      Logged (expired.failRecordRequest readings.failFault requestId
        (unixNowMs readings.sinceEpoch)) expired after.store)
  rest : after =
    { before with
      store := after.store
      recordState :=
        { before.recordState with
          lastSurfacedRequestId := after.recordState.lastSurfacedRequestId
          capPromptedWindows := after.recordState.capPromptedWindows } }

theorem rearm_surfaced_request_eq (state : WriterState) (readings : PollReadings) :
    state.rearmSurfacedRequest readings =
      { state with
        recordState.lastSurfacedRequestId :=
          (state.rearmSurfacedRequest readings).recordState.lastSurfacedRequestId } := by
  unfold WriterState.rearmSurfacedRequest
  dsimp only
  split
  · rfl
  · split
    · rfl
    · split_ifs <;> rfl
    · rfl

theorem poll_cap_prompt_eq (state : WriterState) (readings : PollReadings) (nowMs : I64) :
    state.pollCapPrompt readings nowMs =
      { state with
        recordState.capPromptedWindows :=
          (state.pollCapPrompt readings nowMs).recordState.capPromptedWindows } := by
  unfold WriterState.pollCapPrompt
  split_ifs
  · rfl
  · split
    · split <;> rfl
    · rfl

variable [StoreExternals]

theorem poll_record_request_prompt_cases (state : WriterState) (readings : PollReadings)
    (nowMs : I64) :
    let after := state.pollRecordRequestPrompt readings nowMs
    (after.store = state.store ∨ ∃ requestId,
      Logged (state.store.failRecordRequest readings.failFault requestId nowMs) state.store
        after.store) ∧
    after =
      { state with
        store := after.store
        recordState.lastSurfacedRequestId := after.recordState.lastSurfacedRequestId } := by
  unfold WriterState.pollRecordRequestPrompt
  split_ifs
  · exact ⟨Or.inl rfl, rfl⟩
  · split
    · split
      · exact ⟨Or.inl rfl, rfl⟩
      · split
        · exact ⟨Or.inr ⟨_, logged _ _⟩, rfl⟩
        · split <;> exact ⟨Or.inl rfl, rfl⟩
    · exact ⟨Or.inl rfl, rfl⟩

theorem polled (state : WriterState) (readings : PollReadings) :
    Polled readings state (state.pollRecordingControl readings) := by
  unfold WriterState.pollRecordingControl
  dsimp only
  rw [poll_cap_prompt_eq, rearm_surfaced_request_eq]
  have expired := logged (state.store.expireRecordRequests readings.expireFault
    (unixNowMs readings.sinceEpoch)) state.store
  obtain ⟨failed, rest⟩ := poll_record_request_prompt_cases
    { state with
      store := (state.store.expireRecordRequests readings.expireFault
        (unixNowMs readings.sinceEpoch)).toOption.getD state.store
      recordState.lastSurfacedRequestId := _ } readings (unixNowMs readings.sinceEpoch)
  exact ⟨⟨_, expired, failed⟩, by rw [rest]⟩

omit [StoreExternals] in
theorem Polled.command_frame {readings : PollReadings} {before after : WriterState}
    (polled : Polled readings before after) : CommandFrame before after := by
  obtain ⟨expired, expiry, failure⟩ := polled.requests
  have first := RoutineFrame.of_logged expiry RoutineFrame.expire
  refine ⟨?_, by rw [polled.rest]⟩
  rcases failure with same | ⟨requestId, marked⟩
  · rw [same]
    exact first
  · exact first.trans (RoutineFrame.of_logged marked RoutineFrame.fail)

section Start

variable (faults : StartFaults) (startedTs : I64) (command : StartRecording)

/-- The request the command names, if any, has been confirmed. -/
def ConfirmedFor (db confirmed : Database) : Prop :=
  match command.requestId with
  | none => confirmed = db
  | some requestId => db.confirmRecordRequest faults.confirm requestId startedTs = .ok confirmed

/-- After a failure the request is marked failed, as best the store can. -/
def MarkedFailed (db after : Database) : Prop :=
  match command.requestId with
  | none => after = db
  | some requestId =>
      Logged (db.failRecordRequest faults.markFailed requestId startedTs) db after

def StartRecording.params (sessionId : Int) : OpenRecordSessionParams where
  requestId := command.requestId
  sessionId := sessionId
  startedTs := startedTs
  title := command.title
  policySnapshotJson := command.policySnapshotJson
  safetyCapMs := command.safetyCapMs
  visibleIndicator := command.visibleIndicator

/-- A start is refused, fails with its request marked, or opens a recording. -/
inductive StartOutcome (state : WriterState) : WriterState × Except StoreError Int → Prop where
  | refused (error : StoreError) : StartOutcome state (state, .error error)
  | failed (error : StoreError) {confirmed after : Database}
      (confirmed_for : ConfirmedFor faults startedTs command state.store confirmed)
      (marked : MarkedFailed faults startedTs command confirmed after) :
      StartOutcome state ({ state with store := after }, .error error)
  | started (recordSessionId : Int) {confirmed after : Database}
      (confirmed_for : ConfirmedFor faults startedTs command state.store confirmed)
      (opened : RecordingOpened (command.params startedTs state.sequencer.sessionId) confirmed
        after recordSessionId) :
      StartOutcome state
        ({ state with store := after }.recordingStarted command.requestId recordSessionId,
          .ok recordSessionId)

end Start

section Recordings

omit [Externals] [StoreExternals] in
theorem record_sessions_of_logged {statement : Except StoreError Database} {db after : Database}
    (outcome : Logged statement db after)
    (moved : ∀ {after}, statement = .ok after →
      after.activity.recordRoutine.recordSessions = db.activity.recordRoutine.recordSessions) :
    after.activity.recordRoutine.recordSessions = db.activity.recordRoutine.recordSessions := by
  cases outcome with
  | failed => rfl
  | done done => exact moved done

omit [Externals] [StoreExternals] in
theorem fail_record_sessions {fault : Option StoreError} {db after : Database} {requestId : Int}
    {updatedAt : I64} (failed : db.failRecordRequest fault requestId updatedAt = .ok after) :
    after.activity.recordRoutine.recordSessions = db.activity.recordRoutine.recordSessions := by
  obtain ⟨_, rfl⟩ := statement_ok failed
  rfl

variable {faults : StartFaults} {startedTs : I64} {command : StartRecording} {db after : Database}

omit [Externals] [StoreExternals] in
theorem ConfirmedFor.record_sessions (confirmed : ConfirmedFor faults startedTs command db after) :
    after.activity.recordRoutine.recordSessions = db.activity.recordRoutine.recordSessions := by
  unfold ConfirmedFor at confirmed
  split at confirmed
  · rw [confirmed]
  · rw [(confirm_record_request_ok confirmed).2]
    rfl

omit [Externals] [StoreExternals] in
theorem MarkedFailed.record_sessions (marked : MarkedFailed faults startedTs command db after) :
    after.activity.recordRoutine.recordSessions = db.activity.recordRoutine.recordSessions := by
  unfold MarkedFailed at marked
  split at marked
  · rw [marked]
  · exact record_sessions_of_logged marked fail_record_sessions

end Recordings

omit [StoreExternals] in
theorem StartOutcome.record_sessions {faults : StartFaults} {startedTs : I64}
    {command : StartRecording} {state after : WriterState} {error : StoreError}
    (outcome : StartOutcome faults startedTs command state (after, .error error)) :
    after.store.activity.recordRoutine.recordSessions =
      state.store.activity.recordRoutine.recordSessions := by
  cases outcome with
  | refused error => rfl
  | failed error confirmed marked => exact marked.record_sessions.trans confirmed.record_sessions

omit [StoreExternals] in
theorem Polled.record_sessions {readings : PollReadings} {before after : WriterState}
    (polled : Polled readings before after) :
    after.store.activity.recordRoutine.recordSessions =
      before.store.activity.recordRoutine.recordSessions := by
  obtain ⟨expired, expiry, failure⟩ := polled.requests
  have first := record_sessions_of_logged expiry fun done => by
    obtain ⟨_, rfl⟩ := statement_ok done
    rfl
  rcases failure with same | ⟨requestId, marked⟩
  · rw [same]
    exact first
  · exact (record_sessions_of_logged marked fail_record_sessions).trans first

theorem start_recording_cases (state : WriterState) (now : Instant) (faults : StartFaults)
    (command : StartRecording) :
    StartOutcome faults (state.sequencer.timestampFor now) command state
      (state.startRecording now faults command) := by
  unfold WriterState.startRecording
  dsimp only
  split
  · exact .refused _
  · rename_i confirmed made
    have confirmed_for : ConfirmedFor faults (state.sequencer.timestampFor now) command
        state.store confirmed := by
      unfold ConfirmedFor
      cases requested : command.requestId with
      | none =>
          rw [requested] at made
          exact (Except.ok.inj made).symm
      | some requestId =>
          rw [requested] at made
          exact made
    split
    · rename_i after recordSessionId opened
      exact .started recordSessionId confirmed_for (open_record_session_ok opened)
    · rename_i error _
      refine .failed error confirmed_for ?_
      unfold MarkedFailed
      cases command.requestId with
      | none => rfl
      | some requestId => exact logged _ _

omit [StoreExternals] in
theorem StartOutcome.command_frame {faults : StartFaults} {startedTs : I64}
    {command : StartRecording} {state : WriterState}
    {result : WriterState × Except StoreError Int}
    (outcome : StartOutcome faults startedTs command state result) :
    CommandFrame state result.1 := by
  have confirming : ∀ {confirmed}, ConfirmedFor faults startedTs command state.store confirmed →
      RoutineFrame state.store confirmed := by
    intro confirmed confirmed_for
    unfold ConfirmedFor at confirmed_for
    cases requested : command.requestId with
    | none =>
        rw [requested] at confirmed_for
        exact confirmed_for ▸ .refl _
    | some requestId =>
        rw [requested] at confirmed_for
        exact RoutineFrame.confirm confirmed_for
  cases outcome with
  | refused error => exact .refl state
  | failed error confirmed_for marked =>
      refine ⟨(confirming confirmed_for).trans ?_, rfl⟩
      unfold MarkedFailed at marked
      cases requested : command.requestId with
      | none =>
          rw [requested] at marked
          exact marked ▸ .refl _
      | some requestId =>
          rw [requested] at marked
          exact RoutineFrame.of_logged marked RoutineFrame.fail
  | started recordSessionId confirmed_for opened =>
      exact ⟨(confirming confirmed_for).trans opened.frame, rfl⟩

end Writer

end Gilbreth.Store
