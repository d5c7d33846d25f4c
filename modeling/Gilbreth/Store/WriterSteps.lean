import Gilbreth.Core.NonInterference
import Gilbreth.Store.WriterMachine

/-!
# What one turn can do

A captured row is gated, dropped or batched; an action is skipped or batched; no
other turn but a reset or a heartbeat touches the sequencer, the policy or the
stamped rows. The invariants are derived from these cases and not from the
bodies.
-/

set_option autoImplicit false

namespace Gilbreth.Store

open Gilbreth.Core

variable [Externals]

/-- The row stream is where it was: nothing stamped, no clock moved, no verdict
changed. -/
structure SameStream (before after : WriterState) : Prop where
  sequencer : after.sequencer = before.sequencer
  policy : after.policy = before.policy
  stamped : after.stamped = before.stamped
  boundary : after.eraseCompletionBoundaryMs = before.eraseCompletionBoundaryMs

namespace SameStream

theorem refl (state : WriterState) : SameStream state state := ⟨rfl, rfl, rfl, rfl⟩

theorem trans {first second third : WriterState} (left : SameStream first second)
    (right : SameStream second third) : SameStream first third :=
  ⟨right.sequencer.trans left.sequencer, right.policy.trans left.policy,
    right.stamped.trans left.stamped, right.boundary.trans left.boundary⟩

end SameStream

namespace WriterState

variable (config : WriterConfig) (state : WriterState)

section Motion

variable (readings : QueueReadings) (captured : Captured)

theorem note_allowed_focus_eq (payload : EventPayload) :
    state.noteAllowedFocus payload =
      { state with recordState := (state.noteAllowedFocus payload).recordState } := by
  unfold noteAllowedFocus
  split
  · split_ifs <;> rfl
  · rfl

/-- A row past the gate, up to the verdict on it. -/
def received : WriterState :=
  { state with
    recordState := (state.noteAllowedFocus captured.payload).recordState
    sequencer := resyncForEventIfNeeded readings.clock config.timebaseDriftThresholdMs
      state.sequencer captured.payload
    policy := state.policy.observed captured.payload }

def dropReceived : WriterState :=
  if isFocusChange captured.payload then
    (state.received config readings captured).clearFocus readings.clearFault
  else state.received config readings captured

def keepReceived : WriterState :=
  (state.received config readings captured).enqueueCaptured readings
    { captured with payload := state.policy.outbound captured.payload }

theorem admit_captured_eq :
    state.admitCaptured config readings captured =
      if state.eraseGateDrops captured then (state.countStaleRow, false)
      else if state.policy.drops captured.payload then
        (state.dropReceived config readings captured, false)
      else (state.keepReceived config readings captured, true) := by
  unfold admitCaptured
  rw [note_allowed_focus_eq]
  dsimp only
  rw [apply_exclusions_to_captured_eq]
  by_cases gated : state.eraseGateDrops captured = true
  · rw [if_pos gated, if_pos gated]
  rw [if_neg gated, if_neg gated]
  by_cases dropped : state.policy.drops captured.payload = true
  · rw [if_pos dropped, if_pos dropped, dropReceived]
    by_cases focus : isFocusChange captured.payload = true
    · rw [if_pos focus]
      exact if_pos focus
    · rw [if_neg focus]
      exact if_neg focus
  · rw [if_neg dropped, if_neg dropped]
    rfl

theorem queue_captured_cases :
    state.queueCaptured config readings captured =
        (state.admitCaptured config readings captured).1 ∨
      state.queueCaptured config readings captured =
        (state.admitCaptured config readings captured).1.flushBatch readings.flush := by
  unfold queueCaptured
  dsimp only
  split_ifs
  · exact Or.inr rfl
  · exact Or.inl rfl

theorem same_stream_flush_batch (flush : Nat → AttemptReadings StoreError) :
    SameStream state (state.flushBatch flush) := ⟨rfl, rfl, rfl, rfl⟩

theorem queue_captured_stream :
    SameStream (state.admitCaptured config readings captured).1
      (state.queueCaptured config readings captured) := by
  rcases state.queue_captured_cases config readings captured with queued | queued
  · rw [queued]
    exact .refl _
  · rw [queued]
    exact same_stream_flush_batch _ _

theorem same_stream_clear_focus (fault : Option StoreError) :
    SameStream state (state.clearFocus fault) := ⟨rfl, rfl, rfl, rfl⟩

theorem drop_received_stream :
    SameStream (state.received config readings captured)
      (state.dropReceived config readings captured) := by
  unfold dropReceived
  split_ifs
  · exact same_stream_clear_focus _ _
  · exact .refl _

end Motion

section Actions

variable [StoreExternals] (readings : QueueReadings)

theorem same_stream_flush_all (flush : Nat → AttemptReadings StoreError)
    (actionFlush : Nat → AttemptReadings ActionFault) :
    SameStream state (state.flushAllBatches flush actionFlush) := ⟨rfl, rfl, rfl, rfl⟩

/-- An action at most takes the next number and flushes the actions. -/
structure ActionStep (before after : WriterState) : Prop where
  sequencer : after.sequencer = before.sequencer ∨
    ∃ capturedAt, after.sequencer = before.sequencer.advance capturedAt
  policy : after.policy = before.policy
  stamped : after.stamped = before.stamped
  boundary : after.eraseCompletionBoundaryMs = before.eraseCompletionBoundaryMs
  openFocus : after.openFocus = before.openFocus
  batch : after.batch = before.batch
  store : after.store = before.store ∨ ∃ (readings : Nat → AttemptReadings ActionFault)
    (batch : List StampedAction),
    after.store = (flushRows insertActions readings batch before.store).1

theorem enqueue_action_step (action : ActionCapture) :
    ActionStep state (state.enqueueAction config readings action) := by
  have stamped : (state.sequencer.stampAction action).1 =
      state.sequencer.advance action.capturedAt := rfl
  unfold enqueueAction
  dsimp only
  split_ifs
  · exact ⟨Or.inr ⟨action.capturedAt, stamped⟩, rfl, rfl, rfl, rfl, rfl,
      Or.inr ⟨readings.actionFlush, _, rfl⟩⟩
  · exact ⟨Or.inr ⟨action.capturedAt, stamped⟩, rfl, rfl, rfl, rfl, rfl, Or.inl rfl⟩

theorem queue_action_step (action : ActionCapture) :
    ActionStep state (state.queueAction config readings action) := by
  have skipped : ActionStep state state.skipAction :=
    ⟨Or.inl rfl, rfl, rfl, rfl, rfl, rfl, Or.inl rfl⟩
  unfold queueAction
  split_ifs
  · exact skipped
  · exact skipped
  · exact skipped
  · exact skipped
  · exact ⟨Or.inl rfl, rfl, rfl, rfl, rfl, rfl, Or.inl rfl⟩
  · have step := state.enqueue_action_step config readings (excludedGap action)
    exact ⟨step.sequencer, step.policy, step.stamped, step.boundary, step.openFocus, step.batch,
      step.store⟩
  · have step := (state.withExcludedGapOpen false).enqueue_action_step config readings
      { action with isSensitive := false }
    exact ⟨step.sequencer, step.policy, step.stamped, step.boundary, step.openFocus, step.batch,
      step.store⟩

end Actions

omit [Externals] in
theorem persist_dropped_keeps (readFault writeFault : Option StoreError) (key : String)
    (runTotal : Nat) (counter : DropCounter) (db : Database) :
    (persistDropped readFault writeFault key runTotal counter db).2.openFocus = db.openFocus ∧
      (persistDropped readFault writeFault key runTotal counter db).2.activity = db.activity := by
  unfold persistDropped
  generalize (if counter.resetPending then DropCounter.rebased runTotal else counter) = current
  dsimp only
  split_ifs
  · exact ⟨rfl, rfl⟩
  · split
    · rename_i written upserted
      obtain ⟨_, rfl⟩ := statement_ok upserted
      exact ⟨rfl, rfl⟩
    · exact ⟨rfl, rfl⟩

theorem persist_diagnostics_keeps (faults : PersistFaults) :
    (state.persistDiagnosticsCounters faults).store.openFocus = state.store.openFocus ∧
      (state.persistDiagnosticsCounters faults).store.activity = state.store.activity := by
  have capture := persist_dropped_keeps faults.captureRead faults.captureWrite
    captureEventsDroppedMetaKey state.diagnostics.captureEventsDropped
    state.heartbeat.captureDropped state.store
  have stale := persist_dropped_keeps faults.staleRead faults.staleWrite
    stalePreEraseRowsDroppedMetaKey state.diagnostics.stalePreEraseRowsDropped
    state.heartbeat.stalePreEraseDropped
    (persistDropped faults.captureRead faults.captureWrite captureEventsDroppedMetaKey
      state.diagnostics.captureEventsDropped state.heartbeat.captureDropped state.store).2
  exact ⟨stale.1.trans capture.1, stale.2.trans capture.2⟩

theorem heartbeat_keeps (clock : Clock) (faults : PersistFaults) :
    (state.logWriterHeartbeat config clock faults).store.openFocus = state.store.openFocus ∧
      (state.logWriterHeartbeat config clock faults).store.activity = state.store.activity :=
  persist_diagnostics_keeps
    { state with
      sequencer := resyncSequencerAt clock config.timebaseDriftThresholdMs state.sequencer }
    faults

section Commands

theorem same_stream_beat (now : Instant) (fault : Option StoreError) :
    SameStream state (state.beat now fault) := ⟨rfl, rfl, rfl, rfl⟩

theorem same_stream_pause_recording (now : Instant) (fault : Option StoreError)
    (recordSessionId : Int) :
    SameStream state (state.pauseRecording now fault recordSessionId).1 := by
  unfold pauseRecording
  split <;> exact ⟨rfl, rfl, rfl, rfl⟩

theorem same_stream_resume_recording (now : Instant) (fault : Option StoreError)
    (recordSessionId : Int) :
    SameStream state (state.resumeRecording now fault recordSessionId).1 := by
  unfold resumeRecording
  split <;> exact ⟨rfl, rfl, rfl, rfl⟩

variable [StoreExternals]

theorem same_stream_start_recording (now : Instant) (faults : StartFaults)
    (command : StartRecording) :
    SameStream state (state.startRecording now faults command).1 := by
  unfold startRecording
  dsimp only
  split
  · exact .refl _
  · split <;> exact ⟨rfl, rfl, rfl, rfl⟩

theorem same_stream_stop_recording (now : Instant) (flush : Nat → AttemptReadings StoreError)
    (actionFlush : Nat → AttemptReadings ActionFault) (fault : Option StoreError)
    (recordSessionId : Int) (stopReason : RecordStopReason) :
    SameStream state (state.stopRecording config now ⟨[], flush, actionFlush⟩ fault
      recordSessionId stopReason).1 := by
  unfold stopRecording
  dsimp only
  split <;> exact ⟨rfl, rfl, rfl, rfl⟩

theorem same_stream_poll (readings : PollReadings) :
    SameStream state (state.pollRecordingControl readings) := by
  have rearmed : ∀ state : WriterState, SameStream state (state.rearmSurfacedRequest readings) := by
    intro state
    unfold rearmSurfacedRequest
    dsimp only
    split
    · exact .refl _
    · split
      · exact .refl _
      · split_ifs <;> exact ⟨rfl, rfl, rfl, rfl⟩
      · exact ⟨rfl, rfl, rfl, rfl⟩
  have requested : ∀ (state : WriterState) (nowMs : I64),
      SameStream state (state.pollRecordRequestPrompt readings nowMs) := by
    intro state nowMs
    unfold pollRecordRequestPrompt
    split_ifs
    · exact .refl _
    · split
      · split
        · exact .refl _
        · split
          · exact ⟨rfl, rfl, rfl, rfl⟩
          · split <;> exact ⟨rfl, rfl, rfl, rfl⟩
      · exact .refl _
  have prompted : ∀ (state : WriterState) (nowMs : I64),
      SameStream state (state.pollCapPrompt readings nowMs) := by
    intro state nowMs
    unfold pollCapPrompt
    split_ifs
    · exact .refl _
    · split
      · split <;> exact ⟨rfl, rfl, rfl, rfl⟩
      · exact .refl _
  unfold pollRecordingControl
  dsimp only
  have expired : ∀ store, SameStream state { state with store := store } :=
    fun _ => ⟨rfl, rfl, rfl, rfl⟩
  exact (((expired _).trans (rearmed _)).trans (requested _ _)).trans (prompted _ _)

end Commands

section Resets

variable (identity : SessionIdentity)

/-- `created` starts a session at the clock the replacement read, and keeps the
policy and batch it was given. -/
structure StartedAnew (before : WriterState) (start : Clock) (created : WriterState) : Prop where
  sequencer : ∃ sessionId, created.sequencer = .new sessionId ⟨start.now, start.utcMs⟩
  policy : created.policy = before.policy
  stamped : created.stamped = []

theorem create_replacement_session_cases (readings : ReplacementReadings) :
    (∃ error, (state.createReplacementSession readings identity).2 = .error error ∧
      SameStream state (state.createReplacementSession readings identity).1) ∨
    (∃ sessionId, (state.createReplacementSession readings identity).2 = .ok sessionId ∧
      StartedAnew state readings.start (state.createReplacementSession readings identity).1) := by
  unfold createReplacementSession
  dsimp only
  split
  · exact Or.inl ⟨_, rfl, rfl, rfl, rfl, rfl⟩
  · split
    · exact Or.inl ⟨_, rfl, rfl, rfl, rfl, rfl⟩
    · exact Or.inr ⟨_, rfl, ⟨_, rfl⟩, rfl, rfl⟩

section Created

variable {identity : SessionIdentity} {start after : WriterState} {opened : ReplacementReadings}

theorem replacement_not_created {error : StoreError}
    (made : start.createReplacementSession opened identity = (after, .error error)) :
    SameStream start after := by
  have created := start.create_replacement_session_cases identity opened
  rw [made] at created
  rcases created with ⟨_, _, same⟩ | ⟨_, succeeded, _⟩
  · exact same
  · cases succeeded

theorem replacement_created {sessionId : Int}
    (made : start.createReplacementSession opened identity = (after, .ok sessionId)) :
    StartedAnew start opened.start after := by
  have created := start.create_replacement_session_cases identity opened
  rw [made] at created
  rcases created with ⟨_, failed, _⟩ | ⟨_, _, anew⟩
  · cases failed
  · exact anew

end Created

variable (readings : DeleteReadings)

theorem erase_settled_cases :
    ((state.eraseSettled config readings identity).2.newSessionId.isSome = false ∧
      SameStream state (state.eraseSettled config readings identity).1) ∨
    ((state.eraseSettled config readings identity).2.newSessionId.isSome = true ∧
      ∃ created, StartedAnew state readings.replacement.start created ∧
        (state.eraseSettled config readings identity).1 =
          created.eraseCompleted config readings) := by
  unfold eraseSettled
  split
  · exact Or.inl ⟨rfl, .refl _⟩
  · rename_i db deleted _
    split
    · rename_i after error made
      have same := replacement_not_created made
      exact Or.inl ⟨rfl, same.sequencer, same.policy, same.stamped, same.boundary⟩
    · rename_i after sessionId made
      have anew := replacement_created made
      exact Or.inr ⟨rfl, after, ⟨anew.sequencer, anew.policy, anew.stamped⟩, rfl⟩

theorem reset_archived_cases (archive : ArchiveReport) :
    ((state.resetArchived config readings identity archive).2.newSessionId.isSome = false ∧
      SameStream state (state.resetArchived config readings identity archive).1) ∨
    ((state.resetArchived config readings identity archive).2.newSessionId.isSome = true ∧
      ∃ created, StartedAnew state readings.replacement.start created ∧
        (state.resetArchived config readings identity archive).1 =
          created.archiveResetCompleted config readings) := by
  unfold resetArchived
  split
  · exact Or.inl ⟨rfl, .refl _⟩
  · rename_i db deleted _
    split
    · rename_i after error made
      have same := replacement_not_created made
      exact Or.inl ⟨rfl, same.sequencer, same.policy, same.stamped, same.boundary⟩
    · rename_i after sessionId made
      have anew := replacement_created made
      exact Or.inr ⟨rfl, after, ⟨anew.sequencer, anew.policy, anew.stamped⟩, rfl⟩

variable [StoreExternals] (settle : SettleReadings)

theorem settle_for_reset_stream :
    SameStream (state.drainWriterInputs config settle.drain.drained)
      (state.settleForReset config settle).1 := by
  unfold settleForReset
  dsimp only
  split <;> exact ⟨rfl, rfl, rfl, rfl⟩

/-- A secure erase is refused, stops short of a new session with at most the
drained rows queued, or completes on a new session. -/
theorem secure_erase_cases :
    ((state.secureErase config settle readings identity).2.newSessionId.isSome = false ∧
      (SameStream state (state.secureErase config settle readings identity).1 ∨
        SameStream (state.drainWriterInputs config settle.drain.drained)
          (state.secureErase config settle readings identity).1)) ∨
    ((state.secureErase config settle readings identity).2.newSessionId.isSome = true ∧
      ∃ created, StartedAnew (state.drainWriterInputs config settle.drain.drained)
          readings.replacement.start created ∧
        (state.secureErase config settle readings identity).1 =
          created.eraseCompleted config readings) := by
  have settled := state.settle_for_reset_stream config settle
  unfold secureErase
  split_ifs
  · exact Or.inl ⟨rfl, Or.inl (.refl _)⟩
  · split
    · rename_i after error made
      rw [made] at settled
      exact Or.inl ⟨rfl, Or.inr settled⟩
    · rename_i after endedAt made
      rw [made] at settled
      rcases after.erase_settled_cases config identity readings with
        ⟨failed, same⟩ | ⟨completed, created, anew, same⟩
      · exact Or.inl ⟨failed, Or.inr (settled.trans same)⟩
      · exact Or.inr ⟨completed, created,
          ⟨anew.sequencer, anew.policy.trans settled.policy, anew.stamped⟩, same⟩

theorem archive_and_reset_cases (archiving : ArchiveReadings) (archivePath : String)
    (archive : Option ArchiveFile) :
    let result :=
      state.archiveAndReset config settle archiving readings archivePath archive identity
    (result.report.newSessionId.isSome = false ∧
      (SameStream state result.state ∨
        SameStream (state.drainWriterInputs config settle.drain.drained) result.state)) ∨
    (result.report.newSessionId.isSome = true ∧
      ∃ created, StartedAnew (state.drainWriterInputs config settle.drain.drained)
          readings.replacement.start created ∧
        result.state = created.archiveResetCompleted config readings) := by
  have settled := state.settle_for_reset_stream config settle
  unfold archiveAndReset
  dsimp only
  split_ifs
  · exact Or.inl ⟨rfl, Or.inl (.refl _)⟩
  · split
    · rename_i after error made
      rw [made] at settled
      exact Or.inl ⟨rfl, Or.inr settled⟩
    · rename_i after endedAt made
      rw [made] at settled
      split
      · exact Or.inl ⟨rfl, Or.inr settled⟩
      · rename_i files archived _
        rcases after.reset_archived_cases config identity readings archived with
          ⟨failed, same⟩ | ⟨completed, created, anew, same⟩
        · exact Or.inl ⟨failed, Or.inr (settled.trans same)⟩
        · exact Or.inr ⟨completed, created,
            ⟨anew.sequencer, anew.policy.trans settled.policy, anew.stamped⟩, same⟩

end Resets

end WriterState

end Gilbreth.Store
