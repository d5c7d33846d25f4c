import Gilbreth.Core.Redaction
import Gilbreth.Store.TimelineSteps

/-!
# A writer stays on its timeline

The rows a writer has committed and the rows it still holds belong to its own
session, none later than the last stamp. No turn ends a session, so the sessions
of earlier runs stay covered whatever the writer does.
-/

set_option autoImplicit false

namespace Gilbreth.Store

open Gilbreth.Core

variable [Externals]

/-- What the writer has stored and batched is of its session, and stamped. -/
structure WriterState.OnTimeline (state : WriterState) : Prop where
  live : state.store.timeline.Live state.sequencer.sessionId state.sequencer.lastTsUnixMs
  batch : ∀ event ∈ state.batch, event.sessionId = state.sequencer.sessionId ∧
    Reached state.sequencer.lastTsUnixMs event.tsUnixMs
  actionBatch : ∀ action ∈ state.actionBatch, action.sessionId = state.sequencer.sessionId ∧
    Reached state.sequencer.lastTsUnixMs action.tsUnixMs

/-- The writer is still on its timeline, and uncovers no session. -/
def StaysOnTimeline (before after : WriterState) : Prop :=
  before.OnTimeline →
    after.OnTimeline ∧ (before.store.timeline.Covered → after.store.timeline.Covered)

omit [Externals] in
theorem Reached.le_timestamp_for {sequencer : Sequencer} {ts : I64}
    (reached : Reached sequencer.lastTsUnixMs ts) (instant : Instant) :
    ts ≤ sequencer.timestampFor instant := by
  obtain ⟨last, known, below⟩ := reached
  exact below.trans (sequencer.last_le_clamp_timestamp _ last known)

omit [Externals] in
theorem reached_advance (sequencer : Sequencer) (capturedAt : Instant) :
    ∀ last, sequencer.lastTsUnixMs = some last →
      Reached (sequencer.advance capturedAt).lastTsUnixMs last :=
  fun last known => sequencer.advance_dates capturedAt last known

namespace StaysOnTimeline

theorem refl (state : WriterState) : StaysOnTimeline state state :=
  fun onTimeline => ⟨onTimeline, fun covered => covered⟩

theorem trans {first second third : WriterState} (left : StaysOnTimeline first second)
    (right : StaysOnTimeline second third) : StaysOnTimeline first third := by
  intro onTimeline
  obtain ⟨middle, covers⟩ := left onTimeline
  obtain ⟨last, covers_last⟩ := right middle
  exact ⟨last, fun covered => covers_last (covers covered)⟩

theorem of_same {before after : WriterState}
    (timeline : after.store.timeline = before.store.timeline)
    (sessionId : after.sequencer.sessionId = before.sequencer.sessionId)
    (newest : after.sequencer.lastTsUnixMs = before.sequencer.lastTsUnixMs)
    (batch : after.batch = before.batch) (actionBatch : after.actionBatch = before.actionBatch) :
    StaysOnTimeline before after := by
  rintro ⟨live, stamped, acted⟩
  rw [timeline]
  refine ⟨⟨?_, ?_, ?_⟩, fun covered => covered⟩
  · rw [timeline, sessionId, newest]
    exact live
  · rw [batch, sessionId, newest]
    exact stamped
  · rw [actionBatch, sessionId, newest]
    exact acted

theorem of_store {state : WriterState} {db : Database}
    (kept : state.store.timeline.Live state.sequencer.sessionId state.sequencer.lastTsUnixMs →
      db.timeline.Live state.sequencer.sessionId state.sequencer.lastTsUnixMs ∧
        (state.store.timeline.Covered → db.timeline.Covered)) :
    StaysOnTimeline state { state with store := db } := by
  rintro ⟨live, batch, actionBatch⟩
  obtain ⟨after, covers⟩ := kept live
  exact ⟨⟨after, batch, actionBatch⟩, covers⟩

variable (config : WriterConfig) (state : WriterState)

theorem flush_batch (flush : Nat → AttemptReadings StoreError) :
    StaysOnTimeline state (state.flushBatch flush) := by
  rintro ⟨live, batch, actionBatch⟩
  obtain ⟨flushed, covers⟩ := flush_events_timeline live flush batch
  exact ⟨⟨flushed, fun _ none => absurd none List.not_mem_nil, actionBatch⟩, covers⟩

theorem clear_focus (fault : Option StoreError) : StaysOnTimeline state (state.clearFocus fault) :=
  of_same (timeline_of_activity (clear_open_focus_keeps fault state.openFocus state.store).1) rfl
    rfl rfl rfl

theorem beat (now : Instant) (fault : Option StoreError) :
    StaysOnTimeline state (state.beat now fault) := by
  refine of_same ?_ rfl rfl rfl rfl
  change (beatOpenFocus fault state.sequencer now state.openFocus state.store).2.timeline = _
  unfold beatOpenFocus
  split
  · rfl
  · dsimp only
    split
    · rename_i beaten written
      obtain ⟨_, rfl⟩ := statement_ok written
      rfl
    · rfl

section Motion

variable (readings : QueueReadings) (captured : Captured)

theorem received : StaysOnTimeline state (state.received config readings captured) := by
  have resynced : (state.received config readings captured).sequencer.lastTsUnixMs =
      state.sequencer.lastTsUnixMs := by
    change (resyncForEventIfNeeded _ _ _ _).lastTsUnixMs = _
    unfold resyncForEventIfNeeded
    split_ifs <;> rfl
  exact of_same rfl (InputFrame.session_resync_for_event _ _ _ _) resynced rfl rfl

theorem enqueue_captured : StaysOnTimeline state (state.enqueueCaptured readings captured) := by
  rintro ⟨live, batch, actionBatch⟩
  have advanced := reached_advance state.sequencer captured.capturedAt
  obtain ⟨session, _, ts⟩ :=
    state.policy.apply_after_exclusions_header (state.sequencer.stamp captured).2
  have timeline := timeline_of_activity (note_open_focus_keeps readings.clearFault state.openFocus
    state.store (state.policy.applyAfterExclusions (state.sequencer.stamp captured).2).2).1
  refine ⟨⟨?_, ?_, ?_⟩, fun covered => ?_⟩
  · change (noteOpenFocusEvent _ _ _ _).2.timeline.Live _ _
    rw [timeline]
    exact live.advance advanced
  · intro event member
    rcases List.mem_append.mp member with old | new
    · exact ⟨(batch event old).1, (batch event old).2.mono advanced⟩
    · rw [List.mem_singleton.mp new, session, ts]
      exact ⟨rfl, _, rfl, le_rfl⟩
  · intro action member
    exact ⟨(actionBatch action member).1, (actionBatch action member).2.mono advanced⟩
  · change (noteOpenFocusEvent _ _ _ _).2.timeline.Covered
    rw [timeline]
    exact covered

theorem queue_captured : StaysOnTimeline state (state.queueCaptured config readings captured) := by
  have received := StaysOnTimeline.received config state readings captured
  have admitted : StaysOnTimeline state (state.admitCaptured config readings captured).1 := by
    rw [WriterState.admit_captured_eq]
    split_ifs
    · exact of_same rfl rfl rfl rfl rfl
    · unfold WriterState.dropReceived
      split_ifs
      · exact received.trans (clear_focus _ _)
      · exact received
    · exact received.trans (enqueue_captured _ readings _)
  rcases state.queue_captured_cases config readings captured with queued | queued
  · rw [queued]
    exact admitted
  · rw [queued]
    exact admitted.trans (flush_batch _ _)

end Motion

variable [StoreExternals]

theorem flush_action_batch (flush : Nat → AttemptReadings ActionFault) :
    StaysOnTimeline state (state.flushActionBatch flush) := by
  rintro ⟨live, batch, actionBatch⟩
  obtain ⟨flushed, covers⟩ := flush_actions_timeline live flush actionBatch
  exact ⟨⟨flushed, batch, fun _ none => absurd none List.not_mem_nil⟩, covers⟩

theorem flush_all_batches (flush : Nat → AttemptReadings StoreError)
    (actionFlush : Nat → AttemptReadings ActionFault) :
    StaysOnTimeline state (state.flushAllBatches flush actionFlush) :=
  (flush_batch state flush).trans (flush_action_batch _ actionFlush)

theorem enqueue_action (readings : QueueReadings) (action : ActionCapture) :
    StaysOnTimeline state (state.enqueueAction config readings action) := by
  have stamped : StaysOnTimeline state
      { state with
        sequencer := (state.sequencer.stampAction action).1
        actionBatch := state.actionBatch ++ [(state.sequencer.stampAction action).2] } := by
    rintro ⟨live, batch, actionBatch⟩
    have advanced := reached_advance state.sequencer action.capturedAt
    refine ⟨⟨live.advance advanced, ?_, ?_⟩, fun covered => covered⟩
    · intro event member
      exact ⟨(batch event member).1, (batch event member).2.mono advanced⟩
    · intro earlier member
      rcases List.mem_append.mp member with old | new
      · exact ⟨(actionBatch earlier old).1, (actionBatch earlier old).2.mono advanced⟩
      · rw [List.mem_singleton.mp new]
        exact ⟨rfl, _, rfl, le_rfl⟩
  unfold WriterState.enqueueAction
  dsimp only
  split_ifs
  · exact stamped.trans (flush_action_batch _ _)
  · exact stamped

theorem queue_action (readings : QueueReadings) (action : ActionCapture) :
    StaysOnTimeline state (state.queueAction config readings action) := by
  have skipped : StaysOnTimeline state state.skipAction := of_same rfl rfl rfl rfl rfl
  have gap : ∀ (state : WriterState) gapOpen,
      StaysOnTimeline state (state.withExcludedGapOpen gapOpen) :=
    fun _ _ => of_same rfl rfl rfl rfl rfl
  unfold WriterState.queueAction
  split_ifs
  · exact skipped
  · exact skipped
  · exact skipped
  · exact skipped
  · exact gap state true
  · exact (enqueue_action config state readings _).trans (gap _ true)
  · exact (gap state false).trans (enqueue_action config _ readings _)

theorem queue_writer_input (readings : QueueReadings) (input : WriterInput) :
    StaysOnTimeline state (state.queueWriterInput config readings input) := by
  cases input with
  | motion captured => exact queue_captured config state readings captured
  | action action => exact queue_action config state readings action
  | actionDiag => exact refl state
  | rejectedAction => exact refl state

theorem drain_and_flush (readings : DrainReadings) :
    StaysOnTimeline state (state.drainAndFlush config readings) := by
  have drained : StaysOnTimeline state (state.drainWriterInputs config readings.drained) := by
    generalize readings.drained = inputs
    induction inputs generalizing state with
    | nil => exact refl state
    | cons item rest induction =>
        exact (queue_writer_input config state item.2 item.1).trans (induction _)
  exact drained.trans (flush_all_batches _ _ _)

omit [StoreExternals] in
theorem heartbeat (clock : Clock) (faults : PersistFaults) :
    StaysOnTimeline state (state.logWriterHeartbeat config clock faults) :=
  of_same (timeline_of_activity (state.heartbeat_keeps config clock faults).2) rfl rfl rfl rfl

section Commands

variable (now : Instant)

omit [Externals] [StoreExternals] in
theorem confirmed_timeline {faults : StartFaults} {startedTs : I64} {command : StartRecording}
    {db after : Database} (confirmed : ConfirmedFor faults startedTs command db after) :
    after.timeline = db.timeline := by
  unfold ConfirmedFor at confirmed
  split at confirmed
  · rw [confirmed]
  · rw [(confirm_record_request_ok confirmed).2]
    rfl

omit [Externals] [StoreExternals] in
theorem failed_timeline {fault : Option StoreError} {db after : Database} {requestId : Int}
    {updatedAt : I64}
    (marked : Logged (db.failRecordRequest fault requestId updatedAt) db after) :
    after.timeline = db.timeline := by
  cases marked with
  | failed => rfl
  | done done =>
      obtain ⟨_, rfl⟩ := statement_ok done
      rfl

theorem start_recording (faults : StartFaults) (command : StartRecording) :
    StaysOnTimeline state (state.startRecording now faults command).1 := by
  have outcome := start_recording_cases state now faults command
  generalize state.startRecording now faults command = result at outcome
  cases outcome with
  | refused error => exact refl state
  | failed error confirmed_for marked =>
      refine of_same ?_ rfl rfl rfl rfl
      unfold MarkedFailed at marked
      split at marked
      · rw [marked]
        exact confirmed_timeline confirmed_for
      · exact (failed_timeline marked).trans (confirmed_timeline confirmed_for)
  | @started recordSessionId confirmed after confirmed_for opened =>
      have same := confirmed_timeline confirmed_for
      have started : StaysOnTimeline state { state with store := after } := by
        refine of_store fun live => ?_
        rw [← same] at live ⊢
        exact open_record_session_timeline live opened rfl
      exact started.trans (of_same rfl rfl rfl rfl rfl)

theorem stop_recording (readings : DrainReadings) (fault : Option StoreError)
    (recordSessionId : Int) (stopReason : RecordStopReason) :
    StaysOnTimeline state
      (state.stopRecording config now readings fault recordSessionId stopReason).1 := by
  have drained := drain_and_flush config state readings
  unfold WriterState.stopRecording
  dsimp only
  split
  · exact drained
  · rename_i db closed
    have ended : StaysOnTimeline (state.drainAndFlush config readings)
        { state.drainAndFlush config readings with store := db } :=
      of_store fun live => close_record_session_timeline live closed
        fun ts reached => reached.le_timestamp_for now
    exact (drained.trans ended).trans (of_same rfl rfl rfl rfl rfl)

omit [StoreExternals] in
theorem pause_recording (fault : Option StoreError) (recordSessionId : Int) :
    StaysOnTimeline state (state.pauseRecording now fault recordSessionId).1 := by
  unfold WriterState.pauseRecording
  split
  · exact refl state
  · rename_i db paused
    refine of_same ?_ rfl rfl rfl rfl
    rcases pause_record_session_ok paused with same | ⟨intervals, written⟩
    · exact congrArg Database.timeline same
    · exact pause_intervals_timeline written

omit [StoreExternals] in
theorem resume_recording (fault : Option StoreError) (recordSessionId : Int) :
    StaysOnTimeline state (state.resumeRecording now fault recordSessionId).1 := by
  unfold WriterState.resumeRecording
  split
  · exact refl state
  · rename_i db resumed
    obtain ⟨intervals, written⟩ := resume_record_session_ok resumed
    exact of_same (pause_intervals_timeline written) rfl rfl rfl rfl

omit [StoreExternals] in
theorem decline_record_request (fault : Option StoreError) (requestId : Int) :
    StaysOnTimeline state (state.declineRecordRequest now fault requestId) := by
  refine of_same ?_ rfl rfl rfl rfl
  have declined := logged (state.store.cancelRecordRequest fault requestId
    (state.sequencer.timestampFor now)) state.store
  change ((state.store.cancelRecordRequest fault requestId
    (state.sequencer.timestampFor now)).toOption.getD state.store).timeline = _
  generalize (state.store.cancelRecordRequest fault requestId
    (state.sequencer.timestampFor now)).toOption.getD state.store = after at declined ⊢
  cases declined with
  | failed => rfl
  | done done =>
      obtain ⟨_, rfl⟩ := statement_ok done
      rfl

theorem poll (readings : PollReadings) :
    StaysOnTimeline state (state.pollRecordingControl readings) := by
  have polled := polled state readings
  obtain ⟨expired, expiry, failure⟩ := polled.requests
  have first : expired.timeline = state.store.timeline := by
    cases expiry with
    | failed => rfl
    | done done =>
        obtain ⟨_, rfl⟩ := statement_ok done
        rfl
  have requests : (state.pollRecordingControl readings).store.timeline = state.store.timeline := by
    rcases failure with same | ⟨requestId, marked⟩
    · rw [same]
      exact first
    · exact (failed_timeline marked).trans first
  refine of_same requests ?_ ?_ ?_ ?_ <;> rw [polled.rest]

theorem forget_focus_attribution (fault : Option StoreError) :
    StaysOnTimeline state (state.forgetFocusAttribution config [] fault) := by
  have forgotten : StaysOnTimeline state
      { state with policy := state.policy.forgetFocusAttribution } :=
    of_same rfl rfl rfl rfl rfl
  exact forgotten.trans (clear_focus _ fault)

end Commands

end StaysOnTimeline

section Resets

/-- Nothing is stored and nothing is batched. -/
structure WriterState.Blank (state : WriterState) : Prop where
  activity : state.store.activity = .empty
  batch : state.batch = []
  actionBatch : state.actionBatch = []

theorem WriterState.Blank.on_timeline {state : WriterState} (blank : state.Blank) :
    state.OnTimeline ∧ state.store.timeline.Covered := by
  have empty : state.store.timeline = ⟨[], [], []⟩ := by
    unfold Database.timeline
    rw [blank.activity]
    rfl
  obtain ⟨activity, batch, actionBatch⟩ := blank
  refine ⟨⟨?_, ?_, ?_⟩, ?_⟩
  · rw [empty]
    constructor
    · constructor <;> exact fun _ none => absurd none List.not_mem_nil
    all_goals exact fun _ none => absurd none List.not_mem_nil
  · rw [batch]
    exact fun _ none => absurd none List.not_mem_nil
  · rw [actionBatch]
    exact fun _ none => absurd none List.not_mem_nil
  · rw [empty]
    exact fun _ none => absurd none List.not_mem_nil

theorem WriterState.Blank.create_replacement_session {state : WriterState} (blank : state.Blank)
    (readings : ReplacementReadings) (identity : SessionIdentity) :
    (state.createReplacementSession readings identity).1.OnTimeline ∧
      (state.createReplacementSession readings identity).1.store.timeline.Covered := by
  obtain ⟨activity, batch, actionBatch⟩ := blank
  have minted := (state.store.mint_meta_identity_activity readings.mintFault
    readings.mintSecondFault readings.start.utcMs readings.dbUuid).trans activity
  unfold WriterState.createReplacementSession
  dsimp only
  split
  · rename_i db error named
    rw [named] at minted
    exact WriterState.Blank.on_timeline ⟨minted, batch, actionBatch⟩
  · rename_i db named
    rw [named] at minted
    split
    · exact WriterState.Blank.on_timeline ⟨minted, batch, actionBatch⟩
    · rename_i created newSessionId inserted
      have empty : db.timeline = ⟨[], [], []⟩ := by
        unfold Database.timeline
        rw [minted]
        rfl
      have left : { state with store := db }.Blank := ⟨minted, batch, actionBatch⟩
      obtain ⟨live, covered⟩ := left.on_timeline
      have none_left : ∀ {Row : Type} {Holds : Row → Prop}, ∀ row ∈ ([] : List Row), Holds row :=
        fun _ none => absurd none List.not_mem_nil
      obtain ⟨begun, kept⟩ := create_session_timeline inserted live.live.toSound
        (empty ▸ none_left) (empty ▸ none_left)
      refine ⟨⟨begun, ?_, ?_⟩, kept.mp covered⟩
      · rw [batch]
        exact none_left
      · rw [actionBatch]
        exact none_left

variable (config : WriterConfig)

theorem StaysOnTimeline.reemit (state : WriterState) (now : Instant)
    (readings : SensitiveContextReason → QueueReadings) :
    StaysOnTimeline state (state.reemitActiveSensitiveContexts config now readings) := by
  unfold WriterState.reemitActiveSensitiveContexts
  generalize state.policy.activeSensitiveReasons = reasons
  induction reasons generalizing state with
  | nil => exact refl state
  | cons reason rest induction => exact (queue_captured config state _ _).trans (induction _)

theorem StaysOnTimeline.erase_settled {state : WriterState} (batch : state.batch = [])
    (actionBatch : state.actionBatch = []) (readings : DeleteReadings)
    (identity : SessionIdentity) :
    StaysOnTimeline state (state.eraseSettled config readings identity).1 := by
  unfold WriterState.eraseSettled
  split
  · exact refl state
  · rename_i db deleted wiping
    obtain ⟨rfl, _⟩ := Prod.mk.inj (statement_ok wiping).2
    have blank : { state with store := Database.empty }.rebaseCounters.Blank :=
      ⟨rfl, batch, actionBatch⟩
    obtain ⟨onTimeline, covered⟩ := blank.create_replacement_session readings.replacement identity
    split
    · rename_i after error created
      rw [show after = (after, Except.error error).1 from rfl, ← created]
      exact fun _ => ⟨onTimeline, fun _ => covered⟩
    · rename_i after newSessionId created
      have started : StaysOnTimeline state after := by
        rw [show after = (after, Except.ok newSessionId).1 from rfl, ← created]
        exact fun _ => ⟨onTimeline, fun _ => covered⟩
      have forgotten : StaysOnTimeline after
          { after with
            eraseCompletionBoundaryMs :=
              some (after.sequencer.projectedTimestampFor
                readings.completedAt) }.forgetOpenFocus :=
        of_same rfl rfl rfl rfl rfl
      exact (started.trans forgotten).trans (reemit config _ _ _)

theorem StaysOnTimeline.reset_archived {state : WriterState} (batch : state.batch = [])
    (actionBatch : state.actionBatch = []) (readings : DeleteReadings)
    (identity : SessionIdentity) (archive : ArchiveReport) :
    StaysOnTimeline state (state.resetArchived config readings identity archive).1 := by
  unfold WriterState.resetArchived
  split
  · exact refl state
  · rename_i db deleted wiping
    obtain ⟨rfl, _⟩ := Prod.mk.inj (statement_ok wiping).2
    have blank : { state with store := Database.empty }.Blank := ⟨rfl, batch, actionBatch⟩
    obtain ⟨onTimeline, covered⟩ := blank.create_replacement_session readings.replacement identity
    split
    · rename_i after error created
      rw [show after = (after, Except.error error).1 from rfl, ← created]
      exact fun _ => ⟨onTimeline, fun _ => covered⟩
    · rename_i after newSessionId created
      have started : StaysOnTimeline state after := by
        rw [show after = (after, Except.ok newSessionId).1 from rfl, ← created]
        exact fun _ => ⟨onTimeline, fun _ => covered⟩
      have forgotten : StaysOnTimeline after
          { after with eraseCompletionBoundaryMs := none }.forgetOpenFocus :=
        of_same rfl rfl rfl rfl rfl
      exact (started.trans forgotten).trans (reemit config _ _ _)

variable [StoreExternals] (state : WriterState) (settle : SettleReadings)

theorem StaysOnTimeline.settle_for_reset :
    let after := (state.settleForReset config settle).1
    StaysOnTimeline state after ∧ after.batch = [] ∧ after.actionBatch = [] := by
  have drained := drain_and_flush config state settle.drain
  unfold WriterState.settleForReset
  dsimp only
  split
  · exact ⟨drained, rfl, rfl⟩
  · rename_i db finalized
    have ended : StaysOnTimeline (state.drainAndFlush config settle.drain)
        { state.drainAndFlush config settle.drain with store := db } :=
      of_store fun live => finalize_record_sessions_timeline live finalized
        fun ts reached => reached.le_timestamp_for settle.endedAt
    exact ⟨(drained.trans ended).trans (of_same rfl rfl rfl rfl rfl), rfl, rfl⟩

variable (readings : DeleteReadings) (identity : SessionIdentity)

theorem StaysOnTimeline.secure_erase :
    StaysOnTimeline state (state.secureErase config settle readings identity).1 := by
  obtain ⟨settled, batch, actionBatch⟩ := settle_for_reset config state settle
  unfold WriterState.secureErase
  split_ifs
  · exact refl state
  · split
    · rename_i after error unsettled
      rw [unsettled] at settled
      exact settled
    · rename_i after endedAt succeeded
      rw [succeeded] at settled batch actionBatch
      exact settled.trans (erase_settled config batch actionBatch readings identity)

theorem StaysOnTimeline.archive_and_reset (archiving : ArchiveReadings) (archivePath : String)
    (archive : Option ArchiveFile) :
    StaysOnTimeline state
      (state.archiveAndReset config settle archiving readings archivePath archive
        identity).state := by
  obtain ⟨settled, batch, actionBatch⟩ := settle_for_reset config state settle
  unfold WriterState.archiveAndReset
  split_ifs
  · exact refl state
  · split
    · rename_i after error unsettled
      rw [unsettled] at settled
      exact settled
    · rename_i after endedAt succeeded
      rw [succeeded] at settled batch actionBatch
      split
      · exact settled
      · rename_i files archived _
        exact settled.trans
          (reset_archived config batch actionBatch readings identity archived)

end Resets

theorem turn_timeline [StoreExternals] (config : WriterConfig) (state : WriterState)
    (turn : WriterTurn) : StaysOnTimeline state (state.turn config turn).1 := by
  cases turn with
  | input input readings => exact .queue_writer_input config state readings input
  | flushTick flush actionFlush => exact .flush_all_batches state flush actionFlush
  | heartbeatTick clock faults => exact .heartbeat config state clock faults
  | openFocusTick now fault => exact .beat state now fault
  | pollTick readings => exact .poll state readings
  | forgetFocusAttribution fault => exact .forget_focus_attribution config state fault
  | startRecording now faults command => exact .start_recording state now faults command
  | stopRecording now flush actionFlush fault recordSessionId stopReason =>
      exact .stop_recording config state now ⟨[], flush, actionFlush⟩ fault recordSessionId
        stopReason
  | pauseRecording now fault recordSessionId =>
      exact .pause_recording state now fault recordSessionId
  | resumeRecording now fault recordSessionId =>
      exact .resume_recording state now fault recordSessionId
  | extendCap recordSessionId => exact .refl state
  | declineRecordRequest now fault requestId =>
      exact .decline_record_request state now fault requestId
  | secureErase settle readings identity =>
      exact .secure_erase config state settle readings identity
  | archiveAndReset settle archiving readings archivePath archive identity =>
      exact .archive_and_reset config state settle readings identity archiving archivePath archive
  | panicCutoff cutoff => exact .of_same rfl rfl rfl rfl rfl
  | captureDropped => exact .of_same rfl rfl rfl rfl rfl

end Gilbreth.Store
