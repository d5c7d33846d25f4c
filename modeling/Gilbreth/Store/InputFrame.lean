import Gilbreth.Store.Books
import Gilbreth.Store.WriterSteps

/-!
# What inputs leave alone

Queueing and flushing move the rows of the batches into the database. The books
around them stay as they are, and so does what the writer remembers beside its
batches.
-/

set_option autoImplicit false

namespace Gilbreth.Store

open Gilbreth.Core

variable [Externals]

/-- The writer after inputs and flushes: the counters can only have grown. -/
structure InputFrame (before after : WriterState) : Prop where
  books : SameBooks before.store after.store
  heartbeat : after.heartbeat = before.heartbeat
  recordState : after.recordState =
    { before.recordState with excludedGapOpen := after.recordState.excludedGapOpen }
  captureDropped : after.diagnostics.captureEventsDropped =
    before.diagnostics.captureEventsDropped
  staleDropped : before.diagnostics.stalePreEraseRowsDropped ≤
    after.diagnostics.stalePreEraseRowsDropped
  panicCutoff : after.panicActionCutoff = before.panicActionCutoff
  session : after.sequencer.sessionId = before.sequencer.sessionId

namespace InputFrame

theorem refl (state : WriterState) : InputFrame state state :=
  ⟨.refl _, rfl, rfl, rfl, Nat.le_refl _, rfl, rfl⟩

theorem trans {first second third : WriterState} (left : InputFrame first second)
    (right : InputFrame second third) : InputFrame first third where
  books := left.books.trans right.books
  heartbeat := right.heartbeat.trans left.heartbeat
  recordState := by rw [right.recordState, left.recordState]
  captureDropped := right.captureDropped.trans left.captureDropped
  staleDropped := left.staleDropped.trans right.staleDropped
  panicCutoff := right.panicCutoff.trans left.panicCutoff
  session := right.session.trans left.session

variable (config : WriterConfig) (state : WriterState)

theorem flush_batch (flush : Nat → AttemptReadings StoreError) :
    InputFrame state (state.flushBatch flush) :=
  ⟨SameBooks.flush_events flush state.batch state.store, rfl, rfl, rfl, Nat.le_refl _, rfl, rfl⟩

theorem clear_focus (fault : Option StoreError) : InputFrame state (state.clearFocus fault) :=
  ⟨SameBooks.clear_open_focus fault state.openFocus state.store, rfl, rfl, rfl, Nat.le_refl _, rfl,
    rfl⟩

theorem beat (now : Instant) (fault : Option StoreError) :
    InputFrame state (state.beat now fault) := by
  refine ⟨?_, rfl, rfl, rfl, Nat.le_refl _, rfl, rfl⟩
  change SameBooks state.store
    (beatOpenFocus fault state.sequencer now state.openFocus state.store).2
  unfold beatOpenFocus
  split
  · exact .refl _
  · dsimp only
    split
    · rename_i beaten written
      obtain ⟨_, rfl⟩ := statement_ok written
      exact SameBooks.set_open_focus _ _
    · exact .refl _

section Motion

variable (readings : QueueReadings) (captured : Captured)

omit [Externals] in
theorem session_resync_for_event (clock : Clock) (thresholdMs : I64) (sequencer : Sequencer)
    (payload : EventPayload) :
    (resyncForEventIfNeeded clock thresholdMs sequencer payload).sessionId =
      sequencer.sessionId := by
  unfold resyncForEventIfNeeded
  split_ifs <;> rfl

theorem received : InputFrame state (state.received config readings captured) := by
  refine ⟨.refl _, rfl, ?_, rfl, Nat.le_refl _, rfl, session_resync_for_event _ _ _ _⟩
  change (state.noteAllowedFocus captured.payload).recordState = _
  unfold WriterState.received WriterState.noteAllowedFocus
  split
  · split_ifs <;> rfl
  · rfl

theorem admit_captured : InputFrame state (state.admitCaptured config readings captured).1 := by
  have received := InputFrame.received config state readings captured
  rw [WriterState.admit_captured_eq]
  split_ifs
  · exact ⟨.refl _, rfl, rfl, rfl, Nat.le_succ _, rfl, rfl⟩
  · unfold WriterState.dropReceived
    split_ifs
    · exact received.trans (clear_focus _ _)
    · exact received
  · exact received.trans
      ⟨SameBooks.note_open_focus _ _ _ _, rfl, rfl, rfl, Nat.le_refl _, rfl, rfl⟩

theorem queue_captured : InputFrame state (state.queueCaptured config readings captured) := by
  have admitted := admit_captured config state readings captured
  rcases state.queue_captured_cases config readings captured with queued | queued
  · rw [queued]
    exact admitted
  · rw [queued]
    exact admitted.trans (flush_batch _ _)

end Motion

variable [StoreExternals]

theorem flush_action_batch (flush : Nat → AttemptReadings ActionFault) :
    InputFrame state (state.flushActionBatch flush) :=
  ⟨SameBooks.flush_actions flush state.actionBatch state.store, rfl, rfl, rfl, Nat.le_refl _, rfl,
    rfl⟩

theorem flush_all_batches (flush : Nat → AttemptReadings StoreError)
    (actionFlush : Nat → AttemptReadings ActionFault) :
    InputFrame state (state.flushAllBatches flush actionFlush) :=
  (flush_batch state flush).trans (flush_action_batch _ actionFlush)

theorem enqueue_action (readings : QueueReadings) (action : ActionCapture) :
    InputFrame state (state.enqueueAction config readings action) := by
  have stamped : InputFrame state
      { state with
        sequencer := (state.sequencer.stampAction action).1
        actionBatch := state.actionBatch ++ [(state.sequencer.stampAction action).2] } :=
    ⟨.refl _, rfl, rfl, rfl, Nat.le_refl _, rfl, rfl⟩
  unfold WriterState.enqueueAction
  dsimp only
  split_ifs
  · exact stamped.trans (flush_action_batch _ _)
  · exact stamped

theorem queue_action (readings : QueueReadings) (action : ActionCapture) :
    InputFrame state (state.queueAction config readings action) := by
  have skipped : InputFrame state state.skipAction :=
    ⟨.refl _, rfl, rfl, rfl, Nat.le_refl _, rfl, rfl⟩
  have gap : ∀ (state : WriterState) gapOpen,
      InputFrame state (state.withExcludedGapOpen gapOpen) :=
    fun _ _ => ⟨.refl _, rfl, rfl, rfl, Nat.le_refl _, rfl, rfl⟩
  unfold WriterState.queueAction
  split_ifs
  · exact skipped
  · exact skipped
  · exact skipped
  · exact skipped
  · exact gap state true
  · exact (enqueue_action config state readings _).trans (gap _ true)
  · exact (gap state false).trans (enqueue_action config _ readings _)

theorem queue_writer_input (readings : QueueReadings) (input : WriterInput) :
    InputFrame state (state.queueWriterInput config readings input) := by
  cases input with
  | motion captured => exact queue_captured config state readings captured
  | action action => exact queue_action config state readings action
  | actionDiag => exact refl state
  | rejectedAction => exact refl state

theorem drain_writer_inputs (inputs : List (WriterInput × QueueReadings)) :
    InputFrame state (state.drainWriterInputs config inputs) := by
  induction inputs generalizing state with
  | nil => exact refl state
  | cons item rest induction =>
      exact (queue_writer_input config state item.2 item.1).trans (induction _)

theorem drain_and_flush (readings : DrainReadings) :
    InputFrame state (state.drainAndFlush config readings) :=
  (drain_writer_inputs config state readings.drained).trans (flush_all_batches _ _ _)

end InputFrame

end Gilbreth.Store
