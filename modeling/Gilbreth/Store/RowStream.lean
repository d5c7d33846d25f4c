import Gilbreth.Core.Redaction
import Gilbreth.Core.Stream
import Gilbreth.Store.WriterSteps

/-!
# The row stream under the writer

What a session stores depends on the sequencer, the policy and the rows stamped
so far, and a turn moves these three only by a few elementary moves. The row
stream is that machine; the writer refines it, with one replacement move for
every completed reset and none for any other turn.
-/

set_option autoImplicit false

namespace Gilbreth.Store

open Gilbreth.Core

variable [Externals]

structure RowStream where
  sequencer : Sequencer
  policy : Policy
  stamped : List EventEnvelope

inductive StreamMove where
  | resync (clock : Clock)
  /-- An action takes the next number. -/
  | advance (capturedAt : Instant)
  | capture (clock : Clock) (captured : Captured)
  | forget
  | replace (sessionId : Int) (timebase : SessionTimebase)

def StreamMove.isReplace : StreamMove → Bool
  | replace .. => true
  | _ => false

namespace RowStream

variable (thresholdMs : I64) (stream : RowStream)

def capture (clock : Clock) (captured : Captured) : RowStream :=
  let received : RowStream :=
    { stream with
      sequencer := resyncForEventIfNeeded clock thresholdMs stream.sequencer captured.payload
      policy := stream.policy.observed captured.payload }
  if stream.policy.drops captured.payload then received
  else
    let stamped := received.sequencer.stamp
      { captured with payload := stream.policy.outbound captured.payload }
    let redacted := received.policy.applyAfterExclusions stamped.2
    ⟨stamped.1, redacted.1, stream.stamped ++ [redacted.2]⟩

def move : StreamMove → RowStream
  | .resync clock =>
      { stream with sequencer := resyncSequencerAt clock thresholdMs stream.sequencer }
  | .advance capturedAt => { stream with sequencer := stream.sequencer.advance capturedAt }
  | .capture clock captured => stream.capture thresholdMs clock captured
  | .forget => { stream with policy := stream.policy.forgetFocusAttribution }
  | .replace sessionId timebase => ⟨.new sessionId timebase, stream.policy, []⟩

end RowStream

def streamMachine (thresholdMs : I64) : Machine RowStream StreamMove Unit where
  step stream move := (stream.move thresholdMs move, ())

section Invariant

/-- The rows of a session carry its identifier and never step back in number or
time, and the sequencer is past all of them. -/
structure RowStream.InOrder (stream : RowStream) : Prop where
  session : ∀ event ∈ stream.stamped, event.sessionId = stream.sequencer.sessionId
  bounded : stream.sequencer.nextSeq ≤ u64Max
  numbered : ∀ event ∈ stream.stamped, event.seq ≤ stream.sequencer.nextSeq
  dated : ∀ event ∈ stream.stamped,
    ∃ last ∈ stream.sequencer.lastTsUnixMs, event.tsUnixMs ≤ last
  ordered : stream.stamped.Pairwise fun earlier later =>
    earlier.seq ≤ later.seq ∧ earlier.tsUnixMs ≤ later.tsUnixMs

namespace RowStream.InOrder

variable {stream : RowStream}

theorem of_advanced (order : stream.InOrder) (sequencer : Sequencer) (policy : Policy)
    (session : sequencer.sessionId = stream.sequencer.sessionId)
    (bounded : sequencer.nextSeq ≤ u64Max)
    (numbered : stream.sequencer.nextSeq ≤ sequencer.nextSeq)
    (dated : ∀ last ∈ stream.sequencer.lastTsUnixMs, ∃ later ∈ sequencer.lastTsUnixMs,
      last ≤ later) :
    InOrder ⟨sequencer, policy, stream.stamped⟩ where
  session event member := (order.session event member).trans session.symm
  bounded := bounded
  numbered event member := (order.numbered event member).trans numbered
  dated event member := by
    obtain ⟨last, stamped, below⟩ := order.dated event member
    obtain ⟨later, after, ordered⟩ := dated last stamped
    exact ⟨later, after, below.trans ordered⟩
  ordered := order.ordered

theorem append_stamped (order : stream.InOrder) (captured : Captured) (policy after : Policy) :
    InOrder ⟨(stream.sequencer.stamp captured).1, after,
      stream.stamped ++
        [(policy.applyAfterExclusions (stream.sequencer.stamp captured).2).2]⟩ := by
  have header := policy.apply_after_exclusions_header (stream.sequencer.stamp captured).2
  have advanced := stream.sequencer.advance_bounds captured.capturedAt order.bounded
  have before := order.of_advanced (stream.sequencer.advance captured.capturedAt) after
    rfl advanced.1 advanced.2 (Sequencer.advance_dates _ _)
  constructor
  · intro event member
    rcases List.mem_append.mp member with old | new
    · exact before.session event old
    · rw [List.mem_singleton.mp new]
      exact header.1
  · exact advanced.1
  · intro event member
    rcases List.mem_append.mp member with old | new
    · exact before.numbered event old
    · rw [List.mem_singleton.mp new, header.2.1]
      exact advanced.2
  · intro event member
    rcases List.mem_append.mp member with old | new
    · exact before.dated event old
    · rw [List.mem_singleton.mp new, header.2.2]
      exact ⟨_, rfl, le_rfl⟩
  · refine List.pairwise_append.mpr ⟨order.ordered, List.pairwise_singleton _ _, ?_⟩
    intro earlier old later new
    rw [List.mem_singleton.mp new, header.2.1, header.2.2]
    obtain ⟨last, stamped, below⟩ := order.dated earlier old
    exact ⟨order.numbered earlier old,
      below.trans (stream.sequencer.last_le_clamp_timestamp _ last stamped)⟩

theorem resync_event (order : stream.InOrder) (clock : Clock) (thresholdMs : I64)
    (payload : EventPayload) (policy : Policy) :
    InOrder ⟨resyncForEventIfNeeded clock thresholdMs stream.sequencer payload, policy,
      stream.stamped⟩ := by
  unfold resyncForEventIfNeeded
  split_ifs
  · exact order.of_advanced _ policy rfl order.bounded le_rfl fun last stamped =>
      ⟨last, stamped, le_rfl⟩
  · exact order.of_advanced _ policy rfl order.bounded le_rfl fun last stamped =>
      ⟨last, stamped, le_rfl⟩

end RowStream.InOrder

theorem RowStream.in_order_new (sessionId : Int) (timebase : SessionTimebase) (policy : Policy) :
    InOrder ⟨.new sessionId timebase, policy, []⟩ := by
  have first : 1 ≤ u64Max := by decide
  refine ⟨?_, first, ?_, ?_, .nil⟩ <;> exact fun _ none => absurd none List.not_mem_nil

theorem RowStream.in_order_move (thresholdMs : I64) (stream : RowStream) (move : StreamMove)
    (order : stream.InOrder) : (stream.move thresholdMs move).InOrder := by
  cases move with
  | resync clock =>
      exact order.of_advanced _ stream.policy rfl order.bounded le_rfl fun last stamped =>
        ⟨last, stamped, le_rfl⟩
  | advance capturedAt =>
      have bounds := stream.sequencer.advance_bounds capturedAt order.bounded
      exact order.of_advanced _ stream.policy rfl bounds.1 bounds.2 (Sequencer.advance_dates _ _)
  | capture clock captured =>
      have received := order.resync_event clock thresholdMs captured.payload
        (stream.policy.observed captured.payload)
      unfold RowStream.move capture
      dsimp only
      split_ifs
      · exact received
      · exact received.append_stamped _ _ _
  | forget => exact ⟨order.session, order.bounded, order.numbered, order.dated, order.ordered⟩
  | replace sessionId timebase => exact in_order_new sessionId timebase stream.policy

theorem RowStream.in_order_run (thresholdMs : I64) (stream : RowStream) (moves : List StreamMove)
    (order : stream.InOrder) : ((streamMachine thresholdMs).run stream moves).InOrder :=
  (streamMachine thresholdMs).run_invariant InOrder (in_order_move thresholdMs) stream moves order

end Invariant

section Refinement

/-- The stream went on to `after` without a replacement. -/
def RowStream.GoesOnTo (thresholdMs : I64) (before after : RowStream) : Prop :=
  ∃ moves, (∀ move ∈ moves, move.isReplace = false) ∧
    after = (streamMachine thresholdMs).run before moves

namespace RowStream.GoesOnTo

variable {thresholdMs : I64} {first second third : RowStream}

theorem refl (stream : RowStream) : GoesOnTo thresholdMs stream stream :=
  ⟨[], fun _ none => absurd none List.not_mem_nil, rfl⟩

theorem single (stream : RowStream) (move : StreamMove) (other : move.isReplace = false) :
    GoesOnTo thresholdMs stream (stream.move thresholdMs move) := by
  refine ⟨[move], ?_, rfl⟩
  intro only member
  rw [List.mem_singleton.mp member]
  exact other

theorem trans (left : GoesOnTo thresholdMs first second)
    (right : GoesOnTo thresholdMs second third) : GoesOnTo thresholdMs first third := by
  obtain ⟨before, beforeMoves, rfl⟩ := left
  obtain ⟨after, afterMoves, rfl⟩ := right
  refine ⟨before ++ after, ?_, (Machine.run_append _ _ _ _).symm⟩
  intro move member
  rcases List.mem_append.mp member with old | new
  · exact beforeMoves move old
  · exact afterMoves move new

theorem keeps (invariant : RowStream → Prop)
    (kept : ∀ stream move, move.isReplace = false → invariant stream →
      invariant (stream.move thresholdMs move))
    (onward : GoesOnTo thresholdMs first second) (start : invariant first) : invariant second := by
  obtain ⟨moves, others, rfl⟩ := onward
  induction moves generalizing first with
  | nil => exact start
  | cons move rest induction =>
      exact induction (kept first move (others move List.mem_cons_self) start)
        fun later member => others later (List.mem_cons_of_mem _ member)

end RowStream.GoesOnTo

namespace WriterState

variable (config : WriterConfig) (state : WriterState)

def rowStream : RowStream := ⟨state.sequencer, state.policy, state.stamped⟩

theorem row_stream_of_same {before after : WriterState} (same : SameStream before after) :
    after.rowStream = before.rowStream := by
  rw [rowStream, rowStream, same.sequencer, same.policy, same.stamped]

def GoesOnTo (before after : WriterState) : Prop :=
  RowStream.GoesOnTo config.timebaseDriftThresholdMs before.rowStream after.rowStream

theorem goes_on_of_same {before after : WriterState} (same : SameStream before after) :
    GoesOnTo config before after := by
  rw [GoesOnTo, row_stream_of_same same]
  exact .refl _

section Queue

variable (readings : QueueReadings) (captured : Captured)

theorem admit_captured_row_stream :
    (state.admitCaptured config readings captured).1.rowStream =
      if state.eraseGateDrops captured then state.rowStream
      else state.rowStream.capture config.timebaseDriftThresholdMs readings.clock captured := by
  rw [admit_captured_eq]
  by_cases gated : state.eraseGateDrops captured = true
  · rw [if_pos gated, if_pos gated]
    rfl
  rw [if_neg gated, if_neg gated]
  by_cases dropped : state.policy.drops captured.payload = true
  · rw [if_pos dropped, RowStream.capture]
    exact (row_stream_of_same (state.drop_received_stream config readings captured)).trans
      (if_pos dropped).symm
  · rw [if_neg dropped, RowStream.capture]
    exact (if_neg dropped).symm

theorem queue_captured_row_stream :
    (state.queueCaptured config readings captured).rowStream =
      (state.admitCaptured config readings captured).1.rowStream :=
  row_stream_of_same (state.queue_captured_stream config readings captured)

theorem admit_captured_goes_on :
    GoesOnTo config state (state.admitCaptured config readings captured).1 := by
  rw [GoesOnTo, admit_captured_row_stream]
  split_ifs
  · exact .refl _
  · exact RowStream.GoesOnTo.single state.rowStream (.capture readings.clock captured) rfl

theorem queue_captured_goes_on :
    GoesOnTo config state (state.queueCaptured config readings captured) := by
  rw [GoesOnTo, queue_captured_row_stream]
  exact state.admit_captured_goes_on config readings captured

variable [StoreExternals]

theorem queue_writer_input_goes_on (input : WriterInput) :
    GoesOnTo config state (state.queueWriterInput config readings input) := by
  cases input with
  | motion captured => exact state.queue_captured_goes_on config readings captured
  | action action =>
      have step := state.queue_action_step config readings action
      change GoesOnTo config state (state.queueAction config readings action)
      rw [GoesOnTo, rowStream, rowStream, step.policy, step.stamped]
      rcases step.sequencer with same | ⟨capturedAt, advanced⟩
      · rw [same]
        exact .refl _
      · rw [advanced]
        exact RowStream.GoesOnTo.single state.rowStream (.advance capturedAt) rfl
  | actionDiag => exact .refl _
  | rejectedAction => exact .refl _

end Queue

variable [StoreExternals]

theorem drain_goes_on (inputs : List (WriterInput × QueueReadings)) :
    GoesOnTo config state (state.drainWriterInputs config inputs) := by
  induction inputs generalizing state with
  | nil => exact .refl _
  | cons item rest induction =>
      exact (state.queue_writer_input_goes_on config item.2 item.1).trans
        (induction (state.queueWriterInput config item.2 item.1))

theorem turn_goes_on (turn : WriterTurn)
    (unreset : (state.turn config turn).2.resetCompleted = false) :
    GoesOnTo config state (state.turn config turn).1 := by
  cases turn with
  | input input readings => exact state.queue_writer_input_goes_on config readings input
  | flushTick flush actionFlush =>
      exact goes_on_of_same config (state.same_stream_flush_all flush actionFlush)
  | heartbeatTick clock faults =>
      exact RowStream.GoesOnTo.single state.rowStream (.resync clock) rfl
  | openFocusTick now fault => exact goes_on_of_same config (state.same_stream_beat now fault)
  | pollTick readings => exact goes_on_of_same config (state.same_stream_poll readings)
  | forgetFocusAttribution fault =>
      exact RowStream.GoesOnTo.single state.rowStream .forget rfl
  | startRecording now faults command =>
      exact goes_on_of_same config (state.same_stream_start_recording now faults command)
  | stopRecording now flush actionFlush fault recordSessionId stopReason =>
      exact goes_on_of_same config (state.same_stream_stop_recording config now flush actionFlush
        fault recordSessionId stopReason)
  | pauseRecording now fault recordSessionId =>
      exact goes_on_of_same config (state.same_stream_pause_recording now fault recordSessionId)
  | resumeRecording now fault recordSessionId =>
      exact goes_on_of_same config (state.same_stream_resume_recording now fault recordSessionId)
  | extendCap recordSessionId => exact .refl _
  | declineRecordRequest now fault requestId => exact .refl _
  | secureErase settle readings identity =>
      have drained := state.drain_goes_on config settle.drain.drained
      rcases state.secure_erase_cases config identity readings settle with
        ⟨_, same | same⟩ | ⟨completed, _⟩
      · exact goes_on_of_same config same
      · exact drained.trans (goes_on_of_same config same)
      · exact absurd (unreset.symm.trans completed) Bool.false_ne_true
  | archiveAndReset settle archiving readings archivePath archive identity =>
      have drained := state.drain_goes_on config settle.drain.drained
      rcases state.archive_and_reset_cases config identity readings settle archiving archivePath
          archive with ⟨_, same | same⟩ | ⟨completed, _⟩
      · exact goes_on_of_same config same
      · exact drained.trans (goes_on_of_same config same)
      · exact absurd (unreset.symm.trans completed) Bool.false_ne_true
  | panicCutoff cutoff => exact .refl _
  | captureDropped => exact .refl _

end WriterState

end Refinement

end Gilbreth.Store
