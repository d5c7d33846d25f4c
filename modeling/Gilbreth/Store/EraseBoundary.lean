import Gilbreth.Core.Stream
import Gilbreth.Store.WriterSteps

/-!
# The secure-erase boundary

The boundary is the wall-clock projection of the instant the erase completed,
frozen; a late row is compared with it through the timebase of the moment. The
comparison separates the rows before that instant from the others exactly while
the timebase projects the instant back onto the boundary.
-/

set_option autoImplicit false

namespace Gilbreth.Store

open Gilbreth.Core

/-- Whole milliseconds from one instant to a later one. -/
def wholeMs (earlier later : Instant) : Int :=
  ((later.nanos - earlier.nanos).toNat / millisecond : Nat)

def oneMsBefore (instant : Instant) : Instant := ⟨instant.nanos - millisecond⟩

/-- The boundary lies after the projections of all rows a millisecond or more
older than the erase, and not after those of the newer ones. -/
def BoundaryBetween (timebase : SessionTimebase) (erasedAt : Instant) (boundary : I64) : Prop :=
  boundary ≤ timebase.timestampFor erasedAt ∧
    timebase.timestampFor (oneMsBefore erasedAt) < boundary

section Projection

variable (timebase : SessionTimebase) {instant : Instant}

theorem timestamp_for_val_of_le (later : timebase.baseInstant.nanos ≤ instant.nanos)
    (nonneg : 0 ≤ timebase.baseUtcMs.val) :
    (timebase.timestampFor instant).val = min I64.maximum.val
      (timebase.baseUtcMs.val + min I64.maximum.val (wholeMs timebase.baseInstant instant)) := by
  rw [timebase.timestamp_for_of_le later, SatInt.val_sat_add, duration_ms_val]
  simp only [I64.maximum, wholeMs, millisecond]
  omega

theorem timestamp_for_val_of_lt (earlier : instant.nanos < timebase.baseInstant.nanos)
    (nonneg : 0 ≤ timebase.baseUtcMs.val) :
    (timebase.timestampFor instant).val =
      timebase.baseUtcMs.val - min I64.maximum.val (wholeMs instant timebase.baseInstant) := by
  have above := timebase.baseUtcMs.upper
  rw [timebase.timestamp_for_of_lt earlier, SatInt.val_sat_sub, duration_ms_val]
  simp only [I64.maximum, wholeMs, millisecond]
  omega

end Projection

/-- The erase completed at the timebase's own instant or a millisecond or more
after it, and its projection did not saturate. -/
def ErasedOnBase (timebase : SessionTimebase) (erasedAt : Instant) : Prop :=
  (erasedAt.nanos = timebase.baseInstant.nanos ∨
      timebase.baseInstant.nanos + millisecond ≤ erasedAt.nanos) ∧
    timebase.baseUtcMs.val + wholeMs timebase.baseInstant erasedAt ≤ I64.maximum.val

theorem fresh_boundary_between_iff {timebase : SessionTimebase} {erasedAt : Instant}
    (later : timebase.baseInstant.nanos ≤ erasedAt.nanos) (nonneg : 0 ≤ timebase.baseUtcMs.val) :
    BoundaryBetween timebase erasedAt (timebase.timestampFor erasedAt) ↔
      ErasedOnBase timebase erasedAt := by
  have projected := timestamp_for_val_of_le timebase later nonneg
  have above := timebase.baseUtcMs.upper
  rw [BoundaryBetween, ErasedOnBase, and_iff_right le_rfl, SatInt.lt_iff, projected]
  by_cases across : (oneMsBefore erasedAt).nanos < timebase.baseInstant.nanos
  · rw [timestamp_for_val_of_lt timebase across nonneg]
    simp only [I64.maximum, wholeMs, oneMsBefore, millisecond] at across above ⊢
    omega
  · rw [timestamp_for_val_of_le timebase (not_lt.mp across) nonneg]
    simp only [I64.maximum, wholeMs, oneMsBefore, millisecond] at across above ⊢
    omega

/-- A rebase keeps the boundary in its place exactly when counting back from the
new base arrives at it. -/
theorem rebased_boundary_between_iff {now erasedAt : Instant} {base boundary : I64}
    (later : erasedAt.nanos ≤ now.nanos) (nonneg : 0 ≤ base.val) :
    BoundaryBetween ⟨now, base⟩ erasedAt boundary ↔
      wholeMs erasedAt now < I64.maximum.val ∧
        base.val - wholeMs erasedAt now = boundary.val := by
  have earlier : (oneMsBefore erasedAt).nanos < now.nanos := by
    simp only [oneMsBefore, millisecond]
    omega
  have before := timestamp_for_val_of_lt ⟨now, base⟩ earlier nonneg
  have at_erase : ((⟨now, base⟩ : SessionTimebase).timestampFor erasedAt).val =
      base.val - min I64.maximum.val (wholeMs erasedAt now) := by
    rcases later.lt_or_eq with strict | same
    · exact timestamp_for_val_of_lt ⟨now, base⟩ strict nonneg
    · have below := base.upper
      rw [timestamp_for_val_of_le ⟨now, base⟩ same.ge nonneg]
      simp only [I64.maximum, wholeMs, millisecond] at below ⊢
      omega
  rw [BoundaryBetween, SatInt.le_iff, SatInt.lt_iff, at_erase, before]
  simp only [I64.maximum, wholeMs, oneMsBefore, millisecond]
  omega

/-- Comparing the timebase with `clock` leaves the boundary in its place: the
drift is not corrected, or the new base counts back to the boundary. -/
def KeepsBoundary (thresholdMs : I64) (erasedAt : Instant) (boundary : I64)
    (sequencer : Sequencer) (clock : Clock) : Prop :=
  ((clock.utcMs.satSub (sequencer.timebase.timestampFor clock.now)).val.natAbs : Int) ≤
      max thresholdMs.val 0 ∨
    (wholeMs erasedAt clock.now < I64.maximum.val ∧
      (sequencer.clampTimestamp clock.utcMs).val - wholeMs erasedAt clock.now = boundary.val)

theorem resynced_boundary_between_iff (thresholdMs : I64) {erasedAt : Instant} {boundary : I64}
    {sequencer : Sequencer} {clock : Clock} (later : erasedAt.nanos ≤ clock.now.nanos)
    (between : BoundaryBetween sequencer.timebase erasedAt boundary) :
    BoundaryBetween (resyncSequencerAt clock thresholdMs sequencer).timebase erasedAt boundary ↔
      KeepsBoundary thresholdMs erasedAt boundary sequencer clock := by
  have nonneg : 0 ≤ (sequencer.clampTimestamp clock.utcMs).val :=
    (unix_now_nonneg clock.sinceEpoch).trans (sequencer.le_clamp_timestamp clock.utcMs)
  have threshold : (max thresholdMs (I64.ofInt 0)).val = max thresholdMs.val 0 :=
    SatInt.val_max _ _
  unfold resyncSequencerAt Sequencer.resync SessionTimebase.resync KeepsBoundary
  dsimp only
  rw [threshold]
  split_ifs with small
  · exact iff_of_true between (Or.inl small)
  · rw [or_iff_right small]
    exact rebased_boundary_between_iff later nonneg

section Runs

variable [Externals]

/-- The gate tells the rows captured a millisecond or more before the erase from
those captured at it or later. -/
structure EraseGateExact (config : WriterConfig) (erasedAt : Instant) (state : WriterState) :
    Prop where
  staleDropped : ∀ readings captured, captured.capturedAt.nanos + millisecond ≤ erasedAt.nanos →
    state.queueCaptured config readings captured = state.countStaleRow
  currentPasses : ∀ captured, erasedAt.nanos ≤ captured.capturedAt.nanos →
    state.eraseGateDrops captured = false

namespace WriterState

variable (config : WriterConfig) (state : WriterState)

section Queue

variable (readings : QueueReadings) (captured : Captured)

theorem queue_gated (gated : state.eraseGateDrops captured = true) :
    state.queueCaptured config readings captured = state.countStaleRow := by
  have admitted := state.admit_captured_eq config readings captured
  rw [if_pos gated] at admitted
  rw [queueCaptured, admitted]
  rfl

theorem queue_diagnostics (passed : state.eraseGateDrops captured = false) :
    (state.queueCaptured config readings captured).diagnostics = state.diagnostics := by
  have admitted : (state.admitCaptured config readings captured).1.diagnostics =
      state.diagnostics := by
    rw [admit_captured_eq, passed, if_neg Bool.false_ne_true]
    split_ifs
    · unfold dropReceived
      split_ifs <;> rfl
    · rfl
  rcases state.queue_captured_cases config readings captured with queued | queued
  · rw [queued]
    exact admitted
  · rw [queued]
    exact admitted

end Queue

theorem erase_gate_exact_iff {erasedAt : Instant} {boundary : I64}
    (frozen : state.eraseCompletionBoundaryMs = some boundary) :
    EraseGateExact config erasedAt state ↔
      BoundaryBetween state.sequencer.timebase erasedAt boundary := by
  have gate : ∀ captured, state.eraseGateDrops captured =
      decide (state.sequencer.timebase.timestampFor captured.capturedAt < boundary) := by
    intro captured
    rw [eraseGateDrops, frozen]
    rfl
  have row : ∀ instant, ∃ captured : Captured, captured.capturedAt = instant :=
    fun instant => ⟨⟨.system, instant, .idle 0⟩, rfl⟩
  constructor
  · intro exact_gate
    constructor
    · obtain ⟨captured, at_erase⟩ := row erasedAt
      have passes := exact_gate.currentPasses captured (at_erase ▸ le_rfl)
      rw [gate, decide_eq_false_iff_not, not_lt, at_erase] at passes
      exact passes
    · obtain ⟨captured, before⟩ := row (oneMsBefore erasedAt)
      have stale : captured.capturedAt.nanos + millisecond ≤ erasedAt.nanos := by
        rw [before]
        exact (Int.sub_add_cancel _ _).le
      have dropped := exact_gate.staleDropped (.clear ⟨erasedAt, none⟩) captured stale
      by_contra missed
      rw [← before] at missed
      have kept := state.queue_diagnostics config (.clear ⟨erasedAt, none⟩) captured
        ((gate captured).trans (decide_eq_false missed))
      rw [dropped] at kept
      have counted := congrArg DiagnosticsCounters.stalePreEraseRowsDropped kept
      simp [countStaleRow] at counted
  · rintro ⟨at_erase, before⟩
    constructor
    · intro readings captured stale
      apply queue_gated
      rw [gate, decide_eq_true_eq]
      refine lt_of_le_of_lt (SessionTimebase.timestamp_for_mono _ ?_) before
      simp only [oneMsBefore]
      omega
    · intro captured current
      rw [gate, decide_eq_false_iff_not, not_lt]
      exact at_erase.trans (SessionTimebase.timestamp_for_mono _ current)

/-- The clock a turn compares the timebase with, if it does. -/
def resyncClock : WriterTurn → Option Clock
  | .heartbeatTick clock _ => some clock
  | .input (.motion captured) readings =>
      if isPowerBoundary captured.payload && !state.eraseGateDrops captured then
        some readings.clock
      else none
  | _ => none

structure ClockStep (turn : WriterTurn) (after : WriterState) : Prop where
  timebase : after.sequencer.timebase =
    ((state.resyncClock turn).elim state.sequencer fun clock =>
      resyncSequencerAt clock config.timebaseDriftThresholdMs state.sequencer).timebase
  boundary : after.eraseCompletionBoundaryMs = state.eraseCompletionBoundaryMs

theorem queue_captured_clock_step (readings : QueueReadings) (captured : Captured) :
    ClockStep config state (.input (.motion captured) readings)
      (state.queueCaptured config readings captured) := by
  have received : ClockStep config state (.input (.motion captured) readings)
      (if state.eraseGateDrops captured then state
        else state.received config readings captured) := by
    constructor
    · simp only [resyncClock, received, resyncForEventIfNeeded]
      cases state.eraseGateDrops captured <;> cases isPowerBoundary captured.payload <;> rfl
    · split_ifs <;> rfl
  have admitted : ClockStep config state (.input (.motion captured) readings)
      (state.admitCaptured config readings captured).1 := by
    rw [admit_captured_eq]
    split_ifs at received ⊢ with gated dropped
    · exact ⟨received.timebase, received.boundary⟩
    · have same := state.drop_received_stream config readings captured
      exact ⟨(congrArg Sequencer.timebase same.sequencer).trans received.timebase,
        same.boundary.trans received.boundary⟩
    · exact ⟨received.timebase, received.boundary⟩
  have same := state.queue_captured_stream config readings captured
  exact ⟨(congrArg Sequencer.timebase same.sequencer).trans admitted.timebase,
    same.boundary.trans admitted.boundary⟩

theorem clock_step_of_same_stream {after : WriterState} {turn : WriterTurn}
    (quiet : state.resyncClock turn = none) (same : SameStream state after) :
    ClockStep config state turn after := by
  constructor
  · rw [quiet]
    exact congrArg Sequencer.timebase same.sequencer
  · exact same.boundary

theorem reemit_clock (now : Instant) (readings : SensitiveContextReason → QueueReadings)
    (reasons : List SensitiveContextReason) :
    let after := reasons.foldl (fun state reason =>
      state.queueCaptured config (readings reason) ⟨.system, now, .sensitiveContextEntered reason⟩)
      state
    after.sequencer.timebase = state.sequencer.timebase ∧
      after.eraseCompletionBoundaryMs = state.eraseCompletionBoundaryMs := by
  induction reasons generalizing state with
  | nil => exact ⟨rfl, rfl⟩
  | cons reason rest induction =>
      have step := state.queue_captured_clock_step config (readings reason)
        ⟨.system, now, .sensitiveContextEntered reason⟩
      have next := induction (state.queueCaptured config (readings reason)
        ⟨.system, now, .sensitiveContextEntered reason⟩)
      exact ⟨next.1.trans step.timebase, next.2.trans step.boundary⟩

theorem erase_completed_clock {created before : WriterState} {start : Clock}
    (anew : StartedAnew before start created) (readings : DeleteReadings) :
    (created.eraseCompleted config readings).sequencer.timebase = ⟨start.now, start.utcMs⟩ ∧
      (created.eraseCompleted config readings).eraseCompletionBoundaryMs =
        some (SessionTimebase.timestampFor ⟨start.now, start.utcMs⟩ readings.completedAt) := by
  obtain ⟨sessionId, fresh⟩ := anew.sequencer
  have reemitted := reemit_clock config
    { created with
      eraseCompletionBoundaryMs :=
        some (created.sequencer.projectedTimestampFor readings.completedAt) }.forgetOpenFocus
    readings.completedAt readings.reemit created.policy.activeSensitiveReasons
  refine ⟨reemitted.1.trans ?_, reemitted.2.trans ?_⟩
  · exact congrArg Sequencer.timebase fresh
  · change some (created.sequencer.projectedTimestampFor readings.completedAt) = _
    rw [fresh]
    rfl

variable [StoreExternals]

theorem turn_clock_step (turn : WriterTurn) (ordinary : turn.isReset = false) :
    ClockStep config state turn (state.turn config turn).1 := by
  cases turn with
  | input input readings =>
      cases input with
      | motion captured => exact state.queue_captured_clock_step config readings captured
      | action action =>
          have step := state.queue_action_step config readings action
          refine ⟨?_, step.boundary⟩
          rcases step.sequencer with same | ⟨capturedAt, advanced⟩
          · exact congrArg Sequencer.timebase same
          · exact (congrArg Sequencer.timebase advanced).trans rfl
      | actionDiag => exact ⟨rfl, rfl⟩
      | rejectedAction => exact ⟨rfl, rfl⟩
  | flushTick flush actionFlush =>
      exact state.clock_step_of_same_stream config rfl
        (state.same_stream_flush_all flush actionFlush)
  | heartbeatTick clock faults => exact ⟨rfl, rfl⟩
  | openFocusTick now fault =>
      exact state.clock_step_of_same_stream config rfl (state.same_stream_beat now fault)
  | pollTick readings =>
      exact state.clock_step_of_same_stream config rfl (state.same_stream_poll readings)
  | forgetFocusAttribution fault => exact ⟨rfl, rfl⟩
  | startRecording now faults command =>
      exact state.clock_step_of_same_stream config rfl
        (state.same_stream_start_recording now faults command)
  | stopRecording now flush actionFlush fault recordSessionId stopReason =>
      exact state.clock_step_of_same_stream config rfl
        (state.same_stream_stop_recording config now flush actionFlush fault recordSessionId
          stopReason)
  | pauseRecording now fault recordSessionId =>
      exact state.clock_step_of_same_stream config rfl
        (state.same_stream_pause_recording now fault recordSessionId)
  | resumeRecording now fault recordSessionId =>
      exact state.clock_step_of_same_stream config rfl
        (state.same_stream_resume_recording now fault recordSessionId)
  | extendCap recordSessionId => exact ⟨rfl, rfl⟩
  | declineRecordRequest now fault requestId => exact ⟨rfl, rfl⟩
  | secureErase settle readings identity => cases ordinary
  | archiveAndReset settle archiving readings archivePath archive identity => cases ordinary
  | panicCutoff cutoff => exact ⟨rfl, rfl⟩
  | captureDropped => exact ⟨rfl, rfl⟩

end WriterState

/-- The clock a turn may compare the timebase with shows `erasedAt` or later. -/
def WriterTurn.ReadsClockAfter (erasedAt : Instant) : WriterTurn → Prop
  | input _ readings => erasedAt.nanos ≤ readings.clock.now.nanos
  | heartbeatTick clock _ => erasedAt.nanos ≤ clock.now.nanos
  | _ => True

theorem WriterTurn.ReadsClockAfter.resync_clock {erasedAt : Instant} {turn : WriterTurn}
    (later : turn.ReadsClockAfter erasedAt) (state : WriterState) :
    ∀ clock ∈ state.resyncClock turn, erasedAt.nanos ≤ clock.now.nanos := by
  intro clock read
  unfold WriterState.resyncClock at read
  split at read
  · exact Option.some.inj read ▸ later
  · split_ifs at read
    · exact Option.some.inj read ▸ later
    · cases read
  · cases read

/-- Whatever clock the turn compares the timebase with leaves the boundary in its
place. -/
def TurnKeepsBoundary (config : WriterConfig) (erasedAt : Instant) (boundary : I64)
    (state : WriterState) (turn : WriterTurn) : Prop :=
  ∀ clock ∈ state.resyncClock turn,
    KeepsBoundary config.timebaseDriftThresholdMs erasedAt boundary state.sequencer clock

variable [StoreExternals]

/-- One turn keeps the boundary between the two kinds of rows exactly when the
clock it compares the timebase with does. -/
theorem boundary_between_step (config : WriterConfig) {erasedAt : Instant} {boundary : I64}
    {state : WriterState} {turn : WriterTurn} (ordinary : turn.isReset = false)
    (later : turn.ReadsClockAfter erasedAt)
    (between : BoundaryBetween state.sequencer.timebase erasedAt boundary) :
    BoundaryBetween (state.turn config turn).1.sequencer.timebase erasedAt boundary ↔
      TurnKeepsBoundary config erasedAt boundary state turn := by
  have instants := later.resync_clock state
  rw [(state.turn_clock_step config turn ordinary).timebase, TurnKeepsBoundary]
  cases read : state.resyncClock turn with
  | none => exact iff_of_true between (fun clock impossible => by cases impossible)
  | some clock =>
      have after := resynced_boundary_between_iff config.timebaseDriftThresholdMs
        (instants clock read) between
      refine after.trans ⟨fun keeps other same => ?_, fun keeps => keeps clock rfl⟩
      exact Option.some.inj same ▸ keeps

/-- After a completed secure erase the gate stays exact along a run exactly when
the erase fell on its session's base and every comparison of the timebase with
the wall clock leaves the boundary in its place. -/
theorem erase_gate_exact_along_run (config : WriterConfig) (state : WriterState)
    (settle : SettleReadings) (readings : DeleteReadings) (identity : SessionIdentity)
    (turns : List WriterTurn)
    (completed : (state.secureErase config settle readings identity).2.newSessionId.isSome = true)
    (started : readings.replacement.start.now.nanos ≤ readings.completedAt.nanos)
    (ordinary : ∀ turn ∈ turns,
      turn.isReset = false ∧ turn.ReadsClockAfter readings.completedAt) :
    let timebase : SessionTimebase :=
      ⟨readings.replacement.start.now, readings.replacement.start.utcMs⟩
    let erased := (state.secureErase config settle readings identity).1
    (∀ before, before <+: turns →
        EraseGateExact config readings.completedAt ((writerMachine config).run erased before)) ↔
      ErasedOnBase timebase readings.completedAt ∧
        (writerMachine config).AllSteps
          (TurnKeepsBoundary config readings.completedAt
            (timebase.timestampFor readings.completedAt)) erased turns := by
  intro timebase erased
  have nonneg : 0 ≤ timebase.baseUtcMs.val := unix_now_nonneg _
  have clock : erased.sequencer.timebase = timebase ∧
      erased.eraseCompletionBoundaryMs = some (timebase.timestampFor readings.completedAt) := by
    rcases state.secure_erase_cases config identity readings settle with
      ⟨failed, _⟩ | ⟨_, created, anew, same⟩
    · rw [failed] at completed
      cases completed
    · change (state.secureErase config settle readings identity).1.sequencer.timebase = _ ∧
        (state.secureErase config settle readings identity).1.eraseCompletionBoundaryMs = _
      rw [same]
      exact WriterState.erase_completed_clock config anew readings
  have at_start : EraseGateExact config readings.completedAt erased ↔
      ErasedOnBase timebase readings.completedAt := by
    rw [erased.erase_gate_exact_iff config clock.2, clock.1]
    exact fresh_boundary_between_iff started nonneg
  have stays : ∀ turn ∈ turns, ∀ state : WriterState,
      state.eraseCompletionBoundaryMs = some (timebase.timestampFor readings.completedAt) →
      ((writerMachine config).step state turn).1.eraseCompletionBoundaryMs =
        some (timebase.timestampFor readings.completedAt) := by
    intro turn member state frozen
    exact (state.turn_clock_step config turn (ordinary turn member).1).boundary.trans frozen
  have along := (writerMachine config).holds_along_iff_all_steps
    (fun state => state.eraseCompletionBoundaryMs =
      some (timebase.timestampFor readings.completedAt))
    (EraseGateExact config readings.completedAt)
    (TurnKeepsBoundary config readings.completedAt (timebase.timestampFor readings.completedAt))
    stays (by
      intro turn member state frozen gate
      have between := (state.erase_gate_exact_iff config frozen).mp gate
      rw [WriterState.erase_gate_exact_iff _ _ (stays turn member state frozen)]
      exact boundary_between_step config (ordinary turn member).1 (ordinary turn member).2 between)
    erased clock.2
  constructor
  · intro exact_along
    have first := exact_along [] List.nil_prefix
    exact ⟨at_start.mp first, (along first).mp exact_along⟩
  · rintro ⟨on_base, steps⟩
    exact (along (at_start.mpr on_base)).mpr steps

end Runs

section

attribute [local instance] asciiExternals bareExternals

private def minutes (count : Int) : Instant := ⟨count * 60000000000⟩

/-- The wall clock `shift` minutes ahead of where it was set. -/
private def wallClock (count shift : Nat) : Clock :=
  ⟨minutes count, some ((1000000 + count + shift) * 60000000000)⟩

private def erasingWriter : WriterState :=
  .started .empty (.new 1 ⟨minutes 50, .ofInt 60000000000⟩) .identity

private def erasingConfig : WriterConfig := ⟨200, .ofInt 5000⟩

private def hourReadings : DeleteReadings := .clear (wallClock 60 0) "6d1f"

private def erasedWriter : WriterState :=
  (erasingWriter.secureErase erasingConfig (.clear (minutes 60)) hourReadings
    ⟨"1.0.0", none, none, none⟩).1

private theorem erased_completed :
    (erasingWriter.secureErase erasingConfig (.clear (minutes 60)) hourReadings
      ⟨"1.0.0", none, none, none⟩).2.newSessionId.isSome = true := by
  decide +kernel

/-- A steady wall clock keeps the gate exact. -/
theorem erase_gate_exact_along_run_steady :
    EraseGateExact erasingConfig (minutes 60)
      ((writerMachine erasingConfig).run erasedWriter
        [.heartbeatTick (wallClock 70 0) ⟨none, none, none, none⟩]) := by
  refine (erase_gate_exact_along_run erasingConfig erasingWriter (.clear (minutes 60)) hourReadings
    ⟨"1.0.0", none, none, none⟩ [.heartbeatTick (wallClock 70 0) ⟨none, none, none, none⟩]
    erased_completed (by decide) ?_).mpr ?_ _ (List.prefix_refl _)
  · intro turn only
    rw [List.mem_singleton.mp only]
    have later : hourReadings.completedAt.nanos ≤ (wallClock 70 0).now.nanos := by decide
    exact ⟨rfl, later⟩
  · refine ⟨⟨Or.inl rfl, by decide⟩, ?_, trivial⟩
    rintro clock ⟨⟩
    exact Or.inl (by decide +kernel)

private def staleRow : Captured := ⟨.system, minutes 50, .idle 60000⟩

private def currentRow : Captured := ⟨.system, minutes 65, .idle 60000⟩

/-- The wall clock moves an hour forward before the next heartbeat and a row of
ten minutes before the erase is stamped; it moves an hour back and a row of five
minutes after the erase is taken for a stale one. -/
theorem wall_clock_jump_moves_the_erase_gate :
    (erasingWriter.secureErase erasingConfig (.clear (minutes 60)) hourReadings
        ⟨"1.0.0", none, none, none⟩).2.newSessionId = some 1 ∧
      staleRow.capturedAt.nanos + millisecond ≤ hourReadings.completedAt.nanos ∧
      (((writerMachine erasingConfig).run erasedWriter
        [.heartbeatTick (wallClock 66 60) ⟨none, none, none, none⟩,
          .input (.motion staleRow) (.clear (wallClock 66 60))]).stamped.map
        EventEnvelope.payload = [.idle 60000]) ∧
      hourReadings.completedAt.nanos ≤ currentRow.capturedAt.nanos ∧
      ((writerMachine erasingConfig).run erasedWriter
        [.heartbeatTick ⟨minutes 66, some (1000006 * 60000000000)⟩
          ⟨none, none, none, none⟩]).eraseGateDrops currentRow = true := by
  decide +kernel

end

end Gilbreth.Store
