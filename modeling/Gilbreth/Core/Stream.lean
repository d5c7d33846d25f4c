import Gilbreth.Core.Sequencer
import Mathlib.Data.List.Range

/-!
# One ordered stream per session

The sequencer as a machine over stamps of events, stamps of actions and drift
corrections in any order. Sequence numbers count the stamps; timestamps never
decrease, because every stamp is clamped to the last one and no correction
touches that memory.
-/

set_option autoImplicit false

namespace Gilbreth.Core

namespace SessionTimebase

variable (timebase : SessionTimebase)

theorem timestamp_for_of_le {capturedAt : Instant}
    (later : timebase.baseInstant.nanos ≤ capturedAt.nanos) :
    timebase.timestampFor capturedAt = timebase.baseUtcMs.satAdd
      (durationMsI64 (capturedAt.nanos - timebase.baseInstant.nanos).toNat) := by
  rw [timestampFor, checkedDurationSince, if_pos later]

theorem timestamp_for_of_lt {capturedAt : Instant}
    (earlier : capturedAt.nanos < timebase.baseInstant.nanos) :
    timebase.timestampFor capturedAt = timebase.baseUtcMs.satSub
      (durationMsI64 (timebase.baseInstant.nanos - capturedAt.nanos).toNat) := by
  rw [timestampFor, checkedDurationSince, if_neg (not_le.mpr earlier)]

theorem timestamp_for_base : timebase.timestampFor timebase.baseInstant = timebase.baseUtcMs := by
  rw [timestamp_for_of_le timebase le_rfl, Int.sub_self]
  apply SatInt.ext
  rw [SatInt.val_sat_add]
  have zero := duration_ms_zero
  have above := timebase.baseUtcMs.lower
  have below := timebase.baseUtcMs.upper
  simp only [Int.toNat_zero, zero]
  omega

theorem timestamp_for_mono {early late : Instant} (ordered : early.nanos ≤ late.nanos) :
    timebase.timestampFor early ≤ timebase.timestampFor late := by
  by_cases after : timebase.baseInstant.nanos ≤ early.nanos
  · rw [timestamp_for_of_le timebase after, timestamp_for_of_le timebase (after.trans ordered)]
    exact SatInt.sat_add_le_sat_add _ (duration_ms_mono (by omega))
  have before := not_le.mp after
  by_cases across : timebase.baseInstant.nanos ≤ late.nanos
  · rw [timestamp_for_of_lt timebase before, timestamp_for_of_le timebase across]
    exact (SatInt.sat_sub_le _ _ (duration_ms_nonneg _)).trans
      (SatInt.le_sat_add _ _ (duration_ms_nonneg _))
  · rw [timestamp_for_of_lt timebase before, timestamp_for_of_lt timebase (not_le.mp across)]
    exact SatInt.sat_sub_le_sat_sub _ (duration_ms_mono (by omega))

theorem resync_some {nowInstant : Instant} {nowUtcMs thresholdMs : I64}
    {minTimestampMs : Option I64} {correction : DriftCorrection}
    (corrected : (timebase.resync nowInstant nowUtcMs thresholdMs minTimestampMs).2 =
      some correction) :
    (timebase.resync nowInstant nowUtcMs thresholdMs minTimestampMs).1 =
      ⟨nowInstant, minTimestampMs.elim nowUtcMs (max nowUtcMs)⟩ := by
  unfold resync at corrected ⊢
  dsimp only at corrected ⊢
  split_ifs at corrected ⊢ with small
  rfl

theorem resync_none {nowInstant : Instant} {nowUtcMs thresholdMs : I64}
    {minTimestampMs : Option I64}
    (uncorrected : (timebase.resync nowInstant nowUtcMs thresholdMs minTimestampMs).2 = none) :
    (timebase.resync nowInstant nowUtcMs thresholdMs minTimestampMs).1 = timebase ∧
      ((nowUtcMs.satSub (timebase.timestampFor nowInstant)).val.natAbs : Int) ≤
        max thresholdMs.val 0 := by
  unfold resync at uncorrected ⊢
  dsimp only at uncorrected ⊢
  split_ifs at uncorrected ⊢ with small
  refine ⟨rfl, ?_⟩
  rw [SatInt.val_max] at small
  exact small

end SessionTimebase

namespace Sequencer

theorem le_clamp_timestamp (sequencer : Sequencer) (tsUnixMs : I64) :
    tsUnixMs ≤ sequencer.clampTimestamp tsUnixMs := by
  unfold clampTimestamp
  cases sequencer.lastTsUnixMs with
  | none => exact le_rfl
  | some last => exact le_max_left _ _

theorem last_le_clamp_timestamp (sequencer : Sequencer) (tsUnixMs : I64) :
    ∀ last ∈ sequencer.lastTsUnixMs, last ≤ sequencer.clampTimestamp tsUnixMs := by
  intro last stamped
  rw [clampTimestamp, Option.mem_def.mp stamped]
  exact le_max_right _ _

/-- Whether the drift is corrected or not, numbering and memory are untouched. -/
theorem resync_keeps (sequencer : Sequencer) (nowInstant : Instant) (nowUtcMs thresholdMs : I64) :
    (sequencer.resync nowInstant nowUtcMs thresholdMs).1.nextSeq = sequencer.nextSeq ∧
      (sequencer.resync nowInstant nowUtcMs thresholdMs).1.lastTsUnixMs =
        sequencer.lastTsUnixMs := ⟨rfl, rfl⟩

theorem advance_bounds (sequencer : Sequencer) (capturedAt : Instant)
    (bounded : sequencer.nextSeq ≤ u64Max) :
    (sequencer.advance capturedAt).nextSeq ≤ u64Max ∧
      sequencer.nextSeq ≤ (sequencer.advance capturedAt).nextSeq := by
  unfold advance
  dsimp only
  omega

theorem advance_dates (sequencer : Sequencer) (capturedAt : Instant) :
    ∀ last ∈ sequencer.lastTsUnixMs, ∃ later ∈ (sequencer.advance capturedAt).lastTsUnixMs,
      last ≤ later := by
  intro last stamped
  exact ⟨_, rfl, sequencer.last_le_clamp_timestamp _ last stamped⟩

end Sequencer

inductive SequencerInput where
  | stamp (captured : Captured)
  | stampAction (capture : ActionCapture)
  | resync (nowInstant : Instant) (nowUtcMs thresholdMs : I64)

inductive SequencerOutput where
  | event (envelope : EventEnvelope)
  | action (stamped : StampedAction)
  | resynced (correction : Option DriftCorrection)

def SequencerInput.isStamp : SequencerInput → Bool
  | stamp _ => true
  | stampAction _ => true
  | resync .. => false

/-- The sequence number and timestamp a call gave out. -/
def SequencerOutput.stamped : SequencerOutput → Option (Nat × I64)
  | event envelope => some (envelope.seq, envelope.tsUnixMs)
  | action stamped => some (stamped.seq, stamped.tsUnixMs)
  | resynced _ => none

def sequencerMachine : Machine Sequencer SequencerInput SequencerOutput where
  step sequencer input :=
    match input with
    | .stamp captured => ((sequencer.stamp captured).1, .event (sequencer.stamp captured).2)
    | .stampAction capture =>
        ((sequencer.stampAction capture).1, .action (sequencer.stampAction capture).2)
    | .resync nowInstant nowUtcMs thresholdMs =>
        ((sequencer.resync nowInstant nowUtcMs thresholdMs).1,
          .resynced (sequencer.resync nowInstant nowUtcMs thresholdMs).2)

/-- Everything stamped in a run, in stamping order. -/
def stampsOf (sequencer : Sequencer) (inputs : List SequencerInput) : List (Nat × I64) :=
  (sequencerMachine.outputs sequencer inputs).filterMap SequencerOutput.stamped

/-- One step either stamps, with the next number and a clamped time, or leaves
numbering and memory alone. -/
theorem sequencer_step_cases (sequencer : Sequencer) (input : SequencerInput) :
    (∃ capturedAt, input.isStamp = true ∧
      (sequencerMachine.step sequencer input).1 = sequencer.advance capturedAt ∧
      (sequencerMachine.step sequencer input).2.stamped =
        some (sequencer.nextSeq, sequencer.timestampFor capturedAt)) ∨
    (input.isStamp = false ∧
      (sequencerMachine.step sequencer input).1.nextSeq = sequencer.nextSeq ∧
      (sequencerMachine.step sequencer input).1.lastTsUnixMs = sequencer.lastTsUnixMs ∧
      (sequencerMachine.step sequencer input).2.stamped = none) := by
  cases input with
  | stamp captured => exact Or.inl ⟨captured.capturedAt, rfl, rfl, rfl⟩
  | stampAction capture => exact Or.inl ⟨capture.capturedAt, rfl, rfl, rfl⟩
  | resync nowInstant nowUtcMs thresholdMs => exact Or.inr ⟨rfl, rfl, rfl, rfl⟩

theorem stamps_of_cons (sequencer : Sequencer) (input : SequencerInput)
    (rest : List SequencerInput) :
    stampsOf sequencer (input :: rest) =
      (sequencerMachine.step sequencer input).2.stamped.toList ++
        stampsOf (sequencerMachine.step sequencer input).1 rest := by
  unfold stampsOf
  rw [Machine.outputs_cons]
  cases stamped : (sequencerMachine.step sequencer input).2.stamped with
  | none => rw [List.filterMap_cons_none stamped]; rfl
  | some stamp => rw [List.filterMap_cons_some stamped]; rfl

/-- The numbers count up from the next one, as long as the counter does not
reach its ceiling before the last of them. -/
theorem stamp_numbers (sequencer : Sequencer) (inputs : List SequencerInput)
    (room : sequencer.nextSeq + inputs.countP SequencerInput.isStamp ≤ u64Max + 1) :
    (stampsOf sequencer inputs).map Prod.fst =
      List.range' sequencer.nextSeq (inputs.countP SequencerInput.isStamp) := by
  induction inputs generalizing sequencer with
  | nil => rfl
  | cons input rest induction =>
      rw [stamps_of_cons, List.map_append]
      rcases sequencer_step_cases sequencer input with
        ⟨capturedAt, stamps, next, stamped⟩ | ⟨silent, number, _, unstamped⟩
      · rw [List.countP_cons_of_pos stamps] at room ⊢
        have step : (sequencerMachine.step sequencer input).1.nextSeq =
            min u64Max (sequencer.nextSeq + 1) := by rw [next]; rfl
        rw [induction _ (by rw [step]; omega), step, stamped, List.range'_succ]
        rcases Nat.eq_zero_or_pos (rest.countP SequencerInput.isStamp) with none_left | some_left
        · rw [none_left]; rfl
        · rw [min_eq_right (by omega)]; rfl
      · rw [List.countP_cons_of_neg (by simp [silent])] at room ⊢
        rw [induction _ (by rw [number]; exact room), number, unstamped]
        rfl

theorem stamp_times (sequencer : Sequencer) (inputs : List SequencerInput) :
    ((stampsOf sequencer inputs).map Prod.snd).Pairwise (· ≤ ·) ∧
      ∀ last ∈ sequencer.lastTsUnixMs, ∀ time ∈ (stampsOf sequencer inputs).map Prod.snd,
        last ≤ time := by
  induction inputs generalizing sequencer with
  | nil => exact ⟨List.Pairwise.nil, by simp [stampsOf]⟩
  | cons input rest induction =>
      obtain ⟨sorted, above⟩ := induction (sequencerMachine.step sequencer input).1
      rw [stamps_of_cons, List.map_append]
      rcases sequencer_step_cases sequencer input with
        ⟨capturedAt, _, next, stamped⟩ | ⟨_, _, memory, unstamped⟩
      · have remembered : (sequencerMachine.step sequencer input).1.lastTsUnixMs =
            some (sequencer.timestampFor capturedAt) := by rw [next]; rfl
        have later := above _ (Option.mem_def.mpr remembered)
        rw [stamped]
        refine ⟨List.pairwise_cons.mpr ⟨later, sorted⟩, ?_⟩
        intro last known time member
        have first : last ≤ sequencer.timestampFor capturedAt :=
          sequencer.last_le_clamp_timestamp _ last known
        rcases List.mem_cons.mp member with rfl | rest_member
        · exact first
        · exact first.trans (later time rest_member)
      · rw [memory] at above
        rw [unstamped]
        exact ⟨sorted, above⟩

theorem run_last_timestamp (sequencer : Sequencer) (inputs : List SequencerInput) :
    (sequencerMachine.run sequencer inputs).lastTsUnixMs =
      (((stampsOf sequencer inputs).map Prod.snd).getLast?).or sequencer.lastTsUnixMs := by
  induction inputs generalizing sequencer with
  | nil => rfl
  | cons input rest induction =>
      rw [Machine.run_cons, induction, stamps_of_cons, List.map_append, List.getLast?_append]
      rcases sequencer_step_cases sequencer input with
        ⟨capturedAt, _, next, stamped⟩ | ⟨_, _, memory, unstamped⟩
      · rw [next, stamped, Option.or_assoc]
        rfl
      · rw [memory, unstamped]
        simp

/-- What a drift correction promises, given the last time stamped before it. -/
structure ResyncSound (sequencer : Sequencer) (lastStamped : Option I64) (nowInstant : Instant)
    (nowUtcMs thresholdMs : I64) : Prop where
  corrected : ∀ correction,
    (sequencer.resync nowInstant nowUtcMs thresholdMs).2 = some correction →
    (∀ captured : Captured, captured.capturedAt = nowInstant →
      ((sequencer.resync nowInstant nowUtcMs thresholdMs).1.stamp captured).2.tsUnixMs =
        lastStamped.elim nowUtcMs (max nowUtcMs)) ∧
    ∀ capture : ActionCapture, capture.capturedAt = nowInstant →
      ((sequencer.resync nowInstant nowUtcMs thresholdMs).1.stampAction capture).2.tsUnixMs =
        lastStamped.elim nowUtcMs (max nowUtcMs)
  uncorrected : (sequencer.resync nowInstant nowUtcMs thresholdMs).2 = none →
    (sequencer.resync nowInstant nowUtcMs thresholdMs).1 = sequencer ∧
    ((nowUtcMs.satSub (sequencer.projectedTimestampFor nowInstant)).val.natAbs : Int) ≤
      max thresholdMs.val 0 ∧
    (thresholdMs.val < I64.maximum.val →
      ((nowUtcMs.val - (sequencer.projectedTimestampFor nowInstant).val).natAbs : Int) ≤
        max thresholdMs.val 0)

theorem corrected_timestamp (sequencer : Sequencer) {nowInstant : Instant}
    {nowUtcMs thresholdMs : I64} {correction : DriftCorrection}
    (corrected : (sequencer.resync nowInstant nowUtcMs thresholdMs).2 = some correction) :
    (sequencer.resync nowInstant nowUtcMs thresholdMs).1.timestampFor nowInstant =
      sequencer.lastTsUnixMs.elim nowUtcMs (max nowUtcMs) := by
  have moved : (sequencer.resync nowInstant nowUtcMs thresholdMs).1.timebase =
      ⟨nowInstant, sequencer.lastTsUnixMs.elim nowUtcMs (max nowUtcMs)⟩ :=
    sequencer.timebase.resync_some corrected
  have projected := SessionTimebase.timestamp_for_base
    ⟨nowInstant, sequencer.lastTsUnixMs.elim nowUtcMs (max nowUtcMs)⟩
  rw [Sequencer.timestampFor, moved, projected, Sequencer.clampTimestamp,
    (sequencer.resync_keeps nowInstant nowUtcMs thresholdMs).2]
  cases sequencer.lastTsUnixMs with
  | none => rfl
  | some last => exact max_eq_left (le_max_right _ _)

theorem resync_sound (sequencer : Sequencer) (nowInstant : Instant) (nowUtcMs thresholdMs : I64) :
    ResyncSound sequencer sequencer.lastTsUnixMs nowInstant nowUtcMs thresholdMs where
  corrected correction corrected := by
    have projected := corrected_timestamp sequencer corrected
    constructor
    · rintro captured rfl
      exact projected
    · rintro capture rfl
      exact projected
  uncorrected uncorrected := by
    obtain ⟨same, drift⟩ := sequencer.timebase.resync_none uncorrected
    refine ⟨?_, drift, ?_⟩
    · rw [Sequencer.resync, same]
    · intro bounded
      have exact_drift := SatInt.val_sat_sub nowUtcMs (sequencer.projectedTimestampFor nowInstant)
      rw [Sequencer.projectedTimestampFor] at exact_drift ⊢
      simp only [I64.maximum] at bounded
      omega

/-- One ordered stream per session: the numbers are 1, 2, 3, ..., the times never
decrease, and every drift correction on the way keeps its promise. -/
theorem session_stream_ordered (sessionId : Int) (timebase : SessionTimebase)
    (inputs : List SequencerInput)
    (few : inputs.countP SequencerInput.isStamp ≤ u64Max) :
    (stampsOf (.new sessionId timebase) inputs).map Prod.fst =
      List.range' 1 (inputs.countP SequencerInput.isStamp) ∧
    ((stampsOf (.new sessionId timebase) inputs).map Prod.snd).Pairwise (· ≤ ·) ∧
    ∀ before nowInstant nowUtcMs thresholdMs after,
      inputs = before ++ .resync nowInstant nowUtcMs thresholdMs :: after →
      ResyncSound (sequencerMachine.run (.new sessionId timebase) before)
        (((stampsOf (.new sessionId timebase) before).map Prod.snd).getLast?)
        nowInstant nowUtcMs thresholdMs := by
  refine ⟨?_, ?_, ?_⟩
  · apply stamp_numbers
    change 1 + inputs.countP SequencerInput.isStamp ≤ u64Max + 1
    omega
  · exact (stamp_times _ inputs).1
  · intro before nowInstant nowUtcMs thresholdMs after _
    have memory := run_last_timestamp (.new sessionId timebase) before
    have fresh : (Sequencer.new sessionId timebase).lastTsUnixMs = none := rfl
    rw [fresh, Option.or_none] at memory
    rw [← memory]
    exact resync_sound _ nowInstant nowUtcMs thresholdMs

/-- A clock that jumps back an hour between two stamps. -/
theorem session_stream_ordered_backward_jump :
    let start : SessionTimebase := ⟨⟨0⟩, I64.ofInt 5000000⟩
    let row : Captured := ⟨.system, ⟨1000000⟩, .capturePaused⟩
    let inputs : List SequencerInput :=
      [.stamp row, .resync ⟨2000000⟩ (I64.ofInt 1400000) (I64.ofInt 2000), .stamp row]
    (stampsOf (.new 1 start) inputs).map Prod.fst = [1, 2] ∧
      ((stampsOf (.new 1 start) inputs).map Prod.snd).Pairwise (· ≤ ·) := by
  have stream := session_stream_ordered 1 ⟨⟨0⟩, I64.ofInt 5000000⟩
    [.stamp ⟨.system, ⟨1000000⟩, .capturePaused⟩,
      .resync ⟨2000000⟩ (I64.ofInt 1400000) (I64.ofInt 2000),
      .stamp ⟨.system, ⟨1000000⟩, .capturePaused⟩] (by decide)
  exact ⟨stream.1, stream.2.1⟩

end Gilbreth.Core
