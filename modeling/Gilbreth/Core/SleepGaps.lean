import Gilbreth.Core.Power

/-!
# Which sleep gaps are reported

Every call with a clock reading becomes the baseline of the next. A gap between two
readings while the monitor is awake is reported by an unmatched wake and by the divergence
poll; a suspend edge and a duplicate wake take the new baseline and say nothing of it.
-/

set_option autoImplicit false

namespace Gilbreth.Core

abbrev ClockReading := Instant × UInt64

/-- The reading a call consumes, where the spans-sleep clock answered. -/
def PowerCall.reading : PowerCall → Option ClockReading
  | .willSleep sample => sample.continuousMs.map (sample.capturedAt, ·)
  | .didWake sample => sample.continuousMs.map (sample.capturedAt, ·)
  | .pollDivergence now continuousMs => continuousMs.map (now, ·)
  | .pollStatus .. => none
  | .reseed => none

def clockReadings (calls : List PowerCall) : List ClockReading :=
  calls.filterMap PowerCall.reading

def ClocksMonotone (calls : List PowerCall) : Prop :=
  (clockReadings calls).Pairwise fun earlier later =>
    earlier.1.nanos ≤ later.1.nanos ∧ earlier.2.toNat ≤ later.2.toNat

/-- How much further the spans-sleep clock advanced, in nanoseconds. -/
def sleptNanos (earlier later : ClockReading) : Int :=
  ((later.2.toNat : Int) - earlier.2.toNat) * 1000000 - (later.1.nanos - earlier.1.nanos)

/-- The same in milliseconds, the instants counted in whole ones. -/
def sleptMs (earlier later : ClockReading) : Int :=
  ((later.2.toNat : Int) - earlier.2.toNat) - (later.1.nanos - earlier.1.nanos) / 1000000

def LargeGap (earlier later : ClockReading) : Prop := 30000 * 1000000 < sleptNanos earlier later

/-- A recovered row with the gap, alone or before a resume. -/
def ReportsGap (outcome : PowerOutcome) (earlier later : ClockReading) : Prop :=
  ∃ boundary gapMs, outcome = .boundary (some boundary) ∧
    (UInt64.toNat gapMs : Int) = sleptMs earlier later ∧
    (boundary.rows = [recoveredRow later.1 gapMs] ∨
      boundary.rows = [recoveredRow later.1 gapMs, resumeRow later.1 (some later.2) false])

namespace PowerMonitor

/-- What a call that meets a large gap while awake answers, for every such call of a run. -/
def AtLargeGaps (calls : List PowerCall)
    (answers : PowerMonitor → PowerCall → ClockReading → ClockReading → Prop) : Prop :=
  ∀ before call later earlier now, calls = before ++ call :: later →
    (clockReadings before).getLast? = some earlier → call.reading = some now →
    LargeGap earlier now → (machine.run new before).suspended = false →
    answers (machine.run new before) call earlier now

/-- Every large gap met while awake is reported by the call that meets it. -/
def NoGapSwallowed (calls : List PowerCall) : Prop :=
  AtLargeGaps calls fun monitor call earlier now =>
    ReportsGap (machine.step monitor call).2 earlier now

/-- A suspend edge, or a wake taken for a repeated one. -/
def rebaselinesSilently (monitor : PowerMonitor) : PowerCall → Bool
  | .willSleep _ => true
  | .didWake sample => monitor.duplicateWake sample
  | _ => false

theorem rebaseline_sample (monitor : PowerMonitor) (capturedAt : Instant)
    (continuousMs : Option UInt64) :
    (monitor.rebaseline capturedAt continuousMs).divergenceSample =
      (continuousMs.map (capturedAt, ·)).or monitor.divergenceSample := by
  cases continuousMs with
  | none => rfl
  | some current => rfl

theorem poll_status_sample (monitor : PowerMonitor) (now : Instant) (force : Bool)
    (snapshot : Option PowerStatusSnapshot) :
    (monitor.pollStatus now force snapshot).1.divergenceSample = monitor.divergenceSample := by
  cases snapshot with
  | none =>
      unfold pollStatus
      dsimp only
      split_ifs <;> rfl
  | some snap =>
      unfold pollStatus
      dsimp only
      split_ifs <;> rfl

theorem step_sample (monitor : PowerMonitor) (call : PowerCall) :
    (monitor.step call).1.divergenceSample = call.reading.or monitor.divergenceSample := by
  cases call with
  | willSleep sample =>
      unfold step onWillSleep
      dsimp only [PowerCall.reading]
      split_ifs
      · exact rebaseline_sample _ _ _
      · exact rebaseline_sample _ _ _
  | didWake sample =>
      unfold step onDidWake
      dsimp only [PowerCall.reading]
      split_ifs
      · exact rebaseline_sample _ _ _
      · exact rebaseline_sample _ _ _
      · dsimp only
        rw [rebaseline_sample]
        cases sample.continuousMs with
        | none => rfl
        | some current => rfl
  | pollDivergence now continuousMs =>
      cases continuousMs with
      | none => simp [step, pollDivergence, divergenceMs, PowerCall.reading]
      | some current =>
          cases baseline : monitor.divergenceSample with
          | none => simp [step, pollDivergence, divergenceMs, baseline, PowerCall.reading]
          | some sample =>
              simp only [step, pollDivergence, divergenceMs, baseline, PowerCall.reading]
              split_ifs <;> rfl
  | pollStatus now force snapshot => exact monitor.poll_status_sample now force snapshot
  | reseed => rfl

theorem run_sample (monitor : PowerMonitor) (calls : List PowerCall) :
    (machine.run monitor calls).divergenceSample =
      (clockReadings calls).getLast?.or monitor.divergenceSample := by
  induction calls generalizing monitor with
  | nil => rfl
  | cons call calls induction =>
      have next : (machine.step monitor call).1.divergenceSample =
          call.reading.or monitor.divergenceSample := monitor.step_sample call
      rw [Machine.run_cons, induction, next]
      cases reading : call.reading with
      | none => rw [clockReadings, clockReadings, List.filterMap_cons_none reading, Option.none_or]
      | some now =>
          rw [clockReadings, clockReadings, List.filterMap_cons_some reading, List.getLast?_cons]
          cases (calls.filterMap PowerCall.reading).getLast? <;> rfl

theorem large_gap_rows {monitor : PowerMonitor} {earlier now : ClockReading}
    (baseline : monitor.divergenceSample = some earlier)
    (ordered : earlier.1.nanos ≤ now.1.nanos) (large : LargeGap earlier now) :
    ∃ gapMs, monitor.recoveredRows now.1 (some now.2) = [recoveredRow now.1 gapMs] ∧
      (UInt64.toNat gapMs : Int) = sleptMs earlier now := by
  let gapMs := saturatingSub (saturatingSub now.2 earlier.2)
    (durationMs (saturatingDurationSince now.1 earlier.1))
  have measured : (monitor.divergenceMs now.1 (some now.2)).2 = some gapMs := by
    simp [divergenceMs, baseline, gapMs]
  have bounded := now.2.toNat_lt
  have value : gapMs.toNat = (now.2.toNat - earlier.2.toNat) -
      min ((now.1.nanos - earlier.1.nanos).toNat / 1000000) 18446744073709551615 := by
    simp only [gapMs, saturating_sub_to_nat, duration_ms_to_nat, saturatingDurationSince]
  have exact : (gapMs.toNat : Int) = sleptMs earlier now := by
    simp only [LargeGap, sleptNanos] at large
    simp only [sleptMs, value]
    omega
  have missed : missedPowerBoundaryThresholdMs < gapMs := by
    rw [UInt64.lt_iff_toNat_lt]
    simp only [LargeGap, sleptNanos] at large
    simp only [sleptMs] at exact
    have threshold : missedPowerBoundaryThresholdMs.toNat = 30000 := rfl
    omega
  exact ⟨gapMs, by simp [recoveredRows, measured, missed], exact⟩

/-- At a large gap while awake, a call reports it unless it rebaselines silently. -/
theorem reports_iff {monitor : PowerMonitor} {call : PowerCall} {earlier now : ClockReading}
    (awake : monitor.suspended = false) (baseline : monitor.divergenceSample = some earlier)
    (reading : call.reading = some now) (ordered : earlier.1.nanos ≤ now.1.nanos)
    (large : LargeGap earlier now) :
    ReportsGap (machine.step monitor call).2 earlier now ↔
      monitor.rebaselinesSilently call = false := by
  have ⟨gapMs, rows, exact⟩ := large_gap_rows baseline ordered large
  change ReportsGap (monitor.step call).2 earlier now ↔ _
  cases call with
  | willSleep sample =>
      have asked := monitor.on_will_sleep_awake sample awake
      simp only [step, asked, rebaselinesSilently, Bool.true_eq_false, iff_false]
      rintro ⟨boundary, gap, same, _, listed⟩
      cases same
      simp [suspendRow, recoveredRow] at listed
  | didWake sample =>
      have ⟨current, answered, same⟩ := Option.map_eq_some_iff.mp reading
      subst same
      cases duplicate : monitor.duplicateWake sample with
      | true =>
          have asked := monitor.on_did_wake_duplicate sample duplicate
          simp only [step, asked, rebaselinesSilently, duplicate, Bool.true_eq_false, iff_false]
          rintro ⟨boundary, gap, same, _⟩
          cases same
      | false =>
          have asked := monitor.on_did_wake_awake sample awake duplicate
          simp only [step, asked, rebaselinesSilently, duplicate, iff_true]
          rw [answered, rows]
          exact ⟨_, gapMs, rfl, exact, Or.inr rfl⟩
  | pollDivergence polled continuousMs =>
      have ⟨current, answered, same⟩ := Option.map_eq_some_iff.mp reading
      subst same answered
      simp only [rebaselinesSilently, iff_true]
      cases monitor.poll_divergence_cases polled (some current) with
      | inl quiet =>
          rw [rows] at quiet
          cases quiet.2.2
      | inr reported =>
          cases reported with
          | inl woke =>
              rw [awake] at woke
              cases woke.1
          | inr missed =>
              simp only [step, missed.2.2.1, rows]
              exact ⟨_, gapMs, rfl, exact, Or.inl rfl⟩
  | pollStatus polled force snapshot => cases reading
  | reseed => cases reading

/-- A run reports every large gap exactly when no suspend edge and no repeated wake meets
one while the monitor is awake. -/
theorem no_gap_swallowed_iff (calls : List PowerCall) (monotone : ClocksMonotone calls) :
    NoGapSwallowed calls ↔
      AtLargeGaps calls fun monitor call _ _ => monitor.rebaselinesSilently call = false := by
  have agree : ∀ before call later earlier now, calls = before ++ call :: later →
      (clockReadings before).getLast? = some earlier → call.reading = some now →
      LargeGap earlier now → (machine.run new before).suspended = false →
      (ReportsGap (machine.step (machine.run new before) call).2 earlier now ↔
        (machine.run new before).rebaselinesSilently call = false) := by
    intro before call later earlier now split last reading large awake
    have baseline : (machine.run new before).divergenceSample = some earlier := by
      rw [run_sample, last]
      rfl
    apply reports_iff awake baseline reading _ large
    have both := monotone
    rw [ClocksMonotone, split, clockReadings, List.filterMap_append,
      List.filterMap_cons_some reading, List.pairwise_append] at both
    exact (both.2.2 earlier (List.mem_of_getLast? last) now List.mem_cons_self).1
  constructor
  · intro reported before call later earlier now split last reading large awake
    exact (agree before call later earlier now split last reading large awake).mp
      (reported before call later earlier now split last reading large awake)
  · intro silent before call later earlier now split last reading large awake
    exact (agree before call later earlier now split last reading large awake).mpr
      (silent before call later earlier now split last reading large awake)

private def quietPoll : PowerCall := .pollDivergence ⟨0⟩ (some 1000)

/-- The instant one second on, the spans-sleep clock a minute. -/
private def minuteLater (edge : PowerEdge) : PowerEdgeSample :=
  ⟨⟨1000000000⟩, some 61000, edge⟩

theorem no_gap_swallowed_at_a_poll :
    ClocksMonotone [quietPoll, .pollDivergence ⟨1000000000⟩ (some 61000)] ∧
      (NoGapSwallowed [quietPoll, .pollDivergence ⟨1000000000⟩ (some 61000)] ↔
        AtLargeGaps [quietPoll, .pollDivergence ⟨1000000000⟩ (some 61000)]
          fun monitor call _ _ => monitor.rebaselinesSilently call = false) := by
  have monotone : ClocksMonotone [quietPoll, .pollDivergence ⟨1000000000⟩ (some 61000)] := by
    simp [ClocksMonotone, clockReadings, PowerCall.reading, quietPoll]
  exact ⟨monotone, no_gap_swallowed_iff _ monotone⟩

/-- A suspend edge and a repeated wake each swallow a gap of 59 s. -/
theorem gap_swallowed :
    ¬NoGapSwallowed [quietPoll, .willSleep (minuteLater .willSleep)] ∧
      ¬NoGapSwallowed [.didWake ⟨⟨0⟩, some 1000, .didWake⟩, .didWake (minuteLater .didWake)] := by
  constructor
  · intro reported
    have ⟨boundary, gapMs, same, _, listed⟩ := reported [quietPoll]
      (.willSleep (minuteLater .willSleep)) [] (⟨0⟩, 1000) (⟨1000000000⟩, 61000) rfl rfl rfl
      (by simp [LargeGap, sleptNanos]) rfl
    cases same
    simp [suspendRow, recoveredRow] at listed
  · intro reported
    have ⟨boundary, gapMs, same, _⟩ := reported [.didWake ⟨⟨0⟩, some 1000, .didWake⟩]
      (.didWake (minuteLater .didWake)) [] (⟨0⟩, 1000) (⟨1000000000⟩, 61000) rfl rfl rfl
      (by simp [LargeGap, sleptNanos]) rfl
    cases same

end PowerMonitor

end Gilbreth.Core
