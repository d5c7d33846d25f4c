import Gilbreth.Core.Event
import Gilbreth.Library.Alternation
import Gilbreth.Library.Machine

/-!
# The power boundary monitor

The monitor pairs suspend and wake notifications. A clock that spans sleep runs ahead of
the instants by the slept time, which stands in for a notification that never came.
-/

set_option autoImplicit false

namespace Gilbreth.Core

def saturatingSub (left right : UInt64) : UInt64 :=
  if right ≤ left then left - right else 0

theorem saturating_sub_to_nat (left right : UInt64) :
    (saturatingSub left right).toNat = left.toNat - right.toNat := by
  rw [saturatingSub]
  by_cases ordered : right ≤ left
  · rw [if_pos ordered, UInt64.toNat_sub_of_le _ _ ordered]
  · rw [if_neg ordered]
    rw [UInt64.le_iff_toNat_le] at ordered
    simp
    omega

def powerResumeDebounce : Nat := 2000000000

def missedPowerBoundaryThresholdMs : UInt64 := 30000

def statusSampleInterval : Nat := 1000000000

inductive PowerEdge where
  | willSleep | didWake
deriving DecidableEq

structure PowerEdgeSample where
  capturedAt : Instant
  continuousMs : Option UInt64
  edge : PowerEdge
deriving DecidableEq

structure PowerStatusSnapshot where
  acOnline : Option Bool
  batteryPercent : Option UInt8
  batterySaver : Option Bool
deriving DecidableEq

structure PowerBoundary where
  closeForeground : Bool
  rows : List Captured
deriving DecidableEq

structure PowerMonitor where
  suspended : Bool
  lastResumeAt : Option Instant
  divergenceSample : Option (Instant × UInt64)
  statusKey : Option (Option Bool × Option Bool × Option UInt8)
  statusBaselined : Bool
  lastStatusAt : Option Instant
deriving DecidableEq

/-- The row of a boundary nobody announced; a gap can contribute no dwell. -/
def recoveredRow (capturedAt : Instant) (gapMs : UInt64) : Captured :=
  ⟨.system, capturedAt, .powerBoundaryRecovered gapMs 0⟩

def suspendRow (capturedAt : Instant) (tickMs : Option UInt64) : Captured :=
  ⟨.system, capturedAt, .powerSuspend tickMs⟩

def resumeRow (capturedAt : Instant) (tickMs : Option UInt64) (matchedSuspend : Bool) :
    Captured :=
  ⟨.system, capturedAt, .powerResume tickMs matchedSuspend⟩

namespace PowerMonitor

def new : PowerMonitor := ⟨false, none, none, none, false, none⟩

def rebaseline (monitor : PowerMonitor) (capturedAt : Instant) (continuousMs : Option UInt64) :
    PowerMonitor :=
  match continuousMs with
  | some continuous => { monitor with divergenceSample := some (capturedAt, continuous) }
  | none => monitor

/-- Spans-sleep minus instant since the last sample; the first sample baselines. -/
def divergenceMs (monitor : PowerMonitor) (now : Instant) (continuousMs : Option UInt64) :
    PowerMonitor × Option UInt64 :=
  match continuousMs, monitor.divergenceSample with
  | none, _ => (monitor, none)
  | some current, none => ({ monitor with divergenceSample := some (now, current) }, none)
  | some current, some (lastAt, lastContinuous) =>
      let instantDelta := durationMs (saturatingDurationSince now lastAt)
      let continuousDelta := saturatingSub current lastContinuous
      (monitor, some (saturatingSub continuousDelta instantDelta))

def onWillSleep (monitor : PowerMonitor) (sample : PowerEdgeSample) :
    PowerMonitor × Option PowerBoundary :=
  if monitor.suspended then
    (monitor.rebaseline sample.capturedAt sample.continuousMs, none)
  else
    ({ monitor with suspended := true, lastResumeAt := none }.rebaseline
        sample.capturedAt sample.continuousMs,
      some
        { closeForeground := true
          rows := [suspendRow sample.capturedAt sample.continuousMs] })

/-- A wake within the debounce of the last one, with no suspend between. -/
def duplicateWake (monitor : PowerMonitor) (sample : PowerEdgeSample) : Bool :=
  !monitor.suspended && monitor.lastResumeAt.any fun previous =>
    decide (saturatingDurationSince sample.capturedAt previous ≤ powerResumeDebounce)

def onDidWake (monitor : PowerMonitor) (sample : PowerEdgeSample) :
    PowerMonitor × Option PowerBoundary :=
  if monitor.duplicateWake sample then
    ({ monitor with lastResumeAt := some sample.capturedAt }.rebaseline
        sample.capturedAt sample.continuousMs, none)
  else
    let matchedSuspend := monitor.suspended
    -- The gap is read only where no suspend was seen.
    let measured :=
      if matchedSuspend then (monitor, none)
      else monitor.divergenceMs sample.capturedAt sample.continuousMs
    let recovered :=
      match measured.2 with
      | some gapMs =>
          if missedPowerBoundaryThresholdMs < gapMs then [recoveredRow sample.capturedAt gapMs]
          else []
      | none => []
    ({ measured.1 with
          suspended := false, lastResumeAt := some sample.capturedAt }.rebaseline
        sample.capturedAt sample.continuousMs,
      some
        { closeForeground := !matchedSuspend
          rows := recovered ++
            [resumeRow sample.capturedAt sample.continuousMs matchedSuspend] })

def pollDivergence (monitor : PowerMonitor) (now : Instant) (continuousMs : Option UInt64) :
    PowerMonitor × Option PowerBoundary :=
  match monitor.divergenceMs now continuousMs with
  | (measured, none) => (measured, none)
  | (measured, some gapMs) =>
      let rebased := measured.rebaseline now continuousMs
      if gapMs ≤ missedPowerBoundaryThresholdMs then (rebased, none)
      else if rebased.suspended then
        -- The divergence is the evidence of a wake that was not announced.
        ({ rebased with suspended := false, lastResumeAt := some now },
          some { closeForeground := false, rows := [resumeRow now continuousMs true] })
      else
        ({ rebased with lastResumeAt := some now },
          some { closeForeground := true, rows := [recoveredRow now gapMs] })

/-- The status sample; `snapshot` is what the platform answers when asked. -/
def pollStatus (monitor : PowerMonitor) (now : Instant) (force : Bool)
    (snapshot : Option PowerStatusSnapshot) : PowerMonitor × List Captured :=
  let due := monitor.lastStatusAt.all fun last =>
    decide (statusSampleInterval ≤ saturatingDurationSince now last)
  if !force && !due then (monitor, [])
  else
    let asked := { monitor with lastStatusAt := some now }
    match snapshot with
    | none => (asked, [])
    | some snap =>
        let key := (snap.acOnline, snap.batterySaver, snap.batteryPercent.map (· / 10))
        if !asked.statusBaselined then
          ({ asked with statusBaselined := true, statusKey := some key }, [])
        else if asked.statusKey = some key then (asked, [])
        else
          ({ asked with statusKey := some key },
            [⟨.system, now,
              .powerStatusChanged snap.acOnline snap.batteryPercent snap.batterySaver⟩])

def reseed (monitor : PowerMonitor) : PowerMonitor :=
  { monitor with
    suspended := false, lastResumeAt := none, statusBaselined := true, statusKey := none
    lastStatusAt := none }

@[simp] theorem rebaseline_suspended (monitor : PowerMonitor) (capturedAt : Instant)
    (continuousMs : Option UInt64) :
    (monitor.rebaseline capturedAt continuousMs).suspended = monitor.suspended := by
  cases continuousMs <;> rfl

@[simp] theorem rebaseline_last_resume (monitor : PowerMonitor) (capturedAt : Instant)
    (continuousMs : Option UInt64) :
    (monitor.rebaseline capturedAt continuousMs).lastResumeAt = monitor.lastResumeAt := by
  cases continuousMs <;> rfl

@[simp] theorem divergence_suspended (monitor : PowerMonitor) (now : Instant)
    (continuousMs : Option UInt64) :
    (monitor.divergenceMs now continuousMs).1.suspended = monitor.suspended := by
  cases continuousMs with
  | none => rfl
  | some current =>
      cases found : monitor.divergenceSample with
      | none => simp [divergenceMs, found]
      | some sample => simp [divergenceMs, found]

theorem poll_status_suspended (monitor : PowerMonitor) (now : Instant) (force : Bool)
    (snapshot : Option PowerStatusSnapshot) :
    (monitor.pollStatus now force snapshot).1.suspended = monitor.suspended := by
  cases snapshot with
  | none =>
      unfold pollStatus
      dsimp only
      split_ifs <;> rfl
  | some snap =>
      unfold pollStatus
      dsimp only
      split_ifs <;> rfl

/-! ## What each call asks for -/

theorem on_will_sleep_suspended (monitor : PowerMonitor) (sample : PowerEdgeSample)
    (suspended : monitor.suspended = true) :
    (monitor.onWillSleep sample).2 = none ∧
      (monitor.onWillSleep sample).1.suspended = true := by
  simp [onWillSleep, suspended]

theorem on_will_sleep_awake (monitor : PowerMonitor) (sample : PowerEdgeSample)
    (awake : monitor.suspended = false) :
    (monitor.onWillSleep sample).2 =
        some ⟨true, [suspendRow sample.capturedAt sample.continuousMs]⟩ ∧
      (monitor.onWillSleep sample).1.suspended = true := by
  simp [onWillSleep, awake]

theorem on_did_wake_duplicate (monitor : PowerMonitor) (sample : PowerEdgeSample)
    (duplicate : monitor.duplicateWake sample = true) :
    (monitor.onDidWake sample).2 = none ∧
      (monitor.onDidWake sample).1.suspended = monitor.suspended := by
  simp [onDidWake, duplicate]

theorem on_did_wake_suspended (monitor : PowerMonitor) (sample : PowerEdgeSample)
    (suspended : monitor.suspended = true) :
    (monitor.onDidWake sample).2 =
        some ⟨false, [resumeRow sample.capturedAt sample.continuousMs true]⟩ ∧
      (monitor.onDidWake sample).1.suspended = false := by
  have fresh : monitor.duplicateWake sample = false := by
    simp [duplicateWake, suspended]
  simp [onDidWake, fresh, suspended]

/-- The recovered row that an unmatched wake puts first, if there is one. -/
def recoveredRows (monitor : PowerMonitor) (now : Instant) (continuousMs : Option UInt64) :
    List Captured :=
  match (monitor.divergenceMs now continuousMs).2 with
  | some gapMs =>
      if missedPowerBoundaryThresholdMs < gapMs then [recoveredRow now gapMs] else []
  | none => []

theorem on_did_wake_awake (monitor : PowerMonitor) (sample : PowerEdgeSample)
    (awake : monitor.suspended = false) (fresh : monitor.duplicateWake sample = false) :
    (monitor.onDidWake sample).2 =
        some ⟨true, monitor.recoveredRows sample.capturedAt sample.continuousMs ++
          [resumeRow sample.capturedAt sample.continuousMs false]⟩ ∧
      (monitor.onDidWake sample).1.suspended = false := by
  simp [onDidWake, fresh, awake, recoveredRows]

/-- The divergence poll: nothing, the wake of a suspend, or a missed boundary. -/
theorem poll_divergence_cases (monitor : PowerMonitor) (now : Instant)
    (continuousMs : Option UInt64) :
    ((monitor.pollDivergence now continuousMs).2 = none ∧
        (monitor.pollDivergence now continuousMs).1.suspended = monitor.suspended ∧
        monitor.recoveredRows now continuousMs = []) ∨
      (monitor.suspended = true ∧
        (monitor.pollDivergence now continuousMs).2 =
          some ⟨false, [resumeRow now continuousMs true]⟩ ∧
        (monitor.pollDivergence now continuousMs).1.suspended = false) ∨
      (monitor.suspended = false ∧
        (∃ gapMs, monitor.recoveredRows now continuousMs = [recoveredRow now gapMs]) ∧
        (monitor.pollDivergence now continuousMs).2 =
          some ⟨true, monitor.recoveredRows now continuousMs⟩ ∧
        (monitor.pollDivergence now continuousMs).1.suspended = false) := by
  have kept := monitor.divergence_suspended now continuousMs
  cases measured : monitor.divergenceMs now continuousMs with
  | mk next gap =>
    rw [measured] at kept
    change next.suspended = monitor.suspended at kept
    cases gap with
    | none =>
        left
        simp [pollDivergence, recoveredRows, measured, kept]
    | some gapMs =>
        by_cases small : gapMs ≤ missedPowerBoundaryThresholdMs
        · left
          have notLarge : ¬missedPowerBoundaryThresholdMs < gapMs := UInt64.not_lt.mpr small
          simp [pollDivergence, recoveredRows, measured, kept, small, notLarge]
        · right
          have large : missedPowerBoundaryThresholdMs < gapMs := UInt64.not_le.mp small
          cases suspended : monitor.suspended with
          | true =>
              left
              simp [pollDivergence, measured, kept, small, suspended]
          | false =>
              right
              simp [pollDivergence, recoveredRows, measured, kept, small, large, suspended]

end PowerMonitor

/-- One call of the pump into the monitor. -/
inductive PowerCall where
  | willSleep (sample : PowerEdgeSample)
  | didWake (sample : PowerEdgeSample)
  | pollDivergence (now : Instant) (continuousMs : Option UInt64)
  | pollStatus (now : Instant) (force : Bool) (snapshot : Option PowerStatusSnapshot)
  | reseed
deriving DecidableEq

/-- What a call hands back to the pump. -/
inductive PowerOutcome where
  | boundary (requested : Option PowerBoundary)
  | status (rows : List Captured)
  | reseeded
deriving DecidableEq

namespace PowerMonitor

def step (monitor : PowerMonitor) : PowerCall → PowerMonitor × PowerOutcome
  | .willSleep sample => ((monitor.onWillSleep sample).1, .boundary (monitor.onWillSleep sample).2)
  | .didWake sample => ((monitor.onDidWake sample).1, .boundary (monitor.onDidWake sample).2)
  | .pollDivergence now continuousMs =>
      ((monitor.pollDivergence now continuousMs).1,
        .boundary (monitor.pollDivergence now continuousMs).2)
  | .pollStatus now force snapshot =>
      ((monitor.pollStatus now force snapshot).1, .status (monitor.pollStatus now force snapshot).2)
  | .reseed => (monitor.reseed, .reseeded)

def machine : Machine PowerMonitor PowerCall PowerOutcome := ⟨step⟩

end PowerMonitor

end Gilbreth.Core
