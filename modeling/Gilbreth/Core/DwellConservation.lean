import Mathlib
import Gilbreth.Core.Foreground

/-!
# Where the foreground time goes

Time with an open segment is attributed to a window, cut off by a cap, dropped by a seed
over the segment, or still open. The segments that rows attribute lie one after the other.
-/

set_option autoImplicit false

namespace Gilbreth.Core

/-- How long ago a window was last left, as a focus row reports it. -/
def unfocusedMs (earlier : List ForegroundStep) (window : WindowRef) (now : Instant) : UInt64 :=
  ((lastLeft window.hwnd earlier).map fun left =>
    durationMs (saturatingDurationSince now left)).getD 0

/-- The operations a run can show after a history, each with the row it answers. -/
inductive ForegroundTurn (earlier : List ForegroundStep) : ForegroundStep → Prop where
  | seeded (window : WindowRef) (now : Instant) :
      ForegroundTurn earlier ⟨.seed window now, some (focusChanged window none 0 0 now)⟩
  | same (opened : FocusedWindow) (window : WindowRef) (now : Instant)
      (isOpen : openSegment earlier = some opened)
      (isSame : opened.window.hwnd = window.hwnd) :
      ForegroundTurn earlier ⟨.onWindow window now, none⟩
  | switched (opened : FocusedWindow) (window : WindowRef) (now : Instant)
      (isOpen : openSegment earlier = some opened)
      (other : opened.window.hwnd ≠ window.hwnd) :
      ForegroundTurn earlier ⟨.onWindow window now,
        some (focusChanged window (some opened.window)
          (durationMs (ForegroundState.attributedDwell opened now none))
          (unfocusedMs earlier window now) now)⟩
  | focused (window : WindowRef) (now : Instant) (isClosed : openSegment earlier = none) :
      ForegroundTurn earlier ⟨.onWindow window now,
        some (focusChanged window none 0 (unfocusedMs earlier window now) now)⟩
  | ended (opened : FocusedWindow) (now : Instant) (maxDuration : Option Nat)
      (isOpen : openSegment earlier = some opened) :
      ForegroundTurn earlier ⟨.endCurrent now maxDuration,
        some (focusChanged opened.window (some opened.window)
          (durationMs (ForegroundState.attributedDwell opened now maxDuration)) 0 now)⟩
  | idle (now : Instant) (maxDuration : Option Nat) (isClosed : openSegment earlier = none) :
      ForegroundTurn earlier ⟨.endCurrent now maxDuration, none⟩
  | destroyed (hwnd : UInt64) : ForegroundTurn earlier ⟨.destroyed hwnd, none⟩
  | cleared : ForegroundTurn earlier ⟨.clear, none⟩

/-- A history each of whose steps can follow the ones before it. -/
def IsForegroundRun : List ForegroundStep → Prop
  | [] => True
  | step :: earlier => ForegroundTurn earlier step ∧ IsForegroundRun earlier

namespace ForegroundState

theorem apply_turn {state : ForegroundState} {earlier : List ForegroundStep}
    (remembers : state.Remembers earlier) (call : ForegroundCall) :
    ForegroundTurn earlier ⟨call, (state.apply call).2⟩ := by
  cases call with
  | seed window now => exact .seeded window now
  | onWindow window now =>
      change ForegroundTurn earlier ⟨_, (state.onWindowAt window now).2⟩
      have left : ((state.lastUnfocusedAt.lookup window.hwnd).map fun last =>
          durationMs (saturatingDurationSince now last)).getD 0 =
            unfocusedMs earlier window now := by
        rw [remembers.left, unfocusedMs]
      unfold onWindowAt
      rw [left]
      cases current : state.current with
      | none =>
          simp only [Option.any_none, Bool.false_eq_true, if_false]
          exact .focused window now (remembers.current.symm.trans current)
      | some opened =>
          have isOpen := remembers.current.symm.trans current
          simp only [Option.any_some, beq_iff_eq]
          split_ifs with isSame
          · exact .same opened window now isOpen isSame
          · exact .switched opened window now isOpen isSame
  | endCurrent now maxDuration =>
      rw [apply_end]
      unfold endCurrentAtWithDurationLimit
      cases current : state.current with
      | none => exact .idle now maxDuration (remembers.current.symm.trans current)
      | some opened =>
          exact .ended opened now maxDuration (remembers.current.symm.trans current)
  | destroyed hwnd => exact .destroyed hwnd
  | clear => exact .cleared

theorem history_run (calls : List ForegroundCall) : IsForegroundRun (history calls) := by
  induction calls using List.reverseRecOn with
  | nil => trivial
  | append_singleton calls call induction =>
      rw [history_concat]
      exact ⟨apply_turn (run_remembers calls) call, induction⟩

end ForegroundState

/-! ## Times of a history -/

/-- The instant of the latest operation that has one. -/
def lastNow : List ForegroundStep → Option Instant
  | [] => none
  | step :: earlier => step.call.now?.or (lastNow earlier)

def firstNow : List ForegroundStep → Option Instant
  | [] => none
  | step :: earlier => (firstNow earlier).or step.call.now?

/-- No instant before the one of an earlier operation. -/
def InOrder : List ForegroundStep → Prop
  | [] => True
  | step :: earlier =>
      (∀ now last, step.call.now? = some now → lastNow earlier = some last →
        last.nanos ≤ now.nanos) ∧ InOrder earlier

/-- From the first operation to the last. -/
def elapsedTime (steps : List ForegroundStep) : Nat :=
  match firstNow steps, lastNow steps with
  | some first, some last => saturatingDurationSince last first
  | _, _ => 0

/-- A stretch of time that a row attributes to a window. -/
structure DwellSegment where
  opened : Instant
  attributed : Nat
deriving DecidableEq

/-- The limit of an ending, where it has one. -/
def ForegroundCall.maxDuration? : ForegroundCall → Option Nat
  | .endCurrent _ maxDuration => maxDuration
  | _ => none

/-- A row with a window before attributes the open segment. -/
def segmentOf (earlier : List ForegroundStep) : ForegroundStep → Option DwellSegment
  | ⟨call, some ⟨_, capturedAt, .focusChanged _ (some _) ..⟩⟩ =>
      (openSegment earlier).map fun opened =>
        ⟨opened.focusedAt,
          ForegroundState.attributedDwell opened capturedAt call.maxDuration?⟩
  | _ => none

/-- The attributed segments, latest first. -/
def segments : List ForegroundStep → List DwellSegment
  | [] => []
  | step :: earlier => (segmentOf earlier step).toList ++ segments earlier

def attributedTime (steps : List ForegroundStep) : Nat :=
  ((segments steps).map DwellSegment.attributed).sum

/-- The time a step leaves without a window: over the cap, or of a segment seeded over. -/
def lostAt (earlier : List ForegroundStep) : ForegroundCall → Nat
  | .seed _ now =>
      ((openSegment earlier).map fun opened =>
        saturatingDurationSince now opened.focusedAt).getD 0
  | .endCurrent now maxDuration =>
      ((openSegment earlier).map fun opened =>
        saturatingDurationSince now opened.focusedAt -
          ForegroundState.attributedDwell opened now maxDuration).getD 0
  | _ => 0

def lostTime : List ForegroundStep → Nat
  | [] => 0
  | step :: earlier => lostAt earlier step.call + lostTime earlier

/-- How long the open segment has run at the last operation. -/
def stillOpen (steps : List ForegroundStep) : Nat :=
  match openSegment steps, lastNow steps with
  | some opened, some last => saturatingDurationSince last opened.focusedAt
  | _, _ => 0

/-- The time up to an instant since the last operation, if a segment is open. -/
def heldOpen (earlier : List ForegroundStep) (now : Instant) : Nat :=
  match openSegment earlier, lastNow earlier with
  | some _, some last => saturatingDurationSince now last
  | _, _ => 0

/-- The time between operations during which a segment was open. -/
def openTime : List ForegroundStep → Nat
  | [] => 0
  | step :: earlier => (step.call.now?.map (heldOpen earlier)).getD 0 + openTime earlier

/-- The age of the open segment at an instant. -/
def openUntil (earlier : List ForegroundStep) (now : Instant) : Nat :=
  ((openSegment earlier).map fun opened =>
    saturatingDurationSince now opened.focusedAt).getD 0

theorem opened_before {steps : List ForegroundStep} (run : IsForegroundRun steps)
    (ordered : InOrder steps) {opened : FocusedWindow}
    (isOpen : openSegment steps = some opened) :
    ∃ last, lastNow steps = some last ∧ opened.focusedAt.nanos ≤ last.nanos := by
  induction steps with
  | nil => cases isOpen
  | cons step earlier induction =>
      cases run.1 with
      | seeded window now =>
          cases isOpen
          exact ⟨now, rfl, Int.le_refl _⟩
      | same before window now wasOpen isSame =>
          have ⟨last, latest, older⟩ := induction run.2 ordered.2 isOpen
          exact ⟨now, rfl, older.trans (ordered.1 now last rfl latest)⟩
      | switched before window now wasOpen other =>
          cases isOpen
          exact ⟨now, rfl, Int.le_refl _⟩
      | focused window now wasClosed =>
          cases isOpen
          exact ⟨now, rfl, Int.le_refl _⟩
      | ended before now maxDuration wasOpen => cases isOpen
      | idle now maxDuration wasClosed => cases isOpen
      | destroyed hwnd => exact induction run.2 ordered.2 isOpen
      | cleared => exact induction run.2 ordered.2 isOpen

theorem still_open_until {earlier : List ForegroundStep} (run : IsForegroundRun earlier)
    (ordered : InOrder earlier) {now : Instant}
    (later : ∀ last, lastNow earlier = some last → last.nanos ≤ now.nanos) :
    stillOpen earlier + heldOpen earlier now = openUntil earlier now := by
  cases isOpen : openSegment earlier with
  | none => simp [stillOpen, heldOpen, openUntil, isOpen]
  | some opened =>
      have ⟨last, latest, older⟩ := opened_before run ordered isOpen
      have next := later last latest
      simp only [stillOpen, heldOpen, openUntil, isOpen, latest, saturatingDurationSince,
        Option.map_some, Option.getD_some]
      omega

theorem attributed_cons (earlier : List ForegroundStep) (step : ForegroundStep) :
    attributedTime (step :: earlier) =
      ((segmentOf earlier step).map DwellSegment.attributed).getD 0 + attributedTime earlier := by
  rw [attributedTime, segments, List.map_append, List.sum_append]
  cases segmentOf earlier step with
  | none => rfl
  | some segment => simp [attributedTime]

theorem attributed_dwell_le (opened : FocusedWindow) (now : Instant) (maxDuration : Option Nat) :
    ForegroundState.attributedDwell opened now maxDuration ≤
      saturatingDurationSince now opened.focusedAt := by
  cases maxDuration with
  | none => exact Nat.le_refl _
  | some most => exact Nat.min_le_left _ _

theorem turn_balance {earlier : List ForegroundStep} {step : ForegroundStep}
    (turn : ForegroundTurn earlier step) {now : Instant} (timed : step.call.now? = some now) :
    ((segmentOf earlier step).map DwellSegment.attributed).getD 0 + lostAt earlier step.call +
        stillOpen (step :: earlier) = openUntil earlier now := by
  cases turn with
  | seeded window at' =>
      cases timed
      simp [segmentOf, focusChanged, lostAt, stillOpen, openSegment, lastNow,
        ForegroundCall.now?, openUntil, saturatingDurationSince]
  | same opened window at' isOpen isSame =>
      cases timed
      simp [segmentOf, lostAt, stillOpen, openSegment, isOpen, lastNow, ForegroundCall.now?,
        openUntil]
  | switched opened window at' isOpen other =>
      cases timed
      simp [segmentOf, focusChanged, lostAt, stillOpen, openSegment, isOpen, lastNow,
        ForegroundCall.now?, openUntil, ForegroundCall.maxDuration?,
        ForegroundState.attributedDwell, saturatingDurationSince]
  | focused window at' isClosed =>
      cases timed
      simp [segmentOf, focusChanged, lostAt, stillOpen, openSegment, isClosed, lastNow,
        ForegroundCall.now?, openUntil, saturatingDurationSince]
  | ended opened at' maxDuration isOpen =>
      cases timed
      have most := attributed_dwell_le opened now maxDuration
      simp [segmentOf, focusChanged, lostAt, stillOpen, openSegment, isOpen, openUntil,
        ForegroundCall.maxDuration?]
      omega
  | idle at' maxDuration isClosed =>
      cases timed
      simp [segmentOf, lostAt, stillOpen, openSegment, isClosed, openUntil]
  | destroyed hwnd => cases timed
  | cleared => cases timed

theorem dwell_balance {steps : List ForegroundStep} (run : IsForegroundRun steps)
    (ordered : InOrder steps) :
    attributedTime steps + lostTime steps + stillOpen steps = openTime steps := by
  induction steps with
  | nil => rfl
  | cons step earlier induction =>
      have before := induction run.2 ordered.2
      rw [attributed_cons, lostTime, openTime]
      cases timed : step.call.now? with
      | some now =>
          have turned := turn_balance run.1 timed
          have held := still_open_until run.2 ordered.2 fun last => ordered.1 now last timed
          simp only [Option.map_some, Option.getD_some]
          omega
      | none =>
          have same : stillOpen (step :: earlier) = stillOpen earlier ∧
              segmentOf earlier step = none ∧ lostAt earlier step.call = 0 := by
            cases run.1 with
            | destroyed hwnd => exact ⟨rfl, rfl, rfl⟩
            | cleared => exact ⟨rfl, rfl, rfl⟩
            | _ => cases timed
          simp only [same, Option.map_none, Option.getD_none]
          omega

theorem first_none {steps : List ForegroundStep} (untimed : lastNow steps = none) :
    firstNow steps = none := by
  induction steps with
  | nil => rfl
  | cons step earlier induction =>
      rw [lastNow, Option.or_eq_none_iff] at untimed
      rw [firstNow, Option.or_eq_none_iff]
      exact ⟨induction untimed.2, untimed.1⟩

theorem first_before {steps : List ForegroundStep} (ordered : InOrder steps) {last : Instant}
    (latest : lastNow steps = some last) :
    ∃ first, firstNow steps = some first ∧ first.nanos ≤ last.nanos := by
  induction steps generalizing last with
  | nil => cases latest
  | cons step earlier induction =>
      rw [lastNow] at latest
      rw [firstNow]
      cases before : lastNow earlier with
      | none =>
          rw [before, Option.or_none] at latest
          rw [first_none before, latest]
          exact ⟨last, rfl, Int.le_refl _⟩
      | some previous =>
          have ⟨first, found, older⟩ := induction ordered.2 before
          rw [found]
          refine ⟨first, rfl, ?_⟩
          cases timed : step.call.now? with
          | none =>
              rw [timed, before] at latest
              cases latest
              exact older
          | some now =>
              rw [timed] at latest
              cases latest
              exact older.trans (ordered.1 _ previous timed before)

theorem elapsed_cons {step : ForegroundStep} {earlier : List ForegroundStep}
    (ordered : InOrder (step :: earlier)) :
    elapsedTime (step :: earlier) = elapsedTime earlier +
      match step.call.now?, lastNow earlier with
      | some now, some last => saturatingDurationSince now last
      | _, _ => 0 := by
  cases before : lastNow earlier with
  | none =>
      cases timed : step.call.now? with
      | none => simp [elapsedTime, lastNow, before, timed]
      | some now =>
          simp [elapsedTime, lastNow, firstNow, before, timed, first_none before,
            saturatingDurationSince]
  | some last =>
      have ⟨first, found, older⟩ := first_before ordered.2 before
      cases timed : step.call.now? with
      | none => simp [elapsedTime, lastNow, firstNow, before, timed, found]
      | some now =>
          have later := ordered.1 now last timed before
          simp only [elapsedTime, lastNow, firstNow, before, timed, found, Option.some_or,
            saturatingDurationSince]
          omega

/-- A segment is open whenever time passes. -/
def OpenThroughout : List ForegroundStep → Prop
  | [] => True
  | step :: earlier =>
      (step.call.now?.isSome → (lastNow earlier).isSome → (openSegment earlier).isSome) ∧
        OpenThroughout earlier

theorem open_time_le {steps : List ForegroundStep} (ordered : InOrder steps) :
    openTime steps ≤ elapsedTime steps ∧
      (OpenThroughout steps → openTime steps = elapsedTime steps) := by
  induction steps with
  | nil => exact ⟨Nat.le_refl _, fun _ => rfl⟩
  | cons step earlier induction =>
      have ⟨less, equal⟩ := induction ordered.2
      rw [openTime, elapsed_cons ordered]
      cases timed : step.call.now? with
      | none =>
          refine ⟨by simpa using less, fun throughout => ?_⟩
          simpa using equal throughout.2
      | some now =>
          cases before : lastNow earlier with
          | none =>
              refine ⟨by simpa [heldOpen, before] using less, fun throughout => ?_⟩
              simpa [heldOpen, before] using equal throughout.2
          | some last =>
              cases isOpen : openSegment earlier with
              | none =>
                  constructor
                  · simp only [heldOpen, isOpen, Option.map_some, Option.getD_some]
                    omega
                  · intro throughout
                    have wasOpen := throughout.1
                    simp [timed, before, isOpen] at wasOpen
              | some opened =>
                  simp only [heldOpen, isOpen, before, Option.map_some, Option.getD_some]
                  refine ⟨by omega, fun throughout => ?_⟩
                  rw [equal throughout.2, Nat.add_comm]

def DwellSegment.closed (segment : DwellSegment) : Int :=
  segment.opened.nanos + segment.attributed

theorem segment_of_turn {earlier : List ForegroundStep} {step : ForegroundStep}
    (turn : ForegroundTurn earlier step) {segment : DwellSegment}
    (found : segmentOf earlier step = some segment) :
    ∃ opened now, openSegment earlier = some opened ∧ step.call.now? = some now ∧
      segment.opened = opened.focusedAt ∧
      segment.attributed ≤ saturatingDurationSince now opened.focusedAt := by
  cases turn with
  | switched opened window now isOpen other =>
      simp only [segmentOf, focusChanged, isOpen, Option.map_some] at found
      cases found
      exact ⟨opened, now, isOpen, rfl, rfl, attributed_dwell_le opened now none⟩
  | ended opened now maxDuration isOpen =>
      simp only [segmentOf, focusChanged, isOpen, Option.map_some] at found
      cases found
      exact ⟨opened, now, isOpen, rfl, rfl, attributed_dwell_le opened now maxDuration⟩
  | _ => cases found

theorem opened_by_turn {earlier : List ForegroundStep} {step : ForegroundStep}
    (turn : ForegroundTurn earlier step) {opened : FocusedWindow}
    (isOpen : openSegment (step :: earlier) = some opened) :
    (openSegment earlier = some opened ∧ segmentOf earlier step = none) ∨
      step.call.now? = some opened.focusedAt := by
  cases turn with
  | seeded window now =>
      cases isOpen
      exact Or.inr rfl
  | same before window now wasOpen isSame => exact Or.inl ⟨isOpen, rfl⟩
  | switched before window now wasOpen other =>
      cases isOpen
      exact Or.inr rfl
  | focused window now wasClosed =>
      cases isOpen
      exact Or.inr rfl
  | ended before now maxDuration wasOpen => cases isOpen
  | idle now maxDuration wasClosed => cases isOpen
  | destroyed hwnd => exact Or.inl ⟨isOpen, rfl⟩
  | cleared => exact Or.inl ⟨isOpen, rfl⟩

/-- An attributed segment ends before what is open began, and before the last operation. -/
theorem segments_before {steps : List ForegroundStep} (run : IsForegroundRun steps)
    (ordered : InOrder steps) : ∀ segment ∈ segments steps,
      (∃ last, lastNow steps = some last ∧ segment.closed ≤ last.nanos) ∧
        ∀ opened, openSegment steps = some opened → segment.closed ≤ opened.focusedAt.nanos := by
  induction steps with
  | nil => simp [segments]
  | cons step earlier induction =>
      intro segment member
      cases List.mem_append.mp member with
      | inl own =>
          have found := Option.mem_toList.mp own
          have ⟨before, now, wasOpen, timed, start, most⟩ := segment_of_turn run.1 found
          have ⟨last, latest, older⟩ := opened_before run.2 ordered.2 wasOpen
          have later := ordered.1 now last timed latest
          have closes : segment.closed ≤ now.nanos := by
            rw [DwellSegment.closed, start]
            simp only [saturatingDurationSince] at most
            omega
          refine ⟨⟨now, by rw [lastNow, timed]; rfl, closes⟩, ?_⟩
          intro opened isOpen
          cases opened_by_turn run.1 isOpen with
          | inl kept =>
              rw [kept.2] at found
              cases found
          | inr fresh =>
              rw [timed] at fresh
              cases fresh
              exact closes
      | inr inherited =>
          have ⟨⟨last, latest, closes⟩, beforeOpen⟩ := induction run.2 ordered.2 segment inherited
          constructor
          · rw [lastNow]
            cases timed : step.call.now? with
            | none => exact ⟨last, latest, closes⟩
            | some now => exact ⟨now, rfl, closes.trans (ordered.1 now last timed latest)⟩
          · intro opened isOpen
            cases opened_by_turn run.1 isOpen with
            | inl kept => exact beforeOpen opened kept.1
            | inr fresh => exact closes.trans (ordered.1 _ last fresh latest)

theorem segments_disjoint {steps : List ForegroundStep} (run : IsForegroundRun steps)
    (ordered : InOrder steps) :
    (segments steps).Pairwise fun later earlier => earlier.closed ≤ later.opened.nanos := by
  induction steps with
  | nil => exact List.Pairwise.nil
  | cons step earlier induction =>
      apply List.pairwise_append.mpr
      refine ⟨?_, induction run.2 ordered.2, ?_⟩
      · cases segmentOf earlier step <;> simp
      · intro segment own older inherited
        have ⟨opened, _, isOpen, _, start, _⟩ :=
          segment_of_turn run.1 (Option.mem_toList.mp own)
        rw [start]
        exact (segments_before run.2 ordered.2 older inherited).2 opened isOpen

/-! ## The rows of a run -/

/-- What a row reports for the window before. -/
def focusedMsOf : Option Captured → Nat
  | some ⟨_, _, .focusChanged _ _ previousFocusedForMs ..⟩ => previousFocusedForMs.toNat
  | _ => 0

def reportedMs (steps : List ForegroundStep) : Nat :=
  (steps.map fun step => focusedMsOf step.row).sum

theorem duration_ms_le (duration : Nat) : (durationMs duration).toNat * 1000000 ≤ duration := by
  rw [duration_ms_to_nat]
  omega

theorem reported_le {steps : List ForegroundStep} (run : IsForegroundRun steps) :
    reportedMs steps * 1000000 ≤ attributedTime steps := by
  induction steps with
  | nil => exact Nat.le_refl _
  | cons step earlier induction =>
      have before := induction run.2
      have now : focusedMsOf step.row * 1000000 ≤
          ((segmentOf earlier step).map DwellSegment.attributed).getD 0 := by
        cases run.1 with
        | switched opened window now isOpen other =>
            simp only [segmentOf, focusChanged, isOpen, Option.map_some, Option.getD_some]
            exact duration_ms_le _
        | ended opened now maxDuration isOpen =>
            simp only [segmentOf, focusChanged, isOpen, Option.map_some, Option.getD_some]
            exact duration_ms_le _
        | _ => exact Nat.le_of_eq (Nat.zero_mul _)
      rw [attributed_cons, reportedMs, List.map_cons, List.sum_cons, Nat.add_mul]
      exact Nat.add_le_add now before

namespace ForegroundState

/-- The instants of the calls do not decrease. -/
def CallsInOrder (calls : List ForegroundCall) : Prop :=
  (calls.filterMap ForegroundCall.now?).Pairwise fun earlier later =>
    earlier.nanos ≤ later.nanos

theorem last_now_history (calls : List ForegroundCall) :
    lastNow (history calls) = (calls.filterMap ForegroundCall.now?).getLast? := by
  induction calls using List.reverseRecOn with
  | nil => rfl
  | append_singleton calls call induction =>
      rw [history_concat, lastNow, induction, List.filterMap_append]
      cases timed : call.now? with
      | none => simp [timed]
      | some now => simp [timed]

theorem history_in_order {calls : List ForegroundCall} (ordered : CallsInOrder calls) :
    InOrder (history calls) := by
  induction calls using List.reverseRecOn with
  | nil => trivial
  | append_singleton calls call induction =>
      rw [CallsInOrder, List.filterMap_append, List.pairwise_append] at ordered
      rw [history_concat]
      refine ⟨?_, induction ordered.1⟩
      intro now last timed latest
      change call.now? = some now at timed
      rw [last_now_history] at latest
      exact ordered.2.2 last (List.mem_of_getLast? latest) now (by simp [timed])

/-- The row that a run's next call answers. -/
def nextRow (before : List ForegroundCall) (call : ForegroundCall) : Option Captured :=
  ((machine.run default before).apply call).2

/-- No ending has a cap, and no seed finds an open segment. -/
def UncappedAndUnseeded (calls : List ForegroundCall) : Prop :=
  ∀ before call later, calls = before ++ call :: later →
    call.maxDuration? = none ∧
      ∀ window now, call = .seed window now → openSegment (history before) = none

theorem nothing_lost {calls : List ForegroundCall} (plain : UncappedAndUnseeded calls) :
    lostTime (history calls) = 0 := by
  induction calls using List.reverseRecOn with
  | nil => rfl
  | append_singleton calls call induction =>
      have before : lostTime (history calls) = 0 := by
        apply induction
        intro earlier other later split
        exact plain earlier other (later ++ [call]) (by simp [split])
      have ⟨uncapped, unseeded⟩ := plain calls call [] rfl
      rw [history_concat, lostTime, before]
      cases call with
      | seed window now => simp [lostAt, unseeded window now rfl]
      | endCurrent now maxDuration =>
          change maxDuration = none at uncapped
          subst uncapped
          cases isOpen : openSegment (history calls) with
          | none => simp [lostAt, isOpen]
          | some opened => simp [lostAt, isOpen, attributedDwell]
      | _ => rfl

/-- How a run accounts for the foreground time. -/
structure DwellConserved (calls : List ForegroundCall) : Prop where
  /-- A row attributes to `prev` the open segment, capped. -/
  attributed : ∀ before call later source capturedAt window prev focusedMs unfocused recovered,
    calls = before ++ call :: later →
    nextRow before call =
      some ⟨source, capturedAt, .focusChanged window (some prev) focusedMs unfocused recovered⟩ →
    ∃ opened, openSegment (history before) = some opened ∧ opened.window = prev ∧
      focusedMs = durationMs (attributedDwell opened capturedAt call.maxDuration?)
  unattributed : ∀ before call later source capturedAt window focusedMs unfocused recovered,
    calls = before ++ call :: later →
    nextRow before call =
      some ⟨source, capturedAt, .focusChanged window none focusedMs unfocused recovered⟩ →
    focusedMs = 0
  disjoint : (segments (history calls)).Pairwise fun later earlier =>
    earlier.closed ≤ later.opened.nanos
  bounded : attributedTime (history calls) ≤ elapsedTime (history calls) ∧
    reportedMs (history calls) * 1000000 ≤ attributedTime (history calls)
  /-- Uncapped, never seeded over and closed, the segments are all the time one was open. -/
  whole : UncappedAndUnseeded calls → openSegment (history calls) = none →
    attributedTime (history calls) = openTime (history calls) ∧
      (OpenThroughout (history calls) →
        attributedTime (history calls) = elapsedTime (history calls))
  /-- A switch reports the time since its window was last left; other rows report zero. -/
  unfocused : ∀ before call later source capturedAt window prev focusedMs unfocused recovered,
    calls = before ++ call :: later →
    nextRow before call =
      some ⟨source, capturedAt, .focusChanged window prev focusedMs unfocused recovered⟩ →
    (call = .onWindow window capturedAt ∧
      unfocused = unfocusedMs (history before) window capturedAt) ∨
    ((∀ other now, call ≠ .onWindow other now) ∧ unfocused = 0)

theorem next_turn (before : List ForegroundCall) (call : ForegroundCall) :
    ForegroundTurn (history before) ⟨call, nextRow before call⟩ :=
  apply_turn (run_remembers before) call

/-- The foreground time of every run with instants in order. -/
theorem dwell_conserved (calls : List ForegroundCall) (ordered : CallsInOrder calls) :
    DwellConserved calls where
  attributed before call later source capturedAt window prev focusedMs unfocused recovered split
      answered := by
    have turn := next_turn before call
    rw [answered] at turn
    cases turn with
    | switched opened window now isOpen other => exact ⟨opened, isOpen, rfl, rfl⟩
    | ended opened now maxDuration isOpen => exact ⟨opened, isOpen, rfl, rfl⟩
  unattributed before call later source capturedAt window focusedMs unfocused recovered split
      answered := by
    have turn := next_turn before call
    rw [answered] at turn
    cases turn with
    | seeded => rfl
    | focused => rfl
  disjoint := segments_disjoint (history_run calls) (history_in_order ordered)
  bounded := by
    have balance := dwell_balance (history_run calls) (history_in_order ordered)
    have most := (open_time_le (history_in_order ordered)).1
    exact ⟨by omega, reported_le (history_run calls)⟩
  whole plain closed := by
    have balance := dwell_balance (history_run calls) (history_in_order ordered)
    have none : stillOpen (history calls) = 0 := by simp [stillOpen, closed]
    rw [nothing_lost plain, none] at balance
    have throughout := (open_time_le (history_in_order ordered)).2
    exact ⟨by omega, fun always => by rw [← throughout always]; omega⟩
  unfocused before call later source capturedAt window prev focusedMs unfocused recovered split
      answered := by
    have turn := next_turn before call
    rw [answered] at turn
    cases turn with
    | seeded => exact Or.inr ⟨by simp, rfl⟩
    | switched => exact Or.inl ⟨rfl, rfl⟩
    | focused => exact Or.inl ⟨rfl, rfl⟩
    | ended => exact Or.inr ⟨by simp, rfl⟩

/-! ## Two readings that do not hold -/

/-- When a window last lost the focus, seeds included, unless it was evicted since. -/
def lastLost (hwnd : UInt64) : List ForegroundStep → Option Instant
  | [] => none
  | ⟨.clear, _⟩ :: _ => none
  | ⟨.destroyed gone, _⟩ :: earlier => if gone = hwnd then none else lastLost hwnd earlier
  | step :: earlier =>
      if (openSegment earlier).any (fun opened => opened.window.hwnd == hwnd) &&
          !(openSegment (step :: earlier)).any (fun opened => opened.window.hwnd == hwnd)
      then step.call.now? else lastLost hwnd earlier

private def editor : WindowRef := ⟨1, "editor.exe", "notes", 10⟩

private def browser : WindowRef := ⟨2, "browser.exe", "news", 20⟩

/-- The segment is closed for ten of thirty seconds. -/
private def interrupted : List ForegroundCall :=
  [.seed editor ⟨0⟩, .endCurrent ⟨10000000000⟩ none, .onWindow browser ⟨20000000000⟩,
    .endCurrent ⟨30000000000⟩ none]

private def seededOver : List ForegroundCall :=
  [.seed editor ⟨0⟩, .seed browser ⟨10000000000⟩]

theorem dwell_conserved_interrupted :
    CallsInOrder interrupted ∧ DwellConserved interrupted := by
  have ordered : CallsInOrder interrupted := by
    simp [CallsInOrder, interrupted, ForegroundCall.now?]
  exact ⟨ordered, dwell_conserved interrupted ordered⟩

/-- Closed segments need not fill the time, and a seed over a segment is no leaving. -/
theorem dwell_not_elapsed :
    ¬(UncappedAndUnseeded interrupted → openSegment (history interrupted) = none →
        attributedTime (history interrupted) = elapsedTime (history interrupted)) ∧
      ¬∀ focusedMs unfocused recovered, nextRow seededOver (.onWindow editor ⟨20000000000⟩) =
          some ⟨.foreground, ⟨20000000000⟩,
            .focusChanged editor (some browser) focusedMs unfocused recovered⟩ →
        unfocused = ((lastLost editor.hwnd (history seededOver)).map fun lost =>
          durationMs (saturatingDurationSince ⟨20000000000⟩ lost)).getD 0 := by
  constructor
  · intro filled
    have plain : UncappedAndUnseeded interrupted := by
      intro before call later split
      cases before with
      | nil =>
          cases split
          exact ⟨rfl, fun _ _ _ => rfl⟩
      | cons head before =>
          -- The seed comes first, so none comes later.
          have listed : call ∈ interrupted.tail := by simp [split]
          simp only [interrupted, List.tail_cons, List.mem_cons, List.not_mem_nil, or_false]
            at listed
          rcases listed with rfl | rfl | rfl <;> exact ⟨rfl, by simp⟩
    have equal := filled plain rfl
    revert equal
    decide
  · intro reported
    have zero := reported 10000 0 false rfl
    revert zero
    decide

end ForegroundState

end Gilbreth.Core
