import Mathlib.Algebra.BigOperators.Group.List.Basic
import Gilbreth.Core.DwellConservation
import Gilbreth.Library.Alternation
import Gilbreth.Windows.PowerDwell

/-!
# Sleep that no notice announced

The pump finds such a sleep by the tick clock, at the next timer sample or resume notice. Each
message is stamped and reads the clock when it is handled; the time between two messages in a
row is one interval.
-/

set_option autoImplicit false

namespace Gilbreth.Windows

open Gilbreth.Core (Captured EventPayload FocusedWindow ForegroundState Instant WindowRef
  durationMs millisecond saturatingDurationSince)
open Alternation (Mark Legal)

/-- The tick clock: whole milliseconds since it was started. -/
def tickAt (boot : Int) (now : Instant) : Nat := (now.nanos - boot).toNat / millisecond

/-- A message of the pump, and when it is handled. -/
structure Dispatched where
  handledAt : Instant
  call : CaptureCall

/-- The time between two messages in a row; awake where no suspend notice is open. -/
structure MessageInterval where
  start : Instant
  finish : Instant
  awake : Bool
deriving DecidableEq

namespace MessageInterval

def length (interval : MessageInterval) : Nat :=
  saturatingDurationSince interval.finish interval.start

/-- Longer than the threshold, with no suspend notice open. -/
def Long (boot : Int) (interval : MessageInterval) : Prop :=
  interval.awake = true ∧
    missedPowerBoundaryThresholdMs < tickAt boot interval.finish - tickAt boot interval.start

instance (boot : Int) (interval : MessageInterval) : Decidable (interval.Long boot) := by
  unfold Long
  infer_instance

/-- What of the interval a dwell may count. -/
def counted (boot : Int) (interval : MessageInterval) : Nat :=
  if interval.Long boot then missedPowerBoundaryMaxDwell else interval.length

end MessageInterval

/-- The intervals since a segment was opened. -/
def within (opened : FocusedWindow) (intervals : List MessageInterval) : List MessageInterval :=
  intervals.filter fun interval => decide (opened.focusedAt.nanos ≤ interval.start.nanos)

def countedTime (boot : Int) (intervals : List MessageInterval) (opened : FocusedWindow) : Nat :=
  ((within opened intervals).map (MessageInterval.counted boot)).sum

/-- The span of a recovered boundary holds the interval. -/
def DwellMark.reports (boot : Int) (interval : MessageInterval) : DwellMark → Bool
  | .recovered gapMs capturedAt =>
      decide (tickAt boot capturedAt - gapMs.toNat ≤ tickAt boot interval.start ∧
        tickAt boot interval.finish ≤ tickAt boot capturedAt)
  | _ => false

def reports (boot : Int) (interval : MessageInterval) (row : Captured) : Bool :=
  (dwellMark row).any fun mark => mark.reports boot interval

theorem tick_mono (boot : Int) {earlier later : Instant} (ordered : earlier.nanos ≤ later.nanos) :
    tickAt boot earlier ≤ tickAt boot later := by
  apply Nat.div_le_div_right
  omega

namespace MessageInterval

variable {boot : Int} {interval : MessageInterval}

theorem long_ticks (long : interval.Long boot) :
    tickAt boot interval.start + 30000 < tickAt boot interval.finish := by
  have above := long.2
  unfold missedPowerBoundaryThresholdMs at above
  omega

end MessageInterval

theorem capped_le_counted (boot : Int) (intervals : List MessageInterval) :
    min (intervals.map MessageInterval.length).sum missedPowerBoundaryMaxDwell ≤
      (intervals.map (MessageInterval.counted boot)).sum := by
  induction intervals with
  | nil => simp
  | cons interval rest induction =>
      simp only [List.map_cons, List.sum_cons]
      unfold MessageInterval.counted at induction ⊢
      split_ifs
      · omega
      · omega

theorem counted_of_short {boot : Int} {intervals : List MessageInterval}
    (short : ∀ interval ∈ intervals, ¬interval.Long boot) :
    (intervals.map (MessageInterval.counted boot)).sum =
      (intervals.map MessageInterval.length).sum := by
  apply congrArg
  apply List.map_congr_left
  intro interval member
  exact if_neg (short interval member)

/-- What the pump's clocks and its open segment have to do with the intervals so far. -/
structure Tracked (boot : Int) (dwell : PowerDwell) (last : Instant)
    (intervals : List MessageInterval) (tick : UInt64) : Prop where
  noted : dwell.lastTimerTickMs = some tick
  reached : tick.toNat ≤ tickAt boot last
  resumed : ∀ moment, dwell.lastPowerResumeAt = some moment → tickAt boot moment ≤ tick.toNat
  past : ∀ interval ∈ intervals, interval.finish.nanos ≤ last.nanos
  opened : ∀ current, dwell.current = some current → current.focusedAt.nanos ≤ last.nanos
  elapsed : ∀ current, dwell.current = some current →
    ((within current intervals).map MessageInterval.length).sum =
      saturatingDurationSince last current.focusedAt
  /-- A long interval in the open segment was not looked for yet. -/
  unseen : ∀ current, dwell.current = some current →
    ∀ interval ∈ within current intervals, interval.Long boot →
      dwell.powerSuspended = false ∧ tick.toNat ≤ tickAt boot interval.start
  asleep : dwell.powerSuspended = true →
    ∀ interval ∈ intervals, interval.Long boot → tickAt boot interval.start < tick.toNat

theorem within_cons (opened : FocusedWindow) (interval : MessageInterval)
    (rest : List MessageInterval) :
    within opened (interval :: rest) =
      if opened.focusedAt.nanos ≤ interval.start.nanos then interval :: within opened rest
      else within opened rest := by
  unfold within
  rw [List.filter_cons]
  simp only [decide_eq_true_eq]

theorem mem_within {opened : FocusedWindow} {intervals : List MessageInterval}
    {interval : MessageInterval} :
    interval ∈ within opened intervals ↔
      interval ∈ intervals ∧ opened.focusedAt.nanos ≤ interval.start.nanos := by
  unfold within
  rw [List.mem_filter, decide_eq_true_eq]

theorem within_new {now : Instant} {intervals : List MessageInterval}
    (past : ∀ interval ∈ intervals, interval.finish.nanos ≤ now.nanos) (window : WindowRef) :
    ((within ⟨window, now⟩ intervals).map MessageInterval.length).sum = 0 := by
  apply List.sum_eq_zero
  intro amount member
  have ⟨interval, inside, same⟩ := List.mem_map.mp member
  have ⟨among, starts⟩ := mem_within.mp inside
  have ends := past interval among
  rw [← same]
  unfold MessageInterval.length saturatingDurationSince
  dsimp only at starts
  omega

theorem new_not_long {boot : Int} {now : Instant} {intervals : List MessageInterval}
    (past : ∀ interval ∈ intervals, interval.finish.nanos ≤ now.nanos) (window : WindowRef) :
    ∀ interval ∈ within ⟨window, now⟩ intervals, ¬interval.Long boot := by
  intro interval inside long
  have ⟨among, starts⟩ := mem_within.mp inside
  have ordered := tick_mono boot ((past interval among).trans starts)
  have above := MessageInterval.long_ticks long
  omega

/-- The interval that a message handled now ends. -/
def PowerDwell.interval (dwell : PowerDwell) (last now : Instant) : MessageInterval :=
  ⟨last, now, !dwell.powerSuspended⟩

theorem within_interval {opened : FocusedWindow} {dwell : PowerDwell} {last now : Instant}
    {intervals : List MessageInterval} (since : opened.focusedAt.nanos ≤ last.nanos) :
    within opened (dwell.interval last now :: intervals) =
      dwell.interval last now :: within opened intervals :=
  (within_cons opened _ intervals).trans (if_pos since)

namespace Tracked

variable {boot : Int} {dwell next : PowerDwell} {last now : Instant} {tick read : UInt64}
  {intervals : List MessageInterval}

theorem extend (tracked : Tracked boot dwell last intervals tick)
    (later : last.nanos ≤ now.nanos) :
    Tracked boot dwell now (dwell.interval last now :: intervals) tick := by
  have sooner := tick_mono boot later
  refine ⟨tracked.noted, tracked.reached.trans sooner, tracked.resumed, ?_, ?_, ?_, ?_, ?_⟩
  · intro interval member
    rcases List.mem_cons.mp member with same | old
    · rw [same]
      exact le_rfl
    · exact (tracked.past interval old).trans later
  · exact fun current isOpen => (tracked.opened current isOpen).trans later
  · intro current isOpen
    have since := tracked.opened current isOpen
    rw [within_interval since, List.map_cons, List.sum_cons, tracked.elapsed current isOpen]
    unfold MessageInterval.length PowerDwell.interval saturatingDurationSince
    dsimp only
    omega
  · intro current isOpen interval inside long
    rw [within_interval (tracked.opened current isOpen)] at inside
    rcases List.mem_cons.mp inside with same | old
    · rw [same] at long ⊢
      exact ⟨Bool.eq_false_of_not_eq_true' long.1, tracked.reached⟩
    · exact tracked.unseen current isOpen interval old long
  · intro suspended interval member long
    rcases List.mem_cons.mp member with same | old
    · rw [same] at long
      have awake := long.1
      unfold PowerDwell.interval at awake
      rw [suspended] at awake
      cases awake
    · exact tracked.asleep suspended interval old long

theorem reopen (tracked : Tracked boot dwell now intervals tick) (window : Option WindowRef)
    (noted : next.lastTimerTickMs = some read) (reached : read.toNat ≤ tickAt boot now)
    (resumed : ∀ moment, next.lastPowerResumeAt = some moment → tickAt boot moment ≤ read.toNat)
    (current : next.current = window.map fun window => ⟨window, now⟩)
    (asleep : next.powerSuspended = true →
      ∀ interval ∈ intervals, interval.Long boot → tickAt boot interval.start < read.toNat) :
    Tracked boot next now intervals read := by
  have isNew : ∀ opened, next.current = some opened → ∃ window, opened = ⟨window, now⟩ := by
    intro opened isOpen
    rw [current] at isOpen
    have ⟨window, _, same⟩ := Option.map_eq_some_iff.mp isOpen
    exact ⟨window, same.symm⟩
  refine ⟨noted, reached, resumed, tracked.past, ?_, ?_, ?_, asleep⟩
  · intro opened isOpen
    have ⟨window, same⟩ := isNew opened isOpen
    rw [same]
  · intro opened isOpen
    have ⟨window, same⟩ := isNew opened isOpen
    rw [same, within_new tracked.past]
    unfold saturatingDurationSince
    dsimp only
    omega
  · intro opened isOpen interval inside long
    have ⟨window, same⟩ := isNew opened isOpen
    rw [same] at inside
    exact absurd long (new_not_long tracked.past window interval inside)

theorem reread (tracked : Tracked boot dwell now intervals tick)
    (noted : next.lastTimerTickMs = some read) (reached : read.toNat ≤ tickAt boot now)
    (resumed : ∀ moment, next.lastPowerResumeAt = some moment → tickAt boot moment ≤ read.toNat)
    (current : next.current = dwell.current) (awake : next.powerSuspended = false)
    (short : ∀ opened, dwell.current = some opened →
      ∀ interval ∈ within opened intervals, ¬interval.Long boot) :
    Tracked boot next now intervals read := by
  refine ⟨noted, reached, resumed, tracked.past, ?_, ?_, ?_, ?_⟩
  · exact fun opened isOpen => tracked.opened opened (current.symm.trans isOpen)
  · exact fun opened isOpen => tracked.elapsed opened (current.symm.trans isOpen)
  · intro opened isOpen interval inside long
    exact absurd long (short opened (current.symm.trans isOpen) interval inside)
  · intro suspended
    rw [awake] at suspended
    cases suspended

theorem gap_shows (tracked : Tracked boot dwell now intervals tick)
    (isRead : read.toNat = tickAt boot now) (awake : dwell.powerSuspended = false)
    {interval : MessageInterval} (among : interval ∈ intervals) (long : interval.Long boot)
    (unseen : tick.toNat ≤ tickAt boot interval.start) :
    dwell.gapMs (some read) = some (.ofNat (read.toNat - tick.toNat)) := by
  have ends := tick_mono boot (tracked.past interval among)
  have above := MessageInterval.long_ticks long
  unfold PowerDwell.gapMs
  rw [awake, tracked.noted, if_neg Bool.false_ne_true, Option.bind_some, Option.bind_some, if_pos]
  unfold missedPowerBoundaryThresholdMs
  omega

theorem all_seen (tracked : Tracked boot dwell now intervals tick)
    (isRead : read.toNat = tickAt boot now) (awake : dwell.powerSuspended = false)
    (noGap : dwell.gapMs (some read) = none) :
    ∀ interval ∈ intervals, interval.Long boot → tickAt boot interval.start < tick.toNat := by
  intro interval among long
  by_contra unseen
  rw [tracked.gap_shows isRead awake among long (not_lt.mp unseen)] at noGap
  cases noGap

theorem repeat_seen (tracked : Tracked boot dwell now intervals tick)
    (duplicate : dwell.isDuplicateResume now = true) :
    ∀ interval ∈ intervals, interval.Long boot → tickAt boot interval.start < tick.toNat := by
  intro interval among long
  unfold PowerDwell.isDuplicateResume at duplicate
  rw [Bool.and_eq_true, Option.any_eq_true] at duplicate
  have ⟨moment, isLast, recent⟩ := duplicate.2
  have noted := tracked.resumed moment isLast
  have ends := tick_mono boot (tracked.past interval among)
  have above := MessageInterval.long_ticks long
  have soon := of_decide_eq_true recent
  unfold saturatingDurationSince powerResumeDebounce millisecond at soon
  have close : tickAt boot now ≤ tickAt boot moment + 2001 := by
    unfold tickAt millisecond
    omega
  omega

theorem short_of_seen (tracked : Tracked boot dwell now intervals tick)
    (seen : ∀ interval ∈ intervals, interval.Long boot →
      tickAt boot interval.start < tick.toNat) :
    ∀ opened, dwell.current = some opened →
      ∀ interval ∈ within opened intervals, ¬interval.Long boot := by
  intro opened isOpen interval inside long
  have unseen := (tracked.unseen opened isOpen interval inside long).2
  have known := seen interval (mem_within.mp inside).1 long
  omega

end Tracked

/-- What a message must not do: close a segment for its whole length over a long interval not
yet looked for, or suspend after one or while power is suspended. -/
structure Heeds (boot : Int) (dwell : PowerDwell) (call : CaptureCall)
    (intervals : List MessageInterval) (tick : UInt64) : Prop where
  closes : ∀ opened, call.fullClose dwell = some opened →
    ∀ interval ∈ within opened intervals, interval.Long boot →
      tickAt boot interval.start < tick.toNat
  suspends : call.suspends = true → dwell.powerSuspended = false ∧
    ∀ interval ∈ intervals, interval.Long boot → tickAt boot interval.start < tick.toNat

theorem full_close_current {dwell : PowerDwell} {call : CaptureCall} {opened : FocusedWindow}
    (full : call.fullClose dwell = some opened) : dwell.current = some opened := by
  unfold CaptureCall.fullClose at full
  split at full
  · have ⟨window, _, kept⟩ := Option.bind_eq_some_iff.mp full
    exact (Option.filter_eq_some_iff.mp kept).1
  · exact full
  · exact (Option.filter_eq_some_iff.mp full).1
  · cases full

section Turns

variable {boot : Int} {dwell next : PowerDwell} {call : CaptureCall} {now : Instant}
  {tick read : UInt64} {intervals : List MessageInterval} {marks : List DwellMark}

theorem turn_tracked (tracked : Tracked boot dwell now intervals tick)
    (isRead : read.toNat = tickAt boot now) (heeds : Heeds boot dwell call intervals tick)
    (turn : DwellTurn dwell call now read next marks) :
    ∃ after, Tracked boot next now intervals after := by
  have ahead : tick.toNat ≤ read.toNat := tracked.reached.trans_eq isRead.symm
  have resumedNow : ∀ moment, some now = some moment → tickAt boot moment ≤ read.toNat := by
    intro moment same
    rw [← Option.some.inj same, isRead]
  cases turn with
  | quiet => exact ⟨tick, tracked⟩
  | opens _ window =>
      exact ⟨tick, tracked.reopen (some window) tracked.noted tracked.reached tracked.resumed rfl
        tracked.asleep⟩
  | closes _ window opened full =>
      exact ⟨tick, tracked.reopen window tracked.noted tracked.reached tracked.resumed
        rfl tracked.asleep⟩
  | suspends notice full =>
      have seen := (heeds.suspends notice).2
      refine ⟨read, tracked.reopen none rfl isRead.le (by simp) rfl ?_⟩
      intro _ interval among long
      exact (seen interval among long).trans_le ahead
  | ticks awake noGap =>
      have seen := tracked.all_seen isRead awake noGap
      refine ⟨read, tracked.reread rfl isRead.le ?_ rfl awake (tracked.short_of_seen seen)⟩
      exact fun moment isLast => (tracked.resumed moment isLast).trans ahead
  | repeats duplicate =>
      have seen := tracked.repeat_seen duplicate
      have awake : dwell.powerSuspended = false := by
        unfold PowerDwell.isDuplicateResume at duplicate
        rw [Bool.and_eq_true, Bool.not_eq_true'] at duplicate
        exact duplicate.1
      exact ⟨read, tracked.reread rfl isRead.le resumedNow rfl awake
        (tracked.short_of_seen seen)⟩
  | wakes suspended window =>
      cases window with
      | some window =>
          exact ⟨read, tracked.reopen (some window) rfl isRead.le resumedNow rfl (by simp)⟩
      | none =>
          refine ⟨read, tracked.reread rfl isRead.le resumedNow rfl rfl ?_⟩
          exact tracked.short_of_seen (tracked.asleep suspended)
  | recovers _ _ window =>
      exact ⟨read, tracked.reopen window rfl isRead.le resumedNow rfl (by simp)⟩
  | resumes _ _ window =>
      exact ⟨read, tracked.reopen window rfl isRead.le resumedNow rfl (by simp)⟩

/-- A dwell that was not cut counts the segment's intervals, where none is long. -/
theorem full_counted (tracked : Tracked boot dwell now intervals tick) {opened : FocusedWindow}
    (isOpen : dwell.current = some opened)
    (short : ∀ interval ∈ within opened intervals, ¬interval.Long boot) :
    (durationMs (saturatingDurationSince now opened.focusedAt)).toNat * millisecond ≤
      countedTime boot intervals opened := by
  unfold countedTime
  rw [counted_of_short short, tracked.elapsed opened isOpen]
  exact Core.duration_ms_le _

theorem capped_counted (tracked : Tracked boot dwell now intervals tick) {opened : FocusedWindow}
    (isOpen : dwell.current = some opened) :
    (durationMs (ForegroundState.attributedDwell opened now
        (some missedPowerBoundaryMaxDwell))).toNat * millisecond ≤
      countedTime boot intervals opened := by
  have capped := capped_le_counted boot (within opened intervals)
  rw [tracked.elapsed opened isOpen] at capped
  exact (Core.duration_ms_le _).trans capped

theorem full_short (tracked : Tracked boot dwell now intervals tick)
    (heeds : Heeds boot dwell call intervals tick) {opened : FocusedWindow}
    (full : call.fullClose dwell = some opened) :
    ∀ interval ∈ within opened intervals, ¬interval.Long boot := by
  intro interval inside long
  have unseen := (tracked.unseen opened (full_close_current full) interval inside long).2
  have seen := heeds.closes opened full interval inside long
  omega

theorem turn_dwell (tracked : Tracked boot dwell now intervals tick)
    (heeds : Heeds boot dwell call intervals tick)
    (turn : DwellTurn dwell call now read next marks) {previousMs : UInt64}
    (reported : .focus previousMs ∈ marks) :
    previousMs.toNat * millisecond ≤ dwell.current.elim 0 (countedTime boot intervals) := by
  have seeded : ∀ window, .focus previousMs ∈ (dwell.seed window now).2 →
      previousMs.toNat * millisecond ≤ dwell.current.elim 0 (countedTime boot intervals) := by
    intro window member
    have ⟨_, _, same⟩ := List.mem_map.mp member
    rw [← DwellMark.focus.inj same]
    exact (Nat.zero_mul _).trans_le (Nat.zero_le _)
  have ended : .focus previousMs ∈
        (dwell.endCurrent now (some missedPowerBoundaryMaxDwell)).2 →
      previousMs.toNat * millisecond ≤ dwell.current.elim 0 (countedTime boot intervals) := by
    intro member
    have ⟨opened, isOpen, same⟩ := List.mem_map.mp member
    have current := Option.mem_toList.mp isOpen
    rw [← DwellMark.focus.inj same, current]
    exact capped_counted tracked current
  cases turn with
  | quiet => cases reported
  | opens _ window =>
      rw [DwellMark.focus.inj (List.mem_singleton.mp reported)]
      exact (Nat.zero_mul _).trans_le (Nat.zero_le _)
  | closes _ window opened full =>
      have current := full_close_current full
      rw [DwellMark.focus.inj (List.mem_singleton.mp reported), current]
      exact full_counted tracked current (full_short tracked heeds full)
  | suspends notice full =>
      rcases List.mem_append.mp reported with closed | told
      · have ⟨opened, isOpen, same⟩ := List.mem_map.mp closed
        have current := Option.mem_toList.mp isOpen
        rw [← DwellMark.focus.inj same, current]
        exact full_counted tracked current (full_short tracked heeds (full.trans current))
      · cases List.mem_singleton.mp told
  | ticks => cases reported
  | repeats => cases reported
  | wakes _ window =>
      rcases List.mem_append.mp reported with shown | told
      · exact seeded window shown
      · cases List.mem_singleton.mp told
  | recovers _ _ window notice unmatched =>
      rcases List.mem_append.mp reported with shown | told
      · exact (List.mem_append.mp shown).elim ended (seeded window)
      · rcases List.mem_cons.mp told with gone | notified
        · cases gone
        · cases unmatched _ notified
  | resumes _ _ window =>
      rcases List.mem_append.mp reported with shown | told
      · exact (List.mem_append.mp shown).elim ended (seeded window)
      · cases List.mem_singleton.mp told

/-- What was told of the intervals so far. -/
structure Told (boot : Int) (intervals : List MessageInterval) (tick : UInt64)
    (told : List DwellMark) : Prop where
  early : ∀ gapMs moment, .recovered gapMs moment ∈ told → tickAt boot moment ≤ tick.toNat
  unseen : ∀ interval ∈ intervals, interval.Long boot → tick.toNat ≤ tickAt boot interval.start →
    told.countP (DwellMark.reports boot interval) = 0
  once : ∀ interval ∈ intervals, interval.Long boot → tickAt boot interval.start < tick.toNat →
    told.countP (DwellMark.reports boot interval) = 1

def DwellMark.Plain (mark : DwellMark) : Prop :=
  ∀ gapMs moment, mark ≠ .recovered gapMs moment

theorem plain_reports {mark : DwellMark} (plain : mark.Plain) (boot : Int)
    (interval : MessageInterval) : mark.reports boot interval = false := by
  cases mark with
  | recovered gapMs moment => exact absurd rfl (plain gapMs moment)
  | focus | suspend | resume => rfl

theorem plain_count {marks : List DwellMark} (plain : ∀ mark ∈ marks, mark.Plain) (boot : Int)
    (interval : MessageInterval) : marks.countP (DwellMark.reports boot interval) = 0 := by
  apply List.countP_eq_zero.mpr
  intro mark member isReport
  rw [plain_reports (plain mark member)] at isReport
  cases isReport

theorem told_extend {last : Instant} {told : List DwellMark}
    (tracked : Tracked boot dwell last intervals tick) (so : Told boot intervals tick told) :
    Told boot (dwell.interval last now :: intervals) tick told := by
  refine ⟨so.early, ?_, ?_⟩
  · intro interval member long unseen
    rcases List.mem_cons.mp member with same | old
    · apply List.countP_eq_zero.mpr
      intro mark told isReport
      cases mark with
      | recovered gapMs moment =>
          have ends := (of_decide_eq_true isReport).2
          have early := so.early gapMs moment told
          have above := MessageInterval.long_ticks long
          omega
      | focus | suspend | resume => cases isReport
    · exact so.unseen interval old long unseen
  · intro interval member long seen
    rcases List.mem_cons.mp member with same | old
    · rw [same] at seen
      exact absurd (tracked.reached.trans_lt seen) (lt_irrefl _)
    · exact so.once interval old long seen

theorem told_keeps {told : List DwellMark} (so : Told boot intervals tick told)
    (plain : ∀ mark ∈ marks, mark.Plain) : Told boot intervals tick (told ++ marks) := by
  refine ⟨?_, ?_, ?_⟩
  · intro gapMs moment member
    rcases List.mem_append.mp member with old | new
    · exact so.early gapMs moment old
    · exact absurd rfl (plain _ new gapMs moment)
  · intro interval member long unseen
    rw [List.countP_append, plain_count plain, so.unseen interval member long unseen]
  · intro interval member long seen
    rw [List.countP_append, plain_count plain, so.once interval member long seen]

theorem told_rereads {told : List DwellMark} (tracked : Tracked boot dwell now intervals tick)
    (isRead : read.toNat = tickAt boot now) (so : Told boot intervals tick told)
    (seen : ∀ interval ∈ intervals, interval.Long boot →
      tickAt boot interval.start < tick.toNat) : Told boot intervals read told := by
  refine ⟨?_, ?_, ?_⟩
  · intro gapMs moment member
    exact (so.early gapMs moment member).trans (tracked.reached.trans_eq isRead.symm)
  · intro interval member long unseen
    have ends := tick_mono boot (tracked.past interval member)
    have above := MessageInterval.long_ticks long
    omega
  · intro interval member long _
    exact so.once interval member long (seen interval member long)

theorem gap_value {gapMs : UInt64} (noted : dwell.lastTimerTickMs = some tick)
    (gap : dwell.gapMs (some read) = some gapMs) :
    tick.toNat + gapMs.toNat = read.toNat := by
  unfold PowerDwell.gapMs at gap
  rw [noted, Option.bind_some, Option.bind_some] at gap
  split_ifs at gap with _ above
  rw [← Option.some.inj gap, UInt64.toNat_ofNat']
  have bound := read.toNat_lt
  unfold missedPowerBoundaryThresholdMs at above
  omega

theorem told_recovers {told : List DwellMark} (tracked : Tracked boot dwell now intervals tick)
    (isRead : read.toNat = tickAt boot now) (so : Told boot intervals tick told)
    {gapMs : UInt64} (gap : dwell.gapMs (some read) = some gapMs) :
    Told boot intervals read (told ++ [.recovered gapMs now]) := by
  have value := gap_value tracked.noted gap
  have ahead : tick.toNat ≤ read.toNat := by omega
  have shows : ∀ interval ∈ intervals, DwellMark.reports boot interval (.recovered gapMs now) =
      decide (tick.toNat ≤ tickAt boot interval.start) := by
    intro interval member
    have ends := tick_mono boot (tracked.past interval member)
    unfold DwellMark.reports
    apply decide_eq_decide.mpr
    omega
  refine ⟨?_, ?_, ?_⟩
  · intro otherMs moment member
    rcases List.mem_append.mp member with old | new
    · exact (so.early otherMs moment old).trans ahead
    · rw [(DwellMark.recovered.inj (List.mem_singleton.mp new)).2, isRead]
  · intro interval member long unseen
    have ends := tick_mono boot (tracked.past interval member)
    have above := MessageInterval.long_ticks long
    omega
  · intro interval member long _
    rw [List.countP_append, List.countP_singleton, shows interval member]
    by_cases unseen : tick.toNat ≤ tickAt boot interval.start
    · rw [so.unseen interval member long unseen, decide_eq_true unseen]
      rfl
    · rw [so.once interval member long (not_le.mp unseen), decide_eq_false unseen]
      rfl

theorem plain_filter {lets : DwellMark → Bool} (plain : ∀ mark ∈ marks, mark.Plain) :
    ∀ mark ∈ marks.filter lets, mark.Plain :=
  fun mark member => plain mark (List.mem_filter.mp member).1

theorem ended_plain (dwell : PowerDwell) (now : Instant) (maxDuration : Option Nat) :
    ∀ mark ∈ (dwell.endCurrent now maxDuration).2, mark.Plain := by
  intro mark member gapMs moment
  have ⟨_, _, same⟩ := List.mem_map.mp member
  rw [← same]
  exact DwellMark.noConfusion

theorem seeded_plain (dwell : PowerDwell) (window : Option WindowRef) (now : Instant) :
    ∀ mark ∈ (dwell.seed window now).2, mark.Plain := by
  intro mark member gapMs moment
  have ⟨_, _, same⟩ := List.mem_map.mp member
  rw [← same]
  exact DwellMark.noConfusion

theorem turn_told {told : List DwellMark} {lets : DwellMark → Bool}
    (tracked : Tracked boot dwell now intervals tick) (isRead : read.toNat = tickAt boot now)
    (heeds : Heeds boot dwell call intervals tick) (so : Told boot intervals tick told)
    (gate : ∀ gapMs moment, lets (.recovered gapMs moment) = true)
    (turn : DwellTurn dwell call now read next marks) {after : UInt64}
    (noted : next.lastTimerTickMs = some after) :
    Told boot intervals after (told ++ marks.filter lets) := by
  cases turn with
  | quiet =>
      rw [Option.some.inj (noted.symm.trans tracked.noted)]
      exact told_keeps so (by simp)
  | opens _ window =>
      rw [Option.some.inj (noted.symm.trans tracked.noted)]
      exact told_keeps so (plain_filter (by simp [DwellMark.Plain]))
  | closes _ window opened full =>
      rw [Option.some.inj (noted.symm.trans tracked.noted)]
      exact told_keeps so (plain_filter (by simp [DwellMark.Plain]))
  | suspends notice full =>
      rw [← Option.some.inj noted]
      have seen := told_rereads tracked isRead so (heeds.suspends notice).2
      apply told_keeps seen (plain_filter _)
      simp only [List.forall_mem_append, List.forall_mem_singleton]
      exact ⟨ended_plain dwell now none, by simp [DwellMark.Plain]⟩
  | ticks awake noGap =>
      rw [← Option.some.inj noted]
      exact told_keeps (told_rereads tracked isRead so (tracked.all_seen isRead awake noGap))
        (by simp)
  | repeats duplicate =>
      rw [← Option.some.inj noted]
      exact told_keeps (told_rereads tracked isRead so (tracked.repeat_seen duplicate)) (by simp)
  | wakes suspended window =>
      rw [← Option.some.inj noted]
      apply told_keeps (told_rereads tracked isRead so (tracked.asleep suspended)) (plain_filter _)
      simp only [List.forall_mem_append, List.forall_mem_singleton]
      exact ⟨seeded_plain dwell window now, by simp [DwellMark.Plain]⟩
  | recovers gapMs gap window notice unmatched =>
      rw [← Option.some.inj noted]
      rw [List.filter_append, List.filter_cons_of_pos (gate gapMs now), List.append_cons,
        ← List.append_assoc, ← List.append_assoc]
      apply told_keeps _ (plain_filter _)
      · apply told_recovers tracked isRead _ gap
        apply told_keeps so (plain_filter _)
        simp only [List.forall_mem_append]
        exact ⟨ended_plain dwell now _, seeded_plain dwell window now⟩
      · intro mark member otherMs moment
        rw [unmatched mark member]
        exact DwellMark.noConfusion
  | resumes awake noGap window =>
      rw [← Option.some.inj noted]
      apply told_keeps (told_rereads tracked isRead so (tracked.all_seen isRead awake noGap))
        (plain_filter _)
      simp only [List.forall_mem_append, List.forall_mem_singleton]
      exact ⟨⟨ended_plain dwell now _, seeded_plain dwell window now⟩, by simp [DwellMark.Plain]⟩

/-- A suspend notice opens, its resume closes. -/
def powerMark : DwellMark → Option Mark
  | .suspend => some .opens
  | .resume true => some .closes
  | _ => none

/-- Suspend notices and their resumes alternate, and the last tells whether one is open. -/
structure Alternates (dwell : PowerDwell) (told : List DwellMark) : Prop where
  legal : Legal false (told.filterMap powerMark)
  isOpen : Alternation.after false (told.filterMap powerMark) = dwell.powerSuspended

theorem alternates_keeps {told : List DwellMark} (alternates : Alternates dwell told)
    (same : next.powerSuspended = dwell.powerSuspended)
    (unmarked : ∀ mark ∈ marks, powerMark mark = none) :
    Alternates next (told ++ marks) := by
  have nothing : marks.filterMap powerMark = [] := List.filterMap_eq_nil_iff.mpr unmarked
  refine ⟨?_, ?_⟩
  · rw [List.filterMap_append, nothing, List.append_nil]
    exact alternates.legal
  · rw [List.filterMap_append, nothing, List.append_nil, same]
    exact alternates.isOpen

theorem alternates_turns {told : List DwellMark} (alternates : Alternates dwell told)
    {mark : DwellMark} {kind : Mark} (marked : powerMark mark = some kind)
    (fits : kind.Fits dwell.powerSuspended) (isOpen : kind.leaves = next.powerSuspended) :
    Alternates next (told ++ [mark]) := by
  refine ⟨?_, ?_⟩
  · rw [List.filterMap_append, List.filterMap_cons_some marked, Alternation.legal_append,
      alternates.isOpen]
    exact ⟨alternates.legal, fits, trivial⟩
  · rw [List.filterMap_append, List.filterMap_cons_some marked, Alternation.after_append]
    exact isOpen

theorem unmarked_filter {lets : DwellMark → Bool}
    (unmarked : ∀ mark ∈ marks, powerMark mark = none) :
    ∀ mark ∈ marks.filter lets, powerMark mark = none :=
  fun mark member => unmarked mark (List.mem_filter.mp member).1

theorem ended_unmarked (dwell : PowerDwell) (now : Instant) (maxDuration : Option Nat) :
    ∀ mark ∈ (dwell.endCurrent now maxDuration).2, powerMark mark = none := by
  intro mark member
  have ⟨_, _, same⟩ := List.mem_map.mp member
  rw [← same]
  rfl

theorem seeded_unmarked (dwell : PowerDwell) (window : Option WindowRef) (now : Instant) :
    ∀ mark ∈ (dwell.seed window now).2, powerMark mark = none := by
  intro mark member
  have ⟨_, _, same⟩ := List.mem_map.mp member
  rw [← same]
  rfl

theorem turn_alternates {told : List DwellMark} {lets : DwellMark → Bool}
    (heeds : Heeds boot dwell call intervals tick) (alternates : Alternates dwell told)
    (gate : lets .suspend = true ∧ lets (.resume true) = true)
    (turn : DwellTurn dwell call now read next marks) :
    Alternates next (told ++ marks.filter lets) := by
  cases turn with
  | quiet => exact alternates_keeps alternates rfl (by simp)
  | opens _ window =>
      exact alternates_keeps alternates rfl (unmarked_filter (by simp [powerMark]))
  | closes _ window opened full =>
      exact alternates_keeps alternates rfl (unmarked_filter (by simp [powerMark]))
  | suspends notice full =>
      have awake := (heeds.suspends notice).1
      rw [List.filter_append, List.filter_cons_of_pos gate.1, ← List.append_assoc]
      have ended : Alternates dwell (told ++ (dwell.endCurrent now none).2.filter lets) :=
        alternates_keeps alternates rfl (unmarked_filter (ended_unmarked dwell now none))
      exact alternates_turns ended rfl awake rfl
  | ticks awake noGap => exact alternates_keeps alternates rfl (by simp)
  | repeats duplicate => exact alternates_keeps alternates rfl (by simp)
  | wakes suspended window =>
      rw [List.filter_append, List.filter_cons_of_pos gate.2, ← List.append_assoc]
      have seeded : Alternates dwell (told ++ (dwell.seed window now).2.filter lets) :=
        alternates_keeps alternates rfl (unmarked_filter (seeded_unmarked dwell window now))
      exact alternates_turns seeded rfl suspended rfl
  | recovers gapMs gap window notice unmatched =>
      apply alternates_keeps alternates (PowerDwell.awake_of_gap gap).symm (unmarked_filter _)
      simp only [List.forall_mem_append, List.forall_mem_cons]
      refine ⟨⟨ended_unmarked dwell now _, seeded_unmarked dwell window now⟩, rfl, ?_⟩
      intro mark member
      rw [unmatched mark member]
      rfl
  | resumes awake noGap window =>
      apply alternates_keeps alternates awake.symm (unmarked_filter _)
      simp only [List.forall_mem_append, List.forall_mem_singleton]
      exact ⟨⟨ended_unmarked dwell now _, seeded_unmarked dwell window now⟩, rfl⟩

end Turns

end Gilbreth.Windows
