import Gilbreth.Library.WallClock
import Gilbreth.Library.Spans
import Gilbreth.Read.Focus

/-!
# Local hours and days

The heatmap splits active time by local hour, the exposure metrics by local day. `chrono` is
outside the repository: a zone is its offset in force at each instant with the instants that
a local time names. Instants and naive local times are milliseconds from the epoch, a naive
date its days from the epoch. A panic is `none`.
-/

set_option autoImplicit false

namespace Gilbreth.Read

open Spans WallClock

inductive LocalResult (Value : Type) where
  | single (value : Value)
  | ambiguous (first second : Value)
  | none
deriving DecidableEq

def LocalResult.values {Value : Type} : LocalResult Value → List Value
  | .single value => [value]
  | .ambiguous first second => [first, second]
  | .none => []

def timestampMillisOpt (ts : Int) : LocalResult Int := .single ts

def dateNaive (naive : Int) : Int := naive / 86400000

def hourOf (naive : Int) : Int := naive % 86400000 / 3600000

def andHmsOpt (date : Int) (hour minute second : Int) : Option Int :=
  if 0 ≤ hour ∧ hour < 24 ∧ 0 ≤ minute ∧ minute < 60 ∧ 0 ≤ second ∧ second < 60 then
    some (date * 86400000 + hour * 3600000 + minute * 60000 + second * 1000)
  else none

def numDaysFromMonday (date : Int) : Int := (date + 3) % 7

section Format

/-- Year, month and day, in 400-year cycles that start on the first of March. -/
def civil (date : Int) : Int × Nat × Nat :=
  let era := (date + 719468) / 146097
  let dayOfEra := ((date + 719468) % 146097).toNat
  let yearOfEra := (dayOfEra - dayOfEra / 1460 + dayOfEra / 36524 - dayOfEra / 146096) / 365
  let dayOfYear := dayOfEra - (365 * yearOfEra + yearOfEra / 4 - yearOfEra / 100)
  let shifted := (5 * dayOfYear + 2) / 153
  let day := dayOfYear - (153 * shifted + 2) / 5 + 1
  let month := if shifted < 10 then shifted + 3 else shifted - 9
  let year := era * 400 + yearOfEra
  (if month ≤ 2 then year + 1 else year, month, day)

def zeroPadded (width number : Nat) : String :=
  let digits := toString number
  String.ofList (List.replicate (width - digits.length) '0') ++ digits

/-- `%Y` signs the years of more than four digits and those before year 0. -/
def formatYear (year : Int) : String :=
  if year < 0 then "-" ++ zeroPadded 4 year.natAbs
  else if year ≤ 9999 then zeroPadded 4 year.natAbs
  else "+" ++ zeroPadded 4 year.natAbs

/-- `%Y-%m-%d`. -/
def formatDate (date : Int) : String :=
  let parts := civil date
  formatYear parts.1 ++ "-" ++ zeroPadded 2 parts.2.1 ++ "-" ++ zeroPadded 2 parts.2.2

example : formatDate 19782 = "2024-02-29" := by decide +kernel

end Format

/-- The offset is in seconds. It changes at a full hour on the clock before or after the
change, by at most an hour, and not twice within a day. A local time names the instants that
read it, the earlier first. -/
structure Zone where
  localMinusUtc : Int → Int
  fromLocalDatetime : Int → LocalResult Int
  full_hour : ∀ ts, localMinusUtc ts ≠ localMinusUtc (ts - 1) →
    3600000 ∣ ts + 1000 * localMinusUtc (ts - 1) ∨ 3600000 ∣ ts + 1000 * localMinusUtc ts
  hour_at_most : ∀ ts, localMinusUtc (ts - 1) - 3600 ≤ localMinusUtc ts ∧
    localMinusUtc ts ≤ localMinusUtc (ts - 1) + 3600
  day_apart : ∀ first second, localMinusUtc first ≠ localMinusUtc (first - 1) →
    localMinusUtc second ≠ localMinusUtc (second - 1) → first < second →
      first + 86400000 ≤ second
  names : ∀ naive ts, ts ∈ (fromLocalDatetime naive).values ↔
    ts + 1000 * localMinusUtc ts = naive
  earlier_first : ∀ naive first second,
    fromLocalDatetime naive = .ambiguous first second → first < second

namespace Zone

variable (zone : Zone)

/-- What local clocks show at an instant. -/
def naiveLocal (ts : Int) : Int := ts + 1000 * zone.localMinusUtc ts

def localDateOf (ts : Int) : Option Int :=
  match timestampMillisOpt ts with
  | .single instant => some (dateNaive (zone.naiveLocal instant))
  | .ambiguous first _ => some (dateNaive (zone.naiveLocal first))
  | .none => none

/-- The loop of `pre_gap_offset_seconds_with`, with the probes left. -/
def preGapOffsetSecondsFrom (offsetAt : Int → Option Int) :
    Nat → Int → Option Int
  | 0, _ => none
  | probes + 1, probe =>
      match offsetAt (probe - 60000) with
      | some offset => some offset
      | none => preGapOffsetSecondsFrom offsetAt probes (probe - 60000)

def preGapOffsetSecondsWith (naive : Int) (offsetAt : Int → Option Int) :
    Option Int :=
  preGapOffsetSecondsFrom offsetAt (2 * 24 * 60 + 1) naive

/-- The offset at the latest instant that reads a probe. -/
def probedOffset (probe : Int) : Option Int :=
  match zone.fromLocalDatetime probe with
  | .single instant => some (zone.localMinusUtc instant)
  | .ambiguous _ latest => some (zone.localMinusUtc latest)
  | .none => none

def localNaiveDatetimeMs (naive : Int) : Option Int :=
  match zone.fromLocalDatetime naive with
  | .single instant => some instant
  | .ambiguous first _ => some first
  | .none =>
      (preGapOffsetSecondsWith naive zone.probedOffset).map fun seconds => naive - seconds * 1000

def localMidnightMs (date : Int) : Option Int :=
  zone.localNaiveDatetimeMs (date * 86400000)

def localDayStartMs (nowMs : Int) : Option Int :=
  (zone.localDateOf nowMs).bind zone.localMidnightMs

end Zone

inductive LocalBoundaryCandidates where
  | single (candidate : Int)
  | ambiguous (first second : Int)
deriving DecidableEq

def Zone.localBoundaryCandidates (zone : Zone) (naive : Int) :
    Option LocalBoundaryCandidates :=
  match zone.fromLocalDatetime naive with
  | .single instant => some (.single instant)
  | .ambiguous first second => some (.ambiguous first second)
  | .none => (zone.localNaiveDatetimeMs naive).map .single

def ambiguousCandidateAfter (firstMs secondMs cursorMs : Int) : Int :=
  let ordered := if firstMs ≤ secondMs then (firstMs, secondMs) else (secondMs, firstMs)
  if ordered.1 > cursorMs then ordered.1 else ordered.2

section Splitters

/-- What a splitter finds at its cursor: a piece and the boundary it looks for, or an instant
without local time. -/
inductive AtCursor (Label : Type) where
  | piece (label : Label) (candidate : Int)
  | unlabelled
  | panics
deriving DecidableEq

/-- A boundary that is not ahead gives way to the end. -/
def boundaryAfter (endMs candidate cursor : Int) : Int :=
  if min endMs candidate ≤ cursor then endMs else min endMs candidate

theorem lt_boundary_after {endMs candidate cursor : Int} (inside : cursor < endMs) :
    cursor < boundaryAfter endMs candidate cursor := by
  rw [boundaryAfter]
  split <;> omega

def splitLoop {Label : Type} (look : Int → AtCursor Label) (endMs : Int)
    (pieces : List (Label × Int)) (cursor : Int) : Option (List (Label × Int)) :=
  if _ : cursor < endMs then
    match look cursor with
    | .piece label candidate =>
        splitLoop look endMs
          (pieces ++ [(label, boundaryAfter endMs candidate cursor - cursor)])
          (boundaryAfter endMs candidate cursor)
    | .unlabelled => some []
    | .panics => none
  else some pieces
termination_by (endMs - cursor).toNat
decreasing_by
  have progress := @lt_boundary_after endMs candidate cursor ‹cursor < endMs›
  omega

/-- The body of the loop of `split_ms_interval_by_local_day`. -/
def Zone.lookByLocalDay (zone : Zone) (cursor : Int) : AtCursor String :=
  match zone.localDateOf cursor with
  | none => .panics
  | some date =>
      match zone.localMidnightMs (date + 1) with
      | none => .panics
      | some nextMidnight => .piece (formatDate date) nextMidnight

def Zone.splitMsIntervalByLocalDay (zone : Zone) (startMs endMs : Int) :
    Option (List (String × Int)) :=
  if endMs ≤ startMs then some [] else splitLoop zone.lookByLocalDay endMs [] startMs

structure WeekdayHour where
  weekday : Int
  hour : Int
deriving DecidableEq

/-- The body of the loop of `split_ms_by_weekday_hour_with`. -/
def lookByWeekdayHour (localHourAt : Int → Option (Int × Int))
    (boundaryCandidates : Int → Option LocalBoundaryCandidates) (cursor : Int) :
    AtCursor WeekdayHour :=
  match localHourAt cursor with
  | none => .unlabelled
  | some (localDate, localHour) =>
      let label : WeekdayHour := { weekday := numDaysFromMonday localDate, hour := localHour }
      match (andHmsOpt localDate localHour 0 0).bind
          (fun started => boundaryCandidates (started + 3600000)) with
      | none => .panics
      | some (.single candidate) => .piece label candidate
      | some (.ambiguous first second) =>
          .piece label (ambiguousCandidateAfter first second cursor)

def splitMsByWeekdayHourWith (startMs endMs : Int)
    (localHourAt : Int → Option (Int × Int))
    (boundaryCandidates : Int → Option LocalBoundaryCandidates) :
    Option (List (WeekdayHour × Int)) :=
  if endMs ≤ startMs then some []
  else splitLoop (lookByWeekdayHour localHourAt boundaryCandidates) endMs [] startMs

def Zone.localHourAt (zone : Zone) (cursor : Int) : Option (Int × Int) :=
  match timestampMillisOpt cursor with
  | .single instant =>
      some (dateNaive (zone.naiveLocal instant), hourOf (zone.naiveLocal instant))
  | .ambiguous first _ => some (dateNaive (zone.naiveLocal first), hourOf (zone.naiveLocal first))
  | .none => none

def Zone.splitMsByWeekdayHour (zone : Zone) (startMs endMs : Int) :
    Option (List (WeekdayHour × Int)) :=
  splitMsByWeekdayHourWith startMs endMs zone.localHourAt zone.localBoundaryCandidates

end Splitters

section Pieces

variable {Label Shown : Type}

/-- The pieces with the spans they take one after another. -/
def placed : Int → List (Label × Int) → List (Label × Span)
  | _, [] => []
  | startMs, piece :: rest =>
      (piece.1, (startMs, startMs + piece.2)) :: placed (startMs + piece.2) rest

/-- Positive pieces of the whole stretch, each in one local hour or day and labelled by it. -/
structure SplitExactly (shownAt : Int → Shown) (write : Shown → Label) (startMs endMs : Int)
    (pieces : List (Label × Int)) : Prop where
  positive : ∀ piece ∈ pieces, 0 < piece.2
  total : (pieces.map Prod.snd).sum = endMs - startMs
  labelled : ∀ piece ∈ placed startMs pieces, ∃ shown, piece.1 = write shown ∧
    ∀ ts, piece.2.1 ≤ ts → ts < piece.2.2 → shownAt ts = shown

variable {shownAt : Int → Shown} {write : Shown → Label} {startMs middle endMs : Int}

theorem split_exactly_nil : SplitExactly shownAt write endMs endMs [] where
  positive _ member := nomatch member
  total := by simp
  labelled _ member := nomatch member

theorem split_exactly_cons {pieces : List (Label × Int)} (order : startMs < middle)
    (same : ∀ ts, startMs ≤ ts → ts < middle → shownAt ts = shownAt startMs)
    (rest : SplitExactly shownAt write middle endMs pieces) :
    SplitExactly shownAt write startMs endMs
      ((write (shownAt startMs), middle - startMs) :: pieces) where
  positive piece member := by
    rcases List.mem_cons.mp member with own | later
    · rw [own]
      dsimp only
      omega
    · exact rest.positive piece later
  total := by
    rw [List.map_cons, List.sum_cons, rest.total]
    dsimp only
    omega
  labelled piece member := by
    rw [placed, show startMs + (middle - startMs) = middle by omega] at member
    rcases List.mem_cons.mp member with own | later
    · rw [own]
      exact ⟨shownAt startMs, rfl, same⟩
    · exact rest.labelled piece later

/-- A splitter that finds, at each cursor, how far the label there reaches. -/
def FindsReach (shownAt : Int → Shown) (write : Shown → Label)
    (look : Int → AtCursor Label) : Prop :=
  ∀ cursor, ∃ candidate, look cursor = .piece (write (shownAt cursor)) candidate ∧
    cursor < candidate ∧ ∀ ts, cursor ≤ ts → ts < candidate → shownAt ts = shownAt cursor

theorem split_loop_exact {look : Int → AtCursor Label} (finds : FindsReach shownAt write look)
    (endMs : Int) (pieces : List (Label × Int)) (cursor : Int) (order : cursor ≤ endMs) :
    ∃ rest, splitLoop look endMs pieces cursor = some (pieces ++ rest) ∧
      SplitExactly shownAt write cursor endMs rest := by
  induction left : (endMs - cursor).toNat using Nat.strong_induction_on
    generalizing pieces cursor with
  | _ left induction =>
      rw [splitLoop]
      by_cases inside : cursor < endMs
      · rcases finds cursor with ⟨candidate, found, ahead, same⟩
        have boundary : boundaryAfter endMs candidate cursor = min endMs candidate := by
          rw [boundaryAfter, if_neg (by omega)]
        rw [dif_pos inside, found]
        dsimp only
        rw [boundary]
        rcases induction (endMs - min endMs candidate).toNat (by omega)
          (pieces ++ [(write (shownAt cursor), min endMs candidate - cursor)])
          (min endMs candidate) (by omega) rfl with ⟨rest, done, exact⟩
        refine ⟨(write (shownAt cursor), min endMs candidate - cursor) :: rest, ?_, ?_⟩
        · rw [done, List.append_assoc, List.singleton_append]
        · apply split_exactly_cons (by omega) _ exact
          intro ts after before
          exact same ts after (by omega)
      · have ended : cursor = endMs := by omega
        rw [dif_neg inside, ended]
        exact ⟨[], by rw [List.append_nil], split_exactly_nil⟩

end Pieces

namespace Zone

variable (zone : Zone)

theorem jumps_iff (ts : Int) :
    Jumps zone.naiveLocal ts ↔ zone.localMinusUtc ts ≠ zone.localMinusUtc (ts - 1) := by
  rw [Jumps, naiveLocal, naiveLocal]
  omega

theorem regular : Regular 3600000 86400000 zone.naiveLocal where
  hour_pos := by decide
  two_hours := by decide
  whole ts jump := by
    have full := zone.full_hour ts ((zone.jumps_iff ts).mp jump)
    rw [naiveLocal, naiveLocal]
    have place : ts - 1 + 1000 * zone.localMinusUtc (ts - 1) + 1 =
        ts + 1000 * zone.localMinusUtc (ts - 1) := by omega
    rwa [place]
  small ts _ := by
    have most := zone.hour_at_most ts
    rw [naiveLocal, naiveLocal]
    omega
  far first second jump next order :=
    zone.day_apart first second ((zone.jumps_iff first).mp jump)
      ((zone.jumps_iff second).mp next) order

theorem names_shown (naive : Int) (ts : Int) :
    ts ∈ (zone.fromLocalDatetime naive).values ↔ zone.naiveLocal ts = naive :=
  zone.names naive ts

theorem pre_gap_first {naive : Int} {offsetAt : Int → Option Int}
    {offset : Int} (found : offsetAt (naive - 60000) = some offset) :
    preGapOffsetSecondsWith naive offsetAt = some offset := by
  rw [preGapOffsetSecondsWith, preGapOffsetSecondsFrom, found]

theorem probed_offset_of_only {probe : Int} {instant : Int}
    (only : ∀ ts, zone.naiveLocal ts = probe ↔ ts = instant) :
    zone.probedOffset probe = some (zone.localMinusUtc instant) := by
  have named : ∀ ts, ts ∈ (zone.fromLocalDatetime probe).values ↔ ts = instant := by
    intro ts
    rw [zone.names_shown, only]
  rw [probedOffset]
  cases result : zone.fromLocalDatetime probe with
  | single found =>
      rw [result] at named
      rw [(named found).mp (List.mem_singleton_self found)]
  | ambiguous first latest =>
      rw [result] at named
      rw [(named latest).mp (by simp [LocalResult.values])]
  | none =>
      rw [result] at named
      exact absurd ((named instant).mpr rfl) List.not_mem_nil

/-- Whichever way a boundary is read, shown, repeated or skipped, the code finds the instant
from which clocks show it. -/
theorem boundary_found {naive : Int} {point : Int} (full : 3600000 ∣ naive)
    (reached : ReachedAt zone.naiveLocal naive point) :
    zone.localNaiveDatetimeMs naive = some point ∧
      (zone.localBoundaryCandidates naive = some (.single point) ∨
        ∃ second, point < second ∧
          zone.localBoundaryCandidates naive = some (.ambiguous point second)) := by
  rw [localBoundaryCandidates]
  have least : ∀ ts ∈ (zone.fromLocalDatetime naive).values, point ≤ ts := by
    intro ts named
    exact (reached ts).mp ((zone.names_shown naive ts).mp named).ge
  rcases lt_or_eq_of_le ((reached point).mpr le_rfl) with skips | shows
  · have only := zone.regular.shown_before_skipped full reached skips
      (show (0 : Int) < 60000 by decide) (by decide)
    have result : zone.fromLocalDatetime naive = .none := by
      have unnamed : ∀ ts, ts ∉ (zone.fromLocalDatetime naive).values := by
        intro ts named
        exact zone.regular.skipped_not_shown full reached skips ts
          ((zone.names_shown naive ts).mp named)
      cases result : zone.fromLocalDatetime naive with
      | single found => exact absurd (by simp [result, LocalResult.values]) (unnamed found)
      | ambiguous first second =>
          exact absurd (by simp [result, LocalResult.values]) (unnamed first)
      | none => rfl
    have before := (only (point - 60000)).mpr rfl
    have found : zone.localNaiveDatetimeMs naive = some point := by
      rw [localNaiveDatetimeMs, result]
      dsimp only
      rw [pre_gap_first (zone.probed_offset_of_only only), Option.map_some]
      rw [naiveLocal] at before
      congr 1
      omega
    rw [result, found]
    exact ⟨rfl, Or.inl rfl⟩
  · have named := (zone.names_shown naive point).mpr shows.symm
    rw [localNaiveDatetimeMs]
    cases result : zone.fromLocalDatetime naive with
    | single found =>
        rw [result] at named
        rw [List.mem_singleton.mp named]
        exact ⟨rfl, Or.inl rfl⟩
    | ambiguous first second =>
        have order := zone.earlier_first naive first second result
        rw [result] at named least
        have own := least first (by simp [LocalResult.values])
        have earliest : point = first := by
          rcases List.mem_pair.mp named with same | same
          · exact same
          · omega
        rw [earliest]
        exact ⟨rfl, Or.inr ⟨second, order, rfl⟩⟩
    | none =>
        rw [result] at named
        exact absurd named List.not_mem_nil

def localDay (ts : Int) : Int := dateNaive (zone.naiveLocal ts)

/-- The day with the hour of it that clocks show. -/
def localHour (ts : Int) : Int × Int := (zone.localDay ts, hourOf (zone.naiveLocal ts))

theorem same_day {date : Int} {ts : Int} (after : date * 86400000 ≤ zone.naiveLocal ts)
    (before : zone.naiveLocal ts < (date + 1) * 86400000) : zone.localDay ts = date := by
  rw [localDay, dateNaive]
  omega

theorem same_hour {shown : Int × Int} {ts : Int} (early : 0 ≤ shown.2) (late : shown.2 < 24)
    (after : shown.1 * 86400000 + shown.2 * 3600000 ≤ zone.naiveLocal ts)
    (before : zone.naiveLocal ts < shown.1 * 86400000 + shown.2 * 3600000 + 3600000) :
    zone.localHour ts = shown := by
  have day : zone.localDay ts = shown.1 := zone.same_day (by omega) (by omega)
  rw [localHour, day, hourOf]
  have hour : zone.naiveLocal ts % 86400000 / 3600000 = shown.2 := by omega
  rw [hour]

theorem day_finds_reach : FindsReach zone.localDay formatDate zone.lookByLocalDay := by
  intro cursor
  have after : zone.localDay cursor * 86400000 ≤ zone.naiveLocal cursor := by
    rw [localDay, dateNaive]
    omega
  have before : zone.naiveLocal cursor < (zone.localDay cursor + 1) * 86400000 := by
    rw [localDay, dateNaive]
    omega
  have full : ∀ date : Int, 3600000 ∣ date * 86400000 := by
    intro date
    omega
  rcases zone.regular.exists_reached (full _) before with ⟨point, ahead, reached⟩
  have found := (zone.boundary_found (full _) reached).1
  refine ⟨point, ?_, ahead, ?_⟩
  · have midnight : zone.localMidnightMs (zone.localDay cursor + 1) = some point := found
    have date : zone.localDateOf cursor = some (zone.localDay cursor) := rfl
    rw [lookByLocalDay, date]
    dsimp only
    rw [midnight]
  · intro ts later within
    apply zone.same_day (zone.regular.le_later (full _) after later)
    by_contra past
    have arrived := (reached ts).mp (not_lt.mp past)
    omega

def weekdayHourOf (shown : Int × Int) : WeekdayHour where
  weekday := numDaysFromMonday shown.1
  hour := shown.2

theorem hour_finds_reach : FindsReach zone.localHour weekdayHourOf
    (lookByWeekdayHour zone.localHourAt zone.localBoundaryCandidates) := by
  intro cursor
  generalize hours : zone.localHour cursor = shown
  have day : shown.1 = zone.naiveLocal cursor / 86400000 := by
    rw [← hours, localHour, localDay, dateNaive]
  have hour : shown.2 = zone.naiveLocal cursor % 86400000 / 3600000 := by
    rw [← hours, localHour, hourOf]
  have after : shown.1 * 86400000 + shown.2 * 3600000 ≤ zone.naiveLocal cursor := by omega
  have before : zone.naiveLocal cursor <
      shown.1 * 86400000 + shown.2 * 3600000 + 3600000 := by omega
  have full : 3600000 ∣ shown.1 * 86400000 + shown.2 * 3600000 := by omega
  have next := Int.dvd_add full (dvd_refl 3600000)
  rcases zone.regular.exists_reached next before with ⟨point, ahead, reached⟩
  have started : andHmsOpt shown.1 shown.2 0 0 =
      some (shown.1 * 86400000 + shown.2 * 3600000) := by
    rw [andHmsOpt, if_pos (by omega)]
    congr 1
    omega
  refine ⟨point, ?_, ahead, ?_⟩
  · have read : zone.localHourAt cursor = some shown := by
      rw [← hours]
      rfl
    rw [lookByWeekdayHour, read]
    dsimp only
    rw [started, Option.bind_some]
    rcases (zone.boundary_found next reached).2 with single | ⟨second, order, two⟩
    · rw [single]
      rfl
    · rw [two]
      dsimp only
      rw [ambiguousCandidateAfter, if_pos order.le, if_pos ahead]
      rfl
  · intro ts later within
    apply zone.same_hour (by omega) (by omega) (zone.regular.le_later full after later)
    by_contra past
    have arrived := (reached ts).mp (not_lt.mp past)
    omega

/-- Split by local hour or by local day, time is neither lost nor mislabelled, whatever the
clocks do. -/
theorem local_time_splits_exact (startMs endMs : Int) (order : startMs < endMs) :
    (∃ pieces, zone.splitMsByWeekdayHour startMs endMs = some pieces ∧
      SplitExactly zone.localHour weekdayHourOf startMs endMs pieces) ∧
    ∃ pieces, zone.splitMsIntervalByLocalDay startMs endMs = some pieces ∧
      SplitExactly zone.localDay formatDate startMs endMs pieces := by
  constructor
  · rw [splitMsByWeekdayHour, splitMsByWeekdayHourWith, if_neg (by omega)]
    exact split_loop_exact zone.hour_finds_reach endMs [] startMs order.le
  · rw [splitMsIntervalByLocalDay, if_neg (by omega)]
    exact split_loop_exact zone.day_finds_reach endMs [] startMs order.le

/-- Two hours ahead of UTC until the epoch, and one hour from then on. -/
private def autumn : Zone where
  localMinusUtc ts := if ts < 0 then 7200 else 3600
  fromLocalDatetime naive :=
    if naive < 3600000 then .single (naive - 7200000)
    else if naive < 7200000 then .ambiguous (naive - 7200000) (naive - 3600000)
    else .single (naive - 3600000)
  full_hour ts change := by
    split_ifs at change ⊢ <;> omega
  hour_at_most ts := by
    split_ifs <;> omega
  day_apart first second change next order := by
    split_ifs at change next <;> omega
  names naive ts := by
    split_ifs <;> simp [LocalResult.values] <;> omega
  earlier_first naive first second result := by
    split_ifs at result
    injection result
    omega

theorem local_time_splits_exact_autumn :
    (-5400000 : Int) < 86400000 ∧
    (∃ pieces, autumn.splitMsByWeekdayHour (-5400000) 86400000 = some pieces ∧
      SplitExactly autumn.localHour weekdayHourOf (-5400000) 86400000 pieces) ∧
    ∃ pieces, autumn.splitMsIntervalByLocalDay (-5400000) 86400000 = some pieces ∧
      SplitExactly autumn.localDay formatDate (-5400000) 86400000 pieces :=
  ⟨by decide, local_time_splits_exact autumn (-5400000) 86400000 (by decide)⟩

theorem local_day_start (nowMs : Int) : ∃ startMs, zone.localDayStartMs nowMs = some startMs ∧
    ∀ ts, zone.localDay nowMs ≤ zone.localDay ts ↔ startMs ≤ ts := by
  have full : (3600000 : Int) ∣ zone.localDay nowMs * 86400000 := by omega
  rcases zone.regular.unbounded_below (zone.localDay nowMs * 86400000) with ⟨earlier, before⟩
  rcases zone.regular.exists_reached full before with ⟨point, _, reached⟩
  refine ⟨point, (zone.boundary_found full reached).1, ?_⟩
  intro ts
  rw [← reached ts, localDay, localDay, dateNaive, dateNaive]
  omega

theorem local_day_start_some (nowMs : Int) : (zone.localDayStartMs nowMs).isSome := by
  rcases zone.local_day_start nowMs with ⟨startMs, found, _⟩
  rw [found]
  rfl

@[reducible] def localZone : LocalZone where
  localDate ts := formatDate (zone.localDay ts)
  localDayStartMs ts := (zone.localDayStartMs ts).get (zone.local_day_start_some ts)

end Zone

end Gilbreth.Read
