import Gilbreth.Read.Focus
import Gilbreth.Read.Spans

/-!
# Time away from the desk

Idle and sleep spans are rebuilt from the stored boundary rows, session by
session, and every reader subtracts them from its own focus spans. What a
session's spans cover does not depend on which other sessions were asked for.
-/

set_option autoImplicit false

namespace Gilbreth.Read

open Gilbreth.Core Gilbreth.Store Spans

structure SessionInterval where
  sessionId : Int
  startTs : Int
  endTs : Int
deriving DecidableEq

def SessionInterval.span (row : SessionInterval) : Span := (row.startTs, row.endTs)

def SessionInterval.of (sessionId : Int) (span : Span) : SessionInterval :=
  ⟨sessionId, span.1, span.2⟩

/-- The collected and merged spans of one session, empty for one that has none. -/
def intervalsBySession (rows : List SessionInterval) (sessionId : Int) : List Span :=
  mergeIntervals ((rows.filter fun row =>
    row.sessionId == sessionId && decide (row.startTs < row.endTs)).map SessionInterval.span)

section Subtract

def subtractOne (subtraction segment : Span) : List Span :=
  if subtraction.2 ≤ segment.1 ∨ segment.2 ≤ subtraction.1 then [segment]
  else
    (if segment.1 < subtraction.1 then [(segment.1, min subtraction.1 segment.2)] else []) ++
      if subtraction.2 < segment.2 then [(max subtraction.2 segment.1, segment.2)] else []

def subtractIntervals (segments : List Span) : List Span → List Span
  | [] => segments
  | subtraction :: rest =>
      let next := segments.flatMap (subtractOne subtraction)
      if next = [] then [] else subtractIntervals next rest

def subtractIntervalFrame (intervals subtractions : List SessionInterval) : List SessionInterval :=
  if intervals = [] ∨ subtractions = [] then intervals
  else
    (intervals.filter fun row => decide (row.startTs < row.endTs)).flatMap fun row =>
      (subtractIntervals [row.span] (intervalsBySession subtractions row.sessionId)).map
        (.of row.sessionId)

end Subtract

section Boundaries

def normalizedSessionIds (ids : List Int) : List Int :=
  ids.dedup.mergeSort fun left right => decide (left ≤ right)

/-- `ended_at` of a session, where it has one. -/
def endedAt (db : Database) (sessionId : Int) : Option Int :=
  (db.activity.sessions.rows.find? fun row => row.sessionId == sessionId).bind fun row =>
    row.endedAt.map SatInt.val

/-- The rows of the given kinds, `ORDER BY ts, id`. -/
def boundaryRows (db : Database) (sessionId : Int) (kinds : List String) : List EventRow :=
  (db.activity.events.rows.filter fun row =>
    row.sessionId == sessionId && kinds.contains row.kind).mergeSort fun left right =>
      decide (left.ts ≤ right.ts)

def timesOf (rows : List EventRow) (kind : String) : List Int :=
  (rows.filter fun row => row.kind == kind).map fun row => row.ts.val

/-- Each opening is closed by the first later closing or by the session's end; the
closings it passes are gone for the next. -/
def closeSpans (ended : Option Int) : List Int → List Int → List Span
  | [], _ => []
  | opening :: rest, closings =>
      let left := closings.dropWhile fun closing => decide (closing ≤ opening)
      let closed :=
        match left.head?.or ended with
        | none => []
        | some finish => if finish ≤ opening then [] else [(opening, finish)]
      closed ++ closeSpans ended rest left

/-- `payload_int(payload, "gap_ms").unwrap_or(0)`. -/
def gapMs : EventPayload → Int
  | .powerBoundaryRecovered gap _ => (u64ToI64 gap.toNat).val
  | _ => 0

/-- A recovered boundary reaches back by its gap, not past the suspend before it. -/
def recoveredSpans : Option Int → List Int → List EventRow → List Span
  | _, _, [] => []
  | prior, suspends, row :: rest =>
      let recoveredTs := row.ts.val
      let passed := fun suspend => decide (suspend ≤ recoveredTs)
      let prior := (suspends.takeWhile passed).getLast?.or prior
      let rawStart := if recoveredTs < gapMs row.payload then 0 else recoveredTs - gapMs row.payload
      (max rawStart (prior.getD 0), recoveredTs) ::
        recoveredSpans prior (suspends.dropWhile passed) rest

def sleepKinds : List String :=
  ["power_suspend", "power_resume", "power_boundary_recovered", "capture_paused",
    "capture_resumed"]

def sessionSleep (db : Database) (sessionId : Int) : List SessionInterval :=
  let rows := boundaryRows db sessionId sleepKinds
  let suspends := timesOf rows "power_suspend"
  let ended := endedAt db sessionId
  (closeSpans ended suspends (timesOf rows "power_resume") ++
    closeSpans ended (timesOf rows "capture_paused") (timesOf rows "capture_resumed") ++
    recoveredSpans none suspends
      (rows.filter fun row => row.kind == "power_boundary_recovered")).map (.of sessionId)

def sleepIntervals (db : Database) (ids : List Int) : List SessionInterval :=
  (normalizedSessionIds ids).flatMap (sessionSleep db)

/-- Idle rows, each with its already elapsed time, up to the next activity. -/
def idleSpans (ended cutoff : Option Int) : List Int → List EventRow → List Span
  | _, [] => []
  | actives, row :: rest =>
      let idleTs := row.ts.val
      let left := actives.dropWhile fun active => decide (active ≤ idleTs)
      let elapsed := (row.durationMs.map SatInt.val).getD 0
      let startTs := max (idleTs - elapsed) 0
      let startTs := cutoff.elim startTs (max startTs)
      let closed :=
        match left.head?.or ended with
        | none => []
        | some finish => if finish ≤ idleTs ∨ finish ≤ startTs then [] else [(startTs, finish)]
      closed ++ idleSpans ended cutoff left rest

def sessionIdle (db : Database) (scope : Option Scope) (sessionId : Int) : List SessionInterval :=
  let rows := boundaryRows db sessionId ["idle", "active"]
  if ((scope.bind Scope.sessionId).all fun wanted => sessionId == wanted) then
    (idleSpans (endedAt db sessionId) (scope.bind Scope.cutoffMs) (timesOf rows "active")
      (rows.filter fun row => row.kind == "idle")).map (.of sessionId)
  else []

def idleIntervals (db : Database) (ids : List Int) (scope : Option Scope) :
    List SessionInterval :=
  subtractIntervalFrame ((normalizedSessionIds ids).flatMap (sessionIdle db scope))
    (sleepIntervals db ids)

/-- The idleness still open at the read: the session's last idle or active row is
an idle one. -/
def openTrailingIdleSpan (db : Database) (sessionId endTs : Int) : Option Span :=
  match (boundaryRows db sessionId ["idle", "active"]).getLast? with
  | none => none
  | some row =>
      let startTs := max (row.ts.val - (row.durationMs.map SatInt.val).getD 0) 0
      if row.kind = "idle" ∧ startTs < endTs then some (startTs, endTs) else none

/-- A span of a session, clipped to `[lo, hi]`, if anything is left. -/
def SessionInterval.clipped (sessionId lo hi : Int) (row : SessionInterval) : Option Span :=
  if row.sessionId = sessionId ∧ max row.startTs lo < min row.endTs hi then
    some (max row.startTs lo, min row.endTs hi)
  else none

def awaySpansBySession (idle sleep : List SessionInterval) (lo hi sessionId : Int) : List Span :=
  coalesceSpans ((idle ++ sleep).filterMap (SessionInterval.clipped sessionId lo hi))

end Boundaries

section Covered

/-- The spans of one session among the rows. -/
def spansOf (rows : List SessionInterval) (sessionId : Int) : List Span :=
  (rows.filter fun row => row.sessionId == sessionId).map SessionInterval.span

theorem covers_spans_of (rows : List SessionInterval) (sessionId point : Int) :
    Covers (spansOf rows sessionId) point ↔
      ∃ row ∈ rows, row.sessionId = sessionId ∧ row.startTs ≤ point ∧ point < row.endTs := by
  constructor
  · rintro ⟨span, member, inside⟩
    rcases List.mem_map.mp member with ⟨row, listed, rfl⟩
    rw [List.mem_filter, beq_iff_eq] at listed
    exact ⟨row, listed.1, listed.2, inside⟩
  · rintro ⟨row, listed, own, inside⟩
    refine ⟨row.span, List.mem_map_of_mem ?_, inside⟩
    rw [List.mem_filter, beq_iff_eq]
    exact ⟨listed, own⟩

theorem covers_spans_of_append (left right : List SessionInterval) (sessionId point : Int) :
    Covers (spansOf (left ++ right) sessionId) point ↔
      Covers (spansOf left sessionId) point ∨ Covers (spansOf right sessionId) point := by
  rw [spansOf, List.filter_append, List.map_append, covers_append]
  rfl

theorem intervals_by_session_spec (rows : List SessionInterval) (sessionId : Int) :
    InOrder (intervalsBySession rows sessionId) ∧
      ∀ point, Covers (intervalsBySession rows sessionId) point ↔
        Covers (spansOf rows sessionId) point := by
  have upright : ∀ span ∈ (rows.filter fun row =>
      row.sessionId == sessionId && decide (row.startTs < row.endTs)).map SessionInterval.span,
      span.1 ≤ span.2 := by
    intro span member
    rcases List.mem_map.mp member with ⟨row, listed, rfl⟩
    rw [List.mem_filter, Bool.and_eq_true, decide_eq_true_eq] at listed
    exact listed.2.2.le
  have spec := coalesce_spans_spec upright
  refine ⟨spec.1, fun point => (spec.2 point).trans ?_⟩
  rw [covers_spans_of]
  constructor
  · rintro ⟨span, member, inside⟩
    rcases List.mem_map.mp member with ⟨row, listed, rfl⟩
    rw [List.mem_filter, Bool.and_eq_true, beq_iff_eq] at listed
    exact ⟨row, listed.1, listed.2.1, inside⟩
  · rintro ⟨row, listed, own, inside⟩
    refine ⟨row.span, List.mem_map_of_mem ?_, inside⟩
    rw [List.mem_filter, Bool.and_eq_true, beq_iff_eq, decide_eq_true_eq]
    exact ⟨listed, own, by omega⟩

theorem away_spans_by_session_spec (idle sleep : List SessionInterval) (lo hi sessionId : Int) :
    InOrder (awaySpansBySession idle sleep lo hi sessionId) ∧
      ∀ point, lo ≤ point → point < hi →
        (Covers (awaySpansBySession idle sleep lo hi sessionId) point ↔
          Covers (spansOf (idle ++ sleep) sessionId) point) := by
  have upright : ∀ span ∈ (idle ++ sleep).filterMap (SessionInterval.clipped sessionId lo hi),
      span.1 ≤ span.2 := by
    intro span member
    rcases List.mem_filterMap.mp member with ⟨row, _, clip⟩
    rw [SessionInterval.clipped] at clip
    split at clip
    · rename_i left
      cases clip
      exact left.2.le
    · cases clip
  have spec := coalesce_spans_spec upright
  refine ⟨spec.1, fun point after before => (spec.2 point).trans ?_⟩
  rw [covers_spans_of]
  constructor
  · rintro ⟨span, member, inside⟩
    rcases List.mem_filterMap.mp member with ⟨row, listed, clip⟩
    rw [SessionInterval.clipped] at clip
    split at clip
    · rename_i left
      cases clip
      refine ⟨row, listed, left.1, ?_⟩
      simp only [max_le_iff, lt_min_iff] at inside
      omega
    · cases clip
  · rintro ⟨row, listed, own, inside⟩
    have left : row.sessionId = sessionId ∧ max row.startTs lo < min row.endTs hi := by
      refine ⟨own, ?_⟩
      omega
    refine ⟨(max row.startTs lo, min row.endTs hi), ?_, ?_⟩
    · exact List.mem_filterMap.mpr ⟨row, listed, if_pos left⟩
    · constructor <;> omega

theorem covers_subtract_one {subtraction : Span} (_upright : subtraction.1 ≤ subtraction.2)
    (segment : Span) (point : Int) :
    Covers (subtractOne subtraction segment) point ↔
      (segment.1 ≤ point ∧ point < segment.2) ∧
        ¬(subtraction.1 ≤ point ∧ point < subtraction.2) := by
  rw [subtractOne]
  split
  · rw [covers_cons, or_iff_left (not_covers_nil point)]
    omega
  · rw [covers_append]
    have first : Covers (if segment.1 < subtraction.1 then
        [(segment.1, min subtraction.1 segment.2)] else []) point ↔
          segment.1 ≤ point ∧ point < subtraction.1 ∧ point < segment.2 := by
      split
      · simp [Covers]
      · rw [iff_false_left (not_covers_nil point)]
        omega
    have second : Covers (if subtraction.2 < segment.2 then
        [(max subtraction.2 segment.1, segment.2)] else []) point ↔
          subtraction.2 ≤ point ∧ segment.1 ≤ point ∧ point < segment.2 := by
      split
      · simp [Covers, and_assoc]
      · rw [iff_false_left (not_covers_nil point)]
        omega
    rw [first, second]
    omega

theorem covers_subtract_intervals {subtractions : List Span} (order : InOrder subtractions)
    (segments : List Span) (point : Int) :
    Covers (subtractIntervals segments subtractions) point ↔
      Covers segments point ∧ ¬Covers subtractions point := by
  induction subtractions generalizing segments with
  | nil => rw [subtractIntervals, and_iff_left (not_covers_nil point)]
  | cons subtraction rest induction =>
      have upright : subtraction.1 ≤ subtraction.2 := order.1 subtraction List.mem_cons_self
      have step : Covers (segments.flatMap (subtractOne subtraction)) point ↔
          Covers segments point ∧ ¬(subtraction.1 ≤ point ∧ point < subtraction.2) := by
        rw [covers_flat_map]
        constructor
        · rintro ⟨segment, listed, covered⟩
          rw [covers_subtract_one upright] at covered
          exact ⟨⟨segment, listed, covered.1⟩, covered.2⟩
        · rintro ⟨⟨segment, listed, inside⟩, outside⟩
          exact ⟨segment, listed, (covers_subtract_one upright segment point).mpr
            ⟨inside, outside⟩⟩
      have rest_of : Covers (subtractIntervals segments (subtraction :: rest)) point ↔
          Covers (segments.flatMap (subtractOne subtraction)) point ∧ ¬Covers rest point := by
        rw [subtractIntervals]
        split
        · rename_i none
          rw [none, iff_false_left (not_covers_nil point)]
          exact fun both => not_covers_nil point both.1
        · exact induction order.tail _
      rw [rest_of, step, covers_cons]
      tauto

theorem covers_subtract_interval_frame (intervals subtractions : List SessionInterval)
    (sessionId point : Int) :
    Covers (spansOf (subtractIntervalFrame intervals subtractions) sessionId) point ↔
      Covers (spansOf intervals sessionId) point ∧
        ¬Covers (spansOf subtractions sessionId) point := by
  rw [subtractIntervalFrame]
  split
  · rename_i trivially
    have apart : Covers (spansOf intervals sessionId) point →
        ¬Covers (spansOf subtractions sessionId) point := by
      rcases trivially with rfl | rfl
      · exact fun covered => absurd covered (not_covers_nil point)
      · exact fun _ => not_covers_nil point
    exact (and_iff_left_of_imp apart).symm
  · rw [covers_spans_of, covers_spans_of]
    constructor
    · rintro ⟨piece, member, own, inside⟩
      rcases List.mem_flatMap.mp member with ⟨row, listed, cut⟩
      rcases List.mem_map.mp cut with ⟨span, left, rfl⟩
      have spec := intervals_by_session_spec subtractions row.sessionId
      have covered := (covers_subtract_intervals spec.1 [row.span] point).mp ⟨span, left, inside⟩
      rw [covers_cons, or_iff_left (not_covers_nil point), spec.2] at covered
      have same : row.sessionId = sessionId := own
      rw [same] at covered
      exact ⟨⟨row, List.mem_of_mem_filter listed, same, covered.1⟩, covered.2⟩
    · rintro ⟨⟨row, listed, rfl, inside⟩, outside⟩
      have spec := intervals_by_session_spec subtractions row.sessionId
      have covered : Covers (subtractIntervals [row.span]
          (intervalsBySession subtractions row.sessionId)) point := by
        rw [covers_subtract_intervals spec.1, covers_cons, or_iff_left (not_covers_nil point),
          spec.2]
        exact ⟨inside, outside⟩
      rcases covered with ⟨span, left, within⟩
      refine ⟨.of row.sessionId span, List.mem_flatMap.mpr ⟨row, ?_, List.mem_map_of_mem left⟩,
        rfl, within⟩
      rw [List.mem_filter, decide_eq_true_eq]
      exact ⟨listed, by omega⟩

end Covered

section Away

/-- A session's time away: idle from a stored idle row on, or asleep, or paused. -/
def Away (db : Database) (sessionId point : Int) : Prop :=
  Covers ((sessionIdle db none sessionId).map SessionInterval.span) point ∨
    Covers ((sessionSleep db sessionId).map SessionInterval.span) point

theorem mem_normalized (ids : List Int) (sessionId : Int) :
    sessionId ∈ normalizedSessionIds ids ↔ sessionId ∈ ids := by
  rw [normalizedSessionIds, List.mem_mergeSort, List.mem_dedup]

/-- Rows gathered session by session cover, in one session, what its own rows do. -/
theorem covers_asked {rowsOf : Int → List SessionInterval}
    (own : ∀ sessionId, ∀ row ∈ rowsOf sessionId, row.sessionId = sessionId) {ids : List Int}
    {sessionId : Int} (asked : sessionId ∈ ids) (point : Int) :
    Covers (spansOf ((normalizedSessionIds ids).flatMap rowsOf) sessionId) point ↔
      Covers ((rowsOf sessionId).map SessionInterval.span) point := by
  rw [covers_spans_of]
  constructor
  · rintro ⟨row, member, rfl, inside⟩
    rcases List.mem_flatMap.mp member with ⟨other, _, listed⟩
    rw [← own other row listed] at listed
    exact ⟨row.span, List.mem_map_of_mem listed, inside⟩
  · rintro ⟨span, member, inside⟩
    rcases List.mem_map.mp member with ⟨row, listed, rfl⟩
    refine ⟨row, List.mem_flatMap.mpr ⟨sessionId, ?_, listed⟩, own sessionId row listed, inside⟩
    exact (mem_normalized ids sessionId).mpr asked

theorem session_of_sleep {db : Database} {sessionId : Int} {row : SessionInterval}
    (member : row ∈ sessionSleep db sessionId) : row.sessionId = sessionId := by
  rcases List.mem_map.mp member with ⟨span, _, rfl⟩
  rfl

theorem session_of_idle {db : Database} {scope : Option Scope} {sessionId : Int}
    {row : SessionInterval} (member : row ∈ sessionIdle db scope sessionId) :
    row.sessionId = sessionId := by
  rw [sessionIdle] at member
  split at member
  · rcases List.mem_map.mp member with ⟨span, _, rfl⟩
    rfl
  · cases member

theorem covers_away (db : Database) {ids : List Int} {sessionId : Int} (asked : sessionId ∈ ids)
    (point : Int) :
    Covers (spansOf (idleIntervals db ids none ++ sleepIntervals db ids) sessionId) point ↔
      Away db sessionId point := by
  have asleep : Covers (spansOf (sleepIntervals db ids) sessionId) point ↔
      Covers ((sessionSleep db sessionId).map SessionInterval.span) point :=
    covers_asked (fun _ _ member => session_of_sleep member) asked point
  have idle : Covers (spansOf ((normalizedSessionIds ids).flatMap (sessionIdle db none)) sessionId)
      point ↔ Covers ((sessionIdle db none sessionId).map SessionInterval.span) point :=
    covers_asked (fun _ _ member => session_of_idle member) asked point
  rw [covers_spans_of_append, idleIntervals, covers_subtract_interval_frame, idle, asleep, Away]
  tauto

theorem away_by_session (db : Database) {ids : List Int} {sessionId : Int}
    (asked : sessionId ∈ ids) (lo hi : Int) {point : Int} (after : lo ≤ point)
    (before : point < hi) :
    Covers (awaySpansBySession (idleIntervals db ids none) (sleepIntervals db ids) lo hi sessionId)
      point ↔ Away db sessionId point := by
  rw [(away_spans_by_session_spec _ _ lo hi sessionId).2 point after before]
  exact covers_away db asked point

end Away

end Gilbreth.Read
