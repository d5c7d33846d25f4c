import Gilbreth.Read.Candidates
import Gilbreth.Read.Readers
import Gilbreth.Read.Rounding

/-!
# Idle time

Every idle row opens a stretch that reaches back over the time already idle and on to
the next activity of its session, and the sleep spans are cut out of each stretch on
its own. The session rollup adds up what is left.
-/

set_option autoImplicit false

namespace Gilbreth.Read

open Gilbreth.Core Gilbreth.Store Spans

section Rollup

/-- The text SQLite makes of a moment. -/
class AnalyticsText where
  localDatetime : Int → String

structure SessionAnalyticsRow [Doubles] where
  sessionId : Int
  startedAt : String
  endedAt : Option String
  eventCount : Int
  activeForegroundMinutes : Doubles.Double
  activeSpanMinutes : Doubles.Double
  idleEvents : Int
  activeEvents : Int
  idleMinutes : Doubles.Double

def scopedEvents (db : Database) (scope : Scope) (sessionId : Int) : List EventRow :=
  db.activity.events.rows.filter fun row =>
    row.sessionId == sessionId && scope.admits row.sessionId row.ts.val

/-- `ORDER BY s.started_at DESC, s.session_id DESC`. -/
def newestSessionFirst (left right : SessionRow) : Bool :=
  decide (right.startedAt.val < left.startedAt.val ∨
    (right.startedAt.val = left.startedAt.val ∧ right.sessionId ≤ left.sessionId))

def analyticsSessions (db : Database) (scope : Scope) : List SessionRow :=
  ((db.activity.sessions.rows.filter fun session =>
    !(scopedEvents db scope session.sessionId).isEmpty).mergeSort newestSessionFirst).take
      topNAnalytics

/-- `idle_by_session` of one session. -/
def idleMs (idle : List SessionInterval) (sessionId : Int) : Int :=
  ((idle.filter fun row => row.sessionId == sessionId).map fun row =>
    max (row.endTs - row.startTs) 0).sum

def activeMs (focus : List ActiveFocusInterval) (sessionId : Int) : Int :=
  ((focus.filter fun row => row.sessionId == sessionId).map
    ActiveFocusInterval.activeForegroundMs).sum

variable [Doubles] [LocalZone] [AnalyticsText]

def analyticsRow (events : List EventRow) (focus : List ActiveFocusInterval)
    (idle : List SessionInterval) (session : SessionRow) : SessionAnalyticsRow :=
  let stamps := events.map fun row => row.ts.val
  let span := (stamps.max?.getD 0) - (stamps.min?.getD 0)
  { sessionId := session.sessionId
    startedAt := AnalyticsText.localDatetime session.startedAt.val
    endedAt := session.endedAt.map fun ended => AnalyticsText.localDatetime ended.val
    eventCount := events.length
    activeForegroundMinutes := roundedMinutes (activeMs focus session.sessionId)
    activeSpanMinutes := roundedMinutes (max span 0)
    idleEvents := (events.filter fun row => row.kind == "idle").length
    activeEvents := (events.filter fun row => row.kind == "active").length
    idleMinutes := roundedMinutes (idleMs idle session.sessionId) }

def sessionAnalytics (db : Database) (scope : Scope) : List SessionAnalyticsRow :=
  let base := analyticsSessions db scope
  let ids := base.map SessionRow.sessionId
  base.map fun session =>
    analyticsRow (scopedEvents db scope session.sessionId) (focusIntervalsWithActive db scope)
      (idleIntervals db ids (some scope)) session

end Rollup

section Stretches

/-- `[max(ts - duration_ms, 0, cutoff), …)`. -/
def backdatedStart (cutoff : Option Int) (row : EventRow) : Int :=
  let startTs := max (row.ts.val - (row.durationMs.map SatInt.val).getD 0) 0
  cutoff.elim startTs (max startTs)

/-- The stretch of one idle row, taken apart from the rows before it. -/
def idleStretch (ended cutoff : Option Int) (actives : List Int) (row : EventRow) : Option Span :=
  match (actives.find? fun active => decide (row.ts.val < active)).or ended with
  | none => none
  | some finish =>
      if finish ≤ row.ts.val ∨ finish ≤ backdatedStart cutoff row then none
      else some (backdatedStart cutoff row, finish)

theorem find_drop_while {Item : Type*} {passed wanted : Item → Bool}
    (apart : ∀ item, passed item = true → wanted item = false) (items : List Item) :
    (items.dropWhile passed).find? wanted = items.find? wanted := by
  induction items with
  | nil => rfl
  | cons item items induction =>
      rw [List.dropWhile_cons]
      by_cases skipped : passed item = true
      · rw [if_pos skipped, induction, List.find?_cons, apart item skipped]
      · rw [if_neg skipped]

theorem idle_spans_rows (ended cutoff : Option Int) {rows : List EventRow}
    (sorted : rows.Pairwise fun left right => left.ts.val ≤ right.ts.val) (actives : List Int) :
    idleSpans ended cutoff actives rows = rows.filterMap (idleStretch ended cutoff actives) := by
  induction rows generalizing actives with
  | nil => rfl
  | cons row rest induction =>
      have order := List.pairwise_cons.mp sorted
      have found : (actives.dropWhile fun active => decide (active ≤ row.ts.val)).head? =
          actives.find? fun active => decide (row.ts.val < active) := by
        rw [List.find?_eq_head?_dropWhile_not]
        congr 2
        funext active
        rw [← decide_not, decide_eq_decide]
        exact not_lt.symm
      have later : rest.filterMap (idleStretch ended cutoff
          (actives.dropWhile fun active => decide (active ≤ row.ts.val))) =
          rest.filterMap (idleStretch ended cutoff actives) := by
        apply List.filterMap_congr
        intro other member
        have after := order.1 other member
        rw [idleStretch, idleStretch, find_drop_while]
        intro active passed
        rw [decide_eq_true_eq] at passed
        exact decide_eq_false (by omega)
      rw [idleSpans, induction order.2, later, List.filterMap_cons, found, idleStretch]
      cases (actives.find? fun active => decide (row.ts.val < active)).or ended with
      | none => rfl
      | some finish =>
          change (if finish ≤ row.ts.val ∨ finish ≤ backdatedStart cutoff row then []
            else [(backdatedStart cutoff row, finish)]) ++ _ = _
          dsimp only
          split <;> rfl

/-- The stored activity of a session after a moment. -/
def activeAfter (db : Database) (sessionId moment : Int) : Set Int :=
  {ts | moment < ts ∧ ∃ row ∈ db.activity.events.rows, row.sessionId = sessionId ∧
    row.kind = "active" ∧ row.ts.val = ts}

/-- The first activity after a moment, or the end of a session that has none. -/
def EndsIdle (db : Database) (sessionId moment finish : Int) : Prop :=
  IsLeast (activeAfter db sessionId moment) finish ∨
    (activeAfter db sessionId moment = ∅ ∧ endedAt db sessionId = some finish)

structure IdleStretch (db : Database) (scope : Option Scope) (row : EventRow) (span : Span) :
    Prop where
  admitted : ∀ wanted ∈ scope.bind Scope.sessionId, row.sessionId = wanted
  start : span.1 = backdatedStart (scope.bind Scope.cutoffMs) row
  finish : EndsIdle db row.sessionId row.ts.val span.2
  after : row.ts.val < span.2
  upright : span.1 < span.2

def idleRows (db : Database) (sessionId : Int) : List EventRow :=
  db.activity.events.rows.filter fun row => row.sessionId == sessionId && row.kind == "idle"

theorem boundary_rows_sorted (db : Database) (sessionId : Int) (kinds : List String) :
    (boundaryRows db sessionId kinds).Pairwise fun left right => left.ts.val ≤ right.ts.val := by
  have transitive : ∀ a b c : EventRow, decide (a.ts ≤ b.ts) = true →
      decide (b.ts ≤ c.ts) = true → decide (a.ts ≤ c.ts) = true := by
    intro a b c first second
    rw [decide_eq_true_eq] at *
    exact first.trans second
  have total : ∀ a b : EventRow, (decide (a.ts ≤ b.ts) || decide (b.ts ≤ a.ts)) = true := by
    intro a b
    rw [Bool.or_eq_true, decide_eq_true_eq, decide_eq_true_eq]
    exact le_total _ _
  apply (List.pairwise_mergeSort transitive total _).imp
  intro left right ordered
  exact SatInt.le_iff.mp (of_decide_eq_true ordered)

theorem mem_boundary_rows {db : Database} {sessionId : Int} {kinds : List String}
    {row : EventRow} :
    row ∈ boundaryRows db sessionId kinds ↔
      row ∈ db.activity.events.rows ∧ row.sessionId = sessionId ∧ row.kind ∈ kinds := by
  rw [boundaryRows, List.mem_mergeSort, List.mem_filter, Bool.and_eq_true, beq_iff_eq,
    List.contains_iff_mem]

theorem find_later_iff {stamps : List Int} (sorted : stamps.Pairwise (· ≤ ·)) (moment : Int)
    (ended : Option Int) (finish : Int) :
    (stamps.find? fun stamp => decide (moment < stamp)).or ended = some finish ↔
      IsLeast {stamp | moment < stamp ∧ stamp ∈ stamps} finish ∨
        ({stamp | moment < stamp ∧ stamp ∈ stamps} = (∅ : Set Int) ∧ ended = some finish) := by
  cases found : stamps.find? fun stamp => decide (moment < stamp) with
  | none =>
      have none_later : {stamp | moment < stamp ∧ stamp ∈ stamps} = (∅ : Set Int) := by
        apply Set.eq_empty_of_forall_notMem
        rintro stamp ⟨later, listed⟩
        have passed := List.find?_eq_none.mp found stamp listed
        exact passed (decide_eq_true later)
      rw [none_later, Option.none_or]
      have nothing : ¬IsLeast (∅ : Set Int) finish := fun least => least.1
      rw [or_iff_right nothing, and_iff_right rfl]
  | some first =>
      rcases List.find?_eq_some_iff_append.mp found with ⟨later, before, rest, split, passed⟩
      rw [decide_eq_true_eq] at later
      have least : IsLeast {stamp | moment < stamp ∧ stamp ∈ stamps} first := by
        constructor
        · rw [split]
          exact ⟨later, List.mem_append_right _ List.mem_cons_self⟩
        · rintro stamp ⟨beyond, listed⟩
          rw [split] at listed sorted
          cases List.mem_append.mp listed with
          | inl inBefore =>
              have skipped := passed stamp inBefore
              rw [Bool.not_eq_true', decide_eq_false_iff_not] at skipped
              exact absurd beyond skipped
          | inr inRest =>
              have ordered := List.pairwise_cons.mp (List.pairwise_append.mp sorted).2.1
              cases List.mem_cons.mp inRest with
              | inl same => exact same.ge
              | inr member => exact ordered.1 stamp member
      have some_later : {stamp | moment < stamp ∧ stamp ∈ stamps} ≠ (∅ : Set Int) :=
        Set.nonempty_iff_ne_empty.mp ⟨first, least.1⟩
      rw [Option.some_or, Option.some.injEq, or_iff_left fun none => some_later none.1]
      constructor
      · intro same
        rw [← same]
        exact least
      · exact fun other => least.unique other

theorem active_stamps (db : Database) (sessionId moment : Int) :
    {stamp | moment < stamp ∧
        stamp ∈ timesOf (boundaryRows db sessionId ["idle", "active"]) "active"} =
      activeAfter db sessionId moment := by
  ext stamp
  rw [Set.mem_ofPred_eq, activeAfter, Set.mem_ofPred_eq, timesOf, List.mem_map]
  apply and_congr_right
  intro _
  constructor
  · rintro ⟨row, member, rfl⟩
    rw [List.mem_filter, mem_boundary_rows, beq_iff_eq] at member
    exact ⟨row, member.1.1, member.1.2.1, member.2, rfl⟩
  · rintro ⟨row, listed, own, active, rfl⟩
    refine ⟨row, ?_, rfl⟩
    rw [List.mem_filter, mem_boundary_rows, beq_iff_eq]
    exact ⟨⟨listed, own, by simp [active]⟩, active⟩

theorem idle_stretch_iff {db : Database} {scope : Option Scope} {row : EventRow}
    (admitted : ∀ wanted ∈ scope.bind Scope.sessionId, row.sessionId = wanted) (span : Span) :
    idleStretch (endedAt db row.sessionId) (scope.bind Scope.cutoffMs)
        (timesOf (boundaryRows db row.sessionId ["idle", "active"]) "active") row = some span ↔
      IdleStretch db scope row span := by
  have sorted : (timesOf (boundaryRows db row.sessionId ["idle", "active"]) "active").Pairwise
      (· ≤ ·) := by
    rw [timesOf, List.pairwise_map]
    exact (boundary_rows_sorted db row.sessionId _).filter _
  have ends : ∀ finish, EndsIdle db row.sessionId row.ts.val finish ↔
      ((timesOf (boundaryRows db row.sessionId ["idle", "active"]) "active").find? fun active =>
        decide (row.ts.val < active)).or (endedAt db row.sessionId) = some finish := by
    intro finish
    rw [find_later_iff sorted, active_stamps, EndsIdle]
  rw [idleStretch]
  cases closing : ((timesOf (boundaryRows db row.sessionId ["idle", "active"]) "active").find?
      fun active => decide (row.ts.val < active)).or (endedAt db row.sessionId) with
  | none =>
      apply iff_of_false (by simp)
      intro stretch
      have closed := (ends span.2).mp stretch.finish
      rw [closing] at closed
      cases closed
  | some finish =>
      dsimp only
      constructor
      · intro made
        split at made
        · cases made
        · rename_i kept
          cases made
          rw [not_or, not_le, not_le] at kept
          exact ⟨admitted, rfl, (ends finish).mpr closing, kept.1, kept.2⟩
      · intro stretch
        have closed := (ends span.2).mp stretch.finish
        rw [closing, Option.some.injEq] at closed
        have after := stretch.after
        have upright := stretch.upright
        rw [stretch.start] at upright
        rw [closed, if_neg (by omega), ← stretch.start]

end Stretches

section Pieces

theorem subtract_one_pieces {subtraction segment : Span} (upright : subtraction.1 ≤ subtraction.2)
    (positive : segment.1 < segment.2) :
    InOrder (subtractOne subtraction segment) ∧
      ∀ piece ∈ subtractOne subtraction segment,
        piece.1 < piece.2 ∧ segment.1 ≤ piece.1 ∧ piece.2 ≤ segment.2 := by
  have pieces : ∀ piece ∈ subtractOne subtraction segment,
      piece.1 < piece.2 ∧ segment.1 ≤ piece.1 ∧ piece.2 ≤ segment.2 := by
    intro piece member
    rw [subtractOne] at member
    split at member
    · rw [List.mem_singleton.mp member]
      exact ⟨positive, le_rfl, le_rfl⟩
    · rcases List.mem_append.mp member with first | second
      · split at first
        · rw [List.mem_singleton.mp first]
          dsimp only
          omega
        · cases first
      · split at second
        · rw [List.mem_singleton.mp second]
          dsimp only
          omega
        · cases second
  apply And.intro _ pieces
  constructor
  · exact fun piece member => (pieces piece member).1.le
  · rw [subtractOne]
    split
    · exact List.pairwise_singleton _ _
    · split
      · split
        · apply List.pairwise_pair.mpr
          dsimp only
          omega
        · exact List.pairwise_singleton _ _
      · split
        · exact List.pairwise_singleton _ _
        · exact List.Pairwise.nil

theorem subtract_intervals_pieces {subtractions segments : List Span}
    (uprights : ∀ subtraction ∈ subtractions, subtraction.1 ≤ subtraction.2)
    (positive : ∀ segment ∈ segments, segment.1 < segment.2) (order : InOrder segments) :
    InOrder (subtractIntervals segments subtractions) ∧
      ∀ piece ∈ subtractIntervals segments subtractions, piece.1 < piece.2 := by
  induction subtractions generalizing segments with
  | nil => exact ⟨order, positive⟩
  | cons subtraction rest induction =>
      have upright := uprights subtraction List.mem_cons_self
      rw [subtractIntervals]
      split
      · exact ⟨InOrder.nil, by simp⟩
      · apply induction fun other listed => uprights other (List.mem_cons_of_mem _ listed)
        · intro piece member
          rcases List.mem_flatMap.mp member with ⟨segment, listed, own⟩
          exact ((subtract_one_pieces upright (positive segment listed)).2 piece own).1
        · apply order.flat_map
          · exact fun segment listed =>
              (subtract_one_pieces upright (positive segment listed)).1
          · intro segment listed piece own
            exact ((subtract_one_pieces upright (positive segment listed)).2 piece own).2

/-- What is left of one stretch once a session's sleep is cut out. -/
def awakePieces (subtractions : List SessionInterval) (sessionId : Int) (span : Span) :
    List Span :=
  subtractIntervals [span] (intervalsBySession subtractions sessionId)

theorem spans_of_subtract_frame {intervals : List SessionInterval}
    (positive : ∀ row ∈ intervals, row.startTs < row.endTs)
    (subtractions : List SessionInterval) (sessionId : Int) :
    spansOf (subtractIntervalFrame intervals subtractions) sessionId =
      (spansOf intervals sessionId).flatMap (awakePieces subtractions sessionId) := by
  rw [subtractIntervalFrame]
  split
  · rename_i trivially
    cases trivially with
    | inl none =>
        rw [none]
        rfl
    | inr none =>
        have whole : awakePieces [] sessionId = fun span => [span] := by
          funext span
          simp [awakePieces, intervalsBySession, mergeIntervals, mergeSorted, subtractIntervals]
        rw [none, whole, List.flatMap_singleton']
  · rename_i nontrivial
    rw [List.filter_eq_self.mpr fun row listed => decide_eq_true (positive row listed)]
    clear positive nontrivial
    induction intervals with
    | nil => rfl
    | cons row rest induction =>
        rw [List.flatMap_cons, spansOf, List.filter_append, List.map_append]
        change _ ++ spansOf _ sessionId = _
        rw [induction]
        by_cases own : row.sessionId = sessionId
        · have first : spansOf (row :: rest) sessionId = row.span :: spansOf rest sessionId := by
            rw [spansOf, List.filter_cons_of_pos (by simpa using own), List.map_cons]
            rfl
          rw [first, List.flatMap_cons, ← own, List.filter_eq_self.mpr, List.map_map]
          · congr 1
            exact List.map_id _
          · intro piece member
            rcases List.mem_map.mp member with ⟨span, _, rfl⟩
            exact beq_iff_eq.mpr rfl
        · have first : spansOf (row :: rest) sessionId = spansOf rest sessionId := by
            rw [spansOf, List.filter_cons_of_neg (by simpa using own)]
            rfl
          rw [first, List.filter_eq_nil_iff.mpr, List.map_nil, List.nil_append]
          intro piece member
          rcases List.mem_map.mp member with ⟨span, _, rfl⟩
          simpa [SessionInterval.of] using own

theorem spans_of_asked {rowsOf : Int → List SessionInterval}
    (own : ∀ sessionId, ∀ row ∈ rowsOf sessionId, row.sessionId = sessionId) {ids : List Int}
    {sessionId : Int} (asked : sessionId ∈ ids) :
    spansOf ((normalizedSessionIds ids).flatMap rowsOf) sessionId =
      (rowsOf sessionId).map SessionInterval.span := by
  have nodup : (normalizedSessionIds ids).Nodup :=
    (List.mergeSort_perm _ _).nodup_iff.mpr (List.nodup_dedup ids)
  have member : sessionId ∈ normalizedSessionIds ids := (mem_normalized ids sessionId).mpr asked
  have others : ∀ {list : List Int}, sessionId ∉ list →
      (list.flatMap rowsOf).filter (fun row => row.sessionId == sessionId) = [] := by
    intro list absent
    apply List.filter_eq_nil_iff.mpr
    intro row listed same
    rcases List.mem_flatMap.mp listed with ⟨other, inList, rowOwn⟩
    rw [beq_iff_eq, own other row rowOwn] at same
    rw [same] at inList
    exact absent inList
  rcases List.mem_iff_append.mp member with ⟨before, after, split⟩
  rw [split] at nodup ⊢
  have apart := List.nodup_middle.mp nodup
  rw [List.nodup_cons, List.mem_append, not_or] at apart
  rw [spansOf, List.flatMap_append, List.flatMap_cons, List.filter_append, List.filter_append,
    others apart.1.1, others apart.1.2, List.append_nil, List.nil_append,
    List.filter_eq_self.mpr fun row listed => beq_iff_eq.mpr (own sessionId row listed)]

end Pieces

section IdleTime

def Asleep (db : Database) (sessionId point : Int) : Prop :=
  Covers ((sessionSleep db sessionId).map SessionInterval.span) point

/-- Idle from some stored row on, and not asleep. -/
def IdleAwake (db : Database) (scope : Option Scope) (sessionId point : Int) : Prop :=
  (∃ row ∈ idleRows db sessionId, ∃ span, IdleStretch db scope row span ∧
    span.1 ≤ point ∧ point < span.2) ∧ ¬Asleep db sessionId point

/-- The stretches of two idle rows have nothing but sleep in common. -/
def StretchesApart (db : Database) (scope : Option Scope) (sessionId : Int) : Prop :=
  (idleRows db sessionId).Pairwise fun left right => ∀ first second point,
    IdleStretch db scope left first → IdleStretch db scope right second →
      (first.1 ≤ point ∧ point < first.2) → (second.1 ≤ point ∧ point < second.2) →
        Asleep db sessionId point

/-- `IdleStretch` as the reader computes it. -/
def stretchOf (db : Database) (scope : Option Scope) (sessionId : Int) (row : EventRow) :
    Option Span :=
  if (scope.bind Scope.sessionId).all fun wanted => sessionId == wanted then
    idleStretch (endedAt db sessionId) (scope.bind Scope.cutoffMs)
      (timesOf (boundaryRows db sessionId ["idle", "active"]) "active") row
  else none

theorem stretch_of_iff {db : Database} {scope : Option Scope} {sessionId : Int} {row : EventRow}
    (own : row.sessionId = sessionId) (span : Span) :
    stretchOf db scope sessionId row = some span ↔ IdleStretch db scope row span := by
  subst own
  rw [stretchOf]
  split
  · rename_i admitted
    apply idle_stretch_iff
    simpa [Option.all_eq_true] using admitted
  · rename_i refused
    apply iff_of_false (by simp)
    intro stretch
    apply refused
    simpa [Option.all_eq_true] using stretch.admitted

theorem session_idle_spans (db : Database) (scope : Option Scope) (sessionId : Int) :
    (sessionIdle db scope sessionId).map SessionInterval.span =
      ((boundaryRows db sessionId ["idle", "active"]).filter fun row =>
        row.kind == "idle").filterMap (stretchOf db scope sessionId) := by
  have sorted := (boundary_rows_sorted db sessionId ["idle", "active"]).filter
    fun row => row.kind == "idle"
  have same : (fun row => stretchOf db scope sessionId row) = stretchOf db scope sessionId := rfl
  rw [sessionIdle, ← same]
  simp only [stretchOf]
  split
  · rw [List.map_map, idle_spans_rows _ _ sorted]
    exact List.map_id _
  · simp

theorem idle_rows_perm (db : Database) (sessionId : Int) :
    ((boundaryRows db sessionId ["idle", "active"]).filter fun row => row.kind == "idle").Perm
      (idleRows db sessionId) := by
  have sorted := (List.mergeSort_perm (db.activity.events.rows.filter fun row =>
    row.sessionId == sessionId && ["idle", "active"].contains row.kind)
      fun left right => decide (left.ts ≤ right.ts)).filter fun row => row.kind == "idle"
  apply sorted.trans
  rw [List.filter_filter, idleRows]
  apply List.Perm.of_eq
  congr 1
  funext row
  by_cases idle : row.kind = "idle"
  · simp [idle]
  · have other : (row.kind == "idle") = false := beq_false_of_ne idle
    rw [other, Bool.false_and, Bool.and_false]

theorem mem_idle_rows {db : Database} {sessionId : Int} {row : EventRow} :
    row ∈ idleRows db sessionId ↔
      row ∈ db.activity.events.rows ∧ row.sessionId = sessionId ∧ row.kind = "idle" := by
  rw [idleRows, List.mem_filter, Bool.and_eq_true, beq_iff_eq, beq_iff_eq]

theorem stretch_positive {db : Database} {scope : Option Scope} {sessionId : Int} {row : EventRow}
    {span : Span} (own : row.sessionId = sessionId)
    (stretch : stretchOf db scope sessionId row = some span) : span.1 < span.2 :=
  ((stretch_of_iff own span).mp stretch).upright

theorem session_idle_positive {db : Database} {scope : Option Scope} {sessionId : Int}
    {row : SessionInterval} (member : row ∈ sessionIdle db scope sessionId) :
    row.startTs < row.endTs := by
  have listed := List.mem_map_of_mem (f := SessionInterval.span) member
  rw [session_idle_spans, List.mem_filterMap] at listed
  rcases listed with ⟨event, own, stretch⟩
  have boundary := mem_boundary_rows.mp (List.mem_of_mem_filter own)
  exact stretch_positive boundary.2.1 stretch

theorem idle_interval_spans (db : Database) {ids : List Int} (scope : Option Scope)
    {sessionId : Int} (asked : sessionId ∈ ids) :
    spansOf (idleIntervals db ids scope) sessionId =
      (((boundaryRows db sessionId ["idle", "active"]).filter fun row =>
        row.kind == "idle").filterMap (stretchOf db scope sessionId)).flatMap
          (awakePieces (sleepIntervals db ids) sessionId) := by
  rw [idleIntervals, spans_of_subtract_frame,
    spans_of_asked (fun _ _ member => session_of_idle member) asked, session_idle_spans]
  intro row member
  rcases List.mem_flatMap.mp member with ⟨other, _, listed⟩
  exact session_idle_positive listed

theorem awake_pieces_spec (db : Database) {ids : List Int} {sessionId : Int}
    (asked : sessionId ∈ ids) {span : Span} (positive : span.1 < span.2) :
    InOrder (awakePieces (sleepIntervals db ids) sessionId span) ∧
      (∀ piece ∈ awakePieces (sleepIntervals db ids) sessionId span, piece.1 < piece.2) ∧
        ∀ point, Covers (awakePieces (sleepIntervals db ids) sessionId span) point ↔
          (span.1 ≤ point ∧ point < span.2) ∧ ¬Asleep db sessionId point := by
  have spec := intervals_by_session_spec (sleepIntervals db ids) sessionId
  have alone : InOrder [span] := by
    constructor
    · intro other member
      rw [List.mem_singleton.mp member]
      exact positive.le
    · exact List.pairwise_singleton _ _
  have pieces := subtract_intervals_pieces (fun subtraction listed => spec.1.1 subtraction listed)
    (fun segment listed => by rw [List.mem_singleton.mp listed]; exact positive) alone
  apply And.intro pieces.1
  apply And.intro pieces.2
  intro point
  have asleep : Covers (spansOf (sleepIntervals db ids) sessionId) point ↔
      Asleep db sessionId point :=
    covers_asked (fun _ _ member => session_of_sleep member) asked point
  rw [awakePieces, covers_subtract_intervals spec.1, spec.2, asleep, covers_cons,
    or_iff_left (not_covers_nil point)]

/-- What the idle intervals of one session are. -/
structure IdleExact (db : Database) (ids : List Int) (scope : Option Scope) (sessionId : Int) :
    Prop where
  positive : ∀ span ∈ spansOf (idleIntervals db ids scope) sessionId, span.1 < span.2
  union : ∀ point, Covers (spansOf (idleIntervals db ids scope) sessionId) point ↔
    IdleAwake db scope sessionId point
  apart : (spansOf (idleIntervals db ids scope) sessionId).Pairwise Apart ↔
    StretchesApart db scope sessionId

theorem idle_exact (db : Database) {ids : List Int} (scope : Option Scope) {sessionId : Int}
    (asked : sessionId ∈ ids) : IdleExact db ids scope sessionId := by
  have own : ∀ row ∈ (boundaryRows db sessionId ["idle", "active"]).filter fun row =>
      row.kind == "idle", row.sessionId = sessionId := by
    intro row member
    exact (mem_boundary_rows.mp (List.mem_of_mem_filter member)).2.1
  have positive : ∀ span ∈ ((boundaryRows db sessionId ["idle", "active"]).filter fun row =>
      row.kind == "idle").filterMap (stretchOf db scope sessionId), span.1 < span.2 := by
    intro span member
    rcases List.mem_filterMap.mp member with ⟨row, listed, stretch⟩
    exact stretch_positive (own row listed) stretch
  constructor
  · intro piece member
    rw [idle_interval_spans db scope asked] at member
    rcases List.mem_flatMap.mp member with ⟨span, listed, inside⟩
    exact (awake_pieces_spec db asked (positive span listed)).2.1 piece inside
  · intro point
    rw [idle_interval_spans db scope asked, covers_flat_map, IdleAwake]
    constructor
    · rintro ⟨span, listed, covered⟩
      have inside := ((awake_pieces_spec db asked (positive span listed)).2.2 point).mp covered
      rcases List.mem_filterMap.mp listed with ⟨row, member, stretch⟩
      refine ⟨⟨row, (idle_rows_perm db sessionId).mem_iff.mp member, span, ?_, inside.1⟩, inside.2⟩
      exact (stretch_of_iff (own row member) span).mp stretch
    · rintro ⟨⟨row, member, span, stretch, inside⟩, awake⟩
      have listed := (idle_rows_perm db sessionId).mem_iff.mpr member
      refine ⟨span, List.mem_filterMap.mpr ⟨row, listed, ?_⟩, ?_⟩
      · exact (stretch_of_iff (own row listed) span).mpr stretch
      · exact ((awake_pieces_spec db asked stretch.upright).2.2 point).mpr ⟨inside, awake⟩
  · rw [idle_interval_spans db scope asked, apart_flat_map_iff fun span listed =>
      (awake_pieces_spec db asked (positive span listed)).1.apart, List.pairwise_filterMap,
      StretchesApart, ← List.Perm.pairwise_iff _ (idle_rows_perm db sessionId)]
    · constructor
      · intro apart
        apply apart.imp_of_mem
        intro left right leftListed rightListed disjoint first second point firstOf secondOf
          inFirst inSecond
        by_contra awake
        apply disjoint first ((stretch_of_iff (own left leftListed) first).mpr firstOf) second
          ((stretch_of_iff (own right rightListed) second).mpr secondOf) point
        exact ⟨((awake_pieces_spec db asked firstOf.upright).2.2 point).mpr ⟨inFirst, awake⟩,
          ((awake_pieces_spec db asked secondOf.upright).2.2 point).mpr ⟨inSecond, awake⟩⟩
      · intro apart
        apply apart.imp_of_mem
        intro left right leftListed rightListed asleep first firstOf second secondOf point both
        rw [stretch_of_iff (own left leftListed)] at firstOf
        rw [stretch_of_iff (own right rightListed)] at secondOf
        rw [(awake_pieces_spec db asked firstOf.upright).2.2,
          (awake_pieces_spec db asked secondOf.upright).2.2] at both
        exact both.1.2 (asleep first second point firstOf secondOf both.1.1 both.2.1)
    · intro left right asleep first second point firstOf secondOf inFirst inSecond
      exact asleep second first point secondOf firstOf inSecond inFirst

/-- The sum of a session's idle intervals, taken between any bounds that hold them. -/
theorem idle_ms_overlap {idle : List SessionInterval} {sessionId lo hi : Int}
    (within : ∀ span ∈ spansOf idle sessionId, lo ≤ span.1 ∧ span.2 ≤ hi) :
    idleMs idle sessionId = ((spansOf idle sessionId).map (overlap lo hi)).sum := by
  rw [idleMs, spansOf, List.map_map]
  congr 1
  apply List.map_congr_left
  intro row member
  have bounds := within row.span (List.mem_map_of_mem member)
  rw [SessionInterval.span] at bounds
  dsimp only [Function.comp, SessionInterval.span, overlap] at bounds ⊢
  omega

variable [Doubles] [LocalZone] [AnalyticsText]

theorem analytics_row_idle {db : Database} {scope : Scope} {row : SessionAnalyticsRow}
    (listed : row ∈ sessionAnalytics db scope) :
    ∃ ids : List Int, row.sessionId ∈ ids ∧ row.idleMinutes = roundedMinutes
      (idleMs (idleIntervals db ids (some scope)) row.sessionId) := by
  rcases List.mem_map.mp listed with ⟨session, member, made⟩
  subst made
  exact ⟨(analyticsSessions db scope).map SessionRow.sessionId, List.mem_map_of_mem member, rfl⟩

end IdleTime

section CountedOnce

/-- Idle by the word of a stored row: from as far as it reaches back up to the next activity or
the end of the session, and not asleep. -/
def ToldIdle (db : Database) (scope : Option Scope) (sessionId point : Int) : Prop :=
  (∃ row ∈ idleRows db sessionId, (∀ wanted ∈ scope.bind Scope.sessionId, sessionId = wanted) ∧
    ∃ finish, EndsIdle db sessionId row.ts.val finish ∧
      backdatedStart (scope.bind Scope.cutoffMs) row ≤ point ∧ point < finish) ∧
    ¬Asleep db sessionId point

/-- The idle time of a session is told by its rows and counted once. -/
structure IdleCounted (db : Database) (ids : List Int) (scope : Option Scope) (sessionId : Int) :
    Prop where
  positive : ∀ span ∈ spansOf (idleIntervals db ids scope) sessionId, span.1 < span.2
  apart : (spansOf (idleIntervals db ids scope) sessionId).Pairwise Apart
  awake : ∀ point, Covers (spansOf (idleIntervals db ids scope) sessionId) point →
    ¬Asleep db sessionId point
  union : ∀ point, Covers (spansOf (idleIntervals db ids scope) sessionId) point ↔
    ToldIdle db scope sessionId point
  measured : ∀ lo hi, (∀ point, ToldIdle db scope sessionId point → lo ≤ point ∧ point < hi) →
    idleMs (idleIntervals db ids scope) sessionId = length (ToldIdle db scope sessionId) lo hi
  wall : ∀ session ∈ db.activity.sessions.rows, session.sessionId = sessionId →
    ∀ ended ∈ session.endedAt, idleMs (idleIntervals db ids scope) sessionId ≤
      max 0 (ended.val - session.startedAt.val)

/-- No two idle rows stand for the same time awake, a row stored after the end of its session
tells of no other, and no more idle time lies outside the session than time in it is busy. -/
structure IdleRowsApart (db : Database) (scope : Option Scope) (sessionId : Int) : Prop where
  apart : StretchesApart db scope sessionId
  late : ∀ row ∈ idleRows db sessionId,
    (∀ wanted ∈ scope.bind Scope.sessionId, sessionId = wanted) →
      ∀ finish, EndsIdle db sessionId row.ts.val finish → finish ≤ row.ts.val →
        ∀ point, backdatedStart (scope.bind Scope.cutoffMs) row ≤ point → point < finish →
          ¬Asleep db sessionId point → IdleAwake db scope sessionId point
  outside : ∀ session ∈ db.activity.sessions.rows, session.sessionId = sessionId →
    ∀ ended ∈ session.endedAt, ∀ lo hi,
      (∀ point, ToldIdle db scope sessionId point → lo ≤ point ∧ point < hi) →
        length (fun point => ToldIdle db scope sessionId point ∧
            ¬(session.startedAt.val ≤ point ∧ point < ended.val)) lo hi ≤
          length (fun point => ¬ToldIdle db scope sessionId point) session.startedAt.val ended.val

theorem told_of_awake {db : Database} {scope : Option Scope} {sessionId point : Int}
    (awake : IdleAwake db scope sessionId point) : ToldIdle db scope sessionId point := by
  have ⟨⟨row, member, span, stretch, after, before⟩, up⟩ := awake
  have own := (mem_idle_rows.mp member).2.1
  refine ⟨⟨row, member, ?_, span.2, ?_, ?_, before⟩, up⟩
  · rw [← own]
    exact stretch.admitted
  · rw [← own]
    exact stretch.finish
  · rw [← stretch.start]
    exact after

theorem awake_of_told {db : Database} {scope : Option Scope} {sessionId point : Int}
    (late : ∀ row ∈ idleRows db sessionId,
      (∀ wanted ∈ scope.bind Scope.sessionId, sessionId = wanted) →
        ∀ finish, EndsIdle db sessionId row.ts.val finish → finish ≤ row.ts.val →
          ∀ point, backdatedStart (scope.bind Scope.cutoffMs) row ≤ point → point < finish →
            ¬Asleep db sessionId point → IdleAwake db scope sessionId point)
    (told : ToldIdle db scope sessionId point) : IdleAwake db scope sessionId point := by
  have ⟨⟨row, member, admitted, finish, ends, after, before⟩, up⟩ := told
  by_cases skipped : finish ≤ row.ts.val
  · exact late row member admitted finish ends skipped point after before up
  · have own := (mem_idle_rows.mp member).2.1
    rw [← own] at admitted ends
    exact ⟨⟨row, member, (_, finish), ⟨admitted, rfl, ends, not_le.mp skipped,
      after.trans_lt before⟩, after, before⟩, up⟩

/-- Exactly then the idle time of the session is counted once. -/
theorem idle_counted_iff (db : Database) {ids : List Int} (scope : Option Scope) {sessionId : Int}
    (asked : sessionId ∈ ids) :
    IdleCounted db ids scope sessionId ↔ IdleRowsApart db scope sessionId := by
  have exact := idle_exact db scope asked
  constructor
  · intro counted
    refine ⟨exact.apart.mp counted.apart, ?_, ?_⟩
    · intro row member admitted finish ends _ point after before up
      exact (exact.union point).mp ((counted.union point).mpr
        ⟨⟨row, member, admitted, finish, ends, after, before⟩, up⟩)
    · intro session listed own ended closed lo hi bounds
      have wall := counted.wall session listed own ended closed
      rw [counted.measured lo hi bounds] at wall
      exact (length_le_window_iff _ _ bounds).mp wall
  · intro rows
    have union (point : Int) : Covers (spansOf (idleIntervals db ids scope) sessionId) point ↔
        ToldIdle db scope sessionId point :=
      (exact.union point).trans ⟨told_of_awake, awake_of_told rows.late⟩
    have measured (lo hi : Int)
        (bounds : ∀ point, ToldIdle db scope sessionId point → lo ≤ point ∧ point < hi) :
        idleMs (idleIntervals db ids scope) sessionId =
          length (ToldIdle db scope sessionId) lo hi := by
      have within : ∀ span ∈ spansOf (idleIntervals db ids scope) sessionId,
          lo ≤ span.1 ∧ span.2 ≤ hi := by
        intro span member
        have positive := exact.positive span member
        have first := bounds span.1 ((union span.1).mp ⟨span, member, le_rfl, positive⟩)
        have last := bounds (span.2 - 1)
          ((union (span.2 - 1)).mp ⟨span, member, by omega, by omega⟩)
        omega
      rw [idle_ms_overlap within, (sum_overlap_eq_iff within).mpr (exact.apart.mpr rows.apart)]
      exact length_congr fun point _ _ => union point
    refine ⟨exact.positive, exact.apart.mpr rows.apart,
      fun point covered => ((exact.union point).mp covered).2, union, measured, ?_⟩
    intro session listed own ended closed
    have ⟨lo, hi, within⟩ := spans_bounded (spansOf (idleIntervals db ids scope) sessionId)
    have bounds : ∀ point, ToldIdle db scope sessionId point → lo ≤ point ∧ point < hi :=
      fun point told => within point ((union point).mpr told)
    rw [measured lo hi bounds]
    exact (length_le_window_iff _ _ bounds).mpr
      (rows.outside session listed own ended closed lo hi bounds)

variable [Doubles] [LocalZone] [AnalyticsText]

/-- The idle intervals of a session are its idle time awake, and it is counted once exactly when
its rows stand apart. The rollup shows the sum of the intervals. -/
theorem idle_time_counted (db : Database) :
    (∀ ids scope, ∀ sessionId ∈ ids, IdleExact db ids scope sessionId ∧
      (IdleCounted db ids scope sessionId ↔ IdleRowsApart db scope sessionId)) ∧
      ∀ scope, ∀ row ∈ sessionAnalytics db scope, ∃ ids : List Int, row.sessionId ∈ ids ∧
        row.idleMinutes = roundedMinutes
          (idleMs (idleIntervals db ids (some scope)) row.sessionId) := by
  constructor
  · exact fun ids scope sessionId asked => ⟨idle_exact db scope asked,
      idle_counted_iff db scope asked⟩
  · exact fun scope row listed => analytics_row_idle listed

end CountedOnce

section TwiceIdle

private def idledRow (seq ts : Int) (kind : String) (elapsed : Int) : EventRow :=
  { sessionId := 1, seq := .ofInt seq, ts := .ofInt ts, source := .system, kind := kind
    isSensitive := false, hwnd := none, exe := none, title := none, pid := none
    prevExe := none, prevTitle := none, key := none, modShift := none, modCtrl := none
    modAlt := none, modWin := none, button := none, posX := none, posY := none
    durationMs := some (.ofInt elapsed), payload := .idle 0 }

/-- A session of a hundred milliseconds with two idle rows before its activity. -/
private def twiceIdle : Database :=
  { Database.empty with
    activity := { Activity.empty with
      sessions := ⟨[⟨1, .ofInt 0, some (.ofInt 100), none, none, none, none⟩], by decide⟩
      events := ⟨[idledRow 1 10 "idle" 10, idledRow 2 20 "idle" 5, idledRow 3 90 "active" 0],
        by decide⟩ } }

/-- A session that ended before its last idle row was stored. -/
private def idleAfterEnd : Database :=
  { Database.empty with
    activity := { Activity.empty with
      sessions := ⟨[⟨1, .ofInt 0, some (.ofInt 40), none, none, none, none⟩], by decide⟩
      events := ⟨[idledRow 1 50 "idle" 30], by decide⟩ } }

private theorem twice_idle_spans :
    idleIntervals twiceIdle [1] none = [⟨1, 0, 90⟩, ⟨1, 15, 90⟩] := by
  have rows : boundaryRows twiceIdle 1 ["idle", "active"] = twiceIdle.activity.events.rows :=
    List.mergeSort_of_pairwise (by decide)
  have slept : sleepIntervals twiceIdle [1] = [] := by
    simp [sleepIntervals, normalizedSessionIds, sessionSleep, boundaryRows, twiceIdle, idledRow,
      sleepKinds, timesOf, closeSpans, recoveredSpans]
  have idle : sessionIdle twiceIdle none 1 = [⟨1, 0, 90⟩, ⟨1, 15, 90⟩] := by
    rw [sessionIdle, rows]
    decide +kernel
  have alone : normalizedSessionIds [1] = [1] := by
    simp [normalizedSessionIds]
  rw [idleIntervals, slept, alone, List.flatMap_singleton, idle, subtractIntervalFrame,
    if_pos (Or.inr rfl)]

private theorem idle_after_end_spans : idleIntervals idleAfterEnd [1] none = [] := by
  have rows : boundaryRows idleAfterEnd 1 ["idle", "active"] =
      idleAfterEnd.activity.events.rows := List.mergeSort_of_pairwise (by decide)
  have idle : sessionIdle idleAfterEnd none 1 = [] := by
    rw [sessionIdle, rows]
    decide +kernel
  have alone : normalizedSessionIds [1] = [1] := by
    simp [normalizedSessionIds]
  rw [idleIntervals, alone, List.flatMap_singleton, idle, subtractIntervalFrame,
    if_pos (Or.inl rfl)]

/-- Both rows run to the same activity, so that a hundred milliseconds hold a hundred and
sixty-five idle ones; and a row stored past its session's end stands for no time at all. -/
theorem idle_counted_twice :
    (¬∀ db : Database, ∀ ids scope, ∀ sessionId ∈ ids,
      (spansOf (idleIntervals db ids scope) sessionId).Pairwise Apart ∧
        ∀ session ∈ db.activity.sessions.rows, session.sessionId = sessionId →
          ∀ ended ∈ session.endedAt, idleMs (idleIntervals db ids scope) sessionId ≤
            ended.val - session.startedAt.val) ∧
      ¬∀ db : Database, ∀ ids, ∀ sessionId ∈ ids, ∀ row ∈ idleRows db sessionId, ∀ finish,
        EndsIdle db sessionId row.ts.val finish →
          ∀ point, backdatedStart none row ≤ point → point < finish →
            Covers (spansOf (idleIntervals db ids none) sessionId) point ∨
              Asleep db sessionId point := by
  constructor
  · intro claimed
    have bound :=
      (claimed twiceIdle [1] none 1 List.mem_cons_self).2 _ List.mem_cons_self rfl _ rfl
    rw [twice_idle_spans] at bound
    exact absurd bound (by decide +kernel)
  · intro claimed
    have ends : EndsIdle idleAfterEnd 1 50 40 := by
      apply Or.inr
      apply And.intro _ (by decide)
      apply Set.eq_empty_of_forall_notMem
      rintro stamp ⟨_, row, listed, _, active, _⟩
      rw [List.mem_singleton.mp listed] at active
      exact absurd active (by decide)
    have covered := claimed idleAfterEnd [1] 1 List.mem_cons_self _ List.mem_cons_self 40 ends 20
      (by decide) (by decide)
    have slept : sessionSleep idleAfterEnd 1 = [] := by
      simp [sessionSleep, boundaryRows, idleAfterEnd, idledRow, sleepKinds, timesOf, closeSpans,
        recoveredSpans]
    rw [idle_after_end_spans, Asleep, slept] at covered
    exact covered.elim (not_covers_nil 20) (not_covers_nil 20)

end TwiceIdle

end Gilbreth.Read
