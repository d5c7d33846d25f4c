import Gilbreth.Read.Away

/-!
# Active foreground time

The sweep that takes a session's inactive spans out of its focus dwells. It passes
over the spans once, in start order, and still gives every dwell the time in it
that no span covers.
-/

set_option autoImplicit false

namespace Gilbreth.Read

open Gilbreth.Core Gilbreth.Store Spans

structure ActiveFocusInterval extends FocusInterval where
  activeForegroundMs : Int
deriving DecidableEq

section Sweep

/-- The sweep between two rows: each session's position among its spans, and the rows
in their own order. -/
structure Sweep where
  cursor : Int → Nat
  out : List ActiveFocusInterval

/-- The first loop: past the spans that end before the dwell starts. -/
def advance (focusStart : Int) (intervals : List Span) (position : Nat) : Nat :=
  position + ((intervals.drop position).takeWhile fun interval =>
    decide (interval.2 ≤ focusStart)).length

/-- The second loop, which stops at the first span that starts after the dwell. -/
def scanOverlap (focusStart focusEnd : Int) : List Span → Int
  | [] => 0
  | interval :: rest =>
      if interval.1 < focusEnd then
        max 0 (min focusEnd interval.2 - max focusStart interval.1) +
          scanOverlap focusStart focusEnd rest
      else 0

def Sweep.visit (merged : Int → List Span) (sweep : Sweep) (index : Nat) : Sweep :=
  match sweep.out[index]? with
  | none => sweep
  | some row =>
      let intervals := merged row.sessionId
      let position := advance row.startTs intervals (sweep.cursor row.sessionId)
      let focusMs := max 0 (row.endTs - row.startTs)
      let idleOverlap := scanOverlap row.startTs row.endTs (intervals.drop position)
      { cursor := Function.update sweep.cursor row.sessionId position
        out := sweep.out.set index
          { row with activeForegroundMs := max 0 (focusMs - idleOverlap) } }

/-- The key `(session_id, start_ts)`. -/
def sweepsBefore (left right : FocusInterval) : Bool :=
  decide (left.sessionId < right.sessionId ∨
    (left.sessionId = right.sessionId ∧ left.startTs ≤ right.startTs))

def sweepOrder (focus : List FocusInterval) : List Nat :=
  (focus.zipIdx.mergeSort fun left right => sweepsBefore left.1 right.1).map Prod.snd

def wholeDwell (row : FocusInterval) : ActiveFocusInterval :=
  { row with activeForegroundMs := max 0 (row.endTs - row.startTs) }

def addActiveForegroundMs (focus : List FocusInterval) (inactive : List SessionInterval) :
    List ActiveFocusInterval :=
  let out := focus.map wholeDwell
  if inactive = [] then out
  else ((sweepOrder focus).foldl (Sweep.visit (intervalsBySession inactive)) ⟨fun _ => 0, out⟩).out

end Sweep

section Dwell

theorem dwell_without_spans {spans : List Span} (order : InOrder spans) (lo hi : Int) :
    max 0 (max 0 (hi - lo) - (spans.map (overlap lo hi)).sum) =
      length (fun point => ¬Covers spans point) lo hi := by
  have rest := length_compl (Covers spans) lo hi
  have some : 0 ≤ length (fun point => ¬Covers spans point) lo hi := length_nonneg
  rw [sum_overlap order]
  omega

theorem sum_no_overlap {spans : List Span} {lo hi : Int}
    (nothing : ∀ span ∈ spans, overlap lo hi span = 0) : (spans.map (overlap lo hi)).sum = 0 := by
  apply List.sum_eq_zero
  intro amount member
  rcases List.mem_map.mp member with ⟨span, listed, rfl⟩
  exact nothing span listed

/-- The early stop loses nothing: spans in order that start later overlap nowhere. -/
theorem scan_overlap_eq {spans : List Span} (order : InOrder spans) (focusStart focusEnd : Int) :
    scanOverlap focusStart focusEnd spans = (spans.map (overlap focusStart focusEnd)).sum := by
  induction spans with
  | nil => rfl
  | cons span rest induction =>
      rw [scanOverlap]
      split
      · rw [induction order.tail, List.map_cons, List.sum_cons, overlap, min_comm span.2,
          max_comm span.1]
      · rename_i beyond
        have upright := order.1 span List.mem_cons_self
        have nothing : ∀ other ∈ span :: rest, overlap focusStart focusEnd other = 0 := by
          intro other member
          rcases List.mem_cons.mp member with rfl | later
          · rw [overlap]
            omega
          · have after := (List.pairwise_cons.mp order.2).1 other later
            rw [overlap]
            omega
        rw [sum_no_overlap nothing]

/-- The spans behind the cursor ended before the dwell. -/
def Passed (spans : List Span) (position : Nat) (focusStart : Int) : Prop :=
  ∀ span ∈ spans.take position, span.2 ≤ focusStart

theorem scan_from_position {spans : List Span} (order : InOrder spans) {focusStart : Int}
    (focusEnd : Int) {position : Nat} (passed : Passed spans position focusStart) :
    scanOverlap focusStart focusEnd (spans.drop position) =
      (spans.map (overlap focusStart focusEnd)).sum := by
  have later : InOrder (spans.drop position) :=
    ⟨fun span member => order.1 span (List.mem_of_mem_drop member),
      order.2.sublist (List.drop_sublist _ _)⟩
  have nothing : ∀ span ∈ spans.take position, overlap focusStart focusEnd span = 0 := by
    intro span member
    have before := passed span member
    rw [overlap]
    omega
  have split : (spans.map (overlap focusStart focusEnd)).sum =
      ((spans.take position).map (overlap focusStart focusEnd)).sum +
        ((spans.drop position).map (overlap focusStart focusEnd)).sum := by
    rw [← List.sum_append, ← List.map_append, List.take_append_drop]
  rw [scan_overlap_eq later, split, sum_no_overlap nothing, zero_add]

theorem passed_advance {spans : List Span} {focusStart : Int} {position : Nat}
    (passed : Passed spans position focusStart) :
    Passed spans (advance focusStart spans position) focusStart := by
  intro span member
  rw [advance, List.take_add, List.mem_append] at member
  rcases member with before | among
  · exact passed span before
  · rw [← List.prefix_iff_eq_take.mp (List.takeWhile_prefix _)] at among
    have ended := List.mem_takeWhile_imp among
    exact of_decide_eq_true ended

end Dwell

section Order

/-- A row with the time in its dwell that no inactive span of its session covers. -/
noncomputable def activeDwell (inactive : List SessionInterval) (row : FocusInterval) :
    ActiveFocusInterval :=
  { row with
    activeForegroundMs :=
      length (fun point => ¬Covers (spansOf inactive row.sessionId) point) row.startTs row.endTs }

variable {focus : List FocusInterval} {inactive : List SessionInterval}

theorem sweep_order_perm (focus : List FocusInterval) :
    (sweepOrder focus).Perm (List.range focus.length) := by
  have numbers : focus.zipIdx.map Prod.snd = List.range focus.length := by
    rw [List.zipIdx_map_snd, List.range_eq_range']
  rw [← numbers]
  exact (List.mergeSort_perm _ _).map _

theorem sweep_order_sorted (focus : List FocusInterval) :
    (sweepOrder focus).Pairwise fun left right => ∀ first ∈ focus[left]?, ∀ second ∈ focus[right]?,
      first.sessionId = second.sessionId → first.startTs ≤ second.startTs := by
  have ordered := @List.pairwise_mergeSort (FocusInterval × Nat)
    (fun left right => sweepsBefore left.1 right.1) ?_ ?_ focus.zipIdx
  · rw [sweepOrder, List.pairwise_map]
    refine ordered.imp_of_mem ?_
    intro left right inLeft inRight before first atLeft second atRight same
    have leftRow := List.mem_zipIdx_iff_getElem?.mp (List.mem_mergeSort.mp inLeft)
    have rightRow := List.mem_zipIdx_iff_getElem?.mp (List.mem_mergeSort.mp inRight)
    cases leftRow.symm.trans atLeft
    cases rightRow.symm.trans atRight
    rw [sweepsBefore, decide_eq_true_eq] at before
    omega
  · intro a b c
    simp only [sweepsBefore, decide_eq_true_eq]
    omega
  · intro a b
    simp only [sweepsBefore, Bool.or_eq_true, decide_eq_true_eq]
    omega

/-- A sweep that has `rest` still to visit: the rows done carry their active time, and
no span a row to come still needs is behind its session's cursor. -/
structure Sweeping (focus : List FocusInterval) (inactive : List SessionInterval)
    (rest : List Nat) (sweep : Sweep) : Prop where
  row : ∀ index, sweep.out[index]? = focus[index]?.map
    (if index ∈ rest then wholeDwell else activeDwell inactive)
  passed : ∀ index ∈ rest, ∀ row ∈ focus[index]?,
    Passed (intervalsBySession inactive row.sessionId) (sweep.cursor row.sessionId) row.startTs

theorem Sweeping.visit {index : Nat} {rest : List Nat} {sweep : Sweep}
    (sweeping : Sweeping focus inactive (index :: rest) sweep) (fresh : index ∉ rest)
    (sorted : ∀ other ∈ rest, ∀ first ∈ focus[index]?, ∀ second ∈ focus[other]?,
      first.sessionId = second.sessionId → first.startTs ≤ second.startTs) :
    Sweeping focus inactive rest (sweep.visit (intervalsBySession inactive) index) := by
  have here := sweeping.row index
  rw [if_pos List.mem_cons_self] at here
  cases listed : focus[index]? with
  | none =>
      rw [listed, Option.map_none] at here
      rw [Sweep.visit, here]
      refine ⟨fun other => ?_, fun other member => sweeping.passed other (.tail _ member)⟩
      by_cases same : other = index
      · subst same
        rw [here, listed, Option.map_none]
      · simpa only [List.mem_cons, same, false_or] using sweeping.row other
  | some row =>
      rw [listed, Option.map_some] at here
      have spec := intervals_by_session_spec inactive row.sessionId
      have passed := passed_advance (sweeping.passed index List.mem_cons_self row listed)
      have active : length (fun point => ¬Covers (spansOf inactive row.sessionId) point)
          row.startTs row.endTs = length
            (fun point => ¬Covers (intervalsBySession inactive row.sessionId) point)
            row.startTs row.endTs :=
        length_congr fun point _ _ => not_congr (spec.2 point).symm
      rw [Sweep.visit, here]
      constructor
      · intro other
        by_cases same : other = index
        · subst same
          have inside : other < sweep.out.length := (List.getElem?_eq_some_iff.mp here).1
          rw [List.getElem?_set_self inside, listed, if_neg fresh, Option.map_some, activeDwell,
            active, ← dwell_without_spans spec.1, ← scan_from_position spec.1 row.endTs passed]
          rfl
        · rw [List.getElem?_set_ne (Ne.symm same)]
          simpa only [List.mem_cons, same, false_or] using sweeping.row other
      · intro other member later atOther
        by_cases same : later.sessionId = row.sessionId
        · have after := sorted other member row listed later atOther same.symm
          change Passed _ (Function.update sweep.cursor row.sessionId _ later.sessionId) _
          rw [same, Function.update_self]
          exact fun span behind => (passed span behind).trans after
        · change Passed _ (Function.update sweep.cursor row.sessionId _ later.sessionId) _
          rw [Function.update_of_ne same]
          exact sweeping.passed other (List.mem_cons_of_mem _ member) later atOther

theorem Sweeping.run {rest : List Nat} {sweep : Sweep}
    (sweeping : Sweeping focus inactive rest sweep) (distinct : rest.Nodup)
    (sorted : rest.Pairwise fun left right => ∀ first ∈ focus[left]?, ∀ second ∈ focus[right]?,
      first.sessionId = second.sessionId → first.startTs ≤ second.startTs) :
    Sweeping focus inactive [] (rest.foldl (Sweep.visit (intervalsBySession inactive)) sweep) := by
  induction rest generalizing sweep with
  | nil => exact sweeping
  | cons index rest induction =>
      have fresh := List.nodup_cons.mp distinct
      have order := List.pairwise_cons.mp sorted
      exact induction (sweeping.visit fresh.1 order.1) fresh.2 order.2

theorem add_active_foreground_ms_eq (focus : List FocusInterval)
    (inactive : List SessionInterval) :
    addActiveForegroundMs focus inactive = focus.map (activeDwell inactive) := by
  rw [addActiveForegroundMs]
  split
  · rename_i none
    subst none
    apply List.map_congr_left
    intro row _
    have all : length (fun point => ¬Covers (spansOf [] row.sessionId) point) row.startTs
        row.endTs = length (fun _ => True) row.startTs row.endTs :=
      length_congr fun point _ _ => iff_of_true (not_covers_nil point) trivial
    rw [activeDwell, all, length_all, wholeDwell]
  · have numbers := sweep_order_perm focus
    have start : Sweeping focus inactive (sweepOrder focus)
        ⟨fun _ => 0, focus.map wholeDwell⟩ := by
      constructor
      · intro index
        rw [List.getElem?_map]
        by_cases inside : index < focus.length
        · rw [if_pos (numbers.mem_iff.mpr (List.mem_range.mpr inside))]
        · rw [List.getElem?_eq_none (not_lt.mp inside), Option.map_none, Option.map_none]
      · intro index _ row _ span behind
        rw [List.take_zero] at behind
        cases behind
    have done := start.run (numbers.nodup_iff.mpr List.nodup_range) (sweep_order_sorted focus)
    apply List.ext_getElem?
    intro index
    rw [done.row, if_neg List.not_mem_nil, List.getElem?_map]

theorem active_dwell_congr {other : List SessionInterval} {row : FocusInterval}
    (same : ∀ point, Covers (spansOf other row.sessionId) point ↔
      Covers (spansOf inactive row.sessionId) point) :
    activeDwell other row = activeDwell inactive row := by
  have times : length (fun point => ¬Covers (spansOf other row.sessionId) point) row.startTs
      row.endTs = length (fun point => ¬Covers (spansOf inactive row.sessionId) point) row.startTs
        row.endTs :=
    length_congr fun point _ _ => not_congr (same point)
  rw [activeDwell, activeDwell, times]

/-- The sweep is the measure: every row, in its own place, has the milliseconds of its
dwell that no inactive span of its session covers. The order of the rows and of the
spans does not matter, and the spans of other sessions do not either. -/
theorem active_time_is_the_measure (focus : List FocusInterval)
    (inactive : List SessionInterval) :
    addActiveForegroundMs focus inactive =
        focus.map (fun row =>
          { row with
            activeForegroundMs := length
              (fun point => ∀ span ∈ inactive, span.sessionId = row.sessionId →
                span.startTs < span.endTs → ¬(span.startTs ≤ point ∧ point < span.endTs))
              row.startTs row.endTs }) ∧
      (∀ row ∈ addActiveForegroundMs focus inactive, row.endTs ≤ row.startTs →
        row.activeForegroundMs = 0) ∧
      (∀ reordered : List FocusInterval, reordered.Perm focus →
        (addActiveForegroundMs reordered inactive).Perm (addActiveForegroundMs focus inactive)) ∧
      (∀ reordered : List SessionInterval, reordered.Perm inactive →
        addActiveForegroundMs focus reordered = addActiveForegroundMs focus inactive) ∧
      ∀ (sessionId : Int) (other : List SessionInterval),
        other.filter (fun span => span.sessionId == sessionId) =
          inactive.filter (fun span => span.sessionId == sessionId) →
        (addActiveForegroundMs focus other).filter (fun row => row.sessionId == sessionId) =
          (addActiveForegroundMs focus inactive).filter fun row => row.sessionId == sessionId := by
  simp only [add_active_foreground_ms_eq]
  refine ⟨?_, ?_, ?_, ?_, ?_⟩
  · apply List.map_congr_left
    intro row _
    have points : ∀ point, ¬Covers (spansOf inactive row.sessionId) point ↔
        ∀ span ∈ inactive, span.sessionId = row.sessionId → span.startTs < span.endTs →
          ¬(span.startTs ≤ point ∧ point < span.endTs) := by
      intro point
      rw [covers_spans_of]
      constructor
      · intro outside span listed own _ inside
        exact outside ⟨span, listed, own, inside⟩
      · intro outside covered
        have ⟨span, listed, own, inside⟩ := covered
        exact outside span listed own (by omega) inside
    have times := @length_congr _ _ row.startTs row.endTs fun point _ _ => points point
    rw [activeDwell, times]
  · intro row member inverted
    have ⟨source, _, made⟩ := List.mem_map.mp member
    subst made
    exact length_of_le inverted
  · intro reordered same
    exact same.map _
  · intro reordered same
    apply List.map_congr_left
    intro row _
    apply active_dwell_congr
    intro point
    exact covers_of_perm ((same.filter _).map _) point
  · intro sessionId other same
    rw [List.filter_map, List.filter_map]
    apply List.map_congr_left
    intro row member
    have own : row.sessionId = sessionId := eq_of_beq (List.mem_filter.mp member).2
    apply active_dwell_congr
    intro point
    rw [own, spansOf, spansOf, same]

end Order

end Gilbreth.Read
