import Gilbreth.Library.Spans
import Mathlib.Data.List.Sort

/-!
# Merging and subtracting spans

The interval helpers the readers share, each with what it covers.
-/

set_option autoImplicit false

namespace Gilbreth.Read

open Spans

section Merge

/-- The order of a pair of integers, as `sort_unstable` takes it. -/
def tupleLe (left right : Span) : Bool :=
  decide (left.1 < right.1 ∨ (left.1 = right.1 ∧ left.2 ≤ right.2))

/-- The loop of `coalesce_spans` with its last span taken out. -/
def mergeFrom (last : Span) : List Span → List Span
  | [] => [last]
  | span :: rest =>
      if span.1 ≤ last.2 then mergeFrom (last.1, max last.2 span.2) rest
      else last :: mergeFrom span rest

def mergeSorted : List Span → List Span
  | [] => []
  | span :: rest => mergeFrom span rest

def coalesceSpans (spans : List Span) : List Span := mergeSorted (spans.mergeSort tupleLe)

/-- The same sort and the same loop as `coalesce_spans`. -/
def mergeIntervals (intervals : List Span) : List Span :=
  mergeSorted (intervals.mergeSort tupleLe)

theorem merge_from_spec {last : Span} {rest : List Span}
    (sorted : (last :: rest).Pairwise fun left right => left.1 ≤ right.1)
    (upright : ∀ span ∈ last :: rest, span.1 ≤ span.2) :
    InOrder (mergeFrom last rest) ∧ (∀ span ∈ mergeFrom last rest, last.1 ≤ span.1) ∧
      ∀ point, Covers (mergeFrom last rest) point ↔ Covers (last :: rest) point := by
  induction rest generalizing last with
  | nil =>
      refine ⟨⟨upright, List.pairwise_singleton _ _⟩, ?_, fun point => Iff.rfl⟩
      intro span member
      rw [List.mem_singleton.mp member]
  | cons span rest induction =>
      have starts := List.pairwise_cons.mp sorted
      have later := List.pairwise_cons.mp starts.2
      have first : last.1 ≤ span.1 := starts.1 span List.mem_cons_self
      have lastUp : last.1 ≤ last.2 := upright last List.mem_cons_self
      have spanUp : span.1 ≤ span.2 := upright span (by simp)
      rw [mergeFrom]
      split
      · rename_i touches
        have merged : ((last.1, max last.2 span.2) :: rest).Pairwise
            fun left right => left.1 ≤ right.1 :=
          List.pairwise_cons.mpr
            ⟨fun other member => starts.1 other (List.mem_cons_of_mem _ member), later.2⟩
        rcases induction merged (by
          intro other member
          rcases List.mem_cons.mp member with rfl | inRest
          · exact lastUp.trans (le_max_left _ _)
          · exact upright other (by simp [inRest])) with ⟨order, after, covers⟩
        refine ⟨order, after, ?_⟩
        intro point
        rw [covers, covers_cons, covers_cons, covers_cons, ← or_assoc]
        apply or_congr_left
        simp only [lt_max_iff]
        omega
      · rename_i apart
        rcases induction starts.2 (fun other member => upright other
          (List.mem_cons_of_mem _ member)) with ⟨order, after, covers⟩
        refine ⟨⟨?_, ?_⟩, ?_, ?_⟩
        · intro other member
          rcases List.mem_cons.mp member with rfl | inRest
          · exact lastUp
          · exact order.1 other inRest
        · rw [List.pairwise_cons]
          refine ⟨fun other member => ?_, order.2⟩
          have beyond := after other member
          omega
        · intro other member
          rcases List.mem_cons.mp member with rfl | inRest
          · exact le_refl _
          · exact first.trans (after other inRest)
        · intro point
          rw [covers_cons, covers, ← covers_cons]

theorem tuple_le_sorted (spans : List Span) :
    (spans.mergeSort tupleLe).Pairwise fun left right => left.1 ≤ right.1 := by
  have transitive : ∀ a b c, tupleLe a b = true → tupleLe b c = true → tupleLe a c = true := by
    intro a b c
    simp only [tupleLe, decide_eq_true_eq]
    omega
  have total : ∀ a b, (tupleLe a b || tupleLe b a) = true := by
    intro a b
    simp only [tupleLe, Bool.or_eq_true, decide_eq_true_eq]
    omega
  refine (List.pairwise_mergeSort transitive total spans).imp ?_
  intro left right ordered
  simp only [tupleLe, decide_eq_true_eq] at ordered
  omega

theorem coalesce_spans_spec {spans : List Span} (upright : ∀ span ∈ spans, span.1 ≤ span.2) :
    InOrder (coalesceSpans spans) ∧
      ∀ point, Covers (coalesceSpans spans) point ↔ Covers spans point := by
  have same := List.mergeSort_perm spans tupleLe
  have sorted := tuple_le_sorted spans
  rw [coalesceSpans]
  cases arranged : spans.mergeSort tupleLe with
  | nil =>
      rw [arranged] at same
      obtain rfl := same.nil_eq
      exact ⟨⟨by simp [mergeSorted], List.Pairwise.nil⟩, fun point => Iff.rfl⟩
  | cons first rest =>
      rw [arranged] at same sorted
      have spec := merge_from_spec sorted fun span member => upright span (same.mem_iff.mp member)
      exact ⟨spec.1, fun point => (spec.2.2 point).trans (covers_of_perm same point)⟩

end Merge

section Subtract

def subtractFrom (cursor finish : Int) : List Span → List Span
  | [] => if cursor < finish then [(cursor, finish)] else []
  | blocker :: rest =>
      if blocker.2 ≤ cursor then subtractFrom cursor finish rest
      else if finish ≤ blocker.1 then if cursor < finish then [(cursor, finish)] else []
      else
        let before := if cursor < blocker.1 then [(cursor, min blocker.1 finish)] else []
        let next := max cursor blocker.2
        before ++ if finish ≤ next then [] else subtractFrom next finish rest

def subtractSpans (start finish : Int) (blockers : List Span) : List Span :=
  subtractFrom start finish blockers

theorem one_piece_spec (cursor finish : Int) :
    InOrder (if cursor < finish then [(cursor, finish)] else []) ∧
      (∀ piece ∈ (if cursor < finish then [(cursor, finish)] else [] : List Span),
        cursor ≤ piece.1 ∧ piece.2 ≤ finish) ∧
      ∀ point, Covers (if cursor < finish then [(cursor, finish)] else []) point ↔
        cursor ≤ point ∧ point < finish := by
  split
  · rename_i some
    refine ⟨⟨?_, List.pairwise_singleton _ _⟩, ?_, ?_⟩
    · intro span member
      rw [List.mem_singleton.mp member]
      exact some.le
    · intro piece member
      rw [List.mem_singleton.mp member]
      exact ⟨le_refl _, le_refl _⟩
    · intro point
      simp [Covers]
  · rename_i none
    refine ⟨⟨by simp, List.Pairwise.nil⟩, by simp, ?_⟩
    intro point
    rw [iff_false_left (not_covers_nil point)]
    omega

/-- The pieces lie between the bounds, in order, and cover what no blocker covers. -/
theorem subtract_from_spec {blockers : List Span} (order : InOrder blockers) (cursor finish : Int) :
    InOrder (subtractFrom cursor finish blockers) ∧
      (∀ piece ∈ subtractFrom cursor finish blockers, cursor ≤ piece.1 ∧ piece.2 ≤ finish) ∧
      ∀ point, Covers (subtractFrom cursor finish blockers) point ↔
        (cursor ≤ point ∧ point < finish) ∧ ¬Covers blockers point := by
  induction blockers generalizing cursor with
  | nil =>
      rcases one_piece_spec cursor finish with ⟨inOrder, within, covers⟩
      refine ⟨inOrder, within, fun point => ?_⟩
      rw [subtractFrom, covers, and_iff_left (not_covers_nil point)]
  | cons blocker rest induction =>
      have upright : blocker.1 ≤ blocker.2 := order.1 blocker List.mem_cons_self
      rw [subtractFrom]
      by_cases passed : blocker.2 ≤ cursor
      · rcases induction order.tail cursor with ⟨inOrder, within, covers⟩
        rw [if_pos passed]
        refine ⟨inOrder, within, fun point => ?_⟩
        rw [covers, covers_cons]
        have outside : cursor ≤ point → ¬(blocker.1 ≤ point ∧ point < blocker.2) := by omega
        tauto
      by_cases beyond : finish ≤ blocker.1
      · rcases one_piece_spec cursor finish with ⟨inOrder, within, covers⟩
        rw [if_neg passed, if_pos beyond]
        refine ⟨inOrder, within, fun point => ?_⟩
        rw [covers, covers_cons]
        have outside : point < finish → ¬(blocker.1 ≤ point ∧ point < blocker.2) := by omega
        have later : point < finish → ¬Covers rest point := by
          intro before covered
          have after := order.after_head covered
          omega
        tauto
      · rw [if_neg passed, if_neg beyond]
        have tail : InOrder (if finish ≤ max cursor blocker.2 then []
              else subtractFrom (max cursor blocker.2) finish rest) ∧
            (∀ piece ∈ (if finish ≤ max cursor blocker.2 then []
                else subtractFrom (max cursor blocker.2) finish rest),
              max cursor blocker.2 ≤ piece.1 ∧ piece.2 ≤ finish) ∧
            ∀ point, Covers (if finish ≤ max cursor blocker.2 then []
                else subtractFrom (max cursor blocker.2) finish rest) point ↔
              (max cursor blocker.2 ≤ point ∧ point < finish) ∧ ¬Covers rest point := by
          by_cases done : finish ≤ max cursor blocker.2
          · rw [if_pos done]
            refine ⟨⟨by simp, List.Pairwise.nil⟩, by simp, fun point => ?_⟩
            rw [iff_false_left (not_covers_nil point)]
            omega
          · rw [if_neg done]
            exact induction order.tail _
        have head : InOrder (if cursor < blocker.1 then [(cursor, min blocker.1 finish)] else []) ∧
            (∀ piece ∈ (if cursor < blocker.1 then [(cursor, min blocker.1 finish)] else []
                : List Span), cursor ≤ piece.1 ∧ piece.2 ≤ min blocker.1 finish) ∧
            ∀ point, Covers (if cursor < blocker.1 then [(cursor, min blocker.1 finish)] else [])
                point ↔ cursor ≤ point ∧ point < min blocker.1 finish := by
          have single := one_piece_spec cursor (min blocker.1 finish)
          have whole : min blocker.1 finish = blocker.1 := by omega
          rw [whole] at single ⊢
          exact single
        refine ⟨head.1.append tail.1 ?_, ?_, ?_⟩
        · intro left inLeft right inRight
          have before := (head.2.1 left inLeft).2
          have after := (tail.2.1 right inRight).1
          omega
        · intro piece member
          rcases List.mem_append.mp member with inHead | inTail
          · have bounds := head.2.1 piece inHead
            omega
          · have bounds := tail.2.1 piece inTail
            omega
        · intro point
          rw [covers_append, head.2.2, tail.2.2, covers_cons]
          have later : Covers rest point → blocker.2 ≤ point := order.after_head
          have sides := lt_or_ge point blocker.1
          constructor
          · rintro (early | ⟨late, free⟩)
            · refine ⟨by omega, ?_⟩
              rintro (inside | covered)
              · omega
              · have after := later covered
                omega
            · refine ⟨by omega, ?_⟩
              rintro (inside | covered)
              · omega
              · exact free covered
          · rintro ⟨bounds, free⟩
            rcases sides with before | after
            · exact Or.inl (by omega)
            · refine Or.inr ⟨?_, fun covered => free (Or.inr covered)⟩
              have past : blocker.2 ≤ point := by
                by_contra inside
                exact free (Or.inl ⟨after, not_le.mp inside⟩)
              omega

theorem subtract_from_positive (blockers : List Span) (cursor finish : Int) :
    ∀ piece ∈ subtractFrom cursor finish blockers, piece.1 < piece.2 := by
  have single : ∀ first last : Int, ∀ piece ∈ (if first < last then [(first, last)] else []
      : List Span), piece.1 < piece.2 := by
    intro first last piece member
    split at member
    · rename_i order
      rw [List.mem_singleton.mp member]
      exact order
    · cases member
  induction blockers generalizing cursor with
  | nil => exact single cursor finish
  | cons blocker rest induction =>
      rw [subtractFrom]
      by_cases passed : blocker.2 ≤ cursor
      · rw [if_pos passed]
        exact induction cursor
      by_cases beyond : finish ≤ blocker.1
      · rw [if_neg passed, if_pos beyond]
        exact single cursor finish
      rw [if_neg passed, if_neg beyond]
      dsimp only
      have whole : min blocker.1 finish = blocker.1 := by omega
      rw [whole]
      intro piece member
      rcases List.mem_append.mp member with inHead | inTail
      · exact single cursor blocker.1 piece inHead
      · split at inTail
        · cases inTail
        · exact induction _ piece inTail

theorem subtract_spans_overlap {blockers : List Span} (order : InOrder blockers)
    (start finish lo hi : Int) :
    ((subtractSpans start finish blockers).map (overlap lo hi)).sum =
      length (fun point => ¬Covers blockers point) (max lo start) (min hi finish) := by
  rcases subtract_from_spec order start finish with ⟨inOrder, _, covers⟩
  rw [subtractSpans, sum_overlap inOrder, ← length_bounded]
  exact length_congr fun point _ _ => (covers point).trans And.comm

theorem subtract_spans_total {blockers : List Span} (order : InOrder blockers)
    (start finish : Int) :
    ((subtractSpans start finish blockers).map fun piece => piece.2 - piece.1).sum =
      length (fun point => ¬Covers blockers point) start finish := by
  have total := subtract_spans_overlap order start finish start finish
  rw [max_self, min_self] at total
  rw [← total]
  apply congrArg
  apply List.map_congr_left
  intro piece member
  rcases subtract_from_spec order start finish with ⟨inOrder, within, _⟩
  have upright := inOrder.1 piece member
  have inside := within piece member
  rw [overlap]
  omega

end Subtract

end Gilbreth.Read
