import Mathlib

/-!
# Stable sorts and the first greatest

A stable sort leaves items that its comparison does not tell apart in the order they
came in. A running choice that only a strictly greater item replaces ends with the
first of the greatest.
-/

set_option autoImplicit false

namespace StableSort

variable {Item : Type*}

section Stability

variable {list : List Item} {left right : Item}

theorem pair_or_swapped (leftListed : left ∈ list) (rightListed : right ∈ list)
    (apart : left ≠ right) : [left, right].Sublist list ∨ [right, left].Sublist list := by
  rcases List.mem_iff_append.mp leftListed with ⟨earlier, later, rfl⟩
  rcases List.mem_append.mp rightListed with inEarlier | inLater
  · right
    exact (List.singleton_sublist.mpr inEarlier).append
      (List.singleton_sublist.mpr List.mem_cons_self)
  · left
    have inRest := (List.mem_cons.mp inLater).resolve_left apart.symm
    exact ((List.singleton_sublist.mpr inRest).cons_cons left).trans
      (List.sublist_append_right _ _)

theorem not_both_ways (distinct : list.Nodup) (pair : [left, right].Sublist list) :
    ¬[right, left].Sublist list := by
  intro swapped
  induction list with
  | nil => cases pair
  | cons item rest induction =>
      have ⟨fresh, restDistinct⟩ := List.nodup_cons.mp distinct
      cases pair with
      | cons _ pair =>
          cases swapped with
          | cons _ swapped => exact induction restDistinct pair swapped
          | cons_cons _ _ => exact fresh (pair.subset (by simp))
      | cons_cons _ tail =>
          cases swapped with
          | cons _ swapped => exact fresh (swapped.subset (by simp))
          | cons_cons _ _ => exact fresh (tail.subset (by simp))

/-- A stable sort of a list in one order is in order by the comparison first, and in the old
order where the comparison goes both ways. -/
theorem pairwise_merge_sort {before : Item → Item → Bool} {earlier : Item → Item → Prop}
    (transitive : ∀ a b c, before a b = true → before b c = true → before a c = true)
    (total : ∀ a b, (before a b || before b a) = true) (distinct : list.Nodup)
    (ordered : list.Pairwise earlier) :
    (list.mergeSort before).Pairwise fun left right =>
      before left right = true ∧ (before right left = true → earlier left right) := by
  have sorted := List.mergeSort_perm list before
  apply List.pairwise_iff_forall_sublist.mpr
  intro left right pair
  have compared := List.pairwise_iff_forall_sublist.mp
    (List.pairwise_mergeSort transitive total list) pair
  refine ⟨compared, fun tied => ?_⟩
  have listed : left ∈ list ∧ right ∈ list :=
    ⟨sorted.mem_iff.mp (pair.subset (by simp)), sorted.mem_iff.mp (pair.subset (by simp))⟩
  have apart : left ≠ right := by
    have pairDistinct := (sorted.nodup_iff.mpr distinct).sublist pair
    simpa using pairDistinct
  rcases pair_or_swapped listed.1 listed.2 apart with kept | swapped
  · exact List.pairwise_iff_forall_sublist.mp ordered kept
  · have reversed := List.pair_sublist_mergeSort transitive total tied swapped
    exact absurd reversed (not_both_ways (sorted.nodup_iff.mpr distinct) pair)

end Stability

section FirstGreatest

variable {Measure : Type*} [LinearOrder Measure] (measure : Item → Measure)

/-- Only a strictly greater item takes the place of the top. -/
def replaceTop (top : Option Item) (item : Item) : Option Item :=
  if top.all fun current => decide (measure current < measure item) then some item else top

theorem first_greatest (items : List Item) :
    items.foldl (replaceTop measure) none = none ∧ items = [] ∨
      ∃ earlier top later, items.foldl (replaceTop measure) none = some top ∧
        items = earlier ++ top :: later ∧ (∀ item ∈ earlier, measure item < measure top) ∧
        ∀ item ∈ later, measure item ≤ measure top := by
  induction items using List.reverseRecOn with
  | nil => exact Or.inl ⟨rfl, rfl⟩
  | append_singleton items item induction =>
      right
      rw [List.foldl_append, List.foldl_cons, List.foldl_nil]
      rcases induction with ⟨none, empty⟩ | ⟨earlier, top, later, found, split, below, most⟩
      · rw [none, empty]
        exact ⟨[], item, [], rfl, rfl, by simp, by simp⟩
      · rw [found]
        by_cases greater : measure top < measure item
        · have replaced : replaceTop measure (some top) item = some item :=
            if_pos (decide_eq_true greater)
          refine ⟨items, item, [], replaced, rfl, ?_, by simp⟩
          intro other member
          rw [split] at member
          rcases List.mem_append.mp member with inEarlier | inLater
          · exact (below other inEarlier).trans greater
          · rcases List.mem_cons.mp inLater with same | inRest
            · exact same ▸ greater
            · exact (most other inRest).trans_lt greater
        · have kept : replaceTop measure (some top) item = some top :=
            if_neg (by simpa using not_lt.mp greater)
          refine ⟨earlier, top, later ++ [item], kept, by rw [split]; simp, below, ?_⟩
          intro other member
          rcases List.mem_append.mp member with inLater | last
          · exact most other inLater
          · exact (List.mem_singleton.mp last) ▸ not_lt.mp greater

end FirstGreatest

end StableSort
