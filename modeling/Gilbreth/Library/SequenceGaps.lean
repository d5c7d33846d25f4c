import Mathlib

/-!
# Gaps in a list of numbers

A number is missing from a list when it lies between two numbers of the list
and is not one of them. A list without repetitions misses nothing exactly when
its length is the width it spans; a run of numbers covered by closed spans that
do not touch each other lies in one of them.
-/

set_option autoImplicit false

namespace SequenceGaps

abbrev Span := Int × Int

def Missing (seqs : List Int) (seq : Int) : Prop :=
  seq ∉ seqs ∧ (∃ below ∈ seqs, below ≤ seq) ∧ ∃ above ∈ seqs, seq ≤ above

noncomputable def missingCount (seqs : List Int) : Nat :=
  ({seq | Missing seqs seq} : Set Int).ncard

def Within (spans : List Span) (seq : Int) : Prop :=
  ∃ span ∈ spans, span.1 ≤ seq ∧ seq ≤ span.2

section Missing

variable {seqs other : List Int} {seq before : Int}

theorem missing_congr (same : ∀ seq, seq ∈ seqs ↔ seq ∈ other) :
    Missing seqs seq ↔ Missing other seq := by
  simp only [Missing, same]

theorem missing_count_congr (same : ∀ seq, seq ∈ seqs ↔ seq ∈ other) :
    missingCount seqs = missingCount other := by
  unfold missingCount
  congr 1
  ext seq
  exact missing_congr same

theorem finite_missing (seqs : List Int) : ({seq | Missing seqs seq} : Set Int).Finite := by
  have bounded : (⋃ below ∈ seqs.toFinset, ⋃ above ∈ seqs.toFinset,
      Set.Icc below above : Set Int).Finite :=
    Set.Finite.biUnion seqs.toFinset.finite_toSet fun below _ =>
      Set.Finite.biUnion seqs.toFinset.finite_toSet fun above _ => Set.finite_Icc below above
  apply bounded.subset
  rintro seq ⟨_, ⟨below, belowIn, least⟩, above, aboveIn, most⟩
  simp only [Set.mem_iUnion]
  exact ⟨below, List.mem_toFinset.mpr belowIn, above, List.mem_toFinset.mpr aboveIn, least, most⟩

theorem not_missing_singleton : ¬Missing [before] seq := by
  rintro ⟨absent, ⟨below, belowIn, least⟩, above, aboveIn, most⟩
  rw [List.mem_singleton] at absent belowIn aboveIn
  omega

theorem missing_count_singleton : missingCount [before] = 0 := by
  have none : {seq | Missing [before] seq} = ∅ := by
    ext seq
    simpa using not_missing_singleton
  rw [missingCount, none, Set.ncard_empty]

theorem missing_cons {first : Int} {rest : List Int} (starts : ∀ later ∈ rest, first ≤ later)
    (below : before ≤ first) :
    Missing (before :: first :: rest) seq ↔
      seq ∈ Set.Ioo before first ∨ Missing (first :: rest) seq := by
  have least : ∀ later ∈ first :: rest, first ≤ later := by
    intro later member
    rcases List.mem_cons.mp member with rfl | tail
    · exact le_refl _
    · exact starts later tail
  constructor
  · rintro ⟨absent, ⟨low, lowIn, lowLe⟩, high, highIn, highGe⟩
    have notBefore : seq ≠ before := fun same => absent (same ▸ List.mem_cons_self)
    have notRest : seq ∉ first :: rest := fun member => absent (List.mem_cons_of_mem _ member)
    have notFirst : seq ≠ first := fun same => notRest (same ▸ List.mem_cons_self)
    have lowBound : before ≤ low := by
      rcases List.mem_cons.mp lowIn with rfl | tail
      · exact le_refl _
      · exact below.trans (least low tail)
    by_cases run : seq < first
    · exact Or.inl ⟨by omega, run⟩
    · refine Or.inr ⟨notRest, ⟨first, List.mem_cons_self, by omega⟩, high, ?_, highGe⟩
      rcases List.mem_cons.mp highIn with rfl | tail
      · omega
      · exact tail
  · rintro (⟨after, run⟩ | ⟨absent, ⟨low, lowIn, lowLe⟩, high, highIn, highGe⟩)
    · refine ⟨?_, ⟨before, List.mem_cons_self, after.le⟩, first, by simp, run.le⟩
      intro member
      rcases List.mem_cons.mp member with rfl | tail
      · exact lt_irrefl _ after
      · exact absurd (least seq tail) (by omega)
    · refine ⟨?_, ⟨low, List.mem_cons_of_mem _ lowIn, lowLe⟩, high,
        List.mem_cons_of_mem _ highIn, highGe⟩
      intro member
      rcases List.mem_cons.mp member with rfl | tail
      · have lowest := least low lowIn
        exact absent (by rw [show seq = first by omega]; exact List.mem_cons_self)
      · exact absent tail

theorem missing_count_cons {first : Int} {rest : List Int}
    (starts : ∀ later ∈ rest, first ≤ later) (below : before ≤ first) :
    missingCount (before :: first :: rest) =
      (first - before - 1).toNat + missingCount (first :: rest) := by
  have split : {seq | Missing (before :: first :: rest) seq} =
      Set.Ioo before first ∪ {seq | Missing (first :: rest) seq} := by
    ext seq
    exact missing_cons starts below
  have apart : Disjoint (Set.Ioo before first) {seq | Missing (first :: rest) seq} := by
    rw [Set.disjoint_left]
    rintro seq ⟨_, run⟩ ⟨_, ⟨low, lowIn, lowLe⟩, _⟩
    rcases List.mem_cons.mp lowIn with rfl | tail
    · omega
    · have := starts low tail
      omega
  rw [missingCount, split, Set.ncard_union_eq apart (Set.finite_Ioo _ _) (finite_missing _),
    ← Finset.coe_Ioo, Set.ncard_coe_finset, Int.card_Ioo, missingCount]

end Missing

section Width

variable {seqs : List Int} {lowest highest : Int}

/-- A list without repetitions is as long as it is wide exactly when it has no gap. -/
theorem length_eq_width_iff (least : lowest ∈ seqs ∧ ∀ seq ∈ seqs, lowest ≤ seq)
    (most : highest ∈ seqs ∧ ∀ seq ∈ seqs, seq ≤ highest) (distinct : seqs.Nodup) :
    (seqs.length : Int) = highest - lowest + 1 ↔ ∀ seq, ¬Missing seqs seq := by
  have ordered : lowest ≤ highest := least.2 highest most.1
  have inside : seqs.toFinset ⊆ Finset.Icc lowest highest := by
    intro seq member
    have listed := List.mem_toFinset.mp member
    exact Finset.mem_Icc.mpr ⟨least.2 seq listed, most.2 seq listed⟩
  have size := List.toFinset_card_of_nodup distinct
  have width : (Finset.Icc lowest highest).card = (highest + 1 - lowest).toNat := Int.card_Icc _ _
  constructor
  · rintro length seq ⟨absent, ⟨low, lowIn, lowLe⟩, high, highIn, highGe⟩
    have full := Finset.eq_of_subset_of_card_le inside (by omega)
    apply absent
    rw [← List.mem_toFinset, full, Finset.mem_Icc]
    exact ⟨(least.2 low lowIn).trans lowLe, highGe.trans (most.2 high highIn)⟩
  · intro complete
    have full : seqs.toFinset = Finset.Icc lowest highest := by
      apply Finset.Subset.antisymm inside
      intro seq between
      have bounds := Finset.mem_Icc.mp between
      by_contra outside
      apply complete seq
      exact ⟨fun member => outside (List.mem_toFinset.mpr member),
        ⟨lowest, least.1, bounds.1⟩, highest, most.1, bounds.2⟩
    rw [← size, full, width]
    omega

end Width

section Within

variable {spans : List Span} {seq : Int}

theorem within_cons (span : Span) :
    Within (span :: spans) seq ↔ (span.1 ≤ seq ∧ seq ≤ span.2) ∨ Within spans seq := by
  simp [Within]

theorem within_of_perm {left right : List Span} (same : left.Perm right) :
    Within left seq ↔ Within right seq := by
  simp only [Within, same.mem_iff]

/-- No span reaches the number before the start of a later one. -/
def Separated (spans : List Span) : Prop :=
  spans.Pairwise fun left right => left.2 + 1 < right.1

theorem run_within_iff (apart : Separated spans) {first last : Int} (ordered : first ≤ last) :
    (∀ seq, first ≤ seq → seq ≤ last → Within spans seq) ↔
      ∃ span ∈ spans, span.1 ≤ first ∧ last ≤ span.2 := by
  constructor
  · intro covered
    rcases covered first (le_refl _) ordered with ⟨span, member, starts, ends⟩
    refine ⟨span, member, starts, ?_⟩
    by_contra short
    rcases covered (span.2 + 1) (by omega) (by omega) with ⟨next, nextIn, nextStarts, nextEnds⟩
    have differ : span ≠ next := by
      rintro rfl
      omega
    have touching : span.2 + 1 < next.1 ∨ next.2 + 1 < span.1 := by
      rcases List.pairwise_iff_getElem.mp apart with pairs
      rcases List.getElem_of_mem member with ⟨i, iLt, rfl⟩
      rcases List.getElem_of_mem nextIn with ⟨j, jLt, rfl⟩
      rcases lt_trichotomy i j with before | rfl | after
      · exact Or.inl (pairs i j iLt jLt before)
      · exact absurd rfl differ
      · exact Or.inr (pairs j i jLt iLt after)
    omega
  · rintro ⟨span, member, starts, ends⟩ seq above below
    exact ⟨span, member, by omega, by omega⟩

end Within

end SequenceGaps
