import Mathlib

/-!
# Half-open spans of integers

A span holds the integers from its start up to and without its end. The length
of a property between two bounds counts the integers there that have it; spans
in order cover a set whose length is the sum of their overlaps.
-/

set_option autoImplicit false

namespace Spans

abbrev Span := Int × Int

def Covers (spans : List Span) (point : Int) : Prop :=
  ∃ span ∈ spans, span.1 ≤ point ∧ point < span.2

@[simp] theorem not_covers_nil (point : Int) : ¬Covers [] point := by
  rintro ⟨span, none, _⟩
  cases none

theorem covers_cons (span : Span) (spans : List Span) (point : Int) :
    Covers (span :: spans) point ↔ (span.1 ≤ point ∧ point < span.2) ∨ Covers spans point := by
  simp [Covers]

theorem covers_append (left right : List Span) (point : Int) :
    Covers (left ++ right) point ↔ Covers left point ∨ Covers right point := by
  simp only [Covers, List.mem_append, or_and_right, exists_or]

theorem covers_of_perm {left right : List Span} (same : left.Perm right) (point : Int) :
    Covers left point ↔ Covers right point := by
  simp only [Covers, same.mem_iff]

theorem covers_flat_map {Item : Type*} (items : List Item) (spans : Item → List Span)
    (point : Int) :
    Covers (items.flatMap spans) point ↔ ∃ item ∈ items, Covers (spans item) point := by
  constructor
  · rintro ⟨span, member, inside⟩
    rcases List.mem_flatMap.mp member with ⟨item, listed, own⟩
    exact ⟨item, listed, span, own, inside⟩
  · rintro ⟨item, listed, span, own, inside⟩
    exact ⟨span, List.mem_flatMap.mpr ⟨item, listed, own⟩, inside⟩

section Length

/-- How many integers from `lo` up to and without `hi` have the property. -/
noncomputable def length (property : Int → Prop) (lo hi : Int) : Int :=
  ({point | point ∈ Set.Ico lo hi ∧ property point} : Set Int).ncard

variable {property other : Int → Prop} {lo hi : Int}

theorem finite_inside (property : Int → Prop) (lo hi : Int) :
    ({point | point ∈ Set.Ico lo hi ∧ property point} : Set Int).Finite :=
  (Set.finite_Ico lo hi).subset fun _ inside => inside.1

theorem length_congr (same : ∀ point, lo ≤ point → point < hi → (property point ↔ other point)) :
    length property lo hi = length other lo hi := by
  unfold length
  congr 2
  ext point
  simp only [Set.mem_ofPred_eq, Set.mem_Ico]
  constructor
  · rintro ⟨inside, holds⟩
    exact ⟨inside, (same point inside.1 inside.2).mp holds⟩
  · rintro ⟨inside, holds⟩
    exact ⟨inside, (same point inside.1 inside.2).mpr holds⟩

theorem length_all (lo hi : Int) : length (fun _ => True) lo hi = max 0 (hi - lo) := by
  have whole : {point | point ∈ Set.Ico lo hi ∧ True} = (Finset.Ico lo hi : Set Int) := by
    ext point
    simp
  rw [length, whole, Set.ncard_coe_finset, Int.card_Ico]
  omega

theorem length_none (lo hi : Int) : length (fun _ => False) lo hi = 0 := by
  simp [length]

theorem length_nonneg : 0 ≤ length property lo hi := Int.natCast_nonneg _

theorem length_of_le (empty : hi ≤ lo) : length property lo hi = 0 := by
  rw [← length_none lo hi]
  apply length_congr
  intro point after before
  omega

theorem length_or (apart : ∀ point, property point → ¬other point) :
    length (fun point => property point ∨ other point) lo hi =
      length property lo hi + length other lo hi := by
  have union : {point | point ∈ Set.Ico lo hi ∧ (property point ∨ other point)} =
      {point | point ∈ Set.Ico lo hi ∧ property point} ∪
        {point | point ∈ Set.Ico lo hi ∧ other point} := by
    ext point
    simp only [Set.mem_ofPred_eq, Set.mem_union, and_or_left]
  have disjoint : Disjoint {point | point ∈ Set.Ico lo hi ∧ property point}
      {point | point ∈ Set.Ico lo hi ∧ other point} := by
    rw [Set.disjoint_left]
    rintro point ⟨_, holds⟩ ⟨_, also⟩
    exact apart point holds also
  rw [length, union, Set.ncard_union_eq disjoint (finite_inside _ _ _) (finite_inside _ _ _)]
  exact Nat.cast_add _ _

theorem length_bounded (property : Int → Prop) (lo hi first last : Int) :
    length (fun point => property point ∧ first ≤ point ∧ point < last) lo hi =
      length property (max lo first) (min hi last) := by
  unfold length
  congr 2
  ext point
  simp only [Set.mem_ofPred_eq, Set.mem_Ico, max_le_iff, lt_min_iff]
  tauto

theorem length_compl (property : Int → Prop) (lo hi : Int) :
    length (fun point => ¬property point) lo hi = max 0 (hi - lo) - length property lo hi := by
  have both : length (fun point => property point ∨ ¬property point) lo hi =
      length property lo hi + length (fun point => ¬property point) lo hi :=
    length_or fun point holds fails => fails holds
  have all : length (fun point => property point ∨ ¬property point) lo hi =
      length (fun _ => True) lo hi :=
    length_congr fun point _ _ => iff_of_true (em _) trivial
  rw [all, length_all] at both
  linarith

theorem length_split (property : Int → Prop) (lo middle hi : Int) :
    length property lo hi =
      length property lo (min hi middle) + length property (max lo middle) hi := by
  have sides : length property lo hi =
      length (fun point => (property point ∧ lo ≤ point ∧ point < middle) ∨
        (property point ∧ middle ≤ point ∧ point < hi)) lo hi := by
    apply length_congr
    intro point after before
    have side := lt_or_ge point middle
    tauto
  rw [sides, length_or, length_bounded, length_bounded, max_self, min_self]
  rintro point ⟨_, _, before⟩ ⟨_, after, _⟩
  omega

end Length

section Sum

/-- Spans one after another, none inverted. -/
def InOrder (spans : List Span) : Prop :=
  (∀ span ∈ spans, span.1 ≤ span.2) ∧ spans.Pairwise fun left right => left.2 ≤ right.1

namespace InOrder

variable {span : Span} {spans left right : List Span}

theorem nil : InOrder [] := ⟨by simp, List.Pairwise.nil⟩

theorem tail (order : InOrder (span :: spans)) :
    InOrder spans :=
  ⟨fun other member => order.1 other (List.mem_cons_of_mem _ member), order.2.tail⟩

theorem after_head (order : InOrder (span :: spans))
    {point : Int} (covered : Covers spans point) : span.2 ≤ point := by
  rcases covered with ⟨other, member, after, _⟩
  exact ((List.pairwise_cons.mp order.2).1 other member).trans after

theorem append (leftOrder : InOrder left)
    (rightOrder : InOrder right) (apart : ∀ a ∈ left, ∀ b ∈ right, a.2 ≤ b.1) :
    InOrder (left ++ right) := by
  constructor
  · intro span member
    rcases List.mem_append.mp member with inLeft | inRight
    · exact leftOrder.1 span inLeft
    · exact rightOrder.1 span inRight
  · exact List.pairwise_append.mpr ⟨leftOrder.2, rightOrder.2, apart⟩

theorem flat_map (order : InOrder spans) {cut : Span → List Span}
    (pieces : ∀ span ∈ spans, InOrder (cut span))
    (inside : ∀ span ∈ spans, ∀ piece ∈ cut span, span.1 ≤ piece.1 ∧ piece.2 ≤ span.2) :
    InOrder (spans.flatMap cut) := by
  constructor
  · intro piece member
    rcases List.mem_flatMap.mp member with ⟨span, listed, own⟩
    exact (pieces span listed).1 piece own
  · apply List.pairwise_flatMap.mpr
    constructor
    · exact fun span listed => (pieces span listed).2
    · apply order.2.imp_of_mem
      intro first second firstListed secondListed ordered piece own other others
      have before := (inside first firstListed piece own).2
      have after := (inside second secondListed other others).1
      exact before.trans (ordered.trans after)

end InOrder

def overlap (lo hi : Int) (span : Span) : Int := max 0 (min span.2 hi - max span.1 lo)

theorem length_span (span : Span) (lo hi : Int) :
    length (fun point => span.1 ≤ point ∧ point < span.2) lo hi = overlap lo hi span := by
  have bounded := length_bounded (fun _ => True) lo hi span.1 span.2
  simp only [true_and] at bounded
  rw [bounded, length_all, overlap]
  omega

theorem sum_overlap {spans : List Span} (order : InOrder spans) (lo hi : Int) :
    (spans.map (overlap lo hi)).sum = length (Covers spans) lo hi := by
  induction spans with
  | nil =>
      rw [List.map_nil, List.sum_nil, ← length_none lo hi]
      exact length_congr fun point _ _ => iff_of_false not_false (not_covers_nil point)
  | cons span spans induction =>
      have later := induction order.tail
      have apart : ∀ point, span.1 ≤ point ∧ point < span.2 → ¬Covers spans point := by
        rintro point ⟨_, before⟩ ⟨other, member, after, _⟩
        have ordered := (List.pairwise_cons.mp order.2).1 other member
        omega
      have together : length (Covers (span :: spans)) lo hi =
          length (fun point => (span.1 ≤ point ∧ point < span.2) ∨ Covers spans point) lo hi :=
        length_congr fun point _ _ => covers_cons span spans point
      rw [List.map_cons, List.sum_cons, later, together, length_or apart, length_span]

theorem sum_lengths {spans : List Span} (order : InOrder spans) (property : Int → Prop)
    (lo hi : Int) :
    (spans.map fun span => length property (max lo span.1) (min hi span.2)).sum =
      length (fun point => property point ∧ Covers spans point) lo hi := by
  induction spans with
  | nil =>
      rw [List.map_nil, List.sum_nil, ← length_none lo hi]
      exact length_congr fun point _ _ =>
        iff_of_false not_false fun both => not_covers_nil point both.2
  | cons span spans induction =>
      have apart : ∀ point, property point ∧ span.1 ≤ point ∧ point < span.2 →
          ¬(property point ∧ Covers spans point) := by
        rintro point ⟨_, _, before⟩ ⟨_, covered⟩
        have after := order.after_head covered
        omega
      have together : length (fun point => property point ∧ Covers (span :: spans) point) lo hi =
          length (fun point => (property point ∧ span.1 ≤ point ∧ point < span.2) ∨
            (property point ∧ Covers spans point)) lo hi := by
        apply length_congr
        intro point _ _
        rw [covers_cons]
        tauto
      rw [List.map_cons, List.sum_cons, induction order.tail, together, length_or apart,
        length_bounded]

end Sum

section Apart

variable {property other : Int → Prop} {lo hi : Int}

theorem length_or_and :
    length (fun point => property point ∨ other point) lo hi +
        length (fun point => property point ∧ other point) lo hi =
      length property lo hi + length other lo hi := by
  have union : {point | point ∈ Set.Ico lo hi ∧ (property point ∨ other point)} =
      {point | point ∈ Set.Ico lo hi ∧ property point} ∪
        {point | point ∈ Set.Ico lo hi ∧ other point} := by
    ext point
    simp only [Set.mem_ofPred_eq, Set.mem_union, and_or_left]
  have inter : {point | point ∈ Set.Ico lo hi ∧ (property point ∧ other point)} =
      {point | point ∈ Set.Ico lo hi ∧ property point} ∩
        {point | point ∈ Set.Ico lo hi ∧ other point} := by
    ext point
    simp only [Set.mem_ofPred_eq, Set.mem_inter_iff]
    tauto
  have counted := Set.ncard_union_add_ncard_inter _ _ (finite_inside property lo hi)
    (finite_inside other lo hi)
  rw [← union, ← inter] at counted
  simp only [length]
  exact_mod_cast counted

theorem length_eq_zero_iff :
    length property lo hi = 0 ↔ ∀ point, lo ≤ point → point < hi → ¬property point := by
  rw [length, Nat.cast_eq_zero, Set.ncard_eq_zero (finite_inside property lo hi),
    Set.eq_empty_iff_forall_notMem]
  simp only [Set.mem_ofPred_eq, Set.mem_Ico, not_and, and_imp]

def Apart (left right : Span) : Prop :=
  ∀ point, ¬((left.1 ≤ point ∧ point < left.2) ∧ (right.1 ≤ point ∧ point < right.2))

theorem Apart.symm {left right : Span} (apart : Apart left right) : Apart right left :=
  fun point both => apart point both.symm

theorem InOrder.apart {spans : List Span} (order : InOrder spans) : spans.Pairwise Apart := by
  apply order.2.imp
  intro left right ordered point both
  omega

theorem apart_flat_map_iff {Item : Type*} {cut : Item → List Span} {items : List Item}
    (pieces : ∀ item ∈ items, (cut item).Pairwise Apart) :
    (items.flatMap cut).Pairwise Apart ↔ items.Pairwise fun left right =>
      ∀ point, ¬(Covers (cut left) point ∧ Covers (cut right) point) := by
  rw [List.pairwise_flatMap, and_iff_right pieces]
  apply iff_of_eq
  congr 1
  funext left right
  apply propext
  constructor
  · rintro apart point ⟨⟨piece, own, inPiece⟩, other, others, inOther⟩
    exact apart piece own other others point ⟨inPiece, inOther⟩
  · rintro apart piece own other others point ⟨inPiece, inOther⟩
    exact apart point ⟨⟨piece, own, inPiece⟩, other, others, inOther⟩

theorem length_cons (span : Span) (spans : List Span) (lo hi : Int) :
    length (Covers (span :: spans)) lo hi +
        length (fun point => (span.1 ≤ point ∧ point < span.2) ∧ Covers spans point) lo hi =
      overlap lo hi span + length (Covers spans) lo hi := by
  have same : length (Covers (span :: spans)) lo hi =
      length (fun point => (span.1 ≤ point ∧ point < span.2) ∨ Covers spans point) lo hi :=
    length_congr fun point _ _ => covers_cons span spans point
  rw [same, length_or_and, length_span]

theorem length_le_sum_overlap (spans : List Span) (lo hi : Int) :
    length (Covers spans) lo hi ≤ (spans.map (overlap lo hi)).sum := by
  induction spans with
  | nil =>
      rw [List.map_nil, List.sum_nil, length_eq_zero_iff.mpr]
      exact fun point _ _ => not_covers_nil point
  | cons span spans induction =>
      have first := length_cons span spans lo hi
      have shared : 0 ≤ length (fun point =>
        (span.1 ≤ point ∧ point < span.2) ∧ Covers spans point) lo hi := length_nonneg
      rw [List.map_cons, List.sum_cons]
      omega

theorem sum_overlap_eq_iff {spans : List Span}
    (within : ∀ span ∈ spans, lo ≤ span.1 ∧ span.2 ≤ hi) :
    (spans.map (overlap lo hi)).sum = length (Covers spans) lo hi ↔ spans.Pairwise Apart := by
  induction spans with
  | nil =>
      apply iff_of_true _ List.Pairwise.nil
      rw [List.map_nil, List.sum_nil, eq_comm, length_eq_zero_iff]
      exact fun point _ _ => not_covers_nil point
  | cons span spans induction =>
      have first := length_cons span spans lo hi
      have least := length_le_sum_overlap spans lo hi
      have nonneg : 0 ≤ length (fun point =>
        (span.1 ≤ point ∧ point < span.2) ∧ Covers spans point) lo hi := length_nonneg
      have shared : length (fun point =>
          (span.1 ≤ point ∧ point < span.2) ∧ Covers spans point) lo hi = 0 ↔
          ∀ other ∈ spans, Apart span other := by
        rw [length_eq_zero_iff]
        constructor
        · rintro none other listed point ⟨inSpan, inOther⟩
          have bounds := within span List.mem_cons_self
          apply none point (bounds.1.trans inSpan.1) (inSpan.2.trans_le bounds.2)
          exact ⟨inSpan, other, listed, inOther⟩
        · rintro apart point _ _ ⟨inSpan, other, listed, inOther⟩
          exact apart other listed point ⟨inSpan, inOther⟩
      rw [List.pairwise_cons, List.map_cons, List.sum_cons, ← shared,
        ← induction fun other listed => within other (List.mem_cons_of_mem _ listed)]
      omega

end Apart

section Window

theorem spans_bounded (spans : List Span) :
    ∃ lo hi, ∀ point, Covers spans point → lo ≤ point ∧ point < hi := by
  induction spans with
  | nil => exact ⟨0, 0, fun point covered => absurd covered (not_covers_nil point)⟩
  | cons span rest induction =>
      have ⟨lo, hi, within⟩ := induction
      refine ⟨min span.1 lo, max span.2 hi, fun point covered => ?_⟩
      rcases (covers_cons span rest point).mp covered with inside | later
      · omega
      · have bounds := within point later
        omega

/-- A set is no longer than a window when no more of it lies outside than there is room inside. -/
theorem length_le_window_iff {property : Int → Prop} {lo hi : Int} (start finish : Int)
    (bounds : ∀ point, property point → lo ≤ point ∧ point < hi) :
    length property lo hi ≤ max 0 (finish - start) ↔
      length (fun point => property point ∧ ¬(start ≤ point ∧ point < finish)) lo hi ≤
        length (fun point => ¬property point) start finish := by
  have sides : length property lo hi =
      length (fun point => (property point ∧ start ≤ point ∧ point < finish) ∨
        (property point ∧ ¬(start ≤ point ∧ point < finish))) lo hi := by
    apply length_congr
    intro point _ _
    tauto
  rw [length_or fun point inside outside => outside.2 inside.2] at sides
  have inside : length (fun point => property point ∧ start ≤ point ∧ point < finish) lo hi =
      length property start finish := by
    have held : length property start finish =
        length (fun point => property point ∧ lo ≤ point ∧ point < hi) start finish :=
      length_congr fun point _ _ => ⟨fun holds => ⟨holds, bounds point holds⟩, And.left⟩
    rw [held, length_bounded, length_bounded, max_comm, min_comm]
  have room := length_compl property start finish
  omega

end Window

end Spans
