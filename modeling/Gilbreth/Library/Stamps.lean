import Mathlib.Order.Basic
import Mathlib.Data.List.Basic

/-!
# Stamps in order

What a machine puts out carries stamps. One stretch of them lies between two bounds and in
order; stretches with a common bound follow one another.
-/

set_option autoImplicit false

namespace Stamps

variable {Time : Type*} [Preorder Time]

/-- Stamps in order, none outside the bounds. -/
structure Between (earliest latest : Time) (stamps : List Time) : Prop where
  ordered : stamps.Pairwise fun stamp later => stamp ≤ later
  within : ∀ stamp ∈ stamps, earliest ≤ stamp ∧ stamp ≤ latest

theorem between_nil (earliest latest : Time) : Between earliest latest [] :=
  ⟨List.Pairwise.nil, by simp⟩

theorem between_single {earliest latest stamp : Time} (after : earliest ≤ stamp)
    (before : stamp ≤ latest) : Between earliest latest [stamp] :=
  ⟨List.pairwise_singleton _ _, by simp [after, before]⟩

theorem between_same {earliest latest : Time} {stamps : List Time} (stamp : Time)
    (after : earliest ≤ stamp) (before : stamp ≤ latest) (same : ∀ other ∈ stamps, other = stamp) :
    Between earliest latest stamps := by
  constructor
  · apply List.pairwise_of_forall_mem_list
    intro first member second among
    rw [same first member, same second among]
  · intro other member
    rw [same other member]
    exact ⟨after, before⟩

theorem Between.widen {earliest latest sooner later : Time} {stamps : List Time}
    (between : Between earliest latest stamps) (start : sooner ≤ earliest)
    (finish : latest ≤ later) : Between sooner later stamps :=
  ⟨between.ordered, fun stamp member =>
    ⟨start.trans (between.within stamp member).1, (between.within stamp member).2.trans finish⟩⟩

theorem between_append {earliest middle latest : Time} {stamps later : List Time}
    (first : Between earliest middle stamps) (second : Between middle latest later)
    (start : earliest ≤ middle) (finish : middle ≤ latest) :
    Between earliest latest (stamps ++ later) := by
  constructor
  · rw [List.pairwise_append]
    refine ⟨first.ordered, second.ordered, ?_⟩
    intro stamp member next among
    exact (first.within stamp member).2.trans (second.within next among).1
  · intro stamp member
    rcases List.mem_append.mp member with early | late
    · exact (first.widen le_rfl finish).within stamp early
    · exact (second.widen start le_rfl).within stamp late

theorem exists_earliest {Item : Type*} (stamp : Item → Int) (items : List Item) :
    ∃ earliest, ∀ item ∈ items, earliest ≤ stamp item := by
  induction items with
  | nil => exact ⟨0, by simp⟩
  | cons first rest induction =>
      have ⟨earliest, before⟩ := induction
      refine ⟨min (stamp first) earliest, List.forall_mem_cons.mpr ⟨Int.min_le_left _ _, ?_⟩⟩
      intro item member
      exact Int.le_trans (Int.min_le_right _ _) (before item member)

end Stamps
