import Mathlib.Data.List.Induction

/-!
# Evidence that still stands

An event of a trace is evidence until an event that voids it comes after.
-/

set_option autoImplicit false

variable {Event : Type*}

/-- The event is in the trace, and none after it voids it. -/
def Stands (voids : Event → Prop) (evidence : Event) (trace : List Event) : Prop :=
  ∃ early late, trace = early ++ evidence :: late ∧ ∀ event ∈ late, ¬voids event

namespace Stands

variable {voids : Event → Prop} {evidence : Event} {trace later : List Event}

theorem now (earlier : List Event) (harmless : ∀ event ∈ later, ¬voids event) :
    Stands voids evidence (earlier ++ evidence :: later) := ⟨earlier, later, rfl, harmless⟩

theorem append (stands : Stands voids evidence trace)
    (harmless : ∀ event ∈ later, ¬voids event) : Stands voids evidence (trace ++ later) := by
  have ⟨early, late, split, kept⟩ := stands
  refine ⟨early, late ++ later, by rw [split, List.append_assoc, List.cons_append], ?_⟩
  intro event member
  rcases List.mem_append.mp member with old | new
  · exact kept event old
  · exact harmless event new

/-- Nothing but itself can end a trace in which evidence stands, if it voids. -/
theorem last {event : Event} (stands : Stands voids evidence (trace ++ [event])) :
    evidence = event ∨ ¬voids event := by
  have ⟨early, late, split, harmless⟩ := stands
  induction late using List.reverseRecOn with
  | nil => exact Or.inl (List.singleton_inj.mp (List.append_inj' split rfl).2).symm
  | append_singleton late other _ =>
      rw [← List.cons_append, ← List.append_assoc] at split
      have same := List.singleton_inj.mp (List.append_inj' split rfl).2
      rw [same]
      exact Or.inr (harmless other (by simp))

end Stands
