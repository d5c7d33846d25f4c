import Mathlib

/-!
# Identifiers from a counter

A table gives every subject it is asked about an identifier, once and for all. As the
identifiers come from one counter, no two subjects share one.
-/

set_option autoImplicit false

/-- The table `idOf` holds what was given out, each to one subject, from the first identifier to
below the next. -/
structure FreshIds {Subject : Type*} (first next : Nat) (idOf : Subject → Option Nat)
    (given : List (Subject × Nat)) : Prop where
  held : ∀ entry ∈ given, idOf entry.1 = some entry.2
  distinct : ∀ left right id, idOf left = some id → idOf right = some id → left = right
  counted : ∀ subject id, idOf subject = some id → first ≤ id ∧ id < next
  started : first ≤ next

namespace FreshIds

variable {Subject : Type*} {first next : Nat} {idOf : Subject → Option Nat}
  {given : List (Subject × Nat)}

/-- Of what was given out, the identifiers agree exactly where the subjects do. -/
theorem same_iff (fresh : FreshIds first next idOf given) {left right : Subject × Nat}
    (leftGiven : left ∈ given) (rightGiven : right ∈ given) :
    left.2 = right.2 ↔ left.1 = right.1 := by
  have leftHeld := fresh.held left leftGiven
  have rightHeld := fresh.held right rightGiven
  constructor
  · intro same
    rw [← same] at rightHeld
    exact fresh.distinct _ _ _ leftHeld rightHeld
  · intro same
    rw [same, rightHeld] at leftHeld
    exact (Option.some.inj leftHeld).symm

theorem again (fresh : FreshIds first next idOf given) {subject : Subject} {id : Nat}
    (held : idOf subject = some id) : FreshIds first next idOf ((subject, id) :: given) := by
  refine ⟨?_, fresh.distinct, fresh.counted, fresh.started⟩
  simpa [held] using fresh.held

theorem fresh_next [DecidableEq Subject] (fresh : FreshIds first next idOf given)
    {subject : Subject} (free : idOf subject = none) {updated : Subject → Option Nat}
    (updates : updated = Function.update idOf subject (some next)) :
    FreshIds first (next + 1) updated ((subject, next) :: given) := by
  have here : updated subject = some next := by simp [updates]
  have elsewhere : ∀ other, other ≠ subject → updated other = idOf other := by
    intro other different
    rw [updates, Function.update_of_ne different]
  have below : ∀ other id, other ≠ subject → updated other = some id → id ≠ next := by
    intro other id different held
    rw [elsewhere other different] at held
    have counted := fresh.counted other id held
    omega
  constructor
  · intro entry member
    rcases List.mem_cons.mp member with rfl | earlier
    · exact here
    · have held := fresh.held entry earlier
      have different : entry.1 ≠ subject := fun same => by simp [same, free] at held
      rw [elsewhere _ different, held]
  · intro left right id leftHeld rightHeld
    by_cases atLeft : left = subject <;> by_cases atRight : right = subject
    · rw [atLeft, atRight]
    · rw [atLeft, here, Option.some.injEq] at leftHeld
      exact absurd leftHeld.symm (below right id atRight rightHeld)
    · rw [atRight, here, Option.some.injEq] at rightHeld
      exact absurd rightHeld.symm (below left id atLeft leftHeld)
    · rw [elsewhere _ atLeft] at leftHeld
      rw [elsewhere _ atRight] at rightHeld
      exact fresh.distinct left right id leftHeld rightHeld
  · intro other id held
    have started := fresh.started
    by_cases same : other = subject
    · rw [same, here, Option.some.injEq] at held
      omega
    · rw [elsewhere other same] at held
      have counted := fresh.counted other id held
      omega
  · exact Nat.le_succ_of_le fresh.started

end FreshIds
