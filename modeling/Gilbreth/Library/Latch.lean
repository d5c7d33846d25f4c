import Mathlib.Data.List.Induction

/-!
# A cell that inputs overwrite

Some inputs write a value, the others leave the cell alone. The content after a
sequence of inputs is the last value written, or the initial one.
-/

set_option autoImplicit false

namespace Latch

variable {Input Value : Type*} (write : Input → Option Value)

def overwrite (value : Value) (input : Input) : Value := (write input).getD value

/-- Some input wrote `value` and none after it wrote. -/
def LastWrite (inputs : List Input) (value : Value) : Prop :=
  ∃ before input after, inputs = before ++ input :: after ∧ write input = some value ∧
    ∀ later ∈ after, write later = none

theorem last_write_append_writer (inputs : List Input) {input : Input} {written : Value}
    (writes : write input = some written) (value : Value) :
    LastWrite write (inputs ++ [input]) value ↔ written = value := by
  constructor
  · rintro ⟨before, last, after, split, wrote, quiet⟩
    rcases List.eq_nil_or_concat after with rfl | ⟨init, final, rfl⟩
    · obtain ⟨_, same⟩ := List.append_inj' split rfl
      cases same
      exact Option.some.inj (writes.symm.trans wrote)
    · rw [List.concat_eq_append, ← List.cons_append, ← List.append_assoc] at split
      obtain ⟨_, same⟩ := List.append_inj' split rfl
      cases same
      have silent := quiet input (by simp)
      rw [writes] at silent
      exact absurd silent (Option.some_ne_none written)
  · rintro rfl
    exact ⟨inputs, input, [], rfl, writes, by simp⟩

theorem last_write_append_silent (inputs : List Input) {input : Input}
    (silent : write input = none) (value : Value) :
    LastWrite write (inputs ++ [input]) value ↔ LastWrite write inputs value := by
  constructor
  · rintro ⟨before, last, after, split, wrote, quiet⟩
    rcases List.eq_nil_or_concat after with rfl | ⟨init, final, rfl⟩
    · obtain ⟨_, same⟩ := List.append_inj' split rfl
      cases same
      rw [silent] at wrote
      exact absurd wrote.symm (Option.some_ne_none value)
    · rw [List.concat_eq_append, ← List.cons_append, ← List.append_assoc] at split
      obtain ⟨kept, _⟩ := List.append_inj' split rfl
      exact ⟨before, last, init, kept, wrote, fun later member => quiet later (by simp [member])⟩
  · rintro ⟨before, last, after, rfl, wrote, quiet⟩
    refine ⟨before, last, after ++ [input], by simp, wrote, ?_⟩
    intro later member
    rcases List.mem_append.mp member with early | final
    · exact quiet later early
    · rw [List.mem_singleton.mp final]
      exact silent

theorem fold_overwrite_eq_iff (inputs : List Input) (start value : Value) :
    inputs.foldl (overwrite write) start = value ↔
      LastWrite write inputs value ∨ (∀ input ∈ inputs, write input = none) ∧ start = value := by
  induction inputs using List.reverseRecOn with
  | nil => simp [LastWrite]
  | append_singleton inputs input induction =>
      rw [List.foldl_append, List.foldl_cons, List.foldl_nil]
      cases writes : write input with
      | some written =>
          have noisy : ¬∀ earlier ∈ inputs ++ [input], write earlier = none := by
            intro quiet
            have silent := quiet input (by simp)
            rw [writes] at silent
            exact Option.some_ne_none written silent
          have content :
              overwrite write (inputs.foldl (overwrite write) start) input = written := by
            rw [overwrite, writes, Option.getD_some]
          rw [last_write_append_writer write inputs writes, content]
          simp only [noisy, false_and, or_false]
      | none =>
          have content : overwrite write (inputs.foldl (overwrite write) start) input =
              inputs.foldl (overwrite write) start := by
            rw [overwrite, writes, Option.getD_none]
          rw [last_write_append_silent write inputs writes, content, induction]
          simp [or_imp, forall_and, writes]

end Latch
