import Mathlib.Data.List.Basic

/-!
# Delimited lines

Lines without the separator, each followed by one. What is read of such a stream so far
either holds no separator, and is then a piece of the first line, or it splits at its
first separator into the first line and a piece of the rest.
-/

set_option autoImplicit false

namespace DelimitedLines

variable {Symbol : Type*} {sep : Symbol}

def frame (sep : Symbol) (lines : List (List Symbol)) : List Symbol :=
  lines.flatMap fun line => line ++ [sep]

@[simp] theorem frame_nil : frame sep [] = [] := rfl

@[simp] theorem frame_cons (line : List Symbol) (rest : List (List Symbol)) :
    frame sep (line :: rest) = line ++ sep :: frame sep rest := by
  simp [frame]

/-- A piece of a stream that holds no separator is a piece of the first line. -/
theorem unbroken_within {part rest line more : List Symbol} (free : sep ∉ part)
    (same : part ++ rest = line ++ sep :: more) :
    ∃ tail, line = part ++ tail ∧ rest = tail ++ sep :: more := by
  rcases List.append_eq_append_iff.mp same with ⟨tail, isLine, isRest⟩ | ⟨tail, isPart, isMore⟩
  · exact ⟨tail, isLine, isRest⟩
  · cases tail with
    | nil =>
        refine ⟨[], ?_, ?_⟩
        · rw [isPart, List.append_nil, List.append_nil]
        · exact isMore.symm
    | cons symbol tail =>
        have head := (List.cons.inj isMore).1
        rw [isPart, ← head] at free
        simp at free

theorem first_line_unique {line more other otherMore : List Symbol} (free : sep ∉ line)
    (otherFree : sep ∉ other) (same : line ++ sep :: more = other ++ sep :: otherMore) :
    line = other ∧ more = otherMore := by
  rcases unbroken_within free same with ⟨tail, isOther, isMore⟩
  cases tail with
  | nil =>
      rw [List.append_nil] at isOther
      exact ⟨isOther.symm, (List.cons.inj isMore).2⟩
  | cons symbol tail =>
      have head := (List.cons.inj isMore).1
      rw [isOther, ← head] at otherFree
      simp at otherFree

variable [DecidableEq Symbol]

theorem split_at_first {part : List Symbol} {place : Nat}
    (found : part.findIdx? (· == sep) = some place) :
    part = part.take place ++ sep :: part.drop (place + 1) ∧ sep ∉ part.take place := by
  rcases List.findIdx?_eq_some_iff_getElem.mp found with ⟨inside, isSep, before⟩
  constructor
  · have here : part[place] = sep := by simpa using isSep
    rw [← here, ← List.drop_eq_getElem_cons inside, List.take_append_drop]
  · intro member
    rcases List.mem_take_iff_getElem.mp member with ⟨index, bound, same⟩
    have early := before index (by omega)
    rw [same] at early
    simp at early

theorem unbroken_of_not_found {part : List Symbol} (absent : part.findIdx? (· == sep) = none) :
    sep ∉ part := by
  intro member
  have none := List.findIdx?_eq_none_iff.mp absent sep member
  simp at none

end DelimitedLines
