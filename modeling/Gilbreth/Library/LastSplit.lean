import Mathlib.Data.List.Infix

/-!
# Text taken apart from its end

A suffix is stripped, or the text is split at its last separator. Each answers exactly when
the text is put together so, and then with the only parts.
-/

set_option autoImplicit false

namespace LastSplit

variable {Item : Type*} [DecidableEq Item]

def stripSuffix (text suffix : List Item) : Option (List Item) :=
  if suffix <:+ text then some (text.take (text.length - suffix.length)) else none

/-- What stands before and after the last separator. -/
def rsplitOnce (separator : Item) : List Item → Option (List Item × List Item)
  | [] => none
  | item :: rest =>
      match rsplitOnce separator rest with
      | some (before, after) => some (item :: before, after)
      | none => if item = separator then some ([], rest) else none

theorem strip_suffix_eq_some {text suffix stem : List Item} :
    stripSuffix text suffix = some stem ↔ text = stem ++ suffix := by
  unfold stripSuffix
  constructor
  · intro stripped
    split at stripped
    · next ends =>
      obtain ⟨before, rfl⟩ := ends
      cases stripped
      simp
    · cases stripped
  · rintro rfl
    rw [if_pos (List.suffix_append stem suffix)]
    simp

theorem find_stripped {suffixes : List (List Item)}
    (apart : ∀ first ∈ suffixes, ∀ second ∈ suffixes, first <:+ second → first = second)
    (stem : List Item) {suffix : List Item} (member : suffix ∈ suffixes) :
    suffixes.findSome? (stripSuffix (stem ++ suffix)) = some stem := by
  induction suffixes with
  | nil => cases member
  | cons head rest induction =>
      rw [List.findSome?_cons]
      cases stripped : stripSuffix (stem ++ suffix) head with
      | some found =>
          have ends : head <:+ stem ++ suffix := ⟨found, (strip_suffix_eq_some.mp stripped).symm⟩
          have same : head = suffix := by
            rcases List.suffix_or_suffix_of_suffix ends (List.suffix_append stem suffix) with
              shorter | longer
            · exact apart head List.mem_cons_self suffix member shorter
            · exact (apart suffix member head List.mem_cons_self longer).symm
          rw [same] at stripped
          rw [strip_suffix_eq_some.mpr rfl] at stripped
          exact stripped.symm
      | none =>
          have later : suffix ∈ rest := by
            rcases List.mem_cons.mp member with rfl | later
            · rw [strip_suffix_eq_some.mpr rfl] at stripped
              cases stripped
            · exact later
          exact induction (fun first among second listed =>
            apart first (List.mem_cons_of_mem head among) second
              (List.mem_cons_of_mem head listed)) later

theorem rsplit_once_eq_none {separator : Item} {text : List Item} :
    rsplitOnce separator text = none ↔ separator ∉ text := by
  induction text with
  | nil => simp [rsplitOnce]
  | cons item rest induction =>
      unfold rsplitOnce
      cases split : rsplitOnce separator rest with
      | some parts =>
          have present : separator ∈ rest := by
            by_contra absent
            rw [induction.mpr absent] at split
            cases split
          simp [present]
      | none =>
          have absent := induction.mp split
          by_cases same : item = separator
          · simp [same]
          · simp [same, absent, Ne.symm same]

theorem rsplit_once_append {separator : Item} (before : List Item) {after : List Item}
    (absent : separator ∉ after) :
    rsplitOnce separator (before ++ separator :: after) = some (before, after) := by
  induction before with
  | nil =>
      have rest := rsplit_once_eq_none.mpr absent
      simp [rsplitOnce, rest]
  | cons item before induction =>
      rw [List.cons_append, rsplitOnce, induction]

theorem rsplit_once_parts {separator : Item} {text before after : List Item}
    (split : rsplitOnce separator text = some (before, after)) :
    text = before ++ separator :: after ∧ separator ∉ after := by
  induction text generalizing before with
  | nil => cases split
  | cons item rest induction =>
      rw [rsplitOnce] at split
      cases later : rsplitOnce separator rest with
      | some parts =>
          obtain ⟨inner, last⟩ := parts
          rw [later] at split
          cases split
          have parts := induction later
          exact ⟨congrArg (item :: ·) parts.1, parts.2⟩
      | none =>
          rw [later] at split
          dsimp only at split
          split at split
          · next same =>
            cases split
            refine ⟨?_, rsplit_once_eq_none.mp later⟩
            rw [same, List.nil_append]
          · cases split

end LastSplit
