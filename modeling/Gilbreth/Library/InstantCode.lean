import Mathlib.Data.List.Basic

/-!
# Codes that are read off from the front

Where no code word starts another one, a sequence of code words can be read from the
left. Where the text after it starts no code word either, one sees where it ends. Two
texts that agree then agree part by part.
-/

set_option autoImplicit false

namespace InstantCode

variable {Symbol Unit : Type*}

/-- The first code word of a text is determined by the text. -/
def Instant (code : Symbol → List Unit) : Prop :=
  ∀ symbol other rest others, code symbol ++ rest = code other ++ others → symbol = other

/-- No code word stands at the front of the text. -/
def Stops (code : Symbol → List Unit) (text : List Unit) : Prop :=
  ∀ symbol rest, text ≠ code symbol ++ rest

theorem flat_map_append_inj {code : Symbol → List Unit} (instant : Instant code)
    {first second : List Symbol} {rest other : List Unit} (restStops : Stops code rest)
    (otherStops : Stops code other)
    (same : first.flatMap code ++ rest = second.flatMap code ++ other) :
    first = second ∧ rest = other := by
  induction first generalizing second with
  | nil =>
      cases second with
      | nil => exact ⟨rfl, same⟩
      | cons symbol second =>
          rw [List.flatMap_nil, List.nil_append, List.flatMap_cons, List.append_assoc] at same
          exact absurd same (restStops symbol _)
  | cons symbol first induction =>
      cases second with
      | nil =>
          rw [List.flatMap_nil, List.nil_append, List.flatMap_cons, List.append_assoc] at same
          exact absurd same.symm (otherStops symbol _)
      | cons symbol' second =>
          rw [List.flatMap_cons, List.flatMap_cons, List.append_assoc, List.append_assoc] at same
          have alike := instant _ _ _ _ same
          subst alike
          have later := induction (List.append_cancel_left same)
          exact ⟨by rw [later.1], later.2⟩

theorem span_append_inj {keeps : Unit → Bool} {first second rest other : List Unit}
    (firstKept : ∀ unit ∈ first, keeps unit = true)
    (secondKept : ∀ unit ∈ second, keeps unit = true)
    (restStops : ∀ unit ∈ rest.head?, keeps unit = false)
    (otherStops : ∀ unit ∈ other.head?, keeps unit = false)
    (same : first ++ rest = second ++ other) : first = second ∧ rest = other := by
  induction first generalizing second with
  | nil =>
      cases second with
      | nil => exact ⟨rfl, same⟩
      | cons head tail =>
          have stopped := restStops head (by rw [List.nil_append] at same; rw [same]; rfl)
          rw [secondKept head List.mem_cons_self] at stopped
          cases stopped
  | cons head tail induction =>
      cases second with
      | nil =>
          have stopped := otherStops head (by rw [List.nil_append] at same; rw [← same]; rfl)
          rw [firstKept head List.mem_cons_self] at stopped
          cases stopped
      | cons head' tail' =>
          rw [List.cons_append, List.cons_append, List.cons.injEq] at same
          have later := induction
            (fun unit member => firstKept unit (List.mem_cons_of_mem _ member))
            (fun unit member => secondKept unit (List.mem_cons_of_mem _ member)) same.2
          exact ⟨by rw [same.1, later.1], later.2⟩

end InstantCode
