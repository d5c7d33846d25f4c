import Mathlib.Data.List.Infix

/-!
# Openings and closings that alternate

A stream of marks opens and closes one thing. A closing belongs to an opening; a stray
mark stands only where nothing is open; a reset forgets an opening. Where the marks keep
to this, what is open can be read off the stream, and openings and closings alternate.
-/

set_option autoImplicit false

namespace Alternation

inductive Mark where
  | opens | closes | stray | resets
deriving DecidableEq

def Mark.leaves : Mark → Bool
  | .opens => true
  | _ => false

/-- Whether the mark may stand where something is open, or where nothing is. -/
def Mark.Fits : Mark → Bool → Prop
  | .opens, isOpen => isOpen = false
  | .closes, isOpen => isOpen = true
  | .stray, isOpen => isOpen = false
  | .resets, _ => True

def after (isOpen : Bool) (marks : List Mark) : Bool :=
  marks.foldl (fun _ mark => mark.leaves) isOpen

def Legal (isOpen : Bool) : List Mark → Prop
  | [] => True
  | mark :: rest => mark.Fits isOpen ∧ Legal mark.leaves rest

@[simp] theorem after_nil (isOpen : Bool) : after isOpen [] = isOpen := rfl

@[simp] theorem after_cons (isOpen : Bool) (mark : Mark) (rest : List Mark) :
    after isOpen (mark :: rest) = after mark.leaves rest := rfl

theorem after_append (isOpen : Bool) (marks later : List Mark) :
    after isOpen (marks ++ later) = after (after isOpen marks) later := by
  simp [after]

theorem legal_append (isOpen : Bool) (marks later : List Mark) :
    Legal isOpen (marks ++ later) ↔ Legal isOpen marks ∧ Legal (after isOpen marks) later := by
  induction marks generalizing isOpen with
  | nil => simp [Legal]
  | cons mark marks induction => simp [Legal, induction, and_assoc]

theorem after_iff_last (marks : List Mark) :
    after false marks = true ↔ ∃ before, marks = before ++ [.opens] := by
  induction marks using List.reverseRecOn with
  | nil => simp
  | append_singleton marks mark _ =>
      rw [after_append]
      constructor
      · intro isOpen
        cases mark <;> simp [after, Mark.leaves] at isOpen
        exact ⟨marks, rfl⟩
      · rintro ⟨before, same⟩
        have last := (List.append_inj' same rfl).2
        rw [last]
        rfl

theorem one_close_between {isOpen : Bool} {before between rest : List Mark}
    (legal : Legal isOpen (before ++ .opens :: (between ++ .opens :: rest)))
    (consecutive : ∀ mark ∈ between, mark ≠ .opens ∧ mark ≠ .resets) :
    between.count .closes = 1 := by
  rw [legal_append] at legal
  have later := legal.2.2
  cases between with
  | nil => cases later.1
  | cons mark between =>
      have first : mark = .closes := by
        have kind := consecutive mark List.mem_cons_self
        have fits := later.1
        cases mark with
        | closes => rfl
        | resets => exact absurd rfl kind.2
        | opens => exact absurd rfl kind.1
        | stray => cases fits
      subst first
      have none : ∀ marks : List Mark, Legal false marks →
          (∀ mark ∈ marks, mark ≠ .opens ∧ mark ≠ .resets) → marks.count .closes = 0 := by
        intro marks
        induction marks with
        | nil => simp
        | cons mark marks induction =>
            intro legal consecutive
            have kind := consecutive mark List.mem_cons_self
            have stray : mark = .stray := by
              have fits := legal.1
              cases mark with
              | stray => rfl
              | closes => cases fits
              | opens => exact absurd rfl kind.1
              | resets => exact absurd rfl kind.2
            subst stray
            rw [List.count_cons_of_ne (by decide)]
            exact induction legal.2 fun mark member =>
              consecutive mark (List.mem_cons_of_mem _ member)
      have legalRest := ((legal_append false between _).mp later.2).1
      rw [List.count_cons_self,
        none between legalRest fun mark member => consecutive mark (List.mem_cons_of_mem _ member)]

end Alternation
