import Mathlib.Data.List.Basic

/-!
# Effects that change a state and put out rows

Effects run one after another; their rows follow in the same order. What every effect of a
sequence does to state and rows, the sequence does, when that composes.
-/

set_option autoImplicit false

abbrev Effect (State Row : Type*) := State → State × List Row

namespace Effect

variable {State Row : Type*}

def change (next : State → State) : Effect State Row := fun state => (next state, [])

def put (rows : State → List Row) : Effect State Row := fun state => (state, rows state)

def all : List (Effect State Row) → Effect State Row
  | [] => fun state => (state, [])
  | first :: rest => fun state =>
      ((all rest (first state).1).1, (first state).2 ++ (all rest (first state).1).2)

@[simp] theorem all_nil (state : State) : (all [] : Effect State Row) state = (state, []) := rfl

@[simp] theorem all_cons (first : Effect State Row) (rest : List (Effect State Row))
    (state : State) :
    all (first :: rest) state =
      ((all rest (first state).1).1, (first state).2 ++ (all rest (first state).1).2) := rfl

theorem all_append (effects later : List (Effect State Row)) (state : State) :
    all (effects ++ later) state =
      ((all later (all effects state).1).1,
        (all effects state).2 ++ (all later (all effects state).1).2) := by
  induction effects generalizing state with
  | nil => rfl
  | cons first rest induction =>
      rw [List.cons_append, all_cons, induction, all_cons, List.append_assoc]

/-- Holds of doing nothing, and of two effects in a row where it holds of both. -/
structure Composes (relation : State → State → List Row → Prop) : Prop where
  nothing : ∀ state, relation state state []
  append : ∀ first middle last rows later, relation first middle rows →
    relation middle last later → relation first last (rows ++ later)

def Does (relation : State → State → List Row → Prop) (effect : Effect State Row) : Prop :=
  ∀ state, relation state (effect state).1 (effect state).2

variable {relation : State → State → List Row → Prop}

theorem does_all (composes : Composes relation) {effects : List (Effect State Row)}
    (each : ∀ effect ∈ effects, Does relation effect) : Does relation (all effects) := by
  induction effects with
  | nil => exact composes.nothing
  | cons first rest induction =>
      intro state
      have later := induction fun effect member => each effect (List.mem_cons_of_mem _ member)
      exact composes.append _ _ _ _ _ (each first List.mem_cons_self state) (later _)

end Effect
