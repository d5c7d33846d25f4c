import Gilbreth.Library.Machine

/-!
# One machine shown by another

A machine runs beside a shadow on the same inputs. What one step keeps and shows, a whole run
keeps and shows, when every step meets a condition on the shadow.
-/

set_option autoImplicit false

namespace Machine

variable {State Shadow Input Output Shown : Type*}

theorem shows_along (machine : Machine State Input Output) (shadow : Machine Shadow Input Shown)
    (related : State → Shadow → Prop) (view : Output → Shown) (condition : Shadow → Input → Prop)
    (kept : ∀ state shade input, related state shade → condition shade input →
      related (machine.step state input).1 (shadow.step shade input).1 ∧
        view (machine.step state input).2 = (shadow.step shade input).2)
    {state : State} {shade : Shadow} (inputs : List Input) (start : related state shade)
    (steps : shadow.AllSteps condition shade inputs) :
    related (machine.run state inputs) (shadow.run shade inputs) ∧
      (machine.outputs state inputs).map view = shadow.outputs shade inputs := by
  induction inputs generalizing state shade with
  | nil => exact ⟨start, rfl⟩
  | cons input rest induction =>
      have step := kept state shade input start steps.1
      have later := induction step.1 steps.2
      refine ⟨later.1, ?_⟩
      rw [outputs_cons, outputs_cons, List.map_cons, step.2, later.2]

theorem all_steps_of_forall (machine : Machine State Input Output)
    (condition : State → Input → Prop) (always : ∀ state input, condition state input)
    (state : State) (inputs : List Input) : machine.AllSteps condition state inputs := by
  induction inputs generalizing state with
  | nil => trivial
  | cons input rest induction => exact ⟨always state input, induction _⟩

theorem outputs_shown (machine : Machine State Input Output)
    (shadow : Machine Shadow Input Shown) (related : State → Shadow → Prop) (view : Output → Shown)
    (kept : ∀ state shade input, related state shade →
      related (machine.step state input).1 (shadow.step shade input).1 ∧
        view (machine.step state input).2 = (shadow.step shade input).2)
    {state : State} {shade : Shadow} (inputs : List Input) (start : related state shade) :
    (machine.outputs state inputs).map view = shadow.outputs shade inputs :=
  (shows_along machine shadow related view (fun _ _ => True)
    (fun state shade input relates _ => kept state shade input relates) inputs start
    (shadow.all_steps_of_forall _ (fun _ _ => trivial) shade inputs)).2

theorem all_steps_shown (machine : Machine State Input Output)
    (shadow : Machine Shadow Input Shown) (related : State → Shadow → Prop)
    (first : State → Input → Prop) (second : Shadow → Input → Prop)
    (agree : ∀ state shade input, related state shade → (first state input ↔ second shade input))
    (kept : ∀ state shade input, related state shade →
      related (machine.step state input).1 (shadow.step shade input).1)
    {state : State} {shade : Shadow} (inputs : List Input) (start : related state shade) :
    machine.AllSteps first state inputs ↔ shadow.AllSteps second shade inputs := by
  induction inputs generalizing state shade with
  | nil => exact Iff.rfl
  | cons input rest induction =>
      exact and_congr (agree state shade input start) (induction (kept state shade input start))

/-- Along a run from a state with an invariant that each of its inputs keeps, every step meets
the condition that the invariant gives for that input. -/
theorem all_steps_of_invariant (machine : Machine State Input Output)
    (invariant : State → List Input → Prop) (condition : State → Input → Prop)
    (kept : ∀ state input rest, invariant state (input :: rest) →
      condition state input ∧ invariant (machine.step state input).1 rest)
    {state : State} (inputs : List Input) (start : invariant state inputs) :
    machine.AllSteps condition state inputs := by
  induction inputs generalizing state with
  | nil => trivial
  | cons input rest induction =>
      have step := kept state input rest start
      exact ⟨step.1, induction step.2⟩

/-- What the inputs of a run amount to for another machine. -/
def inputsAlong {Other : Type*} (machine : Machine State Input Output)
    (amounts : State → Input → Other) : State → List Input → List Other
  | _, [] => []
  | state, input :: rest =>
      amounts state input :: inputsAlong machine amounts (machine.step state input).1 rest

/-- A machine whose every step is a step of another, on what its input amounts to, runs as the
other does. -/
theorem runs_through {Other : Type*} (machine : Machine State Input Output)
    (shadow : Machine Shadow Other Shown) (view : State → Shadow) (shown : Output → Shown)
    (amounts : State → Input → Other)
    (same : ∀ state input,
      (view (machine.step state input).1, shown (machine.step state input).2) =
        shadow.step (view state) (amounts state input))
    (state : State) (inputs : List Input) :
    view (machine.run state inputs) =
        shadow.run (view state) (machine.inputsAlong amounts state inputs) ∧
      (machine.outputs state inputs).map shown =
        shadow.outputs (view state) (machine.inputsAlong amounts state inputs) := by
  induction inputs generalizing state with
  | nil => exact ⟨rfl, rfl⟩
  | cons input rest induction =>
      have later := induction (machine.step state input).1
      simp only [inputsAlong, run_cons, outputs_cons, List.map_cons, ← same state input, later.1,
        later.2, and_self]

/-- A reading that what an input amounts to shares with it is the same along a run. -/
theorem inputs_along_map {Other Reading : Type*} (machine : Machine State Input Output)
    (amounts : State → Input → Other) (before : Input → Reading) (after : Other → Reading)
    (same : ∀ state input, after (amounts state input) = before input)
    (state : State) (inputs : List Input) :
    (machine.inputsAlong amounts state inputs).map after = inputs.map before := by
  induction inputs generalizing state with
  | nil => rfl
  | cons input rest induction =>
      rw [inputsAlong, List.map_cons, List.map_cons, same, induction]

end Machine
