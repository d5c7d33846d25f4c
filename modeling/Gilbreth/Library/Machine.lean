import Mathlib.Data.List.Forall2

/-!
# Deterministic machines and their runs

A machine answers every input with one output and a next state. The rules below
turn what one step does into what a whole run does: invariants, invariants under
a condition on the steps, two runs side by side, and refinement of a smaller
state. Each is one induction over the inputs.
-/

set_option autoImplicit false

structure Machine (State Input Output : Type*) where
  step : State → Input → State × Output

namespace Machine

variable {State Input Output : Type*} (machine : Machine State Input Output)

def run : State → List Input → State
  | state, [] => state
  | state, input :: rest => run (machine.step state input).1 rest

def outputs : State → List Input → List Output
  | _, [] => []
  | state, input :: rest =>
      (machine.step state input).2 :: outputs (machine.step state input).1 rest

/-- Every step of the run meets a condition on its input and the state it
starts from. -/
def AllSteps (condition : State → Input → Prop) : State → List Input → Prop
  | _, [] => True
  | state, input :: rest =>
      condition state input ∧ AllSteps condition (machine.step state input).1 rest

@[simp] theorem run_nil (state : State) : machine.run state [] = state := rfl

@[simp] theorem run_cons (state : State) (input : Input) (rest : List Input) :
    machine.run state (input :: rest) = machine.run (machine.step state input).1 rest := rfl

@[simp] theorem outputs_nil (state : State) : machine.outputs state [] = [] := rfl

@[simp] theorem outputs_cons (state : State) (input : Input) (rest : List Input) :
    machine.outputs state (input :: rest) =
      (machine.step state input).2 :: machine.outputs (machine.step state input).1 rest := rfl

theorem run_append (state : State) (before after : List Input) :
    machine.run state (before ++ after) = machine.run (machine.run state before) after := by
  induction before generalizing state with
  | nil => rfl
  | cons input before induction => exact induction (machine.step state input).1

theorem outputs_append (state : State) (before after : List Input) :
    machine.outputs state (before ++ after) =
      machine.outputs state before ++ machine.outputs (machine.run state before) after := by
  induction before generalizing state with
  | nil => rfl
  | cons input before induction =>
      exact congrArg ((machine.step state input).2 :: ·) (induction (machine.step state input).1)

theorem all_steps_append (condition : State → Input → Prop) (state : State)
    (before after : List Input) :
    machine.AllSteps condition state (before ++ after) ↔
      machine.AllSteps condition state before ∧
        machine.AllSteps condition (machine.run state before) after := by
  induction before generalizing state with
  | nil => simp [AllSteps]
  | cons input before induction =>
      simp only [List.cons_append, AllSteps, run_cons, induction, and_assoc]

/-- An invariant kept by every step that meets the condition holds after a run
whose steps all meet it. -/
theorem run_invariant_of_steps (invariant : State → Prop) (condition : State → Input → Prop)
    (kept : ∀ state input, condition state input → invariant state →
      invariant (machine.step state input).1)
    (state : State) (inputs : List Input) (start : invariant state)
    (steps : machine.AllSteps condition state inputs) :
    invariant (machine.run state inputs) := by
  induction inputs generalizing state with
  | nil => exact start
  | cons input rest induction =>
      exact induction _ (kept state input steps.1 start) steps.2

theorem run_invariant (invariant : State → Prop)
    (kept : ∀ state input, invariant state → invariant (machine.step state input).1)
    (state : State) (inputs : List Input) (start : invariant state) :
    invariant (machine.run state inputs) := by
  induction inputs generalizing state with
  | nil => exact start
  | cons input rest induction => exact induction _ (kept state input start)

/-- A property that a step keeps exactly when it meets the condition holds all
along a run exactly when every step meets it. The background holds regardless. -/
theorem holds_along_iff_all_steps (background property : State → Prop)
    (condition : State → Input → Prop) {inputs : List Input}
    (stays : ∀ input ∈ inputs, ∀ state, background state → background (machine.step state input).1)
    (exact : ∀ input ∈ inputs, ∀ state, background state → property state →
      (property (machine.step state input).1 ↔ condition state input))
    (state : State) (start : background state) (holds : property state) :
    (∀ before, before <+: inputs → property (machine.run state before)) ↔
      machine.AllSteps condition state inputs := by
  induction inputs generalizing state with
  | nil =>
      simp only [AllSteps, iff_true]
      intro before initial
      rw [List.prefix_nil.mp initial]
      exact holds
  | cons input rest induction =>
      have next := exact input List.mem_cons_self state start holds
      have tail := induction (fun later member => stays later (List.mem_cons_of_mem _ member))
        (fun later member => exact later (List.mem_cons_of_mem _ member))
        (machine.step state input).1 (stays input List.mem_cons_self state start)
      constructor
      · intro along
        have first := along [input] ⟨rest, rfl⟩
        refine ⟨next.mp first, (tail first).mp ?_⟩
        intro before initial
        exact along (input :: before) ((List.prefix_cons_inj input).mpr initial)
      · rintro ⟨met, later⟩ before initial
        have first := next.mpr met
        cases before with
        | nil => exact holds
        | cons head before =>
            obtain ⟨rfl, shorter⟩ := List.cons_prefix_cons.mp initial
            exact (tail first).mpr later before shorter

/-- Two conditions that agree on a step from an invariant state agree along a run, when a
step that meets the second keeps the invariant. -/
theorem all_steps_iff_of_invariant (invariant : State → Prop)
    (first second : State → Input → Prop)
    (agree : ∀ state input, invariant state → (first state input ↔ second state input))
    (kept : ∀ state input, second state input → invariant state →
      invariant (machine.step state input).1)
    (state : State) (inputs : List Input) (start : invariant state) :
    machine.AllSteps first state inputs ↔ machine.AllSteps second state inputs := by
  induction inputs generalizing state with
  | nil => rfl
  | cons input rest induction =>
      have now := agree state input start
      constructor
      · rintro ⟨met, later⟩
        have second := now.mp met
        exact ⟨second, (induction _ (kept state input second start)).mp later⟩
      · rintro ⟨met, later⟩
        exact ⟨now.mpr met, (induction _ (kept state input met start)).mpr later⟩

theorem outputs_invariant (invariant : State → Prop) (answer : Output → Prop)
    (kept : ∀ state input, invariant state →
      invariant (machine.step state input).1 ∧ answer (machine.step state input).2)
    (state : State) (inputs : List Input) (start : invariant state) :
    ∀ output ∈ machine.outputs state inputs, answer output := by
  induction inputs generalizing state with
  | nil => simp
  | cons input rest induction =>
      have step := kept state input start
      intro output member
      rcases List.mem_cons.mp member with rfl | later
      · exact step.2
      · exact induction _ step.1 output later

/-- Two runs of one machine. Related states stay related and answer alike when
the inputs are related position by position. -/
theorem runs_related (related : State → State → Prop) (inputRelated : Input → Input → Prop)
    (kept : ∀ left right leftInput rightInput, related left right →
      inputRelated leftInput rightInput →
      related (machine.step left leftInput).1 (machine.step right rightInput).1 ∧
        (machine.step left leftInput).2 = (machine.step right rightInput).2)
    {leftInputs rightInputs : List Input}
    (inputs : List.Forall₂ inputRelated leftInputs rightInputs)
    (left right : State) (start : related left right) :
    related (machine.run left leftInputs) (machine.run right rightInputs) ∧
      machine.outputs left leftInputs = machine.outputs right rightInputs := by
  induction inputs generalizing left right with
  | nil => exact ⟨start, rfl⟩
  | cons head _ induction =>
      have step := kept left right _ _ start head
      have rest := induction _ _ step.1
      exact ⟨rest.1, by rw [outputs_cons, outputs_cons, step.2, rest.2]⟩

theorem runs_of_view {Seen : Type*} (seen : Machine State Seen Output) (view : Input → Seen)
    (same : ∀ state input, machine.step state input = seen.step state (view input))
    (state : State) (inputs : List Input) :
    machine.run state inputs = seen.run state (inputs.map view) ∧
      machine.outputs state inputs = seen.outputs state (inputs.map view) := by
  induction inputs generalizing state with
  | nil => exact ⟨rfl, rfl⟩
  | cons input rest induction =>
      rw [run_cons, outputs_cons, List.map_cons, run_cons, outputs_cons, same]
      have later := induction (seen.step state (view input)).1
      exact ⟨later.1, congrArg (_ :: ·) later.2⟩

end Machine
