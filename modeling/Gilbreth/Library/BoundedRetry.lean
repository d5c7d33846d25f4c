import Mathlib.Tactic.TypeStar

/-!
# Trying again a bounded number of times

An attempt changes a state and answers or fails. After a failure a policy decides whether
the next attempt is made, while the budget lasts. Recorded attempts show that only the last
one can answer.
-/

set_option autoImplicit false

namespace BoundedRetry

variable {State Failure Answer : Type*}

/-- Attempts after `done` failures with so many retries left. -/
def retry (attempt : State → State × Except Failure Answer) (again : Nat → Failure → Bool) :
    Nat → Nat → State → State × Except Failure Answer
  | 0, _, state => attempt state
  | left + 1, done, state =>
      match attempt state with
      | (after, .ok answer) => (after, .ok answer)
      | (after, .error failure) =>
          if again done failure then retry attempt again left (done + 1) after
          else (after, .error failure)

/-- The attempt with every outcome written down. -/
def recorded (attempt : State → State × Except Failure Answer)
    (state : State × List (Except Failure Answer)) :
    (State × List (Except Failure Answer)) × Except Failure Answer :=
  (((attempt state.1).1, state.2 ++ [(attempt state.1).2]), (attempt state.1).2)

def succeeded : Except Failure Answer → Bool
  | .ok _ => true
  | .error _ => false

variable (attempt : State → State × Except Failure Answer) (again : Nat → Failure → Bool)

/-- Every outcome but the last is a failure, the last is the result, and there are at most
as many failures before it as the budget allows. -/
theorem retry_recorded (left done : Nat) (state : State)
    (before : List (Except Failure Answer)) :
    ∃ failed, (retry (recorded attempt) again left done (state, before)).1.2 =
        before ++ failed ++ [(retry (recorded attempt) again left done (state, before)).2] ∧
      failed.length ≤ left ∧ ∀ outcome ∈ failed, succeeded outcome = false := by
  induction left generalizing done state before with
  | zero => exact ⟨[], by simp [retry, recorded], by simp, by simp⟩
  | succ left induction =>
      cases outcome : attempt state with
      | mk after result =>
        cases result with
        | ok answer => exact ⟨[], by simp [retry, recorded, outcome], by simp, by simp⟩
        | error failure =>
            cases policy : again done failure with
            | false =>
                exact ⟨[], by simp [retry, recorded, outcome, policy], by simp, by simp⟩
            | true =>
                have ⟨failed, log, short, allFailed⟩ :=
                  induction (done + 1) after (before ++ [.error failure])
                refine ⟨.error failure :: failed, ?_, by simpa using short, ?_⟩
                · simp only [retry, recorded, outcome, policy, if_true]
                  simpa using log
                · intro listed member
                  cases List.mem_cons.mp member with
                  | inl first => rw [first]; rfl
                  | inr later => exact allFailed listed later

theorem retry_answer {left done : Nat} {state : State} {answer : Answer}
    (answered : (retry attempt again left done state).2 = .ok answer) :
    ∃ before, (attempt before).2 = .ok answer := by
  induction left generalizing done state with
  | zero => exact ⟨state, answered⟩
  | succ left induction =>
      cases outcome : attempt state with
      | mk after result =>
        cases result with
        | ok given =>
            simp only [retry, outcome] at answered
            exact ⟨state, by rw [outcome]; exact answered⟩
        | error failure =>
            cases policy : again done failure with
            | false =>
                simp only [retry, outcome, policy] at answered
                cases answered
            | true =>
                simp only [retry, outcome, policy, if_true] at answered
                exact induction answered

theorem retry_recorded_same (left done : Nat) (state : State)
    (before : List (Except Failure Answer)) :
    (retry (recorded attempt) again left done (state, before)).1.1 =
        (retry attempt again left done state).1 ∧
      (retry (recorded attempt) again left done (state, before)).2 =
        (retry attempt again left done state).2 := by
  induction left generalizing done state before with
  | zero => exact ⟨rfl, rfl⟩
  | succ left induction =>
      cases outcome : attempt state with
      | mk after result =>
        cases result with
        | ok answer => simp [retry, recorded, outcome]
        | error failure =>
            cases policy : again done failure with
            | false => simp [retry, recorded, outcome, policy]
            | true => simpa [retry, recorded, outcome, policy] using induction _ _ _

end BoundedRetry
