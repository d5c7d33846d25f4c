import Mathlib.Data.List.Basic

/-!
# Runs of items among other calls

A call either carries an item or not. An item joins the run before it when the two fit and
every call between them passes the earlier one by; whatever follows the run's last item
closes it. The runs are read off the whole sequence; an open run continues into the rest.
-/

set_option autoImplicit false

structure RunRule (Call Item Closing : Type*) where
  pick : Call → Option Item
  joins : Item → Item → Bool
  passes : Item → Call → Bool
  closing : List Call → Closing

namespace RunRule

variable {Call Item Closing : Type*} (rule : RunRule Call Item Closing)

/-- The next item among the calls joins this one. -/
def continues (item : Item) : List Call → Bool
  | [] => false
  | call :: rest =>
      match rule.pick call with
      | some next => rule.joins item next
      | none => rule.passes item call && continues item rest

/-- The items go to the front of the first run. -/
def prepend (items : List Item) : List (List Item × Closing) → List (List Item × Closing)
  | [] => []
  | (run, closing) :: others => (items ++ run, closing) :: others

/-- The maximal runs of a sequence, each with what closes it. -/
def runs : List Call → List (List Item × Closing)
  | [] => []
  | call :: rest =>
      match rule.pick call with
      | none => runs rest
      | some item =>
          if rule.continues item rest then prepend [item] (runs rest)
          else ([item], rule.closing rest) :: runs rest

/-- The runs when some items are already in the one that is open. -/
def runsAfter (items : List Item) (calls : List Call) : List (List Item × Closing) :=
  match items.getLast? with
  | none => rule.runs calls
  | some last =>
      if rule.continues last calls then prepend items (rule.runs calls)
      else (items, rule.closing calls) :: rule.runs calls

@[simp] theorem runs_after_nil (calls : List Call) : rule.runsAfter [] calls = rule.runs calls :=
  rfl

theorem prepend_prepend (first second : List Item) (runs : List (List Item × Closing)) :
    prepend first (prepend second runs) = prepend (first ++ second) runs := by
  cases runs with
  | nil => rfl
  | cons run others => rw [prepend, prepend, prepend, List.append_assoc]

theorem continues_runs {item : Item} {calls : List Call}
    (continued : rule.continues item calls = true) : rule.runs calls ≠ [] := by
  induction calls generalizing item with
  | nil => cases continued
  | cons call rest induction =>
      rw [continues] at continued
      rw [runs]
      cases picked : rule.pick call with
      | none =>
          rw [picked] at continued
          exact induction (Bool.and_eq_true_iff.mp continued).2
      | some next =>
          dsimp only
          split_ifs with further
          · cases others : rule.runs rest with
            | nil => exact absurd others (induction further)
            | cons run others => simp [prepend]
          · simp

theorem runs_flat_map (calls : List Call) :
    (rule.runs calls).flatMap Prod.fst = calls.filterMap rule.pick := by
  induction calls with
  | nil => rfl
  | cons call rest induction =>
      rw [runs, List.filterMap_cons]
      cases rule.pick call with
      | none => exact induction
      | some item =>
          dsimp only
          split_ifs with further
          · have others := rule.continues_runs further
            cases isRuns : rule.runs rest with
            | nil => exact absurd isRuns others
            | cons run others =>
                rw [isRuns] at induction
                rw [← induction]
                rfl
          · rw [List.flatMap_cons, induction]
            rfl

theorem runs_after_open {call : Call} {item : Item} (picked : rule.pick call = some item)
    (rest : List Call) : rule.runsAfter [] (call :: rest) = rule.runsAfter [item] rest := by
  rw [runs_after_nil, runs, picked]
  rfl

theorem runs_after_join {call : Call} {item : Item} {items : List Item} {last : Item}
    (picked : rule.pick call = some item) (isLast : items.getLast? = some last)
    (fits : rule.joins last item = true) (rest : List Call) :
    rule.runsAfter items (call :: rest) = rule.runsAfter (items ++ [item]) rest := by
  have continued : rule.continues last (call :: rest) = true := by
    rw [continues, picked]
    exact fits
  simp only [runsAfter, isLast, continued, if_true, List.getLast?_concat]
  rw [runs, picked]
  dsimp only
  split_ifs
  · rw [prepend_prepend]
  · rfl

theorem runs_after_break {call : Call} {item : Item} {items : List Item} {last : Item}
    (picked : rule.pick call = some item) (isLast : items.getLast? = some last)
    (fits : rule.joins last item = false) (rest : List Call) :
    rule.runsAfter items (call :: rest) =
      (items, rule.closing (call :: rest)) :: rule.runsAfter [item] rest := by
  have continued : rule.continues last (call :: rest) = false := by
    rw [continues, picked]
    exact fits
  rw [← rule.runs_after_open picked]
  simp only [runsAfter, isLast, continued, Bool.false_eq_true, if_false, List.getLast?_nil]

theorem runs_after_idle {call : Call} (picked : rule.pick call = none) (rest : List Call) :
    rule.runsAfter [] (call :: rest) = rule.runsAfter [] rest := by
  rw [runs_after_nil, runs_after_nil, runs, picked]

theorem runs_after_pass {call : Call} {items : List Item} {last : Item} {rest : List Call}
    (picked : rule.pick call = none) (isLast : items.getLast? = some last)
    (passed : rule.passes last call = true)
    (same : rule.closing (call :: rest) = rule.closing rest) :
    rule.runsAfter items (call :: rest) = rule.runsAfter items rest := by
  have continued : rule.continues last (call :: rest) = rule.continues last rest := by
    rw [continues, picked]
    simp [passed]
  simp only [runsAfter, isLast, continued, same]
  rw [runs, picked]

theorem runs_after_stop {call : Call} {items : List Item} {last : Item}
    (picked : rule.pick call = none) (isLast : items.getLast? = some last)
    (stopped : rule.passes last call = false) (rest : List Call) :
    rule.runsAfter items (call :: rest) =
      (items, rule.closing (call :: rest)) :: rule.runsAfter [] rest := by
  have continued : rule.continues last (call :: rest) = false := by
    rw [continues, picked]
    simp [stopped]
  rw [← rule.runs_after_idle picked]
  simp only [runsAfter, isLast, continued, Bool.false_eq_true, if_false, List.getLast?_nil]

theorem runs_after_end {items : List Item} {last : Item} (isLast : items.getLast? = some last) :
    rule.runsAfter items [] = [(items, rule.closing [])] := by
  simp [runsAfter, isLast, continues, runs]

theorem runs_nonempty (calls : List Call) : ∀ run ∈ rule.runs calls, run.1 ≠ [] := by
  induction calls with
  | nil => simp [runs]
  | cons call rest induction =>
      rw [runs]
      cases rule.pick call with
      | none => exact induction
      | some item =>
          dsimp only
          split_ifs
          · cases isRuns : rule.runs rest with
            | nil => simp [prepend]
            | cons run others =>
                rw [isRuns] at induction
                simp only [prepend, List.forall_mem_cons] at induction ⊢
                exact ⟨by simp, induction.2⟩
          · simpa using induction

section Outputs

variable {Output : Type*} {output : List Item × Closing → List Output}

theorem outputs_break (blank : ∀ closing, output ([], closing) = []) {call : Call} {item : Item}
    {items : List Item} (picked : rule.pick call = some item)
    (fits : ∀ last, items.getLast? = some last → rule.joins last item = false)
    (rest : List Call) :
    (rule.runsAfter items (call :: rest)).flatMap output =
      output (items, rule.closing (call :: rest)) ++
        (rule.runsAfter [item] rest).flatMap output := by
  cases isLast : items.getLast? with
  | none =>
      rw [List.getLast?_eq_none_iff.mp isLast, rule.runs_after_open picked, blank]
      rfl
  | some last => rw [rule.runs_after_break picked isLast (fits last isLast), List.flatMap_cons]

theorem outputs_stop (blank : ∀ closing, output ([], closing) = []) {call : Call}
    {items : List Item} (picked : rule.pick call = none)
    (stopped : ∀ last, items.getLast? = some last → rule.passes last call = false)
    (rest : List Call) :
    (rule.runsAfter items (call :: rest)).flatMap output =
      output (items, rule.closing (call :: rest)) ++ (rule.runsAfter [] rest).flatMap output := by
  cases isLast : items.getLast? with
  | none =>
      rw [List.getLast?_eq_none_iff.mp isLast, rule.runs_after_idle picked, blank]
      rfl
  | some last => rw [rule.runs_after_stop picked isLast (stopped last isLast), List.flatMap_cons]

theorem outputs_end (blank : ∀ closing, output ([], closing) = []) (items : List Item) :
    (rule.runsAfter items []).flatMap output = output (items, rule.closing []) := by
  cases isLast : items.getLast? with
  | none =>
      rw [List.getLast?_eq_none_iff.mp isLast, blank]
      rfl
  | some last => simp [rule.runs_after_end isLast]

theorem outputs_pass {call : Call} {items : List Item} {rest : List Call}
    (picked : rule.pick call = none)
    (passed : ∀ last, items.getLast? = some last → rule.passes last call = true)
    (same : rule.closing (call :: rest) = rule.closing rest) :
    (rule.runsAfter items (call :: rest)).flatMap output =
      (rule.runsAfter items rest).flatMap output := by
  cases isLast : items.getLast? with
  | none => rw [List.getLast?_eq_none_iff.mp isLast, rule.runs_after_idle picked]
  | some last => rw [rule.runs_after_pass picked isLast (passed last isLast) same]

end Outputs

end RunRule
