import Mathlib

/-!
# Sums over groups

Items shared out by a key add up, group by group, to the same total as one by one.
Cutting a list of positive amounts keeps the sum only when nothing is cut.
-/

set_option autoImplicit false

namespace Groups

variable {Item Key : Type*} [DecidableEq Key]

def groupSum (keyOf : Item → Key) (amount : Item → Int) (items : List Item) (key : Key) : Int :=
  ((items.filter fun item => decide (keyOf item = key)).map amount).sum

theorem group_sum_cons (keyOf : Item → Key) (amount : Item → Int) (item : Item)
    (items : List Item) (key : Key) :
    groupSum keyOf amount (item :: items) key =
      (if key = keyOf item then amount item else 0) + groupSum keyOf amount items key := by
  rw [groupSum, List.filter_cons]
  by_cases own : key = keyOf item
  · rw [if_pos own, if_pos (decide_eq_true own.symm), List.map_cons, List.sum_cons, groupSum]
  · rw [if_neg own, if_neg (by simpa using Ne.symm own), zero_add, groupSum]

theorem sum_single {keys : List Key} (distinct : keys.Nodup) {wanted : Key}
    (listed : wanted ∈ keys) (amount : Int) :
    (keys.map fun key => if key = wanted then amount else 0).sum = amount := by
  induction keys with
  | nil => cases listed
  | cons key keys induction =>
      have fresh := List.nodup_cons.mp distinct
      rw [List.map_cons, List.sum_cons]
      cases List.mem_cons.mp listed with
      | inl own =>
          have rest : (keys.map fun key => if key = wanted then amount else 0) =
              keys.map fun _ => 0 := by
            apply List.map_congr_left
            intro other member
            apply if_neg
            intro same
            rw [same, own] at member
            exact fresh.1 member
          rw [if_pos own.symm, rest]
          simp
      | inr later =>
          have other : key ≠ wanted := by
            intro same
            rw [same] at fresh
            exact fresh.1 later
          rw [if_neg other, zero_add, induction fresh.2 later]

theorem sum_group_sums {keys : List Key} (distinct : keys.Nodup) (keyOf : Item → Key)
    (amount : Item → Int) (items : List Item) (held : ∀ item ∈ items, keyOf item ∈ keys) :
    (keys.map (groupSum keyOf amount items)).sum = (items.map amount).sum := by
  induction items with
  | nil =>
      have empty : groupSum keyOf amount [] = fun _ => 0 := funext fun _ => rfl
      simp [empty]
  | cons item items induction =>
      have rest := induction fun other member => held other (List.mem_cons_of_mem _ member)
      have own := held item List.mem_cons_self
      rw [List.map_congr_left fun key _ => group_sum_cons keyOf amount item items key,
        List.sum_map_add, sum_single distinct own, rest, List.map_cons, List.sum_cons]

theorem group_count_pos (keyOf : Item → Key) {items : List Item} {item : Item}
    (listed : item ∈ items) : 0 < groupSum keyOf (fun _ => 1) items (keyOf item) := by
  have own : item ∈ items.filter fun other => decide (keyOf other = keyOf item) :=
    List.mem_filter.mpr ⟨listed, decide_eq_true rfl⟩
  have count := List.length_pos_of_mem own
  rw [groupSum, List.map_const', List.sum_replicate]
  simpa using count

theorem sum_take_eq_iff {amounts : List Int} (positive : ∀ amount ∈ amounts, 0 < amount)
    (count : Nat) : (amounts.take count).sum = amounts.sum ↔ amounts.length ≤ count := by
  have split : amounts.sum = (amounts.take count).sum + (amounts.drop count).sum := by
    rw [← List.sum_append, List.take_append_drop]
  constructor
  · intro same
    by_contra longer
    have left : (amounts.drop count) ≠ [] := by
      rw [ne_eq, List.drop_eq_nil_iff]
      exact longer
    have above := List.sum_pos (amounts.drop count)
      (fun amount member => positive amount (List.mem_of_mem_drop member)) left
    omega
  · intro short
    rw [List.take_of_length_le short]

end Groups
