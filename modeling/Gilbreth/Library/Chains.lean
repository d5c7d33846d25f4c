import Mathlib

/-!
# Linear passes over a list

Three tables a linear pass builds so as not to look back: how far the links from each
place reach, the sums of the items before it, and the place where a sorted list passes
a bound. Each is read here as what it stands for.
-/

set_option autoImplicit false

namespace Chains

variable {Item : Type*}

section PartitionPoint

/-- The first place of a partitioned list where the property fails. -/
def partitionPoint (property : Item → Bool) (items : List Item) : Nat :=
  (items.takeWhile property).length

theorem get_partition_point (property : Item → Bool) (items : List Item) :
    items[partitionPoint property items]? = (items.dropWhile property).head? := by
  have split := List.takeWhile_append_dropWhile (p := property) (l := items)
  have found := @List.getElem?_append_right _ (items.takeWhile property)
    (items.dropWhile property) _ le_rfl
  rw [split, Nat.sub_self] at found
  rw [partitionPoint, found, List.head?_eq_getElem?]

theorem next_above_iff {items : List Nat} (sorted : items.Pairwise (· < ·)) (bound next : Nat) :
    items[partitionPoint (fun item => decide (item ≤ bound)) items]? = some next ↔
      next ∈ items ∧ bound < next ∧ ∀ other ∈ items, bound < other → next ≤ other := by
  rw [get_partition_point]
  induction items with
  | nil => simp
  | cons item items induction =>
      have order := List.pairwise_cons.mp sorted
      rw [List.dropWhile_cons]
      by_cases passed : item ≤ bound
      · rw [if_pos (decide_eq_true passed), induction order.2]
        constructor
        · rintro ⟨listed, above, least⟩
          refine ⟨List.mem_cons_of_mem _ listed, above, ?_⟩
          intro other member beyond
          cases List.mem_cons.mp member with
          | inl same => omega
          | inr later => exact least other later beyond
        · rintro ⟨listed, above, least⟩
          refine ⟨(List.mem_cons.mp listed).resolve_left (by omega), above, ?_⟩
          exact fun other later => least other (List.mem_cons_of_mem _ later)
      · rw [if_neg (by simpa using passed), List.head?_cons, Option.some.injEq]
        constructor
        · intro same
          subst same
          refine ⟨List.mem_cons_self, not_le.mp passed, ?_⟩
          intro other member _
          cases List.mem_cons.mp member with
          | inl own => exact own.ge
          | inr later => exact (order.1 other later).le
        · rintro ⟨listed, _, least⟩
          have below := least item List.mem_cons_self (not_le.mp passed)
          cases List.mem_cons.mp listed with
          | inl same => exact same.symm
          | inr later =>
              have above := order.1 next later
              omega

end PartitionPoint

section ChainEnds

variable (linked : Item → Item → Bool)

/-- How far the links reach from each place, from the last place back. -/
def chainEnds : Nat → List Item → List Nat
  | _, [] => []
  | place, [_] => [place]
  | place, left :: right :: rest =>
      let later := chainEnds (place + 1) (right :: rest)
      (if linked left right then later.headD place else place) :: later

/-- The item at the place is linked to the next one. -/
def LinkedAt (items : List Item) (place : Nat) : Prop :=
  ∃ left right, items[place]? = some left ∧ items[place + 1]? = some right ∧
    linked left right = true

theorem linked_at_drop (items : List Item) (place between : Nat) :
    LinkedAt linked (items.drop place) between ↔ LinkedAt linked items (place + between) := by
  rw [LinkedAt, LinkedAt, List.getElem?_drop, List.getElem?_drop, add_assoc]

theorem linked_at_cons (item : Item) (items : List Item) (place : Nat) :
    LinkedAt linked (item :: items) (place + 1) ↔ LinkedAt linked items place := by
  simp [LinkedAt]

theorem linked_at_head (left right : Item) (rest : List Item) :
    LinkedAt linked (left :: right :: rest) 0 ↔ linked left right = true := by
  simp [LinkedAt]

theorem drop_chain_ends (start place : Nat) (items : List Item) :
    (chainEnds linked start items).drop place =
      chainEnds linked (start + place) (items.drop place) := by
  induction items generalizing start place with
  | nil => simp [chainEnds]
  | cons left rest induction =>
      cases place with
      | zero => rfl
      | succ place =>
          have tail : (chainEnds linked start (left :: rest)).drop (place + 1) =
              (chainEnds linked (start + 1) rest).drop place := by
            cases rest <;> rfl
          rw [tail, induction, List.drop_succ_cons, add_assoc, add_comm 1]

/-- The first entry reaches a place exactly when every place before it is linked. -/
theorem le_first_chain_end_iff {start : Nat} {items : List Item} {finish last : Nat}
    (entry : (chainEnds linked start items).head? = some last) (inside : finish < items.length) :
    start + finish ≤ last ↔ ∀ between < finish, LinkedAt linked items between := by
  induction items generalizing start finish last with
  | nil => cases inside
  | cons left rest induction =>
      cases rest with
      | nil =>
          have nothing : finish = 0 := by simpa using inside
          subst nothing
          rw [chainEnds, List.head?_cons, Option.some.injEq] at entry
          exact iff_of_true entry.le fun between before => absurd before (Nat.not_lt_zero _)
      | cons right rest =>
          rw [chainEnds, List.head?_cons, Option.some.injEq] at entry
          have tail : (chainEnds linked (start + 1) (right :: rest)).head? =
              some ((chainEnds linked (start + 1) (right :: rest)).headD start) := by
            cases rest <;> rfl
          have least : start + 1 + 0 ≤ (chainEnds linked (start + 1) (right :: rest)).headD start :=
            (induction tail (by simp)).mpr fun between before => absurd before (Nat.not_lt_zero _)
          cases finish with
          | zero =>
              apply iff_of_true
              · split at entry <;> omega
              · exact fun between before => absurd before (Nat.not_lt_zero _)
          | succ finish =>
              by_cases link : linked left right = true
              · rw [if_pos link] at entry
                rw [← entry, ← add_assoc, add_right_comm,
                  induction tail (by simpa using inside)]
                constructor
                · intro links between before
                  cases between with
                  | zero => exact (linked_at_head linked left right rest).mpr link
                  | succ between =>
                      rw [linked_at_cons]
                      exact links between (by omega)
                · intro links between before
                  rw [← linked_at_cons linked left]
                  exact links _ (by omega)
              · rw [if_neg link] at entry
                apply iff_of_false (by omega)
                intro links
                exact link ((linked_at_head linked left right rest).mp (links 0 (Nat.succ_pos _)))

/-- The entry of a place reaches another exactly when every place between is linked. -/
theorem le_chain_end_iff {items : List Item} {place finish last : Nat}
    (entry : (chainEnds linked 0 items)[place]? = some last) (after : place ≤ finish)
    (inside : finish < items.length) :
    finish ≤ last ↔ ∀ between, place ≤ between → between < finish →
      LinkedAt linked items between := by
  have first : (chainEnds linked (0 + place) (items.drop place)).head? = some last := by
    rw [← drop_chain_ends, List.head?_drop]
    exact entry
  have reach := @le_first_chain_end_iff _ linked (0 + place) (items.drop place) (finish - place)
    last first (by rw [List.length_drop]; omega)
  have whole : 0 + place + (finish - place) = finish := by omega
  rw [whole] at reach
  rw [reach]
  constructor
  · intro links between from_place before
    have moved : place + (between - place) = between := by omega
    rw [← moved, ← linked_at_drop]
    exact links _ (by omega)
  · intro links between before
    rw [linked_at_drop]
    exact links _ (by omega) (by omega)

theorem length_chain_ends (start : Nat) (items : List Item) :
    (chainEnds linked start items).length = items.length := by
  induction items generalizing start with
  | nil => rfl
  | cons left rest induction =>
      cases rest with
      | nil => rfl
      | cons right rest => simp [chainEnds, induction (start + 1)]

end ChainEnds

section PrefixSums

/-- The sums of the items before each place, and of all. -/
def prefixSums (total : Int) : List Int → List Int
  | [] => [total]
  | value :: rest => total :: prefixSums (total + value) rest

theorem get_prefix_sums (total : Int) (values : List Int) {place : Nat}
    (inside : place ≤ values.length) :
    (prefixSums total values)[place]? = some (total + (values.take place).sum) := by
  induction values generalizing total place with
  | nil =>
      have first : place = 0 := by simpa using inside
      subst first
      simp [prefixSums]
  | cons value rest induction =>
      cases place with
      | zero => simp [prefixSums]
      | succ place =>
          rw [prefixSums, List.getElem?_cons_succ, induction _ (by simpa using inside),
            List.take_succ_cons, List.sum_cons, add_assoc]

theorem sum_between (values : List Int) {first last : Nat} (order : first ≤ last) :
    (values.take last).sum - (values.take first).sum =
      ((values.drop first).take (last - first)).sum := by
  have split : values.take last = values.take first ++ (values.drop first).take (last - first) := by
    rw [← List.take_add, Nat.add_sub_cancel' order]
  rw [split, List.sum_append]
  omega

end PrefixSums

end Chains
