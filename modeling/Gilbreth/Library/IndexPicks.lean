import Mathlib

/-!
# Picking items of a list by their places

A pass decides on places and a second pass takes the items there out, in order.
The items taken are as many as the places, and what holds of them is read off the
places. The first item of every key is such a pick.
-/

set_option autoImplicit false

namespace Picks

variable {Item Key : Type*}

/-- The items at the chosen places, in order. -/
def pickAt (chosen : Finset Nat) (items : List Item) : List Item :=
  items.zipIdx.filterMap fun entry => if entry.2 ∈ chosen then some entry.1 else none

section Places

variable {chosen : Finset Nat} {items : List Item}

theorem pick_at_concat (chosen : Finset Nat) (items : List Item) (item : Item) :
    pickAt chosen (items ++ [item]) =
      pickAt chosen items ++ if items.length ∈ chosen then [item] else [] := by
  rw [pickAt, List.zipIdx_append, List.filterMap_append, pickAt]
  congr 1
  by_cases taken : items.length ∈ chosen
  · simp [taken]
  · simp [taken]

theorem pick_at_congr {other : Finset Nat}
    (same : ∀ place < items.length, place ∈ other ↔ place ∈ chosen) :
    pickAt other items = pickAt chosen items := by
  apply List.filterMap_congr
  intro entry listed
  have bound := List.snd_lt_of_mem_zipIdx listed
  simp [same entry.2 (by omega)]

theorem filter_map_places {places : List Nat} (order : places.Pairwise (· < ·))
    (inside : ∀ place ∈ places, place < items.length) :
    places.filterMap (fun place => items[place]?) = pickAt places.toFinset items := by
  induction items using List.reverseRecOn generalizing places with
  | nil =>
      have none : places = [] := List.eq_nil_iff_forall_not_mem.mpr fun place listed =>
        absurd (inside place listed) (Nat.not_lt_zero place)
      rw [none]
      rfl
  | append_singleton items item induction =>
      rw [pick_at_concat]
      rcases List.eq_nil_or_concat places with none | ⟨before, last, split⟩
      · rw [none]
        have start := @induction [] List.Pairwise.nil (by simp)
        simpa using start
      · subst split
        rw [List.concat_eq_append] at order inside ⊢
        rw [List.pairwise_append] at order
        have bound : last < items.length + 1 := by simpa using inside last (by simp)
        have below : ∀ place ∈ before, place < last :=
          fun place listed => order.2.2 place listed last List.mem_cons_self
        by_cases own : last = items.length
        · have shorter : ∀ place ∈ before, place < items.length :=
            fun place listed => own ▸ below place listed
          have rest := induction order.1 shorter
          have lookup : before.filterMap (fun place => (items ++ [item])[place]?) =
              before.filterMap fun place => items[place]? := by
            apply List.filterMap_congr
            intro place listed
            exact List.getElem?_append_left (shorter place listed)
          have same : pickAt (before ++ [last]).toFinset items = pickAt before.toFinset items := by
            apply pick_at_congr
            intro place bound
            have other : place ≠ last := by omega
            simp [other]
          rw [List.filterMap_append, lookup, rest, same, own]
          simp
        · have shorter : ∀ place ∈ before ++ [last], place < items.length := by
            intro place listed
            cases List.mem_append.mp listed with
            | inl earlier => exact (below place earlier).trans (by omega)
            | inr single =>
                rw [List.mem_singleton.mp single]
                omega
          have rest := @induction (before ++ [last]) (List.pairwise_append.mpr order) shorter
          have lookup : (before ++ [last]).filterMap (fun place => (items ++ [item])[place]?) =
              (before ++ [last]).filterMap fun place => items[place]? := by
            apply List.filterMap_congr
            intro place listed
            exact List.getElem?_append_left (shorter place listed)
          have outside : items.length ∉ (before ++ [last]).toFinset := by
            intro listed
            exact absurd (shorter _ (List.mem_toFinset.mp listed)) (lt_irrefl _)
          rw [lookup, rest, if_neg outside, List.append_nil]

theorem pick_at_sublist (chosen : Finset Nat) (items : List Item) :
    (pickAt chosen items).Sublist items := by
  induction items using List.reverseRecOn with
  | nil => exact List.Sublist.refl _
  | append_singleton items item induction =>
      rw [pick_at_concat]
      apply induction.append
      split
      · exact List.Sublist.refl _
      · exact List.nil_sublist _

theorem mem_pick_at {item : Item} :
    item ∈ pickAt chosen items ↔ ∃ place ∈ chosen, items[place]? = some item := by
  simp only [pickAt, List.mem_filterMap, Option.ite_none_right_eq_some, Option.some.injEq]
  constructor
  · rintro ⟨entry, listed, taken, rfl⟩
    exact ⟨entry.2, taken, List.mem_zipIdx_iff_getElem?.mp listed⟩
  · rintro ⟨place, taken, found⟩
    exact ⟨(item, place), List.mem_zipIdx_iff_getElem?.mpr found, taken, rfl⟩

theorem length_pick_at (chosen : Finset Nat) (items : List Item) :
    (pickAt chosen items).length = (chosen ∩ Finset.range items.length).card := by
  induction items using List.reverseRecOn with
  | nil => simp [pickAt]
  | append_singleton items item induction =>
      rw [pick_at_concat, List.length_append, induction, List.length_append,
        List.length_singleton, Finset.range_add_one]
      by_cases taken : items.length ∈ chosen
      · rw [Finset.inter_insert_of_mem taken, Finset.card_insert_of_notMem (by simp), if_pos taken]
        rfl
      · rw [Finset.inter_insert_of_notMem taken, if_neg taken]
        rfl

theorem length_pick_inside (inside : chosen ⊆ Finset.range items.length) :
    (pickAt chosen items).length = chosen.card := by
  rw [length_pick_at, Finset.inter_eq_left.mpr inside]

theorem pick_at_split {other : Finset Nat}
    (split : ∀ place < items.length, place ∈ other ↔ place ∉ chosen) :
    (pickAt chosen items ++ pickAt other items).Perm items := by
  induction items using List.reverseRecOn with
  | nil => exact List.Perm.refl _
  | append_singleton items item induction =>
      have before := induction fun place bound => split place (by
        rw [List.length_append]
        omega)
      have last := split items.length (by simp)
      rw [pick_at_concat, pick_at_concat]
      by_cases taken : items.length ∈ chosen
      · rw [if_pos taken, if_neg fun left => last.mp left taken, List.append_nil]
        have swapped : (pickAt chosen items ++ [item] ++ pickAt other items).Perm
            (pickAt chosen items ++ pickAt other items ++ [item]) := by
          rw [List.append_assoc, List.append_assoc]
          exact List.perm_append_comm.append_left _
        exact swapped.trans (before.append_right _)
      · rw [if_neg taken, if_pos (last.mpr taken), List.append_nil, ← List.append_assoc]
        exact before.append_right _

end Places

section FirstOfKey

variable [DecidableEq Key]

/-- No item of the list has the key, where there is one. -/
def Fresh (key : Item → Option Key) (seen : List Item) (item : Item) : Prop :=
  ∀ found ∈ key item, ∀ earlier ∈ seen, key earlier ≠ some found

instance (key : Item → Option Key) (seen : List Item) (item : Item) :
    Decidable (Fresh key seen item) :=
  inferInstanceAs (Decidable (∀ found ∈ key item, _))

def firstOfKey (key : Item → Option Key) (items : List Item) : List Item :=
  (items.zipIdx.filter fun entry => decide (Fresh key (items.take entry.2) entry.1)).map Prod.fst

/-- The same in one pass that remembers what it has seen. -/
def firstFrom (key : Item → Option Key) (seen : List Item) : List Item → List Item
  | [] => []
  | item :: rest =>
      if Fresh key seen item then item :: firstFrom key (seen ++ [item]) rest
      else firstFrom key (seen ++ [item]) rest

theorem first_from_eq (key : Item → Option Key) (seen rest : List Item) :
    ((rest.zipIdx seen.length).filter fun entry =>
      decide (Fresh key ((seen ++ rest).take entry.2) entry.1)).map Prod.fst =
        firstFrom key seen rest := by
  induction rest generalizing seen with
  | nil => rfl
  | cons item rest induction =>
      have later := induction (seen ++ [item])
      rw [List.length_append, List.length_singleton, List.append_assoc,
        List.singleton_append] at later
      rw [List.zipIdx_cons, List.filter_cons, List.take_left, firstFrom, ← later]
      by_cases fresh : Fresh key seen item
      · rw [if_pos (decide_eq_true fresh), if_pos fresh]
        rfl
      · rw [if_neg (by simpa using fresh), if_neg fresh]

theorem first_of_key_eq (key : Item → Option Key) (items : List Item) :
    firstOfKey key items = firstFrom key [] items :=
  first_from_eq key [] items

end FirstOfKey

end Picks
