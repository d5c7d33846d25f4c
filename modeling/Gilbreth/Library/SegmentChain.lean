import Mathlib.Data.List.Basic
import Mathlib.Tactic.Linarith

/-!
# Segmented streams

A stream is cut into segments, at least one, and every segment goes through a
box that is told its position, whether it is the last one, and the associated
data, which only the first segment carries. A chain of boxes is undone by the
chain of the boxes that undo them, and when the only boxes that open are those
of one chain, that chain is the only one that opens.
-/

set_option autoImplicit false

namespace SegmentChain

section Split

variable {Item : Type*}

/-- Segments of `size` items and a last one, possibly empty only on its own. -/
def split (size : Nat) (items : List Item) : List (List Item) :=
  if items.drop size = [] ∨ size = 0 then [items]
  else items.take size :: split size (items.drop size)
termination_by items.length
decreasing_by
  rename_i longer
  rw [not_or, List.drop_eq_nil_iff] at longer
  rw [List.length_drop]
  omega

theorem split_of_short {size : Nat} {items : List Item} (short : items.length ≤ size) :
    split size items = [items] := by
  rw [split, if_pos (Or.inl (List.drop_eq_nil_iff.mpr short))]

theorem split_of_long {size : Nat} {items : List Item} (positive : 0 < size)
    (long : size < items.length) :
    split size items = items.take size :: split size (items.drop size) := by
  rw [split, if_neg]
  rw [not_or, List.drop_eq_nil_iff]
  omega

theorem split_ne_nil (size : Nat) (items : List Item) : split size items ≠ [] := by
  rw [split]
  split <;> simp

theorem split_flatten (size : Nat) (items : List Item) : (split size items).flatten = items := by
  fun_induction split size items with
  | case1 items stop => simp
  | case2 items longer induction =>
      rw [List.flatten_cons, induction, List.take_append_drop]

theorem length_le_of_mem_split {size : Nat} (positive : 0 < size) {items segment : List Item}
    (member : segment ∈ split size items) : segment.length ≤ size := by
  fun_induction split size items with
  | case1 items stop =>
      rw [List.drop_eq_nil_iff] at stop
      rw [List.mem_singleton.mp member]
      omega
  | case2 items longer induction =>
      rcases List.mem_cons.mp member with rfl | later
      · exact List.length_take_le _ _
      · exact induction later

theorem split_length_le_iff {size : Nat} (positive : 0 < size) (items : List Item) (count : Nat)
    (someCount : 0 < count) :
    (split size items).length ≤ count ↔ items.length ≤ count * size := by
  induction count generalizing items with
  | zero => contradiction
  | succ count induction =>
      rw [Nat.succ_mul]
      rcases Nat.lt_or_ge size items.length with longer | short
      · rw [split_of_long positive longer, List.length_cons]
        rcases Nat.eq_zero_or_pos count with none_left | left
        · have rest := List.length_pos_of_ne_nil (split_ne_nil size (items.drop size))
          subst none_left
          omega
        · have tail := induction (items.drop size) left
          rw [List.length_drop] at tail
          omega
      · rw [split_of_short short]
        constructor
        · intro _
          exact Nat.le_add_left_of_le short
        · intro _
          simp

end Split

variable {Data Item Result : Type*}

section Chain

variable (box : Nat → Bool → Data → Item → Option Result) (blank : Data)

def chain : Nat → Data → List Item → Option (List Result)
  | _, _, [] => some []
  | position, data, item :: rest =>
      match box position rest.isEmpty data item with
      | none => none
      | some result => (chain (position + 1) blank rest).map fun results => result :: results

variable {box blank}

theorem chain_cons_eq_some {position : Nat} {data : Data} {item : Item} {rest : List Item}
    {results : List Result} (ran : chain box blank position data (item :: rest) = some results) :
    ∃ result later, results = result :: later ∧ box position rest.isEmpty data item = some result ∧
      chain box blank (position + 1) blank rest = some later := by
  rw [chain] at ran
  cases first : box position rest.isEmpty data item with
  | none => simp only [first, reduceCtorEq] at ran
  | some result =>
      simp only [first, Option.map_eq_some_iff] at ran
      rcases ran with ⟨later, ranLater, rfl⟩
      exact ⟨result, later, rfl, rfl, ranLater⟩

theorem chain_cons {position : Nat} {data : Data} {item : Item} {rest : List Item}
    {result : Result} {later : List Result}
    (first : box position rest.isEmpty data item = some result)
    (ranLater : chain box blank (position + 1) blank rest = some later) :
    chain box blank position data (item :: rest) = some (result :: later) := by
  simp only [chain, first, ranLater, Option.map_some]

theorem chain_length {position : Nat} {data : Data} {items : List Item} {results : List Result}
    (ran : chain box blank position data items = some results) :
    results.length = items.length := by
  induction items generalizing position data results with
  | nil =>
      cases ran
      rfl
  | cons item rest induction =>
      rcases chain_cons_eq_some ran with ⟨result, later, rfl, _, ranLater⟩
      simp only [List.length_cons, induction ranLater]

theorem is_empty_of_length {items : List Item} {results : List Result}
    (same : results.length = items.length) : results.isEmpty = items.isEmpty := by
  cases items <;> cases results <;> simp_all

theorem box_of_mem_chain {position : Nat} {data : Data} {items : List Item}
    {results : List Result} (ran : chain box blank position data items = some results)
    {result : Result} (member : result ∈ results) :
    ∃ item ∈ items, ∃ place last carried, box place last carried item = some result := by
  induction items generalizing position data results with
  | nil =>
      cases ran
      contradiction
  | cons item rest induction =>
      rcases chain_cons_eq_some ran with ⟨first, later, rfl, opened, ranLater⟩
      rcases List.mem_cons.mp member with rfl | inLater
      · exact ⟨item, List.mem_cons_self, _, _, _, opened⟩
      · rcases induction ranLater inLater with ⟨source, inRest, found⟩
        exact ⟨source, List.mem_cons_of_mem _ inRest, found⟩

/-- In a chain that ran, the box at every position ran, flagged last only at the end. -/
theorem box_at_chain {position : Nat} {data : Data} {items : List Item} {results : List Result}
    (ran : chain box blank position data items = some results) {index : Nat}
    (inside : index < items.length) :
    ∃ carried item result,
      box (position + index) (decide (index + 1 = items.length)) carried item = some result := by
  induction items generalizing position data results index with
  | nil => simp at inside
  | cons item rest induction =>
      rcases chain_cons_eq_some ran with ⟨result, later, rfl, first, ranLater⟩
      cases index with
      | zero =>
          have flag : decide (0 + 1 = (item :: rest).length) = rest.isEmpty := by
            cases rest <;> simp
          rw [flag]
          exact ⟨_, _, _, first⟩
      | succ index =>
          have further : index < rest.length := by simpa using inside
          have tail := induction ranLater further
          have shifted : position + (index + 1) = position + 1 + index := by omega
          have same : decide (index + 1 + 1 = (item :: rest).length) =
              decide (index + 1 = rest.length) := by
            simp
          rwa [shifted, same]

theorem chain_is_some {position : Nat} {data : Data} {items : List Item}
    (runs : ∀ index < items.length, ∀ carried, carried = data ∨ carried = blank →
      ∀ item ∈ items,
        (box (position + index) (decide (index + 1 = items.length)) carried item).isSome) :
    ∃ results, chain box blank position data items = some results := by
  induction items generalizing position data with
  | nil => exact ⟨[], rfl⟩
  | cons item rest induction =>
      have here := runs 0 (by simp) data (Or.inl rfl) item List.mem_cons_self
      have flag : decide (0 + 1 = (item :: rest).length) = rest.isEmpty := by
        cases rest <;> simp
      rw [flag, Nat.add_zero] at here
      rcases Option.isSome_iff_exists.mp here with ⟨result, first⟩
      have tail : ∃ results, chain box blank (position + 1) blank rest = some results := by
        apply induction
        intro index inside carried either next inRest
        have there := runs (index + 1) (by simpa using inside) carried
          (Or.inr (or_self_iff.mp either)) next (List.mem_cons_of_mem _ inRest)
        have shifted : position + (index + 1) = position + 1 + index := by omega
        have same : decide (index + 1 + 1 = (item :: rest).length) =
            decide (index + 1 = rest.length) := by
          simp
        rwa [shifted, same] at there
      rcases tail with ⟨later, ranLater⟩
      exact ⟨result :: later, chain_cons first ranLater⟩

end Chain

section Undo

variable {box : Nat → Bool → Data → Item → Option Result}
  {unbox : Nat → Bool → Data → Result → Option Item} {blank : Data}

theorem chain_undo
    (undoes : ∀ position last data item result,
      box position last data item = some result → unbox position last data result = some item)
    {position : Nat} {data : Data} {items : List Item} {results : List Result}
    (ran : chain box blank position data items = some results) :
    chain unbox blank position data results = some items := by
  induction items generalizing position data results with
  | nil =>
      cases ran
      rfl
  | cons item rest induction =>
      rcases chain_cons_eq_some ran with ⟨result, later, rfl, first, ranLater⟩
      have opened := undoes _ _ _ _ _ first
      rw [← is_empty_of_length (chain_length ranLater)] at opened
      exact chain_cons opened (induction ranLater)

/-- One sealed box with everything it is bound to. -/
structure Box (Data Item Result : Type*) where
  position : Nat
  last : Bool
  data : Data
  item : Item
  result : Result

/-- The boxes of a chain that turned `items` into `results`. -/
def boxes (blank : Data) : Nat → Data → List Item → List Result → List (Box Data Item Result)
  | position, data, item :: items, result :: results =>
      ⟨position, items.isEmpty, data, item, result⟩ ::
        boxes blank (position + 1) blank items results
  | _, _, _, _ => []

theorem position_le_of_mem_boxes {position : Nat} {data : Data} {items : List Item}
    {results : List Result} {sealed : Box Data Item Result}
    (member : sealed ∈ boxes blank position data items results) : position ≤ sealed.position := by
  induction items generalizing position data results with
  | nil => simp [boxes] at member
  | cons item items induction =>
      cases results with
      | nil => simp [boxes] at member
      | cons result results =>
          rcases List.mem_cons.mp member with rfl | later
          · exact Nat.le_refl _
          · have further := induction later
            omega

theorem chain_unique {position : Nat} {data : Data} {items : List Item} {results : List Result}
    (long : results.length = items.length)
    (ideal : ∀ place last carried result item, position ≤ place →
      unbox place last carried result = some item →
        ⟨place, last, carried, item, result⟩ ∈ boxes blank position data items results)
    {presented : List Result} {carried : Data} {opened : List Item} (presentedSome : presented ≠ [])
    (ran : chain unbox blank position carried presented = some opened) :
    presented = results ∧ carried = data ∧ opened = items := by
  induction presented generalizing position data items results carried opened with
  | nil => contradiction
  | cons first rest induction =>
      rcases chain_cons_eq_some ran with ⟨item, later, rfl, openFirst, openRest⟩
      have bound := ideal _ _ _ _ _ (Nat.le_refl position) openFirst
      cases items with
      | nil => simp [boxes] at bound
      | cons source sources =>
          cases results with
          | nil => simp [boxes] at bound
          | cons result results =>
              rw [List.length_cons, List.length_cons, Nat.add_right_cancel_iff] at long
              rcases List.mem_cons.mp bound with same | elsewhere
              · simp only [Box.mk.injEq, true_and] at same
                rcases same with ⟨flags, rfl, rfl, rfl⟩
                cases rest with
                | nil =>
                    have noSources : sources = [] := by simpa using flags.symm
                    subst noSources
                    cases openRest
                    rw [List.length_eq_zero_iff.mp long]
                    exact ⟨rfl, rfl, rfl⟩
                | cons next further =>
                    have tail := induction long
                      (by
                        intro place last carried' result' item' furtherOn opens
                        rcases List.mem_cons.mp
                          (ideal place last carried' result' item' (by omega) opens) with
                          head | member
                        · have samePlace := congrArg Box.position head
                          simp only at samePlace
                          omega
                        · exact member)
                      (by simp) openRest
                    exact ⟨by rw [tail.1], rfl, by rw [tail.2.2]⟩
              · have furtherOn := position_le_of_mem_boxes elsewhere
                simp only at furtherOn
                omega

end Undo

section Deliver

variable {State Error : Type*} (consume : State → Item → Bool → State × Except Error Unit)

/-- Hand the items over one by one until one is refused. -/
def deliver : State → List Item → State × Except Error Unit
  | state, [] => (state, .ok ())
  | state, item :: rest =>
      match consume state item rest.isEmpty with
      | (state, .error error) => (state, .error error)
      | (state, .ok ()) => deliver state rest

variable {consume}

theorem deliver_cons_ok {state reached : State} {item : Item} {rest : List Item}
    (delivered : deliver consume state (item :: rest) = (reached, .ok ())) :
    ∃ next, consume state item rest.isEmpty = (next, .ok ()) ∧
      deliver consume next rest = (reached, .ok ()) := by
  rw [deliver] at delivered
  rcases taken : consume state item rest.isEmpty with ⟨next, error | done⟩
  · simp [taken] at delivered
  · rw [taken] at delivered
    exact ⟨next, rfl, delivered⟩

theorem deliver_cons {state next : State} {item : Item} {rest : List Item}
    (taken : consume state item rest.isEmpty = (next, .ok ())) :
    deliver consume state (item :: rest) = deliver consume next rest := by
  rw [deliver, taken]

end Deliver

end SegmentChain
