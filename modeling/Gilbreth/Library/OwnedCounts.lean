import Gilbreth.Library.KeyedTable

/-!
# Counters beside the rows they count

A table of owners keeps in every row how many rows of a second table name it. The
counters stay right while each insert is counted, and through a delete exactly when every
item deleted goes together with its owner.
-/

set_option autoImplicit false

namespace Table

variable {Owner Item Key ItemKey : Type*} {ownerKey : Owner → Key} {itemKey : Item → ItemKey}
  [DecidableEq Key]

def owned (owner : Item → Key) (items : Table itemKey) (wanted : Key) : Nat :=
  items.countWhere fun item => owner item == wanted

/-- Every counter is the number of the items of its row. -/
def Counted (owner : Item → Key) (counter : Owner → Nat) (owners : Table ownerKey)
    (items : Table itemKey) : Prop :=
  ∀ row ∈ owners.rows, counter row = items.owned owner (ownerKey row)

variable {owner : Item → Key} {counter : Owner → Nat} {owners : Table ownerKey}
  {items : Table itemKey}

theorem owned_append {after : Table itemKey} {item : Item}
    (rows : after.rows = items.rows ++ [item]) (wanted : Key) :
    after.owned owner wanted = items.owned owner wanted + if owner item = wanted then 1 else 0 := by
  simp only [owned, countWhere, rows, List.countP_append, List.countP_singleton, beq_iff_eq]

theorem owned_none {wanted : Key} (unnamed : ∀ item ∈ items.rows, owner item ≠ wanted) :
    items.owned owner wanted = 0 := by
  apply count_where_none
  intro item member
  exact beq_false_of_ne (unnamed item member)

theorem Counted.insert (counted : Counted owner counter owners items) {after : Table itemKey}
    {item : Item} (rows : after.rows = items.rows ++ [item]) {bump : Owner → Owner}
    {keeps : ∀ row, ownerKey (bump row) = ownerKey row}
    (counts : ∀ row, counter (bump row) = counter row + 1) :
    Counted owner counter
      (owners.updateWhere (fun row => ownerKey row == owner item) bump keeps) after := by
  intro later member
  have ⟨row, found, same⟩ := List.mem_map.mp member
  have before := counted row found
  rw [← same, owned_append rows]
  split_ifs with own named named
  · rw [counts, keeps, before]
  · rw [keeps] at named
    exact absurd (eq_of_beq own).symm named
  · exact absurd (beq_iff_eq.mpr named.symm) own
  · rw [before, Nat.add_zero]

/-- Owners that changed otherwise, and new ones, which no item names and which count none. -/
theorem Counted.evolved (counted : Counted owner counter owners items)
    (named : ∀ item ∈ items.rows, owner item ∈ owners.rows.map ownerKey)
    {changes : Owner → Owner → Prop} {born : Owner → Prop} {after : Table ownerKey}
    (evolved : Evolved changes born owners after)
    (keeps : ∀ row later, changes row later → counter later = counter row)
    (starts : ∀ later, born later → counter later = 0) :
    Counted owner counter after items := by
  intro later member
  by_cases known : ownerKey later ∈ owners.rows.map ownerKey
  · have ⟨row, found, same⟩ := List.mem_map.mp known
    have ⟨successor, present, equal, changed⟩ := evolved.kept row found
    have only : successor = later := after.eq_of_key present member (equal.trans same)
    rw [← only, keeps row successor changed, counted row found, equal]
  · have unnamed : ∀ item ∈ items.rows, owner item ≠ ownerKey later := by
      intro item listed same
      exact known (same ▸ named item listed)
    rw [starts later ((evolved.fresh later member).resolve_left known), owned_none unnamed]

/-- A delete leaves the number of an owner's items exactly when it spares them all. -/
theorem owned_delete_iff (gone : Item → Bool) (wanted : Key) :
    (items.deleteWhere gone).owned owner wanted = items.owned owner wanted ↔
      ∀ item ∈ items.rows, gone item = true → owner item ≠ wanted := by
  have swapped :
      ((items.rows.filter fun item => !gone item).filter fun item => owner item == wanted) =
        (items.rows.filter fun item => owner item == wanted).filter fun item => !gone item := by
    rw [List.filter_filter, List.filter_filter]
    simp only [Bool.and_comm]
  rw [owned, owned, count_where_eq, count_where_eq, deleteWhere, swapped,
    List.length_filter_eq_length_iff]
  constructor
  · intro spared item listed matched own
    have kept := spared item (List.mem_filter.mpr ⟨listed, beq_iff_eq.mpr own⟩)
    rw [matched] at kept
    cases kept
  · intro spared item own
    rcases List.mem_filter.mp own with ⟨listed, same⟩
    rw [Bool.not_eq_true', Bool.eq_false_iff]
    intro matched
    exact spared item listed matched (eq_of_beq same)

/-- A delete on both tables keeps the counters exactly when every item that goes takes its
owner with it. -/
theorem Counted.delete_iff (counted : Counted owner counter owners items)
    (goneOwner : Owner → Bool) (goneItem : Item → Bool) :
    Counted owner counter (owners.deleteWhere goneOwner) (items.deleteWhere goneItem) ↔
      ∀ item ∈ items.rows, goneItem item = true →
        ∀ row ∈ owners.rows, ownerKey row = owner item → goneOwner row = true := by
  constructor
  · intro exactly item listed gone row present own
    by_contra spared
    have left : row ∈ (owners.deleteWhere goneOwner).rows :=
      mem_delete_where.mpr ⟨present, Bool.eq_false_iff.mpr spared⟩
    have same := (exactly row left).symm.trans (counted row present)
    exact (owned_delete_iff goneItem (ownerKey row)).mp same item listed gone own.symm
  · intro together row left
    have ⟨present, spared⟩ := mem_delete_where.mp left
    rw [counted row present, eq_comm, owned_delete_iff]
    intro item listed gone own
    rw [together item listed gone row present own.symm] at spared
    cases spared

end Table
