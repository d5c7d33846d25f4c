import Mathlib.Data.List.AList

/-!
# Documents of tables with keys

A document maps names to tables or to plain values, and a table maps keys to
values. A setting is addressed by the name of its table and its key; setting one
leaves every other as it was.
-/

set_option autoImplicit false

/-- A value as far as it is read; of anything else the text is kept. -/
inductive TomlValue where
  | bool (value : Bool)
  | integer (value : Int)
  | string (text : String)
  | strings (texts : List String)
  | other (text : String)
deriving DecidableEq

abbrev TomlTable := AList fun _ : String => TomlValue

inductive TomlItem where
  | table (entries : TomlTable)
  | value (value : TomlValue)

structure TomlDocument where
  items : AList fun _ : String => TomlItem

namespace TomlDocument

def empty : TomlDocument := ⟨∅⟩

variable (document : TomlDocument) (table key : String)

/-- The entries under a name, none where there is no table. -/
def entries : TomlTable :=
  match document.items.lookup table with
  | some (.table entries) => entries
  | _ => ∅

def get : Option TomlValue := (document.entries table).lookup key

/-- Set one key; what is not a table gives way to one. -/
def set (value : TomlValue) : TomlDocument :=
  ⟨document.items.insert table (.table ((document.entries table).insert key value))⟩

/-- Set one key where it is missing, and say whether it was. -/
def insertMissing (value : TomlValue) : TomlDocument × Bool :=
  if (document.get table key).isSome then (document, false)
  else (document.set table key value, true)

def holdsTable : Bool :=
  match document.items.lookup table with
  | some (.value _) => false
  | _ => true

variable {document table key}

@[simp] theorem get_empty : empty.get table key = none := rfl

theorem entries_set (value : TomlValue) (other : String) :
    (document.set table key value).entries other =
      if other = table then (document.entries table).insert key value
      else document.entries other := by
  unfold set
  by_cases same : other = table
  · subst same
    rw [if_pos rfl, entries, AList.lookup_insert]
  · rw [if_neg same, entries, AList.lookup_insert_ne same]
    rfl

theorem get_set (value : TomlValue) (otherTable otherKey : String) :
    (document.set table key value).get otherTable otherKey =
      if otherTable = table ∧ otherKey = key then some value
      else document.get otherTable otherKey := by
  rw [get, entries_set]
  by_cases same : otherTable = table
  · subst same
    rw [if_pos rfl]
    by_cases sameKey : otherKey = key
    · subst sameKey
      rw [if_pos ⟨rfl, rfl⟩, AList.lookup_insert]
    · rw [if_neg fun both => sameKey both.2, AList.lookup_insert_ne sameKey]
      rfl
  · rw [if_neg same, if_neg fun both => same both.1]
    rfl

theorem holds_table_set (value : TomlValue) (other : String) :
    (document.set table key value).holdsTable other =
      (decide (other = table) || document.holdsTable other) := by
  unfold set holdsTable
  by_cases same : other = table
  · subst same
    rw [AList.lookup_insert]
    simp
  · rw [AList.lookup_insert_ne same]
    simp [same]

theorem get_insert_missing (value : TomlValue) (otherTable otherKey : String) :
    (document.insertMissing table key value).1.get otherTable otherKey =
      if otherTable = table ∧ otherKey = key then (document.get table key).or (some value)
      else document.get otherTable otherKey := by
  unfold insertMissing
  cases present : document.get table key with
  | some old =>
      simp only [Option.isSome_some, if_true]
      split_ifs with same
      · rw [same.1, same.2, present]
        rfl
      · rfl
  | none =>
      simp only [Option.isSome_none, Bool.false_eq_true, if_false]
      exact get_set value otherTable otherKey

end TomlDocument
