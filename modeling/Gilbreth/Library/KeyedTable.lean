import Mathlib.Data.List.Perm.Subperm
import Mathlib.Data.List.Nodup

/-!
# Tables with a key

A table is a list of rows whose keys are pairwise different, as a primary key or
a uniqueness constraint makes them. Rows are deleted all at once or in bounded
batches; the batches together delete exactly the rows that match, whichever of
them a bounded statement happens to pick first.
-/

set_option autoImplicit false

@[ext]
structure Table {Row Key : Type*} (key : Row → Key) where
  rows : List Row
  distinct : (rows.map key).Nodup

namespace Table

variable {Row Key : Type*} {key : Row → Key}

def empty : Table key := ⟨[], List.nodup_nil⟩

theorem rows_nodup (table : Table key) : table.rows.Nodup := table.distinct.of_map key

theorem eq_of_key (table : Table key) {left right : Row} (leftMember : left ∈ table.rows)
    (rightMember : right ∈ table.rows) (same : key left = key right) : left = right :=
  List.inj_on_of_nodup_map table.distinct leftMember rightMember same

def deleteWhere (table : Table key) (matching : Row → Bool) : Table key where
  rows := table.rows.filter fun row => !matching row
  distinct := (table.distinct.sublist (List.filter_sublist.map key))

def countWhere (table : Table key) (matching : Row → Bool) : Nat := table.rows.countP matching

theorem map_key_update {matching : Row → Bool} {change : Row → Row}
    (keeps : ∀ row, key (change row) = key row) (rows : List Row) :
    (rows.map fun row => if matching row then change row else row).map key = rows.map key := by
  rw [List.map_map]
  apply List.map_congr_left
  intro row _
  change key (if matching row then change row else row) = key row
  split_ifs
  · exact keeps row
  · rfl

/-- Rewrite the rows that match, keys untouched. -/
def updateWhere (table : Table key) (matching : Row → Bool) (change : Row → Row)
    (keeps : ∀ row, key (change row) = key row) : Table key where
  rows := table.rows.map fun row => if matching row then change row else row
  distinct := by
    rw [map_key_update keeps]
    exact table.distinct

theorem keys_update_where (table : Table key) (matching : Row → Bool) (change : Row → Row)
    (keeps : ∀ row, key (change row) = key row) :
    (table.updateWhere matching change keeps).rows.map key = table.rows.map key :=
  map_key_update keeps table.rows

theorem update_where_none {table : Table key} {matching : Row → Bool} {change : Row → Row}
    {keeps : ∀ row, key (change row) = key row}
    (spared : ∀ row ∈ table.rows, matching row = false) :
    table.updateWhere matching change keeps = table := by
  apply Table.ext
  change List.map _ table.rows = table.rows
  refine (List.map_congr_left fun row member => ?_).trans (List.map_id table.rows)
  rw [spared row member]
  rfl

theorem mem_delete_where {table : Table key} {matching : Row → Bool} {row : Row} :
    row ∈ (table.deleteWhere matching).rows ↔ row ∈ table.rows ∧ matching row = false := by
  simp [deleteWhere, List.mem_filter]

theorem count_where_eq (table : Table key) (matching : Row → Bool) :
    table.countWhere matching = (table.rows.filter matching).length :=
  List.countP_eq_length_filter

theorem delete_where_congr {table : Table key} {left right : Row → Bool}
    (agree : ∀ row ∈ table.rows, left row = right row) :
    table.deleteWhere left = table.deleteWhere right := by
  apply Table.ext
  exact List.filter_congr fun row member => by rw [agree row member]

/-- What is left has a row with a property exactly when such a row is spared. -/
theorem any_delete_where (table : Table key) (matching property : Row → Bool) :
    (table.deleteWhere matching).rows.any property =
      table.rows.any fun row => property row && !matching row := by
  rw [deleteWhere, List.any_filter]
  simp only [Bool.and_comm]

theorem any_agree {rows : List Row} {left right : Row → Bool}
    (agree : ∀ row ∈ rows, left row = right row) : rows.any left = rows.any right := by
  induction rows with
  | nil => rfl
  | cons head tail induction =>
      rw [List.any_cons, List.any_cons, agree head List.mem_cons_self,
        induction fun row member => agree row (List.mem_cons_of_mem head member)]

theorem mem_keys_where (table : Table key) (matching : Row → Bool) {row : Row}
    (member : row ∈ table.rows) :
    key row ∈ (table.rows.filter matching).map key ↔ matching row = true := by
  rw [List.mem_map]
  constructor
  · rintro ⟨other, found, same⟩
    rw [List.mem_filter] at found
    rw [← table.eq_of_key found.1 member same]
    exact found.2
  · intro fits
    exact ⟨row, List.mem_filter.mpr ⟨member, fits⟩, rfl⟩

theorem delete_where_none {table : Table key} {matching : Row → Bool}
    (spared : ∀ row ∈ table.rows, matching row = false) : table.deleteWhere matching = table := by
  apply Table.ext
  rw [deleteWhere, List.filter_eq_self]
  intro row member
  rw [spared row member]
  rfl

theorem count_where_none {table : Table key} {matching : Row → Bool}
    (spared : ∀ row ∈ table.rows, matching row = false) : table.countWhere matching = 0 := by
  rw [countWhere, List.countP_eq_zero]
  intro row member
  rw [spared row member]
  exact Bool.false_ne_true

section Insert

/-- Add a row at the end under a key no row has. -/
def append (table : Table key) (row : Row) (fresh : key row ∉ table.rows.map key) : Table key where
  rows := table.rows ++ [row]
  distinct := by
    rw [List.map_append, List.nodup_append]
    refine ⟨table.distinct, List.nodup_singleton _, ?_⟩
    intro taken member other single same
    rw [List.map_cons, List.map_nil, List.mem_singleton] at single
    exact fresh (single ▸ same ▸ member)

variable [DecidableEq Key]

def insert? (table : Table key) (row : Row) : Option (Table key) :=
  if fresh : key row ∈ table.rows.map key then none else some (table.append row fresh)

theorem insert_some_rows {table after : Table key} {row : Row}
    (inserted : table.insert? row = some after) : after.rows = table.rows ++ [row] := by
  unfold insert? at inserted
  split_ifs at inserted
  rw [← Option.some.inj inserted]
  rfl

end Insert

section Lookup

variable [DecidableEq Key]

def lookup (table : Table key) (wanted : Key) : Option Row :=
  table.rows.find? fun row => key row == wanted

theorem lookup_update_where (table : Table key) (changed wanted : Key) (change : Row → Row)
    (keeps : ∀ row, key (change row) = key row) :
    (table.updateWhere (fun row => key row == changed) change keeps).lookup wanted =
      if wanted = changed then (table.lookup wanted).map change else table.lookup wanted := by
  unfold lookup updateWhere
  dsimp only
  induction table.rows with
  | nil => simp
  | cons head tail induction =>
      by_cases touched : key head = changed
      · simp only [List.map_cons, List.find?_cons, touched, BEq.rfl, if_true, keeps, induction]
        by_cases same : wanted = changed
        · simp [same]
        · have other : (changed == wanted) = false := beq_false_of_ne (Ne.symm same)
          simp [same, other]
      · have untouched : (key head == changed) = false := beq_false_of_ne touched
        simp only [List.map_cons, List.find?_cons, untouched, if_false, Bool.false_eq_true,
          induction]
        by_cases same : wanted = changed
        · simp [same, untouched]
        · simp only [same, if_false]

theorem lookup_append (table : Table key) (row : Row) (fresh : key row ∉ table.rows.map key)
    (wanted : Key) :
    (table.append row fresh).lookup wanted =
      (table.lookup wanted).or (if key row == wanted then some row else none) := by
  unfold lookup append
  rw [List.find?_append, List.find?_singleton]

theorem lookup_none {table : Table key} {wanted : Key}
    (absent : wanted ∉ table.rows.map key) : table.lookup wanted = none := by
  unfold lookup
  rw [List.find?_eq_none]
  intro row member same
  exact absent (List.mem_map.mpr ⟨row, member, eq_of_beq same⟩)

theorem lookup_isSome {table : Table key} {wanted : Key}
    (present : wanted ∈ table.rows.map key) : (table.lookup wanted).isSome := by
  obtain ⟨row, member, rfl⟩ := List.mem_map.mp present
  unfold lookup
  rw [List.find?_isSome]
  exact ⟨row, member, BEq.rfl⟩

end Lookup

section Evolution

/-- Every row is still there under its key, changed as the relation allows, and
every other row was born. -/
structure Evolved (changes : Row → Row → Prop) (born : Row → Prop) (before after : Table key) :
    Prop where
  kept : ∀ row ∈ before.rows, ∃ later ∈ after.rows, key later = key row ∧ changes row later
  fresh : ∀ later ∈ after.rows, key later ∈ before.rows.map key ∨ born later

variable {changes : Row → Row → Prop} {born : Row → Prop}

theorem Evolved.refl (same : ∀ row, changes row row) (table : Table key) :
    Evolved changes born table table where
  kept row member := ⟨row, member, rfl, same row⟩
  fresh _ member := Or.inl (List.mem_map_of_mem member)

theorem Evolved.trans (chain : ∀ {first second third}, changes first second →
      changes second third → changes first third)
    (grows : ∀ {row later}, born row → changes row later → born later)
    {first second third : Table key} (left : Evolved changes born first second)
    (right : Evolved changes born second third) : Evolved changes born first third where
  kept row member := by
    obtain ⟨between, found, same, changed⟩ := left.kept row member
    obtain ⟨later, present, equal, again⟩ := right.kept between found
    exact ⟨later, present, equal.trans same, chain changed again⟩
  fresh later member := by
    rcases right.fresh later member with known | new
    · obtain ⟨between, found, same⟩ := List.mem_map.mp known
      obtain ⟨successor, present, equal, changed⟩ := right.kept between found
      obtain rfl := third.eq_of_key present member (equal.trans same)
      rcases left.fresh between found with older | new
      · exact Or.inl (same ▸ older)
      · exact Or.inr (grows new changed)
    · exact Or.inr new

theorem Evolved.update_where (same : ∀ row, changes row row) (table : Table key)
    (matching : Row → Bool) (change : Row → Row) (keeps : ∀ row, key (change row) = key row)
    (allowed : ∀ row ∈ table.rows, matching row = true → changes row (change row)) :
    Evolved changes born table (table.updateWhere matching change keeps) where
  kept row member := by
    refine ⟨_, List.mem_map.mpr ⟨row, member, rfl⟩, ?_, ?_⟩
    · split_ifs
      · exact keeps row
      · rfl
    · split_ifs with matched
      · exact allowed row member matched
      · exact same row
  fresh later member := by
    left
    rw [← keys_update_where table matching change keeps]
    exact List.mem_map_of_mem member

theorem Evolved.append (same : ∀ row, changes row row) (table : Table key) (row : Row)
    (fresh : key row ∉ table.rows.map key) (new : born row) :
    Evolved changes born table (table.append row fresh) where
  kept old member := ⟨old, List.mem_append_left _ member, rfl, same old⟩
  fresh later member := by
    rcases List.mem_append.mp member with old | added
    · exact Or.inl (List.mem_map_of_mem old)
    · exact Or.inr (List.mem_singleton.mp added ▸ new)

end Evolution

section Identifiers

/-- The identifier a database gives to a new row: above the high-water mark it
remembers and above every identifier in use. -/
def nextId (sequence : Int) (ids : List Int) : Int := ids.foldr max (max sequence 0) + 1

theorem lt_next_id {sequence id : Int} {ids : List Int} (used : id ∈ ids) :
    id < nextId sequence ids := by
  unfold nextId
  induction ids with
  | nil => exact absurd used List.not_mem_nil
  | cons head tail induction =>
      rw [List.foldr_cons]
      rcases List.mem_cons.mp used with rfl | later
      · omega
      · have below := induction later
        omega

theorem next_id_fresh (sequence : Int) (ids : List Int) : nextId sequence ids ∉ ids := by
  intro used
  exact Int.lt_irrefl _ (lt_next_id used)

end Identifiers

section Batches

variable {matching : Row → Bool} {limit : Nat}

/-- How a statement bounded by `limit` picks rows: some of those that match, as
many as the limit allows, in no particular order. -/
structure Scan (matching : Row → Bool) (limit : Nat) where
  pick : List Row → List Row
  subperm : ∀ rows, (pick rows).Subperm (rows.filter matching)
  length_pick : ∀ rows, (pick rows).length = min limit (rows.countP matching)

def Scan.first (matching : Row → Bool) (limit : Nat) : Scan matching limit where
  pick rows := (rows.filter matching).take limit
  subperm rows := (List.take_sublist _ _).subperm
  length_pick rows := by rw [List.length_take, ← List.countP_eq_length_filter]

def without [DecidableEq Key] (table : Table key) (batch : List Row) : Table key :=
  table.deleteWhere fun row => decide (key row ∈ batch.map key)

variable (scan : Scan matching limit)

theorem mem_of_mem_pick {rows : List Row} {row : Row} (picked : row ∈ scan.pick rows) :
    row ∈ rows ∧ matching row = true :=
  List.mem_filter.mp ((scan.subperm rows).subset picked)

theorem pick_nodup (table : Table key) : (scan.pick table.rows).Nodup := by
  obtain ⟨ordered, perm, sublist⟩ := scan.subperm table.rows
  exact perm.nodup_iff.mp ((table.rows_nodup.filter matching).sublist sublist)

theorem short_pick_perm (table : Table key) (short : (scan.pick table.rows).length < limit) :
    (scan.pick table.rows).Perm (table.rows.filter matching) := by
  apply (scan.subperm table.rows).perm_of_length_le
  have length := scan.length_pick table.rows
  rw [← List.countP_eq_length_filter]
  omega

variable [DecidableEq Key]

theorem mem_without_pick {table : Table key} {row : Row} :
    row ∈ (table.without (scan.pick table.rows)).rows ↔
      row ∈ table.rows ∧ row ∉ scan.pick table.rows := by
  rw [without, mem_delete_where, decide_eq_false_iff_not, List.mem_map]
  constructor
  · rintro ⟨member, unpicked⟩
    exact ⟨member, fun picked => unpicked ⟨row, picked, rfl⟩⟩
  · rintro ⟨member, unpicked⟩
    refine ⟨member, ?_⟩
    rintro ⟨other, picked, same⟩
    rw [table.eq_of_key (mem_of_mem_pick scan picked).1 member same] at picked
    exact unpicked picked

theorem pick_without_perm (table : Table key) :
    (scan.pick table.rows ++ (table.without (scan.pick table.rows)).rows).Perm table.rows := by
  have disjoint : (scan.pick table.rows).Disjoint
      (table.without (scan.pick table.rows)).rows := by
    intro row picked kept
    exact ((mem_without_pick scan).mp kept).2 picked
  have nodup := (pick_nodup scan table).append (rows_nodup _) disjoint
  apply (List.perm_ext_iff_of_nodup nodup table.rows_nodup).mpr
  intro row
  rw [List.mem_append, mem_without_pick]
  constructor
  · rintro (picked | ⟨member, _⟩)
    · exact (mem_of_mem_pick scan picked).1
    · exact member
  · intro member
    by_cases picked : row ∈ scan.pick table.rows
    · exact Or.inl picked
    · exact Or.inr ⟨member, picked⟩

theorem pick_append_perm (table : Table key) :
    (scan.pick table.rows ++
      (table.without (scan.pick table.rows)).rows.filter matching).Perm
      (table.rows.filter matching) := by
  have left_nodup : ((table.without (scan.pick table.rows)).rows.filter matching).Nodup :=
    (rows_nodup _).filter matching
  have disjoint : (scan.pick table.rows).Disjoint
      ((table.without (scan.pick table.rows)).rows.filter matching) := by
    intro row picked kept
    exact ((mem_without_pick scan).mp (List.mem_filter.mp kept).1).2 picked
  have nodup := (pick_nodup scan table).append left_nodup disjoint
  apply (List.perm_ext_iff_of_nodup nodup (table.rows_nodup.filter matching)).mpr
  intro row
  rw [List.mem_append, List.mem_filter, List.mem_filter, mem_without_pick]
  constructor
  · rintro (picked | ⟨⟨member, _⟩, fits⟩)
    · exact mem_of_mem_pick scan picked
    · exact ⟨member, fits⟩
  · rintro ⟨member, fits⟩
    by_cases picked : row ∈ scan.pick table.rows
    · exact Or.inl picked
    · exact Or.inr ⟨⟨member, picked⟩, fits⟩

theorem delete_where_without_pick (table : Table key) :
    (table.without (scan.pick table.rows)).deleteWhere matching = table.deleteWhere matching := by
  apply Table.ext
  change List.filter _ (List.filter _ table.rows) = List.filter _ table.rows
  rw [List.filter_filter]
  apply List.filter_congr
  intro row member
  cases fits : matching row with
  | true => rfl
  | false =>
      have unpicked : key row ∉ (scan.pick table.rows).map key := by
        rintro picked
        obtain ⟨other, found, same⟩ := List.mem_map.mp picked
        obtain rfl := table.eq_of_key (mem_of_mem_pick scan found).1 member same
        rw [(mem_of_mem_pick scan found).2] at fits
        exact absurd fits Bool.noConfusion
      simp only [decide_eq_false unpicked, Bool.not_false, Bool.and_self]

theorem without_short_pick (table : Table key)
    (short : (scan.pick table.rows).length < limit) :
    table.without (scan.pick table.rows) = table.deleteWhere matching := by
  rw [← delete_where_without_pick scan]
  apply Table.ext
  rw [deleteWhere, eq_comm, List.filter_eq_self]
  intro row kept
  obtain ⟨member, unpicked⟩ := (mem_without_pick scan).mp kept
  by_contra fits
  apply unpicked
  rw [(short_pick_perm scan table short).mem_iff, List.mem_filter]
  exact ⟨member, by simpa using fits⟩

theorem without_full_pick_shorter (table : Table key) (positive : 0 < limit)
    (full : ¬(scan.pick table.rows).length < limit) :
    (table.without (scan.pick table.rows)).rows.length < table.rows.length := by
  obtain ⟨row, picked⟩ := List.exists_mem_of_length_pos (show 0 < (scan.pick table.rows).length by
    omega)
  apply List.length_filter_lt_length_iff_exists.mpr
  refine ⟨row, (mem_of_mem_pick scan picked).1, ?_⟩
  simp only [Bool.not_eq_true', decide_eq_false_iff_not, not_not]
  exact List.mem_map_of_mem picked

/-- Delete batch after batch until one falls short of the limit. Returns the
rows deleted, in the order of their batches, and the table left. -/
def deleteBatched (positive : 0 < limit) (table : Table key) : List Row × Table key :=
  if _full : (scan.pick table.rows).length < limit then
    (scan.pick table.rows, table.without (scan.pick table.rows))
  else
    (scan.pick table.rows ++ (deleteBatched positive (table.without (scan.pick table.rows))).1,
      (deleteBatched positive (table.without (scan.pick table.rows))).2)
termination_by table.rows.length
decreasing_by exact without_full_pick_shorter scan table positive _full

theorem delete_batched_eq (positive : 0 < limit) (table : Table key) :
    (deleteBatched scan positive table).1.Perm (table.rows.filter matching) ∧
      (deleteBatched scan positive table).2 = table.deleteWhere matching := by
  induction size : table.rows.length using Nat.strongRecOn generalizing table with
  | _ size induction =>
      rw [deleteBatched]
      split_ifs with short
      · exact ⟨short_pick_perm scan table short, without_short_pick scan table short⟩
      · have smaller := without_full_pick_shorter scan table positive short
        obtain ⟨deleted, left⟩ := induction _ (size ▸ smaller) _ rfl
        dsimp only
        refine ⟨?_, left.trans (delete_where_without_pick scan table)⟩
        exact (deleted.append_left _).trans (pick_append_perm scan table)

theorem delete_batched_none (positive : 0 < limit) {table : Table key}
    (spared : ∀ row ∈ table.rows, matching row = false) :
    deleteBatched scan positive table = ([], table) := by
  have effect := delete_batched_eq scan positive table
  have none : table.rows.filter matching = [] :=
    List.filter_eq_nil_iff.mpr fun row member => Bool.eq_false_iff.mp (spared row member)
  rw [none, delete_where_none spared] at effect
  exact Prod.ext effect.1.eq_nil effect.2

theorem length_delete_batched (positive : 0 < limit) (table : Table key) :
    (deleteBatched scan positive table).1.length = table.countWhere matching := by
  rw [(delete_batched_eq scan positive table).1.length_eq, count_where_eq]

end Batches

end Table
