import Gilbreth.Library.KeyedTable
import Mathlib.Data.List.Count
import Mathlib.Data.List.Forall2

/-!
# Updating a table batch by batch

A statement rewrites at most so many of the rows that match, again and again until
a batch falls short. Where a rewritten row no longer matches, the batches end and
amount to one unbounded update; where enough rows keep matching they never end.
-/

set_option autoImplicit false

namespace Table

variable {Row Key : Type*} {key : Row → Key} [DecidableEq Key] {matching : Row → Bool}
  {limit : Nat}

/-- Rewrite given rows, named by their keys. -/
def updateRows (table : Table key) (batch : List Row) (change : Row → Row)
    (keeps : ∀ row, key (change row) = key row) : Table key :=
  table.updateWhere (fun row => decide (key row ∈ batch.map key)) change keeps

variable (scan : Scan matching limit) (change : Row → Row)
  (keeps : ∀ row, key (change row) = key row)

/-- Update batch after batch until one falls short of the limit, for at most so many
batches. Returns the table left and how many rows the batches rewrote. -/
def updateBatched : Nat → Table key → Option (Table key × Nat)
  | 0, _ => none
  | fuel + 1, table =>
      let picked := scan.pick table.rows
      if picked.length < limit then some (table.updateRows picked change keeps, picked.length)
      else (updateBatched fuel (table.updateRows picked change keeps)).map fun ended =>
        (ended.1, picked.length + ended.2)

omit [DecidableEq Key] in
theorem key_picked_iff {table : Table key} {row : Row} (member : row ∈ table.rows) :
    key row ∈ (scan.pick table.rows).map key ↔ row ∈ scan.pick table.rows := by
  rw [List.mem_map]
  constructor
  · rintro ⟨other, picked, same⟩
    rwa [← table.eq_of_key (mem_of_mem_pick scan picked).1 member same]
  · intro picked
    exact ⟨row, picked, rfl⟩

theorem update_batched_agree {fuel other : Nat} {table : Table key} {left right : Table key × Nat}
    (ended : updateBatched scan change keeps fuel table = some left)
    (again : updateBatched scan change keeps other table = some right) : left = right := by
  induction fuel generalizing other table left right with
  | zero => cases ended
  | succ fuel induction =>
      cases other with
      | zero => cases again
      | succ other =>
          rw [updateBatched] at ended again
          split_ifs at ended again with short
          · cases ended
            cases again
            rfl
          · rcases Option.map_eq_some_iff.mp ended with ⟨first, one, rfl⟩
            rcases Option.map_eq_some_iff.mp again with ⟨second, two, rfl⟩
            rw [induction one two]

section Correspondence

/-- A relation between the rows there were and the rows as they are, kept by the
rewriting of a matching row, is kept by the batches. -/
theorem update_batched_related (related : Row → Row → Prop) {before : List Row}
    (step : ∀ row current, related row current → matching current = true →
      related row (change current)) {fuel : Nat} {table left : Table key} {count : Nat}
    (start : List.Forall₂ related before table.rows)
    (ended : updateBatched scan change keeps fuel table = some (left, count)) :
    List.Forall₂ related before left.rows := by
  induction fuel generalizing table left count with
  | zero => cases ended
  | succ fuel induction =>
      have one : List.Forall₂ related before
          (table.updateRows (scan.pick table.rows) change keeps).rows := by
        change List.Forall₂ related before (table.rows.map _)
        rw [List.forall₂_map_right_iff]
        have listed := ((List.forall₂_and_left _ _).mpr
          ⟨fun current (member : current ∈ table.rows) => member, start.flip⟩).flip
        refine listed.imp ?_
        rintro row current ⟨member, held⟩
        dsimp only
        split_ifs with picked
        · have chosen := (key_picked_iff scan member).mp (of_decide_eq_true picked)
          exact step row current held (mem_of_mem_pick scan chosen).2
        · exact held
      rw [updateBatched] at ended
      split_ifs at ended with short
      · cases ended
        exact one
      · rcases Option.map_eq_some_iff.mp ended with ⟨⟨further, rest⟩, later, same⟩
        cases same
        exact induction one later

end Correspondence

section Settling

omit [DecidableEq Key] in
theorem count_update_where (table : Table key) (chosen : Row → Bool) (property : Row → Bool) :
    (table.updateWhere chosen change keeps).countWhere property =
      table.countWhere fun row => property (if chosen row then change row else row) := by
  rw [countWhere, countWhere, updateWhere, List.countP_map]
  rfl

theorem count_update_rows {table : Table key}
    (settles : ∀ row ∈ table.rows, matching row = true → matching (change row) = false) :
    (scan.pick table.rows).length +
        (table.updateRows (scan.pick table.rows) change keeps).countWhere matching =
      table.countWhere matching := by
  have split := (pick_append_perm scan table).length_eq
  rw [List.length_append, ← List.countP_eq_length_filter, ← List.countP_eq_length_filter] at split
  rw [updateRows, count_update_where]
  refine Eq.trans ?_ split
  congr 1
  rw [countWhere, without, deleteWhere, List.countP_filter]
  apply List.countP_congr
  intro row member
  by_cases picked : key row ∈ (scan.pick table.rows).map key
  · have chosen := (key_picked_iff scan member).mp picked
    simp only [picked, decide_true, if_true, Bool.not_true, Bool.and_false,
      settles row member (mem_of_mem_pick scan chosen).2]
  · simp only [picked, decide_false, Bool.false_eq_true, if_false, Bool.not_false, Bool.and_true]

theorem update_rows_update_where {table : Table key}
    (settles : ∀ row ∈ table.rows, matching row = true → matching (change row) = false) :
    (table.updateRows (scan.pick table.rows) change keeps).updateWhere matching change keeps =
      table.updateWhere matching change keeps := by
  apply Table.ext
  change List.map _ (List.map _ table.rows) = List.map _ table.rows
  rw [List.map_map]
  apply List.map_congr_left
  intro row member
  dsimp only [Function.comp_apply]
  by_cases picked : key row ∈ (scan.pick table.rows).map key
  · have chosen := mem_of_mem_pick scan ((key_picked_iff scan member).mp picked)
    simp only [picked, decide_true, if_true, chosen.2, settles row member chosen.2,
      Bool.false_eq_true, if_false]
  · simp only [picked, decide_false, Bool.false_eq_true, if_false]

theorem update_rows_settles {table : Table key}
    (settles : ∀ row ∈ table.rows, matching row = true → matching (change row) = false) :
    ∀ row ∈ (table.updateRows (scan.pick table.rows) change keeps).rows,
      matching row = true → matching (change row) = false := by
  intro later member matched
  rcases List.mem_map.mp member with ⟨row, listed, rfl⟩
  dsimp only at matched ⊢
  split_ifs at matched ⊢ with picked
  · have chosen := (key_picked_iff scan listed).mp (of_decide_eq_true picked)
    rw [settles row listed (mem_of_mem_pick scan chosen).2] at matched
    cases matched
  · exact settles row listed matched

theorem update_rows_short {table : Table key} (short : (scan.pick table.rows).length < limit) :
    table.updateRows (scan.pick table.rows) change keeps =
      table.updateWhere matching change keeps := by
  apply Table.ext
  apply List.map_congr_left
  intro row member
  have same : decide (key row ∈ (scan.pick table.rows).map key) = matching row := by
    rw [Bool.eq_iff_iff, decide_eq_true_iff, key_picked_iff scan member,
      (short_pick_perm scan table short).mem_iff, List.mem_filter, and_iff_right member]
  simp only [same]

theorem update_batched_short {table : Table key} (fuel : Nat)
    (short : (scan.pick table.rows).length < limit) :
    updateBatched scan change keeps (fuel + 1) table =
      some (table.updateWhere matching change keeps, (scan.pick table.rows).length) := by
  rw [updateBatched, if_pos short, update_rows_short scan change keeps short]

/-- Where no rewritten row matches again the batches end and amount to one update. -/
theorem update_batched_settles (positive : 0 < limit) {table : Table key}
    (settles : ∀ row ∈ table.rows, matching row = true → matching (change row) = false) :
    ∃ fuel, updateBatched scan change keeps fuel table =
      some (table.updateWhere matching change keeps, table.countWhere matching) := by
  induction size : table.countWhere matching using Nat.strongRecOn generalizing table with
  | _ size induction =>
      have split := count_update_rows scan change keeps settles
      by_cases short : (scan.pick table.rows).length < limit
      · refine ⟨1, ?_⟩
        have all := (short_pick_perm scan table short).length_eq
        rw [← List.countP_eq_length_filter] at all
        rw [updateBatched]
        rw [if_pos short, update_rows_short scan change keeps short, all, ← size]
        rfl
      · have further := update_rows_settles scan change keeps settles
        rcases induction _ (by omega) further rfl with ⟨fuel, ended⟩
        refine ⟨fuel + 1, ?_⟩
        rw [updateBatched, if_neg short, ended, Option.map_some,
          update_rows_update_where scan change keeps settles, split, size]

end Settling

section Sticking

theorem update_batched_none (positive : 0 < limit) {fuel count : Nat} {table left : Table key}
    (ended : updateBatched scan change keeps fuel table = some (left, count)) :
    count = 0 ↔ table.countWhere matching = 0 := by
  cases fuel with
  | zero => cases ended
  | succ fuel =>
      have length := scan.length_pick table.rows
      rw [countWhere]
      rw [updateBatched] at ended
      split_ifs at ended with short
      · cases ended
        omega
      · rcases Option.map_eq_some_iff.mp ended with ⟨⟨further, rest⟩, later, same⟩
        cases same
        omega

/-- While enough rows match and keep matching, no number of batches is enough. -/
theorem update_batched_never_ends {stuck : Row → Bool} {table : Table key}
    (fits : ∀ row, stuck row = true → matching row = true)
    (keepsStuck : ∀ row, stuck row = true → stuck (change row) = true)
    (many : limit ≤ table.countWhere stuck) (fuel : Nat) :
    updateBatched scan change keeps fuel table = none := by
  induction fuel generalizing table with
  | zero => rfl
  | succ fuel induction =>
      have enough : table.countWhere stuck ≤ table.countWhere matching :=
        List.countP_mono_left fun row _ => fits row
      have full : ¬(scan.pick table.rows).length < limit := by
        rw [scan.length_pick, ← countWhere]
        omega
      have still : table.countWhere stuck ≤
          (table.updateRows (scan.pick table.rows) change keeps).countWhere stuck := by
        rw [updateRows, count_update_where]
        apply List.countP_mono_left
        intro row _ held
        split_ifs
        · exact keepsStuck row held
        · exact held
      rw [updateBatched]
      rw [if_neg full, induction (Nat.le_trans many still)]
      rfl

/-- Where rewriting twice is rewriting once, batches that leave nothing matching have
settled every row. -/
theorem settles_of_update_batched {fuel count : Nat} {table left : Table key}
    (twice : ∀ row ∈ table.rows, matching row = true → change (change row) = change row)
    (ended : updateBatched scan change keeps fuel table = some (left, count))
    (done : left.countWhere matching = 0) :
    ∀ row ∈ table.rows, matching row = true → matching (change row) = false := by
  let once := fun row current => row ∈ table.rows ∧
    (current = row ∨ matching row = true ∧ current = change row)
  have step : ∀ row current, once row current → matching current = true →
      once row (change current) := by
    rintro row current ⟨member, rfl | ⟨first, rfl⟩⟩ matched
    · exact ⟨member, Or.inr ⟨matched, rfl⟩⟩
    · exact ⟨member, Or.inr ⟨first, twice row member first⟩⟩
  have related := update_batched_related scan change keeps once step
    (List.forall₂_same.mpr fun row member => ⟨member, Or.inl rfl⟩) ended
  intro row member matched
  by_contra again
  rcases List.mem_iff_getElem.mp member with ⟨index, small, rfl⟩
  have length := related.length_eq
  have held := (List.forall₂_iff_get.mp related).2 index small (length ▸ small)
  have unmatched := List.countP_eq_zero.mp done _ (List.get_mem left.rows ⟨index, length ▸ small⟩)
  rcases held.2 with same | ⟨_, same⟩
  · exact unmatched (same.symm ▸ matched)
  · exact unmatched (same.symm ▸ (Bool.not_eq_false _ ▸ again))

/-- One batch that takes every matching row settles them all or leaves some matching. -/
theorem settles_of_one_batch {fuel count : Nat} {table left : Table key}
    (few : table.countWhere matching < limit)
    (ended : updateBatched scan change keeps fuel table = some (left, count))
    (done : left.countWhere matching = 0) :
    ∀ row ∈ table.rows, matching row = true → matching (change row) = false := by
  have short : (scan.pick table.rows).length < limit := by
    rw [scan.length_pick, ← countWhere]
    omega
  cases fuel with
  | zero => cases ended
  | succ fuel =>
      rw [updateBatched] at ended
      rw [if_pos short, update_rows_short scan change keeps short] at ended
      cases ended
      rw [count_update_where] at done
      intro row member matched
      have unmatched := List.countP_eq_zero.mp done row member
      rw [if_pos matched] at unmatched
      exact Bool.eq_false_iff.mpr unmatched

end Sticking

section Idempotent

/-- Rewriting a picked row a second time changes nothing. -/
def RewrittenOnce (change : Row → Row) (matching : Row → Bool) (rows : List Row) : Prop :=
  ∀ row ∈ rows, matching row = true → change (change row) = change row

theorem rewritten_once_update_rows {table : Table key}
    (once : RewrittenOnce change matching table.rows) :
    RewrittenOnce change matching (table.updateRows (scan.pick table.rows) change keeps).rows := by
  intro later member matched
  rcases List.mem_map.mp member with ⟨row, listed, rfl⟩
  dsimp only at matched ⊢
  split_ifs at matched ⊢ with picked
  · have chosen := mem_of_mem_pick scan ((key_picked_iff scan listed).mp (of_decide_eq_true picked))
    rw [once row listed chosen.2, once row listed chosen.2]
  · exact once row listed matched

/-- Batches that end have rewritten every matching row once and nothing else. -/
theorem update_batched_once {fuel count : Nat} {table left : Table key}
    (once : RewrittenOnce change matching table.rows)
    (ended : updateBatched scan change keeps fuel table = some (left, count)) :
    left = table.updateWhere matching change keeps := by
  induction fuel generalizing table left count with
  | zero => cases ended
  | succ fuel induction =>
      rw [updateBatched] at ended
      split_ifs at ended with short
      · cases ended
        exact update_rows_short scan change keeps short
      · rcases Option.map_eq_some_iff.mp ended with ⟨⟨further, rest⟩, later, same⟩
        cases same
        rw [induction (rewritten_once_update_rows scan change keeps once) later]
        apply Table.ext
        change List.map _ (List.map _ table.rows) = List.map _ table.rows
        rw [List.map_map]
        apply List.map_congr_left
        intro row member
        dsimp only [Function.comp_apply]
        by_cases picked : key row ∈ (scan.pick table.rows).map key
        · have chosen := mem_of_mem_pick scan ((key_picked_iff scan member).mp picked)
          simp only [picked, decide_true, if_true, chosen.2, once row member chosen.2, ite_self]
        · simp only [picked, decide_false, Bool.false_eq_true, if_false]

theorem update_batched_left_few {fuel count : Nat} {table left : Table key}
    (ended : updateBatched scan change keeps fuel table = some (left, count)) :
    left.countWhere matching < limit := by
  induction fuel generalizing table left count with
  | zero => cases ended
  | succ fuel induction =>
      rw [updateBatched] at ended
      split_ifs at ended with short
      · cases ended
        have taken := (short_pick_perm scan table short).length_eq
        rw [← List.countP_eq_length_filter] at taken
        apply Nat.lt_of_le_of_lt _ short
        rw [update_rows_short scan change keeps short, count_update_where, taken]
        apply List.countP_mono_left
        intro row _ matched
        by_contra unmatched
        rw [if_neg unmatched] at matched
        exact unmatched matched
      · rcases Option.map_eq_some_iff.mp ended with ⟨⟨further, rest⟩, later, same⟩
        cases same
        exact induction later

/-- Rows that match until they are rewritten. -/
def settling (change : Row → Row) (matching : Row → Bool) (row : Row) : Bool :=
  matching row && !matching (change row)

theorem settling_decreases {table : Table key}
    (once : RewrittenOnce change matching table.rows)
    (few : table.countWhere (fun row => matching row && matching (change row)) < limit)
    (full : ¬(scan.pick table.rows).length < limit) :
    (table.updateRows (scan.pick table.rows) change keeps).countWhere (settling change matching) <
      table.countWhere (settling change matching) := by
  have settled : ∃ row ∈ scan.pick table.rows, matching (change row) = false := by
    by_contra none
    have inside : (scan.pick table.rows).Subperm
        (table.rows.filter fun row => matching row && matching (change row)) := by
      apply (List.subperm_of_subset (pick_nodup scan table))
      intro row picked
      have chosen := mem_of_mem_pick scan picked
      rw [List.mem_filter, Bool.and_eq_true]
      refine ⟨chosen.1, chosen.2, ?_⟩
      by_contra unmatched
      exact none ⟨row, picked, by simpa using unmatched⟩
    have size := inside.length_le
    rw [← List.countP_eq_length_filter] at size
    rw [countWhere] at few
    omega
  rcases settled with ⟨settled, taken, unmatched⟩
  have own := mem_of_mem_pick scan taken
  rw [updateRows, count_update_where, countWhere, countWhere]
  have rewritten : ∀ row ∈ scan.pick table.rows, settling change matching (change row) = false := by
    intro row picked
    have chosen := mem_of_mem_pick scan picked
    rw [settling, once row chosen.1 chosen.2, Bool.and_not_self]
  have within : ∀ row ∈ table.rows, settling change matching
      (if decide (key row ∈ (scan.pick table.rows).map key) then change row else row) = true →
        settling change matching row = true := by
    intro row member held
    split_ifs at held with picked
    · rw [rewritten row ((key_picked_iff scan member).mp (of_decide_eq_true picked))] at held
      cases held
    · exact held
  have same : table.rows.countP (fun row => settling change matching
      (if decide (key row ∈ (scan.pick table.rows).map key) then change row else row)) =
      (table.rows.filter (settling change matching)).countP fun row => settling change matching
        (if decide (key row ∈ (scan.pick table.rows).map key) then change row else row) := by
    rw [List.countP_filter]
    apply List.countP_congr
    intro row member
    rw [Bool.and_eq_true]
    exact (and_iff_left_of_imp (within row member)).symm
  rw [same, @List.countP_eq_length_filter _ (settling change matching),
    List.countP_lt_length_iff]
  refine ⟨settled, List.mem_filter.mpr ⟨own.1, ?_⟩, ?_⟩
  · rw [settling, own.2, unmatched]
    rfl
  · have picked : key settled ∈ (scan.pick table.rows).map key := List.mem_map_of_mem taken
    rw [if_pos (decide_eq_true picked)]
    exact rewritten settled taken

theorem update_batched_ends {table : Table key}
    (once : RewrittenOnce change matching table.rows)
    (few : table.countWhere (fun row => matching row && matching (change row)) < limit) :
    ∃ fuel, updateBatched scan change keeps fuel table ≠ none := by
  induction size : table.countWhere (settling change matching) using Nat.strongRecOn
    generalizing table with
  | _ size induction =>
      by_cases short : (scan.pick table.rows).length < limit
      · refine ⟨1, ?_⟩
        rw [updateBatched, if_pos short]
        exact Option.some_ne_none _
      · have smaller := settling_decreases scan change keeps once few short
        have further := rewritten_once_update_rows scan change keeps once
        have still : (table.updateRows (scan.pick table.rows) change keeps).countWhere
            (fun row => matching row && matching (change row)) ≤
              table.countWhere fun row => matching row && matching (change row) := by
          rw [updateRows, count_update_where]
          apply List.countP_mono_left
          intro row member held
          split_ifs at held with picked
          · have chosen := mem_of_mem_pick scan
              ((key_picked_iff scan member).mp (of_decide_eq_true picked))
            rw [Bool.and_eq_true] at held ⊢
            exact ⟨chosen.2, held.1⟩
          · exact held
        rcases induction _ (size ▸ smaller) further (Nat.lt_of_le_of_lt still few) rfl with
          ⟨fuel, ended⟩
        refine ⟨fuel + 1, ?_⟩
        rw [updateBatched, if_neg short, Ne, Option.map_eq_none_iff]
        exact ended

end Idempotent

end Table
