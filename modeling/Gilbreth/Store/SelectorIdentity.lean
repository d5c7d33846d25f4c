import Gilbreth.Library.InstantCode
import Gilbreth.Store.Insert

/-!
# What a selector's hash identifies

The text that is hashed can be read back field by field: the escapes leave no bar and no
line break bare, and what follows a number is never a digit. So two selectors have one
text exactly when they agree up to the case of their class names.
-/

set_option autoImplicit false

namespace Gilbreth.Store

open Gilbreth.Core InstantCode

section Fields

/-- How `push_selector_escaped` writes one character. -/
def selectorEscape (char : Char) : List Char :=
  if char = '\\' then ['\\', '\\']
  else if char = '\n' then ['\\', 'n']
  else if char = '\r' then ['\\', 'r']
  else if char = '|' then ['\\', '|']
  else [char]

theorem selector_escaped_chars (value : String) :
    (selectorEscaped value).toList = value.toList.flatMap selectorEscape :=
  String.toList_ofList

theorem selector_escape_instant : Instant selectorEscape := by
  intro symbol other rest others same
  unfold selectorEscape at same
  split_ifs at same <;> grind

/-- What may follow a field: nothing, or a bare bar or line break. -/
def Ends (text : List Char) : Prop := ∀ char ∈ text.head?, char = '|' ∨ char = '\n'

theorem ends_nil : Ends [] := by
  intro char member
  cases member

theorem ends_field {name : String} (leads : name.toList.head? = some '|' ∨
    name.toList.head? = some '\n') (rest : List Char) : Ends (name.toList ++ rest) := by
  intro char member
  rw [List.head?_append] at member
  rcases leads with leads | leads
  · rw [leads] at member
    exact Or.inl (Option.some.inj member).symm
  · rw [leads] at member
    exact Or.inr (Option.some.inj member).symm

theorem selector_escape_stops {text : List Char} (ends : Ends text) :
    Stops selectorEscape text := by
  intro symbol rest same
  have leads : ∃ char ∈ (selectorEscape symbol ++ rest).head?, char ≠ '|' ∧ char ≠ '\n' := by
    unfold selectorEscape
    split_ifs <;> simp_all
  rcases leads with ⟨char, member, bare⟩
  rcases ends char (same ▸ member) with bar | lineBreak
  · exact bare.1 bar
  · exact bare.2 lineBreak

theorem selector_escaped_append_inj {first second : String} {rest other : List Char}
    (restEnds : Ends rest)
    (otherEnds : Ends other)
    (same : (selectorEscaped first).toList ++ rest = (selectorEscaped second).toList ++ other) :
    first = second ∧ rest = other := by
  rw [selector_escaped_chars, selector_escaped_chars] at same
  have read := flat_map_append_inj selector_escape_instant (selector_escape_stops restEnds)
    (selector_escape_stops otherEnds) same
  exact ⟨String.toList_inj.mp read.1, read.2⟩

theorem decimal_inj {first second : Nat} (same : Nat.toDigits 10 first = Nat.toDigits 10 second) :
    first = second := by
  rw [← @Nat.ofDigitChars_ten_toDigits first, ← @Nat.ofDigitChars_ten_toDigits second, same]

theorem decimal_append_inj {first second : Nat} {rest other : List Char}
    (restEnds : Ends rest)
    (otherEnds : Ends other)
    (same : (toString first).toList ++ rest = (toString second).toList ++ other) :
    first = second ∧ rest = other := by
  have digits (number : Nat) : ∀ char ∈ (toString number).toList, char.isDigit = true := by
    intro char member
    rw [Nat.toString_eq_repr, Nat.toList_repr] at member
    exact Nat.isDigit_of_mem_toDigits (by decide) (by decide) member
  have stops {text : List Char} (ends : Ends text) :
      ∀ char ∈ text.head?, char.isDigit = false := by
    intro char member
    rcases ends char member with rfl | rfl <;> decide
  have read := span_append_inj (digits first) (digits second) (stops restEnds) (stops otherEnds)
    same
  refine ⟨?_, read.2⟩
  rw [Nat.toString_eq_repr, Nat.toString_eq_repr, Nat.toList_repr, Nat.toList_repr] at read
  exact decimal_inj read.1

theorem signed_decimal_append_inj {first second : Int} {rest other : List Char}
    (restEnds : Ends rest)
    (otherEnds : Ends other)
    (same : (toString first).toList ++ rest = (toString second).toList ++ other) :
    first = second ∧ rest = other := by
  have leads (number : Nat) : ∃ digit ∈ (toString number).toList.head?, digit.isDigit = true := by
    rw [Nat.toString_eq_repr, Nat.toList_repr]
    cases digits : Nat.toDigits 10 number with
    | nil => exact absurd digits Nat.toDigits_ne_nil
    | cons digit tail =>
        have member : digit ∈ Nat.toDigits 10 number := by simp [digits]
        exact ⟨digit, rfl, Nat.isDigit_of_mem_toDigits (by decide) (by decide) member⟩
  have unsigned {number number' : Nat} {text text' : List Char}
      (clash : (toString number).toList ++ text = '-' :: (toString number').toList ++ text') :
      False := by
    rcases leads number with ⟨digit, first, numeric⟩
    have head := congrArg List.head? clash
    rw [List.head?_append, Option.mem_def.mp first] at head
    simp only [Option.some_or, List.cons_append, List.head?_cons, Option.some.injEq] at head
    rw [head] at numeric
    revert numeric
    decide
  have text (number : Int) : (toString number).toList =
      if 0 ≤ number then (toString number.toNat).toList
      else '-' :: (toString (-number).toNat).toList := by
    rw [Int.toString_eq_repr, Int.repr_eq_if]
    split_ifs
    · rfl
    · rw [String.toList_append]
      rfl
  rw [text, text] at same
  split_ifs at same with left right right
  · have read := decimal_append_inj restEnds otherEnds same
    exact ⟨by omega, read.2⟩
  · cases unsigned same
  · cases unsigned same.symm
  · rw [List.cons_append, List.cons_append, List.cons.injEq] at same
    have read := decimal_append_inj restEnds otherEnds same.2
    exact ⟨by omega, read.2⟩

end Fields

section Texts

variable [Externals]

def foldedHop (hop : SelectorPathHop) : SelectorPathHop :=
  { hop with className := Externals.toLowercase hop.className }

/-- The same backend and the same hops, but for the case of class names. -/
def SameSelector (first second : SelectorPath) : Prop :=
  first.backend = second.backend ∧ first.hops.map foldedHop = second.hops.map foldedHop

theorem selector_hop_append_inj {index : Nat} {first second : SelectorPathHop}
    {rest other : List Char} (restEnds : Ends rest)
    (otherEnds : Ends other)
    (same : (serializeSelectorHop index first).toList ++ rest =
      (serializeSelectorHop index second).toList ++ other) :
    foldedHop first = foldedHop second ∧ rest = other := by
  unfold serializeSelectorHop at same
  simp only [String.toList_append, List.append_assoc] at same
  have afterIndex :=
    List.append_cancel_left (List.append_cancel_left (List.append_cancel_left same))
  have controlType := signed_decimal_append_inj (ends_field (Or.inl rfl) _)
    (ends_field (Or.inl rfl) _) afterIndex
  have automationId := selector_escaped_append_inj (ends_field (Or.inl rfl) _)
    (ends_field (Or.inl rfl) _) (List.append_cancel_left controlType.2)
  have className := selector_escaped_append_inj (ends_field (Or.inl rfl) _)
    (ends_field (Or.inl rfl) _) (List.append_cancel_left automationId.2)
  have ordinal := decimal_append_inj restEnds otherEnds (List.append_cancel_left className.2)
  refine ⟨?_, ordinal.2⟩
  unfold foldedHop
  rw [Int32.toInt_inj.mp controlType.1, automationId.1, className.1,
    UInt32.toNat_inj.mp ordinal.1]

/-- The text of the hops from a given index on. -/
def selectorHopsFrom (start : Nat) (hops : List SelectorPathHop) : String :=
  String.join (hops.mapIdx fun index => serializeSelectorHop (start + index))

theorem selector_hops_cons (start : Nat) (hop : SelectorPathHop) (hops : List SelectorPathHop) :
    (selectorHopsFrom start (hop :: hops)).toList =
      (serializeSelectorHop start hop).toList ++ (selectorHopsFrom (start + 1) hops).toList := by
  have shift : (fun index => serializeSelectorHop (start + (index + 1))) =
      fun index => serializeSelectorHop (start + 1 + index) := by
    funext index
    rw [Nat.add_assoc, Nat.add_comm 1 index]
  unfold selectorHopsFrom
  rw [List.mapIdx_cons, String.join_cons, String.toList_append, shift, Nat.add_zero]

theorem selector_hops_zero (hops : List SelectorPathHop) :
    String.join (hops.mapIdx serializeSelectorHop) = selectorHopsFrom 0 hops := by
  have shift : (fun index => serializeSelectorHop (0 + index)) = serializeSelectorHop := by
    funext index
    rw [Nat.zero_add]
  unfold selectorHopsFrom
  rw [shift]

theorem selector_hop_leads (index : Nat) (hop : SelectorPathHop) :
    ∃ rest, (serializeSelectorHop index hop).toList = (toString "\nhop=").toList ++ rest := by
  unfold serializeSelectorHop
  simp only [String.toList_append, List.append_assoc]
  constructor
  rfl

theorem selector_hops_end (start : Nat) (hops : List SelectorPathHop) :
    Ends (selectorHopsFrom start hops).toList := by
  cases hops with
  | nil => exact ends_nil
  | cons hop hops =>
      rcases selector_hop_leads start hop with ⟨rest, leads⟩
      rw [selector_hops_cons, leads, List.append_assoc]
      exact ends_field (Or.inr rfl) _

theorem selector_hops_nonempty (start : Nat) (hop : SelectorPathHop)
    (hops : List SelectorPathHop) : (selectorHopsFrom start (hop :: hops)).toList ≠ [] := by
  rcases selector_hop_leads start hop with ⟨rest, leads⟩
  rw [selector_hops_cons, leads, List.append_assoc]
  exact List.append_ne_nil_of_left_ne_nil (by decide) _

theorem selector_hops_inj {start : Nat} {first second : List SelectorPathHop}
    (same : (selectorHopsFrom start first).toList = (selectorHopsFrom start second).toList) :
    first.map foldedHop = second.map foldedHop := by
  induction first generalizing start second with
  | nil =>
      cases second with
      | nil => rfl
      | cons hop second => exact absurd same.symm (selector_hops_nonempty start hop second)
  | cons hop first induction =>
      cases second with
      | nil => exact absurd same (selector_hops_nonempty start hop first)
      | cons hop' second =>
          rw [selector_hops_cons, selector_hops_cons] at same
          have read := selector_hop_append_inj (selector_hops_end _ _) (selector_hops_end _ _) same
          rw [List.map_cons, List.map_cons, read.1, induction read.2]

theorem serialize_hop_congr (index : Nat) {first second : SelectorPathHop}
    (same : foldedHop first = foldedHop second) :
    serializeSelectorHop index first = serializeSelectorHop index second := by
  unfold foldedHop at same
  rw [SelectorPathHop.mk.injEq] at same
  unfold serializeSelectorHop
  rw [same.1, same.2.1, same.2.2.1, same.2.2.2]

theorem selector_hops_congr {start : Nat} {first second : List SelectorPathHop}
    (same : first.map foldedHop = second.map foldedHop) :
    (selectorHopsFrom start first).toList = (selectorHopsFrom start second).toList := by
  induction first generalizing start second with
  | nil => rw [List.map_eq_nil_iff.mp same.symm]
  | cons hop first induction =>
      cases second with
      | nil => cases same
      | cons hop' second =>
          rw [List.map_cons, List.map_cons, List.cons.injEq] at same
          rw [selector_hops_cons, selector_hops_cons, serialize_hop_congr start same.1,
            induction same.2]

/-- The text determines a selector up to the case of its class names, and no more. -/
theorem serialize_selector_path_inj_iff (first second : SelectorPath) :
    serializeSelectorPathV1 first = serializeSelectorPathV1 second ↔
      SameSelector first second := by
  constructor
  · intro same
    have chars := congrArg String.toList same
    unfold serializeSelectorPathV1 at chars
    simp only [String.toList_append, List.append_assoc, selector_hops_zero] at chars
    have backend := selector_escaped_append_inj (selector_hops_end 0 first.hops)
      (selector_hops_end 0 second.hops) (List.append_cancel_left chars)
    exact ⟨backend.1, selector_hops_inj backend.2⟩
  · intro same
    unfold serializeSelectorPathV1
    rw [same.1, selector_hops_zero, selector_hops_zero,
      String.toList_inj.mp (selector_hops_congr same.2)]

end Texts

section Rows

variable [Externals] [StoreExternals]

/-- The row `path_hash = ?1` selects. -/
def Database.selectorOf (db : Database) (pathHash : String) : Option SelectorPathRow :=
  db.activity.recordRoutine.selectorPaths.rows.find? fun row => row.pathHash == pathHash

omit [Externals] [StoreExternals] in
theorem selector_of_some {db : Database} {pathHash : String} {row : SelectorPathRow}
    (stored : db.selectorOf pathHash = some row) :
    row ∈ db.activity.recordRoutine.selectorPaths.rows ∧ row.pathHash = pathHash := by
  unfold Database.selectorOf at stored
  have hashed := List.find?_some stored
  exact ⟨List.mem_of_find?_eq_some stored, eq_of_beq hashed⟩

/-- What interning an action does to a row that is there. -/
def nameSelector (action : StampedAction) (row : SelectorPathRow) : SelectorPathRow :=
  if action.hasName && row.pathHash == selectorPathHashV1 action.action.selectorPath then
    { row with hasName := true }
  else row

theorem name_selector_hash (action : StampedAction) (row : SelectorPathRow) :
    (nameSelector action row).pathHash = row.pathHash := by
  unfold nameSelector
  split_ifs <;> rfl

theorem name_selector_id (action : StampedAction) (row : SelectorPathRow) :
    (nameSelector action row).selectorId = row.selectorId := by
  unfold nameSelector
  split_ifs <;> rfl

theorem intern_selector_found {db : Database} {action : StampedAction} {row : SelectorPathRow}
    (found : db.selectorOf (selectorPathHashV1 action.action.selectorPath) = some row) :
    (db.internSelector action).1 = row.selectorId ∧
      (db.internSelector action).2.activity.recordRoutine.selectorPaths.rows =
        db.activity.recordRoutine.selectorPaths.rows.map (nameSelector action) := by
  unfold Database.selectorOf at found
  unfold Database.internSelector
  dsimp only
  rw [found]
  refine ⟨rfl, ?_⟩
  dsimp only
  split_ifs with named
  · dsimp only [Table.updateWhere]
    apply List.map_congr_left
    intro row _
    rw [nameSelector, named, Bool.true_and]
  · have unchanged : nameSelector action = id := by
      funext row
      rw [nameSelector, Bool.eq_false_of_not_eq_true named, Bool.false_and,
        if_neg Bool.false_ne_true]
      rfl
    rw [unchanged, List.map_id]

theorem intern_selector_missing {db : Database} {action : StampedAction}
    (missing : db.selectorOf (selectorPathHashV1 action.action.selectorPath) = none) :
    ∃ row : SelectorPathRow,
      row.pathHash = selectorPathHashV1 action.action.selectorPath ∧
      row.hasName = action.hasName ∧
      row.selectorId ∉
        db.activity.recordRoutine.selectorPaths.rows.map SelectorPathRow.selectorId ∧
      (db.internSelector action).1 = row.selectorId ∧
      (db.internSelector action).2.activity.recordRoutine.selectorPaths.rows =
        db.activity.recordRoutine.selectorPaths.rows ++ [row] := by
  unfold Database.selectorOf at missing
  unfold Database.internSelector
  dsimp only
  rw [missing]
  exact ⟨_, rfl, rfl, Table.next_id_fresh _ _, rfl, rfl⟩

theorem interned_row (db : Database) (action : StampedAction) :
    ((db.internSelector action).2.selectorOf
      (selectorPathHashV1 action.action.selectorPath)).map SelectorPathRow.selectorId =
        some (db.internSelector action).1 := by
  cases before : db.selectorOf (selectorPathHashV1 action.action.selectorPath) with
  | some row =>
      have interned := intern_selector_found before
      have hashes : (fun row : SelectorPathRow =>
          row.pathHash == selectorPathHashV1 action.action.selectorPath) ∘ nameSelector action =
          fun row => row.pathHash == selectorPathHashV1 action.action.selectorPath := by
        funext row
        rw [Function.comp_apply, name_selector_hash]
      unfold Database.selectorOf at before ⊢
      rw [interned.2, List.find?_map, hashes, before, interned.1, Option.map_some, Option.map_some,
        name_selector_id]
  | none =>
      rcases intern_selector_missing before with ⟨row, hashed, _, _, answer, rows⟩
      unfold Database.selectorOf at before ⊢
      rw [rows, List.find?_append, before, Option.none_or, List.find?_singleton, hashed,
        beq_self_eq_true, if_pos rfl, answer, Option.map_some]

theorem interned_as_row_iff {db : Database} {first second : StampedAction} {row : SelectorPathRow}
    (stored : db.selectorOf (selectorPathHashV1 first.action.selectorPath) = some row) :
    (db.internSelector second).1 = row.selectorId ↔
      selectorPathHashV1 second.action.selectorPath =
        selectorPathHashV1 first.action.selectorPath := by
  rcases selector_of_some stored with ⟨present, hashed⟩
  constructor
  · intro same
    cases found : db.selectorOf (selectorPathHashV1 second.action.selectorPath) with
    | some other =>
        rw [(intern_selector_found found).1] at same
        rcases selector_of_some found with ⟨listed, other_hashed⟩
        have alike := Table.eq_of_key _ listed present same
        rw [← hashed, ← alike, other_hashed]
    | none =>
        rcases intern_selector_missing found with ⟨added, _, _, fresh, answer, _⟩
        rw [← answer, same] at fresh
        exact absurd (List.mem_map_of_mem present) fresh
  · intro same
    rw [← same] at stored
    exact (intern_selector_found stored).1

/-- The serialized selector is the selector up to the case of its class names; without a
collision of the hash a stored row is shared by the selectors that are the same in this
sense and by no others. -/
theorem selectors_identified :
    (∀ first second : SelectorPath,
      serializeSelectorPathV1 first = serializeSelectorPathV1 second ↔
        SameSelector first second) ∧
    (∀ (db : Database) (action : StampedAction),
      ((db.internSelector action).2.selectorOf
        (selectorPathHashV1 action.action.selectorPath)).map SelectorPathRow.selectorId =
          some (db.internSelector action).1) ∧
    ∀ (db : Database) (first second : StampedAction) (row : SelectorPathRow),
      (selectorPathHashV1 second.action.selectorPath =
          selectorPathHashV1 first.action.selectorPath →
        serializeSelectorPathV1 second.action.selectorPath =
          serializeSelectorPathV1 first.action.selectorPath) →
      db.selectorOf (selectorPathHashV1 first.action.selectorPath) = some row →
      ((db.internSelector second).1 = row.selectorId ↔
        SameSelector second.action.selectorPath first.action.selectorPath) := by
  refine ⟨serialize_selector_path_inj_iff, interned_row, ?_⟩
  intro db first second row noCollision stored
  rw [interned_as_row_iff stored]
  constructor
  · intro hashed
    exact (serialize_selector_path_inj_iff _ _).mp (noCollision hashed)
  · intro same
    exact congrArg StoreExternals.sha256Hex ((serialize_selector_path_inj_iff _ _).mpr same)

end Rows

section Examples

private def buttonPath (className : String) : SelectorPath :=
  ⟨"uia", [⟨50000, "save", className, 0⟩]⟩

/-- The digests of the two texts that the hops below have. -/
@[reducible] private def buttonExternals : StoreExternals where
  parseJson _ := none
  sha256Hex text :=
    if text = "gilbreth.selector_path.v1\nbackend=uia\nhop=0|control_type=50000" ++
        "|automation_id=save|class_name=button|ordinal=0" then
      "07563eb98f1d7b1a387af3a45b379b29e8546eedcd306471263d329dddbac4ca"
    else "8e08e919db417727c48ac85c9155828306fc97b20b77c2034c9e12337d9f2d3c"

private def press (className : String) : StampedAction where
  sessionId := 1
  seq := 1
  tsUnixMs := I64.ofInt 1000
  action := ⟨.invoke, buttonPath className, .pidMatch⟩
  recordSessionId := 1
  exe := none
  isSensitive := false
  hasName := false
  patternAction := none
  framework := "uia"
  frameworkClass := .native
  depth := 1
  leafRect := none
  payload := .invoke none none

/-- A second press of a button with its class in capitals finds the row of the first; a
class name that imitates the next field does not. -/
theorem selectors_identified_button :
    ∃ row, (@Database.selectorOf (@Database.internSelector asciiExternals buttonExternals
        Database.empty (press "Button")).2
        (@selectorPathHashV1 asciiExternals buttonExternals (buttonPath "Button"))) = some row ∧
      ((@Database.internSelector asciiExternals buttonExternals
          (@Database.internSelector asciiExternals buttonExternals Database.empty
            (press "Button")).2 (press "BUTTON")).1 = row.selectorId ↔
        @SameSelector asciiExternals (buttonPath "BUTTON") (buttonPath "Button")) ∧
      ((@Database.internSelector asciiExternals buttonExternals
          (@Database.internSelector asciiExternals buttonExternals Database.empty
            (press "Button")).2 (press "button|0")).1 = row.selectorId ↔
        @SameSelector asciiExternals (buttonPath "button|0") (buttonPath "Button")) := by
  have identified := @selectors_identified asciiExternals buttonExternals
  have found := identified.2.1 Database.empty (press "Button")
  rw [Option.map_eq_some_iff] at found
  rcases found with ⟨row, stored, _⟩
  refine ⟨row, stored, ?_, ?_⟩
  · apply identified.2.2 _ (press "Button") (press "BUTTON") row _ stored
    intro _
    decide +kernel
  · apply identified.2.2 _ (press "Button") (press "button|0") row _ stored
    intro hashed
    have apart : @selectorPathHashV1 asciiExternals buttonExternals (buttonPath "button|0") ≠
        @selectorPathHashV1 asciiExternals buttonExternals (buttonPath "Button") := by
      decide +kernel
    exact absurd hashed apart

end Examples

end Gilbreth.Store
