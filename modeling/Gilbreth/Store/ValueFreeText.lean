import Gilbreth.Library.JsonText
import Gilbreth.Store.Books
import Mathlib.Data.List.Sort

/-!
# The value-free guard against the text it admits

The guard reads the parsed value, the text is what is stored. Of a repeated key the
parser keeps the last member, so the guard never sees the members before it nor
anything inside them.
-/

set_option autoImplicit false

namespace Gilbreth.Store

open Gilbreth.Core

section Values

/-- A map keeps the last of the members with one key. -/
def lastMembers {Value : Type} : List (String × Value) → List (String × Value)
  | [] => []
  | member :: rest =>
      if rest.any fun later => later.1 == member.1 then lastMembers rest
      else member :: lastMembers rest

/-- The order in which a `BTreeMap` iterates. -/
def sortMembers (members : List (String × Json)) : List (String × Json) :=
  members.mergeSort fun left right => decide (left.1 ≤ right.1)

def literalValue (token : String) : Json :=
  if token = "null" then .null
  else if token = "true" then .bool true
  else if token = "false" then .bool false
  else .number token

mutual

/-- The `serde_json::Value` of a text. -/
def jsonValue : JsonText → Json
  | .literal token => literalValue token
  | .string raw => .string (JsonText.unescape raw)
  | .array items => .array (itemValues items)
  | .object members => .object (sortMembers (lastMembers (memberValues members)))

def itemValues : List JsonText → List Json
  | [] => []
  | item :: rest => jsonValue item :: itemValues rest

def memberValues : List (String × JsonText) → List (String × Json)
  | [] => []
  | (key, value) :: rest => (JsonText.unescape key, jsonValue value) :: memberValues rest

end

/-- What the parser accepts is the text of a syntax tree and it returns the tree's value. -/
def ParsesJson [StoreExternals] (syntaxOf : String → Option JsonText) : Prop :=
  ∀ text value, StoreExternals.parseJson text = some value →
    ∃ tree, syntaxOf text = some tree ∧ value = jsonValue tree

end Values

section Written

/-- A member written in the text, at any depth, with its key as it reads. -/
inductive Written : JsonText → String → JsonText → Prop where
  | here {members : List (String × JsonText)} {raw : String} {value : JsonText}
      (listed : (raw, value) ∈ members) :
      Written (.object members) (JsonText.unescape raw) value
  | inMember {members : List (String × JsonText)} {raw key : String} {value inner : JsonText}
      (listed : (raw, value) ∈ members) (inside : Written value key inner) :
      Written (.object members) key inner
  | inItem {items : List JsonText} {key : String} {value inner : JsonText}
      (listed : value ∈ items) (inside : Written value key inner) :
      Written (.array items) key inner

/-- A later member of the object has the same key. -/
def Shadowed (members : List (String × JsonText)) (raw : String) (value : JsonText) : Prop :=
  ∃ before after, members = before ++ (raw, value) :: after ∧
    ∃ later ∈ after, JsonText.unescape later.1 = JsonText.unescape raw

/-- A member the parser drops, or one inside such a member. -/
inductive Dropped : JsonText → String → JsonText → Prop where
  | here {members : List (String × JsonText)} {raw : String} {value : JsonText}
      (shadowed : Shadowed members raw value) :
      Dropped (.object members) (JsonText.unescape raw) value
  | inside {members : List (String × JsonText)} {raw key : String} {value inner : JsonText}
      (shadowed : Shadowed members raw value) (written : Written value key inner) :
      Dropped (.object members) key inner
  | inMember {members : List (String × JsonText)} {raw key : String} {value inner : JsonText}
      (listed : (raw, value) ∈ members) (dropped : Dropped value key inner) :
      Dropped (.object members) key inner
  | inItem {items : List JsonText} {key : String} {value inner : JsonText}
      (listed : value ∈ items) (dropped : Dropped value key inner) :
      Dropped (.array items) key inner

/-- No value-bearing key, and a selector identifier is short and has no control
character. -/
def ValueFreeMember (key : String) (value : JsonText) : Prop :=
  key.toLower ∉ ["name", "value", "text"] ∧
    (key.toLower ∈ ["automation_id", "class_name"] → ∀ raw, value = .string raw →
      (JsonText.unescape raw).length ≤ 256 ∧
        ∀ char ∈ (JsonText.unescape raw).toList, isControl char = false)

theorem Dropped.written {tree : JsonText} {key : String} {value : JsonText}
    (dropped : Dropped tree key value) : Written tree key value := by
  have listedOf : ∀ {members raw value}, Shadowed members raw value → (raw, value) ∈ members := by
    rintro members raw value ⟨before, after, rfl, _⟩
    simp
  induction dropped with
  | here shadowed => exact .here (listedOf shadowed)
  | inside shadowed written => exact .inMember (listedOf shadowed) written
  | inMember listed _ induction => exact .inMember listed induction
  | inItem listed _ induction => exact .inItem listed induction

end Written

section Guard

/-- What the guard finds nothing against. -/
def Admitted (value : Json) : Prop :=
  firstForbiddenJsonKey value = none ∧ firstUnboundedIdentifier value = none

theorem ensure_value_free_json_ok [StoreExternals] {json label : String} :
    ensureValueFreeJson json label = .ok () ↔
      ∃ value, StoreExternals.parseJson json = some value ∧ Admitted value := by
  unfold ensureValueFreeJson Admitted
  cases parsed : StoreExternals.parseJson json with
  | none => simp
  | some value =>
      cases forbidden : firstForbiddenJsonKey value with
      | some key => simp [forbidden]
      | none =>
          cases unbounded : firstUnboundedIdentifier value with
          | some key => simp [forbidden, unbounded]
          | none => simp [forbidden, unbounded]

theorem admitted_item {items : List Json} (admitted : Admitted (.array items)) {item : Json}
    (listed : item ∈ items) : Admitted item := by
  rcases admitted with ⟨forbidden, unbounded⟩
  rw [firstForbiddenJsonKey] at forbidden
  rw [firstUnboundedIdentifier] at unbounded
  induction items with
  | nil => cases listed
  | cons first rest induction =>
      rw [forbiddenItem, Option.or_eq_none_iff] at forbidden
      rw [unboundedItem, Option.or_eq_none_iff] at unbounded
      rcases List.mem_cons.mp listed with rfl | tail
      · exact ⟨forbidden.1, unbounded.1⟩
      · exact induction tail forbidden.2 unbounded.2

theorem unbounded_member_none {key : String} {value : Json} {rest : List (String × Json)} :
    unboundedMember ((key, value) :: rest) = none ↔
      (key.toLower ∈ ["automation_id", "class_name"] → ∀ text, value = .string text →
        unboundedIdentifier text = false) ∧
      firstUnboundedIdentifier value = none ∧ unboundedMember rest = none := by
  cases value with
  | string text =>
      by_cases own : key.toLower ∈ ["automation_id", "class_name"]
      · cases unbounded : unboundedIdentifier text <;>
          simp [unboundedMember, own, unbounded]
      · simp [unboundedMember, own]
  | null => simp [unboundedMember]
  | bool value => simp [unboundedMember]
  | number text => simp [unboundedMember]
  | array items => simp [unboundedMember]
  | object members => simp [unboundedMember]

theorem admitted_member {members : List (String × Json)} (admitted : Admitted (.object members))
    {key : String} {value : Json} (listed : (key, value) ∈ members) :
    key.toLower ∉ ["name", "value", "text"] ∧
      (key.toLower ∈ ["automation_id", "class_name"] → ∀ text, value = .string text →
        unboundedIdentifier text = false) ∧
      Admitted value := by
  rcases admitted with ⟨forbidden, unbounded⟩
  rw [firstForbiddenJsonKey] at forbidden
  rw [firstUnboundedIdentifier] at unbounded
  induction members with
  | nil => cases listed
  | cons first rest induction =>
      rcases first with ⟨firstKey, firstValue⟩
      rw [forbiddenMember] at forbidden
      rw [unbounded_member_none] at unbounded
      split_ifs at forbidden with bearing
      rw [Option.or_eq_none_iff] at forbidden
      rcases List.mem_cons.mp listed with same | tail
      · cases same
        exact ⟨bearing, unbounded.1, forbidden.1, unbounded.2.1⟩
      · exact induction tail forbidden.2 unbounded.2.2

theorem value_free_of_admitted {members : List (String × Json)}
    (admitted : Admitted (.object members)) {raw : String} {value : JsonText}
    (listed : (JsonText.unescape raw, jsonValue value) ∈ members) :
    ValueFreeMember (JsonText.unescape raw) value := by
  have checked := admitted_member admitted listed
  refine ⟨checked.1, ?_⟩
  rintro named token rfl
  have bounded := checked.2.1 named (JsonText.unescape token) (by rw [jsonValue])
  rw [unboundedIdentifier, Bool.or_eq_false_iff, decide_eq_false_iff_not, List.any_eq_false]
    at bounded
  exact ⟨not_lt.mp bounded.1, fun char member => Bool.eq_false_iff.mpr (bounded.2 char member)⟩

end Guard

section Retained

theorem mem_item_values {items : List JsonText} {value : JsonText} (listed : value ∈ items) :
    jsonValue value ∈ itemValues items := by
  induction items with
  | nil => cases listed
  | cons first rest induction =>
      rw [itemValues]
      rcases List.mem_cons.mp listed with rfl | tail
      · exact List.mem_cons_self
      · exact List.mem_cons_of_mem _ (induction tail)

theorem any_member_values {members : List (String × JsonText)} {key : String} :
    (memberValues members).any (fun member => member.1 == key) =
      members.any fun member => JsonText.unescape member.1 == key := by
  induction members with
  | nil => rfl
  | cons first rest induction =>
      rw [memberValues, List.any_cons, List.any_cons, induction]

theorem kept_or_shadowed {members : List (String × JsonText)} {raw : String} {value : JsonText}
    (listed : (raw, value) ∈ members) :
    (JsonText.unescape raw, jsonValue value) ∈ lastMembers (memberValues members) ∨
      Shadowed members raw value := by
  induction members with
  | nil => cases listed
  | cons first rest induction =>
      rcases first with ⟨firstRaw, firstValue⟩
      rw [memberValues, lastMembers]
      rcases List.mem_cons.mp listed with same | tail
      · cases same
        split_ifs with repeated
        · right
          rw [any_member_values, List.any_eq_true] at repeated
          rcases repeated with ⟨later, member, same⟩
          exact ⟨[], rest, rfl, later, member, eq_of_beq same⟩
        · exact Or.inl List.mem_cons_self
      · rcases induction tail with kept | ⟨before, after, rfl, later⟩
        · left
          split_ifs
          · exact kept
          · exact List.mem_cons_of_mem _ kept
        · exact Or.inr ⟨(firstRaw, firstValue) :: before, after, rfl, later⟩

theorem written_value_free {tree : JsonText} {key : String} {value : JsonText}
    (written : Written tree key value) (admitted : Admitted (jsonValue tree))
    (dropped : ∀ key value, Dropped tree key value → ValueFreeMember key value) :
    ValueFreeMember key value := by
  induction written with
  | here listed =>
      rcases kept_or_shadowed listed with kept | shadowed
      · rw [jsonValue] at admitted
        exact value_free_of_admitted admitted (List.mem_mergeSort.mpr kept)
      · exact dropped _ _ (.here shadowed)
  | inMember listed inside induction =>
      rcases kept_or_shadowed listed with kept | shadowed
      · rw [jsonValue] at admitted
        have below := (admitted_member admitted (List.mem_mergeSort.mpr kept)).2.2
        exact induction below fun key value hidden => dropped key value (.inMember listed hidden)
      · exact dropped _ _ (.inside shadowed inside)
  | inItem listed _ induction =>
      rw [jsonValue] at admitted
      exact induction (admitted_item admitted (mem_item_values listed)) fun key value hidden =>
        dropped key value (.inItem listed hidden)

end Retained

section Stored

variable [StoreExternals] {fault : Option StoreError} {db after : Database}

theorem created_request_verbatim {requestedAt expiresAt : I64} {candidateKind : Option String}
    {candidateJson : String} {requestId : Int}
    (created : db.createRecordRequest fault requestedAt expiresAt candidateKind candidateJson =
      .ok (after, requestId)) :
    ensureValueFreeJson candidateJson "candidate_json" = .ok () ∧
      ∃ row ∈ after.activity.recordRoutine.recordRequests.rows,
        row.requestId = requestId ∧ row.candidateJson = candidateJson := by
  have spec := create_record_request_ok created
  unfold Database.createRecordRequest at created
  cases valueFree : ensureValueFreeJson candidateJson "candidate_json" with
  | error error =>
      rw [valueFree] at created
      cases created
  | ok checked =>
      rw [valueFree] at created
      rcases statement_ok created with ⟨_, same⟩
      have id := (Prod.mk.inj same).2
      refine ⟨rfl, db.newRequest requestedAt expiresAt candidateKind candidateJson, ?_, id.symm,
        rfl⟩
      rw [spec.inserted]
      exact List.mem_append_right _ List.mem_cons_self

theorem opened_recording_verbatim {params : OpenRecordSessionParams} {recordSessionId : Int}
    (opened : db.openRecordSession fault params = .ok (after, recordSessionId)) :
    ensureValueFreeJson params.policySnapshotJson "policy_snapshot_json" = .ok () ∧
      ∃ row ∈ after.activity.recordRoutine.recordSessions.rows,
        row.recordSessionId = recordSessionId ∧
          row.policySnapshotJson = params.policySnapshotJson := by
  have spec := open_record_session_ok opened
  unfold Database.openRecordSession at opened
  cases valueFree : ensureValueFreeJson params.policySnapshotJson "policy_snapshot_json" with
  | error error =>
      rw [valueFree] at opened
      cases opened
  | ok checked =>
      refine ⟨rfl, params.row recordSessionId, ?_, rfl, rfl⟩
      rw [spec.inserted]
      exact List.mem_append_right _ List.mem_cons_self

/-- An admitted text is value-free in every member written exactly when it is in those
the parser drops; and what the three calls store is an admitted text, as it stands. -/
theorem value_free_guard_sees_written_iff (syntaxOf : String → Option JsonText)
    (parses : ParsesJson syntaxOf) :
    (∀ json label,
      (ensureValueFreeJson json label = .ok () → ∃ tree, syntaxOf json = some tree ∧
          ∀ key value, Written tree key value → ValueFreeMember key value) ↔
        (ensureValueFreeJson json label = .ok () → ∀ tree, syntaxOf json = some tree →
          ∀ key value, Dropped tree key value → ValueFreeMember key value)) ∧
      (∀ (fault : Option StoreError) (db after : Database) requestedAt expiresAt candidateKind
          candidateJson requestId,
        db.createRecordRequest fault requestedAt expiresAt candidateKind candidateJson =
            .ok (after, requestId) →
          ensureValueFreeJson candidateJson "candidate_json" = .ok () ∧
            ∃ row ∈ after.activity.recordRoutine.recordRequests.rows,
              row.requestId = requestId ∧ row.candidateJson = candidateJson) ∧
      (∀ (fault : Option StoreError) (db after : Database) nowMs candidateKind candidateJson
          requestId,
        db.requestRecording fault nowMs candidateKind candidateJson = .ok (after, requestId) →
          ensureValueFreeJson candidateJson "candidate_json" = .ok () ∧
            ∃ row ∈ after.activity.recordRoutine.recordRequests.rows,
              row.requestId = requestId ∧ row.candidateJson = candidateJson) ∧
      ∀ (fault : Option StoreError) (db after : Database) params recordSessionId,
        db.openRecordSession fault params = .ok (after, recordSessionId) →
          ensureValueFreeJson params.policySnapshotJson "policy_snapshot_json" = .ok () ∧
            ∃ row ∈ after.activity.recordRoutine.recordSessions.rows,
              row.recordSessionId = recordSessionId ∧
                row.policySnapshotJson = params.policySnapshotJson := by
  refine ⟨fun json label => ⟨?_, ?_⟩, ?_, ?_, ?_⟩
  · intro written admitted tree read key value dropped
    rcases written admitted with ⟨other, same, every⟩
    cases same.symm.trans read
    exact every key value dropped.written
  · intro every admitted
    rcases ensure_value_free_json_ok.mp admitted with ⟨value, parsed, checked⟩
    rcases parses json value parsed with ⟨tree, read, rfl⟩
    refine ⟨tree, read, fun key value written => ?_⟩
    exact written_value_free written checked (every admitted tree read)
  · intro fault db after requestedAt expiresAt candidateKind candidateJson requestId created
    exact created_request_verbatim created
  · intro fault db after nowMs candidateKind candidateJson requestId created
    exact created_request_verbatim created
  · intro fault db after params recordSessionId opened
    exact opened_recording_verbatim opened

end Stored

section

/-- A key twice, the first time with a member inside it. -/
private def repeatedTree (key : String) : JsonText :=
  .object [("a", .object [(key, .string "x")]), ("a", .literal "1")]

private def repeatedText (key : String) : String :=
  "\x7b\"a\":\x7b\"" ++ key ++ "\":\"x\"\x7d,\"a\":1\x7d"

private def repeatedSyntax (key json : String) : Option JsonText :=
  if json = repeatedText key then some (repeatedTree key) else none

@[reducible] private def repeatedExternals (key : String) : StoreExternals where
  parseJson json := (repeatedSyntax key json).map jsonValue
  sha256Hex _ := ""

private theorem repeated_parses (key : String) :
    @ParsesJson (repeatedExternals key) (repeatedSyntax key) := by
  intro text value parsed
  rcases Option.map_eq_some_iff.mp parsed with ⟨tree, read, same⟩
  exact ⟨tree, read, same.symm⟩

private theorem lowered {key lower : String} (same : key.toList.map Char.toLower = lower.toList) :
    key.toLower = lower := by
  change key.map Char.toLower = lower
  rw [← String.toList_inj, String.toList_map, same]

private theorem repeated_admitted (key : String) :
    @ensureValueFreeJson (repeatedExternals key) (repeatedText key) "candidate_json" = .ok () := by
  have last :
      lastMembers (memberValues [("a", .object [(key, .string "x")]), ("a", .literal "1")]) =
      [("a", .number "1")] := rfl
  have value : jsonValue (repeatedTree key) = .object [("a", .number "1")] := by
    rw [repeatedTree, jsonValue, last, sortMembers, List.mergeSort_singleton]
  have plain : ("a" : String).toLower = "a" := lowered (by decide)
  have parsed : (repeatedExternals key).parseJson (repeatedText key) =
      some (jsonValue (repeatedTree key)) := by
    change (repeatedSyntax key (repeatedText key)).map jsonValue = _
    rw [repeatedSyntax, if_pos rfl]
    rfl
  rw [@ensure_value_free_json_ok (repeatedExternals key)]
  refine ⟨_, parsed, ?_⟩
  rw [value]
  constructor
  · rw [firstForbiddenJsonKey, forbiddenMember, plain, if_neg (by decide)]
    rfl
  · rw [firstUnboundedIdentifier, unbounded_member_none, plain]
    exact ⟨fun named => absurd named (by decide), rfl, rfl⟩

private theorem repeated_written {key name : String} {value : JsonText}
    (written : Written (repeatedTree key) name value) :
    name = "a" ∨ name = JsonText.unescape key ∧ value = .string "x" := by
  cases written with
  | here listed =>
      rcases List.mem_cons.mp listed with same | listed
      · cases same
        exact Or.inl rfl
      · cases List.mem_singleton.mp listed
        exact Or.inl rfl
  | inMember listed inside =>
      rcases List.mem_cons.mp listed with same | listed
      · cases same
        cases inside with
        | here listed =>
            cases List.mem_singleton.mp listed
            exact Or.inr ⟨rfl, rfl⟩
        | inMember listed deeper =>
            cases List.mem_singleton.mp listed
            cases deeper
      · cases List.mem_singleton.mp listed
        cases inside

theorem value_free_guard_sees_written_role :
    ∃ tree, repeatedSyntax "role" (repeatedText "role") = some tree ∧
      ∀ key value, Written tree key value → ValueFreeMember key value := by
  have seen := (@value_free_guard_sees_written_iff (repeatedExternals "role")
    (repeatedSyntax "role") (repeated_parses "role")).1 (repeatedText "role") "candidate_json"
  refine seen.mpr ?_ (repeated_admitted "role")
  intro _ tree read key value dropped
  cases (if_pos rfl).symm.trans read
  have free : ∀ lower, key.toLower = lower → lower ∉ ["name", "value", "text"] →
      lower ∉ ["automation_id", "class_name"] → ValueFreeMember key value := by
    rintro lower rfl plain unnamed
    exact ⟨plain, fun named => absurd named unnamed⟩
  rcases repeated_written dropped.written with rfl | ⟨rfl, _⟩
  · exact free "a" (lowered (by decide)) (by decide) (by decide)
  · exact free "role" (lowered (by decide)) (by decide) (by decide)

/-- A member inside a dropped one is stored with its value. -/
theorem dropped_member_passes_guard :
    ¬∀ (externals : StoreExternals) (syntaxOf : String → Option JsonText),
      @ParsesJson externals syntaxOf → ∀ json label,
        @ensureValueFreeJson externals json label = .ok () → ∀ tree, syntaxOf json = some tree →
          ∀ key value, Written tree key value → ValueFreeMember key value := by
  intro all
  have free := all (repeatedExternals "name") (repeatedSyntax "name") (repeated_parses "name")
    (repeatedText "name") "candidate_json" (repeated_admitted "name") (repeatedTree "name")
    (by simp [repeatedSyntax]) (JsonText.unescape "name") (.string "x")
    (.inMember List.mem_cons_self (.here List.mem_cons_self))
  apply free.1
  rw [show (JsonText.unescape "name").toLower = "name" from lowered (by decide)]
  decide

end

end Gilbreth.Store
