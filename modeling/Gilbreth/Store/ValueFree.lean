import Gilbreth.Core.Action

/-!
# The value-free guard

JSON is stored only when no object of it has a value-bearing key and every
selector identifier is short and free of control characters. Parsing and hashing
are library functions and so are parameters.
-/

set_option autoImplicit false

namespace Gilbreth.Store

open Gilbreth.Core

/-- `serde_json::Value`. The members stand in the order the map iterates them. -/
inductive Json where
  | null
  | bool (value : Bool)
  | number (text : String)
  | string (text : String)
  | array (items : List Json)
  | object (members : List (String × Json))

/-- `serde_json::from_str` and the hexadecimal SHA-256 digest of a text. -/
class StoreExternals where
  parseJson : String → Option Json
  sha256Hex : String → String

/-- A parser of the empty object only and a digest of nothing, for runs without
recordings. -/
@[reducible] def bareExternals : StoreExternals where
  parseJson text := if text = "{}" then some (.object []) else none
  sha256Hex _ := "e3b0c44298fc1c149afbf4c8996fb92427ae41e4649b934ca495991b7852b855"

def maxSelectorIdentLen : Nat := 256

/-- `char::is_control`: the Unicode category `Cc`. -/
def isControl (char : Char) : Bool :=
  char.toNat ≤ 0x1F || (0x7F ≤ char.toNat && char.toNat ≤ 0x9F)

def unboundedIdentifier (text : String) : Bool :=
  decide (maxSelectorIdentLen < text.length) || text.toList.any isControl

mutual

def firstForbiddenJsonKey : Json → Option String
  | .object members => forbiddenMember members
  | .array items => forbiddenItem items
  | _ => none

def forbiddenMember : List (String × Json) → Option String
  | [] => none
  | (key, value) :: rest =>
      if key.toLower ∈ ["name", "value", "text"] then some key
      else (firstForbiddenJsonKey value).or (forbiddenMember rest)

def forbiddenItem : List Json → Option String
  | [] => none
  | value :: rest => (firstForbiddenJsonKey value).or (forbiddenItem rest)

end

mutual

def firstUnboundedIdentifier : Json → Option String
  | .object members => unboundedMember members
  | .array items => unboundedItem items
  | _ => none

def unboundedMember : List (String × Json) → Option String
  | [] => none
  | (key, value) :: rest =>
      let own := match value with
        | .string text =>
            decide (key.toLower ∈ ["automation_id", "class_name"]) && unboundedIdentifier text
        | _ => false
      if own then some key
      else (firstUnboundedIdentifier value).or (unboundedMember rest)

def unboundedItem : List Json → Option String
  | [] => none
  | value :: rest => (firstUnboundedIdentifier value).or (unboundedItem rest)

end

end Gilbreth.Store
