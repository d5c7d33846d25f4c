import Mathlib.Data.List.Basic

/-!
# JSON as it is written

The syntax tree of a JSON text keeps what a parser throws away: the members of an
object in their order, repeated keys among them, and every string token with its
escapes. Only the space between tokens is gone.
-/

set_option autoImplicit false

/-- A number, a boolean or null stands as its token, a string without its quotes. -/
inductive JsonText where
  | literal (token : String)
  | string (raw : String)
  | array (items : List JsonText)
  | object (members : List (String × JsonText))

namespace JsonText

section Strings

def hexDigit (char : Char) : Option Nat :=
  if '0' ≤ char ∧ char ≤ '9' then some (char.toNat - 48)
  else if 'a' ≤ char ∧ char ≤ 'f' then some (char.toNat - 87)
  else if 'A' ≤ char ∧ char ≤ 'F' then some (char.toNat - 55)
  else none

/-- The code unit four hexadecimal digits name. -/
def codeUnit (first second third fourth : Char) : Option Nat := do
  let a ← hexDigit first
  let b ← hexDigit second
  let c ← hexDigit third
  let d ← hexDigit fourth
  return a * 4096 + b * 256 + c * 16 + d

def simpleEscape (char : Char) : Option Char :=
  match char with
  | '"' => some '"'
  | '\\' => some '\\'
  | '/' => some '/'
  | 'b' => some (Char.ofNat 8)
  | 'f' => some (Char.ofNat 12)
  | 'n' => some '\n'
  | 'r' => some '\r'
  | 't' => some '\t'
  | _ => none

/-- The characters a string token stands for; the first half of a surrogate pair waits
for the second. Only the escapes of the grammar occur in a text. -/
def unescapeChars (high : Option Nat) : List Char → List Char
  | '\\' :: 'u' :: a :: b :: c :: d :: rest =>
      match codeUnit a b c d, high with
      | none, _ => unescapeChars none rest
      | some unit, none =>
          if 0xD800 ≤ unit ∧ unit < 0xDC00 then unescapeChars (some unit) rest
          else Char.ofNat unit :: unescapeChars none rest
      | some unit, some first =>
          Char.ofNat (0x10000 + (first - 0xD800) * 1024 + (unit - 0xDC00)) ::
            unescapeChars none rest
  | '\\' :: char :: rest => (simpleEscape char).getD char :: unescapeChars none rest
  | char :: rest => char :: unescapeChars none rest
  | [] => []

def unescape (raw : String) : String := String.ofList (unescapeChars none raw.toList)

end Strings

section Render

mutual

/-- The text, without space between the tokens. -/
def render : JsonText → List Char
  | .literal token => token.toList
  | .string raw => '"' :: raw.toList ++ ['"']
  | .array items => '[' :: renderItems items ++ [']']
  | .object members => '{' :: renderMembers members ++ ['}']

def renderItems : List JsonText → List Char
  | [] => []
  | item :: rest => render item ++ (if rest.isEmpty then [] else ',' :: renderItems rest)

def renderMembers : List (String × JsonText) → List Char
  | [] => []
  | (key, value) :: rest =>
      '"' :: key.toList ++ '"' :: ':' :: render value ++
        (if rest.isEmpty then [] else ',' :: renderMembers rest)

end

end Render

section Paths

def isNamed (key : String) (member : String × JsonText) : Bool := unescape member.1 == key

/-- The element a path of keys names; of a repeated key the first member counts. -/
def element : List String → JsonText → Option JsonText
  | [], value => some value
  | key :: path, .object members =>
      match members.find? (isNamed key) with
      | none => none
      | some member => element path member.2
  | _ :: _, _ => none

/-- Rewrite the value of the first member with the key. -/
def changeMember (key : String) (change : JsonText → JsonText) :
    List (String × JsonText) → List (String × JsonText)
  | [] => []
  | member :: rest =>
      if isNamed key member then (member.1, change member.2) :: rest
      else member :: changeMember key change rest

/-- Take the element of a nonempty path out. -/
def remove : List String → JsonText → JsonText
  | [key], .object members => .object (members.eraseP (isNamed key))
  | key :: next :: path, .object members =>
      .object (changeMember key (remove (next :: path)) members)
  | _, value => value

theorem change_member_none {key : String} {change : JsonText → JsonText}
    {members : List (String × JsonText)} (absent : members.find? (isNamed key) = none) :
    changeMember key change members = members := by
  induction members with
  | nil => rfl
  | cons member rest induction =>
      rw [List.find?_cons] at absent
      cases named : isNamed key member with
      | true =>
          rw [named] at absent
          cases absent
      | false =>
          rw [named] at absent
          simp only [changeMember, named, Bool.false_eq_true, if_false, induction absent]

theorem change_member_same {key : String} {change : JsonText → JsonText}
    {members : List (String × JsonText)} {member : String × JsonText}
    (found : members.find? (isNamed key) = some member) (same : change member.2 = member.2) :
    changeMember key change members = members := by
  induction members with
  | nil => cases found
  | cons first rest induction =>
      rw [List.find?_cons] at found
      cases named : isNamed key first with
      | true =>
          rw [named] at found
          cases found
          simp only [changeMember, named, if_true, same]
      | false =>
          rw [named] at found
          simp only [changeMember, named, Bool.false_eq_true, if_false, induction found]

theorem remove_absent {path : List String} {value : JsonText} (absent : element path value = none) :
    remove path value = value := by
  induction path generalizing value with
  | nil => cases absent
  | cons key path induction =>
      cases value with
      | object members =>
          rw [element] at absent
          cases path with
          | nil =>
              cases found : members.find? (isNamed key) with
              | none =>
                  have unnamed := List.find?_eq_none.mp found
                  rw [remove, List.eraseP_of_forall_not unnamed]
              | some member =>
                  rw [found] at absent
                  cases absent
          | cons next path =>
              rw [remove]
              cases found : members.find? (isNamed key) with
              | none => rw [change_member_none found]
              | some member =>
                  rw [found] at absent
                  rw [change_member_same found (induction absent)]
      | literal token => cases path <;> rfl
      | string raw => cases path <;> rfl
      | array items => cases path <;> rfl

/-- On the way of a path no object names a member twice. -/
def Unrepeated : List String → JsonText → Prop
  | key :: path, .object members =>
      (members.eraseP (isNamed key)).find? (isNamed key) = none ∧
        ∀ member ∈ members, isNamed key member = true → Unrepeated path member.2
  | _, _ => True

theorem find_change_member {key : String} {change : JsonText → JsonText}
    {members : List (String × JsonText)} {member : String × JsonText}
    (found : members.find? (isNamed key) = some member) :
    (changeMember key change members).find? (isNamed key) = some (member.1, change member.2) := by
  induction members with
  | nil => cases found
  | cons first rest induction =>
      rw [List.find?_cons] at found
      cases named : isNamed key first with
      | true =>
          rw [named] at found
          have own := Option.some.inj found
          have same : isNamed key (member.1, change member.2) = true := by
            rw [← own]
            exact named
          rw [changeMember, if_pos named, own, List.find?_cons, same]
      | false =>
          rw [named] at found
          rw [changeMember, if_neg (by simp [named]), List.find?_cons, named]
          exact induction found

theorem element_remove {path : List String} {value : JsonText} (some : path ≠ [])
    (once : Unrepeated path value) : element path (remove path value) = none := by
  induction path generalizing value with
  | nil => exact absurd rfl some
  | cons key path induction =>
      cases value with
      | object members =>
          cases path with
          | nil =>
              rw [remove, element]
              rw [once.1]
          | cons next path =>
              rw [remove, element]
              cases found : members.find? (isNamed key) with
              | none => rw [change_member_none found, found]
              | some member =>
                  rw [find_change_member found]
                  apply induction (List.cons_ne_nil next path)
                  exact once.2 member (List.mem_of_find?_eq_some found)
                    (List.find?_some found)
      | literal token => cases path <;> rfl
      | string raw => cases path <;> rfl
      | array items => cases path <;> rfl

theorem unnamed_of_other {key other : String} (apart : key ≠ other) {member : String × JsonText}
    (named : isNamed other member = true) (value : JsonText) :
    isNamed key (member.1, value) = false := by
  rw [isNamed, beq_iff_eq] at named
  rw [isNamed, named]
  exact beq_false_of_ne (Ne.symm apart)

theorem find_change_other {key other : String} (apart : key ≠ other) {change : JsonText → JsonText}
    {members : List (String × JsonText)} :
    (changeMember other change members).find? (isNamed key) = members.find? (isNamed key) := by
  induction members with
  | nil => rfl
  | cons member rest induction =>
      rw [changeMember]
      by_cases named : isNamed other member = true
      · have unnamed : isNamed key member = false := unnamed_of_other apart named member.2
        have still := unnamed_of_other apart named (change member.2)
        rw [if_pos named, List.find?_cons, List.find?_cons, still, unnamed]
      · rw [if_neg named, List.find?_cons, List.find?_cons, induction]

theorem element_remove_other {key other : String} (apart : key ≠ other) (path : List String)
    {rest : List String} (some : rest ≠ []) (value : JsonText) :
    element (key :: path) (remove (other :: rest) value) = element (key :: path) value := by
  cases rest with
  | nil => exact absurd rfl some
  | cons next rest =>
      cases value with
      | object members => rw [remove, element, element, find_change_other apart]
      | literal token => rfl
      | string raw => rfl
      | array items => rfl

theorem erase_change_other {key other : String} (apart : key ≠ other)
    {change : JsonText → JsonText} (members : List (String × JsonText)) :
    (changeMember other change members).eraseP (isNamed key) =
      changeMember other change (members.eraseP (isNamed key)) := by
  induction members with
  | nil => rfl
  | cons member rest induction =>
      rw [changeMember]
      by_cases named : isNamed other member = true
      · have unnamed : isNamed key member = false := unnamed_of_other apart named member.2
        have still := unnamed_of_other apart named (change member.2)
        rw [if_pos named, List.eraseP_cons_of_neg (by simp [still]),
          List.eraseP_cons_of_neg (by simp [unnamed]), changeMember, if_pos named]
      · rw [if_neg named]
        by_cases own : isNamed key member = true
        · rw [List.eraseP_cons_of_pos own, List.eraseP_cons_of_pos own]
        · rw [List.eraseP_cons_of_neg own, List.eraseP_cons_of_neg own, changeMember,
            if_neg named, induction]

theorem mem_change_other {key other : String} (apart : key ≠ other) {change : JsonText → JsonText}
    {members : List (String × JsonText)} {member : String × JsonText}
    (listed : member ∈ changeMember other change members) (own : isNamed key member = true) :
    member ∈ members := by
  induction members with
  | nil => cases listed
  | cons first rest induction =>
      rw [changeMember] at listed
      by_cases named : isNamed other first = true
      · rw [if_pos named] at listed
        cases List.mem_cons.mp listed with
        | inl same =>
            rw [same, unnamed_of_other apart named (change first.2)] at own
            cases own
        | inr later => exact List.mem_cons_of_mem _ later
      · rw [if_neg named] at listed
        cases List.mem_cons.mp listed with
        | inl same =>
            rw [same]
            exact List.mem_cons_self
        | inr later => exact List.mem_cons_of_mem _ (induction later)

theorem unrepeated_remove_other {key other : String} (apart : key ≠ other) {path : List String}
    {rest : List String} (some : rest ≠ []) {value : JsonText}
    (once : Unrepeated (key :: path) value) :
    Unrepeated (key :: path) (remove (other :: rest) value) := by
  cases rest with
  | nil => exact absurd rfl some
  | cons next rest =>
      cases value with
      | object members =>
          constructor
          · rw [erase_change_other apart, find_change_other apart]
            exact once.1
          · intro member listed own
            exact once.2 member (mem_change_other apart listed own) own
      | literal token => trivial
      | string raw => trivial
      | array items => trivial

end Paths

end JsonText
