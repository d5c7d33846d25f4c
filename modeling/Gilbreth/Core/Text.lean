import Mathlib.Data.List.DropRight
import Mathlib.Data.List.Infix
import Mathlib.Data.List.TakeWhile

/-!
# Strings as the capture core compares them

Rust strings are sequences of Unicode scalar values and so are Lean's. The
standard-library calls the repository makes are written out under their own
names. Full Unicode lower-casing is a table outside the repository, so it is a
parameter and no result depends on a particular choice of it.
-/

set_option autoImplicit false

namespace Gilbreth.Core

/-- `str::to_lowercase` of the standard library. -/
class Externals where
  toLowercase : String → String

/-- Lower-casing of the ASCII letters, which is all there is to lower-case in
an ASCII name. -/
@[reducible] def asciiExternals : Externals where
  toLowercase text := String.ofList (text.toList.map Char.toLower)

/-- The placeholder every redaction writes. -/
def redacted : String := "<redacted>"

def contains (text fragment : String) : Bool := decide (fragment.toList <:+: text.toList)

/-- `fragments.iter().any(|fragment| !fragment.is_empty() && text.contains(fragment))`,
the test both redaction rules share. -/
def matchesAny (fragments : List String) (text : String) : Bool :=
  fragments.any fun fragment => fragment != "" && contains text fragment

/-- Some non-empty fragment of the list occurs in the text. -/
def MatchesFragment (fragments : List String) (text : String) : Prop :=
  ∃ fragment ∈ fragments, fragment ≠ "" ∧ contains text fragment = true

theorem matches_any_iff (fragments : List String) (text : String) :
    matchesAny fragments text = true ↔ MatchesFragment fragments text := by
  simp [matchesAny, MatchesFragment, List.any_eq_true]

theorem not_matches_fragment_empty (fragments : List String) : ¬MatchesFragment fragments "" := by
  rintro ⟨fragment, _, nonempty, occurs⟩
  have infix_empty : fragment.toList <:+: [] := of_decide_eq_true occurs
  exact nonempty (String.toList_eq_nil_iff.mp (List.infix_nil.mp infix_empty))

/-- `char::is_whitespace`: the Unicode `White_Space` property. -/
def isWhitespace (char : Char) : Bool :=
  let code := char.toNat
  (9 ≤ code && code ≤ 13) || code == 0x20 || code == 0x85 || code == 0xA0 || code == 0x1680 ||
    (0x2000 ≤ code && code ≤ 0x200A) || code == 0x2028 || code == 0x2029 || code == 0x202F ||
    code == 0x205F || code == 0x3000

def trim (text : String) : String :=
  String.ofList ((text.toList.dropWhile isWhitespace).reverse.dropWhile isWhitespace).reverse

theorem drop_while_initial {drops : Char → Bool} {short long : List Char} (initial : short <+: long)
    (kept : long.dropWhile drops = long) : short.dropWhile drops = short := by
  cases short with
  | nil => rfl
  | cons head tail =>
      rcases initial with ⟨rest, rfl⟩
      rw [List.cons_append, List.dropWhile_cons] at kept
      split_ifs at kept with dropped
      · have longer := congrArg List.length kept
        have shorter := List.length_dropWhile_le drops (tail ++ rest)
        rw [List.length_cons] at longer
        omega
      · rw [List.dropWhile_cons, if_neg dropped]

theorem trim_trim (text : String) : trim (trim text) = trim text := by
  have kept := drop_while_initial
    (List.rdropWhile_prefix isWhitespace (text.toList.dropWhile isWhitespace))
    (List.dropWhile_idempotent isWhitespace text.toList)
  have again := List.rdropWhile_idempotent isWhitespace (text.toList.dropWhile isWhitespace)
  unfold trim
  rw [String.toList_ofList]
  exact congrArg String.ofList ((congrArg (List.rdropWhile isWhitespace) kept).trans again)

/-- `path.rsplit(['\\', '/']).next()`, which always yields a segment. -/
def lastPathSegment (path : String) : String :=
  String.ofList (path.toList.reverse.takeWhile fun char => char != '\\' && char != '/').reverse

theorem last_path_segment_idem (path : String) :
    lastPathSegment (lastPathSegment path) = lastPathSegment path := by
  simp only [lastPathSegment, String.toList_ofList, List.reverse_reverse, List.takeWhile_idem]

/-- `text.strip_suffix(suffix).unwrap_or(text)`. -/
def stripSuffix (text suffix : String) : String :=
  if suffix.toList <:+ text.toList then
    String.ofList (text.toList.take (text.toList.length - suffix.toList.length))
  else text

section Names

variable [Externals]

def exeBasenameLower (exe : String) : String := Externals.toLowercase (trim (lastPathSegment exe))

def notificationMatchKey (label : String) : String := stripSuffix (exeBasenameLower label) ".exe"

end Names

end Gilbreth.Core
