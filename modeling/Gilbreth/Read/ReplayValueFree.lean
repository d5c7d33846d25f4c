import Gilbreth.Read.ReplayExport

/-!
# Replay exports carry no captured content

What an export holds of a selector path, of an excluded stretch and of the labels a user
typed. The final walk over the artifact finds nothing, whatever the tables hold.
-/

set_option autoImplicit false

namespace Gilbreth.Read

open Gilbreth.Core Gilbreth.Store

section Identifiers

/-- A short ASCII identifier without a long number in it. -/
structure IdentifierSafe (text : String) : Prop where
  short : text.length ≤ maxReplayExportSelectorIdentifierChars
  plain : ∀ char ∈ text.toList, char.toNat < 128 ∧ selectorIdentifierChar char = true
  unnumbered : ¬∃ digits, digits <:+: text.toList ∧ digits.length = 6 ∧
    ∀ digit ∈ digits, digit.isDigit = true

theorem digit_run_of_digits {digits rest : List Char} (numeric : ∀ digit ∈ digits,
    digit.isDigit = true) {run : Nat} (before : run < 6) (long : 6 ≤ run + digits.length) :
    digitRun run (digits ++ rest) = true := by
  induction digits generalizing run with
  | nil => simp only [List.length_nil] at long; omega
  | cons digit digits induction =>
      rw [List.cons_append, digitRun, if_pos (numeric digit List.mem_cons_self),
        Bool.or_eq_true_iff]
      by_cases full : 6 ≤ run + 1
      · exact Or.inl (decide_eq_true full)
      · refine Or.inr (induction (fun later member => ?_) (by omega) ?_)
        · exact numeric later (List.mem_cons_of_mem _ member)
        · rw [List.length_cons] at long
          omega

theorem digit_run_inside {chars digits : List Char} (inside : digits <:+: chars)
    (long : digits.length = 6) (numeric : ∀ digit ∈ digits, digit.isDigit = true) {run : Nat}
    (before : run < 6) : digitRun run chars = true := by
  rcases inside with ⟨first, rest, rfl⟩
  induction first generalizing run with
  | nil =>
      rw [List.nil_append]
      exact digit_run_of_digits numeric before (by omega)
  | cons char first induction =>
      rw [List.cons_append, List.cons_append, digitRun]
      split_ifs
      · rw [Bool.or_eq_true_iff]
        by_cases full : 6 ≤ run + 1
        · exact Or.inl (decide_eq_true full)
        · exact Or.inr (induction (by omega))
      · exact induction (by omega)

theorem identifier_char_ascii {char : Char} (allowed : selectorIdentifierChar char = true) :
    char.toNat < 128 := by
  unfold selectorIdentifierChar at allowed
  rcases Bool.or_eq_true_iff.mp allowed with alphanumeric | listed
  · simp only [Char.isAlphanum, Char.isAlpha, Char.isUpper, Char.isLower, Char.isDigit,
      Bool.or_eq_true, Bool.and_eq_true, decide_eq_true_eq] at alphanumeric
    rcases alphanumeric with ((upper | lower) | digit)
    · exact (UInt32.le_iff_toNat_le.mp upper.2).trans_lt (by decide)
    · exact (UInt32.le_iff_toNat_le.mp lower.2).trans_lt (by decide)
    · exact (UInt32.le_iff_toNat_le.mp digit.2).trans_lt (by decide)
  · have member := of_decide_eq_true listed
    revert member
    simp only [List.mem_cons, List.not_mem_nil, or_false]
    rintro (rfl | rfl | rfl | rfl | rfl | rfl | rfl | rfl | rfl) <;> decide

theorem identifier_safe_of_check {text : String} (trimmed : trim text = text)
    (checked : selectorIdentifierIsExportSafe text = true) : IdentifierSafe text := by
  unfold selectorIdentifierIsExportSafe at checked
  rw [trimmed] at checked
  dsimp only at checked
  split_ifs at checked with empty long other
  · subst empty
    refine ⟨by decide, fun char member => absurd member List.not_mem_nil, ?_⟩
    rintro ⟨digits, inside, length, _⟩
    rw [String.toList_empty, List.infix_nil] at inside
    rw [inside] at length
    cases length
  · rw [Bool.not_eq_true', Bool.not_eq_false] at other
    refine ⟨Nat.not_lt.mp long, fun char member => ?_, ?_⟩
    · have allowed := List.all_eq_true.mp other char member
      exact ⟨identifier_char_ascii allowed, allowed⟩
    · rintro ⟨digits, inside, length, numeric⟩
      rw [digit_run_inside inside length numeric (by omega)] at checked
      cases checked

end Identifiers

section Selectors

variable [ReplayExternals]

/-- No number token has white space in it, as in the grammar of JSON. -/
def PlainNumbers : Prop :=
  ∀ text items members key number, StoreExternals.parseJson text = some (.array items) →
    .object members ∈ items → (key, .number number) ∈ members →
      ∀ char ∈ number.toList, isWhitespace char = false

structure HopSafe (hop : ReplaySelectorHopExport) : Prop where
  automationId : IdentifierSafe hop.automationId
  className : IdentifierSafe hop.className
  label : hop.controlTypeLabel = controlTypeLabel hop.controlType

structure SelectorSafe (selector : ReplaySelectorExport) : Prop where
  backend : selector.backend ∈ replayExportSelectorBackends
  hops : ∀ hop ∈ selector.hops, HopSafe hop

/-- The four members of a hop that an export shows. -/
structure HopOf (members : List (String × Json)) (hop : ReplaySelectorHopExport) : Prop where
  automationId : hop.automationId = cleanValueText (member members "automation_id")
  className : hop.className = cleanValueText (member members "class_name")
  controlType : jsonValueIntOrDefault (member members "control_type") (I64.ofInt 0) =
    .ok hop.controlType
  ordinal : jsonValueIntOrDefault (member members "ordinal") (I64.ofInt 0) = .ok hop.ordinal

/-- Hop for hop the objects of the document. -/
def HopsOf (pathJson : Option String) (hops : List ReplaySelectorHopExport) : Prop :=
  ∃ items, StoreExternals.parseJson (cleanText pathJson) = some (.array items) ∧
    List.Forall₂ (fun item hop => ∃ members, item = .object members ∧ HopOf members hop) items hops

/-- A selector of the row's own path. -/
structure SelectorOf (row : RecordingExportStep) (selector : ReplaySelectorExport) : Prop where
  backend : selectorBackendExportValue row.selectorBackend = some selector.backend
  pathHash : selector.pathHash = cleanText row.pathHash
  leafRect : selector.leafRect = parseLeafRect row.leafRect
  hops : HopsOf row.pathJson selector.hops

omit [ReplayExternals] in
theorem trim_plain {text : String} (plain : ∀ char ∈ text.toList, isWhitespace char = false) :
    trim text = text := by
  have kept : ∀ chars : List Char, (∀ char ∈ chars, isWhitespace char = false) →
      chars.dropWhile isWhitespace = chars := by
    intro chars plain
    cases chars with
    | nil => rfl
    | cons char rest =>
        rw [List.dropWhile_cons, plain char List.mem_cons_self, if_neg Bool.false_ne_true]
  unfold trim
  rw [kept _ plain, kept _ fun char member => plain char (List.mem_reverse.mp member),
    List.reverse_reverse, String.ofList_toList]

omit [ReplayExternals] in
theorem clean_value_trimmed {value : Option Json}
    (plain : ∀ number, value = some (.number number) → trim number = number) :
    trim (cleanValueText value) = cleanValueText value := by
  cases value with
  | none => decide
  | some value =>
      cases value with
      | null => decide
      | bool value => cases value <;> decide
      | number text => exact plain text rfl
      | string text => exact trim_trim text
      | array items => exact trim_trim _
      | object members => exact trim_trim _

omit [ReplayExternals] in
theorem mem_of_member {members : List (String × Json)} {key : String} {value : Json}
    (found : member members key = some value) : (key, value) ∈ members := by
  induction members with
  | nil => cases found
  | cons first rest induction =>
      rcases first with ⟨firstKey, firstValue⟩
      rw [member, List.lookup_cons] at found
      split at found
      · cases found
        have same := eq_of_beq ‹_›
        rw [same]
        exact List.mem_cons_self
      · exact List.mem_cons_of_mem _ (induction found)

theorem hop_export_eq {hop : List (String × Json)} {exported : ReplaySelectorHopExport}
    (done : selectorHopExport hop = .ok (some exported)) :
    selectorHopIdentifiersAreExportSafe hop = true ∧ HopOf hop exported ∧
      exported.controlTypeLabel = controlTypeLabel exported.controlType := by
  unfold selectorHopExport at done
  split_ifs at done with refused
  · cases done
  · rw [Bool.not_eq_true', Bool.not_eq_false] at refused
    cases first : jsonValueIntOrDefault (member hop "control_type") (I64.ofInt 0) with
    | error error =>
        rw [first] at done
        cases done
    | ok controlType =>
        cases second : jsonValueIntOrDefault (member hop "ordinal") (I64.ofInt 0) with
        | error error =>
            rw [first, second] at done
            cases done
        | ok ordinal =>
            rw [first, second] at done
            cases done
            exact ⟨refused, ⟨rfl, rfl, first, second⟩, rfl⟩

theorem hop_export_safe {hop : List (String × Json)} {exported : ReplaySelectorHopExport}
    (plain : ∀ key number, (key, .number number) ∈ hop →
      ∀ char ∈ number.toList, isWhitespace char = false)
    (done : selectorHopExport hop = .ok (some exported)) : HopSafe exported := by
  have same := hop_export_eq done
  have checked := (Bool.and_eq_true _ _).mp same.1
  have trimmed : ∀ key, trim (cleanValueText (member hop key)) =
      cleanValueText (member hop key) := by
    intro key
    apply clean_value_trimmed
    intro number found
    exact trim_plain (plain key number (mem_of_member found))
  constructor
  case automationId =>
    rw [same.2.1.automationId]
    exact identifier_safe_of_check (trimmed _) checked.1
  case className =>
    rw [same.2.1.className]
    exact identifier_safe_of_check (trimmed _) checked.2
  case label => exact same.2.2

omit [ReplayExternals] in
theorem forall₂_sides {First Second : Type*} {related : First → Second → Prop}
    {first : List First} {second : List Second} (pairs : List.Forall₂ related first second) :
    (∀ item ∈ second, ∃ row ∈ first, related row item) ∧
      ∀ row ∈ first, ∃ item ∈ second, related row item := by
  induction pairs with
  | nil => simp
  | cons head _ induction =>
      rw [List.forall_mem_cons, List.forall_mem_cons]
      refine ⟨⟨⟨_, List.mem_cons_self, head⟩, fun item member => ?_⟩,
        ⟨_, List.mem_cons_self, head⟩, fun row member => ?_⟩
      · rcases induction.1 item member with ⟨row, listed, related⟩
        exact ⟨row, List.mem_cons_of_mem _ listed, related⟩
      · rcases induction.2 row member with ⟨item, listed, related⟩
        exact ⟨item, List.mem_cons_of_mem _ listed, related⟩

theorem export_hops_pairs {hops : List (List (String × Json))}
    {exported : List ReplaySelectorHopExport} (done : exportHops hops = .ok (some exported)) :
    List.Forall₂ (fun hop item => selectorHopExport hop = .ok (some item)) hops exported := by
  induction hops generalizing exported with
  | nil =>
      cases done
      exact .nil
  | cons hop rest induction =>
      rw [exportHops] at done
      cases first : selectorHopExport hop with
      | error error =>
          rw [first] at done
          cases done
      | ok item =>
          rw [first] at done
          cases item with
          | none => cases done
          | some item =>
              change (exportHops rest >>= _) = _ at done
              cases second : exportHops rest with
              | error error =>
                  rw [second] at done
                  cases done
              | ok later =>
                  rw [second] at done
                  cases later with
                  | none => cases done
                  | some later =>
                      cases done
                      exact .cons first (induction second)

omit [ReplayExternals] in
theorem expected_hops {value : Json} {hops : List (List (String × Json))}
    (expected : expectSelectorHops value = .ok hops) :
    ∃ items, value = .array items ∧ items = hops.map Json.object := by
  cases value with
  | array items =>
      refine ⟨items, rfl, ?_⟩
      rw [expectSelectorHops] at expected
      induction items generalizing hops with
      | nil =>
          cases expected
          rfl
      | cons item rest induction =>
          rw [List.mapM_cons] at expected
          cases item with
          | object members =>
              cases later : rest.mapM hopMembers with
              | error error =>
                  rw [later] at expected
                  cases expected
              | ok found =>
                  rw [later] at expected
                  cases expected
                  rw [List.map_cons, induction later]
          | _ => cases expected
  | _ => cases expected

theorem read_hops_sources {pathJson : String} {hops : List ReplaySelectorHopExport}
    (read : readHops pathJson = .ok (some hops)) :
    ∃ items, StoreExternals.parseJson pathJson = some (.array items) ∧
      List.Forall₂ (fun item hop => ∃ members, item = .object members ∧
        selectorHopExport members = .ok (some hop)) items hops := by
  unfold readHops at read
  cases parsed : StoreExternals.parseJson pathJson with
  | none =>
      rw [parsed] at read
      cases read
  | some value =>
      rw [parsed] at read
      dsimp only at read
      cases free : assertExportForbiddenKeysFree value "$.selector_path_json" with
      | error error =>
          rw [free] at read
          cases read
      | ok _ =>
          rw [free] at read
          cases expected : expectSelectorHops value with
          | error error =>
              rw [expected] at read
              cases read
          | ok found =>
              rw [expected] at read
              rcases expected_hops expected with ⟨items, rfl, same⟩
              refine ⟨items, rfl, ?_⟩
              rw [same, List.forall₂_map_left_iff]
              exact (export_hops_pairs read).imp fun members _ exported => ⟨members, rfl, exported⟩

theorem backend_allowed {value : Option String} {backend : String}
    (allowed : selectorBackendExportValue value = some backend) :
    backend ∈ replayExportSelectorBackends := by
  unfold selectorBackendExportValue at allowed
  simp only [Option.ite_none_right_eq_some, Option.some.injEq] at allowed
  rw [← allowed.2]
  exact allowed.1

theorem block_hops {row : RecordingExportStep} {selector : ReplaySelectorExport}
    (block : selectorExportBlock row = .ok (some selector)) :
    selectorBackendExportValue row.selectorBackend = some selector.backend ∧
      selector.pathHash = cleanText row.pathHash ∧
      selector.leafRect = parseLeafRect row.leafRect ∧
      readHops (cleanText row.pathJson) = .ok (some selector.hops) := by
  unfold selectorExportBlock at block
  dsimp only at block
  split_ifs at block with absent
  · cases block
  · cases read : readHops (cleanText row.pathJson) with
    | error error =>
        rw [read] at block
        cases block
    | ok hops =>
        rw [read] at block
        cases hops with
        | none => cases block
        | some hops =>
            change Except.ok ((selectorBackendExportValue row.selectorBackend).map _) = _ at block
            cases allowed : selectorBackendExportValue row.selectorBackend with
            | none =>
                rw [allowed] at block
                cases block
            | some backend =>
                rw [allowed] at block
                cases block
                exact ⟨rfl, rfl, rfl, rfl⟩

theorem read_hops_of {pathJson : Option String} {hops : List ReplaySelectorHopExport}
    (read : readHops (cleanText pathJson) = .ok (some hops)) : HopsOf pathJson hops := by
  rcases read_hops_sources read with ⟨items, parsed, pairs⟩
  refine ⟨items, parsed, pairs.imp ?_⟩
  rintro item hop ⟨members, same, exported⟩
  exact ⟨members, same, (hop_export_eq exported).2.1⟩

theorem selector_block_of {row : RecordingExportStep} {selector : ReplaySelectorExport}
    (block : selectorExportBlock row = .ok (some selector)) : SelectorOf row selector := by
  rcases block_hops block with ⟨backend, pathHash, leafRect, read⟩
  exact ⟨backend, pathHash, leafRect, read_hops_of read⟩

theorem selector_block_safe (plain : PlainNumbers) {row : RecordingExportStep}
    {selector : ReplaySelectorExport} (block : selectorExportBlock row = .ok (some selector)) :
    SelectorSafe selector := by
  rcases block_hops block with ⟨backend, _, _, read⟩
  rcases read_hops_sources read with ⟨items, parsed, pairs⟩
  refine ⟨backend_allowed backend, fun hop shown => ?_⟩
  rcases (forall₂_sides pairs).1 hop shown with ⟨_, listed, source, rfl, exported⟩
  apply hop_export_safe _ exported
  intro key number inside
  exact plain (cleanText row.pathJson) items source key number parsed listed inside

theorem selector_block_checked {row : RecordingExportStep} {selector : ReplaySelectorExport}
    (block : selectorExportBlock row = .ok (some selector)) : ∀ hop ∈ selector.hops,
      selectorIdentifierIsExportSafe hop.automationId = true ∧
        selectorIdentifierIsExportSafe hop.className = true := by
  rcases read_hops_sources (block_hops block).2.2.2 with ⟨items, _, pairs⟩
  intro hop shown
  rcases (forall₂_sides pairs).1 hop shown with ⟨_, _, source, _, exported⟩
  have same := hop_export_eq exported
  rw [same.2.1.automationId, same.2.1.className]
  exact (Bool.and_eq_true _ _).mp same.1

end Selectors

section Steps

variable [ReplayExternals]

/-- What the branches of one step give. -/
structure StepSelector (mode : String) (row : RecordingExportStep)
    (chosen : String × Option ReplaySelectorExport × Bool) : Prop where
  block : ∀ selector ∈ chosen.2.1, selectorExportBlock row = .ok (some selector)
  gap : row.patternAction = some excludedAppGapPattern →
    chosen.2.1 = none ∧ chosen.2.2 = false
  native : chosen.2.2 = true → mode = replayExportModeNativeSkeleton ∧
    chosen.1 = replayClassEligible ∧ chosen.2.1.isSome = true

theorem hint_block {row : RecordingExportStep} {selector : ReplaySelectorExport}
    (hint : selectorExportHint row = some selector) :
    selectorExportBlock row = .ok (some selector) := by
  unfold selectorExportHint at hint
  cases block : selectorExportBlock row with
  | error error =>
      rw [block] at hint
      cases hint
  | ok found =>
      rw [block] at hint
      exact congrArg Except.ok hint

theorem step_selector {mode : String} {row : RecordingExportStep}
    {chosen : String × Option ReplaySelectorExport × Bool}
    (done : exportSelector mode row = .ok chosen) : StepSelector mode row chosen := by
  unfold exportSelector at done
  split_ifs at done with gap eligible agent
  · cases done
    exact ⟨fun _ none => (Option.not_mem_none _ none).elim, fun _ => ⟨rfl, rfl⟩,
      fun native => by cases native⟩
  · cases block : selectorExportBlock row with
    | error error =>
        rw [block] at done
        cases done
    | ok found =>
        rw [block] at done
        cases found with
        | none =>
            cases done
            exact ⟨fun _ none => (Option.not_mem_none _ none).elim, fun same => absurd same gap,
              fun native => by cases native⟩
        | some selector =>
            cases done
            refine ⟨fun found member => ?_, fun same => absurd same gap,
              fun _ => ⟨eligible.1, eligible.2, rfl⟩⟩
            cases member
            exact block
  · cases done
    exact ⟨fun selector hint => hint_block hint, fun same => absurd same gap,
      fun native => by cases native⟩
  · cases done
    exact ⟨fun _ none => (Option.not_mem_none _ none).elim, fun same => absurd same gap,
      fun native => by cases native⟩

theorem mem_export_steps {mode : String} {startedTs : I64} {labels : I64 → Option String}
    {slots : Nat} {rows : List RecordingExportStep}
    {exported : List ReplayExportStepItem × List ReplayInputSlot}
    (done : exportSteps mode startedTs labels slots rows = .ok exported) :
    List.Forall₂ (fun row item => ∃ chosen slot, exportSelector mode row = .ok chosen ∧
      item = stepItem startedTs labels row chosen.1 chosen.2.1 chosen.2.2 slot)
      rows exported.1 := by
  induction rows generalizing slots exported with
  | nil =>
      cases done
      exact .nil
  | cons row rest induction =>
      rw [exportSteps] at done
      cases chosen : exportSelector mode row with
      | error error =>
          rw [chosen] at done
          cases done
      | ok step =>
          rw [chosen] at done
          dsimp only [Bind.bind, Except.bind] at done
          split_ifs at done
          · cases later : exportSteps mode startedTs labels (slots + 1) rest with
            | error error =>
                rw [later] at done
                cases done
            | ok found =>
                rw [later] at done
                cases done
                exact .cons ⟨step, _, chosen, rfl⟩ (induction later)
          · cases later : exportSteps mode startedTs labels slots rest with
            | error error =>
                rw [later] at done
                cases done
            | ok found =>
                rw [later] at done
                cases done
                exact .cons ⟨step, _, chosen, rfl⟩ (induction later)

end Steps

section Labels

/-- The characters of the Unicode category `Cf`. -/
def unicodeFormat : List (Nat × Nat) :=
  [(0xAD, 0xAD), (0x600, 0x605), (0x61C, 0x61C), (0x6DD, 0x6DD), (0x70F, 0x70F), (0x890, 0x891),
    (0x8E2, 0x8E2), (0x180E, 0x180E), (0x200B, 0x200F), (0x202A, 0x202E), (0x2060, 0x2064),
    (0x2066, 0x206F), (0xFEFF, 0xFEFF), (0xFFF9, 0xFFFB), (0x110BD, 0x110BD), (0x110CD, 0x110CD),
    (0x13430, 0x1343F), (0x1BCA0, 0x1BCA3), (0x1D173, 0x1D17A), (0xE0001, 0xE0001),
    (0xE0020, 0xE007F)]

def FormatChar (char : Char) : Prop :=
  ∃ range ∈ unicodeFormat, range.1 ≤ char.toNat ∧ char.toNat ≤ range.2

/-- A review label as an export may show it. -/
structure LabelClean (label : String) : Prop where
  nonempty : label ≠ ""
  short : label.length ≤ replayExportReviewLabelMaxChars
  plain : ∀ char ∈ label.toList, isControl char = false ∧ ¬FormatChar char

theorem format_char_listed {char : Char} (format : FormatChar char) :
    isUnicodeFormatChar char = true := by
  rcases format with ⟨range, listed, above, below⟩
  simp only [unicodeFormat, List.mem_cons, List.not_mem_nil, or_false] at listed
  unfold isUnicodeFormatChar
  generalize char.toNat = code at above below
  simp only [List.mem_cons, List.not_mem_nil, or_false, Bool.or_eq_true, Bool.and_eq_true,
    decide_eq_true_eq]
  rcases listed with rfl | rfl | rfl | rfl | rfl | rfl | rfl | rfl | rfl | rfl | rfl | rfl |
    rfl | rfl | rfl | rfl | rfl | rfl | rfl | rfl | rfl <;>
  · dsimp only at above below
    omega

theorem mem_split_whitespace {word chars part : List Char} {char : Char}
    (listed : part ∈ splitWhitespace word chars) (member : char ∈ part) :
    char ∈ word ∨ char ∈ chars := by
  induction chars generalizing word with
  | nil =>
      rw [splitWhitespace] at listed
      split_ifs at listed
      · exact absurd listed List.not_mem_nil
      · rw [List.mem_singleton] at listed
        exact Or.inl (listed ▸ member)
  | cons head rest induction =>
      rw [splitWhitespace] at listed
      split_ifs at listed
      · rcases induction listed with inWord | later
        · exact absurd inWord List.not_mem_nil
        · exact Or.inr (List.mem_cons_of_mem _ later)
      · rcases List.mem_cons.mp listed with rfl | listed
        · exact Or.inl member
        · rcases induction listed with inWord | later
          · exact absurd inWord List.not_mem_nil
          · exact Or.inr (List.mem_cons_of_mem _ later)
      · rcases induction listed with inWord | later
        · rcases List.mem_append.mp inWord with inWord | last
          · exact Or.inl inWord
          · rw [List.mem_singleton.mp last]
            exact Or.inr List.mem_cons_self
        · exact Or.inr (List.mem_cons_of_mem _ later)

theorem mem_intercalate {separator : List Char} {parts : List (List Char)} {char : Char}
    (inside : char ∈ List.intercalate separator parts) :
    char ∈ separator ∨ ∃ part ∈ parts, char ∈ part := by
  induction parts with
  | nil => exact absurd inside List.not_mem_nil
  | cons head rest induction =>
      cases rest with
      | nil =>
          refine Or.inr ⟨head, List.mem_cons_self, ?_⟩
          simpa [List.intercalate] using inside
      | cons next rest =>
          rw [List.intercalate_cons_cons, List.mem_append, List.mem_append] at inside
          rcases inside with (first | between) | later
          · exact Or.inr ⟨head, List.mem_cons_self, first⟩
          · exact Or.inl between
          · rcases induction later with between | ⟨part, listed, found⟩
            · exact Or.inl between
            · exact Or.inr ⟨part, List.mem_cons_of_mem _ listed, found⟩

theorem clean_label {labels : I64 → Option String} {seq : I64} {label : String}
    (shown : cleanExportReviewLabels labels seq = some label) : LabelClean label := by
  unfold cleanExportReviewLabels at shown
  rcases Option.bind_eq_some_iff.mp shown with ⟨typed, _, cleaned⟩
  dsimp only at cleaned
  simp only [Option.ite_none_left_eq_some, Option.some.injEq] at cleaned
  rcases cleaned with ⟨nonempty, rfl⟩
  refine ⟨nonempty, ?_, ?_⟩
  · unfold cleanExportReviewLabel
    dsimp only
    split_ifs
    · decide
    · rw [String.length_ofList]
      exact List.length_take_le _ _
  · intro char member
    unfold cleanExportReviewLabel at member
    dsimp only at member
    split_ifs at member
    · exact absurd member List.not_mem_nil
    · rw [String.toList_ofList] at member
      have spaceOrKept : ∀ char, (isControl char || isUnicodeFormatChar char) = false →
          isControl char = false ∧ ¬FormatChar char := by
        intro char kept
        rw [Bool.or_eq_false_iff] at kept
        refine ⟨kept.1, fun format => ?_⟩
        rw [format_char_listed format] at kept
        cases kept.2
      apply spaceOrKept
      rcases mem_intercalate (List.mem_of_mem_take member) with space | ⟨part, listed, inside⟩
      · rw [List.mem_singleton.mp space]
        decide
      · rcases mem_split_whitespace listed inside with none | replaced
        · exact absurd none List.not_mem_nil
        · rcases List.mem_map.mp replaced with ⟨source, _, rfl⟩
          split_ifs with dropped
          · decide
          · exact Bool.eq_false_iff.mpr dropped

end Labels

section Walk

variable [ReplayExternals]

/-- On ASCII both case mappings lower the letters A to Z. -/
structure AsciiCasing : Prop where
  folds : ∀ text : String, (∀ char ∈ text.toList, char.toNat < 128) →
    ReplayExternals.foldString text = asciiExternals.toLowercase text
  lowers : ∀ text : String, (∀ char ∈ text.toList, char.toNat < 128) →
    Externals.toLowercase text = asciiExternals.toLowercase text

def artifactKeys : List String :=
  ["metadata", "steps", "input_slots", "schema", "schema_version", "value_free", "generated_ts",
    "record_session_id", "title", "app_allowlist", "mode", "verdict", "source", "review_labels",
    "state", "export_available", "coverage_line", "app_version", "git_sha", "included",
    "max_chars", "seq", "offset_ms_from_recording_start", "action_type", "pattern_action",
    "intent", "framework_class", "trust_basis", "exe", "replay_class", "native_replayable",
    "selector", "input_slot_ref", "review_label", "slot_id", "at_step_seq", "role", "type",
    "target_selector_ref", "backend", "hops", "path_hash", "leaf_rect", "control_type",
    "control_type_label", "ordinal", "left", "top", "right", "bottom"]

def plainKeyChar (char : Char) : Bool :=
  !isWhitespace char && char.toLower == char && decide (char.toNat < 128)

theorem folded_plain (casing : AsciiCasing) {key : String}
    (plain : key.toList.all plainKeyChar = true) :
    ReplayExternals.foldString (trim key) = key ∧ Externals.toLowercase key = key := by
  have chars : ∀ char ∈ key.toList,
      isWhitespace char = false ∧ char.toLower = char ∧ char.toNat < 128 := by
    intro char member
    have checked := List.all_eq_true.mp plain char member
    simp only [plainKeyChar, Bool.and_eq_true, Bool.not_eq_true', beq_iff_eq,
      decide_eq_true_eq] at checked
    exact ⟨checked.1.1, checked.1.2, checked.2⟩
  have ascii : ∀ char ∈ key.toList, char.toNat < 128 := fun char member =>
    (chars char member).2.2
  have lower : asciiExternals.toLowercase key = key := by
    change String.ofList (key.toList.map Char.toLower) = key
    rw [List.map_congr_left fun char member => (chars char member).2.1, List.map_id',
      String.ofList_toList]
  rw [trim_plain fun char member => (chars char member).1, casing.folds key ascii,
    casing.lowers key ascii, lower]
  exact ⟨rfl, rfl⟩

theorem artifact_key_harmless (casing : AsciiCasing) :
    ∀ key ∈ artifactKeys, isReplayExportForbiddenKey key = false ∧
      isReplayExportSelectorIdentifierKey key = false := by
  have plain : ∀ key ∈ artifactKeys, key.toList.all plainKeyChar = true := by
    decide +kernel
  have harmless : ∀ key ∈ artifactKeys, key ∉
      ["name", "value", "text", "document", "description", "help_text",
        "localized_control_type", "legacyiaccessible", "legacyiaccessible_name",
        "legacyiaccessible_value", "legacyiaccessible_description", "sphere", "spheres"] ∧
      key ∉ ["automation_id", "class_name"] := by
    decide +kernel
  intro key member
  have folded := folded_plain casing (plain key member)
  unfold isReplayExportForbiddenKey isReplayExportSelectorIdentifierKey
  rw [folded.1, folded.2]
  exact ⟨decide_eq_false (harmless key member).1, decide_eq_false (harmless key member).2⟩

theorem identifier_key_allowed (casing : AsciiCasing) {key : String}
    (identifier : key = "automation_id" ∨ key = "class_name") :
    isReplayExportForbiddenKey key = false := by
  unfold isReplayExportForbiddenKey
  rcases identifier with rfl | rfl
  · rw [(folded_plain casing (by decide)).1]
    decide
  · rw [(folded_plain casing (by decide)).1]
    decide

def Passes (value : Json) : Prop := ∀ path, walkExport true path value = .ok ()

def MembersPass (members : List (String × Json)) : Prop :=
  ∀ path, walkMembers true path members = .ok ()

theorem passes_string (text : String) : Passes (.string text) := fun _ => rfl
theorem passes_number (text : String) : Passes (.number text) := fun _ => rfl
theorem passes_bool (value : Bool) : Passes (.bool value) := fun _ => rfl
theorem passes_null : Passes .null := fun _ => rfl

theorem passes_optional_text (value : Option String) : Passes (optionalText value) := by
  cases value with
  | none => exact passes_null
  | some text => exact passes_string text

theorem passes_object {members : List (String × Json)} (pass : MembersPass members) :
    Passes (.object members) := fun path => pass path

theorem passes_array {items : List Json} (pass : ∀ item ∈ items, Passes item) :
    Passes (.array items) := by
  have every : ∀ path index, walkItems true path index items = .ok () := by
    induction items with
    | nil => exact fun _ _ => rfl
    | cons item rest induction =>
        intro path index
        rw [walkItems, pass item List.mem_cons_self]
        exact induction (fun later member => pass later (List.mem_cons_of_mem _ member)) path _
  exact fun path => every path 0

theorem members_pass_nil : MembersPass [] := fun _ => rfl

theorem members_pass_cons {key : String} {value : Json} {rest : List (String × Json)}
    (allowed : isReplayExportForbiddenKey key = false)
    (checked : isReplayExportSelectorIdentifierKey key = true →
      selectorIdentifierIsExportSafeValue (some value) = true)
    (pass : Passes value) (later : MembersPass rest) : MembersPass ((key, value) :: rest) := by
  intro path
  have unchecked : ¬(true && isReplayExportSelectorIdentifierKey key &&
      !selectorIdentifierIsExportSafeValue (some value)) = true := by
    intro unsafeValue
    simp only [Bool.true_and, Bool.and_eq_true, Bool.not_eq_true'] at unsafeValue
    rw [checked unsafeValue.1] at unsafeValue
    cases unsafeValue.2
  rw [walkMembers, allowed, if_neg Bool.false_ne_true, if_neg unchecked, pass]
  exact later path

theorem members_pass_field (casing : AsciiCasing) {key : String} {value : Json}
    {rest : List (String × Json)} (listed : key ∈ artifactKeys) (pass : Passes value)
    (later : MembersPass rest) : MembersPass ((key, value) :: rest) := by
  have harmless := artifact_key_harmless casing key listed
  apply members_pass_cons harmless.1 _ pass later
  intro identifier
  rw [harmless.2] at identifier
  cases identifier

theorem members_pass_skip_none (casing : AsciiCasing) {key : String} {value : Option Json}
    {rest : List (String × Json)} (listed : key ∈ artifactKeys)
    (pass : ∀ found ∈ value, Passes found) (later : MembersPass rest) :
    MembersPass (skipNone key value ++ rest) := by
  cases value with
  | none => exact later
  | some found => exact members_pass_field casing listed (pass found rfl) later

theorem passes_hop (casing : AsciiCasing) {hop : ReplaySelectorHopExport}
    (checked : selectorIdentifierIsExportSafe hop.automationId = true ∧
      selectorIdentifierIsExportSafe hop.className = true) : Passes hop.toValue := by
  have again : ∀ text, selectorIdentifierIsExportSafe text = true →
      selectorIdentifierIsExportSafeValue (some (.string text)) = true := by
    intro text safe
    unfold selectorIdentifierIsExportSafeValue cleanValueText selectorIdentifierIsExportSafe
    rw [trim_trim]
    exact safe
  apply passes_object
  apply members_pass_field casing (by decide) (passes_number _)
  apply members_pass_field casing (by decide) (passes_string _)
  apply members_pass_cons (identifier_key_allowed casing (Or.inl rfl))
    (fun _ => again _ checked.1) (passes_string _)
  apply members_pass_cons (identifier_key_allowed casing (Or.inr rfl))
    (fun _ => again _ checked.2) (passes_string _)
  exact members_pass_field casing (by decide) (passes_number _) members_pass_nil

theorem passes_leaf_rect (casing : AsciiCasing) (rect : ReplayLeafRect) :
    Passes rect.toValue := by
  apply passes_object
  apply members_pass_field casing (by decide) (passes_number _)
  apply members_pass_field casing (by decide) (passes_number _)
  apply members_pass_field casing (by decide) (passes_number _)
  exact members_pass_field casing (by decide) (passes_number _) members_pass_nil

theorem passes_selector (casing : AsciiCasing) {selector : ReplaySelectorExport}
    (checked : ∀ hop ∈ selector.hops, selectorIdentifierIsExportSafe hop.automationId = true ∧
      selectorIdentifierIsExportSafe hop.className = true) : Passes selector.toValue := by
  apply passes_object
  apply members_pass_field casing (by decide) (passes_string _)
  apply members_pass_field casing (by decide)
  · apply passes_array
    intro item member
    rcases List.mem_map.mp member with ⟨hop, listed, rfl⟩
    exact passes_hop casing (checked hop listed)
  apply members_pass_field casing (by decide) (passes_string _)
  change MembersPass (skipNone "leaf_rect" (selector.leafRect.map ReplayLeafRect.toValue))
  rw [← List.append_nil (skipNone _ _)]
  apply members_pass_skip_none casing (by decide) _ members_pass_nil
  intro found member
  rcases Option.map_eq_some_iff.mp member with ⟨rect, _, rfl⟩
  exact passes_leaf_rect casing rect

theorem passes_step (casing : AsciiCasing) {step : ReplayExportStepItem}
    (checked : ∀ selector ∈ step.selector, ∀ hop ∈ selector.hops,
      selectorIdentifierIsExportSafe hop.automationId = true ∧
        selectorIdentifierIsExportSafe hop.className = true) : Passes step.toValue := by
  apply passes_object
  apply members_pass_field casing (by decide) (passes_number _)
  apply members_pass_field casing (by decide) (passes_number _)
  apply members_pass_field casing (by decide) (passes_string _)
  apply members_pass_field casing (by decide) (passes_optional_text _)
  apply members_pass_field casing (by decide) (passes_string _)
  apply members_pass_field casing (by decide) (passes_string _)
  apply members_pass_field casing (by decide) (passes_string _)
  apply members_pass_field casing (by decide) (passes_string _)
  apply members_pass_field casing (by decide) (passes_string _)
  apply members_pass_field casing (by decide) (passes_bool _)
  apply members_pass_field casing (by decide)
  · cases selector : step.selector with
    | none => exact passes_null
    | some found => exact passes_selector casing (checked found selector)
  apply members_pass_field casing (by decide) (passes_optional_text _)
  exact members_pass_field casing (by decide) (passes_optional_text _) members_pass_nil

theorem passes_slot (casing : AsciiCasing) (slot : ReplayInputSlot) : Passes slot.toValue := by
  apply passes_object
  apply members_pass_field casing (by decide) (passes_string _)
  apply members_pass_field casing (by decide) (passes_number _)
  apply members_pass_field casing (by decide) (passes_string _)
  apply members_pass_field casing (by decide) (passes_string _)
  exact members_pass_field casing (by decide) (passes_optional_text _) members_pass_nil

theorem passes_text_option (value : Option String) :
    ∀ found ∈ value.map Json.string, Passes found := by
  intro found member
  rcases Option.map_eq_some_iff.mp member with ⟨text, _, rfl⟩
  exact passes_string text

theorem passes_metadata (casing : AsciiCasing) (metadata : ReplayExportMetadata) :
    Passes metadata.toValue := by
  apply passes_object
  apply members_pass_field casing (by decide) (passes_string _)
  apply members_pass_field casing (by decide) (passes_string _)
  apply members_pass_field casing (by decide) (passes_bool _)
  apply members_pass_field casing (by decide) (passes_string _)
  apply members_pass_field casing (by decide) (passes_number _)
  apply members_pass_field casing (by decide) (passes_optional_text _)
  apply members_pass_field casing (by decide)
  · apply passes_array
    intro item member
    rcases List.mem_map.mp member with ⟨text, _, rfl⟩
    exact passes_string text
  apply members_pass_field casing (by decide) (passes_string _)
  apply members_pass_field casing (by decide)
  · apply passes_object
    apply members_pass_field casing (by decide) (passes_string _)
    apply members_pass_field casing (by decide) (passes_bool _)
    exact members_pass_field casing (by decide) (passes_string _) members_pass_nil
  apply members_pass_field casing (by decide)
  · apply passes_object
    apply members_pass_skip_none casing (by decide) (passes_text_option _)
    rw [← List.append_nil (skipNone _ _)]
    exact members_pass_skip_none casing (by decide) (passes_text_option _) members_pass_nil
  apply members_pass_field casing (by decide) _ members_pass_nil
  apply passes_object
  apply members_pass_field casing (by decide) (passes_bool _)
  apply members_pass_field casing (by decide) (passes_string _)
  exact members_pass_field casing (by decide) (passes_number _) members_pass_nil

theorem artifact_passes (casing : AsciiCasing) {artifact : ReplayExport}
    (checked : ∀ step ∈ artifact.steps, ∀ selector ∈ step.selector, ∀ hop ∈ selector.hops,
      selectorIdentifierIsExportSafe hop.automationId = true ∧
        selectorIdentifierIsExportSafe hop.className = true) :
    assertReplayExportValueFree artifact = .ok () := by
  have passes : Passes artifact.toValue := by
    apply passes_object
    apply members_pass_field casing (by decide) (passes_metadata casing artifact.metadata)
    apply members_pass_field casing (by decide)
    · apply passes_array
      intro item member
      rcases List.mem_map.mp member with ⟨step, listed, rfl⟩
      exact passes_step casing (checked step listed)
    apply members_pass_field casing (by decide) _ members_pass_nil
    apply passes_array
    intro item member
    rcases List.mem_map.mp member with ⟨slot, _, rfl⟩
    exact passes_slot casing slot
  exact passes "$"

end Walk

section Draft

variable [ReplayExternals] {tables : ExportTables} {recordSessionId : Int} {mode : String}
  {verifiedClasses : List String} {generatedTsMs : I64} {stepLabels : I64 → Option String}
  {artifact : ReplayExport}

structure Drafted (tables : ExportTables) (recordSessionId : Int) (mode : String)
    (verifiedClasses : List String) (stepLabels : I64 → Option String)
    (artifact : ReplayExport) : Prop where
  known : mode = replayExportModeAgentGrounded ∨ mode = replayExportModeNativeSkeleton
  closed : ∃ recording, readRecordingExportMetadata tables recordSessionId = some recording ∧
    recording.endedTs.isSome = true ∧ List.Forall₂ (fun row item => ∃ chosen slot,
        exportSelector mode row = .ok chosen ∧ item = stepItem recording.startedTs
          (cleanExportReviewLabels stepLabels) row chosen.1 chosen.2.1 chosen.2.2 slot)
      (readRecordingExportSteps tables recordSessionId true) artifact.steps
  state : artifact.metadata.verdict.state = (recordingReplayVerdict
    (readRecordingExportSteps tables recordSessionId false) verifiedClasses).state
  available : artifact.metadata.verdict.exportAvailable = (recordingReplayVerdict
    (readRecordingExportSteps tables recordSessionId false) verifiedClasses).exportAvailable
  verified : mode = replayExportModeNativeSkeleton →
    artifact.metadata.verdict.exportAvailable = true

theorem draft_from (drafted : draftReplayExport tables recordSessionId mode verifiedClasses
    generatedTsMs stepLabels = .ok artifact) :
    Drafted tables recordSessionId mode verifiedClasses stepLabels artifact := by
  unfold draftReplayExport at drafted
  split_ifs at drafted with unknown
  cases found : readRecordingExportMetadata tables recordSessionId with
  | none =>
      rw [found] at drafted
      cases drafted
  | some recording =>
      rw [found] at drafted
      dsimp only at drafted
      split_ifs at drafted with running unverified
      cases steps : exportSteps mode recording.startedTs (cleanExportReviewLabels stepLabels) 0
          (readRecordingExportSteps tables recordSessionId true) with
      | error error =>
          rw [steps] at drafted
          cases drafted
      | ok exported =>
          rw [steps] at drafted
          cases drafted
          refine ⟨?_, ⟨recording, found, ?_, mem_export_steps steps⟩, rfl, rfl, ?_⟩
          · by_cases agent : mode = replayExportModeAgentGrounded
            · exact Or.inl agent
            · exact Or.inr (not_not.mp fun native => unknown ⟨agent, native⟩)
          · rwa [Bool.not_eq_true, Option.isNone_eq_false_iff] at running
          · intro native
            exact (Bool.not_eq_false _).mp fun unavailable => unverified ⟨native, unavailable⟩

end Draft

section Exposure

variable [ReplayExternals]

/-- All an export can show of a path document: the hops that pass, and whether an input
slot may refer to it. -/
structure PathExposure where
  hops : Option (List ReplaySelectorHopExport)
  readable : Bool

def pathExposure (pathJson : Option String) : PathExposure where
  hops :=
    if cleanText pathJson = "" then none
    else match readHops (cleanText pathJson) with
      | .ok hops => hops
      | .error _ => none
  readable := cleanText pathJson != "" && readableHops (cleanText pathJson)

theorem exposed_hops {pathJson : Option String} {hops : List ReplaySelectorHopExport}
    (exposed : (pathExposure pathJson).hops = some hops) : HopsOf pathJson hops := by
  rw [pathExposure] at exposed
  split_ifs at exposed
  cases read : readHops (cleanText pathJson) with
  | error error =>
      rw [read] at exposed
      cases exposed
  | ok found =>
      rw [read] at exposed
      exact read_hops_of (read.trans (congrArg Except.ok exposed))

/-- Two steps that differ at most in a path document of the same exposure. -/
structure SameStep (left right : RecordingExportStep) : Prop where
  rest : right = { left with pathJson := right.pathJson }
  exposure : pathExposure left.pathJson = pathExposure right.pathJson

structure SameSelector (left right : ExportSelectorRow) : Prop where
  rest : right = { left with pathJson := right.pathJson }
  exposure : pathExposure left.pathJson = pathExposure right.pathJson

/-- The same tables, but for path documents of the same exposure. -/
structure SameTables (left right : ExportTables) : Prop where
  rest : right = { left with selectorPaths := right.selectorPaths }
  paths : Option.Rel (List.Forall₂ SameSelector) left.selectorPaths right.selectorPaths

theorem hint_of_exposure (row : RecordingExportStep) :
    selectorExportHint row =
      if cleanText row.pathHash = "" then none
      else (pathExposure row.pathJson).hops.bind fun hops =>
        (selectorBackendExportValue row.selectorBackend).map fun backend =>
          ⟨backend, hops, cleanText row.pathHash, parseLeafRect row.leafRect⟩ := by
  unfold selectorExportHint selectorExportBlock pathExposure
  dsimp only
  by_cases path : cleanText row.pathJson = ""
  · rw [if_pos (Or.inl path), if_pos path]
    split_ifs <;> rfl
  · by_cases hash : cleanText row.pathHash = ""
    · rw [if_pos (Or.inr hash), if_pos hash]
    · rw [if_neg (not_or.mpr ⟨path, hash⟩), if_neg path, if_neg hash]
      cases readHops (cleanText row.pathJson) with
      | error error => rfl
      | ok hops => cases hops <;> rfl

theorem hint_same {left right : RecordingExportStep} (same : SameStep left right) :
    selectorExportHint right = selectorExportHint left := by
  rw [hint_of_exposure, hint_of_exposure, ← same.exposure, same.rest]

/-- The branches of a step, once its selector is known. -/
def chosenSelector (mode : String) (row : RecordingExportStep) :
    String × Option ReplaySelectorExport × Bool :=
  if row.patternAction = some excludedAppGapPattern then (row.replayClass, none, false)
  else if mode = replayExportModeNativeSkeleton ∧ row.replayClass = replayClassEligible then
    match selectorExportHint row with
    | none => (replayClassNativeGap, none, false)
    | some selector => (row.replayClass, some selector, true)
  else if mode = replayExportModeAgentGrounded then
    (row.replayClass, selectorExportHint row, false)
  else (row.replayClass, none, false)

theorem export_selector_eq {mode : String} {row : RecordingExportStep}
    {chosen : String × Option ReplaySelectorExport × Bool}
    (done : exportSelector mode row = .ok chosen) : chosen = chosenSelector mode row := by
  unfold exportSelector at done
  unfold chosenSelector
  split_ifs at done ⊢
  · cases done
    rfl
  · unfold selectorExportHint
    cases block : selectorExportBlock row with
    | error error =>
        rw [block] at done
        cases done
    | ok found =>
        rw [block] at done
        cases found with
        | none =>
            cases done
            rfl
        | some selector =>
            cases done
            rfl
  · cases done
    rfl
  · cases done
    rfl

theorem chosen_same {left right : RecordingExportStep} (same : SameStep left right)
    (mode : String) : chosenSelector mode right = chosenSelector mode left := by
  have hint := hint_same same
  have sameClass : right.replayClass = left.replayClass := by
    unfold RecordingExportStep.replayClass
    rw [same.rest]
  have pattern := congrArg RecordingExportStep.patternAction same.rest
  unfold chosenSelector
  rw [hint, sameClass, pattern]

theorem step_item_same {left right : RecordingExportStep} (same : SameStep left right)
    (startedTs : I64) (labels : I64 → Option String) (replayClass : String)
    (selector : Option ReplaySelectorExport) (native : Bool) (slot : Option String) :
    stepItem startedTs labels right replayClass selector native slot =
      stepItem startedTs labels left replayClass selector native slot := by
  rw [same.rest]
  rfl

theorem input_slot_same {left right : RecordingExportStep} (same : SameStep left right)
    (slotId : String) : inputSlot right slotId = inputSlot left slotId := by
  have safe : ∀ row : RecordingExportStep, selectorRefIsExportSafe row =
      ((selectorBackendExportValue row.selectorBackend).isSome &&
        (pathExposure row.pathJson).readable) := by
    intro row
    rw [selectorRefIsExportSafe, pathExposure, Bool.and_assoc]
  unfold inputSlot
  rw [safe, safe, ← same.exposure, same.rest]

/-- The loop over the steps, once no path stops it. -/
def assembledSteps (mode : String) (startedTs : I64) (labels : I64 → Option String)
    (slots : Nat) : List RecordingExportStep → List ReplayExportStepItem × List ReplayInputSlot
  | [] => ([], [])
  | row :: rest =>
      let chosen := chosenSelector mode row
      let item := stepItem startedTs labels row chosen.1 chosen.2.1 chosen.2.2
      if cleanText (some row.actionType) = "edit_committed" then
        let slotId := "input_" ++ toString (slots + 1)
        let later := assembledSteps mode startedTs labels (slots + 1) rest
        (item (some slotId) :: later.1, inputSlot row slotId :: later.2)
      else
        let later := assembledSteps mode startedTs labels slots rest
        (item none :: later.1, later.2)

theorem export_steps_eq {mode : String} {startedTs : I64} {labels : I64 → Option String}
    {slots : Nat} {rows : List RecordingExportStep}
    {exported : List ReplayExportStepItem × List ReplayInputSlot}
    (done : exportSteps mode startedTs labels slots rows = .ok exported) :
    exported = assembledSteps mode startedTs labels slots rows := by
  induction rows generalizing slots exported with
  | nil =>
      cases done
      rfl
  | cons row rest induction =>
      rw [exportSteps] at done
      rw [assembledSteps]
      cases chosen : exportSelector mode row with
      | error error =>
          rw [chosen] at done
          cases done
      | ok step =>
          rw [chosen] at done
          rw [← export_selector_eq chosen]
          dsimp only [Bind.bind, Except.bind] at done
          split_ifs at done with committed
          · rw [if_pos committed]
            cases later : exportSteps mode startedTs labels (slots + 1) rest with
            | error error =>
                rw [later] at done
                cases done
            | ok found =>
                rw [later] at done
                cases done
                rw [induction later]
          · rw [if_neg committed]
            cases later : exportSteps mode startedTs labels slots rest with
            | error error =>
                rw [later] at done
                cases done
            | ok found =>
                rw [later] at done
                cases done
                rw [induction later]

theorem assembled_steps_same {mode : String} {startedTs : I64} {labels : I64 → Option String}
    {left right : List RecordingExportStep} (same : List.Forall₂ SameStep left right)
    (slots : Nat) : assembledSteps mode startedTs labels slots right =
      assembledSteps mode startedTs labels slots left := by
  induction same generalizing slots with
  | nil => rfl
  | cons first _ induction =>
      have action := congrArg RecordingExportStep.actionType first.rest
      rw [assembledSteps, assembledSteps, chosen_same first]
      simp only [action, induction, input_slot_same first, step_item_same first]

theorem joined_selector_same {left right : ExportTables} (same : SameTables left right)
    (action : ExportActionRow) :
    Option.Rel SameSelector (joinedSelector left action) (joinedSelector right action) := by
  have found : ∀ {leftPaths rightPaths : List ExportSelectorRow} (selectorId : Int),
      List.Forall₂ SameSelector leftPaths rightPaths → Option.Rel SameSelector
        (leftPaths.find? fun path => path.selectorId == selectorId)
        (rightPaths.find? fun path => path.selectorId == selectorId) := by
    intro leftPaths rightPaths selectorId paths
    induction paths with
    | nil => exact .none
    | cons first _ induction =>
        rw [List.find?_cons, List.find?_cons, congrArg ExportSelectorRow.selectorId first.rest]
        dsimp only
        split
        · exact .some first
        · exact induction
  unfold joinedSelector
  have listed := same.paths
  generalize left.selectorPaths = leftPaths at listed ⊢
  generalize right.selectorPaths = rightPaths at listed ⊢
  cases listed with
  | none => exact .none
  | some paths =>
      cases action.selectorId with
      | none => exact .none
      | some selectorId => exact found selectorId paths

theorem paths_present_same {left right : ExportTables} (same : SameTables left right) :
    right.selectorPaths.isSome = left.selectorPaths.isSome := by
  have paths := same.paths
  generalize left.selectorPaths = leftPaths at paths ⊢
  generalize right.selectorPaths = rightPaths at paths ⊢
  cases paths with
  | none => rfl
  | some paths => rfl

theorem export_step_same {left right : ExportTables} (same : SameTables left right)
    (action : ExportActionRow) :
    SameStep (exportStep left true action) (exportStep right true action) := by
  have joined := joined_selector_same same action
  have present := paths_present_same same
  have column : right.hasFrameworkClass = left.hasFrameworkClass := by rw [same.rest]
  unfold exportStep
  rw [present, column]
  generalize joinedSelector left action = leftSelector at joined ⊢
  generalize joinedSelector right action = rightSelector at joined ⊢
  cases joined with
  | none => exact ⟨rfl, rfl⟩
  | some paths =>
      refine ⟨?_, paths.exposure⟩
      rw [paths.rest]
      rfl

theorem verdict_step_same {left right : ExportTables} (same : SameTables left right)
    (action : ExportActionRow) : exportStep right false action = exportStep left false action := by
  have joined := joined_selector_same same action
  have present := paths_present_same same
  have column : right.hasFrameworkClass = left.hasFrameworkClass := by rw [same.rest]
  unfold exportStep
  rw [present, column]
  generalize joinedSelector left action = leftSelector at joined ⊢
  generalize joinedSelector right action = rightSelector at joined ⊢
  cases joined with
  | none => rfl
  | some paths =>
      rw [paths.rest]
      rfl

theorem export_rows_same {left right : ExportTables} (same : SameTables left right)
    (recordSessionId : Int) :
    List.Forall₂ SameStep (readRecordingExportSteps left recordSessionId true)
        (readRecordingExportSteps right recordSessionId true) ∧
      readRecordingExportSteps right recordSessionId false =
        readRecordingExportSteps left recordSessionId false := by
  have actions : recordedActions right recordSessionId = recordedActions left recordSessionId := by
    rw [same.rest]
    rfl
  unfold readRecordingExportSteps
  rw [actions]
  refine ⟨?_, List.map_congr_left fun action _ => verdict_step_same same action⟩
  rw [List.forall₂_map_left_iff, List.forall₂_map_right_iff, List.forall₂_same]
  exact fun action _ => export_step_same same action

theorem draft_same {left right : ExportTables} (same : SameTables left right)
    {recordSessionId : Int} {mode : String} {verifiedClasses : List String} {generatedTsMs : I64}
    {stepLabels : I64 → Option String} {leftArtifact rightArtifact : ReplayExport}
    (leftDraft : draftReplayExport left recordSessionId mode verifiedClasses generatedTsMs
      stepLabels = .ok leftArtifact)
    (rightDraft : draftReplayExport right recordSessionId mode verifiedClasses generatedTsMs
      stepLabels = .ok rightArtifact) : rightArtifact = leftArtifact := by
  have rows := export_rows_same same recordSessionId
  have metadata : readRecordingExportMetadata right recordSessionId =
      readRecordingExportMetadata left recordSessionId := by
    rw [same.rest]
    rfl
  have programs : appAllowlist (readRecordingExportSteps right recordSessionId true) =
      appAllowlist (readRecordingExportSteps left recordSessionId true) := by
    have names : ∀ {first second : List RecordingExportStep}, List.Forall₂ SameStep first second →
        (second.filterMap fun step => (nonEmpty step.exe).map displayApp) =
          first.filterMap fun step => (nonEmpty step.exe).map displayApp := by
      intro first second steps
      induction steps with
      | nil => rfl
      | cons head _ induction =>
          rw [List.filterMap_cons, List.filterMap_cons, induction,
            congrArg RecordingExportStep.exe head.rest]
    unfold appAllowlist
    rw [names rows.1]
  unfold draftReplayExport at leftDraft rightDraft
  dsimp only at leftDraft rightDraft
  rw [metadata, rows.2, programs] at rightDraft
  by_cases unknown : mode ≠ replayExportModeAgentGrounded ∧ mode ≠ replayExportModeNativeSkeleton
  · rw [if_pos unknown] at leftDraft
    cases leftDraft
  rw [if_neg unknown] at leftDraft rightDraft
  cases found : readRecordingExportMetadata left recordSessionId with
  | none =>
      rw [found] at leftDraft
      cases leftDraft
  | some recording =>
      rw [found] at leftDraft rightDraft
      dsimp only at leftDraft rightDraft
      split_ifs at leftDraft rightDraft
      cases first : exportSteps mode recording.startedTs (cleanExportReviewLabels stepLabels) 0
          (readRecordingExportSteps left recordSessionId true) with
      | error error =>
          rw [first] at leftDraft
          cases leftDraft
      | ok leftExport =>
          cases second : exportSteps mode recording.startedTs
              (cleanExportReviewLabels stepLabels) 0
              (readRecordingExportSteps right recordSessionId true) with
          | error error =>
              rw [second] at rightDraft
              cases rightDraft
          | ok rightExport =>
              rw [first] at leftDraft
              rw [second] at rightDraft
              have steps := (export_steps_eq second).trans
                ((assembled_steps_same rows.1 0).trans (export_steps_eq first).symm)
              subst steps
              cases leftDraft
              cases rightDraft
              rfl

end Exposure

section ValueFree

variable [ReplayExternals] (tables : ExportTables) (recordSessionId : Int) (mode : String)
  (verifiedClasses : List String) (generatedTsMs : I64) (stepLabels : I64 → Option String)

/-- What a user who shares an artifact may rely on. -/
structure ValueFreeExport (artifact : ReplayExport) : Prop where
  selectors : ∀ step ∈ artifact.steps, ∀ selector ∈ step.selector, SelectorSafe selector
  sources : List.Forall₂ (fun row step => ∀ selector ∈ step.selector, SelectorOf row selector)
    (readRecordingExportSteps tables recordSessionId true) artifact.steps
  exposed : ∀ pathJson, ∀ hops ∈ (pathExposure pathJson).hops, HopsOf pathJson hops
  paths : ∀ other, SameTables tables other → ∀ otherArtifact,
    buildReplayExport other recordSessionId mode verifiedClasses generatedTsMs stepLabels =
      .ok otherArtifact → otherArtifact = artifact
  gaps : ∀ step ∈ artifact.steps, step.patternAction = some excludedAppGapPattern →
    step.selector = none ∧ step.nativeReplayable = false
  native : ∀ step ∈ artifact.steps, step.nativeReplayable = true →
    mode = replayExportModeNativeSkeleton ∧
      artifact.metadata.verdict.exportAvailable = true ∧
      (recordingReplayVerdict (readRecordingExportSteps tables recordSessionId false)
        verifiedClasses).exportAvailable = true ∧
      step.replayClass = replayClassEligible ∧ step.selector.isSome = true
  labels : ∀ step ∈ artifact.steps, ∀ label ∈ step.reviewLabel, LabelClean label
  closed : ∃ recording, readRecordingExportMetadata tables recordSessionId = some recording ∧
    recording.endedTs.isSome = true

/-- A path that an export does not show: none, without a hash, of an unlisted backend, or
with a hop that is refused. -/
def Unexportable (row : RecordingExportStep) : Prop :=
  cleanText row.pathHash = "" ∨ (pathExposure row.pathJson).hops = none ∨
    selectorBackendExportValue row.selectorBackend = none

/-- No excluded stretch whose pattern stands between white space shows a path. -/
def NoPaddedGap : Prop :=
  mode = replayExportModeAgentGrounded →
    ∀ row ∈ readRecordingExportSteps tables recordSessionId true,
      cleanText row.patternAction = excludedAppGapPattern →
        row.patternAction ≠ some excludedAppGapPattern → Unexportable row

variable {tables recordSessionId mode verifiedClasses generatedTsMs stepLabels}

theorem unexportable_iff (row : RecordingExportStep) :
    Unexportable row ↔ selectorExportHint row = none := by
  rw [hint_of_exposure, Unexportable]
  split_ifs with hash
  · exact iff_of_true (Or.inl hash) rfl
  · rw [or_iff_right hash, Option.bind_eq_none_iff]
    cases (pathExposure row.pathJson).hops with
    | none => exact iff_of_true (Or.inl rfl) fun _ none => (Option.not_mem_none _ none).elim
    | some hops => simp

omit [ReplayExternals] in
theorem gap_not_eligible {row : RecordingExportStep}
    (gap : cleanText row.patternAction = excludedAppGapPattern) :
    row.replayClass ≠ replayClassEligible := by
  have unlisted : excludedAppGapPattern ∉ replayPatterns := by decide
  unfold RecordingExportStep.replayClass stepReplayClass
  dsimp only
  rw [gap]
  split_ifs <;> decide

omit [ReplayExternals] in
theorem shown_gap_iff (value : Option String) :
    nonEmpty value = some excludedAppGapPattern ↔ cleanText value = excludedAppGapPattern := by
  cases value with
  | none => exact iff_of_false (fun none => by cases none) (by decide)
  | some text =>
      simp only [nonEmpty, Option.bind_some, Option.ite_none_left_eq_some, Option.some.injEq,
        and_iff_right_iff_imp]
      rintro same
      rw [same]
      decide

theorem built_from_draft {artifact : ReplayExport}
    (built : buildReplayExport tables recordSessionId mode verifiedClasses generatedTsMs
      stepLabels = .ok artifact) :
    draftReplayExport tables recordSessionId mode verifiedClasses generatedTsMs stepLabels =
      .ok artifact := by
  unfold buildReplayExport at built
  cases drafted : draftReplayExport tables recordSessionId mode verifiedClasses generatedTsMs
      stepLabels with
  | error error =>
      rw [drafted] at built
      cases built
  | ok draft =>
      rw [drafted] at built
      change (assertReplayExportValueFree draft >>= fun _ => .ok draft) = .ok artifact at built
      cases checked : assertReplayExportValueFree draft with
      | error error =>
          rw [checked] at built
          cases built
      | ok _ =>
          rw [checked] at built
          exact built

theorem draft_checked {artifact : ReplayExport} (casing : AsciiCasing)
    (drafted : draftReplayExport tables recordSessionId mode verifiedClasses generatedTsMs
      stepLabels = .ok artifact) : assertReplayExportValueFree artifact = .ok () := by
  rcases (draft_from drafted).closed with ⟨recording, _, _, pairs⟩
  apply artifact_passes casing
  intro step member selector shown
  rcases (forall₂_sides pairs).1 step member with ⟨row, _, chosen, slot, done, rfl⟩
  exact selector_block_checked ((step_selector done).block selector shown)

theorem built_of_draft {artifact : ReplayExport} (casing : AsciiCasing)
    (drafted : draftReplayExport tables recordSessionId mode verifiedClasses generatedTsMs
      stepLabels = .ok artifact) :
    buildReplayExport tables recordSessionId mode verifiedClasses generatedTsMs stepLabels =
      .ok artifact := by
  unfold buildReplayExport
  rw [drafted]
  dsimp only [Bind.bind, Except.bind]
  rw [draft_checked casing drafted]
  rfl

theorem gaps_iff_no_padded_gap {artifact : ReplayExport}
    (drafted : Drafted tables recordSessionId mode verifiedClasses stepLabels artifact) :
    (∀ step ∈ artifact.steps, step.patternAction = some excludedAppGapPattern →
      step.selector = none ∧ step.nativeReplayable = false) ↔
      NoPaddedGap tables recordSessionId mode := by
  rcases drafted.closed with ⟨recording, _, _, pairs⟩
  rcases forall₂_sides pairs with ⟨fromRow, toItem⟩
  constructor
  · intro gaps agent row listed gap padded
    rcases toItem row listed with ⟨item, member, chosen, slot, done, rfl⟩
    have shown := (gaps _ member ((shown_gap_iff _).mpr gap)).1
    change chosen.2.1 = none at shown
    rw [export_selector_eq done, chosenSelector, if_neg padded,
      if_neg fun native => gap_not_eligible gap native.2, if_pos agent] at shown
    exact (unexportable_iff row).mpr shown
  · rintro unpadded item member shown
    rcases fromRow item member with ⟨row, listed, chosen, slot, done, rfl⟩
    have gap := (shown_gap_iff _).mp shown
    change chosen.2.1 = none ∧ chosen.2.2 = false
    by_cases exact_gap : row.patternAction = some excludedAppGapPattern
    · exact (step_selector done).gap exact_gap
    · rw [export_selector_eq done, chosenSelector, if_neg exact_gap,
        if_neg fun native => gap_not_eligible gap native.2]
      split_ifs with agent
      · exact ⟨(unexportable_iff row).mp (unpadded agent row listed gap exact_gap), rfl⟩
      · exact ⟨rfl, rfl⟩

/-- The final walk never fails, and an artifact is value-free exactly when no excluded
stretch hides its pattern behind white space. -/
theorem replay_export_value_free_iff (plain : PlainNumbers) (casing : AsciiCasing)
    (tables : ExportTables) (recordSessionId : Int) (mode : String)
    (verifiedClasses : List String) (generatedTsMs : I64) (stepLabels : I64 → Option String) :
    (∀ artifact, draftReplayExport tables recordSessionId mode verifiedClasses generatedTsMs
      stepLabels = .ok artifact → assertReplayExportValueFree artifact = .ok ()) ∧
    ∀ artifact, buildReplayExport tables recordSessionId mode verifiedClasses generatedTsMs
      stepLabels = .ok artifact →
        (ValueFreeExport tables recordSessionId mode verifiedClasses generatedTsMs stepLabels
          artifact ↔ NoPaddedGap tables recordSessionId mode) := by
  have sources : ∀ artifact, draftReplayExport tables recordSessionId mode verifiedClasses
      generatedTsMs stepLabels = .ok artifact → ∀ step ∈ artifact.steps,
        ∃ row, (∀ selector ∈ step.selector, selectorExportBlock row = .ok (some selector)) ∧
          (step.nativeReplayable = true → mode = replayExportModeNativeSkeleton ∧
            step.replayClass = replayClassEligible ∧ step.selector.isSome = true) ∧
          step.reviewLabel = cleanExportReviewLabels stepLabels row.seq := by
    intro artifact drafted step member
    rcases (draft_from drafted).closed with ⟨recording, _, _, pairs⟩
    rcases (forall₂_sides pairs).1 step member with ⟨row, _, chosen, slot, done, rfl⟩
    have facts := step_selector done
    exact ⟨row, facts.block, facts.native, rfl⟩
  constructor
  · exact fun artifact drafted => draft_checked casing drafted
  · intro artifact built
    have drafted := built_from_draft built
    have facts := draft_from drafted
    rw [← gaps_iff_no_padded_gap facts]
    constructor
    · exact ValueFreeExport.gaps
    · intro gaps
      constructor
      case selectors =>
        intro step member selector shown
        rcases sources artifact drafted step member with ⟨row, block, _⟩
        exact selector_block_safe plain (block selector shown)
      case sources =>
        rcases facts.closed with ⟨recording, _, _, pairs⟩
        apply pairs.imp
        rintro row step ⟨chosen, slot, done, rfl⟩ selector shown
        exact selector_block_of ((step_selector done).block selector shown)
      case exposed => exact fun _ _ => exposed_hops
      case paths =>
        intro other same otherArtifact otherBuilt
        exact draft_same same drafted (built_from_draft otherBuilt)
      case gaps => exact gaps
      case native =>
        intro step member replayable
        rcases sources artifact drafted step member with ⟨row, _, native, _⟩
        have chosen := native replayable
        have available := facts.verified chosen.1
        exact ⟨chosen.1, available, facts.available.symm.trans available, chosen.2⟩
      case labels =>
        intro step member label shown
        rcases sources artifact drafted step member with ⟨row, _, _, same⟩
        rw [same] at shown
        exact clean_label shown
      case closed =>
        rcases facts.closed with ⟨recording, found, ended, _⟩
        exact ⟨recording, found, ended⟩

end ValueFree

section Examples

private def savePath : String :=
  "[\x7b\"automation_id\":\"save\",\"class_name\":\"Button\",\"control_type\":50000\x7d]"

/-- The tables behind the calls, as far as one recording reads them. -/
@[reducible] private def handoffExternals : ReplayExternals where
  toLowercase := asciiExternals.toLowercase
  parseJson text :=
    if text = savePath then
      some (.array [.object [("automation_id", .string "save"), ("class_name", .string "Button"),
        ("control_type", .number "50000")]])
    else none
  sha256Hex _ := ""
  foldString := asciiExternals.toLowercase
  exportGeneratedTs _ := "1970-01-01T00:00:00.000Z"
  debugText text := text
  numberAsI64 text := parseI64 text
  numberAsF64 _ := none
  percent _ := 0

/-- A closed recording of one step with the path of a button. -/
private def handoffTables (patternAction : String) : ExportTables where
  sessions := [⟨1, some "0.1.0", none⟩]
  recordSessions := some [⟨20, 1, I64.ofInt 2000, some (I64.ofInt 5000)⟩]
  selectorPaths := some [⟨30, some "hash", some "uia", some savePath, none⟩]
  actionEvents := some [⟨20, I64.ofInt 1, I64.ofInt 2500, "ui_action_other", some patternAction,
    some 30, "unknown", "scoped_invoke_sender", none⟩]
  hasFrameworkClass := true

private def handoff (patternAction : String) : Except String ReplayExport :=
  @draftReplayExport handoffExternals (handoffTables patternAction) 20
    replayExportModeAgentGrounded [] (I64.ofInt 0) fun _ => none

private theorem handoff_numbers_plain : @PlainNumbers handoffExternals := by
  intro text items members key number parsed object listed
  change (if text = savePath then _ else none) = _ at parsed
  rw [Option.ite_none_right_eq_some] at parsed
  rcases parsed with ⟨_, parsed⟩
  cases parsed
  cases List.mem_singleton.mp object
  simp only [List.mem_cons, Prod.mk.injEq, Json.number.injEq, reduceCtorEq, and_false,
    List.not_mem_nil, or_false, false_or] at listed
  rw [listed.2]
  have plain : ("50000".toList.all fun char => !isWhitespace char) = true := by decide
  intro char inside
  simpa using List.all_eq_true.mp plain char inside

private theorem handoff_casing : @AsciiCasing handoffExternals :=
  @AsciiCasing.mk handoffExternals (fun _ _ => rfl) fun _ _ => rfl

theorem replay_export_value_free_gap :
    ∃ artifact, @buildReplayExport handoffExternals (handoffTables excludedAppGapPattern) 20
        replayExportModeAgentGrounded [] (I64.ofInt 0) (fun _ => none) = .ok artifact ∧
      @ValueFreeExport handoffExternals (handoffTables excludedAppGapPattern) 20
        replayExportModeAgentGrounded [] (I64.ofInt 0) (fun _ => none) artifact := by
  have done : (handoff excludedAppGapPattern).toBool = true := by decide +kernel
  cases drafted : handoff excludedAppGapPattern with
  | error error =>
      rw [drafted] at done
      cases done
  | ok artifact =>
      have built := @built_of_draft handoffExternals _ _ _ _ _ _ artifact handoff_casing drafted
      refine ⟨artifact, built, ((@replay_export_value_free_iff handoffExternals
        handoff_numbers_plain handoff_casing (handoffTables excludedAppGapPattern) 20
        replayExportModeAgentGrounded [] (I64.ofInt 0) fun _ => none).2 artifact built).mpr ?_⟩
      intro _ row listed _ padded
      have patterns : (readRecordingExportSteps (handoffTables excludedAppGapPattern) 20
          true).map RecordingExportStep.patternAction = [some excludedAppGapPattern] := by
        decide +kernel
      have exact_gap : row.patternAction ∈ (readRecordingExportSteps
          (handoffTables excludedAppGapPattern) 20 true).map RecordingExportStep.patternAction :=
        List.mem_map.mpr ⟨row, listed, rfl⟩
      rw [patterns, List.mem_singleton] at exact_gap
      exact absurd exact_gap padded

/-- A pattern with a blank before it is shown as an excluded stretch, with its selector. -/
theorem padded_gap_shows_selector :
    ¬∀ (externals : ReplayExternals), @PlainNumbers externals → @AsciiCasing externals →
      ∀ (tables : ExportTables) (recordSessionId : Int) (mode : String)
        (verifiedClasses : List String) (generatedTsMs : I64) (stepLabels : I64 → Option String)
        (artifact : ReplayExport),
        @buildReplayExport externals tables recordSessionId mode verifiedClasses generatedTsMs
          stepLabels = .ok artifact →
        @ValueFreeExport externals tables recordSessionId mode verifiedClasses generatedTsMs
          stepLabels artifact := by
  intro all
  have shown : (handoff " excluded_app_gap").toOption.map (fun artifact =>
      artifact.steps.map fun step => (step.patternAction, step.selector.isSome)) =
        some [(some excludedAppGapPattern, true)] := by
    decide +kernel
  cases drafted : handoff " excluded_app_gap" with
  | error error =>
      rw [drafted] at shown
      cases shown
  | ok artifact =>
      rw [drafted] at shown
      have steps : (artifact.steps.map fun step => (step.patternAction, step.selector.isSome)) =
          [(some excludedAppGapPattern, true)] := Option.some.inj shown
      have built := @built_of_draft handoffExternals _ _ _ _ _ _ artifact handoff_casing drafted
      have free := all handoffExternals handoff_numbers_plain handoff_casing _ _ _ _ _ _ artifact
        built
      have listed : (some excludedAppGapPattern, true) ∈
          artifact.steps.map fun step => (step.patternAction, step.selector.isSome) := by
        rw [steps]
        exact List.mem_cons_self
      rcases List.mem_map.mp listed with ⟨step, member, same⟩
      have gaps := @ValueFreeExport.gaps handoffExternals _ _ _ _ _ _ _ free
      have hidden := (gaps step member (Prod.mk.inj same).1).1
      have visible := (Prod.mk.inj same).2
      rw [hidden] at visible
      cases visible

end Examples

end Gilbreth.Read
