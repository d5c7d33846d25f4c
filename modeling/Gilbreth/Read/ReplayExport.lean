import Gilbreth.Read.Readers
import Gilbreth.Read.ReplaySteps

/-!
# The replay export

The artifact of one recording for an agent or a native replayer. Nothing of a selector
path leaves but its backend, its hash and, hop by hop, two identifiers that pass a strict
filter and two integers; the finished artifact is walked once more before it is returned.
-/

set_option autoImplicit false

namespace Gilbreth.Read

open Gilbreth.Core Gilbreth.Store

def replayExportModeAgentGrounded : String := "agent_grounded"
def replayExportModeNativeSkeleton : String := "native_skeleton"
def recordingExportSchema : String := "gilbreth.replay_export.v1"
def recordingExportSchemaVersion : String := "1.1"
def excludedAppGapLabel : String := "Steps in an excluded app were not recorded."
def replayExportReviewLabelMaxChars : Nat := 120
def maxReplayExportSelectorIdentifierChars : Nat := 256

def replayExportSelectorBackends : List String :=
  ["cef", "chrome", "chromium", "citrix", "directui", "edge", "electron", "firefox", "mshtml",
    "qt", "qt5", "qt6", "rdp", "remote", "uia", "unknown", "vnc", "vmware", "webview2",
    "windowsforms", "win32", "wpf", "xaml"]

section Labels

def isUnicodeFormatChar (char : Char) : Bool :=
  let code := char.toNat
  decide (code ∈ [0xAD, 0x61C, 0x6DD, 0x70F, 0x8E2, 0x180E, 0xFEFF, 0x110BD, 0x110CD, 0xE0001]) ||
    (0x600 ≤ code && code ≤ 0x605) || (0x890 ≤ code && code ≤ 0x891) ||
    (0x200B ≤ code && code ≤ 0x200F) || (0x202A ≤ code && code ≤ 0x202E) ||
    (0x2060 ≤ code && code ≤ 0x206F) || (0xFFF9 ≤ code && code ≤ 0xFFFB) ||
    (0x13430 ≤ code && code ≤ 0x1343F) || (0x1BCA0 ≤ code && code ≤ 0x1BCA3) ||
    (0x1D173 ≤ code && code ≤ 0x1D17A) || (0xE0020 ≤ code && code ≤ 0xE007F)

/-- `str::split_whitespace`, with the word that is being read. -/
def splitWhitespace (word : List Char) : List Char → List (List Char)
  | [] => if word = [] then [] else [word]
  | char :: rest =>
      if isWhitespace char then
        if word = [] then splitWhitespace [] rest else word :: splitWhitespace [] rest
      else splitWhitespace (word ++ [char]) rest

def cleanExportReviewLabel (value : String) : String :=
  let text := cleanText (some value)
  if text = "" then ""
  else
    let replaced := text.toList.map fun char =>
      if isControl char || isUnicodeFormatChar char then ' ' else char
    String.ofList ((List.intercalate [' '] (splitWhitespace [] replaced)).take
      replayExportReviewLabelMaxChars)

/-- The labels that say something, by the number of their step. -/
def cleanExportReviewLabels (labels : I64 → Option String) : I64 → Option String := fun seq =>
  (labels seq).bind fun label =>
    let value := cleanExportReviewLabel label
    if value = "" then none else some value

end Labels

section Values

variable [ReplayExternals]

def escapeJsonChar (char : Char) : List Char :=
  match char with
  | '"' => ['\\', '"']
  | '\\' => ['\\', '\\']
  | '\n' => ['\\', 'n']
  | '\r' => ['\\', 'r']
  | '\t' => ['\\', 't']
  | char =>
      if char.toNat = 8 then ['\\', 'b']
      else if char.toNat = 12 then ['\\', 'f']
      else if char.toNat < 0x20 then
        '\\' :: 'u' :: '0' :: '0' :: Nat.digitChar (char.toNat / 16) ::
          [Nat.digitChar (char.toNat % 16)]
      else [char]

def quoteJson (text : String) : List Char := '"' :: text.toList.flatMap escapeJsonChar ++ ['"']

mutual

/-- `Value::to_string`: the compact form. -/
def compactJson : Json → List Char
  | .null => "null".toList
  | .bool value => (toString value).toList
  | .number text => text.toList
  | .string text => quoteJson text
  | .array items => '[' :: compactItems true items ++ [']']
  | .object members => '{' :: compactMembers true members ++ ['}']

def compactItems (first : Bool) : List Json → List Char
  | [] => []
  | item :: rest => (if first then [] else [',']) ++ compactJson item ++ compactItems false rest

def compactMembers (first : Bool) : List (String × Json) → List Char
  | [] => []
  | (key, value) :: rest =>
      (if first then [] else [',']) ++ quoteJson key ++ ':' :: compactJson value ++
        compactMembers false rest

end

def cleanValueText (value : Option Json) : String :=
  match value with
  | none | some .null => ""
  | some (.string text) => trim text
  | some (.bool value) => if value then "True" else "False"
  | some (.number text) => text
  | some value => trim (String.ofList (compactJson value))

/-- `map.get(key)` -/
def member (members : List (String × Json)) (key : String) : Option Json :=
  members.lookup key

/-- `str::parse::<i64>`: a sign, digits, and a value that fits. -/
def parseI64 (text : String) : Option I64 :=
  let digits (chars : List Char) : Option Nat :=
    if chars ≠ [] ∧ chars.all Char.isDigit = true then
      some (chars.foldl (fun value char => value * 10 + (char.toNat - 48)) 0)
    else none
  let value : Option Int := match text.toList with
    | '-' :: chars => (digits chars).map fun value => -(value : Int)
    | '+' :: chars => (digits chars).map Int.ofNat
    | chars => (digits chars).map Int.ofNat
  value.bind fun value =>
    if (I64.ofInt value).val = value then some (I64.ofInt value) else none

def jsonValueIntOrDefault (value : Option Json) (default : I64) : Except String I64 :=
  match value with
  | none => .ok default
  | some (.bool value) => .ok (I64.ofInt (if value then 1 else 0))
  | some (.number text) =>
      match (ReplayExternals.numberAsI64 text).or (ReplayExternals.numberAsF64 text) with
      | some value => .ok value
      | none => .error "selector integer is not representable"
  | some (.string text) =>
      match parseI64 text with
      | some value => .ok value
      | none => .error "selector integer is not valid"
  | _ => .error "selector integer is not valid"

end Values

section Selectors

variable [ReplayExternals]

/-- Whether six digits stand in a row, after so many already. -/
def digitRun (run : Nat) : List Char → Bool
  | [] => false
  | char :: rest =>
      if char.isDigit then decide (6 ≤ run + 1) || digitRun (run + 1) rest else digitRun 0 rest

def selectorIdentifierChar (char : Char) : Bool :=
  char.isAlphanum || char ∈ ['_', '.', ':', '#', '\x7b', '\x7d', '$', '+', '-']

def selectorIdentifierIsExportSafe (text : String) : Bool :=
  let text := trim text
  if text = "" then true
  else if maxReplayExportSelectorIdentifierChars < text.length then false
  else if !text.toList.all selectorIdentifierChar then false
  else !digitRun 0 text.toList

def selectorIdentifierIsExportSafeValue (value : Option Json) : Bool :=
  selectorIdentifierIsExportSafe (cleanValueText value)

def isReplayExportForbiddenKey (key : String) : Bool :=
  ReplayExternals.foldString (trim key) ∈
    ["name", "value", "text", "document", "description", "help_text", "localized_control_type",
      "legacyiaccessible", "legacyiaccessible_name", "legacyiaccessible_value",
      "legacyiaccessible_description", "sphere", "spheres"]

def isReplayExportSelectorIdentifierKey (key : String) : Bool :=
  Externals.toLowercase key ∈ ["automation_id", "class_name"]

mutual

/-- Both walks over a document: the second also checks the selector identifiers. -/
def walkExport (identifiers : Bool) (path : String) : Json → Except String Unit
  | .object members => walkMembers identifiers path members
  | .array items => walkItems identifiers path 0 items
  | _ => .ok ()

def walkMembers (identifiers : Bool) (path : String) :
    List (String × Json) → Except String Unit
  | [] => .ok ()
  | (key, child) :: rest =>
      if isReplayExportForbiddenKey key then
        .error ("export contains forbidden key " ++ ReplayExternals.debugText key ++ " at " ++ path)
      else if identifiers && isReplayExportSelectorIdentifierKey key &&
          !selectorIdentifierIsExportSafeValue (some child) then
        .error ("export contains unsafe selector identifier " ++ ReplayExternals.debugText key ++
          " at " ++ path)
      else
        match walkExport identifiers (path ++ "." ++ key) child with
        | .error error => .error error
        | .ok () => walkMembers identifiers path rest

def walkItems (identifiers : Bool) (path : String) (index : Nat) :
    List Json → Except String Unit
  | [] => .ok ()
  | child :: rest =>
      match walkExport identifiers (path ++ "[" ++ toString index ++ "]") child with
      | .error error => .error error
      | .ok () => walkItems identifiers path (index + 1) rest

end

def assertExportForbiddenKeysFree (value : Json) (path : String) : Except String Unit :=
  walkExport false path value

def assertExportValueFreeValue (value : Json) (path : String) : Except String Unit :=
  walkExport true path value

def controlTypeLabels : List String :=
  ["button", "calendar", "check box", "combo box", "edit field", "link", "image", "list item",
    "list", "menu", "menu bar", "menu item", "progress bar", "radio button", "scroll bar",
    "slider", "spinner", "status bar", "tab", "tab item", "text element", "tool bar", "tool tip",
    "tree", "tree item", "custom control", "group", "thumb", "data grid", "data item",
    "document", "split button", "window", "pane", "header", "header item", "table", "title bar",
    "separator", "semantic zoom", "app bar"]

def controlTypeLabel (value : I64) : String :=
  if 50000 ≤ value.val then
    (controlTypeLabels[(value.val - 50000).toNat]?).getD "target control"
  else "target control"

structure ReplaySelectorHopExport where
  controlType : I64
  controlTypeLabel : String
  automationId : String
  className : String
  ordinal : I64
deriving DecidableEq

structure ReplayLeafRect where
  left : I64
  top : I64
  right : I64
  bottom : I64
deriving DecidableEq

structure ReplaySelectorExport where
  backend : String
  hops : List ReplaySelectorHopExport
  pathHash : String
  leafRect : Option ReplayLeafRect
deriving DecidableEq

def hopMembers (item : Json) : Except String (List (String × Json)) :=
  match item with
  | .object members => .ok members
  | _ => .error "selector hop must be an object"

def expectSelectorHops (value : Json) : Except String (List (List (String × Json))) :=
  match value with
  | .array items => items.mapM hopMembers
  | _ => .error "selector path_json must be a list of hops"

def selectorHopIdentifiersAreExportSafe (hop : List (String × Json)) : Bool :=
  selectorIdentifierIsExportSafeValue (member hop "automation_id") &&
    selectorIdentifierIsExportSafeValue (member hop "class_name")

def selectorHopExport (hop : List (String × Json)) :
    Except String (Option ReplaySelectorHopExport) :=
  if !selectorHopIdentifiersAreExportSafe hop then .ok none
  else do
    let controlType ← jsonValueIntOrDefault (member hop "control_type") (I64.ofInt 0)
    let ordinal ← jsonValueIntOrDefault (member hop "ordinal") (I64.ofInt 0)
    return some
      { controlType
        controlTypeLabel := controlTypeLabel controlType
        automationId := cleanValueText (member hop "automation_id")
        className := cleanValueText (member hop "class_name")
        ordinal }

/-- The loop over the hops stops at the first that is not exported. -/
def exportHops : List (List (String × Json)) →
    Except String (Option (List ReplaySelectorHopExport))
  | [] => .ok (some [])
  | hop :: rest => do
      match ← selectorHopExport hop with
      | none => return none
      | some exported =>
          match ← exportHops rest with
          | none => return none
          | some later => return some (exported :: later)

def selectorBackendExportValue (value : Option String) : Option String :=
  let text := cleanText value
  let backend := if text = "" then "unknown" else Externals.toLowercase text
  if backend ∈ replayExportSelectorBackends then some backend else none

/-- `text.split(',')` -/
def splitComma (part : List Char) : List Char → List (List Char)
  | [] => [part]
  | char :: rest =>
      if char = ',' then part :: splitComma [] rest else splitComma (part ++ [char]) rest

def parseLeafRect (value : Option String) : Option ReplayLeafRect :=
  let text := cleanText value
  if text = "" then none
  else
    match (splitComma [] text.toList).mapM fun part => parseI64 (trim (String.ofList part)) with
    | some [left, top, right, bottom] => some ⟨left, top, right, bottom⟩
    | _ => none

/-- What `selector_export_block` does with a path that is not empty, up to the backend. -/
def readHops (pathJson : String) : Except String (Option (List ReplaySelectorHopExport)) :=
  match StoreExternals.parseJson pathJson with
  | none => .error "selector path_json is not valid JSON"
  | some parsed => do
      assertExportForbiddenKeysFree parsed "$.selector_path_json"
      let hops ← expectSelectorHops parsed
      exportHops hops

def selectorExportBlock (row : RecordingExportStep) :
    Except String (Option ReplaySelectorExport) :=
  let pathJson := cleanText row.pathJson
  let pathHash := cleanText row.pathHash
  if pathJson = "" ∨ pathHash = "" then .ok none
  else do
    match ← readHops pathJson with
    | none => return none
    | some hops =>
        return (selectorBackendExportValue row.selectorBackend).map fun backend =>
          ⟨backend, hops, pathHash, parseLeafRect row.leafRect⟩

def selectorExportHint (row : RecordingExportStep) : Option ReplaySelectorExport :=
  match selectorExportBlock row with
  | .ok selector => selector
  | .error _ => none

/-- The looser check of a path that is only referred to. -/
def readableHops (pathJson : String) : Bool :=
  match StoreExternals.parseJson pathJson with
  | none => false
  | some parsed =>
      match expectSelectorHops parsed with
      | .error _ => false
      | .ok hops => hops.all selectorHopIdentifiersAreExportSafe

def selectorRefIsExportSafe (row : RecordingExportStep) : Bool :=
  let pathJson := cleanText row.pathJson
  (selectorBackendExportValue row.selectorBackend).isSome && pathJson != "" &&
    readableHops pathJson

end Selectors

section Intent

variable [ReplayExternals]

/-- `value.replace('_', " ")` -/
def spaced (text : String) : String :=
  String.ofList (text.toList.map fun char => if char = '_' then ' ' else char)

def selectorTargetPhrase (selector : Option ReplaySelectorExport) : String :=
  let label := match selector.bind fun selector => selector.hops.getLast? with
    | none => "target control"
    | some last => if trim last.controlTypeLabel = "" then "target control"
        else last.controlTypeLabel
  "the " ++ label

def exportIntent (row : RecordingExportStep) (selector : Option ReplaySelectorExport) : String :=
  let action := cleanText (some row.actionType)
  let pattern := cleanText row.patternAction
  let target := selectorTargetPhrase selector
  if pattern = excludedAppGapPattern then excludedAppGapLabel
  else if action = "edit_committed" then "Provide the runtime input for this step."
  else if pattern = "invoke" then "Invoke " ++ target ++ "."
  else if pattern = "toggle" then "Toggle " ++ target ++ "."
  else if pattern = "select" then "Select " ++ target ++ "."
  else if pattern = "expand_collapse" then "Expand or collapse " ++ target ++ "."
  else if pattern = "scroll" then "Scroll " ++ target ++ "."
  else if pattern = "" then
    if action = "ui_action_other" then "Review this observed UI step."
    else if action = "" then "Follow this observed step."
    else "Perform the " ++ spaced action ++ " step on " ++ target ++ "."
  else "Perform the " ++ spaced pattern ++ " action on " ++ target ++ "."

/-- `display_app` of an optional path. -/
def displayAppOr (exe : Option String) : String := (exe.map displayApp).getD "(unknown)"

end Intent

section Artifact

structure ReplayExportVerdictSummary where
  state : String
  exportAvailable : Bool
  coverageLine : String

structure ReplayExportSource where
  appVersion : Option String
  gitSha : Option String

structure ReplayExportReviewLabels where
  included : Bool
  source : String
  maxChars : Nat

structure ReplayExportMetadata where
  schema : String
  schemaVersion : String
  valueFree : Bool
  generatedTs : String
  recordSessionId : Int
  title : Option String
  appAllowlist : List String
  mode : String
  verdict : ReplayExportVerdictSummary
  source : ReplayExportSource
  reviewLabels : ReplayExportReviewLabels

structure ReplayExportStepItem where
  seq : I64
  offsetMsFromRecordingStart : I64
  actionType : String
  patternAction : Option String
  intent : String
  frameworkClass : String
  trustBasis : String
  exe : String
  replayClass : String
  nativeReplayable : Bool
  selector : Option ReplaySelectorExport
  inputSlotRef : Option String
  reviewLabel : Option String

structure ReplayInputSlot where
  slotId : String
  atStepSeq : I64
  role : String
  kind : String
  targetSelectorRef : Option String

structure ReplayExport where
  metadata : ReplayExportMetadata
  steps : List ReplayExportStepItem
  inputSlots : List ReplayInputSlot

end Artifact

section Serialize

def I64.toJson (value : I64) : Json := .number (toString value.val)

def optionalText (value : Option String) : Json := (value.map Json.string).getD .null

/-- `skip_serializing_if = "Option::is_none"` -/
def skipNone (key : String) (value : Option Json) : List (String × Json) :=
  match value with
  | none => []
  | some value => [(key, value)]

def ReplaySelectorHopExport.toValue (hop : ReplaySelectorHopExport) : Json :=
  .object [("control_type", I64.toJson hop.controlType),
    ("control_type_label", .string hop.controlTypeLabel),
    ("automation_id", .string hop.automationId), ("class_name", .string hop.className),
    ("ordinal", I64.toJson hop.ordinal)]

def ReplayLeafRect.toValue (rect : ReplayLeafRect) : Json :=
  .object [("left", I64.toJson rect.left), ("top", I64.toJson rect.top),
    ("right", I64.toJson rect.right), ("bottom", I64.toJson rect.bottom)]

def ReplaySelectorExport.toValue (selector : ReplaySelectorExport) : Json :=
  .object ([("backend", .string selector.backend),
    ("hops", .array (selector.hops.map ReplaySelectorHopExport.toValue)),
    ("path_hash", .string selector.pathHash)] ++
    skipNone "leaf_rect" (selector.leafRect.map ReplayLeafRect.toValue))

def ReplayExportStepItem.toValue (step : ReplayExportStepItem) : Json :=
  .object [("seq", I64.toJson step.seq),
    ("offset_ms_from_recording_start", I64.toJson step.offsetMsFromRecordingStart),
    ("action_type", .string step.actionType),
    ("pattern_action", optionalText step.patternAction), ("intent", .string step.intent),
    ("framework_class", .string step.frameworkClass), ("trust_basis", .string step.trustBasis),
    ("exe", .string step.exe), ("replay_class", .string step.replayClass),
    ("native_replayable", .bool step.nativeReplayable),
    ("selector", (step.selector.map ReplaySelectorExport.toValue).getD .null),
    ("input_slot_ref", optionalText step.inputSlotRef),
    ("review_label", optionalText step.reviewLabel)]

def ReplayInputSlot.toValue (slot : ReplayInputSlot) : Json :=
  .object [("slot_id", .string slot.slotId), ("at_step_seq", I64.toJson slot.atStepSeq),
    ("role", .string slot.role), ("type", .string slot.kind),
    ("target_selector_ref", optionalText slot.targetSelectorRef)]

def ReplayExportMetadata.toValue (metadata : ReplayExportMetadata) : Json :=
  .object [("schema", .string metadata.schema),
    ("schema_version", .string metadata.schemaVersion), ("value_free", .bool metadata.valueFree),
    ("generated_ts", .string metadata.generatedTs),
    ("record_session_id", .number (toString metadata.recordSessionId)),
    ("title", optionalText metadata.title),
    ("app_allowlist", .array (metadata.appAllowlist.map Json.string)),
    ("mode", .string metadata.mode),
    ("verdict", .object [("state", .string metadata.verdict.state),
      ("export_available", .bool metadata.verdict.exportAvailable),
      ("coverage_line", .string metadata.verdict.coverageLine)]),
    ("source", .object (skipNone "app_version" (metadata.source.appVersion.map Json.string) ++
      skipNone "git_sha" (metadata.source.gitSha.map Json.string))),
    ("review_labels", .object [("included", .bool metadata.reviewLabels.included),
      ("source", .string metadata.reviewLabels.source),
      ("max_chars", .number (toString metadata.reviewLabels.maxChars))])]

def ReplayExport.toValue (artifact : ReplayExport) : Json :=
  .object [("metadata", artifact.metadata.toValue),
    ("steps", .array (artifact.steps.map ReplayExportStepItem.toValue)),
    ("input_slots", .array (artifact.inputSlots.map ReplayInputSlot.toValue))]

def assertReplayExportValueFree [ReplayExternals] (artifact : ReplayExport) :
    Except String Unit :=
  assertExportValueFreeValue artifact.toValue "$"

end Serialize

section Build

variable [ReplayExternals]

/-- `left - right` of two machine words. -/
def wrappingSub (left right : I64) : I64 :=
  I64.ofInt (Int.bmod (left.val - right.val) (2 ^ 64))

def orUnknown (text : String) : String := if text = "" then "unknown" else text

def nonEmpty (value : Option String) : Option String :=
  value.bind fun value =>
    let text := cleanText (some value)
    if text = "" then none else some text

/-- The class of a step, its selector, and whether it can be replayed natively. -/
def exportSelector (mode : String) (row : RecordingExportStep) :
    Except String (String × Option ReplaySelectorExport × Bool) :=
  if row.patternAction = some excludedAppGapPattern then .ok (row.replayClass, none, false)
  else if mode = replayExportModeNativeSkeleton ∧ row.replayClass = replayClassEligible then do
    match ← selectorExportBlock row with
    | none => return (replayClassNativeGap, none, false)
    | some selector => return (row.replayClass, some selector, true)
  else if mode = replayExportModeAgentGrounded then
    .ok (row.replayClass, selectorExportHint row, false)
  else .ok (row.replayClass, none, false)

def inputSlot (row : RecordingExportStep) (slotId : String) : ReplayInputSlot :=
  let pathHash := cleanText row.pathHash
  { slotId
    atStepSeq := row.seq
    role := "input"
    kind := "string"
    targetSelectorRef :=
      if pathHash ≠ "" ∧ selectorRefIsExportSafe row = true then some pathHash else none }

def stepItem (startedTs : I64) (labels : I64 → Option String) (row : RecordingExportStep)
    (replayClass : String) (selector : Option ReplaySelectorExport) (nativeReplayable : Bool)
    (inputSlotRef : Option String) : ReplayExportStepItem where
  seq := row.seq
  offsetMsFromRecordingStart := max (wrappingSub row.ts startedTs) (I64.ofInt 0)
  actionType := cleanText (some row.actionType)
  patternAction := nonEmpty row.patternAction
  intent := exportIntent row selector
  frameworkClass := orUnknown (cleanText (some row.frameworkClass))
  trustBasis := orUnknown (cleanText (some row.trustBasis))
  exe := displayAppOr (nonEmpty row.exe)
  replayClass
  nativeReplayable
  selector
  inputSlotRef
  reviewLabel := labels row.seq

/-- The loop over the steps, with the number of input slots so far. -/
def exportSteps (mode : String) (startedTs : I64) (labels : I64 → Option String) (slots : Nat) :
    List RecordingExportStep →
      Except String (List ReplayExportStepItem × List ReplayInputSlot)
  | [] => .ok ([], [])
  | row :: rest => do
      let (replayClass, selector, nativeReplayable) ← exportSelector mode row
      if cleanText (some row.actionType) = "edit_committed" then
        let slotId := "input_" ++ toString (slots + 1)
        let later ← exportSteps mode startedTs labels (slots + 1) rest
        return (stepItem startedTs labels row replayClass selector nativeReplayable
          (some slotId) :: later.1, inputSlot row slotId :: later.2)
      else
        let later ← exportSteps mode startedTs labels slots rest
        return (stepItem startedTs labels row replayClass selector nativeReplayable none ::
          later.1, later.2)

/-- The names of the programs, sorted and each once. -/
def appAllowlist (steps : List RecordingExportStep) : List String :=
  (steps.filterMap fun step => (nonEmpty step.exe).map displayApp).dedup.insertionSort
    fun left right => left ≤ right

variable (tables : ExportTables) (recordSessionId : Int) (mode : String)
  (verifiedClasses : List String) (generatedTsMs : I64) (stepLabels : I64 → Option String)

def draftReplayExport : Except String ReplayExport :=
  if mode ≠ replayExportModeAgentGrounded ∧ mode ≠ replayExportModeNativeSkeleton then
    .error ("unsupported replay export mode: " ++ mode)
  else
    match readRecordingExportMetadata tables recordSessionId with
    | none => .error ("recording not found: " ++ toString recordSessionId)
    | some recording =>
        let verdict := recordingReplayVerdict
          (readRecordingExportSteps tables recordSessionId false) verifiedClasses
        if recording.endedTs.isNone then .error "cannot export an open recording"
        else if mode = replayExportModeNativeSkeleton ∧ verdict.exportAvailable = false then
          .error "native automation blueprint requires verified replay-readiness"
        else do
          let rows := readRecordingExportSteps tables recordSessionId true
          let (steps, inputSlots) ←
            exportSteps mode recording.startedTs (cleanExportReviewLabels stepLabels) 0 rows
          return {
            metadata := {
              schema := recordingExportSchema
              schemaVersion := recordingExportSchemaVersion
              valueFree := true
              generatedTs := ReplayExternals.exportGeneratedTs generatedTsMs
              recordSessionId
              title := none
              appAllowlist := appAllowlist rows
              mode
              verdict := ⟨verdict.state, verdict.exportAvailable, verdict.coverageLine⟩
              source := ⟨nonEmpty recording.appVersion, nonEmpty recording.gitSha⟩
              reviewLabels := ⟨steps.any fun step => step.reviewLabel.isSome,
                "human_entered_at_export_time", replayExportReviewLabelMaxChars⟩ }
            steps
            inputSlots }

def buildReplayExport : Except String ReplayExport := do
  let artifact ← draftReplayExport tables recordSessionId mode verifiedClasses generatedTsMs
    stepLabels
  assertReplayExportValueFree artifact
  return artifact

end Build

end Gilbreth.Read
