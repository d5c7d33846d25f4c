import Gilbreth.Core.Text
import Gilbreth.Core.Time
import Gilbreth.Store.ValueFree
import Mathlib.Data.List.Sort

/-!
# The steps of a recording and their replay verdict

An export reads the recorded actions of one recording with the selector path each
points to, classifies every step for a native replay, and sums the classes up to a
verdict. The texts of the tables are arbitrary.
-/

set_option autoImplicit false

namespace Gilbreth.Read

open Gilbreth.Core Gilbreth.Store

/-- What the export calls outside the repository: case folding, dates, the quoted form
of a string, and what floating point is used for. -/
class ReplayExternals extends Externals, StoreExternals where
  /-- `CaseMapper::new().fold_string` -/
  foldString : String → String
  /-- The date and time of a millisecond timestamp, of zero when it has none. -/
  exportGeneratedTs : I64 → String
  /-- `{:?}` -/
  debugText : String → String
  /-- `Number::as_i64` -/
  numberAsI64 : String → Option I64
  /-- `Number::as_f64`, cast to an integer. -/
  numberAsF64 : String → Option I64
  /-- `(fraction * 100.0).round_ties_even() as i64` -/
  percent : Rat → Int

section Tables

structure ExportActionRow where
  recordSessionId : Int
  seq : I64
  ts : I64
  actionType : String
  patternAction : Option String
  selectorId : Option Int
  frameworkClass : String
  trustBasis : String
  exe : Option String

structure ExportSelectorRow where
  selectorId : Int
  pathHash : Option String
  framework : Option String
  pathJson : Option String
  leafRect : Option String

structure ExportRecordSessionRow where
  recordSessionId : Int
  sessionId : Int
  startedTs : I64
  endedTs : Option I64

structure ExportSessionRow where
  sessionId : Int
  appVersion : Option String
  gitSha : Option String

/-- The tables an export reads. Those of Record Routine may be missing, and
`framework_class` is a column of a later migration. -/
structure ExportTables where
  sessions : List ExportSessionRow
  recordSessions : Option (List ExportRecordSessionRow)
  selectorPaths : Option (List ExportSelectorRow)
  actionEvents : Option (List ExportActionRow)
  hasFrameworkClass : Bool

end Tables

section Steps

structure RecordingExportStep where
  seq : I64
  ts : I64
  actionType : String
  patternAction : Option String
  selectorId : Option Int
  frameworkClass : String
  trustBasis : String
  exe : Option String
  pathHash : Option String
  selectorBackend : Option String
  pathJson : Option String
  leafRect : Option String

variable (tables : ExportTables) (recordSessionId : Int)

/-- `LEFT JOIN selector_paths sp ON sp.selector_id = ae.selector_id` -/
def joinedSelector (action : ExportActionRow) : Option ExportSelectorRow :=
  tables.selectorPaths.bind fun paths => action.selectorId.bind fun selectorId =>
    paths.find? fun path => path.selectorId == selectorId

def exportStep (includeSelectorPaths : Bool) (action : ExportActionRow) : RecordingExportStep :=
  let selector := joinedSelector tables action
  let shown := if includeSelectorPaths then selector else none
  { seq := action.seq
    ts := action.ts
    actionType := action.actionType
    patternAction := action.patternAction
    selectorId :=
      if tables.selectorPaths.isSome then selector.map ExportSelectorRow.selectorId
      else if includeSelectorPaths then none
      else action.selectorId
    frameworkClass := if tables.hasFrameworkClass then action.frameworkClass else "unknown"
    trustBasis := action.trustBasis
    exe := action.exe
    pathHash := shown.bind ExportSelectorRow.pathHash
    selectorBackend := shown.bind ExportSelectorRow.framework
    pathJson := shown.bind ExportSelectorRow.pathJson
    leafRect := shown.bind ExportSelectorRow.leafRect }

def recordedActions : List ExportActionRow :=
  ((tables.actionEvents.getD []).filter fun action =>
    action.recordSessionId == recordSessionId).insertionSort fun left right => left.seq ≤ right.seq

def readRecordingExportSteps (includeSelectorPaths : Bool) : List RecordingExportStep :=
  (recordedActions tables recordSessionId).map (exportStep tables includeSelectorPaths)

structure RecordingExportMetadata where
  startedTs : I64
  endedTs : Option I64
  appVersion : Option String
  gitSha : Option String

def readRecordingExportMetadata : Option RecordingExportMetadata :=
  tables.recordSessions.bind fun recordings =>
    (recordings.find? fun recording => recording.recordSessionId == recordSessionId).map
      fun recording =>
        let session := tables.sessions.find? fun session =>
          session.sessionId == recording.sessionId
        ⟨recording.startedTs, recording.endedTs, session.bind ExportSessionRow.appVersion,
          session.bind ExportSessionRow.gitSha⟩

end Steps

section Classes

def replayClassEligible : String := "eligible"
def replayClassProvisional : String := "provisional_eligible"
def replayClassNativeGap : String := "native_gap"
def replayClassHardVeto : String := "agent_grounded_hard_veto"
def replayClassFreeInput : String := "free_input"
def replayClassNoise : String := "noise"
def excludedAppGapPattern : String := "excluded_app_gap"

def cleanText (value : Option String) : String := trim (value.getD "")

def replayPatterns : List String := ["invoke", "toggle", "select", "expand_collapse", "scroll"]

def stepReplayClass (frameworkClass trustBasis actionType patternAction : Option String)
    (selectorId : Option Int) : String :=
  let action := cleanText actionType
  let framework := cleanText frameworkClass
  let trust := cleanText trustBasis
  if action = "edit_committed" then replayClassFreeInput
  else if action = "ui_action_other" then replayClassNoise
  else if cleanText patternAction ∉ replayPatterns then replayClassNoise
  else if framework ∈ ["web_renderer", "virtualized"] then replayClassHardVeto
  else if selectorId.isNone then replayClassNativeGap
  else if framework = "native" ∧ trust ∈ ["pid_match", "window_ownership"] then
    replayClassEligible
  else if framework = "native_provisional" ∧ trust ∈ ["pid_match", "window_ownership"] then
    replayClassProvisional
  else replayClassNativeGap

@[irreducible] def RecordingExportStep.replayClass (row : RecordingExportStep) : String :=
  stepReplayClass (some row.frameworkClass) (some row.trustBasis) (some row.actionType)
    row.patternAction row.selectorId

end Classes

section Verdict

variable [ReplayExternals]

def replayVerdictVerified : String := "verified_replay_eligible"
def replayVerdictUnverified : String := "unverified_replay_eligible"
def replayVerdictProvisional : String := "provisional_replay_eligible"
def replayVerdictAgentOnly : String := "agent_grounded_only"

structure ReplayExportVerdict where
  state : String
  label : String
  detail : String
  coverageLine : String
  severity : String
  actionableSteps : Nat
  nativeEligibleSteps : Nat
  provisionalSteps : Nat
  nativeGapSteps : Nat
  hardVetoSteps : Nat
  freeInputSteps : Nat
  noiseSteps : Nat
  nativeEligibleFraction : Option Rat
  exportAvailable : Bool

/-- The fraction is a double in the source; below 2^49 steps its comparison with 0.9 is
that of the exact quotient. -/
def recordingReplayVerdict (steps : List RecordingExportStep) (verifiedClasses : List String) :
    ReplayExportVerdict :=
  let classes := steps.map RecordingExportStep.replayClass
  let nativeEligible := classes.count replayClassEligible
  let provisional := classes.count replayClassProvisional
  let nativeGap := classes.count replayClassNativeGap
  let hardVeto := classes.count replayClassHardVeto
  let freeInput := classes.count replayClassFreeInput
  let noise := classes.length - (nativeEligible + provisional + nativeGap + hardVeto + freeInput)
  let actionable := nativeEligible + provisional + nativeGap + hardVeto
  let nativeFraction : Option Rat :=
    if 0 < actionable then some ((nativeEligible + provisional : Nat) / (actionable : Nat))
    else none
  let build (state label detail coverageLine severity : String) (exportAvailable : Bool) :
      ReplayExportVerdict :=
    ⟨state, label, detail, coverageLine, severity, actionable, nativeEligible, provisional,
      nativeGap, hardVeto, freeInput, noise, nativeFraction, exportAvailable⟩
  let pct := ReplayExternals.percent (nativeFraction.getD 0)
  let gaps := s!"{nativeGap} unknown/untrusted/missing-selector gaps."
  let thresholdMet := decide (2 ≤ actionable ∧ 9 / 10 ≤ nativeFraction.getD 0)
  if actionable = 0 then
    build replayVerdictAgentOnly "Agent-grounded only"
      "No native-eligible control actions were observed, so replay cannot be demonstrated."
      "Agent-grounded only -- no actionable steps classified." "info" false
  else if 0 < hardVeto then
    build replayVerdictAgentOnly "Agent-grounded only"
      ("Contains web or virtualized steps. Captured for an agent to follow, not for native " ++
        "replay.")
      (s!"Agent-grounded only -- {hardVeto} web/virtualized actionable steps among " ++
        s!"{actionable} actionable steps.") "info" false
  else if 0 < provisional then
    if thresholdMet then
      build replayVerdictProvisional "Replay-eligible (provisional)"
        ("Native-provisional UI -- eligible in principle but not yet volume-validated. Native " ++
          "automation blueprint remains hidden.")
        (s!"Replay-eligible (provisional) -- native/provisional-eligible for {pct}% of " ++
          s!"{actionable} actionable steps; " ++ gaps) "warning" false
    else
      build replayVerdictAgentOnly "Agent-grounded only"
        ("Too many unknown, untrusted, or missing-selector gaps, or too few actionable native " ++
          "steps. Captured for an agent to follow.")
        (s!"Agent-grounded only -- native/provisional-eligible for {pct}% of " ++
          s!"{actionable} actionable steps; " ++ gaps) "info" false
  else if thresholdMet then
    if verifiedClasses.contains "native" then
      build replayVerdictVerified "Verified replay-eligible"
        ("Native UI elements, and an operator recorded that the restart-resolution test " ++
          "passed for this framework class.")
        (s!"Verified replay-eligible -- native-eligible for {pct}% of " ++
          s!"{actionable} actionable steps; " ++ gaps) "success" true
    else
      build replayVerdictUnverified "Replay-eligible (unverified) -- native replay not enabled"
        ("Native UI elements meet the structural bar, but this install has no verified replay " ++
          "allowlist configured, so replay is not yet validated here. Use agent-grounded steps " ++
          "for now.")
        (s!"Replay-eligible (unverified) -- native-eligible for {pct}% of " ++
          s!"{actionable} actionable steps; " ++ gaps) "warning" false
  else
    build replayVerdictAgentOnly "Agent-grounded only"
      ("Too many unknown, untrusted, or missing-selector gaps, or too few actionable native " ++
        "steps. Captured for an agent to follow.")
      (s!"Agent-grounded only -- native-eligible for {pct}% of " ++
        s!"{actionable} actionable steps; " ++ gaps) "info" false

end Verdict

end Gilbreth.Read
