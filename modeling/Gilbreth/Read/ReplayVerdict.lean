import Gilbreth.Read.ReplayValueFree

/-!
# The exported verdict and the exported steps

The verdict is read off the steps before the export looks at their selectors, and a
step whose selector cannot be shown is exported as a gap. The verdict still describes
the exported steps when enough of them keep their class.
-/

set_option autoImplicit false

namespace Gilbreth.Read

open Gilbreth.Core Gilbreth.Store

section Rules

def actionableSteps (classes : List String) : Nat :=
  classes.count replayClassEligible + classes.count replayClassProvisional +
    classes.count replayClassNativeGap + classes.count replayClassHardVeto

def replayEligibleSteps (classes : List String) : Nat :=
  classes.count replayClassEligible + classes.count replayClassProvisional

/-- No veto, at least two actionable steps, and nine in ten of them eligible. -/
def ReplayReady (classes : List String) : Prop :=
  classes.count replayClassHardVeto = 0 ∧ 2 ≤ actionableSteps classes ∧
    9 * actionableSteps classes ≤ 10 * replayEligibleSteps classes

instance (classes : List String) : Decidable (ReplayReady classes) :=
  inferInstanceAs (Decidable (_ ∧ _))

/-- State and availability of a verdict, from the classes of the steps. -/
def verdictRules (classes verifiedClasses : List String) : String × Bool :=
  if ReplayReady classes then
    if 0 < classes.count replayClassProvisional then (replayVerdictProvisional, false)
    else if verifiedClasses.contains "native" then (replayVerdictVerified, true)
    else (replayVerdictUnverified, false)
  else (replayVerdictAgentOnly, false)

theorem fraction_threshold {eligible actionable : Nat} (some : 0 < actionable) :
    (9 / 10 : Rat) ≤ (eligible : Rat) / (actionable : Rat) ↔ 9 * actionable ≤ 10 * eligible := by
  have positive : (0 : Rat) < actionable := Nat.cast_pos.mpr some
  rw [le_div_iff₀ positive]
  constructor
  · intro met
    have scaled : (9 * actionable : Rat) ≤ 10 * eligible := by linarith
    exact_mod_cast scaled
  · intro met
    have scaled : (9 * actionable : Rat) ≤ 10 * eligible := by exact_mod_cast met
    linarith

theorem recording_replay_verdict_rules [ReplayExternals] (steps : List RecordingExportStep)
    (verifiedClasses : List String) :
    ((recordingReplayVerdict steps verifiedClasses).state,
      (recordingReplayVerdict steps verifiedClasses).exportAvailable) =
        verdictRules (steps.map RecordingExportStep.replayClass) verifiedClasses := by
  unfold recordingReplayVerdict verdictRules
  generalize steps.map RecordingExportStep.replayClass = classes
  dsimp only
  by_cases empty : actionableSteps classes = 0
  · have few : ¬ReplayReady classes := fun ready => absurd ready.2.1 (by omega)
    rw [if_neg few]
    rw [actionableSteps] at empty
    simp only [if_pos empty]
  · have some : 0 < actionableSteps classes := Nat.pos_of_ne_zero empty
    have threshold := @fraction_threshold (replayEligibleSteps classes) _ some
    rw [actionableSteps, replayEligibleSteps] at threshold
    rw [actionableSteps] at empty some
    simp only [if_neg empty, if_pos some, Option.getD_some, threshold, decide_eq_true_eq]
    by_cases ready : ReplayReady classes
    · rw [if_pos ready]
      unfold ReplayReady actionableSteps replayEligibleSteps at ready
      split_ifs <;> first | rfl | (exfalso; omega)
    · rw [if_neg ready]
      unfold ReplayReady actionableSteps replayEligibleSteps at ready
      split_ifs <;> first | rfl | (exfalso; omega)

end Rules

section Lowered

/-- A step keeps its class, or falls from an eligible one to a gap. -/
def Lowers (before after : String) : Prop :=
  after = before ∨
    (before = replayClassEligible ∨ before = replayClassProvisional) ∧ after = replayClassNativeGap

variable {before after : List String}

theorem lowered_counts (lowered : List.Forall₂ Lowers before after) :
    after.count replayClassHardVeto = before.count replayClassHardVeto ∧
      actionableSteps after = actionableSteps before ∧
      after.count replayClassEligible ≤ before.count replayClassEligible ∧
      after.count replayClassProvisional ≤ before.count replayClassProvisional := by
  have names : replayClassEligible ≠ replayClassProvisional ∧
      replayClassEligible ≠ replayClassHardVeto ∧ replayClassProvisional ≠ replayClassEligible ∧
      replayClassProvisional ≠ replayClassHardVeto ∧
      replayClassNativeGap ≠ replayClassEligible ∧
      replayClassNativeGap ≠ replayClassProvisional ∧
      replayClassNativeGap ≠ replayClassHardVeto ∧ replayClassEligible ≠ replayClassNativeGap ∧
      replayClassProvisional ≠ replayClassNativeGap := by decide
  unfold actionableSteps
  induction lowered with
  | nil => simp
  | cons first _ induction =>
      rcases first with same | ⟨eligible | provisional, gap⟩
      · subst same
        simp only [List.count_cons]
        omega
      · subst eligible gap
        simp only [List.count_cons, beq_iff_eq, names, if_true, if_false]
        omega
      · subst provisional gap
        simp only [List.count_cons, beq_iff_eq, names, if_true, if_false]
        omega

theorem Lowers.trans {first second third : String} (left : Lowers first second)
    (right : Lowers second third) : Lowers first third := by
  rcases right with same | ⟨eligible, gap⟩
  · rw [same]
    exact left
  · rcases left with same | ⟨_, fallen⟩
    · rw [same] at eligible
      exact .inr ⟨eligible, gap⟩
    · rw [fallen] at eligible
      exact absurd eligible (by decide)

/-- A verdict that is not ready stays so, one that is no longer ready changes. -/
theorem rules_of_unready {verifiedClasses : List String}
    (unready : ¬ReplayReady after) :
    verdictRules after verifiedClasses = verdictRules before verifiedClasses ↔
      ¬ReplayReady before := by
  unfold verdictRules
  rw [if_neg unready]
  constructor
  · intro same ready
    rw [if_pos ready] at same
    split_ifs at same <;> exact absurd (Prod.mk.inj same).1 (by decide)
  · intro unreadyBefore
    rw [if_neg unreadyBefore]

theorem rules_available {classes verifiedClasses : List String}
    (available : (verdictRules classes verifiedClasses).2 = true) :
    ReplayReady classes ∧ classes.count replayClassProvisional = 0 := by
  unfold verdictRules at available
  split_ifs at available with ready provisional
  exact ⟨ready, Nat.eq_zero_of_not_pos provisional⟩

theorem rules_of_ready {verifiedClasses : List String} (readyBefore : ReplayReady before)
    (readyAfter : ReplayReady after) (noneBefore : before.count replayClassProvisional = 0)
    (noneAfter : after.count replayClassProvisional = 0) :
    verdictRules after verifiedClasses = verdictRules before verifiedClasses := by
  unfold verdictRules
  rw [if_pos readyBefore, if_pos readyAfter, if_neg (not_lt.mpr noneAfter.le),
    if_neg (not_lt.mpr noneBefore.le)]

theorem lowered_ready (lowered : List.Forall₂ Lowers before after) (ready : ReplayReady after) :
    ReplayReady before := by
  have counts := lowered_counts lowered
  unfold ReplayReady replayEligibleSteps at ready ⊢
  omega

end Lowered

section Exported

variable [ReplayExternals] {tables : ExportTables} {recordSessionId : Int} {mode : String}
  {verifiedClasses : List String} {generatedTsMs : I64} {stepLabels : I64 → Option String}
  {artifact : ReplayExport}

theorem exported_steps
    (drafted : Drafted tables recordSessionId mode verifiedClasses stepLabels artifact) :
    (artifact.steps.map fun step => (step.replayClass, step.nativeReplayable)) =
      (readRecordingExportSteps tables recordSessionId true).map fun row =>
        ((chosenSelector mode row).1, (chosenSelector mode row).2.2) := by
  rcases drafted.closed with ⟨recording, _, _, pairs⟩
  generalize readRecordingExportSteps tables recordSessionId true = rows at pairs ⊢
  generalize artifact.steps = items at pairs ⊢
  induction pairs with
  | nil => rfl
  | cons first _ induction =>
      rcases first with ⟨chosen, slot, done, item⟩
      rw [List.map_cons, List.map_cons, induction, ← export_selector_eq done, item]
      rfl

theorem chosen_lowers (mode : String) (row : RecordingExportStep) :
    Lowers row.replayClass (chosenSelector mode row).1 := by
  unfold chosenSelector
  split_ifs with gap native agent
  · exact .inl rfl
  · cases selectorExportHint row with
    | none => exact .inr ⟨.inl native.2, rfl⟩
    | some selector => exact .inl rfl
  · exact .inl rfl
  · exact .inl rfl

theorem chosen_agent (row : RecordingExportStep) :
    (chosenSelector replayExportModeAgentGrounded row).1 = row.replayClass := by
  have agent : ¬(replayExportModeAgentGrounded = replayExportModeNativeSkeleton ∧
      row.replayClass = replayClassEligible) := fun native => absurd native.1 (by decide)
  unfold chosenSelector
  rw [if_neg agent]
  split_ifs <;> rfl

/-- In the native mode a step is eligible, and replayable, with a selector to show. -/
theorem chosen_native (row : RecordingExportStep) :
    ((chosenSelector replayExportModeNativeSkeleton row).1 = replayClassEligible ↔
      row.replayClass = replayClassEligible ∧ (selectorExportHint row).isSome = true) ∧
    ((chosenSelector replayExportModeNativeSkeleton row).2.2 = true ↔
      row.replayClass = replayClassEligible ∧ (selectorExportHint row).isSome = true) := by
  have other : replayExportModeNativeSkeleton ≠ replayExportModeAgentGrounded := by decide
  have gap_class : replayClassNativeGap ≠ replayClassEligible := by decide
  unfold chosenSelector
  by_cases gap : row.patternAction = some excludedAppGapPattern
  · have hidden : row.replayClass ≠ replayClassEligible := by
      apply gap_not_eligible
      rw [gap]
      decide
    simp [if_pos gap, hidden]
  · by_cases eligible : row.replayClass = replayClassEligible
    · rw [if_neg gap, if_pos ⟨rfl, eligible⟩]
      cases selectorExportHint row with
      | none => simp [gap_class]
      | some selector => simp [eligible]
    · rw [if_neg gap, if_neg fun native => eligible native.2, if_neg other]
      simp [eligible]

omit [ReplayExternals] in
theorem class_with_selectors (present : tables.selectorPaths.isSome = true)
    (action : ExportActionRow) :
    (exportStep tables true action).replayClass = (exportStep tables false action).replayClass := by
  unfold RecordingExportStep.replayClass exportStep
  simp only [if_pos present]

omit [ReplayExternals] in
theorem class_without_selectors (absent : tables.selectorPaths.isSome = false)
    (action : ExportActionRow) :
    Lowers (exportStep tables false action).replayClass
        (exportStep tables true action).replayClass ∧
      (exportStep tables true action).replayClass ≠ replayClassEligible ∧
      (exportStep tables true action).replayClass ≠ replayClassProvisional := by
  unfold RecordingExportStep.replayClass exportStep stepReplayClass Lowers
  simp only [absent, Bool.false_eq_true, if_false, if_true, Option.isNone_none]
  split_ifs <;> simp [replayClassFreeInput, replayClassNoise, replayClassHardVeto,
    replayClassNativeGap, replayClassEligible, replayClassProvisional]

omit [ReplayExternals] in
theorem second_read_lowers (tables : ExportTables) (action : ExportActionRow) :
    Lowers (exportStep tables false action).replayClass
      (exportStep tables true action).replayClass := by
  cases present : tables.selectorPaths.isSome with
  | true => exact .inl (class_with_selectors present action)
  | false => exact (class_without_selectors present action).1

end Exported

section Describes

variable [ReplayExternals]

/-- The verdict in the metadata is the one the exported steps have by their own classes,
and a native export keeps the thresholds. -/
structure DescribesSteps (mode : String) (verifiedClasses : List String)
    (artifact : ReplayExport) : Prop where
  verdict : verdictRules (artifact.steps.map ReplayExportStepItem.replayClass) verifiedClasses =
    (artifact.metadata.verdict.state, artifact.metadata.verdict.exportAvailable)
  native : mode = replayExportModeNativeSkeleton →
    (artifact.steps.map ReplayExportStepItem.replayClass).count replayClassHardVeto = 0 ∧
      2 ≤ actionableSteps (artifact.steps.map ReplayExportStepItem.replayClass) ∧
      9 * actionableSteps (artifact.steps.map ReplayExportStepItem.replayClass) ≤
        10 * artifact.steps.countP ReplayExportStepItem.nativeReplayable

def RecordingExportStep.showsSelector (row : RecordingExportStep) : Bool :=
  row.replayClass == replayClassEligible && (selectorExportHint row).isSome

/-- The recorded steps keep their classes: the selector table is there, or no step needs
it, and a native export finds a selector for nine in ten of the actionable steps. -/
def SelectorsSuffice (tables : ExportTables) (recordSessionId : Int) (mode : String) : Prop :=
  let classes := (readRecordingExportSteps tables recordSessionId false).map
    RecordingExportStep.replayClass
  (tables.selectorPaths.isSome = true ∨ ¬ReplayReady classes) ∧
    (mode = replayExportModeNativeSkeleton →
      9 * actionableSteps classes ≤
        10 * (readRecordingExportSteps tables recordSessionId true).countP
          RecordingExportStep.showsSelector)

variable {tables : ExportTables} {recordSessionId : Int} {mode : String}
  {verifiedClasses : List String} {generatedTsMs : I64} {stepLabels : I64 → Option String}
  {artifact : ReplayExport}

theorem native_counts
    (drafted : Drafted tables recordSessionId replayExportModeNativeSkeleton verifiedClasses
      stepLabels artifact) :
    (artifact.steps.map ReplayExportStepItem.replayClass).count replayClassEligible =
        (readRecordingExportSteps tables recordSessionId true).countP
          RecordingExportStep.showsSelector ∧
      artifact.steps.countP ReplayExportStepItem.nativeReplayable =
        (readRecordingExportSteps tables recordSessionId true).countP
          RecordingExportStep.showsSelector := by
  have steps := exported_steps drafted
  have classes := congrArg (List.countP fun shown => shown.1 == replayClassEligible) steps
  have natives := congrArg (List.countP fun shown => shown.2) steps
  rw [List.countP_map, List.countP_map] at classes natives
  constructor
  · rw [List.count, List.countP_map]
    refine classes.trans (List.countP_congr fun row _ => ?_)
    simp only [Function.comp_apply, beq_iff_eq, (chosen_native row).1,
      RecordingExportStep.showsSelector, Bool.and_eq_true]
  · refine natives.trans (List.countP_congr fun row _ => ?_)
    simp only [Function.comp_apply, (chosen_native row).2, RecordingExportStep.showsSelector,
      Bool.and_eq_true, beq_iff_eq]

theorem exported_classes
    (drafted : Drafted tables recordSessionId mode verifiedClasses stepLabels artifact) :
    artifact.steps.map ReplayExportStepItem.replayClass =
      (recordedActions tables recordSessionId).map fun action =>
        (chosenSelector mode (exportStep tables true action)).1 := by
  have steps := congrArg (List.map Prod.fst) (exported_steps drafted)
  rw [List.map_map, List.map_map, readRecordingExportSteps, List.map_map] at steps
  exact steps

/-- From the read of the verdict to the export every step keeps its class or falls. -/
theorem exported_lowered
    (drafted : Drafted tables recordSessionId mode verifiedClasses stepLabels artifact) :
    List.Forall₂ Lowers ((readRecordingExportSteps tables recordSessionId false).map
        RecordingExportStep.replayClass)
      (artifact.steps.map ReplayExportStepItem.replayClass) := by
  rw [exported_classes drafted, readRecordingExportSteps, List.map_map,
    List.forall₂_map_left_iff, List.forall₂_map_right_iff, List.forall₂_same]
  intro action _
  exact (second_read_lowers tables action).trans (chosen_lowers mode _)

theorem unready_without_selectors
    (drafted : Drafted tables recordSessionId mode verifiedClasses stepLabels artifact)
    (absent : tables.selectorPaths.isSome = false) :
    ¬ReplayReady (artifact.steps.map ReplayExportStepItem.replayClass) := by
  have falls : ∀ replayClass, replayClass = replayClassEligible ∨
      replayClass = replayClassProvisional →
        (artifact.steps.map ReplayExportStepItem.replayClass).count replayClass = 0 := by
    intro replayClass wanted
    rw [exported_classes drafted, List.count_eq_zero, List.mem_map]
    rintro ⟨action, _, shown⟩
    have second := class_without_selectors absent action
    rcases chosen_lowers mode (exportStep tables true action) with same | ⟨eligible, _⟩
    · rw [same] at shown
      rw [← shown] at wanted
      rcases wanted with eligible | provisional
      · exact second.2.1 eligible
      · exact second.2.2 provisional
    · rcases eligible with eligible | provisional
      · exact second.2.1 eligible
      · exact second.2.2 provisional
  have eligible := falls _ (.inl rfl)
  have provisional := falls _ (.inr rfl)
  intro ready
  unfold ReplayReady replayEligibleSteps at ready
  omega

/-- The exported verdict describes the exported steps exactly when the selectors of the
recorded steps suffice. -/
theorem exported_verdict_describes_steps_iff
    (built : buildReplayExport tables recordSessionId mode verifiedClasses generatedTsMs
      stepLabels = .ok artifact) :
    DescribesSteps mode verifiedClasses artifact ↔
      SelectorsSuffice tables recordSessionId mode := by
  have draft := built_from_draft built
  have drafted := draft_from draft
  have lowered := exported_lowered drafted
  have counts := lowered_counts lowered
  have rules := recording_replay_verdict_rules
    (readRecordingExportSteps tables recordSessionId false) verifiedClasses
  rw [← drafted.state, ← drafted.available] at rules
  unfold SelectorsSuffice
  dsimp only
  constructor
  · intro describes
    constructor
    · rw [or_iff_not_imp_left]
      intro absent
      have unready := unready_without_selectors drafted (Bool.eq_false_iff.mpr absent)
      have same := describes.verdict.trans rules
      exact (rules_of_unready unready).mp same
    · intro native
      subst native
      have shown := describes.native rfl
      rw [(native_counts drafted).2] at shown
      omega
  · rintro ⟨readable, enough⟩
    by_cases ready : ReplayReady ((readRecordingExportSteps tables recordSessionId false).map
        RecordingExportStep.replayClass)
    · have present : tables.selectorPaths.isSome = true :=
        readable.resolve_right (not_not.mpr ready)
      rcases drafted.known with agent | native
      · subst agent
        have kept : artifact.steps.map ReplayExportStepItem.replayClass =
            (readRecordingExportSteps tables recordSessionId false).map
              RecordingExportStep.replayClass := by
          rw [exported_classes drafted, readRecordingExportSteps, List.map_map]
          apply List.map_congr_left
          intro action _
          rw [chosen_agent, class_with_selectors present]
          rfl
        refine ⟨?_, fun native => absurd native (by decide)⟩
        rw [kept, rules]
      · subst native
        have available := (congrArg Prod.snd rules).symm.trans (drafted.verified rfl)
        have unprovisional := (rules_available available).2
        have shown := native_counts drafted
        have sufficient := enough rfl
        have numbers := ready
        unfold ReplayReady at numbers
        have noneLeft : (artifact.steps.map ReplayExportStepItem.replayClass).count
            replayClassProvisional = 0 := by omega
        have still : ReplayReady (artifact.steps.map ReplayExportStepItem.replayClass) := by
          unfold ReplayReady replayEligibleSteps
          omega
        refine ⟨?_, fun _ => ⟨by omega, by omega, by omega⟩⟩
        rw [rules]
        exact rules_of_ready ready still unprovisional noneLeft
    · have unready : ¬ReplayReady (artifact.steps.map ReplayExportStepItem.replayClass) :=
        fun still => ready (lowered_ready lowered still)
      refine ⟨?_, ?_⟩
      · rw [rules]
        exact (rules_of_unready unready).mpr ready
      · intro native
        have available := (congrArg Prod.snd rules).symm.trans (drafted.verified native)
        exact absurd (rules_available available).1 ready

end Describes

section Blueprint

private def buttonHops : String := "[\x7b\"control_type\":50000\x7d]"

private def namedHops : String :=
  "[\x7b\"automation_id\":\"Save as\",\"control_type\":50000\x7d]"

@[reducible] private def blueprintExternals : ReplayExternals where
  toLowercase := asciiExternals.toLowercase
  parseJson text :=
    if text = buttonHops then some (.array [.object [("control_type", .number "50000")]])
    else if text = namedHops then
      some (.array [.object [("automation_id", .string "Save as"),
        ("control_type", .number "50000")]])
    else none
  sha256Hex _ := ""
  foldString := asciiExternals.toLowercase
  exportGeneratedTs _ := "1970-01-01T00:00:00.000Z"
  debugText text := text
  numberAsI64 text := parseI64 text
  numberAsF64 _ := none
  percent _ := 100

private def nativeClick (seq : Int) : ExportActionRow where
  recordSessionId := 20
  seq := I64.ofInt seq
  ts := I64.ofInt 2500
  actionType := "invoke"
  patternAction := some "invoke"
  selectorId := some 30
  frameworkClass := "native"
  trustBasis := "pid_match"
  exe := none

/-- A closed recording of two clicks on one button. -/
private def clickTables (hops : String) : ExportTables where
  sessions := [⟨1, some "0.1.0", none⟩]
  recordSessions := some [⟨20, 1, I64.ofInt 2000, some (I64.ofInt 5000)⟩]
  selectorPaths := some [⟨30, some "hash", some "uia", some hops, none⟩]
  actionEvents := some [nativeClick 1, nativeClick 2]
  hasFrameworkClass := true

private def blueprint (hops : String) : Except String ReplayExport :=
  @draftReplayExport blueprintExternals (clickTables hops) 20 replayExportModeNativeSkeleton
    ["native"] (I64.ofInt 0) fun _ => none

private theorem blueprint_casing : @AsciiCasing blueprintExternals :=
  @AsciiCasing.mk blueprintExternals (fun _ _ => rfl) fun _ _ => rfl

theorem exported_verdict_describes_steps_clicks :
    ∃ artifact, @buildReplayExport blueprintExternals (clickTables buttonHops) 20
        replayExportModeNativeSkeleton ["native"] (I64.ofInt 0) (fun _ => none) = .ok artifact ∧
      DescribesSteps replayExportModeNativeSkeleton ["native"] artifact := by
  have done : (blueprint buttonHops).toBool = true := by decide +kernel
  cases drafted : blueprint buttonHops with
  | error error =>
      rw [drafted] at done
      cases done
  | ok artifact =>
      have built := @built_of_draft blueprintExternals _ _ _ _ _ _ artifact blueprint_casing
        drafted
      refine ⟨artifact, built,
        (@exported_verdict_describes_steps_iff blueprintExternals _ _ _ _ _ _ _ built).mpr ?_⟩
      unfold SelectorsSuffice
      decide +kernel

/-- Two native clicks on a control whose identifier has a blank in it: verified, and exported as two
gaps. -/
theorem verified_verdict_over_gaps :
    ¬∀ (externals : ReplayExternals) (tables : ExportTables) (recordSessionId : Int)
        (mode : String) (verifiedClasses : List String) (generatedTsMs : I64)
        (stepLabels : I64 → Option String) (artifact : ReplayExport),
        @buildReplayExport externals tables recordSessionId mode verifiedClasses generatedTsMs
          stepLabels = .ok artifact →
        DescribesSteps mode verifiedClasses artifact := by
  intro all
  have shown : (blueprint namedHops).toOption.map (fun artifact =>
      artifact.steps.map ReplayExportStepItem.replayClass) =
        some [replayClassNativeGap, replayClassNativeGap] := by
    decide +kernel
  cases drafted : blueprint namedHops with
  | error error =>
      rw [drafted] at shown
      cases shown
  | ok artifact =>
      rw [drafted] at shown
      have built := @built_of_draft blueprintExternals _ _ _ _ _ _ artifact blueprint_casing
        drafted
      have classes : artifact.steps.map ReplayExportStepItem.replayClass =
          [replayClassNativeGap, replayClassNativeGap] := Option.some.inj shown
      have describes := all blueprintExternals _ _ _ _ _ _ artifact built
      have rule := congrArg Prod.snd describes.verdict
      rw [classes] at rule
      have verified := @Drafted.verified blueprintExternals _ _ _ _ _ _
        (@draft_from blueprintExternals _ _ _ _ _ _ _ drafted) rfl
      exact absurd (rule.trans verified) (by decide)

end Blueprint

end Gilbreth.Read
