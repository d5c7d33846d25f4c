import Gilbreth.Core.Exclusion
import Gilbreth.Core.Stream

/-!
# Excluded apps do not interfere

The exclusion stage as a machine over captured rows and the command that forgets
the focus attribution. Two runs that differ only inside excluded apps keep the
same rows: one step agrees on both sides, and the runs follow.
-/

set_option autoImplicit false

namespace Gilbreth.Core

open EventPayload

def Attribution.apps : Attribution → List String
  | focus exe => [exe]
  | app exe => [exe]
  | _ => []

namespace EventPayload

/-- The app of the row `prev` of a focus change. -/
def prevApps : EventPayload → List String
  | focusChanged _ prev .. => (prev.map WindowRef.exe).toList
  | _ => []

/-- The executables that focus, window, input and process rows name. -/
def namedApps (payload : EventPayload) : List String :=
  payload.attribution.apps ++ payload.prevApps

def focusWindow : EventPayload → Option WindowRef
  | focusChanged window .. => some window
  | _ => none

end EventPayload

inductive ExclusionInput where
  | captured (row : Captured)
  | forgetFocusAttribution

def ExclusionInput.focus : ExclusionInput → Option WindowRef
  | captured row => row.payload.focusWindow
  | forgetFocusAttribution => none

section Runs

variable [Externals]

def exclusionMachine : Machine Policy ExclusionInput (Option Captured) where
  step policy input :=
    match input with
    | .captured captured => policy.applyExclusionsToCaptured captured
    | .forgetFocusAttribution => (policy.forgetFocusAttribution, none)

theorem apply_exclusions_to_captured_eq (policy : Policy) (captured : Captured) :
    policy.applyExclusionsToCaptured captured =
      (policy.observed captured.payload,
        if policy.drops captured.payload then none
        else some { captured with payload := policy.outbound captured.payload }) := by
  rw [Policy.applyExclusionsToCaptured, Policy.apply_exclusion_boundary_eq]
  split_ifs <;> rfl

namespace Policy

variable (policy : Policy)

theorem excluded_apps_step (input : ExclusionInput) :
    (exclusionMachine.step policy input).1.excludedApps = policy.excludedApps := by
  cases input with
  | captured captured =>
      change (policy.applyExclusionsToCaptured captured).1.excludedApps = _
      rw [apply_exclusions_to_captured_eq]
      exact policy.excluded_apps_observed captured.payload
  | forgetFocusAttribution => rfl

theorem suppression_step (input : ExclusionInput) :
    (exclusionMachine.step policy input).1.sensitiveContextSuppression =
      policy.sensitiveContextSuppression := by
  cases input with
  | captured captured =>
      change (policy.applyExclusionsToCaptured captured).1.sensitiveContextSuppression = _
      rw [apply_exclusions_to_captured_eq]
      exact policy.suppression_observed captured.payload
  | forgetFocusAttribution => rfl

theorem excludes_exe_congr {left right : Policy} (same : left.excludedApps = right.excludedApps)
    (exe : String) : left.excludesExe exe = right.excludesExe exe := by
  rw [excludesExe, excludesExe, same]

theorem attribution_outbound (payload : EventPayload) :
    (policy.outbound payload).attribution = payload.attribution := by
  cases payload with
  | focusChanged window prev focusedFor unfocusedFor recovered =>
      simp only [outbound]
      split_ifs <;> rfl
  | _ => rfl

theorem attributed_app_allowed {payload : EventPayload} (kept : policy.drops payload = false) :
    ∀ exe ∈ payload.attribution.apps, policy.excludesExe exe = false := by
  unfold drops at kept
  cases attributed : payload.attribution with
  | focus app =>
      rw [attributed] at kept
      simpa [Attribution.apps] using kept
  | app app =>
      rw [attributed] at kept
      simpa [Attribution.apps] using kept
  | _ => simp [Attribution.apps]

theorem prev_app_allowed (payload : EventPayload) :
    ∀ exe ∈ (policy.outbound payload).prevApps, policy.excludesExe exe = false := by
  cases payload with
  | focusChanged window prev focusedFor unfocusedFor recovered =>
      simp only [outbound]
      split_ifs with excluded
      · simp [prevApps]
      · cases prev with
        | none => simp [prevApps]
        | some previous => simpa [prevApps] using excluded
  | _ => simp [outbound, prevApps]

theorem outbound_names_no_excluded_app {payload : EventPayload}
    (kept : policy.drops payload = false) :
    ∀ exe ∈ (policy.outbound payload).namedApps, policy.excludesExe exe = false := by
  intro exe named
  rcases List.mem_append.mp named with attributed | previous
  · rw [attribution_outbound] at attributed
    exact policy.attributed_app_allowed kept exe attributed
  · exact policy.prev_app_allowed payload exe previous

section Interference

/-- The row is attributed, by its focused, lifecycle or input window or by its
process, to an excluded app. -/
def AttributedToExcluded (payload : EventPayload) : Prop :=
  ∃ exe ∈ payload.attribution.apps, policy.excludesExe exe = true

/-- Two payloads that may differ only inside excluded apps. -/
inductive Interchangeable : EventPayload → EventPayload → Prop where
  | same (payload : EventPayload) : Interchangeable payload payload
  | excluded (left right : EventPayload) (kind : left.kind = right.kind)
      (leftExcluded : policy.AttributedToExcluded left)
      (rightExcluded : policy.AttributedToExcluded right) : Interchangeable left right
  | outbound (window leftPrev rightPrev : WindowRef)
      (leftFocusedFor rightFocusedFor leftUnfocusedFor rightUnfocusedFor : UInt64)
      (recovered : Bool) (allowed : policy.excludesExe window.exe = false)
      (leftExcluded : policy.excludesExe leftPrev.exe = true)
      (rightExcluded : policy.excludesExe rightPrev.exe = true) :
      Interchangeable
        (.focusChanged window (some leftPrev) leftFocusedFor leftUnfocusedFor recovered)
        (.focusChanged window (some rightPrev) rightFocusedFor rightUnfocusedFor recovered)

inductive InputsAgree : ExclusionInput → ExclusionInput → Prop where
  | captured (source : Source) (capturedAt : Instant) (left right : EventPayload)
      (payloads : policy.Interchangeable left right) :
      InputsAgree (.captured ⟨source, capturedAt, left⟩) (.captured ⟨source, capturedAt, right⟩)
  | forgetFocusAttribution : InputsAgree .forgetFocusAttribution .forgetFocusAttribution

theorem excluded_row_dropped {payload : EventPayload}
    (excluded : policy.AttributedToExcluded payload) : policy.drops payload = true := by
  obtain ⟨exe, named, excluded⟩ := excluded
  unfold drops
  cases attributed : payload.attribution with
  | focus app =>
      rw [attributed] at named
      exact List.mem_singleton.mp named ▸ excluded
  | app app =>
      rw [attributed] at named
      exact List.mem_singleton.mp named ▸ excluded
  | _ =>
      rw [attributed] at named
      exact absurd named List.not_mem_nil

/-- A row inside an excluded app leaves no trace but the latch of a focus change. -/
theorem excluded_row_observed {payload : EventPayload}
    (excluded : policy.AttributedToExcluded payload) :
    policy.observed payload =
      if payload.kind = "focus_changed" then policy.latchFocus true else policy := by
  cases payload with
  | focusChanged window prev focusedFor unfocusedFor recovered =>
      have latched : policy.excludesExe window.exe = true := policy.excluded_row_dropped excluded
      simp only [observed, attribution, latched, kind, if_true]
  | key name mods window keyClass => cases window <;> rfl
  | mouseClick button x y window inputOrigin => cases window <;> rfl
  | mouseDoubleClick button interval x y window inputOrigin => cases window <;> rfl
  | mouseDrag button dx dy distance count duration startX startY endX endY window =>
      cases window <;> rfl
  | mouseWheel axis delta x y window inputOrigin => cases window <;> rfl
  | mouseMove dx dy distance count duration x y window inputOrigin => cases window <;> rfl
  | sensitiveContextEntered reason =>
      obtain ⟨_, named, _⟩ := excluded
      exact absurd named List.not_mem_nil
  | sensitiveContextExited reason =>
      obtain ⟨_, named, _⟩ := excluded
      exact absurd named List.not_mem_nil
  | _ => rfl

theorem interchangeable_rows_alike {left right : EventPayload}
    (payloads : policy.Interchangeable left right) :
    policy.applyExclusionBoundary left = policy.applyExclusionBoundary right := by
  cases payloads with
  | same => rfl
  | excluded left right kind leftExcluded rightExcluded =>
      rw [apply_exclusion_boundary_eq, apply_exclusion_boundary_eq,
        policy.excluded_row_dropped leftExcluded, policy.excluded_row_dropped rightExcluded,
        policy.excluded_row_observed leftExcluded, policy.excluded_row_observed rightExcluded, kind]
      rfl
  | outbound window leftPrev rightPrev _ _ _ _ recovered allowed leftExcluded rightExcluded =>
      simp only [applyExclusionBoundary, allowed, Option.any_some, leftExcluded, rightExcluded,
        if_true, if_false, Bool.false_eq_true]

theorem interchangeable_congr {other : Policy} (same : policy.excludedApps = other.excludedApps)
    {left right : EventPayload} (payloads : policy.Interchangeable left right) :
    other.Interchangeable left right := by
  have exes := excludes_exe_congr same
  have attributed : ∀ payload, policy.AttributedToExcluded payload →
      other.AttributedToExcluded payload := by
    rintro payload ⟨exe, named, excluded⟩
    exact ⟨exe, named, (exes exe).symm.trans excluded⟩
  cases payloads with
  | same => exact .same _
  | excluded left right kind leftExcluded rightExcluded =>
      exact .excluded left right kind (attributed left leftExcluded)
        (attributed right rightExcluded)
  | outbound window leftPrev rightPrev _ _ _ _ recovered allowed leftExcluded rightExcluded =>
      exact .outbound window leftPrev rightPrev _ _ _ _ recovered
        ((exes window.exe).symm.trans allowed) ((exes leftPrev.exe).symm.trans leftExcluded)
        ((exes rightPrev.exe).symm.trans rightExcluded)

theorem agreeing_inputs_alike {left right : ExclusionInput}
    (agree : policy.InputsAgree left right) :
    exclusionMachine.step policy left = exclusionMachine.step policy right := by
  cases agree with
  | captured source capturedAt left right payloads =>
      have alike := policy.interchangeable_rows_alike payloads
      simp only [exclusionMachine, applyExclusionsToCaptured, alike]
  | forgetFocusAttribution => rfl

end Interference

end Policy

/-- The rows of a run that the stage kept, in order. -/
def keptRows (policy : Policy) (inputs : List ExclusionInput) : List Captured :=
  (exclusionMachine.outputs policy inputs).filterMap id

theorem agreeing_step (policy current : Policy) {left right : ExclusionInput}
    (same : policy.excludedApps = current.excludedApps) (agree : policy.InputsAgree left right) :
    exclusionMachine.step current left = exclusionMachine.step current right := by
  apply current.agreeing_inputs_alike
  cases agree with
  | captured source capturedAt left right payloads =>
      exact .captured source capturedAt left right (policy.interchangeable_congr same payloads)
  | forgetFocusAttribution => exact .forgetFocusAttribution

theorem agreeing_runs_alike (policy : Policy) {left right : List ExclusionInput}
    (agree : List.Forall₂ policy.InputsAgree left right) :
    exclusionMachine.run policy left = exclusionMachine.run policy right ∧
      exclusionMachine.outputs policy left = exclusionMachine.outputs policy right := by
  have alike := Machine.runs_related exclusionMachine
    (fun current other => current = other ∧ policy.excludedApps = current.excludedApps)
    policy.InputsAgree
    (by
      rintro current _ leftInput rightInput ⟨rfl, same⟩ inputs
      rw [agreeing_step policy current same inputs]
      exact ⟨⟨rfl, same.trans (current.excluded_apps_step rightInput).symm⟩, rfl⟩)
    agree policy policy ⟨rfl, rfl⟩
  exact ⟨alike.1.1, alike.2⟩

theorem step_names_no_excluded_app (policy : Policy) (input : ExclusionInput) :
    ∀ row ∈ (exclusionMachine.step policy input).2,
      ∀ exe ∈ row.payload.namedApps, policy.excludesExe exe = false := by
  intro row kept
  cases input with
  | captured captured =>
      change row ∈ (policy.applyExclusionsToCaptured captured).2 at kept
      rw [apply_exclusions_to_captured_eq] at kept
      split_ifs at kept with dropped
      · exact absurd kept (Option.not_mem_none row)
      · obtain rfl := Option.some.inj (Option.mem_def.mp kept)
        exact policy.outbound_names_no_excluded_app (eq_false_of_ne_true dropped)
  | forgetFocusAttribution => exact absurd kept (Option.not_mem_none row)

theorem kept_rows_name_no_excluded_app (policy : Policy) (inputs : List ExclusionInput) :
    ∀ row ∈ keptRows policy inputs,
      ∀ exe ∈ row.payload.namedApps, policy.excludesExe exe = false := by
  intro row member
  obtain ⟨output, produced, rfl⟩ := List.mem_filterMap.mp member
  exact Machine.outputs_invariant exclusionMachine
    (fun current => policy.excludedApps = current.excludedApps)
    (fun output => ∀ row ∈ output, ∀ exe ∈ row.payload.namedApps, policy.excludesExe exe = false)
    (by
      intro current input same
      refine ⟨same.trans (current.excluded_apps_step input).symm, ?_⟩
      intro row kept exe named
      rw [Policy.excludes_exe_congr same]
      exact step_names_no_excluded_app current input row kept exe named)
    policy inputs rfl _ produced row (Option.mem_def.mpr rfl)

/-- Two runs that differ only inside excluded apps keep the same rows at the
same positions, end in the same policy, and are numbered alike. -/
theorem excluded_apps_do_not_interfere (policy : Policy) (left right : List ExclusionInput)
    (agree : List.Forall₂ policy.InputsAgree left right) :
    exclusionMachine.outputs policy left = exclusionMachine.outputs policy right ∧
    (exclusionMachine.run policy left).currentFocusExcluded =
      (exclusionMachine.run policy right).currentFocusExcluded ∧
    (exclusionMachine.run policy left).activeReasons =
      (exclusionMachine.run policy right).activeReasons ∧
    (∀ row ∈ keptRows policy left ++ keptRows policy right,
      ∀ exe ∈ row.payload.namedApps, policy.excludesExe exe = false) ∧
    ∀ sequencer : Sequencer,
      (stampsOf sequencer ((keptRows policy left).map .stamp)).map Prod.fst =
        (stampsOf sequencer ((keptRows policy right).map .stamp)).map Prod.fst := by
  obtain ⟨states, rows⟩ := agreeing_runs_alike policy agree
  refine ⟨rows, by rw [states], by rw [states], ?_, ?_⟩
  · intro row member
    rcases List.mem_append.mp member with first | second
    · exact kept_rows_name_no_excluded_app policy left row first
    · exact kept_rows_name_no_excluded_app policy right row second
  · intro sequencer
    rw [keptRows, keptRows, rows]

end Runs

section Vault

attribute [local instance] asciiExternals

/-- A policy that excludes one app, before any focus was observed. -/
def vaultPolicy : Policy :=
  (Policy.identity.withSensitiveContextSuppression true).withExcludedApps ["Vault.exe"]

def editorWindow : WindowRef := ⟨1, "C:\\apps\\Editor.exe", "notes", 10⟩

def vaultWindow : WindowRef := ⟨2, "C:\\apps\\VAULT.EXE", "secrets", 20⟩

def otherVaultWindow : WindowRef := ⟨3, "vault.exe", "other secrets", 30⟩

theorem vault_window_excluded : vaultPolicy.excludesExe vaultWindow.exe = true := by
  decide +kernel

theorem other_vault_window_excluded : vaultPolicy.excludesExe otherVaultWindow.exe = true := by
  decide +kernel

theorem editor_window_allowed : vaultPolicy.excludesExe editorWindow.exe = false := by
  decide +kernel

/-- Two visits to the excluded app with different windows, keys and dwell. -/
theorem vault_visit_does_not_interfere :
    exclusionMachine.outputs vaultPolicy
      [.captured ⟨.foreground, ⟨0⟩, .focusChanged vaultWindow none 0 0 false⟩,
        .captured ⟨.keyboard, ⟨1⟩, .key "A" Modifiers.default (some vaultWindow) none⟩,
        .captured ⟨.foreground, ⟨2⟩, .focusChanged editorWindow (some vaultWindow) 7 9 false⟩] =
    exclusionMachine.outputs vaultPolicy
      [.captured ⟨.foreground, ⟨0⟩, .focusChanged otherVaultWindow none 5 0 false⟩,
        .captured ⟨.keyboard, ⟨1⟩, .key "B" Modifiers.default (some otherVaultWindow) none⟩,
        .captured ⟨.foreground, ⟨2⟩,
          .focusChanged editorWindow (some otherVaultWindow) 1 2 false⟩] := by
  refine (excluded_apps_do_not_interfere vaultPolicy _ _ ?_).1
  refine .cons (.captured _ _ _ _ ?_) (.cons (.captured _ _ _ _ ?_)
    (.cons (.captured _ _ _ _ ?_) .nil))
  · exact .excluded _ _ rfl ⟨_, List.mem_singleton_self _, vault_window_excluded⟩
      ⟨_, List.mem_singleton_self _, other_vault_window_excluded⟩
  · exact .excluded _ _ rfl ⟨_, List.mem_singleton_self _, vault_window_excluded⟩
      ⟨_, List.mem_singleton_self _, other_vault_window_excluded⟩
  · exact .outbound editorWindow vaultWindow otherVaultWindow 7 1 9 2 false
      editor_window_allowed vault_window_excluded other_vault_window_excluded

end Vault

end Gilbreth.Core
