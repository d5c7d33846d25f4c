import Gilbreth.Core.NonInterference
import Gilbreth.Library.Latch

/-!
# Rows without attribution fail closed

Input without a window and boundary rows are judged by the focus latch. The
latch is a cell that focus changes and the forget command overwrite, so its
content after any history is decided by the last of them.
-/

set_option autoImplicit false

namespace Gilbreth.Core

open EventPayload

/-- Rows whose only attribution is the live focus: input without a window and
boundary rows. -/
def EventPayload.Unattributed (payload : EventPayload) : Prop :=
  payload.attribution = .focusedApp ∨ payload.attribution = .boundary

section Runs

variable [Externals]

def latchWrite (policy : Policy) : ExclusionInput → Option (Option Bool)
  | .captured captured =>
      captured.payload.focusWindow.map fun window => some (policy.excludesExe window.exe)
  | .forgetFocusAttribution => some none

theorem latch_write_congr {policy other : Policy}
    (same : policy.excludedApps = other.excludedApps) : latchWrite policy = latchWrite other := by
  funext input
  cases input with
  | captured captured => simp only [latchWrite, Policy.excludes_exe_congr same]
  | forgetFocusAttribution => rfl

theorem latch_observed (policy : Policy) (payload : EventPayload) :
    (policy.observed payload).currentFocusExcluded =
      (payload.focusWindow.map fun window => some (policy.excludesExe window.exe)).getD
        policy.currentFocusExcluded := by
  cases payload with
  | key name mods window => cases window <;> rfl
  | mouseClick button x y window => cases window <;> rfl
  | mouseDoubleClick button interval x y window => cases window <;> rfl
  | mouseDrag button dx dy distance count duration startX startY endX endY window =>
      cases window <;> rfl
  | mouseWheel axis delta x y window => cases window <;> rfl
  | mouseMove dx dy distance count duration x y window => cases window <;> rfl
  | sensitiveContextEntered reason =>
      simp only [Policy.observed, attribution]
      split_ifs <;> rfl
  | sensitiveContextExited reason =>
      simp only [Policy.observed, attribution]
      split_ifs <;> rfl
  | _ => rfl

theorem latch_step (policy : Policy) (input : ExclusionInput) :
    (exclusionMachine.step policy input).1.currentFocusExcluded =
      Latch.overwrite (latchWrite policy) policy.currentFocusExcluded input := by
  cases input with
  | captured captured =>
      change (policy.applyExclusionsToCaptured captured).1.currentFocusExcluded = _
      rw [apply_exclusions_to_captured_eq]
      exact latch_observed policy captured.payload
  | forgetFocusAttribution => rfl

theorem latch_run (policy : Policy) (inputs : List ExclusionInput) :
    (exclusionMachine.run policy inputs).currentFocusExcluded =
      inputs.foldl (Latch.overwrite (latchWrite policy)) policy.currentFocusExcluded := by
  induction inputs generalizing policy with
  | nil => rfl
  | cons input rest induction =>
      rw [Machine.run_cons, induction, List.foldl_cons, latch_step,
        latch_write_congr (policy.excluded_apps_step input)]

theorem excluded_apps_run (policy : Policy) (inputs : List ExclusionInput) :
    (exclusionMachine.run policy inputs).excludedApps = policy.excludedApps :=
  Machine.run_invariant exclusionMachine (fun current => current.excludedApps = policy.excludedApps)
    (fun current input same => (current.excluded_apps_step input).trans same) policy inputs rfl

/-- The last focus change of the history names an allowed window, and nothing
after it forgot the attribution. -/
def LastFocusAllowed (policy : Policy) (history : List ExclusionInput) : Prop :=
  ∃ before input window after, history = before ++ input :: after ∧
    input.focus = some window ∧ policy.excludesExe window.exe = false ∧
    ∀ later ∈ after, later.focus = none ∧ later ≠ .forgetFocusAttribution

theorem latch_write_allows_iff (policy : Policy) (input : ExclusionInput) :
    latchWrite policy input = some (some false) ↔
      ∃ window, input.focus = some window ∧ policy.excludesExe window.exe = false := by
  cases input with
  | captured captured => simp [latchWrite, ExclusionInput.focus]
  | forgetFocusAttribution => simp [latchWrite, ExclusionInput.focus]

theorem latch_write_silent_iff (policy : Policy) (input : ExclusionInput) :
    latchWrite policy input = none ↔
      input.focus = none ∧ input ≠ .forgetFocusAttribution := by
  cases input with
  | captured captured => simp [latchWrite, ExclusionInput.focus]
  | forgetFocusAttribution => simp [latchWrite]

theorem last_write_allows_iff (policy : Policy) (history : List ExclusionInput) :
    Latch.LastWrite (latchWrite policy) history (some false) ↔ LastFocusAllowed policy history := by
  constructor
  · rintro ⟨before, input, after, split, wrote, quiet⟩
    obtain ⟨window, focus, allowed⟩ := (latch_write_allows_iff policy input).mp wrote
    exact ⟨before, input, window, after, split, focus, allowed,
      fun later member => (latch_write_silent_iff policy later).mp (quiet later member)⟩
  · rintro ⟨before, input, window, after, split, focus, allowed, quiet⟩
    exact ⟨before, input, after, split,
      (latch_write_allows_iff policy input).mpr ⟨window, focus, allowed⟩,
      fun later member => (latch_write_silent_iff policy later).mpr (quiet later member)⟩

/-- From a fresh latch, and with some app excluded, the latch lets a row pass
exactly after an allowed focus change that nothing revoked. -/
theorem latched_focus_allowed_iff (policy : Policy) (history : List ExclusionInput)
    (fresh : policy.currentFocusExcluded = none) (excludes : policy.excludedApps ≠ ∅) :
    (exclusionMachine.run policy history).latchedFocusExcluded = false ↔
      LastFocusAllowed policy history := by
  have fail_closed : ∀ latch : Option Bool, latch.getD true = false ↔ latch = some false := by
    rintro (_ | _ | _) <;> simp
  rw [← last_write_allows_iff, Policy.latchedFocusExcluded, excluded_apps_run,
    decide_eq_true excludes, latch_run, fresh, fail_closed, Latch.fold_overwrite_eq_iff]
  simp

theorem drops_unattributed (policy : Policy) {payload : EventPayload}
    (unattributed : payload.Unattributed) :
    policy.drops payload = policy.latchedFocusExcluded := by
  unfold Policy.drops
  rcases unattributed with input | boundary
  · rw [input]
  · rw [boundary]

theorem dropped_boundary_updates_reasons (policy : Policy) {payload : EventPayload}
    (boundary : payload.isBoundary = true) (enabled : policy.sensitiveContextSuppression = true)
    (dropped : (policy.applyExclusionBoundary payload).2 = none) (event : EventEnvelope)
    (same : event.payload = payload) :
    (policy.applyExclusionBoundary payload).1.activeReasons =
      (policy.applyAfterExclusions event).1.activeReasons := by
  subst same
  have attributed := attribution_of_boundary boundary
  have latched : policy.latchedFocusExcluded = true := by
    rw [Policy.apply_exclusion_boundary_eq, policy.drops_boundary boundary] at dropped
    by_contra passes
    rw [if_neg passes] at dropped
    exact Option.some_ne_none _ dropped
  rw [Policy.apply_exclusion_boundary_eq, Policy.apply_after_exclusions_policy, Policy.observed,
    attributed, latched, enabled]
  rfl

/-- With some app excluded, a key or mouse row without a window and a boundary
row are kept exactly while the last observed focus is allowed; a boundary row
that is dropped still moves the active reasons. -/
theorem unattributed_rows_fail_closed (policy : Policy)
    (fresh : policy.currentFocusExcluded = none) (excludes : policy.excludedApps ≠ ∅)
    (history : List ExclusionInput) (row : Captured) (unattributed : row.payload.Unattributed) :
    (((exclusionMachine.run policy history).applyExclusionsToCaptured row).2.isSome = true ↔
      LastFocusAllowed policy history) ∧
    (row.payload.isBoundary = true → policy.sensitiveContextSuppression = true →
      ((exclusionMachine.run policy history).applyExclusionsToCaptured row).2 = none →
      ∀ event : EventEnvelope, event.payload = row.payload →
        ((exclusionMachine.run policy history).applyExclusionsToCaptured row).1.activeReasons =
          ((exclusionMachine.run policy history).applyAfterExclusions event).1.activeReasons) := by
  constructor
  · rw [← latched_focus_allowed_iff policy history fresh excludes,
      ← drops_unattributed _ unattributed, apply_exclusions_to_captured_eq]
    cases (exclusionMachine.run policy history).drops row.payload <;> simp
  · intro boundary enabled dropped event same
    have same_rule := Machine.run_invariant exclusionMachine
      (fun current => current.sensitiveContextSuppression = policy.sensitiveContextSuppression)
      (fun current input kept => (current.suppression_step input).trans kept) policy history rfl
    rw [Policy.applyExclusionsToCaptured] at dropped
    exact dropped_boundary_updates_reasons _ boundary (same_rule.trans enabled)
      (Option.map_eq_none_iff.mp dropped) event same

end Runs

section Vault

attribute [local instance] asciiExternals

/-- A key without a window is kept after the focus moved to the editor. -/
theorem unattributed_key_kept_in_editor :
    ((exclusionMachine.run vaultPolicy
      [.captured ⟨.foreground, ⟨0⟩, .focusChanged editorWindow none 0 0 false⟩]
      ).applyExclusionsToCaptured
        ⟨.keyboard, ⟨1⟩, .key "A" Modifiers.default none none⟩).2.isSome = true := by
  refine (unattributed_rows_fail_closed vaultPolicy rfl (by decide +kernel) _ _
    (Or.inl rfl)).1.mpr ?_
  exact ⟨[], _, editorWindow, [], rfl, rfl, editor_window_allowed, by simp⟩

end Vault

end Gilbreth.Core
