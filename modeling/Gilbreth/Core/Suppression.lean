import Gilbreth.Core.Exclusion
import Gilbreth.Core.Redaction
import Gilbreth.Library.Machine

/-!
# Sensitive-context suppression over a run

The policy as a machine over captured events. Boundary rows move the active set
on two paths, before sequencing when they are dropped and after stamping when
they are kept; either way the set after a run is the fold of the boundary rows
seen, and while it is not empty every kept row is stripped of its content.
-/

set_option autoImplicit false

namespace Gilbreth.Core

open EventPayload

/-- The reason was entered and no later event exits it. -/
def StillEntered (reason : SensitiveContextReason) (history : List EventEnvelope) : Prop :=
  ∃ before entered after, history = before ++ entered :: after ∧
    entered.payload = .sensitiveContextEntered reason ∧
    ∀ later ∈ after, later.payload ≠ .sensitiveContextExited reason

/-- A key row as the capture threads build it: only lean capture classifies a
key. -/
def EventPayload.Unclassified (payload : EventPayload) : Prop :=
  ∀ content ∈ payload.keyContent, content.keyClass = none

/-- Nothing of the content of `captured` is left in `stored`. -/
structure ContentWithheld (captured stored : EventPayload) : Prop where
  windows : ∀ title ∈ stored.windowTitles, title = redacted
  key : ∀ content ∈ stored.keyContent,
    (content.name = redacted ∨ content.name = "") ∧ content.mods = Modifiers.default
  keyClass : captured.Unclassified → stored.Unclassified
  label : ∀ label ∈ stored.label, label = redacted
  counts : ∀ counts ∈ stored.counts, counts = (none, none)

def replayBoundaries (reasons : Finset SensitiveContextReason) (events : List EventEnvelope) :
    Finset SensitiveContextReason :=
  events.foldl (fun active event => event.payload.boundaryStep active) reasons

theorem replay_append (reasons : Finset SensitiveContextReason) (events : List EventEnvelope)
    (event : EventEnvelope) :
    replayBoundaries reasons (events ++ [event]) =
      event.payload.boundaryStep (replayBoundaries reasons events) := by
  rw [replayBoundaries, List.foldl_append]
  rfl

theorem mem_boundary_step_of_not_exit {reason : SensitiveContextReason}
    {reasons : Finset SensitiveContextReason} {payload : EventPayload}
    (active : reason ∈ reasons) (kept : payload ≠ .sensitiveContextExited reason) :
    reason ∈ payload.boundaryStep reasons := by
  cases payload with
  | sensitiveContextEntered entered => exact Finset.mem_insert_of_mem active
  | sensitiveContextExited exited =>
      refine Finset.mem_erase.mpr ⟨?_, active⟩
      rintro rfl
      exact kept rfl
  | _ => exact active

theorem mem_replay_of_no_exit {reason : SensitiveContextReason} {events : List EventEnvelope}
    (kept : ∀ event ∈ events, event.payload ≠ .sensitiveContextExited reason)
    {reasons : Finset SensitiveContextReason} (active : reason ∈ reasons) :
    reason ∈ replayBoundaries reasons events := by
  induction events generalizing reasons with
  | nil => exact active
  | cons event rest induction =>
      exact induction (fun later member => kept later (List.mem_cons_of_mem _ member))
        (mem_boundary_step_of_not_exit active (kept event List.mem_cons_self))

theorem mem_replay_of_still_entered {reason : SensitiveContextReason}
    {history : List EventEnvelope} (entered : StillEntered reason history)
    (reasons : Finset SensitiveContextReason) : reason ∈ replayBoundaries reasons history := by
  obtain ⟨before, enter, after, rfl, payload, kept⟩ := entered
  rw [replayBoundaries, List.foldl_append, List.foldl_cons]
  apply mem_replay_of_no_exit kept
  rw [payload]
  exact Finset.mem_insert_self _ _

section Runs

variable [Externals]

def policyMachine : Machine Policy EventEnvelope (Option EventEnvelope) where
  step policy event := policy.apply event

namespace Policy

variable (policy : Policy)

theorem suppression_apply (event : EventEnvelope) :
    (policy.apply event).1.sensitiveContextSuppression = policy.sensitiveContextSuppression := by
  rw [apply_eq]
  split_ifs
  · exact policy.suppression_observed _
  · rw [apply_after_exclusions_policy]
    split_ifs
    · exact policy.suppression_observed _
    · exact policy.suppression_observed _

/-- Under suppression every event moves the active reasons by its boundary step,
kept or dropped. -/
theorem reasons_apply (enabled : policy.sensitiveContextSuppression = true)
    (event : EventEnvelope) :
    (policy.apply event).1.activeReasons = event.payload.boundaryStep policy.activeReasons := by
  have stage := policy.reasons_observed enabled event.payload
  rw [apply_eq]
  split_ifs at stage ⊢ with dropped
  · exact stage
  · rw [apply_after_exclusions_policy, policy.suppression_observed, if_pos enabled, noteBoundary,
      boundary_step_outbound, stage]

theorem reasons_run (enabled : policy.sensitiveContextSuppression = true)
    (history : List EventEnvelope) :
    (policyMachine.run policy history).sensitiveContextSuppression = true ∧
      (policyMachine.run policy history).activeReasons =
        replayBoundaries policy.activeReasons history := by
  induction history generalizing policy with
  | nil => exact ⟨enabled, rfl⟩
  | cons event rest induction =>
      have next := induction (policy.apply event).1 ((policy.suppression_apply event).trans enabled)
      rw [policy.reasons_apply enabled event] at next
      exact next

theorem active_of_mem {reason : SensitiveContextReason}
    (enabled : policy.sensitiveContextSuppression = true) (active : reason ∈ policy.activeReasons) :
    policy.sensitiveContextActive = true := by
  have some_reason : policy.activeReasons ≠ ∅ := Finset.ne_empty_of_mem active
  rw [sensitiveContextActive, enabled, decide_eq_true some_reason]
  rfl

theorem redact_event_withholds (active : policy.sensitiveContextActive = true)
    (event : EventEnvelope) :
    ContentWithheld event.payload (policy.redactEvent event).payload := by
  have suppressed : policy.suppressedPayload event = event.payload.redactForSensitiveContext.1 :=
    if_pos active
  have titles : ∀ title ∈ (policy.redactEvent event).payload.titles, title = redacted := by
    intro title shown
    rw [titles_redact_event, suppressed, titles_redact_for_sensitive_context, List.map_map,
      List.mem_map] at shown
    obtain ⟨_, _, rfl⟩ := shown
    exact ite_self _
  have key : ∀ content ∈ (policy.redactEvent event).payload.keyContent,
      ∃ original ∈ event.payload.keyContent,
        content = policy.storedKey event (suppressedKey original) := by
    intro content stored
    rw [key_content_redact_event, suppressed, key_content_redact_for_sensitive_context,
      Option.map_map, Option.mem_map] at stored
    obtain ⟨original, captured, same⟩ := stored
    exact ⟨original, captured, same.symm⟩
  constructor
  · exact fun title shown => titles title (List.mem_append_left _ shown)
  · intro content stored
    obtain ⟨original, _, rfl⟩ := key content stored
    exact policy.stored_suppressed_key event original
  · intro unclassified content stored
    obtain ⟨original, captured, rfl⟩ := key content stored
    rw [policy.stored_suppressed_key_class event original]
    exact unclassified original captured
  · intro label shown
    apply titles label
    exact List.mem_append_right _ (Option.mem_toList.mpr shown)
  · intro counts stored
    rw [counts_redact_event, suppressed, counts_redact_for_sensitive_context,
      Option.mem_map] at stored
    obtain ⟨_, _, rfl⟩ := stored
    rfl

end Policy

/-- While an entered reason has not been exited, every kept row other than a
boundary row is withheld, and exiting another reason does not lift that. -/
theorem suppression_never_leaks (policy : Policy)
    (enabled : policy.sensitiveContextSuppression = true) (history : List EventEnvelope)
    (reason : SensitiveContextReason) (entered : StillEntered reason history) :
    (∀ event stored, event.payload.isBoundary = false →
      ((policyMachine.run policy history).apply event).2 = some stored →
      ContentWithheld event.payload stored.payload) ∧
    ∀ event other, other ≠ reason → event.payload = .sensitiveContextExited other →
      ((policyMachine.run policy history).apply event).1.sensitiveContextActive = true := by
  obtain ⟨still_enabled, reasons⟩ := policy.reasons_run enabled history
  have active : reason ∈ (policyMachine.run policy history).activeReasons := by
    rw [reasons]
    exact mem_replay_of_still_entered entered policy.activeReasons
  generalize policyMachine.run policy history = current at still_enabled active ⊢
  constructor
  · intro event stored other kept
    rw [Policy.apply_eq] at kept
    split_ifs at kept with dropped
    have stage : (current.observed event.payload).activeReasons = current.activeReasons := by
      rw [current.reasons_observed still_enabled, if_neg dropped]
    have still_active : (current.observed event.payload).sensitiveContextActive = true :=
      Policy.active_of_mem _ ((current.suppression_observed _).trans still_enabled)
        (stage ▸ active)
    have row : stored = (current.observed event.payload).redactEvent
        { event with payload := current.outbound event.payload } := by
      obtain rfl := Option.some.inj kept
      rw [Policy.apply_after_exclusions_event, Policy.is_boundary_outbound, other, Bool.and_false]
      rfl
    have withheld := Policy.redact_event_withholds _ still_active
      { event with payload := current.outbound event.payload }
    rw [row]
    refine { withheld with keyClass := fun unclassified => withheld.keyClass ?_ }
    rw [Unclassified, Policy.key_content_outbound]
    exact unclassified
  · intro event other different exits
    have remains : reason ∈ (current.apply event).1.activeReasons := by
      rw [current.reasons_apply still_enabled, exits]
      exact Finset.mem_erase.mpr ⟨different.symm, active⟩
    exact Policy.active_of_mem _ ((current.suppression_apply event).trans still_enabled) remains

end Runs

section Witness

attribute [local instance] asciiExternals

def passwordFieldRow : EventEnvelope :=
  ⟨schemaVersion, 1, 1, I64.ofInt 1000, .system, false, .sensitiveContextEntered .passwordField⟩

def typedRow : EventEnvelope :=
  ⟨schemaVersion, 1, 2, I64.ofInt 2000, .keyboard, false,
    .key "A" ⟨true, false, false, false⟩ (some ⟨1, "browser.exe", "Sign in", 7⟩) none⟩

theorem password_key_withheld :
    ∃ stored, ((policyMachine.run (Policy.identity.withSensitiveContextSuppression true)
        [passwordFieldRow]).apply typedRow).2 = some stored ∧
      ContentWithheld typedRow.payload stored.payload := by
  refine ⟨_, rfl, ?_⟩
  exact (suppression_never_leaks (Policy.identity.withSensitiveContextSuppression true) rfl
    [passwordFieldRow] .passwordField ⟨[], passwordFieldRow, [], rfl, rfl, by simp⟩).1
    typedRow _ rfl rfl

end Witness

end Gilbreth.Core
