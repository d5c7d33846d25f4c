import Gilbreth.Core.Content
import Gilbreth.Core.Policy

/-!
# What the redaction pipeline leaves of a row

Suppression, the flag for rows redacted at capture, the two fragment rules and
lean capture run one after the other. Each projection of the stored row is
computed once for the whole pipeline; completeness of the redaction is then
settled on the projections, with the exact rows on which it fails.
-/

set_option autoImplicit false

namespace Gilbreth.Core

open EventPayload

variable [Externals]

namespace Policy

variable (policy : Policy)

section Fragments

variable (payload : EventPayload)

def titleRuleChanges : Bool := payload.titles.any (titleRuleFires policy.titleRedactionFragments)

@[simp] theorem titles_redact_fragments :
    (policy.redactFragments payload).1.titles =
      payload.titles.map (titleRule policy.titleRedactionFragments) := by
  unfold redactFragments
  dsimp only
  split_ifs <;> simp

@[simp] theorem key_content_redact_fragments :
    (policy.redactFragments payload).1.keyContent =
      if policy.titleRuleChanges payload then payload.keyContent
      else payload.keyContent.map (keyRule policy.keyRedactionFragments) := by
  unfold redactFragments titleRuleChanges
  simp only [redact_titles_containing_changed]
  split_ifs <;> simp

@[simp] theorem counts_redact_fragments :
    (policy.redactFragments payload).1.counts = payload.counts := by
  unfold redactFragments
  dsimp only
  split_ifs <;> simp

@[simp] theorem is_boundary_redact_fragments :
    (policy.redactFragments payload).1.isBoundary = payload.isBoundary := by
  unfold redactFragments
  dsimp only
  split_ifs <;> simp

/-- Because the second rule is skipped only after a change, the report is still
the disjunction of the two. -/
@[simp] theorem redact_fragments_changed :
    (policy.redactFragments payload).2 =
      (policy.titleRuleChanges payload ||
        payload.keyContent.any fun content =>
          matchesAny policy.keyRedactionFragments content.name) := by
  unfold redactFragments titleRuleChanges
  simp only [redact_titles_containing_changed]
  split_ifs with changes
  · simp [changes]
  · simp [changes]

end Fragments

section Pipeline

variable (event : EventEnvelope)

def suppressedPayload : EventPayload :=
  if policy.sensitiveContextActive then event.payload.redactForSensitiveContext.1
  else event.payload

theorem redact_event_payload :
    (policy.redactEvent event).payload =
      if policy.omitKeyContent then
        (policy.redactFragments (policy.suppressedPayload event)).1.omitKeyContent.1
      else (policy.redactFragments (policy.suppressedPayload event)).1 := by
  unfold redactEvent suppressedPayload EventEnvelope.redactWith
  dsimp only
  split_ifs <;> rfl

theorem redact_event_is_sensitive :
    (policy.redactEvent event).isSensitive =
      (event.isSensitive ||
        (policy.sensitiveContextActive && event.payload.redactForSensitiveContext.2) ||
        (policy.suppressedPayload event).keyWasCaptureRedacted ||
        (policy.redactFragments (policy.suppressedPayload event)).2) := by
  unfold redactEvent suppressedPayload EventEnvelope.redactWith
  dsimp only
  split_ifs <;> simp_all

theorem titles_redact_event :
    (policy.redactEvent event).payload.titles =
      (policy.suppressedPayload event).titles.map (titleRule policy.titleRedactionFragments) := by
  rw [redact_event_payload]
  split_ifs <;> simp

theorem counts_redact_event :
    (policy.redactEvent event).payload.counts = (policy.suppressedPayload event).counts := by
  rw [redact_event_payload]
  split_ifs <;> simp

theorem is_boundary_redact_event :
    (policy.redactEvent event).payload.isBoundary = event.payload.isBoundary := by
  rw [redact_event_payload]
  unfold suppressedPayload
  split_ifs <;> simp

def ruledKey (content : KeyContent) : KeyContent :=
  if policy.titleRuleChanges (policy.suppressedPayload event) then content
  else keyRule policy.keyRedactionFragments content

def storedKey (content : KeyContent) : KeyContent :=
  if policy.omitKeyContent then leanRule (policy.ruledKey event content)
  else policy.ruledKey event content

theorem ruled_key_of_redacted (content : KeyContent) (same : content.name = redacted) :
    (policy.ruledKey event content).name = redacted := by
  unfold ruledKey keyRule
  split_ifs
  · exact same
  · rfl
  · exact same

theorem stored_suppressed_key (content : KeyContent) :
    ((policy.storedKey event (suppressedKey content)).name = redacted ∨
      (policy.storedKey event (suppressedKey content)).name = "") ∧
    (policy.storedKey event (suppressedKey content)).mods = Modifiers.default := by
  have ruled := policy.ruled_key_of_redacted event (suppressedKey content) rfl
  have mods : (policy.ruledKey event (suppressedKey content)).mods = Modifiers.default := by
    unfold ruledKey keyRule
    split_ifs <;> rfl
  unfold storedKey
  split_ifs
  · refine ⟨Or.inr (lean_rule_name _), ?_⟩
    unfold leanRule
    split_ifs <;> exact mods
  · exact ⟨Or.inl ruled, mods⟩

theorem stored_suppressed_key_class (content : KeyContent) :
    (policy.storedKey event (suppressedKey content)).keyClass = content.keyClass := by
  have ruled := policy.ruled_key_of_redacted event (suppressedKey content) rfl
  have kept : (policy.ruledKey event (suppressedKey content)).keyClass = content.keyClass := by
    unfold ruledKey keyRule
    split_ifs <;> rfl
  unfold storedKey leanRule
  rw [if_pos ruled]
  split_ifs <;> exact kept

theorem key_content_redact_event :
    (policy.redactEvent event).payload.keyContent =
      (policy.suppressedPayload event).keyContent.map (policy.storedKey event) := by
  have ruled : (policy.redactFragments (policy.suppressedPayload event)).1.keyContent =
      (policy.suppressedPayload event).keyContent.map (policy.ruledKey event) := by
    rw [key_content_redact_fragments]
    unfold ruledKey
    split_ifs <;> simp
  rw [redact_event_payload]
  unfold storedKey
  split_ifs with lean
  · rw [key_content_omit_key_content, ruled, Option.map_map]
    rfl
  · exact ruled

/-- With suppression enabled a boundary row passes untouched; every other row
goes through the pipeline. -/
theorem apply_after_exclusions_event :
    (policy.applyAfterExclusions event).2 =
      if policy.sensitiveContextSuppression && event.payload.isBoundary then event
      else policy.redactEvent event := by
  unfold applyAfterExclusions
  cases policy.sensitiveContextSuppression with
  | false => rfl
  | true => cases event.payload <;> rfl

theorem apply_after_exclusions_header :
    (policy.applyAfterExclusions event).2.sessionId = event.sessionId ∧
      (policy.applyAfterExclusions event).2.seq = event.seq ∧
      (policy.applyAfterExclusions event).2.tsUnixMs = event.tsUnixMs := by
  rw [apply_after_exclusions_event]
  split_ifs
  · exact ⟨rfl, rfl, rfl⟩
  · unfold redactEvent
    dsimp only [EventEnvelope.redactWith]
    split_ifs <;> exact ⟨rfl, rfl, rfl⟩

end Pipeline

end Policy

end Gilbreth.Core
