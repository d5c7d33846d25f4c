import Gilbreth.Core.Redaction

/-!
# Completeness of the fragment rules

What the two fragment lists promise about a stored row, and the exact rows on
which `apply_after_exclusions` keeps the promise. Two kinds of row escape: a key
row whose title rule fires first, and a row whose matching titles already are
the placeholder.
-/

set_option autoImplicit false

namespace Gilbreth.Core

open EventPayload

section Rules

variable [Externals]

namespace Policy

variable (policy : Policy)

def KeyMatches (payload : EventPayload) : Prop :=
  ∃ content ∈ payload.keyContent, MatchesFragment policy.keyRedactionFragments content.name

def TitleMatches (payload : EventPayload) : Prop :=
  ∃ title ∈ payload.titles, MatchesFragment policy.titleRedactionFragments title

/-- The promise of the redaction rules about the row `after` stored for `before`. -/
structure RedactionComplete (before after : EventEnvelope) : Prop where
  keyClean : ∀ content ∈ after.payload.keyContent, content.name = "" ∨ content.name = redacted ∨
    ¬MatchesFragment policy.keyRedactionFragments content.name
  titlesClean : ∀ title ∈ after.payload.titles, title = redacted ∨
    ¬MatchesFragment policy.titleRedactionFragments title
  flagged : policy.KeyMatches before.payload ∨ policy.TitleMatches before.payload →
    after.isSensitive = true
  redactedByBoth : policy.KeyMatches before.payload → policy.TitleMatches before.payload →
    (∀ content ∈ after.payload.keyContent, content.name = "" ∨ content.name = redacted) ∧
      List.Forall₂ (fun shown stored =>
        MatchesFragment policy.titleRedactionFragments shown → stored = redacted)
        before.payload.titles after.payload.titles

/-- A key row outside suppression, its content stored, on which both rules have
work: the title rule changes a title, and the key rule never sees the key. -/
def SkipsKeyRule (event : EventEnvelope) : Prop :=
  policy.sensitiveContextActive = false ∧ policy.omitKeyContent = false ∧
    (∃ content ∈ event.payload.keyContent, content.name ≠ redacted ∧
      MatchesFragment policy.keyRedactionFragments content.name) ∧
    ∃ title ∈ event.payload.titles, title ≠ redacted ∧
      MatchesFragment policy.titleRedactionFragments title

/-- An unflagged row other than a key row, with a title that matches, on which
every title the policy would rewrite already is the placeholder. -/
def UnflaggedPlaceholder (event : EventEnvelope) : Prop :=
  event.isSensitive = false ∧ event.payload.keyContent = none ∧
    policy.TitleMatches event.payload ∧
    (∀ title ∈ event.payload.titles,
      policy.sensitiveContextActive = true ∨
        MatchesFragment policy.titleRedactionFragments title → title = redacted)

variable (event : EventEnvelope)

theorem suppressed_titles :
    (policy.suppressedPayload event).titles =
      if policy.sensitiveContextActive then event.payload.titles.map fun _ => redacted
      else event.payload.titles := by
  unfold suppressedPayload
  split_ifs <;> simp

theorem suppressed_key_content :
    (policy.suppressedPayload event).keyContent =
      if policy.sensitiveContextActive then event.payload.keyContent.map suppressedKey
      else event.payload.keyContent := by
  unfold suppressedPayload
  split_ifs <;> simp

theorem title_rule_changes_iff (payload : EventPayload) :
    policy.titleRuleChanges payload = true ↔
      ∃ title ∈ payload.titles,
        MatchesFragment policy.titleRedactionFragments title ∧ title ≠ redacted := by
  simp [titleRuleChanges, List.any_eq_true, title_rule_fires_iff]

section Keys

/-- A stored key is cleared, replaced, or the one that was typed and no rule
matches. -/
theorem stored_key_cases (intact : ¬policy.SkipsKeyRule event) {stored : KeyContent}
    (member : stored ∈ (policy.redactEvent event).payload.keyContent) :
    stored.name = "" ∨ stored.name = redacted ∨
      (∃ content ∈ event.payload.keyContent, content.name = stored.name) ∧
        ¬MatchesFragment policy.keyRedactionFragments stored.name := by
  rw [key_content_redact_event, suppressed_key_content, Option.mem_map] at member
  obtain ⟨content, captured, rfl⟩ := member
  unfold storedKey
  by_cases lean : policy.omitKeyContent = true
  · rw [if_pos lean]
    exact Or.inl (lean_rule_name _)
  rw [if_neg lean]
  by_cases active : policy.sensitiveContextActive = true
  · rw [if_pos active, Option.mem_map] at captured
    obtain ⟨original, _, rfl⟩ := captured
    exact Or.inr (Or.inl (policy.ruled_key_of_redacted event _ rfl))
  rw [if_neg active] at captured
  by_cases same : content.name = redacted
  · exact Or.inr (Or.inl (policy.ruled_key_of_redacted event _ same))
  by_cases matched : MatchesFragment policy.keyRedactionFragments content.name
  · -- Only a title rule that fired first could have kept this key.
    have unchanged : policy.titleRuleChanges (policy.suppressedPayload event) ≠ true := by
      intro changes
      obtain ⟨title, shown, fits, fresh⟩ := (policy.title_rule_changes_iff _).mp changes
      rw [suppressed_titles, if_neg active] at shown
      exact intact ⟨eq_false_of_ne_true active, eq_false_of_ne_true lean,
        ⟨content, captured, same, matched⟩, title, shown, fresh, fits⟩
    unfold ruledKey
    rw [if_neg unchanged]
    exact Or.inr (Or.inl (key_rule_of_match _ matched))
  · unfold ruledKey
    rw [key_rule_of_no_match _ matched, ite_self]
    exact Or.inr (Or.inr ⟨⟨content, captured, rfl⟩, matched⟩)

theorem skipped_key_stored (skipped : policy.SkipsKeyRule event) :
    ∃ content ∈ (policy.redactEvent event).payload.keyContent,
      content.name ≠ "" ∧ content.name ≠ redacted ∧
        MatchesFragment policy.keyRedactionFragments content.name := by
  obtain ⟨inactive, stored, ⟨content, captured, same, matched⟩, title, shown, fresh, fits⟩ :=
    skipped
  have changes : policy.titleRuleChanges (policy.suppressedPayload event) = true := by
    rw [title_rule_changes_iff, suppressed_titles, inactive]
    exact ⟨title, shown, fits, fresh⟩
  refine ⟨content, ?_, ?_, same, matched⟩
  · rw [key_content_redact_event, suppressed_key_content, inactive, Option.mem_map]
    refine ⟨content, captured, ?_⟩
    unfold storedKey ruledKey
    rw [stored, changes]
    rfl
  · intro empty
    rw [empty] at matched
    exact not_matches_fragment_empty _ matched

end Keys

section Flag

theorem sensitive_of_title_change
    (changes : policy.titleRuleChanges (policy.suppressedPayload event) = true) :
    (policy.redactEvent event).isSensitive = true := by
  rw [redact_event_is_sensitive, redact_fragments_changed, changes]
  simp

theorem sensitive_of_suppression (active : policy.sensitiveContextActive = true)
    (changed : event.payload.redactForSensitiveContext.2 = true) :
    (policy.redactEvent event).isSensitive = true := by
  rw [redact_event_is_sensitive, active, changed]
  simp

theorem sensitive_of_capture_redaction
    (placeholder : (policy.suppressedPayload event).keyWasCaptureRedacted = true) :
    (policy.redactEvent event).isSensitive = true := by
  rw [redact_event_is_sensitive, placeholder]
  simp

theorem matched_key_row_flagged {content : KeyContent}
    (captured : event.payload.keyContent = some content)
    (matched : policy.KeyMatches event.payload ∨ policy.TitleMatches event.payload) :
    (policy.redactEvent event).isSensitive = true := by
  by_cases active : policy.sensitiveContextActive = true
  · apply policy.sensitive_of_capture_redaction event
    rw [key_was_capture_redacted_eq, suppressed_key_content, if_pos active, captured]
    rfl
  have untouched : policy.suppressedPayload event = event.payload := if_neg active
  rcases matched with ⟨typed, member, fits⟩ | ⟨title, shown, fits⟩
  · have keyed : event.payload.keyContent.any (fun content =>
        matchesAny policy.keyRedactionFragments content.name) = true := by
      rw [Option.mem_def.mp member]
      exact (matches_any_iff _ _).mpr fits
    rw [redact_event_is_sensitive, redact_fragments_changed, untouched, keyed]
    simp
  · by_cases same : title = redacted
    · apply policy.sensitive_of_capture_redaction event
      have placeholder : event.payload.titles.any (fun title => title == redacted) = true :=
        List.any_eq_true.mpr ⟨title, shown, by simpa using same⟩
      rw [untouched, key_was_capture_redacted_eq, captured, placeholder]
      simp
    · apply policy.sensitive_of_title_change event
      rw [untouched]
      exact (policy.title_rule_changes_iff _).mpr ⟨title, shown, fits, same⟩

theorem matched_row_flagged (intact : ¬policy.UnflaggedPlaceholder event)
    (matched : policy.KeyMatches event.payload ∨ policy.TitleMatches event.payload) :
    (policy.redactEvent event).isSensitive = true := by
  by_contra unflagged
  apply intact
  have keyless : event.payload.keyContent = none := by
    cases captured : event.payload.keyContent with
    | none => rfl
    | some content =>
        exact absurd (policy.matched_key_row_flagged event captured matched) unflagged
  refine ⟨?_, keyless, ?_, ?_⟩
  · by_contra flagged
    rw [redact_event_is_sensitive, eq_true_of_ne_false flagged] at unflagged
    simp at unflagged
  · rcases matched with ⟨content, member, _⟩ | titled
    · rw [keyless] at member
      exact absurd member (Option.not_mem_none content)
    · exact titled
  · intro title shown rewritten
    by_contra fresh
    by_cases active : policy.sensitiveContextActive = true
    · exact unflagged (policy.sensitive_of_suppression event active
        (suppression_reports_title shown fresh))
    · apply unflagged
      apply policy.sensitive_of_title_change event
      have untouched : policy.suppressedPayload event = event.payload := if_neg active
      rw [untouched]
      exact (policy.title_rule_changes_iff _).mpr
        ⟨title, shown, rewritten.resolve_left active, fresh⟩

theorem placeholder_not_flagged (placeholder : policy.UnflaggedPlaceholder event) :
    (policy.redactEvent event).isSensitive = false := by
  obtain ⟨unflagged, keyless, ⟨title, shown, _⟩, covered⟩ := placeholder
  have quiet : (policy.sensitiveContextActive && event.payload.redactForSensitiveContext.2) =
      false := by
    cases active : policy.sensitiveContextActive with
    | false => rfl
    | true =>
        have silent : event.payload.titles.any (fun title => title != redacted) = false := by
          rw [List.any_eq_false]
          intro title shown
          simpa using covered title shown (Or.inl active)
        rw [redact_for_sensitive_context_changed, silent, keyless, counts_of_titled shown]
        rfl
  have stable : policy.titleRuleChanges (policy.suppressedPayload event) ≠ true := by
    intro changes
    obtain ⟨title, shown, fits, fresh⟩ := (policy.title_rule_changes_iff _).mp changes
    rw [suppressed_titles] at shown
    split_ifs at shown with active
    · obtain ⟨_, _, rfl⟩ := List.mem_map.mp shown
      exact fresh rfl
    · exact fresh (covered title shown (Or.inr fits))
  have no_key : (policy.suppressedPayload event).keyContent = none := by
    rw [suppressed_key_content, keyless]
    split_ifs <;> rfl
  rw [redact_event_is_sensitive, unflagged, quiet, key_was_capture_redacted_eq,
    redact_fragments_changed, eq_false_of_ne_true stable, no_key]
  rfl

end Flag

section Both

/-- A row matched by both rules and not skipped loses its key and every title
that matches. -/
theorem both_rules_redact (intact : ¬policy.SkipsKeyRule event)
    (key : policy.KeyMatches event.payload) :
    (∀ content ∈ (policy.redactEvent event).payload.keyContent,
      content.name = "" ∨ content.name = redacted) ∧
    List.Forall₂ (fun shown stored =>
      MatchesFragment policy.titleRedactionFragments shown → stored = redacted)
      event.payload.titles (policy.redactEvent event).payload.titles := by
  constructor
  · intro stored member
    obtain ⟨typed, entered, fits⟩ := key
    rcases policy.stored_key_cases event intact member with
      empty | same | ⟨⟨content, captured, kept⟩, unmatched⟩
    · exact Or.inl empty
    · exact Or.inr same
    · have alike : typed = content := Option.mem_unique entered captured
      rw [← kept, ← alike] at unmatched
      exact absurd fits unmatched
  · rw [titles_redact_event, suppressed_titles]
    rw [List.forall₂_map_right_iff]
    split_ifs with active
    · rw [List.forall₂_map_right_iff, List.forall₂_same]
      intro title _ _
      exact ite_self _
    · rw [List.forall₂_same]
      intro title _ matched
      exact title_rule_of_match _ matched

end Both

/-- The redaction promise holds of a stored row exactly when the row neither
skips the key rule nor is an unflagged placeholder. -/
theorem apply_after_exclusions_complete_iff :
    policy.RedactionComplete event (policy.applyAfterExclusions event).2 ↔
      ¬policy.SkipsKeyRule event ∧ ¬policy.UnflaggedPlaceholder event := by
  rw [apply_after_exclusions_event]
  split_ifs with passes
  · have boundary := (Bool.and_eq_true_iff.mp passes).2
    have keyless := key_content_of_boundary boundary
    have untitled := titles_of_boundary boundary
    constructor
    · intro _
      constructor
      · rintro ⟨_, _, ⟨content, captured, _⟩, _⟩
        simp [keyless] at captured
      · rintro ⟨_, _, ⟨title, shown, _⟩, _⟩
        simp [untitled] at shown
    · intro _
      constructor <;> simp [KeyMatches, TitleMatches, keyless, untitled]
  · constructor
    · intro complete
      constructor
      · intro skipped
        obtain ⟨content, stored, nonempty, typed, matched⟩ :=
          policy.skipped_key_stored event skipped
        rcases complete.keyClean content stored with empty | same | unmatched
        · exact nonempty empty
        · exact typed same
        · exact unmatched matched
      · intro placeholder
        have flagged := complete.flagged (Or.inr placeholder.2.2.1)
        rw [policy.placeholder_not_flagged event placeholder] at flagged
        exact Bool.false_ne_true flagged
    · rintro ⟨intact, covered⟩
      constructor
      · intro content stored
        rcases policy.stored_key_cases event intact stored with empty | same | ⟨_, unmatched⟩
        · exact Or.inl empty
        · exact Or.inr (Or.inl same)
        · exact Or.inr (Or.inr unmatched)
      · intro stored member
        rw [titles_redact_event, List.mem_map] at member
        obtain ⟨title, _, rfl⟩ := member
        exact title_rule_clean _ title
      · exact policy.matched_row_flagged event covered
      · intro key _
        exact policy.both_rules_redact event intact key

end Policy

end Rules

section Leak

attribute [local instance] asciiExternals

/-- A bank window's title rule and a rule for the key `A`. -/
def bankPolicy : Policy :=
  (Policy.identity.withTitleRedactions ["Bank"]).withKeyRedactions ["A"]

def bankKeyRow : EventEnvelope where
  schemaVersion := schemaVersion
  sessionId := 1
  seq := 1
  tsUnixMs := I64.ofInt 1000
  source := .keyboard
  isSensitive := false
  payload := .key "A" Modifiers.default (some ⟨1, "bank.exe", "Bank - login", 7⟩) none

/-- The row matches both rules and its key is stored as typed. -/
theorem bank_key_row_keeps_its_key :
    ¬bankPolicy.RedactionComplete bankKeyRow (bankPolicy.applyAfterExclusions bankKeyRow).2 := by
  intro complete
  rcases complete.keyClean ⟨"A", Modifiers.default, none⟩ (by decide) with empty | same | unmatched
  · exact absurd empty (by decide)
  · exact absurd same (by decide)
  · exact unmatched ⟨"A", by decide, by decide, by decide⟩

end Leak

end Gilbreth.Core
