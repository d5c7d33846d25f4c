import Gilbreth.Core.Event

/-!
# What a redaction leaves of a payload

A redaction touches only the titles and labels, the key content and the
clipboard counts of a payload. These three projections are read off the
variants once; every redaction is then described by one equation for each
projection and one for its report, and no later proof splits on the variant.
-/

set_option autoImplicit false

namespace Gilbreth.Core

namespace EventPayload

/-- The titles of `window` and `prev`. -/
def windowTitles : EventPayload → List String
  | focusChanged window prev .. => window.title :: (prev.map WindowRef.title).toList
  | windowOpened window _ => [window.title]
  | windowClosed window .. => [window.title]
  | key _ _ window _ => (window.map WindowRef.title).toList
  | mouseClick _ _ _ window _ => (window.map WindowRef.title).toList
  | mouseDoubleClick _ _ _ _ window _ => (window.map WindowRef.title).toList
  | mouseDrag _ _ _ _ _ _ _ _ _ _ window .. => (window.map WindowRef.title).toList
  | mouseWheel _ _ _ _ window _ => (window.map WindowRef.title).toList
  | mouseMove _ _ _ _ _ _ _ window _ => (window.map WindowRef.title).toList
  | _ => []

def label : EventPayload → Option String
  | notificationsReceived app _ => app
  | _ => none

def titles (payload : EventPayload) : List String := payload.windowTitles ++ payload.label.toList

structure KeyContent where
  name : String
  mods : Modifiers
  keyClass : Option KeyClass
deriving DecidableEq

def keyContent : EventPayload → Option KeyContent
  | key name mods _ keyClass => some ⟨name, mods, keyClass⟩
  | _ => none

/-- The clipboard character and byte counts. -/
def counts : EventPayload → Option (Option UInt64 × Option UInt64)
  | clipboardUsed _ _ _ textCharCount byteSize => some (textCharCount, byteSize)
  | _ => none

/-- A row that enters or exits a sensitive context. -/
def isBoundary : EventPayload → Bool
  | sensitiveContextEntered _ => true
  | sensitiveContextExited _ => true
  | _ => false

theorem titles_of_boundary {payload : EventPayload} (boundary : payload.isBoundary = true) :
    payload.titles = [] := by
  cases payload <;> first | rfl | exact absurd boundary Bool.false_ne_true

theorem key_content_of_boundary {payload : EventPayload} (boundary : payload.isBoundary = true) :
    payload.keyContent = none := by
  cases payload <;> first | rfl | exact absurd boundary Bool.false_ne_true

section Windows

variable (redact : WindowRef → WindowRef × Bool)

theorem titles_redact_optional_window (rule : String → String)
    (title : ∀ window, (redact window).1.title = rule window.title) (window : Option WindowRef) :
    ((redactOptionalWindow redact window).1.map WindowRef.title).toList =
      (window.map WindowRef.title).toList.map rule := by
  cases window with
  | none => rfl
  | some window => simp [redactOptionalWindow, title]

theorem redact_optional_window_changed (fires : String → Bool)
    (changed : ∀ window, (redact window).2 = fires window.title) (window : Option WindowRef) :
    (redactOptionalWindow redact window).2 =
      (window.map WindowRef.title).toList.any fires := by
  cases window with
  | none => rfl
  | some window => simp [redactOptionalWindow, changed]

theorem window_titles_redact_windows (rule : String → String)
    (title : ∀ window, (redact window).1.title = rule window.title) (payload : EventPayload) :
    (payload.redactWindows redact).1.windowTitles = payload.windowTitles.map rule := by
  cases payload <;>
    simp [redactWindows, windowTitles, title, titles_redact_optional_window redact rule title]

theorem redact_windows_changed (fires : String → Bool)
    (changed : ∀ window, (redact window).2 = fires window.title) (payload : EventPayload) :
    (payload.redactWindows redact).2 = payload.windowTitles.any fires := by
  cases payload <;>
    simp [redactWindows, windowTitles, changed,
      redact_optional_window_changed redact fires changed]

end Windows

section TitleRule

variable (fragments : List String)

def titleRule (title : String) : String := if matchesAny fragments title then redacted else title

/-- The title rule rewrites a title that matches and is not yet the placeholder. -/
def titleRuleFires (title : String) : Bool := matchesAny fragments title && title != redacted

theorem title_rule_of_match {title : String} (matched : MatchesFragment fragments title) :
    titleRule fragments title = redacted :=
  if_pos ((matches_any_iff fragments title).mpr matched)

theorem title_rule_clean (title : String) :
    titleRule fragments title = redacted ∨
      ¬MatchesFragment fragments (titleRule fragments title) := by
  by_cases matched : MatchesFragment fragments title
  · exact Or.inl (title_rule_of_match fragments matched)
  · have kept : titleRule fragments title = title :=
      if_neg fun fires => matched ((matches_any_iff fragments title).mp fires)
    exact Or.inr (by rwa [kept])

theorem title_rule_fires_iff (title : String) :
    titleRuleFires fragments title = true ↔
      MatchesFragment fragments title ∧ title ≠ redacted := by
  simp [titleRuleFires, matches_any_iff]

theorem redact_title_if_needed_title (window : WindowRef) :
    (window.redactTitleIfNeeded fragments).1.title = titleRule fragments window.title := by
  unfold WindowRef.redactTitleIfNeeded WindowRef.redactTitle titleRule
  split_ifs with _ same
  · exact same
  · rfl
  · rfl

theorem redact_title_if_needed_changed (window : WindowRef) :
    (window.redactTitleIfNeeded fragments).2 = titleRuleFires fragments window.title := by
  unfold WindowRef.redactTitleIfNeeded WindowRef.redactTitle titleRuleFires
  split_ifs <;> simp_all

theorem redact_optional_label_if_needed_eq (label : Option String) :
    redactOptionalLabelIfNeeded label fragments =
      (label.map (titleRule fragments), label.any (titleRuleFires fragments)) := by
  cases label with
  | none => rfl
  | some value =>
      simp only [redactOptionalLabelIfNeeded, redactOptionalLabel, titleRule, titleRuleFires,
        Option.any_some, Option.map_some]
      split_ifs <;> simp_all

@[simp] theorem titles_redact_titles_containing (payload : EventPayload) :
    (payload.redactTitlesContaining fragments).1.titles =
      payload.titles.map (titleRule fragments) := by
  have windows := window_titles_redact_windows
    (fun window => window.redactTitleIfNeeded fragments) (titleRule fragments)
    (redact_title_if_needed_title fragments) payload
  cases payload with
  | notificationsReceived app count =>
      simp [redactTitlesContaining, titles, windowTitles, label,
        redact_optional_label_if_needed_eq]
      cases app <;> rfl
  | _ => simpa [redactTitlesContaining, titles, label, redactWindows] using windows

@[simp] theorem redact_titles_containing_changed (payload : EventPayload) :
    (payload.redactTitlesContaining fragments).2 =
      payload.titles.any (titleRuleFires fragments) := by
  have windows := redact_windows_changed
    (fun window => window.redactTitleIfNeeded fragments) (titleRuleFires fragments)
    (redact_title_if_needed_changed fragments) payload
  cases payload with
  | notificationsReceived app count =>
      cases app <;>
        simp [redactTitlesContaining, titles, windowTitles, label,
          redact_optional_label_if_needed_eq]
  | _ => simpa [redactTitlesContaining, titles, label] using windows

@[simp] theorem key_content_redact_titles_containing (payload : EventPayload) :
    (payload.redactTitlesContaining fragments).1.keyContent = payload.keyContent := by
  cases payload <;> rfl

@[simp] theorem counts_redact_titles_containing (payload : EventPayload) :
    (payload.redactTitlesContaining fragments).1.counts = payload.counts := by
  cases payload <;> rfl

@[simp] theorem is_boundary_redact_titles_containing (payload : EventPayload) :
    (payload.redactTitlesContaining fragments).1.isBoundary = payload.isBoundary := by
  cases payload <;> rfl

end TitleRule

section KeyRules

variable (fragments : List String)

def keyRule (content : KeyContent) : KeyContent :=
  if matchesAny fragments content.name then { content with name := redacted } else content

theorem key_rule_of_match {content : KeyContent}
    (matched : MatchesFragment fragments content.name) :
    (keyRule fragments content).name = redacted := by
  unfold keyRule
  rw [if_pos ((matches_any_iff fragments content.name).mpr matched)]

theorem key_rule_of_no_match {content : KeyContent}
    (unmatched : ¬MatchesFragment fragments content.name) : keyRule fragments content = content :=
  if_neg fun fires => unmatched ((matches_any_iff fragments content.name).mp fires)

@[simp] theorem titles_redact_keys_containing (payload : EventPayload) :
    (payload.redactKeysContaining fragments).1.titles = payload.titles := by
  cases payload with
  | key name mods window keyClass =>
      simp only [redactKeysContaining]
      split_ifs <;> rfl
  | _ => rfl

@[simp] theorem key_content_redact_keys_containing (payload : EventPayload) :
    (payload.redactKeysContaining fragments).1.keyContent =
      payload.keyContent.map (keyRule fragments) := by
  cases payload with
  | key name mods window keyClass =>
      simp only [redactKeysContaining, keyContent, Option.map_some, keyRule]
      split_ifs <;> rfl
  | _ => rfl

@[simp] theorem redact_keys_containing_changed (payload : EventPayload) :
    (payload.redactKeysContaining fragments).2 =
      payload.keyContent.any fun content => matchesAny fragments content.name := by
  cases payload with
  | key name mods window keyClass =>
      simp only [redactKeysContaining, keyContent, Option.any_some]
      split_ifs with fires
      · exact fires.symm
      · exact (eq_false_of_ne_true fires).symm
  | _ => rfl

@[simp] theorem counts_redact_keys_containing (payload : EventPayload) :
    (payload.redactKeysContaining fragments).1.counts = payload.counts := by
  cases payload with
  | key name mods window keyClass =>
      simp only [redactKeysContaining]
      split_ifs <;> rfl
  | _ => rfl

@[simp] theorem is_boundary_redact_keys_containing (payload : EventPayload) :
    (payload.redactKeysContaining fragments).1.isBoundary = payload.isBoundary := by
  cases payload with
  | key name mods window keyClass =>
      simp only [redactKeysContaining]
      split_ifs <;> rfl
  | _ => rfl

/-- What lean capture stores in place of the key content of a row. -/
def leanRule (content : KeyContent) : KeyContent :=
  if content.name = "" then content
  else if content.name = redacted then { content with name := "" }
  else { content with name := "", keyClass := some (keyClassForName content.name) }

@[simp] theorem lean_rule_name (content : KeyContent) : (leanRule content).name = "" := by
  unfold leanRule
  split_ifs with empty
  · exact empty
  · rfl
  · rfl

@[simp] theorem titles_omit_key_content (payload : EventPayload) :
    payload.omitKeyContent.1.titles = payload.titles := by
  cases payload with
  | key name mods window keyClass =>
      simp only [omitKeyContent]
      split_ifs <;> rfl
  | _ => rfl

@[simp] theorem key_content_omit_key_content (payload : EventPayload) :
    payload.omitKeyContent.1.keyContent = payload.keyContent.map leanRule := by
  cases payload with
  | key name mods window keyClass =>
      simp only [omitKeyContent, keyContent, Option.map_some, leanRule]
      split_ifs <;> rfl
  | _ => rfl

@[simp] theorem counts_omit_key_content (payload : EventPayload) :
    payload.omitKeyContent.1.counts = payload.counts := by
  cases payload with
  | key name mods window keyClass =>
      simp only [omitKeyContent]
      split_ifs <;> rfl
  | _ => rfl

@[simp] theorem is_boundary_omit_key_content (payload : EventPayload) :
    payload.omitKeyContent.1.isBoundary = payload.isBoundary := by
  cases payload with
  | key name mods window keyClass =>
      simp only [omitKeyContent]
      split_ifs <;> rfl
  | _ => rfl

end KeyRules

section SensitiveContext

def suppressedKey (content : KeyContent) : KeyContent :=
  ⟨redacted, Modifiers.default, content.keyClass⟩

theorem redact_title_title (window : WindowRef) : window.redactTitle.1.title = redacted := by
  unfold WindowRef.redactTitle
  split_ifs with same
  · exact same
  · rfl

theorem redact_title_changed (window : WindowRef) :
    window.redactTitle.2 = (window.title != redacted) := by
  unfold WindowRef.redactTitle
  split_ifs with same <;> simp [same]

@[simp] theorem titles_redact_for_sensitive_context (payload : EventPayload) :
    payload.redactForSensitiveContext.1.titles = payload.titles.map fun _ => redacted := by
  have windows := window_titles_redact_windows WindowRef.redactTitle (fun _ => redacted)
    redact_title_title payload
  cases payload with
  | notificationsReceived app count =>
      cases app with
      | none => rfl
      | some value =>
          simp only [redactForSensitiveContext, redactOptionalLabel, titles, windowTitles, label]
          split_ifs with same
          · simp [same]
          · rfl
  | key name mods window keyClass =>
      simpa [redactForSensitiveContext, titles, label, redactWindows, windowTitles] using windows
  | clipboardUsed => rfl
  | _ => simpa [redactForSensitiveContext, titles, label, redactWindows] using windows

@[simp] theorem key_content_redact_for_sensitive_context (payload : EventPayload) :
    payload.redactForSensitiveContext.1.keyContent = payload.keyContent.map suppressedKey := by
  cases payload <;> rfl

@[simp] theorem counts_redact_for_sensitive_context (payload : EventPayload) :
    payload.redactForSensitiveContext.1.counts = payload.counts.map fun _ => (none, none) := by
  cases payload <;> rfl

@[simp] theorem is_boundary_redact_for_sensitive_context (payload : EventPayload) :
    payload.redactForSensitiveContext.1.isBoundary = payload.isBoundary := by
  cases payload <;> rfl

@[simp] theorem redact_for_sensitive_context_changed (payload : EventPayload) :
    payload.redactForSensitiveContext.2 =
      (payload.titles.any (fun title => title != redacted) ||
        payload.keyContent.any (fun content =>
          content.name != redacted || content.mods != Modifiers.default) ||
        payload.counts.any fun counts => counts.1.isSome || counts.2.isSome) := by
  have windows := redact_windows_changed WindowRef.redactTitle (fun title => title != redacted)
    redact_title_changed payload
  cases payload with
  | key name mods window keyClass =>
      have titles_changed := redact_optional_window_changed WindowRef.redactTitle
        (fun title => title != redacted) redact_title_changed window
      simp only [redactForSensitiveContext, titles, windowTitles, label, keyContent, counts,
        titles_changed, Option.toList_none, List.append_nil, Option.any_some, Option.any_none,
        Bool.or_false]
      rw [Bool.or_comm, decide_not, decide_not]
      rfl
  | notificationsReceived app count =>
      cases app with
      | none => rfl
      | some value =>
          simp only [redactForSensitiveContext, redactOptionalLabel]
          split_ifs with same <;> simp [titles, windowTitles, label, keyContent, counts, same]
  | clipboardUsed =>
      simp [redactForSensitiveContext, titles, windowTitles, label, keyContent, counts]
  | _ => simpa [redactForSensitiveContext, titles, label, keyContent, counts] using windows

theorem counts_of_titled {payload : EventPayload} {title : String}
    (shown : title ∈ payload.titles) : payload.counts = none := by
  cases payload with
  | clipboardUsed => exact absurd shown List.not_mem_nil
  | _ => rfl

theorem suppression_reports_title {payload : EventPayload} {title : String}
    (shown : title ∈ payload.titles) (fresh : title ≠ redacted) :
    payload.redactForSensitiveContext.2 = true := by
  have titled : payload.titles.any (fun title => title != redacted) = true :=
    List.any_eq_true.mpr ⟨title, shown, by simpa using fresh⟩
  rw [redact_for_sensitive_context_changed, titled]
  rfl

end SensitiveContext

/-- A key row is flagged when its key, or the title of its window, already is
the placeholder. -/
theorem key_was_capture_redacted_eq (payload : EventPayload) :
    payload.keyWasCaptureRedacted = payload.keyContent.any fun content =>
      content.name == redacted || payload.titles.any (fun title => title == redacted) := by
  cases payload with
  | key name mods window keyClass =>
      cases window <;> simp [keyWasCaptureRedacted, keyContent, titles, windowTitles, label]
  | _ => rfl

end EventPayload

end Gilbreth.Core
