import Gilbreth.App.Config
import Gilbreth.Library.Machine

/-!
# What the configuration writers keep of each other

Every operation leaves the settings it does not own. Whether the first-run consent
survives depends on who writes the file first: only `load_or_create` on an absent file
starts without it.
-/

set_option autoImplicit false

namespace Gilbreth.App

open Gilbreth.Core

section Operations

inductive ConfigOp where
  | loadOrCreate
  | saveStoreKeyContent (enabled : Bool)
  | saveCaptureToggle (stream : CaptureStream) (enabled : Bool)
  | dismissFirstRunWelcome
  | writePrivacySettings (settings : PrivacySettings)
  | saveSphereOverlayEnabled (enabled : Bool)

/-- The settings an operation is there to change: `load_or_create` those it finds missing. -/
def ConfigOp.Owns (op : ConfigOp) (document : TomlDocument) (table key : String) : Prop :=
  match op with
  | .loadOrCreate => document.get table key = none
  | .saveStoreKeyContent _ =>
      table = "privacy" ∧ (key = "store_key_content" ∨ key = "posture_confirmed")
  | .saveCaptureToggle stream _ => table = "capture" ∧ key = captureKey stream
  | .dismissFirstRunWelcome => table = "onboarding" ∧ key = "first_run_welcome_dismissed"
  | .writePrivacySettings _ =>
      table = "privacy" ∧ key ∈ ["sensitive_context_suppression", "redact_titles_containing",
        "redact_keys_containing", "excluded_apps", "title_retention_days",
        "mouse_move_retention_days"]
  | .saveSphereOverlayEnabled _ => table = "analytics" ∧ key = "sphere_labels_from_titles"

def ConfigOp.isLoad : ConfigOp → Bool
  | .loadOrCreate => true
  | _ => false

def ConfigOp.isSaveStoreKeyContent : ConfigOp → Bool
  | .saveStoreKeyContent _ => true
  | _ => false

variable [Externals] (windows : Bool)

def ConfigOp.run (op : ConfigOp) (faults : ConfigFaults) (file : ConfigFile) :
    ConfigFile × Except String Unit :=
  match op with
  | .loadOrCreate =>
      let ran := App.loadOrCreate windows faults file
      (ran.1, ran.2.map fun _ => ())
  | .saveStoreKeyContent enabled => App.saveStoreKeyContent windows faults file enabled
  | .saveCaptureToggle stream enabled => App.saveCaptureToggle windows faults file stream enabled
  | .dismissFirstRunWelcome => App.dismissFirstRunWelcome windows faults file
  | .writePrivacySettings settings => App.writePrivacySettings faults file settings
  | .saveSphereOverlayEnabled enabled => App.saveSphereOverlayEnabled faults file enabled

def ConfigFile.get (file : ConfigFile) (table key : String) : Option TomlValue :=
  match file with
  | .document contents => contents.get table key
  | _ => none

/-- The file, and whether a consent has been saved and a load has gone through. -/
structure ConfigState where
  file : ConfigFile
  saved : Bool
  loaded : Bool

structure ConfigTurn where
  op : ConfigOp
  faults : ConfigFaults

def configMachine : Machine ConfigState ConfigTurn (Except String Unit) where
  step state turn :=
    let ran := turn.op.run windows turn.faults state.file
    let succeeded := ran.2.toBool
    ({ file := ran.1
       saved := state.saved || turn.op.isSaveStoreKeyContent && succeeded
       loaded := state.loaded || turn.op.isLoad && succeeded }, ran.2)

def noConfig : ConfigState := ⟨.absent, false, false⟩

end Operations

section Outcomes

/-- A document with settings changed one after the other. -/
def setAll (document : TomlDocument) (edits : List (String × String × TomlValue)) :
    TomlDocument :=
  edits.foldl (fun document edit => document.set edit.1 edit.2.1 edit.2.2) document

theorem get_set_all_other {edits : List (String × String × TomlValue)} {table key : String}
    (apart : ∀ edit ∈ edits, ¬(table = edit.1 ∧ key = edit.2.1)) (document : TomlDocument) :
    (setAll document edits).get table key = document.get table key := by
  induction edits generalizing document with
  | nil => rfl
  | cons edit rest induction =>
      rw [setAll, List.foldl_cons, ← setAll,
        induction (fun later member => apart later (List.mem_cons_of_mem _ member)),
        TomlDocument.get_set, if_neg (apart edit List.mem_cons_self)]

theorem get_set_all_some {document : TomlDocument} {table key : String}
    (present : (document.get table key).isSome = true)
    (edits : List (String × String × TomlValue)) :
    ((setAll document edits).get table key).isSome = true := by
  induction edits generalizing document with
  | nil => exact present
  | cons edit rest induction =>
      apply induction
      rw [TomlDocument.get_set]
      split_ifs
      · rfl
      · exact present

theorem get_set_all_kept {document : TomlDocument} {table key : String} {value : TomlValue}
    (held : document.get table key = some value) {edits : List (String × String × TomlValue)}
    (alike : ∀ edit ∈ edits, edit.1 = table ∧ edit.2.1 = key → edit.2.2 = value) :
    (setAll document edits).get table key = some value := by
  induction edits generalizing document with
  | nil => exact held
  | cons edit rest induction =>
      apply induction _ fun later member => alike later (List.mem_cons_of_mem _ member)
      rw [TomlDocument.get_set]
      split_ifs with same
      · rw [alike edit List.mem_cons_self ⟨same.1.symm, same.2.symm⟩]
      · exact held

/-- A value the schema accepts at its place. -/
def Fits (edit : String × String × TomlValue) : Prop :=
  ∀ field ∈ configFields, field.table = edit.1 → field.key = edit.2.1 →
    field.kind.accepts edit.2.2 = true

theorem deserializes_set {document : TomlDocument} (good : deserializes document = true)
    {edit : String × String × TomlValue} (fits : Fits edit) :
    deserializes (document.set edit.1 edit.2.1 edit.2.2) = true := by
  unfold deserializes at good ⊢
  rw [List.all_eq_true] at good ⊢
  intro field member
  have held := good field member
  rw [Bool.and_eq_true] at held ⊢
  refine ⟨?_, ?_⟩
  · rw [TomlDocument.holds_table_set, held.1, Bool.or_true]
  · rw [TomlDocument.get_set]
    split_ifs with same
    · exact fits field member same.1 same.2
    · exact held.2

theorem deserializes_set_all {document : TomlDocument} (good : deserializes document = true)
    {edits : List (String × String × TomlValue)} (fits : ∀ edit ∈ edits, Fits edit) :
    deserializes (setAll document edits) = true := by
  induction edits generalizing document with
  | nil => exact good
  | cons edit rest induction =>
      exact induction (deserializes_set good (fits edit List.mem_cons_self))
        fun later member => fits later (List.mem_cons_of_mem _ member)

end Outcomes

section Seeding

variable {config : AppConfig} {settings : List (String × String)}

theorem get_insert_missing_values (document : TomlDocument) (table key : String) :
    (insertMissingValues config settings document).1.get table key =
      (document.get table key).or (if (table, key) ∈ settings then config table key else none) := by
  induction settings generalizing document with
  | nil => simp [insertMissingValues]
  | cons setting rest induction =>
      rcases setting with ⟨firstTable, firstKey⟩
      rw [insertMissingValues]
      by_cases same : table = firstTable ∧ key = firstKey
      · rcases same with ⟨rfl, rfl⟩
        rw [if_pos List.mem_cons_self]
        cases value : config table key with
        | none =>
            rw [induction, value]
            simp
        | some value' =>
            rw [induction, TomlDocument.get_insert_missing, if_pos ⟨rfl, rfl⟩, Option.or_assoc,
              Option.some_or]
      · have elsewhere : (table, key) ∈ (firstTable, firstKey) :: rest ↔ (table, key) ∈ rest := by
          rw [List.mem_cons, or_iff_right]
          intro equal
          exact same (Prod.mk.inj equal)
        rw [if_congr elsewhere rfl rfl]
        cases config firstTable firstKey with
        | none => exact induction document
        | some value =>
            rw [induction, TomlDocument.get_insert_missing, if_neg same]

theorem insert_missing_values_unchanged {document : TomlDocument} :
    (insertMissingValues config settings document).2 = false ↔
      ∀ setting ∈ settings, (config setting.1 setting.2).isSome = true →
        (document.get setting.1 setting.2).isSome = true := by
  induction settings generalizing document with
  | nil => simp [insertMissingValues]
  | cons setting rest induction =>
      rcases setting with ⟨table, key⟩
      rw [insertMissingValues, List.forall_mem_cons]
      cases value : config table key with
      | none => simp [induction]
      | some value =>
          cases present : document.get table key with
          | none => simp [TomlDocument.insertMissing, present]
          | some old => simp [TomlDocument.insertMissing, present, induction]

theorem deserializes_insert_missing_values {document : TomlDocument}
    (good : deserializes document = true)
    (fits : ∀ setting ∈ settings, ∀ value, config setting.1 setting.2 = some value →
      Fits (setting.1, setting.2, value)) :
    deserializes (insertMissingValues config settings document).1 = true := by
  induction settings generalizing document with
  | nil => exact good
  | cons setting rest induction =>
      rcases setting with ⟨table, key⟩
      have later := fun setting member => fits setting (List.mem_cons_of_mem _ member)
      rw [insertMissingValues]
      cases value : config table key with
      | none => exact induction good later
      | some found =>
          apply induction _ later
          rw [TomlDocument.insertMissing]
          split_ifs
          · exact good
          · exact deserializes_set good (fits (table, key) List.mem_cons_self found value)

theorem default_accepted : ∀ field ∈ configFields,
    (AppConfig.default field.table field.key).all field.kind.accepts = true := by
  decide +kernel

theorem accepts_strings (kind : FieldKind) (left right : List String) :
    kind.accepts (.strings left) = kind.accepts (.strings right) := by
  cases kind <;> rfl

variable [Externals]

/-- What a read configuration has at a place of the schema, the schema accepts there. -/
theorem read_config_fits {document : TomlDocument} {read : AppConfig}
    (parsed : readConfig document = some read) {table key : String} {value : TomlValue}
    (held : read.normalized table key = some value) : Fits (table, key, value) := by
  rw [readConfig] at parsed
  split_ifs at parsed with good
  cases parsed
  rintro field member rfl rfl
  have typed := (Bool.and_eq_true _ _).mp (List.all_eq_true.mp good field member)
  have plain : ∀ value, (document.get field.table field.key).or
      (AppConfig.default field.table field.key) = some value → field.kind.accepts value = true := by
    intro value found
    cases present : document.get field.table field.key with
    | some old =>
        rw [present, Option.some_or] at found
        cases found
        simpa [present] using typed.2
    | none =>
        rw [present, Option.none_or] at found
        simpa [found] using default_accepted field member
  rw [AppConfig.normalized] at held
  split_ifs at held
  · rcases Option.map_eq_some_iff.mp held with ⟨old, found, same⟩
    have accepted := plain old found
    cases old with
    | strings apps =>
        cases same
        rwa [accepts_strings field.kind _ apps]
    | bool value => exact same ▸ accepted
    | integer value => exact same ▸ accepted
    | string value => exact same ▸ accepted
    | other value => exact same ▸ accepted
  · exact plain value held

end Seeding

section Cases

variable [Externals] (windows : Bool)

/-- What an operation other than a load sets, in order. -/
def ConfigOp.edits : ConfigOp → List (String × String × TomlValue)
  | .loadOrCreate => []
  | .saveStoreKeyContent enabled =>
      [("privacy", "store_key_content", .bool enabled),
       ("privacy", "posture_confirmed", .bool true)]
  | .saveCaptureToggle stream enabled => [("capture", captureKey stream, .bool enabled)]
  | .dismissFirstRunWelcome => [("onboarding", "first_run_welcome_dismissed", .bool true)]
  | .writePrivacySettings settings =>
      (privacyEntries settings).map fun entry => ("privacy", entry.1, entry.2)
  | .saveSphereOverlayEnabled enabled =>
      [("analytics", "sphere_labels_from_titles", .bool enabled)]

/-- What an operation other than a load takes for the document of an absent file. -/
def ConfigOp.ifAbsent : ConfigOp → Option TomlDocument
  | .loadOrCreate => none
  | .writePrivacySettings _ | .saveSphereOverlayEnabled _ => some .empty
  | _ => some (serializeConfig windows AppConfig.default)

def ConfigOp.StartsFrom (op : ConfigOp) (file : ConfigFile) (base : TomlDocument) : Prop :=
  file = .document base ∨ file = .absent ∧ op.ifAbsent windows = some base

/-- What an operation can do to a file that is not malformed. -/
inductive ConfigOutcome (op : ConfigOp) (file : ConfigFile) :
    ConfigFile × Except String Unit → Prop where
  | unchanged (result : Except String Unit)
      (unsaved : result = .ok () → op.isSaveStoreKeyContent = false)
      (complete : result = .ok () → op.isLoad = true → ∀ setting ∈ seeded windows,
        (file.get setting.1 setting.2).isSome = true) :
      ConfigOutcome op file (file, result)
  | edited (base : TomlDocument) (edits : op.isLoad = false)
      (starts : op.StartsFrom windows file base) :
      ConfigOutcome op file (.document (setAll base op.edits), .ok ())
  | created (load : op.isLoad = true) (absent : file = .absent) :
      ConfigOutcome op file (.document (serializeConfig windows freshInstallConfig), .ok ())
  | upgraded (document : TomlDocument) (read : AppConfig) (load : op.isLoad = true)
      (found : file = .document document) (parsed : readConfig document = some read) :
      ConfigOutcome op file (.document (insertVisibleDefaults windows read.normalized document).1,
        .ok ())

theorem outcome_of_error (op : ConfigOp) (file : ConfigFile) (error : String) :
    ConfigOutcome windows op file (file, .error error) :=
  .unchanged _ (fun ok => by cases ok) (fun ok => by cases ok)

theorem outcome_of_locked {op : ConfigOp} {file : ConfigFile} {faults : ConfigFaults}
    {operation : ConfigFile × Except String Unit}
    (outcome : ConfigOutcome windows op file operation) :
    ConfigOutcome windows op file (withConfigWriteLock faults file operation) := by
  unfold withConfigWriteLock
  cases faults.lock.or faults.read with
  | none => exact outcome
  | some error => exact outcome_of_error windows op file error

theorem outcome_of_written {op : ConfigOp} {file : ConfigFile} {faults : ConfigFaults}
    {contents : TomlDocument}
    (outcome : ConfigOutcome windows op file (.document contents, .ok ())) :
    ConfigOutcome windows op file (writeAtomic faults file contents ()) := by
  unfold writeAtomic
  cases faults.write with
  | none => exact outcome
  | some error => exact outcome_of_error windows op file error

omit [Externals] in
theorem starts_from_loaded {op : ConfigOp} {file : ConfigFile} {found : TomlDocument × Bool}
    (tray : op.ifAbsent windows = some (serializeConfig windows AppConfig.default))
    (loaded : loadDocumentOrDefault windows file = .ok found) :
    op.StartsFrom windows file found.1 := by
  cases file with
  | absent =>
      cases loaded
      exact Or.inr ⟨rfl, tray⟩
  | malformed => cases loaded
  | document contents =>
      rw [loadDocumentOrDefault] at loaded
      split_ifs at loaded
      cases loaded
      exact Or.inl rfl

omit [Externals] in
theorem starts_from_dashboard {op : ConfigOp} {file : ConfigFile} {document : TomlDocument}
    (dashboard : op.ifAbsent windows = some .empty)
    (loaded : loadDashboardDocumentOrEmpty file = .ok document) :
    op.StartsFrom windows file document := by
  cases file with
  | absent =>
      cases loaded
      exact Or.inr ⟨rfl, dashboard⟩
  | malformed => cases loaded
  | document contents =>
      cases loaded
      exact Or.inl rfl

omit [Externals] in
theorem seeded_has_default {setting : String × String} (member : setting ∈ seeded windows) :
    (AppConfig.default setting.1 setting.2).isSome = true := by
  have every : ∀ setting ∈ visibleDefaults,
      (AppConfig.default setting.1 setting.2.1).isSome = true := by
    decide +kernel
  rcases List.mem_map.mp member with ⟨visible, listed, rfl⟩
  exact every visible (List.mem_of_mem_filter listed)

theorem normalized_some {config : AppConfig} {table key : String}
    (held : (config table key).isSome = true) : (config.normalized table key).isSome = true := by
  rw [AppConfig.normalized]
  split_ifs
  · rwa [Option.isSome_map]
  · exact held

theorem load_outcome (faults : ConfigFaults) {file : ConfigFile}
    (typed : ∀ document, file = .document document → deserializes document = true)
    (formed : file ≠ .malformed) :
    ConfigOutcome windows .loadOrCreate file
      (ConfigOp.loadOrCreate.run windows faults file) := by
  dsimp only [ConfigOp.run]
  unfold loadOrCreate withConfigWriteLock
  cases faults.lock.or faults.read with
  | some error => exact outcome_of_error windows _ file error
  | none =>
      cases file with
      | malformed => exact absurd rfl formed
      | absent =>
          dsimp only [writeAtomic]
          cases faults.write with
          | some error => exact outcome_of_error windows _ _ error
          | none => exact .created rfl rfl
      | document contents =>
          have parsed : readConfig contents = some fun table key =>
              (contents.get table key).or (AppConfig.default table key) := by
            rw [readConfig, if_pos (typed contents rfl)]
          dsimp only
          rw [parsed]
          dsimp only [upgradeConfigContents]
          split_ifs with changed
          · dsimp only [writeAtomic]
            cases faults.write with
            | some error => exact outcome_of_error windows _ _ error
            | none => exact .upgraded contents _ rfl rfl parsed
          · apply ConfigOutcome.unchanged
            · exact fun _ => rfl
            · intro _ _ setting member
              rw [Bool.not_eq_true] at changed
              apply insert_missing_values_unchanged.mp changed setting member
              apply normalized_some
              rw [Option.isSome_or, seeded_has_default windows member, Bool.or_true]

theorem run_outcome (op : ConfigOp) (faults : ConfigFaults) {file : ConfigFile}
    (typed : ∀ document, file = .document document → deserializes document = true)
    (formed : file ≠ .malformed) :
    ConfigOutcome windows op file (op.run windows faults file) := by
  cases op with
  | loadOrCreate => exact load_outcome windows faults typed formed
  | saveStoreKeyContent enabled =>
      apply outcome_of_locked
      cases loaded : loadDocumentOrDefault windows file with
      | error error => exact outcome_of_error windows _ file error
      | ok found =>
          apply outcome_of_written
          exact .edited found.1 rfl (starts_from_loaded windows rfl loaded)
  | saveCaptureToggle stream enabled =>
      apply outcome_of_locked
      cases loaded : loadDocumentOrDefault windows file with
      | error error => exact outcome_of_error windows _ file error
      | ok found =>
          apply outcome_of_written
          exact .edited found.1 rfl (starts_from_loaded windows rfl loaded)
  | dismissFirstRunWelcome =>
      apply outcome_of_locked
      cases loaded : loadDocumentOrDefault windows file with
      | error error => exact outcome_of_error windows _ file error
      | ok found =>
          dsimp only
          split_ifs
          · exact .unchanged _ (fun _ => rfl) (fun _ load => by cases load)
          · apply outcome_of_written
            exact .edited found.1 rfl (starts_from_loaded windows rfl loaded)
  | writePrivacySettings settings =>
      apply outcome_of_locked
      cases loaded : loadDashboardDocumentOrEmpty file with
      | error error => exact outcome_of_error windows _ file error
      | ok document =>
          apply outcome_of_written
          exact .edited document rfl (starts_from_dashboard windows rfl loaded)
  | saveSphereOverlayEnabled enabled =>
      apply outcome_of_locked
      cases loaded : loadDashboardDocumentOrEmpty file with
      | error error => exact outcome_of_error windows _ file error
      | ok document =>
          apply outcome_of_written
          exact .edited document rfl (starts_from_dashboard windows rfl loaded)

end Cases

section Invariant

variable [Externals] (windows : Bool)

/-- What holds of the file and of who has written it. -/
structure ConfigInvariant (state : ConfigState) : Prop where
  formed : state.file ≠ .malformed
  typed : ∀ document, state.file = .document document → deserializes document = true
  saved : state.saved = true → state.file.get "privacy" "posture_confirmed" = some (.bool true)
  loaded : state.loaded = true → ∀ setting ∈ seeded windows,
    (state.file.get setting.1 setting.2).isSome = true

omit [Externals] in
theorem no_config_invariant : ConfigInvariant windows noConfig where
  formed := fun malformed => by cases malformed
  typed := fun _ absent => by cases absent
  saved := fun never => by cases never
  loaded := fun never => by cases never

omit [Externals] in
@[simp] theorem days_value_accepted (days : Nat) :
    FieldKind.unsigned.accepts (daysValue days) = true := by
  rw [daysValue, FieldKind.accepts, decide_eq_true_eq]
  omega

omit [Externals] in
theorem fits_of_kind {table key : String} {value : TomlValue} (kind : FieldKind)
    (only : ∀ field ∈ configFields, field.table = table → field.key = key → field.kind = kind)
    (accepted : kind.accepts value = true) : Fits (table, key, value) := by
  intro field member sameTable sameKey
  rw [only field member sameTable sameKey]
  exact accepted

theorem edits_fit (op : ConfigOp) : ∀ edit ∈ op.edits, Fits edit := by
  cases op with
  | loadOrCreate => simp [ConfigOp.edits]
  | saveStoreKeyContent enabled =>
      simp only [ConfigOp.edits, List.forall_mem_cons, List.not_mem_nil, false_imp_iff,
        implies_true, and_true]
      exact ⟨fits_of_kind .bool (by decide) rfl, fits_of_kind .bool (by decide) rfl⟩
  | saveCaptureToggle stream enabled =>
      simp only [ConfigOp.edits, List.forall_mem_cons, List.not_mem_nil, false_imp_iff,
        implies_true, and_true]
      cases stream <;> exact fits_of_kind .bool (by decide) rfl
  | dismissFirstRunWelcome =>
      simp only [ConfigOp.edits, List.forall_mem_cons, List.not_mem_nil, false_imp_iff,
        implies_true, and_true]
      exact fits_of_kind .bool (by decide) rfl
  | writePrivacySettings settings =>
      simp only [ConfigOp.edits, privacyEntries, List.map_cons, List.map_nil,
        List.forall_mem_cons, List.not_mem_nil, false_imp_iff, implies_true, and_true]
      exact ⟨fits_of_kind .bool (by decide) rfl, fits_of_kind .strings (by decide) rfl,
        fits_of_kind .strings (by decide) rfl, fits_of_kind .strings (by decide) rfl,
        fits_of_kind .unsigned (by decide) (days_value_accepted _),
        fits_of_kind .unsigned (by decide) (days_value_accepted _)⟩
  | saveSphereOverlayEnabled enabled =>
      simp only [ConfigOp.edits, List.forall_mem_cons, List.not_mem_nil, false_imp_iff,
        implies_true, and_true]
      exact fits_of_kind .bool (by decide) rfl

omit [Externals] in
theorem fresh_documents_deserialize :
    deserializes .empty = true ∧
      deserializes (serializeConfig windows AppConfig.default) = true ∧
      deserializes (serializeConfig windows freshInstallConfig) = true := by
  cases windows <;> decide +kernel

omit [Externals] in
theorem starting_document_deserializes {op : ConfigOp} {file : ConfigFile} {base : TomlDocument}
    (typed : ∀ document, file = .document document → deserializes document = true)
    (starts : op.StartsFrom windows file base) : deserializes base = true := by
  have fresh := fresh_documents_deserialize windows
  rcases starts with same | ⟨_, default⟩
  · exact typed base same
  · cases op with
    | loadOrCreate => cases default
    | saveStoreKeyContent enabled =>
        cases default
        exact fresh.2.1
    | saveCaptureToggle stream enabled =>
        cases default
        exact fresh.2.1
    | dismissFirstRunWelcome =>
        cases default
        exact fresh.2.1
    | writePrivacySettings settings =>
        cases default
        exact fresh.1
    | saveSphereOverlayEnabled enabled =>
        cases default
        exact fresh.1

theorem edits_confirm (op : ConfigOp) : ∀ edit ∈ op.edits,
    (edit.1 = "privacy" ∧ edit.2.1 = "posture_confirmed" ∨
      edit.1 = "onboarding" ∧ edit.2.1 = "first_run_welcome_dismissed") →
    edit.2.2 = .bool true := by
  cases op <;> simp [ConfigOp.edits, privacyEntries]

theorem edits_owned {op : ConfigOp} (edits : op.isLoad = false) (document : TomlDocument) :
    ∀ edit ∈ op.edits, op.Owns document edit.1 edit.2.1 := by
  cases op with
  | loadOrCreate => cases edits
  | saveStoreKeyContent enabled => simp [ConfigOp.edits, ConfigOp.Owns]
  | saveCaptureToggle stream enabled => simp [ConfigOp.edits, ConfigOp.Owns]
  | dismissFirstRunWelcome => simp [ConfigOp.edits, ConfigOp.Owns]
  | writePrivacySettings settings => simp [ConfigOp.edits, ConfigOp.Owns, privacyEntries]
  | saveSphereOverlayEnabled enabled => simp [ConfigOp.edits, ConfigOp.Owns]

theorem posture_after_edits (op : ConfigOp) (base : TomlDocument) :
    (setAll base op.edits).get "privacy" "posture_confirmed" =
      if op.isSaveStoreKeyContent then some (.bool true)
      else base.get "privacy" "posture_confirmed" := by
  cases op <;>
    simp [ConfigOp.edits, setAll, privacyEntries, TomlDocument.get_set,
      ConfigOp.isSaveStoreKeyContent]

omit [Externals] in
theorem fresh_install_seeded : ∀ setting ∈ seeded windows,
    ((serializeConfig windows freshInstallConfig).get setting.1 setting.2).isSome = true := by
  cases windows <;> decide +kernel

omit [Externals] in
theorem posture_seeded : ("privacy", "posture_confirmed") ∈ seeded windows := by
  cases windows <;> decide

omit [Externals] in
theorem load_saves_nothing {op : ConfigOp} (load : op.isLoad = true) :
    op.isSaveStoreKeyContent = false := by
  cases op with
  | saveStoreKeyContent enabled => cases load
  | _ => rfl

section Outcome

variable {op : ConfigOp} {file : ConfigFile} {ran : ConfigFile × Except String Unit}
  (outcome : ConfigOutcome windows op file ran)

include outcome

theorem outcome_typed
    (typed : ∀ document, file = .document document → deserializes document = true) :
    ∀ document, ran.1 = .document document → deserializes document = true := by
  cases outcome with
  | unchanged result unsaved complete => exact typed
  | edited base edits starts =>
      rintro document ⟨⟩
      exact deserializes_set_all (starting_document_deserializes windows typed starts)
        (edits_fit op)
  | created load absent =>
      rintro document ⟨⟩
      exact (fresh_documents_deserialize windows).2.2
  | upgraded contents read load found parsed =>
      rintro document ⟨⟩
      exact deserializes_insert_missing_values (typed contents found)
        fun setting _ value held => read_config_fits parsed held

theorem outcome_formed (formed : file ≠ .malformed) : ran.1 ≠ .malformed := by
  cases outcome with
  | unchanged result unsaved complete => exact formed
  | edited base edits starts => exact fun malformed => by cases malformed
  | created load absent => exact fun malformed => by cases malformed
  | upgraded contents read load found parsed => exact fun malformed => by cases malformed

theorem outcome_present {table key : String} (present : (file.get table key).isSome = true) :
    (ran.1.get table key).isSome = true := by
  cases outcome with
  | unchanged result unsaved complete => exact present
  | edited base edits starts =>
      rcases starts with rfl | ⟨rfl, _⟩
      · exact get_set_all_some present op.edits
      · cases present
  | created load absent =>
      subst absent
      cases present
  | upgraded contents read load found parsed =>
      subst found
      change ((insertVisibleDefaults windows read.normalized contents).1.get table key).isSome = _
      rw [insertVisibleDefaults, get_insert_missing_values, Option.isSome_or]
      exact Bool.or_eq_true_iff.mpr (Or.inl present)

theorem outcome_confirmed {table key : String}
    (place : table = "privacy" ∧ key = "posture_confirmed" ∨
      table = "onboarding" ∧ key = "first_run_welcome_dismissed")
    (held : file.get table key = some (.bool true)) :
    ran.1.get table key = some (.bool true) := by
  cases outcome with
  | unchanged result unsaved complete => exact held
  | edited base edits starts =>
      rcases starts with rfl | ⟨rfl, _⟩
      · apply get_set_all_kept held
        rintro edit member ⟨rfl, rfl⟩
        exact edits_confirm op edit member place
      · cases held
  | created load absent =>
      subst absent
      cases held
  | upgraded contents read load found parsed =>
      subst found
      change (insertVisibleDefaults windows read.normalized contents).1.get table key = _
      rw [insertVisibleDefaults, get_insert_missing_values]
      change contents.get table key = _ at held
      rw [held, Option.some_or]

theorem outcome_saved (save : op.isSaveStoreKeyContent = true) (ok : ran.2 = .ok ()) :
    ran.1.get "privacy" "posture_confirmed" = some (.bool true) := by
  cases outcome with
  | unchanged result unsaved complete =>
      rw [unsaved ok] at save
      cases save
  | edited base edits starts => exact (posture_after_edits op base).trans (if_pos save)
  | created load absent =>
      rw [load_saves_nothing load] at save
      cases save
  | upgraded contents read load found parsed =>
      rw [load_saves_nothing load] at save
      cases save

theorem outcome_loaded (load : op.isLoad = true) (ok : ran.2 = .ok ()) :
    ∀ setting ∈ seeded windows, (ran.1.get setting.1 setting.2).isSome = true := by
  cases outcome with
  | unchanged result unsaved complete => exact complete ok load
  | edited base edits starts =>
      rw [load] at edits
      cases edits
  | created load absent => exact fresh_install_seeded windows
  | upgraded contents read load found parsed =>
      intro setting member
      change ((insertVisibleDefaults windows read.normalized contents).1.get _ _).isSome = true
      rw [insertVisibleDefaults, get_insert_missing_values, if_pos member, Option.isSome_or]
      apply Bool.or_eq_true_iff.mpr
      rw [readConfig] at parsed
      split_ifs at parsed
      cases parsed
      refine Or.inr (normalized_some ?_)
      rw [Option.isSome_or, seeded_has_default windows member, Bool.or_true]

theorem outcome_others {document : TomlDocument} (found : file = .document document) :
    ∃ written, ran.1 = .document written ∧ ∀ table key, ¬op.Owns document table key →
      written.get table key = document.get table key := by
  cases outcome with
  | unchanged result unsaved complete => exact ⟨document, found, fun _ _ _ => rfl⟩
  | edited base edits starts =>
      subst found
      rcases starts with same | ⟨absent, _⟩
      · cases same
        refine ⟨_, rfl, fun table key other => ?_⟩
        apply get_set_all_other
        rintro edit member ⟨rfl, rfl⟩
        exact other (edits_owned edits document edit member)
      · cases absent
  | created load absent =>
      rw [absent] at found
      cases found
  | upgraded contents read load same parsed =>
      rw [same] at found
      cases found
      refine ⟨_, rfl, fun table key other => ?_⟩
      rw [insertVisibleDefaults, get_insert_missing_values]
      cases op with
      | loadOrCreate =>
          rcases Option.ne_none_iff_exists'.mp other with ⟨value, held⟩
          rw [held, Option.some_or]
      | _ => cases load

theorem outcome_failed {error : String} (failed : ran.2 = .error error) : ran.1 = file := by
  cases outcome with
  | unchanged result unsaved complete => rfl
  | edited base edits starts => cases failed
  | created load absent => cases failed
  | upgraded contents read load found parsed => cases failed

end Outcome

theorem config_invariant_kept {state : ConfigState} (holds : ConfigInvariant windows state)
    (turn : ConfigTurn) :
    ConfigInvariant windows ((configMachine windows).step state turn).1 := by
  have outcome := run_outcome windows turn.op turn.faults holds.typed holds.formed
  have succeeded : ∀ result : Except String Unit, result.toBool = true → result = .ok () := by
    intro result ok
    cases result with
    | ok report => rfl
    | error error => cases ok
  constructor
  case formed => exact outcome_formed windows outcome holds.formed
  case typed => exact outcome_typed windows outcome holds.typed
  case saved =>
    intro saved
    rcases Bool.or_eq_true_iff.mp saved with before | now
    · exact outcome_confirmed windows outcome (Or.inl ⟨rfl, rfl⟩) (holds.saved before)
    · rw [Bool.and_eq_true] at now
      exact outcome_saved windows outcome now.1 (succeeded _ now.2)
  case loaded =>
    intro loaded
    rcases Bool.or_eq_true_iff.mp loaded with before | now
    · intro setting member
      exact outcome_present windows outcome (holds.loaded before setting member)
    · rw [Bool.and_eq_true] at now
      exact outcome_loaded windows outcome now.1 (succeeded _ now.2)

theorem reload_changes_nothing {state : ConfigState} (holds : ConfigInvariant windows state)
    (loaded : state.loaded = true) (faults : ConfigFaults) :
    (ConfigOp.loadOrCreate.run windows faults state.file).1 = state.file := by
  have complete := holds.loaded loaded
  have posture := complete _ (posture_seeded windows)
  dsimp only [ConfigOp.run]
  unfold loadOrCreate withConfigWriteLock
  cases faults.lock.or faults.read with
  | some error => rfl
  | none =>
      cases file : state.file with
      | malformed => rfl
      | absent =>
          rw [file] at posture
          cases posture
      | document document =>
          rw [file] at complete
          dsimp only
          cases readConfig document with
          | none => rfl
          | some read =>
              have same : (insertVisibleDefaults windows read.normalized document).2 = false :=
                insert_missing_values_unchanged.mpr fun setting member _ => complete setting member
              dsimp only
              rw [upgradeConfigContents, same]
              rfl

end Invariant

section Consent

variable [Externals] (windows : Bool)

def ConfigFile.postureConfirmed (file : ConfigFile) : Prop :=
  file.get "privacy" "posture_confirmed" = some (.bool true)

/-- The steps that confirm the posture without a choice: they create the file from the
defaults for an older one, or fill its posture in. -/
def SkipsConsent (state : ConfigState) (turn : ConfigTurn) : Prop :=
  turn.faults = ⟨none, none, none⟩ ∧
    match turn.op with
    | .saveCaptureToggle _ _ | .dismissFirstRunWelcome => state.file = .absent
    | .loadOrCreate => ∃ document, state.file = .document document ∧
        document.get "privacy" "posture_confirmed" = none
    | _ => False

omit [Externals] in
theorem default_posture :
    (serializeConfig windows AppConfig.default).get "privacy" "posture_confirmed" =
      some (.bool true) := by
  cases windows <;> decide +kernel

omit [Externals] in
theorem fresh_posture :
    (serializeConfig windows freshInstallConfig).get "privacy" "posture_confirmed" =
      some (.bool false) := by
  cases windows <;> decide +kernel

omit [Externals] in
theorem default_config_posture :
    AppConfig.default "privacy" "posture_confirmed" = some (.bool true) := by
  decide +kernel

theorem posture_after_load {document : TomlDocument} {read : AppConfig}
    (parsed : readConfig document = some read) :
    (insertVisibleDefaults windows read.normalized document).1.get "privacy"
        "posture_confirmed" =
      (document.get "privacy" "posture_confirmed").or (some (.bool true)) := by
  rw [insertVisibleDefaults, get_insert_missing_values, if_pos (posture_seeded windows)]
  rw [readConfig] at parsed
  split_ifs at parsed
  cases parsed
  rw [AppConfig.normalized, if_neg (by decide)]
  cases held : document.get "privacy" "posture_confirmed" with
  | some value => rfl
  | none =>
      rw [default_config_posture]
      rfl

theorem run_faulted {op : ConfigOp} {faults : ConfigFaults} {file : ConfigFile}
    (faulted : faults ≠ ⟨none, none, none⟩) : (op.run windows faults file).1 = file := by
  rcases faults with ⟨lock, read, write⟩
  cases lock with
  | some error => cases op <;> rfl
  | none =>
      cases read with
      | some error => cases op <;> rfl
      | none =>
          cases write with
          | none => exact absurd rfl faulted
          | some error =>
              cases op with
              | loadOrCreate =>
                  cases file with
                  | absent => rfl
                  | malformed => rfl
                  | document document =>
                      dsimp only [ConfigOp.run, loadOrCreate, withConfigWriteLock, Option.or]
                      cases readConfig document with
                      | none => rfl
                      | some config =>
                          dsimp only
                          cases upgradeConfigContents windows document config.normalized <;> rfl
              | saveStoreKeyContent enabled =>
                  dsimp only [ConfigOp.run, saveStoreKeyContent, withConfigWriteLock, Option.or]
                  cases loadDocumentOrDefault windows file <;> rfl
              | saveCaptureToggle stream enabled =>
                  dsimp only [ConfigOp.run, saveCaptureToggle, withConfigWriteLock, Option.or]
                  cases loadDocumentOrDefault windows file <;> rfl
              | dismissFirstRunWelcome =>
                  dsimp only [ConfigOp.run, dismissFirstRunWelcome, withConfigWriteLock, Option.or]
                  cases loadDocumentOrDefault windows file with
                  | error error => rfl
                  | ok found => dsimp only; split_ifs <;> rfl
              | writePrivacySettings settings =>
                  dsimp only [ConfigOp.run, writePrivacySettings, withConfigWriteLock, Option.or]
                  cases loadDashboardDocumentOrEmpty file <;> rfl
              | saveSphereOverlayEnabled enabled =>
                  dsimp only [ConfigOp.run, saveSphereOverlayEnabled, withConfigWriteLock,
                    Option.or]
                  cases loadDashboardDocumentOrEmpty file <;> rfl

omit [Externals] in
theorem create_skips_consent {op : ConfigOp} {faults : ConfigFaults} {state : ConfigState}
    {base : TomlDocument} (calm : faults = ⟨none, none, none⟩) (absent : state.file = .absent)
    (from_default : op.ifAbsent windows = some base)
    (confirmed : base.get "privacy" "posture_confirmed" = some (.bool true))
    (unsaved : op.isSaveStoreKeyContent = false) : SkipsConsent state ⟨op, faults⟩ := by
  refine ⟨calm, ?_⟩
  cases op with
  | loadOrCreate => cases from_default
  | saveStoreKeyContent enabled => cases unsaved
  | saveCaptureToggle stream enabled => exact absent
  | dismissFirstRunWelcome => exact absent
  | writePrivacySettings settings =>
      cases from_default
      cases confirmed
  | saveSphereOverlayEnabled enabled =>
      cases from_default
      cases confirmed

theorem confirmed_means {op : ConfigOp} {faults : ConfigFaults} {state : ConfigState}
    {ran : ConfigFile × Except String Unit} (outcome : ConfigOutcome windows op state.file ran)
    (calm : faults = ⟨none, none, none⟩) (confirmed : ran.1.postureConfirmed) :
    state.file.postureConfirmed ∨ SkipsConsent state ⟨op, faults⟩ ∨
      op.isSaveStoreKeyContent = true ∧ ran.2 = .ok () := by
  cases outcome with
  | unchanged result unsaved complete => exact Or.inl confirmed
  | edited base edits starts =>
      have after := (posture_after_edits op base).symm.trans confirmed
      cases save : op.isSaveStoreKeyContent with
      | true => exact Or.inr (Or.inr ⟨rfl, rfl⟩)
      | false =>
          rw [save, if_neg Bool.false_ne_true] at after
          rcases starts with found | ⟨absent, default⟩
          · refine Or.inl ?_
            rw [ConfigFile.postureConfirmed, found]
            exact after
          · exact Or.inr (Or.inl (create_skips_consent windows calm absent default after save))
  | created load absent =>
      have after := (fresh_posture windows).symm.trans confirmed
      cases after
  | upgraded document read load found parsed =>
      have after := (posture_after_load windows parsed).symm.trans confirmed
      cases held : document.get "privacy" "posture_confirmed" with
      | some value =>
          refine Or.inl ?_
          rw [ConfigFile.postureConfirmed, found]
          rw [held, Option.some_or] at after
          exact held.trans after
      | none =>
          refine Or.inr (Or.inl ⟨calm, ?_⟩)
          cases op with
          | loadOrCreate => exact ⟨document, found, held⟩
          | _ => cases load

theorem calm_load_succeeds (file : ConfigFile) :
    (ConfigOp.loadOrCreate.run windows ⟨none, none, none⟩ file).2 = .ok () := by
  cases file with
  | absent => rfl
  | malformed => rfl
  | document document =>
      dsimp only [ConfigOp.run, loadOrCreate, withConfigWriteLock, Option.or]
      cases readConfig document with
      | none => rfl
      | some config =>
          dsimp only
          cases upgradeConfigContents windows document config.normalized <;> rfl

theorem skipping_confirms {state : ConfigState} (holds : ConfigInvariant windows state)
    {turn : ConfigTurn} (skips : SkipsConsent state turn) :
    (turn.op.run windows turn.faults state.file).1.postureConfirmed := by
  rcases turn with ⟨op, faults⟩
  rcases skips with ⟨rfl, skips⟩
  cases op with
  | loadOrCreate =>
      rcases skips with ⟨document, found, missing⟩
      have outcome := load_outcome windows ⟨none, none, none⟩ holds.typed holds.formed
      have ok := calm_load_succeeds windows state.file
      dsimp only
      generalize ConfigOp.loadOrCreate.run windows ⟨none, none, none⟩ state.file = ran at *
      cases outcome with
      | unchanged result unsaved complete =>
          have present := complete ok rfl _ (posture_seeded windows)
          rw [found] at present
          change (document.get "privacy" "posture_confirmed").isSome = true at present
          rw [missing] at present
          cases present
      | edited base edits starts => cases edits
      | created load absent =>
          rw [absent] at found
          cases found
      | upgraded contents read load same parsed =>
          rw [found] at same
          cases same
          apply (posture_after_load windows parsed).trans
          rw [missing, Option.none_or]
  | saveCaptureToggle stream enabled =>
      change state.file = .absent at skips
      rw [skips]
      exact (posture_after_edits (.saveCaptureToggle stream enabled) _).trans
        (default_posture windows)
  | dismissFirstRunWelcome =>
      change state.file = .absent at skips
      rw [skips]
      dsimp only [ConfigOp.run, dismissFirstRunWelcome, withConfigWriteLock, Option.or,
        loadDocumentOrDefault]
      rw [Bool.and_false, if_neg Bool.false_ne_true]
      exact (posture_after_edits .dismissFirstRunWelcome _).trans (default_posture windows)
  | _ => cases skips

theorem posture_confirmed_after_iff {state : ConfigState} (holds : ConfigInvariant windows state)
    (turn : ConfigTurn) :
    (turn.op.run windows turn.faults state.file).1.postureConfirmed ↔
      state.file.postureConfirmed ∨ SkipsConsent state turn ∨
        turn.op.isSaveStoreKeyContent = true ∧
          (turn.op.run windows turn.faults state.file).2 = .ok () := by
  have outcome := run_outcome windows turn.op turn.faults holds.typed holds.formed
  constructor
  · intro confirmed
    by_cases calm : turn.faults = ⟨none, none, none⟩
    · exact confirmed_means windows outcome calm confirmed
    · rw [run_faulted windows calm] at confirmed
      exact Or.inl confirmed
  · rintro (before | skips | ⟨save, ok⟩)
    · exact outcome_confirmed windows outcome (Or.inl ⟨rfl, rfl⟩) before
    · exact skipping_confirms windows holds skips
    · exact outcome_saved windows outcome save ok

structure StepKeeps (before : ConfigState) (turn : ConfigTurn)
    (next : ConfigState × Except String Unit) : Prop where
  others : ∀ document, before.file = .document document →
    ∃ written, next.1.file = .document written ∧ ∀ table key, ¬turn.op.Owns document table key →
      written.get table key = document.get table key
  failed : ∀ error, next.2 = .error error → next.1.file = before.file
  reloaded : turn.op = .loadOrCreate → before.loaded = true → next.1.file = before.file
  dismissed : before.file.get "onboarding" "first_run_welcome_dismissed" = some (.bool true) →
    next.1.file.get "onboarding" "first_run_welcome_dismissed" = some (.bool true)
  consent : next.1.file.postureConfirmed → next.1.saved = true

structure ConsentInvariant (state : ConfigState) : Prop extends
    ConfigInvariant windows state where
  consent : state.file.postureConfirmed → state.saved = true

theorem consent_after_iff {state : ConfigState} (holds : ConsentInvariant windows state)
    (turn : ConfigTurn) :
    (((configMachine windows).step state turn).1.file.postureConfirmed →
      ((configMachine windows).step state turn).1.saved = true) ↔ ¬SkipsConsent state turn := by
  have after := posture_confirmed_after_iff windows holds.toConfigInvariant turn
  constructor
  · intro consent skips
    have saved := consent (after.mpr (Or.inr (Or.inl skips)))
    rcases turn with ⟨op, faults⟩
    rcases skips with ⟨_, skips⟩
    have earlier : state.saved = true := by
      cases op with
      | saveStoreKeyContent enabled => cases skips
      | _ => simpa [configMachine, ConfigOp.isSaveStoreKeyContent] using saved
    have confirmed := holds.saved earlier
    cases op with
    | loadOrCreate =>
        rcases skips with ⟨document, found, missing⟩
        rw [found] at confirmed
        change document.get "privacy" "posture_confirmed" = _ at confirmed
        rw [missing] at confirmed
        cases confirmed
    | saveCaptureToggle stream enabled =>
        rw [show state.file = .absent from skips] at confirmed
        cases confirmed
    | dismissFirstRunWelcome =>
        rw [show state.file = .absent from skips] at confirmed
        cases confirmed
    | _ => cases skips
  · intro careful confirmed
    rcases after.mp confirmed with before | skips | ⟨save, ok⟩
    · exact Bool.or_eq_true_iff.mpr (Or.inl (holds.consent before))
    · exact absurd skips careful
    · dsimp only [configMachine]
      rw [save, ok]
      exact Bool.or_true _

theorem step_keeps_iff {state : ConfigState} (holds : ConsentInvariant windows state)
    (turn : ConfigTurn) :
    StepKeeps state turn ((configMachine windows).step state turn) ↔
      ¬SkipsConsent state turn := by
  have outcome := run_outcome windows turn.op turn.faults holds.typed holds.formed
  rw [← consent_after_iff windows holds turn]
  constructor
  · exact StepKeeps.consent
  · intro consent
    constructor
    case others => exact fun document found => outcome_others windows outcome found
    case failed => exact fun error failed => outcome_failed windows outcome failed
    case reloaded =>
      intro load loaded
      rcases turn with ⟨op, faults⟩
      subst load
      exact reload_changes_nothing windows holds.toConfigInvariant loaded faults
    case dismissed => exact outcome_confirmed windows outcome (Or.inr ⟨rfl, rfl⟩)
    case consent => exact consent

/-- Whoever writes in whatever order, every step keeps what it should exactly when none
of them confirms the posture without a choice. -/
theorem config_writers_keep_settings_iff (turns : List ConfigTurn) :
    (configMachine windows).AllSteps
        (fun state turn => StepKeeps state turn ((configMachine windows).step state turn))
        noConfig turns ↔
      (configMachine windows).AllSteps (fun state turn => ¬SkipsConsent state turn)
        noConfig turns := by
  apply Machine.all_steps_iff_of_invariant _ (ConsentInvariant windows)
  case agree =>
    intro state turn holds
    exact step_keeps_iff windows holds turn
  case kept =>
    intro state turn careful holds
    exact ⟨config_invariant_kept windows holds.toConfigInvariant turn,
      (consent_after_iff windows holds turn).mpr careful⟩
  case start => exact ⟨no_config_invariant windows, fun never => by cases never⟩

omit [Externals] in
/-- The tray's capture toggle creates the file: the posture is confirmed, though nobody
was asked. -/
theorem toggle_confirms_posture :
    ¬∀ (externals : Externals) (turns : List ConfigTurn),
      (@configMachine externals true).AllSteps
        (fun state turn => StepKeeps state turn ((@configMachine externals true).step state turn))
        noConfig turns := by
  intro every
  have keeps := (every asciiExternals
    [⟨.saveCaptureToggle .mouse false, ⟨none, none, none⟩⟩]).1
  have confirmed := (@posture_after_edits asciiExternals (.saveCaptureToggle .mouse false)
    (serializeConfig true AppConfig.default)).trans (default_posture true)
  have never := keeps.consent confirmed
  cases never

end Consent

end Gilbreth.App
