import Gilbreth.Core.Text
import Gilbreth.Library.TomlDocument

/-!
# The configuration file and its writers

Six operations of the tray and the dashboard rewrite `config.toml`, each under one
lock. They start from different notions of an absent file: the values of a fresh
install, the defaults that grandfather an older file, or an empty document.
-/

set_option autoImplicit false

namespace Gilbreth.App

open Gilbreth.Core

section Schema

inductive FieldKind where
  | bool
  | unsigned
  | string
  | strings
  | path
  | strategy
deriving DecidableEq

/-- The values the field deserializes from. -/
def FieldKind.accepts : FieldKind → TomlValue → Bool
  | .bool, .bool _ => true
  | .unsigned, .integer value => decide (0 ≤ value)
  | .string, .string _ => true
  | .strings, .strings _ => true
  | .path, .string _ => true
  | .strategy, .string text => decide (text = "runas")
  | _, _ => false

/-- One field of `AppConfig` with its default. Off Windows the fields that only Record
Routine reads are not serialized. -/
structure ConfigField where
  table : String
  key : String
  kind : FieldKind
  default : Option TomlValue
  windowsOnly : Bool

def configFields : List ConfigField :=
  [⟨"capture", "foreground", .bool, some (.bool true), false⟩,
   ⟨"capture", "windows", .bool, some (.bool true), false⟩,
   ⟨"capture", "keyboard", .bool, some (.bool true), false⟩,
   ⟨"capture", "mouse", .bool, some (.bool true), false⟩,
   ⟨"capture", "system", .bool, some (.bool true), false⟩,
   ⟨"capture", "idle", .bool, some (.bool true), false⟩,
   ⟨"capture", "idle_threshold_ms", .unsigned, some (.integer 180000), false⟩,
   ⟨"capture", "process_filter", .bool, some (.bool true), false⟩,
   ⟨"hotkey", "pause_resume", .string, some (.string "ctrl+alt+shift+p"), false⟩,
   ⟨"storage", "db_path", .path, none, false⟩,
   ⟨"writer", "flush_interval_ms", .unsigned, some (.integer 250), false⟩,
   ⟨"writer", "batch_size", .unsigned, some (.integer 100), false⟩,
   ⟨"record", "safety_cap_ms", .unsigned, some (.integer 1800000), true⟩,
   ⟨"record", "request_poll_interval_ms", .unsigned, some (.integer 3000), false⟩,
   ⟨"record", "elevated_helper_enabled", .bool, some (.bool false), true⟩,
   ⟨"record", "elevated_helper_strategy", .strategy, some (.string "runas"), true⟩,
   ⟨"record", "elevated_helper_path", .string, some (.string ""), true⟩,
   ⟨"record", "elevated_helper_required_signer_sha256", .string, some (.string ""), true⟩,
   ⟨"privacy", "redact_titles_containing", .strings, some (.strings []), false⟩,
   ⟨"privacy", "redact_keys_containing", .strings, some (.strings []), false⟩,
   ⟨"privacy", "excluded_apps", .strings, some (.strings []), false⟩,
   ⟨"privacy", "sensitive_context_suppression", .bool, some (.bool true), false⟩,
   ⟨"privacy", "store_key_content", .bool, some (.bool false), false⟩,
   ⟨"privacy", "posture_confirmed", .bool, some (.bool true), false⟩,
   ⟨"privacy", "retention_days", .unsigned, some (.integer 90), false⟩,
   ⟨"privacy", "title_retention_days", .unsigned, some (.integer 0), false⟩,
   ⟨"privacy", "mouse_move_retention_days", .unsigned, some (.integer 30), false⟩,
   ⟨"onboarding", "first_run_welcome_dismissed", .bool, some (.bool true), false⟩]

abbrev AppConfig := String → String → Option TomlValue

def AppConfig.default : AppConfig := fun table key =>
  (configFields.find? fun field => field.table == table && field.key == key).bind
    ConfigField.default

def freshInstallConfig : AppConfig := fun table key =>
  if table = "privacy" ∧ key = "posture_confirmed" then some (.bool false)
  else if table = "privacy" ∧ key = "title_retention_days" then some (.integer 30)
  else if table = "onboarding" ∧ key = "first_run_welcome_dismissed" then some (.bool false)
  else AppConfig.default table key

/-- A table or key that is missing takes its default, a value of another type is an
error, and what the schema does not name is ignored. -/
def deserializes (document : TomlDocument) : Bool :=
  configFields.all fun field => document.holdsTable field.table &&
    (document.get field.table field.key).all field.kind.accepts

def readConfig (document : TomlDocument) : Option AppConfig :=
  if deserializes document then
    some fun table key => (document.get table key).or (AppConfig.default table key)
  else none

/-- `toml::to_string_pretty`. -/
def serializeConfig (windows : Bool) (config : AppConfig) : TomlDocument :=
  configFields.foldl (fun document field =>
    if field.windowsOnly && !windows then document
    else match config field.table field.key with
      | none => document
      | some value => document.set field.table field.key value) .empty

end Schema

section Normalize

def isPythonWhitespace (char : Char) : Bool :=
  let code := char.toNat
  (9 ≤ code && code ≤ 0xD) || (0x1C ≤ code && code ≤ 0x20) || code == 0x85 || code == 0xA0 ||
    code == 0x1680 || (0x2000 ≤ code && code ≤ 0x200A) || code == 0x2028 || code == 0x2029 ||
    code == 0x202F || code == 0x205F || code == 0x3000

def pythonStrip (text : String) : String :=
  String.ofList
    ((text.toList.dropWhile isPythonWhitespace).reverse.dropWhile isPythonWhitespace).reverse

/-- Keep what is not empty, once for each key. -/
def keepFirst (key : String → String) (seen : List String) : List String → List String
  | [] => []
  | text :: rest =>
      if text = "" ∨ key text ∈ seen then keepFirst key seen rest
      else text :: keepFirst key (key text :: seen) rest

def normalizePrivacyPatterns (patterns : List String) : List String :=
  keepFirst id [] (patterns.map pythonStrip)

def normalizeExcludedApps [Externals] (apps : List String) : List String :=
  keepFirst Externals.toLowercase [] (apps.map fun app => trim (lastPathSegment (pythonStrip app)))

def AppConfig.normalized [Externals] (config : AppConfig) : AppConfig := fun table key =>
  if table = "privacy" ∧ key = "excluded_apps" then
    (config table key).map fun value => match value with
      | .strings apps => .strings (normalizeExcludedApps apps)
      | other => other
  else config table key

end Normalize

section Upgrade

/-- The settings `insert_visible_defaults` fills in, and whether only on Windows. -/
def visibleDefaults : List (String × String × Bool) :=
  [("capture", "idle_threshold_ms", false), ("capture", "process_filter", false),
   ("hotkey", "pause_resume", false), ("privacy", "excluded_apps", false),
   ("privacy", "sensitive_context_suppression", false),
   ("privacy", "mouse_move_retention_days", false), ("privacy", "store_key_content", false),
   ("privacy", "posture_confirmed", false), ("privacy", "title_retention_days", false),
   ("privacy", "retention_days", false), ("onboarding", "first_run_welcome_dismissed", false),
   ("record", "safety_cap_ms", true), ("record", "request_poll_interval_ms", false),
   ("record", "elevated_helper_enabled", true), ("record", "elevated_helper_strategy", true),
   ("record", "elevated_helper_path", true),
   ("record", "elevated_helper_required_signer_sha256", true)]

/-- The settings filled in on this platform. -/
def seeded (windows : Bool) : List (String × String) :=
  (visibleDefaults.filter fun setting => windows || !setting.2.2).map fun setting =>
    (setting.1, setting.2.1)

def insertMissingValues (config : AppConfig) :
    List (String × String) → TomlDocument → TomlDocument × Bool
  | [], document => (document, false)
  | (table, key) :: rest, document =>
      match config table key with
      | none => insertMissingValues config rest document
      | some value =>
          let inserted := document.insertMissing table key value
          let later := insertMissingValues config rest inserted.1
          (later.1, inserted.2 || later.2)

def insertVisibleDefaults (windows : Bool) (config : AppConfig) (document : TomlDocument) :
    TomlDocument × Bool :=
  insertMissingValues config (seeded windows) document

def upgradeConfigContents (windows : Bool) (document : TomlDocument) (config : AppConfig) :
    Option TomlDocument :=
  let upgraded := insertVisibleDefaults windows config document
  if upgraded.2 then some upgraded.1 else none

end Upgrade

section Writers

/-- What stands under the path of `config.toml`. -/
inductive ConfigFile where
  | absent
  | malformed
  | document (document : TomlDocument)

/-- What fails: the lock, a read other than of an absent file, the atomic write. -/
structure ConfigFaults where
  lock : Option String
  read : Option String
  write : Option String
deriving DecidableEq

inductive ConfigStatus where
  | loaded
  | createdDefault
  | upgradedDefaultFields
  | malformed
deriving DecidableEq

inductive CaptureStream where
  | foreground
  | windows
  | keyboard
  | mouse
  | system
  | idle
deriving DecidableEq

def captureKey : CaptureStream → String
  | .foreground => "foreground"
  | .windows => "windows"
  | .keyboard => "keyboard"
  | .mouse => "mouse"
  | .system => "system"
  | .idle => "idle"

structure PrivacySettings where
  sensitiveContextSuppression : Bool
  redactTitlesContaining : List String
  redactKeysContaining : List String
  excludedApps : List String
  storeKeyContent : Bool
  titleRetentionDays : Nat
  mouseMoveRetentionDays : Nat

variable (windows : Bool) (faults : ConfigFaults) (file : ConfigFile)

/-- `with_config_write_lock` around an operation that reads the file first. -/
def withConfigWriteLock {Report : Type}
    (operation : ConfigFile × Except String Report) : ConfigFile × Except String Report :=
  match faults.lock.or faults.read with
  | some error => (file, .error error)
  | none => operation

/-- The file is replaced as a whole or not at all. -/
def writeAtomic {Report : Type} (contents : TomlDocument) (report : Report) :
    ConfigFile × Except String Report :=
  match faults.write with
  | some error => (file, .error error)
  | none => (.document contents, .ok report)

def loadOrCreate [Externals] : ConfigFile × Except String ConfigStatus :=
  withConfigWriteLock faults file
    (match file with
      | .absent =>
          writeAtomic faults file (serializeConfig windows freshInstallConfig) .createdDefault
      | .malformed => (file, .ok .malformed)
      | .document document =>
          match readConfig document with
          | none => (file, .ok .malformed)
          | some config =>
              match upgradeConfigContents windows document config.normalized with
              | none => (file, .ok .loaded)
              | some upgraded => writeAtomic faults file upgraded .upgradedDefaultFields)

/-- The document to edit, and whether it came from a file. -/
def loadDocumentOrDefault : Except String (TomlDocument × Bool) :=
  match file with
  | .absent => .ok (serializeConfig windows AppConfig.default, false)
  | .malformed => .error "config is malformed; refusing document-preserving update"
  | .document document =>
      if deserializes document then .ok (document, true)
      else .error "config is malformed; refusing document-preserving update"

def loadDashboardDocumentOrEmpty : Except String TomlDocument :=
  match file with
  | .absent => .ok .empty
  | .malformed => .error "config is malformed; refusing document-preserving update"
  | .document document => .ok document

def saveStoreKeyContent (enabled : Bool) : ConfigFile × Except String Unit :=
  withConfigWriteLock faults file
    (match loadDocumentOrDefault windows file with
      | .error error => (file, .error error)
      | .ok (document, _) =>
          writeAtomic faults file
            ((document.set "privacy" "store_key_content" (.bool enabled)).set
              "privacy" "posture_confirmed" (.bool true)) ())

def saveCaptureToggle (stream : CaptureStream) (enabled : Bool) :
    ConfigFile × Except String Unit :=
  withConfigWriteLock faults file
    (match loadDocumentOrDefault windows file with
      | .error error => (file, .error error)
      | .ok (document, _) =>
          writeAtomic faults file (document.set "capture" (captureKey stream) (.bool enabled)) ())

def dismissFirstRunWelcome : ConfigFile × Except String Unit :=
  withConfigWriteLock faults file
    (match loadDocumentOrDefault windows file with
      | .error error => (file, .error error)
      | .ok (document, loadedFromFile) =>
          let alreadyDismissed :=
            decide (document.get "onboarding" "first_run_welcome_dismissed" = some (.bool true))
          if alreadyDismissed && loadedFromFile then (file, .ok ())
          else
            writeAtomic faults file
              (document.set "onboarding" "first_run_welcome_dismissed" (.bool true)) ())

/-- `i64::try_from(days).unwrap_or(i64::MAX)` -/
def daysValue (days : Nat) : TomlValue := .integer (min days 9223372036854775807)

/-- The keys `write_privacy_settings` owns, with what it writes. -/
def privacyEntries [Externals] (settings : PrivacySettings) : List (String × TomlValue) :=
  [("sensitive_context_suppression", .bool settings.sensitiveContextSuppression),
   ("redact_titles_containing",
     .strings (normalizePrivacyPatterns settings.redactTitlesContaining)),
   ("redact_keys_containing", .strings (normalizePrivacyPatterns settings.redactKeysContaining)),
   ("excluded_apps", .strings (normalizeExcludedApps settings.excludedApps)),
   ("title_retention_days", daysValue settings.titleRetentionDays),
   ("mouse_move_retention_days", daysValue settings.mouseMoveRetentionDays)]

def writePrivacySettings [Externals] (settings : PrivacySettings) :
    ConfigFile × Except String Unit :=
  withConfigWriteLock faults file
    (match loadDashboardDocumentOrEmpty file with
      | .error error => (file, .error error)
      | .ok document =>
          writeAtomic faults file
            ((privacyEntries settings).foldl
              (fun document entry => document.set "privacy" entry.1 entry.2) document) ())

def saveSphereOverlayEnabled (enabled : Bool) : ConfigFile × Except String Unit :=
  withConfigWriteLock faults file
    (match loadDashboardDocumentOrEmpty file with
      | .error error => (file, .error error)
      | .ok document =>
          writeAtomic faults file
            (document.set "analytics" "sphere_labels_from_titles" (.bool enabled)) ())

end Writers

end Gilbreth.App
