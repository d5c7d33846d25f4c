import Mathlib
import Gilbreth.Library.FileTree
import Gilbreth.App.SecureErase

/-!
# The uninstall purge

The purge removes the data root class by class: known files, known directories, the database that
the configuration names, the programs of an older install. What a class cannot remove is reported,
and the root goes only when every class is gone. Each class has file operations of its own that
may fail.
-/

set_option autoImplicit false

namespace Gilbreth.App

section Receipt

inductive PrivacyOperation where
  | archiveReset | secureErase | portableArchiveExport | uninstallPurge
deriving DecidableEq

inductive ReceiptStatus where
  | completed | incomplete
deriving DecidableEq

structure PrivacyReceipt where
  operation : PrivacyOperation
  status : ReceiptStatus
  classes : List ReceiptClass
deriving DecidableEq

def ReceiptOutcome.isOpen : ReceiptOutcome → Bool
  | .deferred | .needsRetry => true
  | .copied | .removed | .retained => false

def PrivacyReceipt.new (operation : PrivacyOperation) (classes : List ReceiptClass) :
    PrivacyReceipt where
  operation := operation
  status := if classes.any (·.outcome.isOpen) then .incomplete else .completed
  classes := classes

def classReceipt (className : String) (outcome : ReceiptOutcome) (itemCount : Nat)
    (errorCategory : Option String) : ReceiptClass :=
  let receipt := (ReceiptClass.new className outcome).withCount itemCount
  match errorCategory with
  | some category => receipt.withErrorCategory category
  | none => receipt

def removed (className : String) (itemCount : Nat) : ReceiptClass :=
  classReceipt className .removed itemCount none

def ioErrorCategory : IoError → String
  | .fault .locked => "locked"
  | .fault .accessDenied => "access_denied"
  | .fault .other | .notFound => "io"

/-- What a class that failed with such a category is reported as. -/
def failedReceipt (className : String) (itemCount : Nat) (category : String) : ReceiptClass :=
  classReceipt className (if category = "locked" then .deferred else .needsRetry) itemCount
    (some category)

end Receipt

section Names

def hotkeyStatusSidecarName : String := "hotkey-status.json"

def notificationAccessSidecarName : String := "notification-access.json"

def configLockName : String := "config.toml.lock"

def testRootMarker : String := ".gilbreth-purge-test-root"

def receiptDirectory : String := "operation-receipts"

def knownNames : List String :=
  ["gilbreth.db", "gilbreth.db-wal", "gilbreth.db-shm", "config.toml", "config.toml.tmp",
    "config.toml.upgrade.tmp", "config.toml.tray.tmp", "config.toml.dashboard.tmp",
    configLockName, testRootMarker, "spheres.json", "spheres.json.tmp", "notices.json",
    "notices.json.tmp", hotkeyStatusSidecarName, notificationAccessSidecarName,
    "dashboard-ui.ron", "dashboard-ui.lock", "logs", "archives", receiptDirectory, "rollback",
    "bin"]

def databaseNames : List String := ["gilbreth.db", "gilbreth.db-wal", "gilbreth.db-shm"]

def configurationNames (hasTestMarker : Bool) : List String :=
  ["config.toml", "config.toml.tmp", "config.toml.upgrade.tmp", "config.toml.tray.tmp",
    "config.toml.dashboard.tmp", configLockName] ++
    if hasTestMarker then [testRootMarker] else []

def sidecarNames : List String :=
  ["spheres.json", "spheres.json.tmp", "notices.json", "notices.json.tmp",
    hotkeyStatusSidecarName, notificationAccessSidecarName]

def uiStateNames : List String := ["dashboard-ui.ron", "dashboard-ui.lock"]

def legacyProgramNames : List String :=
  ["gilbreth-app.exe", "gilbreth-elevated-record-helper.exe"]

end Names

section Configuration

inductive ConfiguredPath where
  | absolute (path : EntryPath)
  | relative
deriving DecidableEq

/-- What the text of a `config.toml` that is there comes to, once it is read. -/
inductive ConfigReading where
  | notFound
  | unresolved
  | parsed (dbPath : Option ConfiguredPath)
deriving DecidableEq

def readConfiguration (reading : ConfigReading) (tree : FileTree) (dataRoot : EntryPath) :
    ConfigReading :=
  if tree.kindAt ("config.toml" :: dataRoot) = none then .notFound else reading

/-- `AppConfig::db_path`. -/
def configuredDatabasePath (dbPath : Option ConfiguredPath) (localDataDir : EntryPath) :
    ConfiguredPath :=
  dbPath.getD (.absolute ("gilbreth.db" :: localDataDir))

def sqliteFileFamily : EntryPath → List EntryPath
  | [] => [[], ["-wal"], ["-shm"]]
  | name :: parent => [name :: parent, (name ++ "-wal") :: parent, (name ++ "-shm") :: parent]

end Configuration

section Classes

/-- How many entries a class has met, and the first of its failures. -/
structure PurgeTally where
  count : Nat
  category : Option String
deriving DecidableEq

namespace PurgeTally

def start : PurgeTally := ⟨0, none⟩

/-- `category.get_or_insert`. -/
def fail (tally : PurgeTally) (category : String) : PurgeTally :=
  { tally with category := some (tally.category.getD category) }

def receipt (tally : PurgeTally) (className : String) : ReceiptClass :=
  match tally.category with
  | none => removed className tally.count
  | some category => failedReceipt className tally.count category

end PurgeTally

def purgeFile (faults : IoFaults) (progress : FileTree × PurgeTally) (path : EntryPath) :
    FileTree × PurgeTally :=
  let (tree, tally) := progress
  match faults.symlinkMetadata tree path with
  | .error .notFound => (tree, tally)
  | .error (.fault fault) => (tree, tally.fail (ioErrorCategory (.fault fault)))
  | .ok kind =>
      let counted := { tally with count := tally.count + 1 }
      if kind = .file then
        match faults.removeFile tree path with
        | (after, .ok ()) => (after, counted)
        | (after, .error error) => (after, counted.fail (ioErrorCategory error))
      else (tree, counted.fail "unsafe_path")

def purgePaths (faults : IoFaults) (tree : FileTree) (className : String)
    (paths : List EntryPath) : FileTree × ReceiptClass :=
  let (after, tally) := paths.foldl (purgeFile faults) (tree, .start)
  (after, tally.receipt className)

def purgeFiles (faults : IoFaults) (tree : FileTree) (root : EntryPath) (className : String)
    (names : List String) : FileTree × ReceiptClass :=
  purgePaths faults tree className (names.map (· :: root))

/-- The database that the configuration names, unless it is the root's own or the configuration
cannot be read. -/
def purgeConfiguredDatabase (faults : IoFaults) (reading : ConfigReading) (tree : FileTree)
    (dataRoot : EntryPath) : FileTree × ReceiptClass :=
  match faults.failure .readFile ("config.toml" :: dataRoot) with
  | some _ => (tree, classReceipt "configured_database" .deferred 0 (some "unresolved_config"))
  | none =>
      match readConfiguration reading tree dataRoot with
      | .notFound => (tree, removed "configured_database" 0)
      | .unresolved =>
          (tree, classReceipt "configured_database" .deferred 0 (some "unresolved_config"))
      | .parsed dbPath =>
          match configuredDatabasePath dbPath dataRoot with
          | .relative =>
              (tree,
                classReceipt "configured_database" .deferred 0 (some "unresolved_external_path"))
          | .absolute configured =>
              if configured = "gilbreth.db" :: dataRoot then (tree, removed "configured_database" 0)
              else purgePaths faults tree "configured_database" (sqliteFileFamily configured)

/-- The entries that are there, or an operation that failed. -/
def countFiles (faults : IoFaults) (tree : FileTree) (root : EntryPath) :
    List String → Nat → Nat × Bool
  | [], count => (count, false)
  | name :: names, count =>
      match faults.symlinkMetadata tree (name :: root) with
      | .ok _ => countFiles faults tree root names (count + 1)
      | .error .notFound => countFiles faults tree root names count
      | .error (.fault _) => (count, true)

def deferFiles (faults : IoFaults) (tree : FileTree) (root : EntryPath) (className : String)
    (names : List String) (category : String) : ReceiptClass :=
  match countFiles faults tree root names 0 with
  | (count, false) => classReceipt className .deferred count (some category)
  | (count, true) => classReceipt className .needsRetry count (some "io")

/-- The entries of a tree without links, or nothing when it has one or cannot be read. The fuel
bounds its depth. -/
def countTreeEntries (faults : IoFaults) (tree : FileTree) : Nat → EntryPath → Option Nat
  | 0, _ => none
  | fuel + 1, path =>
      match faults.readDir tree path with
      | .error _ => none
      | .ok names =>
          names.foldlM (fun count name =>
            if faults.failure .readEntry (name :: path) ≠ none then none
            else
              match faults.symlinkMetadata tree (name :: path) with
              | .error _ => none
              | .ok .link => none
              | .ok .directory => (countTreeEntries faults tree fuel (name :: path)).map (count + ·)
              | .ok .file => some (count + 1)) 1

def purgeDirectory (faults : IoFaults) (tree : FileTree) (root : EntryPath) (className : String)
    (name : String) : FileTree × ReceiptClass :=
  let path := name :: root
  match faults.symlinkMetadata tree path with
  | .error .notFound => (tree, removed className 0)
  | .error error =>
      (tree, classReceipt className .needsRetry 0 (some (ioErrorCategory error)))
  | .ok .file | .ok .link => (tree, classReceipt className .needsRetry 1 (some "unsafe_path"))
  | .ok .directory =>
      match countTreeEntries faults tree (tree.depth + 1) path with
      | none => (tree, classReceipt className .needsRetry 1 (some "unsafe_or_unreadable_tree"))
      | some count =>
          match faults.removeDirAll tree path with
          | (after, .ok ()) => (after, removed className count)
          | (after, .error error) => (after, failedReceipt className count (ioErrorCategory error))

/-- The first failure among the entries read, or how many there are of no known name. -/
def countUnknownEntries (faults : IoFaults) (root : EntryPath) (known : List String) :
    List String → Nat → Except String Nat
  | [], count => .ok count
  | name :: names, count =>
      match faults.failure .readEntry (name :: root) with
      | some fault => .error (ioErrorCategory (.fault fault))
      | none =>
          countUnknownEntries faults root known names
            (if name ∈ known then count else count + 1)

def countUnknownDirectoryEntries (faults : IoFaults) (tree : FileTree) (root : EntryPath)
    (known : List String) : Except String Nat :=
  match faults.readDir tree root with
  | .error .notFound => .ok 0
  | .error error => .error (ioErrorCategory error)
  | .ok names => countUnknownEntries faults root known names 0

/-- The programs of an older install, and how many other entries are in their directory. -/
def purgeLegacyProgramFiles (faults : IoFaults) (tree : FileTree) (dataRoot : EntryPath) :
    FileTree × ReceiptClass × Except String Nat :=
  let bin := "bin" :: dataRoot
  match faults.symlinkMetadata tree bin with
  | .error .notFound => (tree, removed "legacy_program_files" 0, .ok 0)
  | .error error =>
      (tree, classReceipt "legacy_program_files" .needsRetry 0 (some (ioErrorCategory error)),
        .error (ioErrorCategory error))
  | .ok .file | .ok .link =>
      (tree, classReceipt "legacy_program_files" .needsRetry 1 (some "unsafe_path"),
        .error "unsafe_path")
  | .ok .directory =>
      let unknown := countUnknownDirectoryEntries faults tree bin legacyProgramNames
      let (after, receipt) := purgeFiles faults tree bin "legacy_program_files" legacyProgramNames
      if unknown = .ok 0 ∧ receipt.outcome = .removed then
        match faults.removeDir after bin with
        | (gone, .ok ()) => (gone, receipt, unknown)
        | (kept, .error .notFound) => (kept, receipt, unknown)
        | (kept, .error error) =>
            (kept, { receipt with
              outcome := .needsRetry
              errorCategory := some (ioErrorCategory error) }, unknown)
      else (after, receipt, unknown)

/-- The entries of no known name in the root and among the old programs. -/
def unknownEntriesReceipt : Except String Nat → Except String Nat → ReceiptClass
  | .ok rootCount, .ok binCount =>
      if rootCount + binCount = 0 then removed "unknown_entries" 0
      else classReceipt "unknown_entries" .deferred (rootCount + binCount)
        (some "unknown_entries")
  | .error category, _ => classReceipt "unknown_entries" .needsRetry 0 (some category)
  | .ok _, .error category => classReceipt "unknown_entries" .needsRetry 0 (some category)

end Classes

section Root

def rootFailureReceipt (category : String) : PrivacyReceipt :=
  .new .uninstallPurge [classReceipt "data_root" .needsRetry 1 (some category)]

/-- The root itself, after all of its classes. -/
def purgeRootDirectory (faults : IoFaults) (tree : FileTree) (dataRoot : EntryPath)
    (incomplete : Bool) : FileTree × ReceiptClass :=
  if incomplete then
    (tree, classReceipt "data_root" .deferred
      (match faults.symlinkMetadata tree dataRoot with | .ok _ => 1 | .error _ => 0)
      (some "class_incomplete"))
  else
    match faults.removeDir tree dataRoot with
    | (after, .ok ()) => (after, removed "data_root" 1)
    | (after, .error .notFound) => (after, removed "data_root" 0)
    | (after, .error error) =>
        (after, classReceipt "data_root" .needsRetry 1 (some (ioErrorCategory error)))

/-- The files that configure the app, unless the database they name is still there. -/
def purgeConfiguration (faults : IoFaults) (tree : FileTree) (dataRoot : EntryPath)
    (hasTestMarker preserveConfiguration : Bool) : FileTree × ReceiptClass :=
  if preserveConfiguration then
    (tree, deferFiles faults tree dataRoot "configuration_and_staging"
      (configurationNames hasTestMarker) "class_incomplete")
  else
    purgeFiles faults tree dataRoot "configuration_and_staging" (configurationNames hasTestMarker)

/-- The classes in their order. The oracle of each is found under its name. -/
def purgeClasses (faults : String → IoFaults) (reading : ConfigReading) (hasTestMarker : Bool)
    (dataRoot : EntryPath) (tree : FileTree) : FileTree × List ReceiptClass :=
  let (tree, database) :=
    purgeFiles (faults "database") tree dataRoot "database" databaseNames
  let (tree, configuredDatabase) :=
    purgeConfiguredDatabase (faults "configured_database") reading tree dataRoot
  let preserveConfiguration := configuredDatabase.outcome.isOpen
  let (tree, configuration) :=
    purgeConfiguration (faults "configuration_and_staging") tree dataRoot hasTestMarker
      preserveConfiguration
  let (tree, sidecars) :=
    purgeFiles (faults "sidecars_and_staging") tree dataRoot "sidecars_and_staging" sidecarNames
  let (tree, uiState) := purgeFiles (faults "ui_state") tree dataRoot "ui_state" uiStateNames
  let (tree, logs) := purgeDirectory (faults "logs") tree dataRoot "logs" "logs"
  let (tree, archives) := purgeDirectory (faults "archives") tree dataRoot "archives" "archives"
  let (tree, receipts) :=
    purgeDirectory (faults "privacy_operation_receipts") tree dataRoot
      "privacy_operation_receipts" receiptDirectory
  let (tree, rollback) :=
    purgeDirectory (faults "rollback_sensitive") tree dataRoot "rollback_sensitive" "rollback"
  let (tree, legacy, binUnknown) :=
    purgeLegacyProgramFiles (faults "legacy_program_files") tree dataRoot
  let externalExports := classReceipt "external_exports" .retained 0 none
  let rootUnknown :=
    countUnknownDirectoryEntries (faults "unknown_entries") tree dataRoot knownNames
  (tree, [database, configuredDatabase, configuration, sidecars, uiState, logs, archives,
    receipts, rollback, legacy, externalExports, unknownEntriesReceipt rootUnknown binUnknown])

/-- The root is looked at before the first class, under no class's name. -/
def purgeDataRoot (faults : String → IoFaults) (reading : ConfigReading) (hasTestMarker : Bool)
    (dataRoot : EntryPath) (tree : FileTree) : FileTree × PrivacyReceipt :=
  match (faults "").symlinkMetadata tree dataRoot with
  | .error (.fault fault) => (tree, rootFailureReceipt (ioErrorCategory (.fault fault)))
  | .ok .file | .ok .link => (tree, rootFailureReceipt "unsafe_path")
  | .ok .directory | .error .notFound =>
      let (tree, classes) := purgeClasses faults reading hasTestMarker dataRoot tree
      let incomplete := classes.any (·.outcome.isOpen)
      let (tree, root) := purgeRootDirectory (faults "data_root") tree dataRoot incomplete
      let receipt := PrivacyReceipt.new .uninstallPurge (classes ++ [root])
      (tree, { receipt with
        status := if incomplete || root.outcome == .needsRetry then .incomplete
          else .completed })

end Root

end Gilbreth.App
