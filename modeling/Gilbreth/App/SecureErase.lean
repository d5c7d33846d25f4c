import Mathlib
import Gilbreth.Library.LastSplit

/-!
# Secure erase in the archive directory

An archive is written under a dot name with a fresh UUID and renamed when it is sealed. Secure
erase reads the names back: each is a sealed archive, one of the plaintext era, a file a crash
left behind, or not its own. What the UUID parser accepts is a parameter.
-/

set_option autoImplicit false

namespace Gilbreth.App

section Names

def archiveExtension : String := "gla"

def startsWith (name start : String) : Bool := start.toList.isPrefixOf name.toList

def endsWith (name ending : String) : Bool := ending.toList.isSuffixOf name.toList

/-- `uuid::Uuid::parse_str`, as far as it succeeds. -/
class UuidParser where
  parses : List Char → Bool

/-- `Uuid`'s own text: 32 lower-case hexadecimal digits in five groups. -/
def hyphenated (uuid : BitVec 128) : List Char :=
  let digits := (List.range 32).map fun place =>
    Nat.digitChar (uuid.toNat / 16 ^ (31 - place) % 16)
  digits.take 8 ++ '-' :: (digits.drop 8).take 4 ++ '-' :: (digits.drop 12).take 4 ++
    '-' :: (digits.drop 16).take 4 ++ '-' :: digits.drop 20

/-- The file name of `next_archive_path`; a clock before the epoch reads 0. -/
def nextArchiveName (nowMs : Option Nat) (gitSha : String) : String :=
  "gilbreth-archive-" ++ toString (nowMs.getD 0) ++ "-" ++
    String.ofList (gitSha.toList.take 12) ++ "." ++ archiveExtension

/-- What SQLite puts beside a database. -/
inductive SqliteSidecar where
  | wal | shm | journal
deriving DecidableEq

def SqliteSidecar.suffix : SqliteSidecar → String
  | .wal => "-wal"
  | .shm => "-shm"
  | .journal => "-journal"

/-- The files of one run of `archive_activity_to`. -/
inductive RunFile where
  | plaintext (sidecar : Option SqliteSidecar)
  | pending
  | archive
deriving DecidableEq

/-- What follows the name of the archive and the UUID. -/
def stagingSuffix : Option SqliteSidecar → String
  | none => ".plaintext.db"
  | some sidecar => ".plaintext.db" ++ sidecar.suffix

def RunFile.name (archiveName : String) (unique : BitVec 128) : RunFile → String
  | .plaintext sidecar =>
      "." ++ archiveName ++ "." ++ String.ofList (hyphenated unique) ++ stagingSuffix sidecar
  | .pending => "." ++ archiveName ++ "." ++ String.ofList (hyphenated unique) ++ ".pending"
  | .archive => archiveName

end Names

section Classes

inductive ArchiveEraseClass where
  | sealed
  | plaintextEra
  | staging
deriving DecidableEq

def stagingSuffixes : List String :=
  [".plaintext.db", ".plaintext.db-wal", ".plaintext.db-shm", ".plaintext.db-journal", ".pending"]

variable [UuidParser]

def isGeneratedArchiveStagingName (name : String) : Bool :=
  let stem := stagingSuffixes.findSome? fun suffix =>
    LastSplit.stripSuffix name.toList suffix.toList
  match stem.bind (LastSplit.rsplitOnce '.') with
  | none => false
  | some (archiveName, unique) =>
      ".gilbreth-archive-".toList.isPrefixOf archiveName &&
        ("." ++ archiveExtension).toList.isSuffixOf archiveName && UuidParser.parses unique

def archiveEraseClass (name : String) : Option ArchiveEraseClass :=
  if startsWith name "gilbreth-archive-" && endsWith name ("." ++ archiveExtension) then
    some .sealed
  else if startsWith name "gilbreth-archive-" && endsWith name ".db" then some .plaintextEra
  else if isGeneratedArchiveStagingName name then some .staging
  else none

def RunFile.eraseClass : RunFile → ArchiveEraseClass
  | .archive => .sealed
  | _ => .staging

end Classes

section Run

/-- What a run does to the names in the archive directory. -/
inductive DirectoryEffect where
  | write (file : RunFile)
  | remove (file : RunFile)
  | rename (source target : RunFile)

def DirectoryEffect.apply (name : RunFile → String) (directory : List String) :
    DirectoryEffect → List String
  | .write file => if name file ∈ directory then directory else name file :: directory
  | .remove file => directory.filter fun other => other != name file
  | .rename source target =>
      if name source ∈ directory then
        name target :: directory.filter fun other => other != name source && other != name target
      else directory

inductive SealOutcome where
  | notCreated
  | failed (removed : Bool)
  | completed

/-- The outcome of each step of `archive_activity_to_with_verifier`. -/
structure ArchiveRun where
  /-- By a check before the first file. -/
  refused : Bool
  /-- The files SQLite writes and deletes while it copies and stamps. -/
  copying : List (Option SqliteSidecar × Bool)
  copied : Bool
  sealing : SealOutcome
  verified : Bool
  scrubbed : Option SqliteSidecar → Bool
  pendingRemoved : Bool
  renamed : Bool

/-- `scrub_archive_plaintext_staging`. -/
def ArchiveRun.scrub (run : ArchiveRun) : List DirectoryEffect :=
  ([none, some .wal, some .shm, some .journal].filter run.scrubbed).map fun sidecar =>
    .remove (.plaintext sidecar)

/-- `remove_archive_temporary_file`. -/
def ArchiveRun.removePending (run : ArchiveRun) : List DirectoryEffect :=
  if run.pendingRemoved then [.remove .pending] else []

/-- The `prepared` closure, and whether it succeeds. -/
def ArchiveRun.prepare (run : ArchiveRun) : List DirectoryEffect × Bool :=
  let copying := run.copying.map fun touched =>
    if touched.2 then DirectoryEffect.write (.plaintext touched.1)
    else .remove (.plaintext touched.1)
  if !run.copied then (copying, false)
  else
    match run.sealing with
    | .notCreated => (copying, false)
    | .failed removed =>
        (copying ++ [.write .pending] ++ (if removed then [.remove .pending] else []), false)
    | .completed => (copying ++ [.write .pending], run.verified)

/-- `archive_activity_to`. A crash leaves what some of its first effects have done. -/
def ArchiveRun.effects (run : ArchiveRun) : List DirectoryEffect :=
  if run.refused then []
  else
    let scrubbedAll := [none, some .wal, some .shm, some .journal].all run.scrubbed
    let ending :=
      if !run.prepare.2 || !scrubbedAll then run.removePending
      else if run.renamed then [.rename .pending .archive]
      else run.removePending
    run.prepare.1 ++ run.scrub ++ ending

/-- The directory after a crash that comes after so many effects. -/
def ArchiveRun.crashed (run : ArchiveRun) (name : RunFile → String) (directory : List String)
    (count : Nat) : List String :=
  (run.effects.take count).foldl (DirectoryEffect.apply name) directory

end Run

section Receipt

inductive ReceiptOutcome where
  | copied | removed | retained | deferred | needsRetry
deriving DecidableEq

structure ReceiptClass where
  className : String
  outcome : ReceiptOutcome
  itemCount : Nat
  errorCategory : Option String
deriving DecidableEq

namespace ReceiptClass

def new (className : String) (outcome : ReceiptOutcome) : ReceiptClass :=
  ⟨className, outcome, 0, none⟩

def withCount (receipt : ReceiptClass) (count : Nat) : ReceiptClass :=
  { receipt with itemCount := count }

def withErrorCategory (receipt : ReceiptClass) (category : String) : ReceiptClass :=
  { receipt with errorCategory := some category }

end ReceiptClass

/-- One item of the directory: its name and whether scrubbing it succeeds. -/
inductive ArchiveEntry where
  | unreadable
  | named (name : String) (scrubbed : Bool)

inductive ArchiveDirectory where
  | missing
  | unreadable (error : String)
  | listed (entries : List ArchiveEntry)

structure EraseTally where
  sealedRemoved : Nat
  sealedRetry : Nat
  plaintextRemoved : Nat
  plaintextRetry : Nat
  stagingRemoved : Nat
  stagingRetry : Nat
  retained : Nat
  inventoryRetry : Nat

namespace EraseTally

def zero : EraseTally := ⟨0, 0, 0, 0, 0, 0, 0, 0⟩

def count [UuidParser] (tally : EraseTally) : ArchiveEntry → EraseTally
  | .unreadable => { tally with inventoryRetry := tally.inventoryRetry + 1 }
  | .named name scrubbed =>
      match archiveEraseClass name, scrubbed with
      | none, _ => { tally with retained := tally.retained + 1 }
      | some .sealed, true => { tally with sealedRemoved := tally.sealedRemoved + 1 }
      | some .plaintextEra, true => { tally with plaintextRemoved := tally.plaintextRemoved + 1 }
      | some .staging, true => { tally with stagingRemoved := tally.stagingRemoved + 1 }
      | some .sealed, false => { tally with sealedRetry := tally.sealedRetry + 1 }
      | some .plaintextEra, false => { tally with plaintextRetry := tally.plaintextRetry + 1 }
      | some .staging, false => { tally with stagingRetry := tally.stagingRetry + 1 }

/-- A class that is only reported when it has items. -/
def retryClass (className category : String) (count : Nat) : List ReceiptClass :=
  if 0 < count then
    [((ReceiptClass.new className .needsRetry).withCount count).withErrorCategory category]
  else []

def classes (tally : EraseTally) : List ReceiptClass :=
  [(ReceiptClass.new "sealed_archives" .removed).withCount tally.sealedRemoved,
    (ReceiptClass.new "plaintext_era_archives" .removed).withCount tally.plaintextRemoved,
    (ReceiptClass.new "archive_staging_artifacts" .removed).withCount tally.stagingRemoved,
    (ReceiptClass.new "unrecognized_archive_directory_entries" .retained).withCount
      tally.retained] ++
    retryClass "sealed_archives" "remove_failed" tally.sealedRetry ++
    retryClass "plaintext_era_archives" "remove_failed" tally.plaintextRetry ++
    retryClass "archive_staging_artifacts" "remove_failed" tally.stagingRetry ++
    retryClass "archive_directory_entries" "inventory_failed" tally.inventoryRetry

def retries (tally : EraseTally) : Bool :=
  decide (0 < tally.sealedRetry + tally.plaintextRetry + tally.stagingRetry +
    tally.inventoryRetry)

def note (tally : EraseTally) : String :=
  "Archive removal needs retry: " ++ toString tally.sealedRetry ++ " sealed, " ++
    toString tally.plaintextRetry ++ " plaintext-era, " ++ toString tally.stagingRetry ++
    " staging, and " ++ toString tally.inventoryRetry ++
    " unreadable archive-directory item(s) could not be completed."

end EraseTally

/-- The receipt classes, the notes and whether a retry is needed. -/
structure ArchiveErasure where
  classes : List ReceiptClass
  notes : List String
  retry : Bool
deriving DecidableEq

def removeArchivesForSecureErase [UuidParser] : ArchiveDirectory → ArchiveErasure
  | .missing =>
      ⟨[.new "sealed_archives" .removed, .new "plaintext_era_archives" .removed,
        .new "archive_staging_artifacts" .removed], [], false⟩
  | .unreadable error =>
      ⟨[(ReceiptClass.new "sealed_archives" .needsRetry).withErrorCategory
          "archive_directory_unreadable",
        (ReceiptClass.new "plaintext_era_archives" .needsRetry).withErrorCategory
          "archive_directory_unreadable",
        (ReceiptClass.new "archive_staging_artifacts" .needsRetry).withErrorCategory
          "archive_directory_unreadable"],
        ["Archive removal needs retry: " ++ error], true⟩
  | .listed entries =>
      let tally := entries.foldl EraseTally.count .zero
      ⟨tally.classes, if tally.retries then [tally.note] else [], tally.retries⟩

end Receipt

end Gilbreth.App
