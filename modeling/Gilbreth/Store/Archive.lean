import Gilbreth.Store.Reset

/-!
# Archive and reset

The live database is copied in plaintext to a staging file, stamped, sealed and
verified; the staging set is scrubbed and the sealed file renamed into place
before a row is deleted. The names of the staging files hold a fresh UUID, so
nothing stands under them when the call begins.
-/

set_option autoImplicit false

namespace Gilbreth.Store

open Gilbreth.Core

structure ArchiveProvenance where
  dbUuid : String
  host : Option String
  schemaVersion : Nat
  firstTs : Option I64
  lastTs : Option I64
  createdAt : I64
deriving DecidableEq

inductive StagingFile where
  | main | wal | shm | journal
deriving DecidableEq

/-- The order in which `scrub_archive_plaintext_staging` takes them. -/
def StagingFile.candidates : List StagingFile := [.main, .wal, .shm, .journal]

inductive StagingContent where
  | database (copy : Database)
  | incomplete
  | zeros

inductive ArchiveFile where
  | foreign
  | incomplete
  | sealed (copy : Database) (provenance : ArchiveProvenance)

/-- Everything the call can leave on disk. -/
structure ArchiveFiles where
  archive : Option ArchiveFile
  pending : Option ArchiveFile
  plaintext : StagingFile → Option StagingContent

def ArchiveFiles.before (archive : Option ArchiveFile) : ArchiveFiles :=
  ⟨archive, none, fun _ => none⟩

def ArchiveFiles.PlaintextGone (files : ArchiveFiles) : Prop := ∀ file, files.plaintext file = none

section Scrub

/-- What scrubbing one file meets. -/
structure ScrubReadings where
  metadata : Option String
  linkOrNonFile : Bool
  overwrite : Option String
  remove : Option String

def scrubAndRemoveArchivePlaintextFile (readings : ScrubReadings)
    (content : Option StagingContent) : Option StagingContent × Except String Unit :=
  match readings.metadata, content with
  | some error, content => (content, .error error)
  | none, none => (none, .ok ())
  | none, some content =>
      if readings.linkOrNonFile then
        (some content, .error "refusing to scrub an archive staging link or non-file")
      else
        match readings.overwrite, readings.remove with
        | some error, _ => (some .incomplete, .error error)
        | none, some error => (some .zeros, .error error)
        | none, none => (none, .ok ())

variable (readings : StagingFile → ScrubReadings)

/-- Every candidate is tried; the first error is the one reported. -/
def scrubArchivePlaintextStaging (files : ArchiveFiles) : ArchiveFiles × Except String Unit :=
  let scrubbed := fun file =>
    scrubAndRemoveArchivePlaintextFile (readings file) (files.plaintext file)
  ({ files with plaintext := fun file => (scrubbed file).1 },
    StagingFile.candidates.foldl
      (fun first file =>
        match first with
        | .ok () => (scrubbed file).2
        | .error error => .error error)
      (.ok ()))

end Scrub

section Provenance

/-- `ORDER BY session_id DESC LIMIT 1` among the hosts that are not blank. -/
def Database.latestHost (db : Database) : Option String :=
  ((db.activity.sessions.rows.filter fun row =>
      row.host.any fun host => host.toList.any (· != ' ')).mergeSort fun left right =>
    decide (right.sessionId ≤ left.sessionId)).head?.bind SessionRow.host

def Database.storedTimes (db : Database) : List I64 :=
  db.activity.events.rows.map EventRow.ts ++
    db.activity.recordRoutine.actionEvents.rows.map ActionEventRow.ts

def archiveProvenance (fault : Option StoreError) (envHost : Option String) (schemaVersion : Nat)
    (createdAt : I64) (db : Database) : Except StoreError ArchiveProvenance :=
  match db.readMeta "db_uuid" with
  | none => .error (.sqlite .other "Query returned no rows")
  | some dbUuid =>
      statement fault
        { dbUuid := dbUuid
          host := db.latestHost.or envHost
          schemaVersion := schemaVersion
          firstTs := db.storedTimes.min?
          lastTs := db.storedTimes.max?
          createdAt := createdAt }

/-- `stamp_archive_open_sessions` on the copy, when all its statements run. -/
def stampArchiveOpenSessions (endedAt : I64) (copy : Database) : Except StoreError Database :=
  match repairOpenFocus none copy with
  | .error error => .error error
  | .ok (repaired, _) =>
      let sessions := repaired.activity.sessions.updateWhere (fun row => row.endedAt.isNone)
        (fun row => { row with endedAt := some endedAt }) (Database.ended_session_id endedAt)
      { repaired with activity.sessions := sessions }.finalizeOpenRecordSessions none
        .appShutdown endedAt

end Provenance

/-- The outcome of each step of `archive_activity_to_with_verifier`. A step that
fails may leave an incomplete file. -/
structure ArchiveReadings where
  sealKeyError : Option StoreError
  createDirError : Option String
  extensionIsArchive : Bool
  /-- `exists()` answers `false` for a file it may not look at. -/
  archiveVisible : Bool
  pathIsUtf8 : Bool
  countFault : Option StoreError
  provenanceFault : Option StoreError
  envHost : Option String
  schemaVersion : Nat
  vacuumError : Option StoreError
  stampError : Option StoreError
  leftBySqlite : StagingFile → Bool
  sealError : Option StoreError
  pendingLeftBySeal : Bool
  verify : ArchiveFile → Except String Unit
  scrub : StagingFile → ScrubReadings
  removePending : Bool
  renameError : Option String

structure ArchiveReport where
  archivePath : String
  eventsArchived : Nat
  sessionsArchived : Nat
deriving DecidableEq

section ArchiveActivity

variable (readings : ArchiveReadings) (archivePath : String) (endedAt : I64) (db : Database)

/-- What SQLite can leave in the staging set: the main file with the given
content, and siblings. -/
def stagingSet (main : StagingContent) (file : StagingFile) : Option StagingContent :=
  match file with
  | .main => some main
  | file => if readings.leftBySqlite file then some .incomplete else none

/-- The `prepared` closure: copy, stamp, seal, verify. -/
def prepareArchive (provenance : ArchiveProvenance) (files : ArchiveFiles) :
    ArchiveFiles × Except StoreError Unit :=
  match readings.vacuumError with
  | some error =>
      ({ files with
         plaintext := fun file =>
           if readings.leftBySqlite file then some .incomplete else none },
        .error error)
  | none =>
      match readings.stampError, stampArchiveOpenSessions endedAt db with
      | some error, _ | none, .error error =>
          ({ files with plaintext := stagingSet readings .incomplete }, .error error)
      | none, .ok stamped =>
          let files := { files with plaintext := stagingSet readings (.database stamped) }
          match readings.sealError with
          | some error =>
              ({ files with
                 pending := if readings.pendingLeftBySeal then some .incomplete else none },
                .error error)
          | none =>
              let sealedCopy := ArchiveFile.sealed stamped provenance
              ({ files with pending := some sealedCopy },
                match readings.verify sealedCopy with
                | .ok () => .ok ()
                | .error error => .error (.archiveVerification error))

/-- `remove_archive_temporary_file`, whose failure is only logged. -/
def removeArchiveTemporaryFile (files : ArchiveFiles) : ArchiveFiles :=
  if readings.removePending then { files with pending := none } else files

/-- What follows the preparation: scrub the staging set, then rename. -/
def finishArchive (report : ArchiveReport) (prepared : ArchiveFiles × Except StoreError Unit) :
    ArchiveFiles × Except StoreError ArchiveReport :=
  let scrubbed := scrubArchivePlaintextStaging readings.scrub prepared.1
  match prepared.2, scrubbed.2 with
  | .error error, .error cleanupError =>
      (removeArchiveTemporaryFile readings scrubbed.1,
        .error (.archiveStagingCleanup
          s!"{cleanupError}; archive preparation also failed: {error.toText}"))
  | .error error, .ok () => (removeArchiveTemporaryFile readings scrubbed.1, .error error)
  | .ok (), .error cleanupError =>
      (removeArchiveTemporaryFile readings scrubbed.1,
        .error (.archiveStagingCleanup cleanupError))
  | .ok (), .ok () =>
      match readings.renameError with
      | some error => (removeArchiveTemporaryFile readings scrubbed.1, .error (.io error))
      | none => ({ scrubbed.1 with archive := scrubbed.1.pending, pending := none }, .ok report)

def archiveActivityTo (archive : Option ArchiveFile) :
    ArchiveFiles × Except StoreError ArchiveReport :=
  let files := ArchiveFiles.before archive
  let refuse := fun error => (files, Except.error error)
  match readings.sealKeyError, readings.createDirError with
  | some error, _ => refuse error
  | none, some error => refuse (.io error)
  | none, none =>
      if !readings.extensionIsArchive then
        refuse (.archive
          "invalid archive format: encrypted archive path must use the .gla extension")
      else if archive.isSome && readings.archiveVisible then
        refuse (.io s!"archive already exists: {archivePath}")
      else if !readings.pathIsUtf8 then refuse (.io "archive temporary path is not valid UTF-8")
      else
        match readings.countFault,
            archiveProvenance readings.provenanceFault readings.envHost readings.schemaVersion
              endedAt db with
        | some error, _ | none, .error error => refuse error
        | none, .ok provenance =>
            finishArchive readings
              { archivePath := archivePath
                eventsArchived := db.activity.events.rows.length
                sessionsArchived := db.activity.sessions.rows.length }
              (prepareArchive readings endedAt db provenance files)

end ArchiveActivity

inductive ArchiveResetOutcome where
  | completed | archiveFailed | deleteFailed | deleteCommittedScrubIncomplete
  | replacementSessionFailed
deriving DecidableEq

structure ArchiveResetReport where
  outcome : ArchiveResetOutcome
  archivePath : Option String
  eventsArchived : Nat
  sessionsArchived : Nat
  eventsDeleted : Nat
  sessionsDeleted : Nat
  newSessionId : Option Int
  message : Option String
deriving DecidableEq

namespace ArchiveResetReport

def archiveFailed (archivePath error : String) : ArchiveResetReport :=
  ⟨.archiveFailed, some archivePath, 0, 0, 0, 0, none, some error⟩

def deleteFailed (archive : ArchiveReport) (error : String) : ArchiveResetReport :=
  ⟨.deleteFailed, some archive.archivePath, archive.eventsArchived, archive.sessionsArchived, 0, 0,
    none, some error⟩

def replacementSessionFailed (archive : ArchiveReport) (deleted : Database.SecureDeleteReport)
    (error : String) : ArchiveResetReport :=
  ⟨.replacementSessionFailed, some archive.archivePath, archive.eventsArchived,
    archive.sessionsArchived, deleted.eventsDeleted, deleted.sessionsDeleted, none, some error⟩

def resetCommitted (archive : ArchiveReport) (deleted : Database.SecureDeleteReport)
    (newSessionId : Int) : ArchiveResetReport :=
  ⟨if deleted.scrubError.isSome then .deleteCommittedScrubIncomplete else .completed,
    some archive.archivePath, archive.eventsArchived, archive.sessionsArchived,
    deleted.eventsDeleted, deleted.sessionsDeleted, some newSessionId, deleted.scrubError⟩

end ArchiveResetReport

structure ArchiveResetResult [Externals] where
  state : WriterState
  report : ArchiveResetReport
  files : ArchiveFiles

namespace WriterState

variable [Externals] (config : WriterConfig) (state : WriterState)

/-- A reset that kept everything lifts the erase gate: a late row belongs in the
fresh database. -/
def archiveResetCompleted (readings : DeleteReadings) : WriterState :=
  { state with eraseCompletionBoundaryMs := none }.forgetOpenFocus.reemitActiveSensitiveContexts
    config readings.completedAt readings.reemit

/-- `archive_and_reset` from the delete on. -/
def resetArchived (readings : DeleteReadings) (identity : SessionIdentity)
    (archive : ArchiveReport) : WriterState × ArchiveResetReport :=
  match state.store.secureDeleteActivity readings.deleteFault readings.scrubError with
  | .error error => (state, .deleteFailed archive error.toText)
  | .ok (db, deleted) =>
      match { state with store := db }.createReplacementSession readings.replacement identity with
      | (state, .error error) => (state, .replacementSessionFailed archive deleted error.toText)
      | (state, .ok newSessionId) =>
          (state.archiveResetCompleted config readings,
            .resetCommitted archive deleted newSessionId)

variable [StoreExternals]

def archiveAndReset (settle : SettleReadings) (archiving : ArchiveReadings)
    (readings : DeleteReadings) (archivePath : String) (archive : Option ArchiveFile)
    (identity : SessionIdentity) : ArchiveResetResult :=
  if state.recordState.activeRecordSessionId.isSome then
    ⟨state, .archiveFailed archivePath recordingStillActive, .before archive⟩
  else
    match state.settleForReset config settle with
    | (state, .error error) => ⟨state, .archiveFailed archivePath error.toText, .before archive⟩
    | (state, .ok endedAt) =>
        match archiveActivityTo archiving archivePath endedAt state.store archive with
        | (files, .error error) => ⟨state, .archiveFailed archivePath error.toText, files⟩
        | (files, .ok archived) =>
            let reset := state.resetArchived config readings identity archived
            ⟨reset.1, reset.2, files⟩

end WriterState

end Gilbreth.Store
