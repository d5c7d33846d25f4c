import Gilbreth.Store.Database

/-!
# The store's statements

Each statement or transaction is atomic: it either fails, as the environment
decides, and changes nothing, or it commits. A failure is the `fault` argument;
`none` lets the statement run.
-/

set_option autoImplicit false

namespace Gilbreth.Store

open Gilbreth.Core

inductive SqliteErrorCode where
  | databaseBusy | databaseLocked | operationInterrupted | other
deriving DecidableEq

/-- Texts a library writes are carried along as they are. -/
inductive StoreError where
  | sqlite (code : SqliteErrorCode) (text : String)
  | json (text : String)
  | io (text : String)
  | archive (text : String)
  | archiveVerification (text : String)
  | archiveStagingCleanup (text : String)
  | recordRoutine (text : String)
deriving DecidableEq

namespace StoreError

def toText : StoreError → String
  | sqlite _ text => "sqlite error: " ++ text
  | json text => "json serialization error: " ++ text
  | io text => "io error: " ++ text
  | archive text => text
  | archiveVerification text => "archive failed verification; nothing was reset: " ++ text
  | archiveStagingCleanup text =>
      "archive plaintext staging cleanup failed; nothing was reset: " ++ text
  | recordRoutine text => "record routine error: " ++ text

def isSqliteBusyOrLocked : StoreError → Bool
  | sqlite .databaseBusy _ | sqlite .databaseLocked _ => true
  | _ => false

def isSqliteInterrupted : StoreError → Bool
  | sqlite .operationInterrupted _ => true
  | _ => false

end StoreError

def statement {Result : Type} (fault : Option StoreError) (result : Result) :
    Except StoreError Result :=
  fault.elim (.ok result) .error

theorem statement_ok {Result : Type} {fault : Option StoreError} {result after : Result}
    (succeeded : statement fault result = .ok after) : fault = none ∧ after = result := by
  cases fault with
  | none => exact ⟨rfl, (Except.ok.inj succeeded).symm⟩
  | some error => cases succeeded

structure SessionIdentity where
  appVersion : String
  host : Option String
  gitSha : Option String
  runLabel : Option String
deriving DecidableEq

/-- `identity_with_default_run_label`. -/
def SessionIdentity.withDefaultRunLabel (identity : SessionIdentity) (startedAt : I64) :
    SessionIdentity :=
  { identity with runLabel := identity.runLabel.or (some s!"session-{startedAt.val}") }

namespace Database

variable (fault : Option StoreError) (db : Database)

section Sessions

def sessionIds : List Int := db.activity.sessions.rows.map SessionRow.sessionId

/-- The session table is not `AUTOINCREMENT`, so a new identifier is only above
those in use. -/
def newSessionId : Int := Table.nextId 0 db.sessionIds

def createSessionWithIdentity (startedAt : I64) (identity : SessionIdentity) :
    Except StoreError (Database × Int) :=
  let row : SessionRow :=
    { sessionId := db.newSessionId
      startedAt := startedAt
      endedAt := none
      host := identity.host
      appVersion := some identity.appVersion
      gitSha := identity.gitSha
      runLabel := identity.runLabel }
  statement fault
    ({ db with activity.sessions := db.activity.sessions.append row (Table.next_id_fresh _ _) },
      row.sessionId)

theorem ended_session_id (endedAt : I64) (row : SessionRow) :
    ({ row with endedAt := some endedAt } : SessionRow).sessionId = row.sessionId := rfl

def endSession (sessionId : Int) (endedAt : I64) : Except StoreError Database :=
  statement fault
    { db with
      activity.sessions := db.activity.sessions.updateWhere (fun row => row.sessionId == sessionId)
        (fun row => { row with endedAt := some endedAt }) (ended_session_id endedAt) }

end Sessions

section OpenFocus

def upsertOpenFocus (row : OpenFocusRow) : Except StoreError Database :=
  statement fault { db with openFocus := some row }

def deleteOpenFocus : Except StoreError Database := statement fault { db with openFocus := none }

end OpenFocus

section Meta

def readMeta (key : String) : Option String :=
  (db.metaRows.rows.find? fun row => row.key == key).map MetaRow.value

/-- `INSERT … ON CONFLICT(key) DO UPDATE`, and `INSERT OR REPLACE` likewise. -/
def upsertMeta (key value : String) : Except StoreError Database :=
  statement fault
    { db with
      metaRows :=
        if fresh : key ∈ db.metaRows.rows.map MetaRow.key then
          db.metaRows.updateWhere (fun row => row.key == key)
            (fun row => { row with value := value }) fun _ => rfl
        else db.metaRows.append ⟨key, value⟩ fresh }

/-- Two statements outside a transaction: the second can fail on its own. -/
def mintMetaIdentity (second : Option StoreError) (createdAt : I64) (dbUuid : String) :
    Database × Except StoreError Unit :=
  match db.upsertMeta fault "db_uuid" dbUuid with
  | .error error => (db, .error error)
  | .ok named =>
      match named.upsertMeta second "created_at" s!"{createdAt.val}" with
      | .error error => (named, .error error)
      | .ok dated => (dated, .ok ())

theorem mint_meta_identity_activity (second : Option StoreError) (createdAt : I64)
    (dbUuid : String) :
    (db.mintMetaIdentity fault second createdAt dbUuid).1.activity = db.activity := by
  unfold mintMetaIdentity
  split
  · rfl
  · rename_i named minted
    obtain ⟨_, rfl⟩ := statement_ok minted
    split
    · rfl
    · rename_i dated stamped
      obtain ⟨_, rfl⟩ := statement_ok stamped
      rfl

end Meta

structure SecureDeleteReport where
  eventsDeleted : Nat
  sessionsDeleted : Nat
  scrubError : Option String
deriving DecidableEq

/-- Every activity table, the open focus, the audit and the metadata are emptied
in one transaction; the checkpoints and the `VACUUM` after it only report. -/
def secureDeleteActivity (scrubError : Option String) :
    Except StoreError (Database × SecureDeleteReport) :=
  statement fault
    ({ activity := .empty
       openFocus := none
       deletionAudit := []
       metaRows := .empty
       sqliteSequence := .reset },
      { eventsDeleted := db.activity.events.rows.length
        sessionsDeleted := db.activity.sessions.rows.length
        scrubError := scrubError })

end Database

end Gilbreth.Store
