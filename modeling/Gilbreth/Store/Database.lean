import Gilbreth.Library.KeyedTable
import Gilbreth.Store.Rows

/-!
# Database states

The migrated store, and the database as the dashboard may find it, which can
predate the Record Routine tables and the deletion audit. Primary keys are part
of the tables; the foreign keys are a predicate, since deletes go through states
that must be shown to keep them.
-/

set_option autoImplicit false

namespace Gilbreth.Store

open Gilbreth.Core

/-- The four tables of migration 005, which appear together. -/
structure RecordRoutineTables where
  recordRequests : Table RecordRequestRow.requestId
  recordSessions : Table RecordSessionRow.recordSessionId
  selectorPaths : Table SelectorPathRow.selectorId
  actionEvents : Table ActionEventRow.position

def RecordRoutineTables.empty : RecordRoutineTables := ⟨.empty, .empty, .empty, .empty⟩

/-- The six activity tables. -/
structure Activity where
  sessions : Table SessionRow.sessionId
  events : Table EventRow.position
  recordRoutine : RecordRoutineTables

def Activity.empty : Activity := ⟨.empty, .empty, .empty⟩

/-- `sqlite_sequence`: the largest identifier an `AUTOINCREMENT` table ever
gave, for the tables whose identifiers are read. -/
structure SqliteSequence where
  recordRequests : Int
  recordSessions : Int
  selectorPaths : Int
deriving DecidableEq

def SqliteSequence.reset : SqliteSequence := ⟨0, 0, 0⟩

/-- The database behind a `GilbrethStore`, migrated to the latest schema. -/
structure Database where
  activity : Activity
  openFocus : Option OpenFocusRow
  deletionAudit : List DeletionAuditRow
  metaRows : Table MetaRow.key
  sqliteSequence : SqliteSequence

def Database.empty : Database := ⟨.empty, none, [], .empty, .reset⟩

/-- The database behind a dashboard connection, at whatever migration it is. -/
structure DashboardDatabase where
  sessions : Table SessionRow.sessionId
  events : Table EventRow.position
  recordRoutine : Option RecordRoutineTables
  deletionAudit : Option (List DeletionAuditRow)

/-- The activity tables after the missing migrations have created them empty. -/
def DashboardDatabase.activity (db : DashboardDatabase) : Activity :=
  ⟨db.sessions, db.events, db.recordRoutine.getD .empty⟩

/-- The references the schema declares between the activity tables. -/
structure ForeignKeys (activity : Activity) : Prop where
  eventSession : ∀ event ∈ activity.events.rows,
    ∃ session ∈ activity.sessions.rows, session.sessionId = event.sessionId
  recordSessionSession : ∀ recording ∈ activity.recordRoutine.recordSessions.rows,
    ∃ session ∈ activity.sessions.rows, session.sessionId = recording.sessionId
  actionSession : ∀ action ∈ activity.recordRoutine.actionEvents.rows,
    ∃ session ∈ activity.sessions.rows, session.sessionId = action.sessionId
  actionSelector : ∀ action ∈ activity.recordRoutine.actionEvents.rows,
    ∀ selectorId ∈ action.selectorId,
      ∃ path ∈ activity.recordRoutine.selectorPaths.rows, path.selectorId = selectorId
  actionRecordSession : ∀ action ∈ activity.recordRoutine.actionEvents.rows,
    ∃ recording ∈ activity.recordRoutine.recordSessions.rows,
      recording.recordSessionId = action.recordSessionId

theorem ForeignKeys.empty : ForeignKeys .empty := by
  constructor <;> exact fun _ none => absurd none List.not_mem_nil

end Gilbreth.Store
