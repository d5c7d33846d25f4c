import Gilbreth.Store.RecordRoutine

/-!
# Writing batches

A batch is inserted in one transaction that skips the rows the schema refuses
and is given up, without effect, on a busy or interrupted database. A given-up
batch is tried again a bounded number of times and then dropped.
-/

set_option autoImplicit false

namespace Gilbreth.Store

open Gilbreth.Core

structure InsertReport where
  inserted : Nat
  skipped : Nat
deriving DecidableEq

def InsertReport.skip (report : InsertReport) : InsertReport :=
  { report with skipped := report.skipped + 1 }

def InsertReport.insert (report : InsertReport) : InsertReport :=
  { report with inserted := report.inserted + 1 }

/-- What one attempt at a batch meets: on beginning, on the row at a position
and on committing. -/
structure BatchFaults (Fault : Type) where
  begin : Option StoreError
  row : Nat → Option Fault
  commit : Option StoreError

def BatchFaults.clear {Fault : Type} : BatchFaults Fault := ⟨none, fun _ => none, none⟩

section Transaction

variable {Row Fault : Type}

/-- The loop of a batch insert: row by row, given up on the first error that is
not a skip. -/
def insertRows (insertRow : Nat → Row → Database × InsertReport →
    Except StoreError (Database × InsertReport)) :
    Nat → List Row → Database × InsertReport → Except StoreError (Database × InsertReport)
  | _, [], progress => .ok progress
  | position, row :: rest, progress =>
      match insertRow position row progress with
      | .error error => .error error
      | .ok progress => insertRows insertRow (position + 1) rest progress

def insertBatch (insertRow : (Nat → Option Fault) → Nat → Row → Database × InsertReport →
    Except StoreError (Database × InsertReport))
    (faults : BatchFaults Fault) (rows : List Row) (db : Database) :
    Except StoreError (Database × InsertReport) :=
  if rows.isEmpty then .ok (db, ⟨0, 0⟩)
  else
    match faults.begin with
    | some error => .error error
    | none =>
        match insertRows (insertRow faults.row) 0 rows (db, ⟨0, 0⟩) with
        | .error error => .error error
        | .ok done => statement faults.commit done

end Transaction

section Events

/-- `INSERT_EVENT_SQL` against the references and the uniqueness of the table. -/
def Database.insertEvent (db : Database) (row : EventRow) : Option Database :=
  if row.sessionId ∈ db.sessionIds then
    (db.activity.events.insert? row).map fun events => { db with activity.events := events }
  else none

def insertEventRow (fault : Nat → Option StoreError) (position : Nat) (event : EventEnvelope)
    (progress : Database × InsertReport) : Except StoreError (Database × InsertReport) :=
  match fault position with
  | some error =>
      if error.isSqliteBusyOrLocked || error.isSqliteInterrupted then .error error
      else .ok (progress.1, progress.2.skip)
  | none =>
      match progress.1.insertEvent (.fromEnvelope event) with
      | some db => .ok (db, progress.2.insert)
      | none => .ok (progress.1, progress.2.skip)

def insertEvents : BatchFaults StoreError → List EventEnvelope → Database →
    Except StoreError (Database × InsertReport) :=
  insertBatch insertEventRow

end Events

section Actions

variable [Externals] [StoreExternals]

/-- `push_selector_escaped`. -/
def selectorEscaped (value : String) : String :=
  String.ofList (value.toList.flatMap fun char =>
    if char = '\\' then ['\\', '\\']
    else if char = '\n' then ['\\', 'n']
    else if char = '\r' then ['\\', 'r']
    else if char = '|' then ['\\', '|']
    else [char])

def serializeSelectorHop (index : Nat) (hop : SelectorPathHop) : String :=
  s!"\nhop={index}|control_type={hop.controlType.toInt}|automation_id=" ++
    selectorEscaped hop.automationId ++ "|class_name=" ++
    selectorEscaped (Externals.toLowercase hop.className) ++ s!"|ordinal={hop.ordinal.toNat}"

def serializeSelectorPathV1 (path : SelectorPath) : String :=
  "gilbreth.selector_path.v1\nbackend=" ++ selectorEscaped path.backend ++
    String.join (path.hops.mapIdx serializeSelectorHop)

def selectorPathHashV1 (path : SelectorPath) : String :=
  StoreExternals.sha256Hex (serializeSelectorPathV1 path)

/-- The hops pass the value-free guard: their keys are fixed and allowed, so
what it looks at is the two identifiers. The payload JSON has neither. -/
def hopsValueFree (hops : List SelectorPathHop) : Bool :=
  !hops.any fun hop => unboundedIdentifier hop.automationId || unboundedIdentifier hop.className

/-- Intern a selector by its hash and mark that it has a name: the identifier,
and the database left. An existing row keeps everything else it has. -/
def Database.internSelector (db : Database) (action : StampedAction) : Int × Database :=
  let routine := db.activity.recordRoutine
  let pathHash := selectorPathHashV1 action.action.selectorPath
  match routine.selectorPaths.rows.find? fun row => row.pathHash == pathHash with
  | some row =>
      (row.selectorId,
        if action.hasName then
          { db with
            activity.recordRoutine.selectorPaths := routine.selectorPaths.updateWhere
              (fun row => row.pathHash == pathHash) (fun row => { row with hasName := true })
              fun _ => rfl }
        else db)
  | none =>
      let row : SelectorPathRow :=
        { selectorId := Table.nextId db.sqliteSequence.selectorPaths
            (routine.selectorPaths.rows.map SelectorPathRow.selectorId)
          pathHash := pathHash
          framework := action.framework
          depth := action.depth
          hops := action.action.selectorPath.hops
          leafRect := action.leafRect
          hasName := action.hasName
          createdTs := action.tsUnixMs }
      (row.selectorId,
        { db with
          activity.recordRoutine.selectorPaths :=
            routine.selectorPaths.append row (Table.next_id_fresh _ _)
          sqliteSequence.selectorPaths := row.selectorId })

def actionRow (action : StampedAction) (selectorId : Int) : ActionEventRow where
  sessionId := action.sessionId
  seq := u64ToI64 action.seq
  ts := action.tsUnixMs
  actionType := action.action.actionType
  patternAction := action.patternAction
  selectorId := some selectorId
  trustBasis := action.action.trustBasis
  exe := action.exe.map exeBasename
  isSensitive := action.isSensitive
  recordSessionId := action.recordSessionId
  frameworkClass := action.frameworkClass
  payload := action.payload

/-- The insert and the count of its recording. -/
def Database.insertAction (db : Database) (row : ActionEventRow) : Option Database :=
  if row.sessionId ∈ db.sessionIds then
    (db.activity.recordRoutine.actionEvents.insert? row).map fun actionEvents =>
      { db with
        activity.recordRoutine.actionEvents := actionEvents
        activity.recordRoutine.recordSessions :=
          db.activity.recordRoutine.recordSessions.updateWhere
            (fun recording => recording.recordSessionId == row.recordSessionId)
            (fun recording => { recording with actionCount := recording.actionCount + 1 })
            fun _ => rfl }
  else none

def Database.recordingIsOpen (db : Database) (recordSessionId : Int) : Bool :=
  (db.activity.recordRoutine.recordSessions.rows.find? fun row =>
    row.recordSessionId == recordSessionId).any fun row => row.endedTs.isNone

/-- A fault of an action is met by one of its statements: reading the recording,
interning or counting gives the batch up whatever the error, an insert only when
the database is busy or interrupted. `interned` tells whether the selector was
interned before the insert met it. -/
structure ActionFault where
  error : StoreError
  fatal : Bool
  interned : Bool

def insertActionRow (fault : Nat → Option ActionFault) (position : Nat) (action : StampedAction)
    (progress : Database × InsertReport) : Except StoreError (Database × InsertReport) :=
  if !progress.1.recordingIsOpen action.recordSessionId then .ok (progress.1, progress.2.skip)
  else if !hopsValueFree action.action.selectorPath.hops then .ok (progress.1, progress.2.skip)
  else
    let selector := progress.1.internSelector action
    match fault position with
    | some met =>
        if met.fatal || met.error.isSqliteBusyOrLocked || met.error.isSqliteInterrupted then
          .error met.error
        else .ok (if met.interned then selector.2 else progress.1, progress.2.skip)
    | none =>
        match selector.2.insertAction (actionRow action selector.1) with
        | some db => .ok (db, progress.2.insert)
        | none => .ok (selector.2, progress.2.skip)

def insertActions : BatchFaults ActionFault → List StampedAction → Database →
    Except StoreError (Database × InsertReport) :=
  insertBatch insertActionRow

end Actions

section Flush

/-- What one attempt reads beside its faults: the stop token when an interrupt
is looked at, and whether the pause before a retry ran to its end. -/
structure AttemptReadings (Fault : Type) where
  faults : BatchFaults Fault
  stopCancelled : Bool
  slept : Bool

def AttemptReadings.clear {Fault : Type} : AttemptReadings Fault := ⟨.clear, false, true⟩

def sqliteBusyRetryAttempts : Nat := 12

variable {Row Fault : Type}

/-- The error is one the loop tries again after. -/
def AttemptReadings.retries (readings : AttemptReadings Fault) (error : StoreError) : Bool :=
  (error.isSqliteBusyOrLocked && readings.slept) ||
    (readings.stopCancelled && error.isSqliteInterrupted)

variable (insert : BatchFaults Fault → List Row → Database →
    Except StoreError (Database × InsertReport))
  (readings : Nat → AttemptReadings Fault) (batch : List Row) (db : Database)

/-- `insert_batch_with_retry` after `attempt` retries, with `budget` left. -/
def insertBatchWithRetry (attempt : Nat) : Nat → Except StoreError (Database × InsertReport)
  | 0 => insert (readings attempt).faults batch db
  | budget + 1 =>
      match insert (readings attempt).faults batch db with
      | .ok done => .ok done
      | .error error =>
          if (readings attempt).retries error then insertBatchWithRetry (attempt + 1) budget
          else .error error

/-- `flush_batch_with_insert_and_stop` but for the clearing: a batch that could
not be committed is dropped and counted as skipped. -/
def flushRows : Database × InsertReport :=
  if batch.isEmpty then (db, ⟨0, 0⟩)
  else
    match insertBatchWithRetry insert readings batch db 0 sqliteBusyRetryAttempts with
    | .ok done => done
    | .error _ => (db, ⟨0, batch.length⟩)

end Flush

section Keeps

variable {Row Fault : Type}
  {insertRow : (Nat → Option Fault) → Nat → Row → Database × InsertReport →
    Except StoreError (Database × InsertReport)}
  {holds : Database → Prop} {batch : List Row}

/-- Every row of the batch keeps the property, inserted or skipped. -/
def RowsKeep (insertRow : (Nat → Option Fault) → Nat → Row → Database × InsertReport →
    Except StoreError (Database × InsertReport)) (holds : Database → Prop) (batch : List Row) :
    Prop :=
  ∀ row ∈ batch, ∀ fault position progress after, holds progress.1 →
    insertRow fault position row progress = .ok after → holds after.1

theorem insert_rows_keeps (kept : RowsKeep insertRow holds batch) (fault : Nat → Option Fault)
    {position : Nat} {progress after : Database × InsertReport} (start : holds progress.1)
    (inserted : insertRows (insertRow fault) position batch progress = .ok after) :
    holds after.1 := by
  induction batch generalizing position progress with
  | nil => exact Except.ok.inj inserted ▸ start
  | cons row rest induction =>
      rw [insertRows] at inserted
      cases first : insertRow fault position row progress with
      | error error =>
          rw [first] at inserted
          cases inserted
      | ok next =>
          rw [first] at inserted
          have kept_next := kept row List.mem_cons_self fault position progress next start first
          exact induction (fun later member => kept later (List.mem_cons_of_mem _ member))
            kept_next inserted

theorem insert_batch_keeps (kept : RowsKeep insertRow holds batch) {faults : BatchFaults Fault}
    {db : Database} {after : Database × InsertReport} (start : holds db)
    (inserted : insertBatch insertRow faults batch db = .ok after) : holds after.1 := by
  unfold insertBatch at inserted
  split_ifs at inserted
  · exact Except.ok.inj inserted ▸ start
  · cases begun : faults.begin with
    | some error =>
        rw [begun] at inserted
        cases inserted
    | none =>
        rw [begun] at inserted
        dsimp only at inserted
        split at inserted
        · cases inserted
        · rename_i done looped
          obtain ⟨_, rfl⟩ := statement_ok inserted
          exact insert_rows_keeps kept faults.row start looped

theorem insert_with_retry_keeps (kept : RowsKeep insertRow holds batch)
    {readings : Nat → AttemptReadings Fault} {db : Database} {attempt budget : Nat}
    {after : Database × InsertReport} (start : holds db)
    (inserted : insertBatchWithRetry (insertBatch insertRow) readings batch db attempt budget =
      .ok after) : holds after.1 := by
  induction budget generalizing attempt with
  | zero => exact insert_batch_keeps kept start inserted
  | succ budget induction =>
      rw [insertBatchWithRetry] at inserted
      split at inserted
      · rename_i done committed
        exact Except.ok.inj inserted ▸ insert_batch_keeps kept start committed
      · split_ifs at inserted
        exact induction inserted

theorem flush_rows_keeps (kept : RowsKeep insertRow holds batch)
    (readings : Nat → AttemptReadings Fault) {db : Database} (start : holds db) :
    holds (flushRows (insertBatch insertRow) readings batch db).1 := by
  unfold flushRows
  split_ifs
  · exact start
  · split
    · rename_i done committed
      exact insert_with_retry_keeps kept start committed
    · exact start

end Keeps

section Frames

/-- The only difference is event rows of the batch. -/
structure EventsAdded (batch : List EventEnvelope) (before after : Database) : Prop where
  openFocus : after.openFocus = before.openFocus
  sessions : after.activity.sessions = before.activity.sessions
  recordRoutine : after.activity.recordRoutine = before.activity.recordRoutine
  events : ∀ row ∈ after.activity.events.rows,
    row ∈ before.activity.events.rows ∨ ∃ event ∈ batch, row = .fromEnvelope event

theorem flush_events_added (readings : Nat → AttemptReadings StoreError)
    (batch : List EventEnvelope) (db : Database) :
    EventsAdded batch db (flushRows insertEvents readings batch db).1 := by
  refine flush_rows_keeps ?_ readings ⟨rfl, rfl, rfl, fun row stored => Or.inl stored⟩
  intro event member fault position progress after held inserted
  unfold insertEventRow at inserted
  split at inserted
  · split_ifs at inserted
    exact Except.ok.inj inserted ▸ held
  · split at inserted
    · rename_i next added
      rw [← Except.ok.inj inserted]
      unfold Database.insertEvent at added
      split_ifs at added
      obtain ⟨events, fits, rfl⟩ := Option.map_eq_some_iff.mp added
      refine ⟨held.openFocus, held.sessions, held.recordRoutine, fun row stored => ?_⟩
      change row ∈ events.rows at stored
      rw [Table.insert_some_rows fits] at stored
      rcases List.mem_append.mp stored with old | new
      · exact held.events row old
      · exact Or.inr ⟨event, member, List.mem_singleton.mp new⟩
    · exact Except.ok.inj inserted ▸ held

variable [Externals] [StoreExternals]

theorem intern_selector_keeps (db : Database) (action : StampedAction) :
    (db.internSelector action).2.openFocus = db.openFocus ∧
      (db.internSelector action).2.activity.events = db.activity.events := by
  unfold Database.internSelector
  dsimp only
  split
  · split_ifs <;> exact ⟨rfl, rfl⟩
  · exact ⟨rfl, rfl⟩

theorem flush_actions_keeps (readings : Nat → AttemptReadings ActionFault)
    (batch : List StampedAction) (db : Database) :
    (flushRows insertActions readings batch db).1.openFocus = db.openFocus ∧
      (flushRows insertActions readings batch db).1.activity.events = db.activity.events := by
  have kept : RowsKeep insertActionRow (fun after => after.openFocus = db.openFocus ∧
      after.activity.events = db.activity.events) batch := by
    intro action member fault position progress after held inserted
    have interned := intern_selector_keeps progress.1 action
    have held_interned := And.intro (interned.1.trans held.1) (interned.2.trans held.2)
    unfold insertActionRow at inserted
    dsimp only at inserted
    split_ifs at inserted
    · exact Except.ok.inj inserted ▸ held
    · exact Except.ok.inj inserted ▸ held
    · split at inserted
      · split_ifs at inserted
        · exact Except.ok.inj inserted ▸ held_interned
        · exact Except.ok.inj inserted ▸ held
      · split at inserted
        · rename_i next added
          rw [← Except.ok.inj inserted]
          unfold Database.insertAction at added
          split_ifs at added
          obtain ⟨actions, _, rfl⟩ := Option.map_eq_some_iff.mp added
          exact held_interned
        · exact Except.ok.inj inserted ▸ held_interned
  exact flush_rows_keeps kept readings ⟨rfl, rfl⟩

end Frames

end Gilbreth.Store
