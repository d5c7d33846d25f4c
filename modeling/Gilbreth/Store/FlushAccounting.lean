import Gilbreth.Library.BoundedRetry
import Gilbreth.Library.Machine
import Gilbreth.Store.Writer

/-!
# What a flush does with its batch

The flush is given the insert as a closure. However the closure answers, the batch is
emptied and every row of it is counted, as written by the one attempt that committed or as
skipped.
-/

set_option autoImplicit false

namespace Gilbreth.Store

open Gilbreth.Core

structure StopReading where
  cancelledBeforeSleep : Bool
  sleptThrough : Bool
  cancelledAtInterrupt : Bool
deriving DecidableEq

/-- A cancelled stop sleeps all the same; else a stop ends the sleep. -/
def sleepBeforeBusyRetry (reading : StopReading) : Bool :=
  if reading.cancelledBeforeSleep then true else reading.sleptThrough

namespace FlushLoop

section Loop

variable {State Row : Type}

/-- `insert_batch_with_retry`, the same for both kinds of rows. With no retry left every
error is returned. -/
def insertBatchWithRetry (insert : State → List Row → State × Except StoreError InsertReport)
    (stop : Nat → StopReading) (batch : List Row) :
    Nat → Nat → State → State × Except StoreError InsertReport
  | 0, _, state => insert state batch
  | left + 1, busyAttempts, state =>
      match insert state batch with
      | (after, .ok report) => (after, .ok report)
      | (after, .error error) =>
          if error.isSqliteBusyOrLocked then
            if sleepBeforeBusyRetry (stop busyAttempts) then
              insertBatchWithRetry insert stop batch left (busyAttempts + 1) after
            else (after, .error error)
          else if (stop busyAttempts).cancelledAtInterrupt && error.isSqliteInterrupted then
            insertBatchWithRetry insert stop batch left (busyAttempts + 1) after
          else (after, .error error)

/-- What one flush leaves: the closure's state, the batch, and what was counted. -/
structure Flushed (State Row : Type) where
  state : State
  batch : List Row
  written : Nat
  skipped : Nat

/-- The body both flushes share, on their own two counters. -/
def flushWithInsert (insert : State → List Row → State × Except StoreError InsertReport)
    (stop : Nat → StopReading) (state : State) (batch : List Row) (written skipped : Nat) :
    Flushed State Row :=
  if batch.isEmpty then ⟨state, batch, written, skipped⟩
  else
    match insertBatchWithRetry insert stop batch sqliteBusyRetryAttempts 0 state with
    | (after, .ok report) => ⟨after, [], written + report.inserted, skipped + report.skipped⟩
    | (after, .error _) => ⟨after, [], written, skipped + batch.length⟩

end Loop

/-- What the two flushes work on. -/
structure Queues (State : Type) where
  state : State
  batch : List EventEnvelope
  actionBatch : List StampedAction
  report : WriterReport

variable {State : Type}

def flushBatchWithInsertAndStop
    (insertEvents : State → List EventEnvelope → State × Except StoreError InsertReport)
    (stop : Nat → StopReading) (queues : Queues State) : Queues State :=
  let flushed := flushWithInsert insertEvents stop queues.state queues.batch
    queues.report.eventsWritten queues.report.eventsSkipped
  { queues with
    state := flushed.state
    batch := flushed.batch
    report.eventsWritten := flushed.written
    report.eventsSkipped := flushed.skipped }

def flushActionBatchWithInsertAndStop
    (insertActions : State → List StampedAction → State × Except StoreError InsertReport)
    (stop : Nat → StopReading) (queues : Queues State) : Queues State :=
  let flushed := flushWithInsert insertActions stop queues.state queues.actionBatch
    queues.report.actionsWritten queues.report.actionsSkipped
  { queues with
    state := flushed.state
    actionBatch := flushed.batch
    report.actionsWritten := flushed.written
    report.actionsSkipped := flushed.skipped }

section Accounting

variable {Row : Type}

/-- The policy of the loop: a pause that was slept through, or an interrupt while stopping. -/
def triesAgain (stop : Nat → StopReading) (busyAttempts : Nat) (error : StoreError) : Bool :=
  if error.isSqliteBusyOrLocked then sleepBeforeBusyRetry (stop busyAttempts)
  else (stop busyAttempts).cancelledAtInterrupt && error.isSqliteInterrupted

theorem insert_batch_retry
    (insert : State → List Row → State × Except StoreError InsertReport)
    (stop : Nat → StopReading) (batch : List Row) (left busyAttempts : Nat) (state : State) :
    insertBatchWithRetry insert stop batch left busyAttempts state =
      BoundedRetry.retry (fun state => insert state batch) (triesAgain stop) left busyAttempts
        state := by
  induction left generalizing busyAttempts state with
  | zero => rfl
  | succ left induction =>
      rw [insertBatchWithRetry, BoundedRetry.retry]
      cases insert state batch with
      | mk after result =>
        cases result with
        | ok report => rfl
        | error error =>
            simp only [induction, triesAgain]
            split_ifs <;> rfl

/-- The closure with its calls written down. -/
def recording (insert : State → List Row → State × Except StoreError InsertReport)
    (state : State × List (Except StoreError InsertReport)) (batch : List Row) :
    (State × List (Except StoreError InsertReport)) × Except StoreError InsertReport :=
  BoundedRetry.recorded (fun state => insert state batch) state

/-- A successful insert reports every row of its batch. -/
def ReportsWhole (insert : State → List Row → State × Except StoreError InsertReport) : Prop :=
  ∀ state batch after report, insert state batch = (after, .ok report) →
    report.inserted + report.skipped = batch.length

/-- What a flush owes to its batch, told by the calls it made. -/
structure BatchAccounted (batch : List Row) (written skipped : Nat)
    (flushed : Flushed (State × List (Except StoreError InsertReport)) Row) : Prop where
  calls : flushed.state.2.length ≤ sqliteBusyRetryAttempts + 1
  emptied : flushed.batch = []
  counted : flushed.written + flushed.skipped = written + skipped + batch.length
  /-- Rows are counted as written only if exactly one attempt committed. -/
  committed : flushed.written ≠ written →
    flushed.state.2.countP BoundedRetry.succeeded = 1
  grows : written ≤ flushed.written

theorem flush_accounts {insert : State → List Row → State × Except StoreError InsertReport}
    (whole : ReportsWhole insert) (stop : Nat → StopReading) (state : State)
    (batch : List Row) (written skipped : Nat) :
    BatchAccounted batch written skipped
      (flushWithInsert (recording insert) stop (state, []) batch written skipped) := by
  cases batch with
  | nil => exact ⟨Nat.zero_le _, rfl, rfl, fun grew => absurd rfl grew, Nat.le_refl _⟩
  | cons row rest =>
      let attempt := fun state => insert state (row :: rest)
      have loop : insertBatchWithRetry (recording insert) stop (row :: rest)
          sqliteBusyRetryAttempts 0 (state, []) =
          BoundedRetry.retry (BoundedRetry.recorded attempt) (triesAgain stop)
            sqliteBusyRetryAttempts 0 (state, []) :=
        insert_batch_retry (recording insert) stop _ _ _ _
      have ⟨failed, log, short, allFailed⟩ := BoundedRetry.retry_recorded attempt
        (triesAgain stop) sqliteBusyRetryAttempts 0 state []
      have answer := @BoundedRetry.retry_answer _ _ _ (BoundedRetry.recorded attempt)
        (triesAgain stop) sqliteBusyRetryAttempts 0 (state, [])
      have none : failed.countP BoundedRetry.succeeded = 0 := by
        rw [List.countP_eq_zero]
        intro outcome member succeeded
        rw [allFailed outcome member] at succeeded
        cases succeeded
      simp only [flushWithInsert, List.isEmpty_cons, Bool.false_eq_true, if_false, loop]
      cases retried : BoundedRetry.retry (BoundedRetry.recorded attempt) (triesAgain stop)
          sqliteBusyRetryAttempts 0 (state, []) with
      | mk after result =>
        rw [retried] at log answer
        simp only [List.nil_append] at log
        have calls : after.2.length ≤ sqliteBusyRetryAttempts + 1 := by
          rw [log, List.length_append]
          exact Nat.add_le_add_right short 1
        cases result with
        | error error =>
            exact ⟨calls, rfl, (Nat.add_assoc _ _ _).symm, fun grew => absurd rfl grew,
              Nat.le_refl _⟩
        | ok report =>
            have ⟨before, given⟩ := answer rfl
            have total := whole before.1 (row :: rest) (insert before.1 (row :: rest)).1 report
              (Prod.ext rfl given)
            refine ⟨calls, rfl, ?_, ?_, Nat.le_add_right _ _⟩
            · change written + report.inserted + (skipped + report.skipped) = _
              omega
            · intro _
              change after.2.countP _ = 1
              rw [log, List.countP_append, none]
              rfl

theorem flush_recorded_same (insert : State → List Row → State × Except StoreError InsertReport)
    (stop : Nat → StopReading) (state : State) (batch : List Row) (written skipped : Nat) :
    let recorded := flushWithInsert (recording insert) stop (state, []) batch written skipped
    let plain := flushWithInsert insert stop state batch written skipped
    recorded.state.1 = plain.state ∧ recorded.batch = plain.batch ∧
      recorded.written = plain.written ∧ recorded.skipped = plain.skipped := by
  cases batch with
  | nil => exact ⟨rfl, rfl, rfl, rfl⟩
  | cons row rest =>
      let attempt := fun state => insert state (row :: rest)
      have loop : insertBatchWithRetry (recording insert) stop (row :: rest)
          sqliteBusyRetryAttempts 0 (state, []) =
          BoundedRetry.retry (BoundedRetry.recorded attempt) (triesAgain stop)
            sqliteBusyRetryAttempts 0 (state, []) :=
        insert_batch_retry (recording insert) stop _ _ _ _
      have plainLoop := insert_batch_retry insert stop (row :: rest) sqliteBusyRetryAttempts 0 state
      have ⟨sameState, sameResult⟩ := BoundedRetry.retry_recorded_same attempt (triesAgain stop)
        sqliteBusyRetryAttempts 0 state []
      simp only [flushWithInsert, List.isEmpty_cons, Bool.false_eq_true, if_false, loop, plainLoop]
      change _ = (BoundedRetry.retry (fun state => insert state (row :: rest)) (triesAgain stop)
        sqliteBusyRetryAttempts 0 state).2 at sameResult
      change _ = (BoundedRetry.retry (fun state => insert state (row :: rest)) (triesAgain stop)
        sqliteBusyRetryAttempts 0 state).1 at sameState
      revert sameState sameResult
      cases BoundedRetry.retry (BoundedRetry.recorded attempt) (triesAgain stop)
          sqliteBusyRetryAttempts 0 (state, []) with
      | mk after result =>
        cases BoundedRetry.retry (fun state => insert state (row :: rest)) (triesAgain stop)
            sqliteBusyRetryAttempts 0 state with
        | mk plainAfter plainResult =>
          intro sameResult sameState
          change after.1 = plainAfter at sameState
          change result = plainResult at sameResult
          subst sameResult sameState
          cases result <;> exact ⟨rfl, rfl, rfl, rfl⟩

end Accounting

inductive QueueCall where
  | queueEvent (event : EventEnvelope)
  | queueAction (action : StampedAction)
  | flushEvents (stop : Nat → StopReading)
  | flushActions (stop : Nat → StopReading)

def QueueCall.queuesEvent : QueueCall → Bool
  | .queueEvent _ => true
  | _ => false

def QueueCall.queuesAction : QueueCall → Bool
  | .queueAction _ => true
  | _ => false

def Queues.empty (state : State) : Queues State := ⟨state, [], [], .default⟩

section Run

variable
  (insertEvents : State → List EventEnvelope → State × Except StoreError InsertReport)
  (insertActions : State → List StampedAction → State × Except StoreError InsertReport)

def queueStep (queues : Queues State) : QueueCall → Queues State
  | .queueEvent event => { queues with batch := queues.batch ++ [event] }
  | .queueAction action => { queues with actionBatch := queues.actionBatch ++ [action] }
  | .flushEvents stop => flushBatchWithInsertAndStop insertEvents stop queues
  | .flushActions stop => flushActionBatchWithInsertAndStop insertActions stop queues

/-- The events a writer has taken over: written, skipped or pending. -/
def Queues.events (queues : Queues State) : Nat :=
  queues.report.eventsWritten + queues.report.eventsSkipped + queues.batch.length

def Queues.actions (queues : Queues State) : Nat :=
  queues.report.actionsWritten + queues.report.actionsSkipped + queues.actionBatch.length

variable {insertEvents insertActions}

theorem flush_counted {Row : Type}
    {insert : State → List Row → State × Except StoreError InsertReport}
    (whole : ReportsWhole insert) (stop : Nat → StopReading) (state : State) (batch : List Row)
    (written skipped : Nat) :
    let flushed := flushWithInsert insert stop state batch written skipped
    flushed.batch = [] ∧ flushed.written + flushed.skipped = written + skipped + batch.length := by
  have accounted := flush_accounts whole stop state batch written skipped
  have ⟨_, sameBatch, sameWritten, sameSkipped⟩ :=
    flush_recorded_same insert stop state batch written skipped
  dsimp only
  rw [← sameBatch, ← sameWritten, ← sameSkipped]
  exact ⟨accounted.emptied, accounted.counted⟩

theorem queue_step_counts (wholeEvents : ReportsWhole insertEvents)
    (wholeActions : ReportsWhole insertActions) (queues : Queues State) (call : QueueCall) :
    (queueStep insertEvents insertActions queues call).events =
        queues.events + (if call.queuesEvent then 1 else 0) ∧
      (queueStep insertEvents insertActions queues call).actions =
        queues.actions + (if call.queuesAction then 1 else 0) := by
  cases call with
  | queueEvent event =>
      refine ⟨?_, rfl⟩
      simp [queueStep, Queues.events, QueueCall.queuesEvent]
      omega
  | queueAction action =>
      refine ⟨rfl, ?_⟩
      simp [queueStep, Queues.actions, QueueCall.queuesAction]
      omega
  | flushEvents stop =>
      have ⟨emptied, counted⟩ := flush_counted wholeEvents stop queues.state queues.batch
        queues.report.eventsWritten queues.report.eventsSkipped
      refine ⟨?_, rfl⟩
      simp only [queueStep, flushBatchWithInsertAndStop, Queues.events, emptied, counted,
        QueueCall.queuesEvent, List.length_nil, Bool.false_eq_true, if_false]
  | flushActions stop =>
      have ⟨emptied, counted⟩ := flush_counted wholeActions stop queues.state queues.actionBatch
        queues.report.actionsWritten queues.report.actionsSkipped
      refine ⟨rfl, ?_⟩
      simp only [queueStep, flushActionBatchWithInsertAndStop, Queues.actions, emptied, counted,
        QueueCall.queuesAction, List.length_nil, Bool.false_eq_true, if_false]

theorem queue_run_counts (wholeEvents : ReportsWhole insertEvents)
    (wholeActions : ReportsWhole insertActions) (calls : List QueueCall)
    (queues : Queues State) :
    (calls.foldl (queueStep insertEvents insertActions) queues).events =
        queues.events + calls.countP QueueCall.queuesEvent ∧
      (calls.foldl (queueStep insertEvents insertActions) queues).actions =
        queues.actions + calls.countP QueueCall.queuesAction := by
  induction calls generalizing queues with
  | nil => exact ⟨rfl, rfl⟩
  | cons call calls induction =>
      have now := queue_step_counts wholeEvents wholeActions queues call
      have later := induction (queueStep insertEvents insertActions queues call)
      rw [List.foldl_cons, List.countP_cons, List.countP_cons]
      omega

/-- One flush of the events, told by the calls it made: the actions are not touched. -/
structure EventsFlushed (before : Queues State)
    (after : Queues (State × List (Except StoreError InsertReport))) : Prop where
  calls : after.state.2.length ≤ sqliteBusyRetryAttempts + 1
  emptied : after.batch = []
  counted : after.report.eventsWritten + after.report.eventsSkipped =
    before.report.eventsWritten + before.report.eventsSkipped + before.batch.length
  committed : before.report.eventsWritten < after.report.eventsWritten →
    after.state.2.countP BoundedRetry.succeeded = 1
  written : before.report.eventsWritten ≤ after.report.eventsWritten
  actions : after.actionBatch = before.actionBatch ∧
    after.report.actionsWritten = before.report.actionsWritten ∧
    after.report.actionsSkipped = before.report.actionsSkipped

structure ActionsFlushed (before : Queues State)
    (after : Queues (State × List (Except StoreError InsertReport))) : Prop where
  calls : after.state.2.length ≤ sqliteBusyRetryAttempts + 1
  emptied : after.actionBatch = []
  counted : after.report.actionsWritten + after.report.actionsSkipped =
    before.report.actionsWritten + before.report.actionsSkipped + before.actionBatch.length
  committed : before.report.actionsWritten < after.report.actionsWritten →
    after.state.2.countP BoundedRetry.succeeded = 1
  written : before.report.actionsWritten ≤ after.report.actionsWritten
  events : after.batch = before.batch ∧
    after.report.eventsWritten = before.report.eventsWritten ∧
    after.report.eventsSkipped = before.report.eventsSkipped

/-- The queues with a closure that has made no call yet. -/
def Queues.recorded (queues : Queues State) :
    Queues (State × List (Except StoreError InsertReport)) :=
  ⟨(queues.state, []), queues.batch, queues.actionBatch, queues.report⟩

/-- However the inserts answer, each flush empties its batch and counts every row of it, and
over a run what was queued is written, skipped or pending. -/
theorem flushes_account (wholeEvents : ReportsWhole insertEvents)
    (wholeActions : ReportsWhole insertActions) :
    (∀ (stop : Nat → StopReading) (queues : Queues State),
      EventsFlushed queues
          (flushBatchWithInsertAndStop (recording insertEvents) stop queues.recorded) ∧
        ActionsFlushed queues
          (flushActionBatchWithInsertAndStop (recording insertActions) stop queues.recorded)) ∧
      ∀ (state : State) (calls : List QueueCall),
        (calls.foldl (queueStep insertEvents insertActions) (.empty state)).events =
            calls.countP QueueCall.queuesEvent ∧
          (calls.foldl (queueStep insertEvents insertActions) (.empty state)).actions =
            calls.countP QueueCall.queuesAction := by
  constructor
  · intro stop queues
    have events := flush_accounts wholeEvents stop queues.state queues.batch
      queues.report.eventsWritten queues.report.eventsSkipped
    have actions := flush_accounts wholeActions stop queues.state queues.actionBatch
      queues.report.actionsWritten queues.report.actionsSkipped
    constructor
    · exact ⟨events.calls, events.emptied, events.counted,
        fun grew => events.committed (Nat.ne_of_gt grew), events.grows, rfl, rfl, rfl⟩
    · exact ⟨actions.calls, actions.emptied, actions.counted,
        fun grew => actions.committed (Nat.ne_of_gt grew), actions.grows, rfl, rfl, rfl⟩
  · intro state calls
    have counts := queue_run_counts wholeEvents wholeActions calls (.empty state)
    simpa [Queues.empty, Queues.events, Queues.actions, WriterReport.default] using counts

end Run

/-! ## The inserts of the store -/

theorem insert_rows_report {Row : Type} {insertRow : Nat → Row → Database × InsertReport →
      Except StoreError (Database × InsertReport)}
    (counts : ∀ position row progress after, insertRow position row progress = .ok after →
      after.2.inserted + after.2.skipped = progress.2.inserted + progress.2.skipped + 1)
    (rows : List Row) (position : Nat) {progress after : Database × InsertReport}
    (inserted : insertRows insertRow position rows progress = .ok after) :
    after.2.inserted + after.2.skipped =
      progress.2.inserted + progress.2.skipped + rows.length := by
  induction rows generalizing position progress with
  | nil =>
      cases Except.ok.inj inserted
      rfl
  | cons row rest induction =>
      rw [insertRows] at inserted
      cases first : insertRow position row progress with
      | error error =>
          rw [first] at inserted
          cases inserted
      | ok next =>
          rw [first] at inserted
          have one := counts position row progress next first
          have others := induction (position + 1) inserted
          rw [List.length_cons]
          omega

theorem insert_batch_report {Row Fault : Type}
    {insertRow : (Nat → Option Fault) → Nat → Row → Database × InsertReport →
      Except StoreError (Database × InsertReport)}
    (counts : ∀ fault position row progress after,
      insertRow fault position row progress = .ok after →
      after.2.inserted + after.2.skipped = progress.2.inserted + progress.2.skipped + 1)
    {faults : BatchFaults Fault} {rows : List Row} {db : Database}
    {after : Database × InsertReport}
    (inserted : insertBatch insertRow faults rows db = .ok after) :
    after.2.inserted + after.2.skipped = rows.length := by
  unfold insertBatch at inserted
  split_ifs at inserted with empty
  · cases Except.ok.inj inserted
    rw [List.isEmpty_iff.mp empty]
    rfl
  · cases begun : faults.begin with
    | some error =>
        rw [begun] at inserted
        cases inserted
    | none =>
        rw [begun] at inserted
        dsimp only at inserted
        split at inserted
        · cases inserted
        · rename_i done looped
          have ⟨_, same⟩ := statement_ok inserted
          have total := insert_rows_report (counts faults.row) rows 0 looped
          rw [same]
          simpa using total

theorem insert_event_row_report (fault : Nat → Option StoreError) (position : Nat)
    (event : EventEnvelope) (progress after : Database × InsertReport)
    (inserted : insertEventRow fault position event progress = .ok after) :
    after.2.inserted + after.2.skipped = progress.2.inserted + progress.2.skipped + 1 := by
  unfold insertEventRow at inserted
  split at inserted
  · split_ifs at inserted
    cases Except.ok.inj inserted
    simp only [InsertReport.skip]
    omega
  · split at inserted
    · cases Except.ok.inj inserted
      simp only [InsertReport.insert]
      omega
    · cases Except.ok.inj inserted
      simp only [InsertReport.skip]
      omega

theorem insert_action_row_report [Externals] [StoreExternals]
    (fault : Nat → Option ActionFault) (position : Nat) (action : StampedAction)
    (progress after : Database × InsertReport)
    (inserted : insertActionRow fault position action progress = .ok after) :
    after.2.inserted + after.2.skipped = progress.2.inserted + progress.2.skipped + 1 := by
  unfold insertActionRow at inserted
  split_ifs at inserted
  · cases Except.ok.inj inserted
    simp only [InsertReport.skip]
    omega
  · cases Except.ok.inj inserted
    simp only [InsertReport.skip]
    omega
  · dsimp only at inserted
    split at inserted
    · split_ifs at inserted
      · cases Except.ok.inj inserted
        simp only [InsertReport.skip]
        omega
      · cases Except.ok.inj inserted
        simp only [InsertReport.skip]
        omega
    · split at inserted
      · cases Except.ok.inj inserted
        simp only [InsertReport.insert]
        omega
      · cases Except.ok.inj inserted
        simp only [InsertReport.skip]
        omega

section Store

variable {Row Fault : Type}
  (insert : BatchFaults Fault → List Row → Database → Except StoreError (Database × InsertReport))
  (readings : Nat → AttemptReadings Fault)

/-- The store's insert as the closure a flush is given; it counts its calls. A failed
attempt leaves the database as it was. -/
def storeClosure (state : Database × Nat) (batch : List Row) :
    (Database × Nat) × Except StoreError InsertReport :=
  match insert (readings state.2).faults batch state.1 with
  | .ok done => ((done.1, state.2 + 1), .ok done.2)
  | .error error => ((state.1, state.2 + 1), .error error)

/-- What the attempts' readings say of the stop token. -/
def stopReadings (attempt : Nat) : StopReading :=
  ⟨false, (readings attempt).slept, (readings attempt).stopCancelled⟩

theorem tries_again_retries (attempt : Nat) (error : StoreError) :
    triesAgain (stopReadings readings) attempt error = (readings attempt).retries error := by
  simp only [triesAgain, stopReadings, sleepBeforeBusyRetry, AttemptReadings.retries]
  cases error with
  | sqlite code text =>
      cases code <;> simp [StoreError.isSqliteBusyOrLocked, StoreError.isSqliteInterrupted]
  | _ => simp [StoreError.isSqliteBusyOrLocked, StoreError.isSqliteInterrupted]

theorem store_retry_loop (batch : List Row) (db : Database) (attempt budget : Nat) :
    (match Store.insertBatchWithRetry insert readings batch db attempt budget with
      | .ok done => (done.1, Except.ok done.2)
      | .error error => (db, .error error)) =
      ((insertBatchWithRetry (storeClosure insert readings) (stopReadings readings) batch budget
          attempt (db, attempt)).1.1,
        (insertBatchWithRetry (storeClosure insert readings) (stopReadings readings) batch budget
          attempt (db, attempt)).2) := by
  rw [insert_batch_retry]
  induction budget generalizing attempt with
  | zero =>
      rw [Store.insertBatchWithRetry, BoundedRetry.retry]
      unfold storeClosure
      cases insert (readings attempt).faults batch db <;> rfl
  | succ budget induction =>
      rw [Store.insertBatchWithRetry, BoundedRetry.retry]
      cases outcome : insert (readings attempt).faults batch db with
      | ok done => simp [storeClosure, outcome]
      | error error =>
          simp only [storeClosure, outcome, tries_again_retries]
          split_ifs
          · exact induction (attempt + 1)
          · rfl

theorem flush_rows_loop (batch : List Row) (db : Database) :
    flushRows insert readings batch db =
      ((flushWithInsert (storeClosure insert readings) (stopReadings readings) (db, 0) batch
          0 0).state.1,
        ⟨(flushWithInsert (storeClosure insert readings) (stopReadings readings) (db, 0) batch
            0 0).written,
          (flushWithInsert (storeClosure insert readings) (stopReadings readings) (db, 0) batch
            0 0).skipped⟩) := by
  unfold flushRows flushWithInsert
  have loop := store_retry_loop insert readings batch db 0 sqliteBusyRetryAttempts
  split_ifs
  · rfl
  · revert loop
    cases Store.insertBatchWithRetry insert readings batch db 0 sqliteBusyRetryAttempts with
    | ok done =>
        cases insertBatchWithRetry (storeClosure insert readings) (stopReadings readings) batch
            sqliteBusyRetryAttempts 0 (db, 0) with
        | mk after result =>
          intro loop
          have ⟨sameState, sameResult⟩ := Prod.mk.inj loop
          change Except.ok done.2 = result at sameResult
          subst sameResult
          exact Prod.ext sameState (by simp)
    | error error =>
        cases insertBatchWithRetry (storeClosure insert readings) (stopReadings readings) batch
            sqliteBusyRetryAttempts 0 (db, 0) with
        | mk after result =>
          intro loop
          have ⟨sameState, sameResult⟩ := Prod.mk.inj loop
          change Except.error error = result at sameResult
          subst sameResult
          exact Prod.ext sameState (by simp)

end Store

theorem store_closure_whole {Row Fault : Type}
    {insertRow : (Nat → Option Fault) → Nat → Row → Database × InsertReport →
      Except StoreError (Database × InsertReport)}
    (counts : ∀ fault position row progress after,
      insertRow fault position row progress = .ok after →
      after.2.inserted + after.2.skipped = progress.2.inserted + progress.2.skipped + 1)
    (readings : Nat → AttemptReadings Fault) :
    ReportsWhole (storeClosure (insertBatch insertRow) readings) := by
  intro state batch after report answered
  unfold storeClosure at answered
  cases inserted : insertBatch insertRow (readings state.2).faults batch state.1 with
  | error error =>
      rw [inserted] at answered
      cases answered
  | ok done =>
      rw [inserted] at answered
      cases answered
      exact insert_batch_report counts inserted

theorem writer_flush_counts [Externals] [StoreExternals] (state : WriterState)
    (readings : Nat → AttemptReadings StoreError)
    (actionReadings : Nat → AttemptReadings ActionFault) :
    ((state.flushBatch readings).report.eventsWritten +
        (state.flushBatch readings).report.eventsSkipped =
      state.report.eventsWritten + state.report.eventsSkipped + state.batch.length) ∧
      ((state.flushActionBatch actionReadings).report.actionsWritten +
          (state.flushActionBatch actionReadings).report.actionsSkipped =
        state.report.actionsWritten + state.report.actionsSkipped +
          state.actionBatch.length) := by
  have events := flush_counted (store_closure_whole insert_event_row_report readings)
    (stopReadings readings) (state.store, 0) state.batch 0 0
  have actions := flush_counted (store_closure_whole insert_action_row_report actionReadings)
    (stopReadings actionReadings) (state.store, 0) state.actionBatch 0 0
  have eventRows := flush_rows_loop insertEvents readings state.batch state.store
  have actionRows := flush_rows_loop insertActions actionReadings state.actionBatch state.store
  have eventCounts := events.2
  have actionCounts := actions.2
  simp only [WriterState.flushBatch, WriterState.flushActionBatch, eventRows, actionRows]
  change _ + (flushWithInsert (storeClosure insertEvents readings) _ _ _ 0 0).written +
      (_ + (flushWithInsert (storeClosure insertEvents readings) _ _ _ 0 0).skipped) = _ ∧
    _ + (flushWithInsert (storeClosure insertActions actionReadings) _ _ _ 0 0).written +
      (_ + (flushWithInsert (storeClosure insertActions actionReadings) _ _ _ 0 0).skipped) = _
  change (flushWithInsert (storeClosure insertEvents readings) _ _ _ 0 0).written +
    (flushWithInsert (storeClosure insertEvents readings) _ _ _ 0 0).skipped = _ at eventCounts
  change (flushWithInsert (storeClosure insertActions actionReadings) _ _ _ 0 0).written +
    (flushWithInsert (storeClosure insertActions actionReadings) _ _ _ 0 0).skipped =
      _ at actionCounts
  omega

section Witness

attribute [local instance] asciiExternals bareExternals

private def pausedEvent : EventEnvelope := ⟨1, 1, 1, I64.ofInt 0, .system, false, .capturePaused⟩

private def clearEvents (_ : Nat) : AttemptReadings StoreError := .clear

private def clearActions (_ : Nat) : AttemptReadings ActionFault := .clear

private def queuedOne : Queues (Database × Nat) :=
  ⟨(Database.empty, 0), [pausedEvent], [], .default⟩

theorem flushes_account_one :
    EventsFlushed queuedOne (flushBatchWithInsertAndStop
        (recording (storeClosure insertEvents clearEvents)) (stopReadings clearEvents)
        queuedOne.recorded) ∧
      ([.queueEvent pausedEvent, .flushEvents (stopReadings clearEvents)].foldl
        (queueStep (storeClosure insertEvents clearEvents)
          (storeClosure insertActions clearActions)) (.empty (Database.empty, 0))).events = 1 := by
  have accounted := flushes_account
    (store_closure_whole insert_event_row_report clearEvents)
    (store_closure_whole insert_action_row_report clearActions)
  exact ⟨(accounted.1 (stopReadings clearEvents) queuedOne).1,
    (accounted.2 (Database.empty, 0)
      [.queueEvent pausedEvent, .flushEvents (stopReadings clearEvents)]).1⟩

end Witness

end FlushLoop

end Gilbreth.Store
