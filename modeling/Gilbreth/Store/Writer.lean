import Gilbreth.Store.OpenFocus

/-!
# The writer thread

One thread owns the database, the sequencer, the policy and the batches. This
module is what it does with an input and on a tick. What it reads from outside
(clocks, the outcome of a statement, the stop token) is passed to it.
-/

set_option autoImplicit false

namespace Gilbreth.Store

open Gilbreth.Core

/-- A pair of clock readings taken together. -/
structure Clock where
  now : Instant
  sinceEpoch : Option Nat

def Clock.utcMs (clock : Clock) : I64 := unixNowMs clock.sinceEpoch

structure WriterConfig where
  batchSize : Nat
  timebaseDriftThresholdMs : I64

structure WriterReport where
  eventsWritten : Nat
  eventsSkipped : Nat
  actionsWritten : Nat
  actionsSkipped : Nat
deriving DecidableEq

def WriterReport.default : WriterReport := ⟨0, 0, 0, 0⟩

structure DiagnosticsCounters where
  captureEventsDropped : Nat
  stalePreEraseRowsDropped : Nat
deriving DecidableEq

/-- The heartbeat's memory of one durable counter. -/
structure DropCounter where
  base : Option Nat
  persisted : Option Nat
  offset : Nat
  resetPending : Bool
deriving DecidableEq

def DropCounter.default : DropCounter := ⟨none, none, 0, false⟩

/-- `WriterHeartbeat`, without the fields only its log lines read. -/
structure WriterHeartbeat where
  captureDropped : DropCounter
  stalePreEraseDropped : DropCounter
deriving DecidableEq

def WriterHeartbeat.default : WriterHeartbeat := ⟨.default, .default⟩

structure WriterRecordState where
  activeRecordSessionId : Option Int
  pausedRecordSessionId : Option Int
  lastSurfacedRequestId : Option Int
  capPromptedWindows : Int → Option Int
  excludedGapOpen : Bool

def WriterRecordState.default : WriterRecordState := ⟨none, none, none, fun _ => none, false⟩

inductive WriterInput where
  | motion (captured : Captured)
  | action (action : ActionCapture)
  | actionDiag
  | rejectedAction

structure QueueReadings where
  clock : Clock
  clearFault : Option StoreError
  flush : Nat → AttemptReadings StoreError
  actionFlush : Nat → AttemptReadings ActionFault

def QueueReadings.clear (clock : Clock) : QueueReadings :=
  ⟨clock, none, fun _ => .clear, fun _ => .clear⟩

/-- `WriterRuntime`, with everything the loop keeps between its turns. -/
structure WriterState [Externals] where
  store : Database
  sequencer : Sequencer
  policy : Policy
  batch : List EventEnvelope
  actionBatch : List StampedAction
  report : WriterReport
  heartbeat : WriterHeartbeat
  recordState : WriterRecordState
  openFocus : OpenFocusState
  diagnostics : DiagnosticsCounters
  panicActionCutoff : Option (Int × Instant)
  eraseCompletionBoundaryMs : Option I64
  /-- History: every event stamped in the present session, in order. Nothing
  reads it. -/
  stamped : List EventEnvelope

/-- `run_writer_with_commands` before its first turn. -/
def WriterState.started [Externals] (store : Database) (sequencer : Sequencer) (policy : Policy) :
    WriterState where
  store := store
  sequencer := sequencer
  policy := policy
  batch := []
  actionBatch := []
  report := .default
  heartbeat := .default
  recordState := .default
  openFocus := .default
  diagnostics := ⟨0, 0⟩
  panicActionCutoff := none
  eraseCompletionBoundaryMs := none
  stamped := []

section Clocks

variable (clock : Clock) (thresholdMs : I64)

/-- `resync_sequencer_at`, which logs the correction. -/
def resyncSequencerAt (sequencer : Sequencer) : Sequencer :=
  (sequencer.resync clock.now clock.utcMs thresholdMs).1

def isPowerBoundary : EventPayload → Bool
  | .powerResume .. | .powerBoundaryRecovered .. => true
  | _ => false

def resyncForEventIfNeeded (sequencer : Sequencer) (payload : EventPayload) : Sequencer :=
  if isPowerBoundary payload then resyncSequencerAt clock thresholdMs sequencer else sequencer

end Clocks

def capturePredatesEraseBoundary (captureTs eraseCompletionBoundaryMs : I64) : Bool :=
  decide (captureTs < eraseCompletionBoundaryMs)

def isFocusChange : EventPayload → Bool
  | .focusChanged .. => true
  | _ => false

namespace WriterState

variable [Externals]

section Flushing

variable (state : WriterState)

def flushBatch (readings : Nat → AttemptReadings StoreError) : WriterState :=
  let flushed := flushRows insertEvents readings state.batch state.store
  { state with
    store := flushed.1
    batch := []
    report.eventsWritten := state.report.eventsWritten + flushed.2.inserted
    report.eventsSkipped := state.report.eventsSkipped + flushed.2.skipped }

variable [StoreExternals]

def flushActionBatch (readings : Nat → AttemptReadings ActionFault) : WriterState :=
  let flushed := flushRows insertActions readings state.actionBatch state.store
  { state with
    store := flushed.1
    actionBatch := []
    report.actionsWritten := state.report.actionsWritten + flushed.2.inserted
    report.actionsSkipped := state.report.actionsSkipped + flushed.2.skipped }

def flushAllBatches (readings : Nat → AttemptReadings StoreError)
    (actionReadings : Nat → AttemptReadings ActionFault) : WriterState :=
  (state.flushBatch readings).flushActionBatch actionReadings

end Flushing

section Motion

variable (config : WriterConfig) (readings : QueueReadings) (state : WriterState)

/-- The secure-erase gate at the top of `queue_captured`. -/
def eraseGateDrops (captured : Captured) : Bool :=
  state.eraseCompletionBoundaryMs.any fun boundary =>
    capturePredatesEraseBoundary (state.sequencer.projectedTimestampFor captured.capturedAt)
      boundary

/-- `increment_stale_pre_erase_rows_dropped`. -/
def countStaleRow : WriterState :=
  { state with
    diagnostics.stalePreEraseRowsDropped := state.diagnostics.stalePreEraseRowsDropped + 1 }

def withOpenFocus (tracked : OpenFocusState × Database) : WriterState :=
  { state with openFocus := tracked.1, store := tracked.2 }

def clearFocus (fault : Option StoreError) : WriterState :=
  state.withOpenFocus (clearOpenFocus fault state.openFocus state.store)

/-- A focus row of an allowed app ends the excluded stretch of a recording. -/
def noteAllowedFocus (payload : EventPayload) : WriterState :=
  match payload with
  | .focusChanged window _ _ _ _ =>
      if state.policy.excludesExe window.exe then state
      else { state with recordState.excludedGapOpen := false }
  | _ => state

/-- Stamp, redact, track and batch a row that is kept. -/
def enqueueCaptured (captured : Captured) : WriterState :=
  let stamped := state.sequencer.stamp captured
  let redacted := state.policy.applyAfterExclusions stamped.2
  let tracked := noteOpenFocusEvent readings.clearFault state.openFocus state.store redacted.2
  { state with
    store := tracked.2
    sequencer := stamped.1
    policy := redacted.1
    openFocus := tracked.1
    batch := state.batch ++ [redacted.2]
    stamped := state.stamped ++ [redacted.2] }

/-- `queue_captured` up to the size check, and whether the row was batched. -/
def admitCaptured (captured : Captured) : WriterState × Bool :=
  if state.eraseGateDrops captured then (state.countStaleRow, false)
  else
    let state := state.noteAllowedFocus captured.payload
    let state :=
      { state with
        sequencer := resyncForEventIfNeeded readings.clock config.timebaseDriftThresholdMs
          state.sequencer captured.payload }
    match state.policy.applyExclusionsToCaptured captured with
    | (policy, some kept) => ({ state with policy := policy }.enqueueCaptured readings kept, true)
    | (policy, none) =>
        -- The row of an excluded app carried the open segment's last dwell.
        if isFocusChange captured.payload then
          ({ state with policy := policy }.clearFocus readings.clearFault, false)
        else ({ state with policy := policy }, false)

def queueCaptured (captured : Captured) : WriterState :=
  let admitted := state.admitCaptured config readings captured
  if admitted.2 && decide (config.batchSize ≤ admitted.1.batch.length) then
    admitted.1.flushBatch readings.flush
  else admitted.1

end Motion

section Actions

variable [StoreExternals] (config : WriterConfig) (readings : QueueReadings) (state : WriterState)

/-- `PanicActionCutoff::rejects`. -/
def panicCutoffRejects (action : ActionCapture) : Bool :=
  state.panicActionCutoff.any fun cutoff =>
    cutoff.1 == action.recordSessionId && decide (cutoff.2.nanos ≤ action.capturedAt.nanos)

/-- The value-free marker of an excluded stretch. -/
def excludedGap (action : ActionCapture) : ActionCapture where
  action := ⟨.uiActionOther, ⟨"privacy_gap", []⟩, .scopedInvokeSender⟩
  capturedAt := action.capturedAt
  recordSessionId := action.recordSessionId
  exe := none
  isSensitive := false
  hasName := false
  patternAction := some excludedAppGapPattern
  framework := "privacy_gap"
  frameworkClass := .unknown
  depth := 0
  leafRect := none
  payload := .uiActionOther none none none

def skipAction : WriterState :=
  { state with report.actionsSkipped := state.report.actionsSkipped + 1 }

def enqueueAction (action : ActionCapture) : WriterState :=
  let stamped := state.sequencer.stampAction action
  let state :=
    { state with sequencer := stamped.1, actionBatch := state.actionBatch ++ [stamped.2] }
  if config.batchSize ≤ state.actionBatch.length then state.flushActionBatch readings.actionFlush
  else state

def withExcludedGapOpen (gapOpen : Bool) : WriterState :=
  { state with recordState.excludedGapOpen := gapOpen }

def queueAction (action : ActionCapture) : WriterState :=
  if state.recordState.activeRecordSessionId ≠ some action.recordSessionId then state.skipAction
  else if state.panicCutoffRejects action then state.skipAction
  else if state.recordState.pausedRecordSessionId = some action.recordSessionId then
    state.skipAction
  else if state.policy.sensitiveContextActive && !state.policy.excludesAction action then
    state.skipAction
  else if state.policy.excludesAction action then
    if state.recordState.excludedGapOpen then state.withExcludedGapOpen true
    else (state.enqueueAction config readings (excludedGap action)).withExcludedGapOpen true
  else
    (state.withExcludedGapOpen false).enqueueAction config readings
      { action with isSensitive := false }

def queueWriterInput (input : WriterInput) : WriterState :=
  match input with
  | .motion captured => state.queueCaptured config readings captured
  | .action action => state.queueAction config readings action
  | .actionDiag | .rejectedAction => state

def drainWriterInputs (inputs : List (WriterInput × QueueReadings)) : WriterState :=
  inputs.foldl (fun state item => state.queueWriterInput config item.2 item.1) state

end Actions

section Ticks

variable (state : WriterState)

def beat (now : Instant) (fault : Option StoreError) : WriterState :=
  state.withOpenFocus (beatOpenFocus fault state.sequencer now state.openFocus state.store)

end Ticks

end WriterState

section Heartbeat

/-- `str::parse::<u64>`. -/
def parseU64 (text : String) : Option Nat :=
  let digits := if text.toList.head? = some '+' then text.toList.tail else text.toList
  let value := digits.foldl (fun value digit => 10 * value + (digit.toNat - 48)) 0
  if digits ≠ [] ∧ digits.all Char.isDigit ∧ value ≤ u64Max then some value else none

/-- `read_meta_u64`: zero for whatever cannot be read. -/
def readMetaU64 (fault : Option StoreError) (db : Database) (key : String) : Nat :=
  if fault.isSome then 0 else ((db.readMeta key).bind parseU64).getD 0

def captureEventsDroppedMetaKey : String := "capture_events_dropped"

def stalePreEraseRowsDroppedMetaKey : String := "stale_pre_erase_rows_dropped"

/-- What a secure erase and a pending reset make of a counter. -/
def DropCounter.rebased (runTotal : Nat) : DropCounter := ⟨some 0, none, runTotal, false⟩

/-- The two `persist_*_dropped` functions, which differ in their key, counter
and run total. -/
def persistDropped (readFault writeFault : Option StoreError) (key : String) (runTotal : Nat)
    (counter : DropCounter) (db : Database) : DropCounter × Database :=
  let counter := if counter.resetPending then .rebased runTotal else counter
  let base := counter.base.getD (readMetaU64 readFault db key)
  let counter := { counter with base := some base }
  let total := min u64Max (base + (runTotal - counter.offset))
  if counter.persisted = some total then (counter, db)
  else
    match db.upsertMeta writeFault key s!"{total}" with
    | .ok db => ({ counter with persisted := some total }, db)
    | .error _ => (counter, db)

structure PersistFaults where
  captureRead : Option StoreError
  captureWrite : Option StoreError
  staleRead : Option StoreError
  staleWrite : Option StoreError

variable [Externals]

def WriterState.persistDiagnosticsCounters (state : WriterState) (faults : PersistFaults) :
    WriterState :=
  let capture := persistDropped faults.captureRead faults.captureWrite captureEventsDroppedMetaKey
    state.diagnostics.captureEventsDropped state.heartbeat.captureDropped state.store
  let stale := persistDropped faults.staleRead faults.staleWrite stalePreEraseRowsDroppedMetaKey
    state.diagnostics.stalePreEraseRowsDropped state.heartbeat.stalePreEraseDropped capture.2
  { state with store := stale.2, heartbeat := ⟨capture.1, stale.1⟩ }

def WriterState.logWriterHeartbeat (state : WriterState) (config : WriterConfig) (clock : Clock)
    (faults : PersistFaults) : WriterState :=
  { state with
    sequencer := resyncSequencerAt clock config.timebaseDriftThresholdMs
      state.sequencer }.persistDiagnosticsCounters faults

end Heartbeat

end Gilbreth.Store
