import Gilbreth.Store.Recording

/-!
# Secure erase and the replacement session

A secure erase settles what is pending, deletes every row and starts a session
in the emptied database. The instant it completed is projected onto the new
session's clock and kept as the boundary that late rows are compared with.
-/

set_option autoImplicit false

namespace Gilbreth.Store

open Gilbreth.Core

structure ReplacementReadings where
  start : Clock
  dbUuid : String
  mintFault : Option StoreError
  mintSecondFault : Option StoreError
  createFault : Option StoreError

structure SettleReadings where
  drain : DrainReadings
  endedAt : Instant
  finalizeFault : Option StoreError

structure DeleteReadings where
  deleteFault : Option StoreError
  scrubError : Option String
  replacement : ReplacementReadings
  completedAt : Instant
  reemit : SensitiveContextReason → QueueReadings

/-- Nothing waits in the channel and every statement succeeds. -/
def SettleReadings.clear (endedAt : Instant) : SettleReadings :=
  ⟨⟨[], fun _ => .clear, fun _ => .clear⟩, endedAt, none⟩

/-- Every statement succeeds while the clock stands still. -/
def DeleteReadings.clear (clock : Clock) (dbUuid : String) : DeleteReadings :=
  ⟨none, none, ⟨clock, dbUuid, none, none, none⟩, clock.now, fun _ => .clear clock⟩

inductive SecureEraseOutcome where
  | completed | deleteFailed | deleteCommittedScrubIncomplete | replacementSessionFailed
deriving DecidableEq

structure SecureEraseReport where
  outcome : SecureEraseOutcome
  eventsDeleted : Nat
  sessionsDeleted : Nat
  newSessionId : Option Int
  message : Option String
deriving DecidableEq

namespace SecureEraseReport

def deleteFailed (error : String) : SecureEraseReport := ⟨.deleteFailed, 0, 0, none, some error⟩

def replacementSessionFailed (report : Database.SecureDeleteReport) (error : String) :
    SecureEraseReport :=
  ⟨.replacementSessionFailed, report.eventsDeleted, report.sessionsDeleted, none, some error⟩

def deleteCommitted (report : Database.SecureDeleteReport) (newSessionId : Int) :
    SecureEraseReport :=
  ⟨if report.scrubError.isSome then .deleteCommittedScrubIncomplete else .completed,
    report.eventsDeleted, report.sessionsDeleted, some newSessionId, report.scrubError⟩

end SecureEraseReport

/-- The refusal both resets give while a recording is live. -/
def recordingStillActive : String :=
  "a Record Routine is still active; stop the recording and retry"

namespace WriterState

variable [Externals] (config : WriterConfig) (state : WriterState)

section Replacement

def createReplacementSession (readings : ReplacementReadings) (identity : SessionIdentity) :
    WriterState × Except StoreError Int :=
  let timebase : SessionTimebase := ⟨readings.start.now, readings.start.utcMs⟩
  let identity := identity.withDefaultRunLabel timebase.baseUtcMs
  match state.store.mintMetaIdentity readings.mintFault readings.mintSecondFault
      timebase.baseUtcMs readings.dbUuid with
  | (db, .error error) => ({ state with store := db }, .error error)
  | (db, .ok ()) =>
      match db.createSessionWithIdentity readings.createFault timebase.baseUtcMs identity with
      | .error error => ({ state with store := db }, .error error)
      | .ok (db, newSessionId) =>
          ({ state with
             store := db
             sequencer := .new newSessionId timebase
             stamped := [] },
            .ok newSessionId)

/-- The wipe removed the row, and the segment belonged to the old session. -/
def forgetOpenFocus : WriterState := { state with openFocus := .default }

def reemitActiveSensitiveContexts (now : Instant)
    (readings : SensitiveContextReason → QueueReadings) : WriterState :=
  state.policy.activeSensitiveReasons.foldl
    (fun state reason =>
      state.queueCaptured config (readings reason)
        ⟨.system, now, .sensitiveContextEntered reason⟩)
    state

end Replacement

section Settle

variable [StoreExternals]

/-- Drain, flush and end the recordings a crash left open. -/
def settleForReset (readings : SettleReadings) : WriterState × Except StoreError I64 :=
  let state := state.drainAndFlush config readings.drain
  let endedAt := state.sequencer.timestampFor readings.endedAt
  match state.store.finalizeOpenRecordSessions readings.finalizeFault .appShutdown endedAt with
  | .error error => (state, .error error)
  | .ok db =>
      ({ state with
         store := db
         recordState :=
           { state.recordState with
             activeRecordSessionId := none
             pausedRecordSessionId := none
             capPromptedWindows := fun _ => none } },
        .ok endedAt)

end Settle

section Erase

/-- The counters restart at the delete boundary. -/
def rebaseCounters : WriterState :=
  { state with
    heartbeat :=
      { captureDropped := .rebased state.diagnostics.captureEventsDropped
        stalePreEraseDropped := .rebased state.diagnostics.stalePreEraseRowsDropped } }

/-- The replacement session exists: freeze the boundary and explain the
redaction that is still on. -/
def eraseCompleted (readings : DeleteReadings) : WriterState :=
  { state with
    eraseCompletionBoundaryMs :=
      some (state.sequencer.projectedTimestampFor
        readings.completedAt) }.forgetOpenFocus.reemitActiveSensitiveContexts config
    readings.completedAt readings.reemit

/-- `secure_erase` from the delete on. -/
def eraseSettled (readings : DeleteReadings) (identity : SessionIdentity) :
    WriterState × SecureEraseReport :=
  match state.store.secureDeleteActivity readings.deleteFault readings.scrubError with
  | .error error => (state, .deleteFailed error.toText)
  | .ok (db, deleted) =>
      match { state with store := db }.rebaseCounters.createReplacementSession
          readings.replacement identity with
      | (state, .error error) => (state, .replacementSessionFailed deleted error.toText)
      | (state, .ok newSessionId) =>
          (state.eraseCompleted config readings, .deleteCommitted deleted newSessionId)

variable [StoreExternals]

def secureErase (settle : SettleReadings) (readings : DeleteReadings)
    (identity : SessionIdentity) : WriterState × SecureEraseReport :=
  if state.recordState.activeRecordSessionId.isSome then (state, .deleteFailed recordingStillActive)
  else
    match state.settleForReset config settle with
    | (state, .error error) => (state, .deleteFailed error.toText)
    | (state, .ok _) => state.eraseSettled config readings identity

end Erase

section Forget

variable [StoreExternals]

def forgetFocusAttribution (drained : List (WriterInput × QueueReadings))
    (fault : Option StoreError) : WriterState :=
  let state := state.drainWriterInputs config drained
  { state with policy := state.policy.forgetFocusAttribution }.clearFocus fault

end Forget

end WriterState

end Gilbreth.Store
