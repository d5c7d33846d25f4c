import Gilbreth.Store.Writer

/-!
# Recording commands and polls

The writer keeps which recording is active and which one is paused beside what
the database says, and asks the user about pending requests and long recordings.
-/

set_option autoImplicit false

namespace Gilbreth.Store

open Gilbreth.Core

/-- The arguments of `WriterCommand::StartRecording`. -/
structure StartRecording where
  requestId : Option Int
  title : Option String
  policySnapshotJson : String
  safetyCapMs : I64
  visibleIndicator : Bool

structure StartFaults where
  confirm : Option StoreError
  openSession : Option StoreError
  markFailed : Option StoreError

/-- What draining the input channel and flushing both batches reads. -/
structure DrainReadings where
  drained : List (WriterInput × QueueReadings)
  flush : Nat → AttemptReadings StoreError
  actionFlush : Nat → AttemptReadings ActionFault

/-- What a poll reads: the wall clock, the prompt flag each time it is looked
at, which notifications are configured and accepted, and the statements. -/
structure PollReadings where
  sinceEpoch : Option Nat
  rearmPromptInFlight : Bool
  requestPromptInFlight : Bool
  capPromptInFlight : Bool
  requestNotify : Option Bool
  capNotify : Option (Int → Bool)
  expireFault : Option StoreError
  statusFault : Option StoreError
  oldestFault : Option StoreError
  failFault : Option StoreError
  openSessionsFault : Option StoreError

namespace WriterState

variable [Externals] [StoreExternals] (config : WriterConfig) (state : WriterState)

def drainAndFlush (readings : DrainReadings) : WriterState :=
  (state.drainWriterInputs config readings.drained).flushAllBatches readings.flush
    readings.actionFlush

section Commands

variable (now : Instant)

/-- The recording is open: the record state follows it. -/
def recordingStarted (requestId : Option Int) (recordSessionId : Int) : WriterState :=
  { state with
    recordState :=
      { state.recordState with
        activeRecordSessionId := some recordSessionId
        pausedRecordSessionId := none
        capPromptedWindows := Function.update state.recordState.capPromptedWindows
          recordSessionId none
        lastSurfacedRequestId :=
          if state.recordState.lastSurfacedRequestId = requestId then none
          else state.recordState.lastSurfacedRequestId } }

def startRecording (faults : StartFaults) (command : StartRecording) :
    WriterState × Except StoreError Int :=
  let startedTs := state.sequencer.timestampFor now
  let confirmed : Except StoreError Database :=
    match command.requestId with
    | some requestId => state.store.confirmRecordRequest faults.confirm requestId startedTs
    | none => .ok state.store
  match confirmed with
  | .error error => (state, .error error)
  | .ok db =>
      match db.openRecordSession faults.openSession
          { requestId := command.requestId
            sessionId := state.sequencer.sessionId
            startedTs := startedTs
            title := command.title
            policySnapshotJson := command.policySnapshotJson
            safetyCapMs := command.safetyCapMs
            visibleIndicator := command.visibleIndicator } with
      | .ok (db, recordSessionId) =>
          ({ state with store := db }.recordingStarted command.requestId recordSessionId,
            .ok recordSessionId)
      | .error error =>
          let marked : Except StoreError Database :=
            match command.requestId with
            | some requestId => db.failRecordRequest faults.markFailed requestId startedTs
            | none => .ok db
          ({ state with store := marked.toOption.getD db }, .error error)

def recordingStopped (recordSessionId : Int) : WriterState :=
  { state with
    recordState :=
      { state.recordState with
        activeRecordSessionId :=
          if state.recordState.activeRecordSessionId = some recordSessionId then none
          else state.recordState.activeRecordSessionId
        pausedRecordSessionId :=
          if state.recordState.pausedRecordSessionId = some recordSessionId then none
          else state.recordState.pausedRecordSessionId
        capPromptedWindows := Function.update state.recordState.capPromptedWindows
          recordSessionId none } }

def stopRecording (readings : DrainReadings) (fault : Option StoreError) (recordSessionId : Int)
    (stopReason : RecordStopReason) : WriterState × Except StoreError Unit :=
  let state := state.drainAndFlush config readings
  match state.store.closeRecordSession fault recordSessionId (state.sequencer.timestampFor now)
      stopReason with
  | .error error => (state, .error error)
  | .ok db => ({ state with store := db }.recordingStopped recordSessionId, .ok ())

def pauseRecording (fault : Option StoreError) (recordSessionId : Int) :
    WriterState × Except StoreError Unit :=
  match state.store.pauseRecordSession fault recordSessionId
      (state.sequencer.timestampFor now) with
  | .error error => (state, .error error)
  | .ok db =>
      ({ state with store := db, recordState.pausedRecordSessionId := some recordSessionId },
        .ok ())

def resumeRecording (fault : Option StoreError) (recordSessionId : Int) :
    WriterState × Except StoreError Unit :=
  match state.store.resumeRecordSession fault recordSessionId
      (state.sequencer.timestampFor now) with
  | .error error => (state, .error error)
  | .ok db =>
      ({ state with
         store := db
         recordState.pausedRecordSessionId :=
           if state.recordState.pausedRecordSessionId = some recordSessionId then none
           else state.recordState.pausedRecordSessionId },
        .ok ())

def declineRecordRequest (fault : Option StoreError) (requestId : Int) : WriterState :=
  let cancelled :=
    state.store.cancelRecordRequest fault requestId (state.sequencer.timestampFor now)
  { state with
    store := cancelled.toOption.getD state.store
    recordState.lastSurfacedRequestId :=
      if state.recordState.lastSurfacedRequestId = some requestId then none
      else state.recordState.lastSurfacedRequestId }

end Commands

section Polls

variable (readings : PollReadings)

/-- The first part of `poll_recording_control`: forget a surfaced request that
moved on, or that nobody is looking at any more. -/
def rearmSurfacedRequest : WriterState :=
  let forgotten := { state with recordState.lastSurfacedRequestId := none }
  match state.recordState.lastSurfacedRequestId with
  | none => state
  | some requestId =>
      match state.store.recordRequestStatus readings.statusFault requestId with
      | .error _ => state
      | .ok (some .requested) =>
          if state.recordState.activeRecordSessionId.isNone && !readings.rearmPromptInFlight then
            forgotten
          else state
      | .ok _ => forgotten

def pollRecordRequestPrompt (nowMs : I64) : WriterState :=
  if state.recordState.activeRecordSessionId.isSome || readings.requestPromptInFlight then state
  else
    match readings.requestNotify,
        state.store.oldestPendingRecordRequest readings.oldestFault nowMs with
    | some accepted, .ok (some request) =>
        if state.recordState.lastSurfacedRequestId = some request.requestId then state
        else
          match ensureValueFreeJson request.candidateJson "candidate_json" with
          | .error _ =>
              let marked := state.store.failRecordRequest readings.failFault request.requestId nowMs
              { state with store := marked.toOption.getD state.store }
          | .ok () =>
              if accepted then
                { state with recordState.lastSurfacedRequestId := some request.requestId }
              else state
    | _, _ => state

def pausedTotalMsAt (intervals : List (I64 × Option I64)) (nowMs : I64) : I64 :=
  intervals.foldl
    (fun total interval =>
      total.satAdd ((max (interval.2.getD nowMs) interval.1).satSub interval.1))
    (I64.ofInt 0)

/-- The number of whole safety caps a recording has been active for. -/
def capWindowIndex (nowMs : I64) (session : RecordSessionRow) : Int :=
  (max ((nowMs.satSub session.startedTs).satSub (pausedTotalMsAt session.pauseIntervals nowMs))
    (I64.ofInt 0)).val / session.safetyCapMs.val

def needsCapPrompt (nowMs : I64) (session : RecordSessionRow) : Bool :=
  decide (0 < session.safetyCapMs.val) && decide (0 < capWindowIndex nowMs session) &&
    !(state.recordState.capPromptedWindows session.recordSessionId).any fun prompted =>
      decide (capWindowIndex nowMs session ≤ prompted)

def pollCapPrompt (nowMs : I64) : WriterState :=
  if readings.capPromptInFlight then state
  else
    match readings.capNotify, state.store.openRecordSessions readings.openSessionsFault with
    | some accepted, .ok sessions =>
        match sessions.find? fun session =>
            state.needsCapPrompt nowMs session && accepted session.recordSessionId with
        | some session =>
            { state with
              recordState.capPromptedWindows := Function.update
                state.recordState.capPromptedWindows session.recordSessionId
                (some (capWindowIndex nowMs session)) }
        | none => state
    | _, _ => state

def pollRecordingControl : WriterState :=
  let nowMs := unixNowMs readings.sinceEpoch
  let expired := state.store.expireRecordRequests readings.expireFault nowMs
  let state := { state with store := expired.toOption.getD state.store }
  let state := state.rearmSurfacedRequest readings
  (state.pollRecordRequestPrompt readings nowMs).pollCapPrompt readings nowMs

end Polls

end WriterState

end Gilbreth.Store
