import Gilbreth.Store.Archive

/-!
# The writer loop

A turn of the loop is one input, one tick or one command, with everything it
reads. A command that drains the input channel first is the drained inputs and
then the command, so only the two resets keep a drain of their own.
-/

set_option autoImplicit false

namespace Gilbreth.Store

open Gilbreth.Core

inductive WriterTurn where
  | input (input : WriterInput) (readings : QueueReadings)
  | flushTick (flush : Nat → AttemptReadings StoreError)
      (actionFlush : Nat → AttemptReadings ActionFault)
  | heartbeatTick (clock : Clock) (faults : PersistFaults)
  | openFocusTick (now : Instant) (fault : Option StoreError)
  | pollTick (readings : PollReadings)
  | forgetFocusAttribution (fault : Option StoreError)
  | startRecording (now : Instant) (faults : StartFaults) (command : StartRecording)
  | stopRecording (now : Instant) (flush : Nat → AttemptReadings StoreError)
      (actionFlush : Nat → AttemptReadings ActionFault) (fault : Option StoreError)
      (recordSessionId : Int) (stopReason : RecordStopReason)
  | pauseRecording (now : Instant) (fault : Option StoreError) (recordSessionId : Int)
  | resumeRecording (now : Instant) (fault : Option StoreError) (recordSessionId : Int)
  | extendCap (recordSessionId : Int)
  | declineRecordRequest (now : Instant) (fault : Option StoreError) (requestId : Int)
  | secureErase (settle : SettleReadings) (readings : DeleteReadings) (identity : SessionIdentity)
  | archiveAndReset (settle : SettleReadings) (archiving : ArchiveReadings)
      (readings : DeleteReadings) (archivePath : String) (archive : Option ArchiveFile)
      (identity : SessionIdentity)
  /-- The tray arms or clears the panic cutoff the writer shares with it. -/
  | panicCutoff (cutoff : Option (Int × Instant))
  /-- A capture thread counts a row it could not send. -/
  | captureDropped

inductive WriterReply where
  | silent
  | started (result : Except StoreError Int)
  | acted (result : Except StoreError Unit)
  | erased (report : SecureEraseReport)
  | archived (report : ArchiveResetReport) (files : ArchiveFiles)

def WriterTurn.isReset : WriterTurn → Bool
  | secureErase .. | archiveAndReset .. => true
  | _ => false

def WriterReply.resetCompleted : WriterReply → Bool
  | erased report => report.newSessionId.isSome
  | archived report _ => report.newSessionId.isSome
  | _ => false

variable [Externals] [StoreExternals]

namespace WriterState

variable (config : WriterConfig) (state : WriterState)

def turn : WriterTurn → WriterState × WriterReply
  | .input input readings => (state.queueWriterInput config readings input, .silent)
  | .flushTick flush actionFlush => (state.flushAllBatches flush actionFlush, .silent)
  | .heartbeatTick clock faults => (state.logWriterHeartbeat config clock faults, .silent)
  | .openFocusTick now fault => (state.beat now fault, .silent)
  | .pollTick readings => (state.pollRecordingControl readings, .silent)
  | .forgetFocusAttribution fault => (state.forgetFocusAttribution config [] fault, .silent)
  | .startRecording now faults command =>
      let result := state.startRecording now faults command
      (result.1, .started result.2)
  | .stopRecording now flush actionFlush fault recordSessionId stopReason =>
      let result :=
        state.stopRecording config now ⟨[], flush, actionFlush⟩ fault recordSessionId stopReason
      (result.1, .acted result.2)
  | .pauseRecording now fault recordSessionId =>
      let result := state.pauseRecording now fault recordSessionId
      (result.1, .acted result.2)
  | .resumeRecording now fault recordSessionId =>
      let result := state.resumeRecording now fault recordSessionId
      (result.1, .acted result.2)
  | .extendCap _ => (state, .silent)
  | .declineRecordRequest now fault requestId =>
      (state.declineRecordRequest now fault requestId, .silent)
  | .secureErase settle readings identity =>
      let result := state.secureErase config settle readings identity
      (result.1, .erased result.2)
  | .archiveAndReset settle archiving readings archivePath archive identity =>
      let result := state.archiveAndReset config settle archiving readings archivePath archive
        identity
      (result.state, .archived result.report result.files)
  | .panicCutoff cutoff => ({ state with panicActionCutoff := cutoff }, .silent)
  | .captureDropped =>
      ({ state with
         diagnostics.captureEventsDropped := state.diagnostics.captureEventsDropped + 1 },
        .silent)

end WriterState

def writerMachine (config : WriterConfig) : Machine WriterState WriterTurn WriterReply where
  step state turn := state.turn config turn

end Gilbreth.Store
