import Mathlib
import Gilbreth.Core.Action
import Gilbreth.Library.Machine
import Gilbreth.Windows.CaptureControls

/-!
# The tray and the threads it starts

The tray's own thread keeps which recording is active. Dialogs, commands to the writer and
privacy operations run on threads of their own; what they learn about a recording comes back as
events, which the tray handles in order. One step is one act of one thread: what it does until it
waits for an answer, a dialog or another thread. Rows, reseeds and the cutoff of a panic stop are
left out; of the writer only the recording that it holds is kept.
-/

set_option autoImplicit false

namespace Gilbreth.App

open Gilbreth.Core (RecordStopReason)
open Gilbreth.Windows (CaptureControls)

section Values

inductive RecordUiEvent where
  | started (recordSessionId : Int) (elevatedHelperRequested baselineCaptureSuspended : Bool)
  | stopForSafetyCap (recordSessionId : Int)
  | stopped (recordSessionId : Int)
  | paused (recordSessionId : Int)
  | resumed (recordSessionId : Int)
  | failed (recordSessionId : Option Int) (message : String)

/-- What `deliver_record_command` carries to the writer. -/
inductive RecordCommand where
  | stop (recordSessionId : Int) (stopReason : RecordStopReason)
  | pause (recordSessionId : Int)
  | resume (recordSessionId : Int)

/-- The writer's answer, or that its end of the reply channel was dropped. -/
inductive RecordReply (Answer : Type) where
  | answered (result : Except String Answer)
  | lost (error : String)

/-- What waits in the writer's command channel. -/
inductive QueuedCommand where
  | startRecording
  | record (command : RecordCommand)

inductive StartThread where
  | confirming
  | waiting (elevatedHelperRequested baselineCaptureSuspended : Bool)
  | replied (elevatedHelperRequested baselineCaptureSuspended : Bool) (reply : RecordReply Int)

/-- A thread inside `resume_capture_after_quiet`, in one of three attempts. Without a generation it
waits for the pump to reconcile the sensitive contexts, with one for the forwarder to be quiet. -/
structure ResumeCaptureAfterQuiet where
  boundary : Bool
  attempt : Nat
  generation : Option Nat

/-- The report comes after the restore, and its dialog waits for the user. -/
inductive PrivacyThread where
  | confirming
  | running (manualPauseAtStart : Bool)
  | restoring (resume : ResumeCaptureAfterQuiet)
  | reporting

def PrivacyThread.holds : PrivacyThread → Bool
  | .running _ | .restoring _ => true
  | .confirming | .reporting => false

def recordFailCommandWriterUnavailable : String :=
  "Record command could not start because the writer is not available"

def recordFailCommand : String := "Record command failed"

def recordFailCommandNoResult : String := "Record command did not return a result"

def recordFailStartWriterUnavailable : String :=
  "Recording could not start because the writer is not available"

def recordFailStart : String := "Recording could not start"

def recordFailStartNoResult : String := "Recording did not return a result"

def recordFailCapResponseUnsaved : String := "Recording cap response could not be saved"

def RecordCommand.recordSessionId : RecordCommand → Int
  | .stop recordSessionId _ => recordSessionId
  | .pause recordSessionId => recordSessionId
  | .resume recordSessionId => recordSessionId

/-- The pause and resume lane shares one flag; stops are never refused. -/
def RecordCommand.holdsActionFlag : RecordCommand → Bool
  | .stop _ _ => false
  | _ => true

def RecordCommand.event : RecordCommand → RecordUiEvent
  | .stop recordSessionId _ => .stopped recordSessionId
  | .pause recordSessionId => .paused recordSessionId
  | .resume recordSessionId => .resumed recordSessionId

def RecordCommand.failure (command : RecordCommand) (reason error : String) : RecordUiEvent :=
  .failed (some command.recordSessionId) (reason ++ ": " ++ error)

/-- The end of `deliver_record_command`. -/
def RecordCommand.delivered (command : RecordCommand) : RecordReply Unit → RecordUiEvent
  | .answered (.ok ()) => command.event
  | .answered (.error error) => command.failure recordFailCommand error
  | .lost error => command.failure recordFailCommandNoResult error

/-- The end of `run_record_routine_dialogs_and_command`. -/
def startEvent (elevatedHelperRequested baselineCaptureSuspended : Bool) :
    RecordReply Int → RecordUiEvent
  | .answered (.ok recordSessionId) =>
      .started recordSessionId elevatedHelperRequested baselineCaptureSuspended
  | .answered (.error error) => .failed none (recordFailStart ++ ": " ++ error)
  | .lost error => .failed none (recordFailStartNoResult ++ ": " ++ error)

/-- What a thread that resumes capture waits for. -/
inductive ResumeMessage where
  | reconciled (answered : Bool)
  | flushed (quiet boundaryWritten : Bool)

inductive ResumeOutcome where
  | goesOn (resume : ResumeCaptureAfterQuiet)
  | reopened
  | gaveUp

/-- Which of the two workers can be started for a recording. -/
structure WorkerStarts where
  elevatedHelper : Bool
  standard : Bool

def ResumeCaptureAfterQuiet.first (boundary : Bool) : ResumeCaptureAfterQuiet :=
  ⟨boundary, 0, none⟩

/-- `continue` in the loop over `0..3`. -/
def ResumeCaptureAfterQuiet.nextAttempt (resume : ResumeCaptureAfterQuiet) : ResumeOutcome :=
  if resume.attempt < 2 then
    .goesOn { resume with attempt := resume.attempt + 1, generation := none }
  else .gaveUp

/-- What a message leads to while so many sensitive transitions are active, in this generation. -/
def ResumeCaptureAfterQuiet.hears (resume : ResumeCaptureAfterQuiet)
    (transitions generation : Nat) : ResumeMessage → ResumeOutcome
  | .reconciled answered =>
      match resume.generation with
      | none =>
          if answered && transitions == 0 then
            .goesOn { resume with generation := some generation }
          else resume.nextAttempt
      | some _ => .goesOn resume
  | .flushed quiet boundaryWritten =>
      match resume.generation with
      | none => .goesOn resume
      | some prepared =>
          if quiet && transitions == 0 && generation == prepared then
            if resume.boundary && !boundaryWritten then .gaveUp else .reopened
          else resume.nextAttempt

def reopenCapture (controls : CaptureControls) : CaptureControls :=
  { controls with suspended := false, sensitiveResumeBarrier := false }

def suspendBaselineCaptureForRecording (controls : CaptureControls) : CaptureControls × Bool :=
  if controls.isSuspended then (controls, false) else ({ controls with suspended := true }, true)

def restoreBaselineCaptureAfterRecording (controls : CaptureControls)
    (suspendedForRecording : Bool) : CaptureControls :=
  if suspendedForRecording then { controls with suspended := false } else controls

end Values

/-- The tray, its threads, and the recording that the writer holds. The last two fields are
history: whether a privacy operation ended with capture left suspended, and the recordings that
the writer opened and whose `Stopped` or `Failed` event has not been handled. -/
structure TraySystem where
  controls : CaptureControls
  /-- The sensitive transitions begun so far. -/
  sensitiveTransitionGeneration : Nat
  capturePausedByUser : Bool
  privacySuspensionOwned : Bool
  privacyActionInProgress : Bool
  recordActionInProgress : Bool
  promptInFlight : Bool
  activeRecordSessionId : Option Int
  recordStopPendingSessionId : Option Int
  recordingPaused : Bool
  baselineCaptureSuspendedForRecording : Bool
  recordWorker : Bool
  /-- The tray's own thread, while it resumes capture. -/
  captureResume : Option ResumeCaptureAfterQuiet
  uiEvents : List RecordUiEvent
  startThread : Option StartThread
  capPrompt : Option Int
  privacyThread : Option PrivacyThread
  unsent : List RecordCommand
  sent : List QueuedCommand
  replies : List (RecordCommand × RecordReply Unit)
  writerRecordSessionId : Option Int
  keptSuspended : Bool
  recordings : List Int

/-- What the writer makes of the command it takes. -/
inductive WriterOutcome where
  | done (recordSessionId : Int)
  | refused (error : String)

inductive TrayAct where
  | toggleCapturePause
  | resumeHears (message : ResumeMessage)
  | spawnRecordRequestDialog
  | declineStart
  | confirmStart (elevatedHelperRequested : Bool) (sendError : Option String)
  | receiveStartReply
  | stopRecording
  | recordWorkerDied (stopReason : RecordStopReason)
  | pauseRecording
  | resumeRecording
  | spawnCapPrompt (recordSessionId : Int)
  | answerCapPrompt (continues : Bool) (sendError : Option String)
  | sendCommand (index : Nat) (sendError : Option String)
  | writerTakes (outcome : WriterOutcome) (replyLost : Option String)
  | receiveReply (index : Nat)
  | handleRecordUiEvent (starts : WorkerStarts)
  | requestPrivacyAction
  | declinePrivacyAction
  | takeSuspension
  | finishPrivacyAction (keepSuspended : Bool)
  | restoreHears (message : ResumeMessage)
  | endPrivacyAction
  | beginSensitiveTransition
  | endSensitiveTransition

/-- The acts of the tray's own thread, beside what it hears while it resumes capture. -/
def TrayAct.isTrayThread : TrayAct → Bool
  | .toggleCapturePause | .spawnRecordRequestDialog | .stopRecording | .recordWorkerDied _ => true
  | .pauseRecording | .resumeRecording | .spawnCapPrompt _ | .handleRecordUiEvent _ => true
  | .requestPrivacyAction => true
  | _ => false

/-- A privacy operation is asked for, declined, or its report closed. -/
def TrayAct.isPrivacyEdge : TrayAct → Bool
  | .requestPrivacyAction | .declinePrivacyAction | .endPrivacyAction => true
  | _ => false

/-- Which recording the writer holds after a command. -/
def WriterOutcome.holds (held : Option Int) : QueuedCommand → WriterOutcome → Option Int
  | .startRecording, .done recordSessionId => some recordSessionId
  | .record (.stop recordSessionId _), .done _ =>
      if held = some recordSessionId then none else held
  | _, _ => held

def WriterOutcome.started : WriterOutcome → Except String Int
  | .done recordSessionId => .ok recordSessionId
  | .refused error => .error error

def WriterOutcome.carriedOut : WriterOutcome → Except String Unit
  | .done _ => .ok ()
  | .refused error => .error error

namespace TraySystem

def new (streams : CaptureStream → Bool) (idleThresholdMs : UInt64) : TraySystem where
  controls := .new streams idleThresholdMs
  sensitiveTransitionGeneration := 0
  capturePausedByUser := false
  privacySuspensionOwned := false
  privacyActionInProgress := false
  recordActionInProgress := false
  promptInFlight := false
  activeRecordSessionId := none
  recordStopPendingSessionId := none
  recordingPaused := false
  baselineCaptureSuspendedForRecording := false
  recordWorker := false
  captureResume := none
  uiEvents := []
  startThread := none
  capPrompt := none
  privacyThread := none
  unsent := []
  sent := []
  replies := []
  writerRecordSessionId := none
  keptSuspended := false
  recordings := []

section Handlers

variable (tray : TraySystem)

def setSuspended (suspended : Bool) : TraySystem :=
  { tray with controls := { tray.controls with suspended := suspended } }

def send (event : RecordUiEvent) : TraySystem :=
  { tray with uiEvents := tray.uiEvents ++ [event] }

/-- A privacy operation has taken the suspension and has not handed capture back. -/
def operationHolds : Bool := tray.privacyThread.any PrivacyThread.holds

def recordLifecycleActive : Bool :=
  tray.activeRecordSessionId.isSome || tray.recordStopPendingSessionId.isSome ||
    tray.recordActionInProgress || tray.promptInFlight

def shouldSpawnCapPrompt (recordSessionId : Int) : Bool :=
  decide (tray.activeRecordSessionId = some recordSessionId) &&
    decide (tray.recordStopPendingSessionId ≠ some recordSessionId)

def spawnStopRecordCommand (recordSessionId : Int) (stopReason : RecordStopReason) : TraySystem :=
  { tray with unsent := tray.unsent ++ [.stop recordSessionId stopReason] }

def stopRecordWorker : TraySystem := { tray with recordWorker := false }

def stopRecordingWithReason (recordSessionId : Int) (stopReason : RecordStopReason) : TraySystem :=
  if tray.activeRecordSessionId ≠ some recordSessionId then tray
  else
    let frozen := if stopReason = .panicHotkey then tray.stopRecordWorker else tray
    if tray.recordStopPendingSessionId = some recordSessionId then frozen
    else
      { frozen with recordStopPendingSessionId := some recordSessionId }.spawnStopRecordCommand
        recordSessionId stopReason

def startRecordWorker (recordSessionId : Int) (elevatedHelperRequested : Bool)
    (starts : WorkerStarts) : TraySystem :=
  let stopped := tray.stopRecordWorker
  if (elevatedHelperRequested && starts.elevatedHelper) || starts.standard then
    { stopped with recordWorker := true }
  else stopped.stopRecordingWithReason recordSessionId .error

def resumeBaselineCaptureAfterRecording : TraySystem :=
  if tray.capturePausedByUser then { tray with baselineCaptureSuspendedForRecording := false }
  else
    { tray with
      controls := restoreBaselineCaptureAfterRecording tray.controls
        tray.baselineCaptureSuspendedForRecording
      baselineCaptureSuspendedForRecording := false }

def showRecording (recordSessionId : Int) (baselineCaptureSuspended : Bool) : TraySystem :=
  { tray with
    activeRecordSessionId := some recordSessionId
    recordStopPendingSessionId := none
    recordingPaused := false
    baselineCaptureSuspendedForRecording := baselineCaptureSuspended }

/-- What `Stopped` and `Failed` both do. -/
def recordingOver : TraySystem :=
  { tray.stopRecordWorker with
    activeRecordSessionId := none
    recordStopPendingSessionId := none
    recordingPaused := false }.resumeBaselineCaptureAfterRecording

def takeEvent (rest : List RecordUiEvent) : TraySystem := { tray with uiEvents := rest }

/-- One turn of the loop of `handle_record_ui_events`. -/
def handleRecordUiEvent (starts : WorkerStarts) : RecordUiEvent → TraySystem
  | .started recordSessionId elevatedHelperRequested baselineCaptureSuspended =>
      let shown := tray.showRecording recordSessionId baselineCaptureSuspended
      if shown.capturePausedByUser then
        shown.stopRecordingWithReason recordSessionId .panicHotkey
      else shown.startRecordWorker recordSessionId elevatedHelperRequested starts
  | .stopForSafetyCap recordSessionId =>
      tray.stopRecordingWithReason recordSessionId .safetyCapStop
  | .stopped recordSessionId =>
      if tray.activeRecordSessionId ≠ some recordSessionId then tray else tray.recordingOver
  | .paused recordSessionId =>
      if tray.activeRecordSessionId ≠ some recordSessionId ∨
          tray.recordStopPendingSessionId = some recordSessionId then tray
      else { tray with recordingPaused := true }
  | .resumed recordSessionId =>
      if tray.activeRecordSessionId ≠ some recordSessionId ∨
          tray.recordStopPendingSessionId = some recordSessionId then tray
      else { tray with recordingPaused := false }
  | .failed (some recordSessionId) _ =>
      if tray.activeRecordSessionId ≠ some recordSessionId then tray
      else if tray.recordStopPendingSessionId ≠ some recordSessionId then
        (tray.spawnStopRecordCommand recordSessionId .error).recordingOver
      else tray.recordingOver
  | .failed none _ => tray.recordingOver

/-- A recording is not counted once its `Stopped` or `Failed` event is handled. -/
def settle : RecordUiEvent → TraySystem
  | .stopped recordSessionId | .failed (some recordSessionId) _ =>
      { tray with recordings := tray.recordings.filter fun other => other ≠ recordSessionId }
  | _ => tray

def handleNextUiEvent (starts : WorkerStarts) : TraySystem :=
  match tray.uiEvents with
  | [] => tray
  | event :: rest => ((tray.takeEvent rest).handleRecordUiEvent starts event).settle event

/-- The user turns capture off: a recording is stopped with it. -/
def pauseCapture : TraySystem :=
  let paused := { tray with capturePausedByUser := true }.setSuspended true
  match paused.activeRecordSessionId with
  | some recordSessionId => paused.stopRecordingWithReason recordSessionId .panicHotkey
  | none => paused

def hears (resume : ResumeCaptureAfterQuiet) (message : ResumeMessage) : ResumeOutcome :=
  resume.hears tray.controls.sensitiveTransitions tray.sensitiveTransitionGeneration message

/-- The user turns capture on again, unless a recording has to be stopped first. -/
def resumeCapture : TraySystem :=
  match tray.activeRecordSessionId with
  | some recordSessionId => tray.stopRecordingWithReason recordSessionId .panicHotkey
  | none =>
      if tray.privacySuspensionOwned then { tray with capturePausedByUser := false }
      else
        { tray with
          controls.sensitiveResumeBarrier := true
          capturePausedByUser := false
          captureResume := some (.first true) }

def toggleCapturePause : TraySystem :=
  if tray.capturePausedByUser then tray.resumeCapture else tray.pauseCapture

/-- A resume that gives up leaves capture paused, as the user had it. -/
def resumeHears (message : ResumeMessage) : TraySystem :=
  match tray.captureResume with
  | none => tray
  | some resume =>
      match tray.hears resume message with
      | .goesOn later => { tray with captureResume := some later }
      | .reopened => { tray with controls := reopenCapture tray.controls, captureResume := none }
      | .gaveUp =>
          { tray with
            controls.sensitiveResumeBarrier := false
            capturePausedByUser := true
            captureResume := none }

def spawnRecordRequestDialog : TraySystem :=
  if tray.privacyActionInProgress || tray.recordActionInProgress || tray.promptInFlight then tray
  else
    { tray with
      recordActionInProgress := true
      promptInFlight := true
      startThread := some .confirming }

/-- The end of the start thread drops the guard of its two flags. -/
def startThreadEnds : TraySystem :=
  { tray with
    recordActionInProgress := false
    promptInFlight := false
    startThread := none }

def declineStart : TraySystem :=
  match tray.startThread with
  | some .confirming => tray.startThreadEnds
  | _ => tray

def startConfirmed (elevatedHelperRequested : Bool) (sendError : Option String) : TraySystem :=
  if tray.capturePausedByUser then tray.startThreadEnds
  else
    let suspended := suspendBaselineCaptureForRecording tray.controls
    match sendError with
    | none =>
        { tray with
          controls := suspended.1
          startThread := some (.waiting elevatedHelperRequested suspended.2)
          sent := tray.sent ++ [.startRecording] }
    | some error =>
        ({ tray with
          controls := restoreBaselineCaptureAfterRecording suspended.1 suspended.2 }.send
            (.failed none (recordFailStartWriterUnavailable ++ ": " ++ error))).startThreadEnds

def confirmStart (elevatedHelperRequested : Bool) (sendError : Option String) : TraySystem :=
  match tray.startThread with
  | some .confirming => tray.startConfirmed elevatedHelperRequested sendError
  | _ => tray

def startReplied (elevatedHelperRequested baselineCaptureSuspended : Bool)
    (reply : RecordReply Int) : TraySystem :=
  let event := startEvent elevatedHelperRequested baselineCaptureSuspended reply
  match reply with
  | .answered (.ok _) => (tray.send event).startThreadEnds
  | _ =>
      ({ tray with
        controls := restoreBaselineCaptureAfterRecording tray.controls
          baselineCaptureSuspended }.send event).startThreadEnds

def receiveStartReply : TraySystem :=
  match tray.startThread with
  | some (.replied elevatedHelperRequested baselineCaptureSuspended reply) =>
      tray.startReplied elevatedHelperRequested baselineCaptureSuspended reply
  | _ => tray

/-- `pause_recording` and `resume_recording`, after their first look at the indicator. -/
def spawnSimpleRecordCommand (build : Int → RecordCommand) : TraySystem :=
  match tray.activeRecordSessionId with
  | none => tray
  | some recordSessionId =>
      if tray.recordStopPendingSessionId = some recordSessionId || tray.recordActionInProgress then
        tray
      else
        { tray with
          recordActionInProgress := true
          unsent := tray.unsent ++ [build recordSessionId] }

def commandEnds (command : RecordCommand) (event : RecordUiEvent) : TraySystem :=
  { tray.send event with
    recordActionInProgress := !command.holdsActionFlag && tray.recordActionInProgress }

def writerAnswers (outcome : WriterOutcome) (replyLost : Option String)
    (command : QueuedCommand) : TraySystem :=
  let held :=
    { tray with
      writerRecordSessionId := outcome.holds tray.writerRecordSessionId command }
  match command with
  | .record command =>
      let reply := match replyLost with
        | none => .answered outcome.carriedOut
        | some error => .lost error
      { held with replies := tray.replies ++ [(command, reply)] }
  | .startRecording =>
      let reply := match replyLost with
        | none => .answered outcome.started
        | some error => .lost error
      { held with
        recordings :=
          match outcome with
          | .done recordSessionId => recordSessionId :: tray.recordings
          | .refused _ => tray.recordings
        startThread :=
          match tray.startThread with
          | some (.waiting elevatedHelperRequested baselineCaptureSuspended) =>
              some (.replied elevatedHelperRequested baselineCaptureSuspended reply)
          | other => other }

/-- The writer takes a command from its channel and answers it. -/
def writerTakes (outcome : WriterOutcome) (replyLost : Option String) : TraySystem :=
  match tray.sent with
  | [] => tray
  | command :: rest => { tray with sent := rest }.writerAnswers outcome replyLost command

def spawnCapPrompt (recordSessionId : Int) : TraySystem :=
  if tray.shouldSpawnCapPrompt recordSessionId && !tray.promptInFlight then
    { tray with promptInFlight := true, capPrompt := some recordSessionId }
  else tray

/-- `run_cap_prompt_and_command`. -/
def answerCapPrompt (continues : Bool) (sendError : Option String) : TraySystem :=
  match tray.capPrompt with
  | none => tray
  | some recordSessionId =>
      let ended := { tray with promptInFlight := false, capPrompt := none }
      match continues, sendError with
      | true, none => ended
      | true, some error =>
          ended.send (.failed (some recordSessionId)
            (recordFailCapResponseUnsaved ++ ": " ++ error))
      | false, _ => ended.send (.stopForSafetyCap recordSessionId)

/-- A command's thread sends it, unless the writer is gone. -/
def sendCommand (index : Nat) (sendError : Option String) : TraySystem :=
  match tray.unsent[index]? with
  | none => tray
  | some command =>
      let taken := { tray with unsent := tray.unsent.eraseIdx index }
      match sendError with
      | none => { taken with sent := tray.sent ++ [.record command] }
      | some error =>
          taken.commandEnds command (command.failure recordFailCommandWriterUnavailable error)

def receiveReply (index : Nat) : TraySystem :=
  match tray.replies[index]? with
  | none => tray
  | some (command, reply) =>
      { tray with replies := tray.replies.eraseIdx index }.commandEnds command
        (command.delivered reply)

def requestPrivacyAction : TraySystem :=
  if tray.recordLifecycleActive || tray.privacyActionInProgress then tray
  else { tray with privacyActionInProgress := true, privacyThread := some .confirming }

def restoreCaptureAfterPrivacyOperation (manualPauseAtStart : Bool) : TraySystem :=
  if tray.capturePausedByUser then { tray with privacyThread := some .reporting }.setSuspended true
  else
    { tray with
      controls.sensitiveResumeBarrier := true
      privacyThread := some (.restoring (.first manualPauseAtStart)) }

/-- The end of `restore_capture_after_privacy_operation`. -/
def restoreHears (message : ResumeMessage) : TraySystem :=
  match tray.privacyThread with
  | some (.restoring resume) =>
      match tray.hears resume message with
      | .goesOn later => { tray with privacyThread := some (.restoring later) }
      | .reopened =>
          { tray with
            controls := reopenCapture tray.controls
            privacyThread := some .reporting }
      | .gaveUp =>
          { tray with
            controls.sensitiveResumeBarrier := false
            capturePausedByUser := true
            privacyThread := some .reporting }.setSuspended true
  | _ => tray

/-- When the report is closed, the thread drops the guards of its two flags. -/
def endPrivacyAction : TraySystem :=
  match tray.privacyThread with
  | some .reporting =>
      { tray with
        privacyActionInProgress := false
        privacySuspensionOwned := false
        privacyThread := none }
  | _ => tray

def declinePrivacyAction : TraySystem :=
  match tray.privacyThread with
  | some .confirming => { tray with privacyActionInProgress := false, privacyThread := none }
  | _ => tray

def takeSuspension : TraySystem :=
  match tray.privacyThread with
  | some .confirming =>
      { tray with
        privacySuspensionOwned := true
        privacyThread := some (.running tray.capturePausedByUser) }.setSuspended true
  | _ => tray

/-- Only `ReplacementSessionFailed` leaves capture suspended. -/
def finishPrivacyAction (keepSuspended : Bool) : TraySystem :=
  match tray.privacyThread with
  | some (.running manualPauseAtStart) =>
      if keepSuspended then
        { tray with
          keptSuspended := true
          privacyThread := some .reporting }
      else tray.restoreCaptureAfterPrivacyOperation manualPauseAtStart
  | _ => tray

def stopRecording : TraySystem :=
  match tray.activeRecordSessionId with
  | some recordSessionId => tray.stopRecordingWithReason recordSessionId .userStop
  | none => tray

def recordWorkerDied (stopReason : RecordStopReason) : TraySystem :=
  match tray.recordWorker, tray.activeRecordSessionId with
  | true, some recordSessionId => tray.stopRecordingWithReason recordSessionId stopReason
  | _, _ => tray

def pauseRecording : TraySystem :=
  if tray.recordingPaused then tray else tray.spawnSimpleRecordCommand .pause

def resumeRecording : TraySystem :=
  if tray.recordingPaused then tray.spawnSimpleRecordCommand .resume else tray

end Handlers

def perform (tray : TraySystem) : TrayAct → TraySystem
  | .toggleCapturePause => tray.toggleCapturePause
  | .resumeHears message => tray.resumeHears message
  | .spawnRecordRequestDialog => tray.spawnRecordRequestDialog
  | .declineStart => tray.declineStart
  | .confirmStart elevatedHelperRequested sendError =>
      tray.confirmStart elevatedHelperRequested sendError
  | .receiveStartReply => tray.receiveStartReply
  | .stopRecording => tray.stopRecording
  | .recordWorkerDied stopReason => tray.recordWorkerDied stopReason
  | .pauseRecording => tray.pauseRecording
  | .resumeRecording => tray.resumeRecording
  | .spawnCapPrompt recordSessionId => tray.spawnCapPrompt recordSessionId
  | .answerCapPrompt continues sendError => tray.answerCapPrompt continues sendError
  | .sendCommand index sendError => tray.sendCommand index sendError
  | .writerTakes outcome replyLost => tray.writerTakes outcome replyLost
  | .receiveReply index => tray.receiveReply index
  | .handleRecordUiEvent starts => tray.handleNextUiEvent starts
  | .requestPrivacyAction => tray.requestPrivacyAction
  | .declinePrivacyAction => tray.declinePrivacyAction
  | .takeSuspension => tray.takeSuspension
  | .finishPrivacyAction keepSuspended => tray.finishPrivacyAction keepSuspended
  | .restoreHears message => tray.restoreHears message
  | .endPrivacyAction => tray.endPrivacyAction
  | .beginSensitiveTransition =>
      { tray with
        controls.sensitiveTransitions := tray.controls.sensitiveTransitions + 1
        sensitiveTransitionGeneration := tray.sensitiveTransitionGeneration + 1 }
  | .endSensitiveTransition =>
      { tray with
        controls.sensitiveTransitions := tray.controls.sensitiveTransitions - 1 }

/-- One act of one thread; an act that its thread cannot do now changes nothing. -/
def step (tray : TraySystem) (act : TrayAct) : TraySystem :=
  if tray.captureResume.isSome && act.isTrayThread then tray else tray.perform act

def machine : Machine TraySystem TrayAct Unit where
  step tray act := (tray.step act, ())

section Changes

variable (tray : TraySystem)

theorem step_cases (act : TrayAct) :
    tray.step act = tray ∨
      tray.step act = tray.perform act ∧ (act.isTrayThread = true → tray.captureResume = none) := by
  unfold step
  split
  · exact Or.inl rfl
  · next free =>
    refine Or.inr ⟨rfl, fun own => ?_⟩
    rw [own, Bool.and_true, Bool.not_eq_true, Option.isSome_eq_false_iff] at free
    exact Option.isNone_iff_eq_none.mp free

theorem stop_recording_changes (recordSessionId : Int) (stopReason : RecordStopReason) :
    ∃ worker pending unsent, tray.stopRecordingWithReason recordSessionId stopReason =
      { tray with
        recordWorker := worker
        recordStopPendingSessionId := pending
        unsent := unsent } := by
  unfold stopRecordingWithReason
  dsimp only
  split_ifs
  all_goals exact ⟨_, _, _, rfl⟩

theorem start_worker_changes (recordSessionId : Int) (elevatedHelperRequested : Bool)
    (starts : WorkerStarts) :
    ∃ worker pending unsent,
      tray.startRecordWorker recordSessionId elevatedHelperRequested starts =
        { tray with
          recordWorker := worker
          recordStopPendingSessionId := pending
          unsent := unsent } := by
  unfold startRecordWorker
  dsimp only
  split
  · exact ⟨_, _, _, rfl⟩
  · exact stop_recording_changes tray.stopRecordWorker recordSessionId .error

theorem simple_command_changes (build : Int → RecordCommand) :
    ∃ busy unsent, tray.spawnSimpleRecordCommand build =
      { tray with
        recordActionInProgress := busy
        unsent := unsent } := by
  unfold spawnSimpleRecordCommand
  split
  · exact ⟨_, _, rfl⟩
  · split_ifs
    all_goals exact ⟨_, _, rfl⟩

theorem recording_over_changes :
    ∃ controls, tray.recordingOver =
      { tray with
        controls := controls
        recordWorker := false
        activeRecordSessionId := none
        recordStopPendingSessionId := none
        recordingPaused := false
        baselineCaptureSuspendedForRecording := false } := by
  unfold recordingOver resumeBaselineCaptureAfterRecording
  split
  all_goals exact ⟨_, rfl⟩

theorem resume_hears_changes (message : ResumeMessage) :
    ∃ controls paused resume, tray.resumeHears message =
      { tray with
        controls := controls
        capturePausedByUser := paused
        captureResume := resume } := by
  unfold resumeHears
  split
  · exact ⟨_, _, _, rfl⟩
  · split
    all_goals exact ⟨_, _, _, rfl⟩

theorem finish_changes (keepSuspended : Bool) :
    ∃ controls thread kept, tray.finishPrivacyAction keepSuspended =
      { tray with
        controls := controls
        privacyThread := thread
        keptSuspended := kept } := by
  unfold finishPrivacyAction restoreCaptureAfterPrivacyOperation
  split
  · split_ifs
    all_goals exact ⟨_, _, _, rfl⟩
  · exact ⟨_, _, _, rfl⟩

theorem privacy_edge_changes {act : TrayAct} (edge : act.isPrivacyEdge = true) :
    ∃ busy owned thread, tray.perform act =
      { tray with
        privacyActionInProgress := busy
        privacySuspensionOwned := owned
        privacyThread := thread } := by
  cases act with
  | requestPrivacyAction =>
      rw [perform, requestPrivacyAction]
      split
      all_goals exact ⟨_, _, _, rfl⟩
  | declinePrivacyAction =>
      rw [perform, declinePrivacyAction]
      split
      all_goals exact ⟨_, _, _, rfl⟩
  | endPrivacyAction =>
      rw [perform, endPrivacyAction]
      split
      all_goals exact ⟨_, _, _, rfl⟩
  | _ => cases edge

theorem restore_hears_changes (message : ResumeMessage) :
    ∃ controls paused thread, tray.restoreHears message =
      { tray with
        controls := controls
        capturePausedByUser := paused
        privacyThread := thread } := by
  unfold restoreHears
  split
  · dsimp only
    split
    all_goals exact ⟨_, _, _, rfl⟩
  · exact ⟨_, _, _, rfl⟩

theorem settle_changes (event : RecordUiEvent) :
    ∃ recordings, tray.settle event = { tray with recordings := recordings } := by
  unfold settle
  split
  all_goals exact ⟨_, rfl⟩

end Changes

end TraySystem

end Gilbreth.App
