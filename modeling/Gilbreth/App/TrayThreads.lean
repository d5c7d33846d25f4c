import Gilbreth.App.Tray

/-!
# Prompts and start commands

One flag admits one prompt at a time, so at most one start command is on its way to the writer,
and only while its dialog's thread waits for the reply.
-/

set_option autoImplicit false

namespace Gilbreth.App

def QueuedCommand.isStart : QueuedCommand → Bool
  | .startRecording => true
  | .record _ => false

def StartThread.isWaiting : StartThread → Bool
  | .waiting _ _ => true
  | _ => false

namespace TraySystem

/-- The start commands that wait in the writer's channel. -/
def queuedStarts (tray : TraySystem) : Nat := tray.sent.countP QueuedCommand.isStart

/-- What the prompt flag says about the threads. -/
structure Prompted (tray : TraySystem) : Prop where
  start : tray.startThread ≠ none → tray.promptInFlight = true ∧ tray.capPrompt = none
  cap : tray.capPrompt ≠ none → tray.promptInFlight = true
  queued : tray.queuedStarts = (tray.startThread.any StartThread.isWaiting).toNat

/-- A step beside the prompts and the start command. -/
structure SamePrompt (tray next : TraySystem) : Prop where
  flag : next.promptInFlight = tray.promptInFlight
  cap : next.capPrompt = tray.capPrompt
  thread : next.startThread = tray.startThread
  queued : next.queuedStarts = tray.queuedStarts

theorem SamePrompt.trans {first second third : TraySystem} (before : SamePrompt first second)
    (after : SamePrompt second third) : SamePrompt first third where
  flag := after.flag.trans before.flag
  cap := after.cap.trans before.cap
  thread := after.thread.trans before.thread
  queued := after.queued.trans before.queued

theorem Prompted.of_same {tray next : TraySystem} (prompted : tray.Prompted)
    (same : SamePrompt tray next) : next.Prompted := by
  constructor
  · rw [same.thread, same.flag, same.cap]
    exact prompted.start
  · rw [same.cap, same.flag]
    exact prompted.cap
  · rw [same.queued, same.thread]
    exact prompted.queued

section Steps

variable {tray : TraySystem} (prompted : tray.Prompted)

include prompted

theorem Prompted.idle (down : tray.promptInFlight = false) :
    tray.startThread = none ∧ tray.capPrompt = none := by
  have neither {prompt : Prop} (raised : prompt → tray.promptInFlight = true) : ¬prompt := by
    intro shown
    rw [raised shown] at down
    cases down
  constructor
  · by_contra thread
    exact neither (fun shown => (prompted.start shown).1) thread
  · by_contra prompt
    exact neither prompted.cap prompt

theorem Prompted.none_queued {stands : StartThread} (thread : tray.startThread = some stands)
    (still : stands.isWaiting = false) : tray.queuedStarts = 0 := by
  rw [prompted.queued, thread, Option.any_some, still]
  rfl

theorem Prompted.waits_for_start {rest : List QueuedCommand}
    (queue : tray.sent = .startRecording :: rest) :
    ∃ stands, tray.startThread = some stands ∧ stands.isWaiting = true := by
  have queued := prompted.queued
  unfold queuedStarts at queued
  rw [queue, List.countP_cons_of_pos rfl] at queued
  rw [← Option.any_eq_true]
  by_contra idle
  rw [Bool.not_eq_true] at idle
  rw [idle] at queued
  cases queued

theorem Prompted.thread_ends {stands : StartThread} (thread : tray.startThread = some stands)
    (still : stands.isWaiting = false) : tray.startThreadEnds.Prompted := by
  have shown : tray.startThread ≠ none := by
    rw [thread]
    exact Option.some_ne_none stands
  constructor
  · exact fun shows => absurd rfl shows
  · exact fun cap => absurd (prompted.start shown).2 cap
  · exact prompted.none_queued thread still

theorem Prompted.spawn_dialog : tray.spawnRecordRequestDialog.Prompted := by
  unfold spawnRecordRequestDialog
  split
  · exact prompted
  · next free =>
    rw [Bool.not_eq_true, Bool.or_eq_false_iff] at free
    have idle := prompted.idle free.2
    have queued := prompted.queued
    rw [idle.1] at queued
    exact ⟨fun _ => ⟨rfl, idle.2⟩, fun _ => rfl, queued⟩

theorem Prompted.decline_start : tray.declineStart.Prompted := by
  unfold declineStart
  split
  · next thread => exact prompted.thread_ends thread rfl
  · exact prompted

theorem Prompted.confirm_start (elevatedHelperRequested : Bool) (sendError : Option String) :
    (tray.confirmStart elevatedHelperRequested sendError).Prompted := by
  unfold confirmStart
  split
  · next thread =>
    have shown : tray.startThread ≠ none := by
      rw [thread]
      exact Option.some_ne_none _
    unfold startConfirmed
    split
    · exact prompted.thread_ends thread rfl
    · cases sendError with
      | none =>
          have one : (tray.sent ++ [QueuedCommand.startRecording]).countP QueuedCommand.isStart =
              1 := by
            rw [List.countP_append]
            have before := prompted.none_queued thread rfl
            unfold queuedStarts at before
            rw [before]
            rfl
          exact ⟨fun _ => prompted.start shown, prompted.cap, one⟩
      | some error =>
          have failed : SamePrompt tray
              ({ tray with
                controls := restoreBaselineCaptureAfterRecording
                  (suspendBaselineCaptureForRecording tray.controls).1
                  (suspendBaselineCaptureForRecording tray.controls).2 }.send
                (.failed none (recordFailStartWriterUnavailable ++ ": " ++ error))) :=
            ⟨rfl, rfl, rfl, rfl⟩
          have ends := (prompted.of_same failed).thread_ends thread rfl
          exact ends
  · exact prompted

theorem Prompted.receive_start_reply : tray.receiveStartReply.Prompted := by
  unfold receiveStartReply
  split
  · next elevatedHelperRequested baselineCaptureSuspended reply thread =>
    have told (controls : Windows.CaptureControls) (event : RecordUiEvent) :
        ({ tray with controls := controls }.send event).startThreadEnds.Prompted := by
      have same : SamePrompt tray ({ tray with controls := controls }.send event) :=
        ⟨rfl, rfl, rfl, rfl⟩
      exact (prompted.of_same same).thread_ends thread rfl
    unfold startReplied
    dsimp only
    split
    · exact told tray.controls _
    · exact told _ _
  · exact prompted

theorem Prompted.spawn_cap_prompt (recordSessionId : Int) :
    (tray.spawnCapPrompt recordSessionId).Prompted := by
  unfold spawnCapPrompt
  split
  · next free =>
    rw [Bool.and_eq_true, Bool.not_eq_true'] at free
    have idle := prompted.idle free.2
    exact ⟨fun shown => absurd idle.1 shown, fun _ => rfl, prompted.queued⟩
  · exact prompted

theorem Prompted.answer_cap_prompt (continues : Bool) (sendError : Option String) :
    (tray.answerCapPrompt continues sendError).Prompted := by
  unfold answerCapPrompt
  split
  · exact prompted
  · next recordSessionId prompt =>
    have idle : tray.startThread = none := by
      by_contra shown
      rw [(prompted.start shown).2] at prompt
      cases prompt
    have ended : { tray with promptInFlight := false, capPrompt := none }.Prompted :=
      ⟨fun shown => absurd idle shown, fun shown => absurd rfl shown, prompted.queued⟩
    have told (event : RecordUiEvent) :
        ({ tray with promptInFlight := false, capPrompt := none }.send event).Prompted :=
      ended.of_same ⟨rfl, rfl, rfl, rfl⟩
    dsimp only
    split
    · exact ended
    · exact told _
    · exact told _

theorem Prompted.writer_takes (outcome : WriterOutcome) (replyLost : Option String) :
    (tray.writerTakes outcome replyLost).Prompted := by
  have queued := prompted.queued
  unfold writerTakes
  unfold queuedStarts at queued
  cases sent : tray.sent with
  | nil => exact prompted
  | cons command rest =>
      rw [sent] at queued
      cases command with
      | record command => exact ⟨prompted.start, prompted.cap, queued⟩
      | startRecording =>
          obtain ⟨stands, thread, waiting⟩ := prompted.waits_for_start sent
          cases stands with
          | confirming => cases waiting
          | replied elevatedHelperRequested baselineCaptureSuspended reply => cases waiting
          | waiting elevatedHelperRequested baselineCaptureSuspended =>
              have shown : tray.startThread ≠ none := by
                rw [thread]
                exact Option.some_ne_none _
              rw [List.countP_cons_of_pos rfl, thread] at queued
              have left : rest.countP QueuedCommand.isStart = 0 := Nat.succ.inj queued
              unfold writerAnswers
              dsimp only
              rw [thread]
              exact ⟨fun _ => prompted.start shown, prompted.cap, left⟩

end Steps

section Beside

variable (tray : TraySystem)

theorem stop_recording_same_prompt (recordSessionId : Int) (stopReason : Core.RecordStopReason) :
    SamePrompt tray (tray.stopRecordingWithReason recordSessionId stopReason) := by
  obtain ⟨worker, pending, unsent, changed⟩ :=
    stop_recording_changes tray recordSessionId stopReason
  rw [changed]
  exact ⟨rfl, rfl, rfl, rfl⟩

theorem start_worker_same_prompt (recordSessionId : Int) (elevatedHelperRequested : Bool)
    (starts : WorkerStarts) :
    SamePrompt tray (tray.startRecordWorker recordSessionId elevatedHelperRequested starts) := by
  obtain ⟨worker, pending, unsent, changed⟩ :=
    start_worker_changes tray recordSessionId elevatedHelperRequested starts
  rw [changed]
  exact ⟨rfl, rfl, rfl, rfl⟩

theorem simple_command_same_prompt (build : Int → RecordCommand) :
    SamePrompt tray (tray.spawnSimpleRecordCommand build) := by
  obtain ⟨busy, unsent, changed⟩ := simple_command_changes tray build
  rw [changed]
  exact ⟨rfl, rfl, rfl, rfl⟩

theorem recording_over_same_prompt : SamePrompt tray tray.recordingOver := by
  obtain ⟨controls, changed⟩ := recording_over_changes tray
  rw [changed]
  exact ⟨rfl, rfl, rfl, rfl⟩

theorem settle_same_prompt (event : RecordUiEvent) : SamePrompt tray (tray.settle event) := by
  obtain ⟨recordings, changed⟩ := settle_changes tray event
  rw [changed]
  exact ⟨rfl, rfl, rfl, rfl⟩

theorem handle_event_same_prompt (starts : WorkerStarts) (event : RecordUiEvent) :
    SamePrompt tray (tray.handleRecordUiEvent starts event) := by
  have still : SamePrompt tray tray := ⟨rfl, rfl, rfl, rfl⟩
  unfold handleRecordUiEvent
  cases event with
  | started recordSessionId elevatedHelperRequested baselineCaptureSuspended =>
      have shown : SamePrompt tray (tray.showRecording recordSessionId baselineCaptureSuspended) :=
        ⟨rfl, rfl, rfl, rfl⟩
      dsimp only
      split
      · exact shown.trans (stop_recording_same_prompt _ recordSessionId .panicHotkey)
      · exact shown.trans (start_worker_same_prompt _ _ elevatedHelperRequested starts)
  | stopForSafetyCap recordSessionId => exact stop_recording_same_prompt tray _ _
  | stopped recordSessionId =>
      dsimp only
      split
      · exact still
      · exact recording_over_same_prompt tray
  | paused recordSessionId =>
      dsimp only
      split
      all_goals exact ⟨rfl, rfl, rfl, rfl⟩
  | resumed recordSessionId =>
      dsimp only
      split
      all_goals exact ⟨rfl, rfl, rfl, rfl⟩
  | failed recordSessionId message =>
      cases recordSessionId with
      | none => exact recording_over_same_prompt tray
      | some recordSessionId =>
          have stopping : SamePrompt tray (tray.spawnStopRecordCommand recordSessionId .error) :=
            ⟨rfl, rfl, rfl, rfl⟩
          dsimp only
          split_ifs
          · exact still
          · exact stopping.trans (recording_over_same_prompt _)
          · exact recording_over_same_prompt tray

theorem toggle_same_prompt : SamePrompt tray tray.toggleCapturePause := by
  unfold toggleCapturePause
  split
  · unfold resumeCapture
    split
    · exact stop_recording_same_prompt tray _ _
    · split
      all_goals exact ⟨rfl, rfl, rfl, rfl⟩
  · have paused : SamePrompt tray ({ tray with capturePausedByUser := true }.setSuspended true) :=
      ⟨rfl, rfl, rfl, rfl⟩
    unfold pauseCapture
    dsimp only
    split
    · exact paused.trans (stop_recording_same_prompt _ _ _)
    · exact paused

theorem send_command_same_prompt (index : Nat) (sendError : Option String) :
    SamePrompt tray (tray.sendCommand index sendError) := by
  unfold sendCommand
  split
  · exact ⟨rfl, rfl, rfl, rfl⟩
  · next command _ =>
    cases sendError with
    | none =>
        refine ⟨rfl, rfl, rfl, ?_⟩
        exact (List.countP_append ..).trans (Nat.add_zero _)
    | some error => exact ⟨rfl, rfl, rfl, rfl⟩

theorem resume_hears_same_prompt (message : ResumeMessage) :
    SamePrompt tray (tray.resumeHears message) := by
  obtain ⟨controls, paused, resume, changed⟩ := resume_hears_changes tray message
  rw [changed]
  exact ⟨rfl, rfl, rfl, rfl⟩

theorem finish_same_prompt (keepSuspended : Bool) :
    SamePrompt tray (tray.finishPrivacyAction keepSuspended) := by
  obtain ⟨controls, thread, kept, changed⟩ := finish_changes tray keepSuspended
  rw [changed]
  exact ⟨rfl, rfl, rfl, rfl⟩

theorem restore_hears_same_prompt (message : ResumeMessage) :
    SamePrompt tray (tray.restoreHears message) := by
  obtain ⟨controls, paused, thread, changed⟩ := restore_hears_changes tray message
  rw [changed]
  exact ⟨rfl, rfl, rfl, rfl⟩

end Beside

theorem Prompted.perform {tray : TraySystem} (prompted : tray.Prompted) (act : TrayAct) :
    (tray.perform act).Prompted := by
  have edge {act : TrayAct} (isEdge : act.isPrivacyEdge = true) : (tray.perform act).Prompted := by
    obtain ⟨_, _, _, changes⟩ := privacy_edge_changes tray isEdge
    rw [changes]
    exact prompted.of_same ⟨rfl, rfl, rfl, rfl⟩
  cases act with
  | toggleCapturePause => exact prompted.of_same (toggle_same_prompt tray)
  | resumeHears message => exact prompted.of_same (resume_hears_same_prompt tray message)
  | spawnRecordRequestDialog => exact prompted.spawn_dialog
  | declineStart => exact prompted.decline_start
  | confirmStart elevatedHelperRequested sendError =>
      exact prompted.confirm_start elevatedHelperRequested sendError
  | receiveStartReply => exact prompted.receive_start_reply
  | stopRecording =>
      change tray.stopRecording.Prompted
      unfold stopRecording
      split
      · exact prompted.of_same (stop_recording_same_prompt tray _ _)
      · exact prompted
  | recordWorkerDied stopReason =>
      change (tray.recordWorkerDied stopReason).Prompted
      unfold recordWorkerDied
      split
      · exact prompted.of_same (stop_recording_same_prompt tray _ _)
      · exact prompted
  | pauseRecording =>
      change tray.pauseRecording.Prompted
      unfold pauseRecording
      split
      · exact prompted
      · exact prompted.of_same (simple_command_same_prompt tray .pause)
  | resumeRecording =>
      change tray.resumeRecording.Prompted
      unfold resumeRecording
      split
      · exact prompted.of_same (simple_command_same_prompt tray .resume)
      · exact prompted
  | spawnCapPrompt recordSessionId => exact prompted.spawn_cap_prompt recordSessionId
  | answerCapPrompt continues sendError => exact prompted.answer_cap_prompt continues sendError
  | sendCommand index sendError =>
      exact prompted.of_same (send_command_same_prompt tray index sendError)
  | writerTakes outcome replyLost => exact prompted.writer_takes outcome replyLost
  | receiveReply index =>
      change (tray.receiveReply index).Prompted
      unfold receiveReply
      split
      · exact prompted
      · exact prompted.of_same ⟨rfl, rfl, rfl, rfl⟩
  | handleRecordUiEvent starts =>
      change (tray.handleNextUiEvent starts).Prompted
      unfold handleNextUiEvent
      split
      · exact prompted
      · next event rest _ =>
        have popped : SamePrompt tray (tray.takeEvent rest) := ⟨rfl, rfl, rfl, rfl⟩
        have handled := handle_event_same_prompt (tray.takeEvent rest) starts event
        exact prompted.of_same (popped.trans (handled.trans (settle_same_prompt _ event)))
  | requestPrivacyAction => exact edge rfl
  | declinePrivacyAction => exact edge rfl
  | endPrivacyAction => exact edge rfl
  | takeSuspension =>
      change tray.takeSuspension.Prompted
      unfold takeSuspension
      split
      · exact prompted.of_same ⟨rfl, rfl, rfl, rfl⟩
      · exact prompted
  | finishPrivacyAction keepSuspended =>
      exact prompted.of_same (finish_same_prompt tray keepSuspended)
  | restoreHears message => exact prompted.of_same (restore_hears_same_prompt tray message)
  | beginSensitiveTransition => exact prompted.of_same ⟨rfl, rfl, rfl, rfl⟩
  | endSensitiveTransition => exact prompted.of_same ⟨rfl, rfl, rfl, rfl⟩

theorem prompted_step {tray : TraySystem} (prompted : tray.Prompted) (act : TrayAct) :
    (tray.step act).Prompted := by
  rcases step_cases tray act with waits | ⟨performed, -⟩
  · rw [waits]
    exact prompted
  · rw [performed]
    exact prompted.perform act

theorem prompted_new (streams : CaptureStream → Bool) (idleThresholdMs : UInt64) :
    (new streams idleThresholdMs).Prompted where
  start shown := absurd rfl shown
  cap shown := absurd rfl shown
  queued := rfl

end TraySystem

end Gilbreth.App
