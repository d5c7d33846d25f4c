import Gilbreth.App.Tray

/-!
# Capture that the user or a privacy operation holds

The panic pause, Record Routine and a privacy operation share one flag. A step gives it back
wrongly just when Record Routine gives back its own suspension while another holds capture, or
when a resume that waited comes through or gives up after another has moved the flag meanwhile.
-/

set_option autoImplicit false

namespace Gilbreth.App

namespace TraySystem

section Condition

variable (tray : TraySystem)

/-- The user or a privacy operation holds capture. -/
def Held : Prop :=
  tray.capturePausedByUser = true ∨ tray.operationHolds = true ∨ tray.keptSuspended = true

def Guarded : Prop := tray.Held → tray.controls.suspended = true

/-- A start that suspended capture is about to hear that it failed. -/
def StartFailed : Prop :=
  ∃ elevatedHelperRequested reply,
    tray.startThread = some (.replied elevatedHelperRequested true reply) ∧
      ∀ recordSessionId, reply ≠ .answered (.ok recordSessionId)

/-- Handling the event ends the recording that the tray shows. -/
def Ends : RecordUiEvent → Prop
  | .stopped recordSessionId => tray.activeRecordSessionId = some recordSessionId
  | .failed (some recordSessionId) _ => tray.activeRecordSessionId = some recordSessionId
  | .failed none _ => True
  | _ => False

/-- The next event gives back the suspension of a recording. -/
def GivesBack : Prop :=
  tray.baselineCaptureSuspendedForRecording = true ∧ tray.capturePausedByUser = false ∧
    ∃ event rest, tray.uiEvents = event :: rest ∧ tray.Ends event

/-- The step leaves capture suspended while it is held. -/
def LeavesHeld : TrayAct → Prop
  | .receiveStartReply => tray.StartFailed → ¬tray.Held
  | .handleRecordUiEvent _ => tray.captureResume = none → tray.GivesBack → ¬tray.Held
  | .resumeHears message => ∀ resume, tray.captureResume = some resume →
      (tray.hears resume message = .reopened → ¬tray.Held) ∧
        (tray.hears resume message = .gaveUp → tray.controls.suspended = true)
  | .restoreHears message => ∀ resume, tray.privacyThread = some (.restoring resume) →
      tray.hears resume message = .reopened →
        tray.capturePausedByUser = false ∧ tray.keptSuspended = false
  | _ => True

end Condition

section Steps

/-- A step that touches neither the flag nor who holds it. -/
structure SameHold (tray next : TraySystem) : Prop where
  thread : next.privacyThread = tray.privacyThread
  suspended : next.controls.suspended = tray.controls.suspended
  paused : next.capturePausedByUser = tray.capturePausedByUser
  kept : next.keptSuspended = tray.keptSuspended

theorem SameHold.trans {first second third : TraySystem} (before : SameHold first second)
    (after : SameHold second third) : SameHold first third where
  thread := after.thread.trans before.thread
  suspended := after.suspended.trans before.suspended
  paused := after.paused.trans before.paused
  kept := after.kept.trans before.kept

theorem SameHold.held {tray next : TraySystem} (same : SameHold tray next) :
    next.Held ↔ tray.Held := by
  unfold Held operationHolds
  rw [same.paused, same.thread, same.kept]

theorem Guarded.of_same {tray next : TraySystem} (guarded : tray.Guarded)
    (same : SameHold tray next) : next.Guarded := by
  intro held
  rw [same.suspended]
  exact guarded (same.held.mp held)

/-- A step that leaves the flag alone, after which nobody holds capture who did not before. -/
theorem Guarded.of_fewer {tray next : TraySystem} (guarded : tray.Guarded)
    (held : next.Held → tray.Held)
    (suspended : next.controls.suspended = tray.controls.suspended) : next.Guarded := by
  intro holds
  rw [suspended]
  exact guarded (held holds)

theorem guarded_given_back {tray next : TraySystem} {back : Bool} (guarded : tray.Guarded)
    (held : next.Held ↔ tray.Held)
    (suspended : next.controls.suspended = (tray.controls.suspended && !back)) :
    next.Guarded ↔ (back = true → ¬tray.Held) := by
  unfold Guarded
  rw [held, suspended]
  constructor
  · rintro kept rfl holds
    have still := kept holds
    rw [Bool.not_true, Bool.and_false] at still
    cases still
  · intro leaves holds
    cases back with
    | true => exact absurd holds (leaves rfl)
    | false =>
        rw [guarded holds]
        rfl

variable (tray : TraySystem)

theorem stop_recording_same_hold (recordSessionId : Int) (stopReason : Core.RecordStopReason) :
    SameHold tray (tray.stopRecordingWithReason recordSessionId stopReason) := by
  obtain ⟨worker, pending, unsent, changed⟩ :=
    stop_recording_changes tray recordSessionId stopReason
  rw [changed]
  exact ⟨rfl, rfl, rfl, rfl⟩

theorem start_worker_same_hold (recordSessionId : Int) (elevatedHelperRequested : Bool)
    (starts : WorkerStarts) :
    SameHold tray (tray.startRecordWorker recordSessionId elevatedHelperRequested starts) := by
  obtain ⟨worker, pending, unsent, changed⟩ :=
    start_worker_changes tray recordSessionId elevatedHelperRequested starts
  rw [changed]
  exact ⟨rfl, rfl, rfl, rfl⟩

theorem simple_command_same_hold (build : Int → RecordCommand) :
    SameHold tray (tray.spawnSimpleRecordCommand build) := by
  obtain ⟨busy, unsent, changed⟩ := simple_command_changes tray build
  rw [changed]
  exact ⟨rfl, rfl, rfl, rfl⟩

theorem writer_answers_same_hold (outcome : WriterOutcome) (replyLost : Option String)
    (command : QueuedCommand) : SameHold tray (tray.writerAnswers outcome replyLost command) := by
  unfold writerAnswers
  cases command
  all_goals exact ⟨rfl, rfl, rfl, rfl⟩

theorem settle_same_hold (event : RecordUiEvent) : SameHold tray (tray.settle event) := by
  obtain ⟨recordings, changed⟩ := settle_changes tray event
  rw [changed]
  exact ⟨rfl, rfl, rfl, rfl⟩

theorem restore_suspended (controls : Windows.CaptureControls) (suspendedForRecording : Bool) :
    (restoreBaselineCaptureAfterRecording controls suspendedForRecording).suspended =
      (controls.suspended && !suspendedForRecording) := by
  unfold restoreBaselineCaptureAfterRecording
  cases suspendedForRecording
  · exact (Bool.and_true _).symm
  · exact (Bool.and_false _).symm

/-- The end of a recording lowers the flag that the recording raised, unless the user paused. -/
theorem recording_over_suspended :
    tray.recordingOver.controls.suspended = (tray.controls.suspended &&
      !(tray.baselineCaptureSuspendedForRecording && !tray.capturePausedByUser)) := by
  unfold recordingOver resumeBaselineCaptureAfterRecording stopRecordWorker
  cases tray.capturePausedByUser with
  | true =>
      rw [Bool.not_true, Bool.and_false, Bool.not_false, Bool.and_true]
      rfl
  | false =>
      rw [Bool.not_false, Bool.and_true]
      exact restore_suspended tray.controls tray.baselineCaptureSuspendedForRecording

theorem recording_over_held : tray.recordingOver.Held ↔ tray.Held := by
  unfold recordingOver resumeBaselineCaptureAfterRecording stopRecordWorker
  split
  all_goals exact Iff.rfl

theorem handle_ending {event : RecordUiEvent} (ends : tray.Ends event) (starts : WorkerStarts) :
    ∃ before, SameHold tray before ∧
      before.baselineCaptureSuspendedForRecording = tray.baselineCaptureSuspendedForRecording ∧
        tray.handleRecordUiEvent starts event = before.recordingOver := by
  unfold handleRecordUiEvent
  cases event with
  | started | stopForSafetyCap | paused | resumed => exact ends.elim
  | stopped recordSessionId =>
      have active : tray.activeRecordSessionId = some recordSessionId := ends
      exact ⟨tray, ⟨rfl, rfl, rfl, rfl⟩, rfl, if_neg (not_not_intro active)⟩
  | failed recordSessionId message =>
      cases recordSessionId with
      | none => exact ⟨tray, ⟨rfl, rfl, rfl, rfl⟩, rfl, rfl⟩
      | some recordSessionId =>
          have active : tray.activeRecordSessionId = some recordSessionId := ends
          dsimp only
          rw [if_neg (not_not_intro active)]
          split_ifs
          · exact ⟨tray.spawnStopRecordCommand recordSessionId .error,
              ⟨rfl, rfl, rfl, rfl⟩, rfl, rfl⟩
          · exact ⟨tray, ⟨rfl, rfl, rfl, rfl⟩, rfl, rfl⟩

theorem handle_other {event : RecordUiEvent} (goesOn : ¬tray.Ends event) (starts : WorkerStarts) :
    SameHold tray (tray.handleRecordUiEvent starts event) := by
  unfold handleRecordUiEvent
  cases event with
  | started recordSessionId elevatedHelperRequested baselineCaptureSuspended =>
      have shown : SameHold tray (tray.showRecording recordSessionId baselineCaptureSuspended) :=
        ⟨rfl, rfl, rfl, rfl⟩
      dsimp only
      split
      · exact shown.trans (stop_recording_same_hold _ recordSessionId .panicHotkey)
      · exact shown.trans (start_worker_same_hold _ recordSessionId elevatedHelperRequested starts)
  | stopForSafetyCap recordSessionId => exact stop_recording_same_hold tray _ _
  | stopped recordSessionId =>
      have other : tray.activeRecordSessionId ≠ some recordSessionId := goesOn
      dsimp only
      rw [if_pos other]
      exact ⟨rfl, rfl, rfl, rfl⟩
  | paused recordSessionId =>
      dsimp only
      split
      all_goals exact ⟨rfl, rfl, rfl, rfl⟩
  | resumed recordSessionId =>
      dsimp only
      split
      all_goals exact ⟨rfl, rfl, rfl, rfl⟩
  | failed recordSessionId message =>
      cases recordSessionId with
      | none => exact absurd trivial goesOn
      | some recordSessionId =>
          have other : tray.activeRecordSessionId ≠ some recordSessionId := goesOn
          dsimp only
          rw [if_pos other]
          exact ⟨rfl, rfl, rfl, rfl⟩

theorem handle_event_guarded_iff (guarded : tray.Guarded) (starts : WorkerStarts) :
    (tray.handleNextUiEvent starts).Guarded ↔ (tray.GivesBack → ¬tray.Held) := by
  unfold handleNextUiEvent
  cases queue : tray.uiEvents with
  | nil =>
      constructor
      · rintro - ⟨-, -, event, rest, queued, -⟩
        rw [queue] at queued
        cases queued
      · exact fun _ => guarded
  | cons event rest =>
      have popped : SameHold tray (tray.takeEvent rest) := ⟨rfl, rfl, rfl, rfl⟩
      have settled := settle_same_hold ((tray.takeEvent rest).handleRecordUiEvent starts event)
        event
      by_cases ends : tray.Ends event
      · obtain ⟨before, same, flag, handled⟩ := handle_ending (tray.takeEvent rest) ends starts
        have kept := popped.trans same
        have back : tray.GivesBack ↔
            (tray.baselineCaptureSuspendedForRecording && !tray.capturePausedByUser) = true := by
          rw [Bool.and_eq_true, Bool.not_eq_true']
          constructor
          · rintro ⟨ours, unpaused, -⟩
            exact ⟨ours, unpaused⟩
          · rintro ⟨ours, unpaused⟩
            exact ⟨ours, unpaused, event, rest, queue, ends⟩
        have lowered := recording_over_suspended before
        rw [flag, kept.paused, kept.suspended, ← handled, ← settled.suspended] at lowered
        have held := recording_over_held before
        rw [← handled, ← settled.held, kept.held] at held
        rw [back]
        exact guarded_given_back guarded held lowered
      · have same := popped.trans ((handle_other (tray.takeEvent rest) ends starts).trans settled)
        constructor
        · rintro - ⟨-, -, other, later, queued, ending⟩
          rw [queue] at queued
          cases queued
          exact absurd ending ends
        · exact fun _ => guarded.of_same same

theorem start_reply_guarded_iff (guarded : tray.Guarded) :
    tray.receiveStartReply.Guarded ↔ (tray.StartFailed → ¬tray.Held) := by
  have unchanged (elsewhere : ∀ elevatedHelperRequested reply, tray.startThread ≠
      some (.replied elevatedHelperRequested true reply)) {next : TraySystem}
      (same : SameHold tray next) :
      next.Guarded ↔ (tray.StartFailed → ¬tray.Held) := by
    constructor
    · rintro - ⟨elevatedHelperRequested, reply, thread, -⟩
      exact absurd thread (elsewhere elevatedHelperRequested reply)
    · exact fun _ => guarded.of_same same
  unfold receiveStartReply
  cases thread : tray.startThread with
  | none => exact unchanged (fun _ _ => by rw [thread]; rintro ⟨⟩) ⟨rfl, rfl, rfl, rfl⟩
  | some stands =>
      cases stands with
      | confirming =>
          exact unchanged (fun _ _ => by rw [thread]; rintro ⟨⟩) ⟨rfl, rfl, rfl, rfl⟩
      | waiting elevatedHelperRequested baselineCaptureSuspended =>
          exact unchanged (fun _ _ => by rw [thread]; rintro ⟨⟩) ⟨rfl, rfl, rfl, rfl⟩
      | replied elevatedHelperRequested baselineCaptureSuspended reply =>
          by_cases failed : ∀ recordSessionId, reply ≠ .answered (.ok recordSessionId)
          · have back : tray.StartFailed ↔ baselineCaptureSuspended = true := by
              constructor
              · rintro ⟨_, _, same, -⟩
                rw [thread] at same
                cases same
                rfl
              · rintro rfl
                exact ⟨elevatedHelperRequested, reply, thread, failed⟩
            rw [back]
            have restored := restore_suspended tray.controls baselineCaptureSuspended
            unfold startReplied
            dsimp only
            split
            · exact absurd rfl (failed _)
            · exact guarded_given_back guarded Iff.rfl restored
          · push Not at failed
            obtain ⟨recordSessionId, rfl⟩ := failed
            constructor
            · rintro - ⟨_, _, same, fails⟩
              rw [thread] at same
              cases same
              exact absurd rfl (fails recordSessionId)
            · have same : SameHold tray (tray.startReplied elevatedHelperRequested
                  baselineCaptureSuspended (.answered (.ok recordSessionId))) :=
                ⟨rfl, rfl, rfl, rfl⟩
              exact fun _ => guarded.of_same same

theorem pause_guarded : tray.pauseCapture.Guarded := by
  have set : ({ tray with capturePausedByUser := true }.setSuspended true).Guarded :=
    fun _ => rfl
  unfold pauseCapture
  dsimp only
  split
  · exact set.of_same (stop_recording_same_hold _ _ _)
  · exact set

theorem resume_guarded (guarded : tray.Guarded) : tray.resumeCapture.Guarded := by
  have fewer {next : TraySystem} (paused : next.capturePausedByUser = false)
      (thread : next.privacyThread = tray.privacyThread)
      (kept : next.keptSuspended = tray.keptSuspended) (held : next.Held) : tray.Held := by
    unfold Held operationHolds at held
    rw [paused, thread, kept] at held
    rcases held with ⟨⟨⟩⟩ | still
    exact Or.inr still
  unfold resumeCapture
  split
  · exact guarded.of_same (stop_recording_same_hold tray _ _)
  · split
    · exact guarded.of_fewer (fewer rfl rfl rfl) rfl
    · exact guarded.of_fewer (fewer rfl rfl rfl) rfl

theorem toggle_guarded (guarded : tray.Guarded) : tray.toggleCapturePause.Guarded := by
  unfold toggleCapturePause
  split
  · exact resume_guarded tray guarded
  · exact pause_guarded tray

/-- Only the user can have taken hold of capture, by giving up, while the tray resumes it. -/
theorem resume_hears_guarded_iff (guarded : tray.Guarded) (message : ResumeMessage) :
    (tray.resumeHears message).Guarded ↔ tray.LeavesHeld (.resumeHears message) := by
  change _ ↔ ∀ resume, tray.captureResume = some resume → _
  unfold resumeHears
  cases here : tray.captureResume with
  | none =>
      constructor
      · rintro - _ ⟨⟩
      · exact fun _ => guarded
  | some resume =>
      dsimp only
      cases heard : tray.hears resume message with
      | goesOn later =>
          constructor
          · rintro - _ ⟨⟩
            rw [heard]
            exact ⟨nofun, nofun⟩
          · exact fun _ => guarded.of_same ⟨rfl, rfl, rfl, rfl⟩
      | reopened =>
          constructor
          · rintro next _ ⟨⟩
            rw [heard]
            exact ⟨fun _ held => Bool.false_ne_true (next held), nofun⟩
          · intro leaves held
            exact absurd held ((leaves resume rfl).1 heard)
      | gaveUp =>
          constructor
          · rintro next _ ⟨⟩
            rw [heard]
            exact ⟨nofun, fun _ => next (Or.inl rfl)⟩
          · intro leaves _
            exact (leaves resume rfl).2 heard

theorem finish_guarded (guarded : tray.Guarded) (keepSuspended : Bool) :
    (tray.finishPrivacyAction keepSuspended).Guarded := by
  unfold finishPrivacyAction
  split
  · next manualPauseAtStart running =>
    have held : tray.Held := by
      unfold Held operationHolds
      rw [running]
      exact Or.inr (Or.inl rfl)
    have suspended := guarded held
    unfold restoreCaptureAfterPrivacyOperation
    split_ifs
    · exact fun _ => suspended
    · exact fun _ => rfl
    · exact fun _ => suspended
  · exact guarded

theorem restore_hears_guarded_iff (guarded : tray.Guarded) (message : ResumeMessage) :
    (tray.restoreHears message).Guarded ↔ tray.LeavesHeld (.restoreHears message) := by
  change _ ↔ ∀ resume, tray.privacyThread = some (.restoring resume) → _
  have elsewhere (other : ∀ resume, tray.privacyThread ≠ some (.restoring resume)) :
      tray.Guarded ↔ ∀ resume, tray.privacyThread = some (.restoring resume) →
        tray.hears resume message = .reopened →
          tray.capturePausedByUser = false ∧ tray.keptSuspended = false :=
    ⟨fun _ resume here => absurd here (other resume), fun _ => guarded⟩
  unfold restoreHears
  split
  · next resume here =>
    have suspended : tray.controls.suspended = true := by
      apply guarded
      unfold Held operationHolds
      rw [here]
      exact Or.inr (Or.inl rfl)
    cases heard : tray.hears resume message with
    | goesOn later =>
        constructor
        · intro _ other same back
          rw [here] at same
          cases same
          rw [heard] at back
          cases back
        · exact fun _ _ => suspended
    | reopened =>
        constructor
        · intro next other same _
          constructor
          · exact Bool.eq_false_of_not_eq_true fun paused =>
              Bool.false_ne_true (next (Or.inl paused))
          · exact Bool.eq_false_of_not_eq_true fun kept =>
              Bool.false_ne_true (next (Or.inr (Or.inr kept)))
        · intro leaves held
          obtain ⟨unpaused, unkept⟩ := leaves resume here heard
          rcases held with paused | ⟨⟨⟩⟩ | kept
          · exact absurd (unpaused.symm.trans paused) Bool.false_ne_true
          · exact absurd (unkept.symm.trans kept) Bool.false_ne_true
    | gaveUp =>
        constructor
        · intro _ other same back
          rw [here] at same
          cases same
          rw [heard] at back
          cases back
        · exact fun _ _ => rfl
  · next other => exact elsewhere other

theorem suspend_suspended (controls : Windows.CaptureControls) :
    (suspendBaselineCaptureForRecording controls).1.suspended =
      (controls.suspended || !controls.isSuspended) := by
  unfold suspendBaselineCaptureForRecording
  cases suspended : controls.isSuspended with
  | true =>
      rw [if_pos rfl, Bool.not_true, Bool.or_false]
  | false =>
      rw [if_neg Bool.false_ne_true, Bool.not_false, Bool.or_true]

theorem restore_suspend (controls : Windows.CaptureControls) :
    (restoreBaselineCaptureAfterRecording (suspendBaselineCaptureForRecording controls).1
      (suspendBaselineCaptureForRecording controls).2).suspended = controls.suspended := by
  rw [restore_suspended, suspend_suspended]
  unfold suspendBaselineCaptureForRecording
  cases suspended : controls.isSuspended with
  | true =>
      rw [if_pos rfl, Bool.not_true, Bool.or_false, Bool.not_false, Bool.and_true]
  | false =>
      have flag : controls.suspended = false := by
        unfold Windows.CaptureControls.isSuspended
          Windows.CaptureControls.sensitiveTransitionShouldDefer at suspended
        rw [Bool.or_eq_false_iff, Bool.or_eq_false_iff] at suspended
        exact suspended.1.1
      rw [if_neg Bool.false_ne_true, Bool.not_true, Bool.and_false, flag]

theorem confirm_guarded (guarded : tray.Guarded) (elevatedHelperRequested : Bool)
    (sendError : Option String) :
    (tray.confirmStart elevatedHelperRequested sendError).Guarded := by
  have suspended := suspend_suspended tray.controls
  unfold confirmStart
  split
  · unfold startConfirmed
    split
    · exact guarded.of_same ⟨rfl, rfl, rfl, rfl⟩
    · cases sendError with
      | none =>
          intro held
          have before : tray.Held := held
          rw [guarded before, Bool.true_or] at suspended
          exact suspended
      | some error =>
          exact guarded.of_same ⟨rfl, restore_suspend tray.controls, rfl, rfl⟩
  · exact guarded

/-- The acts that may touch the flag or who holds it. -/
def TouchesHold : TrayAct → Prop
  | .toggleCapturePause | .resumeHears _ | .confirmStart _ _ | .receiveStartReply => True
  | .handleRecordUiEvent _ | .requestPrivacyAction | .declinePrivacyAction => True
  | .takeSuspension | .finishPrivacyAction _ | .restoreHears _ | .endPrivacyAction => True
  | _ => False

theorem perform_same_hold {act : TrayAct} (beside : ¬TouchesHold act) :
    SameHold tray (tray.perform act) := by
  have still : SameHold tray tray := ⟨rfl, rfl, rfl, rfl⟩
  cases act with
  | toggleCapturePause | resumeHears | confirmStart | receiveStartReply =>
      exact absurd trivial beside
  | handleRecordUiEvent | requestPrivacyAction | declinePrivacyAction | takeSuspension =>
      exact absurd trivial beside
  | finishPrivacyAction | restoreHears | endPrivacyAction => exact absurd trivial beside
  | spawnRecordRequestDialog =>
      change SameHold tray tray.spawnRecordRequestDialog
      unfold spawnRecordRequestDialog
      split
      · exact still
      · exact ⟨rfl, rfl, rfl, rfl⟩
  | declineStart =>
      change SameHold tray tray.declineStart
      unfold declineStart
      split
      · exact ⟨rfl, rfl, rfl, rfl⟩
      · exact still
  | stopRecording =>
      change SameHold tray tray.stopRecording
      unfold stopRecording
      split
      · exact stop_recording_same_hold tray _ _
      · exact still
  | recordWorkerDied stopReason =>
      change SameHold tray (tray.recordWorkerDied stopReason)
      unfold recordWorkerDied
      split
      · exact stop_recording_same_hold tray _ _
      · exact still
  | pauseRecording =>
      change SameHold tray tray.pauseRecording
      unfold pauseRecording
      split
      · exact still
      · exact simple_command_same_hold tray .pause
  | resumeRecording =>
      change SameHold tray tray.resumeRecording
      unfold resumeRecording
      split
      · exact simple_command_same_hold tray .resume
      · exact still
  | spawnCapPrompt recordSessionId =>
      change SameHold tray (tray.spawnCapPrompt recordSessionId)
      unfold spawnCapPrompt
      split
      · exact ⟨rfl, rfl, rfl, rfl⟩
      · exact still
  | answerCapPrompt continues sendError =>
      change SameHold tray (tray.answerCapPrompt continues sendError)
      unfold answerCapPrompt
      split
      · exact still
      · dsimp only
        split
        all_goals exact ⟨rfl, rfl, rfl, rfl⟩
  | sendCommand index sendError =>
      change SameHold tray (tray.sendCommand index sendError)
      unfold sendCommand
      split
      · exact still
      · cases sendError
        all_goals exact ⟨rfl, rfl, rfl, rfl⟩
  | writerTakes outcome replyLost =>
      change SameHold tray (tray.writerTakes outcome replyLost)
      unfold writerTakes
      cases tray.sent with
      | nil => exact still
      | cons command rest =>
          have taken : SameHold tray { tray with sent := rest } := ⟨rfl, rfl, rfl, rfl⟩
          exact taken.trans (writer_answers_same_hold _ outcome replyLost command)
  | receiveReply index =>
      change SameHold tray (tray.receiveReply index)
      unfold receiveReply
      split
      · exact still
      · exact ⟨rfl, rfl, rfl, rfl⟩
  | beginSensitiveTransition => exact ⟨rfl, rfl, rfl, rfl⟩
  | endSensitiveTransition => exact ⟨rfl, rfl, rfl, rfl⟩

/-- A thread that does not hold capture takes the place of the thread of the operation. -/
theorem thread_guarded (guarded : tray.Guarded) {next : TraySystem}
    (thread : next.operationHolds = false)
    (paused : next.capturePausedByUser = tray.capturePausedByUser)
    (kept : next.keptSuspended = tray.keptSuspended)
    (suspended : next.controls.suspended = tray.controls.suspended) : next.Guarded := by
  apply guarded.of_fewer _ suspended
  unfold Held
  rw [thread, paused, kept]
  rintro (held | ⟨⟨⟩⟩ | held)
  · exact Or.inl held
  · exact Or.inr (Or.inr held)

theorem Guarded.perform_iff (guarded : tray.Guarded) (act : TrayAct)
    (free : act.isTrayThread = true → tray.captureResume = none) :
    (tray.perform act).Guarded ↔ tray.LeavesHeld act := by
  have always {next : TraySystem} (holds : next.Guarded) : next.Guarded ↔ True :=
    iff_true_intro holds
  cases act with
  | toggleCapturePause => exact always (toggle_guarded tray guarded)
  | resumeHears message => exact resume_hears_guarded_iff tray guarded message
  | receiveStartReply => exact start_reply_guarded_iff tray guarded
  | handleRecordUiEvent starts =>
      have handled := handle_event_guarded_iff tray guarded starts
      exact handled.trans ⟨fun leaves _ => leaves, fun leaves => leaves (free rfl)⟩
  | restoreHears message => exact restore_hears_guarded_iff tray guarded message
  | confirmStart elevatedHelperRequested sendError =>
      exact always (confirm_guarded tray guarded elevatedHelperRequested sendError)
  | requestPrivacyAction =>
      apply always
      change tray.requestPrivacyAction.Guarded
      unfold requestPrivacyAction
      split
      · exact guarded
      · exact thread_guarded tray guarded rfl rfl rfl rfl
  | declinePrivacyAction =>
      apply always
      change tray.declinePrivacyAction.Guarded
      unfold declinePrivacyAction
      split
      · exact thread_guarded tray guarded rfl rfl rfl rfl
      · exact guarded
  | takeSuspension =>
      apply always
      change tray.takeSuspension.Guarded
      unfold takeSuspension
      split
      · exact fun _ => rfl
      · exact guarded
  | finishPrivacyAction keepSuspended => exact always (finish_guarded tray guarded keepSuspended)
  | endPrivacyAction =>
      apply always
      change tray.endPrivacyAction.Guarded
      unfold endPrivacyAction
      split
      · exact thread_guarded tray guarded rfl rfl rfl rfl
      · exact guarded
  | _ => exact always (guarded.of_same (perform_same_hold tray id))

theorem guarded_step_iff (guarded : tray.Guarded) (act : TrayAct) :
    (tray.step act).Guarded ↔ tray.LeavesHeld act := by
  unfold step
  split
  · next waits =>
    rw [Bool.and_eq_true, Option.isSome_iff_ne_none] at waits
    have leaves : tray.LeavesHeld act := by
      cases act with
      | handleRecordUiEvent starts => exact fun free => absurd free waits.1
      | resumeHears | restoreHears | receiveStartReply => cases waits.2
      | _ => trivial
    exact iff_of_true guarded leaves
  · next free =>
    apply guarded.perform_iff tray act
    intro own
    rw [own, Bool.and_true, Bool.not_eq_true, Option.isSome_eq_false_iff] at free
    exact Option.isNone_iff_eq_none.mp free

end Steps

/-- Along a run, whoever holds capture finds it suspended just when every step leaves it so. -/
theorem held_along_iff_leaves_held (streams : CaptureStream → Bool) (idleThresholdMs : UInt64)
    (acts : List TrayAct) :
    (∀ before, before <+: acts → (machine.run (new streams idleThresholdMs) before).Guarded) ↔
      machine.AllSteps LeavesHeld (new streams idleThresholdMs) acts := by
  apply machine.holds_along_iff_all_steps (fun _ => True) Guarded LeavesHeld
  · exact fun _ _ _ _ => trivial
  · intro act _ tray _ guarded
    exact guarded_step_iff tray guarded act
  · trivial
  · rintro (held | held | held)
    all_goals cases held

/-- The user pauses while a privacy operation waits for capture to be quiet. -/
private def pausedWhileRestoring : List TrayAct :=
  [.requestPrivacyAction, .takeSuspension, .finishPrivacyAction false,
    .restoreHears (.reconciled true), .toggleCapturePause, .restoreHears (.flushed true true)]

theorem restore_reopens_paused_capture :
    (machine.run (new (fun _ => true) 1) pausedWhileRestoring).capturePausedByUser = true ∧
      (machine.run (new (fun _ => true) 1) pausedWhileRestoring).controls.isSuspended = false :=
  ⟨rfl, rfl⟩

end TraySystem

end Gilbreth.App
