import Gilbreth.App.TrayAgreement
import Gilbreth.App.TrayHold

/-!
# The tray at rest

While a recording starts, its thread knows whether capture was suspended for it; a `Started` event
carries that to the tray, which gives the suspension back when the recording is over. So capture
stays suspended at rest only while somebody else holds it, unless the user lifted a pause under
the report of a privacy operation, which nobody resumes after.
-/

set_option autoImplicit false

namespace Gilbreth.App

def StartThread.ownsSuspension : StartThread → Bool
  | .confirming => false
  | .waiting _ baselineCaptureSuspended => baselineCaptureSuspended
  | .replied _ baselineCaptureSuspended _ => baselineCaptureSuspended

def RecordUiEvent.ownsSuspension : RecordUiEvent → Bool
  | .started _ _ baselineCaptureSuspended => baselineCaptureSuspended
  | _ => false

namespace TraySystem

section Reasons

/-- Who may keep capture suspended. -/
inductive Reason (tray : TraySystem) : Prop where
  | held (holds : tray.Held)
  | resuming (waits : tray.captureResume ≠ none)
  | shown (flag : tray.baselineCaptureSuspendedForRecording = true)
  | thread (stands : StartThread) (here : tray.startThread = some stands)
      (owns : stands.ownsSuspension = true)
  | event (event : RecordUiEvent) (waits : event ∈ tray.uiEvents)
      (owns : event.ownsSuspension = true)

/-- A privacy operation's thread keeps other operations out. -/
def Engaged (tray : TraySystem) : Prop :=
  tray.privacyThread ≠ none → tray.privacyActionInProgress = true

/-- Capture is suspended for a reason, and no recording that is not shown is one. -/
structure Accounted (tray : TraySystem) : Prop where
  idle : tray.activeRecordSessionId = none → tray.baselineCaptureSuspendedForRecording = false
  reason : tray.controls.suspended = true → tray.Reason
  engaged : tray.Engaged

/-- A step that shows and ends no recording, and after which every reason stands. -/
structure KeepsReasons (tray next : TraySystem) : Prop where
  suspended : next.controls.suspended = tray.controls.suspended
  held : tray.Held → next.Held
  active : next.activeRecordSessionId = tray.activeRecordSessionId
  flag : next.baselineCaptureSuspendedForRecording = tray.baselineCaptureSuspendedForRecording
  thread : ∀ stands, tray.startThread = some stands → stands.ownsSuspension = true →
    ∃ later, next.startThread = some later ∧ later.ownsSuspension = true
  events : tray.uiEvents ⊆ next.uiEvents
  resume : next.captureResume = tray.captureResume
  engaged : tray.Engaged → next.Engaged

theorem KeepsReasons.kept {tray next : TraySystem} (keeps : KeepsReasons tray next)
    (reason : tray.Reason) : next.Reason := by
  cases reason with
  | held holds => exact .held (keeps.held holds)
  | resuming waits => exact .resuming (keeps.resume ▸ waits)
  | shown flag => exact .shown (keeps.flag.trans flag)
  | thread stands here owns =>
      obtain ⟨later, there, still⟩ := keeps.thread stands here owns
      exact .thread later there still
  | event event waits owns => exact .event event (keeps.events waits) owns

theorem Accounted.of_keeps {tray next : TraySystem} (accounted : tray.Accounted)
    (keeps : KeepsReasons tray next) : next.Accounted := by
  constructor
  · rw [keeps.active, keeps.flag]
    exact accounted.idle
  · intro suspended
    rw [keeps.suspended] at suspended
    exact keeps.kept (accounted.reason suspended)
  · exact keeps.engaged accounted.engaged

/-- An operation that does not hold capture may come and go. -/
theorem Held.of_thread {tray next : TraySystem} (held : tray.Held)
    (loose : tray.operationHolds = false)
    (paused : next.capturePausedByUser = tray.capturePausedByUser)
    (kept : next.keptSuspended = tray.keptSuspended) : next.Held := by
  unfold Held
  rw [paused, kept]
  rcases held with user | operation | before
  · exact Or.inl user
  · rw [loose] at operation
    cases operation
  · exact Or.inr (Or.inr before)

/-- At rest nobody but the user or a privacy operation keeps capture suspended. -/
theorem Accounted.settled {tray : TraySystem} (accounted : tray.Accounted)
    (settled : tray.Settled) (idle : tray.activeRecordSessionId = none)
    (suspended : tray.controls.suspended = true) : tray.Held := by
  cases accounted.reason suspended with
  | held holds => exact holds
  | resuming waits => exact absurd settled.resume waits
  | shown flag =>
      rw [accounted.idle idle] at flag
      cases flag
  | thread stands here owns =>
      rcases settled.start with none | confirming
      · rw [none] at here
        cases here
      · rw [confirming] at here
        cases here
        cases owns
  | event event waits owns =>
      rw [settled.events] at waits
      cases waits

variable (tray : TraySystem)

theorem stop_recording_keeps (recordSessionId : Int) (stopReason : Core.RecordStopReason) :
    KeepsReasons tray (tray.stopRecordingWithReason recordSessionId stopReason) := by
  obtain ⟨worker, pending, unsent, changed⟩ :=
    stop_recording_changes tray recordSessionId stopReason
  rw [changed]
  exact ⟨rfl, id, rfl, rfl, fun stands here owns => ⟨stands, here, owns⟩,
    fun _ => id, rfl, id⟩

theorem start_worker_keeps (recordSessionId : Int) (elevatedHelperRequested : Bool)
    (starts : WorkerStarts) :
    KeepsReasons tray (tray.startRecordWorker recordSessionId elevatedHelperRequested starts) := by
  obtain ⟨worker, pending, unsent, changed⟩ :=
    start_worker_changes tray recordSessionId elevatedHelperRequested starts
  rw [changed]
  exact ⟨rfl, id, rfl, rfl, fun stands here owns => ⟨stands, here, owns⟩,
    fun _ => id, rfl, id⟩

theorem simple_command_keeps (build : Int → RecordCommand) :
    KeepsReasons tray (tray.spawnSimpleRecordCommand build) := by
  obtain ⟨busy, unsent, changed⟩ := simple_command_changes tray build
  rw [changed]
  exact ⟨rfl, id, rfl, rfl, fun stands here owns => ⟨stands, here, owns⟩,
    fun _ => id, rfl, id⟩

theorem settle_keeps (event : RecordUiEvent) : KeepsReasons tray (tray.settle event) := by
  obtain ⟨recordings, changed⟩ := settle_changes tray event
  rw [changed]
  exact ⟨rfl, id, rfl, rfl, fun stands here owns => ⟨stands, here, owns⟩,
    fun _ => id, rfl, id⟩

end Reasons

section Steps

variable {tray : TraySystem} (accounted : tray.Accounted)

include accounted

theorem Accounted.pop {event : RecordUiEvent} {rest : List RecordUiEvent}
    (queue : tray.uiEvents = event :: rest) (shares : event.ownsSuspension = false) :
    (tray.takeEvent rest).Accounted := by
  constructor
  · exact accounted.idle
  · intro suspended
    cases accounted.reason suspended with
    | held holds => exact .held holds
    | resuming waits => exact .resuming waits
    | shown flag => exact .shown flag
    | thread stands here owns => exact .thread stands here owns
    | event other waits owns =>
        rw [queue] at waits
        rcases List.mem_cons.mp waits with rfl | later
        · rw [shares] at owns
          cases owns
        · exact .event other later owns
  · exact accounted.engaged

/-- The tray takes from a `Started` event whether the recording owns the suspension. -/
theorem Accounted.show_started {recordSessionId : Int}
    {elevatedHelperRequested baselineCaptureSuspended : Bool} {rest : List RecordUiEvent}
    (queue : tray.uiEvents =
      .started recordSessionId elevatedHelperRequested baselineCaptureSuspended :: rest)
    (idle : tray.activeRecordSessionId = none) :
    ((tray.takeEvent rest).showRecording recordSessionId baselineCaptureSuspended).Accounted := by
  constructor
  · rintro ⟨⟩
  · intro suspended
    cases accounted.reason suspended with
    | held holds => exact .held holds
    | resuming waits => exact .resuming waits
    | shown flag =>
        rw [accounted.idle idle] at flag
        cases flag
    | thread stands here owns => exact .thread stands here owns
    | event other waits owns =>
        rw [queue] at waits
        rcases List.mem_cons.mp waits with rfl | later
        · exact .shown owns
        · exact .event other later owns
  · exact accounted.engaged

/-- A recording that is over gives back what it owns, unless the user has paused meanwhile. -/
theorem Accounted.over_recording : tray.recordingOver.Accounted := by
  have lowered := recording_over_suspended tray
  obtain ⟨controls, changed⟩ := recording_over_changes tray
  constructor
  · rw [changed]
    exact fun _ => rfl
  · intro suspended
    rw [lowered, Bool.and_eq_true, Bool.not_eq_true', Bool.and_eq_false_iff] at suspended
    have holds (held : tray.Held) : tray.recordingOver.Reason :=
      .held ((recording_over_held tray).mpr held)
    cases accounted.reason suspended.1 with
    | held held => exact holds held
    | resuming waits =>
        rw [changed]
        exact .resuming waits
    | shown ours =>
        rcases suspended.2 with notOurs | paused
        · rw [ours] at notOurs
          cases notOurs
        · rw [Bool.not_eq_false'] at paused
          exact holds (Or.inl paused)
    | thread stands here owns =>
        rw [changed]
        exact .thread stands here owns
    | event event waits owns =>
        rw [changed]
        exact .event event waits owns
  · rw [changed]
    exact accounted.engaged

theorem Accounted.handle_event {event : RecordUiEvent} {rest : List RecordUiEvent}
    (queue : tray.uiEvents = event :: rest)
    (orderly : event.unguarded = true → tray.activeRecordSessionId = none)
    (starts : WorkerStarts) :
    ((tray.takeEvent rest).handleRecordUiEvent starts event).Accounted := by
  unfold handleRecordUiEvent
  cases event with
  | started recordSessionId elevatedHelperRequested baselineCaptureSuspended =>
      have shown := accounted.show_started queue (orderly rfl)
      dsimp only
      split
      · exact shown.of_keeps (stop_recording_keeps _ _ _)
      · exact shown.of_keeps (start_worker_keeps _ _ _ _)
  | stopForSafetyCap recordSessionId =>
      exact (accounted.pop queue rfl).of_keeps (stop_recording_keeps _ _ _)
  | stopped recordSessionId =>
      have popped := accounted.pop queue rfl
      dsimp only
      split
      · exact popped
      · exact popped.over_recording
  | paused recordSessionId =>
      have popped := accounted.pop queue rfl
      dsimp only
      split
      · exact popped
      · exact popped.of_keeps ⟨rfl, id, rfl, rfl,
          fun stands here owns => ⟨stands, here, owns⟩, fun _ => id, rfl, id⟩
  | resumed recordSessionId =>
      have popped := accounted.pop queue rfl
      dsimp only
      split
      · exact popped
      · exact popped.of_keeps ⟨rfl, id, rfl, rfl,
          fun stands here owns => ⟨stands, here, owns⟩, fun _ => id, rfl, id⟩
  | failed failedSession message =>
      have popped := accounted.pop queue rfl
      cases failedSession with
      | none => exact popped.over_recording
      | some recordSessionId =>
          have asked : ((tray.takeEvent rest).spawnStopRecordCommand recordSessionId
              .error).Accounted :=
            popped.of_keeps ⟨rfl, id, rfl, rfl,
              fun stands here owns => ⟨stands, here, owns⟩, fun _ => id, rfl, id⟩
          dsimp only
          split_ifs
          · exact popped
          · exact asked.over_recording
          · exact popped.over_recording

theorem Accounted.toggle (lifted : tray.LiftedInTime) : tray.toggleCapturePause.Accounted := by
  unfold toggleCapturePause
  split
  · next paused =>
    unfold resumeCapture
    split
    · exact accounted.of_keeps (stop_recording_keeps tray _ _)
    · next idle =>
      split
      · next owned =>
        have holds := lifted paused idle owned
        exact ⟨accounted.idle, fun _ => .held (Or.inr (Or.inl holds)), accounted.engaged⟩
      · exact ⟨accounted.idle, fun _ => .resuming nofun, accounted.engaged⟩
  · have paused : ({ tray with capturePausedByUser := true }.setSuspended true).Accounted :=
      ⟨accounted.idle, fun _ => .held (Or.inl rfl), accounted.engaged⟩
    unfold pauseCapture
    dsimp only
    split
    · exact paused.of_keeps (stop_recording_keeps _ _ _)
    · exact paused

theorem Accounted.resume_hears (message : ResumeMessage) :
    (tray.resumeHears message).Accounted := by
  unfold resumeHears
  split
  · exact accounted
  · split
    · exact ⟨accounted.idle, fun _ => .resuming nofun, accounted.engaged⟩
    · exact ⟨accounted.idle, nofun, accounted.engaged⟩
    · exact ⟨accounted.idle, fun _ => .held (Or.inl rfl), accounted.engaged⟩

theorem Accounted.thread_moves {next : TraySystem}
    (suspended : next.controls.suspended = tray.controls.suspended) (held : tray.Held → next.Held)
    (active : next.activeRecordSessionId = tray.activeRecordSessionId)
    (flag : next.baselineCaptureSuspendedForRecording = tray.baselineCaptureSuspendedForRecording)
    (shares : ∀ stands ∈ tray.startThread, stands.ownsSuspension = false)
    (events : tray.uiEvents ⊆ next.uiEvents) (resume : next.captureResume = tray.captureResume)
    (engaged : tray.Engaged → next.Engaged) : next.Accounted := by
  apply accounted.of_keeps
  refine ⟨suspended, held, active, flag, ?_, events, resume, engaged⟩
  intro stands here owns
  rw [shares stands here] at owns
  cases owns

theorem Accounted.confirm_start (elevatedHelperRequested : Bool) (sendError : Option String) :
    (tray.confirmStart elevatedHelperRequested sendError).Accounted := by
  unfold confirmStart
  split
  · next confirming =>
    have shares : ∀ stands ∈ tray.startThread, stands.ownsSuspension = false := by
      rw [confirming]
      rintro _ ⟨⟩
      rfl
    unfold startConfirmed
    split
    · exact accounted.thread_moves rfl id rfl rfl shares (fun _ => id) rfl id
    · cases sendError with
      | none =>
          unfold suspendBaselineCaptureForRecording
          dsimp only
          split
          · exact accounted.thread_moves rfl id rfl rfl shares (fun _ => id) rfl id
          · exact ⟨accounted.idle, fun _ => .thread _ rfl rfl, accounted.engaged⟩
      | some error =>
          exact accounted.thread_moves (restore_suspend tray.controls) id rfl rfl shares
            (List.subset_append_left _ _) rfl id
  · exact accounted

theorem Accounted.start_replied {elevatedHelperRequested baselineCaptureSuspended : Bool}
    {reply : RecordReply Int}
    (thread : tray.startThread =
      some (.replied elevatedHelperRequested baselineCaptureSuspended reply)) :
    (tray.startReplied elevatedHelperRequested baselineCaptureSuspended reply).Accounted := by
  unfold startReplied
  dsimp only
  split
  · next recordSessionId =>
    constructor
    · exact accounted.idle
    · intro suspended
      cases accounted.reason suspended with
      | held holds => exact .held holds
      | resuming waits => exact .resuming waits
      | shown flag => exact .shown flag
      | thread stands here owns =>
          rw [thread] at here
          cases here
          exact .event _ (List.mem_append_right _ List.mem_cons_self) owns
      | event event waits owns => exact .event event (List.mem_append_left _ waits) owns
    · exact accounted.engaged
  · have restored := restore_suspended tray.controls baselineCaptureSuspended
    cases baselineCaptureSuspended with
    | true =>
        rw [Bool.not_true, Bool.and_false] at restored
        constructor
        · exact accounted.idle
        · intro suspended
          exact absurd (restored.symm.trans suspended) Bool.false_ne_true
        · exact accounted.engaged
    | false =>
        rw [Bool.not_false, Bool.and_true] at restored
        have shares : ∀ stands ∈ tray.startThread, stands.ownsSuspension = false := by
          rw [thread]
          rintro _ ⟨⟩
          rfl
        exact accounted.thread_moves restored id rfl rfl shares
          (List.subset_append_left _ _) rfl id

theorem Accounted.finish (keepSuspended : Bool) :
    (tray.finishPrivacyAction keepSuspended).Accounted := by
  unfold finishPrivacyAction restoreCaptureAfterPrivacyOperation
  split
  · next running =>
    have engaged := accounted.engaged (running ▸ Option.some_ne_none _)
    split_ifs with _ paused
    · exact ⟨accounted.idle, fun _ => .held (Or.inr (Or.inr rfl)), fun _ => engaged⟩
    · exact ⟨accounted.idle, fun _ => .held (Or.inl paused), fun _ => engaged⟩
    · exact ⟨accounted.idle, fun _ => .held (Or.inr (Or.inl rfl)), fun _ => engaged⟩
  · exact accounted

theorem Accounted.restore_hears (message : ResumeMessage) :
    (tray.restoreHears message).Accounted := by
  unfold restoreHears
  split
  · next restoring =>
    have engaged := accounted.engaged (restoring ▸ Option.some_ne_none _)
    split
    · exact ⟨accounted.idle, fun _ => .held (Or.inr (Or.inl rfl)), fun _ => engaged⟩
    · exact ⟨accounted.idle, nofun, fun _ => engaged⟩
    · exact ⟨accounted.idle, fun _ => .held (Or.inl rfl), fun _ => engaged⟩
  · exact accounted

theorem Accounted.writer_takes (outcome : WriterOutcome) (replyLost : Option String) :
    (tray.writerTakes outcome replyLost).Accounted := by
  unfold writerTakes
  split
  · exact accounted
  · next command rest _ =>
    unfold writerAnswers
    cases command with
    | record command =>
        exact accounted.of_keeps ⟨rfl, id, rfl, rfl,
          fun stands here owns => ⟨stands, here, owns⟩, fun _ => id, rfl, id⟩
    | startRecording =>
        apply accounted.of_keeps
        refine ⟨rfl, id, rfl, rfl, ?_, fun _ => id, rfl, id⟩
        intro stands here owns
        dsimp only
        rw [here]
        cases stands with
        | confirming => cases owns
        | waiting elevatedHelperRequested baselineCaptureSuspended => exact ⟨_, rfl, owns⟩
        | replied elevatedHelperRequested baselineCaptureSuspended reply => exact ⟨_, rfl, owns⟩

theorem Accounted.perform (prompted : tray.Prompted) {act : TrayAct}
    (guarded : ∀ starts, act = .handleRecordUiEvent starts → tray.NextGuarded)
    (lifted : act = .toggleCapturePause → tray.LiftedInTime) : (tray.perform act).Accounted := by
  have beside {next : TraySystem} (suspended : next.controls.suspended = tray.controls.suspended)
      (held : tray.Held → next.Held)
      (active : next.activeRecordSessionId = tray.activeRecordSessionId)
      (flag : next.baselineCaptureSuspendedForRecording =
        tray.baselineCaptureSuspendedForRecording)
      (thread : next.startThread = tray.startThread) (events : tray.uiEvents ⊆ next.uiEvents)
      (resume : next.captureResume = tray.captureResume)
      (engaged : tray.Engaged → next.Engaged) : next.Accounted := by
    apply accounted.of_keeps
    refine ⟨suspended, held, active, flag, ?_, events, resume, engaged⟩
    rw [thread]
    exact fun stands here owns => ⟨stands, here, owns⟩
  have loose {stands : PrivacyThread} (here : tray.privacyThread = some stands)
      (free : stands.holds = false) : tray.operationHolds = false := by
    unfold operationHolds
    rw [here]
    exact free
  cases act with
  | toggleCapturePause => exact accounted.toggle (lifted rfl)
  | resumeHears message => exact accounted.resume_hears message
  | spawnRecordRequestDialog =>
      change tray.spawnRecordRequestDialog.Accounted
      unfold spawnRecordRequestDialog
      split
      · exact accounted
      · next free =>
        rw [Bool.not_eq_true, Bool.or_eq_false_iff] at free
        have idle := (prompted.idle free.2).1
        refine accounted.thread_moves rfl id rfl rfl ?_ (fun _ => id) rfl id
        rw [idle]
        rintro _ ⟨⟩
  | declineStart =>
      change tray.declineStart.Accounted
      unfold declineStart
      split
      · next confirming =>
        refine accounted.thread_moves rfl id rfl rfl ?_ (fun _ => id) rfl id
        rw [confirming]
        rintro _ ⟨⟩
        rfl
      · exact accounted
  | confirmStart elevatedHelperRequested sendError =>
      exact accounted.confirm_start elevatedHelperRequested sendError
  | receiveStartReply =>
      change tray.receiveStartReply.Accounted
      unfold receiveStartReply
      split
      · next thread => exact accounted.start_replied thread
      · exact accounted
  | stopRecording =>
      change tray.stopRecording.Accounted
      unfold stopRecording
      split
      · exact accounted.of_keeps (stop_recording_keeps tray _ _)
      · exact accounted
  | recordWorkerDied stopReason =>
      change (tray.recordWorkerDied stopReason).Accounted
      unfold recordWorkerDied
      split
      · exact accounted.of_keeps (stop_recording_keeps tray _ _)
      · exact accounted
  | pauseRecording =>
      change tray.pauseRecording.Accounted
      unfold pauseRecording
      split
      · exact accounted
      · exact accounted.of_keeps (simple_command_keeps tray .pause)
  | resumeRecording =>
      change tray.resumeRecording.Accounted
      unfold resumeRecording
      split
      · exact accounted.of_keeps (simple_command_keeps tray .resume)
      · exact accounted
  | spawnCapPrompt recordSessionId =>
      change (tray.spawnCapPrompt recordSessionId).Accounted
      unfold spawnCapPrompt
      split
      · exact beside rfl id rfl rfl rfl (fun _ => id) rfl id
      · exact accounted
  | answerCapPrompt continues sendError =>
      change (tray.answerCapPrompt continues sendError).Accounted
      unfold answerCapPrompt
      split
      · exact accounted
      · dsimp only
        split
        · exact beside rfl id rfl rfl rfl (fun _ => id) rfl id
        · exact beside rfl id rfl rfl rfl (List.subset_append_left _ _) rfl id
        · exact beside rfl id rfl rfl rfl (List.subset_append_left _ _) rfl id
  | sendCommand index sendError =>
      change (tray.sendCommand index sendError).Accounted
      unfold sendCommand
      split
      · exact accounted
      · cases sendError with
        | none => exact beside rfl id rfl rfl rfl (fun _ => id) rfl id
        | some error =>
            exact beside rfl id rfl rfl rfl (List.subset_append_left _ _) rfl id
  | writerTakes outcome replyLost => exact accounted.writer_takes outcome replyLost
  | receiveReply index =>
      change (tray.receiveReply index).Accounted
      unfold receiveReply
      split
      · exact accounted
      · exact beside rfl id rfl rfl rfl (List.subset_append_left _ _) rfl id
  | handleRecordUiEvent starts =>
      change (tray.handleNextUiEvent starts).Accounted
      unfold handleNextUiEvent
      split
      · exact accounted
      · next event rest queue =>
        have handled := accounted.handle_event queue (guarded starts rfl event rest queue) starts
        exact handled.of_keeps (settle_keeps _ event)
  | requestPrivacyAction =>
      change tray.requestPrivacyAction.Accounted
      unfold requestPrivacyAction
      split
      · exact accounted
      · next free =>
        rw [Bool.not_eq_true, Bool.or_eq_false_iff] at free
        have idle : tray.privacyThread = none := by
          by_contra busy
          rw [accounted.engaged busy] at free
          cases free.2
        have none : tray.operationHolds = false := by
          unfold operationHolds
          rw [idle]
          rfl
        exact beside rfl (fun held => held.of_thread none rfl rfl) rfl rfl rfl (fun _ => id) rfl
          fun _ _ => rfl
  | declinePrivacyAction =>
      change tray.declinePrivacyAction.Accounted
      unfold declinePrivacyAction
      split
      · next here =>
        exact beside rfl (fun held => held.of_thread (loose here rfl) rfl rfl) rfl rfl rfl
          (fun _ => id) rfl fun _ => absurd rfl
      · exact accounted
  | takeSuspension =>
      change tray.takeSuspension.Accounted
      unfold takeSuspension
      split
      · next here =>
        have engaged := accounted.engaged (here ▸ Option.some_ne_none _)
        exact ⟨accounted.idle, fun _ => .held (Or.inr (Or.inl rfl)), fun _ => engaged⟩
      · exact accounted
  | finishPrivacyAction keepSuspended => exact accounted.finish keepSuspended
  | restoreHears message => exact accounted.restore_hears message
  | endPrivacyAction =>
      change tray.endPrivacyAction.Accounted
      unfold endPrivacyAction
      split
      · next here =>
        exact beside rfl (fun held => held.of_thread (loose here rfl) rfl rfl) rfl rfl rfl
          (fun _ => id) rfl fun _ => absurd rfl
      · exact accounted
  | beginSensitiveTransition =>
      exact beside rfl id rfl rfl rfl (fun _ => id) rfl id
  | endSensitiveTransition =>
      exact beside rfl id rfl rfl rfl (fun _ => id) rfl id

theorem accounted_step (prompted : tray.Prompted) {act : TrayAct}
    (guarded : ∀ starts, act = .handleRecordUiEvent starts → tray.captureResume = none →
      tray.NextGuarded)
    (lifted : act = .toggleCapturePause → tray.captureResume = none → tray.LiftedInTime) :
    (tray.step act).Accounted := by
  rcases step_cases tray act with waits | ⟨performed, free⟩
  · rw [waits]
    exact accounted
  · rw [performed]
    apply accounted.perform prompted
    · rintro starts rfl
      exact guarded starts rfl (free rfl)
    · rintro rfl
      exact lifted rfl (free rfl)

end Steps

theorem accounted_new (streams : CaptureStream → Bool) (idleThresholdMs : UInt64) :
    (new streams idleThresholdMs).Accounted where
  idle _ := rfl
  reason suspended := nomatch suspended
  engaged busy := absurd rfl busy

/-- At rest the tray shows the recording that the writer holds, and with no recording capture is
suspended only while the user or a privacy operation holds it. -/
theorem settled_tray_agrees (streams : CaptureStream → Bool) (idleThresholdMs : UInt64)
    (acts : List TrayAct)
    (orderly : machine.AllSteps Orderly (new streams idleThresholdMs) acts)
    (settled : (machine.run (new streams idleThresholdMs) acts).Settled) :
    (machine.run (new streams idleThresholdMs) acts).activeRecordSessionId =
        (machine.run (new streams idleThresholdMs) acts).writerRecordSessionId ∧
      ((machine.run (new streams idleThresholdMs) acts).activeRecordSessionId = none →
        (machine.run (new streams idleThresholdMs) acts).controls.suspended = true →
          (machine.run (new streams idleThresholdMs) acts).Held) := by
  have along := machine.run_invariant_of_steps
    (fun tray => tray.Prompted ∧ tray.Agreeing ∧ tray.Accounted) Orderly
    (fun tray act orderly ⟨prompted, agreeing, accounted⟩ =>
      ⟨prompted_step prompted act, agreeing_step agreeing prompted orderly,
        accounted_step accounted prompted (fun _ same => by subst same; exact orderly)
          fun same => by subst same; exact orderly⟩)
    (new streams idleThresholdMs) acts
    ⟨prompted_new streams idleThresholdMs, agreeing_new streams idleThresholdMs,
      accounted_new streams idleThresholdMs⟩ orderly
  obtain ⟨-, agreeing, accounted⟩ := along
  exact ⟨agreeing.settled settled, accounted.settled settled⟩

private def startAndStop : List TrayAct :=
  [.spawnRecordRequestDialog, .confirmStart false none, .writerTakes (.done 1) none,
    .receiveStartReply, .handleRecordUiEvent ⟨false, true⟩, .stopRecording, .sendCommand 0 none,
    .writerTakes (.done 1) none, .receiveReply 0, .handleRecordUiEvent ⟨false, true⟩]

theorem settled_tray_agrees_after_stop :
    (machine.run (new (fun _ => true) 1) startAndStop).activeRecordSessionId =
        (machine.run (new (fun _ => true) 1) startAndStop).writerRecordSessionId ∧
      (machine.run (new (fun _ => true) 1) startAndStop).controls.suspended = false := by
  have orderly : machine.AllSteps Orderly (new (fun _ => true) 1) startAndStop := by
    refine ⟨trivial, trivial, ?_, trivial, ?_, trivial, trivial, ?_, trivial, ?_, trivial⟩
    · rintro _ ⟨⟩
      refine ⟨rfl, ?_⟩
      rintro (⟨⟨⟩⟩ | ⟨⟨⟩⟩ | (⟨_, ⟨⟩⟩ | ⟨_, _ | ⟨_, ⟨⟩⟩⟩) | ⟨⟨⟩⟩ | ⟨_, ⟨⟩⟩)
    · exact fun _ _ _ _ _ => rfl
    · rintro _ ⟨⟩
    · rintro _ _ _ ⟨⟩ ⟨⟩
  have settled : (machine.run (new (fun _ => true) 1) startAndStop).Settled :=
    ⟨rfl, rfl, rfl, rfl, Or.inl rfl, rfl⟩
  obtain ⟨same, free⟩ := settled_tray_agrees (fun _ => true) 1 startAndStop orderly settled
  refine ⟨same, Bool.eq_false_of_not_eq_true fun suspended => ?_⟩
  rcases free rfl suspended with held | held | held
  all_goals cases held

/-- A second start, asked for while a recording runs, fails in the writer. -/
private def startedTwice : List TrayAct :=
  [.spawnRecordRequestDialog, .confirmStart false none, .writerTakes (.done 1) none,
    .receiveStartReply, .handleRecordUiEvent ⟨false, true⟩, .spawnRecordRequestDialog,
    .confirmStart false none, .writerTakes (.refused "database is locked") none, .receiveStartReply,
    .handleRecordUiEvent ⟨false, true⟩]

/-- The failure names no recording, so the tray takes it for the end of the one that runs. -/
theorem failed_start_hides_recording :
    (machine.run (new (fun _ => true) 1) startedTwice).Settled ∧
    (machine.run (new (fun _ => true) 1) startedTwice).activeRecordSessionId = none ∧
    (machine.run (new (fun _ => true) 1) startedTwice).writerRecordSessionId = some 1 ∧
    (machine.run (new (fun _ => true) 1) startedTwice).controls.suspended = false :=
  ⟨⟨rfl, rfl, rfl, rfl, Or.inl rfl, rfl⟩, rfl, rfl, rfl⟩

/-- The user pauses and resumes under the report of an operation that has handed capture back. -/
private def liftedUnderReport : List TrayAct :=
  [.requestPrivacyAction, .takeSuspension, .finishPrivacyAction false,
    .restoreHears (.reconciled true), .restoreHears (.flushed true true), .toggleCapturePause,
    .toggleCapturePause, .endPrivacyAction]

/-- The second press leaves the resume to the operation, which is past its own. -/
theorem lifted_pause_stays_suspended :
    (machine.run (new (fun _ => true) 1) liftedUnderReport).Settled ∧
    (machine.run (new (fun _ => true) 1) liftedUnderReport).controls.suspended = true ∧
    ¬(machine.run (new (fun _ => true) 1) liftedUnderReport).Held := by
  refine ⟨⟨rfl, rfl, rfl, rfl, Or.inl rfl, rfl⟩, rfl, ?_⟩
  rintro (paused | operation | kept)
  · cases paused
  · cases operation
  · cases kept

end TraySystem

end Gilbreth.App
