import Gilbreth.App.TraySettled

/-!
# Capture is off while a recording runs

A start suspends capture before its command is sent, and only the end of the recording gives that
back. This holds in a run whose starts are confirmed when no other recording is open and capture
is not off for a moment only, and in which nobody turns capture on while a recording is under way.
-/

set_option autoImplicit false

namespace Gilbreth.App

namespace TraySystem

section Predicates

variable (tray : TraySystem)

def Waiting : Prop :=
  ∃ elevatedHelperRequested baselineCaptureSuspended,
    tray.startThread = some (.waiting elevatedHelperRequested baselineCaptureSuspended)

/-- The writer may have a recording open that the tray has not seen the end of. -/
def Underway : Prop := tray.recordings ≠ [] ∨ tray.Waiting

/-- No recording is open, shown or about to be shown. -/
structure Clear : Prop where
  idle : tray.activeRecordSessionId = none
  recordings : tray.recordings = []
  starts : tray.starts = []

/-- A step after which capture is still off for a recording that is under way. -/
def Undisturbed : TrayAct → Prop
  | .confirmStart _ none => tray.startThread = some .confirming →
      tray.capturePausedByUser = false →
        tray.Clear ∧ (tray.controls.isSuspended = true → tray.controls.suspended = true)
  | .toggleCapturePause => tray.captureResume = none → tray.LiftedInTime
  | .resumeHears message => ∀ resume, tray.captureResume = some resume →
      tray.hears resume message = .reopened → ¬tray.Underway
  | .restoreHears message => ∀ resume, tray.privacyThread = some (.restoring resume) →
      tray.hears resume message = .reopened → ¬tray.Underway
  | .writerTakes (.done _) replyLost => ∀ rest, tray.sent = .startRecording :: rest →
      replyLost = none
  | .handleRecordUiEvent _ => tray.captureResume = none → tray.NextGuarded
  | _ => True

/-- What holds between any two steps of such a run. -/
structure Covered : Prop where
  suspended : tray.Underway → tray.controls.suspended = true
  waiting : tray.Waiting → tray.Clear
  failed : tray.StartFailed → tray.recordings = []
  hidden : tray.starts ≠ [] → tray.activeRecordSessionId = none
  shown : ∀ recordSessionId, tray.activeRecordSessionId = some recordSessionId →
    tray.recordings ⊆ [recordSessionId]
  started : ∀ recordSessionId ∈ tray.starts,
    tray.starts = [recordSessionId] ∧ tray.recordings ⊆ [recordSessionId]

end Predicates

section Parts

/-- A step that opens no recording, and shows none and hides none. -/
structure SameCover (tray next : TraySystem) : Prop where
  suspended : tray.controls.suspended = true → next.controls.suspended = true
  active : next.activeRecordSessionId = tray.activeRecordSessionId
  starts : next.starts = tray.starts
  waiting : next.Waiting → tray.Waiting
  failed : next.StartFailed → tray.StartFailed
  recordings : next.recordings ⊆ tray.recordings

theorem SameCover.underway {tray next : TraySystem} (same : SameCover tray next)
    (underway : next.Underway) : tray.Underway := by
  rcases underway with opened | waiting
  · left
    intro none
    have fewer := same.recordings
    rw [none] at fewer
    exact opened (List.subset_nil.mp fewer)
  · exact Or.inr (same.waiting waiting)

theorem Covered.of_same {tray next : TraySystem} (covered : tray.Covered)
    (same : SameCover tray next) : next.Covered := by
  have fewer {recordings : List Int} (before : tray.recordings ⊆ recordings) :
      next.recordings ⊆ recordings :=
    fun _ opened => before (same.recordings opened)
  have none (before : tray.recordings = []) : next.recordings = [] :=
    List.subset_nil.mp (before ▸ same.recordings)
  constructor
  · exact fun underway => same.suspended (covered.suspended (same.underway underway))
  · intro waiting
    have clear := covered.waiting (same.waiting waiting)
    exact ⟨same.active.trans clear.idle, none clear.recordings, same.starts.trans clear.starts⟩
  · exact fun failed => none (covered.failed (same.failed failed))
  · rw [same.starts, same.active]
    exact covered.hidden
  · intro recordSessionId active
    rw [same.active] at active
    exact fewer (covered.shown recordSessionId active)
  · rw [same.starts]
    intro recordSessionId starting
    have alone := covered.started recordSessionId starting
    exact ⟨alone.1, fewer alone.2⟩

variable (tray : TraySystem)

theorem stop_recording_same_cover (recordSessionId : Int) (stopReason : Core.RecordStopReason) :
    SameCover tray (tray.stopRecordingWithReason recordSessionId stopReason) := by
  obtain ⟨worker, pending, unsent, changed⟩ :=
    stop_recording_changes tray recordSessionId stopReason
  rw [changed]
  exact ⟨id, rfl, rfl, id, id, fun _ => id⟩

theorem start_worker_same_cover (recordSessionId : Int) (elevatedHelperRequested : Bool)
    (starts : WorkerStarts) :
    SameCover tray (tray.startRecordWorker recordSessionId elevatedHelperRequested starts) := by
  obtain ⟨worker, pending, unsent, changed⟩ :=
    start_worker_changes tray recordSessionId elevatedHelperRequested starts
  rw [changed]
  exact ⟨id, rfl, rfl, id, id, fun _ => id⟩

theorem simple_command_same_cover (build : Int → RecordCommand) :
    SameCover tray (tray.spawnSimpleRecordCommand build) := by
  obtain ⟨busy, unsent, changed⟩ := simple_command_changes tray build
  rw [changed]
  exact ⟨id, rfl, rfl, id, id, fun _ => id⟩

theorem settle_same_cover (event : RecordUiEvent) : SameCover tray (tray.settle event) := by
  unfold settle
  split
  · exact ⟨id, rfl, rfl, id, id, List.filter_subset_self _⟩
  · exact ⟨id, rfl, rfl, id, id, List.filter_subset_self _⟩
  · exact ⟨id, rfl, rfl, id, id, fun _ => id⟩

theorem tell_same_cover {event : RecordUiEvent} (noStart : event.startedId = none) :
    SameCover tray (tray.send event) := by
  refine ⟨id, rfl, ?_, id, id, fun _ => id⟩
  unfold starts send
  rw [List.filterMap_append, List.filterMap_cons_none noStart, List.filterMap_nil,
    List.append_nil]

/-- A thread that has opened nothing ends or begins, and nothing else happens. -/
theorem thread_same_cover {next : TraySystem} {before after : Option StartThread}
    (thread : tray.startThread = before) (later : next.startThread = after)
    (shut : before.bind StartThread.openedId = none)
    (idle : after = none ∨ after = some .confirming)
    (suspended : tray.controls.suspended = true → next.controls.suspended = true)
    (active : next.activeRecordSessionId = tray.activeRecordSessionId)
    (events : next.uiEvents.filterMap RecordUiEvent.startedId =
      tray.uiEvents.filterMap RecordUiEvent.startedId)
    (recordings : next.recordings = tray.recordings) : SameCover tray next := by
  constructor
  · exact suspended
  · exact active
  · unfold starts
    rw [events, thread, later, shut]
    rcases idle with rfl | rfl
    all_goals rfl
  · rintro ⟨_, _, waits⟩
    rw [later] at waits
    rcases idle with rfl | rfl
    all_goals cases waits
  · rintro ⟨_, _, waits, _⟩
    rw [later] at waits
    rcases idle with rfl | rfl
    all_goals cases waits
  · rw [recordings]
    exact fun _ => id

end Parts

section Steps

theorem Clear.covered {tray : TraySystem} (clear : tray.Clear)
    (suspended : tray.Waiting → tray.controls.suspended = true) : tray.Covered := by
  constructor
  · rintro (opened | waiting)
    · exact absurd clear.recordings opened
    · exact suspended waiting
  · exact fun _ => clear
  · exact fun _ => clear.recordings
  · exact fun _ => clear.idle
  · intro recordSessionId active
    rw [clear.idle] at active
    cases active
  · intro recordSessionId starting
    rw [clear.starts] at starting
    cases starting

variable {tray : TraySystem} (covered : tray.Covered)

include covered

theorem Covered.lowered {next : TraySystem} (clear : ¬tray.Underway)
    (active : next.activeRecordSessionId = tray.activeRecordSessionId)
    (events : next.uiEvents = tray.uiEvents) (thread : next.startThread = tray.startThread)
    (recordings : next.recordings = tray.recordings) : next.Covered := by
  have starts : next.starts = tray.starts := by
    unfold starts
    rw [events, thread]
  constructor
  · rintro (opened | ⟨_, _, waits⟩)
    · rw [recordings] at opened
      exact absurd (Or.inl opened) clear
    · rw [thread] at waits
      exact absurd (Or.inr ⟨_, _, waits⟩) clear
  · rintro ⟨_, _, waits⟩
    rw [thread] at waits
    have before := covered.waiting ⟨_, _, waits⟩
    exact ⟨active.trans before.idle, recordings.trans before.recordings,
      starts.trans before.starts⟩
  · rintro ⟨_, _, here, fails⟩
    rw [thread] at here
    exact recordings.trans (covered.failed ⟨_, _, here, fails⟩)
  · rw [starts, active]
    exact covered.hidden
  · rw [active, recordings]
    exact covered.shown
  · rw [starts, recordings]
    exact covered.started

theorem Covered.toggle : tray.toggleCapturePause.Covered := by
  unfold toggleCapturePause
  split
  · unfold resumeCapture
    split
    · exact covered.of_same (stop_recording_same_cover tray _ _)
    · split
      all_goals exact covered.of_same ⟨id, rfl, rfl, id, id, fun _ => id⟩
  · have paused : ({ tray with capturePausedByUser := true }.setSuspended true).Covered :=
      covered.of_same ⟨fun _ => rfl, rfl, rfl, id, id, fun _ => id⟩
    unfold pauseCapture
    dsimp only
    split
    · exact paused.of_same (stop_recording_same_cover _ _ _)
    · exact paused

theorem Covered.resume_hears {message : ResumeMessage}
    (undisturbed : tray.Undisturbed (.resumeHears message)) :
    (tray.resumeHears message).Covered := by
  unfold resumeHears
  split
  · exact covered
  · next resume here =>
    split
    · exact covered.of_same ⟨id, rfl, rfl, id, id, fun _ => id⟩
    · next back => exact covered.lowered (undisturbed resume here back) rfl rfl rfl rfl
    · exact covered.of_same ⟨id, rfl, rfl, id, id, fun _ => id⟩

theorem Covered.confirm_start {elevatedHelperRequested : Bool} {sendError : Option String}
    (undisturbed : tray.Undisturbed (.confirmStart elevatedHelperRequested sendError)) :
    (tray.confirmStart elevatedHelperRequested sendError).Covered := by
  unfold confirmStart
  split
  · next confirming =>
    unfold startConfirmed
    split
    · exact covered.of_same
        (thread_same_cover tray confirming rfl rfl (Or.inl rfl) id rfl rfl rfl)
    · next unpaused =>
      rw [Bool.not_eq_true] at unpaused
      cases sendError with
      | none =>
          obtain ⟨clear, lasting⟩ := undisturbed confirming unpaused
          have raised := suspend_suspended tray.controls
          have up : (suspendBaselineCaptureForRecording tray.controls).1.suspended = true := by
            rw [raised, Bool.or_eq_true, Bool.not_eq_true']
            cases off : tray.controls.isSuspended with
            | false => exact Or.inr rfl
            | true => exact Or.inl (lasting off)
          have starts := clear.starts
          unfold TraySystem.starts at starts
          rw [confirming] at starts
          exact Clear.covered ⟨clear.idle, clear.recordings, starts⟩ fun _ => up
      | some error =>
          have restored := restore_suspend tray.controls
          have events : (tray.uiEvents ++ [RecordUiEvent.failed none
              (recordFailStartWriterUnavailable ++ ": " ++ error)]).filterMap
                RecordUiEvent.startedId = tray.uiEvents.filterMap RecordUiEvent.startedId := by
            rw [List.filterMap_append]
            exact List.append_nil _
          exact covered.of_same
            (thread_same_cover tray confirming rfl rfl (Or.inl rfl) restored.trans rfl events rfl)
  · exact covered

theorem Covered.start_replied {elevatedHelperRequested baselineCaptureSuspended : Bool}
    {reply : RecordReply Int}
    (thread : tray.startThread =
      some (.replied elevatedHelperRequested baselineCaptureSuspended reply)) :
    (tray.startReplied elevatedHelperRequested baselineCaptureSuspended reply).Covered := by
  have ends : (tray.send (startEvent elevatedHelperRequested baselineCaptureSuspended
      reply)).startThreadEnds.Covered := by
    apply covered.of_same
    refine ⟨id, rfl, told_starts thread, ?_, ?_, fun _ => id⟩
    · rintro ⟨_, _, ⟨⟩⟩
    · rintro ⟨_, _, ⟨⟩, _⟩
  unfold startReplied
  dsimp only
  split
  · exact ends
  · next unopened =>
    cases baselineCaptureSuspended with
    | false => exact ends
    | true =>
        have none := covered.failed ⟨_, _, thread, unopened⟩
        refine ends.lowered ?_ rfl rfl rfl rfl
        rintro (opened | ⟨_, _, ⟨⟩⟩)
        exact opened none

theorem Covered.finish (keepSuspended : Bool) :
    (tray.finishPrivacyAction keepSuspended).Covered := by
  unfold finishPrivacyAction restoreCaptureAfterPrivacyOperation
  split
  · split_ifs
    · exact covered.of_same ⟨id, rfl, rfl, id, id, fun _ => id⟩
    · exact covered.of_same ⟨fun _ => rfl, rfl, rfl, id, id, fun _ => id⟩
    · exact covered.of_same ⟨id, rfl, rfl, id, id, fun _ => id⟩
  · exact covered

theorem Covered.restore_hears {message : ResumeMessage}
    (undisturbed : tray.Undisturbed (.restoreHears message)) :
    (tray.restoreHears message).Covered := by
  unfold restoreHears
  split
  · next resume here =>
    split
    · exact covered.of_same ⟨id, rfl, rfl, id, id, fun _ => id⟩
    · next back => exact covered.lowered (undisturbed resume here back) rfl rfl rfl rfl
    · exact covered.of_same ⟨fun _ => rfl, rfl, rfl, id, id, fun _ => id⟩
  · exact covered

theorem Covered.writer_takes (prompted : tray.Prompted) {outcome : WriterOutcome}
    {replyLost : Option String}
    (undisturbed : tray.Undisturbed (.writerTakes outcome replyLost)) :
    (tray.writerTakes outcome replyLost).Covered := by
  unfold writerTakes
  cases sent : tray.sent with
  | nil => exact covered
  | cons command rest =>
      unfold writerAnswers
      cases command with
      | record command => exact covered.of_same ⟨id, rfl, rfl, id, id, fun _ => id⟩
      | startRecording =>
          obtain ⟨stands, thread, waiting⟩ := prompted.waits_for_start sent
          cases stands with
          | confirming => cases waiting
          | replied elevatedHelperRequested baselineCaptureSuspended reply => cases waiting
          | waiting elevatedHelperRequested baselineCaptureSuspended =>
              have clear := covered.waiting ⟨_, _, thread⟩
              have up := covered.suspended (Or.inr ⟨_, _, thread⟩)
              have starts := clear.starts
              unfold TraySystem.starts at starts
              rw [thread] at starts
              dsimp only
              rw [thread]
              cases outcome with
              | refused error =>
                  refine Clear.covered ⟨clear.idle, clear.recordings, ?_⟩ fun _ => up
                  cases replyLost
                  all_goals exact starts
              | done recordSessionId =>
                  cases undisturbed rest sent
                  have opened : tray.uiEvents.filterMap RecordUiEvent.startedId ++
                      [recordSessionId] = [recordSessionId] := by
                    rw [(List.append_eq_nil_iff.mp starts).1]
                    rfl
                  rw [clear.recordings]
                  constructor
                  · exact fun _ => up
                  · rintro ⟨_, _, ⟨⟩⟩
                  · rintro ⟨_, _, ⟨⟩, fails⟩
                    exact absurd rfl (fails recordSessionId)
                  · exact fun _ => clear.idle
                  · intro shown active
                    have idle := clear.idle
                    rw [show tray.activeRecordSessionId = some shown from active] at idle
                    cases idle
                  · intro started starting
                    change started ∈ tray.uiEvents.filterMap RecordUiEvent.startedId ++
                      [recordSessionId] at starting
                    rw [opened] at starting
                    cases List.mem_singleton.mp starting
                    exact ⟨opened, fun _ => id⟩

theorem Covered.show_started {recordSessionId : Int}
    {elevatedHelperRequested baselineCaptureSuspended : Bool} {rest : List RecordUiEvent}
    (queue : tray.uiEvents =
      .started recordSessionId elevatedHelperRequested baselineCaptureSuspended :: rest) :
    ((tray.takeEvent rest).showRecording recordSessionId baselineCaptureSuspended).Covered := by
  have starting : tray.starts = recordSessionId ::
      ((tray.takeEvent rest).showRecording recordSessionId baselineCaptureSuspended).starts := by
    unfold starts
    rw [queue]
    rfl
  have first : recordSessionId ∈ tray.starts := by
    rw [starting]
    exact List.mem_cons_self
  obtain ⟨alone, opened⟩ := covered.started recordSessionId first
  rw [alone] at starting
  have none := (List.cons.inj starting).2.symm
  have settled : ¬tray.Waiting := by
    intro waiting
    rw [(covered.waiting waiting).starts] at first
    cases first
  constructor
  · rintro (open' | waiting)
    · exact covered.suspended (Or.inl open')
    · exact absurd waiting settled
  · exact fun waiting => absurd waiting settled
  · exact covered.failed
  · exact fun some => absurd none some
  · rintro _ ⟨⟩
    exact opened
  · intro started member
    rw [none] at member
    cases member

theorem Covered.over_recording {recordSessionId : Int} {event : RecordUiEvent}
    (active : tray.activeRecordSessionId = some recordSessionId)
    (settles : ∀ other : TraySystem, other.settle event =
      { other with recordings := other.recordings.filter fun other => other ≠ recordSessionId }) :
    (tray.recordingOver.settle event).Covered := by
  have none : tray.starts = [] := by
    by_contra starting
    rw [covered.hidden starting] at active
    cases active
  have settled : ¬tray.Waiting := by
    intro waiting
    rw [(covered.waiting waiting).idle] at active
    cases active
  have ended : (tray.recordings.filter fun other => other ≠ recordSessionId) = [] := by
    apply List.filter_eq_nil_iff.mpr
    intro other opened
    rw [List.mem_singleton.mp (covered.shown recordSessionId active opened)]
    simp
  obtain ⟨controls, changed⟩ := recording_over_changes tray
  rw [settles, changed]
  exact Clear.covered ⟨rfl, ended, none⟩ fun waiting => absurd waiting settled

theorem Covered.handle_event (accounted : tray.Accounted) {event : RecordUiEvent}
    {rest : List RecordUiEvent} (queue : tray.uiEvents = event :: rest)
    (orderly : event.unguarded = true → tray.activeRecordSessionId = none)
    (starts : WorkerStarts) :
    (((tray.takeEvent rest).handleRecordUiEvent starts event).settle event).Covered := by
  have popped (noStart : event.startedId = none) : (tray.takeEvent rest).Covered := by
    apply covered.of_same
    refine ⟨id, rfl, ?_, id, id, fun _ => id⟩
    unfold TraySystem.starts
    rw [queue, List.filterMap_cons_none noStart]
    rfl
  unfold handleRecordUiEvent
  cases event with
  | started recordSessionId elevatedHelperRequested baselineCaptureSuspended =>
      have shown := covered.show_started queue
      dsimp only
      split
      · exact shown.of_same (stop_recording_same_cover _ _ _)
      · exact shown.of_same (start_worker_same_cover _ _ _ _)
  | stopForSafetyCap recordSessionId =>
      exact (popped rfl).of_same (stop_recording_same_cover _ _ _)
  | stopped recordSessionId =>
      dsimp only
      split
      · exact (popped rfl).of_same (settle_same_cover _ _)
      · next active => exact (popped rfl).over_recording (not_not.mp active) fun _ => rfl
  | paused recordSessionId =>
      dsimp only
      split
      all_goals exact (popped rfl).of_same ⟨id, rfl, rfl, id, id, fun _ => id⟩
  | resumed recordSessionId =>
      dsimp only
      split
      all_goals exact (popped rfl).of_same ⟨id, rfl, rfl, id, id, fun _ => id⟩
  | failed failedSession message =>
      cases failedSession with
      | none =>
          have idle := orderly rfl
          have lowered := recording_over_suspended (tray.takeEvent rest)
          rw [show (tray.takeEvent rest).baselineCaptureSuspendedForRecording = false from
            accounted.idle idle, Bool.false_and, Bool.not_false, Bool.and_true] at lowered
          obtain ⟨controls, changed⟩ := recording_over_changes (tray.takeEvent rest)
          apply (popped rfl).of_same
          change SameCover (tray.takeEvent rest) (tray.takeEvent rest).recordingOver
          rw [changed] at lowered ⊢
          exact ⟨lowered.trans, idle.symm, rfl, id, id, fun _ => id⟩
      | some recordSessionId =>
          have asked : ((tray.takeEvent rest).spawnStopRecordCommand recordSessionId
              .error).Covered :=
            (popped rfl).of_same ⟨id, rfl, rfl, id, id, fun _ => id⟩
          dsimp only
          split_ifs with other
          · exact (popped rfl).of_same (settle_same_cover _ _)
          · exact asked.over_recording (not_not.mp other) fun _ => rfl
          · exact (popped rfl).over_recording (not_not.mp other) fun _ => rfl

theorem Covered.perform (prompted : tray.Prompted) (accounted : tray.Accounted) {act : TrayAct}
    (undisturbed : tray.Undisturbed act)
    (free : act.isTrayThread = true → tray.captureResume = none) :
    (tray.perform act).Covered := by
  have still {next : TraySystem} (same : SameCover tray next) : next.Covered :=
    covered.of_same same
  have edge {act : TrayAct} (isEdge : act.isPrivacyEdge = true) : (tray.perform act).Covered := by
    obtain ⟨_, _, _, changes⟩ := privacy_edge_changes tray isEdge
    rw [changes]
    exact still ⟨id, rfl, rfl, id, id, fun _ => id⟩
  cases act with
  | toggleCapturePause => exact covered.toggle
  | resumeHears message => exact covered.resume_hears undisturbed
  | spawnRecordRequestDialog =>
      change tray.spawnRecordRequestDialog.Covered
      unfold spawnRecordRequestDialog
      split
      · exact covered
      · next free =>
        rw [Bool.not_eq_true, Bool.or_eq_false_iff] at free
        exact still (thread_same_cover tray (prompted.idle free.2).1 rfl rfl (Or.inr rfl) id rfl
          rfl rfl)
  | declineStart =>
      change tray.declineStart.Covered
      unfold declineStart
      split
      · next confirming =>
        exact still (thread_same_cover tray confirming rfl rfl (Or.inl rfl) id rfl rfl rfl)
      · exact covered
  | confirmStart elevatedHelperRequested sendError => exact covered.confirm_start undisturbed
  | receiveStartReply =>
      change tray.receiveStartReply.Covered
      unfold receiveStartReply
      split
      · next thread => exact covered.start_replied thread
      · exact covered
  | stopRecording =>
      change tray.stopRecording.Covered
      unfold stopRecording
      split
      · exact still (stop_recording_same_cover tray _ _)
      · exact covered
  | recordWorkerDied stopReason =>
      change (tray.recordWorkerDied stopReason).Covered
      unfold recordWorkerDied
      split
      · exact still (stop_recording_same_cover tray _ _)
      · exact covered
  | pauseRecording =>
      change tray.pauseRecording.Covered
      unfold pauseRecording
      split
      · exact covered
      · exact still (simple_command_same_cover tray .pause)
  | resumeRecording =>
      change tray.resumeRecording.Covered
      unfold resumeRecording
      split
      · exact still (simple_command_same_cover tray .resume)
      · exact covered
  | spawnCapPrompt recordSessionId =>
      change (tray.spawnCapPrompt recordSessionId).Covered
      unfold spawnCapPrompt
      split
      · exact still ⟨id, rfl, rfl, id, id, fun _ => id⟩
      · exact covered
  | answerCapPrompt continues sendError =>
      have ended : { tray with promptInFlight := false, capPrompt := none }.Covered :=
        still ⟨id, rfl, rfl, id, id, fun _ => id⟩
      change (tray.answerCapPrompt continues sendError).Covered
      unfold answerCapPrompt
      split
      · exact covered
      · dsimp only
        split
        · exact ended
        · exact ended.of_same (tell_same_cover _ rfl)
        · exact ended.of_same (tell_same_cover _ rfl)
  | sendCommand index sendError =>
      change (tray.sendCommand index sendError).Covered
      unfold sendCommand
      split
      · exact covered
      · next command _ =>
        cases sendError with
        | none => exact still ⟨id, rfl, rfl, id, id, fun _ => id⟩
        | some error =>
            have taken : { tray with unsent := tray.unsent.eraseIdx index }.Covered :=
              still ⟨id, rfl, rfl, id, id, fun _ => id⟩
            have noStart :
                (command.failure recordFailCommandWriterUnavailable error).startedId = none := rfl
            have told := taken.of_same (tell_same_cover _ noStart)
            exact told.of_same ⟨id, rfl, rfl, id, id, fun _ => id⟩
  | writerTakes outcome replyLost => exact covered.writer_takes prompted undisturbed
  | receiveReply index =>
      change (tray.receiveReply index).Covered
      unfold receiveReply
      split
      · exact covered
      · next command reply _ =>
        have taken : { tray with replies := tray.replies.eraseIdx index }.Covered :=
          still ⟨id, rfl, rfl, id, id, fun _ => id⟩
        have told := taken.of_same (tell_same_cover _ (delivered_starts_nothing command reply))
        exact told.of_same ⟨id, rfl, rfl, id, id, fun _ => id⟩
  | handleRecordUiEvent starts =>
      change (tray.handleNextUiEvent starts).Covered
      unfold handleNextUiEvent
      split
      · exact covered
      · next event rest queue =>
        exact covered.handle_event accounted queue (undisturbed (free rfl) event rest queue) starts
  | requestPrivacyAction => exact edge rfl
  | declinePrivacyAction => exact edge rfl
  | endPrivacyAction => exact edge rfl
  | takeSuspension =>
      change tray.takeSuspension.Covered
      unfold takeSuspension
      split
      · exact still ⟨fun _ => rfl, rfl, rfl, id, id, fun _ => id⟩
      · exact covered
  | finishPrivacyAction keepSuspended => exact covered.finish keepSuspended
  | restoreHears message => exact covered.restore_hears undisturbed
  | beginSensitiveTransition => exact still ⟨id, rfl, rfl, id, id, fun _ => id⟩
  | endSensitiveTransition => exact still ⟨id, rfl, rfl, id, id, fun _ => id⟩

theorem covered_step (prompted : tray.Prompted) (accounted : tray.Accounted) {act : TrayAct}
    (undisturbed : tray.Undisturbed act) : (tray.step act).Covered := by
  rcases step_cases tray act with waits | ⟨performed, free⟩
  · rw [waits]
    exact covered
  · rw [performed]
    exact covered.perform prompted accounted undisturbed free

end Steps

theorem covered_new (streams : CaptureStream → Bool) (idleThresholdMs : UInt64) :
    (new streams idleThresholdMs).Covered := by
  apply Clear.covered
  · exact ⟨rfl, rfl, rfl⟩
  · rintro ⟨_, _, ⟨⟩⟩

/-- With no recording nobody but the user or a privacy operation keeps capture suspended. -/
theorem Accounted.clear {tray : TraySystem} (accounted : tray.Accounted) (clear : tray.Clear)
    (idle : tray.startThread = none) (resumed : tray.captureResume = none)
    (suspended : tray.controls.suspended = true) : tray.Held := by
  cases accounted.reason suspended with
  | held holds => exact holds
  | resuming waits => exact absurd resumed waits
  | shown flag =>
      rw [accounted.idle clear.idle] at flag
      cases flag
  | thread stands here owns =>
      rw [idle] at here
      cases here
  | event event waits owns =>
      have none := (List.append_eq_nil_iff.mp clear.starts).1
      have starts := List.filterMap_eq_nil_iff.mp none event waits
      cases event with
      | started => cases starts
      | _ => cases owns

/-- Capture is suspended from before the writer opens a recording until the tray has handled the
event of its end; with no recording it is suspended only while somebody else holds it. -/
theorem recording_suspends_capture (streams : CaptureStream → Bool) (idleThresholdMs : UInt64)
    (acts : List TrayAct)
    (undisturbed : machine.AllSteps Undisturbed (new streams idleThresholdMs) acts) :
    ((machine.run (new streams idleThresholdMs) acts).Underway →
        (machine.run (new streams idleThresholdMs) acts).controls.suspended = true) ∧
      ((machine.run (new streams idleThresholdMs) acts).Clear →
        (machine.run (new streams idleThresholdMs) acts).startThread = none →
          (machine.run (new streams idleThresholdMs) acts).captureResume = none →
            (machine.run (new streams idleThresholdMs) acts).controls.suspended = true →
              (machine.run (new streams idleThresholdMs) acts).Held) := by
  have along := machine.run_invariant_of_steps
    (fun tray => tray.Prompted ∧ tray.Accounted ∧ tray.Covered) Undisturbed
    (fun tray act undisturbed ⟨prompted, accounted, covered⟩ =>
      ⟨prompted_step prompted act,
        accounted_step accounted prompted (fun _ same => by subst same; exact undisturbed)
          fun same => by subst same; exact undisturbed,
        covered_step covered prompted accounted undisturbed⟩)
    (new streams idleThresholdMs) acts
    ⟨prompted_new streams idleThresholdMs, accounted_new streams idleThresholdMs,
      covered_new streams idleThresholdMs⟩ undisturbed
  obtain ⟨-, accounted, covered⟩ := along
  exact ⟨covered.suspended, accounted.clear⟩

/-- The user pauses while a start waits for the writer, so the recording is stopped as soon as
the tray hears of it. -/
private def pausedWhileStarting : List TrayAct :=
  [.spawnRecordRequestDialog, .confirmStart false none,
    .toggleCapturePause, .writerTakes (.done 1) none,
    .receiveStartReply, .handleRecordUiEvent ⟨false, true⟩, .sendCommand 0 none]

theorem recording_suspends_capture_paused :
    (machine.run (new (fun _ => true) 1) pausedWhileStarting).recordings = [1] ∧
      (machine.run (new (fun _ => true) 1) pausedWhileStarting).controls.suspended = true := by
  have undisturbed :
      machine.AllSteps Undisturbed (new (fun _ => true) 1) pausedWhileStarting := by
    refine ⟨trivial, ?_, ?_, ?_, trivial, ?_, trivial, trivial⟩
    · exact fun _ _ => ⟨⟨rfl, rfl, rfl⟩, nofun⟩
    · rintro _ ⟨⟩
    · exact fun _ _ => rfl
    · exact fun _ _ _ _ _ => rfl
  have held := recording_suspends_capture (fun _ => true) 1 pausedWhileStarting undisturbed
  exact ⟨rfl, held.1 (Or.inl nofun)⟩

/-- A start is confirmed while capture is off for a moment only: the recording does not own it,
and capture is on again when the moment is over. -/
private def confirmedInTransition : List TrayAct :=
  [.spawnRecordRequestDialog, .beginSensitiveTransition, .confirmStart false none,
    .writerTakes (.done 1) none, .endSensitiveTransition]

theorem captured_while_recording :
    (machine.run (new (fun _ => true) 1) confirmedInTransition).recordings = [1] ∧
      (machine.run (new (fun _ => true) 1) confirmedInTransition).controls.isSuspended = false :=
  ⟨rfl, rfl⟩

end TraySystem

end Gilbreth.App
