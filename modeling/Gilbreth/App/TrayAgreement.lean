import Gilbreth.App.TrayThreads

/-!
# The tray and the writer agree on the recording

A stop is sent for a recording that the tray shows, and a recording the writer opens reaches the
tray as an event. In a run where no event without a session of its own ends or replaces a shown
recording, and every stop reaches the writer, the two agree whenever nothing is on its way.
-/

set_option autoImplicit false

namespace Gilbreth.App

def RecordUiEvent.startedId : RecordUiEvent → Option Int
  | .started recordSessionId _ _ => some recordSessionId
  | _ => none

/-- The recording that the thread's reply names. -/
def StartThread.openedId : StartThread → Option Int
  | .replied _ _ (.answered (.ok recordSessionId)) => some recordSessionId
  | _ => none

/-- An event that the tray handles without a look at the recording it shows. -/
def RecordUiEvent.unguarded : RecordUiEvent → Bool
  | .started _ _ _ => true
  | .failed none _ => true
  | _ => false

namespace TraySystem

section Predicates

variable (tray : TraySystem)

/-- The recordings that the writer opened and the tray has not heard of, oldest first. -/
def starts : List Int :=
  tray.uiEvents.filterMap RecordUiEvent.startedId ++
    (tray.startThread.bind StartThread.openedId).toList

def StopDue (recordSessionId : Int) : Prop :=
  (∃ stopReason, RecordCommand.stop recordSessionId stopReason ∈ tray.unsent) ∨
    ∃ stopReason, QueuedCommand.record (.stop recordSessionId stopReason) ∈ tray.sent

/-- The tray is yet to hear that the writer stopped the recording. -/
def Stopped (recordSessionId : Int) : Prop :=
  RecordUiEvent.stopped recordSessionId ∈ tray.uiEvents ∨
    ∃ stopReason, (RecordCommand.stop recordSessionId stopReason, RecordReply.answered (.ok ())) ∈
      tray.replies

/-- The tray is yet to hear what became of a stop. -/
def Closing (recordSessionId : Int) : Prop :=
  (∃ stopReason reply, (RecordCommand.stop recordSessionId stopReason, reply) ∈ tray.replies) ∨
    RecordUiEvent.stopped recordSessionId ∈ tray.uiEvents ∨
      ∃ message, RecordUiEvent.failed (some recordSessionId) message ∈ tray.uiEvents

/-- The tray shows the recording, or something on its way names it. -/
def Mentions (recordSessionId : Int) : Prop :=
  tray.activeRecordSessionId = some recordSessionId ∨ recordSessionId ∈ tray.starts ∨
    tray.StopDue recordSessionId ∨ tray.Stopped recordSessionId

/-- Nothing about a recording is on its way, and the tray is not about to resume capture. -/
structure Settled : Prop where
  events : tray.uiEvents = []
  unsent : tray.unsent = []
  sent : tray.sent = []
  replies : tray.replies = []
  start : tray.startThread = none ∨ tray.startThread = some .confirming
  resume : tray.captureResume = none

/-- The next event meets no recording that it could end or replace without a look at it. -/
def NextGuarded : Prop :=
  ∀ event rest, tray.uiEvents = event :: rest → event.unguarded = true →
    tray.activeRecordSessionId = none

/-- The user lifts a pause before an operation that owns the suspension hands capture back, or
after its report. -/
def LiftedInTime : Prop :=
  tray.capturePausedByUser = true → tray.activeRecordSessionId = none →
    tray.privacySuspensionOwned = true → tray.operationHolds = true

/-- A step of a run in which the writer opens recordings under fresh numbers and answers, stops
reach it, no event without a guard meets a shown recording, and no pause is lifted under the
report of a privacy operation. -/
def Orderly : TrayAct → Prop
  | .handleRecordUiEvent _ => tray.captureResume = none → tray.NextGuarded
  | .toggleCapturePause => tray.captureResume = none → tray.LiftedInTime
  | .sendCommand index (some _) => ∀ recordSessionId stopReason,
      tray.unsent[index]? = some (.stop recordSessionId stopReason) →
        tray.writerRecordSessionId ≠ some recordSessionId
  | .writerTakes (.refused _) _ => ∀ recordSessionId stopReason rest,
      tray.sent = .record (.stop recordSessionId stopReason) :: rest →
        tray.writerRecordSessionId ≠ some recordSessionId
  | .writerTakes (.done recordSessionId) replyLost => ∀ rest,
      tray.sent = .startRecording :: rest → replyLost = none ∧ ¬tray.Mentions recordSessionId
  | _ => True

/-- What holds between any two steps of such a run. -/
structure Agreeing : Prop where
  held : ∀ recordSessionId, tray.writerRecordSessionId = some recordSessionId →
    tray.activeRecordSessionId = some recordSessionId ∨ recordSessionId ∈ tray.starts ∨
      tray.StopDue recordSessionId
  shown : ∀ recordSessionId, tray.activeRecordSessionId = some recordSessionId →
    tray.writerRecordSessionId = some recordSessionId ∨ tray.Closing recordSessionId ∨
      tray.starts ≠ []
  newest : ∀ recordSessionId ∈ tray.starts.getLast?,
    tray.writerRecordSessionId = some recordSessionId
  once : tray.starts.Nodup
  unshown : ∀ recordSessionId, tray.activeRecordSessionId = some recordSessionId →
    recordSessionId ∉ tray.starts
  unstopped : ∀ recordSessionId, tray.StopDue recordSessionId → recordSessionId ∉ tray.starts
  stopped : ∀ recordSessionId, tray.Stopped recordSessionId →
    tray.writerRecordSessionId ≠ some recordSessionId
  pending : ∀ recordSessionId, tray.activeRecordSessionId = some recordSessionId →
    tray.recordStopPendingSessionId = some recordSessionId →
      tray.StopDue recordSessionId ∨ tray.writerRecordSessionId ≠ some recordSessionId

end Predicates

theorem Agreeing.settled {tray : TraySystem} (agreeing : tray.Agreeing) (settled : tray.Settled) :
    tray.activeRecordSessionId = tray.writerRecordSessionId := by
  have noStarts : tray.starts = [] := by
    unfold starts
    rw [settled.events]
    rcases settled.start with thread | thread
    all_goals rw [thread]
    all_goals rfl
  have noStop (recordSessionId : Int) : ¬tray.StopDue recordSessionId := by
    unfold StopDue
    rw [settled.unsent, settled.sent]
    rintro (⟨_, ⟨⟩⟩ | ⟨_, ⟨⟩⟩)
  have notClosing (recordSessionId : Int) : ¬tray.Closing recordSessionId := by
    unfold Closing
    rw [settled.events, settled.replies]
    rintro (⟨_, _, ⟨⟩⟩ | ⟨⟨⟩⟩ | ⟨_, ⟨⟩⟩)
  apply Option.ext
  intro recordSessionId
  constructor
  · intro active
    rcases agreeing.shown recordSessionId active with same | closing | starting
    · exact same
    · exact absurd closing (notClosing recordSessionId)
    · exact absurd noStarts starting
  · intro writer
    rcases agreeing.held recordSessionId writer with same | starting | stopping
    · exact same
    · rw [noStarts] at starting
      cases starting
    · exact absurd stopping (noStop recordSessionId)

section Parts

/-- A step that leaves alone what the tray and the writer say about recordings. -/
structure SameTalk (tray next : TraySystem) : Prop where
  active : next.activeRecordSessionId = tray.activeRecordSessionId
  pending : next.recordStopPendingSessionId = tray.recordStopPendingSessionId
  writer : next.writerRecordSessionId = tray.writerRecordSessionId
  events : next.uiEvents = tray.uiEvents
  thread : next.startThread = tray.startThread
  unsent : next.unsent = tray.unsent
  sent : next.sent = tray.sent
  replies : next.replies = tray.replies

/-- What a step may change that neither opens, shows nor ends a recording: an event or a reply
may be added, and one that is past may be dropped. -/
structure Follows (tray next : TraySystem) : Prop where
  active : next.activeRecordSessionId = tray.activeRecordSessionId
  pending : next.recordStopPendingSessionId = tray.recordStopPendingSessionId
  writer : next.writerRecordSessionId = tray.writerRecordSessionId
  starts : next.starts = tray.starts
  due : ∀ recordSessionId, next.StopDue recordSessionId ↔ tray.StopDue recordSessionId
  stopped : ∀ recordSessionId, next.Stopped recordSessionId → tray.Stopped recordSessionId
  closing : ∀ recordSessionId, tray.activeRecordSessionId = some recordSessionId →
    tray.Closing recordSessionId → next.Closing recordSessionId

theorem Agreeing.of_follows {tray next : TraySystem} (agreeing : tray.Agreeing)
    (follows : Follows tray next) : next.Agreeing := by
  constructor
  · intro recordSessionId
    rw [follows.writer, follows.active, follows.starts, follows.due]
    exact agreeing.held recordSessionId
  · intro recordSessionId active
    rw [follows.active] at active
    rw [follows.writer, follows.starts]
    rcases agreeing.shown recordSessionId active with writer | closing | starting
    · exact Or.inl writer
    · exact Or.inr (Or.inl (follows.closing recordSessionId active closing))
    · exact Or.inr (Or.inr starting)
  · rw [follows.starts, follows.writer]
    exact agreeing.newest
  · rw [follows.starts]
    exact agreeing.once
  · rw [follows.active, follows.starts]
    exact agreeing.unshown
  · intro recordSessionId
    rw [follows.due, follows.starts]
    exact agreeing.unstopped recordSessionId
  · intro recordSessionId yet
    rw [follows.writer]
    exact agreeing.stopped recordSessionId (follows.stopped recordSessionId yet)
  · intro recordSessionId
    rw [follows.active, follows.pending, follows.due, follows.writer]
    exact agreeing.pending recordSessionId

theorem Agreeing.of_same {tray next : TraySystem} (agreeing : tray.Agreeing)
    (same : SameTalk tray next) : next.Agreeing := by
  apply agreeing.of_follows
  constructor
  · exact same.active
  · exact same.pending
  · exact same.writer
  · unfold starts
    rw [same.events, same.thread]
  · intro recordSessionId
    unfold StopDue
    rw [same.unsent, same.sent]
  · intro recordSessionId
    unfold Stopped
    rw [same.events, same.replies]
    exact id
  · intro recordSessionId _
    unfold Closing
    rw [same.replies, same.events]
    exact id

theorem mem_or_mem_erase {Entry : Type} {entries : List Entry} {index : Nat} {taken : Entry}
    (found : entries[index]? = some taken) {entry : Entry} (member : entry ∈ entries) :
    entry = taken ∨ entry ∈ entries.eraseIdx index := by
  obtain ⟨place, here⟩ := List.mem_iff_getElem?.mp member
  by_cases same : place = index
  · rw [same, found] at here
    exact Or.inl (Option.some.inj here).symm
  · exact Or.inr (List.mem_eraseIdx_iff_getElem?.mpr ⟨place, same, here⟩)

variable {tray : TraySystem} (agreeing : tray.Agreeing)

include agreeing

omit agreeing in
theorem Closing.told {next : TraySystem} {event : RecordUiEvent} {recordSessionId : Int}
    (closing : tray.Closing recordSessionId) (replies : next.replies = tray.replies)
    (events : next.uiEvents = tray.uiEvents ++ [event]) : next.Closing recordSessionId := by
  unfold Closing
  rw [replies, events]
  rcases closing with reply | told | ⟨message, failed⟩
  · exact Or.inl reply
  · exact Or.inr (Or.inl (List.mem_append_left _ told))
  · exact Or.inr (Or.inr ⟨message, List.mem_append_left _ failed⟩)

omit agreeing in
theorem Stopped.untold {next : TraySystem} {event : RecordUiEvent} {recordSessionId : Int}
    (yet : next.Stopped recordSessionId) (replies : next.replies = tray.replies)
    (events : next.uiEvents = tray.uiEvents ++ [event])
    (noStop : event ≠ .stopped recordSessionId) : tray.Stopped recordSessionId := by
  unfold Stopped at yet
  rw [replies, events] at yet
  rcases yet with told | reply
  · rcases List.mem_append.mp told with before | new
    · exact Or.inl before
    · exact absurd (List.mem_singleton.mp new).symm noStop
  · exact Or.inr reply

theorem Agreeing.tell {event : RecordUiEvent} (noStart : event.startedId = none)
    (noStop : ∀ recordSessionId, event ≠ .stopped recordSessionId) :
    (tray.send event).Agreeing := by
  apply agreeing.of_follows
  constructor
  · rfl
  · rfl
  · rfl
  · unfold starts send
    rw [List.filterMap_append, List.filterMap_cons_none noStart, List.filterMap_nil,
      List.append_nil]
  · exact fun _ => Iff.rfl
  · exact fun recordSessionId yet => yet.untold rfl rfl (noStop recordSessionId)
  · exact fun recordSessionId _ closing => closing.told rfl rfl

theorem Agreeing.ask {recordSessionId : Int} (stopReason : Core.RecordStopReason)
    (active : tray.activeRecordSessionId = some recordSessionId) :
    (tray.spawnStopRecordCommand recordSessionId stopReason).Agreeing := by
  have due {other : Int} (before : tray.StopDue other) :
      (tray.spawnStopRecordCommand recordSessionId stopReason).StopDue other := by
    rcases before with ⟨reason, unsent⟩ | sent
    · exact Or.inl ⟨reason, List.mem_append_left _ unsent⟩
    · exact Or.inr sent
  constructor
  · intro other writer
    rcases agreeing.held other writer with shown | starting | stopping
    · exact Or.inl shown
    · exact Or.inr (Or.inl starting)
    · exact Or.inr (Or.inr (due stopping))
  · exact agreeing.shown
  · exact agreeing.newest
  · exact agreeing.once
  · exact agreeing.unshown
  · intro other stopping
    rcases stopping with ⟨reason, unsent⟩ | sent
    · rcases List.mem_append.mp unsent with before | new
      · exact agreeing.unstopped other (Or.inl ⟨reason, before⟩)
      · cases List.mem_singleton.mp new
        exact agreeing.unshown recordSessionId active
    · exact agreeing.unstopped other (Or.inr sent)
  · exact agreeing.stopped
  · intro other shown pending
    rcases agreeing.pending other shown pending with stopping | dropped
    · exact Or.inl (due stopping)
    · exact Or.inr dropped

omit agreeing in
theorem asked_due (recordSessionId : Int) (stopReason : Core.RecordStopReason) :
    (tray.spawnStopRecordCommand recordSessionId stopReason).StopDue recordSessionId :=
  Or.inl ⟨stopReason, List.mem_append_right _ List.mem_cons_self⟩

theorem Agreeing.await {recordSessionId : Int} (due : tray.StopDue recordSessionId) :
    { tray with recordStopPendingSessionId := some recordSessionId }.Agreeing := by
  constructor
  · exact agreeing.held
  · exact agreeing.shown
  · exact agreeing.newest
  · exact agreeing.once
  · exact agreeing.unshown
  · exact agreeing.unstopped
  · exact agreeing.stopped
  · intro other _ pending
    cases pending
    exact Or.inl due

theorem Agreeing.stop_recording (recordSessionId : Int) (stopReason : Core.RecordStopReason) :
    (tray.stopRecordingWithReason recordSessionId stopReason).Agreeing := by
  have frozen : tray.stopRecordWorker.Agreeing :=
    agreeing.of_same ⟨rfl, rfl, rfl, rfl, rfl, rfl, rfl, rfl⟩
  unfold stopRecordingWithReason
  dsimp only
  split_ifs with hidden
  · exact agreeing
  · exact frozen
  · exact agreeing
  · have asked := frozen.ask stopReason (not_not.mp hidden)
    exact asked.await (asked_due recordSessionId stopReason)
  · have asked := agreeing.ask stopReason (not_not.mp hidden)
    exact asked.await (asked_due recordSessionId stopReason)

theorem Agreeing.start_worker (recordSessionId : Int) (elevatedHelperRequested : Bool)
    (starts : WorkerStarts) :
    (tray.startRecordWorker recordSessionId elevatedHelperRequested starts).Agreeing := by
  have stopped : tray.stopRecordWorker.Agreeing :=
    agreeing.of_same ⟨rfl, rfl, rfl, rfl, rfl, rfl, rfl, rfl⟩
  unfold startRecordWorker
  dsimp only
  split_ifs
  · exact agreeing.of_same ⟨rfl, rfl, rfl, rfl, rfl, rfl, rfl, rfl⟩
  · exact stopped.stop_recording recordSessionId .error

theorem Agreeing.simple_command {build : Int → RecordCommand}
    (noStop : ∀ recordSessionId other stopReason, build recordSessionId ≠ .stop other stopReason) :
    (tray.spawnSimpleRecordCommand build).Agreeing := by
  unfold spawnSimpleRecordCommand
  split
  · exact agreeing
  · next recordSessionId active =>
    split_ifs
    · exact agreeing
    · apply agreeing.of_follows
      refine ⟨rfl, rfl, rfl, rfl, ?_, fun _ => id, fun _ _ => id⟩
      intro other
      constructor
      · rintro (⟨reason, unsent⟩ | sent)
        · rcases List.mem_append.mp unsent with before | new
          · exact Or.inl ⟨reason, before⟩
          · exact absurd (List.mem_singleton.mp new).symm (noStop recordSessionId other reason)
        · exact Or.inr sent
      · rintro (⟨reason, unsent⟩ | sent)
        · exact Or.inl ⟨reason, List.mem_append_left _ unsent⟩
        · exact Or.inr sent

theorem Agreeing.send_command {index : Nat} {command : RecordCommand}
    (found : tray.unsent[index]? = some command) :
    { tray with
      unsent := tray.unsent.eraseIdx index
      sent := tray.sent ++ [QueuedCommand.record command] }.Agreeing := by
  apply agreeing.of_follows
  refine ⟨rfl, rfl, rfl, rfl, ?_, fun _ => id, fun _ _ => id⟩
  intro other
  constructor
  · rintro (⟨reason, unsent⟩ | ⟨reason, sent⟩)
    · exact Or.inl ⟨reason, List.mem_of_mem_eraseIdx unsent⟩
    · rcases List.mem_append.mp sent with before | new
      · exact Or.inr ⟨reason, before⟩
      · cases List.mem_singleton.mp new
        exact Or.inl ⟨reason, List.mem_of_getElem? found⟩
  · rintro (⟨reason, unsent⟩ | ⟨reason, sent⟩)
    · rcases mem_or_mem_erase found unsent with rfl | left
      · exact Or.inr ⟨reason, List.mem_append_right _ List.mem_cons_self⟩
      · exact Or.inl ⟨reason, left⟩
    · exact Or.inr ⟨reason, List.mem_append_left _ sent⟩

/-- A command is dropped on the way: a stop only of a recording that the writer does not hold. -/
theorem Agreeing.drop_command {index : Nat} {command : RecordCommand}
    (found : tray.unsent[index]? = some command)
    (needless : ∀ recordSessionId stopReason, command = .stop recordSessionId stopReason →
      tray.writerRecordSessionId ≠ some recordSessionId) :
    { tray with unsent := tray.unsent.eraseIdx index }.Agreeing := by
  have due {other : Int} (before : tray.StopDue other) :
      { tray with unsent := tray.unsent.eraseIdx index }.StopDue other ∨
        tray.writerRecordSessionId ≠ some other := by
    rcases before with ⟨reason, unsent⟩ | sent
    · rcases mem_or_mem_erase found unsent with rfl | left
      · exact Or.inr (needless other reason rfl)
      · exact Or.inl (Or.inl ⟨reason, left⟩)
    · exact Or.inl (Or.inr sent)
  constructor
  · intro other writer
    rcases agreeing.held other writer with shown | starting | stopping
    · exact Or.inl shown
    · exact Or.inr (Or.inl starting)
    · rcases due stopping with still | lost
      · exact Or.inr (Or.inr still)
      · exact absurd writer lost
  · exact agreeing.shown
  · exact agreeing.newest
  · exact agreeing.once
  · exact agreeing.unshown
  · intro other stopping
    apply agreeing.unstopped other
    rcases stopping with ⟨reason, unsent⟩ | sent
    · exact Or.inl ⟨reason, List.mem_of_mem_eraseIdx unsent⟩
    · exact Or.inr sent
  · exact agreeing.stopped
  · intro other shown pending
    rcases agreeing.pending other shown pending with stopping | lost
    · exact due stopping
    · exact Or.inr lost

omit agreeing in
theorem delivered_starts_nothing (command : RecordCommand) (reply : RecordReply Unit) :
    (command.delivered reply).startedId = none := by
  unfold RecordCommand.delivered
  split
  · cases command
    all_goals rfl
  · rfl
  · rfl

theorem Agreeing.receive_reply {index : Nat} {command : RecordCommand} {reply : RecordReply Unit}
    (found : tray.replies[index]? = some (command, reply)) :
    ({ tray with replies := tray.replies.eraseIdx index }.send
      (command.delivered reply)).Agreeing := by
  have noStart := delivered_starts_nothing command reply
  apply agreeing.of_follows
  constructor
  · rfl
  · rfl
  · rfl
  · unfold starts send
    rw [List.filterMap_append, List.filterMap_cons_none noStart, List.filterMap_nil,
      List.append_nil]
  · exact fun _ => Iff.rfl
  · rintro other (told | ⟨reason, waits⟩)
    · rcases List.mem_append.mp told with before | new
      · exact Or.inl before
      · have event := List.mem_singleton.mp new
        unfold RecordCommand.delivered at event
        split at event
        · cases command with
          | stop recordSessionId stopReason =>
              cases event
              exact Or.inr ⟨stopReason, List.mem_of_getElem? found⟩
          | pause => cases event
          | resume => cases event
        · cases event
        · cases event
    · exact Or.inr ⟨reason, List.mem_of_mem_eraseIdx waits⟩
  · rintro other _ (⟨reason, answer, waits⟩ | told | ⟨message, failed⟩)
    · rcases mem_or_mem_erase found waits with same | left
      · cases same
        cases reply with
        | lost error => exact Or.inr (Or.inr ⟨_, List.mem_append_right _ List.mem_cons_self⟩)
        | answered result =>
            cases result with
            | error error =>
                exact Or.inr (Or.inr ⟨_, List.mem_append_right _ List.mem_cons_self⟩)
            | ok done => exact Or.inr (Or.inl (List.mem_append_right _ List.mem_cons_self))
      · exact Or.inl ⟨reason, answer, left⟩
    · exact Or.inr (Or.inl (List.mem_append_left _ told))
    · exact Or.inr (Or.inr ⟨message, List.mem_append_left _ failed⟩)

/-- The writer carries out a pause or a resume, or a stop that leaves it without the recording. -/
theorem Agreeing.writer_answers {rest : List QueuedCommand} {command : RecordCommand}
    (taken : tray.sent = .record command :: rest) {writer : Option Int}
    (kept : ∀ recordSessionId, writer = some recordSessionId →
      tray.writerRecordSessionId = some recordSessionId)
    (lost : ∀ recordSessionId, tray.writerRecordSessionId = some recordSessionId →
      writer = some recordSessionId ∨
        ∃ stopReason, command = .stop recordSessionId stopReason)
    (stops : ∀ recordSessionId stopReason, command = .stop recordSessionId stopReason →
      writer ≠ some recordSessionId) (reply : RecordReply Unit) :
    { tray with
      sent := rest
      writerRecordSessionId := writer
      replies := tray.replies ++ [(command, reply)] }.Agreeing := by
  have due {other : Int} (before : tray.StopDue other) :
      { tray with
        sent := rest
        writerRecordSessionId := writer
        replies := tray.replies ++ [(command, reply)] }.StopDue other ∨ writer ≠ some other := by
    rcases before with unsent | ⟨reason, sent⟩
    · exact Or.inl (Or.inl unsent)
    · rw [taken] at sent
      rcases List.mem_cons.mp sent with same | left
      · cases same
        exact Or.inr (stops other reason rfl)
      · exact Or.inl (Or.inr ⟨reason, left⟩)
  constructor
  · intro other held
    rcases agreeing.held other (kept other held) with shown | starting | stopping
    · exact Or.inl shown
    · exact Or.inr (Or.inl starting)
    · rcases due stopping with still | dropped
      · exact Or.inr (Or.inr still)
      · exact absurd held dropped
  · intro other active
    rcases agreeing.shown other active with held | closing | starting
    · rcases lost other held with still | ⟨reason, rfl⟩
      · exact Or.inl still
      · exact Or.inr (Or.inl (Or.inl
          ⟨reason, reply, List.mem_append_right _ List.mem_cons_self⟩))
    · rcases closing with ⟨reason, answer, waits⟩ | told
      · exact Or.inr (Or.inl (Or.inl ⟨reason, answer, List.mem_append_left _ waits⟩))
      · exact Or.inr (Or.inl (Or.inr told))
    · exact Or.inr (Or.inr starting)
  · intro newest last
    rcases lost newest (agreeing.newest newest last) with still | ⟨reason, rfl⟩
    · exact still
    · have stopping : tray.StopDue newest := by
        refine Or.inr ⟨reason, ?_⟩
        rw [taken]
        exact List.mem_cons_self
      exact absurd (List.mem_of_getLast? last) (agreeing.unstopped newest stopping)
  · exact agreeing.once
  · exact agreeing.unshown
  · intro other stopping
    apply agreeing.unstopped other
    rcases stopping with unsent | ⟨reason, sent⟩
    · exact Or.inl unsent
    · refine Or.inr ⟨reason, ?_⟩
      rw [taken]
      exact List.mem_cons_of_mem _ sent
  · intro other yet held
    rcases yet with told | ⟨reason, waits⟩
    · exact agreeing.stopped other (Or.inl told) (kept other held)
    · rcases List.mem_append.mp waits with before | new
      · exact agreeing.stopped other (Or.inr ⟨reason, before⟩) (kept other held)
      · cases List.mem_singleton.mp new
        exact stops other reason rfl held
  · intro other shown pending
    rcases agreeing.pending other shown pending with stopping | dropped
    · exact due stopping
    · exact Or.inr fun held => dropped (kept other held)

theorem Agreeing.writer_starts {rest : List QueuedCommand} {stands replied : StartThread}
    (taken : tray.sent = .startRecording :: rest) (thread : tray.startThread = some stands)
    (waiting : stands.openedId = none) {writer : Option Int}
    (opened : replied.openedId = none ∧ writer = tray.writerRecordSessionId ∨
      ∃ recordSessionId, replied.openedId = some recordSessionId ∧
        writer = some recordSessionId ∧ ¬tray.Mentions recordSessionId) (recordings : List Int) :
    { tray with
      sent := rest
      writerRecordSessionId := writer
      recordings := recordings
      startThread := some replied }.Agreeing := by
  have due (other : Int) :
      { tray with
        sent := rest
        writerRecordSessionId := writer
        recordings := recordings
        startThread := some replied }.StopDue other ↔ tray.StopDue other := by
    unfold StopDue
    rw [taken]
    simp
  have before : tray.starts = tray.uiEvents.filterMap RecordUiEvent.startedId := by
    unfold TraySystem.starts
    rw [thread, Option.bind_some, waiting, Option.toList_none, List.append_nil]
  rcases opened with ⟨unopened, rfl⟩ | ⟨recordSessionId, opens, rfl, fresh⟩
  · apply agreeing.of_follows
    refine ⟨rfl, rfl, rfl, ?_, due, fun _ => id, fun _ _ => id⟩
    rw [before]
    unfold starts
    rw [Option.bind_some, unopened, Option.toList_none, List.append_nil]
  · have starts : { tray with
        sent := rest
        writerRecordSessionId := some recordSessionId
        recordings := recordings
        startThread := some replied }.starts = tray.starts ++ [recordSessionId] := by
      rw [before]
      unfold TraySystem.starts
      rw [Option.bind_some, opens, Option.toList_some]
    have named {other : Int} (mentions : tray.Mentions other) : other ≠ recordSessionId := by
      rintro rfl
      exact fresh mentions
    constructor
    · intro other held
      cases held
      rw [starts]
      exact Or.inr (Or.inl (List.mem_append_right _ List.mem_cons_self))
    · intro other _
      rw [starts]
      exact Or.inr (Or.inr (List.append_ne_nil_of_right_ne_nil _ (List.cons_ne_nil _ _)))
    · intro other last
      rw [starts, List.getLast?_concat] at last
      exact last
    · rw [starts, List.nodup_append]
      refine ⟨agreeing.once, List.nodup_singleton _, ?_⟩
      intro other member same found
      rw [List.mem_singleton.mp found]
      exact named (Or.inr (Or.inl member))
    · intro other active
      rw [starts, List.mem_append, List.mem_singleton]
      rintro (member | same)
      · exact agreeing.unshown other active member
      · exact named (Or.inl active) same
    · intro other stopping
      rw [due] at stopping
      rw [starts, List.mem_append, List.mem_singleton]
      rintro (member | same)
      · exact agreeing.unstopped other stopping member
      · exact named (Or.inr (Or.inr (Or.inl stopping))) same
    · intro other yet held
      cases held
      exact fresh (Or.inr (Or.inr (Or.inr yet)))
    · intro other active _
      refine Or.inr fun held => ?_
      cases held
      exact fresh (Or.inl active)

omit agreeing in
theorem Stopped.before_event {next : TraySystem} {event : RecordUiEvent}
    {rest : List RecordUiEvent} {recordSessionId : Int} (yet : next.Stopped recordSessionId)
    (queue : tray.uiEvents = event :: rest) (events : next.uiEvents = rest)
    (replies : next.replies = tray.replies) : tray.Stopped recordSessionId := by
  unfold Stopped at yet
  rw [events, replies] at yet
  rcases yet with told | reply
  · refine Or.inl ?_
    rw [queue]
    exact List.mem_cons_of_mem _ told
  · exact Or.inr reply

/-- An event is handled that names no start and does not end the recording shown. -/
theorem Agreeing.pop {event : RecordUiEvent} {rest : List RecordUiEvent}
    (queue : tray.uiEvents = event :: rest) (noStart : event.startedId = none)
    (past : ∀ recordSessionId, tray.activeRecordSessionId = some recordSessionId →
      event ≠ .stopped recordSessionId ∧
        ∀ message, event ≠ .failed (some recordSessionId) message) :
    (tray.takeEvent rest).Agreeing := by
  apply agreeing.of_follows
  constructor
  · rfl
  · rfl
  · rfl
  · unfold starts takeEvent
    rw [queue, List.filterMap_cons_none noStart]
  · exact fun _ => Iff.rfl
  · exact fun _ yet => yet.before_event queue rfl rfl
  · rintro other active (reply | told | ⟨message, failed⟩)
    · exact Or.inl reply
    · rw [queue] at told
      rcases List.mem_cons.mp told with same | later
      · exact absurd same.symm (past other active).1
      · exact Or.inr (Or.inl later)
    · rw [queue] at failed
      rcases List.mem_cons.mp failed with same | later
      · exact absurd same.symm ((past other active).2 message)
      · exact Or.inr (Or.inr ⟨message, later⟩)

omit agreeing in
theorem recording_over_same_talk :
    SameTalk { tray with activeRecordSessionId := none, recordStopPendingSessionId := none }
      tray.recordingOver := by
  unfold recordingOver resumeBaselineCaptureAfterRecording stopRecordWorker
  split
  all_goals exact ⟨rfl, rfl, rfl, rfl, rfl, rfl, rfl, rfl⟩

/-- An event ends the recording shown, if any: the writer does not hold it, or a stop is due. -/
theorem Agreeing.end_recording {event : RecordUiEvent} {rest : List RecordUiEvent}
    (queue : tray.uiEvents = event :: rest) (noStart : event.startedId = none)
    (due : ∀ recordSessionId, tray.activeRecordSessionId = some recordSessionId →
      tray.writerRecordSessionId = some recordSessionId → tray.StopDue recordSessionId) :
    (tray.takeEvent rest).recordingOver.Agreeing := by
  have starts : (tray.takeEvent rest).starts = tray.starts := by
    unfold TraySystem.starts takeEvent
    rw [queue, List.filterMap_cons_none noStart]
  have ended : { tray.takeEvent rest with
      activeRecordSessionId := none
      recordStopPendingSessionId := none }.Agreeing := by
    constructor
    · intro other writer
      rcases agreeing.held other writer with shown | starting | stopping
      · exact Or.inr (Or.inr (due other shown writer))
      · exact Or.inr (Or.inl (starts.symm ▸ starting))
      · exact Or.inr (Or.inr stopping)
    · rintro other ⟨⟩
    · intro other last
      exact agreeing.newest other (starts ▸ last)
    · exact starts.symm ▸ agreeing.once
    · rintro other ⟨⟩
    · intro other stopping member
      exact agreeing.unstopped other stopping (starts ▸ member)
    · exact fun other yet => agreeing.stopped other (yet.before_event queue rfl rfl)
    · rintro other ⟨⟩
  exact ended.of_same recording_over_same_talk

theorem Agreeing.show_recording {recordSessionId : Int}
    {elevatedHelperRequested baselineCaptureSuspended : Bool} {rest : List RecordUiEvent}
    (queue : tray.uiEvents =
      .started recordSessionId elevatedHelperRequested baselineCaptureSuspended :: rest)
    (free : tray.activeRecordSessionId = none) :
    ((tray.takeEvent rest).showRecording recordSessionId baselineCaptureSuspended).Agreeing := by
  have starts : tray.starts = recordSessionId ::
      ((tray.takeEvent rest).showRecording recordSessionId baselineCaptureSuspended).starts := by
    unfold TraySystem.starts
    rw [queue]
    rfl
  have once := agreeing.once
  rw [starts, List.nodup_cons] at once
  constructor
  · intro other writer
    rcases agreeing.held other writer with shown | starting | stopping
    · rw [free] at shown
      cases shown
    · rw [starts, List.mem_cons] at starting
      rcases starting with rfl | later
      · exact Or.inl rfl
      · exact Or.inr (Or.inl later)
    · exact Or.inr (Or.inr stopping)
  · intro other shown
    cases shown
    cases later : ((tray.takeEvent rest).showRecording recordSessionId
        baselineCaptureSuspended).starts with
    | nil =>
        refine Or.inl (agreeing.newest recordSessionId ?_)
        rw [starts, later]
        exact rfl
    | cons first others => exact Or.inr (Or.inr (List.cons_ne_nil _ _))
  · intro other last
    apply agreeing.newest other
    rw [starts]
    exact List.mem_getLast?_cons last
  · exact once.2
  · intro other shown
    cases shown
    exact once.1
  · intro other stopping member
    apply agreeing.unstopped other stopping
    rw [starts]
    exact List.mem_cons_of_mem _ member
  · exact fun other yet => agreeing.stopped other (yet.before_event queue rfl rfl)
  · rintro other _ ⟨⟩

theorem Agreeing.handle_event {event : RecordUiEvent} {rest : List RecordUiEvent}
    (queue : tray.uiEvents = event :: rest)
    (orderly : event.unguarded = true → tray.activeRecordSessionId = none)
    (starts : WorkerStarts) :
    ((tray.takeEvent rest).handleRecordUiEvent starts event).Agreeing := by
  unfold handleRecordUiEvent
  cases event with
  | started recordSessionId elevatedHelperRequested baselineCaptureSuspended =>
      have shown := agreeing.show_recording queue (orderly rfl)
      dsimp only
      split
      · exact shown.stop_recording recordSessionId .panicHotkey
      · exact shown.start_worker recordSessionId elevatedHelperRequested starts
  | stopForSafetyCap recordSessionId =>
      have popped := agreeing.pop queue rfl fun _ _ => ⟨nofun, nofun⟩
      exact popped.stop_recording recordSessionId .safetyCapStop
  | stopped recordSessionId =>
      dsimp only
      split_ifs with other
      · apply agreeing.pop queue rfl
        intro shown active
        refine ⟨?_, nofun⟩
        rintro ⟨⟩
        exact other active
      · have active : tray.activeRecordSessionId = some recordSessionId := not_not.mp other
        apply agreeing.end_recording queue rfl
        intro shown also writer
        rw [active] at also
        cases also
        have told : tray.Stopped recordSessionId := by
          refine Or.inl ?_
          rw [queue]
          exact List.mem_cons_self
        exact absurd writer (agreeing.stopped recordSessionId told)
  | paused recordSessionId =>
      have popped := agreeing.pop queue rfl fun _ _ => ⟨nofun, nofun⟩
      dsimp only
      split
      · exact popped
      · exact popped.of_same ⟨rfl, rfl, rfl, rfl, rfl, rfl, rfl, rfl⟩
  | resumed recordSessionId =>
      have popped := agreeing.pop queue rfl fun _ _ => ⟨nofun, nofun⟩
      dsimp only
      split
      · exact popped
      · exact popped.of_same ⟨rfl, rfl, rfl, rfl, rfl, rfl, rfl, rfl⟩
  | failed failedSession message =>
      cases failedSession with
      | none =>
          apply agreeing.end_recording queue rfl
          intro shown active
          rw [orderly rfl] at active
          cases active
      | some recordSessionId =>
          dsimp only
          split_ifs with other pending
          · apply agreeing.pop queue rfl
            intro shown active
            refine ⟨nofun, ?_⟩
            rintro _ ⟨⟩
            exact other active
          · have active : tray.activeRecordSessionId = some recordSessionId := not_not.mp other
            have asked := agreeing.ask .error active
            apply asked.end_recording queue rfl
            intro shown also _
            rw [show tray.activeRecordSessionId = some shown from also] at active
            cases active
            exact asked_due recordSessionId .error
          · have active : tray.activeRecordSessionId = some recordSessionId := not_not.mp other
            apply agreeing.end_recording queue rfl
            intro shown also writer
            rw [active] at also
            cases also
            rcases agreeing.pending recordSessionId active (not_not.mp pending) with due | dropped
            · exact due
            · exact absurd writer dropped

omit agreeing in
theorem told_starts {elevatedHelperRequested baselineCaptureSuspended : Bool}
    {reply : RecordReply Int}
    (thread : tray.startThread =
      some (.replied elevatedHelperRequested baselineCaptureSuspended reply)) :
    (tray.send (startEvent elevatedHelperRequested baselineCaptureSuspended
      reply)).startThreadEnds.starts = tray.starts := by
  have same : (startEvent elevatedHelperRequested baselineCaptureSuspended reply).startedId =
      (StartThread.replied elevatedHelperRequested baselineCaptureSuspended reply).openedId := by
    unfold startEvent
    split
    all_goals rfl
  unfold starts send startThreadEnds
  rw [thread, Option.bind_some, ← same, List.filterMap_append]
  cases started : (startEvent elevatedHelperRequested baselineCaptureSuspended reply).startedId with
  | none =>
      rw [List.filterMap_cons_none started, List.filterMap_nil]
      exact List.append_nil _
  | some recordSessionId =>
      rw [List.filterMap_cons_some started]
      exact List.append_nil _

theorem Agreeing.start_replied {elevatedHelperRequested baselineCaptureSuspended : Bool}
    {reply : RecordReply Int}
    (thread : tray.startThread =
      some (.replied elevatedHelperRequested baselineCaptureSuspended reply)) :
    (tray.startReplied elevatedHelperRequested baselineCaptureSuspended reply).Agreeing := by
  have noStop (recordSessionId : Int) :
      startEvent elevatedHelperRequested baselineCaptureSuspended reply ≠
        .stopped recordSessionId := by
    unfold startEvent
    split
    all_goals exact nofun
  have ends : (tray.send (startEvent elevatedHelperRequested baselineCaptureSuspended
      reply)).startThreadEnds.Agreeing := by
    apply agreeing.of_follows
    constructor
    · rfl
    · rfl
    · rfl
    · exact told_starts thread
    · exact fun _ => Iff.rfl
    · exact fun recordSessionId yet => yet.untold rfl rfl (noStop recordSessionId)
    · exact fun recordSessionId _ closing => closing.told rfl rfl
  unfold startReplied
  dsimp only
  split
  · exact ends
  · exact ends.of_same ⟨rfl, rfl, rfl, rfl, rfl, rfl, rfl, rfl⟩

end Parts

section Steps

variable (tray : TraySystem)

theorem settle_same_talk (event : RecordUiEvent) : SameTalk tray (tray.settle event) := by
  obtain ⟨recordings, changed⟩ := settle_changes tray event
  rw [changed]
  exact ⟨rfl, rfl, rfl, rfl, rfl, rfl, rfl, rfl⟩

theorem resume_hears_same_talk (message : ResumeMessage) :
    SameTalk tray (tray.resumeHears message) := by
  obtain ⟨controls, paused, resume, changed⟩ := resume_hears_changes tray message
  rw [changed]
  exact ⟨rfl, rfl, rfl, rfl, rfl, rfl, rfl, rfl⟩

theorem finish_same_talk (keepSuspended : Bool) :
    SameTalk tray (tray.finishPrivacyAction keepSuspended) := by
  obtain ⟨controls, thread, kept, changed⟩ := finish_changes tray keepSuspended
  rw [changed]
  exact ⟨rfl, rfl, rfl, rfl, rfl, rfl, rfl, rfl⟩

theorem restore_hears_same_talk (message : ResumeMessage) :
    SameTalk tray (tray.restoreHears message) := by
  obtain ⟨controls, paused, thread, changed⟩ := restore_hears_changes tray message
  rw [changed]
  exact ⟨rfl, rfl, rfl, rfl, rfl, rfl, rfl, rfl⟩

variable {tray} (agreeing : tray.Agreeing)

include agreeing

theorem Agreeing.toggle : tray.toggleCapturePause.Agreeing := by
  unfold toggleCapturePause
  split
  · unfold resumeCapture
    split
    · exact agreeing.stop_recording _ _
    · split
      all_goals exact agreeing.of_same ⟨rfl, rfl, rfl, rfl, rfl, rfl, rfl, rfl⟩
  · have paused : ({ tray with capturePausedByUser := true }.setSuspended true).Agreeing :=
      agreeing.of_same ⟨rfl, rfl, rfl, rfl, rfl, rfl, rfl, rfl⟩
    unfold pauseCapture
    dsimp only
    split
    · exact paused.stop_recording _ _
    · exact paused

theorem Agreeing.thread_moves {before after : Option StartThread}
    (thread : tray.startThread = before) (shut : before.bind StartThread.openedId = none)
    (still : after.bind StartThread.openedId = none) :
    { tray with startThread := after }.Agreeing := by
  apply agreeing.of_follows
  refine ⟨rfl, rfl, rfl, ?_, fun _ => Iff.rfl, fun _ => id, fun _ _ => id⟩
  unfold starts
  rw [thread, shut, still]

theorem Agreeing.send_start :
    { tray with sent := tray.sent ++ [QueuedCommand.startRecording] }.Agreeing := by
  apply agreeing.of_follows
  refine ⟨rfl, rfl, rfl, rfl, ?_, fun _ => id, fun _ _ => id⟩
  intro other
  unfold StopDue
  simp

theorem Agreeing.confirm_start (elevatedHelperRequested : Bool) (sendError : Option String) :
    (tray.confirmStart elevatedHelperRequested sendError).Agreeing := by
  unfold confirmStart
  split
  · next thread =>
    have ends : { tray with startThread := none }.Agreeing :=
      agreeing.thread_moves thread rfl rfl
    unfold startConfirmed
    split
    · exact ends.of_same ⟨rfl, rfl, rfl, rfl, rfl, rfl, rfl, rfl⟩
    · cases sendError with
      | none =>
          have waits : { tray with
              startThread := some (.waiting elevatedHelperRequested
                (suspendBaselineCaptureForRecording tray.controls).2) }.Agreeing :=
            agreeing.thread_moves thread rfl rfl
          exact waits.send_start.of_same ⟨rfl, rfl, rfl, rfl, rfl, rfl, rfl, rfl⟩
      | some error =>
          have told : ({ tray with startThread := none }.send (.failed none
              (recordFailStartWriterUnavailable ++ ": " ++ error))).Agreeing :=
            ends.tell rfl nofun
          exact told.of_same ⟨rfl, rfl, rfl, rfl, rfl, rfl, rfl, rfl⟩
  · exact agreeing

theorem Agreeing.answer_cap_prompt (continues : Bool) (sendError : Option String) :
    (tray.answerCapPrompt continues sendError).Agreeing := by
  unfold answerCapPrompt
  split
  · exact agreeing
  · have ended : { tray with promptInFlight := false, capPrompt := none }.Agreeing :=
      agreeing.of_same ⟨rfl, rfl, rfl, rfl, rfl, rfl, rfl, rfl⟩
    dsimp only
    split
    · exact ended
    · exact ended.tell rfl nofun
    · exact ended.tell rfl nofun

theorem Agreeing.writer_takes (prompted : tray.Prompted) {outcome : WriterOutcome}
    {replyLost : Option String} (orderly : tray.Orderly (.writerTakes outcome replyLost)) :
    (tray.writerTakes outcome replyLost).Agreeing := by
  unfold writerTakes
  cases sent : tray.sent with
  | nil => exact agreeing
  | cons command rest =>
      cases command with
      | startRecording =>
          obtain ⟨stands, thread, waiting⟩ := prompted.waits_for_start sent
          cases stands with
          | confirming => cases waiting
          | replied elevatedHelperRequested baselineCaptureSuspended reply => cases waiting
          | waiting elevatedHelperRequested baselineCaptureSuspended =>
              unfold writerAnswers
              dsimp only
              rw [thread]
              apply agreeing.writer_starts sent thread rfl
              cases outcome with
              | refused error =>
                  refine Or.inl ⟨?_, rfl⟩
                  cases replyLost
                  all_goals rfl
              | done recordSessionId =>
                  obtain ⟨rfl, fresh⟩ := orderly rest sent
                  exact Or.inr ⟨recordSessionId, rfl, rfl, fresh⟩
      | record command =>
          unfold writerAnswers
          dsimp only
          apply agreeing.writer_answers sent
          · intro other held
            cases command with
            | stop recordSessionId stopReason =>
                cases outcome with
                | refused error => exact held
                | done _ =>
                    change (if _ then _ else _) = _ at held
                    split_ifs at held
                    exact held
            | pause recordSessionId => exact held
            | resume recordSessionId => exact held
          · intro other held
            cases command with
            | stop recordSessionId stopReason =>
                by_cases same : other = recordSessionId
                · exact Or.inr ⟨stopReason, by rw [same]⟩
                · refine Or.inl ?_
                  cases outcome with
                  | refused error => exact held
                  | done _ =>
                      have apart : tray.writerRecordSessionId ≠ some recordSessionId := by
                        rw [held]
                        exact fun found => same (Option.some.inj found)
                      exact (if_neg apart).trans held
            | pause recordSessionId => exact Or.inl held
            | resume recordSessionId => exact Or.inl held
          · rintro recordSessionId stopReason rfl
            cases outcome with
            | refused error => exact orderly recordSessionId stopReason rest sent
            | done _ =>
                change (if _ then _ else _) ≠ _
                split_ifs with held
                · exact nofun
                · exact held

theorem Agreeing.perform (prompted : tray.Prompted) {act : TrayAct} (orderly : tray.Orderly act)
    (free : act.isTrayThread = true → tray.captureResume = none) :
    (tray.perform act).Agreeing := by
  have still {next : TraySystem} (same : SameTalk tray next) : next.Agreeing :=
    agreeing.of_same same
  have edge {act : TrayAct} (isEdge : act.isPrivacyEdge = true) : (tray.perform act).Agreeing := by
    obtain ⟨_, _, _, changes⟩ := privacy_edge_changes tray isEdge
    rw [changes]
    exact still ⟨rfl, rfl, rfl, rfl, rfl, rfl, rfl, rfl⟩
  cases act with
  | toggleCapturePause => exact agreeing.toggle
  | resumeHears message => exact still (resume_hears_same_talk tray message)
  | spawnRecordRequestDialog =>
      change tray.spawnRecordRequestDialog.Agreeing
      unfold spawnRecordRequestDialog
      split
      · exact agreeing
      · next free =>
        rw [Bool.not_eq_true, Bool.or_eq_false_iff] at free
        have confirming : { tray with startThread := some .confirming }.Agreeing :=
          agreeing.thread_moves (prompted.idle free.2).1 rfl rfl
        exact confirming.of_same ⟨rfl, rfl, rfl, rfl, rfl, rfl, rfl, rfl⟩
  | declineStart =>
      change tray.declineStart.Agreeing
      unfold declineStart
      split
      · next thread =>
        have ends : { tray with startThread := none }.Agreeing :=
          agreeing.thread_moves thread rfl rfl
        exact ends.of_same ⟨rfl, rfl, rfl, rfl, rfl, rfl, rfl, rfl⟩
      · exact agreeing
  | confirmStart elevatedHelperRequested sendError =>
      exact agreeing.confirm_start elevatedHelperRequested sendError
  | receiveStartReply =>
      change tray.receiveStartReply.Agreeing
      unfold receiveStartReply
      split
      · next thread => exact agreeing.start_replied thread
      · exact agreeing
  | stopRecording =>
      change tray.stopRecording.Agreeing
      unfold stopRecording
      split
      · exact agreeing.stop_recording _ _
      · exact agreeing
  | recordWorkerDied stopReason =>
      change (tray.recordWorkerDied stopReason).Agreeing
      unfold recordWorkerDied
      split
      · exact agreeing.stop_recording _ _
      · exact agreeing
  | pauseRecording =>
      change tray.pauseRecording.Agreeing
      unfold pauseRecording
      split
      · exact agreeing
      · exact agreeing.simple_command nofun
  | resumeRecording =>
      change tray.resumeRecording.Agreeing
      unfold resumeRecording
      split
      · exact agreeing.simple_command nofun
      · exact agreeing
  | spawnCapPrompt recordSessionId =>
      change (tray.spawnCapPrompt recordSessionId).Agreeing
      unfold spawnCapPrompt
      split
      · exact still ⟨rfl, rfl, rfl, rfl, rfl, rfl, rfl, rfl⟩
      · exact agreeing
  | answerCapPrompt continues sendError => exact agreeing.answer_cap_prompt continues sendError
  | sendCommand index sendError =>
      change (tray.sendCommand index sendError).Agreeing
      unfold sendCommand
      split
      · exact agreeing
      · next command found =>
        cases sendError with
        | none => exact agreeing.send_command found
        | some error =>
            have dropped := agreeing.drop_command found fun recordSessionId stopReason same =>
              orderly recordSessionId stopReason (same ▸ found)
            have told : ({ tray with unsent := tray.unsent.eraseIdx index }.send
                (command.failure recordFailCommandWriterUnavailable error)).Agreeing :=
              dropped.tell rfl nofun
            exact told.of_same ⟨rfl, rfl, rfl, rfl, rfl, rfl, rfl, rfl⟩
  | writerTakes outcome replyLost => exact agreeing.writer_takes prompted orderly
  | receiveReply index =>
      change (tray.receiveReply index).Agreeing
      unfold receiveReply
      split
      · exact agreeing
      · next command reply found =>
        have told := agreeing.receive_reply found
        exact told.of_same ⟨rfl, rfl, rfl, rfl, rfl, rfl, rfl, rfl⟩
  | handleRecordUiEvent starts =>
      change (tray.handleNextUiEvent starts).Agreeing
      unfold handleNextUiEvent
      split
      · exact agreeing
      · next event rest queue =>
        have handled := agreeing.handle_event queue (orderly (free rfl) event rest queue) starts
        exact handled.of_same (settle_same_talk _ event)
  | requestPrivacyAction => exact edge rfl
  | declinePrivacyAction => exact edge rfl
  | endPrivacyAction => exact edge rfl
  | takeSuspension =>
      change tray.takeSuspension.Agreeing
      unfold takeSuspension
      split
      · exact still ⟨rfl, rfl, rfl, rfl, rfl, rfl, rfl, rfl⟩
      · exact agreeing
  | finishPrivacyAction keepSuspended => exact still (finish_same_talk tray keepSuspended)
  | restoreHears message => exact still (restore_hears_same_talk tray message)
  | beginSensitiveTransition => exact still ⟨rfl, rfl, rfl, rfl, rfl, rfl, rfl, rfl⟩
  | endSensitiveTransition => exact still ⟨rfl, rfl, rfl, rfl, rfl, rfl, rfl, rfl⟩

theorem agreeing_step (prompted : tray.Prompted) {act : TrayAct} (orderly : tray.Orderly act) :
    (tray.step act).Agreeing := by
  rcases step_cases tray act with waits | ⟨performed, free⟩
  · rw [waits]
    exact agreeing
  · rw [performed]
    exact agreeing.perform prompted orderly free

end Steps

theorem agreeing_new (streams : CaptureStream → Bool) (idleThresholdMs : UInt64) :
    (new streams idleThresholdMs).Agreeing where
  held _ held := nomatch held
  shown _ shown := nomatch shown
  newest _ last := nomatch last
  once := List.nodup_nil
  unshown _ shown := nomatch shown
  unstopped _ stopping := by rcases stopping with ⟨_, ⟨⟩⟩ | ⟨_, ⟨⟩⟩
  stopped _ yet := by rcases yet with ⟨⟨⟩⟩ | ⟨_, ⟨⟩⟩
  pending _ shown := nomatch shown

end TraySystem

end Gilbreth.App
