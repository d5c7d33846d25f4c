import Gilbreth.Store.Lifetime
import Gilbreth.Store.ResetFrame

/-!
# The life of a record request

A request waits, is confirmed and is started, or ends unanswered on the way. A
started request and its recording name each other. Every statement of the
writer, the dashboard and the open moves requests along these lines, whether or
not the statements around it succeed.
-/

set_option autoImplicit false

namespace Gilbreth.Store

open Gilbreth.Core

section Moves

inductive StatusMove : RecordRequestStatus → RecordRequestStatus → Prop where
  | confirmed : StatusMove .requested .confirmed
  | started : StatusMove .confirmed .started
  | cancelled {status} (pending : status = .requested ∨ status = .confirmed) :
      StatusMove status .cancelled
  | failed {status} (pending : status = .requested ∨ status = .confirmed) :
      StatusMove status .failed
  | expired {status} (pending : status = .requested ∨ status = .confirmed) :
      StatusMove status .expired

abbrev StatusPath : RecordRequestStatus → RecordRequestStatus → Prop :=
  Relation.ReflTransGen StatusMove

theorem StatusMove.pending {status later : RecordRequestStatus} (move : StatusMove status later) :
    status = .requested ∨ status = .confirmed := by
  cases move with
  | confirmed => exact Or.inl rfl
  | started => exact Or.inr rfl
  | cancelled pending => exact pending
  | failed pending => exact pending
  | expired pending => exact pending

theorem StatusPath.terminal {status later : RecordRequestStatus} (path : StatusPath status later)
    (answered : status ≠ .requested ∧ status ≠ .confirmed) : later = status := by
  cases path using Relation.ReflTransGen.head_induction_on with
  | refl => rfl
  | head move _ =>
      rcases move.pending with waiting | confirmed
      · exact absurd waiting answered.1
      · exact absurd confirmed answered.2

/-- What a request may become. -/
structure RequestChanged (row later : RecordRequestRow) : Prop where
  path : StatusPath row.status later.status
  fulfilled : ∀ recordSessionId, row.fulfilledRecordSessionId = some recordSessionId →
    later.fulfilledRecordSessionId = some recordSessionId

theorem RequestChanged.refl (row : RecordRequestRow) : RequestChanged row row :=
  ⟨.refl, fun _ same => same⟩

theorem RequestChanged.trans {first second third : RecordRequestRow}
    (left : RequestChanged first second) (right : RequestChanged second third) :
    RequestChanged first third :=
  ⟨left.path.trans right.path, fun recordSessionId same =>
    right.fulfilled recordSessionId (left.fulfilled recordSessionId same)⟩

def RequestBorn (row : RecordRequestRow) : Prop := StatusPath .requested row.status

/-- Every request of the first database is in the second, moved along its life,
and every other one began as a waiting one. -/
def RequestsMoved (before after : Database) : Prop :=
  Table.Evolved RequestChanged RequestBorn before.activity.recordRoutine.recordRequests
    after.activity.recordRoutine.recordRequests

theorem RequestsMoved.of_eq {before after : Database}
    (same : after.activity.recordRoutine.recordRequests =
      before.activity.recordRoutine.recordRequests) : RequestsMoved before after := by
  unfold RequestsMoved
  rw [same]
  exact .refl RequestChanged.refl _

theorem RequestsMoved.trans {first second third : Database} (left : RequestsMoved first second)
    (right : RequestsMoved second third) : RequestsMoved first third :=
  Table.Evolved.trans (fun before after => before.trans after)
    (fun born changed => born.trans changed.path) left right

end Moves

section Sound

/-- Each recording and the request it answers, if any. -/
def Database.links (db : Database) : List (Int × Option Int) :=
  db.activity.recordRoutine.recordSessions.rows.map fun recording =>
    (recording.recordSessionId, recording.requestId)

/-- A started request and its recording name each other. -/
structure RequestsSound (db : Database) : Prop where
  started_iff : ∀ row ∈ db.activity.recordRoutine.recordRequests.rows,
    (row.status = .started ↔ row.fulfilledRecordSessionId.isSome = true)
  recorded : ∀ recordSessionId requestId, (recordSessionId, some requestId) ∈ db.links →
    ∃ row ∈ db.activity.recordRoutine.recordRequests.rows, row.requestId = requestId ∧
      row.fulfilledRecordSessionId = some recordSessionId
  fulfilled : ∀ row ∈ db.activity.recordRoutine.recordRequests.rows,
    ∀ recordSessionId, row.fulfilledRecordSessionId = some recordSessionId →
      (recordSessionId, some row.requestId) ∈ db.links

theorem RequestsSound.once {db : Database} (sound : RequestsSound db)
    {left right : RecordSessionRow}
    (left_member : left ∈ db.activity.recordRoutine.recordSessions.rows)
    (right_member : right ∈ db.activity.recordRoutine.recordSessions.rows) {requestId : Int}
    (left_answers : left.requestId = some requestId)
    (right_answers : right.requestId = some requestId) : left = right := by
  have left_link : (left.recordSessionId, some requestId) ∈ db.links :=
    List.mem_map.mpr ⟨left, left_member, by rw [left_answers]⟩
  have right_link : (right.recordSessionId, some requestId) ∈ db.links :=
    List.mem_map.mpr ⟨right, right_member, by rw [right_answers]⟩
  obtain ⟨first, first_member, first_id, first_named⟩ := sound.recorded _ _ left_link
  obtain ⟨second, second_member, second_id, second_named⟩ := sound.recorded _ _ right_link
  obtain rfl := db.activity.recordRoutine.recordRequests.eq_of_key first_member second_member
    (first_id.trans second_id.symm)
  exact db.activity.recordRoutine.recordSessions.eq_of_key left_member right_member
    (Option.some.inj (first_named.symm.trans second_named))

theorem RequestsSound.empty {db : Database}
    (requests : db.activity.recordRoutine.recordRequests = .empty)
    (recordings : db.activity.recordRoutine.recordSessions = .empty) : RequestsSound db := by
  constructor
  · rw [requests]
    exact fun row member => absurd member List.not_mem_nil
  · unfold Database.links
    rw [recordings]
    exact fun _ _ member => absurd member List.not_mem_nil
  · rw [requests]
    exact fun row member => absurd member List.not_mem_nil

end Sound

section Steps

/-- What every statement does to requests and their recordings. -/
structure RequestStep (before after : Database) : Prop where
  moved : RequestsSound before → RequestsMoved before after
  sound : RequestsSound before → RequestsSound after

namespace RequestStep

theorem trans {first second third : Database} (left : RequestStep first second)
    (right : RequestStep second third) : RequestStep first third :=
  ⟨fun sound => (left.moved sound).trans (right.moved (left.sound sound)),
    fun sound => right.sound (left.sound sound)⟩

theorem of_same {before after : Database}
    (requests : after.activity.recordRoutine.recordRequests =
      before.activity.recordRoutine.recordRequests)
    (links : after.links = before.links) : RequestStep before after := by
  refine ⟨fun _ => .of_eq requests, fun sound => ⟨?_, ?_, ?_⟩⟩
  · rw [requests]
    exact sound.started_iff
  · rw [requests, links]
    exact sound.recorded
  · rw [requests, links]
    exact sound.fulfilled

theorem refl (db : Database) : RequestStep db db := of_same rfl rfl

theorem of_activity {before after : Database} (same : after.activity = before.activity) :
    RequestStep before after := by
  refine of_same (congrArg (fun activity => activity.recordRoutine.recordRequests) same) ?_
  unfold Database.links
  rw [same]

theorem of_books {before after : Database} (books : SameBooks before after) :
    RequestStep before after :=
  of_same books.recordRequests (books.recordSessions.map_eq _ fun _ _ => rfl)

theorem update_requests {db : Database} {matching : RecordRequestRow → Bool}
    {status : RecordRequestStatus} {updatedAt : I64} (unstarted : status ≠ .started)
    (moves : ∀ row, matching row = true → StatusMove row.status status) :
    RequestStep db (db.updateRequests matching status updatedAt) := by
  constructor
  · intro _
    refine .update_where RequestChanged.refl _ matching
      (fun row => { row with status := status, updatedAt := updatedAt }) (fun _ => rfl) ?_
    intro row _ matched
    exact ⟨.single (moves row matched), fun _ same => same⟩
  · intro sound
    have unmatched_of_fulfilled : ∀ row ∈ db.activity.recordRoutine.recordRequests.rows,
        row.fulfilledRecordSessionId.isSome = true → ¬matching row = true := by
      intro row member fulfilled matched
      have started := (sound.started_iff row member).mpr fulfilled
      rcases (moves row matched).pending with waiting | confirmed
      · cases started.symm.trans waiting
      · cases started.symm.trans confirmed
    constructor
    · intro later member
      obtain ⟨row, found, rfl⟩ := List.mem_map.mp member
      split_ifs with matched
      · have unfulfilled := mt (unmatched_of_fulfilled row found) (not_not.mpr matched)
        exact iff_of_false unstarted unfulfilled
      · exact sound.started_iff row found
    · intro recordSessionId requestId link
      obtain ⟨row, found, same, named⟩ := sound.recorded recordSessionId requestId link
      have unmatched := unmatched_of_fulfilled row found (by rw [named]; rfl)
      exact ⟨row, List.mem_map.mpr ⟨row, found, if_neg unmatched⟩, same, named⟩
    · intro later member recordSessionId named
      obtain ⟨row, found, rfl⟩ := List.mem_map.mp member
      split_ifs at named ⊢ with matched
      · exact sound.fulfilled row found recordSessionId named
      · exact sound.fulfilled row found recordSessionId named

theorem update_record_sessions {db : Database} {matching : RecordSessionRow → Bool}
    {change : RecordSessionRow → RecordSessionRow}
    {keeps : ∀ row, (change row).recordSessionId = row.recordSessionId}
    (answers : ∀ row, (change row).requestId = row.requestId) :
    RequestStep db (db.updateRecordSessions matching change keeps) := by
  refine of_same rfl ?_
  change List.map _ (List.map _ _) = _
  rw [List.map_map]
  apply List.map_congr_left
  intro row _
  change (fun recording : RecordSessionRow => (recording.recordSessionId, recording.requestId))
    (if matching row = true then change row else row) = _
  split_ifs
  · exact Prod.ext (keeps row) (answers row)
  · rfl

variable {fault : Option StoreError} {db after : Database}

theorem of_logged {statement : Except StoreError Database} (outcome : Logged statement db after)
    (done : statement = .ok after → RequestStep db after) : RequestStep db after := by
  cases outcome with
  | failed => exact refl db
  | done succeeded => exact done succeeded

theorem confirm {requestId : Int} {updatedAt : I64}
    (confirmed : db.confirmRecordRequest fault requestId updatedAt = .ok after) :
    RequestStep db after := by
  rw [(confirm_record_request_ok confirmed).2]
  refine update_requests (by decide) fun row matched => ?_
  unfold requestable at matched
  rw [Bool.and_eq_true, beq_iff_eq, beq_iff_eq] at matched
  rw [matched.2]
  exact .confirmed

theorem pending_of_matched {requestId : Int} {row : RecordRequestRow}
    (matched : Database.pendingRequest requestId row = true) :
    row.status = .requested ∨ row.status = .confirmed := by
  unfold Database.pendingRequest at matched
  rw [Bool.and_eq_true, Bool.or_eq_true, beq_iff_eq, beq_iff_eq, beq_iff_eq] at matched
  exact matched.2

theorem cancel {requestId : Int} {updatedAt : I64}
    (cancelled : db.cancelRecordRequest fault requestId updatedAt = .ok after) :
    RequestStep db after := by
  obtain ⟨_, rfl⟩ := statement_ok cancelled
  exact update_requests (by decide) fun row matched => .cancelled (pending_of_matched matched)

theorem fail {requestId : Int} {updatedAt : I64}
    (failed : db.failRecordRequest fault requestId updatedAt = .ok after) :
    RequestStep db after := by
  obtain ⟨_, rfl⟩ := statement_ok failed
  exact update_requests (by decide) fun row matched => .failed (pending_of_matched matched)

theorem expire {nowMs : I64} (expired : db.expireRecordRequests fault nowMs = .ok after) :
    RequestStep db after := by
  obtain ⟨_, rfl⟩ := statement_ok expired
  refine update_requests (by decide) fun row matched => .expired (Or.inl ?_)
  rw [Bool.and_eq_true, beq_iff_eq] at matched
  exact matched.1

theorem reconcile {updatedAt : I64}
    (reconciled : db.reconcileConfirmedRecordRequests fault updatedAt = .ok after) :
    RequestStep db after := by
  obtain ⟨_, rfl⟩ := statement_ok reconciled
  refine update_requests (by decide) fun row matched => .expired (Or.inr ?_)
  rw [Bool.and_eq_true, beq_iff_eq] at matched
  exact matched.1

theorem created {row : RecordRequestRow} (created : RequestCreated db after row) :
    RequestStep db after := by
  have rows : after.activity.recordRoutine.recordRequests =
      db.activity.recordRoutine.recordRequests.append row
        (created.fresh ▸ Table.next_id_fresh _ _) := Table.ext created.inserted
  have links : after.links = db.links := by
    unfold Database.links
    rw [created.recordSessions]
  obtain ⟨waiting, unfulfilled⟩ := created.waiting
  constructor
  · intro _
    unfold RequestsMoved
    rw [rows]
    refine .append RequestChanged.refl _ row _ ?_
    unfold RequestBorn
    rw [waiting]
  · intro sound
    refine ⟨?_, ?_, ?_⟩
    · intro later member
      rw [created.inserted] at member
      rcases List.mem_append.mp member with old | new
      · exact sound.started_iff later old
      · rw [List.mem_singleton.mp new, waiting, unfulfilled]
        exact iff_of_false (by decide) (by decide)
    · intro recordSessionId requestId link
      rw [links] at link
      obtain ⟨row, found, same, named⟩ := sound.recorded recordSessionId requestId link
      rw [created.inserted]
      exact ⟨row, List.mem_append_left _ found, same, named⟩
    · intro later member recordSessionId named
      rw [created.inserted] at member
      rw [links]
      rcases List.mem_append.mp member with old | new
      · exact sound.fulfilled later old recordSessionId named
      · rw [List.mem_singleton.mp new, unfulfilled] at named
        cases named

theorem opened {params : OpenRecordSessionParams} {recordSessionId : Int}
    (opened : RecordingOpened params db after recordSessionId) : RequestStep db after := by
  have links : after.links = db.links ++ [(recordSessionId, params.requestId)] := by
    unfold Database.links
    rw [opened.inserted, List.map_append]
    rfl
  cases named : params.requestId with
  | none =>
      have requests := opened.unrequested named
      rw [named] at links
      refine ⟨fun _ => .of_eq requests, fun sound => ⟨?_, ?_, ?_⟩⟩
      · rw [requests]
        exact sound.started_iff
      · intro answering requestId link
        rw [requests]
        rw [links] at link
        rcases List.mem_append.mp link with old | new
        · exact sound.recorded answering requestId old
        · cases List.mem_singleton.mp new
      · intro row member answering fulfilled
        rw [requests] at member
        rw [links]
        exact List.mem_append_left _ (sound.fulfilled row member answering fulfilled)
  | some requestId =>
      obtain ⟨waiting, rows⟩ := opened.requested requestId named
      rw [named] at links
      have confirmed_of_matched : ∀ {row}, confirmedRequest requestId row = true →
          row.requestId = requestId ∧ row.status = .confirmed := by
        intro row matched
        unfold confirmedRequest at matched
        rw [Bool.and_eq_true, beq_iff_eq, beq_iff_eq] at matched
        exact matched
      -- A confirmed request is not started, so nothing answers it yet.
      have unfulfilled : RequestsSound db → ∀ row ∈ db.activity.recordRoutine.recordRequests.rows,
          row.fulfilledRecordSessionId.isSome = true →
            ¬confirmedRequest requestId row = true := by
        intro sound row member fulfilled matched
        have started := (sound.started_iff row member).mpr fulfilled
        cases started.symm.trans (confirmed_of_matched matched).2
      constructor
      · intro sound
        have updated : after.activity.recordRoutine.recordRequests =
            db.activity.recordRoutine.recordRequests.updateWhere (confirmedRequest requestId)
              (fun row => row.startedAs recordSessionId params.startedTs) fun _ => rfl :=
          Table.ext rows
        unfold RequestsMoved
        rw [updated]
        refine .update_where RequestChanged.refl _ (confirmedRequest requestId)
          (fun row => row.startedAs recordSessionId params.startedTs) (fun _ => rfl) ?_
        intro row member matched
        refine ⟨.single ?_, fun answering fulfilled => ?_⟩
        · rw [(confirmed_of_matched matched).2]
          exact .started
        · exact absurd matched (unfulfilled sound row member (by rw [fulfilled]; rfl))
      · intro sound
        refine ⟨?_, ?_, ?_⟩
        · intro later member
          rw [rows] at member
          obtain ⟨row, found, rfl⟩ := List.mem_map.mp member
          split_ifs
          · exact iff_of_true rfl rfl
          · exact sound.started_iff row found
        · intro answering requested link
          rw [links] at link
          rw [rows]
          rcases List.mem_append.mp link with old | new
          · obtain ⟨row, found, same, fulfilled⟩ := sound.recorded answering requested old
            have unmatched := unfulfilled sound row found (by rw [fulfilled]; rfl)
            exact ⟨row, List.mem_map.mpr ⟨row, found, if_neg unmatched⟩, same, fulfilled⟩
          · obtain ⟨rfl, same⟩ := Prod.mk.inj (List.mem_singleton.mp new)
            obtain rfl := Option.some.inj same
            obtain ⟨row, found, matched⟩ := List.countP_pos_iff.mp (Nat.pos_of_ne_zero waiting)
            refine ⟨_, List.mem_map.mpr ⟨row, found, if_pos matched⟩, ?_, rfl⟩
            exact (confirmed_of_matched matched).1
        · intro later member answering fulfilled
          rw [rows] at member
          rw [links]
          obtain ⟨row, found, rfl⟩ := List.mem_map.mp member
          split_ifs at fulfilled ⊢ with matched
          · obtain rfl := Option.some.inj fulfilled
            apply List.mem_append_right
            apply List.mem_singleton.mpr
            exact congrArg (fun requested => (recordSessionId, some requested))
              (confirmed_of_matched matched).1
          · exact List.mem_append_left _ (sound.fulfilled row found answering fulfilled)

theorem close {recordSessionId : Int} {endedTs : I64} {stopReason : RecordStopReason}
    (closed : db.closeRecordSession fault recordSessionId endedTs stopReason = .ok after) :
    RequestStep db after := by
  obtain ⟨_, rfl⟩ := statement_ok closed
  exact update_record_sessions fun _ => rfl

theorem finalize {endedTs : I64} {stopReason : RecordStopReason}
    (finalized : db.finalizeOpenRecordSessions fault stopReason endedTs = .ok after) :
    RequestStep db after := by
  obtain ⟨_, rfl⟩ := statement_ok finalized
  exact update_record_sessions fun _ => rfl

theorem write_pause_intervals {recordSessionId : Int} {intervals : List (I64 × Option I64)}
    (written : db.writePauseIntervals fault recordSessionId intervals = .ok after) :
    RequestStep db after := by
  obtain ⟨_, rfl⟩ := statement_ok written
  exact update_record_sessions fun _ => rfl

theorem pause {recordSessionId : Int} {pausedTs : I64}
    (paused : db.pauseRecordSession fault recordSessionId pausedTs = .ok after) :
    RequestStep db after := by
  rcases pause_record_session_ok paused with rfl | ⟨intervals, written⟩
  · exact refl _
  · exact write_pause_intervals written

theorem resume {recordSessionId : Int} {resumedTs : I64}
    (resumed : db.resumeRecordSession fault recordSessionId resumedTs = .ok after) :
    RequestStep db after := by
  obtain ⟨intervals, written⟩ := resume_record_session_ok resumed
  exact write_pause_intervals written

theorem open_store (store : Database) (readings : OpenReadings) :
    RequestStep store (store.openStore readings).1 := by
  have identified : ∀ second, RequestStep store
      (store.ensureMetaIdentity readings.uuidFault second readings.createdAt
        readings.dbUuid).1 := by
    intro second
    unfold Database.ensureMetaIdentity
    split
    · exact refl _
    · rename_i named inserted
      obtain ⟨_, rfl⟩ := statement_ok inserted
      split
      · exact of_same rfl rfl
      · rename_i dated stamped
        obtain ⟨_, rfl⟩ := statement_ok stamped
        exact of_same rfl rfl
  have identified := identified readings.createdFault
  unfold Database.openStore
  split
  · rename_i db error failed
    rw [failed] at identified
    exact identified
  · rename_i db succeeded
    rw [succeeded] at identified
    have repaired := identified.trans
      (of_books (.repair_or_discard db readings.repairFault readings.discardFault))
    dsimp only
    split
    · exact repaired
    · rename_i ended sessions
      have sessions_ended : RequestStep store ended := by
        obtain ⟨_, rfl⟩ := statement_ok sessions
        exact repaired.trans (of_same rfl rfl)
      split
      · exact sessions_ended
      · rename_i closed recordings
        have recordings_ended : RequestStep store closed := by
          obtain ⟨_, rfl⟩ := statement_ok recordings
          exact sessions_ended.trans (update_record_sessions fun _ => rfl)
        split
        · exact recordings_ended
        · rename_i reconciled expired
          exact recordings_ended.trans (reconcile expired)

end RequestStep

end Steps

section Turns

variable [Externals]

theorem StartOutcome.request_step {faults : StartFaults} {startedTs : I64}
    {command : StartRecording} {state : WriterState}
    {result : WriterState × Except StoreError Int}
    (outcome : StartOutcome faults startedTs command state result) :
    RequestStep state.store result.1.store := by
  have confirming : ∀ {confirmed}, ConfirmedFor faults startedTs command state.store confirmed →
      RequestStep state.store confirmed := by
    intro confirmed confirmed_for
    unfold ConfirmedFor at confirmed_for
    split at confirmed_for
    · exact confirmed_for ▸ .refl _
    · exact .confirm confirmed_for
  cases outcome with
  | refused error => exact .refl _
  | failed error confirmed_for marked =>
      refine (confirming confirmed_for).trans ?_
      unfold MarkedFailed at marked
      split at marked
      · exact marked ▸ .refl _
      · exact .of_logged marked .fail
  | started recordSessionId confirmed_for opened =>
      exact (confirming confirmed_for).trans (.opened opened)

theorem Polled.request_step {readings : PollReadings} {before after : WriterState}
    (polled : Polled readings before after) : RequestStep before.store after.store := by
  obtain ⟨expired, expiry, failure⟩ := polled.requests
  have first := RequestStep.of_logged expiry .expire
  rcases failure with same | ⟨requestId, marked⟩
  · rw [same]
    exact first
  · exact first.trans (.of_logged marked .fail)

theorem InputFrame.request_step {before after : WriterState} (frame : InputFrame before after) :
    RequestStep before.store after.store := .of_books frame.books

theorem ResetOutcome.request_step {state after : WriterState}
    (outcome : ResetOutcome state after) : RequestStep state.store after.store ∨ Wiped after := by
  cases outcome with
  | refused => exact Or.inl (.refl _)
  | unsettled drained => exact Or.inl drained.request_step
  | settled frame finalized => exact Or.inl (frame.request_step.trans (.finalize finalized))
  | wiped wiped => exact Or.inr wiped

variable [StoreExternals] (config : WriterConfig)

theorem request_turn (state : WriterState) (turn : WriterTurn) :
    RequestStep state.store (state.turn config turn).1.store ∨
      turn.isReset = true ∧ Wiped (state.turn config turn).1 := by
  cases turn with
  | input input readings =>
      exact Or.inl (InputFrame.queue_writer_input config state readings input).request_step
  | flushTick flush actionFlush =>
      exact Or.inl (InputFrame.flush_all_batches state flush actionFlush).request_step
  | heartbeatTick clock faults =>
      exact Or.inl (.of_activity (state.heartbeat_keeps config clock faults).2)
  | openFocusTick now fault => exact Or.inl (InputFrame.beat state now fault).request_step
  | pollTick readings => exact Or.inl (polled state readings).request_step
  | forgetFocusAttribution fault =>
      exact Or.inl (InputFrame.clear_focus
        { state with policy := state.policy.forgetFocusAttribution } fault).request_step
  | startRecording now faults command =>
      exact Or.inl (start_recording_cases state now faults command).request_step
  | stopRecording now flush actionFlush fault recordSessionId stopReason =>
      have drained :=
        (InputFrame.drain_and_flush config state ⟨[], flush, actionFlush⟩).request_step
      left
      change RequestStep state.store (state.stopRecording config now ⟨[], flush, actionFlush⟩
        fault recordSessionId stopReason).1.store
      unfold WriterState.stopRecording
      dsimp only
      split
      · exact drained
      · rename_i db closed
        exact drained.trans (.close closed)
  | pauseRecording now fault recordSessionId =>
      left
      change RequestStep state.store (state.pauseRecording now fault recordSessionId).1.store
      unfold WriterState.pauseRecording
      split
      · exact .refl _
      · rename_i db paused
        exact .pause paused
  | resumeRecording now fault recordSessionId =>
      left
      change RequestStep state.store (state.resumeRecording now fault recordSessionId).1.store
      unfold WriterState.resumeRecording
      split
      · exact .refl _
      · rename_i db resumed
        exact .resume resumed
  | extendCap recordSessionId => exact Or.inl (.refl _)
  | declineRecordRequest now fault requestId =>
      exact Or.inl (.of_logged (logged _ _) .cancel)
  | secureErase settle readings identity =>
      exact (secure_erase_outcome config state settle readings identity).request_step.imp_right
        fun wiped => ⟨rfl, wiped⟩
  | archiveAndReset settle archiving readings archivePath archive identity =>
      exact (archive_and_reset_outcome config state settle readings identity archiving archivePath
        archive).request_step.imp_right fun wiped => ⟨rfl, wiped⟩
  | panicCutoff cutoff => exact Or.inl (.refl _)
  | captureDropped => exact Or.inl (.refl _)

omit [StoreExternals] in
theorem RequestStep.launch (readings : LaunchReadings) (policy : Policy) (store : Database) :
    RequestStep store (launch readings policy store).store := by
  have opened := RequestStep.open_store store readings.opening
  unfold Gilbreth.Store.launch
  split
  · rename_i db error failed
    rw [failed] at opened
    exact opened
  · rename_i db succeeded
    rw [succeeded] at opened
    split
    · exact opened
    · rename_i created sessionId inserted
      obtain ⟨rfl, _⟩ := Prod.mk.inj (statement_ok inserted).2
      exact opened.trans (.of_same rfl rfl)

theorem RequestStep.shut_down (state : WriterState) (readings : ShutdownReadings) :
    RequestStep state.store (state.shutDown config readings).1.store := by
  have ended : RequestStep state.store (state.endRun config readings).1.store := by
    have drained := (InputFrame.drain_and_flush config state readings.drain).request_step.trans
      (InputFrame.clear_focus _ readings.clearFault).request_step
    unfold WriterState.endRun
    dsimp only
    split
    · exact drained
    · rename_i db finalized
      have finalized := drained.trans (.finalize finalized)
      split
      · exact finalized
      · rename_i after sessions
        obtain ⟨_, rfl⟩ := statement_ok sessions
        exact finalized.trans (.of_same rfl rfl)
  unfold WriterState.shutDown
  split
  · rename_i after error failed
    rw [failed] at ended
    exact ended
  · rename_i after succeeded
    rw [succeeded] at ended
    have same := (after.persist_diagnostics_keeps readings.persist).2
    exact ended.trans (.of_activity same)

end Turns

section Lives

variable [Externals]

def LifetimeTurn.isReset : LifetimeTurn → Bool
  | writer turn => turn.isReset
  | _ => false

variable [StoreExternals] (config : WriterConfig)

theorem request_lifetime_turn (life : Lifetime) (turn : LifetimeTurn) :
    let after := ((lifetimeMachine config).step life turn).1
    RequestStep life.store after.store ∨
      turn.isReset = true ∧ after.store.activity.recordRoutine.recordRequests = .empty ∧
        after.store.activity.recordRoutine.recordSessions = .empty := by
  have requested : ∀ (db : Database) fault nowMs candidateKind candidateJson,
      RequestStep db (db.requested fault nowMs candidateKind candidateJson) := by
    intro db fault nowMs candidateKind candidateJson
    rcases requested_cases fault nowMs candidateKind candidateJson db with same | ⟨row, created⟩
    · rw [same]
      exact .refl db
    · exact .created created
  cases life with
  | closed store =>
      cases turn with
      | launch readings policy => exact Or.inl (.launch readings policy store)
      | requestRecording fault nowMs candidateKind candidateJson =>
          exact Or.inl (requested store fault nowMs candidateKind candidateJson)
      | _ => exact Or.inl (.refl store)
  | running state =>
      cases turn with
      | writer turn =>
          exact (request_turn config state turn).imp_right fun ⟨reset, wiped⟩ =>
            ⟨reset, wiped.requests, wiped.recordings⟩
      | stop readings => exact Or.inl (.shut_down config state readings)
      | crash => exact Or.inl (.refl state.store)
      | launch readings policy => exact Or.inl (.refl state.store)
      | requestRecording fault nowMs candidateKind candidateJson =>
          exact Or.inl (requested state.store fault nowMs candidateKind candidateJson)

/-- Whatever happens, also across crashes and resets, a started request and its
recording name each other. -/
theorem requests_sound_run (turns : List LifetimeTurn) :
    RequestsSound ((lifetimeMachine config).run (.closed .empty) turns).store := by
  refine (lifetimeMachine config).run_invariant (fun life => RequestsSound life.store) ?_ _ turns
    (.empty rfl rfl)
  intro life turn sound
  rcases request_lifetime_turn config life turn with step | ⟨_, requests, recordings⟩
  · exact step.sound sound
  · exact .empty requests recordings

theorem requests_moved_run (life : Lifetime) (sound : RequestsSound life.store)
    (turns : List LifetimeTurn) (kept : ∀ turn ∈ turns, turn.isReset = false) :
    RequestsMoved life.store ((lifetimeMachine config).run life turns).store := by
  induction turns generalizing life with
  | nil => exact .of_eq rfl
  | cons turn rest induction =>
      have unreset := kept turn List.mem_cons_self
      rcases request_lifetime_turn config life turn with step | ⟨reset, _⟩
      · exact (step.moved sound).trans (induction _ (step.sound sound)
          fun later member => kept later (List.mem_cons_of_mem _ member))
      · cases unreset.symm.trans reset

/-- In every run requests move along their life and stay where they are answered,
a request is started exactly when a recording answers it, at most one recording
answers a request, and a start that fails leaves the recordings as they were. -/
theorem record_requests_answered_once (before later : List LifetimeTurn)
    (kept : ∀ turn ∈ later, turn.isReset = false) :
    let life := (lifetimeMachine config).run (.closed .empty) before
    let after := (lifetimeMachine config).run life later
    RequestsMoved life.store after.store ∧
    (∀ row ∈ life.store.activity.recordRoutine.recordRequests.rows,
      row.status ≠ .requested ∧ row.status ≠ .confirmed →
        ∃ answered ∈ after.store.activity.recordRoutine.recordRequests.rows,
          answered.requestId = row.requestId ∧ answered.status = row.status) ∧
    (∀ row ∈ life.store.activity.recordRoutine.recordRequests.rows,
      (row.status = .started ↔ row.fulfilledRecordSessionId.isSome = true)) ∧
    (∀ left ∈ life.store.activity.recordRoutine.recordSessions.rows,
      ∀ right ∈ life.store.activity.recordRoutine.recordSessions.rows, ∀ requestId,
        left.requestId = some requestId → right.requestId = some requestId → left = right) ∧
    ∀ state, life = .running state → ∀ now faults command error,
      (state.startRecording now faults command).2 = .error error →
        (state.startRecording now faults command).1.store.activity.recordRoutine.recordSessions =
          state.store.activity.recordRoutine.recordSessions := by
  intro life after
  have sound := requests_sound_run config before
  have moved := requests_moved_run config life sound later kept
  refine ⟨moved, ?_, sound.started_iff, ?_, ?_⟩
  · intro row member answered
    obtain ⟨last, found, same, changed⟩ := moved.kept row member
    exact ⟨last, found, same, changed.path.terminal answered⟩
  · intro left left_member right right_member requestId left_answers right_answers
    exact sound.once left_member right_member left_answers right_answers
  · intro state _ now faults command error failed
    have outcome := start_recording_cases state now faults command
    generalize state.startRecording now faults command = result at outcome failed
    obtain ⟨final, reply⟩ := result
    obtain rfl : reply = .error error := failed
    exact outcome.record_sessions

end Lives

section

attribute [local instance] asciiExternals bareExternals

private def mailbox (count : Nat) : Clock := ⟨⟨count * 1000000000⟩, some (count * 1000000000)⟩

private def mailboxLaunch (count : Nat) : LifetimeTurn :=
  .launch ⟨.clear (mailbox count).utcMs (mailbox count).utcMs "6d1f",
    ⟨(mailbox count).now, (mailbox count).utcMs⟩, ⟨"1.0.0", none, none, none⟩, none⟩ .identity

private def mailboxRequest (count : Nat) : LifetimeTurn :=
  .requestRecording none (mailbox count).utcMs (some "app") "\x7b\x7d"

private def mailboxStart (count : Nat) (requestId : Int) : LifetimeTurn :=
  .writer (.startRecording (mailbox count).now ⟨none, none, none⟩
    ⟨some requestId, none, "\x7b\x7d", .ofInt 1800000, true⟩)

private def startedMailbox : Lifetime :=
  (lifetimeMachine ⟨200, .ofInt 5000⟩).run (.closed .empty)
    [mailboxLaunch 1, mailboxRequest 2, mailboxRequest 3, mailboxStart 4 1]

/-- Of two requests the first is started. After a crash and a launch it still is,
the other one still waits, and nothing else is there. -/
theorem record_requests_answered_once_mailbox :
    let after := (lifetimeMachine ⟨200, .ofInt 5000⟩).run startedMailbox [.crash, mailboxLaunch 5]
    RequestsMoved startedMailbox.store after.store ∧
      after.store.activity.recordRoutine.recordRequests.rows.map
        (fun row => (row.requestId, row.status, row.fulfilledRecordSessionId)) =
          [(1, .started, some 1), (2, .requested, none)] := by
  refine ⟨?_, by decide +kernel⟩
  exact (record_requests_answered_once ⟨200, .ofInt 5000⟩
    [mailboxLaunch 1, mailboxRequest 2, mailboxRequest 3, mailboxStart 4 1]
    [.crash, mailboxLaunch 5] (by decide)).1

end

end Gilbreth.Store
