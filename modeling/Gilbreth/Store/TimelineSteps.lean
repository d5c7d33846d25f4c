import Gilbreth.Core.Stream
import Gilbreth.Store.Lifetime
import Gilbreth.Store.ResetFrame
import Gilbreth.Store.Timeline

/-!
# The writer on its timeline

Every statement is a rule of the timeline: an inserted row is a mark of the live
session, the record routine opens and ends recordings of it, and everything else
leaves the timeline alone.
-/

set_option autoImplicit false

namespace Gilbreth.Store

open Gilbreth.Core

section View

def SessionRow.span (row : SessionRow) : SessionSpan := ⟨row.sessionId, row.startedAt, row.endedAt⟩

def RecordSessionRow.span (row : RecordSessionRow) : RecordingSpan :=
  ⟨row.recordSessionId, row.sessionId, row.startedTs, row.endedTs⟩

def EventRow.mark (row : EventRow) : Mark := ⟨row.sessionId, none, row.ts⟩

def ActionEventRow.mark (row : ActionEventRow) : Mark :=
  ⟨row.sessionId, some row.recordSessionId, row.ts⟩

def Activity.timeline (activity : Activity) : Timeline where
  sessions := activity.sessions.rows.map SessionRow.span
  recordings := activity.recordRoutine.recordSessions.rows.map RecordSessionRow.span
  marks := activity.events.rows.map EventRow.mark ++
    activity.recordRoutine.actionEvents.rows.map ActionEventRow.mark

def Database.timeline (db : Database) : Timeline := db.activity.timeline

variable {db after : Database}

theorem session_ids_timeline (db : Database) : db.timeline.sessionIds = db.sessionIds := by
  unfold Timeline.sessionIds Database.timeline Activity.timeline
  rw [List.map_map]
  rfl

theorem timeline_of_activity (same : after.activity = db.activity) :
    after.timeline = db.timeline := by
  unfold Database.timeline
  rw [same]

theorem SameBooks.timeline (books : SameBooks db after) :
    after.timeline.sessions = db.timeline.sessions ∧
      after.timeline.recordings = db.timeline.recordings := by
  constructor
  · change after.activity.sessions.rows.map _ = db.activity.sessions.rows.map _
    rw [books.sessions]
  · exact books.recordSessions.map_eq RecordSessionRow.span fun _ _ => rfl

theorem RoutineFrame.timeline (frame : RoutineFrame db after) :
    after.timeline.sessions = db.timeline.sessions ∧ after.timeline.marks = db.timeline.marks := by
  constructor
  · change after.activity.sessions.rows.map _ = db.activity.sessions.rows.map _
    rw [frame.sessions]
  · change after.activity.events.rows.map _ ++ _ = db.activity.events.rows.map _ ++ _
    rw [frame.events, frame.actionEvents]

end View

section Rows

variable {sessionId : Int} {newest : Option I64} {db after : Database}

theorem insert_event_timeline (live : db.timeline.Live sessionId newest) {row : EventRow}
    (inserted : db.insertEvent row = some after) (own : row.sessionId = sessionId)
    (reached : Reached newest row.ts) :
    after.timeline.Live sessionId newest ∧ (db.timeline.Covered → after.timeline.Covered) := by
  obtain ⟨sessions, recordings⟩ := (SameBooks.insert_event inserted).timeline
  unfold Database.insertEvent at inserted
  split_ifs at inserted with known
  obtain ⟨events, fits, rfl⟩ := Option.map_eq_some_iff.mp inserted
  refine live.add_mark row.mark sessions recordings ?_ own ?_ reached
    fun _ acts => by cases acts
  · intro mark member
    change mark ∈ events.rows.map EventRow.mark ++ _ at member
    rw [Table.insert_some_rows fits, List.map_append, List.append_assoc] at member
    rcases List.mem_append.mp member with old | rest
    · exact Or.inl (List.mem_append_left _ old)
    · rcases List.mem_append.mp rest with new | old
      · exact Or.inr (List.mem_singleton.mp new)
      · exact Or.inl (List.mem_append_right _ old)
  · rw [session_ids_timeline, ← own]
    exact known

variable [Externals] [StoreExternals]

omit [Externals] [StoreExternals] in
theorem recording_is_open_spec {recordSessionId : Int}
    (opened : db.recordingIsOpen recordSessionId = true) :
    (∃ recording ∈ db.timeline.recordings, recording.recordSessionId = recordSessionId) ∧
      ∀ recording ∈ db.timeline.recordings, recording.recordSessionId = recordSessionId →
        recording.endedTs = none := by
  unfold Database.recordingIsOpen at opened
  obtain ⟨row, found, unended⟩ := (Option.any_eq_true _ _).mp opened
  have stored := List.mem_of_find?_eq_some found
  have named : row.recordSessionId = recordSessionId := by
    have matched := List.find?_some found
    rw [beq_iff_eq] at matched
    exact matched
  refine ⟨⟨row.span, List.mem_map_of_mem stored, named⟩, ?_⟩
  intro recording member same
  obtain ⟨other, other_stored, rfl⟩ := List.mem_map.mp member
  obtain rfl := db.activity.recordRoutine.recordSessions.eq_of_key other_stored stored
    (same.trans named.symm)
  exact Option.isNone_iff_eq_none.mp unended

theorem intern_selector_timeline (db : Database) (action : StampedAction) :
    (db.internSelector action).2.timeline = db.timeline := by
  unfold Database.internSelector
  dsimp only
  split
  · split_ifs <;> rfl
  · rfl

omit [Externals] [StoreExternals] in
theorem insert_action_timeline (live : db.timeline.Live sessionId newest) {row : ActionEventRow}
    (inserted : db.insertAction row = some after) (own : row.sessionId = sessionId)
    (reached : Reached newest row.ts)
    (opened : (∃ recording ∈ db.timeline.recordings,
        recording.recordSessionId = row.recordSessionId) ∧
      ∀ recording ∈ db.timeline.recordings, recording.recordSessionId = row.recordSessionId →
        recording.endedTs = none) :
    after.timeline.Live sessionId newest ∧ (db.timeline.Covered → after.timeline.Covered) := by
  obtain ⟨sessions, recordings⟩ := (SameBooks.insert_action inserted).timeline
  unfold Database.insertAction at inserted
  split_ifs at inserted with known
  obtain ⟨actions, fits, rfl⟩ := Option.map_eq_some_iff.mp inserted
  refine live.add_mark row.mark sessions recordings ?_ own ?_ reached ?_
  · intro mark member
    change mark ∈ _ ++ actions.rows.map ActionEventRow.mark at member
    rw [Table.insert_some_rows fits, List.map_append, ← List.append_assoc] at member
    rcases List.mem_append.mp member with old | new
    · exact Or.inl old
    · exact Or.inr (List.mem_singleton.mp new)
  · rw [session_ids_timeline, ← own]
    exact known
  · intro recordSessionId acts
    obtain rfl := Option.some.inj acts
    exact opened

omit [StoreExternals] [Externals] in
theorem flush_events_timeline (live : db.timeline.Live sessionId newest)
    (readings : Nat → AttemptReadings StoreError) {batch : List EventEnvelope}
    (stamped : ∀ event ∈ batch, event.sessionId = sessionId ∧ Reached newest event.tsUnixMs) :
    let after := (flushRows insertEvents readings batch db).1
    after.timeline.Live sessionId newest ∧ (db.timeline.Covered → after.timeline.Covered) := by
  have kept : RowsKeep insertEventRow (fun after => after.timeline.Live sessionId newest ∧
      (db.timeline.Covered → after.timeline.Covered)) batch := by
    intro event member fault position progress after held inserted
    obtain ⟨own, reached⟩ := stamped event member
    obtain ⟨session, _, ts, _⟩ := from_envelope_columns event
    unfold insertEventRow at inserted
    split at inserted
    · split_ifs at inserted
      exact Except.ok.inj inserted ▸ held
    · split at inserted
      · rename_i next added
        rw [← Except.ok.inj inserted]
        obtain ⟨next_live, next_covered⟩ := insert_event_timeline held.1 added
          (session.trans own) (ts ▸ reached)
        exact ⟨next_live, fun covered => next_covered (held.2 covered)⟩
      · exact Except.ok.inj inserted ▸ held
  exact flush_rows_keeps kept readings ⟨live, fun covered => covered⟩

theorem flush_actions_timeline (live : db.timeline.Live sessionId newest)
    (readings : Nat → AttemptReadings ActionFault) {batch : List StampedAction}
    (stamped : ∀ action ∈ batch, action.sessionId = sessionId ∧ Reached newest action.tsUnixMs) :
    let after := (flushRows insertActions readings batch db).1
    after.timeline.Live sessionId newest ∧ (db.timeline.Covered → after.timeline.Covered) := by
  have kept : RowsKeep insertActionRow (fun after => after.timeline.Live sessionId newest ∧
      (db.timeline.Covered → after.timeline.Covered)) batch := by
    intro action member fault position progress after held inserted
    obtain ⟨own, reached⟩ := stamped action member
    have same := intern_selector_timeline progress.1 action
    have interned : (progress.1.internSelector action).2.timeline.Live sessionId newest ∧
        (db.timeline.Covered → (progress.1.internSelector action).2.timeline.Covered) := by
      rw [same]
      exact held
    unfold insertActionRow at inserted
    dsimp only at inserted
    split_ifs at inserted with closed unsafe_hops
    · exact Except.ok.inj inserted ▸ held
    · exact Except.ok.inj inserted ▸ held
    · have opened := recording_is_open_spec (Bool.not_eq_false _ |>.mp (by simpa using closed))
      split at inserted
      · split_ifs at inserted
        · exact Except.ok.inj inserted ▸ interned
        · exact Except.ok.inj inserted ▸ held
      · split at inserted
        · rename_i next added
          rw [← Except.ok.inj inserted]
          obtain ⟨next_live, next_covered⟩ := insert_action_timeline interned.1 added own reached
            (same ▸ opened)
          exact ⟨next_live, fun covered => next_covered (interned.2 covered)⟩
        · exact Except.ok.inj inserted ▸ interned
  exact flush_rows_keeps kept readings ⟨live, fun covered => covered⟩

end Rows

section Recordings

variable {sessionId : Int} {newest : Option I64} {db after : Database} {fault : Option StoreError}

theorem update_record_sessions_timeline {matching : RecordSessionRow → Bool}
    {change : RecordSessionRow → RecordSessionRow}
    {keeps : ∀ row, (change row).recordSessionId = row.recordSessionId}
    (same : ∀ row, (change row).span = row.span) :
    (db.updateRecordSessions matching change keeps).timeline = db.timeline := by
  have recordings : (db.updateRecordSessions matching change keeps).timeline.recordings =
      db.timeline.recordings := by
    change List.map _ (List.map _ _) = List.map _ _
    rw [List.map_map]
    apply List.map_congr_left
    intro row _
    change RecordSessionRow.span (if matching row = true then change row else row) = row.span
    split_ifs
    · exact same row
    · rfl
  change Timeline.mk db.timeline.sessions _ db.timeline.marks = _
  exact congrArg (fun recordings => Timeline.mk db.timeline.sessions recordings db.timeline.marks)
    recordings

theorem end_recordings_timeline {matching : RecordSessionRow → Bool}
    {change : RecordSessionRow → RecordSessionRow}
    {keeps : ∀ row, (change row).recordSessionId = row.recordSessionId}
    (matched : RecordingSpan → Bool) (endedTs : RecordingSpan → I64)
    (matches_span : ∀ row, matching row = (matched row.span && row.span.endedTs.isNone))
    (ends : ∀ row, (change row).span =
      { row.span with endedTs := some (max row.startedTs (endedTs row.span)) }) :
    (db.updateRecordSessions matching change keeps).timeline.recordings =
      db.timeline.recordings.map (RecordingSpan.endAt matched endedTs) := by
  change List.map _ (List.map _ _) = List.map _ (List.map _ _)
  rw [List.map_map, List.map_map]
  apply List.map_congr_left
  intro row _
  change RecordSessionRow.span (if matching row = true then change row else row) =
    row.span.endAt matched endedTs
  unfold RecordingSpan.endAt
  rw [matches_span]
  by_cases ended : (matched row.span && row.span.endedTs.isNone) = true
  · rw [if_pos ended, if_pos ended]
    exact ends row
  · rw [if_neg ended, if_neg ended]

theorem pause_intervals_timeline {recordSessionId : Int} {intervals : List (I64 × Option I64)}
    (written : db.writePauseIntervals fault recordSessionId intervals = .ok after) :
    after.timeline = db.timeline := by
  obtain ⟨_, rfl⟩ := statement_ok written
  exact update_record_sessions_timeline fun _ => rfl

theorem close_record_session_timeline (live : db.timeline.Live sessionId newest)
    {recordSessionId : Int} {endedTs : I64} {stopReason : RecordStopReason}
    (closed : db.closeRecordSession fault recordSessionId endedTs stopReason = .ok after)
    (passed : ∀ ts, Reached newest ts → ts ≤ endedTs) :
    after.timeline.Live sessionId newest ∧ (db.timeline.Covered → after.timeline.Covered) := by
  obtain ⟨_, rfl⟩ := statement_ok closed
  refine live.end_recordings rfl rfl (end_recordings_timeline
    (fun recording => recording.recordSessionId == recordSessionId) (fun _ => endedTs)
    (fun _ => rfl) fun _ => rfl) fun _ => passed

theorem finalize_record_sessions_timeline (live : db.timeline.Live sessionId newest)
    {endedTs : I64} {stopReason : RecordStopReason}
    (finalized : db.finalizeOpenRecordSessions fault stopReason endedTs = .ok after)
    (passed : ∀ ts, Reached newest ts → ts ≤ endedTs) :
    after.timeline.Live sessionId newest ∧ (db.timeline.Covered → after.timeline.Covered) := by
  obtain ⟨_, rfl⟩ := statement_ok finalized
  refine live.end_recordings rfl rfl (end_recordings_timeline (fun _ => true) (fun _ => endedTs)
    (fun _ => rfl) fun _ => rfl) fun _ => passed

theorem open_record_session_timeline (live : db.timeline.Live sessionId newest)
    {params : OpenRecordSessionParams} {recordSessionId : Int}
    (opened : RecordingOpened params db after recordSessionId)
    (own : params.sessionId = sessionId) :
    after.timeline.Live sessionId newest ∧ (db.timeline.Covered → after.timeline.Covered) := by
  obtain ⟨sessions, marks⟩ := opened.frame.timeline
  refine live.open_recording (params.row recordSessionId).span sessions marks ?_ own ?_ rfl ?_
  · change after.activity.recordRoutine.recordSessions.rows.map _ = _
    rw [opened.inserted, List.map_append]
    rfl
  · rw [session_ids_timeline, ← own]
    exact opened.session
  · intro recording member same
    obtain ⟨row, stored, rfl⟩ := List.mem_map.mp member
    have fresh := Table.next_id_fresh db.sqliteSequence.recordSessions db.recordSessionIds
    rw [← opened.fresh] at fresh
    apply fresh
    have named : row.recordSessionId = recordSessionId := same
    exact named ▸ List.mem_map_of_mem stored

end Recordings

section Sessions

variable {db after : Database} {fault : Option StoreError}

theorem create_session_timeline {startedAt : I64} {identity : SessionIdentity} {sessionId : Int}
    (created : db.createSessionWithIdentity fault startedAt identity = .ok (after, sessionId))
    (sound : db.timeline.Sound)
    (ended : ∀ session ∈ db.timeline.sessions, session.endedAt ≠ none)
    (recorded : ∀ recording ∈ db.timeline.recordings, recording.endedTs ≠ none) :
    after.timeline.Live sessionId none ∧ (db.timeline.Covered ↔ after.timeline.Covered) := by
  obtain ⟨rfl, rfl⟩ := Prod.mk.inj (statement_ok created).2
  refine sound.begin_session ⟨db.newSessionId, startedAt, none⟩ ?_ rfl rfl rfl ?_ ended recorded
  · exact List.map_append
  · rw [session_ids_timeline]
    exact Table.next_id_fresh 0 db.sessionIds

theorem end_session_timeline {sessionId : Int} {endedAt : I64}
    (ended : db.endSession fault sessionId endedAt = .ok after) :
    after.timeline.sessions = db.timeline.sessions.map
        (SessionSpan.endAt (fun session => session.sessionId == sessionId) fun _ => endedAt) ∧
      after.timeline.marks = db.timeline.marks ∧
      after.timeline.recordings = db.timeline.recordings := by
  obtain ⟨_, rfl⟩ := statement_ok ended
  refine ⟨?_, rfl, rfl⟩
  change List.map _ (List.map _ _) = List.map _ (List.map _ _)
  rw [List.map_map, List.map_map]
  apply List.map_congr_left
  intro row _
  change SessionRow.span (if (row.sessionId == sessionId) = true then _ else row) = _
  split_ifs with same
  · exact (if_pos same).symm
  · exact (if_neg same).symm

end Sessions

end Gilbreth.Store
