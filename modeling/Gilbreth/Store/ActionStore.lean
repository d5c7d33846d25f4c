import Gilbreth.Library.Machine
import Gilbreth.Store.Deletions
import Gilbreth.Store.PrunePreview
import Gilbreth.Store.Books
import Gilbreth.Store.SelectorInterning

/-!
# The actions of a store and the calls that reach them

Sessions and recordings come and go, batches insert, retentions and the dashboard delete.
Whatever does not touch the actions keeps their counts and selectors; what a prune and the
deletion of a recording leave is described table by table.
-/

set_option autoImplicit false

namespace Gilbreth.Store

open Gilbreth.Core

section Calls

variable [Externals] [StoreExternals]

/-- The database and what its batches did. -/
structure ActionStore where
  db : Database
  history : ActionHistory

def ActionStore.empty : ActionStore := ⟨.empty, .empty⟩

/-- A call that writes or deletes, with what it meets. -/
inductive StoreCall where
  | createSession (fault : Option StoreError) (startedAt : I64) (identity : SessionIdentity)
  | endSession (fault : Option StoreError) (sessionId : Int) (endedAt : I64)
  | insertEvents (faults : BatchFaults StoreError) (batch : List EventEnvelope)
  | openRecordSession (fault : Option StoreError) (params : OpenRecordSessionParams)
  | pauseRecordSession (fault : Option StoreError) (recordSessionId : Int) (pausedTs : I64)
  | resumeRecordSession (fault : Option StoreError) (recordSessionId : Int) (resumedTs : I64)
  | closeRecordSession (fault : Option StoreError) (recordSessionId : Int) (endedTs : I64)
      (stopReason : RecordStopReason)
  | finalizeOpenRecordSessions (fault : Option StoreError) (stopReason : RecordStopReason)
      (endedTs : I64)
  | insertActions (faults : BatchFaults ActionFault) (batch : List StampedAction)
  | delete (call : DeletionCall)

/-- A statement that fails leaves the database. -/
def ActionStore.write (state : ActionStore) (written : Except StoreError Database) :
    ActionStore × Except StoreError Unit :=
  match written with
  | .ok db => ({ state with db := db }, .ok ())
  | .error error => (state, .error error)

variable (engine : SqlEngine) (eventId : EventRow → Int)

def ActionStore.step (state : ActionStore) : StoreCall → ActionStore × Except StoreError Unit
  | .createSession fault startedAt identity =>
      state.write ((state.db.createSessionWithIdentity fault startedAt identity).map Prod.fst)
  | .endSession fault sessionId endedAt => state.write (state.db.endSession fault sessionId endedAt)
  | .insertEvents faults batch =>
      state.write ((Store.insertEvents faults batch state.db).map Prod.fst)
  | .openRecordSession fault params =>
      state.write ((state.db.openRecordSession fault params).map Prod.fst)
  | .pauseRecordSession fault recordSessionId pausedTs =>
      state.write (state.db.pauseRecordSession fault recordSessionId pausedTs)
  | .resumeRecordSession fault recordSessionId resumedTs =>
      state.write (state.db.resumeRecordSession fault recordSessionId resumedTs)
  | .closeRecordSession fault recordSessionId endedTs stopReason =>
      state.write (state.db.closeRecordSession fault recordSessionId endedTs stopReason)
  | .finalizeOpenRecordSessions fault stopReason endedTs =>
      state.write (state.db.finalizeOpenRecordSessions fault stopReason endedTs)
  | .insertActions faults batch =>
      match Store.insertActions faults batch state.db with
      | .ok (db, _) =>
          (⟨db, ActionHistory.rows faults.row 0 batch (state.db, ⟨0, 0⟩) state.history⟩, .ok ())
      | .error error => (state, .error error)
  | .delete call =>
      let result := call.run engine eventId state.db
      ({ state with db := result.1 }, result.2)

def actionMachine : Machine ActionStore StoreCall (Except StoreError Unit) where
  step := ActionStore.step engine eventId

end Calls

section Frames

/-- The sessions grow, the events are of sessions, the actions and selectors stay, and the
recordings keep their sessions and counts or are new ones without actions. -/
structure ActionsApart (before after : Database) : Prop where
  sessions : ∀ sessionId ∈ before.sessionIds, sessionId ∈ after.sessionIds
  events : ∀ event ∈ after.activity.events.rows,
    event ∈ before.activity.events.rows ∨ event.sessionId ∈ after.sessionIds
  selectorPaths :
    after.activity.recordRoutine.selectorPaths = before.activity.recordRoutine.selectorPaths
  actionEvents :
    after.activity.recordRoutine.actionEvents = before.activity.recordRoutine.actionEvents
  recordSessions : Table.Evolved
    (fun row later : RecordSessionRow =>
      later.sessionId = row.sessionId ∧ later.actionCount = row.actionCount)
    (fun later => later.sessionId ∈ before.sessionIds ∧ later.actionCount = 0)
    before.activity.recordRoutine.recordSessions after.activity.recordRoutine.recordSessions

theorem ActionsApart.of_recordings {before after : Database}
    (sessions : after.activity.sessions = before.activity.sessions)
    (events : after.activity.events = before.activity.events)
    (selectorPaths :
      after.activity.recordRoutine.selectorPaths = before.activity.recordRoutine.selectorPaths)
    (actionEvents :
      after.activity.recordRoutine.actionEvents = before.activity.recordRoutine.actionEvents)
    (recordSessions : Table.Evolved
      (fun row later : RecordSessionRow =>
        later.sessionId = row.sessionId ∧ later.actionCount = row.actionCount)
      (fun later => later.sessionId ∈ before.sessionIds ∧ later.actionCount = 0)
      before.activity.recordRoutine.recordSessions
      after.activity.recordRoutine.recordSessions) : ActionsApart before after where
  sessions sessionId known := by
    unfold Database.sessionIds
    rw [sessions]
    exact known
  events event listed := Or.inl (events ▸ listed)
  selectorPaths := selectorPaths
  actionEvents := actionEvents
  recordSessions := recordSessions

theorem recordings_unmoved {born : RecordSessionRow → Prop}
    (recordings : Table RecordSessionRow.recordSessionId) :
    Table.Evolved (fun row later : RecordSessionRow =>
      later.sessionId = row.sessionId ∧ later.actionCount = row.actionCount) born
      recordings recordings :=
  .refl (fun _ => ⟨rfl, rfl⟩) recordings

theorem ActionsApart.refl (db : Database) : ActionsApart db db :=
  .of_recordings rfl rfl rfl rfl (recordings_unmoved _)

theorem ActionsApart.update_record_sessions (db : Database) {matching : RecordSessionRow → Bool}
    {change : RecordSessionRow → RecordSessionRow}
    {keeps : ∀ row, (change row).recordSessionId = row.recordSessionId}
    (apart : ∀ row, (change row).sessionId = row.sessionId ∧
      (change row).actionCount = row.actionCount) :
    ActionsApart db (db.updateRecordSessions matching change keeps) :=
  .of_recordings rfl rfl rfl rfl
    (.update_where (fun _ => ⟨rfl, rfl⟩) _ matching change keeps fun row _ _ => apart row)

variable {before after : Database}

theorem ActionsApart.counted (apart : ActionsApart before after)
    (references : ForeignKeys before.activity) (counted : ActionsCounted before) :
    ActionsCounted after := by
  unfold ActionsCounted
  rw [apart.actionEvents]
  apply Table.Counted.evolved counted _ apart.recordSessions
  · intro row later kept
    exact kept.2
  · intro later born
    exact born.2
  · intro action listed
    exact List.mem_map.mpr (references.actionRecordSession action listed)

theorem ActionsApart.references (apart : ActionsApart before after)
    (references : ForeignKeys before.activity) : ForeignKeys after.activity where
  eventSession := by
    intro event listed
    apply List.mem_map.mp
    cases apart.events event listed with
    | inl earlier =>
        exact apart.sessions _ (List.mem_map.mpr (references.eventSession event earlier))
    | inr known => exact known
  recordSessionSession := by
    intro later listed
    apply List.mem_map.mp
    cases apart.recordSessions.fresh later listed with
    | inl known =>
        have ⟨row, found, same⟩ := List.mem_map.mp known
        have ⟨successor, present, equal, kept, _⟩ := apart.recordSessions.kept row found
        have only : successor = later :=
          after.activity.recordRoutine.recordSessions.eq_of_key present listed (equal.trans same)
        rw [← only, kept]
        exact apart.sessions _ (List.mem_map.mpr (references.recordSessionSession row found))
    | inr born => exact apart.sessions _ born.1
  actionSession := by
    intro action listed
    rw [apart.actionEvents] at listed
    apply List.mem_map.mp
    exact apart.sessions _ (List.mem_map.mpr (references.actionSession action listed))
  actionSelector := by
    rw [apart.actionEvents, apart.selectorPaths]
    exact references.actionSelector
  actionRecordSession := by
    intro action listed
    rw [apart.actionEvents] at listed
    have ⟨row, found, own⟩ := references.actionRecordSession action listed
    have ⟨later, present, same, _⟩ := apart.recordSessions.kept row found
    exact ⟨later, present, same.trans own⟩

theorem ActionsApart.interned [Externals] [StoreExternals] {history : ActionHistory}
    (apart : ActionsApart before after) (held : SelectorsInterned before history) :
    SelectorsInterned after history where
  references := apart.references held.references
  distinct := by
    rw [apart.selectorPaths]
    exact held.distinct
  interned := by
    rw [apart.actionEvents, apart.selectorPaths]
    exact held.interned
  named := by
    rw [apart.selectorPaths]
    exact held.named

end Frames

section Statements

variable {fault : Option StoreError} {db after : Database}

theorem create_session_apart {startedAt : I64} {identity : SessionIdentity} {sessionId : Int}
    (created : db.createSessionWithIdentity fault startedAt identity = .ok (after, sessionId)) :
    ActionsApart db after := by
  have ⟨_, same⟩ := statement_ok created
  rw [(Prod.mk.inj same).1]
  refine ⟨?_, fun event listed => Or.inl listed, rfl, rfl, recordings_unmoved _⟩
  intro known listed
  change known ∈ List.map _ (_ ++ _)
  rw [List.map_append]
  exact List.mem_append_left _ listed

theorem end_session_apart {sessionId : Int} {endedAt : I64}
    (ended : db.endSession fault sessionId endedAt = .ok after) : ActionsApart db after := by
  rw [(statement_ok ended).2]
  refine ⟨?_, fun event listed => Or.inl listed, rfl, rfl, recordings_unmoved _⟩
  intro known listed
  change known ∈ List.map _ _
  rw [Table.keys_update_where]
  exact listed

theorem insert_events_apart {faults : BatchFaults StoreError} {batch : List EventEnvelope}
    {report : InsertReport} (inserted : insertEvents faults batch db = .ok (after, report)) :
    ActionsApart db after := by
  have kept : RowsKeep insertEventRow (fun between =>
      between.activity.sessions = db.activity.sessions ∧
      between.activity.recordRoutine = db.activity.recordRoutine ∧
      ∀ event ∈ between.activity.events.rows,
        event ∈ db.activity.events.rows ∨ event.sessionId ∈ db.sessionIds) batch := by
    intro event _ fault position progress next held added
    unfold insertEventRow at added
    split at added
    · split_ifs at added
      exact Except.ok.inj added ▸ held
    · split at added
      · rename_i between stored
        rw [← Except.ok.inj added]
        unfold Database.insertEvent at stored
        split_ifs at stored with session
        rcases Option.map_eq_some_iff.mp stored with ⟨events, fits, same⟩
        rw [← same]
        refine ⟨held.1, held.2.1, ?_⟩
        intro row listed
        change row ∈ events.rows at listed
        rw [Table.insert_some_rows fits] at listed
        cases List.mem_append.mp listed with
        | inl earlier => exact held.2.2 row earlier
        | inr single =>
            right
            rw [List.mem_singleton.mp single]
            unfold Database.sessionIds at session ⊢
            rw [held.1] at session
            exact session
      · exact Except.ok.inj added ▸ held
  rcases insert_batch_keeps kept ⟨rfl, rfl, fun _ => Or.inl⟩ inserted with
    ⟨sessions, routine, events⟩
  refine ⟨?_, ?_, ?_, ?_, ?_⟩
  · unfold Database.sessionIds
    rw [sessions]
    exact fun _ known => known
  · unfold Database.sessionIds at events ⊢
    rw [sessions]
    exact events
  · rw [routine]
  · rw [routine]
  · rw [routine]
    exact recordings_unmoved _

theorem open_record_session_selectors [StoreExternals] {params : OpenRecordSessionParams}
    {recordSessionId : Int}
    (opened : db.openRecordSession fault params = .ok (after, recordSessionId)) :
    after.activity.recordRoutine.selectorPaths = db.activity.recordRoutine.selectorPaths := by
  unfold Database.openRecordSession at opened
  cases valueFree : ensureValueFreeJson params.policySnapshotJson "policy_snapshot_json" with
  | error error =>
      rw [valueFree] at opened
      cases opened
  | ok checked =>
      rw [valueFree] at opened
      change (if _ then _ else _) = _ at opened
      by_cases uncapped : params.safetyCapMs ≤ I64.ofInt 0
      · rw [if_pos uncapped] at opened
        cases opened
      · rw [if_neg uncapped] at opened
        change (if _ then _ else _) = _ at opened
        by_cases absent : params.sessionId ∉ db.sessionIds
        · rw [if_pos absent] at opened
          cases opened
        · rw [if_neg absent] at opened
          dsimp only at opened
          split at opened
          · rw [(Prod.mk.inj (statement_ok opened).2).1]
          · split_ifs at opened
            · cases opened
            · rw [(Prod.mk.inj (statement_ok opened).2).1]

theorem open_record_session_apart [StoreExternals] {params : OpenRecordSessionParams}
    {recordSessionId : Int}
    (opened : db.openRecordSession fault params = .ok (after, recordSessionId)) :
    ActionsApart db after := by
  have outcome := open_record_session_ok opened
  apply ActionsApart.of_recordings outcome.frame.sessions outcome.frame.events
    (open_record_session_selectors opened) outcome.frame.actionEvents
  constructor
  · intro row listed
    refine ⟨row, ?_, rfl, rfl, rfl⟩
    rw [outcome.inserted]
    exact List.mem_append_left _ listed
  · intro later listed
    rw [outcome.inserted] at listed
    cases List.mem_append.mp listed with
    | inl earlier => exact Or.inl (List.mem_map_of_mem earlier)
    | inr single =>
        right
        rw [List.mem_singleton.mp single]
        exact ⟨outcome.session, rfl⟩

theorem write_pause_intervals_apart {recordSessionId : Int} {intervals : List (I64 × Option I64)}
    (written : db.writePauseIntervals fault recordSessionId intervals = .ok after) :
    ActionsApart db after := by
  rw [(statement_ok written).2]
  exact .update_record_sessions db fun _ => ⟨rfl, rfl⟩

theorem pause_record_session_apart {recordSessionId : Int} {pausedTs : I64}
    (paused : db.pauseRecordSession fault recordSessionId pausedTs = .ok after) :
    ActionsApart db after := by
  cases pause_record_session_ok paused with
  | inl same =>
      rw [same]
      exact .refl db
  | inr written =>
      have ⟨_, done⟩ := written
      exact write_pause_intervals_apart done

theorem resume_record_session_apart {recordSessionId : Int} {resumedTs : I64}
    (resumed : db.resumeRecordSession fault recordSessionId resumedTs = .ok after) :
    ActionsApart db after := by
  have ⟨_, written⟩ := resume_record_session_ok resumed
  exact write_pause_intervals_apart written

theorem close_record_session_apart {recordSessionId : Int} {endedTs : I64}
    {stopReason : RecordStopReason}
    (closed : db.closeRecordSession fault recordSessionId endedTs stopReason = .ok after) :
    ActionsApart db after := by
  rw [(statement_ok closed).2]
  exact .update_record_sessions db fun _ => ⟨rfl, rfl⟩

theorem finalize_record_sessions_apart {stopReason : RecordStopReason} {endedTs : I64}
    (finalized : db.finalizeOpenRecordSessions fault stopReason endedTs = .ok after) :
    ActionsApart db after := by
  rw [(statement_ok finalized).2]
  exact .update_record_sessions db fun _ => ⟨rfl, rfl⟩

end Statements

end Gilbreth.Store
