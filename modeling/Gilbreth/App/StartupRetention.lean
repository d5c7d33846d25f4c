import Gilbreth.Store.Deletions
import Gilbreth.Store.TitleScrub

/-!
# The startup retention

Three passes run before a session is created: old activity is deleted, old titles are
blanked and old mouse moves are deleted. All three age rows from one reference time,
the wall clock unless the newest stored event is older.
-/

set_option autoImplicit false

namespace Gilbreth.App

open Gilbreth.Core Gilbreth.Store

section Passes

/-- The activity tables with the events as they are stored, and the deletion audit. -/
structure StoredActivity where
  sessions : Table SessionRow.sessionId
  events : Table StoredEvent.id
  recordRoutine : RecordRoutineTables
  deletionAudit : List DeletionAuditRow

def storedPosition (event : StoredEvent) : Int × I64 := (event.sessionId, event.seq)

/-- `ts < ?1`. -/
def oldStored (cutoffMs : I64) (event : StoredEvent) : Bool := decide (event.ts < cutoffMs)

/-- `kind = 'mouse_move' AND ts < ?1`. -/
def oldStoredMove (cutoffMs : I64) (event : StoredEvent) : Bool :=
  event.kind == "mouse_move" && decide (event.ts < cutoffMs)

/-- `ended_at IS NOT NULL` and no event, action or recording of it. -/
def emptySession (events : List StoredEvent) (actions : List ActionEventRow)
    (recordings : List RecordSessionRow) (session : SessionRow) : Bool :=
  session.endedAt.isSome && !(events.any fun event => event.sessionId == session.sessionId) &&
    !(actions.any fun action => action.sessionId == session.sessionId) &&
    !recordings.any fun recording => recording.sessionId == session.sessionId

/-- `SELECT MAX(ts) FROM events`. -/
def StoredActivity.newestEventTs (store : StoredActivity) : Option I64 :=
  (store.events.rows.map StoredEvent.ts).max?

variable (engine : SqlEngine) (performedAt cutoffMs : I64)

def StoredActivity.pruneOldActivity (store : StoredActivity) : StoredActivity :=
  let oldActions := deleteReturningAuditBatched engine (oldAction cutoffMs)
    store.recordRoutine.actionEvents
  let oldEvents := Table.deleteBatched (engine.scan (oldStored cutoffMs) pruneReturningBatch)
    prune_returning_batch_pos store.events
  let recordSessions := store.recordRoutine.recordSessions.deleteWhere
    (recordSessionPrunable cutoffMs oldActions.2.rows)
  let orphans := deleteReturningAuditBatched engine (orphanAction recordSessions.rows) oldActions.2
  let recordRequests := store.recordRoutine.recordRequests.deleteWhere
    (recordRequestPrunable cutoffMs recordSessions.rows)
  let selectorPaths := store.recordRoutine.selectorPaths.deleteWhere
    (selectorOrphan orphans.2.rows)
  { sessions := store.sessions.deleteWhere
      (emptySession oldEvents.2.rows orphans.2.rows recordSessions.rows)
    events := oldEvents.2
    recordRoutine := ⟨recordRequests, recordSessions, selectorPaths, orphans.2⟩
    deletionAudit := recordDeletionAudit "startup_retention" performedAt (some cutoffMs)
      (noteAll (noteAll (noteAll [] oldActions.1) (oldEvents.1.map storedPosition)) orphans.1)
      store.deletionAudit }

/-- `prune_mouse_moves_before`, each batch committed with its audit. -/
def StoredActivity.pruneMouseMovesBefore (store : StoredActivity) : StoredActivity :=
  let picked := (engine.scan (oldStoredMove cutoffMs) pruneBatch).pick store.events.rows
  let after : StoredActivity :=
    { store with
      events := store.events.without picked
      deletionAudit := recordDeletionAudit "mouse_move_retention" performedAt (some cutoffMs)
        (noteAll [] (picked.map storedPosition)) store.deletionAudit }
  if _short : picked.length < pruneBatch then after else pruneMouseMovesBefore after
termination_by store.events.rows.length
decreasing_by
  exact Table.without_full_pick_shorter (engine.scan (oldStoredMove cutoffMs) pruneBatch)
    store.events prune_batch_pos _short

end Passes

section Startup

def dayMs : Int := 86400000

def clampedRetentionNowMs (wallNowMs : I64) (newestEventTs : Option I64) : I64 :=
  match newestEventTs with
  | some newest => min wallNowMs newest
  | none => wallNowMs

def retentionCutoffMs (nowMs : I64) (retentionDays : Nat) : I64 :=
  I64.ofInt (nowMs.val - max retentionDays 1 * dayMs)

structure RetentionDays where
  retentionDays : Nat
  titleRetentionDays : Nat
  mouseMoveRetentionDays : Nat

variable (engine : SqlEngine) (days : RetentionDays) (nowMs performedAt : I64)

def runStartupRetention (store : StoredActivity) : StoredActivity :=
  store.pruneOldActivity engine performedAt (retentionCutoffMs nowMs days.retentionDays)

/-- Nothing while the batches of the scrub do not end. -/
def runStartupTitleRetention (fuel : Nat) (store : StoredActivity) : Option StoredActivity :=
  if days.titleRetentionDays = 0 then some store
  else
    (scrubTitlesBefore engine (retentionCutoffMs nowMs days.titleRetentionDays) .none fuel
      store.events).map fun ended => { store with events := ended.1 }

def runStartupMouseMoveRetention (store : StoredActivity) : StoredActivity :=
  if days.mouseMoveRetentionDays = 0 then store
  else
    store.pruneMouseMovesBefore engine performedAt
      (retentionCutoffMs nowMs days.mouseMoveRetentionDays)

end Startup

/-- The three passes of a start with the given wall clock. -/
def startupRetention (engine : SqlEngine) (days : RetentionDays) (wallNowMs performedAt : I64)
    (fuel : Nat) (store : StoredActivity) : Option StoredActivity :=
  let nowMs := clampedRetentionNowMs wallNowMs store.newestEventTs
  (runStartupTitleRetention engine days nowMs fuel
    (runStartupRetention engine days nowMs performedAt store)).map
      (runStartupMouseMoveRetention engine days nowMs performedAt)

section Cutoffs

/-- The window of a pass, in milliseconds. -/
def windowMs (days : Nat) : Int := max days 1 * dayMs

/-- Before the cutoff is older than the window: where the exact cutoff is out of range,
no stamp is before either. -/
theorem before_cutoff_iff (nowMs ts : I64) (days : Nat) :
    ts < retentionCutoffMs nowMs days ↔ ts.val < nowMs.val - windowMs days := by
  have positive : 0 ≤ windowMs days := by
    rw [windowMs, dayMs]
    positivity
  have lower := ts.lower
  have upper := nowMs.upper
  rw [SatInt.lt_iff, retentionCutoffMs, I64.ofInt, SatInt.clamp]
  change ts.val < max _ (min _ (nowMs.val - windowMs days)) ↔ _
  omega

theorem clamped_now_le (wallNowMs newest : I64) :
    (clampedRetentionNowMs wallNowMs (some newest)).val ≤ newest.val :=
  SatInt.le_iff.mp (min_le_right wallNowMs newest)

theorem clamped_now_eq {wallNowMs newest : I64} (correct : newest ≤ wallNowMs) :
    clampedRetentionNowMs wallNowMs (some newest) = newest :=
  min_eq_right correct

theorem newest_event_ts_iff {store : StoredActivity} {newest : I64} :
    store.newestEventTs = some newest ↔
      (∃ row ∈ store.events.rows, row.ts = newest) ∧
        ∀ row ∈ store.events.rows, row.ts ≤ newest := by
  rw [StoredActivity.newestEventTs, List.max?_eq_some_iff]
  simp only [List.mem_map, forall_exists_index, and_imp, forall_apply_eq_imp_iff₂]

end Cutoffs

section Effects

variable (engine : SqlEngine) (performedAt cutoffMs : I64)

theorem delete_audited_eq {Row : Type} {position : Row → Int × I64} (matching : Row → Bool)
    (table : Table position) :
    (deleteReturningAuditBatched engine matching table).2 = table.deleteWhere matching :=
  (Table.delete_batched_eq _ _ table).2

theorem delete_audited_none {Row : Type} {position : Row → Int × I64} {matching : Row → Bool}
    {table : Table position} (spared : ∀ row ∈ table.rows, matching row = false) :
    deleteReturningAuditBatched engine matching table = ([], table) := by
  rw [deleteReturningAuditBatched, Table.delete_batched_none _ _ spared]
  rfl

def ActionsRecorded (store : StoredActivity) : Prop :=
  ∀ action ∈ store.recordRoutine.actionEvents.rows,
    ∃ recording ∈ store.recordRoutine.recordSessions.rows,
      recording.recordSessionId = action.recordSessionId

def StoredActivity.sessionEmpty (store : StoredActivity) (session : SessionRow) : Bool :=
  emptySession store.events.rows store.recordRoutine.actionEvents.rows
    store.recordRoutine.recordSessions.rows session

/-- The store without its ended sessions that have no row left. -/
def StoredActivity.sweptSessions (store : StoredActivity) : StoredActivity :=
  { store with sessions := store.sessions.deleteWhere store.sessionEmpty }

/-- Nothing but empty sessions is left to prune. -/
structure Pruned (cutoffMs : I64) (store : StoredActivity) : Prop where
  events : ∀ row ∈ store.events.rows, oldStored cutoffMs row = false
  actions : ∀ action ∈ store.recordRoutine.actionEvents.rows, oldAction cutoffMs action = false
  recorded : ActionsRecorded store
  recordings : ∀ recording ∈ store.recordRoutine.recordSessions.rows,
    recordSessionPrunable cutoffMs store.recordRoutine.actionEvents.rows recording = false
  requests : ∀ request ∈ store.recordRoutine.recordRequests.rows,
    recordRequestPrunable cutoffMs store.recordRoutine.recordSessions.rows request = false
  selectors : ∀ path ∈ store.recordRoutine.selectorPaths.rows,
    selectorOrphan store.recordRoutine.actionEvents.rows path = false

theorem orphan_of_recorded {recordings : List RecordSessionRow} {action : ActionEventRow}
    (recorded : ∃ recording ∈ recordings, recording.recordSessionId = action.recordSessionId) :
    orphanAction recordings action = false := by
  rcases recorded with ⟨recording, member, own⟩
  rw [orphanAction, Bool.not_eq_false', List.any_eq_true]
  exact ⟨recording, member, beq_iff_eq.mpr own⟩

theorem prune_pruned {store : StoredActivity} (pruned : Pruned cutoffMs store) :
    store.pruneOldActivity engine performedAt cutoffMs = store.sweptSessions := by
  have recordings := Table.delete_where_none pruned.recordings
  have orphans : ∀ action ∈ store.recordRoutine.actionEvents.rows,
      orphanAction store.recordRoutine.recordSessions.rows action = false := by
    intro action member
    exact orphan_of_recorded (pruned.recorded action member)
  rw [StoredActivity.pruneOldActivity, delete_audited_none engine pruned.actions,
    Table.delete_batched_none _ _ pruned.events]
  dsimp only
  rw [recordings, delete_audited_none engine orphans]
  dsimp only
  rw [Table.delete_where_none pruned.requests, Table.delete_where_none pruned.selectors]
  simp only [List.map_nil, noteAll, List.foldl_nil, recordDeletionAudit, List.append_nil]
  rfl

theorem prune_events (store : StoredActivity) :
    (store.pruneOldActivity engine performedAt cutoffMs).events =
      store.events.deleteWhere (oldStored cutoffMs) :=
  (Table.delete_batched_eq _ _ store.events).2

theorem prune_recordings (store : StoredActivity) :
    (store.pruneOldActivity engine performedAt cutoffMs).recordRoutine.recordSessions =
      store.recordRoutine.recordSessions.deleteWhere (recordSessionPrunable cutoffMs
        (store.recordRoutine.actionEvents.deleteWhere (oldAction cutoffMs)).rows) := by
  rw [← delete_audited_eq engine]
  rfl

/-- No action loses its recording, so that only its own age deletes an action. -/
theorem prune_actions {store : StoredActivity} (recorded : ActionsRecorded store) :
    (store.pruneOldActivity engine performedAt cutoffMs).recordRoutine.actionEvents =
      store.recordRoutine.actionEvents.deleteWhere (oldAction cutoffMs) := by
  have orphans : ∀ action ∈ (store.recordRoutine.actionEvents.deleteWhere
      (oldAction cutoffMs)).rows, orphanAction (store.pruneOldActivity engine performedAt
        cutoffMs).recordRoutine.recordSessions.rows action = false := by
    intro action member
    rcases recorded action (Table.mem_delete_where.mp member).1 with ⟨recording, listed, own⟩
    apply orphan_of_recorded
    refine ⟨recording, ?_, own⟩
    rw [prune_recordings, Table.mem_delete_where]
    refine ⟨listed, ?_⟩
    rw [recordSessionPrunable, Bool.and_eq_false_iff]
    apply Or.inr
    rw [Bool.not_eq_false', List.any_eq_true]
    exact ⟨action, member, beq_iff_eq.mpr own.symm⟩
  rw [← delete_audited_eq engine] at orphans ⊢
  have left := congrArg Prod.snd (delete_audited_none engine orphans)
  exact left

theorem prune_pruned_once {store : StoredActivity} (recorded : ActionsRecorded store) :
    Pruned cutoffMs (store.pruneOldActivity engine performedAt cutoffMs) := by
  have actions := prune_actions engine performedAt cutoffMs recorded
  have recordings := prune_recordings engine performedAt cutoffMs store
  constructor
  · intro row member
    rw [prune_events, Table.mem_delete_where] at member
    exact member.2
  · intro action member
    rw [actions, Table.mem_delete_where] at member
    exact member.2
  · intro action member
    rw [actions] at member
    rcases recorded action (Table.mem_delete_where.mp member).1 with ⟨recording, listed, own⟩
    refine ⟨recording, ?_, own⟩
    rw [recordings, Table.mem_delete_where]
    refine ⟨listed, ?_⟩
    rw [recordSessionPrunable, Bool.and_eq_false_iff]
    apply Or.inr
    rw [Bool.not_eq_false', List.any_eq_true]
    exact ⟨action, member, beq_iff_eq.mpr own.symm⟩
  · intro recording member
    rw [actions]
    rw [recordings, Table.mem_delete_where] at member
    exact member.2
  · intro request member
    exact (Table.mem_delete_where.mp member).2
  · intro path member
    exact (Table.mem_delete_where.mp member).2

theorem mouse_none {store : StoredActivity}
    (spared : ∀ row ∈ store.events.rows, oldStoredMove cutoffMs row = false) :
    store.pruneMouseMovesBefore engine performedAt cutoffMs = store := by
  have none := Table.count_where_none spared
  have size := (engine.scan (oldStoredMove cutoffMs) pruneBatch).length_pick store.events.rows
  rw [Table.countWhere] at none
  rw [none, Nat.min_zero] at size
  have picked := List.length_eq_zero_iff.mp size
  rw [StoredActivity.pruneMouseMovesBefore, picked,
    dif_pos (show ([] : List StoredEvent).length < pruneBatch from prune_batch_pos)]
  have kept : store.events.without [] = store.events :=
    Table.delete_where_none fun row _ => by simp
  rw [kept]
  simp [noteAll, recordDeletionAudit]

theorem mouse_events (store : StoredActivity) :
    (store.pruneMouseMovesBefore engine performedAt cutoffMs).events =
        store.events.deleteWhere (oldStoredMove cutoffMs) ∧
      (store.pruneMouseMovesBefore engine performedAt cutoffMs).sessions = store.sessions ∧
      (store.pruneMouseMovesBefore engine performedAt cutoffMs).recordRoutine =
        store.recordRoutine := by
  induction size : store.events.rows.length using Nat.strongRecOn generalizing store with
  | _ size induction =>
      rw [StoredActivity.pruneMouseMovesBefore]
      split
      · rename_i short
        exact ⟨Table.without_short_pick _ _ short, rfl, rfl⟩
      · rename_i full
        have smaller := Table.without_full_pick_shorter
          (engine.scan (oldStoredMove cutoffMs) pruneBatch) store.events prune_batch_pos full
        rw [size] at smaller
        have rest := induction _ smaller { store with
          events := store.events.without
            ((engine.scan (oldStoredMove cutoffMs) pruneBatch).pick store.events.rows)
          deletionAudit := recordDeletionAudit "mouse_move_retention" performedAt (some cutoffMs)
            (noteAll [] (((engine.scan (oldStoredMove cutoffMs) pruneBatch).pick
              store.events.rows).map storedPosition)) store.deletionAudit } rfl
        exact ⟨rest.1.trans (Table.delete_where_without_pick _ _), rest.2⟩

end Effects

section Mirror

/-- The typed store and the stored rows of one database. -/
structure Mirrors (db : Database) (store : StoredActivity) : Prop where
  sessions : store.sessions = db.activity.sessions
  routine : store.recordRoutine = db.activity.recordRoutine
  events : List.Forall₂ (fun row event => EventRow.sessionId row = StoredEvent.sessionId event ∧
    row.ts = event.ts ∧ row.kind = event.kind) db.activity.events.rows store.events.rows

theorem mirrored_any {rows : List EventRow} {events : List StoredEvent}
    (mirror : List.Forall₂ (fun row event => EventRow.sessionId row =
      StoredEvent.sessionId event ∧ row.ts = event.ts ∧ row.kind = event.kind) rows events)
    (sessionId : Int) :
    (rows.any fun row => row.sessionId == sessionId) =
      events.any fun event => event.sessionId == sessionId := by
  induction mirror with
  | nil => rfl
  | cons same _ induction => rw [List.any_cons, List.any_cons, same.1, induction]

theorem prune_mirrors (engine : SqlEngine) (performedAt cutoffMs : I64) {db : Database}
    {store : StoredActivity} (mirror : Mirrors db store) :
    Mirrors (Store.pruneOldActivity engine performedAt cutoffMs db).1
      (store.pruneOldActivity engine performedAt cutoffMs) := by
  have typed : (Store.pruneOldActivity engine performedAt cutoffMs db).1.activity.events =
      db.activity.events.deleteWhere (oldEvent cutoffMs) :=
    delete_audited_eq engine _ _
  have events : List.Forall₂ (fun row event => EventRow.sessionId row =
      StoredEvent.sessionId event ∧ row.ts = event.ts ∧ row.kind = event.kind)
      (Store.pruneOldActivity engine performedAt cutoffMs db).1.activity.events.rows
      (store.pruneOldActivity engine performedAt cutoffMs).events.rows := by
    rw [typed, prune_events]
    apply List.rel_filter _ mirror.events
    intro row event same
    change (!decide (row.ts < cutoffMs)) = true ↔ (!decide (event.ts < cutoffMs)) = true
    rw [same.2.1]
  have routine : (store.pruneOldActivity engine performedAt cutoffMs).recordRoutine =
      (Store.pruneOldActivity engine performedAt cutoffMs db).1.activity.recordRoutine := by
    rw [StoredActivity.pruneOldActivity, Store.pruneOldActivity, mirror.routine]
  constructor
  · have sweep : sessionPrunable
        (Store.pruneOldActivity engine performedAt cutoffMs db).1.activity.events.rows =
        emptySession (store.pruneOldActivity engine performedAt cutoffMs).events.rows := by
      funext actions recordings session
      rw [sessionPrunable, sessionHasEvent, mirrored_any events, emptySession]
    have stored : (store.pruneOldActivity engine performedAt cutoffMs).sessions =
        store.sessions.deleteWhere (emptySession
          (store.pruneOldActivity engine performedAt cutoffMs).events.rows
          (store.pruneOldActivity engine performedAt cutoffMs).recordRoutine.actionEvents.rows
          (store.pruneOldActivity engine performedAt cutoffMs).recordRoutine.recordSessions.rows) :=
      rfl
    rw [stored, routine, ← sweep, mirror.sessions]
    rfl
  · exact routine
  · exact events

end Mirror

section Titles

variable {engine : SqlEngine} {cutoffMs : I64}

/-- The payload names neither title twice, nor the window that has it. -/
def TitledOnce (payload : JsonText) : Prop :=
  payload.Unrepeated windowTitle ∧ payload.Unrepeated prevTitle

theorem remove_titles_twice {payload : JsonText} (once : TitledOnce payload) :
    removeTitles (removeTitles payload) = removeTitles payload := by
  have apart : "prev" ≠ "window" := by decide
  have window : (removeTitles payload).element windowTitle = none := by
    rw [removeTitles, prevTitle, windowTitle,
      JsonText.element_remove_other apart.symm _ (List.cons_ne_nil _ _)]
    exact JsonText.element_remove (List.cons_ne_nil _ _) once.1
  have prev : (removeTitles payload).element prevTitle = none := by
    apply JsonText.element_remove (List.cons_ne_nil _ _)
    exact JsonText.unrepeated_remove_other apart (List.cons_ne_nil _ _) once.2
  exact remove_titles_absent window prev

/-- Blanking a row twice is blanking it once. -/
def TitlesRemovedOnce (rows : List StoredEvent) : Prop :=
  ∀ row ∈ rows, removeTitles (removeTitles row.payload) = removeTitles row.payload

theorem titles_removed_once {rows : List StoredEvent}
    (once : ∀ row ∈ rows, TitledOnce row.payload) : TitlesRemovedOnce rows :=
  fun row member => remove_titles_twice (once row member)

theorem scrubbed_once {rows : List StoredEvent} (once : TitlesRemovedOnce rows) :
    Table.RewrittenOnce StoredEvent.scrubbed (titledBefore cutoffMs) rows := by
  intro row member _
  rw [StoredEvent.scrubbed, StoredEvent.scrubbed, once row member]

theorem scrub_once {fuel : Nat} {events after : Table StoredEvent.id}
    {result : Except StoreError Nat} (once : TitlesRemovedOnce events.rows)
    (ended : scrubTitlesBefore engine cutoffMs .none fuel events = some (after, result)) :
    after = events.updateWhere (titledBefore cutoffMs) StoredEvent.scrubbed (fun _ => rfl) ∧
      after.countWhere (titledBefore cutoffMs) < scrubBatch := by
  rcases (scrub_ended_iff engine).mp ended with ⟨changed, batched, _⟩
  exact ⟨Table.update_batched_once _ _ _ (scrubbed_once once) batched,
    Table.update_batched_left_few _ _ _ batched⟩

theorem scrub_ends {events : Table StoredEvent.id} (once : TitlesRemovedOnce events.rows)
    (few : events.countWhere (fun row => likeTitle (removeTitles row.payload)) < scrubBatch) :
    ∃ fuel, scrubTitlesBefore engine cutoffMs .none fuel events ≠ none := by
  have stuck : events.countWhere (fun row => titledBefore cutoffMs row &&
      titledBefore cutoffMs row.scrubbed) < scrubBatch := by
    apply Nat.lt_of_le_of_lt _ few
    apply List.countP_mono_left
    intro row _ both
    rw [Bool.and_eq_true] at both
    rw [titled_scrubbed row (old_of_titled both.1)] at both
    exact both.2
  rcases Table.update_batched_ends (engine.scan (titledBefore cutoffMs) scrubBatch)
    StoredEvent.scrubbed (fun _ => rfl) (scrubbed_once once) stuck with ⟨fuel, ended⟩
  refine ⟨fuel, ?_⟩
  rw [scrub_titles_before_eq, Ne, Option.map_eq_none_iff]
  exact ended

/-- Rows that are blank, or will stay as they are, go through a scrub unchanged. -/
theorem scrub_settled {events : Table StoredEvent.id} (once : TitlesRemovedOnce events.rows)
    (settled : ∀ row ∈ events.rows, titledBefore cutoffMs row = true → row.scrubbed = row)
    (few : events.countWhere (titledBefore cutoffMs) < scrubBatch) :
    (∃ result, scrubTitlesBefore engine cutoffMs .none 1 events = some (events, result)) ∧
      ∀ fuel after result, scrubTitlesBefore engine cutoffMs .none fuel events =
        some (after, result) → after = events := by
  have same : events.updateWhere (titledBefore cutoffMs) StoredEvent.scrubbed (fun _ => rfl) =
      events := by
    apply Table.ext
    change List.map _ events.rows = events.rows
    refine (List.map_congr_left fun row member => ?_).trans (List.map_id events.rows)
    split_ifs with titled
    · exact settled row member titled
    · rfl
  constructor
  · have short : ((engine.scan (titledBefore cutoffMs) scrubBatch).pick events.rows).length <
        scrubBatch := by
      rw [(engine.scan (titledBefore cutoffMs) scrubBatch).length_pick]
      exact Nat.lt_of_le_of_lt (Nat.min_le_right _ _) few
    have batch := Table.update_batched_short (engine.scan (titledBefore cutoffMs) scrubBatch)
      StoredEvent.scrubbed (fun _ => rfl) 0 short
    rw [same] at batch
    exact ⟨_, (scrub_ended_iff engine).mpr ⟨_, batch, rfl⟩⟩
  · intro fuel after result ended
    exact (scrub_once once ended).1.trans same

end Titles

section Runs

variable {engine : SqlEngine} {days : RetentionDays} {nowMs performedAt : I64}

def retitled (days : RetentionDays) (nowMs : I64) (row : StoredEvent) : StoredEvent :=
  if days.titleRetentionDays ≠ 0 ∧
      titledBefore (retentionCutoffMs nowMs days.titleRetentionDays) row = true then row.scrubbed
  else row

def Kept (days : RetentionDays) (nowMs : I64) (row : StoredEvent) : Prop :=
  oldStored (retentionCutoffMs nowMs days.retentionDays) row = false ∧
    (days.mouseMoveRetentionDays ≠ 0 →
      oldStoredMove (retentionCutoffMs nowMs days.mouseMoveRetentionDays) row = false)

theorem retitled_columns (days : RetentionDays) (nowMs : I64) (row : StoredEvent) :
    (retitled days nowMs row).id = row.id ∧ (retitled days nowMs row).sessionId = row.sessionId ∧
      (retitled days nowMs row).ts = row.ts ∧ (retitled days nowMs row).kind = row.kind := by
  rw [retitled]
  split
  · exact ⟨rfl, rfl, rfl, rfl⟩
  · exact ⟨rfl, rfl, rfl, rfl⟩

theorem kept_retitled (days : RetentionDays) (nowMs : I64) (row : StoredEvent) :
    Kept days nowMs (retitled days nowMs row) ↔ Kept days nowMs row := by
  rcases retitled_columns days nowMs row with ⟨_, _, ts, kind⟩
  rw [Kept, Kept, oldStored, oldStored, oldStoredMove, oldStoredMove, ts, kind]

theorem title_pass {fuel : Nat} {store titled : StoredActivity}
    (once : TitlesRemovedOnce store.events.rows)
    (ended : runStartupTitleRetention engine days nowMs fuel store = some titled) :
    titled = { store with events := titled.events } ∧
      titled.events.rows = store.events.rows.map (retitled days nowMs) ∧
      (days.titleRetentionDays ≠ 0 → titled.events.countWhere
        (titledBefore (retentionCutoffMs nowMs days.titleRetentionDays)) < scrubBatch) := by
  rw [runStartupTitleRetention] at ended
  split at ended
  · rename_i off
    cases ended
    refine ⟨rfl, ?_, fun on => absurd off on⟩
    have same : retitled days nowMs = id := by
      funext row
      rw [retitled, if_neg fun both => both.1 off]
      rfl
    rw [same, List.map_id]
  · rename_i on
    rcases Option.map_eq_some_iff.mp ended with ⟨⟨after, result⟩, scrubbed, made⟩
    subst made
    have effect := scrub_once once scrubbed
    refine ⟨rfl, ?_, fun _ => effect.2⟩
    dsimp only
    rw [effect.1]
    change List.map _ store.events.rows = _
    apply List.map_congr_left
    intro row _
    rw [retitled]
    by_cases matched : titledBefore (retentionCutoffMs nowMs days.titleRetentionDays) row = true
    · rw [if_pos matched, if_pos ⟨on, matched⟩]
    · rw [if_neg matched, if_neg fun both => matched both.2]

theorem mouse_pass (store : StoredActivity) :
    (runStartupMouseMoveRetention engine days nowMs performedAt store).sessions =
        store.sessions ∧
      (runStartupMouseMoveRetention engine days nowMs performedAt store).recordRoutine =
        store.recordRoutine ∧
      (runStartupMouseMoveRetention engine days nowMs performedAt store).events =
        store.events.deleteWhere fun row => decide (days.mouseMoveRetentionDays ≠ 0) &&
          oldStoredMove (retentionCutoffMs nowMs days.mouseMoveRetentionDays) row := by
  rw [runStartupMouseMoveRetention]
  split
  · rename_i off
    refine ⟨rfl, rfl, (Table.delete_where_none fun row _ => ?_).symm⟩
    simp [off]
  · rename_i on
    have effect := mouse_events engine performedAt
      (retentionCutoffMs nowMs days.mouseMoveRetentionDays) store
    refine ⟨effect.2.1, effect.2.2, effect.1.trans (Table.delete_where_congr fun row _ => ?_)⟩
    simp [on]

theorem run_effect {wallNowMs : I64} {fuel : Nat} {store after : StoredActivity}
    (once : TitlesRemovedOnce store.events.rows)
    (now : clampedRetentionNowMs wallNowMs store.newestEventTs = nowMs)
    (ended : startupRetention engine days wallNowMs performedAt fuel store = some after) :
    after.sessions = (runStartupRetention engine days nowMs performedAt store).sessions ∧
      after.recordRoutine =
        (runStartupRetention engine days nowMs performedAt store).recordRoutine ∧
      (∀ later, later ∈ after.events.rows ↔
        ∃ row ∈ store.events.rows, Kept days nowMs row ∧ later = retitled days nowMs row) ∧
      (days.titleRetentionDays ≠ 0 → after.events.countWhere
        (titledBefore (retentionCutoffMs nowMs days.titleRetentionDays)) < scrubBatch) := by
  rw [startupRetention, now] at ended
  rcases Option.map_eq_some_iff.mp ended with ⟨titled, middle, made⟩
  have pruned : (runStartupRetention engine days nowMs performedAt store).events =
      store.events.deleteWhere (oldStored (retentionCutoffMs nowMs days.retentionDays)) :=
    prune_events engine performedAt _ store
  have onceLeft : TitlesRemovedOnce
      (runStartupRetention engine days nowMs performedAt store).events.rows := by
    intro row member
    rw [pruned, Table.mem_delete_where] at member
    exact once row member.1
  have titles := title_pass onceLeft middle
  have moves := @mouse_pass engine days nowMs performedAt titled
  rw [made] at moves
  rw [titles.1] at moves
  refine ⟨moves.1, moves.2.1, ?_, ?_⟩
  · intro later
    rw [moves.2.2, Table.mem_delete_where, titles.2.1, List.mem_map]
    have spared : (decide (days.mouseMoveRetentionDays ≠ 0) &&
        oldStoredMove (retentionCutoffMs nowMs days.mouseMoveRetentionDays) later) = false ↔
          (days.mouseMoveRetentionDays ≠ 0 →
            oldStoredMove (retentionCutoffMs nowMs days.mouseMoveRetentionDays) later = false) := by
      rw [Bool.and_eq_false_iff, decide_eq_false_iff_not, imp_iff_not_or]
    rw [spared]
    constructor
    · rintro ⟨⟨row, member, rfl⟩, kept⟩
      rw [pruned, Table.mem_delete_where] at member
      rcases retitled_columns days nowMs row with ⟨_, _, ts, kind⟩
      rw [oldStoredMove, ts, kind] at kept
      exact ⟨row, member.1, ⟨member.2, kept⟩, rfl⟩
    · rintro ⟨row, member, kept, rfl⟩
      refine ⟨⟨row, ?_, rfl⟩, ((kept_retitled days nowMs row).mpr kept).2⟩
      rw [pruned, Table.mem_delete_where]
      exact ⟨member, kept.1⟩
  · intro on
    apply Nat.lt_of_le_of_lt _ (titles.2.2 on)
    rw [moves.2.2, Table.countWhere, Table.countWhere]
    exact List.Sublist.countP_le List.filter_sublist

end Runs

section Settled

variable {engine : SqlEngine} {days : RetentionDays} {nowMs performedAt : I64}

/-- A store on which the passes have nothing left to do but sweep empty sessions. -/
structure Settled (days : RetentionDays) (nowMs : I64) (store : StoredActivity) : Prop where
  pruned : Pruned (retentionCutoffMs nowMs days.retentionDays) store
  once : TitlesRemovedOnce store.events.rows
  blank : days.titleRetentionDays ≠ 0 → ∀ row ∈ store.events.rows,
    titledBefore (retentionCutoffMs nowMs days.titleRetentionDays) row = true → row.scrubbed = row
  few : days.titleRetentionDays ≠ 0 → store.events.countWhere
    (titledBefore (retentionCutoffMs nowMs days.titleRetentionDays)) < scrubBatch
  still : days.mouseMoveRetentionDays ≠ 0 → ∀ row ∈ store.events.rows,
    oldStoredMove (retentionCutoffMs nowMs days.mouseMoveRetentionDays) row = false

theorem Settled.swept {store : StoredActivity} (settled : Settled days nowMs store) :
    Settled days nowMs store.sweptSessions := by
  constructor
  · exact ⟨settled.pruned.events, settled.pruned.actions, settled.pruned.recorded,
      settled.pruned.recordings, settled.pruned.requests, settled.pruned.selectors⟩
  · exact settled.once
  · exact settled.blank
  · exact settled.few
  · exact settled.still

theorem swept_twice (store : StoredActivity) :
    store.sweptSessions.sweptSessions = store.sweptSessions := by
  have none : store.sweptSessions.sessions.deleteWhere store.sessionEmpty =
      store.sweptSessions.sessions := by
    apply Table.delete_where_none
    intro session member
    exact (Table.mem_delete_where.mp member).2
  change StoredActivity.mk (store.sweptSessions.sessions.deleteWhere store.sessionEmpty) _ _ _ = _
  rw [none]

theorem run_settled {wallNowMs : I64} {store : StoredActivity}
    (settled : Settled days nowMs store)
    (now : clampedRetentionNowMs wallNowMs store.newestEventTs = nowMs) :
    startupRetention engine days wallNowMs performedAt 1 store = some store.sweptSessions ∧
      ∀ fuel again, startupRetention engine days wallNowMs performedAt fuel store = some again →
        again = store.sweptSessions := by
  have pruned : runStartupRetention engine days nowMs performedAt store = store.sweptSessions :=
    prune_pruned engine performedAt _ settled.pruned
  have after := settled.swept
  have moved : runStartupMouseMoveRetention engine days nowMs performedAt store.sweptSessions =
      store.sweptSessions := by
    rw [runStartupMouseMoveRetention]
    split
    · rfl
    · rename_i on
      exact mouse_none engine performedAt _ (after.still on)
  constructor
  · rw [startupRetention, now, pruned, runStartupTitleRetention]
    split
    · rw [Option.map_some, moved]
    · rename_i on
      rcases (@scrub_settled engine _ _ after.once (after.blank on) (after.few on)).1 with
        ⟨result, ended⟩
      rw [ended, Option.map_some, Option.map_some, moved]
  · intro fuel again ended
    rw [startupRetention, now, pruned, runStartupTitleRetention] at ended
    split at ended
    · rw [Option.map_some, moved] at ended
      cases ended
      rfl
    · rename_i on
      rcases Option.map_eq_some_iff.mp ended with ⟨titled, middle, made⟩
      rcases Option.map_eq_some_iff.mp middle with ⟨⟨left, result⟩, scrubbed, mid⟩
      have same := (@scrub_settled engine _ _ after.once (after.blank on) (after.few on)).2
        fuel left result scrubbed
      rw [← made, ← mid, same]
      exact moved

theorem retitled_blank {row : StoredEvent}
    (once : removeTitles (removeTitles row.payload) = removeTitles row.payload)
    (on : days.titleRetentionDays ≠ 0)
    (titled : titledBefore (retentionCutoffMs nowMs days.titleRetentionDays)
      (retitled days nowMs row) = true) :
    (retitled days nowMs row).scrubbed = retitled days nowMs row := by
  rw [retitled] at titled ⊢
  split
  · rw [StoredEvent.scrubbed, StoredEvent.scrubbed, once]
  · rename_i untouched
    rw [if_neg untouched] at titled
    exact absurd ⟨on, titled⟩ untouched

theorem retitled_once {row : StoredEvent}
    (once : removeTitles (removeTitles row.payload) = removeTitles row.payload) :
    removeTitles (removeTitles (retitled days nowMs row).payload) =
      removeTitles (retitled days nowMs row).payload := by
  rw [retitled]
  split
  · rw [StoredEvent.scrubbed, once, once]
  · exact once

theorem run_settles {wallNowMs : I64} {fuel : Nat} {store after : StoredActivity}
    (once : TitlesRemovedOnce store.events.rows) (recorded : ActionsRecorded store)
    (now : clampedRetentionNowMs wallNowMs store.newestEventTs = nowMs)
    (ended : startupRetention engine days wallNowMs performedAt fuel store = some after) :
    Settled days nowMs after := by
  rcases run_effect once now ended with ⟨_, routine, events, few⟩
  have pruned := prune_pruned_once engine performedAt
    (retentionCutoffMs nowMs days.retentionDays) recorded
  constructor
  · constructor
    · intro later member
      rcases (events later).mp member with ⟨row, _, kept, rfl⟩
      exact ((kept_retitled days nowMs row).mpr kept).1
    · rw [routine]
      exact pruned.actions
    · rw [ActionsRecorded, routine]
      exact pruned.recorded
    · rw [routine]
      exact pruned.recordings
    · rw [routine]
      exact pruned.requests
    · rw [routine]
      exact pruned.selectors
  · intro later member
    rcases (events later).mp member with ⟨row, listed, _, rfl⟩
    exact retitled_once (once row listed)
  · intro on later member titled
    rcases (events later).mp member with ⟨row, listed, _, rfl⟩
    exact retitled_blank (once row listed) on titled
  · exact few
  · intro on later member
    rcases (events later).mp member with ⟨row, _, kept, rfl⟩
    exact ((kept_retitled days nowMs row).mpr kept).2 on

theorem run_newest {wallNowMs newest : I64} {fuel : Nat} {store after : StoredActivity}
    (once : TitlesRemovedOnce store.events.rows) (stored : store.newestEventTs = some newest)
    (ended : startupRetention engine days wallNowMs performedAt fuel store = some after) :
    after.newestEventTs = some newest := by
  have nowLe := clamped_now_le wallNowMs newest
  have now := congrArg (clampedRetentionNowMs wallNowMs) stored
  rcases run_effect once now ended with ⟨_, _, events, _⟩
  have known := newest_event_ts_iff.mp stored
  rw [newest_event_ts_iff]
  constructor
  · rcases known.1 with ⟨row, member, own⟩
    refine ⟨retitled days _ row, (events _).mpr ⟨row, member, ?_, rfl⟩, ?_⟩
    · have never : ∀ count, ¬row.ts < retentionCutoffMs
          (clampedRetentionNowMs wallNowMs (some newest)) count := by
        intro count early
        rw [before_cutoff_iff, own] at early
        have positive : 0 ≤ windowMs count := by
          rw [windowMs, dayMs]
          positivity
        omega
      constructor
      · exact decide_eq_false (never _)
      · intro _
        rw [oldStoredMove, decide_eq_false (never _), Bool.and_false]
    · exact (retitled_columns days _ row).2.2.1.trans own
  · intro later member
    rcases (events later).mp member with ⟨row, listed, _, rfl⟩
    rw [(retitled_columns days _ row).2.2.1]
    exact known.2 row listed

end Settled

section Retention

variable (engine : SqlEngine) (days : RetentionDays) (wallNowMs : I64)

/-- What the passes may do to the rows of a store whose newest event has the given stamp. -/
structure RetentionSafe (newest : I64) (before after : StoredActivity) : Prop where
  events : ∀ row ∈ before.events.rows, (∃ later ∈ after.events.rows, later.id = row.id) ∨
    row.ts.val < newest.val - windowMs days.retentionDays ∨
      (days.mouseMoveRetentionDays ≠ 0 ∧ row.kind = "mouse_move" ∧
        row.ts.val < newest.val - windowMs days.mouseMoveRetentionDays)
  latest : ∀ row ∈ before.events.rows, row.ts = newest →
    ∃ later ∈ after.events.rows, later.id = row.id
  actions : ∀ action ∈ before.recordRoutine.actionEvents.rows,
    action ∈ after.recordRoutine.actionEvents.rows ∨
      action.ts.val < newest.val - windowMs days.retentionDays
  titles : ∀ later ∈ after.events.rows, ∃ row ∈ before.events.rows, later = row ∨
    (later = row.scrubbed ∧ days.titleRetentionDays ≠ 0 ∧
      row.ts.val < newest.val - windowMs days.titleRetentionDays)

/-- An ended session that a run left without rows, its last ones mouse moves that aged out. -/
def MovedOut (before after : StoredActivity) (session : SessionRow) : Prop :=
  session.endedAt.isSome = true ∧ days.mouseMoveRetentionDays ≠ 0 ∧
    ∃ row ∈ before.events.rows, row.sessionId = session.sessionId ∧ row.kind = "mouse_move" ∧
      ∀ later ∈ after.events.rows, later.sessionId ≠ session.sessionId

variable {engine days wallNowMs} {performedAt newest : I64} {fuel : Nat}
  {store after : StoredActivity}

theorem run_safe (once : TitlesRemovedOnce store.events.rows) (recorded : ActionsRecorded store)
    (stored : store.newestEventTs = some newest)
    (ended : startupRetention engine days wallNowMs performedAt fuel store = some after) :
    RetentionSafe days newest store after := by
  have now := congrArg (clampedRetentionNowMs wallNowMs) stored
  have nowLe := clamped_now_le wallNowMs newest
  rcases run_effect once now ended with ⟨_, routine, events, _⟩
  generalize clampedRetentionNowMs wallNowMs (some newest) = nowMs at now nowLe routine events
  have early : ∀ {ts : I64} {count : Nat}, ts < retentionCutoffMs nowMs count →
      ts.val < newest.val - windowMs count := by
    intro ts count before
    rw [before_cutoff_iff] at before
    omega
  have lost : ∀ row ∈ store.events.rows, ¬Kept days nowMs row →
      row.ts.val < newest.val - windowMs days.retentionDays ∨
        (days.mouseMoveRetentionDays ≠ 0 ∧ row.kind = "mouse_move" ∧
          row.ts.val < newest.val - windowMs days.mouseMoveRetentionDays) := by
    intro row _ unkept
    rw [Kept, not_and_or, Bool.not_eq_false] at unkept
    rcases unkept with old | moved
    · exact Or.inl (early (of_decide_eq_true old))
    · rw [Classical.not_imp, Bool.not_eq_false, oldStoredMove, Bool.and_eq_true, beq_iff_eq,
        decide_eq_true_eq] at moved
      exact Or.inr ⟨moved.1, moved.2.1, early moved.2.2⟩
  have kept : ∀ row ∈ store.events.rows, Kept days nowMs row →
      ∃ later ∈ after.events.rows, later.id = row.id := by
    intro row member keeps
    exact ⟨retitled days nowMs row, (events _).mpr ⟨row, member, keeps, rfl⟩,
      (retitled_columns days nowMs row).1⟩
  constructor
  · intro row member
    by_cases keeps : Kept days nowMs row
    · exact Or.inl (kept row member keeps)
    · exact Or.inr (lost row member keeps)
  · intro row member own
    by_contra gone
    have positive : ∀ count, 0 ≤ windowMs count := by
      intro count
      rw [windowMs, dayMs]
      positivity
    rcases lost row member (fun keeps => gone (kept row member keeps)) with old | ⟨_, _, old⟩
    · have window := positive days.retentionDays
      rw [own] at old
      omega
    · have window := positive days.mouseMoveRetentionDays
      rw [own] at old
      omega
  · intro action member
    have actions := prune_actions engine performedAt (retentionCutoffMs nowMs days.retentionDays)
      recorded
    by_cases old : oldAction (retentionCutoffMs nowMs days.retentionDays) action = true
    · exact Or.inr (early (of_decide_eq_true old))
    · apply Or.inl
      rw [routine, runStartupRetention, actions, Table.mem_delete_where]
      exact ⟨member, Bool.eq_false_iff.mpr old⟩
  · intro later member
    rcases (events later).mp member with ⟨row, listed, _, rfl⟩
    refine ⟨row, listed, ?_⟩
    rw [retitled]
    split
    · rename_i both
      exact Or.inr ⟨rfl, both.1, early (old_of_titled both.2)⟩
    · exact Or.inl rfl

theorem run_moved_out (once : TitlesRemovedOnce store.events.rows)
    (ended : startupRetention engine days wallNowMs performedAt fuel store = some after) :
    ∀ session ∈ after.sessions.rows, after.sessionEmpty session = true →
      MovedOut days store after session := by
  rcases run_effect once rfl ended with ⟨sessions, routine, events, _⟩
  generalize clampedRetentionNowMs wallNowMs store.newestEventTs = nowMs at sessions routine events
  intro session member none
  have pruned : (runStartupRetention engine days nowMs performedAt store).events =
      store.events.deleteWhere (oldStored (retentionCutoffMs nowMs days.retentionDays)) :=
    prune_events engine performedAt _ store
  rw [sessions] at member
  have held : emptySession
      (runStartupRetention engine days nowMs performedAt store).events.rows
      (runStartupRetention engine days nowMs performedAt store).recordRoutine.actionEvents.rows
      (runStartupRetention engine days nowMs performedAt store).recordRoutine.recordSessions.rows
      session = false := (Table.mem_delete_where.mp member).2
  rw [StoredActivity.sessionEmpty, routine, emptySession, Bool.and_eq_true, Bool.and_eq_true,
    Bool.and_eq_true] at none
  rcases none with ⟨⟨⟨done, bare⟩, noAction⟩, noRecording⟩
  rw [emptySession, done, noAction, noRecording, Bool.and_true, Bool.and_true, Bool.true_and,
    Bool.not_eq_false', List.any_eq_true] at held
  rcases held with ⟨row, listed, own⟩
  rw [pruned, Table.mem_delete_where] at listed
  rw [beq_iff_eq] at own
  have gone : ∀ later ∈ after.events.rows, later.sessionId ≠ session.sessionId := by
    intro later present same
    rw [Bool.not_eq_true', List.any_eq_false] at bare
    exact bare later present (beq_iff_eq.mpr same)
  have unkept : ¬Kept days nowMs row := by
    intro keeps
    apply gone (retitled days nowMs row) ((events _).mpr ⟨row, listed.1, keeps, rfl⟩)
    exact (retitled_columns days nowMs row).2.1.trans own
  have moved : days.mouseMoveRetentionDays ≠ 0 ∧
      oldStoredMove (retentionCutoffMs nowMs days.mouseMoveRetentionDays) row = true := by
    rw [Kept, not_and_or] at unkept
    have second := unkept.resolve_left (not_not.mpr listed.2)
    rwa [Classical.not_imp, Bool.not_eq_false] at second
  rw [oldStoredMove, Bool.and_eq_true, beq_iff_eq] at moved
  exact ⟨done, moved.1, row, listed.1, own, moved.2.1, gone⟩

/-- Whatever the wall clock, the passes take only what is older than their windows before
the newest event, and what a first start leaves the next ones keep, but for ended sessions
whose last rows were mouse moves. -/
theorem startup_retention_settles (engine : SqlEngine) (days : RetentionDays) (wallNowMs : I64)
    (store : StoredActivity) (newest : I64) (stored : store.newestEventTs = some newest)
    (recorded : ActionsRecorded store)
    (titled : ∀ row ∈ store.events.rows, TitledOnce row.payload) :
    (store.events.countWhere (fun row => likeTitle (removeTitles row.payload)) < scrubBatch →
      ∀ performedAt, ∃ fuel,
        startupRetention engine days wallNowMs performedAt fuel store ≠ none) ∧
    ∀ performedAt fuel after,
      startupRetention engine days wallNowMs performedAt fuel store = some after →
        RetentionSafe days newest store after ∧
        (newest ≤ wallNowMs → ∀ row ∈ after.events.rows,
          newest.val - windowMs days.retentionDays ≤ row.ts.val) ∧
        (∀ session ∈ after.sessions.rows, after.sessionEmpty session = true →
          MovedOut days store after session) ∧
        ∀ performedAt,
          startupRetention engine days wallNowMs performedAt 1 after = some after.sweptSessions ∧
          (∀ fuel again, startupRetention engine days wallNowMs performedAt fuel after =
            some again → again = after.sweptSessions) ∧
          (∀ fuel again, startupRetention engine days wallNowMs performedAt fuel
            after.sweptSessions = some again → again = after.sweptSessions) := by
  have now := congrArg (clampedRetentionNowMs wallNowMs) stored
  have once := titles_removed_once titled
  constructor
  · intro few performedAt
    generalize clampedRetentionNowMs wallNowMs (some newest) = nowMs at now
    have pruned : (runStartupRetention engine days nowMs performedAt store).events =
        store.events.deleteWhere (oldStored (retentionCutoffMs nowMs days.retentionDays)) :=
      prune_events engine performedAt _ store
    have left : TitlesRemovedOnce
        (runStartupRetention engine days nowMs performedAt store).events.rows := by
      intro row member
      rw [pruned, Table.mem_delete_where] at member
      exact once row member.1
    have fewer : (runStartupRetention engine days nowMs performedAt store).events.countWhere
        (fun row => likeTitle (removeTitles row.payload)) < scrubBatch := by
      rw [pruned]
      exact Nat.lt_of_le_of_lt (List.Sublist.countP_le List.filter_sublist) few
    rcases @scrub_ends engine (retentionCutoffMs nowMs days.titleRetentionDays) _ left fewer with
      ⟨fuel, ends⟩
    refine ⟨fuel, ?_⟩
    rw [startupRetention, now, Ne, Option.map_eq_none_iff, runStartupTitleRetention]
    split
    · exact Option.some_ne_none _
    · rw [Option.map_eq_none_iff]
      exact ends
  · intro performedAt fuel after ended
    have settled := run_settles once recorded now ended
    have latest := run_newest once stored ended
    have again := congrArg (clampedRetentionNowMs wallNowMs) latest
    refine ⟨run_safe once recorded stored ended, ?_, run_moved_out once ended, ?_⟩
    · intro correct row member
      have recent := settled.pruned.events row member
      rw [clamped_now_eq correct, oldStored, decide_eq_false_iff_not, before_cutoff_iff] at recent
      omega
    · intro later
      have first := @run_settled engine days _ later wallNowMs after settled again
      have second := @run_settled engine days _ later wallNowMs after.sweptSessions settled.swept
        again
      rw [swept_twice] at second
      exact ⟨first.1, first.2, second.2⟩

end Retention

section MovedOut

private def tableOrder : SqlEngine := ⟨fun matching limit => .first matching limit⟩

private def storedRow (id sessionId ts : Int) (kind : String) : StoredEvent :=
  { id := id, sessionId := sessionId, seq := .ofInt id, ts := .ofInt ts, source := "mouse"
    kind := kind, isSensitive := 0, hwnd := none, exe := none, title := none, pid := none
    prevExe := none, prevTitle := none, key := none, modShift := none, modCtrl := none
    modAlt := none, modWin := none, button := none, posX := none, posY := none
    durationMs := none, payload := .object [] }

/-- An ended session with one mouse move, ten days before the newest event. -/
private def movedStore : StoredActivity where
  sessions := ⟨[⟨1, .ofInt 0, some (.ofInt 5), none, none, none, none⟩,
    ⟨2, .ofInt 6, none, none, none, none, none⟩], by decide⟩
  events := ⟨[storedRow 1 1 0 "mouse_move", storedRow 2 2 864000000 "key"], by decide⟩
  recordRoutine := .empty
  deletionAudit := []

private theorem moved_newest : movedStore.newestEventTs = some (.ofInt 864000000) := by
  decide +kernel

private theorem moved_recorded : ActionsRecorded movedStore :=
  fun _ none => absurd none List.not_mem_nil

private theorem moved_titled : ∀ row ∈ movedStore.events.rows, TitledOnce row.payload := by
  intro row member
  have empty : row.payload = .object [] := by
    revert row
    simp [movedStore, storedRow]
  rw [empty]
  exact ⟨⟨rfl, by simp⟩, rfl, by simp⟩

theorem startup_retention_settles_moved :
    ∃ fuel after, startupRetention tableOrder ⟨30, 1, 1⟩ (.ofInt 864000000) (.ofInt 0) fuel
        movedStore = some after ∧
      RetentionSafe ⟨30, 1, 1⟩ (.ofInt 864000000) movedStore after ∧
      startupRetention tableOrder ⟨30, 1, 1⟩ (.ofInt 864000000) (.ofInt 0) 1 after =
        some after.sweptSessions := by
  have applied := startup_retention_settles tableOrder ⟨30, 1, 1⟩ (.ofInt 864000000) movedStore
    (.ofInt 864000000) moved_newest moved_recorded moved_titled
  rcases applied.1 (by decide +kernel) (.ofInt 0) with ⟨fuel, ends⟩
  rcases Option.ne_none_iff_exists'.mp ends with ⟨after, ended⟩
  have ran := applied.2 (.ofInt 0) fuel after ended
  exact ⟨fuel, after, ended, ran.1, (ran.2.2.2 (.ofInt 0)).1⟩

private def emptied : SessionRow := ⟨1, .ofInt 0, some (.ofInt 5), none, none, none, none⟩

private theorem moved_ends (wallNowMs : I64) :
    ∃ after, startupRetention tableOrder ⟨30, 0, 1⟩ wallNowMs (.ofInt 0) 0 movedStore =
      some after :=
  ⟨_, rfl⟩

private theorem emptied_left {after : StoredActivity}
    (ended : startupRetention tableOrder ⟨30, 0, 1⟩ (.ofInt 864000000) (.ofInt 0) 0 movedStore =
      some after) :
    emptied ∈ after.sessions.rows ∧ after.sessionEmpty emptied = true := by
  have now : clampedRetentionNowMs (.ofInt 864000000) movedStore.newestEventTs =
      .ofInt 864000000 := by
    rw [moved_newest]
    exact min_self _
  rcases run_effect (titles_removed_once moved_titled) now ended with
    ⟨sessions, routine, events, _⟩
  have pruned : storedRow 1 1 0 "mouse_move" ∈ (runStartupRetention tableOrder ⟨30, 0, 1⟩
      (.ofInt 864000000) (.ofInt 0) movedStore).events.rows := by
    rw [runStartupRetention, prune_events, Table.mem_delete_where]
    exact ⟨List.mem_cons_self, by decide +kernel⟩
  have noActions : after.recordRoutine.actionEvents.rows = [] := by
    rw [routine, runStartupRetention, prune_actions _ _ _ moved_recorded]
    rfl
  have noRecordings : after.recordRoutine.recordSessions.rows = [] := by
    rw [routine, runStartupRetention, prune_recordings]
    rfl
  constructor
  · rw [sessions]
    apply Table.mem_delete_where.mpr
    refine ⟨List.mem_cons_self, ?_⟩
    have own : ((runStartupRetention tableOrder ⟨30, 0, 1⟩ (.ofInt 864000000) (.ofInt 0)
        movedStore).events.rows.any fun event => event.sessionId == emptied.sessionId) = true :=
      List.any_eq_true.mpr ⟨_, pruned, rfl⟩
    rw [emptySession]
    change (emptied.endedAt.isSome && !((runStartupRetention tableOrder ⟨30, 0, 1⟩
      (.ofInt 864000000) (.ofInt 0) movedStore).events.rows.any fun event =>
        event.sessionId == emptied.sessionId) && _ && _) = false
    rw [own, Bool.not_true, Bool.and_false, Bool.false_and, Bool.false_and]
  · have bare : (after.events.rows.any fun event => event.sessionId == emptied.sessionId) =
        false := by
      rw [List.any_eq_false]
      intro later member same
      rcases (events later).mp member with ⟨row, listed, kept, made⟩
      rw [made, (retitled_columns _ _ row).2.1, beq_iff_eq] at same
      have still := kept.2 (by decide)
      rcases List.mem_cons.mp listed with first | second
      · rw [first] at still
        exact absurd still (by decide +kernel)
      · rw [List.mem_singleton.mp second] at same
        exact absurd same (by decide +kernel)
    rw [StoredActivity.sessionEmpty, emptySession, bare, noActions, noRecordings]
    rfl

/-- A second start sweeps the session the first one emptied; and behind a wall clock that ran
on, events older than the window stay. -/
theorem second_start_sweeps :
    (¬∀ (engine : SqlEngine) (days : RetentionDays) (wallNowMs newest : I64)
        (store : StoredActivity), store.newestEventTs = some newest → ActionsRecorded store →
      (∀ row ∈ store.events.rows, TitledOnce row.payload) →
        ∀ performedAt fuel after,
          startupRetention engine days wallNowMs performedAt fuel store = some after →
            ∀ performedAt fuel again, startupRetention engine days wallNowMs performedAt fuel
              after = some again → again = after) ∧
    ¬∀ (engine : SqlEngine) (days : RetentionDays) (wallNowMs newest : I64)
        (store : StoredActivity), store.newestEventTs = some newest → ActionsRecorded store →
      (∀ row ∈ store.events.rows, TitledOnce row.payload) → newest ≤ wallNowMs →
        ∀ performedAt fuel after,
          startupRetention engine days wallNowMs performedAt fuel store = some after →
            ∀ row ∈ after.events.rows,
              wallNowMs.val - windowMs days.retentionDays ≤ row.ts.val := by
  constructor
  · intro claimed
    rcases moved_ends (.ofInt 864000000) with ⟨after, ended⟩
    have left := emptied_left ended
    have once := titles_removed_once moved_titled
    have now := congrArg (clampedRetentionNowMs (.ofInt 864000000)) moved_newest
    have settled := run_settles once moved_recorded now ended
    have again := congrArg (clampedRetentionNowMs (.ofInt 864000000))
      (run_newest once moved_newest ended)
    have second := @run_settled tableOrder ⟨30, 0, 1⟩ _ (.ofInt 0) _ after settled again
    have same := claimed tableOrder ⟨30, 0, 1⟩ (.ofInt 864000000) (.ofInt 864000000) movedStore
      moved_newest moved_recorded moved_titled (.ofInt 0) 0 after ended (.ofInt 0) 1 _ second.1
    rw [← same] at left
    have kept := (Table.mem_delete_where.mp left.1).2
    rw [← same] at kept
    exact Bool.false_ne_true (kept.symm.trans left.2)
  · intro claimed
    rcases moved_ends (.ofInt 4320000000) with ⟨after, ended⟩
    have newest := run_newest (titles_removed_once moved_titled) moved_newest ended
    rcases (newest_event_ts_iff.mp newest).1 with ⟨row, member, stamp⟩
    have recent := claimed tableOrder ⟨30, 0, 1⟩ (.ofInt 4320000000) (.ofInt 864000000) movedStore
      moved_newest moved_recorded moved_titled (by decide) (.ofInt 0) 0 after ended row member
    rw [stamp] at recent
    exact absurd recent (by decide)

end MovedOut

end Gilbreth.App
