import Gilbreth.Library.OwnedCounts
import Gilbreth.Store.SelectorIdentity

/-!
# The actions and the selectors they name

Beside the tables stands what the batches did: the actions they stored, and for each hash
whether a named action was interned since its row is there. A row inserted counts on its
recording and names the one selector with the hash of its path.
-/

set_option autoImplicit false

namespace Gilbreth.Store

open Gilbreth.Core

section History

variable [Externals] [StoreExternals]

/-- What the committed batches did so far. -/
structure ActionHistory where
  stored : List StampedAction
  named : String → Bool

def ActionHistory.empty : ActionHistory := ⟨[], fun _ => false⟩

/-- The action comes as far as its selector. -/
def internsSelector (fault : Nat → Option ActionFault) (position : Nat) (action : StampedAction)
    (db : Database) : Bool :=
  db.recordingIsOpen action.recordSessionId &&
    hopsValueFree action.action.selectorPath.hops && (fault position).all ActionFault.interned

/-- A hash whose row is not there yet starts over. -/
def ActionHistory.intern (history : ActionHistory) (db : Database) (action : StampedAction) :
    ActionHistory :=
  let pathHash := selectorPathHashV1 action.action.selectorPath
  { history with
    named := Function.update history.named pathHash
      (action.hasName || (db.selectorOf pathHash).isSome && history.named pathHash) }

def ActionHistory.store (history : ActionHistory) (action : StampedAction) : ActionHistory :=
  { history with stored := history.stored ++ [action] }

def ActionHistory.row (history : ActionHistory) (fault : Nat → Option ActionFault)
    (position : Nat) (action : StampedAction) (before after : Database × InsertReport) :
    ActionHistory :=
  let interned :=
    if internsSelector fault position action before.1 then history.intern before.1 action
    else history
  if before.2.inserted < after.2.inserted then interned.store action else interned

/-- The history after a batch that is committed. -/
def ActionHistory.rows (fault : Nat → Option ActionFault) :
    Nat → List StampedAction → Database × InsertReport → ActionHistory → ActionHistory
  | _, [], _, history => history
  | position, action :: rest, progress, history =>
      match insertActionRow fault position action progress with
      | .error _ => history
      | .ok after =>
          rows fault (position + 1) rest after (history.row fault position action progress after)

def ActionsCounted (db : Database) : Prop :=
  Table.Counted ActionEventRow.recordSessionId RecordSessionRow.actionCount
    db.activity.recordRoutine.recordSessions db.activity.recordRoutine.actionEvents

/-- The references hold, a hash has one row at most, an action stored names the row with the
hash of its path, and a row knows whether a name was seen. -/
structure SelectorsInterned (db : Database) (history : ActionHistory) : Prop where
  references : ForeignKeys db.activity
  distinct : (db.activity.recordRoutine.selectorPaths.rows.map SelectorPathRow.pathHash).Nodup
  interned : ∀ row ∈ db.activity.recordRoutine.actionEvents.rows, ∃ action ∈ history.stored,
    ∃ path ∈ db.activity.recordRoutine.selectorPaths.rows,
      path.pathHash = selectorPathHashV1 action.action.selectorPath ∧
        row = actionRow action path.selectorId
  named : ∀ path ∈ db.activity.recordRoutine.selectorPaths.rows,
    path.hasName = history.named path.pathHash

theorem SelectorsInterned.empty : SelectorsInterned .empty .empty where
  references := .empty
  distinct := List.nodup_nil
  interned _ member := absurd member List.not_mem_nil
  named _ member := absurd member List.not_mem_nil

end History

section Interning

variable [Externals] [StoreExternals]

theorem intern_selector_frame (db : Database) (action : StampedAction) :
    ∃ paths sequence, (db.internSelector action).2 =
      { db with activity.recordRoutine.selectorPaths := paths, sqliteSequence := sequence } := by
  unfold Database.internSelector
  dsimp only
  split
  · split_ifs
    · exact ⟨_, _, rfl⟩
    · exact ⟨_, _, rfl⟩
  · exact ⟨_, _, rfl⟩

omit [Externals] [StoreExternals] in
theorem hash_free_of_missing {db : Database} {pathHash : String}
    (missing : db.selectorOf pathHash = none) {path : SelectorPathRow}
    (listed : path ∈ db.activity.recordRoutine.selectorPaths.rows) : path.pathHash ≠ pathHash := by
  unfold Database.selectorOf at missing
  have differs := List.find?_eq_none.mp missing path listed
  intro same
  exact differs (beq_iff_eq.mpr same)

variable {db : Database} {history : ActionHistory} (action : StampedAction)

theorem intern_selector_keeps_row {path : SelectorPathRow}
    (listed : path ∈ db.activity.recordRoutine.selectorPaths.rows) :
    ∃ later ∈ (db.internSelector action).2.activity.recordRoutine.selectorPaths.rows,
      later.selectorId = path.selectorId ∧ later.pathHash = path.pathHash := by
  cases found : db.selectorOf (selectorPathHashV1 action.action.selectorPath) with
  | some row =>
      rw [(intern_selector_found found).2]
      exact ⟨_, List.mem_map_of_mem listed, name_selector_id action path,
        name_selector_hash action path⟩
  | none =>
      have ⟨row, _, _, _, _, rows⟩ := intern_selector_missing found
      rw [rows]
      exact ⟨path, List.mem_append_left _ listed, rfl, rfl⟩

theorem intern_selector_references (references : ForeignKeys db.activity) :
    ForeignKeys (db.internSelector action).2.activity := by
  have ⟨paths, sequence, frame⟩ := intern_selector_frame db action
  constructor
  · rw [frame]
    exact references.eventSession
  · rw [frame]
    exact references.recordSessionSession
  · rw [frame]
    exact references.actionSession
  · intro stored listed selectorId selected
    have before : stored ∈ db.activity.recordRoutine.actionEvents.rows := by
      rw [frame] at listed
      exact listed
    have ⟨path, present, same⟩ := references.actionSelector stored before selectorId selected
    have ⟨later, there, again, _⟩ := intern_selector_keeps_row action present
    exact ⟨later, there, again.trans same⟩
  · rw [frame]
    exact references.actionRecordSession

theorem intern_selector_distinct
    (distinct : (db.activity.recordRoutine.selectorPaths.rows.map
      SelectorPathRow.pathHash).Nodup) :
    ((db.internSelector action).2.activity.recordRoutine.selectorPaths.rows.map
      SelectorPathRow.pathHash).Nodup := by
  cases found : db.selectorOf (selectorPathHashV1 action.action.selectorPath) with
  | some row =>
      have hashes : SelectorPathRow.pathHash ∘ nameSelector action =
          SelectorPathRow.pathHash := by
        funext path
        exact name_selector_hash action path
      rw [(intern_selector_found found).2, List.map_map, hashes]
      exact distinct
  | none =>
      have ⟨row, hashed, _, _, _, rows⟩ := intern_selector_missing found
      rw [rows, List.map_append, List.map_singleton, hashed]
      apply List.nodup_append.mpr
      refine ⟨distinct, List.nodup_singleton _, ?_⟩
      intro pathHash known other single
      have ⟨path, listed, same⟩ := List.mem_map.mp known
      rw [List.mem_singleton.mp single, ← same]
      exact hash_free_of_missing found listed

theorem intern_selector_named
    (named : ∀ path ∈ db.activity.recordRoutine.selectorPaths.rows,
      path.hasName = history.named path.pathHash) :
    ∀ path ∈ (db.internSelector action).2.activity.recordRoutine.selectorPaths.rows,
      path.hasName = (history.intern db action).named path.pathHash := by
  cases found : db.selectorOf (selectorPathHashV1 action.action.selectorPath) with
  | some row =>
      rw [(intern_selector_found found).2]
      intro later listed
      rcases List.mem_map.mp listed with ⟨path, present, same⟩
      have before := named path present
      rw [← same, name_selector_hash]
      by_cases own : path.pathHash = selectorPathHashV1 action.action.selectorPath
      · rw [own] at before
        cases flag : action.hasName with
        | true => simp [nameSelector, ActionHistory.intern, own, flag]
        | false => simp [nameSelector, ActionHistory.intern, found, own, flag, before]
      · simp [nameSelector, ActionHistory.intern, own, before]
  | none =>
      rcases intern_selector_missing found with ⟨row, hashed, flag, _, _, rows⟩
      rw [rows]
      intro path listed
      cases List.mem_append.mp listed with
      | inl present =>
          have other := hash_free_of_missing found present
          simp [ActionHistory.intern, other, named path present]
      | inr single =>
          rw [List.mem_singleton.mp single]
          simp [ActionHistory.intern, found, hashed, flag]

theorem SelectorsInterned.intern (held : SelectorsInterned db history) :
    SelectorsInterned (db.internSelector action).2 (history.intern db action) where
  references := intern_selector_references action held.references
  distinct := intern_selector_distinct action held.distinct
  interned := by
    intro stored listed
    have ⟨paths, sequence, frame⟩ := intern_selector_frame db action
    have before : stored ∈ db.activity.recordRoutine.actionEvents.rows := by
      rw [frame] at listed
      exact listed
    have ⟨origin, given, path, present, hashed, same⟩ := held.interned stored before
    have ⟨later, there, again, rehashed⟩ := intern_selector_keeps_row action present
    exact ⟨origin, given, later, there, rehashed.trans hashed, again ▸ same⟩
  named := intern_selector_named action held.named

end Interning

section Inserting

def countAction (recording : RecordSessionRow) : RecordSessionRow :=
  { recording with actionCount := recording.actionCount + 1 }

/-- What an insert that succeeds does to the tables. -/
structure ActionInserted (row : ActionEventRow) (db after : Database) : Prop where
  session : row.sessionId ∈ db.sessionIds
  sessions : after.activity.sessions = db.activity.sessions
  events : after.activity.events = db.activity.events
  selectorPaths :
    after.activity.recordRoutine.selectorPaths = db.activity.recordRoutine.selectorPaths
  rows : after.activity.recordRoutine.actionEvents.rows =
    db.activity.recordRoutine.actionEvents.rows ++ [row]
  recordSessions : after.activity.recordRoutine.recordSessions =
    db.activity.recordRoutine.recordSessions.updateWhere
      (fun recording => recording.recordSessionId == row.recordSessionId) countAction fun _ => rfl

theorem insert_action_some {db after : Database} {row : ActionEventRow}
    (inserted : db.insertAction row = some after) : ActionInserted row db after := by
  unfold Database.insertAction at inserted
  split_ifs at inserted with session
  rcases Option.map_eq_some_iff.mp inserted with ⟨actions, fits, same⟩
  rw [← same]
  exact ⟨session, rfl, rfl, rfl, Table.insert_some_rows fits, rfl⟩

variable {db after : Database} {row : ActionEventRow}

theorem ActionsCounted.insert (counted : ActionsCounted db)
    (inserted : ActionInserted row db after) : ActionsCounted after := by
  unfold ActionsCounted
  rw [inserted.recordSessions]
  exact Table.Counted.insert counted inserted.rows fun _ => rfl

theorem counted_recording {recording : RecordSessionRow}
    (inserted : ActionInserted row db after)
    (listed : recording ∈ after.activity.recordRoutine.recordSessions.rows) :
    ∃ earlier ∈ db.activity.recordRoutine.recordSessions.rows,
      earlier.recordSessionId = recording.recordSessionId ∧
        earlier.sessionId = recording.sessionId := by
  rw [inserted.recordSessions] at listed
  have ⟨earlier, found, same⟩ := List.mem_map.mp listed
  rw [← same]
  refine ⟨earlier, found, ?_⟩
  split_ifs
  · exact ⟨rfl, rfl⟩
  · exact ⟨rfl, rfl⟩

theorem inserted_record_session_ids (inserted : ActionInserted row db after) :
    after.recordSessionIds = db.recordSessionIds := by
  unfold Database.recordSessionIds
  rw [inserted.recordSessions]
  exact Table.keys_update_where _ _ _ _

theorem insert_action_references (references : ForeignKeys db.activity)
    (recorded : row.recordSessionId ∈ db.recordSessionIds)
    (selected : ∀ selectorId ∈ row.selectorId,
      ∃ path ∈ db.activity.recordRoutine.selectorPaths.rows, path.selectorId = selectorId)
    (inserted : ActionInserted row db after) : ForeignKeys after.activity where
  eventSession := by
    rw [inserted.events, inserted.sessions]
    exact references.eventSession
  recordSessionSession := by
    intro recording listed
    have ⟨earlier, found, _, same⟩ := counted_recording inserted listed
    rw [inserted.sessions, ← same]
    exact references.recordSessionSession earlier found
  actionSession := by
    intro action listed
    rw [inserted.rows] at listed
    rw [inserted.sessions]
    cases List.mem_append.mp listed with
    | inl earlier => exact references.actionSession action earlier
    | inr single =>
        rw [List.mem_singleton.mp single]
        exact List.mem_map.mp inserted.session
  actionSelector := by
    intro action listed
    rw [inserted.rows] at listed
    rw [inserted.selectorPaths]
    cases List.mem_append.mp listed with
    | inl earlier => exact references.actionSelector action earlier
    | inr single =>
        rw [List.mem_singleton.mp single]
        exact selected
  actionRecordSession := by
    intro action listed
    rw [inserted.rows] at listed
    apply List.mem_map.mp
    change action.recordSessionId ∈ after.recordSessionIds
    rw [inserted_record_session_ids inserted]
    cases List.mem_append.mp listed with
    | inl earlier => exact List.mem_map.mpr (references.actionRecordSession action earlier)
    | inr single =>
        rw [List.mem_singleton.mp single]
        exact recorded

variable [Externals] [StoreExternals] {history : ActionHistory}

theorem SelectorsInterned.insert (held : SelectorsInterned db history)
    {action : StampedAction} (recorded : action.recordSessionId ∈ db.recordSessionIds)
    {path : SelectorPathRow} (listed : path ∈ db.activity.recordRoutine.selectorPaths.rows)
    (hashed : path.pathHash = selectorPathHashV1 action.action.selectorPath)
    (inserted : ActionInserted (actionRow action path.selectorId) db after) :
    SelectorsInterned after (history.store action) where
  references := by
    apply insert_action_references held.references recorded _ inserted
    intro selectorId own
    exact ⟨path, listed, Option.some.inj own⟩
  distinct := by
    rw [inserted.selectorPaths]
    exact held.distinct
  interned := by
    intro row stored
    rw [inserted.rows] at stored
    rw [inserted.selectorPaths]
    cases List.mem_append.mp stored with
    | inl earlier =>
        have ⟨origin, given, rest⟩ := held.interned row earlier
        exact ⟨origin, List.mem_append_left _ given, rest⟩
    | inr single =>
        exact ⟨action, List.mem_append_right _ (List.mem_singleton_self action), path, listed,
          hashed, List.mem_singleton.mp single⟩
  named := by
    rw [inserted.selectorPaths]
    exact held.named

end Inserting

section Batches

theorem recording_is_listed {db : Database} {recordSessionId : Int}
    (running : db.recordingIsOpen recordSessionId = true) :
    recordSessionId ∈ db.recordSessionIds := by
  unfold Database.recordingIsOpen at running
  cases found : db.activity.recordRoutine.recordSessions.rows.find? fun row =>
      row.recordSessionId == recordSessionId with
  | none =>
      rw [found] at running
      cases running
  | some row =>
      have own := List.find?_some found
      exact List.mem_map.mpr ⟨row, List.mem_of_find?_eq_some found, eq_of_beq own⟩

variable [Externals] [StoreExternals] {fault : Nat → Option ActionFault} {position : Nat}
  {action : StampedAction} {progress after : Database × InsertReport} {history : ActionHistory}

theorem insert_action_row_cases
    (inserted : insertActionRow fault position action progress = .ok after) :
    (internsSelector fault position action progress.1 = false ∧
        after = (progress.1, progress.2.skip)) ∨
      (internsSelector fault position action progress.1 = true ∧
        after = ((progress.1.internSelector action).2, progress.2.skip)) ∨
      (internsSelector fault position action progress.1 = true ∧
        progress.1.recordingIsOpen action.recordSessionId = true ∧
        (progress.1.internSelector action).2.insertAction
          (actionRow action (progress.1.internSelector action).1) = some after.1 ∧
        after.2 = progress.2.insert) := by
  unfold insertActionRow at inserted
  dsimp only at inserted
  unfold internsSelector
  by_cases running : progress.1.recordingIsOpen action.recordSessionId = true
  · by_cases clean : hopsValueFree action.action.selectorPath.hops = true
    · rw [running, clean] at inserted ⊢
      simp only [Bool.not_true, Bool.false_eq_true, if_false, Bool.true_and] at inserted ⊢
      cases met : fault position with
      | some failure =>
          rw [met] at inserted
          dsimp only at inserted
          split_ifs at inserted with _ reached
          · exact Or.inr (Or.inl ⟨reached, (Except.ok.inj inserted).symm⟩)
          · exact Or.inl ⟨Bool.eq_false_iff.mpr reached, (Except.ok.inj inserted).symm⟩
      | none =>
          rw [met] at inserted
          dsimp only at inserted
          split at inserted
          · rename_i db stored
            rw [← Except.ok.inj inserted]
            exact Or.inr (Or.inr ⟨rfl, trivial, stored, rfl⟩)
          · exact Or.inr (Or.inl ⟨rfl, (Except.ok.inj inserted).symm⟩)
    · rw [running, Bool.eq_false_iff.mpr clean] at inserted ⊢
      exact Or.inl ⟨rfl, (Except.ok.inj inserted).symm⟩
  · rw [Bool.eq_false_iff.mpr running] at inserted ⊢
    exact Or.inl ⟨rfl, (Except.ok.inj inserted).symm⟩

theorem insert_action_row_interned (held : SelectorsInterned progress.1 history)
    (inserted : insertActionRow fault position action progress = .ok after) :
    SelectorsInterned after.1 (history.row fault position action progress after) := by
  unfold ActionHistory.row
  rcases insert_action_row_cases inserted with
    ⟨stopped, same⟩ | ⟨reached, same⟩ | ⟨reached, running, stored, report⟩
  · rw [stopped, same]
    simp only [Bool.false_eq_true, if_false, InsertReport.skip, Nat.lt_irrefl]
    exact held
  · rw [reached, same]
    simp only [if_true, InsertReport.skip, Nat.lt_irrefl, if_false]
    exact held.intern action
  · rw [reached, report]
    simp only [if_true, InsertReport.insert, Nat.lt_succ_self]
    have found := interned_row progress.1 action
    have ⟨path, stands, own⟩ := Option.map_eq_some_iff.mp found
    have ⟨listed, hashed⟩ := selector_of_some stands
    have recorded := recording_is_listed running
    have ⟨paths, sequence, frame⟩ := intern_selector_frame progress.1 action
    rw [← own] at stored
    apply (held.intern action).insert _ listed hashed (insert_action_some stored)
    rw [frame]
    exact recorded

theorem insert_action_row_counted (counted : ActionsCounted progress.1)
    (inserted : insertActionRow fault position action progress = .ok after) :
    ActionsCounted after.1 := by
  have ⟨paths, sequence, frame⟩ := intern_selector_frame progress.1 action
  have between : ActionsCounted (progress.1.internSelector action).2 := by
    rw [frame]
    exact counted
  rcases insert_action_row_cases inserted with
    ⟨_, same⟩ | ⟨_, same⟩ | ⟨_, _, stored, _⟩
  · rw [same]
    exact counted
  · rw [same]
    exact between
  · exact between.insert (insert_action_some stored)

theorem insert_rows_interned {batch : List StampedAction}
    (held : SelectorsInterned progress.1 history)
    (inserted : insertRows (insertActionRow fault) position batch progress = .ok after) :
    SelectorsInterned after.1 (ActionHistory.rows fault position batch progress history) := by
  induction batch generalizing position progress history with
  | nil => exact Except.ok.inj inserted ▸ held
  | cons action rest induction =>
      rw [insertRows] at inserted
      rw [ActionHistory.rows]
      cases first : insertActionRow fault position action progress with
      | error error =>
          rw [first] at inserted
          cases inserted
      | ok next =>
          rw [first] at inserted
          exact induction (insert_action_row_interned held first) inserted

theorem insert_actions_keeps {faults : BatchFaults ActionFault} {batch : List StampedAction}
    {db : Database} (held : SelectorsInterned db history)
    (inserted : insertActions faults batch db = .ok after) :
    (ActionsCounted db → ActionsCounted after.1) ∧
      SelectorsInterned after.1
        (ActionHistory.rows faults.row 0 batch (db, ⟨0, 0⟩) history) := by
  constructor
  · intro counted
    apply insert_batch_keeps _ counted inserted
    intro action _ fault position progress after held inserted
    exact insert_action_row_counted held inserted
  · unfold insertActions insertBatch at inserted
    split_ifs at inserted with nothing
    · rw [List.isEmpty_iff.mp nothing]
      exact Except.ok.inj inserted ▸ held
    · cases begun : faults.begin with
      | some error =>
          rw [begun] at inserted
          cases inserted
      | none =>
          rw [begun] at inserted
          dsimp only at inserted
          split at inserted
          · cases inserted
          · rename_i done looped
            rw [(statement_ok inserted).2]
            exact insert_rows_interned held looped

end Batches

end Gilbreth.Store
