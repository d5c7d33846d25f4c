import Gilbreth.Store.WriterTimeline

/-!
# The repair at startup

An open ends every session and every recording a crash left open, after it has
turned the focus row into an event. A session is ended at its newest event; its
actions and recordings are not looked at, so they can be later than its end.
-/

set_option autoImplicit false

namespace Gilbreth.Store

open Gilbreth.Core

namespace Database

variable (db : Database)

/-- The focus row left behind, if the repair turns it into an event. -/
def recoverable (fault : Option StoreError) : Option OpenFocusRow :=
  db.openFocus.filter fun row =>
    fault.isNone && db.sessionEnded row.sessionId == some false &&
      decide (db.nextSeq row.sessionId ≤ I64.maximum.val)

/-- What the recovered event of a session is dated, if there is one. -/
def recoveredTs (fault : Option StoreError) (sessionId : Int) : Option I64 :=
  ((db.recoverable fault).filter fun row => row.sessionId == sessionId).map fun row =>
    max row.highWaterTs row.startedTs

def eventTimes (sessionId : Int) : List I64 :=
  (db.activity.events.rows.filter fun row => row.sessionId == sessionId).map EventRow.ts

/-- Where the open ends a session that is still open. -/
def orphanEnd (fault : Option StoreError) (row : SessionRow) : I64 :=
  max row.startedAt
    ((db.eventTimes row.sessionId ++ (db.recoveredTs fault row.sessionId).toList).max?.getD
      row.startedAt)

def positions : List (Int × I64) :=
  db.activity.events.rows.map EventRow.position ++
    db.activity.recordRoutine.actionEvents.rows.map ActionEventRow.position

/-- Nothing is left of the focus row: it was repaired, or discarded. -/
def FocusRemoved (fault discardFault : Option StoreError) : Prop :=
  db.openFocus = none ∨ discardFault = none ∨
    (fault = none ∧ ∀ row ∈ db.openFocus, db.sessionEnded row.sessionId = some false →
      db.nextSeq row.sessionId ≤ I64.maximum.val)

end Database

section FocusRow

variable {db : Database}

theorem le_newest {Value : Type} [LinearOrder Value] {values : List Value} {value : Value}
    (member : value ∈ values) (default : Value) : value ≤ values.max?.getD default := by
  cases newest : values.max? with
  | none => exact absurd member (List.max?_eq_none_iff.mp newest ▸ List.not_mem_nil)
  | some last => exact (List.max?_le_iff newest).mp le_rfl value member

theorem newest_le {Value : Type} [LinearOrder Value] {values : List Value} {default bound : Value}
    (each : ∀ value ∈ values, value ≤ bound) (fallback : default ≤ bound) :
    values.max?.getD default ≤ bound := by
  cases newest : values.max? with
  | none => exact fallback
  | some last => exact each last (List.max?_mem newest)

theorem recovered_position_fresh (db : Database) {row : OpenFocusRow}
    (fits : db.nextSeq row.sessionId ≤ I64.maximum.val) :
    (row.sessionId, u64ToI64
      (if db.nextSeq row.sessionId < 0 then u64Max else (db.nextSeq row.sessionId).toNat)) ∉
        db.positions := by
  intro taken
  have used : u64ToI64 (if db.nextSeq row.sessionId < 0 then u64Max
      else (db.nextSeq row.sessionId).toNat) ∈ db.sessionSeqs row.sessionId := by
    unfold Database.sessionSeqs
    rcases List.mem_append.mp taken with member | member
    · obtain ⟨event, stored, place⟩ := List.mem_map.mp member
      obtain ⟨session, seq⟩ := Prod.mk.inj place
      refine List.mem_append_left _
        (List.mem_map.mpr ⟨event, List.mem_filter.mpr ⟨stored, ?_⟩, seq⟩)
      exact beq_iff_eq.mpr session
    · obtain ⟨action, stored, place⟩ := List.mem_map.mp member
      obtain ⟨session, seq⟩ := Prod.mk.inj place
      refine List.mem_append_right _
        (List.mem_map.mpr ⟨action, List.mem_filter.mpr ⟨stored, ?_⟩, seq⟩)
      exact beq_iff_eq.mpr session
  have below : (u64ToI64 _).val ≤ ((db.sessionSeqs row.sessionId).map SatInt.val).max?.getD 0 :=
    le_newest (List.mem_map.mpr ⟨_, used, rfl⟩) 0
  have next : db.nextSeq row.sessionId =
      ((db.sessionSeqs row.sessionId).map SatInt.val).max?.getD 0 + 1 := rfl
  generalize ((db.sessionSeqs row.sessionId).map SatInt.val).max?.getD 0 = newest at below next
  rw [next] at below fits
  simp only [I64.maximum] at fits
  simp only [u64ToI64, I64.ofInt, SatInt.clamp, u64Max] at below
  split_ifs at below <;> omega

/-- What the repair leaves behind: the row, no row, or an event in its place. -/
inductive Repaired (fault discardFault : Option StoreError) (db : Database) : Database → Prop where
  | left (present : db.openFocus ≠ none) (unrecovered : db.recoverable fault = none)
      (stays : ¬db.FocusRemoved fault discardFault) : Repaired fault discardFault db db
  | discarded (unrecovered : db.recoverable fault = none)
      (removed : db.FocusRemoved fault discardFault) :
      Repaired fault discardFault db { db with openFocus := none }
  | recovered {row : OpenFocusRow} {event : EventEnvelope} {inserted : Database}
      (recovered : db.recoverable fault = some row)
      (removed : db.FocusRemoved fault discardFault)
      (added : db.insertEvent (.fromEnvelope event) = some inserted)
      (session : event.sessionId = row.sessionId)
      (ts : event.tsUnixMs = max row.highWaterTs row.startedTs)
      (fresh : (event.sessionId, u64ToI64 event.seq) ∉ db.positions) :
      Repaired fault discardFault db { inserted with openFocus := none }

theorem discard_cases {fault : Option StoreError} (discardFault : Option StoreError)
    {row : OpenFocusRow} (present : db.openFocus = some row)
    (unrecovered : db.recoverable fault = none)
    (failed : ¬(fault = none ∧ (db.sessionEnded row.sessionId = some false →
      db.nextSeq row.sessionId ≤ I64.maximum.val))) :
    Repaired fault discardFault db ((db.deleteOpenFocus discardFault).toOption.getD db) := by
  cases discardFault with
  | none => exact .discarded unrecovered (Or.inr (Or.inl rfl))
  | some error =>
      refine .left (by simp [present]) unrecovered ?_
      rintro (absent | impossible | ⟨faultless, fits⟩)
      · cases present.symm.trans absent
      · cases impossible
      · exact failed ⟨faultless, fits row present⟩

theorem insert_event_fits (row : EventRow) (session : row.sessionId ∈ db.sessionIds)
    (fresh : row.position ∉ db.positions) : ∃ inserted, db.insertEvent row = some inserted := by
  unfold Database.insertEvent
  rw [if_pos session]
  have free : row.position ∉ db.activity.events.rows.map EventRow.position :=
    fun taken => fresh (List.mem_append_left _ taken)
  unfold Table.insert?
  rw [dif_neg free]
  exact ⟨_, rfl⟩

theorem session_of_ended {sessionId : Int} {ended : Bool}
    (known : db.sessionEnded sessionId = some ended) :
    ∃ row ∈ db.activity.sessions.rows, row.sessionId = sessionId ∧ row.endedAt.isSome = ended := by
  obtain ⟨row, found, same⟩ := Option.map_eq_some_iff.mp known
  have matched := List.find?_some found
  rw [beq_iff_eq] at matched
  exact ⟨row, List.mem_of_find?_eq_some found, matched, same⟩

theorem without_focus (absent : db.openFocus = none) : { db with openFocus := none } = db := by
  rw [← absent]

theorem repair_absent {fault discardFault : Option StoreError} (absent : db.openFocus = none) :
    db.repairOrDiscard fault discardFault = db := by
  unfold Database.repairOrDiscard repairOpenFocus
  rw [absent]
  cases fault with
  | none => rfl
  | some error =>
      cases discardFault with
      | none => exact without_focus absent
      | some error => rfl

theorem repair_or_discard_cases (fault discardFault : Option StoreError) (db : Database) :
    Repaired fault discardFault db (db.repairOrDiscard fault discardFault) := by
  cases present : db.openFocus with
  | none =>
      rw [repair_absent present]
      have unrecovered : db.recoverable fault = none := by
        unfold Database.recoverable
        rw [present]
        rfl
      have discarded : Repaired fault discardFault db { db with openFocus := none } :=
        .discarded unrecovered (Or.inl present)
      rw [without_focus present] at discarded
      exact discarded
  | some row =>
      have recoverable : db.recoverable fault =
          if fault.isNone && db.sessionEnded row.sessionId == some false &&
            decide (db.nextSeq row.sessionId ≤ I64.maximum.val) then some row else none := by
        unfold Database.recoverable
        rw [present]
        exact Option.filter_some
      unfold Database.repairOrDiscard repairOpenFocus
      rw [present]
      dsimp only
      by_cases live : db.sessionEnded row.sessionId = some false
      · rw [if_neg (not_not.mpr live)]
        by_cases fits : db.nextSeq row.sessionId ≤ I64.maximum.val
        · rw [if_neg (not_lt.mpr fits)]
          obtain ⟨session, stored, same, _⟩ := session_of_ended live
          have fresh := recovered_position_fresh db fits
          obtain ⟨inserted, added⟩ := insert_event_fits
            (.fromEnvelope (recoveredEvent row (if db.nextSeq row.sessionId < 0 then u64Max
              else (db.nextSeq row.sessionId).toNat)))
            (List.mem_map.mpr ⟨session, stored, same⟩) fresh
          rw [added]
          cases fault with
          | none =>
              refine .recovered ?_ (Or.inr (Or.inr ⟨rfl, ?_⟩)) added rfl rfl fresh
              · rw [recoverable, live, decide_eq_true fits]
                rfl
              · intro other same _
                obtain rfl := Option.some.inj (present.symm.trans same)
                exact fits
          | some error =>
              exact discard_cases discardFault present recoverable fun failed => by cases failed.1
        · rw [if_pos (not_le.mp fits)]
          refine discard_cases discardFault present ?_ fun failed => fits (failed.2 live)
          rw [recoverable, decide_eq_false fits, Bool.and_false]
          rfl
      · rw [if_pos live]
        have unrecovered : db.recoverable fault = none := by
          rw [recoverable, beq_eq_false_iff_ne.mpr live, Bool.and_false, Bool.false_and]
          rfl
        cases fault with
        | none =>
            refine .discarded unrecovered (Or.inr (Or.inr ⟨rfl, ?_⟩))
            intro other same ended
            obtain rfl := Option.some.inj (present.symm.trans same)
            exact absurd ended live
        | some error =>
            exact discard_cases discardFault present unrecovered fun failed => by cases failed.1

end FocusRow

section Orphans

variable {db repaired : Database} {fault discardFault : Option StoreError}

theorem Repaired.orphan_end (outcome : Repaired fault discardFault db repaired) (row : SessionRow) :
    max row.startedAt ((repaired.newestEventTs row.sessionId).getD row.startedAt) =
      db.orphanEnd fault row := by
  unfold Database.orphanEnd Database.newestEventTs
  congr 3
  cases outcome with
  | left present unrecovered stays =>
      unfold Database.recoveredTs
      rw [unrecovered]
      exact (List.append_nil _).symm
  | discarded unrecovered removed =>
      unfold Database.recoveredTs
      rw [unrecovered]
      exact (List.append_nil _).symm
  | @recovered row_left event inserted recovered removed added session ts fresh =>
      unfold Database.insertEvent at added
      split_ifs at added
      obtain ⟨events, fits, rfl⟩ := Option.map_eq_some_iff.mp added
      obtain ⟨own, _, dated, _⟩ := from_envelope_columns event
      have times : Database.recoveredTs db fault row.sessionId =
          if (row_left.sessionId == row.sessionId) = true then
            some (max row_left.highWaterTs row_left.startedTs) else none := by
        unfold Database.recoveredTs
        rw [recovered, Option.filter_some]
        split_ifs <;> rfl
      change ((events.rows.filter _).map _) = _
      rw [Table.insert_some_rows fits, List.filter_append, List.map_append, times]
      congr 1
      rw [List.filter_singleton, own, session]
      cases row_left.sessionId == row.sessionId with
      | true => exact congrArg (fun ts => [ts]) (dated.trans ts)
      | false => rfl

/-- Neither an action nor a recording of the session is later than where it is
ended. -/
def Database.OrphanCovered (db : Database) (fault : Option StoreError) (row : SessionRow) : Prop :=
  (∀ action ∈ db.activity.recordRoutine.actionEvents.rows, action.sessionId = row.sessionId →
    action.ts ≤ db.orphanEnd fault row) ∧
  ∀ recording ∈ db.activity.recordRoutine.recordSessions.rows,
    recording.sessionId = row.sessionId →
      recording.endedTs.getD recording.startedTs ≤ db.orphanEnd fault row

theorem Repaired.keeps (outcome : Repaired fault discardFault db repaired) :
    repaired.activity.sessions = db.activity.sessions ∧
      repaired.activity.recordRoutine = db.activity.recordRoutine := by
  cases outcome with
  | left present unrecovered stays => exact ⟨rfl, rfl⟩
  | discarded unrecovered removed => exact ⟨rfl, rfl⟩
  | recovered recovered removed added session ts fresh =>
      unfold Database.insertEvent at added
      split_ifs at added
      obtain ⟨events, _, rfl⟩ := Option.map_eq_some_iff.mp added
      exact ⟨rfl, rfl⟩

theorem Repaired.covered_by_iff (outcome : Repaired fault discardFault db repaired)
    (row : SessionRow) :
    row.span.CoveredBy repaired.timeline
        (max row.startedAt ((repaired.newestEventTs row.sessionId).getD row.startedAt)) ↔
      db.OrphanCovered fault row := by
  have actions := congrArg RecordRoutineTables.actionEvents outcome.keeps.2
  have recordings := congrArg RecordRoutineTables.recordSessions outcome.keeps.2
  constructor
  · rintro ⟨_, marks, ends⟩
    rw [outcome.orphan_end] at marks ends
    constructor
    · intro action stored own
      refine marks action.mark (List.mem_append_right _ ?_) own
      rw [actions]
      exact List.mem_map_of_mem stored
    · intro recording stored own
      refine ends recording.span ?_ own
      change _ ∈ repaired.activity.recordRoutine.recordSessions.rows.map _
      rw [recordings]
      exact List.mem_map_of_mem stored
  · rintro ⟨acted, recorded⟩
    refine ⟨le_max_left _ _, ?_, ?_⟩
    · intro mark member own
      rcases List.mem_append.mp member with event_mark | action_mark
      · obtain ⟨event, stored, rfl⟩ := List.mem_map.mp event_mark
        have among : event.ts ∈ repaired.eventTimes row.sessionId :=
          List.mem_map_of_mem (List.mem_filter.mpr ⟨stored, beq_iff_eq.mpr own⟩)
        exact (le_newest among row.startedAt).trans (le_max_right _ _)
      · rw [actions] at action_mark
        obtain ⟨action, stored, rfl⟩ := List.mem_map.mp action_mark
        rw [outcome.orphan_end]
        exact acted action stored own
    · intro span member own
      change span ∈ repaired.activity.recordRoutine.recordSessions.rows.map _ at member
      rw [recordings] at member
      obtain ⟨recording, stored, rfl⟩ := List.mem_map.mp member
      rw [outcome.orphan_end]
      exact recorded recording stored own

theorem Repaired.timeline (outcome : Repaired fault discardFault db repaired)
    (sound : db.timeline.Sound) :
    repaired.timeline.Sound ∧ (db.timeline.Covered → repaired.timeline.Covered) := by
  cases outcome with
  | left present unrecovered stays => exact ⟨sound, fun covered => covered⟩
  | discarded unrecovered removed => exact ⟨sound, fun covered => covered⟩
  | @recovered row_left event inserted recovered removed added session ts fresh =>
      obtain ⟨present, kept⟩ := Option.filter_eq_some_iff.mp recovered
      rw [Bool.and_eq_true, Bool.and_eq_true, beq_iff_eq] at kept
      obtain ⟨row, stored, same, unended⟩ := session_of_ended kept.1.2
      obtain ⟨sessions, recordings⟩ := (SameBooks.insert_event added).timeline
      unfold Database.insertEvent at added
      split_ifs at added with known
      obtain ⟨events, fits, rfl⟩ := Option.map_eq_some_iff.mp added
      obtain ⟨own, _, dated, _⟩ := from_envelope_columns event
      refine sound.add_event (EventRow.fromEnvelope event).mark sessions recordings ?_ rfl ?_ ?_
      · intro mark member
        change mark ∈ events.rows.map EventRow.mark ++ _ at member
        rw [Table.insert_some_rows fits, List.map_append, List.append_assoc] at member
        rcases List.mem_append.mp member with old | rest
        · exact Or.inl (List.mem_append_left _ old)
        · rcases List.mem_append.mp rest with new | old
          · exact Or.inr (List.mem_singleton.mp new)
          · exact Or.inl (List.mem_append_right _ old)
      · rw [session_ids_timeline]
        exact known
      · intro span member named
        obtain ⟨other, other_stored, rfl⟩ := List.mem_map.mp member
        have id : other.sessionId = row.sessionId :=
          named.trans ((own.trans session).trans same.symm)
        obtain rfl := db.activity.sessions.eq_of_key other_stored stored id
        exact Option.isNone_iff_eq_none.mp (Option.isSome_eq_false_iff.mp unended)

theorem finalize_orphan_sessions_timeline
    (finalized : db.finalizeOrphanSessions fault = .ok repaired) :
    repaired.timeline.sessions = db.timeline.sessions.map
        (SessionSpan.endAt (fun session => session.endedAt.isNone) fun session =>
          max session.startedAt ((db.newestEventTs session.sessionId).getD session.startedAt)) ∧
      repaired.timeline.marks = db.timeline.marks ∧
      repaired.timeline.recordings = db.timeline.recordings := by
  obtain ⟨_, rfl⟩ := statement_ok finalized
  refine ⟨?_, rfl, rfl⟩
  change List.map _ (List.map _ _) = List.map _ (List.map _ _)
  rw [List.map_map, List.map_map]
  apply List.map_congr_left
  intro row _
  change SessionRow.span (if row.endedAt.isNone = true then db.endOrphanSession row else row) = _
  split_ifs with unended
  · exact (if_pos unended).symm
  · exact (if_neg unended).symm

theorem finalize_orphan_record_sessions_timeline
    (finalized : db.finalizeOrphanRecordSessions fault = .ok repaired) :
    repaired.timeline.sessions = db.timeline.sessions ∧
      repaired.timeline.marks = db.timeline.marks ∧
      repaired.timeline.recordings = db.timeline.recordings.map
        (RecordingSpan.endAt (fun _ => true) fun recording =>
          (db.newestActionTs recording.recordSessionId).getD recording.startedTs) := by
  obtain ⟨_, rfl⟩ := statement_ok finalized
  exact ⟨rfl, rfl, end_recordings_timeline (fun _ => true)
    (fun recording => (db.newestActionTs recording.recordSessionId).getD recording.startedTs)
    (fun _ => rfl) fun _ => rfl⟩

end Orphans

section Opening

variable {store opened : Database} {readings : OpenReadings}

/-- How far an open got. -/
inductive OpenOutcome (readings : OpenReadings) (store : Database) :
    Database × Except StoreError Unit → Prop where
  | unnamed (metaRows : Table MetaRow.key) (error : StoreError)
      (failed : ¬(readings.uuidFault = none ∧ readings.createdFault = none)) :
      OpenOutcome readings store ({ store with metaRows := metaRows }, .error error)
  | repaired {named : Database} (error : StoreError)
      (naming : store.ensureMetaIdentity readings.uuidFault readings.createdFault
        readings.createdAt readings.dbUuid = (named, .ok ()))
      (failed : readings.sessionsFault ≠ none) :
      OpenOutcome readings store
        (named.repairOrDiscard readings.repairFault readings.discardFault, .error error)
  | sessionsEnded {named ended : Database} (error : StoreError)
      (naming : store.ensureMetaIdentity readings.uuidFault readings.createdFault
        readings.createdAt readings.dbUuid = (named, .ok ()))
      (sessions : (named.repairOrDiscard readings.repairFault
        readings.discardFault).finalizeOrphanSessions readings.sessionsFault = .ok ended) :
      OpenOutcome readings store (ended, .error error)
  | recordingsEnded {named ended recorded : Database} (error : StoreError)
      (naming : store.ensureMetaIdentity readings.uuidFault readings.createdFault
        readings.createdAt readings.dbUuid = (named, .ok ()))
      (sessions : (named.repairOrDiscard readings.repairFault
        readings.discardFault).finalizeOrphanSessions readings.sessionsFault = .ok ended)
      (recordings : ended.finalizeOrphanRecordSessions readings.recordSessionsFault =
        .ok recorded) :
      OpenOutcome readings store (recorded, .error error)
  | opened {named ended recorded opened : Database}
      (naming : store.ensureMetaIdentity readings.uuidFault readings.createdFault
        readings.createdAt readings.dbUuid = (named, .ok ()))
      (sessions : (named.repairOrDiscard readings.repairFault
        readings.discardFault).finalizeOrphanSessions readings.sessionsFault = .ok ended)
      (recordings : ended.finalizeOrphanRecordSessions readings.recordSessionsFault =
        .ok recorded)
      (requests : recorded.reconcileConfirmedRecordRequests readings.reconcileFault
        readings.reconciledAt = .ok opened) :
      OpenOutcome readings store (opened, .ok ())

theorem ensure_meta_identity_cases (readings : OpenReadings) (store : Database) :
    let result := store.ensureMetaIdentity readings.uuidFault readings.createdFault
      readings.createdAt readings.dbUuid
    (∃ metaRows, result.1 = { store with metaRows := metaRows }) ∧
      (result.2 = .ok () ↔ readings.uuidFault = none ∧ readings.createdFault = none) := by
  unfold Database.ensureMetaIdentity Database.insertMeta
  cases readings.uuidFault with
  | some error => exact ⟨⟨_, rfl⟩, by simp [statement]⟩
  | none =>
      cases readings.createdFault with
      | some error => exact ⟨⟨_, rfl⟩, by simp [statement]⟩
      | none => exact ⟨⟨_, rfl⟩, by simp [statement]⟩

theorem open_store_outcome (readings : OpenReadings) (store : Database) :
    OpenOutcome readings store (store.openStore readings) := by
  obtain ⟨⟨metaRows, named⟩, succeeds⟩ := ensure_meta_identity_cases readings store
  unfold Database.openStore
  split
  · rename_i db error failed
    rw [failed] at named succeeds
    obtain rfl : db = _ := named
    exact .unnamed metaRows error fun faultless => by cases succeeds.mpr faultless
  · rename_i db naming
    dsimp only
    split
    · rename_i error failed
      refine .repaired error naming fun faultless => ?_
      rw [faultless] at failed
      cases failed
    · rename_i ended sessions
      split
      · exact .sessionsEnded _ naming sessions
      · rename_i recorded recordings
        split
        · exact .recordingsEnded _ naming sessions recordings
        · exact .opened naming sessions recordings (by assumption)

/-- Every session left open is covered where it is ended. -/
def Database.OrphansCovered (db : Database) (fault : Option StoreError) : Prop :=
  ∀ row ∈ db.activity.sessions.rows, row.endedAt = none → db.OrphanCovered fault row

variable {named ended recorded : Database}

theorem sessions_ended_timeline (sound : store.timeline.Sound)
    (covered : store.timeline.Covered)
    (naming : store.ensureMetaIdentity readings.uuidFault readings.createdFault
      readings.createdAt readings.dbUuid = (named, .ok ()))
    (sessions : (named.repairOrDiscard readings.repairFault
      readings.discardFault).finalizeOrphanSessions readings.sessionsFault = .ok ended) :
    ended.timeline.Sound ∧
      (ended.timeline.Covered ↔ store.OrphansCovered readings.repairFault) ∧
      ∀ session ∈ ended.timeline.sessions, session.endedAt ≠ none := by
  obtain ⟨⟨metaRows, same⟩, _⟩ := ensure_meta_identity_cases readings store
  rw [naming] at same
  obtain rfl : named = _ := same
  have outcome := repair_or_discard_cases readings.repairFault readings.discardFault
    { store with metaRows := metaRows }
  obtain ⟨repaired_sound, repaired_covered⟩ := outcome.timeline sound
  obtain ⟨spans, marks, recordings⟩ := finalize_orphan_sessions_timeline sessions
  refine ⟨repaired_sound.end_sessions spans marks recordings,
    (Timeline.covered_end_sessions_iff (repaired_covered covered) spans marks recordings).trans ?_,
    ?_⟩
  · have rows := congrArg Table.rows outcome.keeps.1
    constructor
    · intro each row stored unended
      refine (outcome.covered_by_iff row).mp
        (each row.span ?_ (Option.isNone_iff_eq_none.mpr unended))
      exact List.mem_map_of_mem (rows ▸ stored)
    · intro each span member unended
      obtain ⟨row, stored, rfl⟩ := List.mem_map.mp member
      exact (outcome.covered_by_iff row).mpr
        (each row (rows ▸ stored) (Option.isNone_iff_eq_none.mp unended))
  · rw [spans]
    intro session member
    obtain ⟨span, stored, rfl⟩ := List.mem_map.mp member
    unfold SessionSpan.endAt
    split_ifs with unended
    · exact Option.some_ne_none _
    · exact fun impossible => unended (Option.isNone_iff_eq_none.mpr impossible)

theorem recordings_ended_timeline (sound : ended.timeline.Sound)
    (closed : ∀ session ∈ ended.timeline.sessions, session.endedAt ≠ none)
    {fault : Option StoreError}
    (recordings : ended.finalizeOrphanRecordSessions fault = .ok recorded) :
    recorded.timeline.Sound ∧ (recorded.timeline.Covered ↔ ended.timeline.Covered) ∧
      (∀ session ∈ recorded.timeline.sessions, session.endedAt ≠ none) ∧
      ∀ recording ∈ recorded.timeline.recordings, recording.endedTs ≠ none := by
  obtain ⟨spans, marks, ends⟩ := finalize_orphan_record_sessions_timeline recordings
  have newest : ∀ recording ∈ ended.timeline.recordings, ∀ mark ∈ ended.timeline.marks,
      mark.recordSessionId = some recording.recordSessionId →
        mark.ts ≤ (ended.newestActionTs recording.recordSessionId).getD recording.startedTs := by
    intro recording _ mark member acts
    rcases List.mem_append.mp member with event_mark | action_mark
    · obtain ⟨event, _, rfl⟩ := List.mem_map.mp event_mark
      cases acts
    · obtain ⟨action, stored, rfl⟩ := List.mem_map.mp action_mark
      have among : action.ts ∈ (ended.activity.recordRoutine.actionEvents.rows.filter fun row =>
          row.recordSessionId == recording.recordSessionId).map ActionEventRow.ts :=
        List.mem_map_of_mem
          (List.mem_filter.mpr ⟨stored, beq_iff_eq.mpr (Option.some.inj acts)⟩)
      exact le_newest among recording.startedTs
  refine ⟨?_, ⟨fun covered => covered.of_end_recordings spans marks ends, fun covered => ?_⟩,
    ?_, ?_⟩
  · refine sound.end_recordings spans marks ends ?_
    intro recording stored _ mark member acts
    exact (newest recording stored mark member acts).trans (le_max_right _ _)
  · refine covered.end_recordings spans marks ends ?_
    intro recording stored unended session member own ended_at ended_then
    obtain ⟨_, earlier, recorded_by⟩ := covered session member ended_at ended_then
    have started := recorded_by recording stored own.symm
    rw [unended] at started
    refine max_le started (newest_le ?_ started)
    intro ts member_ts
    obtain ⟨action, acted, rfl⟩ := List.mem_map.mp member_ts
    obtain ⟨stored_action, matched⟩ := List.mem_filter.mp acted
    have acts : action.mark.recordSessionId = some recording.recordSessionId :=
      congrArg some (beq_iff_eq.mp matched)
    have marked : action.mark ∈ ended.timeline.marks :=
      List.mem_append_right _ (List.mem_map_of_mem stored_action)
    exact earlier action.mark marked
      ((sound.markShares action.mark marked recording stored acts).trans own.symm)
  · rw [spans]
    exact closed
  · rw [ends]
    intro recording member
    obtain ⟨span, stored, rfl⟩ := List.mem_map.mp member
    unfold RecordingSpan.endAt
    split_ifs with unended
    · exact Option.some_ne_none _
    · exact fun impossible => unended (Option.isNone_iff_eq_none.mpr impossible)

def OpenReadings.EndsSessions (readings : OpenReadings) : Prop :=
  (readings.uuidFault = none ∧ readings.createdFault = none) ∧ readings.sessionsFault = none

theorem ends_sessions_of
    (naming : store.ensureMetaIdentity readings.uuidFault readings.createdFault
      readings.createdAt readings.dbUuid = (named, .ok ()))
    (sessions : (named.repairOrDiscard readings.repairFault
      readings.discardFault).finalizeOrphanSessions readings.sessionsFault = .ok ended) :
    readings.EndsSessions := by
  have succeeds := (ensure_meta_identity_cases readings store).2
  rw [naming] at succeeds
  exact ⟨succeeds.mp rfl, (statement_ok sessions).1⟩

/-- An open keeps every session covered exactly when it covers those it ends,
however far it gets. -/
theorem open_store_timeline (sound : store.timeline.Sound) (covered : store.timeline.Covered)
    (readings : OpenReadings) :
    let result := store.openStore readings
    result.1.timeline.Sound ∧
      (result.1.timeline.Covered ↔
        (readings.EndsSessions → store.OrphansCovered readings.repairFault)) ∧
      (result.2 = .ok () → readings.EndsSessions ∧
        (∀ session ∈ result.1.timeline.sessions, session.endedAt ≠ none) ∧
        ∀ recording ∈ result.1.timeline.recordings, recording.endedTs ≠ none) := by
  have outcome := open_store_outcome readings store
  generalize store.openStore readings = result at outcome
  cases outcome with
  | unnamed metaRows error failed =>
      refine ⟨sound, iff_of_true covered fun ends => absurd ends.1 failed, fun impossible => ?_⟩
      cases impossible
  | @repaired named error naming failed =>
      obtain ⟨⟨metaRows, same⟩, _⟩ := ensure_meta_identity_cases readings store
      rw [naming] at same
      obtain rfl : named = _ := same
      obtain ⟨repaired_sound, repaired_covered⟩ := (repair_or_discard_cases readings.repairFault
        readings.discardFault { store with metaRows := metaRows }).timeline sound
      refine ⟨repaired_sound, iff_of_true (repaired_covered covered) fun ends =>
        absurd ends.2 failed, fun impossible => ?_⟩
      cases impossible
  | sessionsEnded error naming sessions =>
      obtain ⟨ended_sound, ended_covered, _⟩ :=
        sessions_ended_timeline sound covered naming sessions
      refine ⟨ended_sound, ended_covered.trans ⟨fun each _ => each, fun each =>
        each (ends_sessions_of naming sessions)⟩, fun impossible => ?_⟩
      cases impossible
  | recordingsEnded error naming sessions recordings =>
      obtain ⟨ended_sound, ended_covered, closed⟩ :=
        sessions_ended_timeline sound covered naming sessions
      obtain ⟨recorded_sound, recorded_covered, _⟩ :=
        recordings_ended_timeline ended_sound closed recordings
      refine ⟨recorded_sound, (recorded_covered.trans ended_covered).trans ⟨fun each _ => each,
        fun each => each (ends_sessions_of naming sessions)⟩, fun impossible => ?_⟩
      cases impossible
  | @opened named ended recorded opened naming sessions recordings requests =>
      obtain ⟨ended_sound, ended_covered, closed⟩ :=
        sessions_ended_timeline sound covered naming sessions
      obtain ⟨recorded_sound, recorded_covered, closed_then, stopped⟩ :=
        recordings_ended_timeline ended_sound closed recordings
      have same : opened.timeline = recorded.timeline := by
        obtain ⟨_, rfl⟩ := statement_ok requests
        rfl
      dsimp only
      rw [same]
      have reached := ends_sessions_of naming sessions
      exact ⟨recorded_sound, (recorded_covered.trans ended_covered).trans
        ⟨fun each _ => each, fun each => each reached⟩, fun _ => ⟨reached, closed_then, stopped⟩⟩

end Opening

section Lives

variable [Externals] [StoreExternals] (config : WriterConfig)

/-- What the timeline of the store is between two turns. -/
def Lifetime.OnTimeline : Lifetime → Prop
  | .closed store => store.timeline.Sound
  | .running state => state.OnTimeline

/-- The writer after its loop, with everything flushed. -/
def WriterState.drainedForStop (state : WriterState) (readings : ShutdownReadings) : WriterState :=
  (state.drainAndFlush config readings.drain).clearFocus readings.clearFault

/-- The session of the writer would not end before its start, or before its
recordings. -/
def WriterState.EndsInTime (state : WriterState) (endedAt : I64) : Prop :=
  ∀ session ∈ state.store.activity.sessions.rows,
    session.sessionId = state.sequencer.sessionId → session.startedAt ≤ endedAt ∧
      ∀ recording ∈ state.store.activity.recordRoutine.recordSessions.rows,
        recording.sessionId = session.sessionId →
          recording.endedTs.getD recording.startedTs ≤ endedAt

/-- The turn ends no session too early: a launch those a crash left open, a
clean stop its own. -/
def EndsCovered (life : Lifetime) (turn : LifetimeTurn) : Prop :=
  match life, turn with
  | .closed store, .launch readings _ =>
      readings.opening.EndsSessions → store.OrphansCovered readings.opening.repairFault
  | .running state, .stop readings =>
      readings.finalizeFault = none → readings.endSessionFault = none →
        (state.drainedForStop config readings).EndsInTime
          ((state.drainedForStop config readings).sequencer.timestampFor readings.endedAt)
  | _, _ => True

omit [StoreExternals] in
theorem launch_timeline {store : Database} (sound : store.timeline.Sound)
    (covered : store.timeline.Covered) (readings : LaunchReadings) (policy : Policy) :
    (launch readings policy store).OnTimeline ∧
      ((launch readings policy store).store.timeline.Covered ↔
        (readings.opening.EndsSessions → store.OrphansCovered readings.opening.repairFault)) := by
  obtain ⟨opened_sound, opened_covered, succeeds⟩ :=
    open_store_timeline sound covered readings.opening
  unfold launch
  split
  · rename_i opened error failed
    rw [failed] at opened_sound opened_covered
    exact ⟨opened_sound, opened_covered⟩
  · rename_i opened succeeded
    rw [succeeded] at opened_sound opened_covered succeeds
    obtain ⟨_, closed, stopped⟩ := succeeds rfl
    split
    · exact ⟨opened_sound, opened_covered⟩
    · rename_i created sessionId inserted
      obtain ⟨live, begun⟩ := create_session_timeline inserted opened_sound closed stopped
      refine ⟨⟨live, ?_, ?_⟩, begun.symm.trans opened_covered⟩ <;>
        exact fun _ none => absurd none List.not_mem_nil

omit [StoreExternals] in
/-- Ending the session after its recordings covers it exactly when it ends in
time: whatever was stamped is not after a timestamp the sequencer gives. -/
theorem end_session_covered_iff {state : WriterState} (onTimeline : state.OnTimeline)
    (covered : state.store.timeline.Covered) {instant : Instant} {finalized ended : Database}
    {finalizeFault endFault : Option StoreError}
    (recordings : state.store.finalizeOpenRecordSessions finalizeFault .appShutdown
      (state.sequencer.timestampFor instant) = .ok finalized)
    (session : finalized.endSession endFault state.sequencer.sessionId
      (state.sequencer.timestampFor instant) = .ok ended) :
    ended.timeline.Sound ∧
      (ended.timeline.Covered ↔ state.EndsInTime (state.sequencer.timestampFor instant)) := by
  obtain ⟨live, finalized_covered⟩ := finalize_record_sessions_timeline onTimeline.live recordings
    fun ts reached => reached.le_timestamp_for instant
  obtain ⟨spans, marks, ends⟩ := end_session_timeline session
  have sessions : finalized.timeline.sessions = state.store.timeline.sessions := by
    obtain ⟨_, rfl⟩ := statement_ok recordings
    rfl
  have stopped : finalized.timeline.recordings = state.store.timeline.recordings.map
      (RecordingSpan.endAt (fun _ => true) fun _ => state.sequencer.timestampFor instant) := by
    obtain ⟨_, rfl⟩ := statement_ok recordings
    exact end_recordings_timeline (fun _ => true) (fun _ => state.sequencer.timestampFor instant)
      (fun _ => rfl) fun _ => rfl
  refine ⟨live.toSound.end_sessions spans marks ends,
    (Timeline.covered_end_sessions_iff (finalized_covered covered) spans marks ends).trans ?_⟩
  rw [sessions]
  constructor
  · intro each row stored own
    obtain ⟨started, _, recorded⟩ :=
      each row.span (List.mem_map_of_mem stored) (beq_iff_eq.mpr own)
    refine ⟨started, fun recording found same => ?_⟩
    refine (recording.span.end_at_le_iff _).mp (recorded _ ?_ ?_)
    · rw [stopped]
      exact List.mem_map.mpr ⟨_, List.mem_map_of_mem found, rfl⟩
    · exact (recording.span.end_at_keeps _ _).2.1.trans same
  · intro each span member own
    obtain ⟨row, stored, rfl⟩ := List.mem_map.mp member
    obtain ⟨started, recorded⟩ := each row stored (beq_iff_eq.mp own)
    refine ⟨started, fun mark marked same => ?_, fun recording found same => ?_⟩
    · exact (live.reached mark marked (same.trans (beq_iff_eq.mp own))).le_timestamp_for instant
    · rw [stopped] at found
      obtain ⟨span, kept, rfl⟩ := List.mem_map.mp found
      obtain ⟨recording, found_row, rfl⟩ := List.mem_map.mp kept
      refine (recording.span.end_at_le_iff _).mpr (recorded recording found_row ?_)
      exact (recording.span.end_at_keeps _ _).2.1.symm.trans same

omit [Externals] [StoreExternals] in
theorem requested_timeline (fault : Option StoreError) (nowMs : I64)
    (candidateKind : Option String) (candidateJson : String) [StoreExternals] (db : Database) :
    (db.requested fault nowMs candidateKind candidateJson).timeline = db.timeline := by
  rcases requested_cases fault nowMs candidateKind candidateJson db with same | ⟨row, created⟩
  · rw [same]
  · obtain ⟨sessions, marks⟩ := created.frame.timeline
    have recordings := congrArg (fun table => table.rows.map RecordSessionRow.span)
      created.recordSessions
    change Timeline.mk _ _ _ = Timeline.mk _ _ _
    exact congr (congr (congrArg Timeline.mk sessions) recordings) marks

theorem shut_down_timeline {state : WriterState} (onTimeline : state.OnTimeline)
    (covered : state.store.timeline.Covered) (readings : ShutdownReadings) :
    (state.shutDown config readings).1.store.timeline.Sound ∧
      ((state.shutDown config readings).1.store.timeline.Covered ↔
        EndsCovered config (.running state) (.stop readings)) := by
  have stays : StaysOnTimeline state (state.drainedForStop config readings) :=
    (StaysOnTimeline.drain_and_flush config state readings.drain).trans (.clear_focus _ _)
  obtain ⟨drained, kept⟩ := stays onTimeline
  have drained_covered := kept covered
  unfold EndsCovered WriterState.shutDown WriterState.endRun
  dsimp only
  change _ ∧ (_ ↔ (readings.finalizeFault = none → readings.endSessionFault = none →
    (state.drainedForStop config readings).EndsInTime _))
  split
  · rename_i after error failed
    split at failed
    · rename_i fault unfinished
      obtain ⟨rfl, _⟩ := Prod.mk.inj failed
      refine ⟨drained.live.toSound, iff_of_true drained_covered fun faultless => ?_⟩
      rw [faultless] at unfinished
      cases unfinished
    · rename_i finalized recordings
      obtain ⟨live, finalized_covered⟩ := finalize_record_sessions_timeline drained.live
        recordings fun ts reached => reached.le_timestamp_for readings.endedAt
      split at failed
      · rename_i fault unended
        obtain ⟨rfl, _⟩ := Prod.mk.inj failed
        refine ⟨live.toSound, iff_of_true (finalized_covered drained_covered)
          fun _ faultless => ?_⟩
        rw [faultless] at unended
        cases unended
      · cases (Prod.mk.inj failed).2
  · rename_i after succeeded
    split at succeeded
    · cases (Prod.mk.inj succeeded).2
    · rename_i finalized recordings
      split at succeeded
      · cases (Prod.mk.inj succeeded).2
      · rename_i ended session
        obtain ⟨rfl, _⟩ := Prod.mk.inj succeeded
        obtain ⟨sound, exact_end⟩ :=
          end_session_covered_iff drained drained_covered recordings session
        have persisted : ∀ after : WriterState,
            (after.persistDiagnosticsCounters readings.persist).store.timeline =
              after.store.timeline :=
          fun after => timeline_of_activity (after.persist_diagnostics_keeps readings.persist).2
        dsimp only
        rw [persisted]
        exact ⟨sound, exact_end.trans ⟨fun inTime _ _ => inTime, fun inTime =>
          inTime (statement_ok recordings).1 (statement_ok session).1⟩⟩

/-- A turn keeps the timeline, and keeps every session covered exactly when it
ends none too early. -/
theorem lifetime_turn_timeline {life : Lifetime} (onTimeline : life.OnTimeline)
    (covered : life.store.timeline.Covered) (turn : LifetimeTurn) :
    ((lifetimeMachine config).step life turn).1.OnTimeline ∧
      (((lifetimeMachine config).step life turn).1.store.timeline.Covered ↔
        EndsCovered config life turn) := by
  have requested : ∀ fault nowMs candidateKind candidateJson,
      (life.mapStore (Database.requested fault nowMs candidateKind candidateJson)).OnTimeline ∧
        (life.mapStore
          (Database.requested fault nowMs candidateKind candidateJson)).store.timeline.Covered := by
    intro fault nowMs candidateKind candidateJson
    cases life with
    | closed store =>
        have same := requested_timeline fault nowMs candidateKind candidateJson store
        have sound : store.timeline.Sound := onTimeline
        rw [← same] at sound
        have kept : store.timeline.Covered := covered
        rw [← same] at kept
        exact ⟨sound, kept⟩
    | running state =>
        have stays : StaysOnTimeline state
            { state with
              store := state.store.requested fault nowMs candidateKind candidateJson } :=
          .of_same (requested_timeline _ _ _ _ _) rfl rfl rfl rfl
        obtain ⟨after, kept⟩ := stays onTimeline
        exact ⟨after, kept covered⟩
  cases life with
  | closed store =>
      cases turn with
      | launch readings policy => exact launch_timeline onTimeline covered readings policy
      | requestRecording fault nowMs candidateKind candidateJson =>
          obtain ⟨after, kept⟩ := requested fault nowMs candidateKind candidateJson
          exact ⟨after, iff_of_true kept trivial⟩
      | writer turn => exact ⟨onTimeline, iff_of_true covered trivial⟩
      | stop readings => exact ⟨onTimeline, iff_of_true covered trivial⟩
      | crash => exact ⟨onTimeline, iff_of_true covered trivial⟩
  | running state =>
      cases turn with
      | launch readings policy => exact ⟨onTimeline, iff_of_true covered trivial⟩
      | requestRecording fault nowMs candidateKind candidateJson =>
          obtain ⟨after, kept⟩ := requested fault nowMs candidateKind candidateJson
          exact ⟨after, iff_of_true kept trivial⟩
      | writer turn =>
          obtain ⟨after, kept⟩ := turn_timeline config state turn onTimeline
          exact ⟨after, iff_of_true (kept covered) trivial⟩
      | stop readings => exact shut_down_timeline config onTimeline covered readings
      | crash => exact ⟨onTimeline.live.toSound, iff_of_true covered trivial⟩

omit [StoreExternals] in
theorem Lifetime.OnTimeline.sound {life : Lifetime} (onTimeline : life.OnTimeline) :
    life.store.timeline.Sound := by
  cases life with
  | closed store => exact onTimeline
  | running state => exact onTimeline.live.toSound

/-- From an empty store every session that ended stays covered exactly as long as
none is ended too early. -/
theorem covered_along_run_iff (turns : List LifetimeTurn) :
    (∀ before, before <+: turns →
        let life := (lifetimeMachine config).run (.closed .empty) before
        life.OnTimeline ∧ life.store.timeline.Covered) ↔
      (lifetimeMachine config).AllSteps (EndsCovered config) (.closed .empty) turns := by
  refine (lifetimeMachine config).holds_along_iff_all_steps (fun _ => True)
    (fun life => life.OnTimeline ∧ life.store.timeline.Covered) (EndsCovered config)
    (fun _ _ _ _ => trivial) ?_ (.closed .empty) trivial ?_
  · rintro turn _ life _ ⟨onTimeline, covered⟩
    obtain ⟨after, exact_turn⟩ := lifetime_turn_timeline config onTimeline covered turn
    exact (and_iff_right after).trans exact_turn
  · refine ⟨?_, fun _ none => absurd none List.not_mem_nil⟩
    constructor <;> exact fun _ none => absurd none List.not_mem_nil

end Lives

section Consistent

/-- What an open is to leave behind. -/
structure StartupConsistent (store opened : Database) : Prop where
  sessionsEnded : ∀ session ∈ opened.activity.sessions.rows, session.endedAt ≠ none
  recordingsEnded :
    ∀ recording ∈ opened.activity.recordRoutine.recordSessions.rows, recording.endedTs ≠ none
  focusClosed : opened.openFocus = none
  sessionCovers : ∀ session ∈ opened.activity.sessions.rows,
    ∀ endedAt, session.endedAt = some endedAt →
      session.startedAt ≤ endedAt ∧
      (∀ event ∈ opened.activity.events.rows, event.sessionId = session.sessionId →
        event.ts ≤ endedAt) ∧
      (∀ action ∈ opened.activity.recordRoutine.actionEvents.rows,
        action.sessionId = session.sessionId → action.ts ≤ endedAt) ∧
      ∀ recording ∈ opened.activity.recordRoutine.recordSessions.rows,
        recording.sessionId = session.sessionId →
          ∀ endedTs, recording.endedTs = some endedTs → endedTs ≤ endedAt
  recordingCovers : ∀ recording ∈ opened.activity.recordRoutine.recordSessions.rows,
    ∀ endedTs, recording.endedTs = some endedTs →
      recording.startedTs ≤ endedTs ∧
      ∀ action ∈ opened.activity.recordRoutine.actionEvents.rows,
        action.recordSessionId = recording.recordSessionId → action.ts ≤ endedTs
  positions : store.positions.Nodup → opened.positions.Nodup
  settled : ∀ again, (opened.openStore again).1 = opened

theorem Repaired.positions {db repaired : Database} {fault discardFault : Option StoreError}
    (outcome : Repaired fault discardFault db repaired) (distinct : db.positions.Nodup) :
    repaired.positions.Nodup := by
  cases outcome with
  | left present unrecovered stays => exact distinct
  | discarded unrecovered removed => exact distinct
  | @recovered row event inserted recovered removed added session ts fresh =>
      unfold Database.insertEvent at added
      split_ifs at added
      obtain ⟨events, fits, rfl⟩ := Option.map_eq_some_iff.mp added
      obtain ⟨own, seq, _⟩ := from_envelope_columns event
      have place : (EventRow.fromEnvelope event).position = (event.sessionId, u64ToI64 event.seq) :=
        congr (congrArg Prod.mk own) seq
      change (events.rows.map EventRow.position ++ _).Nodup
      rw [Table.insert_some_rows fits, List.map_append, List.append_assoc]
      refine List.nodup_middle.mpr (List.nodup_cons.mpr ⟨?_, distinct⟩)
      rw [place]
      exact fresh

theorem Repaired.focus_closed_iff {db repaired : Database} {fault discardFault : Option StoreError}
    (outcome : Repaired fault discardFault db repaired) :
    repaired.openFocus = none ↔ db.FocusRemoved fault discardFault := by
  cases outcome with
  | left present unrecovered stays => exact iff_of_false present stays
  | discarded unrecovered removed => exact iff_of_true rfl removed
  | recovered recovered removed added session ts fresh => exact iff_of_true rfl removed

/-- Nothing is left for an open to do. -/
structure Database.Settled (db : Database) : Prop where
  named : "db_uuid" ∈ db.metaRows.rows.map MetaRow.key
  dated : "created_at" ∈ db.metaRows.rows.map MetaRow.key
  focusClosed : db.openFocus = none
  sessionsEnded : ∀ session ∈ db.activity.sessions.rows, session.endedAt ≠ none
  recordingsEnded :
    ∀ recording ∈ db.activity.recordRoutine.recordSessions.rows, recording.endedTs ≠ none
  reconciled : ∀ request ∈ db.activity.recordRoutine.recordRequests.rows,
    (request.status == .confirmed && request.fulfilledRecordSessionId.isNone) = false

theorem insert_meta_present {db : Database} {fault : Option StoreError} {key value : String}
    (present : key ∈ db.metaRows.rows.map MetaRow.key) :
    db.insertMeta fault key value = statement fault db := by
  unfold Database.insertMeta Table.insert?
  rw [dif_pos present]
  rfl

theorem insert_meta_keys {db after : Database} {fault : Option StoreError} {key value : String}
    (inserted : db.insertMeta fault key value = .ok after) :
    key ∈ after.metaRows.rows.map MetaRow.key ∧
      db.metaRows.rows.map MetaRow.key ⊆ after.metaRows.rows.map MetaRow.key := by
  obtain ⟨_, rfl⟩ := statement_ok inserted
  unfold Table.insert?
  split_ifs with present
  · exact ⟨present, List.Subset.refl _⟩
  · change key ∈ List.map _ (_ ++ _) ∧ _ ⊆ List.map _ (_ ++ _)
    rw [List.map_append]
    exact ⟨List.mem_append_right _ List.mem_cons_self, List.subset_append_left _ _⟩

theorem Database.Settled.open_store {db : Database} (settled : db.Settled)
    (readings : OpenReadings) : (db.openStore readings).1 = db := by
  have naming : (db.ensureMetaIdentity readings.uuidFault readings.createdFault
      readings.createdAt readings.dbUuid).1 = db := by
    unfold Database.ensureMetaIdentity
    rw [insert_meta_present settled.named]
    cases readings.uuidFault with
    | some error => rfl
    | none =>
        dsimp only [statement, Option.elim_none]
        rw [insert_meta_present settled.dated]
        cases readings.createdFault <;> rfl
  have unended : ∀ {Value : Type} {value : Option Value}, value ≠ none → value.isNone = false :=
    fun known => Option.isNone_eq_false_iff.mpr (Option.isSome_iff_ne_none.mpr known)
  have sessions : ∀ fault, db.finalizeOrphanSessions fault = statement fault db := by
    intro fault
    exact congrArg (fun table => statement fault { db with activity.sessions := table })
      (Table.update_where_none fun row stored => unended (settled.sessionsEnded row stored))
  have recordings : ∀ fault, db.finalizeOrphanRecordSessions fault = statement fault db := by
    intro fault
    exact congrArg
      (fun table => statement fault { db with activity.recordRoutine.recordSessions := table })
      (Table.update_where_none fun row stored => unended (settled.recordingsEnded row stored))
  have requests : ∀ fault updatedAt,
      db.reconcileConfirmedRecordRequests fault updatedAt = statement fault db := by
    intro fault updatedAt
    exact congrArg
      (fun table => statement fault { db with activity.recordRoutine.recordRequests := table })
      (Table.update_where_none settled.reconciled)
  unfold Database.openStore
  split
  · rename_i after error failed
    rw [failed] at naming
    exact naming
  · rename_i after succeeded
    rw [succeeded] at naming
    obtain rfl : after = db := naming
    dsimp only
    rw [repair_absent settled.focusClosed, sessions]
    cases readings.sessionsFault with
    | some error => rfl
    | none =>
        dsimp only [statement, Option.elim_none]
        rw [recordings]
        cases readings.recordSessionsFault with
        | some error => rfl
        | none =>
            dsimp only [statement, Option.elim_none]
            rw [requests]
            cases readings.reconcileFault <;> rfl

section Opened

variable {store opened : Database} {readings : OpenReadings}

/-- Where a successful open leaves the places and the focus row, and that
nothing else is left to do. -/
structure OpenLeaves (readings : OpenReadings) (store opened : Database) : Prop where
  positions : store.positions.Nodup → opened.positions.Nodup
  focus : opened.openFocus = none ↔ store.FocusRemoved readings.repairFault readings.discardFault
  named : "db_uuid" ∈ opened.metaRows.rows.map MetaRow.key
  dated : "created_at" ∈ opened.metaRows.rows.map MetaRow.key
  reconciled : ∀ request ∈ opened.activity.recordRoutine.recordRequests.rows,
    (request.status == .confirmed && request.fulfilledRecordSessionId.isNone) = false

theorem ensure_meta_identity_keys {named : Database}
    (naming : store.ensureMetaIdentity readings.uuidFault readings.createdFault
      readings.createdAt readings.dbUuid = (named, .ok ())) :
    "db_uuid" ∈ named.metaRows.rows.map MetaRow.key ∧
      "created_at" ∈ named.metaRows.rows.map MetaRow.key := by
  unfold Database.ensureMetaIdentity at naming
  split at naming
  · cases (Prod.mk.inj naming).2
  · rename_i first named_first
    split at naming
    · cases (Prod.mk.inj naming).2
    · rename_i second dated_second
      obtain ⟨rfl, _⟩ := Prod.mk.inj naming
      obtain ⟨uuid, _⟩ := insert_meta_keys named_first
      obtain ⟨created, kept⟩ := insert_meta_keys dated_second
      exact ⟨kept uuid, created⟩

theorem open_store_leaves (succeeded : store.openStore readings = (opened, .ok ())) :
    OpenLeaves readings store opened := by
  have outcome := open_store_outcome readings store
  rw [succeeded] at outcome
  cases outcome with
  | @opened named ended recorded _ naming sessions recordings requests =>
      obtain ⟨uuid, created⟩ := ensure_meta_identity_keys naming
      obtain ⟨⟨metaRows, same⟩, _⟩ := ensure_meta_identity_cases readings store
      rw [naming] at same
      obtain rfl : named = _ := same
      have repair := repair_or_discard_cases readings.repairFault readings.discardFault
        { store with metaRows := metaRows }
      have books := SameBooks.repair_or_discard { store with metaRows := metaRows }
        readings.repairFault readings.discardFault
      obtain ⟨_, rfl⟩ := statement_ok sessions
      obtain ⟨_, rfl⟩ := statement_ok recordings
      obtain ⟨_, rfl⟩ := statement_ok requests
      refine ⟨repair.positions, repair.focus_closed_iff, ?_, ?_, ?_⟩
      · exact (congrArg (fun table => "db_uuid" ∈ table.rows.map MetaRow.key) books.metaRows).mpr
          uuid
      · exact (congrArg (fun table => "created_at" ∈ table.rows.map MetaRow.key)
          books.metaRows).mpr created
      · intro request stored
        obtain ⟨row, _, rfl⟩ := List.mem_map.mp stored
        split_ifs with waiting
        · rfl
        · exact eq_false_of_ne_true waiting

theorem startup_consistent_iff (leaves : OpenLeaves readings store opened)
    (sound : opened.timeline.Sound)
    (closed : ∀ session ∈ opened.timeline.sessions, session.endedAt ≠ none)
    (stopped : ∀ recording ∈ opened.timeline.recordings, recording.endedTs ≠ none) :
    StartupConsistent store opened ↔ opened.timeline.Covered ∧
      store.FocusRemoved readings.repairFault readings.discardFault := by
  constructor
  · intro consistent
    refine ⟨?_, leaves.focus.mp consistent.focusClosed⟩
    intro span member ended closed_at
    obtain ⟨session, stored, rfl⟩ := List.mem_map.mp member
    obtain ⟨started, events, actions, recordings⟩ :=
      consistent.sessionCovers session stored ended closed_at
    refine ⟨started, fun mark marked own => ?_, fun recording_span kept own => ?_⟩
    · rcases List.mem_append.mp marked with event_mark | action_mark
      · obtain ⟨event, found, rfl⟩ := List.mem_map.mp event_mark
        exact events event found own
      · obtain ⟨action, found, rfl⟩ := List.mem_map.mp action_mark
        exact actions action found own
    · obtain ⟨recording, found, rfl⟩ := List.mem_map.mp kept
      cases ended_then : recording.endedTs with
      | none => exact absurd ended_then (consistent.recordingsEnded recording found)
      | some endedTs =>
          change (recording.endedTs.getD recording.startedTs) ≤ ended
          rw [ended_then]
          exact recordings recording found own endedTs ended_then
  · rintro ⟨covered, removed⟩
    have sessionsEnded : ∀ session ∈ opened.activity.sessions.rows, session.endedAt ≠ none :=
      fun session stored => closed session.span (List.mem_map_of_mem stored)
    have recordingsEnded : ∀ recording ∈ opened.activity.recordRoutine.recordSessions.rows,
        recording.endedTs ≠ none :=
      fun recording stored => stopped recording.span (List.mem_map_of_mem stored)
    have focusClosed := leaves.focus.mpr removed
    have settled : opened.Settled := ⟨leaves.named, leaves.dated, focusClosed, sessionsEnded,
      recordingsEnded, leaves.reconciled⟩
    refine ⟨sessionsEnded, recordingsEnded, focusClosed, ?_, ?_, leaves.positions,
      settled.open_store⟩
    · intro session stored endedAt ended
      obtain ⟨started, marks, recordings⟩ :=
        covered session.span (List.mem_map_of_mem stored) endedAt ended
      refine ⟨started, ?_, ?_, ?_⟩
      · intro event found own
        exact marks event.mark (List.mem_append_left _ (List.mem_map_of_mem found)) own
      · intro action found own
        exact marks action.mark (List.mem_append_right _ (List.mem_map_of_mem found)) own
      · intro recording found own endedTs ended_then
        have bounded := recordings recording.span (List.mem_map_of_mem found) own
        change recording.endedTs.getD recording.startedTs ≤ endedAt at bounded
        rw [ended_then] at bounded
        exact bounded
    · intro recording stored endedTs ended
      obtain ⟨started, marks⟩ :=
        sound.recordingEnd recording.span (List.mem_map_of_mem stored) endedTs ended
      refine ⟨started, fun action found acts => ?_⟩
      exact marks action.mark (List.mem_append_right _ (List.mem_map_of_mem found))
        (congrArg some acts)

/-- After a run that has ended no session too early, wherever it was cut off, a
successful open leaves everything consistent exactly when it covers the sessions
it ends and can remove the focus row. -/
theorem startup_repair_consistent_iff [Externals] [StoreExternals] (config : WriterConfig)
    (turns : List LifetimeTurn)
    (inTime : (lifetimeMachine config).AllSteps (EndsCovered config) (.closed .empty) turns)
    (succeeded : ((lifetimeMachine config).run (.closed .empty) turns).store.openStore readings =
      (opened, .ok ())) :
    let store := ((lifetimeMachine config).run (.closed .empty) turns).store
    StartupConsistent store opened ↔
      store.OrphansCovered readings.repairFault ∧
        store.FocusRemoved readings.repairFault readings.discardFault := by
  obtain ⟨onTimeline, covered⟩ :=
    (covered_along_run_iff config turns).mpr inTime turns (List.prefix_refl turns)
  obtain ⟨sound, opened_covered, succeeds⟩ :=
    open_store_timeline onTimeline.sound covered readings
  rw [succeeded] at sound opened_covered succeeds
  obtain ⟨reached, closed, stopped⟩ := succeeds rfl
  refine (startup_consistent_iff (open_store_leaves succeeded) sound closed stopped).trans
    (and_congr_left' ?_)
  exact opened_covered.trans ⟨fun each => each reached, fun each _ => each⟩

end Opened

end Consistent

section

attribute [local instance] asciiExternals bareExternals

private def nightClock (count : Nat) : Clock :=
  ⟨⟨count * 1000000000⟩, some (count * 1000000000)⟩

private def nightOpen (count : Nat) : OpenReadings :=
  .clear (nightClock count).utcMs (nightClock count).utcMs "6d1f"

private def nightLaunch (count : Nat) : LifetimeTurn :=
  .launch ⟨nightOpen count, ⟨(nightClock count).now, (nightClock count).utcMs⟩,
    ⟨"1.0.0", none, none, none⟩, none⟩ .identity

private def nightStop (count : Nat) : LifetimeTurn :=
  .stop ⟨⟨[], fun _ => .clear, fun _ => .clear⟩, none, (nightClock count).now, none, none,
    ⟨none, none, none, none⟩⟩

private def nightFocus (count : Nat) : LifetimeTurn :=
  .writer (.input (.motion ⟨.foreground, (nightClock count).now,
    .focusChanged ⟨11, "C:\\apps\\mail.exe", "inbox", 40⟩ none 0 0 false⟩)
      (.clear (nightClock count)))

private def nightRun : List LifetimeTurn :=
  [nightLaunch 1, nightStop 3, nightLaunch 4, nightFocus 5,
    .writer (.flushTick (fun _ => .clear) fun _ => .clear),
    .writer (.openFocusTick (nightClock 35).now none), .crash]

private def nightStore (turns : List LifetimeTurn) : Database :=
  ((lifetimeMachine ⟨200, .ofInt 5000⟩).run (.closed .empty) turns).store

/-- A run that stopped and one that went down half a minute into mail. -/
theorem startup_repair_consistent_night :
    StartupConsistent (nightStore nightRun) ((nightStore nightRun).openStore (nightOpen 60)).1 := by
  refine (startup_repair_consistent_iff ⟨200, .ofInt 5000⟩ nightRun ?_
    (Prod.ext rfl (by decide +kernel))).mpr ⟨?_, Or.inr (Or.inl rfl)⟩
  · refine ⟨fun _ => ?_, fun _ _ => ?_, fun _ => ?_, trivial, trivial, trivial, trivial, trivial⟩
    · unfold Database.OrphansCovered Database.OrphanCovered
      decide +kernel
    · unfold WriterState.EndsInTime
      decide +kernel
    · unfold Database.OrphansCovered Database.OrphanCovered
      decide +kernel
  · unfold Database.OrphansCovered Database.OrphanCovered
    decide +kernel

private def nightAction (count : Nat) : LifetimeTurn :=
  .writer (.input (.action
    { action := ⟨.invoke, ⟨"uia", []⟩, .pidMatch⟩
      capturedAt := (nightClock count).now
      recordSessionId := 1
      exe := some "mail.exe"
      isSensitive := false
      hasName := true
      patternAction := none
      framework := "Win32"
      frameworkClass := .native
      depth := 3
      leafRect := none
      payload := .invoke none none }) (.clear (nightClock count)))

private def nightRecorded : List LifetimeTurn :=
  [nightLaunch 1,
    .writer (.startRecording (nightClock 2).now ⟨none, none, none⟩
      ⟨none, none, "\x7b\x7d", .ofInt 1800000, true⟩),
    nightAction 3, .writer (.flushTick (fun _ => .clear) fun _ => .clear), .crash]

/-- A recorded action is committed and no event after it. The open ends the
session where it started, before the action and before its recording. -/
theorem crash_ends_session_before_its_action :
    let opened := ((nightStore nightRecorded).openStore (nightOpen 60)).1
    opened.activity.sessions.rows.map SessionRow.endedAt = [some (.ofInt 1000)] ∧
      opened.activity.recordRoutine.actionEvents.rows.map ActionEventRow.ts = [.ofInt 3000] ∧
      opened.activity.recordRoutine.recordSessions.rows.map RecordSessionRow.endedTs =
        [some (.ofInt 3000)] ∧
      ¬StartupConsistent (nightStore nightRecorded) opened := by
  refine ⟨by decide +kernel, by decide +kernel, by decide +kernel, fun consistent => ?_⟩
  have covers := consistent.sessionCovers
  revert covers
  decide +kernel

end

end Gilbreth.Store
