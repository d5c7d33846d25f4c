import Gilbreth.Store.Insert

/-!
# The open foreground segment

The writer mirrors the segment the stored stream has open. A beat writes it to
the one `open_focus` row; closing or replacing a segment deletes the row first.
At the next open a row left behind is turned into one recovered focus row.
-/

set_option autoImplicit false

namespace Gilbreth.Store

open Gilbreth.Core

structure OpenSegment where
  sessionId : Int
  exe : String
  startedTs : I64
deriving DecidableEq

structure OpenFocusState where
  segment : Option OpenSegment
  rowWritten : Bool
deriving DecidableEq

def OpenFocusState.default : OpenFocusState := ⟨none, false⟩

section Tracking

variable (fault : Option StoreError)

/-- A failed delete is logged and leaves `row_written` set. -/
def clearOpenFocus (state : OpenFocusState) (db : Database) : OpenFocusState × Database :=
  if state.rowWritten then
    match db.deleteOpenFocus fault with
    | .ok db => (⟨none, false⟩, db)
    | .error _ => (⟨none, true⟩, db)
  else (⟨none, false⟩, db)

def noteOpenFocusEvent (state : OpenFocusState) (db : Database) (event : EventEnvelope) :
    OpenFocusState × Database :=
  match event.payload with
  | .focusChanged window prev _ _ _ =>
      if prev = some window then clearOpenFocus fault state db
      else
        -- The row of a replaced segment goes now: its dwell is in this event.
        let cleared := if state.rowWritten then clearOpenFocus fault state db else (state, db)
        ({ cleared.1 with
           segment := some ⟨event.sessionId, exeBasename window.exe, event.tsUnixMs⟩ },
          cleared.2)
  | .powerSuspend _ | .sessionLock _ | .sessionDisconnect _ _ | .capturePaused =>
      clearOpenFocus fault state db
  | _ => (state, db)

def beatOpenFocus (sequencer : Sequencer) (now : Instant) (state : OpenFocusState)
    (db : Database) : OpenFocusState × Database :=
  match state.segment with
  | none => (state, db)
  | some segment =>
      let highWater := max (sequencer.timestampFor now) segment.startedTs
      match db.upsertOpenFocus fault
          ⟨segment.sessionId, some segment.exe, segment.startedTs, highWater⟩ with
      | .ok db => ({ state with rowWritten := true }, db)
      | .error _ => (state, db)

theorem clear_open_focus_keeps (state : OpenFocusState) (db : Database) :
    (clearOpenFocus fault state db).2.activity = db.activity ∧
      (clearOpenFocus fault state db).2.metaRows = db.metaRows := by
  unfold clearOpenFocus
  split_ifs
  · split
    · rename_i cleared deleted
      obtain ⟨_, rfl⟩ := statement_ok deleted
      exact ⟨rfl, rfl⟩
    · exact ⟨rfl, rfl⟩
  · exact ⟨rfl, rfl⟩

theorem note_open_focus_keeps (state : OpenFocusState) (db : Database) (event : EventEnvelope) :
    (noteOpenFocusEvent fault state db event).2.activity = db.activity ∧
      (noteOpenFocusEvent fault state db event).2.metaRows = db.metaRows := by
  have cleared := clear_open_focus_keeps fault state db
  unfold noteOpenFocusEvent
  cases event.payload with
  | focusChanged window prev focusedFor unfocusedFor recovered =>
      dsimp only
      split_ifs
      · exact cleared
      · exact cleared
      · exact ⟨rfl, rfl⟩
  | powerSuspend _ | sessionLock _ | sessionDisconnect _ _ | capturePaused => exact cleared
  | _ => exact ⟨rfl, rfl⟩

end Tracking

section Repair

/-- `ended_at IS NOT NULL` of a session, if there is one. -/
def Database.sessionEnded (db : Database) (sessionId : Int) : Option Bool :=
  (db.activity.sessions.rows.find? fun row => row.sessionId == sessionId).map fun row =>
    row.endedAt.isSome

/-- The sequence numbers events and actions of a session share. -/
def Database.sessionSeqs (db : Database) (sessionId : Int) : List I64 :=
  (db.activity.events.rows.filter fun row => row.sessionId == sessionId).map EventRow.seq ++
    (db.activity.recordRoutine.actionEvents.rows.filter fun row =>
      row.sessionId == sessionId).map ActionEventRow.seq

/-- `COALESCE(MAX(seq), 0) + 1`. -/
def Database.nextSeq (db : Database) (sessionId : Int) : Int :=
  (((db.sessionSeqs sessionId).map SatInt.val).max?).getD 0 + 1

/-- The segment length as the row stores it. The subtraction wraps, and a
negative result is stored as zero. -/
def recoveredFor (startedTs highWaterTs : I64) : UInt64 :=
  if highWaterTs.val - startedTs.val ≤ I64.maximum.val then
    .ofNat (highWaterTs.val - startedTs.val).toNat
  else 0

def recoveredEvent (row : OpenFocusRow) (seq : Nat) : EventEnvelope :=
  let highWaterTs := max row.highWaterTs row.startedTs
  let window : WindowRef := ⟨0, row.exe.getD "", "", 0⟩
  { schemaVersion := schemaVersion
    sessionId := row.sessionId
    seq := seq
    tsUnixMs := highWaterTs
    source := .foreground
    isSensitive := false
    payload :=
      .focusChanged window (some window) (recoveredFor row.startedTs highWaterTs) 0 true }

/-- `repair_open_focus`: the database left and the number of rows recovered. The
whole repair is one transaction, so a failure leaves the row for another try. -/
def repairOpenFocus (fault : Option StoreError) (db : Database) :
    Except StoreError (Database × Nat) :=
  match db.openFocus with
  | none => statement fault (db, 0)
  | some row =>
      if db.sessionEnded row.sessionId ≠ some false then
        statement fault ({ db with openFocus := none }, 0)
      else
        let nextSeq := db.nextSeq row.sessionId
        if I64.maximum.val < nextSeq then
          .error (.sqlite .other "the next sequence number is not an integer")
        else
          -- A negative number becomes `u64::MAX`.
          let seq := if nextSeq < 0 then u64Max else nextSeq.toNat
          match db.insertEvent (.fromEnvelope (recoveredEvent row seq)) with
          | none => .error (.sqlite .other "constraint failed")
          | some inserted => statement fault ({ inserted with openFocus := none }, 1)

end Repair

end Gilbreth.Store
