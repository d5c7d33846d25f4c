import Gilbreth.Store.Database

/-!
# Focus rows as the readers take them

A stored focus row carries the dwell of the window before it, and the open row
the dwell of the window in front now. Times are read as exact integers. The local
calendar is outside the repository and comes in as a parameter.
-/

set_option autoImplicit false

namespace Gilbreth.Read

open Gilbreth.Core Gilbreth.Store

/-- The local time zone, as `chrono` and SQLite know it. -/
class LocalZone where
  localDate : Int → String
  localDayStartMs : Int → Int

/-- A zone that keeps UTC, on the first day of the epoch. -/
@[reducible] def utcZone : LocalZone where
  localDate _ := "1970-01-01"
  localDayStartMs ts := ts - ts % 86400000

structure Scope where
  cutoffMs : Option Int
  sessionId : Option Int
deriving DecidableEq

/-- `scope_predicate` on the columns it names. -/
def Scope.admits (scope : Scope) (sessionId ts : Int) : Bool :=
  scope.cutoffMs.all (fun cutoff => decide (cutoff ≤ ts)) &&
    scope.sessionId.all fun wanted => decide (sessionId = wanted)

structure FocusInterval where
  exe : String
  title : String
  sessionId : Int
  seq : Int
  localDate : String
  startTs : Int
  endTs : Int
  durationMs : Int
deriving DecidableEq

def overlapMs (aLo aHi bLo bHi : Int) : Int := max 0 (min aHi bHi - max aLo bLo)

section FocusIntervals

variable [LocalZone]

/-- One row of the query of `focus_intervals`. -/
def focusInterval (row : EventRow) : Option FocusInterval :=
  match row.prevExe, row.durationMs with
  | some exe, some durationMs =>
      if row.kind = "focus_changed" then
        some
          { exe := if exe = "" then "(unknown)" else exe
            title := row.prevTitle.getD ""
            sessionId := row.sessionId
            seq := row.seq.val
            localDate := LocalZone.localDate row.ts.val
            startTs := max (row.ts.val - durationMs.val) 0
            endTs := row.ts.val
            durationMs := durationMs.val }
      else none
  | _, _ => none

/-- The clip to a cutoff, with what is left of the dwell; nothing left is dropped. -/
def FocusInterval.clip (cutoff : Int) (interval : FocusInterval) : Option FocusInterval :=
  let startTs := max interval.startTs cutoff
  let durationMs := interval.endTs - startTs
  if 0 < durationMs then some { interval with startTs := startTs, durationMs := durationMs }
  else none

/-- `ORDER BY e.session_id, e.seq`. -/
def EventRow.precedes (left right : EventRow) : Bool :=
  decide (left.sessionId < right.sessionId ∨
    (left.sessionId = right.sessionId ∧ left.seq ≤ right.seq))

def focusIntervals (db : Database) (scope : Scope) : List FocusInterval :=
  let rows := db.activity.events.rows.filter fun row => scope.admits row.sessionId row.ts.val
  let out := (rows.mergeSort EventRow.precedes).filterMap focusInterval
  match scope.cutoffMs with
  | none => out
  | some cutoff => out.filterMap (FocusInterval.clip cutoff)

end FocusIntervals

section OpenFocus

def openFocusBeatMs : Int := 30000

structure LiveOpenFocus where
  sessionId : Int
  exe : String
  startTs : Int
  endTs : Int
deriving DecidableEq

/-- The open row while it is fresh. A row two beats old belongs to a crash repair. -/
def liveOpenFocus (db : Database) (nowMs : Int) : Option LiveOpenFocus :=
  match db.openFocus with
  | none => none
  | some row =>
      let endTs := min row.highWaterTs.val nowMs
      if 2 * openFocusBeatMs < nowMs - row.highWaterTs.val then none
      else if endTs ≤ row.startedTs.val then none
      else
        some
          { sessionId := row.sessionId
            exe := if row.exe.getD "" = "" then "(unknown)" else row.exe.getD ""
            startTs := row.startedTs.val
            endTs := endTs }

theorem live_open_focus_row {db : Database} {nowMs : Int} {live : LiveOpenFocus}
    (read : live ∈ liveOpenFocus db nowMs) :
    ∃ row ∈ db.openFocus, live.sessionId = row.sessionId ∧ live.startTs = row.startedTs.val ∧
      live.startTs < live.endTs ∧ live.endTs ≤ nowMs := by
  rw [liveOpenFocus] at read
  split at read
  · cases read
  · rename_i row present
    simp only at read
    split at read
    · cases read
    · split at read
      · cases read
      · rename_i none
        cases read
        exact ⟨row, present, rfl, rfl, not_le.mp none, min_le_right _ _⟩

end OpenFocus

section FocusIntervals

variable [LocalZone] {db : Database} {scope : Scope}

theorem focus_interval_some {row : EventRow} {interval : FocusInterval}
    (read : focusInterval row = some interval) :
    row.kind = "focus_changed" ∧ interval.sessionId = row.sessionId ∧
      interval.endTs = row.ts.val ∧
      ∃ durationMs ∈ row.durationMs, interval.startTs = max (row.ts.val - durationMs.val) 0 := by
  rw [focusInterval] at read
  split at read
  · rename_i exe durationMs _ dwell
    split at read
    · rename_i kind
      cases read
      exact ⟨kind, rfl, rfl, durationMs, dwell, rfl⟩
    · cases read
  · cases read

omit [LocalZone] in
theorem clip_some {cutoff : Int} {interval clipped : FocusInterval}
    (clip : interval.clip cutoff = some clipped) :
    clipped.sessionId = interval.sessionId ∧ clipped.endTs = interval.endTs ∧
      clipped.startTs = max interval.startTs cutoff ∧ clipped.startTs < clipped.endTs := by
  rw [FocusInterval.clip] at clip
  split at clip
  · rename_i left
    cases clip
    refine ⟨rfl, rfl, rfl, ?_⟩
    change max interval.startTs cutoff < interval.endTs
    omega
  · cases clip

/-- Every interval is the dwell of a stored row, clipped at its start at most. -/
theorem focus_interval_row {interval : FocusInterval} (read : interval ∈ focusIntervals db scope) :
    ∃ row ∈ db.activity.events.rows, row.kind = "focus_changed" ∧
      interval.sessionId = row.sessionId ∧ interval.endTs = row.ts.val ∧
      ∃ durationMs ∈ row.durationMs, row.ts.val - durationMs.val ≤ interval.startTs := by
  have unclipped : ∀ interval : FocusInterval,
      interval ∈ ((db.activity.events.rows.filter fun row =>
        scope.admits row.sessionId row.ts.val).mergeSort EventRow.precedes).filterMap
          focusInterval →
      ∃ row ∈ db.activity.events.rows, row.kind = "focus_changed" ∧
        interval.sessionId = row.sessionId ∧ interval.endTs = row.ts.val ∧
        ∃ durationMs ∈ row.durationMs, row.ts.val - durationMs.val ≤ interval.startTs := by
    intro interval member
    rcases List.mem_filterMap.mp member with ⟨row, listed, taken⟩
    rcases focus_interval_some taken with ⟨kind, session, ends, durationMs, dwell, starts⟩
    have stored := List.mem_of_mem_filter (List.mem_mergeSort.mp listed)
    exact ⟨row, stored, kind, session, ends, durationMs, dwell, starts ▸ le_max_left _ _⟩
  rw [focusIntervals] at read
  split at read
  · exact unclipped interval read
  · rename_i cutoff _
    rcases List.mem_filterMap.mp read with ⟨whole, member, clip⟩
    rcases clip_some clip with ⟨session, ends, starts, _⟩
    rcases unclipped whole member with ⟨row, stored, kind, own, last, durationMs, dwell, reach⟩
    refine ⟨row, stored, kind, session.trans own, ends.trans last, durationMs, dwell, ?_⟩
    rw [starts]
    exact reach.trans (le_max_left _ _)

end FocusIntervals

end Gilbreth.Read
