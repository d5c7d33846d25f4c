import Gilbreth.Read.Focus
import Gilbreth.Store.CrashRepair

/-!
# Live time is counted once

A reader takes the committed focus rows in one statement and the open row in a
later one, with any number of writer steps in between. The open row is then of a
segment that opened no earlier than any focus row stamped so far, so the dwell
of no row the reader has reaches into it.
-/

set_option autoImplicit false

namespace Gilbreth.Store

open Gilbreth.Core

variable [Externals] [StoreExternals]

theorem WriterState.stamped_prefix_track (config : WriterConfig) (state : WriterState)
    (step : TrackingStep) : state.stamped <+: (state.track config step).stamped := by
  cases step with
  | queue clock captured =>
      have onward := state.admit_captured_goes_on config (.clear clock) captured
      refine RowStream.GoesOnTo.keeps (fun stream => state.stamped <+: stream.stamped) ?_ onward
        (List.prefix_refl _)
      intro stream move other extended
      cases move with
      | capture clock captured =>
          unfold RowStream.move RowStream.capture
          dsimp only
          split_ifs
          · exact extended
          · exact extended.trans (List.prefix_append _ _)
      | replace sessionId timebase => cases other
      | _ => exact extended
  | action action readings =>
      change _ <+: (state.queueAction config readings action).stamped
      rw [(state.queue_action_step config readings action).stamped]
  | heartbeat clock faults =>
      exact List.prefix_refl _
  | _ => exact List.prefix_refl _

theorem WriterState.stamped_prefix_run (config : WriterConfig) (state : WriterState)
    (steps : List TrackingStep) :
    state.stamped <+: ((trackingMachine config).run state steps).stamped := by
  induction steps generalizing state with
  | nil => exact List.prefix_refl _
  | cons step rest induction =>
      exact (state.stamped_prefix_track config step).trans (induction _)

end Gilbreth.Store

namespace Gilbreth.Read

open Gilbreth.Core Gilbreth.Store

variable [Externals] {sessionId : Int}

theorem read_row_before_open {earlier later : WriterState} (seen : Tracked sessionId earlier)
    (tracked : Tracked sessionId later) (onward : earlier.stamped <+: later.stamped)
    {row : EventRow} (stored : row ∈ earlier.store.activity.events.rows)
    (kind : row.kind = "focus_changed") {left : OpenFocusRow}
    (present : left ∈ later.store.openFocus) (same : left.sessionId = row.sessionId) :
    row.ts ≤ left.startedTs := by
  rcases tracked.row left present with ⟨_, segment, current, session, _, started⟩
  rcases tracked.opened segment current with ⟨before, opening, after, stamped, opens, quiet⟩
  have opener : opening ∈ later.stamped := by
    rw [stamped]
    exact List.mem_append_right _ List.mem_cons_self
  have opened : segment.sessionId = sessionId := by
    rcases opens with ⟨_, _, _, _, _, _, _, rfl⟩
    exact (tracked.inSession.1.session opening opener).trans tracked.inSession.2
  have own : row.sessionId = sessionId := same.symm.trans (session.trans opened)
  rcases seen.durable row stored own with ⟨event, member, rfl⟩
  rcases from_envelope_columns event with ⟨_, _, dated, named, _⟩
  have focus : isFocusChange event.payload = true :=
    is_focus_change_of_kind (named.symm.trans kind)
  rw [dated, started]
  exact (tracked.stamped_focus_row stamped opens quiet (onward.subset member) focus).2

variable [StoreExternals]

/-- Whatever the writer does between the two reads, the span taken for the open
segment and the dwell of a focus row of its session overlap in no millisecond. -/
theorem live_time_counted_once [LocalZone] (config : WriterConfig) {store db : Database}
    {fault : Option StoreError} {startedAt : I64} {identity : SessionIdentity}
    (created : store.createSessionWithIdentity fault startedAt identity = .ok (db, sessionId))
    (references : ForeignKeys store.activity) (closed : store.openFocus = none)
    (timebase : SessionTimebase) (policy : Policy) (before between : List TrackingStep)
    (nowMs : Int) (live : LiveOpenFocus) :
    let earlier :=
      (trackingMachine config).run (.started db (.new sessionId timebase) policy) before
    let later := (trackingMachine config).run earlier between
    live ∈ liveOpenFocus later.store nowMs →
      (∀ row ∈ earlier.store.activity.events.rows, row.kind = "focus_changed" →
        row.sessionId = live.sessionId → ∀ dwell ∈ row.durationMs,
          overlapMs live.startTs live.endTs (row.ts.val - dwell.val) row.ts.val = 0) ∧
      ∀ scope, ∀ interval ∈ focusIntervals earlier.store scope,
        interval.sessionId = live.sessionId →
          overlapMs live.startTs live.endTs interval.startTs interval.endTs = 0 := by
  intro earlier later read
  have seen : Tracked sessionId earlier :=
    (trackingMachine config).run_invariant (Tracked sessionId)
      (fun state step tracked => tracked.track config step) _ before
      (Tracked.started created references closed timebase policy)
  have tracked : Tracked sessionId later :=
    (trackingMachine config).run_invariant (Tracked sessionId)
      (fun state step tracked => tracked.track config step) _ between seen
  have onward := earlier.stamped_prefix_run config between
  rcases live_open_focus_row read with ⟨left, present, session, started, _, _⟩
  have apart : ∀ row ∈ earlier.store.activity.events.rows, row.kind = "focus_changed" →
      row.sessionId = live.sessionId → row.ts.val ≤ live.startTs := by
    intro row stored kind own
    rw [started]
    exact read_row_before_open seen tracked onward stored kind present (session.symm.trans own.symm)
  constructor
  · intro row stored kind own dwell _
    have ends := apart row stored kind own
    rw [overlapMs]
    omega
  · intro scope interval member own
    rcases focus_interval_row member with ⟨row, stored, kind, same, last, _⟩
    have ends := apart row stored kind (same.symm.trans own)
    rw [overlapMs, last]
    omega

end Gilbreth.Read

namespace Gilbreth.Read

open Gilbreth.Core Gilbreth.Store

section

attribute [local instance] asciiExternals bareExternals utcZone

private def mailPane : WindowRef := ⟨11, "C:\\apps\\mail.exe", "inbox", 40⟩

private def notesPane : WindowRef := ⟨12, "C:\\apps\\notes.exe", "list", 41⟩

private def paneClock (count : Nat) : Clock := ⟨⟨count * 1000000000⟩, some (count * 1000000000)⟩

private def paneStore : Database :=
  ((Database.empty.createSessionWithIdentity none (.ofInt 1000)
    ⟨"1.0.0", none, none, none⟩).toOption.map Prod.fst).getD .empty

private theorem pane_session_created :
    Database.empty.createSessionWithIdentity none (.ofInt 1000) ⟨"1.0.0", none, none, none⟩ =
      .ok (paneStore, 1) := rfl

private def mailThenNotes : List TrackingStep :=
  [.queue (paneClock 2) ⟨.foreground, (paneClock 2).now, .focusChanged mailPane none 0 0 false⟩,
    .queue (paneClock 10)
      ⟨.foreground, (paneClock 10).now, .focusChanged notesPane (some mailPane) 8000 0 false⟩,
    .flush fun _ => .clear]

private def paneRead : WriterState :=
  (trackingMachine ⟨200, .ofInt 5000⟩).run
    (.started paneStore (.new 1 ⟨(paneClock 1).now, .ofInt 1000⟩) .identity) mailThenNotes

private def notesBeat : WriterState :=
  (trackingMachine ⟨200, .ofInt 5000⟩).run paneRead [.beat (paneClock 32).now]

/-- Eight seconds of mail are stored, and twenty-two of the notes are open. -/
theorem live_time_counted_once_notes :
    paneRead.store.activity.events.rows.map EventRow.durationMs =
        [some (.ofInt 0), some (.ofInt 8000)] ∧
      liveOpenFocus notesBeat.store 40000 = some ⟨1, "notes.exe", 10000, 32000⟩ ∧
      ∀ row ∈ paneRead.store.activity.events.rows, row.kind = "focus_changed" →
        row.sessionId = 1 → ∀ dwell ∈ row.durationMs,
          overlapMs 10000 32000 (row.ts.val - dwell.val) row.ts.val = 0 := by
  have read : liveOpenFocus notesBeat.store 40000 = some ⟨1, "notes.exe", 10000, 32000⟩ := by
    decide +kernel
  refine ⟨by decide +kernel, read, ?_⟩
  exact (live_time_counted_once ⟨200, .ofInt 5000⟩ pane_session_created .empty rfl
    ⟨(paneClock 1).now, .ofInt 1000⟩ .identity mailThenNotes [.beat (paneClock 32).now] 40000
    ⟨1, "notes.exe", 10000, 32000⟩ read).1

end

end Gilbreth.Read
