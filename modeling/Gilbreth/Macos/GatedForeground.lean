import Mathlib
import Gilbreth.Library.Simulation
import Gilbreth.Core.Foreground

/-!
# Observed focus

The macOS source feeds the foreground state from a poll that is gated and may stall. A gate that
shuts closes the segment, a pass after a long gap closes it at the last pass, and a user's pause
forgets when windows were left. A stopwatch that runs only while passes follow each other closely
says what dwell this gives.
-/

set_option autoImplicit false

namespace Gilbreth.Macos

open Gilbreth.Core (Captured EventPayload FocusedWindow ForegroundState Instant WindowRef
  durationMs millisecond saturatingDurationSince)

section Rule

inductive PollGate where
  | enabled | pausedByUser | blockedBySession
deriving DecidableEq

def missedBoundaryThreshold : Nat := 30000 * millisecond

/-- A service gap long enough to be a stall separates `now` from the last poll while a segment
is open. -/
def gapExceedsBoundary (state : ForegroundState) (lastPoll : Option Instant) (now : Instant) :
    Bool :=
  state.current.isSome && lastPoll.any fun lastPoll =>
    decide (missedBoundaryThreshold < saturatingDurationSince now lastPoll)

/-- The open segment is closed, at the last poll when a gap came after it. -/
def endCurrentGapCappedAt (state : ForegroundState) (lastPoll : Option Instant) (now : Instant) :
    ForegroundState × Option Captured :=
  let cap :=
    match lastPoll, state.current with
    | some lastPoll, some current =>
        if missedBoundaryThreshold < saturatingDurationSince now lastPoll then
          some (saturatingDurationSince lastPoll current.focusedAt)
        else none
    | _, _ => none
  state.endCurrentAtWithDurationLimit now cap

/-- What the segment is kept from. -/
structure GatedForeground where
  state : ForegroundState
  lastPoll : Option Instant
  lastGate : PollGate

/-- A pass with the window it fed, if any, or the end of the segment. -/
inductive GatedCall where
  | poll (now : Instant) (gate : PollGate) (fed : Option WindowRef)
  | flush (now : Instant)

def GatedCall.now : GatedCall → Instant
  | .poll now _ _ => now
  | .flush now => now

namespace GatedForeground

def new : GatedForeground := ⟨.default, none, .pausedByUser⟩

/-- A gate that has just shut ends the segment. -/
def endAtGate (foreground : GatedForeground) (now : Instant) :
    ForegroundState × Option Captured :=
  if foreground.lastGate = .enabled then
    endCurrentGapCappedAt foreground.state foreground.lastPoll now
  else (foreground.state, none)

def shut (foreground : GatedForeground) (now : Instant) (gate : PollGate) :
    GatedForeground × List Captured :=
  let (closed, row) := foreground.endAtGate now
  let state :=
    if gate = .pausedByUser ∧ foreground.lastGate ≠ .pausedByUser then
      closed.clearUnfocusedCorrelations
    else closed
  (⟨state, some now, gate⟩, row.toList)

/-- A stall before a pass ends the segment. -/
def endAtStall (foreground : GatedForeground) (now : Instant) :
    ForegroundState × Option Captured :=
  if gapExceedsBoundary foreground.state foreground.lastPoll now then
    endCurrentGapCappedAt foreground.state foreground.lastPoll now
  else (foreground.state, none)

def observe (foreground : GatedForeground) (now : Instant) (fed : Option WindowRef) :
    GatedForeground × List Captured :=
  let (closed, closing) := foreground.endAtStall now
  let (state, row) :=
    match fed with
    | some window => closed.onWindowAt window now
    | none => (closed, none)
  (⟨state, some now, .enabled⟩, closing.toList ++ row.toList)

def step (foreground : GatedForeground) : GatedCall → GatedForeground × List Captured
  | .poll now .enabled fed => foreground.observe now fed
  | .poll now .pausedByUser _ => foreground.shut now .pausedByUser
  | .poll now .blockedBySession _ => foreground.shut now .blockedBySession
  | .flush now =>
      let (state, row) := endCurrentGapCappedAt foreground.state foreground.lastPoll now
      ({ foreground with state := state }, row.toList)

def machine : Machine GatedForeground GatedCall (List Captured) := ⟨step⟩

end GatedForeground

end Rule

section Stopwatch

/-- Time runs only from a pass with an open gate to a pass or an end at most the threshold
later. The open segment remembers what it showed at its start. -/
structure FocusStopwatch where
  observed : Nat
  watching : Option Instant
  opened : Option (WindowRef × Nat)

/-- A window that lost the focus, and its dwell in milliseconds. -/
abbrev Dwell := WindowRef × UInt64

namespace FocusStopwatch

def start : FocusStopwatch := ⟨0, none, none⟩

def observedAt (watch : FocusStopwatch) (now : Instant) : Nat :=
  watch.observed + watch.watching.elim 0 fun last =>
    if missedBoundaryThreshold < saturatingDurationSince now last then 0
    else saturatingDurationSince now last

def stalled (watch : FocusStopwatch) (now : Instant) : Bool :=
  watch.watching.any fun last =>
    decide (missedBoundaryThreshold < saturatingDurationSince now last)

def closing (watch : FocusStopwatch) (now : Instant) : List Dwell :=
  (watch.opened.map fun segment =>
    (segment.1, durationMs (watch.observedAt now - segment.2))).toList

def step (watch : FocusStopwatch) : GatedCall → FocusStopwatch × List Dwell
  | .poll now .enabled fed =>
      let opened := if watch.stalled now then none else watch.opened
      let ended := if watch.stalled now then watch.closing now else []
      match fed with
      | none => (⟨watch.observedAt now, some now, opened⟩, ended)
      | some window =>
          if opened.any fun segment => segment.1.hwnd == window.hwnd then
            (⟨watch.observedAt now, some now, opened⟩, ended)
          else
            (⟨watch.observedAt now, some now, some (window, watch.observedAt now)⟩,
              watch.closing now)
  | .poll now _ _ | .flush now => (⟨watch.observedAt now, none, none⟩, watch.closing now)

def machine : Machine FocusStopwatch GatedCall (List Dwell) := ⟨step⟩

end FocusStopwatch

def dwellOf (row : Captured) : Option Dwell :=
  match row.payload with
  | .focusChanged _ (some prev) dwell _ _ => some (prev, dwell)
  | _ => none

end Stopwatch

section Refinement

/-- An open segment: what the clock has run since its start is what was observed. -/
structure Running (foreground : GatedForeground) (watch : FocusStopwatch)
    (segment : Core.FocusedWindow) (last : Instant) (start : Nat) : Prop where
  current : foreground.state.current = some segment
  opened : watch.opened = some (segment.window, start)
  lastPoll : foreground.lastPoll = some last
  watching : watch.watching = some last
  gate : foreground.lastGate = .enabled
  ordered : segment.focusedAt.nanos ≤ last.nanos
  elapsed : watch.observed = start + saturatingDurationSince last segment.focusedAt

/-- The segments of the two agree. -/
inductive SegmentShows (foreground : GatedForeground) (watch : FocusStopwatch) : Prop
  | free (current : foreground.state.current = none) (opened : watch.opened = none)
  | running {segment : Core.FocusedWindow} {last : Instant} {start : Nat}
      (running : Running foreground watch segment last start)

variable {foreground : GatedForeground} {watch : FocusStopwatch} {segment : Core.FocusedWindow}
  {last now : Instant} {start : Nat}

/-- A step does not go back behind the last pass. -/
def Timely (watch : FocusStopwatch) (now : Instant) : Prop :=
  ∀ last ∈ watch.watching, last.nanos ≤ now.nanos

theorem end_free {state : ForegroundState} (free : state.current = none)
    (lastPoll : Option Instant) (now : Instant) :
    endCurrentGapCappedAt state lastPoll now = (state, none) := by
  simp [endCurrentGapCappedAt, ForegroundState.endCurrentAtWithDurationLimit, free]

theorem attributed_observed (running : Running foreground watch segment last start)
    (timely : last.nanos ≤ now.nanos) :
    ForegroundState.attributedDwell segment now
      (if missedBoundaryThreshold < saturatingDurationSince now last then
        some (saturatingDurationSince last segment.focusedAt) else none) =
      watch.observedAt now - start := by
  have ordered := running.ordered
  simp only [ForegroundState.attributedDwell, FocusStopwatch.observedAt, running.watching,
    running.elapsed, Option.elim_some]
  by_cases gap : missedBoundaryThreshold < saturatingDurationSince now last
  · rw [if_pos gap, if_pos gap, Option.elim_some]
    simp only [saturatingDurationSince]
    omega
  · rw [if_neg gap, if_neg gap, Option.elim_none]
    simp only [saturatingDurationSince]
    omega

/-- Whatever is open, ending it leaves nothing open and tells what was observed of it. -/
theorem end_shows (shown : SegmentShows foreground watch) (timely : Timely watch now) :
    (endCurrentGapCappedAt foreground.state foreground.lastPoll now).1.current = none ∧
      (endCurrentGapCappedAt foreground.state foreground.lastPoll now).2.toList.filterMap dwellOf =
        watch.closing now := by
  cases shown with
  | free current opened => simp [end_free current, current, FocusStopwatch.closing, opened]
  | running running =>
      have attributed := attributed_observed running (timely _ running.watching)
      simp only [endCurrentGapCappedAt, ForegroundState.endCurrentAtWithDurationLimit,
        running.lastPoll, running.current, attributed]
      simp [Core.focusChanged, dwellOf, FocusStopwatch.closing, running.opened]

theorem shut_shows (shown : SegmentShows foreground watch) (timely : Timely watch now)
    (gate : PollGate) :
    (foreground.shut now gate).1.state.current = none ∧
      (foreground.shut now gate).2.filterMap dwellOf = watch.closing now := by
  have ended : (foreground.endAtGate now).1.current = none ∧
      (foreground.endAtGate now).2.toList.filterMap dwellOf = watch.closing now := by
    rw [GatedForeground.endAtGate]
    by_cases wasOpen : foreground.lastGate = .enabled
    · rw [if_pos wasOpen]
      exact end_shows shown timely
    · rw [if_neg wasOpen]
      cases shown with
      | free current opened => simp [current, FocusStopwatch.closing, opened]
      | running running => exact absurd running.gate wasOpen
  constructor
  · simp only [GatedForeground.shut, apply_ite ForegroundState.current,
      ForegroundState.clearUnfocusedCorrelations, ended.1, ite_self]
  · exact ended.2

theorem on_window_free {state : ForegroundState} (free : state.current = none)
    (window : WindowRef) (now : Instant) :
    (state.onWindowAt window now).1.current = some ⟨window, now⟩ ∧
      (state.onWindowAt window now).2.toList.filterMap dwellOf = [] := by
  simp [ForegroundState.onWindowAt, free, Core.focusChanged, dwellOf]

theorem on_window_same {state : ForegroundState} {window : WindowRef}
    (current : state.current = some segment) (same : segment.window.hwnd = window.hwnd)
    (now : Instant) : state.onWindowAt window now = (state, none) := by
  simp [ForegroundState.onWindowAt, current, same]

theorem on_window_other {state : ForegroundState} {window : WindowRef}
    (current : state.current = some segment) (other : segment.window.hwnd ≠ window.hwnd)
    (now : Instant) :
    (state.onWindowAt window now).1.current = some ⟨window, now⟩ ∧
      (state.onWindowAt window now).2.toList.filterMap dwellOf =
        [(segment.window, durationMs (saturatingDurationSince now segment.focusedAt))] := by
  simp [ForegroundState.onWindowAt, current, other, Core.focusChanged, dwellOf]

theorem no_time_passed (now : Instant) : saturatingDurationSince now now = 0 := by
  simp [saturatingDurationSince]

theorem observe_free (current : foreground.state.current = none) (opened : watch.opened = none)
    (now : Instant) (fed : Option WindowRef) :
    SegmentShows (foreground.observe now fed).1 (watch.step (.poll now .enabled fed)).1 ∧
      (foreground.observe now fed).2.filterMap dwellOf =
        (watch.step (.poll now .enabled fed)).2 := by
  have steady : gapExceedsBoundary foreground.state foreground.lastPoll now = false := by
    simp [gapExceedsBoundary, current]
  simp only [GatedForeground.observe, GatedForeground.endAtStall, steady, FocusStopwatch.step,
    opened, ite_self, Option.any_none, FocusStopwatch.closing]
  cases fed with
  | none => exact ⟨.free current rfl, by simp⟩
  | some window =>
      have seed := on_window_free current window now
      constructor
      · exact .running ⟨seed.1, rfl, rfl, rfl, rfl, le_rfl, by simp [no_time_passed]⟩
      · simpa using seed.2

theorem observe_running (running : Running foreground watch segment last start)
    (timely : Timely watch now) (fed : Option WindowRef) :
    SegmentShows (foreground.observe now fed).1 (watch.step (.poll now .enabled fed)).1 ∧
      (foreground.observe now fed).2.filterMap dwellOf =
        (watch.step (.poll now .enabled fed)).2 := by
  have later := timely last running.watching
  have ordered := running.ordered.trans later
  have ended := end_shows (.running running) timely
  have stalls : gapExceedsBoundary foreground.state foreground.lastPoll now =
      watch.stalled now := by
    simp [gapExceedsBoundary, FocusStopwatch.stalled, running.current, running.lastPoll,
      running.watching]
  simp only [GatedForeground.observe, GatedForeground.endAtStall, stalls, FocusStopwatch.step]
  cases gap : watch.stalled now with
  | true =>
      cases fed with
      | none => exact ⟨.free ended.1 rfl, by simpa using ended.2⟩
      | some next =>
          have seed := on_window_free ended.1 next now
          simp only [if_true, Option.any_none]
          constructor
          · exact .running ⟨seed.1, rfl, rfl, rfl, rfl, le_rfl, by simp [no_time_passed]⟩
          · simp only [List.filterMap_append, seed.2, ended.2]
            simp
  | false =>
      have continued : watch.observedAt now =
          start + saturatingDurationSince now segment.focusedAt := by
        have early := running.ordered
        have near : ¬ missedBoundaryThreshold < saturatingDurationSince now last := by
          simpa [FocusStopwatch.stalled, running.watching] using gap
        rw [FocusStopwatch.observedAt, running.watching, Option.elim_some, if_neg near,
          running.elapsed]
        simp only [saturatingDurationSince]
        omega
      cases fed with
      | none =>
          exact ⟨.running ⟨running.current, running.opened, rfl, rfl, rfl, ordered, continued⟩, rfl⟩
      | some next =>
          simp only [running.opened, Bool.false_eq_true, if_false, Option.any_some, beq_iff_eq]
          by_cases same : segment.window.hwnd = next.hwnd
          · simp only [on_window_same running.current same, same, if_true]
            exact ⟨.running ⟨running.current, rfl, rfl, rfl, rfl, ordered, continued⟩, rfl⟩
          · have switched := on_window_other running.current same now
            simp only [same, if_false]
            constructor
            · exact .running ⟨switched.1, rfl, rfl, rfl, rfl, le_rfl, by simp [no_time_passed]⟩
            · simpa [FocusStopwatch.closing, running.opened, continued] using switched.2

theorem step_shows (foreground : GatedForeground) (watch : FocusStopwatch) (call : GatedCall)
    (shown : SegmentShows foreground watch) (timely : Timely watch call.now) :
    SegmentShows (foreground.step call).1 (watch.step call).1 ∧
      (foreground.step call).2.filterMap dwellOf = (watch.step call).2 := by
  cases call with
  | poll now gate fed =>
      cases gate with
      | enabled =>
          cases shown with
          | free current opened => exact observe_free current opened now fed
          | running running => exact observe_running running timely fed
      | pausedByUser =>
          have ended := shut_shows shown timely .pausedByUser
          exact ⟨.free ended.1 rfl, ended.2⟩
      | blockedBySession =>
          have ended := shut_shows shown timely .blockedBySession
          exact ⟨.free ended.1 rfl, ended.2⟩
  | flush now =>
      have ended := end_shows shown timely
      exact ⟨.free ended.1 rfl, ended.2⟩

theorem watching_step (watch : FocusStopwatch) (call : GatedCall) :
    ∀ last ∈ (watch.step call).1.watching, last = call.now := by
  intro last member
  cases call with
  | poll now gate fed =>
      cases gate with
      | enabled =>
          cases fed with
          | none => exact (Option.some.inj member).symm
          | some window =>
              simp only [FocusStopwatch.step, apply_ite Prod.fst,
                apply_ite FocusStopwatch.watching, ite_self] at member
              exact (Option.some.inj member).symm
      | pausedByUser => cases member
      | blockedBySession => cases member
  | flush now => cases member

/-- The monotonic clock is read in order. -/
def TimesInOrder (times : List Instant) : Prop :=
  times.Pairwise fun earlier later => earlier.nanos ≤ later.nanos

theorem timely_of_in_order (calls : List GatedCall)
    (ordered : TimesInOrder (calls.map GatedCall.now)) :
    FocusStopwatch.machine.AllSteps (fun watch call => Timely watch call.now) .start calls := by
  apply Machine.all_steps_of_invariant FocusStopwatch.machine (fun watch rest =>
    TimesInOrder (rest.map GatedCall.now) ∧ ∀ call ∈ rest, Timely watch call.now)
  · intro watch call rest ⟨ordered, ahead⟩
    rw [List.map_cons, TimesInOrder, List.pairwise_cons] at ordered
    refine ⟨ahead call List.mem_cons_self, ordered.2, ?_⟩
    intro later member last running
    rw [watching_step watch call last running]
    exact ordered.1 later.now (List.mem_map_of_mem member)
  · refine ⟨ordered, fun call member last running => ?_⟩
    cases running

theorem run_shows (calls : List GatedCall) (ordered : TimesInOrder (calls.map GatedCall.now)) :
    (GatedForeground.machine.outputs .new calls).map (·.filterMap dwellOf) =
      FocusStopwatch.machine.outputs .start calls :=
  (Machine.shows_along GatedForeground.machine FocusStopwatch.machine SegmentShows
    (fun rows => rows.filterMap dwellOf) (fun watch call => Timely watch call.now) step_shows calls
    (.free rfl rfl) (timely_of_in_order calls ordered)).2

end Refinement

section Pauses

/-- While the gate is shut nothing is open, and under a user's pause nothing was left. -/
structure GatedForeground.Kept (foreground : GatedForeground) : Prop where
  free : foreground.lastGate ≠ .enabled → foreground.state.current = none
  forgotten : foreground.lastGate = .pausedByUser → foreground.state.lastUnfocusedAt = ∅

theorem end_current_none (state : ForegroundState) (lastPoll : Option Instant) (now : Instant) :
    (endCurrentGapCappedAt state lastPoll now).1.current = none := by
  unfold endCurrentGapCappedAt ForegroundState.endCurrentAtWithDurationLimit
  cases current : state.current with
  | none => exact current
  | some previous => rfl

theorem end_at_gate_none {foreground : GatedForeground} (kept : foreground.Kept) (now : Instant) :
    (foreground.endAtGate now).1.current = none := by
  unfold GatedForeground.endAtGate
  split_ifs with wasOpen
  · exact end_current_none foreground.state foreground.lastPoll now
  · exact kept.free wasOpen

/-- A pass under a user's pause leaves the state that a new source starts from. -/
theorem shut_by_user {foreground : GatedForeground} (kept : foreground.Kept) (now : Instant) :
    (foreground.shut now .pausedByUser).1 = ⟨.default, some now, .pausedByUser⟩ := by
  have free := end_at_gate_none kept now
  have cleared : ∀ state : ForegroundState, state.current = none →
      state.lastUnfocusedAt = ∅ → state = .default := by
    intro state current left
    cases state
    simp_all [ForegroundState.default]
  by_cases earlier : foreground.lastGate = .pausedByUser
  · have same : foreground.endAtGate now = (foreground.state, none) := by
      simp [GatedForeground.endAtGate, earlier]
    rw [same] at free
    simp [GatedForeground.shut, earlier, same, cleared _ free (kept.forgotten earlier)]
  · simp only [GatedForeground.shut, earlier, ne_eq, not_false_eq_true, and_self, if_true]
    rw [cleared (ForegroundState.clearUnfocusedCorrelations _) free rfl]

theorem shut_kept {foreground : GatedForeground} (kept : foreground.Kept) (now : Instant)
    {gate : PollGate} (shut : gate ≠ .enabled) : (foreground.shut now gate).1.Kept := by
  cases gate with
  | enabled => exact absurd rfl shut
  | pausedByUser =>
      rw [shut_by_user kept now]
      exact ⟨fun _ => rfl, fun _ => rfl⟩
  | blockedBySession =>
      constructor
      · intro _
        simpa [GatedForeground.shut] using end_at_gate_none kept now
      · intro paused
        cases paused

theorem step_kept {foreground : GatedForeground} (kept : foreground.Kept) (call : GatedCall) :
    (foreground.step call).1.Kept := by
  cases call with
  | poll now gate fed =>
      cases gate with
      | enabled => exact ⟨fun shut => absurd rfl shut, fun paused => nomatch paused⟩
      | pausedByUser => exact shut_kept kept now (by decide)
      | blockedBySession => exact shut_kept kept now (by decide)
  | flush now =>
      constructor
      · intro _
        exact end_current_none foreground.state foreground.lastPoll now
      · intro paused
        have free := kept.free (by simp_all [GatedForeground.step])
        simpa [GatedForeground.step, end_free free] using kept.forgotten paused

theorem new_kept : GatedForeground.new.Kept := ⟨fun _ => rfl, fun _ => rfl⟩

end Pauses

end Gilbreth.Macos
