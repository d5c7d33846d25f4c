import Mathlib
import Gilbreth.Macos.GatedForeground
import Gilbreth.Library.FreshIds

/-!
# The macOS foreground source

The frontmost application is polled, and its focused window too where that is allowed. Both get
synthetic identifiers from one counter, for the life of the run.
-/

set_option autoImplicit false

namespace Gilbreth.Macos

open Gilbreth.Core (Captured ForegroundState Instant WindowRef millisecond saturatingDurationSince)

section Model

structure FrontmostApp where
  pid : Int32
  exe : String

def windowProbeInterval : Nat := 250 * millisecond

inductive WindowProbe (Key : Type) where
  | window (key : Key) (title : String)
  | noFocusedWindow
  | failed
  | apiDisabled

structure PollReport where
  axApiDisabled : Bool
deriving DecidableEq

structure ForegroundPoller (Key : Type) where
  state : ForegroundState
  syntheticIds : AList fun _ : Int32 => UInt64
  windowIds : List (Int32 × Key × UInt64)
  nextSyntheticId : UInt64
  lastPoll : Option Instant
  lastWindowProbe : Option Instant
  lastGate : PollGate

/-- The arguments of a pass, with what the two providers answer in it. -/
structure Pass (Key : Type) where
  now : Instant
  gate : PollGate
  windows : Bool
  frontmost : Option FrontmostApp
  probe : WindowProbe Key

/-- `u32::try_from(pid).unwrap_or(0)`. -/
def appPid (pid : Int32) : UInt32 := if pid < 0 then 0 else pid.toUInt32

namespace ForegroundPoller

variable {Key : Type} [DecidableEq Key]

def new : ForegroundPoller Key := ⟨.default, ∅, [], 1, none, none, .pausedByUser⟩

def appGranularRef (poller : ForegroundPoller Key) (app : FrontmostApp) :
    ForegroundPoller Key × WindowRef :=
  match poller.syntheticIds.lookup app.pid with
  | some syntheticId => (poller, ⟨syntheticId, app.exe, "", appPid app.pid⟩)
  | none =>
      let id := poller.nextSyntheticId
      ({ poller with
          syntheticIds := poller.syntheticIds.insert app.pid id
          nextSyntheticId := id + 1 },
        ⟨id, app.exe, "", appPid app.pid⟩)

def windowId (poller : ForegroundPoller Key) (pid : Int32) (key : Key) :
    ForegroundPoller Key × UInt64 :=
  match poller.windowIds.find? fun cached => cached.1 == pid && cached.2.1 == key with
  | some cached => (poller, cached.2.2)
  | none =>
      let id := poller.nextSyntheticId
      ({ poller with
          nextSyntheticId := id + 1
          windowIds := poller.windowIds ++ [(pid, key, id)] }, id)

def degradedRef (poller : ForegroundPoller Key) (app : FrontmostApp)
    (currentPid : Option UInt32) : ForegroundPoller Key × Option WindowRef :=
  if currentPid = some (appPid app.pid) then (poller, none)
  else
    let (poller, window) := poller.appGranularRef app
    (poller, some window)

def currentPid (poller : ForegroundPoller Key) : Option UInt32 :=
  poller.state.current.map fun current => current.window.pid

def resolveWindowRef (poller : ForegroundPoller Key) (now : Instant) (app : FrontmostApp)
    (windows : Bool) (probe : WindowProbe Key) :
    ForegroundPoller Key × Option WindowRef × PollReport :=
  if windows = false then
    let (poller, window) := { poller with lastWindowProbe := none }.appGranularRef app
    (poller, some window, ⟨false⟩)
  else
    let currentPid := poller.currentPid
    let probeDue := currentPid != some (appPid app.pid) ||
      poller.lastWindowProbe.all fun last =>
        decide (windowProbeInterval ≤ saturatingDurationSince now last)
    if probeDue = false then (poller, none, ⟨false⟩)
    else
      let poller := { poller with lastWindowProbe := some now }
      match probe with
      | .window key title =>
          let (poller, hwnd) := poller.windowId app.pid key
          (poller, some ⟨hwnd, app.exe, title, appPid app.pid⟩, ⟨false⟩)
      | .noFocusedWindow =>
          let (poller, window) := poller.appGranularRef app
          (poller, some window, ⟨false⟩)
      | .failed =>
          let (poller, window) := poller.degradedRef app currentPid
          (poller, window, ⟨false⟩)
      | .apiDisabled =>
          let (poller, window) := poller.degradedRef app currentPid
          (poller, window, ⟨true⟩)

def gapExceedsBoundary (poller : ForegroundPoller Key) (now : Instant) : Bool :=
  Macos.gapExceedsBoundary poller.state poller.lastPoll now

def endCurrentGapCappedAt (poller : ForegroundPoller Key) (now : Instant) :
    ForegroundPoller Key × Option Captured :=
  let (state, row) := Macos.endCurrentGapCappedAt poller.state poller.lastPoll now
  ({ poller with state := state }, row)

def pollShut (poller : ForegroundPoller Key) (now : Instant) (gate : PollGate) :
    ForegroundPoller Key × List Captured :=
  let (poller, row) :=
    if poller.lastGate = .enabled then poller.endCurrentGapCappedAt now else (poller, none)
  let state :=
    if gate = .pausedByUser ∧ poller.lastGate ≠ .pausedByUser then
      poller.state.clearUnfocusedCorrelations
    else poller.state
  ({ poller with state := state, lastGate := gate, lastPoll := some now }, row.toList)

/-- The start of a pass while the gate is open: a stall closes the segment. -/
def pollStall (poller : ForegroundPoller Key) (now : Instant) :
    ForegroundPoller Key × Option Captured :=
  let poller := { poller with lastGate := .enabled }
  if poller.gapExceedsBoundary now then poller.endCurrentGapCappedAt now else (poller, none)

def seenWindow (poller : ForegroundPoller Key) (pass : Pass Key) :
    ForegroundPoller Key × Option WindowRef × PollReport :=
  match pass.frontmost with
  | none => (poller, none, ⟨false⟩)
  | some app => poller.resolveWindowRef pass.now app pass.windows pass.probe

def poll (poller : ForegroundPoller Key) (pass : Pass Key) :
    ForegroundPoller Key × List Captured × PollReport :=
  if pass.gate ≠ .enabled then
    let (poller, rows) := poller.pollShut pass.now pass.gate
    (poller, rows, ⟨false⟩)
  else
    let (poller, closing) := poller.pollStall pass.now
    let (poller, window, report) := poller.seenWindow pass
    let (state, row) :=
      match window with
      | some window => poller.state.onWindowAt window pass.now
      | none => (poller.state, none)
    ({ poller with state := state, lastPoll := some pass.now },
      closing.toList ++ row.toList, report)

def flushAt (poller : ForegroundPoller Key) (now : Instant) :
    ForegroundPoller Key × List Captured :=
  let (poller, row) := poller.endCurrentGapCappedAt now
  (poller, row.toList)

end ForegroundPoller

/-- What the pump asks of the source. -/
inductive PollerCall (Key : Type) where
  | poll (pass : Pass Key)
  | flush (now : Instant)

def PollerCall.now {Key : Type} : PollerCall Key → Instant
  | .poll pass => pass.now
  | .flush now => now

namespace ForegroundPoller

variable {Key : Type} [DecidableEq Key]

def step (poller : ForegroundPoller Key) :
    PollerCall Key → ForegroundPoller Key × List Captured × PollReport
  | .poll pass => poller.poll pass
  | .flush now =>
      let (poller, rows) := poller.flushAt now
      (poller, rows, ⟨false⟩)

def machine : Machine (ForegroundPoller Key) (PollerCall Key) (List Captured × PollReport) :=
  ⟨step⟩

end ForegroundPoller

end Model

section Observed

namespace ForegroundPoller

variable {Key : Type} [DecidableEq Key]

def gated (poller : ForegroundPoller Key) : GatedForeground :=
  ⟨poller.state, poller.lastPoll, poller.lastGate⟩

/-- The window that a pass feeds to the segment. -/
def fed (poller : ForegroundPoller Key) (pass : Pass Key) : Option WindowRef :=
  if pass.gate ≠ .enabled then none
  else ((poller.pollStall pass.now).1.seenWindow pass).2.1

def gatedCall (poller : ForegroundPoller Key) : PollerCall Key → GatedCall
  | .poll pass => .poll pass.now pass.gate (poller.fed pass)
  | .flush now => .flush now

omit [DecidableEq Key] in
@[simp] theorem app_granular_gated (poller : ForegroundPoller Key) (app : FrontmostApp) :
    (poller.appGranularRef app).1.gated = poller.gated := by
  unfold appGranularRef
  cases poller.syntheticIds.lookup app.pid <;> rfl

@[simp] theorem window_id_gated (poller : ForegroundPoller Key) (pid : Int32) (key : Key) :
    (poller.windowId pid key).1.gated = poller.gated := by
  unfold windowId
  split <;> rfl

omit [DecidableEq Key] in
@[simp] theorem degraded_gated (poller : ForegroundPoller Key) (app : FrontmostApp)
    (currentPid : Option UInt32) : (poller.degradedRef app currentPid).1.gated = poller.gated := by
  unfold degradedRef
  split_ifs
  · rfl
  · exact app_granular_gated poller app

theorem resolve_gated (poller : ForegroundPoller Key) (now : Instant) (app : FrontmostApp)
    (windows : Bool) (probe : WindowProbe Key) :
    (poller.resolveWindowRef now app windows probe).1.gated = poller.gated := by
  unfold resolveWindowRef
  dsimp only
  split_ifs
  · exact app_granular_gated _ app
  · rfl
  · cases probe with
    | window key title => exact window_id_gated _ app.pid key
    | noFocusedWindow => exact app_granular_gated _ app
    | failed => exact degraded_gated _ app _
    | apiDisabled => exact degraded_gated _ app _

theorem seen_gated (poller : ForegroundPoller Key) (pass : Pass Key) :
    (poller.seenWindow pass).1.gated = poller.gated := by
  unfold seenWindow
  cases pass.frontmost with
  | none => rfl
  | some app => exact resolve_gated poller pass.now app pass.windows pass.probe

omit [DecidableEq Key] in
theorem poll_shut_gated (poller : ForegroundPoller Key) (now : Instant) (gate : PollGate) :
    ((poller.pollShut now gate).1.gated, (poller.pollShut now gate).2) =
      poller.gated.shut now gate := by
  unfold pollShut GatedForeground.shut GatedForeground.endAtGate
  by_cases wasOpen : poller.lastGate = .enabled
  · simp [wasOpen, gated, endCurrentGapCappedAt]
  · simp [wasOpen, gated]

omit [DecidableEq Key] in
theorem poll_stall_gated (poller : ForegroundPoller Key) (now : Instant) :
    (poller.pollStall now).1.gated =
        ⟨(poller.gated.endAtStall now).1, poller.lastPoll, .enabled⟩ ∧
      (poller.pollStall now).2 = (poller.gated.endAtStall now).2 := by
  unfold pollStall gapExceedsBoundary GatedForeground.endAtStall
  by_cases stalled : Macos.gapExceedsBoundary poller.state poller.lastPoll now = true
  · simp [stalled, gated, endCurrentGapCappedAt]
  · simp [stalled, gated]

theorem step_gated (poller : ForegroundPoller Key) (call : PollerCall Key) :
    ((poller.step call).1.gated, (poller.step call).2.1) =
      poller.gated.step (poller.gatedCall call) := by
  cases call with
  | poll pass =>
      cases gate : pass.gate with
      | enabled =>
          have stall := poll_stall_gated poller pass.now
          have seen := seen_gated (poller.pollStall pass.now).1 pass
          rw [stall.1] at seen
          simp only [step, poll, gatedCall, fed, gate, GatedForeground.step,
            GatedForeground.observe, ne_eq, not_true_eq_false, if_false, stall.2]
          generalize (poller.pollStall pass.now).1.seenWindow pass = answer at seen ⊢
          simp only [gated, GatedForeground.mk.injEq] at seen ⊢
          cases answer.2.1 with
          | none => simp [seen.1, seen.2.2]
          | some window => simp [seen.1, seen.2.2]
      | pausedByUser =>
          simpa [step, poll, gatedCall, gate, GatedForeground.step] using
            poll_shut_gated poller pass.now .pausedByUser
      | blockedBySession =>
          simpa [step, poll, gatedCall, gate, GatedForeground.step] using
            poll_shut_gated poller pass.now .blockedBySession
  | flush now => rfl

/-- What the calls of a run are to the segment. -/
def gatedCalls (calls : List (PollerCall Key)) : List GatedCall :=
  machine.inputsAlong gatedCall new calls

/-- Whatever the providers answer, and through every stall, shut gate and boundary, the dwell that
is reported is the time that was observed. -/
theorem dwell_is_observed (calls : List (PollerCall Key))
    (ordered : TimesInOrder (calls.map PollerCall.now)) :
    ((machine.outputs new calls).map fun answer => answer.1.filterMap dwellOf) =
      FocusStopwatch.machine.outputs .start (gatedCalls calls) := by
  have reported : (machine.outputs new calls).map Prod.fst =
      GatedForeground.machine.outputs .new (gatedCalls calls) :=
    (Machine.runs_through machine GatedForeground.machine gated Prod.fst gatedCall step_gated
      new calls).2
  have times : (gatedCalls calls).map GatedCall.now = calls.map PollerCall.now := by
    apply Machine.inputs_along_map
    intro poller call
    cases call <;> rfl
  rw [← run_shows (gatedCalls calls) (by rwa [times]), ← reported, List.map_map]
  rfl

/-- A switch of the application, a second of it, and a stall before the end. -/
def stalledRun : List (PollerCall Unit) :=
  [.poll ⟨⟨0⟩, .enabled, false, some ⟨1, "editor"⟩, .failed⟩,
    .poll ⟨⟨2000000000⟩, .enabled, false, some ⟨2, "mail"⟩, .failed⟩,
    .poll ⟨⟨3000000000⟩, .enabled, false, none, .failed⟩, .flush ⟨90000000000⟩]

theorem dwell_is_observed_stalled :
    ((machine.outputs new stalledRun).map fun answer => answer.1.filterMap dwellOf) =
      [[], [(⟨1, "editor", "", 1⟩, 2000)], [], [(⟨2, "mail", "", 2⟩, 1000)]] :=
  (dwell_is_observed stalledRun (by simp [stalledRun, TimesInOrder, PollerCall.now])).trans
    (by decide)

end ForegroundPoller

end Observed

section Pauses

namespace ForegroundPoller

variable {Key : Type} [DecidableEq Key]

/-- A source without a poll yet, that knows the identifiers it gave out. -/
def restarted (poller : ForegroundPoller Key) : ForegroundPoller Key :=
  { (new : ForegroundPoller Key) with
    syntheticIds := poller.syntheticIds
    windowIds := poller.windowIds
    nextSyntheticId := poller.nextSyntheticId }

/-- Where no segment is open, the times of the last poll and probe mean nothing. -/
def Alike (left right : ForegroundPoller Key) : Prop :=
  left = right ∨ left.state.current = none ∧ ∃ lastPoll lastWindowProbe,
    right = { left with lastPoll := lastPoll, lastWindowProbe := lastWindowProbe }

theorem resolve_free (poller : ForegroundPoller Key) (free : poller.state.current = none)
    (lastPoll lastWindowProbe : Option Instant) (now : Instant) (app : FrontmostApp)
    (windows : Bool) (probe : WindowProbe Key) :
    let again := { poller with lastPoll := lastPoll, lastWindowProbe := lastWindowProbe }
    let answer := poller.resolveWindowRef now app windows probe
    again.resolveWindowRef now app windows probe =
      ({ answer.1 with lastPoll := lastPoll }, answer.2) := by
  cases windows with
  | false =>
      simp only [resolveWindowRef, appGranularRef, if_true]
      cases poller.syntheticIds.lookup app.pid <;> rfl
  | true =>
      have due : ((none : Option UInt32) != some (appPid app.pid)) = true := rfl
      simp only [resolveWindowRef, currentPid, free, Option.map_none, due, Bool.true_or,
        Bool.true_eq_false, if_false]
      cases probe with
      | window key title =>
          simp only [windowId]
          cases poller.windowIds.find? _ <;> rfl
      | noFocusedWindow =>
          simp only [appGranularRef]
          cases poller.syntheticIds.lookup app.pid <;> rfl
      | failed =>
          simp only [degradedRef, appGranularRef]
          cases poller.syntheticIds.lookup app.pid <;> rfl
      | apiDisabled =>
          simp only [degradedRef, appGranularRef]
          cases poller.syntheticIds.lookup app.pid <;> rfl

omit [DecidableEq Key] in
theorem poll_shut_free (poller : ForegroundPoller Key) (free : poller.state.current = none)
    (now : Instant) (gate : PollGate) :
    poller.pollShut now gate =
      ({ poller with
          state := if gate = .pausedByUser ∧ poller.lastGate ≠ .pausedByUser then
            poller.state.clearUnfocusedCorrelations else poller.state
          lastGate := gate
          lastPoll := some now }, []) := by
  simp [pollShut, endCurrentGapCappedAt, end_free free]

theorem alike_step {left right : ForegroundPoller Key} (alike : Alike left right)
    (call : PollerCall Key) :
    Alike (left.step call).1 (right.step call).1 ∧ (left.step call).2 = (right.step call).2 := by
  obtain rfl | ⟨free, lastPoll, lastWindowProbe, rfl⟩ := alike
  · exact ⟨.inl rfl, rfl⟩
  · have ended := fun last now => end_free free last now
    cases call with
    | flush now =>
        simp only [step, flushAt, endCurrentGapCappedAt, ended, Option.toList_none, and_true]
        exact .inr ⟨free, lastPoll, lastWindowProbe, rfl⟩
    | poll pass =>
        have steady : ∀ last now, Macos.gapExceedsBoundary left.state last now = false := by
          simp [Macos.gapExceedsBoundary, free]
        by_cases gate : pass.gate = .enabled
        · simp only [step, poll, gate, pollStall, gapExceedsBoundary, steady, ne_eq,
            not_true_eq_false, if_false, Bool.false_eq_true, Option.toList_none, List.nil_append]
          cases front : pass.frontmost with
          | none =>
              simp only [seenWindow, front, and_true]
              exact .inr ⟨free, some pass.now, lastWindowProbe, rfl⟩
          | some app =>
              have same := resolve_free { left with lastGate := .enabled } free lastPoll
                lastWindowProbe pass.now app pass.windows pass.probe
              simp only [seenWindow, front]
              rw [same]
              exact ⟨.inl rfl, rfl⟩
        · simp only [step, poll, gate, ne_eq, not_false_eq_true, if_true, poll_shut_free left free,
            poll_shut_free { left with
              lastPoll := lastPoll, lastWindowProbe := lastWindowProbe } free, and_true]
          refine .inr ⟨?_, some pass.now, lastWindowProbe, rfl⟩
          split_ifs
          · exact free
          · exact free

theorem run_kept (calls : List (PollerCall Key)) : (machine.run new calls).gated.Kept := by
  apply machine.run_invariant (fun poller => poller.gated.Kept)
  · intro poller call kept
    have step : (poller.step call).1.gated = (poller.gated.step (poller.gatedCall call)).1 :=
      congrArg Prod.fst (step_gated poller call)
    change (poller.step call).1.gated.Kept
    rw [step]
    exact step_kept kept (poller.gatedCall call)
  · exact new_kept

theorem paused_alike {poller : ForegroundPoller Key} (kept : poller.gated.Kept)
    (pass : Pass Key) (paused : pass.gate = .pausedByUser) :
    Alike (poller.step (.poll pass)).1.restarted (poller.step (.poll pass)).1 := by
  have shut : (poller.step (.poll pass)).1 = (poller.pollShut pass.now .pausedByUser).1 := by
    simp [step, poll, paused]
  have forgotten := (congrArg Prod.fst (poll_shut_gated poller pass.now .pausedByUser)).trans
    (shut_by_user kept pass.now)
  rw [shut]
  generalize (poller.pollShut pass.now .pausedByUser).1 = after at forgotten ⊢
  simp only [gated, GatedForeground.mk.injEq] at forgotten
  refine .inr ⟨rfl, after.lastPoll, after.lastWindowProbe, ?_⟩
  cases after
  simp_all [restarted, new]

/-- Nothing that was seen before a user's pause, nor how long it took, shows in a row after it:
the rows are those of a new source that knows the identifiers. -/
theorem pause_leaves_no_trace (before after : List (PollerCall Key)) (pass : Pass Key)
    (paused : pass.gate = .pausedByUser) :
    let poller := machine.run new (before ++ [.poll pass])
    machine.outputs poller after = machine.outputs poller.restarted after := by
  have same := machine.runs_related Alike Eq
    (fun left right call _ alike equal => by
      subst equal
      exact alike_step alike call)
    (List.forall₂_refl after) _ _ (paused_alike (run_kept before) pass paused)
  intro poller
  rw [show poller = ((machine.run new before).step (.poll pass)).1 from
    machine.run_append new before [.poll pass]]
  exact same.2.symm

private def afterPause : List (PollerCall Unit) :=
  [.poll ⟨⟨95000000000⟩, .enabled, false, some ⟨2, "mail"⟩, .failed⟩,
    .poll ⟨⟨96000000000⟩, .enabled, false, some ⟨1, "editor"⟩, .failed⟩, .flush ⟨97000000000⟩]

theorem pause_leaves_no_trace_stalled :
    let poller := machine.run new
      (stalledRun ++ [.poll ⟨⟨91000000000⟩, .pausedByUser, false, none, .failed⟩])
    machine.outputs poller afterPause = machine.outputs poller.restarted afterPause :=
  pause_leaves_no_trace stalledRun afterPause _ rfl

end ForegroundPoller

end Pauses

section Identifiers

/-- What a synthetic identifier stands for, at either granularity. -/
inductive Subject (Key : Type) where
  | app (pid : Int32)
  | window (pid : Int32) (key : Key)
deriving DecidableEq

/-- What the providers show of an application. -/
def subjectOf {Key : Type} (app : FrontmostApp) (windows : Bool) (probe : WindowProbe Key) :
    Subject Key :=
  match windows, probe with
  | true, .window key _ => .window app.pid key
  | _, _ => .app app.pid

namespace ForegroundPoller

variable {Key : Type} [DecidableEq Key]

def idOf (poller : ForegroundPoller Key) : Subject Key → Option Nat
  | .app pid => (poller.syntheticIds.lookup pid).map UInt64.toNat
  | .window pid key =>
      (poller.windowIds.find? fun cached => cached.1 == pid && cached.2.1 == key).map
        fun cached => cached.2.2.toNat

/-- The subject and the identifier of the window that a call feeds to the segment. -/
def identified (poller : ForegroundPoller Key) : PollerCall Key → Option (Subject Key × Nat)
  | .poll pass =>
      pass.frontmost.bind fun app => (poller.fed pass).map fun window =>
        (subjectOf app pass.windows pass.probe, window.hwnd.toNat)
  | .flush _ => none

def identifiedAlong (calls : List (PollerCall Key)) : List (Subject Key × Nat) :=
  (machine.inputsAlong identified new calls).filterMap id

/-- The tables and the counter say what was given out. -/
def Identifies (poller : ForegroundPoller Key) (given : List (Subject Key × Nat)) : Prop :=
  FreshIds 1 poller.nextSyntheticId.toNat poller.idOf given

/-- What was given out, and how far the counter went on. -/
def IdentifiesNext (poller after : ForegroundPoller Key) (given : List (Subject Key × Nat)) :
    Prop :=
  after.Identifies given ∧
    after.nextSyntheticId.toNat ≤ poller.nextSyntheticId.toNat + 1

variable {poller : ForegroundPoller Key} {given : List (Subject Key × Nat)}

theorem app_granular_identifies (identifies : poller.Identifies given)
    (room : poller.nextSyntheticId.toNat + 1 < 2 ^ 64) (app : FrontmostApp) :
    poller.IdentifiesNext (poller.appGranularRef app).1
      ((.app app.pid, (poller.appGranularRef app).2.hwnd.toNat) :: given) := by
  cases known : poller.syntheticIds.lookup app.pid with
  | some id =>
      simp only [appGranularRef, known]
      exact ⟨identifies.again (by simp [idOf, known]), Nat.le_succ _⟩
  | none =>
      simp only [appGranularRef, known, IdentifiesNext, Identifies]
      have counted : (poller.nextSyntheticId + 1).toNat = poller.nextSyntheticId.toNat + 1 := by
        rw [UInt64.toNat_add]
        exact Nat.mod_eq_of_lt room
      rw [counted]
      refine ⟨identifies.fresh_next (by simp [idOf, known]) ?_, le_refl _⟩
      funext other
      cases other with
      | app pid =>
          by_cases same : pid = app.pid
          · subst same
            simp [idOf, AList.lookup_insert]
          · simp [idOf, same, Function.update]
      | window pid key => simp [idOf, Function.update]

theorem window_id_identifies (identifies : poller.Identifies given)
    (room : poller.nextSyntheticId.toNat + 1 < 2 ^ 64) (pid : Int32) (key : Key) :
    poller.IdentifiesNext (poller.windowId pid key).1
      ((.window pid key, (poller.windowId pid key).2.toNat) :: given) := by
  cases known : poller.windowIds.find? fun cached => cached.1 == pid && cached.2.1 == key with
  | some cached =>
      simp only [windowId, known]
      exact ⟨identifies.again (by simp [idOf, known]), Nat.le_succ _⟩
  | none =>
      simp only [windowId, known, IdentifiesNext, Identifies]
      have counted : (poller.nextSyntheticId + 1).toNat = poller.nextSyntheticId.toNat + 1 := by
        rw [UInt64.toNat_add]
        exact Nat.mod_eq_of_lt room
      rw [counted]
      refine ⟨identifies.fresh_next (by simp [idOf, known]) ?_, le_refl _⟩
      funext other
      cases other with
      | app other => simp [idOf, Function.update]
      | window other otherKey =>
          by_cases same : other = pid ∧ otherKey = key
          · obtain ⟨rfl, rfl⟩ := same
            simp [idOf, List.find?_append, known]
          · have apart : ¬(pid = other ∧ key = otherKey) := by
              rintro ⟨rfl, rfl⟩
              exact same ⟨rfl, rfl⟩
            simp [idOf, List.find?_append, same, apart, Function.update]

theorem degraded_identifies (identifies : poller.Identifies given)
    (room : poller.nextSyntheticId.toNat + 1 < 2 ^ 64) (app : FrontmostApp)
    (currentPid : Option UInt32) :
    poller.IdentifiesNext (poller.degradedRef app currentPid).1
      (((poller.degradedRef app currentPid).2.map fun window =>
        (Subject.app app.pid, window.hwnd.toNat)).toList ++ given) := by
  unfold degradedRef
  split_ifs
  · exact ⟨identifies, Nat.le_succ _⟩
  · exact app_granular_identifies identifies room app

theorem resolve_identifies (identifies : poller.Identifies given)
    (room : poller.nextSyntheticId.toNat + 1 < 2 ^ 64) (now : Instant) (app : FrontmostApp)
    (windows : Bool) (probe : WindowProbe Key) :
    let answer := poller.resolveWindowRef now app windows probe
    poller.IdentifiesNext answer.1
      ((answer.2.1.map fun window =>
        (subjectOf app windows probe, window.hwnd.toNat)).toList ++ given) := by
  intro answer
  have probed : ∀ probedAt, { poller with lastWindowProbe := probedAt }.Identifies given :=
    fun _ => identifies
  cases windows with
  | false => exact app_granular_identifies (probed none) room app
  | true =>
      by_cases due : (poller.currentPid != some (appPid app.pid) ||
          poller.lastWindowProbe.all fun last =>
            decide (windowProbeInterval ≤ saturatingDurationSince now last)) = true
      · simp only [answer, resolveWindowRef, due, Bool.true_eq_false, if_false]
        cases probe with
        | window key title => exact window_id_identifies (probed (some now)) room app.pid key
        | noFocusedWindow => exact app_granular_identifies (probed (some now)) room app
        | failed => exact degraded_identifies (probed (some now)) room app _
        | apiDisabled => exact degraded_identifies (probed (some now)) room app _
      · rw [Bool.not_eq_true] at due
        simp only [answer, resolveWindowRef, due, Bool.true_eq_false, if_false, if_true]
        exact ⟨identifies, Nat.le_succ _⟩

theorem step_identifies (identifies : poller.Identifies given)
    (room : poller.nextSyntheticId.toNat + 1 < 2 ^ 64) (call : PollerCall Key) :
    poller.IdentifiesNext (poller.step call).1
      ((poller.identified call).toList ++ given) := by
  cases call with
  | flush now => exact ⟨identifies, Nat.le_succ _⟩
  | poll pass =>
      by_cases gate : pass.gate = .enabled
      · have stall : (poller.pollStall pass.now).1.Identifies given ∧
            (poller.pollStall pass.now).1.nextSyntheticId = poller.nextSyntheticId := by
          simp only [pollStall]
          split_ifs <;> exact ⟨identifies, rfl⟩
        simp only [step, poll, identified, fed, gate, ne_eq, not_true_eq_false, if_false]
        cases front : pass.frontmost with
        | none =>
            simp only [seenWindow, front]
            exact ⟨stall.1, by rw [stall.2]; exact Nat.le_succ _⟩
        | some app =>
            have resolved := resolve_identifies stall.1 (by rwa [stall.2]) pass.now app
              pass.windows pass.probe
            simp only [IdentifiesNext, stall.2] at resolved
            simp only [seenWindow, front, Option.bind_some]
            exact resolved
      · have shut : (poller.pollShut pass.now pass.gate).1.Identifies given ∧
            (poller.pollShut pass.now pass.gate).1.nextSyntheticId = poller.nextSyntheticId := by
          simp only [pollShut]
          split_ifs <;> exact ⟨identifies, rfl⟩
        have nothing : poller.identified (.poll pass) = none := by
          cases front : pass.frontmost <;> simp [identified, fed, gate, front]
        simp only [step, poll, gate, ne_eq, not_false_eq_true, if_true, nothing]
        exact ⟨shut.1, by rw [shut.2]; exact Nat.le_succ _⟩

theorem run_identifies (calls : List (PollerCall Key)) (poller : ForegroundPoller Key)
    (given : List (Subject Key × Nat)) (identifies : poller.Identifies given)
    (room : poller.nextSyntheticId.toNat + calls.length < 2 ^ 64) :
    ∃ all, (machine.run poller calls).Identifies all ∧ given ⊆ all ∧
      (machine.inputsAlong identified poller calls).filterMap id ⊆ all := by
  induction calls generalizing poller given with
  | nil => exact ⟨given, identifies, List.Subset.refl given, List.nil_subset given⟩
  | cons call rest induction =>
      rw [List.length_cons] at room
      have step := step_identifies identifies (by omega) call
      have counted := step.2
      obtain ⟨all, held, earlier, later⟩ := induction _ _ step.1 (by omega)
      refine ⟨all, held, fun entry member => earlier (List.mem_append_right _ member), ?_⟩
      intro entry member
      rw [Machine.inputsAlong, List.filterMap_cons] at member
      cases shown : poller.identified call with
      | none =>
          rw [shown] at member
          exact later member
      | some identity =>
          rw [shown] at member earlier
          rcases List.mem_cons.mp member with rfl | rest
          · exact earlier (by simp)
          · exact later rest

/-- Identifiers of applications and of windows come from one counter and are kept for the run:
two rows carry the same one exactly when they show the same application, or the same window of the
same process. None is zero. -/
theorem identifiers_name_subjects (calls : List (PollerCall Key))
    (room : calls.length + 1 < 2 ^ 64) :
    ∀ left ∈ identifiedAlong calls, left.2 ≠ 0 ∧
      ∀ right ∈ identifiedAlong calls, left.2 = right.2 ↔ left.1 = right.1 := by
  have nothing : ∀ subject, (new : ForegroundPoller Key).idOf subject = none := by
    intro subject
    cases subject <;> simp [new, idOf]
  have fresh : (new : ForegroundPoller Key).Identifies [] := by
    constructor
    · simp
    · intro left right id held
      simp [nothing] at held
    · intro subject id held
      simp [nothing] at held
    · exact le_refl _
  obtain ⟨all, held, -, given⟩ := run_identifies calls new [] fresh (by simp [new]; omega)
  intro left member
  constructor
  · have counted := held.counted _ _ (held.held left (given member))
    omega
  · intro right other
    exact held.same_iff (given member) (given other)

/-- Windows of one key in two processes, and the first application again with and without them. -/
private def returningRun : List (PollerCall Nat) :=
  [.poll ⟨⟨0⟩, .enabled, false, some ⟨1, "editor"⟩, .failed⟩,
    .poll ⟨⟨1000000000⟩, .enabled, true, some ⟨1, "editor"⟩, .window 7 "notes"⟩,
    .poll ⟨⟨2000000000⟩, .enabled, true, some ⟨2, "mail"⟩, .window 7 "inbox"⟩,
    .poll ⟨⟨3000000000⟩, .enabled, true, some ⟨1, "editor"⟩, .window 7 "notes"⟩,
    .poll ⟨⟨4000000000⟩, .enabled, false, some ⟨1, "editor"⟩, .failed⟩]

theorem identifiers_name_subjects_returning :
    identifiedAlong returningRun =
      [(.app 1, 1), (.window 1 7, 2), (.window 2 7, 3), (.window 1 7, 2), (.app 1, 1)] ∧
    ∀ left ∈ identifiedAlong returningRun, left.2 ≠ 0 ∧
      ∀ right ∈ identifiedAlong returningRun, left.2 = right.2 ↔ left.1 = right.1 :=
  ⟨by decide, identifiers_name_subjects returningRun (by simp [returningRun])⟩

end ForegroundPoller

end Identifiers

end Gilbreth.Macos
