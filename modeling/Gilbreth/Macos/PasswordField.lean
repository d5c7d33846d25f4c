import Gilbreth.Core.Event
import Gilbreth.Library.Machine

/-!
# The password-field probe of macOS

The monitor asks an accessibility source whether the focused field is secure. It keeps one
answer for a while, holds the gate up while it has none, and records a confirmed field as a
span of two rows. Whatever the source answers is an input here.
-/

set_option autoImplicit false

namespace Gilbreth.Macos

open Core (Captured Instant millisecond saturatingDurationSince)

inductive SecureFieldProbe where
  | answered (isSecure : Bool)
  | cannotAnswer
  | apiDisabled
deriving DecidableEq

def probeCacheTtl : Nat := 2000 * millisecond

def notSecureProbeCacheTtl : Nat := 250 * millisecond

def unresolvedStreakFirstWarn : Nat := 25

def unresolvedStreakWarnEvery : Nat := 1000

def unresolvedStreakWarns (streak : Nat) : Bool :=
  streak == unresolvedStreakFirstWarn ||
    (decide (unresolvedStreakFirstWarn < streak) &&
      (streak - unresolvedStreakFirstWarn) % unresolvedStreakWarnEvery == 0)

structure ProbeCache where
  windowId : UInt64
  isPassword : Bool
  focusGeneration : UInt64
  resolvedAt : Instant
deriving DecidableEq

structure PasswordFieldMonitor where
  cache : Option ProbeCache
  lastWindowId : Option UInt64
  probeWasLive : Bool
  unresolved : Bool
  unresolvedStreak : Nat
  appUnanswered : List (Int32 × Nat)

/-- What the monitor shares of `CaptureControls`. -/
structure PasswordControls where
  fieldActive : Bool
  confirmedActive : Bool
  focusGeneration : UInt64

structure MonitorState where
  monitor : PasswordFieldMonitor
  controls : PasswordControls

/-- What a call leaves: rows, the probe's answer if it asked, an app it announced itself to,
whether it took its announcements back, and what it returns. -/
structure Report where
  rows : List Captured
  asked : Option SecureFieldProbe
  announced : Option Int32
  retracted : Bool
  redact : Bool
  apiDisabled : Bool

def Report.silent : Report := ⟨[], none, none, false, false, false⟩

def enteredRow (now : Instant) : Captured :=
  ⟨.system, now, .sensitiveContextEntered .passwordField⟩

def exitedRow (now : Instant) : Captured :=
  ⟨.system, now, .sensitiveContextExited .passwordField⟩

namespace PasswordControls

/-- A new `CaptureControls`. -/
def new : PasswordControls := ⟨false, false, 0⟩

def setPasswordFieldGate (controls : PasswordControls) (active : Bool) : PasswordControls :=
  { controls with fieldActive := active }

/-- Swaps the confirmed flag and writes a row where that changed it. -/
def swapConfirmed (controls : PasswordControls) (confirmed : Bool) (now : Instant) :
    PasswordControls × List Captured :=
  ({ controls with confirmedActive := confirmed },
    if controls.confirmedActive = confirmed then []
    else if confirmed then [enteredRow now] else [exitedRow now])

def emitConfirmedSample (controls : PasswordControls) (isPassword : Bool) (now : Instant) :
    PasswordControls × List Captured :=
  (controls.setPasswordFieldGate isPassword).swapConfirmed isPassword now

def markPasswordFocusChanged (controls : PasswordControls) : PasswordControls :=
  { controls with focusGeneration := controls.focusGeneration + 1 }

end PasswordControls

namespace PasswordFieldMonitor

def new : PasswordFieldMonitor := ⟨none, none, false, false, 0, []⟩

/-- The count of an app after one more unanswered probe, and the counts of all apps. -/
def appUnansweredBump (counts : List (Int32 × Nat)) (pid : Int32) :
    Nat × List (Int32 × Nat) :=
  match counts with
  | [] => (1, [(pid, 1)])
  | (cached, count) :: rest =>
      if cached = pid then (count + 1, (cached, count + 1) :: rest)
      else
        let bumped := appUnansweredBump rest pid
        (bumped.1, (cached, count) :: bumped.2)

def appUnansweredClear (counts : List (Int32 × Nat)) (pid : Int32) : List (Int32 × Nat) :=
  counts.filter fun entry => entry.1 != pid

/-- The answer that still counts for a window. -/
def cached (monitor : PasswordFieldMonitor) (windowId : UInt64) (now : Instant)
    (controls : PasswordControls) : Option Bool :=
  monitor.cache.bind fun cached =>
    let ttl := if cached.isPassword then probeCacheTtl else notSecureProbeCacheTtl
    if cached.windowId = windowId ∧ cached.focusGeneration = controls.focusGeneration ∧
        saturatingDurationSince now cached.resolvedAt ≤ ttl then some cached.isPassword
    else none

end PasswordFieldMonitor

namespace MonitorState

def new : MonitorState := ⟨.new, .new⟩

def resolve (state : MonitorState) (windowId : Option UInt64) (appPid : Option Int32)
    (now : Instant) (answer : SecureFieldProbe) : MonitorState × Report :=
  let monitor := state.monitor
  match answer with
  | .answered isSecure =>
      let emitted := state.controls.emitConfirmedSample isSecure now
      let cache :=
        match windowId with
        | some windowId => some ⟨windowId, isSecure, state.controls.focusGeneration, now⟩
        | none => monitor.cache
      let counts :=
        match appPid with
        | some pid => PasswordFieldMonitor.appUnansweredClear monitor.appUnanswered pid
        | none => monitor.appUnanswered
      (⟨{ monitor with
            unresolved := false, unresolvedStreak := 0, appUnanswered := counts,
            cache := cache }, emitted.1⟩,
        { Report.silent with rows := emitted.2, asked := some answer, redact := isSecure })
  | .cannotAnswer =>
      -- Pid 0 stands for no app; without an app nothing is announced.
      let bumped := (appPid.filter fun pid => decide (0 < pid)).map fun pid =>
        (pid, PasswordFieldMonitor.appUnansweredBump monitor.appUnanswered pid)
      let counts := (bumped.map fun app => app.2.2).getD monitor.appUnanswered
      let announced := (bumped.filter fun app => unresolvedStreakWarns app.2.1).map Prod.fst
      (⟨{ monitor with
            cache := none, unresolved := true,
            unresolvedStreak := monitor.unresolvedStreak + 1, appUnanswered := counts },
          state.controls.setPasswordFieldGate true⟩,
        { Report.silent with asked := some answer, announced := announced, redact := true })
  | .apiDisabled =>
      (⟨{ monitor with
            cache := none, unresolved := true, unresolvedStreak := 0, appUnanswered := [] },
          state.controls.setPasswordFieldGate true⟩,
        { Report.silent with asked := some answer, redact := true, apiDisabled := true })

def onProbeLiveness (state : MonitorState) (live : Bool) (now : Instant) :
    MonitorState × Report :=
  if live = state.monitor.probeWasLive then (state, Report.silent)
  else
    let monitor : PasswordFieldMonitor :=
      { state.monitor with
        probeWasLive := live, cache := none, unresolvedStreak := 0, appUnanswered := [] }
    if live then
      (⟨{ monitor with unresolved := true }, state.controls.setPasswordFieldGate true⟩,
        Report.silent)
    else
      let swapped := (state.controls.setPasswordFieldGate false).swapConfirmed false now
      (⟨{ monitor with unresolved := false }, swapped.1⟩,
        { Report.silent with rows := swapped.2, retracted := true })

def noteFocus (state : MonitorState) (windowId : Option UInt64) (appPid : Option Int32)
    (probeLive : Bool) (now : Instant) (answer : SecureFieldProbe) : MonitorState × Report :=
  if windowId = state.monitor.lastWindowId then (state, Report.silent)
  else
    let monitor := { state.monitor with lastWindowId := windowId }
    let controls := state.controls.markPasswordFocusChanged
    if probeLive = false then (⟨monitor, controls⟩, Report.silent)
    else
      let unresolved : MonitorState :=
        ⟨{ monitor with cache := none, unresolved := true }, controls.setPasswordFieldGate true⟩
      let resolved := unresolved.resolve windowId appPid now answer
      if resolved.1.monitor.unresolved then
        -- A span does not outlive the window it was confirmed in.
        let swapped := resolved.1.controls.swapConfirmed false now
        (⟨resolved.1.monitor, swapped.1⟩,
          { resolved.2 with rows := resolved.2.rows ++ swapped.2 })
      else resolved

def redactKeyAt (state : MonitorState) (windowId : Option UInt64) (appPid : Option Int32)
    (now : Instant) (answer : SecureFieldProbe) : MonitorState × Report :=
  let cached : Option Bool :=
    if state.monitor.unresolved then none
    else windowId.bind fun id => state.monitor.cached id now state.controls
  match cached with
  | some cached => (state, { Report.silent with redact := cached })
  | none => state.resolve windowId appPid now answer

end MonitorState

/-- The pump's calls, each with the answer a probe would get during it. -/
inductive Call where
  | liveness (live : Bool) (now : Instant)
  | focus (windowId : Option UInt64) (appPid : Option Int32) (now : Instant)
      (answer : SecureFieldProbe)
  | key (windowId : Option UInt64) (appPid : Option Int32) (now : Instant)
      (answer : SecureFieldProbe)

namespace MonitorState

/-- `note_focus` is passed the current liveness. -/
def machine : Machine MonitorState Call Report where
  step state call :=
    match call with
    | .liveness live now => state.onProbeLiveness live now
    | .focus windowId appPid now answer =>
        state.noteFocus windowId appPid state.monitor.probeWasLive now answer
    | .key windowId appPid now answer => state.redactKeyAt windowId appPid now answer

end MonitorState

/-- The pump asks about a key only while the probe is live. -/
def Call.Allowed (state : MonitorState) : Call → Prop
  | .key .. => state.monitor.probeWasLive = true
  | _ => True

/-- The pump sees another focused window. -/
def Call.changesWindow (state : MonitorState) : Call → Bool
  | .focus windowId _ _ _ => decide (windowId ≠ state.monitor.lastWindowId)
  | _ => false

def Call.changesLiveness (state : MonitorState) : Call → Bool
  | .liveness live _ => live != state.monitor.probeWasLive
  | _ => false

end Gilbreth.Macos
