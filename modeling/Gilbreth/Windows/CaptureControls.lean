import Gilbreth.App.Config
import Gilbreth.Core.Event

/-!
# The controls that capture shares

Every producer asks the same flags before it hands on a row. The password-field flags and the
focus generation are written by the monitor's thread and read by the message pump.
-/

set_option autoImplicit false

namespace Gilbreth.Windows

open Core (Captured Instant Source)
open App (CaptureStream)

def streamFor (captured : Captured) : CaptureStream :=
  match captured.source with
  | .foreground => .foreground
  | .window => .windows
  | .keyboard => .keyboard
  | .mouse => .mouse
  | .system =>
      match captured.payload with
      | .idle _ | .active _ => .idle
      | _ => .system

structure CaptureControls where
  streams : CaptureStream → Bool
  suspended : Bool
  sensitiveResumeBarrier : Bool
  /-- Producers that are inside a sensitive transition. -/
  sensitiveTransitions : Nat
  sensitiveReconcilePending : Bool
  passwordFieldActive : Bool
  passwordFieldConfirmedActive : Bool
  passwordFocusGeneration : Nat
  idleThresholdMs : UInt64

/-- What became of a boundary row that the monitor sent. -/
inductive SensitiveBoundarySend where
  | delivered | timedOut | disconnected
deriving DecidableEq

structure SensitiveFieldProbeResult where
  isPassword : Bool
  focusGeneration : Nat
deriving DecidableEq

namespace CaptureControls

def new (streams : CaptureStream → Bool) (idleThresholdMs : UInt64) : CaptureControls :=
  ⟨streams, false, false, 0, false, false, false, 0, max idleThresholdMs 1⟩

def enabled (controls : CaptureControls) (stream : CaptureStream) : Bool := controls.streams stream

def sensitiveTransitionShouldDefer (controls : CaptureControls) : Bool :=
  controls.suspended || controls.sensitiveResumeBarrier

def isSuspended (controls : CaptureControls) : Bool :=
  controls.sensitiveTransitionShouldDefer || decide (controls.sensitiveTransitions ≠ 0)

def enabledFor (controls : CaptureControls) (captured : Captured) : Bool :=
  !controls.isSuspended && controls.enabled (streamFor captured)

def setPasswordFieldGate (controls : CaptureControls) (active : Bool) : CaptureControls :=
  { controls with passwordFieldActive := active }

def passwordFieldRow (isPassword : Bool) (now : Instant) : Captured :=
  ⟨.system, now,
    if isPassword then .sensitiveContextEntered .passwordField
    else .sensitiveContextExited .passwordField⟩

/-- `emit_confirmed_password_field_sample`, under the resume guard as a whole. -/
def emitConfirmedPasswordFieldSample (controls : CaptureControls) (isPassword : Bool)
    (now : Instant) (sent : SensitiveBoundarySend) : CaptureControls × List Captured :=
  let previous := controls.passwordFieldConfirmedActive
  let swapped : CaptureControls :=
    { controls with
      passwordFieldActive := isPassword
      passwordFieldConfirmedActive := isPassword }
  if previous = isPassword then (swapped, [])
  else if controls.sensitiveTransitionShouldDefer then
    ({ swapped with sensitiveReconcilePending := true }, [])
  else
    match sent with
    | .delivered => (swapped, [passwordFieldRow isPassword now])
    | _ =>
        ({ swapped with
          passwordFieldActive := previous
          passwordFieldConfirmedActive := previous }, [])

end CaptureControls

/-- What another thread does to the controls. -/
inductive ControlAction where
  | setEnabled (stream : CaptureStream) (enabled : Bool)
  | setSuspended (suspended : Bool)
  | setSensitiveResumeBarrier (blocked : Bool)
  | beginSensitiveTransition
  | endSensitiveTransition
  | requestSensitiveContextReconcile

def ControlAction.apply (controls : CaptureControls) : ControlAction → CaptureControls
  | .setEnabled stream enabled =>
      { controls with streams := fun other =>
          if other = stream then enabled else controls.streams other }
  | .setSuspended suspended => { controls with suspended := suspended }
  | .setSensitiveResumeBarrier blocked => { controls with sensitiveResumeBarrier := blocked }
  | .beginSensitiveTransition =>
      { controls with sensitiveTransitions := controls.sensitiveTransitions + 1 }
  | .endSensitiveTransition =>
      { controls with sensitiveTransitions := controls.sensitiveTransitions - 1 }
  | .requestSensitiveContextReconcile => { controls with sensitiveReconcilePending := true }

/-- One atomic step of the monitor's thread; a handled focus event is the three in turn. -/
inductive MonitorAction where
  | bumpFocusGeneration
  | raiseGate
  | emitSample (isPassword : Bool) (now : Instant) (sent : SensitiveBoundarySend)

def MonitorAction.apply (controls : CaptureControls) :
    MonitorAction → CaptureControls × List Captured
  | .bumpFocusGeneration =>
      ({ controls with passwordFocusGeneration := controls.passwordFocusGeneration + 1 }, [])
  | .raiseGate => (controls.setPasswordFieldGate true, [])
  | .emitSample isPassword now sent =>
      controls.emitConfirmedPasswordFieldSample isPassword now sent

end Gilbreth.Windows
