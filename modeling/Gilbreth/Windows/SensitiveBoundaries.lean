import Mathlib
import Gilbreth.Core.Exclusion
import Gilbreth.Library.Machine
import Gilbreth.Windows.CaptureControls

/-!
# The boundary rows of sensitive contexts

The message pump and the monitor of password fields tell the writer which sensitive contexts are
active by rows in the channel that every other row uses too. Under the resume guard one of them
acts at a time; each announces its transition before it waits for the guard. A boundary that
finds the channel full waits in the pump's queue, and one that comes while capture is suspended
is left to the reconciliation of the resume.
-/

set_option autoImplicit false

namespace Gilbreth.Windows

open Gilbreth.Core (Captured EventPayload Instant SensitiveContextReason Source)

/-- The reasons of the message pump; password fields are the monitor's. -/
inductive PumpReason where
  | sessionLocked
  | sessionDisconnected
  | secureDesktop
deriving DecidableEq

def PumpReason.reason : PumpReason → SensitiveContextReason
  | .sessionLocked => .sessionLocked
  | .sessionDisconnected => .sessionDisconnected
  | .secureDesktop => .secureDesktop

structure PumpBoundary where
  entered : Bool
  reason : PumpReason
  capturedAt : Instant

def sensitiveContextRow (entered : Bool) (reason : SensitiveContextReason) (now : Instant) :
    Captured :=
  ⟨.system, now,
    if entered then .sensitiveContextEntered reason else .sensitiveContextExited reason⟩

def PumpBoundary.captured (boundary : PumpBoundary) : Captured :=
  sensitiveContextRow boundary.entered boundary.reason.reason boundary.capturedAt

abbrev OrdinaryRow := { captured : Captured // captured.payload.isBoundary = false }

/-- A row in the channel, with the reasons that were active on the capture side as it went in. -/
structure EnqueuedRow where
  captured : Captured
  activeReasons : Finset SensitiveContextReason

/-- Which reasons are active after some more rows. -/
def replayRows (active : Finset SensitiveContextReason) (rows : List Captured) :
    Finset SensitiveContextReason :=
  rows.foldl (fun active captured => captured.payload.boundaryStep active) active

def channelReasons (rows : List EnqueuedRow) : Finset SensitiveContextReason :=
  replayRows ∅ (rows.map EnqueuedRow.captured)

/-- Where `resume_capture_after_quiet` stands. -/
inductive ResumeThread where
  | preparing
  | prepared (generation : Nat)

/-- `REASONS` of `reconcile_sensitive_context_after_pause`. -/
def reconciledReasons : List SensitiveContextReason :=
  [.sessionLocked, .sessionDisconnected, .secureDesktop, .passwordField]

structure SensitiveCapture where
  controls : CaptureControls
  sensitiveTransitionGeneration : Nat
  activeSensitiveReasons : Finset PumpReason
  /-- The pump's transition that waits for the guard. -/
  announcedBoundary : Option PumpBoundary
  /-- The monitor's transition that waits for the guard. -/
  announcedSample : Option Bool
  pendingSensitiveBoundaries : List PumpBoundary
  reseedRequested : Bool
  resumeThread : Option ResumeThread
  channel : List EnqueuedRow

inductive SensitiveAct where
  | beginBoundary (entered : Bool) (reason : PumpReason) (now : Instant)
  | finishBoundary (room : Nat) (delivered : Bool)
  | flushPendingSensitiveBoundaries (room : Nat)
  | send (row : OrdinaryRow) (room : Nat) (accepted : Bool)
  | sendSystemCapture (row : OrdinaryRow) (accepted : Bool)
  | beginSample (isPassword : Bool)
  | finishSample (now : Instant) (sent : SensitiveBoundarySend)
  | setEnabled (stream : App.CaptureStream) (enabled : Bool)
  | suspend
  | restoreBaselineCapture
  | requestReseed
  | checkRequestedReseed (now : Instant)
  | beginResume
  | reconcileForResume (now : Instant)
  | finishResume (boundaryWritten : Bool)
  | giveUpResume

namespace SensitiveCapture

def new (streams : App.CaptureStream → Bool) (idleThresholdMs : UInt64) : SensitiveCapture where
  controls := .new streams idleThresholdMs
  sensitiveTransitionGeneration := 0
  activeSensitiveReasons := ∅
  announcedBoundary := none
  announcedSample := none
  pendingSensitiveBoundaries := []
  reseedRequested := false
  resumeThread := none
  channel := []

section Functions

variable (capture : SensitiveCapture)

/-- `active_sensitive_reasons`, and `PasswordField` if it is confirmed. -/
def captureReasons : Finset SensitiveContextReason :=
  if capture.controls.passwordFieldConfirmedActive then
    insert .passwordField (capture.activeSensitiveReasons.image PumpReason.reason)
  else capture.activeSensitiveReasons.image PumpReason.reason

def enqueue (rows : List Captured) : SensitiveCapture :=
  { capture with
    channel := capture.channel ++ rows.map fun captured => ⟨captured, capture.captureReasons⟩ }

def requestSensitiveContextReconcile : SensitiveCapture :=
  { capture with controls.sensitiveReconcilePending := true }

def beginSensitiveTransition : SensitiveCapture :=
  { capture with
    controls.sensitiveTransitions := capture.controls.sensitiveTransitions + 1
    sensitiveTransitionGeneration := capture.sensitiveTransitionGeneration + 1 }

def endSensitiveTransitions (ended : Nat) : SensitiveCapture :=
  { capture with
    controls.sensitiveTransitions := capture.controls.sensitiveTransitions - ended }

/-- A waiting boundary keeps its transition open until it leaves the queue. -/
def clearPending : SensitiveCapture :=
  { capture with pendingSensitiveBoundaries := [] }.endSensitiveTransitions
    capture.pendingSensitiveBoundaries.length

/-- The boundaries at the front of the queue go in while the channel has room. -/
def flushPendingUnchecked (room : Nat) : SensitiveCapture :=
  ({ capture with
    pendingSensitiveBoundaries := capture.pendingSensitiveBoundaries.drop room }.enqueue
      ((capture.pendingSensitiveBoundaries.take room).map PumpBoundary.captured)
    ).endSensitiveTransitions (capture.pendingSensitiveBoundaries.take room).length

def flushPendingSensitiveBoundaries (room : Nat) : SensitiveCapture :=
  if capture.controls.sensitiveTransitionShouldDefer then
    if capture.pendingSensitiveBoundaries = [] then capture
    else capture.requestSensitiveContextReconcile.clearPending
  else capture.flushPendingUnchecked room

/-- The boundary's own transition is open while it is queued or sent. -/
def queueOrSendSensitiveBoundary (boundary : PumpBoundary) (room : Nat) (delivered : Bool) :
    SensitiveCapture :=
  if capture.controls.sensitiveTransitionShouldDefer then
    capture.requestSensitiveContextReconcile.clearPending.endSensitiveTransitions 1
  else
    let flushed := capture.flushPendingUnchecked room
    if flushed.pendingSensitiveBoundaries = [] ∧ delivered = true then
      (flushed.enqueue [boundary.captured]).endSensitiveTransitions 1
    else
      { flushed with
        pendingSensitiveBoundaries := flushed.pendingSensitiveBoundaries ++ [boundary] }

/-- `enter_sensitive_context_at` and `exit_sensitive_context_at`, up to the guard. -/
def beginBoundary (entered : Bool) (reason : PumpReason) (now : Instant) : SensitiveCapture :=
  if decide (reason ∈ capture.activeSensitiveReasons) = entered then capture
  else
    { capture with announcedBoundary := some ⟨entered, reason, now⟩ }.beginSensitiveTransition

def noteBoundary (boundary : PumpBoundary) : SensitiveCapture :=
  { capture with
    activeSensitiveReasons :=
      if boundary.entered then insert boundary.reason capture.activeSensitiveReasons
      else capture.activeSensitiveReasons.erase boundary.reason }

def finishBoundary (room : Nat) (delivered : Bool) : SensitiveCapture :=
  match capture.announcedBoundary with
  | none => capture
  | some boundary =>
      ({ capture with announcedBoundary := none }.noteBoundary
        boundary).queueOrSendSensitiveBoundary boundary room delivered

def send (row : OrdinaryRow) (room : Nat) (accepted : Bool) : SensitiveCapture :=
  if capture.controls.enabledFor row.1 then
    let flushed := capture.flushPendingSensitiveBoundaries room
    if accepted then flushed.enqueue [row.1] else flushed
  else capture

/-- The process and notification threads. -/
def sendSystemCapture (row : OrdinaryRow) (accepted : Bool) : SensitiveCapture :=
  if capture.controls.enabledFor row.1 && accepted then capture.enqueue [row.1] else capture

def finishSample (now : Instant) (sent : SensitiveBoundarySend) : SensitiveCapture :=
  match capture.announcedSample with
  | none => capture
  | some isPassword =>
      let emitted := capture.controls.emitConfirmedPasswordFieldSample isPassword now sent
      ({ capture with
        announcedSample := none
        controls := emitted.1 }.enqueue emitted.2).endSensitiveTransitions 1

def reconcileSensitiveContextAfterPause (now : Instant) : SensitiveCapture :=
  capture.clearPending.enqueue
    (reconciledReasons.map (fun reason => sensitiveContextRow false reason now) ++
      (reconciledReasons.filter fun reason => reason ∈ capture.captureReasons).map
        fun reason => sensitiveContextRow true reason now)

/-- The pump takes a requested reseed; the rows that follow it are ordinary ones. -/
def checkRequestedReseed (now : Instant) : SensitiveCapture :=
  if capture.reseedRequested then
    let taken := { capture with
      reseedRequested := false
      controls.sensitiveReconcilePending := false }
    if capture.controls.sensitiveReconcilePending then
      taken.reconcileSensitiveContextAfterPause now
    else taken
  else capture

def beginResume : SensitiveCapture :=
  { capture with
    controls.sensitiveResumeBarrier := true
    resumeThread := some .preparing }

/-- `reconcile_sensitive_context_for_resume`. -/
def reconcileForResume (now : Instant) : SensitiveCapture :=
  match capture.resumeThread with
  | some .preparing =>
      if capture.controls.sensitiveTransitions ≠ 0 then capture
      else
        { capture with
          controls.sensitiveReconcilePending := false
          resumeThread := some (.prepared capture.sensitiveTransitionGeneration)
          }.reconcileSensitiveContextAfterPause now
  | _ => capture

def lowerBarrier : SensitiveCapture :=
  { capture with
    controls.sensitiveResumeBarrier := false
    resumeThread := none }

/-- The last part of an attempt, under the guard: a transition since the preparation means
another attempt. -/
def finishResume (boundaryWritten : Bool) : SensitiveCapture :=
  match capture.resumeThread with
  | some (.prepared generation) =>
      if capture.controls.sensitiveTransitions ≠ 0 ∨
          capture.sensitiveTransitionGeneration ≠ generation then
        { capture with resumeThread := some .preparing }
      else if boundaryWritten then
        { capture.lowerBarrier with
          controls.suspended := false
          reseedRequested := true }
      else capture.lowerBarrier
  | _ => capture

def giveUpResume : SensitiveCapture :=
  match capture.resumeThread with
  | some _ => capture.lowerBarrier
  | none => capture

end Functions

/-- One act of one thread. The pump does nothing else while its own transition is announced, and
an act that its thread cannot do now changes nothing. -/
def step (capture : SensitiveCapture) : SensitiveAct → SensitiveCapture
  | .beginBoundary entered reason now =>
      if capture.announcedBoundary.isSome then capture
      else capture.beginBoundary entered reason now
  | .finishBoundary room delivered => capture.finishBoundary room delivered
  | .flushPendingSensitiveBoundaries room =>
      if capture.announcedBoundary.isSome then capture
      else capture.flushPendingSensitiveBoundaries room
  | .send row room accepted =>
      if capture.announcedBoundary.isSome then capture else capture.send row room accepted
  | .sendSystemCapture row accepted => capture.sendSystemCapture row accepted
  | .beginSample isPassword =>
      if capture.announcedSample.isSome then capture
      else { capture with announcedSample := some isPassword }.beginSensitiveTransition
  | .finishSample now sent => capture.finishSample now sent
  | .setEnabled stream enabled =>
      { capture with controls := (ControlAction.setEnabled stream enabled).apply capture.controls }
  | .suspend => { capture with controls.suspended := true }
  | .restoreBaselineCapture =>
      { capture with
        controls.suspended := false
        reseedRequested := true }
  | .requestReseed => { capture with reseedRequested := true }
  | .checkRequestedReseed now =>
      if capture.announcedBoundary.isSome then capture else capture.checkRequestedReseed now
  | .beginResume => if capture.resumeThread.isSome then capture else capture.beginResume
  | .reconcileForResume now =>
      if capture.announcedBoundary.isSome then capture else capture.reconcileForResume now
  | .finishResume boundaryWritten => capture.finishResume boundaryWritten
  | .giveUpResume => capture.giveUpResume

def machine : Machine SensitiveCapture SensitiveAct Unit where
  step capture act := (capture.step act, ())

end SensitiveCapture

end Gilbreth.Windows
