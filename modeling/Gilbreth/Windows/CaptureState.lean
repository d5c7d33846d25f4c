import Gilbreth.Core.Foreground
import Gilbreth.Library.Effects
import Gilbreth.Windows.CaptureControls
import Gilbreth.Windows.KeyboardState
import Gilbreth.Windows.MouseState

/-!
# The message pump of Windows capture

The pump owns one state and handles one message at a time. The channel to the writer has room
for every row; what the operating system answers is part of each message. The rows of the
window list, the clipboard and the system description are left out.
-/

set_option autoImplicit false

namespace Gilbreth.Windows

open Core (Captured EventPayload ForegroundCall ForegroundState Instant SensitiveContextReason
  SessionConnectionKind WindowRef durationMs millisecond saturatingDurationSince)

structure IdleState where
  /-- `duration_ms` of the threshold. -/
  thresholdMs : UInt64
  isIdle : Bool
deriving DecidableEq

namespace IdleState

def new (thresholdMs : UInt64) : IdleState := ⟨thresholdMs, false⟩

def idleEvent (idleMs : UInt64) (capturedAt : Instant) : Captured :=
  ⟨.system, capturedAt, .idle idleMs⟩

def activeEvent (idleMs : UInt64) (capturedAt : Instant) : Captured :=
  ⟨.system, capturedAt, .active idleMs⟩

def onSampleAt (state : IdleState) (idleMs : UInt64) (capturedAt : Instant) :
    IdleState × List Captured :=
  if !state.isIdle && decide (state.thresholdMs ≤ idleMs) then
    ({ state with isIdle := true }, [idleEvent idleMs capturedAt])
  else if state.isIdle && decide (idleMs < state.thresholdMs) then
    ({ state with isIdle := false }, [activeEvent idleMs capturedAt])
  else (state, [])

def onActivityAt (state : IdleState) (idleMs : UInt64) (capturedAt : Instant) :
    IdleState × List Captured :=
  if !state.isIdle then (state, [])
  else ({ state with isIdle := false }, [activeEvent idleMs capturedAt])

end IdleState

structure SystemPowerStatus where
  acLineStatus : UInt8
  batteryLifePercent : UInt8
  systemStatusFlag : UInt8
deriving DecidableEq

def powerStatusFields (status : SystemPowerStatus) : Option Bool × Option UInt8 × Option Bool :=
  (if status.acLineStatus = 0 then some false
    else if status.acLineStatus = 1 then some true else none,
    if status.batteryLifePercent ≤ 100 then some status.batteryLifePercent else none,
    some (status.systemStatusFlag &&& 1 != 0))

/-- What `GetSystemPowerStatus` answered, and when; nothing where it failed. -/
abbrev PowerReading := Option (SystemPowerStatus × Instant)

inductive InputDesktopSensitivity where
  | normal | «protected»
deriving DecidableEq

structure PasswordFocusCache where
  hwnd : UInt64
  isPassword : Bool
  focusGeneration : Nat
  resolvedAt : Instant
deriving DecidableEq

def missedPowerBoundaryThresholdMs : Nat := 30000

def missedPowerBoundaryMaxDwell : Nat := missedPowerBoundaryThresholdMs * millisecond

def powerResumeDebounce : Nat := 2000 * millisecond

def passwordFieldProbeCacheTtl : Nat := 2000 * millisecond

structure CaptureState where
  controls : CaptureControls
  passwordFocusCache : Option PasswordFocusCache
  foreground : ForegroundState
  keyboard : KeyboardState
  mouse : MouseState
  idle : IdleState
  lastTimerTickMs : Option UInt64
  powerSuspended : Bool
  lastPowerResumeAt : Option Instant
  lastPowerStatus : Option (Option Bool × Option Bool × Option UInt8)
  /-- `HashSet<SensitiveContextReason>`. -/
  activeSensitiveReasons : List SensitiveContextReason

abbrev CaptureEffect := Effect CaptureState Captured

structure TimerSample where
  idleMs : Option UInt64
  tickMs : Option UInt64
  currentForeground : Option WindowRef
  inputDesktop : Option InputDesktopSensitivity
  now : Instant
  powerStatus : PowerReading
  isKeyDown : UInt16 → Bool
  isMouseButtonDown : Core.MouseButton → Bool

/-- One probe of the focused field: what the monitor's thread does before it reads, what it
reads, and what it does meanwhile and until the reply is taken. -/
structure PasswordProbe where
  before : List MonitorAction
  read : Option Bool
  during : List MonitorAction
  after : List MonitorAction
  /-- A reply came within the timeout. -/
  replied : Bool

/-- A key message with what is looked up for it and what the monitor does between its reads. -/
structure KeyMessage where
  raw : RawKeyboardEvent
  window : Option WindowRef
  now : Instant
  idleMs : Option UInt64
  beforeGate : List MonitorAction
  beforeCache : List MonitorAction
  probe : PasswordProbe
  sent : SensitiveBoundarySend

/-- What a reseed looks up. -/
structure Reseed where
  now : Instant
  currentForeground : Option WindowRef
  tickMs : Option UInt64
  redactTitles : Bool
  metrics : MouseMetrics
  powerStatus : PowerReading

inductive SessionChange where
  | lock | unlock | consoleConnect | remoteConnect | consoleDisconnect | remoteDisconnect | other
deriving DecidableEq

namespace CaptureState

def new (controls : CaptureControls) (metrics : MouseMetrics) (tickMs : UInt64) : CaptureState :=
  { controls := controls
    passwordFocusCache := none
    foreground := .default
    keyboard := .default
    mouse := .new metrics
    idle := .new controls.idleThresholdMs
    lastTimerTickMs := some tickMs
    powerSuspended := false
    lastPowerResumeAt := none
    lastPowerStatus := none
    activeSensitiveReasons := [] }

/-- `send`, for each row in turn. -/
def sendAll (rows : List Captured) : CaptureEffect :=
  .put fun state => rows.filter state.controls.enabledFor

def send (captured : Captured) : CaptureEffect := sendAll [captured]

def foregroundCall (call : ForegroundCall) : CaptureEffect := fun state =>
  let answered := state.foreground.apply call
  sendAll answered.2.toList { state with foreground := answered.1 }

def seedForegroundWindowAt (window : WindowRef) (now : Instant) : CaptureEffect :=
  foregroundCall (.seed window now)

def seedForeground (window : Option WindowRef) (now : Instant) : CaptureEffect :=
  .all (window.toList.map fun window => seedForegroundWindowAt window now)

def invalidatePasswordFocusCache : CaptureEffect :=
  .change fun state => { state with passwordFocusCache := none }

def setPasswordFieldGate : CaptureEffect :=
  .change fun state => { state with controls := state.controls.setPasswordFieldGate true }

def protectUnknownPasswordFocus : CaptureEffect := fun state =>
  if state.controls.enabled .keyboard then
    Effect.all [invalidatePasswordFocusCache, setPasswordFieldGate] state
  else Effect.all [] state

def onForeground (window : Option WindowRef) (now : Instant) : CaptureEffect :=
  .all (protectUnknownPasswordFocus ::
    window.toList.map fun window => foregroundCall (.onWindow window now))

def onWindowDestroyed (hwnd : UInt64) : CaptureEffect := foregroundCall (.destroyed hwnd)

def flushPendingMouseMovement : CaptureEffect := fun state =>
  sendAll state.mouse.flushPending.2 { state with mouse := state.mouse.flushPending.1 }

def flushDueMouseMovement (now : Instant) : CaptureEffect := fun state =>
  sendAll (state.mouse.flushDue now).2 { state with mouse := (state.mouse.flushDue now).1 }

def resetMouseAfterBoundary : CaptureEffect :=
  .change fun state => { state with mouse := state.mouse.resetAfterBoundary }

def resetKeyboardAfterBoundary : CaptureEffect :=
  .change fun state => { state with keyboard := state.keyboard.resetAfterBoundary }

def endCurrentForegroundAt (now : Instant) : CaptureEffect :=
  foregroundCall (.endCurrent now none)

def endCurrentForegroundCappedAt (now : Instant) : CaptureEffect :=
  foregroundCall (.endCurrent now (some missedPowerBoundaryMaxDwell))

def sendSystem (payload : EventPayload) (now : Instant) : CaptureEffect :=
  send ⟨.system, now, payload⟩

def onPowerStatusSampleAt (status : SystemPowerStatus) (now : Instant) : CaptureEffect :=
  fun state =>
    let fields := powerStatusFields status
    let key := (fields.1, fields.2.2, fields.2.1.map fun percent => percent / 10)
    if state.lastPowerStatus = some key then Effect.all [] state
    else
      Effect.all [.change fun state => { state with lastPowerStatus := some key },
        sendSystem (.powerStatusChanged fields.1 fields.2.1 fields.2.2) now] state

def onPowerStatusChange (reading : PowerReading) : CaptureEffect :=
  .all (reading.toList.map fun read => onPowerStatusSampleAt read.1 read.2)

/-- `queue_or_send_sensitive_boundary` into a channel with room. -/
def sendSensitiveBoundary (payload : EventPayload) (now : Instant) : CaptureEffect := fun state =>
  if state.controls.sensitiveTransitionShouldDefer then
    ({ state with controls := { state.controls with sensitiveReconcilePending := true } }, [])
  else (state, [⟨.system, now, payload⟩])

def enterSensitiveContextAt (now : Instant) (reason : SensitiveContextReason) : CaptureEffect :=
  fun state =>
    if reason ∈ state.activeSensitiveReasons then Effect.all [] state
    else
      Effect.all [.change fun state =>
          { state with activeSensitiveReasons := reason :: state.activeSensitiveReasons },
        sendSensitiveBoundary (.sensitiveContextEntered reason) now] state

def exitSensitiveContextAt (now : Instant) (reason : SensitiveContextReason) : CaptureEffect :=
  fun state =>
    if reason ∉ state.activeSensitiveReasons then Effect.all [] state
    else
      Effect.all [.change fun state =>
          { state with activeSensitiveReasons := state.activeSensitiveReasons.erase reason },
        sendSensitiveBoundary (.sensitiveContextExited reason) now] state

def reconciledReasons : List SensitiveContextReason :=
  [.sessionLocked, .sessionDisconnected, .secureDesktop, .passwordField]

def reconcileSensitiveContextAfterPause (now : Instant) : CaptureEffect :=
  .put fun state =>
    (reconciledReasons.map fun reason => ⟨.system, now, .sensitiveContextExited reason⟩) ++
      (reconciledReasons.filter fun reason => decide (reason ∈ state.activeSensitiveReasons) ||
        (reason == .passwordField && state.controls.passwordFieldConfirmedActive)).map
          fun reason => ⟨.system, now, .sensitiveContextEntered reason⟩

def takeSensitiveContextReconcile (now : Instant) : CaptureEffect := fun state =>
  if state.controls.sensitiveReconcilePending then
    Effect.all [.change fun state =>
        { state with controls := { state.controls with sensitiveReconcilePending := false } },
      reconcileSensitiveContextAfterPause now] state
  else Effect.all [] state

def onInputDesktopSampleAt (inputDesktop : InputDesktopSensitivity) (now : Instant) :
    CaptureEffect :=
  match inputDesktop with
  | .normal => exitSensitiveContextAt now .secureDesktop
  | .«protected» => enterSensitiveContextAt now .secureDesktop

/-- `tick_ms.or(self.last_timer_tick_ms)`. -/
def noteTick (tickMs : Option UInt64) : CaptureEffect :=
  .change fun state => { state with lastTimerTickMs := tickMs.or state.lastTimerTickMs }

def onPowerSuspendAt (now : Instant) (tickMs : Option UInt64) : CaptureEffect :=
  .all [flushPendingMouseMovement, resetMouseAfterBoundary, endCurrentForegroundAt now,
    sendSystem (.powerSuspend tickMs) now, resetKeyboardAfterBoundary,
    .change fun state => { state with powerSuspended := true, lastPowerResumeAt := none },
    noteTick tickMs]

def isDuplicatePowerResume (state : CaptureState) (now : Instant) : Bool :=
  !state.powerSuspended && state.lastPowerResumeAt.any fun previous =>
    decide (saturatingDurationSince now previous ≤ powerResumeDebounce)

def missedPowerBoundaryGapMs (state : CaptureState) (tickMs : Option UInt64) : Option UInt64 :=
  if state.powerSuspended then none
  else
    match state.lastTimerTickMs, tickMs with
    | some previous, some current =>
        if missedPowerBoundaryThresholdMs < current.toNat - previous.toNat then
          some (.ofNat (current.toNat - previous.toNat))
        else none
    | _, _ => none

/-- What both handlers of a resume leave. -/
def noteResume (now : Instant) : CaptureEffect :=
  .change fun state => { state with powerSuspended := false, lastPowerResumeAt := some now }

def onMissedPowerBoundaryAt (now : Instant) (currentForeground : Option WindowRef)
    (reading : PowerReading) (gapMs : UInt64) : CaptureEffect :=
  .all [flushPendingMouseMovement, resetMouseAfterBoundary, endCurrentForegroundCappedAt now,
    resetKeyboardAfterBoundary, seedForeground currentForeground now, onPowerStatusChange reading,
    sendSystem (.powerBoundaryRecovered gapMs (durationMs missedPowerBoundaryMaxDwell)) now,
    noteResume now]

/-- A resume without a suspend notice may end a gap that no one else saw. -/
def resumeBoundary (state : CaptureState) (now : Instant) (tickMs : Option UInt64)
    (currentForeground : Option WindowRef) (reading : PowerReading) : List CaptureEffect :=
  match state.missedPowerBoundaryGapMs tickMs with
  | some gapMs => [onMissedPowerBoundaryAt now currentForeground reading gapMs]
  | none =>
      (if state.powerSuspended then [] else [endCurrentForegroundCappedAt now]) ++
        [resetMouseAfterBoundary, resetKeyboardAfterBoundary,
          seedForeground currentForeground now]

def onPowerResumeAt (now : Instant) (tickMs : Option UInt64)
    (currentForeground : Option WindowRef) (reading : PowerReading) : CaptureEffect := fun state =>
  if state.isDuplicatePowerResume now then
    Effect.all [.change fun state => { state with lastPowerResumeAt := some now },
      noteTick tickMs] state
  else
    Effect.all ([flushPendingMouseMovement] ++
      state.resumeBoundary now tickMs currentForeground reading ++
      [sendSystem (.powerResume tickMs state.powerSuspended) now, noteResume now,
        noteTick tickMs]) state

/-- `on_power_resume`: the power status is read after a resume that counts. -/
def onPowerResume (now : Instant) (tickMs : Option UInt64) (currentForeground : Option WindowRef)
    (missedReading reading : PowerReading) : CaptureEffect := fun state =>
  Effect.all (onPowerResumeAt now tickMs currentForeground missedReading ::
    if state.isDuplicatePowerResume now then [] else [onPowerStatusChange reading]) state

/-- `IdleState::on_sample_at`, sent on. -/
def onIdleSampleAt (idleMs : UInt64) (now : Instant) : CaptureEffect := fun state =>
  sendAll (state.idle.onSampleAt idleMs now).2
    { state with idle := (state.idle.onSampleAt idleMs now).1 }

def onTimerPowerAt (sample : TimerSample) : CaptureEffect := fun state =>
  if state.powerSuspended then
    onPowerResumeAt sample.now sample.tickMs sample.currentForeground sample.powerStatus state
  else
    match state.missedPowerBoundaryGapMs sample.tickMs with
    | some gapMs =>
        onMissedPowerBoundaryAt sample.now sample.currentForeground sample.powerStatus gapMs state
    | none => Effect.all [] state

def onTimerSampleAt (sample : TimerSample) : CaptureEffect :=
  .all ((sample.inputDesktop.toList.map fun desktop =>
      onInputDesktopSampleAt desktop sample.now) ++
    [onTimerPowerAt sample, noteTick sample.tickMs,
      .change fun state =>
        { state with
          keyboard := state.keyboard.resyncPressedKeysWith sample.isKeyDown
          mouse := state.mouse.resyncActiveButtonsWith sample.isMouseButtonDown }] ++
    sample.idleMs.toList.map fun idleMs => onIdleSampleAt idleMs sample.now)

def onActivityAt (idleMs : UInt64) (now : Instant) : CaptureEffect := fun state =>
  sendAll (state.idle.onActivityAt idleMs now).2
    { state with idle := (state.idle.onActivityAt idleMs now).1 }

def onUserActivity (now : Instant) (idleMs : Option UInt64) : CaptureEffect :=
  .all (idleMs.toList.map fun idleMs => onActivityAt idleMs now)

def onSessionClosed (now : Instant) (payload : EventPayload) (reason : SensitiveContextReason) :
    CaptureEffect :=
  .all [flushPendingMouseMovement, resetMouseAfterBoundary, endCurrentForegroundAt now,
    resetKeyboardAfterBoundary, sendSystem payload now, enterSensitiveContextAt now reason]

def onSessionOpened (now : Instant) (payload : EventPayload) (reason : SensitiveContextReason)
    (currentForeground : Option WindowRef) : CaptureEffect :=
  .all [exitSensitiveContextAt now reason, resetMouseAfterBoundary, resetKeyboardAfterBoundary,
    seedForeground currentForeground now, sendSystem payload now]

def onSessionChangeAt (event : SessionChange) (sessionId : UInt32) (now : Instant)
    (currentForeground : Option WindowRef) : CaptureEffect :=
  match event with
  | .lock => onSessionClosed now (.sessionLock sessionId) .sessionLocked
  | .unlock => onSessionOpened now (.sessionUnlock sessionId) .sessionLocked currentForeground
  | .consoleConnect =>
      onSessionOpened now (.sessionConnect sessionId .console) .sessionDisconnected
        currentForeground
  | .remoteConnect =>
      onSessionOpened now (.sessionConnect sessionId .remote) .sessionDisconnected
        currentForeground
  | .consoleDisconnect =>
      onSessionClosed now (.sessionDisconnect sessionId .console) .sessionDisconnected
  | .remoteDisconnect =>
      onSessionClosed now (.sessionDisconnect sessionId .remote) .sessionDisconnected
  | .other => .all []

def restart (reseed : Reseed) (state : CaptureState) : CaptureState :=
  { state with
    foreground := .default
    keyboard := .default
    mouse := .new reseed.metrics
    idle := .new state.controls.idleThresholdMs
    lastTimerTickMs := reseed.tickMs.or state.lastTimerTickMs
    powerSuspended := false
    lastPowerResumeAt := none
    lastPowerStatus := none }

/-- `reseed_windows_with_optional_title_redaction`, of the foreground window. -/
def reseededForeground (reseed : Reseed) : Option WindowRef :=
  if reseed.redactTitles then
    reseed.currentForeground.map fun window => { window with title := KeyboardState.redacted }
  else reseed.currentForeground

def reseedAfterReset (reseed : Reseed) : CaptureEffect :=
  .all [.change (restart reseed), takeSensitiveContextReconcile reseed.now,
    seedForeground (reseededForeground reseed) reseed.now, onPowerStatusChange reseed.powerStatus]

def onMonitorAction (action : MonitorAction) : CaptureEffect := fun state =>
  let acted := action.apply state.controls
  ({ state with controls := acted.1 }, acted.2)

def onMonitorActions (actions : List MonitorAction) : CaptureEffect :=
  .all (actions.map onMonitorAction)

def cachedPasswordFocus (state : CaptureState) (hwnd : UInt64) (now : Instant) : Option Bool :=
  state.passwordFocusCache.bind fun cached =>
    if cached.hwnd = hwnd ∧ cached.focusGeneration = state.controls.passwordFocusGeneration ∧
        saturatingDurationSince now cached.resolvedAt ≤ passwordFieldProbeCacheTtl then
      some cached.isPassword
    else none

/-- `probe_focused_password_field_with`: an answer counts if no focus event came meanwhile. -/
def probeFocusedPasswordFieldWith (generationBefore : Nat) (readFocusedIsPassword : Option Bool)
    (generationAfter : Nat) : Option SensitiveFieldProbeResult :=
  readFocusedIsPassword.bind fun isPassword =>
    if generationAfter ≠ generationBefore then none else some ⟨isPassword, generationBefore⟩

/-- What the pump makes of the reply to its probe; whether the key is redacted comes last. -/
def onProbeReply (message : KeyMessage) (result : Option SensitiveFieldProbeResult) :
    CaptureEffect × Bool :=
  match result with
  | some result =>
      (.all [.change fun state =>
          { state with
            passwordFocusCache :=
              match message.window with
              | some window =>
                  some ⟨window.hwnd, result.isPassword, result.focusGeneration, message.now⟩
              | none => state.passwordFocusCache },
        onMonitorAction (.emitSample result.isPassword message.now message.sent)],
        result.isPassword)
  | none => (.all [invalidatePasswordFocusCache, setPasswordFieldGate], true)

/-- The generations a probe reads, and the state when the pump takes the reply. -/
def probed (message : KeyMessage) (state : CaptureState) :
    Option SensitiveFieldProbeResult × CaptureState × List Captured :=
  let before := onMonitorActions message.probe.before state
  let during := onMonitorActions message.probe.during before.1
  let after := onMonitorActions message.probe.after during.1
  (if message.probe.replied then
    probeFocusedPasswordFieldWith before.1.controls.passwordFocusGeneration message.probe.read
      during.1.controls.passwordFocusGeneration
    else none,
    after.1, before.2 ++ during.2 ++ after.2)

def redactKeyboardForPasswordFieldAt (message : KeyMessage) (state : CaptureState) :
    Bool × CaptureState × List Captured :=
  if state.controls.passwordFieldConfirmedActive then (true, state, [])
  else
    let gated := onMonitorActions message.beforeGate state
    let checked := onMonitorActions message.beforeCache gated.1
    let cached :=
      if gated.1.controls.passwordFieldActive then none
      else message.window.bind fun window =>
        checked.1.cachedPasswordFocus window.hwnd message.now
    match cached with
    | some cached => (cached, checked.1, gated.2 ++ checked.2)
    | none =>
        let asked := probed message checked.1
        let replied := onProbeReply message asked.1
        let final := replied.1 asked.2.1
        (replied.2, final.1, gated.2 ++ checked.2 ++ asked.2.2 ++ final.2)

def onKey (message : KeyMessage) (redactKey : Bool) : CaptureEffect := fun state =>
  let answered := state.keyboard.onRawKeyWithCaptureRedaction message.raw message.window
    message.now redactKey
  sendAll answered.2.toList { state with keyboard := answered.1 }

def onRawKeyboardAt (message : KeyMessage) : CaptureEffect := fun state =>
  let active := onUserActivity message.now message.idleMs state
  let altWasDown := active.1.keyboard.mods.alt
  let verdict :=
    if message.raw.isKeyDown then redactKeyboardForPasswordFieldAt message active.1
    else (false, active.1, [])
  let keyed := onKey message verdict.1 verdict.2.1
  let final :=
    Effect.all (if message.raw.mayChangeFocus altWasDown then [invalidatePasswordFocusCache]
      else []) keyed.1
  (final.1, active.2 ++ verdict.2.2 ++ keyed.2 ++ final.2)

section Mouse

variable [Hypot]

def onMouse (input : RawInput) : CaptureEffect := fun state =>
  sendAll (state.mouse.onRawMouse input).2 { state with mouse := (state.mouse.onRawMouse input).1 }

def onRawMouse (input : RawInput) (idleMs : Option UInt64) : CaptureEffect :=
  .all ([onUserActivity input.capturedAt idleMs] ++
    (if input.raw.downButtons.isEmpty then [] else [protectUnknownPasswordFocus]) ++
    [onMouse input])

end Mouse

def onControlAction (action : ControlAction) : CaptureEffect :=
  .change fun state => { state with controls := action.apply state.controls }

end CaptureState

/-- A message of the pump, or what another thread does between two of them. -/
inductive CaptureCall where
  | foreground (window : Option WindowRef) (now : Instant)
  | windowDestroyed (hwnd : UInt64)
  | rawKeyboard (message : KeyMessage)
  | rawMouse (input : RawInput) (idleMs : Option UInt64)
  | flushDueMouseMovement (now : Instant)
  | timerSample (sample : TimerSample)
  | powerSuspend (now : Instant) (tickMs : Option UInt64)
  | powerResume (now : Instant) (tickMs : Option UInt64) (currentForeground : Option WindowRef)
      (missedReading reading : PowerReading)
  | powerStatusChange (reading : PowerReading)
  | sessionChange (event : SessionChange) (sessionId : UInt32) (now : Instant)
      (currentForeground : Option WindowRef)
  | reseed (reseed : Reseed)
  | control (action : ControlAction)
  | monitor (action : MonitorAction)

/-- When a call is handled, if it is stamped. -/
def CaptureCall.now : CaptureCall → Option Instant
  | .foreground _ now => some now
  | .rawKeyboard message => some message.now
  | .rawMouse input _ => some input.capturedAt
  | .flushDueMouseMovement now => some now
  | .timerSample sample => some sample.now
  | .powerSuspend now _ => some now
  | .powerResume now .. => some now
  | .sessionChange _ _ now _ => some now
  | .reseed looked => some looked.now
  | _ => none

namespace CaptureState

variable [Hypot]

def handle : CaptureCall → CaptureEffect
  | .foreground window now => onForeground window now
  | .windowDestroyed hwnd => onWindowDestroyed hwnd
  | .rawKeyboard message => onRawKeyboardAt message
  | .rawMouse input idleMs => onRawMouse input idleMs
  | .flushDueMouseMovement now => flushDueMouseMovement now
  | .timerSample sample => onTimerSampleAt sample
  | .powerSuspend now tickMs => onPowerSuspendAt now tickMs
  | .powerResume now tickMs currentForeground missedReading reading =>
      onPowerResume now tickMs currentForeground missedReading reading
  | .powerStatusChange reading => onPowerStatusChange reading
  | .sessionChange event sessionId now currentForeground =>
      onSessionChangeAt event sessionId now currentForeground
  | .reseed reseed => reseedAfterReset reseed
  | .control action => onControlAction action
  | .monitor action => onMonitorAction action

def machine : Machine CaptureState CaptureCall (List Captured) :=
  ⟨fun state call => handle call state⟩

end CaptureState

end Gilbreth.Windows
