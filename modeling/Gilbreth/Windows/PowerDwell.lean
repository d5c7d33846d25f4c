import Gilbreth.Windows.PumpRule

/-!
# Dwell and power in the pump

What a message makes of the open segment and of the power state, without the rest of the
pump, and the rows that tell of it. The pump's own handlers do this and nothing else to both.
-/

set_option autoImplicit false

namespace Gilbreth.Windows

open Gilbreth.Core (Captured EventPayload FocusedWindow ForegroundState Instant
  SensitiveContextReason WindowRef durationMs saturatingDurationSince)

/-- What the pump holds of focus and power. -/
structure PowerDwell where
  current : Option FocusedWindow
  lastTimerTickMs : Option UInt64
  powerSuspended : Bool
  lastPowerResumeAt : Option Instant

inductive DwellMark where
  | focus (previousFocusedForMs : UInt64)
  | suspend
  | resume (matchedSuspend : Bool)
  | recovered (gapMs : UInt64) (capturedAt : Instant)
deriving DecidableEq

def dwellMark (row : Captured) : Option DwellMark :=
  match row.payload with
  | .focusChanged _ _ previousFocusedForMs _ _ => some (.focus previousFocusedForMs)
  | .powerSuspend _ => some .suspend
  | .powerResume _ matchedSuspend => some (.resume matchedSuspend)
  | .powerBoundaryRecovered gapMs _ => some (.recovered gapMs row.capturedAt)
  | _ => none

def CaptureControls.lets (controls : CaptureControls) : DwellMark → Bool
  | .focus _ => !controls.isSuspended && controls.enabled .foreground
  | _ => !controls.isSuspended && controls.enabled .system

abbrev DwellEffect := Effect PowerDwell DwellMark

namespace PowerDwell

/-- Ends the open segment with the dwell that is attributed to it. -/
def endCurrent (now : Instant) (maxDuration : Option Nat) : DwellEffect := fun dwell =>
  ({ dwell with current := none }, dwell.current.toList.map fun opened =>
    .focus (durationMs (ForegroundState.attributedDwell opened now maxDuration)))

def seed (window : Option WindowRef) (now : Instant) : DwellEffect := fun dwell =>
  ({ dwell with current := (window.map fun window => ⟨window, now⟩).or dwell.current },
    window.toList.map fun _ => .focus 0)

def onWindow (now : Instant) (window : WindowRef) : DwellEffect := fun dwell =>
  if dwell.current.any fun opened => opened.window.hwnd == window.hwnd then (dwell, [])
  else ({ dwell with current := some ⟨window, now⟩ }, [.focus (dwell.current.elim 0 fun opened =>
    durationMs (saturatingDurationSince now opened.focusedAt))])

def noteTick (tickMs : Option UInt64) : DwellEffect :=
  .change fun dwell => { dwell with lastTimerTickMs := tickMs.or dwell.lastTimerTickMs }

def noteResume (now : Instant) : DwellEffect :=
  .change fun dwell => { dwell with powerSuspended := false, lastPowerResumeAt := some now }

def tell (mark : DwellMark) : DwellEffect := .put fun _ => [mark]

def gapMs (dwell : PowerDwell) (tickMs : Option UInt64) : Option UInt64 :=
  if dwell.powerSuspended then none
  else
    dwell.lastTimerTickMs.bind fun previous => tickMs.bind fun current =>
      if missedPowerBoundaryThresholdMs < current.toNat - previous.toNat then
        some (.ofNat (current.toNat - previous.toNat))
      else none

def isDuplicateResume (dwell : PowerDwell) (now : Instant) : Bool :=
  !dwell.powerSuspended && dwell.lastPowerResumeAt.any fun previous =>
    decide (saturatingDurationSince now previous ≤ powerResumeDebounce)

def missed (now : Instant) (window : Option WindowRef) (gapMs : UInt64) : DwellEffect :=
  .all [endCurrent now (some missedPowerBoundaryMaxDwell), seed window now,
    tell (.recovered gapMs now), noteResume now]

def boundary (dwell : PowerDwell) (now : Instant) (tickMs : Option UInt64)
    (window : Option WindowRef) : List DwellEffect :=
  (dwell.gapMs tickMs).elim
    ((if dwell.powerSuspended then []
      else [endCurrent now (some missedPowerBoundaryMaxDwell)]) ++ [seed window now])
    fun gapMs => [missed now window gapMs]

def resume (now : Instant) (tickMs : Option UInt64) (window : Option WindowRef) : DwellEffect :=
  fun dwell =>
    if dwell.isDuplicateResume now then
      Effect.all [.change fun dwell => { dwell with lastPowerResumeAt := some now },
        noteTick tickMs] dwell
    else
      Effect.all (dwell.boundary now tickMs window ++
        [tell (.resume dwell.powerSuspended), noteResume now, noteTick tickMs]) dwell

def suspend (now : Instant) (tickMs : Option UInt64) : DwellEffect :=
  .all [endCurrent now none, tell .suspend,
    .change fun dwell => { dwell with powerSuspended := true, lastPowerResumeAt := none },
    noteTick tickMs]

def timerPower (sample : TimerSample) : DwellEffect := fun dwell =>
  if dwell.powerSuspended then resume sample.now sample.tickMs sample.currentForeground dwell
  else
    (dwell.gapMs sample.tickMs).elim (Effect.all [])
      (missed sample.now sample.currentForeground) dwell

def timer (sample : TimerSample) : DwellEffect :=
  .all [timerPower sample, noteTick sample.tickMs]

def session (now : Instant) (window : Option WindowRef) : SessionChange → DwellEffect
  | .lock | .consoleDisconnect | .remoteDisconnect => endCurrent now none
  | .unlock | .consoleConnect | .remoteConnect => seed window now
  | .other => Effect.all []

/-- What a message that is about focus, power or the session does. -/
def step : CaptureCall → DwellEffect
  | .foreground window now => Effect.all (window.toList.map (onWindow now))
  | .timerSample sample => timer sample
  | .powerSuspend now tickMs => suspend now tickMs
  | .powerResume now tickMs window _ _ => resume now tickMs window
  | .sessionChange event _ now window => session now window event
  | _ => Effect.all []

end PowerDwell

namespace CaptureCall

/-- A message about focus, power or the session. -/
def IsBoundary : CaptureCall → Bool
  | .foreground .. | .windowDestroyed _ | .timerSample _ | .powerSuspend .. | .powerResume ..
  | .sessionChange .. => true
  | _ => false

def tickReading : CaptureCall → Option (Option UInt64)
  | .timerSample sample => some sample.tickMs
  | .powerSuspend _ tickMs => some tickMs
  | .powerResume _ tickMs .. => some tickMs
  | _ => none

def looksForGap : CaptureCall → Bool
  | .timerSample _ | .powerResume .. => true
  | _ => false

def suspends : CaptureCall → Bool
  | .powerSuspend .. => true
  | _ => false

def closesSession : SessionChange → Bool
  | .lock | .consoleDisconnect | .remoteDisconnect => true
  | _ => false

/-- The segment that the message closes for its whole length. -/
def fullClose (dwell : PowerDwell) : CaptureCall → Option FocusedWindow
  | .foreground window _ => window.bind fun window =>
      dwell.current.filter fun opened => opened.window.hwnd != window.hwnd
  | .powerSuspend .. => dwell.current
  | .sessionChange event .. => dwell.current.filter fun _ => closesSession event
  | _ => none

end CaptureCall

namespace CaptureState

def dwell (state : CaptureState) : PowerDwell :=
  ⟨state.foreground.current, state.lastTimerTickMs, state.powerSuspended,
    state.lastPowerResumeAt⟩

/-- Dwell and power stand as the other effect leaves them, and its marks pass as rows do. -/
structure Mirrors (state : CaptureState) (done : CaptureState × List Captured)
    (shadow : PowerDwell × List DwellMark) : Prop where
  dwell : done.1.dwell = shadow.1
  marks : done.2.filterMap dwellMark = shadow.2.filter state.controls.lets
  lets : done.1.controls.lets = state.controls.lets

theorem mirrors_append {state : CaptureState} {first second : CaptureState × List Captured}
    {shadow later : PowerDwell × List DwellMark} (before : Mirrors state first shadow)
    (after : Mirrors first.1 second later) :
    Mirrors state (second.1, first.2 ++ second.2) (later.1, shadow.2 ++ later.2) := by
  refine ⟨after.dwell, ?_, after.lets.trans before.lets⟩
  rw [List.filterMap_append, before.marks, after.marks, before.lets, List.filter_append]

def Shows (effect : CaptureEffect) (shadow : DwellEffect) : Prop :=
  ∀ state, Mirrors state (effect state) (shadow state.dwell)

def Silent (effect : CaptureEffect) : Prop := Shows effect (Effect.all [])

theorem shows_nothing : Shows (Effect.all []) (Effect.all []) := fun _ => ⟨rfl, rfl, rfl⟩

theorem shows_cons {effect : CaptureEffect} {shadow : DwellEffect} {rest : List CaptureEffect}
    {later : List DwellEffect} (first : Shows effect shadow)
    (others : Shows (Effect.all rest) (Effect.all later)) :
    Shows (Effect.all (effect :: rest)) (Effect.all (shadow :: later)) := by
  intro state
  have before := first state
  have after := others (effect state).1
  rw [before.dwell] at after
  exact mirrors_append before after

theorem shows_silent {effect : CaptureEffect} {rest : List CaptureEffect}
    {later : List DwellEffect} (first : Silent effect)
    (others : Shows (Effect.all rest) (Effect.all later)) :
    Shows (Effect.all (effect :: rest)) (Effect.all later) := by
  intro state
  have before := first state
  have after := others (effect state).1
  rw [before.dwell] at after
  exact mirrors_append before after

theorem shows_append {effects rest : List CaptureEffect} {shadows later : List DwellEffect}
    (first : Shows (Effect.all effects) (Effect.all shadows))
    (others : Shows (Effect.all rest) (Effect.all later)) :
    Shows (Effect.all (effects ++ rest)) (Effect.all (shadows ++ later)) := by
  intro state
  rw [Effect.all_append, Effect.all_append]
  have before := first state
  have after := others (Effect.all effects state).1
  rw [before.dwell] at after
  exact mirrors_append before after

theorem shows_after_silent {effects rest : List CaptureEffect} {later : List DwellEffect}
    (first : Silent (Effect.all effects)) (others : Shows (Effect.all rest) (Effect.all later)) :
    Shows (Effect.all (effects ++ rest)) (Effect.all later) :=
  @shows_append _ _ [] _ first others

theorem shows_before_silent {effects rest : List CaptureEffect} {shadows : List DwellEffect}
    (first : Shows (Effect.all effects) (Effect.all shadows)) (others : Silent (Effect.all rest)) :
    Shows (Effect.all (effects ++ rest)) (Effect.all shadows) := by
  have both := shows_append first others
  rw [List.append_nil] at both
  exact both

theorem shows_alone {effect : CaptureEffect} {shadow : DwellEffect}
    (whole : Shows effect (Effect.all [shadow])) : Shows effect shadow := by
  intro state
  have mirrored := whole state
  rw [Effect.all_cons, Effect.all_nil, List.append_nil] at mirrored
  exact mirrored

theorem silent_change {next : CaptureState → CaptureState}
    (dwell : ∀ state, (next state).dwell = state.dwell)
    (lets : ∀ state, (next state).controls.lets = state.controls.lets) :
    Silent (Effect.change next) := fun state => ⟨dwell state, rfl, lets state⟩

/-- Rows that tell nothing of dwell and power, sent after a change of neither. -/
theorem silent_sent {next : CaptureState → CaptureState} {rows : CaptureState → List Captured}
    (dwell : ∀ state, (next state).dwell = state.dwell)
    (lets : ∀ state, (next state).controls.lets = state.controls.lets)
    (unmarked : ∀ state, ∀ row ∈ rows state, dwellMark row = none) :
    Silent fun state => sendAll (rows state) (next state) := by
  intro state
  refine ⟨dwell state, ?_, lets state⟩
  apply List.filterMap_eq_nil_iff.mpr
  intro row member
  exact unmarked state row (List.mem_filter.mp member).1

theorem silent_all {effects : List CaptureEffect} (each : ∀ effect ∈ effects, Silent effect) :
    Silent (Effect.all effects) := by
  induction effects with
  | nil => exact shows_nothing
  | cons effect rest induction =>
      exact shows_silent (each effect List.mem_cons_self)
        (induction fun other member => each other (List.mem_cons_of_mem _ member))

theorem silent_optional {Item : Type} (item : Option Item) {effect : Item → CaptureEffect}
    (each : ∀ one, Silent (effect one)) : Silent (Effect.all (item.toList.map effect)) := by
  apply silent_all
  intro found member
  have ⟨one, _, same⟩ := List.mem_map.mp member
  rw [← same]
  exact each one

theorem silent_flush_pending : Silent flushPendingMouseMovement := by
  apply @silent_sent (fun state => { state with mouse := state.mouse.flushPending.1 }) _
    (fun _ => rfl) (fun _ => rfl)
  intro state row member
  simp only [MouseState.flushPending, Option.mem_toList, Option.map_eq_some_iff] at member
  obtain ⟨pending, _, same⟩ := member
  rw [← same]
  rfl

theorem silent_reset_mouse : Silent resetMouseAfterBoundary :=
  silent_change (fun _ => rfl) fun _ => rfl

theorem silent_reset_keyboard : Silent resetKeyboardAfterBoundary :=
  silent_change (fun _ => rfl) fun _ => rfl

theorem silent_system {payload : EventPayload} (now : Instant)
    (unmarked : dwellMark ⟨.system, now, payload⟩ = none) : Silent (sendSystem payload now) := by
  apply silent_sent (fun _ => rfl) (fun _ => rfl)
  intro state row member
  rw [List.mem_singleton.mp member]
  exact unmarked

theorem silent_power_status (reading : PowerReading) : Silent (onPowerStatusChange reading) := by
  apply silent_optional
  intro read state
  unfold onPowerStatusSampleAt
  dsimp only
  split_ifs
  · exact shows_nothing state
  · apply shows_silent _ (shows_silent _ shows_nothing)
    · exact silent_change (fun _ => rfl) fun _ => rfl
    · exact silent_system read.2 rfl

theorem silent_sensitive_boundary {payload : EventPayload} (now : Instant)
    (unmarked : dwellMark ⟨.system, now, payload⟩ = none) :
    Silent (sendSensitiveBoundary payload now) := by
  intro state
  unfold sendSensitiveBoundary
  split_ifs
  · exact ⟨rfl, rfl, rfl⟩
  · exact ⟨rfl, by rw [List.filterMap_cons_none unmarked]; rfl, rfl⟩

theorem silent_enter_sensitive (now : Instant) (reason : SensitiveContextReason) :
    Silent (enterSensitiveContextAt now reason) := by
  intro state
  unfold enterSensitiveContextAt
  split_ifs
  · exact shows_nothing state
  · apply shows_silent _ (shows_silent _ shows_nothing)
    · exact silent_change (fun _ => rfl) fun _ => rfl
    · exact silent_sensitive_boundary now rfl

theorem silent_exit_sensitive (now : Instant) (reason : SensitiveContextReason) :
    Silent (exitSensitiveContextAt now reason) := by
  intro state
  unfold exitSensitiveContextAt
  split_ifs
  · apply shows_silent _ (shows_silent _ shows_nothing)
    · exact silent_change (fun _ => rfl) fun _ => rfl
    · exact silent_sensitive_boundary now rfl
  · exact shows_nothing state

theorem silent_input_desktop (now : Instant) (inputDesktop : InputDesktopSensitivity) :
    Silent (onInputDesktopSampleAt inputDesktop now) := by
  cases inputDesktop with
  | normal => exact silent_exit_sensitive now .secureDesktop
  | «protected» => exact silent_enter_sensitive now .secureDesktop

theorem silent_protect : Silent protectUnknownPasswordFocus := by
  intro state
  unfold protectUnknownPasswordFocus
  split_ifs
  · apply shows_silent _ (shows_silent _ shows_nothing)
    · exact silent_change (fun _ => rfl) fun _ => rfl
    · exact silent_change (fun _ => rfl) fun _ => rfl
  · exact shows_nothing state

theorem silent_idle_sample (now : Instant) (idleMs : UInt64) :
    Silent (onIdleSampleAt idleMs now) := by
  apply @silent_sent (fun state => { state with idle := (state.idle.onSampleAt idleMs now).1 }) _
    (fun _ => rfl) (fun _ => rfl)
  intro state row member
  unfold IdleState.onSampleAt at member
  split_ifs at member
  · rw [List.mem_singleton.mp member]
    rfl
  · rw [List.mem_singleton.mp member]
    rfl
  · cases member

theorem sent_as_mark {controls : CaptureControls} {row : Captured} {mark : DwellMark}
    (marked : dwellMark row = some mark) (passes : controls.enabledFor row = controls.lets mark) :
    ([row].filter controls.enabledFor).filterMap dwellMark = [mark].filter controls.lets := by
  cases gate : controls.lets mark with
  | false =>
      rw [gate] at passes
      simp [passes, gate]
  | true =>
      rw [gate] at passes
      simp [passes, gate, marked]

theorem shows_system {payload : EventPayload} {mark : DwellMark} (now : Instant)
    (marked : dwellMark ⟨.system, now, payload⟩ = some mark)
    (passes : ∀ controls : CaptureControls,
      controls.enabledFor ⟨.system, now, payload⟩ = controls.lets mark) :
    Shows (sendSystem payload now) (PowerDwell.tell mark) :=
  fun state => ⟨rfl, sent_as_mark marked (passes state.controls), rfl⟩

theorem focus_passes (controls : CaptureControls) (window : WindowRef) (prev : Option WindowRef)
    (previousMs unfocusedMs : UInt64) (now : Instant) :
    ([Core.focusChanged window prev previousMs unfocusedMs now].filter
      controls.enabledFor).filterMap dwellMark =
      [DwellMark.focus previousMs].filter controls.lets := sent_as_mark rfl rfl

theorem shows_seed (window : Option WindowRef) (now : Instant) :
    Shows (seedForeground window now) (PowerDwell.seed window now) := by
  cases window with
  | none => exact shows_nothing
  | some window =>
      intro state
      have passes := focus_passes state.controls window none 0 0 now
      refine ⟨rfl, ?_, rfl⟩
      change (_ ++ []).filterMap dwellMark = _
      rw [List.append_nil]
      exact passes

theorem shows_on_window (window : WindowRef) (now : Instant) :
    Shows (foregroundCall (.onWindow window now)) (PowerDwell.onWindow now window) := by
  intro state
  unfold foregroundCall PowerDwell.onWindow
  dsimp only
  change Mirrors state (sendAll (state.foreground.onWindowAt window now).2.toList
    { state with foreground := (state.foreground.onWindowAt window now).1 }) _
  unfold ForegroundState.onWindowAt
  change Mirrors state _ (if state.foreground.current.any _ = true then _ else _)
  split_ifs
  · exact ⟨rfl, rfl, rfl⟩
  · dsimp only
    change Mirrors state _ (_, [DwellMark.focus (state.foreground.current.elim 0 _)])
    cases state.foreground.current with
    | none => exact ⟨rfl, focus_passes _ _ _ _ _ _, rfl⟩
    | some previous => exact ⟨rfl, focus_passes _ _ _ _ _ _, rfl⟩

theorem shows_end (now : Instant) (maxDuration : Option Nat) :
    Shows (foregroundCall (.endCurrent now maxDuration))
      (PowerDwell.endCurrent now maxDuration) := by
  intro state
  unfold foregroundCall PowerDwell.endCurrent
  rw [ForegroundState.apply_end]
  unfold ForegroundState.endCurrentAtWithDurationLimit
  dsimp only
  change Mirrors state _ (_, state.foreground.current.toList.map _)
  cases current : state.foreground.current with
  | none =>
      refine ⟨?_, rfl, rfl⟩
      change (⟨state.foreground.current, _, _, _⟩ : PowerDwell) = _
      rw [current]
      rfl
  | some opened => exact ⟨rfl, focus_passes _ _ _ _ _ _, rfl⟩

theorem shows_note_tick (tickMs : Option UInt64) :
    Shows (noteTick tickMs) (PowerDwell.noteTick tickMs) := fun _ => ⟨rfl, rfl, rfl⟩

theorem shows_note_resume (now : Instant) :
    Shows (noteResume now) (PowerDwell.noteResume now) := fun _ => ⟨rfl, rfl, rfl⟩

theorem gap_ms_dwell (state : CaptureState) (tickMs : Option UInt64) :
    state.missedPowerBoundaryGapMs tickMs = state.dwell.gapMs tickMs := by
  unfold missedPowerBoundaryGapMs PowerDwell.gapMs
  change (if state.powerSuspended = true then _ else _) =
    (if state.powerSuspended = true then _ else state.lastTimerTickMs.bind _)
  cases state.lastTimerTickMs with
  | none => rfl
  | some previous =>
      cases tickMs with
      | none => rfl
      | some current => rfl

theorem shows_missed (now : Instant) (window : Option WindowRef) (reading : PowerReading)
    (gapMs : UInt64) :
    Shows (onMissedPowerBoundaryAt now window reading gapMs)
      (PowerDwell.missed now window gapMs) := by
  apply shows_silent silent_flush_pending
  apply shows_silent silent_reset_mouse
  apply shows_cons (shows_end now _)
  apply shows_silent silent_reset_keyboard
  apply shows_cons (shows_seed window now)
  apply shows_silent (silent_power_status reading)
  apply shows_cons (shows_system now rfl fun _ => rfl)
  exact shows_cons (shows_note_resume now) shows_nothing

theorem shows_boundary (state : CaptureState) (now : Instant) (tickMs : Option UInt64)
    (window : Option WindowRef) (reading : PowerReading) :
    Shows (Effect.all (state.resumeBoundary now tickMs window reading))
      (Effect.all (state.dwell.boundary now tickMs window)) := by
  unfold resumeBoundary PowerDwell.boundary
  rw [gap_ms_dwell]
  cases state.dwell.gapMs tickMs with
  | some gapMs => exact shows_cons (shows_missed now window reading gapMs) shows_nothing
  | none =>
      change Shows (Effect.all ((if state.powerSuspended then _ else _) ++ _))
        (Effect.all ((if state.powerSuspended then _ else _) ++ _))
      apply shows_append
      · split_ifs
        · exact shows_nothing
        · exact shows_cons (shows_end now _) shows_nothing
      · apply shows_silent silent_reset_mouse
        apply shows_silent silent_reset_keyboard
        exact shows_cons (shows_seed window now) shows_nothing

theorem shows_resume (now : Instant) (tickMs : Option UInt64) (window : Option WindowRef)
    (reading : PowerReading) :
    Shows (onPowerResumeAt now tickMs window reading) (PowerDwell.resume now tickMs window) := by
  intro state
  unfold onPowerResumeAt PowerDwell.resume
  have same : state.isDuplicatePowerResume now = state.dwell.isDuplicateResume now := rfl
  rw [same]
  split_ifs
  · apply shows_cons _ (shows_cons (shows_note_tick tickMs) shows_nothing)
    exact fun _ => ⟨rfl, rfl, rfl⟩
  · apply shows_append
    · rw [List.singleton_append]
      exact shows_silent silent_flush_pending (shows_boundary state now tickMs window reading)
    · apply shows_cons (shows_system now rfl fun _ => rfl)
      apply shows_cons (shows_note_resume now)
      exact shows_cons (shows_note_tick tickMs) shows_nothing

theorem shows_resume_message (now : Instant) (tickMs : Option UInt64) (window : Option WindowRef)
    (missedReading reading : PowerReading) :
    Shows (onPowerResume now tickMs window missedReading reading)
      (PowerDwell.resume now tickMs window) := by
  apply shows_alone
  intro state
  have whole : Shows
      (Effect.all (onPowerResumeAt now tickMs window missedReading ::
        if state.isDuplicatePowerResume now then [] else [onPowerStatusChange reading]))
      (Effect.all [PowerDwell.resume now tickMs window]) := by
    apply shows_cons (shows_resume now tickMs window missedReading)
    split_ifs
    · exact shows_nothing
    · exact shows_silent (silent_power_status reading) shows_nothing
  exact whole state

theorem shows_suspend (now : Instant) (tickMs : Option UInt64) :
    Shows (onPowerSuspendAt now tickMs) (PowerDwell.suspend now tickMs) := by
  apply shows_silent silent_flush_pending
  apply shows_silent silent_reset_mouse
  apply shows_cons (shows_end now none)
  apply shows_cons (shows_system now rfl fun _ => rfl)
  apply shows_silent silent_reset_keyboard
  apply shows_cons _ (shows_cons (shows_note_tick tickMs) shows_nothing)
  exact fun _ => ⟨rfl, rfl, rfl⟩

theorem shows_timer_power (sample : TimerSample) :
    Shows (onTimerPowerAt sample) (PowerDwell.timerPower sample) := by
  intro state
  unfold onTimerPowerAt PowerDwell.timerPower
  rw [gap_ms_dwell]
  change Mirrors state (if state.powerSuspended then _ else _)
    (if state.powerSuspended then _ else _)
  split_ifs
  · exact shows_resume _ _ _ _ state
  · cases state.dwell.gapMs sample.tickMs with
    | none => exact shows_nothing state
    | some gapMs => exact shows_missed _ _ _ gapMs state

theorem shows_timer (sample : TimerSample) :
    Shows (onTimerSampleAt sample) (PowerDwell.timer sample) := by
  have desktop := silent_optional sample.inputDesktop (silent_input_desktop sample.now)
  have idle := silent_optional sample.idleMs (silent_idle_sample sample.now)
  apply shows_before_silent _ idle
  apply shows_after_silent desktop
  apply shows_cons (shows_timer_power sample)
  apply shows_cons (shows_note_tick sample.tickMs)
  exact shows_silent (silent_change (fun _ => rfl) fun _ => rfl) shows_nothing

theorem shows_session (event : SessionChange) (sessionId : UInt32) (now : Instant)
    (window : Option WindowRef) :
    Shows (onSessionChangeAt event sessionId now window)
      (PowerDwell.session now window event) := by
  have closed : ∀ payload reason, dwellMark ⟨.system, now, payload⟩ = none →
      Shows (onSessionClosed now payload reason) (PowerDwell.endCurrent now none) := by
    intro payload reason unmarked
    apply shows_alone
    apply shows_silent silent_flush_pending
    apply shows_silent silent_reset_mouse
    apply shows_cons (shows_end now none)
    apply shows_silent silent_reset_keyboard
    apply shows_silent (silent_system now unmarked)
    exact shows_silent (silent_enter_sensitive now reason) shows_nothing
  have opened : ∀ payload reason, dwellMark ⟨.system, now, payload⟩ = none →
      Shows (onSessionOpened now payload reason window) (PowerDwell.seed window now) := by
    intro payload reason unmarked
    apply shows_alone
    apply shows_silent (silent_exit_sensitive now reason)
    apply shows_silent silent_reset_mouse
    apply shows_silent silent_reset_keyboard
    apply shows_cons (shows_seed window now)
    exact shows_silent (silent_system now unmarked) shows_nothing
  cases event with
  | lock => exact closed _ _ rfl
  | unlock => exact opened _ _ rfl
  | consoleConnect => exact opened _ _ rfl
  | remoteConnect => exact opened _ _ rfl
  | consoleDisconnect => exact closed _ _ rfl
  | remoteDisconnect => exact closed _ _ rfl
  | other => exact shows_nothing

/-- Every message about focus, power or the session does to both what its step says. -/
theorem handle_shows [Hypot] {call : CaptureCall} (boundary : call.IsBoundary = true) :
    Shows (handle call) (PowerDwell.step call) := by
  cases call with
  | foreground window now =>
      apply shows_silent silent_protect
      cases window with
      | none => exact shows_nothing
      | some window => exact shows_cons (shows_on_window window now) shows_nothing
  | windowDestroyed hwnd => exact fun _ => ⟨rfl, rfl, rfl⟩
  | timerSample sample => exact shows_timer sample
  | powerSuspend now tickMs => exact shows_suspend now tickMs
  | powerResume now tickMs window missedReading reading =>
      exact shows_resume_message now tickMs window missedReading reading
  | sessionChange event sessionId now window => exact shows_session event sessionId now window
  | rawKeyboard _ => cases boundary
  | rawMouse _ _ => cases boundary
  | flushDueMouseMovement _ => cases boundary
  | powerStatusChange _ => cases boundary
  | reseed _ => cases boundary
  | control _ => cases boundary
  | monitor _ => cases boundary

end CaptureState

/-- What a message handled at an instant, when the tick clock shows this, may do. -/
inductive DwellTurn (dwell : PowerDwell) (call : CaptureCall) (now : Instant) (tick : UInt64) :
    PowerDwell → List DwellMark → Prop where
  | quiet (unread : call.looksForGap = false) : DwellTurn dwell call now tick dwell []
  | opens (unread : call.looksForGap = false) (window : WindowRef) :
      DwellTurn dwell call now tick { dwell with current := some ⟨window, now⟩ } [.focus 0]
  | closes (unread : call.looksForGap = false) (window : Option WindowRef) (opened : FocusedWindow)
      (full : call.fullClose dwell = some opened) :
      DwellTurn dwell call now tick
        { dwell with current := window.map fun window => ⟨window, now⟩ }
        [.focus (durationMs (saturatingDurationSince now opened.focusedAt))]
  | suspends (notice : call.suspends = true) (full : call.fullClose dwell = dwell.current) :
      DwellTurn dwell call now tick ⟨none, some tick, true, none⟩
        ((dwell.endCurrent now none).2 ++ [.suspend])
  | ticks (awake : dwell.powerSuspended = false) (noGap : dwell.gapMs (some tick) = none) :
      DwellTurn dwell call now tick { dwell with lastTimerTickMs := some tick } []
  | repeats (duplicate : dwell.isDuplicateResume now = true) :
      DwellTurn dwell call now tick
        { dwell with lastTimerTickMs := some tick, lastPowerResumeAt := some now } []
  | wakes (suspended : dwell.powerSuspended = true) (window : Option WindowRef) :
      DwellTurn dwell call now tick
        ⟨(window.map fun window => ⟨window, now⟩).or dwell.current, some tick, false, some now⟩
        ((dwell.seed window now).2 ++ [.resume true])
  | recovers (gapMs : UInt64) (gap : dwell.gapMs (some tick) = some gapMs)
      (window : Option WindowRef) (notice : List DwellMark)
      (unmatched : ∀ mark ∈ notice, mark = .resume false) :
      DwellTurn dwell call now tick
        ⟨window.map fun window => ⟨window, now⟩, some tick, false, some now⟩
        ((dwell.endCurrent now (some missedPowerBoundaryMaxDwell)).2 ++
          (dwell.seed window now).2 ++ .recovered gapMs now :: notice)
  | resumes (awake : dwell.powerSuspended = false) (noGap : dwell.gapMs (some tick) = none)
      (window : Option WindowRef) :
      DwellTurn dwell call now tick
        ⟨window.map fun window => ⟨window, now⟩, some tick, false, some now⟩
        ((dwell.endCurrent now (some missedPowerBoundaryMaxDwell)).2 ++
          (dwell.seed window now).2 ++ [.resume false])

theorem DwellTurn.notes {dwell next : PowerDwell} {call : CaptureCall} {now : Instant}
    {tick : UInt64} {marks : List DwellMark} (turn : DwellTurn dwell call now tick next marks)
    (looks : call.looksForGap = true) : next.lastTimerTickMs = some tick := by
  cases turn with
  | quiet unread | opens unread | closes unread =>
      rw [unread] at looks
      cases looks
  | suspends | ticks | repeats | wakes | recovers | resumes => rfl

namespace PowerDwell

theorem missed_eq (dwell : PowerDwell) (now : Instant) (window : Option WindowRef)
    (gapMs : UInt64) :
    missed now window gapMs dwell =
      (⟨window.map fun window => ⟨window, now⟩, dwell.lastTimerTickMs, false, some now⟩,
        (dwell.endCurrent now (some missedPowerBoundaryMaxDwell)).2 ++
          (dwell.seed window now).2 ++ [.recovered gapMs now]) := by
  simp [missed, endCurrent, seed, tell, noteResume, Effect.put, Effect.change]

theorem note_tick_eq (dwell : PowerDwell) (tick : UInt64) :
    noteTick (some tick) dwell = ({ dwell with lastTimerTickMs := some tick }, []) := rfl

theorem awake_of_gap {dwell : PowerDwell} {tickMs : Option UInt64} {length : UInt64}
    (gap : dwell.gapMs tickMs = some length) : dwell.powerSuspended = false := by
  unfold gapMs at gap
  split_ifs at gap with suspended
  exact Bool.eq_false_iff.mpr suspended

theorem resume_turn (dwell : PowerDwell) (call : CaptureCall) (now : Instant) (tick : UInt64)
    (window : Option WindowRef) :
    DwellTurn dwell call now tick (resume now (some tick) window dwell).1
      (resume now (some tick) window dwell).2 := by
  unfold resume
  by_cases duplicate : dwell.isDuplicateResume now = true
  · rw [if_pos duplicate]
    exact .repeats duplicate
  · rw [if_neg duplicate]
    unfold boundary
    cases gap : dwell.gapMs (some tick) with
    | some length =>
        have awake := awake_of_gap gap
        have turn : DwellTurn dwell call now tick _ _ :=
          .recovers length gap window [.resume false] (by simp)
        simpa [missed_eq, tell, noteResume, noteTick, Effect.put, Effect.change, awake] using turn
    | none =>
        cases suspended : dwell.powerSuspended with
        | true =>
            have turn : DwellTurn dwell call now tick _ _ := .wakes suspended window
            simpa [seed, tell, noteResume, noteTick, Effect.put, Effect.change] using turn
        | false =>
            have turn : DwellTurn dwell call now tick _ _ := .resumes suspended gap window
            simpa [endCurrent, seed, tell, noteResume, noteTick, Effect.put, Effect.change]
              using turn

theorem resume_notes (dwell : PowerDwell) (now : Instant) (tick : UInt64)
    (window : Option WindowRef) :
    (resume now (some tick) window dwell).1.lastTimerTickMs = some tick :=
  (resume_turn dwell (.powerResume now (some tick) window none none) now tick window).notes rfl

theorem note_again {dwell : PowerDwell} {tick : UInt64}
    (noted : dwell.lastTimerTickMs = some tick) :
    { dwell with lastTimerTickMs := some tick } = dwell := by
  cases dwell
  cases noted
  rfl

theorem timer_turn (dwell : PowerDwell) (call : CaptureCall) (tick : UInt64)
    {sample : TimerSample} (read : sample.tickMs = some tick) :
    DwellTurn dwell call sample.now tick (timer sample dwell).1 (timer sample dwell).2 := by
  unfold timer timerPower
  rw [read, Effect.all_cons, Effect.all_cons, Effect.all_nil, note_tick_eq, List.append_nil,
    List.append_nil]
  dsimp only
  cases suspended : dwell.powerSuspended with
  | true =>
      rw [if_pos rfl]
      have noted := resume_notes dwell sample.now tick sample.currentForeground
      have turn := resume_turn dwell call sample.now tick sample.currentForeground
      rw [note_again noted]
      exact turn
  | false =>
      rw [if_neg Bool.false_ne_true]
      cases gap : dwell.gapMs (some tick) with
      | none => exact .ticks suspended gap
      | some length =>
          have turn : DwellTurn dwell call sample.now tick _ _ :=
            .recovers length gap sample.currentForeground [] (by simp)
          simpa [missed_eq] using turn

theorem closed_turn (dwell : PowerDwell) {call : CaptureCall} {now : Instant} {tick : UInt64}
    (unread : call.looksForGap = false)
    (full : ∀ opened, dwell.current = some opened → call.fullClose dwell = some opened) :
    DwellTurn dwell call now tick (endCurrent now none dwell).1
      (endCurrent now none dwell).2 := by
  unfold endCurrent
  cases current : dwell.current with
  | none =>
      have same : { dwell with current := none } = dwell := by
        cases dwell
        cases current
        rfl
      rw [same]
      exact .quiet unread
  | some opened => exact .closes unread none opened (full opened current)

theorem seeded_turn (dwell : PowerDwell) {call : CaptureCall} {now : Instant} {tick : UInt64}
    (unread : call.looksForGap = false) (window : Option WindowRef) :
    DwellTurn dwell call now tick (seed window now dwell).1 (seed window now dwell).2 := by
  cases window with
  | none => exact .quiet unread
  | some window => exact .opens unread window

theorem step_turn (dwell : PowerDwell) {call : CaptureCall} {now : Instant} {tick : UInt64}
    (boundary : call.IsBoundary = true) (stamped : ∀ own, call.now = some own → own = now)
    (read : ∀ reading, call.tickReading = some reading → reading = some tick) :
    DwellTurn dwell call now tick (step call dwell).1 (step call dwell).2 := by
  cases call with
  | foreground window own =>
      rw [stamped own rfl]
      cases window with
      | none => exact .quiet rfl
      | some window =>
          simp only [step, Option.toList_some, List.map_cons, List.map_nil, Effect.all_cons,
            Effect.all_nil, List.append_nil, onWindow]
          split_ifs with same
          · exact .quiet rfl
          · cases current : dwell.current with
            | none => exact .opens rfl window
            | some opened =>
                apply DwellTurn.closes rfl (some window) opened
                simp only [current, Option.any_some, beq_iff_eq] at same
                simp [CaptureCall.fullClose, current, same]
  | windowDestroyed hwnd => exact .quiet rfl
  | timerSample sample =>
      rw [← stamped sample.now rfl]
      exact timer_turn dwell _ tick (read _ rfl)
  | powerSuspend own reading =>
      rw [stamped own rfl, read _ rfl]
      have turn : DwellTurn dwell (.powerSuspend now (some tick)) now tick _ _ :=
        .suspends rfl rfl
      simpa [step, suspend, endCurrent, tell, noteTick, Effect.put, Effect.change] using turn
  | powerResume own reading window missedReading powerReading =>
      rw [stamped own rfl, read _ rfl]
      exact resume_turn dwell _ now tick window
  | sessionChange event sessionId own window =>
      rw [stamped own rfl]
      have closing : ∀ closed, CaptureCall.closesSession closed = true → ∀ opened,
          dwell.current = some opened →
            (CaptureCall.sessionChange closed sessionId now window).fullClose dwell =
              some opened := by
        intro closed closes opened current
        simp [CaptureCall.fullClose, current, closes]
      cases event with
      | lock => exact closed_turn dwell rfl (closing .lock rfl)
      | unlock => exact seeded_turn dwell rfl window
      | consoleConnect => exact seeded_turn dwell rfl window
      | remoteConnect => exact seeded_turn dwell rfl window
      | consoleDisconnect => exact closed_turn dwell rfl (closing .consoleDisconnect rfl)
      | remoteDisconnect => exact closed_turn dwell rfl (closing .remoteDisconnect rfl)
      | other => exact .quiet rfl
  | rawKeyboard _ => cases boundary
  | rawMouse _ _ => cases boundary
  | flushDueMouseMovement _ => cases boundary
  | powerStatusChange _ => cases boundary
  | reseed _ => cases boundary
  | control _ => cases boundary
  | monitor _ => cases boundary

end PowerDwell

end Gilbreth.Windows
