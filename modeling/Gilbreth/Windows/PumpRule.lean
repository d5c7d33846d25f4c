import Gilbreth.Windows.CaptureState
import Gilbreth.Windows.MouseButtons

/-!
# What most messages do not touch

Focus, power, session and mouse messages leave the controls, the idle state and the password
cache alone and put out neither keys nor idle edges. A relation that holds of every such
effect holds of all their handlers.
-/

set_option autoImplicit false

namespace Gilbreth.Windows

open Gilbreth.Core (Captured EventPayload ForegroundCall ForegroundState Instant InputOrigin
  MouseButton SensitiveContextReason WindowRef)

def ordinaryPayload : EventPayload → Bool
  | .key .. => false
  | .idle _ => false
  | .active _ => false
  | _ => true

def Ordinary (rows : List Captured) : Prop := ∀ row ∈ rows, ordinaryPayload row.payload = true

theorem ordinary_nil : Ordinary [] := by simp [Ordinary]

theorem ordinary_single {row : Captured} (ordinary : ordinaryPayload row.payload = true) :
    Ordinary [row] := by
  intro other member
  rw [List.mem_singleton.mp member]
  exact ordinary

theorem foreground_rows_ordinary (state : ForegroundState) (call : ForegroundCall) :
    Ordinary (state.apply call).2.toList := by
  intro row member
  rw [Option.mem_toList] at member
  cases call with
  | seed window now =>
      rw [← Option.some.inj member]
      rfl
  | onWindow window now =>
      change row ∈ (state.onWindowAt window now).2 at member
      unfold ForegroundState.onWindowAt at member
      dsimp only at member
      split_ifs at member
      · cases member
      · cases current : state.current with
        | none =>
            rw [current] at member
            rw [← Option.some.inj member]
            rfl
        | some previous =>
            rw [current] at member
            rw [← Option.some.inj member]
            rfl
  | endCurrent now maxDuration =>
      have ended : ∀ limit, row ∈ (state.endCurrentAtWithDurationLimit now limit).2 →
          ordinaryPayload row.payload = true := by
        intro limit member
        unfold ForegroundState.endCurrentAtWithDurationLimit at member
        cases current : state.current with
        | none =>
            rw [current] at member
            cases member
        | some previous =>
            rw [current] at member
            rw [← Option.some.inj member]
            rfl
      cases maxDuration with
      | none => exact ended none member
      | some most => exact ended (some most) member
  | destroyed hwnd => cases member
  | clear => cases member

theorem mouse_flush_ordinary (state : MouseState) : Ordinary state.flushPending.2 := by
  intro row member
  simp only [MouseState.flushPending, Option.mem_toList, Option.map_eq_some_iff] at member
  have ⟨pending, _, same⟩ := member
  rw [← same]
  rfl

theorem mouse_due_ordinary (state : MouseState) (now : Instant) :
    Ordinary (state.flushDue now).2 := by
  unfold MouseState.flushDue
  cases state.pendingMove with
  | none => exact ordinary_nil
  | some pending =>
      dsimp only
      split_ifs
      · exact ordinary_nil
      · exact mouse_flush_ordinary state

theorem wheel_rows_ordinary (input : RawInput) (inputOrigin : Option InputOrigin) :
    Ordinary (MouseState.wheelRows input inputOrigin) := by
  intro row member
  unfold MouseState.wheelRows at member
  rcases List.mem_append.mp member with vertical | horizontal
  · split_ifs at vertical
    · rw [List.mem_singleton.mp vertical]
      rfl
    · cases vertical
  · split_ifs at horizontal
    · rw [List.mem_singleton.mp horizontal]
      rfl
    · cases horizontal

theorem mouse_rows_ordinary [Hypot] (state : MouseState) (input : RawInput) :
    Ordinary (state.onRawMouse input).2 := by
  have ⟨ready, _, _, _, whole⟩ := state.on_raw_mouse_eq input
  intro row member
  rw [whole] at member
  dsimp only at member
  simp only [List.mem_append, List.mem_flatMap] at member
  rcases member with ((flushed | ⟨button, _, pressed⟩) | wheel) | ⟨button, _, release⟩
  · unfold MouseState.flushMoved at flushed
    split_ifs at flushed
    · exact mouse_flush_ordinary _ row flushed
    · exact mouse_due_ordinary _ _ row flushed
  · rcases List.mem_cons.mp pressed with click | double
    · rw [click]
      rfl
    · simp only [Option.mem_toList, Option.map_eq_some_iff] at double
      have ⟨intervalMs, _, same⟩ := double
      rw [← same]
      rfl
  · exact wheel_rows_ordinary input _ row wheel
  · have ⟨active, _, same⟩ := List.mem_map.mp release
    rw [← same]
    rfl

namespace CaptureState

/-- The change leaves alone what only idle, key and monitor messages change. -/
structure Leaves (next : CaptureState → CaptureState) : Prop where
  controls : ∀ state, (next state).controls = state.controls
  cache : ∀ state, (next state).passwordFocusCache = state.passwordFocusCache
  idle : ∀ state, (next state).idle = state.idle

/-- The relation holds of ordinary effects. -/
structure PumpRule (relation : CaptureState → CaptureState → List Captured → Prop) : Prop where
  composes : Effect.Composes relation
  act : ∀ (next : CaptureState → CaptureState) (rows : CaptureState → List Captured),
    Leaves next → (∀ state, Ordinary (rows state)) →
      Effect.Does relation fun state => sendAll (rows state) (next state)
  put : ∀ rows : CaptureState → List Captured, (∀ state, Ordinary (rows state)) →
    Effect.Does relation (Effect.put rows)
  reconcile : ∀ pending, Effect.Does relation (Effect.change fun state =>
    { state with controls := { state.controls with sensitiveReconcilePending := pending } })

variable {relation : CaptureState → CaptureState → List Captured → Prop}

section Handlers

variable (rule : PumpRule relation)

include rule

theorem does_all {effects : List CaptureEffect}
    (each : ∀ effect ∈ effects, Effect.Does relation effect) :
    Effect.Does relation (Effect.all effects) := Effect.does_all rule.composes each

theorem does_optional {Item : Type} (item : Option Item) {effect : Item → CaptureEffect}
    (each : ∀ one, Effect.Does relation (effect one)) :
    Effect.Does relation (Effect.all (item.toList.map effect)) := by
  apply does_all rule
  intro found member
  have ⟨one, _, same⟩ := List.mem_map.mp member
  rw [← same]
  exact each one

theorem does_change {next : CaptureState → CaptureState} (leaves : Leaves next) :
    Effect.Does relation (Effect.change next) :=
  rule.act next (fun _ => []) leaves fun _ => ordinary_nil

theorem does_send_system {payload : EventPayload} (ordinary : ordinaryPayload payload = true)
    (now : Instant) : Effect.Does relation (sendSystem payload now) :=
  rule.act id (fun _ => [⟨.system, now, payload⟩]) ⟨fun _ => rfl, fun _ => rfl, fun _ => rfl⟩
    fun _ => ordinary_single ordinary

theorem does_foreground_call (call : ForegroundCall) :
    Effect.Does relation (foregroundCall call) :=
  rule.act (fun state => { state with foreground := (state.foreground.apply call).1 })
    (fun state => (state.foreground.apply call).2.toList)
    ⟨fun _ => rfl, fun _ => rfl, fun _ => rfl⟩
    fun state => foreground_rows_ordinary state.foreground call

theorem does_seed_foreground (window : Option WindowRef) (now : Instant) :
    Effect.Does relation (seedForeground window now) :=
  does_optional rule window fun window => does_foreground_call rule (.seed window now)

theorem does_flush_pending : Effect.Does relation flushPendingMouseMovement :=
  rule.act (fun state => { state with mouse := state.mouse.flushPending.1 })
    (fun state => state.mouse.flushPending.2) ⟨fun _ => rfl, fun _ => rfl, fun _ => rfl⟩
    fun state => mouse_flush_ordinary state.mouse

theorem does_flush_due (now : Instant) : Effect.Does relation (flushDueMouseMovement now) :=
  rule.act (fun state => { state with mouse := (state.mouse.flushDue now).1 })
    (fun state => (state.mouse.flushDue now).2) ⟨fun _ => rfl, fun _ => rfl, fun _ => rfl⟩
    fun state => mouse_due_ordinary state.mouse now

theorem does_mouse [Hypot] (input : RawInput) : Effect.Does relation (onMouse input) :=
  rule.act (fun state => { state with mouse := (state.mouse.onRawMouse input).1 })
    (fun state => (state.mouse.onRawMouse input).2) ⟨fun _ => rfl, fun _ => rfl, fun _ => rfl⟩
    fun state => mouse_rows_ordinary state.mouse input

theorem does_reset_mouse : Effect.Does relation resetMouseAfterBoundary :=
  does_change rule ⟨fun _ => rfl, fun _ => rfl, fun _ => rfl⟩

theorem does_reset_keyboard : Effect.Does relation resetKeyboardAfterBoundary :=
  does_change rule ⟨fun _ => rfl, fun _ => rfl, fun _ => rfl⟩

theorem does_note_tick (tickMs : Option UInt64) : Effect.Does relation (noteTick tickMs) :=
  does_change rule ⟨fun _ => rfl, fun _ => rfl, fun _ => rfl⟩

theorem does_note_resume (now : Instant) : Effect.Does relation (noteResume now) :=
  does_change rule ⟨fun _ => rfl, fun _ => rfl, fun _ => rfl⟩

theorem does_power_status_sample (status : SystemPowerStatus) (now : Instant) :
    Effect.Does relation (onPowerStatusSampleAt status now) := by
  intro state
  unfold onPowerStatusSampleAt
  dsimp only
  split_ifs
  · exact does_all rule (by simp) state
  · apply does_all rule _ state
    simp only [List.forall_mem_cons]
    exact ⟨does_change rule ⟨fun _ => rfl, fun _ => rfl, fun _ => rfl⟩,
      does_send_system rule rfl now, by simp⟩

theorem does_power_status (reading : PowerReading) :
    Effect.Does relation (onPowerStatusChange reading) :=
  does_optional rule reading fun read => does_power_status_sample rule read.1 read.2

theorem does_sensitive_boundary {payload : EventPayload}
    (ordinary : ordinaryPayload payload = true) (now : Instant) :
    Effect.Does relation (sendSensitiveBoundary payload now) := by
  intro state
  unfold sendSensitiveBoundary
  split_ifs
  · exact rule.reconcile true state
  · exact rule.put (fun _ => [⟨.system, now, payload⟩]) (fun _ => ordinary_single ordinary) state

theorem does_enter_sensitive (now : Instant) (reason : SensitiveContextReason) :
    Effect.Does relation (enterSensitiveContextAt now reason) := by
  intro state
  unfold enterSensitiveContextAt
  split_ifs
  · exact does_all rule (by simp) state
  · apply does_all rule _ state
    simp only [List.forall_mem_cons]
    exact ⟨does_change rule ⟨fun _ => rfl, fun _ => rfl, fun _ => rfl⟩,
      does_sensitive_boundary rule rfl now, by simp⟩

theorem does_exit_sensitive (now : Instant) (reason : SensitiveContextReason) :
    Effect.Does relation (exitSensitiveContextAt now reason) := by
  intro state
  unfold exitSensitiveContextAt
  split_ifs
  · apply does_all rule _ state
    simp only [List.forall_mem_cons]
    exact ⟨does_change rule ⟨fun _ => rfl, fun _ => rfl, fun _ => rfl⟩,
      does_sensitive_boundary rule rfl now, by simp⟩
  · exact does_all rule (by simp) state

theorem does_input_desktop (inputDesktop : InputDesktopSensitivity) (now : Instant) :
    Effect.Does relation (onInputDesktopSampleAt inputDesktop now) := by
  cases inputDesktop with
  | normal => exact does_exit_sensitive rule now .secureDesktop
  | «protected» => exact does_enter_sensitive rule now .secureDesktop

theorem does_take_reconcile (now : Instant) :
    Effect.Does relation (takeSensitiveContextReconcile now) := by
  intro state
  unfold takeSensitiveContextReconcile
  split_ifs
  · apply does_all rule _ state
    simp only [List.forall_mem_cons]
    refine ⟨rule.reconcile false, rule.put _ ?_, by simp⟩
    intro state row member
    rcases List.mem_append.mp member with exit | enter
    · have ⟨_, _, same⟩ := List.mem_map.mp exit
      rw [← same]
      rfl
    · have ⟨_, _, same⟩ := List.mem_map.mp enter
      rw [← same]
      rfl
  · exact does_all rule (by simp) state

theorem does_power_suspend (now : Instant) (tickMs : Option UInt64) :
    Effect.Does relation (onPowerSuspendAt now tickMs) := by
  apply does_all rule
  simp only [List.forall_mem_cons]
  exact ⟨does_flush_pending rule, does_reset_mouse rule, does_foreground_call rule _,
    does_send_system rule rfl now, does_reset_keyboard rule,
    does_change rule ⟨fun _ => rfl, fun _ => rfl, fun _ => rfl⟩, does_note_tick rule tickMs,
    by simp⟩

theorem does_missed_boundary (now : Instant) (window : Option WindowRef) (reading : PowerReading)
    (gapMs : UInt64) : Effect.Does relation (onMissedPowerBoundaryAt now window reading gapMs) := by
  apply does_all rule
  simp only [List.forall_mem_cons]
  exact ⟨does_flush_pending rule, does_reset_mouse rule, does_foreground_call rule _,
    does_reset_keyboard rule, does_seed_foreground rule window now, does_power_status rule reading,
    does_send_system rule rfl now, does_note_resume rule now, by simp⟩

theorem does_resume_boundary (state : CaptureState) (now : Instant) (tickMs : Option UInt64)
    (window : Option WindowRef) (reading : PowerReading) :
    ∀ effect ∈ state.resumeBoundary now tickMs window reading, Effect.Does relation effect := by
  unfold resumeBoundary
  cases state.missedPowerBoundaryGapMs tickMs with
  | some gapMs =>
      simp only [List.forall_mem_cons]
      exact ⟨does_missed_boundary rule now window reading gapMs, by simp⟩
  | none =>
      simp only [List.forall_mem_append, List.forall_mem_cons]
      refine ⟨?_, does_reset_mouse rule, does_reset_keyboard rule,
        does_seed_foreground rule window now, by simp⟩
      by_cases suspended : state.powerSuspended = true
      · simp [suspended]
      · rw [if_neg suspended]
        simp only [List.forall_mem_cons]
        exact ⟨does_foreground_call rule _, by simp⟩

theorem does_power_resume (now : Instant) (tickMs : Option UInt64) (window : Option WindowRef)
    (reading : PowerReading) :
    Effect.Does relation (onPowerResumeAt now tickMs window reading) := by
  intro state
  unfold onPowerResumeAt
  split_ifs
  · apply does_all rule _ state
    simp only [List.forall_mem_cons]
    exact ⟨does_change rule ⟨fun _ => rfl, fun _ => rfl, fun _ => rfl⟩,
      does_note_tick rule tickMs, by simp⟩
  · apply does_all rule _ state
    simp only [List.forall_mem_append, List.forall_mem_cons]
    exact ⟨⟨⟨does_flush_pending rule, by simp⟩, does_resume_boundary rule state now tickMs window
      reading⟩, does_send_system rule rfl now, does_note_resume rule now,
      does_note_tick rule tickMs, by simp⟩

theorem does_power_resume_message (now : Instant) (tickMs : Option UInt64)
    (window : Option WindowRef) (missedReading reading : PowerReading) :
    Effect.Does relation (onPowerResume now tickMs window missedReading reading) := by
  intro state
  apply does_all rule _ state
  simp only [List.forall_mem_cons]
  refine ⟨does_power_resume rule now tickMs window missedReading, ?_⟩
  split_ifs
  · simp
  · simp only [List.forall_mem_cons]
    exact ⟨does_power_status rule reading, by simp⟩

theorem does_timer_power (sample : TimerSample) :
    Effect.Does relation (onTimerPowerAt sample) := by
  intro state
  unfold onTimerPowerAt
  split_ifs
  · exact does_power_resume rule _ _ _ _ state
  · cases state.missedPowerBoundaryGapMs sample.tickMs with
    | some gapMs => exact does_missed_boundary rule _ _ _ gapMs state
    | none => exact does_all rule (by simp) state

theorem does_timer_boundaries (sample : TimerSample) :
    ∀ effect ∈ (sample.inputDesktop.toList.map fun desktop =>
        onInputDesktopSampleAt desktop sample.now) ++
      [onTimerPowerAt sample, noteTick sample.tickMs,
        .change fun state =>
          { state with
            keyboard := state.keyboard.resyncPressedKeysWith sample.isKeyDown
            mouse := state.mouse.resyncActiveButtonsWith sample.isMouseButtonDown }],
      Effect.Does relation effect := by
  simp only [List.forall_mem_append, List.forall_mem_cons]
  refine ⟨?_, does_timer_power rule sample, does_note_tick rule sample.tickMs,
    does_change rule ⟨fun _ => rfl, fun _ => rfl, fun _ => rfl⟩, by simp⟩
  intro effect member
  have ⟨desktop, _, same⟩ := List.mem_map.mp member
  rw [← same]
  exact does_input_desktop rule desktop sample.now

theorem does_session_change (event : SessionChange) (sessionId : UInt32) (now : Instant)
    (window : Option WindowRef) :
    Effect.Does relation (onSessionChangeAt event sessionId now window) := by
  have closed : ∀ payload reason, ordinaryPayload payload = true →
      Effect.Does relation (onSessionClosed now payload reason) := by
    intro payload reason ordinary
    apply does_all rule
    simp only [List.forall_mem_cons]
    exact ⟨does_flush_pending rule, does_reset_mouse rule, does_foreground_call rule _,
      does_reset_keyboard rule, does_send_system rule ordinary now,
      does_enter_sensitive rule now reason, by simp⟩
  have opened : ∀ payload reason, ordinaryPayload payload = true →
      Effect.Does relation (onSessionOpened now payload reason window) := by
    intro payload reason ordinary
    apply does_all rule
    simp only [List.forall_mem_cons]
    exact ⟨does_exit_sensitive rule now reason, does_reset_mouse rule, does_reset_keyboard rule,
      does_seed_foreground rule window now, does_send_system rule ordinary now, by simp⟩
  cases event with
  | lock => exact closed _ _ rfl
  | unlock => exact opened _ _ rfl
  | consoleConnect => exact opened _ _ rfl
  | remoteConnect => exact opened _ _ rfl
  | consoleDisconnect => exact closed _ _ rfl
  | remoteDisconnect => exact closed _ _ rfl
  | other => exact does_all rule (by simp)

end Handlers

end CaptureState

end Gilbreth.Windows
