import Gilbreth.Read.IdleTime
import Gilbreth.Windows.IdleEdges

/-!
# Stored idle time

Where every edge passes and no reseed comes in the middle of idleness, the last row that passed
tells what the last sample saw, and the reader ends each idle stretch no later than the first
sample below the threshold.
-/

set_option autoImplicit false

namespace Gilbreth.Windows

open Gilbreth.Core (Captured Instant)
open Alternation (Mark Legal)

namespace CaptureCall

def idleTurn (idle : IdleState) : CaptureCall → IdleState × List Captured
  | .timerSample sample =>
      sample.idleMs.elim (idle, []) fun idleMs => idle.onSampleAt idleMs sample.now
  | .rawKeyboard message =>
      message.idleMs.elim (idle, []) fun idleMs => idle.onActivityAt idleMs message.now
  | .rawMouse input idleMs =>
      idleMs.elim (idle, []) fun idleMs => idle.onActivityAt idleMs input.capturedAt
  | .reseed _ => (.new idle.thresholdMs, [])
  | _ => (idle, [])

end CaptureCall

namespace CaptureState

/-- The idle state takes a turn and its edges pass where the gate is open. -/
structure IdleTurned (state next : CaptureState) (rows : List Captured)
    (turned : IdleState × List Captured) : Prop where
  idle : next.idle = turned.1
  threshold : next.controls.idleThresholdMs = state.controls.idleThresholdMs
  edges : edges rows = if state.controls.idleGate then Windows.edges turned.2 else []

theorem quiet_turned {state next : CaptureState} {rows : List Captured}
    (quiet : IdleQuiet state next rows) : IdleTurned state next rows (state.idle, []) := by
  refine ⟨quiet.idle, quiet.threshold, ?_⟩
  rw [quiet.edges]
  exact (ite_self _).symm

theorem turned_between {first second third last : CaptureState}
    {before rows after : List Captured} {turned : IdleState × List Captured}
    (quiet : IdleQuiet first second before) (turn : IdleTurned second third rows turned)
    (rest : IdleQuiet third last after) :
    IdleTurned first last (before ++ rows ++ after) turned := by
  refine ⟨rest.idle.trans turn.idle, ?_, ?_⟩
  · rw [rest.threshold, turn.threshold, quiet.threshold]
  · rw [edges_append, edges_append, quiet.edges, rest.edges, turn.edges, quiet.gate,
      List.nil_append, List.append_nil]

theorem sample_turned (idleMs : UInt64) (now : Instant) (state : CaptureState) :
    IdleTurned state (onIdleSampleAt idleMs now state).1 (onIdleSampleAt idleMs now state).2
      (state.idle.onSampleAt idleMs now) := by
  refine ⟨rfl, rfl, edges_sent ?_ state.controls⟩
  intro row member
  unfold IdleState.onSampleAt at member
  split_ifs at member
  · rw [List.mem_singleton.mp member]
    rfl
  · rw [List.mem_singleton.mp member]
    rfl
  · cases member

theorem activity_turned (idleMs : UInt64) (now : Instant) (state : CaptureState) :
    IdleTurned state (onActivityAt idleMs now state).1 (onActivityAt idleMs now state).2
      (state.idle.onActivityAt idleMs now) := by
  refine ⟨rfl, rfl, edges_sent ?_ state.controls⟩
  intro row member
  unfold IdleState.onActivityAt at member
  split_ifs at member
  · cases member
  · rw [List.mem_singleton.mp member]
    rfl

theorem optional_turned (turn : UInt64 → IdleState → IdleState × List Captured)
    {effect : UInt64 → CaptureEffect}
    (each : ∀ idleMs state, IdleTurned state (effect idleMs state).1 (effect idleMs state).2
      (turn idleMs state.idle)) (idleMs : Option UInt64) (state : CaptureState) :
    IdleTurned state (Effect.all (idleMs.toList.map effect) state).1
      (Effect.all (idleMs.toList.map effect) state).2
      (idleMs.elim (state.idle, []) fun idleMs => turn idleMs state.idle) := by
  cases idleMs with
  | none => exact quiet_turned (idle_quiet_composes.nothing state)
  | some idleMs =>
      exact turned_between (idle_quiet_composes.nothing state) (each idleMs state)
        (idle_quiet_composes.nothing _)

theorem user_activity_turned (now : Instant) (idleMs : Option UInt64) (state : CaptureState) :
    IdleTurned state (onUserActivity now idleMs state).1 (onUserActivity now idleMs state).2
      (idleMs.elim (state.idle, []) fun idleMs => state.idle.onActivityAt idleMs now) :=
  optional_turned (fun idleMs idle => idle.onActivityAt idleMs now)
    (fun idleMs state => activity_turned idleMs now state) idleMs state

theorem timer_turned (sample : TimerSample) (state : CaptureState) :
    IdleTurned state (onTimerSampleAt sample state).1 (onTimerSampleAt sample state).2
      ((CaptureCall.timerSample sample).idleTurn state.idle) := by
  have quiet := Effect.does_all idle_quiet_composes (does_timer_boundaries idle_quiet_rule sample)
    state
  unfold onTimerSampleAt
  rw [Effect.all_append]
  have sampled := optional_turned (fun idleMs idle => idle.onSampleAt idleMs sample.now)
    (fun idleMs state => sample_turned idleMs sample.now state) sample.idleMs
    (Effect.all ((sample.inputDesktop.toList.map fun desktop =>
        onInputDesktopSampleAt desktop sample.now) ++
      [onTimerPowerAt sample, noteTick sample.tickMs,
        .change fun state =>
          { state with
            keyboard := state.keyboard.resyncPressedKeysWith sample.isKeyDown
            mouse := state.mouse.resyncActiveButtonsWith sample.isMouseButtonDown }]) state).1
  rw [quiet.idle] at sampled
  have whole := turned_between quiet sampled (idle_quiet_composes.nothing _)
  rw [List.append_nil] at whole
  exact whole

theorem keyboard_turned (message : KeyMessage) (state : CaptureState) :
    IdleTurned state (onRawKeyboardAt message state).1 (onRawKeyboardAt message state).2
      ((CaptureCall.rawKeyboard message).idleTurn state.idle) := by
  have active := user_activity_turned message.now message.idleMs state
  have checked : ∀ before : CaptureState, IdleQuiet before
      (if message.raw.isKeyDown then redactKeyboardForPasswordFieldAt message before
        else (false, before, [])).2.1
      (if message.raw.isKeyDown then redactKeyboardForPasswordFieldAt message before
        else (false, before, [])).2.2 := by
    intro before
    split_ifs
    · exact quiet_redact_keyboard message before
    · exact idle_quiet_composes.nothing before
  have forgot : ∀ alt : Bool, Effect.Does IdleQuiet
      (Effect.all (if message.raw.mayChangeFocus alt then [invalidatePasswordFocusCache]
        else [])) := by
    intro alt
    split_ifs
    · apply does_all idle_quiet_rule
      simp only [List.forall_mem_cons]
      exact ⟨fun _ => ⟨rfl, rfl, rfl, rfl⟩, by simp⟩
    · exact does_all idle_quiet_rule (by simp)
  have verdict := checked (onUserActivity message.now message.idleMs state).1
  have keyed := quiet_key message
    (if message.raw.isKeyDown then redactKeyboardForPasswordFieldAt message
      (onUserActivity message.now message.idleMs state).1
      else (false, (onUserActivity message.now message.idleMs state).1, [])).1
    (if message.raw.isKeyDown then redactKeyboardForPasswordFieldAt message
      (onUserActivity message.now message.idleMs state).1
      else (false, (onUserActivity message.now message.idleMs state).1, [])).2.1
  have rest := idle_quiet_composes.append _ _ _ _ _
    (idle_quiet_composes.append _ _ _ _ _ verdict keyed)
    (forgot (onUserActivity message.now message.idleMs state).1.keyboard.mods.alt _)
  have whole := turned_between (idle_quiet_composes.nothing state) active rest
  rw [List.nil_append, ← List.append_assoc, ← List.append_assoc] at whole
  exact whole

theorem mouse_turned [Hypot] (input : RawInput) (idleMs : Option UInt64) (state : CaptureState) :
    IdleTurned state (onRawMouse input idleMs state).1 (onRawMouse input idleMs state).2
      ((CaptureCall.rawMouse input idleMs).idleTurn state.idle) := by
  have active := user_activity_turned input.capturedAt idleMs state
  have rest : Effect.Does IdleQuiet (Effect.all
      ((if input.raw.downButtons.isEmpty then [] else [protectUnknownPasswordFocus]) ++
        [onMouse input])) := by
    apply does_all idle_quiet_rule
    simp only [List.forall_mem_append, List.forall_mem_cons]
    refine ⟨?_, does_mouse idle_quiet_rule input, by simp⟩
    split_ifs
    · simp
    · simp only [List.forall_mem_cons]
      exact ⟨quiet_protect, by simp⟩
  have whole := turned_between (idle_quiet_composes.nothing state) active (rest _)
  rw [List.nil_append] at whole
  exact whole

theorem reseed_turned (reseed : Reseed) {state : CaptureState}
    (matched : state.idle.thresholdMs = state.controls.idleThresholdMs) :
    IdleTurned state (reseedAfterReset reseed state).1 (reseedAfterReset reseed state).2
      ((CaptureCall.reseed reseed).idleTurn state.idle) := by
  have rest : Effect.Does IdleQuiet (Effect.all
      [takeSensitiveContextReconcile reseed.now,
        seedForeground (reseededForeground reseed) reseed.now,
        onPowerStatusChange reseed.powerStatus]) := by
    apply does_all idle_quiet_rule
    simp only [List.forall_mem_cons]
    exact ⟨does_take_reconcile idle_quiet_rule _, does_seed_foreground idle_quiet_rule _ _,
      does_power_status idle_quiet_rule _, by simp⟩
  unfold CaptureCall.idleTurn
  rw [matched]
  have started : IdleTurned state (restart reseed state) []
      (.new state.controls.idleThresholdMs, []) := ⟨rfl, rfl, (ite_self _).symm⟩
  have whole := turned_between (idle_quiet_composes.nothing state) started (rest _)
  exact whole

theorem handle_turned [Hypot] (call : CaptureCall) {state : CaptureState}
    (matched : state.idle.thresholdMs = state.controls.idleThresholdMs) :
    IdleTurned state (handle call state).1 (handle call state).2 (call.idleTurn state.idle) := by
  cases call with
  | foreground window now =>
      apply quiet_turned
      apply does_all idle_quiet_rule _ state
      simp only [List.forall_mem_cons]
      refine ⟨quiet_protect, ?_⟩
      intro effect member
      have ⟨shown, _, same⟩ := List.mem_map.mp member
      rw [← same]
      exact does_foreground_call idle_quiet_rule _
  | windowDestroyed hwnd => exact quiet_turned (does_foreground_call idle_quiet_rule _ state)
  | rawKeyboard message => exact keyboard_turned message state
  | rawMouse input idleMs => exact mouse_turned input idleMs state
  | flushDueMouseMovement now => exact quiet_turned (does_flush_due idle_quiet_rule now state)
  | timerSample sample => exact timer_turned sample state
  | powerSuspend now tickMs => exact quiet_turned (does_power_suspend idle_quiet_rule _ _ state)
  | powerResume now tickMs currentForeground missedReading reading =>
      exact quiet_turned (does_power_resume_message idle_quiet_rule _ _ _ _ _ state)
  | powerStatusChange reading => exact quiet_turned (does_power_status idle_quiet_rule _ state)
  | sessionChange event sessionId now currentForeground =>
      exact quiet_turned (does_session_change idle_quiet_rule _ _ _ _ state)
  | reseed looked => exact reseed_turned looked matched
  | control action =>
      refine ⟨rfl, ?_, (ite_self _).symm⟩
      cases action <;> rfl
  | monitor action => exact quiet_turned (quiet_monitor_action action state)

/-- A call turns the idle state only where the row passes, and no reseed comes in idleness. -/
structure Faithful (state : CaptureState) (call : CaptureCall) : Prop where
  passes : (call.idleTurn state.idle).1.isIdle ≠ state.idle.isIdle →
    state.controls.idleGate = true
  awake : ∀ looked, call = .reseed looked → state.idle.isIdle = false

/-- What a reading does to the idle state its rows tell. -/
structure Told (idle : IdleState) (turned : IdleState × List Captured) : Prop where
  threshold : turned.1.thresholdMs = idle.thresholdMs
  legal : Legal idle.isIdle (edgeMarks turned.2)
  after : Alternation.after idle.isIdle (edgeMarks turned.2) = turned.1.isIdle
  silent : turned.1.isIdle = idle.isIdle → edgeMarks turned.2 = []

theorem told_nothing (idle : IdleState) : Told idle (idle, []) :=
  ⟨rfl, trivial, rfl, fun _ => rfl⟩

theorem told_opens {idle : IdleState} (was : idle.isIdle = false) (idleMs : UInt64)
    (now : Instant) :
    Told idle ({ idle with isIdle := true }, [IdleState.idleEvent idleMs now]) := by
  refine ⟨rfl, ?_, rfl, ?_⟩
  · rw [was]
    exact ⟨rfl, trivial⟩
  · intro same
    rw [was] at same
    cases same

theorem told_closes {idle : IdleState} (was : idle.isIdle = true) (idleMs : UInt64)
    (now : Instant) :
    Told idle ({ idle with isIdle := false }, [IdleState.activeEvent idleMs now]) := by
  refine ⟨rfl, ?_, rfl, ?_⟩
  · rw [was]
    exact ⟨rfl, trivial⟩
  · intro same
    rw [was] at same
    cases same

theorem told_sample (idle : IdleState) (idleMs : UInt64) (now : Instant) :
    Told idle (idle.onSampleAt idleMs now) := by
  unfold IdleState.onSampleAt
  split_ifs with above below
  · rw [Bool.and_eq_true, Bool.not_eq_true'] at above
    exact told_opens above.1 idleMs now
  · rw [Bool.and_eq_true] at below
    exact told_closes below.1 idleMs now
  · exact told_nothing idle

theorem told_activity (idle : IdleState) (idleMs : UInt64) (now : Instant) :
    Told idle (idle.onActivityAt idleMs now) := by
  unfold IdleState.onActivityAt
  split_ifs with was
  · exact told_nothing idle
  · rw [Bool.not_eq_true', Bool.not_eq_false] at was
    exact told_closes was idleMs now

theorem told_optional {idle : IdleState} {turn : UInt64 → IdleState × List Captured}
    (each : ∀ idleMs, Told idle (turn idleMs)) (idleMs : Option UInt64) :
    Told idle (idleMs.elim (idle, []) turn) := by
  cases idleMs with
  | none => exact told_nothing idle
  | some idleMs => exact each idleMs

theorem told_turn {call : CaptureCall} {idle : IdleState}
    (awake : ∀ looked, call = .reseed looked → idle.isIdle = false) :
    Told idle (call.idleTurn idle) := by
  cases call with
  | timerSample sample => exact told_optional (fun idleMs => told_sample idle idleMs _) _
  | rawKeyboard message => exact told_optional (fun idleMs => told_activity idle idleMs _) _
  | rawMouse input idleMs => exact told_optional (fun idleMs => told_activity idle idleMs _) _
  | reseed looked =>
      have was := awake looked rfl
      refine ⟨rfl, trivial, ?_, fun _ => rfl⟩
      change idle.isIdle = false
      exact was
  | foreground window now => exact told_nothing idle
  | windowDestroyed hwnd => exact told_nothing idle
  | flushDueMouseMovement now => exact told_nothing idle
  | powerSuspend now tickMs => exact told_nothing idle
  | powerResume now tickMs currentForeground missedReading reading => exact told_nothing idle
  | powerStatusChange reading => exact told_nothing idle
  | sessionChange event sessionId now currentForeground => exact told_nothing idle
  | control action => exact told_nothing idle
  | monitor action => exact told_nothing idle

theorem turn_stamped {call : CaptureCall} {idle : IdleState} {row : Captured}
    (member : row ∈ (call.idleTurn idle).2) : call.now = some row.capturedAt := by
  have sampled : ∀ idleMs now, row ∈ (idle.onSampleAt idleMs now).2 → now = row.capturedAt := by
    intro idleMs now member
    unfold IdleState.onSampleAt at member
    split_ifs at member
    · rw [List.mem_singleton.mp member]
      rfl
    · rw [List.mem_singleton.mp member]
      rfl
    · cases member
  have acted : ∀ (reading : Option UInt64) now,
      row ∈ (reading.elim (idle, []) fun idleMs => idle.onActivityAt idleMs now).2 →
        now = row.capturedAt := by
    intro reading now member
    cases reading with
    | none => cases member
    | some idleMs =>
        change row ∈ (idle.onActivityAt idleMs now).2 at member
        unfold IdleState.onActivityAt at member
        split_ifs at member
        · cases member
        · rw [List.mem_singleton.mp member]
          rfl
  cases call with
  | timerSample sample =>
      change row ∈ (sample.idleMs.elim (idle, []) fun idleMs =>
        idle.onSampleAt idleMs sample.now).2 at member
      cases read : sample.idleMs with
      | none =>
          rw [read] at member
          cases member
      | some idleMs =>
          rw [read] at member
          exact congrArg some (sampled idleMs sample.now member)
  | rawKeyboard message => exact congrArg some (acted _ _ member)
  | rawMouse input idleMs => exact congrArg some (acted _ _ member)
  | _ => cases member

section Run

variable [Hypot]

/-- Every state of a run keeps one threshold. -/
def Thresholds (thresholdMs : UInt64) (state : CaptureState) : Prop :=
  state.idle.thresholdMs = thresholdMs ∧ state.controls.idleThresholdMs = thresholdMs

theorem handle_thresholds {thresholdMs : UInt64} (call : CaptureCall) {state : CaptureState}
    (kept : Thresholds thresholdMs state) :
    Thresholds thresholdMs (machine.step state call).1 := by
  have turned := handle_turned call (kept.1.trans kept.2.symm)
  refine ⟨?_, turned.threshold.trans kept.2⟩
  change (handle call state).1.idle.thresholdMs = thresholdMs
  rw [turned.idle, ← kept.1]
  cases call with
  | timerSample sample => exact (told_optional (fun idleMs => told_sample _ idleMs _) _).threshold
  | rawKeyboard message =>
      exact (told_optional (fun idleMs => told_activity _ idleMs _) _).threshold
  | rawMouse input idleMs =>
      exact (told_optional (fun idleMs => told_activity _ idleMs _) _).threshold
  | _ => rfl

theorem run_thresholds {thresholdMs : UInt64} (calls : List CaptureCall) {state : CaptureState}
    (kept : Thresholds thresholdMs state) :
    Thresholds thresholdMs (machine.run state calls) :=
  machine.run_invariant (Thresholds thresholdMs) (fun _ call => handle_thresholds call) state
    calls kept

theorem step_told {thresholdMs : UInt64} {call : CaptureCall} {state : CaptureState}
    (kept : Thresholds thresholdMs state) (faithful : Faithful state call) :
    Legal state.idle.isIdle (edgeMarks (machine.step state call).2) ∧
      Alternation.after state.idle.isIdle (edgeMarks (machine.step state call).2) =
        (machine.step state call).1.idle.isIdle := by
  have turned := handle_turned call (kept.1.trans kept.2.symm)
  have told := told_turn faithful.awake
  change Legal _ (edgeMarks (handle call state).2) ∧
    Alternation.after _ (edgeMarks (handle call state).2) = (handle call state).1.idle.isIdle
  rw [← edge_marks_edges, turned.edges, turned.idle]
  by_cases gate : state.controls.idleGate = true
  · rw [if_pos gate, edge_marks_edges]
    exact ⟨told.legal, told.after⟩
  · rw [if_neg gate]
    have same : (call.idleTurn state.idle).1.isIdle = state.idle.isIdle := by
      by_contra flips
      exact gate (faithful.passes flips)
    exact ⟨trivial, same.symm⟩

theorem run_told {thresholdMs : UInt64} {calls : List CaptureCall} {state : CaptureState}
    (kept : Thresholds thresholdMs state) (faithful : machine.AllSteps Faithful state calls) :
    Legal state.idle.isIdle (edgeMarks (machine.outputs state calls).flatten) ∧
      Alternation.after state.idle.isIdle (edgeMarks (machine.outputs state calls).flatten) =
        (machine.run state calls).idle.isIdle := by
  induction calls generalizing state with
  | nil => exact ⟨trivial, rfl⟩
  | cons call rest induction =>
      have step := step_told kept faithful.1
      have later := induction (handle_thresholds call kept) faithful.2
      have split : edgeMarks (machine.outputs state (call :: rest)).flatten =
          edgeMarks (machine.step state call).2 ++
            edgeMarks (machine.outputs (machine.step state call).1 rest).flatten := by
        rw [Machine.outputs_cons, List.flatten_cons]
        exact List.filterMap_append
      rw [split, Alternation.legal_append, Alternation.after_append, step.2]
      exact ⟨⟨step.1, later.1⟩, later.2⟩

theorem sample_idle {thresholdMs : UInt64} {state : CaptureState} {sample : TimerSample}
    {idleMs : UInt64} (kept : Thresholds thresholdMs state) (read : sample.idleMs = some idleMs) :
    (machine.step state (.timerSample sample)).1.idle.isIdle = decide (thresholdMs ≤ idleMs) := by
  have turned := handle_turned (.timerSample sample) (kept.1.trans kept.2.symm)
  change (handle (.timerSample sample) state).1.idle.isIdle = _
  rw [turned.idle, ← kept.1]
  unfold CaptureCall.idleTurn
  dsimp only
  rw [read]
  change (state.idle.onSampleAt idleMs sample.now).1.isIdle = _
  unfold IdleState.onSampleAt
  by_cases above : state.idle.thresholdMs ≤ idleMs
  · have notBelow : ¬idleMs < state.idle.thresholdMs := UInt64.not_lt.mpr above
    cases was : state.idle.isIdle <;> simp [above, notBelow, was]
  · have below : idleMs < state.idle.thresholdMs := UInt64.not_le.mp above
    cases was : state.idle.isIdle <;> simp [above, below, was]

theorem run_edges_stamped {thresholdMs : UInt64} {calls : List CaptureCall} {state : CaptureState}
    (kept : Thresholds thresholdMs state) :
    ∀ row ∈ edges (machine.outputs state calls).flatten, ∃ call ∈ calls,
      call.now = some row.capturedAt := by
  induction calls generalizing state with
  | nil =>
      intro row member
      cases member
  | cons call rest induction =>
      intro row member
      rw [Machine.outputs_cons, List.flatten_cons, edges_append] at member
      rcases List.mem_append.mp member with now | later
      · refine ⟨call, List.mem_cons_self, ?_⟩
        have turned := handle_turned call (kept.1.trans kept.2.symm)
        change row ∈ edges (handle call state).2 at now
        rw [turned.edges] at now
        split_ifs at now
        · have told := List.mem_of_mem_filter now
          exact turn_stamped told
        · cases now
      · have ⟨found, among, same⟩ := induction (handle_thresholds call kept) row later
        exact ⟨found, List.mem_cons_of_mem _ among, same⟩

def passed (start : CaptureState) (calls : List CaptureCall) : List Captured :=
  (machine.outputs start calls).flatten

/-- A sample below the threshold, taken where the row would pass. -/
structure Awake (start : CaptureState) (before : List CaptureCall) (sample : TimerSample) :
    Prop where
  gate : (machine.run start before).controls.idleGate = true
  below : ∃ idleMs, sample.idleMs = some idleMs ∧ idleMs < start.controls.idleThresholdMs

theorem last_edge_at_sample {start : CaptureState}
    (kept : Thresholds start.controls.idleThresholdMs start) (was : start.idle.isIdle = false)
    {before : List CaptureCall} {sample : TimerSample} {idleMs : UInt64}
    (faithful : machine.AllSteps Faithful start (before ++ [.timerSample sample]))
    (read : sample.idleMs = some idleMs) :
    (∃ earlier, edgeMarks (passed start (before ++ [.timerSample sample])) = earlier ++ [.opens]) ↔
      start.controls.idleThresholdMs ≤ idleMs := by
  have told := run_told kept faithful
  rw [was] at told
  rw [← Alternation.after_iff_last]
  change Alternation.after false (edgeMarks (machine.outputs start _).flatten) = true ↔ _
  rw [told.2, machine.run_append, Machine.run_cons, Machine.run_nil,
    sample_idle (run_thresholds before kept) read, decide_eq_true_eq]

end Run

end CaptureState

/-- The stored idle and active rows of a session are the rows that passed, at stamped times. -/
structure StoredEdges (stamp : Instant → Int) (rows : List Captured) (db : Store.Database)
    (sessionId : Int) : Prop where
  every : ∀ row ∈ db.activity.events.rows, row.sessionId = sessionId →
    row.kind = "idle" ∨ row.kind = "active" → ∃ captured ∈ edges rows,
      row.kind = captured.payload.kind ∧ row.ts.val = stamp captured.capturedAt
  each : ∀ captured ∈ edges rows, ∃ row ∈ db.activity.events.rows, row.sessionId = sessionId ∧
    row.kind = captured.payload.kind ∧ row.ts.val = stamp captured.capturedAt

theorem kind_of_mark {captured : Captured} {mark : Mark} (marked : edgeMark captured = some mark) :
    captured.payload.kind = if mark = .opens then "idle" else "active" := by
  unfold edgeMark at marked
  cases payload : captured.payload <;> rw [payload] at marked <;> cases marked <;> rfl

theorem mark_of_idle {captured : Captured} {rows : List Captured} (edge : captured ∈ edges rows)
    (idle : captured.payload.kind = "idle") : edgeMark captured = some .opens := by
  have isEdge := (List.mem_filter.mp edge).2
  cases marked : edgeMark captured with
  | none =>
      rw [marked] at isEdge
      cases isEdge
  | some mark =>
      have kind := kind_of_mark marked
      rw [idle] at kind
      by_cases opens : mark = .opens
      · rw [opens]
      · rw [if_neg opens] at kind
        exact absurd kind (by decide)

/-- Where edges do not end with an opening, an opening among them has a closing after it. -/
theorem closing_last {rows : List Captured} {captured : Captured} (among : captured ∈ edges rows)
    (opens : edgeMark captured = some .opens)
    (notLast : ¬∃ earlier, edgeMarks rows = earlier ++ [.opens]) :
    ∃ front last, edges rows = front ++ [last] ∧ captured ∈ front ∧
      edgeMark last = some .closes := by
  cases listed : edges rows using List.reverseRecOn with
  | nil =>
      rw [listed] at among
      cases among
  | append_singleton front last _ =>
      have marks : edgeMarks rows = edgeMarks front ++ edgeMarks [last] := by
        rw [← edge_marks_edges, listed]
        exact List.filterMap_append
      have isEdge : (edgeMark last).isSome = true := by
        have member : last ∈ edges rows := by
          rw [listed]
          simp
        exact (List.mem_filter.mp member).2
      have closes : edgeMark last = some .closes := by
        have notOpens : edgeMark last ≠ some .opens := by
          intro isOpen
          apply notLast
          refine ⟨edgeMarks front, ?_⟩
          rw [marks, edgeMarks, edgeMarks, List.filterMap_cons_some isOpen, List.filterMap_nil]
        unfold edgeMark at isEdge notOpens ⊢
        cases payload : last.payload <;> rw [payload] at isEdge notOpens <;>
          first
            | rfl
            | exact absurd rfl notOpens
            | cases isEdge
      refine ⟨front, last, rfl, ?_, closes⟩
      rw [listed] at among
      rcases List.mem_append.mp among with inFront | isLast
      · exact inFront
      · rw [List.mem_singleton.mp isLast, closes] at opens
        cases opens

section Reader

open CaptureState Read

variable [Hypot]

theorem stretch_ends_by_sample {start : CaptureState}
    (kept : Thresholds start.controls.idleThresholdMs start) (was : start.idle.isIdle = false)
    {before after : List CaptureCall} {sample : TimerSample}
    (faithful : CaptureState.machine.AllSteps Faithful start
      (before ++ .timerSample sample :: after))
    (awake : Awake start before sample) {stamp : Instant → Int}
    (monotone : ∀ first second : Instant, first.nanos ≤ second.nanos →
      stamp first ≤ stamp second)
    (ordered : ((before ++ .timerSample sample :: after).filterMap CaptureCall.now).Pairwise
      fun first second => first.nanos ≤ second.nanos)
    (apart : (edges (passed start (before ++ .timerSample sample :: after))).Pairwise
      fun first second => stamp first.capturedAt < stamp second.capturedAt)
    {db : Store.Database} {sessionId : Int}
    (stored : StoredEdges stamp (passed start (before ++ .timerSample sample :: after)) db
      sessionId)
    {captured : Captured} (early : captured ∈ edges (passed start before))
    (opens : edgeMark captured = some .opens) {finish : Int}
    (ends : EndsIdle db sessionId (stamp captured.capturedAt) finish) :
    finish ≤ stamp sample.now := by
  have ⟨idleMs, read, below⟩ := awake.below
  have whole : before ++ .timerSample sample :: after =
      (before ++ [.timerSample sample]) ++ after := by simp
  rw [whole] at faithful apart ordered stored
  have upTo := ((CaptureState.machine.all_steps_append _ _ _ _).mp faithful).1
  have notLast : ¬∃ earlier, edgeMarks (passed start (before ++ [.timerSample sample])) =
      earlier ++ [.opens] := by
    rw [last_edge_at_sample kept was upTo read]
    exact UInt64.not_le.mpr below
  have split : edges (passed start (before ++ [.timerSample sample] ++ after)) =
      edges (passed start (before ++ [.timerSample sample])) ++
        edges (CaptureState.machine.outputs
          (CaptureState.machine.run start (before ++ [.timerSample sample])) after).flatten := by
    unfold passed
    rw [CaptureState.machine.outputs_append, List.flatten_append, edges_append]
  have among : captured ∈ edges (passed start (before ++ [.timerSample sample])) := by
    unfold passed at early ⊢
    rw [CaptureState.machine.outputs_append, List.flatten_append, edges_append]
    exact List.mem_append_left _ early
  -- The last edge by the sample closes, and comes after the opening.
  have ⟨front, last, listed, inFront, closes⟩ := closing_last among opens notLast
  rw [split, listed, List.append_assoc, List.pairwise_append] at apart
  have later : stamp captured.capturedAt < stamp last.capturedAt :=
    apart.2.2 captured inFront last (by simp)
  have isLast : last ∈ edges (passed start (before ++ [.timerSample sample])) := by
    rw [listed]
    simp
  have byThen : last.capturedAt.nanos ≤ sample.now.nanos := by
    have ⟨call, member, time⟩ := run_edges_stamped kept last isLast
    rw [List.filterMap_append, List.filterMap_append, List.pairwise_append] at ordered
    have upToSample := (List.pairwise_append.mp ordered.1).2.2
    rcases List.mem_append.mp member with sooner | same
    · exact upToSample last.capturedAt (List.mem_filterMap.mpr ⟨call, sooner, time⟩) sample.now
        (by simp [CaptureCall.now])
    · rw [List.mem_singleton.mp same] at time
      rw [← Option.some.inj time]
  have ⟨row, isRow, own, kind, ts⟩ := stored.each last (by
    rw [split]
    exact List.mem_append_left _ isLast)
  have active : stamp last.capturedAt ∈ activeAfter db sessionId (stamp captured.capturedAt) := by
    refine ⟨later, row, isRow, own, ?_, ts⟩
    rw [kind, kind_of_mark closes]
    rfl
  rcases ends with least | none
  · exact (least.2 active).trans (monotone _ _ byThen)
  · rw [none.1] at active
    cases active

/-- Where no edge falls while it cannot pass and no reseed in the middle of idleness, the rows
that passed alternate, the last of them tells what a sample saw, and no stored idle time lasts
beyond the first sample below the threshold. -/
theorem stored_idle_matches_user (controls : CaptureControls) (metrics : MouseMetrics)
    (tickMs : UInt64) {calls : List CaptureCall}
    (faithful : CaptureState.machine.AllSteps Faithful (.new controls metrics tickMs) calls) :
    Legal false (edgeMarks (passed (.new controls metrics tickMs) calls)) ∧
    (∀ before sample after idleMs, calls = before ++ .timerSample sample :: after →
      sample.idleMs = some idleMs →
      (CaptureState.machine.run (.new controls metrics tickMs) before).controls.idleGate = true →
      ((∃ earlier, edgeMarks (passed (.new controls metrics tickMs)
          (before ++ [.timerSample sample])) = earlier ++ [.opens]) ↔
        controls.idleThresholdMs ≤ idleMs)) ∧
    ∀ stamp : Instant → Int,
      (∀ first second : Instant, first.nanos ≤ second.nanos → stamp first ≤ stamp second) →
      ((calls.filterMap CaptureCall.now).Pairwise fun first second =>
        first.nanos ≤ second.nanos) →
      ((edges (passed (.new controls metrics tickMs) calls)).Pairwise fun first second =>
        stamp first.capturedAt < stamp second.capturedAt) →
      ∀ (db : Store.Database) (ids : List Int) (scope : Option Scope) (sessionId : Int),
        sessionId ∈ ids →
        StoredEdges stamp (passed (.new controls metrics tickMs) calls) db sessionId →
        ∀ point, Spans.Covers (spansOf (idleIntervals db ids scope) sessionId) point →
          ∃ captured ∈ edges (passed (.new controls metrics tickMs) calls),
            edgeMark captured = some .opens ∧
            (∃ row ∈ idleRows db sessionId, ∃ span, IdleStretch db scope row span ∧
              span.1 ≤ point ∧ point < span.2 ∧ row.ts.val = stamp captured.capturedAt) ∧
            ∀ before sample after, calls = before ++ .timerSample sample :: after →
              captured ∈ passed (.new controls metrics tickMs) before →
              Awake (.new controls metrics tickMs) before sample → point < stamp sample.now := by
  have kept : Thresholds controls.idleThresholdMs (.new controls metrics tickMs) := ⟨rfl, rfl⟩
  refine ⟨(run_told kept faithful).1, ?_, ?_⟩
  · intro before sample after idleMs split read _
    rw [split, ← List.singleton_append, ← List.append_assoc] at faithful
    exact last_edge_at_sample kept rfl
      ((CaptureState.machine.all_steps_append _ _ _ _).mp faithful).1 read
  · intro stamp monotone ordered apart db ids scope sessionId asked stored point covered
    have ⟨row, isIdle, span, stretch, starts, inside⟩ :=
      ((idle_exact db scope asked).union point).mp covered |>.1
    have ⟨isRow, own, kind⟩ := mem_idle_rows.mp isIdle
    have ⟨captured, isEdge, sameKind, ts⟩ := stored.every row isRow own (Or.inl kind)
    have opens := mark_of_idle isEdge (sameKind.symm.trans kind)
    refine ⟨captured, isEdge, opens, ⟨row, isIdle, span, stretch, starts, inside, ts⟩, ?_⟩
    intro before sample after split early awake
    have ends := stretch.finish
    rw [own, ts] at ends
    rw [split] at faithful ordered apart stored
    have soon : captured ∈ edges (passed (.new controls metrics tickMs) before) :=
      List.mem_filter.mpr ⟨early, (List.mem_filter.mp isEdge).2⟩
    exact inside.trans_le (stretch_ends_by_sample kept rfl faithful awake monotone ordered apart
      stored soon opens ends)

end Reader

section Returning

open CaptureState Read
open Gilbreth.Core (EventPayload)

private abbrev stillMouse : Hypot := ⟨fun _ => 0⟩

private def quietStart : CaptureState :=
  .new (.new (fun _ => true) 180000) ⟨250000000, 500000000, ⟨4, 4⟩, ⟨8, 8⟩⟩ 0

private def idleSample (idleMs : UInt64) (nanos : Int) : CaptureCall :=
  .timerSample ⟨some idleMs, some 0, none, none, ⟨nanos⟩, none, fun _ => false, fun _ => false⟩

private def returning : List CaptureCall :=
  [idleSample 180000 1000000000, idleSample 20 5000000000]

private abbrev milliseconds (instant : Instant) : Int := instant.nanos / 1000000

private def storedEdge (seq ts : Int) (kind : String) (payload : EventPayload) : Store.EventRow :=
  { sessionId := 1, seq := .ofInt seq, ts := .ofInt ts, source := .system, kind := kind
    isSensitive := false, hwnd := none, exe := none, title := none, pid := none, prevExe := none
    prevTitle := none, key := none, modShift := none, modCtrl := none, modAlt := none
    modWin := none, button := none, posX := none, posY := none, durationMs := some (.ofInt 500)
    payload := payload }

private def idled : Store.EventRow := storedEdge 1 1000 "idle" (.idle 180000)

private def back : Store.EventRow := storedEdge 2 5000 "active" (.active 20)

/-- What that run stores, in a session without an end. -/
private def returned : Store.Database :=
  { Store.Database.empty with
    activity := { Store.Activity.empty with
      events := ⟨[idled, back], by decide⟩ } }

private theorem returned_edges : edges (@passed stillMouse quietStart returning) =
    [⟨.system, ⟨1000000000⟩, .idle 180000⟩, ⟨.system, ⟨5000000000⟩, .active 20⟩] := by
  decide

private theorem returned_stored :
    StoredEdges milliseconds (@passed stillMouse quietStart returning) returned 1 := by
  constructor
  · rw [returned_edges]
    intro row listed _ _
    rcases List.mem_pair.mp listed with same | same
    · exact ⟨_, List.mem_cons_self, same ▸ ⟨rfl, rfl⟩⟩
    · exact ⟨_, List.mem_cons_of_mem _ List.mem_cons_self, same ▸ ⟨rfl, rfl⟩⟩
  · rw [returned_edges]
    intro captured listed
    rcases List.mem_pair.mp listed with same | same
    · exact ⟨_, List.mem_cons_self, same ▸ ⟨rfl, rfl, rfl⟩⟩
    · exact ⟨_, List.mem_cons_of_mem _ List.mem_cons_self, same ▸ ⟨rfl, rfl, rfl⟩⟩

private theorem returned_idle :
    Spans.Covers (spansOf (idleIntervals returned [1] none) 1) 4999 := by
  refine ((idle_exact returned none List.mem_cons_self).union 4999).mpr ⟨?_, ?_⟩
  · refine ⟨idled, mem_idle_rows.mpr ⟨List.mem_cons_self, rfl, rfl⟩,
      (500, 5000), ⟨nofun, rfl, Or.inl ⟨?_, ?_⟩, by decide, by decide⟩, by decide, by decide⟩
    · exact ⟨by decide, back, by decide, rfl, rfl, rfl⟩
    · rintro ts ⟨_, row, listed, _, active, same⟩
      rcases List.mem_pair.mp listed with opening | later
      · rw [opening] at active
        exact absurd active (by decide)
      · rw [← same, later]
        exact le_refl _
  · have slept : sessionSleep returned 1 = [] := by
      simp [sessionSleep, boundaryRows, returned, idled, back, storedEdge, sleepKinds, timesOf,
        closeSpans, recoveredSpans]
    rintro ⟨span, member, _⟩
    rw [slept] at member
    cases member

theorem stored_idle_matches_user_returning :
    Legal false (edgeMarks (@passed stillMouse quietStart returning)) ∧
      (∀ point, Spans.Covers (spansOf (idleIntervals returned [1] none) 1) point → point < 5000) ∧
      Spans.Covers (spansOf (idleIntervals returned [1] none) 1) 4999 := by
  have matched := @stored_idle_matches_user stillMouse (.new (fun _ => true) 180000)
    ⟨250000000, 500000000, ⟨4, 4⟩, ⟨8, 8⟩⟩ 0 returning
    ⟨⟨fun _ => rfl, fun _ other => by cases other⟩, ⟨fun _ => rfl, fun _ other => by cases other⟩,
      trivial⟩
  refine ⟨matched.1, fun point covered => ?_, returned_idle⟩
  have ⟨captured, listed, opens, _, ends⟩ := matched.2.2 milliseconds
    (fun first second ordered => Int.ediv_le_ediv (by decide) ordered) (by decide)
    (returned_edges.symm ▸ (by decide : List.Pairwise _ _)) returned [1] none 1
    List.mem_cons_self returned_stored point covered
  have first : captured ∈ @passed stillMouse quietStart [idleSample 180000 1000000000] := by
    change captured ∈ edges (@passed stillMouse quietStart returning) at listed
    rw [returned_edges] at listed
    rcases List.mem_pair.mp listed with same | same
    · rw [same]
      decide
    · rw [same] at opens
      cases opens
  exact ends [idleSample 180000 1000000000] _ [] rfl first
    (@Awake.mk stillMouse _ _ _ (by decide) ⟨20, rfl, by decide⟩)

/-- An activity seen while capture is suspended leaves the stored state idle. -/
theorem lost_active_edge :
    edgeMarks (@CaptureState.passed stillMouse quietStart
        [idleSample 180000 0, .control (.setSuspended true), idleSample 20 5,
          .control (.setSuspended false), idleSample 30 9]) = [.opens] ∧
      ((@CaptureState.machine stillMouse).run quietStart
        [idleSample 180000 0, .control (.setSuspended true), idleSample 20 5,
          .control (.setSuspended false)]).controls.idleGate = true := by
  decide

end Returning

end Gilbreth.Windows
