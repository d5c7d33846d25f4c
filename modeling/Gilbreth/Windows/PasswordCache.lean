import Gilbreth.Library.Evidence
import Gilbreth.Windows.PumpRule

/-!
# What a key press knows of the focused field

A probe's answer is kept for a while and trusted for the same window until focus may have moved.
The events of a run tell when a probe answered and what may have moved the focus.
-/

set_option autoImplicit false

namespace Gilbreth.Windows

open Gilbreth.Core (Captured EventPayload Instant WindowRef saturatingDurationSince)

/-- What a run tells of the focused field. -/
inductive FocusEvent where
  /-- A mouse press, a foreground callback, a focus key or a handled focus event. -/
  | hint
  /-- A probe answered, with no focus event while it read. -/
  | answered (hwnd : Option UInt64) (isPassword : Bool) (moment : Instant)
deriving DecidableEq

def FocusEvent.Voids (event : FocusEvent) : Prop := event = .hint

/-- The focus events that the monitor handles. -/
def focusHints (actions : List MonitorAction) : List FocusEvent :=
  actions.filterMap fun action =>
    match action with
    | .bumpFocusGeneration => some .hint
    | _ => none

namespace CaptureState

/-- The state when a press looks for a kept answer. -/
def checked (message : KeyMessage) (state : CaptureState) : CaptureState :=
  (onMonitorActions message.beforeCache (onMonitorActions message.beforeGate state).1).1

def cachedVerdict (message : KeyMessage) (state : CaptureState) : Option Bool :=
  if (onMonitorActions message.beforeGate state).1.controls.passwordFieldActive then none
  else message.window.bind fun window =>
    (state.checked message).cachedPasswordFocus window.hwnd message.now

def probeEvents (message : KeyMessage) (state : CaptureState) : List FocusEvent :=
  focusHints message.probe.before ++ focusHints message.probe.during ++
    ((state.probed message).1.toList.map fun result =>
      .answered (message.window.map WindowRef.hwnd) result.isPassword message.now) ++
    focusHints message.probe.after

def pressEvents (message : KeyMessage) (state : CaptureState) : List FocusEvent :=
  if state.controls.passwordFieldConfirmedActive then []
  else focusHints message.beforeGate ++ focusHints message.beforeCache ++
    (state.cachedVerdict message).elim ((state.checked message).probeEvents message) fun _ => []

def focusEvents (state : CaptureState) : CaptureCall → List FocusEvent
  | .foreground .. => [.hint]
  | .rawMouse input _ => if input.raw.downButtons.isEmpty then [] else [.hint]
  | .rawKeyboard message =>
      let active := (onUserActivity message.now message.idleMs state).1
      (if message.raw.isKeyDown then active.pressEvents message else []) ++
        if message.raw.mayChangeFocus active.keyboard.mods.alt then [.hint] else []
  | .monitor action => focusHints [action]
  | _ => []

end CaptureState

/-- A pump with what its run told so far. -/
structure FocusRun where
  state : CaptureState
  events : List FocusEvent

namespace FocusRun

def machine [Hypot] : Machine FocusRun CaptureCall (List Captured) where
  step := fun run call =>
    let done := CaptureState.handle call run.state
    (⟨done.1, run.events ++ run.state.focusEvents call⟩, done.2)

end FocusRun

/-- A mouse press or a foreground callback. -/
def CaptureCall.hintsFocus : CaptureCall → Bool
  | .foreground .. => true
  | .rawMouse input _ => !input.raw.downButtons.isEmpty
  | _ => false

def keyless : EventPayload → Bool
  | .key .. => false
  | _ => true

def Keyless (rows : List Captured) : Prop := ∀ row ∈ rows, keyless row.payload = true

theorem keyless_nil : Keyless [] := by simp [Keyless]

theorem keyless_append {rows later : List Captured} (first : Keyless rows)
    (second : Keyless later) : Keyless (rows ++ later) := by
  intro row member
  rcases List.mem_append.mp member with early | late
  · exact first row early
  · exact second row late

theorem keyless_ordinary {rows : List Captured} (ordinary : Ordinary rows) : Keyless rows := by
  intro row member
  have plain := ordinary row member
  cases payload : row.payload <;> rw [payload] at plain <;> first | rfl | cases plain

namespace CaptureState

/-- Neither the kept answer nor what makes it trusted changes, and no key is put out. -/
structure SameFocus (state next : CaptureState) (rows : List Captured) : Prop where
  cache : next.passwordFocusCache = state.passwordFocusCache
  generation : next.controls.passwordFocusGeneration = state.controls.passwordFocusGeneration
  streams : next.controls.streams = state.controls.streams
  confirmed : next.controls.passwordFieldConfirmedActive =
    state.controls.passwordFieldConfirmedActive
  keyless : Keyless rows

theorem same_focus_composes : Effect.Composes SameFocus where
  nothing := fun _ => ⟨rfl, rfl, rfl, rfl, keyless_nil⟩
  append := by
    intro first middle last rows later early late
    exact ⟨late.cache.trans early.cache, late.generation.trans early.generation,
      late.streams.trans early.streams, late.confirmed.trans early.confirmed,
      keyless_append early.keyless late.keyless⟩

theorem same_focus_rule : PumpRule SameFocus where
  composes := same_focus_composes
  act := by
    intro next rows leaves ordinary state
    have same := leaves.controls state
    refine ⟨leaves.cache state, ?_, ?_, ?_, ?_⟩
    · exact congrArg CaptureControls.passwordFocusGeneration same
    · exact congrArg CaptureControls.streams same
    · exact congrArg CaptureControls.passwordFieldConfirmedActive same
    · intro row member
      exact keyless_ordinary (ordinary state) row (List.mem_of_mem_filter member)
  put := fun _ ordinary state => ⟨rfl, rfl, rfl, rfl, keyless_ordinary (ordinary state)⟩
  reconcile := fun _ _ => ⟨rfl, rfl, rfl, rfl, keyless_nil⟩

theorem same_change {next : CaptureState → CaptureState}
    (cache : ∀ state, (next state).passwordFocusCache = state.passwordFocusCache)
    (controls : ∀ state, (next state).controls = state.controls) :
    Effect.Does SameFocus (Effect.change next) := by
  intro state
  have same := controls state
  exact ⟨cache state, congrArg CaptureControls.passwordFocusGeneration same,
    congrArg CaptureControls.streams same,
    congrArg CaptureControls.passwordFieldConfirmedActive same, keyless_nil⟩

theorem same_activity (now : Instant) (idleMs : UInt64) :
    Effect.Does SameFocus (onActivityAt idleMs now) := by
  intro state
  refine ⟨rfl, rfl, rfl, rfl, ?_⟩
  intro row member
  have among := List.mem_of_mem_filter member
  unfold IdleState.onActivityAt at among
  split_ifs at among
  · cases among
  · rw [List.mem_singleton.mp among]
    rfl

theorem same_user_activity (now : Instant) (idleMs : Option UInt64) :
    Effect.Does SameFocus (onUserActivity now idleMs) :=
  does_optional same_focus_rule idleMs (same_activity now)

theorem same_idle_sample (now : Instant) (idleMs : UInt64) :
    Effect.Does SameFocus (onIdleSampleAt idleMs now) := by
  intro state
  refine ⟨rfl, rfl, rfl, rfl, ?_⟩
  intro row member
  have among := List.mem_of_mem_filter member
  unfold IdleState.onSampleAt at among
  split_ifs at among
  · rw [List.mem_singleton.mp among]
    rfl
  · rw [List.mem_singleton.mp among]
    rfl
  · cases among

theorem same_timer (sample : TimerSample) : Effect.Does SameFocus (onTimerSampleAt sample) := by
  apply does_all same_focus_rule
  simp only [List.forall_mem_append]
  refine ⟨?_, ?_⟩
  · have boundaries := does_timer_boundaries same_focus_rule sample
    simp only [List.forall_mem_append] at boundaries
    exact boundaries
  · intro effect member
    have ⟨idleMs, _, same⟩ := List.mem_map.mp member
    rw [← same]
    exact same_idle_sample sample.now idleMs

theorem same_reseed (looked : Reseed) : Effect.Does SameFocus (reseedAfterReset looked) := by
  apply does_all same_focus_rule
  simp only [List.forall_mem_cons]
  exact ⟨same_change (fun _ => rfl) fun _ => rfl, does_take_reconcile same_focus_rule _,
    does_seed_foreground same_focus_rule _ _, does_power_status same_focus_rule _, by simp⟩

/-- What actions of the monitor do: each focus event is a new generation. -/
structure Overheard (actions : List MonitorAction) (state next : CaptureState)
    (rows : List Captured) : Prop where
  cache : next.passwordFocusCache = state.passwordFocusCache
  streams : next.controls.streams = state.controls.streams
  generation : next.controls.passwordFocusGeneration =
    state.controls.passwordFocusGeneration + (focusHints actions).length
  keyless : Keyless rows

theorem overheard_action (action : MonitorAction) (state : CaptureState) :
    Overheard [action] state (onMonitorAction action state).1
      (onMonitorAction action state).2 := by
  cases action with
  | bumpFocusGeneration => exact ⟨rfl, rfl, rfl, keyless_nil⟩
  | raiseGate => exact ⟨rfl, rfl, rfl, keyless_nil⟩
  | emitSample isPassword now sent =>
      unfold onMonitorAction MonitorAction.apply CaptureControls.emitConfirmedPasswordFieldSample
      dsimp only
      split_ifs
      · exact ⟨rfl, rfl, rfl, keyless_nil⟩
      · exact ⟨rfl, rfl, rfl, keyless_nil⟩
      · cases sent with
        | delivered =>
            refine ⟨rfl, rfl, rfl, keyless_ordinary (ordinary_single ?_)⟩
            unfold CaptureControls.passwordFieldRow
            cases isPassword <;> rfl
        | timedOut => exact ⟨rfl, rfl, rfl, keyless_nil⟩
        | disconnected => exact ⟨rfl, rfl, rfl, keyless_nil⟩

theorem focus_hints_cons (action : MonitorAction) (rest : List MonitorAction) :
    focusHints (action :: rest) = focusHints [action] ++ focusHints rest := by
  unfold focusHints
  rw [← List.singleton_append, List.filterMap_append]

theorem overheard_actions (actions : List MonitorAction) (state : CaptureState) :
    Overheard actions state (onMonitorActions actions state).1
      (onMonitorActions actions state).2 := by
  induction actions generalizing state with
  | nil => exact ⟨rfl, rfl, rfl, keyless_nil⟩
  | cons action rest induction =>
      have first := overheard_action action state
      have others := induction (onMonitorAction action state).1
      refine ⟨others.cache.trans first.cache, others.streams.trans first.streams, ?_,
        keyless_append first.keyless others.keyless⟩
      rw [focus_hints_cons, List.length_append, ← Nat.add_assoc, ← first.generation]
      exact others.generation

/-- A kept answer that says the field is none, under the present generation. -/
def Trusts (state : CaptureState) (entry : PasswordFocusCache) : Prop :=
  state.passwordFocusCache = some entry ∧ entry.isPassword = false ∧
    entry.focusGeneration = state.controls.passwordFocusGeneration

/-- No kept answer is ahead of the present, and a trusted one stands in the events. -/
structure Backed (state : CaptureState) (events : List FocusEvent) : Prop where
  present : ∀ entry, state.passwordFocusCache = some entry →
    entry.focusGeneration ≤ state.controls.passwordFocusGeneration
  stands : ∀ entry, state.Trusts entry →
    Stands FocusEvent.Voids (.answered (some entry.hwnd) false entry.resolvedAt) events

variable {state next : CaptureState} {rows : List Captured} {events : List FocusEvent}

theorem backed_same (backed : Backed state events) (same : SameFocus state next rows) :
    Backed next events := by
  refine ⟨?_, ?_⟩
  · intro entry kept
    rw [same.generation]
    exact backed.present entry (same.cache.symm.trans kept)
  · intro entry trusts
    exact backed.stands entry ⟨same.cache.symm.trans trusts.1, trusts.2.1,
      trusts.2.2.trans same.generation⟩

theorem backed_empty (empty : next.passwordFocusCache = none) (events : List FocusEvent) :
    Backed next events := by
  refine ⟨?_, ?_⟩
  · intro entry kept
    cases empty.symm.trans kept
  · intro entry trusts
    cases empty.symm.trans trusts.1

theorem backed_untrusted (backed : Backed state events)
    (untrusted : ∀ entry, ¬state.Trusts entry) (more : List FocusEvent) :
    Backed state (events ++ more) :=
  ⟨backed.present, fun entry trusts => absurd trusts (untrusted entry)⟩

theorem backed_overheard (backed : Backed state events) {actions : List MonitorAction}
    (overheard : Overheard actions state next rows) :
    Backed next (events ++ focusHints actions) := by
  have present : ∀ entry, next.passwordFocusCache = some entry →
      entry.focusGeneration ≤ state.controls.passwordFocusGeneration := by
    intro entry kept
    exact backed.present entry (overheard.cache.symm.trans kept)
  refine ⟨?_, ?_⟩
  · intro entry kept
    rw [overheard.generation]
    exact (present entry kept).trans (Nat.le_add_right _ _)
  · intro entry trusts
    have old := present entry trusts.1
    have now := trusts.2.2
    rw [overheard.generation] at now
    have quiet : focusHints actions = [] := List.length_eq_zero_iff.mp (by omega)
    rw [quiet, List.append_nil]
    refine backed.stands entry ⟨overheard.cache.symm.trans trusts.1, trusts.2.1, ?_⟩
    rw [now, quiet]
    rfl

theorem backed_append (backed : Backed state events) (more : List FocusEvent)
    (harmless : ∀ event ∈ more, ¬event.Voids) : Backed state (events ++ more) :=
  ⟨backed.present, fun entry trusts => (backed.stands entry trusts).append harmless⟩

/-- A probe of the press that answered that the field is none, under one generation. -/
structure AnsweredNow (message : KeyMessage) (state : CaptureState) : Prop where
  asked : state.cachedVerdict message = none
  replied : message.probe.replied = true
  read : message.probe.read = some false
  generation :
    (onMonitorActions message.probe.during (onMonitorActions message.probe.before
      (state.checked message)).1).1.controls.passwordFocusGeneration =
    (onMonitorActions message.probe.before
      (state.checked message)).1.controls.passwordFocusGeneration

/-- An earlier answer for the same window, recent, and nothing since that may have moved the
focus. -/
def AnsweredBefore (message : KeyMessage) (events : List FocusEvent) : Prop :=
  ∃ window, message.window = some window ∧ ∃ moment,
    saturatingDurationSince message.now moment ≤ passwordFieldProbeCacheTtl ∧
    Stands FocusEvent.Voids (.answered (some window.hwnd) false moment)
      (events ++ focusHints message.beforeGate ++ focusHints message.beforeCache)

theorem checked_backed (backed : Backed state events) (message : KeyMessage) :
    Backed (state.checked message)
      (events ++ focusHints message.beforeGate ++ focusHints message.beforeCache) :=
  backed_overheard (backed_overheard backed (overheard_actions _ state)) (overheard_actions _ _)

theorem cached_before (backed : Backed state events) {message : KeyMessage}
    (cached : state.cachedVerdict message = some false) : AnsweredBefore message events := by
  unfold cachedVerdict at cached
  split_ifs at cached
  have ⟨window, isWindow, found⟩ := Option.bind_eq_some_iff.mp cached
  have ⟨entry, kept, fits⟩ := Option.bind_eq_some_iff.mp found
  split_ifs at fits with same
  have trusts : (state.checked message).Trusts entry := ⟨kept, Option.some.inj fits, same.2.1⟩
  have stands := (checked_backed backed message).stands entry trusts
  rw [same.1] at stands
  exact ⟨window, isWindow, entry.resolvedAt, same.2.2, stands⟩

theorem probed_some {message : KeyMessage} {result : SensitiveFieldProbeResult}
    (answered : (state.probed message).1 = some result) :
    message.probe.replied = true ∧ message.probe.read = some result.isPassword ∧
    (onMonitorActions message.probe.during
        (onMonitorActions message.probe.before state).1).1.controls.passwordFocusGeneration =
      result.focusGeneration ∧
    (onMonitorActions message.probe.before state).1.controls.passwordFocusGeneration =
      result.focusGeneration := by
  unfold probed at answered
  dsimp only at answered
  split_ifs at answered with replied
  unfold probeFocusedPasswordFieldWith at answered
  have ⟨isPassword, read, found⟩ := Option.bind_eq_some_iff.mp answered
  split_ifs at found with moved
  rw [← Option.some.inj found]
  exact ⟨replied, read, not_not.mp moved, rfl⟩

theorem asked_backed (backed : Backed state events) (message : KeyMessage) :
    Backed (state.probed message).2.1 (events ++ state.probeEvents message) := by
  have before := backed_overheard backed (overheard_actions message.probe.before state)
  have during := backed_overheard before (overheard_actions message.probe.during _)
  have told := backed_append during ((state.probed message).1.toList.map fun result =>
    .answered (message.window.map WindowRef.hwnd) result.isPassword message.now) (by
      intro event member isHint
      have ⟨_, _, same⟩ := List.mem_map.mp member
      rw [← same] at isHint
      cases isHint)
  have after := backed_overheard told (overheard_actions message.probe.after _)
  unfold probeEvents
  simp only [List.append_assoc] at after ⊢
  exact after

theorem kept_backed {message : KeyMessage} {result : SensitiveFieldProbeResult}
    (answered : (state.probed message).1 = some result) {window : WindowRef}
    (isWindow : message.window = some window)
    (kept : next.passwordFocusCache =
      some ⟨window.hwnd, result.isPassword, result.focusGeneration, message.now⟩)
    (generation : next.controls.passwordFocusGeneration =
      (state.probed message).2.1.controls.passwordFocusGeneration) :
    Backed next (events ++ state.probeEvents message) := by
  have ⟨_, _, during, _⟩ := probed_some answered
  have after := (overheard_actions message.probe.after (onMonitorActions message.probe.during
    (onMonitorActions message.probe.before state).1).1).generation
  have reached : next.controls.passwordFocusGeneration =
      result.focusGeneration + (focusHints message.probe.after).length := by
    rw [generation, ← during]
    exact after
  refine ⟨?_, ?_⟩
  · intro entry isKept
    rw [← Option.some.inj (kept.symm.trans isKept), reached]
    exact Nat.le_add_right _ _
  · intro entry trusts
    have same := Option.some.inj (kept.symm.trans trusts.1)
    have isNone := trusts.2.1
    have now := trusts.2.2
    rw [← same] at isNone now ⊢
    rw [reached] at now
    dsimp only at isNone now ⊢
    have quiet : focusHints message.probe.after = [] := List.length_eq_zero_iff.mp (by omega)
    unfold probeEvents
    rw [answered, isWindow, quiet, List.append_nil, Option.toList_some, List.map_singleton, isNone,
      ← List.append_assoc]
    exact Stands.now _ (by simp)

/-- A press leaves the kept answer backed, and spares its key only on fresh evidence. -/
structure Pressed (message : KeyMessage) (state : CaptureState) (events : List FocusEvent)
    (done : Bool × CaptureState × List Captured) : Prop where
  backed : Backed done.2.1 (events ++ state.pressEvents message)
  streams : done.2.1.controls.streams = state.controls.streams
  keyless : Keyless done.2.2
  spared : done.1 = false → state.controls.passwordFieldConfirmedActive = false ∧
    (AnsweredNow message state ∨ AnsweredBefore message events)

/-- What a probe leaves for the pump, its answer aside. -/
structure Asked (message : KeyMessage) (state : CaptureState)
    (asked : CaptureState × List Captured) : Prop where
  streams : asked.1.controls.streams = state.controls.streams
  keyless : Keyless asked.2

theorem probed_asked (message : KeyMessage) (state : CaptureState) :
    Asked message state (state.probed message).2 := by
  have before := overheard_actions message.probe.before state
  have during := overheard_actions message.probe.during
    (onMonitorActions message.probe.before state).1
  have after := overheard_actions message.probe.after (onMonitorActions message.probe.during
    (onMonitorActions message.probe.before state).1).1
  exact ⟨after.streams.trans (during.streams.trans before.streams),
    keyless_append (keyless_append before.keyless during.keyless) after.keyless⟩

theorem reply_backed (backed : Backed state events) (message : KeyMessage) :
    Backed ((onProbeReply message (state.probed message).1).1 (state.probed message).2.1).1
        (events ++ state.probeEvents message) ∧
      ((onProbeReply message (state.probed message).1).1
        (state.probed message).2.1).1.controls.streams = state.controls.streams ∧
      Keyless ((onProbeReply message (state.probed message).1).1 (state.probed message).2.1).2 := by
  have asked := probed_asked message state
  cases answer : (state.probed message).1 with
  | none => exact ⟨backed_empty rfl _, asked.streams, keyless_nil⟩
  | some result =>
      unfold onProbeReply
      dsimp only
      have emitted := overheard_action (.emitSample result.isPassword message.now message.sent)
      cases isWindow : message.window with
      | none =>
          have same := emitted (state.probed message).2.1
          refine ⟨?_, same.streams.trans asked.streams, ?_⟩
          · have after := backed_overheard (asked_backed backed message) same
            change Backed _ (_ ++ []) at after
            rw [List.append_nil] at after
            exact after
          · exact keyless_append keyless_nil (keyless_append same.keyless keyless_nil)
      | some window =>
          have same := emitted { (state.probed message).2.1 with
            passwordFocusCache :=
              some ⟨window.hwnd, result.isPassword, result.focusGeneration, message.now⟩ }
          refine ⟨kept_backed answer isWindow same.cache same.generation,
            same.streams.trans asked.streams, ?_⟩
          exact keyless_append keyless_nil (keyless_append same.keyless keyless_nil)

theorem reply_pressed (backed : Backed state events) {message : KeyMessage}
    (unconfirmed : state.controls.passwordFieldConfirmedActive = false)
    (uncached : state.cachedVerdict message = none) :
    Pressed message state events (redactKeyboardForPasswordFieldAt message state) := by
  have whole : redactKeyboardForPasswordFieldAt message state =
      ((onProbeReply message ((state.checked message).probed message).1).2,
        ((onProbeReply message ((state.checked message).probed message).1).1
          ((state.checked message).probed message).2.1).1,
        (onMonitorActions message.beforeGate state).2 ++
          (onMonitorActions message.beforeCache
            (onMonitorActions message.beforeGate state).1).2 ++
          ((state.checked message).probed message).2.2 ++
          ((onProbeReply message ((state.checked message).probed message).1).1
            ((state.checked message).probed message).2.1).2) := by
    unfold redactKeyboardForPasswordFieldAt
    rw [unconfirmed, if_neg Bool.false_ne_true]
    unfold cachedVerdict checked at uncached
    dsimp only
    rw [uncached]
    rfl
  have gate := overheard_actions message.beforeGate state
  have cache := overheard_actions message.beforeCache (onMonitorActions message.beforeGate state).1
  have ⟨kept, streams, keyless⟩ := reply_backed (checked_backed backed message) message
  rw [whole]
  refine ⟨?_, streams.trans (cache.streams.trans gate.streams), ?_, ?_⟩
  · unfold pressEvents
    rw [unconfirmed, if_neg Bool.false_ne_true, uncached, Option.elim_none, ← List.append_assoc,
      ← List.append_assoc]
    exact kept
  · exact keyless_append (keyless_append (keyless_append gate.keyless cache.keyless)
      (probed_asked message _).keyless) keyless
  · intro spared
    refine ⟨unconfirmed, Or.inl ?_⟩
    cases answer : ((state.checked message).probed message).1 with
    | none =>
        rw [answer] at spared
        cases spared
    | some result =>
        rw [answer] at spared
        have isNone : result.isPassword = false := spared
        have ⟨replied, read, during, before⟩ := probed_some answer
        rw [isNone] at read
        exact ⟨uncached, replied, read, during.trans before.symm⟩

theorem press_pressed (backed : Backed state events) (message : KeyMessage) :
    Pressed message state events (redactKeyboardForPasswordFieldAt message state) := by
  cases confirmed : state.controls.passwordFieldConfirmedActive with
  | true =>
      unfold redactKeyboardForPasswordFieldAt
      rw [if_pos confirmed]
      refine ⟨?_, rfl, keyless_nil, fun spared => by cases spared⟩
      unfold pressEvents
      rw [if_pos confirmed, List.append_nil]
      exact backed
  | false =>
      cases cached : state.cachedVerdict message with
      | none => exact reply_pressed backed confirmed cached
      | some verdict =>
          have whole : redactKeyboardForPasswordFieldAt message state =
              (verdict, state.checked message,
                (onMonitorActions message.beforeGate state).2 ++
                  (onMonitorActions message.beforeCache
                    (onMonitorActions message.beforeGate state).1).2) := by
            unfold redactKeyboardForPasswordFieldAt
            rw [confirmed, if_neg Bool.false_ne_true]
            unfold cachedVerdict checked at cached
            dsimp only
            rw [cached]
            rfl
          have gate := overheard_actions message.beforeGate state
          have cache := overheard_actions message.beforeCache
            (onMonitorActions message.beforeGate state).1
          rw [whole]
          refine ⟨?_, cache.streams.trans gate.streams,
            keyless_append gate.keyless cache.keyless, ?_⟩
          · unfold pressEvents
            rw [confirmed, if_neg Bool.false_ne_true, cached, Option.elim_some, List.append_nil,
              ← List.append_assoc]
            exact checked_backed backed message
          · intro spared
            have isNone : verdict = false := spared
            rw [isNone] at cached
            exact ⟨confirmed, Or.inr (cached_before backed cached)⟩

/-- A focus hint while the keyboard stream is enabled, or while no answer is trusted. -/
theorem protect_backed (backed : Backed state events)
    (guarded : state.controls.enabled .keyboard = true ∨ ∀ entry, ¬state.Trusts entry) :
    Backed (protectUnknownPasswordFocus state).1 (events ++ [.hint]) := by
  unfold protectUnknownPasswordFocus
  cases enabled : state.controls.enabled .keyboard with
  | true => exact backed_empty rfl _
  | false =>
      rcases guarded with isEnabled | untrusted
      · rw [enabled] at isEnabled
        cases isEnabled
      · exact backed_untrusted backed untrusted [.hint]

theorem key_backed (backed : Backed state events) (message : KeyMessage) (redactKey : Bool) :
    Backed (onKey message redactKey state).1 events :=
  ⟨fun entry kept => backed.present entry kept, fun entry trusts => backed.stands entry trusts⟩

/-- The verdict on a press, and no more than the state for a release. -/
def keyVerdict (message : KeyMessage) (state : CaptureState) :
    Bool × CaptureState × List Captured :=
  if message.raw.isKeyDown then redactKeyboardForPasswordFieldAt message state
  else (false, state, [])

theorem keyboard_eq (message : KeyMessage) (state : CaptureState) :
    onRawKeyboardAt message state =
      let active := onUserActivity message.now message.idleMs state
      let verdict := keyVerdict message active.1
      let keyed := onKey message verdict.1 verdict.2.1
      let final := Effect.all (if message.raw.mayChangeFocus active.1.keyboard.mods.alt
        then [invalidatePasswordFocusCache] else []) keyed.1
      (final.1, active.2 ++ verdict.2.2 ++ keyed.2 ++ final.2) := rfl

theorem keyboard_backed (backed : Backed state events) (message : KeyMessage) :
    Backed (onRawKeyboardAt message state).1
      (events ++ state.focusEvents (.rawKeyboard message)) := by
  have active := backed_same backed (same_user_activity message.now message.idleMs state)
  have verdict : Backed (keyVerdict message (onUserActivity message.now message.idleMs state).1).2.1
      (events ++ if message.raw.isKeyDown then
        (onUserActivity message.now message.idleMs state).1.pressEvents message else []) := by
    unfold keyVerdict
    split_ifs
    · exact (press_pressed active message).backed
    · rw [List.append_nil]
      exact active
  rw [keyboard_eq]
  unfold focusEvents
  dsimp only
  rw [← List.append_assoc]
  cases message.raw.mayChangeFocus
      (onUserActivity message.now message.idleMs state).1.keyboard.mods.alt with
  | true => exact backed_empty rfl _
  | false =>
      rw [if_neg Bool.false_ne_true, if_neg Bool.false_ne_true, List.append_nil]
      exact key_backed verdict message _

/-- Every call but those that hint at a new focus, and those of keys and the monitor. -/
theorem same_others [Hypot] (call : CaptureCall) (silent : call.hintsFocus = false)
    (noKey : ∀ message, call ≠ .rawKeyboard message)
    (noMonitor : ∀ action, call ≠ .monitor action) (noControl : ∀ action, call ≠ .control action) :
    Effect.Does SameFocus (handle call) := by
  cases call with
  | foreground => cases silent
  | windowDestroyed hwnd => exact does_foreground_call same_focus_rule _
  | rawKeyboard message => exact absurd rfl (noKey message)
  | rawMouse input idleMs =>
      have noPress : input.raw.downButtons.isEmpty = true := (Bool.not_eq_false' (b := _)).mp silent
      apply does_all same_focus_rule
      rw [noPress, if_pos rfl]
      simp only [List.forall_mem_append, List.forall_mem_cons]
      exact ⟨⟨⟨same_user_activity _ idleMs, by simp⟩, by simp⟩, does_mouse same_focus_rule input,
        by simp⟩
  | flushDueMouseMovement now => exact does_flush_due same_focus_rule now
  | timerSample sample => exact same_timer sample
  | powerSuspend now tickMs => exact does_power_suspend same_focus_rule now tickMs
  | powerResume now tickMs window missedReading reading =>
      exact does_power_resume_message same_focus_rule now tickMs window missedReading reading
  | powerStatusChange reading => exact does_power_status same_focus_rule reading
  | sessionChange event sessionId now window =>
      exact does_session_change same_focus_rule event sessionId now window
  | reseed looked => exact same_reseed looked
  | control action => exact absurd rfl (noControl action)
  | monitor action => exact absurd rfl (noMonitor action)

theorem foreground_backed (backed : Backed state events) (window : Option WindowRef)
    (now : Instant)
    (guarded : state.controls.enabled .keyboard = true ∨ ∀ entry, ¬state.Trusts entry) :
    Backed (onForeground window now state).1 (events ++ [.hint]) := by
  have protects := protect_backed backed guarded
  have others := does_optional same_focus_rule window
    (fun window => does_foreground_call same_focus_rule (.onWindow window now))
  exact backed_same protects (others (protectUnknownPasswordFocus state).1)

theorem mouse_backed [Hypot] (backed : Backed state events) {input : RawInput}
    (pressed : input.raw.downButtons.isEmpty = false) (idleMs : Option UInt64)
    (guarded : state.controls.enabled .keyboard = true ∨ ∀ entry, ¬state.Trusts entry) :
    Backed (onRawMouse input idleMs state).1 (events ++ [.hint]) := by
  have activity := same_user_activity input.capturedAt idleMs state
  have active := backed_same backed activity
  have stillGuarded : (onUserActivity input.capturedAt idleMs state).1.controls.enabled .keyboard =
      true ∨ ∀ entry, ¬(onUserActivity input.capturedAt idleMs state).1.Trusts entry := by
    rcases guarded with enabled | untrusted
    · left
      exact (congrFun activity.streams .keyboard).trans enabled
    · right
      intro entry trusts
      exact untrusted entry ⟨activity.cache.symm.trans trusts.1, trusts.2.1,
        trusts.2.2.trans activity.generation⟩
  have protects := protect_backed active stillGuarded
  have moved := does_mouse same_focus_rule input
    (protectUnknownPasswordFocus (onUserActivity input.capturedAt idleMs state).1).1
  have after := backed_same protects moved
  unfold onRawMouse
  rw [pressed, if_neg Bool.false_ne_true]
  exact after

theorem control_backed (backed : Backed state events) (action : ControlAction) :
    Backed (onControlAction action state).1 events := by
  have generation : (action.apply state.controls).passwordFocusGeneration =
      state.controls.passwordFocusGeneration := by
    cases action <;> rfl
  refine ⟨?_, ?_⟩
  · intro entry kept
    exact (backed.present entry kept).trans_eq generation.symm
  · intro entry trusts
    exact backed.stands entry ⟨trusts.1, trusts.2.1, trusts.2.2.trans generation⟩

theorem key_spared (backed : Backed state events) {message : KeyMessage} {row : Captured}
    (out : row ∈ (onRawKeyboardAt message state).2) {key : String} {mods : Core.Modifiers}
    {window : Option WindowRef} {keyClass : Option Core.KeyClass}
    (payload : row.payload = .key key mods window keyClass)
    (notRedacted : key ≠ KeyboardState.redacted) :
    state.controls.passwordFieldConfirmedActive = false ∧
      (AnsweredNow message (onUserActivity message.now message.idleMs state).1 ∨
        AnsweredBefore message events) := by
  have activity := same_user_activity message.now message.idleMs state
  have active := backed_same backed activity
  have isKey : keyless row.payload = false := by
    rw [payload]
    rfl
  have notIn : ∀ rows, Keyless rows → row ∉ rows := by
    intro rows free member
    rw [free row member] at isKey
    cases isKey
  rw [keyboard_eq] at out
  dsimp only at out
  have verdictFree :
      Keyless (keyVerdict message (onUserActivity message.now message.idleMs state).1).2.2 := by
    unfold keyVerdict
    split_ifs
    · exact (press_pressed active message).keyless
    · exact keyless_nil
  have inKey : row ∈ (onKey message (keyVerdict message
      (onUserActivity message.now message.idleMs state).1).1 (keyVerdict message
      (onUserActivity message.now message.idleMs state).1).2.1).2 := by
    rcases List.mem_append.mp out with early | late
    · rcases List.mem_append.mp early with sooner | keyed
      · rcases List.mem_append.mp sooner with first | second
        · exact absurd first (notIn _ activity.keyless)
        · exact absurd second (notIn _ verdictFree)
      · exact keyed
    · split_ifs at late
      · exact absurd late (notIn _ keyless_nil)
      · exact absurd late (notIn _ keyless_nil)
  have member := List.mem_of_mem_filter inKey
  have ⟨down, keyMods, shown, same⟩ := KeyboardState.on_raw_key_row (Option.mem_toList.mp member)
  have spared : (keyVerdict message
      (onUserActivity message.now message.idleMs state).1).1 = false := by
    cases redact : (keyVerdict message (onUserActivity message.now message.idleMs state).1).1 with
    | false => rfl
    | true =>
        rw [same, redact] at payload
        exact absurd (EventPayload.key.inj payload).1.symm notRedacted
  unfold keyVerdict at spared
  rw [if_pos down] at spared
  have found := (press_pressed active message).spared spared
  exact ⟨activity.confirmed.symm.trans found.1, found.2⟩

end CaptureState

namespace FocusRun

open CaptureState

/-- No press of a mouse button and no foreground callback while the keyboard stream is off and a
kept answer would still be trusted. -/
def Guarded (run : FocusRun) (call : CaptureCall) : Prop :=
  call.hintsFocus = true → run.state.controls.enabled .keyboard = true ∨
    ∀ entry, ¬run.state.Trusts entry

variable [Hypot] {run : FocusRun} {call : CaptureCall}

theorem step_backed (backed : Backed run.state run.events) (guarded : run.Guarded call) :
    Backed (machine.step run call).1.state (machine.step run call).1.events := by
  cases call with
  | foreground window now => exact foreground_backed backed window now (guarded rfl)
  | rawKeyboard message => exact keyboard_backed backed message
  | rawMouse input idleMs =>
      cases pressed : input.raw.downButtons.isEmpty with
      | false =>
          have events : run.state.focusEvents (.rawMouse input idleMs) = [.hint] :=
            if_neg (Bool.eq_false_iff.mp pressed)
          change Backed _ (run.events ++ run.state.focusEvents (.rawMouse input idleMs))
          rw [events]
          exact mouse_backed backed pressed idleMs (guarded (congrArg not pressed))
      | true =>
          have events : run.state.focusEvents (.rawMouse input idleMs) = [] := if_pos pressed
          change Backed _ (run.events ++ run.state.focusEvents (.rawMouse input idleMs))
          rw [events, List.append_nil]
          apply backed_same backed
          apply same_others (.rawMouse input idleMs) (congrArg not pressed) <;>
            intro other same <;> cases same
  | monitor action => exact backed_overheard backed (overheard_action action run.state)
  | control action =>
      change Backed _ (run.events ++ [])
      rw [List.append_nil]
      exact control_backed backed action
  | windowDestroyed | flushDueMouseMovement | timerSample | powerSuspend | powerResume
  | powerStatusChange | sessionChange | reseed =>
      change Backed _ (run.events ++ [])
      rw [List.append_nil]
      apply backed_same backed
      apply same_others _ rfl <;> intro other same <;> cases same

theorem run_backed (controls : CaptureControls) (metrics : MouseMetrics) (tickMs : UInt64)
    {calls : List CaptureCall}
    (guarded : machine.AllSteps Guarded ⟨.new controls metrics tickMs, []⟩ calls) :
    Backed (machine.run ⟨.new controls metrics tickMs, []⟩ calls).state
      (machine.run ⟨.new controls metrics tickMs, []⟩ calls).events := by
  apply machine.run_invariant_of_steps (fun run => Backed run.state run.events) Guarded
    (fun run call met backed => step_backed backed met) _ _ _ guarded
  exact backed_empty rfl []

end FocusRun

/-- A key that is not redacted leaves only where the field was not known to be a password field
and a probe said so during the press, or recently, with nothing since that may have moved the
focus. -/
theorem key_needs_fresh_evidence [Hypot] (controls : CaptureControls) (metrics : MouseMetrics)
    (tickMs : UInt64) {calls : List CaptureCall}
    (guarded : FocusRun.machine.AllSteps FocusRun.Guarded ⟨.new controls metrics tickMs, []⟩
      calls) :
    ∀ before message after, calls = before ++ .rawKeyboard message :: after →
      ∀ row ∈ (CaptureState.handle (.rawKeyboard message)
          (FocusRun.machine.run ⟨.new controls metrics tickMs, []⟩ before).state).2,
      ∀ key mods window keyClass, row.payload = .key key mods window keyClass →
        key ≠ KeyboardState.redacted →
        (FocusRun.machine.run ⟨.new controls metrics tickMs, []⟩
          before).state.controls.passwordFieldConfirmedActive = false ∧
        (CaptureState.AnsweredNow message
            (CaptureState.onUserActivity message.now message.idleMs
              (FocusRun.machine.run ⟨.new controls metrics tickMs, []⟩ before).state).1 ∨
          CaptureState.AnsweredBefore message
            (FocusRun.machine.run ⟨.new controls metrics tickMs, []⟩ before).events) := by
  intro before message after split row out key mods window keyClass payload notRedacted
  rw [split] at guarded
  have upTo := ((FocusRun.machine.all_steps_append _ _ _ _).mp guarded).1
  have backed := FocusRun.run_backed controls metrics tickMs upTo
  generalize FocusRun.machine.run ⟨.new controls metrics tickMs, []⟩ before = run at *
  exact CaptureState.key_spared backed out payload notRedacted

private abbrev levelMouse : Hypot := ⟨fun _ => 0⟩

private def freshPump : CaptureState :=
  .new (.new (fun _ => true) 180000) ⟨250000000, 500000000, ⟨4, 4⟩, ⟨8, 8⟩⟩ 0

/-- A key pressed in one window; the probe, if it is asked, answers that the field is none. -/
private def typed (vkey : UInt16) (millis : Int) : KeyMessage :=
  ⟨⟨vkey, 0⟩, some ⟨7, "app.exe", "Form", 1⟩, ⟨millis * 1000000⟩, none, [], [],
    ⟨[], some false, [], [], true⟩, .delivered⟩

private def clicked (millis : Int) : CaptureCall :=
  .rawMouse ⟨⟨0, 1, 0, 0, 0⟩, some ⟨7, "app.exe", "Form", 1⟩, none, ⟨0, 0, 640, 480⟩,
    ⟨millis * 1000000⟩⟩ none

theorem key_needs_fresh_evidence_probed :
    freshPump.controls.passwordFieldConfirmedActive = false ∧
      (CaptureState.AnsweredNow (typed 0x41 0)
        (CaptureState.onUserActivity ⟨0⟩ none freshPump).1 ∨
          CaptureState.AnsweredBefore (typed 0x41 0) []) :=
  @key_needs_fresh_evidence levelMouse (.new (fun _ => true) 180000)
    ⟨250000000, 500000000, ⟨4, 4⟩, ⟨8, 8⟩⟩ 0 [.rawKeyboard (typed 0x41 0)]
    ⟨fun hint => absurd hint Bool.false_ne_true, trivial⟩ [] (typed 0x41 0) [] rfl
    ⟨.keyboard, ⟨0⟩, .key "A" .default (some ⟨7, "app.exe", "Form", 1⟩) none⟩
    (List.Mem.head _) "A" .default _ none rfl (by decide)

/-- The keyboard stream is off while the button is pressed. -/
private def offForClick : List CaptureCall :=
  [.rawKeyboard (typed 0x41 0), .control (.setEnabled .keyboard false), clicked 10,
    .control (.setEnabled .keyboard true)]

private def afterClick : FocusRun :=
  (@FocusRun.machine levelMouse).run ⟨freshPump, []⟩ offForClick

/-- A press after the click takes its key from the answer before it. -/
theorem stale_answer_spares_key :
    (∃ row ∈ (@CaptureState.handle levelMouse (.rawKeyboard (typed 0x42 500))
        afterClick.state).2, ∃ mods window keyClass,
        row.payload = .key "B" mods window keyClass) ∧
      ¬CaptureState.AnsweredNow (typed 0x42 500)
        (CaptureState.onUserActivity ⟨500000000⟩ none afterClick.state).1 ∧
      ¬CaptureState.AnsweredBefore (typed 0x42 500) afterClick.events := by
  refine ⟨⟨_, List.Mem.head _, _, _, _, rfl⟩, ?_, ?_⟩
  · intro now
    cases now.asked
  · intro before
    have ⟨window, isWindow, moment, _, stands⟩ := before
    have events : afterClick.events =
        [.answered (some 7) false ⟨0⟩] ++ [.hint] := by decide
    change Stands _ _ (afterClick.events ++ [] ++ []) at stands
    rw [List.append_nil, List.append_nil, events] at stands
    rcases stands.last with same | harmless
    · cases same
    · exact harmless rfl

end Gilbreth.Windows
