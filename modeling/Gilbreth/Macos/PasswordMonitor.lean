import Gilbreth.Library.Alternation
import Gilbreth.Macos.PasswordField

/-!
# The password monitor fails closed

Over every order of calls and every answer: the rows are a sequence of spans, the gate is up
whenever the focus has no answer or a confirmed one, and what lets a key through is an
answer that still holds.
-/

set_option autoImplicit false

namespace Gilbreth.Macos

open Core (Captured Instant EventPayload millisecond saturatingDurationSince)
open Alternation (Mark Legal after)

/-- A row of the password field begins or ends its span. -/
def spanMark (row : Captured) : Mark :=
  if row.payload = .sensitiveContextEntered .passwordField then .opens
  else if row.payload = .sensitiveContextExited .passwordField then .closes
  else .stray

/-- The rows alternate from a flag, leave another and name nothing but the password field. -/
structure Spans (confirmed : Bool) (rows : List Captured) (left : Bool) : Prop where
  alternate : Legal confirmed (rows.map spanMark)
  leaves : after confirmed (rows.map spanMark) = left
  password : ∀ row ∈ rows, row.payload = .sensitiveContextEntered .passwordField ∨
    row.payload = .sensitiveContextExited .passwordField

theorem spans_nil (confirmed : Bool) : Spans confirmed [] confirmed := ⟨trivial, rfl, by simp⟩

theorem spans_append {confirmed middle left : Bool} {rows later : List Captured}
    (first : Spans confirmed rows middle) (second : Spans middle later left) :
    Spans confirmed (rows ++ later) left := by
  refine ⟨?_, ?_, ?_⟩
  · rw [List.map_append, Alternation.legal_append, first.leaves]
    exact ⟨first.alternate, second.alternate⟩
  · rw [List.map_append, Alternation.after_append, first.leaves, second.leaves]
  · intro row member
    rcases List.mem_append.mp member with early | late
    · exact first.password row early
    · exact second.password row late

theorem swap_confirmed_spans (controls : PasswordControls) (confirmed : Bool) (now : Instant) :
    Spans controls.confirmedActive (controls.swapConfirmed confirmed now).2 confirmed := by
  unfold PasswordControls.swapConfirmed
  cases before : controls.confirmedActive <;> cases confirmed
  · exact spans_nil false
  · exact ⟨⟨rfl, trivial⟩, rfl, by simp [enteredRow]⟩
  · exact ⟨⟨rfl, trivial⟩, rfl, by simp [exitedRow]⟩
  · exact spans_nil true

namespace MonitorState

/-- The gate against the two reasons to hold it up, and nothing left of an answer while the
probe is off. -/
structure Honest (state : MonitorState) : Prop where
  live : state.monitor.probeWasLive = true →
    state.controls.fieldActive = (state.monitor.unresolved || state.controls.confirmedActive)
  off : state.monitor.probeWasLive = false → state.controls.fieldActive = false ∧
    state.controls.confirmedActive = false ∧ state.monitor.cache = none

theorem new_honest : Honest new := by
  constructor
  · intro live
    cases live
  · intro _
    exact ⟨rfl, rfl, rfl⟩

section Resolve

variable (state : MonitorState) (windowId : Option UInt64) (appPid : Option Int32) (now : Instant)
  (answer : SecureFieldProbe)

theorem resolve_gate :
    (state.resolve windowId appPid now answer).1.controls.fieldActive =
      ((state.resolve windowId appPid now answer).1.monitor.unresolved ||
        (state.resolve windowId appPid now answer).1.controls.confirmedActive) := by
  cases answer <;> rfl

theorem resolve_live :
    (state.resolve windowId appPid now answer).1.monitor.probeWasLive =
      state.monitor.probeWasLive := by
  cases answer <;> rfl

theorem resolve_asked :
    (state.resolve windowId appPid now answer).2.asked = some answer := by
  cases answer <;> rfl

theorem resolve_spans :
    Spans state.controls.confirmedActive (state.resolve windowId appPid now answer).2.rows
      (state.resolve windowId appPid now answer).1.controls.confirmedActive := by
  cases answer with
  | answered isSecure =>
      exact swap_confirmed_spans (state.controls.setPasswordFieldGate isSecure) isSecure now
  | cannotAnswer => exact spans_nil _
  | apiDisabled => exact spans_nil _

/-- What the cache holds after a probe is its own answer, or was there while it answered for
no window. -/
theorem resolve_cache {cached : ProbeCache}
    (held : (state.resolve windowId appPid now answer).1.monitor.cache = some cached) :
    answer = .answered cached.isPassword ∧ windowId = some cached.windowId ∧
        now = cached.resolvedAt ∨
      (∃ isSecure, answer = .answered isSecure) ∧ state.monitor.cache = some cached := by
  cases answer with
  | answered isSecure =>
      cases windowId with
      | some windowId =>
          cases held
          exact Or.inl ⟨rfl, rfl, rfl⟩
      | none => exact Or.inr ⟨⟨isSecure, rfl⟩, held⟩
  | cannotAnswer => cases held
  | apiDisabled => cases held

end Resolve

section Calls

variable {state : MonitorState}

theorem resolve_honest (live : state.monitor.probeWasLive = true) (windowId : Option UInt64)
    (appPid : Option Int32) (now : Instant) (answer : SecureFieldProbe) :
    Honest (state.resolve windowId appPid now answer).1 := by
  constructor
  · intro _
    exact resolve_gate state windowId appPid now answer
  · intro off
    rw [resolve_live, live] at off
    cases off

theorem redact_key_cases (state : MonitorState) (windowId : Option UInt64)
    (appPid : Option Int32) (now : Instant) (answer : SecureFieldProbe) :
    (∃ id isPassword, windowId = some id ∧
        state.monitor.cached id now state.controls = some isPassword ∧
        state.redactKeyAt windowId appPid now answer =
          (state, { Report.silent with redact := isPassword })) ∨
      state.redactKeyAt windowId appPid now answer = state.resolve windowId appPid now answer := by
  unfold redactKeyAt
  cases state.monitor.unresolved with
  | true => exact Or.inr rfl
  | false =>
      cases windowId with
      | none => exact Or.inr rfl
      | some id =>
          simp only [Bool.false_eq_true, if_false, Option.bind_some]
          cases held : state.monitor.cached id now state.controls with
          | none => exact Or.inr rfl
          | some isPassword => exact Or.inl ⟨id, isPassword, rfl, held, rfl⟩

/-- A window change while live: the span is open exactly after a secure answer, and the gate
is down exactly after an answer that is not secure. -/
theorem note_focus_live (state : MonitorState) {windowId : Option UInt64}
    (changed : windowId ≠ state.monitor.lastWindowId) (appPid : Option Int32) (now : Instant)
    (answer : SecureFieldProbe) :
    (state.noteFocus windowId appPid true now answer).2.asked = some answer ∧
      (state.noteFocus windowId appPid true now answer).1.monitor.probeWasLive =
        state.monitor.probeWasLive ∧
      (state.noteFocus windowId appPid true now answer).1.controls.confirmedActive =
        decide (answer = .answered true) ∧
      (state.noteFocus windowId appPid true now answer).1.monitor.unresolved =
        decide (answer = .cannotAnswer ∨ answer = .apiDisabled) ∧
      (state.noteFocus windowId appPid true now answer).1.controls.fieldActive =
        decide (answer ≠ .answered false) := by
  unfold noteFocus
  rw [if_neg changed]
  cases answer with
  | answered isSecure => cases isSecure <;> simp [resolve, PasswordControls.emitConfirmedSample,
      PasswordControls.swapConfirmed, PasswordControls.setPasswordFieldGate]
  | cannotAnswer => simp [resolve, PasswordControls.swapConfirmed,
      PasswordControls.setPasswordFieldGate]
  | apiDisabled => simp [resolve, PasswordControls.swapConfirmed,
      PasswordControls.setPasswordFieldGate]

theorem note_focus_spans (state : MonitorState) (windowId : Option UInt64)
    (appPid : Option Int32) (probeLive : Bool) (now : Instant) (answer : SecureFieldProbe) :
    Spans state.controls.confirmedActive
      (state.noteFocus windowId appPid probeLive now answer).2.rows
      (state.noteFocus windowId appPid probeLive now answer).1.controls.confirmedActive := by
  unfold noteFocus
  split_ifs with same off
  · exact spans_nil _
  · exact spans_nil _
  · dsimp only
    have resolved := resolve_spans
      ⟨{ state.monitor with lastWindowId := windowId, cache := none, unresolved := true },
        state.controls.markPasswordFocusChanged.setPasswordFieldGate true⟩
      windowId appPid now answer
    split_ifs
    · exact spans_append resolved (swap_confirmed_spans _ false now)
    · exact resolved

theorem note_focus_cache (honest : Honest state) {windowId : Option UInt64}
    {appPid : Option Int32} {now : Instant} {answer : SecureFieldProbe} {cached : ProbeCache}
    (changed : windowId ≠ state.monitor.lastWindowId)
    (held : (state.noteFocus windowId appPid state.monitor.probeWasLive now answer).1.monitor.cache
      = some cached) :
    (state.noteFocus windowId appPid state.monitor.probeWasLive now answer).2.asked =
        some (.answered cached.isPassword) ∧
      windowId = some cached.windowId ∧ now = cached.resolvedAt := by
  cases live : state.monitor.probeWasLive with
  | false =>
      rw [live] at held
      unfold noteFocus at held
      rw [if_neg changed, if_pos rfl] at held
      rw [(honest.off live).2.2] at held
      cases held
  | true =>
      rw [live] at held
      have asked := (note_focus_live state changed appPid now answer).1
      unfold noteFocus at held
      rw [if_neg changed, if_neg Bool.noConfusion] at held
      dsimp only at held
      have resolved := @resolve_cache
        ⟨{ state.monitor with lastWindowId := windowId, cache := none, unresolved := true },
          state.controls.markPasswordFocusChanged.setPasswordFieldGate true⟩
        windowId appPid now answer cached
      split_ifs at held
      all_goals
        rcases resolved held with ⟨isAnswer, isWindow, isNow⟩ | ⟨_, earlier⟩
        · exact ⟨by rw [asked, isAnswer], isWindow, isNow⟩
        · cases earlier

theorem on_probe_liveness_spans (state : MonitorState) (live : Bool) (now : Instant) :
    Spans state.controls.confirmedActive (state.onProbeLiveness live now).2.rows
      (state.onProbeLiveness live now).1.controls.confirmedActive := by
  unfold onProbeLiveness
  by_cases same : live = state.monitor.probeWasLive
  · rw [if_pos same]
    exact spans_nil _
  · rw [if_neg same]
    cases live with
    | true => exact spans_nil _
    | false => exact swap_confirmed_spans (state.controls.setPasswordFieldGate false) false now

theorem on_probe_liveness_honest (honest : Honest state) (live : Bool) (now : Instant) :
    Honest (state.onProbeLiveness live now).1 := by
  unfold onProbeLiveness
  by_cases same : live = state.monitor.probeWasLive
  · rw [if_pos same]
    exact honest
  · rw [if_neg same]
    cases live with
    | true =>
        constructor
        · intro _
          rfl
        · intro off
          cases off
    | false =>
        constructor
        · intro live
          cases live
        · intro _
          exact ⟨rfl, rfl, rfl⟩

theorem note_focus_honest (honest : Honest state) (windowId : Option UInt64)
    (appPid : Option Int32) (now : Instant) (answer : SecureFieldProbe) :
    Honest (state.noteFocus windowId appPid state.monitor.probeWasLive now answer).1 := by
  by_cases same : windowId = state.monitor.lastWindowId
  · unfold noteFocus
    rw [if_pos same]
    exact honest
  · cases live : state.monitor.probeWasLive with
    | false =>
        unfold noteFocus
        rw [if_neg same, if_pos rfl]
        constructor
        · intro isLive
          rw [live] at isLive
          cases isLive
        · exact honest.off
    | true =>
        have noted := note_focus_live state same appPid now answer
        constructor
        · intro _
          rw [noted.2.2.1, noted.2.2.2.1, noted.2.2.2.2]
          cases answer with
          | answered isSecure => cases isSecure <;> rfl
          | cannotAnswer => rfl
          | apiDisabled => rfl
        · intro off
          rw [noted.2.1, live] at off
          cases off

end Calls

theorem step_honest {state : MonitorState} (call : Call) (allowed : call.Allowed state)
    (honest : Honest state) : Honest (machine.step state call).1 := by
  cases call with
  | liveness live now => exact on_probe_liveness_honest honest live now
  | focus windowId appPid now answer => exact note_focus_honest honest windowId appPid now answer
  | key windowId appPid now answer =>
      change Honest (state.redactKeyAt windowId appPid now answer).1
      rcases redact_key_cases state windowId appPid now answer with ⟨_, _, _, _, same⟩ | same
      · rw [same]
        exact honest
      · rw [same]
        exact resolve_honest allowed windowId appPid now answer

theorem step_spans (state : MonitorState) (call : Call) :
    Spans state.controls.confirmedActive (machine.step state call).2.rows
      (machine.step state call).1.controls.confirmedActive := by
  cases call with
  | liveness live now => exact on_probe_liveness_spans state live now
  | focus windowId appPid now answer => exact note_focus_spans state windowId appPid _ now answer
  | key windowId appPid now answer =>
      change Spans _ (state.redactKeyAt windowId appPid now answer).2.rows
        (state.redactKeyAt windowId appPid now answer).1.controls.confirmedActive
      rcases redact_key_cases state windowId appPid now answer with ⟨_, _, _, _, same⟩ | same
      · rw [same]
        exact spans_nil _
      · rw [same]
        exact resolve_spans state windowId appPid now answer

theorem run_spans (state : MonitorState) (calls : List Call) :
    Spans state.controls.confirmedActive ((machine.outputs state calls).flatMap Report.rows)
      (machine.run state calls).controls.confirmedActive := by
  induction calls generalizing state with
  | nil => exact spans_nil _
  | cons call rest induction =>
      rw [Machine.outputs_cons, Machine.run_cons, List.flatMap_cons]
      exact spans_append (step_spans state call) (induction (machine.step state call).1)

end MonitorState

def Call.window : Call → Option UInt64
  | .liveness _ _ => none
  | .focus windowId _ _ _ => windowId
  | .key windowId _ _ _ => windowId

def Call.time : Call → Instant
  | .liveness _ now => now
  | .focus _ _ now _ => now
  | .key _ _ now _ => now

/-- The call sees no window change and no liveness edge, and no probe of it goes without an
answer. -/
def Call.Undisturbed (state : MonitorState) (call : Call) : Prop :=
  call.changesWindow state = false ∧ call.changesLiveness state = false ∧
    (MonitorState.machine.step state call).2.asked ≠ some .cannotAnswer ∧
    (MonitorState.machine.step state call).2.asked ≠ some .apiDisabled

theorem Call.undisturbed_of_silent {state : MonitorState} {call : Call}
    (window : call.changesWindow state = false) (liveness : call.changesLiveness state = false)
    (silent : (MonitorState.machine.step state call).2.asked = none) : call.Undisturbed state := by
  refine ⟨window, liveness, ?_, ?_⟩
  · rw [silent]
    simp
  · rw [silent]
    simp

/-- Some call was answered for the window at the time, and nothing has disturbed it since. -/
def AnsweredBefore (calls : List Call) (windowId : UInt64) (resolvedAt : Instant)
    (isSecure : Bool) : Prop :=
  ∃ early asking later, calls = early ++ asking :: later ∧ asking.window = some windowId ∧
    asking.time = resolvedAt ∧
    (MonitorState.machine.step (MonitorState.machine.run .new early) asking).2.asked =
      some (.answered isSecure) ∧
    MonitorState.machine.AllSteps Call.Undisturbed
      (MonitorState.machine.run .new (early ++ [asking])) later

namespace MonitorState

/-- One call caches its own answer or leaves the cache of an undisturbed focus. -/
theorem step_cache {state : MonitorState} {call : Call} {cached : ProbeCache}
    (honest : Honest state) (held : (machine.step state call).1.monitor.cache = some cached) :
    (call.window = some cached.windowId ∧ call.time = cached.resolvedAt ∧
        (machine.step state call).2.asked = some (.answered cached.isPassword)) ∨
      (state.monitor.cache = some cached ∧ call.Undisturbed state) := by
  cases call with
  | liveness live now =>
      change (state.onProbeLiveness live now).1.monitor.cache = some cached at held
      by_cases same : live = state.monitor.probeWasLive
      · have unchanged : state.onProbeLiveness live now = (state, Report.silent) := if_pos same
        have silent : (machine.step state (.liveness live now)).2 = Report.silent :=
          congrArg Prod.snd unchanged
        rw [unchanged] at held
        refine Or.inr ⟨held, Call.undisturbed_of_silent rfl (bne_eq_false_iff_eq.mpr same) ?_⟩
        rw [silent]
        rfl
      · unfold onProbeLiveness at held
        rw [if_neg same] at held
        cases live <;> cases held
  | focus windowId appPid now answer =>
      by_cases same : windowId = state.monitor.lastWindowId
      · have unchanged : machine.step state (.focus windowId appPid now answer) =
            (state, Report.silent) := if_pos same
        rw [unchanged] at held
        refine Or.inr ⟨held,
          Call.undisturbed_of_silent (decide_eq_false (not_not.mpr same)) rfl ?_⟩
        rw [unchanged]
        rfl
      · have noted := note_focus_cache honest same held
        exact Or.inl ⟨noted.2.1, noted.2.2, noted.1⟩
  | key windowId appPid now answer =>
      change (state.redactKeyAt windowId appPid now answer).1.monitor.cache = some cached at held
      rcases redact_key_cases state windowId appPid now answer with
        ⟨_, isPassword, _, _, served⟩ | asks
      · have silent : (machine.step state (.key windowId appPid now answer)).2.asked = none :=
          congrArg (fun stepped => stepped.2.asked) served
        rw [served] at held
        exact Or.inr ⟨held, Call.undisturbed_of_silent rfl rfl silent⟩
      · have asked : (machine.step state (.key windowId appPid now answer)).2.asked =
            some answer := by
          change (state.redactKeyAt windowId appPid now answer).2.asked = some answer
          rw [asks, resolve_asked]
        rw [asks] at held
        rcases resolve_cache state windowId appPid now answer held with
          ⟨isAnswer, isWindow, isNow⟩ | ⟨⟨isSecure, isAnswer⟩, earlier⟩
        · exact Or.inl ⟨isWindow, isNow, by rw [asked, isAnswer]⟩
        · refine Or.inr ⟨earlier, rfl, rfl, ?_, ?_⟩
          · rw [asked, isAnswer]
            simp
          · rw [asked, isAnswer]
            simp

/-- Whatever is cached was answered by a call that nothing has disturbed since. -/
theorem run_cache (calls : List Call) (allowed : machine.AllSteps (fun state call =>
    call.Allowed state) new calls) :
    Honest (machine.run new calls) ∧
      ∀ cached, (machine.run new calls).monitor.cache = some cached →
        AnsweredBefore calls cached.windowId cached.resolvedAt cached.isPassword := by
  induction calls using List.reverseRecOn with
  | nil =>
      refine ⟨new_honest, ?_⟩
      intro cached held
      cases held
  | append_singleton calls call induction =>
      have ⟨earlier, now⟩ := (machine.all_steps_append _ new calls [call]).mp allowed
      have ⟨honest, answered⟩ := induction earlier
      have step : machine.run new (calls ++ [call]) =
          (machine.step (machine.run new calls) call).1 := machine.run_append new calls [call]
      rw [step]
      refine ⟨step_honest call now.1 honest, ?_⟩
      intro cached held
      rcases step_cache honest held with ⟨isWindow, isTime, asked⟩ | ⟨before, undisturbed⟩
      · exact ⟨calls, call, [], rfl, isWindow, isTime, asked, trivial⟩
      · rcases answered cached before with
          ⟨early, asking, later, whole, isWindow, isTime, asked, since⟩
        refine ⟨early, asking, later ++ [call], ?_, isWindow, isTime, asked, ?_⟩
        · rw [whole, List.append_assoc]
          rfl
        · refine (machine.all_steps_append _ _ later [call]).mpr ⟨since, ?_, trivial⟩
          rw [← machine.run_append, List.append_assoc, List.singleton_append, ← whole]
          exact undisturbed

/-- A key that is let through was answered in the call, or shortly before and undisturbed. -/
theorem key_let_through {calls : List Call}
    (allowed : machine.AllSteps (fun state call => call.Allowed state) new calls)
    {windowId : Option UInt64} {appPid : Option Int32} {now : Instant} {answer : SecureFieldProbe}
    (through : ((machine.run new calls).redactKeyAt windowId appPid now answer).2.redact = false) :
    ((machine.run new calls).redactKeyAt windowId appPid now answer).2.asked =
        some (.answered false) ∨
      ∃ id resolvedAt, windowId = some id ∧
        now.nanos - resolvedAt.nanos ≤ notSecureProbeCacheTtl ∧
        AnsweredBefore calls id resolvedAt false := by
  rcases redact_key_cases (machine.run new calls) windowId appPid now answer with
    ⟨id, isPassword, isWindow, served, same⟩ | same
  · rw [same] at through
    have notSecure : isPassword = false := through
    rw [notSecure] at served
    have ⟨cached, held, fresh⟩ := Option.bind_eq_some_iff.mp served
    dsimp only at fresh
    split_ifs at fresh with password valid valid
    · rw [password] at fresh
      cases fresh
    · have isFalse := Option.some.inj fresh
      have answered := (run_cache calls allowed).2 cached held
      rw [isFalse, valid.1] at answered
      have recent := valid.2.2
      unfold saturatingDurationSince at recent
      exact Or.inr ⟨id, cached.resolvedAt, isWindow, by omega, answered⟩
  · rw [same] at through ⊢
    rw [resolve_asked]
    cases answer with
    | answered isSecure =>
        have notSecure : isSecure = false := through
        rw [notSecure]
        exact Or.inl rfl
    | cannotAnswer => cases through
    | apiDisabled => cases through

/-- In every run of allowed calls on a new monitor: the rows are spans that end as the
confirmed flag says; the gate is up exactly while live and unresolved or confirmed, and both
flags are down while off; a key is let through only on an answer that was not secure and
still holds; and a window change while live leaves a span open only after a secure answer. -/
theorem password_monitor_fails_closed (calls : List Call)
    (allowed : machine.AllSteps (fun state call => call.Allowed state) new calls) :
    Spans false ((machine.outputs new calls).flatMap Report.rows)
        (machine.run new calls).controls.confirmedActive ∧
      ((machine.run new calls).monitor.probeWasLive = true →
        (machine.run new calls).controls.fieldActive =
          ((machine.run new calls).monitor.unresolved ||
            (machine.run new calls).controls.confirmedActive)) ∧
      ((machine.run new calls).monitor.probeWasLive = false →
        (machine.run new calls).controls.fieldActive = false ∧
          (machine.run new calls).controls.confirmedActive = false) ∧
      (∀ windowId appPid now answer,
        ((machine.run new calls).redactKeyAt windowId appPid now answer).2.redact = false →
        ((machine.run new calls).redactKeyAt windowId appPid now answer).2.asked =
            some (.answered false) ∨
          ∃ id resolvedAt, windowId = some id ∧
            now.nanos - resolvedAt.nanos ≤ notSecureProbeCacheTtl ∧
            AnsweredBefore calls id resolvedAt false) ∧
      ∀ windowId appPid now answer,
        (machine.run new calls).monitor.probeWasLive = true →
        windowId ≠ (machine.run new calls).monitor.lastWindowId →
        ((machine.run new calls).noteFocus windowId appPid true now answer).2.asked =
            some answer ∧
          ((machine.run new calls).noteFocus windowId appPid true now
              answer).1.controls.confirmedActive = decide (answer = .answered true) ∧
          ((machine.run new calls).noteFocus windowId appPid true now
              answer).1.controls.fieldActive = decide (answer ≠ .answered false) := by
  have ⟨honest, _⟩ := run_cache calls allowed
  refine ⟨run_spans new calls, honest.live, fun off => ⟨(honest.off off).1, (honest.off off).2.1⟩,
    fun _ _ _ _ through => key_let_through allowed through, ?_⟩
  intro windowId appPid now answer _ changed
  have noted := note_focus_live (machine.run new calls) changed appPid now answer
  exact ⟨noted.1, noted.2.2.1, noted.2.2.2.2⟩

/-- The probe goes live, one window is answered and keeps its answer for a key. -/
theorem password_monitor_fails_closed_once :
    Spans false
      ((machine.outputs new [.liveness true ⟨0⟩, .focus (some 7) (some 3) ⟨5⟩ (.answered true),
        .key (some 7) (some 3) ⟨9⟩ .cannotAnswer]).flatMap Report.rows) true :=
  (password_monitor_fails_closed [.liveness true ⟨0⟩,
    .focus (some 7) (some 3) ⟨5⟩ (.answered true), .key (some 7) (some 3) ⟨9⟩ .cannotAnswer]
    ⟨trivial, trivial, rfl, trivial⟩).1

end MonitorState

end Gilbreth.Macos
