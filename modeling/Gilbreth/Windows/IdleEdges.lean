import Gilbreth.Library.Alternation
import Gilbreth.Windows.PumpRule

/-!
# Idle and active rows

The idle state turns with a sample across the threshold or with activity; its row passes only
where the idle stream is enabled and capture is not suspended. Nothing else touches the state,
except a reseed, which starts it over.
-/

set_option autoImplicit false

namespace Gilbreth.Windows

open Gilbreth.Core (Captured Instant)
open Alternation (Mark Legal)

/-- An idle row opens, an active row closes. -/
def edgeMark (row : Captured) : Option Mark :=
  match row.payload with
  | .idle _ => some .opens
  | .active _ => some .closes
  | _ => none

def edges (rows : List Captured) : List Captured := rows.filter fun row => (edgeMark row).isSome

def edgeMarks (rows : List Captured) : List Mark := rows.filterMap edgeMark

theorem edge_marks_edges (rows : List Captured) : edgeMarks (edges rows) = edgeMarks rows := by
  induction rows with
  | nil => rfl
  | cons row rest induction =>
      unfold edgeMarks edges at induction ⊢
      cases mark : edgeMark row with
      | none =>
          rw [List.filter_cons_of_neg (by simp [mark]), List.filterMap_cons_none mark, induction]
      | some kind =>
          rw [List.filter_cons_of_pos (by simp [mark]), List.filterMap_cons_some mark,
            List.filterMap_cons_some mark, induction]

theorem edges_append (rows later : List Captured) :
    edges (rows ++ later) = edges rows ++ edges later := List.filter_append _ _

theorem edges_ordinary {rows : List Captured} (ordinary : Ordinary rows) : edges rows = [] := by
  apply List.filter_eq_nil_iff.mpr
  intro row member
  have plain := ordinary row member
  unfold edgeMark
  cases payload : row.payload <;> rw [payload] at plain <;> simp [ordinaryPayload] at plain ⊢

def CaptureControls.idleGate (controls : CaptureControls) : Bool :=
  !controls.isSuspended && controls.enabled .idle

theorem edges_sent {rows : List Captured} (system : ∀ row ∈ rows, row.source = .system)
    (controls : CaptureControls) :
    edges (rows.filter controls.enabledFor) = if controls.idleGate then edges rows else [] := by
  unfold edges
  rw [List.filter_filter]
  have known : ∀ row ∈ rows, ((edgeMark row).isSome && controls.enabledFor row) =
      ((edgeMark row).isSome && controls.idleGate) := by
    intro row member
    unfold CaptureControls.enabledFor CaptureControls.idleGate streamFor edgeMark
    rw [system row member]
    cases row.payload <;> simp
  rw [List.filter_congr known]
  cases controls.idleGate <;> simp

namespace CaptureState

/-- Neither the idle state nor its gate changes, and no edge is put out. -/
structure IdleQuiet (state next : CaptureState) (rows : List Captured) : Prop where
  idle : next.idle = state.idle
  threshold : next.controls.idleThresholdMs = state.controls.idleThresholdMs
  gate : next.controls.idleGate = state.controls.idleGate
  edges : edges rows = []

theorem idle_quiet_composes : Effect.Composes IdleQuiet where
  nothing := fun _ => ⟨rfl, rfl, rfl, rfl⟩
  append := by
    intro first middle last rows later early late
    refine ⟨late.idle.trans early.idle, late.threshold.trans early.threshold,
      late.gate.trans early.gate, ?_⟩
    rw [edges_append, early.edges, late.edges, List.append_nil]

theorem idle_quiet_rule : PumpRule IdleQuiet where
  composes := idle_quiet_composes
  act := by
    intro next rows leaves ordinary state
    refine ⟨leaves.idle state, ?_, ?_, ?_⟩
    · exact congrArg CaptureControls.idleThresholdMs (leaves.controls state)
    · exact congrArg CaptureControls.idleGate (leaves.controls state)
    · apply edges_ordinary
      intro row member
      exact ordinary state row (List.mem_of_mem_filter member)
  put := fun _ ordinary state => ⟨rfl, rfl, rfl, edges_ordinary (ordinary state)⟩
  reconcile := fun _ _ => ⟨rfl, rfl, rfl, rfl⟩

theorem quiet_monitor_action (action : MonitorAction) :
    Effect.Does IdleQuiet (onMonitorAction action) := by
  intro state
  cases action with
  | bumpFocusGeneration => exact ⟨rfl, rfl, rfl, rfl⟩
  | raiseGate => exact ⟨rfl, rfl, rfl, rfl⟩
  | emitSample isPassword now sent =>
      unfold onMonitorAction MonitorAction.apply CaptureControls.emitConfirmedPasswordFieldSample
      dsimp only
      split_ifs
      · exact ⟨rfl, rfl, rfl, rfl⟩
      · exact ⟨rfl, rfl, rfl, rfl⟩
      · cases sent with
        | delivered =>
            refine ⟨rfl, rfl, rfl, edges_ordinary (ordinary_single ?_)⟩
            unfold CaptureControls.passwordFieldRow
            cases isPassword <;> rfl
        | timedOut => exact ⟨rfl, rfl, rfl, rfl⟩
        | disconnected => exact ⟨rfl, rfl, rfl, rfl⟩

theorem quiet_monitor_actions (actions : List MonitorAction) :
    Effect.Does IdleQuiet (onMonitorActions actions) := by
  apply does_all idle_quiet_rule
  intro effect member
  have ⟨action, _, same⟩ := List.mem_map.mp member
  rw [← same]
  exact quiet_monitor_action action

theorem quiet_cache_and_gate : Effect.Does IdleQuiet
    (Effect.all [invalidatePasswordFocusCache, setPasswordFieldGate]) := by
  apply does_all idle_quiet_rule
  simp only [List.forall_mem_cons]
  exact ⟨fun _ => ⟨rfl, rfl, rfl, rfl⟩, fun _ => ⟨rfl, rfl, rfl, rfl⟩, by simp⟩

theorem quiet_protect : Effect.Does IdleQuiet protectUnknownPasswordFocus := by
  intro state
  unfold protectUnknownPasswordFocus
  split_ifs
  · exact quiet_cache_and_gate state
  · exact does_all idle_quiet_rule (by simp) state

theorem quiet_probe_reply (message : KeyMessage) (result : Option SensitiveFieldProbeResult) :
    Effect.Does IdleQuiet (onProbeReply message result).1 := by
  cases result with
  | none => exact quiet_cache_and_gate
  | some result =>
      apply does_all idle_quiet_rule
      simp only [List.forall_mem_cons]
      exact ⟨fun _ => ⟨rfl, rfl, rfl, rfl⟩, quiet_monitor_action _, by simp⟩

theorem quiet_probed (message : KeyMessage) (state : CaptureState) :
    IdleQuiet state (probed message state).2.1 (probed message state).2.2 := by
  have before := quiet_monitor_actions message.probe.before state
  have during := quiet_monitor_actions message.probe.during
    (onMonitorActions message.probe.before state).1
  have after := quiet_monitor_actions message.probe.after
    (onMonitorActions message.probe.during (onMonitorActions message.probe.before state).1).1
  exact idle_quiet_composes.append _ _ _ _ _
    (idle_quiet_composes.append _ _ _ _ _ before during) after

theorem quiet_redact_keyboard (message : KeyMessage) (state : CaptureState) :
    IdleQuiet state (redactKeyboardForPasswordFieldAt message state).2.1
      (redactKeyboardForPasswordFieldAt message state).2.2 := by
  unfold redactKeyboardForPasswordFieldAt
  split_ifs with confirmed
  · exact idle_quiet_composes.nothing state
  · dsimp only
    have gated := quiet_monitor_actions message.beforeGate state
    have checked := quiet_monitor_actions message.beforeCache
      (onMonitorActions message.beforeGate state).1
    have twice := idle_quiet_composes.append _ _ _ _ _ gated checked
    split
    · exact twice
    · exact idle_quiet_composes.append _ _ _ _ _
        (idle_quiet_composes.append _ _ _ _ _ twice (quiet_probed message _))
        (quiet_probe_reply message _ _)

theorem quiet_key (message : KeyMessage) (redactKey : Bool) :
    Effect.Does IdleQuiet (onKey message redactKey) := by
  intro state
  refine ⟨rfl, rfl, rfl, ?_⟩
  apply List.filter_eq_nil_iff.mpr
  intro row member
  have row_mem := List.mem_of_mem_filter member
  rw [Option.mem_toList] at row_mem
  have ⟨_, _, _, same⟩ := KeyboardState.on_raw_key_row row_mem
  rw [same]
  exact Bool.false_ne_true

end CaptureState

end Gilbreth.Windows
