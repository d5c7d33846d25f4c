import Gilbreth.Core.Power

/-!
# Suspend and resume rows pair up

The calls of a run leave one stream: requests to close the foreground segment, rows, and
the reseeds that forget a suspend. A suspend opens, a matched resume closes, and a close
request, an unmatched resume or a recovered boundary stands only between sleeps.
-/

set_option autoImplicit false

namespace Gilbreth.Core

open Alternation (Mark)

/-- What the pump carries out, in order. -/
inductive PowerItem where
  | closeForeground
  | row (captured : Captured)
  | reseeded
deriving DecidableEq

namespace PowerItem

def suspends : PowerItem → Bool
  | .row ⟨_, _, .powerSuspend _⟩ => true
  | _ => false

def resumes : PowerItem → Bool
  | .row ⟨_, _, .powerResume ..⟩ => true
  | _ => false

/-- What an item means for the sleep that is under way. -/
def mark : PowerItem → Option Mark
  | .closeForeground => some .stray
  | .reseeded => some .resets
  | .row ⟨_, _, .powerSuspend _⟩ => some .opens
  | .row ⟨_, _, .powerResume _ matchedSuspend⟩ => some (if matchedSuspend then .closes else .stray)
  | .row ⟨_, _, .powerBoundaryRecovered ..⟩ => some .stray
  | .row _ => none

end PowerItem

/-- The pump closes the segment before it pushes the rows. -/
def PowerBoundary.items (boundary : PowerBoundary) : List PowerItem :=
  (if boundary.closeForeground then [.closeForeground] else []) ++ boundary.rows.map .row

def PowerOutcome.items : PowerOutcome → List PowerItem
  | .boundary requested => requested.elim [] PowerBoundary.items
  | .status rows => rows.map .row
  | .reseeded => [.reseeded]

def powerMarks (items : List PowerItem) : List Mark := items.filterMap PowerItem.mark

/-- Everything a run of calls makes the pump carry out. -/
def PowerMonitor.trace (monitor : PowerMonitor) (calls : List PowerCall) : List PowerItem :=
  (machine.outputs monitor calls).flatMap PowerOutcome.items

namespace PowerMonitor

open Alternation

theorem recovered_rows_cases (monitor : PowerMonitor) (now : Instant)
    (continuousMs : Option UInt64) :
    monitor.recoveredRows now continuousMs = [] ∨
      ∃ gapMs, monitor.recoveredRows now continuousMs = [recoveredRow now gapMs] := by
  unfold recoveredRows
  split
  · next gapMs _ =>
      split_ifs
      · exact Or.inr ⟨gapMs, rfl⟩
      · exact Or.inl rfl
  · exact Or.inl rfl

theorem poll_status_rows (monitor : PowerMonitor) (now : Instant) (force : Bool)
    (snapshot : Option PowerStatusSnapshot) :
    ∀ row ∈ (monitor.pollStatus now force snapshot).2,
      ∃ acOnline batteryPercent batterySaver,
        row.payload = .powerStatusChanged acOnline batteryPercent batterySaver := by
  cases snapshot with
  | none =>
      unfold pollStatus
      dsimp only
      split_ifs <;> simp
  | some snap =>
      unfold pollStatus
      dsimp only
      split_ifs <;> simp

end PowerMonitor

/-- What a call can hand back while the machine is thought to sleep or not, and what is
thought after it. -/
inductive PowerTurn : Bool → PowerOutcome → Bool → Prop where
  | quiet (sleeping : Bool) : PowerTurn sleeping (.boundary none) sleeping
  | slept (capturedAt : Instant) (tickMs : Option UInt64) :
      PowerTurn false (.boundary (some ⟨true, [suspendRow capturedAt tickMs]⟩)) true
  | woke (capturedAt : Instant) (tickMs : Option UInt64) :
      PowerTurn true (.boundary (some ⟨false, [resumeRow capturedAt tickMs true]⟩)) false
  | wokeUnmatched (capturedAt : Instant) (tickMs : Option UInt64) :
      PowerTurn false (.boundary (some ⟨true, [resumeRow capturedAt tickMs false]⟩)) false
  | wokeRecovered (capturedAt : Instant) (tickMs : Option UInt64) (gapMs : UInt64) :
      PowerTurn false
        (.boundary (some ⟨true,
          [recoveredRow capturedAt gapMs, resumeRow capturedAt tickMs false]⟩)) false
  | recovered (capturedAt : Instant) (gapMs : UInt64) :
      PowerTurn false (.boundary (some ⟨true, [recoveredRow capturedAt gapMs]⟩)) false
  | status (sleeping : Bool) (rows : List Captured)
      (changes : ∀ row ∈ rows, ∃ acOnline batteryPercent batterySaver,
        row.payload = .powerStatusChanged acOnline batteryPercent batterySaver) :
      PowerTurn sleeping (.status rows) sleeping
  | reseeded (sleeping : Bool) : PowerTurn sleeping .reseeded false

namespace PowerMonitor

theorem step_turn (monitor : PowerMonitor) (call : PowerCall) :
    PowerTurn monitor.suspended (monitor.step call).2 (monitor.step call).1.suspended := by
  cases call with
  | willSleep sample =>
      cases suspended : monitor.suspended with
      | true =>
          have asked := monitor.on_will_sleep_suspended sample suspended
          simp only [step, asked]
          exact .quiet true
      | false =>
          have asked := monitor.on_will_sleep_awake sample suspended
          simp only [step, asked]
          exact .slept sample.capturedAt sample.continuousMs
  | didWake sample =>
      cases suspended : monitor.suspended with
      | true =>
          have asked := monitor.on_did_wake_suspended sample suspended
          simp only [step, asked]
          exact .woke sample.capturedAt sample.continuousMs
      | false =>
          cases duplicate : monitor.duplicateWake sample with
          | true =>
              have asked := monitor.on_did_wake_duplicate sample duplicate
              simp only [step, asked, suspended]
              exact .quiet false
          | false =>
              have asked := monitor.on_did_wake_awake sample suspended duplicate
              simp only [step, asked]
              cases monitor.recovered_rows_cases sample.capturedAt sample.continuousMs with
              | inl none =>
                  rw [none]
                  exact .wokeUnmatched sample.capturedAt sample.continuousMs
              | inr some =>
                  have ⟨gapMs, rows⟩ := some
                  rw [rows]
                  exact .wokeRecovered sample.capturedAt sample.continuousMs gapMs
  | pollDivergence now continuousMs =>
      cases monitor.poll_divergence_cases now continuousMs with
      | inl quiet =>
          simp only [step, quiet]
          exact .quiet monitor.suspended
      | inr reported =>
          cases reported with
          | inl woke =>
              simp only [step, woke]
              exact .woke now continuousMs
          | inr missed =>
              have ⟨awake, ⟨gapMs, rows⟩, asked, next⟩ := missed
              simp only [step, asked, next, awake, rows]
              exact .recovered now gapMs
  | pollStatus now force snapshot =>
      have kept := monitor.poll_status_suspended now force snapshot
      simp only [step, kept]
      exact .status monitor.suspended _ (monitor.poll_status_rows now force snapshot)
  | reseed => exact .reseeded monitor.suspended

end PowerMonitor

namespace PowerTurn

open Alternation

variable {sleeping next : Bool} {outcome : PowerOutcome}

theorem status_marks {rows : List Captured}
    (changes : ∀ row ∈ rows, ∃ acOnline batteryPercent batterySaver,
      row.payload = .powerStatusChanged acOnline batteryPercent batterySaver) :
    powerMarks (rows.map .row) = [] := by
  apply List.filterMap_eq_nil_iff.mpr
  intro item member
  have ⟨row, listed, same⟩ := List.mem_map.mp member
  have ⟨_, _, _, payload⟩ := changes row listed
  cases row with
  | mk source capturedAt kind =>
    change kind = _ at payload
    subst payload same
    rfl

theorem marks (turn : PowerTurn sleeping outcome next) :
    Legal sleeping (powerMarks outcome.items) ∧
      after sleeping (powerMarks outcome.items) = next := by
  cases turn with
  | status sleeping rows changes =>
      have none := status_marks changes
      simp [PowerOutcome.items, none, Legal]
  | _ =>
      simp [PowerOutcome.items, PowerBoundary.items, powerMarks, PowerItem.mark, Legal, Mark.Fits,
        Mark.leaves, suspendRow, resumeRow, recoveredRow]

end PowerTurn

namespace PowerMonitor

open Alternation

end PowerMonitor

namespace PowerMonitor

open Alternation

end PowerMonitor

end Gilbreth.Core
