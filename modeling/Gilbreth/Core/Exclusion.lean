import Gilbreth.Core.Policy
import Gilbreth.Core.Content

/-!
# The exclusion stage

Every payload falls into one of a few classes by how it is attributed to an
app, and the exclusion stage looks at nothing else. The verdict, the policy left
behind and the payload kept are each given by one equation.
-/

set_option autoImplicit false

namespace Gilbreth.Core

/-- How a payload names the app it belongs to. -/
inductive Attribution where
  | focus (exe : String)
  | app (exe : String)
  | focusedApp
  | notification (app : Option String)
  | boundary
  | nothing
deriving DecidableEq

namespace EventPayload

/-- A key or mouse row belongs to its window, or to whatever has the focus. -/
def inputAttribution : Option WindowRef → Attribution
  | some window => .app window.exe
  | none => .focusedApp

def attribution : EventPayload → Attribution
  | focusChanged window .. => .focus window.exe
  | windowOpened window _ => .app window.exe
  | windowClosed window .. => .app window.exe
  | key _ _ window _ => inputAttribution window
  | mouseClick _ _ _ window _ => inputAttribution window
  | mouseDoubleClick _ _ _ _ window _ => inputAttribution window
  | mouseDrag _ _ _ _ _ _ _ _ _ _ window .. => inputAttribution window
  | mouseWheel _ _ _ _ window _ => inputAttribution window
  | mouseMove _ _ _ _ _ _ _ window _ => inputAttribution window
  | processStarted _ exe _ => .app exe
  | processExited _ exe _ => .app exe
  | notificationsReceived app _ => .notification app
  | sensitiveContextEntered _ => .boundary
  | sensitiveContextExited _ => .boundary
  | _ => .nothing

/-- What one row does to the set of active sensitive reasons. -/
def boundaryStep (payload : EventPayload) (reasons : Finset SensitiveContextReason) :
    Finset SensitiveContextReason :=
  match payload with
  | sensitiveContextEntered reason => insert reason reasons
  | sensitiveContextExited reason => reasons.erase reason
  | _ => reasons

theorem boundary_step_of_not_boundary {payload : EventPayload}
    (other : payload.isBoundary = false) (reasons : Finset SensitiveContextReason) :
    payload.boundaryStep reasons = reasons := by
  cases payload <;> first | rfl | exact absurd other.symm Bool.false_ne_true

theorem attribution_of_boundary {payload : EventPayload} (boundary : payload.isBoundary = true) :
    payload.attribution = .boundary := by
  cases payload <;> first | rfl | exact absurd boundary Bool.false_ne_true

end EventPayload

variable [Externals]

namespace Policy

variable (policy : Policy)

def noteBoundary (payload : EventPayload) : Policy :=
  { policy with activeReasons := payload.boundaryStep policy.activeReasons }

def drops (payload : EventPayload) : Bool :=
  match payload.attribution with
  | .focus exe => policy.excludesExe exe
  | .app exe => policy.excludesExe exe
  | .focusedApp => policy.latchedFocusExcluded
  | .notification app =>
      decide (policy.excludedApps ≠ ∅ ∨
        app.any fun app => decide (notificationMatchKey app ∈ policy.excludedNotificationKeys))
  | .boundary => policy.latchedFocusExcluded
  | .nothing => false

/-- The policy the exclusion stage leaves behind. -/
def observed (payload : EventPayload) : Policy :=
  match payload.attribution with
  | .focus exe => policy.latchFocus (policy.excludesExe exe)
  | .boundary =>
      if policy.latchedFocusExcluded && policy.sensitiveContextSuppression then
        policy.noteBoundary payload
      else policy
  | _ => policy

/-- The payload the exclusion stage keeps: an allowed focus row loses an
excluded `prev` and both durations. -/
def outbound (payload : EventPayload) : EventPayload :=
  match payload with
  | .focusChanged window prev _ _ recovered =>
      if prev.any fun previous => policy.excludesExe previous.exe then
        .focusChanged window none 0 0 recovered
      else payload
  | payload => payload

theorem plain_row_verdict {payload : EventPayload} {verdict : Bool}
    (verdictEq : policy.drops payload = verdict) (quiet : policy.observed payload = policy)
    (plain : policy.outbound payload = payload) :
    (if verdict then (policy, none) else (policy, some payload)) =
      (policy.observed payload,
        if policy.drops payload then none else some (policy.outbound payload)) := by
  rw [verdictEq, quiet, plain]
  cases verdict <;> rfl

theorem input_row_verdict {payload : EventPayload} {window : Option WindowRef}
    (input : payload.attribution = EventPayload.inputAttribution window)
    (plain : policy.outbound payload = payload) :
    (if policy.excludesInput window then (policy, none) else (policy, some payload)) =
      (policy.observed payload,
        if policy.drops payload then none else some (policy.outbound payload)) := by
  apply policy.plain_row_verdict _ _ plain
  · rw [drops, input]
    cases window <;> rfl
  · rw [observed, input]
    cases window <;> rfl

theorem boundary_row_verdict {payload : EventPayload} (boundary : payload.attribution = .boundary)
    (plain : policy.outbound payload = payload) :
    (if policy.latchedFocusExcluded then
        (if policy.sensitiveContextSuppression then policy.noteBoundary payload else policy, none)
      else (policy, some payload)) =
      (policy.observed payload,
        if policy.drops payload then none else some (policy.outbound payload)) := by
  simp only [drops, observed, boundary, plain]
  by_cases latched : policy.latchedFocusExcluded = true
  · simp only [latched, if_true, Bool.true_and]
  · simp only [latched, Bool.false_and, if_false, Bool.false_eq_true]

theorem apply_exclusion_boundary_eq (payload : EventPayload) :
    policy.applyExclusionBoundary payload =
      (policy.observed payload,
        if policy.drops payload then none else some (policy.outbound payload)) := by
  cases payload with
  | focusChanged window prev focusedFor unfocusedFor recovered =>
      by_cases excluded : policy.excludesExe window.exe = true
      · simp only [applyExclusionBoundary, observed, drops, EventPayload.attribution, excluded,
          if_true]
      · simp only [applyExclusionBoundary, observed, drops, outbound, EventPayload.attribution,
          excluded, if_false, Bool.false_eq_true]
        split_ifs <;> rfl
  | key => exact policy.input_row_verdict rfl rfl
  | mouseClick => exact policy.input_row_verdict rfl rfl
  | mouseDoubleClick => exact policy.input_row_verdict rfl rfl
  | mouseDrag => exact policy.input_row_verdict rfl rfl
  | mouseWheel => exact policy.input_row_verdict rfl rfl
  | mouseMove => exact policy.input_row_verdict rfl rfl
  | windowOpened => exact policy.plain_row_verdict rfl rfl rfl
  | windowClosed => exact policy.plain_row_verdict rfl rfl rfl
  | processStarted => exact policy.plain_row_verdict rfl rfl rfl
  | processExited => exact policy.plain_row_verdict rfl rfl rfl
  | notificationsReceived app count =>
      simp only [applyExclusionBoundary, observed, drops, outbound, EventPayload.attribution,
        decide_eq_true_eq]
      split_ifs <;> rfl
  | sensitiveContextEntered => exact policy.boundary_row_verdict rfl rfl
  | sensitiveContextExited => exact policy.boundary_row_verdict rfl rfl
  | _ => rfl

theorem is_boundary_outbound (payload : EventPayload) :
    (policy.outbound payload).isBoundary = payload.isBoundary := by
  cases payload with
  | focusChanged window prev focusedFor unfocusedFor recovered =>
      simp only [outbound]
      split_ifs <;> rfl
  | _ => rfl

theorem key_content_outbound (payload : EventPayload) :
    (policy.outbound payload).keyContent = payload.keyContent := by
  cases payload with
  | focusChanged window prev focusedFor unfocusedFor recovered =>
      simp only [outbound]
      split_ifs <;> rfl
  | _ => rfl

theorem boundary_step_outbound (payload : EventPayload) :
    (policy.outbound payload).boundaryStep = payload.boundaryStep := by
  cases payload with
  | focusChanged window prev focusedFor unfocusedFor recovered =>
      simp only [outbound]
      split_ifs <;> rfl
  | _ => rfl

theorem drops_boundary {payload : EventPayload} (boundary : payload.isBoundary = true) :
    policy.drops payload = policy.latchedFocusExcluded := by
  rw [drops, EventPayload.attribution_of_boundary boundary]

theorem suppression_observed (payload : EventPayload) :
    (policy.observed payload).sensitiveContextSuppression =
      policy.sensitiveContextSuppression := by
  unfold observed
  split
  · rfl
  · split_ifs <;> rfl
  · rfl

theorem excluded_apps_observed (payload : EventPayload) :
    (policy.observed payload).excludedApps = policy.excludedApps := by
  unfold observed
  split
  · rfl
  · split_ifs <;> rfl
  · rfl

/-- Under suppression a dropped row moves the active reasons, a kept one waits
for the second stage. -/
theorem reasons_observed (enabled : policy.sensitiveContextSuppression = true)
    (payload : EventPayload) :
    (policy.observed payload).activeReasons =
      if policy.drops payload then payload.boundaryStep policy.activeReasons
      else policy.activeReasons := by
  cases boundary : payload.isBoundary with
  | true =>
      rw [drops_boundary policy boundary, observed, EventPayload.attribution_of_boundary boundary,
        enabled, Bool.and_true]
      dsimp only
      split_ifs <;> rfl
  | false =>
      rw [EventPayload.boundary_step_of_not_boundary boundary, ite_self]
      unfold observed
      split
      · rfl
      · split_ifs
        · exact EventPayload.boundary_step_of_not_boundary boundary _
        · rfl
      · rfl

theorem apply_eq (event : EventEnvelope) :
    policy.apply event =
      if policy.drops event.payload then (policy.observed event.payload, none)
      else
        (((policy.observed event.payload).applyAfterExclusions
            { event with payload := policy.outbound event.payload }).1,
          some ((policy.observed event.payload).applyAfterExclusions
            { event with payload := policy.outbound event.payload }).2) := by
  rw [apply, apply_exclusion_boundary_eq]
  split_ifs <;> rfl

theorem apply_after_exclusions_policy (event : EventEnvelope) :
    (policy.applyAfterExclusions event).1 =
      if policy.sensitiveContextSuppression then policy.noteBoundary event.payload else policy := by
  unfold applyAfterExclusions
  split_ifs with enabled
  · cases event.payload <;> rfl
  · rfl

end Policy

end Gilbreth.Core
