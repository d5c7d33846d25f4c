import Mathlib.Data.Finset.Image
import Gilbreth.Core.Event

/-!
# The privacy policy

A policy holds the redaction rules, the excluded apps and two pieces of running
state: the focus latch and the set of active sensitive reasons. The source keeps
that state behind interior mutability; here each function returns the policy
it leaves behind.
-/

set_option autoImplicit false

namespace Gilbreth.Core

variable [Externals]

/-- The notification keys are derived from the excluded apps, so no policy can
hold one without the other. -/
structure Policy where
  titleRedactionFragments : List String
  keyRedactionFragments : List String
  sensitiveContextSuppression : Bool
  omitKeyContent : Bool
  excludedApps : Finset String
  excludedNotificationKeys : Finset String
  notificationKeys : excludedNotificationKeys = excludedApps.image notificationMatchKey
  /-- `none` while no live focus attribution exists: never observed or forgotten. -/
  currentFocusExcluded : Option Bool
  activeReasons : Finset SensitiveContextReason

/-- Redaction of one event: the new payload, and the flag raised when the rule
reports a change. -/
def EventEnvelope.redactWith (event : EventEnvelope)
    (redact : EventPayload → EventPayload × Bool) : EventEnvelope :=
  { event with
    payload := (redact event.payload).1
    isSensitive := event.isSensitive || (redact event.payload).2 }

namespace Policy

def identity : Policy where
  titleRedactionFragments := []
  keyRedactionFragments := []
  sensitiveContextSuppression := false
  omitKeyContent := false
  excludedApps := ∅
  excludedNotificationKeys := ∅
  notificationKeys := (Finset.image_empty _).symm
  currentFocusExcluded := none
  activeReasons := ∅

def withTitleRedactions (policy : Policy) (fragments : List String) : Policy :=
  { policy with titleRedactionFragments := policy.titleRedactionFragments ++ fragments }

def withKeyRedactions (policy : Policy) (fragments : List String) : Policy :=
  { policy with keyRedactionFragments := policy.keyRedactionFragments ++ fragments }

def withSensitiveContextSuppression (policy : Policy) (enabled : Bool) : Policy :=
  { policy with sensitiveContextSuppression := enabled }

/-- One round of the loop in `with_excluded_apps`. -/
def excludeApp (policy : Policy) (app : String) : Policy :=
  if exeBasenameLower app = "" then policy
  else
    { policy with
      excludedApps := insert (exeBasenameLower app) policy.excludedApps
      excludedNotificationKeys :=
        insert (notificationMatchKey (exeBasenameLower app)) policy.excludedNotificationKeys
      notificationKeys := by rw [Finset.image_insert, policy.notificationKeys] }

def withExcludedApps (policy : Policy) (apps : List String) : Policy :=
  apps.foldl excludeApp policy

def excludesExe (policy : Policy) (exe : String) : Bool :=
  decide (exeBasenameLower exe ∈ policy.excludedApps)

def latchedFocusExcluded (policy : Policy) : Bool :=
  policy.currentFocusExcluded.getD (decide (policy.excludedApps ≠ ∅))

def forgetFocusAttribution (policy : Policy) : Policy :=
  { policy with currentFocusExcluded := none }

def latchFocus (policy : Policy) (excluded : Bool) : Policy :=
  { policy with currentFocusExcluded := some excluded }

def insertReason (policy : Policy) (reason : SensitiveContextReason) : Policy :=
  { policy with activeReasons := insert reason policy.activeReasons }

def removeReason (policy : Policy) (reason : SensitiveContextReason) : Policy :=
  { policy with activeReasons := policy.activeReasons.erase reason }

def sensitiveContextActive (policy : Policy) : Bool :=
  policy.sensitiveContextSuppression && decide (policy.activeReasons ≠ ∅)

/-- The reasons re-emitted into a replacement session. The source walks this
fixed array, which does not list `SecureInput`. -/
def activeSensitiveReasons (policy : Policy) : List SensitiveContextReason :=
  if policy.sensitiveContextSuppression then
    [.sessionLocked, .sessionDisconnected, .secureDesktop, .passwordField].filter
      fun reason => decide (reason ∈ policy.activeReasons)
  else []

/-- The verdict on a key or mouse row: its own window, else the focus latch. -/
def excludesInput (policy : Policy) : Option WindowRef → Bool
  | some window => policy.excludesExe window.exe
  | none => policy.latchedFocusExcluded

/-- The payload that is kept, or nothing where the source answers `false`. -/
def applyExclusionBoundary (policy : Policy) (payload : EventPayload) :
    Policy × Option EventPayload :=
  match payload with
  | .focusChanged window prev _ _ recovered =>
      let currentIsExcluded := policy.excludesExe window.exe
      if currentIsExcluded then (policy.latchFocus currentIsExcluded, none)
      else if prev.any fun previous => policy.excludesExe previous.exe then
        (policy.latchFocus currentIsExcluded, some (.focusChanged window none 0 0 recovered))
      else (policy.latchFocus currentIsExcluded, some payload)
  | .windowOpened window _ | .windowClosed window _ _ =>
      if policy.excludesExe window.exe then (policy, none) else (policy, some payload)
  | .key _ _ window _ | .mouseClick _ _ _ window _ | .mouseDoubleClick _ _ _ _ window _
  | .mouseDrag _ _ _ _ _ _ _ _ _ _ window _ _ | .mouseWheel _ _ _ _ window _
  | .mouseMove _ _ _ _ _ _ _ window _ =>
      if policy.excludesInput window then (policy, none) else (policy, some payload)
  | .processStarted _ exe _ | .processExited _ exe _ =>
      if policy.excludesExe exe then (policy, none) else (policy, some payload)
  | .notificationsReceived app _ =>
      if policy.excludedApps ≠ ∅ ∨
          app.any (fun app => decide (notificationMatchKey app ∈ policy.excludedNotificationKeys))
      then (policy, none)
      else (policy, some payload)
  | .sensitiveContextEntered reason =>
      -- A dropped boundary row still moves the state machine.
      if policy.latchedFocusExcluded then
        (if policy.sensitiveContextSuppression then policy.insertReason reason else policy, none)
      else (policy, some payload)
  | .sensitiveContextExited reason =>
      if policy.latchedFocusExcluded then
        (if policy.sensitiveContextSuppression then policy.removeReason reason else policy, none)
      else (policy, some payload)
  | payload => (policy, some payload)

def applyExclusionsToCaptured (policy : Policy) (captured : Captured) : Policy × Option Captured :=
  ((policy.applyExclusionBoundary captured.payload).1,
    (policy.applyExclusionBoundary captured.payload).2.map fun payload =>
      { captured with payload := payload })

/-- The title and key rules. They are joined by `||`, so the key rule runs only
when the title rule reports no change. -/
def redactFragments (policy : Policy) (payload : EventPayload) : EventPayload × Bool :=
  let titles := payload.redactTitlesContaining policy.titleRedactionFragments
  if titles.2 then titles else titles.1.redactKeysContaining policy.keyRedactionFragments

/-- Everything `apply_after_exclusions` does to a row that is not a boundary
row it only records. -/
def redactEvent (policy : Policy) (event : EventEnvelope) : EventEnvelope :=
  let event :=
    if policy.sensitiveContextActive then
      event.redactWith EventPayload.redactForSensitiveContext
    else event
  let event :=
    if event.payload.keyWasCaptureRedacted then { event with isSensitive := true } else event
  let event := event.redactWith policy.redactFragments
  if policy.omitKeyContent then { event with payload := event.payload.omitKeyContent.1 }
  else event

def applyAfterExclusions (policy : Policy) (event : EventEnvelope) : Policy × EventEnvelope :=
  if policy.sensitiveContextSuppression then
    match event.payload with
    | .sensitiveContextEntered reason => (policy.insertReason reason, event)
    | .sensitiveContextExited reason => (policy.removeReason reason, event)
    | _ => (policy, policy.redactEvent event)
  else (policy, policy.redactEvent event)

def apply (policy : Policy) (event : EventEnvelope) : Policy × Option EventEnvelope :=
  match policy.applyExclusionBoundary event.payload with
  | (policy, none) => (policy, none)
  | (policy, some payload) =>
      ((policy.applyAfterExclusions { event with payload := payload }).1,
        some (policy.applyAfterExclusions { event with payload := payload }).2)

end Policy

end Gilbreth.Core
