import Gilbreth.Core.Policy

/-!
# Recorded actions

An action is captured by a recording, stamped by the same sequencer as the
events and excluded by the app it was observed in.
-/

set_option autoImplicit false

namespace Gilbreth.Core

inductive ActionType where
  | invoke | toggle | select | expandCollapse | editCommitted | scroll | uiActionOther
deriving DecidableEq

inductive SelectorTrustBasis where
  | pidMatch | windowOwnership | scopedInvokeSender
deriving DecidableEq

structure SelectorPathHop where
  controlType : Int32
  automationId : String
  className : String
  ordinal : UInt32
deriving DecidableEq

structure SelectorPath where
  backend : String
  hops : List SelectorPathHop
deriving DecidableEq

structure AutomationAction where
  actionType : ActionType
  selectorPath : SelectorPath
  trustBasis : SelectorTrustBasis
deriving DecidableEq

inductive FrameworkClass where
  | native | nativeProvisional | webRenderer | virtualized | unknown
deriving DecidableEq

inductive RecordRequestStatus where
  | requested | confirmed | started | expired | cancelled | failed
deriving DecidableEq

inductive RecordStopReason where
  | userStop | panicHotkey | safetyCapStop | appShutdown | error
deriving DecidableEq

def excludedAppGapPattern : String := "excluded_app_gap"

inductive Modality where
  | mouse | keyboard | other
deriving DecidableEq

inductive ToggleActionState where
  | on | off | indeterminate
deriving DecidableEq

inductive ExpandCollapseActionState where
  | expanded | collapsed
deriving DecidableEq

inductive ScrollDirection where
  | up | down | left | right | horizontal
deriving DecidableEq

inductive ActionPayload where
  | invoke (fromModality : Option Modality) (corroborates : Option Int)
  | toggle (toState : ToggleActionState) (fromModality : Option Modality)
      (corroborates : Option Int)
  | select (selectionSize inSetOf : Option UInt32) (fromModality : Option Modality)
      (corroborates : Option Int)
  | expandCollapse (toState : ExpandCollapseActionState) (fromModality : Option Modality)
      (corroborates : Option Int)
  | editCommitted (fromModality : Option Modality) (corroborates : Option Int)
  | scroll (direction : ScrollDirection) (amountBucket : Option UInt8)
      (fromModality : Option Modality) (corroborates : Option Int)
  | uiActionOther (rawPatternId : Option Int32) (fromModality : Option Modality)
      (corroborates : Option Int)
deriving DecidableEq

structure ActionCapture where
  action : AutomationAction
  capturedAt : Instant
  recordSessionId : Int
  exe : Option String
  isSensitive : Bool
  hasName : Bool
  patternAction : Option String
  framework : String
  frameworkClass : FrameworkClass
  depth : UInt32
  leafRect : Option String
  payload : ActionPayload
deriving DecidableEq

structure StampedAction where
  sessionId : Int
  seq : Nat
  tsUnixMs : I64
  action : AutomationAction
  recordSessionId : Int
  exe : Option String
  isSensitive : Bool
  hasName : Bool
  patternAction : Option String
  framework : String
  frameworkClass : FrameworkClass
  depth : UInt32
  leafRect : Option String
  payload : ActionPayload
deriving DecidableEq

def Policy.excludesAction [Externals] (policy : Policy) (action : ActionCapture) : Bool :=
  action.exe.any policy.excludesExe

end Gilbreth.Core
