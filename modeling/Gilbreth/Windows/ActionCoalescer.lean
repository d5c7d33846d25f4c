import Mathlib.Data.List.AList
import Gilbreth.Core.Action
import Gilbreth.Library.Machine

/-!
# Coalescing of recorded actions

Three buffers: a scroll that is still going on, an edit that is not yet committed, and for
every target and action type the last draft that was emitted. Durations are nanoseconds;
the latencies and the queue depth are only ever compared.
-/

set_option autoImplicit false

namespace Gilbreth.Windows

open Core (ActionType ActionPayload SelectorPath SelectorTrustBasis FrameworkClass Modality
  Instant millisecond saturatingDurationSince)

inductive EditCommitSignal where
  | compositionFinalized | focusLoss | enter | tab | stop | cap | idle
deriving DecidableEq

structure ActionDiag where
  recordSessionId : Int
  workerOrdinal : Nat
  eventKind : String
  callbackLatencyNs : Nat
  eventToSelectorCompleteNs : Nat
  queueDepthAtEnqueue : Nat
  repeatCount : UInt32
  editCommitSignal : Option EditCommitSignal
  trustBasis : Option SelectorTrustBasis
  actionType : Option ActionType
deriving DecidableEq

structure CapturedElement where
  targetKey : String
  selectorPath : SelectorPath
  trustBasis : SelectorTrustBasis
  exe : Option String
  hasName : Bool
  framework : String
  frameworkClass : FrameworkClass
  frameworkId : String
  depth : UInt32
  leafRect : Option String
deriving DecidableEq

structure CoalescedAction where
  target : CapturedElement
  actionType : ActionType
  payload : ActionPayload
  patternAction : Option String
  capturedAt : Instant
  diag : ActionDiag
deriving DecidableEq

structure ActionDraft where
  target : CapturedElement
  actionType : ActionType
  payload : ActionPayload
  patternAction : Option String
  capturedAt : Instant
  diag : ActionDiag
deriving DecidableEq

structure PendingEdit where
  target : CapturedElement
  capturedAt : Instant
  fromModality : Option Modality
  diag : ActionDiag
deriving DecidableEq

inductive CoalescerInput where
  | action (draft : ActionDraft)
  /-- The marker carries the fields a pending edit starts with. -/
  | editMarker (marker : PendingEdit)
  | commitEdit (capturedAt : Instant) (signal : EditCommitSignal)
  | focusChanged (capturedAt : Instant) (signal : EditCommitSignal)
  | stop (capturedAt : Instant) (signal : EditCommitSignal)
deriving DecidableEq

structure PendingScroll where
  draft : ActionDraft
  lastSeen : Instant
deriving DecidableEq

structure CoalescerTiming where
  scrollQuietMs : Nat
  dedupWindowMs : Nat
deriving DecidableEq

/-- `u32::saturating_add`. -/
def saturatingAddU32 (left right : UInt32) : UInt32 :=
  UInt32.ofNat (min (left.toNat + right.toNat) 4294967295)

/-- `u8::saturating_add`. -/
def saturatingAddU8 (left right : UInt8) : UInt8 :=
  UInt8.ofNat (min (left.toNat + right.toNat) 255)

def mergeActionDiag (left right : ActionDiag) : ActionDiag :=
  { left with
    repeatCount := saturatingAddU32 left.repeatCount right.repeatCount
    callbackLatencyNs := max left.callbackLatencyNs right.callbackLatencyNs
    eventToSelectorCompleteNs :=
      max left.eventToSelectorCompleteNs right.eventToSelectorCompleteNs
    queueDepthAtEnqueue := max left.queueDepthAtEnqueue right.queueDepthAtEnqueue }

def sameScrollDirection : ActionPayload → ActionPayload → Bool
  | .scroll direction _ _ _, .scroll other _ _ _ => direction == other
  | _, _ => false

def mergeAmountBucket : Option UInt8 → Option UInt8 → Option UInt8
  | some left, some right => some (min (saturatingAddU8 left right) 10)
  | some value, none => some value
  | none, some value => some value
  | none, none => none

def mergeScrollPayload : ActionPayload → ActionPayload → ActionPayload
  | .scroll direction leftBucket _ _, .scroll _ rightBucket _ _ =>
      .scroll direction (mergeAmountBucket leftBucket rightBucket) none none
  | _, right => right

structure ActionCoalescer where
  timing : CoalescerTiming
  lastByTargetAction : AList fun _ : String × ActionType => ActionPayload × Instant
  pendingScroll : Option PendingScroll
  pendingEdit : Option PendingEdit

namespace ActionCoalescer

def new (timing : CoalescerTiming) : ActionCoalescer := ⟨timing, ∅, none, none⟩

def isDuplicate (coalescer : ActionCoalescer) (draft : ActionDraft) : Bool :=
  match coalescer.lastByTargetAction.lookup (draft.target.targetKey, draft.actionType) with
  | none => false
  | some (payload, seenAt) =>
      payload == draft.payload &&
        decide (saturatingDurationSince draft.capturedAt seenAt ≤
          coalescer.timing.dedupWindowMs * millisecond)

def emitDraft (coalescer : ActionCoalescer) (draft : ActionDraft) :
    ActionCoalescer × CoalescedAction :=
  ({ coalescer with
      lastByTargetAction := coalescer.lastByTargetAction.insert
        (draft.target.targetKey, draft.actionType) (draft.payload, draft.capturedAt) },
    { target := draft.target
      actionType := draft.actionType
      payload := draft.payload
      patternAction := draft.patternAction
      capturedAt := draft.capturedAt
      diag := draft.diag })

def flushPendingScroll (coalescer : ActionCoalescer) : ActionCoalescer × List CoalescedAction :=
  match coalescer.pendingScroll with
  | none => (coalescer, [])
  | some pending =>
      let emitted := emitDraft { coalescer with pendingScroll := none } pending.draft
      (emitted.1, [emitted.2])

def flushEdit (coalescer : ActionCoalescer) (capturedAt : Instant) (signal : EditCommitSignal) :
    ActionCoalescer × List CoalescedAction :=
  match coalescer.pendingEdit with
  | none => (coalescer, [])
  | some pending =>
      ({ coalescer with pendingEdit := none },
        [{ target := pending.target
           actionType := .editCommitted
           payload := .editCommitted pending.fromModality none
           patternAction := some "edit_committed"
           capturedAt := capturedAt
           diag := { pending.diag with
             actionType := some .editCommitted, editCommitSignal := some signal } }])

def flushDue (coalescer : ActionCoalescer) (now : Instant) :
    ActionCoalescer × List CoalescedAction :=
  let quiet := coalescer.timing.scrollQuietMs * millisecond
  match coalescer.pendingScroll with
  | none => (coalescer, [])
  | some pending =>
      if quiet ≤ saturatingDurationSince now pending.lastSeen then
        let emitted := emitDraft { coalescer with pendingScroll := none } pending.draft
        (emitted.1, [emitted.2])
      else (coalescer, [])

/-- `flush_pending_scroll`, then `flush_edit`: also how every input but a scroll and an edit
marker begins. -/
def flushAllWithSignal (coalescer : ActionCoalescer) (now : Instant) (signal : EditCommitSignal) :
    ActionCoalescer × List CoalescedAction :=
  let scrolled := coalescer.flushPendingScroll
  let edited := scrolled.1.flushEdit now signal
  (edited.1, scrolled.2 ++ edited.2)

def flushAll (coalescer : ActionCoalescer) (now : Instant) :
    ActionCoalescer × List CoalescedAction :=
  coalescer.flushAllWithSignal now .stop

def handleNonScroll (coalescer : ActionCoalescer) (draft : ActionDraft) :
    ActionCoalescer × List CoalescedAction :=
  let flushed := coalescer.flushAllWithSignal draft.capturedAt .focusLoss
  if flushed.1.isDuplicate draft then flushed
  else
    let emitted := flushed.1.emitDraft draft
    (emitted.1, flushed.2 ++ [emitted.2])

def handleScroll (coalescer : ActionCoalescer) (draft : ActionDraft) :
    ActionCoalescer × List CoalescedAction :=
  let edited := coalescer.flushEdit draft.capturedAt .focusLoss
  match edited.1.pendingScroll with
  | none => ({ edited.1 with pendingScroll := some ⟨draft, draft.capturedAt⟩ }, edited.2)
  | some pending =>
      if pending.draft.target.targetKey = draft.target.targetKey ∧
          sameScrollDirection pending.draft.payload draft.payload = true then
        ({ edited.1 with
            pendingScroll := some
              { draft := { pending.draft with
                  capturedAt := draft.capturedAt
                  payload := mergeScrollPayload pending.draft.payload draft.payload
                  diag := mergeActionDiag pending.draft.diag draft.diag }
                lastSeen := draft.capturedAt } },
          edited.2)
      else
        let emitted := emitDraft { edited.1 with pendingScroll := none } pending.draft
        ({ emitted.1 with pendingScroll := some ⟨draft, draft.capturedAt⟩ },
          edited.2 ++ [emitted.2])

def handleEditMarker (coalescer : ActionCoalescer) (marker : PendingEdit) :
    ActionCoalescer × List CoalescedAction :=
  let scrolled := coalescer.flushPendingScroll
  let restart : ActionCoalescer × List CoalescedAction :=
    let edited := scrolled.1.flushEdit marker.capturedAt .focusLoss
    ({ edited.1 with pendingEdit := some marker }, scrolled.2 ++ edited.2)
  match scrolled.1.pendingEdit with
  | none => restart
  | some pending =>
      if pending.target.targetKey = marker.target.targetKey then
        ({ scrolled.1 with
            pendingEdit := some
              { pending with
                capturedAt := marker.capturedAt
                fromModality := pending.fromModality.or marker.fromModality
                diag := mergeActionDiag pending.diag marker.diag } },
          scrolled.2)
      else restart

def handle (coalescer : ActionCoalescer) : CoalescerInput → ActionCoalescer × List CoalescedAction
  | .action draft =>
      if draft.actionType = .scroll then coalescer.handleScroll draft
      else coalescer.handleNonScroll draft
  | .editMarker marker => coalescer.handleEditMarker marker
  | .commitEdit capturedAt signal => coalescer.flushAllWithSignal capturedAt signal
  | .focusChanged capturedAt signal => coalescer.flushAllWithSignal capturedAt signal
  | .stop capturedAt signal => coalescer.flushAllWithSignal capturedAt signal

end ActionCoalescer

/-- What a recording's loop asks of the coalescer before the last `flush_all`. -/
inductive Call where
  | input (input : CoalescerInput)
  | flushDue (now : Instant)
deriving DecidableEq

namespace ActionCoalescer

def machine : Machine ActionCoalescer Call (List CoalescedAction) where
  step coalescer call :=
    match call with
    | .input input => coalescer.handle input
    | .flushDue now => coalescer.flushDue now

/-- Everything a new coalescer puts out for some calls and the `flush_all` that ends them. -/
def coalesced (timing : CoalescerTiming) (calls : List Call) (now : Instant) :
    List CoalescedAction :=
  (machine.outputs (new timing) calls).flatten ++ ((machine.run (new timing) calls).flushAll now).2

end ActionCoalescer

end Gilbreth.Windows
