import Mathlib
import Gilbreth.Library.Stamps
import Gilbreth.Windows.ActionGrouping

/-!
# No action lost, none invented, all in order

An output is stamped when its run ended or when its draft was captured. As a scroll and an
edit are never open together, nothing is put out after something later.
-/

set_option autoImplicit false

namespace Gilbreth.Windows

open Gilbreth.Core (ActionType ActionPayload Instant millisecond saturatingDurationSince)

/-- Outputs in the order of their capture, none outside the given time. -/
def Between (earliest latest : Int) (outputs : List CoalescedAction) : Prop :=
  Stamps.Between earliest latest (outputs.map fun output => output.capturedAt.nanos)

theorem between_append {earliest middle latest : Int} {outputs later : List CoalescedAction}
    (first : Between earliest middle outputs) (second : Between middle latest later)
    (start : earliest ≤ middle) (finish : middle ≤ latest) :
    Between earliest latest (outputs ++ later) := by
  unfold Between
  rw [List.map_append]
  exact Stamps.between_append first second start finish

namespace ActionCoalescer

/-- Everything put out is stamped by `earliest`; an open scroll lies between that and now. -/
structure Stamped (earliest now : Int) (coalescer : ActionCoalescer) : Prop where
  reached : earliest ≤ now
  scroll : ∀ pending, coalescer.pendingScroll = some pending →
    earliest ≤ pending.draft.capturedAt.nanos ∧ pending.draft.capturedAt.nanos ≤ now
  apart : coalescer.pendingScroll = none ∨ coalescer.pendingEdit = none

theorem flush_pending_scroll_between {earliest now : Int} {coalescer : ActionCoalescer}
    (stamped : Stamped earliest now coalescer) :
    Between earliest now coalescer.flushPendingScroll.2 ∧
      coalescer.flushPendingScroll.1.pendingScroll = none ∧
      coalescer.flushPendingScroll.1.pendingEdit = coalescer.pendingEdit := by
  unfold flushPendingScroll
  cases pending : coalescer.pendingScroll with
  | none => exact ⟨Stamps.between_nil _ _, pending, rfl⟩
  | some scroll =>
      have within := stamped.scroll scroll pending
      exact ⟨Stamps.between_single within.1 within.2, rfl, rfl⟩

theorem flush_edit_between (coalescer : ActionCoalescer) (capturedAt : Instant)
    (signal : EditCommitSignal) :
    Between capturedAt.nanos capturedAt.nanos (coalescer.flushEdit capturedAt signal).2 ∧
      (coalescer.flushEdit capturedAt signal).1.pendingScroll = coalescer.pendingScroll ∧
      (coalescer.flushEdit capturedAt signal).1.pendingEdit = none := by
  unfold flushEdit
  cases pending : coalescer.pendingEdit with
  | none => exact ⟨Stamps.between_nil _ _, rfl, pending⟩
  | some edit => exact ⟨Stamps.between_single le_rfl le_rfl, rfl, rfl⟩

theorem flush_all_between {earliest now : Int} {coalescer : ActionCoalescer}
    (stamped : Stamped earliest now coalescer) {capturedAt : Instant}
    (later : now ≤ capturedAt.nanos) (signal : EditCommitSignal) :
    Between earliest capturedAt.nanos (coalescer.flushAllWithSignal capturedAt signal).2 ∧
      (coalescer.flushAllWithSignal capturedAt signal).1.pendingScroll = none ∧
      (coalescer.flushAllWithSignal capturedAt signal).1.pendingEdit = none := by
  have scrolled := flush_pending_scroll_between stamped
  have edited := flush_edit_between coalescer.flushPendingScroll.1 capturedAt signal
  refine ⟨?_, edited.2.1.trans scrolled.2.1, edited.2.2⟩
  exact between_append scrolled.1 (edited.1.widen later le_rfl) stamped.reached later

/-- A step at a time puts out what lies before the earliest stamp it leaves. -/
def StampedStep (earliest : Int) (time : Int) (stepped : ActionCoalescer × List CoalescedAction) :
    Prop :=
  ∃ middle, earliest ≤ middle ∧ Between earliest middle stepped.2 ∧ Stamped middle time stepped.1

theorem closed_step {earliest time : Int} {stepped : ActionCoalescer × List CoalescedAction}
    (reached : earliest ≤ time) (between : Between earliest time stepped.2)
    (noScroll : stepped.1.pendingScroll = none) : StampedStep earliest time stepped := by
  refine ⟨time, reached, between, le_rfl, ?_, Or.inl noScroll⟩
  intro pending isOpen
  rw [noScroll] at isOpen
  cases isOpen

theorem handle_non_scroll_stamped {earliest now : Int} {coalescer : ActionCoalescer}
    (stamped : Stamped earliest now coalescer) {draft : ActionDraft}
    (later : now ≤ draft.capturedAt.nanos) :
    StampedStep earliest draft.capturedAt.nanos (coalescer.handleNonScroll draft) := by
  have flushed := flush_all_between stamped later .focusLoss
  have reached := stamped.reached.trans later
  unfold handleNonScroll
  dsimp only
  split_ifs
  · exact closed_step reached flushed.1 flushed.2.1
  · exact closed_step reached
      (between_append flushed.1 (Stamps.between_single le_rfl le_rfl) reached
        le_rfl) flushed.2.1

theorem handle_scroll_stamped {earliest now : Int} {coalescer : ActionCoalescer}
    (stamped : Stamped earliest now coalescer) {draft : ActionDraft}
    (later : now ≤ draft.capturedAt.nanos) :
    StampedStep earliest draft.capturedAt.nanos (coalescer.handleScroll draft) := by
  have edited := flush_edit_between coalescer draft.capturedAt .focusLoss
  have reached := stamped.reached.trans later
  unfold handleScroll
  dsimp only
  rw [edited.2.1]
  cases pending : coalescer.pendingScroll with
  | none =>
      refine ⟨draft.capturedAt.nanos, reached, edited.1.widen reached le_rfl, le_rfl, ?_,
        Or.inr edited.2.2⟩
      intro scroll isOpen
      cases isOpen
      exact ⟨le_rfl, le_rfl⟩
  | some scroll =>
      -- A scroll is open, so there is no edit to put out before it.
      have noEdit : coalescer.pendingEdit = none := by
        rcases stamped.apart with noScroll | noEdit
        · rw [pending] at noScroll
          cases noScroll
        · exact noEdit
      have silent : (coalescer.flushEdit draft.capturedAt .focusLoss).2 = [] := by
        unfold flushEdit
        rw [noEdit]
      have within := stamped.scroll scroll pending
      dsimp only
      split_ifs
      · refine ⟨earliest, le_rfl, ?_, reached, ?_, Or.inr edited.2.2⟩
        · rw [silent]
          exact Stamps.between_nil _ _
        · intro joined isOpen
          cases isOpen
          exact ⟨reached, le_rfl⟩
      · refine ⟨scroll.draft.capturedAt.nanos, within.1, ?_, within.2.trans later, ?_,
          Or.inr edited.2.2⟩
        · rw [silent]
          exact Stamps.between_single within.1 le_rfl
        · intro opened isOpen
          cases isOpen
          exact ⟨within.2.trans later, le_rfl⟩

theorem handle_edit_marker_stamped {earliest now : Int} {coalescer : ActionCoalescer}
    (stamped : Stamped earliest now coalescer) {marker : PendingEdit}
    (later : now ≤ marker.capturedAt.nanos) :
    StampedStep earliest marker.capturedAt.nanos (coalescer.handleEditMarker marker) := by
  have scrolled := flush_pending_scroll_between stamped
  have flushed := flush_all_between stamped later .focusLoss
  have reached := stamped.reached.trans later
  have alone : Between earliest marker.capturedAt.nanos coalescer.flushPendingScroll.2 :=
    scrolled.1.widen le_rfl later
  unfold handleEditMarker
  dsimp only
  cases coalescer.flushPendingScroll.1.pendingEdit with
  | none => exact closed_step reached flushed.1 flushed.2.1
  | some pending =>
      dsimp only
      split_ifs
      · exact closed_step reached alone scrolled.2.1
      · exact closed_step reached flushed.1 flushed.2.1

theorem flush_due_stamped {earliest now : Int} {coalescer : ActionCoalescer}
    (stamped : Stamped earliest now coalescer) (time : Instant) :
    StampedStep earliest now (coalescer.flushDue time) := by
  have scrolled := flush_pending_scroll_between stamped
  have unchanged : StampedStep earliest now (coalescer, []) :=
    ⟨earliest, le_rfl, Stamps.between_nil _ _, stamped⟩
  cases pending : coalescer.pendingScroll with
  | none =>
      unfold flushDue
      rw [pending]
      exact unchanged
  | some scroll =>
      rw [flush_due_pending time pending]
      split_ifs
      · exact closed_step stamped.reached scrolled.1 scrolled.2.1
      · exact unchanged

theorem step_stamped {earliest now : Int} {coalescer : ActionCoalescer}
    (stamped : Stamped earliest now coalescer) (call : Call)
    (later : ∀ capturedAt, call.capturedAt = some capturedAt → now ≤ capturedAt.nanos) :
    StampedStep earliest ((call.capturedAt.map Instant.nanos).getD now)
      (machine.step coalescer call) := by
  cases call with
  | flushDue time => exact flush_due_stamped stamped time
  | input input =>
      cases input with
      | action draft =>
          change StampedStep earliest draft.capturedAt.nanos
            (if draft.actionType = .scroll then coalescer.handleScroll draft
              else coalescer.handleNonScroll draft)
          split_ifs
          · exact handle_scroll_stamped stamped (later _ rfl)
          · exact handle_non_scroll_stamped stamped (later _ rfl)
      | editMarker marker => exact handle_edit_marker_stamped stamped (later _ rfl)
      | commitEdit capturedAt signal =>
          have flushed := flush_all_between stamped (later capturedAt rfl) signal
          exact closed_step (stamped.reached.trans (later capturedAt rfl)) flushed.1 flushed.2.1
      | focusChanged capturedAt signal =>
          have flushed := flush_all_between stamped (later capturedAt rfl) signal
          exact closed_step (stamped.reached.trans (later capturedAt rfl)) flushed.1 flushed.2.1
      | stop capturedAt signal =>
          have flushed := flush_all_between stamped (later capturedAt rfl) signal
          exact closed_step (stamped.reached.trans (later capturedAt rfl)) flushed.1 flushed.2.1

/-- The captures of the calls, and the end, in the order of time. -/
def InOrder (calls : List Call) (now : Instant) : Prop :=
  (calls.filterMap Call.capturedAt ++ [now]).Pairwise fun capturedAt later =>
    capturedAt.nanos ≤ later.nanos

theorem in_order_cons {call : Call} {rest : List Call} {now : Instant}
    (ordered : InOrder (call :: rest) now) :
    InOrder rest now ∧ ∀ capturedAt, call.capturedAt = some capturedAt →
      ∀ later ∈ rest.filterMap Call.capturedAt ++ [now], capturedAt.nanos ≤ later.nanos := by
  unfold InOrder at ordered ⊢
  rw [List.filterMap_cons] at ordered
  cases isTime : call.capturedAt with
  | none =>
      rw [isTime] at ordered
      exact ⟨ordered, by simp⟩
  | some time =>
      rw [isTime] at ordered
      have ⟨first, ordered⟩ := List.pairwise_cons.mp ordered
      refine ⟨ordered, ?_⟩
      intro capturedAt same
      cases same
      exact first

theorem run_between {earliest now : Int} {coalescer : ActionCoalescer} (calls : List Call)
    {finish : Instant} (stamped : Stamped earliest now coalescer)
    (ordered : InOrder calls finish)
    (later : ∀ capturedAt ∈ calls.filterMap Call.capturedAt ++ [finish],
      now ≤ capturedAt.nanos) :
    Between earliest finish.nanos ((machine.outputs coalescer calls).flatten ++
      ((machine.run coalescer calls).flushAll finish).2) := by
  induction calls generalizing earliest now coalescer with
  | nil => exact (flush_all_between stamped (later finish (by simp)) .stop).1
  | cons call rest induction =>
      have ⟨orderedRest, follows⟩ := in_order_cons ordered
      have stepLater : ∀ capturedAt, call.capturedAt = some capturedAt →
          now ≤ capturedAt.nanos := by
        intro capturedAt isTime
        apply later capturedAt
        rw [List.filterMap_cons, isTime]
        exact List.mem_cons_self
      have ⟨middle, reached, between, next⟩ := step_stamped stamped call stepLater
      have restLater : ∀ capturedAt ∈ rest.filterMap Call.capturedAt ++ [finish],
          (call.capturedAt.map Instant.nanos).getD now ≤ capturedAt.nanos := by
        intro capturedAt member
        cases isTime : call.capturedAt with
        | none =>
            apply later capturedAt
            rw [List.filterMap_cons, isTime]
            exact member
        | some time => exact follows time isTime capturedAt member
      have whole := induction next orderedRest restLater
      rw [Machine.outputs_cons, List.flatten_cons, Machine.run_cons, List.append_assoc]
      exact between_append between whole reached
        (next.reached.trans (restLater finish (by simp)))

theorem coalesced_ordered (timing : CoalescerTiming) (calls : List Call) (now : Instant)
    (ordered : InOrder calls now) :
    (coalesced timing calls now).Pairwise fun output later =>
      output.capturedAt.nanos ≤ later.capturedAt.nanos := by
  have ⟨earliest, later⟩ :=
    Stamps.exists_earliest Instant.nanos (calls.filterMap Call.capturedAt ++ [now])
  have stamped : Stamped earliest earliest (new timing) := by
    refine ⟨le_rfl, ?_, Or.inl rfl⟩
    intro pending isOpen
    cases isOpen
  exact List.pairwise_map.mp (run_between calls stamped ordered later).ordered

theorem run_tracks (timing : CoalescerTiming) (calls : List Call) (now : Instant) :
    ∃ scrolls edits emitted, Tracks timing (machine.run (new timing) calls) scrolls edits emitted :=
  machine.run_invariant
    (fun coalescer => ∃ scrolls edits emitted, Tracks timing coalescer scrolls edits emitted)
    (fun _ call tracked =>
      have ⟨_, _, _, tracks⟩ := tracked
      have ⟨scrolls, edits, emitted, next, _⟩ := step_advances tracks now call
      ⟨scrolls, edits, emitted, next⟩)
    (new timing) calls ⟨[], [], [], Tracks.new timing⟩

/-- The outputs of a recording are one for each run of scrolls, one for each run of edit
markers and one for each other draft that repeats nothing, in the order of their captures.
The runs hold every scroll and every marker, and no two buffers are ever open together. -/
theorem coalesced_actions (timing : CoalescerTiming) (calls : List Call) (now : Instant) :
    (coalesced timing calls now).Perm
      (((scrollRule timing).runs calls).flatMap scrollOutput ++
        ((editRule now).runs calls).flatMap editOutput ++
        (emittedAfter timing [] (calls.filterMap Call.plainDraft)).map ActionDraft.output) ∧
    (((scrollRule timing).runs calls).flatMap Prod.fst = calls.filterMap Call.scrollDraft ∧
      ∀ run ∈ (scrollRule timing).runs calls, run.1 ≠ []) ∧
    (((editRule now).runs calls).flatMap Prod.fst = calls.filterMap Call.editMarker ∧
      ∀ run ∈ (editRule now).runs calls, run.1 ≠ []) ∧
    (InOrder calls now → (coalesced timing calls now).Pairwise fun output later =>
      output.capturedAt.nanos ≤ later.capturedAt.nanos) ∧
    ∀ before, before <+: calls →
      (machine.run (new timing) before).pendingScroll = none ∨
        (machine.run (new timing) before).pendingEdit = none := by
  refine ⟨?_, ⟨(scrollRule timing).runs_flat_map calls, (scrollRule timing).runs_nonempty calls⟩,
    ⟨(editRule now).runs_flat_map calls, (editRule now).runs_nonempty calls⟩,
    coalesced_ordered timing calls now, ?_⟩
  · apply Multiset.coe_eq_coe.mp
    rw [coalesced, run_remaining (Tracks.new timing) now calls, ← Multiset.coe_add,
      ← Multiset.coe_add]
    rfl
  · intro before _
    have ⟨scrolls, edits, _, tracks⟩ := run_tracks timing before now
    rcases tracks.apart with noScroll | noEdit
    · rw [tracks.scroll, noScroll]
      exact Or.inl rfl
    · rw [tracks.edit, noEdit]
      exact Or.inr rfl

end ActionCoalescer

private def listBox : CapturedElement :=
  ⟨"list", ⟨"uia", []⟩, .pidMatch, none, true, "win32", .native, "Win32", 1, none⟩

private def oneDiag (repeatCount : UInt32) : ActionDiag :=
  ⟨1, 0, "event", 0, 0, 0, repeatCount, none, none, none⟩

private def listScroll (bucket : UInt8) (repeatCount : UInt32) (time : Int) : Call :=
  .input (.action ⟨listBox, .scroll, .scroll .down (some bucket) none none, none, ⟨time⟩,
    oneDiag repeatCount⟩)

private def listEdited (time : Int) : Call :=
  .input (.action ⟨listBox, .editCommitted, .editCommitted none none, some "edit_committed",
    ⟨time⟩, oneDiag 1⟩)

private def listMarker (time : Int) : Call :=
  .input (.editMarker ⟨listBox, ⟨time⟩, none, oneDiag 1⟩)

theorem coalesced_actions_scrolls :
    (ActionCoalescer.coalesced ⟨500, 500⟩ [listScroll 2 1 0, listScroll 3 1 5, listMarker 7]
        ⟨9⟩).Pairwise (fun output later => output.capturedAt.nanos ≤ later.capturedAt.nanos) :=
  (ActionCoalescer.coalesced_actions ⟨500, 500⟩ _ ⟨9⟩).2.2.2.1
    (by unfold ActionCoalescer.InOrder; decide)

/-- A single scroll keeps an amount above the cap, counts saturate, and an output of a
marker is no earlier emission of a draft. -/
theorem coalesced_beyond_sums :
    (ActionCoalescer.coalesced ⟨500, 500⟩ [listScroll 11 1 0] ⟨9⟩).map
        (fun output => amountBucket output.payload) = [some 11] ∧
      (ActionCoalescer.coalesced ⟨500, 500⟩ [listScroll 1 4294967295 0, listScroll 1 1 5]
        ⟨9⟩).map (fun output => output.diag.repeatCount) = [4294967295] ∧
      (ActionCoalescer.coalesced ⟨500, 500⟩ [listMarker 0, listEdited 5] ⟨9⟩).map
          (fun output => (output.target.targetKey, output.actionType, output.payload)) =
        [("list", .editCommitted, .editCommitted none none),
          ("list", .editCommitted, .editCommitted none none)] := by
  decide +kernel

end Gilbreth.Windows
