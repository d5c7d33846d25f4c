import Mathlib
import Gilbreth.Core.Suppression
import Gilbreth.Windows.SensitiveBoundaries

/-!
# No row overtakes the boundary of its context

As long as nothing is left to a reconciliation, the channel followed by the pump's queue says
which reasons are active. An ordinary row goes in only while no transition is open, so the queue
is empty then and the writer's policy has every reason of the capture side when it meets the row.
-/

set_option autoImplicit false

namespace Gilbreth.Windows

open Gilbreth.Core (Captured EventPayload Instant SensitiveContextReason Source)

section Replay

variable (active : Finset SensitiveContextReason)

theorem replay_rows_append (before after : List Captured) :
    replayRows active (before ++ after) = replayRows (replayRows active before) after :=
  List.foldl_append

theorem channel_reasons_append (before after : List EnqueuedRow) :
    channelReasons (before ++ after) =
      replayRows (channelReasons before) (after.map EnqueuedRow.captured) := by
  unfold channelReasons
  rw [List.map_append, replay_rows_append]

theorem mem_step_row (entered : Bool) (reason other : SensitiveContextReason) (now : Instant) :
    other ∈ (sensitiveContextRow entered reason now).payload.boundaryStep active ↔
      if other = reason then entered = true else other ∈ active := by
  cases entered with
  | true =>
      change other ∈ insert reason active ↔ _
      rw [Finset.mem_insert]
      split_ifs with same
      · exact ⟨fun _ => rfl, fun _ => Or.inl same⟩
      · exact or_iff_right same
  | false =>
      change other ∈ active.erase reason ↔ _
      rw [Finset.mem_erase]
      split_ifs with same
      · exact ⟨fun kept => absurd same kept.1, nofun⟩
      · exact and_iff_right same

theorem step_rows_commute {reason other : SensitiveContextReason} (apart : reason ≠ other)
    (entered entered' : Bool) (now now' : Instant) :
    (sensitiveContextRow entered reason now).payload.boundaryStep
        ((sensitiveContextRow entered' other now').payload.boundaryStep active) =
      (sensitiveContextRow entered' other now').payload.boundaryStep
        ((sensitiveContextRow entered reason now).payload.boundaryStep active) := by
  ext member
  rw [mem_step_row, mem_step_row, mem_step_row, mem_step_row]
  split_ifs with first second
  · exact absurd (first.symm.trans second) apart
  · rfl
  · rfl
  · rfl

theorem PumpReason.reason_injective : Function.Injective PumpReason.reason := by
  intro reason other
  cases reason
  all_goals cases other
  all_goals simp [PumpReason.reason]

theorem PumpReason.reason_ne_password (reason : PumpReason) :
    reason.reason ≠ .passwordField := by
  cases reason
  all_goals exact nofun

/-- A row of the monitor may go in before the boundaries that wait on the pump. -/
theorem replay_pending_password (pending : List PumpBoundary) (isPassword : Bool)
    (now : Instant) :
    replayRows ((sensitiveContextRow isPassword .passwordField now).payload.boundaryStep active)
        (pending.map PumpBoundary.captured) =
      (sensitiveContextRow isPassword .passwordField now).payload.boundaryStep
        (replayRows active (pending.map PumpBoundary.captured)) := by
  induction pending generalizing active with
  | nil => rfl
  | cons boundary rest induction =>
      have commuted := step_rows_commute active boundary.reason.reason_ne_password
        boundary.entered isPassword boundary.capturedAt now
      have next := induction (boundary.captured.payload.boundaryStep active)
      exact (congrArg (replayRows · (rest.map PumpBoundary.captured)) commuted).trans next

theorem mem_replay_exits (reasons : List SensitiveContextReason) (now : Instant)
    (reason : SensitiveContextReason) :
    reason ∈ replayRows active (reasons.map fun reason => sensitiveContextRow false reason now) ↔
      reason ∈ active ∧ reason ∉ reasons := by
  induction reasons generalizing active with
  | nil => exact (and_iff_left List.not_mem_nil).symm
  | cons first rest induction =>
      have next := induction ((sensitiveContextRow false first now).payload.boundaryStep active)
      rw [mem_step_row] at next
      refine next.trans ?_
      rw [List.mem_cons, not_or]
      split_ifs with same
      · constructor
        · exact fun kept => kept.1.elim
        · exact fun kept => absurd same kept.2.1
      · exact and_congr_right fun _ => (and_iff_right same).symm

theorem mem_replay_enters (reasons : List SensitiveContextReason) (now : Instant)
    (reason : SensitiveContextReason) :
    reason ∈ replayRows active (reasons.map fun reason => sensitiveContextRow true reason now) ↔
      reason ∈ active ∨ reason ∈ reasons := by
  induction reasons generalizing active with
  | nil => exact (or_iff_left List.not_mem_nil).symm
  | cons first rest induction =>
      have next := induction ((sensitiveContextRow true first now).payload.boundaryStep active)
      rw [mem_step_row] at next
      refine next.trans ?_
      rw [List.mem_cons]
      split_ifs with same
      · exact ⟨fun _ => Or.inr (Or.inl same), fun _ => Or.inl rfl⟩
      · exact or_congr_right (or_iff_right same).symm

theorem secure_input_not_mem_replay (pending : List PumpBoundary)
    (foreign : .secureInput ∉ active) :
    .secureInput ∉ replayRows active (pending.map PumpBoundary.captured) := by
  induction pending generalizing active with
  | nil => exact foreign
  | cons boundary rest induction =>
      apply induction
      unfold PumpBoundary.captured
      rw [mem_step_row, if_neg]
      · exact foreign
      · cases boundary.reason
        all_goals exact nofun

end Replay

/-- Every ordinary row went in behind the boundaries of the reasons that were active. -/
def RowsFollow (rows : List EnqueuedRow) : Prop :=
  ∀ index row, rows[index]? = some row → row.captured.payload.isBoundary = false →
    row.activeReasons ⊆ channelReasons (rows.take index)

theorem RowsFollow.push {rows : List EnqueuedRow} (follow : RowsFollow rows) {row : EnqueuedRow}
    (next : row.captured.payload.isBoundary = false → row.activeReasons ⊆ channelReasons rows) :
    RowsFollow (rows ++ [row]) := by
  intro index other here ordinary
  rcases Nat.lt_trichotomy index rows.length with before | rfl | after
  · rw [List.getElem?_append_left before] at here
    rw [List.take_append_of_le_length before.le]
    exact follow index other here ordinary
  · rw [List.getElem?_concat_length] at here
    cases here
    rw [List.take_left]
    exact next ordinary
  · have outside : (rows ++ [row]).length ≤ index := by
      rw [List.length_append]
      exact after
    rw [List.getElem?_eq_none outside] at here
    cases here

theorem RowsFollow.push_boundaries {rows : List EnqueuedRow} (follow : RowsFollow rows)
    {boundaries : List EnqueuedRow}
    (told : ∀ row ∈ boundaries, row.captured.payload.isBoundary = true) :
    RowsFollow (rows ++ boundaries) := by
  induction boundaries generalizing rows with
  | nil =>
      rw [List.append_nil]
      exact follow
  | cons first rest induction =>
      have pushed : RowsFollow (rows ++ [first]) := by
        apply follow.push
        rw [told first List.mem_cons_self]
        rintro ⟨⟩
      have next := induction pushed fun row later => told row (List.mem_cons_of_mem _ later)
      rw [List.append_assoc] at next
      exact next

namespace SensitiveCapture

variable (capture : SensitiveCapture)

def toldReasons : Finset SensitiveContextReason :=
  replayRows (channelReasons capture.channel)
    (capture.pendingSensitiveBoundaries.map PumpBoundary.captured)

/-- What holds between any two steps. -/
structure InStep : Prop where
  transitions : capture.controls.sensitiveTransitions =
    capture.announcedBoundary.toList.length + capture.announcedSample.toList.length +
      capture.pendingSensitiveBoundaries.length
  told : capture.controls.sensitiveReconcilePending = false →
    capture.toldReasons = capture.captureReasons
  off : capture.controls.sensitiveReconcilePending = true →
    capture.controls.sensitiveTransitionShouldDefer = true
  prepared : ∀ generation, capture.resumeThread = some (.prepared generation) →
    generation ≤ capture.sensitiveTransitionGeneration ∧
      (generation = capture.sensitiveTransitionGeneration →
        capture.controls.sensitiveTransitions = 0 ∧
          capture.controls.sensitiveReconcilePending = false)
  foreign : .secureInput ∉ channelReasons capture.channel
  rows : RowsFollow capture.channel

/-- Capture is not turned on while something is left to a reconciliation. -/
def Orderly : SensitiveAct → Prop
  | .restoreBaselineCapture => capture.controls.sensitiveReconcilePending = true →
      capture.controls.sensitiveResumeBarrier = true
  | .giveUpResume => capture.controls.sensitiveReconcilePending = true →
      capture.controls.suspended = true
  | _ => True

theorem capture_reasons_pump (boundary : PumpBoundary) :
    (capture.noteBoundary boundary).captureReasons =
      boundary.captured.payload.boundaryStep capture.captureReasons := by
  obtain ⟨entered, reason, now⟩ := boundary
  unfold captureReasons noteBoundary
  cases entered with
  | true =>
      change _ = insert reason.reason _
      dsimp only
      rw [if_pos rfl, Finset.image_insert]
      split
      · exact Finset.insert_comm _ _ _
      · rfl
  | false =>
      change _ = Finset.erase _ reason.reason
      dsimp only
      rw [if_neg Bool.false_ne_true, Finset.image_erase PumpReason.reason_injective]
      split
      · exact (Finset.erase_insert_of_ne reason.reason_ne_password.symm).symm
      · rfl

theorem password_not_mem_pump :
    .passwordField ∉ capture.activeSensitiveReasons.image PumpReason.reason := by
  intro member
  obtain ⟨reason, -, same⟩ := Finset.mem_image.mp member
  exact reason.reason_ne_password same

theorem capture_reasons_sample (controls : CaptureControls) (isPassword : Bool) (now : Instant)
    (changes : capture.controls.passwordFieldConfirmedActive ≠ isPassword)
    (confirmed : controls.passwordFieldConfirmedActive = isPassword) :
    { capture with controls := controls }.captureReasons =
      (sensitiveContextRow isPassword .passwordField now).payload.boundaryStep
        capture.captureReasons := by
  unfold captureReasons
  rw [confirmed]
  cases isPassword with
  | true =>
      rw [if_pos rfl, if_neg changes]
      rfl
  | false =>
      rw [Bool.ne_false_iff] at changes
      rw [if_neg Bool.false_ne_true, if_pos changes]
      exact (Finset.erase_insert capture.password_not_mem_pump).symm

theorem secure_input_not_mem : .secureInput ∉ capture.captureReasons := by
  have foreign : .secureInput ∉ capture.activeSensitiveReasons.image PumpReason.reason := by
    intro member
    obtain ⟨reason, -, same⟩ := Finset.mem_image.mp member
    cases reason
    all_goals cases same
  unfold captureReasons
  split
  · rw [Finset.mem_insert, not_or]
    exact ⟨nofun, foreign⟩
  · exact foreign

theorem is_boundary_row (entered : Bool) (reason : SensitiveContextReason) (now : Instant) :
    (sensitiveContextRow entered reason now).payload.isBoundary = true := by
  cases entered
  all_goals rfl

theorem channel_reasons_enqueue (rows : List Captured) :
    channelReasons (capture.enqueue rows).channel =
      replayRows (channelReasons capture.channel) rows := by
  unfold enqueue
  rw [channel_reasons_append, List.map_map]
  exact congrArg (replayRows _) (List.map_id rows)

theorem rows_enqueue {rows : List Captured} (follow : RowsFollow capture.channel)
    (told : ∀ captured ∈ rows, captured.payload.isBoundary = true) :
    RowsFollow (capture.enqueue rows).channel := by
  apply follow.push_boundaries
  intro row member
  obtain ⟨captured, here, rfl⟩ := List.mem_map.mp member
  exact told captured here

theorem told_reasons_flush (room : Nat) :
    (capture.flushPendingUnchecked room).toldReasons = capture.toldReasons := by
  have moved := channel_reasons_enqueue { capture with
    pendingSensitiveBoundaries := capture.pendingSensitiveBoundaries.drop room }
      ((capture.pendingSensitiveBoundaries.take room).map PumpBoundary.captured)
  unfold toldReasons
  refine (congrArg (replayRows · _) moved).trans ?_
  change replayRows (replayRows _ _) ((capture.pendingSensitiveBoundaries.drop room).map _) = _
  rw [← replay_rows_append, ← List.map_append, List.take_append_drop]

theorem queue_or_send_deferred (boundary : PumpBoundary) (room : Nat) (delivered : Bool)
    (defer : capture.controls.sensitiveTransitionShouldDefer = true) :
    capture.queueOrSendSensitiveBoundary boundary room delivered =
      capture.requestSensitiveContextReconcile.clearPending.endSensitiveTransitions 1 :=
  if_pos defer

theorem queue_or_send_flushes (boundary : PumpBoundary) (room : Nat) (delivered : Bool)
    (on : capture.controls.sensitiveTransitionShouldDefer = false) :
    ∃ places, capture.queueOrSendSensitiveBoundary boundary room delivered =
      { capture with
        pendingSensitiveBoundaries := capture.pendingSensitiveBoundaries ++ [boundary]
        }.flushPendingUnchecked places := by
  have dropped : (capture.flushPendingUnchecked room).pendingSensitiveBoundaries =
      capture.pendingSensitiveBoundaries.drop room := rfl
  unfold queueOrSendSensitiveBoundary
  rw [on, if_neg Bool.false_ne_true]
  dsimp only
  split_ifs with sent
  · rw [dropped] at sent
    have all := List.drop_eq_nil_iff.mp sent.1
    refine ⟨capture.pendingSensitiveBoundaries.length + 1, ?_⟩
    unfold flushPendingUnchecked endSensitiveTransitions enqueue
    simp [captureReasons, List.take_of_length_le all, List.drop_of_length_le all, List.drop_append,
      List.take_append]
    omega
  · by_cases short : room ≤ capture.pendingSensitiveBoundaries.length
    · refine ⟨room, ?_⟩
      unfold flushPendingUnchecked endSensitiveTransitions enqueue
      rw [List.drop_append_of_le_length short, List.take_append_of_le_length short]
      rfl
    · refine ⟨capture.pendingSensitiveBoundaries.length, ?_⟩
      have all := (not_le.mp short).le
      unfold flushPendingUnchecked endSensitiveTransitions enqueue
      rw [List.drop_of_length_le all, List.take_of_length_le all, List.drop_left, List.take_left]
      rfl

section Steps

variable {capture} (inStep : capture.InStep)

include inStep

theorem InStep.flush_unchecked (room : Nat) : (capture.flushPendingUnchecked room).InStep := by
  have counted := inStep.transitions
  constructor
  · change capture.controls.sensitiveTransitions -
        (capture.pendingSensitiveBoundaries.take room).length =
      capture.announcedBoundary.toList.length + capture.announcedSample.toList.length +
        (capture.pendingSensitiveBoundaries.drop room).length
    rw [List.length_take, List.length_drop]
    omega
  · intro nothing
    exact (capture.told_reasons_flush room).trans (inStep.told nothing)
  · exact inStep.off
  · intro generation prepared
    obtain ⟨earlier, quiet⟩ := inStep.prepared generation prepared
    refine ⟨earlier, fun same => ⟨?_, (quiet same).2⟩⟩
    change capture.controls.sensitiveTransitions - _ = 0
    rw [(quiet same).1, Nat.zero_sub]
  · change .secureInput ∉ channelReasons (SensitiveCapture.enqueue _ _).channel
    rw [channel_reasons_enqueue]
    exact secure_input_not_mem_replay _ _ inStep.foreign
  · apply rows_enqueue _ inStep.rows
    intro captured member
    obtain ⟨boundary, -, rfl⟩ := List.mem_map.mp member
    exact is_boundary_row _ _ _

theorem InStep.pending_of_enabled {row : Captured}
    (enabled : capture.controls.enabledFor row = true) :
    capture.pendingSensitiveBoundaries = [] ∧
      capture.controls.sensitiveTransitionShouldDefer = false ∧
        capture.captureReasons = channelReasons capture.channel := by
  unfold CaptureControls.enabledFor CaptureControls.isSuspended at enabled
  rw [Bool.and_eq_true, Bool.not_eq_true', Bool.or_eq_false_iff, decide_eq_false_iff_not,
    not_not] at enabled
  obtain ⟨⟨on, quiet⟩, -⟩ := enabled
  have counted := inStep.transitions
  rw [quiet] at counted
  have pending : capture.pendingSensitiveBoundaries = [] := by
    apply List.eq_nil_of_length_eq_zero
    omega
  have settled : capture.controls.sensitiveReconcilePending = false := by
    by_contra left
    rw [Bool.not_eq_false] at left
    rw [inStep.off left] at on
    cases on
  have told := inStep.told settled
  unfold toldReasons at told
  rw [pending] at told
  exact ⟨pending, on, told.symm⟩

theorem InStep.enqueue_ordinary (row : OrdinaryRow)
    (pending : capture.pendingSensitiveBoundaries = [])
    (told : capture.captureReasons = channelReasons capture.channel) :
    (capture.enqueue [row.1]).InStep := by
  have reasons : channelReasons (capture.enqueue [row.1]).channel =
      channelReasons capture.channel := by
    rw [channel_reasons_enqueue]
    exact EventPayload.boundary_step_of_not_boundary row.2 _
  constructor
  · exact inStep.transitions
  · intro _
    unfold toldReasons
    rw [reasons, ← told]
    change replayRows _ (capture.pendingSensitiveBoundaries.map _) = _
    rw [pending]
    rfl
  · exact inStep.off
  · exact inStep.prepared
  · rw [reasons]
    exact inStep.foreign
  · apply inStep.rows.push
    intro _
    rw [← told]

theorem InStep.send (row : OrdinaryRow) (room : Nat) (accepted : Bool) :
    (capture.send row room accepted).InStep := by
  unfold SensitiveCapture.send
  split
  · next enabled =>
    obtain ⟨pending, on, told⟩ := inStep.pending_of_enabled enabled
    have flushed := inStep.flush_unchecked room
    have same : capture.flushPendingSensitiveBoundaries room =
        capture.flushPendingUnchecked room := by
      unfold flushPendingSensitiveBoundaries
      rw [on]
      rfl
    dsimp only
    rw [same]
    split
    · apply flushed.enqueue_ordinary row
      · change capture.pendingSensitiveBoundaries.drop room = []
        rw [pending, List.drop_nil]
      · change capture.captureReasons = channelReasons (SensitiveCapture.enqueue _ _).channel
        rw [channel_reasons_enqueue, told, pending, List.take_nil]
        rfl
    · exact flushed
  · exact inStep

theorem InStep.send_system_capture (row : OrdinaryRow) (accepted : Bool) :
    (capture.sendSystemCapture row accepted).InStep := by
  unfold sendSystemCapture
  split
  · next taken =>
    rw [Bool.and_eq_true] at taken
    obtain ⟨pending, -, told⟩ := inStep.pending_of_enabled taken.1
    exact inStep.enqueue_ordinary row pending told
  · exact inStep

theorem InStep.begin_transition {next : SensitiveCapture}
    (transitions : next.controls.sensitiveTransitions =
      next.announcedBoundary.toList.length + next.announcedSample.toList.length +
        next.pendingSensitiveBoundaries.length)
    (generation : next.sensitiveTransitionGeneration = capture.sensitiveTransitionGeneration + 1)
    (reconcile : next.controls.sensitiveReconcilePending =
      capture.controls.sensitiveReconcilePending)
    (defer : next.controls.sensitiveTransitionShouldDefer =
      capture.controls.sensitiveTransitionShouldDefer)
    (told : next.toldReasons = capture.toldReasons)
    (reasons : next.captureReasons = capture.captureReasons)
    (thread : next.resumeThread = capture.resumeThread)
    (channel : next.channel = capture.channel) : next.InStep := by
  constructor
  · exact transitions
  · rw [reconcile, told, reasons]
    exact inStep.told
  · rw [reconcile, defer]
    exact inStep.off
  · intro earlier prepared
    rw [thread] at prepared
    have before := (inStep.prepared earlier prepared).1
    rw [generation]
    exact ⟨Nat.le_succ_of_le before, fun same => by omega⟩
  · rw [channel]
    exact inStep.foreign
  · rw [channel]
    exact inStep.rows

/-- A step that leaves the channel and the queue alone, and the reasons with them. -/
theorem InStep.of_controls {next : SensitiveCapture}
    (transitions : next.controls.sensitiveTransitions =
      next.announcedBoundary.toList.length + next.announcedSample.toList.length +
        next.pendingSensitiveBoundaries.length)
    (reconcile : next.controls.sensitiveReconcilePending =
      capture.controls.sensitiveReconcilePending)
    (defer : next.controls.sensitiveReconcilePending = true →
      next.controls.sensitiveTransitionShouldDefer = true)
    (prepared : ∀ generation, next.resumeThread = some (.prepared generation) →
      generation ≤ next.sensitiveTransitionGeneration ∧
        (generation = next.sensitiveTransitionGeneration →
          next.controls.sensitiveTransitions = 0 ∧
            next.controls.sensitiveReconcilePending = false))
    (told : next.toldReasons = capture.toldReasons)
    (reasons : next.captureReasons = capture.captureReasons)
    (channel : next.channel = capture.channel) : next.InStep := by
  constructor
  · exact transitions
  · rw [reconcile, told, reasons]
    exact inStep.told
  · exact defer
  · exact prepared
  · rw [channel]
    exact inStep.foreign
  · rw [channel]
    exact inStep.rows

theorem InStep.left_to_reconcile {next : SensitiveCapture}
    (transitions : next.controls.sensitiveTransitions =
      next.announcedBoundary.toList.length + next.announcedSample.toList.length +
        next.pendingSensitiveBoundaries.length)
    (reconcile : next.controls.sensitiveReconcilePending = true)
    (defer : next.controls.sensitiveTransitionShouldDefer = true)
    (open' : capture.controls.sensitiveTransitions ≠ 0)
    (generation : next.sensitiveTransitionGeneration = capture.sensitiveTransitionGeneration)
    (thread : next.resumeThread = capture.resumeThread)
    (channel : next.channel = capture.channel) : next.InStep := by
  constructor
  · exact transitions
  · rw [reconcile]
    rintro ⟨⟩
  · exact fun _ => defer
  · intro earlier prepared
    rw [thread] at prepared
    obtain ⟨before, quiet⟩ := inStep.prepared earlier prepared
    rw [generation]
    exact ⟨before, fun same => absurd (quiet same).1 open'⟩
  · rw [channel]
    exact inStep.foreign
  · rw [channel]
    exact inStep.rows

theorem InStep.flush_pending (room : Nat) :
    (capture.flushPendingSensitiveBoundaries room).InStep := by
  have counted := inStep.transitions
  unfold flushPendingSensitiveBoundaries
  split_ifs with defer empty
  · exact inStep
  · have waiting := List.length_pos_iff.mpr empty
    refine inStep.left_to_reconcile ?_ rfl defer (by omega) rfl rfl rfl
    change capture.controls.sensitiveTransitions - capture.pendingSensitiveBoundaries.length =
      capture.announcedBoundary.toList.length + capture.announcedSample.toList.length + 0
    omega
  · exact inStep.flush_unchecked room

theorem InStep.finish_boundary (room : Nat) (delivered : Bool) :
    (capture.finishBoundary room delivered).InStep := by
  have counted := inStep.transitions
  unfold finishBoundary
  split
  · exact inStep
  · next boundary announced =>
    rw [announced] at counted
    change _ = 1 + _ + _ at counted
    cases defer : capture.controls.sensitiveTransitionShouldDefer with
    | true =>
        have same := queue_or_send_deferred
          ({ capture with announcedBoundary := none }.noteBoundary boundary) boundary room delivered
          defer
        rw [same]
        refine inStep.left_to_reconcile ?_ rfl defer (by omega) rfl rfl rfl
        change capture.controls.sensitiveTransitions -
          capture.pendingSensitiveBoundaries.length - 1 =
            0 + capture.announcedSample.toList.length + 0
        omega
    | false =>
        obtain ⟨places, same⟩ := queue_or_send_flushes
          ({ capture with announcedBoundary := none }.noteBoundary boundary) boundary room delivered
          defer
        rw [same]
        apply InStep.flush_unchecked
        constructor
        · change capture.controls.sensitiveTransitions = 0 +
            capture.announcedSample.toList.length +
              (capture.pendingSensitiveBoundaries ++ [boundary]).length
          rw [List.length_append, List.length_singleton]
          omega
        · intro settled
          have reasons := capture_reasons_pump { capture with announcedBoundary := none } boundary
          refine Eq.trans ?_ reasons.symm
          unfold toldReasons
          change replayRows (channelReasons capture.channel)
            ((capture.pendingSensitiveBoundaries ++ [boundary]).map PumpBoundary.captured) = _
          rw [List.map_append, replay_rows_append]
          exact congrArg boundary.captured.payload.boundaryStep (inStep.told settled)
        · exact inStep.off
        · intro generation prepared
          obtain ⟨earlier, quiet⟩ := inStep.prepared generation prepared
          refine ⟨earlier, fun equal => ?_⟩
          have none := (quiet equal).1
          omega
        · exact inStep.foreign
        · exact inStep.rows

omit inStep in
theorem enqueue_nothing : capture.enqueue [] = capture := by
  unfold enqueue
  rw [List.map_nil, List.append_nil]

theorem InStep.finish_sample (now : Instant) (sent : SensitiveBoundarySend) :
    (capture.finishSample now sent).InStep := by
  have counted := inStep.transitions
  unfold finishSample
  split
  · exact inStep
  · next isPassword announced =>
    rw [announced] at counted
    change _ = _ + 1 + _ at counted
    have ended : capture.controls.sensitiveTransitions - 1 =
        capture.announcedBoundary.toList.length + 0 +
          capture.pendingSensitiveBoundaries.length := by
      omega
    have unprepared (controls : CaptureControls) (generation : Nat)
        (prepared : capture.resumeThread = some (.prepared generation)) :
        generation ≤ capture.sensitiveTransitionGeneration ∧
          (generation = capture.sensitiveTransitionGeneration →
            controls.sensitiveTransitions = 0 ∧ controls.sensitiveReconcilePending = false) := by
      obtain ⟨earlier, quiet⟩ := inStep.prepared generation prepared
      refine ⟨earlier, fun same => ?_⟩
      have none := (quiet same).1
      omega
    have unchanged (controls : CaptureControls)
        (transitions : controls.sensitiveTransitions = capture.controls.sensitiveTransitions)
        (reconcile : controls.sensitiveReconcilePending =
          capture.controls.sensitiveReconcilePending)
        (defer : controls.sensitiveTransitionShouldDefer =
          capture.controls.sensitiveTransitionShouldDefer)
        (confirmed : controls.passwordFieldConfirmedActive =
          capture.controls.passwordFieldConfirmedActive) :
        ({ capture with announcedSample := none, controls := controls }.endSensitiveTransitions
          1).InStep := by
      apply inStep.of_controls
      · change controls.sensitiveTransitions - 1 = _
        rw [transitions]
        exact ended
      · exact reconcile
      · intro left
        exact defer.trans (inStep.off (reconcile.symm.trans left))
      · exact unprepared _
      · rfl
      · unfold captureReasons endSensitiveTransitions
        dsimp only
        rw [confirmed]
      · rfl
    unfold CaptureControls.emitConfirmedPasswordFieldSample
    dsimp only
    split_ifs with same defer
    · rw [enqueue_nothing]
      exact unchanged _ rfl rfl rfl same.symm
    · rw [enqueue_nothing]
      exact inStep.left_to_reconcile ended rfl defer (by omega) rfl rfl rfl
    · cases sent with
      | delivered =>
          constructor
          · exact ended
          · intro settled
            have reasons := capture.capture_reasons_sample
              { capture.controls with
                passwordFieldActive := isPassword
                passwordFieldConfirmedActive := isPassword } isPassword now same rfl
            refine Eq.trans ?_ reasons.symm
            unfold toldReasons
            change replayRows (channelReasons (SensitiveCapture.enqueue _ _).channel)
              (capture.pendingSensitiveBoundaries.map PumpBoundary.captured) = _
            rw [channel_reasons_enqueue]
            refine (replay_pending_password _ _ isPassword now).trans ?_
            exact congrArg _ (inStep.told settled)
          · exact inStep.off
          · exact unprepared _
          · change .secureInput ∉ channelReasons (SensitiveCapture.enqueue _ _).channel
            rw [channel_reasons_enqueue]
            change .secureInput ∉ (sensitiveContextRow isPassword .passwordField
              now).payload.boundaryStep (channelReasons capture.channel)
            rw [mem_step_row, if_neg nofun]
            exact inStep.foreign
          · apply rows_enqueue
            · exact inStep.rows
            · intro captured member
              cases List.mem_singleton.mp member
              exact is_boundary_row isPassword .passwordField now
      | timedOut =>
          dsimp only
          rw [enqueue_nothing]
          exact unchanged _ rfl rfl rfl rfl
      | disconnected =>
          dsimp only
          rw [enqueue_nothing]
          exact unchanged _ rfl rfl rfl rfl

omit inStep in
/-- After the rows of a reconciliation exactly the reasons of the capture side are active. -/
theorem replay_reconciled (now : Instant)
    (foreign : .secureInput ∉ channelReasons capture.channel) :
    replayRows (channelReasons capture.channel)
      (reconciledReasons.map (fun reason => sensitiveContextRow false reason now) ++
        (reconciledReasons.filter fun reason => reason ∈ capture.captureReasons).map
          fun reason => sensitiveContextRow true reason now) = capture.captureReasons := by
  ext reason
  rw [replay_rows_append, mem_replay_enters, mem_replay_exits, List.mem_filter,
    decide_eq_true_eq]
  cases reason with
  | secureInput =>
      have none := capture.secure_input_not_mem
      simp [foreign, none]
  | _ => simp [reconciledReasons]

theorem InStep.reconcile {before : SensitiveCapture} (now : Instant)
    (channel : before.channel = capture.channel)
    (transitions : before.controls.sensitiveTransitions =
      before.announcedBoundary.toList.length + before.announcedSample.toList.length +
        before.pendingSensitiveBoundaries.length)
    (settled : before.controls.sensitiveReconcilePending = false)
    (prepared : ∀ generation, before.resumeThread = some (.prepared generation) →
      generation ≤ before.sensitiveTransitionGeneration ∧
        (generation = before.sensitiveTransitionGeneration →
          before.controls.sensitiveTransitions = 0)) :
    (before.reconcileSensitiveContextAfterPause now).InStep := by
  have foreign : .secureInput ∉ channelReasons before.channel := by
    rw [channel]
    exact inStep.foreign
  have told := before.replay_reconciled now foreign
  have reasons : channelReasons (before.reconcileSensitiveContextAfterPause now).channel =
      before.captureReasons :=
    (channel_reasons_enqueue before.clearPending _).trans told
  constructor
  · change before.controls.sensitiveTransitions - before.pendingSensitiveBoundaries.length =
      before.announcedBoundary.toList.length + before.announcedSample.toList.length + 0
    omega
  · exact fun _ => reasons
  · intro left
    rw [show before.controls.sensitiveReconcilePending = true from left] at settled
    cases settled
  · intro generation earlier
    obtain ⟨before', quiet⟩ := prepared generation earlier
    refine ⟨before', fun same => ⟨?_, settled⟩⟩
    change before.controls.sensitiveTransitions - _ = 0
    rw [quiet same, Nat.zero_sub]
  · rw [reasons]
    exact before.secure_input_not_mem
  · apply rows_enqueue
    · change RowsFollow before.channel
      rw [channel]
      exact inStep.rows
    · intro captured member
      rcases List.mem_append.mp member with exits | enters
      · obtain ⟨reason, -, rfl⟩ := List.mem_map.mp exits
        exact is_boundary_row _ _ _
      · obtain ⟨reason, -, rfl⟩ := List.mem_map.mp enters
        exact is_boundary_row _ _ _

theorem InStep.check_requested_reseed (now : Instant) :
    (capture.checkRequestedReseed now).InStep := by
  unfold checkRequestedReseed
  dsimp only
  split_ifs with requested left
  · refine inStep.reconcile now rfl inStep.transitions rfl ?_
    intro generation prepared
    obtain ⟨earlier, quiet⟩ := inStep.prepared generation prepared
    exact ⟨earlier, fun same => (quiet same).1⟩
  · rw [Bool.not_eq_true] at left
    refine inStep.of_controls inStep.transitions left.symm ?_ ?_ ?_ ?_ ?_
    · rintro ⟨⟩
    · intro generation prepared
      obtain ⟨earlier, quiet⟩ := inStep.prepared generation prepared
      exact ⟨earlier, fun same => ⟨(quiet same).1, rfl⟩⟩
    · rfl
    · rfl
    · rfl
  · exact inStep

theorem InStep.reconcile_for_resume (now : Instant) :
    (capture.reconcileForResume now).InStep := by
  unfold reconcileForResume
  split
  · split
    · exact inStep
    · next quiet =>
      refine inStep.reconcile now rfl inStep.transitions rfl ?_
      rintro generation ⟨⟩
      exact ⟨le_rfl, fun _ => not_not.mp quiet⟩
  · exact inStep

theorem InStep.finish_resume (boundaryWritten : Bool) :
    (capture.finishResume boundaryWritten).InStep := by
  unfold finishResume
  split
  · next generation thread =>
    split
    · refine inStep.of_controls inStep.transitions rfl inStep.off ?_ ?_ ?_ ?_
      · rintro _ ⟨⟩
      · rfl
      · rfl
      · rfl
    · next unchanged =>
      rw [not_or, not_not, not_not] at unchanged
      have settled := ((inStep.prepared generation thread).2 unchanged.2.symm).2
      have lowered {next : SensitiveCapture}
          (same : next.controls.sensitiveReconcilePending =
            capture.controls.sensitiveReconcilePending) :
          next.controls.sensitiveReconcilePending = true →
            next.controls.sensitiveTransitionShouldDefer = true := by
        rw [same, settled]
        rintro ⟨⟩
      split
      · refine inStep.of_controls inStep.transitions rfl (lowered rfl) ?_ ?_ ?_ ?_
        · rintro _ ⟨⟩
        · rfl
        · rfl
        · rfl
      · refine inStep.of_controls inStep.transitions rfl (lowered rfl) ?_ ?_ ?_ ?_
        · rintro _ ⟨⟩
        · rfl
        · rfl
        · rfl
  · exact inStep

theorem InStep.give_up_resume (orderly : capture.Orderly .giveUpResume) :
    capture.giveUpResume.InStep := by
  unfold giveUpResume
  split
  · refine inStep.of_controls inStep.transitions rfl ?_ ?_ ?_ ?_ ?_
    · intro left
      have suspended := orderly left
      unfold CaptureControls.sensitiveTransitionShouldDefer lowerBarrier
      dsimp only
      rw [suspended]
      rfl
    · rintro _ ⟨⟩
    · rfl
    · rfl
    · rfl
  · exact inStep

theorem in_step_step {act : SensitiveAct} (orderly : capture.Orderly act) :
    (capture.step act).InStep := by
  have guarded {next : SensitiveCapture} (kept : next.InStep) :
      (if capture.announcedBoundary.isSome then capture else next).InStep := by
    split
    · exact inStep
    · exact kept
  cases act with
  | beginBoundary entered reason now =>
      change (if capture.announcedBoundary.isSome then capture
        else capture.beginBoundary entered reason now).InStep
      split
      · exact inStep
      · next free =>
        unfold beginBoundary
        split
        · exact inStep
        · have counted := inStep.transitions
          rw [Option.not_isSome_iff_eq_none.mp free] at counted
          change _ = 0 + _ + _ at counted
          refine inStep.begin_transition ?_ rfl rfl rfl rfl rfl rfl rfl
          change capture.controls.sensitiveTransitions + 1 =
            1 + capture.announcedSample.toList.length + capture.pendingSensitiveBoundaries.length
          omega
  | finishBoundary room delivered => exact inStep.finish_boundary room delivered
  | flushPendingSensitiveBoundaries room => exact guarded (inStep.flush_pending room)
  | send row room accepted => exact guarded (inStep.send row room accepted)
  | sendSystemCapture row accepted => exact inStep.send_system_capture row accepted
  | beginSample isPassword =>
      change (if capture.announcedSample.isSome then capture
        else { capture with announcedSample := some isPassword }.beginSensitiveTransition).InStep
      split
      · exact inStep
      · next free =>
        have counted := inStep.transitions
        rw [Option.not_isSome_iff_eq_none.mp free] at counted
        change _ = _ + 0 + _ at counted
        refine inStep.begin_transition ?_ rfl rfl rfl rfl rfl rfl rfl
        change capture.controls.sensitiveTransitions + 1 =
          capture.announcedBoundary.toList.length + 1 + capture.pendingSensitiveBoundaries.length
        omega
  | finishSample now sent => exact inStep.finish_sample now sent
  | setEnabled stream enabled =>
      exact inStep.of_controls inStep.transitions rfl inStep.off inStep.prepared rfl rfl rfl
  | suspend =>
      exact inStep.of_controls inStep.transitions rfl (fun _ => rfl) inStep.prepared rfl rfl rfl
  | restoreBaselineCapture =>
      refine inStep.of_controls inStep.transitions rfl ?_ inStep.prepared rfl rfl rfl
      exact fun left => (Bool.false_or _).trans (orderly left)
  | requestReseed =>
      exact inStep.of_controls inStep.transitions rfl inStep.off inStep.prepared rfl rfl rfl
  | checkRequestedReseed now => exact guarded (inStep.check_requested_reseed now)
  | beginResume =>
      change (if capture.resumeThread.isSome then capture else capture.beginResume).InStep
      split
      · exact inStep
      · refine inStep.of_controls inStep.transitions rfl ?_ ?_ ?_ ?_ ?_
        · exact fun _ => Bool.or_true _
        · rintro _ ⟨⟩
        · rfl
        · rfl
        · rfl
  | reconcileForResume now => exact guarded (inStep.reconcile_for_resume now)
  | finishResume boundaryWritten => exact inStep.finish_resume boundaryWritten
  | giveUpResume => exact inStep.give_up_resume orderly

end Steps

theorem in_step_new (streams : App.CaptureStream → Bool) (idleThresholdMs : UInt64) :
    (new streams idleThresholdMs).InStep where
  transitions := rfl
  told _ := rfl
  off left := nomatch left
  prepared _ prepared := nomatch prepared
  foreign := Finset.notMem_empty _
  rows index row here := by
    rw [show (new streams idleThresholdMs).channel[index]? = none from rfl] at here
    cases here

theorem in_step_run (streams : App.CaptureStream → Bool) (idleThresholdMs : UInt64)
    (acts : List SensitiveAct)
    (orderly : machine.AllSteps Orderly (new streams idleThresholdMs) acts) :
    (machine.run (new streams idleThresholdMs) acts).InStep :=
  machine.run_invariant_of_steps InStep Orderly
    (fun _ _ orderly inStep => in_step_step inStep orderly) (new streams idleThresholdMs) acts
    (in_step_new streams idleThresholdMs) orderly

/-- While capture is on, the channel tells exactly the reasons of the capture side. -/
theorem InStep.told_of_on {capture : SensitiveCapture} (inStep : capture.InStep)
    (on : capture.controls.isSuspended = false) :
    channelReasons capture.channel = capture.captureReasons := by
  unfold CaptureControls.isSuspended at on
  rw [Bool.or_eq_false_iff, decide_eq_false_iff_not, not_not] at on
  have counted := inStep.transitions
  rw [on.2] at counted
  have pending : capture.pendingSensitiveBoundaries = [] := by
    apply List.eq_nil_of_length_eq_zero
    omega
  have settled : capture.controls.sensitiveReconcilePending = false := by
    by_contra left
    rw [Bool.not_eq_false] at left
    have defer := inStep.off left
    rw [on.1] at defer
    cases defer
  have told := inStep.told settled
  unfold toldReasons at told
  rw [pending] at told
  exact told

end SensitiveCapture

section Writer

open Gilbreth.Core (ContentWithheld EventEnvelope Policy policyMachine replayBoundaries)

def Stamped (history : List EventEnvelope) (rows : List EnqueuedRow) : Prop :=
  history.map EventEnvelope.payload = rows.map fun row => row.captured.payload

theorem Stamped.replay {history : List EventEnvelope} {rows : List EnqueuedRow}
    (stamped : Stamped history rows) : replayBoundaries ∅ history = channelReasons rows := by
  have events : replayBoundaries ∅ history = (history.map EventEnvelope.payload).foldl
      (fun active payload => payload.boundaryStep active) ∅ := by
    unfold replayBoundaries
    rw [List.foldl_map]
  have channel : channelReasons rows = (rows.map fun row => row.captured.payload).foldl
      (fun active payload => payload.boundaryStep active) ∅ := by
    unfold channelReasons replayRows
    rw [List.foldl_map, List.foldl_map]
  rw [events, channel, stamped]

variable [Core.Externals]

theorem withheld_of_active {policy : Policy} {reason : SensitiveContextReason}
    {event stored : EventEnvelope} (enabled : policy.sensitiveContextSuppression = true)
    (active : reason ∈ policy.activeReasons) (ordinary : event.payload.isBoundary = false)
    (kept : (policy.apply event).2 = some stored) :
    ContentWithheld event.payload stored.payload := by
  rw [Policy.apply_eq] at kept
  split_ifs at kept with dropped
  have reasons : (policy.observed event.payload).activeReasons = policy.activeReasons := by
    rw [policy.reasons_observed enabled, if_neg dropped]
  have still : (policy.observed event.payload).sensitiveContextActive = true :=
    Policy.active_of_mem _ ((policy.suppression_observed _).trans enabled) (reasons ▸ active)
  have row : stored = (policy.observed event.payload).redactEvent
      { event with payload := policy.outbound event.payload } := by
    obtain rfl := Option.some.inj kept
    rw [Policy.apply_after_exclusions_event, Policy.is_boundary_outbound, ordinary,
      Bool.and_false]
    rfl
  have withheld := Policy.redact_event_withholds _ still
    { event with payload := policy.outbound event.payload }
  rw [row]
  refine { withheld with keyClass := fun unclassified => withheld.keyClass ?_ }
  rw [EventPayload.Unclassified, Policy.key_content_outbound]
  exact unclassified

namespace SensitiveCapture

/-- The writer's policy has every reason of the capture side when it meets an ordinary row, so the
content of what was captured in a sensitive context is withheld; and while capture is on, the two
sides have the same reasons. -/
theorem no_row_overtakes_its_boundary (streams : App.CaptureStream → Bool)
    (idleThresholdMs : UInt64) (acts : List SensitiveAct)
    (orderly : machine.AllSteps Orderly (new streams idleThresholdMs) acts) (policy : Policy)
    (enabled : policy.sensitiveContextSuppression = true) (fresh : policy.activeReasons = ∅) :
    (∀ index row history,
      (machine.run (new streams idleThresholdMs) acts).channel[index]? = some row →
      row.captured.payload.isBoundary = false →
      Stamped history ((machine.run (new streams idleThresholdMs) acts).channel.take index) →
        row.activeReasons ⊆ (policyMachine.run policy history).activeReasons ∧
        ∀ event stored, event.payload = row.captured.payload → row.activeReasons ≠ ∅ →
          ((policyMachine.run policy history).apply event).2 = some stored →
            ContentWithheld event.payload stored.payload) ∧
    ∀ history, (machine.run (new streams idleThresholdMs) acts).controls.isSuspended = false →
      Stamped history (machine.run (new streams idleThresholdMs) acts).channel →
        (policyMachine.run policy history).activeReasons =
          (machine.run (new streams idleThresholdMs) acts).captureReasons := by
  have inStep := in_step_run streams idleThresholdMs acts orderly
  constructor
  · intro index row history here ordinary stamped
    obtain ⟨still, reasons⟩ := policy.reasons_run enabled history
    rw [fresh, stamped.replay] at reasons
    have follows := inStep.rows index row here ordinary
    rw [← reasons] at follows
    refine ⟨follows, ?_⟩
    intro event stored same some_reason kept
    obtain ⟨reason, active⟩ := Finset.nonempty_iff_ne_empty.mpr some_reason
    exact withheld_of_active still (follows active) (same ▸ ordinary) kept
  · intro history on stamped
    obtain ⟨-, reasons⟩ := policy.reasons_run enabled history
    rw [reasons, fresh, stamped.replay]
    exact inStep.told_of_on on

end SensitiveCapture

end Writer

namespace SensitiveCapture

section Witness

open Gilbreth.Core (ContentWithheld EventEnvelope Policy policyMachine)

attribute [local instance] Core.asciiExternals

private def typedKey : OrdinaryRow :=
  ⟨⟨.keyboard, ⟨3⟩,
    .key "A" ⟨true, false, false, false⟩ (some ⟨1, "browser.exe", "Sign in", 7⟩) none⟩, rfl⟩

/-- The session is locked while the channel is full; the row waits in the queue, and the key that
is typed once it is in follows it. -/
private def lockedWhileFull : List SensitiveAct :=
  [.beginBoundary true .sessionLocked ⟨1⟩, .finishBoundary 0 false, .send typedKey 0 true,
    .flushPendingSensitiveBoundaries 1, .send typedKey 0 true]

private def lockedEvent : EventEnvelope :=
  ⟨Core.schemaVersion, 1, 1, Core.I64.ofInt 1000, .system, false,
    .sensitiveContextEntered .sessionLocked⟩

private def typedEvent : EventEnvelope :=
  ⟨Core.schemaVersion, 1, 2, Core.I64.ofInt 2000, .keyboard, false, typedKey.1.payload⟩

theorem no_row_overtakes_its_boundary_queued :
    ∃ row stored,
      (machine.run (new (fun _ => true) 1) lockedWhileFull).channel[1]? = some row ∧
      row.captured = typedKey.1 ∧
      ((policyMachine.run (Policy.identity.withSensitiveContextSuppression true)
        [lockedEvent]).apply typedEvent).2 = some stored ∧
      ContentWithheld typedEvent.payload stored.payload := by
  refine ⟨_, _, rfl, rfl, rfl, ?_⟩
  have orderly : machine.AllSteps Orderly (new (fun _ => true) 1) lockedWhileFull :=
    ⟨trivial, trivial, trivial, trivial, trivial, trivial⟩
  have follows := (no_row_overtakes_its_boundary (fun _ => true) 1 lockedWhileFull orderly
    (Policy.identity.withSensitiveContextSuppression true) rfl rfl).1 1 _ [lockedEvent] rfl rfl rfl
  exact follows.2 typedEvent _ rfl (by decide) rfl

/-- A password field takes the focus while capture is off for a recording. When the recording is
over capture is on again before the reseed that would reconcile. -/
private def reopenedBeforeReseed : List SensitiveAct :=
  [.suspend, .beginSample true, .finishSample ⟨1⟩ .delivered, .restoreBaselineCapture,
    .sendSystemCapture ⟨⟨.system, ⟨2⟩, .notificationsReceived (some "Mail") 1⟩, rfl⟩ true]

theorem row_overtakes_after_recording :
    ∃ row, (machine.run (new (fun _ => true) 1) reopenedBeforeReseed).channel = [row] ∧
      row.captured.payload.isBoundary = false ∧ row.activeReasons = {.passwordField} :=
  ⟨_, rfl, rfl, rfl⟩

end Witness

end SensitiveCapture

end Gilbreth.Windows
