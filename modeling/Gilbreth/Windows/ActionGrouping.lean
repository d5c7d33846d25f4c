import Mathlib.Algebra.Order.Group.Multiset
import Mathlib.Tactic.Abel
import Gilbreth.Library.InterruptedRuns
import Gilbreth.Windows.ActionCoalescer

/-!
# What the coalescer makes of a whole recording

The calls are grouped as a whole: maximal runs of scrolls, maximal runs of edit markers, and
the other drafts one by one. The three buffers hold the run, the run and the drafts that the
calls so far have left open.
-/

set_option autoImplicit false

namespace Gilbreth.Windows

open Core (ActionType ActionPayload ScrollDirection Modality Instant millisecond
  saturatingDurationSince)

namespace Call

def scrollDraft : Call → Option ActionDraft
  | .input (.action draft) => if draft.actionType = .scroll then some draft else none
  | _ => none

def plainDraft : Call → Option ActionDraft
  | .input (.action draft) => if draft.actionType = .scroll then none else some draft
  | _ => none

def editMarker : Call → Option PendingEdit
  | .input (.editMarker marker) => some marker
  | _ => none

/-- When the call was captured; a timer's look at the clock is not a capture. -/
def capturedAt : Call → Option Instant
  | .input (.action draft) => some draft.capturedAt
  | .input (.editMarker marker) => some marker.capturedAt
  | .input (.commitEdit capturedAt _) => some capturedAt
  | .input (.focusChanged capturedAt _) => some capturedAt
  | .input (.stop capturedAt _) => some capturedAt
  | .flushDue _ => none

/-- A timer call that comes before the scroll has been quiet for long enough. -/
def early (timing : CoalescerTiming) (last : ActionDraft) : Call → Bool
  | .flushDue now =>
      !decide (timing.scrollQuietMs * millisecond ≤ saturatingDurationSince now last.capturedAt)
  | .input _ => false

def isFlushDue : Call → Bool
  | .flushDue _ => true
  | .input _ => false

end Call

/-- Time and signal of the first input among the calls, or of the last `flush_all`. -/
def endsEdit (now : Instant) : List Call → Instant × EditCommitSignal
  | [] => (now, .stop)
  | .flushDue _ :: rest => endsEdit now rest
  | .input (.action draft) :: _ => (draft.capturedAt, .focusLoss)
  | .input (.editMarker marker) :: _ => (marker.capturedAt, .focusLoss)
  | .input (.commitEdit capturedAt signal) :: _ => (capturedAt, signal)
  | .input (.focusChanged capturedAt signal) :: _ => (capturedAt, signal)
  | .input (.stop capturedAt signal) :: _ => (capturedAt, signal)

/-- Scrolls of one target in one direction, with only early timer calls between them. -/
def scrollRule (timing : CoalescerTiming) : RunRule Call ActionDraft Unit where
  pick := Call.scrollDraft
  joins := fun last draft => decide (last.target.targetKey = draft.target.targetKey) &&
    sameScrollDirection last.payload draft.payload
  passes := Call.early timing
  closing := fun _ => ()

/-- Edit markers of one target, with only timer calls between them. -/
def editRule (now : Instant) : RunRule Call PendingEdit (Instant × EditCommitSignal) where
  pick := Call.editMarker
  joins := fun last marker => decide (last.target.targetKey = marker.target.targetKey)
  passes := fun _ => Call.isFlushDue
  closing := endsEdit now

/-- `saturating_add` over a list. -/
def saturatedSum (counts : List UInt32) : UInt32 :=
  UInt32.ofNat (min (counts.map UInt32.toNat).sum 4294967295)

/-- The sum, capped at 10 once there is something to add. -/
def cappedSum : List UInt8 → Option UInt8
  | [] => none
  | [only] => some only
  | buckets => some (UInt8.ofNat (min (buckets.map UInt8.toNat).sum 10))

def amountBucket : ActionPayload → Option UInt8
  | .scroll _ bucket _ _ => bucket
  | _ => none

/-- The counts and extremes of all the diagnostics, the rest of the first. -/
def mergedDiag (first : ActionDiag) (diags : List ActionDiag) : ActionDiag :=
  { first with
    repeatCount := saturatedSum (diags.map ActionDiag.repeatCount)
    callbackLatencyNs := (diags.map ActionDiag.callbackLatencyNs).foldl max 0
    eventToSelectorCompleteNs := (diags.map ActionDiag.eventToSelectorCompleteNs).foldl max 0
    queueDepthAtEnqueue := (diags.map ActionDiag.queueDepthAtEnqueue).foldl max 0 }

/-- A single scroll keeps its payload; several have the direction and the capped sum. -/
def mergedScroll (first : ActionDraft) (others : List ActionDraft) : ActionPayload :=
  match first.payload, others with
  | .scroll direction _ _ _, _ :: _ =>
      .scroll direction
        (cappedSum ((first :: others).filterMap fun draft => amountBucket draft.payload)) none none
  | payload, _ => payload

def ActionDraft.output (draft : ActionDraft) : CoalescedAction :=
  ⟨draft.target, draft.actionType, draft.payload, draft.patternAction, draft.capturedAt,
    draft.diag⟩

/-- A run of scrolls as one draft: what the first is, when the last was captured. -/
def mergedDraft (first : ActionDraft) (others : List ActionDraft) : ActionDraft :=
  { first with
    payload := mergedScroll first others
    capturedAt := (others.getLastD first).capturedAt
    diag := mergedDiag first.diag ((first :: others).map ActionDraft.diag) }

/-- A run of edit markers as one: the first modality that any of them knows. -/
def mergedEdit (first : PendingEdit) (others : List PendingEdit) : PendingEdit :=
  { target := first.target
    capturedAt := (others.getLastD first).capturedAt
    fromModality := (first :: others).findSome? PendingEdit.fromModality
    diag := mergedDiag first.diag ((first :: others).map PendingEdit.diag) }

def PendingEdit.committed (edit : PendingEdit) (capturedAt : Instant)
    (signal : EditCommitSignal) : CoalescedAction :=
  { target := edit.target
    actionType := .editCommitted
    payload := .editCommitted edit.fromModality none
    patternAction := some "edit_committed"
    capturedAt := capturedAt
    diag := { edit.diag with
      actionType := some .editCommitted, editCommitSignal := some signal } }

def scrollOutput : List ActionDraft × Unit → List CoalescedAction
  | ([], _) => []
  | (first :: others, _) => [(mergedDraft first others).output]

def editOutput : List PendingEdit × Instant × EditCommitSignal → List CoalescedAction
  | ([], _) => []
  | (first :: others, capturedAt, signal) =>
      [(mergedEdit first others).committed capturedAt signal]

def ActionDraft.key (draft : ActionDraft) : String × ActionType :=
  (draft.target.targetKey, draft.actionType)

def lastEmitted (emitted : List ActionDraft) (key : String × ActionType) : Option ActionDraft :=
  emitted.reverse.find? fun draft => draft.key == key

/-- The draft repeats what its target and action type last emitted, within the window. -/
def repeats (timing : CoalescerTiming) (emitted : List ActionDraft) (draft : ActionDraft) : Bool :=
  (lastEmitted emitted draft.key).any fun last => last.payload == draft.payload &&
    decide (saturatingDurationSince draft.capturedAt last.capturedAt ≤
      timing.dedupWindowMs * millisecond)

/-- The drafts that are emitted after some already were. -/
def emittedAfter (timing : CoalescerTiming) (emitted : List ActionDraft) :
    List ActionDraft → List ActionDraft
  | [] => []
  | draft :: rest =>
      if repeats timing emitted draft then emittedAfter timing emitted rest
      else draft :: emittedAfter timing (emitted ++ [draft]) rest

section Merging

theorem saturated_sum_append (counts : List UInt32) (count : UInt32) :
    saturatedSum (counts ++ [count]) = saturatingAddU32 (saturatedSum counts) count := by
  have bounded := count.toNat_lt
  apply UInt32.toNat_inj.mp
  simp only [saturatedSum, saturatingAddU32, List.map_append, List.sum_append, List.map_singleton,
    List.sum_singleton, UInt32.toNat_ofNat']
  omega

theorem saturated_sum_singleton (count : UInt32) : saturatedSum [count] = count := by
  have bounded := count.toNat_lt
  apply UInt32.toNat_inj.mp
  simp only [saturatedSum, List.map_singleton, List.sum_singleton, UInt32.toNat_ofNat']
  omega

theorem capped_add_to_nat (bucket other : UInt8) :
    (min (saturatingAddU8 bucket other) 10).toNat = min (bucket.toNat + other.toNat) 10 := by
  have whole : (saturatingAddU8 bucket other).toNat = min (bucket.toNat + other.toNat) 255 := by
    simp only [saturatingAddU8, UInt8.toNat_ofNat']
    omega
  have ten : (10 : UInt8).toNat = 10 := rfl
  change (if saturatingAddU8 bucket other ≤ 10 then saturatingAddU8 bucket other else 10).toNat = _
  simp only [UInt8.le_iff_toNat_le]
  split_ifs <;> omega

theorem capped_sum_append (buckets : List UInt8) (bucket : Option UInt8) :
    mergeAmountBucket (cappedSum buckets) bucket = cappedSum (buckets ++ bucket.toList) := by
  cases bucket with
  | none =>
      rw [Option.toList_none, List.append_nil]
      cases cappedSum buckets <;> rfl
  | some bucket =>
      rw [Option.toList_some]
      cases buckets with
      | nil => rfl
      | cons first rest =>
          rw [List.cons_append]
          cases rest with
          | nil =>
              rw [List.nil_append]
              apply congrArg some
              apply UInt8.toNat_inj.mp
              rw [capped_add_to_nat, UInt8.toNat_ofNat']
              simp only [List.map_cons, List.map_nil, List.sum_cons, List.sum_nil]
              omega
          | cons second rest =>
              rw [List.cons_append]
              apply congrArg some
              apply UInt8.toNat_inj.mp
              rw [capped_add_to_nat, UInt8.toNat_ofNat', UInt8.toNat_ofNat']
              simp only [List.map_append, List.map_cons, List.map_nil, List.sum_append,
                List.sum_cons, List.sum_nil]
              omega

theorem merged_diag_append (first : ActionDiag) (diags : List ActionDiag) (diag : ActionDiag) :
    mergedDiag first (diags ++ [diag]) = mergeActionDiag (mergedDiag first diags) diag := by
  simp [mergedDiag, mergeActionDiag, saturated_sum_append]

theorem merged_diag_single (diag : ActionDiag) : mergedDiag diag [diag] = diag := by
  simp [mergedDiag, saturated_sum_singleton]

def scrollDirection : ActionPayload → Option ScrollDirection
  | .scroll direction _ _ _ => some direction
  | _ => none

theorem same_direction_iff (payload other : ActionPayload) :
    sameScrollDirection payload other = true ↔
      ∃ direction, scrollDirection payload = some direction ∧
        scrollDirection other = some direction := by
  cases payload with
  | scroll direction =>
      cases other with
      | scroll next =>
          simp only [sameScrollDirection, scrollDirection, beq_iff_eq, Option.some.injEq,
            exists_eq_left']
          exact eq_comm
      | _ => simp [sameScrollDirection, scrollDirection]
  | _ => simp [sameScrollDirection, scrollDirection]

theorem merged_scroll_direction (first : ActionDraft) (others : List ActionDraft) :
    scrollDirection (mergedScroll first others) = scrollDirection first.payload := by
  unfold mergedScroll
  cases first.payload <;> cases others <;> rfl

theorem merged_scroll_append {first draft : ActionDraft} (others : List ActionDraft)
    (same : sameScrollDirection (mergedScroll first others) draft.payload = true) :
    mergedScroll first (others ++ [draft]) =
      mergeScrollPayload (mergedScroll first others) draft.payload := by
  have ⟨direction, isFirst, isDraft⟩ := (same_direction_iff _ _).mp same
  rw [merged_scroll_direction] at isFirst
  cases firstPayload : first.payload with
  | scroll firstDirection firstBucket firstModality firstCorroborates =>
      cases draftPayload : draft.payload with
      | scroll draftDirection draftBucket draftModality draftCorroborates =>
          have buckets : ((first :: (others ++ [draft])).filterMap
              fun draft => amountBucket draft.payload) =
              ((first :: others).filterMap fun draft => amountBucket draft.payload) ++
                draftBucket.toList := by
            rw [← List.cons_append, List.filterMap_append]
            congr 1
            rw [List.filterMap_cons, draftPayload]
            cases draftBucket <;> rfl
          have amount : mergedScroll first others = .scroll firstDirection
              (cappedSum ((first :: others).filterMap fun draft => amountBucket draft.payload))
              (if others = [] then firstModality else none)
              (if others = [] then firstCorroborates else none) := by
            unfold mergedScroll
            rw [firstPayload]
            cases others with
            | nil =>
                rw [List.filterMap_cons, firstPayload]
                cases firstBucket <;> rfl
            | cons other others => simp
          rw [amount, mergeScrollPayload, capped_sum_append, ← buckets]
          unfold mergedScroll
          rw [firstPayload]
          cases others <;> rfl
      | _ => simp [draftPayload, scrollDirection] at isDraft
  | _ => simp [firstPayload, scrollDirection] at isFirst

end Merging

/-- The scroll buffer while a run of scrolls is open. -/
def scrollPending : List ActionDraft → Option PendingScroll
  | [] => none
  | first :: others => some ⟨mergedDraft first others, (others.getLastD first).capturedAt⟩

/-- The edit buffer while a run of edit markers is open. -/
def editPending : List PendingEdit → Option PendingEdit
  | [] => none
  | first :: others => some (mergedEdit first others)

theorem scroll_pending_single (draft : ActionDraft) :
    scrollPending [draft] = some ⟨draft, draft.capturedAt⟩ := by
  simp [scrollPending, mergedDraft, mergedScroll, merged_diag_single]

theorem edit_pending_single (marker : PendingEdit) : editPending [marker] = some marker := by
  cases marker with
  | mk target capturedAt fromModality diag =>
      cases fromModality <;> simp [editPending, mergedEdit, merged_diag_single]

theorem scroll_pending_append {first draft : ActionDraft} (others : List ActionDraft)
    (same : sameScrollDirection (mergedScroll first others) draft.payload = true) :
    scrollPending (first :: others ++ [draft]) = some
      { draft := { mergedDraft first others with
          capturedAt := draft.capturedAt
          payload := mergeScrollPayload (mergedDraft first others).payload draft.payload
          diag := mergeActionDiag (mergedDraft first others).diag draft.diag }
        lastSeen := draft.capturedAt } := by
  have diag := merged_diag_append first.diag ((first :: others).map ActionDraft.diag) draft.diag
  rw [← List.map_singleton, ← List.map_append, List.cons_append] at diag
  rw [List.cons_append, scrollPending]
  simp only [mergedDraft, merged_scroll_append others same, diag, List.getLastD_concat]

theorem edit_pending_append (first marker : PendingEdit) (others : List PendingEdit) :
    editPending (first :: others ++ [marker]) = some
      { mergedEdit first others with
        capturedAt := marker.capturedAt
        fromModality := (mergedEdit first others).fromModality.or marker.fromModality
        diag := mergeActionDiag (mergedEdit first others).diag marker.diag } := by
  have diag := merged_diag_append first.diag ((first :: others).map PendingEdit.diag) marker.diag
  rw [← List.map_singleton, ← List.map_append, List.cons_append] at diag
  have modality : (first :: others ++ [marker]).findSome? PendingEdit.fromModality =
      ((first :: others).findSome? PendingEdit.fromModality).or marker.fromModality := by
    rw [List.findSome?_append, List.findSome?_singleton]
  rw [List.cons_append] at modality ⊢
  rw [editPending]
  simp only [mergedEdit, modality, diag, List.getLastD_concat]

/-- The scrolls of an open run have one target and one direction. -/
structure OneScroll (scrolls : List ActionDraft) : Prop where
  scroll : ∀ draft ∈ scrolls, draft.actionType = .scroll
  target : ∀ draft ∈ scrolls, ∀ other ∈ scrolls, draft.target.targetKey = other.target.targetKey
  direction : ∀ draft ∈ scrolls, ∀ other ∈ scrolls,
    scrollDirection draft.payload = scrollDirection other.payload

/-- What the three buffers hold. -/
structure Tracks (timing : CoalescerTiming) (coalescer : ActionCoalescer)
    (scrolls : List ActionDraft) (edits : List PendingEdit) (emitted : List ActionDraft) :
    Prop where
  timing : coalescer.timing = timing
  scroll : coalescer.pendingScroll = scrollPending scrolls
  edit : coalescer.pendingEdit = editPending edits
  oneScroll : OneScroll scrolls
  oneTarget : ∀ marker ∈ edits, ∀ other ∈ edits,
    marker.target.targetKey = other.target.targetKey
  apart : scrolls = [] ∨ edits = []
  memory : ∀ key, key.2 ≠ .scroll → coalescer.lastByTargetAction.lookup key =
    (lastEmitted emitted key).map fun draft => (draft.payload, draft.capturedAt)

theorem one_scroll_nil : OneScroll [] := ⟨by simp, by simp, by simp⟩

theorem one_scroll_single {draft : ActionDraft} (scroll : draft.actionType = .scroll) :
    OneScroll [draft] := ⟨by simpa, by simp, by simp⟩

theorem one_scroll_append {first draft : ActionDraft} {others : List ActionDraft}
    (one : OneScroll (first :: others)) (scroll : draft.actionType = .scroll)
    (target : first.target.targetKey = draft.target.targetKey)
    (direction : scrollDirection first.payload = scrollDirection draft.payload) :
    OneScroll (first :: others ++ [draft]) := by
  have targets : ∀ next ∈ first :: others ++ [draft],
      next.target.targetKey = first.target.targetKey := by
    intro next member
    rcases List.mem_append.mp member with earlier | last
    · exact one.target next earlier first List.mem_cons_self
    · rw [List.mem_singleton.mp last, target]
  have directions : ∀ next ∈ first :: others ++ [draft],
      scrollDirection next.payload = scrollDirection first.payload := by
    intro next member
    rcases List.mem_append.mp member with earlier | last
    · exact one.direction next earlier first List.mem_cons_self
    · rw [List.mem_singleton.mp last, direction]
  refine ⟨?_, ?_, ?_⟩
  · intro next member
    rcases List.mem_append.mp member with earlier | last
    · exact one.scroll next earlier
    · rw [List.mem_singleton.mp last, scroll]
  · intro next member other among
    rw [targets next member, targets other among]
  · intro next member other among
    rw [directions next member, directions other among]

namespace Tracks

variable {timing : CoalescerTiming} {coalescer : ActionCoalescer} {scrolls : List ActionDraft}
  {edits : List PendingEdit} {emitted : List ActionDraft}

theorem new (timing : CoalescerTiming) : Tracks timing (.new timing) [] [] [] :=
  ⟨rfl, rfl, rfl, one_scroll_nil, by simp, Or.inl rfl, fun _ _ => rfl⟩

theorem emit_scroll (tracks : Tracks timing coalescer scrolls edits emitted) (draft : ActionDraft)
    (scroll : draft.actionType = .scroll) :
    ∀ key, key.2 ≠ .scroll →
      (coalescer.emitDraft draft).1.lastByTargetAction.lookup key =
        (lastEmitted emitted key).map fun draft => (draft.payload, draft.capturedAt) := by
  intro key other
  rw [← tracks.memory key other]
  apply AList.lookup_insert_ne
  intro same
  rw [same] at other
  exact other scroll

theorem flush_pending_scroll (tracks : Tracks timing coalescer scrolls edits emitted) :
    Tracks timing coalescer.flushPendingScroll.1 [] edits emitted ∧
      coalescer.flushPendingScroll.2 = scrollOutput (scrolls, ()) := by
  unfold ActionCoalescer.flushPendingScroll
  rw [tracks.scroll]
  cases scrolls with
  | nil => exact ⟨tracks, rfl⟩
  | cons first others =>
      refine ⟨⟨tracks.timing, rfl, tracks.edit, one_scroll_nil, tracks.oneTarget, Or.inl rfl,
        ?_⟩, rfl⟩
      exact tracks.emit_scroll (mergedDraft first others)
        (tracks.oneScroll.scroll first List.mem_cons_self)

theorem flush_edit (tracks : Tracks timing coalescer scrolls edits emitted)
    (capturedAt : Instant) (signal : EditCommitSignal) :
    Tracks timing (coalescer.flushEdit capturedAt signal).1 scrolls [] emitted ∧
      (coalescer.flushEdit capturedAt signal).2 = editOutput (edits, capturedAt, signal) := by
  unfold ActionCoalescer.flushEdit
  rw [tracks.edit]
  cases edits with
  | nil => exact ⟨tracks, rfl⟩
  | cons first others =>
      exact ⟨⟨tracks.timing, tracks.scroll, rfl, tracks.oneScroll, by simp, Or.inr rfl,
        tracks.memory⟩, rfl⟩

theorem flush_all (tracks : Tracks timing coalescer scrolls edits emitted)
    (capturedAt : Instant) (signal : EditCommitSignal) :
    Tracks timing (coalescer.flushAllWithSignal capturedAt signal).1 [] [] emitted ∧
      (coalescer.flushAllWithSignal capturedAt signal).2 =
        scrollOutput (scrolls, ()) ++ editOutput (edits, capturedAt, signal) := by
  have scrolled := tracks.flush_pending_scroll
  have edited := scrolled.1.flush_edit capturedAt signal
  refine ⟨edited.1, ?_⟩
  change _ ++ _ = _
  rw [scrolled.2, edited.2]

theorem is_duplicate (tracks : Tracks timing coalescer scrolls edits emitted)
    {draft : ActionDraft} (plain : draft.actionType ≠ .scroll) :
    coalescer.isDuplicate draft = repeats timing emitted draft := by
  unfold ActionCoalescer.isDuplicate repeats
  rw [tracks.memory (draft.target.targetKey, draft.actionType) plain, tracks.timing]
  change _ = (lastEmitted emitted (draft.target.targetKey, draft.actionType)).any _
  cases lastEmitted emitted (draft.target.targetKey, draft.actionType) <;> rfl

theorem emit_plain (tracks : Tracks timing coalescer scrolls edits emitted)
    (draft : ActionDraft) :
    Tracks timing (coalescer.emitDraft draft).1 scrolls edits (emitted ++ [draft]) ∧
      (coalescer.emitDraft draft).2 = draft.output := by
  refine ⟨⟨tracks.timing, tracks.scroll, tracks.edit, tracks.oneScroll, tracks.oneTarget,
    tracks.apart, ?_⟩, rfl⟩
  intro key other
  change (coalescer.lastByTargetAction.insert draft.key _).lookup key = _
  unfold lastEmitted
  rw [List.reverse_append, List.reverse_singleton, List.singleton_append, List.find?_cons]
  by_cases same : draft.key = key
  · rw [← same, AList.lookup_insert, beq_self_eq_true]
    rfl
  · rw [AList.lookup_insert_ne (Ne.symm same), beq_false_of_ne same]
    exact tracks.memory key other

end Tracks

theorem scroll_blank (closing : Unit) : scrollOutput ([], closing) = [] := rfl

theorem edit_blank (closing : Instant × EditCommitSignal) : editOutput ([], closing) = [] := rfl

/-- What is still to come out, given the open runs and the drafts already emitted. -/
def remaining (timing : CoalescerTiming) (now : Instant) (scrolls : List ActionDraft)
    (edits : List PendingEdit) (emitted : List ActionDraft) (calls : List Call) :
    Multiset CoalescedAction :=
  ((scrollRule timing).runsAfter scrolls calls).flatMap scrollOutput +
    ((editRule now).runsAfter edits calls).flatMap editOutput +
    ((emittedAfter timing emitted (calls.filterMap Call.plainDraft)).map ActionDraft.output :
      List CoalescedAction)

section Remaining

variable (timing : CoalescerTiming) (now : Instant) (scrolls : List ActionDraft)
  (edits : List PendingEdit) (emitted : List ActionDraft)

theorem remaining_stop {input : CoalescerInput} (notScroll : (Call.input input).scrollDraft = none)
    (notMarker : (Call.input input).editMarker = none) (rest : List Call) :
    remaining timing now scrolls edits emitted (.input input :: rest) =
      ((scrollOutput (scrolls, ()) ++ editOutput (edits, endsEdit now (.input input :: rest)) :
          List CoalescedAction) : Multiset CoalescedAction) +
        (((scrollRule timing).runsAfter [] rest).flatMap scrollOutput +
          ((editRule now).runsAfter [] rest).flatMap editOutput +
          ((emittedAfter timing emitted
            ((Call.input input :: rest).filterMap Call.plainDraft)).map ActionDraft.output :
              List CoalescedAction)) := by
  unfold remaining
  rw [(scrollRule timing).outputs_stop scroll_blank notScroll (fun _ _ => rfl),
    (editRule now).outputs_stop edit_blank notMarker (fun _ _ => rfl)]
  have ends : (editRule now).closing (.input input :: rest) =
      endsEdit now (.input input :: rest) := rfl
  rw [ends]
  simp only [← Multiset.coe_add]
  abel

theorem remaining_end :
    remaining timing now scrolls edits emitted [] =
      ((scrollOutput (scrolls, ()) ++ editOutput (edits, now, .stop) : List CoalescedAction) :
        Multiset CoalescedAction) := by
  unfold remaining
  rw [(scrollRule timing).outputs_end scroll_blank, (editRule now).outputs_end edit_blank]
  simp only [← Multiset.coe_add]
  change _ + _ + ((([] : List CoalescedAction)) : Multiset CoalescedAction) = _
  rw [Multiset.coe_nil, add_zero]
  rfl

/-- A timer call leaves the open edit, and the scroll as well while it comes early. -/
theorem remaining_timer {time : Instant} (rest : List Call) :
    remaining timing now scrolls edits emitted (.flushDue time :: rest) =
      ((scrollRule timing).runsAfter scrolls (.flushDue time :: rest)).flatMap scrollOutput +
        ((editRule now).runsAfter edits rest).flatMap editOutput +
        ((emittedAfter timing emitted (rest.filterMap Call.plainDraft)).map ActionDraft.output :
          List CoalescedAction) := by
  unfold remaining
  rw [(editRule now).outputs_pass rfl (fun _ _ => rfl) rfl]
  rfl

end Remaining

theorem last_of_cons {Item : Type} (first : Item) (others : List Item) :
    (first :: others).getLast? = some (others.getLastD first) := by
  rw [List.getLast?_cons, List.getLastD_eq_getLast?]

section Steps

variable {timing : CoalescerTiming} {coalescer : ActionCoalescer} {scrolls : List ActionDraft}
  {edits : List PendingEdit} {emitted : List ActionDraft}

/-- A step puts out what it takes from the rest and tracks what it leaves. -/
def Advances (timing : CoalescerTiming) (now : Instant) (scrolls : List ActionDraft)
    (edits : List PendingEdit) (emitted : List ActionDraft) (call : Call)
    (stepped : ActionCoalescer × List CoalescedAction) : Prop :=
  ∃ nextScrolls nextEdits nextEmitted,
    Tracks timing stepped.1 nextScrolls nextEdits nextEmitted ∧
    ∀ rest, remaining timing now scrolls edits emitted (call :: rest) =
      (stepped.2 : Multiset CoalescedAction) +
        remaining timing now nextScrolls nextEdits nextEmitted rest

theorem boundary_advances (tracks : Tracks timing coalescer scrolls edits emitted) (now : Instant)
    {input : CoalescerInput} {capturedAt : Instant} {signal : EditCommitSignal}
    (notScroll : (Call.input input).scrollDraft = none)
    (notMarker : (Call.input input).editMarker = none)
    (notPlain : (Call.input input).plainDraft = none)
    (ends : ∀ rest, endsEdit now (.input input :: rest) = (capturedAt, signal)) :
    Advances timing now scrolls edits emitted (.input input)
      (coalescer.flushAllWithSignal capturedAt signal) := by
  have flushed := tracks.flush_all capturedAt signal
  refine ⟨[], [], emitted, flushed.1, ?_⟩
  intro rest
  rw [remaining_stop _ _ _ _ _ notScroll notMarker, flushed.2, ends, List.filterMap_cons, notPlain]
  rfl

theorem plain_advances (tracks : Tracks timing coalescer scrolls edits emitted) (now : Instant)
    {draft : ActionDraft} (plain : draft.actionType ≠ .scroll) :
    Advances timing now scrolls edits emitted (.input (.action draft))
      (coalescer.handleNonScroll draft) := by
  have flushed := tracks.flush_all draft.capturedAt .focusLoss
  have notScroll : (Call.input (.action draft)).scrollDraft = none := if_neg plain
  have isPlain : (Call.input (.action draft)).plainDraft = some draft := if_neg plain
  have duplicate := flushed.1.is_duplicate plain
  unfold ActionCoalescer.handleNonScroll
  dsimp only
  rw [duplicate]
  cases repeated : repeats timing emitted draft with
  | true =>
      rw [if_pos rfl]
      refine ⟨[], [], emitted, flushed.1, ?_⟩
      intro rest
      rw [remaining_stop _ _ _ _ _ notScroll rfl, flushed.2, List.filterMap_cons, isPlain]
      dsimp only
      rw [emittedAfter, if_pos repeated]
      rfl
  | false =>
      rw [if_neg Bool.false_ne_true]
      have emits := flushed.1.emit_plain draft
      refine ⟨[], [], emitted ++ [draft], emits.1, ?_⟩
      intro rest
      have ends : endsEdit now (.input (.action draft) :: rest) =
          (draft.capturedAt, .focusLoss) := rfl
      rw [remaining_stop _ _ _ _ _ notScroll rfl, flushed.2, emits.2, ends, List.filterMap_cons,
        isPlain]
      dsimp only
      rw [emittedAfter, if_neg (by rw [repeated]; exact Bool.false_ne_true), List.map_cons,
        ← Multiset.cons_coe, ← Multiset.singleton_add]
      change ((_ ++ _ : List CoalescedAction) : Multiset CoalescedAction) + _ =
        ((_ ++ _ : List CoalescedAction) : Multiset CoalescedAction) + _
      unfold remaining
      simp only [← Multiset.coe_add, Multiset.coe_singleton]
      abel

theorem flush_due_pending {pending : PendingScroll} (now : Instant)
    (isOpen : coalescer.pendingScroll = some pending) :
    coalescer.flushDue now =
      if coalescer.timing.scrollQuietMs * millisecond ≤
          saturatingDurationSince now pending.lastSeen
      then coalescer.flushPendingScroll else (coalescer, []) := by
  unfold ActionCoalescer.flushDue ActionCoalescer.flushPendingScroll
  rw [isOpen]

theorem timer_advances (tracks : Tracks timing coalescer scrolls edits emitted)
    (now time : Instant) :
    Advances timing now scrolls edits emitted (.flushDue time) (coalescer.flushDue time) := by
  cases scrolls with
  | nil =>
      have idle : coalescer.flushDue time = (coalescer, []) := by
        unfold ActionCoalescer.flushDue
        rw [tracks.scroll]
        rfl
      rw [idle]
      refine ⟨[], edits, emitted, tracks, ?_⟩
      intro rest
      rw [remaining_timer, (scrollRule timing).runs_after_idle rfl]
      exact (zero_add _).symm
  | cons first others =>
      have isLast := last_of_cons first others
      rw [flush_due_pending time tracks.scroll, tracks.timing]
      by_cases due : timing.scrollQuietMs * millisecond ≤
          saturatingDurationSince time (others.getLastD first).capturedAt
      · rw [if_pos due]
        have flushed := tracks.flush_pending_scroll
        refine ⟨[], edits, emitted, flushed.1, ?_⟩
        intro rest
        have stopped : (scrollRule timing).passes (others.getLastD first) (.flushDue time) =
            false := congrArg not (decide_eq_true due)
        rw [remaining_timer, (scrollRule timing).runs_after_stop rfl isLast stopped,
          List.flatMap_cons, ← Multiset.coe_add, flushed.2]
        unfold remaining
        rw [add_assoc, add_assoc, add_assoc]
      · rw [if_neg due]
        refine ⟨first :: others, edits, emitted, tracks, ?_⟩
        intro rest
        have passed : (scrollRule timing).passes (others.getLastD first) (.flushDue time) =
            true := congrArg not (decide_eq_false due)
        rw [remaining_timer, (scrollRule timing).runs_after_pass rfl isLast passed rfl]
        exact (zero_add _).symm

theorem scroll_joins_iff {first : ActionDraft} (draft : ActionDraft)
    {others : List ActionDraft}
    (one : OneScroll (first :: others)) :
    (scrollRule timing).joins (others.getLastD first) draft =
      decide ((mergedDraft first others).target.targetKey = draft.target.targetKey ∧
        sameScrollDirection (mergedDraft first others).payload draft.payload = true) := by
  have member := List.mem_of_getLast? (last_of_cons first others)
  have target := one.target _ member first List.mem_cons_self
  have direction := one.direction _ member first List.mem_cons_self
  rw [← merged_scroll_direction first others] at direction
  have same : sameScrollDirection (others.getLastD first).payload draft.payload =
      sameScrollDirection (mergedDraft first others).payload draft.payload := by
    rw [Bool.eq_iff_iff, same_direction_iff, same_direction_iff, direction]
    rfl
  change (decide _ && _) = _
  rw [same, target, Bool.decide_and, Bool.decide_eq_true]
  rfl

theorem scroll_advances (tracks : Tracks timing coalescer scrolls edits emitted) (now : Instant)
    {draft : ActionDraft} (scroll : draft.actionType = .scroll) :
    Advances timing now scrolls edits emitted (.input (.action draft))
      (coalescer.handleScroll draft) := by
  have edited := tracks.flush_edit draft.capturedAt .focusLoss
  have picked : (scrollRule timing).pick (.input (.action draft)) = some draft := if_pos scroll
  have notPlain : (Call.input (.action draft)).plainDraft = none := if_pos scroll
  have edit : ∀ rest, ((editRule now).runsAfter edits (.input (.action draft) :: rest)).flatMap
      editOutput = editOutput (edits, draft.capturedAt, .focusLoss) ++
        ((editRule now).runsAfter [] rest).flatMap editOutput :=
    fun rest => (editRule now).outputs_stop edit_blank rfl (fun _ _ => rfl) rest
  unfold ActionCoalescer.handleScroll
  dsimp only
  cases scrolls with
  | nil =>
      rw [edited.1.scroll]
      refine ⟨[draft], [], emitted, ⟨edited.1.timing, (scroll_pending_single draft).symm,
        edited.1.edit, one_scroll_single scroll, by simp, Or.inr rfl, edited.1.memory⟩, ?_⟩
      intro rest
      unfold remaining
      rw [edit, (scrollRule timing).runs_after_open picked, List.filterMap_cons, notPlain]
      dsimp only [scrollPending]
      rw [edited.2, ← Multiset.coe_add]
      abel
  | cons first others =>
      have isLast := last_of_cons first others
      have joins : (scrollRule timing).joins (others.getLastD first) draft = _ :=
        scroll_joins_iff draft edited.1.oneScroll
      rw [edited.1.scroll]
      dsimp only [scrollPending]
      by_cases fits : (mergedDraft first others).target.targetKey = draft.target.targetKey ∧
          sameScrollDirection (mergedDraft first others).payload draft.payload = true
      · rw [if_pos fits]
        rw [decide_eq_true fits] at joins
        have ⟨direction, isMerged, isDraft⟩ := (same_direction_iff _ _).mp fits.2
        have sameDirection : scrollDirection first.payload = scrollDirection draft.payload := by
          rw [← merged_scroll_direction first others, isDraft]
          exact isMerged
        refine ⟨first :: others ++ [draft], [], emitted, ⟨edited.1.timing,
          (scroll_pending_append others fits.2).symm, edited.1.edit,
          one_scroll_append edited.1.oneScroll scroll fits.1 sameDirection, by simp, Or.inr rfl,
          edited.1.memory⟩, ?_⟩
        intro rest
        unfold remaining
        rw [edit, (scrollRule timing).runs_after_join picked isLast joins, List.filterMap_cons,
          notPlain]
        dsimp only
        rw [edited.2, ← Multiset.coe_add]
        abel
      · rw [if_neg fits]
        rw [decide_eq_false fits] at joins
        refine ⟨[draft], [], emitted, ⟨edited.1.timing, (scroll_pending_single draft).symm,
          edited.1.edit, one_scroll_single scroll, by simp, Or.inr rfl, ?_⟩, ?_⟩
        · exact edited.1.emit_scroll (mergedDraft first others)
            (edited.1.oneScroll.scroll first List.mem_cons_self)
        · intro rest
          unfold remaining
          rw [edit, (scrollRule timing).runs_after_break picked isLast joins, List.flatMap_cons,
            List.filterMap_cons, notPlain]
          dsimp only
          rw [edited.2, ← Multiset.coe_add, ← Multiset.coe_add, ← Multiset.coe_add]
          change (scrollOutput (first :: others, ()) : Multiset CoalescedAction) + _ + _ + _ =
            _ + (scrollOutput (first :: others, ()) : Multiset CoalescedAction) + _
          abel

theorem restart_tracks (tracks : Tracks timing coalescer [] edits emitted)
    (marker : PendingEdit) :
    Tracks timing { (coalescer.flushEdit marker.capturedAt .focusLoss).1 with
      pendingEdit := some marker } [] [marker] emitted := by
  have edited := tracks.flush_edit marker.capturedAt .focusLoss
  exact ⟨edited.1.timing, edited.1.scroll, (edit_pending_single marker).symm, one_scroll_nil,
    by simp, Or.inl rfl, edited.1.memory⟩

theorem marker_advances (tracks : Tracks timing coalescer scrolls edits emitted) (now : Instant)
    (marker : PendingEdit) :
    Advances timing now scrolls edits emitted (.input (.editMarker marker))
      (coalescer.handleEditMarker marker) := by
  have scrolled := tracks.flush_pending_scroll
  have edited := scrolled.1.flush_edit marker.capturedAt .focusLoss
  have picked : (editRule now).pick (.input (.editMarker marker)) = some marker := rfl
  have scroll : ∀ rest, ((scrollRule timing).runsAfter scrolls
      (.input (.editMarker marker) :: rest)).flatMap scrollOutput =
      scrollOutput (scrolls, ()) ++ ((scrollRule timing).runsAfter [] rest).flatMap scrollOutput :=
    fun rest => (scrollRule timing).outputs_stop scroll_blank rfl (fun _ _ => rfl) rest
  have restarts : (∀ last, edits.getLast? = some last → (editRule now).joins last marker = false) →
      ∀ rest, remaining timing now scrolls edits emitted (.input (.editMarker marker) :: rest) =
        ((coalescer.flushPendingScroll.2 ++
          (coalescer.flushPendingScroll.1.flushEdit marker.capturedAt .focusLoss).2 :
            List CoalescedAction) : Multiset CoalescedAction) +
          remaining timing now [] [marker] emitted rest := by
    intro others rest
    have ends : (editRule now).closing (.input (.editMarker marker) :: rest) =
        (marker.capturedAt, .focusLoss) := rfl
    unfold remaining
    rw [scroll, (editRule now).outputs_break edit_blank picked others, ends, scrolled.2, edited.2]
    simp only [← Multiset.coe_add]
    change _ + ((List.map ActionDraft.output
      (emittedAfter timing emitted (rest.filterMap Call.plainDraft)) : List CoalescedAction) :
        Multiset CoalescedAction) = _
    abel
  unfold ActionCoalescer.handleEditMarker
  dsimp only
  rw [scrolled.1.edit]
  cases edits with
  | nil =>
      refine ⟨[], [marker], emitted, restart_tracks scrolled.1 marker, restarts ?_⟩
      intro last isLast
      cases isLast
  | cons first others =>
      have isLast := last_of_cons first others
      have sameFirst := scrolled.1.oneTarget _ (List.mem_of_getLast? isLast) first
        List.mem_cons_self
      dsimp only [editPending]
      by_cases fits : (mergedEdit first others).target.targetKey = marker.target.targetKey
      · rw [if_pos fits]
        have joins : (editRule now).joins (others.getLastD first) marker = true :=
          decide_eq_true (sameFirst.trans fits)
        have targets : ∀ next ∈ first :: others ++ [marker],
            next.target.targetKey = marker.target.targetKey := by
          intro next member
          rcases List.mem_append.mp member with earlier | last
          · exact (scrolled.1.oneTarget next earlier first List.mem_cons_self).trans fits
          · rw [List.mem_singleton.mp last]
        refine ⟨[], first :: others ++ [marker], emitted, ⟨scrolled.1.timing, scrolled.1.scroll,
          (edit_pending_append first marker others).symm, one_scroll_nil, ?_, Or.inl rfl,
          scrolled.1.memory⟩, ?_⟩
        · intro next member other among
          rw [targets next member, targets other among]
        · intro rest
          unfold remaining
          rw [scroll, (editRule now).runs_after_join picked isLast joins, scrolled.2,
            ← Multiset.coe_add, add_assoc, add_assoc, add_assoc]
          rfl
      · rw [if_neg fits]
        refine ⟨[], [marker], emitted, restart_tracks scrolled.1 marker, restarts ?_⟩
        intro last among
        rw [isLast] at among
        rw [← Option.some.inj among]
        apply decide_eq_false
        rw [sameFirst]
        exact fits

theorem step_advances (tracks : Tracks timing coalescer scrolls edits emitted) (now : Instant)
    (call : Call) :
    Advances timing now scrolls edits emitted call
      (ActionCoalescer.machine.step coalescer call) := by
  cases call with
  | flushDue time => exact timer_advances tracks now time
  | input input =>
      cases input with
      | action draft =>
          change Advances timing now scrolls edits emitted _
            (if draft.actionType = .scroll then coalescer.handleScroll draft
              else coalescer.handleNonScroll draft)
          by_cases scroll : draft.actionType = .scroll
          · rw [if_pos scroll]
            exact scroll_advances tracks now scroll
          · rw [if_neg scroll]
            exact plain_advances tracks now scroll
      | editMarker marker => exact marker_advances tracks now marker
      | commitEdit capturedAt signal =>
          exact boundary_advances tracks now rfl rfl rfl (fun _ => rfl)
      | focusChanged capturedAt signal =>
          exact boundary_advances tracks now rfl rfl rfl (fun _ => rfl)
      | stop capturedAt signal =>
          exact boundary_advances tracks now rfl rfl rfl (fun _ => rfl)

theorem run_remaining (tracks : Tracks timing coalescer scrolls edits emitted) (now : Instant)
    (calls : List Call) :
    (((ActionCoalescer.machine.outputs coalescer calls).flatten ++
        ((ActionCoalescer.machine.run coalescer calls).flushAll now).2 : List CoalescedAction) :
      Multiset CoalescedAction) = remaining timing now scrolls edits emitted calls := by
  induction calls generalizing coalescer scrolls edits emitted with
  | nil =>
      rw [remaining_end, ← (tracks.flush_all now .stop).2]
      rfl
  | cons call rest induction =>
      have ⟨_, _, _, next, taken⟩ := step_advances tracks now call
      rw [taken rest, ← induction next, Machine.outputs_cons, Machine.run_cons, List.flatten_cons,
        List.append_assoc, ← Multiset.coe_add]

end Steps

end Gilbreth.Windows
