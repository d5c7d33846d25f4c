import Gilbreth.Library.Spans
import Gilbreth.Store.PauseText

/-!
# Pauses in order

Commands with growing timestamps keep the intervals of a recording in order, one
after the other, with only the last one open. The saturating sum of the writer is
then the measure of the paused time and what closed pauses run beyond the time.
-/

set_option autoImplicit false

namespace Gilbreth.Store

open Gilbreth.Core

section Written

theorem of_int_val (value : I64) : I64.ofInt value.val = value :=
  SatInt.ext (SatInt.clamp_of_mem _ value.lower value.upper)

theorem negative_zero_reads : ("-0" : String).toInt? = some 0 := by
  have split : ("-0" : String) = "-" ++ Nat.repr 0 := by decide
  rw [split, String.toInt?_minus_append, Nat.toNat?_repr]
  rfl

theorem number_i64_written (value : I64) : numberI64 value.val.repr = some value := by
  have reads : value.val.repr.toInt? = some value.val := Int.toInt?_repr value.val
  have positive : value.val.repr ≠ "-0" := by
    intro same
    rw [same, negative_zero_reads] at reads
    rw [← Option.some.inj reads] at same
    exact absurd same (by decide)
  simp [numberI64, positive, reads, of_int_val]

theorem parse_interval_written (interval : I64 × Option I64) :
    parsePauseInterval (pauseIntervalValue interval) = .ok interval := by
  cases interval with
  | mk start stop =>
      cases stop <;> simp [pauseIntervalValue, parsePauseInterval, jsonI64, number_i64_written]

theorem parse_written [StoreExternals] {intervals : List (I64 × Option I64)}
    (readsBack : StoreExternals.parseJson (pauseIntervalsText intervals) =
      some (pauseIntervalsValue intervals)) :
    parsePauseIntervals (pauseIntervalsText intervals) = .ok intervals := by
  simp only [parsePauseIntervals, readsBack, pauseIntervalsValue]
  clear readsBack
  induction intervals with
  | nil => rfl
  | cons interval rest induction =>
      rw [List.map_cons, List.mapM_cons, parse_interval_written, induction]
      rfl

end Written

section Order

/-- Intervals that lie between two times, one after the other, with only the last one open. -/
structure PausedInOrder (started upTo : I64) (intervals : List (I64 × Option I64)) : Prop where
  starts : ∀ interval ∈ intervals, started ≤ interval.1 ∧ interval.1 ≤ upTo
  stops : ∀ interval ∈ intervals, ∀ stop, interval.2 = some stop →
    interval.1 ≤ stop ∧ stop ≤ upTo
  ordered : intervals.Pairwise fun earlier later =>
    ∃ stop, earlier.2 = some stop ∧ stop ≤ later.1

variable {started upTo later : I64} {intervals : List (I64 × Option I64)}

theorem paused_in_order_nil : PausedInOrder started upTo [] where
  starts := by simp
  stops := by simp
  ordered := List.Pairwise.nil

theorem PausedInOrder.mono (order : PausedInOrder started upTo intervals) (passes : upTo ≤ later) :
    PausedInOrder started later intervals where
  starts interval member :=
    ⟨(order.starts interval member).1, (order.starts interval member).2.trans passes⟩
  stops interval member stop closed :=
    ⟨(order.stops interval member stop closed).1,
      (order.stops interval member stop closed).2.trans passes⟩
  ordered := order.ordered

theorem PausedInOrder.closed (order : PausedInOrder started upTo intervals)
    (running : (intervals.getLast?.any fun interval => interval.2.isNone) = false) :
    ∀ interval ∈ intervals, ∃ stop, interval.2 = some stop := by
  intro interval member
  have ⟨before, last, split⟩ : ∃ before last, intervals = before ++ [last] :=
    ⟨_, _, (List.dropLast_append_getLast (List.ne_nil_of_mem member)).symm⟩
  rw [split] at member running
  rw [split] at order
  cases List.mem_append.mp member with
  | inl earlier =>
      have ⟨stop, closed, _⟩ := (List.pairwise_append.mp order.ordered).2.2 interval earlier last
        List.mem_cons_self
      exact ⟨stop, closed⟩
  | inr latest =>
      rw [List.mem_singleton] at latest
      subst latest
      cases closing : interval.2 with
      | none => simp [closing] at running
      | some stop => exact ⟨stop, rfl⟩

theorem PausedInOrder.pause (order : PausedInOrder started upTo intervals)
    (running : (intervals.getLast?.any fun interval => interval.2.isNone) = false)
    (begun : started ≤ upTo) (passes : upTo ≤ later) :
    PausedInOrder started later (intervals ++ [(later, none)]) where
  starts interval member := by
    cases List.mem_append.mp member with
    | inl earlier => exact (order.mono passes).starts interval earlier
    | inr latest =>
        rw [List.mem_singleton.mp latest]
        exact ⟨begun.trans passes, le_rfl⟩
  stops interval member stop closed := by
    cases List.mem_append.mp member with
    | inl earlier => exact (order.mono passes).stops interval earlier stop closed
    | inr latest =>
        rw [List.mem_singleton.mp latest] at closed
        cases closed
  ordered := by
    apply List.pairwise_append.mpr
    refine ⟨order.ordered, List.pairwise_singleton _ _, ?_⟩
    intro earlier member latest only
    have ⟨stop, closed⟩ := order.closed running earlier member
    rw [List.mem_singleton.mp only]
    exact ⟨stop, closed, (order.stops earlier member stop closed).2.trans passes⟩

theorem PausedInOrder.resume (order : PausedInOrder started upTo intervals)
    (passes : upTo ≤ later) :
    PausedInOrder started later (Database.closeLastInterval later intervals) := by
  unfold Database.closeLastInterval
  split
  · rename_i start paused
    have split : intervals = intervals.dropLast ++ [(start, none)] :=
      (List.dropLast_append_getLast? _ paused).symm
    have within := order.mono passes
    rw [split] at within
    have ⟨starts, stops, ordered⟩ := within
    have reaches : start ≤ later := (starts (start, none) (by simp)).2
    have stopped : max later start = later := max_eq_left reaches
    rw [stopped]
    constructor
    · intro interval member
      cases List.mem_append.mp member with
      | inl earlier => exact starts interval (List.mem_append_left _ earlier)
      | inr latest =>
          rw [List.mem_singleton.mp latest]
          exact starts (start, none) (by simp)
    · intro interval member stop closed
      cases List.mem_append.mp member with
      | inl earlier => exact stops interval (List.mem_append_left _ earlier) stop closed
      | inr latest =>
          rw [List.mem_singleton.mp latest] at closed ⊢
          cases closed
          exact ⟨reaches, le_rfl⟩
    · have ⟨earlier, _, apart⟩ := List.pairwise_append.mp ordered
      apply List.pairwise_append.mpr
      constructor
      · exact earlier
      constructor
      · exact List.pairwise_singleton _ _
      · intro interval member latest only
        rw [List.mem_singleton.mp only]
        exact apart interval member (start, none) List.mem_cons_self
  · exact order.mono passes

end Order

section Measure

/-- The paused spans as they stand at a time: an open pause reaches up to it, or is empty if it
begins later. -/
def pausedSpans (nowMs : I64) (intervals : List (I64 × Option I64)) : List Spans.Span :=
  intervals.map fun interval =>
    (interval.1.val, (interval.2.getD (max nowMs interval.1)).val)

/-- How many milliseconds between two times are paused ones. -/
noncomputable def pausedMs (started nowMs : I64) (intervals : List (I64 × Option I64)) : Int :=
  Spans.length (Spans.Covers (pausedSpans nowMs intervals)) started.val nowMs.val

/-- The time since the start that is not paused. -/
noncomputable def unpausedMs (started nowMs : I64) (intervals : List (I64 × Option I64)) : Int :=
  max 0 (nowMs.val - started.val) - pausedMs started nowMs intervals

/-- How many milliseconds of the pauses are still to come. -/
def pausedAheadMs (nowMs : I64) (intervals : List (I64 × Option I64)) : Int :=
  ((pausedSpans nowMs intervals).map fun span => max 0 (span.2 - max span.1 nowMs.val)).sum

/-- No closed pause runs beyond the time. -/
def PausesEndBy (nowMs : I64) (intervals : List (I64 × Option I64)) : Prop :=
  ∀ interval ∈ intervals, ∀ stop, interval.2 = some stop → interval.1 < stop → stop ≤ nowMs

variable {started upTo nowMs : I64} {intervals : List (I64 × Option I64)}

theorem PausedInOrder.within (order : PausedInOrder started upTo intervals)
    {span : Spans.Span} (member : span ∈ pausedSpans nowMs intervals) :
    started.val ≤ span.1 ∧ span.1 ≤ span.2 := by
  obtain ⟨interval, listed, rfl⟩ := List.mem_map.mp member
  have begun := SatInt.le_iff.mp (order.starts interval listed).1
  cases closing : interval.2 with
  | none => exact ⟨begun, SatInt.le_iff.mp (le_max_right _ _)⟩
  | some stop =>
      exact ⟨begun, SatInt.le_iff.mp (order.stops interval listed stop closing).1⟩

theorem PausedInOrder.spans (order : PausedInOrder started upTo intervals) :
    Spans.InOrder (pausedSpans nowMs intervals) := by
  constructor
  · exact fun span member => (order.within member).2
  · apply List.pairwise_map.mpr
    apply order.ordered.imp
    intro earlier later apart
    have ⟨stop, closing, before⟩ := apart
    rw [closing]
    exact SatInt.le_iff.mp before

theorem paused_ms_nonneg : 0 ≤ pausedMs started nowMs intervals := Spans.length_nonneg

theorem unpaused_ms_nonneg : 0 ≤ unpausedMs started nowMs intervals := by
  have rest := Spans.length_compl
    (Spans.Covers (pausedSpans nowMs intervals)) started.val nowMs.val
  have nonneg : 0 ≤ Spans.length (fun point => ¬Spans.Covers (pausedSpans nowMs intervals) point)
      started.val nowMs.val := Spans.length_nonneg
  rw [unpausedMs, pausedMs]
  omega

theorem paused_ahead_nonneg : 0 ≤ pausedAheadMs nowMs intervals := by
  apply List.sum_nonneg
  intro length member
  obtain ⟨span, _, rfl⟩ := List.mem_map.mp member
  exact le_max_left _ _

theorem paused_ahead_zero_iff : pausedAheadMs nowMs intervals = 0 ↔
    PausesEndBy nowMs intervals := by
  induction intervals with
  | nil => exact iff_of_true rfl fun interval none => absurd none List.not_mem_nil
  | cons interval rest induction =>
      have later : 0 ≤ pausedAheadMs nowMs rest := paused_ahead_nonneg
      have split : pausedAheadMs nowMs (interval :: rest) =
          max 0 ((interval.2.getD (max nowMs interval.1)).val - max interval.1.val nowMs.val) +
            pausedAheadMs nowMs rest := rfl
      have first : max 0
            ((interval.2.getD (max nowMs interval.1)).val - max interval.1.val nowMs.val) = 0 ↔
          ∀ stop, interval.2 = some stop → interval.1 < stop → stop ≤ nowMs := by
        cases closing : interval.2 with
        | none =>
            simp only [Option.getD_none, SatInt.val_max, reduceCtorEq, false_imp_iff,
              implies_true, iff_true]
            omega
        | some stop =>
            simp only [Option.getD_some, Option.some.injEq, forall_eq', SatInt.lt_iff,
              SatInt.le_iff]
            omega
      rw [split, PausesEndBy, List.forall_mem_cons, ← PausesEndBy, ← induction, ← first]
      omega

/-- What the pauses last is paused time up to now, and paused time to come. -/
theorem PausedInOrder.sum_lengths (order : PausedInOrder started upTo intervals)
    (begun : started ≤ nowMs) :
    ((pausedSpans nowMs intervals).map fun span => span.2 - span.1).sum =
      pausedMs started nowMs intervals + pausedAheadMs nowMs intervals := by
  rw [pausedMs, ← Spans.sum_overlap order.spans, pausedAheadMs, ← List.sum_map_add]
  apply congrArg List.sum
  apply List.map_congr_left
  intro span member
  have ⟨after, positive⟩ := order.within member
  have passes := SatInt.le_iff.mp begun
  rw [Spans.overlap]
  omega

theorem paused_total_fold :
    ∀ (intervals : List (I64 × Option I64)) (total : I64), 0 ≤ total.val →
      (∀ span ∈ pausedSpans nowMs intervals, 0 ≤ span.1 ∧ span.1 ≤ span.2) →
      (intervals.foldl (fun (total : I64) interval =>
          total.satAdd ((max (interval.2.getD nowMs) interval.1).satSub interval.1)) total).val =
        min 9223372036854775807
          (total.val + ((pausedSpans nowMs intervals).map fun span => span.2 - span.1).sum) := by
  intro intervals
  induction intervals with
  | nil =>
      intro total positive within
      have upper := total.upper
      simp only [List.foldl_nil, pausedSpans, List.map_nil, List.sum_nil]
      omega
  | cons interval rest induction =>
      intro total positive within
      have ⟨begun, ended⟩ := within _ List.mem_cons_self
      dsimp only at begun ended
      have others : ∀ span ∈ pausedSpans nowMs rest, 0 ≤ span.1 ∧ span.1 ≤ span.2 :=
        fun span member => within span (List.mem_cons_of_mem _ member)
      have restNonneg : 0 ≤
          ((pausedSpans nowMs rest).map fun span => span.2 - span.1).sum := by
        apply List.sum_nonneg
        intro length member
        obtain ⟨span, listed, rfl⟩ := List.mem_map.mp member
        exact sub_nonneg.mpr (others span listed).2
      have upper := (interval.2.getD (max nowMs interval.1)).upper
      have length : ((max (interval.2.getD nowMs) interval.1).satSub interval.1).val =
          (interval.2.getD (max nowMs interval.1)).val - interval.1.val := by
        have reach : max (interval.2.getD nowMs) interval.1 =
            interval.2.getD (max nowMs interval.1) := by
          cases closing : interval.2 with
          | none => rfl
          | some stop =>
              rw [closing] at ended
              exact max_eq_left (SatInt.le_iff.mpr ended)
        rw [reach, SatInt.val_sat_sub]
        omega
      have added := SatInt.val_sat_add total
        ((max (interval.2.getD nowMs) interval.1).satSub interval.1)
      rw [length] at added
      have split : ((pausedSpans nowMs (interval :: rest)).map fun span => span.2 - span.1).sum =
          (interval.2.getD (max nowMs interval.1)).val - interval.1.val +
            ((pausedSpans nowMs rest).map fun span => span.2 - span.1).sum := rfl
      rw [List.foldl_cons, induction _ (by omega) others, added, split]
      omega

theorem PausedInOrder.total (order : PausedInOrder started upTo intervals)
    (nonneg : 0 ≤ started.val) :
    (WriterState.pausedTotalMsAt intervals nowMs).val =
      min 9223372036854775807
        ((pausedSpans nowMs intervals).map fun span => span.2 - span.1).sum := by
  have fold := @paused_total_fold nowMs intervals (.ofInt 0) (by decide) fun span member =>
    ⟨nonneg.trans (order.within member).1, (order.within member).2⟩
  have zero : (I64.ofInt 0).val = 0 := rfl
  rwa [zero, zero_add] at fold

end Measure

end Gilbreth.Store
