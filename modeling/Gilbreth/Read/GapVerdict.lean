import Mathlib
import Gilbreth.Read.DatabaseHealth

/-!
# The gap verdict against the numbers themselves

The tools merge the audit spans and test whole runs against one merged span. Read
number by number, a session is explained when every missing number lies in a span
of a deletion made since it started and the deletions removed at least that many
rows.
-/

set_option autoImplicit false

namespace Gilbreth.Read

open Gilbreth.Core Gilbreth.Store SequenceGaps

/-- Exact where the value fits 64 bits, and at the upper bound or past it beyond. -/
structure Counts (cap : Int → Int) : Prop where
  exact : ∀ value, FitsI64 value → cap value = value
  beyond : ∀ value, I64.maximum.val ≤ value → I64.maximum.val ≤ cap value

theorem saturate_counts : Counts saturate := by
  constructor
  · intro value inside
    exact SatInt.clamp_of_mem _ inside.1 inside.2
  · intro value above
    have least : I64.minimum.val ≤ I64.maximum.val := by decide
    change I64.maximum.val ≤ max I64.minimum.val (min I64.maximum.val value)
    omega

theorem id_counts : Counts id := ⟨fun _ _ => rfl, fun _ => id⟩

section Merge

variable {cap : Int → Int}

theorem touches_iff (counts : Counts cap) {last start : Int} (lastFits : FitsI64 last)
    (startFits : FitsI64 start) : start ≤ cap (last + 1) ↔ start ≤ last + 1 := by
  by_cases small : last + 1 ≤ I64.maximum.val
  · rw [counts.exact _ ⟨by have := lastFits.1; omega, small⟩]
  · have high := counts.beyond (last + 1) (by omega)
    have below := startFits.2
    constructor <;> intro <;> omega

theorem merge_audit_from_spec (counts : Counts cap) {last : Span} {rest : List Span}
    (sorted : (last :: rest).Pairwise fun left right => left.1 ≤ right.1)
    (fits : ∀ span ∈ last :: rest, FitsI64 span.1 ∧ FitsI64 span.2) :
    Separated (mergeAuditFrom cap last rest) ∧
      (∀ span ∈ mergeAuditFrom cap last rest, last.1 ≤ span.1) ∧
      ∀ seq, Within (mergeAuditFrom cap last rest) seq ↔ Within (last :: rest) seq := by
  induction rest generalizing last with
  | nil =>
      refine ⟨List.pairwise_singleton _ _, ?_, fun seq => Iff.rfl⟩
      intro span member
      rw [List.mem_singleton.mp member]
  | cons span rest induction =>
      have starts := List.pairwise_cons.mp sorted
      have later := List.pairwise_cons.mp starts.2
      have first : last.1 ≤ span.1 := starts.1 span List.mem_cons_self
      have lastFits := fits last List.mem_cons_self
      have spanFits := fits span (by simp)
      have restFits : ∀ other ∈ rest, FitsI64 other.1 ∧ FitsI64 other.2 := by
        intro other member
        exact fits other (by simp [member])
      have touching := touches_iff counts lastFits.2 spanFits.1
      rw [mergeAuditFrom]
      split
      · rename_i touches
        have close := touching.mp touches
        have joinedSorted : ((last.1, max last.2 span.2) :: rest).Pairwise
            fun left right => left.1 ≤ right.1 :=
          List.pairwise_cons.mpr
            ⟨fun other member => starts.1 other (List.mem_cons_of_mem _ member), later.2⟩
        have maxFits : FitsI64 (max last.2 span.2) := by
          rcases max_choice last.2 span.2 with same | same
          · rw [same]
            exact lastFits.2
          · rw [same]
            exact spanFits.2
        have joined := induction joinedSorted (by
          intro other member
          rcases List.mem_cons.mp member with rfl | tail
          · exact ⟨lastFits.1, maxFits⟩
          · exact restFits other tail)
        refine ⟨joined.1, joined.2.1, ?_⟩
        intro seq
        rw [joined.2.2 seq, within_cons, within_cons, within_cons, ← or_assoc]
        apply or_congr_left
        dsimp only
        omega
      · rename_i apart
        have gap : last.2 + 1 < span.1 := by
          rw [touching] at apart
          omega
        have tail := induction starts.2 (by
          intro other member
          exact fits other (List.mem_cons_of_mem _ member))
        refine ⟨List.pairwise_cons.mpr ⟨?_, tail.1⟩, ?_, ?_⟩
        · intro other member
          have := tail.2.1 other member
          omega
        · intro other member
          rcases List.mem_cons.mp member with rfl | inTail
          · exact le_refl _
          · exact first.trans (tail.2.1 other inTail)
        · intro seq
          rw [within_cons, tail.2.2 seq, ← within_cons]

theorem merged_spans_spec (counts : Counts cap) {spans : List Span}
    (fits : ∀ span ∈ spans, FitsI64 span.1 ∧ FitsI64 span.2) :
    Separated (mergedSpans cap spans) ∧
      ∀ seq, Within (mergedSpans cap spans) seq ↔ Within spans seq := by
  have same := List.mergeSort_perm spans tupleLe
  have sorted := tuple_le_sorted spans
  rw [mergedSpans]
  cases arranged : spans.mergeSort tupleLe with
  | nil =>
      rw [arranged] at same
      obtain rfl := same.nil_eq
      exact ⟨List.Pairwise.nil, fun seq => Iff.rfl⟩
  | cons first rest =>
      rw [arranged] at same sorted
      have spec := merge_audit_from_spec counts sorted
        fun span member => fits span (same.mem_iff.mp member)
      exact ⟨spec.1, fun seq => (spec.2.2 seq).trans (within_of_perm same)⟩

end Merge

section Loop

variable {cap : Int → Int} {merged : List Span}

theorem missing_total_covered (counts : Counts cap) (apart : Separated merged)
    {previous seq missing : Int} (rest : List Int) (ordered : previous < seq)
    (start : 0 ≤ missing) (room : missing + (seq - previous) ≤ I64.maximum.val)
    (covered : ∀ number ∈ Set.Ioo previous seq, Within merged number) :
    missingTotal cap merged (some previous) missing (seq :: rest) =
      missingTotal cap merged (some seq) (missing + (seq - previous - 1)) rest := by
  rw [missingTotal, if_neg ordered.ne]
  by_cases gap : previous + 1 < seq
  · have inOne := (run_within_iff apart (show previous + 1 ≤ seq - 1 by omega)).mp
      fun number above below => covered number ⟨by omega, by omega⟩
    have found : (merged.any fun span =>
        decide (span.1 ≤ previous + 1 ∧ seq - 1 ≤ span.2)) = true := by
      rw [List.any_eq_true]
      simpa only [decide_eq_true_eq] using inOne
    have length : missing + (seq - 1 - (previous + 1) + 1) = missing + (seq - previous - 1) := by
      omega
    have lowest : I64.minimum.val ≤ 0 := by decide
    rw [if_pos gap, if_pos found, length, counts.exact _ ⟨by omega, by omega⟩]
  · rw [if_neg gap]
    congr 1
    omega

theorem missing_total_uncovered (apart : Separated merged) {previous seq : Int} (missing : Int)
    (rest : List Int) (ordered : previous < seq)
    (outside : ¬∀ number ∈ Set.Ioo previous seq, Within merged number) :
    missingTotal cap merged (some previous) missing (seq :: rest) = none := by
  have gap : previous + 1 < seq := by
    by_contra none
    apply outside
    rintro number ⟨above, below⟩
    omega
  have notFound : ¬(merged.any fun span =>
      decide (span.1 ≤ previous + 1 ∧ seq - 1 ≤ span.2)) = true := by
    intro found
    rw [List.any_eq_true] at found
    simp only [decide_eq_true_eq] at found
    have covered := (run_within_iff apart (show previous + 1 ≤ seq - 1 by omega)).mpr found
    apply outside
    rintro number ⟨above, below⟩
    exact covered number (by omega) (by omega)
  rw [missingTotal, if_neg ordered.ne, if_pos gap, if_neg notFound]

/-- After one number the loop counts the missing ones of the rest, unless a number
repeats or a missing one lies outside the merged spans. -/
theorem missing_total_from (counts : Counts cap) (apart : Separated merged) {previous : Int}
    {rest : List Int} (sorted : (previous :: rest).Pairwise (· ≤ ·)) {missing : Int}
    (start : 0 ≤ missing) (room : ∀ seq ∈ rest, missing + (seq - previous) ≤ I64.maximum.val)
    (total : Int) :
    missingTotal cap merged (some previous) missing rest = some total ↔
      (previous :: rest).Nodup ∧
        (∀ seq, Missing (previous :: rest) seq → Within merged seq) ∧
        total = missing + missingCount (previous :: rest) := by
  induction rest generalizing previous missing with
  | nil =>
      rw [missingTotal, missing_count_singleton]
      simp [not_missing_singleton, eq_comm]
  | cons seq rest induction =>
      have ascending := List.pairwise_cons.mp sorted
      have starts := (List.pairwise_cons.mp ascending.2).1
      have below : previous ≤ seq := ascending.1 seq List.mem_cons_self
      rcases below.eq_or_lt with same | ordered
      · rw [missingTotal, if_pos same]
        simp [same]
      have least := room seq List.mem_cons_self
      have fresh : previous ∉ seq :: rest := by
        intro member
        rcases List.mem_cons.mp member with same | tail
        · omega
        · have := starts previous tail
          omega
      have distinct : (previous :: seq :: rest).Nodup ↔ (seq :: rest).Nodup := by
        rw [List.nodup_cons]
        exact and_iff_right fresh
      simp only [distinct, missing_cons starts below, missing_count_cons starts below, or_imp,
        forall_and]
      by_cases covered : ∀ number ∈ Set.Ioo previous seq, Within merged number
      · have roomRest : ∀ later ∈ rest,
            missing + (seq - previous - 1) + (later - seq) ≤ I64.maximum.val := by
          intro later member
          have := room later (List.mem_cons_of_mem _ member)
          omega
        rw [missing_total_covered counts apart rest ordered start least covered,
          induction ascending.2 (by omega) roomRest]
        have width : ((seq - previous - 1).toNat : Int) = seq - previous - 1 :=
          Int.toNat_of_nonneg (by omega)
        rw [Nat.cast_add, width, ← Int.add_assoc, and_iff_right covered]
      · rw [missing_total_uncovered apart missing rest ordered covered]
        simp only [covered, false_and, and_false, reduceCtorEq]

theorem missing_total_spec (counts : Counts cap) (apart : Separated merged) {seqs : List Int}
    (sorted : seqs.Pairwise (· ≤ ·)) (nonneg : ∀ seq ∈ seqs, 0 ≤ seq)
    (fits : ∀ seq ∈ seqs, FitsI64 seq) (total : Int) :
    missingTotal cap merged none 0 seqs = some total ↔
      seqs.Nodup ∧ (∀ seq, Missing seqs seq → Within merged seq) ∧ total = missingCount seqs := by
  cases seqs with
  | nil =>
      have none : {seq | Missing [] seq} = ∅ := by
        ext seq
        simp [Missing]
      rw [missingTotal, missingCount, none, Set.ncard_empty]
      simp [Missing, eq_comm]
  | cons first rest =>
      have firstNonneg := nonneg first List.mem_cons_self
      have room : ∀ seq ∈ rest, 0 + (seq - first) ≤ I64.maximum.val := by
        intro seq member
        have := (fits seq (List.mem_cons_of_mem _ member)).2
        omega
      rw [missingTotal, missing_total_from counts apart sorted (le_refl 0) room, Int.zero_add]

end Loop

section Explained

/-- Read number by number: nothing repeats, some deletion is on record, every missing
number lies in a recorded span, and the deletions removed at least that many rows. -/
structure ExplainedBy (seqs : List Int) (spans : List AuditSpan) : Prop where
  distinct : seqs.Nodup
  audited : ∃ span, span ∈ spans
  covered : ∀ seq, Missing seqs seq →
    ∃ span ∈ spans, span.seqMin.val ≤ seq ∧ seq ≤ span.seqMax.val
  counted : missingCount seqs ≤ (spans.map AuditSpan.rowsDeleted).sum

/-- A session's audit rows stamped no earlier than it started, where its start is known. -/
def remainingSpans (db : DashboardDatabase) (sessionId : Int) : List AuditSpan :=
  ((db.deletionAudit.getD []).filter fun row => decide (row.sessionId = sessionId ∧
    ∀ session ∈ db.sessions.rows, session.sessionId = sessionId →
      session.startedAt ≤ row.performedAt)).map AuditSpan.of

theorem session_spans_eq (db : DashboardDatabase) (sessionId : Int) :
    sessionSpans db (db.deletionAudit.getD []) sessionId = remainingSpans db sessionId := by
  unfold sessionSpans remainingSpans startedAt
  cases found : db.sessions.rows.find? fun row => row.sessionId == sessionId with
  | none =>
      have absent := List.find?_eq_none.mp found
      simp only [beq_iff_eq] at absent
      dsimp only [Option.map_none]
      congr 1
      apply List.filter_congr
      intro row _
      rw [Bool.eq_iff_iff, beq_iff_eq, decide_eq_true_iff]
      exact (and_iff_left fun session member same => absurd same (absent session member)).symm
  | some started =>
      have listed := List.mem_of_find?_eq_some found
      have own := List.find?_some found
      rw [beq_iff_eq] at own
      dsimp only [Option.map_some]
      rw [List.filter_map, List.filter_filter]
      congr 1
      apply List.filter_congr
      intro row _
      rw [Bool.eq_iff_iff, Bool.and_eq_true, beq_iff_eq, decide_eq_true_iff, and_comm]
      apply and_congr_right
      intro _
      rw [Function.comp_apply, decide_eq_true_iff]
      constructor
      · intro stamped session member same
        have one := db.sessions.eq_of_key member listed (same.trans own.symm)
        rw [one]
        exact stamped
      · intro stamped
        exact stamped started listed own

theorem audited_total_eq {cap : Int → Int} (counts : Counts cap) (spans : List AuditSpan)
    {sum : Int} (start : 0 ≤ sum)
    (fits : sum + (spans.map AuditSpan.rowsDeleted).sum ≤ I64.maximum.val) :
    spans.foldl (fun sum span => cap (sum + span.rowsDeleted)) sum =
      sum + (spans.map AuditSpan.rowsDeleted).sum := by
  induction spans generalizing sum with
  | nil => simp
  | cons span rest induction =>
      rw [List.map_cons, List.sum_cons, Nat.cast_add] at fits
      have lowest : I64.minimum.val ≤ 0 := by decide
      have exact := counts.exact (sum + span.rowsDeleted) ⟨by omega, by omega⟩
      rw [List.foldl_cons, exact, induction (by omega) (by omega), List.map_cons, List.sum_cons,
        Nat.cast_add, Int.add_assoc]

theorem gap_is_explained_iff {cap : Int → Int} (counts : Counts cap) {seqs : List Int}
    (nonneg : ∀ seq ∈ seqs, 0 ≤ seq) (fits : ∀ seq ∈ seqs, FitsI64 seq) (spans : List AuditSpan)
    (total : (spans.map AuditSpan.rowsDeleted).sum ≤ I64.maximum.val) :
    gapIsExplained cap (mergedSpans cap) seqs spans = true ↔ ExplainedBy seqs spans := by
  by_cases empty : spans = []
  · rw [gapIsExplained, if_pos empty]
    constructor
    · intro none
      cases none
    · intro explained
      rcases explained.audited with ⟨span, member⟩
      rw [empty] at member
      cases member
  have merged := merged_spans_spec counts (show ∀ span ∈ spans.map AuditSpan.seqs,
      FitsI64 span.1 ∧ FitsI64 span.2 by
    intro span member
    rcases List.mem_map.mp member with ⟨audit, _, rfl⟩
    exact ⟨⟨audit.seqMin.lower, audit.seqMin.upper⟩, audit.seqMax.lower, audit.seqMax.upper⟩)
  have same := List.mergeSort_perm seqs fun left right => decide (left ≤ right)
  have sorted : (seqs.mergeSort fun left right => decide (left ≤ right)).Pairwise (· ≤ ·) := by
    refine (List.pairwise_mergeSort ?_ ?_ seqs).imp fun ordered => of_decide_eq_true ordered
    · intro first second third
      simp only [decide_eq_true_eq]
      omega
    · intro first second
      simp only [Bool.or_eq_true, decide_eq_true_eq]
      omega
  have loop := missing_total_spec counts merged.1 sorted
    (fun seq member => nonneg seq (same.mem_iff.mp member))
    (fun seq member => fits seq (same.mem_iff.mp member))
  have within : ∀ seq, Within (mergedSpans cap (spans.map AuditSpan.seqs)) seq ↔
      ∃ span ∈ spans, span.seqMin.val ≤ seq ∧ seq ≤ span.seqMax.val := by
    intro seq
    rw [merged.2 seq]
    unfold Within
    constructor
    · rintro ⟨pair, listed, inside⟩
      rcases List.mem_map.mp listed with ⟨span, member, rfl⟩
      exact ⟨span, member, inside⟩
    · rintro ⟨span, member, inside⟩
      exact ⟨span.seqs, List.mem_map_of_mem member, inside⟩
  have audited := audited_total_eq counts spans (le_refl 0) (by rwa [Int.zero_add])
  simp only [same.nodup_iff, missing_congr fun seq => same.mem_iff, within,
    missing_count_congr fun seq => same.mem_iff] at loop
  rw [gapIsExplained, if_neg empty]
  dsimp only
  rw [audited, Int.zero_add]
  cases ran : missingTotal cap (mergedSpans cap (spans.map AuditSpan.seqs)) none 0
      (seqs.mergeSort fun left right => decide (left ≤ right)) with
  | none =>
      rw [ran] at loop
      constructor
      · intro never
        cases never
      · intro explained
        have counted := (loop (missingCount seqs)).mpr
          ⟨explained.distinct, explained.covered, rfl⟩
        cases counted
  | some missing =>
      have reached := (loop missing).mp ran
      rw [decide_eq_true_iff, reached.2.2, Nat.cast_le]
      constructor
      · intro counted
        exact ⟨reached.1, List.exists_mem_of_ne_nil spans empty, reached.2.1, counted⟩
      · exact ExplainedBy.counted

theorem ExplainedBy.mono {seqs : List Int} {spans more : List AuditSpan}
    (explained : ExplainedBy seqs spans) (kept : spans.Sublist more) : ExplainedBy seqs more := by
  rcases explained.audited with ⟨span, member⟩
  refine ⟨explained.distinct, ⟨span, kept.subset member⟩, ?_, ?_⟩
  · intro seq missing
    rcases explained.covered seq missing with ⟨span, member, inside⟩
    exact ⟨span, kept.subset member, inside⟩
  · exact explained.counted.trans ((kept.map _).sum_le_sum fun _ _ => Nat.zero_le _)

end Explained

section Report

/-- The rows every deletion on record removed. -/
def auditedRowsTotal (db : DashboardDatabase) : Nat :=
  ((db.deletionAudit.getD []).map DeletionAuditRow.rowsDeleted).sum

variable {db : DashboardDatabase}

theorem mem_flagged_gap_sessions (sessionId : Int) :
    sessionId ∈ flaggedGapSessions db ↔ Gapped (sessionSeqs db sessionId) := by
  rw [flaggedGapSessions, List.mem_mergeSort, List.mem_filter, List.mem_dedup, seq_gap_iff]
  apply and_iff_right_of_imp
  intro gapped
  have some : ∃ seq, seq ∈ sessionSeqs db sessionId := by
    rcases gapped with repeated | ⟨_, _, ⟨below, member, _⟩, _⟩
    · apply List.exists_mem_of_ne_nil
      intro empty
      rw [empty] at repeated
      exact repeated List.nodup_nil
    · exact ⟨below, member⟩
  rcases some with ⟨seq, member⟩
  rcases List.mem_map.mp member with ⟨row, listed, _⟩
  rcases List.mem_filter.mp listed with ⟨stored, own⟩
  exact List.mem_map.mpr ⟨row, stored, by simpa using own⟩

theorem flagged_gap_sessions_ascending (db : DashboardDatabase) :
    (flaggedGapSessions db).Pairwise (· < ·) := by
  have distinct : (flaggedGapSessions db).Nodup :=
    (List.mergeSort_perm _ _).nodup_iff.mpr ((List.nodup_dedup _).filter _)
  have sorted : (flaggedGapSessions db).Pairwise (· ≤ ·) := by
    refine (List.pairwise_mergeSort ?_ ?_ _).imp fun ordered => of_decide_eq_true ordered
    · intro first second third
      simp only [decide_eq_true_eq]
      omega
    · intro first second
      simp only [Bool.or_eq_true, decide_eq_true_eq]
      omega
  exact (sorted.and distinct).imp fun ordered => lt_of_le_of_ne ordered.1 ordered.2

theorem sessions_seqs_fit (sessionId : Int) : ∀ seq ∈ sessionSeqs db sessionId, FitsI64 seq := by
  intro seq member
  rcases List.mem_map.mp member with ⟨row, listed, rfl⟩
  have stored := (List.mem_filter.mp listed).1
  rw [sequencedRows, List.mem_append] at stored
  rcases stored with event | action
  · rcases List.mem_map.mp event with ⟨row, _, rfl⟩
    exact ⟨row.seq.lower, row.seq.upper⟩
  · cases tables : db.recordRoutine with
    | none =>
        rw [tables] at action
        cases action
    | some routine =>
        rw [tables] at action
        rcases List.mem_map.mp action with ⟨row, _, rfl⟩
        exact ⟨row.seq.lower, row.seq.upper⟩

theorem remaining_rows_le (db : DashboardDatabase) (sessionId : Int) :
    ((remainingSpans db sessionId).map AuditSpan.rowsDeleted).sum ≤ auditedRowsTotal db := by
  rw [remainingSpans, List.map_map]
  apply List.Sublist.sum_le_sum
  · exact (List.filter_sublist).map _
  · exact fun _ _ => Nat.zero_le _

theorem seq_gap_report_eq (explained : List Int → List AuditSpan → Bool) (db : DashboardDatabase) :
    seqGapReport explained db =
      if (auditedRowsTotal db : Int) ≤ I64.maximum.val then
        .ok {
          seqGapSessions := (flaggedGapSessions db).filter fun sessionId =>
            !explained (sessionSeqs db sessionId) (remainingSpans db sessionId)
          explainedGapSessions := (flaggedGapSessions db).filter fun sessionId =>
            explained (sessionSeqs db sessionId) (remainingSpans db sessionId)
          deletionAuditRowsDeleted := db.deletionAudit.map fun _ => (auditedRowsTotal db : Int) }
      else .error "integer overflow" := by
  have spans := session_spans_eq db
  unfold seqGapReport
  cases audit : db.deletionAudit with
  | none =>
      rw [audit] at spans
      have zero : auditedRowsTotal db = 0 := by
        rw [auditedRowsTotal, audit]
        rfl
      have fits : ((auditedRowsTotal db : Nat) : Int) ≤ I64.maximum.val := by
        rw [zero]
        decide
      rw [if_pos fits]
      simp only [spans]
      rfl
  | some rows =>
      rw [audit] at spans
      have sum : (rows.map fun row => (row.rowsDeleted : Int)).sum = auditedRowsTotal db := by
        rw [auditedRowsTotal, audit, Option.getD_some, Nat.cast_list_sum, List.map_map]
        rfl
      have nonneg : ∀ value ∈ rows.map fun row => (row.rowsDeleted : Int), 0 ≤ value := by
        intro value member
        rcases List.mem_map.mp member with ⟨row, _, rfl⟩
        exact Int.natCast_nonneg _
      have total := sql_sum_eq nonneg (le_refl 0) (by decide)
      rw [sum, Int.zero_add] at total
      simp only [spans, total]
      split_ifs <;> rfl

/-- The two tools give the same report, and it is the one read number by number. -/
structure ExactVerdict (db : DashboardDatabase) (health review : SeqGapReport) : Prop where
  same : health = review
  gapsAscending : health.seqGapSessions.Pairwise (· < ·)
  explainedAscending : health.explainedGapSessions.Pairwise (· < ·)
  gaps : ∀ sessionId, sessionId ∈ health.seqGapSessions ↔
    Gapped (sessionSeqs db sessionId) ∧
      ¬ExplainedBy (sessionSeqs db sessionId) (remainingSpans db sessionId)
  explained : ∀ sessionId, sessionId ∈ health.explainedGapSessions ↔
    Gapped (sessionSeqs db sessionId) ∧
      ExplainedBy (sessionSeqs db sessionId) (remainingSpans db sessionId)

def withAuditRow (db : DashboardDatabase) (row : DeletionAuditRow) : DashboardDatabase :=
  { db with deletionAudit := db.deletionAudit.map (· ++ [row]) }

theorem remaining_spans_with_audit_row (db : DashboardDatabase) (row : DeletionAuditRow)
    (sessionId : Int) :
    (remainingSpans db sessionId).Sublist (remainingSpans (withAuditRow db row) sessionId) := by
  have more : (db.deletionAudit.getD []).Sublist
      ((withAuditRow db row).deletionAudit.getD []) := by
    rw [withAuditRow]
    cases db.deletionAudit with
    | none => exact .refl _
    | some rows => exact List.sublist_append_left rows [row]
  exact (more.filter _).map _

theorem reports_explained_iff (db : DashboardDatabase) {cap : Int → Int} (counts : Counts cap)
    (nonneg : ∀ row ∈ sequencedRows db, 0 ≤ row.2)
    (small : (auditedRowsTotal db : Int) ≤ I64.maximum.val) (sessionId : Int) :
    gapIsExplained cap (mergedSpans cap) (sessionSeqs db sessionId)
        (remainingSpans db sessionId) = true ↔
      ExplainedBy (sessionSeqs db sessionId) (remainingSpans db sessionId) := by
  apply gap_is_explained_iff counts _ (sessions_seqs_fit sessionId)
  · have := remaining_rows_le db sessionId
    omega
  · intro seq member
    rcases List.mem_map.mp member with ⟨row, listed, rfl⟩
    exact nonneg row (List.mem_of_mem_filter listed)

theorem exact_verdict (nonneg : ∀ row ∈ sequencedRows db, 0 ≤ row.2)
    (small : (auditedRowsTotal db : Int) ≤ I64.maximum.val) :
    ∃ health review, databaseHealth db = .ok health ∧ ReviewRun.reviewDatabase db = .ok review ∧
      ExactVerdict db health review := by
  have rust := reports_explained_iff db saturate_counts nonneg small
  have python := reports_explained_iff db id_counts nonneg small
  have agree : ∀ sessionId,
      sessionGapIsExplained (sessionSeqs db sessionId) (remainingSpans db sessionId) =
        ReviewRun.sessionGapIsExplained (sessionSeqs db sessionId)
          (remainingSpans db sessionId) := by
    intro sessionId
    rw [Bool.eq_iff_iff]
    exact (rust sessionId).trans (python sessionId).symm
  refine ⟨_, _, (seq_gap_report_eq sessionGapIsExplained db).trans (if_pos small),
    (seq_gap_report_eq ReviewRun.sessionGapIsExplained db).trans (if_pos small), ?_⟩
  have ascending := flagged_gap_sessions_ascending db
  constructor
  · simp only [agree]
  · exact ascending.filter _
  · exact ascending.filter _
  · intro sessionId
    dsimp only
    rw [List.mem_filter, mem_flagged_gap_sessions, Bool.not_eq_true', ← Bool.not_eq_true]
    exact and_congr_right fun _ => not_congr (rust sessionId)
  · intro sessionId
    dsimp only
    rw [List.mem_filter, mem_flagged_gap_sessions]
    exact and_congr_right fun _ => rust sessionId

theorem explained_stays_explained (nonneg : ∀ row ∈ sequencedRows db, 0 ≤ row.2)
    (row : DeletionAuditRow) {cap : Int → Int} (counts : Counts cap) {report more : SeqGapReport}
    (before : seqGapReport (gapIsExplained cap (mergedSpans cap)) db = .ok report)
    (after : seqGapReport (gapIsExplained cap (mergedSpans cap)) (withAuditRow db row) = .ok more)
    {sessionId : Int} (member : sessionId ∈ report.explainedGapSessions) :
    sessionId ∈ more.explainedGapSessions := by
  rw [seq_gap_report_eq] at before after
  split_ifs at before after with small moreSmall
  cases before
  cases after
  rcases List.mem_filter.mp member with ⟨flagged, explained⟩
  have verdict := reports_explained_iff (withAuditRow db row) counts nonneg moreSmall sessionId
  refine List.mem_filter.mpr ⟨flagged, verdict.mpr ?_⟩
  exact ((reports_explained_iff db counts nonneg small sessionId).mp explained).mono
    (remaining_spans_with_audit_row db row sessionId)

/-- Both tools give the verdict read number by number, and no audit row added turns an
explained session into an unexplained one, exactly while the audited rows can be summed. -/
theorem seq_gap_verdict_exact_iff (db : DashboardDatabase)
    (nonneg : ∀ row ∈ sequencedRows db, 0 ≤ row.2) :
    ((∃ health review, databaseHealth db = .ok health ∧
        ReviewRun.reviewDatabase db = .ok review ∧ ExactVerdict db health review) ∧
      ∀ (row : DeletionAuditRow) (tool : DashboardDatabase → Except String SeqGapReport),
        tool = databaseHealth ∨ tool = ReviewRun.reviewDatabase →
        ∀ report more, tool db = .ok report → tool (withAuditRow db row) = .ok more →
          ∀ sessionId ∈ report.explainedGapSessions, sessionId ∈ more.explainedGapSessions) ↔
      (auditedRowsTotal db : Int) ≤ I64.maximum.val := by
  constructor
  · rintro ⟨⟨health, _, reported, _⟩, _⟩
    by_contra large
    rw [databaseHealth, seq_gap_report_eq, if_neg large] at reported
    cases reported
  · intro small
    refine ⟨exact_verdict nonneg small, ?_⟩
    rintro row tool (rfl | rfl) report more before after sessionId member
    · exact explained_stays_explained nonneg row saturate_counts before after member
    · exact explained_stays_explained nonneg row id_counts before after member

private def gapRow (seq : Int) : EventRow :=
  { sessionId := 1, seq := .ofInt seq, ts := .ofInt seq, source := .mouse, kind := "mouse_move"
    isSensitive := false, hwnd := none, exe := none, title := none, pid := none, prevExe := none
    prevTitle := none, key := none, modShift := none, modCtrl := none, modAlt := none
    modWin := none, button := none, posX := none, posY := none, durationMs := none
    payload := .mouseMove 0 0 0 1 0 none none none none }

/-- A session with the numbers 1 and 3, and one audit row for each count given. -/
private def prunedSession (counts : List Nat) : DashboardDatabase where
  sessions := ⟨[⟨1, .ofInt 0, none, none, none, none, none⟩], by decide⟩
  events := ⟨[gapRow 1, gapRow 3], by decide⟩
  recordRoutine := none
  deletionAudit := some (counts.map fun rowsDeleted =>
    ⟨"delete_events", .ofInt 9, 1, rowsDeleted, .ofInt 2, .ofInt 2, none⟩)

theorem seq_gap_verdict_exact_pruned :
    ∃ health review, databaseHealth (prunedSession [1]) = .ok health ∧
      ReviewRun.reviewDatabase (prunedSession [1]) = .ok review ∧
      ExactVerdict (prunedSession [1]) health review :=
  ((seq_gap_verdict_exact_iff (prunedSession [1]) (by decide)).mpr (by decide)).1

/-- Two audit rows that each count the largest 64-bit integer leave no report. -/
theorem overflowing_audit_gives_no_verdict :
    ¬∀ db : DashboardDatabase, (∀ row ∈ sequencedRows db, 0 ≤ row.2) →
      ∃ health review, databaseHealth db = .ok health ∧
        ReviewRun.reviewDatabase db = .ok review ∧ ExactVerdict db health review := by
  intro all
  let db := prunedSession [9223372036854775807, 9223372036854775807]
  rcases all db (by decide) with ⟨health, _, reported, _⟩
  have overflow : databaseHealth db = .error "integer overflow" := by rfl
  rw [overflow] at reported
  cases reported

end Report

end Gilbreth.Read
