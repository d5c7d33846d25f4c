import Gilbreth.Library.SequenceGaps
import Gilbreth.Read.Spans
import Gilbreth.Store.Database
import Mathlib.Algebra.Order.BigOperators.Group.List

/-!
# The gap verdict of the two health tools

`database_health` and `review_database` flag the sessions whose numbers repeat or
leave one out, and take a flagged session for explained when the audit of the
deletions accounts for its gaps. The two count in different arithmetic: Rust
saturates at 64 bits, Python's integers do not.
-/

set_option autoImplicit false

namespace Gilbreth.Read

open Gilbreth.Core Gilbreth.Store SequenceGaps

def FitsI64 (value : Int) : Prop := I64.minimum.val ≤ value ∧ value ≤ I64.maximum.val

instance (value : Int) : Decidable (FitsI64 value) := inferInstanceAs (Decidable (_ ∧ _))

/-- `SUM` of an integer column from a partial sum: SQLite raises an error on overflow. -/
def sqlSum (sum : Int) : List Int → Except String Int
  | [] => .ok sum
  | value :: rest =>
      if FitsI64 (sum + value) then sqlSum (sum + value) rest else .error "integer overflow"

/-- One `deletion_audit` row's slice of a session. -/
structure AuditSpan where
  seqMin : I64
  seqMax : I64
  performedAt : I64
  rowsDeleted : Nat
deriving DecidableEq

def AuditSpan.of (row : DeletionAuditRow) : AuditSpan :=
  ⟨row.seqMin, row.seqMax, row.performedAt, row.rowsDeleted⟩

def AuditSpan.seqs (span : AuditSpan) : Span := (span.seqMin.val, span.seqMax.val)

/-- What either tool reports on the numbers of the sessions. -/
structure SeqGapReport where
  seqGapSessions : List Int
  explainedGapSessions : List Int
  deletionAuditRowsDeleted : Option Int
deriving DecidableEq

section Rows

variable (db : DashboardDatabase)

/-- The session and number of every event, then of every recorded action. -/
def sequencedRows : List (Int × Int) :=
  (db.events.rows.map fun row => (row.sessionId, row.seq.val)) ++
    match db.recordRoutine with
    | none => []
    | some routine => routine.actionEvents.rows.map fun row => (row.sessionId, row.seq.val)

def sessionSeqs (sessionId : Int) : List Int :=
  ((sequencedRows db).filter fun row => row.1 == sessionId).map Prod.snd

/-- `COUNT(*) != MAX(seq) - MIN(seq) + 1 OR COUNT(*) != COUNT(DISTINCT seq)` -/
def seqGap (seqs : List Int) : Bool :=
  match seqs.min?, seqs.max? with
  | some lowest, some highest =>
      decide ((seqs.length : Int) ≠ highest - lowest + 1 ∨ seqs.length ≠ seqs.dedup.length)
  | _, _ => false

def flaggedGapSessions : List Int :=
  ((((sequencedRows db).map Prod.fst).dedup.filter fun sessionId =>
    seqGap (sessionSeqs db sessionId))).mergeSort fun left right => decide (left ≤ right)

def startedAt (sessionId : Int) : Option I64 :=
  (db.sessions.rows.find? fun row => row.sessionId == sessionId).map SessionRow.startedAt

/-- The spans of a session's audit rows without those stamped before it started. -/
def sessionSpans (audit : List DeletionAuditRow) (sessionId : Int) : List AuditSpan :=
  let spans := (audit.filter fun row => row.sessionId == sessionId).map AuditSpan.of
  match startedAt db sessionId with
  | none => spans
  | some startedAt => spans.filter fun span => decide (startedAt ≤ span.performedAt)

end Rows

section Counting

-- What a sum comes to in the tool's arithmetic.
variable (cap : Int → Int)

/-- The loop over the sorted spans with the last merged one taken out. -/
def mergeAuditFrom (last : Span) : List Span → List Span
  | [] => [last]
  | span :: rest =>
      if span.1 ≤ cap (last.2 + 1) then mergeAuditFrom (last.1, max last.2 span.2) rest
      else last :: mergeAuditFrom span rest

def mergedSpans (spans : List Span) : List Span :=
  match spans.mergeSort tupleLe with
  | [] => []
  | span :: rest => mergeAuditFrom cap span rest

/-- The loop over the sorted numbers: how many are missing, or none at the first
repetition or the first run outside the merged spans. -/
def missingTotal (merged : List Span) : Option Int → Int → List Int → Option Int
  | _, missing, [] => some missing
  | none, missing, seq :: rest => missingTotal merged (some seq) missing rest
  | some previous, missing, seq :: rest =>
      if previous = seq then none
      else if previous + 1 < seq then
        if merged.any fun span => decide (span.1 ≤ previous + 1 ∧ seq - 1 ≤ span.2) then
          missingTotal merged (some seq) (cap (missing + (seq - 1 - (previous + 1) + 1))) rest
        else none
      else missingTotal merged (some seq) missing rest

def gapIsExplained (merge : List Span → List Span) (seqs : List Int) (spans : List AuditSpan) :
    Bool :=
  if spans = [] then false
  else
    let merged := merge (spans.map AuditSpan.seqs)
    let auditedTotal := spans.foldl (fun sum span => cap (sum + span.rowsDeleted)) 0
    match missingTotal cap merged none 0 (seqs.mergeSort fun left right => decide (left ≤ right))
      with
    | none => false
    | some missing => decide (missing ≤ auditedTotal)

end Counting

def seqGapReport (explained : List Int → List AuditSpan → Bool) (db : DashboardDatabase) :
    Except String SeqGapReport := do
  let flagged := flaggedGapSessions db
  let total ← match db.deletionAudit with
    | none => .ok none
    | some audit =>
        (sqlSum 0 (audit.map fun row => (row.rowsDeleted : Int))).map some
  let sessionExplained := fun sessionId =>
    explained (sessionSeqs db sessionId) (sessionSpans db (db.deletionAudit.getD []) sessionId)
  .ok {
    seqGapSessions := flagged.filter fun sessionId => !sessionExplained sessionId
    explainedGapSessions := flagged.filter sessionExplained
    deletionAuditRowsDeleted := total }

/-- `saturating_add` of 64-bit integers, on their exact sum. -/
def saturate (value : Int) : Int := (I64.ofInt value).val

def mergedAuditSpans : List Span → List Span := mergedSpans saturate

def sessionGapIsExplained : List Int → List AuditSpan → Bool :=
  gapIsExplained saturate mergedAuditSpans

def databaseHealth : DashboardDatabase → Except String SeqGapReport :=
  seqGapReport sessionGapIsExplained

namespace ReviewRun

def mergedAuditSpans : List Span → List Span := mergedSpans id

def sessionGapIsExplained : List Int → List AuditSpan → Bool :=
  gapIsExplained id mergedAuditSpans

def reviewDatabase : DashboardDatabase → Except String SeqGapReport :=
  seqGapReport sessionGapIsExplained

end ReviewRun

section Flag

def Gapped (seqs : List Int) : Prop := ¬seqs.Nodup ∨ ∃ seq, Missing seqs seq

theorem seq_gap_iff (seqs : List Int) : seqGap seqs = true ↔ Gapped seqs := by
  cases least : seqs.min? with
  | none =>
      have empty := List.min?_eq_none_iff.mp least
      subst empty
      simp [seqGap, Gapped, Missing]
  | some lowest =>
      cases most : seqs.max? with
      | none =>
          have empty := List.max?_eq_none_iff.mp most
          subst empty
          simp at least
      | some highest =>
          rw [seqGap, least, most]
          have width := length_eq_width_iff (List.min?_eq_some_iff.mp least)
            (List.max?_eq_some_iff.mp most)
          rw [decide_eq_true_iff, Gapped]
          by_cases distinct : seqs.Nodup
          · rw [List.dedup_eq_self.mpr distinct, ne_eq, width distinct]
            simp [distinct]
          · have shorter : seqs.length ≠ seqs.dedup.length := by
              intro same
              exact distinct (List.dedup_eq_self.mp
                ((List.dedup_sublist seqs).eq_of_length same.symm))
            simp [distinct, shorter]

theorem sql_sum_eq {values : List Int} (nonneg : ∀ value ∈ values, 0 ≤ value) {sum : Int}
    (start : 0 ≤ sum) (fits : sum ≤ I64.maximum.val) :
    sqlSum sum values =
      if sum + values.sum ≤ I64.maximum.val then .ok (sum + values.sum)
      else .error "integer overflow" := by
  induction values generalizing sum with
  | nil => rw [sqlSum, List.sum_nil, Int.add_zero, if_pos fits]
  | cons value rest induction =>
      have here : 0 ≤ value := nonneg value List.mem_cons_self
      have later : ∀ value ∈ rest, 0 ≤ value := fun value member =>
        nonneg value (List.mem_cons_of_mem _ member)
      have restSum : 0 ≤ rest.sum := List.sum_nonneg later
      have least : I64.minimum.val ≤ 0 := by decide
      rw [sqlSum, List.sum_cons, ← Int.add_assoc]
      by_cases small : sum + value ≤ I64.maximum.val
      · have inside : FitsI64 (sum + value) := ⟨by omega, small⟩
        rw [if_pos inside, induction later (by omega) small]
      · have outside : ¬FitsI64 (sum + value) := fun inside => small inside.2
        rw [if_neg outside, if_neg (by omega)]

end Flag

end Gilbreth.Read
