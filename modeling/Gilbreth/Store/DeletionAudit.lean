import Mathlib
import Gilbreth.Store.Prune

/-!
# What the deletion audit accounts for

A deletion notes every row a statement returns and appends one audit row for each
session it noted. The rows appended then account for the rows lost: session by
session their counts add up, and every lost number lies in one of their spans.
-/

set_option autoImplicit false

namespace Gilbreth.Store

open Gilbreth.Core

section Aggregate

namespace DeletionAuditAggregate

def rowsOf (aggregate : DeletionAuditAggregate) (sessionId : Int) : Nat :=
  ((aggregate.filter fun entry => entry.1 == sessionId).map fun entry => entry.2.rowsDeleted).sum

def Spans (aggregate : DeletionAuditAggregate) (position : Int × I64) : Prop :=
  ∃ entry ∈ aggregate,
    entry.1 = position.1 ∧ entry.2.seqMin ≤ position.2 ∧ position.2 ≤ entry.2.seqMax

variable (aggregate : DeletionAuditAggregate) (sessionId : Int) (seq : I64)

theorem rows_of_cons (entry : Int × DeletionAuditSpan) (session : Int) :
    rowsOf (entry :: aggregate) session =
      (if entry.1 = session then entry.2.rowsDeleted else 0) + rowsOf aggregate session := by
  unfold rowsOf
  by_cases same : entry.1 = session
  · rw [List.filter_cons_of_pos (by simpa using same), List.map_cons, List.sum_cons, if_pos same]
  · rw [List.filter_cons_of_neg (by simpa using same), if_neg same, Nat.zero_add]

theorem spans_cons (entry : Int × DeletionAuditSpan) (position : Int × I64) :
    Spans (entry :: aggregate) position ↔
      (entry.1 = position.1 ∧ entry.2.seqMin ≤ position.2 ∧ position.2 ≤ entry.2.seqMax) ∨
        Spans aggregate position := by
  simp [Spans]

theorem rows_of_note (session : Int) :
    rowsOf (aggregate.note sessionId seq) session =
      (if sessionId = session then 1 else 0) + rowsOf aggregate session := by
  induction aggregate with
  | nil => rw [note, rows_of_cons]
  | cons entry rest induction =>
      rcases entry with ⟨other, span⟩
      rw [note]
      by_cases before : sessionId < other
      · rw [if_pos before, rows_of_cons]
      rw [if_neg before]
      by_cases same : sessionId = other
      · subst same
        rw [if_pos rfl, rows_of_cons, rows_of_cons]
        dsimp only
        split_ifs <;> omega
      · rw [if_neg same, rows_of_cons, rows_of_cons, induction]
        omega

theorem spans_note (position : Int × I64)
    (noted : position = (sessionId, seq) ∨ Spans aggregate position) :
    Spans (aggregate.note sessionId seq) position := by
  induction aggregate with
  | nil =>
      rw [note, spans_cons]
      rcases noted with rfl | ⟨entry, none, _⟩
      · exact Or.inl ⟨rfl, le_refl _, le_refl _⟩
      · cases none
  | cons entry rest induction =>
      rcases entry with ⟨other, span⟩
      rw [note]
      split_ifs with before same
      · rw [spans_cons]
        rcases noted with rfl | earlier
        · exact Or.inl ⟨rfl, le_refl _, le_refl _⟩
        · exact Or.inr earlier
      · rw [spans_cons]
        rcases noted with rfl | earlier
        · exact Or.inl ⟨same.symm, min_le_right _ _, le_max_right _ _⟩
        · rcases (spans_cons rest (other, span) position).mp earlier with here | later
          · exact Or.inl ⟨here.1, (min_le_left _ _).trans here.2.1,
              here.2.2.trans (le_max_left _ _)⟩
          · exact Or.inr later
      · rw [spans_cons]
        rcases noted with rfl | earlier
        · exact Or.inr (induction (Or.inl rfl))
        · rcases (spans_cons rest (other, span) position).mp earlier with here | later
          · exact Or.inl here
          · exact Or.inr (induction (Or.inr later))

theorem rows_of_note_all (deleted : List (Int × I64)) (session : Int) :
    rowsOf (noteAll aggregate deleted) session =
      rowsOf aggregate session + deleted.countP fun position => position.1 == session := by
  induction deleted generalizing aggregate with
  | nil => rfl
  | cons position rest induction =>
      have later := induction (aggregate.note position.1 position.2)
      rw [noteAll, List.foldl_cons, ← noteAll, later, rows_of_note, List.countP_cons]
      simp only [beq_iff_eq]
      omega

theorem spans_note_all (deleted : List (Int × I64)) (position : Int × I64)
    (noted : position ∈ deleted ∨ Spans aggregate position) :
    Spans (noteAll aggregate deleted) position := by
  induction deleted generalizing aggregate with
  | nil =>
      rcases noted with none | earlier
      · cases none
      · exact earlier
  | cons first rest induction =>
      rw [noteAll, List.foldl_cons]
      apply induction
      rcases noted with member | earlier
      · rcases List.mem_cons.mp member with rfl | later
        · exact Or.inr (spans_note aggregate _ _ _ (Or.inl rfl))
        · exact Or.inl later
      · exact Or.inr (spans_note aggregate _ _ _ (Or.inr earlier))

theorem note_all_append (first second : List (Int × I64)) :
    noteAll (noteAll aggregate first) second = noteAll aggregate (first ++ second) := by
  rw [noteAll, noteAll, noteAll, List.foldl_append]

end DeletionAuditAggregate

end Aggregate

section Ledger

/-- The numbers stored and the audit beside them. -/
structure Ledger where
  events : List (Int × I64)
  actions : List (Int × I64)
  audit : List DeletionAuditRow
  eventsDistinct : events.Nodup
  actionsDistinct : actions.Nodup

/-- The numbers of a session that are gone. -/
def lost (before after : List (Int × I64)) : List (Int × I64) :=
  before.filter fun position => decide (position ∉ after)

def rowsLost (before after : Ledger) (sessionId : Int) : Nat :=
  (lost before.events after.events).countP (fun position => position.1 == sessionId) +
    (lost before.actions after.actions).countP fun position => position.1 == sessionId

def auditedRows (rows : List DeletionAuditRow) (sessionId : Int) : Nat :=
  ((rows.filter fun row => row.sessionId == sessionId).map DeletionAuditRow.rowsDeleted).sum

def AuditSpans (rows : List DeletionAuditRow) (position : Int × I64) : Prop :=
  ∃ row ∈ rows,
    row.sessionId = position.1 ∧ row.seqMin ≤ position.2 ∧ position.2 ≤ row.seqMax

/-- The audit rows added account for every row lost, and no row is new. -/
structure Accounted (before after : Ledger) (added : List DeletionAuditRow) : Prop where
  audit : after.audit = before.audit ++ added
  events : ∀ position ∈ after.events, position ∈ before.events
  actions : ∀ position ∈ after.actions, position ∈ before.actions
  rowsDeleted : ∀ sessionId, auditedRows added sessionId = rowsLost before after sessionId
  spans : ∀ position,
    position ∈ lost before.events after.events ∨ position ∈ lost before.actions after.actions →
      AuditSpans added position

/-- What a table had is what was deleted and what is left. -/
def Taken (before deleted after : List (Int × I64)) : Prop := (deleted ++ after).Perm before

variable {before deleted after : List (Int × I64)}

theorem Taken.none (positions : List (Int × I64)) : Taken positions [] positions :=
  List.Perm.refl _

theorem Taken.trans {middle more : List (Int × I64)} (first : Taken before deleted middle)
    (second : Taken middle more after) : Taken before (deleted ++ more) after := by
  have joined := (second.append_left deleted).trans first
  rwa [← List.append_assoc] at joined

theorem Taken.lost_perm (taken : Taken before deleted after) (distinct : before.Nodup) :
    (lost before after).Perm deleted := by
  have apart : (deleted ++ after).Nodup := taken.nodup_iff.mpr distinct
  have gone : ∀ position ∈ deleted, decide (position ∉ after) = true := by
    intro position member
    exact decide_eq_true fun left => (List.disjoint_of_nodup_append apart) member left
  have kept : ∀ position ∈ after, ¬decide (position ∉ after) = true := by
    intro position member
    simpa using member
  have filtered := (taken.filter fun position => decide (position ∉ after)).symm
  rw [List.filter_append, List.filter_eq_self.mpr gone, List.filter_eq_nil_iff.mpr kept,
    List.append_nil] at filtered
  exact filtered

theorem Taken.subset (taken : Taken before deleted after) {position : Int × I64}
    (member : position ∈ after) : position ∈ before :=
  taken.mem_iff.mp (List.mem_append_right _ member)

theorem audited_rows_record (kind : String) (performedAt : I64) (cutoffMs : Option I64)
    (aggregate : DeletionAuditAggregate) (sessionId : Int) :
    auditedRows (recordDeletionAudit kind performedAt cutoffMs aggregate []) sessionId =
      aggregate.rowsOf sessionId := by
  rw [recordDeletionAudit, List.nil_append, auditedRows, List.filter_map, List.map_map]
  rfl

theorem audit_spans_record (kind : String) (performedAt : I64) (cutoffMs : Option I64)
    {aggregate : DeletionAuditAggregate} {position : Int × I64}
    (noted : aggregate.Spans position) :
    AuditSpans (recordDeletionAudit kind performedAt cutoffMs aggregate []) position := by
  rcases noted with ⟨entry, member, inside⟩
  rw [recordDeletionAudit, List.nil_append]
  exact ⟨_, List.mem_map_of_mem member, inside⟩

theorem accounted_of_taken {before after : Ledger} {events actions noted : List (Int × I64)}
    (tookEvents : Taken before.events events after.events)
    (tookActions : Taken before.actions actions after.actions)
    (all : noted.Perm (events ++ actions)) (kind : String) (performedAt : I64)
    (cutoffMs : Option I64)
    (recorded : after.audit =
      recordDeletionAudit kind performedAt cutoffMs (noteAll [] noted) before.audit) :
    Accounted before after
      (recordDeletionAudit kind performedAt cutoffMs (noteAll [] noted) []) := by
  have lostEvents := tookEvents.lost_perm before.eventsDistinct
  have lostActions := tookActions.lost_perm before.actionsDistinct
  refine ⟨?_, fun _ => tookEvents.subset, fun _ => tookActions.subset, ?_, ?_⟩
  · rw [recorded, recordDeletionAudit, recordDeletionAudit, List.nil_append]
  · intro sessionId
    rw [audited_rows_record, DeletionAuditAggregate.rows_of_note_all, all.countP_eq,
      List.countP_append, rowsLost, lostEvents.countP_eq, lostActions.countP_eq]
    exact Nat.zero_add _
  · intro position gone
    apply audit_spans_record
    apply DeletionAuditAggregate.spans_note_all
    left
    rw [all.mem_iff, List.mem_append]
    exact gone.imp lostEvents.mem_iff.mp lostActions.mem_iff.mp

theorem accounted_of_events {before after : Ledger} (deleted : List (Int × I64))
    (took : Taken before.events deleted after.events) (same : after.actions = before.actions)
    (kind : String) (performedAt : I64) (cutoffMs : Option I64)
    (recorded : after.audit =
      recordDeletionAudit kind performedAt cutoffMs (noteAll [] deleted) before.audit) :
    Accounted before after
      (recordDeletionAudit kind performedAt cutoffMs (noteAll [] deleted) []) := by
  have kept : Taken before.actions [] after.actions := by
    rw [same]
    exact .none _
  exact accounted_of_taken took kept (.of_eq (List.append_nil deleted).symm) kind performedAt
    cutoffMs recorded

theorem accounted_of_actions {before after : Ledger} (deleted : List (Int × I64))
    (took : Taken before.actions deleted after.actions) (same : after.events = before.events)
    (kind : String) (performedAt : I64) (cutoffMs : Option I64)
    (recorded : after.audit =
      recordDeletionAudit kind performedAt cutoffMs (noteAll [] deleted) before.audit) :
    Accounted before after
      (recordDeletionAudit kind performedAt cutoffMs (noteAll [] deleted) []) := by
  have kept : Taken before.events [] after.events := by
    rw [same]
    exact .none _
  exact accounted_of_taken kept took (.of_eq (List.nil_append deleted).symm) kind performedAt
    cutoffMs recorded

theorem Accounted.refl (ledger : Ledger) : Accounted ledger ledger [] := by
  have nothing : ∀ positions : List (Int × I64), lost positions positions = [] := by
    intro positions
    rw [lost, List.filter_eq_nil_iff]
    intro position member
    simpa using member
  refine ⟨(List.append_nil _).symm, fun _ => id, fun _ => id, ?_, ?_⟩
  · intro sessionId
    rw [rowsLost, nothing, nothing]
    rfl
  · intro position gone
    rw [nothing, nothing] at gone
    rcases gone with none | none <;> cases none

theorem count_lost_trans {first second third : List (Int × I64)}
    (secondOf : ∀ position ∈ second, position ∈ first)
    (thirdOf : ∀ position ∈ third, position ∈ second) (distinct : first.Nodup)
    (secondDistinct : second.Nodup) (property : Int × I64 → Bool) :
    (lost first third).countP property =
      (lost first second).countP property + (lost second third).countP property := by
  have split : (lost first third).Perm (lost first second ++ lost second third) := by
    apply (List.perm_ext_iff_of_nodup (distinct.filter _) ?_).mpr
    · intro position
      simp only [lost, List.mem_append, List.mem_filter, decide_eq_true_eq]
      constructor
      · rintro ⟨member, gone⟩
        by_cases kept : position ∈ second
        · exact Or.inr ⟨kept, gone⟩
        · exact Or.inl ⟨member, kept⟩
      · rintro (⟨member, gone⟩ | ⟨kept, gone⟩)
        · exact ⟨member, fun left => gone (thirdOf position left)⟩
        · exact ⟨secondOf position kept, gone⟩
    · refine List.nodup_append.mpr ⟨distinct.filter _, secondDistinct.filter _, ?_⟩
      intro left inLeft right inRight same
      simp only [lost, List.mem_filter, decide_eq_true_eq] at inLeft inRight
      exact inLeft.2 (same ▸ inRight.1)
  rw [split.countP_eq, List.countP_append]

theorem Accounted.trans {first second third : Ledger} {added more : List DeletionAuditRow}
    (left : Accounted first second added) (right : Accounted second third more) :
    Accounted first third (added ++ more) := by
  refine ⟨?_, fun position member => left.events position (right.events position member),
    fun position member => left.actions position (right.actions position member), ?_, ?_⟩
  · rw [right.audit, left.audit, List.append_assoc]
  · intro sessionId
    have sum : auditedRows (added ++ more) sessionId =
        auditedRows added sessionId + auditedRows more sessionId := by
      rw [auditedRows, List.filter_append, List.map_append, List.sum_append]
      rfl
    rw [sum, left.rowsDeleted, right.rowsDeleted, rowsLost, rowsLost, rowsLost,
      count_lost_trans left.events right.events first.eventsDistinct second.eventsDistinct,
      count_lost_trans left.actions right.actions first.actionsDistinct second.actionsDistinct]
    omega
  · intro position gone
    have spanned : AuditSpans added position ∨ AuditSpans more position := by
      rcases gone with gone | gone
      · rw [lost, List.mem_filter] at gone
        by_cases kept : position ∈ second.events
        · exact Or.inr (right.spans position (Or.inl (List.mem_filter.mpr ⟨kept, gone.2⟩)))
        · exact Or.inl (left.spans position
            (Or.inl (List.mem_filter.mpr ⟨gone.1, decide_eq_true kept⟩)))
      · rw [lost, List.mem_filter] at gone
        by_cases kept : position ∈ second.actions
        · exact Or.inr (right.spans position (Or.inr (List.mem_filter.mpr ⟨kept, gone.2⟩)))
        · exact Or.inl (left.spans position
            (Or.inr (List.mem_filter.mpr ⟨gone.1, decide_eq_true kept⟩)))
    rcases spanned with ⟨row, member, inside⟩ | ⟨row, member, inside⟩
    · exact ⟨row, List.mem_append_left _ member, inside⟩
    · exact ⟨row, List.mem_append_right _ member, inside⟩

end Ledger

end Gilbreth.Store
