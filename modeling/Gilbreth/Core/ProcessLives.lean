import Mathlib.Data.Finset.Basic
import Gilbreth.Core.ProcessTracker
import Gilbreth.Library.Alternation
import Gilbreth.Library.Machine

/-!
# Transitions replay the sweeps

A pid's life is what the sweeps since its start have shown of it. The tracker carries one
identity for each pid; it is the last showing of the life with the last token the life knew.
-/

set_option autoImplicit false

namespace Gilbreth.Core

open Alternation (Mark)

/-- The showings of a live process, latest first; empty where there is none. -/
abbrev ProcessLife := List ProcessIdentity

namespace ProcessLife

/-- The last start token that a sweep of this life knew. -/
def knownToken (life : ProcessLife) : Option UInt64 := life.findSome? ProcessIdentity.startTimeId

/-- The last showing, with the token the life knows. -/
def identity (life : ProcessLife) : Option ProcessIdentity :=
  life.head?.map fun latest => { latest with startTimeId := knownToken life }

/-- Another name, or a known token that differs from the last known one. -/
def restarts (life : ProcessLife) (next : ProcessIdentity) : Bool :=
  (life.head?.any fun latest => latest.compareName != next.compareName) ||
    (knownToken life).any fun known => next.startTimeId.any fun token => known != token

def observe (life : ProcessLife) : Option ProcessIdentity → ProcessLife
  | none => []
  | some next => if restarts life next then [next] else next :: life

/-- The transitions due when a sweep shows a pid, or shows it no longer. -/
def transitions (life : ProcessLife) (seen : Option ProcessIdentity) : List ProcessTransition :=
  match identity life, seen with
  | some previous, some next =>
      if restarts life next then [.exited previous, .started next] else []
  | some previous, none => [.exited previous]
  | none, some next => [.started next]
  | none, none => []

/-- The carried identity is the same process as a showing that does not restart the life. -/
theorem same_process (latest : ProcessIdentity) (earlier : ProcessLife)
    (next : ProcessIdentity) :
    ({ latest with startTimeId := knownToken (latest :: earlier) } : ProcessIdentity).isSameProcess
      next = !restarts (latest :: earlier) next := by
  simp only [ProcessIdentity.isSameProcess, restarts, List.head?_cons, Option.any_some]
  cases knownToken (latest :: earlier) with
  | none => simp [bne]
  | some known =>
      cases next.startTimeId with
      | none => simp [bne]
      | some token => simp [bne]

theorem refreshed (latest : ProcessIdentity) (earlier : ProcessLife) (next : ProcessIdentity) :
    some (({ latest with startTimeId := knownToken (latest :: earlier) } :
      ProcessIdentity).refreshedWith next) = identity (next :: latest :: earlier) := by
  cases next with
  | mk pid compareName exe exeSource startTimeId =>
    cases startTimeId <;> rfl

theorem identity_single (next : ProcessIdentity) : identity [next] = some next := by
  cases next with
  | mk pid compareName exe exeSource startTimeId =>
    cases startTimeId <;> rfl

end ProcessLife

/-- What one pid's row of the comparison leaves. -/
def processTurn (previous next : Option ProcessIdentity) :
    List ProcessTransition × Option ProcessIdentity :=
  match previous, next with
  | some previous, some next =>
      if previous.isSameProcess next then ([], some (previous.refreshedWith next))
      else ([.exited previous, .started next], some next)
  | some previous, none => ([.exited previous], none)
  | none, some next => ([.started next], some next)
  | none, none => ([], none)

theorem ProcessIdentity.refreshed_with_pid (previous next : ProcessIdentity) :
    (previous.refreshedWith next).pid = next.pid := by
  unfold ProcessIdentity.refreshedWith
  split_ifs <;> rfl

theorem process_turn_pid {pid : UInt32} {previous next : Option ProcessIdentity}
    (before : ∀ identity, previous = some identity → identity.pid = pid)
    (now : ∀ identity, next = some identity → identity.pid = pid) :
    (∀ transition ∈ (processTurn previous next).1, transition.identity.pid = pid) ∧
      ∀ identity, (processTurn previous next).2 = some identity → identity.pid = pid := by
  cases previous with
  | none =>
      cases next with
      | none => simp [processTurn]
      | some next => simpa [processTurn, ProcessTransition.identity] using now
  | some previous =>
      cases next with
      | none => simpa [processTurn, ProcessTransition.identity] using before
      | some next =>
          have previousPid := before previous rfl
          have nextPid := now next rfl
          unfold processTurn
          dsimp only
          split_ifs
          · simp [ProcessIdentity.refreshed_with_pid, nextPid]
          · simp [ProcessTransition.identity, previousPid, nextPid]

theorem process_turn_life (life : ProcessLife) (seen : Option ProcessIdentity) :
    processTurn (ProcessLife.identity life) seen =
      (life.transitions seen, ProcessLife.identity (life.observe seen)) := by
  cases life with
  | nil =>
      cases seen with
      | none => rfl
      | some next =>
          change ([ProcessTransition.started next], some next) = (_, ProcessLife.identity [next])
          rw [ProcessLife.identity_single]
          rfl
  | cons latest earlier =>
      cases seen with
      | none => rfl
      | some next =>
          have same := ProcessLife.same_process latest earlier next
          have refreshed := ProcessLife.refreshed latest earlier next
          simp only [processTurn, ProcessLife.identity, ProcessLife.transitions,
            ProcessLife.observe, List.head?_cons, Option.map_some, same]
          cases restarted : ProcessLife.restarts (latest :: earlier) next with
          | false => simp [refreshed, ProcessLife.identity]
          | true => simp [ProcessLife.knownToken]

section Sweeps

variable [Externals]

/-- What a sweep shows of a pid: the last of its usable rows. -/
def shownAs (snapshot : List ProcessSnapshotEntry) (pid : UInt32) : Option ProcessIdentity :=
  ((snapshot.filter ProcessSnapshotEntry.named).reverse.find? fun entry => entry.pid == pid).map
    ProcessIdentity.fromEntry

omit [Externals] in
def shownPids (snapshot : List ProcessSnapshotEntry) : Finset UInt32 :=
  ((snapshot.filter ProcessSnapshotEntry.named).map ProcessSnapshotEntry.pid).toFinset

namespace ProcessTracker

theorem fold_entries_lookup (entries : List ProcessSnapshotEntry) (start : ProcessMap)
    (pid : UInt32) :
    (entries.foldl (fun found entry => found.insert entry.pid (ProcessIdentity.fromEntry entry))
        start).lookup pid =
      ((entries.reverse.find? fun entry => entry.pid == pid).map
        ProcessIdentity.fromEntry).or (start.lookup pid) := by
  induction entries using List.reverseRecOn with
  | nil => rfl
  | append_singleton entries entry induction =>
      rw [List.foldl_append, List.reverse_append]
      simp only [List.foldl_cons, List.foldl_nil, List.reverse_singleton, List.singleton_append,
        List.find?_cons]
      by_cases same : entry.pid = pid
      · subst same
        rw [AList.lookup_insert, beq_self_eq_true]
        rfl
      · have differs : (entry.pid == pid) = false := beq_false_of_ne same
        rw [AList.lookup_insert_ne (Ne.symm same), induction, differs]

theorem entries_lookup (snapshot : List ProcessSnapshotEntry) (pid : UInt32) :
    (entriesOf snapshot).lookup pid = shownAs snapshot pid := by
  rw [entriesOf, fold_entries_lookup, AList.lookup_empty, Option.or_none, shownAs]

theorem shown_iff (snapshot : List ProcessSnapshotEntry) (pid : UInt32) :
    (shownAs snapshot pid).isSome ↔ pid ∈ shownPids snapshot := by
  rw [shownAs, Option.isSome_map, List.find?_isSome]
  simp [shownPids]

theorem entries_empty_iff (snapshot : List ProcessSnapshotEntry) :
    (entriesOf snapshot).keys.isEmpty = !snapshot.any ProcessSnapshotEntry.named := by
  cases usable : snapshot.any ProcessSnapshotEntry.named with
  | true =>
      have ⟨entry, member, named⟩ := List.any_eq_true.mp usable
      have shown : entry.pid ∈ shownPids snapshot := by
        rw [shownPids, List.mem_toFinset]
        exact List.mem_map_of_mem (List.mem_filter.mpr ⟨member, named⟩)
      rw [← shown_iff, ← entries_lookup, AList.lookup_isSome, AList.mem_keys] at shown
      cases keys : (entriesOf snapshot).keys with
      | nil =>
          rw [keys] at shown
          cases shown
      | cons key keys => rfl
  | false =>
      have none : snapshot.filter ProcessSnapshotEntry.named = [] := by
        apply List.filter_eq_nil_iff.mpr
        intro entry member named
        have some := List.any_eq_true.mpr ⟨entry, member, named⟩
        rw [usable] at some
        cases some
      rw [entriesOf, none]
      rfl

omit [Externals] in
theorem diff_pid_turn (live entries : ProcessMap) (found : List ProcessTransition × ProcessMap)
    (pid : UInt32) :
    diffPid live entries found pid =
      (found.1 ++ (processTurn (live.lookup pid) (entries.lookup pid)).1,
        (processTurn (live.lookup pid) (entries.lookup pid)).2.elim found.2
          (found.2.insert pid)) := by
  unfold diffPid processTurn
  cases live.lookup pid with
  | none =>
      cases entries.lookup pid with
      | none => simp
      | some next => rfl
  | some previous =>
      cases entries.lookup pid with
      | none => rfl
      | some next =>
          dsimp only
          split_ifs
          · simp
          · rfl

omit [Externals] in
theorem fold_diff (live entries : ProcessMap) (pids : List UInt32) (distinct : pids.Nodup)
    (found : List ProcessTransition × ProcessMap) :
    (pids.foldl (diffPid live entries) found).1 =
        found.1 ++ pids.flatMap (fun pid =>
          (processTurn (live.lookup pid) (entries.lookup pid)).1) ∧
      ∀ pid, (pids.foldl (diffPid live entries) found).2.lookup pid =
        if pid ∈ pids then
          (processTurn (live.lookup pid) (entries.lookup pid)).2.or (found.2.lookup pid)
        else found.2.lookup pid := by
  induction pids generalizing found with
  | nil => simp
  | cons head pids induction =>
      have ⟨fresh, distinct⟩ := List.nodup_cons.mp distinct
      have rest := induction distinct (diffPid live entries found head)
      have turned := diff_pid_turn live entries found head
      rw [List.foldl_cons]
      constructor
      · rw [rest.1, turned]
        simp
      · intro pid
        rw [rest.2, turned]
        dsimp only
        by_cases same : pid = head
        · subst same
          rw [if_neg fresh, if_pos List.mem_cons_self]
          cases (processTurn (live.lookup pid) (entries.lookup pid)).2 with
          | none => rfl
          | some next => simp
        · have other : ((processTurn (live.lookup head) (entries.lookup head)).2.elim found.2
              (found.2.insert head)).lookup pid = found.2.lookup pid := by
            cases (processTurn (live.lookup head) (entries.lookup head)).2 with
            | none => rfl
            | some next => exact AList.lookup_insert_ne same
          rw [other]
          simp [same]

omit [Externals] in
theorem mem_compared_pids (live entries : ProcessMap) (pid : UInt32) :
    pid ∈ comparedPids live entries ↔ pid ∈ entries ∨ pid ∈ live := by
  simp [comparedPids, AList.mem_keys]

omit [Externals] in
theorem compared_pids_nodup (live entries : ProcessMap) : (comparedPids live entries).Nodup :=
  List.nodup_dedup _

omit [Externals] in
/-- What a sweep does once its usable rows are filed by pid. -/
def sweep (tracker : ProcessTracker) (entries : ProcessMap) :
    ProcessTracker × List ProcessTransition :=
  if entries.keys.isEmpty then (tracker, [])
  else if !tracker.seeded then (⟨true, entries⟩, [])
  else
    let found := (comparedPids tracker.live entries).foldl (diffPid tracker.live entries) ([], ∅)
    (⟨tracker.seeded, found.2⟩, found.1)

theorem apply_snapshot_sweep (tracker : ProcessTracker) (snapshot : List ProcessSnapshotEntry) :
    tracker.applySnapshot snapshot = tracker.sweep (entriesOf snapshot) := rfl

omit [Externals] in
theorem sweep_seeded (tracker : ProcessTracker) (entries : ProcessMap)
    (seeded : tracker.seeded = true) (usable : entries.keys.isEmpty = false) :
    (tracker.sweep entries).1.seeded = true ∧
      (tracker.sweep entries).2 = (comparedPids tracker.live entries).flatMap (fun pid =>
        (processTurn (tracker.live.lookup pid) (entries.lookup pid)).1) ∧
      ∀ pid, (tracker.sweep entries).1.live.lookup pid =
        (processTurn (tracker.live.lookup pid) (entries.lookup pid)).2 := by
  have folded := fold_diff tracker.live entries _
    (compared_pids_nodup tracker.live entries) ([], ∅)
  simp only [sweep, usable, seeded, Bool.not_true, Bool.false_eq_true, if_false]
  refine ⟨trivial, by simpa using folded.1, ?_⟩
  intro pid
  rw [folded.2]
  by_cases compared : pid ∈ comparedPids tracker.live entries
  · rw [if_pos compared]
    simp
  · rw [if_neg compared]
    rw [mem_compared_pids, not_or, ← AList.lookup_eq_none, ← AList.lookup_eq_none] at compared
    rw [compared.1, compared.2]
    rfl

theorem apply_snapshot_seeded (tracker : ProcessTracker) (snapshot : List ProcessSnapshotEntry)
    (seeded : tracker.seeded = true) (usable : snapshot.any ProcessSnapshotEntry.named = true) :
    (tracker.applySnapshot snapshot).1.seeded = true ∧
      (tracker.applySnapshot snapshot).2 =
        (comparedPids tracker.live (entriesOf snapshot)).flatMap (fun pid =>
          (processTurn (tracker.live.lookup pid) (shownAs snapshot pid)).1) ∧
      ∀ pid, (tracker.applySnapshot snapshot).1.live.lookup pid =
        (processTurn (tracker.live.lookup pid) (shownAs snapshot pid)).2 := by
  have notEmpty : (entriesOf snapshot).keys.isEmpty = false := by
    rw [entries_empty_iff, usable]
    rfl
  have swept := sweep_seeded tracker (entriesOf snapshot) seeded notEmpty
  simp only [entries_lookup] at swept
  exact swept

theorem apply_snapshot_first (tracker : ProcessTracker) (snapshot : List ProcessSnapshotEntry)
    (fresh : tracker.seeded = false) (usable : snapshot.any ProcessSnapshotEntry.named = true) :
    tracker.applySnapshot snapshot = (⟨true, entriesOf snapshot⟩, []) := by
  have notEmpty : (entriesOf snapshot).keys.isEmpty = false := by
    rw [entries_empty_iff, usable]
    rfl
  simp [applySnapshot, notEmpty, fresh]

theorem apply_snapshot_unusable (tracker : ProcessTracker)
    (snapshot : List ProcessSnapshotEntry)
    (unusable : snapshot.any ProcessSnapshotEntry.named = false) :
    tracker.applySnapshot snapshot = (tracker, []) := by
  have empty : (entriesOf snapshot).keys.isEmpty = true := by
    rw [entries_empty_iff, unusable]
    rfl
  simp only [applySnapshot, empty, if_true]

def machine : Machine ProcessTracker (List ProcessSnapshotEntry) (List ProcessTransition) :=
  ⟨applySnapshot⟩

end ProcessTracker

omit [Externals] in
def usableSweeps (snapshots : List (List ProcessSnapshotEntry)) :
    List (List ProcessSnapshotEntry) :=
  snapshots.filter fun snapshot => snapshot.any ProcessSnapshotEntry.named

def lifeAt (snapshots : List (List ProcessSnapshotEntry)) (pid : UInt32) : ProcessLife :=
  (usableSweeps snapshots).foldl (fun life snapshot => life.observe (shownAs snapshot pid)) []

theorem life_at_usable (snapshots : List (List ProcessSnapshotEntry))
    {snapshot : List ProcessSnapshotEntry} (pid : UInt32)
    (usable : snapshot.any ProcessSnapshotEntry.named = true) :
    lifeAt (snapshots ++ [snapshot]) pid =
      (lifeAt snapshots pid).observe (shownAs snapshot pid) := by
  simp [lifeAt, usableSweeps, usable]

theorem life_at_unusable (snapshots : List (List ProcessSnapshotEntry))
    {snapshot : List ProcessSnapshotEntry} (pid : UInt32)
    (unusable : snapshot.any ProcessSnapshotEntry.named = false) :
    lifeAt (snapshots ++ [snapshot]) pid = lifeAt snapshots pid := by
  simp [lifeAt, usableSweeps, unusable]

theorem shown_as_pid {snapshot : List ProcessSnapshotEntry} {pid : UInt32}
    {shown : ProcessIdentity} (found : shownAs snapshot pid = some shown) : shown.pid = pid := by
  have ⟨entry, first, same⟩ := Option.map_eq_some_iff.mp found
  have isPid := List.find?_some first
  subst same
  exact eq_of_beq isPid

theorem life_at_pid (snapshots : List (List ProcessSnapshotEntry)) (pid : UInt32) :
    ∀ shown ∈ lifeAt snapshots pid, shown.pid = pid := by
  induction snapshots using List.reverseRecOn with
  | nil => simp [lifeAt, usableSweeps]
  | append_singleton snapshots snapshot induction =>
      cases usable : snapshot.any ProcessSnapshotEntry.named with
      | false =>
          rw [life_at_unusable snapshots pid usable]
          exact induction
      | true =>
          rw [life_at_usable snapshots pid usable]
          cases seen : shownAs snapshot pid with
          | none => simp [ProcessLife.observe]
          | some next =>
              have isPid := shown_as_pid seen
              unfold ProcessLife.observe
              dsimp only
              split_ifs
              · simpa using isPid
              · intro shown member
                cases List.mem_cons.mp member with
                | inl same => rw [same]; exact isPid
                | inr earlier => exact induction shown earlier

theorem life_identity_pid {snapshots : List (List ProcessSnapshotEntry)} {pid : UInt32}
    {identity : ProcessIdentity} (found : (lifeAt snapshots pid).identity = some identity) :
    identity.pid = pid := by
  have ⟨latest, first, same⟩ := Option.map_eq_some_iff.mp found
  subst same
  exact life_at_pid snapshots pid latest (List.mem_of_head? first)

namespace ProcessTracker

theorem run_lives (snapshots : List (List ProcessSnapshotEntry)) :
    (machine.run default snapshots).seeded = !(usableSweeps snapshots).isEmpty ∧
      ∀ pid, (machine.run default snapshots).live.lookup pid =
        (lifeAt snapshots pid).identity := by
  induction snapshots using List.reverseRecOn with
  | nil => exact ⟨rfl, fun _ => rfl⟩
  | append_singleton snapshots snapshot induction =>
      rw [Machine.run_append, Machine.run_cons, Machine.run_nil]
      change ((machine.run default snapshots).applySnapshot snapshot).1.seeded = _ ∧
        ∀ pid, ((machine.run default snapshots).applySnapshot snapshot).1.live.lookup pid = _
      cases usable : snapshot.any ProcessSnapshotEntry.named with
      | false =>
          rw [apply_snapshot_unusable _ _ usable]
          simp only [life_at_unusable snapshots _ usable]
          refine ⟨?_, induction.2⟩
          rw [induction.1]
          simp [usableSweeps, usable]
      | true =>
          simp only [life_at_usable snapshots _ usable]
          have some : (usableSweeps (snapshots ++ [snapshot])).isEmpty = false := by
            simp [usableSweeps, usable]
          rw [some]
          cases none : (usableSweeps snapshots).isEmpty with
          | true =>
              rw [none] at induction
              rw [apply_snapshot_first _ _ induction.1 usable]
              refine ⟨rfl, ?_⟩
              intro pid
              have life : lifeAt snapshots pid = [] := by
                rw [lifeAt, List.isEmpty_iff.mp none]
                rfl
              change (entriesOf snapshot).lookup pid = _
              rw [life, entries_lookup]
              cases shownAs snapshot pid with
              | none => rfl
              | some next => exact (ProcessLife.identity_single next).symm
          | false =>
              rw [none] at induction
              have applied := apply_snapshot_seeded _ snapshot induction.1 usable
              refine ⟨applied.1, ?_⟩
              intro pid
              rw [applied.2.2, induction.2, process_turn_life]

end ProcessTracker

def transitionsOf (pid : UInt32) (transitions : List ProcessTransition) :
    List ProcessTransition :=
  transitions.filter fun transition => transition.identity.pid == pid

omit [Externals] in
theorem filter_flat_map_nodup {pids : List UInt32} (distinct : pids.Nodup)
    {turn : UInt32 → List ProcessTransition}
    (named : ∀ pid, ∀ transition ∈ turn pid, transition.identity.pid = pid) (pid : UInt32) :
    transitionsOf pid (pids.flatMap turn) = if pid ∈ pids then turn pid else [] := by
  induction pids with
  | nil => rfl
  | cons head pids induction =>
      have ⟨fresh, distinct⟩ := List.nodup_cons.mp distinct
      rw [List.flatMap_cons, transitionsOf, List.filter_append]
      change _ ++ transitionsOf pid (pids.flatMap turn) = _
      rw [induction distinct]
      by_cases same : pid = head
      · subst same
        have all : (turn pid).filter (fun transition => transition.identity.pid == pid) =
            turn pid := by
          apply List.filter_eq_self.mpr
          intro transition member
          rw [named pid transition member]
          exact beq_self_eq_true pid
        rw [all, if_neg fresh, if_pos List.mem_cons_self, List.append_nil]
      · have none : (turn head).filter (fun transition => transition.identity.pid == pid) =
            [] := by
          apply List.filter_eq_nil_iff.mpr
          intro transition member
          rw [named head transition member]
          simpa using Ne.symm same
        rw [none, List.nil_append]
        simp [same]

end Sweeps

end Gilbreth.Core
