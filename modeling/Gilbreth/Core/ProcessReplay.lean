import Gilbreth.Core.ProcessLives

/-!
# Replaying the transitions

What the sweeps of a run emit, replayed on the pids of the first usable sweep, gives the
pids of the latest. For one pid the transitions alternate, and each names the life it
begins or ends.
-/

set_option autoImplicit false

namespace Gilbreth.Core

open Alternation

def ProcessTransition.mark : ProcessTransition → Mark
  | .started _ => .opens
  | .exited _ => .closes

/-- One pid's transitions as openings and closings. -/
def processMarks (pid : UInt32) (transitions : List ProcessTransition) : List Mark :=
  (transitionsOf pid transitions).map ProcessTransition.mark

def replay (pids : Finset UInt32) (transitions : List ProcessTransition) : Finset UInt32 :=
  transitions.foldl
    (fun live transition =>
      match transition with
      | .started identity => insert identity.pid live
      | .exited identity => live.erase identity.pid) pids

theorem process_marks_append (pid : UInt32) (transitions later : List ProcessTransition) :
    processMarks pid (transitions ++ later) =
      processMarks pid transitions ++ processMarks pid later := by
  simp [processMarks, transitionsOf]

theorem mem_replay (pids : Finset UInt32) (transitions : List ProcessTransition)
    (pid : UInt32) :
    decide (pid ∈ replay pids transitions) =
      after (decide (pid ∈ pids)) (processMarks pid transitions) := by
  induction transitions generalizing pids with
  | nil => rfl
  | cons transition transitions induction =>
      cases transition with
      | started identity =>
          change decide (pid ∈ replay (insert identity.pid pids) transitions) = _
          rw [induction]
          by_cases same : identity.pid = pid
          · subst same
            simp [processMarks, transitionsOf, ProcessTransition.identity, ProcessTransition.mark,
              Mark.leaves]
          · simp [processMarks, transitionsOf, ProcessTransition.identity, same, Ne.symm same]
      | exited identity =>
          change decide (pid ∈ replay (pids.erase identity.pid) transitions) = _
          rw [induction]
          by_cases same : identity.pid = pid
          · subst same
            simp [processMarks, transitionsOf, ProcessTransition.identity, ProcessTransition.mark,
              Mark.leaves]
          · simp [processMarks, transitionsOf, ProcessTransition.identity, same, Ne.symm same]

theorem life_marks (life : ProcessLife) (seen : Option ProcessIdentity) :
    Legal (!life.isEmpty) ((life.transitions seen).map ProcessTransition.mark) ∧
      after (!life.isEmpty) ((life.transitions seen).map ProcessTransition.mark) =
        seen.isSome ∧ (life.observe seen).isEmpty = !seen.isSome := by
  cases life with
  | nil =>
      cases seen with
      | none => simp [ProcessLife.transitions, ProcessLife.identity, ProcessLife.observe, Legal]
      | some next =>
          simp [ProcessLife.transitions, ProcessLife.identity, ProcessLife.observe, Legal,
            ProcessTransition.mark, Mark.Fits, Mark.leaves]
  | cons latest earlier =>
      cases seen with
      | none =>
          simp [ProcessLife.transitions, ProcessLife.identity, ProcessLife.observe, Legal,
            ProcessTransition.mark, Mark.Fits, Mark.leaves]
      | some next =>
          cases restarted : ProcessLife.restarts (latest :: earlier) next with
          | false =>
              simp [ProcessLife.transitions, ProcessLife.identity, ProcessLife.observe,
                restarted, Legal]
          | true =>
              simp [ProcessLife.transitions, ProcessLife.identity, ProcessLife.observe,
                restarted, Legal, ProcessTransition.mark, Mark.Fits, Mark.leaves]

section Sweeps

variable [Externals]

def emittedTransitions (snapshots : List (List ProcessSnapshotEntry)) : List ProcessTransition :=
  (ProcessTracker.machine.outputs .default snapshots).flatten

def nextTransitions (snapshots : List (List ProcessSnapshotEntry))
    (snapshot : List ProcessSnapshotEntry) : List ProcessTransition :=
  ((ProcessTracker.machine.run .default snapshots).applySnapshot snapshot).2

theorem emitted_append (snapshots : List (List ProcessSnapshotEntry))
    (snapshot : List ProcessSnapshotEntry) :
    emittedTransitions (snapshots ++ [snapshot]) =
      emittedTransitions snapshots ++ nextTransitions snapshots snapshot := by
  rw [emittedTransitions, Machine.outputs_append, List.flatten_append]
  apply congrArg (emittedTransitions snapshots ++ ·)
  exact List.append_nil _

theorem next_unusable (snapshots : List (List ProcessSnapshotEntry))
    {snapshot : List ProcessSnapshotEntry}
    (unusable : snapshot.any ProcessSnapshotEntry.named = false) :
    nextTransitions snapshots snapshot = [] := by
  rw [nextTransitions, ProcessTracker.apply_snapshot_unusable _ _ unusable]

theorem next_first {snapshots : List (List ProcessSnapshotEntry)}
    {snapshot : List ProcessSnapshotEntry} (none : usableSweeps snapshots = [])
    (usable : snapshot.any ProcessSnapshotEntry.named = true) :
    nextTransitions snapshots snapshot = [] := by
  have lives := ProcessTracker.run_lives snapshots
  rw [none] at lives
  rw [nextTransitions, ProcessTracker.apply_snapshot_first _ _ lives.1 usable]

theorem next_transitions_of {snapshots : List (List ProcessSnapshotEntry)}
    {snapshot : List ProcessSnapshotEntry} (some : usableSweeps snapshots ≠ [])
    (usable : snapshot.any ProcessSnapshotEntry.named = true) (pid : UInt32) :
    transitionsOf pid (nextTransitions snapshots snapshot) =
      (lifeAt snapshots pid).transitions (shownAs snapshot pid) := by
  have lives := ProcessTracker.run_lives snapshots
  have seeded : (ProcessTracker.machine.run .default snapshots).seeded = true := by
    rw [lives.1]
    simpa using some
  have applied := ProcessTracker.apply_snapshot_seeded _ snapshot seeded usable
  have turn : ∀ pid, processTurn ((ProcessTracker.machine.run .default snapshots).live.lookup pid)
      (shownAs snapshot pid) =
        ((lifeAt snapshots pid).transitions (shownAs snapshot pid),
          ((lifeAt snapshots pid).observe (shownAs snapshot pid)).identity) := by
    intro pid
    rw [lives.2, process_turn_life]
  have named : ∀ pid, ∀ transition ∈ (lifeAt snapshots pid).transitions (shownAs snapshot pid),
      transition.identity.pid = pid := by
    intro pid transition member
    apply (process_turn_pid (fun _ => life_identity_pid) (fun _ => shown_as_pid)).1
    rw [process_turn_life]
    exact member
  rw [nextTransitions, applied.2.1]
  simp only [turn]
  rw [filter_flat_map_nodup (ProcessTracker.compared_pids_nodup _ _) named]
  by_cases compared : pid ∈ ProcessTracker.comparedPids
      (ProcessTracker.machine.run .default snapshots).live (ProcessTracker.entriesOf snapshot)
  · rw [if_pos compared]
  · rw [if_neg compared]
    rw [ProcessTracker.mem_compared_pids, not_or, ← AList.lookup_eq_none, ← AList.lookup_eq_none,
      ProcessTracker.entries_lookup, lives.2] at compared
    unfold ProcessLife.transitions
    rw [compared.1, compared.2]

theorem nothing_emitted {snapshots : List (List ProcessSnapshotEntry)}
    (none : usableSweeps snapshots = []) : emittedTransitions snapshots = [] := by
  induction snapshots using List.reverseRecOn with
  | nil => rfl
  | append_singleton snapshots snapshot induction =>
      rw [usableSweeps, List.filter_append, List.append_eq_nil_iff] at none
      have unusable : snapshot.any ProcessSnapshotEntry.named = false := by
        simpa using none.2
      rw [emitted_append, next_unusable snapshots unusable, List.append_nil]
      exact induction none.1

/-- From the first usable sweep on, a pid's marks are legal and leave open what is live. -/
theorem emitted_marks {snapshots : List (List ProcessSnapshotEntry)}
    {first : List ProcessSnapshotEntry} (head : (usableSweeps snapshots).head? = some first)
    (pid : UInt32) :
    Legal (decide (pid ∈ shownPids first)) (processMarks pid (emittedTransitions snapshots)) ∧
      after (decide (pid ∈ shownPids first)) (processMarks pid (emittedTransitions snapshots)) =
        !(lifeAt snapshots pid).isEmpty := by
  induction snapshots using List.reverseRecOn with
  | nil => cases head
  | append_singleton snapshots snapshot induction =>
      have split : usableSweeps (snapshots ++ [snapshot]) =
          usableSweeps snapshots ++ usableSweeps [snapshot] := by simp [usableSweeps]
      rw [split] at head
      cases usable : snapshot.any ProcessSnapshotEntry.named with
      | false =>
          have none : usableSweeps [snapshot] = [] := by simp [usableSweeps, usable]
          rw [none, List.append_nil] at head
          rw [emitted_append, next_unusable snapshots usable, List.append_nil,
            life_at_unusable snapshots pid usable]
          exact induction head
      | true =>
          have single : usableSweeps [snapshot] = [snapshot] := by simp [usableSweeps, usable]
          rw [single] at head
          rw [emitted_append, life_at_usable snapshots pid usable]
          cases before : usableSweeps snapshots with
          | nil =>
              rw [before] at head
              cases head
              have life : lifeAt snapshots pid = [] := by
                rw [lifeAt, before]
                rfl
              have marks := life_marks [] (shownAs first pid)
              rw [nothing_emitted before, next_first before usable, life, marks.2.2]
              refine ⟨trivial, ?_⟩
              have shown := ProcessTracker.shown_iff first pid
              rw [Bool.not_not]
              simp only [processMarks, transitionsOf, List.nil_append, List.filter_nil,
                List.map_nil, after_nil]
              rw [Bool.eq_iff_iff, decide_eq_true_iff]
              exact shown.symm
          | cons earliest later =>
              have some : usableSweeps snapshots ≠ [] := by simp [before]
              rw [before, List.cons_append] at head
              have earlier := induction (by rw [before]; exact head)
              have marks := life_marks (lifeAt snapshots pid) (shownAs snapshot pid)
              have same : processMarks pid (nextTransitions snapshots snapshot) =
                  ((lifeAt snapshots pid).transitions (shownAs snapshot pid)).map
                    ProcessTransition.mark := by
                rw [processMarks, next_transitions_of some usable pid]
              rw [process_marks_append, legal_append, after_append, earlier.2, same, marks.2.1,
                marks.2.2, Bool.not_not]
              exact ⟨⟨earlier.1, marks.1⟩, rfl⟩

theorem life_at_latest {snapshots : List (List ProcessSnapshotEntry)}
    {latest : List ProcessSnapshotEntry} (last : (usableSweeps snapshots).getLast? = some latest)
    (pid : UInt32) : (lifeAt snapshots pid).isEmpty = !decide (pid ∈ shownPids latest) := by
  have ⟨earlier, same⟩ := List.getLast?_eq_some_iff.mp last
  have marks := life_marks
    (earlier.foldl (fun life snapshot => ProcessLife.observe life (shownAs snapshot pid)) [])
    (shownAs latest pid)
  have shown := ProcessTracker.shown_iff latest pid
  rw [lifeAt, same, List.foldl_append, List.foldl_cons, List.foldl_nil, marks.2.2]
  congr 1
  rw [Bool.eq_iff_iff, decide_eq_true_iff]
  exact shown

omit [Externals] in
/-- Another name, or a token known now that is not the last known one. -/
def RestartsAs (life : ProcessLife) (latest next : ProcessIdentity) : Prop :=
  latest.compareName ≠ next.compareName ∨
    ∃ known token, life.knownToken = some known ∧ next.startTimeId = some token ∧ known ≠ token

omit [Externals] in
theorem restarts_as_iff (latest next : ProcessIdentity) (earlier : ProcessLife) :
    RestartsAs (latest :: earlier) latest next ↔
      ProcessLife.restarts (latest :: earlier) next = true := by
  simp only [RestartsAs, ProcessLife.restarts, List.head?_cons, Option.any_some, Bool.or_eq_true,
    bne_iff_ne]
  cases ProcessLife.knownToken (latest :: earlier) with
  | none => simp
  | some known =>
      cases next.startTimeId with
      | none => simp
      | some token => simp

/-- How the transitions of a run follow its sweeps. -/
structure TransitionsReplay (snapshots : List (List ProcessSnapshotEntry)) : Prop where
  /-- Replayed on the first usable sweep's pids they give the latest one's. -/
  replays : ∀ first latest, (usableSweeps snapshots).head? = some first →
    (usableSweeps snapshots).getLast? = some latest →
    replay (shownPids first) (emittedTransitions snapshots) = shownPids latest
  silent : usableSweeps snapshots = [] → emittedTransitions snapshots = []
  /-- For one pid starts and exits alternate, an exit first where the pid was seeded. -/
  alternate : ∀ first pid, (usableSweeps snapshots).head? = some first →
    Legal (decide (pid ∈ shownPids first)) (processMarks pid (emittedTransitions snapshots))
  /-- An exit names the identity of the life before the sweep. -/
  exited_live : ∀ before snapshot later identity, snapshots = before ++ snapshot :: later →
    .exited identity ∈ nextTransitions before snapshot →
    (lifeAt before identity.pid).identity = some identity
  /-- A pid shown again restarts exactly on another name or another known token. -/
  restarted : ∀ before snapshot later pid latest earlier next,
    snapshots = before ++ snapshot :: later → lifeAt before pid = latest :: earlier →
    shownAs snapshot pid = some next →
    (RestartsAs (lifeAt before pid) latest next →
      transitionsOf pid (nextTransitions before snapshot) =
        [.exited { latest with startTimeId := (lifeAt before pid).knownToken },
          .started next]) ∧
      (¬RestartsAs (lifeAt before pid) latest next →
        transitionsOf pid (nextTransitions before snapshot) = [])
  /-- The identity held for a live pid has the last known token of its life. -/
  remembered : ∀ pid, (ProcessTracker.machine.run .default snapshots).live.lookup pid =
    (lifeAt snapshots pid).identity

theorem shown_usable {snapshot : List ProcessSnapshotEntry} {pid : UInt32}
    {next : ProcessIdentity} (seen : shownAs snapshot pid = some next) :
    snapshot.any ProcessSnapshotEntry.named = true := by
  have ⟨entry, first, _⟩ := Option.map_eq_some_iff.mp seen
  have listed := List.mem_of_find?_eq_some first
  rw [List.mem_reverse, List.mem_filter] at listed
  exact List.any_eq_true.mpr ⟨entry, listed⟩

theorem life_usable {snapshots : List (List ProcessSnapshotEntry)} {pid : UInt32}
    (live : lifeAt snapshots pid ≠ []) : usableSweeps snapshots ≠ [] := by
  intro none
  rw [lifeAt, none] at live
  exact live rfl

theorem exited_live {snapshots : List (List ProcessSnapshotEntry)}
    {snapshot : List ProcessSnapshotEntry} {identity : ProcessIdentity}
    (exited : .exited identity ∈ nextTransitions snapshots snapshot) :
    (lifeAt snapshots identity.pid).identity = some identity := by
  cases usable : snapshot.any ProcessSnapshotEntry.named with
  | false =>
      rw [next_unusable snapshots usable] at exited
      cases exited
  | true =>
      by_cases none : usableSweeps snapshots = []
      · rw [next_first none usable] at exited
        cases exited
      · have own : ProcessTransition.exited identity ∈
            transitionsOf identity.pid (nextTransitions snapshots snapshot) :=
          List.mem_filter.mpr ⟨exited, beq_self_eq_true identity.pid⟩
        rw [next_transitions_of none usable, ProcessLife.transitions.eq_def] at own
        cases previous : (lifeAt snapshots identity.pid).identity with
        | none =>
            rw [previous] at own
            cases seen : shownAs snapshot identity.pid with
            | none =>
                rw [seen] at own
                cases own
            | some next =>
                rw [seen] at own
                cases List.mem_singleton.mp own
        | some live =>
            rw [previous] at own
            cases seen : shownAs snapshot identity.pid with
            | none =>
                rw [seen] at own
                simpa using (List.mem_singleton.mp own).symm
            | some next =>
                rw [seen] at own
                dsimp only at own
                split_ifs at own
                · simpa [eq_comm] using own
                · cases own

/-- Over every sequence of sweeps. -/
theorem transitions_replay (snapshots : List (List ProcessSnapshotEntry)) :
    TransitionsReplay snapshots where
  replays first latest head last := by
    ext pid
    have marks := emitted_marks head pid
    have replayed := mem_replay (shownPids first) (emittedTransitions snapshots) pid
    rw [marks.2, life_at_latest last, Bool.not_not] at replayed
    exact decide_eq_decide.mp replayed
  silent none := nothing_emitted none
  alternate first pid head := (emitted_marks head pid).1
  exited_live before snapshot later identity split exited := exited_live exited
  restarted before snapshot later pid latest earlier next split life seen := by
    have live : lifeAt before pid ≠ [] := by simp [life]
    have some : usableSweeps before ≠ [] := life_usable live
    have due := next_transitions_of some (shown_usable seen) pid
    have restarts := restarts_as_iff latest next earlier
    rw [due, life, seen, restarts]
    constructor
    · intro restarted
      simp [ProcessLife.transitions, ProcessLife.identity, restarted]
    · intro same
      simp [ProcessLife.transitions, ProcessLife.identity, same]
  remembered := (ProcessTracker.run_lives snapshots).2

end Sweeps

end Gilbreth.Core
