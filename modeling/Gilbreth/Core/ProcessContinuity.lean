import Mathlib
import Gilbreth.Core.ProcessLives

/-!
# A pid that one process keeps

Once a pid is live and every start token read of it is the same, the sweeps report nothing
about it exactly as long as each of them shows it under the compare name it was first
shown under.
-/

set_option autoImplicit false

namespace Gilbreth.Core

/-- Every identity stands under its own pid. -/
def Filed (entries : ProcessMap) : Prop :=
  ∀ pid identity, entries.lookup pid = some identity → identity.pid = pid

namespace ProcessIdentity

/-- The start token is the given one, or could not be read. -/
def Carries (token : UInt64) (identity : ProcessIdentity) : Prop :=
  identity.startTimeId = none ∨ identity.startTimeId = some token

theorem refreshed_with_name (previous next : ProcessIdentity) :
    (previous.refreshedWith next).compareName = next.compareName := by
  unfold refreshedWith
  split_ifs <;> rfl

theorem refreshed_with_carries {token : UInt64} {previous next : ProcessIdentity}
    (before : previous.Carries token) (now : next.Carries token) :
    (previous.refreshedWith next).Carries token := by
  unfold refreshedWith
  split_ifs
  · exact before
  · exact now

theorem same_process_iff {token : UInt64} {previous next : ProcessIdentity}
    (before : previous.Carries token) (now : next.Carries token) :
    previous.isSameProcess next = true ↔ previous.compareName = next.compareName := by
  unfold isSameProcess
  rcases before with before | before <;> rcases now with now | now <;> simp [before, now]

end ProcessIdentity

namespace ProcessTracker

/-- The sweeps of a run, each already filed by pid. -/
def sweeps : Machine ProcessTracker ProcessMap (List ProcessTransition) := ⟨sweep⟩

theorem sweep_unusable (tracker : ProcessTracker) {entries : ProcessMap}
    (unusable : entries.keys.isEmpty = true) : tracker.sweep entries = (tracker, []) := by
  simp only [sweep, unusable, if_true]

theorem sweep_first (tracker : ProcessTracker) {entries : ProcessMap}
    (fresh : tracker.seeded = false) (usable : entries.keys.isEmpty = false) :
    tracker.sweep entries = (⟨true, entries⟩, []) := by
  simp [sweep, usable, fresh]

theorem sweep_filed {tracker : ProcessTracker} {entries : ProcessMap}
    (live : Filed tracker.live) (shown : Filed entries) : Filed (tracker.sweep entries).1.live := by
  cases usable : entries.keys.isEmpty with
  | true =>
      rw [sweep_unusable tracker usable]
      exact live
  | false =>
      cases seeded : tracker.seeded with
      | false =>
          rw [sweep_first tracker seeded usable]
          exact shown
      | true =>
          intro pid
          rw [(sweep_seeded tracker entries seeded usable).2.2 pid]
          exact (process_turn_pid (live pid) (shown pid)).2

theorem transitions_of_sweep {tracker : ProcessTracker} {entries : ProcessMap}
    (live : Filed tracker.live) (shown : Filed entries) (seeded : tracker.seeded = true)
    (usable : entries.keys.isEmpty = false) (pid : UInt32) :
    transitionsOf pid (tracker.sweep entries).2 =
      (processTurn (tracker.live.lookup pid) (entries.lookup pid)).1 := by
  rw [(sweep_seeded tracker entries seeded usable).2.1,
    filter_flat_map_nodup (compared_pids_nodup tracker.live entries)
      (fun pid => (process_turn_pid (live pid) (shown pid)).1)]
  by_cases compared : pid ∈ comparedPids tracker.live entries
  · rw [if_pos compared]
  · rw [if_neg compared]
    rw [mem_compared_pids, not_or, ← AList.lookup_eq_none, ← AList.lookup_eq_none] at compared
    rw [compared.1, compared.2]
    rfl

theorem run_filed {tracker : ProcessTracker} (live : Filed tracker.live)
    (shown : List ProcessMap) (filed : ∀ entries ∈ shown, Filed entries) :
    Filed (sweeps.run tracker shown).live := by
  induction shown generalizing tracker with
  | nil => exact live
  | cons entries rest induction =>
      exact induction (sweep_filed live (filed entries List.mem_cons_self))
        (fun later member => filed later (List.mem_cons_of_mem entries member))

/-- The pid is live under a compare name, and its known token is the given one. -/
structure Keeps (pid : UInt32) (name : String) (token : UInt64) (tracker : ProcessTracker) :
    Prop where
  seeded : tracker.seeded = true
  filed : Filed tracker.live
  held : ∃ identity, tracker.live.lookup pid = some identity ∧ identity.compareName = name ∧
    identity.Carries token

/-- A usable sweep shows the pid under a compare name. -/
def ShowsAs (pid : UInt32) (name : String) (entries : ProcessMap) : Prop :=
  entries.keys.isEmpty = false →
    (entries.lookup pid).map ProcessIdentity.compareName = some name

/-- One sweep is silent about a kept pid exactly when it shows the compare name again, and
then keeps it. -/
theorem sweep_keeps {pid : UInt32} {name : String} {token : UInt64} {tracker : ProcessTracker}
    {entries : ProcessMap} (keeps : Keeps pid name token tracker) (shown : Filed entries)
    (carries : ∀ identity, entries.lookup pid = some identity → identity.Carries token) :
    (transitionsOf pid (tracker.sweep entries).2 = [] ↔ ShowsAs pid name entries) ∧
      (ShowsAs pid name entries → Keeps pid name token (tracker.sweep entries).1) := by
  cases usable : entries.keys.isEmpty with
  | true =>
      rw [sweep_unusable tracker usable]
      simp [ShowsAs, usable, transitionsOf, keeps]
  | false =>
      obtain ⟨previous, live, named, before⟩ := keeps.held
      have swept := sweep_seeded tracker entries keeps.seeded usable
      rw [transitions_of_sweep keeps.filed shown keeps.seeded usable, live]
      have turned := swept.2.2 pid
      rw [live] at turned
      cases seen : entries.lookup pid with
      | none => simp [processTurn, ShowsAs, usable, seen]
      | some next =>
          have now := carries next seen
          have same := ProcessIdentity.same_process_iff before now
          rw [seen] at turned
          simp only [processTurn, ShowsAs, usable, seen, Option.map_some, Option.some.injEq,
            forall_const]
          constructor
          · rw [← named, eq_comm (a := next.compareName), ← same]
            split_ifs with kept <;> simp [kept]
          · intro again
            have kept : previous.isSameProcess next = true := same.mpr (named.trans again.symm)
            refine ⟨swept.1, sweep_filed keeps.filed shown, previous.refreshedWith next, ?_, ?_,
              ProcessIdentity.refreshed_with_carries before now⟩
            · rw [turned]
              simp [processTurn, kept]
            · rw [ProcessIdentity.refreshed_with_name, again]

/-- A run is silent about a kept pid exactly when every sweep shows the compare name. -/
theorem sweeps_silent_iff {pid : UInt32} {name : String} {token : UInt64}
    {tracker : ProcessTracker} (later : List ProcessMap) (keeps : Keeps pid name token tracker)
    (filed : ∀ entries ∈ later, Filed entries)
    (carries : ∀ entries ∈ later, ∀ identity, entries.lookup pid = some identity →
      identity.Carries token) :
    (∀ output ∈ sweeps.outputs tracker later, transitionsOf pid output = []) ↔
      ∀ entries ∈ later, ShowsAs pid name entries := by
  induction later generalizing tracker with
  | nil => simp
  | cons entries rest induction =>
      have step := sweep_keeps keeps (filed entries List.mem_cons_self)
        (carries entries List.mem_cons_self)
      rw [Machine.outputs_cons, List.forall_mem_cons, List.forall_mem_cons]
      change transitionsOf pid (tracker.sweep entries).2 = [] ∧ _ ↔ _
      rw [step.1]
      apply and_congr_right
      intro again
      exact induction (step.2 again)
        (fun next member => filed next (List.mem_cons_of_mem entries member))
        (fun next member => carries next (List.mem_cons_of_mem entries member))

theorem first_shown_keeps {pid : UInt32} {token : UInt64} {tracker : ProcessTracker}
    {entries : ProcessMap} {shown : ProcessIdentity} (live : Filed tracker.live)
    (fresh : tracker.live.lookup pid = none) (filed : Filed entries)
    (seen : entries.lookup pid = some shown) (carries : shown.Carries token) :
    Keeps pid shown.compareName token (tracker.sweep entries).1 := by
  have usable : entries.keys.isEmpty = false := by
    have member : pid ∈ entries.keys := AList.lookup_isSome.mp (by rw [seen]; rfl)
    cases keys : entries.keys with
    | nil =>
        rw [keys] at member
        cases member
    | cons key keys => rfl
  cases seeded : tracker.seeded with
  | false =>
      rw [sweep_first tracker seeded usable]
      exact ⟨rfl, filed, shown, seen, rfl, carries⟩
  | true =>
      have swept := sweep_seeded tracker entries seeded usable
      refine ⟨swept.1, sweep_filed live filed, shown, ?_, rfl, carries⟩
      rw [swept.2.2 pid, fresh, seen]
      rfl

/-- After the sweep that first shows a pid, a run is silent about it exactly when every
sweep shows the compare name the first one showed. -/
theorem sweeps_after_first_silent_iff {pid : UInt32} {token : UInt64} {before : List ProcessMap}
    {first : ProcessMap} {later : List ProcessMap} {shown : ProcessIdentity}
    (filed : ∀ entries ∈ before ++ first :: later, Filed entries)
    (fresh : (sweeps.run default before).live.lookup pid = none)
    (seen : first.lookup pid = some shown)
    (carries : ∀ entries ∈ first :: later, ∀ identity, entries.lookup pid = some identity →
      identity.Carries token) :
    (∀ output ∈ sweeps.outputs (sweeps.run default (before ++ [first])) later,
        transitionsOf pid output = []) ↔
      ∀ entries ∈ later, ShowsAs pid shown.compareName entries := by
  have empty : Filed default.live := by
    intro pid identity found
    cases found
  have live := run_filed empty before
    (fun entries member => filed entries (List.mem_append_left _ member))
  have keeps := first_shown_keeps live fresh
    (filed first (List.mem_append_right _ List.mem_cons_self)) seen
    (carries first List.mem_cons_self shown seen)
  rw [Machine.run_append]
  exact sweeps_silent_iff later keeps
    (fun entries member =>
      filed entries (List.mem_append_right _ (List.mem_cons_of_mem first member)))
    (fun entries member => carries entries (List.mem_cons_of_mem first member))

end ProcessTracker

/-- What one sweep could read of a process beyond its short name. -/
structure Readable where
  path : Bool
  token : Bool
deriving DecidableEq

/-- A process as it is throughout its life. -/
structure RunningProcess where
  path : String
  token : UInt64
deriving DecidableEq

/-- The first whole characters that fit in so many UTF-8 bytes. -/
def cutBytes : Nat → List Char → List Char
  | _, [] => []
  | limit, char :: rest =>
      if char.utf8Size ≤ limit then char :: cutBytes (limit - char.utf8Size) rest else []

theorem cut_bytes_all (limit : Nat) (chars : List Char)
    (fits : (chars.map Char.utf8Size).sum ≤ limit) : cutBytes limit chars = chars := by
  induction chars generalizing limit with
  | nil => rfl
  | cons char rest induction =>
      rw [List.map_cons, List.sum_cons] at fits
      have now : char.utf8Size ≤ limit := by omega
      rw [cutBytes, if_pos now, induction (limit - char.utf8Size) (by omega)]

namespace RunningProcess

def basename (process : RunningProcess) : String := lastPathSegment process.path

/-- The kernel's short name: the basename, cut to at most 15 bytes. -/
def kernelName (process : RunningProcess) : String :=
  String.ofList (cutBytes 15 process.basename.toList)

def readPath (process : RunningProcess) (read : Readable) : Option String :=
  if read.path then some process.path else none

def readToken (process : RunningProcess) (read : Readable) : Option UInt64 :=
  if read.token then some process.token else none

/-- The row of a sweep that shows the process under a short name. -/
def entry (process : RunningProcess) (comm : String) (pid : UInt32) (read : Readable) :
    ProcessSnapshotEntry :=
  ⟨pid, comm, process.readPath read, process.readToken read⟩

/-- No row of the sweep shows another process under the pid. -/
def Occupies (process : RunningProcess) (pid : UInt32) (snapshot : List ProcessSnapshotEntry) :
    Prop :=
  ∀ row ∈ snapshot, row.pid = pid → ∃ read, row = process.entry process.kernelName pid read

/-- The basename has at most 15 bytes and something to compare. -/
def ShortNamed (process : RunningProcess) : Prop :=
  (process.basename.toList.map Char.utf8Size).sum ≤ 15 ∧ isBlank process.basename = false

theorem kernel_name_short {process : RunningProcess} (short : process.ShortNamed) :
    process.kernelName = process.basename := by
  rw [kernelName, cut_bytes_all 15 _ short.1, String.ofList_toList]

end RunningProcess

section Rows

variable [Externals]

theorem entry_carries (process : RunningProcess) (comm : String) (pid : UInt32)
    (read : Readable) :
    (ProcessIdentity.fromEntry (process.entry comm pid read)).Carries process.token := by
  change process.readToken read = none ∨ process.readToken read = some process.token
  unfold RunningProcess.readToken
  split_ifs
  · exact Or.inr rfl
  · exact Or.inl rfl

/-- A row under the untruncated name compares by the basename, with the path or without. -/
theorem entry_compare_name (process : RunningProcess) (pid : UInt32) (read : Readable) :
    (ProcessIdentity.fromEntry (process.entry process.basename pid read)).compareName =
      exeBasenameLower process.path := by
  unfold ProcessIdentity.fromEntry ProcessSnapshotEntry.namedPath
  dsimp only [RunningProcess.entry]
  cases found : (process.readPath read).filter fun path => !isBlank path with
  | none => rfl
  | some path =>
      have ⟨isPath, _⟩ := Option.filter_eq_some_iff.mp found
      unfold RunningProcess.readPath at isPath
      split_ifs at isPath
      rw [Option.some.inj isPath]

theorem entries_filed (snapshot : List ProcessSnapshotEntry) :
    Filed (ProcessTracker.entriesOf snapshot) := by
  intro pid identity found
  rw [ProcessTracker.entries_lookup] at found
  exact shown_as_pid found

theorem shown_as_occupied {process : RunningProcess} {pid : UInt32}
    {snapshot : List ProcessSnapshotEntry} {shown : ProcessIdentity}
    (occupied : process.Occupies pid snapshot) (found : shownAs snapshot pid = some shown) :
    ∃ read, shown = ProcessIdentity.fromEntry (process.entry process.kernelName pid read) := by
  have ⟨row, first, same⟩ := Option.map_eq_some_iff.mp found
  have isPid := List.find?_some first
  have member := List.mem_reverse.mp (List.mem_of_find?_eq_some first)
  have ⟨read, isRow⟩ := occupied row (List.mem_of_mem_filter member) (eq_of_beq isPid)
  exact ⟨read, by rw [← same, isRow]⟩

/-- After the sweep that first shows a process, the tracker is silent about its pid exactly
when every usable sweep shows it under the compare name of the first. -/
theorem process_silent_iff {process : RunningProcess} {pid : UInt32}
    {before : List (List ProcessSnapshotEntry)} {first : List ProcessSnapshotEntry}
    {later : List (List ProcessSnapshotEntry)} {shown : ProcessIdentity}
    (fresh : (ProcessTracker.machine.run .default before).live.lookup pid = none)
    (seen : shownAs first pid = some shown)
    (occupied : ∀ snapshot ∈ first :: later, process.Occupies pid snapshot) :
    (∀ output ∈ ProcessTracker.machine.outputs
        (ProcessTracker.machine.run .default (before ++ [first])) later,
      transitionsOf pid output = []) ↔
      ∀ snapshot ∈ later, snapshot.any ProcessSnapshotEntry.named = true →
        (shownAs snapshot pid).map ProcessIdentity.compareName = some shown.compareName := by
  have view := ProcessTracker.machine.runs_of_view ProcessTracker.sweeps
    ProcessTracker.entriesOf ProcessTracker.apply_snapshot_sweep
  rw [(view .default before).1] at fresh
  rw [(view _ later).2, (view .default (before ++ [first])).1, List.map_append, List.map_singleton]
  have silent := @ProcessTracker.sweeps_after_first_silent_iff pid process.token
    (before.map ProcessTracker.entriesOf) (ProcessTracker.entriesOf first)
    (later.map ProcessTracker.entriesOf) shown
    (by
      intro entries member
      rw [← List.map_cons, ← List.map_append] at member
      have ⟨snapshot, _, same⟩ := List.mem_map.mp member
      rw [← same]
      exact entries_filed snapshot)
    fresh
    (by rw [ProcessTracker.entries_lookup, seen])
    (by
      intro entries member identity found
      rw [← List.map_cons] at member
      have ⟨snapshot, among, same⟩ := List.mem_map.mp member
      rw [← same, ProcessTracker.entries_lookup] at found
      have ⟨read, isRow⟩ := shown_as_occupied (occupied snapshot among) found
      rw [isRow]
      exact entry_carries process process.kernelName pid read)
  rw [silent, List.forall_mem_map]
  simp only [ProcessTracker.ShowsAs, ProcessTracker.entries_empty_iff,
    ProcessTracker.entries_lookup, Bool.not_eq_false']

/-- A short-named process that every later sweep lists, unless it failed, is never reported
again. -/
theorem short_named_silent {process : RunningProcess} {pid : UInt32}
    {before : List (List ProcessSnapshotEntry)} {first : List ProcessSnapshotEntry}
    {later : List (List ProcessSnapshotEntry)} {shown : ProcessIdentity}
    (short : process.ShortNamed)
    (fresh : (ProcessTracker.machine.run .default before).live.lookup pid = none)
    (seen : shownAs first pid = some shown)
    (occupied : ∀ snapshot ∈ first :: later, process.Occupies pid snapshot)
    (listed : ∀ snapshot ∈ later, snapshot.any ProcessSnapshotEntry.named = true →
      ∃ row ∈ snapshot, row.pid = pid) :
    ∀ output ∈ ProcessTracker.machine.outputs
        (ProcessTracker.machine.run .default (before ++ [first])) later,
      transitionsOf pid output = [] := by
  have compared : ∀ snapshot ∈ first :: later, ∀ identity, shownAs snapshot pid = some identity →
      identity.compareName = exeBasenameLower process.path := by
    intro snapshot member identity found
    obtain ⟨read, isRow⟩ := shown_as_occupied (occupied snapshot member) found
    rw [isRow, RunningProcess.kernel_name_short short, entry_compare_name]
  apply (process_silent_iff fresh seen occupied).mpr
  intro snapshot member usable
  obtain ⟨row, among, isPid⟩ := listed snapshot member usable
  obtain ⟨read, isRow⟩ := occupied snapshot (List.mem_cons_of_mem first member) row among isPid
  have named : row.named = true := by
    have blank := short.2
    rw [isRow, RunningProcess.kernel_name_short short]
    simp [RunningProcess.entry, ProcessSnapshotEntry.named, blank]
  have there : (shownAs snapshot pid).isSome := by
    rw [ProcessTracker.shown_iff, shownPids, List.mem_toFinset, ← isPid]
    exact List.mem_map_of_mem (List.mem_filter.mpr ⟨among, named⟩)
  obtain ⟨identity, found⟩ := Option.isSome_iff_exists.mp there
  rw [found, Option.map_some, compared snapshot (List.mem_cons_of_mem first member) identity found,
    compared first List.mem_cons_self shown seen]

end Rows

end Gilbreth.Core
