import Gilbreth.Windows.ProcessTracker

/-!
# A process that keeps running, seen by both trackers

Windows never reports such a process again. The core does not either as long as its compare
name stays, which reading the path in one sweep and not in the next can change for a name
the kernel cuts. Where no name is cut both trackers report the same.
-/

set_option autoImplicit false

namespace Gilbreth.Windows

open Gilbreth.Core (Externals isBlank ProcessIdentity ProcessTransition ProcessMap ProcessTracker
  RunningProcess Readable transitionsOf asciiExternals)

def inspection (process : RunningProcess) (read : Readable) : ProcessInspection :=
  ⟨process.readPath read, process.readToken read⟩

/-- The sweep names the process under the pid, in full. -/
def Sweep.Shows (process : RunningProcess) (pid : UInt32) (sweep : Sweep) : Prop :=
  (∃ snapshot, sweep.snapshot = some snapshot ∧
    snapshot.entries.lookup pid = some process.basename) ∧
  ∃ read, sweep.inspectProcess pid = inspection process read

/-- A process and what one sweep could read of it. -/
structure Observation where
  process : RunningProcess
  read : Readable

abbrev ObservedSweep := AList fun _ : UInt32 => Observation

namespace ObservedSweep

/-- The rows of the core's sweep, with short names that are not cut. -/
def coreRows (sweep : ObservedSweep) : List Core.ProcessSnapshotEntry :=
  sweep.entries.map fun row =>
    row.2.process.entry row.2.process.basename row.1 row.2.read

def windowsSweep (sweep : ObservedSweep) : Sweep where
  snapshot :=
    ProcessSnapshot.fromEntries (sweep.entries.map fun row => ⟨row.1, row.2.process.basename⟩)
  inspectProcess := fun pid =>
    (sweep.lookup pid).elim ⟨none, none⟩ fun seen => inspection seen.process seen.read

/-- Where a basename is blank the path is not read. -/
def Named (sweep : ObservedSweep) : Prop :=
  ∀ pid seen, sweep.lookup pid = some seen → isBlank seen.process.basename = true →
    seen.read.path = false

end ObservedSweep

section Names

variable [Externals]

theorem new_identity_carries {process : RunningProcess} {pid : UInt32} {read : Readable}
    {inspectProcess : UInt32 → ProcessInspection} (name : String)
    (seen : inspectProcess pid = inspection process read) :
    (newIdentity (processIdentityExe inspectProcess) pid name).Carries process.token := by
  change (inspectProcess pid).creationTime100ns = none ∨
    (inspectProcess pid).creationTime100ns = some process.token
  rw [seen]
  change process.readToken read = none ∨ process.readToken read = some process.token
  unfold RunningProcess.readToken
  split_ifs
  · exact Or.inr rfl
  · exact Or.inl rfl

theorem entries_shown {process : RunningProcess} {pid : UInt32} {sweep : Sweep}
    (seen : sweep.Shows process pid) :
    ∃ identity, sweep.entries.lookup pid = some identity ∧
      identity.compareName = compareProcessName process.basename ∧
      identity.Carries process.token := by
  rcases seen with ⟨⟨snapshot, isSnapshot, named⟩, read, inspected⟩
  refine ⟨newIdentity (processIdentityExe sweep.inspectProcess) pid process.basename, ?_, rfl,
    new_identity_carries process.basename inspected⟩
  unfold Sweep.entries
  rw [isSnapshot, Option.elim_some, enrich_lookup, named, Option.map_some]

/-- After the sweep that first shows a process, no sweep that fails or shows it reports
anything about its pid. -/
theorem windows_silent {process : RunningProcess} {pid : UInt32} {before : List Sweep}
    {first : Sweep} {later : List Sweep}
    (fresh : (machine.run .default before).live.lookup pid = none)
    (seen : first.Shows process pid)
    (listed : ∀ sweep ∈ later, sweep.snapshot = none ∨ sweep.Shows process pid) :
    ∀ output ∈ machine.outputs (machine.run .default (before ++ [first])) later,
      transitionsOf pid output = [] := by
  have view := machine.runs_of_view ProcessTracker.sweeps Sweep.entries step_sweep
  obtain ⟨shown, there, named, carries⟩ := entries_shown seen
  rw [(view .default before).1] at fresh
  rw [(view _ later).2, (view .default (before ++ [first])).1, List.map_append, List.map_singleton]
  apply (@ProcessTracker.sweeps_after_first_silent_iff pid process.token
    (before.map Sweep.entries) first.entries (later.map Sweep.entries) shown ?_ fresh there ?_).mpr
  · intro entries member usable
    obtain ⟨sweep, among, same⟩ := List.mem_map.mp member
    subst same
    rcases listed sweep among with failed | again
    · rw [Sweep.entries, failed] at usable
      cases usable
    · obtain ⟨identity, found, sameName, _⟩ := entries_shown again
      rw [found, Option.map_some, sameName, named]
  · intro entries member
    rw [← List.map_cons, ← List.map_append] at member
    obtain ⟨sweep, _, same⟩ := List.mem_map.mp member
    rw [← same]
    exact entries_filed sweep
  · intro entries member identity found
    rcases List.mem_cons.mp member with rfl | member
    · rw [there] at found
      cases found
      exact carries
    · obtain ⟨sweep, among, same⟩ := List.mem_map.mp member
      subst same
      rcases listed sweep among with failed | again
      · rw [Sweep.entries, failed] at found
        cases found
      · obtain ⟨known, isKnown, _, carries⟩ := entries_shown again
        rw [isKnown] at found
        cases found
        exact carries

theorem enrich_insert (names : AList fun _ : UInt32 => String)
    (resolveExe : UInt32 → String → ProcessDetails) (pid : UInt32) (name : String) :
    enrichProcessSnapshot (names.insert pid name) resolveExe =
      (enrichProcessSnapshot names resolveExe).insert pid (newIdentity resolveExe pid name) := by
  apply AList.ext
  change List.map _ (List.kinsert pid name names.entries) =
    List.kinsert pid _ (List.map _ names.entries)
  rw [List.kinsert_def, List.kinsert_def, List.map_cons, List.kerase, List.kerase,
    List.eraseP_map]
  rfl

/-- The core's identity of an observed row is the one the Windows tracker makes of it. -/
theorem identity_of_observed {inspectProcess : UInt32 → ProcessInspection} {pid : UInt32}
    {seen : Observation} (inspected : inspectProcess pid = inspection seen.process seen.read) :
    ProcessIdentity.fromEntry (seen.process.entry seen.process.basename pid seen.read) =
      newIdentity (processIdentityExe inspectProcess) pid seen.process.basename := by
  have compared := Core.entry_compare_name seen.process pid seen.read
  have named : ((inspectProcess pid).path.filter fun path => !isBlank path) =
      (seen.process.entry seen.process.basename pid seen.read).namedPath := by
    rw [inspected]
    rfl
  unfold newIdentity processIdentityExe
  dsimp only
  rw [named, inspected]
  unfold ProcessIdentity.fromEntry at compared ⊢
  dsimp only at compared ⊢
  rw [compared]
  cases (seen.process.entry seen.process.basename pid seen.read).namedPath <;> rfl

omit [Externals] in
theorem observed_named {seen : Observation} (pid : UInt32)
    (named : isBlank seen.process.basename = true → seen.read.path = false) :
    (seen.process.entry seen.process.basename pid seen.read).named =
      !isBlank seen.process.basename := by
  unfold Core.ProcessSnapshotEntry.named RunningProcess.entry RunningProcess.readPath
  dsimp only
  cases blank : isBlank seen.process.basename with
  | false => simp
  | true => simp [named blank]

theorem fold_observed (inspectProcess : UInt32 → ProcessInspection)
    (rows : List (Sigma fun _ : UInt32 => Observation))
    (inspected : ∀ row ∈ rows, inspectProcess row.1 = inspection row.2.process row.2.read)
    (named : ∀ row ∈ rows, isBlank row.2.process.basename = true → row.2.read.path = false)
    (start : AList fun _ : UInt32 => String) :
    ((rows.map fun row => row.2.process.entry row.2.process.basename row.1 row.2.read).filter
        Core.ProcessSnapshotEntry.named).foldl
        (fun entries entry => entries.insert entry.pid (ProcessIdentity.fromEntry entry))
        (enrichProcessSnapshot start (processIdentityExe inspectProcess)) =
      enrichProcessSnapshot
        (((rows.map fun row => (⟨row.1, row.2.process.basename⟩ : ProcessSnapshotEntry)).filter
          fun entry => !isBlank entry.snapshotName).foldl
          (fun names entry => names.insert entry.pid entry.snapshotName) start)
        (processIdentityExe inspectProcess) := by
  induction rows generalizing start with
  | nil => rfl
  | cons row rows induction =>
      have rest := induction (fun next member => inspected next (List.mem_cons_of_mem row member))
        (fun next member => named next (List.mem_cons_of_mem row member))
      rw [List.map_cons, List.map_cons, List.filter_cons, List.filter_cons,
        observed_named row.1 (named row List.mem_cons_self)]
      cases blank : isBlank row.2.process.basename with
      | true => simpa using rest start
      | false =>
          simp only [Bool.not_false, if_true, List.foldl_cons]
          rw [← rest, enrich_insert, identity_of_observed (inspected row List.mem_cons_self)]
          rfl

theorem observed_entries {sweep : ObservedSweep} (named : sweep.Named) :
    ProcessTracker.entriesOf sweep.coreRows = sweep.windowsSweep.entries := by
  have found : ∀ row ∈ sweep.entries, sweep.lookup row.1 = some row.2 := by
    intro row member
    exact AList.mem_lookup_iff.mpr member
  have folded := fold_observed sweep.windowsSweep.inspectProcess sweep.entries
    (by
      intro row member
      change (sweep.lookup row.1).elim _ _ = _
      rw [found row member]
      rfl)
    (fun row member => named row.1 row.2 (found row member)) ∅
  rw [ProcessTracker.entriesOf, ObservedSweep.coreRows]
  refine Eq.trans folded ?_
  change enrichProcessSnapshot (namesOf (sweep.entries.map _)) _ = _
  unfold Sweep.entries ObservedSweep.windowsSweep ProcessSnapshot.fromEntries
  dsimp only
  split_ifs with usable
  · rfl
  · apply AList.ext
    have noNames := List.isEmpty_iff.mp (Bool.of_not_eq_false usable)
    have noKeys :=
      (enrich_keys _ (processIdentityExe sweep.windowsSweep.inspectProcess)).trans noNames
    exact List.map_eq_nil_iff.mp noKeys

theorem trackers_agree {observed : List ObservedSweep} (named : ∀ sweep ∈ observed, sweep.Named) :
    machine.outputs .default (observed.map ObservedSweep.windowsSweep) =
      ProcessTracker.machine.outputs .default (observed.map ObservedSweep.coreRows) := by
  have windows := machine.runs_of_view ProcessTracker.sweeps Sweep.entries step_sweep
  have core := ProcessTracker.machine.runs_of_view ProcessTracker.sweeps
    ProcessTracker.entriesOf ProcessTracker.apply_snapshot_sweep
  rw [(windows _ _).2, (core _ _).2, List.map_map, List.map_map]
  congr 1
  apply List.map_congr_left
  intro sweep member
  exact (observed_entries (named sweep member)).symm

/-- A process that keeps running, in every pattern of what its sweeps could read. Windows
reports nothing after the sweep that first shows it; the core exactly when every usable
sweep shows the same compare name, so never for a short name; and on full names both report
the same for all pids. -/
theorem running_process_reported (process : RunningProcess) (pid : UInt32) :
    (∀ before first later, (machine.run .default before).live.lookup pid = none →
      first.Shows process pid →
      (∀ sweep ∈ later, sweep.snapshot = none ∨ sweep.Shows process pid) →
      ∀ output ∈ machine.outputs (machine.run .default (before ++ [first])) later,
        transitionsOf pid output = []) ∧
    (∀ before first later shown,
      (ProcessTracker.machine.run .default before).live.lookup pid = none →
      Core.shownAs first pid = some shown →
      (∀ snapshot ∈ first :: later, process.Occupies pid snapshot) →
      ((∀ output ∈ ProcessTracker.machine.outputs
          (ProcessTracker.machine.run .default (before ++ [first])) later,
        transitionsOf pid output = []) ↔
        ∀ snapshot ∈ later, snapshot.any Core.ProcessSnapshotEntry.named = true →
          (Core.shownAs snapshot pid).map ProcessIdentity.compareName =
            some shown.compareName)) ∧
    (∀ before first later shown, process.ShortNamed →
      (ProcessTracker.machine.run .default before).live.lookup pid = none →
      Core.shownAs first pid = some shown →
      (∀ snapshot ∈ first :: later, process.Occupies pid snapshot) →
      (∀ snapshot ∈ later, snapshot.any Core.ProcessSnapshotEntry.named = true →
        ∃ row ∈ snapshot, row.pid = pid) →
      ∀ output ∈ ProcessTracker.machine.outputs
          (ProcessTracker.machine.run .default (before ++ [first])) later,
        transitionsOf pid output = []) ∧
    ∀ observed : List ObservedSweep, (∀ sweep ∈ observed, sweep.Named) →
      machine.outputs .default (observed.map ObservedSweep.windowsSweep) =
        ProcessTracker.machine.outputs .default (observed.map ObservedSweep.coreRows) :=
  ⟨fun _ _ _ fresh seen listed => windows_silent fresh seen listed,
    fun _ _ _ _ fresh seen occupied => Core.process_silent_iff fresh seen occupied,
    fun _ _ _ _ short fresh seen occupied listed =>
      Core.short_named_silent short fresh seen occupied listed,
    fun _ named => trackers_agree named⟩

end Names

private def terminalServer : RunningProcess := ⟨"/usr/bin/gnome-terminal-server", 7⟩

private def serverRow (path : Bool) : List Core.ProcessSnapshotEntry :=
  [terminalServer.entry terminalServer.kernelName 42 ⟨path, true⟩]

private def top : RunningProcess := ⟨"/usr/bin/top", 5⟩

private def topRow (path : Bool) : List Core.ProcessSnapshotEntry :=
  [top.entry "top" 42 ⟨path, !path⟩]

private def topSweep (path : Bool) : ObservedSweep :=
  AList.singleton 42 ⟨top, ⟨path, !path⟩⟩

private theorem single_snapshot (pid : UInt32) (seen : Observation) {name : String}
    (named : seen.process.basename = name) :
    (ObservedSweep.windowsSweep (AList.singleton pid seen)).snapshot =
      ProcessSnapshot.fromEntries [⟨pid, name⟩] := by
  unfold ObservedSweep.windowsSweep
  rw [AList.singleton_entries, List.map_singleton, named]

private theorem top_sweep_shows (path : Bool) :
    (topSweep path).windowsSweep.Shows top 42 := by
  have named : top.basename = "top" := by decide +kernel
  have kept : isBlank "top" = false := by decide +kernel
  have names : namesOf [⟨42, "top"⟩] = AList.singleton 42 "top" := by
    unfold namesOf
    rw [List.filter_cons_of_pos (by rw [kept]; rfl), List.filter_nil]
    rfl
  have shown : (topSweep path).windowsSweep.snapshot =
      some ⟨AList.singleton 42 "top", rfl⟩ := by
    rw [topSweep, single_snapshot 42 ⟨top, _⟩ named]
    exact from_entries_some names rfl
  have found : (topSweep path).lookup 42 = some ⟨top, ⟨path, !path⟩⟩ :=
    List.dlookup_cons_eq _ _ _
  refine ⟨⟨_, shown, ?_⟩, ⟨path, !path⟩, ?_⟩
  · rw [named]
    exact List.dlookup_cons_eq _ _ _
  · unfold ObservedSweep.windowsSweep
    dsimp only
    rw [found, Option.elim_some]

private def unnamedTool : ObservedSweep := AList.singleton 42 ⟨⟨"/opt/ ", 7⟩, ⟨true, true⟩⟩

private theorem server_row_occupies (path : Bool) :
    terminalServer.Occupies 42 (serverRow path) := by
  intro row member _
  rw [List.mem_singleton.mp member]
  exact ⟨⟨path, true⟩, rfl⟩

attribute [local instance] asciiExternals

theorem running_process_reported_top :
    (∀ output ∈ machine.outputs (machine.run .default ([] ++ [(topSweep true).windowsSweep]))
        [(topSweep false).windowsSweep],
      transitionsOf 42 output = []) ∧
    (∀ output ∈ ProcessTracker.machine.outputs
        (ProcessTracker.machine.run .default ([] ++ [topRow true])) [topRow false],
      transitionsOf 42 output = []) ∧
    machine.outputs .default ([topSweep true, topSweep false].map ObservedSweep.windowsSweep) =
      ProcessTracker.machine.outputs .default
        ([topSweep true, topSweep false].map ObservedSweep.coreRows) := by
  have reported := running_process_reported top 42
  refine ⟨?_, ?_, ?_⟩
  · apply reported.1 [] (topSweep true).windowsSweep [(topSweep false).windowsSweep] rfl
      (top_sweep_shows true)
    intro sweep member
    rw [List.mem_singleton.mp member]
    exact Or.inr (top_sweep_shows false)
  · apply reported.2.2.1 [] (topRow true) [topRow false] _
      ⟨by decide +kernel, by decide +kernel⟩ rfl rfl
    · intro snapshot member row among _
      rcases List.mem_pair.mp member with rfl | rfl
      · rw [List.mem_singleton.mp among]
        exact ⟨⟨true, false⟩, by decide +kernel⟩
      · rw [List.mem_singleton.mp among]
        exact ⟨⟨false, true⟩, by decide +kernel⟩
    · intro snapshot member _
      rw [List.mem_singleton.mp member]
      exact ⟨_, List.mem_singleton_self _, rfl⟩
  · apply reported.2.2.2
    intro sweep member pid seen found blank
    rcases List.mem_pair.mp member with rfl | rfl
    all_goals
      cases List.mem_singleton.mp (AList.mem_lookup_iff.mp found)
      exact absurd blank (by decide +kernel)

/-- A long name is reported as restarted when its path turns unreadable, and a blank
basename is shown by one tracker only. -/
theorem cut_name_restarts :
    (terminalServer.Occupies 42 (serverRow true) ∧ terminalServer.Occupies 42 (serverRow false)) ∧
      ((@ProcessTracker.machine asciiExternals).outputs
        ((@ProcessTracker.machine asciiExternals).run .default [serverRow true])
        [serverRow false]).map (transitionsOf 42) =
        [[.exited ⟨42, "gnome-terminal-server", "/usr/bin/gnome-terminal-server", .fullPath,
            some 7⟩,
          .started ⟨42, "gnome-terminal-", "gnome-terminal-", .snapshotName, some 7⟩]] ∧
      (@machine asciiExternals).outputs .default
          ([AList.singleton 1 ⟨⟨"/sbin/init", 1⟩, ⟨true, true⟩⟩, unnamedTool].map
            ObservedSweep.windowsSweep) ≠
        (@ProcessTracker.machine asciiExternals).outputs .default
          ([AList.singleton 1 ⟨⟨"/sbin/init", 1⟩, ⟨true, true⟩⟩, unnamedTool].map
            ObservedSweep.coreRows) :=
  ⟨⟨server_row_occupies true, server_row_occupies false⟩, by decide +kernel, by decide +kernel⟩

end Gilbreth.Windows
