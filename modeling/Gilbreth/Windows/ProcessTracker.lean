import Gilbreth.Core.ProcessContinuity

/-!
# Process tracking on Windows

The Windows backend keeps its own tracker. A sweep names every process; the path and the
creation time are asked for pid by pid, and the compare name never depends on the path.
`ProcessIdentity`, `ProcessTransition` and the tracker's two fields are those of the core;
`creation_time_100ns` stands in `startTimeId`.
-/

set_option autoImplicit false

namespace Gilbreth.Windows

open Gilbreth.Core (Externals isBlank trim ProcessIdentity ProcessTransition ProcessMap
  ProcessTracker ProcessExeSource)

structure ProcessSnapshotEntry where
  pid : UInt32
  snapshotName : String
deriving DecidableEq

/-- `HashMap<u32, String>`, never empty. -/
structure ProcessSnapshot where
  entries : AList fun _ : UInt32 => String
  nonempty : entries.keys.isEmpty = false

/-- The names by pid; of rows with one pid the last stays. -/
def namesOf (entries : List ProcessSnapshotEntry) : AList fun _ : UInt32 => String :=
  (entries.filter fun entry => !isBlank entry.snapshotName).foldl
    (fun names entry => names.insert entry.pid entry.snapshotName) ∅

def ProcessSnapshot.fromEntries (entries : List ProcessSnapshotEntry) : Option ProcessSnapshot :=
  if nonempty : (namesOf entries).keys.isEmpty = false then some ⟨namesOf entries, nonempty⟩
  else none

theorem from_entries_some {entries : List ProcessSnapshotEntry}
    {names : AList fun _ : UInt32 => String} (filed : namesOf entries = names)
    (nonempty : names.keys.isEmpty = false) :
    ProcessSnapshot.fromEntries entries = some ⟨names, nonempty⟩ := by
  subst filed
  exact dif_pos nonempty

structure ProcessDetails where
  exe : String
  exeSource : ProcessExeSource
  creationTime100ns : Option UInt64
deriving DecidableEq

/-- `inspect_process`: both are `None` where the process cannot be opened. -/
structure ProcessInspection where
  path : Option String
  creationTime100ns : Option UInt64
deriving DecidableEq

def processIdentityExe (inspectProcess : UInt32 → ProcessInspection) (pid : UInt32)
    (snapshotName : String) : ProcessDetails :=
  let inspection := inspectProcess pid
  let named : String × ProcessExeSource :=
    ((inspection.path.filter fun path => !isBlank path).map fun path =>
      (path, ProcessExeSource.fullPath)).getD (snapshotName, .snapshotName)
  ⟨named.1, named.2, inspection.creationTime100ns⟩

section Names

variable [Externals]

def compareProcessName (snapshotName : String) : String :=
  Externals.toLowercase (trim snapshotName)

/-- `ProcessIdentity::new`. -/
def newIdentity (resolveExe : UInt32 → String → ProcessDetails) (pid : UInt32)
    (snapshotName : String) : ProcessIdentity :=
  let details := resolveExe pid snapshotName
  { pid
    compareName := compareProcessName snapshotName
    exe := details.exe
    exeSource := details.exeSource
    startTimeId := details.creationTime100ns }

def enrichProcessSnapshot (names : AList fun _ : UInt32 => String)
    (resolveExe : UInt32 → String → ProcessDetails) : ProcessMap :=
  ⟨names.entries.map (Sigma.map id fun pid name => newIdentity resolveExe pid name),
    names.nodupKeys.map₂ (fun pid name => newIdentity resolveExe pid name)⟩

def diffPid (live : ProcessMap) (names : AList fun _ : UInt32 => String)
    (resolveExe : UInt32 → String → ProcessDetails)
    (found : List ProcessTransition × ProcessMap) (pid : UInt32) :
    List ProcessTransition × ProcessMap :=
  match live.lookup pid, names.lookup pid with
  | some previous, some snapshotName =>
      let next := newIdentity resolveExe pid snapshotName
      if previous.isSameProcess next then
        (found.1, found.2.insert pid (previous.refreshedWith next))
      else (found.1 ++ [.exited previous, .started next], found.2.insert pid next)
  | some previous, none => (found.1 ++ [.exited previous], found.2)
  | none, some snapshotName =>
      let next := newIdentity resolveExe pid snapshotName
      (found.1 ++ [.started next], found.2.insert pid next)
  | none, none => found

def applySnapshot (tracker : ProcessTracker) (snapshot : Option ProcessSnapshot)
    (resolveExe : UInt32 → String → ProcessDetails) : ProcessTracker × List ProcessTransition :=
  match snapshot with
  | none => (tracker, [])
  | some snapshot =>
      if !tracker.seeded then (⟨true, enrichProcessSnapshot snapshot.entries resolveExe⟩, [])
      else
        let pids := ((snapshot.entries.keys ++ tracker.live.keys).insertionSort (· ≤ ·)).dedup
        let found := pids.foldl (diffPid tracker.live snapshot.entries resolveExe) ([], ∅)
        (⟨tracker.seeded, found.2⟩, found.1)

theorem enrich_lookup (names : AList fun _ : UInt32 => String)
    (resolveExe : UInt32 → String → ProcessDetails) (pid : UInt32) :
    (enrichProcessSnapshot names resolveExe).lookup pid =
      (names.lookup pid).map (newIdentity resolveExe pid) :=
  List.dlookup_map₂ pid

theorem enrich_keys (names : AList fun _ : UInt32 => String)
    (resolveExe : UInt32 → String → ProcessDetails) :
    (enrichProcessSnapshot names resolveExe).keys = names.keys :=
  List.map₂_keys _ _

theorem diff_pid_enriched (live : ProcessMap) (names : AList fun _ : UInt32 => String)
    (resolveExe : UInt32 → String → ProcessDetails) :
    diffPid live names resolveExe =
      ProcessTracker.diffPid live (enrichProcessSnapshot names resolveExe) := by
  funext found pid
  unfold diffPid ProcessTracker.diffPid
  rw [enrich_lookup]
  cases live.lookup pid <;> cases names.lookup pid <;> rfl

/-- One read of the process list, with what inspecting each pid answers. -/
structure Sweep where
  snapshot : Option ProcessSnapshot
  inspectProcess : UInt32 → ProcessInspection

namespace Sweep

/-- The identities a sweep shows; none where the read failed. -/
def entries (sweep : Sweep) : ProcessMap :=
  sweep.snapshot.elim ∅ fun snapshot =>
    enrichProcessSnapshot snapshot.entries (processIdentityExe sweep.inspectProcess)

end Sweep

def machine : Machine ProcessTracker Sweep (List ProcessTransition) :=
  ⟨fun tracker sweep =>
    applySnapshot tracker sweep.snapshot (processIdentityExe sweep.inspectProcess)⟩

theorem step_sweep (tracker : ProcessTracker) (sweep : Sweep) :
    machine.step tracker sweep = ProcessTracker.sweeps.step tracker sweep.entries := by
  cases sweep with
  | mk snapshot inspectProcess =>
      change applySnapshot tracker snapshot _ = tracker.sweep (Sweep.entries ⟨snapshot, _⟩)
      cases snapshot with
      | none => rfl
      | some snapshot =>
          have keys := enrich_keys snapshot.entries (processIdentityExe inspectProcess)
          simp only [applySnapshot, ProcessTracker.sweep, Sweep.entries, Option.elim_some, keys,
            snapshot.nonempty, diff_pid_enriched, ProcessTracker.comparedPids, Bool.false_eq_true,
            if_false]

theorem entries_filed (sweep : Sweep) : Core.Filed sweep.entries := by
  intro pid identity found
  unfold Sweep.entries at found
  cases read : sweep.snapshot with
  | none =>
      rw [read] at found
      cases found
  | some snapshot =>
      rw [read, Option.elim_some, enrich_lookup] at found
      have ⟨name, _, same⟩ := Option.map_eq_some_iff.mp found
      rw [← same]
      rfl

end Names

end Gilbreth.Windows
