import Mathlib
import Gilbreth.Core.ProcessTracker
import Gilbreth.Library.Machine

/-!
# The process churn filter and the process monitor

Rows for apps that never held the focus are counted and leave as one summary an hour.
-/

set_option autoImplicit false

namespace Gilbreth.Core

def churnSummaryInterval : Nat := 3600000000000

def churnSustainedWindow : Nat := 600000000000

def churnSustainedHits : Nat := 30

def churnSummaryTopEntries : Nat := 3

def processPollInterval : Nat := 5000000000

structure ProcessNoiseFilter where
  windowStarted : Instant
  droppedByBasename : AList fun _ : String => UInt32
  recentHits : AList fun _ : String => List Instant
  sustained : Finset String

namespace ProcessNoiseFilter

def new (now : Instant) : ProcessNoiseFilter := ⟨now, ∅, ∅, ∅⟩

/-- The hits of a name after one more, without those out of the window. -/
def hitsAfter (hits : List Instant) (now : Instant) : List Instant :=
  (hits ++ [now]).dropWhile fun front =>
    decide (churnSustainedWindow < saturatingDurationSince now front)

def keepAfterCounting (filter : ProcessNoiseFilter) (basename : String) (now : Instant) :
    ProcessNoiseFilter × Bool :=
  let count := (filter.droppedByBasename.lookup basename).getD 0
  let hits := hitsAfter ((filter.recentHits.lookup basename).getD []) now
  ({ filter with
      droppedByBasename := filter.droppedByBasename.insert basename (count + 1)
      recentHits := filter.recentHits.insert basename hits
      sustained :=
        if churnSustainedHits ≤ hits.length then insert basename filter.sustained
        else filter.sustained },
    false)

/-- `b.1.cmp(&a.1).then_with(|| a.0.cmp(&b.0))`: the larger count first, then the name. -/
def Ranks (left right : String × UInt32) : Prop :=
  right.2 < left.2 ∨ (left.2 = right.2 ∧ left.1 ≤ right.1)

instance : DecidableRel Ranks := fun left right =>
  inferInstanceAs (Decidable (right.2 < left.2 ∨ (left.2 = right.2 ∧ left.1 ≤ right.1)))

/-- The counts by name, in the order of the table. -/
def counted (filter : ProcessNoiseFilter) : List (String × UInt32) :=
  filter.droppedByBasename.entries.map fun entry => (entry.1, entry.2)

def takeSummary (filter : ProcessNoiseFilter) (now : Instant) :
    ProcessNoiseFilter × Option EventPayload :=
  let windowMs :=
    UInt64.ofNat (saturatingDurationSince now filter.windowStarted / millisecond)
  let dropped := (filter.counted.map Prod.snd).sum
  if dropped = 0 then ({ filter with windowStarted := now }, none)
  else
    let distinctExes := UInt32.ofNat filter.counted.length
    let top := ((filter.counted.insertionSort Ranks).take churnSummaryTopEntries).map fun entry =>
      { exe := entry.1, dropped := entry.2, sustained := decide (entry.1 ∈ filter.sustained) }
    ({ windowStarted := now, droppedByBasename := ∅, recentHits := ∅, sustained := ∅ },
      some (.processChurnSummary windowMs dropped distinctExes top))

def summaryIfDue (filter : ProcessNoiseFilter) (now : Instant) :
    ProcessNoiseFilter × Option EventPayload :=
  if saturatingDurationSince now filter.windowStarted < churnSummaryInterval then (filter, none)
  else filter.takeSummary now

end ProcessNoiseFilter

/-- What the process monitor asks the capture controls, at one poll. -/
structure ProcessControls where
  excludedApps : Finset String
  processFilter : Bool
  foregroundSeen : Finset String
deriving DecidableEq

structure ProcessMonitor where
  tracker : ProcessTracker
  noise : ProcessNoiseFilter
  lastSweep : Option Instant

namespace ProcessMonitor

variable [Externals]

def appExcluded (controls : ProcessControls) (exe : String) : Bool :=
  decide (exeBasenameLower exe ∈ controls.excludedApps)

omit [Externals] in
def foregroundExeSeen (controls : ProcessControls) (basename : String) : Bool :=
  decide (basename ∈ controls.foregroundSeen)

omit [Externals] in
def new (now : Instant) : ProcessMonitor := ⟨.default, .new now, none⟩

/-- One round of the loop over the transitions. -/
def keepTransition (controls : ProcessControls) (now : Instant)
    (found : ProcessNoiseFilter × List Captured) (transition : ProcessTransition) :
    ProcessNoiseFilter × List Captured :=
  if appExcluded controls transition.basename then found
  else
    let kept : ProcessNoiseFilter × Bool :=
      if !controls.processFilter then (found.1, true)
      else if foregroundExeSeen controls transition.basename then (found.1, true)
      else found.1.keepAfterCounting transition.basename now
    (kept.1, if kept.2 then found.2 ++ [transition.intoCaptured now] else found.2)

omit [Externals] in
/-- Whether the shared sweep throttle lets a poll through. -/
def due (monitor : ProcessMonitor) (now : Instant) : Bool :=
  monitor.lastSweep.all fun last =>
    decide (processPollInterval ≤ saturatingDurationSince now last)

/-- The sweep of a poll; `snapshot` is what the platform answers when asked. -/
def sweep (tracker : ProcessTracker) (snapshot : Option (List ProcessSnapshotEntry)) :
    ProcessTracker × List ProcessTransition :=
  match snapshot with
  | some entries => if entries.isEmpty then (tracker, []) else tracker.applySnapshot entries
  | none => (tracker, [])

def poll (monitor : ProcessMonitor) (now : Instant) (controls : ProcessControls)
    (snapshot : Option (List ProcessSnapshotEntry)) : ProcessMonitor × List Captured :=
  if !monitor.due now then (monitor, [])
  else
    let swept := sweep monitor.tracker snapshot
    let kept := swept.2.foldl (keepTransition controls now) (monitor.noise, [])
    let flushed := kept.1.summaryIfDue now
    (⟨swept.1, flushed.1, some now⟩,
      kept.2 ++ (flushed.2.map (⟨.system, now, ·⟩)).toList)

omit [Externals] in
def flush (monitor : ProcessMonitor) (now : Instant) : ProcessMonitor × List Captured :=
  let flushed := monitor.noise.takeSummary now
  ({ monitor with noise := flushed.1 }, (flushed.2.map (⟨.system, now, ·⟩)).toList)

end ProcessMonitor

end Gilbreth.Core
