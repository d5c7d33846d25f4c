import Mathlib.Data.List.AList
import Mathlib.Data.List.Sort
import Gilbreth.Core.Event

/-!
# Process launch and exit tracking

The first sweep with a usable row seeds in silence; every later one is compared with what
is live, pid by pid in ascending order.
-/

set_option autoImplicit false

namespace Gilbreth.Core

structure ProcessSnapshotEntry where
  pid : UInt32
  comm : String
  path : Option String
  startTimeId : Option UInt64
deriving DecidableEq

structure ProcessIdentity where
  pid : UInt32
  compareName : String
  exe : String
  exeSource : ProcessExeSource
  startTimeId : Option UInt64
deriving DecidableEq

/-- `text.trim().is_empty()`. -/
def isBlank (text : String) : Bool := trim text == ""

/-- `Some(path) if !path.trim().is_empty()`. -/
def ProcessSnapshotEntry.namedPath (entry : ProcessSnapshotEntry) : Option String :=
  entry.path.filter fun path => !isBlank path

/-- The rows a sweep keeps: a command or a path that is not blank. -/
def ProcessSnapshotEntry.named (entry : ProcessSnapshotEntry) : Bool :=
  !isBlank entry.comm || entry.path.any fun path => !isBlank path

namespace ProcessIdentity

def isSameProcess (previous next : ProcessIdentity) : Bool :=
  previous.compareName == next.compareName &&
    match previous.startTimeId, next.startTimeId with
    | some previous, some next => previous == next
    | _, _ => true

/-- A token known before a refresh that lost it is kept. -/
def refreshedWith (previous next : ProcessIdentity) : ProcessIdentity :=
  if next.startTimeId.isNone then { next with startTimeId := previous.startTimeId } else next

end ProcessIdentity

inductive ProcessTransition where
  | started (identity : ProcessIdentity)
  | exited (identity : ProcessIdentity)
deriving DecidableEq

namespace ProcessTransition

def identity : ProcessTransition → ProcessIdentity
  | started identity => identity
  | exited identity => identity

def intoCaptured (transition : ProcessTransition) (capturedAt : Instant) : Captured :=
  match transition with
  | started identity =>
      ⟨.system, capturedAt, .processStarted identity.pid identity.exe identity.exeSource⟩
  | exited identity =>
      ⟨.system, capturedAt, .processExited identity.pid identity.exe identity.exeSource⟩

end ProcessTransition

/-- `HashMap<u32, ProcessIdentity>`. -/
abbrev ProcessMap := AList fun _ : UInt32 => ProcessIdentity

structure ProcessTracker where
  seeded : Bool
  live : ProcessMap

section Names

variable [Externals]

def ProcessIdentity.fromEntry (entry : ProcessSnapshotEntry) : ProcessIdentity :=
  let named : String × ProcessExeSource :=
    match entry.namedPath with
    | some path => (path, .fullPath)
    | none => (entry.comm, .snapshotName)
  let compareName :=
    match entry.namedPath with
    | some path => exeBasenameLower path
    | none => Externals.toLowercase (trim entry.comm)
  { pid := entry.pid
    compareName := compareName
    exe := named.1
    exeSource := named.2
    startTimeId := entry.startTimeId }

def ProcessTransition.basename (transition : ProcessTransition) : String :=
  if transition.identity.compareName = "" then exeBasenameLower transition.identity.exe
  else transition.identity.compareName

namespace ProcessTracker

def default : ProcessTracker := ⟨false, ∅⟩

/-- The rows of a sweep by pid; of rows with one pid the last stays. -/
def entriesOf (snapshot : List ProcessSnapshotEntry) : ProcessMap :=
  (snapshot.filter ProcessSnapshotEntry.named).foldl
    (fun entries entry => entries.insert entry.pid (ProcessIdentity.fromEntry entry)) ∅

def diffPid (live entries : ProcessMap) (found : List ProcessTransition × ProcessMap)
    (pid : UInt32) : List ProcessTransition × ProcessMap :=
  match live.lookup pid, entries.lookup pid with
  | some previous, some next =>
      if previous.isSameProcess next then
        (found.1, found.2.insert pid (previous.refreshedWith next))
      else (found.1 ++ [.exited previous, .started next], found.2.insert pid next)
  | some previous, none => (found.1 ++ [.exited previous], found.2)
  | none, some next => (found.1 ++ [.started next], found.2.insert pid next)
  | none, none => found

/-- The pids of both maps, sorted, each once. -/
def comparedPids (live entries : ProcessMap) : List UInt32 :=
  ((entries.keys ++ live.keys).insertionSort (· ≤ ·)).dedup

def applySnapshot (tracker : ProcessTracker) (snapshot : List ProcessSnapshotEntry) :
    ProcessTracker × List ProcessTransition :=
  let entries := entriesOf snapshot
  -- An empty sweep is a failed sweep.
  if entries.keys.isEmpty then (tracker, [])
  else if !tracker.seeded then (⟨true, entries⟩, [])
  else
    let found := (comparedPids tracker.live entries).foldl (diffPid tracker.live entries) ([], ∅)
    (⟨tracker.seeded, found.2⟩, found.1)

end ProcessTracker

end Names

end Gilbreth.Core
