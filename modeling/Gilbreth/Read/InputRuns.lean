import Gilbreth.Library.Chains
import Gilbreth.Read.IdleTime
import Mathlib.Data.List.SplitBy

/-!
# Input runs

One scan of the input rows feeds a table of counts by program and, sorted, a sweep that
breaks a run at a session's end and wherever the session was inactive. The sweep looks
up one merged span for each pair of events.
-/

set_option autoImplicit false

namespace Gilbreth.Read

open Gilbreth.Core Gilbreth.Store Spans Chains

section Scan

def inputKinds : List String := ["key", "mouse_click", "mouse_move", "mouse_wheel"]

/-- `$.input_origin` of a stored payload. -/
def payloadInputOrigin : EventPayload → Option InputOrigin
  | .mouseClick _ _ _ _ origin => origin
  | .mouseDoubleClick _ _ _ _ _ origin => origin
  | .mouseDrag _ _ _ _ _ _ _ _ _ _ _ _ origin => origin
  | .mouseWheel _ _ _ _ _ origin => origin
  | .mouseMove _ _ _ _ _ _ _ _ origin => origin
  | _ => none

/-- `input_sweep_predicate`: every key row, and mouse rows that no relay is suspected of. -/
def inputSweepPredicate (row : EventRow) : Bool :=
  inputKinds.contains row.kind &&
    (row.kind == "key" ||
      (payloadInputOrigin row.payload).getD .«local» != .remoteRelaySuspected)

def inputRows (db : Database) (scope : Scope) : List EventRow :=
  db.activity.events.rows.filter fun row =>
    inputSweepPredicate row && scope.admits row.sessionId row.ts.val

/-- `COALESCE(NULLIF(e.exe, ''), '(unknown)')`. -/
def inputExe (row : EventRow) : String :=
  if row.exe.getD "" = "" then "(unknown)" else row.exe.getD ""

structure InputEvent where
  sessionId : Int
  seq : Int
  ts : Int
  exe : String
deriving DecidableEq

def inputEvent (row : EventRow) : InputEvent where
  sessionId := row.sessionId
  seq := row.seq.val
  ts := row.ts.val
  exe := inputExe row

/-- The counts by program and kind, and the place of each executable already seen. -/
structure CountTable where
  counts : List (String × List (String × Int))
  countIndexByExe : List (String × Nat)

def CountTable.empty : CountTable := ⟨[], []⟩

/-- The table with an entry for the executable's program, and that entry's place. -/
def CountTable.locate (table : CountTable) (exe : String) : CountTable × Nat :=
  match table.countIndexByExe.lookup exe with
  | some index => (table, index)
  | none =>
      match table.counts.findIdx? fun entry => entry.1 == displayApp exe with
      | some index => (⟨table.counts, (exe, index) :: table.countIndexByExe⟩, index)
      | none =>
          (⟨table.counts ++ [(displayApp exe, [])],
            (exe, table.counts.length) :: table.countIndexByExe⟩, table.counts.length)

def CountTable.count (table : CountTable) (row : EventRow) : CountTable :=
  let (located, index) := table.locate (inputExe row)
  { located with
    counts := located.counts.modify index fun entry => (entry.1, bumpOrdered entry.2 row.kind 1) }

end Scan

section Sweep

/-- A run of input. The counts are in the order of `exe_order`. -/
structure InputRun where
  sessionId : Int
  minTs : Int
  maxTs : Int
  eventCount : Int
  exeCounts : List (String × Int)
  runMs : Int
  startLocalDate : String
deriving DecidableEq

def InputRun.start (event : InputEvent) : InputRun where
  sessionId := event.sessionId
  minTs := event.ts
  maxTs := event.ts
  eventCount := 1
  exeCounts := [(event.exe, 1)]
  runMs := 0
  startLocalDate := ""

def InputRun.extend (run : InputRun) (event : InputEvent) : InputRun :=
  { run with
    minTs := min run.minTs event.ts
    maxTs := max run.maxTs event.ts
    eventCount := run.eventCount + 1
    exeCounts := bumpOrdered run.exeCounts event.exe 1 }

def InputRun.finalize [LocalZone] (run : InputRun) : InputRun :=
  { run with
    runMs := max (run.maxTs - run.minTs) 0
    startLocalDate := LocalZone.localDate run.minTs }

/-- Whether the last span that starts before `hi` ends past `lo`. -/
def splitBetween (spans : List Span) (lo hi : Int) : Bool :=
  let pos := partitionPoint (fun start => decide (start < hi)) (spans.map Prod.fst)
  decide (0 < pos) && ((spans.map Prod.snd)[pos - 1]?).any fun finish => decide (lo < finish)

structure SweepState where
  runs : List InputRun
  current : Option InputRun
  prevSession : Option Int
  prevTs : Option Int

def SweepState.initial : SweepState := ⟨[], none, none, none⟩

def SweepState.broke (inactive : Int → List Span) (state : SweepState) (event : InputEvent) :
    Bool :=
  if state.current.isSome ∧ state.prevSession = some event.sessionId then
    let lo := state.prevTs.elim event.ts fun prev => min prev event.ts
    let hi := state.prevTs.elim event.ts fun prev => max prev event.ts
    splitBetween (inactive event.sessionId) lo hi
  else true

variable [LocalZone]

def SweepState.step (inactive : Int → List Span) (state : SweepState) (event : InputEvent) :
    SweepState :=
  let continued : SweepState :=
    match state.current with
    | some run =>
        if state.broke inactive event then
          { state with runs := state.runs ++ [run.finalize], current := some (.start event) }
        else { state with current := some (run.extend event) }
    | none => { state with current := some (.start event) }
  { continued with prevSession := some event.sessionId, prevTs := some event.ts }

/-- The runs once the last one is completed. -/
def SweepState.close (state : SweepState) : List InputRun :=
  state.runs ++ (state.current.map InputRun.finalize).toList

/-- `events.sort_by_key(|event| (event.session_id, event.seq))`. -/
def InputEvent.numberedBefore (left right : InputEvent) : Bool :=
  decide (left.sessionId < right.sessionId ∨
    (left.sessionId = right.sessionId ∧ left.seq ≤ right.seq))

/-- The idle and sleep spans of every session that has one of the events. -/
def inactiveIntervals (db : Database) (events : List InputEvent) : List SessionInterval :=
  let ids := events.map InputEvent.sessionId
  idleIntervals db ids none ++ sleepIntervals db ids

def inputRunsAndCounts (db : Database) (scope : Scope) :
    List InputRun × List (String × List (String × Int)) :=
  let rows := inputRows db scope
  let counts := (rows.foldl CountTable.count .empty).counts
  let events := rows.map inputEvent
  let inactive := fun sessionId =>
    mergeIntervals (spansOf (inactiveIntervals db events) sessionId)
  let ordered := events.mergeSort InputEvent.numberedBefore
  ((ordered.foldl (SweepState.step inactive) .initial).close, counts)

end Sweep

section Split

/-- A span reaches between the two moments, or, at one moment, a span ends there and
another begins. -/
def Separates (spans : List Span) (lo hi : Int) : Prop :=
  (∃ span ∈ spans, span.1 < hi ∧ lo < span.2) ∨
    (lo = hi ∧ (∃ span ∈ spans, span.1 < lo ∧ span.2 = lo) ∧
      ∃ span ∈ spans, span.1 = lo ∧ lo < span.2)

theorem merge_from_separates {last : Span} {rest : List Span}
    (sorted : (last :: rest).Pairwise fun left right => left.1 ≤ right.1)
    (upright : ∀ span ∈ last :: rest, span.1 ≤ span.2) {lo hi : Int} (ordered : lo ≤ hi) :
    (∃ span ∈ mergeFrom last rest, span.1 < hi ∧ lo < span.2) ↔
      Separates (last :: rest) lo hi := by
  induction rest generalizing last with
  | nil =>
      simp only [mergeFrom, Separates, List.mem_singleton, exists_eq_left]
      omega
  | cons span rest induction =>
      have starts := List.pairwise_cons.mp sorted
      have later := List.pairwise_cons.mp starts.2
      have first : last.1 ≤ span.1 := starts.1 span List.mem_cons_self
      have lastUp : last.1 ≤ last.2 := upright last List.mem_cons_self
      have spanUp : span.1 ≤ span.2 := upright span (by simp)
      rw [mergeFrom]
      split
      · rename_i touches
        have merged : ((last.1, max last.2 span.2) :: rest).Pairwise
            fun left right => left.1 ≤ right.1 :=
          List.pairwise_cons.mpr
            ⟨fun other member => starts.1 other (List.mem_cons_of_mem _ member), later.2⟩
        rw [induction merged (by
          intro other member
          rcases List.mem_cons.mp member with rfl | inRest
          · exact lastUp.trans (le_max_left _ _)
          · exact upright other (by simp [inRest]))]
        have ends : (∃ other ∈ rest, other.1 < lo ∧ other.2 = lo) → span.1 < lo := by
          rintro ⟨other, member, before, _⟩
          exact (later.1 other member).trans_lt before
        simp only [Separates, List.mem_cons, exists_eq_or_imp]
        generalize (∃ other ∈ rest, other.1 < hi ∧ lo < other.2) = reach
        generalize (∃ other ∈ rest, other.1 = lo ∧ lo < other.2) = opening
        generalize (∃ other ∈ rest, other.1 < lo ∧ other.2 = lo) = ending at ends ⊢
        grind
      · rename_i apart
        have rest_of := induction starts.2 (fun other member => upright other
          (List.mem_cons_of_mem _ member))
        have begins : (∃ other ∈ rest, other.1 = lo ∧ lo < other.2) → span.1 ≤ lo := by
          rintro ⟨other, member, same, _⟩
          exact (later.1 other member).trans same.le
        have ends : (∃ other ∈ rest, other.1 < lo ∧ other.2 = lo) → span.1 < lo := by
          rintro ⟨other, member, before, _⟩
          exact (later.1 other member).trans_lt before
        simp only [List.mem_cons, exists_eq_or_imp]
        rw [rest_of]
        simp only [Separates, List.mem_cons, exists_eq_or_imp]
        generalize (∃ other ∈ rest, other.1 < hi ∧ lo < other.2) = reach
        generalize (∃ other ∈ rest, other.1 = lo ∧ lo < other.2) = opening at begins ⊢
        generalize (∃ other ∈ rest, other.1 < lo ∧ other.2 = lo) = ending at ends ⊢
        grind

theorem merge_separates {spans : List Span} (upright : ∀ span ∈ spans, span.1 ≤ span.2)
    {lo hi : Int} (ordered : lo ≤ hi) :
    (∃ span ∈ mergeIntervals spans, span.1 < hi ∧ lo < span.2) ↔ Separates spans lo hi := by
  have same := List.mergeSort_perm spans tupleLe
  have sorted := tuple_le_sorted spans
  rw [mergeIntervals]
  cases arranged : spans.mergeSort tupleLe with
  | nil =>
      rw [arranged] at same
      have none := same.nil_eq
      subst none
      simp [mergeSorted, Separates]
  | cons first rest =>
      rw [arranged] at same sorted
      rw [mergeSorted, merge_from_separates sorted
        (fun span member => upright span (same.mem_iff.mp member)) ordered]
      simp only [Separates, same.mem_iff]

theorem split_between_cons_late {span : Span} {rest : List Span} {lo hi : Int}
    (late : ¬span.1 < hi) : splitBetween (span :: rest) lo hi = false := by
  have none : partitionPoint (fun start => decide (start < hi))
      ((span :: rest).map Prod.fst) = 0 := by
    rw [partitionPoint, List.map_cons, List.takeWhile_cons_of_neg (by simpa using late)]
    rfl
  rw [splitBetween, none]
  rfl

theorem split_between_cons {span : Span} {rest : List Span} {lo hi : Int} (early : span.1 < hi) :
    splitBetween (span :: rest) lo hi =
      if rest.head?.any fun next => decide (next.1 < hi) then splitBetween rest lo hi
      else decide (lo < span.2) := by
  have more : partitionPoint (fun start => decide (start < hi)) ((span :: rest).map Prod.fst) =
      partitionPoint (fun start => decide (start < hi)) (rest.map Prod.fst) + 1 := by
    rw [partitionPoint, List.map_cons, List.takeWhile_cons_of_pos (by simpa using early)]
    rfl
  rw [splitBetween, more]
  cases rest with
  | nil => simp [partitionPoint]
  | cons next rest =>
      by_cases soon : next.1 < hi
      · have further : partitionPoint (fun start => decide (start < hi))
            ((next :: rest).map Prod.fst) =
            partitionPoint (fun start => decide (start < hi)) (rest.map Prod.fst) + 1 := by
          rw [partitionPoint, List.map_cons, List.takeWhile_cons_of_pos (by simpa using soon)]
          rfl
        rw [if_pos (by simpa using soon), splitBetween, further]
        simp
      · have stop : partitionPoint (fun start => decide (start < hi))
            ((next :: rest).map Prod.fst) = 0 := by
          rw [partitionPoint, List.map_cons, List.takeWhile_cons_of_neg (by simpa using soon)]
          rfl
        rw [if_neg (by simpa using soon), stop]
        simp

theorem split_between_iff {spans : List Span} (order : InOrder spans) (lo hi : Int) :
    splitBetween spans lo hi = true ↔ ∃ span ∈ spans, span.1 < hi ∧ lo < span.2 := by
  induction spans with
  | nil => simp [splitBetween, partitionPoint]
  | cons span rest induction =>
      have upright := order.1 span List.mem_cons_self
      have after := (List.pairwise_cons.mp order.2).1
      by_cases early : span.1 < hi
      · rw [split_between_cons early]
        split
        · rename_i soon
          rw [induction order.tail]
          constructor
          · rintro ⟨other, member, meets⟩
            exact ⟨other, List.mem_cons_of_mem _ member, meets⟩
          · rintro ⟨other, member, meets⟩
            rcases List.mem_cons.mp member with rfl | inRest
            · cases rest with
              | nil => cases soon
              | cons next rest =>
                  have begins : next.1 < hi := by simpa using soon
                  have beyond := after next List.mem_cons_self
                  have nextUp := order.tail.1 next List.mem_cons_self
                  exact ⟨next, List.mem_cons_self, begins, by omega⟩
            · exact ⟨other, inRest, meets⟩
        · rename_i late
          rw [decide_eq_true_eq]
          constructor
          · exact fun beyond => ⟨span, List.mem_cons_self, early, beyond⟩
          · rintro ⟨other, member, meets⟩
            rcases List.mem_cons.mp member with rfl | inRest
            · exact meets.2
            · cases rest with
              | nil => cases inRest
              | cons next rest =>
                  have notSoon : ¬next.1 < hi := by simpa using late
                  have nextUp := order.tail.1 next List.mem_cons_self
                  rcases List.mem_cons.mp inRest with rfl | further
                  · exact absurd meets.1 notSoon
                  · have apart := (List.pairwise_cons.mp order.tail.2).1 other further
                    omega
      · rw [split_between_cons_late early]
        apply iff_of_false Bool.false_ne_true
        rintro ⟨other, member, meets⟩
        rcases List.mem_cons.mp member with rfl | inRest
        · exact early meets.1
        · have apart := after other inRest
          omega

theorem split_merged_iff {spans : List Span} (upright : ∀ span ∈ spans, span.1 ≤ span.2)
    {lo hi : Int} (ordered : lo ≤ hi) :
    splitBetween (mergeIntervals spans) lo hi = true ↔ Separates spans lo hi := by
  have order : InOrder (mergeIntervals spans) := (coalesce_spans_spec upright).1
  rw [split_between_iff order, merge_separates upright ordered]

end Split

section Runs

/-- Whether the sweep keeps two events in one run. -/
def linked (inactive : Int → List Span) (previous event : InputEvent) : Bool :=
  decide (previous.sessionId = event.sessionId) &&
    !splitBetween (inactive event.sessionId) (min previous.ts event.ts) (max previous.ts event.ts)

/-- A run of some events before it is completed. -/
inductive OpenRun : List InputEvent → InputRun → Prop
  | start (event : InputEvent) : OpenRun [event] (.start event)
  | extend {events : List InputEvent} {run : InputRun} (event : InputEvent)
      (opened : OpenRun events run) : OpenRun (events ++ [event]) (run.extend event)

def CompletedRun [LocalZone] (events : List InputEvent) (run : InputRun) : Prop :=
  ∃ opened, OpenRun events opened ∧ run = opened.finalize

theorem step_linked {inactive : Int → List Span} {state : SweepState} {run : InputRun}
    {previous : InputEvent} (current : state.current = some run)
    (session : state.prevSession = some previous.sessionId)
    (stamp : state.prevTs = some previous.ts) (event : InputEvent) :
    state.broke inactive event = !linked inactive previous event := by
  rw [SweepState.broke, current, session, stamp, linked]
  by_cases same : previous.sessionId = event.sessionId
  · simp [same]
  · simp [same]

variable [LocalZone]

/-- From an open run on, the sweep makes the runs of the events as they are split. -/
theorem sweep_from {inactive : Int → List Span} {events : List InputEvent} {state : SweepState}
    {run : InputRun} {previous : InputEvent} {before : List InputEvent}
    {done : List (List InputEvent)} (current : state.current = some run)
    (session : state.prevSession = some previous.sessionId)
    (stamp : state.prevTs = some previous.ts)
    (opened : OpenRun (previous :: before).reverse run)
    (runs : List.Forall₂ CompletedRun done.reverse state.runs) :
    List.Forall₂ CompletedRun
      (List.splitBy.loop (linked inactive) events previous before done)
      (events.foldl (SweepState.step inactive) state).close := by
  induction events generalizing state run previous before done with
  | nil =>
      rw [List.splitBy.loop, List.foldl_nil, SweepState.close, current, List.reverse_cons]
      apply List.rel_append runs
      exact List.Forall₂.cons ⟨run, opened, rfl⟩ List.Forall₂.nil
  | cons event events induction =>
      have test := @step_linked inactive _ _ _ current session stamp event
      rw [List.splitBy.loop, List.foldl_cons]
      cases link : linked inactive previous event with
      | true =>
          rw [link] at test
          have next : state.step inactive event =
              { state with
                current := some (run.extend event)
                prevSession := some event.sessionId
                prevTs := some event.ts } := by
            rw [SweepState.step, current]
            simp [test]
          rw [next]
          apply induction rfl rfl rfl
          · rw [List.reverse_cons]
            exact OpenRun.extend event opened
          · exact runs
      | false =>
          rw [link] at test
          have next : state.step inactive event =
              { runs := state.runs ++ [run.finalize]
                current := some (.start event)
                prevSession := some event.sessionId
                prevTs := some event.ts } := by
            rw [SweepState.step, current]
            simp [test]
          rw [next]
          apply induction rfl rfl rfl
          · exact OpenRun.start event
          rw [List.reverse_cons]
          apply List.rel_append runs
          exact List.Forall₂.cons ⟨run, opened, rfl⟩ List.Forall₂.nil

theorem sweep_runs (inactive : Int → List Span) (events : List InputEvent) :
    List.Forall₂ CompletedRun (events.splitBy (linked inactive))
      (events.foldl (SweepState.step inactive) .initial).close := by
  cases events with
  | nil => exact List.Forall₂.nil
  | cons event events =>
      rw [List.foldl_cons]
      apply sweep_from rfl rfl rfl
      · exact OpenRun.start event
      · exact List.Forall₂.nil

end Runs


section Tallies

def countOf (rows : List (String × Int)) (key : String) : Int := (rows.lookup key).getD 0

theorem count_of_cons (row : String × Int) (rest : List (String × Int)) (key : String) :
    countOf (row :: rest) key = if key = row.1 then row.2 else countOf rest key := by
  rcases row with ⟨own, total⟩
  by_cases same : key = own
  · rw [if_pos same, countOf, same, List.lookup_cons_self, Option.getD_some]
  · rw [if_neg same, countOf, List.lookup_cons, beq_false_of_ne same, countOf]

theorem count_of_bump (rows : List (String × Int)) (key : String) (amount : Int)
    (other : String) :
    countOf (bumpOrdered rows key amount) other =
      countOf rows other + if other = key then amount else 0 := by
  induction rows with
  | nil =>
      rw [bumpOrdered, count_of_cons]
      by_cases same : other = key
      · simp [same, countOf]
      · simp [same, countOf]
  | cons row rest induction =>
      rw [bumpOrdered]
      by_cases own : row.1 = key
      · rw [if_pos own, count_of_cons, count_of_cons]
        by_cases same : other = key
        · simp [same, own]
        · simp [same, own]
      · rw [if_neg own, count_of_cons, count_of_cons, induction]
        by_cases first : other = row.1
        · have apart : other ≠ key := fun equal => own (first.symm.trans equal)
          simp [first, own]
        · simp [first]

/-- What a completed run says of its events. -/
structure RunOf [LocalZone] (events : List InputEvent) (run : InputRun) : Prop where
  session : ∀ event ∈ events, event.sessionId = run.sessionId
  count : run.eventCount = events.length
  exes : ∀ exe, countOf run.exeCounts exe = (events.filter fun event => event.exe == exe).length
  first : IsLeast {ts | ∃ event ∈ events, event.ts = ts} run.minTs
  last : IsGreatest {ts | ∃ event ∈ events, event.ts = ts} run.maxTs
  duration : run.runMs = run.maxTs - run.minTs
  date : run.startLocalDate = LocalZone.localDate run.minTs

theorem open_run_count {events : List InputEvent} {run : InputRun} (opened : OpenRun events run) :
    run.eventCount = events.length := by
  induction opened with
  | start event => rfl
  | extend event opened induction =>
      rw [InputRun.extend, induction, List.length_append, List.length_singleton]
      rfl

theorem open_run_exes {events : List InputEvent} {run : InputRun} (opened : OpenRun events run)
    (exe : String) :
    countOf run.exeCounts exe = (events.filter fun event => event.exe == exe).length := by
  induction opened with
  | start event =>
      rw [InputRun.start, count_of_cons]
      by_cases same : exe = event.exe
      · simp [same]
      · have apart : event.exe ≠ exe := Ne.symm same
        simp [same, apart, countOf]
  | extend event opened induction =>
      rw [InputRun.extend, count_of_bump, induction, List.filter_append, List.length_append]
      by_cases same : exe = event.exe
      · simp [same]
      · have apart : event.exe ≠ exe := Ne.symm same
        simp [same, apart]

theorem open_run_first {events : List InputEvent} {run : InputRun} (opened : OpenRun events run) :
    IsLeast {ts | ∃ event ∈ events, event.ts = ts} run.minTs := by
  induction opened with
  | start event =>
      constructor
      · exact ⟨event, List.mem_singleton_self event, rfl⟩
      · rintro ts ⟨other, member, rfl⟩
        rw [List.mem_singleton.mp member]
        exact le_rfl
  | extend event opened induction =>
      constructor
      · rcases min_choice _ event.ts with least | least
        · rcases induction.1 with ⟨other, member, stamp⟩
          exact ⟨other, List.mem_append_left _ member, stamp.trans least.symm⟩
        · exact ⟨event, List.mem_append_right _ (List.mem_singleton_self event), least.symm⟩
      · rintro ts ⟨other, member, rfl⟩
        rcases List.mem_append.mp member with earlier | new
        · exact (min_le_left _ _).trans (induction.2 ⟨other, earlier, rfl⟩)
        · rw [List.mem_singleton.mp new]
          exact min_le_right _ _

theorem open_run_last {events : List InputEvent} {run : InputRun} (opened : OpenRun events run) :
    IsGreatest {ts | ∃ event ∈ events, event.ts = ts} run.maxTs := by
  induction opened with
  | start event =>
      constructor
      · exact ⟨event, List.mem_singleton_self event, rfl⟩
      · rintro ts ⟨other, member, rfl⟩
        rw [List.mem_singleton.mp member]
        exact le_rfl
  | extend event opened induction =>
      constructor
      · rcases max_choice _ event.ts with most | most
        · rcases induction.1 with ⟨other, member, stamp⟩
          exact ⟨other, List.mem_append_left _ member, stamp.trans most.symm⟩
        · exact ⟨event, List.mem_append_right _ (List.mem_singleton_self event), most.symm⟩
      · rintro ts ⟨other, member, rfl⟩
        rcases List.mem_append.mp member with earlier | new
        · exact (induction.2 ⟨other, earlier, rfl⟩).trans (le_max_left _ _)
        · rw [List.mem_singleton.mp new]
          exact le_max_right _ _

theorem open_run_session {events : List InputEvent} {run : InputRun} (opened : OpenRun events run) :
    ∃ event ∈ events, event.sessionId = run.sessionId := by
  induction opened with
  | start event => exact ⟨event, List.mem_singleton_self event, rfl⟩
  | extend event opened induction =>
      rcases induction with ⟨other, member, own⟩
      exact ⟨other, List.mem_append_left _ member, own⟩

theorem linked_session {inactive : Int → List Span} {events : List InputEvent}
    (chain : events.IsChain fun left right => linked inactive left right = true)
    {left right : InputEvent} (leftListed : left ∈ events) (rightListed : right ∈ events) :
    left.sessionId = right.sessionId := by
  have same : events.IsChain fun left right => left.sessionId = right.sessionId := by
    apply chain.imp
    intro left right link
    rw [linked, Bool.and_eq_true, decide_eq_true_eq] at link
    exact link.1
  have pairs : events.Pairwise fun left right => left.sessionId = right.sessionId :=
    List.isChain_iff_pairwise.mp same
  have symmetric : Std.Symm fun left right : InputEvent => left.sessionId = right.sessionId :=
    ⟨fun _ _ sessions => sessions.symm⟩
  by_cases equal : left = right
  · rw [equal]
  · exact pairs.forall leftListed rightListed equal

theorem completed_run_of [LocalZone] {inactive : Int → List Span} {events : List InputEvent}
    {run : InputRun} (completed : CompletedRun events run)
    (chain : events.IsChain fun left right => linked inactive left right = true) :
    RunOf events run := by
  rcases completed with ⟨opened, made, rfl⟩
  have first := open_run_first made
  have last := open_run_last made
  constructor
  · intro event member
    rcases open_run_session made with ⟨other, listed, own⟩
    exact (linked_session chain member listed).trans own
  · exact (open_run_count made :)
  · exact (open_run_exes made :)
  · exact first
  · exact last
  · have ordered : opened.minTs ≤ opened.maxTs := first.2 last.1
    rw [InputRun.finalize]
    dsimp only
    omega
  · rfl

end Tallies

section Counts

def CountTable.apps (table : CountTable) : List String := table.counts.map Prod.fst

/-- How many of the rows are of a program and a kind. -/
def appKindCount (rows : List EventRow) (app kind : String) : Int :=
  (rows.filter fun row => displayApp (inputExe row) == app && row.kind == kind).length

/-- The table counts the rows scanned so far. -/
structure CountTable.Exact (rows : List EventRow) (table : CountTable) : Prop where
  distinct : table.apps.Nodup
  placed : ∀ exe index, table.countIndexByExe.lookup exe = some index →
    table.apps[index]? = some (displayApp exe)
  listed : ∀ row ∈ rows, displayApp (inputExe row) ∈ table.apps
  own : ∀ entry ∈ table.counts, ∀ kind, countOf entry.2 kind = appKindCount rows entry.1 kind

theorem app_kind_count_concat (rows : List EventRow) (row : EventRow) (app kind : String) :
    appKindCount (rows ++ [row]) app kind = appKindCount rows app kind +
      if displayApp (inputExe row) = app ∧ kind = row.kind then 1 else 0 := by
  rw [appKindCount, appKindCount, List.filter_append, List.length_append]
  by_cases counted : displayApp (inputExe row) = app ∧ kind = row.kind
  · have one : [row].filter (fun other =>
        displayApp (inputExe other) == app && other.kind == kind) = [row] := by
      apply List.filter_eq_self.mpr
      intro other member
      rw [List.mem_singleton.mp member, Bool.and_eq_true, beq_iff_eq, beq_iff_eq]
      exact ⟨counted.1, counted.2.symm⟩
    rw [if_pos counted, one, List.length_singleton, Nat.cast_add, Nat.cast_one]
  · have none : [row].filter (fun other =>
        displayApp (inputExe other) == app && other.kind == kind) = [] := by
      apply List.filter_eq_nil_iff.mpr
      intro other member own
      rw [List.mem_singleton.mp member, Bool.and_eq_true, beq_iff_eq, beq_iff_eq] at own
      exact counted ⟨own.1, own.2.symm⟩
    rw [if_neg counted, none, List.length_nil, Nat.add_zero, add_zero]

theorem lookup_cache_cons {cache : List (String × Nat)} {exe other : String} {place index : Nat}
    (found : ((exe, place) :: cache).lookup other = some index) :
    (other = exe ∧ place = index) ∨ cache.lookup other = some index := by
  rw [List.lookup_cons] at found
  by_cases same : other = exe
  · rw [same, beq_self_eq_true, Option.some.injEq] at found
    exact Or.inl ⟨same, found⟩
  · rw [beq_false_of_ne same] at found
    exact Or.inr found

theorem locate_exact {rows : List EventRow} {table : CountTable} (exact : table.Exact rows)
    (exe : String) :
    (table.locate exe).1.Exact rows ∧
      (table.locate exe).1.apps[(table.locate exe).2]? = some (displayApp exe) := by
  rw [CountTable.locate]
  cases cached : table.countIndexByExe.lookup exe with
  | some index => exact ⟨exact, exact.placed exe index cached⟩
  | none =>
      dsimp only
      cases found : table.counts.findIdx? fun entry => entry.1 == displayApp exe with
      | some index =>
          dsimp only
          rcases List.findIdx?_eq_some_iff_getElem.mp found with ⟨bound, own, _⟩
          have place : table.apps[index]? = some (displayApp exe) := by
            rw [CountTable.apps, List.getElem?_map, List.getElem?_eq_getElem bound,
              Option.map_some, beq_iff_eq.mp own]
          refine ⟨⟨exact.distinct, ?_, exact.listed, exact.own⟩, place⟩
          intro other at_ seen
          rcases lookup_cache_cons seen with ⟨rfl, rfl⟩ | earlier
          · exact place
          · exact exact.placed other at_ earlier
      | none =>
          dsimp only
          have absent : displayApp exe ∉ table.apps := by
            intro listed
            rcases List.mem_map.mp listed with ⟨entry, member, own⟩
            have skipped := List.findIdx?_eq_none_iff.mp found entry member
            rw [own, beq_self_eq_true] at skipped
            cases skipped
          have apps : CountTable.apps ⟨table.counts ++ [(displayApp exe, [])],
              (exe, table.counts.length) :: table.countIndexByExe⟩ =
                table.apps ++ [displayApp exe] := by
            rw [CountTable.apps, List.map_append, CountTable.apps]
            rfl
          have size : table.apps.length = table.counts.length := List.length_map _
          have place : (table.apps ++ [displayApp exe])[table.counts.length]? =
              some (displayApp exe) := by
            rw [← size]
            exact List.getElem?_concat_length
          rw [apps]
          refine ⟨⟨?_, ?_, ?_, ?_⟩, place⟩
          · rw [apps]
            exact List.nodup_append.mpr ⟨exact.distinct, List.nodup_singleton _, fun app listed
              other single same => absent (by
                rw [← List.mem_singleton.mp single, ← same]
                exact listed)⟩
          · intro other at_ seen
            rw [apps]
            rcases lookup_cache_cons seen with ⟨rfl, rfl⟩ | earlier
            · exact place
            · have earlierPlace := exact.placed other at_ earlier
              rw [List.getElem?_append_left (List.getElem?_eq_some_iff.mp earlierPlace).1]
              exact earlierPlace
          · intro row member
            rw [apps]
            exact List.mem_append_left _ (exact.listed row member)
          · intro entry member kind
            rcases List.mem_append.mp member with earlier | new
            · exact exact.own entry earlier kind
            · rw [List.mem_singleton.mp new]
              have nothing : rows.filter (fun row =>
                  displayApp (inputExe row) == displayApp exe && row.kind == kind) = [] := by
                apply List.filter_eq_nil_iff.mpr
                intro row listed counted
                rw [Bool.and_eq_true, beq_iff_eq] at counted
                apply absent
                rw [← counted.1]
                exact exact.listed row listed
              rw [appKindCount, nothing]
              rfl

theorem count_exact {rows : List EventRow} {table : CountTable} (exact : table.Exact rows)
    (row : EventRow) : (table.count row).Exact (rows ++ [row]) := by
  rcases locate_exact exact (inputExe row) with ⟨located, place⟩
  rw [CountTable.count]
  generalize found : table.locate (inputExe row) = spot at located place
  rcases spot with ⟨next, index⟩
  dsimp only at located place ⊢
  have apps : CountTable.apps { next with
      counts := next.counts.modify index fun entry =>
        (entry.1, bumpOrdered entry.2 row.kind 1) } = next.apps := by
    apply List.ext_getElem?
    intro position
    rw [CountTable.apps, CountTable.apps, List.getElem?_map, List.getElem?_map,
      List.getElem?_modify]
    cases next.counts[position]? with
    | none => rfl
    | some entry =>
        by_cases here : index = position
        · simp [here]
        · simp [here]
  constructor
  · rw [apps]
    exact located.distinct
  · rw [apps]
    exact located.placed
  · intro other member
    rw [apps]
    rcases List.mem_append.mp member with earlier | new
    · exact located.listed other earlier
    · rw [List.mem_singleton.mp new]
      exact List.mem_of_getElem? place
  · intro entry member kind
    rcases List.mem_iff_getElem?.mp member with ⟨position, at_⟩
    dsimp only at at_
    rw [List.getElem?_modify] at at_
    rcases Option.map_eq_some_iff.mp at_ with ⟨old, before, made⟩
    have oldListed : old ∈ next.counts := List.mem_of_getElem? before
    have oldApp : next.apps[position]? = some old.1 := by
      rw [CountTable.apps, List.getElem?_map, before, Option.map_some]
    rw [app_kind_count_concat]
    by_cases here : index = position
    · rw [if_pos here] at made
      rw [here, oldApp, Option.some.injEq] at place
      rw [← made, count_of_bump, located.own old oldListed, place]
      simp
    · rw [if_neg here] at made
      have other : displayApp (inputExe row) ≠ old.1 := by
        intro same
        rw [← same, ← place] at oldApp
        have bound := (List.getElem?_eq_some_iff.mp place).1
        exact here ((List.getElem?_inj bound located.distinct).mp oldApp.symm)
      rw [← made, located.own old oldListed, if_neg fun both => other both.1, add_zero]

theorem counts_exact (rows done : List EventRow) {table : CountTable}
    (exact : table.Exact done) : (rows.foldl CountTable.count table).Exact (done ++ rows) := by
  induction rows generalizing done table with
  | nil =>
      rw [List.append_nil]
      exact exact
  | cons row rest induction =>
      have next := induction (done ++ [row]) (count_exact exact row)
      rw [List.append_assoc, List.singleton_append] at next
      exact next

theorem empty_exact : CountTable.empty.Exact [] := by
  constructor
  · exact List.nodup_nil
  · intro exe index found
    cases found
  · intro row member
    cases member
  · intro entry member
    cases member

end Counts

section Upright

theorem close_spans_upright (ended : Option Int) (openings closings : List Int) :
    ∀ span ∈ closeSpans ended openings closings, span.1 ≤ span.2 := by
  induction openings generalizing closings with
  | nil => simp [closeSpans]
  | cons opening rest induction =>
      intro span member
      rw [closeSpans] at member
      rcases List.mem_append.mp member with closed | later
      · split at closed
        · cases closed
        · split at closed
          · cases closed
          · rename_i after
            rw [List.mem_singleton.mp closed]
            exact (not_le.mp after).le
      · exact induction _ span later

theorem gap_ms_nonneg (payload : EventPayload) : 0 ≤ gapMs payload := by
  unfold gapMs
  split
  · simp only [u64ToI64, I64.ofInt, SatInt.clamp]
    omega
  · exact le_rfl

theorem recovered_spans_upright {prior : Option Int} {suspends : List Int} {rows : List EventRow}
    (sorted : rows.Pairwise fun left right => left.ts.val ≤ right.ts.val)
    (known : ∀ suspend ∈ prior, ∀ row ∈ rows, suspend ≤ row.ts.val)
    (modern : ∀ row ∈ rows, 0 ≤ row.ts.val) :
    ∀ span ∈ recoveredSpans prior suspends rows, span.1 ≤ span.2 := by
  induction rows generalizing prior suspends with
  | nil => simp [recoveredSpans]
  | cons row rest induction =>
      have order := List.pairwise_cons.mp sorted
      have own := modern row List.mem_cons_self
      have last : ∀ suspend ∈ (suspends.takeWhile fun suspend =>
          decide (suspend ≤ row.ts.val)).getLast?.or prior, suspend ≤ row.ts.val := by
        intro suspend found
        rcases Option.or_eq_some_iff.mp found with taken | ⟨_, earlier⟩
        · have passed := List.mem_takeWhile_imp (List.mem_of_getLast? taken)
          exact of_decide_eq_true passed
        · exact known suspend earlier row List.mem_cons_self
      intro span member
      rw [recoveredSpans] at member
      rcases List.mem_cons.mp member with rfl | later
      · have gap := gap_ms_nonneg row.payload
        have reached : ((suspends.takeWhile fun suspend =>
            decide (suspend ≤ row.ts.val)).getLast?.or prior).getD 0 ≤ row.ts.val := by
          cases found : (suspends.takeWhile fun suspend =>
              decide (suspend ≤ row.ts.val)).getLast?.or prior with
          | none => exact own
          | some suspend => exact last suspend found
        dsimp only
        apply max_le _ reached
        split <;> omega
      · apply induction order.2 _ (fun other listed => modern other
          (List.mem_cons_of_mem _ listed)) span later
        intro suspend found other listed
        exact (last suspend found).trans (order.1 other listed)

/-- No recovered boundary of the session lies before the epoch. -/
def ModernBoundaries (db : Database) (sessionId : Int) : Prop :=
  ∀ row ∈ db.activity.events.rows, row.sessionId = sessionId →
    row.kind = "power_boundary_recovered" → 0 ≤ row.ts.val

theorem inactive_upright {db : Database} {events : List InputEvent} {sessionId : Int}
    (asked : sessionId ∈ events.map InputEvent.sessionId)
    (modern : ModernBoundaries db sessionId) :
    ∀ span ∈ spansOf (inactiveIntervals db events) sessionId, span.1 ≤ span.2 := by
  intro span member
  rw [inactiveIntervals, spansOf, List.filter_append, List.map_append] at member
  rcases List.mem_append.mp member with idle | asleep
  · exact ((idle_exact db none asked).positive span idle).le
  · have own : span ∈ spansOf (sleepIntervals db (events.map InputEvent.sessionId)) sessionId :=
      asleep
    rw [sleepIntervals, spans_of_asked (fun _ _ member => session_of_sleep member) asked,
      sessionSleep, List.map_map] at own
    rcases List.mem_map.mp own with ⟨slept, listed, rfl⟩
    change slept.1 ≤ slept.2
    rcases List.mem_append.mp listed with closed | recovered
    · rcases List.mem_append.mp closed with suspended | paused
      · exact close_spans_upright _ _ _ slept suspended
      · exact close_spans_upright _ _ _ slept paused
    · apply recovered_spans_upright _ _ _ slept recovered
      · exact (boundary_rows_sorted db sessionId sleepKinds).filter _
      · intro suspend none
        cases none
      · intro row boundary
        rw [List.mem_filter, mem_boundary_rows, beq_iff_eq] at boundary
        exact modern row boundary.1.1 boundary.1.2.1 boundary.2

end Upright

section Partition

def Numbered (left right : InputEvent) : Prop :=
  left.sessionId < right.sessionId ∨ (left.sessionId = right.sessionId ∧ left.seq ≤ right.seq)

/-- Two events of one session that no inactive span of it separates. -/
def Together (inactive : List SessionInterval) (previous event : InputEvent) : Prop :=
  previous.sessionId = event.sessionId ∧
    ¬Separates (spansOf inactive event.sessionId) (min previous.ts event.ts)
      (max previous.ts event.ts)

/-- Events grouped so that neighbours are in one group just when they belong together. -/
structure Grouped (together : InputEvent → InputEvent → Prop) (groups : List (List InputEvent)) :
    Prop where
  inside : ∀ group ∈ groups, group.IsChain together
  between : groups.IsChain fun left right =>
    ∃ previous ∈ left.getLast?, ∃ event ∈ right.head?, ¬together previous event

theorem linked_iff {db : Database} {events : List InputEvent} {previous event : InputEvent}
    (listed : event ∈ events) (modern : ModernBoundaries db event.sessionId) :
    linked (fun sessionId => mergeIntervals (spansOf (inactiveIntervals db events) sessionId))
        previous event = true ↔ Together (inactiveIntervals db events) previous event := by
  rw [linked, Bool.and_eq_true, decide_eq_true_eq, Bool.not_eq_true', ← Bool.not_eq_true,
    split_merged_iff (inactive_upright (List.mem_map_of_mem listed) modern) min_le_max, Together]

theorem numbered_sorted (events : List InputEvent) :
    (events.mergeSort InputEvent.numberedBefore).Pairwise Numbered := by
  have transitive : ∀ a b c, InputEvent.numberedBefore a b = true →
      InputEvent.numberedBefore b c = true → InputEvent.numberedBefore a c = true := by
    intro a b c
    simp only [InputEvent.numberedBefore, decide_eq_true_eq]
    omega
  have total : ∀ a b,
      (InputEvent.numberedBefore a b || InputEvent.numberedBefore b a) = true := by
    intro a b
    simp only [InputEvent.numberedBefore, Bool.or_eq_true, decide_eq_true_eq]
    omega
  apply (List.pairwise_mergeSort transitive total events).imp
  intro left right ordered
  rw [InputEvent.numberedBefore, decide_eq_true_eq] at ordered
  exact ordered

variable [LocalZone]

theorem input_runs_eq {db : Database} {scope : Scope} {events : List InputEvent}
    (rows : (inputRows db scope).map inputEvent = events) :
    (inputRunsAndCounts db scope).1 = ((events.mergeSort InputEvent.numberedBefore).foldl
      (SweepState.step fun sessionId =>
        mergeIntervals (spansOf (inactiveIntervals db events) sessionId)) .initial).close := by
  subst rows
  rfl

/-- The runs are the input events in their order, parted exactly where a session or its
activity ends, and the table counts every one of them. -/
theorem input_runs_partition (db : Database) (scope : Scope) :
    ∃ groups : List (List InputEvent),
      groups.flatten.Perm ((inputRows db scope).map inputEvent) ∧
      groups.flatten.Pairwise Numbered ∧ [] ∉ groups ∧
      List.Forall₂ RunOf groups (inputRunsAndCounts db scope).1 ∧
      ((∀ sessionId, ModernBoundaries db sessionId) →
        Grouped (Together (inactiveIntervals db ((inputRows db scope).map inputEvent))) groups) ∧
      ((inputRunsAndCounts db scope).2.map Prod.fst).Nodup ∧
      (∀ row ∈ inputRows db scope,
        displayApp (inputExe row) ∈ (inputRunsAndCounts db scope).2.map Prod.fst) ∧
      ∀ entry ∈ (inputRunsAndCounts db scope).2, ∀ kind,
        countOf entry.2 kind = appKindCount (inputRows db scope) entry.1 kind := by
  have counts := counts_exact (inputRows db scope) [] empty_exact
  rw [List.nil_append] at counts
  generalize rows : (inputRows db scope).map inputEvent = events
  have sweep := input_runs_eq rows
  generalize merged : (fun sessionId =>
    mergeIntervals (spansOf (inactiveIntervals db events) sessionId)) = inactive at sweep
  have perm := List.mergeSort_perm events InputEvent.numberedBefore
  have sorted := numbered_sorted events
  generalize events.mergeSort InputEvent.numberedBefore = ordered at sweep perm sorted
  have flat := List.flatten_splitBy (linked inactive) ordered
  have test : (∀ sessionId, ModernBoundaries db sessionId) → ∀ group ∈
      ordered.splitBy (linked inactive), ∀ previous, ∀ event ∈ group,
        (linked inactive previous event = true ↔
          Together (inactiveIntervals db events) previous event) := by
    intro modern group listed previous event member
    have own : event ∈ events := by
      rw [← perm.mem_iff, ← flat]
      exact List.mem_flatten_of_mem listed member
    rw [← merged]
    exact linked_iff own (modern event.sessionId)
  refine ⟨ordered.splitBy (linked inactive), ?_, ?_, List.nil_notMem_splitBy _ _, ?_, ?_,
    counts.distinct, counts.listed, counts.own⟩
  · rw [flat]
    exact perm
  · rw [flat]
    exact sorted
  · rw [sweep]
    have chains := (List.forall₂_and_left _ _).mpr
      ⟨fun group listed => List.isChain_of_mem_splitBy listed, sweep_runs inactive ordered⟩
    exact chains.imp fun group run both => completed_run_of both.2 both.1
  · intro modern
    constructor
    · intro group listed
      apply (List.isChain_of_mem_splitBy listed).imp_of_mem_imp
      intro previous event _ member link
      exact (test modern group listed previous event member).mp link
    · apply (List.isChain_getLast_head_splitBy (linked inactive) ordered).imp_of_mem_imp
      rintro left right _ listed ⟨leftSome, rightSome, apart⟩
      refine ⟨left.getLast leftSome, List.getLast?_eq_some_getLast leftSome,
        right.head rightSome, List.head?_eq_some_head rightSome, ?_⟩
      intro together
      have link := (test modern right listed _ _ (List.head_mem rightSome)).mpr together
      rw [link] at apart
      cases apart

end Partition

section Touching

private def nightRow (seq ts : Int) (kind : String) (payload : EventPayload) : EventRow :=
  { sessionId := 1, seq := .ofInt seq, ts := .ofInt ts, source := .system, kind := kind
    isSensitive := false, hwnd := none, exe := some "notes.exe", title := none, pid := none
    prevExe := none, prevTitle := none, key := none, modShift := none, modCtrl := none
    modAlt := none, modWin := none, button := none, posX := none, posY := none
    durationMs := none, payload := payload }

private def tap : EventPayload := .key "a" .default none none

/-- A sleep up to four, a pause from four on, and two keys at four. -/
private def touchingSleep : Database :=
  { Database.empty with
    activity := { Activity.empty with
      events := ⟨[nightRow 1 0 "power_suspend" (.powerSuspend none),
        nightRow 2 4 "power_resume" (.powerResume none true),
        nightRow 3 4 "capture_paused" .capturePaused,
        nightRow 4 8 "capture_resumed" .captureResumed,
        nightRow 5 4 "key" tap, nightRow 6 4 "key" tap], by decide⟩ } }

private def wholeScope : Scope := ⟨none, none⟩

private def tapAt (seq : Int) : InputEvent := ⟨1, seq, 4, "notes.exe"⟩

private theorem touching_rows :
    (inputRows touchingSleep wholeScope).map inputEvent = [tapAt 5, tapAt 6] := by
  decide +kernel

private theorem touching_inactive :
    inactiveIntervals touchingSleep [tapAt 5, tapAt 6] = [⟨1, 0, 4⟩, ⟨1, 4, 8⟩] := by
  have asked : normalizedSessionIds ([tapAt 5, tapAt 6].map InputEvent.sessionId) = [1] := by
    have one : ([tapAt 5, tapAt 6].map InputEvent.sessionId).dedup = [1] := by decide
    rw [normalizedSessionIds, one, List.mergeSort_singleton]
  have idle : boundaryRows touchingSleep 1 ["idle", "active"] = [] := by
    simp [boundaryRows, touchingSleep, nightRow]
  have sleep : boundaryRows touchingSleep 1 sleepKinds =
      touchingSleep.activity.events.rows.take 4 :=
    List.mergeSort_of_pairwise (by decide)
  rw [inactiveIntervals, idleIntervals, sleepIntervals, asked, List.flatMap_singleton,
    List.flatMap_singleton, sessionIdle, sessionSleep, idle, sleep]
  decide +kernel

private theorem touching_runs :
    (@inputRunsAndCounts utcZone touchingSleep wholeScope).1.length = 2 := by
  have ordered : [tapAt 5, tapAt 6].mergeSort InputEvent.numberedBefore = [tapAt 5, tapAt 6] :=
    List.mergeSort_of_pairwise (by decide)
  have merged : mergeIntervals [(0, 4), (4, 8)] = [(0, 8)] := by
    rw [mergeIntervals, List.mergeSort_of_pairwise (by decide)]
    decide
  rw [@input_runs_eq utcZone _ _ _ touching_rows, ordered, touching_inactive]
  have apart : linked (fun sessionId => mergeIntervals (spansOf [⟨1, 0, 4⟩, ⟨1, 4, 8⟩] sessionId))
      (tapAt 5) (tapAt 6) = false := by
    change (true && !splitBetween (mergeIntervals [(0, 4), (4, 8)]) 4 4) = false
    rw [merged]
    decide
  have runs := @sweep_runs utcZone (fun sessionId =>
    mergeIntervals (spansOf [⟨1, 0, 4⟩, ⟨1, 4, 8⟩] sessionId)) [tapAt 5, tapAt 6]
  rw [← runs.length_eq, List.splitBy, List.splitBy.loop, apart]
  rfl

/-- A pause that ends at minus three, a boundary recovered at minus five, and two keys. -/
private def preEpochSleep : Database :=
  { Database.empty with
    activity := { Activity.empty with
      events := ⟨[nightRow 1 (-10) "capture_paused" .capturePaused,
        nightRow 2 (-5) "power_boundary_recovered" (.powerBoundaryRecovered 0 0),
        nightRow 3 (-3) "capture_resumed" .captureResumed,
        nightRow 4 (-4) "key" tap, nightRow 5 1 "key" tap], by decide⟩ } }

private def earlyTap : InputEvent := ⟨1, 4, -4, "notes.exe"⟩

private def lateTap : InputEvent := ⟨1, 5, 1, "notes.exe"⟩

private theorem pre_epoch_rows :
    (inputRows preEpochSleep wholeScope).map inputEvent = [earlyTap, lateTap] := by
  decide +kernel

private theorem pre_epoch_inactive :
    inactiveIntervals preEpochSleep [earlyTap, lateTap] = [⟨1, -10, -3⟩, ⟨1, 0, -5⟩] := by
  have asked : normalizedSessionIds ([earlyTap, lateTap].map InputEvent.sessionId) = [1] := by
    have one : ([earlyTap, lateTap].map InputEvent.sessionId).dedup = [1] := by decide
    rw [normalizedSessionIds, one, List.mergeSort_singleton]
  have idle : boundaryRows preEpochSleep 1 ["idle", "active"] = [] := by
    simp [boundaryRows, preEpochSleep, nightRow]
  have sleep : boundaryRows preEpochSleep 1 sleepKinds =
      preEpochSleep.activity.events.rows.take 3 :=
    List.mergeSort_of_pairwise (by decide)
  rw [inactiveIntervals, idleIntervals, sleepIntervals, asked, List.flatMap_singleton,
    List.flatMap_singleton, sessionIdle, sessionSleep, idle, sleep]
  decide +kernel

private theorem pre_epoch_runs :
    (@inputRunsAndCounts utcZone preEpochSleep wholeScope).1.length = 1 := by
  have ordered : [earlyTap, lateTap].mergeSort InputEvent.numberedBefore = [earlyTap, lateTap] :=
    List.mergeSort_of_pairwise (by decide)
  have merged : mergeIntervals [(-10, -3), (0, -5)] = [(-10, -3), (0, -5)] := by
    rw [mergeIntervals, List.mergeSort_of_pairwise (by decide)]
    decide
  rw [@input_runs_eq utcZone _ _ _ pre_epoch_rows, ordered, pre_epoch_inactive]
  have link : linked (fun sessionId =>
      mergeIntervals (spansOf [⟨1, -10, -3⟩, ⟨1, 0, -5⟩] sessionId)) earlyTap lateTap = true := by
    change (true && !splitBetween (mergeIntervals [(-10, -3), (0, -5)]) (-4) 1) = true
    rw [merged]
    decide
  have runs := @sweep_runs utcZone (fun sessionId =>
    mergeIntervals (spansOf [⟨1, -10, -3⟩, ⟨1, 0, -5⟩] sessionId)) [earlyTap, lateTap]
  rw [← runs.length_eq, List.splitBy, List.splitBy.loop, link]
  rfl

/-- Merged, the two spans part two keys struck at the moment between them, which neither
span reaches past; and the inverted span of a boundary recovered before the epoch hides the
pause from the lookup. -/
theorem touching_spans_part :
    (¬∀ [LocalZone] (db : Database) (scope : Scope), ∃ groups : List (List InputEvent),
      groups.flatten.Perm ((inputRows db scope).map inputEvent) ∧
      List.Forall₂ RunOf groups (inputRunsAndCounts db scope).1 ∧
      Grouped (fun previous event => previous.sessionId = event.sessionId ∧
        ¬∃ span ∈ spansOf (inactiveIntervals db ((inputRows db scope).map inputEvent))
          event.sessionId, span.1 < max previous.ts event.ts ∧
            min previous.ts event.ts < span.2) groups) ∧
    ¬∀ [LocalZone] (db : Database) (scope : Scope), ∃ groups : List (List InputEvent),
      groups.flatten.Perm ((inputRows db scope).map inputEvent) ∧
      List.Forall₂ RunOf groups (inputRunsAndCounts db scope).1 ∧
      Grouped (Together (inactiveIntervals db ((inputRows db scope).map inputEvent))) groups := by
  constructor
  · intro claimed
    rcases @claimed utcZone touchingSleep wholeScope with ⟨groups, perm, runs, grouped⟩
    rw [touching_rows] at perm grouped
    rw [touching_inactive] at grouped
    have size := runs.length_eq
    rw [touching_runs] at size
    have together : ∀ previous ∈ groups.flatten, ∀ event ∈ groups.flatten,
        previous.sessionId = event.sessionId ∧
          ¬∃ span ∈ spansOf [⟨1, 0, 4⟩, ⟨1, 4, 8⟩] event.sessionId,
            span.1 < max previous.ts event.ts ∧ min previous.ts event.ts < span.2 := by
      intro previous first event second
      rw [perm.mem_iff] at first second
      revert previous event
      decide
    match groups, size with
    | [left, right], _ =>
        have between := List.isChain_pair.mp grouped.between
        rcases between with ⟨previous, last, event, head, apart⟩
        apply apart
        apply together
        · exact List.mem_flatten_of_mem List.mem_cons_self (List.mem_of_getLast? last)
        · exact List.mem_flatten_of_mem (by simp) (List.mem_of_head? head)
  · intro claimed
    rcases @claimed utcZone preEpochSleep wholeScope with ⟨groups, perm, runs, grouped⟩
    rw [pre_epoch_rows] at perm grouped
    rw [pre_epoch_inactive] at grouped
    have size := runs.length_eq
    rw [pre_epoch_runs] at size
    have apart : ∀ previous ∈ [earlyTap, lateTap], ∀ event ∈ [earlyTap, lateTap],
        previous ≠ event → ∃ span ∈ spansOf [⟨1, -10, -3⟩, ⟨1, 0, -5⟩] event.sessionId,
          span.1 < max previous.ts event.ts ∧ min previous.ts event.ts < span.2 := by
      decide
    match groups, size with
    | [group], _ =>
        rw [List.flatten_cons, List.flatten_nil, List.append_nil] at perm
        have inside := grouped.inside group (List.mem_singleton_self group)
        have distinct : group.Nodup := perm.nodup_iff.mpr (by decide)
        match group, perm.length_eq with
        | [previous, event], _ =>
            have different : previous ≠ event := by simpa using distinct
            have separated := apart previous (perm.mem_iff.mp List.mem_cons_self) event
              (perm.mem_iff.mp (by simp)) different
            exact (List.isChain_pair.mp inside).2 (Or.inl separated)

end Touching

end Gilbreth.Read
