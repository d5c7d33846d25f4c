import Gilbreth.Core.ChurnSummaries

/-!
# Churn summaries lose nothing

Every transition of an app that is not excluded becomes a row or a drop. The drops since
the last summary are what the filter holds, so the next summary reports them and no others.
-/

set_option autoImplicit false

namespace Gilbreth.Core

inductive ProcessCall where
  | poll (now : Instant) (controls : ProcessControls)
      (snapshot : Option (List ProcessSnapshotEntry))
  | flush (now : Instant)

def ProcessCall.now : ProcessCall → Instant
  | .poll now _ _ => now
  | .flush now => now

/-- What a call leaves: its drops, then its rows. -/
inductive ChurnItem where
  | dropped (drop : ProcessDrop)
  | row (captured : Captured)
deriving DecidableEq

def Captured.isLifecycle (captured : Captured) : Bool :=
  match captured with
  | ⟨_, _, .processStarted ..⟩ => true
  | ⟨_, _, .processExited ..⟩ => true
  | _ => false

def Captured.summaryDropped (captured : Captured) : Option UInt32 :=
  match captured with
  | ⟨_, _, .processChurnSummary _ dropped _ _⟩ => some dropped
  | _ => none

def dropsSince (pending : List ProcessDrop) (items : List ChurnItem) : List ProcessDrop :=
  items.foldl
    (fun pending item =>
      match item with
      | .dropped drop => pending ++ [drop]
      | .row captured => if captured.summaryDropped.isSome then [] else pending) pending

def lifecycleRows (items : List ChurnItem) : Nat :=
  items.countP fun item =>
    match item with
    | .row captured => captured.isLifecycle
    | _ => false

/-- The sum of `dropped` over the summary rows. -/
def reportedDrops (items : List ChurnItem) : Nat :=
  (items.map fun item =>
    match item with
    | .row captured => (captured.summaryDropped.map UInt32.toNat).getD 0
    | _ => 0).sum

namespace ProcessMonitor

variable [Externals]

def step (monitor : ProcessMonitor) : ProcessCall → ProcessMonitor × List Captured
  | .poll now controls snapshot => monitor.poll now controls snapshot
  | .flush now => monitor.flush now

def machine : Machine ProcessMonitor ProcessCall (List Captured) := ⟨step⟩

def transitionsAt (monitor : ProcessMonitor) : ProcessCall → List ProcessTransition
  | .poll now _ snapshot => if monitor.due now then (sweep monitor.tracker snapshot).2 else []
  | .flush _ => []

/-- The transitions of apps that are not excluded. -/
def included (controls : ProcessControls) (transitions : List ProcessTransition) :
    List ProcessTransition :=
  transitions.filter fun transition => !appExcluded controls transition.basename

/-- Those that the filter counts: it is on, and the app never held the focus. -/
def uncovered (controls : ProcessControls) (transitions : List ProcessTransition) :
    List ProcessTransition :=
  (included controls transitions).filter fun transition =>
    controls.processFilter && !foregroundExeSeen controls transition.basename

def includedAt (monitor : ProcessMonitor) (call : ProcessCall) : List ProcessTransition :=
  match call with
  | .poll _ controls _ => included controls (monitor.transitionsAt call)
  | .flush _ => []

def dropsAt (monitor : ProcessMonitor) (call : ProcessCall) : List ProcessDrop :=
  match call with
  | .poll now controls _ =>
      (uncovered controls (monitor.transitionsAt call)).map fun transition =>
        (transition.basename, now)
  | .flush _ => []

def itemsAt (monitor : ProcessMonitor) (call : ProcessCall) : List ChurnItem :=
  (monitor.dropsAt call).map .dropped ++ (monitor.step call).2.map .row

/-- The drops and the rows of a run, in order. -/
def churnLog (monitor : ProcessMonitor) : List ProcessCall → List ChurnItem
  | [] => []
  | call :: rest => monitor.itemsAt call ++ churnLog (monitor.step call).1 rest

/-- How many transitions of a run belong to apps that are not excluded. -/
def includedTransitions (monitor : ProcessMonitor) : List ProcessCall → Nat
  | [] => 0
  | call :: rest =>
      (monitor.includedAt call).length + includedTransitions (monitor.step call).1 rest

end ProcessMonitor

theorem drops_since_append (pending : List ProcessDrop) (items later : List ChurnItem) :
    dropsSince pending (items ++ later) = dropsSince (dropsSince pending items) later :=
  List.foldl_append

theorem drops_since_drops (pending drops : List ProcessDrop) :
    dropsSince pending (drops.map .dropped) = pending ++ drops := by
  induction drops generalizing pending with
  | nil => simp [dropsSince]
  | cons drop drops induction =>
      change dropsSince (pending ++ [drop]) (drops.map .dropped) = _
      rw [induction, List.append_assoc]
      rfl

theorem lifecycle_no_summary {captured : Captured} (isLifecycle : captured.isLifecycle = true) :
    captured.summaryDropped = none := by
  cases captured with
  | mk source capturedAt payload =>
    cases payload <;> simp_all [Captured.isLifecycle, Captured.summaryDropped]

theorem drops_since_lifecycle (pending : List ProcessDrop) {rows : List Captured}
    (lifecycle : ∀ row ∈ rows, row.isLifecycle = true) :
    dropsSince pending (rows.map .row) = pending := by
  induction rows with
  | nil => rfl
  | cons row rows induction =>
      have none := lifecycle_no_summary (lifecycle row List.mem_cons_self)
      change dropsSince (if row.summaryDropped.isSome then [] else pending) (rows.map .row) = _
      rw [none]
      exact induction fun row member => lifecycle row (List.mem_cons_of_mem _ member)

theorem lifecycle_rows_append (items later : List ChurnItem) :
    lifecycleRows (items ++ later) = lifecycleRows items + lifecycleRows later :=
  List.countP_append

theorem reported_drops_append (items later : List ChurnItem) :
    reportedDrops (items ++ later) = reportedDrops items + reportedDrops later := by
  simp [reportedDrops]

namespace ProcessMonitor

variable [Externals]

omit [Externals] in
theorem into_captured_lifecycle (transition : ProcessTransition) (now : Instant) :
    (transition.intoCaptured now).isLifecycle = true := by
  cases transition <;> rfl

theorem keep_transition_cases (controls : ProcessControls) (now : Instant)
    (found : ProcessNoiseFilter × List Captured) (transition : ProcessTransition) :
    (included controls [transition] = [] ∧ uncovered controls [transition] = [] ∧
        keepTransition controls now found transition = found) ∨
      (included controls [transition] = [transition] ∧ uncovered controls [transition] = [] ∧
        keepTransition controls now found transition =
          (found.1, found.2 ++ [transition.intoCaptured now])) ∨
      (included controls [transition] = [transition] ∧
        uncovered controls [transition] = [transition] ∧
        keepTransition controls now found transition =
          ((found.1.keepAfterCounting transition.basename now).1, found.2)) := by
  cases excluded : appExcluded controls transition.basename with
  | true => simp [included, uncovered, keepTransition, excluded]
  | false =>
      right
      cases filtered : controls.processFilter with
      | false => simp [included, uncovered, keepTransition, excluded, filtered]
      | true =>
          cases seen : foregroundExeSeen controls transition.basename with
          | true => simp [included, uncovered, keepTransition, excluded, filtered, seen]
          | false =>
              simp [included, uncovered, keepTransition, excluded, filtered, seen,
                ProcessNoiseFilter.keepAfterCounting]

/-- The loop over the transitions: the drops into the filter, the other rows out. -/
theorem keep_transitions (controls : ProcessControls) (now : Instant)
    (transitions : List ProcessTransition) {drops : List ProcessDrop}
    (found : ProcessNoiseFilter × List Captured) (holds : HoldsDrops found.1 drops) :
    HoldsDrops (transitions.foldl (keepTransition controls now) found).1
        (drops ++ (uncovered controls transitions).map fun transition =>
          (transition.basename, now)) ∧
      ∃ kept, (transitions.foldl (keepTransition controls now) found).2 = found.2 ++ kept ∧
        (∀ row ∈ kept, row.isLifecycle = true) ∧
        kept.length + (uncovered controls transitions).length =
          (included controls transitions).length := by
  induction transitions generalizing found drops with
  | nil =>
      refine ⟨?_, [], (List.append_nil _).symm, by simp, rfl⟩
      simpa [uncovered, included] using holds
  | cons transition transitions induction =>
      have includedCons : included controls (transition :: transitions) =
          included controls [transition] ++ included controls transitions := by
        rw [← List.singleton_append, included, List.filter_append]
        rfl
      have uncoveredCons : uncovered controls (transition :: transitions) =
          uncovered controls [transition] ++ uncovered controls transitions := by
        rw [uncovered, includedCons, List.filter_append]
        rfl
      rw [List.foldl_cons, includedCons, uncoveredCons]
      cases keep_transition_cases controls now found transition with
      | inl skipped =>
          rw [skipped.1, skipped.2.1, skipped.2.2]
          exact induction found holds
      | inr rest =>
          cases rest with
          | inl emitted =>
              rw [emitted.1, emitted.2.1, emitted.2.2]
              have ⟨next, kept, rows, lifecycle, count⟩ :=
                induction (found.1, found.2 ++ [transition.intoCaptured now]) holds
              refine ⟨next, transition.intoCaptured now :: kept, by rw [rows]; simp, ?_, ?_⟩
              · intro row member
                cases List.mem_cons.mp member with
                | inl same => rw [same]; exact into_captured_lifecycle transition now
                | inr later => exact lifecycle row later
              · simp only [List.length_cons, List.length_append, List.length_nil]
                omega
          | inr dropped =>
              rw [dropped.1, dropped.2.1, dropped.2.2]
              have ⟨next, kept, rows, lifecycle, count⟩ :=
                induction ((found.1.keepAfterCounting transition.basename now).1, found.2)
                  (keep_after_counting_holds holds transition.basename now)
              refine ⟨by simpa using next, kept, rows, lifecycle, ?_⟩
              simp only [List.length_append, List.length_singleton]
              omega

omit [Externals] in
theorem summary_if_due_cases (filter : ProcessNoiseFilter) (now : Instant) :
    filter.summaryIfDue now = (filter, none) ∨
      filter.summaryIfDue now = filter.takeSummary now := by
  rw [ProcessNoiseFilter.summaryIfDue]
  split_ifs
  · exact Or.inl rfl
  · exact Or.inr rfl

/-- What a call leaves: lifecycle rows, then nothing or a summary of all pending drops. -/
structure CallLeaves (monitor : ProcessMonitor) (call : ProcessCall)
    (pending : List ProcessDrop) (kept : List Captured) (summary : Option Captured) : Prop where
  rows : (monitor.step call).2 = kept ++ summary.toList
  lifecycle : ∀ row ∈ kept, row.isLifecycle = true
  counted : kept.length + (monitor.dropsAt call).length = (monitor.includedAt call).length
  quiet : summary = none →
    HoldsDrops (monitor.step call).1.noise (pending ++ monitor.dropsAt call)
  reported : ∀ captured, summary = some captured →
    HoldsDrops (monitor.step call).1.noise [] ∧
      ∃ windowMs dropped distinctExes top,
        captured.payload = .processChurnSummary windowMs dropped distinctExes top ∧
          SummaryOf (pending ++ monitor.dropsAt call) dropped distinctExes top

omit [Externals] in
theorem taken_row {filter : ProcessNoiseFilter} {drops : List ProcessDrop}
    (holds : HoldsDrops filter drops) (now : Instant) (bounded : drops.length < 4294967296)
    (sorted : (drops.map fun drop => drop.2.nanos).Pairwise (· ≤ ·)) :
    (((filter.takeSummary now).2.map fun payload => (⟨.system, now, payload⟩ : Captured)) =
        none → drops = [] ∧ HoldsDrops (filter.takeSummary now).1 drops) ∧
      ∀ captured, ((filter.takeSummary now).2.map fun payload =>
          (⟨.system, now, payload⟩ : Captured)) = some captured →
        HoldsDrops (filter.takeSummary now).1 [] ∧
          ∃ windowMs dropped distinctExes top,
            captured.payload = .processChurnSummary windowMs dropped distinctExes top ∧
              SummaryOf drops dropped distinctExes top := by
  have taken := take_summary_holds holds now bounded sorted
  have next := taken.1
  cases taken.2 with
  | inl quiet =>
      have ⟨empty, nothing⟩ := quiet
      rw [nothing]
      refine ⟨fun _ => ⟨empty, by rw [empty]; exact next⟩, ?_⟩
      intro captured same
      cases same
  | inr reported =>
      have ⟨windowMs, dropped, distinctExes, top, asked, contents⟩ := reported
      rw [asked]
      constructor
      · intro same
        cases same
      · intro captured same
        cases same
        exact ⟨next, windowMs, dropped, distinctExes, top, rfl, contents⟩

theorem call_leaves (monitor : ProcessMonitor) (call : ProcessCall)
    {pending : List ProcessDrop} (holds : HoldsDrops monitor.noise pending)
    (bounded : (pending ++ monitor.dropsAt call).length < 4294967296)
    (sorted : ((pending ++ monitor.dropsAt call).map fun drop => drop.2.nanos).Pairwise (· ≤ ·)) :
    ∃ kept summary, CallLeaves monitor call pending kept summary ∧
      (∀ now, call = .flush now → summary = none → pending = []) := by
  cases call with
  | flush now =>
      have plain : pending ++ monitor.dropsAt (.flush now) = pending := List.append_nil _
      rw [plain] at bounded sorted
      have taken := taken_row holds now bounded sorted
      refine ⟨[], _, ⟨rfl, by simp, rfl, ?_, ?_⟩, ?_⟩
      · intro none
        rw [plain]
        exact (taken.1 none).2
      · intro captured some
        rw [plain]
        exact taken.2 captured some
      · intro _ _ none
        exact (taken.1 none).1
  | poll now controls snapshot =>
      cases due : monitor.due now with
      | false =>
          refine ⟨[], none, ⟨?_, by simp, ?_, ?_, by simp⟩, by simp⟩
          · simp [step, poll, due]
          · simp [dropsAt, includedAt, transitionsAt, due, uncovered, included]
          · simpa [step, poll, due, dropsAt, transitionsAt, uncovered, included] using holds
      | true =>
          have ⟨next, kept, rows, lifecycle, count⟩ := keep_transitions controls now
            (sweep monitor.tracker snapshot).2 (monitor.noise, []) holds
          have drops : monitor.dropsAt (.poll now controls snapshot) =
              (uncovered controls (sweep monitor.tracker snapshot).2).map fun transition =>
                (transition.basename, now) := by
            simp [dropsAt, transitionsAt, due]
          have counted : monitor.includedAt (.poll now controls snapshot) =
              included controls (sweep monitor.tracker snapshot).2 := by
            simp [includedAt, transitionsAt, due]
          rw [← drops] at next
          rw [List.nil_append] at rows
          have stepped : monitor.step (.poll now controls snapshot) =
              (⟨(sweep monitor.tracker snapshot).1,
                  (((sweep monitor.tracker snapshot).2.foldl (keepTransition controls now)
                    (monitor.noise, [])).1.summaryIfDue now).1, some now⟩,
                kept ++ ((((sweep monitor.tracker snapshot).2.foldl
                  (keepTransition controls now)
                    (monitor.noise, [])).1.summaryIfDue now).2.map
                      fun payload => (⟨.system, now, payload⟩ : Captured)).toList) := by
            simp [step, poll, due, rows]
          refine ⟨kept, _, ⟨by rw [stepped], lifecycle, ?_, ?_, ?_⟩, by simp⟩
          · rw [drops, counted, List.length_map]
            exact count
          · intro none
            rw [stepped]
            cases summary_if_due_cases ((sweep monitor.tracker snapshot).2.foldl
                (keepTransition controls now) (monitor.noise, [])).1 now with
            | inl early =>
                rw [early]
                exact next
            | inr taken =>
                rw [taken] at none ⊢
                exact ((taken_row next now bounded sorted).1 none).2
          · intro captured some
            rw [stepped]
            cases summary_if_due_cases ((sweep monitor.tracker snapshot).2.foldl
                (keepTransition controls now) (monitor.noise, [])).1 now with
            | inl early =>
                rw [early] at some
                cases some
            | inr taken =>
                rw [taken] at some ⊢
                exact (taken_row next now bounded sorted).2 captured some

/-! ## Whole runs -/

omit [Externals] in
theorem summary_last {front before later : List ChurnItem} {row : Captured}
    {summary : Option Captured}
    (plain : ∀ item ∈ front, item ≠ .row row)
    (split : front ++ summary.toList.map .row = before ++ .row row :: later) :
    before = front ∧ summary = some row := by
  induction front generalizing before with
  | nil =>
      cases summary with
      | none => cases before <;> cases split
      | some captured =>
          cases before with
          | nil =>
              cases split
              exact ⟨rfl, rfl⟩
          | cons head before => cases before <;> cases split
  | cons item front induction =>
      cases before with
      | nil =>
          cases split
          exact absurd rfl (plain (.row row) List.mem_cons_self)
      | cons head before =>
          have ⟨same, rest⟩ := List.cons.inj split
          have ⟨whole, last⟩ := induction
            (fun item member => plain item (List.mem_cons_of_mem _ member)) rest
          exact ⟨by rw [same, whole], last⟩

section Leaves

variable {monitor : ProcessMonitor} {call : ProcessCall} {pending : List ProcessDrop}
  {kept : List Captured} {summary : Option Captured}

theorem items_of_leaves (leaves : CallLeaves monitor call pending kept summary) :
    monitor.itemsAt call =
      ((monitor.dropsAt call).map .dropped ++ kept.map .row) ++ summary.toList.map .row := by
  rw [itemsAt, leaves.rows, List.map_append, List.append_assoc]

theorem front_since (leaves : CallLeaves monitor call pending kept summary) :
    dropsSince pending ((monitor.dropsAt call).map .dropped ++ kept.map .row) =
      pending ++ monitor.dropsAt call := by
  rw [drops_since_append, drops_since_drops, drops_since_lifecycle _ leaves.lifecycle]

theorem items_since (leaves : CallLeaves monitor call pending kept summary) :
    dropsSince pending (monitor.itemsAt call) =
      if summary.isSome then [] else pending ++ monitor.dropsAt call := by
  rw [items_of_leaves leaves, drops_since_append, front_since leaves]
  cases summary with
  | none => rfl
  | some captured =>
      have ⟨_, _, _, _, _, payload, _⟩ := leaves.reported captured rfl
      cases captured with
      | mk source capturedAt kind =>
        change kind = _ at payload
        subst payload
        rfl

/-- The counts of one call: rows and reports cover what was pending and what came. -/
theorem leaves_balance (leaves : CallLeaves monitor call pending kept summary) :
    lifecycleRows (monitor.itemsAt call) + reportedDrops (monitor.itemsAt call) +
        (dropsSince pending (monitor.itemsAt call)).length =
      (monitor.includedAt call).length + pending.length ∧
      HoldsDrops (monitor.step call).1.noise (dropsSince pending (monitor.itemsAt call)) := by
  have dropsRows : lifecycleRows ((monitor.dropsAt call).map .dropped) = 0 := by
    simp [lifecycleRows]
  have dropsReports : reportedDrops ((monitor.dropsAt call).map .dropped) = 0 := by
    rw [reportedDrops, List.map_map]
    apply List.sum_eq_zero
    intro count member
    have ⟨_, _, same⟩ := List.mem_map.mp member
    exact same.symm
  have keptRows : lifecycleRows (kept.map .row) = kept.length := by
    rw [lifecycleRows, List.countP_map, List.countP_eq_length]
    exact leaves.lifecycle
  have keptReports : reportedDrops (kept.map .row) = 0 := by
    rw [reportedDrops, List.map_map]
    apply List.sum_eq_zero
    intro count member
    have ⟨row, listed, same⟩ := List.mem_map.mp member
    rw [← same]
    simp [lifecycle_no_summary (leaves.lifecycle row listed)]
  have count := leaves.counted
  rw [items_of_leaves leaves, drops_since_append, front_since leaves, lifecycle_rows_append,
    lifecycle_rows_append, reported_drops_append, reported_drops_append, dropsRows, dropsReports,
    keptRows, keptReports]
  cases summary with
  | none =>
      have next := leaves.quiet rfl
      refine ⟨?_, next⟩
      simp only [Option.toList_none, List.map_nil, dropsSince, List.foldl_nil, List.length_append,
        lifecycleRows, reportedDrops, List.countP_nil, List.sum_nil]
      omega
  | some captured =>
      have ⟨next, windowMs, dropped, distinctExes, top, payload, contents⟩ :=
        leaves.reported captured rfl
      have total := contents.total
      rw [List.length_append] at total
      cases captured with
      | mk source capturedAt kind =>
        change kind = _ at payload
        subst payload
        refine ⟨?_, next⟩
        simp [dropsSince, lifecycleRows, reportedDrops, Captured.isLifecycle,
          Captured.summaryDropped]
        omega

end Leaves

theorem drops_at_time (monitor : ProcessMonitor) (call : ProcessCall) :
    ∀ drop ∈ monitor.dropsAt call, drop.2 = call.now := by
  intro drop member
  cases call with
  | flush now => cases member
  | poll now controls snapshot =>
      have ⟨_, _, same⟩ := List.mem_map.mp member
      rw [← same]
      rfl

theorem pending_sorted (monitor : ProcessMonitor) {call : ProcessCall} {rest : List ProcessCall}
    {pending : List ProcessDrop}
    (sorted : (pending.map (fun drop => drop.2.nanos) ++
      (call :: rest).map fun call => call.now.nanos).Pairwise (· ≤ ·)) :
    ((pending ++ monitor.dropsAt call).map (fun drop => drop.2.nanos) ++
      rest.map fun call => call.now.nanos).Pairwise (· ≤ ·) := by
  have same : (monitor.dropsAt call).map (fun drop => drop.2.nanos) =
      List.replicate (monitor.dropsAt call).length call.now.nanos := by
    apply List.eq_replicate_iff.mpr
    refine ⟨List.length_map _, ?_⟩
    intro time member
    have ⟨drop, listed, isTime⟩ := List.mem_map.mp member
    rw [← isTime, monitor.drops_at_time call drop listed]
  have ⟨first, later, across⟩ := List.pairwise_append.mp sorted
  have ⟨head, tail⟩ := List.pairwise_cons.mp later
  rw [List.map_append, same, List.append_assoc]
  apply List.pairwise_append.mpr
  refine ⟨first, ?_, ?_⟩
  · apply List.pairwise_append.mpr
    refine ⟨List.pairwise_replicate_of_refl, tail, ?_⟩
    intro time member next listed
    rw [List.eq_of_mem_replicate member]
    exact head next listed
  · intro time member next listed
    cases List.mem_append.mp listed with
    | inl now =>
        rw [List.eq_of_mem_replicate now]
        exact across time member _ List.mem_cons_self
    | inr later => exact across time member next (List.mem_cons_of_mem _ later)

/-- The pending drops are counted by 32 bits at every point of the log. -/
def CountsFit (pending : List ProcessDrop) (items : List ChurnItem) : Prop :=
  ∀ before, before <+: items → (dropsSince pending before).length < 4294967296

/-- Every summary row reports the drops since the one before. -/
def SummariesReport (pending : List ProcessDrop) (items : List ChurnItem) : Prop :=
  ∀ before row later windowMs dropped distinctExes top, items = before ++ .row row :: later →
    row.payload = .processChurnSummary windowMs dropped distinctExes top →
    SummaryOf (dropsSince pending before) dropped distinctExes top

theorem summaries_of_leaves {monitor : ProcessMonitor} {call : ProcessCall}
    {pending : List ProcessDrop} {kept : List Captured} {summary : Option Captured}
    (leaves : CallLeaves monitor call pending kept summary) {rest : List ChurnItem}
    (later : SummariesReport (dropsSince pending (monitor.itemsAt call)) rest) :
    SummariesReport pending (monitor.itemsAt call ++ rest) := by
  intro before row after windowMs dropped distinctExes top split payload
  have inRest : ∀ middle, before = monitor.itemsAt call ++ middle →
      rest = middle ++ .row row :: after →
      SummaryOf (dropsSince pending before) dropped distinctExes top := by
    intro middle whole tail
    rw [whole, drops_since_append]
    exact later middle row after windowMs dropped distinctExes top tail payload
  cases List.append_eq_append_iff.mp split with
  | inl second =>
      have ⟨middle, whole, tail⟩ := second
      exact inRest middle whole tail
  | inr first =>
      have ⟨middle, whole, tail⟩ := first
      cases middle with
      | nil => exact inRest [] (by simpa using whole.symm) (by simpa using tail.symm)
      | cons head middle =>
          have heads := (List.cons.inj tail).1
          subst heads
          rw [items_of_leaves leaves] at whole
          have notLifecycle : row.isLifecycle = false := by
            cases row with
            | mk source capturedAt kind =>
              change kind = _ at payload
              subst payload
              rfl
          have ⟨same, asked⟩ := summary_last (by
            intro item member isRow
            subst isRow
            cases List.mem_append.mp member with
            | inl isDrop =>
                have ⟨_, _, wrong⟩ := List.mem_map.mp isDrop
                cases wrong
            | inr isKept =>
                have ⟨keptRow, listed, same⟩ := List.mem_map.mp isKept
                cases same
                rw [leaves.lifecycle row listed] at notLifecycle
                cases notLifecycle) whole
          have ⟨_, _, _, _, _, reportedPayload, contents⟩ := leaves.reported row asked
          rw [payload] at reportedPayload
          cases reportedPayload
          rw [same, front_since leaves]
          exact contents

theorem run_churn (monitor : ProcessMonitor) (calls : List ProcessCall)
    {pending : List ProcessDrop} (holds : HoldsDrops monitor.noise pending)
    (sorted : (pending.map (fun drop => drop.2.nanos) ++
      calls.map fun call => call.now.nanos).Pairwise (· ≤ ·))
    (fits : CountsFit pending (monitor.churnLog calls)) :
    lifecycleRows (monitor.churnLog calls) + reportedDrops (monitor.churnLog calls) +
        (dropsSince pending (monitor.churnLog calls)).length =
      monitor.includedTransitions calls + pending.length ∧
      SummariesReport pending (monitor.churnLog calls) ∧
      ∀ ends, calls.getLast? = some (.flush ends) →
        dropsSince pending (monitor.churnLog calls) = [] := by
  induction calls generalizing monitor pending with
  | nil =>
      refine ⟨?_, ?_, ?_⟩
      · simp [churnLog, lifecycleRows, reportedDrops, dropsSince, includedTransitions]
      · intro before row later _ _ _ _ split
        cases before <;> cases split
      · intro ends last
        cases last
  | cons call rest induction =>
      have allSorted := monitor.pending_sorted sorted
      have nowSorted := (List.pairwise_append.mp allSorted).1
      have nowFits : (pending ++ monitor.dropsAt call).length < 4294967296 := by
        have short := fits ((monitor.dropsAt call).map .dropped)
          ((List.prefix_append _ _).trans (List.prefix_append _ _))
        rw [drops_since_drops] at short
        exact short
      have ⟨kept, summary, leaves, flushed⟩ := monitor.call_leaves call holds nowFits nowSorted
      have ⟨balance, next⟩ := leaves_balance leaves
      have nextSorted : ((dropsSince pending (monitor.itemsAt call)).map
          (fun drop => drop.2.nanos) ++ rest.map fun call => call.now.nanos).Pairwise (· ≤ ·) := by
        rw [items_since leaves]
        split_ifs
        · exact (List.pairwise_append.mp allSorted).2.1
        · exact allSorted
      have nextFits : CountsFit (dropsSince pending (monitor.itemsAt call))
          ((monitor.step call).1.churnLog rest) := by
        intro before initial
        rw [← drops_since_append]
        exact fits _ ((List.prefix_append_right_inj _).mpr initial)
      have ⟨later, reports, ends⟩ := induction (monitor.step call).1 next nextSorted nextFits
      rw [churnLog, lifecycle_rows_append, reported_drops_append, drops_since_append,
        includedTransitions]
      refine ⟨by omega, summaries_of_leaves leaves reports, ?_⟩
      intro now last
      cases rest with
      | nil =>
          have flush : call = .flush now := by simpa using last
          change dropsSince pending (monitor.itemsAt call) = []
          rw [items_since leaves]
          cases summary with
          | none =>
              rw [flushed now flush rfl, flush]
              rfl
          | some captured => rfl
      | cons second rest => exact ends now (by simpa using last)

omit [Externals] in
/-- The calls of a pump, then the flush of its shutdown. -/
def untilShutdown (calls : List ProcessCall) (ends : Instant) : List ProcessCall :=
  calls ++ [ProcessCall.flush ends]

omit [Externals] in
def CallsInOrder (calls : List ProcessCall) : Prop :=
  calls.Pairwise fun earlier later => earlier.now.nanos ≤ later.now.nanos

omit [Externals] in
theorem counts_fit_of_short {items : List ChurnItem} (short : items.length < 4294967296) :
    CountsFit [] items := by
  have grows : ∀ (pending : List ProcessDrop) (items : List ChurnItem),
      (dropsSince pending items).length ≤ pending.length + items.length := by
    intro pending items
    induction items generalizing pending with
    | nil => exact Nat.le_refl _
    | cons item items induction =>
        cases item with
        | dropped drop =>
            have later := induction (pending ++ [drop])
            rw [List.length_append] at later
            change (dropsSince (pending ++ [drop]) items).length ≤ _
            simp only [List.length_cons, List.length_nil] at later ⊢
            omega
        | row captured =>
            change (dropsSince (if captured.summaryDropped.isSome then [] else pending)
              items).length ≤ _
            have later := induction (if captured.summaryDropped.isSome then [] else pending)
            split_ifs at later ⊢
            · simp only [List.length_cons, List.length_nil] at later ⊢
              omega
            · simp only [List.length_cons] at later ⊢
              omega
  intro before initial
  have most := grows [] before
  have within := initial.length_le
  simp only [List.length_nil] at most
  omega

/-- Over every run that ends with a flush: each transition of an app that is not excluded is
a row or reported, and each summary reports the drops since the one before. -/
theorem churn_summaries_lose_nothing (started ends : Instant) (calls : List ProcessCall)
    (sorted : CallsInOrder (untilShutdown calls ends))
    (fits : CountsFit [] ((new started).churnLog (untilShutdown calls ends))) :
    lifecycleRows ((new started).churnLog (untilShutdown calls ends)) +
        reportedDrops ((new started).churnLog (untilShutdown calls ends)) =
      (new started).includedTransitions (untilShutdown calls ends) ∧
      SummariesReport [] ((new started).churnLog (untilShutdown calls ends)) := by
  have ordered : (([] : List ProcessDrop).map (fun drop => drop.2.nanos) ++
      (untilShutdown calls ends).map fun call => call.now.nanos).Pairwise (· ≤ ·) := by
    rw [List.map_nil, List.nil_append, List.pairwise_map]
    exact sorted
  have ⟨balance, reports, flushed⟩ :=
    run_churn (new started) _ (holds_no_drops started) ordered fits
  rw [flushed ends (by simp [untilShutdown])] at balance
  exact ⟨balance, reports⟩

end ProcessMonitor

namespace ProcessMonitor

section Compiler

attribute [local instance] asciiExternals

private def quietControls : ProcessControls := ⟨∅, true, ∅⟩

/-- A seed, then a process that nobody focused. -/
private def compilerRuns : List ProcessCall :=
  untilShutdown
    [.poll ⟨0⟩ quietControls (some [⟨1, "init", none, none⟩]),
      .poll ⟨5000000000⟩ quietControls (some [⟨1, "init", none, none⟩, ⟨2, "cc", none, none⟩])]
    ⟨6000000000⟩

theorem churn_summaries_lose_nothing_compiler :
    lifecycleRows ((new ⟨0⟩).churnLog compilerRuns) +
        reportedDrops ((new ⟨0⟩).churnLog compilerRuns) =
      (new ⟨0⟩).includedTransitions compilerRuns ∧
      SummariesReport [] ((new ⟨0⟩).churnLog compilerRuns) := by
  apply churn_summaries_lose_nothing
  · simp [CallsInOrder, untilShutdown, ProcessCall.now]
  · apply counts_fit_of_short
    decide +kernel

end Compiler

end ProcessMonitor

end Gilbreth.Core
