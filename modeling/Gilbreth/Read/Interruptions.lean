import Gilbreth.Library.Chains
import Gilbreth.Read.Readers

/-!
# Focus runs and returns to an anchor

Segments of one app that follow each other are merged to runs, and an interruption is
a return to the app of an earlier run without a break on the way. The linear search
finds exactly the returns of the quadratic definition.
-/

set_option autoImplicit false

namespace Gilbreth.Read

open Chains

structure AppSegment where
  order : Int
  app : String
  sessionId : Int
  seq : Int
  localDate : String
  startTs : Int
  endTs : Int
  activeMs : Int
deriving DecidableEq

structure FocusRun where
  app : String
  sessionId : Int
  localDate : String
  startTs : Int
  endTs : Int
  activeMs : Int
  firstOrder : Int
  lastOrder : Int
  firstSeq : Int
  lastSeq : Int
deriving DecidableEq

section Runs

def AppSegment.isKnownActive (segment : AppSegment) : Bool :=
  segment.app != "(unknown)" && decide (0 < segment.activeMs)

def canMergeFocusRun (current : FocusRun) (segment : AppSegment) : Bool :=
  current.app == segment.app && current.sessionId == segment.sessionId &&
    segment.order == current.lastOrder + 1 &&
    decide (segment.startTs - current.endTs ≤ episodeGapMs)

def FocusRun.open (segment : AppSegment) : FocusRun where
  app := segment.app
  sessionId := segment.sessionId
  localDate := segment.localDate
  startTs := segment.startTs
  endTs := segment.endTs
  activeMs := segment.activeMs
  firstOrder := segment.order
  lastOrder := segment.order
  firstSeq := segment.seq
  lastSeq := segment.seq

def FocusRun.extend (run : FocusRun) (segment : AppSegment) : FocusRun :=
  { run with
    activeMs := run.activeMs + segment.activeMs
    endTs := segment.endTs
    lastOrder := segment.order
    lastSeq := segment.seq }

/-- The loop of `same_app_focus_runs` with the run it is in. -/
def runsFrom : Option FocusRun → List AppSegment → List FocusRun
  | current, [] => current.toList
  | none, segment :: rest =>
      if segment.isKnownActive then runsFrom (some (.open segment)) rest else runsFrom none rest
  | some run, segment :: rest =>
      if segment.isKnownActive then
        if canMergeFocusRun run segment then runsFrom (some (run.extend segment)) rest
        else run :: runsFrom (some (.open segment)) rest
      else run :: runsFrom none rest

def sameAppFocusRuns (segments : List AppSegment) : List FocusRun := runsFrom none segments

def runsAreAdjacent (left right : FocusRun) : Bool :=
  left.sessionId == right.sessionId && right.firstOrder == left.lastOrder + 1 &&
    decide (right.startTs - left.endTs ≤ episodeGapMs)

def InSegmentOrder (segments : List AppSegment) : Prop :=
  segments.Pairwise fun left right => left.order < right.order

theorem runs_from_active (current : Option FocusRun) (segments : List AppSegment) :
    ((runsFrom current segments).map FocusRun.activeMs).sum =
      (current.map FocusRun.activeMs).getD 0 +
        ((segments.filter AppSegment.isKnownActive).map AppSegment.activeMs).sum := by
  induction segments generalizing current with
  | nil => cases current <;> simp [runsFrom]
  | cons segment rest induction =>
      rw [List.filter_cons]
      cases current with
      | none =>
          rw [runsFrom]
          split
          · simp [induction, FocusRun.open]
          · exact induction none
      | some run =>
          rw [runsFrom]
          split
          · split
            · rw [induction]
              simp only [FocusRun.extend, Option.map_some, Option.getD_some, List.map_cons,
                List.sum_cons]
              omega
            · simp [induction, FocusRun.open]
          · simp [induction]

/-- The later of two runs cannot go on with the earlier one. -/
def Apart (left right : FocusRun) : Prop :=
  left.lastOrder < right.firstOrder ∧ (runsAreAdjacent left right = true → left.app ≠ right.app)

/-- Runs made from segments: each upright, all apart from the ones before. -/
structure RunsApart (runs : List FocusRun) : Prop where
  upright : ∀ run ∈ runs, run.firstOrder ≤ run.lastOrder
  apart : runs.Pairwise Apart

theorem runs_from_after {current : Option FocusRun} {segments : List AppSegment} {bound : Int}
    (before : ∀ run ∈ current, bound < run.firstOrder)
    (below : ∀ segment ∈ segments, bound < segment.order) :
    ∀ run ∈ runsFrom current segments, bound < run.firstOrder := by
  induction segments generalizing current with
  | nil =>
      intro run listed
      rw [runsFrom] at listed
      exact before run (Option.mem_toList.mp listed)
  | cons segment rest induction =>
      have later : ∀ other ∈ rest, bound < other.order :=
        fun other member => below other (List.mem_cons_of_mem _ member)
      have opened : ∀ run ∈ some (FocusRun.open segment), bound < run.firstOrder := by
        intro run made
        cases made
        exact below segment List.mem_cons_self
      cases current with
      | none =>
          rw [runsFrom]
          split
          · exact induction opened later
          · exact induction (by simp) later
      | some run =>
          have start := before run rfl
          rw [runsFrom]
          split
          · split
            · apply induction _ later
              intro longer made
              cases made
              exact start
            · intro other listed
              cases List.mem_cons.mp listed with
              | inl same => exact same ▸ start
              | inr member => exact induction opened later other member
          · intro other listed
            cases List.mem_cons.mp listed with
            | inl same => exact same ▸ start
            | inr member => exact induction (by simp) later other member

theorem runs_from_first (run : FocusRun) (segments : List AppSegment) :
    ∃ first rest, runsFrom (some run) segments = first :: rest ∧ first.app = run.app ∧
      first.sessionId = run.sessionId ∧ first.startTs = run.startTs ∧
      first.firstOrder = run.firstOrder := by
  induction segments generalizing run with
  | nil => exact ⟨run, [], rfl, rfl, rfl, rfl, rfl⟩
  | cons segment rest induction =>
      rw [runsFrom]
      split
      · split
        · exact induction (run.extend segment)
        · exact ⟨run, _, rfl, rfl, rfl, rfl, rfl⟩
      · exact ⟨run, _, rfl, rfl, rfl, rfl, rfl⟩

theorem runs_from_apart {current : Option FocusRun} {segments : List AppSegment}
    (order : InSegmentOrder segments)
    (upright : ∀ run ∈ current, run.firstOrder ≤ run.lastOrder)
    (goesOn : ∀ run ∈ current, ∀ segment ∈ segments, run.lastOrder < segment.order) :
    RunsApart (runsFrom current segments) := by
  induction segments generalizing current with
  | nil =>
      cases current with
      | none => exact ⟨by simp [runsFrom], List.Pairwise.nil⟩
      | some run => exact ⟨by simpa [runsFrom] using upright, List.pairwise_singleton _ _⟩
  | cons segment rest induction =>
      have first := List.pairwise_cons.mp order
      have openedAfter : ∀ run ∈ some (FocusRun.open segment), ∀ other ∈ rest,
          run.lastOrder < other.order := by
        intro run made
        cases made
        exact first.1
      have opened := induction first.2 (fun run made => by cases made; exact le_rfl) openedAfter
      have closed := @induction none first.2 (by simp) (by simp)
      cases current with
      | none =>
          rw [runsFrom]
          split
          · exact opened
          · exact closed
      | some run =>
          have own := upright run rfl
          have next := goesOn run rfl segment List.mem_cons_self
          rw [runsFrom]
          split
          · split
            · apply induction first.2
              · intro longer made
                cases made
                exact own.trans next.le
              · intro longer made
                cases made
                exact first.1
            · rename_i unmerged
              refine ⟨?_, List.pairwise_cons.mpr ⟨?_, opened.apart⟩⟩
              · intro other listed
                cases List.mem_cons.mp listed with
                | inl same => exact same ▸ own
                | inr member => exact opened.upright other member
              · rcases runs_from_first (.open segment) rest with
                  ⟨head, later, made, app, session, start, place⟩
                rw [made] at opened ⊢
                have beyond := List.pairwise_cons.mp opened.apart
                have tall := opened.upright head List.mem_cons_self
                intro other listed
                cases List.mem_cons.mp listed with
                | inl same =>
                    subst same
                    refine ⟨by rw [place]; exact next, ?_⟩
                    intro adjacent equal
                    apply unmerged
                    simp only [runsAreAdjacent, Bool.and_eq_true, beq_iff_eq,
                      decide_eq_true_eq, session, place, start, FocusRun.open] at adjacent
                    simp only [canMergeFocusRun, Bool.and_eq_true, beq_iff_eq,
                      decide_eq_true_eq]
                    rw [app] at equal
                    exact ⟨⟨⟨equal, adjacent.1.1⟩, adjacent.1.2⟩, adjacent.2⟩
                | inr member =>
                    have far := (beyond.1 other member).1
                    rw [place] at tall
                    change segment.order ≤ head.lastOrder at tall
                    refine ⟨by omega, ?_⟩
                    intro adjacent
                    simp only [runsAreAdjacent, Bool.and_eq_true, beq_iff_eq] at adjacent
                    omega
          · refine ⟨?_, List.pairwise_cons.mpr ⟨?_, closed.apart⟩⟩
            · intro other listed
              cases List.mem_cons.mp listed with
              | inl same => exact same ▸ own
              | inr member => exact closed.upright other member
            · intro other listed
              have far := @runs_from_after none rest segment.order (by simp) first.1 other listed
              refine ⟨by omega, ?_⟩
              intro adjacent
              simp only [runsAreAdjacent, Bool.and_eq_true, beq_iff_eq] at adjacent
              omega

theorem adjacent_runs_differ {segments : List AppSegment} (order : InSegmentOrder segments)
    {left right : FocusRun} (leftRun : left ∈ sameAppFocusRuns segments)
    (rightRun : right ∈ sameAppFocusRuns segments)
    (adjacent : runsAreAdjacent left right = true) : left.app ≠ right.app := by
  have runs : RunsApart (sameAppFocusRuns segments) := runs_from_apart order (by simp) (by simp)
  have linked := adjacent
  simp only [runsAreAdjacent, Bool.and_eq_true, beq_iff_eq] at linked
  have tall := runs.upright left leftRun
  have rightTall := runs.upright right rightRun
  have pairs := List.pairwise_iff_getElem.mp runs.apart
  rcases List.getElem_of_mem leftRun with ⟨i, inLeft, atLeft⟩
  rcases List.getElem_of_mem rightRun with ⟨j, inRight, atRight⟩
  rcases lt_trichotomy i j with before | same | after
  · have apart := pairs i j inLeft inRight before
    rw [atLeft, atRight] at apart
    exact apart.2 adjacent
  · subst same
    rw [atLeft] at atRight
    subst atRight
    omega
  · have backwards := (pairs j i inRight inLeft after).1
    rw [atLeft, atRight] at backwards
    omega

end Runs

section Returns

def indicesByApp (runs : List FocusRun) (app : String) : List Nat :=
  (runs.zipIdx.filter fun entry => entry.1.app == app).map Prod.snd

def nextAnchorReturns (runs : List FocusRun) : List (Nat × Nat) :=
  runs.zipIdx.filterMap fun entry =>
    let occurrences := indicesByApp runs entry.1.app
    let position := partitionPoint (fun value => decide (value ≤ entry.2)) occurrences
    match occurrences[position]?, (chainEnds runsAreAdjacent 0 runs)[entry.2]? with
    | some returnIndex, some chainEnd =>
        if returnIndex ≤ chainEnd ∧ entry.2 + 1 < returnIndex then some (entry.2, returnIndex)
        else none
    | _, _ => none

def activeMsPrefix (runs : List FocusRun) : List Int :=
  prefixSums 0 (runs.map FocusRun.activeMs)

/-- Productive input timestamps by session and app. -/
abbrev ProductiveInputMap := Int → String → Option (List Int)

def firstInputLag (sessionId : Int) (app : String) (startTs endTs : Int)
    (productiveTsByApp : ProductiveInputMap) : Option Int :=
  (productiveTsByApp sessionId app).bind fun tsList =>
    tsList[partitionPoint (fun ts => decide (ts < startTs)) tsList]?.bind fun ts =>
      if ts < endTs then some (max (ts - startTs) 0) else none

structure DiversionCostRecord where
  sessionId : Int
  anchor : String
  diverter : String
  path : List String
  anchorStartTs : Int
  diverterStartTs : Int
  returnStartTs : Int
  returnEndTs : Int
  awayMs : Int
  restartMs : Option Int
  localDate : String
deriving DecidableEq

/-- One record; the places of a pair are inside the list. -/
def diversionCostRecord (runs : List FocusRun) (productiveTsByApp : ProductiveInputMap)
    (pair : Nat × Nat) : Option DiversionCostRecord :=
  match runs[pair.1]?, runs[pair.1 + 1]?, runs[pair.2]? with
  | some run, some diverter, some candidate =>
      some
        { sessionId := run.sessionId
          anchor := run.app
          diverter := diverter.app
          path := ((runs.take (pair.2 + 1)).drop pair.1).map FocusRun.app
          anchorStartTs := run.startTs
          diverterStartTs := diverter.startTs
          returnStartTs := candidate.startTs
          returnEndTs := candidate.endTs
          awayMs := (activeMsPrefix runs)[pair.2]?.getD 0 -
            (activeMsPrefix runs)[pair.1 + 1]?.getD 0
          restartMs := firstInputLag candidate.sessionId run.app candidate.startTs
            candidate.endTs productiveTsByApp
          localDate := run.localDate }
  | _, _, _ => none

def diversionCostRecords (runs : List FocusRun) (productiveTsByApp : ProductiveInputMap) :
    List DiversionCostRecord :=
  (nextAnchorReturns runs).filterMap (diversionCostRecord runs productiveTsByApp)

/-- A run of the same app comes back after others, without a break on the way, and
none of its app comes sooner. -/
structure ReturnsTo (runs : List FocusRun) (start finish : Nat) (anchor back : FocusRun) :
    Prop where
  atAnchor : runs[start]? = some anchor
  atBack : runs[finish]? = some back
  same : back.app = anchor.app
  others : start + 1 < finish
  first : ∀ between run, start < between → between < finish → runs[between]? = some run →
    run.app ≠ anchor.app
  unbroken : ∀ between, start ≤ between → between < finish →
    ∃ left right, runs[between]? = some left ∧ runs[between + 1]? = some right ∧
      runsAreAdjacent left right = true

variable {runs : List FocusRun}

theorem mem_indices_by_app (app : String) (index : Nat) :
    index ∈ indicesByApp runs app ↔ ∃ run, runs[index]? = some run ∧ run.app = app := by
  rw [indicesByApp, List.mem_map]
  constructor
  · rintro ⟨entry, listed, rfl⟩
    rw [List.mem_filter, beq_iff_eq] at listed
    exact ⟨entry.1, List.mem_zipIdx_iff_getElem?.mp listed.1, listed.2⟩
  · rintro ⟨run, found, own⟩
    refine ⟨(run, index), ?_, rfl⟩
    rw [List.mem_filter, beq_iff_eq]
    exact ⟨List.mem_zipIdx_iff_getElem?.mpr found, own⟩

theorem indices_by_app_sorted (runs : List FocusRun) (app : String) :
    (indicesByApp runs app).Pairwise (· < ·) := by
  have numbers : (runs.zipIdx.map Prod.snd).Pairwise (· < ·) := by
    rw [List.zipIdx_map_snd]
    exact List.pairwise_lt_range'
  exact numbers.sublist (List.filter_sublist.map _)

theorem next_occurrence_iff (app : String) (index next : Nat) :
    (indicesByApp runs app)[partitionPoint (fun value => decide (value ≤ index))
        (indicesByApp runs app)]? = some next ↔
      (∃ run, runs[next]? = some run ∧ run.app = app) ∧ index < next ∧
        ∀ between run, index < between → between < next → runs[between]? = some run →
          run.app ≠ app := by
  rw [next_above_iff (indices_by_app_sorted runs app), mem_indices_by_app]
  apply and_congr_right
  intro _
  apply and_congr_right
  intro _
  constructor
  · intro least between run after before found own
    have bound := least between ((mem_indices_by_app app between).mpr ⟨run, found, own⟩) after
    omega
  · intro none other listed after
    rcases (mem_indices_by_app app other).mp listed with ⟨run, found, own⟩
    by_contra sooner
    exact none other run after (by omega) found own

/-- The linear search finds a pair exactly when the second run is the return. -/
theorem mem_next_anchor_returns (start finish : Nat) :
    (start, finish) ∈ nextAnchorReturns runs ↔
      ∃ anchor back, ReturnsTo runs start finish anchor back := by
  rw [nextAnchorReturns, List.mem_filterMap]
  constructor
  · rintro ⟨⟨anchor, index⟩, listed, made⟩
    have found := List.mem_zipIdx_iff_getElem?.mp listed
    dsimp only at made found
    split at made
    · rename_i returnIndex chainEnd occurrence reach
      rw [Option.ite_none_right_eq_some] at made
      rcases made with ⟨⟨reached, beyond⟩, same⟩
      cases same
      rcases (next_occurrence_iff _ _ _).mp occurrence with ⟨⟨back, atBack, own⟩, _, first⟩
      have inside := (List.getElem?_eq_some_iff.mp atBack).1
      have links := (le_chain_end_iff runsAreAdjacent reach (by omega) inside).mp reached
      exact ⟨anchor, back, found, atBack, own, beyond, first, links⟩
    · cases made
  · rintro ⟨anchor, back, returns⟩
    have inside := (List.getElem?_eq_some_iff.mp returns.atBack).1
    have occurrence := (next_occurrence_iff anchor.app start finish).mpr
      ⟨⟨back, returns.atBack, returns.same⟩, by have := returns.others; omega, returns.first⟩
    have size := length_chain_ends runsAreAdjacent 0 runs
    have startInside := (List.getElem?_eq_some_iff.mp returns.atAnchor).1
    have reach : (chainEnds runsAreAdjacent 0 runs)[start]? =
        some (chainEnds runsAreAdjacent 0 runs)[start] := List.getElem?_eq_getElem _
    have reached := (le_chain_end_iff runsAreAdjacent reach
      (by have := returns.others; omega) inside).mpr returns.unbroken
    refine ⟨(anchor, start), List.mem_zipIdx_iff_getElem?.mpr returns.atAnchor, ?_⟩
    dsimp only
    rw [occurrence, reach]
    dsimp only
    rw [if_pos ⟨reached, returns.others⟩]

theorem next_anchor_returns_sorted (runs : List FocusRun) :
    ((nextAnchorReturns runs).map Prod.fst).Pairwise (· < ·) := by
  have numbers : (runs.zipIdx.map Prod.snd).Pairwise (· < ·) := by
    rw [List.zipIdx_map_snd]
    exact List.pairwise_lt_range'
  rw [List.pairwise_map] at numbers ⊢
  rw [nextAnchorReturns, List.pairwise_filterMap]
  apply numbers.imp
  intro left right before first madeFirst second madeSecond
  have starts : ∀ (entry : FocusRun × Nat) (pair : Nat × Nat),
      (match (indicesByApp runs entry.1.app)[partitionPoint
          (fun value => decide (value ≤ entry.2)) (indicesByApp runs entry.1.app)]?,
          (chainEnds runsAreAdjacent 0 runs)[entry.2]? with
      | some returnIndex, some chainEnd =>
          if returnIndex ≤ chainEnd ∧ entry.2 + 1 < returnIndex then some (entry.2, returnIndex)
          else none
      | _, _ => none) = some pair → pair.1 = entry.2 := by
    intro entry pair made
    split at made
    · rw [Option.ite_none_right_eq_some] at made
      cases made.2
      rfl
    · cases made
  rw [starts left first madeFirst, starts right second madeSecond]
  exact before

theorem prefix_difference (runs : List FocusRun) {start finish : Nat} (others : start + 1 < finish)
    (inside : finish < runs.length) :
    (activeMsPrefix runs)[finish]?.getD 0 - (activeMsPrefix runs)[start + 1]?.getD 0 =
      (((runs.take finish).drop (start + 1)).map FocusRun.activeMs).sum := by
  rw [activeMsPrefix, get_prefix_sums 0 _ (by rw [List.length_map]; omega),
    get_prefix_sums 0 _ (by rw [List.length_map]; omega)]
  simp only [Option.getD_some, zero_add]
  rw [sum_between _ others.le, List.map_drop, List.map_take, List.drop_take]

theorem records_of_pairs {Pair Record : Type} {related : Pair → Record → Prop}
    {recordOf : Pair → Option Record} {pairs : List Pair}
    (made : ∀ pair ∈ pairs, ∃ record, recordOf pair = some record ∧ related pair record) :
    List.Forall₂ related pairs (pairs.filterMap recordOf) := by
  induction pairs with
  | nil => exact .nil
  | cons pair rest induction =>
      rcases made pair List.mem_cons_self with ⟨record, found, own⟩
      rw [List.filterMap_cons_some found]
      exact .cons own (induction fun other member => made other (List.mem_cons_of_mem _ member))

theorem diversion_cost_records_away (runs : List FocusRun)
    (productiveTsByApp : ProductiveInputMap) :
    List.Forall₂ (fun pair record => record.awayMs =
        (((runs.take pair.2).drop (pair.1 + 1)).map FocusRun.activeMs).sum)
      (nextAnchorReturns runs) (diversionCostRecords runs productiveTsByApp) := by
  apply records_of_pairs
  intro pair listed
  rcases (mem_next_anchor_returns pair.1 pair.2).mp listed with ⟨anchor, back, returns⟩
  rcases returns.unbroken pair.1 le_rfl (by have := returns.others; omega) with
    ⟨_, diverter, _, found, _⟩
  have inside := (List.getElem?_eq_some_iff.mp returns.atBack).1
  rw [diversionCostRecord, returns.atAnchor, found, returns.atBack]
  exact ⟨_, rfl, prefix_difference runs returns.others inside⟩

/-- Runs, returns and their costs are those of the quadratic definition: the runs keep
the known active time, adjacent ones are of different apps, a pair is found exactly when
the second run is the first unbroken return to the app of the first, and its record is
away for the active time of the runs between. -/
theorem interruption_records_match {segments : List AppSegment} (order : InSegmentOrder segments)
    (productiveTsByApp : ProductiveInputMap) :
    ((sameAppFocusRuns segments).map FocusRun.activeMs).sum =
        ((segments.filter AppSegment.isKnownActive).map AppSegment.activeMs).sum ∧
      (∀ left ∈ sameAppFocusRuns segments, ∀ right ∈ sameAppFocusRuns segments,
        runsAreAdjacent left right = true → left.app ≠ right.app) ∧
      (∀ start finish, (start, finish) ∈ nextAnchorReturns (sameAppFocusRuns segments) ↔
        ∃ anchor back, ReturnsTo (sameAppFocusRuns segments) start finish anchor back) ∧
      ((nextAnchorReturns (sameAppFocusRuns segments)).map Prod.fst).Pairwise (· < ·) ∧
      List.Forall₂ (fun pair record => record.awayMs =
          ((((sameAppFocusRuns segments).take pair.2).drop (pair.1 + 1)).map
            FocusRun.activeMs).sum)
        (nextAnchorReturns (sameAppFocusRuns segments))
        (diversionCostRecords (sameAppFocusRuns segments) productiveTsByApp) := by
  refine ⟨?_, ?_, ?_, ?_, ?_⟩
  · rw [sameAppFocusRuns, runs_from_active]
    simp
  · intro left leftRun right rightRun adjacent
    exact adjacent_runs_differ order leftRun rightRun adjacent
  · exact mem_next_anchor_returns
  · exact next_anchor_returns_sorted _
  · exact diversion_cost_records_away _ _

private def tripSegment (order : Int) (app : String) : AppSegment :=
  ⟨order, app, 1, order, "1970-01-01", order * 1000, order * 1000 + 1000, 1000⟩

/-- From the editor to the mail and back. -/
private def trip : List AppSegment :=
  [tripSegment 0 "editor", tripSegment 1 "mail", tripSegment 2 "editor"]

theorem interruption_records_match_trip :
    ((sameAppFocusRuns trip).map FocusRun.activeMs).sum = 3000 ∧
      ∃ anchor back, ReturnsTo (sameAppFocusRuns trip) 0 2 anchor back := by
  have order : InSegmentOrder trip := by
    unfold InSegmentOrder
    decide
  have records := interruption_records_match order fun _ _ => none
  exact ⟨records.1.trans (by decide), (records.2.2.1 0 2).mp (by decide)⟩

end Returns

end Gilbreth.Read
