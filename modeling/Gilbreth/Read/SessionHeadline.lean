import Gilbreth.Library.GroupSums
import Gilbreth.Library.StableSort
import Gilbreth.Read.Readers
import Gilbreth.Read.Rounding

/-!
# The headline of a session

The focus summary groups a session's dwells by executable, sorts the groups by their
raw focus time and keeps the first twenty-five; the headline adds the switches of the
rows kept and takes the first of them with the most active seconds, as rounded.
-/

set_option autoImplicit false

namespace Gilbreth.Read

open Gilbreth.Core Gilbreth.Store Groups StableSort

section Summary

variable [Doubles]

structure FocusSummaryRow where
  completedExe : String
  completedTitle : Option String
  focusSeconds : Doubles.Double
  activeForegroundSeconds : Doubles.Double
  switches : Int

def summaryKey (includeTitles : Bool) (row : ActiveFocusInterval) : String × String :=
  (row.exe, if includeTitles then row.title else "")

structure FocusAccum where
  switches : Int
  focusMs : Int
  activeMs : Int

/-- The entry of a key once every row is added to its group. -/
def accumOf (includeTitles : Bool) (rows : List ActiveFocusInterval) (key : String × String) :
    FocusAccum where
  switches := groupSum (summaryKey includeTitles) (fun _ => 1) rows key
  focusMs := groupSum (summaryKey includeTitles) (fun row => row.durationMs) rows key
  activeMs := groupSum (summaryKey includeTitles) ActiveFocusInterval.activeForegroundMs rows key

def summaryKeys (includeTitles : Bool) (rows : List ActiveFocusInterval) :
    List (String × String) :=
  ((rows.map (summaryKey includeTitles)).dedup).mergeSort fun left right =>
    decide (left.1 < right.1 ∨ (left.1 = right.1 ∧ left.2 ≤ right.2))

/-- More focus time, or as much and more switches, comes first. -/
def FocusAccum.before (left right : FocusAccum) : Bool :=
  decide (right.focusMs < left.focusMs ∨
    (right.focusMs = left.focusMs ∧ right.switches ≤ left.switches))

def topNSummary : Nat := 25

def summaryGroups (includeTitles : Bool) (rows : List ActiveFocusInterval) :
    List ((String × String) × FocusAccum) :=
  ((summaryKeys includeTitles rows).map fun key => (key, accumOf includeTitles rows key)).mergeSort
    fun left right => left.2.before right.2

def summaryRow (includeTitles : Bool) (group : (String × String) × FocusAccum) :
    FocusSummaryRow where
  completedExe := group.1.1
  completedTitle := if includeTitles then some group.1.2 else none
  focusSeconds := roundedSeconds group.2.focusMs
  activeForegroundSeconds := roundedSeconds group.2.activeMs
  switches := group.2.switches

def sessionScope (sessionId : Int) : Scope := ⟨none, some sessionId⟩

def readFocusSummary [LocalZone] (db : Database) (sessionId : Int) (includeTitles : Bool) :
    List FocusSummaryRow :=
  ((summaryGroups includeTitles (focusIntervalsWithActive db (sessionScope sessionId))).take
    topNSummary).map (summaryRow includeTitles)

end Summary

section Totals

variable [Doubles]

structure SessionStoryTotals where
  topApp : Option String
  topAppActiveSeconds : Doubles.Double
  focusSwitches : Int

/-- Only a row with more active seconds takes the place of the top. -/
def topRow (summary : List FocusSummaryRow) : Option FocusSummaryRow :=
  summary.foldl (replaceTop FocusSummaryRow.activeForegroundSeconds) none

def sessionStoryTotals (appFocusSummary : List FocusSummaryRow) : SessionStoryTotals :=
  match topRow appFocusSummary with
  | none => ⟨none, Doubles.ofInt 0, 0⟩
  | some top =>
      { topApp := some (displayApp top.completedExe)
        topAppActiveSeconds := top.activeForegroundSeconds
        focusSwitches := (appFocusSummary.map FocusSummaryRow.switches).sum }

def readSessionActiveFocusSecondsTotal [LocalZone] (db : Database) (sessionId : Int) :
    Doubles.Double :=
  let total := ((focusIntervalsWithActive db (sessionScope sessionId)).map
    ActiveFocusInterval.activeForegroundMs).sum
  Doubles.divide (Doubles.ofInt total) 1000

end Totals

section Groups

theorem group_keys (includeTitles : Bool) (rows : List ActiveFocusInterval) :
    ((summaryGroups includeTitles rows).map Prod.fst).Perm
      (rows.map (summaryKey includeTitles)).dedup := by
  have keys := List.mergeSort_perm (rows.map (summaryKey includeTitles)).dedup
    fun left right => decide (left.1 < right.1 ∨ (left.1 = right.1 ∧ left.2 ≤ right.2))
  have groups := (List.mergeSort_perm ((summaryKeys includeTitles rows).map fun key =>
    (key, accumOf includeTitles rows key)) fun left right => left.2.before right.2).map Prod.fst
  rw [List.map_map] at groups
  have same : (Prod.fst ∘ fun key => (key, accumOf includeTitles rows key)) = id := rfl
  rw [same, List.map_id] at groups
  exact groups.trans keys

theorem group_entry {includeTitles : Bool} {rows : List ActiveFocusInterval}
    {group : (String × String) × FocusAccum} (listed : group ∈ summaryGroups includeTitles rows) :
    group.1 ∈ rows.map (summaryKey includeTitles) ∧
      group.2 = accumOf includeTitles rows group.1 := by
  have key : group.1 ∈ (rows.map (summaryKey includeTitles)).dedup :=
    (group_keys includeTitles rows).mem_iff.mp (List.mem_map_of_mem listed)
  rcases List.mem_map.mp (List.mem_mergeSort.mp listed) with ⟨entry, _, made⟩
  subst made
  exact ⟨List.mem_dedup.mp key, rfl⟩

theorem group_switches_pos {includeTitles : Bool} {rows : List ActiveFocusInterval}
    {group : (String × String) × FocusAccum} (listed : group ∈ summaryGroups includeTitles rows) :
    0 < group.2.switches := by
  have entry := group_entry listed
  rcases List.mem_map.mp entry.1 with ⟨row, member, own⟩
  rw [entry.2, ← own]
  exact group_count_pos (summaryKey includeTitles) member

theorem sum_groups (includeTitles : Bool) (rows : List ActiveFocusInterval)
    (amount : ActiveFocusInterval → Int) :
    ((summaryGroups includeTitles rows).map fun group =>
      groupSum (summaryKey includeTitles) amount rows group.1).sum = (rows.map amount).sum := by
  have keys := (group_keys includeTitles rows).map
    (groupSum (summaryKey includeTitles) amount rows)
  rw [List.map_map] at keys
  have held : ∀ row ∈ rows, summaryKey includeTitles row ∈
      (rows.map (summaryKey includeTitles)).dedup :=
    fun row member => List.mem_dedup.mpr (List.mem_map_of_mem member)
  rw [← sum_group_sums (List.nodup_dedup _) (summaryKey includeTitles) amount rows held]
  exact keys.sum_eq

end Groups

section Headline

variable [Doubles] [LocalZone]

omit [LocalZone] in
theorem story_switches (summary : List FocusSummaryRow) :
    (sessionStoryTotals summary).focusSwitches =
      (summary.map FocusSummaryRow.switches).sum := by
  unfold sessionStoryTotals topRow
  rcases first_greatest FocusSummaryRow.activeForegroundSeconds summary with
    ⟨none, empty⟩ | ⟨_, top, _, found, _⟩
  · rw [none, empty]
    rfl
  · rw [found]

/-- The executables of the session's completed focus intervals. -/
def sessionExes (db : Database) (sessionId : Int) : List String :=
  ((focusIntervals db (sessionScope sessionId)).map FocusInterval.exe).dedup

def amountOf (db : Database) (sessionId : Int) (amount : ActiveFocusInterval → Int)
    (exe : String) : Int :=
  groupSum (fun row : ActiveFocusInterval => row.exe) amount
    (focusIntervalsWithActive db (sessionScope sessionId)) exe

/-- The active milliseconds of one executable. -/
def activeMsOf (db : Database) (sessionId : Int) (exe : String) : Int :=
  amountOf db sessionId ActiveFocusInterval.activeForegroundMs exe

def focusMsOf (db : Database) (sessionId : Int) (exe : String) : Int :=
  amountOf db sessionId (fun row => row.durationMs) exe

def switchesOf (db : Database) (sessionId : Int) (exe : String) : Int :=
  amountOf db sessionId (fun _ => 1) exe

/-- The headline says what the session's rows say: it counts every completed interval, its top
app has the most active time of all executables, and these add up to the session's total. -/
structure HeadlineAgrees (db : Database) (sessionId : Int) (totals : SessionStoryTotals) :
    Prop where
  switches : totals.focusSwitches = (focusIntervals db (sessionScope sessionId)).length
  top : sessionExes db sessionId ≠ [] → ∃ exe ∈ sessionExes db sessionId,
    totals.topApp = some (displayApp exe) ∧
      totals.topAppActiveSeconds = roundedSeconds (activeMsOf db sessionId exe) ∧
      ∀ other ∈ sessionExes db sessionId,
        activeMsOf db sessionId other ≤ activeMsOf db sessionId exe
  total : readSessionActiveFocusSecondsTotal db sessionId =
    Doubles.divide
      (Doubles.ofInt ((sessionExes db sessionId).map (activeMsOf db sessionId)).sum) 1000

/-- More focus time first, then more switches, then by name. -/
def Precedes (db : Database) (sessionId : Int) (left right : String) : Prop :=
  focusMsOf db sessionId right < focusMsOf db sessionId left ∨
    (focusMsOf db sessionId right = focusMsOf db sessionId left ∧
      (switchesOf db sessionId right < switchesOf db sessionId left ∨
        (switchesOf db sessionId right = switchesOf db sessionId left ∧ left ≤ right)))

/-- The first of the executables whose active time rounds to the most seconds. -/
structure Leads (db : Database) (sessionId : Int) (exe : String) : Prop where
  listed : exe ∈ sessionExes db sessionId
  most : ∀ other ∈ sessionExes db sessionId,
    roundedSeconds (activeMsOf db sessionId other) ≤ roundedSeconds (activeMsOf db sessionId exe)
  first : ∀ other ∈ sessionExes db sessionId,
    roundedSeconds (activeMsOf db sessionId other) = roundedSeconds (activeMsOf db sessionId exe) →
      Precedes db sessionId exe other

/-- It goes by the name of an executable with the most active time. -/
def LeaderMostActive (db : Database) (sessionId : Int) : Prop :=
  ∀ exe, Leads db sessionId exe → ∃ best ∈ sessionExes db sessionId,
    displayApp best = displayApp exe ∧ ∀ other ∈ sessionExes db sessionId,
      activeMsOf db sessionId other ≤ activeMsOf db sessionId best

theorem leads_unique {db : Database} {sessionId : Int} {left right : String}
    (leftLeads : Leads db sessionId left) (rightLeads : Leads db sessionId right) :
    left = right := by
  have same := le_antisymm (rightLeads.most left leftLeads.listed)
    (leftLeads.most right rightLeads.listed)
  have before := leftLeads.first right rightLeads.listed same.symm
  have after := rightLeads.first left leftLeads.listed same
  unfold Precedes at before after
  rcases before with less | ⟨focus, less | ⟨switches, named⟩⟩
  · omega
  · omega
  · rcases after with less | ⟨_, less | ⟨_, backwards⟩⟩
    · omega
    · omega
    · exact le_antisymm named backwards

omit [Doubles] in
theorem active_rows (db : Database) (scope : Scope) :
    (focusIntervalsWithActive db scope).map (fun row => row.exe) =
      (focusIntervals db scope).map FocusInterval.exe := by
  unfold focusIntervalsWithActive
  dsimp only
  split
  · rename_i none
    rw [none]
    rfl
  · rw [add_active_foreground_ms_eq, List.map_map]
    rfl

omit [Doubles] [LocalZone] in
theorem group_sum_exe (rows : List ActiveFocusInterval) (amount : ActiveFocusInterval → Int)
    (exe : String) :
    groupSum (summaryKey false) amount rows (exe, "") =
      groupSum (fun row => row.exe) amount rows exe := by
  unfold groupSum
  congr 2
  apply List.filter_congr
  intro row _
  simp [summaryKey]

omit [Doubles] in
theorem session_groups (db : Database) (sessionId : Int) :
    ((summaryGroups false (focusIntervalsWithActive db (sessionScope sessionId))).map
      Prod.fst).Perm ((sessionExes db sessionId).map fun exe => (exe, "")) := by
  have keys := group_keys false (focusIntervalsWithActive db (sessionScope sessionId))
  have injective : Function.Injective fun exe : String => (exe, "") :=
    fun left right same => (Prod.mk.inj same).1
  have named : (focusIntervalsWithActive db (sessionScope sessionId)).map (summaryKey false) =
      ((focusIntervals db (sessionScope sessionId)).map FocusInterval.exe).map
        fun exe => (exe, "") := by
    rw [← active_rows, List.map_map]
    rfl
  rw [named, List.dedup_map_of_injective injective] at keys
  exact keys

/-- The switches of the rows kept are all switches only when every row is kept. -/
theorem headline_switches_iff (db : Database) (sessionId : Int) :
    (sessionStoryTotals (readFocusSummary db sessionId false)).focusSwitches =
        (focusIntervals db (sessionScope sessionId)).length ↔
      (sessionExes db sessionId).length ≤ topNSummary := by
  have size : (summaryGroups false
      (focusIntervalsWithActive db (sessionScope sessionId))).length =
        (sessionExes db sessionId).length := by
    simpa using (session_groups db sessionId).length_eq
  have all : ((summaryGroups false (focusIntervalsWithActive db (sessionScope sessionId))).map
      fun group => group.2.switches).sum =
        (focusIntervals db (sessionScope sessionId)).length := by
    have entries : (summaryGroups false
        (focusIntervalsWithActive db (sessionScope sessionId))).map
          (fun group => group.2.switches) =
            (summaryGroups false (focusIntervalsWithActive db (sessionScope sessionId))).map
              fun group => groupSum (summaryKey false) (fun _ => 1)
                (focusIntervalsWithActive db (sessionScope sessionId)) group.1 := by
      apply List.map_congr_left
      intro group listed
      rw [(group_entry listed).2]
      rfl
    have rows := congrArg List.length (active_rows db (sessionScope sessionId))
    rw [List.length_map, List.length_map] at rows
    rw [entries, sum_groups, List.map_const', List.sum_replicate, rows]
    simp
  rw [story_switches, readFocusSummary, List.map_map, ← all, ← size]
  have kept : (((summaryGroups false
        (focusIntervalsWithActive db (sessionScope sessionId))).take topNSummary).map
          (FocusSummaryRow.switches ∘ summaryRow false)) =
      ((summaryGroups false (focusIntervalsWithActive db (sessionScope sessionId))).map
        fun group => group.2.switches).take topNSummary := by
    rw [List.map_take]
    rfl
  rw [kept, sum_take_eq_iff, List.length_map]
  intro amount member
  rcases List.mem_map.mp member with ⟨group, listed, rfl⟩
  exact group_switches_pos listed

theorem active_total_by_exe (db : Database) (sessionId : Int) :
    readSessionActiveFocusSecondsTotal db sessionId =
      Doubles.divide
        (Doubles.ofInt ((sessionExes db sessionId).map (activeMsOf db sessionId)).sum) 1000 := by
  have total : ((sessionExes db sessionId).map (activeMsOf db sessionId)).sum =
      ((focusIntervalsWithActive db (sessionScope sessionId)).map
        ActiveFocusInterval.activeForegroundMs).sum := by
    unfold sessionExes
    rw [← active_rows]
    apply sum_group_sums (List.nodup_dedup _)
    intro row member
    exact List.mem_dedup.mpr (List.mem_map_of_mem member)
  rw [total]
  rfl

/-- The row of an executable in a summary that is cut nowhere. -/
def exeRow (db : Database) (sessionId : Int) (exe : String) : FocusSummaryRow where
  completedExe := exe
  completedTitle := none
  focusSeconds := roundedSeconds (focusMsOf db sessionId exe)
  activeForegroundSeconds := roundedSeconds (activeMsOf db sessionId exe)
  switches := switchesOf db sessionId exe

omit [Doubles] [LocalZone] in
theorem names_in_order (includeTitles : Bool) (rows : List ActiveFocusInterval) :
    (summaryKeys includeTitles rows).Pairwise fun left right => left.1 ≤ right.1 := by
  apply (List.pairwise_mergeSort _ _ _).imp
  · intro left right compared
    rcases of_decide_eq_true compared with less | ⟨same, _⟩
    · exact less.le
    · exact same.le
  · intro a b c first second
    rw [decide_eq_true_eq] at *
    rcases first with less | ⟨same, titles⟩
    · rcases second with next | ⟨equal, _⟩
      · exact Or.inl (less.trans next)
      · exact Or.inl (equal ▸ less)
    · rcases second with next | ⟨equal, more⟩
      · exact Or.inl (same ▸ next)
      · exact Or.inr ⟨same.trans equal, titles.trans more⟩
  · intro a b
    rw [Bool.or_eq_true, decide_eq_true_eq, decide_eq_true_eq]
    rcases lt_trichotomy a.1 b.1 with less | same | greater
    · exact Or.inl (Or.inl less)
    · exact (le_total a.2 b.2).imp (fun titles => Or.inr ⟨same, titles⟩)
        fun titles => Or.inr ⟨same.symm, titles⟩
    · exact Or.inr (Or.inl greater)

omit [Doubles] [LocalZone] in
/-- The groups come by focus time and switches, and by name where these are the same. -/
theorem groups_in_order (includeTitles : Bool) (rows : List ActiveFocusInterval) :
    ∃ keys : List (String × String),
      (summaryGroups includeTitles rows = keys.map fun key =>
        (key, accumOf includeTitles rows key)) ∧
      keys.Pairwise fun left right =>
        (accumOf includeTitles rows left).before (accumOf includeTitles rows right) = true ∧
          ((accumOf includeTitles rows right).before (accumOf includeTitles rows left) = true →
            left.1 ≤ right.1) := by
  refine ⟨(summaryKeys includeTitles rows).mergeSort fun left right =>
    (accumOf includeTitles rows left).before (accumOf includeTitles rows right), ?_, ?_⟩
  · exact (List.map_mergeSort (f := fun key => (key, accumOf includeTitles rows key))
      (s := fun left right => left.2.before right.2) fun _ _ _ _ => rfl).symm
  · apply pairwise_merge_sort _ _ _ (names_in_order includeTitles rows)
    · intro a b c first second
      simp only [FocusAccum.before, decide_eq_true_eq] at *
      omega
    · intro a b
      simp only [FocusAccum.before, Bool.or_eq_true, decide_eq_true_eq]
      omega
    · exact (List.mergeSort_perm _ _).nodup_iff.mpr (List.nodup_dedup _)

/-- A summary that is not cut has a row for each executable, in the order of the summary. -/
theorem summary_rows {db : Database} {sessionId : Int}
    (short : (sessionExes db sessionId).length ≤ topNSummary) :
    ∃ exes : List String, exes.Perm (sessionExes db sessionId) ∧
      exes.Pairwise (Precedes db sessionId) ∧
      readFocusSummary db sessionId false = exes.map (exeRow db sessionId) := by
  have ⟨keys, groups, ordered⟩ :=
    groups_in_order false (focusIntervalsWithActive db (sessionScope sessionId))
  have all := session_groups db sessionId
  have named : keys.Perm ((sessionExes db sessionId).map fun exe => (exe, "")) := by
    have own : (Prod.fst ∘ fun key => (key, accumOf false
      (focusIntervalsWithActive db (sessionScope sessionId)) key)) = id := rfl
    rwa [groups, List.map_map, own, List.map_id] at all
  have untitled : ∀ key ∈ keys, (key.1, "") = key := by
    intro key member
    obtain ⟨exe, _, rfl⟩ := List.mem_map.mp (named.mem_iff.mp member)
    rfl
  have sums : ∀ key ∈ keys, ∀ amount,
      groupSum (summaryKey false) amount
          (focusIntervalsWithActive db (sessionScope sessionId)) key =
        amountOf db sessionId amount key.1 := by
    intro key member amount
    have own := group_sum_exe (focusIntervalsWithActive db (sessionScope sessionId)) amount key.1
    rwa [untitled key member] at own
  refine ⟨keys.map Prod.fst, ?_, ?_, ?_⟩
  · have exes := named.map Prod.fst
    have own : (Prod.fst ∘ fun exe : String => (exe, "")) = id := rfl
    rwa [List.map_map, own, List.map_id] at exes
  · apply List.pairwise_map.mpr
    apply ordered.imp_of_mem
    intro left right leftListed rightListed compared
    have ⟨first, tied⟩ := compared
    simp only [FocusAccum.before, accumOf, decide_eq_true_eq, sums left leftListed,
      sums right rightListed] at first tied
    rcases first with less | ⟨focus, switches⟩
    · exact Or.inl less
    · rcases switches.lt_or_eq with fewer | same
      · exact Or.inr ⟨focus, Or.inl fewer⟩
      · exact Or.inr ⟨focus, Or.inr ⟨same, tied (Or.inr ⟨focus.symm, same.ge⟩)⟩⟩
  · have size : (summaryGroups false
        (focusIntervalsWithActive db (sessionScope sessionId))).length ≤ topNSummary := by
      have same := all.length_eq
      rw [List.length_map, List.length_map] at same
      omega
    rw [readFocusSummary, List.take_of_length_le size, groups, List.map_map, List.map_map]
    apply List.map_congr_left
    intro key member
    simp only [Function.comp_apply, summaryRow, exeRow, accumOf, sums key member, focusMsOf,
      activeMsOf, switchesOf]
    rfl

/-- The headline of a summary that is not cut is the leader's. -/
theorem headline_leads {db : Database} {sessionId : Int}
    (short : (sessionExes db sessionId).length ≤ topNSummary)
    (some : sessionExes db sessionId ≠ []) :
    ∃ exe, Leads db sessionId exe ∧
      (sessionStoryTotals (readFocusSummary db sessionId false)).topApp =
        Option.some (displayApp exe) ∧
      (sessionStoryTotals (readFocusSummary db sessionId false)).topAppActiveSeconds =
        roundedSeconds (activeMsOf db sessionId exe) := by
  have ⟨exes, named, ordered, summary⟩ := summary_rows short
  rcases first_greatest FocusSummaryRow.activeForegroundSeconds
      (readFocusSummary db sessionId false) with
    ⟨_, empty⟩ | ⟨earlier, top, later, found, split, below, most⟩
  · rw [summary, List.map_eq_nil_iff] at empty
    rw [empty] at named
    exact absurd named.symm.eq_nil some
  · rw [summary] at split
    have ⟨before, rest, exesSplit, earlierRows, restRows⟩ := List.map_eq_append_iff.mp split
    have ⟨exe, after, restSplit, topRow, afterRows⟩ := List.map_eq_cons_iff.mp restRows
    rw [restSplit] at exesSplit
    have listed (other : String) : other ∈ sessionExes db sessionId ↔
        other ∈ before ∨ other = exe ∨ other ∈ after := by
      rw [← named.mem_iff, exesSplit, List.mem_append, List.mem_cons]
    have seconds : top.activeForegroundSeconds = roundedSeconds (activeMsOf db sessionId exe) := by
      rw [← topRow]
      rfl
    have lower (other : String) (member : other ∈ before) :
        roundedSeconds (activeMsOf db sessionId other) <
          roundedSeconds (activeMsOf db sessionId exe) := by
      rw [← seconds]
      apply below (exeRow db sessionId other)
      rw [← earlierRows]
      exact List.mem_map_of_mem member
    have upper (other : String) (member : other ∈ after) :
        roundedSeconds (activeMsOf db sessionId other) ≤
          roundedSeconds (activeMsOf db sessionId exe) := by
      rw [← seconds]
      apply most (exeRow db sessionId other)
      rw [← afterRows]
      exact List.mem_map_of_mem member
    refine ⟨exe, ⟨?_, ?_, ?_⟩, ?_, ?_⟩
    · exact (listed exe).mpr (Or.inr (Or.inl rfl))
    · intro other member
      rcases (listed other).mp member with inBefore | same | inAfter
      · exact (lower other inBefore).le
      · exact same ▸ le_rfl
      · exact upper other inAfter
    · intro other member equal
      rcases (listed other).mp member with inBefore | same | inAfter
      · exact absurd equal (lower other inBefore).ne
      · rw [same]
        exact Or.inr ⟨rfl, Or.inr ⟨rfl, le_rfl⟩⟩
      · rw [exesSplit] at ordered
        exact (List.pairwise_cons.mp (List.pairwise_append.mp ordered).2.1).1 other inAfter
    · have first : (top.completedExe) = exe := by
        rw [← topRow]
        rfl
      simp only [sessionStoryTotals, Read.topRow, found, first]
    · simp only [sessionStoryTotals, Read.topRow, found, seconds]

/-- The headline agrees with the session's rows exactly when the summary cuts off no executable
and its leader has the most active time. -/
theorem headline_agrees_iff (db : Database) (sessionId : Int) :
    HeadlineAgrees db sessionId (sessionStoryTotals (readFocusSummary db sessionId false)) ↔
      (sessionExes db sessionId).length ≤ topNSummary ∧ LeaderMostActive db sessionId := by
  constructor
  · intro agrees
    have short := (headline_switches_iff db sessionId).mp agrees.switches
    refine ⟨short, fun exe leads => ?_⟩
    have some := List.ne_nil_of_mem leads.listed
    have ⟨first, firstLeads, named, _⟩ := headline_leads short some
    have ⟨best, listed, shown, _, most⟩ := agrees.top some
    rw [leads_unique leads firstLeads]
    rw [named] at shown
    exact ⟨best, listed, (Option.some.inj shown).symm, most⟩
  · rintro ⟨short, leader⟩
    refine ⟨(headline_switches_iff db sessionId).mpr short, fun some => ?_,
      active_total_by_exe db sessionId⟩
    have ⟨exe, leads, named, seconds⟩ := headline_leads short some
    have ⟨best, listed, same, most⟩ := leader exe leads
    refine ⟨best, listed, by rw [named, same], ?_, most⟩
    have above := rounded_seconds_mono (most exe leads.listed)
    rw [seconds]
    exact le_antisymm above (leads.most best listed)

omit [Doubles] in
theorem length_session_exes (db : Database) (sessionId : Int) :
    (sessionExes db sessionId).length =
      ((((db.activity.events.rows.filter fun row =>
        (sessionScope sessionId).admits row.sessionId row.ts.val).filterMap focusInterval).map
          FocusInterval.exe).dedup).length := by
  have sorted := List.mergeSort_perm (db.activity.events.rows.filter fun row =>
    (sessionScope sessionId).admits row.sessionId row.ts.val) EventRow.precedes
  exact (((sorted.filterMap focusInterval).map FocusInterval.exe).dedup).length_eq

end Headline

section ManyApps

private def switchRow (number : Nat) : EventRow :=
  { sessionId := 1, seq := .ofInt number, ts := .ofInt (number * 1000 + 1000)
    source := .foreground, kind := "focus_changed", isSensitive := false, hwnd := none, exe := none
    title := none, pid := none, prevExe := some (String.ofList (List.replicate (number + 1) 'a'))
    prevTitle := none, key := none, modShift := none, modCtrl := none, modAlt := none
    modWin := none, button := none, posX := none, posY := none, durationMs := some (.ofInt 1000)
    payload := .active 0 }

/-- A session that showed twenty-six programs for a second each. -/
private def manyApps : Database :=
  { Database.empty with
    activity := { Activity.empty with
      events := ⟨(List.range 26).map switchRow, by decide +kernel⟩ } }

/-- Of twenty-six switches the headline counts twenty-five. -/
theorem headline_loses_a_switch :
    ¬∀ [Doubles] [LocalZone] (db : Database) (sessionId : Int),
      HeadlineAgrees db sessionId (sessionStoryTotals (readFocusSummary db sessionId false)) := by
  intro agrees
  have all := @agrees exactDoubles utcZone manyApps 1
  have short := (@headline_switches_iff exactDoubles utcZone manyApps 1).mp
    (@HeadlineAgrees.switches exactDoubles utcZone manyApps 1 _ all)
  rw [@length_session_exes utcZone] at short
  exact absurd short (by decide +kernel)

end ManyApps

end Gilbreth.Read
