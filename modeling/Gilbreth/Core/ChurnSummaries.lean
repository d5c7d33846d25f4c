import Mathlib
import Gilbreth.Core.ProcessNoise
import Gilbreth.Library.SlidingWindow

/-!
# What a churn summary reports

The filter holds the drops since the last summary in four shapes: a count for each name,
the recent hits of each name, the names found sustained, and the total.
-/

set_option autoImplicit false

namespace Gilbreth.Core

/-- One counted transition: the app's name and the time of the poll. -/
abbrev ProcessDrop := String × Instant

def dropNames (drops : List ProcessDrop) : List String := drops.map Prod.fst

def dropCount (drops : List ProcessDrop) (name : String) : Nat := (dropNames drops).count name

/-- When a name was dropped, in nanoseconds. -/
def dropTimes (drops : List ProcessDrop) (name : String) : List Int :=
  (drops.filter fun drop => drop.1 == name).map fun drop => drop.2.nanos

/-- The larger count first, then the smaller name. -/
def LargestFirst {Row : Type} (count : Row → Nat) (name : Row → String) (left right : Row) :
    Prop :=
  count right < count left ∨ (count left = count right ∧ name left ≤ name right)

section Order

variable {Row : Type} {count : Row → Nat} {name : Row → String}

instance : DecidableRel (LargestFirst count name) := fun left right =>
  inferInstanceAs (Decidable (count right < count left ∨
    (count left = count right ∧ name left ≤ name right)))

instance : Std.Total (LargestFirst count name) where
  total left right := by
    cases Nat.lt_trichotomy (count left) (count right) with
    | inl smaller => exact Or.inr (Or.inl smaller)
    | inr rest =>
        cases rest with
        | inr larger => exact Or.inl (Or.inl larger)
        | inl same =>
            cases le_total (name left) (name right) with
            | inl ordered => exact Or.inl (Or.inr ⟨same, ordered⟩)
            | inr ordered => exact Or.inr (Or.inr ⟨same.symm, ordered⟩)

instance : IsTrans Row (LargestFirst count name) where
  trans first second third := by
    rintro (larger | ⟨same, ordered⟩) (largerLater | ⟨sameLater, orderedLater⟩)
    · exact Or.inl (by omega)
    · exact Or.inl (by omega)
    · exact Or.inl (by omega)
    · exact Or.inr ⟨same.trans sameLater, ordered.trans orderedLater⟩

theorem largest_first_antisymm {left right : Row} (first : LargestFirst count name left right)
    (second : LargestFirst count name right left) : name left = name right := by
  unfold LargestFirst at first second
  cases first with
  | inl larger => omega
  | inr same =>
      cases second with
      | inl larger => omega
      | inr back => exact le_antisymm same.2 back.2

end Order

def rankedNames (drops : List ProcessDrop) : List String :=
  (dropNames drops).dedup.insertionSort (LargestFirst (dropCount drops) id)

/-- Thirty drops of the name inside some window of ten minutes. -/
def SustainedChurn (drops : List ProcessDrop) (name : String) : Prop :=
  ∃ opens : Int, 30 ≤ ((dropTimes drops name).filter fun time =>
    decide (opens ≤ time) && decide (time ≤ opens + 600000000000)).length

/-- What the summary of some drops says. -/
structure SummaryOf (drops : List ProcessDrop) (dropped distinctExes : UInt32)
    (top : List ProcessChurnEntry) : Prop where
  total : dropped.toNat = drops.length
  distinct : distinctExes.toNat = (dropNames drops).dedup.length
  largest : top.map (fun entry => (entry.exe, entry.dropped.toNat)) =
    ((rankedNames drops).take 3).map fun name => (name, dropCount drops name)
  sustained : ∀ entry ∈ top, entry.sustained = true ↔ SustainedChurn drops entry.exe

/-- The start of the window that ends at a time. -/
def churnReach (now : Int) : Int := now - 600000000000

theorem churn_reach_monotone : Monotone churnReach := by
  intro earlier later ordered
  simpa [churnReach] using ordered

/-- The filter holds exactly these drops. -/
structure HoldsDrops (filter : ProcessNoiseFilter) (drops : List ProcessDrop) : Prop where
  counts : ∀ name, filter.droppedByBasename.lookup name =
    if name ∈ dropNames drops then some (UInt32.ofNat (dropCount drops name)) else none
  hits : ∀ name, ((filter.recentHits.lookup name).getD []).map Instant.nanos =
    SlidingWindow.queueAfter churnReach (dropTimes drops name)
  sustained : ∀ name, name ∈ filter.sustained ↔
    ∃ before, before <+: dropTimes drops name ∧
      churnSustainedHits ≤ (SlidingWindow.queueAfter churnReach before).length

theorem holds_no_drops (now : Instant) : HoldsDrops ⟨now, ∅, ∅, ∅⟩ [] where
  counts name := by simp [dropNames]
  hits name := by simp [dropTimes, SlidingWindow.queueAfter]
  sustained name := by
    have few : ¬churnSustainedHits ≤ 0 := by decide
    simp [dropTimes, SlidingWindow.queueAfter, few]

theorem drop_times_concat (drops : List ProcessDrop) (basename name : String) (now : Instant) :
    dropTimes (drops ++ [(basename, now)]) name =
      if basename = name then dropTimes drops name ++ [now.nanos] else dropTimes drops name := by
  by_cases same : basename = name
  · simp [dropTimes, same]
  · simp [dropTimes, same]

theorem mem_drop_names_concat (drops : List ProcessDrop) (basename name : String)
    (now : Instant) :
    name ∈ dropNames (drops ++ [(basename, now)]) ↔ name ∈ dropNames drops ∨ name = basename := by
  simp [dropNames]

theorem drop_count_concat (drops : List ProcessDrop) (basename name : String) (now : Instant) :
    dropCount (drops ++ [(basename, now)]) name =
      dropCount drops name + if basename = name then 1 else 0 := by
  rw [dropCount, dropNames, List.map_append, List.count_append]
  by_cases same : basename = name
  · simp [dropCount, dropNames, same]
  · simp [dropCount, dropNames, same]

theorem hits_after_nanos (hits : List Instant) (now : Instant) :
    (ProcessNoiseFilter.hitsAfter hits now).map Instant.nanos =
      SlidingWindow.arrive churnReach (hits.map Instant.nanos) now.nanos := by
  rw [ProcessNoiseFilter.hitsAfter, SlidingWindow.arrive]
  have joined : hits.map Instant.nanos ++ [now.nanos] = (hits ++ [now]).map Instant.nanos := by
    simp
  rw [joined, List.dropWhile_map]
  congr 2
  funext front
  apply decide_eq_decide.mpr
  simp only [churnReach, saturatingDurationSince, churnSustainedWindow]
  omega

theorem keep_after_counting_holds {filter : ProcessNoiseFilter} {drops : List ProcessDrop}
    (holds : HoldsDrops filter drops) (basename : String) (now : Instant) :
    HoldsDrops (filter.keepAfterCounting basename now).1 (drops ++ [(basename, now)]) where
  counts name := by
    simp only [ProcessNoiseFilter.keepAfterCounting, mem_drop_names_concat, drop_count_concat]
    by_cases same : name = basename
    · subst same
      rw [AList.lookup_insert, holds.counts, if_pos rfl, if_pos (Or.inr rfl), UInt32.ofNat_add]
      by_cases known : name ∈ dropNames drops
      · rw [if_pos known]
        rfl
      · have none : dropCount drops name = 0 := List.count_eq_zero.mpr known
        rw [if_neg known, none]
        rfl
    · rw [AList.lookup_insert_ne same, holds.counts, if_neg (Ne.symm same)]
      simp [same]
  hits name := by
    simp only [ProcessNoiseFilter.keepAfterCounting]
    rw [drop_times_concat]
    by_cases same : basename = name
    · subst same
      rw [AList.lookup_insert, Option.getD_some, hits_after_nanos, holds.hits, if_pos rfl,
        SlidingWindow.queueAfter, SlidingWindow.queueAfter, List.foldl_append]
      rfl
    · rw [AList.lookup_insert_ne (Ne.symm same), if_neg same, holds.hits]
  sustained name := by
    have length : (ProcessNoiseFilter.hitsAfter ((filter.recentHits.lookup basename).getD [])
        now).length =
        (SlidingWindow.queueAfter churnReach (dropTimes drops basename ++ [now.nanos])).length := by
      rw [← List.length_map Instant.nanos, hits_after_nanos, holds.hits, SlidingWindow.queueAfter,
        SlidingWindow.queueAfter, List.foldl_append]
      rfl
    simp only [ProcessNoiseFilter.keepAfterCounting, length]
    rw [drop_times_concat]
    by_cases same : basename = name
    · subst same
      have earlier := holds.sustained basename
      rw [if_pos rfl]
      simp only [List.prefix_concat_iff, or_and_right, exists_or, exists_eq_left, ← earlier]
      split_ifs with crowded
      · simp [crowded]
      · simp [crowded]
    · rw [if_neg same, ← holds.sustained]
      split_ifs
      · simp [Ne.symm same]
      · rfl

theorem mem_counts {filter : ProcessNoiseFilter} {drops : List ProcessDrop}
    (holds : HoldsDrops filter drops) (name : String) :
    name ∈ filter.droppedByBasename.keys ↔ name ∈ dropNames drops := by
  rw [← AList.mem_keys, ← AList.lookup_isSome, holds.counts]
  split_ifs with known
  · simp [known]
  · simp [known]

theorem names_perm {filter : ProcessNoiseFilter} {drops : List ProcessDrop}
    (holds : HoldsDrops filter drops) :
    filter.droppedByBasename.keys.Perm (dropNames drops).dedup := by
  apply (List.perm_ext_iff_of_nodup filter.droppedByBasename.keys_nodup
    (List.nodup_dedup _)).mpr
  intro name
  rw [mem_counts holds, List.mem_dedup]

theorem counted_keys {filter : ProcessNoiseFilter} {drops : List ProcessDrop}
    (holds : HoldsDrops filter drops) :
    filter.counted = filter.droppedByBasename.keys.map fun name =>
      (name, UInt32.ofNat (dropCount drops name)) := by
  rw [ProcessNoiseFilter.counted, AList.keys, List.keys, List.map_map]
  apply List.map_congr_left
  intro entry member
  have found : entry.2 ∈ filter.droppedByBasename.lookup entry.1 := AList.mem_lookup_iff.mpr member
  rw [holds.counts] at found
  split_ifs at found with known
  · exact congrArg (entry.1, ·) (Option.some.inj found).symm
  · cases found

theorem sum_of_nat (names : List String) (count : String → Nat) :
    (names.map fun name => UInt32.ofNat (count name)).sum =
      UInt32.ofNat (names.map count).sum := by
  induction names with
  | nil => rfl
  | cons name names induction =>
      rw [List.map_cons, List.sum_cons, induction, List.map_cons, List.sum_cons, UInt32.ofNat_add]

theorem counted_sum {filter : ProcessNoiseFilter} {drops : List ProcessDrop}
    (holds : HoldsDrops filter drops) :
    (filter.counted.map Prod.snd).sum = UInt32.ofNat drops.length := by
  have total : (((dropNames drops).dedup).map (dropCount drops)).sum = drops.length := by
    have counts := List.sum_map_count_dedup_eq_length (dropNames drops)
    rw [dropNames, List.length_map] at counts
    exact counts
  rw [counted_keys holds, List.map_map]
  change (filter.droppedByBasename.keys.map fun name => UInt32.ofNat (dropCount drops name)).sum = _
  rw [sum_of_nat, ((names_perm holds).map (dropCount drops)).sum_eq, total]

theorem drop_count_le (drops : List ProcessDrop) (name : String) :
    dropCount drops name ≤ drops.length := by
  have most := List.count_le_length (a := name) (l := dropNames drops)
  rw [dropNames, List.length_map] at most
  exact most

theorem ranks_iff (left right : String × UInt32) :
    ProcessNoiseFilter.Ranks left right ↔
      LargestFirst (fun entry : String × UInt32 => entry.2.toNat) Prod.fst left right := by
  rw [ProcessNoiseFilter.Ranks, LargestFirst, UInt32.lt_iff_toNat_lt, UInt32.toNat_inj]

instance : Std.Total ProcessNoiseFilter.Ranks where
  total left right := by
    rw [ranks_iff, ranks_iff]
    exact Std.Total.total left right

instance : IsTrans (String × UInt32) ProcessNoiseFilter.Ranks where
  trans first second third := by
    rw [ranks_iff, ranks_iff, ranks_iff]
    exact IsTrans.trans first second third

theorem sorted_counts {filter : ProcessNoiseFilter} {drops : List ProcessDrop}
    (holds : HoldsDrops filter drops) (bounded : drops.length < 4294967296) :
    filter.counted.insertionSort ProcessNoiseFilter.Ranks =
      (rankedNames drops).map fun name => (name, UInt32.ofNat (dropCount drops name)) := by
  have exact : ∀ name, (UInt32.ofNat (dropCount drops name)).toNat = dropCount drops name := by
    intro name
    have most := drop_count_le drops name
    exact UInt32.toNat_ofNat_of_lt' (by rw [UInt32.size]; omega)
  have ranked : ∀ left right, LargestFirst (dropCount drops) id left right →
      ProcessNoiseFilter.Ranks (left, UInt32.ofNat (dropCount drops left))
        (right, UInt32.ofNat (dropCount drops right)) := by
    intro left right first
    rw [ranks_iff]
    simp only [LargestFirst, exact]
    exact first
  refine List.Perm.eq_of_pairwise ?_ (List.pairwise_insertionSort ProcessNoiseFilter.Ranks _) ?_ ?_
  · intro left right leftMember rightMember first second
    have names := largest_first_antisymm ((ranks_iff left right).mp first)
      ((ranks_iff right left).mp second)
    have ⟨rightName, _, rightSame⟩ := List.mem_map.mp rightMember
    rw [List.mem_insertionSort, counted_keys holds] at leftMember
    have ⟨leftName, _, leftSame⟩ := List.mem_map.mp leftMember
    subst leftSame rightSame
    exact congrArg (fun name => (name, UInt32.ofNat (dropCount drops name))) names
  · rw [List.pairwise_map]
    apply List.Pairwise.imp _ (List.pairwise_insertionSort (LargestFirst (dropCount drops) id) _)
    intro left right
    exact ranked left right
  · rw [counted_keys holds]
    apply (List.perm_insertionSort _ _).trans
    apply List.Perm.map
    exact (names_perm holds).trans (List.perm_insertionSort _ _).symm

/-- Ten minutes with thirty drops, seen by the queue of hits or by the windows. -/
theorem sustained_iff {filter : ProcessNoiseFilter} {drops : List ProcessDrop}
    (holds : HoldsDrops filter drops) (name : String)
    (sorted : (drops.map fun drop => drop.2.nanos).Pairwise (· ≤ ·)) :
    name ∈ filter.sustained ↔ SustainedChurn drops name := by
  have ordered : (dropTimes drops name).Pairwise (· ≤ ·) :=
    sorted.sublist (List.filter_sublist.map _)
  rw [holds.sustained,
    SlidingWindow.crowded_iff churn_reach_monotone ordered (by decide)]
  constructor
  · rintro ⟨ends, crowded⟩
    refine ⟨churnReach ends, ?_⟩
    have same : churnReach ends + 600000000000 = ends := by simp [churnReach]
    rw [same]
    exact crowded
  · rintro ⟨opens, crowded⟩
    refine ⟨opens + 600000000000, ?_⟩
    have same : churnReach (opens + 600000000000) = opens := by simp [churnReach]
    rw [SlidingWindow.inside, same]
    exact crowded

/-- A flush of no drops says nothing; any other reports them and starts over. -/
theorem take_summary_holds {filter : ProcessNoiseFilter} {drops : List ProcessDrop}
    (holds : HoldsDrops filter drops) (now : Instant) (bounded : drops.length < 4294967296)
    (sorted : (drops.map fun drop => drop.2.nanos).Pairwise (· ≤ ·)) :
    HoldsDrops (filter.takeSummary now).1 [] ∧
      ((drops = [] ∧ (filter.takeSummary now).2 = none) ∨
        ∃ windowMs dropped distinctExes top,
          (filter.takeSummary now).2 =
            some (.processChurnSummary windowMs dropped distinctExes top) ∧
          SummaryOf drops dropped distinctExes top) := by
  have total := counted_sum holds
  by_cases none : drops = []
  · subst none
    have zero : (filter.counted.map Prod.snd).sum = 0 := total
    constructor
    · simp only [ProcessNoiseFilter.takeSummary, zero, if_true]
      exact ⟨holds.counts, holds.hits, holds.sustained⟩
    · left
      simp [ProcessNoiseFilter.takeSummary, zero]
  · have some : ¬(filter.counted.map Prod.snd).sum = 0 := by
      rw [total, ← UInt32.toNat_inj, UInt32.toNat_ofNat_of_lt' (by rw [UInt32.size]; omega)]
      simpa using none
    simp only [ProcessNoiseFilter.takeSummary, if_neg some]
    refine ⟨holds_no_drops now, Or.inr ⟨_, _, _, _, rfl, ?_⟩⟩
    have names : filter.counted.length = (dropNames drops).dedup.length := by
      rw [counted_keys holds, List.length_map]
      exact (names_perm holds).length_eq
    have fewer : (dropNames drops).dedup.length ≤ drops.length := by
      have most := (List.dedup_sublist (dropNames drops)).length_le
      rw [dropNames, List.length_map] at most
      exact most
    constructor
    · rw [total, UInt32.toNat_ofNat_of_lt' (by rw [UInt32.size]; omega)]
    · rw [names, UInt32.toNat_ofNat_of_lt' (by rw [UInt32.size]; omega)]
    · rw [sorted_counts holds bounded, List.map_map, ← List.map_take, List.map_map]
      apply List.map_congr_left
      intro name _
      have most := drop_count_le drops name
      change (name, (UInt32.ofNat (dropCount drops name)).toNat) = _
      rw [UInt32.toNat_ofNat_of_lt' (by rw [UInt32.size]; omega)]
    · intro entry member
      have ⟨counted, _, same⟩ := List.mem_map.mp member
      subst same
      rw [decide_eq_true_iff]
      exact sustained_iff holds counted.1 sorted

end Gilbreth.Core
