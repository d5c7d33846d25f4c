import Gilbreth.Library.IndexPicks

/-!
# Selecting pattern candidates

Three greedy passes stand between the ranked candidates and the strip: duplicates
are dropped, no category takes more than its slots while others wait, and the strip
shows as many categories as it has room for.
-/

set_option autoImplicit false

namespace Gilbreth.Read

open Picks

/-- A candidate without its sort score, which only the ranking before reads. -/
structure PatternCandidate where
  category : String
  kind : String
  dedupApps : List String
  band : String
  title : String
  evidence : String
  why : String
  suggestedNextStep : String
  supportCount : Int
  supportSessions : Int
  supportDays : Int
deriving DecidableEq

def topNAnalytics : Nat := 25

def categorySlotCap : Nat := 6

section Dedupe

def pairCollapse : List String := ["focus_churn", "sequence_routine", "fragmentation"]

/-- A candidate about two apps in one of the pair-collapsing categories. -/
def PatternCandidate.collapses (candidate : PatternCandidate) : Bool :=
  candidate.dedupApps.length == 2 && pairCollapse.contains candidate.category

/-- The loop of `dedupe_candidates` with its two sets. -/
def dedupeFrom (seenCategoryCluster : List (String × List String))
    (seenPair : List (List String)) : List PatternCandidate → List PatternCandidate
  | [] => []
  | candidate :: rest =>
      if candidate.dedupApps = [] then
        candidate :: dedupeFrom seenCategoryCluster seenPair rest
      else if candidate.collapses ∧ candidate.dedupApps ∈ seenPair then
        dedupeFrom seenCategoryCluster seenPair rest
      else
        let seenPair := if candidate.collapses then candidate.dedupApps :: seenPair else seenPair
        let categoryKey := (candidate.category, candidate.dedupApps)
        if categoryKey ∈ seenCategoryCluster then dedupeFrom seenCategoryCluster seenPair rest
        else candidate :: dedupeFrom (categoryKey :: seenCategoryCluster) seenPair rest

def dedupeCandidates (ranked : List PatternCandidate) : List PatternCandidate :=
  dedupeFrom [] [] ranked

/-- What a candidate is a duplicate by: nothing without apps, the two apps in the
pair-collapsing categories together, else the apps in its own category. -/
def PatternCandidate.duplicateKey (candidate : PatternCandidate) :
    Option (Option String × List String) :=
  if candidate.dedupApps = [] then none
  else if candidate.collapses then some (none, candidate.dedupApps)
  else some (some candidate.category, candidate.dedupApps)

/-- What the two sets hold once the candidates before are seen. -/
structure DedupeSeen (seen : List PatternCandidate)
    (seenCategoryCluster : List (String × List String)) (seenPair : List (List String)) :
    Prop where
  pair : ∀ apps, apps ∈ seenPair ↔ ∃ earlier ∈ seen, earlier.duplicateKey = some (none, apps)
  cluster : ∀ candidate : PatternCandidate, ¬candidate.collapses →
    ((candidate.category, candidate.dedupApps) ∈ seenCategoryCluster ↔
      ∃ earlier ∈ seen, earlier.duplicateKey = some (some candidate.category, candidate.dedupApps))
  collapsed : ∀ candidate : PatternCandidate, candidate.collapses →
    (candidate.category, candidate.dedupApps) ∈ seenCategoryCluster →
      candidate.dedupApps ∈ seenPair

variable {seen : List PatternCandidate} {seenCategoryCluster : List (String × List String)}
  {seenPair : List (List String)} {candidate : PatternCandidate}

theorem duplicate_key_collapsing (apps : candidate.dedupApps ≠ []) (pair : candidate.collapses) :
    candidate.duplicateKey = some (none, candidate.dedupApps) := by
  rw [PatternCandidate.duplicateKey, if_neg apps, if_pos pair]

theorem duplicate_key_clustering (apps : candidate.dedupApps ≠ [])
    (single : ¬candidate.collapses) :
    candidate.duplicateKey = some (some candidate.category, candidate.dedupApps) := by
  rw [PatternCandidate.duplicateKey, if_neg apps, if_neg single]

theorem DedupeSeen.skip (known : DedupeSeen seen seenCategoryCluster seenPair)
    (old : ∀ key ∈ candidate.duplicateKey, ∃ earlier ∈ seen, earlier.duplicateKey = some key) :
    DedupeSeen (seen ++ [candidate]) seenCategoryCluster seenPair := by
  have same : ∀ key, (∃ earlier ∈ seen ++ [candidate], earlier.duplicateKey = some key) ↔
      ∃ earlier ∈ seen, earlier.duplicateKey = some key := by
    intro key
    constructor
    · rintro ⟨earlier, listed, found⟩
      cases List.mem_append.mp listed with
      | inl before => exact ⟨earlier, before, found⟩
      | inr single =>
          rw [List.mem_singleton.mp single] at found
          exact old key found
    · rintro ⟨earlier, listed, found⟩
      exact ⟨earlier, List.mem_append_left _ listed, found⟩
  constructor
  · intro apps
    rw [known.pair, same]
  · intro other single
    rw [known.cluster other single, same]
  · exact known.collapsed

theorem exists_seen_concat (key : Option (Option String × List String)) :
    (∃ earlier ∈ seen ++ [candidate], earlier.duplicateKey = key) ↔
      (∃ earlier ∈ seen, earlier.duplicateKey = key) ∨ candidate.duplicateKey = key := by
  simp only [List.mem_append, List.mem_singleton, or_and_right, exists_or, exists_eq_left]

theorem collapses_of_key {other : PatternCandidate}
    (same : (other.category, other.dedupApps) = (candidate.category, candidate.dedupApps)) :
    candidate.collapses = other.collapses := by
  rcases Prod.mk.inj same with ⟨category, apps⟩
  rw [PatternCandidate.collapses, PatternCandidate.collapses, category, apps]

theorem DedupeSeen.take_pair (known : DedupeSeen seen seenCategoryCluster seenPair)
    (apps : candidate.dedupApps ≠ []) (pair : candidate.collapses) :
    DedupeSeen (seen ++ [candidate])
      ((candidate.category, candidate.dedupApps) :: seenCategoryCluster)
      (candidate.dedupApps :: seenPair) := by
  have key := duplicate_key_collapsing apps pair
  constructor
  · intro others
    rw [exists_seen_concat, ← known.pair, key, List.mem_cons]
    simp [or_comm, eq_comm]
  · intro other single
    have distinct : (other.category, other.dedupApps) ≠
        (candidate.category, candidate.dedupApps) :=
      fun same => single (collapses_of_key same ▸ pair)
    rw [exists_seen_concat, ← known.cluster other single, key, List.mem_cons]
    simp [distinct]
  · intro other collapsing listed
    cases List.mem_cons.mp listed with
    | inl same => exact List.mem_cons.mpr (.inl (Prod.ext_iff.mp same).2)
    | inr earlier => exact List.mem_cons_of_mem _ (known.collapsed other collapsing earlier)

theorem DedupeSeen.take_cluster (known : DedupeSeen seen seenCategoryCluster seenPair)
    (apps : candidate.dedupApps ≠ []) (single : ¬candidate.collapses) :
    DedupeSeen (seen ++ [candidate])
      ((candidate.category, candidate.dedupApps) :: seenCategoryCluster) seenPair := by
  have key := duplicate_key_clustering apps single
  constructor
  · intro others
    rw [exists_seen_concat, ← known.pair, key]
    simp
  · intro other otherSingle
    rw [exists_seen_concat, ← known.cluster other otherSingle, key, List.mem_cons]
    simp [or_comm, eq_comm]
  · intro other collapsing listed
    cases List.mem_cons.mp listed with
    | inl same => exact absurd (collapses_of_key same ▸ collapsing) single
    | inr earlier => exact known.collapsed other collapsing earlier

theorem dedupe_from_eq (known : DedupeSeen seen seenCategoryCluster seenPair)
    (rest : List PatternCandidate) :
    dedupeFrom seenCategoryCluster seenPair rest =
      firstFrom PatternCandidate.duplicateKey seen rest := by
  induction rest generalizing seen seenCategoryCluster seenPair with
  | nil => rfl
  | cons candidate rest induction =>
      rw [dedupeFrom, firstFrom]
      by_cases apps : candidate.dedupApps = []
      · have key : candidate.duplicateKey = none := by
          rw [PatternCandidate.duplicateKey, if_pos apps]
        have none_own : ∀ found, found ∉ candidate.duplicateKey := by simp [key]
        have fresh : Fresh PatternCandidate.duplicateKey seen candidate :=
          fun found own => absurd own (none_own found)
        rw [if_pos apps, if_pos fresh,
          induction (known.skip fun found own => absurd own (none_own found))]
      · rw [if_neg apps]
        by_cases pair : candidate.collapses
        · have key := duplicate_key_collapsing apps pair
          have fresh_iff : Fresh PatternCandidate.duplicateKey seen candidate ↔
              candidate.dedupApps ∉ seenPair := by
            rw [known.pair, Fresh, key]
            simp
          by_cases taken : candidate.dedupApps ∈ seenPair
          · have stale : ¬Fresh PatternCandidate.duplicateKey seen candidate :=
              fun fresh => fresh_iff.mp fresh taken
            have old : ∀ found ∈ candidate.duplicateKey,
                ∃ earlier ∈ seen, earlier.duplicateKey = some found := by
              intro found own
              rw [key] at own
              cases own
              exact (known.pair _).mp taken
            rw [if_pos ⟨pair, taken⟩, if_neg stale, induction (known.skip old)]
          · have unseen : (candidate.category, candidate.dedupApps) ∉ seenCategoryCluster :=
              fun listed => taken (known.collapsed candidate pair listed)
            rw [if_neg fun both => taken both.2, if_pos (fresh_iff.mpr taken)]
            simp only [if_pos pair, if_neg unseen]
            rw [induction (known.take_pair apps pair)]
        · have key := duplicate_key_clustering apps pair
          have fresh_iff : Fresh PatternCandidate.duplicateKey seen candidate ↔
              (candidate.category, candidate.dedupApps) ∉ seenCategoryCluster := by
            rw [known.cluster candidate pair, Fresh, key]
            simp
          rw [if_neg fun both => pair both.1]
          simp only [if_neg pair]
          by_cases taken : (candidate.category, candidate.dedupApps) ∈ seenCategoryCluster
          · have stale : ¬Fresh PatternCandidate.duplicateKey seen candidate :=
              fun fresh => fresh_iff.mp fresh taken
            have old : ∀ found ∈ candidate.duplicateKey,
                ∃ earlier ∈ seen, earlier.duplicateKey = some found := by
              intro found own
              rw [key] at own
              cases own
              exact (known.cluster candidate pair).mp taken
            rw [if_pos taken, if_neg stale, induction (known.skip old)]
          · rw [if_neg taken, if_pos (fresh_iff.mpr taken),
              induction (known.take_cluster apps pair)]

/-- Dropping duplicates keeps, in order, the first of every key and all without one. -/
theorem dedupe_candidates_eq (ranked : List PatternCandidate) :
    dedupeCandidates ranked = firstOfKey PatternCandidate.duplicateKey ranked := by
  rw [first_of_key_eq]
  apply dedupe_from_eq
  constructor
  · simp
  · simp
  · simp

end Dedupe

section Slots

structure SlotSweep where
  selected : List Nat
  overflow : List Nat
  perCategory : String → Nat

/-- One turn of the loop of `cap_category_slots`. -/
def SlotSweep.visit (sweep : SlotSweep) (entry : PatternCandidate × Nat) : SlotSweep :=
  let count := sweep.perCategory entry.1.category
  if sweep.selected.length < topNAnalytics ∧ count < categorySlotCap then
    { sweep with
      selected := sweep.selected ++ [entry.2]
      perCategory := Function.update sweep.perCategory entry.1.category (count + 1) }
  else { sweep with overflow := sweep.overflow ++ [entry.2] }

def SlotSweep.over (deduped : List PatternCandidate) : SlotSweep :=
  deduped.zipIdx.foldl SlotSweep.visit ⟨[], [], fun _ => 0⟩

def capCategorySlots (deduped : List PatternCandidate) : List PatternCandidate :=
  let sweep := SlotSweep.over deduped
  let backfill := topNAnalytics - sweep.selected.length
  if 0 < backfill ∧ sweep.overflow ≠ [] then
    pickAt (sweep.selected ++ sweep.overflow.take backfill).toFinset deduped
  else sweep.selected.filterMap fun place => deduped[place]?

/-- Fewer candidates of its category come before it than the category has slots. -/
def WithinCap (deduped : List PatternCandidate) (place : Nat) : Prop :=
  ∀ candidate ∈ deduped[place]?,
    (deduped.take place).countP (fun earlier => earlier.category == candidate.category) <
      categorySlotCap

/-- The sweep over the candidates seen. While slots are free, what is selected is what
is within its category's cap. -/
structure SlotsSwept (seen : List PatternCandidate) (sweep : SlotSweep) : Prop where
  order : sweep.selected.Pairwise (· < ·)
  places : (sweep.selected ++ sweep.overflow).Perm (List.range seen.length)
  room : sweep.selected.length ≤ topNAnalytics
  counted : ∀ category, sweep.perCategory category =
    (sweep.selected.filterMap fun place => seen[place]?).countP fun candidate =>
      candidate.category == category
  capped : ∀ category, sweep.perCategory category ≤ categorySlotCap
  fair : sweep.selected.length < topNAnalytics →
    (∀ place < seen.length, place ∈ sweep.selected ↔ WithinCap seen place) ∧
      ∀ category, sweep.perCategory category =
        min categorySlotCap (seen.countP fun candidate => candidate.category == category)

variable {seen : List PatternCandidate} {sweep : SlotSweep} {candidate : PatternCandidate}

theorem SlotsSwept.inside (swept : SlotsSwept seen sweep) :
    ∀ place ∈ sweep.selected, place < seen.length :=
  fun _ listed => List.mem_range.mp (swept.places.mem_iff.mp (List.mem_append_left _ listed))

theorem within_cap_concat {place : Nat} (inside : place < seen.length) :
    WithinCap (seen ++ [candidate]) place ↔ WithinCap seen place := by
  rw [WithinCap, WithinCap, List.getElem?_append_left inside,
    List.take_append_of_le_length inside.le]

theorem within_cap_last :
    WithinCap (seen ++ [candidate]) seen.length ↔
      seen.countP (fun earlier => earlier.category == candidate.category) < categorySlotCap := by
  simp [WithinCap]

theorem SlotsSwept.lookups (swept : SlotsSwept seen sweep) (candidate : PatternCandidate) :
    sweep.selected.filterMap (fun place => (seen ++ [candidate])[place]?) =
      sweep.selected.filterMap fun place => seen[place]? := by
  apply List.filterMap_congr
  intro place listed
  exact List.getElem?_append_left (swept.inside place listed)

theorem count_concat (category : String) :
    (seen ++ [candidate]).countP (fun other => other.category == category) =
      seen.countP (fun other => other.category == category) +
        if candidate.category = category then 1 else 0 := by
  simp [List.countP_append, List.countP_cons]

theorem range_concat : List.range (seen ++ [candidate]).length =
    List.range seen.length ++ [seen.length] := by
  rw [List.length_append, List.length_singleton, List.range_succ]

theorem SlotsSwept.select (swept : SlotsSwept seen sweep)
    (unfilled : sweep.selected.length < topNAnalytics)
    (slot : sweep.perCategory candidate.category < categorySlotCap) :
    SlotsSwept (seen ++ [candidate])
      { sweep with
        selected := sweep.selected ++ [seen.length]
        perCategory := Function.update sweep.perCategory candidate.category
          (sweep.perCategory candidate.category + 1) } := by
  have fair := swept.fair unfilled
  constructor
  · apply List.pairwise_append.mpr
    refine ⟨swept.order, List.pairwise_singleton _ _, ?_⟩
    intro place listed last single
    rw [List.mem_singleton.mp single]
    exact swept.inside place listed
  · rw [range_concat, List.append_assoc]
    have moved : (sweep.selected ++ ([seen.length] ++ sweep.overflow)).Perm
        (sweep.selected ++ sweep.overflow ++ [seen.length]) := by
      rw [List.append_assoc]
      exact List.perm_append_comm.append_left _
    exact moved.trans (swept.places.append_right _)
  · rw [List.length_append, List.length_singleton]
    omega
  · intro category
    dsimp only
    rw [List.filterMap_append, swept.lookups, List.countP_append, ← swept.counted]
    by_cases own : category = candidate.category
    · subst own
      simp
    · rw [Function.update_of_ne own]
      simp [Ne.symm own]
  · intro category
    dsimp only
    by_cases own : category = candidate.category
    · rw [own, Function.update_self]
      omega
    · rw [Function.update_of_ne own]
      exact swept.capped category
  · intro _
    constructor
    · intro place inside
      rw [List.length_append, List.length_singleton] at inside
      by_cases last : place = seen.length
      · subst last
        have short := fair.2 candidate.category
        rw [within_cap_last]
        simp only [List.mem_append, List.mem_singleton, or_true, true_iff]
        omega
      · have earlier : place < seen.length := by omega
        rw [within_cap_concat earlier, ← fair.1 place earlier]
        simp [last]
    · intro category
      have before := fair.2 category
      dsimp only
      rw [count_concat]
      by_cases own : category = candidate.category
      · subst own
        rw [Function.update_self, if_pos rfl]
        omega
      · rw [Function.update_of_ne own, if_neg (Ne.symm own)]
        exact before

theorem SlotsSwept.pass (swept : SlotsSwept seen sweep)
    (taken : ¬(sweep.selected.length < topNAnalytics ∧
      sweep.perCategory candidate.category < categorySlotCap)) :
    SlotsSwept (seen ++ [candidate])
      { sweep with overflow := sweep.overflow ++ [seen.length] } := by
  constructor
  · exact swept.order
  · rw [range_concat, ← List.append_assoc]
    exact swept.places.append_right _
  · exact swept.room
  · intro category
    dsimp only
    rw [swept.lookups]
    exact swept.counted category
  · exact swept.capped
  · intro unfilled
    have fair := swept.fair unfilled
    have full : categorySlotCap ≤ sweep.perCategory candidate.category := by
      by_contra low
      exact taken ⟨unfilled, not_le.mp low⟩
    constructor
    · intro place inside
      rw [List.length_append, List.length_singleton] at inside
      by_cases last : place = seen.length
      · subst last
        have tight := fair.2 candidate.category
        have outside : seen.length ∉ sweep.selected :=
          fun listed => absurd (swept.inside _ listed) (lt_irrefl _)
        rw [within_cap_last]
        apply iff_of_false outside
        omega
      · have earlier : place < seen.length := by omega
        rw [within_cap_concat earlier]
        exact fair.1 place earlier
    · intro category
      have before := fair.2 category
      dsimp only
      rw [count_concat]
      by_cases own : candidate.category = category
      · subst own
        rw [if_pos rfl]
        omega
      · rw [if_neg own]
        exact before

theorem SlotsSwept.visit (swept : SlotsSwept seen sweep) (candidate : PatternCandidate) :
    SlotsSwept (seen ++ [candidate]) (sweep.visit (candidate, seen.length)) := by
  rw [SlotSweep.visit]
  dsimp only
  split
  · rename_i free
    exact swept.select free.1 free.2
  · rename_i taken
    exact swept.pass taken

theorem slot_sweep_swept (deduped : List PatternCandidate) :
    SlotsSwept deduped (SlotSweep.over deduped) := by
  induction deduped using List.reverseRecOn with
  | nil =>
      constructor <;> simp [SlotSweep.over, topNAnalytics]
  | append_singleton seen candidate induction =>
      have step : SlotSweep.over (seen ++ [candidate]) =
          (SlotSweep.over seen).visit (candidate, seen.length) := by
        rw [SlotSweep.over, List.zipIdx_append, List.foldl_append]
        simp [SlotSweep.over]
      rw [step]
      exact induction.visit candidate

/-- As many candidates as there are slots for, and none over its category's cap while
one within its own waits. -/
theorem cap_category_slots_spec (deduped : List PatternCandidate) :
    ∃ chosen : Finset Nat, chosen ⊆ Finset.range deduped.length ∧
      chosen.card = min deduped.length topNAnalytics ∧
      capCategorySlots deduped = pickAt chosen deduped ∧
      ((∃ category, categorySlotCap < (capCategorySlots deduped).countP fun candidate =>
          candidate.category == category) →
        ∀ place < deduped.length, WithinCap deduped place → place ∈ chosen) := by
  have swept := slot_sweep_swept deduped
  rw [capCategorySlots]
  generalize SlotSweep.over deduped = sweep at swept
  have total := swept.places.length_eq
  have distinct := swept.places.nodup_iff.mpr List.nodup_range
  have picked := filter_map_places swept.order swept.inside
  rw [List.length_append, List.length_range] at total
  by_cases unfilled : sweep.selected.length < topNAnalytics
  · have fair := swept.fair unfilled
    have taken : (sweep.selected ++
        sweep.overflow.take (topNAnalytics - sweep.selected.length)).Sublist
          (sweep.selected ++ sweep.overflow) :=
      (List.Sublist.refl _).append (List.take_sublist _ _)
    refine ⟨(sweep.selected ++ sweep.overflow.take
      (topNAnalytics - sweep.selected.length)).toFinset, ?_, ?_, ?_, ?_⟩
    · intro place listed
      have member := taken.subset (List.mem_toFinset.mp listed)
      exact Finset.mem_range.mpr (List.mem_range.mp (swept.places.mem_iff.mp member))
    · rw [List.toFinset_card_of_nodup (distinct.sublist taken), List.length_append,
        List.length_take]
      omega
    · by_cases none : sweep.overflow = []
      · rw [if_neg fun both => both.2 none, none, List.take_nil, List.append_nil, picked]
      · rw [if_pos ⟨by omega, none⟩]
    · intro _ place inside within
      rw [List.mem_toFinset, List.mem_append]
      exact .inl ((fair.1 place inside).mpr within)
  · have full : sweep.selected.length = topNAnalytics := le_antisymm swept.room (by omega)
    have filled : ¬(0 < topNAnalytics - sweep.selected.length ∧ sweep.overflow ≠ []) := by omega
    refine ⟨sweep.selected.toFinset, ?_, ?_, ?_, ?_⟩
    · intro place listed
      exact Finset.mem_range.mpr (swept.inside place (List.mem_toFinset.mp listed))
    · rw [List.toFinset_card_of_nodup (distinct.sublist (List.sublist_append_left _ _))]
      omega
    · rw [if_neg filled, picked]
    · rintro ⟨category, exceeds⟩
      rw [if_neg filled, ← swept.counted] at exceeds
      exact absurd (swept.capped category) (not_le.mpr exceeds)

end Slots

section Display

structure PatternDisplay where
  strip : List PatternCandidate
  remainder : List PatternCandidate
deriving DecidableEq

structure StripSweep where
  seenCategories : List String
  stripIndices : Finset Nat

/-- One turn of the first loop of `select_pattern_display`. -/
def StripSweep.visit (limit : Nat) (sweep : StripSweep) (entry : PatternCandidate × Nat) :
    StripSweep :=
  if entry.1.category ∈ sweep.seenCategories then sweep
  else
    { seenCategories := entry.1.category :: sweep.seenCategories
      stripIndices :=
        if sweep.stripIndices.card < limit then insert entry.2 sweep.stripIndices
        else sweep.stripIndices }

/-- The second loop, which breaks once the strip is full. -/
def fillStrip (limit : Nat) (stripIndices : Finset Nat) : List Nat → Finset Nat
  | [] => stripIndices
  | index :: rest =>
      if limit ≤ stripIndices.card then stripIndices
      else fillStrip limit (insert index stripIndices) rest

def stripPlaces (candidates : List PatternCandidate) (limit : Nat) : Finset Nat :=
  fillStrip limit (candidates.zipIdx.foldl (StripSweep.visit limit) ⟨[], ∅⟩).stripIndices
    (List.range candidates.length)

def selectPatternDisplay (candidates : List PatternCandidate) (limit : Nat) : PatternDisplay :=
  if candidates = [] then ⟨[], []⟩
  else
    { strip := pickAt (stripPlaces candidates limit) candidates
      remainder := candidates.zipIdx.filterMap fun entry =>
        if entry.2 ∈ stripPlaces candidates limit then none else some entry.1 }

/-- The first loop over the candidates seen: the strip shows one of each category, and
each of them while it has room. -/
structure StripSwept (limit : Nat) (seen : List PatternCandidate) (sweep : StripSweep) :
    Prop where
  known : ∀ category, category ∈ sweep.seenCategories ↔
    category ∈ seen.map PatternCandidate.category
  inside : sweep.stripIndices ⊆ Finset.range seen.length
  room : sweep.stripIndices.card ≤ limit
  distinct : ((pickAt sweep.stripIndices seen).map PatternCandidate.category).Nodup
  shown : sweep.stripIndices.card < limit → ∀ category ∈ seen.map PatternCandidate.category,
    category ∈ (pickAt sweep.stripIndices seen).map PatternCandidate.category

variable {limit : Nat} {seen : List PatternCandidate} {sweep : StripSweep}

theorem StripSwept.last_outside (swept : StripSwept limit seen sweep) :
    seen.length ∉ sweep.stripIndices :=
  fun listed => absurd (Finset.mem_range.mp (swept.inside listed)) (lt_irrefl _)

theorem pick_insert_last (chosen : Finset Nat) (seen : List PatternCandidate)
    (candidate : PatternCandidate) :
    pickAt (insert seen.length chosen) (seen ++ [candidate]) =
      pickAt chosen seen ++ [candidate] := by
  rw [pick_at_concat, if_pos (Finset.mem_insert_self _ _)]
  congr 1
  apply pick_at_congr
  intro place bound
  have other : place ≠ seen.length := by omega
  simp [other]

theorem StripSwept.visit (swept : StripSwept limit seen sweep) (candidate : PatternCandidate) :
    StripSwept limit (seen ++ [candidate]) (sweep.visit limit (candidate, seen.length)) := by
  have grown : Finset.range seen.length ⊆ Finset.range (seen ++ [candidate]).length := by
    rw [List.length_append]
    exact Finset.range_mono (Nat.le_add_right _ _)
  have kept : pickAt sweep.stripIndices (seen ++ [candidate]) = pickAt sweep.stripIndices seen := by
    rw [pick_at_concat, if_neg swept.last_outside, List.append_nil]
  rw [StripSweep.visit]
  dsimp only
  by_cases old : candidate.category ∈ sweep.seenCategories
  · have before := (swept.known _).mp old
    rw [if_pos old]
    constructor
    · intro category
      rw [swept.known, List.map_append, List.mem_append]
      constructor
      · exact .inl
      · rintro (earlier | single)
        · exact earlier
        · rw [List.mem_singleton.mp single]
          exact before
    · exact swept.inside.trans grown
    · exact swept.room
    · rw [kept]
      exact swept.distinct
    · intro unfilled category listed
      rw [List.map_append, List.mem_append] at listed
      rw [kept]
      rcases listed with earlier | single
      · exact swept.shown unfilled category earlier
      · rw [List.mem_singleton.mp single]
        exact swept.shown unfilled _ before
  · have fresh : candidate.category ∉ seen.map PatternCandidate.category :=
      fun listed => old ((swept.known _).mpr listed)
    have known : ∀ category, category ∈ candidate.category :: sweep.seenCategories ↔
        category ∈ (seen ++ [candidate]).map PatternCandidate.category := by
      intro category
      rw [List.mem_cons, swept.known, List.map_append, List.mem_append, List.map_singleton,
        List.mem_singleton, or_comm]
    rw [if_neg old]
    by_cases free : sweep.stripIndices.card < limit
    · simp only [if_pos free]
      have picked := pick_insert_last sweep.stripIndices seen candidate
      have single : candidate.category ∉
          (pickAt sweep.stripIndices seen).map PatternCandidate.category :=
        fun listed => fresh (((pick_at_sublist _ _).map _).subset listed)
      constructor
      · exact known
      · apply Finset.insert_subset _ (swept.inside.trans grown)
        simp
      · dsimp only
        rw [Finset.card_insert_of_notMem swept.last_outside]
        omega
      · dsimp only
        rw [picked, List.map_append, List.nodup_append]
        refine ⟨swept.distinct, List.nodup_singleton _, ?_⟩
        rintro category listed _ last rfl
        rw [List.mem_singleton.mp last] at listed
        exact single listed
      · intro _ category listed
        dsimp only
        rw [picked, List.map_append, List.mem_append]
        rw [List.map_append, List.mem_append] at listed
        rcases listed with earlier | last
        · exact .inl (swept.shown free category earlier)
        · exact .inr last
    · simp only [if_neg free]
      constructor
      · exact known
      · exact swept.inside.trans grown
      · exact swept.room
      · dsimp only
        rw [kept]
        exact swept.distinct
      · intro unfilled
        exact absurd unfilled free

theorem strip_sweep_swept (limit : Nat) (candidates : List PatternCandidate) :
    StripSwept limit candidates
      (candidates.zipIdx.foldl (StripSweep.visit limit) ⟨[], ∅⟩) := by
  induction candidates using List.reverseRecOn with
  | nil => constructor <;> simp [pickAt]
  | append_singleton seen candidate induction =>
      rw [List.zipIdx_append, List.foldl_append]
      simpa using induction.visit candidate

theorem fill_strip_spec {limit : Nat} {stripIndices : Finset Nat}
    (room : stripIndices.card ≤ limit) (places : List Nat) :
    stripIndices ⊆ fillStrip limit stripIndices places ∧
      fillStrip limit stripIndices places ⊆ stripIndices ∪ places.toFinset ∧
      (fillStrip limit stripIndices places).card =
        min limit (stripIndices ∪ places.toFinset).card := by
  induction places generalizing stripIndices with
  | nil =>
      refine ⟨subset_rfl, Finset.subset_union_left, ?_⟩
      rw [fillStrip, List.toFinset_nil, Finset.union_empty]
      omega
  | cons place rest induction =>
      rw [fillStrip]
      split
      · rename_i full
        have more : stripIndices.card ≤ (stripIndices ∪ (place :: rest).toFinset).card :=
          Finset.card_le_card Finset.subset_union_left
        exact ⟨subset_rfl, Finset.subset_union_left, by omega⟩
      · rename_i free
        have grown : (insert place stripIndices).card ≤ limit := by
          have one := Finset.card_insert_le place stripIndices
          omega
        have together : insert place stripIndices ∪ rest.toFinset =
            stripIndices ∪ (place :: rest).toFinset := by
          rw [List.toFinset_cons, Finset.insert_union, Finset.union_insert]
        rcases induction grown with ⟨kept, within, size⟩
        rw [together] at within size
        exact ⟨(Finset.subset_insert _ _).trans kept, within, size⟩

theorem fill_strip_full {limit : Nat} {stripIndices : Finset Nat} (full : limit ≤ stripIndices.card)
    (places : List Nat) : fillStrip limit stripIndices places = stripIndices := by
  cases places with
  | nil => rfl
  | cons place rest => rw [fillStrip, if_pos full]

/-- The strip is full or shows all there is, with as many categories as it can hold. -/
theorem strip_places_spec (candidates : List PatternCandidate) (limit : Nat) :
    stripPlaces candidates limit ⊆ Finset.range candidates.length ∧
      (stripPlaces candidates limit).card = min limit candidates.length ∧
      ((pickAt (stripPlaces candidates limit) candidates).map
        PatternCandidate.category).toFinset.card =
          min limit (candidates.map PatternCandidate.category).toFinset.card := by
  have swept := strip_sweep_swept limit candidates
  rw [stripPlaces]
  generalize candidates.zipIdx.foldl (StripSweep.visit limit) ⟨[], ∅⟩ = sweep at swept
  have filled := fill_strip_spec swept.room (List.range candidates.length)
  have all : sweep.stripIndices ∪ (List.range candidates.length).toFinset =
      Finset.range candidates.length := by
    rw [List.toFinset_range]
    exact Finset.union_eq_right.mpr swept.inside
  rw [all, Finset.card_range] at filled
  have shown := List.toFinset_card_of_nodup swept.distinct
  rw [List.length_map, length_pick_inside swept.inside] at shown
  have fewer : ∀ chosen : Finset Nat,
      ((pickAt chosen candidates).map PatternCandidate.category).toFinset ⊆
        (candidates.map PatternCandidate.category).toFinset := by
    intro chosen category listed
    rw [List.mem_toFinset] at listed ⊢
    exact ((pick_at_sublist _ _).map _).subset listed
  refine ⟨filled.2.1, filled.2.2, ?_⟩
  by_cases full : limit ≤ sweep.stripIndices.card
  · have most := Finset.card_le_card (fewer sweep.stripIndices)
    have exactly := swept.room
    rw [fill_strip_full full, shown]
    omega
  · have unfilled : sweep.stripIndices.card < limit := not_le.mp full
    have every : ((pickAt (fillStrip limit sweep.stripIndices (List.range candidates.length))
        candidates).map PatternCandidate.category).toFinset =
          (candidates.map PatternCandidate.category).toFinset := by
      apply (fewer _).antisymm
      intro category listed
      rw [List.mem_toFinset] at listed ⊢
      rcases List.mem_map.mp (swept.shown unfilled category listed) with ⟨candidate, picked, own⟩
      rcases mem_pick_at.mp picked with ⟨place, taken, found⟩
      exact List.mem_map.mpr ⟨candidate, mem_pick_at.mpr ⟨place, filled.1 taken, found⟩, own⟩
    have once : (candidates.map PatternCandidate.category).toFinset =
        ((pickAt sweep.stripIndices candidates).map PatternCandidate.category).toFinset := by
      apply Finset.Subset.antisymm _ (fewer _)
      intro category listed
      rw [List.mem_toFinset] at listed ⊢
      exact swept.shown unfilled category listed
    rw [every, once, shown]
    omega

theorem select_pattern_display_spec (candidates : List PatternCandidate) (limit : Nat) :
    ∃ chosen : Finset Nat, chosen ⊆ Finset.range candidates.length ∧
      (selectPatternDisplay candidates limit).strip = pickAt chosen candidates ∧
      (selectPatternDisplay candidates limit).remainder =
        pickAt (Finset.range candidates.length \ chosen) candidates ∧
      (selectPatternDisplay candidates limit).strip.length = min limit candidates.length ∧
      ((selectPatternDisplay candidates limit).strip.map
        PatternCandidate.category).toFinset.card =
          min limit (candidates.map PatternCandidate.category).toFinset.card := by
  have spec := strip_places_spec candidates limit
  by_cases none : candidates = []
  · subst none
    refine ⟨∅, ?_, ?_, ?_, ?_, ?_⟩ <;> simp [selectPatternDisplay, pickAt]
  · rw [selectPatternDisplay, if_neg none]
    refine ⟨stripPlaces candidates limit, spec.1, rfl, ?_, ?_, spec.2.2⟩
    · apply List.filterMap_congr
      intro entry listed
      have bound := List.snd_lt_of_mem_zipIdx listed
      by_cases taken : entry.2 ∈ stripPlaces candidates limit
      · simp [taken]
      · have inside : entry.2 < candidates.length := by omega
        simp [taken, inside]
    · dsimp only
      rw [length_pick_inside spec.1, spec.2.1]

end Display

section Selection

/-- Deduplication keeps the first of every key, the cap fills the table and lets no
category crowd out another within its own cap, and the strip is a split of the table
with as many categories as it can hold. -/
theorem candidate_selection_fair :
    (∀ ranked : List PatternCandidate,
      dedupeCandidates ranked = firstOfKey PatternCandidate.duplicateKey ranked) ∧
    (∀ deduped : List PatternCandidate, ∃ chosen : Finset Nat,
      chosen ⊆ Finset.range deduped.length ∧
      capCategorySlots deduped = pickAt chosen deduped ∧
      (capCategorySlots deduped).Sublist deduped ∧
      (capCategorySlots deduped).length = min deduped.length topNAnalytics ∧
      ((∃ category, categorySlotCap < (capCategorySlots deduped).countP fun candidate =>
          candidate.category == category) →
        ∀ place < deduped.length, WithinCap deduped place → place ∈ chosen)) ∧
    ∀ (candidates : List PatternCandidate) (limit : Nat), ∃ chosen : Finset Nat,
      chosen ⊆ Finset.range candidates.length ∧
      (selectPatternDisplay candidates limit).strip = pickAt chosen candidates ∧
      (selectPatternDisplay candidates limit).remainder =
        pickAt (Finset.range candidates.length \ chosen) candidates ∧
      ((selectPatternDisplay candidates limit).strip ++
        (selectPatternDisplay candidates limit).remainder).Perm candidates ∧
      (selectPatternDisplay candidates limit).strip.length = min limit candidates.length ∧
      ((selectPatternDisplay candidates limit).strip.map
        PatternCandidate.category).toFinset.card =
          min limit (candidates.map PatternCandidate.category).toFinset.card := by
  refine ⟨dedupe_candidates_eq, ?_, ?_⟩
  · intro deduped
    rcases cap_category_slots_spec deduped with ⟨chosen, inside, size, picked, fair⟩
    refine ⟨chosen, inside, picked, ?_, ?_, fair⟩
    · rw [picked]
      exact pick_at_sublist _ _
    · rw [picked, length_pick_inside inside, size]
  · intro candidates limit
    rcases select_pattern_display_spec candidates limit with
      ⟨chosen, inside, strip, remainder, size, categories⟩
    refine ⟨chosen, inside, strip, remainder, ?_, size, categories⟩
    rw [strip, remainder]
    apply pick_at_split
    intro place bound
    rw [Finset.mem_sdiff, Finset.mem_range, and_iff_right bound]

private def pairCandidate (category : String) : PatternCandidate where
  category := category
  kind := "routine"
  dedupApps := ["editor.exe", "mail.exe"]
  band := "strong"
  title := ""
  evidence := ""
  why := ""
  suggestedNextStep := ""
  supportCount := 4
  supportSessions := 2
  supportDays := 2

/-- The first sequence of a pair goes when a churn candidate of the pair came before. -/
theorem first_of_its_category_collapsed :
    ¬∀ (ranked : List PatternCandidate) (place : Nat) (candidate : PatternCandidate),
      ranked[place]? = some candidate →
      (∀ earlier ∈ ranked.take place,
        (earlier.category, earlier.dedupApps) ≠ (candidate.category, candidate.dedupApps)) →
      candidate ∈ dedupeCandidates ranked := by
  intro kept
  have listed := kept [pairCandidate "focus_churn", pairCandidate "sequence_routine"] 1
    (pairCandidate "sequence_routine") rfl (by decide)
  exact absurd listed (by decide)

end Selection

end Gilbreth.Read
