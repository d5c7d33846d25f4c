import Gilbreth.Read.WorkEpisodes

/-!
# Working spheres

The overlay names each episode after the token that held it longest, follows the aliases of
the user and rolls the named episodes up by label, those of a single episode in one last row.
A hash map or set is the list of its entries; wherever its order could be seen it is walked in
an order that Rust leaves open. The labelled share of the active time, a float, is left out.
-/

set_option autoImplicit false

namespace Gilbreth.Read

open Gilbreth.Core Gilbreth.Store Spans

/-- The orders in which the tokens of the episodes and the token sets of the rows are walked,
walk by walk. -/
structure HashOrder where
  entries : Nat → TokenDwell → TokenDwell
  names : Nat → List String → List String
  entries_perm : ∀ walk tokens, (entries walk tokens).Perm tokens
  names_perm : ∀ walk tokens, (names walk tokens).Perm tokens

section Winner

/-- `Ordering::Greater` in the comparison of `max_by`. -/
def TokenEntry.outweighs (left right : TokenEntry) : Bool :=
  decide (right.dwell < left.dwell ∨ (left.dwell = right.dwell ∧ right.key < left.key))

/-- `max_by` keeps the later of two entries unless the earlier is greater. -/
def winner : TokenDwell → Option TokenEntry
  | [] => none
  | entry :: rest =>
      some (rest.foldl (fun best next => if best.outweighs next then best else next) entry)

/-- At most the dwell, and at an equal dwell at most the key. -/
def TokenEntry.AtMost (left right : TokenEntry) : Prop :=
  left.dwell < right.dwell ∨ (left.dwell = right.dwell ∧ left.key ≤ right.key)

theorem outweighs_iff (left right : TokenEntry) :
    left.outweighs right = true ↔ ¬left.AtMost right := by
  rw [TokenEntry.outweighs, decide_eq_true_eq, TokenEntry.AtMost]
  rcases lt_trichotomy left.dwell right.dwell with less | same | more
  · simp [less, less.ne, less.not_gt]
  · simp [same]
  · simp [more, more.ne', more.not_gt]

theorem at_most_trans {first second third : TokenEntry} (one : first.AtMost second)
    (two : second.AtMost third) : first.AtMost third := by
  rcases one with less | ⟨same, below⟩
  · rcases two with more | ⟨equal, _⟩
    · exact Or.inl (less.trans more)
    · exact Or.inl (less.trans_eq equal)
  · rcases two with more | ⟨equal, above⟩
    · exact Or.inl (same.trans_lt more)
    · exact Or.inr ⟨same.trans equal, below.trans above⟩

theorem at_most_refl (entry : TokenEntry) : entry.AtMost entry := Or.inr ⟨rfl, le_rfl⟩

theorem winner_of_rest (entries : TokenDwell) (entry : TokenEntry) :
    entries.foldl (fun best next => if best.outweighs next then best else next) entry ∈
        entry :: entries ∧
      ∀ other ∈ entry :: entries, other.AtMost
        (entries.foldl (fun best next => if best.outweighs next then best else next) entry) := by
  induction entries generalizing entry with
  | nil =>
      refine ⟨List.mem_cons_self, ?_⟩
      intro other member
      rw [List.mem_singleton.mp member]
      exact at_most_refl entry
  | cons next rest induction =>
      rw [List.foldl_cons]
      by_cases above : entry.outweighs next = true
      · rw [if_pos above]
        rcases induction entry with ⟨listed, most⟩
        have first := most entry List.mem_cons_self
        have below : next.AtMost entry := by
          have not := (outweighs_iff entry next).mp above
          rcases lt_trichotomy entry.dwell next.dwell with less | same | more
          · exact absurd (Or.inl less) not
          · refine Or.inr ⟨same.symm, le_of_not_ge fun order => not (Or.inr ⟨same, order⟩)⟩
          · exact Or.inl more
        constructor
        · rcases List.mem_cons.mp listed with own | later
          · rw [own]
            exact List.mem_cons_self
          · exact List.mem_cons_of_mem _ (List.mem_cons_of_mem _ later)
        · intro other member
          rcases List.mem_cons.mp member with own | rest
          · rw [own]
            exact first
          · rcases List.mem_cons.mp rest with own | later
            · rw [own]
              exact at_most_trans below first
            · exact most other (List.mem_cons_of_mem _ later)
      · rw [if_neg above]
        rcases induction next with ⟨listed, most⟩
        have below : entry.AtMost next := by
          by_contra not
          exact above ((outweighs_iff entry next).mpr not)
        constructor
        · exact List.mem_cons_of_mem _ listed
        · intro other member
          rcases List.mem_cons.mp member with own | rest
          · rw [own]
            exact at_most_trans below (most next List.mem_cons_self)
          · exact most other rest

theorem winner_perm {left right : TokenDwell} (perm : left.Perm right)
    (distinct : (right.map TokenEntry.key).Nodup) : winner left = winner right := by
  cases left with
  | nil => rw [List.nil_perm.mp perm]
  | cons first others =>
      cases right with
      | nil => cases List.perm_nil.mp perm
      | cons entry rest =>
          rw [winner, winner]
          rcases winner_of_rest others first with ⟨listed, most⟩
          rcases winner_of_rest rest entry with ⟨held, top⟩
          generalize others.foldl (fun best next => if best.outweighs next then best else next)
            first = one at listed most
          generalize rest.foldl (fun best next => if best.outweighs next then best else next)
            entry = two at held top
          have below := most two (perm.mem_iff.mpr held)
          have above := top one (perm.mem_iff.mp listed)
          have sameKey : one.key = two.key := by
            rcases below with less | ⟨same, lower⟩
            · rcases above with more | ⟨equal, _⟩
              · exact absurd less more.not_gt
              · exact absurd equal less.ne'
            · rcases above with more | ⟨_, upper⟩
              · exact absurd same more.ne'
              · exact le_antisymm upper lower
          rw [List.inj_on_of_nodup_map distinct (perm.mem_iff.mp listed) held sameKey]

theorem mem_add_token_key {tokens : TokenDwell} {key token : String} {dwell : Int}
    {other : String} :
    other ∈ (addToken tokens key token dwell).map TokenEntry.key ↔
      other ∈ tokens.map TokenEntry.key ∨ other = key := by
  induction tokens with
  | nil => simp [addToken]
  | cons entry rest induction =>
      rw [addToken]
      split
      · rename_i own
        simp only [List.map_cons, List.mem_cons, ← own]
        tauto
      · rw [List.map_cons, List.map_cons, List.mem_cons, List.mem_cons, induction]
        tauto

theorem add_token_distinct {tokens : TokenDwell} (key token : String) (dwell : Int)
    (distinct : (tokens.map TokenEntry.key).Nodup) :
    ((addToken tokens key token dwell).map TokenEntry.key).Nodup := by
  induction tokens with
  | nil => exact List.nodup_singleton key
  | cons entry rest induction =>
      have parts := List.nodup_cons.mp distinct
      rw [addToken]
      split
      · exact distinct
      · rename_i other
        apply List.nodup_cons.mpr
        refine ⟨?_, induction parts.2⟩
        intro member
        rcases mem_add_token_key.mp member with listed | own
        · exact parts.1 listed
        · exact other own

theorem token_dwell_distinct [TitleText] (subs : List TitledPiece) :
    ((tokenDwell subs).map TokenEntry.key).Nodup := by
  have kept : ∀ tokens : TokenDwell, (tokens.map TokenEntry.key).Nodup →
      ((subs.foldl addTitle tokens).map TokenEntry.key).Nodup := by
    induction subs with
    | nil => exact fun _ distinct => distinct
    | cons sub rest induction =>
        intro tokens distinct
        rw [List.foldl_cons]
        apply induction
        rw [addTitle]
        split
        · exact add_token_distinct _ _ _ distinct
        · exact distinct
  exact kept [] List.nodup_nil

end Winner

section Overlay

def sphereRollupMinEpisodes : Int := 2

def sphereOneOffLabel : String := "(one-off spheres)"

structure LabelledEpisode extends WorkEpisode where
  sphere : Option String
deriving DecidableEq

structure SphereAccum where
  label : String
  activeMs : Int
  episodeCount : Int
  days : List String
  tokens : List String
deriving DecidableEq

structure SphereRollup where
  sphere : String
  activeMs : Int
  episodeCount : Int
  days : Int
  tokens : List String
deriving DecidableEq

structure SphereOverlay where
  episodes : List LabelledEpisode
  spheres : List SphereRollup
  totalActiveMs : Int
  labeledActiveMs : Int
deriving DecidableEq

/-- `HashSet::insert`. -/
def insertNew (set : List String) (value : String) : List String :=
  if value ∈ set then set else set ++ [value]

def SphereAccum.first (label : String) (episode : WorkEpisode) (display : String) :
    SphereAccum where
  label := label
  activeMs := episode.activeMs
  episodeCount := 1
  days := [episode.localDate]
  tokens := [display]

def SphereAccum.bump (row : SphereAccum) (episode : WorkEpisode) (display : String) :
    SphereAccum where
  label := row.label
  activeMs := row.activeMs + episode.activeMs
  episodeCount := row.episodeCount + 1
  days := insertNew row.days episode.localDate
  tokens := insertNew row.tokens display

/-- The row of a label, at the place where the label first came. -/
def bumpSphere (rows : List SphereAccum) (label : String) (episode : WorkEpisode)
    (display : String) : List SphereAccum :=
  match rows with
  | [] => [.first label episode display]
  | row :: rest =>
      if row.label = label then row.bump episode display :: rest
      else row :: bumpSphere rest label episode display

/-- The loop of `working_spheres_overlay`. -/
structure OverlaySweep where
  episodes : List LabelledEpisode
  spheres : List SphereAccum
  labeledActiveMs : Int
  totalActiveMs : Int

def OverlaySweep.add (order : HashOrder) (aliases : String → Option String)
    (sweep : OverlaySweep) (collected : (WorkEpisode × TokenDwell) × Nat) : OverlaySweep :=
  let episode := collected.1.1
  match winner (order.entries collected.2 collected.1.2) with
  | none =>
      { sweep with
        episodes := sweep.episodes ++ [{ episode with sphere := none }]
        totalActiveMs := sweep.totalActiveMs + episode.activeMs }
  | some entry =>
      let label := (aliases entry.key).getD entry.display
      { episodes := sweep.episodes ++ [{ episode with sphere := some label }]
        spheres := bumpSphere sweep.spheres label episode entry.display
        labeledActiveMs := sweep.labeledActiveMs + episode.activeMs
        totalActiveMs := sweep.totalActiveMs + episode.activeMs }

def sortedNames (order : HashOrder) (walk : Nat) (names : List String) : List String :=
  (order.names walk names).mergeSort fun left right => decide (left ≤ right)

def SphereAccum.recurs (row : SphereAccum) : Bool :=
  decide (sphereRollupMinEpisodes ≤ row.episodeCount)

/-- The longest active time first, then by label. -/
def SphereAccum.ranksBefore (left right : SphereAccum) : Bool :=
  decide (right.activeMs < left.activeMs ∨
    (left.activeMs = right.activeMs ∧ left.label ≤ right.label))

def SphereAccum.rollup (order : HashOrder) (row : SphereAccum) (walk : Nat) : SphereRollup where
  sphere := row.label
  activeMs := row.activeMs
  episodeCount := row.episodeCount
  days := row.days.length
  tokens := sortedNames order walk row.tokens

/-- The last row, of all spheres that came once. -/
def oneOffRollup (order : HashOrder) (oneOffs : List SphereAccum) (walk : Nat) : SphereRollup where
  sphere := sphereOneOffLabel
  activeMs := (oneOffs.map SphereAccum.activeMs).sum
  episodeCount := (oneOffs.map SphereAccum.episodeCount).sum
  days := (oneOffs.flatMap SphereAccum.days).dedup.length
  tokens := sortedNames order walk (oneOffs.flatMap SphereAccum.tokens).dedup

def sphereRows (order : HashOrder) (spheres : List SphereAccum) : List SphereRollup :=
  let recurring := (spheres.filter SphereAccum.recurs).mergeSort SphereAccum.ranksBefore
  let oneOffs := spheres.filter fun row => !row.recurs
  let rows := recurring.zipIdx.map fun row => row.1.rollup order row.2
  if oneOffs = [] then rows else rows ++ [oneOffRollup order oneOffs recurring.length]

variable [LocalZone] [TitleText]

def workingSpheresOverlay (order : HashOrder) (db : Database) (scope : Scope)
    (aliases : String → Option String) : SphereOverlay :=
  let collected := collectTitledEpisodes db scope true
  if collected = [] then ⟨[], [], 0, 0⟩
  else
    let sweep := collected.zipIdx.foldl (OverlaySweep.add order aliases) ⟨[], [], 0, 0⟩
    { episodes := sweep.episodes
      spheres := sphereRows order sweep.spheres
      totalActiveMs := sweep.totalActiveMs
      labeledActiveMs := sweep.labeledActiveMs }

end Overlay

section Sums

theorem sum_bump_sphere (measure : SphereAccum → Int) (amount : Int) (label : String)
    (episode : WorkEpisode) (display : String)
    (created : measure (.first label episode display) = amount)
    (grown : ∀ row : SphereAccum, measure (row.bump episode display) = measure row + amount)
    (rows : List SphereAccum) :
    ((bumpSphere rows label episode display).map measure).sum =
      (rows.map measure).sum + amount := by
  induction rows with
  | nil => simp [bumpSphere, created]
  | cons row rest induction =>
      rw [bumpSphere]
      split
      · rw [List.map_cons, List.map_cons, List.sum_cons, List.sum_cons, grown]
        omega
      · rw [List.map_cons, List.map_cons, List.sum_cons, List.sum_cons, induction]
        omega

theorem sum_sphere_rows (order : HashOrder) (spheres : List SphereAccum)
    (measure : SphereRollup → Int) (own : SphereAccum → Int)
    (each : ∀ row walk, measure (SphereAccum.rollup order row walk) = own row)
    (oneOff : ∀ rows walk, measure (oneOffRollup order rows walk) = (rows.map own).sum) :
    ((sphereRows order spheres).map measure).sum = (spheres.map own).sum := by
  have split := (List.filter_append_perm SphereAccum.recurs spheres).map own
  have sorted := List.mergeSort_perm (spheres.filter SphereAccum.recurs) SphereAccum.ranksBefore
  have rows : (((((spheres.filter SphereAccum.recurs).mergeSort
      SphereAccum.ranksBefore).zipIdx.map fun row => row.1.rollup order row.2).map measure).sum :
        Int) = ((spheres.filter SphereAccum.recurs).map own).sum := by
    rw [List.map_map, ← (sorted.map own).sum_eq]
    have measured : (measure ∘ fun row : SphereAccum × Nat => row.1.rollup order row.2) =
        own ∘ Prod.fst := funext fun row => each row.1 row.2
    rw [measured, ← List.map_map, List.zipIdx_map_fst]
  rw [← split.sum_eq, List.map_append, List.sum_append, ← rows, sphereRows]
  by_cases none : (spheres.filter fun row => !row.recurs) = []
  · rw [if_pos none, none, List.map_nil, List.sum_nil, add_zero]
  · rw [if_neg none, List.map_append, List.sum_append, List.map_singleton, List.sum_singleton,
      oneOff]

def LabelledEpisode.labelled (episode : LabelledEpisode) : Bool := episode.sphere.isSome

theorem filter_labelled_concat (episodes : List LabelledEpisode) (episode : WorkEpisode)
    (label : String) :
    List.filter LabelledEpisode.labelled (episodes ++ [⟨episode, some label⟩]) =
      episodes.filter LabelledEpisode.labelled ++ [⟨episode, some label⟩] := by
  rw [List.filter_append]
  rfl

theorem filter_unlabelled_concat (episodes : List LabelledEpisode) (episode : WorkEpisode) :
    List.filter LabelledEpisode.labelled (episodes ++ [⟨episode, none⟩]) =
      episodes.filter LabelledEpisode.labelled := by
  rw [List.filter_append]
  exact List.append_nil _

/-- The sums the overlay keeps as it goes. -/
structure OverlaySweep.Exact (sweep : OverlaySweep) : Prop where
  total : sweep.totalActiveMs = (sweep.episodes.map fun episode => episode.activeMs).sum
  labelled : sweep.labeledActiveMs =
    ((sweep.episodes.filter LabelledEpisode.labelled).map fun episode => episode.activeMs).sum
  spheres : (sweep.spheres.map SphereAccum.activeMs).sum = sweep.labeledActiveMs
  counts : (sweep.spheres.map SphereAccum.episodeCount).sum =
    (sweep.episodes.filter LabelledEpisode.labelled).length

theorem overlay_add_exact (order : HashOrder) (aliases : String → Option String)
    {sweep : OverlaySweep} (exact : sweep.Exact) (collected : (WorkEpisode × TokenDwell) × Nat) :
    (sweep.add order aliases collected).Exact := by
  rcases collected with ⟨⟨episode, tokens⟩, walk⟩
  rw [OverlaySweep.add]
  dsimp only
  cases winner (order.entries walk tokens) with
  | none =>
      refine ⟨?_, ?_, exact.spheres, ?_⟩
      · simp [exact.total]
      · dsimp only
        rw [filter_unlabelled_concat, exact.labelled]
      · dsimp only
        rw [filter_unlabelled_concat, exact.counts]
  | some entry =>
      have active := sum_bump_sphere SphereAccum.activeMs episode.activeMs
        ((aliases entry.key).getD entry.display) episode entry.display rfl (fun _ => rfl)
        sweep.spheres
      have counted := sum_bump_sphere SphereAccum.episodeCount 1
        ((aliases entry.key).getD entry.display) episode entry.display rfl (fun _ => rfl)
        sweep.spheres
      refine ⟨?_, ?_, ?_, ?_⟩
      · simp [exact.total]
      · dsimp only
        rw [filter_labelled_concat, exact.labelled]
        simp
      · dsimp only
        rw [active, exact.spheres]
      · dsimp only
        rw [counted, exact.counts, filter_labelled_concat]
        simp

theorem overlay_run_exact (order : HashOrder) (aliases : String → Option String)
    {sweep : OverlaySweep} (exact : sweep.Exact)
    (collected : List ((WorkEpisode × TokenDwell) × Nat)) :
    (collected.foldl (OverlaySweep.add order aliases) sweep).Exact := by
  induction collected generalizing sweep with
  | nil => exact exact
  | cons first rest induction => exact induction (overlay_add_exact order aliases exact first)

theorem overlay_add_episodes (order : HashOrder) (aliases : String → Option String)
    (sweep : OverlaySweep) (collected : (WorkEpisode × TokenDwell) × Nat) :
    (sweep.add order aliases collected).episodes.map LabelledEpisode.toWorkEpisode =
      sweep.episodes.map LabelledEpisode.toWorkEpisode ++ [collected.1.1] := by
  rw [OverlaySweep.add]
  dsimp only
  split
  · rw [List.map_append, List.map_singleton]
  · rw [List.map_append, List.map_singleton]

theorem overlay_run_episodes (order : HashOrder) (aliases : String → Option String)
    (collected : List ((WorkEpisode × TokenDwell) × Nat)) (sweep : OverlaySweep) :
    (collected.foldl (OverlaySweep.add order aliases) sweep).episodes.map
        LabelledEpisode.toWorkEpisode =
      sweep.episodes.map LabelledEpisode.toWorkEpisode ++
        collected.map fun collected => collected.1.1 := by
  induction collected generalizing sweep with
  | nil => simp
  | cons first rest induction =>
      rw [List.foldl_cons, induction, overlay_add_episodes, List.append_assoc,
        List.singleton_append, List.map_cons]

end Sums

section Walks

theorem sorted_names_walk (order other : HashOrder) (walk : Nat) (names : List String) :
    sortedNames order walk names = sortedNames other walk names := by
  have sorted : ∀ walked : List String,
      (walked.mergeSort fun left right => decide (left ≤ right)).Pairwise (· ≤ ·) := by
    intro walked
    have pairs := @List.pairwise_mergeSort _ (fun left right : String => decide (left ≤ right))
      (fun a b c one two => decide_eq_true
        ((of_decide_eq_true one).trans (of_decide_eq_true two)))
      (fun a b => by simpa using le_total a b) walked
    exact pairs.imp of_decide_eq_true
  rw [sortedNames, sortedNames]
  apply List.Perm.eq_of_pairwise _ (sorted _) (sorted _)
  · have one := (List.mergeSort_perm (order.names walk names)
      fun left right => decide (left ≤ right)).trans (order.names_perm walk names)
    have two := (List.mergeSort_perm (other.names walk names)
      fun left right => decide (left ≤ right)).trans (other.names_perm walk names)
    exact one.trans two.symm
  · intro left right _ _ below above
    exact le_antisymm below above

theorem sphere_rows_walk (order other : HashOrder) (spheres : List SphereAccum) :
    sphereRows order spheres = sphereRows other spheres := by
  have rollups : ∀ row : SphereAccum × Nat,
      row.1.rollup order row.2 = row.1.rollup other row.2 := by
    intro row
    rw [SphereAccum.rollup, SphereAccum.rollup, sorted_names_walk order other]
  have oneOffs : ∀ rows walk, oneOffRollup order rows walk = oneOffRollup other rows walk := by
    intro rows walk
    rw [oneOffRollup, oneOffRollup, sorted_names_walk order other]
  rw [sphereRows, sphereRows, funext rollups, oneOffs]

theorem overlay_add_walk (order other : HashOrder) (aliases : String → Option String)
    (sweep : OverlaySweep) {collected : (WorkEpisode × TokenDwell) × Nat}
    (distinct : (collected.1.2.map TokenEntry.key).Nodup) :
    sweep.add order aliases collected = sweep.add other aliases collected := by
  have same : winner (order.entries collected.2 collected.1.2) =
      winner (other.entries collected.2 collected.1.2) :=
    (winner_perm (order.entries_perm _ _) distinct).trans
      (winner_perm (other.entries_perm _ _) distinct).symm
  rw [OverlaySweep.add, OverlaySweep.add, same]

variable [LocalZone] [TitleText]

theorem overlay_walk (order other : HashOrder) (db : Database) (scope : Scope)
    (aliases : String → Option String) :
    workingSpheresOverlay order db scope aliases =
      workingSpheresOverlay other db scope aliases := by
  have swept : (collectTitledEpisodes db scope true).zipIdx.foldl
        (OverlaySweep.add order aliases) ⟨[], [], 0, 0⟩ =
      (collectTitledEpisodes db scope true).zipIdx.foldl
        (OverlaySweep.add other aliases) ⟨[], [], 0, 0⟩ := by
    apply List.foldl_ext
    intro sweep collected listed
    apply overlay_add_walk
    have own := List.fst_mem_of_mem_zipIdx listed
    rw [collect_titled_episodes_eq] at own
    rcases List.mem_map.mp own with ⟨group, _, same⟩
    rw [← same]
    exact token_dwell_distinct group
  rw [workingSpheresOverlay, workingSpheresOverlay, swept,
    funext (sphere_rows_walk order other)]

end Walks

section Exact

/-- The rows, with the one of the one-offs, share out the labelled time and episodes. -/
structure SphereOverlay.Exact (overlay : SphereOverlay) : Prop where
  rowsActive : (overlay.spheres.map SphereRollup.activeMs).sum = overlay.labeledActiveMs
  rowsEpisodes : (overlay.spheres.map SphereRollup.episodeCount).sum =
    (overlay.episodes.filter LabelledEpisode.labelled).length
  labelled : overlay.labeledActiveMs =
    ((overlay.episodes.filter LabelledEpisode.labelled).map fun episode => episode.activeMs).sum
  total : overlay.totalActiveMs = (overlay.episodes.map fun episode => episode.activeMs).sum
  bounded : overlay.labeledActiveMs ≤ overlay.totalActiveMs

variable [LocalZone] [TitleText]

theorem overlay_episodes (order : HashOrder) (db : Database) (scope : Scope)
    (aliases : String → Option String) :
    (workingSpheresOverlay order db scope aliases).episodes.map LabelledEpisode.toWorkEpisode =
      collectWorkEpisodes db scope := by
  have collected := collect_titled_episodes_skeleton db scope true
  rw [workingSpheresOverlay, ← collected]
  by_cases empty : collectTitledEpisodes db scope true = []
  · rw [if_pos empty, empty]
    rfl
  · rw [if_neg empty]
    dsimp only
    rw [overlay_run_episodes, List.map_nil, List.nil_append]
    have firsts : (fun collected : (WorkEpisode × TokenDwell) × Nat => collected.1.1) =
        Prod.fst ∘ Prod.fst := rfl
    rw [firsts, ← List.map_map, List.zipIdx_map_fst]

theorem overlay_exact (order : HashOrder) (db : Database) (scope : Scope)
    (aliases : String → Option String) :
    (workingSpheresOverlay order db scope aliases).Exact := by
  have episodes := overlay_episodes order db scope aliases
  have nonneg : ∀ episode ∈ (workingSpheresOverlay order db scope aliases).episodes,
      0 ≤ episode.activeMs := by
    intro episode listed
    have own : episode.toWorkEpisode ∈ collectWorkEpisodes db scope := by
      rw [← episodes]
      exact List.mem_map_of_mem listed
    rw [← collect_titled_episodes_skeleton db scope true] at own
    rcases List.mem_map.mp own with ⟨collected, member, same⟩
    have positive := collected_active_nonneg member
    rwa [same] at positive
  rw [workingSpheresOverlay] at nonneg ⊢
  by_cases empty : collectTitledEpisodes db scope true = []
  · rw [if_pos empty]
    exact ⟨rfl, rfl, rfl, rfl, le_rfl⟩
  · rw [if_neg empty] at nonneg ⊢
    have swept := @overlay_run_exact order aliases ⟨[], [], 0, 0⟩ ⟨rfl, rfl, rfl, rfl⟩
      (collectTitledEpisodes db scope true).zipIdx
    generalize (collectTitledEpisodes db scope true).zipIdx.foldl
      (OverlaySweep.add order aliases) ⟨[], [], 0, 0⟩ = sweep at nonneg swept ⊢
    refine ⟨?_, ?_, swept.labelled, swept.total, ?_⟩
    · exact (sum_sphere_rows order sweep.spheres SphereRollup.activeMs SphereAccum.activeMs
        (fun _ _ => rfl) fun _ _ => rfl).trans swept.spheres
    · exact (sum_sphere_rows order sweep.spheres SphereRollup.episodeCount
        SphereAccum.episodeCount (fun _ _ => rfl) fun _ _ => rfl).trans swept.counts
    · have split := (List.filter_append_perm LabelledEpisode.labelled sweep.episodes).map
        fun episode => episode.activeMs
      have rest : (0 : Int) ≤ ((sweep.episodes.filter fun episode =>
          !episode.labelled).map fun episode => episode.activeMs).sum := by
        apply List.sum_nonneg
        intro amount member
        rcases List.mem_map.mp member with ⟨episode, listed, same⟩
        rw [← same]
        exact nonneg episode (List.mem_of_mem_filter listed)
      have whole := split.sum_eq
      rw [List.map_append, List.sum_append, ← swept.labelled, ← swept.total] at whole
      dsimp only
      omega

/-- Where the focus rows of a session do not overlap, the episodes share out the time at the
desk, and the rows of the overlay share out what is labelled of it, however hash maps are
walked. -/
theorem work_episodes_partition (db : Database) (scope : Scope) (apart : FocusApart db scope)
    (aliases : String → Option String) :
    (∀ readTitles, (∃ groups, EpisodesPartition db scope readTitles groups) ∧
      ∀ sessionId point,
        (∃ piece ∈ titledSubs db (focusIntervals db scope) readTitles,
          piece.sessionId = sessionId ∧ piece.startTs ≤ point ∧ point < piece.endTs) ↔
        ∃ row ∈ focusIntervals db scope, row.sessionId = sessionId ∧
          (row.startTs ≤ point ∧ point < row.endTs) ∧ ¬Away db sessionId point) ∧
    ∀ order : HashOrder, (workingSpheresOverlay order db scope aliases).Exact ∧
      (workingSpheresOverlay order db scope aliases).episodes.map
        LabelledEpisode.toWorkEpisode = collectWorkEpisodes db scope ∧
      ∀ other : HashOrder, workingSpheresOverlay order db scope aliases =
        workingSpheresOverlay other db scope aliases := by
  constructor
  · intro readTitles
    exact ⟨episodes_partition apart readTitles,
      titled_subs_cover db (focusIntervals db scope) readTitles⟩
  · intro order
    exact ⟨overlay_exact order db scope aliases, overlay_episodes order db scope aliases,
      fun other => overlay_walk order other db scope aliases⟩

end Exact

section

/-- Titles without browser, page or unread counts, in ASCII. -/
@[reducible] private def plainTitles : TitleText where
  withoutBrowserChrome text := text
  withoutMorePages text := text
  withoutUnreadCount text := text
  isPythonAlpha := Char.isAlpha
  foldString := String.toLower

attribute [local instance] utcZone plainTitles

private def titledRow (seq ts dwell : Int) (exe title : String) : EventRow :=
  { sessionId := 1, seq := .ofInt seq, ts := .ofInt ts, source := .foreground
    kind := "focus_changed", isSensitive := false, hwnd := none, exe := none, title := none
    pid := none, prevExe := some exe, prevTitle := some title, key := none, modShift := none
    modCtrl := none, modAlt := none, modWin := none, button := none, posX := none, posY := none
    durationMs := some (.ofInt dwell)
    payload := .focusChanged ⟨11, exe, title, 40⟩ none (.ofNat dwell.toNat) 0 false }

/-- Thirty seconds of mail and twenty of notes. -/
private def twoPanes : Database :=
  { Database.empty with
    activity := { Activity.empty with
      events := ⟨[titledRow 1 40000 30000 "mail.exe" "Budget - Inbox",
        titledRow 2 60000 20000 "notes.exe" "Budget"], by decide⟩ } }

private theorem two_panes_apart : FocusApart twoPanes ⟨none, none⟩ := by
  have sorted : (twoPanes.activity.events.rows.filter fun row =>
      Scope.admits ⟨none, none⟩ row.sessionId row.ts.val).mergeSort EventRow.precedes =
        twoPanes.activity.events.rows :=
    List.mergeSort_of_pairwise (by decide)
  have spans : (focusIntervals twoPanes ⟨none, none⟩).map
      (fun row => (row.startTs, row.endTs)) = [(10000, 40000), (40000, 60000)] := by
    rw [focusIntervals, sorted]
    decide +kernel
  have apart : ((focusIntervals twoPanes ⟨none, none⟩).map
      fun row => (row.startTs, row.endTs)).Pairwise Spans.Apart := by
    rw [spans, List.pairwise_pair]
    intro point both
    omega
  rw [List.pairwise_map] at apart
  apply apart.imp
  intro left right disjoint _
  exact disjoint

theorem work_episodes_partition_panes :
    (∃ groups, EpisodesPartition twoPanes ⟨none, none⟩ true groups) ∧
      (workingSpheresOverlay ⟨fun _ tokens => tokens, fun _ names => names,
        fun _ _ => List.Perm.refl _, fun _ _ => List.Perm.refl _⟩ twoPanes ⟨none, none⟩
        fun _ => none).Exact :=
  have partition := work_episodes_partition twoPanes ⟨none, none⟩ two_panes_apart fun _ => none
  ⟨(partition.1 true).1, (partition.2 _).1⟩

end

end Gilbreth.Read
