import Gilbreth.Read.ActiveTotals
import Gilbreth.Read.InputRuns

/-!
# Work episodes with their titles

The overlay of working spheres collects the episodes of the skeleton anew, now with the
titles of their pieces, and adds up the dwell of each token that a title gives. The regexes
that strip a title and the case folding are outside the repository. The letters Python knows
are a generated table of 659 ranges, and any predicate here.
-/

set_option autoImplicit false

namespace Gilbreth.Read

open Gilbreth.Core Gilbreth.Store Spans

section Tokens

/-- The three regexes with their matches replaced by nothing, `is_python_3_12_alpha` and
`CaseMapper::fold_string`. -/
class TitleText where
  withoutBrowserChrome : String → String
  withoutMorePages : String → String
  withoutUnreadCount : String → String
  isPythonAlpha : Char → Bool
  foldString : String → String

def isPythonWhitespace (char : Char) : Bool :=
  let code := char.toNat
  (0x9 ≤ code && code ≤ 0xD) || (0x1C ≤ code && code ≤ 0x20) || code == 0x85 || code == 0xA0 ||
    code == 0x1680 || (0x2000 ≤ code && code ≤ 0x200A) || (0x2028 ≤ code && code ≤ 0x2029) ||
    code == 0x202F || code == 0x205F || code == 0x3000

def pythonTrimChars (chars : List Char) : String :=
  String.ofList
    ((chars.dropWhile isPythonWhitespace).reverse.dropWhile isPythonWhitespace).reverse

def pythonTrim (text : String) : String := pythonTrimChars text.toList

def isSphereSeparator (char : Char) : Bool :=
  char == '-' || char == '–' || char == '—' || char == '|' || char == '·'

/-- The characters before the first separator that stands between two blanks, if there is
one; `passed` holds those already gone by, the last first. -/
def beforeSeparator : List Char → List Char → Option (List Char)
  | before :: passed, char :: after :: rest =>
      if isSphereSeparator char && isPythonWhitespace before && isPythonWhitespace after then
        some (before :: passed).reverse
      else beforeSeparator (char :: before :: passed) (after :: rest)
  | [], char :: rest => beforeSeparator [char] rest
  | _, _ => none

def splitSphereFirst (text : String) : String :=
  pythonTrimChars ((beforeSeparator [] text.toList).getD text.toList)

variable [TitleText]

def removeUnreadCount (text : String) : String := pythonTrim (TitleText.withoutUnreadCount text)

def removeMorePages (text : String) : String := pythonTrim (TitleText.withoutMorePages text)

def removeBrowserChrome (text : String) : String := TitleText.withoutBrowserChrome text

def sphereToken (title : Option String) : Option String :=
  title.bind fun title =>
    let shown := pythonTrimChars
      (title.toList.filter fun char => char.toNat != 0x200B && char.toNat != 0x200C)
    if shown = "" ∨ shown = "<redacted>" then none
    else
      let text := removeUnreadCount (removeMorePages (removeBrowserChrome shown))
      if text = "" then none
      else
        let first := removeUnreadCount (removeMorePages (splitSphereFirst text))
        let candidate := if 2 ≤ first.length then first else text
        if candidate.length < 2 ∨ ¬candidate.toList.any TitleText.isPythonAlpha then none
        else some candidate

def sphereCasefold (value : String) : String := TitleText.foldString (trim value)

end Tokens

section Build

structure TitledPiece extends WorkPiece where
  title : Option String

/-- A folded token with the spelling that came first and the dwell under it. -/
structure TokenEntry where
  key : String
  display : String
  dwell : Int
deriving DecidableEq

/-- A hash map, its entries in the order their keys first came. -/
abbrev TokenDwell := List TokenEntry

/-- `entry(key).or_insert((token, 0)).1 += dwell`. -/
def addToken (tokens : TokenDwell) (key token : String) (dwell : Int) : TokenDwell :=
  match tokens with
  | [] => [⟨key, token, dwell⟩]
  | entry :: rest =>
      if entry.key = key then { entry with dwell := entry.dwell + dwell } :: rest
      else entry :: addToken rest key token dwell

variable [TitleText]

def addTitle (tokens : TokenDwell) (sub : TitledPiece) : TokenDwell :=
  match sphereToken sub.title with
  | some token => addToken tokens (sphereCasefold token) token (sub.endTs - sub.startTs)
  | none => tokens

def tokenDwell (subs : List TitledPiece) : TokenDwell := subs.foldl addTitle []

/-- Both results of `build_work_episode`. -/
def buildTitledEpisode [LocalZone] (subs : List TitledPiece) : WorkEpisode × TokenDwell :=
  (buildWorkEpisode (subs.map TitledPiece.toWorkPiece), tokenDwell subs)

end Build

section Collect

def titledPieces (awayBySession : Int → List Span) (readTitles : Bool) (row : FocusInterval) :
    List TitledPiece :=
  if row.endTs ≤ row.startTs then []
  else
    (subtractSpans row.startTs row.endTs (awayBySession row.sessionId)).map fun piece =>
      { sessionId := row.sessionId
        startTs := piece.1
        endTs := piece.2
        app := displayApp row.exe
        title := if readTitles then some row.title else none }

/-- The away spans of each session of the rows, between the first start and the last end. -/
def awayOf (db : Database) (focus : List FocusInterval) : Int → List Span :=
  awaySpansBySession (idleIntervals db (focus.map FocusInterval.sessionId) none)
    (sleepIntervals db (focus.map FocusInterval.sessionId))
    (((focus.map FocusInterval.startTs).min?).getD 0)
    (((focus.map FocusInterval.endTs).max?).getD 0)

/-- The pieces of all rows, before they are sorted. -/
def titledSubs (db : Database) (focus : List FocusInterval) (readTitles : Bool) :
    List TitledPiece :=
  (focus.mergeSort FocusInterval.numberedBefore).flatMap
    (titledPieces (awayOf db focus) readTitles)

def TitledPiece.startsBefore (left right : TitledPiece) : Bool :=
  WorkPiece.startsBefore left.toWorkPiece right.toWorkPiece

variable [LocalZone] [TitleText]

structure TitledSweep where
  collected : List (WorkEpisode × TokenDwell)
  current : List TitledPiece
  prev : Option TitledPiece

def TitledSweep.add (sweep : TitledSweep) (piece : TitledPiece) : TitledSweep :=
  let broke := sweep.prev.any fun prev =>
    decide (prev.sessionId ≠ piece.sessionId ∨ episodeGapMs < piece.startTs - prev.endTs)
  if broke ∧ sweep.current ≠ [] then
    ⟨sweep.collected ++ [buildTitledEpisode sweep.current], [piece], some piece⟩
  else ⟨sweep.collected, sweep.current ++ [piece], some piece⟩

def TitledSweep.finish (sweep : TitledSweep) : List (WorkEpisode × TokenDwell) :=
  if sweep.current = [] then sweep.collected
  else sweep.collected ++ [buildTitledEpisode sweep.current]

/-- `collect_work_episodes` with the tokens of each episode. -/
def collectTitledEpisodes (db : Database) (scope : Scope) (readTitles : Bool) :
    List (WorkEpisode × TokenDwell) :=
  let focus := focusIntervals db scope
  if focus = [] then []
  else
    let subs := titledSubs db focus readTitles
    if subs = [] then []
    else ((subs.mergeSort TitledPiece.startsBefore).foldl TitledSweep.add ⟨[], [], none⟩).finish

end Collect

section Skeleton

theorem titled_pieces_skeleton (awayBySession : Int → List Span) (readTitles : Bool)
    (row : FocusInterval) :
    (titledPieces awayBySession readTitles row).map TitledPiece.toWorkPiece =
      workPieces awayBySession row := by
  rw [titledPieces, workPieces]
  split
  · rfl
  · rw [List.map_map]
    rfl

theorem titled_subs_skeleton (db : Database) (focus : List FocusInterval) (readTitles : Bool) :
    (titledSubs db focus readTitles).map TitledPiece.toWorkPiece = workSubs db focus := by
  have pieces : ∀ row, (titledPieces (awayOf db focus) readTitles row).map
      TitledPiece.toWorkPiece = workPieces (awayOf db focus) row :=
    titled_pieces_skeleton (awayOf db focus) readTitles
  rw [titledSubs, List.map_flatMap, funext pieces]
  rfl

variable [LocalZone] [TitleText]

def TitledSweep.skeleton (sweep : TitledSweep) : EpisodeSweep where
  collected := sweep.collected.map Prod.fst
  current := sweep.current.map TitledPiece.toWorkPiece
  prev := sweep.prev.map TitledPiece.toWorkPiece

theorem titled_sweep_add (sweep : TitledSweep) (piece : TitledPiece) :
    (sweep.add piece).skeleton = sweep.skeleton.add piece.toWorkPiece := by
  have broke : (sweep.skeleton.prev.any fun prev => decide
      (prev.sessionId ≠ piece.sessionId ∨ episodeGapMs < piece.startTs - prev.endTs)) =
      sweep.prev.any fun prev => decide
        (prev.sessionId ≠ piece.sessionId ∨ episodeGapMs < piece.startTs - prev.endTs) := by
    rw [TitledSweep.skeleton, Option.any_map]
  have some : sweep.skeleton.current ≠ [] ↔ sweep.current ≠ [] := by
    rw [TitledSweep.skeleton, ne_eq, List.map_eq_nil_iff]
  rw [EpisodeSweep.add, TitledSweep.add, broke]
  by_cases ends : (sweep.prev.any fun prev => decide
      (prev.sessionId ≠ piece.sessionId ∨ episodeGapMs < piece.startTs - prev.endTs)) = true ∧
      sweep.current ≠ []
  · rw [if_pos ends, if_pos ⟨ends.1, some.mpr ends.2⟩]
    simp [TitledSweep.skeleton, buildTitledEpisode]
  · rw [if_neg ends, if_neg fun both => ends ⟨both.1, some.mp both.2⟩]
    simp [TitledSweep.skeleton]

theorem titled_sweep_run (sweep : TitledSweep) (pieces : List TitledPiece) :
    (pieces.foldl TitledSweep.add sweep).skeleton =
      (pieces.map TitledPiece.toWorkPiece).foldl EpisodeSweep.add sweep.skeleton := by
  induction pieces generalizing sweep with
  | nil => rfl
  | cons piece rest induction =>
      rw [List.foldl_cons, List.map_cons, List.foldl_cons, induction, titled_sweep_add]

theorem titled_sweep_finish (sweep : TitledSweep) :
    sweep.finish.map Prod.fst = sweep.skeleton.finish := by
  rw [TitledSweep.finish, EpisodeSweep.finish]
  by_cases empty : sweep.current = []
  · rw [if_pos empty, if_pos (by rw [TitledSweep.skeleton, empty, List.map_nil])]
    rfl
  · rw [if_neg empty, if_neg (by rwa [TitledSweep.skeleton, List.map_eq_nil_iff])]
    rw [List.map_append]
    rfl

theorem collect_titled_episodes_skeleton (db : Database) (scope : Scope) (readTitles : Bool) :
    (collectTitledEpisodes db scope readTitles).map Prod.fst = collectWorkEpisodes db scope := by
  rw [collectTitledEpisodes, collectWorkEpisodes]
  dsimp only
  rw [← titled_subs_skeleton db (focusIntervals db scope) readTitles]
  by_cases unseen : focusIntervals db scope = []
  · rw [if_pos unseen, if_pos unseen, List.map_nil]
  · rw [if_neg unseen, if_neg unseen]
    generalize titledSubs db (focusIntervals db scope) readTitles = subs
    have ordered : (subs.mergeSort TitledPiece.startsBefore).map TitledPiece.toWorkPiece =
        (subs.map TitledPiece.toWorkPiece).mergeSort WorkPiece.startsBefore :=
      List.map_mergeSort fun _ _ _ _ => rfl
    by_cases empty : subs = []
    · rw [if_pos empty, if_pos (by rw [empty, List.map_nil]), List.map_nil]
    · rw [if_neg empty, if_neg (by rwa [List.map_eq_nil_iff]), titled_sweep_finish,
        titled_sweep_run, ordered]
      rfl

end Skeleton

section Groups

/-- Two pieces one after another in one episode. -/
def joined (previous piece : TitledPiece) : Bool :=
  decide (previous.sessionId = piece.sessionId ∧
    piece.startTs - previous.endTs ≤ episodeGapMs)

variable [LocalZone] [TitleText]

theorem titled_sweep_from {pieces before : List TitledPiece} {previous : TitledPiece}
    {done : List (List TitledPiece)} {sweep : TitledSweep}
    (current : sweep.current = (previous :: before).reverse) (prev : sweep.prev = some previous)
    (collected : sweep.collected = done.reverse.map buildTitledEpisode) :
    (pieces.foldl TitledSweep.add sweep).finish =
      (List.splitBy.loop joined pieces previous before done).map buildTitledEpisode := by
  have started : sweep.current ≠ [] := by
    rw [current, ne_eq, List.reverse_eq_nil_iff]
    exact List.cons_ne_nil _ _
  have closed : ∀ done : List (List TitledPiece), ∀ group,
      (group :: done).reverse.map buildTitledEpisode =
        done.reverse.map buildTitledEpisode ++ [buildTitledEpisode group] := by
    intro done group
    rw [List.reverse_cons, List.map_append, List.map_singleton]
  induction pieces generalizing sweep previous before done with
  | nil =>
      rw [List.foldl_nil, TitledSweep.finish, if_neg started, List.splitBy.loop, collected,
        current, closed]
  | cons piece rest induction =>
      rw [List.foldl_cons, List.splitBy.loop]
      have broke : (sweep.prev.any fun prev => decide
          (prev.sessionId ≠ piece.sessionId ∨ episodeGapMs < piece.startTs - prev.endTs)) =
          !joined previous piece := by
        rw [prev, Option.any_some, joined, ← decide_not]
        apply decide_eq_decide.mpr
        omega
      cases link : joined previous piece with
      | true =>
          have next : sweep.add piece =
              ⟨sweep.collected, sweep.current ++ [piece], some piece⟩ := by
            rw [TitledSweep.add, broke, link, if_neg (by simp)]
          rw [next]
          have longer : sweep.current ++ [piece] = (piece :: previous :: before).reverse := by
            rw [current, ← List.reverse_cons]
          have more : sweep.current ++ [piece] ≠ [] :=
            List.append_ne_nil_of_left_ne_nil started _
          exact induction longer rfl collected more
      | false =>
          have next : sweep.add piece =
              ⟨sweep.collected ++ [buildTitledEpisode sweep.current], [piece], some piece⟩ := by
            rw [TitledSweep.add, broke, link, if_pos ⟨rfl, started⟩]
          rw [next]
          apply induction rfl rfl _ (List.cons_ne_nil _ _)
          rw [collected, current, closed]

/-- The episodes are those of the sorted pieces, cut where a session or a long gap ends one. -/
theorem collect_titled_episodes_eq (db : Database) (scope : Scope) (readTitles : Bool) :
    collectTitledEpisodes db scope readTitles =
      (((titledSubs db (focusIntervals db scope) readTitles).mergeSort
        TitledPiece.startsBefore).splitBy joined).map buildTitledEpisode := by
  rw [collectTitledEpisodes]
  dsimp only
  by_cases unseen : focusIntervals db scope = []
  · rw [if_pos unseen, unseen, titledSubs, List.mergeSort_nil, List.flatMap_nil,
      List.mergeSort_nil]
    rfl
  · rw [if_neg unseen]
    generalize titledSubs db (focusIntervals db scope) readTitles = subs
    by_cases empty : subs = []
    · rw [if_pos empty, empty, List.mergeSort_nil]
      rfl
    · rw [if_neg empty]
      cases ordered : subs.mergeSort TitledPiece.startsBefore with
      | nil => rfl
      | cons piece rest =>
          have started : TitledSweep.add ⟨[], [], none⟩ piece = ⟨[], [piece], some piece⟩ := rfl
          rw [List.foldl_cons, started, List.splitBy]
          apply titled_sweep_from
          · rfl
          · rfl
          · rfl

end Groups

section Order

def TitledPiece.span (piece : TitledPiece) : Span := (piece.startTs, piece.endTs)

/-- The focus rows of a session do not overlap. -/
def FocusApart [LocalZone] (db : Database) (scope : Scope) : Prop :=
  (focusIntervals db scope).Pairwise fun left right => left.sessionId = right.sessionId →
    Spans.Apart (left.startTs, left.endTs) (right.startTs, right.endTs)

theorem away_of_order (db : Database) (focus : List FocusInterval) (sessionId : Int) :
    InOrder (awayOf db focus sessionId) :=
  (away_spans_by_session_spec _ _ _ _ sessionId).1

/-- A piece is a part of its row. -/
structure PieceOf (row : FocusInterval) (piece : TitledPiece) : Prop where
  session : piece.sessionId = row.sessionId
  after : row.startTs ≤ piece.startTs
  positive : piece.startTs < piece.endTs
  before : piece.endTs ≤ row.endTs

theorem piece_of_row {awayBySession : Int → List Span}
    (order : ∀ sessionId, InOrder (awayBySession sessionId)) {readTitles : Bool}
    {row : FocusInterval} {piece : TitledPiece}
    (member : piece ∈ titledPieces awayBySession readTitles row) : PieceOf row piece := by
  rw [titledPieces] at member
  split at member
  · cases member
  · rcases List.mem_map.mp member with ⟨span, own, same⟩
    have within := (subtract_from_spec (order row.sessionId) row.startTs row.endTs).2.1 span own
    have positive := subtract_from_positive _ _ _ span own
    rw [← same]
    exact ⟨rfl, within.1, positive, within.2⟩

theorem titled_pieces_spec {awayBySession : Int → List Span}
    (order : ∀ sessionId, InOrder (awayBySession sessionId)) (readTitles : Bool)
    (row : FocusInterval) :
    ((titledPieces awayBySession readTitles row).map TitledPiece.span).Pairwise Spans.Apart ∧
      ∀ point, Covers ((titledPieces awayBySession readTitles row).map TitledPiece.span) point ↔
        (row.startTs ≤ point ∧ point < row.endTs) ∧
          ¬Covers (awayBySession row.sessionId) point := by
  rw [titledPieces]
  split
  · rename_i none
    refine ⟨List.Pairwise.nil, ?_⟩
    intro point
    rw [List.map_nil, iff_false_left (not_covers_nil point)]
    omega
  · have spec := subtract_from_spec (order row.sessionId) row.startTs row.endTs
    rw [List.map_map]
    have same : (subtractSpans row.startTs row.endTs (awayBySession row.sessionId)).map
        (TitledPiece.span ∘ fun piece =>
          { sessionId := row.sessionId
            startTs := piece.1
            endTs := piece.2
            app := displayApp row.exe
            title := if readTitles then some row.title else none }) =
        subtractSpans row.startTs row.endTs (awayBySession row.sessionId) :=
      List.map_id _
    rw [same]
    exact ⟨spec.1.apart, spec.2.2⟩

/-- The pieces cover, session by session, the time of the rows that is not away. -/
theorem titled_subs_cover (db : Database) (focus : List FocusInterval) (readTitles : Bool)
    (sessionId point : Int) :
    (∃ piece ∈ titledSubs db focus readTitles, piece.sessionId = sessionId ∧
        piece.startTs ≤ point ∧ point < piece.endTs) ↔
      ∃ row ∈ focus, row.sessionId = sessionId ∧ (row.startTs ≤ point ∧ point < row.endTs) ∧
        ¬Away db sessionId point := by
  have order := away_of_order db focus
  have away : ∀ row ∈ focus, row.startTs ≤ point → point < row.endTs →
      (Covers (awayOf db focus row.sessionId) point ↔ Away db row.sessionId point) := by
    intro row listed after before
    apply away_by_session db (List.mem_map_of_mem listed)
    · exact (min_start_le listed).trans after
    · exact before.trans_le (le_max_end listed)
  constructor
  · rintro ⟨piece, member, own, after, before⟩
    rcases List.mem_flatMap.mp member with ⟨row, listed, inRow⟩
    have focused := List.mem_mergeSort.mp listed
    have session := (piece_of_row order inRow).session
    have covered := ((titled_pieces_spec order readTitles row).2 point).mp
      ⟨piece.span, List.mem_map_of_mem inRow, after, before⟩
    rw [away row focused covered.1.1 covered.1.2, ← session, own] at covered
    exact ⟨row, focused, session.symm.trans own, covered⟩
  · rintro ⟨row, focused, own, inside, here⟩
    rw [← own, ← away row focused inside.1 inside.2] at here
    rcases ((titled_pieces_spec order readTitles row).2 point).mpr ⟨inside, here⟩ with
      ⟨span, member, within⟩
    rcases List.mem_map.mp member with ⟨piece, inRow, same⟩
    rw [← same] at within
    refine ⟨piece, List.mem_flatMap.mpr ⟨row, List.mem_mergeSort.mpr focused, inRow⟩, ?_, within⟩
    exact (piece_of_row order inRow).session.trans own

theorem titled_subs_positive {db : Database} {focus : List FocusInterval} {readTitles : Bool}
    {piece : TitledPiece} (member : piece ∈ titledSubs db focus readTitles) :
    piece.startTs < piece.endTs := by
  rcases List.mem_flatMap.mp member with ⟨row, _, inRow⟩
  exact (piece_of_row (away_of_order db focus) inRow).positive

theorem titled_subs_apart [LocalZone] {db : Database} {scope : Scope}
    (apart : FocusApart db scope) (readTitles : Bool) :
    (titledSubs db (focusIntervals db scope) readTitles).Pairwise fun left right =>
      left.sessionId = right.sessionId → Spans.Apart left.span right.span := by
  have order := away_of_order db (focusIntervals db scope)
  apply List.pairwise_flatMap.mpr
  constructor
  · intro row _
    have own := (titled_pieces_spec order readTitles row).1
    rw [List.pairwise_map] at own
    apply own.imp
    intro left right disjoint _
    exact disjoint
  · have sorted := List.mergeSort_perm (focusIntervals db scope) FocusInterval.numberedBefore
    have rows := List.Perm.pairwise sorted.symm apart fun disjoint same =>
      (disjoint same.symm).symm
    apply rows.imp
    intro first second disjoint left inFirst right inSecond same point both
    have one := piece_of_row order inFirst
    have two := piece_of_row order inSecond
    have bounds := And.intro (And.intro one.after one.before) (And.intro two.after two.before)
    apply disjoint (one.session.symm.trans (same.trans two.session)) point
    rw [TitledPiece.span, TitledPiece.span] at both
    dsimp only at both ⊢
    omega

/-- One session before another, and in one session one piece after another. -/
def TitledPiece.Before (left right : TitledPiece) : Prop :=
  left.sessionId < right.sessionId ∨
    (left.sessionId = right.sessionId ∧ left.endTs ≤ right.startTs)

theorem titled_subs_in_order [LocalZone] {db : Database} {scope : Scope}
    (apart : FocusApart db scope) (readTitles : Bool) :
    ((titledSubs db (focusIntervals db scope) readTitles).mergeSort
      TitledPiece.startsBefore).Pairwise TitledPiece.Before := by
  have perm := List.mergeSort_perm (titledSubs db (focusIntervals db scope) readTitles)
    TitledPiece.startsBefore
  have transitive : ∀ a b c, TitledPiece.startsBefore a b = true →
      TitledPiece.startsBefore b c = true → TitledPiece.startsBefore a c = true := by
    intro a b c
    simp only [TitledPiece.startsBefore, WorkPiece.startsBefore, decide_eq_true_eq]
    omega
  have total : ∀ a b,
      (TitledPiece.startsBefore a b || TitledPiece.startsBefore b a) = true := by
    intro a b
    simp only [TitledPiece.startsBefore, WorkPiece.startsBefore, Bool.or_eq_true,
      decide_eq_true_eq]
    omega
  have sorted := List.pairwise_mergeSort transitive total
    (titledSubs db (focusIntervals db scope) readTitles)
  have disjoint := List.Perm.pairwise perm.symm (titled_subs_apart apart readTitles)
    fun disjoint same => (disjoint same.symm).symm
  apply (sorted.and disjoint).imp_of_mem
  intro left right _ listed both
  have positive := titled_subs_positive (perm.mem_iff.mp listed)
  have first := both.1
  rw [TitledPiece.startsBefore, WorkPiece.startsBefore, decide_eq_true_eq] at first
  rcases first with other | ⟨same, starts⟩
  · exact Or.inl other
  · refine Or.inr ⟨same, ?_⟩
    by_contra longer
    exact both.2 same right.startTs ⟨⟨starts, not_le.mp longer⟩, le_rfl, positive⟩

end Order

section Partition

theorem sum_bump_ordered (rows : List (String × Int)) (key : String) (amount : Int) :
    ((bumpOrdered rows key amount).map Prod.snd).sum = (rows.map Prod.snd).sum + amount := by
  induction rows with
  | nil => simp [bumpOrdered]
  | cons row rest induction =>
      rw [bumpOrdered]
      split
      · simp only [List.map_cons, List.sum_cons]
        omega
      · simp only [List.map_cons, List.sum_cons, induction]
        omega

theorem work_episode_apps [LocalZone] (subs : List WorkPiece) :
    ((buildWorkEpisode subs).apps.map AppDwell.activeMs).sum =
      (buildWorkEpisode subs).activeMs := by
  have bumped : ∀ rows : List (String × Int), ((subs.foldl (fun rows sub =>
      bumpOrdered rows sub.app (sub.endTs - sub.startTs)) rows).map Prod.snd).sum =
        (rows.map Prod.snd).sum + (subs.map fun sub => sub.endTs - sub.startTs).sum := by
    induction subs with
    | nil => simp
    | cons sub rest induction =>
        intro rows
        rw [List.foldl_cons, induction, sum_bump_ordered, List.map_cons, List.sum_cons]
        omega
  have whole := bumped []
  rw [List.map_nil, List.sum_nil, zero_add] at whole
  rw [buildWorkEpisode]
  dsimp only
  rw [List.map_map, ← whole]
  exact ((List.mergeSort_perm _ _).map Prod.snd).sum_eq

theorem pieces_total_le {first : TitledPiece} {rest : List TitledPiece}
    (order : (first :: rest).IsChain fun left right => left.endTs ≤ right.startTs) :
    (((first :: rest).map fun piece => piece.endTs - piece.startTs).sum : Int) ≤
      ((first :: rest).getLast (List.cons_ne_nil _ _)).endTs - first.startTs := by
  induction rest generalizing first with
  | nil => simp
  | cons next rest induction =>
      have after := induction order.tail
      have gap := order.rel
      rw [List.map_cons, List.sum_cons, List.getLast_cons (List.cons_ne_nil _ _)]
      omega

/-- What an episode says of the pieces it is made of. -/
structure EpisodeOf (pieces : List TitledPiece) (episode : WorkEpisode) : Prop where
  starts : pieces.head?.map (fun piece => piece.startTs) = some episode.startMs
  ends : pieces.getLast?.map (fun piece => piece.endTs) = some episode.endMs
  together : pieces.IsChain fun left right => left.sessionId = right.sessionId ∧
    left.endTs ≤ right.startTs ∧ right.startTs - left.endTs ≤ episodeGapMs
  active : episode.activeMs = (pieces.map fun piece => piece.endTs - piece.startTs).sum
  apps : (episode.apps.map AppDwell.activeMs).sum = episode.activeMs
  inside : episode.activeMs ≤ episode.endMs - episode.startMs

/-- In one session, every piece of the later episode comes long after every earlier one. -/
def LongAfter (earlier later : List TitledPiece) : Prop :=
  ∀ left ∈ earlier, ∀ right ∈ later, left.sessionId = right.sessionId →
    episodeGapMs < right.startTs - left.endTs

theorem titled_episode_active [LocalZone] [TitleText] (group : List TitledPiece) :
    (buildTitledEpisode group).1.activeMs =
      (group.map fun piece => piece.endTs - piece.startTs).sum := by
  rw [buildTitledEpisode, buildWorkEpisode]
  dsimp only
  rw [List.map_map]
  rfl

theorem episode_of_group [LocalZone] [TitleText] {group : List TitledPiece}
    (some : group ≠ []) (sorted : group.Pairwise TitledPiece.Before)
    (chain : group.IsChain fun previous piece => joined previous piece = true) :
    EpisodeOf group (buildTitledEpisode group).1 := by
  have together : group.IsChain fun left right => left.sessionId = right.sessionId ∧
      left.endTs ≤ right.startTs ∧ right.startTs - left.endTs ≤ episodeGapMs := by
    apply List.isChain_iff_getElem.mpr
    intro place bound
    have near := List.isChain_iff_getElem.mp chain place bound
    have order := List.isChain_iff_getElem.mp sorted.isChain place bound
    rw [joined, decide_eq_true_eq] at near
    rcases order with other | ordered
    · omega
    · exact ⟨near.1, ordered.2, near.2⟩
  have apps := work_episode_apps (group.map TitledPiece.toWorkPiece)
  have active := titled_episode_active group
  cases group with
  | nil => exact absurd rfl some
  | cons first rest =>
      have last := List.getLast?_eq_some_getLast some
      have ends : (buildTitledEpisode (first :: rest)).1.endMs =
          ((first :: rest).getLast some).endTs := by
        rw [buildTitledEpisode, buildWorkEpisode]
        dsimp only
        rw [List.getLast?_map, last]
        rfl
      refine ⟨rfl, ?_, together, active, apps, ?_⟩
      · rw [last, ends]
        rfl
      · rw [active, ends]
        exact pieces_total_le (together.imp fun _ _ both => both.2.1)

theorem groups_long_after {groups : List (List TitledPiece)}
    (sorted : groups.flatten.Pairwise TitledPiece.Before)
    (positive : ∀ piece ∈ groups.flatten, piece.startTs < piece.endTs)
    (broken : groups.IsChain fun earlier later => ∃ some next,
      joined (earlier.getLast some) (later.head next) = false) :
    groups.Pairwise LongAfter := by
  have follows : groups.flatten.Pairwise fun left right => left.sessionId ≤ right.sessionId ∧
      (left.sessionId = right.sessionId →
        left.startTs ≤ right.startTs ∧ left.endTs ≤ right.endTs) := by
    apply sorted.imp_of_mem
    intro left right leftListed rightListed order
    have one := positive left leftListed
    have two := positive right rightListed
    rcases order with other | same
    · exact ⟨other.le, fun equal => absurd equal other.ne⟩
    · exact ⟨same.1.le, fun _ => by omega⟩
  clear sorted positive
  induction groups with
  | nil => exact List.Pairwise.nil
  | cons group groups induction =>
      rw [List.flatten_cons] at follows
      rcases List.pairwise_append.mp follows with ⟨inside, rest, across⟩
      apply List.pairwise_cons.mpr
      refine ⟨?_, induction broken.tail rest⟩
      intro later listed left inGroup right inLater same
      cases groups with
      | nil => cases listed
      | cons next groups =>
          rcases broken.rel with ⟨some, more, apart⟩
          rw [joined, decide_eq_false_iff_not] at apart
          -- The last piece before the break and the first after it lie between the two.
          have early := inside.rel_getLast_of_rel_getLast_getLast inGroup
            ⟨le_rfl, fun _ => ⟨le_rfl, le_rfl⟩⟩
          have inRest : right ∈ (next :: groups).flatten :=
            List.mem_flatten_of_mem listed inLater
          have late := rest.rel_head_of_rel_head_head inRest
            ⟨le_rfl, fun _ => ⟨le_rfl, le_rfl⟩⟩
          have first : (next :: groups).flatten.head (List.ne_nil_of_mem inRest) =
              next.head more := by
            simp only [List.flatten_cons]
            exact List.head_append_of_ne_nil more
          rw [first] at late
          have middle := across (group.getLast some) (List.getLast_mem some) (next.head more)
            (List.mem_append_left _ (List.head_mem more))
          omega

/-- The episodes share out the active pieces: each has its own, in order and close together
in one session, and in a session a long gap parts any two. -/
structure EpisodesPartition [LocalZone] [TitleText] (db : Database) (scope : Scope)
    (readTitles : Bool) (groups : List (List TitledPiece)) : Prop where
  episodes : collectTitledEpisodes db scope readTitles = groups.map buildTitledEpisode
  pieces : groups.flatten.Perm (titledSubs db (focusIntervals db scope) readTitles)
  each : ∀ group ∈ groups, EpisodeOf group (buildTitledEpisode group).1
  apart : groups.Pairwise LongAfter

theorem episodes_partition [LocalZone] [TitleText] {db : Database} {scope : Scope}
    (apart : FocusApart db scope) (readTitles : Bool) :
    ∃ groups, EpisodesPartition db scope readTitles groups := by
  have sorted := titled_subs_in_order apart readTitles
  have perm := List.mergeSort_perm (titledSubs db (focusIntervals db scope) readTitles)
    TitledPiece.startsBefore
  have episodes := collect_titled_episodes_eq db scope readTitles
  generalize (titledSubs db (focusIntervals db scope) readTitles).mergeSort
    TitledPiece.startsBefore = ordered at sorted perm episodes
  have flat := List.flatten_splitBy joined ordered
  have inOrder : (ordered.splitBy joined).flatten.Pairwise TitledPiece.Before := by
    rwa [flat]
  refine ⟨ordered.splitBy joined, episodes, ?_, ?_, ?_⟩
  · rw [flat]
    exact perm
  · intro group listed
    apply episode_of_group (List.ne_nil_of_mem_splitBy listed)
    · exact (List.pairwise_flatten.mp inOrder).1 group listed
    · exact List.isChain_of_mem_splitBy listed
  · apply groups_long_after inOrder
    · intro piece member
      rw [flat] at member
      exact titled_subs_positive (perm.mem_iff.mp member)
    · exact List.isChain_getLast_head_splitBy joined ordered

theorem collected_active_nonneg [LocalZone] [TitleText] {db : Database} {scope : Scope}
    {readTitles : Bool} {collected : WorkEpisode × TokenDwell}
    (listed : collected ∈ collectTitledEpisodes db scope readTitles) :
    0 ≤ collected.1.activeMs := by
  rw [collect_titled_episodes_eq] at listed
  rcases List.mem_map.mp listed with ⟨group, member, same⟩
  rw [← same, titled_episode_active]
  apply List.sum_nonneg
  intro amount own
  rcases List.mem_map.mp own with ⟨piece, inGroup, length⟩
  have inAll := List.mem_flatten_of_mem member inGroup
  rw [List.flatten_splitBy, List.mem_mergeSort] at inAll
  have positive := titled_subs_positive inAll
  omega

end Partition

end Gilbreth.Read
