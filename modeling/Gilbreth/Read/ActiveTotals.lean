import Gilbreth.Read.Readers

/-!
# Every reader reports the same active time

Whatever the way a reader adds up, a row gives it the time in its dwell, from the
cutoff on, at which its session was not away.
-/

set_option autoImplicit false

namespace Gilbreth.Read

open Gilbreth.Core Gilbreth.Store Spans

/-- How long the session was present between two times. -/
noncomputable def present (db : Database) (sessionId lo hi : Int) : Int :=
  length (fun point => ¬Away db sessionId point) lo hi

section Present

variable {db : Database} {ids : List Int} {sessionId : Int}

theorem present_of_le {lo hi : Int} (empty : hi ≤ lo) : present db sessionId lo hi = 0 :=
  length_of_le empty

theorem length_away_by_session (asked : sessionId ∈ ids) {lo hi first last : Int}
    (after : lo ≤ first) (before : last ≤ hi) :
    length (fun point => ¬Covers (awaySpansBySession (idleIntervals db ids none)
      (sleepIntervals db ids) lo hi sessionId) point) first last =
      present db sessionId first last :=
  length_congr fun _ inside under =>
    not_congr (away_by_session db asked lo hi (after.trans inside) (under.trans_le before))

end Present

section Rows

variable [LocalZone] (db : Database)

/-- The focus rows before any clip, as they are stored. -/
def storedFocus : List FocusInterval := db.activity.events.rows.filterMap focusInterval

/-- A reader may clip each row itself: a total over the clipped rows is one over
the stored ones, where what ends before the cutoff counts for nothing. -/
theorem sum_focus_intervals (cutoff : Int) (measure : Int → Int → Int → Int)
    (empty : ∀ sessionId lo hi, hi ≤ lo → measure sessionId lo hi = 0) :
    ((focusIntervals db ⟨some cutoff, none⟩).map fun row =>
      measure row.sessionId row.startTs row.endTs).sum =
      ((storedFocus db).map fun row =>
        measure row.sessionId (max row.startTs cutoff) row.endTs).sum := by
  have clipped : ∀ rows : List FocusInterval,
      ((rows.filterMap (FocusInterval.clip cutoff)).map fun row =>
        measure row.sessionId row.startTs row.endTs).sum =
        (rows.map fun row => measure row.sessionId (max row.startTs cutoff) row.endTs).sum := by
    intro rows
    induction rows with
    | nil => rfl
    | cons row rest induction =>
        rw [List.map_cons, List.sum_cons, ← induction, List.filterMap_cons]
        cases clip : row.clip cutoff with
        | none =>
            rw [FocusInterval.clip] at clip
            split at clip
            · cases clip
            · rename_i none
              rw [empty _ _ _ (by omega), zero_add]
        | some left =>
            rcases clip_some clip with ⟨session, ends, starts, _⟩
            rw [List.map_cons, List.sum_cons, session, ends, starts]
  have kept : ∀ rows : List EventRow,
      (((rows.filter fun row => (Scope.mk (some cutoff) none).admits row.sessionId
        row.ts.val).filterMap focusInterval).map fun row =>
          measure row.sessionId (max row.startTs cutoff) row.endTs).sum =
        ((rows.filterMap focusInterval).map fun row =>
          measure row.sessionId (max row.startTs cutoff) row.endTs).sum := by
    intro rows
    induction rows with
    | nil => rfl
    | cons row rest induction =>
        rw [List.filter_cons]
        split
        · rw [List.filterMap_cons, List.filterMap_cons]
          cases focusInterval row with
          | none => exact induction
          | some interval =>
              rw [List.map_cons, List.map_cons, List.sum_cons, List.sum_cons, induction]
        · rename_i outside
          rw [induction, List.filterMap_cons]
          cases taken : focusInterval row with
          | none => rfl
          | some interval =>
              have ends := (focus_interval_some taken).2.2.1
              have early : row.ts.val < cutoff := by
                simpa [Scope.admits] using outside
              rw [List.map_cons, List.sum_cons, empty _ _ _ (by omega), zero_add]
  have sorted := List.mergeSort_perm (db.activity.events.rows.filter fun row =>
    (Scope.mk (some cutoff) none).admits row.sessionId row.ts.val) EventRow.precedes
  rw [focusIntervals]
  dsimp only
  rw [clipped, ((sorted.filterMap focusInterval).map _).sum_eq, kept, storedFocus]

/-- The time at the desk since the cutoff, over every stored dwell. -/
noncomputable def presentSince (cutoff : Int) : Int :=
  ((storedFocus db).map fun row =>
    present db row.sessionId (max row.startTs cutoff) row.endTs).sum

theorem sum_present (cutoff : Int) :
    ((focusIntervals db ⟨some cutoff, none⟩).map fun row =>
      present db row.sessionId row.startTs row.endTs).sum = presentSince db cutoff :=
  sum_focus_intervals db cutoff (present db) fun _ _ _ => present_of_le

theorem focus_intervals_bounds {cutoff nowMs : Int}
    (past : ∀ row ∈ db.activity.events.rows, row.kind = "focus_changed" → row.ts.val ≤ nowMs)
    {row : FocusInterval} (member : row ∈ focusIntervals db ⟨some cutoff, none⟩) :
    cutoff ≤ row.startTs ∧ row.startTs < row.endTs ∧ row.endTs ≤ nowMs := by
  rcases focus_interval_row member with ⟨stored, listed, kind, _, ends, _⟩
  rw [focusIntervals] at member
  rcases List.mem_filterMap.mp member with ⟨whole, _, clip⟩
  rcases clip_some clip with ⟨_, _, starts, left⟩
  refine ⟨starts ▸ le_max_right _ _, left, ?_⟩
  rw [ends]
  exact past stored listed kind

end Rows

section Sweep

variable [LocalZone] (db : Database)

/-- `active_foreground_ms` over the rows of a scope. -/
def activeForegroundTotal (scope : Scope) : Int :=
  ((focusIntervalsWithActive db scope).map ActiveFocusInterval.activeForegroundMs).sum

theorem active_foreground_total (cutoff : Int) :
    activeForegroundTotal db ⟨some cutoff, none⟩ = presentSince db cutoff := by
  rw [activeForegroundTotal, focusIntervalsWithActive, ← sum_present]
  dsimp only
  split
  · rename_i none
    rw [none]
    rfl
  · rw [add_active_foreground_ms_eq, List.map_map]
    apply congrArg
    apply List.map_congr_left
    intro row member
    exact length_congr fun point _ _ =>
      not_congr (covers_away db (List.mem_map_of_mem member) point)

/-- The active part of the open segment's contribution, zero where it has none. -/
def openActiveMs (nowMs cutoff : Int) : Int :=
  (((liveOpenFocus db nowMs).bind fun live => openFocusContribution db live cutoff).map
    Prod.snd).getD 0

/-- Idle and not back yet at the end of the open segment. -/
def StillIdle (live : LiveOpenFocus) (point : Int) : Prop :=
  Covers (openTrailingIdleSpan db live.sessionId live.endTs).toList point

noncomputable def openPresent (live : LiveOpenFocus) (lo hi : Int) : Int :=
  length (fun point => ¬Away db live.sessionId point ∧ ¬StillIdle db live point) lo hi

theorem open_active_ms_of_live {nowMs : Int} {live : LiveOpenFocus}
    (read : liveOpenFocus db nowMs = some live) (cutoff : Int) :
    openActiveMs db nowMs cutoff = openPresent db live (max live.startTs cutoff) live.endTs := by
  rw [openActiveMs, read, Option.bind_some, openFocusContribution]
  dsimp only
  split
  · rename_i nothing
    exact (length_of_le nothing).symm
  · rw [add_active_foreground_ms_eq, List.map_singleton, List.getLast?_singleton]
    change length _ _ _ = length _ _ _
    apply length_congr
    intro point _ _
    have trailing : Covers (spansOf ((openTrailingIdleSpan db live.sessionId
        live.endTs).toList.map (.of live.sessionId)) live.sessionId) point ↔
          StillIdle db live point := by
      rw [StillIdle]
      cases openTrailingIdleSpan db live.sessionId live.endTs with
      | none => exact Iff.rfl
      | some span => simp [spansOf, SessionInterval.of, SessionInterval.span]
    rw [covers_spans_of_append, covers_away db (List.mem_singleton_self _), trailing, not_or]

theorem open_active_ms_of_none {nowMs : Int} (read : liveOpenFocus db nowMs = none)
    (cutoff : Int) : openActiveMs db nowMs cutoff = 0 := by
  rw [openActiveMs, read]
  rfl

theorem today_story_active (nowMs : Int) :
    (todayStory db nowMs).activeMs =
      activeForegroundTotal db ⟨some (LocalZone.localDayStartMs nowMs), none⟩ +
        openActiveMs db nowMs (LocalZone.localDayStartMs nowMs) := by
  rw [todayStory]
  dsimp only
  split
  · rename_i both
    rw [activeForegroundTotal, both.1, openActiveMs, both.2]
    rfl
  · rfl

end Sweep

section Strip

theorem sum_flat_map {Item : Type*} (items : List Item) (amounts : Item → List Int) :
    (items.flatMap amounts).sum = (items.map fun item => (amounts item).sum).sum := by
  rw [List.flatMap_def, List.sum_flatten, List.map_map]
  rfl

def bandsTotal (strip : DayStrip) : Int :=
  (strip.focus.map fun band => band.endTs - band.startTs).sum

theorem day_strip_bands_total (awayBySession : Int → List Span)
    (order : ∀ sessionId, InOrder (awayBySession sessionId)) {dayStart nowMs : Int}
    {row : FocusInterval} (after : dayStart ≤ row.startTs) (before : row.endTs ≤ nowMs) :
    ((dayStripBands awayBySession dayStart nowMs row).map fun band =>
      band.endTs - band.startTs).sum =
      length (fun point => ¬Covers (awayBySession row.sessionId) point) row.startTs row.endTs := by
  rw [dayStripBands, max_eq_left after, min_eq_left before]
  split
  · rename_i nothing
    exact (length_of_le nothing).symm
  · rw [List.map_map]
    exact subtract_spans_total (order _) _ _

variable [LocalZone] (db : Database)

theorem day_strip_total {nowMs : Int}
    (past : ∀ row ∈ db.activity.events.rows, row.kind = "focus_changed" → row.ts.val ≤ nowMs) :
    bandsTotal (dayStrip db nowMs) = presentSince db (LocalZone.localDayStartMs nowMs) := by
  rw [bandsTotal, dayStrip, ← sum_present]
  dsimp only
  split
  · rename_i none
    rw [none]
    rfl
  · rw [List.map_flatMap, sum_flat_map]
    apply congrArg
    apply List.map_congr_left
    intro row member
    rcases focus_intervals_bounds db past member with ⟨after, _, before⟩
    rw [day_strip_bands_total _ (fun sessionId => (away_spans_by_session_spec _ _ _ _ _).1) after
      before]
    exact length_away_by_session (List.mem_map_of_mem member) after before

end Strip

section Episodes

def episodesTotal (episodes : List WorkEpisode) : Int := (episodes.map WorkEpisode.activeMs).sum

def piecesTotal (pieces : List WorkPiece) : Int :=
  (pieces.map fun piece => piece.endTs - piece.startTs).sum

theorem work_pieces_total (awayBySession : Int → List Span)
    (order : ∀ sessionId, InOrder (awayBySession sessionId)) (row : FocusInterval) :
    piecesTotal (workPieces awayBySession row) =
      length (fun point => ¬Covers (awayBySession row.sessionId) point) row.startTs row.endTs := by
  rw [workPieces]
  split
  · rename_i nothing
    exact (length_of_le nothing).symm
  · rw [piecesTotal, List.map_map]
    exact subtract_spans_total (order _) _ _

theorem min_start_le {rows : List FocusInterval} {row : FocusInterval} (member : row ∈ rows) :
    ((rows.map FocusInterval.startTs).min?).getD 0 ≤ row.startTs := by
  have listed : row.startTs ∈ rows.map FocusInterval.startTs := List.mem_map_of_mem member
  rw [List.min?_eq_some_min (List.ne_nil_of_mem listed)]
  exact List.min_le_of_mem listed

theorem le_max_end {rows : List FocusInterval} {row : FocusInterval} (member : row ∈ rows) :
    row.endTs ≤ ((rows.map FocusInterval.endTs).max?).getD 0 := by
  have listed : row.endTs ∈ rows.map FocusInterval.endTs := List.mem_map_of_mem member
  rw [List.max?_eq_some_max (List.ne_nil_of_mem listed)]
  exact List.le_max_of_mem listed

theorem work_subs_total (db : Database) (focus : List FocusInterval) :
    piecesTotal (workSubs db focus) =
      (focus.map fun row => present db row.sessionId row.startTs row.endTs).sum := by
  have sorted := List.mergeSort_perm focus FocusInterval.numberedBefore
  rw [piecesTotal, workSubs, ((sorted.flatMap_right _).map _).sum_eq, List.map_flatMap,
    sum_flat_map]
  apply congrArg
  apply List.map_congr_left
  intro row member
  have total := work_pieces_total _ (fun sessionId => (away_spans_by_session_spec
    (idleIntervals db (focus.map FocusInterval.sessionId) none)
    (sleepIntervals db (focus.map FocusInterval.sessionId))
    (((focus.map FocusInterval.startTs).min?).getD 0)
    (((focus.map FocusInterval.endTs).max?).getD 0) sessionId).1) row
  exact total.trans (length_away_by_session (List.mem_map_of_mem member) (min_start_le member)
    (le_max_end member))

variable [LocalZone] (db : Database)

theorem episode_sweep_add (sweep : EpisodeSweep) (piece : WorkPiece) :
    episodesTotal (sweep.add piece).collected + piecesTotal (sweep.add piece).current =
      episodesTotal sweep.collected + piecesTotal sweep.current +
        (piece.endTs - piece.startTs) := by
  rw [EpisodeSweep.add]
  split
  · simp [episodesTotal, piecesTotal, buildWorkEpisode]
  · simp [piecesTotal, add_assoc]

theorem episode_sweep_run (sweep : EpisodeSweep) (pieces : List WorkPiece) :
    episodesTotal (pieces.foldl EpisodeSweep.add sweep).finish =
      episodesTotal sweep.collected + piecesTotal sweep.current + piecesTotal pieces := by
  induction pieces generalizing sweep with
  | nil =>
      rw [List.foldl_nil, EpisodeSweep.finish]
      split
      · rename_i none
        simp [none, piecesTotal]
      · simp [episodesTotal, piecesTotal, buildWorkEpisode]
  | cons piece rest induction =>
      rw [List.foldl_cons, induction, episode_sweep_add]
      simp only [piecesTotal, List.map_cons, List.sum_cons]
      omega

theorem collect_work_episodes_total (cutoff : Int) :
    episodesTotal (collectWorkEpisodes db ⟨some cutoff, none⟩) = presentSince db cutoff := by
  have whole := work_subs_total db (focusIntervals db ⟨some cutoff, none⟩)
  rw [sum_present] at whole
  rw [collectWorkEpisodes]
  dsimp only
  split
  · rename_i none
    rw [← whole, none, workSubs, List.mergeSort_nil]
    rfl
  · split
    · rename_i none
      rw [← whole, none]
      rfl
    · have sorted := List.mergeSort_perm (workSubs db (focusIntervals db ⟨some cutoff, none⟩))
        WorkPiece.startsBefore
      rw [episode_sweep_run, ← whole, piecesTotal, piecesTotal, piecesTotal,
        (sorted.map _).sum_eq]
      exact zero_add _

theorem skeleton_episodes (scope : Scope) :
    (workingSpheresSkeleton db scope).episodes = collectWorkEpisodes db scope := by
  rw [workingSpheresSkeleton]
  dsimp only
  split
  · rename_i none
    exact none.symm
  · rfl

end Episodes

section Weeks

variable {db : Database} {ids : List Int} {sessionId : Int}

theorem week_totals_run (bounds : WeekBounds) (app : String) (totals : WeekTotals)
    (spans : List Span) :
    (spans.foldl (WeekTotals.add bounds app) totals).thisActive =
        totals.thisActive + (spans.map (overlap bounds.weekStart bounds.nowMs)).sum ∧
      (spans.foldl (WeekTotals.add bounds app) totals).priorActive =
        totals.priorActive + (spans.map (overlap bounds.priorStart bounds.weekStart)).sum := by
  induction spans generalizing totals with
  | nil => simp
  | cons span rest induction =>
      have later := induction (totals.add bounds app span)
      rw [List.foldl_cons, later.1, later.2]
      simp only [List.map_cons, List.sum_cons, ← add_assoc]
      exact ⟨rfl, rfl⟩

theorem week_band_overlap (asked : sessionId ∈ ids) (bounds : WeekBounds)
    (startTs endTs lo hi : Int) :
    ((weekBand bounds (awaySpansBySession (idleIntervals db ids none) (sleepIntervals db ids)
      bounds.priorStart bounds.nowMs) sessionId startTs endTs).map (overlap lo hi)).sum =
      present db sessionId (max lo (max startTs bounds.priorStart))
        (min hi (min endTs bounds.nowMs)) := by
  rw [weekBand]
  split
  · rw [subtract_spans_overlap (away_spans_by_session_spec _ _ _ _ _).1]
    exact length_away_by_session asked (by omega) (by omega)
  · rw [present_of_le (by omega)]
    rfl

/-- The same of the open segment's band, without the idleness that has not ended. -/
theorem open_band_overlap {live : LiveOpenFocus} (asked : live.sessionId ∈ ids)
    (bounds : WeekBounds) (lo hi : Int) :
    (((weekBand bounds (awaySpansBySession (idleIntervals db ids none) (sleepIntervals db ids)
      bounds.priorStart bounds.nowMs) live.sessionId live.startTs live.endTs).flatMap fun span =>
        subtractSpans span.1 span.2
          (openTrailingIdleSpan db live.sessionId live.endTs).toList).map (overlap lo hi)).sum =
      openPresent db live (max lo (max live.startTs bounds.priorStart))
        (min hi (min live.endTs bounds.nowMs)) := by
  have trailing : InOrder (openTrailingIdleSpan db live.sessionId live.endTs).toList := by
    rw [openTrailingIdleSpan]
    split
    · exact .nil
    · dsimp only
      split
      · rename_i left
        exact ⟨by simpa using left.2.le, List.pairwise_singleton _ _⟩
      · exact .nil
  rw [List.map_flatMap, sum_flat_map]
  simp only [subtract_spans_overlap trailing]
  rw [weekBand]
  split
  · have order := (away_spans_by_session_spec (idleIntervals db ids none) (sleepIntervals db ids)
      bounds.priorStart bounds.nowMs live.sessionId).1
    rcases subtract_from_spec order (max live.startTs bounds.priorStart)
      (min live.endTs bounds.nowMs) with ⟨inOrder, _, covers⟩
    rw [subtractSpans, sum_lengths inOrder, openPresent, ← length_bounded]
    apply length_congr
    intro point _ _
    rw [covers]
    have same : point ∈ Set.Ico bounds.priorStart bounds.nowMs →
        (Covers (awaySpansBySession (idleIntervals db ids none) (sleepIntervals db ids)
          bounds.priorStart bounds.nowMs live.sessionId) point ↔ Away db live.sessionId point) :=
      fun inside => away_by_session db asked _ _ inside.1 inside.2
    have inside : max live.startTs bounds.priorStart ≤ point →
        point < min live.endTs bounds.nowMs → point ∈ Set.Ico bounds.priorStart bounds.nowMs :=
      fun after before => ⟨by omega, by omega⟩
    rw [StillIdle]
    tauto
  · rw [openPresent, length_of_le (by omega)]
    rfl

theorem week_rows_run (bounds : WeekBounds) (awayBySession : Int → List Span)
    (totals : WeekTotals) (rows : List FocusInterval) :
    (rows.foldl (WeekTotals.addRow bounds awayBySession) totals).thisActive =
        totals.thisActive + (rows.map fun row =>
          ((weekBand bounds awayBySession row.sessionId row.startTs row.endTs).map
            (overlap bounds.weekStart bounds.nowMs)).sum).sum ∧
      (rows.foldl (WeekTotals.addRow bounds awayBySession) totals).priorActive =
        totals.priorActive + (rows.map fun row =>
          ((weekBand bounds awayBySession row.sessionId row.startTs row.endTs).map
            (overlap bounds.priorStart bounds.weekStart)).sum).sum := by
  induction rows generalizing totals with
  | nil => simp
  | cons row rest induction =>
      have later := induction (totals.addRow bounds awayBySession row)
      have first := week_totals_run bounds (displayApp row.exe) totals
        (weekBand bounds awayBySession row.sessionId row.startTs row.endTs)
      rw [List.foldl_cons, later.1, later.2, WeekTotals.addRow, first.1, first.2]
      simp only [List.map_cons, List.sum_cons, add_assoc, and_self]

variable [LocalZone]

theorem sum_present_later {earlier later : Int} (before : earlier ≤ later) :
    ((focusIntervals db ⟨some earlier, none⟩).map fun row =>
      present db row.sessionId (max later row.startTs) row.endTs).sum = presentSince db later := by
  rw [sum_focus_intervals db earlier (fun sessionId lo hi => present db sessionId (max later lo) hi)
    fun sessionId lo hi empty => present_of_le (by omega), presentSince]
  apply congrArg
  apply List.map_congr_left
  intro row _
  have starts : max later (max row.startTs earlier) = max row.startTs later := by omega
  rw [starts]

theorem sum_present_between {earlier later : Int} (before : earlier ≤ later) :
    ((focusIntervals db ⟨some earlier, none⟩).map fun row =>
      present db row.sessionId row.startTs (min row.endTs later)).sum =
      presentSince db earlier - presentSince db later := by
  have split : presentSince db earlier =
      ((focusIntervals db ⟨some earlier, none⟩).map fun row =>
        present db row.sessionId row.startTs (min row.endTs later) +
          present db row.sessionId (max later row.startTs) row.endTs).sum := by
    rw [← sum_present]
    apply congrArg
    apply List.map_congr_left
    intro row _
    rw [max_comm]
    exact length_split _ _ _ _
  rw [split, List.sum_map_add, sum_present_later before]
  omega

theorem open_active_split {nowMs : Int} {live : LiveOpenFocus}
    (read : liveOpenFocus db nowMs = some live) {earlier later : Int} (before : earlier ≤ later) :
    openPresent db live (max live.startTs earlier) (min live.endTs later) =
      openActiveMs db nowMs earlier - openActiveMs db nowMs later := by
  have split := length_split (fun point => ¬Away db live.sessionId point ∧
    ¬StillIdle db live point) (max live.startTs earlier) later live.endTs
  have starts : max (max live.startTs earlier) later = max live.startTs later := by omega
  rw [open_active_ms_of_live db read, open_active_ms_of_live db read, openPresent, openPresent,
    openPresent, split, starts]
  omega

end Weeks

section Readers

variable [LocalZone] (db : Database)

theorem week_totals_active (bounds : WeekBounds) (order : bounds.priorStart ≤ bounds.weekStart)
    (_week : bounds.weekStart ≤ bounds.nowMs)
    (past : ∀ row ∈ db.activity.events.rows, row.kind = "focus_changed" →
      row.ts.val ≤ bounds.nowMs) :
    (weekTotals db bounds).thisActive =
        presentSince db bounds.weekStart + openActiveMs db bounds.nowMs bounds.weekStart ∧
      (weekTotals db bounds).priorActive =
        (presentSince db bounds.priorStart + openActiveMs db bounds.nowMs bounds.priorStart) -
          (presentSince db bounds.weekStart +
            openActiveMs db bounds.nowMs bounds.weekStart) := by
  generalize sessions : (focusIntervals db ⟨some bounds.priorStart, none⟩).map
    FocusInterval.sessionId ++
      ((liveOpenFocus db bounds.nowMs).map LiveOpenFocus.sessionId).toList = ids
  generalize away : awaySpansBySession (idleIntervals db ids none) (sleepIntervals db ids)
    bounds.priorStart bounds.nowMs = awayBySession
  have rows := week_rows_run bounds awayBySession .zero
    (focusIntervals db ⟨some bounds.priorStart, none⟩)
  have thisRows : ((focusIntervals db ⟨some bounds.priorStart, none⟩).map fun row =>
      ((weekBand bounds awayBySession row.sessionId row.startTs row.endTs).map
        (overlap bounds.weekStart bounds.nowMs)).sum).sum = presentSince db bounds.weekStart := by
    rw [← sum_present_later order]
    apply congrArg
    apply List.map_congr_left
    intro row member
    rcases focus_intervals_bounds db past member with ⟨after, _, before⟩
    have asked : row.sessionId ∈ ids := by
      rw [← sessions]
      exact List.mem_append_left _ (List.mem_map_of_mem member)
    rw [← away, week_band_overlap asked, max_eq_left after, min_eq_left before,
      min_eq_right before]
  have priorRows : ((focusIntervals db ⟨some bounds.priorStart, none⟩).map fun row =>
      ((weekBand bounds awayBySession row.sessionId row.startTs row.endTs).map
        (overlap bounds.priorStart bounds.weekStart)).sum).sum =
          presentSince db bounds.priorStart - presentSince db bounds.weekStart := by
    rw [← sum_present_between order]
    apply congrArg
    apply List.map_congr_left
    intro row member
    rcases focus_intervals_bounds db past member with ⟨after, _, before⟩
    have asked : row.sessionId ∈ ids := by
      rw [← sessions]
      exact List.mem_append_left _ (List.mem_map_of_mem member)
    rw [← away, week_band_overlap asked, max_eq_left after, min_eq_left before,
      max_eq_right after, min_comm]
  rw [thisRows, priorRows] at rows
  rw [weekTotals, sessions, away]
  cases read : liveOpenFocus db bounds.nowMs with
  | none =>
      rw [open_active_ms_of_none db read, open_active_ms_of_none db read, Option.elim_none,
        rows.1, rows.2]
      simp [WeekTotals.zero]
  | some live =>
      rcases live_open_focus_row read with ⟨_, _, _, _, _, ends⟩
      have asked : live.sessionId ∈ ids := by
        rw [← sessions, read]
        simp
      have totals := week_totals_run bounds (displayApp live.exe)
        ((focusIntervals db ⟨some bounds.priorStart, none⟩).foldl
          (WeekTotals.addRow bounds awayBySession) .zero)
        ((weekBand bounds awayBySession live.sessionId live.startTs live.endTs).flatMap fun span =>
          subtractSpans span.1 span.2 (openTrailingIdleSpan db live.sessionId live.endTs).toList)
      have starts : max bounds.weekStart (max live.startTs bounds.priorStart) =
          max live.startTs bounds.weekStart := by omega
      have finish : min bounds.nowMs (min live.endTs bounds.nowMs) = live.endTs := by omega
      have first : max bounds.priorStart (max live.startTs bounds.priorStart) =
          max live.startTs bounds.priorStart := by omega
      have last : min bounds.weekStart (min live.endTs bounds.nowMs) =
          min live.endTs bounds.weekStart := by omega
      rw [rows.1, rows.2, ← away, open_band_overlap asked, open_band_overlap asked, starts, finish,
        first, last, open_active_split read order, ← open_active_ms_of_live db read] at totals
      rw [Option.elim_some, WeekTotals.addOpen, ← away, totals.1, totals.2]
      simp only [WeekTotals.zero]
      omega

/-- Where no focus row lies after the read, the strip, the tile, the episodes and
the digest all report one active time. -/
theorem readers_report_the_same_active_time (nowMs : Int)
    (past : ∀ row ∈ db.activity.events.rows, row.kind = "focus_changed" → row.ts.val ≤ nowMs) :
    let day := LocalZone.localDayStartMs nowMs
    let week := nowMs - 7 * dayMs
    let fortnight := nowMs - 14 * dayMs
    let activeSince := fun cutoff => activeForegroundTotal db ⟨some cutoff, none⟩
    let openSince := openActiveMs db nowMs
    bandsTotal (dayStrip db nowMs) = (todayStory db nowMs).activeMs - openSince day ∧
      bandsTotal (dayStrip db nowMs) =
        episodesTotal (workingSpheresSkeleton db ⟨some day, none⟩).episodes ∧
      (weeklyDigestCore db nowMs).activeMs = activeSince week + openSince week ∧
      (weeklyDigestCore db nowMs).priorActiveMs =
        (activeSince fortnight + openSince fortnight) - (activeSince week + openSince week) := by
  intro day week fortnight activeSince openSince
  have order : fortnight ≤ week := by
    simp only [fortnight, week, dayMs]
    omega
  have ended : week ≤ nowMs := by
    simp only [week, dayMs]
    omega
  have strip := day_strip_total db past
  have totals := week_totals_active db ⟨fortnight, week, nowMs⟩ order ended past
  have since : ∀ cutoff, activeSince cutoff = presentSince db cutoff :=
    active_foreground_total db
  refine ⟨?_, ?_, ?_, ?_⟩
  · rw [strip, today_story_active, active_foreground_total]
    exact (add_sub_cancel_right _ _).symm
  · rw [strip, skeleton_episodes, collect_work_episodes_total]
  · rw [since]
    exact totals.1
  · rw [since, since]
    exact totals.2

end Readers

section

attribute [local instance] utcZone

private def deskRow (seq ts : Int) (kind : String) (prevExe : Option String) (dwell : Int)
    (payload : EventPayload) : EventRow :=
  { sessionId := 1, seq := .ofInt seq, ts := .ofInt ts, source := .foreground, kind := kind
    isSensitive := false, hwnd := none, exe := none, title := none, pid := none
    prevExe := prevExe, prevTitle := none, key := none, modShift := none, modCtrl := none
    modAlt := none, modWin := none, button := none, posX := none, posY := none
    durationMs := some (.ofInt dwell), payload := payload }

private def deskPane : WindowRef := ⟨11, "mail.exe", "inbox", 40⟩

/-- Forty seconds of mail, of which fifteen were spent idle, and then twenty more. -/
private def deskDay : Database :=
  { Database.empty with
    activity := { Activity.empty with
      events := ⟨[deskRow 1 20000 "idle" none 5000 (.idle 5000),
        deskRow 2 30000 "active" none 15000 (.active 15000),
        deskRow 3 50000 "focus_changed" (some "mail.exe") 40000
          (.focusChanged deskPane none 40000 0 false)], by decide⟩ }
    openFocus := some ⟨1, some "notes.exe", .ofInt 50000, .ofInt 70000⟩ }

theorem readers_report_the_same_active_time_desk :
    bandsTotal (dayStrip deskDay 70000) =
      (todayStory deskDay 70000).activeMs - openActiveMs deskDay 70000 0 :=
  (readers_report_the_same_active_time deskDay 70000 (by decide +kernel)).1

end

end Gilbreth.Read
