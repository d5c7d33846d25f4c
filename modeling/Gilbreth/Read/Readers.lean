import Gilbreth.Read.ActiveTime

/-!
# The readers of active time

Each tile takes the same focus rows and the same time away and adds them up in its
own way: by the cursor sweep, by the bands of a strip, by work episodes, by the
halves of two weeks. Left out are the fields made from floats and from calendar
dates other than a row's own: the median, the rates, the active days, the morning
launch, the first apps after idle and the heatmap.
-/

set_option autoImplicit false

namespace Gilbreth.Read

open Gilbreth.Core Gilbreth.Store Spans

section Shared

/-- `display_app(Some(exe))`. -/
def displayApp (exe : String) : String :=
  let value := trim exe
  if value = "" ∨ value = "(unknown)" then "(unknown)"
  else
    let normalized := value.toList.map fun char => if char = '\\' then '/' else char
    let trimmed := normalized.reverse.dropWhile fun char => char == '/'
    let last := (trimmed.takeWhile fun char => char != '/').reverse
    if last = [] then value else String.ofList last

/-- Totals by key, in the order the keys first came. -/
def bumpOrdered (rows : List (String × Int)) (key : String) (amount : Int) :
    List (String × Int) :=
  match rows with
  | [] => [(key, amount)]
  | (other, total) :: rest =>
      if other = key then (other, total + amount) :: rest
      else (other, total) :: bumpOrdered rest key amount

/-- The key `(session_id, seq)`. -/
def FocusInterval.numberedBefore (left right : FocusInterval) : Bool :=
  decide (left.sessionId < right.sessionId ∨
    (left.sessionId = right.sessionId ∧ left.seq ≤ right.seq))

def keyCount (db : Database) (counted : Int → Bool) : Int :=
  (db.activity.events.rows.filter fun row => row.kind == "key" && counted row.ts.val).length

end Shared

section Readers

variable [LocalZone]

def focusIntervalsWithActive (db : Database) (scope : Scope) : List ActiveFocusInterval :=
  let focus := focusIntervals db scope
  if focus = [] then []
  else
    let ids := focus.map FocusInterval.sessionId
    addActiveForegroundMs focus (idleIntervals db ids none ++ sleepIntervals db ids)

/-- The raw and the active time of the open segment from the cutoff on. -/
def openFocusContribution (db : Database) (live : LiveOpenFocus) (cutoffMs : Int) :
    Option (Int × Int) :=
  let startTs := max live.startTs cutoffMs
  if live.endTs ≤ startTs then none
  else
    let interval : FocusInterval :=
      { exe := live.exe
        title := ""
        sessionId := live.sessionId
        seq := 9223372036854775807
        localDate := LocalZone.localDate live.endTs
        startTs := startTs
        endTs := live.endTs
        durationMs := live.endTs - startTs }
    let ids := [live.sessionId]
    let trailing := (openTrailingIdleSpan db live.sessionId live.endTs).toList
    let inactive := idleIntervals db ids none ++ sleepIntervals db ids ++
      trailing.map (.of live.sessionId)
    let active := (addActiveForegroundMs [interval] inactive).getLast?
    some (interval.durationMs, (active.map ActiveFocusInterval.activeForegroundMs).getD 0)

section DayStrip

structure DayStripBand where
  app : String
  startTs : Int
  endTs : Int
deriving DecidableEq

structure DayStrip where
  dayStartMs : Int
  dayEndMs : Int
  focus : List DayStripBand
  away : List Span
deriving DecidableEq

/-- The bands of one row: its dwell today without its own session's time away. -/
def dayStripBands (awayBySession : Int → List Span) (dayStart nowMs : Int) (row : FocusInterval) :
    List DayStripBand :=
  let bandStart := max row.startTs dayStart
  let bandEnd := min row.endTs nowMs
  if bandEnd ≤ bandStart then []
  else
    (subtractSpans bandStart bandEnd (awayBySession row.sessionId)).map fun piece =>
      ⟨displayApp row.exe, piece.1, piece.2⟩

def dayStrip (db : Database) (nowMs : Int) : DayStrip :=
  let dayStart := LocalZone.localDayStartMs nowMs
  let focus := focusIntervals db ⟨some dayStart, none⟩
  if focus = [] then ⟨dayStart, nowMs, [], []⟩
  else
    let ids := focus.map FocusInterval.sessionId
    let awayBySession :=
      awaySpansBySession (idleIntervals db ids none) (sleepIntervals db ids) dayStart nowMs
    { dayStartMs := dayStart
      dayEndMs := nowMs
      focus := focus.flatMap (dayStripBands awayBySession dayStart nowMs)
      away := coalesceSpans ((normalizedSessionIds ids).flatMap awayBySession) }

end DayStrip

section Today

def todayRunMergeGapMs : Int := 2000

structure TodayStory where
  activeMs : Int
  foregroundMs : Int
  focusSwitches : Int
  keystrokes : Int
  topApp : Option String
  longestRunApp : Option String
  longestRunMs : Int
  longestRunStartMs : Option Int
deriving DecidableEq

/-- The run under way, if any: its app, active time, start and end. -/
structure TodayRun where
  app : String
  activeMs : Int
  startTs : Int
  endTs : Int

/-- The longest run so far and the one under way. -/
structure TodayRuns where
  longest : Option TodayRun
  current : Option TodayRun

def TodayRuns.add (runs : TodayRuns) (row : ActiveFocusInterval) : TodayRuns :=
  let fresh : TodayRun := ⟨row.exe, row.activeForegroundMs, row.startTs, row.endTs⟩
  let run :=
    match runs.current with
    | none => fresh
    | some run =>
        if run.app = row.exe ∧ row.startTs - run.endTs ≤ todayRunMergeGapMs then
          { run with activeMs := run.activeMs + row.activeForegroundMs, endTs := row.endTs }
        else fresh
  let best := (runs.longest.map TodayRun.activeMs).getD 0
  ⟨if best < run.activeMs then some run else runs.longest, some run⟩

/-- The first strict maximum in the order of the names. -/
def topOf (byApp : List (String × Int)) : Option (String × Int) :=
  (byApp.mergeSort fun left right => decide (left.1 ≤ right.1)).foldl (fun top row =>
    if top.all fun best => decide (best.2 < row.2) then some row else top) none

def todayStory (db : Database) (nowMs : Int) : TodayStory :=
  let dayStart := LocalZone.localDayStartMs nowMs
  let focus := focusIntervalsWithActive db ⟨some dayStart, none⟩
  let live := liveOpenFocus db nowMs
  let contribution := live.bind fun segment => openFocusContribution db segment dayStart
  let keystrokes := keyCount db fun ts => decide (dayStart ≤ ts ∧ ts ≤ nowMs)
  if focus = [] ∧ contribution = none then ⟨0, 0, 0, keystrokes, none, none, 0, none⟩
  else
    let openRawMs := (contribution.map Prod.fst).getD 0
    let openActiveMs := (contribution.map Prod.snd).getD 0
    let byApp := focus.foldl (fun rows row => bumpOrdered rows row.exe row.activeForegroundMs) []
    let byApp := if 0 < openActiveMs then
        live.elim byApp fun segment => bumpOrdered byApp segment.exe openActiveMs
      else byApp
    let runs := (focus.mergeSort fun left right =>
      left.toFocusInterval.numberedBefore right.toFocusInterval).foldl TodayRuns.add ⟨none, none⟩
    { activeMs := (focus.map ActiveFocusInterval.activeForegroundMs).sum + openActiveMs
      foregroundMs := (focus.map fun row => row.durationMs).sum + openRawMs
      focusSwitches := focus.length
      keystrokes := keystrokes
      topApp := (topOf byApp).bind fun top =>
        if 0 < top.2 then some (displayApp top.1) else none
      longestRunApp := runs.longest.map fun run => displayApp run.app
      longestRunMs := (runs.longest.map TodayRun.activeMs).getD 0
      longestRunStartMs := runs.longest.map TodayRun.startTs }

end Today

section Episodes

def episodeGapMs : Int := 300000

structure AppDwell where
  app : String
  activeMs : Int
deriving DecidableEq

structure WorkEpisode where
  startMs : Int
  endMs : Int
  activeMs : Int
  apps : List AppDwell
  dominantApp : String
  switchCount : Int
  localDate : String
deriving DecidableEq

structure SphereAppRollup where
  app : String
  episodeCount : Int
  activeMs : Int
  days : Int
deriving DecidableEq

structure SphereSkeleton where
  episodes : List WorkEpisode
  appRollup : List SphereAppRollup
  totalActiveMs : Int
deriving DecidableEq

/-- A piece of a dwell at the desk. The skeleton reads no titles. -/
structure WorkPiece where
  sessionId : Int
  startTs : Int
  endTs : Int
  app : String

def buildWorkEpisode (subs : List WorkPiece) : WorkEpisode :=
  let byApp := subs.foldl (fun rows sub => bumpOrdered rows sub.app (sub.endTs - sub.startTs)) []
  let apps := (byApp.mergeSort fun left right => decide (right.2 < left.2 ∨
    (left.2 = right.2 ∧ left.1 ≤ right.1))).map fun row => AppDwell.mk row.1 row.2
  let seqApps := (subs.map WorkPiece.app).destutter (· ≠ ·)
  let startMs := (subs.head?.map WorkPiece.startTs).getD 0
  { startMs := startMs
    endMs := (subs.getLast?.map WorkPiece.endTs).getD startMs
    activeMs := (subs.map fun sub => sub.endTs - sub.startTs).sum
    apps := apps
    dominantApp := (apps.head?.map AppDwell.app).getD ""
    switchCount := max 0 (seqApps.length - 1)
    localDate := LocalZone.localDate startMs }

def workPieces (awayBySession : Int → List Span) (row : FocusInterval) : List WorkPiece :=
  if row.endTs ≤ row.startTs then []
  else
    (subtractSpans row.startTs row.endTs (awayBySession row.sessionId)).map fun piece =>
      ⟨row.sessionId, piece.1, piece.2, displayApp row.exe⟩

/-- The episodes done, the pieces of the one under way and the piece before. -/
structure EpisodeSweep where
  collected : List WorkEpisode
  current : List WorkPiece
  prev : Option WorkPiece

def EpisodeSweep.add (sweep : EpisodeSweep) (piece : WorkPiece) : EpisodeSweep :=
  let broke := sweep.prev.any fun prev =>
    decide (prev.sessionId ≠ piece.sessionId ∨ episodeGapMs < piece.startTs - prev.endTs)
  if broke ∧ sweep.current ≠ [] then
    ⟨sweep.collected ++ [buildWorkEpisode sweep.current], [piece], some piece⟩
  else ⟨sweep.collected, sweep.current ++ [piece], some piece⟩

def EpisodeSweep.finish (sweep : EpisodeSweep) : List WorkEpisode :=
  if sweep.current = [] then sweep.collected
  else sweep.collected ++ [buildWorkEpisode sweep.current]

/-- The key `(session_id, start)` of a piece. -/
def WorkPiece.startsBefore (left right : WorkPiece) : Bool :=
  decide (left.sessionId < right.sessionId ∨
    (left.sessionId = right.sessionId ∧ left.startTs ≤ right.startTs))

/-- The pieces of all rows, before they are sorted. -/
def workSubs (db : Database) (focus : List FocusInterval) : List WorkPiece :=
  let ids := focus.map FocusInterval.sessionId
  let lo := ((focus.map FocusInterval.startTs).min?).getD 0
  let hi := ((focus.map FocusInterval.endTs).max?).getD 0
  let awayBySession :=
    awaySpansBySession (idleIntervals db ids none) (sleepIntervals db ids) lo hi
  (focus.mergeSort FocusInterval.numberedBefore).flatMap (workPieces awayBySession)

def collectWorkEpisodes (db : Database) (scope : Scope) : List WorkEpisode :=
  let focus := focusIntervals db scope
  if focus = [] then []
  else
    let subs := workSubs db focus
    if subs = [] then []
    else ((subs.mergeSort WorkPiece.startsBefore).foldl EpisodeSweep.add ⟨[], [], none⟩).finish

def rollupOf (episodes : List WorkEpisode) (app : String) : SphereAppRollup :=
  let own := episodes.filter fun episode => episode.dominantApp == app
  { app := app
    episodeCount := own.length
    activeMs := (own.map WorkEpisode.activeMs).sum
    days := (own.map WorkEpisode.localDate).dedup.length }

def workingSpheresSkeleton (db : Database) (scope : Scope) : SphereSkeleton :=
  let episodes := collectWorkEpisodes db scope
  if episodes = [] then ⟨[], [], 0⟩
  else
    let apps := episodes.foldl (fun seen episode =>
      if episode.dominantApp ∈ seen then seen else seen ++ [episode.dominantApp]) []
    { episodes := episodes
      appRollup := (apps.map (rollupOf episodes)).mergeSort fun left right =>
        decide (right.activeMs ≤ left.activeMs)
      totalActiveMs := (episodes.map WorkEpisode.activeMs).sum }

end Episodes

section WeeklyDigest

def dayMs : Int := 86400000

def digestTopApps : Nat := 5

structure DigestTopApp where
  app : String
  activeMs : Int
deriving DecidableEq

structure WeeklyDigestCore where
  weekStartMs : Int
  nowMs : Int
  hasPriorWeek : Bool
  activeMs : Int
  priorActiveMs : Int
  topApps : List DigestTopApp
  keystrokes : Int
  priorKeystrokes : Int
deriving DecidableEq

structure WeekBounds where
  priorStart : Int
  weekStart : Int
  nowMs : Int

structure WeekTotals where
  thisActive : Int
  priorActive : Int
  thisByApp : List (String × Int)

def WeekTotals.zero : WeekTotals := ⟨0, 0, []⟩

def WeekTotals.add (bounds : WeekBounds) (app : String) (totals : WeekTotals) (span : Span) :
    WeekTotals :=
  let thisPart := overlapMs span.1 span.2 bounds.weekStart bounds.nowMs
  let priorPart := overlapMs span.1 span.2 bounds.priorStart bounds.weekStart
  { thisActive := totals.thisActive + thisPart
    priorActive := totals.priorActive + priorPart
    thisByApp :=
      if thisPart ≠ 0 then bumpOrdered totals.thisByApp app thisPart else totals.thisByApp }

/-- The band of a dwell in the two weeks, if any, without its session's time away. -/
def weekBand (bounds : WeekBounds) (awayBySession : Int → List Span)
    (sessionId startTs endTs : Int) : List Span :=
  let bandStart := max startTs bounds.priorStart
  let bandEnd := min endTs bounds.nowMs
  if bandStart < bandEnd then subtractSpans bandStart bandEnd (awayBySession sessionId) else []

def WeekTotals.addRow (bounds : WeekBounds) (awayBySession : Int → List Span)
    (totals : WeekTotals) (row : FocusInterval) : WeekTotals :=
  (weekBand bounds awayBySession row.sessionId row.startTs row.endTs).foldl
    (WeekTotals.add bounds (displayApp row.exe)) totals

/-- The open segment also loses the idleness that has not ended yet. -/
def WeekTotals.addOpen (db : Database) (bounds : WeekBounds) (awayBySession : Int → List Span)
    (totals : WeekTotals) (live : LiveOpenFocus) : WeekTotals :=
  let trailingIdle := (openTrailingIdleSpan db live.sessionId live.endTs).toList
  ((weekBand bounds awayBySession live.sessionId live.startTs live.endTs).flatMap fun span =>
    subtractSpans span.1 span.2 trailingIdle).foldl
      (WeekTotals.add bounds (displayApp live.exe)) totals

/-- The two loops of the digest, over the focus rows and over the open segment. -/
def weekTotals (db : Database) (bounds : WeekBounds) : WeekTotals :=
  let focus := focusIntervals db ⟨some bounds.priorStart, none⟩
  let live := liveOpenFocus db bounds.nowMs
  let ids := focus.map FocusInterval.sessionId ++ (live.map LiveOpenFocus.sessionId).toList
  let awayBySession := awaySpansBySession (idleIntervals db ids none) (sleepIntervals db ids)
    bounds.priorStart bounds.nowMs
  let totals := focus.foldl (WeekTotals.addRow bounds awayBySession) .zero
  live.elim totals (totals.addOpen db bounds awayBySession)

def weeklyDigestCore (db : Database) (nowMs : Int) : WeeklyDigestCore :=
  let bounds : WeekBounds := ⟨nowMs - 14 * dayMs, nowMs - 7 * dayMs, nowMs⟩
  let totals := weekTotals db bounds
  let keystrokes := keyCount db fun ts => decide (bounds.weekStart ≤ ts ∧ ts < nowMs)
  let priorKeystrokes :=
    keyCount db fun ts => decide (bounds.priorStart ≤ ts ∧ ts < bounds.weekStart)
  let ranked := totals.thisByApp.mergeSort fun left right => decide (right.2 ≤ left.2)
  { weekStartMs := bounds.weekStart
    nowMs := nowMs
    hasPriorWeek := decide (0 < totals.priorActive ∨ 0 < priorKeystrokes)
    activeMs := totals.thisActive
    priorActiveMs := totals.priorActive
    topApps := (ranked.take digestTopApps).map fun row => ⟨row.1, row.2⟩
    keystrokes := keystrokes
    priorKeystrokes := priorKeystrokes }

end WeeklyDigest

end Readers

end Gilbreth.Read
