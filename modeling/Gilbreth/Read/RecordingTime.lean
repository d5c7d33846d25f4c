import Gilbreth.Read.ReplayExport
import Gilbreth.Store.PauseRuns

/-!
# Active time of a recording, written and shown

The dashboard decodes the stored pauses leniently and clips them to the time shown;
the writer parses them strictly and adds up all they last. On what the commands
store the dashboard shows the time that is not paused, and the writer computes the
same unless a closed pause runs beyond the time.
-/

set_option autoImplicit false

namespace Gilbreth.Read

open Gilbreth.Core Gilbreth.Store

section Dashboard

variable [StoreExternals] (floatI64 : String → Option I64)

def jsonValueIntLike : Json → Option I64
  | .bool value => some (.ofInt (if value then 1 else 0))
  | .number token => (numberI64 token).or (floatI64 token)
  | .string text => parseI64 text
  | _ => none

/-- One turn of the loop; `none` is `continue`. -/
def decodePauseInterval (item : Json) : Option (I64 × Option I64) :=
  match item with
  | .array [first, second] =>
      (jsonValueIntLike floatI64 first).bind fun start =>
        match second with
        | .null => some (start, none)
        | second => (jsonValueIntLike floatI64 second).map fun stop => (start, some stop)
  | _ => none

def decodePauseIntervals (value : String) : List (I64 × Option I64) :=
  if trim value = "" then []
  else
    match StoreExternals.parseJson (trim value) with
    | some (.array items) => items.filterMap (decodePauseInterval floatI64)
    | _ => []

/-- Plain arithmetic on machine words: overflow has no result. -/
def exactI64 (exact : Int) : Option I64 :=
  if (I64.ofInt exact).val = exact then some (.ofInt exact) else none

def pausedDurationMs (intervals : List (I64 × Option I64)) (startedTs endedTsOrNow : I64) :
    Option I64 :=
  intervals.foldlM
    (fun total interval =>
      let pauseStart := max interval.1 startedTs
      let pauseEnd := min (interval.2.getD endedTsOrNow) endedTsOrNow
      if pauseStart < pauseEnd then
        (exactI64 (pauseEnd.val - pauseStart.val)).bind fun length =>
          exactI64 (total.val + length.val)
      else some total)
    (I64.ofInt 0)

def recordingDurationMs (startedTs : I64) (endedTs : Option I64) (pauseIntervalsJson : String)
    (nowMs : I64) : Option I64 := do
  let endedOrNow := endedTs.getD nowMs
  let difference ← exactI64 (endedOrNow.val - startedTs.val)
  let elapsed := max difference (.ofInt 0)
  let paused ← pausedDurationMs (decodePauseIntervals floatI64 pauseIntervalsJson) startedTs
    endedOrNow
  let active ← exactI64 (elapsed.val - paused.val)
  return max active (.ofInt 0)

end Dashboard

section Decode

variable [StoreExternals] (floatI64 : String → Option I64)

omit [StoreExternals] in
theorem decode_interval_written (interval : I64 × Option I64) :
    decodePauseInterval floatI64 (pauseIntervalValue interval) = some interval := by
  cases interval with
  | mk start stop =>
      cases stop <;>
        simp [pauseIntervalValue, decodePauseInterval, jsonValueIntLike, number_i64_written]

omit [StoreExternals] in
theorem trim_written (intervals : List (I64 × Option I64)) :
    trim (pauseIntervalsText intervals) = pauseIntervalsText intervals := by
  have opening : isWhitespace '[' = false := by decide
  have closing : isWhitespace ']' = false := by decide
  rw [trim, pauseIntervalsText, String.toList_ofList, List.cons_append,
    List.dropWhile_cons_of_neg (by simp [opening]), ← List.cons_append, List.reverse_append,
    List.reverse_singleton, List.singleton_append,
    List.dropWhile_cons_of_neg (by simp [closing]), ← List.singleton_append,
    ← List.reverse_singleton, ← List.reverse_append, List.reverse_reverse]
  rfl

theorem decode_written (readsBack : ReadsPausesBack) (intervals : List (I64 × Option I64)) :
    decodePauseIntervals floatI64 (pauseIntervalsText intervals) = intervals := by
  have written : pauseIntervalsText intervals ≠ "" := by
    rw [pauseIntervalsText, ne_eq, ← String.toList_inj, String.toList_ofList]
    simp
  rw [decodePauseIntervals, trim_written, if_neg written, readsBack intervals,
    pauseIntervalsValue]
  simp only [List.filterMap_map]
  have each : decodePauseInterval floatI64 ∘ pauseIntervalValue = some := by
    funext interval
    exact decode_interval_written floatI64 interval
  rw [each, List.filterMap_some]

end Decode

section Agreement

variable {started upTo nowMs : I64} {intervals : List (I64 × Option I64)}

theorem exact_i64_some {exact : Int} (above : -9223372036854775808 ≤ exact)
    (below : exact ≤ 9223372036854775807) :
    ∃ value, exactI64 exact = some value ∧ value.val = exact := by
  have own : (I64.ofInt exact).val = exact := SatInt.clamp_of_mem _ above below
  exact ⟨_, if_pos own, own⟩

/-- Each turn of the loop adds what of a pause lies between the two times. -/
theorem paused_duration_fold :
    ∀ (intervals : List (I64 × Option I64)) (total : I64), 0 ≤ total.val →
      total.val + ((pausedSpans nowMs intervals).map
        (Spans.overlap started.val nowMs.val)).sum ≤ 9223372036854775807 →
      ∃ after, intervals.foldlM
          (fun total interval =>
            let pauseStart := max interval.1 started
            let pauseEnd := min (interval.2.getD nowMs) nowMs
            if pauseStart < pauseEnd then
              (exactI64 (pauseEnd.val - pauseStart.val)).bind fun length =>
                exactI64 (total.val + length.val)
            else some total) total = some after ∧
        after.val = total.val + ((pausedSpans nowMs intervals).map
          (Spans.overlap started.val nowMs.val)).sum := by
  intro intervals
  induction intervals with
  | nil =>
      intro total positive bounded
      exact ⟨total, rfl, by simp [pausedSpans]⟩
  | cons interval rest induction =>
      intro total positive bounded
      have restNonneg : 0 ≤
          ((pausedSpans nowMs rest).map (Spans.overlap started.val nowMs.val)).sum := by
        apply List.sum_nonneg
        intro length member
        obtain ⟨span, _, rfl⟩ := List.mem_map.mp member
        exact le_max_left _ _
      have split : ((pausedSpans nowMs (interval :: rest)).map
            (Spans.overlap started.val nowMs.val)).sum =
          max 0 ((min (interval.2.getD nowMs) nowMs).val - (max interval.1 started).val) +
            ((pausedSpans nowMs rest).map (Spans.overlap started.val nowMs.val)).sum := by
        have own : Spans.overlap started.val nowMs.val
              (interval.1.val, (interval.2.getD (max nowMs interval.1)).val) =
            max 0 ((min (interval.2.getD nowMs) nowMs).val - (max interval.1 started).val) := by
          cases interval.2 with
          | none =>
              simp only [Spans.overlap, Option.getD_none, SatInt.val_max, SatInt.val_min]
              omega
          | some stop =>
              simp only [Spans.overlap, Option.getD_some, SatInt.val_max, SatInt.val_min]
        exact congrArg (· + _) own
      rw [split] at bounded ⊢
      have first : ∃ next : I64,
          (if max interval.1 started < min (interval.2.getD nowMs) nowMs then
              (exactI64 ((min (interval.2.getD nowMs) nowMs).val -
                (max interval.1 started).val)).bind fun length =>
                  exactI64 (total.val + length.val)
            else some total) = some next ∧
          next.val = total.val +
            max 0 ((min (interval.2.getD nowMs) nowMs).val - (max interval.1 started).val) := by
        split_ifs with positive
        · have long := SatInt.lt_iff.mp positive
          obtain ⟨span, exactSpan, spanVal⟩ := @exact_i64_some
            ((min (interval.2.getD nowMs) nowMs).val - (max interval.1 started).val)
            (by omega) (by omega)
          obtain ⟨next, exactNext, nextVal⟩ := @exact_i64_some
            (total.val + span.val) (by omega) (by omega)
          exact ⟨next, by rw [exactSpan, Option.bind_some, exactNext], by omega⟩
        · have empty := SatInt.le_iff.mp (not_lt.mp positive)
          exact ⟨total, rfl, by omega⟩
      obtain ⟨next, made, nextVal⟩ := first
      obtain ⟨after, run, afterVal⟩ := induction next (by omega) (by omega)
      refine ⟨after, ?_, by omega⟩
      rw [List.foldlM_cons]
      exact (congrArg (Option.bind · _) made).trans run

theorem paused_duration_eq (order : PausedInOrder started upTo intervals)
    (nonneg : 0 ≤ started.val) (since : 0 ≤ nowMs.val) :
    ∃ paused, pausedDurationMs intervals started nowMs = some paused ∧
      paused.val = pausedMs started nowMs intervals := by
  have active := @unpaused_ms_nonneg started nowMs intervals
  have upper := nowMs.upper
  have sum : ((pausedSpans nowMs intervals).map (Spans.overlap started.val nowMs.val)).sum =
      pausedMs started nowMs intervals := Spans.sum_overlap order.spans _ _
  have zero : (I64.ofInt 0).val = 0 := rfl
  rw [unpausedMs] at active
  obtain ⟨paused, run, value⟩ := @paused_duration_fold started nowMs intervals (.ofInt 0)
    (by decide) (by omega)
  exact ⟨paused, run, by omega⟩

variable [StoreExternals]

/-- The dashboard shows the time since the start that is not paused. -/
theorem recording_duration_eq (floatI64 : String → Option I64) (readsBack : ReadsPausesBack)
    {session : StoredRecording} (running : session.endedTs = none)
    (text : session.pauseIntervalsJson = pauseIntervalsText intervals)
    (order : PausedInOrder session.startedTs upTo intervals)
    (nonneg : 0 ≤ session.startedTs.val) (since : 0 ≤ nowMs.val) :
    ∃ shown, recordingDurationMs floatI64 session.startedTs session.endedTs
        session.pauseIntervalsJson nowMs = some shown ∧
      shown.val = unpausedMs session.startedTs nowMs intervals := by
  have active := @unpaused_ms_nonneg session.startedTs nowMs intervals
  have positive := @paused_ms_nonneg session.startedTs nowMs intervals
  have upper := nowMs.upper
  have startUpper := session.startedTs.upper
  have zero : (I64.ofInt 0).val = 0 := rfl
  obtain ⟨paused, pausedRun, pausedVal⟩ := @paused_duration_eq session.startedTs upTo nowMs
    intervals order nonneg since
  rw [unpausedMs] at active ⊢
  obtain ⟨difference, exactDifference, differenceVal⟩ := @exact_i64_some
    (nowMs.val - session.startedTs.val) (by omega) (by omega)
  have elapsed : (max difference (I64.ofInt 0)).val =
      max 0 (nowMs.val - session.startedTs.val) := by
    rw [SatInt.val_max]
    omega
  obtain ⟨rest, exactRest, restVal⟩ := @exact_i64_some
    ((max difference (I64.ofInt 0)).val - paused.val) (by omega) (by omega)
  refine ⟨max rest (I64.ofInt 0), ?_, ?_⟩
  · rw [recordingDurationMs, running, Option.getD_none, exactDifference, text,
      decode_written floatI64 readsBack]
    change (pausedDurationMs intervals session.startedTs nowMs).bind _ = _
    rw [pausedRun, Option.bind_some]
    change (exactI64 ((max difference (I64.ofInt 0)).val - paused.val)).bind _ = _
    rw [exactRest, Option.bind_some]
    rfl
  · rw [SatInt.val_max]
    omega

theorem elapsed_lengths_eq {session : StoredRecording}
    (parsed : parsePauseIntervals session.pauseIntervalsJson = .ok intervals)
    (order : PausedInOrder session.startedTs upTo intervals)
    (nonneg : 0 ≤ session.startedTs.val) (since : 0 ≤ nowMs.val) :
    (session.elapsedActiveMs nowMs).val = max 0 (nowMs.val - session.startedTs.val -
      ((pausedSpans nowMs intervals).map fun span => span.2 - span.1).sum) := by
  have total := @PausedInOrder.total session.startedTs upTo nowMs intervals order nonneg
  have positive : 0 ≤ ((pausedSpans nowMs intervals).map fun span => span.2 - span.1).sum := by
    apply List.sum_nonneg
    intro length member
    obtain ⟨span, listed, rfl⟩ := List.mem_map.mp member
    exact sub_nonneg.mpr (order.within listed).2
  have upper := nowMs.upper
  have startUpper := session.startedTs.upper
  have zero : (I64.ofInt 0).val = 0 := rfl
  simp only [StoredRecording.elapsedActiveMs, pausedTotalMsOf, parsed, Except.map,
    Except.toOption, Option.getD_some, SatInt.val_max, SatInt.val_sat_sub, total, zero]
  omega

/-- The writer takes off what closed pauses run beyond the time as well. -/
theorem elapsed_active_eq {session : StoredRecording}
    (parsed : parsePauseIntervals session.pauseIntervalsJson = .ok intervals)
    (order : PausedInOrder session.startedTs upTo intervals)
    (nonneg : 0 ≤ session.startedTs.val) (since : 0 ≤ nowMs.val) :
    (session.elapsedActiveMs nowMs).val =
      max 0 (unpausedMs session.startedTs nowMs intervals - pausedAheadMs nowMs intervals) := by
  have elapsed := elapsed_lengths_eq parsed order nonneg since
  have ahead := @paused_ahead_nonneg nowMs intervals
  rw [elapsed, unpausedMs]
  by_cases begun : session.startedTs ≤ nowMs
  · have sum := order.sum_lengths begun
    have long := SatInt.le_iff.mp begun
    rw [sum]
    omega
  · have before := SatInt.lt_iff.mp (not_le.mp begun)
    have none : pausedMs session.startedTs nowMs intervals = 0 := Spans.length_of_le before.le
    have positive : 0 ≤ ((pausedSpans nowMs intervals).map fun span => span.2 - span.1).sum := by
      apply List.sum_nonneg
      intro length member
      obtain ⟨span, listed, rfl⟩ := List.mem_map.mp member
      exact sub_nonneg.mpr (order.within listed).2
    omega

/-- While a pause is open, from its start on, the active time stands still. -/
theorem elapsed_stands_still {session : StoredRecording} {before : List (I64 × Option I64)}
    {start earlier later : I64}
    (parsed : parsePauseIntervals session.pauseIntervalsJson = .ok (before ++ [(start, none)]))
    (order : PausedInOrder session.startedTs upTo (before ++ [(start, none)]))
    (nonneg : 0 ≤ session.startedTs.val) (begun : start ≤ earlier) (passes : earlier ≤ later) :
    session.elapsedActiveMs later = session.elapsedActiveMs earlier := by
  have after := (order.starts (start, none) (by simp)).1
  simp only [SatInt.le_iff] at begun passes after
  have atEarlier := elapsed_lengths_eq parsed order nonneg (by omega : 0 ≤ earlier.val)
  have atLater := elapsed_lengths_eq parsed order nonneg (by omega : 0 ≤ later.val)
  have closed : pausedSpans later before = pausedSpans earlier before := by
    apply List.map_congr_left
    intro interval member
    obtain ⟨stop, closed, _⟩ := (List.pairwise_append.mp order.ordered).2.2 interval member
      (start, none) List.mem_cons_self
    rw [closed]
    rfl
  have lengths (nowMs : I64) :
      ((pausedSpans nowMs (before ++ [(start, none)])).map fun span => span.2 - span.1).sum =
        ((pausedSpans nowMs before).map fun span => span.2 - span.1).sum +
          (max nowMs.val start.val - start.val) := by
    have last : pausedSpans nowMs (before ++ [(start, none)]) =
        pausedSpans nowMs before ++ [(start.val, (max nowMs start).val)] := List.map_append
    rw [last, List.map_append, List.sum_append, List.map_singleton, List.sum_singleton,
      SatInt.val_max]
  rw [lengths] at atEarlier atLater
  rw [closed] at atLater
  apply SatInt.ext
  omega

end Agreement

section Runs

variable [StoreExternals] (floatI64 : String → Option I64)

/-- What the dashboard and the writer make of an open recording at a time. -/
structure RecordingAccounted (session : StoredRecording) (intervals : List (I64 × Option I64))
    (nowMs : I64) : Prop where
  shown : ∃ shown, recordingDurationMs floatI64 session.startedTs session.endedTs
      session.pauseIntervalsJson nowMs = some shown ∧
    shown.val = unpausedMs session.startedTs nowMs intervals
  active_iff : (session.elapsedActiveMs nowMs).val = unpausedMs session.startedTs nowMs intervals ↔
    PausesEndBy nowMs intervals ∨ unpausedMs session.startedTs nowMs intervals = 0
  active_le : (session.elapsedActiveMs nowMs).val ≤ unpausedMs session.startedTs nowMs intervals

/-- The stored pauses of an open recording, and what follows from them at every time. -/
def PausesAccounted (session : StoredRecording) (upTo : I64) : Prop :=
  ∃ intervals, parsePauseIntervals session.pauseIntervalsJson = .ok intervals ∧
    PausedInOrder session.startedTs upTo intervals ∧
    ∀ nowMs : I64, 0 ≤ nowMs.val → RecordingAccounted floatI64 session intervals nowMs

/-- A run of commands and polls keeps the pauses in order, accounts for the active time and asks
once a window. -/
structure RunAccounted (state : CapState) (calls : List RecordingCall) : Prop where
  accounted : ∀ upTo, (∀ timestamp ∈ commandTimes calls, timestamp ≤ upTo) →
    ∀ session ∈ (capMachine.run state calls).recordings.rows, session.endedTs = none →
      PausesAccounted floatI64 session upTo
  still : ∀ before during, calls = before ++ during →
    ∀ session ∈ (capMachine.run state before).recordings.rows, session.endedTs = none →
      ∀ closed start,
        parsePauseIntervals session.pauseIntervalsJson = .ok (closed ++ [(start, none)]) →
        (∀ call ∈ during, call.endsPause session.recordSessionId = false) →
        session ∈ (capMachine.run state calls).recordings.rows ∧
          ∀ earlier later, start ≤ earlier → earlier ≤ later →
            session.elapsedActiveMs later = session.elapsedActiveMs earlier
  increasing : (sentPrompts state calls).Pairwise fun earlier later =>
    earlier.recordSessionId = later.recordSessionId → earlier.windowIndex < later.windowIndex
  reached : ∀ before readings nowMs after, calls = before ++ .poll readings nowMs :: after →
    ∀ prompt, ((capMachine.run state before).pollCapPrompt readings nowMs).2 = some prompt →
      ∃ session ∈ (capMachine.run state before).recordings.rows, session.endedTs = none ∧
        prompt.recordSessionId = session.recordSessionId ∧
        prompt.elapsedActiveMs = session.elapsedActiveMs nowMs ∧
        0 < prompt.windowIndex ∧
        prompt.windowIndex * session.safetyCapMs.val ≤ prompt.elapsedActiveMs.val

theorem recording_accounted (readsBack : ReadsPausesBack) {session : StoredRecording}
    {upTo : I64} (running : session.endedTs = none) (inTime : RowInTime session upTo) :
    PausesAccounted floatI64 session upTo := by
  obtain ⟨intervals, text, order⟩ := inTime.paused
  have parsed : parsePauseIntervals session.pauseIntervalsJson = .ok intervals := by
    rw [text]
    exact parse_written (readsBack intervals)
  refine ⟨intervals, parsed, order, fun nowMs since => ?_⟩
  have active := @unpaused_ms_nonneg session.startedTs nowMs intervals
  have ahead := @paused_ahead_nonneg nowMs intervals
  have elapsed := elapsed_active_eq parsed order inTime.nonneg since
  constructor
  · exact recording_duration_eq floatI64 readsBack running text order inTime.nonneg since
  · rw [elapsed, ← paused_ahead_zero_iff]
    omega
  · omega

/-- Whatever the commands and polls on recordings opened during the run, as long as the
timestamps of the commands do not go back. -/
theorem recordings_run_accounted (readsBack : ReadsPausesBack) (state : CapState)
    (ended : ∀ session ∈ state.recordings.rows, session.endedTs ≠ none)
    (calls : List RecordingCall)
    (growing : (commandTimes calls).Pairwise fun earlier later => earlier ≤ later)
    (nonneg : ∀ timestamp ∈ commandTimes calls, 0 ≤ timestamp.val) :
    RunAccounted floatI64 state calls := by
  have start : state.InTime I64.minimum := by
    intro row member running
    exact absurd running (ended row member)
  have least (value : I64) : I64.minimum ≤ value := SatInt.le_iff.mpr value.lower
  have inTime (calls : List RecordingCall)
      (growing : (commandTimes calls).Pairwise fun earlier later => earlier ≤ later)
      (nonneg : ∀ timestamp ∈ commandTimes calls, 0 ≤ timestamp.val) (upTo : I64)
      (latest : ∀ timestamp ∈ commandTimes calls, timestamp ≤ upTo) :
      (capMachine.run state calls).InTime upTo :=
    in_time_run readsBack calls start
      ⟨growing, fun timestamp member => ⟨least _, nonneg timestamp member⟩⟩ (least upTo) latest
  constructor
  · intro upTo latest session member running
    exact recording_accounted floatI64 readsBack running
      (inTime calls growing nonneg upTo latest session member running)
  · intro before during split session member running closed start parsed stays
    constructor
    · rw [split, Machine.run_append]
      exact paused_run ⟨closed, start, parsed⟩ during member stays
    · intro earlier later begun passes
      rw [split, commandTimes, List.filterMap_append] at growing nonneg
      have row := inTime before (List.pairwise_append.mp growing).1
        (fun timestamp listed => nonneg timestamp (List.mem_append_left _ listed)) I64.maximum
        (fun timestamp _ => SatInt.le_iff.mpr timestamp.upper) session member running
      obtain ⟨intervals, text, order⟩ := row.paused
      have written := parse_written (readsBack intervals)
      rw [text, written] at parsed
      cases parsed
      rw [← text] at written
      exact elapsed_stands_still written order row.nonneg begun passes
  · have below : PromptsBelow state [] := ⟨by simp, by simp, List.Pairwise.nil⟩
    exact (prompts_below_run below calls).increasing
  · intro before readings nowMs after _ prompt sent
    obtain ⟨_, _, same, session, listed, running, needed, made, _⟩ := @sent_prompt _
      (capMachine.run state before) (.poll readings nowMs) prompt sent
    cases same
    obtain ⟨positive, window, _⟩ := needs_prompt_iff.mp needed
    rw [made]
    exact ⟨session, listed, running, rfl, rfl, window,
      Int.ediv_mul_le _ (ne_of_gt positive)⟩

end Runs

/-! ## A parser of arrays, for a run on fixed inputs -/

section Parser

/-- Close the token that is being read, if any. Tokens and arrays are kept in reverse. -/
private def closeToken : List Char → List (List Json) → List (List Json)
  | [], stack => stack
  | token, items :: stack =>
      ((if token.reverse = "null".toList then .null
        else .number (String.ofList token.reverse)) :: items) :: stack
  | _, [] => []

private def readChar (reading : List Char × List (List Json)) (char : Char) :
    List Char × List (List Json) :=
  if char = '[' then ([], [] :: reading.2)
  else if char = ',' then ([], closeToken reading.1 reading.2)
  else if char = ']' then
    match closeToken reading.1 reading.2 with
    | items :: parent :: stack => ([], (.array items.reverse :: parent) :: stack)
    | _ => ([], [])
  else (char :: reading.1, reading.2)

/-- Arrays, integers and nulls without white space, read as JSON reads them. -/
@[reducible] private def arrayExternals : StoreExternals where
  parseJson text :=
    match (text.toList.foldl readChar ([], [[]])).2 with
    | [[value]] => some value
    | _ => none
  sha256Hex _ := ""

private def Plain (chars : List Char) : Prop :=
  ∀ char ∈ chars, char ≠ '[' ∧ char ≠ ',' ∧ char ≠ ']'

private theorem read_plain {chars : List Char} (plain : Plain chars) (token : List Char)
    (stack : List (List Json)) :
    chars.foldl readChar (token, stack) = (chars.reverse ++ token, stack) := by
  induction chars generalizing token with
  | nil => rfl
  | cons char rest induction =>
      have own := plain char List.mem_cons_self
      have next : readChar (token, stack) char = (char :: token, stack) := by
        simp [readChar, own]
      rw [List.foldl_cons, next, induction fun char member =>
        plain char (List.mem_cons_of_mem _ member)]
      simp

private theorem number_chars (value : Int) :
    ∀ char ∈ value.repr.toList, char.isDigit = true ∨ char = '-' := by
  have digits (number : Nat) : ∀ char ∈ number.repr.toList, char.isDigit = true := by
    intro char member
    rw [Nat.toList_repr] at member
    exact Nat.isDigit_of_mem_toDigits (by decide) (by decide) member
  intro char member
  rw [Int.repr_eq_if] at member
  split_ifs at member with negative
  · exact Or.inl (digits _ char member)
  · rw [String.toList_append, List.mem_append] at member
    cases member with
    | inl sign => exact Or.inr (by simpa using sign)
    | inr digit => exact Or.inl (digits _ char digit)

private theorem number_plain (value : Int) : Plain value.repr.toList := by
  intro char member
  have digit := number_chars value char member
  constructor
  · rintro rfl
    revert digit
    decide
  constructor
  · rintro rfl
    revert digit
    decide
  · rintro rfl
    revert digit
    decide

private theorem number_not_null (value : Int) : value.repr.toList ≠ "null".toList := by
  intro same
  have member : 'n' ∈ value.repr.toList := by
    rw [same]
    decide
  exact absurd (number_chars value 'n' member) (by decide)

private theorem number_written (value : Int) : value.repr.toList ≠ [] := by
  rw [Int.repr_eq_if]
  split_ifs
  · rw [Nat.toList_repr]
    exact Nat.toDigits_ne_nil
  · simp

private theorem close_written {chars : List Char} (written : chars ≠ []) (items : List Json)
    (stack : List (List Json)) :
    closeToken chars.reverse (items :: stack) =
      ((if chars = "null".toList then .null else .number (String.ofList chars)) :: items) ::
        stack := by
  cases token : chars.reverse with
  | nil => exact absurd (List.reverse_eq_nil_iff.mp token) written
  | cons char rest =>
      have back : (char :: rest).reverse = chars := by rw [← token, List.reverse_reverse]
      rw [closeToken, back]
      simp

private theorem close_number (value : Int) (items : List Json) (stack : List (List Json)) :
    closeToken value.repr.toList.reverse (items :: stack) =
      (.number value.repr :: items) :: stack := by
  rw [close_written (number_written value), if_neg (number_not_null value), String.ofList_toList]

private theorem read_open (token : List Char) (stack : List (List Json)) :
    readChar (token, stack) '[' = ([], [] :: stack) := rfl

private theorem read_comma (token : List Char) (stack : List (List Json)) :
    readChar (token, stack) ',' = ([], closeToken token stack) := rfl

private theorem read_close {token : List Char} {stack rest : List (List Json)}
    {items parent : List Json} (closed : closeToken token stack = items :: parent :: rest) :
    readChar (token, stack) ']' = ([], (.array items.reverse :: parent) :: rest) := by
  simp [readChar, closed]

private theorem read_interval_text (start : Int) {chars : List Char} {value : Json}
    (plain : Plain chars)
    (closed : ∀ items stack, closeToken chars.reverse (items :: stack) =
      (value :: items) :: stack) (items : List Json) (stack : List (List Json)) :
    ('[' :: (start.repr.toList ++ ',' :: (chars ++ [']']))).foldl readChar ([], items :: stack) =
      ([], (.array [.number start.repr, value] :: items) :: stack) := by
  rw [List.foldl_cons, read_open, List.foldl_append, read_plain (number_plain start),
    List.append_nil, List.foldl_cons, read_comma, close_number, List.foldl_append,
    read_plain plain, List.append_nil, List.foldl_cons, read_close (closed _ _)]
  rfl

private theorem read_interval (interval : I64 × Option I64) (items : List Json)
    (stack : List (List Json)) :
    (pauseIntervalText interval).foldl readChar ([], items :: stack) =
      ([], (pauseIntervalValue interval :: items) :: stack) := by
  cases interval with
  | mk start stop =>
      cases stop with
      | none =>
          have plain : Plain "null".toList := by
            intro char member
            have listed : char ∈ ['n', 'u', 'l', 'l'] := member
            fin_cases listed <;> decide
          have closed (items : List Json) (stack : List (List Json)) :
              closeToken "null".toList.reverse (items :: stack) = (.null :: items) :: stack := by
            rw [close_written (by decide), if_pos rfl]
          have read := read_interval_text start.val plain closed items stack
          simpa [pauseIntervalText, pauseIntervalValue] using read
      | some stop =>
          have read := read_interval_text start.val (number_plain stop.val)
            (close_number stop.val) items stack
          simpa [pauseIntervalText, pauseIntervalValue] using read

private theorem read_rest (rest : List (I64 × Option I64)) :
    ∀ (items : List Json) (stack : List (List Json)),
      ((rest.flatMap fun interval => ',' :: pauseIntervalText interval).foldl readChar
          ([], items :: stack)) =
        ([], ((rest.map pauseIntervalValue).reverse ++ items) :: stack) := by
  induction rest with
  | nil =>
      intro items stack
      rfl
  | cons interval rest induction =>
      intro items stack
      rw [List.flatMap_cons, List.foldl_append, List.foldl_cons, read_comma]
      change List.foldl readChar (List.foldl readChar ([], items :: stack) _) _ = _
      rw [read_interval, induction]
      simp

private theorem intercalate_comma (interval : I64 × Option I64) (rest : List (I64 × Option I64)) :
    [','].intercalate ((interval :: rest).map pauseIntervalText) =
      pauseIntervalText interval ++
        rest.flatMap fun interval => ',' :: pauseIntervalText interval := by
  induction rest generalizing interval with
  | nil => simp
  | cons next rest induction =>
      have later := induction next
      rw [List.map_cons] at later
      rw [List.map_cons, List.map_cons, List.intercalate_cons_cons, later, List.flatMap_cons]
      simp

private theorem array_reads_back : @ReadsPausesBack arrayExternals := by
  intro intervals
  have folded : (pauseIntervalsText intervals).toList.foldl readChar ([], [[]]) =
      ([], [[pauseIntervalsValue intervals]]) := by
    rw [pauseIntervalsText, String.toList_ofList, List.cons_append, List.foldl_cons, read_open]
    cases intervals with
    | nil => rfl
    | cons interval rest =>
        rw [intercalate_comma, List.append_assoc, List.foldl_append, read_interval,
          List.foldl_append, read_rest, List.foldl_cons, read_close rfl]
        simp [pauseIntervalsValue]
  change (match ((pauseIntervalsText intervals).toList.foldl readChar ([], [[]])).2 with
    | [[value]] => some value
    | _ => none) = _
  rw [folded]

private def noRecordings : CapState := ⟨Table.empty, fun _ => none⟩

private def wallMs (ms : Int) : I64 := .ofInt ms

/-- A recording since the start of the clock, with a cap of a minute. -/
private def openSince (intervals : List (I64 × Option I64)) : StoredRecordings where
  rows := [⟨1, wallMs 0, none, wallMs 60000, pauseIntervalsText intervals⟩]
  distinct := List.nodup_singleton _

private theorem open_since_read (intervals : List (I64 × Option I64)) :
    @StoredRecordings.pauseIntervals (openSince intervals) arrayExternals 1 = .ok intervals :=
  @parse_written arrayExternals intervals (array_reads_back intervals)

private theorem open_since_paused (pausedTs : I64) :
    @StoredRecordings.pauseRecordSession none (openSince []) arrayExternals 1 pausedTs =
      .ok (openSince [(pausedTs, none)]) := by
  unfold StoredRecordings.pauseRecordSession
  rw [open_since_read]
  rfl

private theorem open_since_resumed (pausedTs resumedTs : I64) (passes : pausedTs ≤ resumedTs) :
    @StoredRecordings.resumeRecordSession none (openSince [(pausedTs, none)]) arrayExternals 1
      resumedTs = .ok (openSince [(pausedTs, some resumedTs)]) := by
  unfold StoredRecordings.resumeRecordSession
  rw [open_since_read]
  change Except.ok (openSince [(pausedTs, some (max resumedTs pausedTs))]) = _
  rw [max_eq_left passes]

/-- A pause of a second, resumed by the clock of the commands half a second ahead of the clock
of the polls. -/
private def resumedAhead : List RecordingCall :=
  [.start 1 (wallMs 0) (wallMs 60000), .pause 1 (wallMs 100000) none,
    .resume 1 (wallMs 101000) none]

private theorem resumed_ahead_run :
    ((@capMachine arrayExternals).run noRecordings resumedAhead).recordings =
      openSince [(wallMs 100000, some (wallMs 101000))] := by
  let started := noRecordings.start 1 (wallMs 0) (wallMs 60000)
  let paused := (@CapState.step arrayExternals started (.pause 1 (wallMs 100000) none)).1
  have opened : started.recordings = openSince [] := rfl
  have suspended : paused.recordings = openSince [(wallMs 100000, none)] := by
    simp only [paused, CapState.step, opened, open_since_paused]
    rfl
  change (@CapState.step arrayExternals paused (.resume 1 (wallMs 101000) none)).1.recordings = _
  simp only [CapState.step, suspended, open_since_resumed _ _ (show wallMs 100000 ≤ wallMs 101000
    by decide)]
  rfl

private def askedFreely : CapPollReadings := ⟨false, some fun _ => true, none⟩

/-- A recording with a cap of a second, paused for a while and asked about. -/
private def pausedOnce : List RecordingCall :=
  [.start 1 (wallMs 1000) (wallMs 1000), .pause 1 (wallMs 1500) none,
    .poll askedFreely (wallMs 3000), .resume 1 (wallMs 3500) none, .poll askedFreely (wallMs 4200)]

theorem recordings_run_accounted_once :
    @RunAccounted arrayExternals (fun _ => none) noRecordings pausedOnce :=
  @recordings_run_accounted arrayExternals (fun _ => none) array_reads_back noRecordings
    (fun _ member => absurd member List.not_mem_nil) pausedOnce (by decide) (by decide)

/-- The poll takes the whole pause off, the dashboard only the half second it has seen of it. -/
theorem resume_ahead_of_poll :
    ¬∀ (state : CapState), (∀ session ∈ state.recordings.rows, session.endedTs ≠ none) →
      ∀ calls, ((commandTimes calls).Pairwise fun earlier later => earlier ≤ later) →
      (∀ timestamp ∈ commandTimes calls, 0 ≤ timestamp.val) →
      ∀ session ∈ ((@capMachine arrayExternals).run state calls).recordings.rows,
        session.endedTs = none → ∀ nowMs : I64, 0 ≤ nowMs.val →
          @recordingDurationMs arrayExternals (fun _ => none) session.startedTs session.endedTs
              session.pauseIntervalsJson nowMs =
            some (@StoredRecording.elapsedActiveMs arrayExternals session nowMs) := by
  intro agree
  have rows := congrArg Table.rows resumed_ahead_run
  have member : (⟨1, wallMs 0, none, wallMs 60000,
        pauseIntervalsText [(wallMs 100000, some (wallMs 101000))]⟩ : StoredRecording) ∈
      ((@capMachine arrayExternals).run noRecordings resumedAhead).recordings.rows := by
    rw [rows]
    exact List.mem_singleton_self _
  have same := agree noRecordings (fun _ none => absurd none List.not_mem_nil) resumedAhead
    (by decide) (by decide) _ member rfl (wallMs 100500) (by decide)
  have written := @parse_written arrayExternals _ (array_reads_back
    [(wallMs 100000, some (wallMs 101000))])
  simp only [recordingDurationMs, @decode_written arrayExternals _ array_reads_back,
    StoredRecording.elapsedActiveMs, pausedTotalMsOf, written] at same
  exact absurd same (by decide)

end Parser

end Gilbreth.Read
