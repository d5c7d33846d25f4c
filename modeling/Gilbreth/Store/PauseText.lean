import Gilbreth.Store.Recording

/-!
# Pause intervals as they are stored

The pauses of a recording stand in one text column. Each command parses the text,
changes the list and writes the text again; the cap prompt parses it at every
poll. The printed form of an array of integers and nulls is fixed, so it is
written out; the parser is a library function.
-/

set_option autoImplicit false

namespace Gilbreth.Store

open Gilbreth.Core

section Text

/-- `serde_json::Value::from` of an interval. -/
def pauseIntervalValue (interval : I64 × Option I64) : Json :=
  .array [.number (toString interval.1.val),
    match interval.2 with
    | some stop => .number (toString stop.val)
    | none => .null]

def pauseIntervalsValue (intervals : List (I64 × Option I64)) : Json :=
  .array (intervals.map pauseIntervalValue)

def pauseIntervalText (interval : I64 × Option I64) : List Char :=
  '[' :: (toString interval.1.val).toList ++ ',' ::
    (match interval.2 with
    | some stop => (toString stop.val).toList
    | none => "null".toList) ++ [']']

/-- `value.to_string()` of the array `write_pause_intervals` builds. -/
def pauseIntervalsText (intervals : List (I64 × Option I64)) : String :=
  String.ofList ('[' :: [','].intercalate (intervals.map pauseIntervalText) ++ [']'])

/-- `Number::as_i64` of a number token; a negative zero is read as a float. -/
def numberI64 (token : String) : Option I64 :=
  if token = "-0" then none
  else token.toInt?.bind fun value =>
    if (I64.ofInt value).val = value then some (I64.ofInt value) else none

/-- `Value::as_i64` -/
def jsonI64 : Json → Option I64
  | .number token => numberI64 token
  | _ => none

def parsePauseInterval (interval : Json) : Except StoreError (I64 × Option I64) :=
  match interval with
  | .array items =>
      match items with
      | [first, second] =>
          match jsonI64 first with
          | none => .error (.recordRoutine "pause interval start must be integer")
          | some start =>
              match second with
              | .null => .ok (start, none)
              | second =>
                  match jsonI64 second with
                  | none => .error (.recordRoutine "pause interval end must be integer")
                  | some stop => .ok (start, some stop)
      | _ => .error (.recordRoutine "pause interval must have start and end")
  | _ => .error (.recordRoutine "pause interval must be an array")

/-- `parse_pause_intervals`. The parser's own error text stands for itself. -/
def parsePauseIntervals [StoreExternals] (json : String) :
    Except StoreError (List (I64 × Option I64)) :=
  match StoreExternals.parseJson json with
  | none => .error (.json "parse error")
  | some (.array intervals) => intervals.mapM parsePauseInterval
  | some _ => .error (.recordRoutine "pause_intervals_json must be an array")

/-- `paused_total_ms_at`, from the text. -/
def pausedTotalMsOf [StoreExternals] (json : String) (nowMs : I64) : Except StoreError I64 :=
  (parsePauseIntervals json).map fun intervals => WriterState.pausedTotalMsAt intervals nowMs

end Text

/-- A row of `record_sessions`, as far as pauses and cap prompts read it. -/
structure StoredRecording where
  recordSessionId : Int
  startedTs : I64
  endedTs : Option I64
  safetyCapMs : I64
  pauseIntervalsJson : String
deriving DecidableEq

abbrev StoredRecordings := Table StoredRecording.recordSessionId

namespace StoredRecordings

variable (fault : Option StoreError) (recordings : StoredRecordings)

def pauseIntervals [StoreExternals] (recordSessionId : Int) :
    Except StoreError (List (I64 × Option I64)) :=
  match recordings.rows.find? fun row => row.recordSessionId == recordSessionId with
  | some row => parsePauseIntervals row.pauseIntervalsJson
  | none => .error (.sqlite .other "Query returned no rows")

/-- The write skips a recording that has ended. -/
def writePauseIntervals (recordSessionId : Int) (intervals : List (I64 × Option I64)) :
    Except StoreError StoredRecordings :=
  statement fault
    (recordings.updateWhere
      (fun row => row.recordSessionId == recordSessionId && row.endedTs.isNone)
      (fun row => { row with pauseIntervalsJson := pauseIntervalsText intervals }) fun _ => rfl)

def pauseRecordSession [StoreExternals] (recordSessionId : Int) (pausedTs : I64) :
    Except StoreError StoredRecordings := do
  let intervals ← recordings.pauseIntervals recordSessionId
  if intervals.getLast?.any fun interval => interval.2.isNone then statement fault recordings
  else recordings.writePauseIntervals fault recordSessionId (intervals ++ [(pausedTs, none)])

def resumeRecordSession [StoreExternals] (recordSessionId : Int) (resumedTs : I64) :
    Except StoreError StoredRecordings := do
  let intervals ← recordings.pauseIntervals recordSessionId
  recordings.writePauseIntervals fault recordSessionId
    (Database.closeLastInterval resumedTs intervals)

def closeRecordSession (recordSessionId : Int) (endedTs : I64) :
    Except StoreError StoredRecordings :=
  statement fault
    (recordings.updateWhere
      (fun row => row.recordSessionId == recordSessionId && row.endedTs.isNone)
      (fun row => { row with endedTs := some (max row.startedTs endedTs) }) fun _ => rfl)

/-- `ORDER BY started_ts, record_session_id`. -/
def openRecordSessions : Except StoreError (List StoredRecording) :=
  statement fault
    ((recordings.rows.filter fun row => row.endedTs.isNone).mergeSort
      fun left right => decide (left.startedTs < right.startedTs ∨
        left.startedTs = right.startedTs ∧ left.recordSessionId ≤ right.recordSessionId))

end StoredRecordings

section CapPrompts

variable [StoreExternals]

structure CapPrompt where
  recordSessionId : Int
  windowIndex : Int
  elapsedActiveMs : I64
  safetyCapMs : I64
deriving DecidableEq

/-- The active time `poll_cap_prompt` computes; a text that does not parse counts as no pause. -/
def StoredRecording.elapsedActiveMs (session : StoredRecording) (nowMs : I64) : I64 :=
  let pausedTotalMs := (pausedTotalMsOf session.pauseIntervalsJson nowMs).toOption.getD (.ofInt 0)
  max ((nowMs.satSub session.startedTs).satSub pausedTotalMs) (.ofInt 0)

def StoredRecording.capPrompt (session : StoredRecording) (nowMs : I64) : CapPrompt where
  recordSessionId := session.recordSessionId
  windowIndex := (session.elapsedActiveMs nowMs).val / session.safetyCapMs.val
  elapsedActiveMs := session.elapsedActiveMs nowMs
  safetyCapMs := session.safetyCapMs

/-- What one cap poll reads: the prompt flag, which notifications the channel takes, and the
statement. -/
structure CapPollReadings where
  promptInFlight : Bool
  notify : Option (Int → Bool)
  fault : Option StoreError

/-- The recordings and the windows the writer has asked about. -/
structure CapState where
  recordings : StoredRecordings
  capPromptedWindows : Int → Option Int

/-- The body of the loop up to the notification. -/
def needsPrompt (capPromptedWindows : Int → Option Int) (nowMs : I64)
    (session : StoredRecording) : Bool :=
  decide (0 < session.safetyCapMs.val) && decide (0 < (session.capPrompt nowMs).windowIndex) &&
    !(capPromptedWindows session.recordSessionId).any fun prompted =>
      decide ((session.capPrompt nowMs).windowIndex ≤ prompted)

/-- `poll_cap_prompt`: the first recording that needs a prompt and whose notification is taken. -/
def CapState.pollCapPrompt (state : CapState) (readings : CapPollReadings) (nowMs : I64) :
    CapState × Option CapPrompt :=
  if readings.promptInFlight then (state, none)
  else
    match readings.notify, state.recordings.openRecordSessions readings.fault with
    | some accepted, .ok sessions =>
        match sessions.find? fun session =>
            needsPrompt state.capPromptedWindows nowMs session &&
              accepted session.recordSessionId with
        | some session =>
            ({ state with
               capPromptedWindows := Function.update state.capPromptedWindows
                 session.recordSessionId (some (session.capPrompt nowMs).windowIndex) },
              some (session.capPrompt nowMs))
        | none => (state, none)
    | _, _ => (state, none)

/-- What happens to recordings: the four commands, with the timestamp of each and how its
statement fails, and a poll. -/
inductive RecordingCall where
  | start (recordSessionId : Int) (startedTs safetyCapMs : I64)
  | pause (recordSessionId : Int) (pausedTs : I64) (fault : Option StoreError)
  | resume (recordSessionId : Int) (resumedTs : I64) (fault : Option StoreError)
  | stop (recordSessionId : Int) (endedTs : I64) (fault : Option StoreError)
  | poll (readings : CapPollReadings) (nowMs : I64)

/-- The timestamp of a command; a poll has another clock. -/
def RecordingCall.timestamp : RecordingCall → Option I64
  | .start _ startedTs _ => some startedTs
  | .pause _ pausedTs _ => some pausedTs
  | .resume _ resumedTs _ => some resumedTs
  | .stop _ endedTs _ => some endedTs
  | .poll _ _ => none

/-- A recording opens under an id the table has not used, without pauses. -/
def CapState.start (state : CapState) (recordSessionId : Int) (startedTs safetyCapMs : I64) :
    CapState :=
  if fresh : recordSessionId ∉ state.recordings.rows.map StoredRecording.recordSessionId then
    { recordings := state.recordings.append
        ⟨recordSessionId, startedTs, none, safetyCapMs, "[]"⟩ fresh
      capPromptedWindows := Function.update state.capPromptedWindows recordSessionId none }
  else state

/-- A command that fails changes nothing; a stop that succeeds forgets the prompted windows. -/
def CapState.step (state : CapState) : RecordingCall → CapState × Option CapPrompt
  | .start recordSessionId startedTs safetyCapMs =>
      (state.start recordSessionId startedTs safetyCapMs, none)
  | .pause recordSessionId pausedTs fault =>
      ({ state with
         recordings := (state.recordings.pauseRecordSession fault recordSessionId
           pausedTs).toOption.getD state.recordings }, none)
  | .resume recordSessionId resumedTs fault =>
      ({ state with
         recordings := (state.recordings.resumeRecordSession fault recordSessionId
           resumedTs).toOption.getD state.recordings }, none)
  | .stop recordSessionId endedTs fault =>
      match state.recordings.closeRecordSession fault recordSessionId endedTs with
      | .ok recordings =>
          ({ recordings
             capPromptedWindows := Function.update state.capPromptedWindows recordSessionId none },
            none)
      | .error _ => (state, none)
  | .poll readings nowMs => state.pollCapPrompt readings nowMs

def capMachine : Machine CapState RecordingCall (Option CapPrompt) where
  step := CapState.step

end CapPrompts

end Gilbreth.Store
