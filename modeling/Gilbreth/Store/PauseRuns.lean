import Gilbreth.Store.PauseIntervals

/-!
# Runs of recordings, pauses and cap prompts

The timestamps of the commands of a run grow, whatever the clock of the polls
shows. Every recording that is open then has its pauses in order up to the last
command, and the prompts of one recording name larger and larger windows.
-/

set_option autoImplicit false

namespace Gilbreth.Store

open Gilbreth.Core

variable [StoreExternals]

/-- The library reads back each text that was printed of a list of pauses. -/
def ReadsPausesBack : Prop :=
  ∀ intervals, StoreExternals.parseJson (pauseIntervalsText intervals) =
    some (pauseIntervalsValue intervals)

section Commands

variable {recordings after : StoredRecordings} {fault : Option StoreError}
  {recordSessionId : Int} {timestamp : I64}

theorem read_pause_intervals {intervals : List (I64 × Option I64)}
    (read : recordings.pauseIntervals recordSessionId = .ok intervals)
    {row : StoredRecording} (member : row ∈ recordings.rows)
    (own : row.recordSessionId = recordSessionId) :
    parsePauseIntervals row.pauseIntervalsJson = .ok intervals := by
  unfold StoredRecordings.pauseIntervals at read
  cases found : recordings.rows.find? fun row => row.recordSessionId == recordSessionId with
  | none => simp [found] at read
  | some first =>
      rw [found] at read
      have fits := List.find?_some found
      have same : first = row :=
        recordings.eq_of_key (List.mem_of_find?_eq_some found) member
          ((eq_of_beq fits).trans own.symm)
      rw [← same]
      exact read

omit [StoreExternals] in
/-- A row after a write is a row from before, or the open recording with its new text. -/
theorem written_row {intervals : List (I64 × Option I64)}
    (written : recordings.writePauseIntervals fault recordSessionId intervals = .ok after)
    {row : StoredRecording} (member : row ∈ after.rows) :
    row ∈ recordings.rows ∨ ∃ earlier ∈ recordings.rows,
      earlier.recordSessionId = recordSessionId ∧ earlier.endedTs = none ∧
        row = { earlier with pauseIntervalsJson := pauseIntervalsText intervals } := by
  have ⟨_, same⟩ := statement_ok written
  rw [same] at member
  have ⟨earlier, listed, changed⟩ := List.mem_map.mp member
  split_ifs at changed with fits
  · rw [Bool.and_eq_true, beq_iff_eq, Option.isNone_iff_eq_none] at fits
    exact Or.inr ⟨earlier, listed, fits.1, fits.2, changed.symm⟩
  · rw [← changed]
    exact Or.inl listed

/-- What a pause or a resume makes of a row. -/
def Rewritten (change : List (I64 × Option I64) → List (I64 × Option I64) → Prop)
    (recordings : StoredRecordings) (recordSessionId : Int) (row : StoredRecording) : Prop :=
  ∃ earlier ∈ recordings.rows, earlier.recordSessionId = recordSessionId ∧
    earlier.endedTs = none ∧ ∃ before later,
      parsePauseIntervals earlier.pauseIntervalsJson = .ok before ∧ change before later ∧
        row = { earlier with pauseIntervalsJson := pauseIntervalsText later }

theorem paused_row
    (paused : recordings.pauseRecordSession fault recordSessionId timestamp = .ok after)
    {row : StoredRecording} (member : row ∈ after.rows) :
    row ∈ recordings.rows ∨ Rewritten
      (fun before later => (before.getLast?.any fun interval => interval.2.isNone) = false ∧
        later = before ++ [(timestamp, none)]) recordings recordSessionId row := by
  unfold StoredRecordings.pauseRecordSession at paused
  cases read : recordings.pauseIntervals recordSessionId with
  | error error =>
      rw [read] at paused
      cases paused
  | ok before =>
      rw [read] at paused
      change (if _ then _ else _) = _ at paused
      split_ifs at paused with isOpen
      · rw [(statement_ok paused).2] at member
        exact Or.inl member
      · cases written_row paused member with
        | inl kept => exact Or.inl kept
        | inr changed =>
            have ⟨earlier, listed, own, isRunning, same⟩ := changed
            exact Or.inr ⟨earlier, listed, own, isRunning, before, _,
              read_pause_intervals read listed own, ⟨Bool.eq_false_iff.mpr isOpen, rfl⟩, same⟩

theorem resumed_row
    (resumed : recordings.resumeRecordSession fault recordSessionId timestamp = .ok after)
    {row : StoredRecording} (member : row ∈ after.rows) :
    row ∈ recordings.rows ∨ Rewritten
      (fun before later => later = Database.closeLastInterval timestamp before) recordings
      recordSessionId row := by
  unfold StoredRecordings.resumeRecordSession at resumed
  cases read : recordings.pauseIntervals recordSessionId with
  | error error =>
      rw [read] at resumed
      cases resumed
  | ok before =>
      rw [read] at resumed
      cases written_row resumed member with
      | inl kept => exact Or.inl kept
      | inr changed =>
          have ⟨earlier, listed, own, isRunning, same⟩ := changed
          exact Or.inr ⟨earlier, listed, own, isRunning, before, _,
            read_pause_intervals read listed own, rfl, same⟩

omit [StoreExternals] in
theorem closed_row
    (closed : recordings.closeRecordSession fault recordSessionId timestamp = .ok after)
    {row : StoredRecording} (member : row ∈ after.rows) (running : row.endedTs = none) :
    row ∈ recordings.rows ∧ row.recordSessionId ≠ recordSessionId := by
  have ⟨_, same⟩ := statement_ok closed
  rw [same] at member
  have ⟨earlier, listed, changed⟩ := List.mem_map.mp member
  split_ifs at changed with fits
  · rw [← changed] at running
    cases running
  · rw [← changed] at running ⊢
    constructor
    · exact listed
    · intro own
      simp [own, running] at fits

/-- The recordings a table knows, open or not. -/
def StoredRecordings.ids (recordings : StoredRecordings) : List Int :=
  recordings.rows.map StoredRecording.recordSessionId

omit [StoreExternals] in
theorem written_ids {intervals : List (I64 × Option I64)}
    (written : recordings.writePauseIntervals fault recordSessionId intervals = .ok after) :
    after.ids = recordings.ids := by
  rw [(statement_ok written).2]
  exact Table.keys_update_where _ _ _ _

theorem paused_ids
    (paused : recordings.pauseRecordSession fault recordSessionId timestamp = .ok after) :
    after.ids = recordings.ids := by
  unfold StoredRecordings.pauseRecordSession at paused
  cases read : recordings.pauseIntervals recordSessionId with
  | error error =>
      rw [read] at paused
      cases paused
  | ok before =>
      rw [read] at paused
      change (if _ then _ else _) = _ at paused
      split_ifs at paused with isOpen
      · rw [(statement_ok paused).2]
      · exact written_ids paused

theorem resumed_ids
    (resumed : recordings.resumeRecordSession fault recordSessionId timestamp = .ok after) :
    after.ids = recordings.ids := by
  unfold StoredRecordings.resumeRecordSession at resumed
  cases read : recordings.pauseIntervals recordSessionId with
  | error error =>
      rw [read] at resumed
      cases resumed
  | ok before =>
      rw [read] at resumed
      exact written_ids resumed

omit [StoreExternals] in
theorem closed_ids
    (closed : recordings.closeRecordSession fault recordSessionId timestamp = .ok after) :
    after.ids = recordings.ids := by
  rw [(statement_ok closed).2]
  exact Table.keys_update_where _ _ _ _

end Commands

section Steps

variable {state : CapState}

theorem poll_cases (readings : CapPollReadings) (nowMs : I64) :
    state.pollCapPrompt readings nowMs = (state, none) ∨
      ∃ session ∈ state.recordings.rows, session.endedTs = none ∧
        needsPrompt state.capPromptedWindows nowMs session = true ∧
        state.pollCapPrompt readings nowMs =
          ({ state with
             capPromptedWindows := Function.update state.capPromptedWindows
               session.recordSessionId (some (session.capPrompt nowMs).windowIndex) },
            some (session.capPrompt nowMs)) := by
  unfold CapState.pollCapPrompt
  split_ifs with prompting
  · exact Or.inl rfl
  split
  · rename_i accepted sessions _ listed
    split
    · rename_i session found
      have fits := List.find?_some found
      rw [Bool.and_eq_true] at fits
      have member := List.mem_of_find?_eq_some found
      rw [(statement_ok listed).2, List.mem_mergeSort, List.mem_filter,
        Option.isNone_iff_eq_none] at member
      exact Or.inr ⟨session, member.1, member.2, fits.1, rfl⟩
    · exact Or.inl rfl
  · exact Or.inl rfl

theorem poll_recordings (readings : CapPollReadings) (nowMs : I64) :
    (state.pollCapPrompt readings nowMs).1.recordings = state.recordings := by
  cases poll_cases readings nowMs with
  | inl nothing => rw [nothing]
  | inr prompts =>
      have ⟨_, _, _, _, prompted⟩ := prompts
      rw [prompted]

/-- Where an open recording comes from: it was there, it was just started, or its pauses were
just rewritten. -/
theorem step_row {call : RecordingCall} {row : StoredRecording}
    (member : row ∈ (state.step call).1.recordings.rows) (running : row.endedTs = none) :
    row ∈ state.recordings.rows ∨
      (∃ recordSessionId startedTs safetyCapMs,
        call = .start recordSessionId startedTs safetyCapMs ∧
        recordSessionId ∉ state.recordings.rows.map StoredRecording.recordSessionId ∧
        row = ⟨recordSessionId, startedTs, none, safetyCapMs, "[]"⟩) ∨
      (∃ recordSessionId pausedTs fault, call = .pause recordSessionId pausedTs fault ∧ Rewritten
        (fun before later => (before.getLast?.any fun interval => interval.2.isNone) = false ∧
          later = before ++ [(pausedTs, none)]) state.recordings recordSessionId row) ∨
      ∃ recordSessionId resumedTs fault, call = .resume recordSessionId resumedTs fault ∧ Rewritten
        (fun before later => later = Database.closeLastInterval resumedTs before)
        state.recordings recordSessionId row := by
  cases call with
  | start recordSessionId startedTs safetyCapMs =>
      by_cases fresh :
          recordSessionId ∉ state.recordings.rows.map StoredRecording.recordSessionId
      · simp only [CapState.step, CapState.start, dif_pos fresh, Table.append] at member
        cases List.mem_append.mp member with
        | inl earlier => exact Or.inl earlier
        | inr latest =>
            exact Or.inr (Or.inl ⟨_, _, _, rfl, fresh, List.mem_singleton.mp latest⟩)
      · simp only [CapState.step, CapState.start, dif_neg fresh] at member
        exact Or.inl member
  | pause recordSessionId pausedTs fault =>
      simp only [CapState.step] at member
      cases paused : state.recordings.pauseRecordSession fault recordSessionId pausedTs with
      | error error =>
          rw [paused] at member
          exact Or.inl member
      | ok after =>
          rw [paused] at member
          cases paused_row paused member with
          | inl kept => exact Or.inl kept
          | inr changed => exact Or.inr (Or.inr (Or.inl ⟨_, _, _, rfl, changed⟩))
  | resume recordSessionId resumedTs fault =>
      simp only [CapState.step] at member
      cases resumed : state.recordings.resumeRecordSession fault recordSessionId resumedTs with
      | error error =>
          rw [resumed] at member
          exact Or.inl member
      | ok after =>
          rw [resumed] at member
          cases resumed_row resumed member with
          | inl kept => exact Or.inl kept
          | inr changed => exact Or.inr (Or.inr (Or.inr ⟨_, _, _, rfl, changed⟩))
  | stop recordSessionId endedTs fault =>
      simp only [CapState.step] at member
      cases closed : state.recordings.closeRecordSession fault recordSessionId endedTs with
      | error error =>
          rw [closed] at member
          exact Or.inl member
      | ok after =>
          rw [closed] at member
          exact Or.inl (closed_row closed member running).1
  | poll readings nowMs =>
      simp only [CapState.step, poll_recordings] at member
      exact Or.inl member

end Steps

section Times

/-- An open recording whose pauses lie in order between its start and a time. -/
structure RowInTime (row : StoredRecording) (upTo : I64) : Prop where
  nonneg : 0 ≤ row.startedTs.val
  begun : row.startedTs ≤ upTo
  paused : ∃ intervals, row.pauseIntervalsJson = pauseIntervalsText intervals ∧
    PausedInOrder row.startedTs upTo intervals

def CapState.InTime (state : CapState) (upTo : I64) : Prop :=
  ∀ row ∈ state.recordings.rows, row.endedTs = none → RowInTime row upTo

variable {upTo later : I64}

omit [StoreExternals] in
theorem RowInTime.mono {row : StoredRecording} (inTime : RowInTime row upTo)
    (passes : upTo ≤ later) : RowInTime row later where
  nonneg := inTime.nonneg
  begun := inTime.begun.trans passes
  paused := by
    have ⟨intervals, text, order⟩ := inTime.paused
    exact ⟨intervals, text, order.mono passes⟩

theorem RowInTime.rewritten (readsBack : ReadsPausesBack)
    {change : List (I64 × Option I64) → List (I64 × Option I64) → Prop}
    {recordings : StoredRecordings} {recordSessionId : Int} {row : StoredRecording}
    (inTime : ∀ row ∈ recordings.rows, row.endedTs = none → RowInTime row upTo)
    (keeps : ∀ started before after, started ≤ upTo → PausedInOrder started upTo before →
      change before after → PausedInOrder started later after)
    (passes : upTo ≤ later) (changed : Rewritten change recordings recordSessionId row) :
    RowInTime row later := by
  have ⟨earlier, listed, _, isRunning, before, after, parsed, made, same⟩ := changed
  have own := inTime earlier listed isRunning
  have ⟨intervals, text, order⟩ := own.paused
  rw [text, parse_written (readsBack intervals)] at parsed
  cases parsed
  rw [same]
  exact ⟨own.nonneg, own.begun.trans passes, after, rfl, keeps _ _ _ own.begun order made⟩

theorem in_time_step (readsBack : ReadsPausesBack) {state : CapState} {call : RecordingCall}
    (inTime : state.InTime upTo)
    (bounds : ∀ timestamp ∈ call.timestamp, upTo ≤ timestamp ∧ 0 ≤ timestamp.val) :
    (state.step call).1.InTime (call.timestamp.getD upTo) := by
  have passes : upTo ≤ call.timestamp.getD upTo := by
    cases stamped : call.timestamp with
    | none => exact le_rfl
    | some timestamp => exact (bounds timestamp stamped).1
  intro row member running
  rcases step_row member running with kept | started | paused | resumed
  · exact (inTime row kept running).mono passes
  · have ⟨_, startedTs, _, same, _, made⟩ := started
    subst same
    rw [made]
    exact ⟨(bounds startedTs rfl).2, le_rfl, [], rfl, paused_in_order_nil⟩
  · have ⟨_, pausedTs, _, same, changed⟩ := paused
    subst same
    apply RowInTime.rewritten readsBack inTime _ passes changed
    intro started before after begun order made
    rw [made.2]
    exact order.pause made.1 begun passes
  · have ⟨_, resumedTs, _, same, changed⟩ := resumed
    subst same
    apply RowInTime.rewritten readsBack inTime _ passes changed
    intro started before after begun order made
    rw [made]
    exact order.resume passes

/-- The timestamps of the commands among the calls. -/
def commandTimes (calls : List RecordingCall) : List I64 := calls.filterMap RecordingCall.timestamp

def GrowingTimes (upTo : I64) (calls : List RecordingCall) : Prop :=
  (commandTimes calls).Pairwise (fun earlier later => earlier ≤ later) ∧
    ∀ timestamp ∈ commandTimes calls, upTo ≤ timestamp ∧ 0 ≤ timestamp.val

omit [StoreExternals] in
theorem GrowingTimes.cons {call : RecordingCall} {rest : List RecordingCall}
    (growing : GrowingTimes upTo (call :: rest)) :
    (∀ timestamp ∈ call.timestamp, upTo ≤ timestamp ∧ 0 ≤ timestamp.val) ∧
      GrowingTimes (call.timestamp.getD upTo) rest := by
  have ⟨ordered, bounds⟩ := growing
  cases stamped : call.timestamp with
  | none =>
      rw [commandTimes, List.filterMap_cons_none stamped] at ordered bounds
      exact ⟨fun timestamp none => absurd none (Option.not_mem_none _), ordered, bounds⟩
  | some own =>
      rw [commandTimes, List.filterMap_cons_some stamped] at ordered bounds
      have ⟨first, later⟩ := List.pairwise_cons.mp ordered
      have now := bounds own List.mem_cons_self
      constructor
      · rintro timestamp same
        rw [← Option.some.inj same]
        exact now
      · exact ⟨later, fun timestamp member =>
          ⟨first timestamp member, (bounds timestamp (List.mem_cons_of_mem _ member)).2⟩⟩

theorem in_time_run (readsBack : ReadsPausesBack) (calls : List RecordingCall) {state : CapState}
    (inTime : state.InTime upTo) (growing : GrowingTimes upTo calls)
    (passes : upTo ≤ later) (latest : ∀ timestamp ∈ commandTimes calls, timestamp ≤ later) :
    (capMachine.run state calls).InTime later := by
  induction calls generalizing state upTo with
  | nil =>
      intro row member running
      exact (inTime row member running).mono passes
  | cons call rest induction =>
      have ⟨bounds, growingRest⟩ := growing.cons
      apply induction (in_time_step readsBack inTime bounds) growingRest
      · cases stamped : call.timestamp with
        | none => exact passes
        | some own =>
            apply latest
            rw [commandTimes, List.filterMap_cons_some stamped]
            exact List.mem_cons_self
      · intro timestamp member
        apply latest
        have ⟨next, listed, stamped⟩ := List.mem_filterMap.mp member
        exact List.mem_filterMap.mpr ⟨next, List.mem_cons_of_mem _ listed, stamped⟩

end Times

section Prompts

theorem step_ids {state : CapState} (call : RecordingCall) {recordSessionId : Int}
    (known : recordSessionId ∈ state.recordings.ids) :
    recordSessionId ∈ (state.step call).1.recordings.ids := by
  cases call with
  | start newId startedTs safetyCapMs =>
      by_cases fresh : newId ∉ state.recordings.rows.map StoredRecording.recordSessionId
      · simp only [CapState.step, CapState.start, dif_pos fresh, StoredRecordings.ids,
          Table.append, List.map_append, List.mem_append]
        exact Or.inl known
      · simp only [CapState.step, CapState.start, dif_neg fresh]
        exact known
  | pause pausedId pausedTs fault =>
      simp only [CapState.step]
      cases paused : state.recordings.pauseRecordSession fault pausedId pausedTs with
      | error error => exact known
      | ok after => exact (paused_ids paused).symm ▸ known
  | resume resumedId resumedTs fault =>
      simp only [CapState.step]
      cases resumed : state.recordings.resumeRecordSession fault resumedId resumedTs with
      | error error => exact known
      | ok after => exact (resumed_ids resumed).symm ▸ known
  | stop stoppedId endedTs fault =>
      simp only [CapState.step]
      cases closed : state.recordings.closeRecordSession fault stoppedId endedTs with
      | error error => exact known
      | ok after => exact (closed_ids closed).symm ▸ known
  | poll readings nowMs =>
      simp only [CapState.step, poll_recordings]
      exact known

/-- The prompts sent so far, against what the writer remembers of them. -/
structure PromptsBelow (state : CapState) (sent : List CapPrompt) : Prop where
  known : ∀ prompt ∈ sent, prompt.recordSessionId ∈ state.recordings.ids
  below : ∀ prompt ∈ sent, ∀ row ∈ state.recordings.rows, row.endedTs = none →
    row.recordSessionId = prompt.recordSessionId →
      ∃ window, state.capPromptedWindows prompt.recordSessionId = some window ∧
        prompt.windowIndex ≤ window
  increasing : sent.Pairwise fun earlier later =>
    earlier.recordSessionId = later.recordSessionId → earlier.windowIndex < later.windowIndex

variable {state : CapState} {sent : List CapPrompt}

/-- An open recording that was known has its window kept, unless a poll prompts for it. -/
theorem step_windows (call : RecordingCall) {row : StoredRecording}
    (member : row ∈ (state.step call).1.recordings.rows) (running : row.endedTs = none)
    (known : row.recordSessionId ∈ state.recordings.ids)
    (silent : (state.step call).2 = none) :
    (state.step call).1.capPromptedWindows row.recordSessionId =
      state.capPromptedWindows row.recordSessionId := by
  cases call with
  | start newId startedTs safetyCapMs =>
      by_cases fresh : newId ∉ state.recordings.rows.map StoredRecording.recordSessionId
      · simp only [CapState.step, CapState.start, dif_pos fresh]
        apply Function.update_of_ne
        intro same
        rw [same] at known
        exact fresh known
      · simp only [CapState.step, CapState.start, dif_neg fresh]
  | pause pausedId pausedTs fault => rfl
  | resume resumedId resumedTs fault => rfl
  | stop stoppedId endedTs fault =>
      simp only [CapState.step] at member ⊢
      cases closed : state.recordings.closeRecordSession fault stoppedId endedTs with
      | error error => rfl
      | ok after =>
          rw [closed] at member
          exact Function.update_of_ne (closed_row closed member running).2 _ _
  | poll readings nowMs =>
      change (state.pollCapPrompt readings nowMs).2 = none at silent
      change (state.pollCapPrompt readings nowMs).1.capPromptedWindows _ = _
      rcases poll_cases readings nowMs with nothing | prompts
      · rw [nothing]
      · rcases prompts with ⟨_, _, _, _, prompted⟩
        rw [prompted] at silent
        cases silent

theorem step_row_before {call : RecordingCall} {row : StoredRecording}
    (member : row ∈ (state.step call).1.recordings.rows) (running : row.endedTs = none)
    (known : row.recordSessionId ∈ state.recordings.ids) :
    ∃ earlier ∈ state.recordings.rows, earlier.endedTs = none ∧
      earlier.recordSessionId = row.recordSessionId := by
  rcases step_row member running with kept | started | paused | resumed
  · exact ⟨row, kept, running, rfl⟩
  · have ⟨_, _, _, _, fresh, made⟩ := started
    rw [made] at known
    exact absurd known fresh
  · have ⟨_, _, _, _, earlier, listed, _, wasRunning, _, _, _, _, same⟩ := paused
    exact ⟨earlier, listed, wasRunning, by rw [same]⟩
  · have ⟨_, _, _, _, earlier, listed, _, wasRunning, _, _, _, _, same⟩ := resumed
    exact ⟨earlier, listed, wasRunning, by rw [same]⟩

theorem PromptsBelow.silent (below : PromptsBelow state sent) {call : RecordingCall}
    (silent : (state.step call).2 = none) : PromptsBelow (state.step call).1 sent where
  known prompt member := step_ids call (below.known prompt member)
  below prompt member row listed running own := by
    have known := below.known prompt member
    rw [← own] at known ⊢
    have ⟨earlier, wasListed, wasRunning, same⟩ := step_row_before listed running known
    rw [step_windows call listed running known silent, own]
    exact below.below prompt member earlier wasListed wasRunning (same.trans own)
  increasing := below.increasing

theorem needs_prompt_iff {windows : Int → Option Int} {nowMs : I64} {session : StoredRecording} :
    needsPrompt windows nowMs session = true ↔
      0 < session.safetyCapMs.val ∧ 0 < (session.capPrompt nowMs).windowIndex ∧
        ∀ window, windows session.recordSessionId = some window →
          window < (session.capPrompt nowMs).windowIndex := by
  unfold needsPrompt
  cases windows session.recordSessionId <;> simp [and_assoc]

/-- What a poll sends is the prompt of an open recording, for a window it has reached and that
is beyond all it was asked about. -/
theorem sent_prompt {call : RecordingCall} {prompt : CapPrompt}
    (output : (state.step call).2 = some prompt) :
    ∃ readings nowMs, call = .poll readings nowMs ∧
      ∃ session ∈ state.recordings.rows, session.endedTs = none ∧
        needsPrompt state.capPromptedWindows nowMs session = true ∧
        prompt = session.capPrompt nowMs ∧
        (state.step call).1 =
          { state with
            capPromptedWindows := Function.update state.capPromptedWindows
              session.recordSessionId (some (session.capPrompt nowMs).windowIndex) } := by
  cases call with
  | start newId startedTs safetyCapMs => cases output
  | pause pausedId pausedTs fault => cases output
  | resume resumedId resumedTs fault => cases output
  | stop stoppedId endedTs fault =>
      simp only [CapState.step] at output
      split at output <;> cases output
  | poll readings nowMs =>
      change (state.pollCapPrompt readings nowMs).2 = some prompt at output
      rcases poll_cases readings nowMs with nothing | prompts
      · rw [nothing] at output
        cases output
      · have ⟨session, listed, running, needed, prompted⟩ := prompts
        rw [prompted] at output
        exact ⟨readings, nowMs, rfl, session, listed, running, needed,
          (Option.some.inj output).symm, congrArg Prod.fst prompted⟩

theorem prompts_below_step (below : PromptsBelow state sent) (call : RecordingCall) :
    PromptsBelow (state.step call).1 (sent ++ (state.step call).2.toList) := by
  cases output : (state.step call).2 with
  | none =>
      rw [Option.toList_none, List.append_nil]
      exact below.silent output
  | some prompt =>
      have ⟨_, nowMs, _, session, listed, running, needed, made, after⟩ := sent_prompt output
      have ⟨_, _, newer⟩ := needs_prompt_iff.mp needed
      have own : prompt.recordSessionId = session.recordSessionId := by rw [made]; rfl
      have window : prompt.windowIndex = (session.capPrompt nowMs).windowIndex := by rw [made]
      have earlier (old : CapPrompt) (member : old ∈ sent)
          (same : old.recordSessionId = session.recordSessionId) :
          old.windowIndex < prompt.windowIndex := by
        have ⟨remembered, found, least⟩ := below.below old member session listed running same.symm
        rw [same] at found
        rw [window]
        exact least.trans_lt (newer remembered found)
      rw [after, Option.toList_some]
      constructor
      · intro old member
        cases List.mem_append.mp member with
        | inl before => exact below.known old before
        | inr latest =>
            rw [List.mem_singleton.mp latest, own]
            exact List.mem_map_of_mem listed
      · intro old member row rowListed rowRunning same
        dsimp only
        cases List.mem_append.mp member with
        | inl before =>
            by_cases prompted : old.recordSessionId = session.recordSessionId
            · rw [prompted, Function.update_self, ← window]
              exact ⟨_, rfl, (earlier old before prompted).le⟩
            · rw [Function.update_of_ne prompted]
              exact below.below old before row rowListed rowRunning same
        | inr latest =>
            rw [List.mem_singleton.mp latest, own, Function.update_self, ← window]
            exact ⟨_, rfl, le_rfl⟩
      · apply List.pairwise_append.mpr
        constructor
        · exact below.increasing
        constructor
        · exact List.pairwise_singleton _ _
        · intro old member latest only same
          rw [List.mem_singleton.mp only] at same ⊢
          exact earlier old member (same.trans own)

def sentPrompts (state : CapState) (calls : List RecordingCall) : List CapPrompt :=
  (capMachine.outputs state calls).filterMap id

theorem prompts_below_run (below : PromptsBelow state sent) (calls : List RecordingCall) :
    PromptsBelow (capMachine.run state calls) (sent ++ sentPrompts state calls) := by
  induction calls generalizing state sent with
  | nil =>
      rw [sentPrompts, Machine.outputs_nil, List.filterMap_nil, List.append_nil]
      exact below
  | cons call rest induction =>
      have next := induction (prompts_below_step below call)
      have sentNow : sentPrompts state (call :: rest) =
          (state.step call).2.toList ++ sentPrompts (state.step call).1 rest := by
        change ((state.step call).2 :: capMachine.outputs _ rest).filterMap id = _
        cases (state.step call).2 <;> rfl
      rw [sentNow, ← List.append_assoc]
      exact next

end Prompts

section Paused

/-- The last interval of a text has no end yet. -/
def StoredRecording.IsPaused (row : StoredRecording) : Prop :=
  ∃ before start, parsePauseIntervals row.pauseIntervalsJson = .ok (before ++ [(start, none)])

def RecordingCall.endsPause (recordSessionId : Int) : RecordingCall → Bool
  | .resume resumedId _ _ => resumedId == recordSessionId
  | .stop stoppedId _ _ => stoppedId == recordSessionId
  | _ => false

omit [StoreExternals] in
theorem written_keeps {recordings after : StoredRecordings} {fault : Option StoreError}
    {recordSessionId : Int} {intervals : List (I64 × Option I64)}
    (written : recordings.writePauseIntervals fault recordSessionId intervals = .ok after)
    {row : StoredRecording} (member : row ∈ recordings.rows)
    (other : row.recordSessionId ≠ recordSessionId) : row ∈ after.rows := by
  rw [(statement_ok written).2]
  apply List.mem_map.mpr
  exact ⟨row, member, by simp [other]⟩

theorem paused_step {state : CapState} {call : RecordingCall} {row : StoredRecording}
    (member : row ∈ state.recordings.rows) (isPaused : row.IsPaused)
    (stays : call.endsPause row.recordSessionId = false) :
    row ∈ (state.step call).1.recordings.rows := by
  cases call with
  | start newId startedTs safetyCapMs =>
      by_cases fresh : newId ∉ state.recordings.rows.map StoredRecording.recordSessionId
      · simp only [CapState.step, CapState.start, dif_pos fresh, Table.append]
        exact List.mem_append_left _ member
      · simp only [CapState.step, CapState.start, dif_neg fresh]
        exact member
  | pause pausedId pausedTs fault =>
      simp only [CapState.step]
      cases paused : state.recordings.pauseRecordSession fault pausedId pausedTs with
      | error error => exact member
      | ok after =>
          change row ∈ after.rows
          unfold StoredRecordings.pauseRecordSession at paused
          cases read : state.recordings.pauseIntervals pausedId with
          | error error =>
              rw [read] at paused
              cases paused
          | ok intervals =>
              rw [read] at paused
              change (if _ then _ else _) = _ at paused
              split_ifs at paused with isOpen
              · rw [(statement_ok paused).2]
                exact member
              · apply written_keeps paused member
                intro own
                have parsed := read_pause_intervals read member own
                rcases isPaused with ⟨before, start, same⟩
                rw [parsed] at same
                cases same
                simp at isOpen
  | resume resumedId resumedTs fault =>
      simp only [CapState.step]
      cases resumed : state.recordings.resumeRecordSession fault resumedId resumedTs with
      | error error => exact member
      | ok after =>
          change row ∈ after.rows
          unfold StoredRecordings.resumeRecordSession at resumed
          cases read : state.recordings.pauseIntervals resumedId with
          | error error =>
              rw [read] at resumed
              cases resumed
          | ok intervals =>
              rw [read] at resumed
              apply written_keeps resumed member
              intro own
              simp [RecordingCall.endsPause, own] at stays
  | stop stoppedId endedTs fault =>
      simp only [CapState.step]
      cases closed : state.recordings.closeRecordSession fault stoppedId endedTs with
      | error error => exact member
      | ok after =>
          change row ∈ after.rows
          rw [(statement_ok closed).2]
          apply List.mem_map.mpr
          have other : row.recordSessionId ≠ stoppedId := by
            intro own
            simp [RecordingCall.endsPause, own] at stays
          exact ⟨row, member, by simp [other]⟩
  | poll readings nowMs =>
      simp only [CapState.step, poll_recordings]
      exact member

theorem paused_run {row : StoredRecording} (isPaused : row.IsPaused)
    (calls : List RecordingCall) {state : CapState} (member : row ∈ state.recordings.rows)
    (stays : ∀ call ∈ calls, call.endsPause row.recordSessionId = false) :
    row ∈ (capMachine.run state calls).recordings.rows := by
  induction calls generalizing state with
  | nil => exact member
  | cons call rest induction =>
      apply induction
      · exact paused_step member isPaused (stays call List.mem_cons_self)
      · intro next listed
        exact stays next (List.mem_cons_of_mem _ listed)

end Paused

/-! ## The recordings of the database -/

section Stored

def RecordSessionRow.stored (row : RecordSessionRow) : StoredRecording where
  recordSessionId := row.recordSessionId
  startedTs := row.startedTs
  endedTs := row.endedTs
  safetyCapMs := row.safetyCapMs
  pauseIntervalsJson := pauseIntervalsText row.pauseIntervals

def Database.storedRecordings (db : Database) : StoredRecordings where
  rows := db.activity.recordRoutine.recordSessions.rows.map RecordSessionRow.stored
  distinct := by
    rw [List.map_map]
    exact db.activity.recordRoutine.recordSessions.distinct

variable {db : Database} {fault : Option StoreError} {recordSessionId : Int} {timestamp : I64}

theorem stored_pause_intervals (readsBack : ReadsPausesBack) :
    db.storedRecordings.pauseIntervals recordSessionId = db.pauseIntervals recordSessionId := by
  have found : (db.storedRecordings.rows.find? fun row => row.recordSessionId == recordSessionId) =
      (db.activity.recordRoutine.recordSessions.rows.find?
        fun row => row.recordSessionId == recordSessionId).map RecordSessionRow.stored :=
    List.find?_map ..
  rw [StoredRecordings.pauseIntervals, Database.pauseIntervals, found]
  cases db.activity.recordRoutine.recordSessions.rows.find?
      fun row => row.recordSessionId == recordSessionId with
  | none => rfl
  | some row => exact parse_written (readsBack row.pauseIntervals)

omit [StoreExternals] in
theorem stored_write_intervals (intervals : List (I64 × Option I64)) :
    db.storedRecordings.writePauseIntervals fault recordSessionId intervals =
      (db.writePauseIntervals fault recordSessionId intervals).map Database.storedRecordings := by
  cases fault with
  | some error => rfl
  | none =>
      apply congrArg Except.ok
      apply Table.ext
      change List.map _ (List.map _ _) = List.map _ (List.map _ _)
      rw [List.map_map, List.map_map]
      apply List.map_congr_left
      intro row _
      by_cases fits : row.recordSessionId = recordSessionId ∧ row.endedTs = none <;>
        simp [RecordSessionRow.stored, fits]

theorem stored_pause (readsBack : ReadsPausesBack) :
    db.storedRecordings.pauseRecordSession fault recordSessionId timestamp =
      (db.pauseRecordSession fault recordSessionId timestamp).map Database.storedRecordings := by
  rw [StoredRecordings.pauseRecordSession, Database.pauseRecordSession,
    stored_pause_intervals readsBack]
  cases db.pauseIntervals recordSessionId with
  | error error => rfl
  | ok intervals =>
      change (if _ then _ else _) = Except.map _ (if _ then _ else _)
      split_ifs
      · cases fault <;> rfl
      · exact stored_write_intervals _

theorem stored_resume (readsBack : ReadsPausesBack) :
    db.storedRecordings.resumeRecordSession fault recordSessionId timestamp =
      (db.resumeRecordSession fault recordSessionId timestamp).map Database.storedRecordings := by
  rw [StoredRecordings.resumeRecordSession, Database.resumeRecordSession,
    stored_pause_intervals readsBack]
  cases db.pauseIntervals recordSessionId with
  | error error => rfl
  | ok intervals => exact stored_write_intervals _

theorem stored_needs_prompt [Externals] (readsBack : ReadsPausesBack) (state : WriterState)
    (nowMs : I64) (row : RecordSessionRow) :
    needsPrompt state.recordState.capPromptedWindows nowMs row.stored =
      state.needsCapPrompt nowMs row := by
  have window : (row.stored.capPrompt nowMs).windowIndex =
      WriterState.capWindowIndex nowMs row := by
    simp only [StoredRecording.capPrompt, StoredRecording.elapsedActiveMs, pausedTotalMsOf,
      RecordSessionRow.stored, parse_written (readsBack row.pauseIntervals), Except.map,
      Except.toOption, Option.getD_some, WriterState.capWindowIndex]
  rw [needsPrompt, window]
  rfl

end Stored

end Gilbreth.Store
