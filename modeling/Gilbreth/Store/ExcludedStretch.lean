import Gilbreth.Store.CommandFrame

/-!
# The marker of an excluded stretch

A recording keeps one value-free marker for each stretch of actions in excluded
apps. The writer remembers an open stretch in one flag, which a start does not
lower: a stretch that an earlier recording left open silences the first marker
of the next.
-/

set_option autoImplicit false

namespace Gilbreth.Store

open Gilbreth.Core

section Observed

variable [Externals] [StoreExternals] (config : WriterConfig) (state : WriterState)

/-- What an input is to the stretches of the live recording. -/
inductive StretchStep where
  /-- An action of an excluded app, while recording and not paused. -/
  | excluded (action : ActionCapture)
  /-- An action that is kept, as it is kept. -/
  | kept (action : ActionCapture)
  /-- A focus change to an allowed app. -/
  | allowedFocus
  | none

def StretchStep.leaves (gapOpen : Bool) : StretchStep → Bool
  | excluded _ => true
  | kept _ | allowedFocus => false
  | none => gapOpen

def WriterState.stretchStep : WriterInput → StretchStep
  | .action action =>
      if state.recordState.activeRecordSessionId ≠ some action.recordSessionId then .none
      else if state.panicCutoffRejects action then .none
      else if state.recordState.pausedRecordSessionId = some action.recordSessionId then .none
      else if state.policy.excludesAction action then .excluded action
      else if state.policy.sensitiveContextActive then .none
      else .kept { action with isSensitive := false }
  | .motion captured =>
      if state.eraseGateDrops captured then .none
      else
        match captured.payload with
        | .focusChanged window _ _ _ _ =>
            if state.policy.excludesExe window.exe then .none else .allowedFocus
        | _ => .none
  | .actionDiag | .rejectedAction => .none

/-- What an input adds to the action batch, seen in a batch with room for it. -/
def WriterState.batchedActions (input : WriterInput) (readings : QueueReadings) :
    List StampedAction :=
  let roomy := { config with batchSize := state.actionBatch.length + 2 }
  (state.queueWriterInput roomy readings input).actionBatch.drop state.actionBatch.length

/-- The stamped row of a captured action. -/
def Carries (stamped : StampedAction) (capture : ActionCapture) : Prop :=
  ∃ sequencer : Sequencer, stamped = (sequencer.stampAction capture).2

end Observed

section History

/-- The history of a run: whether the live recording has an open stretch and
whether an earlier one left one open, the actions and markers that are due, and
those that reached the batch. -/
structure Stretch where
  own : Bool
  earlier : Bool
  due : List ActionCapture
  batched : List StampedAction

def Stretch.fresh : Stretch := ⟨false, false, [], []⟩

namespace Stretch

/-- A marker is due for the first action of a stretch. -/
def stepped (stretch : Stretch) : StretchStep → Stretch
  | .excluded action =>
      { stretch with
        own := true
        due :=
          if stretch.own then stretch.due
          else stretch.due ++ [WriterState.excludedGap action] }
  | .kept action => { stretch with own := false, earlier := false, due := stretch.due ++ [action] }
  | .allowedFocus => { stretch with own := false, earlier := false }
  | .none => stretch

def started (stretch : Stretch) : Stretch :=
  { stretch with own := false, earlier := stretch.own || stretch.earlier }

/-- Every action and marker that is due reached the batch, and nothing else. -/
def MarkedOnce (stretch : Stretch) : Prop := List.Forall₂ Carries stretch.batched stretch.due

end Stretch

variable [Externals] [StoreExternals] (config : WriterConfig)

/-- One input, with the history beside the writer. -/
def queueStretch (now : WriterState × Stretch) (item : WriterInput × QueueReadings) :
    WriterState × Stretch :=
  let stretch := now.2.stepped (now.1.stretchStep item.1)
  (now.1.queueWriterInput config item.2 item.1,
    { stretch with batched := stretch.batched ++ now.1.batchedActions config item.1 item.2 })

/-- What a turn adds to the history: a reset that is not refused first queues
what waits in the channel. -/
def Stretch.turned (state : WriterState) (stretch : Stretch) : WriterTurn → Stretch
  | .input input readings => (queueStretch config (state, stretch) (input, readings)).2
  | .startRecording now faults command =>
      match (state.startRecording now faults command).2 with
      | .ok _ => stretch.started
      | .error _ => stretch
  | .secureErase settle _ _ | .archiveAndReset settle _ _ _ _ _ =>
      if state.recordState.activeRecordSessionId.isSome then stretch
      else (settle.drain.drained.foldl (queueStretch config) (state, stretch)).2
  | _ => stretch

def stretchMachine : Machine (WriterState × Stretch) WriterTurn WriterReply where
  step now turn :=
    let result := now.1.turn config turn
    ((result.1, now.2.turned config now.1 turn), result.2)

/-- The first excluded action of a recording meets a stretch that an earlier
recording left open. -/
def InheritsStretch (now : WriterState × Stretch) : WriterTurn → Prop
  | .input input _ =>
      (∃ action, now.1.stretchStep input = .excluded action) ∧ now.2.own = false ∧
        now.2.earlier = true
  | _ => False

end History

section Actions

variable [Externals] [StoreExternals] (config : WriterConfig) (readings : QueueReadings)
  (state : WriterState)

theorem queue_action_eq (action : ActionCapture) :
    state.queueAction config readings action =
      match state.stretchStep (.action action) with
      | .excluded action =>
          if state.recordState.excludedGapOpen then state.withExcludedGapOpen true
          else (state.enqueueAction config readings
            (WriterState.excludedGap action)).withExcludedGapOpen true
      | .kept action => (state.withExcludedGapOpen false).enqueueAction config readings action
      | _ => state.skipAction := by
  unfold WriterState.queueAction WriterState.stretchStep
  cases excluded : state.policy.excludesAction action with
  | true =>
      simp only [excluded, Bool.not_true, Bool.and_false, Bool.false_eq_true, if_false, if_true]
      split_ifs <;> rfl
  | false =>
      simp only [excluded, Bool.not_false, Bool.and_true, Bool.false_eq_true, if_false]
      split_ifs <;> rfl

theorem enqueue_action_room (action : ActionCapture) :
    (state.enqueueAction { config with batchSize := state.actionBatch.length + 2 } readings
      action).actionBatch = state.actionBatch ++ [(state.sequencer.stampAction action).2] := by
  unfold WriterState.enqueueAction
  dsimp only
  rw [if_neg]
  rw [List.length_append, List.length_singleton]
  omega

theorem enqueue_action_gap (action : ActionCapture) :
    (state.enqueueAction config readings action).recordState = state.recordState := by
  unfold WriterState.enqueueAction
  dsimp only
  split_ifs <;> rfl

end Actions

section Inputs

variable [Externals] [StoreExternals] (config : WriterConfig) (readings : QueueReadings)
  (state : WriterState)

omit [StoreExternals] in
theorem stretch_step_motion (captured : Captured) :
    state.stretchStep (.motion captured) = .allowedFocus ∨
      state.stretchStep (.motion captured) = .none := by
  unfold WriterState.stretchStep
  dsimp only
  split_ifs
  · exact Or.inr rfl
  · cases captured.payload with
    | focusChanged window prev focusedFor unfocusedFor recovered =>
        dsimp only
        split_ifs
        · exact Or.inr rfl
        · exact Or.inl rfl
    | _ => exact Or.inr rfl

omit [StoreExternals] in
theorem stretch_step_action (action : ActionCapture) :
    (∃ excluded, state.stretchStep (.action action) = .excluded excluded) ∨
      (∃ kept, state.stretchStep (.action action) = .kept kept) ∨
      state.stretchStep (.action action) = .none := by
  unfold WriterState.stretchStep
  dsimp only
  split_ifs
  · exact Or.inr (Or.inr rfl)
  · exact Or.inr (Or.inr rfl)
  · exact Or.inr (Or.inr rfl)
  · exact Or.inl ⟨action, rfl⟩
  · exact Or.inr (Or.inr rfl)
  · exact Or.inr (Or.inl ⟨_, rfl⟩)

omit [StoreExternals] in
theorem queue_captured_gap (captured : Captured) :
    (state.queueCaptured config readings captured).recordState.excludedGapOpen =
        (state.stretchStep (.motion captured)).leaves state.recordState.excludedGapOpen ∧
      (state.queueCaptured config readings captured).actionBatch = state.actionBatch := by
  have admitted :
      (state.admitCaptured config readings captured).1.recordState =
          (if state.eraseGateDrops captured then state.recordState
            else (state.noteAllowedFocus captured.payload).recordState) ∧
        (state.admitCaptured config readings captured).1.actionBatch = state.actionBatch := by
    rw [WriterState.admit_captured_eq]
    split_ifs
    · exact ⟨rfl, rfl⟩
    · unfold WriterState.dropReceived
      split_ifs <;> exact ⟨rfl, rfl⟩
    · exact ⟨rfl, rfl⟩
  have noted : (if state.eraseGateDrops captured then state.recordState
      else (state.noteAllowedFocus captured.payload).recordState).excludedGapOpen =
        (state.stretchStep (.motion captured)).leaves state.recordState.excludedGapOpen := by
    unfold WriterState.stretchStep WriterState.noteAllowedFocus
    dsimp only
    split_ifs
    · rfl
    · cases captured.payload with
      | focusChanged window prev focusedFor unfocusedFor recovered =>
          dsimp only
          split_ifs <;> rfl
      | _ => rfl
  rcases state.queue_captured_cases config readings captured with queued | queued
  · rw [queued, admitted.1]
    exact ⟨noted, admitted.2⟩
  · rw [queued]
    exact ⟨(congrArg WriterRecordState.excludedGapOpen admitted.1).trans noted, admitted.2⟩

theorem queue_writer_input_gap (input : WriterInput) :
    (state.queueWriterInput config readings input).recordState.excludedGapOpen =
      (state.stretchStep input).leaves state.recordState.excludedGapOpen := by
  cases input with
  | motion captured => exact (queue_captured_gap config readings state captured).1
  | action action =>
      change (state.queueAction config readings action).recordState.excludedGapOpen = _
      rw [queue_action_eq]
      rcases stretch_step_action state action with ⟨excluded, step⟩ | ⟨kept, step⟩ | step
      · rw [step]
        dsimp only
        split_ifs <;> rfl
      · rw [step]
        dsimp only
        rw [enqueue_action_gap]
        rfl
      · rw [step]
        rfl
  | actionDiag => rfl
  | rejectedAction => rfl

theorem batched_actions_eq (input : WriterInput) :
    state.batchedActions config input readings =
      match state.stretchStep input with
      | .excluded action =>
          if state.recordState.excludedGapOpen then []
          else [(state.sequencer.stampAction (WriterState.excludedGap action)).2]
      | .kept action => [(state.sequencer.stampAction action).2]
      | _ => [] := by
  have dropped : state.actionBatch.drop state.actionBatch.length = [] := List.drop_length
  have added : ∀ row : StampedAction,
      (state.actionBatch ++ [row]).drop state.actionBatch.length = [row] :=
    fun row => List.drop_left
  unfold WriterState.batchedActions WriterState.queueWriterInput
  cases input with
  | motion captured =>
      have batch := (queue_captured_gap { config with batchSize := state.actionBatch.length + 2 }
        readings state captured).2
      dsimp only
      rw [batch, dropped]
      rcases stretch_step_motion state captured with step | step
      · rw [step]
      · rw [step]
  | action action =>
      dsimp only
      rw [queue_action_eq]
      rcases stretch_step_action state action with ⟨excluded, step⟩ | ⟨kept, step⟩ | step
      · rw [step]
        dsimp only
        split_ifs
        · exact dropped
        · change List.drop _ (state.enqueueAction _ readings _).actionBatch = _
          rw [enqueue_action_room]
          exact added _
      · rw [step]
        have room := enqueue_action_room config readings (state.withExcludedGapOpen false) kept
        exact (congrArg (List.drop state.actionBatch.length) room).trans (added _)
      · rw [step]
        exact dropped
  | actionDiag => exact dropped
  | rejectedAction => exact dropped

theorem batched_actions_reach (action : ActionCapture) :
    let batch := state.actionBatch ++ state.batchedActions config (.action action) readings
    let after := state.queueAction config readings action
    after.actionBatch = batch ∧ after.store = state.store ∨
      after.actionBatch = [] ∧
        after.store = (flushRows insertActions readings.actionFlush batch state.store).1 := by
  have enqueued : ∀ (state : WriterState) capture,
      let batch := state.actionBatch ++ [(state.sequencer.stampAction capture).2]
      let after := state.enqueueAction config readings capture
      after.actionBatch = batch ∧ after.store = state.store ∨
        after.actionBatch = [] ∧
          after.store = (flushRows insertActions readings.actionFlush batch state.store).1 := by
    intro state capture
    unfold WriterState.enqueueAction
    dsimp only
    split_ifs
    · exact Or.inr ⟨rfl, rfl⟩
    · exact Or.inl ⟨rfl, rfl⟩
  dsimp only
  rw [batched_actions_eq, queue_action_eq]
  rcases stretch_step_action state action with ⟨excluded, step⟩ | ⟨kept, step⟩ | step
  · rw [step]
    dsimp only
    split_ifs
    · exact Or.inl ⟨(List.append_nil _).symm, rfl⟩
    · exact enqueued state (WriterState.excludedGap excluded)
  · rw [step]
    exact enqueued (state.withExcludedGapOpen false) kept
  · rw [step]
    exact Or.inl ⟨(List.append_nil _).symm, rfl⟩

end Inputs

section Turns

variable [Externals] (config : WriterConfig) (state : WriterState)

theorem reemit_gap (now : Instant) (readings : SensitiveContextReason → QueueReadings) :
    (state.reemitActiveSensitiveContexts config now readings).recordState.excludedGapOpen =
      state.recordState.excludedGapOpen := by
  unfold WriterState.reemitActiveSensitiveContexts
  generalize state.policy.activeSensitiveReasons = reasons
  induction reasons generalizing state with
  | nil => rfl
  | cons reason rest induction =>
      have quiet : state.stretchStep (.motion ⟨.system, now, .sensitiveContextEntered reason⟩) =
          .none := by
        unfold WriterState.stretchStep
        dsimp only
        split_ifs <;> rfl
      have queued := (queue_captured_gap config (readings reason) state
        ⟨.system, now, .sensitiveContextEntered reason⟩).1
      rw [quiet] at queued
      exact (induction _).trans queued

theorem create_replacement_gap (readings : ReplacementReadings) (identity : SessionIdentity) :
    (state.createReplacementSession readings identity).1.recordState = state.recordState := by
  unfold WriterState.createReplacementSession
  dsimp only
  split
  · rfl
  · split <;> rfl

variable (readings : DeleteReadings) (identity : SessionIdentity)

theorem erase_settled_gap :
    (state.eraseSettled config readings identity).1.recordState.excludedGapOpen =
      state.recordState.excludedGapOpen := by
  unfold WriterState.eraseSettled
  split
  · rfl
  · rename_i db deleted _
    have created := create_replacement_gap { state with store := db }.rebaseCounters
      readings.replacement identity
    split
    · rename_i after error made
      rw [made] at created
      exact congrArg WriterRecordState.excludedGapOpen created
    · rename_i after sessionId made
      rw [made] at created
      exact (reemit_gap config _ _ _).trans (congrArg WriterRecordState.excludedGapOpen created)

theorem reset_archived_gap (archive : ArchiveReport) :
    (state.resetArchived config readings identity archive).1.recordState.excludedGapOpen =
      state.recordState.excludedGapOpen := by
  unfold WriterState.resetArchived
  split
  · rfl
  · rename_i db deleted _
    have created := create_replacement_gap { state with store := db } readings.replacement identity
    split
    · rename_i after error made
      rw [made] at created
      exact congrArg WriterRecordState.excludedGapOpen created
    · rename_i after sessionId made
      rw [made] at created
      exact (reemit_gap config _ _ _).trans (congrArg WriterRecordState.excludedGapOpen created)

variable [StoreExternals] (settle : SettleReadings)

theorem settle_for_reset_gap :
    (state.settleForReset config settle).1.recordState.excludedGapOpen =
      (state.drainWriterInputs config settle.drain.drained).recordState.excludedGapOpen := by
  unfold WriterState.settleForReset
  dsimp only
  split <;> rfl

theorem secure_erase_gap (idle : state.recordState.activeRecordSessionId = none) :
    (state.secureErase config settle readings identity).1.recordState.excludedGapOpen =
      (state.drainWriterInputs config settle.drain.drained).recordState.excludedGapOpen := by
  have settled := settle_for_reset_gap config state settle
  have inactive : ¬state.recordState.activeRecordSessionId.isSome = true := by simp [idle]
  unfold WriterState.secureErase
  rw [if_neg inactive]
  split
  · rename_i after error unsettled
    rw [unsettled] at settled
    exact settled
  · rename_i after endedAt succeeded
    rw [succeeded] at settled
    exact (erase_settled_gap config after readings identity).trans settled

theorem archive_and_reset_gap (archiving : ArchiveReadings) (archivePath : String)
    (archive : Option ArchiveFile) (idle : state.recordState.activeRecordSessionId = none) :
    (state.archiveAndReset config settle archiving readings archivePath archive
        identity).state.recordState.excludedGapOpen =
      (state.drainWriterInputs config settle.drain.drained).recordState.excludedGapOpen := by
  have settled := settle_for_reset_gap config state settle
  have inactive : ¬state.recordState.activeRecordSessionId.isSome = true := by simp [idle]
  unfold WriterState.archiveAndReset
  rw [if_neg inactive]
  split
  · rename_i after error unsettled
    rw [unsettled] at settled
    exact settled
  · rename_i after endedAt succeeded
    rw [succeeded] at settled
    split
    · exact settled
    · rename_i files archived _
      exact (reset_archived_gap config after readings identity archived).trans settled

end Turns

section Runs

variable [Externals] [StoreExternals] (config : WriterConfig)

/-- The flag stands for a stretch of the live recording or of an earlier one. -/
def GapKnown (now : WriterState × Stretch) : Prop :=
  now.1.recordState.excludedGapOpen = (now.2.own || now.2.earlier)

omit [Externals] [StoreExternals] in
theorem carries_stamp (sequencer : Sequencer) (capture : ActionCapture) :
    Carries (sequencer.stampAction capture).2 capture := ⟨sequencer, rfl⟩

omit [Externals] [StoreExternals] in
theorem marked_once_add {stretch : Stretch} (marked : stretch.MarkedOnce) {stamped : StampedAction}
    {capture : ActionCapture} (carries : Carries stamped capture) :
    List.Forall₂ Carries (stretch.batched ++ [stamped]) (stretch.due ++ [capture]) :=
  List.rel_append marked (.cons carries .nil)

theorem queue_stretch_known (now : WriterState × Stretch) (item : WriterInput × QueueReadings)
    (known : GapKnown now) : GapKnown (queueStretch config now item) := by
  unfold GapKnown queueStretch
  dsimp only
  rw [queue_writer_input_gap, known]
  cases now.1.stretchStep item.1 with
  | excluded action => rfl
  | kept action => rfl
  | allowedFocus => rfl
  | none => rfl

/-- An input puts what is due into the batch, unless it is the first excluded
action of a recording and an earlier one left a stretch open. -/
theorem queue_stretch_marked_iff (now : WriterState × Stretch)
    (item : WriterInput × QueueReadings) (known : GapKnown now) (marked : now.2.MarkedOnce) :
    (queueStretch config now item).2.MarkedOnce ↔
      ¬((∃ action, now.1.stretchStep item.1 = .excluded action) ∧ now.2.own = false ∧
        now.2.earlier = true) := by
  unfold GapKnown at known
  unfold queueStretch Stretch.MarkedOnce
  dsimp only
  rw [batched_actions_eq, known]
  have lengths : now.2.batched.length = now.2.due.length := marked.length_eq
  cases now.1.stretchStep item.1 with
  | excluded action =>
      unfold Stretch.stepped
      dsimp only
      cases own : now.2.own with
      | true =>
          simp only [Bool.true_or, if_true, List.append_nil]
          exact iff_of_true marked fun inherits => absurd inherits.2.1 Bool.noConfusion
      | false =>
          cases earlier : now.2.earlier with
          | true =>
              simp only [Bool.or_true, if_true, List.append_nil, Bool.false_eq_true, if_false]
              refine iff_of_false (fun matched => ?_)
                (not_not.mpr ⟨⟨action, rfl⟩, trivial, trivial⟩)
              have longer := matched.length_eq
              rw [List.length_append, List.length_singleton] at longer
              omega
          | false =>
              simp only [Bool.or_false, Bool.false_eq_true, if_false]
              exact iff_of_true (marked_once_add marked (carries_stamp _ _))
                fun inherits => inherits.2.2
  | kept action =>
      refine iff_of_true (marked_once_add marked (carries_stamp _ _)) ?_
      rintro ⟨⟨_, impossible⟩, _⟩
      cases impossible
  | allowedFocus =>
      refine iff_of_true ?_ ?_
      · exact (List.append_nil now.2.batched).symm ▸ marked
      · rintro ⟨⟨_, impossible⟩, _⟩
        cases impossible
  | none =>
      refine iff_of_true ?_ ?_
      · exact (List.append_nil now.2.batched).symm ▸ marked
      · rintro ⟨⟨_, impossible⟩, _⟩
        cases impossible

theorem drain_stretch (now : WriterState × Stretch) (inputs : List (WriterInput × QueueReadings))
    (idle : now.1.recordState.activeRecordSessionId = none) (known : GapKnown now) :
    let after := inputs.foldl (queueStretch config) now
    after.1 = now.1.drainWriterInputs config inputs ∧ GapKnown after ∧
      (now.2.MarkedOnce → after.2.MarkedOnce) := by
  induction inputs generalizing now with
  | nil => exact ⟨rfl, known, fun marked => marked⟩
  | cons item rest induction =>
      have unexcluded : ¬∃ action, now.1.stretchStep item.1 = .excluded action := by
        rintro ⟨excluded, step⟩
        obtain ⟨input, readings⟩ := item
        cases input with
        | motion captured =>
            rcases stretch_step_motion now.1 captured with other | other
            · cases other.symm.trans step
            · cases other.symm.trans step
        | action action =>
            have inactive : now.1.recordState.activeRecordSessionId ≠
                some action.recordSessionId := by
              rw [idle]
              exact (Option.some_ne_none _).symm
            unfold WriterState.stretchStep at step
            dsimp only at step
            rw [if_pos inactive] at step
            cases step
        | actionDiag => cases step
        | rejectedAction => cases step
      have frame := InputFrame.queue_writer_input config now.1 item.2 item.1
      have still_idle : (queueStretch config now item).1.recordState.activeRecordSessionId =
          none := by
        change (now.1.queueWriterInput config item.2 item.1).recordState.activeRecordSessionId = _
        rw [frame.recordState]
        exact idle
      obtain ⟨same, later_known, later_marked⟩ :=
        induction _ still_idle (queue_stretch_known config now item known)
      refine ⟨same, later_known, fun marked => later_marked ?_⟩
      exact (queue_stretch_marked_iff config now item known marked).mpr
        fun inherits => unexcluded inherits.1

/-- Every other turn leaves the flag, the dues and the batch history alone; a
start makes the open stretch one of an earlier recording. -/
theorem ordinary_stretch (state : WriterState) (stretch : Stretch) (turn : WriterTurn)
    (uninput : ∀ input readings, turn ≠ .input input readings) (unreset : turn.isReset = false) :
    (state.turn config turn).1.recordState.excludedGapOpen = state.recordState.excludedGapOpen ∧
      (stretch.turned config state turn = stretch ∨
        stretch.turned config state turn = stretch.started) := by
  cases turn with
  | input input readings => exact absurd rfl (uninput input readings)
  | flushTick flush actionFlush => exact ⟨rfl, Or.inl rfl⟩
  | heartbeatTick clock faults => exact ⟨rfl, Or.inl rfl⟩
  | openFocusTick now fault => exact ⟨rfl, Or.inl rfl⟩
  | pollTick readings =>
      refine ⟨?_, Or.inl rfl⟩
      change (state.pollRecordingControl readings).recordState.excludedGapOpen = _
      rw [(polled state readings).rest]
  | forgetFocusAttribution fault => exact ⟨rfl, Or.inl rfl⟩
  | startRecording now faults command =>
      have outcome := start_recording_cases state now faults command
      have turned : stretch.turned config state (.startRecording now faults command) =
          match (state.startRecording now faults command).2 with
          | .ok _ => stretch.started
          | .error _ => stretch := rfl
      rw [turned]
      constructor
      · change (state.startRecording now faults command).1.recordState.excludedGapOpen = _
        generalize state.startRecording now faults command = result at outcome
        cases outcome with
        | refused error => rfl
        | failed error confirmed marked => rfl
        | started recordSessionId confirmed opened => rfl
      · cases (state.startRecording now faults command).2 with
        | ok recordSessionId => exact Or.inr rfl
        | error error => exact Or.inl rfl
  | stopRecording now flush actionFlush fault recordSessionId stopReason =>
      refine ⟨?_, Or.inl rfl⟩
      change (state.stopRecording config now ⟨[], flush, actionFlush⟩ fault recordSessionId
        stopReason).1.recordState.excludedGapOpen = _
      unfold WriterState.stopRecording
      dsimp only
      split <;> rfl
  | pauseRecording now fault recordSessionId =>
      refine ⟨?_, Or.inl rfl⟩
      change (state.pauseRecording now fault recordSessionId).1.recordState.excludedGapOpen = _
      unfold WriterState.pauseRecording
      split <;> rfl
  | resumeRecording now fault recordSessionId =>
      refine ⟨?_, Or.inl rfl⟩
      change (state.resumeRecording now fault recordSessionId).1.recordState.excludedGapOpen = _
      unfold WriterState.resumeRecording
      split <;> rfl
  | extendCap recordSessionId => exact ⟨rfl, Or.inl rfl⟩
  | declineRecordRequest now fault requestId => exact ⟨rfl, Or.inl rfl⟩
  | secureErase settle readings identity => cases unreset
  | archiveAndReset settle archiving readings archivePath archive identity => cases unreset
  | panicCutoff cutoff => exact ⟨rfl, Or.inl rfl⟩
  | captureDropped => exact ⟨rfl, Or.inl rfl⟩

/-- A refused reset changes nothing; another one queues what waits and then
neither raises nor lowers the flag. -/
theorem reset_stretch (now : WriterState × Stretch) (turn : WriterTurn)
    (reset : turn.isReset = true) (known : GapKnown now) :
    let after := ((stretchMachine config).step now turn).1
    GapKnown after ∧ (now.2.MarkedOnce → after.2.MarkedOnce) := by
  obtain ⟨state, stretch⟩ := now
  have resets : ∀ {after : WriterState} (settle : SettleReadings),
      (state.recordState.activeRecordSessionId.isSome = true → after = state) →
      (state.recordState.activeRecordSessionId = none →
        after.recordState.excludedGapOpen = (state.drainWriterInputs config
          settle.drain.drained).recordState.excludedGapOpen) →
      let history := if state.recordState.activeRecordSessionId.isSome then stretch
        else (settle.drain.drained.foldl (queueStretch config) (state, stretch)).2
      GapKnown (after, history) ∧ (stretch.MarkedOnce → history.MarkedOnce) := by
    intro after settle refused drained
    cases active : state.recordState.activeRecordSessionId with
    | some live =>
        rw [refused (by rw [active]; rfl)]
        exact ⟨known, fun marked => marked⟩
    | none =>
        obtain ⟨same, drained_known, drained_marked⟩ :=
          drain_stretch config (state, stretch) settle.drain.drained active known
        refine ⟨?_, drained_marked⟩
        unfold GapKnown at drained_known ⊢
        rw [same] at drained_known
        exact (drained active).trans drained_known
  cases turn with
  | secureErase settle readings identity =>
      refine resets settle (fun active => ?_)
        (secure_erase_gap config state readings identity settle)
      change (state.secureErase config settle readings identity).1 = state
      unfold WriterState.secureErase
      rw [if_pos active]
  | archiveAndReset settle archiving readings archivePath archive identity =>
      refine resets settle (fun active => ?_)
        (archive_and_reset_gap config state readings identity settle archiving archivePath archive)
      change (state.archiveAndReset config settle archiving readings archivePath archive
        identity).state = state
      unfold WriterState.archiveAndReset
      rw [if_pos active]
  | _ => cases reset

/-- One turn keeps the flag telling, and what reached the batch is what was due
unless the turn inherits a stretch. -/
theorem stretch_step (now : WriterState × Stretch) (turn : WriterTurn) (known : GapKnown now) :
    let after := ((stretchMachine config).step now turn).1
    GapKnown after ∧
      (now.2.MarkedOnce → (after.2.MarkedOnce ↔ ¬InheritsStretch now turn)) := by
  obtain ⟨state, stretch⟩ := now
  have ordinary : (∀ input readings, turn ≠ .input input readings) → turn.isReset = false →
      ¬InheritsStretch (state, stretch) turn →
      let after := ((stretchMachine config).step (state, stretch) turn).1
      GapKnown after ∧
        (stretch.MarkedOnce → (after.2.MarkedOnce ↔ ¬InheritsStretch (state, stretch) turn)) := by
    intro uninput unreset uninherited
    obtain ⟨flag, turned⟩ := ordinary_stretch config state stretch turn uninput unreset
    change GapKnown ((state.turn config turn).1, stretch.turned config state turn) ∧
      (_ → ((stretch.turned config state turn).MarkedOnce ↔ _))
    rcases turned with same | started
    · rw [same]
      exact ⟨flag.trans known, fun marked => iff_of_true marked uninherited⟩
    · rw [started]
      exact ⟨flag.trans known, fun marked => iff_of_true marked uninherited⟩
  cases turn with
  | input input readings =>
      exact ⟨queue_stretch_known config (state, stretch) (input, readings) known,
        fun marked =>
          queue_stretch_marked_iff config (state, stretch) (input, readings) known marked⟩
  | secureErase settle readings identity =>
      obtain ⟨after_known, after_marked⟩ := reset_stretch config (state, stretch)
        (.secureErase settle readings identity) rfl known
      exact ⟨after_known, fun marked => iff_of_true (after_marked marked) not_false⟩
  | archiveAndReset settle archiving readings archivePath archive identity =>
      obtain ⟨after_known, after_marked⟩ := reset_stretch config (state, stretch)
        (.archiveAndReset settle archiving readings archivePath archive identity) rfl known
      exact ⟨after_known, fun marked => iff_of_true (after_marked marked) not_false⟩
  | _ => exact ordinary (fun _ _ same => by cases same) rfl not_false

/-- Two excluded actions of one recording captured at one instant leave the same
writer behind. -/
theorem excluded_actions_alike (state : WriterState) (readings : QueueReadings)
    {left right : ActionCapture} (left_excluded : state.policy.excludesAction left = true)
    (right_excluded : state.policy.excludesAction right = true)
    (instant : left.capturedAt = right.capturedAt)
    (recording : left.recordSessionId = right.recordSessionId) :
    state.queueAction config readings left = state.queueAction config readings right := by
  have gaps : WriterState.excludedGap left = WriterState.excludedGap right := by
    unfold WriterState.excludedGap
    rw [instant, recording]
  have rejects : state.panicCutoffRejects left = state.panicCutoffRejects right := by
    unfold WriterState.panicCutoffRejects
    rw [instant, recording]
  unfold WriterState.queueAction
  rw [left_excluded, right_excluded, gaps, rejects, recording]
  simp only [if_true]

/-- From a started writer each stretch of excluded actions of a recording puts
exactly one marker into the batch, in its place among the actions kept, for as
long as no recording inherits a stretch from an earlier one. Of an excluded
action only its instant and its recording matter. -/
theorem excluded_stretches_marked_iff (store : Database) (sequencer : Sequencer) (policy : Policy)
    (turns : List WriterTurn) :
    ((∀ before, before <+: turns →
        ((stretchMachine config).run (.started store sequencer policy, .fresh)
          before).2.MarkedOnce) ↔
      (stretchMachine config).AllSteps (fun now turn => ¬InheritsStretch now turn)
        (.started store sequencer policy, .fresh) turns) ∧
    ∀ (state : WriterState) readings left right,
      state.policy.excludesAction left = true → state.policy.excludesAction right = true →
      left.capturedAt = right.capturedAt → left.recordSessionId = right.recordSessionId →
        state.queueAction config readings left = state.queueAction config readings right := by
  constructor
  · exact (stretchMachine config).holds_along_iff_all_steps GapKnown
      (fun now => now.2.MarkedOnce) (fun now turn => ¬InheritsStretch now turn)
      (fun turn _ now known => (stretch_step config now turn known).1)
      (fun turn _ now known marked => (stretch_step config now turn known).2 marked)
      (.started store sequencer policy, .fresh) rfl .nil
  · intro state readings left right left_excluded right_excluded instant recording
    exact excluded_actions_alike config state readings left_excluded right_excluded instant
      recording

end Runs

section

attribute [local instance] asciiExternals bareExternals

private def vaultClock (count : Nat) : Clock :=
  ⟨⟨count * 1000000000⟩, some (count * 1000000000)⟩

private def vaultStore : Database :=
  ((Database.empty.createSessionWithIdentity none (vaultClock 1).utcMs
    ⟨"1.0.0", none, none, none⟩).toOption.map Prod.fst).getD .empty

private def vaultWriter : WriterState :=
  .started vaultStore (.new 1 ⟨(vaultClock 1).now, (vaultClock 1).utcMs⟩) vaultPolicy

private def vaultStart (count : Nat) : WriterTurn :=
  .startRecording (vaultClock count).now ⟨none, none, none⟩
    ⟨none, none, "\x7b\x7d", .ofInt 1800000, true⟩

private def vaultStop (count : Nat) (recordSessionId : Int) : WriterTurn :=
  .stopRecording (vaultClock count).now (fun _ => .clear) (fun _ => .clear) none recordSessionId
    .userStop

private def pressed (count : Nat) (recordSessionId : Int) (exe : String) : WriterTurn :=
  .input (.action
    { action := ⟨.invoke, ⟨"uia", []⟩, .pidMatch⟩
      capturedAt := (vaultClock count).now
      recordSessionId := recordSessionId
      exe := some exe
      isSensitive := false
      hasName := true
      patternAction := none
      framework := "Win32"
      frameworkClass := .native
      depth := 3
      leafRect := none
      payload := .invoke none none }) (.clear (vaultClock count))

private def visits : List WriterTurn :=
  [vaultStart 2, pressed 3 1 "Vault.exe", pressed 4 1 "vault.exe", pressed 5 1 "Editor.exe",
    pressed 6 1 "Vault.exe"]

/-- Two stretches around one kept action put a marker each beside it. -/
theorem excluded_stretches_marked_visits :
    let now := (stretchMachine ⟨200, .ofInt 5000⟩).run (vaultWriter, .fresh) visits
    now.2.MarkedOnce ∧
      now.2.batched.map StampedAction.patternAction =
        [some excludedAppGapPattern, none, some excludedAppGapPattern] := by
  refine ⟨?_, by decide +kernel⟩
  refine (excluded_stretches_marked_iff ⟨200, .ofInt 5000⟩ vaultStore
    (.new 1 ⟨(vaultClock 1).now, (vaultClock 1).utcMs⟩) vaultPolicy visits).1.mpr ?_ visits
    (List.prefix_refl _)
  refine ⟨not_false, ?_, ?_, ?_, ?_, trivial⟩
  · exact fun inherits => absurd inherits.2.2 (by decide +kernel)
  · exact fun inherits => absurd inherits.2.2 (by decide +kernel)
  · exact fun inherits => absurd inherits.2.2 (by decide +kernel)
  · exact fun inherits => absurd inherits.2.2 (by decide +kernel)

/-- The second recording starts while the stretch of the first is open, and its
own stretch gets no marker. -/
theorem stretch_silences_next_recording :
    let now := (stretchMachine ⟨200, .ofInt 5000⟩).run (vaultWriter, .fresh)
      [vaultStart 2, pressed 3 1 "Vault.exe", vaultStop 4 1, vaultStart 5,
        pressed 6 2 "Vault.exe"]
    now.2.due.map ActionCapture.recordSessionId = [1, 2] ∧
      now.2.batched.map StampedAction.recordSessionId = [1] ∧ ¬now.2.MarkedOnce := by
  refine ⟨by decide +kernel, by decide +kernel, fun marked => ?_⟩
  exact absurd marked.length_eq (by decide +kernel)

end

end Gilbreth.Store
