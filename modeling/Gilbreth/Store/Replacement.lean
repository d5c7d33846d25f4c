import Gilbreth.Core.Suppression
import Gilbreth.Store.EraseBoundary
import Gilbreth.Store.RowStream

/-!
# Suppression across a session replacement

A reader of a session knows the active reasons by replaying its boundary rows. A
replacement session starts without any, so the reset emits the reasons that are
active again; the ones it lists are explained and any other is not.
-/

set_option autoImplicit false

namespace Gilbreth.Store

open Gilbreth.Core

section Streams

variable [Externals]

namespace RowStream

/-- Suppression is on and no app is excluded, so no boundary row is dropped. -/
structure Suppressing (stream : RowStream) : Prop where
  enabled : stream.policy.sensitiveContextSuppression = true
  noExclusions : stream.policy.excludedApps = ∅
  unlatched : stream.policy.currentFocusExcluded ≠ some true

/-- Replaying the boundary rows of the session gives the reasons in force. -/
def Explained (stream : RowStream) : Prop :=
  replayBoundaries ∅ stream.stamped = stream.policy.activeReasons

variable {stream : RowStream}

theorem Suppressing.not_latched (suppressing : stream.Suppressing) :
    stream.policy.latchedFocusExcluded = false := by
  have unlatched := suppressing.unlatched
  rw [Policy.latchedFocusExcluded, suppressing.noExclusions]
  cases latch : stream.policy.currentFocusExcluded with
  | none => rfl
  | some excluded =>
      cases excluded with
      | false => rfl
      | true => exact absurd latch unlatched

theorem Suppressing.capture (suppressing : stream.Suppressing) (thresholdMs : I64) (clock : Clock)
    (captured : Captured) : (stream.capture thresholdMs clock captured).Suppressing := by
  have observed : Suppressing ⟨stream.sequencer, stream.policy.observed captured.payload,
      stream.stamped⟩ := by
    refine ⟨(stream.policy.suppression_observed _).trans suppressing.enabled,
      (stream.policy.excluded_apps_observed _).trans suppressing.noExclusions, ?_⟩
    have allowed : ∀ exe, stream.policy.excludesExe exe = false := by
      intro exe
      rw [Policy.excludesExe, suppressing.noExclusions]
      rfl
    unfold Policy.observed
    dsimp only
    split
    · rw [allowed]
      exact fun latched => Bool.false_ne_true (Option.some.inj latched)
    · rw [suppressing.not_latched]
      exact suppressing.unlatched
    · exact suppressing.unlatched
  unfold RowStream.capture
  dsimp only
  split_ifs
  · exact ⟨observed.enabled, observed.noExclusions, observed.unlatched⟩
  · constructor <;> rw [Policy.apply_after_exclusions_policy, if_pos observed.enabled]
    · exact observed.enabled
    · exact observed.noExclusions
    · exact observed.unlatched

theorem suppressing_move (thresholdMs : I64) (stream : RowStream) (move : StreamMove)
    (suppressing : stream.Suppressing) : (stream.move thresholdMs move).Suppressing := by
  cases move with
  | capture clock captured => exact suppressing.capture thresholdMs clock captured
  | forget => exact ⟨suppressing.enabled, suppressing.noExclusions, nofun⟩
  | resync clock => exact ⟨suppressing.enabled, suppressing.noExclusions, suppressing.unlatched⟩
  | advance capturedAt =>
      exact ⟨suppressing.enabled, suppressing.noExclusions, suppressing.unlatched⟩
  | replace sessionId timebase =>
      exact ⟨suppressing.enabled, suppressing.noExclusions, suppressing.unlatched⟩

theorem boundary_step_apply_after_exclusions (policy : Policy)
    (enabled : policy.sensitiveContextSuppression = true) (event : EventEnvelope) :
    (policy.applyAfterExclusions event).2.payload.boundaryStep = event.payload.boundaryStep := by
  rw [Policy.apply_after_exclusions_event, enabled, Bool.true_and]
  cases boundary : event.payload.isBoundary with
  | true => rfl
  | false =>
      have still : (policy.redactEvent event).payload.isBoundary = false :=
        (policy.is_boundary_redact_event event).trans boundary
      funext reasons
      rw [if_neg Bool.false_ne_true, EventPayload.boundary_step_of_not_boundary still,
        EventPayload.boundary_step_of_not_boundary boundary]

theorem capture_steps (suppressing : stream.Suppressing) (thresholdMs : I64) (clock : Clock)
    (captured : Captured) :
    (stream.capture thresholdMs clock captured).policy.activeReasons =
        captured.payload.boundaryStep stream.policy.activeReasons ∧
      replayBoundaries ∅ (stream.capture thresholdMs clock captured).stamped =
        captured.payload.boundaryStep (replayBoundaries ∅ stream.stamped) := by
  have observed := stream.policy.reasons_observed suppressing.enabled captured.payload
  have enabled : (stream.policy.observed captured.payload).sensitiveContextSuppression = true :=
    (stream.policy.suppression_observed _).trans suppressing.enabled
  unfold RowStream.capture
  dsimp only
  split_ifs at observed ⊢ with dropped
  · have other : captured.payload.isBoundary = false := by
      cases boundary : captured.payload.isBoundary with
      | false => rfl
      | true =>
          rw [stream.policy.drops_boundary boundary, suppressing.not_latched] at dropped
          exact absurd dropped Bool.false_ne_true
    refine ⟨observed, ?_⟩
    rw [EventPayload.boundary_step_of_not_boundary other]
  · have payload : ∀ sequencer : Sequencer,
        (sequencer.stamp { captured with
          payload := stream.policy.outbound captured.payload }).2.payload.boundaryStep =
        captured.payload.boundaryStep :=
      fun sequencer => stream.policy.boundary_step_outbound captured.payload
    constructor
    · rw [Policy.apply_after_exclusions_policy, if_pos enabled, Policy.noteBoundary, payload,
        observed]
    · rw [replay_append, boundary_step_apply_after_exclusions _ enabled, payload]

theorem Explained.capture (explained : stream.Explained) (suppressing : stream.Suppressing)
    (thresholdMs : I64) (clock : Clock) (captured : Captured) :
    (stream.capture thresholdMs clock captured).Explained := by
  have steps := capture_steps suppressing thresholdMs clock captured
  rw [Explained, steps.1, steps.2, explained]

theorem GoesOnTo.explained {thresholdMs : I64} {after : RowStream}
    (onward : GoesOnTo thresholdMs stream after) (suppressing : stream.Suppressing)
    (explained : stream.Explained) : after.Suppressing ∧ after.Explained := by
  refine onward.keeps (fun stream => stream.Suppressing ∧ stream.Explained) ?_
    ⟨suppressing, explained⟩
  rintro stream move same ⟨suppressing, explained⟩
  refine ⟨suppressing_move thresholdMs stream move suppressing, ?_⟩
  cases move with
  | capture clock captured => exact explained.capture suppressing thresholdMs clock captured
  | resync clock => exact explained
  | advance capturedAt => exact explained
  | forget => exact explained
  | replace sessionId timebase => cases same

end RowStream

section Reemit

/-- What re-emitting a reason is to the stream. -/
def reemitMove (now : Instant) (readings : SensitiveContextReason → QueueReadings)
    (reason : SensitiveContextReason) : StreamMove :=
  .capture (readings reason).clock ⟨.system, now, .sensitiveContextEntered reason⟩

variable (now : Instant) (readings : SensitiveContextReason → QueueReadings)

theorem reemit_row_stream (config : WriterConfig) (state : WriterState)
    (reasons : List SensitiveContextReason)
    (passes : ∀ boundary ∈ state.eraseCompletionBoundaryMs,
      boundary ≤ state.sequencer.timebase.timestampFor now) :
    (reasons.foldl (fun state reason =>
      state.queueCaptured config (readings reason) ⟨.system, now, .sensitiveContextEntered reason⟩)
      state).rowStream =
      (streamMachine config.timebaseDriftThresholdMs).run state.rowStream
        (reasons.map (reemitMove now readings)) := by
  induction reasons generalizing state with
  | nil => rfl
  | cons reason rest induction =>
      have gate : state.eraseGateDrops ⟨.system, now, .sensitiveContextEntered reason⟩ = false := by
        unfold WriterState.eraseGateDrops
        cases frozen : state.eraseCompletionBoundaryMs with
        | none => rfl
        | some boundary =>
            apply decide_eq_false
            exact not_lt.mpr (passes boundary frozen)
      have step := state.queue_captured_clock_step config (readings reason)
        ⟨.system, now, .sensitiveContextEntered reason⟩
      have queued := state.queue_captured_row_stream config (readings reason)
        ⟨.system, now, .sensitiveContextEntered reason⟩
      rw [WriterState.admit_captured_row_stream, if_neg (ne_true_of_eq_false gate)] at queued
      rw [List.foldl_cons, List.map_cons, Machine.run_cons, induction, queued]
      · rfl
      · rw [step.boundary, step.timebase]
        exact passes

theorem reemitted (thresholdMs : I64) (reasons : List SensitiveContextReason) (stream : RowStream)
    (suppressing : stream.Suppressing) :
    let after := (streamMachine thresholdMs).run stream (reasons.map (reemitMove now readings))
    after.Suppressing ∧
      after.policy.activeReasons = reasons.toFinset ∪ stream.policy.activeReasons ∧
      replayBoundaries ∅ after.stamped =
        reasons.toFinset ∪ replayBoundaries ∅ stream.stamped := by
  induction reasons generalizing stream with
  | nil => exact ⟨suppressing, (Finset.empty_union _).symm, (Finset.empty_union _).symm⟩
  | cons reason rest induction =>
      have steps := RowStream.capture_steps suppressing thresholdMs (readings reason).clock
        ⟨.system, now, .sensitiveContextEntered reason⟩
      have next := induction (stream.move thresholdMs (reemitMove now readings reason))
        (suppressing.capture thresholdMs _ _)
      have gained : ∀ reasons : Finset SensitiveContextReason,
          rest.toFinset ∪ insert reason reasons = (reason :: rest).toFinset ∪ reasons := by
        intro reasons
        rw [List.toFinset_cons, Finset.insert_union, Finset.union_insert]
      refine ⟨next.1, next.2.1.trans ?_, next.2.2.trans ?_⟩
      · exact (congrArg (rest.toFinset ∪ ·) steps.1).trans (gained _)
      · exact (congrArg (rest.toFinset ∪ ·) steps.2).trans (gained _)

end Reemit

theorem active_sensitive_reasons_cover_iff (policy : Policy)
    (enabled : policy.sensitiveContextSuppression = true) :
    policy.activeSensitiveReasons.toFinset = policy.activeReasons ↔
      SensitiveContextReason.secureInput ∉ policy.activeReasons := by
  have listed : ∀ reason, reason ∈ policy.activeSensitiveReasons ↔
      reason ≠ .secureInput ∧ reason ∈ policy.activeReasons := by
    intro reason
    rw [Policy.activeSensitiveReasons, if_pos enabled, List.mem_filter, decide_eq_true_eq]
    cases reason <;> simp
  constructor
  · intro covers active
    rw [← covers, List.mem_toFinset, listed] at active
    exact active.1 rfl
  · intro absent
    ext reason
    rw [List.mem_toFinset, listed, and_iff_right_iff_imp]
    rintro active rfl
    exact absent active

/-- A new session's rows explain the redaction exactly when every active reason
is on the list. -/
theorem reset_explained_iff (thresholdMs : I64) (now : Instant)
    (readings : SensitiveContextReason → QueueReadings) (sessionId : Int)
    (timebase : SessionTimebase) (policy : Policy)
    (suppressing : RowStream.Suppressing ⟨.new sessionId timebase, policy, []⟩) :
    RowStream.Explained ((streamMachine thresholdMs).run ⟨.new sessionId timebase, policy, []⟩
        (policy.activeSensitiveReasons.map (reemitMove now readings))) ↔
      SensitiveContextReason.secureInput ∉ policy.activeReasons := by
  obtain ⟨_, active, replay⟩ := reemitted now readings thresholdMs policy.activeSensitiveReasons
    _ suppressing
  have listed : policy.activeSensitiveReasons.toFinset ⊆ policy.activeReasons := by
    intro reason member
    rw [List.mem_toFinset, Policy.activeSensitiveReasons, if_pos suppressing.enabled,
      List.mem_filter] at member
    exact of_decide_eq_true member.2
  rw [RowStream.Explained, active, replay, Finset.union_eq_right.mpr listed,
    ← active_sensitive_reasons_cover_iff policy suppressing.enabled]
  exact Eq.congr_left (Finset.union_empty _)

section Turns

theorem RowStream.Suppressing.replaced {state : WriterState}
    (suppressing : state.rowStream.Suppressing) (sessionId : Int) (timebase : SessionTimebase) :
    RowStream.Suppressing ⟨.new sessionId timebase, state.policy, []⟩ :=
  ⟨suppressing.enabled, suppressing.noExclusions, suppressing.unlatched⟩

/-- The inputs a reset takes from the channel before anything else. -/
def WriterTurn.drained : WriterTurn → List (WriterInput × QueueReadings)
  | secureErase settle .. | archiveAndReset settle .. => settle.drain.drained
  | _ => []

variable [StoreExternals] (config : WriterConfig)

/-- If the turn is a reset that completes, no reason is active that the source's
array leaves out. -/
def ResetListsReasons (state : WriterState) (turn : WriterTurn) : Prop :=
  (state.turn config turn).2.resetCompleted = true →
    SensitiveContextReason.secureInput ∉
      (state.drainWriterInputs config turn.drained).policy.activeReasons

omit [StoreExternals] in
theorem restarted_row_stream {before created : WriterState} {start : Clock}
    (anew : before.StartedAnew start created) (boundary : Option I64) (now : Instant)
    (readings : SensitiveContextReason → QueueReadings)
    (passes : ∀ frozen ∈ boundary, frozen ≤ created.sequencer.timebase.timestampFor now) :
    ∃ sessionId,
      (WriterState.reemitActiveSensitiveContexts config
          { created with eraseCompletionBoundaryMs := boundary }.forgetOpenFocus now
          readings).rowStream =
        (streamMachine config.timebaseDriftThresholdMs).run
          ⟨.new sessionId ⟨start.now, start.utcMs⟩, before.policy, []⟩
          (before.policy.activeSensitiveReasons.map (reemitMove now readings)) := by
  obtain ⟨⟨sessionId, sequencer⟩, policy, stamped⟩ := anew
  have stream : created.rowStream =
      ⟨.new sessionId ⟨start.now, start.utcMs⟩, before.policy, []⟩ := by
    rw [WriterState.rowStream, sequencer, policy, stamped]
  refine ⟨sessionId, (reemit_row_stream now readings config _ _ passes).trans ?_⟩
  rw [← stream, ← policy]
  rfl

theorem reset_row_stream (state : WriterState) (turn : WriterTurn)
    (completed : (state.turn config turn).2.resetCompleted = true) :
    ∃ sessionId timebase now readings,
      (state.turn config turn).1.rowStream =
        (streamMachine config.timebaseDriftThresholdMs).run
          ⟨.new sessionId timebase, (state.drainWriterInputs config turn.drained).policy, []⟩
          ((state.drainWriterInputs config turn.drained).policy.activeSensitiveReasons.map
            (reemitMove now readings)) := by
  cases turn with
  | secureErase settle readings identity =>
      rcases state.secure_erase_cases config identity readings settle with
        ⟨failed, _⟩ | ⟨_, created, anew, same⟩
      · exact absurd (failed.symm.trans completed) Bool.false_ne_true
      · obtain ⟨sessionId, stream⟩ := restarted_row_stream config anew
          (some (created.sequencer.projectedTimestampFor readings.completedAt))
          readings.completedAt readings.reemit fun frozen same => (Option.some.inj same).ge
        exact ⟨sessionId, _, _, _, (congrArg WriterState.rowStream same).trans stream⟩
  | archiveAndReset settle archiving readings archivePath archive identity =>
      rcases state.archive_and_reset_cases config identity readings settle archiving archivePath
          archive with ⟨failed, _⟩ | ⟨_, created, anew, same⟩
      · exact absurd (failed.symm.trans completed) Bool.false_ne_true
      · obtain ⟨sessionId, stream⟩ := restarted_row_stream config anew none
          readings.completedAt readings.reemit fun frozen impossible => by cases impossible
        exact ⟨sessionId, _, _, _, (congrArg WriterState.rowStream same).trans stream⟩
  | _ => cases completed

/-- The rows of a session are in order and none of its boundary rows is dropped. -/
def Sound (state : WriterState) : Prop :=
  state.rowStream.Suppressing ∧ state.rowStream.InOrder

theorem sound_turn (state : WriterState) (turn : WriterTurn) (sound : Sound state) :
    Sound (state.turn config turn).1 := by
  have goes_on : ∀ {after : WriterState}, state.GoesOnTo config after → Sound after := by
    intro after onward
    exact ⟨onward.keeps _ (fun stream move _ => stream.suppressing_move _ move) sound.1,
      onward.keeps _ (fun stream move _ => stream.in_order_move _ move) sound.2⟩
  cases completed : (state.turn config turn).2.resetCompleted with
  | false => exact goes_on (state.turn_goes_on config turn completed)
  | true =>
      obtain ⟨sessionId, timebase, now, readings, stream⟩ :=
        reset_row_stream config state turn completed
      have drained := (goes_on (state.drain_goes_on config turn.drained)).1
      have replaced := drained.replaced sessionId timebase
      rw [Sound, stream]
      exact ⟨(reemitted now readings _ _ _ replaced).1,
        RowStream.in_order_run _ _ _ (RowStream.in_order_new sessionId timebase _)⟩

/-- Where the rows of the session explain the redaction, they still do after a
turn exactly when the turn lists every reason it has to. -/
theorem explained_turn_iff (state : WriterState) (turn : WriterTurn) (sound : Sound state)
    (explained : state.rowStream.Explained) :
    (state.turn config turn).1.rowStream.Explained ↔ ResetListsReasons config state turn := by
  cases completed : (state.turn config turn).2.resetCompleted with
  | false =>
      refine iff_of_true ?_ fun impossible =>
        absurd (completed.symm.trans impossible) Bool.false_ne_true
      exact (RowStream.GoesOnTo.explained (state.turn_goes_on config turn completed) sound.1
        explained).2
  | true =>
      obtain ⟨sessionId, timebase, now, readings, stream⟩ :=
        reset_row_stream config state turn completed
      have drained := (RowStream.GoesOnTo.explained (state.drain_goes_on config turn.drained)
        sound.1 explained).1
      have replaced := drained.replaced sessionId timebase
      rw [stream, reset_explained_iff _ _ _ _ _ _ replaced, ResetListsReasons, completed]
      exact ⟨fun absent _ => absent, fun lists => lists rfl⟩

/-- The rows of the session, in order, explain the redaction in force. -/
structure RedactionExplained (state : WriterState) : Prop where
  inOrder : state.rowStream.InOrder
  replay : state.rowStream.Explained

/-- From a fresh writer, the rows of whatever session is running always explain
the redaction exactly when no completed reset finds a reason active that the
source's array leaves out; the array holds every active reason just then. -/
theorem suppression_explained_iff (config : WriterConfig) (store : Database) (sessionId : Int)
    (timebase : SessionTimebase) (policy : Policy) (turns : List WriterTurn)
    (enabled : policy.sensitiveContextSuppression = true) (noExclusions : policy.excludedApps = ∅)
    (unlatched : policy.currentFocusExcluded = none) (inactive : policy.activeReasons = ∅) :
    let start := WriterState.started store (.new sessionId timebase) policy
    ((∀ before, before <+: turns →
        RedactionExplained ((writerMachine config).run start before)) ↔
      (writerMachine config).AllSteps (ResetListsReasons config) start turns) ∧
    ∀ later : Policy, later.sensitiveContextSuppression = true →
      (later.activeSensitiveReasons.toFinset = later.activeReasons ↔
        SensitiveContextReason.secureInput ∉ later.activeReasons) := by
  intro start
  refine ⟨?_, active_sensitive_reasons_cover_iff⟩
  have open_latch : policy.currentFocusExcluded ≠ some true := by
    rw [unlatched]
    exact nofun
  have sound : Sound start :=
    ⟨⟨enabled, noExclusions, open_latch⟩, RowStream.in_order_new sessionId timebase policy⟩
  refine (writerMachine config).holds_along_iff_all_steps Sound RedactionExplained
    (ResetListsReasons config) ?_ ?_ start sound ⟨sound.2, inactive.symm⟩
  · intro turn _ state sound
    exact sound_turn config state turn sound
  · intro turn _ state sound explained
    have iff := explained_turn_iff config state turn sound explained.replay
    exact ⟨fun after => iff.mp after.replay,
      fun lists => ⟨(sound_turn config state turn sound).2, iff.mpr lists⟩⟩

end Turns

end Streams

section

attribute [local instance] asciiExternals bareExternals

private def suppressingPolicy : Policy := Policy.identity.withSensitiveContextSuppression true

private def second (count : Nat) : Clock :=
  ⟨⟨count * 1000000000⟩, some (count * 1000000000)⟩

private def enters (reason : SensitiveContextReason) : WriterTurn :=
  .input (.motion ⟨.system, (second 2).now, .sensitiveContextEntered reason⟩) (.clear (second 2))

private def erases : WriterTurn :=
  .secureErase (.clear (second 3).now) (.clear (second 4) "6d1f") ⟨"1.0.0", none, none, none⟩

private def suppressingWriter : WriterState :=
  .started .empty (.new 1 ⟨(second 1).now, .ofInt 1000⟩) suppressingPolicy

/-- The lock screen is still up when the erase completes. -/
theorem suppression_explained_locked :
    RedactionExplained ((writerMachine ⟨200, .ofInt 5000⟩).run suppressingWriter
      [enters .sessionLocked, erases]) := by
  refine ((suppression_explained_iff ⟨200, .ofInt 5000⟩ .empty 1 ⟨(second 1).now, .ofInt 1000⟩
    suppressingPolicy [enters .sessionLocked, erases] rfl rfl rfl rfl).1).mpr ?_ _
      (List.prefix_refl _)
  refine ⟨nofun, ?_, trivial⟩
  intro _
  decide +kernel

/-- Secure input is on when the erase completes: the new session has no boundary
row, and its rows are redacted. -/
theorem secure_input_unexplained :
    ((writerMachine ⟨200, .ofInt 5000⟩).run suppressingWriter
        [enters .secureInput, erases]).sequencer.sessionId = 1 ∧
      ((writerMachine ⟨200, .ofInt 5000⟩).run suppressingWriter
        [enters .secureInput, erases]).stamped = [] ∧
      ((writerMachine ⟨200, .ofInt 5000⟩).run suppressingWriter
        [enters .secureInput, erases]).policy.activeReasons = {.secureInput} ∧
      ((writerMachine ⟨200, .ofInt 5000⟩).outputs suppressingWriter
        [enters .secureInput, erases]).map WriterReply.resetCompleted = [false, true] := by
  decide +kernel

end

end Gilbreth.Store
