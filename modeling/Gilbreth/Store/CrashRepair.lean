import Gilbreth.Store.RowStream

/-!
# Crash and repair of the open segment

The segment in memory, the flag, the single row, the unflushed batch and the
stored rows move at different steps, and a crash keeps only the database. The
invariant ties all five to the stamped rows: a row left behind is always of the
segment that the last stamped focus row opened.
-/

set_option autoImplicit false

namespace Gilbreth.Store

open Gilbreth.Core

/-- A focus row that does not close itself opens its window's segment. -/
def Opens (event : EventEnvelope) (segment : OpenSegment) : Prop :=
  ∃ window prev focusedFor unfocusedFor recovered,
    event.payload = .focusChanged window prev focusedFor unfocusedFor recovered ∧
      prev ≠ some window ∧
      segment = ⟨event.sessionId, exeBasename window.exe, event.tsUnixMs⟩

/-- A row in the database is known to be there and is of the open segment. -/
def RowMatches (state : OpenFocusState) (row : Option OpenFocusRow) : Prop :=
  ∀ left ∈ row, state.rowWritten = true ∧ ∃ segment ∈ state.segment,
    left.sessionId = segment.sessionId ∧ left.exe = some segment.exe ∧
      left.startedTs = segment.startedTs

theorem RowMatches.absent_row (state : OpenFocusState) : RowMatches state none := by
  intro left impossible
  cases impossible

theorem RowMatches.absent {state : OpenFocusState} {row : Option OpenFocusRow}
    (matched : RowMatches state row) (unwritten : state.rowWritten = false) : row = none := by
  cases row with
  | none => rfl
  | some left =>
      have known := (matched left rfl).1
      exact absurd (unwritten.symm.trans known) Bool.false_ne_true

section Tracking

variable {state : OpenFocusState} {db : Database}

theorem clear_open_focus_ok (matched : RowMatches state db.openFocus) :
    (clearOpenFocus none state db).1 = ⟨none, false⟩ ∧
      (clearOpenFocus none state db).2.openFocus = none := by
  unfold clearOpenFocus
  cases written : state.rowWritten with
  | true => exact ⟨rfl, rfl⟩
  | false => exact ⟨rfl, matched.absent written⟩

/-- Noting a row closes the segment, opens another or leaves it alone, and only
the last can leave a row in the database. -/
theorem note_open_focus_cases (matched : RowMatches state db.openFocus) (event : EventEnvelope) :
    let after := noteOpenFocusEvent none state db event
    (after.1.segment = none ∧ after.2.openFocus = none) ∨
      (∃ segment, Opens event segment ∧ after.1.segment = some segment ∧
        after.2.openFocus = none) ∨
      (isFocusChange event.payload = false ∧ after.1 = state ∧ after.2 = db) := by
  obtain ⟨cleared, removed⟩ := clear_open_focus_ok matched
  have closed : (clearOpenFocus none state db).1.segment = none := by rw [cleared]
  unfold noteOpenFocusEvent
  cases payload : event.payload with
  | focusChanged window prev focusedFor unfocusedFor recovered =>
      dsimp only
      split_ifs with self_close written
      · exact Or.inl ⟨closed, removed⟩
      · exact Or.inr (Or.inl ⟨_, ⟨window, prev, focusedFor, unfocusedFor, recovered,
          payload, self_close, rfl⟩, rfl, removed⟩)
      · exact Or.inr (Or.inl ⟨_, ⟨window, prev, focusedFor, unfocusedFor, recovered,
          payload, self_close, rfl⟩, rfl, matched.absent (eq_false_of_ne_true written)⟩)
  | powerSuspend _ | sessionLock _ | sessionDisconnect _ _ | capturePaused =>
      exact Or.inl ⟨closed, removed⟩
  | _ => exact Or.inr (Or.inr ⟨rfl, rfl, rfl⟩)

end Tracking

section Steps

variable [Externals]

/-- One step of the tracking, with every delete and upsert of the focus row
succeeding. A row is admitted before the size check flushes the batch, so a
crash can fall between the two. -/
inductive TrackingStep where
  | queue (clock : Clock) (captured : Captured)
  | flush (readings : Nat → AttemptReadings StoreError)
  | flushActions (readings : Nat → AttemptReadings ActionFault)
  | action (action : ActionCapture) (readings : QueueReadings)
  | beat (now : Instant)
  | heartbeat (clock : Clock) (faults : PersistFaults)
  | forget
  /-- The three statements of a clean stop. -/
  | clear
  | finalizeRecordings (fault : Option StoreError) (endedAt : I64)
  | endSession (fault : Option StoreError) (endedAt : I64)

variable [StoreExternals]

def WriterState.track (config : WriterConfig) (state : WriterState) : TrackingStep → WriterState
  | .queue clock captured => (state.admitCaptured config (.clear clock) captured).1
  | .flush readings => state.flushBatch readings
  | .flushActions readings => state.flushActionBatch readings
  | .action action readings => state.queueAction config readings action
  | .beat now => state.beat now none
  | .heartbeat clock faults => state.logWriterHeartbeat config clock faults
  | .forget => state.forgetFocusAttribution config [] none
  | .clear => state.clearFocus none
  | .finalizeRecordings fault endedAt =>
      let ended := state.store.finalizeOpenRecordSessions fault .appShutdown endedAt
      { state with store := ended.toOption.getD state.store }
  | .endSession fault endedAt =>
      let ended := state.store.endSession fault state.sequencer.sessionId endedAt
      { state with store := ended.toOption.getD state.store }

def trackingMachine (config : WriterConfig) : Machine WriterState TrackingStep Unit where
  step state step := (state.track config step, ())

end Steps

section Invariant

variable [Externals]

/-- The rows of the stream are those of one session, in order. -/
def RowStream.InSession (sessionId : Int) (stream : RowStream) : Prop :=
  stream.InOrder ∧ stream.sequencer.sessionId = sessionId

theorem RowStream.GoesOnTo.in_session {thresholdMs : I64} {sessionId : Int}
    {before after : RowStream} (onward : GoesOnTo thresholdMs before after)
    (inSession : before.InSession sessionId) : after.InSession sessionId := by
  refine onward.keeps (InSession sessionId) ?_ inSession
  rintro stream move same ⟨order, session⟩
  refine ⟨stream.in_order_move thresholdMs move order, ?_⟩
  cases move with
  | capture clock captured =>
      have resynced : (resyncForEventIfNeeded clock thresholdMs stream.sequencer
          captured.payload).sessionId = stream.sequencer.sessionId := by
        unfold resyncForEventIfNeeded
        split_ifs <;> rfl
      refine Eq.trans ?_ (resynced.trans session)
      unfold RowStream.move RowStream.capture
      dsimp only
      split_ifs <;> rfl
  | replace renewed timebase => cases same
  | _ => exact session

/-- What is stored, batched or open in memory, and the focus row in the
database, all come from the stamped rows. -/
structure Tracked (sessionId : Int) (state : WriterState) : Prop where
  inSession : state.rowStream.InSession sessionId
  durable : ∀ row ∈ state.store.activity.events.rows, row.sessionId = sessionId →
    ∃ event ∈ state.stamped, row = .fromEnvelope event
  batched : state.batch ⊆ state.stamped
  opened : ∀ segment ∈ state.openFocus.segment, ∃ before opening after,
    state.stamped = before ++ opening :: after ∧ Opens opening segment ∧
      ∀ later ∈ after, isFocusChange later.payload = false
  row : RowMatches state.openFocus state.store.openFocus

namespace Tracked

variable {sessionId : Int} {state : WriterState}

theorem of_frame (tracked : Tracked sessionId state) {after : WriterState}
    (inSession : after.rowStream.InSession sessionId) (stamped : after.stamped = state.stamped)
    (batch : after.batch = state.batch) (openFocus : after.openFocus = state.openFocus)
    (focusRow : after.store.openFocus = state.store.openFocus)
    (events : after.store.activity.events = state.store.activity.events) :
    Tracked sessionId after := by
  constructor
  · exact inSession
  · rw [events, stamped]
    exact tracked.durable
  · rw [batch, stamped]
    exact tracked.batched
  · rw [openFocus, stamped]
    exact tracked.opened
  · rw [openFocus, focusRow]
    exact tracked.row

theorem clearFocus (tracked : Tracked sessionId state) :
    Tracked sessionId (state.clearFocus none) := by
  obtain ⟨cleared, removed⟩ := clear_open_focus_ok tracked.row
  constructor
  · exact tracked.inSession
  · change ∀ row ∈ (clearOpenFocus none state.openFocus state.store).2.activity.events.rows, _
    rw [(clear_open_focus_keeps none state.openFocus state.store).1]
    exact tracked.durable
  · exact tracked.batched
  · change ∀ segment ∈ (clearOpenFocus none state.openFocus state.store).1.segment, _
    rw [cleared]
    intro segment impossible
    cases impossible
  · change RowMatches _ (clearOpenFocus none state.openFocus state.store).2.openFocus
    rw [removed]
    exact .absent_row _

theorem beat (tracked : Tracked sessionId state) (now : Instant) :
    Tracked sessionId (state.beat now none) := by
  cases current : state.openFocus.segment with
  | none =>
      have idle : state.beat now none = state := by
        unfold WriterState.beat beatOpenFocus
        rw [current]
        rfl
      rw [idle]
      exact tracked
  | some segment =>
      have written : beatOpenFocus none state.sequencer now state.openFocus state.store =
          (⟨some segment, true⟩,
            { state.store with
              openFocus := some ⟨segment.sessionId, some segment.exe, segment.startedTs,
                max (state.sequencer.timestampFor now) segment.startedTs⟩ }) := by
        unfold beatOpenFocus
        rw [current]
        rfl
      unfold WriterState.beat
      rw [written]
      refine ⟨tracked.inSession, tracked.durable, tracked.batched, ?_, ?_⟩
      · intro same open_segment
        exact tracked.opened same (current.trans open_segment)
      · intro row present
        obtain rfl := Option.some.inj present
        exact ⟨rfl, segment, rfl, rfl, rfl, rfl⟩

theorem flushBatch (tracked : Tracked sessionId state)
    (readings : Nat → AttemptReadings StoreError) :
    Tracked sessionId (state.flushBatch readings) := by
  have added := flush_events_added readings state.batch state.store
  refine ⟨tracked.inSession, ?_, List.nil_subset _, tracked.opened, ?_⟩
  · intro row stored session
    rcases added.events row stored with old | ⟨event, member, same⟩
    · exact tracked.durable row old session
    · exact ⟨event, tracked.batched member, same⟩
  · change RowMatches _ (flushRows insertEvents readings state.batch state.store).1.openFocus
    rw [added.openFocus]
    exact tracked.row

/-- A kept row is stamped and batched together; the segment it opens, if any, is
the last one opened. -/
theorem append_event (tracked : Tracked sessionId state) {after : WriterState}
    {event : EventEnvelope} (inSession : after.rowStream.InSession sessionId)
    (stamped : after.stamped = state.stamped ++ [event])
    (batch : after.batch = state.batch ++ [event])
    (noted : noteOpenFocusEvent none state.openFocus state.store event =
      (after.openFocus, after.store)) : Tracked sessionId after := by
  have activity := (note_open_focus_keeps none state.openFocus state.store event).1
  have segment := note_open_focus_cases tracked.row event
  rw [noted] at activity segment
  dsimp only at activity segment
  constructor
  · exact inSession
  · rw [activity, stamped]
    intro row stored session
    obtain ⟨earlier, member, same⟩ := tracked.durable row stored session
    exact ⟨earlier, List.mem_append_left _ member, same⟩
  · rw [batch, stamped]
    intro earlier member
    rcases List.mem_append.mp member with old | new
    · exact List.mem_append_left _ (tracked.batched old)
    · exact List.mem_append_right _ new
  · rcases segment with ⟨closed, _⟩ | ⟨opened, opens, current, _⟩ | ⟨other, same, _⟩
    · rw [closed]
      intro segment impossible
      cases impossible
    · rw [current]
      intro only same
      obtain rfl := Option.some.inj same
      exact ⟨state.stamped, event, [], stamped, opens,
        fun later none => absurd none List.not_mem_nil⟩
    · rw [same]
      intro segment current
      obtain ⟨before, opening, between, split, opens, quiet⟩ := tracked.opened segment current
      refine ⟨before, opening, between ++ [event], ?_, opens, ?_⟩
      · rw [stamped, split, List.append_assoc, List.cons_append]
      · intro later member
        rcases List.mem_append.mp member with old | new
        · exact quiet later old
        · rw [List.mem_singleton.mp new]
          exact other
  · rcases segment with ⟨_, removed⟩ | ⟨_, _, _, removed⟩ | ⟨_, same, store⟩
    · rw [removed]
      exact .absent_row _
    · rw [removed]
      exact .absent_row _
    · rw [same, store]
      exact tracked.row

theorem admitCaptured (tracked : Tracked sessionId state) (config : WriterConfig)
    (readings : QueueReadings) (faultless : readings.clearFault = none) (captured : Captured) :
    Tracked sessionId (state.admitCaptured config readings captured).1 := by
  have inSession := RowStream.GoesOnTo.in_session
    (state.admit_captured_goes_on config readings captured) tracked.inSession
  rw [WriterState.admit_captured_eq] at inSession ⊢
  split_ifs at inSession ⊢ with gated dropped
  · exact tracked.of_frame tracked.inSession rfl rfl rfl rfl rfl
  · have stream := state.drop_received_stream config readings captured
    rw [WriterState.row_stream_of_same stream] at inSession
    have received : Tracked sessionId (state.received config readings captured) :=
      tracked.of_frame inSession rfl rfl rfl rfl rfl
    unfold WriterState.dropReceived
    rw [faultless]
    split_ifs
    · exact received.clearFocus
    · exact received
  · refine tracked.append_event inSession rfl rfl ?_
    rw [← faultless]
    rfl

variable [StoreExternals]

theorem track (tracked : Tracked sessionId state) (config : WriterConfig) (step : TrackingStep) :
    Tracked sessionId (state.track config step) := by
  cases step with
  | queue clock captured => exact tracked.admitCaptured config (.clear clock) rfl captured
  | flush readings => exact tracked.flushBatch readings
  | flushActions readings =>
      obtain ⟨focusRow, events⟩ := flush_actions_keeps readings state.actionBatch state.store
      exact tracked.of_frame tracked.inSession rfl rfl rfl focusRow events
  | action action readings =>
      have step := state.queue_action_step config readings action
      have inSession := RowStream.GoesOnTo.in_session
        (state.queue_writer_input_goes_on config readings (.action action)) tracked.inSession
      have store : (state.queueAction config readings action).store.openFocus =
            state.store.openFocus ∧
          (state.queueAction config readings action).store.activity.events =
            state.store.activity.events := by
        rcases step.store with same | ⟨flush, batch, flushed⟩
        · rw [same]
          exact ⟨rfl, rfl⟩
        · rw [flushed]
          exact flush_actions_keeps flush batch state.store
      exact tracked.of_frame inSession step.stamped step.batch step.openFocus store.1 store.2
  | beat now => exact tracked.beat now
  | heartbeat clock faults =>
      have kept := state.heartbeat_keeps config clock faults
      have resynced : RowStream.GoesOnTo config.timebaseDriftThresholdMs state.rowStream
          (state.rowStream.move config.timebaseDriftThresholdMs (.resync clock)) :=
        .single _ _ rfl
      exact tracked.of_frame (resynced.in_session tracked.inSession) rfl rfl rfl kept.1
        (congrArg Activity.events kept.2)
  | forget =>
      have forgotten : Tracked sessionId
          { state with policy := state.policy.forgetFocusAttribution } :=
        tracked.of_frame ⟨⟨tracked.inSession.1.session, tracked.inSession.1.bounded,
          tracked.inSession.1.numbered, tracked.inSession.1.dated, tracked.inSession.1.ordered⟩,
          tracked.inSession.2⟩ rfl rfl rfl rfl rfl
      exact forgotten.clearFocus
  | clear => exact tracked.clearFocus
  | finalizeRecordings fault endedAt =>
      refine tracked.of_frame tracked.inSession rfl rfl rfl ?_ ?_ <;>
        cases fault <;> rfl
  | endSession fault endedAt =>
      refine tracked.of_frame tracked.inSession rfl rfl rfl ?_ ?_ <;>
        cases fault <;> rfl

end Tracked

end Invariant

section Repair

/-- The stored dwell reaches back to the start of the segment and no further. -/
theorem recovered_for_le {startedTs highWaterTs : I64} (ordered : startedTs ≤ highWaterTs) :
    startedTs.val ≤
      highWaterTs.val - (u64ToI64 (recoveredFor startedTs highWaterTs).toNat).val := by
  have apart := SatInt.le_iff.mp ordered
  unfold recoveredFor
  split_ifs with fits
  · simp only [I64.maximum] at fits
    simp only [u64ToI64, I64.ofInt, SatInt.clamp, UInt64.toNat_ofNat']
    omega
  · simp only [u64ToI64, I64.ofInt, SatInt.clamp, UInt64.toNat_zero]
    omega

/-- A focus row that gives the dwell of an open segment and nothing before it. -/
structure RecoveredFrom (segment : OpenSegment) (row : EventRow) : Prop where
  sessionId : row.sessionId = segment.sessionId
  kind : row.kind = "focus_changed"
  app : row.prevExe = some segment.exe
  span : ∃ durationMs ∈ row.durationMs, segment.startedTs.val ≤ row.ts.val - durationMs.val

theorem recovered_event_from {segment : OpenSegment} {row : OpenFocusRow} (seq : Nat)
    (sessionId : row.sessionId = segment.sessionId) (exe : row.exe = some segment.exe)
    (startedTs : row.startedTs = segment.startedTs) {path : String}
    (basename : segment.exe = exeBasename path) :
    RecoveredFrom segment (.fromEnvelope (recoveredEvent row seq)) := by
  constructor
  · exact sessionId
  · rfl
  · change some (exeBasename (row.exe.getD "")) = some segment.exe
    rw [exe, Option.getD_some, basename, exe_basename_idem]
  · refine ⟨_, rfl, ?_⟩
    rw [← startedTs]
    exact recovered_for_le (le_max_right _ _)

/-- The repair recovers nothing, or one row from the row left behind; either way
it leaves none for another repair. -/
theorem repair_open_focus_cases {fault : Option StoreError} {db repaired : Database} {count : Nat}
    (succeeded : repairOpenFocus fault db = .ok (repaired, count)) :
    repaired.openFocus = none ∧
      ((count = 0 ∧ repaired.activity.events = db.activity.events) ∨
        (count = 1 ∧ ∃ row ∈ db.openFocus, ∃ seq, repaired.activity.events.rows =
          db.activity.events.rows ++ [.fromEnvelope (recoveredEvent row seq)])) := by
  unfold repairOpenFocus at succeeded
  cases present : db.openFocus with
  | none =>
      rw [present] at succeeded
      obtain ⟨_, same⟩ := statement_ok succeeded
      obtain ⟨rfl, rfl⟩ := Prod.mk.inj same
      exact ⟨present, Or.inl ⟨rfl, rfl⟩⟩
  | some row =>
      rw [present] at succeeded
      dsimp only at succeeded
      split_ifs at succeeded
      · obtain ⟨_, same⟩ := statement_ok succeeded
        obtain ⟨rfl, rfl⟩ := Prod.mk.inj same
        exact ⟨rfl, Or.inl ⟨rfl, rfl⟩⟩
      all_goals
        split at succeeded
        · cases succeeded
        · rename_i inserted added
          obtain ⟨_, same⟩ := statement_ok succeeded
          obtain ⟨rfl, rfl⟩ := Prod.mk.inj same
          unfold Database.insertEvent at added
          split_ifs at added
          obtain ⟨events, fits, rfl⟩ := Option.map_eq_some_iff.mp added
          exact ⟨rfl, Or.inr ⟨rfl, row, rfl, _, Table.insert_some_rows fits⟩⟩

end Repair

section Crash

theorem is_focus_change_of_kind {payload : EventPayload} (kind : payload.kind = "focus_changed") :
    isFocusChange payload = true := by
  cases payload with
  | focusChanged window prev focusedFor unfocusedFor recovered => rfl
  | _ => simp [EventPayload.kind] at kind

variable [Externals]

/-- The repair adds one row, for the last segment a stamped row opened, and every
focus row the database holds of the session was stamped before that or is the
row that opened it: the row that would carry the dwell is not among them. -/
def RecoversLastSegment (crashed : WriterState) (repaired : Database) : Prop :=
  ∃ before opening after segment recovered,
    crashed.stamped = before ++ opening :: after ∧ Opens opening segment ∧
      RecoveredFrom segment recovered ∧
      repaired.activity.events.rows = crashed.store.activity.events.rows ++ [recovered] ∧
      ∀ row ∈ crashed.store.activity.events.rows, row.sessionId = segment.sessionId →
        row.kind = "focus_changed" →
        (∃ event ∈ before ++ [opening], row = .fromEnvelope event) ∧ row.ts ≤ segment.startedTs

namespace Tracked

variable {sessionId : Int} {crashed : WriterState}

theorem stamped_focus_row (tracked : Tracked sessionId crashed) {before after : List EventEnvelope}
    {opening : EventEnvelope} {segment : OpenSegment}
    (stamped : crashed.stamped = before ++ opening :: after) (opens : Opens opening segment)
    (quiet : ∀ later ∈ after, isFocusChange later.payload = false) {event : EventEnvelope}
    (member : event ∈ crashed.stamped) (focus : isFocusChange event.payload = true) :
    event ∈ before ++ [opening] ∧ event.tsUnixMs ≤ segment.startedTs := by
  obtain ⟨_, _, _, _, _, _, _, rfl⟩ := opens
  have order := tracked.inSession.1.ordered
  change crashed.stamped.Pairwise _ at order
  rw [stamped] at member order
  rcases List.mem_append.mp member with old | new
  · have earlier := (List.pairwise_append.mp order).2.2 event old opening List.mem_cons_self
    exact ⟨List.mem_append_left _ old, earlier.2⟩
  · rcases List.mem_cons.mp new with rfl | later
    · exact ⟨List.mem_append_right _ (List.mem_singleton_self event), le_rfl⟩
    · exact absurd ((quiet event later).symm.trans focus) Bool.false_ne_true

theorem durable_focus_row (tracked : Tracked sessionId crashed) {before after : List EventEnvelope}
    {opening : EventEnvelope} {segment : OpenSegment}
    (stamped : crashed.stamped = before ++ opening :: after) (opens : Opens opening segment)
    (quiet : ∀ later ∈ after, isFocusChange later.payload = false) {row : EventRow}
    (stored : row ∈ crashed.store.activity.events.rows) (session : row.sessionId = sessionId)
    (kind : row.kind = "focus_changed") :
    (∃ event ∈ before ++ [opening], row = .fromEnvelope event) ∧ row.ts ≤ segment.startedTs := by
  obtain ⟨event, member, rfl⟩ := tracked.durable row stored session
  obtain ⟨_, _, ts, event_kind, _⟩ := from_envelope_columns event
  have focus : isFocusChange event.payload = true :=
    is_focus_change_of_kind (event_kind.symm.trans kind)
  obtain ⟨early, dated⟩ := tracked.stamped_focus_row stamped opens quiet member focus
  exact ⟨⟨event, early, rfl⟩, ts ▸ dated⟩

theorem recovers (tracked : Tracked sessionId crashed) {row : OpenFocusRow}
    (left : row ∈ crashed.store.openFocus) {seq : Nat} {repaired : Database}
    (rows : repaired.activity.events.rows =
      crashed.store.activity.events.rows ++ [.fromEnvelope (recoveredEvent row seq)]) :
    RecoversLastSegment crashed repaired := by
  obtain ⟨_, segment, current, session, exe, started⟩ := tracked.row row left
  obtain ⟨before, opening, after, stamped, opens, quiet⟩ := tracked.opened segment current
  obtain ⟨window, prev, focusedFor, unfocusedFor, recovered, payload, differs, rfl⟩ := opens
  have opening_session : opening.sessionId = sessionId := by
    have member : opening ∈ crashed.stamped := by
      rw [stamped]
      exact List.mem_append_right _ List.mem_cons_self
    exact (tracked.inSession.1.session opening member).trans tracked.inSession.2
  refine ⟨before, opening, after, _, _, stamped,
    ⟨window, prev, focusedFor, unfocusedFor, recovered, payload, differs, rfl⟩,
    recovered_event_from seq session exe started rfl, rows, ?_⟩
  intro durable stored same kind
  exact tracked.durable_focus_row stamped
    ⟨window, prev, focusedFor, unfocusedFor, recovered, payload, differs, rfl⟩ quiet stored
    (same.trans opening_session) kind

theorem started {store db : Database} {fault : Option StoreError} {startedAt : I64}
    {identity : SessionIdentity}
    (created : store.createSessionWithIdentity fault startedAt identity = .ok (db, sessionId))
    (references : ForeignKeys store.activity) (closed : store.openFocus = none)
    (timebase : SessionTimebase) (policy : Policy) :
    Tracked sessionId (.started db (.new sessionId timebase) policy) := by
  obtain ⟨_, same⟩ := statement_ok created
  obtain ⟨rfl, rfl⟩ := Prod.mk.inj same
  refine ⟨⟨RowStream.in_order_new _ timebase policy, rfl⟩, ?_, List.Subset.refl _, ?_, ?_⟩
  · intro row stored new
    obtain ⟨session, listed, owns⟩ := references.eventSession row stored
    have used : store.newSessionId ∈ store.sessionIds :=
      List.mem_map.mpr ⟨session, listed, owns.trans new⟩
    exact absurd used (Table.next_id_fresh _ _)
  · intro segment impossible
    cases impossible
  · change RowMatches _ store.openFocus
    rw [closed]
    exact .absent_row _

end Tracked

variable [StoreExternals]

/-- A crash at any point of a session's run: the repair recovers at most one row,
for a segment whose closing row is not stored, and a second repair none. -/
theorem no_dwell_twice_across_crash (config : WriterConfig) {store db : Database}
    {fault : Option StoreError} {startedAt : I64} {identity : SessionIdentity} {sessionId : Int}
    (created : store.createSessionWithIdentity fault startedAt identity = .ok (db, sessionId))
    (references : ForeignKeys store.activity) (closed : store.openFocus = none)
    (timebase : SessionTimebase) (policy : Policy) (steps : List TrackingStep)
    (repairFault : Option StoreError) (repaired : Database) (count : Nat)
    (succeeded : repairOpenFocus repairFault
      ((trackingMachine config).run (.started db (.new sessionId timebase) policy) steps).store =
        .ok (repaired, count)) :
    let crashed :=
      (trackingMachine config).run (.started db (.new sessionId timebase) policy) steps
    ((count = 0 ∧ repaired.activity.events = crashed.store.activity.events) ∨
        (count = 1 ∧ RecoversLastSegment crashed repaired)) ∧
      ∀ fault again more, repairOpenFocus fault repaired = .ok (again, more) →
        more = 0 ∧ again.activity.events = repaired.activity.events := by
  intro crashed
  have tracked : Tracked sessionId crashed :=
    (trackingMachine config).run_invariant (Tracked sessionId)
      (fun state step tracked => tracked.track config step) _ steps
      (Tracked.started created references closed timebase policy)
  obtain ⟨consumed, outcome⟩ := repair_open_focus_cases succeeded
  constructor
  · rcases outcome with none | ⟨one, row, left, seq, rows⟩
    · exact Or.inl none
    · exact Or.inr ⟨one, tracked.recovers left rows⟩
  · intro fault again more repeated
    rcases (repair_open_focus_cases repeated).2 with none | ⟨_, row, left, _⟩
    · exact none
    · rw [consumed] at left
      cases left

end Crash

section

attribute [local instance] asciiExternals bareExternals

private def mailWindow : WindowRef := ⟨11, "C:\\apps\\mail.exe", "inbox", 40⟩

private def atSecond (count : Nat) : Clock := ⟨⟨count * 1000000000⟩, some (count * 1000000000)⟩

private def mailStore : Database :=
  ((Database.empty.createSessionWithIdentity none (.ofInt 1000)
    ⟨"1.0.0", none, none, none⟩).toOption.map Prod.fst).getD .empty

private theorem mail_session_created :
    Database.empty.createSessionWithIdentity none (.ofInt 1000) ⟨"1.0.0", none, none, none⟩ =
      .ok (mailStore, 1) := rfl

private def crashedInMail : WriterState :=
  (trackingMachine ⟨200, .ofInt 5000⟩).run
    (.started mailStore (.new 1 ⟨(atSecond 1).now, .ofInt 1000⟩) .identity)
    [.queue (atSecond 2) ⟨.foreground, (atSecond 2).now, .focusChanged mailWindow none 0 0 false⟩,
      .beat (atSecond 32).now, .flush fun _ => .clear]

/-- Half a minute of mail was open and beaten out when the machine went down. -/
theorem no_dwell_twice_across_crash_mail :
    ∃ repaired, repairOpenFocus none crashedInMail.store = .ok (repaired, 1) ∧
      RecoversLastSegment crashedInMail repaired := by
  have one : (repairOpenFocus none crashedInMail.store).toOption.map Prod.snd = some 1 := by
    decide +kernel
  cases succeeded : repairOpenFocus none crashedInMail.store with
  | error error =>
      rw [succeeded] at one
      cases one
  | ok result =>
      obtain ⟨repaired, count⟩ := result
      rw [succeeded] at one
      obtain rfl := Option.some.inj one
      have outcome := (no_dwell_twice_across_crash ⟨200, .ofInt 5000⟩ mail_session_created .empty
        rfl _ _ _ none repaired 1 succeeded).1
      rcases outcome with ⟨impossible, _⟩ | ⟨_, recovers⟩
      · cases impossible
      · exact ⟨repaired, rfl, recovers⟩

end

end Gilbreth.Store
