import Gilbreth.Store.CommandFrame
import Gilbreth.Store.Lifetime

/-!
# The durable loss counters

A counter of lost rows counts in memory, remembers what it started from and
what it last wrote, and is written to the metadata by a heartbeat and at a clean
stop. A reset deletes the metadata. The ledger beside the lifetime counts what
the stored value ought to be.
-/

set_option autoImplicit false

namespace Gilbreth.Store

open Gilbreth.Core

section Metadata

variable {db after : Database} {fault : Option StoreError} {key value : String}

theorem read_meta_eq (db : Database) (key : String) :
    db.readMeta key = (db.metaRows.lookup key).map MetaRow.value := rfl

theorem read_meta_upsert (written : db.upsertMeta fault key value = .ok after) (other : String) :
    after.readMeta other = if other = key then some value else db.readMeta other := by
  obtain ⟨_, rfl⟩ := statement_ok written
  rw [read_meta_eq, read_meta_eq]
  dsimp only
  split_ifs with present same same
  · obtain ⟨row, found⟩ := Option.isSome_iff_exists.mp (Table.lookup_isSome (same ▸ present))
    rw [Table.lookup_update_where, if_pos same, Option.map_map, found]
    rfl
  · rw [Table.lookup_update_where, if_neg same]
  · rw [Table.lookup_append, same, Table.lookup_none present]
    simp
  · rw [Table.lookup_append]
    have missed : (key == other) = false := beq_false_of_ne (Ne.symm same)
    simp [missed]

theorem read_meta_insert (inserted : db.insertMeta fault key value = .ok after) {other : String}
    (different : other ≠ key) : after.readMeta other = db.readMeta other := by
  obtain ⟨_, rfl⟩ := statement_ok inserted
  rw [read_meta_eq, read_meta_eq]
  unfold Table.insert?
  dsimp only
  split_ifs with present
  · rfl
  · have missed : (key == other) = false := beq_false_of_ne (Ne.symm different)
    rw [Option.getD_some, Table.lookup_append]
    simp [missed]

theorem parse_u64_repr {number : Nat} (fits : number ≤ u64Max) :
    parseU64 s!"{number}" = some number := by
  have text : s!"{number}".toList = Nat.toDigits 10 number := Nat.toList_repr
  have digits : ∀ char ∈ Nat.toDigits 10 number, char.isDigit :=
    fun char member => Nat.isDigit_of_mem_toDigits (by decide) (by decide) member
  have unsigned : (Nat.toDigits 10 number).head? ≠ some '+' := by
    intro plus
    have digit := digits '+' (List.mem_of_mem_head? plus)
    exact absurd digit (by decide)
  have value : (Nat.toDigits 10 number).foldl
      (fun value digit => 10 * value + (digit.toNat - 48)) 0 = number := by
    have parsed : Nat.ofDigitChars 10 (Nat.toDigits 10 number) 0 = number :=
      Nat.ofDigitChars_ten_toDigits
    rw [Nat.ofDigitChars_eq_foldl] at parsed
    exact parsed
  unfold parseU64
  rw [text]
  dsimp only
  rw [if_neg unsigned, value, if_pos]
  exact ⟨Nat.toDigits_ne_nil, List.all_eq_true.mpr digits, fits⟩

end Metadata

inductive LossCounter where
  | captureEvents | stalePreErase
deriving DecidableEq

namespace LossCounter

def metaKey : LossCounter → String
  | captureEvents => captureEventsDroppedMetaKey
  | stalePreErase => stalePreEraseRowsDroppedMetaKey

def runTotal (diagnostics : DiagnosticsCounters) : LossCounter → Nat
  | captureEvents => diagnostics.captureEventsDropped
  | stalePreErase => diagnostics.stalePreEraseRowsDropped

def memory (heartbeat : WriterHeartbeat) : LossCounter → DropCounter
  | captureEvents => heartbeat.captureDropped
  | stalePreErase => heartbeat.stalePreEraseDropped

def readFault (faults : PersistFaults) : LossCounter → Option StoreError
  | captureEvents => faults.captureRead
  | stalePreErase => faults.staleRead

def writeFault (faults : PersistFaults) : LossCounter → Option StoreError
  | captureEvents => faults.captureWrite
  | stalePreErase => faults.staleWrite

/-- What a read of the stored total gives. -/
def stored (db : Database) (counter : LossCounter) : Nat := readMetaU64 none db counter.metaKey

theorem stored_of_row {db : Database} {counter : LossCounter} {total : Nat}
    (fits : total ≤ u64Max) (row : db.readMeta counter.metaKey = some s!"{total}") :
    counter.stored db = total := by
  unfold stored readMetaU64
  rw [row, Option.bind_some, parse_u64_repr fits]
  rfl

theorem stored_of_absent {db : Database} {counter : LossCounter}
    (absent : db.readMeta counter.metaKey = none) : counter.stored db = 0 := by
  unfold stored readMetaU64
  rw [absent]
  rfl

theorem stored_congr {before after : Database} {counter : LossCounter}
    (same : after.readMeta counter.metaKey = before.readMeta counter.metaKey) :
    counter.stored after = counter.stored before := by
  unfold stored readMetaU64
  rw [same]

end LossCounter

section Kept

variable [Externals]

/-- The metadata rows of the counters and the heartbeat's memory are untouched,
and the counters have at most grown. -/
structure CountersKept (before after : WriterState) : Prop where
  rows : ∀ counter : LossCounter,
    after.store.readMeta counter.metaKey = before.store.readMeta counter.metaKey
  heartbeat : after.heartbeat = before.heartbeat
  grown : ∀ counter : LossCounter,
    counter.runTotal before.diagnostics ≤ counter.runTotal after.diagnostics

namespace CountersKept

theorem refl (state : WriterState) : CountersKept state state :=
  ⟨fun _ => rfl, rfl, fun _ => Nat.le_refl _⟩

theorem trans {first second third : WriterState} (left : CountersKept first second)
    (right : CountersKept second third) : CountersKept first third where
  rows counter := (right.rows counter).trans (left.rows counter)
  heartbeat := right.heartbeat.trans left.heartbeat
  grown counter := (left.grown counter).trans (right.grown counter)

variable {before after : WriterState}

theorem of_input_frame (frame : InputFrame before after) : CountersKept before after where
  rows counter := by
    unfold Database.readMeta
    rw [frame.books.metaRows]
  heartbeat := frame.heartbeat
  grown counter := by
    cases counter with
    | captureEvents => exact frame.captureDropped.ge
    | stalePreErase => exact frame.staleDropped

theorem of_command_frame (frame : CommandFrame before after) : CountersKept before after := by
  rw [frame.rest]
  refine ⟨fun counter => ?_, rfl, fun _ => Nat.le_refl _⟩
  unfold Database.readMeta
  rw [frame.routine.metaRows]

variable (config : WriterConfig) (state : WriterState)

theorem reemit (now : Instant) (readings : SensitiveContextReason → QueueReadings) :
    CountersKept state (state.reemitActiveSensitiveContexts config now readings) := by
  unfold WriterState.reemitActiveSensitiveContexts
  induction state.policy.activeSensitiveReasons generalizing state with
  | nil => exact refl state
  | cons reason rest induction =>
      exact (of_input_frame (InputFrame.queue_captured config state _ _)).trans (induction _)

theorem erase_completed (readings : DeleteReadings) :
    CountersKept state (state.eraseCompleted config readings) := by
  have forgotten : CountersKept state
      { state with
        eraseCompletionBoundaryMs :=
          some (state.sequencer.projectedTimestampFor
            readings.completedAt) }.forgetOpenFocus :=
    ⟨fun _ => rfl, rfl, fun _ => Nat.le_refl _⟩
  exact forgotten.trans (reemit config _ readings.completedAt readings.reemit)

theorem archive_reset_completed (readings : DeleteReadings) :
    CountersKept state (state.archiveResetCompleted config readings) := by
  have forgotten : CountersKept state
      { state with eraseCompletionBoundaryMs := none }.forgetOpenFocus :=
    ⟨fun _ => rfl, rfl, fun _ => Nat.le_refl _⟩
  exact forgotten.trans (reemit config _ readings.completedAt readings.reemit)

end CountersKept

theorem CountersKept.create_replacement_session (state : WriterState)
    (readings : ReplacementReadings) (identity : SessionIdentity) :
    CountersKept state (state.createReplacementSession readings identity).1 := by
  have foreign : ∀ counter : LossCounter,
      counter.metaKey ≠ "db_uuid" ∧ counter.metaKey ≠ "created_at" := by
    intro counter
    cases counter <;> decide
  have minted : ∀ counter : LossCounter, (state.store.mintMetaIdentity readings.mintFault
      readings.mintSecondFault readings.start.utcMs readings.dbUuid).1.readMeta counter.metaKey =
        state.store.readMeta counter.metaKey := by
    intro counter
    unfold Database.mintMetaIdentity
    split
    · rfl
    · rename_i named first
      have kept := read_meta_upsert first counter.metaKey
      rw [if_neg (foreign counter).1] at kept
      split
      · exact kept
      · rename_i dated second
        have again := read_meta_upsert second counter.metaKey
        rw [if_neg (foreign counter).2] at again
        exact again.trans kept
  unfold WriterState.createReplacementSession
  dsimp only
  split
  · rename_i db error made
    rw [made] at minted
    exact ⟨minted, rfl, fun _ => Nat.le_refl _⟩
  · rename_i db made
    rw [made] at minted
    split
    · exact ⟨minted, rfl, fun _ => Nat.le_refl _⟩
    · rename_i created _ inserted
      obtain ⟨_, same⟩ := statement_ok inserted
      obtain ⟨rfl, _⟩ := Prod.mk.inj same
      exact ⟨minted, rfl, fun _ => Nat.le_refl _⟩

theorem CountersKept.replaced {start replaced : WriterState} {readings : ReplacementReadings}
    {identity : SessionIdentity} {result : Except StoreError Int}
    (anew : start.createReplacementSession readings identity = (replaced, result)) :
    CountersKept start replaced := by
  have created := CountersKept.create_replacement_session start readings identity
  rwa [anew] at created

section Resets

variable [StoreExternals] (config : WriterConfig) (state : WriterState)

theorem CountersKept.settle_for_reset (settle : SettleReadings) :
    CountersKept state (state.settleForReset config settle).1 := by
  have drained := CountersKept.of_input_frame
    (InputFrame.drain_and_flush config state settle.drain)
  unfold WriterState.settleForReset
  dsimp only
  split
  · exact drained
  · rename_i db finalized
    refine drained.trans ⟨fun counter => ?_, rfl, fun _ => Nat.le_refl _⟩
    unfold Database.readMeta
    rw [(RoutineFrame.finalize finalized).metaRows]

/-- The settled writer whose rows a reset deletes, when it gets that far. -/
def wipedWriter : WriterTurn → Option WriterState
  | .secureErase settle readings _ =>
      if state.recordState.activeRecordSessionId.isSome then none
      else
        match state.settleForReset config settle with
        | (_, .error _) => none
        | (settled, .ok _) => if readings.deleteFault.isNone then some settled else none
  | .archiveAndReset settle archiving readings archivePath archive _ =>
      if state.recordState.activeRecordSessionId.isSome then none
      else
        match state.settleForReset config settle with
        | (_, .error _) => none
        | (settled, .ok endedAt) =>
            match (archiveActivityTo archiving archivePath endedAt settled.store archive).2 with
            | .error _ => none
            | .ok _ => if readings.deleteFault.isNone then some settled else none
  | _ => none

/-- The writer right after the delete of a secure erase. -/
def WriterState.erased : WriterState := { state with store := .empty }.rebaseCounters

/-- The writer right after the delete of an archive and reset. -/
def WriterState.emptied : WriterState := { state with store := .empty }

omit [StoreExternals] in
theorem erase_settled_counters (readings : DeleteReadings) (identity : SessionIdentity) :
    let after := (state.eraseSettled config readings identity).1
    (readings.deleteFault = none → CountersKept state.erased after) ∧
      (readings.deleteFault ≠ none → after = state) := by
  unfold WriterState.eraseSettled
  split
  · rename_i error failed
    refine ⟨fun faultless => ?_, fun _ => rfl⟩
    unfold Database.secureDeleteActivity at failed
    rw [faultless] at failed
    cases failed
  · rename_i db deleted wiping
    obtain ⟨faultless, same⟩ := statement_ok wiping
    obtain ⟨rfl, _⟩ := Prod.mk.inj same
    refine ⟨fun _ => ?_, fun failed => absurd faultless failed⟩
    split
    · rename_i replaced error anew
      exact .replaced anew
    · rename_i replaced newSessionId anew
      have started : CountersKept state.erased replaced := .replaced anew
      exact started.trans (.erase_completed config replaced readings)

omit [StoreExternals] in
theorem reset_archived_counters (readings : DeleteReadings) (identity : SessionIdentity)
    (archive : ArchiveReport) :
    let after := (state.resetArchived config readings identity archive).1
    (readings.deleteFault = none → CountersKept state.emptied after) ∧
      (readings.deleteFault ≠ none → after = state) := by
  unfold WriterState.resetArchived
  split
  · rename_i error failed
    refine ⟨fun faultless => ?_, fun _ => rfl⟩
    unfold Database.secureDeleteActivity at failed
    rw [faultless] at failed
    cases failed
  · rename_i db deleted wiping
    obtain ⟨faultless, same⟩ := statement_ok wiping
    obtain ⟨rfl, _⟩ := Prod.mk.inj same
    refine ⟨fun _ => ?_, fun failed => absurd faultless failed⟩
    split
    · rename_i replaced error anew
      exact .replaced anew
    · rename_i replaced newSessionId anew
      have started : CountersKept state.emptied replaced := .replaced anew
      exact started.trans (.archive_reset_completed config replaced readings)

/-- A turn leaves the counters to the ledger, unless it deletes the metadata: an
erase starts them over, an archive and reset does not. -/
def CountersTurned (turn : WriterTurn) (after : WriterState) : Prop :=
  match wipedWriter config state turn with
  | none => CountersKept state after
  | some settled => CountersKept state settled ∧
      CountersKept (match turn with
        | .archiveAndReset .. => settled.emptied
        | _ => settled.erased) after

theorem secure_erase_counters (settle : SettleReadings) (readings : DeleteReadings)
    (identity : SessionIdentity) :
    CountersTurned config state (.secureErase settle readings identity)
      (state.secureErase config settle readings identity).1 := by
  have settled := CountersKept.settle_for_reset config state settle
  unfold CountersTurned WriterState.secureErase wipedWriter
  dsimp only
  by_cases active : state.recordState.activeRecordSessionId.isSome
  · rw [if_pos active, if_pos active]
    exact .refl state
  rw [if_neg active, if_neg active]
  cases made : state.settleForReset config settle with
  | mk after outcome =>
      rw [made] at settled
      cases outcome with
      | error error => exact settled
      | ok endedAt =>
          have erased := erase_settled_counters config after readings identity
          dsimp only
          by_cases done : readings.deleteFault = none
          · rw [if_pos (Option.isNone_iff_eq_none.mpr done)]
            exact ⟨settled, erased.1 done⟩
          · rw [if_neg (mt Option.isNone_iff_eq_none.mp done)]
            rw [erased.2 done]
            exact settled

theorem archive_and_reset_counters (settle : SettleReadings) (archiving : ArchiveReadings)
    (readings : DeleteReadings) (archivePath : String) (archive : Option ArchiveFile)
    (identity : SessionIdentity) :
    CountersTurned config state
      (.archiveAndReset settle archiving readings archivePath archive identity)
      (state.archiveAndReset config settle archiving readings archivePath archive
        identity).state := by
  have settled := CountersKept.settle_for_reset config state settle
  unfold CountersTurned WriterState.archiveAndReset wipedWriter
  dsimp only
  by_cases active : state.recordState.activeRecordSessionId.isSome
  · rw [if_pos active, if_pos active]
    exact .refl state
  rw [if_neg active, if_neg active]
  cases made : state.settleForReset config settle with
  | mk after outcome =>
      rw [made] at settled
      cases outcome with
      | error error => exact settled
      | ok endedAt =>
          dsimp only
          cases archived : archiveActivityTo archiving archivePath endedAt after.store archive with
          | mk files result =>
              cases result with
              | error error => exact settled
              | ok report =>
                  have emptied := reset_archived_counters config after readings identity report
                  dsimp only
                  by_cases done : readings.deleteFault = none
                  · rw [if_pos (Option.isNone_iff_eq_none.mpr done)]
                    exact ⟨settled, emptied.1 done⟩
                  · rw [if_neg (mt Option.isNone_iff_eq_none.mp done)]
                    rw [emptied.2 done]
                    exact settled

theorem turn_counters (turn : WriterTurn)
    (unpersisted : ∀ clock faults, turn ≠ .heartbeatTick clock faults) :
    CountersTurned config state turn (state.turn config turn).1 := by
  cases turn with
  | input input readings =>
      exact .of_input_frame (InputFrame.queue_writer_input config state readings input)
  | flushTick flush actionFlush =>
      exact .of_input_frame (InputFrame.flush_all_batches state flush actionFlush)
  | heartbeatTick clock faults => exact absurd rfl (unpersisted clock faults)
  | openFocusTick now fault => exact .of_input_frame (InputFrame.beat state now fault)
  | pollTick readings => exact .of_command_frame (polled state readings).command_frame
  | forgetFocusAttribution fault =>
      have cleared := CountersKept.of_input_frame (InputFrame.clear_focus
        { state with policy := state.policy.forgetFocusAttribution } fault)
      exact ⟨cleared.rows, cleared.heartbeat, cleared.grown⟩
  | startRecording now faults command =>
      exact .of_command_frame (start_recording_cases state now faults command).command_frame
  | stopRecording now flush actionFlush fault recordSessionId stopReason =>
      exact (CountersKept.of_input_frame (InputFrame.drain_and_flush config state
        ⟨[], flush, actionFlush⟩)).trans
          (.of_command_frame (CommandFrame.stop_recording state now config
            ⟨[], flush, actionFlush⟩ fault recordSessionId stopReason))
  | pauseRecording now fault recordSessionId =>
      exact .of_command_frame (CommandFrame.pause_recording state now fault recordSessionId)
  | resumeRecording now fault recordSessionId =>
      exact .of_command_frame (CommandFrame.resume_recording state now fault recordSessionId)
  | extendCap recordSessionId => exact .refl state
  | declineRecordRequest now fault requestId =>
      exact .of_command_frame (CommandFrame.decline_record_request state now fault requestId)
  | secureErase settle readings identity =>
      exact secure_erase_counters config state settle readings identity
  | archiveAndReset settle archiving readings archivePath archive identity =>
      exact archive_and_reset_counters config state settle archiving readings archivePath archive
        identity
  | panicCutoff cutoff => exact ⟨fun _ => rfl, rfl, fun _ => Nat.le_refl _⟩
  | captureDropped =>
      refine ⟨fun _ => rfl, rfl, fun counter => ?_⟩
      cases counter with
      | captureEvents => exact Nat.le_succ _
      | stalePreErase => exact Nat.le_refl _

end Resets

section Persist

omit [Externals] in
theorem persist_dropped_cases (readFault writeFault : Option StoreError) (key : String)
    (runTotal : Nat) {counter : DropCounter} (db : Database)
    (settled : counter.resetPending = false) :
    let base := counter.base.getD (readMetaU64 readFault db key)
    let total := min u64Max (base + (runTotal - counter.offset))
    let result := persistDropped readFault writeFault key runTotal counter db
    (result = ({ counter with base := some base }, db) ∧
      (writeFault = none → counter.persisted = some total)) ∨
    (writeFault = none ∧
      result.1 = { counter with base := some base, persisted := some total } ∧
      db.upsertMeta none key s!"{total}" = .ok result.2) := by
  have unset : ¬counter.resetPending = true := by
    rw [settled]
    exact Bool.false_ne_true
  unfold persistDropped
  rw [if_neg unset]
  dsimp only
  split_ifs with cached
  · exact Or.inl ⟨rfl, fun _ => cached⟩
  · cases writeFault with
    | none => exact Or.inr ⟨rfl, rfl, rfl⟩
    | some error => exact Or.inl ⟨rfl, nofun⟩

omit [Externals] in
theorem persist_dropped_other (readFault writeFault : Option StoreError) {key other : String}
    (different : other ≠ key) (runTotal : Nat) (counter : DropCounter) (db : Database) :
    (persistDropped readFault writeFault key runTotal counter db).2.readMeta other =
      db.readMeta other := by
  unfold persistDropped
  dsimp only
  split_ifs
  all_goals first
    | rfl
    | (split
       · rename_i written
         rw [read_meta_upsert written, if_neg different]
       · rfl)

/-- One counter's part of a persist: it runs on a store that has the counter's
row, and nothing after it touches the row. -/
theorem persist_counter (counter : LossCounter) (state : WriterState) (faults : PersistFaults) :
    let after := state.persistDiagnosticsCounters faults
    ∃ db, db.readMeta counter.metaKey = state.store.readMeta counter.metaKey ∧
      let result := persistDropped (counter.readFault faults) (counter.writeFault faults)
        counter.metaKey (counter.runTotal state.diagnostics) (counter.memory state.heartbeat) db
      counter.memory after.heartbeat = result.1 ∧
        after.store.readMeta counter.metaKey = result.2.readMeta counter.metaKey := by
  cases counter with
  | captureEvents =>
      refine ⟨state.store, rfl, rfl, ?_⟩
      exact persist_dropped_other _ _ (by decide) _ _ _
  | stalePreErase =>
      refine ⟨_, ?_, rfl, rfl⟩
      exact persist_dropped_other _ _ (by decide) _ _ _

end Persist

section Ledger

/-- What is known of a counter from outside: the increments since the metadata
was last deleted, and those since the total was last brought to disk. -/
structure LossLedger where
  sinceWipe : Nat
  sincePersist : Nat
deriving DecidableEq

namespace LossLedger

def wiped : LossLedger := ⟨0, 0⟩

def count (ledger : LossLedger) (increments : Nat) : LossLedger :=
  ⟨ledger.sinceWipe + increments, ledger.sincePersist + increments⟩

def persisted (ledger : LossLedger) : LossLedger := ⟨ledger.sinceWipe, 0⟩

end LossLedger

variable [StoreExternals] (config : WriterConfig) (counter : LossCounter)

def persistingWriter : Lifetime → LifetimeTurn → Option (WriterState × PersistFaults)
  | .running state, .writer (.heartbeatTick clock faults) =>
      some ({ state with
        sequencer := resyncSequencerAt clock config.timebaseDriftThresholdMs state.sequencer },
        faults)
  | .running state, .stop readings =>
      match state.endRun config readings with
      | (_, .error _) => none
      | (ended, .ok ()) => some (ended, readings.persist)
  | _, _ => none

/-- The increments of a turn, from its delete on if it has one. -/
def LossLedger.counted (ledger : LossLedger) : Lifetime → LifetimeTurn → LossLedger
  | .running state, .writer turn =>
      let total := counter.runTotal (state.turn config turn).1.diagnostics
      match wipedWriter config state turn with
      | none => ledger.count (total - counter.runTotal state.diagnostics)
      | some settled => LossLedger.wiped.count (total - counter.runTotal settled.diagnostics)
  | .running state, .stop readings =>
      ledger.count (counter.runTotal (state.endRun config readings).1.diagnostics -
        counter.runTotal state.diagnostics)
  | _, _ => ledger

def LossLedger.turned (ledger : LossLedger) (life : Lifetime) (turn : LifetimeTurn) :
    LossLedger :=
  let counted := ledger.counted config counter life turn
  match persistingWriter config life turn with
  | none => counted
  | some (_, faults) =>
      if counter.writeFault faults = none then counted.persisted else counted

/-- The lifetime of a store beside the ledger of one counter. -/
def ledgerMachine : Machine (Lifetime × LossLedger) LifetimeTurn LifetimeReply where
  step state turn :=
    let result := (lifetimeMachine config).step state.1 turn
    ((result.1, state.2.turned config counter state.1 turn), result.2)

/-- A persist reads what is stored, writes a total that fits, and does not find
its total in the cache while the row is gone. -/
structure PersistSound (total : Nat) (writer : WriterState) (faults : PersistFaults) : Prop where
  read : (counter.memory writer.heartbeat).base = none →
    readMetaU64 (counter.readFault faults) writer.store counter.metaKey =
      counter.stored writer.store
  fits : counter.writeFault faults = none → total ≤ u64Max
  present : counter.writeFault faults = none →
    (counter.memory writer.heartbeat).persisted = some total →
      writer.store.readMeta counter.metaKey ≠ none

/-- An archive and reset that deletes the metadata finds nothing counted. -/
def ArchivesUncounted (state : Lifetime × LossLedger) (turn : LifetimeTurn) : Prop :=
  match state.1, turn with
  | .running writer, .writer (.archiveAndReset settle archiving readings path archive identity) =>
      ∀ settled, wipedWriter config writer
          (.archiveAndReset settle archiving readings path archive identity) = some settled →
        state.2.sinceWipe +
          (counter.runTotal settled.diagnostics - counter.runTotal writer.diagnostics) = 0
  | _, _ => True

/-- A run ends after a persist and nothing lost since. -/
def EndsPersisted (state : Lifetime × LossLedger) (turn : LifetimeTurn) : Prop :=
  match state.1, turn with
  | .running _, .crash | .running _, .stop _ =>
      (state.2.turned config counter state.1 turn).sincePersist = 0
  | _, _ => True

structure CountsSurvive (state : Lifetime × LossLedger) (turn : LifetimeTurn) : Prop where
  persists : ∀ writer faults, persistingWriter config state.1 turn = some (writer, faults) →
    PersistSound counter (state.2.counted config counter state.1 turn).sinceWipe writer faults
  archives : ArchivesUncounted config counter state turn
  ends : EndsPersisted config counter state turn

end Ledger

section Tracks

variable (counter : LossCounter)

/-- The memory of a running writer and the stored row agree with the ledger. -/
structure Tracks (writer : WriterState) (ledger : LossLedger) : Prop where
  settled : (counter.memory writer.heartbeat).resetPending = false
  offset : (counter.memory writer.heartbeat).offset ≤ counter.runTotal writer.diagnostics
  based : ∀ base, (counter.memory writer.heartbeat).base = some base →
    ledger.sinceWipe = base +
      (counter.runTotal writer.diagnostics - (counter.memory writer.heartbeat).offset)
  unbased : (counter.memory writer.heartbeat).base = none →
    (counter.memory writer.heartbeat).offset = 0 ∧
      ledger.sinceWipe = counter.stored writer.store + counter.runTotal writer.diagnostics
  cached : ∀ total, (counter.memory writer.heartbeat).persisted = some total →
    total ≤ ledger.sinceWipe ∧
      (writer.store.readMeta counter.metaKey = some s!"{total}" ∨
        writer.store.readMeta counter.metaKey = none ∧ total = 0)
  durable : ledger.sincePersist = 0 → counter.stored writer.store = ledger.sinceWipe

variable {counter} {writer after : WriterState} {ledger : LossLedger}

theorem Tracks.kept (tracks : Tracks counter writer ledger) (kept : CountersKept writer after) :
    Tracks counter after
      (ledger.count
        (counter.runTotal after.diagnostics - counter.runTotal writer.diagnostics)) := by
  have row := kept.rows counter
  have grown := kept.grown counter
  have offset := tracks.offset
  have stored := LossCounter.stored_congr row
  have memory : counter.memory after.heartbeat = counter.memory writer.heartbeat := by
    rw [kept.heartbeat]
  constructor
  · rw [memory]
    exact tracks.settled
  · rw [memory]
    omega
  · rw [memory]
    intro base known
    have exactly := tracks.based base known
    dsimp only [LossLedger.count]
    omega
  · rw [memory]
    intro unknown
    have exactly := tracks.unbased unknown
    dsimp only [LossLedger.count]
    omega
  · rw [memory]
    intro total known
    obtain ⟨below, written⟩ := tracks.cached total known
    rw [row]
    exact ⟨below.trans (Nat.le_add_right _ _), written⟩
  · intro quiet
    dsimp only [LossLedger.count] at quiet ⊢
    have exactly := tracks.durable (by omega)
    omega

theorem Tracks.erased (tracks : Tracks counter writer ledger) :
    Tracks counter writer.erased .wiped := by
  have memory : counter.memory writer.erased.heartbeat =
      .rebased (counter.runTotal writer.diagnostics) := by
    cases counter <;> rfl
  have same : counter.runTotal writer.erased.diagnostics = counter.runTotal writer.diagnostics :=
    rfl
  constructor
  · rw [memory]
    rfl
  · rw [memory, same]
    exact Nat.le_refl _
  · rw [memory, same]
    intro base known
    rw [← Option.some.inj known]
    change 0 = 0 + (counter.runTotal writer.diagnostics - counter.runTotal writer.diagnostics)
    omega
  · rw [memory]
    exact nofun
  · rw [memory]
    exact nofun
  · exact fun _ => LossCounter.stored_of_absent rfl

theorem Tracks.emptied (tracks : Tracks counter writer ledger) (uncounted : ledger.sinceWipe = 0) :
    Tracks counter writer.emptied .wiped := by
  have absent : counter.stored writer.emptied.store = 0 := LossCounter.stored_of_absent rfl
  constructor
  · exact tracks.settled
  · exact tracks.offset
  · intro base known
    exact uncounted.symm.trans (tracks.based base known)
  · intro unknown
    obtain ⟨offset, exactly⟩ := tracks.unbased unknown
    refine ⟨offset, ?_⟩
    rw [absent]
    change 0 = 0 + counter.runTotal writer.diagnostics
    omega
  · intro total known
    have below := (tracks.cached total known).1
    have none_counted : total = 0 := by omega
    exact ⟨none_counted.le, Or.inr ⟨rfl, none_counted⟩⟩
  · exact fun _ => absent

theorem Tracks.of_base {base : Nat} {persisted : Option Nat} {count : LossLedger}
    (tracks : Tracks counter writer ledger)
    (memory : counter.memory after.heartbeat =
      { counter.memory writer.heartbeat with base := some base, persisted := persisted })
    (same : after.diagnostics = writer.diagnostics)
    (exactly : count.sinceWipe = base +
      (counter.runTotal writer.diagnostics - (counter.memory writer.heartbeat).offset))
    (cached : ∀ total, persisted = some total → total ≤ count.sinceWipe ∧
      (after.store.readMeta counter.metaKey = some s!"{total}" ∨
        after.store.readMeta counter.metaKey = none ∧ total = 0))
    (durable : count.sincePersist = 0 → counter.stored after.store = count.sinceWipe) :
    Tracks counter after count := by
  constructor
  · rw [memory]
    exact tracks.settled
  · rw [memory, same]
    exact tracks.offset
  · rw [memory, same]
    intro other known
    rw [← Option.some.inj known]
    exact exactly
  · rw [memory]
    exact nofun
  · rw [memory]
    exact cached
  · exact durable

theorem Tracks.persist (tracks : Tracks counter writer ledger) {faults : PersistFaults}
    (sound : PersistSound counter ledger.sinceWipe writer faults) :
    Tracks counter (writer.persistDiagnosticsCounters faults)
        (if counter.writeFault faults = none then ledger.persisted else ledger) ∧
      (counter.writeFault faults = none →
        (writer.persistDiagnosticsCounters faults).store.readMeta counter.metaKey =
          some s!"{ledger.sinceWipe}") := by
  obtain ⟨db, found, memory, row⟩ := persist_counter counter writer faults
  have based : ledger.sinceWipe = (counter.memory writer.heartbeat).base.getD
      (readMetaU64 (counter.readFault faults) db counter.metaKey) +
        (counter.runTotal writer.diagnostics - (counter.memory writer.heartbeat).offset) := by
    cases known : (counter.memory writer.heartbeat).base with
    | some base => exact tracks.based base known
    | none =>
        obtain ⟨offset, exactly⟩ := tracks.unbased known
        have read := sound.read known
        have same : readMetaU64 (counter.readFault faults) db counter.metaKey =
            readMetaU64 (counter.readFault faults) writer.store counter.metaKey := by
          unfold readMetaU64
          rw [found]
        rw [Option.getD_none, same, read, exactly, offset, Nat.sub_zero]
  have fits : counter.writeFault faults = none →
      min u64Max ledger.sinceWipe = ledger.sinceWipe :=
    fun succeeded => min_eq_right (sound.fits succeeded)
  have outcome := persist_dropped_cases (counter.readFault faults) (counter.writeFault faults)
    counter.metaKey (counter.runTotal writer.diagnostics) db tracks.settled
  dsimp only at outcome memory row
  rw [← based] at outcome
  rcases outcome with ⟨unwritten, cached⟩ | ⟨succeeded, remembered, written⟩
  · rw [unwritten] at memory row
    have kept := row.trans found
    have present : counter.writeFault faults = none →
        writer.store.readMeta counter.metaKey = some s!"{ledger.sinceWipe}" := by
      intro succeeded
      have hit := cached succeeded
      rw [fits succeeded] at hit
      rcases (tracks.cached _ hit).2 with stands | ⟨gone, _⟩
      · exact stands
      · exact absurd gone (sound.present succeeded hit)
    refine ⟨?_, fun succeeded => kept.trans (present succeeded)⟩
    split_ifs with succeeded
    · refine tracks.of_base memory rfl based ?_ fun _ => ?_
      · rw [kept]
        exact tracks.cached
      · exact LossCounter.stored_of_row (sound.fits succeeded) (kept.trans (present succeeded))
    · refine tracks.of_base memory rfl based ?_ fun quiet => ?_
      · rw [kept]
        exact tracks.cached
      · rw [LossCounter.stored_congr kept]
        exact tracks.durable quiet
  · rw [remembered] at memory
    rw [fits succeeded] at memory written
    have stands := (row.trans (read_meta_upsert written _)).trans (if_pos rfl)
    refine ⟨?_, fun _ => stands⟩
    rw [if_pos succeeded]
    refine tracks.of_base memory rfl based ?_ fun _ => ?_
    · intro total known
      rw [← Option.some.inj known]
      exact ⟨Nat.le_refl _, Or.inl stands⟩
    · exact LossCounter.stored_of_row (sound.fits succeeded) stands

end Tracks

section Run

omit [Externals] in
theorem open_store_keeps_counters (counter : LossCounter) (readings : OpenReadings)
    (db : Database) :
    (db.openStore readings).1.readMeta counter.metaKey = db.readMeta counter.metaKey := by
  have foreign : counter.metaKey ≠ "db_uuid" ∧ counter.metaKey ≠ "created_at" := by
    cases counter <;> decide
  have identified : (db.ensureMetaIdentity readings.uuidFault readings.createdFault
      readings.createdAt readings.dbUuid).1.readMeta counter.metaKey =
        db.readMeta counter.metaKey := by
    unfold Database.ensureMetaIdentity
    split
    · rfl
    · rename_i named first
      have kept := read_meta_insert first foreign.1
      split
      · exact kept
      · rename_i dated second
        exact (read_meta_insert second foreign.2).trans kept
  unfold Database.openStore
  split
  · rename_i named error made
    rw [made] at identified
    exact identified
  · rename_i named made
    rw [made] at identified
    have repaired : (named.repairOrDiscard readings.repairFault readings.discardFault).readMeta
        counter.metaKey = db.readMeta counter.metaKey := by
      rw [← identified]
      unfold Database.readMeta
      rw [(SameBooks.repair_or_discard named _ _).metaRows]
    dsimp only
    split
    · exact repaired
    · rename_i ended finalized
      obtain ⟨_, rfl⟩ := statement_ok finalized
      split
      · exact repaired
      · rename_i closed finalized
        obtain ⟨_, rfl⟩ := statement_ok finalized
        split
        · exact repaired
        · rename_i reconciled expired
          obtain ⟨_, rfl⟩ := statement_ok expired
          exact repaired

omit [Externals] in
theorem requested_keeps_counters [StoreExternals] (counter : LossCounter)
    (fault : Option StoreError) (nowMs : I64) (candidateKind : Option String)
    (candidateJson : String) (db : Database) :
    (db.requested fault nowMs candidateKind candidateJson).readMeta counter.metaKey =
      db.readMeta counter.metaKey := by
  rcases requested_cases fault nowMs candidateKind candidateJson db with same | ⟨row, created⟩
  · rw [same]
  · unfold Database.readMeta
    rw [created.frame.metaRows]

variable (config : WriterConfig) (counter : LossCounter)

/-- Between runs the stored total is the count; in a run the writer tracks it. -/
def Ledgered : Lifetime × LossLedger → Prop
  | (.closed store, ledger) => counter.stored store = ledger.sinceWipe
  | (.running writer, ledger) => Tracks counter writer ledger

variable {config counter}

theorem Tracks.launched {store : Database} {ledger : LossLedger}
    (stored : counter.stored store = ledger.sinceWipe) (readings : LaunchReadings)
    (policy : Policy) : Ledgered counter (launch readings policy store, ledger) := by
  have opened := LossCounter.stored_congr
    (open_store_keeps_counters counter readings.opening store)
  unfold launch
  split
  · rename_i after error made
    rw [made] at opened
    exact opened.trans stored
  · rename_i after made
    rw [made] at opened
    split
    · exact opened.trans stored
    · rename_i created sessionId inserted
      obtain ⟨_, same⟩ := statement_ok inserted
      obtain ⟨rfl, _⟩ := Prod.mk.inj same
      have count := opened.trans stored
      cases counter
      all_goals exact ⟨rfl, Nat.le_refl _, nofun, fun _ => ⟨rfl, count.symm⟩, nofun, fun _ => count⟩

variable [StoreExternals]

theorem end_run_counters (config : WriterConfig) (writer : WriterState)
    (readings : ShutdownReadings) : CountersKept writer (writer.endRun config readings).1 := by
  have settled := (CountersKept.of_input_frame (InputFrame.drain_and_flush config writer
    readings.drain)).trans (.of_input_frame (InputFrame.clear_focus _ readings.clearFault))
  unfold WriterState.endRun
  dsimp only
  split
  · exact settled
  · rename_i finalized made
    have frame := RoutineFrame.finalize made
    have closed : ∀ counter : LossCounter, finalized.readMeta counter.metaKey =
        writer.store.readMeta counter.metaKey := by
      intro counter
      rw [← settled.rows counter]
      unfold Database.readMeta
      rw [frame.metaRows]
    split
    · exact ⟨closed, settled.heartbeat, settled.grown⟩
    · rename_i ended stamped
      obtain ⟨_, rfl⟩ := statement_ok stamped
      exact ⟨closed, settled.heartbeat, settled.grown⟩

variable (config counter)

def BroughtToDisk (state : Lifetime × LossLedger) (turn : LifetimeTurn) : Prop :=
  ∀ writer faults, persistingWriter config state.1 turn = some (writer, faults) →
    counter.writeFault faults = none →
    let after := ((ledgerMachine config counter).step state turn).1
    after.1.store.readMeta counter.metaKey = some s!"{after.2.sinceWipe}"

section Turned

variable (state : Lifetime × LossLedger) (turn : LifetimeTurn)

variable {config counter state turn} in
theorem brought_of_silent (silent : persistingWriter config state.1 turn = none) :
    BroughtToDisk config counter state turn := by
  intro writer faults persists
  rw [silent] at persists
  cases persists

theorem turned_of_silent (silent : persistingWriter config state.1 turn = none) :
    state.2.turned config counter state.1 turn = state.2.counted config counter state.1 turn := by
  unfold LossLedger.turned
  rw [silent]

theorem turned_of_persist {writer : WriterState} {faults : PersistFaults}
    (persists : persistingWriter config state.1 turn = some (writer, faults)) :
    state.2.turned config counter state.1 turn =
      if counter.writeFault faults = none then
        (state.2.counted config counter state.1 turn).persisted
      else state.2.counted config counter state.1 turn := by
  unfold LossLedger.turned
  rw [persists]

end Turned

variable {writer : WriterState} {ledger : LossLedger}

theorem ledgered_heartbeat (clock : Clock) (faults : PersistFaults)
    (survive : CountsSurvive config counter (.running writer, ledger)
      (.writer (.heartbeatTick clock faults)))
    (tracks : Tracks counter writer ledger) :
    Ledgered counter ((ledgerMachine config counter).step (.running writer, ledger)
        (.writer (.heartbeatTick clock faults))).1 ∧
      BroughtToDisk config counter (.running writer, ledger)
        (.writer (.heartbeatTick clock faults)) := by
  have kept : CountersKept writer
      { writer with
        sequencer := resyncSequencerAt clock config.timebaseDriftThresholdMs writer.sequencer } :=
    ⟨fun _ => rfl, rfl, fun _ => Nat.le_refl _⟩
  have persisted := (tracks.kept kept).persist (survive.persists _ faults rfl)
  refine ⟨persisted.1, ?_⟩
  intro _ met same succeeded
  obtain ⟨_, rfl⟩ := Prod.mk.inj (Option.some.inj same)
  have count : ledger.turned config counter (.running writer)
      (.writer (.heartbeatTick clock faults)) =
        (ledger.counted config counter (.running writer)
          (.writer (.heartbeatTick clock faults))).persisted := if_pos succeeded
  dsimp only [ledgerMachine]
  rw [count]
  exact persisted.2 succeeded

theorem ledgered_writer_turn (turn : WriterTurn)
    (survive : CountsSurvive config counter (.running writer, ledger) (.writer turn))
    (tracks : Tracks counter writer ledger) :
    Ledgered counter ((ledgerMachine config counter).step (.running writer, ledger)
        (.writer turn)).1 ∧
      BroughtToDisk config counter (.running writer, ledger) (.writer turn) := by
  by_cases heartbeat : ∃ clock faults, turn = .heartbeatTick clock faults
  · obtain ⟨clock, faults, rfl⟩ := heartbeat
    exact ledgered_heartbeat config counter clock faults survive tracks
  have unpersisted : ∀ clock faults, turn ≠ .heartbeatTick clock faults :=
    fun clock faults same => heartbeat ⟨clock, faults, same⟩
  have silent : persistingWriter config (.running writer) (.writer turn) = none := by
    cases turn with
    | heartbeatTick clock faults => exact absurd rfl (unpersisted clock faults)
    | _ => rfl
  refine ⟨?_, brought_of_silent silent⟩
  have turned := turn_counters config writer turn unpersisted
  change Tracks counter (writer.turn config turn).1
    (ledger.turned config counter (.running writer) (.writer turn))
  rw [turned_of_silent config counter (.running writer, ledger) (.writer turn) silent]
  unfold LossLedger.counted
  unfold CountersTurned at turned
  dsimp only
  cases wiped : wipedWriter config writer turn with
  | none =>
      rw [wiped] at turned
      exact tracks.kept turned
  | some settled =>
      rw [wiped] at turned
      obtain ⟨before, after⟩ := turned
      have tracked := tracks.kept before
      cases turn with
      | archiveAndReset settle archiving readings archivePath archive identity =>
          have uncounted := survive.archives settled wiped
          exact (tracked.emptied uncounted).kept after
      | secureErase settle readings identity => exact tracked.erased.kept after
      | _ => cases wiped

theorem ledgered_stop (readings : ShutdownReadings)
    (survive : CountsSurvive config counter (.running writer, ledger) (.stop readings))
    (tracks : Tracks counter writer ledger) :
    Ledgered counter ((ledgerMachine config counter).step (.running writer, ledger)
        (.stop readings)).1 ∧
      BroughtToDisk config counter (.running writer, ledger) (.stop readings) := by
  have kept := end_run_counters config writer readings
  have ends : (ledger.turned config counter (.running writer) (.stop readings)).sincePersist = 0 :=
    survive.ends
  cases made : writer.endRun config readings with
  | mk ended outcome =>
      rw [made] at kept
      have tracked := tracks.kept kept
      have counted : ledger.counted config counter (.running writer) (.stop readings) =
          ledger.count (counter.runTotal ended.diagnostics -
            counter.runTotal writer.diagnostics) := by
        unfold LossLedger.counted
        dsimp only
        rw [made]
      cases outcome with
      | error error =>
          have silent : persistingWriter config (.running writer) (.stop readings) = none := by
            unfold persistingWriter
            dsimp only
            rw [made]
          have stopped : (writer.shutDown config readings).1 = ended := by
            unfold WriterState.shutDown
            rw [made]
          have turned := turned_of_silent config counter (.running writer, ledger)
            (.stop readings) silent
          refine ⟨?_, brought_of_silent silent⟩
          change counter.stored (writer.shutDown config readings).1.store =
            (ledger.turned config counter (.running writer) (.stop readings)).sinceWipe
          dsimp only at turned
          rw [turned, counted] at ends ⊢
          rw [stopped]
          exact tracked.durable ends
      | ok done =>
          have persists : persistingWriter config (.running writer) (.stop readings) =
              some (ended, readings.persist) := by
            unfold persistingWriter
            dsimp only
            rw [made]
          have stopped : (writer.shutDown config readings).1 =
              ended.persistDiagnosticsCounters readings.persist := by
            unfold WriterState.shutDown
            rw [made]
          have turned := turned_of_persist config counter (.running writer, ledger)
            (.stop readings) persists
          have sound := survive.persists _ _ persists
          dsimp only at turned sound
          rw [counted] at turned sound
          have persisted := tracked.persist sound
          constructor
          · change counter.stored (writer.shutDown config readings).1.store =
              (ledger.turned config counter (.running writer) (.stop readings)).sinceWipe
            rw [turned] at ends ⊢
            rw [stopped]
            exact persisted.1.durable ends
          · intro _ met same succeeded
            obtain ⟨_, rfl⟩ := Prod.mk.inj (Option.some.inj (persists.symm.trans same))
            change (writer.shutDown config readings).1.store.readMeta counter.metaKey =
              some s!"{(ledger.turned config counter (.running writer) (.stop readings)).sinceWipe}"
            rw [turned, if_pos succeeded, stopped]
            exact persisted.2 succeeded

theorem ledgered_step (state : Lifetime × LossLedger) (turn : LifetimeTurn)
    (survive : CountsSurvive config counter state turn) (ledgered : Ledgered counter state) :
    Ledgered counter ((ledgerMachine config counter).step state turn).1 ∧
      BroughtToDisk config counter state turn := by
  obtain ⟨life, ledger⟩ := state
  cases life with
  | closed store =>
      cases turn with
      | launch readings policy =>
          exact ⟨Tracks.launched ledgered readings policy, brought_of_silent rfl⟩
      | writer turn => exact ⟨ledgered, brought_of_silent rfl⟩
      | stop readings => exact ⟨ledgered, brought_of_silent rfl⟩
      | crash => exact ⟨ledgered, brought_of_silent rfl⟩
      | requestRecording fault nowMs candidateKind candidateJson =>
          exact ⟨(LossCounter.stored_congr (requested_keeps_counters counter _ _ _ _ store)).trans
            ledgered, brought_of_silent rfl⟩
  | running writer =>
      cases turn with
      | launch readings policy => exact ⟨ledgered, brought_of_silent rfl⟩
      | writer turn => exact ledgered_writer_turn config counter turn survive ledgered
      | stop readings => exact ledgered_stop config counter readings survive ledgered
      | crash => exact ⟨ledgered.durable survive.ends, brought_of_silent rfl⟩
      | requestRecording fault nowMs candidateKind candidateJson =>
          have kept : CountersKept writer
              { writer with
                store := writer.store.requested fault nowMs candidateKind candidateJson } :=
            ⟨fun counter => requested_keeps_counters counter _ _ _ _ _, rfl,
              fun _ => Nat.le_refl _⟩
          have tracks := Tracks.kept ledgered kept
          rw [Nat.sub_self] at tracks
          exact ⟨tracks, brought_of_silent rfl⟩

variable {counter} in
omit [StoreExternals] in
theorem Ledgered.read {state : Lifetime × LossLedger} (ledgered : Ledgered counter state)
    (quiet : state.2.sincePersist = 0) : counter.stored state.1.store = state.2.sinceWipe := by
  obtain ⟨life, ledger⟩ := state
  cases life with
  | closed store => exact ledgered
  | running writer => exact ledgered.durable quiet

/-- Along a run whose resets and restarts let the counts survive, a persist that
is written leaves the number of increments since the metadata was last deleted,
counted across restarts. -/
theorem loss_counters_durable (store : Database) (turns : List LifetimeTurn)
    (survive : (ledgerMachine config counter).AllSteps (CountsSurvive config counter)
      (.closed store, ⟨counter.stored store, 0⟩) turns)
    (before : List LifetimeTurn) (turn : LifetimeTurn) (part : before ++ [turn] <+: turns) :
    let state := (ledgerMachine config counter).run
      (.closed store, ⟨counter.stored store, 0⟩) before
    let after := ((ledgerMachine config counter).step state turn).1
    ∀ writer faults, persistingWriter config state.1 turn = some (writer, faults) →
      counter.writeFault faults = none →
      after.1.store.readMeta counter.metaKey = some s!"{after.2.sinceWipe}" ∧
        counter.stored after.1.store = after.2.sinceWipe := by
  obtain ⟨rest, rfl⟩ := part
  have steps := (Machine.all_steps_append _ _ _ _ _).mp survive
  obtain ⟨earlier, now⟩ := (Machine.all_steps_append _ _ _ _ _).mp steps.1
  have ledgered : Ledgered counter ((ledgerMachine config counter).run
      (.closed store, ⟨counter.stored store, 0⟩) before) :=
    (ledgerMachine config counter).run_invariant_of_steps (Ledgered counter)
      (CountsSurvive config counter)
      (fun state turn survive ledgered =>
        (ledgered_step config counter state turn survive ledgered).1)
      _ before rfl earlier
  obtain ⟨next, brought⟩ := ledgered_step config counter _ turn now.1 ledgered
  intro state after writer faults persists succeeded
  refine ⟨brought writer faults persists succeeded, next.read ?_⟩
  have turned := turned_of_persist config counter state turn persists
  rw [if_pos succeeded] at turned
  exact congrArg LossLedger.sincePersist turned

end Run

end Kept

section

attribute [local instance] asciiExternals bareExternals

private def reading (count : Nat) : Clock := ⟨⟨count * 1000000000⟩, some (count * 1000000000)⟩

private def launched (count : Nat) : LifetimeTurn :=
  .launch ⟨.clear (reading count).utcMs (reading count).utcMs "6d1f",
    ⟨(reading count).now, (reading count).utcMs⟩, ⟨"1.0.0", none, none, none⟩, none⟩ .identity

private def dropped : LifetimeTurn := .writer .captureDropped

private def beaten (count : Nat) : LifetimeTurn :=
  .writer (.heartbeatTick (reading count) ⟨none, none, none, none⟩)

private def counting : Machine (Lifetime × LossLedger) LifetimeTurn LifetimeReply :=
  ledgerMachine ⟨200, .ofInt 5000⟩ .captureEvents

private def cachedTotal : Lifetime → Option Nat
  | .closed _ => none
  | .running writer => writer.heartbeat.captureDropped.persisted

private theorem silent_survives {state : Lifetime × LossLedger} {turn : LifetimeTurn}
    (silent : persistingWriter ⟨200, .ofInt 5000⟩ state.1 turn = none)
    (archives : ArchivesUncounted ⟨200, .ofInt 5000⟩ .captureEvents state turn)
    (ends : EndsPersisted ⟨200, .ofInt 5000⟩ .captureEvents state turn) :
    CountsSurvive ⟨200, .ofInt 5000⟩ .captureEvents state turn := by
  refine ⟨fun writer faults persists => ?_, archives, ends⟩
  rw [silent] at persists
  cases persists

private theorem quiet_survives {state : Lifetime × LossLedger} {turn : LifetimeTurn}
    (quiet : turn = dropped ∨ ∃ count, turn = launched count) :
    CountsSurvive ⟨200, .ofInt 5000⟩ .captureEvents state turn := by
  obtain ⟨life, ledger⟩ := state
  rcases quiet with rfl | ⟨count, rfl⟩ <;> cases life <;>
    exact silent_survives rfl trivial trivial

private theorem beat_survives {state : Lifetime × LossLedger} (count : Nat)
    (fits : (state.2.counted ⟨200, .ofInt 5000⟩ .captureEvents state.1 (beaten count)).sinceWipe ≤
      u64Max)
    (uncached : cachedTotal state.1 ≠ some
      (state.2.counted ⟨200, .ofInt 5000⟩ .captureEvents state.1 (beaten count)).sinceWipe) :
    CountsSurvive ⟨200, .ofInt 5000⟩ .captureEvents state (beaten count) := by
  obtain ⟨life, ledger⟩ := state
  cases life with
  | closed store => exact silent_survives rfl trivial trivial
  | running writer =>
      refine ⟨?_, trivial, trivial⟩
      intro persisting faults same
      obtain ⟨rfl, rfl⟩ := Prod.mk.inj (Option.some.inj same)
      exact ⟨fun _ => rfl, fun _ => fits, fun _ cached => absurd cached uncached⟩

private theorem crash_survives {state : Lifetime × LossLedger}
    (quiet : state.2.sincePersist = 0) :
    CountsSurvive ⟨200, .ofInt 5000⟩ .captureEvents state .crash := by
  obtain ⟨life, ledger⟩ := state
  cases life with
  | closed store => exact silent_survives rfl trivial trivial
  | running writer => exact silent_survives rfl trivial quiet

private def restarted : List LifetimeTurn :=
  [launched 1, dropped, beaten 2, .crash, launched 3, dropped]

private theorem restarted_survives : counting.AllSteps (CountsSurvive ⟨200, .ofInt 5000⟩
    .captureEvents) (.closed .empty, ⟨0, 0⟩) (restarted ++ [beaten 4]) := by
  refine ⟨quiet_survives (Or.inr ⟨1, rfl⟩), quiet_survives (Or.inl rfl), ?_, ?_,
    quiet_survives (Or.inr ⟨3, rfl⟩), quiet_survives (Or.inl rfl), ?_, trivial⟩
  · exact beat_survives 2 (by decide +kernel) (by decide +kernel)
  · exact crash_survives (by decide +kernel)
  · exact beat_survives 4 (by decide +kernel) (by decide +kernel)

/-- A row lost before a crash and one lost after it are both on disk. -/
theorem loss_counters_durable_restarted :
    (counting.run (.closed .empty, ⟨0, 0⟩) (restarted ++ [beaten 4])).1.store.readMeta
      captureEventsDroppedMetaKey = some "2" := by
  have written : (persistingWriter ⟨200, .ofInt 5000⟩
      (counting.run (.closed .empty, ⟨0, 0⟩) restarted).1 (beaten 4)).any
        (fun persist => persist.2.captureWrite.isNone) = true := by
    decide +kernel
  have count : (counting.run (.closed .empty, ⟨0, 0⟩) (restarted ++ [beaten 4])).2.sinceWipe =
      2 := by
    decide +kernel
  obtain ⟨⟨writer, faults⟩, persists, clear⟩ := (Option.any_eq_true _ _).mp written
  have row := (loss_counters_durable ⟨200, .ofInt 5000⟩ .captureEvents .empty _ restarted_survives
    restarted (beaten 4) (List.prefix_refl _) writer faults persists
    (Option.isNone_iff_eq_none.mp clear)).1
  rw [Machine.run_append] at count ⊢
  exact row.trans (congrArg (fun total : Nat => some s!"{total}") count)

private def spaceLeft : ArchiveReadings where
  sealKeyError := none
  createDirError := none
  extensionIsArchive := true
  archiveVisible := true
  pathIsUtf8 := true
  countFault := none
  provenanceFault := none
  envHost := none
  schemaVersion := 8
  vacuumError := none
  stampError := none
  leftBySqlite := fun _ => false
  sealError := none
  pendingLeftBySeal := false
  verify := fun _ => .ok ()
  scrub := fun _ => ⟨none, false, none, none⟩
  removePending := true
  renameError := none

private def archivedAway (count : Nat) : LifetimeTurn :=
  .writer (.archiveAndReset (.clear (reading count).now) spaceLeft (.clear (reading count) "7e20")
    "gilbreth-archive-1.gla" none ⟨"1.0.0", none, none, none⟩)

/-- One row is lost and persisted, then the history is archived away. The next
persist writes no row for the count of zero, and after one more lost row the
total from before the reset is back. -/
theorem archive_reset_resurrects_the_count :
    let reset := counting.run (.closed .empty, ⟨0, 0⟩)
      [launched 1, dropped, beaten 2, archivedAway 3, beaten 4]
    let later := counting.run reset [dropped, beaten 5]
    reset.2.sinceWipe = 0 ∧ reset.1.store.readMeta captureEventsDroppedMetaKey = none ∧
      later.2.sinceWipe = 1 ∧
      later.1.store.readMeta captureEventsDroppedMetaKey = some "2" := by
  decide +kernel

end

end Gilbreth.Store
