import Gilbreth.Store.CommandFrame

/-!
# What a reset does to the books

A reset is refused, stops before the delete with every recording ended, or
empties the books. The replacement session and what is stamped into it bring no
request and no recording.
-/

set_option autoImplicit false

namespace Gilbreth.Store

open Gilbreth.Core

variable [Externals]

def WriterRecordState.settled (recordState : WriterRecordState) : WriterRecordState :=
  { recordState with
    activeRecordSessionId := none
    pausedRecordSessionId := none
    capPromptedWindows := fun _ => none }

/-- Nothing is left of the books, and no recording is live. -/
structure Wiped (writer : WriterState) : Prop where
  requests : writer.store.activity.recordRoutine.recordRequests = .empty
  recordings : writer.store.activity.recordRoutine.recordSessions = .empty
  deletionAudit : writer.store.deletionAudit = []
  inactive : writer.recordState.activeRecordSessionId = none
  unpaused : writer.recordState.pausedRecordSessionId = none

theorem Wiped.input_frame {before after : WriterState} (wiped : Wiped before)
    (frame : InputFrame before after) : Wiped after where
  requests := frame.books.recordRequests.trans wiped.requests
  recordings := by
    obtain ⟨count, recounted⟩ := frame.books.recordSessions
    rw [wiped.recordings] at recounted
    exact Table.ext recounted
  deletionAudit := frame.books.deletionAudit.trans wiped.deletionAudit
  inactive := by
    rw [frame.recordState]
    exact wiped.inactive
  unpaused := by
    rw [frame.recordState]
    exact wiped.unpaused

namespace InputFrame

variable (config : WriterConfig) (state : WriterState) (readings : DeleteReadings)

theorem reemit (now : Instant) (reemit : SensitiveContextReason → QueueReadings) :
    InputFrame state (state.reemitActiveSensitiveContexts config now reemit) := by
  unfold WriterState.reemitActiveSensitiveContexts
  generalize state.policy.activeSensitiveReasons = reasons
  induction reasons generalizing state with
  | nil => exact refl state
  | cons reason rest induction => exact (queue_captured config state _ _).trans (induction _)

theorem erase_completed : InputFrame state (state.eraseCompleted config readings) := by
  have forgotten : InputFrame state
      { state with
        eraseCompletionBoundaryMs :=
          some (state.sequencer.projectedTimestampFor
            readings.completedAt) }.forgetOpenFocus :=
    ⟨.refl _, rfl, rfl, rfl, Nat.le_refl _, rfl, rfl⟩
  exact forgotten.trans (reemit config _ _ _)

theorem archive_reset_completed :
    InputFrame state (state.archiveResetCompleted config readings) := by
  have forgotten : InputFrame state
      { state with eraseCompletionBoundaryMs := none }.forgetOpenFocus :=
    ⟨.refl _, rfl, rfl, rfl, Nat.le_refl _, rfl, rfl⟩
  exact forgotten.trans (reemit config _ _ _)

end InputFrame

/-- Giving the emptied database an identity and a session leaves the books
empty, also when it fails half way. -/
theorem Wiped.create_replacement_session {writer : WriterState} (wiped : Wiped writer)
    (readings : ReplacementReadings) (identity : SessionIdentity) :
    Wiped (writer.createReplacementSession readings identity).1 := by
  have minted : ∀ second,
      let store := (writer.store.mintMetaIdentity readings.mintFault second readings.start.utcMs
        readings.dbUuid).1
      store.activity = writer.store.activity ∧
        store.deletionAudit = writer.store.deletionAudit := by
    intro second
    unfold Database.mintMetaIdentity
    split
    · exact ⟨rfl, rfl⟩
    · rename_i named minted
      obtain ⟨_, rfl⟩ := statement_ok minted
      split
      · exact ⟨rfl, rfl⟩
      · rename_i dated stamped
        obtain ⟨_, rfl⟩ := statement_ok stamped
        exact ⟨rfl, rfl⟩
  obtain ⟨activity, deletionAudit⟩ := minted readings.mintSecondFault
  have emptied : ∀ {db : Database},
      db.activity.recordRoutine = writer.store.activity.recordRoutine →
      db.activity.recordRoutine.recordRequests = .empty ∧
        db.activity.recordRoutine.recordSessions = .empty := by
    intro db same
    rw [same]
    exact ⟨wiped.requests, wiped.recordings⟩
  unfold WriterState.createReplacementSession
  dsimp only
  split
  · rename_i db error named
    rw [named] at activity deletionAudit
    obtain ⟨requests, recordings⟩ := emptied (congrArg Activity.recordRoutine activity)
    exact ⟨requests, recordings, deletionAudit.trans wiped.deletionAudit, wiped.inactive,
      wiped.unpaused⟩
  · rename_i db named
    rw [named] at activity deletionAudit
    obtain ⟨requests, recordings⟩ := emptied (congrArg Activity.recordRoutine activity)
    split
    · exact ⟨requests, recordings, deletionAudit.trans wiped.deletionAudit, wiped.inactive,
        wiped.unpaused⟩
    · rename_i created newSessionId inserted
      obtain ⟨rfl, _⟩ := Prod.mk.inj (statement_ok inserted).2
      exact ⟨requests, recordings, deletionAudit.trans wiped.deletionAudit, wiped.inactive,
        wiped.unpaused⟩

section Delete

variable (config : WriterConfig) (state : WriterState) (readings : DeleteReadings)
  (identity : SessionIdentity)

theorem erase_settled_wipes (inactive : state.recordState.activeRecordSessionId = none)
    (unpaused : state.recordState.pausedRecordSessionId = none) :
    (state.eraseSettled config readings identity).1 = state ∨
      Wiped (state.eraseSettled config readings identity).1 := by
  unfold WriterState.eraseSettled
  split
  · exact Or.inl rfl
  · rename_i db deleted wiping
    obtain ⟨rfl, _⟩ := Prod.mk.inj (statement_ok wiping).2
    apply Or.inr
    have wiped : Wiped { state with store := Database.empty }.rebaseCounters :=
      ⟨rfl, rfl, rfl, inactive, unpaused⟩
    have replaced := wiped.create_replacement_session readings.replacement identity
    split
    · rename_i after error created
      rw [show after = (after, Except.error error).1 from rfl, ← created]
      exact replaced
    · rename_i after newSessionId created
      have started : Wiped after := by
        rw [show after = (after, Except.ok newSessionId).1 from rfl, ← created]
        exact replaced
      exact started.input_frame (.erase_completed config after readings)

theorem reset_archived_wipes (archive : ArchiveReport)
    (inactive : state.recordState.activeRecordSessionId = none)
    (unpaused : state.recordState.pausedRecordSessionId = none) :
    (state.resetArchived config readings identity archive).1 = state ∨
      Wiped (state.resetArchived config readings identity archive).1 := by
  unfold WriterState.resetArchived
  split
  · exact Or.inl rfl
  · rename_i db deleted wiping
    obtain ⟨rfl, _⟩ := Prod.mk.inj (statement_ok wiping).2
    apply Or.inr
    have wiped : Wiped { state with store := Database.empty } :=
      ⟨rfl, rfl, rfl, inactive, unpaused⟩
    have replaced := wiped.create_replacement_session readings.replacement identity
    split
    · rename_i after error created
      rw [show after = (after, Except.error error).1 from rfl, ← created]
      exact replaced
    · rename_i after newSessionId created
      have started : Wiped after := by
        rw [show after = (after, Except.ok newSessionId).1 from rfl, ← created]
        exact replaced
      exact started.input_frame (.archive_reset_completed config after readings)

end Delete

section Settle

variable [StoreExternals]

/-- The writer a reset leaves behind. -/
inductive ResetOutcome (state : WriterState) : WriterState → Prop where
  | refused : ResetOutcome state state
  | unsettled {after : WriterState} (drained : InputFrame state after) : ResetOutcome state after
  /-- Every recording has been ended, and nothing was deleted. -/
  | settled {drained : WriterState} {db : Database} {fault : Option StoreError} {endedAt : I64}
      (frame : InputFrame state drained)
      (finalized : drained.store.finalizeOpenRecordSessions fault .appShutdown endedAt = .ok db) :
      ResetOutcome state
        { drained with store := db, recordState := drained.recordState.settled }
  | wiped {after : WriterState} (wiped : Wiped after) : ResetOutcome state after

variable (config : WriterConfig) (state : WriterState) (settle : SettleReadings)

theorem settle_for_reset_outcome :
    let result := state.settleForReset config settle
    ResetOutcome state result.1 ∧
      ((∃ endedAt, result.2 = .ok endedAt) →
        result.1.recordState.activeRecordSessionId = none ∧
          result.1.recordState.pausedRecordSessionId = none) := by
  have drained := InputFrame.drain_and_flush config state settle.drain
  unfold WriterState.settleForReset
  dsimp only
  split
  · refine ⟨.unsettled drained, ?_⟩
    rintro ⟨_, impossible⟩
    cases impossible
  · rename_i db finalized
    exact ⟨.settled drained finalized, fun _ => ⟨rfl, rfl⟩⟩

variable (readings : DeleteReadings) (identity : SessionIdentity)

theorem secure_erase_outcome :
    ResetOutcome state (state.secureErase config settle readings identity).1 := by
  obtain ⟨settled, idle⟩ := settle_for_reset_outcome config state settle
  unfold WriterState.secureErase
  split_ifs
  · exact .refused
  · split
    · rename_i after error unsettled
      rw [unsettled] at settled
      exact settled
    · rename_i after endedAt succeeded
      rw [succeeded] at settled idle
      obtain ⟨inactive, unpaused⟩ := idle ⟨endedAt, rfl⟩
      rcases erase_settled_wipes config after readings identity inactive unpaused with
        same | wiped
      · rw [same]
        exact settled
      · exact .wiped wiped

theorem archive_and_reset_outcome (archiving : ArchiveReadings) (archivePath : String)
    (archive : Option ArchiveFile) :
    ResetOutcome state
      (state.archiveAndReset config settle archiving readings archivePath archive
        identity).state := by
  obtain ⟨settled, idle⟩ := settle_for_reset_outcome config state settle
  unfold WriterState.archiveAndReset
  split_ifs
  · exact .refused
  · split
    · rename_i after error unsettled
      rw [unsettled] at settled
      exact settled
    · rename_i after endedAt succeeded
      rw [succeeded] at settled idle
      obtain ⟨inactive, unpaused⟩ := idle ⟨endedAt, rfl⟩
      split
      · exact settled
      · rename_i files archived _
        change ResetOutcome state (after.resetArchived config readings identity archived).1
        rcases reset_archived_wipes config after readings identity archived inactive unpaused with
          same | wiped
        · rw [same]
          exact settled
        · exact .wiped wiped

end Settle

end Gilbreth.Store
