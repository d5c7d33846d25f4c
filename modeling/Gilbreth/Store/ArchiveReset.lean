import Gilbreth.Store.InputFrame

/-!
# Nothing is deleted before it is archived

The outcome of an archive and reset says which side of the delete it ended on.
Before the delete the rows are where they were and the archive path is
untouched; after it the sealed and verified copy stands there alone.
-/

set_option autoImplicit false

namespace Gilbreth.Store

open Gilbreth.Core

section Files

/-- The archive path holds the sealed copy of the stamped database, the verifier
accepted it and nothing else of the call is left on disk. -/
structure ArchiveFiles.Archived (readings : ArchiveReadings) (endedAt : I64) (db : Database)
    (files : ArchiveFiles) : Prop where
  inPlace : ∃ copy provenance, stampArchiveOpenSessions endedAt db = .ok copy ∧
    readings.verify (.sealed copy provenance) = .ok () ∧
    files.archive = some (.sealed copy provenance)
  pendingGone : files.pending = none
  plaintextGone : files.PlaintextGone

variable (readings : ArchiveReadings)

theorem first_error_ok {Candidate : Type} (outcome : Candidate → Except String Unit)
    (candidates : List Candidate) (first : Except String Unit)
    (succeeded : candidates.foldl
      (fun first candidate =>
        match first with
        | .ok () => outcome candidate
        | .error error => .error error) first = .ok ()) :
    first = .ok () ∧ ∀ candidate ∈ candidates, outcome candidate = .ok () := by
  induction candidates generalizing first with
  | nil => exact ⟨succeeded, fun _ none => absurd none List.not_mem_nil⟩
  | cons head tail induction =>
      obtain ⟨next, rest⟩ := induction _ succeeded
      cases first with
      | error error => cases next
      | ok done =>
          refine ⟨rfl, fun candidate member => ?_⟩
          rcases List.mem_cons.mp member with rfl | later
          · exact next
          · exact rest candidate later

theorem scrub_file_ok {scrub : ScrubReadings} {content : Option StagingContent}
    (succeeded : (scrubAndRemoveArchivePlaintextFile scrub content).2 = .ok ()) :
    (scrubAndRemoveArchivePlaintextFile scrub content).1 = none := by
  unfold scrubAndRemoveArchivePlaintextFile at succeeded ⊢
  split at succeeded <;> try cases succeeded
  · rfl
  · split_ifs at succeeded ⊢
    split at succeeded <;> first | rfl | cases succeeded

theorem scrub_staging_ok {scrub : StagingFile → ScrubReadings} {files : ArchiveFiles}
    (succeeded : (scrubArchivePlaintextStaging scrub files).2 = .ok ()) :
    (scrubArchivePlaintextStaging scrub files).1.PlaintextGone := by
  obtain ⟨_, each⟩ := first_error_ok
    (fun file => (scrubAndRemoveArchivePlaintextFile (scrub file) (files.plaintext file)).2)
    StagingFile.candidates (.ok ()) succeeded
  intro file
  apply scrub_file_ok
  apply each file
  cases file <;> decide

theorem prepare_archive_cases (endedAt : I64) (db : Database) (provenance : ArchiveProvenance)
    (files : ArchiveFiles) :
    let prepared := prepareArchive readings endedAt db provenance files
    prepared.1.archive = files.archive ∧
      (prepared.2 = .ok () → ∃ copy, stampArchiveOpenSessions endedAt db = .ok copy ∧
        readings.verify (.sealed copy provenance) = .ok () ∧
        prepared.1.pending = some (.sealed copy provenance)) := by
  unfold prepareArchive
  split
  · exact ⟨rfl, fun succeeded => by cases succeeded⟩
  · split
    · exact ⟨rfl, fun succeeded => by cases succeeded⟩
    · exact ⟨rfl, fun succeeded => by cases succeeded⟩
    · rename_i stamped _ made
      dsimp only
      split
      · exact ⟨rfl, fun succeeded => by cases succeeded⟩
      · refine ⟨rfl, fun succeeded => ⟨stamped, made, ?_, rfl⟩⟩
        dsimp only at succeeded
        split at succeeded
        · assumption
        · cases succeeded

/-- The archiving failed and left the path alone, with the plaintext gone or the
error saying that it may not be. -/
def ArchiveFiles.Unarchived (archive : Option ArchiveFile) (files : ArchiveFiles)
    (error : StoreError) : Prop :=
  files.archive = archive ∧ (files.PlaintextGone ∨ ∃ text, error = .archiveStagingCleanup text)

theorem remove_temporary_keeps (files : ArchiveFiles) :
    (removeArchiveTemporaryFile readings files).archive = files.archive ∧
      (removeArchiveTemporaryFile readings files).plaintext = files.plaintext := by
  unfold removeArchiveTemporaryFile
  split_ifs <;> exact ⟨rfl, rfl⟩

theorem finish_archive_cases (report : ArchiveReport)
    (prepared : ArchiveFiles × Except StoreError Unit) :
    let finished := finishArchive readings report prepared
    (∃ error, finished.2 = .error error ∧ finished.1.Unarchived prepared.1.archive error) ∨
    (finished.2 = .ok report ∧ prepared.2 = .ok () ∧
      finished.1.archive = prepared.1.pending ∧ finished.1.pending = none ∧
      finished.1.PlaintextGone) := by
  have removed := remove_temporary_keeps readings
    (scrubArchivePlaintextStaging readings.scrub prepared.1).1
  have gone : (scrubArchivePlaintextStaging readings.scrub prepared.1).2 = .ok () →
      (removeArchiveTemporaryFile readings
        (scrubArchivePlaintextStaging readings.scrub prepared.1).1).PlaintextGone := by
    intro succeeded file
    rw [removed.2]
    exact scrub_staging_ok succeeded file
  unfold finishArchive
  dsimp only
  split
  · exact Or.inl ⟨_, rfl, removed.1, Or.inr ⟨_, rfl⟩⟩
  · rename_i scrubbed
    exact Or.inl ⟨_, rfl, removed.1, Or.inl (gone scrubbed)⟩
  · exact Or.inl ⟨_, rfl, removed.1, Or.inr ⟨_, rfl⟩⟩
  · rename_i made scrubbed
    split
    · exact Or.inl ⟨_, rfl, removed.1, Or.inl (gone scrubbed)⟩
    · exact Or.inr ⟨rfl, made, rfl, rfl, scrub_staging_ok scrubbed⟩

theorem archive_activity_cases (archivePath : String) (endedAt : I64) (db : Database)
    (archive : Option ArchiveFile) :
    let archived := archiveActivityTo readings archivePath endedAt db archive
    (∃ error, archived.2 = .error error ∧ archived.1.Unarchived archive error) ∨
    (∃ report, archived.2 = .ok report ∧ archived.1.Archived readings endedAt db) := by
  have refused : ∀ error : StoreError,
      (ArchiveFiles.before archive).Unarchived archive error :=
    fun error => ⟨rfl, Or.inl fun _ => rfl⟩
  unfold archiveActivityTo
  dsimp only
  split
  · exact Or.inl ⟨_, rfl, refused _⟩
  · exact Or.inl ⟨_, rfl, refused _⟩
  split_ifs
  · exact Or.inl ⟨_, rfl, refused _⟩
  · exact Or.inl ⟨_, rfl, refused _⟩
  · exact Or.inl ⟨_, rfl, refused _⟩
  split
  · exact Or.inl ⟨_, rfl, refused _⟩
  · exact Or.inl ⟨_, rfl, refused _⟩
  · rename_i provenance _ _
    obtain ⟨untouched, sealed⟩ := prepare_archive_cases readings endedAt db provenance
      (.before archive)
    rcases finish_archive_cases readings _
        (prepareArchive readings endedAt db provenance (.before archive)) with
      ⟨error, failed, path, plaintext⟩ | ⟨finished, made, path, pending, plaintext⟩
    · exact Or.inl ⟨error, failed, path.trans untouched, plaintext⟩
    · obtain ⟨copy, stamped, verified, placed⟩ := sealed made
      exact Or.inr ⟨_, finished, ⟨copy, provenance, stamped, verified, path.trans placed⟩,
        pending, plaintext⟩

end Files

/-- Every row of `before` is still there: a flush adds rows, counts the actions of
a recording and marks a selector as named, and touches neither the sessions, the
requests nor the metadata. -/
structure RowsKept (before after : Database) : Prop where
  sessions : after.activity.sessions = before.activity.sessions
  events : before.activity.events.rows ⊆ after.activity.events.rows
  actionEvents : before.activity.recordRoutine.actionEvents.rows ⊆
    after.activity.recordRoutine.actionEvents.rows
  selectorPaths : before.activity.recordRoutine.selectorPaths.rows.map SelectorPathRow.selectorId ⊆
    after.activity.recordRoutine.selectorPaths.rows.map SelectorPathRow.selectorId
  recordRequests : after.activity.recordRoutine.recordRequests =
    before.activity.recordRoutine.recordRequests
  recordSessions : after.activity.recordRoutine.recordSessions.rows.map
      RecordSessionRow.recordSessionId =
    before.activity.recordRoutine.recordSessions.rows.map RecordSessionRow.recordSessionId
  metaRows : after.metaRows = before.metaRows

namespace RowsKept

variable {first second third : Database}

theorem refl (db : Database) : RowsKept db db :=
  ⟨rfl, .refl _, .refl _, .refl _, rfl, rfl, rfl⟩

theorem trans (left : RowsKept first second) (right : RowsKept second third) :
    RowsKept first third where
  sessions := right.sessions.trans left.sessions
  events := List.Subset.trans left.events right.events
  actionEvents := List.Subset.trans left.actionEvents right.actionEvents
  selectorPaths := List.Subset.trans left.selectorPaths right.selectorPaths
  recordRequests := right.recordRequests.trans left.recordRequests
  recordSessions := right.recordSessions.trans left.recordSessions
  metaRows := right.metaRows.trans left.metaRows

theorem of_books (books : SameBooks first second) : RowsKept first second where
  sessions := books.sessions
  events := books.events
  actionEvents := books.actionEvents
  selectorPaths := books.selectorPaths
  recordRequests := books.recordRequests
  recordSessions := Recounted.map_eq books.recordSessions _ fun _ _ => rfl
  metaRows := books.metaRows

theorem update_record_sessions (db : Database) (matching : RecordSessionRow → Bool)
    (change : RecordSessionRow → RecordSessionRow)
    (keeps : ∀ row, (change row).recordSessionId = row.recordSessionId) :
    RowsKept db (db.updateRecordSessions matching change keeps) where
  sessions := rfl
  events := List.Subset.refl _
  actionEvents := List.Subset.refl _
  selectorPaths := List.Subset.refl _
  recordRequests := rfl
  recordSessions := Table.keys_update_where _ matching change keeps
  metaRows := rfl

end RowsKept

section Settle

variable [Externals] (config : WriterConfig) (state : WriterState)

theorem admit_captured_activity (readings : QueueReadings) (captured : Captured) :
    (state.admitCaptured config readings captured).1.store.activity = state.store.activity := by
  rw [WriterState.admit_captured_eq]
  split_ifs
  · rfl
  · unfold WriterState.dropReceived
    split_ifs
    · exact (clear_open_focus_keeps readings.clearFault state.openFocus state.store).1
    · rfl
  · exact (note_open_focus_keeps readings.clearFault state.openFocus state.store _).1

variable [StoreExternals]

/-- Nothing of `state` is deleted in `after`: the store is as it was, or as the
call's own drain and flush left it, with the open recordings possibly ended. -/
structure Undeleted (settle : SettleReadings) (after : WriterState) : Prop where
  kept : RowsKept state.store after.store
  store : after.store = state.store ∨
    after.store = (state.drainAndFlush config settle.drain).store ∨
    ∃ endedAt, (state.drainAndFlush config settle.drain).store.finalizeOpenRecordSessions none
      .appShutdown endedAt = .ok after.store

theorem settle_for_reset_cases (settle : SettleReadings) :
    Undeleted config state settle (state.settleForReset config settle).1 ∧
      (state.settleForReset config settle).1.batch = [] := by
  have pending := RowsKept.of_books
    (InputFrame.drain_and_flush config state settle.drain).books
  unfold WriterState.settleForReset
  dsimp only
  split
  · exact ⟨⟨pending, Or.inr (Or.inl rfl)⟩, rfl⟩
  · rename_i db finalized
    obtain ⟨_, rfl⟩ := statement_ok finalized
    exact ⟨⟨pending.trans (RowsKept.update_record_sessions _ _ _ _),
      Or.inr (Or.inr ⟨_, rfl⟩)⟩, rfl⟩

end Settle

section Delete

variable [Externals] (config : WriterConfig) (state : WriterState)

/-- Every earlier row is gone: there is at most the new session, and what else is
stored or waits was stamped after the delete. -/
structure StartedOver (state : WriterState) : Prop where
  recordRoutine : state.store.activity.recordRoutine = .empty
  sessions : state.store.activity.sessions.rows.length ≤ 1
  events : ∀ row ∈ state.store.activity.events.rows,
    ∃ event ∈ state.stamped, row = .fromEnvelope event
  batched : state.batch ⊆ state.stamped

namespace StartedOver

variable {state}

theorem admit_captured (anew : StartedOver state) (readings : QueueReadings)
    (captured : Captured) : StartedOver (state.admitCaptured config readings captured).1 := by
  have activity := admit_captured_activity config state readings captured
  have rows : state.stamped ⊆ (state.admitCaptured config readings captured).1.stamped ∧
      (state.admitCaptured config readings captured).1.batch ⊆
        (state.admitCaptured config readings captured).1.stamped := by
    rw [WriterState.admit_captured_eq]
    split_ifs
    · exact ⟨List.Subset.refl _, anew.batched⟩
    · unfold WriterState.dropReceived
      split_ifs <;> exact ⟨List.Subset.refl _, anew.batched⟩
    · refine ⟨List.subset_append_left _ _, ?_⟩
      exact List.append_subset.mpr ⟨List.subset_append_of_subset_left _ anew.batched,
        List.subset_append_right _ _⟩
  constructor
  · rw [activity]
    exact anew.recordRoutine
  · rw [activity]
    exact anew.sessions
  · rw [activity]
    intro row stored
    obtain ⟨event, member, same⟩ := anew.events row stored
    exact ⟨event, rows.1 member, same⟩
  · exact rows.2

theorem queue_captured (anew : StartedOver state) (readings : QueueReadings)
    (captured : Captured) : StartedOver (state.queueCaptured config readings captured) := by
  have admitted := anew.admit_captured config readings captured
  rcases state.queue_captured_cases config readings captured with same | flushed
  · rw [same]
    exact admitted
  · rw [flushed]
    have added := flush_events_added readings.flush
      (state.admitCaptured config readings captured).1.batch
      (state.admitCaptured config readings captured).1.store
    refine ⟨added.recordRoutine.trans admitted.recordRoutine, ?_, ?_, List.nil_subset _⟩
    · exact (congrArg (fun table => table.rows.length) added.sessions).trans_le admitted.sessions
    · intro row stored
      rcases added.events row stored with old | ⟨event, member, same⟩
      · exact admitted.events row old
      · exact ⟨event, admitted.batched member, same⟩

theorem reemit (anew : StartedOver state) (now : Instant)
    (readings : SensitiveContextReason → QueueReadings) :
    StartedOver (state.reemitActiveSensitiveContexts config now readings) := by
  unfold WriterState.reemitActiveSensitiveContexts
  generalize state.policy.activeSensitiveReasons = reasons
  induction reasons generalizing state with
  | nil => exact anew
  | cons reason rest induction => exact induction (anew.queue_captured config _ _)

theorem create_replacement_session (state : WriterState) (readings : ReplacementReadings)
    (identity : SessionIdentity) (emptied : state.store.activity = .empty)
    (quiet : state.batch = []) :
    StartedOver (state.createReplacementSession readings identity).1 ∧
      (state.createReplacementSession readings identity).1.store.activity.events.rows = [] := by
  have unmade : ∀ store : Database, store.activity = .empty →
      StartedOver { state with store := store } ∧ store.activity.events.rows = [] := by
    intro store activity
    have batched : state.batch ⊆ state.stamped := by
      rw [quiet]
      exact List.nil_subset _
    have events : store.activity.events.rows = [] := congrArg (·.events.rows) activity
    refine ⟨⟨?_, ?_, ?_, batched⟩, events⟩ <;> dsimp only <;> rw [activity]
    · rfl
    · exact Nat.zero_le _
    · exact fun row none => absurd none List.not_mem_nil
  have minted := state.store.mint_meta_identity_activity readings.mintFault
    readings.mintSecondFault readings.start.utcMs readings.dbUuid
  unfold WriterState.createReplacementSession
  dsimp only
  split
  · rename_i db error failed
    rw [failed] at minted
    exact unmade db (minted.trans emptied)
  · rename_i db made
    rw [made] at minted
    have activity := minted.trans emptied
    split
    · exact unmade db activity
    · rename_i started newSessionId created
      obtain ⟨_, same⟩ := statement_ok created
      obtain ⟨rfl, rfl⟩ := Prod.mk.inj same
      have sessions : db.activity.sessions.rows = [] := congrArg (·.sessions.rows) activity
      have events : db.activity.events.rows = [] := congrArg (·.events.rows) activity
      refine ⟨⟨?_, ?_, ?_, ?_⟩, events⟩
      · exact congrArg Activity.recordRoutine activity
      · change (db.activity.sessions.rows ++ [_]).length ≤ 1
        rw [sessions]
        exact le_rfl
      · intro row stored
        change row ∈ db.activity.events.rows at stored
        rw [events] at stored
        cases stored
      · change state.batch ⊆ []
        rw [quiet]
        exact List.Subset.refl _

end StartedOver

/-- From the delete on: it failed and changed nothing, or nothing of before it is
left. -/
theorem reset_archived_outcomes (readings : DeleteReadings) (identity : SessionIdentity)
    (archive : ArchiveReport) (quiet : state.batch = []) :
    let result := state.resetArchived config readings identity archive
    (result.2.outcome = .deleteFailed ∧ result.1 = state) ∨
      ((result.2.outcome = .completed ∨ result.2.outcome = .deleteCommittedScrubIncomplete) ∧
        StartedOver result.1) ∨
      (result.2.outcome = .replacementSessionFailed ∧ StartedOver result.1 ∧
        result.1.store.activity.events.rows = []) := by
  unfold WriterState.resetArchived
  split
  · exact Or.inl ⟨rfl, rfl⟩
  · rename_i db deleted committed
    obtain ⟨_, same⟩ := statement_ok committed
    obtain ⟨rfl, rfl⟩ := Prod.mk.inj same
    have created := StartedOver.create_replacement_session
      { state with store := ⟨.empty, none, [], .empty, .reset⟩ } readings.replacement identity rfl
      quiet
    split
    · rename_i after error made
      rw [made] at created
      exact Or.inr (Or.inr ⟨rfl, created⟩)
    · rename_i after newSessionId made
      rw [made] at created
      have anew := created.1
      have forgotten : StartedOver
          { after with eraseCompletionBoundaryMs := none }.forgetOpenFocus :=
        ⟨anew.recordRoutine, anew.sessions, anew.events, anew.batched⟩
      refine Or.inr (Or.inl ⟨?_, forgotten.reemit config readings.completedAt readings.reemit⟩)
      unfold ArchiveResetReport.resetCommitted
      dsimp only
      split_ifs
      · exact Or.inr rfl
      · exact Or.inl rfl

variable [StoreExternals]

/-- The archive in place is of a store that still had every row. -/
def ArchivedFirst (settle : SettleReadings) (archiving : ArchiveReadings) (files : ArchiveFiles)
    (settled : WriterState) : Prop :=
  Undeleted config state settle settled ∧
    ∃ endedAt, files.Archived archiving endedAt settled.store

def ArchiveResetReport.SaysCleanupFailed (report : ArchiveResetReport) : Prop :=
  ∃ text, report.message = some (StoreError.archiveStagingCleanup text).toText

/-- The outcome tells the side of the delete the call ended on. -/
def ArchiveResetResult.Truthful (settle : SettleReadings) (archiving : ArchiveReadings)
    (archive : Option ArchiveFile) (result : ArchiveResetResult) : Prop :=
  match result.report.outcome with
  | .archiveFailed =>
      Undeleted config state settle result.state ∧ result.files.archive = archive ∧
        (result.files.PlaintextGone ∨ result.report.SaysCleanupFailed)
  | .deleteFailed => ArchivedFirst config state settle archiving result.files result.state
  | .completed | .deleteCommittedScrubIncomplete =>
      StartedOver result.state ∧
        ∃ settled, ArchivedFirst config state settle archiving result.files settled
  | .replacementSessionFailed =>
      (StartedOver result.state ∧ result.state.store.activity.events.rows = []) ∧
        ∃ settled, ArchivedFirst config state settle archiving result.files settled

/-- Before the delete no row is missing, and if the archiving failed its path is
untouched; after it no earlier row is left, and the verified archive of all of
them is in place. -/
theorem archive_before_delete (config : WriterConfig) (state : WriterState)
    (settle : SettleReadings) (archiving : ArchiveReadings) (readings : DeleteReadings)
    (archivePath : String) (archive : Option ArchiveFile) (identity : SessionIdentity) :
    ArchiveResetResult.Truthful config state settle archiving archive
      (state.archiveAndReset config settle archiving readings archivePath archive identity) := by
  have settled := settle_for_reset_cases config state settle
  unfold WriterState.archiveAndReset
  split_ifs
  · exact ⟨⟨RowsKept.refl _, Or.inl rfl⟩, rfl, Or.inl fun _ => rfl⟩
  split
  · rename_i after error failed
    rw [failed] at settled
    exact ⟨settled.1, rfl, Or.inl fun _ => rfl⟩
  · rename_i after endedAt finalized
    rw [finalized] at settled
    have archived := archive_activity_cases archiving archivePath endedAt after.store archive
    split
    · rename_i files error failed
      rw [failed] at archived
      rcases archived with ⟨_, same, path, plaintext⟩ | ⟨_, succeeded, _⟩
      · obtain rfl := Except.error.inj same
        refine ⟨settled.1, path, plaintext.imp_right ?_⟩
        rintro ⟨text, rfl⟩
        exact ⟨text, rfl⟩
      · cases succeeded
    · rename_i files report succeeded
      rw [succeeded] at archived
      rcases archived with ⟨_, failed, _⟩ | ⟨_, _, placed⟩
      · cases failed
      · have first : ArchivedFirst config state settle archiving files after :=
          ⟨settled.1, endedAt, placed⟩
        unfold ArchiveResetResult.Truthful
        dsimp only
        rcases reset_archived_outcomes config after readings identity report settled.2 with
          ⟨outcome, same⟩ | ⟨outcome, anew⟩ | ⟨outcome, anew⟩
        · rw [outcome, same]
          exact first
        · rcases outcome with outcome | outcome <;> rw [outcome]
          · exact ⟨anew, after, first⟩
          · exact ⟨anew, after, first⟩
        · rw [outcome]
          exact ⟨anew, after, first⟩

end Delete

section

attribute [local instance] asciiExternals bareExternals

private def noon : Clock := ⟨⟨0⟩, some 43200000000000⟩

private def diskFull : ArchiveReadings where
  sealKeyError := none
  createDirError := none
  extensionIsArchive := true
  archiveVisible := true
  pathIsUtf8 := true
  countFault := none
  provenanceFault := none
  envHost := none
  schemaVersion := 7
  vacuumError := some (.sqlite .other "database or disk is full")
  stampError := none
  leftBySqlite := fun _ => false
  sealError := none
  pendingLeftBySeal := false
  verify := fun _ => .ok ()
  scrub := fun _ => ⟨none, false, none, none⟩
  removePending := true
  renameError := none

private def archivedStore : Database :=
  (((Database.empty.mintMetaIdentity none none noon.utcMs "6d1f").1.createSessionWithIdentity none
    noon.utcMs ⟨"1.0.0", none, none, none⟩).toOption.map Prod.fst).getD .empty

private def idleWriter : WriterState :=
  (WriterState.started archivedStore (.new 1 ⟨noon.now, noon.utcMs⟩) .identity).queueCaptured
    ⟨200, .ofInt 5000⟩ (.clear noon) ⟨.system, noon.now, .idle 60000⟩

/-- The copy fails, and the event table is not what it was: the call has written
the row that was waiting in the batch. -/
theorem failed_archive_commits_pending_rows :
    (idleWriter.archiveAndReset ⟨200, .ofInt 5000⟩ (.clear noon.now) diskFull (.clear noon "7e20")
        "gilbreth-archive-1.gla" none ⟨"1.0.0", none, none, none⟩).report.message =
        some "sqlite error: database or disk is full" ∧
      idleWriter.store.activity.events.rows = [] ∧
      (idleWriter.archiveAndReset ⟨200, .ofInt 5000⟩ (.clear noon.now) diskFull
        (.clear noon "7e20") "gilbreth-archive-1.gla" none
        ⟨"1.0.0", none, none, none⟩).state.store.activity.events.rows.map EventRow.payload =
        [.idle 60000] := by
  decide +kernel

end

end Gilbreth.Store
