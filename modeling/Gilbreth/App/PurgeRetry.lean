import Mathlib
import Gilbreth.App.PurgeOutcome

/-!
# Purging again

A root that holds nothing but files of known names in their places can be purged: without failures
the purge is complete exactly on such roots. A purge that fails part of the way leaves such a root
again, and what still names the configured database, so that a later purge can end it.
-/

set_option autoImplicit false

namespace Gilbreth.App

section Purgeable

def fileNames (hasTestMarker : Bool) : List String :=
  databaseNames ++ configurationNames hasTestMarker ++ sidecarNames ++ uiStateNames

def folderNames : List String := ["logs", "archives", receiptDirectory, "rollback"]

/-- Nothing is in the root that the purge would not remove. -/
structure Purgeable (family : List EntryPath) (hasTestMarker : Bool) (dataRoot : EntryPath)
    (tree : FileTree) : Prop where
  root : tree.kindAt dataRoot = none ∨ tree.kindAt dataRoot = some .directory
  configured : ∀ path ∈ family, Plain tree path
  files : ∀ name ∈ fileNames hasTestMarker, Plain tree (name :: dataRoot)
  folders : ∀ name ∈ folderNames,
    name :: dataRoot ∈ family ∨ Clearable tree (name :: dataRoot)
  programs : "bin" :: dataRoot ∈ family ∨ tree.kindAt ("bin" :: dataRoot) = none ∨
    (tree.kindAt ("bin" :: dataRoot) = some .directory ∧
      ∀ name, tree.kindAt (name :: "bin" :: dataRoot) ≠ none →
        name :: "bin" :: dataRoot ∈ family ∨
          (name ∈ legacyProgramNames ∧ tree.kindAt (name :: "bin" :: dataRoot) = some .file))
  entries : ∀ name, tree.kindAt (name :: dataRoot) ≠ none →
    name :: dataRoot ∈ family ∨ name ∈ fileNames hasTestMarker ∨ name ∈ folderNames ∨
      name = "bin"

end Purgeable

section Stages

/-- The classes so far have removed such entries and left the others as they were. -/
def Cleared (tree now : FileTree) (gone : EntryPath → Prop) : Prop :=
  ∀ path, (gone path → now.kindAt path = none) ∧
    (¬gone path → now.kindAt path = tree.kindAt path)

variable {tree now : FileTree} {gone : EntryPath → Prop} {dataRoot : EntryPath}

theorem Cleared.step (cleared : Cleared tree now gone) {after : FileTree}
    {lost : EntryPath → Prop} (loses : now.Loses after lost)
    (clears : ∀ path, lost path → after.kindAt path = none) :
    Cleared tree after fun path => gone path ∨ lost path := by
  intro path
  constructor
  · intro either
    rcases either with earlier | here
    · exact loses.stays_gone ((cleared path).1 earlier)
    · exact clears path here
  · intro neither
    rw [not_or] at neither
    rw [loses.kept neither.2, (cleared path).2 neither.1]

theorem Cleared.congr (cleared : Cleared tree now gone) {other : EntryPath → Prop}
    (same : ∀ path, other path ↔ gone path) : Cleared tree now other := by
  have equal : other = gone := funext fun path => propext (same path)
  rw [equal]
  exact cleared

/-- So far only files are gone. -/
structure FilesCleared (tree now : FileTree) (gone : EntryPath → Prop) : Prop where
  cleared : Cleared tree now gone
  plain : ∀ path, gone path → Plain tree path

theorem FilesCleared.plain_iff (stage : FilesCleared tree now gone) (path : EntryPath) :
    Plain now path ↔ Plain tree path := by
  by_cases lost : gone path
  · exact iff_of_true (Or.inl ((stage.cleared path).1 lost)) (stage.plain path lost)
  · unfold Plain
    rw [(stage.cleared path).2 lost]

theorem FilesCleared.congr (stage : FilesCleared tree now gone) {other : EntryPath → Prop}
    (same : ∀ path, other path ↔ gone path) : FilesCleared tree now other where
  cleared := stage.cleared.congr same
  plain := fun path lost => stage.plain path ((same path).mp lost)

theorem FilesCleared.files (stage : FilesCleared tree now gone) {faults : IoFaults}
    (faultless : faults.Faultless) {root : EntryPath} {className : String} {names : List String}
    {after : FileTree × ReceiptClass}
    (purged : purgeFiles faults now root className names = after) :
    (after.2.outcome = .removed ↔ ∀ path ∈ names.map (· :: root), Plain tree path) ∧
      (after.2.outcome = .removed →
        FilesCleared tree after.1 fun path => gone path ∨ path ∈ names.map (· :: root)) := by
  subst purged
  have removes := purge_paths_faultless faults (names.map (· :: root)) className now faultless
  have plain : ∀ path, Plain now path ↔ Plain tree path := stage.plain_iff
  simp only [plain] at removes
  refine ⟨removes, fun done => ⟨?_, ?_⟩⟩
  · exact stage.cleared.step
      ((purge_paths_loses faults _ className now).mono fun path lost => lost.1)
      (purge_paths_clears faults _ className now done)
  · intro path either
    rcases either with earlier | here
    · exact stage.plain path earlier
    · exact removes.mp done path here

theorem FilesCleared.configured (stage : FilesCleared tree now gone) {faults : IoFaults}
    (faultless : faults.Faultless) {root : EntryPath} {reading : ConfigReading}
    {after : FileTree × ReceiptClass}
    (purged : purgeConfiguredDatabase faults reading now root = after) :
    (after.2.outcome = .removed ↔ Resolved reading now root ∧
        ∀ path ∈ configuredFamily reading now root, Plain tree path) ∧
      (after.2.outcome = .removed →
        FilesCleared tree after.1
          fun path => gone path ∨ path ∈ configuredFamily reading now root) := by
  subst purged
  have removes := purge_configured_faultless faults reading now root faultless
  have plain : ∀ path, Plain now path ↔ Plain tree path := stage.plain_iff
  simp only [plain] at removes
  refine ⟨removes, fun done => ⟨?_, ?_⟩⟩
  · exact stage.cleared.step
      ((purge_configured_loses faults reading now root).mono fun path lost => lost.1)
      (purge_configured_clears faults reading now root done)
  · intro path either
    rcases either with earlier | here
    · exact stage.plain path earlier
    · exact (removes.mp done).2 path here

/-- A folder of which at most files are gone is as clearable as before, or gone itself. -/
theorem Cleared.clearable_iff (cleared : Cleared tree now gone) {path : EntryPath}
    (plain : ∀ entry, path <:+ entry → gone entry → Plain tree entry) :
    Clearable now path ↔ gone path ∨ Clearable tree path := by
  have linkless : Linkless now path ↔ Linkless tree path := by
    refine forall₂_congr fun entry below => ?_
    by_cases lost : gone entry
    · refine iff_of_true ?_ ?_
      · rw [(cleared entry).1 lost]
        decide
      · rcases plain entry below lost with absent | file
        · rw [absent]
          decide
        · rw [file]
          decide
    · rw [(cleared entry).2 lost]
  unfold Clearable
  rw [linkless]
  by_cases lost : gone path
  · exact iff_of_true (Or.inl ((cleared path).1 lost)) (Or.inl lost)
  · rw [(cleared path).2 lost, or_iff_right lost]

theorem Cleared.programs_iff (cleared : Cleared tree now gone) {family : List EntryPath}
    (folder : gone ("bin" :: dataRoot) ↔ "bin" :: dataRoot ∈ family)
    (inside : ∀ name, gone (name :: "bin" :: dataRoot) ↔ name :: "bin" :: dataRoot ∈ family) :
    ProgramsOnly now dataRoot ↔
      ("bin" :: dataRoot ∈ family ∨ tree.kindAt ("bin" :: dataRoot) = none ∨
        (tree.kindAt ("bin" :: dataRoot) = some .directory ∧
          ∀ name, tree.kindAt (name :: "bin" :: dataRoot) ≠ none →
            name :: "bin" :: dataRoot ∈ family ∨ (name ∈ legacyProgramNames ∧
              tree.kindAt (name :: "bin" :: dataRoot) = some .file))) := by
  unfold ProgramsOnly
  by_cases lost : gone ("bin" :: dataRoot)
  · exact iff_of_true (Or.inl ((cleared _).1 lost)) (Or.inl (folder.mp lost))
  · rw [(cleared _).2 lost, ← folder, or_iff_right lost]
    refine or_congr_right (and_congr_right fun _ => forall_congr' fun name => ?_)
    rw [← inside]
    by_cases program : gone (name :: "bin" :: dataRoot)
    · exact iff_of_true (fun present => absurd ((cleared _).1 program) present)
        fun _ => Or.inl program
    · rw [(cleared _).2 program, or_iff_right program]

end Stages

section Names

variable {dataRoot : EntryPath}

theorem folders_apart {name other : String} {path : EntryPath} (one : name :: dataRoot <:+ path)
    (two : other :: dataRoot <:+ path) : name = other := by
  have same := List.suffix_of_suffix_length_le one two (by simp)
  exact child_below_child same

theorem folder_name {name folder : String} :
    folder :: dataRoot <:+ name :: dataRoot ↔ name = folder :=
  ⟨fun below => (child_below_child below).symm, fun same => same ▸ List.suffix_rfl⟩

theorem folder_of_program {name folder : String} :
    folder :: dataRoot <:+ name :: "bin" :: dataRoot ↔ folder = "bin" := by
  constructor
  · intro below
    exact folders_apart below (List.suffix_cons name ("bin" :: dataRoot))
  · intro same
    rw [same]
    exact List.suffix_cons name _

theorem program_not_listed (name : String) (names : List String) :
    name :: "bin" :: dataRoot ∉ names.map (· :: dataRoot) := by
  simp

end Names

section Completion

variable (family : List EntryPath) (hasTestMarker : Bool) (dataRoot : EntryPath)

def FilesAndFolders (path : EntryPath) : Prop :=
  path ∈ family ∨ path ∈ (fileNames hasTestMarker).map (· :: dataRoot) ∨
    ∃ folder ∈ folderNames, folder :: dataRoot <:+ path

variable {family hasTestMarker dataRoot}

theorem files_and_folders_child (name : String) :
    FilesAndFolders family hasTestMarker dataRoot (name :: dataRoot) ↔
      name :: dataRoot ∈ family ∨ name ∈ fileNames hasTestMarker ∨ name ∈ folderNames := by
  unfold FilesAndFolders
  rw [child_listed]
  refine or_congr_right (or_congr_right ?_)
  constructor
  · intro below
    obtain ⟨folder, listed, below⟩ := below
    rw [folder_name.mp below]
    exact listed
  · intro listed
    exact ⟨name, listed, List.suffix_rfl⟩

theorem files_and_folders_program (name : String) :
    FilesAndFolders family hasTestMarker dataRoot (name :: "bin" :: dataRoot) ↔
      name :: "bin" :: dataRoot ∈ family := by
  unfold FilesAndFolders
  have noFolder : ¬∃ folder ∈ folderNames, folder :: dataRoot <:+ name :: "bin" :: dataRoot := by
    intro below
    obtain ⟨folder, listed, below⟩ := below
    rw [folder_of_program.mp below] at listed
    revert listed
    decide
  exact or_iff_left (not_or.mpr ⟨program_not_listed name _, noFolder⟩)

/-- Nothing in the root is left when its files, its folders and the programs are gone. -/
theorem root_empty_iff {tree now after : FileTree}
    (cleared : Cleared tree now (FilesAndFolders family hasTestMarker dataRoot))
    (loses : now.Loses after fun path => path ∈ legacyPaths dataRoot ∧
      now.kindAt path = some .file ∨ path = "bin" :: dataRoot)
    (gone : after.kindAt ("bin" :: dataRoot) = none) :
    (∀ name, after.kindAt (name :: dataRoot) = none) ↔
      ∀ name, tree.kindAt (name :: dataRoot) ≠ none →
        name :: dataRoot ∈ family ∨ name ∈ fileNames hasTestMarker ∨ name ∈ folderNames ∨
          name = "bin" := by
  refine forall_congr' fun name => ?_
  by_cases bin : name = "bin"
  · exact iff_of_true (by rw [bin, gone]) fun _ => Or.inr (Or.inr (Or.inr bin))
  · have kept : after.kindAt (name :: dataRoot) = now.kindAt (name :: dataRoot) := by
      apply loses.kept
      intro lost
      rcases lost with ⟨program, _⟩ | same
      · exact child_not_legacy name dataRoot program
      · exact bin (List.cons.inj same).1
    rw [kept]
    have listed : FilesAndFolders family hasTestMarker dataRoot (name :: dataRoot) ↔ _ :=
      files_and_folders_child name
    by_cases removal : FilesAndFolders family hasTestMarker dataRoot (name :: dataRoot)
    · refine iff_of_true ((cleared _).1 removal) fun _ => ?_
      exact (listed.mp removal).imp_right fun inRoot => inRoot.imp_right Or.inl
    · rw [(cleared _).2 removal]
      constructor
      · intro absent present
        exact absurd absent present
      · intro known
        by_contra present
        refine removal (listed.mpr ?_)
        exact (known present).imp_right fun inRoot => inRoot.imp_right fun folder =>
          folder.resolve_right bin

variable (faults : String → IoFaults) (reading : ConfigReading) (tree : FileTree)

theorem resolved_after_database (databaseFaults : IoFaults) :
    Resolved reading (purgeFiles databaseFaults tree dataRoot "database" databaseNames).1
        dataRoot ↔ Resolved reading tree dataRoot := by
  have same : (purgeFiles databaseFaults tree dataRoot "database" databaseNames).1.kindAt
      ("config.toml" :: dataRoot) = tree.kindAt ("config.toml" :: dataRoot) := by
    apply (purge_paths_loses databaseFaults (databaseNames.map (· :: dataRoot)) "database"
      tree).kept
    simp [databaseNames]
  unfold Resolved
  rw [read_configuration_congr reading same]

theorem files_complete_iff (faultless : ∀ className, (faults className).Faultless)
    {first second third fourth fifth : FileTree × ReceiptClass} {rest later : Prop}
    (database : purgeFiles (faults "database") tree dataRoot "database" databaseNames = first)
    (configured : purgeConfiguredDatabase (faults "configured_database") reading first.1
      dataRoot = second)
    (configuration : purgeConfiguration (faults "configuration_and_staging") second.1 dataRoot
      hasTestMarker second.2.outcome.isOpen = third)
    (sidecars : purgeFiles (faults "sidecars_and_staging") third.1 dataRoot
      "sidecars_and_staging" sidecarNames = fourth)
    (uiState : purgeFiles (faults "ui_state") fourth.1 dataRoot "ui_state" uiStateNames = fifth)
    (goes : FilesCleared tree fifth.1 (fun path =>
      path ∈ configuredFamily reading tree dataRoot ∨
        path ∈ (fileNames hasTestMarker).map (· :: dataRoot)) → (rest ↔ later)) :
    (first.2.outcome = .removed ∧ second.2.outcome = .removed ∧ third.2.outcome = .removed ∧
        fourth.2.outcome = .removed ∧ fifth.2.outcome = .removed ∧ rest) ↔
      (∀ path ∈ databaseNames.map (· :: dataRoot), Plain tree path) ∧
      (Resolved reading tree dataRoot ∧
        ∀ path ∈ configuredFamily reading tree dataRoot, Plain tree path) ∧
      (∀ path ∈ (configurationNames hasTestMarker).map (· :: dataRoot), Plain tree path) ∧
      (∀ path ∈ sidecarNames.map (· :: dataRoot), Plain tree path) ∧
      (∀ path ∈ uiStateNames.map (· :: dataRoot), Plain tree path) ∧ later := by
  have start : FilesCleared tree tree fun _ => False :=
    ⟨fun path => ⟨False.elim, fun _ => rfl⟩, fun path => False.elim⟩
  have familyNow := family_after_database dataRoot reading tree (faults "database")
  have resolvedNow : _ ↔ Resolved reading tree dataRoot :=
    resolved_after_database reading tree (faults "database")
  rw [database] at familyNow resolvedNow
  obtain ⟨firstIff, firstStage⟩ := start.files (faultless _) database
  refine (and_congr_right fun firstDone => ?_).trans (and_congr_left' firstIff)
  obtain ⟨secondIff, secondStage⟩ := (firstStage firstDone).configured (faultless _) configured
  rw [familyNow, resolvedNow] at secondIff
  rw [familyNow] at secondStage
  refine (and_congr_right fun secondDone => ?_).trans (and_congr_left' secondIff)
  rw [secondDone] at configuration
  change purgeFiles (faults "configuration_and_staging") second.1 dataRoot
    "configuration_and_staging" (configurationNames hasTestMarker) = third at configuration
  obtain ⟨thirdIff, thirdStage⟩ :=
    (secondStage secondDone).files (faultless _) configuration
  refine (and_congr_right fun thirdDone => ?_).trans (and_congr_left' thirdIff)
  obtain ⟨fourthIff, fourthStage⟩ := (thirdStage thirdDone).files (faultless _) sidecars
  refine (and_congr_right fun fourthDone => ?_).trans (and_congr_left' fourthIff)
  obtain ⟨fifthIff, fifthStage⟩ := (fourthStage fourthDone).files (faultless _) uiState
  refine (and_congr_right fun fifthDone => ?_).trans (and_congr_left' fifthIff)
  apply goes
  apply (fifthStage fifthDone).congr
  intro path
  unfold fileNames
  rw [List.map_append, List.map_append, List.map_append, List.mem_append, List.mem_append,
    List.mem_append, false_or, ← or_assoc, ← or_assoc, ← or_assoc]
  exact or_congr_left (or_congr_left (or_congr_left or_comm))

variable (family hasTestMarker dataRoot) in
/-- The files are gone, and such folders. -/
structure FoldersCleared (tree now : FileTree) (done : List String) : Prop where
  cleared : Cleared tree now fun path =>
    (path ∈ family ∨ path ∈ (fileNames hasTestMarker).map (· :: dataRoot)) ∨
      ∃ folder ∈ done, folder :: dataRoot <:+ path
  plain : ∀ path, path ∈ family ∨ path ∈ (fileNames hasTestMarker).map (· :: dataRoot) →
    Plain tree path

/-- One more folder is removed exactly when it holds no link, or went as a file. -/
theorem FoldersCleared.folder {tree now : FileTree} {done : List String}
    (stage : FoldersCleared family hasTestMarker dataRoot tree now done) {faults : IoFaults}
    (faultless : faults.Faultless) {className name : String} (listed : name ∈ folderNames)
    (fresh : name ∉ done) {after : FileTree × ReceiptClass}
    (purged : purgeDirectory faults now dataRoot className name = after) :
    (after.2.outcome = .removed ↔
        name :: dataRoot ∈ family ∨ Clearable tree (name :: dataRoot)) ∧
      (after.2.outcome = .removed →
        FoldersCleared family hasTestMarker dataRoot tree after.1 (name :: done)) := by
  subst purged
  have other : ∀ path, name :: dataRoot <:+ path →
      ¬∃ folder ∈ done, folder :: dataRoot <:+ path := by
    intro path below taken
    obtain ⟨folder, member, under⟩ := taken
    exact fresh (folders_apart below under ▸ member)
  have noFile : name :: dataRoot ∉ (fileNames hasTestMarker).map (· :: dataRoot) := by
    have apart : ∀ marked, ∀ name ∈ folderNames, name ∉ fileNames marked := by decide
    rw [child_listed]
    exact apart hasTestMarker name listed
  constructor
  · rw [purge_directory_faultless faults now dataRoot className name faultless,
      stage.cleared.clearable_iff fun entry below lost =>
        stage.plain entry (lost.resolve_right (other entry below))]
    apply or_congr_left
    rw [or_iff_left (other _ List.suffix_rfl), or_iff_left noFile]
  · intro removal
    refine ⟨?_, stage.plain⟩
    apply (stage.cleared.step (purge_directory_loses faults now dataRoot className name)
      (purge_directory_clears faults now dataRoot className name removal)).congr
    intro path
    refine Iff.trans (or_congr_right ?_) or_assoc.symm
    rw [List.exists_mem_cons_iff]
    exact or_comm

theorem folders_complete_iff (faultless : ∀ className, (faults className).Faultless)
    {fifth sixth seventh eighth ninth : FileTree × ReceiptClass}
    {tenth : FileTree × ReceiptClass × Except String Nat}
    (stage : FoldersCleared family hasTestMarker dataRoot tree fifth.1 [])
    (logs : purgeDirectory (faults "logs") fifth.1 dataRoot "logs" "logs" = sixth)
    (archives : purgeDirectory (faults "archives") sixth.1 dataRoot "archives" "archives" =
      seventh)
    (receipts : purgeDirectory (faults "privacy_operation_receipts") seventh.1 dataRoot
      "privacy_operation_receipts" receiptDirectory = eighth)
    (rollback : purgeDirectory (faults "rollback_sensitive") eighth.1 dataRoot
      "rollback_sensitive" "rollback" = ninth)
    (legacy : purgeLegacyProgramFiles (faults "legacy_program_files") ninth.1 dataRoot =
      tenth) :
    (sixth.2.outcome = .removed ∧ seventh.2.outcome = .removed ∧ eighth.2.outcome = .removed ∧
        ninth.2.outcome = .removed ∧ (tenth.2.1.outcome = .removed ∧ tenth.2.2 = .ok 0) ∧
        ∀ name, tenth.1.kindAt (name :: dataRoot) = none) ↔
      ("logs" :: dataRoot ∈ family ∨ Clearable tree ("logs" :: dataRoot)) ∧
      ("archives" :: dataRoot ∈ family ∨ Clearable tree ("archives" :: dataRoot)) ∧
      (receiptDirectory :: dataRoot ∈ family ∨ Clearable tree (receiptDirectory :: dataRoot)) ∧
      ("rollback" :: dataRoot ∈ family ∨ Clearable tree ("rollback" :: dataRoot)) ∧
      ("bin" :: dataRoot ∈ family ∨ tree.kindAt ("bin" :: dataRoot) = none ∨
        (tree.kindAt ("bin" :: dataRoot) = some .directory ∧
          ∀ name, tree.kindAt (name :: "bin" :: dataRoot) ≠ none →
            name :: "bin" :: dataRoot ∈ family ∨ (name ∈ legacyProgramNames ∧
              tree.kindAt (name :: "bin" :: dataRoot) = some .file))) ∧
      ∀ name, tree.kindAt (name :: dataRoot) ≠ none →
        name :: dataRoot ∈ family ∨ name ∈ fileNames hasTestMarker ∨ name ∈ folderNames ∨
          name = "bin" := by
  obtain ⟨sixthIff, sixthStage⟩ := stage.folder (faultless _) (by decide) (by decide) logs
  refine (and_congr_right fun sixthDone => ?_).trans (and_congr_left' sixthIff)
  obtain ⟨seventhIff, seventhStage⟩ :=
    (sixthStage sixthDone).folder (faultless _) (by decide) (by decide) archives
  refine (and_congr_right fun seventhDone => ?_).trans (and_congr_left' seventhIff)
  obtain ⟨eighthIff, eighthStage⟩ :=
    (seventhStage seventhDone).folder (faultless _) (by decide) (by decide) receipts
  refine (and_congr_right fun eighthDone => ?_).trans (and_congr_left' eighthIff)
  obtain ⟨ninthIff, ninthStage⟩ :=
    (eighthStage eighthDone).folder (faultless _) (by decide) (by decide) rollback
  refine (and_congr_right fun ninthDone => ?_).trans (and_congr_left' ninthIff)
  have cleared : Cleared tree ninth.1 (FilesAndFolders family hasTestMarker dataRoot) := by
    apply (ninthStage ninthDone).cleared.congr
    intro path
    refine or_assoc.symm.trans (or_congr_right (exists_congr fun folder => and_congr_left' ?_))
    exact (List.mem_reverse : folder ∈ folderNames.reverse ↔ folder ∈ folderNames).symm
  have tenthIff := purge_legacy_faultless (faults "legacy_program_files") ninth.1 dataRoot
    (faultless _)
  have noProgram : ∀ marked, "bin" ∉ fileNames marked ∧ "bin" ∉ folderNames := by decide
  have binIff : FilesAndFolders family hasTestMarker dataRoot ("bin" :: dataRoot) ↔
      "bin" :: dataRoot ∈ family :=
    (files_and_folders_child "bin").trans (or_iff_left (not_or.mpr (noProgram hasTestMarker)))
  rw [legacy, cleared.programs_iff binIff files_and_folders_program] at tenthIff
  refine (and_congr_right fun tenthDone => ?_).trans (and_congr_left' tenthIff)
  have loses := purge_legacy_loses (faults "legacy_program_files") ninth.1 dataRoot
  have clears := purge_legacy_clears (faults "legacy_program_files") ninth.1 dataRoot
  rw [legacy] at loses clears
  exact root_empty_iff cleared loses ((clears tenthDone.1).2 tenthDone.2)

theorem purgeable_iff :
    ((∀ path ∈ databaseNames.map (· :: dataRoot), Plain tree path) ∧
      (Resolved reading tree dataRoot ∧ ∀ path ∈ family, Plain tree path) ∧
      (∀ path ∈ (configurationNames hasTestMarker).map (· :: dataRoot), Plain tree path) ∧
      (∀ path ∈ sidecarNames.map (· :: dataRoot), Plain tree path) ∧
      (∀ path ∈ uiStateNames.map (· :: dataRoot), Plain tree path) ∧
      ("logs" :: dataRoot ∈ family ∨ Clearable tree ("logs" :: dataRoot)) ∧
      ("archives" :: dataRoot ∈ family ∨ Clearable tree ("archives" :: dataRoot)) ∧
      (receiptDirectory :: dataRoot ∈ family ∨ Clearable tree (receiptDirectory :: dataRoot)) ∧
      ("rollback" :: dataRoot ∈ family ∨ Clearable tree ("rollback" :: dataRoot)) ∧
      ("bin" :: dataRoot ∈ family ∨ tree.kindAt ("bin" :: dataRoot) = none ∨
        (tree.kindAt ("bin" :: dataRoot) = some .directory ∧
          ∀ name, tree.kindAt (name :: "bin" :: dataRoot) ≠ none →
            name :: "bin" :: dataRoot ∈ family ∨ (name ∈ legacyProgramNames ∧
              tree.kindAt (name :: "bin" :: dataRoot) = some .file))) ∧
      ∀ name, tree.kindAt (name :: dataRoot) ≠ none →
        name :: dataRoot ∈ family ∨ name ∈ fileNames hasTestMarker ∨ name ∈ folderNames ∨
          name = "bin") ∧
      (tree.kindAt dataRoot = none ∨ tree.kindAt dataRoot = some .directory) ↔
    Resolved reading tree dataRoot ∧ Purgeable family hasTestMarker dataRoot tree := by
  have named : ∀ names : List String, (∀ path ∈ names.map (· :: dataRoot), Plain tree path) ↔
      ∀ name ∈ names, Plain tree (name :: dataRoot) := fun names => List.forall_mem_map
  simp only [named]
  constructor
  · intro all
    obtain ⟨⟨database, ⟨resolved, configured⟩, configuration, sidecars, uiState, logs, archives,
      receipts, rollback, programs, entries⟩, root⟩ := all
    refine ⟨resolved, root, configured, ?_, ?_, programs, entries⟩
    · unfold fileNames
      simp only [List.forall_mem_append]
      exact ⟨⟨⟨database, configuration⟩, sidecars⟩, uiState⟩
    · unfold folderNames
      simp only [List.forall_mem_cons, List.not_mem_nil, false_imp_iff, implies_true, and_true]
      exact ⟨logs, archives, receipts, rollback⟩
  · intro all
    obtain ⟨resolved, root, configured, files, folders, programs, entries⟩ := all
    unfold fileNames at files
    unfold folderNames at folders
    simp only [List.forall_mem_append] at files
    simp only [List.forall_mem_cons, List.not_mem_nil, false_imp_iff, implies_true, and_true]
      at folders
    exact ⟨⟨files.1.1.1, ⟨resolved, configured⟩, files.1.1.2, files.1.2, files.2, folders.1,
      folders.2.1, folders.2.2.1, folders.2.2.2, programs, entries⟩, root⟩

theorem root_removed_iff {rootFaults : IoFaults} (faultless : rootFaults.Faultless)
    {now : FileTree} (there : now.kindAt dataRoot = none ∨ now.kindAt dataRoot = some .directory)
    (incomplete : Bool) :
    (incomplete || (purgeRootDirectory rootFaults now dataRoot incomplete).2.outcome ==
        .needsRetry) = false ↔
      incomplete = false ∧ ∀ name, now.kindAt (name :: dataRoot) = none := by
  cases incomplete with
  | true => simp
  | false =>
      rw [Bool.false_or, eq_self_iff_true, true_and]
      unfold purgeRootDirectory
      rw [if_neg Bool.false_ne_true]
      rcases there with absent | directory
      · have missing : rootFaults.removeDir now dataRoot = (now, .error .notFound) := by
          unfold IoFaults.removeDir
          rw [faultless, absent]
        rw [missing]
        refine iff_of_true rfl fun name => ?_
        by_contra present
        exact FileTree.present_above present (List.suffix_cons name dataRoot) absent
      · rw [← faultless.remove_dir now directory]
        rcases answer : rootFaults.removeDir now dataRoot with ⟨after, result⟩
        cases result with
        | ok => exact iff_of_true rfl rfl
        | error error =>
            cases error with
            | notFound =>
                exfalso
                unfold IoFaults.removeDir at answer
                rw [faultless, directory] at answer
                dsimp only at answer
                split at answer <;> cases answer
            | fault fault =>
                refine iff_of_false ?_ ?_
                · simp [classReceipt, ReceiptClass.withErrorCategory, ReceiptClass.withCount,
                    ReceiptClass.new]
                · simp

variable (hasTestMarker dataRoot)

/-- The classes of a faultless purge are all closed, and the root empty, exactly on a purgeable
root. -/
theorem classes_complete_iff (faultless : ∀ className, (faults className).Faultless)
    (there : tree.kindAt dataRoot = none ∨ tree.kindAt dataRoot = some .directory) :
    ((purgeClasses faults reading hasTestMarker dataRoot tree).2.any (·.outcome.isOpen) = false ∧
        ∀ name, (purgeClasses faults reading hasTestMarker dataRoot tree).1.kindAt
          (name :: dataRoot) = none) ↔
      Resolved reading tree dataRoot ∧
        Purgeable (configuredFamily reading tree dataRoot) hasTestMarker dataRoot tree := by
  have run := purge_classes_run hasTestMarker dataRoot faults reading tree
  have thereAfter : (purgeClasses faults reading hasTestMarker dataRoot tree).1.kindAt dataRoot =
      none ∨ (purgeClasses faults reading hasTestMarker dataRoot tree).1.kindAt dataRoot =
        some .directory := there.imp run.loses.stays_gone run.root
  have closed_files : ∀ (faults : IoFaults) (tree : FileTree) (className : String)
      (names : List String),
      (purgeFiles faults tree dataRoot className names).2.outcome.isOpen = false ↔
        (purgeFiles faults tree dataRoot className names).2.outcome = .removed :=
    fun faults tree className names => purge_paths_open faults _ className tree
  rw [← purgeable_iff, and_iff_left there]
  unfold purgeClasses at thereAfter ⊢
  dsimp only at thereAfter ⊢
  simp only [List.any_cons, List.any_nil, Bool.or_false, Bool.or_eq_false_iff, closed_files,
    purge_configured_open, purge_configuration_open, purge_directory_open, purge_legacy_open,
    unknown_receipt_closed]
  generalize database : purgeFiles (faults "database") tree dataRoot "database" databaseNames =
    first at thereAfter ⊢
  generalize configured : purgeConfiguredDatabase (faults "configured_database") reading first.1
    dataRoot = second at thereAfter ⊢
  generalize configuration : purgeConfiguration (faults "configuration_and_staging") second.1
    dataRoot hasTestMarker second.2.outcome.isOpen = third at thereAfter ⊢
  generalize sidecars : purgeFiles (faults "sidecars_and_staging") third.1 dataRoot
    "sidecars_and_staging" sidecarNames = fourth at thereAfter ⊢
  generalize uiState : purgeFiles (faults "ui_state") fourth.1 dataRoot "ui_state" uiStateNames =
    fifth at thereAfter ⊢
  generalize logs : purgeDirectory (faults "logs") fifth.1 dataRoot "logs" "logs" = sixth
    at thereAfter ⊢
  generalize archives : purgeDirectory (faults "archives") sixth.1 dataRoot "archives"
    "archives" = seventh at thereAfter ⊢
  generalize receipts : purgeDirectory (faults "privacy_operation_receipts") seventh.1 dataRoot
    "privacy_operation_receipts" receiptDirectory = eighth at thereAfter ⊢
  generalize rollback : purgeDirectory (faults "rollback_sensitive") eighth.1 dataRoot
    "rollback_sensitive" "rollback" = ninth at thereAfter ⊢
  generalize legacy : purgeLegacyProgramFiles (faults "legacy_program_files") ninth.1 dataRoot =
    tenth at thereAfter ⊢
  have chain := files_complete_iff faults reading tree faultless database configured
    configuration sidecars uiState fun stage =>
      folders_complete_iff faults tree faultless
        ⟨stage.cleared.congr fun path => by simp, stage.plain⟩ logs archives receipts rollback
        legacy
  refine Iff.trans ?_ chain
  constructor
  · intro all
    obtain ⟨⟨d1, d2, d3, d4, d5, d6, d7, d8, d9, d10, _, _, bin⟩, empty⟩ := all
    exact ⟨d1, d2, d3, d4, d5, d6, d7, d8, d9, ⟨d10, bin⟩, empty⟩
  · intro all
    obtain ⟨d1, d2, d3, d4, d5, d6, d7, d8, d9, ⟨d10, bin⟩, empty⟩ := all
    have nothing : countUnknownDirectoryEntries (faults "unknown_entries") tenth.1 dataRoot
        knownNames = .ok 0 := (unknown_faultless (faultless _) thereAfter).mpr
      fun name present => absurd (empty name) present
    exact ⟨⟨d1, d2, d3, d4, d5, d6, d7, d8, d9, d10, rfl, nothing, bin⟩, empty⟩

theorem purge_there_completes_iff (faultless : ∀ className, (faults className).Faultless)
    (there : tree.kindAt dataRoot = none ∨ tree.kindAt dataRoot = some .directory) :
    (purgeDataRoot faults reading hasTestMarker dataRoot tree).2.status = .completed ↔
      Resolved reading tree dataRoot ∧
        Purgeable (configuredFamily reading tree dataRoot) hasTestMarker dataRoot tree := by
  have run := purge_classes_run hasTestMarker dataRoot faults reading tree
  have goes := root_removed_iff (faultless "data_root") (there.imp run.loses.stays_gone run.root)
    ((purgeClasses faults reading hasTestMarker dataRoot tree).2.any (·.outcome.isOpen))
  rw [← classes_complete_iff hasTestMarker dataRoot faults reading tree faultless there, ← goes]
  unfold purgeDataRoot
  rw [(faultless "").metadata]
  rcases there with absent | directory
  · rw [absent]
    dsimp only
    split
    · next waits => exact iff_of_false ReceiptStatus.noConfusion (by simp [waits])
    · next done => exact iff_of_true rfl (Bool.eq_false_of_not_eq_true done)
  · rw [directory]
    dsimp only
    split
    · next waits => exact iff_of_false ReceiptStatus.noConfusion (by simp [waits])
    · next done => exact iff_of_true rfl (Bool.eq_false_of_not_eq_true done)

/-- A purge without failures is complete exactly on a purgeable root whose configuration can be
resolved. -/
theorem faultless_purge_completes_iff (faultless : ∀ className, (faults className).Faultless) :
    (purgeDataRoot faults reading hasTestMarker dataRoot tree).2.status = .completed ↔
      Resolved reading tree dataRoot ∧
        Purgeable (configuredFamily reading tree dataRoot) hasTestMarker dataRoot tree := by
  by_cases there : tree.kindAt dataRoot = none ∨ tree.kindAt dataRoot = some .directory
  · exact purge_there_completes_iff hasTestMarker dataRoot faults reading tree faultless there
  · obtain ⟨category, refused⟩ :=
      purge_not_there hasTestMarker dataRoot faults reading tree there
    rw [refused]
    exact iff_of_false (root_failure_incomplete category)
      fun purgeable => there purgeable.2.root

/-- A data root with its database, its configuration, a log and an old program, and the database
that the configuration names elsewhere. -/
private def installed : List (EntryPath × EntryKind) :=
  [([], .directory), (["data"], .directory), (["gilbreth.db", "data"], .file),
    (["config.toml", "data"], .file), (["logs", "data"], .directory),
    (["today.log", "logs", "data"], .file), (["bin", "data"], .directory),
    (["gilbreth-app.exe", "bin", "data"], .file), (["stores"], .directory),
    (["activity.db", "stores"], .file), (["activity.db-wal", "stores"], .file)]

private def rootWith (names : List String) (distinct : ((installed ++
    names.map fun name => ([name, "data"], EntryKind.file)).map Prod.fst).Nodup) : FileTree where
  entries := ⟨installed ++ names.map fun name => ([name, "data"], .file), distinct⟩
  rooted := by
    have standing : ∀ entry ∈ installed,
        entry.1 = [] ∨ (entry.1.tail, EntryKind.directory) ∈ installed := by decide
    intro entry member
    rcases List.mem_append.mp member with old | named
    · exact (standing entry old).imp_right (List.mem_append_left _)
    · obtain ⟨name, _, same⟩ := List.mem_map.mp named
      rw [← same]
      have root : ((["data"], .directory) : EntryPath × EntryKind) ∈ installed := by decide
      exact Or.inr (List.mem_append_left _ root)

private abbrev namedElsewhere : ConfigReading :=
  .parsed (some (.absolute ["activity.db", "stores"]))

private def noFaults : String → IoFaults := fun _ => ⟨fun _ _ => none, fun _ => false⟩

theorem faultless_purge_completes_iff_small :
    Resolved namedElsewhere (rootWith [] (by decide)) ["data"] ∧
      Purgeable (configuredFamily namedElsewhere (rootWith [] (by decide)) ["data"]) false ["data"]
        (rootWith [] (by decide)) :=
  (faultless_purge_completes_iff false ["data"] noFaults namedElsewhere (rootWith [] (by decide))
    fun _ _ _ => rfl).mp (by decide)

/-- The name under which `write_status` of the hotkey writes first is in no class, so that a crash
there leaves a root that no purge ends. -/
example : (purgeDataRoot noFaults namedElsewhere false ["data"]
    (rootWith ["hotkey-status.tmp"] (by decide))).2.status = .incomplete := by decide

end Completion

section Retry

variable {family : List EntryPath} {hasTestMarker : Bool} {dataRoot : EntryPath}
  {before after : FileTree} {lost : EntryPath → Prop}

theorem plain_stays (loses : before.Loses after lost) {path : EntryPath}
    (plain : Plain before path) : Plain after path := by
  unfold Plain at plain ⊢
  rcases loses path with same | gone
  · rwa [same]
  · exact Or.inl gone.1

theorem clearable_stays (loses : before.Loses after lost) {path : EntryPath}
    (clearable : Clearable before path) : Clearable after path := by
  rcases clearable with absent | ⟨directory, linkless⟩
  · exact Or.inl (loses.stays_gone absent)
  · rcases loses path with same | gone
    · refine Or.inr ⟨same.trans directory, fun entry below link => ?_⟩
      exact linkless entry below (loses.kind_before link)
    · exact Or.inl gone.1

/-- What a purge loses leaves the root purgeable, when the database that is no longer named is
gone. -/
theorem Purgeable.after_loss (purgeable : Purgeable family hasTestMarker dataRoot before)
    (loses : before.Loses after lost) {later : List EntryPath}
    (still : ∀ path ∈ later, path ∈ family)
    (gone : ∀ path ∈ family, path ∈ later ∨ after.kindAt path = none) :
    Purgeable later hasTestMarker dataRoot after := by
  have earlier : ∀ {path}, after.kindAt path ≠ none → before.kindAt path ≠ none :=
    fun present absent => present (loses.stays_gone absent)
  constructor
  · rcases purgeable.root with absent | directory
    · exact Or.inl (loses.stays_gone absent)
    · exact (loses dataRoot).symm.imp And.left fun same => same.trans directory
  · exact fun path member => plain_stays loses (purgeable.configured path (still path member))
  · exact fun name listed => plain_stays loses (purgeable.files name listed)
  · intro name listed
    rcases purgeable.folders name listed with member | clearable
    · exact (gone _ member).imp_right Or.inl
    · exact Or.inr (clearable_stays loses clearable)
  · rcases purgeable.programs with member | absent | ⟨directory, programs⟩
    · exact (gone _ member).imp_right Or.inl
    · exact Or.inr (Or.inl (loses.stays_gone absent))
    · right
      refine (loses _).symm.imp And.left fun same => ⟨same.trans directory, fun name present => ?_⟩
      rcases programs name (earlier present) with member | ⟨listed, file⟩
      · exact Or.inl ((gone _ member).resolve_right present)
      · have kept := (loses (name :: "bin" :: dataRoot)).resolve_right
          fun taken => present taken.1
        exact Or.inr ⟨listed, kept.trans file⟩
  · intro name present
    rcases purgeable.entries name (earlier present) with member | listed
    · exact Or.inl ((gone _ member).resolve_right present)
    · exact Or.inr listed

variable (reading : ConfigReading)

theorem resolved_stays (loses : before.Loses after lost)
    (resolved : Resolved reading before dataRoot) : Resolved reading after dataRoot := by
  rcases loses ("config.toml" :: dataRoot) with same | gone
  · unfold Resolved at resolved ⊢
    rwa [read_configuration_congr reading same]
  · unfold Resolved readConfiguration
    rw [if_pos gone.1]
    simp

theorem family_of_missing (absent : after.kindAt ("config.toml" :: dataRoot) = none) :
    configuredFamily reading after dataRoot = [] := by
  unfold configuredFamily readConfiguration
  rw [if_pos absent]

/-- A later purge can end what the earlier ones began. -/
structure Finishable (hasTestMarker : Bool) (dataRoot : EntryPath) (start tree : FileTree) :
    Prop where
  resolved : Resolved reading tree dataRoot
  purgeable : Purgeable (configuredFamily reading tree dataRoot) hasTestMarker dataRoot tree
  still : ∀ path ∈ configuredFamily reading tree dataRoot,
    path ∈ configuredFamily reading start dataRoot
  gone : ∀ path ∈ configuredFamily reading start dataRoot,
    path ∈ configuredFamily reading tree dataRoot ∨ tree.kindAt path = none

theorem Finishable.step {start tree : FileTree}
    (finishable : Finishable reading hasTestMarker dataRoot start tree)
    (other : "config.toml" :: dataRoot ∉ configuredFamily reading start dataRoot)
    (faults : String → IoFaults) :
    Finishable reading hasTestMarker dataRoot start
      (purgeDataRoot faults reading hasTestMarker dataRoot tree).1 := by
  have honest := purge_there_honest hasTestMarker dataRoot faults reading tree
    finishable.purgeable.root
  generalize purgeDataRoot faults reading hasTestMarker dataRoot tree = outcome at honest ⊢
  have loses := honest.bounded
  by_cases same : outcome.1.kindAt ("config.toml" :: dataRoot) =
      tree.kindAt ("config.toml" :: dataRoot)
  · have family : configuredFamily reading outcome.1 dataRoot =
        configuredFamily reading tree dataRoot := by
      unfold configuredFamily
      rw [read_configuration_congr reading same]
    constructor
    · exact resolved_stays reading loses finishable.resolved
    · rw [family]
      exact finishable.purgeable.after_loss loses (fun path member => member)
        fun path member => Or.inl member
    · rw [family]
      exact finishable.still
    · rw [family]
      exact fun path member => (finishable.gone path member).imp_right loses.stays_gone
  · have missing := (loses ("config.toml" :: dataRoot)).resolve_left same
    have gone := (honest.named fun member => other (finishable.still _ member)).resolve_left same
    have family := family_of_missing reading missing.1
    constructor
    · exact resolved_stays reading loses finishable.resolved
    · rw [family]
      exact finishable.purgeable.after_loss loses
        (fun path member => absurd member List.not_mem_nil)
        fun path member => Or.inr (gone path member)
    · rw [family]
      exact fun path member => absurd member List.not_mem_nil
    · intro path member
      right
      rcases finishable.gone path member with still | earlier
      · exact gone path still
      · exact loses.stays_gone earlier

/-- The tree after some purges, each with its failures. -/
def afterPurges (reading : ConfigReading) (hasTestMarker : Bool) (dataRoot : EntryPath)
    (tree : FileTree) (attempts : List (String → IoFaults)) : FileTree :=
  attempts.foldl (fun tree faults =>
    (purgeDataRoot faults reading hasTestMarker dataRoot tree).1) tree

theorem finishable_after_purges {start tree : FileTree}
    (finishable : Finishable reading hasTestMarker dataRoot start tree)
    (other : "config.toml" :: dataRoot ∉ configuredFamily reading start dataRoot)
    (attempts : List (String → IoFaults)) :
    Finishable reading hasTestMarker dataRoot start
      (afterPurges reading hasTestMarker dataRoot tree attempts) := by
  induction attempts generalizing tree with
  | nil => exact finishable
  | cons faults attempts induction => exact induction (finishable.step reading other faults)

variable (hasTestMarker dataRoot) (tree : FileTree)

/-- However often a purge failed part of the way, one without failures ends it: the root is gone
and with it the database that the configuration named at the start. -/
theorem failed_purges_can_be_ended (attempts : List (String → IoFaults))
    (faults : String → IoFaults) (faultless : ∀ className, (faults className).Faultless)
    (resolved : Resolved reading tree dataRoot)
    (purgeable : Purgeable (configuredFamily reading tree dataRoot) hasTestMarker dataRoot tree)
    (other : "config.toml" :: dataRoot ∉ configuredFamily reading tree dataRoot) :
    (purgeDataRoot faults reading hasTestMarker dataRoot
        (afterPurges reading hasTestMarker dataRoot tree attempts)).2.status = .completed ∧
      (∀ path, dataRoot <:+ path →
        (afterPurges reading hasTestMarker dataRoot tree (attempts ++ [faults])).kindAt path =
          none) ∧
      ∀ path ∈ configuredFamily reading tree dataRoot,
        (afterPurges reading hasTestMarker dataRoot tree (attempts ++ [faults])).kindAt path =
          none := by
  have start : Finishable reading hasTestMarker dataRoot tree tree :=
    ⟨resolved, purgeable, fun path member => member, fun path => Or.inl⟩
  have finishable := finishable_after_purges reading start other attempts
  have ending : afterPurges reading hasTestMarker dataRoot tree (attempts ++ [faults]) =
      (purgeDataRoot faults reading hasTestMarker dataRoot
        (afterPurges reading hasTestMarker dataRoot tree attempts)).1 := List.foldl_concat ..
  rw [ending]
  have completed := (purge_there_completes_iff hasTestMarker dataRoot faults reading
    (afterPurges reading hasTestMarker dataRoot tree attempts) faultless
      finishable.purgeable.root).mpr ⟨finishable.resolved, finishable.purgeable⟩
  have honest := purge_there_honest hasTestMarker dataRoot faults reading
    (afterPurges reading hasTestMarker dataRoot tree attempts) finishable.purgeable.root
  refine ⟨completed, (honest.completed completed).1, fun path member => ?_⟩
  rcases finishable.gone path member with still | gone
  · exact (honest.completed completed).2 path still
  · exact honest.bounded.stays_gone gone

/-- A log is held, and the configuration cannot always be read. -/
private def heldLog (unread : Bool) : String → IoFaults := fun _ =>
  ⟨fun operation _ => if operation = .removeTree then some .locked
    else if unread ∧ operation = .readFile then some .accessDenied else none, fun _ => true⟩

/-- The first purge leaves the database elsewhere and its name, the second takes both. -/
theorem failed_purges_can_be_ended_held :
    (afterPurges namedElsewhere false ["data"] (rootWith [] (by decide)) [heldLog true]).kindAt
        ["activity.db", "stores"] = some .file ∧
      (afterPurges namedElsewhere false ["data"] (rootWith [] (by decide))
        [heldLog true, heldLog false]).kindAt ["config.toml", "data"] = none ∧
      (purgeDataRoot noFaults namedElsewhere false ["data"] (afterPurges namedElsewhere false
        ["data"] (rootWith [] (by decide)) [heldLog true, heldLog false])).2.status =
          .completed := by
  have small := (purge_there_completes_iff false ["data"] noFaults namedElsewhere
    (rootWith [] (by decide)) (fun _ _ _ => rfl) (Or.inr (by decide))).mp (by decide)
  exact ⟨by decide, by decide, (failed_purges_can_be_ended false ["data"] namedElsewhere
    (rootWith [] (by decide)) [heldLog true, heldLog false] noFaults (fun _ _ _ => rfl) small.1
      small.2 (by decide)).1⟩

end Retry

end Gilbreth.App
