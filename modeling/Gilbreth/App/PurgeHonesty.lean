import Mathlib
import Gilbreth.App.UninstallPurge

/-!
# What the uninstall purge removes and reports

Whatever fails, the purge loses nothing but entries of its classes, a class that it reports as
removed has no entry left, the configuration outlives the database that it names, and the purge is
complete exactly when the root is gone.
-/

set_option autoImplicit false

namespace Gilbreth.App

section Receipts

theorem failed_receipt_open (className : String) (itemCount : Nat) (category : String) :
    (failedReceipt className itemCount category).outcome.isOpen = true := by
  unfold failedReceipt
  split <;> rfl

theorem ne_removed_of_open {outcome : ReceiptOutcome}
    (waiting : outcome.isOpen = true) : outcome ≠ .removed := by
  intro same
  rw [same] at waiting
  cases waiting

theorem PurgeTally.receipt_removed (tally : PurgeTally) (className : String) :
    (tally.receipt className).outcome = .removed ↔ tally.category = none := by
  unfold receipt
  cases tally.category with
  | none => exact iff_of_true rfl rfl
  | some category =>
      exact iff_of_false (ne_removed_of_open (failed_receipt_open _ _ _)) (Option.some_ne_none _)

theorem PurgeTally.receipt_open (tally : PurgeTally) (className : String) :
    (tally.receipt className).outcome.isOpen = false ↔
      (tally.receipt className).outcome = .removed := by
  unfold receipt
  cases tally.category with
  | none => exact iff_of_true rfl rfl
  | some category =>
      have waiting := failed_receipt_open className tally.count category
      exact iff_of_false (by rw [waiting]; decide) (ne_removed_of_open waiting)

theorem PurgeTally.fail_category (tally : PurgeTally) (category : String) :
    (tally.fail category).category ≠ none := Option.some_ne_none _

end Receipts

section Files

def Plain (tree : FileTree) (path : EntryPath) : Prop :=
  tree.kindAt path = none ∨ tree.kindAt path = some .file

theorem plain_after_loss {before after : FileTree} {lost : EntryPath → Prop}
    (loses : before.Loses after lost)
    (files : ∀ path, lost path → before.kindAt path = some .file) (path : EntryPath) :
    Plain after path ↔ Plain before path := by
  unfold Plain
  rcases loses path with same | gone
  · rw [same]
  · exact iff_of_true (Or.inl gone.1) (Or.inr (files path gone.2))

variable (faults : IoFaults) (tree : FileTree) (tally : PurgeTally) (path : EntryPath)

theorem purge_file_loses :
    tree.Loses (purgeFile faults (tree, tally) path).1
      fun gone => gone = path ∧ tree.kindAt gone = some .file := by
  unfold purgeFile
  dsimp only
  split
  · exact .nothing tree
  · exact .nothing tree
  · next kind found =>
    split
    · next file =>
      have known := IoFaults.kind_of_metadata found
      rw [file] at known
      have loses : tree.Loses (faults.removeFile tree path).1
          fun gone => gone = path ∧ tree.kindAt gone = some .file :=
        faults.remove_file_loses.mono fun gone same => ⟨same, by rw [same, known]⟩
      split
      · next after result => rwa [result] at loses
      · next after error result => rwa [result] at loses
    · exact .nothing tree

theorem purge_file_clears
    (clean : (purgeFile faults (tree, tally) path).2.category = none) :
    tally.category = none ∧ (purgeFile faults (tree, tally) path).1.kindAt path = none := by
  unfold purgeFile at clean ⊢
  dsimp only at clean ⊢
  split at clean
  · next missing => exact ⟨clean, IoFaults.absent_of_metadata missing⟩
  · exact absurd clean (tally.fail_category _)
  · next kind found =>
    split at clean
    · next file =>
      rw [if_pos file]
      split at clean
      · next after result =>
        have gone := faults.remove_file_ok (by rw [result])
        rw [result] at gone
        exact ⟨clean, gone⟩
      · exact absurd clean (PurgeTally.fail_category _ _)
    · exact absurd clean (PurgeTally.fail_category _ _)

theorem purge_file_faultless (faultless : faults.Faultless) :
    (purgeFile faults (tree, tally) path).2.category = none ↔
      tally.category = none ∧ Plain tree path := by
  unfold purgeFile Plain
  dsimp only
  rw [faultless.metadata]
  cases entry : tree.kindAt path with
  | none => simp
  | some kind =>
      cases kind with
      | file =>
          have removes := faultless.remove_file tree entry
          rcases result : faults.removeFile tree path with ⟨after, answer⟩
          rw [result] at removes
          cases removes
          simp
      | link => simp [PurgeTally.fail]
      | directory => simp [PurgeTally.fail]

end Files

section Paths

variable (faults : IoFaults) (paths : List EntryPath)

theorem purge_fold_loses (tree : FileTree) (tally : PurgeTally) :
    tree.Loses (paths.foldl (purgeFile faults) (tree, tally)).1
      fun gone => gone ∈ paths ∧ tree.kindAt gone = some .file := by
  induction paths generalizing tree tally with
  | nil => exact .nothing tree
  | cons path paths induction =>
      have first := purge_file_loses faults tree tally path
      have rest := induction (purgeFile faults (tree, tally) path).1
        (purgeFile faults (tree, tally) path).2
      apply FileTree.Loses.trans
        (first.mono fun gone lost => ⟨lost.1 ▸ List.mem_cons_self, lost.2⟩)
      exact rest.mono fun gone lost =>
        ⟨List.mem_cons_of_mem _ lost.1, first.kind_before lost.2⟩

theorem purge_fold_clears (tree : FileTree) (tally : PurgeTally)
    (clean : (paths.foldl (purgeFile faults) (tree, tally)).2.category = none) :
    tally.category = none ∧
      ∀ path ∈ paths, (paths.foldl (purgeFile faults) (tree, tally)).1.kindAt path = none := by
  induction paths generalizing tree tally with
  | nil => exact ⟨clean, fun path member => absurd member List.not_mem_nil⟩
  | cons path paths induction =>
      obtain ⟨still, rest⟩ := induction (purgeFile faults (tree, tally) path).1
        (purgeFile faults (tree, tally) path).2 clean
      obtain ⟨before, gone⟩ := purge_file_clears faults tree tally path still
      refine ⟨before, fun other member => ?_⟩
      rcases List.mem_cons.mp member with same | later
      · rw [same]
        exact (purge_fold_loses faults paths _ _).stays_gone gone
      · exact rest other later

theorem purge_fold_faultless (faultless : faults.Faultless) (tree : FileTree)
    (tally : PurgeTally) :
    (paths.foldl (purgeFile faults) (tree, tally)).2.category = none ↔
      tally.category = none ∧ ∀ path ∈ paths, Plain tree path := by
  induction paths generalizing tree tally with
  | nil => simp
  | cons path paths induction =>
      have loses := purge_file_loses faults tree tally path
      rw [List.foldl_cons, List.forall_mem_cons, ← and_assoc,
        ← purge_file_faultless faults tree tally path faultless]
      have rest := induction (purgeFile faults (tree, tally) path).1
        (purgeFile faults (tree, tally) path).2
      refine rest.trans (and_congr_right fun _ => forall₂_congr fun other _ => ?_)
      exact plain_after_loss loses (fun gone lost => lost.2) other

variable (className : String) (tree : FileTree)

theorem purge_paths_loses :
    tree.Loses (purgePaths faults tree className paths).1
      fun gone => gone ∈ paths ∧ tree.kindAt gone = some .file :=
  purge_fold_loses faults paths tree .start

theorem purge_paths_clears
    (done : (purgePaths faults tree className paths).2.outcome = .removed) :
    ∀ path ∈ paths, (purgePaths faults tree className paths).1.kindAt path = none :=
  (purge_fold_clears faults paths tree .start
    ((PurgeTally.receipt_removed _ className).mp done)).2

theorem purge_paths_open :
    (purgePaths faults tree className paths).2.outcome.isOpen = false ↔
      (purgePaths faults tree className paths).2.outcome = .removed :=
  PurgeTally.receipt_open _ className

theorem purge_paths_faultless (faultless : faults.Faultless) :
    (purgePaths faults tree className paths).2.outcome = .removed ↔
      ∀ path ∈ paths, Plain tree path :=
  (PurgeTally.receipt_removed _ className).trans
    ((purge_fold_faultless faults paths faultless tree .start).trans (and_iff_right rfl))

end Paths

section Trees

def Linkless (tree : FileTree) (path : EntryPath) : Prop :=
  ∀ entry, path <:+ entry → tree.kindAt entry ≠ some .link

theorem fold_isSome {names : List String} {step : Nat → String → Option Nat}
    {good : String → Prop} (steps : ∀ count, ∀ name ∈ names, (step count name).isSome ↔ good name)
    (start : Nat) : (names.foldlM step start).isSome ↔ ∀ name ∈ names, good name := by
  induction names generalizing start with
  | nil => simp
  | cons name names induction =>
      have here := steps start name List.mem_cons_self
      rw [List.foldlM_cons, List.forall_mem_cons, ← here]
      cases taken : step start name with
      | none => simp
      | some count =>
          have rest := induction (fun count name member =>
            steps count name (List.mem_cons_of_mem _ member)) count
          simpa using rest

theorem linkless_children {tree : FileTree} {path : EntryPath}
    (directory : tree.kindAt path = some .directory) :
    Linkless tree path ↔ ∀ name ∈ tree.names path, Linkless tree (name :: path) := by
  constructor
  · intro linkless name _ entry below
    exact linkless entry ((List.suffix_cons name path).trans below)
  · intro children entry below link
    have present : tree.kindAt entry ≠ none := by
      rw [link]
      exact Option.some_ne_none _
    by_cases same : path = entry
    · rw [← same, directory] at link
      cases link
    · obtain ⟨name, under⟩ := FileTree.child_above below same
      have listed := FileTree.mem_names.mpr (FileTree.present_above present under)
      exact children name listed entry under link

/-- Enough fuel counts every tree without links. The induction is on the fuel, which covers what
is left of the depth. -/
theorem count_tree_entries_faultless {faults : IoFaults} (faultless : faults.Faultless)
    (tree : FileTree) (fuel : Nat) (path : EntryPath)
    (directory : tree.kindAt path = some .directory)
    (enough : tree.depth < fuel + path.length) :
    (countTreeEntries faults tree fuel path).isSome ↔ Linkless tree path := by
  induction fuel generalizing path with
  | zero =>
      have present : tree.kindAt path ≠ none := by
        rw [directory]
        exact Option.some_ne_none _
      have short := FileTree.length_le_depth present
      omega
  | succ fuel induction =>
      unfold countTreeEntries
      rw [faultless.read_dir tree directory, linkless_children directory]
      apply fold_isSome
      intro count name member
      have present := FileTree.mem_names.mp member
      obtain ⟨kind, entry⟩ := Option.ne_none_iff_exists'.mp present
      rw [faultless, if_neg (not_not.mpr rfl), faultless.metadata, entry]
      cases kind with
      | link => simpa using fun linkless : Linkless tree (name :: path) =>
          linkless _ List.suffix_rfl entry
      | file =>
          refine iff_of_true rfl fun other below link => ?_
          by_cases same : name :: path = other
          · rw [← same, entry] at link
            cases link
          · rw [FileTree.kind_at_below_none (by rw [entry]; decide) below same] at link
            cases link
      | directory =>
          rw [← induction (name :: path) entry (by rw [List.length_cons]; omega)]
          simp

variable (faults : IoFaults) (tree : FileTree) (root : EntryPath) (className name : String)

theorem purge_directory_loses :
    tree.Loses (purgeDirectory faults tree root className name).1 (name :: root <:+ ·) := by
  have loses : tree.Loses (faults.removeDirAll tree (name :: root)).1 (name :: root <:+ ·) :=
    IoFaults.remove_dir_all_loses
  unfold purgeDirectory
  dsimp only
  split
  · exact .nothing tree
  · exact .nothing tree
  · exact .nothing tree
  · exact .nothing tree
  · split
    · exact .nothing tree
    · split
      · next after result => rwa [result] at loses
      · next after error result => rwa [result] at loses

theorem purge_directory_clears
    (done : (purgeDirectory faults tree root className name).2.outcome = .removed) :
    ∀ path, name :: root <:+ path →
      (purgeDirectory faults tree root className name).1.kindAt path = none := by
  unfold purgeDirectory at done ⊢
  dsimp only at done ⊢
  split at done
  · next missing =>
    have gone := IoFaults.absent_of_metadata missing
    intro path below
    by_contra present
    exact FileTree.present_above present below gone
  · cases done
  · cases done
  · cases done
  · split at done
    · cases done
    · split at done
      · next after result =>
        intro path below
        have gone := faults.remove_dir_all_ok (by rw [result]) path below
        rwa [result] at gone
      · exact absurd done (ne_removed_of_open (failed_receipt_open _ _ _))

theorem purge_directory_open :
    (purgeDirectory faults tree root className name).2.outcome.isOpen = false ↔
      (purgeDirectory faults tree root className name).2.outcome = .removed := by
  unfold purgeDirectory
  dsimp only
  split
  · exact iff_of_true rfl rfl
  · exact iff_of_false Bool.noConfusion ReceiptOutcome.noConfusion
  · exact iff_of_false Bool.noConfusion ReceiptOutcome.noConfusion
  · exact iff_of_false Bool.noConfusion ReceiptOutcome.noConfusion
  · split
    · exact iff_of_false Bool.noConfusion ReceiptOutcome.noConfusion
    · split
      · exact iff_of_true rfl rfl
      · have waiting := failed_receipt_open className
        exact iff_of_false (by rw [waiting]; decide) (ne_removed_of_open (waiting _ _))

/-- A directory that is there and whose tree holds no link, or nothing. -/
def Clearable (tree : FileTree) (path : EntryPath) : Prop :=
  tree.kindAt path = none ∨ (tree.kindAt path = some .directory ∧ Linkless tree path)

theorem purge_directory_faultless (faultless : faults.Faultless) :
    (purgeDirectory faults tree root className name).2.outcome = .removed ↔
      Clearable tree (name :: root) := by
  unfold purgeDirectory Clearable
  dsimp only
  rw [faultless.metadata]
  cases entry : tree.kindAt (name :: root) with
  | none => exact iff_of_true rfl (Or.inl rfl)
  | some kind =>
      cases kind with
      | file => simp [classReceipt, ReceiptClass.withErrorCategory, ReceiptClass.withCount,
          ReceiptClass.new]
      | link => simp [classReceipt, ReceiptClass.withErrorCategory, ReceiptClass.withCount,
          ReceiptClass.new]
      | directory =>
          have counted := count_tree_entries_faultless faultless tree (tree.depth + 1)
            (name :: root) entry (by omega)
          have removes := faultless.remove_dir_all tree entry
          rcases result : faults.removeDirAll tree (name :: root) with ⟨after, answer⟩
          rw [result] at removes
          cases removes
          cases count : countTreeEntries faults tree (tree.depth + 1) (name :: root) with
          | none =>
              rw [count] at counted
              have linked : ¬Linkless tree (name :: root) := fun linkless => by
                simpa using counted.mpr linkless
              simp [linked, classReceipt, ReceiptClass.withErrorCategory, ReceiptClass.withCount,
                ReceiptClass.new]
          | some count =>
              rw [count] at counted
              have linkless := counted.mp rfl
              exact iff_of_true rfl (Or.inr ⟨rfl, linkless⟩)

end Trees

section Configured

/-- The files of the database that the configuration names, unless it is the root's own. -/
def configuredFamily (reading : ConfigReading) (tree : FileTree) (dataRoot : EntryPath) :
    List EntryPath :=
  match readConfiguration reading tree dataRoot with
  | .notFound | .unresolved => []
  | .parsed dbPath =>
      match configuredDatabasePath dbPath dataRoot with
      | .relative => []
      | .absolute configured =>
          if configured = "gilbreth.db" :: dataRoot then [] else sqliteFileFamily configured

/-- The configuration can be read and does not name a relative path. -/
def Resolved (reading : ConfigReading) (tree : FileTree) (dataRoot : EntryPath) : Prop :=
  readConfiguration reading tree dataRoot ≠ .unresolved ∧
    ∀ dbPath, readConfiguration reading tree dataRoot = .parsed dbPath →
      configuredDatabasePath dbPath dataRoot ≠ .relative

variable (faults : IoFaults) (reading : ConfigReading) (tree : FileTree) (dataRoot : EntryPath)

theorem purge_configured_loses :
    tree.Loses (purgeConfiguredDatabase faults reading tree dataRoot).1
      fun gone => gone ∈ configuredFamily reading tree dataRoot ∧
        tree.kindAt gone = some .file := by
  unfold purgeConfiguredDatabase configuredFamily
  split
  · exact .nothing tree
  · cases readConfiguration reading tree dataRoot with
    | notFound => exact .nothing tree
    | unresolved => exact .nothing tree
    | parsed dbPath =>
        dsimp only
        cases configuredDatabasePath dbPath dataRoot with
        | relative => exact .nothing tree
        | absolute configured =>
            dsimp only
            split
            · exact .nothing tree
            · exact purge_paths_loses faults _ _ tree

theorem purge_configured_clears
    (done : (purgeConfiguredDatabase faults reading tree dataRoot).2.outcome = .removed) :
    ∀ path ∈ configuredFamily reading tree dataRoot,
      (purgeConfiguredDatabase faults reading tree dataRoot).1.kindAt path = none := by
  unfold purgeConfiguredDatabase at done ⊢
  unfold configuredFamily
  cases readable : faults.failure .readFile ("config.toml" :: dataRoot) with
  | some fault =>
      rw [readable] at done
      cases done
  | none =>
      rw [readable] at done
      cases read : readConfiguration reading tree dataRoot with
      | notFound => simp
      | unresolved => simp
      | parsed dbPath =>
          rw [read] at done
          dsimp only at done ⊢
          cases named : configuredDatabasePath dbPath dataRoot with
          | relative => simp
          | absolute configured =>
              rw [named] at done
              dsimp only at done ⊢
              split at done
              · next own => simp [own]
              · next other =>
                rw [if_neg other, if_neg other]
                exact purge_paths_clears faults _ _ tree done

theorem purge_configured_open :
    (purgeConfiguredDatabase faults reading tree dataRoot).2.outcome.isOpen = false ↔
      (purgeConfiguredDatabase faults reading tree dataRoot).2.outcome = .removed := by
  unfold purgeConfiguredDatabase
  split
  · exact iff_of_false Bool.noConfusion ReceiptOutcome.noConfusion
  · split
    · exact iff_of_true rfl rfl
    · exact iff_of_false Bool.noConfusion ReceiptOutcome.noConfusion
    · split
      · exact iff_of_false Bool.noConfusion ReceiptOutcome.noConfusion
      · split
        · exact iff_of_true rfl rfl
        · exact purge_paths_open faults _ _ tree

theorem purge_configured_faultless (faultless : faults.Faultless) :
    (purgeConfiguredDatabase faults reading tree dataRoot).2.outcome = .removed ↔
      Resolved reading tree dataRoot ∧
        ∀ path ∈ configuredFamily reading tree dataRoot, Plain tree path := by
  unfold purgeConfiguredDatabase configuredFamily Resolved
  rw [faultless]
  cases readConfiguration reading tree dataRoot with
  | notFound => simp [removed, classReceipt, ReceiptClass.withCount, ReceiptClass.new]
  | unresolved =>
      simp [classReceipt, ReceiptClass.withErrorCategory, ReceiptClass.withCount,
        ReceiptClass.new]
  | parsed dbPath =>
      dsimp only
      cases named : configuredDatabasePath dbPath dataRoot with
      | relative =>
          simp [named, classReceipt, ReceiptClass.withErrorCategory, ReceiptClass.withCount,
            ReceiptClass.new]
      | absolute configured =>
          dsimp only
          split
          · simp [named, removed, classReceipt, ReceiptClass.withCount, ReceiptClass.new]
          · rw [purge_paths_faultless faults _ _ tree faultless]
            simp [named]

end Configured

section Unknown

variable {faults : IoFaults} {root : EntryPath} {known : List String}

theorem count_unknown_zero {names : List String} {count : Nat}
    (zero : countUnknownEntries faults root known names count = .ok 0) :
    count = 0 ∧ ∀ name ∈ names, name ∈ known := by
  induction names generalizing count with
  | nil =>
      cases zero
      simp
  | cons name names induction =>
      unfold countUnknownEntries at zero
      split at zero
      · cases zero
      · obtain ⟨start, rest⟩ := induction zero
        by_cases listed : name ∈ known
        · rw [if_pos listed] at start
          exact ⟨start, List.forall_mem_cons.mpr ⟨listed, rest⟩⟩
        · rw [if_neg listed] at start
          cases start

theorem count_unknown_faultless (faultless : faults.Faultless) {names : List String}
    (listed : ∀ name ∈ names, name ∈ known) (count : Nat) :
    countUnknownEntries faults root known names count = .ok count := by
  induction names generalizing count with
  | nil => rfl
  | cons name names induction =>
      unfold countUnknownEntries
      rw [faultless, if_pos (listed name List.mem_cons_self)]
      exact induction (fun other member => listed other (List.mem_cons_of_mem _ member)) count

theorem unknown_zero {tree : FileTree}
    (zero : countUnknownDirectoryEntries faults tree root known = .ok 0) :
    ∀ name, tree.kindAt (name :: root) ≠ none → name ∈ known := by
  intro name present
  unfold countUnknownDirectoryEntries at zero
  split at zero
  · next missing =>
    exact absurd (IoFaults.absent_of_read_dir missing)
      (FileTree.present_above present (List.suffix_cons name root))
  · cases zero
  · next names listed =>
    rw [IoFaults.names_of_read_dir listed] at zero
    exact (count_unknown_zero zero).2 name (FileTree.mem_names.mpr present)

theorem unknown_faultless (faultless : faults.Faultless) {tree : FileTree}
    (directory : tree.kindAt root = none ∨ tree.kindAt root = some .directory) :
    countUnknownDirectoryEntries faults tree root known = .ok 0 ↔
      ∀ name, tree.kindAt (name :: root) ≠ none → name ∈ known := by
  refine ⟨unknown_zero, fun listed => ?_⟩
  unfold countUnknownDirectoryEntries
  rcases directory with missing | directory
  · have absent : faults.readDir tree root = .error .notFound := by
      unfold IoFaults.readDir
      rw [faultless, missing]
    rw [absent]
  · rw [faultless.read_dir tree directory]
    exact count_unknown_faultless faultless
      (fun name member => listed name (FileTree.mem_names.mp member)) 0

end Unknown

section Legacy

variable (faults : IoFaults) (tree : FileTree) (dataRoot : EntryPath)

def legacyPaths (dataRoot : EntryPath) : List EntryPath :=
  legacyProgramNames.map (· :: "bin" :: dataRoot)

theorem purge_legacy_loses :
    tree.Loses (purgeLegacyProgramFiles faults tree dataRoot).1
      fun gone => (gone ∈ legacyPaths dataRoot ∧ tree.kindAt gone = some .file) ∨
        gone = "bin" :: dataRoot := by
  have files := purge_paths_loses faults (legacyPaths dataRoot) "legacy_program_files" tree
  unfold purgeLegacyProgramFiles
  dsimp only
  split
  · exact .nothing tree
  · exact .nothing tree
  · exact .nothing tree
  · exact .nothing tree
  · change tree.Loses (purgeFiles faults tree ("bin" :: dataRoot) "legacy_program_files"
      legacyProgramNames).1 _ at files
    generalize purgeFiles faults tree ("bin" :: dataRoot) "legacy_program_files"
      legacyProgramNames = programs at files ⊢
    have ours : tree.Loses programs.1 fun gone =>
        (gone ∈ legacyPaths dataRoot ∧ tree.kindAt gone = some .file) ∨
          gone = "bin" :: dataRoot := files.mono fun gone => Or.inl
    have removal : programs.1.Loses (faults.removeDir programs.1 ("bin" :: dataRoot)).1
        (· = "bin" :: dataRoot) := faults.remove_dir_loses
    have directory := ours.trans (removal.mono fun gone => Or.inr)
    split
    · split
      · next gone ending => rwa [ending] at directory
      · next kept ending => rwa [ending] at directory
      · next kept error _ ending => rwa [ending] at directory
    · exact ours

/-- Programs reported as removed are gone, with their directory when it held nothing else. -/
theorem purge_legacy_clears
    (done : (purgeLegacyProgramFiles faults tree dataRoot).2.1.outcome = .removed) :
    (∀ path ∈ legacyPaths dataRoot,
      (purgeLegacyProgramFiles faults tree dataRoot).1.kindAt path = none) ∧
    ((purgeLegacyProgramFiles faults tree dataRoot).2.2 = .ok 0 →
      (purgeLegacyProgramFiles faults tree dataRoot).1.kindAt ("bin" :: dataRoot) = none) := by
  have files := purge_paths_clears faults (legacyPaths dataRoot) "legacy_program_files" tree
  unfold purgeLegacyProgramFiles at done ⊢
  dsimp only at done ⊢
  split at done
  · next missing =>
    have gone := IoFaults.absent_of_metadata missing
    refine ⟨fun path member => ?_, fun _ => gone⟩
    obtain ⟨name, _, rfl⟩ := List.mem_map.mp member
    by_contra present
    exact FileTree.present_above present (List.suffix_cons name _) gone
  · cases done
  · cases done
  · cases done
  · change (purgeFiles faults tree ("bin" :: dataRoot) "legacy_program_files"
      legacyProgramNames).2.outcome = .removed → ∀ path ∈ legacyPaths dataRoot,
        (purgeFiles faults tree ("bin" :: dataRoot) "legacy_program_files"
          legacyProgramNames).1.kindAt path = none at files
    generalize purgeFiles faults tree ("bin" :: dataRoot) "legacy_program_files"
      legacyProgramNames = programs at files done ⊢
    split at done
    · next unknown =>
      have directory : programs.1.Loses (faults.removeDir programs.1 ("bin" :: dataRoot)).1
        (· = "bin" :: dataRoot) := faults.remove_dir_loses
      have ending : _ → (faults.removeDir programs.1 ("bin" :: dataRoot)).1.kindAt
        ("bin" :: dataRoot) = none := faults.remove_dir_gone
      rw [if_pos unknown]
      split at done
      · next gone answer =>
        rw [answer] at ending directory
        exact ⟨fun path member => directory.stays_gone (files done path member),
          fun _ => ending (Or.inl rfl)⟩
      · next kept answer =>
        rw [answer] at ending directory
        exact ⟨fun path member => directory.stays_gone (files done path member),
          fun _ => ending (Or.inr rfl)⟩
      · cases done
    · next unknown =>
      rw [if_neg unknown]
      exact ⟨files done, fun zero => absurd ⟨zero, done⟩ unknown⟩

theorem purge_legacy_open :
    (purgeLegacyProgramFiles faults tree dataRoot).2.1.outcome.isOpen = false ↔
      (purgeLegacyProgramFiles faults tree dataRoot).2.1.outcome = .removed := by
  have files := purge_paths_open faults (legacyPaths dataRoot) "legacy_program_files" tree
  unfold purgeLegacyProgramFiles
  dsimp only
  split
  · exact iff_of_true rfl rfl
  · exact iff_of_false Bool.noConfusion ReceiptOutcome.noConfusion
  · exact iff_of_false Bool.noConfusion ReceiptOutcome.noConfusion
  · exact iff_of_false Bool.noConfusion ReceiptOutcome.noConfusion
  · split
    · split
      · exact files
      · exact files
      · exact iff_of_false Bool.noConfusion ReceiptOutcome.noConfusion
    · exact files

theorem purge_legacy_unknown
    (zero : (purgeLegacyProgramFiles faults tree dataRoot).2.2 = .ok 0) :
    ∀ name, tree.kindAt (name :: "bin" :: dataRoot) ≠ none → name ∈ legacyProgramNames := by
  unfold purgeLegacyProgramFiles at zero
  dsimp only at zero
  split at zero
  · next missing =>
    intro name present
    exact absurd (IoFaults.absent_of_metadata missing)
      (FileTree.present_above present (List.suffix_cons name _))
  · cases zero
  · cases zero
  · cases zero
  · refine unknown_zero (?_ : countUnknownDirectoryEntries faults _ _ _ = _)
    split at zero
    · split at zero <;> exact zero
    · exact zero

/-- No entry, or a directory of nothing but the programs. -/
def ProgramsOnly (tree : FileTree) (dataRoot : EntryPath) : Prop :=
  tree.kindAt ("bin" :: dataRoot) = none ∨
    (tree.kindAt ("bin" :: dataRoot) = some .directory ∧
      ∀ name, tree.kindAt (name :: "bin" :: dataRoot) ≠ none →
        name ∈ legacyProgramNames ∧ tree.kindAt (name :: "bin" :: dataRoot) = some .file)

theorem programs_only_iff (directory : tree.kindAt ("bin" :: dataRoot) = some .directory) :
    ProgramsOnly tree dataRoot ↔
      (∀ name, tree.kindAt (name :: "bin" :: dataRoot) ≠ none → name ∈ legacyProgramNames) ∧
        ∀ path ∈ legacyPaths dataRoot, Plain tree path := by
  unfold ProgramsOnly
  rw [directory]
  constructor
  · intro programs
    rcases programs with absent | ⟨_, only⟩
    · cases absent
    · refine ⟨fun name present => (only name present).1, fun path member => ?_⟩
      obtain ⟨name, _, rfl⟩ := List.mem_map.mp member
      by_cases absent : tree.kindAt (name :: "bin" :: dataRoot) = none
      · exact Or.inl absent
      · exact Or.inr (only name absent).2
  · intro only
    refine Or.inr ⟨rfl, fun name present => ?_⟩
    have listed := only.1 name present
    exact ⟨listed, (only.2 _ (List.mem_map.mpr ⟨name, listed, rfl⟩)).resolve_left present⟩

theorem purge_legacy_faultless (faultless : faults.Faultless) :
    ((purgeLegacyProgramFiles faults tree dataRoot).2.1.outcome = .removed ∧
        (purgeLegacyProgramFiles faults tree dataRoot).2.2 = .ok 0) ↔
      ProgramsOnly tree dataRoot := by
  cases entry : tree.kindAt ("bin" :: dataRoot) with
  | none =>
      unfold purgeLegacyProgramFiles ProgramsOnly
      dsimp only
      rw [faultless.metadata, entry]
      exact iff_of_true ⟨rfl, rfl⟩ (Or.inl rfl)
  | some kind =>
      cases kind with
      | file =>
          unfold purgeLegacyProgramFiles ProgramsOnly
          dsimp only
          rw [faultless.metadata, entry]
          simp
      | link =>
          unfold purgeLegacyProgramFiles ProgramsOnly
          dsimp only
          rw [faultless.metadata, entry]
          simp
      | directory =>
          rw [programs_only_iff tree dataRoot entry]
          have unknown : countUnknownDirectoryEntries faults tree ("bin" :: dataRoot)
              legacyProgramNames = .ok 0 ↔ _ := unknown_faultless faultless (Or.inr entry)
          have files : (purgeFiles faults tree ("bin" :: dataRoot) "legacy_program_files"
              legacyProgramNames).2.outcome = .removed ↔
                ∀ path ∈ legacyPaths dataRoot, Plain tree path :=
            purge_paths_faultless faults (legacyPaths dataRoot) "legacy_program_files" tree
              faultless
          have loses : tree.Loses (purgeFiles faults tree ("bin" :: dataRoot)
              "legacy_program_files" legacyProgramNames).1
                fun gone => gone ∈ legacyPaths dataRoot ∧ tree.kindAt gone = some .file :=
            purge_paths_loses faults (legacyPaths dataRoot) "legacy_program_files" tree
          have clears : (purgeFiles faults tree ("bin" :: dataRoot) "legacy_program_files"
              legacyProgramNames).2.outcome = .removed → ∀ path ∈ legacyPaths dataRoot,
                (purgeFiles faults tree ("bin" :: dataRoot) "legacy_program_files"
                  legacyProgramNames).1.kindAt path = none :=
            purge_paths_clears faults (legacyPaths dataRoot) "legacy_program_files" tree
          rw [← unknown, ← files]
          unfold purgeLegacyProgramFiles
          dsimp only
          rw [faultless.metadata, entry]
          dsimp only
          generalize purgeFiles faults tree ("bin" :: dataRoot) "legacy_program_files"
            legacyProgramNames = programs at files loses clears ⊢
          by_cases both : countUnknownDirectoryEntries faults tree ("bin" :: dataRoot)
              legacyProgramNames = .ok 0 ∧ programs.2.outcome = .removed
          · have stays : programs.1.kindAt ("bin" :: dataRoot) = some .directory := by
              rw [loses.kept, entry]
              intro lost
              rw [entry] at lost
              cases lost.2
            have empty : ∀ name, programs.1.kindAt (name :: "bin" :: dataRoot) = none := by
              intro name
              by_contra present
              have before : tree.kindAt (name :: "bin" :: dataRoot) ≠ none := fun absent =>
                present (loses.stays_gone absent)
              have listed := unknown.mp both.1 name before
              exact present (clears both.2 _ (List.mem_map.mpr ⟨name, listed, rfl⟩))
            have ending := (faultless.remove_dir programs.1 stays).mpr empty
            rcases answer : faults.removeDir programs.1 ("bin" :: dataRoot) with ⟨gone, result⟩
            rw [answer] at ending
            cases ending
            rw [if_pos both]
            exact iff_of_true ⟨both.2, both.1⟩ both
          · rw [if_neg both]
            exact and_comm

end Legacy

section Entries

variable (family : List EntryPath) (hasTestMarker : Bool) (dataRoot : EntryPath)

/-- What a class of the receipt is about. -/
def ClassEntry : String → EntryPath → Prop
  | "database", path => path ∈ databaseNames.map (· :: dataRoot)
  | "configured_database", path => path ∈ family
  | "configuration_and_staging", path =>
      path ∈ (configurationNames hasTestMarker).map (· :: dataRoot)
  | "sidecars_and_staging", path => path ∈ sidecarNames.map (· :: dataRoot)
  | "ui_state", path => path ∈ uiStateNames.map (· :: dataRoot)
  | "logs", path => "logs" :: dataRoot <:+ path
  | "archives", path => "archives" :: dataRoot <:+ path
  | "privacy_operation_receipts", path => receiptDirectory :: dataRoot <:+ path
  | "rollback_sensitive", path => "rollback" :: dataRoot <:+ path
  | "legacy_program_files", path => path ∈ legacyPaths dataRoot
  | "unknown_entries", path => ∃ name,
      (path = name :: dataRoot ∧ name ∉ knownNames) ∨
        (path = name :: "bin" :: dataRoot ∧ name ∉ legacyProgramNames)
  | "data_root", path => dataRoot <:+ path
  | _, _ => False

/-- The classes that remove something, the configuration only if it is not preserved. -/
def purgedClasses (preserveConfiguration : Bool) : List String :=
  (if preserveConfiguration then [] else ["configuration_and_staging"]) ++
    ["database", "configured_database", "sidecars_and_staging", "ui_state", "logs", "archives",
      "privacy_operation_receipts", "rollback_sensitive", "legacy_program_files"]

/-- What the classes may remove: their entries and the directory of the programs. -/
def MayGo (preserveConfiguration : Bool) (path : EntryPath) : Prop :=
  (∃ className ∈ purgedClasses preserveConfiguration,
    ClassEntry family hasTestMarker dataRoot className path) ∨ path = "bin" :: dataRoot

variable (preserveConfiguration : Bool)

/-- Some classes have run: they lost only what they may, and those removed have nothing left. -/
structure ClassesRun (before after : FileTree) (classes : List ReceiptClass) : Prop where
  loses : before.Loses after (MayGo family hasTestMarker dataRoot preserveConfiguration)
  root : before.kindAt dataRoot = some .directory → after.kindAt dataRoot = some .directory
  cleared : ∀ receipt ∈ classes, receipt.outcome = .removed → ∀ path,
    ClassEntry family hasTestMarker dataRoot receipt.className path → after.kindAt path = none

variable {family hasTestMarker dataRoot preserveConfiguration}
  {before between after : FileTree}
  {classes : List ReceiptClass}

theorem ClassesRun.nothing (tree : FileTree) :
    ClassesRun family hasTestMarker dataRoot preserveConfiguration tree tree [] where
  loses := .nothing tree
  root := id
  cleared := fun _ member => absurd member List.not_mem_nil

theorem ClassesRun.next
    (run : ClassesRun family hasTestMarker dataRoot preserveConfiguration before between classes)
    {receipt : ReceiptClass}
    (loses : between.Loses after (MayGo family hasTestMarker dataRoot preserveConfiguration))
    (root : between.kindAt dataRoot = some .directory → after.kindAt dataRoot = some .directory)
    (cleared : receipt.outcome = .removed → ∀ path,
      ClassEntry family hasTestMarker dataRoot receipt.className path →
        after.kindAt path = none) :
    ClassesRun family hasTestMarker dataRoot preserveConfiguration before after
      (classes ++ [receipt]) where
  loses := run.loses.trans loses
  root := root ∘ run.root
  cleared := by
    intro other member done path entry
    rcases List.mem_append.mp member with earlier | here
    · exact loses.stays_gone (run.cleared other earlier done path entry)
    · rw [List.mem_singleton] at here
      subst here
      exact cleared done path entry

theorem class_receipt_name (className : String) (outcome : ReceiptOutcome) (itemCount : Nat)
    (category : Option String) :
    (classReceipt className outcome itemCount category).className = className := by
  cases category <;> rfl

theorem purge_paths_name (faults : IoFaults) (tree : FileTree) (className : String)
    (paths : List EntryPath) :
    (purgePaths faults tree className paths).2.className = className := by
  unfold purgePaths PurgeTally.receipt
  dsimp only
  split <;> exact class_receipt_name _ _ _ _

theorem purge_directory_name (faults : IoFaults) (tree : FileTree) (root : EntryPath)
    (className name : String) :
    (purgeDirectory faults tree root className name).2.className = className := by
  unfold purgeDirectory
  dsimp only
  split
  · rfl
  · rfl
  · rfl
  · rfl
  · split
    · rfl
    · split <;> rfl

theorem directory_kept {lost : EntryPath → Prop} (path : EntryPath)
    (loses : before.Loses after fun gone => lost gone ∧ before.kindAt gone = some .file)
    (directory : before.kindAt path = some .directory) :
    after.kindAt path = some .directory := by
  rw [loses.kept, directory]
  intro gone
  rw [directory] at gone
  cases gone.2

theorem root_not_below (name : String) (root : EntryPath) : ¬name :: root <:+ root := by
  intro below
  have short := below.length_le
  rw [List.length_cons] at short
  omega

theorem ClassesRun.files
    (run : ClassesRun family hasTestMarker dataRoot preserveConfiguration before between classes)
    (faults : IoFaults) {className : String} {names : List String}
    (purged : className ∈ purgedClasses preserveConfiguration)
    (entries : ∀ path, ClassEntry family hasTestMarker dataRoot className path ↔
      path ∈ names.map (· :: dataRoot)) :
    ClassesRun family hasTestMarker dataRoot preserveConfiguration before
      (purgeFiles faults between dataRoot className names).1
      (classes ++ [(purgeFiles faults between dataRoot className names).2]) := by
  unfold purgeFiles
  have loses := purge_paths_loses faults (names.map (· :: dataRoot)) className between
  apply run.next
  · exact loses.mono fun path lost => Or.inl ⟨className, purged, (entries path).mpr lost.1⟩
  · exact directory_kept dataRoot loses
  · intro done path entry
    rw [purge_paths_name] at entry
    exact purge_paths_clears faults _ className between done path ((entries path).mp entry)

theorem ClassesRun.directory
    (run : ClassesRun family hasTestMarker dataRoot preserveConfiguration before between classes)
    (faults : IoFaults) {className name : String}
    (purged : className ∈ purgedClasses preserveConfiguration)
    (entries : ∀ path, ClassEntry family hasTestMarker dataRoot className path ↔
      name :: dataRoot <:+ path) :
    ClassesRun family hasTestMarker dataRoot preserveConfiguration before
      (purgeDirectory faults between dataRoot className name).1
      (classes ++ [(purgeDirectory faults between dataRoot className name).2]) := by
  have loses := purge_directory_loses faults between dataRoot className name
  apply run.next
  · exact loses.mono fun path lost => Or.inl ⟨className, purged, (entries path).mpr lost⟩
  · intro root
    rw [loses.kept (root_not_below name dataRoot), root]
  · intro done path entry
    rw [purge_directory_name] at entry
    exact purge_directory_clears faults between dataRoot className name done path
      ((entries path).mp entry)

end Entries

section Classes

variable {hasTestMarker preserveConfiguration : Bool} {dataRoot : EntryPath}
  {family : List EntryPath} {before between : FileTree} {classes : List ReceiptClass}

theorem read_configuration_congr (reading : ConfigReading) {after : FileTree}
    (same : after.kindAt ("config.toml" :: dataRoot) =
      before.kindAt ("config.toml" :: dataRoot)) :
    readConfiguration reading after dataRoot = readConfiguration reading before dataRoot := by
  unfold readConfiguration
  rw [same]

theorem purge_files_name (faults : IoFaults) (tree : FileTree) (root : EntryPath)
    (className : String) (names : List String) :
    (purgeFiles faults tree root className names).2.className = className :=
  purge_paths_name faults tree className _

theorem purge_configured_name (faults : IoFaults) (reading : ConfigReading) (tree : FileTree)
    (root : EntryPath) :
    (purgeConfiguredDatabase faults reading tree root).2.className = "configured_database" := by
  unfold purgeConfiguredDatabase
  split
  · rfl
  · split
    · rfl
    · rfl
    · split
      · rfl
      · split
        · rfl
        · exact purge_paths_name _ _ _ _

theorem purge_configuration_name (faults : IoFaults) (tree : FileTree) (root : EntryPath)
    (marked preserved : Bool) :
    (purgeConfiguration faults tree root marked preserved).2.className =
      "configuration_and_staging" := by
  unfold purgeConfiguration deferFiles
  split
  · split <;> rfl
  · exact purge_files_name _ _ _ _ _

theorem purge_legacy_name (faults : IoFaults) (tree : FileTree) (root : EntryPath) :
    (purgeLegacyProgramFiles faults tree root).2.1.className = "legacy_program_files" := by
  have files := purge_paths_name faults tree "legacy_program_files" (legacyPaths root)
  unfold purgeLegacyProgramFiles
  dsimp only
  split
  · rfl
  · rfl
  · rfl
  · rfl
  · split
    · split <;> exact files
    · exact files

theorem ClassesRun.configured (faults : IoFaults) (reading : ConfigReading)
    (run : ClassesRun (configuredFamily reading between dataRoot) hasTestMarker dataRoot
      preserveConfiguration before between classes) :
    ClassesRun (configuredFamily reading between dataRoot) hasTestMarker dataRoot
      preserveConfiguration before
      (purgeConfiguredDatabase faults reading between dataRoot).1
      (classes ++ [(purgeConfiguredDatabase faults reading between dataRoot).2]) := by
  have loses := purge_configured_loses faults reading between dataRoot
  apply run.next
  · exact loses.mono fun path lost =>
      Or.inl ⟨"configured_database", by simp [purgedClasses], lost.1⟩
  · exact directory_kept dataRoot loses
  · intro done path entry
    rw [purge_configured_name] at entry
    exact purge_configured_clears faults reading between dataRoot done path entry

theorem ClassesRun.configuration (faults : IoFaults)
    (run : ClassesRun family hasTestMarker dataRoot preserveConfiguration before between classes) :
    ClassesRun family hasTestMarker dataRoot preserveConfiguration before
      (purgeConfiguration faults between dataRoot hasTestMarker preserveConfiguration).1
      (classes ++ [(purgeConfiguration faults between dataRoot hasTestMarker
        preserveConfiguration).2]) := by
  unfold purgeConfiguration
  cases preserveConfiguration with
  | false =>
      rw [if_neg Bool.false_ne_true]
      exact run.files faults (show "configuration_and_staging" ∈ purgedClasses false by decide)
        fun path => Iff.rfl
  | true =>
      apply run.next (.nothing between) id
      intro done
      exfalso
      rw [if_pos rfl] at done
      unfold deferFiles at done
      split at done <;> cases done

theorem ClassesRun.legacy (faults : IoFaults)
    (run : ClassesRun family hasTestMarker dataRoot preserveConfiguration before between classes) :
    ClassesRun family hasTestMarker dataRoot preserveConfiguration before
      (purgeLegacyProgramFiles faults between dataRoot).1
      (classes ++ [(purgeLegacyProgramFiles faults between dataRoot).2.1]) := by
  have loses := purge_legacy_loses faults between dataRoot
  apply run.next
  · apply loses.mono
    intro path lost
    rcases lost with ⟨program, _⟩ | directory
    · exact Or.inl ⟨"legacy_program_files", by simp [purgedClasses], program⟩
    · exact Or.inr directory
  · intro root
    rw [loses.kept, root]
    intro lost
    rcases lost with ⟨_, file⟩ | same
    · rw [root] at file
      cases file
    · simp at same
  · intro done path entry
    rw [purge_legacy_name] at entry
    exact (purge_legacy_clears faults between dataRoot done).1 path entry

theorem unknown_receipt_removed {rootUnknown binUnknown : Except String Nat}
    (done : (unknownEntriesReceipt rootUnknown binUnknown).outcome = .removed) :
    rootUnknown = .ok 0 ∧ binUnknown = .ok 0 := by
  unfold unknownEntriesReceipt at done
  split at done
  · split at done
    · next nothing =>
      rw [Nat.add_eq_zero_iff] at nothing
      rw [nothing.1, nothing.2]
      exact ⟨rfl, rfl⟩
    · cases done
  · cases done
  · cases done

theorem unknown_receipt_closed {rootUnknown binUnknown : Except String Nat} :
    (unknownEntriesReceipt rootUnknown binUnknown).outcome.isOpen = false ↔
      rootUnknown = .ok 0 ∧ binUnknown = .ok 0 := by
  constructor
  · intro closed
    apply unknown_receipt_removed
    unfold unknownEntriesReceipt at closed ⊢
    split at closed
    · split at closed
      · next nothing =>
        rw [if_pos nothing]
        rfl
      · cases closed
    · cases closed
    · cases closed
  · intro zeros
    rw [zeros.1, zeros.2]
    rfl

theorem purge_configuration_open {faults : IoFaults} {tree : FileTree} {root : EntryPath}
    {marked preserved : Bool} :
    (purgeConfiguration faults tree root marked preserved).2.outcome.isOpen = false ↔
      (purgeConfiguration faults tree root marked preserved).2.outcome = .removed := by
  unfold purgeConfiguration deferFiles
  cases preserved with
  | false =>
      rw [if_neg Bool.false_ne_true]
      exact purge_paths_open _ _ _ _
  | true =>
      rw [if_pos rfl]
      dsimp only
      split
      · exact iff_of_false Bool.noConfusion ReceiptOutcome.noConfusion
      · exact iff_of_false Bool.noConfusion ReceiptOutcome.noConfusion

theorem unknown_receipt_name (rootUnknown binUnknown : Except String Nat) :
    (unknownEntriesReceipt rootUnknown binUnknown).className = "unknown_entries" := by
  unfold unknownEntriesReceipt
  split
  · split <;> rfl
  · rfl
  · rfl

theorem unknown_cleared (family : List EntryPath) (hasTestMarker : Bool) (dataRoot : EntryPath)
    (between : FileTree) (faults programFaults : IoFaults)
    (done : (unknownEntriesReceipt
      (countUnknownDirectoryEntries faults (purgeLegacyProgramFiles programFaults between
        dataRoot).1 dataRoot knownNames)
      (purgeLegacyProgramFiles programFaults between dataRoot).2.2).outcome = .removed)
    (path : EntryPath)
    (entry : ClassEntry family hasTestMarker dataRoot "unknown_entries" path) :
    (purgeLegacyProgramFiles programFaults between dataRoot).1.kindAt path = none := by
  obtain ⟨rootZero, binZero⟩ := unknown_receipt_removed done
  have loses := purge_legacy_loses programFaults between dataRoot
  obtain ⟨name, ⟨rfl, unknown⟩ | ⟨rfl, unknown⟩⟩ := entry
  · by_contra present
    exact unknown (unknown_zero rootZero name present)
  · by_contra present
    refine unknown (purge_legacy_unknown programFaults between dataRoot binZero name ?_)
    exact fun absent => present (loses.stays_gone absent)

variable (hasTestMarker dataRoot) (faults : String → IoFaults) (reading : ConfigReading)
  (tree : FileTree)

theorem family_after_database (faults : IoFaults) :
    configuredFamily reading
        (purgeFiles faults tree dataRoot "database" databaseNames).1 dataRoot =
      configuredFamily reading tree dataRoot := by
  have same : (purgeFiles faults tree dataRoot "database" databaseNames).1.kindAt
      ("config.toml" :: dataRoot) = tree.kindAt ("config.toml" :: dataRoot) := by
    apply (purge_paths_loses faults (databaseNames.map (· :: dataRoot)) "database" tree).kept
    simp [databaseNames]
  unfold configuredFamily
  rw [read_configuration_congr reading same]

/-- The configured database is reported as anything but removed. -/
def preservesConfiguration (faults : String → IoFaults) (reading : ConfigReading)
    (dataRoot : EntryPath) (tree : FileTree) : Bool :=
  (purgeConfiguredDatabase (faults "configured_database") reading
    (purgeFiles (faults "database") tree dataRoot "database" databaseNames).1
      dataRoot).2.outcome.isOpen

theorem purge_classes_run :
    ClassesRun (configuredFamily reading tree dataRoot) hasTestMarker dataRoot
      (preservesConfiguration faults reading dataRoot tree) tree
      (purgeClasses faults reading hasTestMarker dataRoot tree).1
      (purgeClasses faults reading hasTestMarker dataRoot tree).2 := by
  have purged : ∀ preserve, ∀ className ∈ ["database", "configured_database",
      "sidecars_and_staging", "ui_state", "logs", "archives", "privacy_operation_receipts",
      "rollback_sensitive"], className ∈ purgedClasses preserve := by decide
  have start : ClassesRun (configuredFamily reading tree dataRoot) hasTestMarker dataRoot
    (preservesConfiguration faults reading dataRoot tree) tree tree [] := .nothing tree
  have database := start.files (faults "database") (purged _ "database" (by decide))
    fun path => (Iff.rfl : _ ↔ path ∈ databaseNames.map (· :: dataRoot))
  rw [← family_after_database dataRoot reading tree (faults "database")] at database ⊢
  unfold preservesConfiguration at database ⊢
  unfold purgeClasses
  dsimp only
  generalize purgeFiles (faults "database") tree dataRoot "database" databaseNames = first
    at database ⊢
  have configured := database.configured (faults "configured_database") reading
  generalize configuredFamily reading first.1 dataRoot = family at configured ⊢
  generalize purgeConfiguredDatabase (faults "configured_database") reading first.1 dataRoot =
    second at configured ⊢
  have configuration := configured.configuration (faults "configuration_and_staging")
  generalize purgeConfiguration (faults "configuration_and_staging") second.1 dataRoot
    hasTestMarker second.2.outcome.isOpen = third at configuration ⊢
  have sidecars := configuration.files (faults "sidecars_and_staging")
    (purged _ "sidecars_and_staging" (by decide))
    fun path => (Iff.rfl : _ ↔ path ∈ sidecarNames.map (· :: dataRoot))
  generalize purgeFiles (faults "sidecars_and_staging") third.1 dataRoot "sidecars_and_staging"
    sidecarNames = fourth at sidecars ⊢
  have uiState := sidecars.files (faults "ui_state")
    (purged _ "ui_state" (by decide))
    fun path => (Iff.rfl : _ ↔ path ∈ uiStateNames.map (· :: dataRoot))
  generalize purgeFiles (faults "ui_state") fourth.1 dataRoot "ui_state" uiStateNames = fifth
    at uiState ⊢
  have logs := uiState.directory (faults "logs") (purged _ "logs" (by decide))
    fun path => (Iff.rfl : _ ↔ "logs" :: dataRoot <:+ path)
  generalize purgeDirectory (faults "logs") fifth.1 dataRoot "logs" "logs" = sixth at logs ⊢
  have archives := logs.directory (faults "archives")
    (purged _ "archives" (by decide))
    fun path => (Iff.rfl : _ ↔ "archives" :: dataRoot <:+ path)
  generalize purgeDirectory (faults "archives") sixth.1 dataRoot "archives" "archives" = seventh
    at archives ⊢
  have receipts := archives.directory (faults "privacy_operation_receipts")
    (purged _ "privacy_operation_receipts" (by decide))
    fun path => (Iff.rfl : _ ↔ receiptDirectory :: dataRoot <:+ path)
  generalize purgeDirectory (faults "privacy_operation_receipts") seventh.1 dataRoot
    "privacy_operation_receipts" receiptDirectory = eighth at receipts ⊢
  have rollback := receipts.directory (faults "rollback_sensitive")
    (purged _ "rollback_sensitive" (by decide))
    fun path => (Iff.rfl : _ ↔ "rollback" :: dataRoot <:+ path)
  generalize purgeDirectory (faults "rollback_sensitive") eighth.1 dataRoot "rollback_sensitive"
    "rollback" = ninth at rollback ⊢
  have legacy := rollback.legacy (faults "legacy_program_files")
  have cleared := unknown_cleared family hasTestMarker dataRoot ninth.1
    (faults "unknown_entries") (faults "legacy_program_files")
  generalize purgeLegacyProgramFiles (faults "legacy_program_files") ninth.1 dataRoot = tenth
    at legacy cleared ⊢
  have exports := legacy.next (.nothing tenth.1) id
    fun done : (classReceipt "external_exports" .retained 0 none).outcome = .removed =>
      ReceiptOutcome.noConfusion done
  exact exports.next (.nothing tenth.1) id fun done path entry =>
    cleared done path (by rwa [unknown_receipt_name] at entry)

theorem purge_classes_shape :
    ∃ configured : ReceiptClass,
      configured.className = "configured_database" ∧
      configured.outcome.isOpen = preservesConfiguration faults reading dataRoot tree ∧
      configured ∈ (purgeClasses faults reading hasTestMarker dataRoot tree).2 ∧
      (purgeClasses faults reading hasTestMarker dataRoot tree).2.map (·.className) =
        ["database", "configured_database", "configuration_and_staging", "sidecars_and_staging",
          "ui_state", "logs", "archives", "privacy_operation_receipts", "rollback_sensitive",
          "legacy_program_files", "external_exports", "unknown_entries"] := by
  refine ⟨(purgeConfiguredDatabase (faults "configured_database") reading
    (purgeFiles (faults "database") tree dataRoot "database" databaseNames).1 dataRoot).2,
    purge_configured_name _ _ _ _, rfl, ?_, ?_⟩
  · unfold purgeClasses
    simp
  · unfold purgeClasses
    simp [purge_files_name, purge_configured_name, purge_configuration_name,
      purge_directory_name, purge_legacy_name, class_receipt_name, unknown_receipt_name]

theorem purge_classes_open (receipt : ReceiptClass)
    (member : receipt ∈ (purgeClasses faults reading hasTestMarker dataRoot tree).2)
    (closed : receipt.outcome.isOpen = false) :
    receipt.outcome = .removed ∨ receipt.className = "external_exports" := by
  unfold purgeClasses at member
  dsimp only at member
  simp only [List.mem_cons, List.not_mem_nil, or_false] at member
  rcases member with rfl | rfl | rfl | rfl | rfl | rfl | rfl | rfl | rfl | rfl | rfl | rfl
  · exact Or.inl ((purge_paths_open _ _ _ _).mp closed)
  · exact Or.inl ((purge_configured_open _ _ _ _).mp closed)
  · exact Or.inl (purge_configuration_open.mp closed)
  · exact Or.inl ((purge_paths_open _ _ _ _).mp closed)
  · exact Or.inl ((purge_paths_open _ _ _ _).mp closed)
  · exact Or.inl ((purge_directory_open _ _ _ _ _).mp closed)
  · exact Or.inl ((purge_directory_open _ _ _ _ _).mp closed)
  · exact Or.inl ((purge_directory_open _ _ _ _ _).mp closed)
  · exact Or.inl ((purge_directory_open _ _ _ _ _).mp closed)
  · exact Or.inl ((purge_legacy_open _ _ _).mp closed)
  · exact Or.inr rfl
  · have zeros := unknown_receipt_closed.mp closed
    rw [zeros.1, zeros.2]
    exact Or.inl rfl

end Classes

end Gilbreth.App
