import Mathlib
import Gilbreth.App.PurgeHonesty

/-!
# How an uninstall purge ends

The receipt of a purge is honest under every pattern of failures: nothing but entries of the
classes goes, a class reported as removed has no entry left, the configuration outlives the
database that it names, and the purge is complete exactly when the root is gone. What a failed
purge leaves can be purged again.
-/

set_option autoImplicit false

namespace Gilbreth.App

section Honest

/-- What a receipt says of the trees before and after the purge. -/
structure HonestPurge (family : List EntryPath) (hasTestMarker : Bool) (dataRoot : EntryPath)
    (before after : FileTree) (receipt : PrivacyReceipt) : Prop where
  bounded : before.Loses after fun path =>
    MayGo family hasTestMarker dataRoot false path ∨ path = dataRoot
  cleared : ∀ entry ∈ receipt.classes, entry.outcome = .removed → ∀ path,
    ClassEntry family hasTestMarker dataRoot entry.className path → after.kindAt path = none
  preserved : ∀ entry ∈ receipt.classes, entry.className = "configured_database" →
    entry.outcome ≠ .removed → ∀ name ∈ configurationNames hasTestMarker,
      name :: dataRoot ∉ family →
        after.kindAt (name :: dataRoot) = before.kindAt (name :: dataRoot)
  named : "config.toml" :: dataRoot ∉ family →
    after.kindAt ("config.toml" :: dataRoot) = before.kindAt ("config.toml" :: dataRoot) ∨
      ∀ path ∈ family, after.kindAt path = none
  completed : receipt.status = .completed →
    (∀ path, dataRoot <:+ path → after.kindAt path = none) ∧
      ∀ path ∈ family, after.kindAt path = none
  root : before.kindAt dataRoot ≠ none →
    (receipt.status = .completed ↔ after.kindAt dataRoot = none)

variable {family : List EntryPath} {hasTestMarker : Bool} {dataRoot : EntryPath}

theorem child_listed {name : String} {names : List String} {root : EntryPath} :
    name :: root ∈ names.map (· :: root) ↔ name ∈ names := by
  simp

theorem child_below_child {name other : String} {root : EntryPath}
    (below : other :: root <:+ name :: root) : other = name := by
  rcases List.suffix_cons_iff.mp below with same | inner
  · exact (List.cons.inj same).1
  · exact absurd inner (root_not_below other root)

theorem child_not_legacy (name : String) (root : EntryPath) : name :: root ∉ legacyPaths root := by
  intro member
  obtain ⟨program, _, same⟩ := List.mem_map.mp member
  simp at same

theorem configuration_preserved {name : String}
    (listed : name ∈ configurationNames hasTestMarker) (other : name :: dataRoot ∉ family) :
    ¬MayGo family hasTestMarker dataRoot true (name :: dataRoot) := by
  have apart : ∀ marked, ∀ name ∈ configurationNames marked,
      name ∉ databaseNames ∧ name ∉ sidecarNames ∧ name ∉ uiStateNames ∧
        name ∉ ["logs", "archives", receiptDirectory, "rollback", "bin"] := by decide
  obtain ⟨database, sidecar, uiState, directory⟩ := apart hasTestMarker name listed
  have below : ∀ folder ∈ ["logs", "archives", receiptDirectory, "rollback", "bin"],
      ¬folder :: dataRoot <:+ name :: dataRoot := fun folder member under =>
    directory (child_below_child under ▸ member)
  intro mayGo
  rcases mayGo with ⟨className, purged, entry⟩ | bin
  · simp only [purgedClasses, if_true, List.nil_append, List.mem_cons, List.not_mem_nil,
      or_false] at purged
    rcases purged with rfl | rfl | rfl | rfl | rfl | rfl | rfl | rfl | rfl
    · exact database (child_listed.mp entry)
    · exact other entry
    · exact sidecar (child_listed.mp entry)
    · exact uiState (child_listed.mp entry)
    · exact below "logs" (by decide) entry
    · exact below "archives" (by decide) entry
    · exact below receiptDirectory (by decide) entry
    · exact below "rollback" (by decide) entry
    · exact child_not_legacy name dataRoot entry
  · exact below "bin" (by decide) (by rw [bin])

theorem MayGo.unpreserved {preserveConfiguration : Bool} {path : EntryPath}
    (mayGo : MayGo family hasTestMarker dataRoot preserveConfiguration path) :
    MayGo family hasTestMarker dataRoot false path := by
  apply mayGo.imp_left
  intro named
  obtain ⟨className, purged, entry⟩ := named
  refine ⟨className, ?_, entry⟩
  cases preserveConfiguration with
  | false => exact purged
  | true => exact List.mem_cons_of_mem _ purged

variable (hasTestMarker dataRoot) (faults : String → IoFaults) (reading : ConfigReading)
  (tree : FileTree)

theorem root_failure_incomplete (category : String) :
    (rootFailureReceipt category).status ≠ .completed := by
  simp [rootFailureReceipt, PrivacyReceipt.new, classReceipt, ReceiptClass.withErrorCategory,
    ReceiptClass.withCount, ReceiptClass.new, ReceiptOutcome.isOpen]

theorem root_failure_honest (category : String) :
    HonestPurge family hasTestMarker dataRoot tree tree (rootFailureReceipt category) where
  bounded := .nothing tree
  cleared := by
    intro entry member done
    rw [List.mem_singleton.mp member] at done
    cases done
  preserved := fun _ _ _ _ _ _ _ => rfl
  named := fun _ => Or.inl rfl
  completed := fun done => absurd done (root_failure_incomplete category)
  root := fun there => iff_of_false (root_failure_incomplete category) there

theorem purge_root_loses (rootFaults : IoFaults) (incomplete : Bool) :
    tree.Loses (purgeRootDirectory rootFaults tree dataRoot incomplete).1 (· = dataRoot) := by
  have loses : tree.Loses (rootFaults.removeDir tree dataRoot).1 (· = dataRoot) :=
    IoFaults.remove_dir_loses
  unfold purgeRootDirectory
  split
  · exact .nothing tree
  · split
    · next result => rwa [result] at loses
    · next result => rwa [result] at loses
    · next result => rwa [result] at loses

theorem purge_root_name (rootFaults : IoFaults) (incomplete : Bool) :
    (purgeRootDirectory rootFaults tree dataRoot incomplete).2.className = "data_root" := by
  unfold purgeRootDirectory
  split
  · rfl
  · split <;> rfl

/-- Either every class is done and the root is gone, or the root is not touched. -/
theorem purge_root_outcome (rootFaults : IoFaults) (incomplete : Bool) :
    (incomplete = false ∧
      (purgeRootDirectory rootFaults tree dataRoot incomplete).2.outcome = .removed ∧
      (purgeRootDirectory rootFaults tree dataRoot incomplete).1.kindAt dataRoot = none) ∨
    ((purgeRootDirectory rootFaults tree dataRoot incomplete).1 = tree ∧
      (purgeRootDirectory rootFaults tree dataRoot incomplete).2.outcome ≠ .removed ∧
      (incomplete = true ∨
        (purgeRootDirectory rootFaults tree dataRoot incomplete).2.outcome = .needsRetry)) := by
  cases incomplete with
  | true => exact Or.inr ⟨rfl, ReceiptOutcome.noConfusion, Or.inl rfl⟩
  | false =>
      have gone : (rootFaults.removeDir tree dataRoot).2 = .ok () ∨
          (rootFaults.removeDir tree dataRoot).2 = .error .notFound →
            (rootFaults.removeDir tree dataRoot).1.kindAt dataRoot = none :=
        IoFaults.remove_dir_gone
      have failed : (rootFaults.removeDir tree dataRoot).2 ≠ .ok () →
          (rootFaults.removeDir tree dataRoot).1 = tree := IoFaults.remove_dir_failed
      unfold purgeRootDirectory
      rw [if_neg Bool.false_ne_true]
      split
      · next result =>
        rw [result] at gone
        exact Or.inl ⟨rfl, rfl, gone (Or.inl rfl)⟩
      · next result =>
        rw [result] at gone
        exact Or.inl ⟨rfl, rfl, gone (Or.inr rfl)⟩
      · next result =>
        rw [result] at failed
        exact Or.inr ⟨failed (fun same => by cases same), ReceiptOutcome.noConfusion, Or.inr rfl⟩

variable {tree}

theorem honest_of_run {preserveConfiguration : Bool} {between : FileTree}
    {classes : List ReceiptClass}
    (run : ClassesRun family hasTestMarker dataRoot preserveConfiguration tree between classes)
    (shape : ∃ configured : ReceiptClass, configured.className = "configured_database" ∧
      configured.outcome.isOpen = preserveConfiguration ∧ configured ∈ classes ∧
      classes.map (·.className) =
        ["database", "configured_database", "configuration_and_staging", "sidecars_and_staging",
          "ui_state", "logs", "archives", "privacy_operation_receipts", "rollback_sensitive",
          "legacy_program_files", "external_exports", "unknown_entries"])
    (opened : ∀ receipt ∈ classes, receipt.outcome.isOpen = false →
      receipt.outcome = .removed ∨ receipt.className = "external_exports")
    (there : tree.kindAt dataRoot = none ∨ tree.kindAt dataRoot = some .directory)
    (rootFaults : IoFaults) (root : ReceiptClass) (after : FileTree) (incomplete : Bool)
    (waiting : incomplete = classes.any (·.outcome.isOpen))
    (rest : purgeRootDirectory rootFaults between dataRoot incomplete = (after, root)) :
    HonestPurge family hasTestMarker dataRoot tree after
      { PrivacyReceipt.new .uninstallPurge (classes ++ [root]) with
        status := if incomplete || root.outcome == .needsRetry then .incomplete
          else .completed } := by
  have rootName := purge_root_name dataRoot between rootFaults incomplete
  have rootLoses := purge_root_loses dataRoot between rootFaults incomplete
  have ending := purge_root_outcome dataRoot between rootFaults incomplete
  rw [rest] at rootName rootLoses ending
  dsimp only at rootName rootLoses ending
  obtain ⟨configured, named, preserves, member, names⟩ := shape
  have same_class : ∀ entry ∈ classes, entry.className = "configured_database" →
      entry = configured := by
    intro entry listed same
    have distinct : (classes.map (·.className)).Nodup := by
      rw [names]
      decide
    exact List.inj_on_of_nodup_map distinct listed member (same.trans named.symm)
  have below : after.kindAt dataRoot = none → ∀ path, dataRoot <:+ path →
      after.kindAt path = none := by
    intro gone path under
    by_contra present
    exact FileTree.present_above present under gone
  constructor
  · exact (run.loses.mono fun path mayGo => Or.inl mayGo.unpreserved).trans
      (rootLoses.mono fun path => Or.inr)
  · intro entry listed done path about
    rcases List.mem_append.mp listed with earlier | last
    · exact rootLoses.stays_gone (run.cleared entry earlier done path about)
    · rw [List.mem_singleton] at last
      rw [last] at done about
      rw [rootName] at about
      rcases ending with ⟨_, _, gone⟩ | ⟨_, kept, _⟩
      · exact below gone path about
      · exact absurd done kept
  · intro entry listed same kept name configuration other
    have notRoot : entry ∈ classes := by
      rcases List.mem_append.mp listed with earlier | last
      · exact earlier
      · rw [List.mem_singleton.mp last, rootName] at same
        simp at same
    have isConfigured := same_class entry notRoot same
    have preserved : preserveConfiguration = true := by
      rw [← preserves, ← isConfigured]
      by_contra closed
      rcases opened entry notRoot (Bool.eq_false_of_not_eq_true closed) with gone | exports
      · exact kept gone
      · rw [same] at exports
        simp at exports
    rw [preserved] at run
    rw [rootLoses.kept (by simp), run.loses.kept (configuration_preserved configuration other)]
  · intro other
    cases preserveConfiguration with
    | true =>
        left
        rw [rootLoses.kept (by simp),
          run.loses.kept (configuration_preserved (by simp [configurationNames]) other)]
    | false =>
        refine Or.inr fun path inFamily => rootLoses.stays_gone ?_
        rcases opened configured member preserves with removal | exports
        · exact run.cleared configured member removal path (by rw [named]; exact inFamily)
        · rw [named] at exports
          simp at exports
  · intro done
    rcases ending with ⟨closed, _, gone⟩ | ⟨_, _, failed⟩
    · refine ⟨below gone, fun path inFamily => rootLoses.stays_gone ?_⟩
      have shut : configured.outcome.isOpen = false := by
        rw [closed] at waiting
        have every := List.any_eq_false.mp waiting.symm configured member
        exact Bool.eq_false_of_not_eq_true every
      rcases opened configured member shut with removal | exports
      · exact run.cleared configured member removal path (by rw [named]; exact inFamily)
      · rw [named] at exports
        simp at exports
    · rcases failed with waits | retry
      · simp [waits] at done
      · simp [retry] at done
  · intro present
    have directory := there.resolve_left present
    rcases ending with ⟨closed, removal, gone⟩ | ⟨same, _, failed⟩
    · exact iff_of_true (by simp [closed, removal]) gone
    · refine iff_of_false ?_ ?_
      · rcases failed with waits | retry
        · simp [waits]
        · simp [retry]
      · rw [same, run.root directory]
        exact Option.some_ne_none _

variable (tree)

theorem purge_there_honest
    (there : tree.kindAt dataRoot = none ∨ tree.kindAt dataRoot = some .directory) :
    HonestPurge (configuredFamily reading tree dataRoot) hasTestMarker dataRoot tree
      (purgeDataRoot faults reading hasTestMarker dataRoot tree).1
      (purgeDataRoot faults reading hasTestMarker dataRoot tree).2 := by
  have run := purge_classes_run hasTestMarker dataRoot faults reading tree
  have shape := purge_classes_shape hasTestMarker dataRoot faults reading tree
  have opened := purge_classes_open hasTestMarker dataRoot faults reading tree
  unfold purgeDataRoot
  split
  · exact root_failure_honest hasTestMarker dataRoot tree _
  · exact root_failure_honest hasTestMarker dataRoot tree _
  · exact root_failure_honest hasTestMarker dataRoot tree _
  · exact honest_of_run hasTestMarker dataRoot run shape opened there (faults "data_root") _ _ _
      rfl rfl
  · exact honest_of_run hasTestMarker dataRoot run shape opened there (faults "data_root") _ _ _
      rfl rfl

theorem purge_not_there
    (elsewhere : ¬(tree.kindAt dataRoot = none ∨ tree.kindAt dataRoot = some .directory)) :
    ∃ category, purgeDataRoot faults reading hasTestMarker dataRoot tree =
      (tree, rootFailureReceipt category) := by
  unfold purgeDataRoot
  split
  · exact ⟨_, rfl⟩
  · exact ⟨_, rfl⟩
  · exact ⟨_, rfl⟩
  · next found => exact absurd (Or.inr (IoFaults.kind_of_metadata found)) elsewhere
  · next missing => exact absurd (Or.inl (IoFaults.absent_of_metadata missing)) elsewhere

/-- Under every pattern of failures a purge loses nothing but entries of its classes, clears the
classes that it reports as removed, keeps the configuration of a database that stays, and is
complete exactly when the root is gone. -/
theorem uninstall_purge_honest :
    HonestPurge (configuredFamily reading tree dataRoot) hasTestMarker dataRoot tree
      (purgeDataRoot faults reading hasTestMarker dataRoot tree).1
      (purgeDataRoot faults reading hasTestMarker dataRoot tree).2 := by
  by_cases there : tree.kindAt dataRoot = none ∨ tree.kindAt dataRoot = some .directory
  · exact purge_there_honest hasTestMarker dataRoot faults reading tree there
  · obtain ⟨category, refused⟩ :=
      purge_not_there hasTestMarker dataRoot faults reading tree there
    rw [refused]
    exact root_failure_honest hasTestMarker dataRoot tree category

end Honest

end Gilbreth.App
