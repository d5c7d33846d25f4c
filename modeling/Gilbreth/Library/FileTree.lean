import Mathlib
import Gilbreth.Library.KeyedTable

/-!
# Trees of files

A tree of files is a table of paths, each of them a file, a link or a directory, in which every
entry lies in a directory. A path is written from its last name outwards, so that the directory
of an entry is the rest of its path. The operations fail as an oracle says, or as they must.
-/

set_option autoImplicit false

abbrev EntryPath := List String

inductive EntryKind where
  | file | link | directory
deriving DecidableEq

abbrev EntryTable := Table (Prod.fst : EntryPath × EntryKind → EntryPath)

@[ext]
structure FileTree where
  entries : EntryTable
  rooted : ∀ entry ∈ entries.rows,
    entry.1 = [] ∨ (entry.1.tail, EntryKind.directory) ∈ entries.rows

namespace FileTree

section Entries

variable (tree : FileTree)

def kindAt (path : EntryPath) : Option EntryKind := (tree.entries.lookup path).map Prod.snd

variable {tree}

theorem kind_at_eq_some {path : EntryPath} {kind : EntryKind} :
    tree.kindAt path = some kind ↔ (path, kind) ∈ tree.entries.rows := by
  have found_row : ∀ entry, tree.entries.lookup path = some entry →
      entry ∈ tree.entries.rows ∧ entry.1 = path := by
    intro entry found
    unfold Table.lookup at found
    exact ⟨List.mem_of_find?_eq_some found, by simpa using List.find?_some found⟩
  unfold kindAt
  rw [Option.map_eq_some_iff]
  constructor
  · intro found
    obtain ⟨entry, first, rfl⟩ := found
    obtain ⟨member, rfl⟩ := found_row entry first
    exact member
  · intro member
    obtain ⟨entry, found⟩ := Option.isSome_iff_exists.mp
      (Table.lookup_isSome (List.mem_map.mpr ⟨(path, kind), member, rfl⟩))
    have single := tree.entries.eq_of_key (found_row entry found).1 member
      (found_row entry found).2
    exact ⟨entry, found, congrArg Prod.snd single⟩

theorem kind_at_eq_none {path : EntryPath} :
    tree.kindAt path = none ↔ ∀ kind, (path, kind) ∉ tree.entries.rows := by
  rw [Option.eq_none_iff_forall_ne_some]
  exact forall_congr' fun kind => not_congr kind_at_eq_some

theorem kind_at_parent {name : String} {path : EntryPath}
    (present : tree.kindAt (name :: path) ≠ none) : tree.kindAt path = some .directory := by
  obtain ⟨kind, found⟩ := Option.ne_none_iff_exists'.mp present
  rcases tree.rooted _ (kind_at_eq_some.mp found) with root | parent
  · cases root
  · exact kind_at_eq_some.mpr parent

theorem kind_at_above {above path : EntryPath} (present : tree.kindAt path ≠ none)
    (below : above <:+ path) (apart : above ≠ path) : tree.kindAt above = some .directory := by
  induction path with
  | nil => exact absurd (List.suffix_nil.mp below) apart
  | cons name rest induction =>
      have parent := kind_at_parent present
      rcases List.suffix_cons_iff.mp below with same | inner
      · exact absurd same apart
      · by_cases here : above = rest
        · rw [here]
          exact parent
        · exact induction (by rw [parent]; exact Option.some_ne_none _) inner here

theorem kind_at_below_none {above path : EntryPath}
    (shut : tree.kindAt above ≠ some .directory) (below : above <:+ path) (apart : above ≠ path) :
    tree.kindAt path = none := by
  by_contra present
  exact shut (kind_at_above present below apart)

theorem present_above {above path : EntryPath} (present : tree.kindAt path ≠ none)
    (below : above <:+ path) : tree.kindAt above ≠ none := by
  by_cases same : above = path
  · rwa [same]
  · rw [kind_at_above present below same]
    exact Option.some_ne_none _

theorem child_above {above path : EntryPath} (below : above <:+ path) (apart : above ≠ path) :
    ∃ name, name :: above <:+ path := by
  obtain ⟨front, rfl⟩ := below
  rcases List.eq_nil_or_concat front with rfl | ⟨rest, name, rfl⟩
  · exact absurd rfl apart
  · exact ⟨name, rest, by simp⟩

end Entries

section Listing

variable (tree : FileTree)

def childName (path : EntryPath) : EntryPath → Option String
  | [] => none
  | name :: parent => if parent = path then some name else none

def names (path : EntryPath) : List String :=
  tree.entries.rows.filterMap fun entry => childName path entry.1

variable {tree}

theorem mem_names {name : String} {path : EntryPath} :
    name ∈ tree.names path ↔ tree.kindAt (name :: path) ≠ none := by
  unfold names
  rw [List.mem_filterMap]
  constructor
  · intro listed
    obtain ⟨⟨entry, kind⟩, member, child⟩ := listed
    cases entry with
    | nil => cases child
    | cons head parent =>
        simp only [childName, Option.ite_none_right_eq_some, Option.some.injEq] at child
        obtain ⟨rfl, rfl⟩ := child
        rw [kind_at_eq_some.mpr member]
        exact Option.some_ne_none kind
  · intro present
    obtain ⟨kind, found⟩ := Option.ne_none_iff_exists'.mp present
    exact ⟨_, kind_at_eq_some.mp found, if_pos rfl⟩

theorem names_eq_nil {path : EntryPath} :
    tree.names path = [] ↔ ∀ name, tree.kindAt (name :: path) = none := by
  rw [List.eq_nil_iff_forall_not_mem]
  exact forall_congr' fun name => by rw [mem_names, not_not]

def depth (tree : FileTree) : Nat := (tree.entries.rows.map fun entry => entry.1.length).foldr max 0

theorem length_le_depth {path : EntryPath} (present : tree.kindAt path ≠ none) :
    path.length ≤ tree.depth := by
  obtain ⟨kind, found⟩ := Option.ne_none_iff_exists'.mp present
  have member := kind_at_eq_some.mp found
  unfold depth
  generalize tree.entries.rows = rows at member
  induction rows with
  | nil => cases member
  | cons head tail induction =>
      rw [List.map_cons, List.foldr_cons]
      rcases List.mem_cons.mp member with same | later
      · rw [← same]
        exact le_max_left _ _
      · exact (induction later).trans (le_max_right _ _)

end Listing

section Removal

variable (tree : FileTree)

/-- The tree without the doomed entries, among which is whatever lies in one of them. -/
def without (doomed : EntryPath → Bool)
    (closed : ∀ name path, tree.kindAt (name :: path) ≠ none → doomed path = true →
      doomed (name :: path) = true) : FileTree where
  entries := tree.entries.deleteWhere fun entry => doomed entry.1
  rooted := by
    rintro ⟨path, kind⟩ member
    obtain ⟨present, spared⟩ := Table.mem_delete_where.mp member
    cases path with
    | nil => exact Or.inl rfl
    | cons name rest =>
        have found : tree.kindAt (name :: rest) ≠ none := by
          rw [kind_at_eq_some.mpr present]
          exact Option.some_ne_none kind
        refine Or.inr (Table.mem_delete_where.mpr ⟨kind_at_eq_some.mp (kind_at_parent found), ?_⟩)
        by_contra gone
        rw [Bool.not_eq_false] at gone
        rw [closed name rest found gone] at spared
        cases spared

theorem kind_at_without {doomed : EntryPath → Bool}
    (closed : ∀ name path, tree.kindAt (name :: path) ≠ none → doomed path = true →
      doomed (name :: path) = true) (path : EntryPath) :
    (tree.without doomed closed).kindAt path =
      if doomed path = true then none else tree.kindAt path := by
  split_ifs with gone
  · rw [kind_at_eq_none]
    intro kind member
    have spared := (Table.mem_delete_where.mp member).2
    rw [gone] at spared
    cases spared
  · apply Option.ext
    intro kind
    rw [kind_at_eq_some, kind_at_eq_some]
    refine Table.mem_delete_where.trans (and_iff_left_of_imp fun _ => ?_)
    exact Bool.eq_false_of_not_eq_true gone

theorem closed_of_leaf {path : EntryPath} (leaf : ∀ name, tree.kindAt (name :: path) = none)
    (name : String) (parent : EntryPath) (present : tree.kindAt (name :: parent) ≠ none)
    (doomed : decide (parent = path) = true) : decide (name :: parent = path) = true := by
  rw [decide_eq_true_eq] at doomed
  subst doomed
  exact absurd (leaf name) present

def withoutLeaf (path : EntryPath) (leaf : ∀ name, tree.kindAt (name :: path) = none) : FileTree :=
  tree.without (fun entry => decide (entry = path)) (tree.closed_of_leaf leaf)

theorem kind_at_without_leaf {path : EntryPath} (leaf : ∀ name, tree.kindAt (name :: path) = none)
    (entry : EntryPath) :
    (tree.withoutLeaf path leaf).kindAt entry =
      if entry = path then none else tree.kindAt entry := by
  unfold withoutLeaf
  rw [kind_at_without]
  simp only [decide_eq_true_eq]

theorem leaf_of_not_directory {path : EntryPath} (shut : tree.kindAt path ≠ some .directory)
    (name : String) : tree.kindAt (name :: path) = none := by
  by_contra present
  exact shut (kind_at_parent present)

def keptBelow (survives : EntryPath → Bool) (path : EntryPath) : Bool :=
  tree.entries.rows.any fun entry => path.isSuffixOf entry.1 && survives entry.1

/-- The tree without what lies at or below a path, except what survives and what that is in. -/
def withoutTree (survives : EntryPath → Bool) (path : EntryPath) : FileTree :=
  tree.without (fun entry => path.isSuffixOf entry && !tree.keptBelow survives entry) (by
    intro name parent _ doomed
    rw [Bool.and_eq_true, Bool.not_eq_true'] at doomed ⊢
    obtain ⟨below, lost⟩ := doomed
    refine ⟨List.isSuffixOf_iff_suffix.mpr
      ((List.isSuffixOf_iff_suffix.mp below).trans (List.suffix_cons name parent)), ?_⟩
    unfold keptBelow at lost ⊢
    rw [List.any_eq_false] at lost ⊢
    intro entry member kept
    rw [Bool.and_eq_true] at kept
    refine lost entry member (Bool.and_eq_true _ _ ▸ ⟨?_, kept.2⟩)
    exact List.isSuffixOf_iff_suffix.mpr
      ((List.suffix_cons name parent).trans (List.isSuffixOf_iff_suffix.mp kept.1)))

theorem kind_at_without_tree (survives : EntryPath → Bool) (path entry : EntryPath) :
    (tree.withoutTree survives path).kindAt entry =
      if path <:+ entry ∧ tree.keptBelow survives entry = false then none
      else tree.kindAt entry := by
  unfold withoutTree
  rw [kind_at_without]
  simp only [Bool.and_eq_true, Bool.not_eq_true', List.isSuffixOf_iff_suffix]

theorem kept_below_nothing (path : EntryPath) : tree.keptBelow (fun _ => false) path = false := by
  unfold keptBelow
  simp

end Removal

end FileTree

/-- What an operation can fail with besides a missing entry. -/
inductive IoFault where
  | locked | accessDenied | other
deriving DecidableEq

inductive IoError where
  | notFound
  | fault (fault : IoFault)
deriving DecidableEq

inductive FileOperation where
  | metadata | readFile | readDirectory | readEntry | removeFile | removeDirectory | removeTree
deriving DecidableEq

/-- Which operations fail, and what the failed removal of a directory leaves of it. -/
structure IoFaults where
  failure : FileOperation → EntryPath → Option IoFault
  survives : EntryPath → Bool

namespace IoFaults

section Operations

variable (faults : IoFaults) (tree : FileTree) (path : EntryPath)

/-- Looks at an entry and does not follow a link. -/
def symlinkMetadata : Except IoError EntryKind :=
  match faults.failure .metadata path with
  | some fault => .error (.fault fault)
  | none =>
      match tree.kindAt path with
      | none => .error .notFound
      | some kind => .ok kind

/-- The names in a directory, which is not a link. -/
def readDir : Except IoError (List String) :=
  match faults.failure .readDirectory path with
  | some fault => .error (.fault fault)
  | none =>
      match tree.kindAt path with
      | none => .error .notFound
      | some .directory => .ok (tree.names path)
      | some _ => .error (.fault .other)

def removeFile : FileTree × Except IoError Unit :=
  match faults.failure .removeFile path with
  | some fault => (tree, .error (.fault fault))
  | none =>
      match kind : tree.kindAt path with
      | none => (tree, .error .notFound)
      | some .directory => (tree, .error (.fault .other))
      | some .file | some .link =>
          (tree.withoutLeaf path (tree.leaf_of_not_directory (by rw [kind]; decide)), .ok ())

def removeDir : FileTree × Except IoError Unit :=
  match faults.failure .removeDirectory path with
  | some fault => (tree, .error (.fault fault))
  | none =>
      match tree.kindAt path with
      | none => (tree, .error .notFound)
      | some .directory =>
          if childless : tree.names path = [] then
            (tree.withoutLeaf path (FileTree.names_eq_nil.mp childless), .ok ())
          else (tree, .error (.fault .other))
      | some _ => (tree, .error (.fault .other))

/-- Removes a directory with all that lies in it, or what is removed when it fails. -/
def removeDirAll : FileTree × Except IoError Unit :=
  match tree.kindAt path with
  | some .directory =>
      match faults.failure .removeTree path with
      | some fault => (tree.withoutTree faults.survives path, .error (.fault fault))
      | none => (tree.withoutTree (fun _ => false) path, .ok ())
  | none => (tree, .error .notFound)
  | some _ => (tree, .error (.fault .other))

end Operations

end IoFaults

namespace FileTree

section Loss

/-- The tree after, which has lost nothing but such entries and is otherwise as before. -/
def Loses (before after : FileTree) (lost : EntryPath → Prop) : Prop :=
  ∀ path, after.kindAt path = before.kindAt path ∨ (after.kindAt path = none ∧ lost path)

variable {before between after : FileTree} {lost earlier later : EntryPath → Prop}

theorem Loses.nothing (tree : FileTree) : tree.Loses tree lost := fun _ => Or.inl rfl

theorem Loses.mono (loses : before.Loses after earlier)
    (implies : ∀ path, earlier path → later path) : before.Loses after later := fun path =>
  (loses path).imp_right fun gone => ⟨gone.1, implies path gone.2⟩

theorem Loses.trans (first : before.Loses between lost) (second : between.Loses after lost) :
    before.Loses after lost := by
  intro path
  rcases second path with same | gone
  · rw [same]
    exact first path
  · exact Or.inr gone

theorem Loses.kind_before (loses : before.Loses after lost) {path : EntryPath} {kind : EntryKind}
    (present : after.kindAt path = some kind) : before.kindAt path = some kind := by
  rcases loses path with same | gone
  · rw [← same]
    exact present
  · rw [gone.1] at present
    cases present

theorem Loses.stays_gone (loses : before.Loses after lost) {path : EntryPath}
    (gone : before.kindAt path = none) : after.kindAt path = none := by
  rcases loses path with same | gone
  · rw [same]
    exact gone
  · exact gone.1

theorem Loses.kept (loses : before.Loses after lost) {path : EntryPath} (safe : ¬lost path) :
    after.kindAt path = before.kindAt path :=
  (loses path).resolve_right fun gone => safe gone.2

theorem loses_without_leaf (tree : FileTree) {path : EntryPath}
    (leaf : ∀ name, tree.kindAt (name :: path) = none) :
    tree.Loses (tree.withoutLeaf path leaf) (· = path) := by
  intro entry
  rw [kind_at_without_leaf]
  by_cases same : entry = path
  · exact Or.inr ⟨if_pos same, same⟩
  · exact Or.inl (if_neg same)

theorem loses_without_tree (tree : FileTree) (survives : EntryPath → Bool) (path : EntryPath) :
    tree.Loses (tree.withoutTree survives path) (path <:+ ·) := by
  intro entry
  rw [kind_at_without_tree]
  by_cases gone : path <:+ entry ∧ tree.keptBelow survives entry = false
  · exact Or.inr ⟨if_pos gone, gone.1⟩
  · exact Or.inl (if_neg gone)

end Loss

end FileTree

namespace IoFaults

section Outcomes

variable {faults : IoFaults} {tree : FileTree} {path : EntryPath}

theorem kind_of_metadata {kind : EntryKind}
    (found : faults.symlinkMetadata tree path = .ok kind) : tree.kindAt path = some kind := by
  unfold symlinkMetadata at found
  cases fault : faults.failure .metadata path <;> cases entry : tree.kindAt path <;>
    simp_all

theorem absent_of_metadata (missing : faults.symlinkMetadata tree path = .error .notFound) :
    tree.kindAt path = none := by
  unfold symlinkMetadata at missing
  cases fault : faults.failure .metadata path <;> cases entry : tree.kindAt path <;>
    simp_all

theorem names_of_read_dir {names : List String} (listed : faults.readDir tree path = .ok names) :
    names = tree.names path := by
  unfold readDir at listed
  split at listed
  · cases listed
  · split at listed <;> simp_all

theorem absent_of_read_dir (missing : faults.readDir tree path = .error .notFound) :
    tree.kindAt path = none := by
  unfold readDir at missing
  split at missing
  · simp at missing
  · split at missing <;> simp_all

theorem remove_file_loses : tree.Loses (faults.removeFile tree path).1 (· = path) := by
  unfold removeFile
  split
  · exact .nothing tree
  · split
    · exact .nothing tree
    · exact .nothing tree
    · next file => exact tree.loses_without_leaf (tree.leaf_of_not_directory (by simp [file]))
    · next link => exact tree.loses_without_leaf (tree.leaf_of_not_directory (by simp [link]))

theorem remove_file_ok (done : (faults.removeFile tree path).2 = .ok ()) :
    (faults.removeFile tree path).1.kindAt path = none := by
  unfold removeFile at done ⊢
  split at done
  · cases done
  · split at done
    · cases done
    · cases done
    · rw [FileTree.kind_at_without_leaf, if_pos rfl]
    · rw [FileTree.kind_at_without_leaf, if_pos rfl]

theorem remove_dir_loses : tree.Loses (faults.removeDir tree path).1 (· = path) := by
  unfold removeDir
  split
  · exact .nothing tree
  · split
    · exact .nothing tree
    · split
      · next childless => exact tree.loses_without_leaf (FileTree.names_eq_nil.mp childless)
      · exact .nothing tree
    · exact .nothing tree

theorem remove_dir_gone (done : (faults.removeDir tree path).2 = .ok () ∨
    (faults.removeDir tree path).2 = .error .notFound) :
    (faults.removeDir tree path).1.kindAt path = none := by
  unfold removeDir at done ⊢
  cases fault : faults.failure .removeDirectory path with
  | some fault => simp_all
  | none =>
      cases entry : tree.kindAt path with
      | none => simp_all
      | some kind =>
          cases kind with
          | file => simp_all
          | link => simp_all
          | directory =>
              by_cases childless : tree.names path = []
              · simp [childless, FileTree.kind_at_without_leaf]
              · simp_all

theorem remove_dir_failed (failed : (faults.removeDir tree path).2 ≠ .ok ()) :
    (faults.removeDir tree path).1 = tree := by
  unfold removeDir at failed ⊢
  split
  · rfl
  · split
    · rfl
    · split <;> simp_all
    · rfl

theorem remove_dir_all_loses : tree.Loses (faults.removeDirAll tree path).1 (path <:+ ·) := by
  unfold removeDirAll
  split
  · split
    · exact tree.loses_without_tree _ _
    · exact tree.loses_without_tree _ _
  · exact .nothing tree
  · exact .nothing tree

theorem remove_dir_all_ok (done : (faults.removeDirAll tree path).2 = .ok ()) :
    ∀ entry, path <:+ entry → (faults.removeDirAll tree path).1.kindAt entry = none := by
  unfold removeDirAll at done ⊢
  split at done
  · split at done
    · cases done
    · intro entry below
      rw [FileTree.kind_at_without_tree, if_pos ⟨below, tree.kept_below_nothing entry⟩]
  · cases done
  · cases done

end Outcomes

section Faultless

def Faultless (faults : IoFaults) : Prop := ∀ operation path, faults.failure operation path = none

variable {faults : IoFaults} (faultless : faults.Faultless) (tree : FileTree) {path : EntryPath}

include faultless

theorem Faultless.metadata :
    faults.symlinkMetadata tree path =
      match tree.kindAt path with
      | none => .error .notFound
      | some kind => .ok kind := by
  unfold symlinkMetadata
  rw [faultless]

theorem Faultless.read_dir (directory : tree.kindAt path = some .directory) :
    faults.readDir tree path = .ok (tree.names path) := by
  unfold readDir
  rw [faultless, directory]

theorem Faultless.remove_file (file : tree.kindAt path = some .file) :
    (faults.removeFile tree path).2 = .ok () := by
  unfold removeFile
  rw [faultless]
  dsimp only
  split <;> simp_all

theorem Faultless.remove_dir (directory : tree.kindAt path = some .directory) :
    (faults.removeDir tree path).2 = .ok () ↔ ∀ name, tree.kindAt (name :: path) = none := by
  rw [← FileTree.names_eq_nil]
  unfold removeDir
  rw [faultless, directory]
  by_cases childless : tree.names path = [] <;> simp [childless]

theorem Faultless.remove_dir_all (directory : tree.kindAt path = some .directory) :
    (faults.removeDirAll tree path).2 = .ok () := by
  unfold removeDirAll
  rw [directory, faultless]

end Faultless

end IoFaults
