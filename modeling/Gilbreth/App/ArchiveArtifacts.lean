import Mathlib
import Gilbreth.App.SecureErase

/-!
# Secure erase knows what an archive run leaves

Whatever effects of a run a crash lets happen, each name left is recognised as what it is; a
name taken for a staging file has the whole shape of one; and every entry is counted once.
-/

set_option autoImplicit false

namespace Gilbreth.App

section Names

theorem digit_char_not_dot {digit : Nat} (small : digit < 16) : Nat.digitChar digit ≠ '.' := by
  interval_cases digit <;> decide

theorem hyphenated_chars (uuid : BitVec 128) {char : Char} (member : char ∈ hyphenated uuid) :
    char = '-' ∨ ∃ digit < 16, char = Nat.digitChar digit := by
  have digits {place : Char} (listed : place ∈ (List.range 32).map fun place =>
      Nat.digitChar (uuid.toNat / 16 ^ (31 - place) % 16)) :
      ∃ digit < 16, place = Nat.digitChar digit := by
    obtain ⟨index, -, same⟩ := List.mem_map.mp listed
    exact ⟨_, Nat.mod_lt _ (by decide), same.symm⟩
  unfold hyphenated at member
  simp only [List.mem_append, List.mem_cons] at member
  rcases member with (((first | dash | second) | dash | third) | dash | fourth) | dash | fifth
  · exact Or.inr (digits (List.mem_of_mem_take first))
  · exact Or.inl dash
  · exact Or.inr (digits (List.mem_of_mem_drop (List.mem_of_mem_take second)))
  · exact Or.inl dash
  · exact Or.inr (digits (List.mem_of_mem_drop (List.mem_of_mem_take third)))
  · exact Or.inl dash
  · exact Or.inr (digits (List.mem_of_mem_drop (List.mem_of_mem_take fourth)))
  · exact Or.inl dash
  · exact Or.inr (digits (List.mem_of_mem_drop fifth))

theorem hyphenated_no_dot (uuid : BitVec 128) : '.' ∉ hyphenated uuid := by
  intro member
  rcases hyphenated_chars uuid member with dash | ⟨digit, small, same⟩
  · cases dash
  · exact digit_char_not_dot small same.symm

theorem next_archive_name_parts (nowMs : Option Nat) (gitSha : String) :
    ∃ middle, (nextArchiveName nowMs gitSha).toList =
      "gilbreth-archive-".toList ++ middle ++ ("." ++ archiveExtension).toList := by
  refine ⟨(toString (nowMs.getD 0)).toList ++ ("-".toList ++ gitSha.toList.take 12), ?_⟩
  unfold nextArchiveName
  simp only [String.toList_append, String.toList_ofList, List.append_assoc]

theorem dotted_start :
    ".gilbreth-archive-".toList = ".".toList ++ "gilbreth-archive-".toList := by decide

theorem staging_suffixes_apart : ∀ first ∈ stagingSuffixes.map String.toList,
    ∀ second ∈ stagingSuffixes.map String.toList, first <:+ second → first = second := by
  decide

theorem run_file_staging [UuidParser]
    (accepts : ∀ uuid, UuidParser.parses (hyphenated uuid) = true) (nowMs : Option Nat)
    (gitSha : String) (unique : BitVec 128) {suffix : String} (member : suffix ∈ stagingSuffixes) :
    isGeneratedArchiveStagingName
      ("." ++ nextArchiveName nowMs gitSha ++ "." ++ String.ofList (hyphenated unique) ++ suffix) =
      true := by
  obtain ⟨middle, parts⟩ := next_archive_name_parts nowMs gitSha
  have named : ("." ++ nextArchiveName nowMs gitSha ++ "." ++
      String.ofList (hyphenated unique) ++ suffix).toList =
      (("." ++ nextArchiveName nowMs gitSha).toList ++ '.' :: hyphenated unique) ++
        suffix.toList := by
    simp [String.toList_append]
  have stripped : (stagingSuffixes.findSome? fun ending => LastSplit.stripSuffix
      (("." ++ nextArchiveName nowMs gitSha).toList ++ '.' :: hyphenated unique ++
        suffix.toList) ending.toList) =
      some (("." ++ nextArchiveName nowMs gitSha).toList ++ '.' :: hyphenated unique) := by
    have found := LastSplit.find_stripped staging_suffixes_apart
      (("." ++ nextArchiveName nowMs gitSha).toList ++ '.' :: hyphenated unique)
      (List.mem_map_of_mem (f := String.toList) member)
    rw [List.findSome?_map] at found
    exact found
  have begins : ".gilbreth-archive-".toList.isPrefixOf
      ("." ++ nextArchiveName nowMs gitSha).toList = true := by
    rw [List.isPrefixOf_iff_prefix, String.toList_append, parts, dotted_start]
    refine ⟨middle ++ ("." ++ archiveExtension).toList, ?_⟩
    simp only [List.append_assoc]
  have ends : ("." ++ archiveExtension).toList.isSuffixOf
      ("." ++ nextArchiveName nowMs gitSha).toList = true := by
    have joined : ("." ++ nextArchiveName nowMs gitSha).toList =
        ".".toList ++ (nextArchiveName nowMs gitSha).toList := String.toList_append
    rw [List.isSuffixOf_iff_suffix, joined, parts]
    refine ⟨".".toList ++ ("gilbreth-archive-".toList ++ middle), ?_⟩
    simp only [List.append_assoc]
  unfold isGeneratedArchiveStagingName
  simp only [named, stripped, Option.bind_some,
    LastSplit.rsplit_once_append _ (hyphenated_no_dot unique), begins, ends, accepts,
    Bool.and_self]

theorem dotted_class [UuidParser] {rest : String}
    (staging : isGeneratedArchiveStagingName ("." ++ rest) = true) :
    archiveEraseClass ("." ++ rest) = some .staging := by
  have dotted : startsWith ("." ++ rest) "gilbreth-archive-" = false := by
    unfold startsWith
    rw [String.toList_append]
    rfl
  unfold archiveEraseClass
  rw [dotted, staging]
  rfl

theorem run_file_class [UuidParser]
    (accepts : ∀ uuid, UuidParser.parses (hyphenated uuid) = true) (nowMs : Option Nat)
    (gitSha : String) (unique : BitVec 128) (file : RunFile) :
    archiveEraseClass (file.name (nextArchiveName nowMs gitSha) unique) = some file.eraseClass := by
  cases file with
  | archive =>
      obtain ⟨middle, parts⟩ := next_archive_name_parts nowMs gitSha
      have begins : startsWith (nextArchiveName nowMs gitSha) "gilbreth-archive-" = true := by
        unfold startsWith
        rw [List.isPrefixOf_iff_prefix, parts, List.append_assoc]
        exact List.prefix_append _ _
      have ends : endsWith (nextArchiveName nowMs gitSha) ("." ++ archiveExtension) = true := by
        unfold endsWith
        rw [List.isSuffixOf_iff_suffix, parts]
        exact List.suffix_append _ _
      unfold RunFile.name archiveEraseClass
      simp only [begins, ends, Bool.and_self, if_true]
      rfl
  | pending =>
      have member : ".pending" ∈ stagingSuffixes := by decide
      have staging := run_file_staging accepts nowMs gitSha unique member
      unfold RunFile.name RunFile.eraseClass
      simp only [String.append_assoc] at staging ⊢
      exact dotted_class staging
  | plaintext sidecar =>
      have member : stagingSuffix sidecar ∈ stagingSuffixes := by
        rcases sidecar with _ | ⟨⟨⟩⟩ <;> decide
      have staging := run_file_staging accepts nowMs gitSha unique member
      unfold RunFile.name RunFile.eraseClass
      simp only [String.append_assoc] at staging ⊢
      exact dotted_class staging

theorem staging_shape [UuidParser] {name : String}
    (staging : archiveEraseClass name = some .staging) :
    ∃ archiveName unique, ∃ suffix ∈ stagingSuffixes,
      name.toList = '.' :: (archiveName ++ '.' :: unique ++ suffix.toList) ∧
        "gilbreth-archive-".toList <+: archiveName ∧
          ("." ++ archiveExtension).toList <:+ archiveName ∧ UuidParser.parses unique = true := by
  have generated : isGeneratedArchiveStagingName name = true := by
    unfold archiveEraseClass at staging
    split_ifs at staging with sealedName eraName generated
    · cases staging
    · cases staging
    · exact generated
  unfold isGeneratedArchiveStagingName at generated
  cases found : stagingSuffixes.findSome? fun suffix =>
      LastSplit.stripSuffix name.toList suffix.toList with
  | none =>
      rw [found] at generated
      cases generated
  | some stem =>
      obtain ⟨suffix, member, stripped⟩ := List.exists_of_findSome?_eq_some found
      have named := LastSplit.strip_suffix_eq_some.mp stripped
      rw [found] at generated
      cases split : LastSplit.rsplitOnce '.' stem with
      | none =>
          simp only [Option.bind_some, split] at generated
          cases generated
      | some parts =>
          obtain ⟨archiveName, unique⟩ := parts
          have joined := (LastSplit.rsplit_once_parts split).1
          simp only [Option.bind_some, split, Bool.and_eq_true] at generated
          obtain ⟨⟨begins, ends⟩, parsed⟩ := generated
          rw [List.isPrefixOf_iff_prefix, dotted_start] at begins
          rw [List.isSuffixOf_iff_suffix] at ends
          obtain ⟨rest, rfl⟩ := begins
          refine ⟨"gilbreth-archive-".toList ++ rest, unique, suffix, member, ?_,
            List.prefix_append _ _, ?_, parsed⟩
          · rw [named, joined]
            simp only [List.append_assoc, List.cons_append]
            rfl
          · have headed : ("." ++ archiveExtension).toList <:+
                '.' :: ("gilbreth-archive-".toList ++ rest) := ends
            rcases List.suffix_cons_iff.mp headed with whole | inner
            · have lengths := congrArg List.length whole
              have short : ("." ++ archiveExtension).toList.length = 4 := by decide
              have long : "gilbreth-archive-".toList.length = 17 := by decide
              rw [short, List.length_cons, List.length_append, long] at lengths
              omega
            · exact inner

end Names

section Effects

variable {name : RunFile → String} {directory : List String}

theorem apply_names (effect : DirectoryEffect) {other : String}
    (left : other ∈ effect.apply name directory) :
    other ∈ directory ∨ ∃ file, other = name file := by
  unfold DirectoryEffect.apply at left
  cases effect with
  | write file =>
      dsimp only at left
      split at left
      · exact Or.inl left
      · rcases List.mem_cons.mp left with rfl | before
        · exact Or.inr ⟨file, rfl⟩
        · exact Or.inl before
  | remove file => exact Or.inl (List.mem_of_mem_filter left)
  | rename source target =>
      dsimp only at left
      split at left
      · rcases List.mem_cons.mp left with rfl | before
        · exact Or.inr ⟨target, rfl⟩
        · exact Or.inl (List.mem_of_mem_filter before)
      · exact Or.inl left

theorem effects_names (effects : List DirectoryEffect) {other : String}
    (left : other ∈ effects.foldl (DirectoryEffect.apply name) directory) :
    other ∈ directory ∨ ∃ file, other = name file := by
  induction effects generalizing directory with
  | nil => exact Or.inl left
  | cons effect rest induction =>
      rcases induction left with before | named
      · exact apply_names effect before
      · exact Or.inr named

end Effects

section Receipt

theorem retry_class_count (className category : String) (count : Nat) :
    ((EraseTally.retryClass className category count).map ReceiptClass.itemCount).sum = count := by
  unfold EraseTally.retryClass
  split
  · rfl
  · rw [List.map_nil, List.sum_nil]
    omega

def EraseTally.total (tally : EraseTally) : Nat :=
  tally.sealedRemoved + tally.sealedRetry + tally.plaintextRemoved + tally.plaintextRetry +
    tally.stagingRemoved + tally.stagingRetry + tally.retained + tally.inventoryRetry

theorem classes_total (tally : EraseTally) :
    (tally.classes.map ReceiptClass.itemCount).sum = tally.total := by
  unfold EraseTally.classes EraseTally.total
  simp only [List.map_append, List.sum_append, retry_class_count, List.map_cons, List.map_nil,
    List.sum_cons, List.sum_nil, ReceiptClass.withCount]
  omega

variable [UuidParser]

theorem count_total (tally : EraseTally) (entry : ArchiveEntry) :
    (tally.count entry).total = tally.total + 1 := by
  unfold EraseTally.count EraseTally.total
  cases entry with
  | unreadable => rfl
  | named name scrubbed =>
      dsimp only
      split <;> dsimp only <;> omega

theorem counted_total (tally : EraseTally) (entries : List ArchiveEntry) :
    (entries.foldl EraseTally.count tally).total = tally.total + entries.length := by
  induction entries generalizing tally with
  | nil => rfl
  | cons entry rest induction =>
      rw [List.foldl_cons, induction, count_total, List.length_cons]
      omega

end Receipt

/-- Every name that a run leaves is recognised as what it is, only whole staging names are taken
for one, and the receipt counts every entry once. -/
theorem secure_erase_recognises_artifacts [UuidParser]
    (accepts : ∀ uuid, UuidParser.parses (hyphenated uuid) = true) :
    (∀ (nowMs : Option Nat) (gitSha : String) (unique : BitVec 128) (run : ArchiveRun)
      (directory : List String) (count : Nat),
      ∀ other ∈ run.crashed (RunFile.name (nextArchiveName nowMs gitSha) unique) directory count,
        other ∈ directory ∨
          ∃ file : RunFile, other = file.name (nextArchiveName nowMs gitSha) unique ∧
            archiveEraseClass other = some file.eraseClass) ∧
    (∀ name, archiveEraseClass name = some .staging →
      ∃ archiveName unique, ∃ suffix ∈ stagingSuffixes,
        name.toList = '.' :: (archiveName ++ '.' :: unique ++ suffix.toList) ∧
          "gilbreth-archive-".toList <+: archiveName ∧
            ("." ++ archiveExtension).toList <:+ archiveName ∧
              UuidParser.parses unique = true) ∧
    ∀ entries : List ArchiveEntry,
      ((removeArchivesForSecureErase (.listed entries)).classes.map ReceiptClass.itemCount).sum =
        entries.length := by
  refine ⟨?_, fun name staging => staging_shape staging, ?_⟩
  · intro nowMs gitSha unique run directory count other left
    rcases effects_names _ left with before | ⟨file, rfl⟩
    · exact Or.inl before
    · exact Or.inr ⟨file, rfl, run_file_class accepts nowMs gitSha unique file⟩
  · intro entries
    unfold removeArchivesForSecureErase
    rw [classes_total, counted_total]
    exact Nat.zero_add _

private abbrev hyphenatedParser : UuidParser :=
  ⟨fun text => text.length == 36 && text[8]? == some '-' && text[13]? == some '-' &&
    text[18]? == some '-' && text[23]? == some '-' &&
      text.all fun char => char == '-' || "0123456789abcdef".toList.contains char⟩

private theorem hyphenated_parses (uuid : BitVec 128) :
    hyphenatedParser.parses (hyphenated uuid) = true := by
  have chars : (hyphenated uuid).all (fun char =>
      char == '-' || "0123456789abcdef".toList.contains char) = true := by
    rw [List.all_eq_true]
    intro char member
    rcases hyphenated_chars uuid member with rfl | ⟨digit, small, rfl⟩
    · rfl
    · interval_cases digit <;> decide
  have shape : ((hyphenated uuid).length == 36 && (hyphenated uuid)[8]? == some '-' &&
      (hyphenated uuid)[13]? == some '-' && (hyphenated uuid)[18]? == some '-' &&
        (hyphenated uuid)[23]? == some '-') = true := rfl
  change (_ && _) = true
  rw [chars, shape]
  rfl

private def oneRun : ArchiveRun :=
  ⟨false, [(none, true), (some .journal, true)], true, .completed, true, fun _ => true, true, true⟩

theorem secure_erase_recognises_crash_leftovers :
    oneRun.crashed (RunFile.name (nextArchiveName (some 100) "deadbeef") 0) ["notes.txt"] 3 =
        [RunFile.pending.name (nextArchiveName (some 100) "deadbeef") 0,
          (RunFile.plaintext (some .journal)).name (nextArchiveName (some 100) "deadbeef") 0,
          (RunFile.plaintext none).name (nextArchiveName (some 100) "deadbeef") 0, "notes.txt"] ∧
      ∀ other ∈ oneRun.crashed (RunFile.name (nextArchiveName (some 100) "deadbeef") 0)
          ["notes.txt"] 3,
        other ∈ ["notes.txt"] ∨
          ∃ file : RunFile, other = file.name (nextArchiveName (some 100) "deadbeef") 0 ∧
            @archiveEraseClass hyphenatedParser other = some file.eraseClass := by
  refine ⟨?_, (@secure_erase_recognises_artifacts hyphenatedParser hyphenated_parses).1 (some 100)
    "deadbeef" 0 oneRun ["notes.txt"] 3⟩
  decide +kernel

end Gilbreth.App
