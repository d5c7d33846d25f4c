import Gilbreth.Archive.RoundTrip

/-!
# Integrity

Each segment is an ideal box: under the content key nothing opens but what one
sealing put there, at its position, with its flag and its associated data. Then
the only bytes that are unsealed under that key are the archive itself.
-/

set_option autoImplicit false

namespace Gilbreth.Archive

open Gilbreth.Core SegmentChain
open Gilbreth.Store (ArchiveProvenance)

variable [ArchiveExternals]

/-- A box that sealing `plain` under `header` made. -/
def SealedBox (random : SealRandom) (plain : Bytes) (header : ArchiveHeader)
    (sealed : Box Bytes Bytes Bytes) : Prop :=
  ∃ json ciphertexts, ArchiveExternals.headerToVec header = .ok json ∧
    encryptChain random.contentKey random.streamNonce 0 (authenticatedHeader json)
      (split defaultChunkSize plain) = some ciphertexts ∧
    sealed ∈ boxes [] 0 (authenticatedHeader json) (split defaultChunkSize plain) ciphertexts

/-- Under the content key a segment opens only as it was sealed. -/
def IdealBoxes (random : SealRandom) (plain : Bytes) (header : ArchiveHeader) : Prop :=
  ∀ {nonce position last aad ciphertext msg},
    ArchiveExternals.streamDecrypt random.contentKey nonce position last aad ciphertext =
        some msg →
      nonce = random.streamNonce ∧
        SealedBox random plain header ⟨position, last, aad, msg, ciphertext⟩

section Integrity

variable {random : SealRandom} {plain input : Bytes} {provenance : ArchiveProvenance}
  {key : ArchiveSealKey} {credential : ArchiveCredential} {archive output reached : Output}
  {header opened : ArchiveHeader}

theorem decrypt_box_some {contentKey : ContentKey} {nonce : FixedBytes streamNonceLen}
    {position : Nat} {last : Bool} {aad msg ciphertext : Bytes}
    (opens : decryptBox contentKey nonce position last aad ciphertext = some msg) :
    ArchiveExternals.streamDecrypt contentKey nonce position last aad ciphertext = some msg := by
  rw [decryptBox] at opens
  split at opens
  · contradiction
  · exact opens

theorem unsealed_is_sealed
    (ran : sealReader random plain (.memory []) provenance key = (archive, .ok header))
    (ideal : IdealBoxes random plain header)
    (accepted : unsealReader input output credential = (reached, .ok opened))
    (keyed : unwrapContentKey opened.keyWrap credential = .ok random.contentKey) :
    input = archive.written ∧ reached.written = output.written ++ plain := by
  rcases seal_reader_ok ran with
    ⟨keyWrap, json, ciphertexts, _, _, _, rendered, _, sealed, written⟩
  rcases unseal_reader_ok accepted with
    ⟨bound, contentKey, presented, plaintexts, read, unwrapped, someSegment, _, chained, delivered⟩
  cases keyed.symm.trans unwrapped
  have sameBoxes : ∀ place last aad ciphertext msg, 0 ≤ place →
      decryptBox random.contentKey opened.streamNonce place last aad ciphertext = some msg →
        (⟨place, last, aad, msg, ciphertext⟩ : Box Bytes Bytes Bytes) ∈
          boxes [] 0 (authenticatedHeader json) (split defaultChunkSize plain) ciphertexts := by
    intro place last aad ciphertext msg _ opens
    rcases (ideal (decrypt_box_some opens)).2 with ⟨other, others, renderedOther, sealedOther, box⟩
    cases rendered.symm.trans renderedOther
    cases sealed.symm.trans sealedOther
    exact box
  rcases chain_unique (chain_length sealed) sameBoxes someSegment chained with
    ⟨rfl, rfl, rfl⟩
  constructor
  · rw [(read_header_ok read).1, written]
    rfl
  · rw [unseal_deliver_ok delivered, split_flatten]

/-- Bytes that begin with the archive's header, or break off the archive. -/
def KeepsHeader (header : ArchiveHeader) (archive input : Bytes) : Prop :=
  input <+: archive ∨
    ∃ json body, ArchiveExternals.headerToVec header = .ok json ∧
      input = authenticatedHeader json ++ body

/-- What was rendered is what is read, and the credential opens the key wrap. -/
structure RightCredential (random : SealRandom) (header : ArchiveHeader)
    (credential : ArchiveCredential) : Prop where
  unwraps : unwrapContentKey header.keyWrap credential = .ok random.contentKey
  parses : ∀ {json}, ArchiveExternals.headerToVec header = .ok json →
    json ≠ [] ∧ ArchiveExternals.headerFromSlice json = .ok header

theorem header_of_kept
    (ran : sealReader random plain (.memory []) provenance key = (archive, .ok header))
    (right : RightCredential random header credential)
    (kept : KeepsHeader header archive.written input) {bound rest : Bytes}
    (read : readHeader input = .ok (opened, bound, rest)) : opened = header := by
  rcases seal_reader_ok ran with
    ⟨keyWrap, json, ciphertexts, _, _, valid, rendered, fits, _, written⟩
  rcases right.parses rendered with ⟨someJson, parsed⟩
  rcases kept with ⟨missing, whole⟩ | ⟨other, body, renderedOther, rfl⟩
  · rcases read_header_ok read with ⟨rfl, validRead, other, rfl, someOther, fitsOther, parsedOther⟩
    have extended := read_header_written (rest ++ missing) validRead someOther fitsOther parsedOther
    have direct := read_header_written (frames ciphertexts) valid someJson fits parsed
    rw [← List.append_assoc, whole, written] at extended
    exact congrArg Prod.fst (Except.ok.inj (extended.symm.trans direct))
  · cases rendered.symm.trans renderedOther
    cases (read_header_written body valid someJson fits parsed).symm.trans read
    rfl

theorem kept_header_is_sealed
    (ran : sealReader random plain (.memory []) provenance key = (archive, .ok header))
    (ideal : IdealBoxes random plain header) (right : RightCredential random header credential)
    (kept : KeepsHeader header archive.written input)
    (accepted : unsealReader input output credential = (reached, .ok opened)) :
    input = archive.written := by
  rcases unseal_reader_ok accepted with ⟨bound, _, _, _, read, _⟩
  have same := header_of_kept ran right kept read
  have keyed : unwrapContentKey opened.keyWrap credential = .ok random.contentKey := by
    rw [same]
    exact right.unwraps
  exact (unsealed_is_sealed ran ideal accepted keyed).1

end Integrity

section Files

variable {readings : FileReadings} {path : String} {destination : Option Bytes}
  {body : Output → Output × Except ArchiveError ArchiveHeader}

omit [ArchiveExternals] in
theorem settle_ok {result : Except ArchiveError ArchiveHeader} {header : ArchiveHeader}
    (settled : readings.settle result = .ok header) : result = .ok header := by
  rw [FileReadings.settle] at settled
  cases result with
  | error error => simp [bind, Except.bind] at settled
  | ok written =>
      cases flushed : ioOutcome readings.flush with
      | error error => simp [bind, Except.bind, flushed] at settled
      | ok done =>
          cases synced : ioOutcome readings.sync with
          | error error => simp [bind, Except.bind, flushed, synced] at settled
          | ok done =>
              simp only [bind, Except.bind, flushed, synced, pure, Except.pure] at settled
              exact settled

omit [ArchiveExternals] in
theorem create_new_ok (created : createNew readings path destination = .ok ()) :
    destination = none := by
  rw [createNew] at created
  cases made : ioOutcome readings.createDir with
  | error error => simp [bind, Except.bind, made] at created
  | ok done =>
      cases destination with
      | none => rfl
      | some content => simp [bind, Except.bind, made] at created

omit [ArchiveExternals] in
/-- A failure leaves at the path what stood there, unless the removal fails too. -/
theorem write_new_file_error {error : ArchiveError}
    (failed : (writeNewFile readings path destination body).2 = .error error)
    (removes : readings.remove = none) :
    (writeNewFile readings path destination body).1 = destination := by
  have removed : ∀ content, readings.removeIfPresent content = none := by
    intro content
    rw [FileReadings.removeIfPresent, removes]
    rfl
  rw [writeNewFile] at failed ⊢
  split
  · rfl
  · rfl
  · rename_i opened created
    have absent := create_new_ok created
    simp only
    split
    · rw [removed, absent]
    · rename_i header settled
      simp only [opened, created, settled, reduceCtorEq] at failed

omit [ArchiveExternals] in
theorem write_new_file_ok {header : ArchiveHeader}
    (succeeded : (writeNewFile readings path destination body).2 = .ok header) :
    destination = none ∧ (body ⟨[], readings.room⟩).2 = .ok header ∧
      (writeNewFile readings path destination body).1 =
        some (body ⟨[], readings.room⟩).1.written := by
  rw [writeNewFile] at succeeded ⊢
  split at succeeded
  · simp at succeeded
  · simp at succeeded
  · rename_i opened created
    simp only at succeeded
    split at succeeded
    · simp at succeeded
    · rename_i settled
      cases succeeded
      simp only [settled]
      exact ⟨create_new_ok created, settle_ok settled, trivial⟩

end Files

/-- Only the archive itself is unsealed, and what is rejected leaves no file of
its own unless the removal of that file fails. -/
theorem archive_integrity {random : SealRandom} {plain : Bytes} {provenance : ArchiveProvenance}
    {key : ArchiveSealKey} {archive : Output} {header : ArchiveHeader}
    (ran : sealReader random plain (.memory []) provenance key = (archive, .ok header))
    (ideal : IdealBoxes random plain header) (credential : ArchiveCredential)
    (right : RightCredential random header credential) :
    (∀ input output reached opened,
      unsealReader input output credential = (reached, .ok opened) →
      unwrapContentKey opened.keyWrap credential = .ok random.contentKey →
      input = archive.written ∧ reached.written = output.written ++ plain) ∧
    (∀ input output, KeepsHeader header archive.written input → input ≠ archive.written →
      ∃ error, (unsealReader input output credential).2 = .error error) ∧
    (∀ readings input path destination error, readings.remove = none →
      (unsealArchiveTo readings input path destination credential).2 = .error error →
      (unsealArchiveTo readings input path destination credential).1 = destination) ∧
    (∀ readings input path destination opened,
      (unsealArchiveTo readings input path destination credential).2 = .ok opened →
      unwrapContentKey opened.keyWrap credential = .ok random.contentKey →
      input = archive.written ∧ destination = none ∧
        (unsealArchiveTo readings input path destination credential).1 = some plain) := by
  refine ⟨?_, ?_, ?_, ?_⟩
  · intro input output reached opened accepted keyed
    exact unsealed_is_sealed ran ideal accepted keyed
  · intro input output kept other
    rcases outcome : unsealReader input output credential with ⟨reached, error | opened⟩
    · exact ⟨error, rfl⟩
    · exact absurd (kept_header_is_sealed ran ideal right kept outcome) other
  · intro readings input path destination error removes failed
    exact write_new_file_error failed removes
  · intro readings input path destination opened succeeded keyed
    rcases write_new_file_ok succeeded with ⟨absent, accepted, content⟩
    have own := unsealed_is_sealed ran ideal (Prod.ext rfl accepted) keyed
    refine ⟨own.1, absent, ?_⟩
    rw [unsealArchiveTo, content, own.2]
    rfl

end Gilbreth.Archive

/-! The sample cipher, under whose key one box opens. -/

namespace Gilbreth.Archive

open SegmentChain

section Sample

def sampleArchive : Bytes :=
  authenticatedHeader sampleHeaderJson ++
    frames [[1, 2, 3] ++ segmentTag (.zero streamNonceLen) 0 true]

@[reducible] def idealExternals : ArchiveExternals :=
  { sampleExternals with
    streamDecrypt := fun _ nonce position last aad ciphertext =>
      if nonce = .zero _ ∧ position = 0 ∧ last = true ∧
          aad = authenticatedHeader sampleHeaderJson ∧
          ciphertext = [1, 2, 3] ++ segmentTag (.zero _) 0 true then some [1, 2, 3]
      else none }

attribute [local instance] idealExternals

theorem sample_wrapped : wrapContentKey sampleRandom (.passphrase "correct horse") =
    .ok sampleHeader.keyWrap := by
  decide +kernel

theorem sample_header_valid : validateHeader sampleHeader = .ok () := by
  decide +kernel

theorem sample_segments : encryptChain sampleRandom.contentKey sampleRandom.streamNonce 0
    (authenticatedHeader sampleHeaderJson) (split defaultChunkSize [1, 2, 3]) =
      some [[1, 2, 3] ++ segmentTag (.zero _) 0 true] := by
  rw [split_of_short (by decide)]
  rfl

theorem sample_sealed :
    sealReader sampleRandom [1, 2, 3] (.memory []) sampleProvenance (.passphrase "correct horse") =
      (.memory sampleArchive, .ok sampleHeader) :=
  seal_reader_memory [] sample_wrapped rfl sample_header_valid (if_pos rfl)
    sample_header_json_length.2 sample_segments (by decide)

theorem sample_ideal : IdealBoxes sampleRandom [1, 2, 3] sampleHeader := by
  intro nonce position last aad ciphertext msg opens
  simp only [ArchiveExternals.streamDecrypt] at opens
  split at opens
  · rename_i bound
    rcases bound with ⟨rfl, rfl, rfl, rfl, rfl⟩
    cases opens
    refine ⟨rfl, sampleHeaderJson, _, if_pos rfl, sample_segments, ?_⟩
    rw [split_of_short (by decide)]
    exact List.mem_cons_self
  · contradiction

theorem sample_credential :
    RightCredential sampleRandom sampleHeader (.passphrase "correct horse") where
  unwraps := by decide +kernel
  parses := by
    intro json rendered
    simp only [ArchiveExternals.headerToVec, if_true, Except.ok.injEq] at rendered
    rw [← rendered]
    exact ⟨List.ne_nil_of_length_pos sample_header_json_length.1, if_pos rfl⟩

/-- The archive of three bytes, with a byte appended. -/
theorem archive_integrity_sample :
    ∃ error, (unsealReader (sampleArchive ++ [0]) (.memory [])
      (.passphrase "correct horse")).2 = .error error := by
  refine (archive_integrity sample_sealed sample_ideal _ sample_credential).2.1 _ _ (Or.inr ?_) ?_
  · exact ⟨sampleHeaderJson, _, if_pos rfl, List.append_assoc _ _ _⟩
  · intro same
    have long : (sampleArchive ++ [0]).length = sampleArchive.length := congrArg List.length same
    simp at long

/-- An empty file is a proper prefix of every archive. It is rejected, and where the
system refuses to remove the new file, that file stays. -/
theorem rejected_archive_leaves_file :
    unsealArchiveTo
        { openSource := none
          createDir := none
          createNew := none
          room := none
          flush := none
          sync := none
          remove := some "Access is denied." }
        [] "portable.db" none (.passphrase "correct horse") =
      (some [], .error (.io "failed to fill whole buffer")) := rfl

end Sample

end Gilbreth.Archive
