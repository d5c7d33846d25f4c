import Gilbreth.Archive.Segments

/-!
# Round trips

What is sealed under a passphrase is unsealed by it, for inputs of every length,
and a transcoded archive holds what its source holds. The only inputs that
cannot be sealed are those of more segments than the counter can number.
-/

set_option autoImplicit false

namespace Gilbreth.Archive

open Gilbreth.Core SegmentChain
open Gilbreth.Store (ArchiveProvenance)

/-- The documented behaviour of the ciphers and of `serde_json` that the format
rests on. AES-GCM takes messages and associated data of up to `2 ^ 36` bytes. -/
structure LawfulExternals [ArchiveExternals] : Prop where
  stream_opens : ∀ {key nonce position last aad msg ciphertext},
    ArchiveExternals.streamEncrypt key nonce position last aad msg = some ciphertext →
      ArchiveExternals.streamDecrypt key nonce position last aad ciphertext = some msg
  stream_encrypts : ∀ (key : ContentKey) (nonce : FixedBytes streamNonceLen) (position : Nat)
    (last : Bool) (aad msg : Bytes), aad.length ≤ 2 ^ 36 → msg.length ≤ 2 ^ 36 →
      (ArchiveExternals.streamEncrypt key nonce position last aad msg).isSome
  stream_encrypt_length : ∀ {key nonce position last aad msg ciphertext},
    ArchiveExternals.streamEncrypt key nonce position last aad msg = some ciphertext →
      ciphertext.length = msg.length + aesGcmTagLen
  stream_decrypt_length : ∀ {key nonce position last aad msg ciphertext},
    ArchiveExternals.streamDecrypt key nonce position last aad ciphertext = some msg →
      ciphertext.length = msg.length + aesGcmTagLen
  aead_opens : ∀ {key nonce aad msg ciphertext},
    ArchiveExternals.aeadEncrypt key nonce aad msg = some ciphertext →
      ArchiveExternals.aeadDecrypt key nonce aad ciphertext = some msg
  aead_encrypts : ∀ (key : ContentKey) (nonce : FixedBytes wrapNonceLen) (aad msg : Bytes),
    aad.length ≤ 2 ^ 36 → msg.length ≤ 2 ^ 36 →
      (ArchiveExternals.aeadEncrypt key nonce aad msg).isSome
  aead_encrypt_length : ∀ {key nonce aad msg ciphertext},
    ArchiveExternals.aeadEncrypt key nonce aad msg = some ciphertext →
      ciphertext.length = msg.length + aesGcmTagLen
  header_parses : ∀ {header json}, ArchiveExternals.headerToVec header = .ok json →
    ArchiveExternals.headerFromSlice json = .ok header
  header_not_empty : ∀ {header json}, ArchiveExternals.headerToVec header = .ok json → json ≠ []

variable [ArchiveExternals]

section KeyWrapping

theorem wrap_content_key_ok {random : SealRandom} {passphrase : String} {keyWrap : ArchiveKeyWrap}
    (wrapped : wrapContentKey random (.passphrase passphrase) = .ok keyWrap) :
    passphrase.isEmpty = false ∧ ∃ wrappingKey wrappedKey,
      derivePassphraseKey passphrase random.salt.val argon2MemoryKib argon2Iterations
        argon2Parallelism = .ok wrappingKey ∧
      ArchiveExternals.aeadEncrypt wrappingKey random.wrapNonce keyWrapAad
        random.contentKey.val = some wrappedKey ∧
      keyWrap = .passphrase wrappedKey random.salt argon2MemoryKib argon2Iterations
        argon2Parallelism random.wrapNonce := by
  rw [wrapContentKey] at wrapped
  cases empty : passphrase.isEmpty with
  | true => simp [empty] at wrapped
  | false =>
      simp only [empty, Bool.false_eq_true, if_false] at wrapped
      cases derived : derivePassphraseKey passphrase random.salt.val argon2MemoryKib
          argon2Iterations argon2Parallelism with
      | error error => simp [derived, bind, Except.bind] at wrapped
      | ok wrappingKey =>
          simp only [derived, bind, Except.bind] at wrapped
          cases boxed : ArchiveExternals.aeadEncrypt wrappingKey random.wrapNonce keyWrapAad
              random.contentKey.val with
          | none => simp [boxed] at wrapped
          | some wrappedKey =>
              simp only [boxed] at wrapped
              cases wrapped
              exact ⟨rfl, wrappingKey, wrappedKey, rfl, boxed, rfl⟩

theorem unwrap_wrapped_key (lawful : LawfulExternals) {random : SealRandom} {passphrase : String}
    {keyWrap : ArchiveKeyWrap}
    (wrapped : wrapContentKey random (.passphrase passphrase) = .ok keyWrap) :
    unwrapContentKey keyWrap (.passphrase passphrase) = .ok random.contentKey := by
  rcases wrap_content_key_ok wrapped with ⟨nonEmpty, wrappingKey, wrappedKey, derived, boxed, rfl⟩
  simp only [unwrapContentKey, nonEmpty, Bool.false_eq_true, if_false, derived, bind, Except.bind,
    lawful.aead_opens boxed, contentKeyOfBytes, random.contentKey.property, dif_pos]

theorem wrap_content_key_exists (lawful : LawfulExternals) {random : SealRandom}
    {passphrase : String} (nonEmpty : passphrase.isEmpty = false) {wrappingKey : ContentKey}
    (derived : derivePassphraseKey passphrase random.salt.val argon2MemoryKib argon2Iterations
      argon2Parallelism = .ok wrappingKey) :
    ∃ keyWrap, wrapContentKey random (.passphrase passphrase) = .ok keyWrap := by
  have boxed := lawful.aead_encrypts wrappingKey random.wrapNonce keyWrapAad random.contentKey.val
    (by decide) (by rw [random.contentKey.property]; decide)
  rcases Option.isSome_iff_exists.mp boxed with ⟨wrappedKey, boxed⟩
  refine ⟨.passphrase wrappedKey random.salt argon2MemoryKib argon2Iterations argon2Parallelism
    random.wrapNonce, ?_⟩
  simp only [wrapContentKey, nonEmpty, Bool.false_eq_true, if_false, derived, bind, Except.bind,
    boxed]
  rfl

theorem valid_wrapped_header (lawful : LawfulExternals) {random : SealRandom} {passphrase : String}
    {header : ArchiveHeader}
    (wrapped : wrapContentKey random (.passphrase passphrase) = .ok header.keyWrap)
    (named : (trim header.provenance.dbUuid).isEmpty = false)
    (size : 4 * 1024 ≤ header.chunkSize ∧ header.chunkSize ≤ 16 * 1024 * 1024) :
    validateHeader header = .ok () := by
  rcases wrap_content_key_ok wrapped with ⟨_, wrappingKey, wrappedKey, _, boxed, same⟩
  have long : wrappedKey.length = contentKeyLen + aesGcmTagLen := by
    rw [lawful.aead_encrypt_length boxed, random.contentKey.property]
  have bounds : argon2WithinBounds argon2MemoryKib argon2Iterations argon2Parallelism = true := by
    decide
  simp [validateHeader, named, size, same, long, bounds]

end KeyWrapping

section Chains

variable {key : ContentKey} {nonce : FixedBytes streamNonceLen} {bound : Bytes}
  {plaintexts ciphertexts : List Bytes}

theorem decrypt_box_opens (lawful : LawfulExternals) {position : Nat} {last : Bool}
    {aad msg ciphertext : Bytes}
    (boxed : encryptBox key nonce position last aad msg = some ciphertext) :
    decryptBox key nonce position last aad ciphertext = some msg := by
  rw [encryptBox] at boxed
  rw [decryptBox]
  split at boxed
  · contradiction
  · rename_i counted
    rw [if_neg counted, lawful.stream_opens boxed]

theorem encrypt_box_length (lawful : LawfulExternals) {position : Nat} {last : Bool}
    {aad msg ciphertext : Bytes}
    (boxed : encryptBox key nonce position last aad msg = some ciphertext) :
    ciphertext.length = msg.length + aesGcmTagLen := by
  rw [encryptBox] at boxed
  split at boxed
  · contradiction
  · exact lawful.stream_encrypt_length boxed

theorem decrypt_box_length (lawful : LawfulExternals) {position : Nat} {last : Bool}
    {aad msg ciphertext : Bytes}
    (boxed : decryptBox key nonce position last aad ciphertext = some msg) :
    ciphertext.length = msg.length + aesGcmTagLen := by
  rw [decryptBox] at boxed
  split at boxed
  · contradiction
  · exact lawful.stream_decrypt_length boxed

theorem decrypt_chain_opens (lawful : LawfulExternals)
    (sealed : encryptChain key nonce 0 bound plaintexts = some ciphertexts) :
    decryptChain key nonce 0 bound ciphertexts = some plaintexts := by
  have undoes : ∀ position last aad msg ciphertext,
      encryptBox key nonce position last aad msg = some ciphertext →
        decryptBox key nonce position last aad ciphertext = some msg :=
    fun _ _ _ _ _ => decrypt_box_opens lawful
  exact chain_undo undoes sealed

theorem encrypted_frames_fit (lawful : LawfulExternals) {size : Nat}
    (sealed : encryptChain key nonce 0 bound plaintexts = some ciphertexts)
    (short : ∀ plaintext ∈ plaintexts, plaintext.length ≤ size) :
    ∀ ciphertext ∈ ciphertexts, FrameFits (size + aesGcmTagLen) ciphertext := by
  intro ciphertext member
  rcases box_of_mem_chain sealed member with ⟨plaintext, source, place, last, aad, boxed⟩
  have long := encrypt_box_length lawful boxed
  have bounded := short plaintext source
  constructor <;> omega

theorem decrypted_segments_short (lawful : LawfulExternals) {size : Nat}
    (opened : decryptChain key nonce 0 bound ciphertexts = some plaintexts)
    (fit : ∀ ciphertext ∈ ciphertexts, FrameFits (size + aesGcmTagLen) ciphertext) :
    ∀ plaintext ∈ plaintexts, plaintext.length ≤ size := by
  intro plaintext member
  rcases box_of_mem_chain opened member with ⟨ciphertext, source, place, last, aad, boxed⟩
  have long := decrypt_box_length lawful boxed
  have bounded := (fit ciphertext source).2
  omega

omit [ArchiveExternals] in
/-- A chain of boxes that refuse the last counter to all but the last segment. -/
theorem chain_length_le_counter {box : Nat → Bool → Bytes → Bytes → Option Bytes}
    (limited : ∀ aad msg, box counterMax false aad msg = none) {items results : List Bytes}
    (ran : chain box [] 0 bound items = some results) : items.length ≤ counterMax + 1 := by
  by_contra longer
  have inside : counterMax < items.length := by omega
  rcases box_at_chain ran inside with ⟨aad, msg, result, boxed⟩
  have notLast : decide (counterMax + 1 = items.length) = false := by
    rw [decide_eq_false_iff_not]
    omega
  rw [notLast, Nat.zero_add, limited] at boxed
  contradiction

theorem encrypt_chain_length_le
    (sealed : encryptChain key nonce 0 bound plaintexts = some ciphertexts) :
    plaintexts.length ≤ counterMax + 1 :=
  chain_length_le_counter (fun _ _ => if_pos ⟨rfl, rfl⟩) sealed

theorem decrypt_chain_length_le
    (opened : decryptChain key nonce 0 bound ciphertexts = some plaintexts) :
    ciphertexts.length ≤ counterMax + 1 :=
  chain_length_le_counter (fun _ _ => if_pos ⟨rfl, rfl⟩) opened

theorem encrypt_chain_exists (lawful : LawfulExternals) (key : ContentKey)
    (nonce : FixedBytes streamNonceLen) (counted : plaintexts.length ≤ counterMax + 1)
    (short : ∀ plaintext ∈ plaintexts, plaintext.length ≤ 2 ^ 36)
    (carried : bound.length ≤ 2 ^ 36) :
    ∃ ciphertexts, encryptChain key nonce 0 bound plaintexts = some ciphertexts := by
  apply chain_is_some
  intro index inside aad either plaintext member
  have carries : aad.length ≤ 2 ^ 36 := by
    rcases either with rfl | rfl
    · exact carried
    · simp
  rw [encryptBox, if_neg]
  · exact lawful.stream_encrypts _ _ _ _ _ _ carries (short plaintext member)
  · rw [decide_eq_false_iff_not]
    omega

omit [ArchiveExternals] in
theorem authenticated_header_carried {json : Bytes} (fits : json.length ≤ maxHeaderLen) :
    (authenticatedHeader json).length ≤ 2 ^ 36 := by
  rw [authenticated_header_length]
  rw [maxHeaderLen] at fits
  rw [show fixedPrefixLen = 14 from rfl]
  omega

end Chains

section RoundTrip

variable {random : SealRandom} {provenance : ArchiveProvenance} {passphrase : String}

theorem unseal_written (lawful : LawfulExternals) {keyWrap : ArchiveKeyWrap}
    {header : ArchiveHeader} {json : Bytes} {plaintexts ciphertexts : List Bytes}
    (wrapped : wrapContentKey random (.passphrase passphrase) = .ok keyWrap) {chunkSize : Nat}
    (same : header = sealedHeader random provenance keyWrap chunkSize)
    (valid : validateHeader header = .ok ())
    (rendered : ArchiveExternals.headerToVec header = .ok json) (fits : json.length ≤ maxHeaderLen)
    (someSegment : plaintexts ≠ [])
    (sealed : encryptChain random.contentKey random.streamNonce 0 (authenticatedHeader json)
      plaintexts = some ciphertexts)
    (short : ∀ plaintext ∈ plaintexts, plaintext.length ≤ chunkSize) :
    unsealReader (authenticatedHeader json ++ frames ciphertexts) (.memory [])
      (.passphrase passphrase) = (.memory plaintexts.flatten, .ok header) := by
  have read := read_header_written (frames ciphertexts) valid (lawful.header_not_empty rendered)
    fits (lawful.header_parses rendered)
  have someCiphertext : ciphertexts ≠ [] := by
    have long := chain_length sealed
    intro none
    rw [none] at long
    exact someSegment (List.length_eq_zero_iff.mp long.symm)
  have opened := decrypt_chain_opens lawful sealed
  subst same
  exact unseal_reader_memory [] read (unwrap_wrapped_key lawful wrapped) someCiphertext
    (encrypted_frames_fit lawful sealed short) opened

theorem unseal_sealed (lawful : LawfulExternals) {plain : Bytes} {archive : Output}
    {header : ArchiveHeader}
    (ran : sealReader random plain (.memory []) provenance (.passphrase passphrase) =
      (archive, .ok header)) :
    header.provenance = provenance ∧
      unsealReader archive.written (.memory []) (.passphrase passphrase) =
        (.memory plain, .ok header) := by
  rcases seal_reader_ok ran with
    ⟨keyWrap, json, ciphertexts, wrapped, same, valid, rendered, fits, sealed, written⟩
  have back := unseal_written lawful wrapped same valid rendered fits (split_ne_nil _ _) sealed
    (fun plaintext member => length_le_of_mem_split (by decide) member)
  rw [split_flatten] at back
  rw [written]
  exact ⟨by rw [same]; rfl, back⟩

def HeaderFits (header : ArchiveHeader) : Prop :=
  ∃ json, ArchiveExternals.headerToVec header = .ok json ∧ json.length ≤ maxHeaderLen

/-- What sealing asks for besides a countable number of segments. -/
structure Sealable (random : SealRandom) (passphrase : String) (provenance : ArchiveProvenance)
    (chunkSize : Nat) : Prop where
  named : (trim provenance.dbUuid).isEmpty = false
  nonEmpty : passphrase.isEmpty = false
  derived : ∃ wrappingKey, derivePassphraseKey passphrase random.salt.val argon2MemoryKib
    argon2Iterations argon2Parallelism = .ok wrappingKey
  fits : ∀ keyWrap, wrapContentKey random (.passphrase passphrase) = .ok keyWrap →
    HeaderFits (sealedHeader random provenance keyWrap chunkSize)

theorem Sealable.header (lawful : LawfulExternals) {chunkSize : Nat}
    (sealable : Sealable random passphrase provenance chunkSize)
    (size : 4 * 1024 ≤ chunkSize ∧ chunkSize ≤ 16 * 1024 * 1024) :
    ∃ keyWrap json, wrapContentKey random (.passphrase passphrase) = .ok keyWrap ∧
      validateHeader (sealedHeader random provenance keyWrap chunkSize) = .ok () ∧
      ArchiveExternals.headerToVec (sealedHeader random provenance keyWrap chunkSize) = .ok json ∧
      json.length ≤ maxHeaderLen := by
  rcases sealable.derived with ⟨wrappingKey, derived⟩
  rcases wrap_content_key_exists lawful sealable.nonEmpty derived with ⟨keyWrap, wrapped⟩
  rcases sealable.fits keyWrap wrapped with ⟨json, rendered, small⟩
  exact ⟨keyWrap, json, wrapped, valid_wrapped_header lawful wrapped sealable.named size, rendered,
    small⟩

theorem segments_seal (lawful : LawfulExternals) (random : SealRandom) {json : Bytes}
    {plaintexts : List Bytes} {chunkSize : Nat} (size : chunkSize ≤ 16 * 1024 * 1024)
    (small : json.length ≤ maxHeaderLen) (counted : plaintexts.length ≤ counterMax + 1)
    (short : ∀ plaintext ∈ plaintexts, plaintext.length ≤ chunkSize) :
    ∃ ciphertexts,
      encryptChain random.contentKey random.streamNonce 0 (authenticatedHeader json) plaintexts =
        some ciphertexts ∧
      ∀ ciphertext ∈ ciphertexts, ciphertext.length ≤ 4294967295 := by
  rcases encrypt_chain_exists lawful random.contentKey random.streamNonce counted
    (fun plaintext member => (short plaintext member).trans (size.trans (by decide)))
    (authenticated_header_carried small) with ⟨ciphertexts, sealed⟩
  refine ⟨ciphertexts, sealed, ?_⟩
  intro ciphertext member
  have fits := (encrypted_frames_fit lawful sealed short ciphertext member).2
  rw [aesGcmTagLen] at fits
  omega

theorem seal_succeeds_iff (lawful : LawfulExternals) (plain : Bytes)
    (sealable : Sealable random passphrase provenance defaultChunkSize) :
    (∃ archive header, sealReader random plain (.memory []) provenance (.passphrase passphrase) =
      (archive, .ok header)) ↔ plain.length ≤ 2 ^ 32 * defaultChunkSize := by
  have counted : (split defaultChunkSize plain).length ≤ 2 ^ 32 ↔
      plain.length ≤ 2 ^ 32 * defaultChunkSize :=
    split_length_le_iff (by decide) plain _ (by decide)
  constructor
  · rintro ⟨archive, header, ran⟩
    rcases seal_reader_ok ran with ⟨_, _, _, _, _, _, _, _, sealed, _⟩
    exact counted.mp (encrypt_chain_length_le sealed)
  · intro short
    rcases sealable.header lawful (by decide) with ⟨keyWrap, json, wrapped, valid, rendered, small⟩
    rcases segments_seal lawful random (by decide) small (counted.mpr short)
      (fun piece member => length_le_of_mem_split (by decide) member) with
      ⟨ciphertexts, sealed, framed⟩
    exact ⟨_, _, seal_reader_memory [] wrapped rfl valid rendered small sealed framed⟩

theorem unseal_transcoded (lawful : LawfulExternals) {source : Bytes}
    {credential : ArchiveCredential} {archive : Output} {header : ArchiveHeader}
    (ran : transcodeReader random source (.memory []) credential (.passphrase passphrase) =
      (archive, .ok header)) :
    ∃ plain sourceHeader,
      unsealReader source (.memory []) credential = (.memory plain, .ok sourceHeader) ∧
      header.provenance = sourceHeader.provenance ∧
      unsealReader archive.written (.memory []) (.passphrase passphrase) =
        (.memory plain, .ok header) := by
  rcases transcode_reader_ok ran with ⟨sourceHeader, bound, sourceKey, keyWrap, json, sources,
    plaintexts, ciphertexts, read, unwrapped, someSegment, fit, opened, wrapped, same, valid,
    rendered, fits, sealed, written⟩
  have direct := unseal_reader_memory [] read unwrapped someSegment fit opened
  have somePlaintext : plaintexts ≠ [] := by
    have long := chain_length opened
    intro none
    rw [none] at long
    exact someSegment (List.length_eq_zero_iff.mp long.symm)
  have back := unseal_written lawful wrapped same valid rendered fits somePlaintext sealed
    (decrypted_segments_short lawful opened fit)
  rw [written]
  exact ⟨plaintexts.flatten, sourceHeader, direct, by rw [same]; rfl, back⟩

theorem transcode_succeeds (lawful : LawfulExternals) {source : Bytes}
    {credential : ArchiveCredential} {plain : Output} {sourceHeader : ArchiveHeader}
    (direct : unsealReader source (.memory []) credential = (plain, .ok sourceHeader))
    (sealable : Sealable random passphrase sourceHeader.provenance sourceHeader.chunkSize) :
    ∃ archive header,
      transcodeReader random source (.memory []) credential (.passphrase passphrase) =
        (archive, .ok header) := by
  rcases unseal_reader_ok direct with ⟨bound, sourceKey, sources, plaintexts, read, unwrapped,
    someSegment, fit, opened, _⟩
  have size := valid_chunk_size (read_header_ok read).2.1
  rcases sealable.header lawful size with ⟨keyWrap, json, wrapped, valid, rendered, small⟩
  have counted : plaintexts.length ≤ counterMax + 1 := by
    rw [chain_length opened]
    exact decrypt_chain_length_le opened
  rcases segments_seal lawful random size.2 small counted
    (decrypted_segments_short lawful opened fit) with ⟨ciphertexts, sealed, framed⟩
  exact ⟨_, _, transcode_reader_memory [] read unwrapped someSegment fit opened wrapped rfl valid
    rendered small sealed framed⟩

/-- Sealing and transcoding under a passphrase are undone by unsealing. -/
theorem archive_round_trip (lawful : LawfulExternals) (random : SealRandom) (passphrase : String) :
    (∀ plain provenance archive header,
      sealReader random plain (.memory []) provenance (.passphrase passphrase) =
        (archive, .ok header) →
      header.provenance = provenance ∧
        unsealReader archive.written (.memory []) (.passphrase passphrase) =
          (.memory plain, .ok header)) ∧
    (∀ plain provenance, Sealable random passphrase provenance defaultChunkSize →
      ((∃ archive header,
          sealReader random plain (.memory []) provenance (.passphrase passphrase) =
            (archive, .ok header)) ↔
        plain.length ≤ 2 ^ 32 * defaultChunkSize)) ∧
    (∀ source credential archive header,
      transcodeReader random source (.memory []) credential (.passphrase passphrase) =
        (archive, .ok header) →
      ∃ plain sourceHeader,
        unsealReader source (.memory []) credential = (.memory plain, .ok sourceHeader) ∧
        header.provenance = sourceHeader.provenance ∧
        unsealReader archive.written (.memory []) (.passphrase passphrase) =
          (.memory plain, .ok header)) ∧
    (∀ source credential plain sourceHeader,
      unsealReader source (.memory []) credential = (plain, .ok sourceHeader) →
      Sealable random passphrase sourceHeader.provenance sourceHeader.chunkSize →
      ∃ archive header,
        transcodeReader random source (.memory []) credential (.passphrase passphrase) =
          (archive, .ok header)) := by
  refine ⟨?_, ?_, ?_, ?_⟩
  · intro plain provenance archive header ran
    exact unseal_sealed lawful ran
  · intro plain provenance sealable
    exact seal_succeeds_iff lawful plain sealable
  · intro source credential archive header ran
    exact unseal_transcoded lawful ran
  · intro source credential plain sourceHeader direct sealable
    exact transcode_succeeds lawful direct sealable

end RoundTrip

end Gilbreth.Archive

/-! A cipher that only tags, for runs on fixed inputs. -/

namespace Gilbreth.Archive

open Gilbreth.Store (ArchiveProvenance)

section Sample

def untag (tag ciphertext : Bytes) : Option Bytes :=
  let size := ciphertext.length - tag.length
  if ciphertext.drop size = tag then some (ciphertext.take size) else none

theorem untag_append (tag msg : Bytes) : untag tag (msg ++ tag) = some msg := by
  simp [untag]

theorem untag_length {tag ciphertext msg : Bytes} (opened : untag tag ciphertext = some msg) :
    ciphertext.length = msg.length + tag.length := by
  simp only [untag] at opened
  split at opened
  · rename_i tagged
    cases opened
    have long := congrArg List.length tagged
    simp only [List.length_drop, List.length_take] at long ⊢
    omega
  · contradiction

def segmentTag (nonce : FixedBytes streamNonceLen) (position : Nat) (last : Bool) : Bytes :=
  LittleEndian.encode 8 position ++ [cond last 1 0] ++ nonce.val

theorem segment_tag_length (nonce : FixedBytes streamNonceLen) (position : Nat) (last : Bool) :
    (segmentTag nonce position last).length = aesGcmTagLen := by
  simp only [segmentTag, List.length_append, LittleEndian.encode_length, nonce.property]
  rfl

def sampleRandom : SealRandom where
  contentKey := .zero _
  salt := .zero _
  wrapNonce := .zero _
  streamNonce := .zero _

def sampleProvenance : ArchiveProvenance where
  dbUuid := "12c1a6cc"
  host := none
  schemaVersion := 6
  firstTs := none
  lastTs := none
  createdAt := .ofInt 30

def sampleHeader : ArchiveHeader where
  provenance := sampleProvenance
  keyWrap := .passphrase (List.replicate 48 0) (.zero _) argon2MemoryKib argon2Iterations
    argon2Parallelism (.zero _)
  chunkSize := defaultChunkSize
  streamNonce := .zero _

def asciiBytes (text : String) : Bytes := text.toList.map fun char => UInt8.ofNat char.toNat

/-- `[0,0,…]` in a JSON text. -/
def zerosJson (count : Nat) : Bytes := 91 :: (List.replicate count 48).intersperse 44 ++ [93]

def sampleHeaderJson : Bytes :=
  asciiBytes "\x7b\"provenance\":\x7b\"db_uuid\":\"12c1a6cc\",\"host\":null," ++
    asciiBytes "\"schema_version\":6,\"first_ts\":null,\"last_ts\":null,\"created_at\":30\x7d," ++
    asciiBytes "\"key_wrap\":\x7b\"method\":\"passphrase\",\"wrapped_key\":" ++ zerosJson 48 ++
    asciiBytes ",\"salt\":" ++ zerosJson 16 ++
    asciiBytes ",\"memory_kib\":65536,\"iterations\":3,\"parallelism\":1,\"wrap_nonce\":" ++
    zerosJson 12 ++ asciiBytes "\x7d,\"chunk_size\":1048576,\"stream_nonce\":" ++ zerosJson 7 ++
    asciiBytes "\x7d"

theorem ascii_bytes_length (text : String) : (asciiBytes text).length = text.toList.length := by
  rw [asciiBytes, List.length_map]

theorem sample_header_json_length :
    0 < sampleHeaderJson.length ∧ sampleHeaderJson.length ≤ maxHeaderLen := by
  simp only [sampleHeaderJson, List.length_append, ascii_bytes_length, String.reduceToList,
    List.length_cons, List.length_nil]
  decide

@[reducible] def sampleExternals : ArchiveExternals where
  streamEncrypt _ nonce position last _ msg := some (msg ++ segmentTag nonce position last)
  streamDecrypt _ nonce position last _ ciphertext :=
    untag (segmentTag nonce position last) ciphertext
  aeadEncrypt _ nonce _ msg := some (msg ++ (nonce.val ++ [0, 0, 0, 0]))
  aeadDecrypt _ nonce _ ciphertext := untag (nonce.val ++ [0, 0, 0, 0]) ciphertext
  hashPasswordInto _ _ _ _ _ := .ok (.zero _)
  dpapiProtect _ := .error .dpapiUnsupported
  dpapiUnprotect _ := .error .dpapiUnsupported
  headerToVec header :=
    if header = sampleHeader then .ok sampleHeaderJson else .error "outside the sample"
  headerFromSlice json :=
    if json = sampleHeaderJson then .ok sampleHeader else .error "outside the sample"

attribute [local instance] sampleExternals

theorem sample_lawful : LawfulExternals where
  stream_opens := by
    intro key nonce position last aad msg ciphertext sealed
    cases sealed
    exact untag_append _ _
  stream_encrypts := fun _ _ _ _ _ _ _ _ => rfl
  stream_encrypt_length := by
    intro key nonce position last aad msg ciphertext sealed
    cases sealed
    rw [List.length_append, segment_tag_length]
  stream_decrypt_length := by
    intro key nonce position last aad msg ciphertext opened
    rw [untag_length opened, segment_tag_length]
  aead_opens := by
    intro key nonce aad msg ciphertext sealed
    cases sealed
    exact untag_append _ _
  aead_encrypts := fun _ _ _ _ _ _ => rfl
  aead_encrypt_length := by
    intro key nonce aad msg ciphertext sealed
    cases sealed
    simp only [List.length_append, nonce.property]
    rfl
  header_parses := by
    intro header json rendered
    simp only [ArchiveExternals.headerToVec] at rendered
    split at rendered
    · rename_i same
      rw [same, ← Except.ok.inj rendered]
      exact if_pos rfl
    · contradiction
  header_not_empty := by
    intro header json rendered
    simp only [ArchiveExternals.headerToVec] at rendered
    split at rendered
    · rw [← Except.ok.inj rendered]
      exact List.ne_nil_of_length_pos sample_header_json_length.1
    · contradiction

theorem sample_sealable :
    Sealable sampleRandom "correct horse" sampleProvenance defaultChunkSize where
  named := by decide +kernel
  nonEmpty := by decide +kernel
  derived := ⟨.zero _, rfl⟩
  fits := by
    intro keyWrap wrapped
    rcases wrap_content_key_ok wrapped with ⟨_, _, _, _, boxed, rfl⟩
    cases boxed
    exact ⟨sampleHeaderJson, if_pos rfl, sample_header_json_length.2⟩

/-- Three bytes sealed, transcoded and unsealed. -/
theorem archive_round_trip_sample :
    ∃ archive header,
      sealReader sampleRandom [1, 2, 3] (.memory []) sampleProvenance
        (.passphrase "correct horse") = (archive, .ok header) ∧
      unsealReader archive.written (.memory []) (.passphrase "correct horse") =
        (.memory [1, 2, 3], .ok header) ∧
      ∃ portable exported,
        transcodeReader sampleRandom archive.written (.memory []) (.passphrase "correct horse")
          (.passphrase "correct horse") = (portable, .ok exported) ∧
        unsealReader portable.written (.memory []) (.passphrase "correct horse") =
          (.memory [1, 2, 3], .ok exported) := by
  rcases archive_round_trip sample_lawful sampleRandom "correct horse" with
    ⟨sealing, succeeds, transcoding, transcodes⟩
  rcases (succeeds [1, 2, 3] sampleProvenance sample_sealable).mpr (by decide) with
    ⟨archive, header, ran⟩
  have back := sealing _ _ _ _ ran
  have exportable : Sealable sampleRandom "correct horse" header.provenance header.chunkSize := by
    rcases seal_reader_ok ran with ⟨_, _, _, _, same, _⟩
    rw [same]
    exact sample_sealable
  rcases transcodes _ _ _ _ back.2 exportable with ⟨portable, exported, moved⟩
  rcases transcoding _ _ _ _ moved with ⟨plain, sourceHeader, direct, _, again⟩
  have same := back.2.symm.trans direct
  cases same
  exact ⟨archive, header, ran, back.2, portable, exported, moved, again⟩

end Sample

end Gilbreth.Archive
