import Gilbreth.Core.Text
import Gilbreth.Library.LittleEndian
import Gilbreth.Library.SegmentChain
import Gilbreth.Store.Archive

/-!
# The archive format

A fixed prefix, a length-delimited JSON header and length-delimited segments of
an authenticated stream. Readers are the bytes they still hold, writers the
bytes they took and what the device below still takes. The ciphers, the key
derivation, the platform key store and the JSON text of a header are outside
the repository and come in as one class of functions.
-/

set_option autoImplicit false

namespace Gilbreth.Archive

open Gilbreth.Core
open Gilbreth.Store (ArchiveProvenance)

abbrev Bytes := List UInt8

/-- `[u8; n]`. -/
abbrev FixedBytes (n : Nat) := { bytes : Bytes // bytes.length = n }

def FixedBytes.zero (n : Nat) : FixedBytes n := ⟨List.replicate n 0, List.length_replicate⟩

section Constants

def archiveMagic : Bytes := [71, 66, 82, 84, 72, 65, 82, 67]
def archiveFormatVersion : Nat := 1
def defaultChunkSize : Nat := 1024 * 1024
def fixedPrefixLen : Nat := archiveMagic.length + 2 + 4
def maxHeaderLen : Nat := 1024 * 1024
def aesGcmTagLen : Nat := 16
def streamNonceLen : Nat := 7
def wrapNonceLen : Nat := 12
def contentKeyLen : Nat := 32
def passphraseSaltLen : Nat := 16
/-- `b"Gilbreth archive content key v1"`. -/
def keyWrapAad : Bytes :=
  [71, 105, 108, 98, 114, 101, 116, 104, 32, 97, 114, 99, 104, 105, 118, 101, 32, 99, 111, 110, 116,
    101, 110, 116, 32, 107, 101, 121, 32, 118, 49]
def argon2MemoryKib : Nat := 64 * 1024
def argon2Iterations : Nat := 3
def argon2Parallelism : Nat := 1

/-- The largest counter of a `StreamBE32`. -/
def counterMax : Nat := 4294967295

end Constants

inductive ArchiveError where
  | io (text : String)
  | json (text : String)
  | invalidFormat (text : String)
  | authenticationFailed
  | dpapiKeyUnavailable
  | dpapiUnsupported
  | emptyPassphrase
  | keyDerivation (text : String)
  | outputExists (path : String)
deriving DecidableEq

inductive ArchiveKeyWrap where
  | dpapiUser (wrappedKey : Bytes)
  | passphrase (wrappedKey : Bytes) (salt : FixedBytes passphraseSaltLen) (memoryKib : Nat)
      (iterations : Nat) (parallelism : Nat) (wrapNonce : FixedBytes wrapNonceLen)
deriving DecidableEq

structure ArchiveHeader where
  provenance : ArchiveProvenance
  keyWrap : ArchiveKeyWrap
  chunkSize : Nat
  streamNonce : FixedBytes streamNonceLen
deriving DecidableEq

inductive ArchiveCredential where
  | dpapiUser
  | passphrase (text : String)
deriving DecidableEq

inductive ArchiveSealKey where
  | dpapiUser
  | passphrase (text : String)
deriving DecidableEq

abbrev ContentKey := FixedBytes contentKeyLen

/-- What lies outside the repository: AES-256-GCM as the segment cipher of a
`StreamBE32` (key, nonce prefix, counter, last flag, associated data, message)
and on its own, Argon2id, the data-protection calls and `serde_json`. -/
class ArchiveExternals where
  streamEncrypt : ContentKey → FixedBytes streamNonceLen → Nat → Bool → Bytes → Bytes → Option Bytes
  streamDecrypt : ContentKey → FixedBytes streamNonceLen → Nat → Bool → Bytes → Bytes → Option Bytes
  aeadEncrypt : ContentKey → FixedBytes wrapNonceLen → Bytes → Bytes → Option Bytes
  aeadDecrypt : ContentKey → FixedBytes wrapNonceLen → Bytes → Bytes → Option Bytes
  hashPasswordInto : String → Bytes → Nat → Nat → Nat → Except String ContentKey
  dpapiProtect : Bytes → Except ArchiveError Bytes
  dpapiUnprotect : Bytes → Except ArchiveError Bytes
  headerToVec : ArchiveHeader → Except String Bytes
  headerFromSlice : Bytes → Except String ArchiveHeader

section Streams

/-- A writer: what it took and, for a device that can fill up, what it still takes. -/
structure Output where
  written : Bytes
  room : Option Nat

/-- A `Vec<u8>`, which takes everything. -/
def Output.memory (written : Bytes) : Output := ⟨written, none⟩

def Output.writeAll (output : Output) (bytes : Bytes) : Output × Except ArchiveError Unit :=
  match output.room with
  | none => (⟨output.written ++ bytes, none⟩, .ok ())
  | some room =>
      if bytes.length ≤ room then
        (⟨output.written ++ bytes, some (room - bytes.length)⟩, .ok ())
      else
        (⟨output.written ++ bytes.take room, some 0⟩, .error (.io "failed to write whole buffer"))

def readExact (input : Bytes) (count : Nat) : Except ArchiveError (Bytes × Bytes) :=
  if count ≤ input.length then .ok (input.take count, input.drop count)
  else .error (.io "failed to fill whole buffer")

/-- The loop of short reads stops at the maximum or at the end of the input. -/
def readChunk (input : Bytes) (maximum : Nat) : Bytes × Bytes :=
  (input.take maximum, input.drop maximum)

theorem read_exact_append {bytes rest : Bytes} {count : Nat} (long : bytes.length = count) :
    readExact (bytes ++ rest) count = .ok (bytes, rest) := by
  simp [readExact, ← long]

theorem read_exact_ok {input taken rest : Bytes} {count : Nat}
    (read : readExact input count = .ok (taken, rest)) :
    input = taken ++ rest ∧ taken.length = count := by
  rw [readExact] at read
  split at read
  · cases read
    constructor
    · exact (List.take_append_drop count input).symm
    · simp_all
  · contradiction

@[simp] theorem write_all_memory (written bytes : Bytes) :
    (Output.memory written).writeAll bytes = (Output.memory (written ++ bytes), .ok ()) := rfl

theorem write_all_ok {output reached : Output} {bytes : Bytes}
    (wrote : output.writeAll bytes = (reached, .ok ())) :
    reached.written = output.written ++ bytes := by
  rw [Output.writeAll] at wrote
  split at wrote
  · cases wrote
    rfl
  · split at wrote
    · cases wrote
      rfl
    · simp at wrote

end Streams

section KeyWrapping

variable [ArchiveExternals]

/-- `(8 * 1024..=1024 * 1024)`, `(1..=10)` and `(1..=16)`. -/
def argon2WithinBounds (memoryKib iterations parallelism : Nat) : Bool :=
  (8 * 1024 ≤ memoryKib && memoryKib ≤ 1024 * 1024) && (1 ≤ iterations && iterations ≤ 10) &&
    (1 ≤ parallelism && parallelism ≤ 16)

def derivePassphraseKey (passphrase : String) (salt : Bytes)
    (memoryKib iterations parallelism : Nat) : Except ArchiveError ContentKey :=
  if argon2WithinBounds memoryKib iterations parallelism then
    match ArchiveExternals.hashPasswordInto passphrase salt memoryKib iterations parallelism with
    | .ok key => .ok key
    | .error error => .error (.keyDerivation error)
  else
    .error (.invalidFormat "argon2id parameters are outside supported safety bounds")

structure SealRandom where
  contentKey : ContentKey
  salt : FixedBytes passphraseSaltLen
  wrapNonce : FixedBytes wrapNonceLen
  streamNonce : FixedBytes streamNonceLen

def wrapContentKey (random : SealRandom) (key : ArchiveSealKey) :
    Except ArchiveError ArchiveKeyWrap :=
  match key with
  | .dpapiUser => do
      let wrappedKey ← ArchiveExternals.dpapiProtect random.contentKey.val
      return .dpapiUser wrappedKey
  | .passphrase passphrase =>
      if passphrase.isEmpty then .error .emptyPassphrase
      else do
        let wrappingKey ← derivePassphraseKey passphrase random.salt.val argon2MemoryKib
          argon2Iterations argon2Parallelism
        match ArchiveExternals.aeadEncrypt wrappingKey random.wrapNonce keyWrapAad
            random.contentKey.val with
        | none => .error .authenticationFailed
        | some wrappedKey =>
            return .passphrase wrappedKey random.salt argon2MemoryKib argon2Iterations
              argon2Parallelism random.wrapNonce

def contentKeyOfBytes (bytes : Bytes) : Except ArchiveError ContentKey :=
  if long : bytes.length = contentKeyLen then .ok ⟨bytes, long⟩
  else .error (.invalidFormat "wrapped content key is not 32 bytes")

def unwrapContentKey (keyWrap : ArchiveKeyWrap) (credential : ArchiveCredential) :
    Except ArchiveError ContentKey :=
  match keyWrap, credential with
  | .dpapiUser wrappedKey, .dpapiUser => do
      contentKeyOfBytes (← ArchiveExternals.dpapiUnprotect wrappedKey)
  | .passphrase wrappedKey salt memoryKib iterations parallelism wrapNonce,
      .passphrase passphrase =>
      if passphrase.isEmpty then .error .emptyPassphrase
      else do
        let wrappingKey ← derivePassphraseKey passphrase salt.val memoryKib iterations parallelism
        match ArchiveExternals.aeadDecrypt wrappingKey wrapNonce keyWrapAad wrappedKey with
        | none => .error .authenticationFailed
        | some bytes => contentKeyOfBytes bytes
  | .dpapiUser _, .passphrase _ => .error .authenticationFailed
  | .passphrase .., .dpapiUser => .error .authenticationFailed

end KeyWrapping

section Header

def validateHeader (header : ArchiveHeader) : Except ArchiveError Unit :=
  if (trim header.provenance.dbUuid).isEmpty then
    .error (.invalidFormat "source db_uuid is missing")
  else if !(4 * 1024 ≤ header.chunkSize && header.chunkSize ≤ 16 * 1024 * 1024) then
    .error (.invalidFormat "archive chunk size is outside supported bounds")
  else
    match header.keyWrap with
    | .dpapiUser wrappedKey =>
        if wrappedKey.isEmpty then .error (.invalidFormat "DPAPI-wrapped key is empty") else .ok ()
    | .passphrase wrappedKey _ memoryKib iterations parallelism _ =>
        if wrappedKey.length ≠ contentKeyLen + aesGcmTagLen then
          .error (.invalidFormat "passphrase-wrapped key length is invalid")
        else if !argon2WithinBounds memoryKib iterations parallelism then
          .error (.invalidFormat "argon2id parameters are outside supported safety bounds")
        else .ok ()

/-- The prefix and the header, which the first segment authenticates. -/
def authenticatedHeader (json : Bytes) : Bytes :=
  archiveMagic ++ LittleEndian.encode 2 archiveFormatVersion ++ LittleEndian.encode 4 json.length ++
    json

theorem authenticated_header_length (json : Bytes) :
    (authenticatedHeader json).length = fixedPrefixLen + json.length := by
  simp only [authenticatedHeader, List.length_append, LittleEndian.encode_length, fixedPrefixLen]

theorem fixed_prefix_fields (json : Bytes) (fits : json.length ≤ maxHeaderLen) :
    ∃ fixed, authenticatedHeader json = fixed ++ json ∧ fixed.length = fixedPrefixLen ∧
      fixed.take archiveMagic.length = archiveMagic ∧
      LittleEndian.decode ((fixed.drop archiveMagic.length).take 2) = archiveFormatVersion ∧
      LittleEndian.decode ((fixed.drop (archiveMagic.length + 2)).take 4) = json.length := by
  have version : LittleEndian.decode (LittleEndian.encode 2 archiveFormatVersion) =
      archiveFormatVersion := LittleEndian.decode_encode (by decide)
  have size : LittleEndian.decode (LittleEndian.encode 4 json.length) = json.length := by
    apply LittleEndian.decode_encode
    rw [maxHeaderLen] at fits
    omega
  have sizeBytes : (LittleEndian.encode 4 json.length).take 4 = LittleEndian.encode 4 json.length :=
    List.take_of_length_le (by simp)
  refine ⟨archiveMagic ++ LittleEndian.encode 2 archiveFormatVersion ++
    LittleEndian.encode 4 json.length, rfl, ?_, ?_, ?_, ?_⟩
  · simp [fixedPrefixLen]
  · rfl
  · exact version
  · calc LittleEndian.decode ((LittleEndian.encode 4 json.length).take 4)
        = LittleEndian.decode (LittleEndian.encode 4 json.length) := by rw [sizeBytes]
      _ = json.length := size

theorem fixed_prefix_unique {fixed : Bytes} {length : Nat} (long : fixed.length = fixedPrefixLen)
    (magic : fixed.take archiveMagic.length = archiveMagic)
    (version : LittleEndian.decode ((fixed.drop archiveMagic.length).take 2) = archiveFormatVersion)
    (size : LittleEndian.decode ((fixed.drop (archiveMagic.length + 2)).take 4) = length) :
    fixed = archiveMagic ++ LittleEndian.encode 2 archiveFormatVersion ++
      LittleEndian.encode 4 length := by
  have fourteen : fixed.length = 14 := long
  have eight : archiveMagic.length = 8 := rfl
  rw [eight] at magic version size
  have versionBytes := LittleEndian.eq_encode_of_decode 2 (by simp; omega) version
  have sizeBytes := LittleEndian.eq_encode_of_decode 4 (by simp; omega) size
  have tail : (fixed.drop 10).take 4 = fixed.drop 10 :=
    List.take_of_length_le (by rw [List.length_drop]; omega)
  calc fixed = fixed.take 8 ++ ((fixed.drop 8).take 2 ++ (fixed.drop 8).drop 2) := by
        rw [List.take_append_drop, List.take_append_drop]
    _ = archiveMagic ++ (LittleEndian.encode 2 archiveFormatVersion ++
          LittleEndian.encode 4 length) := by
        rw [magic, versionBytes, List.drop_drop, ← tail, sizeBytes]
    _ = _ := (List.append_assoc _ _ _).symm

variable [ArchiveExternals]

def writeHeader (output : Output) (header : ArchiveHeader) :
    Output × Except ArchiveError Bytes :=
  match validateHeader header with
  | .error error => (output, .error error)
  | .ok () =>
      match ArchiveExternals.headerToVec header with
      | .error error => (output, .error (.json error))
      | .ok json =>
          if maxHeaderLen < json.length then
            (output, .error (.invalidFormat "archive header is too large"))
          else
            match output.writeAll (authenticatedHeader json) with
            | (output, .error error) => (output, .error error)
            | (output, .ok ()) => (output, .ok (authenticatedHeader json))

/-- The header, the bytes it was read from and the input after it. -/
def readHeader (input : Bytes) : Except ArchiveError (ArchiveHeader × Bytes × Bytes) :=
  match readExact input fixedPrefixLen with
  | .error error => .error error
  | .ok (fixed, rest) =>
      let version := LittleEndian.decode ((fixed.drop archiveMagic.length).take 2)
      let length := LittleEndian.decode ((fixed.drop (archiveMagic.length + 2)).take 4)
      if fixed.take archiveMagic.length ≠ archiveMagic then
        .error (.invalidFormat "archive magic does not match")
      else if version ≠ archiveFormatVersion then
        .error (.invalidFormat s!"unsupported archive format version {version}")
      else if length = 0 ∨ maxHeaderLen < length then
        .error (.invalidFormat "archive header length is invalid")
      else
        match readExact rest length with
        | .error error => .error error
        | .ok (json, rest) =>
            match ArchiveExternals.headerFromSlice json with
            | .error error => .error (.json error)
            | .ok header =>
                match validateHeader header with
                | .error error => .error error
                | .ok () => .ok (header, fixed ++ json, rest)

theorem write_header_ok {output reached : Output} {header : ArchiveHeader} {bound : Bytes}
    (wrote : writeHeader output header = (reached, .ok bound)) :
    validateHeader header = .ok () ∧ reached.written = output.written ++ bound ∧
      ∃ json, ArchiveExternals.headerToVec header = .ok json ∧ json.length ≤ maxHeaderLen ∧
        bound = authenticatedHeader json := by
  rw [writeHeader] at wrote
  split at wrote
  · simp at wrote
  · rename_i valid
    split at wrote
    · simp at wrote
    · rename_i json rendered
      split at wrote
      · simp at wrote
      · rename_i fits
        split at wrote
        · simp at wrote
        · rename_i next stored
          cases wrote
          exact ⟨valid, write_all_ok stored, json, rendered, Nat.le_of_not_lt fits, rfl⟩

theorem write_header_memory {header : ArchiveHeader} {json : Bytes} (written : Bytes)
    (valid : validateHeader header = .ok ())
    (rendered : ArchiveExternals.headerToVec header = .ok json)
    (fits : json.length ≤ maxHeaderLen) :
    writeHeader (.memory written) header =
      (.memory (written ++ authenticatedHeader json), .ok (authenticatedHeader json)) := by
  simp only [writeHeader, valid, rendered, Nat.not_lt.mpr fits, if_false, write_all_memory]

theorem read_header_written {header : ArchiveHeader} {json : Bytes} (rest : Bytes)
    (valid : validateHeader header = .ok ()) (someJson : json ≠ [])
    (fits : json.length ≤ maxHeaderLen)
    (parsed : ArchiveExternals.headerFromSlice json = .ok header) :
    readHeader (authenticatedHeader json ++ rest) =
      .ok (header, authenticatedHeader json, rest) := by
  rcases fixed_prefix_fields json fits with ⟨fixed, whole, long, magic, version, size⟩
  have positive : json.length ≠ 0 := by simpa using someJson
  rw [whole, List.append_assoc, readHeader, read_exact_append long]
  simp only [magic, version, size, ne_eq, not_true_eq_false, if_false, positive, false_or,
    Nat.not_lt.mpr fits, read_exact_append, parsed, valid]

theorem read_header_ok {input bound rest : Bytes} {header : ArchiveHeader}
    (read : readHeader input = .ok (header, bound, rest)) :
    input = bound ++ rest ∧ validateHeader header = .ok () ∧
      ∃ json, bound = authenticatedHeader json ∧ json ≠ [] ∧ json.length ≤ maxHeaderLen ∧
        ArchiveExternals.headerFromSlice json = .ok header := by
  rw [readHeader] at read
  split at read
  · cases read
  · rename_i fixed after opened
    rcases read_exact_ok opened with ⟨splitInput, long⟩
    simp only at read
    split at read
    · cases read
    · rename_i magic
      split at read
      · cases read
      · rename_i version
        split at read
        · cases read
        · rename_i bounds
          split at read
          · cases read
          · rename_i json remaining openedJson
            rcases read_exact_ok openedJson with ⟨splitAfter, size⟩
            split at read
            · cases read
            · rename_i parsedHeader parsed
              split at read
              · cases read
              · rename_i valid
                cases read
                rw [not_not] at magic version
                rw [← size, not_or, Nat.not_lt] at bounds
                refine ⟨?_, valid, json, ?_, ?_, bounds.2, parsed⟩
                · rw [splitInput, splitAfter, List.append_assoc]
                · rw [fixed_prefix_unique long magic version size.symm]
                  rfl
                · exact fun none => bounds.1 (List.length_eq_zero_iff.mpr none)

end Header

section Frames

def frame (ciphertext : Bytes) : Bytes := LittleEndian.encode 4 ciphertext.length ++ ciphertext

def writeFrame (output : Output) (ciphertext : Bytes) : Output × Except ArchiveError Unit :=
  if 4294967295 < ciphertext.length then
    (output, .error (.invalidFormat "encrypted archive segment is too large"))
  else
    match output.writeAll (LittleEndian.encode 4 ciphertext.length) with
    | (output, .error error) => (output, .error error)
    | (output, .ok ()) => output.writeAll ciphertext

/-- A segment and the input after it, or nothing at the end of the input. -/
def readFrame (input : Bytes) (maximum : Nat) : Except ArchiveError (Option (Bytes × Bytes)) :=
  match input with
  | [] => .ok none
  | first :: rest =>
      match readExact rest 3 with
      | .error error => .error error
      | .ok (more, rest) =>
          let length := LittleEndian.decode (first :: more)
          if length < aesGcmTagLen ∨ maximum < length then
            .error (.invalidFormat "encrypted archive segment length is invalid")
          else
            match readExact rest length with
            | .error error => .error error
            | .ok (ciphertext, rest) => .ok (some (ciphertext, rest))

theorem write_frame_ok {output reached : Output} {ciphertext : Bytes}
    (wrote : writeFrame output ciphertext = (reached, .ok ())) :
    reached.written = output.written ++ frame ciphertext := by
  rw [writeFrame] at wrote
  split at wrote
  · simp at wrote
  · split at wrote
    · simp at wrote
    · rename_i next stored
      rw [write_all_ok wrote, write_all_ok stored, frame, List.append_assoc]

theorem write_frame_memory {ciphertext : Bytes} (written : Bytes)
    (fits : ciphertext.length ≤ 4294967295) :
    writeFrame (.memory written) ciphertext = (.memory (written ++ frame ciphertext), .ok ()) := by
  simp only [writeFrame, Nat.not_lt.mpr fits, if_false, write_all_memory, frame,
    List.append_assoc]

theorem read_frame_frame {ciphertext : Bytes} {maximum : Nat} (rest : Bytes)
    (tagged : aesGcmTagLen ≤ ciphertext.length) (fits : ciphertext.length ≤ maximum)
    (small : maximum ≤ 4294967295) :
    readFrame (frame ciphertext ++ rest) maximum = .ok (some (ciphertext, rest)) := by
  have size : LittleEndian.decode (LittleEndian.encode 4 ciphertext.length) = ciphertext.length :=
    LittleEndian.decode_encode (by omega)
  rw [LittleEndian.encode] at size
  rw [frame, LittleEndian.encode, List.cons_append, List.cons_append, List.append_assoc, readFrame,
    read_exact_append (LittleEndian.encode_length 3 _)]
  simp only [size, Nat.not_lt.mpr tagged, Nat.not_lt.mpr fits, or_self, if_false,
    read_exact_append]

theorem read_frame_some {input ciphertext rest : Bytes} {maximum : Nat}
    (read : readFrame input maximum = .ok (some (ciphertext, rest))) :
    input = frame ciphertext ++ rest ∧ aesGcmTagLen ≤ ciphertext.length ∧
      ciphertext.length ≤ maximum := by
  rw [readFrame.eq_def] at read
  split at read
  · simp at read
  · rename_i first after
    split at read
    · contradiction
    · rename_i more remaining opened
      rcases read_exact_ok opened with ⟨splitAfter, three⟩
      simp only at read
      split at read
      · contradiction
      · rename_i bounds
        split at read
        · contradiction
        · rename_i body left openedBody
          rcases read_exact_ok openedBody with ⟨splitRemaining, size⟩
          cases read
          have four : (first :: more).length = 4 := by simp [three]
          have leadBytes := LittleEndian.eq_encode_of_decode 4 four size.symm
          refine ⟨?_, by omega, by omega⟩
          rw [frame, ← leadBytes, splitAfter, splitRemaining]
          simp

theorem read_frame_none {input : Bytes} {maximum : Nat}
    (read : readFrame input maximum = .ok none) : input = [] := by
  cases input with
  | nil => rfl
  | cons first rest =>
      rw [readFrame] at read
      split at read
      · contradiction
      · simp only at read
        split at read
        · contradiction
        · split at read
          · contradiction
          · simp at read

theorem read_frame_shortens {input ciphertext rest : Bytes} {maximum : Nat}
    (read : readFrame input maximum = .ok (some (ciphertext, rest))) :
    rest.length < input.length := by
  rw [(read_frame_some read).1, List.length_append, frame, List.length_append,
    LittleEndian.encode_length]
  omega

end Frames

end Gilbreth.Archive
