import Gilbreth.Archive.Format

/-!
# Sealing, unsealing and transcoding

The three loops of the archive: each holds one segment back until it knows
whether another follows, flags the last one, and gives the header bytes as
associated data to the first one only.
-/

set_option autoImplicit false

namespace Gilbreth.Archive

open Gilbreth.Store (ArchiveProvenance)

variable [ArchiveExternals]

section Ciphers

/-- `EncryptorBE32` and `DecryptorBE32`: the key, the nonce prefix, the counter. -/
structure StreamBE32 where
  key : ContentKey
  nonce : FixedBytes streamNonceLen
  position : Nat

/-- One segment box. A counter that stands at its maximum takes the last segment only. -/
def encryptBox (key : ContentKey) (nonce : FixedBytes streamNonceLen) (position : Nat)
    (last : Bool) (aad msg : Bytes) : Option Bytes :=
  if last = false ∧ position = counterMax then none
  else ArchiveExternals.streamEncrypt key nonce position last aad msg

def decryptBox (key : ContentKey) (nonce : FixedBytes streamNonceLen) (position : Nat)
    (last : Bool) (aad msg : Bytes) : Option Bytes :=
  if last = false ∧ position = counterMax then none
  else ArchiveExternals.streamDecrypt key nonce position last aad msg

def StreamBE32.advance (stream : StreamBE32) : StreamBE32 :=
  { stream with position := stream.position + 1 }

def StreamBE32.encryptNext (stream : StreamBE32) (msg aad : Bytes) : Option (Bytes × StreamBE32) :=
  (encryptBox stream.key stream.nonce stream.position false aad msg).map fun ciphertext =>
    (ciphertext, stream.advance)

def StreamBE32.encryptLast (stream : StreamBE32) (msg aad : Bytes) : Option Bytes :=
  encryptBox stream.key stream.nonce stream.position true aad msg

def StreamBE32.decryptNext (stream : StreamBE32) (msg aad : Bytes) : Option (Bytes × StreamBE32) :=
  (decryptBox stream.key stream.nonce stream.position false aad msg).map fun plaintext =>
    (plaintext, stream.advance)

def StreamBE32.decryptLast (stream : StreamBE32) (msg aad : Bytes) : Option Bytes :=
  decryptBox stream.key stream.nonce stream.position true aad msg

end Ciphers

section Sealing

/-- The loop of `seal_reader`. -/
def sealLoop (chunkSize : Nat) (bound input current : Bytes) (first : Bool) (stream : StreamBE32)
    (output : Output) : Output × Except ArchiveError Unit :=
  let aad := if first then bound else []
  if (readChunk input chunkSize).1 = [] then
    match stream.encryptLast current aad with
    | none => (output, .error .authenticationFailed)
    | some ciphertext => writeFrame output ciphertext
  else
    match stream.encryptNext current aad with
    | none => (output, .error .authenticationFailed)
    | some (ciphertext, stream) =>
        match writeFrame output ciphertext with
        | (output, .error error) => (output, .error error)
        | (output, .ok ()) =>
            sealLoop chunkSize bound (readChunk input chunkSize).2 (readChunk input chunkSize).1
              false stream output
termination_by input.length
decreasing_by
  rename_i more
  simp only [readChunk, List.take_eq_nil_iff, not_or] at more
  have longer := List.length_pos_of_ne_nil more.2
  simp only [readChunk, List.length_drop]
  omega

def sealReader (random : SealRandom) (input : Bytes) (output : Output)
    (provenance : ArchiveProvenance) (key : ArchiveSealKey) :
    Output × Except ArchiveError ArchiveHeader :=
  match wrapContentKey random key with
  | .error error => (output, .error error)
  | .ok keyWrap =>
      let header : ArchiveHeader :=
        { provenance := provenance
          keyWrap := keyWrap
          chunkSize := defaultChunkSize
          streamNonce := random.streamNonce }
      match writeHeader output header with
      | (output, .error error) => (output, .error error)
      | (output, .ok bound) =>
          match sealLoop header.chunkSize bound (readChunk input header.chunkSize).2
              (readChunk input header.chunkSize).1 true
              ⟨random.contentKey, header.streamNonce, 0⟩ output with
          | (output, .error error) => (output, .error error)
          | (output, .ok ()) => (output, .ok header)

end Sealing

section Unsealing

variable {State : Type*} (consume : State → Bytes → Bool → State × Except ArchiveError Unit)

/-- The loop of `decrypt_chunks`. -/
def decryptLoop (maxFrame : Nat) (bound input current : Bytes) (first : Bool)
    (stream : StreamBE32) (state : State) : State × Except ArchiveError Unit :=
  let aad := if first then bound else []
  match _following : readFrame input maxFrame with
  | .error error => (state, .error error)
  | .ok none =>
      match stream.decryptLast current aad with
      | none => (state, .error .authenticationFailed)
      | some plaintext => consume state plaintext true
  | .ok (some (next, rest)) =>
      match stream.decryptNext current aad with
      | none => (state, .error .authenticationFailed)
      | some (plaintext, stream) =>
          match consume state plaintext false with
          | (state, .error error) => (state, .error error)
          | (state, .ok ()) => decryptLoop maxFrame bound rest next false stream state
termination_by input.length
decreasing_by exact read_frame_shortens (by assumption)

def decryptChunks (input : Bytes) (header : ArchiveHeader) (bound : Bytes)
    (contentKey : ContentKey) (state : State) : State × Except ArchiveError Unit :=
  let maxFrame := header.chunkSize + aesGcmTagLen
  match validateHeader header with
  | .error error => (state, .error error)
  | .ok () =>
      match readFrame input maxFrame with
      | .error error => (state, .error error)
      | .ok none =>
          (state, .error (.invalidFormat "archive has no authenticated content segment"))
      | .ok (some (current, rest)) =>
          decryptLoop consume maxFrame bound rest current true
            ⟨contentKey, header.streamNonce, 0⟩ state

end Unsealing

def unsealConsumer (output : Output) (plain : Bytes) (_last : Bool) :
    Output × Except ArchiveError Unit :=
  output.writeAll plain

def unsealReader (input : Bytes) (output : Output) (credential : ArchiveCredential) :
    Output × Except ArchiveError ArchiveHeader :=
  match readHeader input with
  | .error error => (output, .error error)
  | .ok (header, bound, rest) =>
      match unwrapContentKey header.keyWrap credential with
      | .error error => (output, .error error)
      | .ok contentKey =>
          match decryptChunks unsealConsumer rest header bound contentKey output with
          | (output, .error error) => (output, .error error)
          | (output, .ok ()) => (output, .ok header)

section Transcoding

/-- What the closure of `transcode_reader` changes. The encryptor is taken on
the last segment, after which the closure is not called again. -/
structure Transcoding where
  output : Output
  stream : StreamBE32
  first : Bool

def transcodeConsumer (bound : Bytes) (state : Transcoding) (plain : Bytes) (last : Bool) :
    Transcoding × Except ArchiveError Unit :=
  let aad := if state.first then bound else []
  if last then
    match state.stream.encryptLast plain aad with
    | none => (state, .error .authenticationFailed)
    | some ciphertext =>
        match writeFrame state.output ciphertext with
        | (output, .error error) => ({ state with output := output }, .error error)
        | (output, .ok ()) => ({ state with output := output, first := false }, .ok ())
  else
    match state.stream.encryptNext plain aad with
    | none => (state, .error .authenticationFailed)
    | some (ciphertext, stream) =>
        match writeFrame state.output ciphertext with
        | (output, .error error) =>
            ({ state with output := output, stream := stream }, .error error)
        | (output, .ok ()) => (⟨output, stream, false⟩, .ok ())

def transcodeReader (random : SealRandom) (input : Bytes) (output : Output)
    (sourceCredential : ArchiveCredential) (destinationKey : ArchiveSealKey) :
    Output × Except ArchiveError ArchiveHeader :=
  match readHeader input with
  | .error error => (output, .error error)
  | .ok (sourceHeader, sourceBound, rest) =>
      match unwrapContentKey sourceHeader.keyWrap sourceCredential with
      | .error error => (output, .error error)
      | .ok sourceKey =>
          match wrapContentKey random destinationKey with
          | .error error => (output, .error error)
          | .ok keyWrap =>
              let destinationHeader : ArchiveHeader :=
                { provenance := sourceHeader.provenance
                  keyWrap := keyWrap
                  chunkSize := sourceHeader.chunkSize
                  streamNonce := random.streamNonce }
              match writeHeader output destinationHeader with
              | (output, .error error) => (output, .error error)
              | (output, .ok destinationBound) =>
                  match decryptChunks (transcodeConsumer destinationBound) rest sourceHeader
                      sourceBound sourceKey
                      ⟨output, ⟨random.contentKey, random.streamNonce, 0⟩, true⟩ with
                  | (state, .error error) => (state.output, .error error)
                  | (state, .ok ()) => (state.output, .ok destinationHeader)

end Transcoding

section Files

/-- What the operating system answers around one new file. -/
structure FileReadings where
  openSource : Option String
  createDir : Option String
  createNew : Option String
  /-- What the device still takes, where it can fill up. -/
  room : Option Nat
  flush : Option String
  sync : Option String
  remove : Option String

def ioOutcome : Option String → Except ArchiveError Unit
  | none => .ok ()
  | some error => .error (.io error)

/-- `flush` and `sync_all` after a body that succeeded. -/
def FileReadings.settle (readings : FileReadings) (result : Except ArchiveError ArchiveHeader) :
    Except ArchiveError ArchiveHeader := do
  let header ← result
  ioOutcome readings.flush
  ioOutcome readings.sync
  return header

/-- `remove_if_present` logs a file it cannot remove and leaves it. -/
def FileReadings.removeIfPresent (readings : FileReadings) (content : Bytes) : Option Bytes :=
  if readings.remove.isSome then some content else none

def createNew (readings : FileReadings) (path : String) (destination : Option Bytes) :
    Except ArchiveError Unit := do
  ioOutcome readings.createDir
  if destination.isSome then .error (.outputExists path) else ioOutcome readings.createNew

/-- What `unseal_archive_to`, `seal_archive_file` and `export_passphrase_archive`
share: a file of their own, or none. The result is what stands at the path. -/
def writeNewFile (readings : FileReadings) (path : String) (destination : Option Bytes)
    (body : Output → Output × Except ArchiveError ArchiveHeader) :
    Option Bytes × Except ArchiveError ArchiveHeader :=
  match ioOutcome readings.openSource, createNew readings path destination with
  | .error error, _ => (destination, .error error)
  | .ok (), .error error => (destination, .error error)
  | .ok (), .ok () =>
      let written := body ⟨[], readings.room⟩
      match readings.settle written.2 with
      | .error error => (readings.removeIfPresent written.1.written, .error error)
      | .ok header => (some written.1.written, .ok header)

def unsealArchiveTo (readings : FileReadings) (source : Bytes) (path : String)
    (destination : Option Bytes) (credential : ArchiveCredential) :
    Option Bytes × Except ArchiveError ArchiveHeader :=
  writeNewFile readings path destination fun output => unsealReader source output credential

def sealArchiveFile (readings : FileReadings) (random : SealRandom) (source : Bytes)
    (path : String) (destination : Option Bytes) (provenance : ArchiveProvenance)
    (key : ArchiveSealKey) : Option Bytes × Except ArchiveError ArchiveHeader :=
  writeNewFile readings path destination fun output =>
    sealReader random source output provenance key

def exportPassphraseArchive (readings : FileReadings) (random : SealRandom) (source : Bytes)
    (path : String) (destination : Option Bytes) (sourceCredential : ArchiveCredential)
    (passphrase : String) : Option Bytes × Except ArchiveError ArchiveHeader :=
  if passphrase.isEmpty then (destination, .error .emptyPassphrase)
  else
    writeNewFile readings path destination fun output =>
      transcodeReader random source output sourceCredential (.passphrase passphrase)

end Files

end Gilbreth.Archive
