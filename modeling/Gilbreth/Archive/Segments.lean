import Gilbreth.Archive.Stream

/-!
# The loops as chains

The sealing loop writes the frames of the chain of encryptions of the chunks of
its input; the decryption loop succeeds when its input is such frames, the chain
of decryptions opens, and the consumer takes every segment. The transcoding
consumer is once more a chain of encryptions.
-/

set_option autoImplicit false

namespace Gilbreth.Archive

open SegmentChain

def frames (ciphertexts : List Bytes) : Bytes := (ciphertexts.map frame).flatten

@[simp] theorem frames_nil : frames [] = [] := rfl

@[simp] theorem frames_cons (ciphertext : Bytes) (later : List Bytes) :
    frames (ciphertext :: later) = frame ciphertext ++ frames later := rfl

section Split

variable {chunkSize : Nat} {input current : Bytes}

/-- What the loop holds back, with the rest of the input, splits as the whole would. -/
def HeldBack (chunkSize : Nat) (input current : Bytes) : Prop :=
  current.length ≤ chunkSize ∧ (input ≠ [] → current.length = chunkSize)

theorem held_back_read_chunk (chunkSize : Nat) (input : Bytes) :
    HeldBack chunkSize (readChunk input chunkSize).2 (readChunk input chunkSize).1 := by
  constructor
  · exact List.length_take_le _ _
  · intro more
    simp only [readChunk, ne_eq, List.drop_eq_nil_iff, Nat.not_le] at more
    simp only [readChunk, List.length_take]
    omega

theorem split_held_back_last (positive : 0 < chunkSize) (held : HeldBack chunkSize input current)
    (done : (readChunk input chunkSize).1 = []) :
    split chunkSize (current ++ input) = [current] := by
  have noInput : input = [] := by
    simp only [readChunk, List.take_eq_nil_iff] at done
    apply done.resolve_left
    omega
  rw [noInput, List.append_nil, split_of_short held.1]

theorem split_held_back_next (positive : 0 < chunkSize) (held : HeldBack chunkSize input current)
    (more : (readChunk input chunkSize).1 ≠ []) :
    split chunkSize (current ++ input) = current ::
      split chunkSize ((readChunk input chunkSize).1 ++ (readChunk input chunkSize).2) := by
  have someInput : input ≠ [] := by
    intro noInput
    simp [readChunk, noInput] at more
  have full := held.2 someInput
  have longer : chunkSize < (current ++ input).length := by
    have := List.length_pos_of_ne_nil someInput
    simp only [List.length_append]
    omega
  rw [split_of_long positive longer, List.take_left' full, List.drop_left' full, readChunk,
    List.take_append_drop]

theorem split_not_empty (chunkSize : Nat) (items : Bytes) :
    (split chunkSize items).isEmpty = false := by
  rw [List.isEmpty_eq_false_iff]
  exact split_ne_nil chunkSize items

end Split

variable [ArchiveExternals]

def encryptChain (key : ContentKey) (nonce : FixedBytes streamNonceLen) :=
  chain (encryptBox key nonce) []

def decryptChain (key : ContentKey) (nonce : FixedBytes streamNonceLen) :=
  chain (decryptBox key nonce) []

theorem encrypt_next_some {stream next : StreamBE32} {msg aad ciphertext : Bytes}
    (sealed : stream.encryptNext msg aad = some (ciphertext, next)) :
    encryptBox stream.key stream.nonce stream.position false aad msg = some ciphertext ∧
      next = stream.advance := by
  simp only [StreamBE32.encryptNext, Option.map_eq_some_iff, Prod.mk.injEq] at sealed
  rcases sealed with ⟨_, boxed, rfl, rfl⟩
  exact ⟨boxed, rfl⟩

theorem decrypt_next_some {stream next : StreamBE32} {msg aad plaintext : Bytes}
    (opened : stream.decryptNext msg aad = some (plaintext, next)) :
    decryptBox stream.key stream.nonce stream.position false aad msg = some plaintext ∧
      next = stream.advance := by
  simp only [StreamBE32.decryptNext, Option.map_eq_some_iff, Prod.mk.injEq] at opened
  rcases opened with ⟨_, boxed, rfl, rfl⟩
  exact ⟨boxed, rfl⟩

section Sealing

variable {chunkSize : Nat} {bound input current : Bytes} {first : Bool} {stream : StreamBE32}

theorem seal_loop_ok (positive : 0 < chunkSize) {output reached : Output}
    (held : HeldBack chunkSize input current)
    (ran : sealLoop chunkSize bound input current first stream output = (reached, .ok ())) :
    ∃ ciphertexts,
      encryptChain stream.key stream.nonce stream.position (if first then bound else [])
        (split chunkSize (current ++ input)) = some ciphertexts ∧
      reached.written = output.written ++ frames ciphertexts := by
  fun_induction sealLoop chunkSize bound input current first stream output with
  | case1 input current first stream output aad done refused => simp at ran
  | case2 input current first stream output aad done ciphertext sealed =>
      rw [split_held_back_last positive held done]
      refine ⟨[ciphertext], chain_cons sealed rfl, ?_⟩
      rw [write_frame_ok ran, frames_cons, frames_nil, List.append_nil]
  | case3 input current first stream output aad more refused => simp at ran
  | case4 input current first stream output aad more ciphertext next sealed stored error wrote =>
      simp at ran
  | case5 input current first stream output aad more ciphertext next sealed stored wrote
      induction =>
      rcases encrypt_next_some sealed with ⟨boxed, rfl⟩
      rcases induction (held_back_read_chunk chunkSize input) ran with ⟨later, chained, written⟩
      rw [split_held_back_next positive held more]
      refine ⟨ciphertext :: later, chain_cons ?_ chained, ?_⟩
      · rw [split_not_empty]
        exact boxed
      · rw [written, write_frame_ok wrote, frames_cons, List.append_assoc]

theorem seal_loop_memory (positive : 0 < chunkSize) (held : HeldBack chunkSize input current)
    {ciphertexts : List Bytes} (written : Bytes)
    (sealed : encryptChain stream.key stream.nonce stream.position (if first then bound else [])
      (split chunkSize (current ++ input)) = some ciphertexts)
    (fits : ∀ ciphertext ∈ ciphertexts, ciphertext.length ≤ 4294967295) :
    sealLoop chunkSize bound input current first stream (.memory written) =
      (.memory (written ++ frames ciphertexts), .ok ()) := by
  induction long : input.length using Nat.strong_induction_on
    generalizing input current first stream written ciphertexts with
  | _ length induction =>
      rw [sealLoop]
      by_cases done : (readChunk input chunkSize).1 = []
      · rw [split_held_back_last positive held done] at sealed
        rcases chain_cons_eq_some sealed with ⟨ciphertext, later, rfl, boxed, noneLater⟩
        cases noneLater
        have boxedLast : stream.encryptLast current (if first then bound else []) =
            some ciphertext := boxed
        simp only [if_pos done, boxedLast, frames_cons, frames_nil, List.append_nil]
        exact write_frame_memory written (fits ciphertext List.mem_cons_self)
      · rw [split_held_back_next positive held done] at sealed
        rcases chain_cons_eq_some sealed with ⟨ciphertext, later, rfl, boxed, chained⟩
        rw [split_not_empty] at boxed
        have boxedNext : stream.encryptNext current (if first then bound else []) =
            some (ciphertext, stream.advance) := by
          rw [StreamBE32.encryptNext, boxed, Option.map_some]
        have shorter : (readChunk input chunkSize).2.length < length := by
          simp only [readChunk, List.take_eq_nil_iff, not_or] at done
          have longer := List.length_pos_of_ne_nil done.2
          simp only [readChunk, List.length_drop]
          omega
        have advanced : encryptChain stream.advance.key stream.advance.nonce
            stream.advance.position (if false then bound else [])
            (split chunkSize ((readChunk input chunkSize).1 ++ (readChunk input chunkSize).2)) =
              some later := chained
        have tail := induction _ shorter (held_back_read_chunk chunkSize input)
          (written ++ frame ciphertext) advanced
          (fun item member => fits item (List.mem_cons_of_mem _ member)) rfl
        simp only [if_neg done, boxedNext,
          write_frame_memory written (fits ciphertext List.mem_cons_self), tail, frames_cons,
          List.append_assoc]

end Sealing

section Unsealing

variable {State : Type*} {consume : State → Bytes → Bool → State × Except ArchiveError Unit}
  {maxFrame : Nat} {bound input current : Bytes} {first : Bool} {stream : StreamBE32}

def FrameFits (maxFrame : Nat) (ciphertext : Bytes) : Prop :=
  aesGcmTagLen ≤ ciphertext.length ∧ ciphertext.length ≤ maxFrame

theorem decrypt_loop_ok {state reached : State}
    (ran : decryptLoop consume maxFrame bound input current first stream state =
      (reached, .ok ())) :
    ∃ ciphertexts plaintexts, input = frames ciphertexts ∧
      (∀ ciphertext ∈ ciphertexts, FrameFits maxFrame ciphertext) ∧
      decryptChain stream.key stream.nonce stream.position (if first then bound else [])
        (current :: ciphertexts) = some plaintexts ∧
      deliver consume state plaintexts = (reached, .ok ()) := by
  fun_induction decryptLoop consume maxFrame bound input current first stream state with
  | case1 input current first stream state error failed => simp at ran
  | case2 input current first stream state ended refused => simp at ran
  | case3 input current first stream state aad ended plaintext opened =>
      refine ⟨[], [plaintext], read_frame_none ended, by simp, chain_cons opened rfl, ?_⟩
      rw [deliver_cons ran]
      rfl
  | case4 input current first stream state aad next rest following refused => simp at ran
  | case5 input current first stream state aad next rest following plaintext advanced opened
      taken error refused => simp at ran
  | case6 input current first stream state aad next rest following plaintext advanced opened
      taken accepted induction =>
      rcases decrypt_next_some opened with ⟨boxed, rfl⟩
      rcases read_frame_some following with ⟨rfl, fits⟩
      rcases induction ran with ⟨ciphertexts, plaintexts, rfl, fit, chained, delivered⟩
      refine ⟨next :: ciphertexts, plaintext :: plaintexts, rfl, ?_, chain_cons boxed chained, ?_⟩
      · rw [List.forall_mem_cons]
        exact ⟨fits, fit⟩
      · have more : plaintexts.isEmpty = false := by
          rw [is_empty_of_length (chain_length chained)]
          rfl
        rw [← more] at accepted
        rw [deliver_cons accepted, delivered]

theorem decrypt_loop_frames (small : maxFrame ≤ 4294967295) {state reached : State}
    {ciphertexts plaintexts : List Bytes}
    (fit : ∀ ciphertext ∈ ciphertexts, FrameFits maxFrame ciphertext)
    (opened : decryptChain stream.key stream.nonce stream.position (if first then bound else [])
      (current :: ciphertexts) = some plaintexts)
    (delivered : deliver consume state plaintexts = (reached, .ok ())) :
    decryptLoop consume maxFrame bound (frames ciphertexts) current first stream state =
      (reached, .ok ()) := by
  induction ciphertexts generalizing current first stream state plaintexts with
  | nil =>
      rcases chain_cons_eq_some opened with ⟨plaintext, later, rfl, boxed, noneLater⟩
      cases noneLater
      rcases deliver_cons_ok delivered with ⟨next, taken, same⟩
      cases same
      have boxedLast : stream.decryptLast current (if first then bound else []) =
          some plaintext := boxed
      rw [decryptLoop, frames_nil, readFrame]
      simp only [boxedLast]
      exact taken
  | cons ciphertext ciphertexts induction =>
      rcases chain_cons_eq_some opened with ⟨plaintext, later, rfl, boxed, chained⟩
      rcases deliver_cons_ok delivered with ⟨next, taken, deliveredLater⟩
      have more : later.isEmpty = false := by
        rw [is_empty_of_length (chain_length chained)]
        rfl
      rw [more] at taken
      have boxedNext : stream.decryptNext current (if first then bound else []) =
          some (plaintext, stream.advance) := by
        rw [StreamBE32.decryptNext]
        simp only [List.isEmpty_cons] at boxed
        rw [boxed, Option.map_some]
      rw [List.forall_mem_cons] at fit
      have read := read_frame_frame (frames ciphertexts) fit.1.1 fit.1.2 small
      have advanced : decryptChain stream.advance.key stream.advance.nonce
          stream.advance.position (if false then bound else []) (ciphertext :: ciphertexts) =
            some later := chained
      have tail := induction fit.2 advanced deliveredLater
      rw [decryptLoop, frames_cons, read]
      simp only [boxedNext, taken]
      exact tail

omit [ArchiveExternals] in
theorem valid_chunk_size {header : ArchiveHeader} (valid : validateHeader header = .ok ()) :
    4 * 1024 ≤ header.chunkSize ∧ header.chunkSize ≤ 16 * 1024 * 1024 := by
  rw [validateHeader] at valid
  split at valid
  · cases valid
  · split at valid
    · cases valid
    · rename_i bounds
      simpa using bounds

variable {header : ArchiveHeader} {contentKey : ContentKey}

theorem decrypt_chunks_ok {state reached : State}
    (ran : decryptChunks consume input header bound contentKey state = (reached, .ok ())) :
    ∃ ciphertexts plaintexts, ciphertexts ≠ [] ∧ input = frames ciphertexts ∧
      (∀ ciphertext ∈ ciphertexts, FrameFits (header.chunkSize + aesGcmTagLen) ciphertext) ∧
      decryptChain contentKey header.streamNonce 0 bound ciphertexts = some plaintexts ∧
      deliver consume state plaintexts = (reached, .ok ()) := by
  rw [decryptChunks] at ran
  split at ran
  · simp at ran
  · split at ran
    · simp at ran
    · simp at ran
    · rename_i current rest read
      rcases read_frame_some read with ⟨rfl, fits⟩
      rcases decrypt_loop_ok ran with ⟨ciphertexts, plaintexts, rfl, fit, opened, delivered⟩
      refine ⟨current :: ciphertexts, plaintexts, by simp, rfl, ?_, opened, delivered⟩
      rw [List.forall_mem_cons]
      exact ⟨fits, fit⟩

theorem decrypt_chunks_frames (valid : validateHeader header = .ok ()) {state reached : State}
    {ciphertexts plaintexts : List Bytes} (someSegment : ciphertexts ≠ [])
    (fit : ∀ ciphertext ∈ ciphertexts, FrameFits (header.chunkSize + aesGcmTagLen) ciphertext)
    (opened : decryptChain contentKey header.streamNonce 0 bound ciphertexts = some plaintexts)
    (delivered : deliver consume state plaintexts = (reached, .ok ())) :
    decryptChunks consume (frames ciphertexts) header bound contentKey state =
      (reached, .ok ()) := by
  have small : header.chunkSize + aesGcmTagLen ≤ 4294967295 := by
    have size := valid_chunk_size valid
    rw [aesGcmTagLen]
    omega
  cases ciphertexts with
  | nil => exact absurd rfl someSegment
  | cons ciphertext later =>
      rw [List.forall_mem_cons] at fit
      rw [decryptChunks, frames_cons, read_frame_frame _ fit.1.1 fit.1.2 small]
      simp only [valid]
      exact decrypt_loop_frames small fit.2 opened delivered

end Unsealing

section Consumers

omit [ArchiveExternals] in
theorem unseal_deliver_ok {output reached : Output} {plaintexts : List Bytes}
    (delivered : deliver unsealConsumer output plaintexts = (reached, .ok ())) :
    reached.written = output.written ++ plaintexts.flatten := by
  induction plaintexts generalizing output with
  | nil =>
      cases delivered
      rw [List.flatten_nil, List.append_nil]
  | cons plaintext later induction =>
      rcases deliver_cons_ok delivered with ⟨next, taken, deliveredLater⟩
      rw [induction deliveredLater, write_all_ok taken, List.flatten_cons, List.append_assoc]

omit [ArchiveExternals] in
theorem unseal_deliver_memory (written : Bytes) (plaintexts : List Bytes) :
    deliver unsealConsumer (.memory written) plaintexts =
      (.memory (written ++ plaintexts.flatten), .ok ()) := by
  induction plaintexts generalizing written with
  | nil => rw [List.flatten_nil, List.append_nil, deliver]
  | cons plaintext later induction =>
      rw [deliver_cons (write_all_memory written plaintext), induction, List.flatten_cons,
        List.append_assoc]

variable {bound : Bytes}

theorem transcode_consumer_ok {state reached : Transcoding} {plain : Bytes} {last : Bool}
    (taken : transcodeConsumer bound state plain last = (reached, .ok ())) :
    ∃ ciphertext, encryptBox state.stream.key state.stream.nonce state.stream.position last
        (if state.first then bound else []) plain = some ciphertext ∧
      reached.output.written = state.output.written ++ frame ciphertext ∧
      reached.first = false ∧
      reached.stream = if last then state.stream else state.stream.advance := by
  rw [transcodeConsumer] at taken
  cases last with
  | true =>
      rw [if_pos rfl] at taken
      split at taken
      · simp at taken
      · rename_i ciphertext sealed
        split at taken
        · simp at taken
        · rename_i output wrote
          cases taken
          exact ⟨ciphertext, sealed, write_frame_ok wrote, rfl, rfl⟩
  | false =>
      rw [if_neg Bool.false_ne_true] at taken
      split at taken
      · simp at taken
      · rename_i ciphertext stream sealed
        split at taken
        · simp at taken
        · rename_i output wrote
          cases taken
          exact ⟨ciphertext, (encrypt_next_some sealed).1, write_frame_ok wrote, rfl,
            (encrypt_next_some sealed).2⟩

theorem transcode_consumer_memory {written : Bytes} {stream : StreamBE32} {first : Bool}
    {plain ciphertext : Bytes} {last : Bool}
    (sealed : encryptBox stream.key stream.nonce stream.position last
      (if first then bound else []) plain = some ciphertext)
    (fits : ciphertext.length ≤ 4294967295) :
    transcodeConsumer bound ⟨.memory written, stream, first⟩ plain last =
      (⟨.memory (written ++ frame ciphertext), if last then stream else stream.advance, false⟩,
        .ok ()) := by
  rw [transcodeConsumer]
  cases last with
  | true =>
      have sealedLast : stream.encryptLast plain (if first then bound else []) =
          some ciphertext := sealed
      simp only [if_true, sealedLast, write_frame_memory written fits]
  | false =>
      have sealedNext : stream.encryptNext plain (if first then bound else []) =
          some (ciphertext, stream.advance) := by
        rw [StreamBE32.encryptNext, sealed, Option.map_some]
      simp only [Bool.false_eq_true, if_false, sealedNext, write_frame_memory written fits]

theorem transcode_deliver_memory (written : Bytes) {stream : StreamBE32} {first : Bool}
    {plaintexts ciphertexts : List Bytes}
    (sealed : encryptChain stream.key stream.nonce stream.position (if first then bound else [])
      plaintexts = some ciphertexts)
    (fits : ∀ ciphertext ∈ ciphertexts, ciphertext.length ≤ 4294967295) :
    ∃ reached, deliver (transcodeConsumer bound) ⟨.memory written, stream, first⟩ plaintexts =
        (reached, .ok ()) ∧ reached.output = .memory (written ++ frames ciphertexts) := by
  induction plaintexts generalizing written stream first ciphertexts with
  | nil =>
      cases sealed
      exact ⟨_, rfl, by rw [frames_nil, List.append_nil]⟩
  | cons plain rest induction =>
      rcases chain_cons_eq_some sealed with ⟨ciphertext, later, rfl, boxed, chained⟩
      rw [List.forall_mem_cons] at fits
      rw [deliver_cons (transcode_consumer_memory boxed fits.1)]
      cases rest with
      | nil =>
          cases chained
          exact ⟨_, rfl, by rw [frames_cons, frames_nil, List.append_nil]⟩
      | cons next further =>
          have advanced : encryptChain stream.advance.key stream.advance.nonce
              stream.advance.position (if false then bound else []) (next :: further) =
                some later := chained
          have tail := induction (written ++ frame ciphertext) advanced fits.2
          rw [List.append_assoc] at tail
          exact tail

theorem transcode_deliver_ok {state reached : Transcoding} {plaintexts : List Bytes}
    (delivered : deliver (transcodeConsumer bound) state plaintexts = (reached, .ok ())) :
    ∃ ciphertexts, encryptChain state.stream.key state.stream.nonce state.stream.position
        (if state.first then bound else []) plaintexts = some ciphertexts ∧
      reached.output.written = state.output.written ++ frames ciphertexts := by
  induction plaintexts generalizing state with
  | nil =>
      cases delivered
      exact ⟨[], rfl, by rw [frames_nil, List.append_nil]⟩
  | cons plain rest induction =>
      rcases deliver_cons_ok delivered with ⟨next, taken, deliveredLater⟩
      rcases transcode_consumer_ok taken with ⟨ciphertext, boxed, written, notFirst, advanced⟩
      rcases induction deliveredLater with ⟨later, chained, writtenLater⟩
      refine ⟨ciphertext :: later, chain_cons boxed ?_, ?_⟩
      · cases rest with
        | nil =>
            cases chained
            rfl
        | cons following further =>
            rw [advanced, notFirst] at chained
            exact chained
      · rw [writtenLater, written, frames_cons, List.append_assoc]

end Consumers

section Readers

open Gilbreth.Store (ArchiveProvenance)

variable {random : SealRandom} {input bound : Bytes} {output reached : Output}
  {header : ArchiveHeader} {credential : ArchiveCredential} {key : ArchiveSealKey}

def sealedHeader (random : SealRandom) (provenance : ArchiveProvenance)
    (keyWrap : ArchiveKeyWrap) (chunkSize : Nat) : ArchiveHeader :=
  { provenance := provenance
    keyWrap := keyWrap
    chunkSize := chunkSize
    streamNonce := random.streamNonce }

theorem seal_reader_ok {provenance : ArchiveProvenance}
    (ran : sealReader random input output provenance key = (reached, .ok header)) :
    ∃ keyWrap json ciphertexts, wrapContentKey random key = .ok keyWrap ∧
      header = sealedHeader random provenance keyWrap defaultChunkSize ∧
      validateHeader header = .ok () ∧ ArchiveExternals.headerToVec header = .ok json ∧
      json.length ≤ maxHeaderLen ∧
      encryptChain random.contentKey random.streamNonce 0 (authenticatedHeader json)
        (split defaultChunkSize input) = some ciphertexts ∧
      reached.written = output.written ++ authenticatedHeader json ++ frames ciphertexts := by
  rw [sealReader] at ran
  split at ran
  · simp at ran
  · rename_i keyWrap wrapped
    simp only at ran
    split at ran
    · simp at ran
    · rename_i headed bound wrote
      split at ran
      · simp at ran
      · rename_i finished looped
        cases ran
        rcases write_header_ok wrote with ⟨valid, writtenHeader, json, rendered, fits, rfl⟩
        rcases seal_loop_ok (by decide) (held_back_read_chunk _ input) looped with
          ⟨ciphertexts, sealed, written⟩
        simp only [readChunk, List.take_append_drop] at sealed
        refine ⟨keyWrap, json, ciphertexts, wrapped, rfl, valid, rendered, fits, sealed, ?_⟩
        rw [written, writtenHeader]

theorem seal_reader_memory {provenance : ArchiveProvenance} {keyWrap : ArchiveKeyWrap}
    {json : Bytes} {ciphertexts : List Bytes} (written : Bytes)
    (wrapped : wrapContentKey random key = .ok keyWrap)
    (same : header = sealedHeader random provenance keyWrap defaultChunkSize)
    (valid : validateHeader header = .ok ())
    (rendered : ArchiveExternals.headerToVec header = .ok json)
    (fits : json.length ≤ maxHeaderLen)
    (sealed : encryptChain random.contentKey random.streamNonce 0 (authenticatedHeader json)
      (split defaultChunkSize input) = some ciphertexts)
    (small : ∀ ciphertext ∈ ciphertexts, ciphertext.length ≤ 4294967295) :
    sealReader random input (.memory written) provenance key =
      (.memory (written ++ authenticatedHeader json ++ frames ciphertexts), .ok header) := by
  subst same
  let stream : StreamBE32 := ⟨random.contentKey, random.streamNonce, 0⟩
  have whole : encryptChain stream.key stream.nonce stream.position
      (if true then authenticatedHeader json else [])
      (split defaultChunkSize ((readChunk input defaultChunkSize).1 ++
        (readChunk input defaultChunkSize).2)) = some ciphertexts := by
    simp only [readChunk, List.take_append_drop]
    exact sealed
  have looped := seal_loop_memory (by decide) (held_back_read_chunk defaultChunkSize input)
    (written ++ authenticatedHeader json) whole small
  rw [sealedHeader] at valid rendered
  simp only [sealReader, wrapped, write_header_memory written valid rendered fits, sealedHeader]
  rw [looped]

theorem unseal_reader_ok
    (ran : unsealReader input output credential = (reached, .ok header)) :
    ∃ bound contentKey ciphertexts plaintexts,
      readHeader input = .ok (header, bound, frames ciphertexts) ∧
      unwrapContentKey header.keyWrap credential = .ok contentKey ∧ ciphertexts ≠ [] ∧
      (∀ ciphertext ∈ ciphertexts, FrameFits (header.chunkSize + aesGcmTagLen) ciphertext) ∧
      decryptChain contentKey header.streamNonce 0 bound ciphertexts = some plaintexts ∧
      deliver unsealConsumer output plaintexts = (reached, .ok ()) := by
  rw [unsealReader] at ran
  split at ran
  · simp at ran
  · rename_i readHeader bound rest read
    split at ran
    · simp at ran
    · rename_i contentKey unwrapped
      split at ran
      · simp at ran
      · rename_i finished decrypted
        cases ran
        rcases decrypt_chunks_ok decrypted with
          ⟨ciphertexts, plaintexts, someSegment, rfl, fit, opened, delivered⟩
        exact ⟨bound, contentKey, ciphertexts, plaintexts, read, unwrapped, someSegment, fit,
          opened, delivered⟩

theorem unseal_reader_memory {contentKey : ContentKey} {ciphertexts plaintexts : List Bytes}
    (written : Bytes) (read : readHeader input = .ok (header, bound, frames ciphertexts))
    (unwrapped : unwrapContentKey header.keyWrap credential = .ok contentKey)
    (someSegment : ciphertexts ≠ [])
    (fit : ∀ ciphertext ∈ ciphertexts, FrameFits (header.chunkSize + aesGcmTagLen) ciphertext)
    (opened : decryptChain contentKey header.streamNonce 0 bound ciphertexts = some plaintexts) :
    unsealReader input (.memory written) credential =
      (.memory (written ++ plaintexts.flatten), .ok header) := by
  have decrypted := decrypt_chunks_frames (read_header_ok read).2.1 someSegment fit opened
    (unseal_deliver_memory written plaintexts)
  simp only [unsealReader, read, unwrapped, decrypted]

theorem transcode_reader_ok {sourceCredential : ArchiveCredential}
    (ran : transcodeReader random input output sourceCredential key = (reached, .ok header)) :
    ∃ sourceHeader bound sourceKey keyWrap json sources plaintexts ciphertexts,
      readHeader input = .ok (sourceHeader, bound, frames sources) ∧
      unwrapContentKey sourceHeader.keyWrap sourceCredential = .ok sourceKey ∧ sources ≠ [] ∧
      (∀ source ∈ sources, FrameFits (sourceHeader.chunkSize + aesGcmTagLen) source) ∧
      decryptChain sourceKey sourceHeader.streamNonce 0 bound sources = some plaintexts ∧
      wrapContentKey random key = .ok keyWrap ∧
      header = sealedHeader random sourceHeader.provenance keyWrap sourceHeader.chunkSize ∧
      validateHeader header = .ok () ∧ ArchiveExternals.headerToVec header = .ok json ∧
      json.length ≤ maxHeaderLen ∧
      encryptChain random.contentKey random.streamNonce 0 (authenticatedHeader json) plaintexts =
        some ciphertexts ∧
      reached.written = output.written ++ authenticatedHeader json ++ frames ciphertexts := by
  rw [transcodeReader] at ran
  split at ran
  · simp at ran
  · rename_i sourceHeader bound rest read
    split at ran
    · simp at ran
    · rename_i sourceKey unwrapped
      split at ran
      · simp at ran
      · rename_i keyWrap wrapped
        simp only at ran
        split at ran
        · simp at ran
        · rename_i headed destinationBound wrote
          split at ran
          · simp at ran
          · rename_i finished decrypted
            cases ran
            rcases write_header_ok wrote with ⟨valid, writtenHeader, json, rendered, fits, rfl⟩
            rcases decrypt_chunks_ok decrypted with
              ⟨sources, plaintexts, someSegment, rfl, fit, opened, delivered⟩
            rcases transcode_deliver_ok delivered with ⟨ciphertexts, sealed, written⟩
            refine ⟨sourceHeader, bound, sourceKey, keyWrap, json, sources, plaintexts,
              ciphertexts, read, unwrapped, someSegment, fit, opened, wrapped, rfl, valid, rendered,
              fits, sealed, ?_⟩
            rw [written, writtenHeader]

theorem transcode_reader_memory {sourceHeader : ArchiveHeader}
    {sourceCredential : ArchiveCredential} {sourceKey : ContentKey} {keyWrap : ArchiveKeyWrap}
    {json : Bytes} {sources plaintexts ciphertexts : List Bytes} (written : Bytes)
    (read : readHeader input = .ok (sourceHeader, bound, frames sources))
    (unwrapped : unwrapContentKey sourceHeader.keyWrap sourceCredential = .ok sourceKey)
    (someSegment : sources ≠ [])
    (fit : ∀ source ∈ sources, FrameFits (sourceHeader.chunkSize + aesGcmTagLen) source)
    (opened : decryptChain sourceKey sourceHeader.streamNonce 0 bound sources = some plaintexts)
    (wrapped : wrapContentKey random key = .ok keyWrap)
    (same : header = sealedHeader random sourceHeader.provenance keyWrap sourceHeader.chunkSize)
    (valid : validateHeader header = .ok ())
    (rendered : ArchiveExternals.headerToVec header = .ok json)
    (fits : json.length ≤ maxHeaderLen)
    (sealed : encryptChain random.contentKey random.streamNonce 0 (authenticatedHeader json)
      plaintexts = some ciphertexts)
    (small : ∀ ciphertext ∈ ciphertexts, ciphertext.length ≤ 4294967295) :
    transcodeReader random input (.memory written) sourceCredential key =
      (.memory (written ++ authenticatedHeader json ++ frames ciphertexts), .ok header) := by
  subst same
  let stream : StreamBE32 := ⟨random.contentKey, random.streamNonce, 0⟩
  have whole : encryptChain stream.key stream.nonce stream.position
      (if true then authenticatedHeader json else []) plaintexts = some ciphertexts := sealed
  rcases transcode_deliver_memory (written ++ authenticatedHeader json) whole small with
    ⟨reached, delivered, finished⟩
  have decrypted := decrypt_chunks_frames (read_header_ok read).2.1 someSegment fit opened delivered
  rw [sealedHeader] at valid rendered
  simp only [transcodeReader, read, unwrapped, wrapped,
    write_header_memory written valid rendered fits, sealedHeader]
  rw [decrypted]
  simp only [finished]

end Readers

end Gilbreth.Archive
