import Gilbreth.Library.DelimitedLines
import Gilbreth.Library.Machine

/-!
# The helper's pipe

A message is one JSON text and a newline. The writer sends it in as many parts as the pipe
takes; the reader gathers chunks until its buffer holds a line, whatever the chunks. A line
over the limit is refused once more than the limit has been read without its newline.
-/

set_option autoImplicit false

namespace Gilbreth.Windows

open DelimitedLines

def maxJsonLineBytes : Nat := 1024 * 1024

/-- The buffer of one `read_chunk`. -/
def chunkBytes : Nat := 8192

/-- `b'\n'`. -/
def newline : UInt8 := 10

/-- The cases of `CaptureError` a pipe comes back with. -/
inductive PipeError where
  | channelClosed
  | windowsApi (message : String)
deriving DecidableEq

/-- `serde_json::to_vec` and `serde_json::from_slice`, with the texts of their errors. -/
class IpcJson (Message : Type) where
  toVec : Message → Except String (List UInt8)
  fromSlice : List UInt8 → Except String Message

/-- What `serde_json` does with messages that are written as objects: one line, read back,
and not to be read before its end. -/
structure IpcJson.Faithful (Message : Type) [IpcJson Message] : Prop where
  parses : ∀ (message : Message) bytes, toVec message = .ok bytes →
    fromSlice bytes = .ok message
  unbroken : ∀ (message : Message) bytes, toVec message = .ok bytes → newline ∉ bytes
  blank : ∀ message : Message, fromSlice [] ≠ .ok message
  incomplete : ∀ (message : Message) bytes, toVec message = .ok bytes →
    ∀ part, part <+: bytes → part ≠ bytes → ∀ other : Message, fromSlice part ≠ .ok other

section Writer

/-- What one `WriteFile` comes back with. -/
inductive WriteReply where
  | wrote (count : Nat)
  | brokenPipe
  | failed (error : String)

/-- The bytes sent, the calls made so far and the result. -/
structure Written where
  sent : List UInt8
  calls : Nat
  result : Except PipeError Unit

def writeAll (reply : Nat → WriteReply) (calls : Nat) : List UInt8 → Written
  | [] => ⟨[], calls, .ok ()⟩
  | byte :: rest =>
      match reply calls with
      | .wrote 0 => ⟨[], calls + 1, .error (.windowsApi "WriteFile wrote zero bytes")⟩
      | .wrote (count + 1) =>
          let later := writeAll reply (calls + 1) (rest.drop count)
          { later with sent := byte :: rest.take count ++ later.sent }
      | .brokenPipe => ⟨[], calls + 1, .error .channelClosed⟩
      | .failed error => ⟨[], calls + 1, .error (.windowsApi ("WriteFile failed: " ++ error))⟩
termination_by bytes => bytes.length
decreasing_by
  rw [List.length_drop, List.length_cons]
  omega

variable {Message : Type} [IpcJson Message]

def writeJsonLine (reply : Nat → WriteReply) (calls : Nat) (message : Message) : Written :=
  match IpcJson.toVec message with
  | .error error => ⟨[], calls, .error (.windowsApi ("serialize IPC JSON: " ++ error))⟩
  | .ok bytes => writeAll reply calls (bytes ++ [newline])

/-- Messages written one after another, up to the first error. -/
def writeJsonLines (reply : Nat → WriteReply) (calls : Nat) : List Message → Written
  | [] => ⟨[], calls, .ok ()⟩
  | message :: rest =>
      let line := writeJsonLine reply calls message
      match line.result with
      | .error error => ⟨line.sent, line.calls, .error error⟩
      | .ok () =>
          let later := writeJsonLines reply line.calls rest
          { later with sent := line.sent ++ later.sent }

/-- What is sent is a prefix of the bytes, and all of them when no error is returned. -/
theorem write_all_sent (reply : Nat → WriteReply) (calls : Nat) (bytes : List UInt8) :
    (writeAll reply calls bytes).sent <+: bytes ∧
      ((writeAll reply calls bytes).result = .ok () →
        (writeAll reply calls bytes).sent = bytes) := by
  fun_induction writeAll reply calls bytes with
  | case1 calls => exact ⟨List.prefix_rfl, fun _ => rfl⟩
  | case2 calls byte rest stuck =>
      refine ⟨List.nil_prefix, ?_⟩
      intro done
      cases done
  | case3 calls byte rest count took later induction =>
      constructor
      · apply (List.prefix_cons_inj byte).mpr
        have tail := (List.prefix_append_right_inj (rest.take count)).mpr induction.1
        rw [List.take_append_drop] at tail
        exact tail
      · intro done
        change byte :: rest.take count ++ later.sent = byte :: rest
        rw [induction.2 done, List.cons_append, List.take_append_drop]
  | case4 calls byte rest broken =>
      refine ⟨List.nil_prefix, ?_⟩
      intro done
      cases done
  | case5 calls byte rest error failed =>
      refine ⟨List.nil_prefix, ?_⟩
      intro done
      cases done

theorem write_all_taken {reply : Nat → WriteReply}
    (takes : ∀ call, ∃ count, reply call = .wrote (count + 1)) (calls : Nat)
    (bytes : List UInt8) : (writeAll reply calls bytes).result = .ok () := by
  fun_induction writeAll reply calls bytes with
  | case1 calls => rfl
  | case2 calls byte rest stuck =>
      rcases takes calls with ⟨count, took⟩
      rw [stuck] at took
      cases took
  | case3 calls byte rest count took later induction => exact induction
  | case4 calls byte rest broken =>
      rcases takes calls with ⟨count, took⟩
      rw [broken] at took
      cases took
  | case5 calls byte rest error failed =>
      rcases takes calls with ⟨count, took⟩
      rw [failed] at took
      cases took

theorem write_json_lines_taken {reply : Nat → WriteReply}
    (takes : ∀ call, ∃ count, reply call = .wrote (count + 1)) (calls : Nat)
    {messages : List Message}
    (accepted : ∀ message ∈ messages, ∃ bytes, IpcJson.toVec message = .ok bytes) :
    (writeJsonLines reply calls messages).result = .ok () := by
  induction messages generalizing calls with
  | nil => rfl
  | cons message rest induction =>
      rcases accepted message List.mem_cons_self with ⟨bytes, isBytes⟩
      have taken := write_all_taken takes calls (bytes ++ [newline])
      rw [writeJsonLines, writeJsonLine, isBytes]
      simp only [taken]
      exact induction _ fun other member => accepted other (List.mem_cons_of_mem _ member)

/-- What is sent is a prefix of the lines of some first messages, and all the lines of all of
them when no error is returned. -/
theorem write_json_lines_sent (reply : Nat → WriteReply) (calls : Nat) (messages : List Message) :
    ∃ (written : List Message) (lines : List (List UInt8)), written <+: messages ∧
      written.map IpcJson.toVec = lines.map .ok ∧
      (writeJsonLines reply calls messages).sent <+: frame newline lines ∧
      ((writeJsonLines reply calls messages).result = .ok () →
        written = messages ∧ (writeJsonLines reply calls messages).sent = frame newline lines) := by
  induction messages generalizing calls with
  | nil => exact ⟨[], [], List.prefix_rfl, rfl, List.prefix_rfl, fun _ => ⟨rfl, rfl⟩⟩
  | cons message rest induction =>
      cases serialized : IpcJson.toVec message with
      | error error =>
          refine ⟨[], [], List.nil_prefix, rfl, ?_, ?_⟩
          · rw [writeJsonLines, writeJsonLine, serialized]
            exact List.nil_prefix
          · intro done
            rw [writeJsonLines, writeJsonLine, serialized] at done
            cases done
      | ok line =>
          have sent := write_all_sent reply calls (line ++ [newline])
          rw [writeJsonLines, writeJsonLine, serialized]
          cases result : (writeAll reply calls (line ++ [newline])).result with
          | error error =>
              refine ⟨[message], [line], ?_, ?_, ?_, ?_⟩
              · exact (List.prefix_cons_inj message).mpr List.nil_prefix
              · rw [List.map_singleton, serialized, List.map_singleton]
              · have stream : frame newline [line] = line ++ [newline] := by simp
                rw [stream]
                exact sent.1
              · intro done
                cases done
          | ok whole =>
              rcases induction (writeAll reply calls (line ++ [newline])).calls with
                ⟨written, lines, early, others, within, complete⟩
              have stream : frame newline (line :: lines) =
                  (line ++ [newline]) ++ frame newline lines := by simp
              refine ⟨message :: written, line :: lines, ?_, ?_, ?_, ?_⟩
              · exact (List.prefix_cons_inj message).mpr early
              · rw [List.map_cons, List.map_cons, serialized, others]
              · simp only [sent.2 result, stream]
                exact (List.prefix_append_right_inj _).mpr within
              · intro done
                simp only [sent.2 result, stream, (complete done).1, (complete done).2, and_self]

theorem write_json_lines_stream {reply : Nat → WriteReply} {calls : Nat}
    {messages : List Message} {lines : List (List UInt8)}
    (serialized : messages.map IpcJson.toVec = lines.map .ok)
    (done : (writeJsonLines reply calls messages).result = .ok ()) :
    (writeJsonLines reply calls messages).sent = frame newline lines := by
  rcases write_json_lines_sent reply calls messages with ⟨written, sent, _, same, _, complete⟩
  rcases complete done with ⟨all, stream⟩
  rw [all, serialized] at same
  have lines_same := List.map_injective_iff.mpr (fun _ _ equal => Except.ok.inj equal) same
  rw [stream, lines_same]

end Writer

section Reader

/-- What one `read_chunk` may fill of its buffer. -/
abbrev Chunk := { bytes : List UInt8 // bytes ≠ [] ∧ bytes.length ≤ chunkBytes }

/-- What one `ReadFile` comes back with. After the last one the pipe is broken. -/
inductive PipeRead where
  | chunk (part : Chunk)
  | failed (error : String)

def PipeRead.bytes : PipeRead → List UInt8
  | .chunk part => part.val
  | .failed _ => []

/-- A `JsonLineReader`'s buffer and the reads its pipe still has. -/
structure Connection where
  buffer : List UInt8
  reads : List PipeRead

/-- The bytes that no line has been made of. -/
def Connection.remaining (connection : Connection) : List UInt8 :=
  connection.buffer ++ connection.reads.flatMap PipeRead.bytes

variable {Message : Type} [IpcJson Message]

def deserialize (bytes : List UInt8) : Except PipeError Message :=
  (IpcJson.fromSlice bytes).mapError fun error => .windowsApi ("deserialize IPC JSON: " ++ error)

/-- The loop of `JsonLineReader::read_next`. An empty line is passed; a buffer that does not
parse at the end of the pipe is kept. -/
def readFrom (Message : Type) [IpcJson Message] (buffer : List UInt8) (reads : List PipeRead) :
    Connection × Except PipeError (Option Message) :=
  match found : buffer.findIdx? (· == newline) with
  | some place =>
      if buffer.take place = [] then readFrom Message (buffer.drop (place + 1)) reads
      else (⟨buffer.drop (place + 1), reads⟩, (deserialize (buffer.take place)).map some)
  | none =>
      if maxJsonLineBytes < buffer.length then
        (⟨buffer, reads⟩, .error (.windowsApi "IPC JSON line exceeded maximum size"))
      else
        match reads with
        | .chunk part :: rest => readFrom Message (buffer ++ part.val) rest
        | .failed error :: rest =>
            (⟨buffer, rest⟩, .error (.windowsApi ("ReadFile failed: " ++ error)))
        | [] =>
            if buffer = [] then (⟨[], []⟩, .ok none)
            else
              match deserialize buffer with
              | .ok message => (⟨[], []⟩, .ok (some message))
              | .error error => (⟨buffer, []⟩, .error error)
termination_by (reads.length, buffer.length)
decreasing_by
  · apply Prod.Lex.right
    have inside := (List.findIdx?_eq_some_iff_getElem.mp found).1
    rw [List.length_drop]
    omega
  · apply Prod.Lex.left
    rw [List.length_cons]
    omega

/-- Calls of `read_next` on one pipe. -/
def connectionMachine (Message : Type) [IpcJson Message] :
    Machine Connection Unit (Except PipeError (Option Message)) where
  step connection _ := readFrom Message connection.buffer connection.reads

def Sound (reads : List PipeRead) : Prop := ∀ read ∈ reads, ∃ part, read = .chunk part

theorem remaining_chunk (buffer : List UInt8) (part : Chunk) (rest : List PipeRead) :
    Connection.remaining ⟨buffer ++ part.val, rest⟩ =
      Connection.remaining ⟨buffer, .chunk part :: rest⟩ := by
  simp [Connection.remaining, PipeRead.bytes]

theorem remaining_split {buffer : List UInt8} {place : Nat} (reads : List PipeRead)
    (found : buffer.findIdx? (· == newline) = some place) :
    Connection.remaining ⟨buffer, reads⟩ = buffer.take place ++
      newline :: Connection.remaining ⟨buffer.drop (place + 1), reads⟩ := by
  have parts := (split_at_first found).1
  change buffer ++ _ = _
  nth_rewrite 1 [parts]
  rw [List.append_assoc, List.cons_append]
  rfl

theorem no_line_at_end {buffer line more : List UInt8}
    (absent : buffer.findIdx? (· == newline) = none) :
    Connection.remaining ⟨buffer, []⟩ ≠ line ++ newline :: more := by
  intro ahead
  have same : buffer ++ [] = line ++ newline :: more := ahead
  rw [List.append_nil] at same
  apply unbroken_of_not_found absent
  rw [same]
  simp

/-- The next line is read whole, however it lies in the buffer and the chunks. -/
theorem read_from_line (Message : Type) [IpcJson Message] {buffer : List UInt8}
    {reads : List PipeRead} {line more : List UInt8}
    (sound : Sound reads)
    (ahead : Connection.remaining ⟨buffer, reads⟩ = line ++ newline :: more)
    (unbroken : newline ∉ line) (filled : line ≠ []) (bounded : line.length ≤ maxJsonLineBytes) :
    (readFrom Message buffer reads).2 = (deserialize line).map some ∧
      (readFrom Message buffer reads).1.remaining = more ∧
      Sound (readFrom Message buffer reads).1.reads := by
  fun_induction readFrom Message buffer reads with
  | case1 buffer reads place found blank induction =>
      rw [remaining_split reads found, blank] at ahead
      have same := first_line_unique List.not_mem_nil unbroken ahead
      exact absurd same.1.symm filled
  | case2 buffer reads place found occupied =>
      rw [remaining_split reads found] at ahead
      have same := first_line_unique (split_at_first found).2 unbroken ahead
      rw [same.1]
      exact ⟨rfl, same.2, sound⟩
  | case3 buffer reads absent long =>
      have within := unbroken_within (unbroken_of_not_found absent) ahead
      rcases within with ⟨tail, isLine, _⟩
      rw [isLine, List.length_append] at bounded
      omega
  | case4 buffer absent short part rest induction =>
      rw [← remaining_chunk] at ahead
      exact induction (fun read member => sound read (List.mem_cons_of_mem _ member)) ahead
  | case5 buffer absent short error rest =>
      rcases sound (.failed error) List.mem_cons_self with ⟨part, same⟩
      cases same
  | case6 absent short => exact absurd ahead (no_line_at_end absent)
  | case7 buffer absent short occupied message parsed => exact absurd ahead (no_line_at_end absent)
  | case8 buffer absent short occupied error parsed => exact absurd ahead (no_line_at_end absent)

theorem read_from_end (Message : Type) [IpcJson Message] {buffer : List UInt8}
    {reads : List PipeRead} (sound : Sound reads)
    (ahead : Connection.remaining ⟨buffer, reads⟩ = []) :
    readFrom Message buffer reads = (⟨[], []⟩, .ok none) := by
  rcases List.append_eq_nil_iff.mp ahead with ⟨drained, silent⟩
  have ended : reads = [] := by
    cases reads with
    | nil => rfl
    | cons read rest =>
        rcases sound read List.mem_cons_self with ⟨part, same⟩
        rw [same, List.flatMap_cons] at silent
        exact absurd (List.append_eq_nil_iff.mp silent).1 part.property.1
  change buffer = [] at drained
  rw [drained, ended, readFrom]
  simp

theorem read_from_bounded (Message : Type) [IpcJson Message] {buffer : List UInt8}
    {reads : List PipeRead}
    (bounded : buffer.length ≤ maxJsonLineBytes + chunkBytes) :
    (readFrom Message buffer reads).1.buffer.length ≤
      maxJsonLineBytes + chunkBytes := by
  fun_induction readFrom Message buffer reads with
  | case1 buffer reads place found blank induction =>
      apply induction
      rw [List.length_drop]
      omega
  | case2 buffer reads place found occupied =>
      rw [List.length_drop]
      omega
  | case3 buffer reads absent long => exact bounded
  | case4 buffer absent short part rest induction =>
      apply induction
      have full := part.property.2
      rw [List.length_append]
      omega
  | case5 buffer absent short error rest => exact bounded
  | case6 absent short => exact bounded
  | case7 buffer absent short occupied message parsed => exact Nat.zero_le _
  | case8 buffer absent short occupied error parsed => exact bounded

/-- What a call yields of a stream that was cut somewhere, and what it leaves. -/
inductive CutReading (lines : List (List UInt8)) :
    Connection × Except PipeError (Option Message) → Prop where
  | line {line : List UInt8} {rest : List (List UInt8)} {message : Message}
      {next : Connection} (first : lines = line :: rest)
      (parsed : IpcJson.fromSlice line = .ok message)
      (ahead : next.remaining <+: frame newline rest) : CutReading lines (next, .ok (some message))
  | nothing {next : Connection} (ahead : next.remaining <+: frame newline lines) :
      CutReading lines (next, .ok none)
  | refused {next : Connection} {error : PipeError}
      (ahead : next.remaining <+: frame newline lines) : CutReading lines (next, .error error)

/-- Lines that read back, none of them before its end. -/
def Framed (Message : Type) [IpcJson Message] (lines : List (List UInt8)) : Prop :=
  ∀ line ∈ lines, newline ∉ line ∧ (∃ message : Message, IpcJson.fromSlice line = .ok message) ∧
    ∀ part, part <+: line → part ≠ line → ∀ other : Message, IpcJson.fromSlice part ≠ .ok other

theorem deserialize_ok_iff (bytes : List UInt8) (message : Message) :
    deserialize bytes = .ok message ↔ IpcJson.fromSlice bytes = .ok message := by
  rw [deserialize]
  cases (IpcJson.fromSlice bytes : Except String Message) with
  | error error => simp [Except.mapError]
  | ok parsed => simp [Except.mapError]

theorem not_blank_first {lines : List (List UInt8)} {more : List UInt8}
    (filled : ∀ line ∈ lines, line ≠ []) (unbroken : ∀ line ∈ lines, newline ∉ line) :
    ¬newline :: more <+: frame newline lines := by
  rintro ⟨after, same⟩
  cases lines with
  | nil => cases same
  | cons line rest =>
      rw [frame_cons, List.cons_append] at same
      have first : [] = line ∧ more ++ after = frame newline rest :=
        first_line_unique List.not_mem_nil (unbroken line List.mem_cons_self) same
      exact filled line List.mem_cons_self first.1.symm

theorem read_from_cut {lines : List (List UInt8)} {buffer : List UInt8} {reads : List PipeRead}
    (framed : Framed Message lines) (filled : ∀ line ∈ lines, line ≠ [])
    (ahead : Connection.remaining ⟨buffer, reads⟩ <+: frame newline lines) :
    CutReading lines (readFrom Message buffer reads) := by
  fun_induction readFrom Message buffer reads with
  | case1 buffer reads place found blank induction =>
      rw [remaining_split reads found, blank] at ahead
      exact absurd ahead
        (not_blank_first filled fun line member => (framed line member).1)
  | case2 buffer reads place found occupied =>
      rw [remaining_split reads found] at ahead
      rcases ahead with ⟨after, same⟩
      cases lines with
      | nil => simp at same
      | cons line rest =>
          rcases framed line List.mem_cons_self with ⟨unbroken, ⟨message, parsed⟩, _⟩
          rw [frame_cons, List.append_assoc, List.cons_append] at same
          have first := first_line_unique (split_at_first found).2 unbroken same
          rw [first.1, (deserialize_ok_iff line message).mpr parsed]
          exact .line rfl parsed ⟨after, first.2⟩
  | case3 buffer reads absent long => exact .refused ahead
  | case4 buffer absent short part rest induction =>
      rw [← remaining_chunk] at ahead
      exact induction ahead
  | case5 buffer absent short error rest => exact .refused ahead
  | case6 absent short => exact .nothing ahead
  | case7 buffer absent short occupied message parsed =>
      have whole := (deserialize_ok_iff buffer message).mp parsed
      rcases ahead with ⟨after, same⟩
      have joined : buffer ++ after = frame newline lines := by
        rw [← same, Connection.remaining, List.flatMap_nil, List.append_nil]
      cases lines with
      | nil => exact absurd (List.append_eq_nil_iff.mp joined).1 occupied
      | cons line rest =>
          rw [frame_cons] at joined
          rcases unbroken_within (unbroken_of_not_found absent) joined with ⟨tail, isLine, _⟩
          by_cases complete : buffer = line
          · rw [complete] at whole
            exact .line rfl whole List.nil_prefix
          · have within : buffer <+: line := ⟨tail, isLine.symm⟩
            exact absurd whole
              ((framed line List.mem_cons_self).2.2 buffer within complete message)
  | case8 buffer absent short occupied error parsed => exact .refused ahead

def yielded : Except PipeError (Option Message) → Option Message
  | .ok message => message
  | .error _ => none

/-- Whatever is cut off and however often it is read, what is yielded was written, in order. -/
theorem yielded_within {messages : List Message} {lines : List (List UInt8)}
    (parsed : lines.map IpcJson.fromSlice = messages.map Except.ok)
    (framed : Framed Message lines) (filled : ∀ line ∈ lines, line ≠ [])
    {connection : Connection} (ahead : connection.remaining <+: frame newline lines)
    (calls : List Unit) :
    ((connectionMachine Message).outputs connection calls).filterMap yielded <+: messages := by
  induction calls generalizing connection messages lines with
  | nil => exact List.nil_prefix
  | cons call calls induction =>
      have reading : CutReading lines
          ((connectionMachine Message).step connection call) := read_from_cut framed filled ahead
      rw [Machine.outputs_cons, List.filterMap_cons]
      generalize (connectionMachine Message).step connection call = answer at reading
      cases reading with
      | @line line rest message next first read later =>
          subst first
          cases messages with
          | nil => cases parsed
          | cons written messages =>
              rcases List.cons.inj parsed with ⟨isWritten, others⟩
              rw [read] at isWritten
              cases isWritten
              apply (List.prefix_cons_inj message).mpr
              exact induction others
                (fun other member => framed other (List.mem_cons_of_mem _ member))
                (fun other member => filled other (List.mem_cons_of_mem _ member)) later
      | nothing later => exact induction parsed framed filled later
      | refused later => exact induction parsed framed filled later

theorem read_all {messages : List Message} {lines : List (List UInt8)}
    (parsed : lines.map IpcJson.fromSlice = messages.map Except.ok)
    (unbroken : ∀ line ∈ lines, newline ∉ line) (filled : ∀ line ∈ lines, line ≠ [])
    (bounded : ∀ line ∈ lines, line.length ≤ maxJsonLineBytes)
    {connection : Connection} (sound : Sound connection.reads)
    (ahead : connection.remaining = frame newline lines) (more : Nat) :
    (connectionMachine Message).outputs connection (List.replicate (messages.length + more) ()) =
      messages.map (fun message => .ok (some message)) ++ List.replicate more (.ok none) := by
  induction messages generalizing connection lines with
  | nil =>
      cases lines with
      | cons line lines => cases parsed
      | nil =>
          rw [List.length_nil, Nat.zero_add, List.map_nil, List.nil_append]
          induction more generalizing connection with
          | zero => rfl
          | succ more again =>
              have stop : (connectionMachine Message).step connection () = (⟨[], []⟩, .ok none) :=
                read_from_end Message sound ahead
              rw [List.replicate_succ, List.replicate_succ, Machine.outputs_cons, stop]
              congr 1
              apply again
              · intro read member
                cases member
              · rfl
  | cons message messages induction =>
      cases lines with
      | nil => cases parsed
      | cons line lines =>
          rcases List.cons.inj parsed with ⟨isMessage, others⟩
          rw [frame_cons] at ahead
          have step := read_from_line Message sound ahead
            (unbroken line List.mem_cons_self) (filled line List.mem_cons_self)
            (bounded line List.mem_cons_self)
          have parse : deserialize line = .ok message :=
            (deserialize_ok_iff line message).mpr isMessage
          rw [parse] at step
          rw [List.length_cons, Nat.add_right_comm, List.replicate_succ, Machine.outputs_cons,
            List.map_cons, List.cons_append]
          congr 1
          · exact step.1
          · exact induction others
              (fun other member => unbroken other (List.mem_cons_of_mem _ member))
              (fun other member => filled other (List.mem_cons_of_mem _ member))
              (fun other member => bounded other (List.mem_cons_of_mem _ member))
              step.2.2 step.2.1

theorem run_bounded (Message : Type) [IpcJson Message] (reads : List PipeRead) (calls : List Unit) :
    ((connectionMachine Message).run ⟨[], reads⟩ calls).buffer.length ≤
      maxJsonLineBytes + chunkBytes := by
  apply (connectionMachine Message).run_invariant
    (fun connection => connection.buffer.length ≤ maxJsonLineBytes + chunkBytes)
  · intro connection _ bounded
    exact read_from_bounded Message bounded
  · exact Nat.zero_le _

def oneByte (byte : UInt8) : PipeRead :=
  .chunk ⟨[byte], List.cons_ne_nil byte [], by simp [chunkBytes]⟩

theorem one_byte_sound (bytes : List UInt8) : Sound (bytes.map oneByte) := by
  intro read member
  rcases List.mem_map.mp member with ⟨byte, _, same⟩
  exact ⟨_, same.symm⟩

theorem one_byte_joined (bytes : List UInt8) :
    (bytes.map oneByte).flatMap PipeRead.bytes = bytes := by
  rw [List.flatMap_map]
  exact List.flatMap_singleton' bytes

theorem read_from_unbroken (Message : Type) [IpcJson Message] {buffer : List UInt8}
    (unbroken : newline ∉ buffer) (part : Chunk) (rest : List PipeRead) :
    readFrom Message buffer (.chunk part :: rest) =
      if maxJsonLineBytes < buffer.length then
        (⟨buffer, .chunk part :: rest⟩,
          .error (.windowsApi "IPC JSON line exceeded maximum size"))
      else readFrom Message (buffer ++ part.val) rest := by
  rw [readFrom]
  split
  · rename_i place found
    have place_in := (split_at_first found).1
    rw [place_in] at unbroken
    simp at unbroken
  · rfl

theorem read_from_long (Message : Type) [IpcJson Message] {buffer bytes : List UInt8}
    (unbroken : newline ∉ buffer ++ bytes) (long : maxJsonLineBytes < buffer.length + bytes.length)
    (byte : UInt8) (more : List PipeRead) :
    (readFrom Message buffer (bytes.map oneByte ++ oneByte byte :: more)).2 =
      .error (.windowsApi "IPC JSON line exceeded maximum size") := by
  induction bytes generalizing buffer with
  | nil =>
      rw [List.append_nil] at unbroken
      rw [List.length_nil, Nat.add_zero] at long
      rw [List.map_nil, List.nil_append, oneByte, read_from_unbroken Message unbroken, if_pos long]
  | cons head bytes induction =>
      have start : newline ∉ buffer := fun member => unbroken (List.mem_append_left _ member)
      rw [List.map_cons, List.cons_append, oneByte, read_from_unbroken Message start]
      split
      · rfl
      · apply induction
        · rw [List.append_assoc]
          exact unbroken
        · rw [List.length_append, List.length_cons, List.length_nil]
          rw [List.length_cons] at long
          omega

end Reader

section Framing

variable {Message : Type} [IpcJson Message]

theorem faithful_lines (faithful : IpcJson.Faithful Message) {messages : List Message}
    {lines : List (List UInt8)} (serialized : messages.map IpcJson.toVec = lines.map .ok) :
    lines.map IpcJson.fromSlice = messages.map Except.ok ∧ Framed Message lines ∧
      ∀ line ∈ lines, line ≠ [] := by
  induction messages generalizing lines with
  | nil =>
      cases lines with
      | nil => exact ⟨rfl, by simp [Framed], by simp⟩
      | cons line lines => cases serialized
  | cons message messages induction =>
      cases lines with
      | nil => cases serialized
      | cons line lines =>
          rcases List.cons.inj serialized with ⟨isLine, others⟩
          have later := induction others
          have parsed := faithful.parses message line isLine
          refine ⟨?_, ?_, ?_⟩
          · rw [List.map_cons, List.map_cons, parsed, later.1]
          · intro other member
            rcases List.mem_cons.mp member with same | among
            · rw [same]
              exact ⟨faithful.unbroken message line isLine, ⟨message, parsed⟩,
                faithful.incomplete message line isLine⟩
            · exact later.2.1 other among
          · intro other member
            rcases List.mem_cons.mp member with same | among
            · rw [same]
              intro blank
              rw [blank] at parsed
              exact faithful.blank message parsed
            · exact later.2.2 other among

/-- The message's bytes are within the reader's limit. -/
def WithinLimit (message : Message) : Prop :=
  ∀ bytes, IpcJson.toVec message = .ok bytes → bytes.length ≤ maxJsonLineBytes

theorem serialized_within {messages : List Message} {lines : List (List UInt8)}
    (serialized : messages.map IpcJson.toVec = lines.map .ok)
    (within : ∀ message ∈ messages, WithinLimit message) :
    ∀ line ∈ lines, line.length ≤ maxJsonLineBytes := by
  intro line member
  have listed : (Except.ok line : Except String (List UInt8)) ∈ messages.map IpcJson.toVec := by
    rw [serialized]
    exact List.mem_map_of_mem member
  rcases List.mem_map.mp listed with ⟨message, among, isLine⟩
  exact within message among line isLine

theorem long_message_refused (faithful : IpcJson.Faithful Message) {message : Message}
    (long : ¬WithinLimit message) :
    ∃ bytes, IpcJson.toVec message = .ok bytes ∧ ∃ reads : List PipeRead, Sound reads ∧
      reads.flatMap PipeRead.bytes = bytes ++ [newline] ∧
      (readFrom Message [] reads).2 =
        .error (.windowsApi "IPC JSON line exceeded maximum size") := by
  rcases Classical.not_forall.mp long with ⟨bytes, isLong⟩
  rcases Classical.not_imp.mp isLong with ⟨isBytes, exceeds⟩
  refine ⟨bytes, isBytes, (bytes ++ [newline]).map oneByte, one_byte_sound _,
    one_byte_joined _, ?_⟩
  rw [List.map_append, List.map_singleton]
  apply read_from_long Message
  · exact faithful.unbroken message bytes isBytes
  · rw [List.length_nil, Nat.zero_add]
    exact Nat.lt_of_not_le exceeds

/-- Messages within the limit arrive once and in order, however the stream is chunked. Of a
stream that is cut, or holds a longer message, nothing arrives but what was written. -/
theorem ipc_framing_lossless (faithful : IpcJson.Faithful Message) (messages : List Message)
    (reply : Nat → WriteReply) :
    ((writeJsonLines reply 0 messages).result = .ok () →
      (∀ message ∈ messages, WithinLimit message) →
      ∀ reads : List PipeRead, Sound reads →
      reads.flatMap PipeRead.bytes = (writeJsonLines reply 0 messages).sent → ∀ more,
      (connectionMachine Message).outputs ⟨[], reads⟩
          (List.replicate (messages.length + more) ()) =
        messages.map (fun message => .ok (some message)) ++ List.replicate more (.ok none)) ∧
    (∀ reads : List PipeRead,
      reads.flatMap PipeRead.bytes <+: (writeJsonLines reply 0 messages).sent → ∀ calls,
      ((connectionMachine Message).outputs ⟨[], reads⟩ calls).filterMap yielded <+: messages) ∧
    (∀ reads calls, ((connectionMachine Message).run ⟨[], reads⟩ calls).buffer.length ≤
      maxJsonLineBytes + chunkBytes) ∧
    ∀ message : Message, ¬WithinLimit message → ∃ bytes, IpcJson.toVec message = .ok bytes ∧
      ∃ reads : List PipeRead, Sound reads ∧
        reads.flatMap PipeRead.bytes = bytes ++ [newline] ∧
        (readFrom Message [] reads).2 =
          .error (.windowsApi "IPC JSON line exceeded maximum size") := by
  rcases write_json_lines_sent reply 0 messages with
    ⟨written, lines, early, serialized, within, complete⟩
  rcases faithful_lines faithful serialized with ⟨parsed, framed, filled⟩
  refine ⟨?_, ?_, run_bounded Message, ?_⟩
  · intro done bounded reads sound joined more
    rcases complete done with ⟨all, sent⟩
    subst all
    have ahead : Connection.remaining ⟨[], reads⟩ = frame newline lines := joined.trans sent
    exact read_all parsed (fun line member => (framed line member).1) filled
      (serialized_within serialized bounded) sound ahead more
  · intro reads cut calls
    have ahead : Connection.remaining ⟨[], reads⟩ <+: frame newline lines := cut.trans within
    exact (yielded_within parsed framed filled ahead calls).trans early
  · intro message long
    exact long_message_refused faithful long

private inductive HelperOrder where
  | stop
  | keepAlive
deriving DecidableEq

private def orderText : HelperOrder → List UInt8
  | .stop => "\x7b\"type\":\"stop\",\"record_session_id\":7\x7d".toList.map fun char =>
      char.val.toUInt8
  | .keepAlive => "\x7b\"type\":\"keep_alive\",\"record_session_id\":7\x7d".toList.map
      fun char => char.val.toUInt8

private abbrev orderJson : IpcJson HelperOrder where
  toVec order := .ok (orderText order)
  fromSlice bytes :=
    if bytes = orderText .stop then .ok .stop
    else if bytes = orderText .keepAlive then .ok .keepAlive
    else .error "EOF while parsing an object"

private theorem order_json_faithful : @IpcJson.Faithful HelperOrder orderJson := by
  have apart : orderText .keepAlive ≠ orderText .stop := by decide +kernel
  have stop_inside : ¬orderText .stop <+: orderText .keepAlive := by decide +kernel
  have alive_inside : ¬orderText .keepAlive <+: orderText .stop := by decide +kernel
  refine @IpcJson.Faithful.mk HelperOrder orderJson ?_ ?_ ?_ ?_
  · intro order bytes isBytes
    cases isBytes
    cases order with
    | stop => exact if_pos rfl
    | keepAlive => exact (if_neg apart).trans (if_pos rfl)
  · intro order bytes isBytes
    cases isBytes
    cases order with
    | stop => decide +kernel
    | keepAlive => decide +kernel
  · intro order parsed
    have blankStop : [] ≠ orderText .stop := by decide +kernel
    have blankAlive : [] ≠ orderText .keepAlive := by decide +kernel
    simp [IpcJson.fromSlice, blankStop, blankAlive] at parsed
  · intro order bytes isBytes part within cut other parsed
    cases isBytes
    have notStop : part ≠ orderText .stop := by
      intro same
      subst same
      cases order with
      | stop => exact cut rfl
      | keepAlive => exact stop_inside within
    have notAlive : part ≠ orderText .keepAlive := by
      intro same
      subst same
      cases order with
      | stop => exact alive_inside within
      | keepAlive => exact cut rfl
    simp [IpcJson.fromSlice, notStop, notAlive] at parsed

/-- Two orders of the helper, written in parts of five bytes and read one byte at a time. -/
theorem ipc_framing_lossless_orders :
    (@connectionMachine HelperOrder orderJson).outputs
        ⟨[], (orderText .keepAlive ++ newline :: orderText .stop ++ [newline]).map oneByte⟩
        [(), (), ()] =
      [.ok (some .keepAlive), .ok (some .stop), .ok none] := by
  have takes : ∀ call : Nat, ∃ count, (fun _ : Nat => WriteReply.wrote 5) call =
      .wrote (count + 1) := fun _ => ⟨4, rfl⟩
  have accepted : ∀ order ∈ [HelperOrder.keepAlive, .stop],
      ∃ bytes, @IpcJson.toVec HelperOrder orderJson order = .ok bytes :=
    fun order _ => ⟨orderText order, rfl⟩
  have taken := @write_json_lines_taken HelperOrder orderJson _ takes 0 _ accepted
  have sent := @write_json_lines_stream HelperOrder orderJson _ 0 [.keepAlive, .stop]
    [orderText .keepAlive, orderText .stop] rfl taken
  have within : ∀ order ∈ [HelperOrder.keepAlive, .stop],
      @WithinLimit HelperOrder orderJson order := by
    intro order _ bytes isBytes
    cases isBytes
    cases order with
    | stop => decide +kernel
    | keepAlive => decide +kernel
  have lossless := (@ipc_framing_lossless HelperOrder orderJson order_json_faithful
    [.keepAlive, .stop] fun _ => .wrote 5).1 taken within
    ((orderText .keepAlive ++ newline :: orderText .stop ++ [newline]).map oneByte)
  apply lossless (one_byte_sound _) _ 1
  rw [sent, one_byte_joined]
  simp

private def errorHead : List UInt8 :=
  "\x7b\"type\":\"error\",\"record_session_id\":7,\"message\":\"".toList.map
    fun char => char.val.toUInt8

private def errorTail : List UInt8 := "\"\x7d".toList.map fun char => char.val.toUInt8

/-- An error of the helper with a message of a mebibyte. -/
private def bulkText : List UInt8 :=
  errorHead ++ (List.replicate maxJsonLineBytes 97 ++ errorTail)

private abbrev bulkJson : IpcJson Unit where
  toVec _ := .ok bulkText
  fromSlice bytes := if bytes = bulkText then .ok () else .error "EOF while parsing an object"

private theorem bulk_unbroken : newline ∉ bulkText := by
  have head : newline ∉ errorHead := by decide +kernel
  have tail : newline ∉ errorTail := by decide +kernel
  intro member
  rcases List.mem_append.mp member with first | later
  · exact head first
  · rcases List.mem_append.mp later with inside | last
    · cases List.eq_of_mem_replicate inside
    · exact tail last

private theorem bulk_faithful : @IpcJson.Faithful Unit bulkJson := by
  refine @IpcJson.Faithful.mk Unit bulkJson ?_ ?_ ?_ ?_
  · intro _ bytes isBytes
    cases isBytes
    exact if_pos rfl
  · intro _ bytes isBytes
    cases isBytes
    exact bulk_unbroken
  · intro _ parsed
    have some : [] ≠ bulkText := (List.append_ne_nil_of_left_ne_nil (by decide +kernel) _).symm
    cases (if_neg some).symm.trans parsed
  · intro _ bytes isBytes part _ cut _ parsed
    cases isBytes
    cases (if_neg cut).symm.trans parsed

/-- One message over the limit, accepted by the writer and refused by the reader. -/
theorem long_message_lost :
    (@writeJsonLines Unit bulkJson (fun _ => .wrote 4096) 0 [()]).result = .ok () ∧
      ∃ reads : List PipeRead, Sound reads ∧
        reads.flatMap PipeRead.bytes =
          (@writeJsonLines Unit bulkJson (fun _ => .wrote 4096) 0 [()]).sent ∧
        (@connectionMachine Unit bulkJson).outputs ⟨[], reads⟩ [()] =
          [.error (.windowsApi "IPC JSON line exceeded maximum size")] := by
  have taken := @write_json_lines_taken Unit bulkJson (fun _ => .wrote 4096)
    (fun _ => ⟨4095, rfl⟩) 0 [()] fun _ _ => ⟨bulkText, rfl⟩
  have sent := @write_json_lines_stream Unit bulkJson _ 0 [()] [bulkText] rfl taken
  have long : ¬@WithinLimit Unit bulkJson () := by
    intro within
    have bound := within bulkText rfl
    have tail : errorTail.length = 2 := by decide +kernel
    rw [bulkText, List.length_append, List.length_append, List.length_replicate, tail] at bound
    omega
  rcases @long_message_refused Unit bulkJson bulk_faithful () long with
    ⟨bytes, isBytes, reads, sound, joined, refused⟩
  cases isBytes
  refine ⟨taken, reads, sound, ?_, ?_⟩
  · rw [joined, sent]
    simp only [frame_cons, frame_nil]
  · rw [Machine.outputs_cons, Machine.outputs_nil]
    exact congrArg (· :: []) refused

end Framing

end Gilbreth.Windows
