import Gilbreth.Read.Focus
import Gilbreth.Store.PathFree

/-!
# Typing bursts

The readers classify a key by its name whenever its row stores no class. The classifier
is written a second time, away from the one capture uses, and it lacks the modifier keys
of one platform. A burst counts printable keys only, where the two agree on every name.
-/

set_option autoImplicit false

namespace Gilbreth.Read

open Gilbreth.Core (EventEnvelope EventPayload Modifiers WindowRef redacted)
open Gilbreth.Store

section Classes

/-- `name.as_bytes()`. -/
def nameBytes (name : String) : List UInt8 := name.toList.flatMap String.utf8EncodeChar

/-- `key_class_for_name` of the readers; `70` is the byte of an `F`. -/
def keyClassForName (name : String) : String :=
  if name ∈ ["Shift", "Ctrl", "Alt", "Win", "CapsLock", "NumLock", "ScrollLock"] then "modifier"
  else if name ∈ ["Home", "End", "PageUp", "PageDown", "ArrowLeft", "ArrowUp", "ArrowRight",
      "ArrowDown", "Insert", "Delete", "Backspace", "Tab"] then "navigation"
  else if name ∈ ["Enter", "Escape", "Pause", "Apps", "PrintScreen"] then "function"
  else if name = "Space" then "printable"
  else if 2 ≤ name.utf8ByteSize ∧ (nameBytes name).head? = some 70 ∧
      name.toList.tail.all Char.isDigit then "function"
  else if "Numpad".toList <+: name.toList then "printable"
  else if name.toList.length = 1 then "printable"
  else "other"

def captureOnlyNames : List String := ["Cmd", "Option", "Fn"]

theorem lead_byte_high (byte : UInt8) :
    byte &&& 0x1f ||| 0xc0 ≠ 70 ∧ byte &&& 0x0f ||| 0xe0 ≠ 70 ∧ byte &&& 0x07 ||| 0xf0 ≠ 70 := by
  have all : ∀ bits : BitVec 8, bits &&& 0x1f ||| 0xc0 ≠ 70 ∧ bits &&& 0x0f ||| 0xe0 ≠ 70 ∧
      bits &&& 0x07 ||| 0xf0 ≠ 70 := by
    decide +kernel
  have bits := all byte.toBitVec
  exact ⟨fun same => bits.1 (congrArg UInt8.toBitVec same),
    fun same => bits.2.1 (congrArg UInt8.toBitVec same),
    fun same => bits.2.2 (congrArg UInt8.toBitVec same)⟩

theorem first_byte_of_char (char : Char) :
    (String.utf8EncodeChar char).head? = some 70 ↔ char = 'F' := by
  constructor
  · intro first
    rcases char.utf8Size_eq with one | two | three | four
    · rw [String.utf8EncodeChar_eq_singleton one] at first
      have small := UInt32.le_iff_toNat_le.mp (Char.utf8Size_eq_one_iff.mp one)
      have code := congrArg UInt8.toNat (Option.some.inj first)
      apply Char.ext
      apply UInt32.toNat_inj.mp
      simp only [UInt32.toNat_toUInt8] at code
      have bound : (127 : UInt32).toNat = 127 := rfl
      have letter : ('F' : Char).val.toNat = (70 : UInt8).toNat := rfl
      omega
    · rw [String.utf8EncodeChar_eq_cons_cons two] at first
      exact absurd (Option.some.inj first) (lead_byte_high _).1
    · rw [String.utf8EncodeChar_eq_cons_cons_cons three] at first
      exact absurd (Option.some.inj first) (lead_byte_high _).2.1
    · rw [String.utf8EncodeChar_eq_cons_cons_cons_cons four] at first
      exact absurd (Option.some.inj first) (lead_byte_high _).2.2
  · intro same
    rw [same]
    decide

theorem first_byte_iff (name : String) :
    (nameBytes name).head? = some 70 ↔ name.toList.head? = some 'F' := by
  unfold nameBytes
  cases name.toList with
  | nil => simp
  | cons char rest =>
      rw [List.flatMap_cons, List.head?_append_of_ne_nil _ String.utf8EncodeChar_ne_nil,
        first_byte_of_char, List.head?_cons, Option.some.injEq]

theorem capture_only_cases {name : String} (member : name ∈ captureOnlyNames) :
    name = "Cmd" ∨ name = "Option" ∨ name = "Fn" := by
  simpa [captureOnlyNames] using member

theorem capture_only_modifier {name : String} (member : name ∈ captureOnlyNames) :
    Core.keyClassForName name = .modifier := by
  rcases capture_only_cases member with same | same | same
  · rw [same]
    rfl
  · rw [same]
    rfl
  · rw [same]
    rfl

theorem capture_only_other {name : String} (member : name ∈ captureOnlyNames) :
    keyClassForName name = "other" := by
  rcases capture_only_cases member with same | same | same
  · rw [same]
    decide +kernel
  · rw [same]
    decide +kernel
  · rw [same]
    decide +kernel

theorem key_class_for_name_of_capture {name : String} (absent : name ∉ captureOnlyNames) :
    keyClassForName name = keyClassName (Core.keyClassForName name) := by
  have modifiers : name ∈ ["Shift", "Ctrl", "Alt", "Win", "CapsLock", "NumLock", "ScrollLock",
      "Cmd", "Option", "Fn"] ↔
      name ∈ ["Shift", "Ctrl", "Alt", "Win", "CapsLock", "NumLock", "ScrollLock"] := by
    simp only [captureOnlyNames, List.mem_cons, List.not_mem_nil, or_false] at absent ⊢
    tauto
  rw [keyClassForName, Core.keyClassForName]
  simp only [modifiers, first_byte_iff]
  split_ifs <;> rfl

theorem key_class_for_name_agrees_iff (name : String) :
    keyClassName (Core.keyClassForName name) = keyClassForName name ↔
      name ∉ captureOnlyNames := by
  constructor
  · intro same member
    rw [capture_only_modifier member, capture_only_other member] at same
    exact absurd same (by decide)
  · intro absent
    exact (key_class_for_name_of_capture absent).symm

theorem printable_agrees (name : String) :
    keyClassForName name = "printable" ↔
      keyClassName (Core.keyClassForName name) = "printable" := by
  by_cases member : name ∈ captureOnlyNames
  · rw [capture_only_modifier member, capture_only_other member]
    decide
  · rw [key_class_for_name_of_capture member]

end Classes

section Rows

/-- `.get(key).and_then(Value::as_str)`. -/
def memberText (payload : Json) (key : String) : Option String :=
  match payload.member key with
  | some (.string text) => some text
  | _ => none

/-- The stored class, else the class of the name in the column or in the payload. -/
def keyRowClass (key : Option String) (payload : Json) : Option String :=
  let stored := (memberText payload "key_class").filter (· ≠ "")
  let name := (key.filter (· ≠ "")).or (memberText payload "key")
  stored.or ((name.filter (· ≠ "")).map keyClassForName)

def leanEvent (event : EventEnvelope) : EventEnvelope :=
  { event with payload := event.payload.omitKeyContent.1 }

def rowKeyClass (row : EventRow) : Option String :=
  keyRowClass row.key (payloadJson row.payload)

theorem key_class_member (name : String) (mods : Modifiers) (window : Option WindowRef)
    (keyClass : Option Core.KeyClass) :
    (payloadJson (.key name mods window keyClass)).member "key_class" =
      keyClass.map fun keyClass => .string (keyClassName keyClass) := by
  rw [payload_json_rewritten _ rfl, Json.member, basename_members_lookup]
  by_cases omitted : name = "" <;> cases keyClass <;>
    simp [payloadMembers, omitted, List.lookup_cons, optionalMember,
      basenameWindowExeInPayload]

theorem key_class_name_filled (keyClass : Core.KeyClass) : keyClassName keyClass ≠ "" := by
  cases keyClass <;> decide

theorem row_key_class {event : EventEnvelope} {name : String} {mods : Modifiers}
    {window : Option WindowRef} {keyClass : Option Core.KeyClass}
    (isKey : event.payload = .key name mods window keyClass) :
    rowKeyClass (.fromEnvelope event) = (keyClass.map keyClassName).or
      (if name = "" then none else some (keyClassForName name)) := by
  have column : (EventRow.fromEnvelope event).key = if name = "" then none else some name := by
    simp [EventRow.fromEnvelope, isKey]
  have payload : ∃ shown, (EventRow.fromEnvelope event).payload =
      .key name mods shown keyClass := by
    simp [EventRow.fromEnvelope, EventRow.withWindow, EventRow.base, isKey, storedPayload,
      EventPayload.redactWindows]
  obtain ⟨shown, payload⟩ := payload
  rw [rowKeyClass, column, payload, keyRowClass, memberText, memberText, key_class_member,
    key_json_member]
  cases keyClass with
  | some keyClass => simp [key_class_name_filled]
  | none => by_cases omitted : name = "" <;> simp [omitted, Option.filter]

theorem content_row_class {event : EventEnvelope} {name : String} {mods : Modifiers}
    {window : Option WindowRef} (isKey : event.payload = .key name mods window none) :
    rowKeyClass (.fromEnvelope event) =
      if name = "" then none else some (keyClassForName name) := by
  rw [row_key_class isKey, Option.map_none, Option.none_or]

theorem lean_row_class {event : EventEnvelope} {name : String} {mods : Modifiers}
    {window : Option WindowRef} (isKey : event.payload = .key name mods window none) :
    rowKeyClass (.fromEnvelope (leanEvent event)) =
      if name = "" ∨ name = redacted then none
      else some (keyClassName (Core.keyClassForName name)) := by
  by_cases blank : name = ""
  · have isLean : (leanEvent event).payload = .key "" mods window none := by
      simp [leanEvent, isKey, EventPayload.omitKeyContent, blank]
    rw [row_key_class isLean]
    simp [blank]
  · by_cases marker : name = redacted
    · have isLean : (leanEvent event).payload = .key "" mods window none := by
        simp [leanEvent, isKey, EventPayload.omitKeyContent, marker, redacted]
      rw [row_key_class isLean]
      simp [marker]
    · have isLean : (leanEvent event).payload =
          .key "" mods window (some (Core.keyClassForName name)) := by
        simp [leanEvent, isKey, EventPayload.omitKeyContent, blank, marker]
      rw [row_key_class isLean]
      simp [blank, marker]

theorem row_classes_agree_iff {event : EventEnvelope} {name : String} {mods : Modifiers}
    {window : Option WindowRef} (isKey : event.payload = .key name mods window none)
    (filled : name ≠ "") (unmarked : name ≠ redacted) :
    rowKeyClass (.fromEnvelope (leanEvent event)) = rowKeyClass (.fromEnvelope event) ↔
      name ∉ captureOnlyNames := by
  rw [lean_row_class isKey, content_row_class isKey, if_neg filled,
    if_neg (not_or.mpr ⟨filled, unmarked⟩), Option.some.injEq, key_class_for_name_agrees_iff]

theorem row_printable_agrees {event : EventEnvelope} {name : String} {mods : Modifiers}
    {window : Option WindowRef} (isKey : event.payload = .key name mods window none) :
    rowKeyClass (.fromEnvelope (leanEvent event)) = some "printable" ↔
      rowKeyClass (.fromEnvelope event) = some "printable" := by
  rw [lean_row_class isKey, content_row_class isKey]
  by_cases blank : name = ""
  · simp [blank]
  · by_cases marker : name = redacted
    · have other : keyClassForName redacted = "other" := by decide +kernel
      simp [marker, other]
    · simp [blank, marker, printable_agrees]

end Rows

section Bursts

def typingBurstGapMs : Int := 2000

def typingBurstMinChars : Int := 5

/-- One row of the query, with its class. -/
structure KeyEvent where
  sessionId : Int
  ts : Int
  keyClass : Option String
deriving DecidableEq

def keyEvent (row : EventRow) : KeyEvent where
  sessionId := row.sessionId
  ts := row.ts.val
  keyClass := rowKeyClass row

/-- `ORDER BY e.session_id, e.ts, e.id`; rows of one moment stand in the order of their ids. -/
def typedBefore (left right : EventRow) : Bool :=
  decide (left.sessionId < right.sessionId ∨
    (left.sessionId = right.sessionId ∧ left.ts.val ≤ right.ts.val))

def keyEvents (rows : List EventRow) (scope : Scope) : List KeyEvent :=
  ((rows.filter fun row => row.kind == "key" && scope.admits row.sessionId row.ts.val).mergeSort
    typedBefore).map keyEvent

def KeyEvent.continues (previous event : KeyEvent) : Bool :=
  decide (event.sessionId = previous.sessionId ∧ event.ts - previous.ts ≤ typingBurstGapMs)

/-- The loop over the keys: the burst from `burst_start` on is closed at a break and at the
end. -/
def burstsFrom (burst : List KeyEvent) (previous : KeyEvent) :
    List KeyEvent → List (List KeyEvent)
  | [] => [burst]
  | event :: rest =>
      if previous.continues event then burstsFrom (burst ++ [event]) event rest
      else burst :: burstsFrom [event] event rest

def bursts : List KeyEvent → List (List KeyEvent)
  | [] => []
  | event :: rest => burstsFrom [event] event rest

def KeyEvent.plain (event : KeyEvent) : KeyEvent :=
  { event with keyClass := event.keyClass.filter (· = "printable") }

theorem bursts_from_plain (burst : List KeyEvent) (previous : KeyEvent) (rest : List KeyEvent) :
    burstsFrom (burst.map KeyEvent.plain) previous.plain (rest.map KeyEvent.plain) =
      (burstsFrom burst previous rest).map (List.map KeyEvent.plain) := by
  induction rest generalizing burst previous with
  | nil => rfl
  | cons event rest induction =>
      have same : previous.plain.continues event.plain = previous.continues event := rfl
      rw [List.map_cons, burstsFrom, burstsFrom, same]
      split
      · have grown := induction (burst ++ [event]) event
        rw [List.map_append, List.map_singleton] at grown
        exact grown
      · have opened := induction [event] event
        rw [List.map_singleton] at opened
        rw [opened, List.map_cons]

theorem bursts_plain (events : List KeyEvent) :
    bursts (events.map KeyEvent.plain) = (bursts events).map (List.map KeyEvent.plain) := by
  cases events with
  | nil => rfl
  | cons event rest => exact bursts_from_plain [event] event rest

theorem plain_printable (event : KeyEvent) :
    event.plain.keyClass = some "printable" ↔ event.keyClass = some "printable" := by
  simp only [KeyEvent.plain, Option.filter_eq_some_iff, decide_true, and_true]

end Bursts

section Rates

/-- The floating point of the rates. -/
class RateArithmetic where
  Rate : Type
  /-- `printable / 5.0 / (duration_ms / 60_000.0)`. -/
  perMinute : (printable durationMs : Int) → Rate
  /-- `total_cmp`. -/
  atMost : Rate → Rate → Bool
  middle : Rate → Rate → Rate
  round1dp : Rate → Rate
  /-- `(90.0 / 100.0 * len).ceil()`. -/
  rank90 : Nat → Nat
  fraction : (known total : Nat) → Rate

variable [RateArithmetic]

open RateArithmetic

/-- `close_burst`: the rate of a burst that is long enough. -/
def closeBurst (burst : List KeyEvent) : Option Rate :=
  let printable : Int := (burst.filter fun event => event.keyClass = some "printable").length
  let durationMs := (burst.getLast?.elim 0 KeyEvent.ts) - burst.head?.elim 0 KeyEvent.ts
  if typingBurstMinChars ≤ printable ∧ 0 < durationMs then some (perMinute printable durationMs)
  else none

def burstRates (events : List KeyEvent) : List Rate := (bursts events).filterMap closeBurst

def medianF64 (values : List Rate) : Option Rate :=
  let sorted := values.mergeSort atMost
  if sorted.length % 2 = 1 then sorted[sorted.length / 2]?
  else
    match sorted[sorted.length / 2 - 1]?, sorted[sorted.length / 2]? with
    | some left, some right => some (middle left right)
    | _, _ => none

/-- `percentile_nearest_rank(values, 90.0)` of some values. -/
def percentileNearestRank90 (values : List Rate) : Option Rate :=
  (values.mergeSort atMost)[min (max (rank90 values.length) 1) values.length - 1]?

/-- `TypingBurstStats`: the median, the 90th percentile, the count, the classified fraction. -/
structure TypingBurstStats where
  wpmMedian : Option Rate
  wpmP90 : Option Rate
  burstCount : Int
  classifiedFraction : Option Rate

def burstStats (events : List KeyEvent) : TypingBurstStats :=
  if events.isEmpty then ⟨none, none, 0, none⟩
  else
    let known := (events.filter fun event => event.keyClass.isSome).length
    let rates := burstRates events
    let classified := some (fraction known events.length)
    if rates.isEmpty then ⟨none, none, 0, classified⟩
    else
      ⟨(medianF64 rates).map round1dp, (percentileNearestRank90 rates).map round1dp,
        rates.length, classified⟩

/-- `typing_burst_rates` over the rows of the events table. -/
def typingBurstRates (rows : List EventRow) (scope : Scope) : TypingBurstStats :=
  burstStats (keyEvents rows scope)

theorem close_burst_plain (burst : List KeyEvent) :
    closeBurst (burst.map KeyEvent.plain) = closeBurst burst := by
  have printable : ((burst.map KeyEvent.plain).filter fun event =>
      event.keyClass = some "printable").length =
      (burst.filter fun event => event.keyClass = some "printable").length := by
    rw [List.filter_map, List.length_map]
    congr 2
    funext event
    exact decide_eq_decide.mpr (plain_printable event)
  have first : (burst.map KeyEvent.plain).head?.elim 0 KeyEvent.ts =
      burst.head?.elim 0 KeyEvent.ts := by
    rw [List.head?_map]
    cases burst.head? <;> rfl
  have last : (burst.map KeyEvent.plain).getLast?.elim 0 KeyEvent.ts =
      burst.getLast?.elim 0 KeyEvent.ts := by
    rw [List.getLast?_map]
    cases burst.getLast? <;> rfl
  unfold closeBurst
  rw [printable, first, last]

theorem burst_rates_plain (events : List KeyEvent) :
    burstRates (events.map KeyEvent.plain) = burstRates events := by
  rw [burstRates, bursts_plain, List.filterMap_map, burstRates]
  congr 1
  funext burst
  exact close_burst_plain burst

theorem typing_burst_rates_plain {left right : List KeyEvent}
    (same : left.map KeyEvent.plain = right.map KeyEvent.plain) :
    burstRates left = burstRates right := by
  rw [← burst_rates_plain left, same, burst_rates_plain]

/-- The bursts a reader is told of: the median, the 90th percentile and how many. -/
def TypingBurstStats.told (stats : TypingBurstStats) : Option Rate × Option Rate × Int :=
  (stats.wpmMedian, stats.wpmP90, stats.burstCount)

theorem burst_stats_told (events : List KeyEvent) :
    (burstStats events).told =
      if (burstRates events).isEmpty then (none, none, 0)
      else ((medianF64 (burstRates events)).map round1dp,
        (percentileNearestRank90 (burstRates events)).map round1dp,
        ((burstRates events).length : Int)) := by
  unfold burstStats
  cases events with
  | nil => rfl
  | cons event rest =>
      simp only [List.isEmpty_cons, Bool.false_eq_true, if_false]
      split_ifs <;> rfl

end Rates

section Encodings

/-- Capture never classifies a key itself; only the lean policy does. -/
def Unclassified (event : EventEnvelope) : Prop :=
  ∀ name mods window keyClass, event.payload = .key name mods window keyClass → keyClass = none

theorem lean_event_kind (event : EventEnvelope) :
    (leanEvent event).payload.kind = event.payload.kind := by
  rw [leanEvent]
  cases event.payload with
  | key name mods window keyClass =>
      simp only [EventPayload.omitKeyContent]
      split_ifs <;> rfl
  | _ => rfl

theorem key_of_kind {payload : EventPayload} (isKey : payload.kind = "key") :
    ∃ name mods window keyClass, payload = .key name mods window keyClass := by
  cases payload with
  | key name mods window keyClass => exact ⟨name, mods, window, keyClass, rfl⟩
  | _ => simp [EventPayload.kind] at isKey

theorem key_events_stored (encode : EventEnvelope → EventEnvelope)
    (placed : ∀ event, (encode event).sessionId = event.sessionId ∧
      (encode event).tsUnixMs = event.tsUnixMs ∧
      (encode event).payload.kind = event.payload.kind)
    (events : List EventEnvelope) (scope : Scope) :
    keyEvents (events.map fun event => .fromEnvelope (encode event)) scope =
      ((events.filter fun event => event.payload.kind == "key" &&
          scope.admits event.sessionId event.tsUnixMs.val).mergeSort fun left right =>
        decide (left.sessionId < right.sessionId ∨
          (left.sessionId = right.sessionId ∧ left.tsUnixMs.val ≤ right.tsUnixMs.val))).map
        fun event => keyEvent (.fromEnvelope (encode event)) := by
  have columns (event : EventEnvelope) :
      (EventRow.fromEnvelope (encode event)).sessionId = event.sessionId ∧
        (EventRow.fromEnvelope (encode event)).ts = event.tsUnixMs ∧
        (EventRow.fromEnvelope (encode event)).kind = event.payload.kind := by
    have stored := from_envelope_columns (encode event)
    have same := placed event
    exact ⟨stored.1.trans same.1, stored.2.2.1.trans same.2.1, stored.2.2.2.1.trans same.2.2⟩
  rw [keyEvents, List.filter_map]
  rw [← List.map_mergeSort (r := fun left right : EventEnvelope =>
    decide (left.sessionId < right.sessionId ∨
      (left.sessionId = right.sessionId ∧ left.tsUnixMs.val ≤ right.tsUnixMs.val)))]
  · rw [List.map_map]
    congr 2
    apply List.filter_congr
    intro event _
    simp only [Function.comp_apply, columns event]
  · intro left _ right _
    simp only [typedBefore, columns left, columns right]

theorem encodings_share_keys {events : List EventEnvelope}
    (unclassified : ∀ event ∈ events, Unclassified event) (scope : Scope) :
    ∃ keys : List EventEnvelope,
      (∀ event ∈ keys, event ∈ events ∧
        ∃ name mods window, event.payload = .key name mods window none) ∧
      keyEvents (events.map fun event => .fromEnvelope (leanEvent event)) scope =
        keys.map (fun event => keyEvent (.fromEnvelope (leanEvent event))) ∧
      keyEvents (events.map fun event => .fromEnvelope event) scope =
        keys.map (fun event => keyEvent (.fromEnvelope event)) := by
  refine ⟨_, ?_, key_events_stored leanEvent
    (fun event => ⟨rfl, rfl, lean_event_kind event⟩) events scope,
    key_events_stored id (fun event => ⟨rfl, rfl, rfl⟩) events scope⟩
  intro event member
  have among := List.mem_filter.mp (List.mem_mergeSort.mp member)
  have isKey := beq_iff_eq.mp (Bool.and_eq_true_iff.mp among.2).1
  obtain ⟨name, mods, window, keyClass, payload⟩ := key_of_kind isKey
  have bare := unclassified event among.1 name mods window keyClass payload
  rw [bare] at payload
  exact ⟨among.1, name, mods, window, payload⟩

theorem lean_event_plain {event : EventEnvelope} {name : String} {mods : Modifiers}
    {window : Option WindowRef} (isKey : event.payload = .key name mods window none) :
    (keyEvent (.fromEnvelope (leanEvent event))).plain =
      (keyEvent (.fromEnvelope event)).plain := by
  have lean := from_envelope_columns (leanEvent event)
  have content := from_envelope_columns event
  have agrees := row_printable_agrees isKey
  have same : (rowKeyClass (.fromEnvelope (leanEvent event))).filter (· = "printable") =
      (rowKeyClass (.fromEnvelope event)).filter (· = "printable") := by
    apply Option.ext
    intro text
    simp only [Option.filter_eq_some_iff, decide_eq_true_eq]
    constructor
    · rintro ⟨found, printable⟩
      rw [printable] at found
      exact ⟨printable ▸ agrees.mp found, printable⟩
    · rintro ⟨found, printable⟩
      rw [printable] at found
      exact ⟨printable ▸ agrees.mpr found, printable⟩
  simp only [keyEvent, KeyEvent.plain, same, lean, content]
  rfl

theorem lean_rates_same [RateArithmetic] {events : List EventEnvelope}
    (unclassified : ∀ event ∈ events, Unclassified event) (scope : Scope) :
    burstRates (keyEvents (events.map fun event => .fromEnvelope (leanEvent event)) scope) =
      burstRates (keyEvents (events.map fun event => .fromEnvelope event) scope) := by
  obtain ⟨keys, areKeys, lean, content⟩ := encodings_share_keys unclassified scope
  apply typing_burst_rates_plain
  rw [lean, content, List.map_map, List.map_map]
  apply List.map_congr_left
  intro event member
  obtain ⟨_, name, mods, window, isKey⟩ := areKeys event member
  exact lean_event_plain isKey

/-- A key is classified at read time as it was at capture exactly when its name is not one
of those only capture knows. Its bursts are the same in both encodings whatever it is. -/
theorem keys_classified_alike [RateArithmetic] (events : List EventEnvelope)
    (unclassified : ∀ event ∈ events, Unclassified event) (scope : Scope) :
    (∀ name, keyClassName (Core.keyClassForName name) = keyClassForName name ↔
      name ∉ captureOnlyNames) ∧
    (∀ event ∈ events, ∀ name mods window, event.payload = .key name mods window none →
      name ≠ "" → name ≠ redacted →
      (rowKeyClass (.fromEnvelope (leanEvent event)) = rowKeyClass (.fromEnvelope event) ↔
        name ∉ captureOnlyNames)) ∧
    burstRates (keyEvents (events.map fun event => .fromEnvelope (leanEvent event)) scope) =
      burstRates (keyEvents (events.map fun event => .fromEnvelope event) scope) ∧
    (typingBurstRates (events.map fun event => .fromEnvelope (leanEvent event)) scope).told =
      (typingBurstRates (events.map fun event => .fromEnvelope event) scope).told := by
  have rates := lean_rates_same unclassified scope
  refine ⟨key_class_for_name_agrees_iff, ?_, rates, ?_⟩
  · intro event _ name mods window isKey filled unmarked
    exact row_classes_agree_iff isKey filled unmarked
  · unfold typingBurstRates
    rw [burst_stats_told, burst_stats_told, rates]

private abbrev countedRates : RateArithmetic where
  Rate := Int
  perMinute printable durationMs := printable * 12000 / durationMs
  atMost left right := decide (left ≤ right)
  middle left right := (left + right) / 2
  round1dp rate := rate
  rank90 count := (9 * count + 9) / 10
  fraction known total := 100 * known / total

private def pressed (name : String) (seq : Nat) : EventEnvelope where
  schemaVersion := 1
  sessionId := 1
  seq := seq
  tsUnixMs := .ofInt (100 * seq)
  source := .keyboard
  isSensitive := false
  payload := .key name .default none none

/-- Twenty letters and a paste. -/
private def chord : List EventEnvelope :=
  (List.range 20).map (pressed "a") ++ [pressed "Cmd" 20, pressed "v" 21]

theorem keys_classified_alike_chord :
    (rowKeyClass (.fromEnvelope (leanEvent (pressed "a" 1))) =
      rowKeyClass (.fromEnvelope (pressed "a" 1)) ↔ "a" ∉ captureOnlyNames) ∧
    @TypingBurstStats.told countedRates (@typingBurstRates countedRates
        (chord.map fun event => .fromEnvelope (leanEvent event)) ⟨none, none⟩) =
      @TypingBurstStats.told countedRates (@typingBurstRates countedRates
        (chord.map fun event => .fromEnvelope event) ⟨none, none⟩) := by
  have unclassified : ∀ event ∈ chord, Unclassified event := by
    intro event member name mods window keyClass isKey
    have plain : ∃ name seq, event = pressed name seq := by
      rcases List.mem_append.mp member with letter | paste
      · obtain ⟨seq, _, same⟩ := List.mem_map.mp letter
        exact ⟨"a", seq, same.symm⟩
      · rcases List.mem_pair.mp paste with same | same
        · exact ⟨"Cmd", 20, same⟩
        · exact ⟨"v", 21, same⟩
    obtain ⟨_, _, same⟩ := plain
    rw [same] at isKey
    cases isKey
    rfl
  have first : pressed "a" 1 ∈ chord :=
    List.mem_append_left _ (List.mem_map_of_mem (List.mem_range.mpr (by decide)))
  have alike := @keys_classified_alike countedRates chord unclassified ⟨none, none⟩
  exact ⟨alike.2.1 (pressed "a" 1) first "a" .default none rfl (by decide) (by decide),
    alike.2.2.2⟩

/-- The modifier key of one platform: a class in its lean row, another from its name. -/
theorem read_misses_command :
    keyClassName (Core.keyClassForName "Cmd") = "modifier" ∧ keyClassForName "Cmd" = "other" ∧
      rowKeyClass (.fromEnvelope (leanEvent (pressed "Cmd" 1))) = some "modifier" ∧
      rowKeyClass (.fromEnvelope (pressed "Cmd" 1)) = some "other" := by
  have filled : "Cmd" ≠ "" := by decide
  have unmarked : "Cmd" ≠ redacted := by decide
  have capture : keyClassName (Core.keyClassForName "Cmd") = "modifier" := by decide +kernel
  have reader : keyClassForName "Cmd" = "other" := by decide +kernel
  have isKey : (pressed "Cmd" 1).payload = .key "Cmd" .default none none := rfl
  refine ⟨capture, reader, ?_, ?_⟩
  · rw [lean_row_class isKey, if_neg (not_or.mpr ⟨filled, unmarked⟩), capture]
  · rw [content_row_class isKey, if_neg filled, reader]

end Encodings

end Gilbreth.Read
