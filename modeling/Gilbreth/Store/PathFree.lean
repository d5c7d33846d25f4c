import Gilbreth.Store.PayloadJson

/-!
# No full path in the window streams

A stored event shows the executable of a window twice, in a column and in the
payload. Both go through `exe_basename`, which gives the path back unchanged when
it ends in a separator, so a row is free of paths exactly when no window of the
event has such an executable.
-/

set_option autoImplicit false

namespace Gilbreth.Store

open Gilbreth.Core

section FileNames

/-- No `/` and no `\`. -/
def IsFileName (exe : String) : Prop := ∀ char ∈ exe.toList, char ≠ '\\' ∧ char ≠ '/'

def endsInSeparator (exe : String) : Bool :=
  exe.toList.getLast?.any fun char => char == '\\' || char == '/'

theorem last_path_segment_file_name (path : String) : IsFileName (lastPathSegment path) := by
  intro char member
  rw [lastPathSegment, String.toList_ofList, List.mem_reverse] at member
  simpa using List.mem_takeWhile_imp member

theorem ends_in_separator_iff (path : String) :
    endsInSeparator path = true ↔
      ∃ char before, path.toList.reverse = char :: before ∧ (char = '\\' ∨ char = '/') := by
  rw [endsInSeparator, ← List.head?_reverse]
  cases path.toList.reverse with
  | nil => simp
  | cons char before => simp

theorem last_path_segment_empty (path : String) :
    lastPathSegment path = "" ↔ path = "" ∨ endsInSeparator path = true := by
  rw [ends_in_separator_iff, lastPathSegment, ← String.toList_inj, String.toList_ofList,
    ← String.toList_inj, String.toList_empty, List.reverse_eq_nil_iff,
    ← @List.reverse_eq_nil_iff _ path.toList]
  cases path.toList.reverse with
  | nil => simp
  | cons char before =>
      rw [List.takeWhile_cons]
      split_ifs with kept <;> simp_all [or_iff_not_imp_left]

theorem exe_basename_file_name_iff (path : String) :
    IsFileName (exeBasename path) ↔ endsInSeparator path = false := by
  unfold exeBasename
  split_ifs with empty
  · cases ends : endsInSeparator path with
    | false =>
        have none := (last_path_segment_empty path).mp empty
        rw [ends] at none
        simp only [Bool.false_eq_true, or_false] at none
        subst none
        simp [IsFileName]
    | true =>
        have ⟨char, before, reversed, separator⟩ := (ends_in_separator_iff path).mp ends
        have member : char ∈ path.toList := by
          rw [← List.mem_reverse, reversed]
          exact List.mem_cons_self
        constructor
        · intro fileName
          have own := fileName char member
          cases separator with
          | inl same => exact absurd same own.1
          | inr same => exact absurd same own.2
        · intro same
          cases same
  · rw [last_path_segment_empty, not_or] at empty
    exact iff_of_true (last_path_segment_file_name path) (Bool.eq_false_iff.mpr empty.2)

end FileNames

section Places

/-- Where a payload, and a row, may show a window. -/
inductive WindowPlace where
  | window | prev
deriving DecidableEq

def WindowPlace.key : WindowPlace → String
  | .window => "window"
  | .prev => "prev"

/-- The window at a place, `some none` when the event came without it and `none` when the
variant has no such field. -/
def windowAt (payload : EventPayload) (place : WindowPlace) : Option (Option WindowRef) :=
  match payload, place with
  | .focusChanged window .., .window => some (some window)
  | .focusChanged _ prev .., .prev => some prev
  | .windowOpened window _, .window => some (some window)
  | .windowClosed window .., .window => some (some window)
  | .key _ _ window _, .window => some window
  | .mouseClick _ _ _ window _, .window => some window
  | .mouseDoubleClick _ _ _ _ window _, .window => some window
  | .mouseDrag _ _ _ _ _ _ _ _ _ _ window _ _, .window => some window
  | .mouseWheel _ _ _ _ window _, .window => some window
  | .mouseMove _ _ _ _ _ _ _ window _, .window => some window
  | _, _ => none

def payloadWindows (payload : EventPayload) : List WindowRef :=
  (windowAt payload .prev).join.toList ++ (windowAt payload .window).join.toList

theorem mem_payload_windows {payload : EventPayload} {window : WindowRef} :
    window ∈ payloadWindows payload ↔
      ∃ place, windowAt payload place = some (some window) := by
  simp only [payloadWindows, List.mem_append, Option.mem_toList, Option.join_eq_some_iff]
  constructor
  · intro member
    cases member with
    | inl prev => exact ⟨.prev, prev⟩
    | inr window => exact ⟨.window, window⟩
  · intro member
    have ⟨place, found⟩ := member
    cases place with
    | window => exact Or.inr found
    | prev => exact Or.inl found

def EventRow.exeAt (row : EventRow) : WindowPlace → Option String
  | .window => row.exe
  | .prev => row.prevExe

def EventRow.titleAt (row : EventRow) : WindowPlace → Option String
  | .window => row.title
  | .prev => row.prevTitle

def Json.member (value : Json) (key : String) : Option Json :=
  match value with
  | .object members => members.lookup key
  | _ => none

/-- A text the payload shows of the window at a place. -/
def shownText (payload : Json) (place : WindowPlace) (name : String) : Option String :=
  match (payload.member place.key).bind (·.member name) with
  | some (.string text) => some text
  | _ => none

def isMouseMove : EventPayload → Bool
  | .mouseMove .. => true
  | _ => false

def isProcessStream : EventPayload → Bool
  | .processStarted .. | .processExited .. => true
  | _ => false

end Places

section Columns

theorem row_exe_at (event : EventEnvelope) (ordinary : isProcessStream event.payload = false)
    (place : WindowPlace) :
    (EventRow.fromEnvelope event).exeAt place =
      (windowAt event.payload place).join.map fun window => exeBasename window.exe := by
  revert ordinary
  unfold EventRow.fromEnvelope
  cases event.payload <;> cases place <;> intro ordinary <;> first | rfl | cases ordinary

theorem row_title_at (event : EventEnvelope) (place : WindowPlace) (window : Option WindowRef)
    (found : windowAt event.payload place = some window) :
    (EventRow.fromEnvelope event).titleAt place =
      if isMouseMove event.payload then none else window.map WindowRef.title := by
  revert found
  unfold EventRow.fromEnvelope
  cases event.payload <;> cases place <;> intro found <;> cases found <;> rfl

end Columns

section Payload

theorem member_exes_plain (members : List (String × Json)) :
    memberExes false members = members.flatMap fun member => windowExes member.2 := by
  induction members with
  | nil => simp [memberExes]
  | cons member rest induction =>
      have own : ownExe false member.1 member.2 = [] := by
        cases member.2 <;> simp [ownExe]
      rw [memberExes, own, induction, List.flatMap_cons, List.nil_append]

@[simp] theorem natural_value_exes (value : Nat) : windowExes (naturalValue value) = [] := by
  simp [naturalValue, windowExes]

@[simp] theorem integer_value_exes (value : Int) : windowExes (integerValue value) = [] := by
  simp [integerValue, windowExes]

@[simp] theorem string_exes (text : String) : windowExes (.string text) = [] := by
  simp [windowExes]

@[simp] theorem bool_exes (value : Bool) : windowExes (.bool value) = [] := by
  simp [windowExes]

@[simp] theorem modifiers_value_exes (mods : Modifiers) :
    windowExes (modifiersValue mods) = [] := by
  simp [modifiersValue, windowExes, memberExes, ownExe]

@[simp] theorem window_value_exes (window : WindowRef) :
    windowExes (windowValue window) = [window.exe] := by
  simp [windowValue, windowExes, memberExes, ownExe, naturalValue]

@[simp] theorem optional_window_exes (window : Option WindowRef) :
    windowExes (optionalValue windowValue window) = window.toList.map WindowRef.exe := by
  cases window <;> simp [optionalValue, windowExes]

@[simp] theorem optional_value_exes {Field : Type} {write : Field → Json}
    (plain : ∀ value, windowExes (write value) = []) (value : Option Field) :
    windowExes (optionalValue write value) = [] := by
  cases value <;> simp [optionalValue, windowExes, plain]

@[simp] theorem coordinate_exes (value : Option Int32) : windowExes (coordinate value) = [] := by
  simp [coordinate]

@[simp] theorem optional_member_exes {Field : Type} {key : String} {write : Field → Json}
    (plain : ∀ value, windowExes (write value) = []) (value : Option Field) :
    ((optionalMember key write value).flatMap fun member => windowExes member.2) = [] := by
  cases value <;> simp [optionalMember, plain]

@[simp] theorem origin_member_exes (inputOrigin : Option InputOrigin) :
    ((originMember inputOrigin).flatMap fun member => windowExes member.2) = [] := by
  simp [originMember]

@[simp] theorem flag_member_exes (key : String) (flag : Bool) :
    ((flagMember key flag).flatMap fun member => windowExes member.2) = [] := by
  cases flag <;> simp [flagMember]

theorem churn_entries_exes (entries : List ProcessChurnEntry) :
    itemExes (entries.map churnEntryValue) = [] := by
  induction entries with
  | nil => simp [itemExes]
  | cons entry rest induction =>
      rw [List.map_cons, itemExes, induction]
      cases sustained : entry.sustained <;>
        simp [churnEntryValue, flagMember, sustained, windowExes, memberExes, ownExe, naturalValue]

@[simp] theorem optional_member_any {Field : Type} (key : String) (write : Field → Json)
    (value : Option Field) (test : String → Bool) :
    ((optionalMember key write value).any fun member => test member.1) =
      (value.isSome && test key) := by
  cases value <;> simp [optionalMember]

@[simp] theorem flag_member_any (key : String) (flag : Bool) (test : String → Bool) :
    ((flagMember key flag).any fun member => test member.1) = (flag && test key) := by
  cases flag <;> simp [flagMember]

theorem payload_members_plain (payload : EventPayload) :
    ((payloadMembers payload).any fun member => member.1 == "hwnd") = false := by
  have optional {Field : Type} (key : String) (write : Field → Json) (value : Option Field) :=
    optional_member_any key write value (· == "hwnd")
  have flag (key : String) (flag : Bool) := flag_member_any key flag (· == "hwnd")
  cases payload with
  | key name mods window keyClass =>
      by_cases omitted : name = "" <;> simp [payloadMembers, omitted, optional, -List.any_eq_false]
  | processChurnSummary windowMs dropped distinctExes top =>
      cases top <;> simp [payloadMembers, -List.any_eq_false]
  | _ => simp [payloadMembers, originMember, optional, flag, -List.any_eq_false]

theorem payload_members_exes (payload : EventPayload) :
    windowExes (.object (payloadMembers payload)) = (payloadWindows payload).map WindowRef.exe := by
  rw [windowExes, payload_members_plain, member_exes_plain]
  cases payload with
  | key name mods window keyClass =>
      by_cases omitted : name = "" <;>
        simp [payloadMembers, payloadWindows, windowAt, omitted]
  | processChurnSummary windowMs dropped distinctExes top =>
      cases top with
      | nil => simp [payloadMembers, payloadWindows, windowAt]
      | cons entry rest =>
          have entries := churn_entries_exes (entry :: rest)
          simpa [payloadMembers, payloadWindows, windowAt, windowExes] using entries
  | _ => simp [payloadMembers, payloadWindows, windowAt]

def basenamedWindow (window : WindowRef) : WindowRef :=
  { window with exe := exeBasename window.exe }

theorem basename_window_value (window : WindowRef) :
    basenameWindowExeInPayload (windowValue window) = windowValue (basenamedWindow window) := by
  simp [windowValue, basenamedWindow, basenameWindowExeInPayload, basenameMembers, shortenExe,
    naturalValue]

theorem basename_optional_window (window : Option WindowRef) :
    basenameWindowExeInPayload (optionalValue windowValue window) =
      optionalValue windowValue (window.map basenamedWindow) := by
  cases window with
  | none => simp [optionalValue, basenameWindowExeInPayload]
  | some window => simp [optionalValue, basename_window_value]

theorem basename_members_plain (members : List (String × Json)) :
    basenameMembers false members =
      members.map fun member => (member.1, basenameWindowExeInPayload member.2) := by
  induction members with
  | nil => rfl
  | cons member rest induction =>
      have kept : shortenExe false member.1 member.2 (basenameWindowExeInPayload member.2) =
          basenameWindowExeInPayload member.2 := by
        cases member.2 <;> simp [shortenExe]
      rw [basenameMembers, kept, induction, List.map_cons]

theorem basename_members_lookup (members : List (String × Json)) (key : String) :
    (basenameMembers false members).lookup key =
      (members.lookup key).map basenameWindowExeInPayload := by
  rw [basename_members_plain]
  induction members with
  | nil => rfl
  | cons member rest induction =>
      rw [List.map_cons, List.lookup_cons, List.lookup_cons, induction]
      cases key == member.1 <;> rfl

theorem optional_member_lookup {Field : Type} (key other : String) (write : Field → Json)
    (value : Option Field) (differs : (other == key) = false) :
    (optionalMember key write value).lookup other = none := by
  cases value <;> simp [optionalMember, List.lookup_cons, differs]

theorem flag_member_lookup (key other : String) (flag : Bool) (differs : (other == key) = false) :
    (flagMember key flag).lookup other = none := by
  cases flag <;> simp [flagMember, List.lookup_cons, differs]

theorem payload_members_lookup (payload : EventPayload) (place : WindowPlace) :
    (payloadMembers payload).lookup place.key =
      (windowAt payload place).map (optionalValue windowValue) := by
  have shown (window : WindowRef) :
      optionalValue windowValue (some window) = windowValue window := rfl
  cases payload with
  | key name mods window keyClass =>
      by_cases omitted : name = "" <;> cases place <;>
        simp [payloadMembers, windowAt, WindowPlace.key, List.lookup_cons, List.lookup_append,
          optional_member_lookup, omitted]
  | _ =>
      cases place <;>
        simp [payloadMembers, windowAt, WindowPlace.key, List.lookup_cons, List.lookup_append,
          originMember, optional_member_lookup, flag_member_lookup, shown]

theorem payload_json_rewritten (payload : EventPayload) (still : isMouseMove payload = false) :
    payloadJson payload = .object (basenameMembers false (payloadMembers payload)) := by
  rw [← payload_members_plain payload]
  revert still
  cases payload <;> intro still <;> first | rfl | cases still

theorem payload_json_member (payload : EventPayload) (still : isMouseMove payload = false)
    (place : WindowPlace) :
    (payloadJson payload).member place.key = (windowAt payload place).map fun window =>
      optionalValue windowValue (window.map basenamedWindow) := by
  rw [payload_json_rewritten payload still, Json.member, basename_members_lookup,
    payload_members_lookup, Option.map_map]
  apply congrArg (Option.map · _)
  funext window
  exact basename_optional_window window

theorem mouse_move_member (payload : EventPayload) (moved : isMouseMove payload = true)
    (place : WindowPlace) : (payloadJson payload).member place.key = none := by
  cases payload with
  | mouseMove dx dy distance count duration x y window inputOrigin =>
      cases place <;>
        simp [payloadJson, Json.member, WindowPlace.key, List.lookup_cons, List.lookup_append,
          originMember, optional_member_lookup]
  | _ => cases moved

theorem mouse_move_exes (payload : EventPayload) (moved : isMouseMove payload = true) :
    windowExes (payloadJson payload) = [] := by
  cases payload with
  | mouseMove dx dy distance count duration x y window inputOrigin =>
      cases inputOrigin <;>
        simp [payloadJson, windowExes, originMember, optionalMember, member_exes_plain]
  | _ => cases moved

/-- The windows of the payload are those of the event, each with the name of its file. -/
theorem payload_json_exes (payload : EventPayload) (still : isMouseMove payload = false) :
    windowExes (payloadJson payload) =
      (payloadWindows payload).map fun window => exeBasename window.exe := by
  have tree : payloadJson payload =
      basenameWindowExeInPayload (.object (payloadMembers payload)) := by
    rw [payload_json_rewritten payload still, basenameWindowExeInPayload, payload_members_plain]
  rw [tree, window_exes_basename, payload_members_exes, List.map_map]
  rfl

theorem shown_exe (payload : EventPayload) (still : isMouseMove payload = false)
    (place : WindowPlace) :
    shownText (payloadJson payload) place "exe" =
      (windowAt payload place).join.map fun window => exeBasename window.exe := by
  rw [shownText, payload_json_member payload still]
  cases found : windowAt payload place with
  | none => rfl
  | some window => cases window <;> rfl

theorem shown_title (payload : EventPayload) (still : isMouseMove payload = false)
    (place : WindowPlace) :
    shownText (payloadJson payload) place "title" =
      (windowAt payload place).join.map WindowRef.title := by
  rw [shownText, payload_json_member payload still]
  cases found : windowAt payload place with
  | none => rfl
  | some window =>
      cases window with
      | none => rfl
      | some window =>
          simp [optionalValue, windowValue, Json.member, List.lookup_cons, basenamedWindow]

theorem mouse_move_shows_nothing (payload : EventPayload) (moved : isMouseMove payload = true)
    (place : WindowPlace) (name : String) : shownText (payloadJson payload) place name = none := by
  rw [shownText, mouse_move_member payload moved]
  rfl

theorem basename_optional_value {Field : Type} {write : Field → Json}
    (plain : ∀ value, basenameWindowExeInPayload (write value) = write value)
    (value : Option Field) :
    basenameWindowExeInPayload (optionalValue write value) = optionalValue write value := by
  cases value <;> simp [optionalValue, basenameWindowExeInPayload, plain]

theorem basename_optional_member {Field : Type} {key : String} {write : Field → Json}
    (plain : ∀ value, basenameWindowExeInPayload (write value) = write value)
    (value : Option Field) :
    ((optionalMember key write value).map fun member =>
        (member.1, basenameWindowExeInPayload member.2)) = optionalMember key write value := by
  cases value <;> simp [optionalMember, plain]

theorem basename_flag_member (key : String) (flag : Bool) :
    ((flagMember key flag).map fun member => (member.1, basenameWindowExeInPayload member.2)) =
      flagMember key flag := by
  cases flag <;> simp [flagMember, basenameWindowExeInPayload]

theorem basename_churn_entries (entries : List ProcessChurnEntry) :
    basenameItems (entries.map churnEntryValue) = entries.map churnEntryValue := by
  induction entries with
  | nil => simp [basenameItems]
  | cons entry rest induction =>
      rw [List.map_cons, basenameItems, induction]
      cases sustained : entry.sustained <;>
        simp [churnEntryValue, flagMember, sustained, basenameWindowExeInPayload, basenameMembers,
          shortenExe, naturalValue]

theorem redact_optional_basename (window : Option WindowRef) :
    (redactOptionalWindow (fun window =>
      ({ window with exe := exeBasename window.exe }, false)) window).1 =
        window.map basenamedWindow := by
  cases window <;> rfl

theorem payload_json_stored (payload : EventPayload) (still : isMouseMove payload = false) :
    payloadJson payload = .object (payloadMembers (storedPayload payload)) := by
  have number (value : Nat) :
      basenameWindowExeInPayload (naturalValue value) = naturalValue value := by
    simp [naturalValue, basenameWindowExeInPayload]
  have integer (value : Int) :
      basenameWindowExeInPayload (integerValue value) = integerValue value := by
    simp [integerValue, basenameWindowExeInPayload]
  have text (value : String) : basenameWindowExeInPayload (.string value) = .string value := by
    simp [basenameWindowExeInPayload]
  have flag (value : Bool) : basenameWindowExeInPayload (.bool value) = .bool value := by
    simp [basenameWindowExeInPayload]
  have modifiers (mods : Modifiers) :
      basenameWindowExeInPayload (modifiersValue mods) = modifiersValue mods := by
    simp [modifiersValue, basenameWindowExeInPayload, basenameMembers, shortenExe]
  rw [payload_json_rewritten payload still, basename_members_plain]
  cases payload with
  | mouseMove => cases still
  | processChurnSummary windowMs dropped distinctExes top =>
      cases top with
      | nil =>
          simp [storedPayload, EventPayload.redactWindows, payloadMembers, number, text, kindToken,
            EventPayload.kind]
      | cons entry rest =>
          have entries := basename_churn_entries (entry :: rest)
          rw [List.map_cons] at entries
          simp [storedPayload, EventPayload.redactWindows, payloadMembers, number, kindToken,
            EventPayload.kind, basenameWindowExeInPayload, entries]
  | key name mods window keyClass =>
      by_cases omitted : name = "" <;>
        simp [storedPayload, EventPayload.redactWindows, payloadMembers, omitted, text, modifiers,
          kindToken, EventPayload.kind, basename_optional_member, basename_optional_window,
          redact_optional_basename]
  | _ =>
      simp [storedPayload, EventPayload.redactWindows, payloadMembers, number, integer, text, flag,
        kindToken, EventPayload.kind, coordinate, originMember, basename_optional_value,
        basename_optional_member, basename_flag_member, basename_optional_window,
        basename_window_value, redact_optional_basename, basenamedWindow]

theorem key_json_member (name : String) (mods : Modifiers) (window : Option WindowRef)
    (keyClass : Option KeyClass) :
    (payloadJson (.key name mods window keyClass)).member "key" =
      if name = "" then none else some (.string name) := by
  rw [payload_json_rewritten _ rfl, Json.member, basename_members_lookup]
  by_cases omitted : name = "" <;>
    simp [payloadMembers, omitted, List.lookup_cons, List.lookup_append, optional_member_lookup,
      basenameWindowExeInPayload]

theorem notification_json_member (app : Option String) (count : UInt32) :
    (payloadJson (.notificationsReceived app count)).member "app" =
      some (optionalValue Json.string app) := by
  rw [payload_json_rewritten _ rfl, Json.member, basename_members_lookup]
  cases app <;> simp [payloadMembers, optionalValue, basenameWindowExeInPayload]

end Payload

section Rows

/-- The row shows a title of the window at a place, in its column or in its payload. -/
def ShowsTitle (event : EventEnvelope) (place : WindowPlace) (title : String) : Prop :=
  (EventRow.fromEnvelope event).titleAt place = some title ∨
    shownText (payloadJson event.payload) place "title" = some title

def ShowsKey (event : EventEnvelope) (key : String) : Prop :=
  (EventRow.fromEnvelope event).key = some key ∨
    (payloadJson event.payload).member "key" = some (.string key)

/-- The label of a notification's source stands in the title column. -/
def ShowsLabel (event : EventEnvelope) (label : String) : Prop :=
  (EventRow.fromEnvelope event).title = some label ∨
    (payloadJson event.payload).member "app" = some (.string label)

/-- A stored row without a path in its windows and without what the event redacts or omits. -/
structure WindowPathsKept (event : EventEnvelope) : Prop where
  columns : ∀ place exe, (EventRow.fromEnvelope event).exeAt place = some exe → IsFileName exe
  payload : ∀ exe ∈ windowExes (payloadJson event.payload), IsFileName exe
  agree : isMouseMove event.payload = false → ∀ place : WindowPlace,
    shownText (payloadJson event.payload) place "exe" = (EventRow.fromEnvelope event).exeAt place
  moved : isMouseMove event.payload = true → ∀ place : WindowPlace,
    (payloadJson event.payload).member place.key = none
  redactedTitle : ∀ place window, windowAt event.payload place = some (some window) →
    window.title = redacted → ∀ title, ShowsTitle event place title → title = redacted
  omittedTitle : ∀ place, windowAt event.payload place = some none →
    ∀ title, ¬ShowsTitle event place title
  keys : ∀ name mods window keyClass, event.payload = .key name mods window keyClass →
    (name = redacted → ∀ key, ShowsKey event key → key = redacted) ∧
      (name = "" → ∀ key, ¬ShowsKey event key)
  labels : ∀ app count, event.payload = .notificationsReceived app count →
    (app = some redacted → ∀ label, ShowsLabel event label → label = redacted) ∧
      (app = none → ∀ label, ¬ShowsLabel event label)

theorem shown_title_own {event : EventEnvelope} {place : WindowPlace} {window : Option WindowRef}
    (found : windowAt event.payload place = some window) {title : String}
    (shows : ShowsTitle event place title) : window.map WindowRef.title = some title := by
  cases shows with
  | inl column =>
      rw [row_title_at event place window found] at column
      split_ifs at column with moved
      exact column
  | inr member =>
      cases moved : isMouseMove event.payload with
      | true =>
          rw [mouse_move_shows_nothing event.payload moved] at member
          cases member
      | false =>
          rw [shown_title event.payload moved, found] at member
          exact member

theorem shown_key_own {event : EventEnvelope} {name : String} {mods : Modifiers}
    {window : Option WindowRef} {keyClass : Option KeyClass}
    (isKey : event.payload = .key name mods window keyClass) {key : String}
    (shows : ShowsKey event key) : name ≠ "" ∧ key = name := by
  have column : (EventRow.fromEnvelope event).key = if name = "" then none else some name := by
    simp [EventRow.fromEnvelope, isKey]
  rw [ShowsKey, column, isKey, key_json_member] at shows
  split_ifs at shows with omitted
  · simp at shows
  · simp only [Option.some.injEq, Json.string.injEq, or_self] at shows
    exact ⟨omitted, shows.symm⟩

theorem shown_label_own {event : EventEnvelope} {app : Option String} {count : UInt32}
    (isLabel : event.payload = .notificationsReceived app count) {label : String}
    (shows : ShowsLabel event label) : app = some label := by
  have column : (EventRow.fromEnvelope event).title = app := by
    simp [EventRow.fromEnvelope, isLabel]
  rw [ShowsLabel, column, isLabel, notification_json_member] at shows
  cases shows with
  | inl same => exact same
  | inr member =>
      cases app with
      | none => cases member
      | some app =>
          cases member
          rfl

/-- A row of the window streams shows no path exactly when no window of the event has an
executable that ends in a separator. -/
theorem window_paths_kept_iff (event : EventEnvelope)
    (ordinary : isProcessStream event.payload = false) :
    WindowPathsKept event ↔
      ∀ window ∈ payloadWindows event.payload, endsInSeparator window.exe = false := by
  constructor
  · intro kept window member
    have ⟨place, found⟩ := mem_payload_windows.mp member
    apply (exe_basename_file_name_iff window.exe).mp
    apply kept.columns place
    rw [row_exe_at event ordinary, found]
    rfl
  · intro plain
    constructor
    · intro place exe column
      rw [row_exe_at event ordinary] at column
      cases found : windowAt event.payload place with
      | none => simp [found] at column
      | some shown =>
          cases shown with
          | none => simp [found] at column
          | some window =>
              have same : exeBasename window.exe = exe := by simpa [found] using column
              rw [← same, exe_basename_file_name_iff]
              exact plain window (mem_payload_windows.mpr ⟨place, found⟩)
    · intro exe member
      cases moved : isMouseMove event.payload with
      | true =>
          rw [mouse_move_exes event.payload moved] at member
          cases member
      | false =>
          rw [payload_json_exes event.payload moved] at member
          have ⟨window, listed, same⟩ := List.mem_map.mp member
          rw [← same, exe_basename_file_name_iff]
          exact plain window listed
    · intro still place
      rw [shown_exe event.payload still, row_exe_at event ordinary]
    · intro moved place
      exact mouse_move_member event.payload moved place
    · intro place window found hidden title shows
      have own := shown_title_own found shows
      exact (Option.some.inj own).symm.trans hidden
    · intro place found title shows
      have own := shown_title_own found shows
      cases own
    · intro name mods window keyClass isKey
      constructor
      · intro hidden key shows
        exact (shown_key_own isKey shows).2.trans hidden
      · intro omitted key shows
        exact (shown_key_own isKey shows).1 omitted
    · intro app count isLabel
      constructor
      · intro hidden label shows
        have own := shown_label_own isLabel shows
        exact Option.some.inj (own.symm.trans hidden)
      · intro omitted label shows
        have own := shown_label_own isLabel shows
        rw [omitted] at own
        cases own

private def focusOn (exe : String) : EventEnvelope :=
  ⟨schemaVersion, 1, 1, ⟨1000, by decide, by decide⟩, .foreground, false,
    .focusChanged ⟨4096, exe, redacted, 77⟩ none 0 0 false⟩

theorem window_paths_kept_editor :
    isProcessStream (focusOn "C:\\Users\\alice\\editor.exe").payload = false ∧
      WindowPathsKept (focusOn "C:\\Users\\alice\\editor.exe") :=
  ⟨rfl, (window_paths_kept_iff _ rfl).mpr (by decide +kernel)⟩

/-- A file whose name ends in a backslash keeps its directories, in the column and in the
payload. -/
theorem trailing_separator_keeps_path :
    isProcessStream (focusOn "/home/alice/bin/tool\\").payload = false ∧
      (EventRow.fromEnvelope (focusOn "/home/alice/bin/tool\\")).exe =
        some "/home/alice/bin/tool\\" ∧
      windowExes (payloadJson (focusOn "/home/alice/bin/tool\\").payload) =
        ["/home/alice/bin/tool\\"] ∧
      ¬WindowPathsKept (focusOn "/home/alice/bin/tool\\") := by
  have column : (EventRow.fromEnvelope (focusOn "/home/alice/bin/tool\\")).exe =
      some "/home/alice/bin/tool\\" := by decide +kernel
  constructor
  · rfl
  constructor
  · exact column
  constructor
  · decide +kernel
  · intro kept
    have fileName := kept.columns .window _ column
    exact absurd (fileName '\\' (by decide)).1 (by decide)

end Rows

end Gilbreth.Store
