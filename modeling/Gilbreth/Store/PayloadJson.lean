import Gilbreth.Store.Rows
import Gilbreth.Store.ValueFree

/-!
# The payload as JSON

`payload_json` serializes a payload, shortens the executable of every window in
the tree and writes the text. The tree is what the text is read back to. A map
iterates by key, so the members of an object stand in the order of their keys,
which is not the order of the fields in the source.
-/

set_option autoImplicit false

namespace Gilbreth.Store

open Gilbreth.Core

section Serialize

def naturalValue (value : Nat) : Json := .number (toString value)

def integerValue (value : Int) : Json := .number (toString value)

/-- An optional field that is always written. -/
def optionalValue {Field : Type} (write : Field → Json) : Option Field → Json
  | some value => write value
  | none => .null

/-- A field with `skip_serializing_if = "Option::is_none"`. -/
def optionalMember {Field : Type} (key : String) (write : Field → Json) :
    Option Field → List (String × Json)
  | some value => [(key, write value)]
  | none => []

/-- A flag with `skip_serializing_if = "std::ops::Not::not"`. -/
def flagMember (key : String) (flag : Bool) : List (String × Json) :=
  if flag then [(key, .bool true)] else []

def windowLifecycleOriginName : WindowLifecycleOrigin → String
  | .observed => "observed"
  | .seeded => "seeded"
  | .synthesized => "synthesized"

def processExeSourceName : ProcessExeSource → String
  | .fullPath => "full_path"
  | .snapshotName => "snapshot_name"

def keyClassName : KeyClass → String
  | .printable => "printable"
  | .navigation => "navigation"
  | .modifier => "modifier"
  | .function => "function"
  | .other => "other"

def mouseWheelAxisName : MouseWheelAxis → String
  | .vertical => "vertical"
  | .horizontal => "horizontal"

def inputOriginName : InputOrigin → String
  | .«local» => "local"
  | .remoteRelaySuspected => "remote_relay_suspected"

/-- The serialized name, which is not the one of the title column. -/
def sensitiveContextReasonToken : SensitiveContextReason → String
  | .sessionLocked => "session_locked"
  | .sessionDisconnected => "session_disconnected"
  | .secureDesktop => "secure_desktop"
  | .passwordField => "password_field"
  | .secureInput => "secure_input"

def windowValue (window : WindowRef) : Json :=
  .object [("exe", .string window.exe), ("hwnd", naturalValue window.hwnd.toNat),
    ("pid", naturalValue window.pid.toNat), ("title", .string window.title)]

def modifiersValue (mods : Modifiers) : Json :=
  .object [("alt", .bool mods.alt), ("ctrl", .bool mods.ctrl), ("shift", .bool mods.shift),
    ("win", .bool mods.win)]

def churnEntryValue (entry : ProcessChurnEntry) : Json :=
  .object ([("dropped", naturalValue entry.dropped.toNat), ("exe", .string entry.exe)] ++
    flagMember "sustained" entry.sustained)

def coordinate (value : Option Int32) : Json :=
  optionalValue (fun value => integerValue value.toInt) value

def originMember (inputOrigin : Option InputOrigin) : List (String × Json) :=
  optionalMember "input_origin" (fun origin => .string (inputOriginName origin)) inputOrigin

/-- The tag of the serialized enumeration. It is the kind column, but for the power status. -/
def kindToken : EventPayload → String
  | .powerStatusChanged .. => "power_status_changed"
  | payload => payload.kind

/-- The members `serde_json::to_value(&event.payload)` writes. -/
def payloadMembers (payload : EventPayload) : List (String × Json) :=
  let kind := ("kind", Json.string (kindToken payload))
  match payload with
  | .focusChanged window prev focusedFor unfocusedFor recovered =>
      [kind, ("prev", optionalValue windowValue prev),
        ("previous_focused_for_ms", naturalValue focusedFor.toNat)] ++
        flagMember "recovered" recovered ++
        [("window", windowValue window),
          ("window_unfocused_for_ms", naturalValue unfocusedFor.toNat)]
  | .windowOpened window origin =>
      [kind, ("origin", .string (windowLifecycleOriginName origin)),
        ("window", windowValue window)]
  | .windowClosed window openFor origin =>
      [kind, ("open_for_ms", naturalValue openFor.toNat),
        ("origin", .string (windowLifecycleOriginName origin)), ("window", windowValue window)]
  | .key name mods window keyClass =>
      -- `skip_serializing_if = "String::is_empty"`: an omitted key has no member.
      (if name = "" then [] else [("key", .string name)]) ++
        optionalMember "key_class" (fun keyClass => .string (keyClassName keyClass)) keyClass ++
        [kind, ("mods", modifiersValue mods), ("window", optionalValue windowValue window)]
  | .mouseClick button x y window inputOrigin =>
      ("button", .string (mouseButtonName button)) :: originMember inputOrigin ++
        [kind, ("window", optionalValue windowValue window), ("x", coordinate x),
          ("y", coordinate y)]
  | .mouseDoubleClick button interval x y window inputOrigin =>
      ("button", .string (mouseButtonName button)) :: originMember inputOrigin ++
        [("interval_ms", naturalValue interval.toNat), kind,
          ("window", optionalValue windowValue window), ("x", coordinate x), ("y", coordinate y)]
  | .mouseDrag button dx dy distance count duration startX startY endX endY window candidate
      inputOrigin =>
      [("button", .string (mouseButtonName button)), ("distance_px", naturalValue distance.toNat),
        ("duration_ms", naturalValue duration.toNat), ("dx_total", integerValue dx.toInt),
        ("dy_total", integerValue dy.toInt), ("end_x", coordinate endX),
        ("end_y", coordinate endY)] ++ originMember inputOrigin ++
        [kind, ("raw_event_count", naturalValue count.toNat),
          ("selection_candidate", .bool candidate), ("start_x", coordinate startX),
          ("start_y", coordinate startY), ("window", optionalValue windowValue window)]
  | .mouseWheel axis delta x y window inputOrigin =>
      [("axis", .string (mouseWheelAxisName axis)), ("delta", integerValue delta.toInt)] ++
        originMember inputOrigin ++
        [kind, ("window", optionalValue windowValue window), ("x", coordinate x),
          ("y", coordinate y)]
  | .mouseMove dx dy distance count duration x y window inputOrigin =>
      [("distance_px", naturalValue distance.toNat), ("duration_ms", naturalValue duration.toNat),
        ("dx_total", integerValue dx.toInt), ("dy_total", integerValue dy.toInt)] ++
        originMember inputOrigin ++
        [kind, ("raw_event_count", naturalValue count.toNat),
          ("window", optionalValue windowValue window), ("x", coordinate x), ("y", coordinate y)]
  | .systemInfo host osVersion arch processorCount memoryTotalBytes =>
      [("arch", .string arch), ("host", .string host), kind,
        ("memory_total_bytes", naturalValue memoryTotalBytes.toNat),
        ("os_version", .string osVersion), ("processor_count", naturalValue processorCount.toNat)]
  | .virtualScreen x0 y0 x1 y1 width height =>
      [("height", integerValue height.toInt), kind, ("width", integerValue width.toInt),
        ("x0", integerValue x0.toInt), ("x1", integerValue x1.toInt),
        ("y0", integerValue y0.toInt), ("y1", integerValue y1.toInt)]
  | .processStarted pid exe exeSource | .processExited pid exe exeSource =>
      [("exe", .string exe), ("exe_source", .string (processExeSourceName exeSource)), kind,
        ("pid", naturalValue pid.toNat)]
  | .processChurnSummary windowMs dropped distinctExes top =>
      [("distinct_exes", naturalValue distinctExes.toNat), ("dropped", naturalValue dropped.toNat),
        kind] ++ (if top.isEmpty then [] else [("top", .array (top.map churnEntryValue))]) ++
        [("window_ms", naturalValue windowMs.toNat)]
  | .powerSuspend tickMs =>
      [kind, ("tick_ms", optionalValue (fun tick => naturalValue tick.toNat) tickMs)]
  | .powerResume tickMs matchedSuspend =>
      [kind, ("matched_suspend", .bool matchedSuspend),
        ("tick_ms", optionalValue (fun tick => naturalValue tick.toNat) tickMs)]
  | .powerBoundaryRecovered gapMs cappedDwellMs =>
      [("capped_dwell_ms", naturalValue cappedDwellMs.toNat),
        ("gap_ms", naturalValue gapMs.toNat), kind]
  | .capturePaused | .captureResumed => [kind]
  | .powerStatusChanged acOnline batteryPercent batterySaver =>
      [("ac_online", optionalValue Json.bool acOnline),
        ("battery_percent", optionalValue (fun percent => naturalValue percent.toNat)
          batteryPercent),
        ("battery_saver", optionalValue Json.bool batterySaver), kind]
  | .sessionLock sessionId | .sessionUnlock sessionId =>
      [kind, ("session_id", naturalValue sessionId.toNat)]
  | .sessionConnect sessionId connection | .sessionDisconnect sessionId connection =>
      [("connection", .string (connectionName connection)), kind,
        ("session_id", naturalValue sessionId.toNat)]
  | .clipboardUsed sequenceNumber formatKind formatCount textCharCount byteSize =>
      [("byte_size", optionalValue (fun size => naturalValue size.toNat) byteSize),
        ("format_count", naturalValue formatCount.toNat),
        ("format_kind", .string (clipboardFormatName formatKind)), kind,
        ("sequence_number", naturalValue sequenceNumber.toNat),
        ("text_char_count", optionalValue (fun count => naturalValue count.toNat) textCharCount)]
  | .notificationsReceived app count =>
      [("app", optionalValue Json.string app), ("count", naturalValue count.toNat), kind]
  | .sensitiveContextEntered reason | .sensitiveContextExited reason =>
      [kind, ("reason", .string (sensitiveContextReasonToken reason))]
  | .idle idleMs | .active idleMs => [("idle_ms", naturalValue idleMs.toNat), kind]

end Serialize

section Basename

/-- One entry of an object: its own `exe` when the object is a window, else what
the recursion made of the value. -/
def shortenExe (isWindow : Bool) (key : String) (value rewritten : Json) : Json :=
  match value with
  | .string exe => if isWindow && key == "exe" then .string (exeBasename exe) else rewritten
  | _ => rewritten

mutual

/-- `basename_window_exe_in_payload`: an object with an `hwnd` key is a window. -/
def basenameWindowExeInPayload : Json → Json
  | .object members =>
      .object (basenameMembers (members.any fun member => member.1 == "hwnd") members)
  | .array items => .array (basenameItems items)
  | value => value

def basenameMembers (isWindow : Bool) : List (String × Json) → List (String × Json)
  | [] => []
  | (key, value) :: rest =>
      (key, shortenExe isWindow key value (basenameWindowExeInPayload value)) ::
        basenameMembers isWindow rest

def basenameItems : List Json → List Json
  | [] => []
  | item :: rest => basenameWindowExeInPayload item :: basenameItems rest

end

/-- `payload_json`, as the value whose text is stored. -/
def payloadJson (payload : EventPayload) : Json :=
  match payload with
  | .mouseMove dx dy distance count duration x y _ inputOrigin =>
      -- A movement is written by hand, without its window.
      .object ([("distance_px", naturalValue distance.toNat),
        ("duration_ms", naturalValue duration.toNat), ("dx_total", integerValue dx.toInt),
        ("dy_total", integerValue dy.toInt)] ++ originMember inputOrigin ++
        [("kind", .string payload.kind), ("raw_event_count", naturalValue count.toNat),
          ("x", coordinate x), ("y", coordinate y)])
  | payload => basenameWindowExeInPayload (.object (payloadMembers payload))

end Basename

/-! ## What the rewrite does to any tree -/

section Tree

/-- The executable an object's entry names, when the object is a window. -/
def ownExe (isWindow : Bool) (key : String) : Json → List String
  | .string exe => if isWindow && key == "exe" then [exe] else []
  | _ => []

mutual

/-- The executables of all windows of a tree, at any depth. -/
def windowExes : Json → List String
  | .object members => memberExes (members.any fun member => member.1 == "hwnd") members
  | .array items => itemExes items
  | _ => []

def memberExes (isWindow : Bool) : List (String × Json) → List String
  | [] => []
  | (key, value) :: rest =>
      ownExe isWindow key value ++ windowExes value ++ memberExes isWindow rest

def itemExes : List Json → List String
  | [] => []
  | item :: rest => windowExes item ++ itemExes rest

end

theorem basename_members_keys (isWindow : Bool) (members : List (String × Json)) :
    (basenameMembers isWindow members).map Prod.fst = members.map Prod.fst := by
  induction members with
  | nil => rfl
  | cons member rest induction => simp [basenameMembers, induction]

theorem basename_members_window (isWindow : Bool) (members : List (String × Json)) :
    ((basenameMembers isWindow members).any fun member => member.1 == "hwnd") =
      members.any fun member => member.1 == "hwnd" := by
  have keys := congrArg (List.any · (· == "hwnd")) (basename_members_keys isWindow members)
  simpa [List.any_map, Function.comp_def] using keys

theorem own_exe_shorten (isWindow : Bool) (key : String) (value : Json) :
    ownExe isWindow key
        (shortenExe isWindow key value (basenameWindowExeInPayload value)) =
      (ownExe isWindow key value).map exeBasename := by
  cases value with
  | string exe =>
      cases own : isWindow && key == "exe" with
      | true => simp [shortenExe, ownExe, own]
      | false => simp [shortenExe, basenameWindowExeInPayload, ownExe, own]
  | _ => simp [shortenExe, basenameWindowExeInPayload, ownExe]

theorem window_exes_shorten (isWindow : Bool) (key : String) (value : Json) :
    windowExes (shortenExe isWindow key value (basenameWindowExeInPayload value)) =
      windowExes (basenameWindowExeInPayload value) := by
  cases value with
  | string exe =>
      simp only [shortenExe, basenameWindowExeInPayload]
      split <;> simp [windowExes]
  | _ => rfl

mutual

/-- Every window of the tree is found, and nothing but its executable's directories goes. -/
theorem window_exes_basename : (value : Json) →
    windowExes (basenameWindowExeInPayload value) = (windowExes value).map exeBasename
  | .object members => by
      simp only [basenameWindowExeInPayload, windowExes, basename_members_window]
      exact member_exes_basename _ members
  | .array items => by
      simp only [basenameWindowExeInPayload, windowExes]
      exact item_exes_basename items
  | .null | .bool _ | .number _ | .string _ => by simp [basenameWindowExeInPayload, windowExes]

theorem member_exes_basename (isWindow : Bool) : (members : List (String × Json)) →
    memberExes isWindow (basenameMembers isWindow members) =
      (memberExes isWindow members).map exeBasename
  | [] => by simp [basenameMembers, memberExes]
  | (key, value) :: rest => by
      simp only [basenameMembers, memberExes, List.map_append]
      rw [own_exe_shorten, window_exes_shorten, window_exes_basename value,
        member_exes_basename isWindow rest]

theorem item_exes_basename : (items : List Json) →
    itemExes (basenameItems items) = (itemExes items).map exeBasename
  | [] => by simp [basenameItems, itemExes]
  | item :: rest => by
      simp only [basenameItems, itemExes, List.map_append]
      rw [window_exes_basename item, item_exes_basename rest]

end

end Tree

end Gilbreth.Store
