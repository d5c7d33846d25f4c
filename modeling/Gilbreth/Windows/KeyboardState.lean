import Gilbreth.Core.Event

/-!
# Key rows

A key that is held repeats; only its first press makes a row. A redacted row keeps neither the
key, nor the modifiers, nor the title.
-/

set_option autoImplicit false

namespace Gilbreth.Windows

open Core (Captured Instant Modifiers WindowRef)

structure RawKeyboardEvent where
  vkey : UInt16
  flags : UInt16
deriving DecidableEq

inductive ModifierKey where
  | shift | ctrl | alt | win
deriving DecidableEq

def ModifierKey.fromVkey (vkey : UInt16) : Option ModifierKey :=
  if vkey ∈ [0x10, 0xa0, 0xa1] then some .shift
  else if vkey ∈ [0x11, 0xa2, 0xa3] then some .ctrl
  else if vkey ∈ [0x12, 0xa4, 0xa5] then some .alt
  else if vkey ∈ [0x5b, 0x5c] then some .win
  else none

namespace RawKeyboardEvent

/-- `RI_KEY_BREAK`. -/
def isKeyDown (raw : RawKeyboardEvent) : Bool := raw.flags &&& 1 == 0

/-- `Tab`, `Enter`, `Alt`, `Esc`, `Space`, `F6` and the navigation keys. -/
def focusKeys : List UInt16 :=
  [0x09, 0x0d, 0x12, 0x1b, 0x20, 0x21, 0x22, 0x23, 0x24, 0x25, 0x26, 0x27, 0x28, 0x75, 0xa4, 0xa5]

def mayChangeFocus (raw : RawKeyboardEvent) (altWasDown : Bool) : Bool :=
  raw.isKeyDown && (altWasDown || focusKeys.contains raw.vkey)

end RawKeyboardEvent

/-- `VK_0x` and two or more hexadecimal digits. -/
def unnamedKey (vkey : UInt16) : String :=
  let digits := Nat.toDigits 16 vkey.toNat
  "VK_0x" ++ String.ofList (if digits.length < 2 then '0' :: digits else digits)

def namedKeys : List (UInt16 × String) :=
  [(0x08, "Backspace"), (0x09, "Tab"), (0x0d, "Enter"), (0x10, "Shift"), (0xa0, "Shift"),
    (0xa1, "Shift"), (0x11, "Ctrl"), (0xa2, "Ctrl"), (0xa3, "Ctrl"), (0x12, "Alt"), (0xa4, "Alt"),
    (0xa5, "Alt"), (0x13, "Pause"), (0x14, "CapsLock"), (0x1b, "Escape"), (0x20, "Space"),
    (0x21, "PageUp"), (0x22, "PageDown"), (0x23, "End"), (0x24, "Home"), (0x25, "ArrowLeft"),
    (0x26, "ArrowUp"), (0x27, "ArrowRight"), (0x28, "ArrowDown"), (0x2d, "Insert"),
    (0x2e, "Delete"), (0x5b, "Win"), (0x5c, "Win"), (0x5d, "Apps"), (0x6a, "NumpadMultiply"),
    (0x6b, "NumpadAdd"), (0x6c, "NumpadSeparator"), (0x6d, "NumpadSubtract"),
    (0x6e, "NumpadDecimal"), (0x6f, "NumpadDivide"), (0x90, "NumLock"), (0x91, "ScrollLock"),
    (0xba, ";"), (0xbb, "="), (0xbc, ","), (0xbd, "-"), (0xbe, "."), (0xbf, "/"), (0xc0, "`"),
    (0xdb, "["), (0xdc, "\\"), (0xdd, "]"), (0xde, "'")]

def keyToString (vkey : UInt16) : String :=
  if (0x30 ≤ vkey ∧ vkey ≤ 0x39) ∨ (0x41 ≤ vkey ∧ vkey ≤ 0x5a) then
    String.singleton (Char.ofNat vkey.toNat)
  else if 0x60 ≤ vkey ∧ vkey ≤ 0x69 then "Numpad" ++ toString (vkey.toNat - 0x60)
  else if 0x70 ≤ vkey ∧ vkey ≤ 0x87 then "F" ++ toString (vkey.toNat - 0x6f)
  else (namedKeys.lookup vkey).getD (unnamedKey vkey)

structure KeyboardState where
  mods : Modifiers
  /-- `HashSet<u16>`. -/
  pressedKeys : UInt16 → Bool

namespace KeyboardState

def default : KeyboardState := ⟨.default, fun _ => false⟩

def setModifier (state : KeyboardState) (modifier : ModifierKey) (pressed : Bool) :
    KeyboardState :=
  { state with
    mods :=
      match modifier with
      | .shift => { state.mods with shift := pressed }
      | .ctrl => { state.mods with ctrl := pressed }
      | .alt => { state.mods with alt := pressed }
      | .win => { state.mods with win := pressed } }

/-- What stands in the place of what is not kept. -/
def redacted : String := "<redacted>"

def noteModifier (state : KeyboardState) (raw : RawKeyboardEvent) : KeyboardState :=
  match ModifierKey.fromVkey raw.vkey with
  | some modifier => state.setModifier modifier raw.isKeyDown
  | none => state

def onRawKeyWithCaptureRedaction (state : KeyboardState) (raw : RawKeyboardEvent)
    (window : Option WindowRef) (capturedAt : Instant) (redactKey : Bool) :
    KeyboardState × Option Captured :=
  let modified := state.noteModifier raw
  let withKey := fun pressed : Bool =>
    ({ modified with
      pressedKeys := fun vkey => if vkey = raw.vkey then pressed else modified.pressedKeys vkey } :
      KeyboardState)
  if !raw.isKeyDown then (withKey false, none)
  else if modified.pressedKeys raw.vkey then (modified, none)
  else
    (withKey true, some ⟨.keyboard, capturedAt,
      .key (if redactKey then redacted else keyToString raw.vkey)
        (if redactKey then .default else modified.mods)
        (if redactKey then window.map fun window => { window with title := redacted } else window)
        none⟩)

theorem on_raw_key_row {state : KeyboardState} {raw : RawKeyboardEvent}
    {window : Option WindowRef} {capturedAt : Instant} {redactKey : Bool} {row : Captured}
    (member : row ∈ (state.onRawKeyWithCaptureRedaction raw window capturedAt redactKey).2) :
    raw.isKeyDown = true ∧ ∃ mods shown, row = ⟨.keyboard, capturedAt,
      .key (if redactKey then redacted else keyToString raw.vkey) mods shown none⟩ := by
  unfold onRawKeyWithCaptureRedaction at member
  dsimp only at member
  cases down : raw.isKeyDown with
  | false =>
      rw [down] at member
      cases member
  | true =>
      rw [down, if_neg (by decide)] at member
      by_cases again : (state.noteModifier raw).pressedKeys raw.vkey = true
      · rw [if_pos again] at member
        cases member
      · rw [if_neg again] at member
        exact ⟨rfl, _, _, (Option.some.inj member).symm⟩

def resetAfterBoundary (_ : KeyboardState) : KeyboardState := .default

def resyncPressedKeysWith (state : KeyboardState) (isKeyDown : UInt16 → Bool) : KeyboardState :=
  { pressedKeys := fun vkey => state.pressedKeys vkey && isKeyDown vkey
    mods :=
      { shift := [0x10, 0xa0, 0xa1].any isKeyDown
        ctrl := [0x11, 0xa2, 0xa3].any isKeyDown
        alt := [0x12, 0xa4, 0xa5].any isKeyDown
        win := [0x5b, 0x5c].any isKeyDown } }

end KeyboardState

end Gilbreth.Windows
