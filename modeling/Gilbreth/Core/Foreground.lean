import Mathlib.Data.List.AList
import Mathlib.Data.List.Induction
import Gilbreth.Core.Event
import Gilbreth.Library.Machine

/-!
# The foreground segment

Which window holds the focus, since when, and when each window was last left.
-/

set_option autoImplicit false

namespace Gilbreth.Core

def focusChanged (window : WindowRef) (prev : Option WindowRef)
    (previousFocusedForMs windowUnfocusedForMs : UInt64) (capturedAt : Instant) : Captured :=
  ⟨.foreground, capturedAt,
    .focusChanged window prev previousFocusedForMs windowUnfocusedForMs false⟩

structure FocusedWindow where
  window : WindowRef
  focusedAt : Instant
deriving DecidableEq

structure ForegroundState where
  current : Option FocusedWindow
  lastUnfocusedAt : AList fun _ : UInt64 => Instant

namespace ForegroundState

def default : ForegroundState := ⟨none, ∅⟩

def seedWindowAt (state : ForegroundState) (window : WindowRef) (now : Instant) :
    ForegroundState × Option Captured :=
  ({ state with current := some ⟨window, now⟩ }, some (focusChanged window none 0 0 now))

def onWindowAt (state : ForegroundState) (window : WindowRef) (now : Instant) :
    ForegroundState × Option Captured :=
  if state.current.any fun current => current.window.hwnd == window.hwnd then (state, none)
  else
    let windowUnfocusedForMs :=
      ((state.lastUnfocusedAt.lookup window.hwnd).map fun last =>
        durationMs (saturatingDurationSince now last)).getD 0
    match state.current with
    | some previous =>
        let duration := durationMs (saturatingDurationSince now previous.focusedAt)
        (⟨some ⟨window, now⟩, state.lastUnfocusedAt.insert previous.window.hwnd now⟩,
          some (focusChanged window (some previous.window) duration windowUnfocusedForMs now))
    | none =>
        (⟨some ⟨window, now⟩, state.lastUnfocusedAt⟩,
          some (focusChanged window none 0 windowUnfocusedForMs now))

/-- The dwell attributed to the open segment at its end. -/
def attributedDwell (current : FocusedWindow) (now : Instant) (maxDuration : Option Nat) : Nat :=
  let elapsed := saturatingDurationSince now current.focusedAt
  maxDuration.elim elapsed (min elapsed)

def endCurrentAtWithDurationLimit (state : ForegroundState) (now : Instant)
    (maxDuration : Option Nat) : ForegroundState × Option Captured :=
  match state.current with
  | none => (state, none)
  | some current =>
      let focusedForMs := durationMs (attributedDwell current now maxDuration)
      (⟨none, state.lastUnfocusedAt.insert current.window.hwnd now⟩,
        some (focusChanged current.window (some current.window) focusedForMs 0 now))

def endCurrentAt (state : ForegroundState) (now : Instant) : ForegroundState × Option Captured :=
  state.endCurrentAtWithDurationLimit now none

def endCurrentAtWithMaxDuration (state : ForegroundState) (now : Instant) (maxDuration : Nat) :
    ForegroundState × Option Captured :=
  state.endCurrentAtWithDurationLimit now (some maxDuration)

def onWindowDestroyed (state : ForegroundState) (hwnd : UInt64) : ForegroundState :=
  { state with lastUnfocusedAt := state.lastUnfocusedAt.erase hwnd }

def clearUnfocusedCorrelations (state : ForegroundState) : ForegroundState :=
  { state with lastUnfocusedAt := ∅ }

end ForegroundState

/-- One operation on the foreground state. -/
inductive ForegroundCall where
  | seed (window : WindowRef) (now : Instant)
  | onWindow (window : WindowRef) (now : Instant)
  | endCurrent (now : Instant) (maxDuration : Option Nat)
  | destroyed (hwnd : UInt64)
  | clear
deriving DecidableEq

/-- The instant of an operation, where it has one. -/
def ForegroundCall.now? : ForegroundCall → Option Instant
  | .seed _ now => some now
  | .onWindow _ now => some now
  | .endCurrent now _ => some now
  | .destroyed _ => none
  | .clear => none

/-- An operation with the row it answered. -/
structure ForegroundStep where
  call : ForegroundCall
  row : Option Captured
deriving DecidableEq

namespace ForegroundState

def apply (state : ForegroundState) : ForegroundCall → ForegroundState × Option Captured
  | .seed window now => state.seedWindowAt window now
  | .onWindow window now => state.onWindowAt window now
  | .endCurrent now none => state.endCurrentAt now
  | .endCurrent now (some maxDuration) => state.endCurrentAtWithMaxDuration now maxDuration
  | .destroyed hwnd => (state.onWindowDestroyed hwnd, none)
  | .clear => (state.clearUnfocusedCorrelations, none)

def machine : Machine ForegroundState ForegroundCall ForegroundStep :=
  ⟨fun state call => ((state.apply call).1, ⟨call, (state.apply call).2⟩)⟩

def history (calls : List ForegroundCall) : List ForegroundStep :=
  (machine.outputs default calls).reverse

theorem history_concat (calls : List ForegroundCall) (call : ForegroundCall) :
    history (calls ++ [call]) =
      ⟨call, ((machine.run default calls).apply call).2⟩ :: history calls := by
  rw [history, Machine.outputs_append, List.reverse_append]
  rfl

end ForegroundState

def openSegment : List ForegroundStep → Option FocusedWindow
  | [] => none
  | ⟨.seed window now, _⟩ :: _ => some ⟨window, now⟩
  | ⟨.onWindow window now, some _⟩ :: _ => some ⟨window, now⟩
  | ⟨.endCurrent .., _⟩ :: _ => none
  | _ :: earlier => openSegment earlier

/-- When a window was last left in a row, unless it was evicted since. -/
def lastLeft (hwnd : UInt64) : List ForegroundStep → Option Instant
  | [] => none
  | ⟨.clear, _⟩ :: _ => none
  | ⟨.destroyed gone, _⟩ :: earlier => if gone = hwnd then none else lastLeft hwnd earlier
  | ⟨_, some ⟨_, capturedAt, .focusChanged _ (some prev) ..⟩⟩ :: earlier =>
      if prev.hwnd = hwnd then some capturedAt else lastLeft hwnd earlier
  | _ :: earlier => lastLeft hwnd earlier

namespace ForegroundState

/-- The state holds the open segment and the last leaving of every window. -/
structure Remembers (state : ForegroundState) (history : List ForegroundStep) : Prop where
  current : state.current = openSegment history
  left : ∀ hwnd, state.lastUnfocusedAt.lookup hwnd = lastLeft hwnd history

theorem apply_end (state : ForegroundState) (now : Instant) (maxDuration : Option Nat) :
    state.apply (.endCurrent now maxDuration) =
      state.endCurrentAtWithDurationLimit now maxDuration := by
  cases maxDuration <;> rfl

theorem left_after_insert {state : ForegroundState} {history : List ForegroundStep}
    (remembers : state.Remembers history) (left : UInt64) (now : Instant) (hwnd : UInt64) :
    (state.lastUnfocusedAt.insert left now).lookup hwnd =
      if left = hwnd then some now else lastLeft hwnd history := by
  by_cases same : left = hwnd
  · subst same
    rw [if_pos rfl, AList.lookup_insert]
  · rw [if_neg same, AList.lookup_insert_ne (Ne.symm same), remembers.left]

theorem remembers_step {state : ForegroundState} {history : List ForegroundStep}
    (remembers : state.Remembers history) (call : ForegroundCall) :
    (state.apply call).1.Remembers (⟨call, (state.apply call).2⟩ :: history) := by
  cases call with
  | seed window now => exact ⟨rfl, remembers.left⟩
  | onWindow window now =>
      change (state.onWindowAt window now).1.Remembers
        (⟨_, (state.onWindowAt window now).2⟩ :: history)
      unfold onWindowAt
      split_ifs
      · exact ⟨remembers.current, remembers.left⟩
      · cases state.current with
        | none => exact ⟨rfl, remembers.left⟩
        | some previous =>
            exact ⟨rfl, left_after_insert remembers previous.window.hwnd now⟩
  | endCurrent now maxDuration =>
      rw [apply_end]
      unfold endCurrentAtWithDurationLimit
      cases current : state.current with
      | none => exact ⟨current, remembers.left⟩
      | some previous => exact ⟨rfl, left_after_insert remembers previous.window.hwnd now⟩
  | destroyed hwnd =>
      refine ⟨remembers.current, ?_⟩
      intro other
      change (state.lastUnfocusedAt.erase hwnd).lookup other =
        if hwnd = other then none else lastLeft other history
      by_cases same : hwnd = other
      · subst same
        rw [if_pos rfl, AList.lookup_erase]
      · rw [if_neg same, AList.lookup_erase_ne (Ne.symm same), remembers.left]
  | clear => exact ⟨remembers.current, fun _ => rfl⟩

theorem run_remembers (calls : List ForegroundCall) :
    (machine.run default calls).Remembers (history calls) := by
  induction calls using List.reverseRecOn with
  | nil => exact ⟨rfl, fun _ => rfl⟩
  | append_singleton calls call induction =>
      rw [history_concat, Machine.run_append]
      exact remembers_step induction call

end ForegroundState

end Gilbreth.Core
