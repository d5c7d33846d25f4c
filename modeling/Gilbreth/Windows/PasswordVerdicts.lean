import Mathlib
import Gilbreth.Macos.PasswordMonitor
import Gilbreth.Windows.CaptureControls

/-!
# Which password verdict is published last

Focus events and probes take samples of the focused field on different threads. One function
publishes them all, under one guard, and is not told under which focus generation a sample was
taken. Boundary rows are delivered and capture is not deferred.
-/

set_option autoImplicit false

namespace Gilbreth.Windows

open Gilbreth.Core (Captured Instant)
open App (CaptureStream)
open Macos (Spans)

section Watch

/-- The threads that publish samples: the focus handler, the monitor and the pump. -/
inductive Producer where
  | handler | monitor | pump
deriving DecidableEq

/-- An answer about the focused field, after so many other answers. -/
structure FieldSample where
  isPassword : Bool
  focusGeneration : Nat
  turn : Nat
deriving DecidableEq

/-- By generation, then by when it was taken. -/
def FieldSample.rank (sample : FieldSample) : ℕ ×ₗ ℕ :=
  toLex (sample.focusGeneration, sample.turn)

/-- Where a call of `emit_confirmed_password_field_sample` stands. -/
inductive EmissionPoint where
  | announced
  | guarded
  | stored
  | swapped (previous : Bool)
  | sent

/-- Between taking and dropping the resume guard. -/
def EmissionPoint.Inside : EmissionPoint → Prop
  | .announced => False
  | _ => True

def EmissionPoint.Waits : EmissionPoint → Prop
  | .announced | .guarded | .stored => True
  | _ => False

structure Emission where
  sample : FieldSample
  now : Instant
  point : EmissionPoint

/-- Where `HandleFocusChangedEvent` stands before it emits. -/
inductive HandlerPoint where
  | idle | bumped | gated

/-- Where the probe of a key press stands, on the monitor and back. -/
inductive ProbePoint where
  | idle
  | requested
  | loaded (focusGeneration : Nat)
  | answered (sample : FieldSample)
  | replied (sample : Option FieldSample)

/-- The shared flags and the threads. The last three fields are history. -/
structure PasswordWatch where
  controls : CaptureControls
  resumeGuard : Option Producer
  rows : List Captured
  handler : HandlerPoint
  monitorStarted : Bool
  probe : ProbePoint
  emission : Producer → Option Emission
  turns : Nat
  emitted : List FieldSample
  swapped : List FieldSample

inductive WatchAct where
  | focusChanged
  | raiseGate
  | focusRead (isPassword : Bool) (now : Instant)
  | monitorStart (answer : Option Bool) (now : Instant)
  | keyPress (cached : Bool)
  | probeLoad
  | probeRead (answer : Option Bool)
  | probeCheck
  | takeReply (now : Instant)
  | emit (producer : Producer)

namespace PasswordWatch

def new (streams : CaptureStream → Bool) (idleThresholdMs : UInt64) : PasswordWatch :=
  ⟨.new streams idleThresholdMs, none, [], .idle, false, .idle, fun _ => none, 0, [], []⟩

def sampled (watch : PasswordWatch) (isPassword : Bool) : FieldSample :=
  ⟨isPassword, watch.controls.passwordFocusGeneration, watch.turns⟩

/-- A producer calls `emit_confirmed_password_field_sample`. -/
def begin (watch : PasswordWatch) (producer : Producer) (sample : FieldSample) (now : Instant) :
    PasswordWatch :=
  { watch with
    controls :=
      { watch.controls with sensitiveTransitions := watch.controls.sensitiveTransitions + 1 }
    emission := Function.update watch.emission producer (some ⟨sample, now, .announced⟩)
    emitted := sample :: watch.emitted }

def standAt (watch : PasswordWatch) (producer : Producer) (emission : Emission)
    (point : EmissionPoint) : PasswordWatch :=
  { watch with
    emission := Function.update watch.emission producer (some { emission with point := point }) }

/-- The next step of a call, which waits while another holds the guard. -/
def advance (watch : PasswordWatch) (producer : Producer) (emission : Emission) : PasswordWatch :=
  let isPassword := emission.sample.isPassword
  match emission.point with
  | .announced =>
      match watch.resumeGuard with
      | some _ => watch
      | none => { watch.standAt producer emission .guarded with resumeGuard := some producer }
  | .guarded =>
      { watch.standAt producer emission .stored with
        controls := watch.controls.setPasswordFieldGate isPassword }
  | .stored =>
      { watch.standAt producer emission (.swapped watch.controls.passwordFieldConfirmedActive) with
        controls := { watch.controls with passwordFieldConfirmedActive := isPassword }
        swapped := emission.sample :: watch.swapped }
  | .swapped previous =>
      let left := watch.standAt producer emission .sent
      if previous = isPassword then left
      else if watch.controls.sensitiveTransitionShouldDefer then
        { left with controls := { watch.controls with sensitiveReconcilePending := true } }
      else
        { left with
          rows := watch.rows ++ [CaptureControls.passwordFieldRow isPassword emission.now] }
  | .sent =>
      { watch with
        controls :=
          { watch.controls with sensitiveTransitions := watch.controls.sensitiveTransitions - 1 }
        resumeGuard := none
        emission := Function.update watch.emission producer none }

def step (watch : PasswordWatch) : WatchAct → PasswordWatch
  | .focusChanged =>
      match watch.handler, watch.emission .handler with
      | .idle, none =>
          { watch with
            handler := .bumped
            controls :=
              { watch.controls with
                passwordFocusGeneration := watch.controls.passwordFocusGeneration + 1 } }
      | _, _ => watch
  | .raiseGate =>
      match watch.handler with
      | .bumped =>
          { watch with handler := .gated, controls := watch.controls.setPasswordFieldGate true }
      | _ => watch
  | .focusRead isPassword now =>
      match watch.handler, watch.emission .handler with
      | .gated, none =>
          begin { watch with handler := .idle, turns := watch.turns + 1 } .handler
            (watch.sampled isPassword) now
      | _, _ => watch
  | .monitorStart answer now =>
      match watch.monitorStarted, watch.emission .monitor, answer with
      | false, none, some isPassword =>
          begin { watch with monitorStarted := true, turns := watch.turns + 1 } .monitor
            (watch.sampled isPassword) now
      | false, none, none => { watch with monitorStarted := true }
      | _, _, _ => watch
  | .keyPress cached =>
      match watch.probe, watch.emission .pump with
      | .idle, none =>
          if watch.controls.passwordFieldConfirmedActive then watch
          else if !watch.controls.passwordFieldActive && cached then watch
          else { watch with probe := .requested }
      | _, _ => watch
  | .probeLoad =>
      match watch.probe, watch.monitorStarted, watch.emission .monitor with
      | .requested, true, none =>
          { watch with probe := .loaded watch.controls.passwordFocusGeneration }
      | _, _, _ => watch
  | .probeRead answer =>
      match watch.probe, answer with
      | .loaded generation, some isPassword =>
          { watch with
            probe := .answered ⟨isPassword, generation, watch.turns⟩
            turns := watch.turns + 1 }
      | .loaded _, none => { watch with probe := .replied none }
      | _, _ => watch
  | .probeCheck =>
      match watch.probe with
      | .answered sample =>
          if watch.controls.passwordFocusGeneration ≠ sample.focusGeneration then
            { watch with probe := .replied none }
          else { watch with probe := .replied (some sample) }
      | _ => watch
  | .takeReply now =>
      match watch.probe, watch.emission .pump with
      | .replied (some sample), none => begin { watch with probe := .idle } .pump sample now
      | .replied none, none =>
          { watch with probe := .idle, controls := watch.controls.setPasswordFieldGate true }
      | _, _ => watch
  | .emit producer =>
      match watch.emission producer with
      | some emission => watch.advance producer emission
      | none => watch

def machine : Machine PasswordWatch WatchAct Unit where
  step watch act := (watch.step act, ())

def Quiet (watch : PasswordWatch) : Prop := ∀ producer, watch.emission producer = none

/-- A sample that is swapped in is newer than the newest swapped in before it, or agrees. -/
def InTurn (watch : PasswordWatch) (act : WatchAct) : Prop :=
  ∀ producer emission, act = .emit producer → watch.emission producer = some emission →
    emission.point = .stored → ∀ newest ∈ watch.swapped,
      (∀ other ∈ watch.swapped, other.rank ≤ newest.rank) →
        newest.rank < emission.sample.rank ∨ newest.isPassword = emission.sample.isPassword

end PasswordWatch

end Watch

section Soundness

namespace PasswordWatch

/-- What holds between any two steps. A producer inside the call holds the guard, so at most one
row is due. -/
structure Sound (watch : PasswordWatch) : Prop where
  delivers : watch.controls.sensitiveTransitionShouldDefer = false
  exclusive : ∀ producer emission, watch.emission producer = some emission →
    emission.point.Inside → watch.resumeGuard = some producer
  handed : ∀ producer emission, watch.emission producer = some emission →
    emission.sample ∈ watch.emitted
  due : ∀ sample ∈ watch.emitted, sample ∈ watch.swapped ∨
    ∃ producer emission, watch.emission producer = some emission ∧
      emission.sample = sample ∧ emission.point.Waits
  known : ∀ sample ∈ watch.swapped, sample ∈ watch.emitted
  unset : watch.swapped = [] → watch.controls.passwordFieldConfirmedActive = false
  newest : ∀ sample ∈ watch.swapped, (∀ other ∈ watch.swapped, other.rank ≤ sample.rank) →
    watch.controls.passwordFieldConfirmedActive = sample.isPassword
  unsent : ∀ producer emission previous, watch.emission producer = some emission →
    emission.point = .swapped previous →
      watch.controls.passwordFieldConfirmedActive = emission.sample.isPassword ∧
        Spans false watch.rows previous
  followed : (∀ producer emission previous, watch.emission producer = some emission →
      emission.point ≠ .swapped previous) →
    Spans false watch.rows watch.controls.passwordFieldConfirmedActive

theorem sound_new (streams : CaptureStream → Bool) (idleThresholdMs : UInt64) :
    Sound (new streams idleThresholdMs) where
  delivers := rfl
  exclusive _ _ found := by cases found
  handed _ _ found := by cases found
  due _ member := by cases member
  known _ member := by cases member
  unset _ := rfl
  newest _ member := by cases member
  unsent _ _ _ found := by cases found
  followed _ := Macos.spans_nil false

/-- A step beside the calls. -/
structure Aside (watch next : PasswordWatch) : Prop where
  defer : next.controls.sensitiveTransitionShouldDefer =
    watch.controls.sensitiveTransitionShouldDefer
  confirmed : next.controls.passwordFieldConfirmedActive =
    watch.controls.passwordFieldConfirmedActive
  resumeGuard : next.resumeGuard = watch.resumeGuard
  rows : next.rows = watch.rows
  emission : next.emission = watch.emission
  emitted : next.emitted = watch.emitted
  swapped : next.swapped = watch.swapped

theorem sound_aside {watch next : PasswordWatch} (sound : Sound watch) (aside : Aside watch next) :
    Sound next := by
  obtain ⟨defer, confirmed, resumeGuard, rows, emission, emitted, swapped⟩ := aside
  constructor
  · rw [defer]
    exact sound.delivers
  · rw [emission, resumeGuard]
    exact sound.exclusive
  · rw [emission, emitted]
    exact sound.handed
  · rw [emission, emitted, swapped]
    exact sound.due
  · rw [emitted, swapped]
    exact sound.known
  · rw [swapped, confirmed]
    exact sound.unset
  · rw [swapped, confirmed]
    exact sound.newest
  · rw [emission, confirmed, rows]
    exact sound.unsent
  · rw [emission, confirmed, rows]
    exact sound.followed

theorem found_in_update {calls : Producer → Option Emission} {producer other : Producer}
    {changed : Option Emission} {emission : Emission}
    (found : Function.update calls producer changed other = some emission) :
    (other = producer ∧ changed = some emission) ∨
      (other ≠ producer ∧ calls other = some emission) := by
  by_cases same : other = producer
  · rw [same, Function.update_self] at found
    exact Or.inl ⟨same, found⟩
  · rw [Function.update_of_ne same] at found
    exact Or.inr ⟨same, found⟩

theorem sound_begin {watch : PasswordWatch} (sound : Sound watch) {producer : Producer}
    (free : watch.emission producer = none) (sample : FieldSample) (now : Instant) :
    Sound (watch.begin producer sample now) := by
  constructor
  · exact sound.delivers
  · intro other emission found inside
    obtain ⟨rfl, changed⟩ | ⟨-, before⟩ := found_in_update found
    · cases changed
      exact inside.elim
    · exact sound.exclusive other emission before inside
  · intro other emission found
    obtain ⟨rfl, changed⟩ | ⟨-, before⟩ := found_in_update found
    · cases changed
      exact List.mem_cons_self
    · exact List.mem_cons_of_mem sample (sound.handed other emission before)
  · intro emitted member
    obtain rfl | earlier := List.mem_cons.mp member
    · exact Or.inr ⟨producer, _, Function.update_self .., rfl, trivial⟩
    · obtain done | ⟨other, emission, before, same, waits⟩ := sound.due emitted earlier
      · exact Or.inl done
      · refine Or.inr ⟨other, emission, ?_, same, waits⟩
        have apart : other ≠ producer := by
          rintro rfl
          rw [free] at before
          cases before
        exact (Function.update_of_ne apart _ _).trans before
  · intro swapped member
    exact List.mem_cons_of_mem sample (sound.known swapped member)
  · exact sound.unset
  · exact sound.newest
  · intro other emission previous found point
    obtain ⟨rfl, changed⟩ | ⟨-, before⟩ := found_in_update found
    · cases changed
      cases point
    · exact sound.unsent other emission previous before point
  · intro none
    apply sound.followed
    intro other emission previous before
    have apart : other ≠ producer := by
      rintro rfl
      rw [free] at before
      cases before
    exact none other emission previous ((Function.update_of_ne apart _ _).trans before)

theorem inside_swapped {emission : Emission} {previous : Bool}
    (stands : emission.point = .swapped previous) : emission.point.Inside := by
  rw [stands]
  trivial

theorem alone_inside {watch : PasswordWatch} (sound : Sound watch) {producer other : Producer}
    {emission call : Emission} (current : watch.emission producer = some emission)
    (inside : emission.point.Inside) (found : watch.emission other = some call)
    (also : call.point.Inside) : other = producer := by
  have first := sound.exclusive producer emission current inside
  have second := sound.exclusive other call found also
  rw [first] at second
  exact (Option.some.inj second).symm

/-- A call that is inside, at another point than after its swap, leaves no row due. -/
theorem settled_inside {watch : PasswordWatch} (sound : Sound watch) {producer : Producer}
    {emission : Emission} (current : watch.emission producer = some emission)
    (inside : emission.point.Inside) (apart : ∀ previous, emission.point ≠ .swapped previous) :
    Spans false watch.rows watch.controls.passwordFieldConfirmedActive := by
  apply sound.followed
  intro other call previous found stands
  obtain rfl := alone_inside sound current inside found (inside_swapped stands)
  rw [current] at found
  cases found
  exact apart previous stands

section Move

variable {watch : PasswordWatch} {producer : Producer} {emission : Emission}

theorem handed_move (sound : Sound watch) (current : watch.emission producer = some emission)
    {point : EmissionPoint} {other : Producer} {call : Emission}
    (found : Function.update watch.emission producer (some { emission with point := point }) other =
      some call) : call.sample ∈ watch.emitted := by
  obtain ⟨rfl, changed⟩ | ⟨-, before⟩ := found_in_update found
  · cases changed
    exact sound.handed other emission current
  · exact sound.handed other call before

theorem exclusive_move (sound : Sound watch) (current : watch.emission producer = some emission)
    (inside : emission.point.Inside) {point : EmissionPoint} {other : Producer} {call : Emission}
    (found : Function.update watch.emission producer (some { emission with point := point }) other =
      some call) (also : call.point.Inside) : watch.resumeGuard = some other := by
  obtain ⟨rfl, -⟩ | ⟨-, before⟩ := found_in_update found
  · exact sound.exclusive other emission current inside
  · exact sound.exclusive other call before also

/-- An emitted sample is swapped in, or waits in the call that changes, or in another. -/
theorem due_move (sound : Sound watch) (current : watch.emission producer = some emission)
    (changed : Option Emission) {sample : FieldSample} (member : sample ∈ watch.emitted) :
    sample ∈ watch.swapped ∨ (emission.sample = sample ∧ emission.point.Waits) ∨
      ∃ other call, Function.update watch.emission producer changed other = some call ∧
        call.sample = sample ∧ call.point.Waits := by
  obtain done | ⟨other, call, before, same, waiting⟩ := sound.due sample member
  · exact Or.inl done
  · by_cases own : other = producer
    · rw [own, current] at before
      cases before
      exact Or.inr (Or.inl ⟨same, waiting⟩)
    · have kept := (Function.update_of_ne own changed watch.emission).trans before
      exact Or.inr (Or.inr ⟨other, call, kept, same, waiting⟩)

end Move

/-- A call that goes on before its swap, with the guard free or its own. -/
structure Onward (watch next : PasswordWatch) (producer : Producer) (emission : Emission)
    (point : EmissionPoint) : Prop where
  waits : emission.point.Waits ∧ point.Waits
  guarded : next.resumeGuard = some producer
  free : watch.resumeGuard = none ∨ watch.resumeGuard = some producer
  emission : next.emission =
    Function.update watch.emission producer (some { emission with point := point })
  defer : next.controls.sensitiveTransitionShouldDefer =
    watch.controls.sensitiveTransitionShouldDefer
  confirmed : next.controls.passwordFieldConfirmedActive =
    watch.controls.passwordFieldConfirmedActive
  rows : next.rows = watch.rows
  emitted : next.emitted = watch.emitted
  swapped : next.swapped = watch.swapped

theorem sound_onward {watch next : PasswordWatch} (sound : Sound watch) {producer : Producer}
    {emission : Emission} (current : watch.emission producer = some emission)
    {point : EmissionPoint} (onward : Onward watch next producer emission point) : Sound next := by
  obtain ⟨⟨waited, waits⟩, guarded, free, calls, defer, confirmed, rows, emitted, swapped⟩ := onward
  constructor
  · rw [defer]
    exact sound.delivers
  · rw [calls, guarded]
    intro other call found inside
    obtain ⟨rfl, -⟩ | ⟨apart, before⟩ := found_in_update found
    · rfl
    · have held := sound.exclusive other call before inside
      obtain nobody | own := free
      · rw [nobody] at held
        cases held
      · rw [own] at held
        exact held
  · rw [calls, emitted]
    intro other call found
    exact handed_move sound current found
  · rw [calls, emitted, swapped]
    intro sample member
    obtain done | ⟨same, -⟩ | elsewhere := due_move sound current _ member
    · exact Or.inl done
    · exact Or.inr ⟨producer, _, Function.update_self .., same, waits⟩
    · exact Or.inr elsewhere
  · rw [emitted, swapped]
    exact sound.known
  · rw [swapped, confirmed]
    exact sound.unset
  · rw [swapped, confirmed]
    exact sound.newest
  · rw [calls, confirmed, rows]
    intro other call previous found stands
    obtain ⟨rfl, changed⟩ | ⟨-, before⟩ := found_in_update found
    · cases changed
      obtain rfl : point = .swapped previous := stands
      exact waits.elim
    · exact sound.unsent other call previous before stands
  · rw [calls, confirmed, rows]
    intro none
    apply sound.followed
    intro other call previous before stands
    by_cases own : other = producer
    · rw [own, current] at before
      cases before
      rw [stands] at waited
      exact waited
    · exact none other call previous ((Function.update_of_ne own _ _).trans before) stands

theorem sound_swap {watch : PasswordWatch} (sound : Sound watch) {producer : Producer}
    {emission : Emission} (current : watch.emission producer = some emission)
    (point : emission.point = .stored) (inTurn : watch.InTurn (.emit producer)) :
    Sound (watch.advance producer emission) := by
  have inside : emission.point.Inside := by
    rw [point]
    trivial
  have settled : Spans false watch.rows watch.controls.passwordFieldConfirmedActive := by
    apply settled_inside sound current inside
    intro previous stands
    rw [point] at stands
    cases stands
  unfold advance
  rw [point]
  constructor
  · exact sound.delivers
  · intro other call found also
    exact exclusive_move sound current inside found also
  · intro other call found
    exact handed_move sound current found
  · intro sample member
    obtain done | ⟨same, -⟩ | elsewhere := due_move sound current _ member
    · exact Or.inl (List.mem_cons_of_mem _ done)
    · exact Or.inl (List.mem_cons.mpr (Or.inl same.symm))
    · exact Or.inr elsewhere
  · intro sample member
    obtain rfl | earlier := List.mem_cons.mp member
    · exact sound.handed producer emission current
    · exact sound.known sample earlier
  · intro empty
    cases empty
  · intro sample member newest
    obtain rfl | earlier := List.mem_cons.mp member
    · rfl
    · have among : ∀ other ∈ watch.swapped, other.rank ≤ sample.rank := fun other listed =>
        newest other (List.mem_cons_of_mem _ listed)
      obtain older | agrees := inTurn producer emission rfl current point sample earlier among
      · exact absurd (newest emission.sample List.mem_cons_self) (not_le_of_gt older)
      · exact agrees.symm
  · intro other call previous found stands
    obtain ⟨rfl, changed⟩ | ⟨apart, before⟩ := found_in_update found
    · cases changed
      cases stands
      exact ⟨rfl, settled⟩
    · have alone := alone_inside sound current inside before (inside_swapped stands)
      exact absurd alone apart
  · intro none
    exact absurd rfl (none producer _ _ (Function.update_self ..))

theorem field_row_spans {previous isPassword : Bool} (changes : previous ≠ isPassword)
    (now : Instant) :
    Spans previous [CaptureControls.passwordFieldRow isPassword now] isPassword := by
  cases previous <;> cases isPassword
  · exact absurd rfl changes
  · exact ⟨⟨rfl, trivial⟩, rfl, by simp [CaptureControls.passwordFieldRow]⟩
  · exact ⟨⟨rfl, trivial⟩, rfl, by simp [CaptureControls.passwordFieldRow]⟩
  · exact absurd rfl changes

theorem sound_sent {watch : PasswordWatch} (sound : Sound watch) {producer : Producer}
    {emission : Emission} (current : watch.emission producer = some emission) {previous : Bool}
    (point : emission.point = .swapped previous) (rows : List Captured)
    (settled : Spans false rows watch.controls.passwordFieldConfirmedActive) :
    Sound { watch.standAt producer emission .sent with rows := rows } := by
  have inside := inside_swapped point
  constructor
  · exact sound.delivers
  · intro other call found also
    exact exclusive_move sound current inside found also
  · intro other call found
    exact handed_move sound current found
  · intro sample member
    obtain done | ⟨-, waiting⟩ | elsewhere := due_move sound current _ member
    · exact Or.inl done
    · rw [point] at waiting
      exact waiting.elim
    · exact Or.inr elsewhere
  · exact sound.known
  · exact sound.unset
  · exact sound.newest
  · intro other call before found stands
    obtain ⟨rfl, changed⟩ | ⟨apart, earlier⟩ := found_in_update found
    · cases changed
      cases stands
    · have alone := alone_inside sound current inside earlier (inside_swapped stands)
      exact absurd alone apart
  · intro _
    exact settled

theorem sound_send {watch : PasswordWatch} (sound : Sound watch) {producer : Producer}
    {emission : Emission} (current : watch.emission producer = some emission) {previous : Bool}
    (point : emission.point = .swapped previous) : Sound (watch.advance producer emission) := by
  obtain ⟨confirmed, spans⟩ := sound.unsent producer emission previous current point
  unfold advance
  rw [point]
  dsimp only
  split
  · next unchanged =>
    apply sound_sent sound current point watch.rows
    rw [confirmed, ← unchanged]
    exact spans
  · next changes =>
    rw [if_neg (by rw [sound.delivers]; exact Bool.false_ne_true)]
    apply sound_sent sound current point
    rw [confirmed]
    exact Macos.spans_append spans (field_row_spans changes emission.now)

theorem sound_leave {watch : PasswordWatch} (sound : Sound watch) {producer : Producer}
    {emission : Emission} (current : watch.emission producer = some emission)
    (point : emission.point = .sent) : Sound (watch.advance producer emission) := by
  have inside : emission.point.Inside := by
    rw [point]
    trivial
  unfold advance
  rw [point]
  have others {other : Producer} {call : Emission}
      (found : Function.update watch.emission producer none other = some call) :
      other ≠ producer ∧ watch.emission other = some call := by
    obtain ⟨-, changed⟩ | kept := found_in_update found
    · cases changed
    · exact kept
  constructor
  · exact sound.delivers
  · intro other call found isInside
    have kept := others found
    exact absurd (alone_inside sound current inside kept.2 isInside) kept.1
  · intro other call found
    exact sound.handed other call (others found).2
  · intro sample member
    obtain done | ⟨-, waiting⟩ | elsewhere := due_move sound current _ member
    · exact Or.inl done
    · rw [point] at waiting
      exact waiting.elim
    · exact Or.inr elsewhere
  · exact sound.known
  · exact sound.unset
  · exact sound.newest
  · intro other call previous found stands
    exact sound.unsent other call previous (others found).2 stands
  · intro _
    apply settled_inside sound current inside
    intro previous stands
    rw [point] at stands
    cases stands

theorem sound_advance {watch : PasswordWatch} (sound : Sound watch) {producer : Producer}
    {emission : Emission} (current : watch.emission producer = some emission)
    (inTurn : watch.InTurn (.emit producer)) : Sound (watch.advance producer emission) := by
  cases point : emission.point with
  | announced =>
      unfold advance
      rw [point]
      dsimp only
      cases held : watch.resumeGuard with
      | some holder => exact sound
      | none =>
          have onward : Onward watch
              { watch.standAt producer emission .guarded with resumeGuard := some producer }
              producer emission .guarded :=
            ⟨⟨by rw [point]; trivial, trivial⟩, rfl, Or.inl held, rfl, rfl, rfl, rfl, rfl, rfl⟩
          exact sound_onward sound current onward
  | guarded =>
      have inside : emission.point.Inside := by
        rw [point]
        trivial
      have held := sound.exclusive producer emission current inside
      have onward : Onward watch
          { watch.standAt producer emission .stored with
            controls := watch.controls.setPasswordFieldGate emission.sample.isPassword }
          producer emission .stored :=
        ⟨⟨by rw [point]; trivial, trivial⟩, held, Or.inr held, rfl, rfl, rfl, rfl, rfl, rfl⟩
      unfold advance
      rw [point]
      exact sound_onward sound current onward
  | stored => exact sound_swap sound current point inTurn
  | swapped previous => exact sound_send sound current point
  | sent => exact sound_leave sound current point

theorem sound_step {watch : PasswordWatch} (sound : Sound watch) {act : WatchAct}
    (inTurn : watch.InTurn act) : Sound (watch.step act) := by
  have beside {next : PasswordWatch} (aside : Aside watch next) : Sound next :=
    sound_aside sound aside
  cases act with
  | focusChanged =>
      unfold step
      dsimp only
      split
      · exact beside ⟨rfl, rfl, rfl, rfl, rfl, rfl, rfl⟩
      · exact sound
  | raiseGate =>
      unfold step
      dsimp only
      split
      · exact beside ⟨rfl, rfl, rfl, rfl, rfl, rfl, rfl⟩
      · exact sound
  | focusRead isPassword now =>
      unfold step
      dsimp only
      split
      · next free =>
        apply sound_begin
        · exact beside ⟨rfl, rfl, rfl, rfl, rfl, rfl, rfl⟩
        · exact free
      · exact sound
  | monitorStart answer now =>
      unfold step
      dsimp only
      split
      · next free =>
        apply sound_begin
        · exact beside ⟨rfl, rfl, rfl, rfl, rfl, rfl, rfl⟩
        · exact free
      · exact beside ⟨rfl, rfl, rfl, rfl, rfl, rfl, rfl⟩
      · exact sound
  | keyPress cached =>
      unfold step
      dsimp only
      split
      · split_ifs
        · exact sound
        · exact sound
        · exact beside ⟨rfl, rfl, rfl, rfl, rfl, rfl, rfl⟩
      · exact sound
  | probeLoad =>
      unfold step
      dsimp only
      split
      · exact beside ⟨rfl, rfl, rfl, rfl, rfl, rfl, rfl⟩
      · exact sound
  | probeRead answer =>
      unfold step
      dsimp only
      split
      · exact beside ⟨rfl, rfl, rfl, rfl, rfl, rfl, rfl⟩
      · exact beside ⟨rfl, rfl, rfl, rfl, rfl, rfl, rfl⟩
      · exact sound
  | probeCheck =>
      unfold step
      dsimp only
      split
      · split_ifs
        · exact beside ⟨rfl, rfl, rfl, rfl, rfl, rfl, rfl⟩
        · exact beside ⟨rfl, rfl, rfl, rfl, rfl, rfl, rfl⟩
      · exact sound
  | takeReply now =>
      unfold step
      dsimp only
      split
      · next free =>
        apply sound_begin
        · exact beside ⟨rfl, rfl, rfl, rfl, rfl, rfl, rfl⟩
        · exact free
      · exact beside ⟨rfl, rfl, rfl, rfl, rfl, rfl, rfl⟩
      · exact sound
  | emit producer =>
      unfold step
      dsimp only
      split
      · next emission current => exact sound_advance sound current inTurn
      · exact sound

/-- The run lemma: every call is in step with the flags whatever the order of the acts. -/
theorem sound_run {watch : PasswordWatch} (sound : Sound watch) (acts : List WatchAct)
    (inTurn : machine.AllSteps InTurn watch acts) : Sound (machine.run watch acts) :=
  machine.run_invariant_of_steps Sound InTurn (fun _ _ met holds => sound_step holds met) watch acts
    sound inTurn

/-- When no sample is being emitted, every sample that was emitted has been swapped in. -/
theorem quiet_swapped {watch : PasswordWatch} (sound : Sound watch) (quiet : watch.Quiet)
    (sample : FieldSample) : sample ∈ watch.swapped ↔ sample ∈ watch.emitted := by
  constructor
  · exact sound.known sample
  · intro member
    obtain done | ⟨producer, emission, found, -⟩ := sound.due sample member
    · exact done
    · rw [quiet producer] at found
      cases found

/-- The bit of the newest emitted sample, or none. -/
def verdict (watch : PasswordWatch) : Bool :=
  ((watch.emitted.argmax FieldSample.rank).map FieldSample.isPassword).getD false

theorem quiet_verdict {watch : PasswordWatch} (sound : Sound watch) (quiet : watch.Quiet) :
    watch.controls.passwordFieldConfirmedActive = watch.verdict := by
  unfold verdict
  cases newest : watch.emitted.argmax FieldSample.rank with
  | none =>
      rw [List.argmax_eq_none] at newest
      apply sound.unset
      rw [List.eq_nil_iff_forall_not_mem]
      intro sample member
      have emitted := (quiet_swapped sound quiet sample).mp member
      rw [newest] at emitted
      cases emitted
  | some sample =>
      have among := List.argmax_mem newest
      apply sound.newest sample ((quiet_swapped sound quiet sample).mpr among)
      intro other member
      exact List.le_of_mem_argmax ((quiet_swapped sound quiet other).mp member) newest

end PasswordWatch

end Soundness

namespace PasswordWatch

/-- In every run whose samples are swapped in in turn, the newest verdict stands and the rows
alternate up to it. -/
theorem newest_password_verdict_stands (streams : CaptureStream → Bool) (idleThresholdMs : UInt64)
    (acts : List WatchAct) (inTurn : machine.AllSteps InTurn (new streams idleThresholdMs) acts)
    (quiet : (machine.run (new streams idleThresholdMs) acts).Quiet) :
    (machine.run (new streams idleThresholdMs) acts).controls.passwordFieldConfirmedActive =
        (machine.run (new streams idleThresholdMs) acts).verdict ∧
      Spans false (machine.run (new streams idleThresholdMs) acts).rows
        (machine.run (new streams idleThresholdMs) acts).controls.passwordFieldConfirmedActive := by
  have sound := sound_run (sound_new streams idleThresholdMs) acts inTurn
  refine ⟨quiet_verdict sound quiet, sound.followed ?_⟩
  intro producer emission previous found
  rw [quiet producer] at found
  cases found

private def wholeCall (producer : Producer) : List WatchAct :=
  [.emit producer, .emit producer, .emit producer, .emit producer, .emit producer]

private def passwordFocus : List WatchAct :=
  [.focusChanged, .raiseGate, .focusRead true ⟨5⟩] ++ wholeCall .handler

private def otherFocus : List WatchAct :=
  [.focusChanged, .raiseGate, .focusRead false ⟨9⟩] ++ wholeCall .handler

private def afterTwo : PasswordWatch :=
  machine.run (new (fun _ => true) 1) (passwordFocus ++ otherFocus)

theorem newest_password_verdict_stands_after_two :
    afterTwo.controls.passwordFieldConfirmedActive = afterTwo.verdict ∧
      Spans false afterTwo.rows afterTwo.controls.passwordFieldConfirmedActive := by
  apply newest_password_verdict_stands (fun _ => true) 1 (passwordFocus ++ otherFocus)
  · refine ⟨?_, ?_, ?_, ?_, ?_, ?_, ?_, ?_, ?_, ?_, ?_, ?_, ?_, ?_, ?_, ?_, trivial⟩
    all_goals rintro producer emission ⟨⟩ ⟨⟩
    all_goals try rintro ⟨⟩
    · rintro newest ⟨⟩
    · intro newest member among
      obtain rfl := List.mem_singleton.mp member
      exact Or.inl (by decide)
  · intro producer
    cases producer <;> rfl

/-- A key press asks while an ordinary field has the focus; its answer is taken only after the
focus has moved into a password field. -/
private def slowProbe : List WatchAct :=
  [.monitorStart none ⟨0⟩, .keyPress false, .probeLoad, .probeRead (some false), .probeCheck] ++
    passwordFocus ++ [.takeReply ⟨9⟩] ++ wholeCall .pump

theorem slow_probe_lifts_password_verdict :
    (machine.run (new (fun _ => true) 1) slowProbe).Quiet ∧
    (machine.run (new (fun _ => true) 1) slowProbe).emitted = [⟨false, 0, 0⟩, ⟨true, 1, 1⟩] ∧
    (machine.run (new (fun _ => true) 1) slowProbe).verdict = true ∧
    (machine.run (new (fun _ => true) 1) slowProbe).controls.passwordFieldConfirmedActive =
      false ∧
    (machine.run (new (fun _ => true) 1) slowProbe).rows =
      [CaptureControls.passwordFieldRow true ⟨5⟩, CaptureControls.passwordFieldRow false ⟨9⟩] := by
  refine ⟨?_, rfl, ?_, rfl, rfl⟩
  · intro producer
    cases producer <;> rfl
  · decide

end PasswordWatch

end Gilbreth.Windows
