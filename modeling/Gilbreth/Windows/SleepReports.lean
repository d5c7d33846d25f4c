import Gilbreth.Windows.UnannouncedSleep

/-!
# No dwell spans an unannounced sleep

Where every message that follows such a sleep comes after the timer sample or the resume notice
that looks for it, the dwell it reports counts no more of it than the cap, and one row reports
each sleep.
-/

set_option autoImplicit false

namespace Gilbreth.Windows

open Gilbreth.Core (Captured FocusedWindow Instant WindowRef millisecond)
open Alternation (Mark Legal)

/-- The pump, the intervals between its messages, latest first, and what it has put out. -/
structure Watched where
  state : CaptureState
  last : Instant
  intervals : List MessageInterval
  rows : List Captured

namespace Watched

/-- The pump as it is made at an instant, the tick clock read. -/
def new (controls : CaptureControls) (metrics : MouseMetrics) (boot : Int) (start : Instant) :
    Watched :=
  ⟨.new controls metrics (.ofNat (tickAt boot start)), start, [], []⟩

def upTo (watched : Watched) (message : Dispatched) : List MessageInterval :=
  watched.state.dwell.interval watched.last message.handledAt :: watched.intervals

/-- A long interval that began at or after the last reading of the tick clock. -/
def Unreported (boot : Int) (watched : Watched) (interval : MessageInterval) : Prop :=
  interval.Long boot ∧ ∀ tick, watched.state.lastTimerTickMs = some tick →
    tick.toNat ≤ tickAt boot interval.start

/-- The messages of the run: each is stamped, and reads the tick clock, when it is handled. -/
structure InStep (boot : Int) (watched : Watched) (message : Dispatched) : Prop where
  boundary : message.call.IsBoundary = true
  later : watched.last.nanos ≤ message.handledAt.nanos
  stamped : ∀ own, message.call.now = some own → own = message.handledAt
  range : tickAt boot message.handledAt < 2 ^ 64
  read : ∀ reading, message.call.tickReading = some reading →
    reading = some (.ofNat (tickAt boot message.handledAt))

/-- A segment is not closed for its whole length over an interval not yet reported; a suspend
notice comes neither after such an interval nor while power is suspended. -/
structure Caught (boot : Int) (watched : Watched) (message : Dispatched) : Prop where
  closes : ∀ opened, message.call.fullClose watched.state.dwell = some opened →
    ∀ interval ∈ within opened (watched.upTo message), ¬watched.Unreported boot interval
  suspends : message.call.suspends = true → watched.state.powerSuspended = false ∧
    ∀ interval ∈ watched.upTo message, ¬watched.Unreported boot interval

variable {boot : Int} {lets : DwellMark → Bool} {watched : Watched} {message : Dispatched}

theorem read_value (inStep : InStep boot watched message) :
    (UInt64.ofNat (tickAt boot message.handledAt)).toNat = tickAt boot message.handledAt := by
  rw [UInt64.toNat_ofNat']
  exact Nat.mod_eq_of_lt inStep.range

theorem caught_heeds (caught : Caught boot watched message) {tick : UInt64}
    (noted : watched.state.lastTimerTickMs = some tick) :
    Heeds boot watched.state.dwell message.call (watched.upTo message) tick := by
  have seen : ∀ interval, ¬watched.Unreported boot interval → interval.Long boot →
      tickAt boot interval.start < tick.toNat := by
    intro interval reported long
    by_contra unseen
    refine reported ⟨long, ?_⟩
    intro other same
    rw [← Option.some.inj (noted.symm.trans same)]
    exact not_lt.mp unseen
  refine ⟨?_, ?_⟩
  · intro opened full interval inside long
    exact seen interval (caught.closes opened full interval inside) long
  · intro notice
    have ⟨awake, reported⟩ := caught.suspends notice
    exact ⟨awake, fun interval among long => seen interval (reported interval among) long⟩

theorem count_reports (boot : Int) (interval : MessageInterval) (rows : List Captured) :
    rows.countP (reports boot interval) =
      (rows.filterMap dwellMark).countP (DwellMark.reports boot interval) := by
  rw [List.countP_filterMap]
  apply List.countP_congr
  intro row _
  unfold reports
  cases dwellMark row <;> rfl

/-- What every step keeps. -/
structure Sound (boot : Int) (lets : DwellMark → Bool) (watched : Watched) : Prop where
  gate : watched.state.controls.lets = lets
  passed : ∀ mark ∈ watched.rows.filterMap dwellMark, lets mark = true
  tracked : ∃ tick, Tracked boot watched.state.dwell watched.last watched.intervals tick
  told : (∀ gapMs moment, lets (.recovered gapMs moment) = true) →
    ∀ tick, watched.state.lastTimerTickMs = some tick →
      Told boot watched.intervals tick (watched.rows.filterMap dwellMark)
  alternates : lets .suspend = true ∧ lets (.resume true) = true →
    Alternates watched.state.dwell (watched.rows.filterMap dwellMark)

theorem new_sound (controls : CaptureControls) (metrics : MouseMetrics) (boot : Int)
    (start : Instant) : Sound boot controls.lets (new controls metrics boot start) := by
  refine ⟨rfl, by simp [new], ⟨.ofNat (tickAt boot start), rfl, ?_, by simp [new,
    CaptureState.new, CaptureState.dwell], by simp [new], ?_, ?_, ?_, ?_⟩, ?_, ?_⟩
  · rw [UInt64.toNat_ofNat']
    exact Nat.mod_le _ _
  · intro current isOpen
    cases isOpen
  · intro current isOpen
    cases isOpen
  · intro current isOpen
    cases isOpen
  · intro suspended
    cases suspended
  · intro _ tick _
    exact ⟨by simp [new], by simp [new], by simp [new]⟩
  · intro _
    exact ⟨trivial, rfl⟩

theorem one_resume_between (sound : Sound boot lets watched) {first second : Captured}
    {before between rest : List Captured}
    (rows : watched.rows = before ++ first :: (between ++ second :: rest))
    (isFirst : dwellMark first = some .suspend) (isSecond : dwellMark second = some .suspend)
    (consecutive : ∀ row ∈ between, dwellMark row ≠ some .suspend) :
    between.countP (fun row => dwellMark row == some (.resume true)) = 1 := by
  have gate : lets .suspend = true := by
    apply sound.passed
    rw [rows]
    exact List.mem_filterMap.mpr ⟨first, by simp, isFirst⟩
  have same : lets (.resume true) = lets .suspend := by
    rw [← sound.gate]
    rfl
  have legal := (sound.alternates ⟨gate, same.trans gate⟩).legal
  rw [rows, List.filterMap_filterMap, List.filterMap_append,
    List.filterMap_cons_some (b := Mark.opens) (by rw [isFirst]; rfl), List.filterMap_append,
    List.filterMap_cons_some (b := Mark.opens) (by rw [isSecond]; rfl)] at legal
  have once := Alternation.one_close_between legal (by
    intro mark member
    have ⟨row, among, told⟩ := List.mem_filterMap.mp member
    have ⟨kind, isKind, marked⟩ := Option.bind_eq_some_iff.mp told
    cases kind with
    | suspend => exact absurd isKind (consecutive row among)
    | resume matched =>
        cases matched with
        | true =>
            rw [← Option.some.inj marked]
            exact ⟨by decide, by decide⟩
        | false => cases marked
    | focus | recovered => cases marked)
  rw [← once, List.count, List.countP_filterMap]
  apply List.countP_congr
  intro row _
  cases told : dwellMark row with
  | none => simp
  | some kind =>
      cases kind with
      | resume matched => cases matched <;> simp [powerMark]
      | focus | suspend | recovered => simp [powerMark]

/-- The most that a message may report of the open segment. -/
def dwellLimit (boot : Int) (watched : Watched) (message : Dispatched) : Nat :=
  watched.state.foreground.current.elim 0 (countedTime boot (watched.upTo message))

variable [Hypot]

def machine : Machine Watched Dispatched (List Captured) where
  step := fun watched message =>
    let done := CaptureState.handle message.call watched.state
    (⟨done.1, message.handledAt, watched.upTo message, watched.rows ++ done.2⟩, done.2)

theorem step_turns (inStep : InStep boot watched message) :
    ∃ marks, DwellTurn watched.state.dwell message.call message.handledAt
        (.ofNat (tickAt boot message.handledAt))
        (machine.step watched message).1.state.dwell marks ∧
      (machine.step watched message).2.filterMap dwellMark =
        marks.filter watched.state.controls.lets ∧
      (machine.step watched message).1.state.controls.lets = watched.state.controls.lets := by
  have shown := CaptureState.handle_shows inStep.boundary watched.state
  have turn := PowerDwell.step_turn watched.state.dwell inStep.boundary inStep.stamped inStep.read
  refine ⟨(PowerDwell.step message.call watched.state.dwell).2, ?_, shown.marks, shown.lets⟩
  rw [← shown.dwell] at turn
  exact turn

theorem step_sound (sound : Sound boot lets watched) (inStep : InStep boot watched message)
    (caught : Caught boot watched message) :
    Sound boot lets (machine.step watched message).1 := by
  have ⟨tick, tracked⟩ := sound.tracked
  have ⟨marks, turn, shown, sameLets⟩ := step_turns inStep
  have heeds := caught_heeds caught tracked.noted
  have extended := tracked.extend inStep.later
  have isRead := read_value inStep
  have ⟨after, next⟩ := turn_tracked extended isRead heeds turn
  have rows : (machine.step watched message).1.rows.filterMap dwellMark =
      watched.rows.filterMap dwellMark ++ marks.filter lets := by
    rw [← sound.gate, ← shown, ← List.filterMap_append]
    rfl
  refine ⟨sameLets.trans sound.gate, ?_, ⟨after, next⟩, ?_, ?_⟩
  · intro mark member
    rw [rows] at member
    rcases List.mem_append.mp member with old | new
    · exact sound.passed mark old
    · exact (List.mem_filter.mp new).2
  · intro gate tick' noted
    rw [rows]
    exact turn_told extended isRead heeds
      (told_extend tracked (sound.told gate tick tracked.noted)) gate turn noted
  · intro gate
    rw [rows]
    exact turn_alternates heeds (sound.alternates gate) gate turn

theorem run_sound (controls : CaptureControls) (metrics : MouseMetrics) (start : Instant)
    {messages : List Dispatched}
    (steps : machine.AllSteps (fun watched message => InStep boot watched message ∧
      Caught boot watched message) (new controls metrics boot start) messages) :
    Sound boot controls.lets (machine.run (new controls metrics boot start) messages) :=
  machine.run_invariant_of_steps (Sound boot controls.lets) _
    (fun _ _ step sound => step_sound sound step.1 step.2) _ _
    (new_sound controls metrics boot start) steps

theorem step_dwell (sound : Sound boot lets watched) (inStep : InStep boot watched message)
    (caught : Caught boot watched message) {row : Captured}
    (out : row ∈ (machine.step watched message).2) {previousMs : UInt64}
    (reported : dwellMark row = some (.focus previousMs)) :
    previousMs.toNat * millisecond ≤
      watched.state.foreground.current.elim 0 (countedTime boot (watched.upTo message)) := by
  have ⟨tick, tracked⟩ := sound.tracked
  have ⟨marks, turn, shown, _⟩ := step_turns inStep
  have heeds := caught_heeds caught tracked.noted
  have among : DwellMark.focus previousMs ∈ marks := by
    have told : DwellMark.focus previousMs ∈
        (machine.step watched message).2.filterMap dwellMark :=
      List.mem_filterMap.mpr ⟨row, out, reported⟩
    rw [shown] at told
    exact (List.mem_filter.mp told).1
  exact turn_dwell (tracked.extend inStep.later) heeds turn among

theorem step_looks (sound : Sound boot lets (machine.step watched message).1)
    (inStep : InStep boot watched message) (looks : message.call.looksForGap = true) :
    ∀ interval ∈ (machine.step watched message).1.intervals,
      ¬(machine.step watched message).1.Unreported boot interval := by
  intro interval member unreported
  have ⟨tick, tracked⟩ := sound.tracked
  have ⟨marks, turn, _, _⟩ := step_turns inStep
  have unseen := unreported.2 _ (turn.notes looks)
  rw [read_value inStep] at unseen
  have ends := tick_mono boot (tracked.past interval member)
  change _ ≤ tickAt boot message.handledAt at ends
  have above := MessageInterval.long_ticks unreported.1
  omega

/-- The pump when it has handled the messages. -/
def after (controls : CaptureControls) (metrics : MouseMetrics) (boot : Int) (start : Instant)
    (messages : List Dispatched) : Watched :=
  machine.run (new controls metrics boot start) messages

end Watched

open Watched

section Main

variable [Hypot]

/-- Where each such sleep is looked for before a message would count it or hide it, no dwell
counts more of it than the cap, one row reports it, by the next timer sample or resume notice at
the latest, and each suspend notice has its one matching resume before the next. -/
theorem no_dwell_spans_unannounced_sleep (controls : CaptureControls) (metrics : MouseMetrics)
    (boot : Int) (start : Instant) {messages : List Dispatched}
    (steps : Watched.machine.AllSteps (fun watched message => InStep boot watched message ∧
      Caught boot watched message) (.new controls metrics boot start) messages) :
    (∀ before message rest, messages = before ++ message :: rest →
      ∀ row ∈ (CaptureState.handle message.call
          (after controls metrics boot start before).state).2,
      ∀ window prev previousFocusedForMs windowUnfocusedForMs recovered,
        row.payload = .focusChanged window prev previousFocusedForMs windowUnfocusedForMs
          recovered →
        previousFocusedForMs.toNat * millisecond ≤
          (after controls metrics boot start before).dwellLimit boot message) ∧
    (controls.isSuspended = false → controls.enabled .system = true →
      ∀ interval ∈ (after controls metrics boot start messages).intervals,
        interval.Long boot →
        (¬(after controls metrics boot start messages).Unreported boot interval →
          (after controls metrics boot start messages).rows.countP (reports boot interval) = 1) ∧
        ((messages.getLast?.any fun message => message.call.looksForGap) = true →
          ¬(after controls metrics boot start messages).Unreported boot interval)) ∧
    ∀ before first between second rest,
      (after controls metrics boot start messages).rows =
        before ++ first :: (between ++ second :: rest) →
      dwellMark first = some .suspend → dwellMark second = some .suspend →
      (∀ row ∈ between, dwellMark row ≠ some .suspend) →
      between.countP (fun row => dwellMark row == some (.resume true)) = 1 := by
  have sound := run_sound controls metrics start steps
  refine ⟨?_, ?_, ?_⟩
  · intro before message rest split row out window prev previousMs unfocusedMs recovered payload
    rw [split] at steps
    have upTo := (Watched.machine.all_steps_append _ _ _ _).mp steps
    have reported : dwellMark row = some (.focus previousMs) := by
      unfold dwellMark
      rw [payload]
    exact step_dwell (run_sound controls metrics start upTo.1) upTo.2.1.1 upTo.2.1.2 out reported
  · intro awake enabled interval member long
    have gate : ∀ gapMs moment, controls.lets (.recovered gapMs moment) = true := by
      intro gapMs moment
      unfold CaptureControls.lets
      rw [awake, enabled]
      rfl
    refine ⟨?_, ?_⟩
    · intro reported
      have ⟨tick, tracked⟩ := sound.tracked
      have seen : tickAt boot interval.start < tick.toNat := by
        by_contra unseen
        refine reported ⟨long, ?_⟩
        intro other same
        rw [← Option.some.inj (tracked.noted.symm.trans same)]
        exact not_lt.mp unseen
      rw [count_reports]
      exact (sound.told gate tick tracked.noted).once interval member long seen
    · intro looked
      have ⟨last, isLast, looks⟩ := Option.any_eq_true _ _ |>.mp looked
      have ⟨earlier, split⟩ := List.getLast?_eq_some_iff.mp isLast
      subst split
      have upTo := (Watched.machine.all_steps_append _ _ _ _).mp steps
      unfold after at member ⊢
      rw [Watched.machine.run_append] at member ⊢
      exact step_looks (step_sound (run_sound controls metrics start upTo.1) upTo.2.1.1
        upTo.2.1.2) upTo.2.1.1 looks interval member
  · intro before first between second rest rows isFirst isSecond consecutive
    exact one_resume_between sound rows isFirst isSecond consecutive

end Main

private abbrev restingMouse : Hypot := ⟨fun _ => 0⟩

private def editorWindow : WindowRef := ⟨1, "editor.exe", "notes", 10⟩

private def browserWindow : WindowRef := ⟨2, "browser.exe", "news", 11⟩

private def allOn : CaptureControls := .new (fun _ => true) 180000

private def deskMouse : MouseMetrics := ⟨250000000, 500000000, ⟨4, 4⟩, ⟨8, 8⟩⟩

private def seconds (count : Int) : Instant := ⟨count * 1000000000⟩

private def focused (window : WindowRef) (count : Int) : Dispatched :=
  ⟨seconds count, .foreground (some window) (seconds count)⟩

private def sampled (count : Int) (tickMs : UInt64) : Dispatched :=
  ⟨seconds count, .timerSample ⟨none, some tickMs, some editorWindow, none, seconds count, none,
    fun _ => false, fun _ => false⟩⟩

/-- Forty seconds of sleep, then the timer. -/
theorem no_dwell_spans_unannounced_sleep_timer :
    ((@after restingMouse allOn deskMouse 0 (seconds 0)
      [focused editorWindow 1, sampled 41 41000]).rows.countP
        (reports 0 ⟨seconds 1, seconds 41, true⟩)) = 1 := by
  have steps : (@Watched.machine restingMouse).AllSteps (fun watched message =>
      InStep 0 watched message ∧ Caught 0 watched message) (.new allOn deskMouse 0 (seconds 0))
      [focused editorWindow 1, sampled 41 41000] := by
    refine ⟨⟨⟨rfl, by decide, ?_, by decide, ?_⟩, ?_, ?_⟩,
      ⟨⟨rfl, by decide, ?_, by decide, ?_⟩, ?_, ?_⟩, trivial⟩
    · intro own same
      exact (Option.some.inj same).symm
    · intro reading same
      cases same
    · intro opened same
      cases same
    · intro notice
      cases notice
    · intro own same
      exact (Option.some.inj same).symm
    · intro reading same
      exact (Option.some.inj same).symm
    · intro opened same
      cases same
    · intro notice
      cases notice
  have whole := @no_dwell_spans_unannounced_sleep restingMouse allOn deskMouse 0 (seconds 0) _ steps
  have found := whole.2.1 rfl rfl ⟨seconds 1, seconds 41, true⟩ (by decide) (by decide)
  exact found.1 (found.2 rfl)

/-- The first message after the sleep is the callback of another window. -/
theorem dwell_counts_sleep :
    (@Watched.machine restingMouse).AllSteps (InStep 0) (.new allOn deskMouse 0 (seconds 0))
        [focused editorWindow 1, focused browserWindow 41] ∧
      dwellMark <$> (@after restingMouse allOn deskMouse 0 (seconds 0)
        [focused editorWindow 1, focused browserWindow 41]).rows = [some (.focus 0),
          some (.focus 40000)] ∧
      (@after restingMouse allOn deskMouse 0 (seconds 0) [focused editorWindow 1]).dwellLimit 0
        (focused browserWindow 41) < 40000 * millisecond := by
  refine ⟨⟨⟨rfl, by decide, ?_, by decide, ?_⟩, ⟨rfl, by decide, ?_, by decide, ?_⟩, trivial⟩,
    by decide, by decide⟩
  · intro own same
    exact (Option.some.inj same).symm
  · intro reading same
    cases same
  · intro own same
    exact (Option.some.inj same).symm
  · intro reading same
    cases same

end Gilbreth.Windows
