import Mathlib
import Gilbreth.Windows.MouseHistory

/-!
# Every double click completes one earlier click

The remembered click is replaced by each release of a held button and forgotten with each
double click, so the click that a press completes is the last hold before it.
-/

set_option autoImplicit false

namespace Gilbreth.Windows

open Gilbreth.Core (Captured Instant InputOrigin MouseButton WindowRef EventPayload durationMs
  checkedDurationSince)

theorem remembered_fold {state : MouseState} {input : RawInput}
    {inputOrigin : Option InputOrigin} {buttons : List MouseButton}
    {last : Option CompletedMouseClick} {click : CompletedMouseClick}
    (remembered : buttons.foldl (state.remembered input inputOrigin) last = some click) :
    (∃ button ∈ buttons, ∃ active, state.activeButtons button = some active ∧
        (active.finish input.window input.position inputOrigin).isDrag state.metrics.dragBox ≠
          true ∧
        active.seedCompletedClick = true ∧
        click =
          (active.finish input.window input.position inputOrigin).intoCompletedClick) ∨
      last = some click := by
  induction buttons generalizing last with
  | nil => exact Or.inr remembered
  | cons button rest induction =>
      rcases induction remembered with ⟨other, member, found⟩ | now
      · exact Or.inl ⟨other, List.mem_cons_of_mem _ member, found⟩
      · unfold MouseState.remembered at now
        cases held : state.activeButtons button with
        | none =>
            rw [held] at now
            exact Or.inr now
        | some active =>
            rw [held] at now
            dsimp only at now
            split_ifs at now with drag seeded
            exact Or.inl ⟨button, List.mem_cons_self, active, held, drag, seeded,
              (Option.some.inj now).symm⟩

section Pairs

variable [Hypot]

namespace MouseState

/-- A hold that ended without a drag and did not begin with a double click. -/
structure Clicked (metrics : MouseMetrics) (button : MouseButton) (early : List MouseCall)
    (press release : RawInput) (span : List MouseCall) : Prop where
  hold : Hold button press release span
  single : ∀ row ∈ rowsAt metrics early (.raw press), doubleClickedButton row ≠ some button
  undragged : ∀ row ∈ rowsAt metrics (early ++ span.dropLast) (.raw release),
    draggedButton row ≠ some button

/-- What a hold was last seen in and at: its press, every movement, its release. -/
def lastSeen (metrics : MouseMetrics) (early : List MouseCall) (press release : RawInput)
    (span : List MouseCall) : Sighting :=
  ((afterPress metrics early press).sightings press.sighting span.tail).next release

/-- No double click in the calls that follow a history. -/
def NoDoubleClick (metrics : MouseMetrics) (history calls : List MouseCall) : Prop :=
  ∀ front call rest, calls = front ++ call :: rest →
    ∀ row ∈ rowsAt metrics (history ++ front) call, doubleClickedButton row = none

/-- The remembered click is the one that the calls before it made. -/
structure Remembers (metrics : MouseMetrics) (click : CompletedMouseClick)
    (early : List MouseCall) (press release : RawInput) (span : List MouseCall) : Prop where
  clicked : Clicked metrics click.button early press release span
  startedAt : click.startedAt = press.capturedAt
  x : click.x =
    (press.position.or (lastSeen metrics early press release span).position).map MousePosition.x
  y : click.y =
    (press.position.or (lastSeen metrics early press release span).position).map MousePosition.y
  hwnd : click.hwnd = (lastSeen metrics early press release span).window.map WindowRef.hwnd

/-- What a call leaves remembered was released in it, or was remembered before it and no double
click came. -/
theorem remembered_step {state : MouseState} {call : MouseCall} {click : CompletedMouseClick}
    (last : (machine.step state call).1.lastCompletedClick = some click) :
    (∃ input, call = .raw input ∧ ∃ button ∈ input.raw.upButtons, ∃ active,
        state.heldAt input button = some active ∧
        (active.finish input.window input.position (state.origin input)).isDrag
          state.metrics.dragBox ≠ true ∧
        active.seedCompletedClick = true ∧
        click = (active.finish input.window input.position
          (state.origin input)).intoCompletedClick) ∨
      (state.lastCompletedClick = some click ∧
        ∀ row ∈ (machine.step state call).2, doubleClickedButton row = none) := by
  cases call with
  | raw input =>
      have ⟨ready, held, metrics, before, whole⟩ := state.on_raw_mouse_eq input
      change (state.onRawMouse input).1.lastCompletedClick = some click at last
      rw [whole] at last
      rcases remembered_fold last with ⟨button, up, active, isHeld, clicked⟩ | kept
      · rw [held] at isHeld
        rw [metrics] at clicked
        exact Or.inl ⟨input, rfl, button, up, active, isHeld, clicked⟩
      · rw [before] at kept
        split_ifs at kept with anyDouble
        refine Or.inr ⟨kept, ?_⟩
        intro row member
        rcases on_raw_mouse_rows member with plain | ⟨button, down, intervalMs, double, _⟩ | drag
        · exact plain.1
        · apply absurd _ anyDouble
          rw [List.any_eq_true]
          exact ⟨button, down, by rw [double]; rfl⟩
        · have ⟨_, _, _, _, _, same⟩ := drag
          rw [same]
          rfl
  | flushDue now =>
      have same : (state.flushDue now).1.lastCompletedClick = state.lastCompletedClick := by
        unfold flushDue flushPending
        cases state.pendingMove with
        | none => rfl
        | some pending =>
            dsimp only
            split_ifs <;> rfl
      exact Or.inr ⟨same.symm.trans last,
        fun row member => (state.flush_due_plain now row member).1⟩
  | flushPending => exact Or.inr ⟨last, fun row member => (state.flush_pending_plain row member).1⟩
  | resetAfterBoundary => cases last
  | resyncActiveButtons isButtonDown => exact Or.inr ⟨last, by simp [machine]⟩

theorem undragged_at {metrics : MouseMetrics} {calls : List MouseCall} {input : RawInput}
    (named : (machine.run (.new metrics) calls).Named) {button : MouseButton}
    {active : ActiveMouseButton}
    (held : (machine.run (.new metrics) calls).heldAt input button = some active)
    (short : (active.finish input.window input.position
      ((machine.run (.new metrics) calls).origin input)).isDrag
        (machine.run (.new metrics) calls).metrics.dragBox ≠ true) :
    ∀ row ∈ rowsAt metrics calls (.raw input), draggedButton row ≠ some button := by
  intro row member isDrag
  rcases on_raw_mouse_rows member with plain | ⟨_, _, _, _, same⟩ | drag
  · rw [plain.2] at isDrag
    cases isDrag
  · rw [same] at isDrag
    cases isDrag
  · have ⟨other, _, found, isHeld, long, same⟩ := drag
    rw [same] at isDrag
    have own : other = button :=
      (held_at_named named isHeld).symm.trans (Option.some.inj isDrag)
    rw [own, held] at isHeld
    rw [← Option.some.inj isHeld] at long
    exact short long

theorem no_double_click_snoc {metrics : MouseMetrics} {history calls : List MouseCall}
    {call : MouseCall} (before : NoDoubleClick metrics history calls)
    (last : ∀ row ∈ rowsAt metrics (history ++ calls) call, doubleClickedButton row = none) :
    NoDoubleClick metrics history (calls ++ [call]) := by
  intro front other rest split
  cases rest using List.reverseRecOn with
  | nil =>
      have ⟨same, sameCall⟩ := List.append_inj' split rfl
      rw [← same, ← List.singleton_inj.mp sameCall]
      exact last
  | append_singleton rest final =>
      rw [← List.cons_append, ← List.append_assoc] at split
      exact before front other rest (List.append_inj' split rfl).1

theorem remembered_since {metrics : MouseMetrics} {calls : List MouseCall}
    (fits : machine.AllSteps (fun state call => call.Fits state) (.new metrics) calls)
    {click : CompletedMouseClick}
    (last : (machine.run (.new metrics) calls).lastCompletedClick = some click) :
    ∃ early press release span gap, calls = early ++ span ++ gap ∧
      Remembers metrics click early press release span ∧
      NoDoubleClick metrics (early ++ span) gap := by
  induction calls using List.reverseRecOn with
  | nil => cases last
  | append_singleton calls call induction =>
      have before := ((machine.all_steps_append _ _ _ _).mp fits).1
      rw [machine.run_append, Machine.run_cons, Machine.run_nil] at last
      rcases remembered_step last with
        ⟨input, isRaw, button, up, active, held, short, seeded, same⟩ | ⟨kept, silent⟩
      · rw [isRaw] at fits
        have ⟨early, press, span, split, hold, gathered⟩ := hold_at fits up held
        have saw := saw_finish gathered.saw input ((machine.run (.new metrics) calls).origin input)
        have own : click.button = button := by
          rw [same]
          exact gathered.own
        refine ⟨early, press, input, span, [], ?_, ⟨?_, ?_, ?_, ?_, ?_⟩, ?_⟩
        · rw [isRaw, split, List.append_nil]
        · rw [own]
          refine ⟨hold, gathered.single seeded, ?_⟩
          rw [← before_release hold split]
          exact undragged_at (run_named before) held short
        · rw [same]
          exact gathered.startedAt
        · rw [same]
          exact (completed_click_saw saw).1
        · rw [same]
          exact (completed_click_saw saw).2.1
        · rw [same]
          exact (completed_click_saw saw).2.2
        · intro front other rest split
          cases front <;> cases split
      · have ⟨early, press, release, span, gap, split, remembers, alone⟩ := induction before kept
        refine ⟨early, press, release, span, gap ++ [call], ?_, remembers, ?_⟩
        · rw [split, List.append_assoc]
        · apply no_double_click_snoc alone
          rw [← split]
          exact silent

theorem run_metrics (metrics : MouseMetrics) (calls : List MouseCall) :
    (machine.run (.new metrics) calls).metrics = metrics := by
  apply machine.run_invariant (fun state => state.metrics = metrics) ?_ _ calls rfl
  intro state call same
  rw [← same]
  cases call with
  | raw input =>
      have ⟨ready, _, kept, _, whole⟩ := state.on_raw_mouse_eq input
      change (state.onRawMouse input).1.metrics = _
      rw [whole]
      exact kept
  | flushDue now =>
      change (state.flushDue now).1.metrics = _
      unfold flushDue flushPending
      cases state.pendingMove with
      | none => rfl
      | some pending =>
          dsimp only
          split_ifs <;> rfl
  | flushPending => rfl
  | resetAfterBoundary => rfl
  | resyncActiveButtons isButtonDown => rfl

/-- A drag row and the hold it belongs to. -/
structure Dragged (metrics : MouseMetrics) (button : MouseButton) (early : List MouseCall)
    (press release : RawInput) (span : List MouseCall) (row : Captured) : Prop where
  hold : Hold button press release span
  emitted : row ∈ rowsAt metrics (early ++ span.dropLast) (.raw release)
  names : draggedButton row = some button
  totals : dragAmount row = deltasAmount (afterPress metrics early press) span.tail

/-- A double click row of a press, and the one click before it that it completes. -/
structure DoubleClicked (metrics : MouseMetrics) (button : MouseButton) (early : List MouseCall)
    (press release : RawInput) (span gap : List MouseCall) (second : RawInput)
    (row : Captured) : Prop where
  emitted : row ∈ rowsAt metrics (early ++ span ++ gap) (.raw second)
  names : doubleClickedButton row = some button
  pressed : ∃ inputOrigin, clickRow press inputOrigin button ∈ rowsAt metrics early (.raw press)
  clicked : Clicked metrics button early press release span
  alone : NoDoubleClick metrics (early ++ span) gap
  recent : press.capturedAt.nanos ≤ second.capturedAt.nanos ∧
    second.capturedAt.nanos - press.capturedAt.nanos ≤ metrics.doubleClickInterval
  window : ∃ window, second.window = some window ∧
    (lastSeen metrics early press release span).window.map WindowRef.hwnd = some window.hwnd
  inside : ∃ position start, second.position = some position ∧
    press.position.or (lastSeen metrics early press release span).position = some start ∧
    metrics.doubleClickBox.contains start.x start.y position.x position.y = true

theorem drag_row_held {metrics : MouseMetrics} {before : List MouseCall} {call : MouseCall}
    (fits : machine.AllSteps (fun state call => call.Fits state) (.new metrics)
      (before ++ [call])) {row : Captured} {button : MouseButton}
    (member : row ∈ rowsAt metrics before call) (dragged : draggedButton row = some button) :
    ∃ early press release span, before ++ [call] = early ++ span ∧
      Dragged metrics button early press release span row := by
  have named := run_named ((machine.all_steps_append _ _ _ _).mp fits).1
  have silent : draggedButton row ≠ none := by
    rw [dragged]
    exact Option.some_ne_none button
  cases call with
  | raw input =>
      rcases on_raw_mouse_rows member with plain | ⟨_, _, _, _, same⟩ | drag
      · exact absurd plain.2 silent
      · rw [same] at dragged
        cases dragged
      · have ⟨other, up, active, held, _, same⟩ := drag
        have own : other = button := by
          rw [same] at dragged
          exact (held_at_named named held).symm.trans (Option.some.inj dragged)
        rw [own] at up held
        have ⟨early, press, span, split, hold, gathered⟩ := hold_at fits up held
        refine ⟨early, press, input, span, split, hold, ?_, dragged, ?_⟩
        · rw [← before_release hold split]
          exact member
        · rw [same, ← gathered.amount]
          rfl
  | flushDue now => exact absurd (flush_due_plain _ now row member).2 silent
  | flushPending => exact absurd (flush_pending_plain _ row member).2 silent
  | resetAfterBoundary => cases member
  | resyncActiveButtons isButtonDown => cases member

theorem double_click_row_completes {metrics : MouseMetrics} {before : List MouseCall}
    {call : MouseCall}
    (fits : machine.AllSteps (fun state call => call.Fits state) (.new metrics) before)
    {row : Captured} {button : MouseButton} (member : row ∈ rowsAt metrics before call)
    (double : doubleClickedButton row = some button) :
    ∃ early press release span gap second, before = early ++ span ++ gap ∧ call = .raw second ∧
      DoubleClicked metrics button early press release span gap second row := by
  have silent : doubleClickedButton row ≠ none := by
    rw [double]
    exact Option.some_ne_none button
  cases call with
  | raw input =>
      rcases on_raw_mouse_rows member with plain | ⟨other, down, intervalMs, isDouble, same⟩ | drag
      · exact absurd plain.1 silent
      · have own : other = button := by
          rw [same] at double
          exact Option.some.inj double
        rw [own] at isDouble
        have ⟨previous, elapsed, last, sameButton, since, within, _, window, position, previousX,
          previousY, shown, known, placed, knownX, knownY, inside⟩ := doubled_inversion isDouble
        rw [run_metrics] at within inside
        have ⟨early, press, release, span, gap, split, remembers, alone⟩ :=
          remembered_since fits last
        have clicked := remembers.clicked
        rw [sameButton] at clicked
        refine ⟨early, press, release, span, gap, input, split, rfl, ?_, double, ?_, clicked, alone,
          ?_, ⟨window, shown, ?_⟩, ?_⟩
        · rw [← split]
          exact member
        · exact ⟨_, click_row_added clicked.hold.pressed⟩
        · rw [remembers.startedAt] at since
          unfold checkedDurationSince at since
          split_ifs at since with later
          have exact := Option.some.inj since
          refine ⟨later, ?_⟩
          omega
        · rw [← remembers.hwnd]
          exact known
        · have x := remembers.x.symm.trans knownX
          have y := remembers.y.symm.trans knownY
          have ⟨start, isStart, startX⟩ := Option.map_eq_some_iff.mp x
          rw [isStart] at y
          rw [← startX, ← Option.some.inj y] at inside
          exact ⟨position, start, placed, isStart, inside⟩
      · have ⟨_, _, _, _, _, same⟩ := drag
        rw [same] at double
        cases double
  | flushDue now => exact absurd (flush_due_plain _ now row member).1 silent
  | flushPending => exact absurd (flush_pending_plain _ row member).1 silent
  | resetAfterBoundary => cases member
  | resyncActiveButtons isButtonDown => cases member

theorem rows_once {metrics : MouseMetrics} {before : List MouseCall}
    (fits : machine.AllSteps (fun state call => call.Fits state) (.new metrics) before)
    (call : MouseCall) :
    ((rowsAt metrics before call).filterMap doubleClickedButton).Nodup ∧
      ((rowsAt metrics before call).filterMap draggedButton).Nodup := by
  have silent : ∀ {rows : List Captured},
      (∀ row ∈ rows, doubleClickedButton row = none ∧ draggedButton row = none) →
      (rows.filterMap doubleClickedButton).Nodup ∧ (rows.filterMap draggedButton).Nodup := by
    intro rows plain
    rw [List.filterMap_eq_nil_iff.mpr fun row member => (plain row member).1,
      List.filterMap_eq_nil_iff.mpr fun row member => (plain row member).2]
    exact ⟨List.nodup_nil, List.nodup_nil⟩
  cases call with
  | raw input => exact on_raw_mouse_once (run_named fits) input
  | flushDue now => exact silent (flush_due_plain _ now)
  | flushPending => exact silent (flush_pending_plain _)
  | resetAfterBoundary => exact silent (by simp [rowsAt, machine])
  | resyncActiveButtons isButtonDown => exact silent (by simp [rowsAt, machine])

theorem dragged_once {metrics : MouseMetrics} {calls : List MouseCall}
    (fits : machine.AllSteps (fun state call => call.Fits state) (.new metrics) calls)
    {button : MouseButton} {early span rest otherSpan otherRest : List MouseCall}
    {press release otherPress otherRelease : RawInput} {row otherRow : Captured}
    (split : calls = early ++ span ++ rest) (otherSplit : calls = early ++ otherSpan ++ otherRest)
    (drag : Dragged metrics button early press release span row)
    (otherDrag : Dragged metrics button early otherPress otherRelease otherSpan otherRow) :
    span = otherSpan ∧ row = otherRow := by
  rw [split, List.append_assoc, List.append_assoc] at otherSplit
  have same := hold_unique drag.hold otherDrag.hold (List.append_cancel_left otherSplit)
  have sameRelease : MouseCall.raw release = .raw otherRelease := by
    apply Option.some.inj
    rw [← drag.hold.last, ← otherDrag.hold.last, same]
  have emitted := otherDrag.emitted
  rw [← same, ← sameRelease] at emitted
  refine ⟨same, picked_once (rows_once ?_ _).2 drag.emitted emitted drag.names otherDrag.names⟩
  have ⟨front, whole⟩ := List.getLast?_eq_some_iff.mp drag.hold.last
  rw [split, whole, ← List.append_assoc, List.append_assoc _ _ rest] at fits
  rw [whole, List.dropLast_concat]
  exact ((machine.all_steps_append _ _ _ _).mp fits).1

theorem gap_prefix {metrics : MouseMetrics} {history gap otherGap rest otherRest : List MouseCall}
    {second other : RawInput} {row : Captured} {button : MouseButton}
    (same : gap ++ .raw second :: rest = otherGap ++ .raw other :: otherRest)
    (emitted : row ∈ rowsAt metrics (history ++ gap) (.raw second))
    (names : doubleClickedButton row = some button)
    (alone : NoDoubleClick metrics history otherGap) : otherGap.length ≤ gap.length := by
  by_contra longer
  rcases List.append_eq_append_iff.mp same with ⟨more, split, tail⟩ | ⟨more, split, _⟩
  · cases more with
    | nil =>
        rw [split, List.append_nil] at longer
        omega
    | cons first more =>
        have head : MouseCall.raw second = first := (List.cons_eq_cons.mp tail).1
        rw [← head] at split
        have nothing := alone gap (.raw second) more split row emitted
        rw [names] at nothing
        cases nothing
  · rw [split, List.length_append] at longer
    omega

theorem double_clicked_once {metrics : MouseMetrics} {calls : List MouseCall}
    (fits : machine.AllSteps (fun state call => call.Fits state) (.new metrics) calls)
    {button : MouseButton} {early span gap rest otherSpan otherGap otherRest : List MouseCall}
    {press release second otherPress otherRelease otherSecond : RawInput}
    {row otherRow : Captured}
    (split : calls = early ++ span ++ gap ++ .raw second :: rest)
    (otherSplit : calls = early ++ otherSpan ++ otherGap ++ .raw otherSecond :: otherRest)
    (double : DoubleClicked metrics button early press release span gap second row)
    (otherDouble : DoubleClicked metrics button early otherPress otherRelease otherSpan otherGap
      otherSecond otherRow) :
    span = otherSpan ∧ gap = otherGap ∧ row = otherRow := by
  have whole := split.symm.trans otherSplit
  simp only [List.append_assoc] at whole
  have same := hold_unique double.clicked.hold otherDouble.clicked.hold
    (List.append_cancel_left whole)
  rw [← same] at whole otherDouble
  have after := List.append_cancel_left (List.append_cancel_left whole)
  have length : gap.length = otherGap.length := by
    apply Nat.le_antisymm
    · exact gap_prefix after.symm otherDouble.emitted otherDouble.names double.alone
    · exact gap_prefix after double.emitted double.names otherDouble.alone
  have ⟨sameGap, sameRest⟩ := List.append_inj after length
  have emitted := otherDouble.emitted
  rw [← sameGap, ← (List.cons_eq_cons.mp sameRest).1] at emitted
  rw [split] at fits
  have once := (rows_once ((machine.all_steps_append _ _ _ _).mp fits).1 (.raw second)).1
  exact ⟨same, sameGap, picked_once once double.emitted emitted double.names otherDouble.names⟩

/-- Movement is conserved and rows come in order; a drag sums the movements from its press to its
release, and a press has at most one; a double click completes one earlier click, which ended
without a drag and did not begin with a double click, and no other completes that click. -/
theorem mouse_rows_conserve_and_pair (metrics : MouseMetrics) {calls : List MouseCall}
    (ordered : InOrder calls)
    (fits : machine.AllSteps (fun state call => call.Fits state) (.new metrics) calls) :
    (rowsAmount (machine.outputs (.new metrics) calls).flatten +
        (machine.run (.new metrics) calls).pendingAmount = deltasAmount (.new metrics) calls ∧
      (rowTimes (machine.outputs (.new metrics) calls).flatten).Pairwise fun time next =>
        time ≤ next) ∧
    (∀ before call after row button, calls = before ++ call :: after →
      row ∈ rowsAt metrics before call → draggedButton row = some button →
      ∃ early press release span, before ++ [call] = early ++ span ∧
        Dragged metrics button early press release span row) ∧
    (∀ button early span rest press release row otherSpan otherRest otherPress otherRelease
        otherRow, calls = early ++ span ++ rest → calls = early ++ otherSpan ++ otherRest →
      Dragged metrics button early press release span row →
      Dragged metrics button early otherPress otherRelease otherSpan otherRow →
      span = otherSpan ∧ row = otherRow) ∧
    (∀ before call after row button, calls = before ++ call :: after →
      row ∈ rowsAt metrics before call → doubleClickedButton row = some button →
      ∃ early press release span gap second, before = early ++ span ++ gap ∧
        call = .raw second ∧
        DoubleClicked metrics button early press release span gap second row) ∧
    (∀ button early span gap rest press release second row otherSpan otherGap otherRest otherPress
        otherRelease otherSecond otherRow,
      calls = early ++ span ++ gap ++ .raw second :: rest →
      calls = early ++ otherSpan ++ otherGap ++ .raw otherSecond :: otherRest →
      DoubleClicked metrics button early press release span gap second row →
      DoubleClicked metrics button early otherPress otherRelease otherSpan otherGap otherSecond
        otherRow →
      span = otherSpan ∧ gap = otherGap ∧ row = otherRow) ∧
    ∀ before call after, calls = before ++ call :: after →
      ((rowsAt metrics before call).filterMap doubleClickedButton).Nodup ∧
        ((rowsAt metrics before call).filterMap draggedButton).Nodup := by
  have upTo : ∀ {before call after}, calls = before ++ call :: after →
      machine.AllSteps (fun state call => call.Fits state) (.new metrics) (before ++ [call]) := by
    intro before call after split
    rw [split, ← List.singleton_append, ← List.append_assoc] at fits
    exact ((machine.all_steps_append _ _ _ _).mp fits).1
  have earlier : ∀ {before call after}, calls = before ++ call :: after →
      machine.AllSteps (fun state call => call.Fits state) (.new metrics) before :=
    fun split => ((machine.all_steps_append _ _ _ _).mp (upTo split)).1
  refine ⟨⟨?_, ?_⟩, ?_, ?_, ?_, ?_, ?_⟩
  · exact (run_amount fits).trans (zero_add _)
  · have ⟨earliest, later⟩ :=
      Stamps.exists_earliest Instant.nanos (calls.filterMap MouseCall.time)
    have inTime : (MouseState.new metrics).InTime earliest earliest := by
      refine ⟨le_rfl, ?_⟩
      intro pending isPending
      cases isPending
    exact (run_times calls inTime ordered later).1
  · intro before call after row button split member dragged
    exact drag_row_held (upTo split) member dragged
  · intros _ _ _ _ _ _ _ _ _ _ _ _ split otherSplit drag otherDrag
    exact dragged_once fits split otherSplit drag otherDrag
  · intro before call after row button split member double
    exact double_click_row_completes (earlier split) member double
  · intros _ _ _ _ _ _ _ _ _ _ _ _ _ _ _ _ split otherSplit double otherDouble
    exact double_clicked_once fits split otherSplit double otherDouble
  · intro before call after split
    exact rows_once (earlier split) call

end MouseState

end Pairs

private abbrev axisDistance : Hypot :=
  ⟨fun movement => UInt64.ofNat (max movement.dx.toInt.natAbs movement.dy.toInt.natAbs)⟩

private def deskMetrics : MouseMetrics := ⟨200000000, 500000000, ⟨4, 4⟩, ⟨4, 4⟩⟩

/-- Left button down (1) or up (2) at one place. -/
private def leftTurn (buttonFlags : UInt16) (hwnd : UInt64) (nanos : Int) : RawInput :=
  ⟨⟨0, buttonFlags, 0, 0, 0⟩, some ⟨hwnd, "app.exe", "", 1⟩, some ⟨10, 10⟩, ⟨0, 0, 640, 480⟩,
    ⟨nanos⟩⟩

private def twoClicks : List MouseCall :=
  [.raw (leftTurn 1 1 0), .raw (leftTurn 2 1 5), .raw (leftTurn 1 1 9)]

theorem mouse_rows_conserve_and_pair_two_clicks :
    ∃ early press release span gap second,
      twoClicks.take 2 = early ++ span ++ gap ∧ MouseCall.raw (leftTurn 1 1 9) = .raw second ∧
        @MouseState.DoubleClicked axisDistance deskMetrics .left early press release span gap
          second (doubleClickRow (leftTurn 1 1 9) none .left 0) := by
  apply (@MouseState.mouse_rows_conserve_and_pair axisDistance deskMetrics twoClicks
    (by unfold InOrder; decide) ?_).2.2.2.1 (twoClicks.take 2) (.raw (leftTurn 1 1 9)) []
  · rfl
  · decide
  · rfl
  · refine ⟨?_, ?_, ?_, trivial⟩ <;> intro movement moved <;> cases moved

/-- A press in one window released in another is completed in the other. -/
theorem double_click_of_other_window :
    (@MouseState.rowsAt axisDistance deskMetrics
        [.raw (leftTurn 1 1 0), .raw (leftTurn 2 2 5)] (.raw (leftTurn 1 2 9))) =
      [clickRow (leftTurn 1 2 9) none .left,
        doubleClickRow (leftTurn 1 2 9) none .left 0] ∧
    (@MouseState.machine axisDistance).outputs (.new deskMetrics)
        [.raw (leftTurn 1 1 0), .raw (leftTurn 2 2 5)] =
      [[clickRow (leftTurn 1 1 0) none .left], []] := by
  decide

end Gilbreth.Windows
