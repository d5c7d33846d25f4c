import Mathlib
import Gilbreth.Library.Stamps
import Gilbreth.Windows.MouseState

/-!
# Movement is conserved

Every movement a raw event produces goes once into the pending row, and the pending row goes
out whole. Nothing else touches it, and what goes out is stamped in order.
-/

set_option autoImplicit false

namespace Gilbreth.Windows

open Gilbreth.Core (Captured Instant InputOrigin MouseButton EventPayload saturatingDurationSince)

/-- `dx`, `dy`, distance and number of raw events. -/
abbrev MoveAmount := Int × Int × Nat × Nat

def MouseTotals.amount (totals : MouseTotals) : MoveAmount :=
  (totals.dxTotal.toInt, totals.dyTotal.toInt, totals.distancePx.toNat,
    totals.rawEventCount.toNat)

/-- What a `MouseMove` row reports; nothing in any other row. -/
def rowAmount (row : Captured) : MoveAmount :=
  match row.payload with
  | .mouseMove dx dy distance count _ _ _ _ _ =>
      (dx.toInt, dy.toInt, distance.toNat, count.toNat)
  | _ => 0

def rowsAmount (rows : List Captured) : MoveAmount := (rows.map rowAmount).sum

def MouseState.pendingAmount (state : MouseState) : MoveAmount :=
  (state.pendingMove.map fun pending => pending.totals.amount).getD 0

theorem saturating_add_i64_exact {total amount : Int64}
    (lower : -9223372036854775808 ≤ total.toInt + amount.toInt)
    (upper : total.toInt + amount.toInt ≤ 9223372036854775807) :
    (saturatingAddI64 total amount).toInt = total.toInt + amount.toInt := by
  unfold saturatingAddI64
  rw [min_eq_right upper, max_eq_right lower]
  exact Int64.toInt_ofInt_of_le (by omega) (by omega)

theorem saturating_add_u64_exact {total amount : UInt64}
    (upper : total.toNat + amount.toNat ≤ 18446744073709551615) :
    (saturatingAddU64 total amount).toNat = total.toNat + amount.toNat := by
  unfold saturatingAddU64
  rw [min_eq_left upper, UInt64.toNat_ofNat']
  omega

section Movement

variable [Hypot]

def MouseMovement.amount (movement : MouseMovement) : MoveAmount :=
  (movement.dx.toInt, movement.dy.toInt, (Hypot.distancePx movement).toNat, 1)

/-- No counter saturates when the movement is added. -/
structure MouseTotals.Fits (totals : MouseTotals) (movement : MouseMovement) : Prop where
  dxLower : -9223372036854775808 ≤ totals.dxTotal.toInt + movement.dx.toInt
  dxUpper : totals.dxTotal.toInt + movement.dx.toInt ≤ 9223372036854775807
  dyLower : -9223372036854775808 ≤ totals.dyTotal.toInt + movement.dy.toInt
  dyUpper : totals.dyTotal.toInt + movement.dy.toInt ≤ 9223372036854775807
  distance : totals.distancePx.toNat + (Hypot.distancePx movement).toNat ≤ 18446744073709551615
  count : totals.rawEventCount.toNat + 1 ≤ 18446744073709551615

theorem totals_add_amount {totals : MouseTotals} {movement : MouseMovement}
    (fits : totals.Fits movement) :
    (totals.add movement).amount = totals.amount + movement.amount := by
  have one : (1 : UInt64).toNat = 1 := rfl
  simp only [MouseTotals.add, MouseTotals.amount, MouseMovement.amount, Prod.mk_add_mk,
    saturating_add_i64_exact fits.dxLower fits.dxUpper,
    saturating_add_i64_exact fits.dyLower fits.dyUpper, saturating_add_u64_exact fits.distance]
  rw [saturating_add_u64_exact (by rw [one]; exact fits.count), one]

theorem zero_fits (movement : MouseMovement) : MouseTotals.zero.Fits movement := by
  have dxLower := movement.dx.le_toInt
  have dxUpper := movement.dx.toInt_lt
  have dyLower := movement.dy.le_toInt
  have dyUpper := movement.dy.toInt_lt
  have distance := (Hypot.distancePx movement).toNat_lt
  have zeroInt : (0 : Int64).toInt = 0 := rfl
  have zeroNat : (0 : UInt64).toNat = 0 := rfl
  constructor <;> simp only [MouseTotals.zero, zeroInt, zeroNat] <;> omega

/-- What the movement of a raw event adds. -/
def MouseState.deltaAmount (state : MouseState) : MouseCall → MoveAmount
  | .raw input => ((state.delta input).map MouseMovement.amount).getD 0
  | _ => 0

/-- The movement fits in the pending row and in every held button. -/
def MouseCall.Fits (state : MouseState) : MouseCall → Prop
  | .raw input => ∀ movement, state.delta input = some movement →
      (∀ pending, state.pendingMove = some pending → pending.totals.Fits movement) ∧
        ∀ button active, state.activeButtons button = some active → active.totals.Fits movement
  | _ => True

end Movement

theorem rows_amount_append (rows later : List Captured) :
    rowsAmount (rows ++ later) = rowsAmount rows + rowsAmount later := by
  rw [rowsAmount, List.map_append, List.sum_append]
  rfl

def rowTimes (rows : List Captured) : List Int := rows.map fun row => row.capturedAt.nanos

/-- Rows of presses, wheels and releases follow; the pending row stays. -/
structure Follows (time : Instant) (found next : MouseState × List Captured) : Prop where
  pending : next.1.pendingMove = found.1.pendingMove
  rows : ∃ added, next.2 = found.2 ++ added ∧
    ∀ row ∈ added, row.capturedAt = time ∧ rowAmount row = 0

theorem follows_refl (time : Instant) (found : MouseState × List Captured) :
    Follows time found found := ⟨rfl, [], by simp, by simp⟩

theorem follows_trans {time : Instant} {found middle next : MouseState × List Captured}
    (first : Follows time found middle) (second : Follows time middle next) :
    Follows time found next := by
  rcases first with ⟨firstPending, added, firstRows, firstStamped⟩
  rcases second with ⟨secondPending, more, secondRows, secondStamped⟩
  refine ⟨secondPending.trans firstPending, added ++ more, ?_, ?_⟩
  · rw [secondRows, firstRows, List.append_assoc]
  · intro row member
    rcases List.mem_append.mp member with early | late
    · exact firstStamped row early
    · exact secondStamped row late

theorem follows_fold {Item : Type} {time : Instant}
    {turn : MouseState × List Captured → Item → MouseState × List Captured}
    (one : ∀ found item, Follows time found (turn found item)) (items : List Item)
    (found : MouseState × List Captured) : Follows time found (items.foldl turn found) := by
  induction items generalizing found with
  | nil => exact follows_refl time found
  | cons item items induction => exact follows_trans (one found item) (induction (turn found item))

theorem press_follows (input : RawInput) (inputOrigin : Option InputOrigin)
    (found : MouseState × List Captured) (button : MouseButton) :
    Follows input.capturedAt found (MouseState.pressButton input inputOrigin found button) := by
  unfold MouseState.pressButton
  dsimp only
  cases found.1.doubleClickIntervalMs button input.position input.window input.capturedAt with
  | none => exact ⟨rfl, _, rfl, by simp [rowAmount]⟩
  | some intervalMs => exact ⟨rfl, _, rfl, by simp [rowAmount]⟩

theorem release_follows (input : RawInput) (inputOrigin : Option InputOrigin)
    (found : MouseState × List Captured) (button : MouseButton) :
    Follows input.capturedAt found (MouseState.releaseButton input inputOrigin found button) := by
  unfold MouseState.releaseButton
  cases found.1.activeButtons button with
  | none => exact follows_refl _ found
  | some active =>
      dsimp only
      split_ifs
      · exact ⟨rfl, _, rfl, by simp [ActiveMouseButton.intoDrag, rowAmount]⟩
      · exact ⟨rfl, [], by simp, by simp⟩
      · exact ⟨rfl, [], by simp, by simp⟩

theorem wheel_follows (input : RawInput) (inputOrigin : Option InputOrigin)
    (found : MouseState × List Captured) :
    Follows input.capturedAt found
      (found.1, found.2 ++ MouseState.wheelRows input inputOrigin) := by
  refine ⟨rfl, _, rfl, ?_⟩
  unfold MouseState.wheelRows
  intro row member
  rcases List.mem_append.mp member with vertical | horizontal
  · split_ifs at vertical
    · rw [List.mem_singleton.mp vertical]
      exact ⟨rfl, rfl⟩
    · cases vertical
  · split_ifs at horizontal
    · rw [List.mem_singleton.mp horizontal]
      exact ⟨rfl, rfl⟩
    · cases horizontal

theorem flush_pending_amount (state : MouseState) :
    rowsAmount state.flushPending.2 + state.flushPending.1.pendingAmount = state.pendingAmount := by
  unfold MouseState.flushPending MouseState.pendingAmount
  cases state.pendingMove with
  | none => rfl
  | some pending => simp [rowsAmount, rowAmount, PendingMouseMove.intoCaptured, MouseTotals.amount]

theorem flush_due_amount (state : MouseState) (now : Instant) :
    rowsAmount (state.flushDue now).2 + (state.flushDue now).1.pendingAmount =
      state.pendingAmount := by
  have unchanged : rowsAmount [] + state.pendingAmount = state.pendingAmount := zero_add _
  unfold MouseState.flushDue
  cases state.pendingMove with
  | none => exact unchanged
  | some pending =>
      dsimp only
      split_ifs
      · exact unchanged
      · exact flush_pending_amount state

theorem update_input_origin_frame (state : MouseState) (raw : RawMouseEvent)
    (position : Option MousePosition) (screen : VirtualScreenSnapshot) :
    (state.updateInputOrigin raw position screen).1.pendingMove = state.pendingMove ∧
      (state.updateInputOrigin raw position screen).1.activeButtons = state.activeButtons ∧
      (state.updateInputOrigin raw position screen).1.lastCompletedClick =
        state.lastCompletedClick ∧
      (state.updateInputOrigin raw position screen).1.metrics = state.metrics := by
  unfold MouseState.updateInputOrigin
  dsimp only
  split_ifs <;> exact ⟨rfl, rfl, rfl, rfl⟩

section Calls

variable [Hypot]

/-- The flush that a raw event begins with. -/
def MouseState.flushMoved (state : MouseState) (input : RawInput) :
    MouseState × List Captured :=
  if input.raw.hasDiscreteInput then (state.moved input).flushPending
  else (state.moved input).flushDue input.capturedAt

theorem on_raw_mouse_follows (state : MouseState) (input : RawInput) :
    Follows input.capturedAt (state.flushMoved input) (state.onRawMouse input) := by
  unfold MouseState.onRawMouse
  dsimp only
  have pressed := follows_fold (press_follows input
    (state.updateInputOrigin input.raw input.position input.screen).2) input.raw.downButtons
    (state.flushMoved input)
  have wheeled := wheel_follows input
    (state.updateInputOrigin input.raw input.position input.screen).2
    (input.raw.downButtons.foldl (MouseState.pressButton input
      (state.updateInputOrigin input.raw input.position input.screen).2) (state.flushMoved input))
  exact follows_trans pressed (follows_trans wheeled
    (follows_fold (release_follows input _) input.raw.upButtons _))

theorem moved_amount {state : MouseState} {input : RawInput}
    (fits : (MouseCall.raw input).Fits state) :
    (state.moved input).pendingAmount = state.pendingAmount + state.deltaAmount (.raw input) := by
  have frame := update_input_origin_frame state input.raw input.position input.screen
  unfold MouseState.moved MouseState.deltaAmount
  dsimp only
  cases delta : state.delta input with
  | none =>
      unfold MouseState.pendingAmount
      dsimp only
      rw [frame.1]
      exact (add_zero _).symm
  | some movement =>
      have fitted := fits movement delta
      unfold MouseState.record MouseState.pendingAmount
      dsimp only
      rw [frame.1]
      cases pending : state.pendingMove with
      | none =>
          change (MouseTotals.zero.add movement).amount = 0 + movement.amount
          rw [totals_add_amount (zero_fits movement)]
          rfl
      | some pendingMove => exact totals_add_amount (fitted.1 pendingMove pending)

/-- One step: what goes out and what is pending is what was pending and what moved. -/
theorem step_amount {state : MouseState} {call : MouseCall} (fits : call.Fits state) :
    rowsAmount (MouseState.machine.step state call).2 +
        (MouseState.machine.step state call).1.pendingAmount =
      state.pendingAmount + state.deltaAmount call := by
  cases call with
  | raw input =>
      have ⟨pending, added, rows, stamped⟩ := on_raw_mouse_follows state input
      have silent : rowsAmount added = 0 := by
        apply List.sum_eq_zero
        intro amount member
        have ⟨row, among, same⟩ := List.mem_map.mp member
        rw [← same]
        exact (stamped row among).2
      change rowsAmount (state.onRawMouse input).2 + (state.onRawMouse input).1.pendingAmount = _
      rw [rows, rows_amount_append, silent, add_zero, ← moved_amount fits]
      have same : (state.onRawMouse input).1.pendingAmount =
          (state.flushMoved input).1.pendingAmount := by
        unfold MouseState.pendingAmount
        rw [pending]
      rw [same]
      unfold MouseState.flushMoved
      split_ifs
      · exact flush_pending_amount (state.moved input)
      · exact flush_due_amount (state.moved input) input.capturedAt
  | flushDue now => exact (flush_due_amount state now).trans (add_zero _).symm
  | flushPending => exact (flush_pending_amount state).trans (add_zero _).symm
  | resetAfterBoundary => exact (zero_add _).trans (add_zero _).symm
  | resyncActiveButtons isButtonDown => exact (zero_add _).trans (add_zero _).symm

def deltasAmount (state : MouseState) : List MouseCall → MoveAmount
  | [] => 0
  | call :: rest =>
      state.deltaAmount call + deltasAmount (MouseState.machine.step state call).1 rest

theorem run_amount {state : MouseState} {calls : List MouseCall}
    (fits : MouseState.machine.AllSteps (fun state call => call.Fits state) state calls) :
    rowsAmount (MouseState.machine.outputs state calls).flatten +
        (MouseState.machine.run state calls).pendingAmount =
      state.pendingAmount + deltasAmount state calls := by
  induction calls generalizing state with
  | nil => exact (zero_add _).trans (add_zero _).symm
  | cons call rest induction =>
      have step := step_amount fits.1
      have later := induction fits.2
      rw [Machine.outputs_cons, List.flatten_cons, rows_amount_append, Machine.run_cons, add_assoc,
        later, ← add_assoc, step, deltasAmount, add_assoc]

theorem on_raw_mouse_quiet {input : RawInput} (state : MouseState)
    (quiet : input.raw.hasDiscreteInput = false) :
    state.onRawMouse input = state.flushMoved input := by
  simp only [RawMouseEvent.hasDiscreteInput, Bool.or_eq_false_iff, Bool.not_eq_false',
    List.isEmpty_iff] at quiet
  have ⟨⟨⟨downs, ups⟩, vertical⟩, horizontal⟩ := quiet
  unfold MouseState.onRawMouse MouseState.wheelRows
  simp only [downs, ups, vertical, horizontal, List.foldl_nil, Bool.false_eq_true, if_false,
    List.append_nil]
  rfl

end Calls

/-- The pending row was last added to within the given time. -/
structure MouseState.InTime (earliest now : Int) (state : MouseState) : Prop where
  reached : earliest ≤ now
  pending : ∀ pending, state.pendingMove = some pending →
    earliest ≤ pending.lastAt.nanos ∧ pending.lastAt.nanos ≤ now

/-- A step at a time puts out what lies before the earliest stamp it leaves. -/
def StepInTime (earliest time : Int) (stepped : MouseState × List Captured) : Prop :=
  ∃ middle, earliest ≤ middle ∧ Stamps.Between earliest middle (rowTimes stepped.2) ∧
    stepped.1.InTime middle time

theorem flush_pending_times {earliest now : Int} {state : MouseState}
    (inTime : state.InTime earliest now) :
    Stamps.Between earliest now (rowTimes state.flushPending.2) ∧
      state.flushPending.1.pendingMove = none := by
  unfold MouseState.flushPending
  cases pending : state.pendingMove with
  | none => exact ⟨Stamps.between_nil _ _, rfl⟩
  | some pendingMove =>
      have within := inTime.pending pendingMove pending
      exact ⟨Stamps.between_single within.1 within.2, rfl⟩

theorem emptied_in_time {earliest now : Int} {stepped : MouseState × List Captured}
    (reached : earliest ≤ now) (between : Stamps.Between earliest now (rowTimes stepped.2))
    (emptied : stepped.1.pendingMove = none) : StepInTime earliest now stepped := by
  refine ⟨now, reached, between, le_rfl, ?_⟩
  intro pending isPending
  rw [emptied] at isPending
  cases isPending

theorem flush_pending_in_time {earliest now : Int} {state : MouseState}
    (inTime : state.InTime earliest now) : StepInTime earliest now state.flushPending :=
  emptied_in_time inTime.reached (flush_pending_times inTime).1 (flush_pending_times inTime).2

theorem flush_due_in_time {earliest now : Int} {state : MouseState}
    (inTime : state.InTime earliest now) (time : Instant) :
    StepInTime earliest now (state.flushDue time) := by
  have unchanged : StepInTime earliest now (state, []) :=
    ⟨earliest, le_rfl, Stamps.between_nil _ _, inTime⟩
  unfold MouseState.flushDue
  cases state.pendingMove with
  | none => exact unchanged
  | some pending =>
      dsimp only
      split_ifs
      · exact unchanged
      · exact flush_pending_in_time inTime

section Order

variable [Hypot]

theorem moved_in_time {earliest now : Int} {state : MouseState} {input : RawInput}
    (inTime : state.InTime earliest now) (later : now ≤ input.capturedAt.nanos) :
    (state.moved input).InTime earliest input.capturedAt.nanos := by
  have frame := update_input_origin_frame state input.raw input.position input.screen
  refine ⟨inTime.reached.trans later, ?_⟩
  intro pending isPending
  unfold MouseState.moved at isPending
  dsimp only at isPending
  cases delta : state.delta input with
  | none =>
      rw [delta] at isPending
      dsimp only at isPending
      rw [frame.1] at isPending
      have within := inTime.pending pending isPending
      exact ⟨within.1, within.2.trans later⟩
  | some movement =>
      rw [delta] at isPending
      unfold MouseState.record at isPending
      have now : pending.lastAt = input.capturedAt := by
        rw [← Option.some.inj isPending]
        split <;> rfl
      rw [now]
      exact ⟨inTime.reached.trans later, le_rfl⟩

theorem on_raw_mouse_in_time {earliest now : Int} {state : MouseState} {input : RawInput}
    (inTime : state.InTime earliest now) (later : now ≤ input.capturedAt.nanos) :
    StepInTime earliest input.capturedAt.nanos (state.onRawMouse input) := by
  have moved := moved_in_time inTime later
  cases discrete : input.raw.hasDiscreteInput with
  | false =>
      rw [on_raw_mouse_quiet state discrete]
      unfold MouseState.flushMoved
      rw [if_neg (by rw [discrete]; exact Bool.false_ne_true)]
      exact flush_due_in_time moved input.capturedAt
  | true =>
      have ⟨pending, added, rows, stamped⟩ := on_raw_mouse_follows state input
      have flushed : state.flushMoved input = (state.moved input).flushPending := by
        unfold MouseState.flushMoved
        rw [if_pos discrete]
      have times := flush_pending_times moved
      rw [flushed] at pending rows
      apply emptied_in_time moved.reached
      · unfold rowTimes
        rw [rows, List.map_append]
        apply Stamps.between_append times.1 ?_ moved.reached le_rfl
        apply Stamps.between_same input.capturedAt.nanos le_rfl le_rfl
        intro time member
        have ⟨row, among, same⟩ := List.mem_map.mp member
        rw [← same, (stamped row among).1]
      · rw [pending, times.2]

/-- When a call is made, if it is stamped. -/
def MouseCall.time : MouseCall → Option Instant
  | .raw input => some input.capturedAt
  | .flushDue now => some now
  | _ => none

theorem step_in_time {earliest now : Int} {state : MouseState} (call : MouseCall)
    (inTime : state.InTime earliest now)
    (later : ∀ time, call.time = some time → now ≤ time.nanos) :
    StepInTime earliest ((call.time.map Instant.nanos).getD now)
      (MouseState.machine.step state call) := by
  have unchanged : ∀ next : MouseState, next.pendingMove = state.pendingMove →
      StepInTime earliest now (next, []) := by
    intro next same
    refine ⟨earliest, le_rfl, Stamps.between_nil _ _, inTime.reached, ?_⟩
    intro pending isPending
    exact inTime.pending pending (same.symm.trans isPending)
  cases call with
  | raw input => exact on_raw_mouse_in_time inTime (later _ rfl)
  | flushDue time =>
      have waited : state.InTime earliest time.nanos := by
        refine ⟨inTime.reached.trans (later time rfl), ?_⟩
        intro pending isPending
        have within := inTime.pending pending isPending
        exact ⟨within.1, within.2.trans (later time rfl)⟩
      exact flush_due_in_time waited time
  | flushPending => exact flush_pending_in_time inTime
  | resetAfterBoundary => exact unchanged _ rfl
  | resyncActiveButtons isButtonDown => exact unchanged _ rfl

/-- The stamped calls in the order of time. -/
def InOrder (calls : List MouseCall) : Prop :=
  (calls.filterMap MouseCall.time).Pairwise fun time later => time.nanos ≤ later.nanos

theorem run_times {earliest now : Int} {state : MouseState} (calls : List MouseCall)
    (inTime : state.InTime earliest now) (ordered : InOrder calls)
    (later : ∀ time ∈ calls.filterMap MouseCall.time, now ≤ time.nanos) :
    (rowTimes (MouseState.machine.outputs state calls).flatten).Pairwise (fun time next =>
        time ≤ next) ∧
      ∀ time ∈ rowTimes (MouseState.machine.outputs state calls).flatten, earliest ≤ time := by
  induction calls generalizing earliest now state with
  | nil => exact ⟨List.Pairwise.nil, by simp [rowTimes]⟩
  | cons call rest induction =>
      have head : ∀ time, call.time = some time → now ≤ time.nanos := by
        intro time isTime
        apply later time
        rw [List.filterMap_cons, isTime]
        exact List.mem_cons_self
      have ⟨middle, reached, between, next⟩ := step_in_time call inTime head
      have restOrdered : InOrder rest ∧ ∀ time ∈ rest.filterMap MouseCall.time,
          (call.time.map Instant.nanos).getD now ≤ time.nanos := by
        unfold InOrder at ordered ⊢
        rw [List.filterMap_cons] at ordered later
        cases isTime : call.time with
        | none =>
            rw [isTime] at ordered later
            exact ⟨ordered, later⟩
        | some time =>
            rw [isTime] at ordered
            have ⟨first, ordered⟩ := List.pairwise_cons.mp ordered
            exact ⟨ordered, first⟩
      have whole := induction next restOrdered.1 restOrdered.2
      rw [Machine.outputs_cons, List.flatten_cons]
      unfold rowTimes at whole between ⊢
      rw [List.map_append, List.pairwise_append]
      refine ⟨⟨between.ordered, whole.1, ?_⟩, ?_⟩
      · intro time member other among
        exact (between.within time member).2.trans (whole.2 other among)
      · intro time member
        rcases List.mem_append.mp member with early | late
        · exact (between.within time early).1
        · exact reached.trans (whole.2 time late)

end Order

end Gilbreth.Windows
