import Mathlib

/-!
# Seconds and minutes in two places

The readers divide milliseconds by a thousand or by sixty thousand in doubles and round
the quotient to two places as pandas does. Every step keeps the order of what it is
given; it does not keep two times apart.
-/

set_option autoImplicit false

namespace Gilbreth.Read

/-- The operations of `f64` the readers use on finite values. Each gives the double nearest to
the exact result, so none of them turns an order around. -/
class Doubles where
  Double : Type
  [linearOrder : LinearOrder Double]
  ofInt : Int → Double
  divide : Double → Nat → Double
  multiply : Double → Nat → Double
  roundTiesEven : Double → Double
  of_int_mono : Monotone ofInt
  divide_mono : ∀ unit, 0 < unit → Monotone fun value => divide value unit
  multiply_mono : ∀ factor, Monotone fun value => multiply value factor
  round_ties_even_mono : Monotone roundTiesEven

attribute [reducible, instance] Doubles.linearOrder

section Rounded

variable [Doubles]

open Doubles in
def pandasRound2dp (value : Double) : Double :=
  divide (roundTiesEven (multiply value 100)) 100

/-- `pandas_round_2dp(ms as f64 / 1000.0)` -/
def roundedSeconds (ms : Int) : Doubles.Double :=
  pandasRound2dp (Doubles.divide (Doubles.ofInt ms) 1000)

/-- `pandas_round_2dp(ms as f64 / 60_000.0)` -/
def roundedMinutes (ms : Int) : Doubles.Double :=
  pandasRound2dp (Doubles.divide (Doubles.ofInt ms) 60000)

theorem pandas_round_2dp_mono : Monotone pandasRound2dp := by
  intro left right ordered
  have multiplied := Doubles.multiply_mono 100 ordered
  exact Doubles.divide_mono 100 (by decide) (Doubles.round_ties_even_mono multiplied)

theorem rounded_seconds_mono : Monotone roundedSeconds := by
  intro left right ordered
  exact pandas_round_2dp_mono
    (Doubles.divide_mono 1000 (by decide) (Doubles.of_int_mono ordered))

end Rounded

section Exact

/-- The nearest integer, the even one of two as near. -/
def roundHalfEven (value : Rat) : Int :=
  if value - value.floor < 1 / 2 then value.floor
  else if 1 / 2 < value - value.floor then value.floor + 1
  else if value.floor % 2 = 0 then value.floor
  else value.floor + 1

theorem round_half_even_bounds (value : Rat) :
    value.floor ≤ roundHalfEven value ∧ roundHalfEven value ≤ value.floor + 1 := by
  unfold roundHalfEven
  split_ifs <;> omega

theorem round_half_even_mono : Monotone roundHalfEven := by
  intro left right ordered
  have floors : left.floor ≤ right.floor := Rat.floor_monotone ordered
  have above := (round_half_even_bounds left).2
  have below := (round_half_even_bounds right).1
  rcases floors.lt_or_eq with less | same
  · omega
  · unfold roundHalfEven
    rw [same]
    split_ifs <;> first | omega | linarith

/-- Exact arithmetic, with which doubles agree as long as a quotient is not within their
precision of a tie. -/
@[reducible] def exactDoubles : Doubles where
  Double := Rat
  ofInt value := value
  divide value unit := value / unit
  multiply value factor := value * factor
  roundTiesEven value := roundHalfEven value
  of_int_mono _ _ ordered := Int.cast_le.mpr ordered
  divide_mono unit _ _ _ ordered := div_le_div_of_nonneg_right ordered (Nat.cast_nonneg unit)
  multiply_mono factor _ _ ordered := mul_le_mul_of_nonneg_right ordered (Nat.cast_nonneg factor)
  round_ties_even_mono _ _ ordered := Int.cast_le.mpr (round_half_even_mono ordered)

end Exact

end Gilbreth.Read
