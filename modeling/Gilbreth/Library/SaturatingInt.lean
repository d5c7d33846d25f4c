import Mathlib.Order.MinMax

/-!
# Integers between two bounds, with saturating arithmetic

A value is an integer together with the proof that it lies between the bounds,
so an out-of-range machine word cannot be built. Addition and subtraction clamp
the exact result, as saturating machine arithmetic does. The bounds are
parameters; `lo ≤ hi` is read off the operands and never assumed.
-/

set_option autoImplicit false

@[ext]
structure SatInt (lo hi : Int) where
  val : Int
  lower : lo ≤ val
  upper : val ≤ hi
deriving DecidableEq

namespace SatInt

variable {lo hi : Int}

instance : LinearOrder (SatInt lo hi) := LinearOrder.lift' val fun _ _ same => SatInt.ext same

theorem le_iff {left right : SatInt lo hi} : left ≤ right ↔ left.val ≤ right.val := Iff.rfl

theorem lt_iff {left right : SatInt lo hi} : left < right ↔ left.val < right.val := Iff.rfl

@[simp] theorem val_max (left right : SatInt lo hi) :
    (max left right).val = max left.val right.val := by
  rcases le_total left right with below | below
  · rw [max_eq_right below, max_eq_right (le_iff.mp below)]
  · rw [max_eq_left below, max_eq_left (le_iff.mp below)]

theorem val_min (left right : SatInt lo hi) :
    (min left right).val = min left.val right.val := by
  rcases le_total left right with below | below
  · rw [min_eq_left below, min_eq_left (le_iff.mp below)]
  · rw [min_eq_right below, min_eq_right (le_iff.mp below)]

/-- The value nearest to an exact result. -/
def clamp (bounds : lo ≤ hi) (exact : Int) : SatInt lo hi where
  val := max lo (min hi exact)
  lower := le_max_left _ _
  upper := max_le bounds (min_le_left _ _)

theorem clamp_of_mem (bounds : lo ≤ hi) {exact : Int} (above : lo ≤ exact) (below : exact ≤ hi) :
    (clamp bounds exact).val = exact := by
  simp only [clamp, min_eq_right below, max_eq_right above]

theorem clamp_mono (bounds : lo ≤ hi) {small large : Int} (ordered : small ≤ large) :
    clamp bounds small ≤ clamp bounds large :=
  max_le_max le_rfl (min_le_min le_rfl ordered)

theorem range_nonempty (value : SatInt lo hi) : lo ≤ hi := value.lower.trans value.upper

def satAdd (left right : SatInt lo hi) : SatInt lo hi :=
  clamp left.range_nonempty (left.val + right.val)

def satSub (left right : SatInt lo hi) : SatInt lo hi :=
  clamp left.range_nonempty (left.val - right.val)

theorem val_sat_add (left right : SatInt lo hi) :
    (left.satAdd right).val = max lo (min hi (left.val + right.val)) := rfl

theorem val_sat_sub (left right : SatInt lo hi) :
    (left.satSub right).val = max lo (min hi (left.val - right.val)) := rfl

theorem sat_add_le_sat_add (left : SatInt lo hi) {small large : SatInt lo hi}
    (ordered : small ≤ large) : left.satAdd small ≤ left.satAdd large :=
  clamp_mono _ (by have := le_iff.mp ordered; omega)

theorem sat_sub_le_sat_sub (left : SatInt lo hi) {small large : SatInt lo hi}
    (ordered : small ≤ large) : left.satSub large ≤ left.satSub small :=
  clamp_mono _ (by have := le_iff.mp ordered; omega)

theorem le_sat_add (left right : SatInt lo hi) (nonneg : 0 ≤ right.val) :
    left ≤ left.satAdd right := by
  rw [le_iff, val_sat_add]
  have above := left.lower
  have below := left.upper
  omega

theorem sat_sub_le (left right : SatInt lo hi) (nonneg : 0 ≤ right.val) :
    left.satSub right ≤ left := by
  rw [le_iff, val_sat_sub]
  have above := left.lower
  have below := left.upper
  omega

end SatInt
