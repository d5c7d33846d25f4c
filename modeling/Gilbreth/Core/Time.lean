import Gilbreth.Library.SaturatingInt

/-!
# Instants, durations and millisecond timestamps

An `Instant` counts nanoseconds on the monotonic clock from an unspecified
origin, so it may be negative and only differences carry meaning. A duration is
a natural number of nanoseconds. Timestamps are signed 64-bit milliseconds with
saturating arithmetic.
-/

set_option autoImplicit false

namespace Gilbreth.Core

abbrev I64 := SatInt (-9223372036854775808) 9223372036854775807

namespace I64

def minimum : I64 := ⟨-9223372036854775808, by decide, by decide⟩

def maximum : I64 := ⟨9223372036854775807, by decide, by decide⟩

/-- The machine word nearest to an integer. -/
def ofInt (value : Int) : I64 := SatInt.clamp (by decide) value

end I64

structure Instant where
  nanos : Int
deriving DecidableEq

def millisecond : Nat := 1000000

/-- `i64::try_from(duration.as_millis()).unwrap_or(i64::MAX)`. -/
def durationMsI64 (duration : Nat) : I64 := I64.ofInt (duration / millisecond : Nat)

/-- `i64::try_from(value).unwrap_or(i64::MAX)`. -/
def u64ToI64 (value : Nat) : I64 := I64.ofInt value

/-- `later.checked_duration_since(earlier)`. -/
def checkedDurationSince (later earlier : Instant) : Option Nat :=
  if earlier.nanos ≤ later.nanos then some (later.nanos - earlier.nanos).toNat else none

/-- `later.saturating_duration_since(earlier)`. -/
def saturatingDurationSince (later earlier : Instant) : Nat :=
  (later.nanos - earlier.nanos).toNat

/-- `u64::try_from(duration.as_millis()).unwrap_or(u64::MAX)`. -/
def durationMs (duration : Nat) : UInt64 :=
  UInt64.ofNat (min (duration / millisecond) 18446744073709551615)

/-- `unix_now_ms` on a reading of `SystemTime::now().duration_since(UNIX_EPOCH)`,
which fails before the epoch and is then taken as zero. -/
def unixNowMs (elapsed : Option Nat) : I64 := durationMsI64 (elapsed.getD 0)

theorem duration_ms_val (duration : Nat) :
    (durationMsI64 duration).val = min 9223372036854775807 ((duration / 1000000 : Nat) : Int) := by
  simp only [durationMsI64, I64.ofInt, SatInt.clamp, millisecond]
  omega

theorem duration_ms_nonneg (duration : Nat) : 0 ≤ (durationMsI64 duration).val := by
  rw [duration_ms_val]
  omega

theorem duration_ms_mono {short long : Nat} (ordered : short ≤ long) :
    durationMsI64 short ≤ durationMsI64 long := by
  rw [SatInt.le_iff, duration_ms_val, duration_ms_val]
  omega

@[simp] theorem duration_ms_zero : (durationMsI64 0).val = 0 := by
  decide

theorem duration_ms_to_nat (duration : Nat) :
    (durationMs duration).toNat = min (duration / 1000000) 18446744073709551615 := by
  rw [durationMs, UInt64.toNat_ofNat_of_lt']
  · rfl
  · have bounded := Nat.min_le_right (duration / millisecond) 18446744073709551615
    rw [UInt64.size]
    omega

theorem unix_now_nonneg (elapsed : Option Nat) : 0 ≤ (unixNowMs elapsed).val :=
  duration_ms_nonneg _

end Gilbreth.Core
