import Mathlib.Tactic.Linarith
import Mathlib.Data.List.Basic

/-!
# Little-endian byte strings

A number below `256 ^ width` and its `width` bytes, least significant first,
determine each other.
-/

set_option autoImplicit false

namespace LittleEndian

def encode : Nat → Nat → List UInt8
  | 0, _ => []
  | width + 1, value => UInt8.ofNat (value % 256) :: encode width (value / 256)

def decode : List UInt8 → Nat
  | [] => 0
  | byte :: rest => byte.toNat + 256 * decode rest

@[simp] theorem encode_length (width value : Nat) : (encode width value).length = width := by
  induction width generalizing value with
  | zero => rfl
  | succ width induction => simp only [encode, List.length_cons, induction]

theorem decode_encode {width value : Nat} (fits : value < 256 ^ width) :
    decode (encode width value) = value := by
  induction width generalizing value with
  | zero =>
      simp only [pow_zero, Nat.lt_one_iff] at fits
      simp only [encode, decode, fits]
  | succ width induction =>
      rw [pow_succ] at fits
      have rest : value / 256 < 256 ^ width := by
        apply Nat.div_lt_of_lt_mul
        linarith
      have low : (UInt8.ofNat (value % 256)).toNat = value % 256 := by
        rw [UInt8.toNat_ofNat']
        omega
      simp only [encode, decode, low, induction rest]
      omega

theorem encode_decode (bytes : List UInt8) : encode bytes.length (decode bytes) = bytes := by
  induction bytes with
  | nil => rfl
  | cons byte rest induction =>
      have small : byte.toNat < 256 := byte.toNat_lt
      have low : (byte.toNat + 256 * decode rest) % 256 = byte.toNat := by omega
      have high : (byte.toNat + 256 * decode rest) / 256 = decode rest := by omega
      simp only [List.length_cons, encode, decode, low, high, induction, UInt8.ofNat_toNat]

theorem eq_encode_of_decode {bytes : List UInt8} (width : Nat) {value : Nat}
    (long : bytes.length = width) (decoded : decode bytes = value) :
    bytes = encode width value := by
  rw [← long, ← decoded, encode_decode]

end LittleEndian
