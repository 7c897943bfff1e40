import Mathlib.Data.Nat.Bitwise

/-!
# Bit fields of natural numbers

Identifiers are packed with shifts and ors and taken apart with shifts and masks.
Each of these is an arithmetic operation as soon as the fields do not overlap, and
arithmetic is what decision procedures work on.
-/

namespace BitField

/-- Oring in a field above everything that is there adds it. -/
theorem or_shiftLeft {a : Nat} (b n : Nat) (h : a < 2 ^ n) : a ||| b <<< n = a + b * 2 ^ n := by
  rw [Nat.or_comm, ← Nat.shiftLeft_add_eq_or_of_lt h, Nat.shiftLeft_eq, Nat.add_comm]

/-- A mask of `n` low bits is a remainder. -/
theorem and_mask (a n : Nat) : a &&& (2 ^ n - 1) = a % 2 ^ n := Nat.and_two_pow_sub_one_eq_mod a n

/-- Shifting a field down and masking it. -/
theorem shiftRight_and_mask (a k n : Nat) : (a >>> k) &&& (2 ^ n - 1) = a / 2 ^ k % 2 ^ n := by
  rw [and_mask, Nat.shiftRight_eq_div_pow]

/-- Testing a single bit. -/
theorem and_flag_eq_zero (a k : Nat) : a &&& (1 <<< k) = 0 ↔ a / 2 ^ k % 2 = 0 := by
  rw [Nat.shiftLeft_eq, Nat.one_mul, Nat.and_two_pow, Nat.testBit_eq_decide_div_mod_eq]
  rcases Nat.mod_two_eq_zero_or_one (a / 2 ^ k) with h | h
  · simp [h]
  · simp [h]

end BitField
