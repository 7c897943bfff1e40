import Wlmio.Library.Bytes
import Mathlib.Data.Nat.Bitwise

/-!
# Byte strings as bit strings

The bits of a byte string, counted from the lowest bit of the first byte, and runs of bits
that are moved from one byte string into another. A byte string goes on with zeros.
-/

namespace BitString

/-- The bit at an index. -/
def bit (bs : List (BitVec 8)) (i : Nat) : Bool := (Bytes.zeroExtended bs (i / 8)).getLsbD (i % 8)

theorem bit_of_ge {bs : List (BitVec 8)} {i : Nat} (h : bs.length * 8 ≤ i) : bit bs i = false := by
  unfold bit
  rw [Bytes.zeroExtended_of_ge (by omega), BitVec.getLsbD_zero]

@[simp] theorem bit_nil (i : Nat) : bit [] i = false := bit_of_ge (Nat.zero_le i)

theorem bit_cons (b : BitVec 8) (bs : List (BitVec 8)) (i : Nat) :
    bit (b :: bs) i = if i < 8 then b.getLsbD i else bit bs (i - 8) := by
  unfold bit Bytes.zeroExtended
  by_cases h : i < 8
  · rw [if_pos h, Nat.div_eq_of_lt h, Nat.mod_eq_of_lt h, List.getD_cons_zero]
  · rw [if_neg h, show i / 8 = (i - 8) / 8 + 1 by omega, List.getD_cons_succ,
      show i % 8 = (i - 8) % 8 by omega]

theorem bit_append (xs ys : List (BitVec 8)) (i : Nat) :
    bit (xs ++ ys) i = if i < xs.length * 8 then bit xs i else bit ys (i - xs.length * 8) := by
  induction xs generalizing i with
  | nil => rw [List.nil_append, List.length_nil, Nat.zero_mul, if_neg (Nat.not_lt_zero i), Nat.sub_zero]
  | cons x xs ih =>
      rw [List.cons_append, bit_cons, bit_cons, ih, List.length_cons]
      by_cases h : i < 8
      · rw [if_pos h, if_pos h, if_pos (by omega)]
      · rw [if_neg h, if_neg h]
        by_cases hx : i - 8 < xs.length * 8
        · rw [if_pos hx, if_pos (by omega)]
        · rw [if_neg hx, if_neg (by omega), show i - 8 - xs.length * 8 = i - (xs.length + 1) * 8 by omega]

theorem bit_drop (bs : List (BitVec 8)) (k i : Nat) : bit (bs.drop k) i = bit bs (k * 8 + i) := by
  unfold bit Bytes.zeroExtended
  rw [show (k * 8 + i) / 8 = k + i / 8 by omega, show (k * 8 + i) % 8 = i % 8 by omega,
    List.getD_eq_getElem?_getD, List.getD_eq_getElem?_getD, List.getElem?_drop]

theorem bit_take (bs : List (BitVec 8)) (k i : Nat) :
    bit (bs.take k) i = if i < k * 8 then bit bs i else false := by
  unfold bit Bytes.zeroExtended
  rw [List.getD_eq_getElem?_getD, List.getD_eq_getElem?_getD, List.getElem?_take]
  by_cases h : i < k * 8
  · rw [if_pos h, if_pos (by omega)]
  · rw [if_neg h, if_neg (by omega), Option.getD_none, BitVec.getLsbD_zero]

theorem bit_set {bs : List (BitVec 8)} {k : Nat} (hk : k < bs.length) (b : BitVec 8) (i : Nat) :
    bit (bs.set k b) i = if i / 8 = k then b.getLsbD (i % 8) else bit bs i := by
  unfold bit Bytes.zeroExtended
  rw [List.getD_eq_getElem?_getD, List.getD_eq_getElem?_getD, List.getElem?_set]
  by_cases h : i / 8 = k
  · rw [if_pos h, if_pos h.symm, if_pos (h ▸ hk), Option.getD_some]
  · rw [if_neg h, if_neg (fun heq => h heq.symm)]

theorem bit_zeros (n i : Nat) : bit (List.replicate n 0#8) i = false := by
  induction n generalizing i with
  | zero => exact bit_nil i
  | succ n ih =>
      rw [List.replicate_succ, bit_cons, ih, BitVec.getLsbD_zero, ite_self]

/-- **The bits of a number are those of its bytes.** -/
theorem testBit_toNat (bs : List (BitVec 8)) (i : Nat) :
    (Bytes.toNat bs).testBit i = bit bs i := by
  induction bs generalizing i with
  | nil => rw [Bytes.toNat_nil, Nat.zero_testBit, bit_nil]
  | cons b bs ih =>
      have hb : b.toNat < 2 ^ 8 := b.isLt
      rw [Bytes.toNat_cons, bit_cons, Nat.add_comm, show (256 : Nat) = 2 ^ 8 from rfl,
        Nat.testBit_two_pow_mul_add _ hb, ih]
      rfl

theorem bit_ofNat (k n i : Nat) :
    bit (Bytes.ofNat k n) i = (decide (i < k * 8) && n.testBit i) := by
  rw [← testBit_toNat, Bytes.toNat_ofNat, show (256 : Nat) = 2 ^ 8 from rfl, ← Nat.pow_mul,
    Nat.mul_comm, Nat.testBit_mod_two_pow]

/-! ## Moving bits -/

/-- `out` is `dst` with `len` bits of `src`, from `s` on, in the place of those from `d` on. -/
structure Moved (len s d : Nat) (src dst out : List (BitVec 8)) : Prop where
  length : out.length = dst.length
  bits : ∀ i, bit out i = if d ≤ i ∧ i < d + len then bit src (s + (i - d)) else bit dst i

theorem Moved.zero (s d : Nat) (src dst : List (BitVec 8)) : Moved 0 s d src dst dst where
  length := rfl
  bits i := (if_neg (fun h => by omega)).symm

/-- First some of the bits, then those behind them. -/
theorem Moved.trans {len len' s d : Nat} {src dst mid out : List (BitVec 8)}
    (h : Moved len s d src dst mid) (h' : Moved len' (s + len) (d + len) src mid out) :
    Moved (len + len') s d src dst out where
  length := h'.length.trans h.length
  bits i := by
    rw [h'.bits, h.bits]
    by_cases hlow : i < d + len
    · rw [if_neg (by omega)]
      by_cases hd : d ≤ i
      · rw [if_pos ⟨hd, hlow⟩, if_pos ⟨hd, by omega⟩]
      · rw [if_neg (by omega), if_neg (by omega)]
    · by_cases hhigh : i < d + len + len'
      · rw [if_pos ⟨by omega, hhigh⟩, if_pos ⟨by omega, by omega⟩,
          show s + len + (i - (d + len)) = s + (i - d) by omega]
      · rw [if_neg (by omega), if_neg (by omega), if_neg (by omega)]

/-- Whole bytes, moved as such. -/
theorem Moved.bytes {n s d : Nat} {src dst : List (BitVec 8)} (hs : s + n ≤ src.length)
    (hd : d + n ≤ dst.length) :
    Moved (n * 8) (s * 8) (d * 8) src dst (dst.take d ++ (src.drop s).take n ++ dst.drop (d + n)) where
  length := by
    simp only [List.length_append, List.length_take, List.length_drop]
    omega
  bits i := by
    have htake : (dst.take d).length = d := by rw [List.length_take]; omega
    have hmid : ((src.drop s).take n).length = n := by rw [List.length_take, List.length_drop]; omega
    rw [bit_append, List.length_append, htake, hmid, bit_append, htake, bit_take, bit_take, bit_drop,
      bit_drop]
    by_cases hlow : i < d * 8
    · rw [if_pos (by omega), if_pos hlow, if_pos hlow, if_neg (by omega)]
    · by_cases hhigh : i < d * 8 + n * 8
      · rw [if_pos (by omega), if_neg hlow, if_pos (by omega), if_pos ⟨by omega, hhigh⟩]
      · rw [if_neg (by omega), if_neg (by omega),
          show (d + n) * 8 + (i - (d + n) * 8) = i by omega]

/-- Within one byte of either side. -/
theorem Moved.within {size s d : Nat} {src dst : List (BitVec 8)} (hs : s % 8 + size ≤ 8)
    (hd : d % 8 + size ≤ 8) (hdst : d / 8 < dst.length) {b : BitVec 8}
    (hb : ∀ j, j < 8 → b.getLsbD j = if d % 8 ≤ j ∧ j < d % 8 + size then
      (Bytes.zeroExtended src (s / 8)).getLsbD (s % 8 + (j - d % 8))
      else (Bytes.zeroExtended dst (d / 8)).getLsbD j) :
    Moved size s d src dst (dst.set (d / 8) b) where
  length := List.length_set
  bits i := by
    rw [bit_set hdst]
    by_cases hbyte : i / 8 = d / 8
    · rw [if_pos hbyte, hb _ (Nat.mod_lt _ (by omega))]
      by_cases hin : d ≤ i ∧ i < d + size
      · rw [if_pos hin, if_pos (by omega)]
        unfold bit
        rw [show (s + (i - d)) / 8 = s / 8 by omega, show (s + (i - d)) % 8 = s % 8 + (i % 8 - d % 8) by
          omega]
      · rw [if_neg hin, if_neg (by omega), ← hbyte]
        rfl
    · rw [if_neg hbyte, if_neg (by omega)]

/-- Bits that are not in the way stay. -/
theorem Moved.outside {len s d : Nat} {src dst out : List (BitVec 8)} (h : Moved len s d src dst out)
    {i : Nat} (hi : i < d ∨ d + len ≤ i) : bit out i = bit dst i := by
  rw [h.bits, if_neg (by omega)]

theorem Moved.inside {len s d : Nat} {src dst out : List (BitVec 8)} (h : Moved len s d src dst out)
    {i : Nat} (hi : i < len) : bit out (d + i) = bit src (s + i) := by
  rw [h.bits, if_pos (by omega), show s + (d + i - d) = s + i by omega]

end BitString
