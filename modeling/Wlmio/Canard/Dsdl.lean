import Wlmio.Canard.Frame
import Wlmio.Library.Bytes

/-!
# Reading fields out of a payload

`canard_dsdl.c`, as the library is built here: with the option for little-endian
platforms, where a getter copies bits straight into the bytes of its result. A
read or write outside its buffer is `none`; the getters clip the copy to the
buffer first, so they always return, and what lies beyond the end reads as zero.
-/

namespace Wlmio.Canard

def chooseMin (a b : Nat) : Nat := if a < b then a else b

theorem chooseMin_eq (a b : Nat) : chooseMin a b = min a b := by
  unfold chooseMin
  split <;> omega

/-- How many of the requested bits lie in the buffer and fit into the value. -/
def getBitCopySize (bufSizeBytes offsetBit requestedLengthBit valueLengthBit : Nat) : Nat :=
  let bufSizeBit := bufSizeBytes * 8
  let remainingBit := bufSizeBit - chooseMin bufSizeBit offsetBit
  chooseMin remainingBit (chooseMin requestedLengthBit valueLengthBit)

/-- The loop of `canardDSDLCopyBits`; every iteration moves at least one bit, so a fuel of
the number of bits is never used up. -/
def copyBitsLoop : Nat → Nat → Nat → Nat → List Byte → List Byte → Option (List Byte)
  | 0, _, _, _, _, dst => some dst
  | fuel + 1, srcOff, dstOff, lastBit, src, dst =>
    if srcOff < lastBit then
      let srcMod := srcOff % 8
      let dstMod := dstOff % 8
      let maxMod := if dstMod < srcMod then srcMod else dstMod
      let size := chooseMin (8 - maxMod) (lastBit - srcOff)
      let mask := BitVec.ofNat 8 ((1 <<< size - 1) <<< dstMod)
      match src[srcOff / 8]?, dst[dstOff / 8]? with
      | some s, some d =>
        let byte := (s >>> srcMod) <<< dstMod
        let a := d &&& ~~~mask
        let b := byte &&& mask
        copyBitsLoop fuel (srcOff + size) (dstOff + size) lastBit src (dst.set (dstOff / 8) (a ||| b))
      | _, _ => none
    else some dst

def canardDSDLCopyBits (lengthBit srcOffsetBit dstOffsetBit : Nat) (src dst : List Byte) :
    Option (List Byte) :=
  if lengthBit % 8 = 0 ∧ srcOffsetBit % 8 = 0 ∧ dstOffsetBit % 8 = 0 then
    Bytes.copy dst (dstOffsetBit / 8) src (srcOffsetBit / 8) (lengthBit / 8)
  else copyBitsLoop lengthBit srcOffsetBit dstOffsetBit (srcOffsetBit + lengthBit) src dst

/-- The body the getters share: a value of `width` bits, little-endian, starting at zero. -/
def canardDSDLGetUxx (width : Nat) (buf : List Byte) (offBit lenBit : Nat) : Option Nat :=
  let copySize := getBitCopySize buf.length offBit lenBit width
  (canardDSDLCopyBits copySize offBit 0 buf (List.replicate (width / 8) 0#8)).map Bytes.toNat

def canardDSDLGetU8 : List Byte → Nat → Nat → Option Nat := canardDSDLGetUxx 8
def canardDSDLGetU16 : List Byte → Nat → Nat → Option Nat := canardDSDLGetUxx 16
def canardDSDLGetU32 : List Byte → Nat → Nat → Option Nat := canardDSDLGetUxx 32
def canardDSDLGetU64 : List Byte → Nat → Nat → Option Nat := canardDSDLGetUxx 64

/-! ## Whole bytes -/

theorem getBitCopySize_bytes (n o k w : Nat) :
    getBitCopySize n (o * 8) (k * 8) (w * 8) = min (n - o) (min k w) * 8 := by
  unfold getBitCopySize
  simp only [chooseMin_eq]
  omega

/-- **Reading whole bytes at a byte offset** yields the bytes that are there, as a
little-endian number; missing ones count as zero. -/
theorem canardDSDLGetUxx_bytes {w k : Nat} (hk : k ≤ w) (buf : List Byte) (o : Nat) :
    canardDSDLGetUxx (w * 8) buf (o * 8) (k * 8) = some (Bytes.toNat ((buf.drop o).take k)) := by
  unfold canardDSDLGetUxx
  rw [getBitCopySize_bytes, Nat.min_eq_left hk, Nat.mul_div_cancel _ (by omega)]
  unfold canardDSDLCopyBits
  dsimp only
  rw [if_pos ⟨by omega, by omega, by omega⟩, Nat.mul_div_cancel _ (by omega),
    Nat.mul_div_cancel _ (by omega)]
  rcases Nat.lt_or_ge o buf.length with ho | ho
  · rw [Nat.zero_div, Bytes.copy_of_le (by omega) (by simp; omega), Option.map_some]
    simp only [List.take_zero, List.nil_append, List.drop_replicate]
    rw [Bytes.toNat_append_zeros]
    congr 2
    rcases Nat.le_total (buf.length - o) k with h | h
    · rw [Nat.min_eq_left h, List.take_of_length_le (by simp),
        List.take_of_length_le (by simpa using h)]
    · rw [Nat.min_eq_right h]
  · have hzero : min (buf.length - o) k = 0 := by omega
    have hnil : buf.drop o = [] := List.drop_of_length_le ho
    rw [hzero, Bytes.copy_zero, hnil, Option.map_some]
    have hrep := Bytes.toNat_append_zeros [] w
    simpa using hrep

theorem canardDSDLGetU8_byte (buf : List Byte) (o : Nat) :
    canardDSDLGetU8 buf (o * 8) 8 = some (Bytes.zeroExtended buf o).toNat := by
  rw [← Bytes.toNat_drop_take_one]
  exact canardDSDLGetUxx_bytes (w := 1) (k := 1) (Nat.le_refl 1) buf o

/-! ## Part of a byte -/

/-- The low bits of a byte, by the mask the copy uses. -/
theorem toNat_and_mask (b : Byte) {k : Nat} (h : k ≤ 7) :
    (b &&& BitVec.ofNat 8 (1 <<< k - 1)).toNat = b.toNat % 2 ^ k := by
  have hpow : 2 ^ k ≤ 2 ^ 7 := Nat.pow_le_pow_right (by omega) h
  have hpos : 0 < 2 ^ k := Nat.two_pow_pos k
  rw [BitVec.toNat_and, BitVec.toNat_ofNat, Nat.shiftLeft_eq, Nat.one_mul,
    Nat.mod_eq_of_lt (by omega), Nat.and_two_pow_sub_one_eq_mod]

/-- **Reading the low bits of a byte**, which is zero beyond the end. -/
theorem canardDSDLGetU8_bits {k : Nat} (h1 : 1 ≤ k) (h7 : k ≤ 7) (buf : List Byte) (o : Nat) :
    canardDSDLGetU8 buf (o * 8) k = some ((Bytes.zeroExtended buf o).toNat % 2 ^ k) := by
  unfold canardDSDLGetU8 canardDSDLGetUxx canardDSDLCopyBits
  dsimp only
  rcases Nat.lt_or_ge o buf.length with ho | ho
  · -- the bits are there: one iteration of the loop copies them
    have hsize : getBitCopySize buf.length (o * 8) k 8 = k := by
      unfold getBitCopySize
      simp only [chooseMin_eq]
      omega
    have hmod : ¬ (k % 8 = 0 ∧ o * 8 % 8 = 0 ∧ 0 % 8 = 0) := by omega
    obtain ⟨n, rfl⟩ : ∃ n, k = n + 1 := ⟨k - 1, by omega⟩
    have hstop : ∀ (f d : Nat) (dst : List Byte),
        copyBitsLoop f (o * 8 + (n + 1)) d (o * 8 + (n + 1)) buf dst = some dst := by
      intro f d dst
      cases f with
      | zero => rfl
      | succ f => rw [copyBitsLoop, if_neg (Nat.lt_irrefl _)]
    have hmin : min (8 - 0) (o * 8 + (n + 1) - o * 8) = n + 1 := by omega
    rw [hsize, if_neg hmod, copyBitsLoop, if_pos (by omega)]
    simp only [Nat.mul_mod_left, Nat.zero_mod, Nat.lt_irrefl, if_false, chooseMin_eq, hmin,
      Nat.mul_div_cancel _ (show 0 < 8 by omega), Nat.zero_div, Nat.reduceDiv, List.replicate_one,
      List.getElem?_eq_getElem ho, List.getElem?_cons_zero, BitVec.ushiftRight_zero,
      BitVec.shiftLeft_zero, Nat.shiftLeft_zero, List.set_cons_zero, hstop, Option.map_some,
      Bytes.toNat_cons, Bytes.toNat_nil, BitVec.zero_and, BitVec.zero_or, Nat.mul_zero,
      Nat.add_zero, Bytes.zeroExtended_of_lt ho]
    rw [toNat_and_mask _ h7]
  · have hsize : getBitCopySize buf.length (o * 8) k 8 = 0 := by
      unfold getBitCopySize
      simp only [chooseMin_eq]
      omega
    rw [hsize, if_pos ⟨rfl, by omega, rfl⟩, Nat.zero_div, Bytes.copy_zero,
      Bytes.zeroExtended_of_ge ho]
    simp

end Wlmio.Canard
