import Wlmio.Canard.Dsdl
import Wlmio.Library.BitField
import Wlmio.Library.BitString

/-!
# Fields at any bit

The rest of `canard_dsdl.c` but for its floating point: the setters, the signed getters, and
what the build for other platforms has in the place of a copy. All of it rests on
`canardDSDLCopyBits`, which moves bits from any offset to any offset and leaves the others
alone (`canardDSDLCopyBits_moved`).
-/

namespace Wlmio.Canard

open BitString

/-! ## The functions -/

/-- The bytes of the value are those of a little-endian platform. -/
def canardDSDLSetUxx (buf : List Byte) (offBit value lenBit : Nat) : Option (List Byte) :=
  let saturatedLenBit := chooseMin lenBit 64
  canardDSDLCopyBits saturatedLenBit 0 offBit (Bytes.ofNat 8 value) buf

/-- The value as `uint64_t`. -/
def canardDSDLSetIxx (buf : List Byte) (offBit : Nat) (value : Int) (lenBit : Nat) :
    Option (List Byte) :=
  canardDSDLSetUxx buf offBit (value % 2 ^ 64).toNat lenBit

def canardDSDLSetBit (buf : List Byte) (offBit : Nat) (value : Bool) : Option (List Byte) :=
  canardDSDLCopyBits 1 0 offBit [if value then 1#8 else 0#8] buf

def canardDSDLGetBit (buf : List Byte) (offBit : Nat) : Option Bool :=
  (canardDSDLGetU8 buf offBit 1).map (fun val => decide (1 = val))

/-- The body the signed getters share. -/
def canardDSDLGetIxx (width : Nat) (buf : List Byte) (offBit lenBit : Nat) : Option Int :=
  let sat := chooseMin lenBit width
  (canardDSDLGetUxx width buf offBit sat).map fun n =>
    let val := BitVec.ofNat width n
    let neg := decide (0 < sat ∧ n &&& (1 <<< (sat - 1)) ≠ 0)
    -- sign extension
    let val := if sat < width ∧ neg = true then val ||| ~~~BitVec.ofNat width (1 <<< sat - 1) else val
    if neg then -(~~~val).toInt - 1 else val.toInt

def canardDSDLGetI8 : List Byte → Nat → Nat → Option Int := canardDSDLGetIxx 8
def canardDSDLGetI16 : List Byte → Nat → Nat → Option Int := canardDSDLGetIxx 16
def canardDSDLGetI32 : List Byte → Nat → Nat → Option Int := canardDSDLGetIxx 32
def canardDSDLGetI64 : List Byte → Nat → Nat → Option Int := canardDSDLGetIxx 64

/-! ### Without `CANARD_DSDL_CONFIG_LITTLE_ENDIAN` -/

/-- `canardDSDLSetUxx` with the bytes taken out of the value one by one. -/
def canardDSDLSetUxxGeneric (buf : List Byte) (offBit value lenBit : Nat) : Option (List Byte) :=
  let saturatedLenBit := chooseMin lenBit 64
  let tmp := (List.range 8).map (fun i => BitVec.ofNat 8 ((value >>> (8 * i)) &&& 255))
  canardDSDLCopyBits saturatedLenBit 0 offBit tmp buf

/-- `tmp[0] | tmp[1] << 8 | …`, from the byte `i` on. -/
def joinBytes (i : Nat) : List Byte → Nat
  | [] => 0
  | b :: bs => b.toNat <<< (8 * i) ||| joinBytes (i + 1) bs

/-- The getters with the value put together from its bytes. -/
def canardDSDLGetUxxGeneric (width : Nat) (buf : List Byte) (offBit lenBit : Nat) : Option Nat :=
  let copySize := getBitCopySize buf.length offBit lenBit width
  (canardDSDLCopyBits copySize offBit 0 buf (List.replicate (width / 8) 0#8)).map (joinBytes 0)

/-! ## Moving bits -/

/-- What one iteration of the loop writes: the bits under the mask are the source's. -/
theorem getLsbD_merge (s d : Byte) (srcMod dstMod size : Nat) {j : Nat} (hj : j < 8) :
    ((d &&& ~~~BitVec.ofNat 8 ((1 <<< size - 1) <<< dstMod)) |||
      ((s >>> srcMod) <<< dstMod &&& BitVec.ofNat 8 ((1 <<< size - 1) <<< dstMod))).getLsbD j =
      if dstMod ≤ j ∧ j < dstMod + size then s.getLsbD (srcMod + (j - dstMod)) else d.getLsbD j := by
  have hmask : (BitVec.ofNat 8 ((1 <<< size - 1) <<< dstMod)).getLsbD j =
      decide (dstMod ≤ j ∧ j < dstMod + size) := by
    rw [BitVec.getLsbD_ofNat, Nat.testBit_shiftLeft, Nat.shiftLeft_eq, Nat.one_mul,
      Nat.testBit_two_pow_sub_one, decide_eq_true hj, Bool.true_and]
    by_cases hle : dstMod ≤ j
    · rw [decide_eq_true hle, Bool.true_and]
      exact decide_eq_decide.mpr (by omega)
    · rw [decide_eq_false hle, Bool.false_and, decide_eq_false (by omega)]
  rw [BitVec.getLsbD_or, BitVec.getLsbD_and, BitVec.getLsbD_and, BitVec.getLsbD_not, hmask,
    BitVec.getLsbD_shiftLeft, BitVec.getLsbD_ushiftRight, decide_eq_true hj]
  by_cases hin : dstMod ≤ j ∧ j < dstMod + size
  · rw [if_pos hin, decide_eq_true hin, decide_eq_false (by omega)]
    simp
  · rw [if_neg hin, decide_eq_false hin]
    simp

/-- **The loop moves the bits that are left.** -/
theorem copyBitsLoop_moved (src : List Byte) (lastBit : Nat) (hlast : lastBit ≤ src.length * 8) :
    ∀ (fuel srcOff dstOff : Nat) (dst : List Byte), srcOff ≤ lastBit → lastBit - srcOff ≤ fuel →
      dstOff + (lastBit - srcOff) ≤ dst.length * 8 →
      ∃ out, copyBitsLoop fuel srcOff dstOff lastBit src dst = some out ∧
        Moved (lastBit - srcOff) srcOff dstOff src dst out := by
  intro fuel
  induction fuel with
  | zero =>
      intro srcOff dstOff dst _ hfuel _
      refine ⟨dst, rfl, ?_⟩
      rw [Nat.le_zero.mp hfuel]
      exact Moved.zero _ _ _ _
  | succ fuel ih =>
      intro srcOff dstOff dst hle hfuel hdst
      rw [copyBitsLoop]
      by_cases hmore : srcOff < lastBit
      · rw [if_pos hmore]
        dsimp only
        generalize hmax : (if dstOff % 8 < srcOff % 8 then srcOff % 8 else dstOff % 8) = maxMod
        have hmods : srcOff % 8 ≤ maxMod ∧ dstOff % 8 ≤ maxMod ∧ maxMod < 8 := by
          rw [← hmax]
          split <;> omega
        rw [chooseMin_eq]
        generalize hsize : min (8 - maxMod) (lastBit - srcOff) = size
        have hs : srcOff / 8 < src.length := by omega
        have hd : dstOff / 8 < dst.length := by omega
        rw [List.getElem?_eq_getElem hs, List.getElem?_eq_getElem hd]
        dsimp only
        -- one byte of either side, and then the rest
        have hfirst := @Moved.within size srcOff dstOff src dst (by omega) (by omega) hd _
          (fun j hj => by
            rw [Bytes.zeroExtended_of_lt hs, Bytes.zeroExtended_of_lt hd]
            exact getLsbD_merge src[srcOff / 8] dst[dstOff / 8] _ _ _ hj)
        obtain ⟨out, hout, hrest⟩ := ih (srcOff + size) (dstOff + size) _ (by omega) (by omega)
          (by rw [hfirst.length]; omega)
        refine ⟨out, hout, ?_⟩
        rw [show lastBit - srcOff = size + (lastBit - (srcOff + size)) by omega]
        exact hfirst.trans hrest
      · rw [if_neg hmore]
        refine ⟨dst, rfl, ?_⟩
        rw [show lastBit - srcOff = 0 by omega]
        exact Moved.zero _ _ _ _

/-- **`canardDSDLCopyBits` moves bits** from any offset to any offset. -/
theorem canardDSDLCopyBits_moved {len srcOff dstOff : Nat} {src dst : List Byte}
    (hsrc : srcOff + len ≤ src.length * 8) (hdst : dstOff + len ≤ dst.length * 8) :
    ∃ out, canardDSDLCopyBits len srcOff dstOff src dst = some out ∧
      Moved len srcOff dstOff src dst out := by
  unfold canardDSDLCopyBits
  by_cases hbytes : len % 8 = 0 ∧ srcOff % 8 = 0 ∧ dstOff % 8 = 0
  · rw [if_pos hbytes, Bytes.copy_of_le (by omega) (by omega)]
    refine ⟨_, rfl, ?_⟩
    have hmoved := @Moved.bytes (len / 8) (srcOff / 8) (dstOff / 8) src dst (by omega) (by omega)
    rw [show len / 8 * 8 = len by omega, show srcOff / 8 * 8 = srcOff by omega,
      show dstOff / 8 * 8 = dstOff by omega] at hmoved
    exact hmoved
  · rw [if_neg hbytes]
    have hloop := copyBitsLoop_moved src (srcOff + len) hsrc len srcOff dstOff dst (by omega) (by omega)
      (by omega)
    rw [Nat.add_sub_cancel_left] at hloop
    exact hloop

/-- Moving nothing touches nothing. -/
theorem canardDSDLCopyBits_zero (srcOff dstOff : Nat) (src dst : List Byte) :
    canardDSDLCopyBits 0 srcOff dstOff src dst = some dst := by
  unfold canardDSDLCopyBits
  split
  · exact Bytes.copy_zero dst _ src _
  · rfl

/-! ## Getters -/

/-- The field of some bytes at a bit offset, as a number. -/
def bitsAt (buf : List Byte) (offBit lenBit : Nat) : Nat := Bytes.toNat buf / 2 ^ offBit % 2 ^ lenBit

theorem testBit_bitsAt (buf : List Byte) (offBit lenBit i : Nat) :
    (bitsAt buf offBit lenBit).testBit i = (decide (i < lenBit) && bit buf (offBit + i)) := by
  unfold bitsAt
  rw [Nat.testBit_mod_two_pow, Nat.testBit_div_two_pow, testBit_toNat, Nat.add_comm i]

theorem bitsAt_lt (buf : List Byte) (offBit lenBit : Nat) : bitsAt buf offBit lenBit < 2 ^ lenBit :=
  Nat.mod_lt _ (Nat.two_pow_pos lenBit)

/-- **The getters**, at any offset and of any length: what the buffer does not have is zero. -/
theorem canardDSDLGetUxx_field (w : Nat) (buf : List Byte) (offBit lenBit : Nat) :
    canardDSDLGetUxx (w * 8) buf offBit lenBit = some (bitsAt buf offBit (min lenBit (w * 8))) := by
  unfold canardDSDLGetUxx
  dsimp only
  have hsize : getBitCopySize buf.length offBit lenBit (w * 8) =
      min (buf.length * 8 - offBit) (min lenBit (w * 8)) := by
    unfold getBitCopySize
    simp only [chooseMin_eq]
    omega
  rw [hsize, Nat.mul_div_cancel _ (by omega)]
  by_cases hin : offBit ≤ buf.length * 8
  · obtain ⟨out, hout, hmoved⟩ := @canardDSDLCopyBits_moved
      (min (buf.length * 8 - offBit) (min lenBit (w * 8))) offBit 0 buf (List.replicate w 0#8)
      (by omega) (by rw [List.length_replicate]; omega)
    rw [hout, Option.map_some]
    refine congrArg some (Nat.eq_of_testBit_eq fun i => ?_)
    rw [testBit_toNat, hmoved.bits, testBit_bitsAt, bit_zeros, Nat.sub_zero]
    by_cases hi : i < min (buf.length * 8 - offBit) (min lenBit (w * 8))
    · rw [if_pos ⟨Nat.zero_le i, by omega⟩, decide_eq_true (by omega), Bool.true_and]
    · rw [if_neg (by omega)]
      by_cases hlen : i < min lenBit (w * 8)
      · rw [bit_of_ge (show buf.length * 8 ≤ offBit + i by omega), Bool.and_false]
      · rw [decide_eq_false hlen, Bool.false_and]
  · -- nothing of it is in the buffer
    rw [show min (buf.length * 8 - offBit) (min lenBit (w * 8)) = 0 by omega,
      canardDSDLCopyBits_zero, Option.map_some]
    refine congrArg some (Nat.eq_of_testBit_eq fun i => ?_)
    rw [testBit_toNat, testBit_bitsAt, bit_zeros,
      bit_of_ge (show buf.length * 8 ≤ offBit + i by omega), Bool.and_false]

/-- The number that a value is short of its sign. -/
theorem toNat_signExtend {width sat n : Nat} (hsat : sat ≤ width) (hn : n < 2 ^ sat) :
    (if sat < width then BitVec.ofNat width n ||| ~~~BitVec.ofNat width (1 <<< sat - 1)
      else BitVec.ofNat width n).toNat = n + (2 ^ width - 2 ^ sat) := by
  have hpow : 2 ^ sat ≤ 2 ^ width := Nat.pow_le_pow_right (by omega) hsat
  have hpos : 0 < 2 ^ sat := Nat.two_pow_pos sat
  by_cases hlt : sat < width
  · -- the bits above are set, and nothing is in their way
    have hhigh : 2 ^ width - 1 - (2 ^ sat - 1) = (2 ^ (width - sat) - 1) <<< sat := by
      rw [Nat.shiftLeft_eq, Nat.sub_mul, ← Nat.pow_add, Nat.sub_add_cancel hsat, Nat.one_mul]
      omega
    rw [if_pos hlt, BitVec.toNat_or, BitVec.toNat_not, BitVec.toNat_ofNat, BitVec.toNat_ofNat,
      Nat.shiftLeft_eq, Nat.one_mul, Nat.mod_eq_of_lt (by omega), Nat.mod_eq_of_lt (by omega), hhigh,
      BitField.or_shiftLeft _ _ hn, ← Nat.shiftLeft_eq, ← hhigh]
    omega
  · rw [if_neg hlt, BitVec.toNat_ofNat, show sat = width by omega, Nat.sub_self, Nat.add_zero]
    exact Nat.mod_eq_of_lt (by omega)

/-- The highest bit of a field is its sign. -/
theorem sign_iff {sat n : Nat} (hn : n < 2 ^ sat) :
    (0 < sat ∧ n &&& (1 <<< (sat - 1)) ≠ 0) ↔ 0 < sat ∧ 2 ^ (sat - 1) ≤ n := by
  refine and_congr_right fun hpos => ?_
  obtain ⟨k, rfl⟩ : ∃ k, sat = k + 1 := ⟨sat - 1, by omega⟩
  rw [Nat.add_sub_cancel, Ne, BitField.and_flag_eq_zero]
  rw [Nat.pow_succ] at hn
  have hk : 0 < 2 ^ k := Nat.two_pow_pos k
  by_cases hle : 2 ^ k ≤ n
  · have hdiv : n / 2 ^ k = 1 := Nat.div_eq_of_lt_le (by omega) (by omega)
    rw [hdiv]
    exact iff_of_true (by decide) hle
  · rw [Nat.div_eq_of_lt (by omega)]
    exact iff_of_false (by decide) hle

/-- Two's complement, by the sign. -/
theorem bmod_two_pow {sat n : Nat} (hn : n < 2 ^ sat) : (n : Int).bmod (2 ^ sat) =
    if 0 < sat ∧ 2 ^ (sat - 1) ≤ n then (n : Int) - (2 ^ sat : Nat) else n := by
  have hmod : (n : Int) % ((2 ^ sat : Nat) : Int) = n :=
    Int.emod_eq_of_lt (Int.natCast_nonneg n) (Int.ofNat_lt.mpr hn)
  rw [Int.bmod_def, hmod]
  rcases Nat.eq_zero_or_pos sat with rfl | hpos
  · have hzero : n = 0 := by omega
    rw [hzero]
    decide
  · have hhalf : 2 ^ sat = 2 * 2 ^ (sat - 1) := by
      rw [← Nat.pow_succ', Nat.succ_eq_add_one, Nat.sub_add_cancel hpos]
    by_cases htop : 2 ^ (sat - 1) ≤ n
    · rw [if_neg (by omega), if_pos ⟨hpos, htop⟩]
    · rw [if_pos (by omega), if_neg (fun h => htop h.2)]

/-- **The signed getters**: the field as a number in two's complement. -/
theorem canardDSDLGetIxx_field (w : Nat) (buf : List Byte) (offBit lenBit : Nat) :
    canardDSDLGetIxx (w * 8) buf offBit lenBit =
      some ((bitsAt buf offBit (min lenBit (w * 8)) : Int).bmod (2 ^ min lenBit (w * 8))) := by
  unfold canardDSDLGetIxx
  dsimp only
  rw [chooseMin_eq, canardDSDLGetUxx_field, Nat.min_assoc, Nat.min_self, Option.map_some]
  have hn := bitsAt_lt buf offBit (min lenBit (w * 8))
  generalize bitsAt buf offBit (min lenBit (w * 8)) = n at hn
  generalize hsat : min lenBit (w * 8) = sat at hn
  have hle : sat ≤ w * 8 := by omega
  generalize w * 8 = width at hle
  have hpow : 2 ^ sat ≤ 2 ^ width := Nat.pow_le_pow_right (by omega) hle
  refine congrArg some ?_
  rw [decide_eq_decide.mpr (sign_iff hn), bmod_two_pow hn]
  by_cases hneg : 0 < sat ∧ 2 ^ (sat - 1) ≤ n
  · have hhalf : 2 ^ sat = 2 * 2 ^ (sat - 1) := by
      rw [← Nat.pow_succ', Nat.succ_eq_add_one, Nat.sub_add_cancel hneg.1]
    have hext := toNat_signExtend hle hn
    rw [decide_eq_true hneg, if_pos rfl, if_pos hneg]
    simp only [and_true]
    -- the complement is what is missing to the full field
    generalize (if sat < width then BitVec.ofNat width n ||| ~~~BitVec.ofNat width (1 <<< sat - 1)
      else BitVec.ofNat width n) = val at hext ⊢
    have hnot : (~~~val).toNat = 2 ^ width - 1 - val.toNat := BitVec.toNat_not
    rw [BitVec.toInt_eq_toNat_of_lt (by omega), hnot]
    omega
  · rw [decide_eq_false hneg, if_neg Bool.false_ne_true, if_neg hneg]
    have hsmall : sat = 0 ∨ n < 2 ^ (sat - 1) := by omega
    have hval : (BitVec.ofNat width n).toNat = n := Nat.mod_eq_of_lt (by omega)
    have hlow : 2 * n < 2 ^ width := by
      rcases Nat.eq_zero_or_pos sat with rfl | hpos
      · omega
      · have hhalf : 2 ^ sat = 2 * 2 ^ (sat - 1) := by
          rw [← Nat.pow_succ', Nat.succ_eq_add_one, Nat.sub_add_cancel hpos]
        omega
    simp only [Bool.false_eq_true, and_false, if_false]
    rw [BitVec.toInt_eq_toNat_of_lt (by omega), hval]

/-- Fields with the same bits are the same. -/
theorem bitsAt_congr {buf buf' : List Byte} {offBit lenBit : Nat}
    (h : ∀ i, offBit ≤ i → i < offBit + lenBit → bit buf i = bit buf' i) :
    bitsAt buf offBit lenBit = bitsAt buf' offBit lenBit := by
  refine Nat.eq_of_testBit_eq fun i => ?_
  rw [testBit_bitsAt, testBit_bitsAt]
  by_cases hi : i < lenBit
  · rw [h _ (by omega) (by omega)]
  · rw [decide_eq_false hi, Bool.false_and, Bool.false_and]

/-! ## Setters -/

/-- **The setters**, at any offset and of any length that the buffer has. -/
theorem canardDSDLSetUxx_moved {buf : List Byte} {offBit lenBit : Nat}
    (hfit : offBit + min lenBit 64 ≤ buf.length * 8) (value : Nat) :
    ∃ out, canardDSDLSetUxx buf offBit value lenBit = some out ∧
      Moved (min lenBit 64) 0 offBit (Bytes.ofNat 8 value) buf out := by
  unfold canardDSDLSetUxx
  dsimp only
  rw [chooseMin_eq]
  exact canardDSDLCopyBits_moved (by rw [Bytes.length_ofNat]; omega) hfit

/-- What is set is what is got. -/
theorem bitsAt_moved {lenBit offBit value : Nat} {buf out : List Byte} (hlen : lenBit ≤ 64)
    (h : Moved lenBit 0 offBit (Bytes.ofNat 8 value) buf out) :
    bitsAt out offBit lenBit = value % 2 ^ lenBit := by
  refine Nat.eq_of_testBit_eq fun i => ?_
  rw [testBit_bitsAt, Nat.testBit_mod_two_pow]
  by_cases hi : i < lenBit
  · rw [h.inside hi, bit_ofNat, decide_eq_true (show 0 + i < 8 * 8 by omega), Bool.true_and,
      Nat.zero_add]
  · rw [decide_eq_false hi, Bool.false_and, Bool.false_and]

/-! ## The build for other platforms -/

theorem joinBytes_eq (bs : List Byte) : ∀ i, joinBytes i bs = Bytes.toNat bs * 2 ^ (8 * i) := by
  induction bs with
  | nil => exact fun i => (Nat.zero_mul _).symm
  | cons b bs ih =>
      intro i
      have hb : b.toNat <<< (8 * i) < 2 ^ (8 * (i + 1)) := by
        rw [Nat.shiftLeft_eq, show 8 * (i + 1) = 8 + 8 * i by omega, Nat.pow_add]
        exact Nat.mul_lt_mul_of_pos_right b.isLt (Nat.two_pow_pos _)
      rw [joinBytes, ih, ← Nat.shiftLeft_eq, BitField.or_shiftLeft _ _ hb, Nat.shiftLeft_eq,
        Bytes.toNat_cons, show 8 * (i + 1) = 8 + 8 * i by omega, Nat.pow_add]
      ring

theorem bytes_of_value (k : Nat) : ∀ value : Nat,
    (List.range k).map (fun i => BitVec.ofNat 8 ((value >>> (8 * i)) &&& 255)) =
      Bytes.ofNat k value := by
  induction k with
  | zero => exact fun value => rfl
  | succ k ih =>
      intro value
      have hlow : BitVec.ofNat 8 ((value >>> (8 * 0)) &&& 255) = BitVec.ofNat 8 value := by
        rw [Nat.mul_zero, Nat.shiftRight_zero, show (255 : Nat) = 2 ^ 8 - 1 from rfl,
          BitField.and_mask]
        exact BitVec.eq_of_toNat_eq (by rw [BitVec.toNat_ofNat, BitVec.toNat_ofNat, Nat.mod_mod])
      rw [List.range_succ_eq_map, List.map_cons, List.map_map, hlow, Bytes.ofNat, ← ih (value / 256)]
      refine congrArg _ (List.map_congr_left fun i _ => ?_)
      rw [Function.comp_apply, show 8 * i.succ = 8 + 8 * i by omega, Nat.shiftRight_add,
        Nat.shiftRight_eq_div_pow value 8]

end Wlmio.Canard
