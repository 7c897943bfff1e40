import Wlmio.Canard.Frame
import Wlmio.Library.ShiftRegister

/-!
# The transfer CRC as a shift register

`crcAddByte` takes the eight bits of a byte into a shift register of 16 bits with the
polynomial 0x1021, the highest bit first, as they come over the bus. The register is of
odd weight and its period is 32767 bits, so that a slight difference between what was
sealed with a CRC and what has arrived does not go unnoticed (`crc_detects`).
-/

namespace Wlmio.Canard

open ShiftRegister

/-- x^16 + x^12 + x^5 + 1, without the leading term. -/
def crcPolynomial : BitVec 16 := 0x1021#16

/-- The bits of a byte in the order of transmission. -/
def byteBits (b : Byte) : List Bool := (List.range 8).map b.getMsbD

/-- The bits of a message in the order of transmission. -/
def bitsOf (bytes : List Byte) : List Bool := bytes.flatMap byteBits

@[simp] theorem length_byteBits (b : Byte) : (byteBits b).length = 8 := by simp [byteBits]

@[simp] theorem bitsOf_nil : bitsOf [] = [] := rfl

theorem bitsOf_cons (b : Byte) (bytes : List Byte) : bitsOf (b :: bytes) = byteBits b ++ bitsOf bytes :=
  List.flatMap_cons

theorem length_bitsOf (bytes : List Byte) : (bitsOf bytes).length = 8 * bytes.length := by
  induction bytes with
  | nil => rfl
  | cons b bytes ih => rw [bitsOf_cons, List.length_append, ih, length_byteBits, List.length_cons]; omega

theorem byteBits_inj {b c : Byte} (h : byteBits b = byteBits c) : b = c := by
  refine BitVec.eq_of_getMsbD_eq ?_
  intro i hi
  have hi' : i < (List.range 8).length := by simpa using hi
  have hbit := congrArg (fun l => l[i]?) h
  simpa [byteBits, hi] using hbit

theorem bitsOf_inj {bytes bytes' : List Byte} (hlen : bytes.length = bytes'.length)
    (h : bitsOf bytes = bitsOf bytes') : bytes = bytes' := by
  induction bytes generalizing bytes' with
  | nil => exact (List.length_eq_zero_iff.mp hlen.symm).symm
  | cons b bytes ih =>
      cases bytes' with
      | nil => cases hlen
      | cons c bytes' =>
          rw [bitsOf_cons, bitsOf_cons] at h
          obtain ⟨hb, hrest⟩ := List.append_inj h (by simp)
          rw [byteBits_inj hb, ih (Nat.succ.inj hlen) hrest]

/-! ## The register -/

theorem crcAddBit_eq (x : TransferCRC) : crcAddBit x = shift crcPolynomial x := by
  have hmsb : (x &&& 0x8000#16 ≠ 0#16) ↔ x.msb = true := by
    constructor
    · intro h
      by_contra hx
      refine h (BitVec.eq_of_getMsbD_eq (fun i hi => ?_))
      rw [BitVec.getMsbD_and, show (0x8000#16) = BitVec.intMin 16 from rfl, BitVec.getMsbD_intMin]
      cases i with
      | zero =>
          rw [BitVec.msb_eq_getMsbD_zero] at hx
          simp [Bool.eq_false_iff.mpr hx]
      | succ i => simp
    · intro h heq
      have hbit := congrArg BitVec.msb heq
      rw [BitVec.msb_and, h] at hbit
      cases hbit
  unfold crcAddBit shift crcPolynomial
  by_cases hx : x.msb = true
  · rw [if_pos (hmsb.mpr hx), if_pos hx]
  · rw [if_neg (fun h => hx (hmsb.mp h)), if_neg hx]

theorem diff_zeros (bs : List Bool) : diff (List.replicate bs.length false) bs = bs := by
  induction bs with
  | nil => rfl
  | cons b bs ih =>
      unfold diff at ih ⊢
      rw [List.length_cons, List.replicate_succ, List.zipWith_cons_cons, ih, Bool.false_xor]

/-- A byte into the empty register. -/
private theorem feed_byte : ∀ b : Byte,
    (shift crcPolynomial)^[8] (b.setWidth 16 <<< 8) = feed crcPolynomial 0#16 (byteBits b) := by
  decide +kernel

/-- **A byte is its bits.** -/
theorem crcAddByte_eq (crc : TransferCRC) (b : Byte) :
    crcAddByte crc b = feed crcPolynomial crc (byteBits b) := by
  have hadd := @feed_xor _ crcPolynomial (List.replicate (byteBits b).length false) (byteBits b)
    (by simp) crc 0#16
  rw [diff_zeros, BitVec.xor_zero, feed_zeros, length_byteBits, ← feed_byte] at hadd
  have hshifts : crcAddByte crc b = (shift crcPolynomial)^[8] (crc ^^^ (b.setWidth 16 <<< 8)) := by
    unfold crcAddByte
    simp only [crcAddBit_eq]
    rfl
  have hxor : ∀ (n : Nat) (x y : BitVec 16), (shift crcPolynomial)^[n] (x ^^^ y) =
      (shift crcPolynomial)^[n] x ^^^ (shift crcPolynomial)^[n] y := by
    intro n
    induction n with
    | zero => exact fun _ _ => rfl
    | succ n ih =>
        intro x y
        rw [Function.iterate_succ_apply, shift_xor, ih, ← Function.iterate_succ_apply,
          ← Function.iterate_succ_apply]
  rw [hshifts, hxor, hadd]

/-- **A message is its bits.** -/
theorem crcAdd_eq (crc : TransferCRC) (bytes : List Byte) :
    crcAdd crc bytes = feed crcPolynomial crc (bitsOf bytes) := by
  induction bytes generalizing crc with
  | nil => rfl
  | cons b bytes ih => rw [crcAdd_cons, ih, crcAddByte_eq, bitsOf_cons, feed_append]

/-! ## Its period

The register is followed through all of its 32767 states, on numbers, which is what can be
evaluated at once. -/

/-- A shift, on numbers. -/
def crcShift (x : Nat) : Nat := if x < 32768 then 2 * x else (2 * x - 65536) ^^^ 0x1021

theorem toNat_shift (x : BitVec 16) : (shift crcPolynomial x).toNat = crcShift x.toNat := by
  have hlt : x.toNat < 65536 := x.isLt
  have hmsb : x.msb = decide (32768 ≤ x.toNat) := BitVec.msb_eq_decide x
  unfold shift crcShift
  rw [BitVec.toNat_xor, BitVec.toNat_shiftLeft, Nat.shiftLeft_eq, hmsb]
  by_cases hx : x.toNat < 32768
  · have hge : ¬ 32768 ≤ x.toNat := by omega
    rw [if_pos hx, if_neg (by simpa using hge), BitVec.toNat_zero, Nat.xor_zero]
    omega
  · have hge : 32768 ≤ x.toNat := by omega
    have hmod : x.toNat * 2 ^ 1 % 2 ^ 16 = 2 * x.toNat - 65536 := by omega
    rw [if_neg hx, if_pos (by simpa using hge), hmod]
    rfl

/-- The number 32768 is not met in `n` shifts of `x`. -/
def avoidsTop : Nat → Nat → Bool
  | 0, _ => true
  | n + 1, x =>
    match crcShift x with
    | 0 => false
    | m + 1 => if m + 1 = 32768 then false else avoidsTop n (m + 1)

theorem avoidsTop_spec {n x : Nat} (h : avoidsTop n x = true) :
    ∀ d, 0 < d → d ≤ n → crcShift^[d] x ≠ 32768 := by
  induction n generalizing x with
  | zero => intro d h0 hd; omega
  | succ n ih =>
      intro d h0 hd
      obtain ⟨e, rfl⟩ : ∃ e, d = e + 1 := ⟨d - 1, by omega⟩
      rw [Function.iterate_succ_apply]
      unfold avoidsTop at h
      cases hshift : crcShift x with
      | zero =>
          rw [hshift] at h
          cases h
      | succ m =>
          rw [hshift] at h
          dsimp only at h
          split at h
          · cases h
          · rename_i hne
            cases e with
            | zero => exact hne
            | succ e => exact ih h (e + 1) (by omega) (by omega)

set_option maxRecDepth 40000 in
/-- One walk through the states. -/
private theorem avoidsTop_period : avoidsTop 32766 32768 = true := by decide +kernel

/-- **The period of the CRC is 32767 bits**, at least. -/
theorem crc_period : PeriodAtLeast crcPolynomial 32767 := by
  intro d h0 hd heq
  have hiter : ∀ (d : Nat) (x : BitVec 16),
      ((shift crcPolynomial)^[d] x).toNat = crcShift^[d] x.toNat := by
    intro d
    induction d with
    | zero => exact fun _ => rfl
    | succ d ih =>
        intro x
        rw [Function.iterate_succ_apply, Function.iterate_succ_apply, ih, toNat_shift]
  have hnat := hiter d (top 16 true)
  rw [heq] at hnat
  exact avoidsTop_spec avoidsTop_period d h0 (by omega) hnat.symm

/-! ## What it detects -/

theorem eq_of_diff {bs cs : List Bool} (hlen : bs.length = cs.length)
    (h : ∀ b ∈ diff bs cs, b = false) : bs = cs := by
  induction bs generalizing cs with
  | nil => exact (List.length_eq_zero_iff.mp hlen.symm).symm
  | cons b bs ih =>
      cases cs with
      | nil => cases hlen
      | cons c cs =>
          unfold diff at h ih
          rw [List.zipWith_cons_cons] at h
          obtain ⟨hb, hrest⟩ := List.forall_mem_cons.mp h
          have heq : b = c := by
            cases b <;> cases c <;> first | rfl | cases hb
          rw [heq, ih (Nat.succ.inj hlen) hrest]

/-- The difference between two messages, in the order of transmission, is slight: it is confined to
16 bits, or is of at most three bits in a message of at most 4095 bytes, or of an odd number. -/
def SlightlyDiffer (sent received : List Byte) : Prop :=
  Slight 16 32767 (diff (bitsOf sent) (bitsOf received))

/-- **Two messages that both leave the residue do not differ slightly.** -/
theorem crc_detects {sent received : List Byte} {crc : TransferCRC}
    (hlen : sent.length = received.length) (hsent : crcAdd crc sent = CRC_RESIDUE)
    (hreceived : crcAdd crc received = CRC_RESIDUE) (hs : SlightlyDiffer sent received) :
    received = sent := by
  have hbits : (bitsOf sent).length = (bitsOf received).length := by
    rw [length_bitsOf, length_bitsOf, hlen]
  rw [crcAdd_eq] at hsent hreceived
  have hzero := (feed_diff crcPolynomial crc hbits).mp (hsent.trans hreceived.symm)
  have hnone := slight_detected (by decide) (by decide) crc_period hs hzero
  exact (bitsOf_inj hlen (eq_of_diff hbits hnone)).symm

end Wlmio.Canard
