import Mathlib.Data.List.Basic
import Mathlib.Logic.Function.Iterate

/-!
# Shift registers with feedback, and the errors they detect

A cyclic redundancy check is a register of `w` bits that is shifted to the left; the bit
that falls out decides whether the polynomial `p` is added. Input comes in at the top,
bit by bit.

All of it is additive over exclusive or, so whether two messages leave the same register
depends on their difference alone (`feed_diff`). A difference goes unnoticed only if it
drives the register from zero back to zero, and there are three kinds of differences
that cannot: those within a window of `w` bits (`burst_detected`), those of an odd
number of bits where the weight of `p` is odd (`odd_detected`), and those of two bits
that are closer than the period of the register (`pair_detected`).
-/

namespace ShiftRegister

variable {w : Nat}

/-- One shift. -/
def shift (p x : BitVec w) : BitVec w := (x <<< 1) ^^^ (if x.msb then p else 0#w)

/-- A bit at the top of the register. -/
def top (w : Nat) (b : Bool) : BitVec w := if b then BitVec.intMin w else 0#w

/-- Take one bit in. -/
def feedBit (p x : BitVec w) (b : Bool) : BitVec w := shift p (x ^^^ top w b)

/-- Take a message in. -/
def feed (p x : BitVec w) (bits : List Bool) : BitVec w := bits.foldl (feedBit p) x

@[simp] theorem feed_nil (p x : BitVec w) : feed p x [] = x := rfl

@[simp] theorem feed_cons (p x : BitVec w) (b : Bool) (bits : List Bool) :
    feed p x (b :: bits) = feed p (feedBit p x b) bits := rfl

theorem feed_append (p x : BitVec w) (bits bits' : List Bool) :
    feed p x (bits ++ bits') = feed p (feed p x bits) bits' := List.foldl_append

/-! ## Additivity -/

theorem xor_xor_xor_comm (a b c d : BitVec w) :
    (a ^^^ b) ^^^ (c ^^^ d) = (a ^^^ c) ^^^ (b ^^^ d) := by
  rw [BitVec.xor_assoc, BitVec.xor_assoc, ← BitVec.xor_assoc b, BitVec.xor_comm b,
    BitVec.xor_assoc]

theorem shift_xor (p x y : BitVec w) : shift p (x ^^^ y) = shift p x ^^^ shift p y := by
  have hpoly : (if (x ^^^ y).msb then p else 0#w) =
      (if x.msb then p else 0#w) ^^^ (if y.msb then p else 0#w) := by
    rw [BitVec.msb_xor]
    cases x.msb <;> cases y.msb <;> simp
  unfold shift
  rw [BitVec.shiftLeft_xor_distrib, hpoly, xor_xor_xor_comm]

theorem top_xor (b c : Bool) : top w (b ^^ c) = top w b ^^^ top w c := by
  cases b <;> cases c <;> simp [top]

theorem feedBit_xor (p x y : BitVec w) (b c : Bool) :
    feedBit p (x ^^^ y) (b ^^ c) = feedBit p x b ^^^ feedBit p y c := by
  unfold feedBit
  rw [top_xor, xor_xor_xor_comm, shift_xor]

/-- Where two messages of one length differ. -/
def diff (bits bits' : List Bool) : List Bool := List.zipWith xor bits bits'

theorem feed_xor (p : BitVec w) {bits bits' : List Bool} (hlen : bits.length = bits'.length)
    (x y : BitVec w) : feed p (x ^^^ y) (diff bits bits') = feed p x bits ^^^ feed p y bits' := by
  induction bits generalizing bits' x y with
  | nil =>
      obtain rfl := List.length_eq_zero_iff.mp hlen.symm
      rfl
  | cons b bits ih =>
      cases bits' with
      | nil => cases hlen
      | cons c bits' =>
          have hlen' : bits.length = bits'.length := Nat.succ.inj hlen
          unfold diff at ih ⊢
          rw [List.zipWith_cons_cons, feed_cons, feed_cons, feed_cons, ← ih hlen', ← feedBit_xor]

/-- **Two messages leave the same register exactly if their difference leaves zero.** -/
theorem feed_diff (p x : BitVec w) {bits bits' : List Bool} (hlen : bits.length = bits'.length) :
    feed p x bits = feed p x bits' ↔ feed p 0#w (diff bits bits') = 0#w := by
  have h := feed_xor p hlen x x
  rw [BitVec.xor_self] at h
  rw [h, BitVec.xor_eq_zero_iff]

/-! ## Zeros -/

theorem shift_zero (p : BitVec w) : shift p 0#w = 0#w := by simp [shift]

theorem feedBit_false (p x : BitVec w) : feedBit p x false = shift p x := by
  simp [feedBit, top]

theorem feed_zeros (p x : BitVec w) (n : Nat) :
    feed p x (List.replicate n false) = (shift p)^[n] x := by
  induction n generalizing x with
  | zero => rfl
  | succ n ih => rw [List.replicate_succ, feed_cons, ih, feedBit_false, Function.iterate_succ_apply]

theorem shift_iterate_zero (p : BitVec w) (n : Nat) : (shift p)^[n] 0#w = 0#w := by
  induction n with
  | zero => rfl
  | succ n ih => rw [Function.iterate_succ_apply, shift_zero, ih]

/-- With an odd polynomial, the lowest bit tells what fell out. -/
theorem shift_lsb {p : BitVec w} (hp : p.getLsbD 0 = true) (x : BitVec w) :
    (shift p x).getLsbD 0 = x.msb := by
  cases hx : x.msb with
  | false => simp [shift, hx]
  | true => simp [shift, hx, hp]

theorem getMsbD_top (b : Bool) (i : Nat) :
    (top w b).getMsbD i = (b && decide (i = 0 ∧ 0 < w)) := by
  cases b with
  | false => simp [top]
  | true => simp [top, BitVec.getMsbD_intMin, Bool.and_comm]

/-- **A register that comes out as zero held what was taken in**, if that was no longer than the
register. -/
theorem feed_eq_zero {p : BitVec w} (hp : p.getLsbD 0 = true) {bits : List Bool} {x : BitVec w}
    (hlen : bits.length ≤ w) (h : feed p x bits = 0#w) :
    ∀ i, i < w → x.getMsbD i = bits.getD i false := by
  induction bits generalizing x with
  | nil =>
      intro i _
      rw [feed_nil] at h
      simp [h]
  | cons b bits ih =>
      intro i hi
      rw [List.length_cons] at hlen
      have hbits := ih (by omega) h
      have hmsb : (x ^^^ top w b).msb = false := by
        have hlow := hbits (w - 1) (by omega)
        rw [List.getD_eq_getElem?_getD, List.getElem?_eq_none (by omega), Option.getD_none] at hlow
        have hlsb := shift_lsb hp (x ^^^ top w b)
        rw [BitVec.getLsbD_eq_getMsbD, Nat.sub_zero] at hlsb
        rw [← hlsb, show (shift p (x ^^^ top w b)).getMsbD (w - 1) = false from hlow, Bool.and_false]
      -- nothing fell out, so the bits moved up by one
      have hshift : shift p (x ^^^ top w b) = (x ^^^ top w b) <<< 1 := by simp [shift, hmsb]
      cases i with
      | zero =>
          rw [BitVec.msb_eq_getMsbD_zero, BitVec.getMsbD_xor, getMsbD_top] at hmsb
          simpa [hi] using hmsb
      | succ i =>
          have hbit := hbits i (by omega)
          rw [show feedBit p x b = (x ^^^ top w b) <<< 1 from hshift, BitVec.getMsbD_shiftLeft,
            BitVec.getMsbD_xor, getMsbD_top] at hbit
          simpa using hbit

theorem shift_eq_zero {p : BitVec w} (hp : p.getLsbD 0 = true) {x : BitVec w}
    (h : shift p x = 0#w) : x = 0#w := by
  have hw : 0 < w := by
    by_contra hw
    obtain rfl : w = 0 := by omega
    simp at hp
  have hbits := @feed_eq_zero _ p hp [false] x hw (by rw [feed_cons, feedBit_false, h, feed_nil])
  refine BitVec.eq_of_getMsbD_eq ?_
  intro i hi
  rw [hbits i hi]
  cases i with
  | zero => simp
  | succ i => simp

theorem shift_iterate_eq_zero {p : BitVec w} (hp : p.getLsbD 0 = true) {n : Nat} {x : BitVec w}
    (h : (shift p)^[n] x = 0#w) : x = 0#w := by
  induction n generalizing x with
  | zero => exact h
  | succ n ih =>
      rw [Function.iterate_succ_apply] at h
      exact shift_eq_zero hp (ih h)

/-! ## Bursts -/

/-- **A difference within a window no wider than the register is detected.** -/
theorem burst_detected {p : BitVec w} (hp : p.getLsbD 0 = true) {window : List Bool} {a b : Nat}
    (hlen : window.length ≤ w)
    (h : feed p 0#w (List.replicate a false ++ window ++ List.replicate b false) = 0#w) :
    ∀ x ∈ window, x = false := by
  rw [feed_append, feed_append, feed_zeros, feed_zeros, shift_iterate_zero] at h
  have hbits := feed_eq_zero hp hlen (shift_iterate_eq_zero hp h)
  intro x hx
  obtain ⟨i, hi, rfl⟩ := List.mem_iff_getElem.mp hx
  have hbit := hbits i (by omega)
  rw [List.getD_eq_getElem?_getD, List.getElem?_eq_getElem hi, Option.getD_some] at hbit
  rw [← hbit]
  simp

/-! ## Parity -/

/-- Whether an odd number of `f 0`, ..., `f (n - 1)` hold. -/
def oddly (f : Nat → Bool) : Nat → Bool
  | 0 => false
  | n + 1 => oddly f n ^^ f n

theorem oddly_xor (f g : Nat → Bool) (n : Nat) :
    oddly (fun i => f i ^^ g i) n = (oddly f n ^^ oddly g n) := by
  induction n with
  | zero => rfl
  | succ n ih =>
      simp only [oddly, ih]
      cases oddly f n <;> cases oddly g n <;> cases f n <;> cases g n <;> rfl

theorem oddly_succ (f : Nat → Bool) (n : Nat) : oddly f (n + 1) = (f 0 ^^ oddly (fun i => f (i + 1)) n) := by
  induction n with
  | zero => simp [oddly]
  | succ n ih => rw [oddly, ih, oddly, Bool.xor_assoc]

theorem oddly_false {f : Nat → Bool} {n : Nat} (h : ∀ i, i < n → f i = false) : oddly f n = false := by
  induction n with
  | zero => rfl
  | succ n ih => rw [oddly, ih (fun i hi => h i (by omega)), h n (by omega), Bool.false_xor]

/-- Whether the weight of a register is odd. -/
def parity (x : BitVec w) : Bool := oddly x.getMsbD w

theorem parity_xor (x y : BitVec w) : parity (x ^^^ y) = (parity x ^^ parity y) := by
  unfold parity
  rw [← oddly_xor]
  congr 1
  funext i
  exact BitVec.getMsbD_xor

theorem parity_top (hw : 0 < w) (b : Bool) : parity (top w b) = b := by
  obtain ⟨n, rfl⟩ : ∃ n, w = n + 1 := ⟨w - 1, by omega⟩
  unfold parity
  rw [oddly_succ, oddly_false (fun i _ => by rw [getMsbD_top]; simp), getMsbD_top]
  simp

theorem parity_shiftLeft (x : BitVec w) : parity (x <<< 1) = (parity x ^^ x.msb) := by
  cases w with
  | zero => simp [parity, oddly, BitVec.of_length_zero]
  | succ n =>
      have hbits : ∀ i, (x <<< 1).getMsbD i = x.getMsbD (i + 1) := fun i => BitVec.getMsbD_shiftLeft ..
      have hlast : x.getMsbD (n + 1) = false := by simp
      unfold parity
      rw [oddly_succ x.getMsbD, BitVec.msb_eq_getMsbD_zero, oddly, hbits, hlast, Bool.xor_false,
        Bool.xor_comm (x.getMsbD 0), Bool.xor_assoc, Bool.xor_self, Bool.xor_false]
      congr 1
      funext i
      exact hbits i

/-- A shift by a polynomial of odd weight keeps the parity. -/
theorem parity_shift {p : BitVec w} (hp : parity p = true) (x : BitVec w) :
    parity (shift p x) = parity x := by
  unfold shift
  rw [parity_xor, parity_shiftLeft]
  cases hx : x.msb with
  | false =>
      have hzero : parity 0#w = false := oddly_false (fun i _ => by simp)
      simp [hzero]
  | true => simp [hp]

theorem parity_feed {p : BitVec w} (hw : 0 < w) (hp : parity p = true) (bits : List Bool)
    (x : BitVec w) :
    parity (feed p x bits) = (parity x ^^ decide (bits.count true % 2 = 1)) := by
  induction bits generalizing x with
  | nil => simp
  | cons b bits ih =>
      rw [feed_cons, ih, feedBit, parity_shift hp, parity_xor, parity_top hw, List.count_cons]
      cases b with
      | false => simp
      | true =>
          rcases Nat.mod_two_eq_zero_or_one (bits.count true) with h | h
          · have hodd : (bits.count true + 1) % 2 = 1 := by omega
            simp [h, hodd]
          · have heven : (bits.count true + 1) % 2 = 0 := by omega
            simp [h, heven]

/-- **A difference in an odd number of bits is detected.** -/
theorem odd_detected {p : BitVec w} (hw : 0 < w) (hp : parity p = true) {bits : List Bool}
    (h : feed p 0#w bits = 0#w) : bits.count true % 2 = 0 := by
  have hparity := parity_feed hw hp bits 0#w
  have hzero : parity 0#w = false := oddly_false (fun i _ => by simp)
  rw [h, hzero, Bool.false_xor] at hparity
  have hne := of_decide_eq_false hparity.symm
  omega

/-! ## Pairs -/

/-- The bit at the top does not come back to where it was in fewer than `n` shifts. -/
def PeriodAtLeast (p : BitVec w) (n : Nat) : Prop :=
  ∀ d, 0 < d → d < n → (shift p)^[d] (top w true) ≠ top w true

/-- The zeros before the first bit that is set. -/
theorem exists_zeros {bits : List Bool} {n : Nat} (h : bits.count true = n + 1) :
    ∃ a rest, bits = List.replicate a false ++ true :: rest ∧ rest.count true = n := by
  induction bits with
  | nil => simp at h
  | cons b bits ih =>
      cases b with
      | true => exact ⟨0, bits, rfl, by simpa using h⟩
      | false =>
          obtain ⟨a, rest, rfl, hrest⟩ := ih (by simpa using h)
          exact ⟨a + 1, rest, rfl, hrest⟩

theorem eq_zeros {bits : List Bool} (h : bits.count true = 0) :
    bits = List.replicate bits.length false := by
  refine List.eq_replicate_iff.mpr ⟨rfl, fun b hb => ?_⟩
  cases b with
  | false => rfl
  | true => exact absurd hb (List.count_eq_zero.mp h)

/-- **A difference in two bits is detected**, if they are closer than the period. -/
theorem pair_detected {p : BitVec w} (hp : p.getLsbD 0 = true) {n : Nat} (hn : PeriodAtLeast p n)
    {bits : List Bool} (hlen : bits.length ≤ n) (h : feed p 0#w bits = 0#w) :
    bits.count true ≠ 2 := by
  intro hcount
  obtain ⟨a, rest, rfl, hrest⟩ := exists_zeros hcount
  obtain ⟨d, rest, rfl, hnone⟩ := exists_zeros hrest
  rw [eq_zeros hnone] at h
  simp only [List.length_append, List.length_replicate, List.length_cons] at hlen
  have hfirst : feedBit p 0#w true = shift p (top w true) := by rw [feedBit, BitVec.zero_xor]
  rw [feed_append, feed_zeros, shift_iterate_zero, feed_cons, hfirst, feed_append, feed_zeros,
    ← Function.iterate_succ_apply, feed_cons, feed_zeros, feedBit, ← Function.iterate_succ_apply] at h
  exact hn (d + 1) (by omega) (by omega) (BitVec.xor_eq_zero_iff.mp (shift_iterate_eq_zero hp h))

/-! ## All three -/

/-- A difference of few bits, or of bits that are close together. -/
inductive Slight (w n : Nat) (bits : List Bool) : Prop where
  | burst {a b : Nat} {window : List Bool} :
      bits = List.replicate a false ++ window ++ List.replicate b false → window.length ≤ w →
      Slight w n bits
  | few : bits.count true ≤ 3 → bits.length ≤ n → Slight w n bits
  | odd : bits.count true % 2 = 1 → Slight w n bits

/-- **Slight differences are detected**: one that goes unnoticed is none. -/
theorem slight_detected {p : BitVec w} (hp : p.getLsbD 0 = true) (hodd : parity p = true) {n : Nat}
    (hn : PeriodAtLeast p n) {bits : List Bool} (hs : Slight w n bits)
    (h : feed p 0#w bits = 0#w) : ∀ b ∈ bits, b = false := by
  have hw : 0 < w := by
    by_contra hw
    obtain rfl : w = 0 := by omega
    simp at hp
  have heven := odd_detected hw hodd h
  cases hs with
  | burst hbits hlen =>
      subst hbits
      have hwindow := burst_detected hp hlen h
      intro b hb
      rcases List.mem_append.mp hb with hb | hb
      · rcases List.mem_append.mp hb with hb | hb
        · exact (List.mem_replicate.mp hb).2
        · exact hwindow b hb
      · exact (List.mem_replicate.mp hb).2
  | few hcount hlen =>
      have htwo := pair_detected hp hn hlen h
      have hzero : bits.count true = 0 := by omega
      intro b hb
      rw [eq_zeros hzero] at hb
      exact (List.mem_replicate.mp hb).2
  | odd hcount =>
      rw [heven] at hcount
      cases hcount

end ShiftRegister
