import Mathlib.Data.List.Basic
import Mathlib.Tactic.Ring

/-!
# Byte strings

Octets as `BitVec 8`, numbers in little-endian order, and copies between blocks of
fixed size that refuse to leave either block.
-/

namespace Bytes

/-! ## Little-endian numbers -/

/-- The number a byte string stands for, lowest byte first. -/
def toNat : List (BitVec 8) → Nat
  | [] => 0
  | b :: bs => b.toNat + 256 * toNat bs

/-- The `k` lowest bytes of a number, lowest first. -/
def ofNat : Nat → Nat → List (BitVec 8)
  | 0, _ => []
  | k + 1, n => BitVec.ofNat 8 n :: ofNat k (n / 256)

@[simp] theorem toNat_nil : toNat [] = 0 := rfl

@[simp] theorem toNat_cons (b : BitVec 8) (bs : List (BitVec 8)) :
    toNat (b :: bs) = b.toNat + 256 * toNat bs := rfl

@[simp] theorem length_ofNat (k n : Nat) : (ofNat k n).length = k := by
  induction k generalizing n with
  | zero => rfl
  | succ k ih => simp [ofNat, ih]

/-- The low bytes of a number are the number in fewer bytes. -/
theorem take_ofNat {k m : Nat} (h : k ≤ m) (n : Nat) : (ofNat m n).take k = ofNat k n := by
  induction k generalizing m n with
  | zero => rfl
  | succ k ih =>
      obtain ⟨m, rfl⟩ : ∃ m', m = m' + 1 := ⟨m - 1, by omega⟩
      rw [ofNat, List.take_succ_cons, ih (by omega), ofNat]

/-- Writing a number and reading it back keeps what fits. -/
theorem toNat_ofNat (k n : Nat) : toNat (ofNat k n) = n % 256 ^ k := by
  induction k generalizing n with
  | zero => simp [ofNat, Nat.mod_one]
  | succ k ih =>
      have hbyte : (BitVec.ofNat 8 n).toNat = n % 256 := by simp
      rw [ofNat, toNat_cons, ih, hbyte, Nat.pow_succ, Nat.mul_comm (256 ^ k), Nat.mod_mul]

theorem toNat_append_zeros (bs : List (BitVec 8)) (n : Nat) :
    toNat (bs ++ List.replicate n 0#8) = toNat bs := by
  have hzero : ∀ n, toNat (List.replicate n 0#8) = 0 := by
    intro n
    induction n with
    | zero => rfl
    | succ n ih => simp [List.replicate_succ, ih]
  induction bs with
  | nil => exact hzero n
  | cons b bs ih => rw [List.cons_append, toNat_cons, toNat_cons, ih]

theorem toNat_lt (bs : List (BitVec 8)) : toNat bs < 256 ^ bs.length := by
  induction bs with
  | nil => simp
  | cons b bs ih =>
      have hb : b.toNat < 256 := b.isLt
      rw [toNat_cons, List.length_cons, Nat.pow_succ]
      omega

/-- Byte strings of one length are told apart by their numbers. -/
theorem toNat_inj {bs bs' : List (BitVec 8)} (hlen : bs.length = bs'.length)
    (h : toNat bs = toNat bs') : bs = bs' := by
  induction bs generalizing bs' with
  | nil => exact (List.length_eq_zero_iff.mp hlen.symm).symm
  | cons b bs ih =>
      cases bs' with
      | nil => simp at hlen
      | cons b' bs' =>
          have hb : b.toNat < 256 := b.isLt
          have hb' : b'.toNat < 256 := b'.isLt
          rw [toNat_cons, toNat_cons] at h
          have hhead : b = b' := BitVec.eq_of_toNat_eq (by omega)
          rw [hhead, ih (by simpa using hlen) (by omega)]

/-! ## Copies that stay in bounds -/

/-- Copy `n` bytes of `src` from `s` over the bytes of `dst` from `d`; `none` if either
end of the copy is out of range. Copying nothing touches nothing. -/
def copy (dst : List (BitVec 8)) (d : Nat) (src : List (BitVec 8)) (s n : Nat) :
    Option (List (BitVec 8)) :=
  if n = 0 then some dst
  else if s + n ≤ src.length ∧ d + n ≤ dst.length then
    some (dst.take d ++ (src.drop s).take n ++ dst.drop (d + n))
  else none

@[simp] theorem copy_zero (dst : List (BitVec 8)) (d : Nat) (src : List (BitVec 8)) (s : Nat) :
    copy dst d src s 0 = some dst := by simp [copy]

/-- **A copy succeeds exactly when it is in range.** -/
theorem copy_eq_none {dst src : List (BitVec 8)} {d s n : Nat} :
    copy dst d src s n = none ↔ n ≠ 0 ∧ (src.length < s + n ∨ dst.length < d + n) := by
  unfold copy
  split
  · simp [*]
  · split
    · simp only [reduceCtorEq, false_iff]; omega
    · simp only [true_iff]; omega

theorem copy_of_le {dst src : List (BitVec 8)} {d s n : Nat} (hs : s + n ≤ src.length)
    (hd : d + n ≤ dst.length) :
    copy dst d src s n = some (dst.take d ++ (src.drop s).take n ++ dst.drop (d + n)) := by
  unfold copy
  split
  · subst n; simp
  · rw [if_pos ⟨hs, hd⟩]

/-- A copy never changes the size of what it writes to. -/
theorem length_of_copy {dst src r : List (BitVec 8)} {d s n : Nat}
    (h : copy dst d src s n = some r) : r.length = dst.length := by
  unfold copy at h
  split at h
  · rw [← Option.some.inj h]
  · split at h
    · rw [← Option.some.inj h]
      simp only [List.length_append, List.length_take, List.length_drop]
      omega
    · simp at h

/-- Reading past the end of a byte string as if it went on with zeros. -/
def zeroExtended (bs : List (BitVec 8)) (i : Nat) : BitVec 8 := bs.getD i 0#8

theorem zeroExtended_of_lt {bs : List (BitVec 8)} {i : Nat} (h : i < bs.length) :
    zeroExtended bs i = bs[i] := by
  simp [zeroExtended, List.getD_eq_getElem?_getD, h]

theorem zeroExtended_of_ge {bs : List (BitVec 8)} {i : Nat} (h : bs.length ≤ i) :
    zeroExtended bs i = 0#8 := by
  simp [zeroExtended, List.getD_eq_getElem?_getD, h]

/-- The first byte behind an offset, or zero. -/
theorem toNat_drop_take_one (bs : List (BitVec 8)) (i : Nat) :
    toNat ((bs.drop i).take 1) = (zeroExtended bs i).toNat := by
  rcases Nat.lt_or_ge i bs.length with h | h
  · rw [List.drop_eq_getElem_cons h, zeroExtended_of_lt h, List.take_succ_cons, List.take_zero,
      toNat_cons, toNat_nil]
    rfl
  · rw [List.drop_of_length_le h, zeroExtended_of_ge h]
    rfl

/-- `n` bytes from an offset on, as if the byte string went on with zeros. -/
def window (bs : List (BitVec 8)) (o n : Nat) : List (BitVec 8) :=
  (List.range n).map (fun i => zeroExtended bs (o + i))

@[simp] theorem length_window (bs : List (BitVec 8)) (o n : Nat) : (window bs o n).length = n := by
  simp [window]

/-- What is there, and zeros for what is not. -/
theorem window_eq (bs : List (BitVec 8)) (o n : Nat) :
    window bs o n = (bs.drop o).take n ++ List.replicate (n - (bs.length - o)) 0#8 := by
  refine List.ext_getElem ?_ (fun i h₁ h₂ => ?_)
  · simp only [length_window, List.length_append, List.length_take, List.length_drop,
      List.length_replicate]
    omega
  · have hi : i < n := by simpa using h₁
    have hwindow : (window bs o n)[i] = zeroExtended bs (o + i) := by simp [window]
    rw [hwindow]
    by_cases hin : o + i < bs.length
    · rw [zeroExtended_of_lt hin, List.getElem_append_left (by
        rw [List.length_take, List.length_drop]
        omega)]
      simp
    · rw [zeroExtended_of_ge (by omega), List.getElem_append_right (by
        rw [List.length_take, List.length_drop]
        omega)]
      simp

/-- Missing bytes do not count in a little-endian number. -/
theorem toNat_window (bs : List (BitVec 8)) (o n : Nat) :
    toNat (window bs o n) = toNat ((bs.drop o).take n) := by
  rw [window_eq, toNat_append_zeros]

/-! ## Groups of bytes -/

/-- The `i`-th group of `size` bytes. -/
def chunk (size : Nat) (bs : List (BitVec 8)) (i : Nat) : List (BitVec 8) :=
  (bs.drop (i * size)).take size

/-- The first `n` groups as numbers. -/
def words (size n : Nat) (bs : List (BitVec 8)) : List Nat :=
  (List.range n).map (fun i => toNat (chunk size bs i))

/-- Groups make up what they were taken from. -/
theorem flatten_chunks (size n : Nat) (bs : List (BitVec 8)) :
    ((List.range n).map (chunk size bs)).flatten = bs.take (n * size) := by
  induction n with
  | zero => simp
  | succ n ih =>
      rw [List.range_succ, List.map_append, List.flatten_append, ih, Nat.succ_mul, List.take_add]
      simp [chunk]

/-- The groups of a prefix are those of the whole. -/
theorem chunk_take {size n i : Nat} (bs : List (BitVec 8)) (h : i < n) :
    chunk size (bs.take (n * size)) i = chunk size bs i := by
  have hle : i * size + size ≤ n * size := by
    rw [← Nat.succ_mul]
    exact Nat.mul_le_mul_right size h
  unfold chunk
  rw [List.drop_take, List.take_take, Nat.min_eq_left (by omega)]

theorem words_take (size n : Nat) (bs : List (BitVec 8)) :
    words size n (bs.take (n * size)) = words size n bs := by
  unfold words
  refine List.map_congr_left ?_
  intro i hi
  rw [chunk_take bs (List.mem_range.mp hi)]

/-- **Numbers that have been written in groups are read back.** -/
theorem words_flatMap_ofNat (size : Nat) (ns : List Nat) (h : ∀ n ∈ ns, n < 256 ^ size) :
    words size ns.length (ns.flatMap (ofNat size)) = ns := by
  induction ns with
  | nil => rfl
  | cons n ns ih =>
      have hlen := length_ofNat size n
      have hhead : toNat (chunk size (ofNat size n ++ ns.flatMap (ofNat size)) 0) = n := by
        unfold chunk
        rw [Nat.zero_mul, List.drop_zero, List.take_left' hlen, toNat_ofNat,
          Nat.mod_eq_of_lt (h n List.mem_cons_self)]
      have htail : ∀ i, chunk size (ofNat size n ++ ns.flatMap (ofNat size)) (i + 1) =
          chunk size (ns.flatMap (ofNat size)) i := by
        intro i
        unfold chunk
        rw [Nat.succ_mul, Nat.add_comm, ← List.drop_drop, List.drop_left' hlen]
      have ih := ih (fun m hm => h m (List.mem_cons_of_mem n hm))
      unfold words at ih ⊢
      rw [List.flatMap_cons, List.length_cons, List.range_succ_eq_map, List.map_cons, hhead,
        List.map_map]
      refine congrArg (n :: ·) (Eq.trans (List.map_congr_left (fun i _ => ?_)) ih)
      exact congrArg toNat (htail i)

/-- Write over the bytes from an offset on. -/
def overlay (dst : List (BitVec 8)) (o : Nat) (bs : List (BitVec 8)) : List (BitVec 8) :=
  dst.take o ++ bs ++ dst.drop (o + bs.length)

/-- Write one group after the other. -/
def overlayAll (size : Nat) : Nat → List (BitVec 8) → List (List (BitVec 8)) → List (BitVec 8)
  | _, dst, [] => dst
  | o, dst, bs :: groups => overlayAll size (o + size) (overlay dst o bs) groups

/-- **Full groups replace what was there.** -/
theorem overlayAll_full {size : Nat} {groups : List (List (BitVec 8))} {o : Nat}
    {dst : List (BitVec 8)} (hsize : ∀ bs ∈ groups, bs.length = size) (ho : o ≤ dst.length) :
    overlayAll size o dst groups =
      dst.take o ++ groups.flatten ++ dst.drop (o + groups.length * size) := by
  induction groups generalizing o dst with
  | nil => simp [overlayAll]
  | cons bs groups ih =>
      have hbs : bs.length = size := hsize bs List.mem_cons_self
      have hlen : (dst.take o ++ bs).length = o + size := by
        rw [List.length_append, List.length_take, hbs, Nat.min_eq_left ho]
      rw [overlayAll, ih (fun b hb => hsize b (List.mem_cons_of_mem _ hb)) (by
        unfold overlay
        rw [List.length_append, hlen]
        omega)]
      unfold overlay
      rw [hbs, List.take_append_of_le_length (by omega), List.take_of_length_le (by omega),
        List.drop_append, hlen, List.drop_eq_nil_of_le (by omega), List.nil_append, List.drop_drop,
        List.flatten_cons, List.length_cons, Nat.succ_mul, List.append_assoc (dst.take o)]
      congr 2
      omega

end Bytes
