import Mathlib.Algebra.Ring.Int.Defs
import Mathlib.Data.List.Basic

/-!
# `strtol`

The conversion of a string to a `long` with base 0: white space, a sign, and digits whose base
is told by a prefix `0x` or `0`. What follows is left alone. The locale is that of C.

`integer` is the number that is written there, however large. `strtol` is what a `long` makes of
it, which the caller can tell from the number only by looking at `errno`.
-/

namespace Strtol

abbrev Octet := BitVec 8

def isSpace (c : Octet) : Bool := c.toNat == 32 || (9 ≤ c.toNat && c.toNat ≤ 13)

/-- What a character is worth as a digit, if it is one below 16. -/
def digit (c : Octet) : Option Nat :=
  if 48 ≤ c.toNat ∧ c.toNat ≤ 57 then some (c.toNat - 48)
  else if 97 ≤ c.toNat ∧ c.toNat ≤ 102 then some (c.toNat - 87)
  else if 65 ≤ c.toNat ∧ c.toNat ≤ 70 then some (c.toNat - 55)
  else none

/-- The digits at the front of a string. -/
def digits (base : Nat) : List Octet → List Nat
  | [] => []
  | c :: s =>
    match digit c with
    | some d => if d < base then d :: digits base s else []
    | none => []

def valueOf (base : Nat) (ds : List Nat) : Nat := ds.foldl (fun n d => base * n + d) 0

/-- The number without sign and the characters it takes, with the base of its prefix. A prefix `0x`
needs a digit behind it. -/
def magnitude (s : List Octet) : Option (Nat × Nat) :=
  match s with
  | 48#8 :: x :: s' =>
    if (x = 120#8 ∨ x = 88#8) ∧ digits 16 s' ≠ [] then
      some (valueOf 16 (digits 16 s'), 2 + (digits 16 s').length)
    else some (valueOf 8 (digits 8 s), (digits 8 s).length)
  | 48#8 :: _ => some (0, 1)
  | s => if digits 10 s = [] then none else some (valueOf 10 (digits 10 s), (digits 10 s).length)

/-- The number at the front of a string and the characters it takes, if there is one. -/
def integer (s : List Octet) : Option (Int × Nat) :=
  let spaces := (s.takeWhile isSpace).length
  match s.drop spaces with
  | 45#8 :: s' => (magnitude s').map (fun p => (-p.1, spaces + 1 + p.2))
  | 43#8 :: s' => (magnitude s').map (fun p => (p.1, spaces + 1 + p.2))
  | s' => (magnitude s').map (fun p => (p.1, spaces + p.2))

/-- The range of a `long`, which has at least 32 bits. -/
structure Long where
  bits : Nat
  bits_ge : 32 ≤ bits

def Long.max (l : Long) : Int := 2 ^ (l.bits - 1) - 1
def Long.min (l : Long) : Int := -2 ^ (l.bits - 1)

structure Result where
  value : Int
  /-- `errno` is `ERANGE`. -/
  range : Bool
  /-- How far `endptr` is behind the start. -/
  endptr : Nat
deriving DecidableEq, Repr

def strtol (l : Long) (s : List Octet) : Result :=
  match integer s with
  | none => ⟨0, false, 0⟩
  | some (n, k) =>
    if l.max < n then ⟨l.max, true, k⟩
    else if n < l.min then ⟨l.min, true, k⟩
    else ⟨n, false, k⟩

example : integer [32#8, 45#8, 48#8, 120#8, 49#8, 70#8, 103#8] = some (-31, 6) := by decide
example : integer [48#8, 120#8, 103#8] = some (0, 1) := by decide

/-! ## What the caller can tell -/

/-- The number that is written there, if a `long` can hold it. -/
def typed (l : Long) (s : List Octet) : Option Int :=
  match integer s with
  | none => none
  | some (n, _) => if l.min ≤ n ∧ n ≤ l.max then some n else none

/-- A conversion takes at least one character. -/
theorem magnitude_pos {s : List Octet} {n k : Nat} (h : magnitude s = some (n, k)) : 0 < k := by
  have hzero : ∀ s', 0 < (digits 8 (48#8 :: s')).length := fun s' => Nat.succ_pos _
  unfold magnitude at h
  split at h
  · split at h
    · obtain ⟨_, rfl⟩ := Prod.mk.inj (Option.some.inj h)
      omega
    · obtain ⟨_, rfl⟩ := Prod.mk.inj (Option.some.inj h)
      exact hzero _
  · obtain ⟨_, rfl⟩ := Prod.mk.inj (Option.some.inj h)
    exact Nat.one_pos
  · split at h
    · cases h
    · rename_i hdigits
      obtain ⟨_, rfl⟩ := Prod.mk.inj (Option.some.inj h)
      exact List.length_pos_iff.mpr hdigits

theorem integer_pos {s : List Octet} {n : Int} {k : Nat} (h : integer s = some (n, k)) : 0 < k := by
  unfold integer at h
  dsimp only at h
  split at h
  · obtain ⟨⟨m, j⟩, _, heq⟩ := Option.map_eq_some_iff.mp h
    obtain ⟨_, rfl⟩ := Prod.mk.inj heq
    omega
  · obtain ⟨⟨m, j⟩, _, heq⟩ := Option.map_eq_some_iff.mp h
    obtain ⟨_, rfl⟩ := Prod.mk.inj heq
    omega
  · obtain ⟨⟨m, j⟩, hm, heq⟩ := Option.map_eq_some_iff.mp h
    obtain ⟨_, rfl⟩ := Prod.mk.inj heq
    have := magnitude_pos hm
    omega

/-- **Whoever looks at `errno` and `endptr` gets the number that is written, or learns that there is
none that fits.** -/
theorem strtol_cases (l : Long) (s : List Octet) :
    (typed l s = none ∧ ((strtol l s).range = true ∨ (strtol l s).endptr = 0)) ∨
      ∃ n, typed l s = some n ∧ (strtol l s).range = false ∧ (strtol l s).endptr ≠ 0 ∧
        (strtol l s).value = n := by
  unfold typed strtol
  cases h : integer s with
  | none => exact .inl ⟨rfl, .inr rfl⟩
  | some p =>
      obtain ⟨n, k⟩ := p
      have hk := integer_pos h
      dsimp only
      by_cases hmax : l.max < n
      · rw [if_pos hmax, if_neg (by omega)]
        exact .inl ⟨rfl, .inl rfl⟩
      · rw [if_neg hmax]
        by_cases hmin : n < l.min
        · rw [if_pos hmin, if_neg (by omega)]
          exact .inl ⟨rfl, .inl rfl⟩
        · rw [if_neg hmin, if_pos (by omega)]
          exact .inr ⟨n, rfl, rfl, Nat.pos_iff_ne_zero.mp hk, rfl⟩

end Strtol
