import Wlmio.Client.Register

/-!
# The tables about register values

The encoder, the decoder and the check of a register look at three tables: the largest
length of each type, the width of its elements and the width of its length field. What
the round trips need is that these agree: a value of the largest length fits the array,
and the length fits its field.
-/

namespace Wlmio.Proof

open Wlmio.Client Wlmio.Canard

/-- The width of the length field of a type, in bytes. -/
def lengthWidth (type : Nat) : Nat := registerValueLengthWidth.getD type 0

theorem lengthWidth_get {type : Nat} (h : type ≤ WLMIO_REGISTER_VALUE_FLOAT16) :
    registerValueLengthWidth[type]? = some (lengthWidth type) := by
  unfold lengthWidth
  rw [List.getD_eq_getElem?_getD]
  have hlt : type < registerValueLengthWidth.length := Nat.lt_succ_of_le h
  rw [List.getElem?_eq_getElem hlt]
  rfl

theorem lengthWidth_get_none {type : Nat} (h : WLMIO_REGISTER_VALUE_FLOAT16 < type) :
    registerValueLengthWidth[type]? = none := by
  rw [List.getElem?_eq_none_iff]
  exact h

theorem lengthWidth_le (type : Nat) : lengthWidth type ≤ 2 := by
  by_cases h : type ≤ WLMIO_REGISTER_VALUE_FLOAT16
  · have htable : ∀ type < 15, lengthWidth type ≤ 2 := by decide
    exact htable type (Nat.lt_succ_of_le h)
  · unfold lengthWidth
    rw [List.getD_eq_getElem?_getD, lengthWidth_get_none (by omega)]
    exact Nat.zero_le 2

/-- The width of an element of a type, in bits. -/
def bitWidth (type : Nat) : Nat := registerValueBitWidth.getD type 0

theorem bitWidth_get {type : Nat} (h : type ≤ WLMIO_REGISTER_VALUE_FLOAT16) :
    registerValueBitWidth[type]? = some (bitWidth type) := by
  unfold bitWidth
  rw [List.getD_eq_getElem?_getD]
  have hlt : type < registerValueBitWidth.length := Nat.lt_succ_of_le h
  rw [List.getElem?_eq_getElem hlt]
  rfl

/-- The number of bytes of the value of a register. -/
def valueSize (reg : WlmioRegisterAccess) : Nat :=
  (reg.length.toNat * bitWidth reg.type.toNat + 7) / 8

/-- A register that is valid and not empty. -/
structure ValidRegister (reg : WlmioRegisterAccess) : Prop where
  nonempty : reg.type.toNat ≠ WLMIO_REGISTER_VALUE_EMPTY
  valid : validateRegisterAccess reg = 0

/-- What the tables say about a type. -/
theorem table_facts : ∀ type < 15, type ≠ 0 →
    1 ≤ lengthWidth type ∧ (maxLength type * bitWidth type + 7) / 8 ≤ 256 ∧
      maxLength type < 256 ^ lengthWidth type := by decide

section

variable {reg : WlmioRegisterAccess}

theorem ValidRegister.type_le (h : ValidRegister reg) :
    reg.type.toNat ≤ WLMIO_REGISTER_VALUE_FLOAT16 := by
  by_contra hn
  have hv := h.valid
  unfold validateRegisterAccess at hv
  rw [if_pos (by omega)] at hv
  exact absurd hv (by decide)

theorem ValidRegister.length_le (h : ValidRegister reg) :
    reg.length.toNat ≤ maxLength reg.type.toNat := by
  by_contra hn
  have hv := h.valid
  have hle := h.type_le
  unfold validateRegisterAccess at hv
  rw [if_neg (by omega), if_pos (by omega)] at hv
  exact absurd hv (by decide)

theorem ValidRegister.facts (h : ValidRegister reg) :
    1 ≤ lengthWidth reg.type.toNat ∧ valueSize reg ≤ 256 ∧
      reg.length.toNat < 256 ^ lengthWidth reg.type.toNat := by
  obtain ⟨h1, hsize, hmax⟩ := table_facts _ (Nat.lt_succ_of_le h.type_le) h.nonempty
  have hlen := h.length_le
  refine ⟨h1, Nat.le_trans (Nat.div_le_div_right ?_) hsize, Nat.lt_of_le_of_lt hlen hmax⟩
  exact Nat.add_le_add_right (Nat.mul_le_mul_right _ hlen) 7

/-- The length field has the width of its type. -/
theorem length_lengthField (type length : Nat) :
    ((Bytes.ofNat 2 length).take (lengthWidth type)).length = lengthWidth type := by
  rw [List.length_take, Bytes.length_ofNat]
  exact Nat.min_eq_left (lengthWidth_le type)

end

end Wlmio.Proof
