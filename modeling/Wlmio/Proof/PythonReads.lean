import Wlmio.Proof.ModuleReads
import Wlmio.Proof.RegisterTables
import Wlmio.Pywlmio.Channel

/-!
# The two bindings read alike, or not

C and Python check the reply of a read on their own. Both take the same registers of
modules 6040, 6080, 6180 and 6190 and make the same number of them. Module 6090 is
`UINT16` for the one and `UINT32` for the other, module 6010 has six numbers in C and any
number of them in Python, and of module 6060 C takes half of the number.
-/

namespace Wlmio.Proof

open Wlmio.Client Wlmio.Pywlmio

/-! ## Python -/

section

variable {module : ReadModule} {reg : WlmioRegisterAccess}

/-- The size of a number of the type that Python asserts. -/
def assertedSize (module : ReadModule) : Nat :=
  if assertedType module = WLMIO_REGISTER_VALUE_UINT32 then 4 else 2

/-- The register is one that `read` returns a value for. -/
def PyReadable (module : ReadModule) (reg : WlmioRegisterAccess) : Prop :=
  reg.type.toNat = assertedType module ∧ (module ≠ .vpe6010 → 1 ≤ reg.length.toNat)

/-- The values it returns then. -/
def pyValues (module : ReadModule) (reg : WlmioRegisterAccess) : List Nat :=
  Bytes.words (assertedSize module) (if module = .vpe6010 then reg.length.toNat else 1) reg.value

theorem assertedType_cases (module : ReadModule) :
    (assertedType module = WLMIO_REGISTER_VALUE_UINT32 ∧ assertedSize module = 4) ∨
      (assertedType module = WLMIO_REGISTER_VALUE_UINT16 ∧ assertedSize module = 2) := by
  cases module <;> first | exact .inl ⟨rfl, rfl⟩ | exact .inr ⟨rfl, rfl⟩

/-- As much as the type allows fits the array. -/
theorem unpackValue_ok {size : Nat} (h : reg.length.toNat * size ≤ 256) :
    unpackValue size reg =
      .ok (.numbers reg.type.toNat (Bytes.words size reg.length.toNat reg.value)) := by
  have hlen : (reg.value.take (reg.length.toNat * size)).length = reg.length.toNat * size := by
    rw [List.length_take, reg.value_length, Nat.min_eq_left h]
  unfold unpackValue unpackNumbers
  rw [if_pos hlen, Bytes.words_take]
  rfl

/-- A register of the type that is asserted is unpacked. -/
theorem registerAccess_numbers (hvalid : ValidRegister reg)
    (htype : reg.type.toNat = assertedType module) :
    registerAccess reg = .ok (.numbers reg.type.toNat
      (Bytes.words (assertedSize module) reg.length.toNat reg.value)) := by
  have hmax := hvalid.length_le
  rw [htype] at hmax
  unfold registerAccess
  rcases assertedType_cases module with ⟨h, hsize⟩ | ⟨h, hsize⟩
  · rw [h] at hmax
    rw [if_pos (htype.trans h), hsize]
    have hmax : reg.length.toNat ≤ 64 := hmax
    exact unpackValue_ok (by omega)
  · rw [h] at hmax
    rw [if_neg (by rw [htype, h]; decide), if_pos (htype.trans h), hsize]
    have hmax : reg.length.toNat ≤ 128 := hmax
    exact unpackValue_ok (by omega)

theorem unpackValue_type {size : Nat} {r : RegisterReply} (h : unpackValue size reg = .ok r) :
    r.type = reg.type.toNat := by
  unfold unpackValue at h
  obtain ⟨values, _, h⟩ := Fallible.bind_eq_ok.mp h
  rw [← Except.ok.inj h]
  rfl

/-- Unpacking does not change the type. -/
theorem registerAccess_type {r : RegisterReply} (h : registerAccess reg = .ok r) :
    r.type = reg.type.toNat := by
  unfold registerAccess at h
  split at h
  · exact unpackValue_type h
  split at h
  · exact unpackValue_type h
  split at h
  · exact unpackValue_type h
  · rw [← Except.ok.inj h]
    rfl

/-- The first of some numbers. -/
theorem first_words (type size n : Nat) (value : List Byte) (hn : 1 ≤ n) :
    (RegisterReply.numbers type (Bytes.words size n value)).first =
      .ok (.number (Bytes.toNat (Bytes.chunk size value 0))) := by
  obtain ⟨m, rfl⟩ : ∃ m, n = m + 1 := ⟨n - 1, by omega⟩
  unfold Bytes.words
  rw [List.range_succ_eq_map, List.map_cons]
  rfl

/-- **What `read` returns.** -/
theorem channelRead_ok (hvalid : ValidRegister reg) (h : PyReadable module reg) :
    ∃ v, channelRead module reg = .ok v ∧ v.values = pyValues module reg := by
  obtain ⟨htype, hlength⟩ := h
  unfold channelRead
  rw [registerAccess_numbers hvalid htype]
  simp only [bind, Except.bind]
  rw [if_neg (fun hn => hn htype)]
  unfold pyValues
  by_cases hmodule : module = .vpe6010
  · subst hmodule
    rw [if_pos rfl]
    exact ⟨_, rfl, rfl⟩
  · have hone := first_words reg.type.toNat (assertedSize module) reg.length.toNat reg.value
      (hlength hmodule)
    rw [if_neg hmodule]
    refine ⟨.number (Bytes.toNat (Bytes.chunk (assertedSize module) reg.value 0)), ?_, rfl⟩
    cases module with
    | vpe6010 => exact absurd rfl hmodule
    | vpe6040 => exact hone
    | vpe6060 => exact hone
    | vpe6080 => exact hone
    | vpe6090 => exact hone
    | vpe6180 => exact hone
    | vpe6190 => exact hone

/-- **Every other register makes `read` raise.** -/
theorem channelRead_raises (hvalid : ValidRegister reg) (h : ¬ PyReadable module reg) :
    ∀ v, channelRead module reg ≠ .ok v := by
  intro v hv
  unfold channelRead at hv
  obtain ⟨r, hr, hv⟩ := Fallible.bind_eq_ok.mp hv
  split at hv
  · cases hv
  rename_i htype
  have htype : reg.type.toNat = assertedType module := by
    rw [← registerAccess_type hr]
    exact Classical.not_not.mp htype
  -- the type is right, so the register is empty and has no first number
  have hempty : module ≠ .vpe6010 ∧ reg.length.toNat = 0 := by
    constructor
    · intro hmodule
      exact h ⟨htype, fun hn => absurd hmodule hn⟩
    · by_contra hlength
      exact h ⟨htype, fun _ => by omega⟩
  rw [registerAccess_numbers hvalid htype, hempty.2] at hr
  obtain rfl := Except.ok.inj hr
  cases module with
  | vpe6010 => exact hempty.1 rfl
  | vpe6040 => cases hv
  | vpe6060 => cases hv
  | vpe6080 => cases hv
  | vpe6090 => cases hv
  | vpe6180 => cases hv
  | vpe6190 => cases hv

end

/-! ## C -/

section

variable {w : World} {module : ReadModule} {p input : Nat} {reg : WlmioRegisterAccess}
  {c : Caller} {prior : List Byte}

/-- The values of a destination. -/
def cValues (module : ReadModule) (after : List Byte) : List Nat :=
  Bytes.words module.elementSize module.elements after

/-- Both bindings refuse the register, or both return the same values. -/
def Agree (module : ReadModule) (reg : WlmioRegisterAccess) : Option (Int × List Byte) → Prop
  | none => False
  | some (k, after) =>
    (k = 0 ↔ ∃ v, channelRead module reg = .ok v) ∧
      ∀ v, k = 0 → channelRead module reg = .ok v → v.values = cValues module after

/-- The values of the destination after a read that succeeds. -/
def cRead (module : ReadModule) (reg : WlmioRegisterAccess) (prior : List Byte) : List Nat :=
  if module = .vpe6060 then cValues module (reg.value.take 2 ++ prior.drop 2)
  else cValues module reg.value

/-- **The bindings agree if they take the same registers** and make the same of those they take. -/
theorem agree_iff (hrec : recordAt w p = some (.read (some reg) input (some c)))
    (hprior : prior.length = inputSize module) (hvalid : ValidRegister reg) :
    Agree module reg (readOutcome w module p 0 prior) ↔
      (Readable module reg ↔ PyReadable module reg) ∧
        (Readable module reg → pyValues module reg = cRead module reg prior) := by
  have hpython : (∃ v, channelRead module reg = .ok v) ↔ PyReadable module reg := by
    constructor
    · rintro ⟨v, hv⟩
      by_contra hn
      exact channelRead_raises hvalid hn v hv
    · intro h
      obtain ⟨v, hv, _⟩ := channelRead_ok hvalid h
      exact ⟨v, hv⟩
  by_cases hreg : Readable module reg
  · have hafter : cValues module (Bytes.overlayAll module.elementSize 0 prior
        (module.pieces.map (fun q => (reg.value.drop q.1).take q.2))) = cRead module reg prior := by
      unfold cRead
      by_cases hmodule : module = .vpe6060
      · subst hmodule
        rw [overlay_half, if_pos rfl]
      · rw [overlay_whole hmodule reg hprior, if_neg hmodule]
        exact Bytes.words_take _ _ _
    rw [readOutcome_stored hrec (by decide) hreg]
    unfold Agree
    dsimp only
    rw [hpython, hafter]
    constructor
    · rintro ⟨hiff, hvalues⟩
      have hpy := hiff.mp rfl
      obtain ⟨v, hv, hval⟩ := channelRead_ok hvalid hpy
      exact ⟨iff_of_true hreg hpy, fun _ => by rw [← hval, hvalues v rfl hv]⟩
    · rintro ⟨hiff, hvalues⟩
      have hpy := hiff.mp hreg
      refine ⟨iff_of_true rfl hpy, ?_⟩
      intro v _ hv
      obtain ⟨v', hv', hval⟩ := channelRead_ok hvalid hpy
      obtain rfl := Except.ok.inj (hv.symm.trans hv')
      rw [hval, hvalues hreg]
  · rw [readOutcome_refused hrec (by decide) hreg]
    unfold Agree
    dsimp only
    rw [hpython]
    have hcode : ¬ (-EPROTO = 0) := by decide
    constructor
    · rintro ⟨hiff, _⟩
      exact ⟨iff_of_false hreg (fun hpy => hcode (hiff.mpr hpy)), fun h => absurd h hreg⟩
    · rintro ⟨hiff, _⟩
      exact ⟨iff_of_false hcode (fun hpy => hreg (hiff.mpr hpy)), fun v h => absurd h hcode⟩

/-! ## When they agree -/

/-- What the register and the destination have to be for the bindings to agree. -/
def SameRead (module : ReadModule) (reg : WlmioRegisterAccess) (prior : List Byte) : Prop :=
  match module with
  | .vpe6010 => reg.type.toNat = WLMIO_REGISTER_VALUE_UINT16 → reg.length.toNat = 6
  | .vpe6060 =>
    reg.type.toNat = WLMIO_REGISTER_VALUE_UINT32 → 1 ≤ reg.length.toNat → UpperHalfThere reg prior
  | .vpe6090 =>
    (reg.type.toNat = WLMIO_REGISTER_VALUE_UINT16 ∨ reg.type.toNat = WLMIO_REGISTER_VALUE_UINT32) →
      reg.length.toNat = 0
  | _ => True

/-- The number of module 6060 is the one Python reads if the upper half is there. -/
theorem cRead_6060 (hprior : prior.length = 4) :
    pyValues .vpe6060 reg = cRead .vpe6060 reg prior ↔ UpperHalfThere reg prior := by
  have hvalue := reg.value_length
  have hpy : pyValues .vpe6060 reg = [Bytes.toNat (reg.value.take 4)] := rfl
  have hc : cRead .vpe6060 reg prior = [Bytes.toNat ((reg.value.take 2 ++ prior.drop 2).take 4)] :=
    rfl
  have hlen : (reg.value.take 2 ++ prior.drop 2).length = 4 := by
    rw [List.length_append, List.length_take, List.length_drop]
    omega
  rw [hpy, hc, List.take_of_length_le (Nat.le_of_eq hlen)]
  constructor
  · intro h
    have heq := Bytes.toNat_inj (by rw [hlen, List.length_take]; omega) (List.cons.inj h).1
    exact (half_eq_iff reg prior).mp heq.symm
  · intro h
    rw [(half_eq_iff reg prior).mpr h]

/-- Six numbers of module 6010 are all there are if there are six. -/
theorem cRead_6010 : pyValues .vpe6010 reg = cRead .vpe6010 reg prior ↔ reg.length.toNat = 6 := by
  have hpy : pyValues .vpe6010 reg = Bytes.words 2 reg.length.toNat reg.value := rfl
  have hc : cRead .vpe6010 reg prior = Bytes.words 2 6 reg.value := rfl
  rw [hpy, hc]
  constructor
  · intro h
    have hlen := congrArg List.length h
    simpa [Bytes.words] using hlen
  · intro h
    rw [h]

/-- The modules that both bindings read alike. -/
theorem cRead_eq (h : module ≠ .vpe6010 ∧ module ≠ .vpe6060 ∧ module ≠ .vpe6090) :
    pyValues module reg = cRead module reg prior ∧
      (Readable module reg ↔ PyReadable module reg) := by
  obtain ⟨h₁, h₂, h₃⟩ := h
  cases module with
  | vpe6010 => exact absurd rfl h₁
  | vpe6060 => exact absurd rfl h₂
  | vpe6090 => exact absurd rfl h₃
  | vpe6040 => exact ⟨rfl, Iff.rfl.and ⟨fun h _ => h, fun h => h (by decide)⟩⟩
  | vpe6080 => exact ⟨rfl, Iff.rfl.and ⟨fun h _ => h, fun h => h (by decide)⟩⟩
  | vpe6180 => exact ⟨rfl, Iff.rfl.and ⟨fun h _ => h, fun h => h (by decide)⟩⟩
  | vpe6190 => exact ⟨rfl, Iff.rfl.and ⟨fun h _ => h, fun h => h (by decide)⟩⟩

/-- **C and Python agree on a register exactly when** it is not `UINT16` or has six numbers, for
module 6010; it is refused or its upper half is there already, for module 6060; both refuse it, for
module 6090; and always for the others. -/
theorem python_agrees_iff (hrec : recordAt w p = some (.read (some reg) input (some c)))
    (hprior : prior.length = inputSize module) (hvalid : ValidRegister reg) :
    Agree module reg (readOutcome w module p 0 prior) ↔ SameRead module reg prior := by
  rw [agree_iff hrec hprior hvalid]
  by_cases h10 : module = .vpe6010
  · subst h10
    rw [cRead_6010]
    constructor
    · rintro ⟨hiff, hvalues⟩ htype
      exact hvalues (hiff.mpr ⟨htype, fun hn => absurd rfl hn⟩)
    · intro h
      refine ⟨⟨fun hc => ⟨hc.1, fun hn => absurd rfl hn⟩, fun hpy => ?_⟩, fun hc => h hc.1⟩
      exact ⟨hpy.1, Nat.le_of_eq (h hpy.1).symm⟩
  by_cases h60 : module = .vpe6060
  · subst h60
    rw [cRead_6060 hprior]
    constructor
    · rintro ⟨_, hvalues⟩ htype hlength
      exact hvalues ⟨htype, hlength⟩
    · intro h
      refine ⟨⟨fun hc => ⟨hc.1, fun _ => hc.2⟩, fun hpy => ⟨hpy.1, hpy.2 (by decide)⟩⟩, fun hc => ?_⟩
      exact h hc.1 hc.2
  by_cases h90 : module = .vpe6090
  · subst h90
    -- the two bindings expect different types, so they agree only on what both refuse
    have hdiffer : ¬ (Readable .vpe6090 reg ∧ PyReadable .vpe6090 reg) := by
      rintro ⟨hc, hpy⟩
      exact absurd (hc.1.symm.trans hpy.1) (by decide)
    constructor
    · rintro ⟨hiff, _⟩ htype
      by_contra hlength
      have hone : 1 ≤ reg.length.toNat := by omega
      rcases htype with htype | htype
      · have hc : Readable .vpe6090 reg := ⟨htype, hone⟩
        exact hdiffer ⟨hc, hiff.mp hc⟩
      · have hpy : PyReadable .vpe6090 reg := ⟨htype, fun _ => hone⟩
        exact hdiffer ⟨hiff.mpr hpy, hpy⟩
    · intro h
      have hc : ¬ Readable .vpe6090 reg := by
        rintro ⟨htype, hlength⟩
        have hzero := h (.inl htype)
        have hlength : 1 ≤ reg.length.toNat := hlength
        omega
      have hpy : ¬ PyReadable .vpe6090 reg := by
        rintro ⟨htype, hlength⟩
        have hzero := h (.inr htype)
        have hlength := hlength (by decide)
        omega
      exact ⟨iff_of_false hc hpy, fun h => absurd h hc⟩
  · obtain ⟨hvalues, hiff⟩ := @cRead_eq module reg prior ⟨h10, h60, h90⟩
    refine iff_of_true ⟨hiff, fun _ => hvalues⟩ ?_
    cases module with
    | vpe6010 => exact absurd rfl h10
    | vpe6060 => exact absurd rfl h60
    | vpe6090 => exact absurd rfl h90
    | vpe6040 => trivial
    | vpe6080 => trivial
    | vpe6180 => trivial
    | vpe6190 => trivial

end

theorem python_agrees_6190 : Agree .vpe6190 counterReply
    (readOutcome withReply .vpe6190 0 0 (List.replicate 4 0#8)) := by
  have hrec : recordAt withReply 0 = some (.read (some counterReply) 0 (some (.user 0))) := rfl
  exact (python_agrees_iff hrec rfl ⟨by decide, by decide⟩).mpr trivial

/-- A record that holds a `UINT16` register of one element, 0x0141, for a destination at 0. -/
def withTemperature : World :=
  addRecord started (.read (some (uint16Register 0x0141#16)) 0 (some (.user 0)))

/-- **Python cannot read module 6090**: where C reports success and 0x0141, the type is not the one
that Python asserts. -/
theorem python_differs_6090 : readOutcome withTemperature .vpe6090 0 0 (List.replicate 2 0#8) =
      some (0, [0x41#8, 0x01#8]) ∧
    channelRead .vpe6090 (uint16Register 0x0141#16) = .error .assertionError ∧
    ¬ Agree .vpe6090 (uint16Register 0x0141#16)
      (readOutcome withTemperature .vpe6090 0 0 (List.replicate 2 0#8)) := by
  have hc : readOutcome withTemperature .vpe6090 0 0 (List.replicate 2 0#8) =
      some (0, [0x41#8, 0x01#8]) := by decide +kernel
  have hpython : channelRead .vpe6090 (uint16Register 0x0141#16) = .error .assertionError := by
    decide +kernel
  refine ⟨hc, hpython, ?_⟩
  rw [hc]
  rintro ⟨hiff, _⟩
  obtain ⟨v, hv⟩ := hiff.mp rfl
  rw [hpython] at hv
  cases hv

end Wlmio.Proof
