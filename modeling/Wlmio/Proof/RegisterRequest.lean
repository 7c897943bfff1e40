import Wlmio.Proof.Ledger
import Wlmio.Proof.RegisterTables
import Wlmio.Proof.Scenario

/-!
# Register requests

The payload that `wlmio_register_access` builds, read back by the layout of the service:
`readRequest` takes the name, the type, the length and the value apart and demands that
nothing is left. The encoder rounds the size of the value down where the layout rounds it
up, so the two agree except for bit arrays that do not fill their last byte
(`request_read_back_iff`).
-/

namespace Wlmio.Proof

open Wlmio.Client Wlmio.Canard

/-! ## The layout -/

structure AccessRequest where
  name : List Byte
  type : Nat
  length : Nat
  value : List Byte
deriving DecidableEq

/-- The register: type, length field and value, up to the end. -/
def readRegisterValue (name payload : List Byte) : Option AccessRequest :=
  match payload with
  | [] => none
  | type :: rest =>
    let length := Bytes.toNat (rest.take (lengthWidth type.toNat))
    if type.toNat ≤ WLMIO_REGISTER_VALUE_FLOAT16 ∧
        rest.length = lengthWidth type.toNat + (length * bitWidth type.toNat + 7) / 8 then
      some ⟨name, type.toNat, length, rest.drop (lengthWidth type.toNat)⟩
    else none

/-- A request: length of the name, name and register. -/
def readRequest (payload : List Byte) : Option AccessRequest :=
  match payload with
  | [] => none
  | nameLen :: rest =>
    if nameLen.toNat ≤ rest.length then
      readRegisterValue (rest.take nameLen.toNat) (rest.drop nameLen.toNat)
    else none

/-- The first `n` bits of a byte string, lowest first. -/
def bits (bytes : List Byte) (n : Nat) : List Bool :=
  (List.range n).map (fun i => (Bytes.zeroExtended bytes (i / 8)).getLsbD (i % 8))

/-- The elements of a value, each by its bits. -/
def elementsOf (type length : Nat) (value : List Byte) : List Nat :=
  if type = WLMIO_REGISTER_VALUE_BIT then (bits value length).map Bool.toNat
  else Bytes.words (bitWidth type / 8) length value

/-- The floating-point number with these bits, at these widths of exponent and fraction, is the
integer. -/
def FloatIs (exponent fraction bits : Nat) (n : Int) : Prop :=
  let e := (bits >>> fraction) % 2 ^ exponent
  let f := bits % 2 ^ fraction
  let sign : Int := if bits >>> (exponent + fraction) % 2 = 1 then -1 else 1
  e + 1 < 2 ^ exponent ∧ n * 2 ^ (2 ^ (exponent - 1) - 1 + fraction) =
    sign * (if e = 0 then 2 * f else (2 ^ fraction + f) * 2 ^ e)

example : FloatIs 8 23 0xC0A00000 (-5) := by unfold FloatIs; decide

/-- An element of a register of this type, by its bits, is the integer. -/
def ElementIs (type element : Nat) (n : Int) : Prop :=
  match type with
  | 4 | 5 | 6 | 7 => n = (BitVec.ofNat (bitWidth type) element).toInt
  | 12 => FloatIs 11 52 element n
  | 13 => FloatIs 8 23 element n
  | 14 => FloatIs 5 10 element n
  | _ => n = element

/-- What a request should say: the first 50 characters of the name, and the register with all the
bits of its value, or an empty one. -/
structure AccessRequest.Says (q : AccessRequest) (name : List Byte)
    (regw : Option WlmioRegisterAccess) : Prop where
  name : q.name = (cString name).take 50
  empty : (∀ reg ∈ regw, reg.type.toNat = WLMIO_REGISTER_VALUE_EMPTY) →
    q.type = WLMIO_REGISTER_VALUE_EMPTY ∧ q.value = []
  register : ∀ reg ∈ regw, reg.type.toNat ≠ WLMIO_REGISTER_VALUE_EMPTY →
    q.type = reg.type.toNat ∧ q.length = reg.length.toNat ∧
      bits q.value (reg.length.toNat * bitWidth reg.type.toNat) =
        bits reg.value (reg.length.toNat * bitWidth reg.type.toNat)

/-! ## What the encoder writes -/

theorem name_take (name : List Byte) : name.take (strnlen name 50) = (cString name).take 50 := by
  obtain ⟨rest, hrest⟩ : ∃ rest, name = cString name ++ rest :=
    ⟨_, (List.takeWhile_append_dropWhile).symm⟩
  unfold strnlen
  generalize cString name = s at hrest
  rw [hrest, List.take_append]
  rcases Nat.le_total s.length 50 with h | h
  · rw [Nat.min_eq_left h, List.take_of_length_le (Nat.le_refl _), List.take_of_length_le h,
      Nat.sub_self, List.take_zero, List.append_nil]
  · rw [Nat.min_eq_right h, Nat.sub_eq_zero_of_le h, List.take_zero, List.append_nil]

/-- The start of every request. -/
def requestName (name : List Byte) : List Byte :=
  BitVec.ofNat 8 (strnlen name 50) :: (cString name).take 50

/-- The bytes of the value that are written. -/
def writtenSize (reg : WlmioRegisterAccess) : Nat :=
  reg.length.toNat * bitWidth reg.type.toNat / 8

/-- The rest of a request. -/
def requestRegister (regw : Option WlmioRegisterAccess) : List Byte :=
  match regw with
  | none => [0#8]
  | some reg =>
    if reg.type.toNat = WLMIO_REGISTER_VALUE_EMPTY then [reg.type]
    else reg.type :: (Bytes.ofNat (lengthWidth reg.type.toNat) reg.length.toNat ++
      reg.value.take (writtenSize reg))

theorem emit_ok {payload bytes : List Byte} (h : payload.length + bytes.length ≤ 310) :
    emit payload bytes = .ok (payload ++ bytes) := if_pos h

theorem length_requestName (name : List Byte) :
    (requestName name).length = 1 + min (cString name).length 50 := by
  unfold requestName
  rw [List.length_cons, List.length_take, Nat.min_comm, Nat.add_comm]

theorem length_requestName_le (name : List Byte) : (requestName name).length ≤ 51 := by
  rw [length_requestName]
  omega

theorem writtenSize_le {reg : WlmioRegisterAccess} (h : ValidRegister reg) : writtenSize reg ≤ 256 :=
  Nat.le_trans (Nat.div_le_div_right (Nat.le_add_right _ 7)) h.facts.2.1

/-- The part for a register that is not empty. -/
theorem emitRegister_ok {reg : WlmioRegisterAccess} (h : ValidRegister reg) {payload : List Byte}
    (hlen : payload.length ≤ 52) :
    emitRegister payload reg = .ok (payload ++ (Bytes.ofNat (lengthWidth reg.type.toNat)
      reg.length.toNat ++ reg.value.take (writtenSize reg))) := by
  have hwidth := lengthWidth_le reg.type.toNat
  have hfield : (Bytes.ofNat 2 reg.length.toNat).take (lengthWidth reg.type.toNat) =
      Bytes.ofNat (lengthWidth reg.type.toNat) reg.length.toNat := Bytes.take_ofNat hwidth _
  have hbytes : (reg.length.toNat * bitWidth reg.type.toNat) >>> 3 = writtenSize reg := by
    rw [Nat.shiftRight_eq_div_pow]
    rfl
  have hsize := writtenSize_le h
  unfold emitRegister
  rw [lengthWidth_get h.type_le, bitWidth_get h.type_le]
  dsimp only
  rw [hfield, emit_ok (by rw [Bytes.length_ofNat]; omega), hbytes]
  show (if writtenSize reg ≤ 256 then _ else _) = _
  rw [if_pos hsize, emit_ok]
  · rw [List.append_assoc]
  · rw [List.length_append, Bytes.length_ofNat, List.length_take]
    omega

/-- **The buffer is large enough for every request**, and no assertion fails. -/
theorem registerAccessPayload_ok (name : List Byte) {regw : Option WlmioRegisterAccess}
    (hvalid : ∀ reg ∈ regw, validateRegisterAccess reg = 0) :
    registerAccessPayload name regw = .ok (requestName name ++ requestRegister regw) := by
  have hname := length_requestName_le name
  have hstart : (emit [BitVec.ofNat 8 (strnlen name 50)] (name.take (strnlen name 50))) =
      .ok (requestName name) := by
    rw [name_take]
    exact emit_ok (by
      unfold requestName at hname
      rw [List.length_cons] at hname
      rw [List.length_singleton]
      omega)
  have hone : ∀ b : Byte, emit (requestName name) [b] = .ok (requestName name ++ [b]) :=
    fun b => emit_ok (by rw [List.length_singleton]; omega)
  unfold registerAccessPayload
  dsimp only
  rw [emit_ok (by simp)]
  show (emit [BitVec.ofNat 8 (strnlen name 50)] (name.take (strnlen name 50)) >>= _) = _
  rw [hstart]
  cases regw with
  | none => exact hone _
  | some reg =>
      show (emit (requestName name) [reg.type] >>= _) = _
      rw [hone]
      show (if reg.type.toNat ≠ WLMIO_REGISTER_VALUE_EMPTY then
        emitRegister (requestName name ++ [reg.type]) reg
        else .ok (requestName name ++ [reg.type])) = _
      by_cases he : reg.type.toNat = WLMIO_REGISTER_VALUE_EMPTY
      · rw [if_neg (not_not.mpr he), requestRegister, if_pos he]
      · rw [if_pos he, requestRegister, if_neg he, emitRegister_ok ⟨he, hvalid reg rfl⟩]
        · rw [List.append_assoc]
          rfl
        · rw [List.length_append, List.length_singleton]
          omega

theorem length_payload_le (name : List Byte) {regw : Option WlmioRegisterAccess}
    (hvalid : ∀ reg ∈ regw, validateRegisterAccess reg = 0) :
    (requestName name ++ requestRegister regw).length ≤ REQUEST_SIZE := by
  have hname := length_requestName_le name
  have hregister : (requestRegister regw).length ≤ 259 := by
    unfold requestRegister
    split
    · exact Nat.le_add_left 1 258
    · rename_i reg
      split
      · exact Nat.le_add_left 1 258
      · rename_i hne
        have hwidth := lengthWidth_le reg.type.toNat
        have hsize := writtenSize_le ⟨hne, hvalid reg rfl⟩
        rw [List.length_cons, List.length_append, Bytes.length_ofNat, List.length_take]
        omega
  rw [List.length_append]
  unfold REQUEST_SIZE
  omega

/-! ## Reading it back -/

/-- Bit arrays are made of whole bytes. -/
def WholeBytes (regw : Option WlmioRegisterAccess) : Prop :=
  ∀ reg ∈ regw, reg.type.toNat = WLMIO_REGISTER_VALUE_BIT → 8 ∣ reg.length.toNat

/-- The elements of every other type are made of whole bytes. -/
theorem bitWidth_facts : ∀ type < 15,
    (type = WLMIO_REGISTER_VALUE_BIT ∧ bitWidth type = 1) ∨
      (type ≠ WLMIO_REGISTER_VALUE_BIT ∧ 8 ∣ bitWidth type) := by decide

theorem writtenSize_eq_iff {reg : WlmioRegisterAccess} (h : ValidRegister reg) :
    writtenSize reg = valueSize reg ↔
      (reg.type.toNat = WLMIO_REGISTER_VALUE_BIT → 8 ∣ reg.length.toNat) := by
  have hround : writtenSize reg = valueSize reg ↔
      8 ∣ reg.length.toNat * bitWidth reg.type.toNat := by
    unfold writtenSize valueSize
    omega
  rw [hround]
  rcases bitWidth_facts _ (Nat.lt_succ_of_le h.type_le) with ⟨hbit, hone⟩ | ⟨hbit, height⟩
  · rw [hone, Nat.mul_one]
    exact ⟨fun hd _ => hd, fun hd => hd hbit⟩
  · exact iff_of_true (Dvd.dvd.mul_left height _) (fun hn => absurd hn hbit)

/-- The bits of whole bytes are in these bytes. -/
theorem bits_take {bytes : List Byte} {k n : Nat} (h : n ≤ 8 * k) :
    bits (bytes.take k) n = bits bytes n := by
  unfold bits
  refine List.map_congr_left ?_
  intro i hi
  have hlt := List.mem_range.mp hi
  have hbyte : Bytes.zeroExtended (bytes.take k) (i / 8) = Bytes.zeroExtended bytes (i / 8) := by
    unfold Bytes.zeroExtended
    rw [List.getD_eq_getElem?_getD, List.getD_eq_getElem?_getD, List.getElem?_take,
      if_pos (by omega)]
  rw [hbyte]

theorem readRequest_name (name rest : List Byte) :
    readRequest (requestName name ++ rest) = readRegisterValue ((cString name).take 50) rest := by
  have hlen : ((cString name).take 50).length = strnlen name 50 := by
    rw [List.length_take, Nat.min_comm]
    rfl
  have hsmall : strnlen name 50 ≤ 50 := Nat.min_le_right _ _
  have hbyte : (BitVec.ofNat 8 (strnlen name 50)).toNat = strnlen name 50 :=
    Nat.mod_eq_of_lt (by omega)
  unfold requestName
  rw [List.cons_append]
  unfold readRequest
  dsimp only
  rw [hbyte, if_pos (by rw [List.length_append]; omega), ← hlen, List.take_left, List.drop_left]

/-- A register is read back if its size was rounded up, and not at all if it was rounded down. -/
theorem readRegisterValue_register (name : List Byte) {reg : WlmioRegisterAccess}
    (h : ValidRegister reg) :
    readRegisterValue name (requestRegister (some reg)) =
      if writtenSize reg = valueSize reg then
        some ⟨name, reg.type.toNat, reg.length.toNat, reg.value.take (writtenSize reg)⟩
      else none := by
  have hsize := writtenSize_le h
  have hvalue : (reg.value.take (writtenSize reg)).length = writtenSize reg := by
    rw [List.length_take, reg.value_length]
    exact Nat.min_eq_left hsize
  have hfield := Bytes.length_ofNat (lengthWidth reg.type.toNat) reg.length.toNat
  have hlength : Bytes.toNat ((Bytes.ofNat (lengthWidth reg.type.toNat) reg.length.toNat ++
      reg.value.take (writtenSize reg)).take (lengthWidth reg.type.toNat)) = reg.length.toNat := by
    rw [List.take_left' hfield, Bytes.toNat_ofNat, Nat.mod_eq_of_lt h.facts.2.2]
  have hcond : (reg.type.toNat ≤ WLMIO_REGISTER_VALUE_FLOAT16 ∧
      (Bytes.ofNat (lengthWidth reg.type.toNat) reg.length.toNat ++
        reg.value.take (writtenSize reg)).length = lengthWidth reg.type.toNat + valueSize reg) ↔
        writtenSize reg = valueSize reg := by
    rw [List.length_append, hfield, hvalue]
    exact ⟨fun hc => by omega, fun hc => ⟨h.type_le, by omega⟩⟩
  unfold requestRegister
  dsimp only
  rw [if_neg h.nonempty]
  unfold readRegisterValue
  dsimp only
  rw [hlength, List.drop_left' hfield]
  exact if_congr hcond rfl rfl

/-- An empty register is read back as such. -/
theorem readRegisterValue_empty (name : List Byte) {regw : Option WlmioRegisterAccess}
    (h : ∀ reg ∈ regw, reg.type.toNat = WLMIO_REGISTER_VALUE_EMPTY) :
    readRegisterValue name (requestRegister regw) =
      some ⟨name, WLMIO_REGISTER_VALUE_EMPTY, 0, []⟩ := by
  cases regw with
  | none => rfl
  | some reg =>
      have htype : reg.type = 0#8 := BitVec.eq_of_toNat_eq (h reg rfl)
      unfold requestRegister
      dsimp only
      rw [if_pos (h reg rfl), htype]
      rfl

/-- **The payload says what it should exactly when** bit arrays are made of whole bytes. -/
theorem request_says_iff (name : List Byte) {regw : Option WlmioRegisterAccess}
    (hvalid : ∀ reg ∈ regw, validateRegisterAccess reg = 0) :
    (∃ q, readRequest (requestName name ++ requestRegister regw) = some q ∧ q.Says name regw) ↔
      WholeBytes regw := by
  rw [readRequest_name]
  by_cases hempty : ∀ reg ∈ regw, reg.type.toNat = WLMIO_REGISTER_VALUE_EMPTY
  · rw [readRegisterValue_empty _ hempty]
    refine iff_of_true ⟨_, rfl, rfl, fun _ => ⟨rfl, rfl⟩, ?_⟩ ?_
    · intro reg hreg hne
      exact absurd (hempty reg hreg) hne
    · intro reg hreg hbit
      rw [hempty reg hreg] at hbit
      cases hbit
  · obtain ⟨reg, rfl, hne⟩ : ∃ reg, regw = some reg ∧
        reg.type.toNat ≠ WLMIO_REGISTER_VALUE_EMPTY := by
      cases regw with
      | none => exact absurd (fun _ h => by cases h) hempty
      | some reg => exact ⟨reg, rfl, fun heq => hempty (fun r hr => Option.some.inj hr ▸ heq)⟩
    have hreg : ValidRegister reg := ⟨hne, hvalid reg rfl⟩
    have hwhole : WholeBytes (some reg) ↔ writtenSize reg = valueSize reg := by
      rw [writtenSize_eq_iff hreg]
      exact ⟨fun h => h reg rfl, fun h r hr => Option.some.inj hr ▸ h⟩
    rw [readRegisterValue_register _ hreg, hwhole]
    constructor
    · rintro ⟨q, hq, _⟩
      -- a size that was rounded down ends inside the last byte
      by_contra hn
      rw [if_neg hn] at hq
      cases hq
    · intro heq
      refine ⟨_, if_pos heq, rfl, fun h => absurd (h reg rfl) hne, ?_⟩
      intro r hr _
      obtain rfl := Option.some.inj hr
      refine ⟨rfl, rfl, bits_take ?_⟩
      unfold valueSize at heq
      omega

/-! ## The call -/

/-- The call builds `payload` without leaving the buffer and without a failed assertion, and hands
it to `canardTxPush`; and it says what it should. -/
structure EncodedAs (w : World) (nodeId : BitVec 8) (name : List Byte)
    (regw : Option WlmioRegisterAccess) (regr : Param) (callback : Option Callback) (os : Os)
    (payload : List Byte) : Prop where
  built : registerAccessPayload name regw = .ok payload
  size : payload.length ≤ REQUEST_SIZE
  handed : ∀ w' r, wlmioRegisterAccess w nodeId (some name) regw regr callback os = .ok (w', r) →
    ∃ i, w'.bus.issued = w.bus.issued ++ [i] ∧ i.transfer.payload = payload
  read : ∃ q, readRequest payload = some q ∧ q.Says name regw

/-- The ledger has the payload that was submitted. -/
theorem submit_issued {w w' : World} {service : Service} {nodeId : Nat} {payload : List Byte}
    {param : Param} {callback : Option Callback} {os : Os}
    (h : submit w service nodeId payload param callback os = .ok w') :
    ∃ i, w'.bus.issued = w.bus.issued ++ [i] ∧ i.transfer.payload = payload := by
  have hissued := pushed_issued w.registry w.bus service nodeId payload os
  rw [submit_bus h]
  exact ⟨_, hissued, rfl⟩

/-- **A request that is accepted is encoded as it should exactly when** bit arrays are made of
whole bytes. -/
theorem request_read_back_iff {w : World} {nodeId : BitVec 8} {name : List Byte}
    {regw : Option WlmioRegisterAccess} {regr : Param} {callback : Option Callback} {os : Os}
    (h : ¬ RefusedAccess nodeId (some name) regw regr) :
    (∃ payload, EncodedAs w nodeId name regw regr callback os payload) ↔ WholeBytes regw := by
  have hvalid : ∀ reg ∈ regw, validateRegisterAccess reg = 0 := by
    intro reg hreg
    by_contra hn
    exact h (.inr (.inr (.inr ⟨reg, hreg, hn⟩)))
  have hbuilt := registerAccessPayload_ok name hvalid
  rw [← request_says_iff name hvalid]
  constructor
  · rintro ⟨payload, hp⟩
    obtain rfl := Except.ok.inj (hp.built.symm.trans hbuilt)
    exact hp.read
  · intro hread
    refine ⟨_, hbuilt, length_payload_le name hvalid, ?_, hread⟩
    intro w' r hcall
    rcases registerAccess_cases hcall with ⟨hr, _⟩ | ⟨_, _, payload, hp, hs⟩
    · exact absurd hr h
    · obtain rfl := Except.ok.inj ((hp name rfl).symm.trans hbuilt)
      exact submit_issued hs

/-- Sixteen bits are two bytes. -/
def wholeBits : WlmioRegisterAccess := ⟨3#8, 16#16, List.replicate 256 170#8, List.length_replicate⟩

theorem request_read_back_bits : ∃ payload, EncodedAs started 7 [97#8] (some wholeBits) .null
    (some (.caller (.user 0))) (grantFrom 5 0) payload :=
  (request_read_back_iff (by
    simp only [RefusedAccess, not_or]
    decide)).mpr (by unfold WholeBytes; decide)

/-- One bit, which is set. -/
def oneBit : WlmioRegisterAccess :=
  ⟨3#8, 1#16, 1#8 :: List.replicate 255 0#8, by rw [List.length_cons, List.length_replicate]⟩

/-- **The value of a single bit is not sent**: the request that is handed over ends behind the
length field and cannot be read. -/
theorem single_bit_lost : validateRegisterAccess oneBit = 0 ∧ ∃ w, Reachable w ∧
    w.bus.issued.map (fun i => i.transfer.payload) = [[1#8, 97#8, 3#8, 1#8, 0#8]] ∧
    readRequest [1#8, 97#8, 3#8, 1#8, 0#8] = none := by
  refine ⟨rfl, ?_⟩
  obtain ⟨w, hr, hw⟩ := exists_after Transition.free
    [.request (.registerAccess 7 (some [97#8]) (some oneBit) none) (some 0) (grantFrom 5)]
    (fun w => decide (w.bus.issued.map (fun i => i.transfer.payload) =
      [[1#8, 97#8, 3#8, 1#8, 0#8]])) (by decide +kernel)
  exact ⟨w, hr, of_decide_eq_true hw, by decide⟩

end Wlmio.Proof
