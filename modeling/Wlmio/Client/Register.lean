import Wlmio.Canard.Dsdl
import Wlmio.Client.World

/-!
# Registers on the wire

The three tables of `wlmio.c` about register values, the check of a register against
them, the encoder of `wlmio_register_access` and the decoder of
`register_access_response_handler`.

Reads and writes are checked: leaving the table, the payload or one of the two
buffers is a `Fault`.
-/

namespace Wlmio.Client

open Canard

/-! ## Tables -/

def WLMIO_REGISTER_VALUE_EMPTY : Nat := 0
def WLMIO_REGISTER_VALUE_BIT : Nat := 3
def WLMIO_REGISTER_VALUE_UINT32 : Nat := 9
def WLMIO_REGISTER_VALUE_UINT16 : Nat := 10
def WLMIO_REGISTER_VALUE_UINT8 : Nat := 11
def WLMIO_REGISTER_VALUE_FLOAT16 : Nat := 14

def UINT16_MAX : Nat := 65535

def registerValueBitWidth : List Nat := [0, 8, 8, 1, 64, 32, 16, 8, 64, 32, 16, 8, 64, 32, 16]
def registerValueLengthWidth : List Nat := [0, 2, 2, 2, 1, 1, 1, 2, 1, 1, 1, 2, 1, 1, 1]

/-- `max_length` of the switch in `validate_register_access`. -/
def maxLength : Nat → Nat
  | 1 | 2 | 7 | 11 => 256
  | 3 => 2048
  | 4 | 8 | 12 => 32
  | 5 | 9 | 13 => 64
  | 6 | 10 | 14 => 128
  | _ => UINT16_MAX

def validateRegisterAccess (reg : WlmioRegisterAccess) : Int :=
  if WLMIO_REGISTER_VALUE_FLOAT16 < reg.type.toNat then -EINVAL
  else if maxLength reg.type.toNat < reg.length.toNat then -EINVAL
  else 0

/-! ## Requests -/

/-- Size of the buffer the request is put together in. -/
def REQUEST_SIZE : Nat := 310

/-- Write behind what is in the buffer already. -/
def emit (payload bytes : List Byte) : Except Fault (List Byte) :=
  if payload.length + bytes.length ≤ REQUEST_SIZE then .ok (payload ++ bytes)
  else .error .outOfBounds

/-- The characters of a C string, of which a `\0` is the end. -/
def cString (s : List Byte) : List Byte := s.takeWhile (fun c => decide (c ≠ 0#8))

def strnlen (s : List Byte) (maxlen : Nat) : Nat := min (cString s).length maxlen

/-- The part `regw->type != EMPTY` of the encoder: length field and value. -/
def emitRegister (payload : List Byte) (regw : WlmioRegisterAccess) : Except Fault (List Byte) :=
  match registerValueLengthWidth[regw.type.toNat]?, registerValueBitWidth[regw.type.toNat]? with
  | some lengthWidth, some bitWidth => do
    let payload ← emit payload ((Bytes.ofNat 2 regw.length.toNat).take lengthWidth)
    let bytes := (regw.length.toNat * bitWidth) >>> 3
    if bytes ≤ 256 then emit payload (regw.value.take bytes) else .error .assertion
  | _, _ => .error .outOfBounds

/-- The payload `wlmio_register_access` builds. -/
def registerAccessPayload (name : List Byte) (regw : Option WlmioRegisterAccess) :
    Except Fault (List Byte) := do
  let nameLen := strnlen name 50
  let payload ← emit [] [BitVec.ofNat 8 nameLen]
  let payload ← emit payload (name.take nameLen)
  match regw with
  | none => emit payload [BitVec.ofNat 8 WLMIO_REGISTER_VALUE_EMPTY]
  | some regw => do
    let payload ← emit payload [regw.type]
    if regw.type.toNat ≠ WLMIO_REGISTER_VALUE_EMPTY then emitRegister payload regw
    else .ok payload

/-! ## Replies -/

/-- What a getter returned. -/
def got (n : Option Nat) : Except Fault Nat :=
  match n with
  | some n => .ok n
  | none => .error .outOfBounds

/-- Copy `n` bytes of the payload to the front of a cleared field of `size` bytes. -/
def copyField (size : Nat) (payload : List Byte) (payloadOffset n : Nat) :
    Except Fault { field : List Byte // field.length = size } :=
  match h : Bytes.copy (List.replicate size 0#8) 0 payload payloadOffset n with
  | some field => .ok ⟨field, by rw [Bytes.length_of_copy h]; exact List.length_replicate⟩
  | none => .error .outOfBounds

theorem copyField_of_some {size : Nat} {payload : List Byte} {payloadOffset n : Nat}
    {field : List Byte} (hsize : field.length = size)
    (h : Bytes.copy (List.replicate size 0#8) 0 payload payloadOffset n = some field) :
    copyField size payload payloadOffset n = .ok ⟨field, hsize⟩ := by
  unfold copyField
  split
  · rename_i field' hcopy
    obtain rfl := Option.some.inj (hcopy.symm.trans h)
    rfl
  · rename_i hcopy
    rw [h] at hcopy
    cases hcopy

theorem copyField_of_none {size : Nat} {payload : List Byte} {payloadOffset n : Nat}
    (h : Bytes.copy (List.replicate size 0#8) 0 payload payloadOffset n = none) :
    copyField size payload payloadOffset n = .error .outOfBounds := by
  unfold copyField
  split
  · rename_i field hcopy
    rw [h] at hcopy
    cases hcopy
  · rfl

/-- A field that nothing is copied to. -/
def clearedField (size : Nat) : { field : List Byte // field.length = size } :=
  ⟨List.replicate size 0#8, List.length_replicate⟩

/-- The copy of everything behind `payloadOffset`, whatever its size, to `value`. -/
def copyValue (payload : List Byte) (payloadOffset : Nat) :
    Except Fault { value : List Byte // value.length = 256 } :=
  if payloadOffset < payload.length then
    copyField 256 payload payloadOffset (payload.length - payloadOffset)
  else .ok (clearedField 256)

/-- The register in a reply, and the result the task completes with. -/
def decodeRegisterAccess (payload : List Byte) : Except Fault (WlmioRegisterAccess × Int) := do
  -- skip timestamp and boolean values
  let payloadOffset := 8
  let type ← got (canardDSDLGetU8 payload (payloadOffset <<< 3) 8)
  let payloadOffset := payloadOffset + 1
  match registerValueLengthWidth[type]? with
  | none => .error .outOfBounds
  | some lengthWidth => do
    let length ← got (canardDSDLGetU16 payload (payloadOffset <<< 3) (lengthWidth <<< 3))
    let payloadOffset := payloadOffset + lengthWidth
    let value ← copyValue payload payloadOffset
    let regr : WlmioRegisterAccess :=
      ⟨BitVec.ofNat 8 type, BitVec.ofNat 16 length, value.val, value.property⟩
    if validateRegisterAccess regr ≠ 0 then .ok (regr, -EPROTO)
    else if regr.type.toNat = WLMIO_REGISTER_VALUE_EMPTY then .ok (regr, -ENOENT)
    else .ok (regr, 0)

end Wlmio.Client
