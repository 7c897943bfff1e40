import Wlmio.Client.Request

/-!
# Requests of the Python binding

`Node.register_access` of `pywlmio.py` up to the future it awaits, and `register_access` of the
native module that it calls.

Only the unsigned types have a branch that packs the values. For every other type the length is
0, and nothing is packed.
-/

namespace Wlmio.Pywlmio

open Wlmio.Client

/-! ## Arguments -/

/-- `class RegisterType(enum.IntEnum)`. -/
inductive RegisterType where
  | empty | string | unstructured | bit
  | int64 | int32 | int16 | int8
  | uint64 | uint32 | uint16 | uint8
  | float64 | float32 | float16
deriving DecidableEq, Repr

def RegisterType.value : RegisterType → Nat
  | .empty => 0
  | .string => 1
  | .unstructured => 2
  | .bit => 3
  | .int64 => 4
  | .int32 => 5
  | .int16 => 6
  | .int8 => 7
  | .uint64 => 8
  | .uint32 => 9
  | .uint16 => 10
  | .uint8 => 11
  | .float64 => 12
  | .float32 => 13
  | .float16 => 14

/-- An item of a sequence of values. -/
inductive PyValue where
  /-- An `int`, a `bool` or an item of a `bytes`. -/
  | int (n : Int)
  /-- A `float`, by its bits in the format of the register. -/
  | float (bits : Nat)
  /-- A character of a `str`. -/
  | str (c : Char)
deriving DecidableEq, Repr

/-- A code point of a `str`, which may have surrogates. -/
inductive CodePoint where
  | char (c : Char)
  | surrogate (n : Nat)
deriving DecidableEq, Repr

/-- What is raised before anything is sent. -/
inductive RequestError where
  | structError
  | unicodeEncodeError
  | valueError
  | systemError
deriving DecidableEq, Repr

/-! ## `Node.register_access` -/

/-- `pack("{n}B", *value)` and the like: every item has to be an integer that fits. -/
def packNumbers (size : Nat) : List PyValue → Except RequestError (List Byte)
  | [] => .ok []
  | .int n :: values =>
    if 0 ≤ n ∧ n < 256 ^ size then do
      let data ← packNumbers size values
      .ok (Bytes.ofNat size n.toNat ++ data)
    else .error .structError
  | _ :: _ => .error .structError

/-- The `256s` of the native struct: the data is cut off, or filled up with zeros. -/
def packBytes (data : List Byte) : { value : List Byte // value.length = 256 } :=
  ⟨(data ++ List.replicate 256 0#8).take 256, by
    rw [List.length_take, List.length_append, List.length_replicate]
    omega⟩

/-- `s.pack(reg_type, length, data)`: a length above `UINT16_MAX` does not fit the `H`. -/
def packRegister (regType : RegisterType) (length : Nat) (data : List Byte) :
    Except RequestError WlmioRegisterAccess :=
  if length ≤ UINT16_MAX then
    .ok ⟨BitVec.ofNat 8 regType.value, BitVec.ofNat 16 length, (packBytes data).val,
      (packBytes data).property⟩
  else .error .structError

/-- The branches on the type, and `s.pack`. -/
def packValue (regType : Option RegisterType) (value : Option (List PyValue)) :
    Except RequestError WlmioRegisterAccess :=
  match regType, value with
  | some .uint32, some value => do
    let data ← packNumbers 4 value
    packRegister .uint32 value.length data
  | some .uint16, some value => do
    let data ← packNumbers 2 value
    packRegister .uint16 value.length data
  | some .uint8, some value => do
    let data ← packNumbers 1 value
    packRegister .uint8 value.length data
  -- no branch: the values are not looked at
  | some regType, some _ => packRegister regType 0 []
  | _, _ => packRegister .empty 0 []

/-! ## `register_access` -/

/-- The UTF-8 of a `str`; a surrogate has none. -/
def encodeUtf8 : List CodePoint → Option (List Byte)
  | [] => some []
  | .char c :: s => (encodeUtf8 s).map (fun bytes =>
      (String.utf8EncodeChar c).map UInt8.toBitVec ++ bytes)
  | .surrogate _ :: _ => none

/-- The `s` of `PyArg_ParseTuple`. -/
def parseString (s : List CodePoint) : Except RequestError (List Byte) :=
  match encodeUtf8 s with
  | none => .error .unicodeEncodeError
  | some bytes => if 0#8 ∈ bytes then .error .valueError else .ok bytes

/-- `register_access` of the native module; its task calls back with the future. -/
def nativeRegisterAccess (w : World) (nodeId : BitVec 8) (name : List CodePoint)
    (regw : WlmioRegisterAccess) (future : Nat) (os : Os) :
    Except Fault (World × Option RequestError) :=
  match parseString name with
  | .error e => .ok (w, some e)
  | .ok name =>
    -- the result of `malloc` is not checked
    if !os.recordMalloc then .error .nullDereference
    else do
      let (w, r) ← wlmioRegisterAccess w nodeId (some name) (some regw) (.register future)
        (some (.caller (.user future))) os
      .ok (w, if r < 0 then some .systemError else none)

/-- `Node.register_access`, up to the future; the second result is what it raises. -/
def nodeRegisterAccess (w : World) (nodeId : BitVec 8) (name : List CodePoint)
    (regType : Option RegisterType) (value : Option (List PyValue)) (future : Nat) (os : Os) :
    Except Fault (World × Option RequestError) :=
  match packValue regType value with
  | .error e => .ok (w, some e)
  | .ok regw => nativeRegisterAccess w nodeId name regw future os

end Wlmio.Pywlmio
