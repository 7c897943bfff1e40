import Wlmio.Client.Io

/-!
# Reads of the Python binding

The end of `Node.register_access` and of the `read` methods of the channel classes of
`pywlmio.py`: the reply comes in as the bytes of a `struct wlmio_register_access`, is
unpacked by the type it has, and is checked against the type the channel expects.

The classes differ in that type, and `VPE6010Channel` returns all numbers of the register
where the others return the first.
-/

namespace Wlmio.Pywlmio

open Wlmio.Client

/-- What is raised. -/
inductive PyError where
  | assertionError
  | structError
  | indexError
  | typeError
deriving DecidableEq, Repr

/-- What `Node.register_access` returns. -/
inductive RegisterReply where
  /-- The type and the numbers of a register of `UINT32`, `UINT16` or `UINT8`. -/
  | numbers (type : Nat) (values : List Nat)
  /-- The tuple of type, length and bytes, of any other type. -/
  | raw (type length : Nat) (value : List Byte)
deriving DecidableEq

/-- `unpack("{0}I".format(length), data)` and the like: the data has to be that long. -/
def unpackNumbers (size length : Nat) (data : List Byte) : Except PyError (List Nat) :=
  if data.length = length * size then .ok (Bytes.words size length data) else .error .structError

/-- `(regr[0], unpack(.., regr[2][0:regr[1]*size]))`. -/
def unpackValue (size : Nat) (regr : WlmioRegisterAccess) : Except PyError RegisterReply := do
  let values ← unpackNumbers size regr.length.toNat (regr.value.take (regr.length.toNat * size))
  .ok (.numbers regr.type.toNat values)

/-- The end of `Node.register_access`, with the reply of a result that is not negative. -/
def registerAccess (regr : WlmioRegisterAccess) : Except PyError RegisterReply :=
  if regr.type.toNat = WLMIO_REGISTER_VALUE_UINT32 then unpackValue 4 regr
  else if regr.type.toNat = WLMIO_REGISTER_VALUE_UINT16 then unpackValue 2 regr
  else if regr.type.toNat = WLMIO_REGISTER_VALUE_UINT8 then unpackValue 1 regr
  else .ok (.raw regr.type.toNat regr.length.toNat regr.value)

/-- `r[0]`. -/
def RegisterReply.type : RegisterReply → Nat
  | .numbers type _ => type
  | .raw type _ _ => type

/-- What `read` returns: one number, or a tuple. -/
inductive ReadValue where
  | number (n : Nat)
  | tuple (values : List Nat)
deriving DecidableEq, Repr

/-- The type that `read` of the channel of a module asserts. -/
def assertedType : ReadModule → Nat
  | .vpe6060 | .vpe6090 | .vpe6190 => WLMIO_REGISTER_VALUE_UINT32
  | _ => WLMIO_REGISTER_VALUE_UINT16

/-- `r[1][0]`; the second item of a raw reply is a number. -/
def RegisterReply.first : RegisterReply → Except PyError ReadValue
  | .numbers _ (n :: _) => .ok (.number n)
  | .numbers _ [] => .error .indexError
  | .raw _ _ _ => .error .typeError

/-- `r[1]`. -/
def RegisterReply.second : RegisterReply → ReadValue
  | .numbers _ values => .tuple values
  | .raw _ length _ => .number length

/-- `read` of the channel of a module, behind `_check_name`. -/
def channelRead (module : ReadModule) (regr : WlmioRegisterAccess) : Except PyError ReadValue := do
  let r ← registerAccess regr
  if r.type ≠ assertedType module then .error .assertionError
  else match module with
    | .vpe6010 => .ok r.second
    | _ => r.first

/-- The values of a channel. -/
def ReadValue.values : ReadValue → List Nat
  | .number n => [n]
  | .tuple values => values

end Wlmio.Pywlmio
