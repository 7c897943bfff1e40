import Wlmio.Client.Register
import Wlmio.Pywlmio.Node

/-!
# The list of the registers of a node

`Node.list_registers` of `pywlmio.py`, and `register_list_callback` of the native module, which
makes the result of each of its requests.
-/

namespace Wlmio.Pywlmio

open Wlmio.Client

/-- The result of the future: `r`, and the name or `None`. -/
abbrev NameResult := Int × Option String

/-- `register_list_callback`. A name that is not UTF-8 leaves `NULL` in place of the result, and the
reference count of that is taken down. -/
def registerListCallback (r : Int) (name : List Byte) : Except Fault NameResult :=
  if r < 0 then .ok (r, none)
  else match decodeUtf8 (cString name) with
    | some value => .ok (r, some value)
    | none => .error .nullDereference

/-- How a listing has ended, after how many requests. -/
structure Listing where
  requests : Nat
  result : Except NodeError (List String)

/-- The loop over the rest of the range, which has `n` indices from `i` on. `reply` is what a request
completes with, and what its buffer has then. -/
def listFrom (reply : Nat → Int × List Byte) : Nat → Nat → List String → Except Fault Listing
  | 0, i, names => .ok ⟨i, .ok names⟩
  | n + 1, i, names => do
    let r ← registerListCallback (reply i).1 (reply i).2
    match r.2 with
    -- `len(None)`
    | none => .ok ⟨i + 1, .error .typeError⟩
    | some name =>
      if name = "" then .ok ⟨i + 1, .ok names⟩
      else listFrom reply n (i + 1) (names ++ [name])

/-- `Node.list_registers`. -/
def listRegisters (reply : Nat → Int × List Byte) : Except Fault Listing :=
  listFrom reply (2 ^ 16 - 1) 0 []

end Wlmio.Pywlmio
