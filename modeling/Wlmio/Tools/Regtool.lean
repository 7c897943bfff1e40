import Wlmio.Client.Register
import Wlmio.Library.Fallible
import Wlmio.Library.Strtol

/-!
# The register tool

`regtool.c`: its command line, and the loop that dumps the registers of a node.

Numbers are narrowed to the variable they are stored in before they are checked. The values of
a register are parsed for two of its types.
-/

namespace Wlmio.Tools

open Client Strtol

/-! ## The command line -/

inductive Mode where
  | dump
  | read
  | write
deriving DecidableEq, Repr

/-- What ends a function before it returns. -/
inductive Stop where
  /-- `exit(EXIT_FAILURE)`, after a message. -/
  | exit
  | fault (f : Fault)
deriving DecidableEq, Repr

/-- The static variables. -/
structure Settings where
  mode : Mode
  nodeId : BitVec 8
  name : List Byte
  regWrite : WlmioRegisterAccess
deriving DecidableEq

/-- Static variables are zero at first. -/
def Settings.zero : Settings where
  mode := .dump
  nodeId := 0#8
  name := List.replicate 51 0#8
  regWrite := ⟨0#8, 0#16, List.replicate 256 0#8, List.length_replicate⟩

/-- `strtol`, and the look at `errno` and `endptr`. -/
def convert (l : Long) (arg : List Byte) : Except Stop Int :=
  let r := strtol l arg
  if r.range ∨ r.endptr = 0 then .error .exit else .ok r.value

/-- `reg_write.value`. -/
abbrev RegisterValue := { value : List Byte // value.length = 256 }

/-- Write the `i`-th element. -/
def storeElement (size i : Nat) (n : Int) (value : RegisterValue) : Except Stop RegisterValue :=
  match h : Bytes.copy value.val (size * i) (Bytes.ofNat size (n % 256 ^ size).toNat) 0 size with
  | some value' => .ok ⟨value', (Bytes.length_of_copy h).trans value.property⟩
  | none => .error (.fault .outOfBounds)

/-- The loop over the values, at a size of the elements. -/
def parseElements (l : Long) (size : Nat) :
    Nat → List (List Byte) → RegisterValue → Except Stop RegisterValue
  | _, [], value => .ok value
  | i, arg :: args, value => do
    let n ← convert l arg
    let value ← storeElement size i n value
    parseElements l size (i + 1) args value

/-- A branch of `parse_value`. -/
def parseBranch (l : Long) (size : Nat) (args : List (List Byte)) (reg : WlmioRegisterAccess) :
    Except Stop WlmioRegisterAccess := do
  let value ← parseElements l size 0 args ⟨reg.value, reg.value_length⟩
  .ok ⟨reg.type, BitVec.ofNat 16 args.length, value.val, value.property⟩

def parseValue (l : Long) (args : List (List Byte)) (reg : WlmioRegisterAccess) :
    Except Stop WlmioRegisterAccess :=
  if reg.type.toNat = WLMIO_REGISTER_VALUE_UINT8 then parseBranch l 1 args reg
  else if reg.type.toNat = WLMIO_REGISTER_VALUE_UINT16 then parseBranch l 2 args reg
  -- no branch: the values are not looked at
  else .ok reg

def parseNodeId (l : Long) (arg : List Byte) : Except Stop (BitVec 8) := do
  let n ← convert l arg
  let nodeId := BitVec.ofInt 8 n
  if 127 < nodeId.toNat then .error .exit else .ok nodeId

/-- `memset(name, 0, 51)` and `strncpy(name, arg, 50)`. -/
def parseName (arg : List Byte) : List Byte :=
  let chars := (cString arg).take 50
  chars ++ List.replicate (51 - chars.length) 0#8

def parseType (l : Long) (arg : List Byte) : Except Stop (BitVec 8) := do
  let n ← convert l arg
  let type := BitVec.ofInt 8 n
  if type.toNat < 1 ∨ 14 < type.toNat then .error .exit else .ok type

def parseArguments (l : Long) (argv : List (List Byte)) (s : Settings) : Except Stop Settings :=
  match argv with
  | [_, id] => do
    let nodeId ← parseNodeId l id
    .ok { s with mode := .dump, nodeId := nodeId }
  | [_, id, name] => do
    let nodeId ← parseNodeId l id
    .ok { s with mode := .read, nodeId := nodeId, name := parseName name }
  | _ :: id :: name :: type :: value :: values => do
    let nodeId ← parseNodeId l id
    let type ← parseType l type
    let regWrite ← parseValue l (value :: values) { s.regWrite with type := type }
    .ok { mode := .write, nodeId := nodeId, name := parseName name, regWrite := regWrite }
  | _ => .error .exit

/-! ## `dump_registers` -/

/-- The registers that have been printed, each with the name it was accessed by. -/
abbrev Dump := List (List Byte × WlmioRegisterAccess)

/-- The loop. `list` is what `wlmio_register_list_sync` returns and leaves in `name`, `access` what
`wlmio_register_access_sync` returns and leaves in `value`. `none` where the fuel does not suffice. -/
def dumpFrom (list : Nat → Int × List Byte) (access : List Byte → Int × WlmioRegisterAccess) :
    Nat → Nat → Dump → Option Dump
  | 0, _, _ => none
  | fuel + 1, i, printed =>
    let (r, name) := list i
    if r < 0 then some printed
    else if cString name = [] then some printed
    else
      let (r, value) := access (cString name)
      if r < 0 then some printed
      else
        let printed := printed ++ [(cString name, value)]
        if i = UINT16_MAX then some printed
        else dumpFrom list access fuel (i + 1) printed

/-- `dump_registers`; the index of its loop has 16 bits. -/
def dumpRegisters (list : Nat → Int × List Byte)
    (access : List Byte → Int × WlmioRegisterAccess) : Option Dump :=
  dumpFrom list access (UINT16_MAX + 1) 0 []

end Wlmio.Tools
