import Wlmio.Client.World
import Wlmio.Library.Fallible

/-!
# The descriptor list in memory

`fd_entry_find`, `fd_entry_close` and `fd_entry_add` as they work on pointers: the records lie
in dynamic memory, each with a pointer to the next one and to the one before, and
`fd_entry_head` points to the first. A `Registry` has the same list as a sequence.

`malloc` returns any address at which there is no record, also one that was freed before.
-/

namespace Wlmio.Client

/-- `struct fd_entry`. -/
structure FdEntryStruct where
  fd : Int
  handler : Handler
  next : Option Nat
  previous : Option Nat
deriving DecidableEq, Repr

/-- The live records, with their addresses, and the pointer to the first one. -/
structure FdMemory where
  fdEntryHead : Option Nat
  blocks : List (Nat × FdEntryStruct)
deriving DecidableEq, Repr

/-- What can go wrong in a function on the list. -/
inductive FdFault where
  | fault (f : Fault)
  /-- A loop visits more records than there are, so it goes round in a circle. -/
  | endless
deriving DecidableEq, Repr

namespace FdMemory

/-- The record at an address, if there is one. -/
def entryAt (m : FdMemory) (a : Nat) : Option FdEntryStruct :=
  (m.blocks.find? (fun b => decide (b.1 = a))).map Prod.snd

/-- Read the record a pointer points to. -/
def load (m : FdMemory) (p : Nat) : Except FdFault FdEntryStruct :=
  match m.entryAt p with
  | none => .error (.fault (.useAfterFree .fdEntry))
  | some e => .ok e

/-- Write the record a pointer points to. -/
def store (m : FdMemory) (p : Nat) (e : FdEntryStruct) : FdMemory :=
  { m with blocks := m.blocks.map (fun b => if b.1 = p then (p, e) else b) }

/-- The most records a loop can visit. -/
def fuel (m : FdMemory) : Nat := m.blocks.length + 1

/-- The loop of `fd_entry_find`. -/
def findFrom (m : FdMemory) (fd : Int) : Nat → Option Nat → Except FdFault (Option Nat)
  | 0, _ => .error .endless
  | _ + 1, none => .ok none
  | n + 1, some c => do
    let e ← m.load c
    if e.fd = fd then .ok (some c) else m.findFrom fd n e.next

def fdEntryFind (m : FdMemory) (fd : Int) : Except FdFault (Option Nat) :=
  m.findFrom fd m.fuel m.fdEntryHead

/-- Make what leads to a record lead elsewhere: the record before it or, for the first one,
`fd_entry_head`. -/
def relinkNext (m : FdMemory) (previous next : Option Nat) : Except FdFault FdMemory :=
  match previous with
  | some p => do
    let e ← m.load p
    .ok (m.store p { e with next := next })
  | none => .ok { m with fdEntryHead := next }

/-- Give the record behind another one, if there is one, a new record before it. -/
def relinkPrevious (m : FdMemory) (next previous : Option Nat) : Except FdFault FdMemory :=
  match next with
  | some n => do
    let e ← m.load n
    .ok (m.store n { e with previous := previous })
  | none => .ok m

/-- Unlink a record and free it; its descriptor is closed in between. -/
def fdEntryClose (m : FdMemory) (entry : Nat) : Except FdFault FdMemory := do
  let e ← m.load entry
  let m ← m.relinkNext e.previous e.next
  let e ← m.load entry
  let m ← m.relinkPrevious e.next e.previous
  .ok { m with blocks := m.blocks.filter (fun b => decide (b.1 ≠ entry)) }

/-- The loop of `fd_entry_add`, which notes the record that has no next one. -/
def findEnd (m : FdMemory) : Nat → Option Nat → Option Nat → Except FdFault (Option Nat)
  | 0, _, _ => .error .endless
  | _ + 1, none, last => .ok last
  | n + 1, some c, last => do
    let e ← m.load c
    m.findEnd n e.next (if e.next = none then some c else last)

/-- Append a record at the address `malloc` returns, which is not checked. -/
def fdEntryAdd (m : FdMemory) (fd : Int) (handler : Handler) (malloc : Option Nat) :
    Except FdFault FdMemory := do
  let last ← m.findEnd m.fuel m.fdEntryHead none
  match malloc with
  | none => .error (.fault .nullDereference)
  | some c =>
    let m := { m with blocks := (c, ⟨fd, handler, none, last⟩) :: m.blocks }
    m.relinkNext last (some c)

/-- The list before anything is added. -/
def empty : FdMemory := ⟨none, []⟩

end FdMemory

/-- A call of one of the three functions. -/
inductive FdCall where
  | add (fd : Int) (handler : Handler) (malloc : Option Nat)
  | close (entry : Nat)
  | find (fd : Int)
deriving DecidableEq, Repr

/-- What the call does to the list. -/
def FdCall.exec (m : FdMemory) : FdCall → Except FdFault FdMemory
  | .add fd handler malloc => m.fdEntryAdd fd handler malloc
  | .close entry => m.fdEntryClose entry
  | .find fd => (m.fdEntryFind fd).map (fun _ => m)

/-- The records that the pointers lead to, from the one at `p` on. -/
def FdMemory.listed (m : FdMemory) : Nat → Option Nat → List Nat
  | 0, _ => []
  | _ + 1, none => []
  | n + 1, some c => c :: m.listed n ((m.entryAt c).bind FdEntryStruct.next)

/-- The calls that can be made: an entry that is closed is in the list, and an address that `malloc`
returns is free. -/
def FdCall.Possible (m : FdMemory) : FdCall → Prop
  | .add _ _ malloc => ∀ c, malloc = some c → m.entryAt c = none
  | .close entry => entry ∈ m.listed m.fuel m.fdEntryHead
  | .find _ => True

instance (m : FdMemory) (c : FdCall) : Decidable (c.Possible m) :=
  match c with
  | .add _ _ none => isTrue (fun _ h => by cases h)
  | .add _ _ (some c) => decidable_of_iff (m.entryAt c = none)
      ⟨fun h _ hc => Option.some.inj hc ▸ h, fun h => h c rfl⟩
  | .close entry => inferInstanceAs (Decidable (entry ∈ m.listed m.fuel m.fdEntryHead))
  | .find _ => isTrue trivial

/-- One call. After a fault there are no more. -/
def fdStep (m : FdMemory) (c : FdCall) : Option FdMemory :=
  match c.exec m with
  | .ok m' => some m'
  | .error _ => none

end Wlmio.Client
