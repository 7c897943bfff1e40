import Wlmio.Library.References
import Wlmio.Library.Transition
import Wlmio.Pywlmio.Listing

/-!
# References of the native module

The functions of `pywlmio/wlmio.c` that make a request for a future, and their callbacks, as far as
they count references to futures and to `None`. Values and tuples that a callback makes are its own,
and their counts are not followed.

What `libwlmio` answers is open, and so is the order in which it calls back.
-/

namespace Wlmio.Pywlmio.Native

open Wlmio.Client References

/-! ## Objects -/

inductive PyObject where
  | none
  | future (n : Nat)
deriving DecidableEq, Repr

/-- Ways in which the process ends. -/
inductive Crash where
  | fault (f : Fault)
  /-- An object is used that has been freed. -/
  | freed
deriving DecidableEq, Repr

/-- What a function returns, and whether an exception is set. -/
inductive Returned where
  | null (exception : Bool)
  | future (n : Nat) (exception : Bool)
deriving DecidableEq, Repr

/-- What `libwlmio` answers to a request. -/
inductive Answer where
  /-- A negative result. -/
  | refused
  /-- A result of 0, and whether there is a task that will call back. -/
  | accepted (task : Bool)
deriving DecidableEq, Repr

/-! ## Requests -/

/-- `get_node_info`. Whatever goes wrong, it returns its variable. -/
def getNodeInfo (c : Counts PyObject) (args : Option Nat) (malloc : Bool) (answer : Answer) :
    Except Crash (Counts PyObject × Returned) :=
  match args with
  -- nothing has been assigned to the variable
  | none => .error (.fault .uninitialised)
  | some future =>
    -- the result of `malloc` is not checked
    if !malloc then .error (.fault .nullDereference)
    else match answer with
      | .refused => .ok (c.give (.future future), .future future true)
      | .accepted _ =>
        let c := (c.incref (.future future)).incref (.future future)
        .ok (c.give (.future future), .future future false)

/-- What the other three have in common. They may allocate a parameter for the callback, and they
may count a reference for it beside the one they return. -/
def request (allocates counted : Bool) (c : Counts PyObject) (args : Option Nat) (malloc : Bool)
    (answer : Answer) : Except Crash (Counts PyObject × Returned) :=
  match args with
  | none => .ok (c, .null true)
  | some future =>
    if allocates && !malloc then .error (.fault .nullDereference)
    else match answer with
      | .refused => .ok (c, .null true)
      | .accepted _ =>
        let c := c.incref (.future future)
        let c := if counted then c.incref (.future future) else c
        .ok (c.give (.future future), .future future false)

/-- `register_access`, which counts the reference it returns and no other. -/
def registerAccess (c : Counts PyObject) (args : Option Nat) (malloc : Bool) (answer : Answer) :
    Except Crash (Counts PyObject × Returned) :=
  request true false c args malloc answer

def registerList (c : Counts PyObject) (args : Option Nat) (malloc : Bool) (answer : Answer) :
    Except Crash (Counts PyObject × Returned) :=
  request true true c args malloc answer

/-- `execute_command`. The future is itself the parameter of the callback. -/
def executeCommand (c : Counts PyObject) (args : Option Nat) (malloc : Bool) (answer : Answer) :
    Except Crash (Counts PyObject × Returned) :=
  request false true c args malloc answer

/-! ## Callbacks -/

/-- `call_soon`. The bound method keeps a reference to the future, and the handle one to the result;
`none` is a result that is not followed. -/
def callSoon (c : Counts PyObject) (future : Nat) (result : Option PyObject) :
    Except Crash (Counts PyObject) :=
  if c.count (.future future) ≤ 0 then .error .freed
  else
    let c := c.take (.future future)
    .ok (match result with
      | some o => c.take o
      | none => c)

def getNodeInfoCallback (c : Counts PyObject) (future : Nat) (r : Int) :
    Except Crash (Counts PyObject) := do
  -- the `O` of the tuple takes its own, and the one that is counted here stays
  let c := if r < 0 then (c.incref .none).take .none else c
  let c ← callSoon c future none
  .ok (c.decref (.future future))

def registerAccessCallback (c : Counts PyObject) (future : Nat) (r : Int) :
    Except Crash (Counts PyObject) := do
  -- the `N` of the tuple takes one that has not been counted
  let c := if r < 0 then c.give .none else c
  let c ← callSoon c future none
  .ok (c.decref (.future future))

/-- `register_list_callback`; `name` is what its record holds. -/
def registerListCallback (c : Counts PyObject) (future : Nat) (r : Int) (name : List Byte) :
    Except Crash (Counts PyObject) := do
  let c := if r < 0 then (c.incref .none).take .none else c
  let c ← callSoon c future none
  match Pywlmio.registerListCallback r name with
  | .error f => .error (.fault f)
  | .ok _ => .ok (c.decref (.future future))

def executeCommandCallback (c : Counts PyObject) (future : Nat) (r : Int) :
    Except Crash (Counts PyObject) := do
  if r < 0 then
    let c ← callSoon (c.incref .none) future (some .none)
    .ok ((c.decref .none).decref (.future future))
  else
    let c ← callSoon c future none
    .ok (c.decref (.future future))

/-! ## The module and the rest of the process -/

inductive Function where
  | getNodeInfo
  | registerAccess
  | registerList
  | executeCommand
deriving DecidableEq, Repr

def Function.call (fn : Function) (c : Counts PyObject) (args : Option Nat) (malloc : Bool)
    (answer : Answer) : Except Crash (Counts PyObject × Returned) :=
  match fn with
  | .getNodeInfo => Native.getNodeInfo c args malloc answer
  | .registerAccess => Native.registerAccess c args malloc answer
  | .registerList => Native.registerList c args malloc answer
  | .executeCommand => Native.executeCommand c args malloc answer

def Function.callback (fn : Function) (c : Counts PyObject) (future : Nat) (r : Int)
    (name : List Byte) : Except Crash (Counts PyObject) :=
  match fn with
  | .getNodeInfo => getNodeInfoCallback c future r
  | .registerAccess => registerAccessCallback c future r
  | .registerList => registerListCallback c future r name
  | .executeCommand => executeCommandCallback c future r

/-- A request with a task that will call back. -/
structure Pending where
  function : Function
  future : Nat
deriving DecidableEq, Repr

structure Extension where
  counts : Counts PyObject
  /-- The futures there have been. -/
  created : Nat
  pending : List Pending
  /-- What the calls have returned, newest first. -/
  returned : List Returned
  crash : Option Crash

/-- The state before the first call; others have references to `None`. -/
def Extension.start (refs : Nat) : Extension where
  counts := ⟨fun o => if o = .none then refs else 0, fun o => if o = .none then refs else 0⟩
  created := 0
  pending := []
  returned := []
  crash := none

inductive Label where
  /-- A future is made. -/
  | create
  /-- Somebody who has a reference to an object takes another. -/
  | take (o : PyObject)
  /-- Somebody drops a reference. -/
  | drop (o : PyObject)
  /-- A function is called; `args` is the future among its arguments if they can be parsed. -/
  | call (fn : Function) (args : Option Nat) (malloc : Bool) (answer : Answer)
  /-- The task of a pending request calls back. -/
  | complete (i : Nat) (r : Int) (name : List Byte)
deriving DecidableEq, Repr

/-- Somebody uses a reference of his own; `none` if he has none. -/
def Extension.use (e : Extension) (o : PyObject) (counts : Counts PyObject) :
    Option (Except Crash Extension) :=
  if e.counts.others o = 0 then none
  else if e.counts.count o ≤ 0 then some (.error .freed)
  else some (.ok { e with counts := counts })

/-- The request that is pending after a call. -/
def newPending (fn : Function) (args : Option Nat) (answer : Answer) : List Pending :=
  match args, answer with
  | some future, .accepted true => [⟨fn, future⟩]
  | _, _ => []

/-- A call. -/
def Extension.call (e : Extension) (fn : Function) (args : Option Nat) (malloc : Bool)
    (answer : Answer) : Except Crash Extension := do
  let (counts, returned) ← fn.call e.counts args malloc answer
  .ok { e with
        counts := counts
        pending := e.pending ++ newPending fn args answer
        returned := returned :: e.returned }

def Extension.complete (e : Extension) (i : Nat) (p : Pending) (r : Int) (name : List Byte) :
    Except Crash Extension := do
  let counts ← p.function.callback e.counts p.future r name
  .ok { e with counts := counts, pending := e.pending.eraseIdx i }

/-- What happens at a label; `none` if it is not possible. -/
def Extension.act (e : Extension) : Label → Option (Except Crash Extension)
  | .create => some (.ok { e with
      counts := e.counts.take (.future e.created), created := e.created + 1 })
  | .take o => e.use o (e.counts.take o)
  | .drop o => e.use o (e.counts.drop o)
  | .call fn args malloc answer =>
    -- the tuple of the arguments has a reference to the future
    if ∃ future ∈ args, e.counts.others (.future future) = 0 then none
    else if ∃ future ∈ args, e.counts.count (.future future) ≤ 0 then some (.error .freed)
    else some (e.call fn args malloc answer)
  | .complete i r name => e.pending[i]?.map (fun p => e.complete i p r name)

/-- Note a crash. -/
def Extension.settle (e : Extension) : Except Crash Extension → Extension
  | .ok e' => e'
  | .error crash => { e with crash := some crash }

/-- One step. After a crash there are no more. -/
def Extension.step (e : Extension) (l : Label) : Option Extension :=
  if e.crash.isSome then none else (e.act l).map e.settle

/-- The states of a process that has loaded the module. -/
def Extension.Initial (e : Extension) : Prop := ∃ refs, e = .start refs

end Wlmio.Pywlmio.Native
