import Mathlib.Logic.Function.Basic
import Wlmio.Canard.Dsdl
import Wlmio.Client.World

/-!
# Descriptors, tasks and node timers

The functions of `wlmio.c` that edit the two lists: `fd_entry_find`,
`fd_entry_close` and `fd_entry_add` on the descriptors, `async_add`,
`async_get_param` and `async_remove_entry` on the pending tasks, and the two
heartbeat handlers, which keep the timer of a node among the descriptors for as
long as the node is online.

The kernel answers through parameters. A descriptor it hands out is never one that
is open; a pick that is counts as a failure.
-/

namespace Wlmio.Client

open Canard

/-- What the allocator and the kernel answer while a request is made. -/
structure Os where
  /-- How many queue items `canardTxPush` is granted. -/
  txRoom : Nat
  /-- The buffer for the payload. -/
  payloadMalloc : Bool
  /-- The `task_entry`. -/
  entryMalloc : Bool
  timerfdCreate : Int
  timerfdSettime : Bool
  /-- The value `errno` has after a failure. -/
  errno : Nat
  errno_pos : 0 < errno
  /-- The `fd_entry`. -/
  fdEntryMalloc : Bool
  /-- How many frames the socket takes before it refuses one. -/
  sends : Nat
  /-- The record of a function of `io.c`. -/
  recordMalloc : Bool
  /-- What its uninitialised fields hold. -/
  garbage : Nat

namespace Registry

/-! ## Descriptors -/

/-- The descriptors that are open. That of the CAN socket is `can_sock` as long as it is, even if
its entry remains. -/
def openFds (r : Registry) : List Int :=
  r.epollfd :: r.canSock ::
    (r.fdEntries.filter (fun e => decide (e.handler ≠ .canSocketHandler))).map FdEntry.fd

/-- A new descriptor: the kernel's pick if that is one and is not open, else -1. -/
def newFd (r : Registry) (pick : Int) : Int :=
  if 0 ≤ pick ∧ pick ∉ r.openFds then pick else -1

/-- `timerfd_settime`. -/
def timerfdSettime (r : Registry) (fd : Int) (it : Itimerspec) : Registry :=
  { r with itimers := Function.update r.itimers fd it }

def fdEntryFind (r : Registry) (fd : Int) : Option FdEntry :=
  r.fdEntries.find? (fun e => decide (e.fd = fd))

/-- What a pointer to an `fd_entry` points to. -/
def fdEntryAt (r : Registry) (addr : Nat) : Option FdEntry :=
  r.fdEntries.find? (fun e => decide (e.addr = addr))

/-- Unlink an entry, close its descriptor and free it. -/
def fdEntryClose (r : Registry) (addr : Nat) : Except Fault Registry :=
  match r.fdEntryAt addr with
  | none => .error (.useAfterFree .fdEntry)
  | some e =>
    .ok { r with
          fdEntries := r.fdEntries.filter (fun e => decide (e.addr ≠ addr))
          itimers := Function.update r.itimers e.fd .disarmed }

/-- Append an entry; its address is the second component. The result of `malloc` is not
checked. -/
def fdEntryAdd (r : Registry) (fd : Int) (handler : Handler) (malloc : Bool) :
    Except Fault (Registry × Nat) :=
  if malloc then
    .ok ({ r with fdEntries := r.fdEntries ++ [⟨r.next, fd, handler⟩], next := r.next + 1 }, r.next)
  else .error .nullDereference

/-! ## Tasks -/

/-- How `async_add` splits a timeout in microseconds. The `time_t` of the system has 64 bits, so the
seconds of every timeout fit. -/
def timeoutSpec (timeout : BitVec 64) : Itimerspec :=
  let tvSec := timeout.toNat / 1000000
  ⟨tvSec, (timeout.toNat - tvSec * 1000000) * 1000⟩

/-- The first task with this specifier. -/
def taskWithId (r : Registry) (id : Nat) : Option TaskEntry :=
  r.head.find? (fun t => decide (t.id = id))

/-- What a pointer to a `task_entry` points to. -/
def taskAt (r : Registry) (addr : Nat) : Option TaskEntry :=
  r.head.find? (fun t => decide (t.addr = addr))

/-- The first task with this timer. -/
def taskWithTimer (r : Registry) (entry : Nat) : Option TaskEntry :=
  r.head.find? (fun t => decide (t.timer = entry))

/-- Register a task and arm its timer. -/
def asyncAdd (r : Registry) (id : Nat) (timeout : BitVec 64) (param : Param)
    (callback : Option Callback) (serial : Nat) (os : Os) : Except Fault (Registry × Int) :=
  if r.epollfd < 0 then .error .assertion
  else match callback with
    | none => .error .assertion
    | some callback =>
      if !os.entryMalloc then .ok (r, -ENOMEM)
      else
        let timer := r.newFd os.timerfdCreate
        -- the two failures of the timer report `errno` as it is, without a sign
        if timer < 0 then .ok (r, os.errno)
        else if !os.timerfdSettime then .ok (r, os.errno)
        else do
          -- the task is allocated before its timer
          let entry := r.next
          let r := { r with next := r.next + 1 }.timerfdSettime timer (timeoutSpec timeout)
          let (r, fdEntry) ← r.fdEntryAdd timer .asyncHandler os.fdEntryMalloc
          .ok ({ r with head := r.head ++ [⟨entry, id, fdEntry, param, callback, serial⟩] }, 0)

/-- `none` is `-ENOENT`. -/
def asyncGetParam (r : Registry) (id : Nat) : Option Param := (r.taskWithId id).map TaskEntry.param

/-- Unlink a task, close its timer and free both. With no task pending the function
returns at once; else the address of the freed entry is the second component. -/
def asyncRemoveEntry (r : Registry) (addr : Nat) : Except Fault (Registry × Option Nat) :=
  if r.head.isEmpty then .ok (r, none)
  else match r.taskAt addr with
    | none => .error (.useAfterFree .task)
    | some t => do
      let r ← r.fdEntryClose t.timer
      .ok ({ r with head := r.head.filter (fun t => decide (t.addr ≠ addr)) }, some t.timer)

/-! ## Node timers -/

/-- The four fields of a heartbeat. -/
def heartbeatStatus (payload : List Byte) : Option WlmioStatus := do
  let payloadOffset := 0
  let uptime ← canardDSDLGetU32 payload payloadOffset 32
  let payloadOffset := payloadOffset + 32
  let health ← canardDSDLGetU8 payload payloadOffset 2
  let payloadOffset := payloadOffset + 8
  let mode ← canardDSDLGetU8 payload payloadOffset 3
  let payloadOffset := payloadOffset + 8
  let vendorStatus ← canardDSDLGetU8 payload payloadOffset 8
  some ⟨uptime, health, mode, vendorStatus⟩

/-- Stop the timer of a node that goes offline. -/
def stopNodeTimer (r : Registry) (node : Nat) : Except Fault Registry :=
  if (r.nodes node).mode = WLMIO_MODE_OFFLINE ∧ 0 ≤ r.timers node then
    match r.fdEntryFind (r.timers node) with
    | none => .error .assertion
    | some e => do
      let r ← r.fdEntryClose e.addr
      .ok { r with timers := Function.update r.timers node (-1) }
  else .ok r

/-- Create the timer of a node that comes online. -/
def createNodeTimer (r : Registry) (node : Nat) (pick : Int) (malloc : Bool) :
    Except Fault Registry :=
  if (r.nodes node).mode ≠ WLMIO_MODE_OFFLINE ∧ r.timers node < 0 then do
    -- a failure is stored, and an entry made for it all the same
    let fd := r.newFd pick
    let r := { r with timers := Function.update r.timers node fd }
    let (r, _) ← r.fdEntryAdd fd .heartbeatTimeoutHandler malloc
    .ok r
  else .ok r

/-- Three seconds until the next heartbeat. -/
def resetNodeTimer (r : Registry) (node : Nat) : Registry :=
  if (r.nodes node).mode ≠ WLMIO_MODE_OFFLINE ∧ 0 ≤ r.timers node then
    r.timerfdSettime (r.timers node) ⟨3, 0⟩
  else r

def setNode (r : Registry) (node : Nat) (status : WlmioStatus) : Registry :=
  { r with nodes := Function.update r.nodes node status }

/-- The table updates of `heartbeat_handler`; the second component is the status before. -/
def heartbeatHandler (r : Registry) (node : Nat) (payload : List Byte) (pick : Int)
    (malloc : Bool) : Except Fault (Registry × Option WlmioStatus) :=
  if payload.length = 0 ∨ node = CANARD_NODE_ID_UNSET then .ok (r, none)
  else if ¬ node ≤ CANARD_NODE_ID_MAX then .error .assertion
  else match heartbeatStatus payload with
    | none => .error .outOfBounds
    | some status => do
      let oldStatus := r.nodes node
      let r := r.setNode node status
      let r ← r.stopNodeTimer node
      let r ← r.createNodeTimer node pick malloc
      .ok (r.resetNodeTimer node, some oldStatus)

/-- The search for the node of a timer. Its bound leaves out `CANARD_NODE_ID_MAX`. -/
def nodeOfTimer (r : Registry) (fd : Int) : Option Nat :=
  (List.range CANARD_NODE_ID_MAX).find? (fun i => decide (r.timers i = fd))

/-- The table updates of `heartbeat_timeout_handler`; the other components are the node and
its status before. -/
def heartbeatTimeoutHandler (r : Registry) (entry : FdEntry) :
    Except Fault (Registry × Nat × WlmioStatus) :=
  match r.nodeOfTimer entry.fd with
  | none => .error .uninitialised
  | some node => do
    let r ← r.fdEntryClose entry.addr
    let r := { r with timers := Function.update r.timers node (-1) }
    .ok (r.setNode node .offline, node, r.nodes node)

end Registry

end Wlmio.Client
