import Wlmio.Canard.Receive

/-!
# The client's data

The state of `wlmio.c`, `sync.c` and `io.c`, with the words of the source: the list
of `fd_entry` records that `epoll` hands back, the list of pending `task_entry`
records, the status and timer of each node, the transport instance and the four
tables of transfer identifiers, and the one flag and one result that all
synchronous calls share.

Dynamic records carry the address they were allocated at, and no address is used
twice, so a pointer is a number and a stale pointer finds nothing. Function pointers
with their `uparam` are the inductive types `Handler` and `Callback`.

A `World` also keeps what a run has done so far: the `trace` of calls, writes and
releases, and the transfers `issued`, by which each task knows which request it was
made for. No function of the model reads them.
-/

namespace Wlmio.Client

open Canard

/-! ## Constants -/

def ENOENT : Int := 2
def ENOMEM : Int := 12
def EINVAL : Int := 22
def EBADE : Int := 52
def EPROTO : Int := 71
def ENOTSUP : Int := 95
def ETIMEDOUT : Int := 110

def WLMIO_HEALTH_NOMINAL : Nat := 0
def WLMIO_MODE_OFFLINE : Nat := 7
def WLMIO_COMMAND_STATUS_SUCCESS : Int := 0
def WLMIO_NODE_INFO_CRC : Nat := 1
def WLMIO_NODE_INFO_CERTIFICATE_OF_AUTHENTICITY : Nat := 2

/-! ## Records of the API -/

structure WlmioStatus where
  uptime : Nat
  health : Nat
  mode : Nat
  vendorStatus : Nat
deriving DecidableEq, Repr

/-- The status of a node that is not there. -/
def WlmioStatus.offline : WlmioStatus := ⟨0, WLMIO_HEALTH_NOMINAL, WLMIO_MODE_OFFLINE, 0⟩

/-- `struct wlmio_register_access`; the array is always 256 bytes long. -/
structure WlmioRegisterAccess where
  type : BitVec 8
  length : BitVec 16
  value : List Byte
  value_length : value.length = 256
deriving DecidableEq

structure WlmioNodeVersion where
  major : Nat
  minor : Nat
deriving DecidableEq, Repr

structure WlmioNodeInfo where
  protocolVersion : WlmioNodeVersion
  hardwareVersion : WlmioNodeVersion
  softwareVersion : WlmioNodeVersion
  softwareVcsRevisionId : Nat
  uniqueId : List Byte
  name : List Byte
  softwareImageCrc : Nat
  certificateOfAuthenticity : List Byte
  flags : Nat
  uniqueId_length : uniqueId.length = 16
  name_length : name.length = 51
  certificate_length : certificateOfAuthenticity.length = 222
deriving DecidableEq

/-- The record after `memset(.., 0, ..)`. -/
def WlmioNodeInfo.zero : WlmioNodeInfo where
  protocolVersion := ⟨0, 0⟩
  hardwareVersion := ⟨0, 0⟩
  softwareVersion := ⟨0, 0⟩
  softwareVcsRevisionId := 0
  uniqueId := List.replicate 16 0#8
  name := List.replicate 51 0#8
  softwareImageCrc := 0
  certificateOfAuthenticity := List.replicate 222 0#8
  flags := 0
  uniqueId_length := List.length_replicate
  name_length := List.length_replicate
  certificate_length := List.length_replicate

/-! ## Callbacks -/

/-- The function and `uparam` a caller passes in: a function of the application, or
`sync_callback` on behalf of the synchronous call with this number. -/
inductive Caller where
  | user (k : Nat)
  | sync (call : Nat)
deriving DecidableEq, Repr

/-- The modules with a read function in `io.c`. -/
inductive ReadModule where
  | vpe6010 | vpe6040 | vpe6060 | vpe6080 | vpe6090 | vpe6180 | vpe6190
deriving DecidableEq, Repr

/-- What a task calls when it completes: its caller, or one of the callbacks of `io.c` with
the record its `uparam` points to. -/
inductive Callback where
  | caller (c : Caller)
  | read (module : ReadModule) (p : Nat)
  | configure (p : Nat)
  | setSampleInterval (p : Nat)
deriving DecidableEq, Repr

/-- A `param` pointer, at the type it was stored with: an output buffer of the caller, or
the register inside a record of `io.c`. -/
inductive Param where
  | null
  | nodeInfo (buffer : Nat)
  | name (buffer : Nat)
  | register (buffer : Nat)
  | record (p : Nat)
deriving DecidableEq, Repr

/-- The dynamic records of `io.c`. A register that is not written yet is `none`. -/
inductive IoRecord where
  | read (reg : Option WlmioRegisterAccess) (input : Nat) (callback : Option Caller)
  | configure (counter cancelled : Nat) (r : Int) (callback : Option Caller)
  | setSampleInterval (regr : Option WlmioRegisterAccess) (sampleInterval : Nat)
      (callback : Option Caller)
deriving DecidableEq

def IoRecord.callback : IoRecord → Option Caller
  | .read _ _ c => c
  | .configure _ _ _ c => c
  | .setSampleInterval _ _ c => c

/-! ## The registry -/

inductive Handler where
  | asyncHandler
  | heartbeatTimeoutHandler
  | canSocketHandler
deriving DecidableEq, Repr

structure FdEntry where
  addr : Nat
  fd : Int
  handler : Handler
deriving DecidableEq, Repr

structure TaskEntry where
  addr : Nat
  id : Nat
  /-- Address of the `FdEntry` of the timer. -/
  timer : Nat
  param : Param
  callback : Callback
  /-- The request the task was made for: its place among the transfers issued. -/
  serial : Nat
deriving DecidableEq, Repr

/-- `it_value` of a timer; all zero is a timer that is not armed. -/
structure Itimerspec where
  tvSec : Nat
  tvNsec : Nat
deriving DecidableEq, Repr

def Itimerspec.disarmed : Itimerspec := ⟨0, 0⟩

/-- The lists and tables of `wlmio.c` that refer to descriptors. -/
structure Registry where
  epollfd : Int
  canSock : Int
  /-- The list at `fd_entry_head`. -/
  fdEntries : List FdEntry
  /-- The list at `head`. -/
  head : List TaskEntry
  nodes : Nat → WlmioStatus
  timers : Nat → Int
  /-- The kernel's timers, by descriptor. -/
  itimers : Int → Itimerspec
  /-- The next address `malloc` returns. -/
  next : Nat

/-! ## The bus -/

/-- The services the client sends requests to. -/
inductive Service where
  | getNodeInfo
  | registerList
  | registerAccess
  | executeCommand
deriving DecidableEq, Repr

def Service.port : Service → Nat
  | .getNodeInfo => 430
  | .registerList => 385
  | .registerAccess => 384
  | .executeCommand => 435

/-- What `uavcan_send` hands to the socket. -/
structure CanfdFrame where
  canId : Nat
  data : List Byte
deriving DecidableEq, Repr

/-- A request: its transfer, what `canardTxPush` made of it, and whether a pending task
carried the specifier of its response already. -/
structure Issued where
  service : Service
  transfer : CanardTransfer
  pushed : Int
  clash : Bool
deriving DecidableEq, Repr

structure Bus where
  canard : CanardInstance
  /-- The static `tfr_ids` of the four request functions. -/
  tfrIds : Service → Nat → Nat
  /-- The frames the socket has taken. -/
  sent : List CanfdFrame
  /-- The requests so far. -/
  issued : List Issued

/-! ## The world -/

/-- What is left to do when the application's code returns to the library. -/
inductive Rest where
  /-- `async_remove_entry` of this task, after the release of a record of `io.c`. -/
  | completion (task : Nat) (record : Option Nat)
  /-- Nothing: it was the status callback. -/
  | status
deriving DecidableEq, Repr

/-- A call that has not returned yet. -/
inductive Activation where
  /-- `wlmio_tick`, about to wait for an event. -/
  | tick
  /-- Code of the application, called by a handler that still holds the payload buffer
  of the transfer it handles. -/
  | user (rest : Rest) (payload : Option Buffer)
  /-- The loop of a synchronous call. -/
  | sync (call : Nat)
deriving DecidableEq, Repr

/-- What a run does that can be seen from outside, or releases memory. -/
inductive Event where
  /-- A request has been registered. -/
  | accepted (serial task timer : Nat)
  /-- The callback of a task is called. -/
  | invoked (task serial : Nat) (r : Int)
  | taskFreed (task : Nat)
  | entryFreed (entry : Nat)
  | recordFreed (p : Nat)
  /-- An output buffer is written. -/
  | wroteNodeInfo (param : Param) (value : WlmioNodeInfo)
  | wroteName (param : Param) (value : List Byte)
  | wroteRegister (param : Param) (value : WlmioRegisterAccess)
  /-- A read function of `io.c` stores its result. -/
  | stored (input : Nat) (value : List (List Byte))
  /-- A function of the application is called with a result. -/
  | called (k : Nat) (r : Int)
  /-- `sync_callback` is called on behalf of a synchronous call. -/
  | delivered (call : Nat) (r : Int)
  /-- A synchronous call that had entered its loop returns. -/
  | syncReturned (call : Nat) (r : Int)
  /-- The status callback is called. -/
  | status (node : Nat) (old new : WlmioStatus)
deriving DecidableEq

inductive Object where
  | fdEntry
  | task
  | record
deriving DecidableEq, Repr

/-- Ways in which a run leaves defined behaviour. Nothing happens after one. -/
inductive Fault where
  | assertion
  | nullDereference
  | useAfterFree (what : Object)
  | outOfBounds
  | uninitialised
  | typeConfusion
deriving DecidableEq, Repr

structure World where
  /-- Whether a status callback is set. -/
  userCallback : Bool
  /-- The timeout of new requests, in microseconds. -/
  timeout : BitVec 64
  registry : Registry
  bus : Bus
  syncFlag : Bool
  syncReturn : Int
  /-- The live records of `io.c`, with their addresses. -/
  records : List (Nat × IoRecord)
  nextRecord : Nat
  /-- Number of the next synchronous call. -/
  nextCall : Nat
  /-- The calls in progress, innermost first. -/
  stack : List Activation
  /-- Newest first. -/
  trace : List Event
  fault : Option Fault

/-- Add an event to the trace. -/
def World.log (w : World) (e : Event) : World := { w with trace := e :: w.trace }

@[simp] theorem World.log_registry (w : World) (e : Event) : (w.log e).registry = w.registry := rfl
@[simp] theorem World.log_trace (w : World) (e : Event) : (w.log e).trace = e :: w.trace := rfl

end Wlmio.Client
