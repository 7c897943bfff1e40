import Wlmio.Client.World
import Wlmio.Library.EventLoop
import Wlmio.Library.Transition

/-!
# Nodes of the Python binding

An object of the class `Node` of `pywlmio.py`, the coroutines that await its `get_info`, and the
callbacks of the event loop that concern it: `future.set_result` for a response, the task of
`_status_callback` for a heartbeat or timeout, and the wake-ups of coroutines that wait for the
lock or for the future.

A coroutine runs up to its next `await` without interruption. Heartbeats, timeouts and responses
are numbered in the order in which the client gets them, and what comes of one carries its number.
-/

namespace Wlmio.Pywlmio

open Wlmio.Client

/-! ## Node info -/

structure NodeInfo where
  /-- `Version(major, minor)`. -/
  protocolVersion : WlmioNodeVersion
  hardwareVersion : WlmioNodeVersion
  softwareVersion : WlmioNodeVersion
  softwareVcsRevisionId : Nat
  uniqueId : List Byte
  name : String
  softwareImageCrc : Nat
  certificateOfAuthenticity : Option (List Byte)
deriving DecidableEq

/-- `decode("utf-8")`. -/
def decodeUtf8 (bytes : List Byte) : Option String :=
  String.fromUTF8? ⟨(bytes.map UInt8.ofBitVec).toArray⟩

/-- `rstrip("\0")`. -/
def rstripNul (s : String) : String :=
  String.ofList (s.toList.reverse.dropWhile (fun c => c == Char.ofNat 0)).reverse

/-- `unpack`, and the constructor; `none` if the name is not UTF-8. -/
def unpackNodeInfo (info : WlmioNodeInfo) : Option NodeInfo :=
  (decodeUtf8 info.name).map fun name =>
    { protocolVersion := info.protocolVersion
      hardwareVersion := info.hardwareVersion
      softwareVersion := info.softwareVersion
      softwareVcsRevisionId := info.softwareVcsRevisionId
      uniqueId := info.uniqueId
      name := rstripNul name
      softwareImageCrc := info.softwareImageCrc
      certificateOfAuthenticity := none }

/-! ## State -/

/-- A coroutine that awaits `get_info`. One of `_check_name` has the name of its channel. -/
structure Coroutine where
  id : Nat
  channel : Option String
deriving DecidableEq

/-- The result of the future: `r`, and the record or `None`. -/
abbrev InfoResult := Int × Option WlmioNodeInfo

/-- A callback in the queue of the event loop. -/
inductive Handle where
  /-- `set_result` of the future that a coroutine awaits. -/
  | setResult (c : Coroutine) (result : InfoResult) (stamp : Nat)
  /-- The coroutine goes on after the future. -/
  | resume (c : Coroutine) (result : InfoResult) (stamp : Nat)
  /-- The coroutine goes on with the lock. -/
  | acquire (c : Coroutine)
  /-- The task of `_status_callback`. -/
  | status (oldStatus newStatus : WlmioStatus) (stamp : Nat)
deriving DecidableEq

/-- An info, and the number of the response it is from. -/
structure Cached where
  info : NodeInfo
  stamp : Nat
deriving DecidableEq

inductive NodeError where
  | wlmioInternalError (errno : Int)
  | wlmioWrongNodeError (expected actual : String)
  | typeError
  | unicodeDecodeError
deriving DecidableEq

inductive NodeEvent where
  /-- `get_info` returns to the application. -/
  | returned (c : Coroutine) (info : Cached)
  /-- `_check_name` lets the access of a channel through, when the last transition processed was
  this one. It is the check that is stamped: `VPE6060Channel.configure` and
  `VPE6080Channel.configure` give their accesses to `asyncio.gather`, which makes tasks of them that
  run behind what is already scheduled. -/
  | passed (c : Coroutine) (info : Cached) (transition : Option Nat)
  | raised (c : Coroutine) (e : NodeError)
deriving DecidableEq

structure Node where
  id : Nat
  status : Option WlmioStatus
  info : Option Cached
  /-- `lock`. -/
  locked : Bool
  /-- The coroutines that wait for the lock, the next one first. -/
  waiters : List Coroutine
  /-- The coroutines that wait for a response. -/
  requests : List Coroutine
  /-- The number of what the client gets next. -/
  clock : Nat
  /-- The number of the last transition `_status_callback` has been run for. -/
  transition : Option Nat
  /-- Newest first. -/
  trace : List NodeEvent

/-- After `__init__`. -/
def Node.init (id : Nat) : Node where
  id := id
  status := none
  info := none
  locked := false
  waiters := []
  requests := []
  clock := 0
  transition := none
  trace := []

def Node.log (n : Node) (e : NodeEvent) : Node := { n with trace := e :: n.trace }

/-! ## Coroutines -/

/-- `lock.release()`, which schedules the first waiter. -/
def Node.release (n : Node) : Node × List Handle :=
  ({ n with locked := false }, (n.waiters.head?.map Handle.acquire).toList)

/-- The end of `get_info`, and what `_check_name` does next. -/
def Node.deliver (n : Node) (c : Coroutine) (info : Cached) : Node :=
  match c.channel with
  | none => n.log (.returned c info)
  | some name =>
    if info.info.name ≠ name then n.log (.raised c (.wlmioWrongNodeError name info.info.name))
    else n.log (.passed c info n.transition)

/-- The body of `async with self.lock`, up to the future. -/
def Node.enter (n : Node) (c : Coroutine) : Node × List Handle :=
  match n.info with
  | none =>
    -- the request is always made: the id is that of a node, and there is a callback
    ({ n with requests := n.requests ++ [c] }, [])
  | some info =>
    let (n, handles) := n.release
    (n.deliver c info, handles)

/-- `get_info`, up to the first `await` that waits. -/
def Node.getInfo (n : Node) (c : Coroutine) : Node × List Handle :=
  if n.locked = false ∧ n.waiters = [] then { n with locked := true }.enter c
  else ({ n with waiters := n.waiters ++ [c] }, [])

/-- The end of `acquire()` of a coroutine that had to wait. -/
def Node.acquire (n : Node) (c : Coroutine) : Node × List Handle :=
  { n with waiters := n.waiters.erase c, locked := true }.enter c

/-- An exception leaves the lock behind as well. -/
def Node.raise (n : Node) (c : Coroutine) (e : NodeError) : Node × List Handle :=
  let (n, handles) := n.release
  (n.log (.raised c e), handles)

/-- The rest of `get_info`, with the result of the future. -/
def Node.resume (n : Node) (c : Coroutine) (result : InfoResult) (stamp : Nat) :
    Node × List Handle :=
  if result.1 < 0 then n.raise c (.wlmioInternalError (-result.1))
  else match result.2 with
    | none => n.raise c .typeError
    | some temp =>
      match unpackNodeInfo temp with
      | none => n.raise c .unicodeDecodeError
      | some info =>
        let (n, handles) := { n with info := some ⟨info, stamp⟩ }.release
        (n.deliver c ⟨info, stamp⟩, handles)

/-- `_status_callback`. -/
def Node.statusCallback (n : Node) (oldStatus newStatus : WlmioStatus) : Node :=
  let n := if n.status.isNone then { n with status := some oldStatus } else n
  -- node went offline
  let n := if newStatus.mode = 7 then { n with info := none } else n
  -- node came online or restarted
  let n :=
    if (oldStatus.mode = 7 ∧ newStatus.mode ≠ 7) ∨ newStatus.uptime < oldStatus.uptime then
      { n with info := none }
    else n
  { n with status := some newStatus }

/-! ## The event loop -/

/-- The node goes offline, comes online or restarts. -/
def isTransition (oldStatus newStatus : WlmioStatus) : Prop :=
  (oldStatus.mode ≠ 7 ∧ newStatus.mode = 7) ∨ (oldStatus.mode = 7 ∧ newStatus.mode ≠ 7) ∨
    newStatus.uptime < oldStatus.uptime

instance (oldStatus newStatus : WlmioStatus) : Decidable (isTransition oldStatus newStatus) :=
  inferInstanceAs (Decidable (_ ∨ _))

/-- The last transition, after a callback. -/
def lastTransition (last : Option Nat) : Handle → Option Nat
  | .status oldStatus newStatus stamp =>
    if isTransition oldStatus newStatus then some stamp else last
  | _ => last

/-- What a callback does. -/
def Node.exec (n : Node) (h : Handle) : Node × List Handle :=
  match h with
  | .setResult c result stamp => (n, [.resume c result stamp])
  | .resume c result stamp => n.resume c result stamp
  | .acquire c => n.acquire c
  | .status oldStatus newStatus _ =>
    ({ n.statusCallback oldStatus newStatus with transition := lastTransition n.transition h }, [])

abbrev NodeLoop := EventLoop Node Handle

/-- `get_node_info_callback`: the argument of `set_result`. -/
def getNodeInfoCallback (r : Int) (nodeInfo : WlmioNodeInfo) : InfoResult :=
  if r < 0 then (r, none) else (r, some nodeInfo)

inductive NodeAct where
  /-- A coroutine calls `get_info`. -/
  | call (c : Coroutine)
  /-- The request of a coroutine is completed, by a response or its timeout. -/
  | complete (c : Coroutine) (r : Int) (nodeInfo : WlmioNodeInfo)
  /-- `status_callback`, for a heartbeat or the timeout of a node. -/
  | report (nodeId : Nat) (oldStatus newStatus : WlmioStatus)
  /-- The event loop runs the next callback. -/
  | turn

/-- What an act does; `none` if it is not possible. -/
def NodeLoop.step (l : NodeLoop) (a : NodeAct) : Option NodeLoop :=
  match a with
  | .call c =>
    let (n, handles) := l.state.getInfo c
    some ⟨n, l.ready ++ handles⟩
  | .complete c r nodeInfo =>
    if c ∈ l.state.requests then
      some ⟨{ l.state with requests := l.state.requests.erase c, clock := l.state.clock + 1 },
        l.ready ++ [.setResult c (getNodeInfoCallback r nodeInfo) l.state.clock]⟩
    else none
  | .report nodeId oldStatus newStatus =>
    -- the callbacks registered for other nodes are not this node's
    if nodeId = l.state.id then
      some ⟨{ l.state with clock := l.state.clock + 1 },
        l.ready ++ [.status oldStatus newStatus l.state.clock]⟩
    else some l
  | .turn => l.turn Node.exec

/-- A new node, and nothing to do. -/
def NodeLoop.Initial (l : NodeLoop) : Prop := ∃ id, l = ⟨Node.init id, []⟩

end Wlmio.Pywlmio
