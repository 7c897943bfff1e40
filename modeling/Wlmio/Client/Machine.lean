import Wlmio.Client.Handler
import Wlmio.Library.Transition

/-!
# The client as a machine

The application calls the library; the library calls the application back from
inside its event loop; and what the application calls there may run an event loop of
its own. The stack of a `World` holds these calls, and an `Act` is what happens next
at the top of it: the application's code does something, or the loop of
`wlmio_tick` gets an event, or the loop of a synchronous call looks at its flag.

Which act comes next, what the bus delivers, when timers expire, how far the socket
takes frames and what the allocator and the kernel answer is open: a run is any
sequence of acts that are possible.
-/

namespace Wlmio.Client

open Canard

/-! ## `wlmio_init` -/

/-- What the system answers to `wlmio_init`. -/
structure InitOs where
  /-- The seven lines of the address switch, if they can be read. -/
  gpio : Option (BitVec 7)
  epollCreate : Int
  socket : Int
  /-- Whether `ioctl`, `bind` and `setsockopt` succeed. -/
  configured : Bool
  fdEntryMalloc : Bool

/-- The state before the first call. -/
def World.boot (memory : Memory) : World where
  userCallback := false
  timeout := 2000000
  registry :=
    { epollfd := -1, canSock := -1, fdEntries := [], head := [], nodes := fun _ => ⟨0, 0, 0, 0⟩
      timers := fun _ => 0, itimers := fun _ => .disarmed, next := 0 }
  bus :=
    { canard := ⟨0, 0, memory, fun _ => [], []⟩, tfrIds := fun _ _ => 0, sent := [], issued := [] }
  syncFlag := false
  syncReturn := 0
  records := []
  nextRecord := 0
  nextCall := 0
  stack := []
  trace := []
  fault := none

def canSocketInit (r : Registry) (os : InitOs) : Except Fault (Registry × Int) :=
  let s := r.newFd os.socket
  if s < 0 ∨ !os.configured then .ok (r, -1)
  else do
    let (r, _) ← r.fdEntryAdd s .canSocketHandler os.fdEntryMalloc
    .ok (r, s)

/-- The five subscriptions, with the extents of their messages. -/
def subscribe (canard : CanardInstance) : CanardInstance :=
  let sub := fun (canard : CanardInstance) kind port extent =>
    (canardRxSubscribe canard kind port extent CANARD_DEFAULT_TRANSFER_ID_TIMEOUT_USEC).1
  let canard := sub canard .response 385 51
  let canard := sub canard .response 384 267
  let canard := sub canard .response 435 1
  let canard := sub canard .response 430 313
  sub canard .message 7509 7

/-- The loop over the nodes, `CANARD_NODE_ID_MAX` included. -/
def initNodes (r : Registry) : Registry :=
  { r with
    nodes := fun i => if i ≤ CANARD_NODE_ID_MAX then .offline else r.nodes i
    timers := fun i => if i ≤ CANARD_NODE_ID_MAX then -1 else r.timers i }

def wlmioInit (w : World) (os : InitOs) : Except Fault (World × Int) :=
  -- the tasks, the counters and the callback are left as they are
  let canard := { canardInit w.bus.canard.memory with mtuBytes := CANARD_MTU_CAN_FD }
  match os.gpio with
  | none => .ok ({ w with bus := { w.bus with canard := canard } }, -1)
  | some nodeId =>
    let canard := { canard with nodeId := nodeId.toNat }
    let registry := { w.registry with epollfd := w.registry.newFd os.epollCreate }
    if registry.epollfd < 0 then
      .ok ({ w with bus := { w.bus with canard := canard }, registry := registry }, -1)
    else do
      let (registry, canSock) ← canSocketInit registry os
      .ok ({ w with
             bus := { w.bus with canard := subscribe canard }
             registry := initNodes { registry with canSock := canSock } },
        if canSock < 0 then -1 else 0)

/-- `wlmio_shutdown`. It closes the two descriptors, and leaves the lists and tables as they are. -/
def wlmioShutdown (w : World) : World × Int :=
  ({ w with registry := { w.registry with canSock := -1, epollfd := -1 } }, 0)

/-! ## Requests -/

/-- A call of a function of the API that makes requests, without its callback. -/
inductive Request where
  | getNodeInfo (nodeId : BitVec 8) (nodeInfo : Option Nat)
  | registerList (nodeId : BitVec 8) (index : BitVec 16) (name : Option Nat)
  | registerAccess (nodeId : BitVec 8) (name : Option (List Byte))
      (regw : Option WlmioRegisterAccess) (regr : Option Nat)
  | executeCommand (nodeId : BitVec 8) (command : BitVec 16) (param : Option (List Byte))
      (paramLen : Nat)
  | vpe6010Read (nodeId : BitVec 8) (dst : Option Nat)
  | vpe6030Write (nodeId ch v : BitVec 8)
  | vpe6040Read (nodeId ch : BitVec 8) (v : Option Nat)
  | vpe6040Configure (nodeId ch mode : BitVec 8)
  | vpe6050Write (nodeId ch : BitVec 8) (v : BitVec 16)
  | vpe6050Configure (nodeId ch mode : BitVec 8)
  | vpe6060Read (nodeId ch : BitVec 8) (v : Option Nat)
  | vpe6060Configure (nodeId ch mode polarity bias : BitVec 8)
  | vpe6070Write (nodeId ch : BitVec 8) (v : BitVec 16)
  | vpe6080Read (nodeId ch : BitVec 8) (v : Option Nat)
  | vpe6080Configure (nodeId ch enabled : BitVec 8) (beta t0 : BitVec 16)
  | nodeSetSampleInterval (nodeId : BitVec 8) (sampleInterval : BitVec 16)
  | vpe6090Read (nodeId ch : BitVec 8) (v : Option Nat)
  | vpe6090Configure (nodeId ch type : BitVec 8)
  | vpe6180Read (nodeId ch : BitVec 8) (v : Option Nat)
  | vpe6190Configure (nodeId ch enable : BitVec 8)
  | vpe6190Read (nodeId ch : BitVec 8) (v : Option Nat)
deriving DecidableEq

/-- The `regr` of a caller. -/
def callerRegr : Option Nat → Param
  | none => .null
  | some buffer => .register buffer

/-- Make the call. A configuration of three registers asks the system three times. -/
def Request.call (q : Request) (w : World) (c : Option Caller) (os : Nat → Os) :
    Except Fault (World × Int) :=
  match q with
  | .getNodeInfo n nodeInfo => wlmioGetNodeInfo w n nodeInfo (c.map .caller) (os 0)
  | .registerList n index name => wlmioRegisterList w n index name (c.map .caller) (os 0)
  | .registerAccess n name regw regr =>
    wlmioRegisterAccess w n name regw (callerRegr regr) (c.map .caller) (os 0)
  | .executeCommand n command param paramLen =>
    wlmioExecuteCommand w n command param paramLen (c.map .caller) (os 0)
  | .vpe6010Read n dst => wlmioVpe6010Read w n c dst (os 0)
  | .vpe6030Write n ch v => wlmioVpe6030Write w n c ch v (os 0)
  | .vpe6040Read n ch v => wlmioVpe6040Read w n c ch v (os 0)
  | .vpe6040Configure n ch mode => wlmioVpe6040Configure w n c ch mode (os 0)
  | .vpe6050Write n ch v => wlmioVpe6050Write w n c ch v (os 0)
  | .vpe6050Configure n ch mode => wlmioVpe6050Configure w n c ch mode (os 0)
  | .vpe6060Read n ch v => wlmioVpe6060Read w n c ch v (os 0)
  | .vpe6060Configure n ch mode polarity bias => wlmioVpe6060Configure w n c ch mode polarity bias os
  | .vpe6070Write n ch v => wlmioVpe6070Write w n c ch v (os 0)
  | .vpe6080Read n ch v => wlmioVpe6080Read w n c ch v (os 0)
  | .vpe6080Configure n ch enabled beta t0 => wlmioVpe6080Configure w n c ch enabled beta t0 os
  | .nodeSetSampleInterval n interval => wlmioNodeSetSampleInterval w n c interval (os 0)
  | .vpe6090Read n ch v => wlmioVpe6090Read w n c ch v (os 0)
  | .vpe6090Configure n ch type => wlmioVpe6090Configure w n c ch type (os 0)
  | .vpe6180Read n ch v => wlmioVpe6180Read w n c ch v (os 0)
  | .vpe6190Configure n ch enable => wlmioVpe6190Configure w n c ch enable (os 0)
  | .vpe6190Read n ch v => wlmioVpe6190Read w n c ch v (os 0)

/-- The twenty-one functions of `sync.c`, which are one: clear the flag, make the request with
`sync_callback`, and enter the loop unless it was refused. -/
def Request.callSync (q : Request) (w : World) (os : Nat → Os) : Except Fault World := do
  let call := w.nextCall
  let (w, r) ← q.call { w with syncFlag := false, nextCall := call + 1 } (some (.sync call)) os
  if r < 0 then .ok w
  else .ok { w with stack := .sync call :: w.stack }

/-! ## Acts -/

inductive Act where
  /-- The application makes a request; `none` is a `NULL` callback. -/
  | request (q : Request) (callback : Option Nat) (os : Nat → Os)
  /-- The application calls the synchronous version of a request. -/
  | sync (q : Request) (os : Nat → Os)
  /-- `wlmio_set_timeout`. -/
  | setTimeout (us : BitVec 64)
  /-- `wlmio_set_status_callback`. -/
  | setStatusCallback (set : Bool)
  /-- The application calls `wlmio_tick`. -/
  | tick
  /-- `epoll_wait` reports the timer at this entry. -/
  | expire (entry : Nat)
  /-- `epoll_wait` reports the CAN socket, which has this frame. -/
  | receive (frame : CanardFrame) (pick : Int) (malloc : Bool)
  /-- `epoll_wait` reports nothing: the tick sends and returns. -/
  | idle (sends : Nat)
  /-- A synchronous call evaluates the condition of its loop. -/
  | loop
  /-- The application returns to the library. -/
  | ret

/-- Whether code of the application runs. -/
def World.inUserCode (w : World) : Bool :=
  match w.stack with
  | [] => true
  | .user .. :: _ => true
  | _ => false

/-- A timer is reported as long as it is open, armed and not read; none is ever read. -/
def handleExpiry (w : World) (entry : FdEntry) : Option (Except Fault World) :=
  let handled : Option (Except Fault (World × Option Rest)) :=
    if entry.fd < 0 ∨ w.registry.itimers entry.fd = .disarmed then none
    else match entry.handler with
      | .asyncHandler => some (asyncHandler w entry)
      | .heartbeatTimeoutHandler => some (heartbeatTimeoutHandler w entry)
      | .canSocketHandler => none
  handled.map (fun h => h.map (fun (w, rest) => resume w rest none))

/-- What was left to do when the application's code was entered. -/
def finishRest (w : World) : Rest → Except Fault World
  | .completion task record => finishCompletion w task record
  | .status => .ok w

/-- Back in the library after code of the application. -/
def leaveUserCode (w : World) (rest : Rest) (payload : Option Buffer) : Except Fault World := do
  let w ← finishRest w rest
  .ok (freePayload w payload)

/-- What an act does; `none` if it is not possible. -/
def act (w : World) (a : Act) : Option (Except Fault World) :=
  match a with
  | .request q callback os =>
    if w.inUserCode then some ((q.call w (callback.map .user) os).map Prod.fst) else none
  | .sync q os => if w.inUserCode then some (q.callSync w os) else none
  | .setTimeout us => if w.inUserCode then some (.ok { w with timeout := us }) else none
  | .setStatusCallback set =>
    if w.inUserCode then some (.ok { w with userCallback := set }) else none
  | .tick => if w.inUserCode then some (.ok { w with stack := .tick :: w.stack }) else none
  | .expire addr =>
    -- an event has the address of its entry
    match w.stack, w.registry.fdEntryAt addr with
    | .tick :: _, some entry => handleExpiry w entry
    | _, _ => none
  | .receive frame pick malloc =>
    match w.stack with
    | .tick :: _ =>
      if w.registry.fdEntries.any (fun e => decide (e.handler = .canSocketHandler)) then
        some (canSocketHandler w frame pick malloc)
      else none
    | _ => none
  | .idle sends =>
    match w.stack with
    | .tick :: stack => some (.ok { w with bus := w.bus.uavcanSend sends, stack := stack })
    | _ => none
  | .loop =>
    match w.stack with
    | .sync call :: stack =>
      if w.syncFlag then some (.ok ({ w with stack := stack }.log (.syncReturned call w.syncReturn)))
      else some (.ok { w with stack := .tick :: w.stack })
    | _ => none
  | .ret =>
    match w.stack with
    | .user rest payload :: stack => some (leaveUserCode { w with stack := stack } rest payload)
    | _ => none

/-- Note a fault; what the act had done up to there is not followed any further. -/
def settle (w : World) : Except Fault World → World
  | .ok w' => w'
  | .error f => { w with fault := some f }

/-- One step of the machine. After a fault there are no more. -/
def step (w : World) (a : Act) : Option World :=
  if w.fault.isSome then none else (act w a).map (settle w)

/-! ## Runs -/

/-- The states in which the first `wlmio_init` returns 0. -/
def Initial (w : World) : Prop :=
  ∃ memory os, wlmioInit (World.boot memory) os = .ok (w, 0)

/-- The states reached by acts that meet `guard`. -/
abbrev ReachableBy (guard : World → Act → Prop) : World → Prop :=
  Transition.Reaches step guard Initial

/-- The states reached by any acts. -/
abbrev Reachable : World → Prop := ReachableBy Transition.free

end Wlmio.Client
