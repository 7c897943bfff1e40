import Wlmio.Canard.Transmit
import Wlmio.Client.Registry
import Wlmio.Client.Register

/-!
# Sending and requesting

`uavcan_send` moves frames from the transmission queue to the socket until the queue
is empty or the socket refuses one. The four request functions check their
arguments, build a transfer, and share their tail: push the transfer, move the
transfer identifier on, register a task for the response, and send.

None of them looks at what the push or the registration returned.
-/

namespace Wlmio.Client

open Canard

/-! ## `uavcan_send` -/

/-- Set in every identifier handed to the socket: the frame is of the extended format. -/
def EXTENDED_FLAG : Nat := 0x80000000

def toCanfd (txf : CanardFrame) : CanfdFrame := ⟨txf.extendedCanId ||| EXTENDED_FLAG, txf.payload⟩

/-- The loop, with the number of frames the socket takes before `send` fails. -/
def Bus.uavcanSend (b : Bus) : Nat → Bus
  | 0 => b
  | n + 1 =>
    match canardTxPeek b.canard with
    | none => b
    | some txf =>
      { b with canard := canardTxPop b.canard, sent := b.sent ++ [toCanfd txf] }.uavcanSend n

/-! ## `make_rsp_specifier` -/

/-- What a request and its response have in common. -/
def makeRspSpecifier (tfr : CanardTransfer) : Nat :=
  (tfr.remoteNodeId &&& 0x7F) ||| ((tfr.transferId &&& 0x1F) <<< 7) |||
    ((tfr.portId &&& 0x1FF) <<< 12)

/-! ## The tail of a request -/

/-- The transfer of a request. -/
def requestTransfer (b : Bus) (service : Service) (nodeId : Nat) (payload : List Byte) :
    CanardTransfer where
  timestampUsec := 0
  priority := CanardPriorityNominal
  transferKind := .request
  portId := service.port
  remoteNodeId := nodeId
  transferId := b.tfrIds service nodeId
  payload := payload

/-- Push a request and move the counter of its node on. -/
def Bus.pushRequest (b : Bus) (pending : List TaskEntry) (service : Service) (tfrTx : CanardTransfer)
    (txRoom : Nat) : Bus :=
  let nodeId := tfrTx.remoteNodeId
  let (canard, pushed) := canardTxPush b.canard tfrTx txRoom
  let clash := pending.any (fun t => decide (t.id = makeRspSpecifier tfrTx))
  { b with
    canard := canard
    tfrIds := Function.update b.tfrIds service
      (Function.update (b.tfrIds service) nodeId ((b.tfrIds service nodeId + 1) &&& 0x1F))
    issued := b.issued ++ [⟨service, tfrTx, pushed, clash⟩] }

/-- Register a task for the response to `tfrTx`. The result of `async_add` is dropped. -/
def registerTask (w : World) (tfrTx : CanardTransfer) (serial : Nat) (param : Param)
    (callback : Option Callback) (os : Os) : Except Fault World := do
  let (registry, added) ← w.registry.asyncAdd (makeRspSpecifier tfrTx) w.timeout param callback
    serial os
  let w' := { w with registry := registry }
  .ok (if added = 0 then w'.log (.accepted serial w.registry.next (w.registry.next + 1)) else w')

def submit (w : World) (service : Service) (nodeId : Nat) (payload : List Byte) (param : Param)
    (callback : Option Callback) (os : Os) : Except Fault World := do
  let tfrTx := requestTransfer w.bus service nodeId payload
  let serial := w.bus.issued.length
  let w := { w with bus := w.bus.pushRequest w.registry.head service tfrTx os.txRoom }
  let w ← registerTask w tfrTx serial param callback os
  .ok { w with bus := w.bus.uavcanSend os.sends }

/-! ## The request functions -/

def wlmioGetNodeInfo (w : World) (nodeId : BitVec 8) (nodeInfo : Option Nat)
    (callback : Option Callback) (os : Os) : Except Fault (World × Int) :=
  match nodeInfo with
  | none => .ok (w, -EINVAL)
  | some buffer =>
    if CANARD_NODE_ID_MAX < nodeId.toNat ∨ callback = none then .ok (w, -EINVAL)
    else do
      let w ← submit w .getNodeInfo nodeId.toNat [] (.nodeInfo buffer) callback os
      .ok (w, 0)

def wlmioRegisterList (w : World) (nodeId : BitVec 8) (index : BitVec 16) (name : Option Nat)
    (callback : Option Callback) (os : Os) : Except Fault (World × Int) :=
  match name with
  | none => .ok (w, -EINVAL)
  | some buffer =>
    if CANARD_NODE_ID_MAX < nodeId.toNat then .ok (w, -EINVAL)
    else do
      let w ← submit w .registerList nodeId.toNat (Bytes.ofNat 2 index.toNat) (.name buffer)
        callback os
      .ok (w, 0)

/-- `regr` is `Param.null` where the caller passes `NULL`. Unlike its siblings the function
refuses `CANARD_NODE_ID_MAX`. -/
def wlmioRegisterAccess (w : World) (nodeId : BitVec 8) (name : Option (List Byte))
    (regw : Option WlmioRegisterAccess) (regr : Param) (callback : Option Callback) (os : Os) :
    Except Fault (World × Int) :=
  match name with
  | none => .ok (w, -EINVAL)
  | some name =>
    if CANARD_NODE_ID_MAX ≤ nodeId.toNat ∨ cString name = [] ∨ (regw = none ∧ regr = .null) ∨
        (∃ reg ∈ regw, validateRegisterAccess reg ≠ 0) then .ok (w, -EINVAL)
    -- the result of `malloc` is not checked
    else if !os.payloadMalloc then .error .nullDereference
    else do
      let payload ← registerAccessPayload name regw
      let w ← submit w .registerAccess nodeId.toNat payload regr callback os
      .ok (w, 0)

/-- The payload of a command: its number, the length of the parameter and the parameter. -/
def executeCommandPayload (command : BitVec 16) (param : Option (List Byte)) (paramLen : Nat) :
    Except Fault (List Byte) :=
  let paramLen := if 112 < paramLen then 112 else paramLen
  let bytes := param.getD []
  if paramLen ≤ bytes.length then
    .ok (Bytes.ofNat 2 command.toNat ++ [BitVec.ofNat 8 paramLen] ++ bytes.take paramLen)
  else .error .outOfBounds

def wlmioExecuteCommand (w : World) (nodeId : BitVec 8) (command : BitVec 16)
    (param : Option (List Byte)) (paramLen : Nat) (callback : Option Callback) (os : Os) :
    Except Fault (World × Int) :=
  if CANARD_NODE_ID_MAX < nodeId.toNat ∨ (param = none ∧ 0 < paramLen) then .ok (w, -EINVAL)
  else if !os.payloadMalloc then .ok (w, -ENOMEM)
  else do
    let payload ← executeCommandPayload command param paramLen
    let w ← submit w .executeCommand nodeId.toNat payload .null callback os
    .ok (w, 0)

end Wlmio.Client
