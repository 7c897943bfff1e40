import Wlmio.Canard.Dsdl
import Wlmio.Client.Request
import Wlmio.Library.Fallible

/-!
# The firmware server

`fwupdate.c`: a program of its own, with its own transport instance. It tells one node to
fetch new firmware, and from then on it answers requests to read the file, which arrive
as service 408 and are answered with up to 256 bytes each.

The state also keeps what has been handed to `canardTxPush`. No function of the model
reads it.
-/

namespace Wlmio.Tools

open Canard Client

/-- The variables of `main` that its loop works on. -/
structure Server where
  canard : CanardInstance
  /-- The node under update. -/
  nodeId : Nat
  data : List Byte
  /-- The frames written to the socket. -/
  sent : List CanfdFrame
  /-- The transfers handed to `canardTxPush`, oldest first. -/
  pushed : List CanardTransfer
  fault : Option Fault

/-- `canardTxPush`; its result is not looked at. -/
def Server.push (s : Server) (tfr : CanardTransfer) (txRoom : Nat) : Server :=
  { s with canard := (canardTxPush s.canard tfr txRoom).1, pushed := s.pushed ++ [tfr] }

/-- The loop of `uavcan_send`, once for each frame. The result of `write` is not looked at. -/
def Server.sendFrames (s : Server) : Nat → Server
  | 0 => s
  | n + 1 =>
    match canardTxPeek s.canard with
    | none => s
    | some txf =>
      { s with canard := canardTxPop s.canard, sent := s.sent ++ [toCanfd txf] }.sendFrames n

def Server.uavcanSend (s : Server) : Server := s.sendFrames s.canard.txQueue.length

/-! ## Before the loop -/

/-- What the system gives `main`. -/
structure MainOs where
  argc : Nat
  /-- What is read of the file, if it can be opened. -/
  file : Option (List Byte)
  dataMalloc : Bool
  /-- The number in the first argument, if there is one. -/
  strtol : Option Int
  /-- The seven lines of the address switch, if they can be read. -/
  gpio : Option (BitVec 7)
  memory : Memory
  txRoom : Nat

/-- `canard.node_id = get_node_id()`, where -1 becomes 255. -/
def getNodeId : Option (BitVec 7) → Nat
  | some lines => lines.toNat
  | none => CANARD_NODE_ID_UNSET

/-- The command that starts the update. -/
def startCommand (nodeId : Nat) : CanardTransfer where
  timestampUsec := 0
  priority := CanardPriorityNominal
  transferKind := .request
  portId := 435
  remoteNodeId := nodeId
  transferId := 0
  payload := [0xFD#8, 0xFF#8, 0x01#8, 0x2F#8]

/-- `main` up to its loop; `none` if it exits before. -/
def startServer (os : MainOs) : Option Server :=
  if os.argc ≠ 3 then none
  else match os.file with
    | none => none
    | some data =>
      if !os.dataMalloc then none
      else if data.length = 0 ∨ 0x38000 < data.length then none
      else match os.strtol with
        | none => none
        | some n =>
          -- the conversion to `uint8_t` comes before the check
          let nodeId := (n % 256).toNat
          if 127 < nodeId then none
          else
            let canard :=
              { canardInit os.memory with
                mtuBytes := CANARD_MTU_CAN_FD
                nodeId := getNodeId os.gpio }
            let canard := (canardRxSubscribe canard .request 408 261
              CANARD_DEFAULT_TRANSFER_ID_TIMEOUT_USEC).1
            let s : Server := ⟨canard, nodeId, data, [], [], none⟩
            some ((s.push (startCommand nodeId) os.txRoom).uavcanSend)

/-! ## The loop -/

/-- `receive_transfer`, of a frame that could be read. -/
def Server.receiveTransfer (s : Server) (frame : CanardFrame) : Server × Option RxTransfer :=
  let rxf := { frame with extendedCanId := frame.extendedCanId &&& 0x1FFFFFFF }
  -- the result is positive exactly when a transfer comes with it
  let accepted := canardRxAccept s.canard rxf 0
  ({ s with canard := accepted.1 }, accepted.2.2)

/-- A `memcpy` within an array. -/
def copied (bytes : Option (List Byte)) : Except Fault (List Byte) :=
  match bytes with
  | none => .error .outOfBounds
  | some bytes => .ok bytes

/-- How much of the file is sent from an offset. -/
def bytesToSend (dataLen offset : Nat) : Nat :=
  if dataLen ≤ offset then 0
  else
    let bytes := dataLen - offset
    if 256 < bytes then 256 else bytes

/-- Answer a transfer. The buffer of an empty one is not freed. -/
def Server.serve (s : Server) (tfr : CanardTransfer) (buffer : Option Buffer) (malloc : Bool)
    (txRoom : Nat) : Except Fault Server :=
  if tfr.payload.length = 0 then .ok s
  else do
    let payloadOffset := 0
    let offset ← got (canardDSDLGetU64 tfr.payload (payloadOffset <<< 3) 40)
    let s := { s with canard := { s.canard with memory := s.canard.memory.free buffer } }
    -- `memset` follows without a check
    if !malloc then .error .nullDereference
    else do
      let bytes := bytesToSend s.data.length offset
      let payload ← copied (Bytes.copy (List.replicate 260 0#8) 2 (Bytes.ofNat 8 bytes) 0 2)
      let payload ← copied (Bytes.copy payload 4 s.data offset bytes)
      -- the other fields are those of the request
      let tfr := { tfr with
        transferKind := .response
        remoteNodeId := s.nodeId
        payload := payload.take (4 + bytes) }
      .ok (s.push tfr txRoom).uavcanSend

/-- One pass of the loop. -/
inductive Pass where
  /-- Nothing could be read from the socket. -/
  | nothing
  /-- A frame is read; the buffer for the response may be refused, and items of the queue. -/
  | frame (frame : CanardFrame) (malloc : Bool) (txRoom : Nat)

def Server.pass (s : Server) : Pass → Except Fault Server
  | .nothing => .ok s
  | .frame frame malloc txRoom =>
    match s.receiveTransfer frame with
    | (s, none) => .ok s
    | (s, some (tfr, buffer)) => s.serve tfr buffer malloc txRoom

/-- One pass, after which there may be a fault. Then there are no more. -/
def Server.step (s : Server) (p : Pass) : Option Server :=
  if s.fault.isSome then none
  else match s.pass p with
    | .ok s' => some s'
    | .error f => some { s with fault := some f }

end Wlmio.Tools
