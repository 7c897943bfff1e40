import Wlmio.Client.Io

/-!
# Event handlers

What `wlmio_tick` does with an event: complete a task whose timer has expired, take a
node offline, or read a frame and hand the transfer it completes to the handler of
its port.

A handler that calls the application stops there. Its second result is then what is
left to do when the application returns: the task and record to release, or nothing.
Everything else a handler does happens at once.
-/

namespace Wlmio.Client

open Canard

/-! ## Completion -/

/-- `async_remove_entry`. -/
def finishTask (w : World) (task : Nat) : Except Fault World := do
  let (registry, freed) ← w.registry.asyncRemoveEntry task
  let w := { w with registry := registry }
  match freed with
  | none => .ok w
  | some entry => .ok ((w.log (.entryFreed entry)).log (.taskFreed task))

/-- The `free` at the end of a callback of `io.c`. -/
def releaseRecord (w : World) : Option Nat → Except Fault World
  | none => .ok w
  | some p => freeRecord w p

/-- What follows the call of a caller's function. -/
def finishCompletion (w : World) (task : Nat) (record : Option Nat) : Except Fault World := do
  let w ← releaseRecord w record
  finishTask w task

/-- Call back a task, and remove it when its callback has returned. -/
def complete (w : World) (t : TaskEntry) (r : Int) : Except Fault (World × Option Rest) := do
  let (w, user, record) ← t.callback.call (w.log (.invoked t.addr t.serial r)) r
  if user then .ok (w, some (.completion t.addr record))
  else do
    let w ← finishCompletion w t.addr record
    .ok (w, none)

def asyncHandler (w : World) (entry : FdEntry) : Except Fault (World × Option Rest) :=
  match w.registry.taskWithTimer entry.addr with
  | none => .error .nullDereference
  | some t => complete w t (-ETIMEDOUT)

def asyncComplete (w : World) (id : Nat) (r : Int) : Except Fault (World × Option Rest) :=
  match w.registry.taskWithId id with
  | none => .ok (w, none)
  | some t => complete w t r

/-! ## Responses -/

/-- The fields of a node info response, and the result the task completes with. Fields that a
failed check leaves out keep the zero of `memset`. -/
def decodeNodeInfo (payload : List Byte) : Except Fault (WlmioNodeInfo × Int) :=
  if payload.length = 0 then .ok (.zero, 0)
  else do
    let u8 := fun payloadOffset => got (canardDSDLGetU8 payload (payloadOffset <<< 3) 8)
    let u64 := fun payloadOffset => got (canardDSDLGetU64 payload (payloadOffset <<< 3) 64)
    let field := fun (size payloadOffset limit : Nat) =>
      if payloadOffset < payload.length then
        let bytes := payload.length - payloadOffset
        copyField size payload payloadOffset (if limit < bytes then limit else bytes)
      else .ok (clearedField size)
    let protocolMajor ← u8 0
    let protocolMinor ← u8 1
    let hardwareMajor ← u8 2
    let hardwareMinor ← u8 3
    let softwareMajor ← u8 4
    let softwareMinor ← u8 5
    let revision ← u64 6
    let uniqueId ← field 16 14 16
    let info : WlmioNodeInfo := { WlmioNodeInfo.zero with
      protocolVersion := ⟨protocolMajor, protocolMinor⟩
      hardwareVersion := ⟨hardwareMajor, hardwareMinor⟩
      softwareVersion := ⟨softwareMajor, softwareMinor⟩
      softwareVcsRevisionId := revision
      uniqueId := uniqueId.val
      uniqueId_length := uniqueId.property }
    let nameLen ← u8 30
    -- what was decoded up to here is copied to the caller even then
    if 50 < nameLen then .ok (info, -EPROTO)
    else do
      let name ← field 51 31 nameLen
      let info := { info with name := name.val, name_length := name.property }
      let payloadOffset := 31 + nameLen
      let crcPresent ← u8 payloadOffset
      let payloadOffset := payloadOffset + 1
      if 1 < crcPresent then .ok (info, -EPROTO)
      else do
        let crc ← (if crcPresent = 0 then .ok 0 else u64 payloadOffset)
        let info :=
          if crcPresent = 0 then info
          else { info with flags := info.flags ||| WLMIO_NODE_INFO_CRC, softwareImageCrc := crc }
        let payloadOffset := if crcPresent = 0 then payloadOffset else payloadOffset + 8
        let coaLen ← u8 payloadOffset
        let payloadOffset := payloadOffset + 1
        if 222 < coaLen then .ok (info, -EPROTO)
        else if coaLen = 0 then .ok (info, 0)
        else do
          let coa ← field 222 payloadOffset coaLen
          .ok ({ info with
                 flags := info.flags ||| WLMIO_NODE_INFO_CERTIFICATE_OF_AUTHENTICITY
                 certificateOfAuthenticity := coa.val
                 certificate_length := coa.property }, 0)

def getNodeInfoResponseHandler (w : World) (tfr : CanardTransfer) :
    Except Fault (World × Option Rest) :=
  let id := makeRspSpecifier tfr
  match w.registry.asyncGetParam id with
  -- `goto exit` completes the task with the error, but there is no task
  | none => asyncComplete w id (-ENOENT)
  | some (.nodeInfo buffer) => do
    let (info, r) ← decodeNodeInfo tfr.payload
    asyncComplete (w.log (.wroteNodeInfo (.nodeInfo buffer) info)) id r
  | some .null => .error .nullDereference
  | some _ => .error .typeConfusion

/-- The name in a list response: everything behind the length byte, whatever that says. -/
def decodeName (payload : List Byte) : Except Fault { name : List Byte // name.length = 51 } :=
  if 1 < payload.length then copyField 51 payload 1 (payload.length - 1)
  else .ok (clearedField 51)

def registerListResponseHandler (w : World) (tfr : CanardTransfer) :
    Except Fault (World × Option Rest) :=
  let id := makeRspSpecifier tfr
  match w.registry.asyncGetParam id with
  | none => .ok (w, none)
  | some (.name buffer) => do
    let name ← decodeName tfr.payload
    asyncComplete (w.log (.wroteName (.name buffer) name.val)) id 0
  | some .null => .error .nullDereference
  | some _ => .error .typeConfusion

/-- Store the register of a reply in a record of `io.c`. -/
def storeRegister (w : World) (p : Nat) (regr : WlmioRegisterAccess) : Except Fault World :=
  match recordAt w p with
  | some (.read _ input callback) => .ok (setRecord w p (.read (some regr) input callback))
  | some (.setSampleInterval _ sampleInterval callback) =>
    .ok (setRecord w p (.setSampleInterval (some regr) sampleInterval callback))
  | some (.configure ..) => .error .typeConfusion
  | none => .error (.useAfterFree .record)

/-- `if(uregr) { *uregr = regr; }`. -/
def writeRegr (w : World) (uregr : Param) (regr : WlmioRegisterAccess) : Except Fault World :=
  match uregr with
  | .null => .ok w
  | .register _ => .ok (w.log (.wroteRegister uregr regr))
  | .record p => storeRegister (w.log (.wroteRegister uregr regr)) p regr
  | _ => .error .typeConfusion

def registerAccessResponseHandler (w : World) (tfr : CanardTransfer) :
    Except Fault (World × Option Rest) :=
  let id := makeRspSpecifier tfr
  match w.registry.asyncGetParam id with
  | none => .ok (w, none)
  | some uregr => do
    let (regr, r) ← decodeRegisterAccess tfr.payload
    let w ← writeRegr w uregr regr
    asyncComplete w id r

/-- The status in a command response. -/
def decodeStatus (payload : List Byte) : Except Fault Int :=
  if 0 < payload.length then (got (canardDSDLGetU8 payload 0 8)).map Int.ofNat
  else .ok WLMIO_COMMAND_STATUS_SUCCESS

def executeCommandResponseHandler (w : World) (tfr : CanardTransfer) :
    Except Fault (World × Option Rest) := do
  let status ← decodeStatus tfr.payload
  asyncComplete w (makeRspSpecifier tfr) status

/-! ## Heartbeats -/

/-- Call the status callback, if there is one. -/
def reportStatus (w : World) (node : Nat) (old : WlmioStatus) : World × Option Rest :=
  if w.userCallback then (w.log (.status node old (w.registry.nodes node)), some .status)
  else (w, none)

def heartbeatHandler (w : World) (tfr : CanardTransfer) (pick : Int) (malloc : Bool) :
    Except Fault (World × Option Rest) := do
  let (registry, old) ← w.registry.heartbeatHandler tfr.remoteNodeId tfr.payload pick malloc
  let w := { w with registry := registry }
  match old with
  | none => .ok (w, none)
  | some old => .ok (reportStatus w tfr.remoteNodeId old)

def heartbeatTimeoutHandler (w : World) (entry : FdEntry) : Except Fault (World × Option Rest) := do
  let (registry, node, old) ← w.registry.heartbeatTimeoutHandler entry
  .ok (reportStatus { w with registry := registry } node old)

/-! ## The CAN socket -/

def dispatch (w : World) (tfr : CanardTransfer) (pick : Int) (malloc : Bool) :
    Except Fault (World × Option Rest) :=
  if tfr.portId = 7509 ∧ tfr.transferKind = .message then heartbeatHandler w tfr pick malloc
  else if tfr.portId = 430 ∧ tfr.transferKind = .response then getNodeInfoResponseHandler w tfr
  else if tfr.portId = 385 ∧ tfr.transferKind = .response then registerListResponseHandler w tfr
  else if tfr.portId = 384 ∧ tfr.transferKind = .response then registerAccessResponseHandler w tfr
  else if tfr.portId = 435 ∧ tfr.transferKind = .response then executeCommandResponseHandler w tfr
  else .ok (w, none)

/-- Free the payload of a transfer. -/
def freePayload (w : World) (payload : Option Buffer) : World :=
  { w with
    bus := { w.bus with
      canard := { w.bus.canard with memory := w.bus.canard.memory.free payload } } }

/-- After a handler: enter the application's code, or free the payload and be done. -/
def resume (w : World) (rest : Option Rest) (payload : Option Buffer) : World :=
  match rest with
  | some rest => { w with stack := .user rest payload :: w.stack }
  | none => freePayload w payload

/-- Process the transfer a frame has completed. A buffer is freed only if it is not empty. -/
def handleTransfer (w : World) (tfr : CanardTransfer) (buffer : Option Buffer) (pick : Int)
    (malloc : Bool) : Except Fault World := do
  let (w, rest) ← dispatch w tfr pick malloc
  .ok (resume w rest (if 0 < tfr.payload.length then buffer else none))

def canSocketHandler (w : World) (frame : CanardFrame) (pick : Int) (malloc : Bool) :
    Except Fault World :=
  let rxf := { frame with extendedCanId := frame.extendedCanId &&& 0x1FFFFFFF }
  -- the result is positive exactly when a transfer comes with it
  match canardRxAccept w.bus.canard rxf 0 with
  | (canard, _, none) => .ok { w with bus := { w.bus with canard := canard } }
  | (canard, _, some (tfr, buffer)) =>
    handleTransfer { w with bus := { w.bus with canard := canard } } tfr buffer pick malloc

end Wlmio.Client
