import Wlmio.Canard.Frame

/-!
# The reception pipeline

`canardRxAccept` parses a frame, finds the subscription for its port and hands it
to the session of its source node. A session collects the pieces of one transfer
at a time; when the last frame has arrived and the CRC leaves the residue, the
transfer is handed to the application together with its payload buffer.

Buffers are the dynamic blocks of `Memory`: a session asks for one when its first
byte arrives, gives it up when it hands a transfer over, and frees it on restart.
-/

namespace Wlmio.Canard

/-! ## Memory -/

/-- Ask for a payload buffer. -/
def Memory.allocate (m : Memory) : Memory × Option Buffer :=
  if m.deny m.next then ({ m with next := m.next + 1 }, none)
  else ({ m with next := m.next + 1, live := m.next :: m.live }, some m.next)

/-- Ask for a block that is no payload buffer: only whether it is granted matters. -/
def Memory.allocateSession (m : Memory) : Memory × Bool :=
  ({ m with next := m.next + 1 }, !m.deny m.next)

/-- `memory_free`; freeing `NULL` has no effect. -/
def Memory.free (m : Memory) : Option Buffer → Memory
  | none => m
  | some b => { m with live := m.live.erase b, freed := m.freed ++ [b] }

/-! ## Parsing -/

/-- High-level transport frame model. -/
structure RxFrameModel where
  timestampUsec : Nat
  priority : Nat
  transferKind : CanardTransferKind
  portId : Nat
  sourceNodeId : Nat
  destinationNodeId : Nat
  transferId : Nat
  startOfTransfer : Bool
  endOfTransfer : Bool
  toggle : Bool
  payload : List Byte
deriving DecidableEq, Repr

/-- What the CAN identifier says, and whether its reserved bits are valid. -/
def rxParseCanId (canId : Nat) : CanardTransferKind × Nat × Nat × Nat × Bool :=
  let sourceNodeId := canId &&& CANARD_NODE_ID_MAX
  if canId &&& (1 <<< 25) = 0 then
    let sourceNodeId := if canId &&& (1 <<< 24) ≠ 0 then CANARD_NODE_ID_UNSET else sourceNodeId
    (.message, (canId >>> 8) &&& CANARD_SUBJECT_ID_MAX, sourceNodeId, CANARD_NODE_ID_UNSET,
      decide (canId &&& (1 <<< 23) = 0) && decide (canId &&& (1 <<< 7) = 0))
  else
    let kind := if canId &&& (1 <<< 24) ≠ 0 then .request else .response
    let destinationNodeId := (canId >>> 7) &&& CANARD_NODE_ID_MAX
    (kind, (canId >>> 14) &&& CANARD_SERVICE_ID_MAX, sourceNodeId, destinationNodeId,
      decide (canId &&& (1 <<< 23) = 0) && decide (sourceNodeId ≠ destinationNodeId))

/-- `none` when the frame is not a valid UAVCAN/CAN frame. -/
def rxTryParseFrame (frame : CanardFrame) : Option RxFrameModel :=
  match frame.payload.getLast? with
  | none => none
  | some tail =>
    let canId := frame.extendedCanId
    let (kind, portId, sourceNodeId, destinationNodeId, idValid) := rxParseCanId canId
    let payload := frame.payload.dropLast
    let sot := decide (tail &&& 128#8 ≠ 0#8)
    let eot := decide (tail &&& 64#8 ≠ 0#8)
    let toggle := decide (tail &&& 32#8 ≠ 0#8)
    let valid := idValid
      -- protocol version check: a start of transfer has the toggle set
      && (!sot || toggle)
      -- anonymous transfers are single-frame transfers
      && ((sot && eot) || decide (sourceNodeId ≠ CANARD_NODE_ID_UNSET))
      -- all frames but the last utilise the MTU, and no frame of several is empty
      && (decide (7 ≤ payload.length) || eot)
      && (decide (0 < payload.length) || (sot && eot))
    if valid then
      some { timestampUsec := frame.timestampUsec, priority := (canId >>> 26) &&& CANARD_PRIORITY_MAX,
             transferKind := kind, portId := portId, sourceNodeId := sourceNodeId,
             destinationNodeId := destinationNodeId, transferId := (tail &&& 31#8).toNat,
             startOfTransfer := sot, endOfTransfer := eot, toggle := toggle, payload := payload }
    else none

/-! ## Sessions -/

/-- Everything of a transfer but its payload and time. -/
def rxInitTransferFromFrame (frame : RxFrameModel) (timestampUsec : Nat) (payload : List Byte) :
    CanardTransfer where
  timestampUsec := timestampUsec
  priority := frame.priority
  transferKind := frame.transferKind
  portId := frame.portId
  remoteNodeId := frame.sourceNodeId
  transferId := frame.transferId
  payload := payload

def rxComputeTransferIDDifference (a b : Nat) : Nat :=
  let diff : Int := (a : Int) - b
  (if diff < 0 then diff + 32 else diff).toNat

/-- A new session, for the first frame of a transfer. -/
def rxSessionInit (frame : RxFrameModel) (redundantTransportIndex : Nat) :
    CanardInternalRxSession where
  transferTimestampUsec := frame.timestampUsec
  totalPayloadSize := 0
  payload := none
  received := []
  calculatedCrc := CRC_INITIAL
  transferId := frame.transferId
  redundantTransportIndex := redundantTransportIndex
  toggle := true

/-- The copy of `rxSessionWritePayload`, truncated to the extent. -/
def rxSessionCopy (rxs : CanardInternalRxSession) (extent : Nat) (payload : List Byte) :
    CanardInternalRxSession :=
  let bytesToCopy :=
    if extent < rxs.received.length + payload.length then extent - rxs.received.length
    else payload.length
  { rxs with received := rxs.received ++ payload.take bytesToCopy }

def rxSessionWritePayload (mem : Memory) (rxs : CanardInternalRxSession) (extent : Nat)
    (payload : List Byte) : Memory × CanardInternalRxSession × Int :=
  let rxs := { rxs with totalPayloadSize := rxs.totalPayloadSize + payload.length }
  -- allocate the payload lazily, as late as possible
  let (mem, rxs) :=
    if rxs.payload = none ∧ 0 < extent then
      let (mem, buffer) := mem.allocate
      (mem, { rxs with payload := buffer })
    else (mem, rxs)
  if rxs.payload ≠ none then (mem, rxSessionCopy rxs extent payload, 0)
  else (mem, rxs, if 0 < extent then -CANARD_ERROR_OUT_OF_MEMORY else 0)

def rxSessionRestart (mem : Memory) (rxs : CanardInternalRxSession) :
    Memory × CanardInternalRxSession :=
  (mem.free rxs.payload,
    { rxs with
      totalPayloadSize := 0
      received := []
      payload := none
      calculatedCrc := CRC_INITIAL
      transferId := (rxs.transferId + 1) &&& CANARD_TRANSFER_ID_MAX
      toggle := true })

/-- A transfer together with the buffer that holds its payload. -/
abbrev RxTransfer := CanardTransfer × Option Buffer

/-- The transfer a complete session hands over, with the CRC cut off. -/
def rxSessionTransfer (rxs : CanardInternalRxSession) (frame : RxFrameModel) (singleFrame : Bool) :
    RxTransfer :=
  let truncatedAmount := rxs.totalPayloadSize - rxs.received.length
  let payloadSize :=
    if !singleFrame && decide (truncatedAmount < CRC_SIZE_BYTES) then
      rxs.received.length - (CRC_SIZE_BYTES - truncatedAmount)
    else rxs.received.length
  (rxInitTransferFromFrame frame rxs.transferTimestampUsec (rxs.received.take payloadSize), rxs.payload)

/-- The time of the transfer is that of its first frame, and the CRC of a multi-frame
transfer covers every frame whether or not its payload is kept. -/
def rxSessionNote (rxs : CanardInternalRxSession) (frame : RxFrameModel) : CanardInternalRxSession :=
  let rxs :=
    if frame.startOfTransfer then { rxs with transferTimestampUsec := frame.timestampUsec } else rxs
  if frame.startOfTransfer && frame.endOfTransfer then rxs
  else { rxs with calculatedCrc := crcAdd rxs.calculatedCrc frame.payload }

def rxSessionAcceptFrame (mem : Memory) (rxs : CanardInternalRxSession) (frame : RxFrameModel)
    (extent : Nat) : Memory × CanardInternalRxSession × Int × Option RxTransfer :=
  let singleFrame := frame.startOfTransfer && frame.endOfTransfer
  let rxs := rxSessionNote rxs frame
  let (mem, rxs, out) := rxSessionWritePayload mem rxs extent frame.payload
  if out < 0 then
    let (mem, rxs) := rxSessionRestart mem rxs
    (mem, rxs, out, none)
  else if frame.endOfTransfer then
    if singleFrame || decide (rxs.calculatedCrc = CRC_RESIDUE) then
      let transfer := rxSessionTransfer rxs frame singleFrame
      -- the buffer now belongs to the application
      let (mem, rxs) := rxSessionRestart mem { rxs with payload := none }
      (mem, rxs, 1, some transfer)
    else
      let (mem, rxs) := rxSessionRestart mem rxs
      (mem, rxs, out, none)
  else (mem, { rxs with toggle := !rxs.toggle }, out, none)

/-- Whether the frame makes the session forget the transfer it was in. -/
def rxNeedRestart (rxs : CanardInternalRxSession) (frame : RxFrameModel)
    (redundantTransportIndex transferIdTimeoutUsec : Nat) : Bool :=
  let tidTimedOut := decide (rxs.transferTimestampUsec < frame.timestampUsec) &&
    decide (transferIdTimeoutUsec < frame.timestampUsec - rxs.transferTimestampUsec)
  let notPreviousTid := decide (1 < rxComputeTransferIDDifference rxs.transferId frame.transferId)
  tidTimedOut || (decide (rxs.redundantTransportIndex = redundantTransportIndex) &&
    frame.startOfTransfer && notPreviousTid)

def rxSessionUpdate (mem : Memory) (rxs : CanardInternalRxSession) (frame : RxFrameModel)
    (redundantTransportIndex transferIdTimeoutUsec extent : Nat) :
    Memory × CanardInternalRxSession × Int × Option RxTransfer :=
  let needRestart := rxNeedRestart rxs frame redundantTransportIndex transferIdTimeoutUsec
  let rxs :=
    if needRestart then
      { rxs with
        totalPayloadSize := 0
        received := []
        calculatedCrc := CRC_INITIAL
        transferId := frame.transferId
        toggle := true
        redundantTransportIndex := redundantTransportIndex }
    else rxs
  if needRestart && !frame.startOfTransfer then
    let (mem, rxs) := rxSessionRestart mem rxs
    (mem, rxs, 0, none)
  else if rxs.redundantTransportIndex = redundantTransportIndex ∧ frame.toggle = rxs.toggle ∧
      frame.transferId = rxs.transferId then
    rxSessionAcceptFrame mem rxs frame extent
  else (mem, rxs, 0, none)

/-! ## Dispatch to the sessions -/

def CanardRxSubscription.setSession (sub : CanardRxSubscription) (node : Nat)
    (rxs : CanardInternalRxSession) : CanardRxSubscription :=
  { sub with sessions := fun n => if n = node then some rxs else sub.sessions n }

def rxAcceptFrame (mem : Memory) (sub : CanardRxSubscription) (frame : RxFrameModel)
    (redundantTransportIndex : Nat) : Memory × CanardRxSubscription × Int × Option RxTransfer :=
  if frame.sourceNodeId ≤ CANARD_NODE_ID_MAX then
    -- a session is created by the first frame of a transfer only
    let (mem, session, out) : Memory × Option CanardInternalRxSession × Int :=
      match sub.sessions frame.sourceNodeId with
      | some rxs => (mem, some rxs, 0)
      | none =>
        if frame.startOfTransfer then
          let (mem, granted) := mem.allocateSession
          if granted then (mem, some (rxSessionInit frame redundantTransportIndex), 0)
          else (mem, none, -CANARD_ERROR_OUT_OF_MEMORY)
        else (mem, none, 0)
    match session with
    | none => (mem, sub, out, none)
    | some rxs =>
      let (mem, rxs, out, transfer) := rxSessionUpdate mem rxs frame redundantTransportIndex
        sub.transferIdTimeoutUsec sub.extent
      (mem, sub.setSession frame.sourceNodeId rxs, out, transfer)
  else
    -- anonymous transfers are stateless
    match mem.allocate with
    | (mem, some buffer) =>
      (mem, sub, 1,
        some (rxInitTransferFromFrame frame frame.timestampUsec (frame.payload.take sub.extent),
          some buffer))
    | (mem, none) => (mem, sub, -CANARD_ERROR_OUT_OF_MEMORY, none)

/-- Hand the frame to the first subscription for its port. -/
def rxDispatch (mem : Memory) (frame : RxFrameModel) (redundantTransportIndex : Nat) :
    List CanardRxSubscription → Memory × List CanardRxSubscription × Int × Option RxTransfer
  | [] => (mem, [], 0, none)
  | sub :: subs =>
    if sub.portId = frame.portId then
      let (mem, sub, out, transfer) := rxAcceptFrame mem sub frame redundantTransportIndex
      (mem, sub :: subs, out, transfer)
    else
      let (mem, subs, out, transfer) := rxDispatch mem frame redundantTransportIndex subs
      (mem, sub :: subs, out, transfer)

def canardRxAccept (ins : CanardInstance) (frame : CanardFrame) (redundantTransportIndex : Nat) :
    CanardInstance × Int × Option RxTransfer :=
  if frame.extendedCanId ≤ CAN_EXT_ID_MASK then
    match rxTryParseFrame frame with
    | none => (ins, 0, none)
    | some model =>
      if model.destinationNodeId = CANARD_NODE_ID_UNSET ∨ model.destinationNodeId = ins.nodeId then
        let (mem, subs, out, transfer) := rxDispatch ins.memory model redundantTransportIndex
          (ins.rxSubscriptions model.transferKind)
        ({ ins with
            memory := mem
            rxSubscriptions := fun k =>
              if k = model.transferKind then subs else ins.rxSubscriptions k },
          out, transfer)
      else (ins, 0, none)
  else (ins, -CANARD_ERROR_INVALID_ARGUMENT, none)

/-! ## Subscriptions -/

/-- Free the sessions of a subscription and their buffers. -/
def rxFreeSessions (mem : Memory) (sub : CanardRxSubscription) : Memory :=
  (List.range (CANARD_NODE_ID_MAX + 1)).foldl
    (fun mem node => mem.free ((sub.sessions node).bind (·.payload))) mem

def canardRxUnsubscribe (ins : CanardInstance) (kind : CanardTransferKind) (portId : Nat) :
    CanardInstance × Int :=
  match (ins.rxSubscriptions kind).find? (fun sub => sub.portId == portId) with
  | none => (ins, 0)
  | some sub =>
    ({ ins with
        memory := rxFreeSessions ins.memory sub
        rxSubscriptions := fun k =>
          if k = kind then (ins.rxSubscriptions kind).eraseP (fun sub => sub.portId == portId)
          else ins.rxSubscriptions k }, 1)

def canardRxSubscribe (ins : CanardInstance) (kind : CanardTransferKind) (portId extent
    transferIdTimeoutUsec : Nat) : CanardInstance × Int :=
  let (ins, out) := canardRxUnsubscribe ins kind portId
  let sub : CanardRxSubscription :=
    { sessions := fun _ => none, transferIdTimeoutUsec := transferIdTimeoutUsec, extent := extent,
      portId := portId }
  ({ ins with
      rxSubscriptions := fun k =>
        if k = kind then sub :: ins.rxSubscriptions kind else ins.rxSubscriptions k },
    if 0 < out then 0 else 1)

/-! ## What a transfer can look like -/

/-- The fields of a transfer that come out of a CAN identifier and a tail byte. -/
structure CanardTransfer.Received (tr : CanardTransfer) : Prop where
  source : tr.remoteNodeId ≤ CANARD_NODE_ID_MAX ∨
    (tr.transferKind = .message ∧ tr.remoteNodeId = CANARD_NODE_ID_UNSET)
  transferId : tr.transferId ≤ CANARD_TRANSFER_ID_MAX
  service : tr.transferKind ≠ .message → tr.portId ≤ CANARD_SERVICE_ID_MAX

/-- Everything of a transfer but its time and payload is that of its last frame. -/
def OfFrame (frame : RxFrameModel) (transfer : Option RxTransfer) : Prop :=
  ∀ tr b, transfer = some (tr, b) → ∃ t p, tr = rxInitTransferFromFrame frame t p

theorem OfFrame.none {frame : RxFrameModel} : OfFrame frame none := by
  intro tr b h; simp at h

theorem rxSessionAcceptFrame_ofFrame (mem : Memory) (rxs : CanardInternalRxSession)
    (frame : RxFrameModel) (extent : Nat) :
    OfFrame frame (rxSessionAcceptFrame mem rxs frame extent).2.2.2 := by
  intro tr b h
  unfold rxSessionAcceptFrame at h
  dsimp only at h
  split at h
  · simp at h
  · split at h
    · split at h
      · obtain ⟨rfl, _⟩ := Prod.mk.inj (Option.some.inj h)
        exact ⟨_, _, rfl⟩
      · simp at h
    · simp at h

theorem rxSessionUpdate_ofFrame (mem : Memory) (rxs : CanardInternalRxSession)
    (frame : RxFrameModel) (index timeout extent : Nat) :
    OfFrame frame (rxSessionUpdate mem rxs frame index timeout extent).2.2.2 := by
  unfold rxSessionUpdate
  dsimp only
  generalize (if rxNeedRestart rxs frame index timeout = true then _ else rxs) = rxs'
  split
  · exact .none
  · split
    · exact rxSessionAcceptFrame_ofFrame _ _ _ _
    · exact .none

theorem rxAcceptFrame_ofFrame (mem : Memory) (sub : CanardRxSubscription) (frame : RxFrameModel)
    (index : Nat) : OfFrame frame (rxAcceptFrame mem sub frame index).2.2.2 := by
  unfold rxAcceptFrame
  split
  · dsimp only
    split
    · exact .none
    · exact rxSessionUpdate_ofFrame _ _ _ _ _ _
  · split
    · intro tr b h
      obtain ⟨rfl, _⟩ := Prod.mk.inj (Option.some.inj h)
      exact ⟨_, _, rfl⟩
    · exact .none

theorem rxDispatch_ofFrame (mem : Memory) (frame : RxFrameModel) (index : Nat)
    (subs : List CanardRxSubscription) : OfFrame frame (rxDispatch mem frame index subs).2.2.2 := by
  induction subs with
  | nil => exact .none
  | cons sub subs ih =>
      unfold rxDispatch
      split
      · exact rxAcceptFrame_ofFrame _ _ _ _
      · exact ih

/-- A mask bounds what is left. -/
theorem and_le_mask (a m : Nat) : a &&& m ≤ m := Nat.and_le_right

/-- The source of a service transfer is a node, and its port a service. -/
theorem rxParseCanId_range {canId portId src dst : Nat} {kind : CanardTransferKind} {valid : Bool}
    (h : rxParseCanId canId = (kind, portId, src, dst, valid)) :
    (src ≤ CANARD_NODE_ID_MAX ∨ (kind = .message ∧ src = CANARD_NODE_ID_UNSET)) ∧
      (kind ≠ .message → portId ≤ CANARD_SERVICE_ID_MAX) := by
  unfold rxParseCanId at h
  dsimp only at h
  split at h
  · obtain ⟨rfl, rfl, rfl, -⟩ := h
    refine ⟨?_, fun hk => absurd rfl hk⟩
    split
    · exact .inr ⟨rfl, rfl⟩
    · exact .inl (and_le_mask _ _)
  · obtain ⟨rfl, rfl, rfl, -⟩ := h
    exact ⟨.inl (and_le_mask _ _), fun _ => and_le_mask _ _⟩

theorem rxTryParseFrame_received {frame : CanardFrame} {model : RxFrameModel}
    (h : rxTryParseFrame frame = some model) (t : Nat) (p : List Byte) :
    (rxInitTransferFromFrame model t p).Received := by
  unfold rxTryParseFrame at h
  split at h
  · simp at h
  rename_i tail _
  dsimp only at h
  rcases hparse : rxParseCanId frame.extendedCanId with ⟨kind, portId, src, dst, valid⟩
  obtain ⟨hsrc, hport⟩ := rxParseCanId_range hparse
  rw [hparse] at h
  have htid : ∀ tail : Byte, (tail &&& 31#8).toNat ≤ CANARD_TRANSFER_ID_MAX := by decide
  split at h
  · rw [← Option.some.inj h]
    exact ⟨hsrc, htid tail, hport⟩
  · simp at h

/-- **What `canardRxAccept` does**: it leaves the sending side alone, and the transfer it
hands over, if any, has fields in range. -/
theorem canardRxAccept_spec {ins ins' : CanardInstance} {frame : CanardFrame} {index : Nat}
    {out : Int} {transfer : Option RxTransfer}
    (h : canardRxAccept ins frame index = (ins', out, transfer)) :
    (ins'.txQueue = ins.txQueue ∧ ins'.nodeId = ins.nodeId ∧ ins'.mtuBytes = ins.mtuBytes) ∧
      ∀ tr b, transfer = some (tr, b) → tr.Received := by
  unfold canardRxAccept at h
  split at h
  · split at h
    · obtain ⟨rfl, _, rfl⟩ := h
      exact ⟨⟨rfl, rfl, rfl⟩, by simp⟩
    · rename_i model hmodel
      split at h
      · obtain ⟨rfl, _, rfl⟩ := h
        refine ⟨⟨rfl, rfl, rfl⟩, ?_⟩
        intro tr b htr
        obtain ⟨t, p, rfl⟩ := rxDispatch_ofFrame _ _ _ _ _ _ htr
        exact rxTryParseFrame_received hmodel t p
      · obtain ⟨rfl, _, rfl⟩ := h
        exact ⟨⟨rfl, rfl, rfl⟩, by simp⟩
  · obtain ⟨rfl, _, rfl⟩ := h
    exact ⟨⟨rfl, rfl, rfl⟩, by simp⟩

/-! ## Ports -/

theorem rxAcceptFrame_portId (mem : Memory) (sub : CanardRxSubscription) (frame : RxFrameModel)
    (index : Nat) : (rxAcceptFrame mem sub frame index).2.1.portId = sub.portId := by
  unfold rxAcceptFrame
  split
  · dsimp only
    split
    · rfl
    · rfl
  · split
    · rfl
    · rfl

/-- The ports of the subscriptions stay, and a transfer is of one of them. -/
theorem rxDispatch_ports (mem : Memory) (frame : RxFrameModel) (index : Nat)
    (subs : List CanardRxSubscription) :
    (rxDispatch mem frame index subs).2.1.map CanardRxSubscription.portId =
        subs.map CanardRxSubscription.portId ∧
      ((rxDispatch mem frame index subs).2.2.2.isSome →
        frame.portId ∈ subs.map CanardRxSubscription.portId) := by
  induction subs with
  | nil => exact ⟨rfl, fun h => by cases h⟩
  | cons sub subs ih =>
      unfold rxDispatch
      split
      · rename_i hport
        refine ⟨?_, fun _ => by rw [List.map_cons, hport]; exact List.mem_cons_self⟩
        dsimp only
        rw [List.map_cons, List.map_cons, rxAcceptFrame_portId]
      · refine ⟨?_, fun h => List.mem_cons_of_mem _ (ih.2 h)⟩
        dsimp only
        rw [List.map_cons, List.map_cons, ih.1]

/-- **A transfer is handed over on a port of its kind that has been subscribed to**, and the
subscriptions stay. -/
theorem canardRxAccept_ports {ins ins' : CanardInstance} {frame : CanardFrame} {index : Nat}
    {out : Int} {transfer : Option RxTransfer}
    (h : canardRxAccept ins frame index = (ins', out, transfer)) :
    (∀ k, (ins'.rxSubscriptions k).map CanardRxSubscription.portId =
        (ins.rxSubscriptions k).map CanardRxSubscription.portId) ∧
      ∀ tr b, transfer = some (tr, b) →
        tr.portId ∈ (ins.rxSubscriptions tr.transferKind).map CanardRxSubscription.portId := by
  unfold canardRxAccept at h
  split at h
  · split at h
    · obtain ⟨rfl, _, rfl⟩ := h
      exact ⟨fun _ => rfl, by simp⟩
    · rename_i model hmodel
      split at h
      · have hports := rxDispatch_ports ins.memory model index
          (ins.rxSubscriptions model.transferKind)
        have hframe := rxDispatch_ofFrame ins.memory model index
          (ins.rxSubscriptions model.transferKind)
        obtain ⟨rfl, _, rfl⟩ := h
        constructor
        · intro k
          dsimp only
          split
          · rename_i hk
            rw [hports.1, hk]
          · rfl
        · intro tr b htr
          obtain ⟨t, p, rfl⟩ := hframe tr b htr
          exact hports.2 (by rw [htr]; rfl)
      · obtain ⟨rfl, _, rfl⟩ := h
        exact ⟨fun _ => rfl, by simp⟩
  · obtain ⟨rfl, _, rfl⟩ := h
    exact ⟨fun _ => rfl, by simp⟩

end Wlmio.Canard
