import Wlmio.Canard.Frame
import Wlmio.Library.StableQueue

/-!
# The transmission pipeline

`canardTxPush` turns a transfer into one frame, or into a sequence of frames that
share a CAN identifier, and links them into the transmission queue behind every
frame that is not of lower priority. `canardTxPeek` and `canardTxPop` take them
out at the front.

The second half of the file says what comes out. A multi-frame transfer is the
payload, zero padding and the CRC of both, cut into pieces of the presentation
layer MTU (`txFrames_spec`); a push is a `StableQueue.insertBlock`
(`txInsert_eq`).
-/

namespace Wlmio.Canard

/-! ## CAN identifiers -/

def txMakeMessageSessionSpecifier (subjectId srcNodeId : Nat) : Nat :=
  let tmp := subjectId ||| (CANARD_SUBJECT_ID_MAX + 1) ||| ((CANARD_SUBJECT_ID_MAX + 1) * 2)
  srcNodeId ||| (tmp <<< 8)

def txMakeServiceSessionSpecifier (serviceId : Nat) (requestNotResponse : Bool)
    (srcNodeId dstNodeId : Nat) : Nat :=
  srcNodeId ||| (dstNodeId <<< 7) ||| (serviceId <<< 14) |||
    (if requestNotResponse then 1 <<< 24 else 0) ||| (1 <<< 25)

/-- The transport MTU rounded up to the next full DLC, minus the tail byte. -/
def txGetPresentationLayerMTU (ins : CanardInstance) : Nat :=
  let maxIndex := CanardCANLengthToDLC.length - 1
  let mtu :=
    if ins.mtuBytes < CANARD_MTU_CAN_CLASSIC then CANARD_MTU_CAN_CLASSIC
    else if ins.mtuBytes ≤ maxIndex then
      CanardCANDLCToLength.getD (CanardCANLengthToDLC.getD ins.mtuBytes 0) 0
    else CanardCANDLCToLength.getD (CanardCANLengthToDLC.getD maxIndex 0) 0
  mtu - 1

/-- `none` is `-CANARD_ERROR_INVALID_ARGUMENT`. -/
def txMakeCANID (tr : CanardTransfer) (localNodeId presentationLayerMtu : Nat) : Option Nat :=
  let out : Option Nat :=
    if tr.transferKind = .message ∧ tr.remoteNodeId = CANARD_NODE_ID_UNSET ∧
        tr.portId ≤ CANARD_SUBJECT_ID_MAX then
      if localNodeId ≤ CANARD_NODE_ID_MAX then
        some (txMakeMessageSessionSpecifier tr.portId localNodeId)
      else if tr.payload.length ≤ presentationLayerMtu then
        let c := (crcAdd CRC_INITIAL tr.payload).toNat &&& CANARD_NODE_ID_MAX
        some (txMakeMessageSessionSpecifier tr.portId c ||| (1 <<< 24))
      else none
    else if (tr.transferKind = .request ∨ tr.transferKind = .response) ∧
        tr.remoteNodeId ≤ CANARD_NODE_ID_MAX ∧ tr.portId ≤ CANARD_SERVICE_ID_MAX then
      if localNodeId ≤ CANARD_NODE_ID_MAX then
        some (txMakeServiceSessionSpecifier tr.portId (decide (tr.transferKind = .request))
          localNodeId tr.remoteNodeId)
      else none
    else none
  match out with
  | some spec => if tr.priority ≤ CANARD_PRIORITY_MAX then some (spec ||| (tr.priority <<< 26)) else none
  | none => none

def txMakeTailByte (startOfTransfer endOfTransfer toggle : Bool) (transferId : Nat) : Byte :=
  (if startOfTransfer then 128#8 else 0#8) ||| (if endOfTransfer then 64#8 else 0#8) |||
    (if toggle then 32#8 else 0#8) ||| BitVec.ofNat 8 (transferId &&& CANARD_TRANSFER_ID_MAX)

/-- Rounds a frame payload size up to the nearest valid DLC. -/
def txRoundFramePayloadSizeUp (x : Nat) : Nat :=
  CanardCANDLCToLength.getD (CanardCANLengthToDLC.getD x 0) 0

/-! ## Framing -/

/-- The payload of the only frame of a single-frame transfer. -/
def txSingleFrame (transferId : Nat) (payload : List Byte) : List Byte :=
  let framePayloadSize := txRoundFramePayloadSizeUp (payload.length + 1)
  let paddingSize := framePayloadSize - payload.length - 1
  payload ++ List.replicate paddingSize 0#8 ++ [txMakeTailByte true true true transferId]

/-- The variables of the loop of `txPushMultiFrame`. -/
structure TxLoop where
  offset : Nat
  crc : TransferCRC
  startOfTransfer : Bool
  toggle : Bool
deriving DecidableEq, Repr

/-- `frame_payload_size` of the next frame: padding goes into the last frame only. -/
def txFramePayloadSize (presentationLayerMtu remaining : Nat) : Nat :=
  let framePayloadSizeWithTail :=
    if remaining < presentationLayerMtu then txRoundFramePayloadSizeUp (remaining + 1)
    else presentationLayerMtu + 1
  framePayloadSizeWithTail - 1

/-- The branch `offset >= payload_size`: padding, which the CRC covers too, and as many
bytes of the CRC as the frame still holds. -/
def txSealFrame (framePayloadSize payloadSize : Nat) (frame : List Byte) (offset : Nat)
    (crc : TransferCRC) : List Byte × Nat × TransferCRC :=
  let padding := List.replicate (framePayloadSize - CRC_SIZE_BYTES - frame.length) 0#8
  let frame := frame ++ padding
  let crc := crcAdd crc padding
  let high := frame.length < framePayloadSize ∧ offset = payloadSize
  let (frame, offset) := if high then (frame ++ [crcHigh crc], offset + 1) else (frame, offset)
  let low := frame.length < framePayloadSize ∧ payloadSize < offset
  let (frame, offset) := if low then (frame ++ [crcLow crc], offset + 1) else (frame, offset)
  (frame, offset, crc)

/-- One iteration of the loop: the payload of the next frame and the variables after it. -/
def txNextFrame (presentationLayerMtu transferId : Nat) (payload : List Byte) (v : TxLoop) :
    List Byte × TxLoop :=
  let payloadSizeWithCrc := payload.length + CRC_SIZE_BYTES
  let framePayloadSize := txFramePayloadSize presentationLayerMtu (payloadSizeWithCrc - v.offset)
  let frame := (payload.drop v.offset).take framePayloadSize
  let offset := v.offset + frame.length
  let (frame, offset, crc) :=
    if payload.length ≤ offset then
      txSealFrame framePayloadSize payload.length frame offset v.crc
    else (frame, offset, v.crc)
  (frame ++ [txMakeTailByte v.startOfTransfer (decide (payloadSizeWithCrc ≤ offset)) v.toggle
      transferId],
    { offset := offset, crc := crc, startOfTransfer := false, toggle := !v.toggle })

/-- `while (offset < payload_size_with_crc)`; every iteration moves `offset`, so the
fuel `payload_size_with_crc` is never used up. -/
def txFrames (presentationLayerMtu transferId : Nat) (payload : List Byte) :
    Nat → TxLoop → List (List Byte)
  | 0, _ => []
  | fuel + 1, v =>
    if v.offset < payload.length + CRC_SIZE_BYTES then
      let (frame, v') := txNextFrame presentationLayerMtu transferId payload v
      frame :: txFrames presentationLayerMtu transferId payload fuel v'
    else []

/-- The payloads of the frames of a multi-frame transfer. -/
def txMultiFrame (presentationLayerMtu transferId : Nat) (payload : List Byte) : List (List Byte) :=
  txFrames presentationLayerMtu transferId payload (payload.length + CRC_SIZE_BYTES)
    { offset := 0, crc := crcAdd CRC_INITIAL payload, startOfTransfer := true, toggle := true }

/-! ## The queue -/

/-- Index of the element after which frames with this identifier belong; `none` is the front. -/
def txFindQueueSupremum (queue : List CanardFrame) (canId : Nat) : Option Nat :=
  match queue with
  | [] => none
  | f :: q =>
    if canId < f.extendedCanId then none
    else some (q.takeWhile (fun g => decide (g.extendedCanId ≤ canId))).length

/-- Link a sequence of frames into the queue at the place of their identifier. -/
def txInsert (queue : List CanardFrame) (canId : Nat) (frames : List CanardFrame) :
    List CanardFrame :=
  match txFindQueueSupremum queue canId with
  | some sup => queue.take (sup + 1) ++ frames ++ queue.drop (sup + 1)
  | none => frames ++ queue

/-- The frames of a transfer, in the order they leave. -/
def txTransferFrames (presentationLayerMtu canId : Nat) (transfer : CanardTransfer) :
    List CanardFrame :=
  let payloads :=
    if transfer.payload.length ≤ presentationLayerMtu then
      [txSingleFrame transfer.transferId transfer.payload]
    else txMultiFrame presentationLayerMtu transfer.transferId transfer.payload
  payloads.map fun p =>
    { timestampUsec := transfer.timestampUsec, extendedCanId := canId, payload := p }

/-- Enqueue a transfer. `room` is the number of queue items that `memory_allocate`
grants; when they do not suffice, all of them are freed again and nothing is queued. -/
def canardTxPush (ins : CanardInstance) (transfer : CanardTransfer) (room : Nat) :
    CanardInstance × Int :=
  let plMtu := txGetPresentationLayerMTU ins
  match txMakeCANID transfer ins.nodeId plMtu with
  | none => (ins, -CANARD_ERROR_INVALID_ARGUMENT)
  | some canId =>
    let frames := txTransferFrames plMtu canId transfer
    if frames.length ≤ room then
      ({ ins with txQueue := txInsert ins.txQueue canId frames }, frames.length)
    else (ins, -CANARD_ERROR_OUT_OF_MEMORY)

def canardTxPeek (ins : CanardInstance) : Option CanardFrame := ins.txQueue.head?

def canardTxPop (ins : CanardInstance) : CanardInstance := { ins with txQueue := ins.txQueue.tail }

/-- Sending leaves alone what receiving needs. -/
theorem canardTxPush_rx (ins : CanardInstance) (tr : CanardTransfer) (room : Nat) :
    (canardTxPush ins tr room).1.memory = ins.memory ∧
      (canardTxPush ins tr room).1.rxSubscriptions = ins.rxSubscriptions := by
  unfold canardTxPush
  dsimp only
  split
  · exact ⟨rfl, rfl⟩
  · split
    · exact ⟨rfl, rfl⟩
    · exact ⟨rfl, rfl⟩

/-! ## What a multi-frame transfer looks like on the bus -/

/-- The presentation layer MTU of CAN FD. -/
def FD_MTU : Nat := 63

theorem txGetPresentationLayerMTU_fd {ins : CanardInstance} (h : ins.mtuBytes = CANARD_MTU_CAN_FD) :
    txGetPresentationLayerMTU ins = FD_MTU := by
  unfold txGetPresentationLayerMTU
  rw [h]
  rfl

/-- Zero bytes between a payload of `n - CRC_SIZE_BYTES` bytes and its CRC. -/
def txPadding (n : Nat) : Nat := txRoundFramePayloadSizeUp (n % FD_MTU + 1) - 1 - n % FD_MTU

/-- Add the tail bytes to the pieces of a transfer: the end is marked on the last
piece, and the toggle alternates. -/
def txTailed (transferId : Nat) : Bool → Bool → List (List Byte) → List (List Byte)
  | _, _, [] => []
  | sot, toggle, [p] => [p ++ [txMakeTailByte sot true toggle transferId]]
  | sot, toggle, p :: q :: ps =>
    (p ++ [txMakeTailByte sot false toggle transferId]) :: txTailed transferId false (!toggle) (q :: ps)

/-- `l` cut into pieces, all full but the last, which is not empty. -/
inductive Pieces : List Byte → List (List Byte) → Prop where
  | last {p : List Byte} : p ≠ [] → p.length ≤ FD_MTU → Pieces p [p]
  | full {p l : List Byte} {ps : List (List Byte)} :
      p.length = FD_MTU → Pieces l ps → Pieces (p ++ l) (p :: ps)

theorem Pieces.ne_nil {l : List Byte} {ps : List (List Byte)} (h : Pieces l ps) : ps ≠ [] := by
  cases h <;> simp

theorem txTailed_cons {transferId : Nat} {sot toggle : Bool} {p : List Byte} {ps : List (List Byte)}
    (h : ps ≠ []) :
    txTailed transferId sot toggle (p :: ps) =
      (p ++ [txMakeTailByte sot false toggle transferId]) ::
        txTailed transferId false (!toggle) ps := by
  cases ps with
  | nil => exact absurd rfl h
  | cons q qs => rfl

/-! ### The four ways a frame is sealed -/

theorem txSealFrame_both (size n : Nat) (frame : List Byte) (crc : TransferCRC)
    (h : frame.length + 2 ≤ size) :
    txSealFrame size n frame n crc =
      let pad := List.replicate (size - 2 - frame.length) 0#8
      (frame ++ pad ++ [crcHigh (crcAdd crc pad), crcLow (crcAdd crc pad)], n + 2,
        crcAdd crc pad) := by
  have h1 : frame.length + (size - 2 - frame.length) < size := by omega
  have h2 : frame.length + (size - 2 - frame.length + 1) < size := by omega
  simp [txSealFrame, CRC_SIZE_BYTES, h1, h2, Nat.add_assoc]

theorem txSealFrame_high {size n : Nat} {frame : List Byte} {crc : TransferCRC}
    (h : frame.length + 1 = size) :
    txSealFrame size n frame n crc = (frame ++ [crcHigh crc], n + 1, crc) := by
  subst h
  simp [txSealFrame, CRC_SIZE_BYTES]

theorem txSealFrame_none {size n : Nat} {frame : List Byte} {crc : TransferCRC}
    (h : frame.length = size) : txSealFrame size n frame n crc = (frame, n, crc) := by
  subst h
  have h1 : frame.length - 2 - frame.length = 0 := by omega
  simp [txSealFrame, CRC_SIZE_BYTES, h1]

theorem txSealFrame_low {n : Nat} {crc : TransferCRC} :
    txSealFrame 1 n [] (n + 1) crc = ([crcLow crc], n + 2, crc) := by
  simp [txSealFrame, CRC_SIZE_BYTES]

/-! ### The loop -/

/-- Past the end of the transfer the loop has stopped. -/
theorem txFrames_done {mtu tid fuel : Nat} {payload : List Byte} {v : TxLoop}
    (h : payload.length + 2 ≤ v.offset) : txFrames mtu tid payload fuel v = [] := by
  cases fuel with
  | zero => rfl
  | succ fuel => rw [txFrames, if_neg (by simp only [CRC_SIZE_BYTES]; omega)]

theorem txFrames_step {mtu tid fuel : Nat} {payload : List Byte} {v : TxLoop}
    (h : v.offset < payload.length + 2) :
    txFrames mtu tid payload (fuel + 1) v =
      (txNextFrame mtu tid payload v).1 ::
        txFrames mtu tid payload fuel (txNextFrame mtu tid payload v).2 := by
  rw [txFrames, if_pos (by simpa [CRC_SIZE_BYTES] using h)]

/-- One byte short of the end, the low byte of the CRC gets a frame of its own. -/
theorem txFrames_low {tid fuel : Nat} {payload : List Byte} {v : TxLoop}
    (h : v.offset = payload.length + 1) :
    txFrames FD_MTU tid payload (fuel + 1) v =
      txTailed tid v.startOfTransfer v.toggle [[crcLow v.crc]] := by
  have hsize : txFramePayloadSize FD_MTU (payload.length + 2 - v.offset) = 1 := by
    rw [h, show payload.length + 2 - (payload.length + 1) = 1 by omega]; rfl
  have hframe : txNextFrame FD_MTU tid payload v =
      ([crcLow v.crc] ++ [txMakeTailByte v.startOfTransfer true v.toggle tid],
        { offset := payload.length + 2, crc := v.crc, startOfTransfer := false,
          toggle := !v.toggle }) := by
    unfold txNextFrame
    simp only [CRC_SIZE_BYTES, hsize, List.drop_of_length_le (show payload.length ≤ v.offset by omega),
      List.take_nil, List.length_nil, Nat.add_zero]
    rw [if_pos (by omega), h, txSealFrame_low]
    simp
  rw [txFrames_step (by omega), hframe, txFrames_done (by simp)]
  rfl

/-- The padding of the rest does not change when a full frame has left. -/
theorem txPadding_sub {n : Nat} (h : FD_MTU ≤ n) : txPadding (n - FD_MTU) = txPadding n := by
  unfold txPadding
  rw [Nat.mod_eq_sub_mod h]

/-- A rest of up to one MTU is sent together with its padding. -/
theorem txFramePayloadSize_last {r : Nat} (h1 : 1 ≤ r) (h : r ≤ FD_MTU) :
    txFramePayloadSize FD_MTU r = r + txPadding r := by
  have key : ∀ r, r ≤ 63 → 1 ≤ r → txFramePayloadSize 63 r = r + txPadding r := by decide
  exact key r h h1

theorem txFramePayloadSize_full {r : Nat} (h : FD_MTU ≤ r) : txFramePayloadSize FD_MTU r = FD_MTU := by
  unfold txFramePayloadSize
  rw [if_neg (by omega)]
  rfl

theorem txPadding_bound {r : Nat} (h1 : 1 ≤ r) (h : r ≤ FD_MTU) : r + txPadding r ≤ FD_MTU := by
  have key : ∀ r, r ≤ 63 → 1 ≤ r → r + txPadding r ≤ 63 := by decide
  exact key r h h1

/-! ### One iteration, by how much of the payload is left -/

/-- The rest of the payload fits with its CRC: this is the last frame. -/
theorem txNextFrame_last {tid : Nat} {payload : List Byte} {v : TxLoop}
    (ho : v.offset ≤ payload.length) (hr : payload.length + 2 - v.offset ≤ FD_MTU) :
    let pad := List.replicate (txPadding (payload.length + 2 - v.offset)) 0#8
    let crc := crcAdd v.crc pad
    txNextFrame FD_MTU tid payload v =
      (payload.drop v.offset ++ pad ++ [crcHigh crc, crcLow crc] ++
          [txMakeTailByte v.startOfTransfer true v.toggle tid],
        { offset := payload.length + 2, crc := crc, startOfTransfer := false,
          toggle := !v.toggle }) := by
  intro pad crc
  have hlen : (payload.drop v.offset).length = payload.length - v.offset := List.length_drop
  have hsize := txFramePayloadSize_last (r := payload.length + 2 - v.offset) (by omega) hr
  have htake : (payload.drop v.offset).take (payload.length + 2 - v.offset +
      txPadding (payload.length + 2 - v.offset)) = payload.drop v.offset :=
    List.take_of_length_le (by omega)
  have hpad : payload.length + 2 - v.offset + txPadding (payload.length + 2 - v.offset) - 2 -
      (payload.drop v.offset).length = txPadding (payload.length + 2 - v.offset) := by omega
  have hseal := txSealFrame_both
    (payload.length + 2 - v.offset + txPadding (payload.length + 2 - v.offset))
    payload.length (payload.drop v.offset) v.crc (by omega)
  rw [hpad] at hseal
  unfold txNextFrame
  simp only [CRC_SIZE_BYTES, hsize, htake]
  rw [if_pos (by omega), show v.offset + (payload.drop v.offset).length = payload.length by omega,
    hseal]
  simp [pad, crc]

/-- The payload ends one byte short of the frame: the high byte of the CRC fills it. -/
theorem txNextFrame_high {tid : Nat} {payload : List Byte} {v : TxLoop}
    (ho : v.offset ≤ payload.length) (hr : payload.length + 2 - v.offset = FD_MTU + 1) :
    txNextFrame FD_MTU tid payload v =
      (payload.drop v.offset ++ [crcHigh v.crc] ++
          [txMakeTailByte v.startOfTransfer false v.toggle tid],
        { offset := payload.length + 1, crc := v.crc, startOfTransfer := false,
          toggle := !v.toggle }) := by
  have hmtu : FD_MTU = 63 := rfl
  have hlen : (payload.drop v.offset).length = payload.length - v.offset := List.length_drop
  have hsize := txFramePayloadSize_full (r := payload.length + 2 - v.offset) (by omega)
  have htake : (payload.drop v.offset).take FD_MTU = payload.drop v.offset :=
    List.take_of_length_le (by omega)
  unfold txNextFrame
  simp only [CRC_SIZE_BYTES, hsize, htake]
  rw [if_pos (by omega), show v.offset + (payload.drop v.offset).length = payload.length by omega,
    txSealFrame_high (by omega)]
  simp

/-- At least a full frame of payload is left: the frame holds nothing else. -/
theorem txNextFrame_full {tid : Nat} {payload : List Byte} {v : TxLoop}
    (hr : FD_MTU + 2 ≤ payload.length + 2 - v.offset) :
    txNextFrame FD_MTU tid payload v =
      ((payload.drop v.offset).take FD_MTU ++
          [txMakeTailByte v.startOfTransfer false v.toggle tid],
        { offset := v.offset + FD_MTU, crc := v.crc, startOfTransfer := false,
          toggle := !v.toggle }) := by
  have hmtu : FD_MTU = 63 := rfl
  have hsize := txFramePayloadSize_full (r := payload.length + 2 - v.offset) (by omega)
  have hlen : ((payload.drop v.offset).take FD_MTU).length = FD_MTU := by
    rw [List.length_take, List.length_drop]; omega
  unfold txNextFrame
  simp only [CRC_SIZE_BYTES, hsize, hlen]
  have hend : ¬ payload.length + 2 ≤ v.offset + FD_MTU := by omega
  split
  · rename_i hle
    have hstay : ¬ v.offset + FD_MTU + 2 ≤ v.offset + FD_MTU := by omega
    rw [show payload.length = v.offset + FD_MTU by omega, txSealFrame_none hlen]
    simp [hstay]
  · simp [hend]

/--
**What the loop sends.**

From an offset inside the payload, the frames still to come are the pieces of the
rest of the payload, the padding and the CRC. The induction is on the fuel, which
stays above the number of bytes to send; the cases are how much of the payload is
left beside the two bytes of the CRC.
-/
theorem txFrames_spec (tid : Nat) (payload : List Byte) :
    ∀ (fuel : Nat) (v : TxLoop), v.offset ≤ payload.length →
      payload.length + 2 - v.offset ≤ fuel →
      let pad := List.replicate (txPadding (payload.length + 2 - v.offset)) 0#8
      let crc := crcAdd v.crc pad
      ∃ ps, Pieces (payload.drop v.offset ++ pad ++ [crcHigh crc, crcLow crc]) ps ∧
        txFrames FD_MTU tid payload fuel v = txTailed tid v.startOfTransfer v.toggle ps := by
  have hmtu : FD_MTU = 63 := rfl
  intro fuel
  induction fuel with
  | zero => intro v ho hf; omega
  | succ fuel ih =>
    intro v ho hf pad crc
    have hlen : (payload.drop v.offset).length = payload.length - v.offset := List.length_drop
    rw [txFrames_step (by omega)]
    rcases Nat.lt_or_ge FD_MTU (payload.length + 2 - v.offset) with hmore | hlast
    · rcases Nat.lt_or_ge (FD_MTU + 1) (payload.length + 2 - v.offset) with hfull | hhigh
      · -- a full frame of payload, then the rest by induction
        rw [txNextFrame_full (by omega)]
        obtain ⟨ps, hps, hrest⟩ :=
          ih ⟨v.offset + FD_MTU, v.crc, false, !v.toggle⟩ (by dsimp only; omega) (by dsimp only; omega)
        have hpad : txPadding (payload.length + 2 - (v.offset + FD_MTU)) =
            txPadding (payload.length + 2 - v.offset) := by
          rw [← txPadding_sub (n := payload.length + 2 - v.offset) (by omega), Nat.sub_add_eq]
        dsimp only at hps hrest
        rw [hpad, ← List.drop_drop] at hps
        refine ⟨(payload.drop v.offset).take FD_MTU :: ps, ?_, ?_⟩
        · have hp := Pieces.full (p := (payload.drop v.offset).take FD_MTU)
            (by rw [List.length_take]; omega) hps
          rw [← List.append_assoc, ← List.append_assoc, List.take_append_drop] at hp
          exact hp
        · rw [hrest, txTailed_cons hps.ne_nil]
      · -- the CRC straddles two frames
        have hpad : txPadding (payload.length + 2 - v.offset) = 0 := by
          rw [show payload.length + 2 - v.offset = FD_MTU + 1 by omega]; rfl
        have hcrc : crc = v.crc := by simp [crc, pad, hpad]
        have hnil : pad = [] := by simp [pad, hpad]
        rw [txNextFrame_high ho (by omega)]
        dsimp only
        obtain ⟨fuel, rfl⟩ : ∃ f, fuel = f + 1 := ⟨fuel - 1, by omega⟩
        rw [txFrames_low rfl, hcrc, hnil]
        refine ⟨[payload.drop v.offset ++ [crcHigh v.crc], [crcLow v.crc]], ?_, by simp [txTailed]⟩
        have hp := Pieces.full (p := payload.drop v.offset ++ [crcHigh v.crc])
          (by rw [List.length_append, List.length_singleton]; omega)
          (Pieces.last (p := [crcLow v.crc]) (by simp) (by simp [FD_MTU]))
        simpa using hp
    · -- the rest fits into one frame, padded up to a valid length
      rw [txNextFrame_last ho hlast, txFrames_done (by simp)]
      refine ⟨[payload.drop v.offset ++ pad ++ [crcHigh crc, crcLow crc]], ?_, rfl⟩
      refine Pieces.last (by simp) ?_
      have hbound := txPadding_bound (r := payload.length + 2 - v.offset) (by omega) hlast
      simp only [pad, List.length_append, List.length_replicate, List.length_cons, List.length_nil]
      omega

/-- **A multi-frame transfer.** The payload, its padding and the CRC of both, in
pieces of the MTU; the start, the end and the toggle are in the tail bytes. -/
theorem txMultiFrame_spec (tid : Nat) (payload : List Byte) :
    let pad := List.replicate (txPadding (payload.length + 2)) 0#8
    let crc := crcAdd CRC_INITIAL (payload ++ pad)
    ∃ ps, Pieces (payload ++ pad ++ [crcHigh crc, crcLow crc]) ps ∧
      txMultiFrame FD_MTU tid payload = txTailed tid true true ps := by
  have h := txFrames_spec tid payload (payload.length + 2)
    { offset := 0, crc := crcAdd CRC_INITIAL payload, startOfTransfer := true, toggle := true }
    (Nat.zero_le _) (Nat.le_refl _)
  dsimp only at h ⊢
  rw [crcAdd_append]
  simp only [List.drop_zero, Nat.sub_zero] at h
  exact h

/-! ## How many frames a transfer takes -/

theorem length_txTailed (transferId : Nat) (sot toggle : Bool) (ps : List (List Byte)) :
    (txTailed transferId sot toggle ps).length = ps.length := by
  induction ps generalizing sot toggle with
  | nil => rfl
  | cons p ps ih =>
      cases ps with
      | nil => rfl
      | cons q ps =>
          rw [txTailed_cons (List.cons_ne_nil q ps), List.length_cons, ih]
          rfl

theorem Pieces.length_bounds {l : List Byte} {ps : List (List Byte)} (h : Pieces l ps) :
    l.length ≤ FD_MTU * ps.length ∧ FD_MTU * ps.length < l.length + FD_MTU := by
  induction h with
  | last hne hle =>
      have hpos := List.length_pos_iff.mpr hne
      rw [List.length_singleton, Nat.mul_one]
      exact ⟨hle, by omega⟩
  | full hfull _ ih =>
      rw [List.length_append, List.length_cons, Nat.mul_add_one, hfull]
      omega

/-- The padding does not fill a frame that the CRC has not begun. -/
theorem txPadding_le (n : Nat) : n + txPadding n ≤ FD_MTU * ((n + (FD_MTU - 1)) / FD_MTU) := by
  have hmod : txPadding n = txPadding (n % FD_MTU) := by
    unfold txPadding
    rw [Nat.mod_mod]
  have hmtu : FD_MTU = 63 := rfl
  rcases Nat.eq_zero_or_pos (n % FD_MTU) with hzero | hpos
  · have hnone : txPadding 0 = 0 := rfl
    rw [hmtu] at hzero
    rw [hmod, hmtu, hzero, hnone]
    omega
  · have hbound := txPadding_bound hpos (Nat.le_of_lt (Nat.mod_lt n (by decide)))
    rw [hmtu] at hbound hpos
    rw [hmod, hmtu]
    omega

/-- The frames of a payload of so many bytes: one, or as many as it takes to hold the CRC too. -/
def frameCount (n : Nat) : Nat :=
  if n ≤ FD_MTU then 1 else (n + CRC_SIZE_BYTES + (FD_MTU - 1)) / FD_MTU

theorem frameCount_mono {n m : Nat} (h : n ≤ m) : frameCount n ≤ frameCount m := by
  have hmtu : FD_MTU = 63 := rfl
  have hcrc : CRC_SIZE_BYTES = 2 := rfl
  unfold frameCount
  rw [hmtu, hcrc]
  split
  · split
    · exact Nat.le_refl 1
    · omega
  · split
    · omega
    · omega

theorem length_txTransferFrames (canId : Nat) (tr : CanardTransfer) :
    (txTransferFrames FD_MTU canId tr).length = frameCount tr.payload.length := by
  unfold txTransferFrames frameCount
  dsimp only
  rw [List.length_map]
  split
  · rfl
  · obtain ⟨ps, hps, hframes⟩ := txMultiFrame_spec tr.transferId tr.payload
    obtain ⟨hle, hlt⟩ := hps.length_bounds
    have hpadding := txPadding_le (tr.payload.length + 2)
    have hmtu : FD_MTU = 63 := rfl
    have hcrc : CRC_SIZE_BYTES = 2 := rfl
    rw [hframes, length_txTailed, hcrc]
    simp only [List.length_append, List.length_replicate, List.length_cons, List.length_nil] at hle hlt
    rw [hmtu] at hle hlt hpadding ⊢
    omega

/-! ## The queue is a stable priority queue -/

/-- Every frame of a transfer carries the identifier of the transfer. -/
theorem txTransferFrames_canId {mtu canId : Nat} {tr : CanardTransfer} :
    ∀ f ∈ txTransferFrames mtu canId tr, f.extendedCanId = canId := by
  intro f hf
  obtain ⟨p, _, rfl⟩ := List.mem_map.mp hf
  rfl

/-- **Linking frames into the queue** puts them behind everything that is not greater. -/
theorem txInsert_eq (queue : List CanardFrame) (canId : Nat) (frames : List CanardFrame) :
    txInsert queue canId frames =
      StableQueue.insertBlock CanardFrame.extendedCanId canId frames queue := by
  unfold txInsert txFindQueueSupremum StableQueue.insertBlock
  cases queue with
  | nil => simp
  | cons f q =>
      by_cases hf : canId < f.extendedCanId
      · have hle : ¬ f.extendedCanId ≤ canId := by omega
        simp [hf, hle]
      · have hle : f.extendedCanId ≤ canId := by omega
        have htake := List.takeWhile_append_dropWhile
          (p := fun g : CanardFrame => decide (g.extendedCanId ≤ canId)) (l := q)
        have h1 := congrArg (List.take (q.takeWhile
          (fun g => decide (g.extendedCanId ≤ canId))).length) htake
        have h2 := congrArg (List.drop (q.takeWhile
          (fun g => decide (g.extendedCanId ≤ canId))).length) htake
        rw [List.take_left] at h1
        rw [List.drop_left] at h2
        simp [hf, hle, ← h1, ← h2]

end Wlmio.Canard
