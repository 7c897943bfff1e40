import Wlmio.Canard.Assertions
import Wlmio.Canard.CanId

/-!
# The assertions of the transmission pipeline

The functions behind `canardTxPush`, each with the `CANARD_ASSERT`s of its body. They all
hold, for every transfer and every MTU that an application may set
(`canardTxPushAsserted_eq`): the loop fills each frame to the last byte, and what is longer
than a frame makes at least two.

Where memory runs out the source stops in the middle of the loop; the assertions of the
frames it does not get to are checked here as well.
-/

namespace Wlmio.Canard

/-! ## The functions -/

def txMakeMessageSessionSpecifierAsserted (subjectId srcNodeId : Nat) : Option Nat := do
  check (srcNodeId ≤ CANARD_NODE_ID_MAX)
  check (subjectId ≤ CANARD_SUBJECT_ID_MAX)
  pure (txMakeMessageSessionSpecifier subjectId srcNodeId)

def txMakeServiceSessionSpecifierAsserted (serviceId : Nat) (requestNotResponse : Bool)
    (srcNodeId dstNodeId : Nat) : Option Nat := do
  check (srcNodeId ≤ CANARD_NODE_ID_MAX)
  check (dstNodeId ≤ CANARD_NODE_ID_MAX)
  check (serviceId ≤ CANARD_SERVICE_ID_MAX)
  pure (txMakeServiceSessionSpecifier serviceId requestNotResponse srcNodeId dstNodeId)

/-- `out >= 0` is said of an `int32_t`. -/
def txMakeCANIDAsserted (tr : CanardTransfer) (localNodeId presentationLayerMtu : Nat) :
    Option (Option Nat) := do
  check (0 < presentationLayerMtu)
  let out : Option Nat ←
    if tr.transferKind = .message ∧ tr.remoteNodeId = CANARD_NODE_ID_UNSET ∧
        tr.portId ≤ CANARD_SUBJECT_ID_MAX then
      if localNodeId ≤ CANARD_NODE_ID_MAX then do
        let out ← txMakeMessageSessionSpecifierAsserted tr.portId localNodeId
        check (out < 2 ^ 31)
        pure (some out)
      else if tr.payload.length ≤ presentationLayerMtu then do
        let c := (crcAdd CRC_INITIAL tr.payload).toNat &&& CANARD_NODE_ID_MAX
        let out ← txMakeMessageSessionSpecifierAsserted tr.portId c
        let spec := out ||| (1 <<< 24)
        check (spec ≤ CAN_EXT_ID_MASK)
        pure (some spec)
      else pure none
    else if (tr.transferKind = .request ∨ tr.transferKind = .response) ∧
        tr.remoteNodeId ≤ CANARD_NODE_ID_MAX ∧ tr.portId ≤ CANARD_SERVICE_ID_MAX then
      if localNodeId ≤ CANARD_NODE_ID_MAX then do
        let out ← txMakeServiceSessionSpecifierAsserted tr.portId
          (decide (tr.transferKind = .request)) localNodeId tr.remoteNodeId
        check (out < 2 ^ 31)
        pure (some out)
      else pure none
    else pure none
  pure (match out with
    | some spec =>
      if tr.priority ≤ CANARD_PRIORITY_MAX then some (spec ||| (tr.priority <<< 26)) else none
    | none => none)

def txMakeTailByteAsserted (startOfTransfer endOfTransfer toggle : Bool) (transferId : Nat) :
    Option Byte := do
  check (startOfTransfer = true → toggle = true)
  pure (txMakeTailByte startOfTransfer endOfTransfer toggle transferId)

def txRoundFramePayloadSizeUpAsserted (x : Nat) : Option Nat := do
  check (x < CanardCANLengthToDLC.length)
  let y := CanardCANLengthToDLC.getD x 0
  check (y < CanardCANDLCToLength.length)
  pure (CanardCANDLCToLength.getD y 0)

/-- A queue item is not asked for without a payload. -/
def txSingleFrameAsserted (transferId : Nat) (payload : List Byte) : Option (List Byte) := do
  let framePayloadSize ← txRoundFramePayloadSizeUpAsserted (payload.length + 1)
  check (payload.length < framePayloadSize)
  let paddingSize := framePayloadSize - payload.length - 1
  check (paddingSize + payload.length + 1 = framePayloadSize)
  check (0 < framePayloadSize)
  let tail ← txMakeTailByteAsserted true true true transferId
  pure (payload ++ List.replicate paddingSize 0#8 ++ [tail])

/-- The size of the next frame with its tail, `remaining` bytes before the end. -/
def txFrameSizeAsserted (presentationLayerMtu remaining : Nat) : Option Nat :=
  if remaining < presentationLayerMtu then txRoundFramePayloadSizeUpAsserted (remaining + 1)
  else some (presentationLayerMtu + 1)

def txNextFrameAsserted (presentationLayerMtu transferId : Nat) (payload : List Byte) (v : TxLoop) :
    Option (List Byte × TxLoop) := do
  let payloadSizeWithCrc := payload.length + CRC_SIZE_BYTES
  let framePayloadSizeWithTail ← txFrameSizeAsserted presentationLayerMtu
    (payloadSizeWithCrc - v.offset)
  check (0 < framePayloadSizeWithTail)
  let framePayloadSize := framePayloadSizeWithTail - 1
  let frame := (payload.drop v.offset).take framePayloadSize
  let offset := v.offset + frame.length
  let (frame, offset, crc) :=
    if payload.length ≤ offset then
      txSealFrame framePayloadSize payload.length frame offset v.crc
    else (frame, offset, v.crc)
  check (frame.length + 1 = framePayloadSizeWithTail)
  let tail ← txMakeTailByteAsserted v.startOfTransfer (decide (payloadSizeWithCrc ≤ offset)) v.toggle
    transferId
  pure (frame ++ [tail],
    { offset := offset, crc := crc, startOfTransfer := false, toggle := !v.toggle })

def txFramesAsserted (presentationLayerMtu transferId : Nat) (payload : List Byte) :
    Nat → TxLoop → Option (List (List Byte))
  | 0, _ => some []
  | fuel + 1, v =>
    if v.offset < payload.length + CRC_SIZE_BYTES then do
      let (frame, v') ← txNextFrameAsserted presentationLayerMtu transferId payload v
      let frames ← txFramesAsserted presentationLayerMtu transferId payload fuel v'
      pure (frame :: frames)
    else some []

/-- There are at least two items in the list. -/
def txMultiFrameAsserted (presentationLayerMtu transferId : Nat) (payload : List Byte) :
    Option (List (List Byte)) := do
  check (0 < presentationLayerMtu)
  check (presentationLayerMtu < payload.length)
  let frames ← txFramesAsserted presentationLayerMtu transferId payload
    (payload.length + CRC_SIZE_BYTES)
    { offset := 0, crc := crcAdd CRC_INITIAL payload, startOfTransfer := true, toggle := true }
  check (2 ≤ frames.length)
  pure frames

def txFindQueueSupremumAsserted (queue : List CanardFrame) (canId : Nat) : Option (Option Nat) := do
  check (canId ≤ CAN_EXT_ID_MASK)
  let out := txFindQueueSupremum queue canId
  check (out.all (fun i => queue[i]?.any (fun f => decide (f.extendedCanId ≤ canId))))
  pure out

/-- What the frames of a transfer hold: one frame if it fits, several if not. -/
def txPayloadsAsserted (presentationLayerMtu : Nat) (transfer : CanardTransfer) :
    Option (List (List Byte)) :=
  if transfer.payload.length ≤ presentationLayerMtu then do
    let payload ← txSingleFrameAsserted transfer.transferId transfer.payload
    pure [payload]
  else txMultiFrameAsserted presentationLayerMtu transfer.transferId transfer.payload

def canardTxPushAsserted (ins : CanardInstance) (transfer : CanardTransfer) (room : Nat) :
    Option (CanardInstance × Int) := do
  let plMtu := txGetPresentationLayerMTU ins
  match ← txMakeCANIDAsserted transfer ins.nodeId plMtu with
  | none => pure (ins, -CANARD_ERROR_INVALID_ARGUMENT)
  | some canId =>
    let payloads ← txPayloadsAsserted plMtu transfer
    let frames := payloads.map fun p =>
      ({ timestampUsec := transfer.timestampUsec, extendedCanId := canId, payload := p } : CanardFrame)
    if frames.length ≤ room then
      let _ ← txFindQueueSupremumAsserted ins.txQueue canId
      pure ({ ins with txQueue := txInsert ins.txQueue canId frames }, frames.length)
    else pure (ins, -CANARD_ERROR_OUT_OF_MEMORY)

/-! ## Identifiers -/

theorem txMakeMessageSessionSpecifierAsserted_eq {port src : Nat} (hport : port ≤ CANARD_SUBJECT_ID_MAX)
    (hsrc : src ≤ CANARD_NODE_ID_MAX) : txMakeMessageSessionSpecifierAsserted port src =
      some (txMakeMessageSessionSpecifier port src) := by
  unfold txMakeMessageSessionSpecifierAsserted
  rw [check_pos hsrc, check_pos hport]
  rfl

theorem txMakeMessageSessionSpecifier_lt {port src : Nat} (anonymous : Bool)
    (hport : port ≤ CANARD_SUBJECT_ID_MAX) (hsrc : src ≤ CANARD_NODE_ID_MAX) :
    txMakeMessageSessionSpecifier port src ||| (if anonymous then 1 <<< 24 else 0) < 2 ^ 25 := by
  have hsum := txMessageCanId_eq 0 anonymous hport hsrc
  rw [Nat.zero_shiftLeft, Nat.or_zero] at hsum
  have hbound : (if anonymous then 1 else 0) ≤ 1 := by split <;> omega
  simp only [CANARD_SUBJECT_ID_MAX, CANARD_NODE_ID_MAX] at hport hsrc
  omega

theorem txMakeServiceSessionSpecifier_lt {svc src dst : Nat} {req : Bool}
    (hsvc : svc ≤ CANARD_SERVICE_ID_MAX) (hsrc : src ≤ CANARD_NODE_ID_MAX)
    (hdst : dst ≤ CANARD_NODE_ID_MAX) : txMakeServiceSessionSpecifier svc req src dst < 2 ^ 26 := by
  have hsum := @txServiceCanId_eq svc src dst 0 req hsvc hsrc hdst
  rw [Nat.zero_shiftLeft, Nat.or_zero] at hsum
  have hbound : (if req then 1 else 0) ≤ 1 := by split <;> omega
  simp only [CANARD_SERVICE_ID_MAX, CANARD_NODE_ID_MAX] at hsvc hsrc hdst
  omega

theorem txMakeCANIDAsserted_eq (tr : CanardTransfer) (localNodeId : Nat) {mtu : Nat} (hmtu : 0 < mtu) :
    txMakeCANIDAsserted tr localNodeId mtu = some (txMakeCANID tr localNodeId mtu) := by
  have hmask : CAN_EXT_ID_MASK = 2 ^ 29 - 1 := rfl
  unfold txMakeCANIDAsserted txMakeCANID
  rw [check_pos hmtu]
  by_cases hmsg : tr.transferKind = .message ∧ tr.remoteNodeId = CANARD_NODE_ID_UNSET ∧
      tr.portId ≤ CANARD_SUBJECT_ID_MAX
  · rw [if_pos hmsg, if_pos hmsg]
    by_cases hlocal : localNodeId ≤ CANARD_NODE_ID_MAX
    · have hlt := txMakeMessageSessionSpecifier_lt false hmsg.2.2 hlocal
      rw [if_neg Bool.false_ne_true, Nat.or_zero] at hlt
      rw [if_pos hlocal, if_pos hlocal, txMakeMessageSessionSpecifierAsserted_eq hmsg.2.2 hlocal]
      simp only [Option.bind_eq_bind, Option.bind_some]
      rw [check_pos (by omega)]
      rfl
    · rw [if_neg hlocal, if_neg hlocal]
      by_cases hlen : tr.payload.length ≤ mtu
      · have hand : (crcAdd CRC_INITIAL tr.payload).toNat &&& CANARD_NODE_ID_MAX ≤
            CANARD_NODE_ID_MAX := Nat.and_le_right
        have hlt := txMakeMessageSessionSpecifier_lt true hmsg.2.2 hand
        rw [if_pos rfl] at hlt
        rw [if_pos hlen, if_pos hlen]
        dsimp only
        rw [txMakeMessageSessionSpecifierAsserted_eq hmsg.2.2 hand]
        simp only [Option.bind_eq_bind, Option.bind_some]
        rw [check_pos (by omega)]
        rfl
      · rw [if_neg hlen, if_neg hlen]
        rfl
  · rw [if_neg hmsg, if_neg hmsg]
    by_cases hservice : (tr.transferKind = .request ∨ tr.transferKind = .response) ∧
        tr.remoteNodeId ≤ CANARD_NODE_ID_MAX ∧ tr.portId ≤ CANARD_SERVICE_ID_MAX
    · rw [if_pos hservice, if_pos hservice]
      by_cases hlocal : localNodeId ≤ CANARD_NODE_ID_MAX
      · have hlt := @txMakeServiceSessionSpecifier_lt _ _ _ (decide (tr.transferKind = .request))
          hservice.2.2 hlocal hservice.2.1
        rw [if_pos hlocal, if_pos hlocal]
        unfold txMakeServiceSessionSpecifierAsserted
        rw [check_pos hlocal, check_pos hservice.2.1, check_pos hservice.2.2]
        simp only [Option.pure_def, Option.bind_eq_bind, Option.bind_some]
        rw [check_pos (by omega)]
        rfl
      · rw [if_neg hlocal, if_neg hlocal]
        rfl
    · rw [if_neg hservice, if_neg hservice]
      rfl

/-! ## Frames -/

/-- The MTU is that of some frame length. -/
theorem txGetPresentationLayerMTU_bounds (ins : CanardInstance) :
    0 < txGetPresentationLayerMTU ins ∧ txGetPresentationLayerMTU ins ≤ 63 := by
  have htable : ∀ n, n ≤ 64 → 8 ≤ n →
      0 < CanardCANDLCToLength.getD (CanardCANLengthToDLC.getD n 0) 0 - 1 ∧
        CanardCANDLCToLength.getD (CanardCANLengthToDLC.getD n 0) 0 - 1 ≤ 63 := by decide
  have hclassic : CANARD_MTU_CAN_CLASSIC = 8 := rfl
  have hmax : CanardCANLengthToDLC.length - 1 = 64 := rfl
  unfold txGetPresentationLayerMTU
  dsimp only
  rw [hmax]
  split
  · decide
  · split
    · exact htable _ (by omega) (by omega)
    · decide

/-- A length is rounded up to one that is not shorter. -/
theorem txRoundFramePayloadSizeUpAsserted_eq {x : Nat} (hx : x ≤ 64) :
    txRoundFramePayloadSizeUpAsserted x = some (txRoundFramePayloadSizeUp x) ∧
      x ≤ txRoundFramePayloadSizeUp x := by
  have htable : ∀ x, x ≤ 64 → x < CanardCANLengthToDLC.length ∧
      CanardCANLengthToDLC.getD x 0 < CanardCANDLCToLength.length ∧
      x ≤ txRoundFramePayloadSizeUp x := by decide
  obtain ⟨hlen, hdlc, hle⟩ := htable x hx
  unfold txRoundFramePayloadSizeUpAsserted
  rw [check_pos hlen]
  simp only [Option.bind_eq_bind, Option.bind_some]
  rw [check_pos hdlc]
  exact ⟨rfl, hle⟩

theorem txMakeTailByteAsserted_eq {sot toggle : Bool} (h : sot = true → toggle = true) (eot : Bool)
    (tid : Nat) :
    txMakeTailByteAsserted sot eot toggle tid = some (txMakeTailByte sot eot toggle tid) := by
  unfold txMakeTailByteAsserted
  rw [check_pos h]
  rfl

theorem txSingleFrameAsserted_eq (tid : Nat) {payload : List Byte} (h : payload.length ≤ 63) :
    txSingleFrameAsserted tid payload = some (txSingleFrame tid payload) := by
  obtain ⟨hround, hle⟩ := @txRoundFramePayloadSizeUpAsserted_eq (payload.length + 1) (by omega)
  unfold txSingleFrameAsserted
  rw [hround]
  simp only [Option.bind_eq_bind, Option.bind_some]
  rw [check_pos (by omega), check_pos (by omega), check_pos (by omega),
    txMakeTailByteAsserted_eq (fun _ => rfl)]
  rfl

/-- **The last frame is filled**, with padding and with what it holds of the CRC. -/
theorem txSealFrame_length {size n offset : Nat} {frame : List Byte} (crc : TransferCRC)
    (hlast : (offset = n ∧ frame.length ≤ size) ∨ (offset = n + 1 ∧ frame = [] ∧ size = 1)) :
    (txSealFrame size n frame offset crc).1.length = size := by
  rcases hlast with ⟨rfl, hle⟩ | ⟨rfl, rfl, rfl⟩
  · by_cases hboth : frame.length + 2 ≤ size
    · rw [txSealFrame_both size offset frame crc hboth]
      simp only [List.length_append, List.length_replicate, List.length_cons, List.length_nil]
      omega
    · by_cases hhigh : frame.length + 1 = size
      · rw [txSealFrame_high hhigh, List.length_append]
        exact hhigh
      · have hfull : frame.length = size := by omega
        rw [txSealFrame_none hfull]
        exact hfull
  · rw [txSealFrame_low]
    rfl

theorem txFramePayloadSize_one {mtu : Nat} (hpos : 0 < mtu) : txFramePayloadSize mtu 1 = 1 := by
  unfold txFramePayloadSize
  by_cases hm : 1 < mtu
  · rw [if_pos hm]
    rfl
  · rw [if_neg hm]
    show mtu + 1 - 1 = 1
    omega

/-- A frame is as long as it is to be: what is left over is for the seal. -/
theorem txNextFrame_filled {size : Nat} (hpos : 0 < size) {payload : List Byte} {v : TxLoop}
    (hoffset : v.offset < payload.length + CRC_SIZE_BYTES)
    (hone : v.offset = payload.length + 1 → size - 1 = 1) :
    (if payload.length ≤ v.offset + ((payload.drop v.offset).take (size - 1)).length then
        txSealFrame (size - 1) payload.length ((payload.drop v.offset).take (size - 1))
          (v.offset + ((payload.drop v.offset).take (size - 1)).length) v.crc
      else ((payload.drop v.offset).take (size - 1),
        v.offset + ((payload.drop v.offset).take (size - 1)).length, v.crc)).1.length + 1 = size := by
  have hcrc : CRC_SIZE_BYTES = 2 := rfl
  have hlen : ((payload.drop v.offset).take (size - 1)).length =
      min (size - 1) (payload.length - v.offset) := by
    rw [List.length_take, List.length_drop]
  by_cases hend : payload.length ≤ v.offset + ((payload.drop v.offset).take (size - 1)).length
  · rw [if_pos hend, txSealFrame_length v.crc]
    · omega
    · by_cases hin : v.offset ≤ payload.length
      · exact .inl ⟨by omega, by omega⟩
      · have heq : v.offset = payload.length + 1 := by omega
        refine .inr ⟨by omega, ?_, hone heq⟩
        rw [List.drop_of_length_le (by omega), List.take_nil]
  · rw [if_neg hend]
    dsimp only
    omega

/-- **One iteration of the loop** passes its assertions. -/
theorem txNextFrameAsserted_eq {mtu : Nat} (hpos : 0 < mtu) (hmtu : mtu ≤ 63) (tid : Nat)
    {payload : List Byte} {v : TxLoop} (hoffset : v.offset < payload.length + CRC_SIZE_BYTES)
    (htoggle : v.startOfTransfer = true → v.toggle = true) :
    txNextFrameAsserted mtu tid payload v = some (txNextFrame mtu tid payload v) := by
  have hcrc : CRC_SIZE_BYTES = 2 := rfl
  -- the size of the frame
  obtain ⟨size, hsize, hpos', hshort⟩ : ∃ size,
      txFrameSizeAsserted mtu (payload.length + CRC_SIZE_BYTES - v.offset) = some size ∧ 0 < size ∧
      txFramePayloadSize mtu (payload.length + CRC_SIZE_BYTES - v.offset) = size - 1 := by
    unfold txFrameSizeAsserted txFramePayloadSize
    by_cases hr : payload.length + CRC_SIZE_BYTES - v.offset < mtu
    · obtain ⟨hround, hle⟩ := @txRoundFramePayloadSizeUpAsserted_eq
        (payload.length + CRC_SIZE_BYTES - v.offset + 1) (by omega)
      rw [if_pos hr, if_pos hr]
      exact ⟨_, hround, by omega, rfl⟩
    · rw [if_neg hr, if_neg hr]
      exact ⟨_, rfl, by omega, rfl⟩
  have hone : v.offset = payload.length + 1 → size - 1 = 1 := by
    intro heq
    have hr : payload.length + CRC_SIZE_BYTES - v.offset = 1 := by omega
    rw [hr, txFramePayloadSize_one hpos] at hshort
    exact hshort.symm
  unfold txNextFrameAsserted txNextFrame
  dsimp only
  rw [hshort]
  simp only [hsize, Option.bind_eq_bind, Option.bind_some]
  rw [check_pos hpos', Option.bind_some, check_pos (txNextFrame_filled hpos' hoffset hone),
    Option.bind_some, txMakeTailByteAsserted_eq htoggle]
  rfl

theorem txFramesAsserted_eq {mtu : Nat} (hpos : 0 < mtu) (hmtu : mtu ≤ 63) (tid : Nat)
    (payload : List Byte) : ∀ (fuel : Nat) (v : TxLoop),
      (v.startOfTransfer = true → v.toggle = true) →
      txFramesAsserted mtu tid payload fuel v = some (txFrames mtu tid payload fuel v) := by
  intro fuel
  induction fuel with
  | zero => exact fun v _ => rfl
  | succ fuel ih =>
      intro v htoggle
      unfold txFramesAsserted txFrames
      by_cases hoffset : v.offset < payload.length + CRC_SIZE_BYTES
      · rw [if_pos hoffset, if_pos hoffset, txNextFrameAsserted_eq hpos hmtu tid hoffset htoggle]
        have hnext : (txNextFrame mtu tid payload v).2.startOfTransfer = false := rfl
        simp only [Option.bind_eq_bind, Option.bind_some]
        rw [ih _ (fun h => by rw [hnext] at h; cases h)]
        rfl
      · rw [if_neg hoffset, if_neg hoffset]

/-- **A transfer that does not fit a frame makes at least two.** -/
theorem txMultiFrameAsserted_eq {mtu : Nat} (hpos : 0 < mtu) (hmtu : mtu ≤ 63) (tid : Nat)
    {payload : List Byte} (hlen : mtu < payload.length) :
    txMultiFrameAsserted mtu tid payload = some (txMultiFrame mtu tid payload) := by
  have hcrc : CRC_SIZE_BYTES = 2 := rfl
  have htwo : 2 ≤ (txMultiFrame mtu tid payload).length := by
    unfold txMultiFrame
    generalize hv : (TxLoop.mk 0 (crcAdd CRC_INITIAL payload) true true) = v
    have hzero : v.offset = 0 := by rw [← hv]
    -- the first frame holds nothing but payload, and not all of it
    have hsize : txFramePayloadSize mtu (payload.length + CRC_SIZE_BYTES - v.offset) = mtu := by
      unfold txFramePayloadSize
      rw [if_neg (by omega)]
      rfl
    have hfirst : (txNextFrame mtu tid payload v).2.offset = mtu := by
      have htake : ((payload.drop v.offset).take mtu).length = mtu := by
        rw [List.length_take, List.length_drop]
        omega
      unfold txNextFrame
      simp only [hsize, htake]
      rw [if_neg (by omega), hzero, Nat.zero_add]
    obtain ⟨fuel, hfuel⟩ : ∃ fuel, payload.length + CRC_SIZE_BYTES = fuel + 2 := ⟨payload.length, rfl⟩
    rw [hfuel, txFrames_step (by omega), txFrames_step (by rw [hfirst]; omega)]
    exact Nat.le_add_left 2 _
  unfold txMultiFrameAsserted
  rw [check_pos hpos, check_pos hlen, txFramesAsserted_eq hpos hmtu tid payload _ _ (fun _ => rfl)]
  simp only [Option.bind_eq_bind, Option.bind_some]
  rw [check_pos (show 2 ≤ (txFrames mtu tid payload _ _).length from htwo)]
  rfl

/-! ## The queue -/

/-- What is found is not of lower priority. -/
theorem txFindQueueSupremumAsserted_eq (queue : List CanardFrame) {canId : Nat}
    (h : canId ≤ CAN_EXT_ID_MASK) :
    txFindQueueSupremumAsserted queue canId = some (txFindQueueSupremum queue canId) := by
  have hfound : (txFindQueueSupremum queue canId).all
      (fun i => queue[i]?.any (fun f => decide (f.extendedCanId ≤ canId))) = true := by
    unfold txFindQueueSupremum
    cases queue with
    | nil => rfl
    | cons f q =>
        dsimp only
        split
        · rfl
        · rename_i hf
          -- the element behind the others that are not greater
          have hall : ∀ g ∈ f :: q.takeWhile (fun g => decide (g.extendedCanId ≤ canId)),
              g.extendedCanId ≤ canId := by
            intro g hg
            rcases List.mem_cons.mp hg with rfl | hg
            · omega
            · simpa using List.mem_takeWhile_imp hg
          have hsplit : f :: q = (f :: q.takeWhile (fun g => decide (g.extendedCanId ≤ canId))) ++
              q.dropWhile (fun g => decide (g.extendedCanId ≤ canId)) := by
            rw [List.cons_append, List.takeWhile_append_dropWhile]
          have hlt : (q.takeWhile (fun g => decide (g.extendedCanId ≤ canId))).length <
              (f :: q.takeWhile (fun g => decide (g.extendedCanId ≤ canId))).length :=
            Nat.lt_succ_self _
          rw [Option.all_some, hsplit, List.getElem?_append_left hlt, List.getElem?_eq_getElem hlt,
            Option.any_some, decide_eq_true_eq]
          exact hall _ (List.getElem_mem hlt)
  unfold txFindQueueSupremumAsserted
  rw [check_pos h]
  simp only [Option.bind_eq_bind, Option.bind_some]
  rw [check_pos hfound]
  rfl

/-- **`canardTxPush` passes its assertions**, whatever is pushed. -/
theorem canardTxPushAsserted_eq (ins : CanardInstance) (transfer : CanardTransfer) (room : Nat) :
    canardTxPushAsserted ins transfer room = some (canardTxPush ins transfer room) := by
  obtain ⟨hpos, hmtu⟩ := txGetPresentationLayerMTU_bounds ins
  unfold canardTxPushAsserted canardTxPush
  dsimp only
  rw [txMakeCANIDAsserted_eq transfer ins.nodeId hpos]
  simp only [Option.bind_eq_bind, Option.bind_some]
  cases hid : txMakeCANID transfer ins.nodeId (txGetPresentationLayerMTU ins) with
  | none => rfl
  | some canId =>
      have hmask := (txMakeCANID_parse hid).1
      have hpayloads : txPayloadsAsserted (txGetPresentationLayerMTU ins) transfer =
          some (if transfer.payload.length ≤ txGetPresentationLayerMTU ins then
              [txSingleFrame transfer.transferId transfer.payload]
            else txMultiFrame (txGetPresentationLayerMTU ins) transfer.transferId
              transfer.payload) := by
        unfold txPayloadsAsserted
        by_cases hlen : transfer.payload.length ≤ txGetPresentationLayerMTU ins
        · rw [if_pos hlen, if_pos hlen, txSingleFrameAsserted_eq _ (by omega)]
          rfl
        · rw [if_neg hlen, if_neg hlen, txMultiFrameAsserted_eq hpos hmtu _ (by omega)]
      dsimp only
      rw [hpayloads, Option.bind_some, txFindQueueSupremumAsserted_eq ins.txQueue hmask]
      unfold txTransferFrames
      dsimp only
      split
      · split
        · rfl
        · rfl
      · split
        · rfl
        · rfl

end Wlmio.Canard
