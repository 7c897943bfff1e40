import Wlmio.Canard.Api
import Wlmio.Canard.Ownership

/-!
# The assertions of the reception pipeline

The functions once more, each with the `CANARD_ASSERT`s of its body at their places: a
result of `none` is an assertion that fails. A session that stands for an assembly
(`Intact`) passes them all, whatever frame it gets and whatever memory there is, and is
such a session again (`Intact.update`).

The one that takes an argument is the assertion before the CRC is cut off. The CRC of less
than two bytes is not the residue, so there are two bytes to cut.
-/

namespace Wlmio.Canard

/-- `CANARD_ASSERT`. -/
def check (p : Prop) [Decidable p] : Option Unit := if p then some () else none

theorem check_pos {p : Prop} [Decidable p] (h : p) : check p = some () := if_pos h

/-! ## The functions -/

def rxComputeTransferIDDifferenceAsserted (a b : Nat) : Option Nat := do
  check (a ≤ CANARD_TRANSFER_ID_MAX)
  check (b ≤ CANARD_TRANSFER_ID_MAX)
  pure (rxComputeTransferIDDifference a b)

def rxSessionCopyAsserted (rxs : CanardInternalRxSession) (extent : Nat) (payload : List Byte) :
    Option CanardInternalRxSession := do
  if extent < rxs.received.length + payload.length then
    check (rxs.received.length ≤ extent)
    let bytesToCopy := extent - rxs.received.length
    check (rxs.received.length + bytesToCopy = extent)
    check (bytesToCopy < payload.length)
  let rxs := rxSessionCopy rxs extent payload
  check (rxs.received.length ≤ extent)
  pure rxs

/-- The session with the size of what comes in added, and a buffer if it has to have one. -/
def rxSessionAllocated (mem : Memory) (rxs : CanardInternalRxSession) (extent : Nat)
    (payload : List Byte) : Memory × CanardInternalRxSession :=
  let rxs := { rxs with totalPayloadSize := rxs.totalPayloadSize + payload.length }
  if rxs.payload = none ∧ 0 < extent then (mem.allocate.1, { rxs with payload := mem.allocate.2 })
  else (mem, rxs)

def rxSessionWritePayloadAsserted (mem : Memory) (rxs : CanardInternalRxSession) (extent : Nat)
    (payload : List Byte) : Option (Memory × CanardInternalRxSession × Int) := do
  check (rxs.received.length ≤ extent)
  check (rxs.received.length ≤ rxs.totalPayloadSize)
  check (rxs.payload = none ∧ 0 < extent → rxs.received.length = 0)
  let (mem, rxs) := rxSessionAllocated mem rxs extent payload
  if rxs.payload ≠ none then
    let rxs ← rxSessionCopyAsserted rxs extent payload
    pure (mem, rxs, 0)
  else
    check (rxs.received.length = 0)
    let out := if 0 < extent then -CANARD_ERROR_OUT_OF_MEMORY else 0
    check (out ≤ 0)
    pure (mem, rxs, out)

def rxSessionTransferAsserted (rxs : CanardInternalRxSession) (frame : RxFrameModel)
    (singleFrame : Bool) : Option RxTransfer := do
  check (rxs.received.length ≤ rxs.totalPayloadSize)
  let truncatedAmount := rxs.totalPayloadSize - rxs.received.length
  if !singleFrame && decide (truncatedAmount < CRC_SIZE_BYTES) then
    check (CRC_SIZE_BYTES - truncatedAmount ≤ rxs.received.length)
  pure (rxSessionTransfer rxs frame singleFrame)

def rxSessionAcceptFrameAsserted (mem : Memory) (rxs : CanardInternalRxSession)
    (frame : RxFrameModel) (extent : Nat) :
    Option (Memory × CanardInternalRxSession × Int × Option RxTransfer) := do
  check (frame.transferId ≤ CANARD_TRANSFER_ID_MAX)
  let singleFrame := frame.startOfTransfer && frame.endOfTransfer
  let rxs := rxSessionNote rxs frame
  let (mem, rxs, out) ← rxSessionWritePayloadAsserted mem rxs extent frame.payload
  if out < 0 then
    check (out = -CANARD_ERROR_OUT_OF_MEMORY)
    let (mem, rxs) := rxSessionRestart mem rxs
    pure (mem, rxs, out, none)
  else if frame.endOfTransfer then
    check (out = 0)
    if singleFrame || decide (rxs.calculatedCrc = CRC_RESIDUE) then
      let transfer ← rxSessionTransferAsserted rxs frame singleFrame
      let (mem, rxs) := rxSessionRestart mem { rxs with payload := none }
      pure (mem, rxs, 1, some transfer)
    else
      let (mem, rxs) := rxSessionRestart mem rxs
      pure (mem, rxs, out, none)
  else pure (mem, { rxs with toggle := !rxs.toggle }, out, none)

/-- `rxSessionTake` with the assertions behind it. -/
def rxSessionTakeAsserted (mem : Memory) (rxs : CanardInternalRxSession) (frame : RxFrameModel)
    (redundantTransportIndex extent : Nat) :
    Option (Memory × CanardInternalRxSession × Int × Option RxTransfer) :=
  if rxs.redundantTransportIndex = redundantTransportIndex ∧ frame.toggle = rxs.toggle ∧
      frame.transferId = rxs.transferId then
    rxSessionAcceptFrameAsserted mem rxs frame extent
  else some (mem, rxs, 0, none)

def rxSessionUpdateAsserted (mem : Memory) (rxs : CanardInternalRxSession) (frame : RxFrameModel)
    (redundantTransportIndex transferIdTimeoutUsec extent : Nat) :
    Option (Memory × CanardInternalRxSession × Int × Option RxTransfer) := do
  check (rxs.transferId ≤ CANARD_TRANSFER_ID_MAX)
  check (frame.transferId ≤ CANARD_TRANSFER_ID_MAX)
  -- the difference is what `rxNeedRestart` compares
  let _ ← rxComputeTransferIDDifferenceAsserted rxs.transferId frame.transferId
  if rxNeedRestart rxs frame redundantTransportIndex transferIdTimeoutUsec then
    let rxs := rxSessionSynchronised rxs frame redundantTransportIndex
    if frame.startOfTransfer then rxSessionTakeAsserted mem rxs frame redundantTransportIndex extent
    else
      let (mem, rxs) := rxSessionRestart mem rxs
      pure (mem, rxs, 0, none)
  else rxSessionTakeAsserted mem rxs frame redundantTransportIndex extent

def rxAcceptFrameAsserted (nodeId : Nat) (mem : Memory) (sub : CanardRxSubscription)
    (frame : RxFrameModel) (redundantTransportIndex : Nat) :
    Option (Memory × CanardRxSubscription × Int × Option RxTransfer) := do
  check (sub.portId = frame.portId)
  check (frame.transferId ≤ CANARD_TRANSFER_ID_MAX)
  check (CANARD_NODE_ID_UNSET = frame.destinationNodeId ∨ nodeId = frame.destinationNodeId)
  if frame.sourceNodeId ≤ CANARD_NODE_ID_MAX then
    let (mem, session, out) : Memory × Option CanardInternalRxSession × Int :=
      match sub.sessions frame.sourceNodeId with
      | some rxs => (mem, some rxs, 0)
      | none =>
        if frame.startOfTransfer then
          let (mem, granted) := mem.allocateSession
          if granted then (mem, some (rxSessionInit frame redundantTransportIndex), 0)
          else (mem, none, -CANARD_ERROR_OUT_OF_MEMORY)
        else (mem, none, 0)
    match session with
    | none => pure (mem, sub, out, none)
    | some rxs =>
      check (out = 0)
      let (mem, rxs, out, transfer) ← rxSessionUpdateAsserted mem rxs frame redundantTransportIndex
        sub.transferIdTimeoutUsec sub.extent
      pure (mem, sub.setSession frame.sourceNodeId rxs, out, transfer)
  else
    check (frame.sourceNodeId = CANARD_NODE_ID_UNSET)
    pure (rxAcceptFrame mem sub frame redundantTransportIndex)

def rxDispatchAsserted (nodeId : Nat) (mem : Memory) (frame : RxFrameModel)
    (redundantTransportIndex : Nat) : List CanardRxSubscription →
      Option (Memory × List CanardRxSubscription × Int × Option RxTransfer)
  | [] => some (mem, [], 0, none)
  | sub :: subs =>
    if sub.portId = frame.portId then do
      check (sub.portId = frame.portId)
      let (mem, sub, out, transfer) ← rxAcceptFrameAsserted nodeId mem sub frame
        redundantTransportIndex
      pure (mem, sub :: subs, out, transfer)
    else do
      let (mem, subs, out, transfer) ← rxDispatchAsserted nodeId mem frame redundantTransportIndex subs
      pure (mem, sub :: subs, out, transfer)

def canardRxAcceptAsserted (ins : CanardInstance) (frame : CanardFrame)
    (redundantTransportIndex : Nat) : Option (CanardInstance × Int × Option RxTransfer) := do
  let (ins, out, transfer) ←
    if frame.extendedCanId ≤ CAN_EXT_ID_MASK then
      match rxTryParseFrame frame with
      | none => pure (ins, 0, none)
      | some model =>
        if model.destinationNodeId = CANARD_NODE_ID_UNSET ∨ model.destinationNodeId = ins.nodeId then do
          let (mem, subs, out, transfer) ← rxDispatchAsserted ins.nodeId ins.memory model
            redundantTransportIndex (ins.rxSubscriptions model.transferKind)
          pure ({ ins with
              memory := mem
              rxSubscriptions := fun k =>
                if k = model.transferKind then subs else ins.rxSubscriptions k },
            out, transfer)
        else pure (ins, 0, none)
    else pure (ins, -CANARD_ERROR_INVALID_ARGUMENT, none)
  check (out ≤ 1)
  pure (ins, out, transfer)

/-! ## Sessions -/

/-- The session stands for an assembly, and has no payload without a buffer. -/
structure Intact (rxs : CanardInternalRxSession) (extent : Nat) : Prop where
  stands : ∃ a, StandsFor rxs a extent
  tid : rxs.transferId ≤ CANARD_TRANSFER_ID_MAX
  empty : rxs.payload = none → rxs.received = []

theorem Intact.sizes {rxs : CanardInternalRxSession} {extent : Nat} (h : Intact rxs extent) :
    rxs.received.length ≤ extent ∧ rxs.received.length ≤ rxs.totalPayloadSize := by
  obtain ⟨a, hs⟩ := h.stands
  rw [hs.received, hs.total]
  exact ⟨List.length_take_le _ _, List.length_take_le' _ _⟩

theorem intact_init (frame : RxFrameModel) (htid : frame.transferId ≤ CANARD_TRANSFER_ID_MAX)
    (index extent : Nat) : Intact (rxSessionInit frame index) extent :=
  ⟨⟨_, standsFor_init frame index extent⟩, htid, fun _ => rfl⟩

theorem rxSessionCopyAsserted_eq {rxs : CanardInternalRxSession} {extent : Nat}
    (h : rxs.received.length ≤ extent) (payload : List Byte) :
    rxSessionCopyAsserted rxs extent payload = some (rxSessionCopy rxs extent payload) := by
  have hafter : (rxSessionCopy rxs extent payload).received.length ≤ extent := by
    unfold rxSessionCopy
    dsimp only
    rw [List.length_append, List.length_take]
    split <;> omega
  unfold rxSessionCopyAsserted
  by_cases hlong : extent < rxs.received.length + payload.length
  · simp only [if_pos hlong, check_pos h,
      check_pos (show rxs.received.length + (extent - rxs.received.length) = extent by omega),
      check_pos (show extent - rxs.received.length < payload.length by omega), check_pos hafter]
    rfl
  · simp only [if_neg hlong, check_pos hafter]
    rfl

theorem rxSessionWritePayload_allocated (mem : Memory) (rxs : CanardInternalRxSession) (extent : Nat)
    (payload : List Byte) : rxSessionWritePayload mem rxs extent payload =
      if (rxSessionAllocated mem rxs extent payload).2.payload ≠ none then
        ((rxSessionAllocated mem rxs extent payload).1,
          rxSessionCopy (rxSessionAllocated mem rxs extent payload).2 extent payload, 0)
      else ((rxSessionAllocated mem rxs extent payload).1,
        (rxSessionAllocated mem rxs extent payload).2,
        if 0 < extent then -CANARD_ERROR_OUT_OF_MEMORY else 0) := rfl

theorem rxSessionAllocated_received (mem : Memory) (rxs : CanardInternalRxSession) (extent : Nat)
    (payload : List Byte) : (rxSessionAllocated mem rxs extent payload).2.received = rxs.received ∧
      ((rxSessionAllocated mem rxs extent payload).2.payload = none → rxs.payload = none) := by
  unfold rxSessionAllocated
  dsimp only
  split
  · rename_i hnone
    exact ⟨rfl, fun _ => hnone.1⟩
  · exact ⟨rfl, fun h => h⟩

theorem rxSessionWritePayloadAsserted_eq {rxs : CanardInternalRxSession} {extent : Nat}
    (h : rxs.received.length ≤ extent) (htotal : rxs.received.length ≤ rxs.totalPayloadSize)
    (hempty : rxs.payload = none → rxs.received = []) (mem : Memory) (payload : List Byte) :
    rxSessionWritePayloadAsserted mem rxs extent payload =
      some (rxSessionWritePayload mem rxs extent payload) := by
  have hzero : rxs.payload = none → rxs.received.length = 0 := by
    intro hnone
    rw [hempty hnone]
    rfl
  obtain ⟨hreceived, hnone⟩ := rxSessionAllocated_received mem rxs extent payload
  rw [rxSessionWritePayload_allocated]
  unfold rxSessionWritePayloadAsserted
  rw [check_pos h, check_pos htotal, check_pos (fun hc => hzero hc.1)]
  generalize rxSessionAllocated mem rxs extent payload = r at hreceived hnone ⊢
  obtain ⟨mem', rxs'⟩ := r
  dsimp only [Option.bind_eq_bind, Option.bind_some] at hreceived hnone ⊢
  by_cases hp : rxs'.payload ≠ none
  · rw [if_pos hp, if_pos hp, rxSessionCopyAsserted_eq (by rw [hreceived]; exact h)]
    rfl
  · have hout : (if 0 < extent then -CANARD_ERROR_OUT_OF_MEMORY else 0) ≤ (0 : Int) := by
      split <;> decide
    rw [if_neg hp, if_neg hp, hreceived, check_pos (hzero (hnone (not_not.mp hp))), check_pos hout]
    rfl

/-- The CRC of less than two bytes is not the residue. -/
theorem residue_length {data : List Byte} (h : crcAdd CRC_INITIAL data = CRC_RESIDUE) :
    2 ≤ data.length := by
  have hone : ∀ b : Byte, crcAdd CRC_INITIAL [b] ≠ CRC_RESIDUE := by decide +kernel
  match data with
  | [] => exact absurd h (by decide)
  | [b] => exact absurd h (hone b)
  | _ :: _ :: rest => exact Nat.le_add_left 2 rest.length

theorem rxSessionTransferAsserted_eq {rxs : CanardInternalRxSession}
    (h : rxs.received.length ≤ rxs.totalPayloadSize) (frame : RxFrameModel) {singleFrame : Bool}
    (hcrc : singleFrame = false → 2 ≤ rxs.totalPayloadSize) :
    rxSessionTransferAsserted rxs frame singleFrame =
      some (rxSessionTransfer rxs frame singleFrame) := by
  unfold rxSessionTransferAsserted
  have hcut : (!singleFrame && decide (rxs.totalPayloadSize - rxs.received.length < CRC_SIZE_BYTES)) =
      true → CRC_SIZE_BYTES - (rxs.totalPayloadSize - rxs.received.length) ≤ rxs.received.length := by
    intro hc
    have hsingle : singleFrame = false := by
      cases singleFrame with
      | false => rfl
      | true => cases hc
    have htwo := hcrc hsingle
    have hsize : CRC_SIZE_BYTES = 2 := rfl
    omega
  by_cases hc : (!singleFrame &&
      decide (rxs.totalPayloadSize - rxs.received.length < CRC_SIZE_BYTES)) = true
  · simp only [check_pos h, if_pos hc, check_pos (hcut hc)]
    rfl
  · simp only [check_pos h, if_neg hc]
    rfl

/-- **A frame that fits** passes the assertions. -/
theorem Intact.accept {rxs : CanardInternalRxSession} {extent : Nat} (h : Intact rxs extent)
    (mem : Memory) {frame : RxFrameModel} (htid : frame.transferId ≤ CANARD_TRANSFER_ID_MAX) :
    rxSessionAcceptFrameAsserted mem rxs frame extent =
      some (rxSessionAcceptFrame mem rxs frame extent) := by
  obtain ⟨a, hs⟩ := h.stands
  have hnote := hs.toHolds.note frame
  have hpayload := rxSessionNote_payload rxs frame
  obtain ⟨hextent, htotal⟩ := h.sizes
  have hreceived : (rxSessionNote rxs frame).received = rxs.received := by
    rw [hnote.received, hs.received]
  have hwrite := @rxSessionWritePayloadAsserted_eq (rxSessionNote rxs frame) extent
    (by rw [hreceived]; exact hextent)
    (by rw [hreceived, hnote.total, ← hs.total]; exact htotal)
    (by rw [hpayload, hreceived]; exact h.empty) mem frame.payload
  obtain ⟨mem', rxs', _, hcrc, ⟨hw, hh⟩ | ⟨hw, _⟩⟩ := hnote.write mem frame.payload
  · rw [hw] at hwrite
    unfold rxSessionAcceptFrameAsserted rxSessionAcceptFrame
    simp only [check_pos htid, hwrite, hw, Option.bind_eq_bind, Option.bind_some, lt_irrefl, if_false]
    cases heot : frame.endOfTransfer with
    | false => rfl
    | true =>
        simp only [if_true]
        by_cases hdone : (frame.startOfTransfer && true ||
            decide (rxs'.calculatedCrc = CRC_RESIDUE)) = true
        · -- the CRC covers all bytes of several frames
          have hsizes : rxs'.received.length ≤ rxs'.totalPayloadSize := by
            rw [hh.received, hh.total]
            exact List.length_take_le' _ _
          have htwo : (frame.startOfTransfer && true) = false → 2 ≤ rxs'.totalPayloadSize := by
            intro hsingle
            rw [hsingle, Bool.false_or] at hdone
            have hres := of_decide_eq_true hdone
            rw [hcrc, rxSessionNote_crc (by rw [heot]; exact hsingle), hs.crc, ← crcAdd_append] at hres
            rw [hh.total]
            exact residue_length hres
          rw [if_pos hdone, if_pos hdone, rxSessionTransferAsserted_eq hsizes frame htwo]
          rfl
        · rw [if_neg hdone, if_neg hdone]
          rfl
  · rw [hw] at hwrite
    have hneg : -CANARD_ERROR_OUT_OF_MEMORY < (0 : Int) := by decide
    unfold rxSessionAcceptFrameAsserted rxSessionAcceptFrame
    simp only [check_pos htid, hwrite, hw, Option.bind_eq_bind, Option.bind_some, if_pos hneg]
    rfl

theorem Intact.synchronise {rxs : CanardInternalRxSession} {extent : Nat} (h : Intact rxs extent)
    {frame : RxFrameModel} (htid : frame.transferId ≤ CANARD_TRANSFER_ID_MAX) (index : Nat) :
    Intact (rxSessionSynchronised rxs frame index) extent := by
  obtain ⟨a, hs⟩ := h.stands
  exact ⟨⟨_, hs.toHolds.synchronise frame index⟩, htid, fun _ => rfl⟩

/-- **Any frame** passes the assertions of its session. -/
theorem Intact.updateAsserted {rxs : CanardInternalRxSession} {extent : Nat} (h : Intact rxs extent)
    (mem : Memory) {frame : RxFrameModel} (htid : frame.transferId ≤ CANARD_TRANSFER_ID_MAX)
    (index timeout : Nat) : rxSessionUpdateAsserted mem rxs frame index timeout extent =
      some (rxSessionUpdate mem rxs frame index timeout extent) := by
  have hdifference : rxComputeTransferIDDifferenceAsserted rxs.transferId frame.transferId =
      some (rxComputeTransferIDDifference rxs.transferId frame.transferId) := by
    unfold rxComputeTransferIDDifferenceAsserted
    rw [check_pos h.tid, check_pos htid]
    rfl
  have htake : ∀ rxs' : CanardInternalRxSession, Intact rxs' extent →
      rxSessionTakeAsserted mem rxs' frame index extent =
        some (rxSessionTake mem rxs' frame index extent) := by
    intro rxs' h'
    unfold rxSessionTakeAsserted rxSessionTake
    split
    · exact h'.accept mem htid
    · rfl
  rw [rxSessionUpdate_eq]
  unfold rxSessionUpdateAsserted
  rw [check_pos h.tid, check_pos htid, hdifference]
  dsimp only [Option.bind_eq_bind, Option.bind_some]
  split
  · split
    · exact htake _ (h.synchronise htid index)
    · rfl
  · exact htake rxs h

/-! ### What a frame leaves behind -/

theorem next_tid (a : Assembly) : a.next.transferId ≤ CANARD_TRANSFER_ID_MAX := Nat.and_le_right

theorem step_tid {a : Assembly} {frame : RxFrameModel} (ha : a.transferId ≤ CANARD_TRANSFER_ID_MAX)
    (hframe : frame.transferId ≤ CANARD_TRANSFER_ID_MAX) (granted : Bool) (index timeout extent : Nat) :
    (a.step granted frame index timeout extent).1.transferId ≤ CANARD_TRANSFER_ID_MAX := by
  have htake : ∀ b : Assembly, b.transferId ≤ CANARD_TRANSFER_ID_MAX →
      (b.take granted frame index extent).1.transferId ≤ CANARD_TRANSFER_ID_MAX := by
    intro b hb
    unfold Assembly.take
    split
    · unfold Assembly.collect
      dsimp only
      split
      · exact next_tid _
      · split
        · exact next_tid _
        · exact hb
    · exact hb
  unfold Assembly.step
  split
  · dsimp only
    split
    · exact htake _ hframe
    · exact next_tid _
  · exact htake a ha

theorem rxSessionAcceptFrame_empty {rxs : CanardInternalRxSession}
    (h : rxs.payload = none → rxs.received = []) (mem : Memory) (frame : RxFrameModel) (extent : Nat)
    (hnone : (rxSessionAcceptFrame mem rxs frame extent).2.1.payload = none) :
    (rxSessionAcceptFrame mem rxs frame extent).2.1.received = [] := by
  have hnote : (rxSessionNote rxs frame).payload = none → (rxSessionNote rxs frame).received = [] := by
    rw [rxSessionNote_payload]
    intro hp
    rw [← h hp]
    unfold rxSessionNote
    dsimp only
    split <;> split <;> rfl
  have hwrite : ∀ rxs' out, (rxSessionWritePayload mem (rxSessionNote rxs frame) extent
      frame.payload).2 = (rxs', out) → rxs'.payload = none → rxs'.received = [] := by
    intro rxs' out heq hp
    obtain ⟨hreceived, hkept⟩ := rxSessionAllocated_received mem (rxSessionNote rxs frame) extent
      frame.payload
    rw [rxSessionWritePayload_allocated] at heq
    split at heq
    · rename_i hsome
      obtain ⟨rfl, _⟩ := Prod.mk.inj heq
      exact absurd hp hsome
    · obtain ⟨rfl, _⟩ := Prod.mk.inj heq
      rw [hreceived]
      exact hnote (hkept hp)
  unfold rxSessionAcceptFrame at hnone ⊢
  dsimp only at hnone ⊢
  generalize rxSessionWritePayload mem (rxSessionNote rxs frame) extent frame.payload = r
    at hwrite hnone ⊢
  obtain ⟨mem', rxs', out⟩ := r
  split
  · rfl
  · rename_i hout
    rw [if_neg hout] at hnone
    split
    · split
      · rfl
      · rfl
    · rename_i heot
      rw [if_neg heot] at hnone
      exact hwrite rxs' out rfl hnone

/-- **Any frame** leaves the session intact. -/
theorem Intact.update {rxs : CanardInternalRxSession} {extent : Nat} (h : Intact rxs extent)
    (mem : Memory) {frame : RxFrameModel} (htid : frame.transferId ≤ CANARD_TRANSFER_ID_MAX)
    (index timeout : Nat) :
    Intact (rxSessionUpdate mem rxs frame index timeout extent).2.1 extent := by
  obtain ⟨a, hs⟩ := h.stands
  obtain ⟨granted, mem', rxs', out, tr, hupd, _, hs', _⟩ := hs.update mem frame index timeout
  have hempty : (rxSessionUpdate mem rxs frame index timeout extent).2.1.payload = none →
      (rxSessionUpdate mem rxs frame index timeout extent).2.1.received = [] := by
    have htake : ∀ x : CanardInternalRxSession, (x.payload = none → x.received = []) →
        (rxSessionTake mem x frame index extent).2.1.payload = none →
        (rxSessionTake mem x frame index extent).2.1.received = [] := by
      intro x hx
      unfold rxSessionTake
      split
      · exact rxSessionAcceptFrame_empty hx mem frame extent
      · exact hx
    rw [rxSessionUpdate_eq]
    split
    · split
      · exact htake _ (fun _ => rfl)
      · exact fun _ => rfl
    · exact htake rxs h.empty
  rw [hupd] at hempty ⊢
  refine ⟨⟨_, hs'⟩, ?_, hempty⟩
  have ha : a.transferId ≤ CANARD_TRANSFER_ID_MAX := hs.tid ▸ h.tid
  rw [show rxs'.transferId = _ from hs'.tid]
  exact step_tid ha htid granted index timeout extent

/-! ## Subscriptions -/

/-- All sessions are intact. -/
def CanardRxSubscription.Intact (sub : CanardRxSubscription) : Prop :=
  ∀ node rxs, sub.sessions node = some rxs → Canard.Intact rxs sub.extent

/-- A frame from the bus. -/
structure RxFrameModel.Valid (frame : RxFrameModel) : Prop where
  tid : frame.transferId ≤ CANARD_TRANSFER_ID_MAX
  source : frame.sourceNodeId ≤ CANARD_NODE_ID_MAX ∨ frame.sourceNodeId = CANARD_NODE_ID_UNSET

theorem rxTryParseFrame_valid {frame : CanardFrame} {model : RxFrameModel}
    (h : rxTryParseFrame frame = some model) : model.Valid := by
  have hreceived := rxTryParseFrame_received h 0 []
  exact ⟨hreceived.transferId, hreceived.source.imp id And.right⟩

theorem setSession_intact {sub : CanardRxSubscription} (h : sub.Intact)
    {rxs : CanardInternalRxSession} (hrxs : Canard.Intact rxs sub.extent) (node : Nat) :
    (sub.setSession node rxs).Intact := by
  intro n x hx
  unfold CanardRxSubscription.setSession at hx
  dsimp only at hx
  split at hx
  · rw [← Option.some.inj hx]
    exact hrxs
  · exact h n x hx

/-- **A frame at its subscription.** -/
theorem rxAcceptFrameAsserted_eq {sub : CanardRxSubscription} (h : sub.Intact) {nodeId : Nat}
    (mem : Memory) {frame : RxFrameModel} (hframe : frame.Valid) (hport : sub.portId = frame.portId)
    (hdst : frame.destinationNodeId = CANARD_NODE_ID_UNSET ∨ frame.destinationNodeId = nodeId)
    (index : Nat) :
    rxAcceptFrameAsserted nodeId mem sub frame index = some (rxAcceptFrame mem sub frame index) ∧
      (rxAcceptFrame mem sub frame index).2.1.Intact := by
  unfold rxAcceptFrameAsserted
  rw [check_pos hport, check_pos hframe.tid, check_pos (hdst.imp Eq.symm Eq.symm)]
  dsimp only [Option.bind_eq_bind, Option.bind_some]
  by_cases hnode : frame.sourceNodeId ≤ CANARD_NODE_ID_MAX
  · unfold rxAcceptFrame
    simp only [if_pos hnode]
    cases hs : sub.sessions frame.sourceNodeId with
    | some rxs =>
        have hrxs := h _ rxs hs
        simp only [Option.bind_some, hrxs.updateAsserted mem hframe.tid index]
        exact ⟨rfl, setSession_intact h (hrxs.update mem hframe.tid index _) _⟩
    | none =>
        cases hsot : frame.startOfTransfer with
        | false => exact ⟨rfl, h⟩
        | true =>
            have hinit := intact_init frame hframe.tid index sub.extent
            simp only [if_true]
            cases hgrant : mem.allocateSession with
            | mk mem' granted =>
                cases granted with
                | false => exact ⟨rfl, h⟩
                | true =>
                    simp only [if_true, Option.bind_some, hinit.updateAsserted mem' hframe.tid index]
                    exact ⟨rfl, setSession_intact h (hinit.update mem' hframe.tid index _) _⟩
  · rw [if_neg hnode, check_pos (hframe.source.resolve_left hnode)]
    refine ⟨rfl, ?_⟩
    unfold rxAcceptFrame
    rw [if_neg hnode]
    split
    · exact h
    · exact h

theorem rxDispatchAsserted_eq {nodeId : Nat} (mem : Memory) {frame : RxFrameModel}
    (hframe : frame.Valid)
    (hdst : frame.destinationNodeId = CANARD_NODE_ID_UNSET ∨ frame.destinationNodeId = nodeId)
    (index : Nat) {subs : List CanardRxSubscription} (h : ∀ sub ∈ subs, sub.Intact) :
    rxDispatchAsserted nodeId mem frame index subs = some (rxDispatch mem frame index subs) ∧
      ∀ sub ∈ (rxDispatch mem frame index subs).2.1, sub.Intact := by
  induction subs with
  | nil => exact ⟨rfl, h⟩
  | cons sub subs ih =>
      obtain ⟨hsub, hsubs⟩ := List.forall_mem_cons.mp h
      unfold rxDispatchAsserted rxDispatch
      by_cases hport : sub.portId = frame.portId
      · obtain ⟨haccept, hintact⟩ := rxAcceptFrameAsserted_eq hsub mem hframe hport hdst index
        rw [if_pos hport, if_pos hport, check_pos hport, haccept]
        exact ⟨rfl, List.forall_mem_cons.mpr ⟨hintact, hsubs⟩⟩
      · obtain ⟨hrest, hintact⟩ := ih hsubs
        rw [if_neg hport, if_neg hport, hrest]
        exact ⟨rfl, List.forall_mem_cons.mpr ⟨hsub, hintact⟩⟩

/-! ## The instance -/

/-- All sessions of all subscriptions are intact. -/
def CanardInstance.Intact (ins : CanardInstance) : Prop :=
  ∀ kind, ∀ sub ∈ ins.rxSubscriptions kind, sub.Intact

theorem rxSessionAcceptFrame_out (mem : Memory) (rxs : CanardInternalRxSession)
    (frame : RxFrameModel) (extent : Nat) :
    (rxSessionAcceptFrame mem rxs frame extent).2.2.1 ≤ 1 := by
  have hwrite : (rxSessionWritePayload mem (rxSessionNote rxs frame) extent frame.payload).2.2 ≤ 1 := by
    rw [rxSessionWritePayload_allocated]
    split
    · exact Int.zero_le_ofNat 1
    · dsimp only
      split <;> decide
  unfold rxSessionAcceptFrame
  dsimp only
  generalize rxSessionWritePayload mem (rxSessionNote rxs frame) extent frame.payload = r at hwrite ⊢
  split
  · exact hwrite
  · split
    · split
      · exact le_refl _
      · exact hwrite
    · exact hwrite

theorem rxAcceptFrame_out (mem : Memory) (sub : CanardRxSubscription) (frame : RxFrameModel)
    (index : Nat) : (rxAcceptFrame mem sub frame index).2.2.1 ≤ 1 := by
  have hupdate : ∀ mem rxs timeout extent,
      (rxSessionUpdate mem rxs frame index timeout extent).2.2.1 ≤ 1 := by
    intro mem rxs timeout extent
    have htake : ∀ rxs, (rxSessionTake mem rxs frame index extent).2.2.1 ≤ 1 := by
      intro rxs
      unfold rxSessionTake
      split
      · exact rxSessionAcceptFrame_out mem rxs frame extent
      · exact Int.zero_le_ofNat 1
    rw [rxSessionUpdate_eq]
    split
    · split
      · exact htake _
      · exact Int.zero_le_ofNat 1
    · exact htake rxs
  have hoom : -CANARD_ERROR_OUT_OF_MEMORY ≤ (1 : Int) := by decide
  unfold rxAcceptFrame
  split
  · cases sub.sessions frame.sourceNodeId with
    | some rxs => exact hupdate _ _ _ _
    | none =>
        cases frame.startOfTransfer with
        | false => exact Int.zero_le_ofNat 1
        | true =>
            cases mem.allocateSession with
            | mk mem' granted =>
                cases granted with
                | false => exact hoom
                | true => exact hupdate _ _ _ _
  · split
    · exact le_refl _
    · exact hoom

theorem rxDispatch_out (mem : Memory) (frame : RxFrameModel) (index : Nat)
    (subs : List CanardRxSubscription) : (rxDispatch mem frame index subs).2.2.1 ≤ 1 := by
  induction subs with
  | nil => exact Int.zero_le_ofNat 1
  | cons sub subs ih =>
      unfold rxDispatch
      split
      · exact rxAcceptFrame_out mem sub frame index
      · exact ih

/-- **`canardRxAccept` passes its assertions**, and leaves the sessions intact. -/
theorem canardRxAcceptAsserted_eq {ins : CanardInstance} (h : ins.Intact) (frame : CanardFrame)
    (index : Nat) :
    canardRxAcceptAsserted ins frame index = some (canardRxAccept ins frame index) ∧
      (canardRxAccept ins frame index).1.Intact := by
  have hzero : (0 : Int) ≤ 1 := Int.zero_le_ofNat 1
  have hinvalid : -CANARD_ERROR_INVALID_ARGUMENT ≤ (1 : Int) := by decide
  unfold canardRxAcceptAsserted canardRxAccept
  by_cases hid : frame.extendedCanId ≤ CAN_EXT_ID_MASK
  · rw [if_pos hid, if_pos hid]
    cases hparse : rxTryParseFrame frame with
    | none => exact ⟨by simp only [Option.pure_def, Option.bind_eq_bind, Option.bind_some,
        check_pos hzero], h⟩
    | some model =>
        by_cases hdst : model.destinationNodeId = CANARD_NODE_ID_UNSET ∨
            model.destinationNodeId = ins.nodeId
        · obtain ⟨hdispatch, hintact⟩ := rxDispatchAsserted_eq ins.memory (rxTryParseFrame_valid hparse)
            hdst index (h model.transferKind)
          have hout := rxDispatch_out ins.memory model index (ins.rxSubscriptions model.transferKind)
          simp only [if_pos hdst, hdispatch, Option.pure_def, Option.bind_eq_bind, Option.bind_some,
            check_pos hout]
          refine ⟨trivial, ?_⟩
          intro kind sub hsub
          dsimp only at hsub
          split at hsub
          · exact hintact sub hsub
          · exact h kind sub hsub
        · simp only [if_neg hdst, Option.pure_def, Option.bind_eq_bind, Option.bind_some,
            check_pos hzero]
          exact ⟨trivial, h⟩
  · rw [if_neg hid, if_neg hid]
    simp only [Option.pure_def, Option.bind_eq_bind, Option.bind_some, check_pos hinvalid]
    exact ⟨trivial, h⟩

/-- **Every call leaves the sessions intact.** -/
theorem CanardInstance.Intact.call {ins : CanardInstance} (h : ins.Intact) (c : Call) :
    (ins.call c).1.Intact := by
  have hun : ∀ kind portId, (canardRxUnsubscribe ins kind portId).1.Intact := by
    intro kind portId k sub hsub
    unfold canardRxUnsubscribe at hsub
    split at hsub
    · exact h k sub hsub
    · dsimp only at hsub
      split at hsub
      · exact h kind sub (List.mem_of_mem_eraseP hsub)
      · exact h k sub hsub
  cases c with
  | push transfer room =>
      intro kind sub hsub
      rw [show (ins.call (.push transfer room)).1.rxSubscriptions = ins.rxSubscriptions from
        (canardTxPush_rx ins transfer room).2] at hsub
      exact h kind sub hsub
  | pop => exact h
  | accept frame index => exact (canardRxAcceptAsserted_eq h frame index).2
  | subscribe kind portId extent timeout =>
      intro k sub hsub
      have hsub : sub ∈ (canardRxSubscribe ins kind portId extent timeout).1.rxSubscriptions k := hsub
      unfold canardRxSubscribe at hsub
      dsimp only at hsub
      split at hsub
      · rcases List.mem_cons.mp hsub with rfl | hsub
        · exact fun node rxs hrxs => (nomatch hrxs)
        · exact hun kind portId kind sub hsub
      · exact hun kind portId k sub hsub
  | unsubscribe kind portId => exact hun kind portId
  | release payload => exact h

end Wlmio.Canard
