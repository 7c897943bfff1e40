import Wlmio.Canard.Loopback

/-!
# What a reception session is for

A session of the library computes the CRC as the frames come in, keeps no more of the
payload than the extent, and asks for its buffer late. `Assembly` is the same session
without any of that: all bytes of the transfer so far, checked and cut when the last
frame has arrived. `StandsFor.update` relates the two for every frame and every answer of
the allocator.
-/

namespace Wlmio.Canard

/-! ## Putting a transfer together -/

/-- The transfer that is being put together. -/
structure Assembly where
  timestampUsec : Nat
  data : List Byte
  transferId : Nat
  redundantTransportIndex : Nat
  toggle : Bool
deriving DecidableEq, Repr

namespace Assembly

/-- The first frame of a transfer opens an assembly. -/
def start (frame : RxFrameModel) (redundantTransportIndex : Nat) : Assembly where
  timestampUsec := frame.timestampUsec
  data := []
  transferId := frame.transferId
  redundantTransportIndex := redundantTransportIndex
  toggle := true

/-- Nothing collected; the next transfer is expected. -/
def next (a : Assembly) : Assembly :=
  { a with data := [], transferId := (a.transferId + 1) &&& CANARD_TRANSFER_ID_MAX, toggle := true }

/-- Nothing collected; the transfer of the frame is expected, from its transport. -/
def synchronise (a : Assembly) (frame : RxFrameModel) (redundantTransportIndex : Nat) : Assembly :=
  { a with
    data := []
    transferId := frame.transferId
    redundantTransportIndex := redundantTransportIndex
    toggle := true }

/-- Whether the frame is too late for the transfer in hand, or begins another that is not the
previous one. -/
def abandons (a : Assembly) (frame : RxFrameModel) (redundantTransportIndex timeout : Nat) : Bool :=
  decide (timeout < frame.timestampUsec - a.timestampUsec) ||
    (decide (a.redundantTransportIndex = redundantTransportIndex) && frame.startOfTransfer &&
      decide (1 < rxComputeTransferIDDifference a.transferId frame.transferId))

/-- Whether the frame is the one the assembly waits for. -/
def fits (a : Assembly) (frame : RxFrameModel) (redundantTransportIndex : Nat) : Bool :=
  decide (a.redundantTransportIndex = redundantTransportIndex) && decide (frame.toggle = a.toggle) &&
    decide (frame.transferId = a.transferId)

/-- Append the payload of a frame. -/
def append (a : Assembly) (frame : RxFrameModel) : Assembly :=
  { a with
    timestampUsec := if frame.startOfTransfer then frame.timestampUsec else a.timestampUsec
    data := a.data ++ frame.payload }

/-- The transfer that `frame` completes: the data of a single frame as it is, and those of several
without their CRC, if it is right. -/
def transfer (a : Assembly) (frame : RxFrameModel) (extent : Nat) : Option CanardTransfer :=
  if frame.startOfTransfer then
    some (rxInitTransferFromFrame frame a.timestampUsec (a.data.take extent))
  else if crcAdd CRC_INITIAL a.data = CRC_RESIDUE then
    some (rxInitTransferFromFrame frame a.timestampUsec
      ((a.data.take (a.data.length - CRC_SIZE_BYTES)).take extent))
  else none

/-- Take a frame that fits. `granted` is whether there is memory to put it in. -/
def collect (a : Assembly) (granted : Bool) (frame : RxFrameModel) (extent : Nat) :
    Assembly × Option CanardTransfer :=
  let a := a.append frame
  if !granted then (a.next, none)
  else if frame.endOfTransfer then (a.next, a.transfer frame extent)
  else ({ a with toggle := !a.toggle }, none)

/-- Take the frame if it fits. -/
def take (a : Assembly) (granted : Bool) (frame : RxFrameModel)
    (redundantTransportIndex extent : Nat) : Assembly × Option CanardTransfer :=
  if a.fits frame redundantTransportIndex then a.collect granted frame extent else (a, none)

/-- What a frame does to an assembly. -/
def step (a : Assembly) (granted : Bool) (frame : RxFrameModel)
    (redundantTransportIndex timeout extent : Nat) : Assembly × Option CanardTransfer :=
  if a.abandons frame redundantTransportIndex timeout then
    let a := a.synchronise frame redundantTransportIndex
    if frame.startOfTransfer then a.take granted frame redundantTransportIndex extent
    else (a.next, none)
  else a.take granted frame redundantTransportIndex extent

end Assembly

/-- The session keeps what the assembly has, but for the CRC. -/
structure Holds (rxs : CanardInternalRxSession) (a : Assembly) (extent : Nat) : Prop where
  timestamp : rxs.transferTimestampUsec = a.timestampUsec
  total : rxs.totalPayloadSize = a.data.length
  received : rxs.received = a.data.take extent
  tid : rxs.transferId = a.transferId
  index : rxs.redundantTransportIndex = a.redundantTransportIndex
  toggle : rxs.toggle = a.toggle

/-- The session keeps what the assembly has. -/
structure StandsFor (rxs : CanardInternalRxSession) (a : Assembly) (extent : Nat) : Prop
    extends Holds rxs a extent where
  crc : rxs.calculatedCrc = crcAdd CRC_INITIAL a.data

theorem standsFor_init (frame : RxFrameModel) (index extent : Nat) :
    StandsFor (rxSessionInit frame index) (.start frame index) extent :=
  ⟨⟨rfl, rfl, List.take_nil.symm, rfl, rfl, rfl⟩, rfl⟩

section

variable {rxs : CanardInternalRxSession} {a : Assembly} {extent : Nat}

/-- A restart forgets everything but the time, the transfer-ID and the transport. -/
theorem standsFor_restart (ht : rxs.transferTimestampUsec = a.timestampUsec)
    (hid : rxs.transferId = a.transferId)
    (hi : rxs.redundantTransportIndex = a.redundantTransportIndex) (mem : Memory) :
    StandsFor (rxSessionRestart mem rxs).2 a.next extent := by
  refine ⟨⟨ht, rfl, List.take_nil.symm, ?_, hi, rfl⟩, rfl⟩
  show (rxs.transferId + 1) &&& CANARD_TRANSFER_ID_MAX = _
  rw [hid]
  rfl

theorem Holds.needRestart (h : Holds rxs a extent) (frame : RxFrameModel) (index timeout : Nat) :
    rxNeedRestart rxs frame index timeout = a.abandons frame index timeout := by
  have hlate : (decide (a.timestampUsec < frame.timestampUsec) &&
      decide (timeout < frame.timestampUsec - a.timestampUsec)) =
      decide (timeout < frame.timestampUsec - a.timestampUsec) := by
    by_cases hlt : timeout < frame.timestampUsec - a.timestampUsec
    · have : a.timestampUsec < frame.timestampUsec := by omega
      simp [hlt, this]
    · simp [hlt]
  unfold rxNeedRestart Assembly.abandons
  dsimp only
  rw [h.timestamp, h.tid, h.index, hlate]

/-- The session when it has given up its transfer for that of the frame. -/
def rxSessionSynchronised (rxs : CanardInternalRxSession) (frame : RxFrameModel) (index : Nat) :
    CanardInternalRxSession :=
  { rxs with
    totalPayloadSize := 0
    received := []
    calculatedCrc := CRC_INITIAL
    transferId := frame.transferId
    toggle := true
    redundantTransportIndex := index }

/-- Take the frame if it fits. -/
def rxSessionTake (mem : Memory) (rxs : CanardInternalRxSession) (frame : RxFrameModel)
    (index extent : Nat) : Memory × CanardInternalRxSession × Int × Option RxTransfer :=
  if rxs.redundantTransportIndex = index ∧ frame.toggle = rxs.toggle ∧
      frame.transferId = rxs.transferId then
    rxSessionAcceptFrame mem rxs frame extent
  else (mem, rxs, 0, none)

/-- The two parts of an update: whether the transfer in hand goes on, and the frame itself. -/
theorem rxSessionUpdate_eq (mem : Memory) (rxs : CanardInternalRxSession) (frame : RxFrameModel)
    (index timeout extent : Nat) : rxSessionUpdate mem rxs frame index timeout extent =
      if rxNeedRestart rxs frame index timeout then
        if frame.startOfTransfer then
          rxSessionTake mem (rxSessionSynchronised rxs frame index) frame index extent
        else
          ((rxSessionRestart mem (rxSessionSynchronised rxs frame index)).1,
            (rxSessionRestart mem (rxSessionSynchronised rxs frame index)).2, 0, none)
      else rxSessionTake mem rxs frame index extent := by
  unfold rxSessionUpdate rxSessionTake rxSessionSynchronised
  cases rxNeedRestart rxs frame index timeout with
  | true => cases frame.startOfTransfer <;> rfl
  | false => cases frame.startOfTransfer <;> rfl

theorem Holds.synchronise (h : Holds rxs a extent) (frame : RxFrameModel) (index : Nat) :
    StandsFor (rxSessionSynchronised rxs frame index) (a.synchronise frame index) extent :=
  ⟨⟨h.timestamp, rfl, List.take_nil.symm, rfl, rfl, rfl⟩, rfl⟩

theorem Holds.note (h : Holds rxs a extent) (frame : RxFrameModel) :
    Holds (rxSessionNote rxs frame)
      { a with
        timestampUsec := if frame.startOfTransfer then frame.timestampUsec else a.timestampUsec }
      extent := by
  have ht := rxSessionNote_timestamp rxs frame
  rw [h.timestamp] at ht
  refine ⟨ht, ?_, ?_, ?_, ?_, ?_⟩
  all_goals
    unfold rxSessionNote
    dsimp only
  · split <;> split <;> exact h.total
  · split <;> split <;> exact h.received
  · split <;> split <;> exact h.tid
  · split <;> split <;> exact h.index
  · split <;> split <;> exact h.toggle

/-- The session after a write into the buffer `b`. -/
def rxSessionWritten (rxs : CanardInternalRxSession) (extent : Nat) (payload : List Byte)
    (b : Option Buffer) : CanardInternalRxSession :=
  { rxSessionCopy rxs extent payload with
    totalPayloadSize := rxs.totalPayloadSize + payload.length
    payload := b }

/-- A write appends the payload, or it is refused the buffer; then what matters for a restart
has not changed. -/
theorem Holds.write (h : Holds rxs a extent) (mem : Memory) (payload : List Byte) :
    ∃ mem' rxs', (mem.Ample → mem'.Ample) ∧ rxs'.calculatedCrc = rxs.calculatedCrc ∧
      ((rxSessionWritePayload mem rxs extent payload = (mem', rxs', 0) ∧
          Holds rxs' { a with data := a.data ++ payload } extent) ∨
        (rxSessionWritePayload mem rxs extent payload = (mem', rxs', -CANARD_ERROR_OUT_OF_MEMORY) ∧
          ¬ mem.Ample ∧ rxs'.transferTimestampUsec = rxs.transferTimestampUsec ∧
          rxs'.transferId = rxs.transferId ∧
          rxs'.redundantTransportIndex = rxs.redundantTransportIndex)) := by
  have htotal : rxs.totalPayloadSize + payload.length = (a.data ++ payload).length := by
    rw [h.total, List.length_append]
  have hcopy : (rxSessionCopy rxs extent payload).received = (a.data ++ payload).take extent := by
    unfold rxSessionCopy
    dsimp only
    rw [h.received, take_append_copy]
  -- what a session with this buffer is after the copy
  have hkept : ∀ b : Option Buffer, Holds (rxSessionWritten rxs extent payload b)
      { a with data := a.data ++ payload } extent :=
    fun b => ⟨h.timestamp, htotal, hcopy, h.tid, h.index, h.toggle⟩
  cases hb : rxs.payload with
  | some b =>
      refine ⟨mem, rxSessionWritten rxs extent payload (some b), id, rfl, .inl ⟨?_, hkept (some b)⟩⟩
      simp [rxSessionWritePayload, hb, rxSessionCopy, rxSessionWritten]
  | none =>
      by_cases he : 0 < extent
      · by_cases hd : mem.deny mem.next = true
        · refine ⟨{ mem with next := mem.next + 1 },
            { rxs with totalPayloadSize := rxs.totalPayloadSize + payload.length }, id, rfl,
            .inr ⟨?_, fun hm => ?_, rfl, rfl, rfl⟩⟩
          · simp [rxSessionWritePayload, Memory.allocate, hb, he, hd]
          · rw [hm mem.next] at hd
            cases hd
        · refine ⟨{ mem with next := mem.next + 1, live := mem.next :: mem.live },
            rxSessionWritten rxs extent payload (some mem.next), id, rfl,
            .inl ⟨?_, hkept (some mem.next)⟩⟩
          simp [rxSessionWritePayload, Memory.allocate, hb, he, hd, rxSessionCopy, rxSessionWritten]
      · -- nothing is to be kept, and nothing is
        obtain rfl : extent = 0 := by omega
        refine ⟨mem, { rxs with totalPayloadSize := rxs.totalPayloadSize + payload.length }, id, rfl,
          .inl ⟨?_, h.timestamp, htotal, ?_, h.tid, h.index, h.toggle⟩⟩
        · simp [rxSessionWritePayload, hb]
        · rw [h.received, List.take_zero, List.take_zero]

/-- A transfer of one frame is handed over as it is. -/
theorem Holds.transfer_single (h : Holds rxs a extent) (frame : RxFrameModel) :
    (rxSessionTransfer rxs frame true).1 =
      rxInitTransferFromFrame frame a.timestampUsec (a.data.take extent) := by
  unfold rxSessionTransfer
  dsimp only
  rw [Bool.not_true, Bool.false_and, if_neg Bool.false_ne_true, List.take_length, h.timestamp,
    h.received]

/-- From one of several frames the CRC is cut off, or what the extent has left of it. -/
theorem Holds.transfer_multi (h : Holds rxs a extent) (frame : RxFrameModel) :
    (rxSessionTransfer rxs frame false).1 = rxInitTransferFromFrame frame a.timestampUsec
      ((a.data.take (a.data.length - CRC_SIZE_BYTES)).take extent) := by
  have hlen : (a.data.take extent).length = min extent a.data.length := List.length_take
  have hcut : ((a.data.take extent).take (if a.data.length - (a.data.take extent).length < 2
        then (a.data.take extent).length - (2 - (a.data.length - (a.data.take extent).length))
        else (a.data.take extent).length)) = (a.data.take (a.data.length - 2)).take extent := by
    rw [List.take_take, List.take_take, hlen]
    congr 1
    split <;> omega
  simp only [rxSessionTransfer, h.timestamp, h.total, h.received, CRC_SIZE_BYTES, Bool.not_false,
    Bool.true_and, decide_eq_true_eq, hcut]

/-- **A frame that fits**, in the session and in the assembly. -/
theorem StandsFor.accept (h : StandsFor rxs a extent) (mem : Memory) (frame : RxFrameModel) :
    ∃ granted mem' rxs' out tr, rxSessionAcceptFrame mem rxs frame extent = (mem', rxs', out, tr) ∧
      (mem.Ample → granted = true ∧ mem'.Ample) ∧
      StandsFor rxs' (a.collect granted frame extent).1 extent ∧
      tr.map Prod.fst = (a.collect granted frame extent).2 := by
  obtain ⟨mem₁, rxs₁, hmem, hcrc₁, ⟨hw, hh⟩ | ⟨hw, hample, ht, htid, hidx⟩⟩ :=
    (h.toHolds.note frame).write mem frame.payload
  · have hh : Holds rxs₁ (a.append frame) extent := hh
    -- the CRC covers the frame unless it is a transfer of its own
    have hcrc : (frame.startOfTransfer && frame.endOfTransfer) = false →
        rxs₁.calculatedCrc = crcAdd CRC_INITIAL (a.append frame).data := by
      intro hsingle
      rw [hcrc₁, rxSessionNote_crc hsingle, h.crc, ← crcAdd_append]
      rfl
    cases heot : frame.endOfTransfer with
    | true =>
        have hnext : ∀ b, StandsFor (rxSessionRestart mem₁ { rxs₁ with payload := b }).2
            (a.append frame).next extent :=
          fun _ => standsFor_restart hh.timestamp hh.tid hh.index mem₁
        have hcollect : a.collect true frame extent =
            ((a.append frame).next, (a.append frame).transfer frame extent) := by
          simp [Assembly.collect, heot]
        refine ⟨true, ?_⟩
        rw [hcollect]
        cases hsot : frame.startOfTransfer with
        | true =>
            refine ⟨(rxSessionRestart mem₁ { rxs₁ with payload := none }).1,
              (rxSessionRestart mem₁ { rxs₁ with payload := none }).2, 1,
              some (rxSessionTransfer rxs₁ frame true), ?_,
              fun hm => ⟨rfl, rxSessionRestart_ample (hmem hm)⟩, hnext none, ?_⟩
            · unfold rxSessionAcceptFrame
              simp [hw, heot, hsot]
            · dsimp only
              rw [Option.map_some, hh.transfer_single, Assembly.transfer, if_pos hsot]
        | false =>
            have hcrc := hcrc (by rw [hsot, Bool.false_and])
            by_cases hres : crcAdd CRC_INITIAL (a.append frame).data = CRC_RESIDUE
            · refine ⟨(rxSessionRestart mem₁ { rxs₁ with payload := none }).1,
                (rxSessionRestart mem₁ { rxs₁ with payload := none }).2, 1,
                some (rxSessionTransfer rxs₁ frame false), ?_,
                fun hm => ⟨rfl, rxSessionRestart_ample (hmem hm)⟩, hnext none, ?_⟩
              · unfold rxSessionAcceptFrame
                simp [hw, heot, hsot, hcrc, hres]
              · dsimp only
                rw [Option.map_some, hh.transfer_multi, Assembly.transfer,
                  if_neg (by rw [hsot]; exact Bool.false_ne_true), if_pos hres]
            · refine ⟨(rxSessionRestart mem₁ rxs₁).1, (rxSessionRestart mem₁ rxs₁).2, 0, none,
                ?_, fun hm => ⟨rfl, rxSessionRestart_ample (hmem hm)⟩, hnext rxs₁.payload, ?_⟩
              · unfold rxSessionAcceptFrame
                simp [hw, heot, hsot, hcrc, hres]
              · dsimp only
                rw [Option.map_none, Assembly.transfer,
                  if_neg (by rw [hsot]; exact Bool.false_ne_true), if_neg hres]
    | false =>
        have hcollect : a.collect true frame extent =
            ({ a.append frame with toggle := !(a.append frame).toggle }, none) := by
          simp [Assembly.collect, heot]
        refine ⟨true, ?_⟩
        rw [hcollect]
        refine ⟨mem₁, { rxs₁ with toggle := !rxs₁.toggle }, 0, none, ?_,
          fun hm => ⟨rfl, hmem hm⟩, ⟨⟨hh.timestamp, hh.total, hh.received, hh.tid, hh.index, ?_⟩,
          hcrc (by rw [heot, Bool.and_false])⟩, rfl⟩
        · unfold rxSessionAcceptFrame
          simp [hw, heot]
        · dsimp only
          rw [hh.toggle]
  · -- refused: the session starts over, and so does the assembly
    have hnote := h.toHolds.note frame
    refine ⟨false, (rxSessionRestart mem₁ rxs₁).1, (rxSessionRestart mem₁ rxs₁).2,
      -CANARD_ERROR_OUT_OF_MEMORY, none, ?_, fun hm => absurd hm hample,
      standsFor_restart (ht.trans hnote.timestamp) (htid.trans hnote.tid) (hidx.trans hnote.index) mem₁,
      rfl⟩
    have hneg : -CANARD_ERROR_OUT_OF_MEMORY < 0 := by decide
    unfold rxSessionAcceptFrame
    simp only [hw, if_pos hneg]

/-- A frame is taken if it fits, in the session and in the assembly. -/
theorem StandsFor.take (h : StandsFor rxs a extent) (mem : Memory) (frame : RxFrameModel) (index : Nat) :
    ∃ granted mem' rxs' out tr, rxSessionTake mem rxs frame index extent = (mem', rxs', out, tr) ∧
      (mem.Ample → granted = true ∧ mem'.Ample) ∧
      StandsFor rxs' (a.take granted frame index extent).1 extent ∧
      tr.map Prod.fst = (a.take granted frame index extent).2 := by
  have hfits : a.fits frame index = true ↔ rxs.redundantTransportIndex = index ∧
      frame.toggle = rxs.toggle ∧ frame.transferId = rxs.transferId := by
    rw [h.index, h.toggle, h.tid]
    simp [Assembly.fits, and_assoc]
  unfold rxSessionTake Assembly.take
  by_cases hf : a.fits frame index = true
  · rw [if_pos (hfits.mp hf)]
    simp only [hf, if_true]
    exact h.accept mem frame
  · rw [if_neg (fun hc => hf (hfits.mpr hc))]
    simp only [hf]
    exact ⟨true, mem, rxs, 0, none, rfl, fun hm => ⟨rfl, hm⟩, h, rfl⟩

/-- **Any frame**, in the session and in the assembly. -/
theorem StandsFor.update (h : StandsFor rxs a extent) (mem : Memory) (frame : RxFrameModel)
    (index timeout : Nat) :
    ∃ granted mem' rxs' out tr,
      rxSessionUpdate mem rxs frame index timeout extent = (mem', rxs', out, tr) ∧
      (mem.Ample → granted = true ∧ mem'.Ample) ∧
      StandsFor rxs' (a.step granted frame index timeout extent).1 extent ∧
      tr.map Prod.fst = (a.step granted frame index timeout extent).2 := by
  rw [rxSessionUpdate_eq, h.needRestart frame index timeout]
  unfold Assembly.step
  by_cases hn : a.abandons frame index timeout = true
  · have hsync := h.synchronise frame index
    simp only [hn, if_true]
    by_cases hsot : frame.startOfTransfer = true
    · simp only [hsot, if_true]
      exact hsync.take mem frame index
    · simp only [hsot]
      exact ⟨true, _, _, 0, none, rfl, fun hm => ⟨rfl, rxSessionRestart_ample hm⟩,
        standsFor_restart hsync.timestamp hsync.tid hsync.index mem, rfl⟩
  · simp only [hn]
    exact h.take mem frame index

end

/-! ## After a transfer -/

namespace Assembly

/-- When a transfer has come out, the one after it is expected. -/
theorem take_handed {a : Assembly} {granted : Bool} {frame : RxFrameModel} {index extent : Nat}
    {tr : CanardTransfer} (h : (a.take granted frame index extent).2 = some tr) :
    (a.take granted frame index extent).1.transferId =
        (tr.transferId + 1) &&& CANARD_TRANSFER_ID_MAX ∧
      (a.take granted frame index extent).1.timestampUsec = tr.timestampUsec := by
  unfold take at h ⊢
  by_cases hf : a.fits frame index = true
  · rw [if_pos hf] at h ⊢
    have hid : frame.transferId = a.transferId := by
      simp only [fits, Bool.and_eq_true, decide_eq_true_eq] at hf
      exact hf.2
    have hnext : (a.append frame).next.transferId =
        (frame.transferId + 1) &&& CANARD_TRANSFER_ID_MAX := by
      rw [hid]
      rfl
    unfold collect at h ⊢
    cases granted with
    | false => cases h
    | true =>
        cases heot : frame.endOfTransfer with
        | false => simp [heot] at h
        | true =>
            simp only [heot, Bool.not_true, Bool.false_eq_true, if_false, if_true] at h ⊢
            unfold transfer at h
            split at h
            · rw [← Option.some.inj h]
              exact ⟨hnext, rfl⟩
            · split at h
              · rw [← Option.some.inj h]
                exact ⟨hnext, rfl⟩
              · cases h
  · rw [if_neg hf] at h
    cases h

theorem step_handed {a : Assembly} {granted : Bool} {frame : RxFrameModel}
    {index timeout extent : Nat} {tr : CanardTransfer}
    (h : (a.step granted frame index timeout extent).2 = some tr) :
    (a.step granted frame index timeout extent).1.transferId =
        (tr.transferId + 1) &&& CANARD_TRANSFER_ID_MAX ∧
      (a.step granted frame index timeout extent).1.timestampUsec = tr.timestampUsec := by
  unfold step at h ⊢
  by_cases hn : a.abandons frame index timeout = true
  · rw [if_pos hn] at h ⊢
    dsimp only at h ⊢
    by_cases hsot : frame.startOfTransfer = true
    · rw [if_pos hsot] at h ⊢
      exact take_handed h
    · rw [if_neg hsot] at h
      cases h
  · rw [if_neg hn] at h ⊢
    exact take_handed h

/-- The transfer before the one expected is neither taken nor taken for another. -/
theorem step_repeat {a : Assembly} {tid : Nat} (htid : tid ≤ CANARD_TRANSFER_ID_MAX)
    (ha : a.transferId = (tid + 1) &&& CANARD_TRANSFER_ID_MAX) (granted : Bool)
    {frame : RxFrameModel} (hframe : frame.transferId = tid) (index : Nat) {timeout : Nat}
    (htime : frame.timestampUsec ≤ a.timestampUsec + timeout) (extent : Nat) :
    a.step granted frame index timeout extent = (a, none) := by
  have hmod : (tid + 1) &&& CANARD_TRANSFER_ID_MAX = (tid + 1) % 32 := BitField.and_mask _ 5
  have hmax : CANARD_TRANSFER_ID_MAX = 31 := rfl
  -- one behind is not another transfer
  have hdiff : rxComputeTransferIDDifference a.transferId frame.transferId = 1 := by
    rw [ha, hmod, hframe]
    unfold rxComputeTransferIDDifference
    dsimp only
    split <;> omega
  have hne : ¬ frame.transferId = a.transferId := by
    rw [ha, hmod, hframe]
    omega
  have hlate : ¬ timeout < frame.timestampUsec - a.timestampUsec := by omega
  have habandons : a.abandons frame index timeout = false := by
    unfold abandons
    rw [hdiff]
    simp [hlate]
  have hfits : a.fits frame index = false := by
    unfold fits
    simp [hne]
  unfold step take
  rw [habandons, hfits]
  rfl

end Assembly

end Wlmio.Canard
