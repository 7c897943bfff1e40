import Wlmio.Canard.Transmit
import Wlmio.Canard.Receive
import Wlmio.Library.BitField

/-!
# What the receiver makes of what the sender sent

The frames of one transfer, accepted in order by a session that is ready for it,
come out as one transfer whose payload is what was sent, followed by the zero
bytes the sender had to add, cut at the extent of the subscription:
`canardRxFrames_transfer` at the bottom of this file.

The padding is not removed. A frame has room for the lengths of a DLC only, the
sender fills it up with zeros, and nothing in the transport says where the
payload ended.
-/

namespace Wlmio.Canard

/-! ## A session at work -/

/-- The session holds the bytes `data` of a transfer and waits for the next frame. -/
structure Collecting (rxs : CanardInternalRxSession) (data : List Byte) (extent tid : Nat)
    (toggle : Bool) : Prop where
  total : rxs.totalPayloadSize = data.length
  received : rxs.received = data.take extent
  tid : rxs.transferId = tid
  index : rxs.redundantTransportIndex = 0
  toggle : rxs.toggle = toggle

/-- Truncation at the extent, piece by piece, is truncation of the whole. -/
theorem take_append_copy (data p : List Byte) (extent : Nat) :
    data.take extent ++ p.take (if extent < (data.take extent).length + p.length
        then extent - (data.take extent).length else p.length) = (data ++ p).take extent := by
  rw [List.take_append]
  congr 1
  simp only [List.length_take]
  split
  · congr 1; omega
  · rw [List.take_of_length_le (by omega), List.take_of_length_le (by omega)]

/-- Nothing is ever refused. -/
def Memory.Ample (m : Memory) : Prop := ∀ n, m.deny n = false

theorem Memory.Ample.free {m : Memory} (h : m.Ample) (b : Option Buffer) : (m.free b).Ample := by
  cases b <;> exact h

theorem rxSessionRestart_ample {m : Memory} {rxs : CanardInternalRxSession} (h : m.Ample) :
    (rxSessionRestart m rxs).1.Ample := h.free rxs.payload

/-- With memory at hand, writing a payload extends what the session holds. -/
theorem Collecting.write {mem : Memory} {rxs : CanardInternalRxSession} {extent tid : Nat}
    {data : List Byte} {toggle : Bool} (hc : Collecting rxs data extent tid toggle)
    (hm : mem.Ample) (he : 0 < extent) (p : List Byte) :
    ∃ (mem' : Memory) (rxs' : CanardInternalRxSession) (b : Buffer),
      rxSessionWritePayload mem rxs extent p = (mem', rxs', 0) ∧ mem'.Ample ∧
      Collecting rxs' (data ++ p) extent tid toggle ∧ rxs'.payload = some b ∧
      rxs'.calculatedCrc = rxs.calculatedCrc ∧
      rxs'.transferTimestampUsec = rxs.transferTimestampUsec := by
  have htotal : rxs.totalPayloadSize + p.length = (data ++ p).length := by
    rw [hc.total, List.length_append]
  have hcopy : (rxSessionCopy rxs extent p).received = (data ++ p).take extent := by
    unfold rxSessionCopy
    dsimp only
    rw [hc.received, take_append_copy]
  cases hp : rxs.payload with
  | some b =>
      refine ⟨mem, { rxSessionCopy rxs extent p with
          totalPayloadSize := rxs.totalPayloadSize + p.length }, b, ?_, hm,
        ⟨htotal, hcopy, hc.tid, hc.index, hc.toggle⟩, hp, rfl, rfl⟩
      simp [rxSessionWritePayload, rxSessionCopy, hp]
  | none =>
      refine ⟨{ mem with next := mem.next + 1, live := mem.next :: mem.live },
        { rxSessionCopy rxs extent p with
          totalPayloadSize := rxs.totalPayloadSize + p.length, payload := some mem.next },
        mem.next, ?_, hm, ⟨htotal, hcopy, hc.tid, hc.index, hc.toggle⟩, rfl, rfl, rfl⟩
      simp [rxSessionWritePayload, rxSessionCopy, Memory.allocate, hp, he, hm mem.next]

theorem Collecting.note {rxs : CanardInternalRxSession} {extent tid : Nat} {data : List Byte}
    {toggle : Bool} (hc : Collecting rxs data extent tid toggle) (frame : RxFrameModel) :
    Collecting (rxSessionNote rxs frame) data extent tid toggle := by
  unfold rxSessionNote
  dsimp only
  split <;> split <;> exact ⟨hc.total, hc.received, hc.tid, hc.index, hc.toggle⟩

theorem rxSessionNote_timestamp (rxs : CanardInternalRxSession) (frame : RxFrameModel) :
    (rxSessionNote rxs frame).transferTimestampUsec =
      if frame.startOfTransfer then frame.timestampUsec else rxs.transferTimestampUsec := by
  unfold rxSessionNote; dsimp only; split <;> split <;> rfl

theorem rxSessionNote_crc {rxs : CanardInternalRxSession} {frame : RxFrameModel}
    (h : (frame.startOfTransfer && frame.endOfTransfer) = false) :
    (rxSessionNote rxs frame).calculatedCrc = crcAdd rxs.calculatedCrc frame.payload := by
  unfold rxSessionNote; dsimp only; rw [if_neg (by simp [h])]; split <;> rfl

/-- A frame in the middle of a transfer is collected. -/
theorem rxSessionAcceptFrame_more (frame : RxFrameModel) {mem : Memory}
    {rxs : CanardInternalRxSession} {extent tid : Nat} {data : List Byte} {toggle : Bool}
    (hm : mem.Ample) (he : 0 < extent) (hc : Collecting rxs data extent tid toggle)
    (hcrc : rxs.calculatedCrc = crcAdd CRC_INITIAL data) (heot : frame.endOfTransfer = false) :
    ∃ mem' rxs', rxSessionAcceptFrame mem rxs frame extent = (mem', rxs', 0, none) ∧
      mem'.Ample ∧ Collecting rxs' (data ++ frame.payload) extent tid (!toggle) ∧
      rxs'.calculatedCrc = crcAdd CRC_INITIAL (data ++ frame.payload) ∧
      rxs'.transferTimestampUsec =
        if frame.startOfTransfer then frame.timestampUsec else rxs.transferTimestampUsec := by
  obtain ⟨mem', rxs', b, hw, hm', hc', _, hcrc', ht'⟩ := (hc.note frame).write hm he frame.payload
  refine ⟨mem', { rxs' with toggle := !rxs'.toggle }, ?_, hm',
    ⟨hc'.total, hc'.received, hc'.tid, hc'.index, by simp [hc'.toggle]⟩, ?_, ?_⟩
  · unfold rxSessionAcceptFrame
    simp [hw, heot]
  · rw [crcAdd_append, ← hcrc, ← rxSessionNote_crc (by simp [heot])]
    exact hcrc'
  · rw [← rxSessionNote_timestamp]
    exact ht'

/-- What remains of a truncated payload when its CRC is cut off. -/
theorem take_cut_crc (body : List Byte) (high low : Byte) (extent n : Nat)
    (hn : n = min extent (body.length + 2)) :
    ((body ++ [high, low]).take extent).take
      (if body.length + 2 - n < 2 then n - (2 - (body.length + 2 - n)) else n) =
      body.take extent := by
  rw [List.take_take]
  rcases Nat.le_total extent body.length with h | h
  · have hmin : min (if body.length + 2 - n < 2 then n - (2 - (body.length + 2 - n)) else n) extent =
        extent := by split <;> omega
    rw [hmin, List.take_append_of_le_length h]
  · have hmin : min (if body.length + 2 - n < 2 then n - (2 - (body.length + 2 - n)) else n) extent =
        body.length := by split <;> omega
    rw [hmin, List.take_left, List.take_of_length_le h]

/-- **The last frame hands the transfer over**, cut at the extent and without its CRC. -/
theorem rxSessionAcceptFrame_last (frame : RxFrameModel) {mem : Memory}
    {rxs : CanardInternalRxSession} {extent tid : Nat} {data body : List Byte} {toggle : Bool}
    (hm : mem.Ample) (he : 0 < extent) (hc : Collecting rxs data extent tid toggle)
    (hcrc : rxs.calculatedCrc = crcAdd CRC_INITIAL data)
    (hsot : frame.startOfTransfer = false) (heot : frame.endOfTransfer = true)
    (hbody : data ++ frame.payload = body ++ [crcHigh (crcAdd CRC_INITIAL body),
      crcLow (crcAdd CRC_INITIAL body)]) :
    ∃ mem' rxs' b, rxSessionAcceptFrame mem rxs frame extent = (mem', rxs', 1,
        some (rxInitTransferFromFrame frame rxs.transferTimestampUsec (body.take extent), some b)) ∧
      mem'.Ample := by
  obtain ⟨mem', rxs', b, hw, hm', hc', hb, hcrc', ht'⟩ := (hc.note frame).write hm he frame.payload
  -- a payload followed by its own CRC leaves the residue
  have hresidue : rxs'.calculatedCrc = CRC_RESIDUE := by
    rw [hcrc', rxSessionNote_crc (by simp [hsot]), hcrc, ← crcAdd_append, hbody, crcAdd_append,
      crcAdd_self]
  have htime : rxs'.transferTimestampUsec = rxs.transferTimestampUsec := by
    rw [ht', rxSessionNote_timestamp, hsot]; rfl
  have htotal : rxs'.totalPayloadSize = body.length + 2 := by
    rw [hc'.total, hbody, List.length_append]; rfl
  have hlen : rxs'.received.length = min extent (body.length + 2) := by
    rw [hc'.received, List.length_take, ← hc'.total, htotal]
  have htransfer : rxSessionTransfer rxs' frame false =
      (rxInitTransferFromFrame frame rxs.transferTimestampUsec (body.take extent), some b) := by
    have hcut := take_cut_crc body (crcHigh (crcAdd CRC_INITIAL body))
      (crcLow (crcAdd CRC_INITIAL body)) extent _ hlen
    rw [← hbody, ← hc'.received] at hcut
    simp only [rxSessionTransfer, htotal, htime, hb, CRC_SIZE_BYTES, Bool.not_false, Bool.true_and,
      decide_eq_true_eq, hcut]
  refine ⟨(rxSessionRestart mem' { rxs' with payload := none }).1,
    (rxSessionRestart mem' { rxs' with payload := none }).2, b, ?_, rxSessionRestart_ample hm'⟩
  unfold rxSessionAcceptFrame
  simp [hw, heot, hsot, hresidue, htransfer]

/-- A transfer of one frame is handed over at once. -/
theorem rxSessionAcceptFrame_single (frame : RxFrameModel) {mem : Memory}
    {rxs : CanardInternalRxSession} {extent tid : Nat} {toggle : Bool}
    (hm : mem.Ample) (he : 0 < extent) (hc : Collecting rxs [] extent tid toggle)
    (hsot : frame.startOfTransfer = true) (heot : frame.endOfTransfer = true) :
    ∃ mem' rxs' b, rxSessionAcceptFrame mem rxs frame extent = (mem', rxs', 1,
        some (rxInitTransferFromFrame frame frame.timestampUsec (frame.payload.take extent), some b)) ∧
      mem'.Ample := by
  obtain ⟨mem', rxs', b, hw, hm', hc', hb, _, ht'⟩ := (hc.note frame).write hm he frame.payload
  have htime : rxs'.transferTimestampUsec = frame.timestampUsec := by
    rw [ht', rxSessionNote_timestamp, hsot]; rfl
  have htransfer : rxSessionTransfer rxs' frame true =
      (rxInitTransferFromFrame frame frame.timestampUsec (frame.payload.take extent), some b) := by
    have hrec : rxs'.received = frame.payload.take extent := by simpa using hc'.received
    simp only [rxSessionTransfer, htime, hb, Bool.not_true, Bool.false_and, Bool.false_eq_true,
      if_false, List.take_length, hrec]
  refine ⟨(rxSessionRestart mem' { rxs' with payload := none }).1,
    (rxSessionRestart mem' { rxs' with payload := none }).2, b, ?_, rxSessionRestart_ample hm'⟩
  unfold rxSessionAcceptFrame
  simp [hw, heot, hsot, htransfer]

/-! ## Frames on the bus -/

/-- The identifier of a service transfer, as a sum of its fields. -/
theorem txServiceCanId_eq {svc src dst prio : Nat} {req : Bool} (hsvc : svc ≤ CANARD_SERVICE_ID_MAX)
    (hsrc : src ≤ CANARD_NODE_ID_MAX) (hdst : dst ≤ CANARD_NODE_ID_MAX) :
    txMakeServiceSessionSpecifier svc req src dst ||| (prio <<< 26) =
      src + dst * 2 ^ 7 + svc * 2 ^ 14 + (if req then 1 else 0) * 2 ^ 24 + 2 ^ 25 + prio * 2 ^ 26 := by
  simp only [CANARD_SERVICE_ID_MAX, CANARD_NODE_ID_MAX] at hsvc hsrc hdst
  have hreq : (if req then 1 <<< 24 else 0) = (if req then 1 else 0) <<< 24 := by
    cases req <;> rfl
  unfold txMakeServiceSessionSpecifier
  have hbound : (if req then 1 else 0) ≤ 1 := by split <;> omega
  rw [hreq, BitField.or_shiftLeft dst 7 (by omega), BitField.or_shiftLeft svc 14 (by omega),
    BitField.or_shiftLeft _ 24 (by omega), BitField.or_shiftLeft 1 25 (by omega),
    BitField.or_shiftLeft prio 26 (by omega)]
  omega

/-- **The receiver reads the identifier back.** -/
theorem rxParseCanId_service {svc src dst prio : Nat} {req : Bool}
    (hsvc : svc ≤ CANARD_SERVICE_ID_MAX) (hsrc : src ≤ CANARD_NODE_ID_MAX)
    (hdst : dst ≤ CANARD_NODE_ID_MAX) (hne : src ≠ dst) :
    rxParseCanId (txMakeServiceSessionSpecifier svc req src dst ||| (prio <<< 26)) =
      (if req then .request else .response, svc, src, dst, true) := by
  rw [txServiceCanId_eq hsvc hsrc hdst]
  simp only [CANARD_SERVICE_ID_MAX, CANARD_NODE_ID_MAX] at hsvc hsrc hdst
  -- each field is read off the sum by itself
  generalize hid : src + dst * 2 ^ 7 + svc * 2 ^ 14 + (if req then 1 else 0) * 2 ^ 24 + 2 ^ 25 +
    prio * 2 ^ 26 = canId
  have hbound : (if req then 1 else 0) ≤ 1 := by split <;> omega
  have hsrc' : canId &&& CANARD_NODE_ID_MAX = src := by
    rw [show CANARD_NODE_ID_MAX = 2 ^ 7 - 1 from rfl, BitField.and_mask]; omega
  have hdst' : (canId >>> 7) &&& CANARD_NODE_ID_MAX = dst := by
    rw [show CANARD_NODE_ID_MAX = 2 ^ 7 - 1 from rfl, BitField.shiftRight_and_mask]; omega
  have hsvc' : (canId >>> 14) &&& CANARD_SERVICE_ID_MAX = svc := by
    rw [show CANARD_SERVICE_ID_MAX = 2 ^ 9 - 1 from rfl, BitField.shiftRight_and_mask]; omega
  have h25 : ¬ canId &&& (1 <<< 25) = 0 := by rw [BitField.and_flag_eq_zero]; omega
  have h23 : canId &&& (1 <<< 23) = 0 := by rw [BitField.and_flag_eq_zero]; omega
  have h24 : canId &&& (1 <<< 24) = 0 ↔ req = false := by
    rw [BitField.and_flag_eq_zero]
    cases req <;> simp at hid ⊢ <;> omega
  unfold rxParseCanId
  rw [if_neg h25]
  simp only [hsrc', hdst', hsvc', h23, ne_eq, hne, h24]
  cases req <;> simp

/-- The receiver reads the tail byte back. -/
theorem txMakeTailByte_parse (sot eot toggle : Bool) (tid : Nat) :
    decide (txMakeTailByte sot eot toggle tid &&& 128#8 ≠ 0#8) = sot ∧
      decide (txMakeTailByte sot eot toggle tid &&& 64#8 ≠ 0#8) = eot ∧
      decide (txMakeTailByte sot eot toggle tid &&& 32#8 ≠ 0#8) = toggle ∧
      (txMakeTailByte sot eot toggle tid &&& 31#8).toNat = tid % 32 := by
  have hmask : tid &&& CANARD_TRANSFER_ID_MAX = tid % 32 := BitField.and_mask tid 5
  unfold txMakeTailByte
  rw [hmask]
  have key : ∀ (m : Fin 32) (s e t : Bool),
      let b := (if s then 128#8 else 0#8) ||| (if e then 64#8 else 0#8) |||
        (if t then 32#8 else 0#8) ||| BitVec.ofNat 8 m.val
      decide (b &&& 128#8 ≠ 0#8) = s ∧ decide (b &&& 64#8 ≠ 0#8) = e ∧
        decide (b &&& 32#8 ≠ 0#8) = t ∧ (b &&& 31#8).toNat = m.val := by
    decide +kernel
  exact key ⟨tid % 32, Nat.mod_lt _ (by omega)⟩ sot eot toggle

/-- The frame model of a piece of a service transfer. -/
theorem rxTryParseFrame_tailed {f : CanardFrame} {kind : CanardTransferKind}
    {port src dst tid : Nat} {p : List Byte} {sot eot toggle : Bool}
    (hid : rxParseCanId f.extendedCanId = (kind, port, src, dst, true))
    (hsrc : src ≤ CANARD_NODE_ID_MAX) (hp : f.payload = p ++ [txMakeTailByte sot eot toggle tid])
    (hsot : sot = true → toggle = true) (h7 : eot = true ∨ 7 ≤ p.length)
    (h0 : (sot = true ∧ eot = true) ∨ 0 < p.length) :
    rxTryParseFrame f = some
      { timestampUsec := f.timestampUsec, priority := (f.extendedCanId >>> 26) &&& CANARD_PRIORITY_MAX,
        transferKind := kind, portId := port, sourceNodeId := src, destinationNodeId := dst,
        transferId := tid % 32, startOfTransfer := sot, endOfTransfer := eot, toggle := toggle,
        payload := p } := by
  obtain ⟨h1, h2, h3, h4⟩ := txMakeTailByte_parse sot eot toggle tid
  have hunset : src ≠ CANARD_NODE_ID_UNSET := by
    simp only [CANARD_NODE_ID_MAX, CANARD_NODE_ID_UNSET] at hsrc ⊢; omega
  have hstart : (!sot || toggle) = true := by cases sot <;> simp_all
  have hlong : (decide (7 ≤ p.length) || eot) = true := by
    rcases h7 with h | h <;> simp [h]
  have hfull : (decide (0 < p.length) || (sot && eot)) = true := by
    rcases h0 with h | h <;> simp [h]
  unfold rxTryParseFrame
  rw [hp, List.getLast?_concat, List.dropLast_concat]
  simp only [hid, h1, h2, h3, h4, hstart, hlong, hfull, hunset, ne_eq, not_false_iff, decide_true,
    Bool.or_true, Bool.and_self, if_true]

/-! ## One frame through the whole pipeline -/

/-- The subscription for a port, among those of its kind. -/
def CanardInstance.subscription (ins : CanardInstance) (kind : CanardTransferKind) (port : Nat) :
    Option CanardRxSubscription :=
  (ins.rxSubscriptions kind).find? (fun sub => sub.portId == port)

theorem rxDispatch_eq {mem mem' : Memory} {model : RxFrameModel} {sub sub' : CanardRxSubscription}
    {out : Int} {tr : Option RxTransfer}
    (hacc : rxAcceptFrame mem sub model 0 = (mem', sub', out, tr)) (hport : sub'.portId = sub.portId) :
    ∀ subs : List CanardRxSubscription, subs.find? (fun s => s.portId == model.portId) = some sub →
      ∃ subs', rxDispatch mem model 0 subs = (mem', subs', out, tr) ∧
        subs'.find? (fun s => s.portId == model.portId) = some sub' := by
  intro subs
  induction subs with
  | nil => intro h; simp at h
  | cons s subs ih =>
      intro h
      by_cases hs : s.portId = model.portId
      · rw [List.find?_cons_of_pos (by simp [hs])] at h
        obtain rfl := Option.some.inj h
        refine ⟨sub' :: subs, ?_, ?_⟩
        · rw [rxDispatch, if_pos hs, hacc]
        · rw [List.find?_cons_of_pos (by simp [hport, hs])]
      · rw [List.find?_cons_of_neg (by simp [hs])] at h
        obtain ⟨subs', h1, h2⟩ := ih h
        refine ⟨s :: subs', ?_, ?_⟩
        · rw [rxDispatch, if_neg hs, h1]
        · rw [List.find?_cons_of_neg (by simp [hs])]; exact h2

/-- A frame for this node goes to the subscription for its port and leaves the rest alone. -/
theorem canardRxAccept_eq {ins : CanardInstance} {frame : CanardFrame} {model : RxFrameModel}
    {sub sub' : CanardRxSubscription} {mem' : Memory} {out : Int} {tr : Option RxTransfer}
    (hid : frame.extendedCanId ≤ CAN_EXT_ID_MASK) (hparse : rxTryParseFrame frame = some model)
    (hdst : model.destinationNodeId = ins.nodeId)
    (hsub : ins.subscription model.transferKind model.portId = some sub)
    (hacc : rxAcceptFrame ins.memory sub model 0 = (mem', sub', out, tr))
    (hport : sub'.portId = sub.portId) :
    ∃ ins', canardRxAccept ins frame 0 = (ins', out, tr) ∧ ins'.memory = mem' ∧
      ins'.nodeId = ins.nodeId ∧ ins'.subscription model.transferKind model.portId = some sub' := by
  obtain ⟨subs', h1, h2⟩ := rxDispatch_eq hacc hport _ hsub
  refine ⟨{ ins with
      memory := mem'
      rxSubscriptions := fun k => if k = model.transferKind then subs' else ins.rxSubscriptions k },
    ?_, rfl, rfl, ?_⟩
  · unfold canardRxAccept
    rw [if_pos hid, hparse]
    dsimp only
    rw [if_pos (Or.inr hdst), h1]
  · unfold CanardInstance.subscription
    dsimp only
    rw [if_pos rfl]
    exact h2

/-- A session that is there already takes the frame. -/
theorem rxAcceptFrame_session {mem mem' : Memory} {sub : CanardRxSubscription} {model : RxFrameModel}
    {rxs rxs' : CanardInternalRxSession} {out : Int} {tr : Option RxTransfer}
    (hsrc : model.sourceNodeId ≤ CANARD_NODE_ID_MAX) (hses : sub.sessions model.sourceNodeId = some rxs)
    (hupd : rxSessionUpdate mem rxs model 0 sub.transferIdTimeoutUsec sub.extent =
      (mem', rxs', out, tr)) :
    rxAcceptFrame mem sub model 0 = (mem', sub.setSession model.sourceNodeId rxs', out, tr) := by
  unfold rxAcceptFrame
  rw [if_pos hsrc, hses]
  dsimp only
  rw [hupd]

/-- The first frame of a transfer creates the session it needs. -/
theorem rxAcceptFrame_create {mem mem' : Memory} {sub : CanardRxSubscription} {model : RxFrameModel}
    {rxs' : CanardInternalRxSession} {out : Int} {tr : Option RxTransfer} (hm : mem.Ample)
    (hsrc : model.sourceNodeId ≤ CANARD_NODE_ID_MAX) (hses : sub.sessions model.sourceNodeId = none)
    (hsot : model.startOfTransfer = true)
    (hupd : rxSessionUpdate { mem with next := mem.next + 1 } (rxSessionInit model 0) model 0
      sub.transferIdTimeoutUsec sub.extent = (mem', rxs', out, tr)) :
    rxAcceptFrame mem sub model 0 = (mem', sub.setSession model.sourceNodeId rxs', out, tr) := by
  unfold rxAcceptFrame
  rw [if_pos hsrc, hses]
  simp only [hsot, if_true, Memory.allocateSession, hm mem.next, Bool.not_false]
  rw [hupd]

/-! ## Where a transfer begins and where it goes on -/

/-- A session lets the first frame of transfer `tid`, arriving at time `t`, in: the
frame restarts it, or it waits for just this transfer. -/
def Ready (rxs : CanardInternalRxSession) (t tid extent timeout : Nat) : Prop :=
  timeout < t - rxs.transferTimestampUsec ∨
    (rxs.redundantTransportIndex = 0 ∧ 1 < rxComputeTransferIDDifference rxs.transferId tid) ∨
    (Collecting rxs [] extent tid true ∧ rxs.calculatedCrc = CRC_INITIAL)

theorem ready_init (model : RxFrameModel) (extent timeout : Nat) :
    Ready (rxSessionInit model 0) model.timestampUsec model.transferId extent timeout :=
  Or.inr (Or.inr ⟨⟨rfl, by simp [rxSessionInit], rfl, rfl, rfl⟩, rfl⟩)

theorem rxSessionUpdate_start (mem : Memory) (model : RxFrameModel)
    {rxs : CanardInternalRxSession} {extent timeout : Nat}
    (hr : Ready rxs model.timestampUsec model.transferId extent timeout)
    (hsot : model.startOfTransfer = true) (htoggle : model.toggle = true) :
    ∃ rxs₁, Collecting rxs₁ [] extent model.transferId true ∧
      rxs₁.calculatedCrc = CRC_INITIAL ∧
      rxSessionUpdate mem rxs model 0 timeout extent = rxSessionAcceptFrame mem rxs₁ model extent := by
  by_cases hn : rxNeedRestart rxs model 0 timeout = true
  · refine ⟨{ rxs with
        totalPayloadSize := 0, received := [], calculatedCrc := CRC_INITIAL,
        transferId := model.transferId, toggle := true, redundantTransportIndex := 0 },
      ⟨rfl, by simp, rfl, rfl, rfl⟩, rfl, ?_⟩
    unfold rxSessionUpdate
    simp [hn, hsot, htoggle]
  · rcases hr with h | ⟨hidx, h⟩ | ⟨hc, hcrc⟩
    · have hlt : rxs.transferTimestampUsec < model.timestampUsec := by omega
      exact absurd (by simp [rxNeedRestart, h, hlt]) hn
    · exact absurd (by simp [rxNeedRestart, hidx, hsot, h]) hn
    · refine ⟨rxs, hc, hcrc, ?_⟩
      unfold rxSessionUpdate
      simp [hn, htoggle, hc.index, hc.tid, hc.toggle]

theorem rxSessionUpdate_next (mem : Memory) (model : RxFrameModel) (timeout : Nat)
    {rxs : CanardInternalRxSession} {extent : Nat} {data : List Byte} {toggle : Bool}
    (hc : Collecting rxs data extent model.transferId toggle)
    (hsot : model.startOfTransfer = false) (htoggle : model.toggle = toggle)
    (htime : model.timestampUsec ≤ rxs.transferTimestampUsec + timeout) :
    rxSessionUpdate mem rxs model 0 timeout extent = rxSessionAcceptFrame mem rxs model extent := by
  have hn : rxNeedRestart rxs model 0 timeout = false := by
    have hlate : ¬ timeout < model.timestampUsec - rxs.transferTimestampUsec := by omega
    simp [rxNeedRestart, hsot, hlate]
  unfold rxSessionUpdate
  simp [hn, hc.index, hc.tid, hc.toggle, htoggle]

/-! ## A whole transfer -/

/-- Accept frames one after the other and collect the transfers that come out. -/
def canardRxFrames (ins : CanardInstance) : List CanardFrame → CanardInstance × List RxTransfer
  | [] => (ins, [])
  | f :: fs =>
    let (ins, _, tr) := canardRxAccept ins f 0
    let (ins, trs) := canardRxFrames ins fs
    (ins, tr.toList ++ trs)

/-- The parameters two ends of a service transfer agree on. -/
structure Route where
  canId : Nat
  kind : CanardTransferKind
  port : Nat
  src : Nat
  dst : Nat
  /-- The identifier is a valid one. -/
  canId_le : canId ≤ CAN_EXT_ID_MASK
  src_le : src ≤ CANARD_NODE_ID_MAX
  /-- The identifier says all the rest. -/
  parse : rxParseCanId canId = (kind, port, src, dst, true)

/-- `ins` is the destination of the route and subscribed to its port by `sub`. -/
structure Listening (ins : CanardInstance) (r : Route) (extent timeout : Nat)
    (sub : CanardRxSubscription) : Prop where
  node : ins.nodeId = r.dst
  memory : ins.memory.Ample
  found : ins.subscription r.kind r.port = some sub
  extent : sub.extent = extent
  timeout : sub.transferIdTimeoutUsec = timeout

/-- The transfer that comes out at the other end. -/
def Route.transfer (r : Route) (timestampUsec tid : Nat) (payload : List Byte) : CanardTransfer where
  timestampUsec := timestampUsec
  priority := (r.canId >>> 26) &&& CANARD_PRIORITY_MAX
  transferKind := r.kind
  portId := r.port
  remoteNodeId := r.src
  transferId := tid % 32
  payload := payload

/-- The model of a frame of the route. -/
def Route.model (r : Route) (timestampUsec tid : Nat) (sot eot toggle : Bool) (p : List Byte) :
    RxFrameModel where
  timestampUsec := timestampUsec
  priority := (r.canId >>> 26) &&& CANARD_PRIORITY_MAX
  transferKind := r.kind
  portId := r.port
  sourceNodeId := r.src
  destinationNodeId := r.dst
  transferId := tid % 32
  startOfTransfer := sot
  endOfTransfer := eot
  toggle := toggle
  payload := p

/-- A frame of the route goes to the session of its source. -/
theorem Listening.accept {ins : CanardInstance} {r : Route} {extent timeout tid : Nat}
    {sub : CanardRxSubscription} (hl : Listening ins r extent timeout sub) {f : CanardFrame}
    {p : List Byte} {sot eot toggle : Bool} (hid : f.extendedCanId = r.canId)
    (hp : f.payload = p ++ [txMakeTailByte sot eot toggle tid])
    (hsot : sot = true → toggle = true) (h7 : eot = true ∨ 7 ≤ p.length)
    (h0 : (sot = true ∧ eot = true) ∨ 0 < p.length)
    {mem' : Memory} {rxs' : CanardInternalRxSession} {out : Int} {tr : Option RxTransfer}
    (hm' : mem'.Ample)
    (hacc : rxAcceptFrame ins.memory sub (r.model f.timestampUsec tid sot eot toggle p) 0 =
      (mem', sub.setSession r.src rxs', out, tr)) :
    ∃ ins', canardRxAccept ins f 0 = (ins', out, tr) ∧
      Listening ins' r extent timeout (sub.setSession r.src rxs') := by
  have hparse := rxTryParseFrame_tailed (f := f) (by rw [hid]; exact r.parse) r.src_le hp hsot h7 h0
  rw [hid] at hparse
  obtain ⟨ins', h1, h2, h3, h4⟩ := canardRxAccept_eq (by rw [hid]; exact r.canId_le) hparse
    hl.node.symm hl.found hacc rfl
  exact ⟨ins', h1, ⟨h3.trans hl.node, h2 ▸ hm', h4, hl.extent, hl.timeout⟩⟩

theorem setSession_self (sub : CanardRxSubscription) (node : Nat) (rxs : CanardInternalRxSession) :
    (sub.setSession node rxs).sessions node = some rxs := by
  simp [CanardRxSubscription.setSession]

/-- The first frame of a transfer reaches a session that holds nothing yet, whether or
not there was one for its source. -/
theorem Listening.start {ins : CanardInstance} {r : Route} {extent timeout tid t : Nat}
    {sub : CanardRxSubscription} (hl : Listening ins r extent timeout sub)
    (hready : ∀ rxs, sub.sessions r.src = some rxs → Ready rxs t (tid % 32) extent timeout)
    (eot : Bool) (p : List Byte) :
    ∃ mem₁ rxs₁, mem₁.Ample ∧ Collecting rxs₁ [] extent (tid % 32) true ∧
      rxs₁.calculatedCrc = CRC_INITIAL ∧
      ∀ mem' rxs' out tr,
        rxSessionAcceptFrame mem₁ rxs₁ (r.model t tid true eot true p) extent =
          (mem', rxs', out, tr) →
        rxAcceptFrame ins.memory sub (r.model t tid true eot true p) 0 =
          (mem', sub.setSession r.src rxs', out, tr) := by
  cases hses : sub.sessions r.src with
  | some rxs =>
      obtain ⟨rxs₁, hc, hcrc, hupd⟩ := rxSessionUpdate_start ins.memory
        (r.model t tid true eot true p) (hready rxs hses) rfl rfl
      refine ⟨ins.memory, rxs₁, hl.memory, hc, hcrc, ?_⟩
      intro mem' rxs' out tr h
      refine rxAcceptFrame_session r.src_le hses ?_
      rw [hl.timeout, hl.extent, hupd, h]
  | none =>
      obtain ⟨rxs₁, hc, hcrc, hupd⟩ := rxSessionUpdate_start
        { ins.memory with next := ins.memory.next + 1 } (r.model t tid true eot true p)
        (ready_init (r.model t tid true eot true p) extent timeout) rfl rfl
      refine ⟨{ ins.memory with next := ins.memory.next + 1 }, rxs₁, hl.memory, hc, hcrc,
        fun mem' rxs' out tr h => ?_⟩
      refine rxAcceptFrame_create hl.memory r.src_le hses rfl ?_
      rw [hl.timeout, hl.extent, hupd, h]

/--
**The rest of a multi-frame transfer.**

The session already holds `data`; `l` is still to come, in pieces. The induction is
over the pieces: a full one is collected, the last one completes the transfer.
-/
theorem canardRxFrames_rest {r : Route} {extent timeout tid t₀ : Nat} (he : 0 < extent)
    {body l : List Byte} {ps : List (List Byte)} (hps : Pieces l ps) :
    ∀ {frames : List CanardFrame} {ins : CanardInstance} {sub : CanardRxSubscription}
      {rxs : CanardInternalRxSession} {data : List Byte} {toggle : Bool},
      frames.map CanardFrame.payload = txTailed tid false toggle ps →
      (∀ f ∈ frames, f.extendedCanId = r.canId ∧ f.timestampUsec ≤ t₀ + timeout) →
      Listening ins r extent timeout sub → sub.sessions r.src = some rxs →
      Collecting rxs data extent (tid % 32) toggle →
      rxs.calculatedCrc = crcAdd CRC_INITIAL data → rxs.transferTimestampUsec = t₀ →
      data ++ l = body ++ [crcHigh (crcAdd CRC_INITIAL body), crcLow (crcAdd CRC_INITIAL body)] →
      ∃ ins' b, canardRxFrames ins frames =
        (ins', [(r.transfer t₀ tid (body.take extent), some b)]) := by
  induction hps with
  | @last p hne hlen =>
      intro frames ins sub rxs data toggle hf hall hl hses hc hcrc ht hbody
      obtain ⟨f, rfl, hfp⟩ : ∃ f, frames = [f] ∧
          f.payload = p ++ [txMakeTailByte false true toggle tid] := by
        obtain ⟨f, fs, rfl, hfp, hnil⟩ := List.map_eq_cons_iff.mp hf
        exact ⟨f, by rw [List.map_eq_nil_iff.mp hnil], hfp⟩
      obtain ⟨hid, htime⟩ := hall f (by simp)
      -- the last piece closes the payload with its CRC
      obtain ⟨mem', rxs', b, hacc, hm'⟩ := rxSessionAcceptFrame_last
        (r.model f.timestampUsec tid false true toggle p) hl.memory he hc hcrc rfl rfl hbody
      have hupd := rxSessionUpdate_next ins.memory
        (r.model f.timestampUsec tid false true toggle p) timeout hc rfl rfl
        (by rw [ht]; exact htime)
      obtain ⟨ins', h1, _⟩ := hl.accept hid hfp (by simp) (Or.inl rfl)
        (Or.inr (List.length_pos_iff.mpr hne)) hm'
        (rxAcceptFrame_session r.src_le hses (by rw [hl.timeout, hl.extent, hupd, hacc]))
      exact ⟨ins', b, by simp only [canardRxFrames, h1, ht]; rfl⟩
  | @full p l ps hlen hps ih =>
      intro frames ins sub rxs data toggle hf hall hl hses hc hcrc ht hbody
      rw [txTailed_cons hps.ne_nil] at hf
      obtain ⟨f, fs, rfl, hfp, hrest⟩ := List.map_eq_cons_iff.mp hf
      obtain ⟨hid, htime⟩ := hall f (by simp)
      -- a full piece is collected; the toggle is now that of the pieces to come
      obtain ⟨mem', rxs', hacc, hm', hc', hcrc', ht'⟩ := rxSessionAcceptFrame_more
        (r.model f.timestampUsec tid false false toggle p) hl.memory he hc hcrc rfl
      have hupd := rxSessionUpdate_next ins.memory
        (r.model f.timestampUsec tid false false toggle p) timeout hc rfl rfl
        (by rw [ht]; exact htime)
      have hmtu : FD_MTU = 63 := rfl
      obtain ⟨ins', h1, hl'⟩ := hl.accept hid hfp (by simp) (Or.inr (by omega)) (Or.inr (by omega))
        hm' (rxAcceptFrame_session r.src_le hses (by rw [hl.timeout, hl.extent, hupd, hacc]))
      obtain ⟨ins'', b, h2⟩ := ih hrest (fun g hg => hall g (by simp [hg])) hl'
        (setSession_self _ _ _) hc' hcrc' (ht'.trans ht) (by rw [← hbody, ← List.append_assoc]; rfl)
      exact ⟨ins'', b, by simp only [canardRxFrames, h1, h2]; rfl⟩

/-- The zero bytes that the frames of a payload of `n` bytes carry behind it. -/
def txPaddingOf (n : Nat) : Nat :=
  if n ≤ FD_MTU then txRoundFramePayloadSizeUp (n + 1) - n - 1 else txPadding (n + 2)

/-- What the frames of a transfer hold before their tail bytes and the CRC. -/
def txPadded (payload : List Byte) : List Byte :=
  payload ++ List.replicate (txPaddingOf payload.length) 0#8

/--
**A transfer arrives.**

The frames of a transfer, received in order, the last at most one transfer-ID
timeout after the first, by a session that is ready for the transfer, yield that one
transfer: the padded payload, cut at the extent.
-/
theorem canardRxFrames_transfer {r : Route} {extent timeout t₀ : Nat} (he : 0 < extent)
    {tr : CanardTransfer} {frames : List CanardFrame} {ins : CanardInstance}
    {sub : CanardRxSubscription}
    (hf : frames.map CanardFrame.payload =
      (txTransferFrames FD_MTU r.canId tr).map CanardFrame.payload)
    (hall : ∀ f ∈ frames, f.extendedCanId = r.canId ∧ f.timestampUsec ≤ t₀ + timeout)
    (hfirst : (frames.head?.map CanardFrame.timestampUsec) = some t₀)
    (hl : Listening ins r extent timeout sub)
    (hready : ∀ rxs, sub.sessions r.src = some rxs →
      Ready rxs t₀ (tr.transferId % 32) extent timeout) :
    ∃ ins' b, canardRxFrames ins frames =
      (ins', [(r.transfer t₀ tr.transferId ((txPadded tr.payload).take extent), some b)]) := by
  unfold txTransferFrames at hf
  have hmap : (CanardFrame.payload ∘ fun p => CanardFrame.mk tr.timestampUsec r.canId p) = id := rfl
  rw [List.map_map, hmap, List.map_id] at hf
  by_cases hlen : tr.payload.length ≤ FD_MTU
  · -- a single frame
    rw [if_pos hlen] at hf
    obtain ⟨f, fs, rfl, hfp, hnil⟩ := List.map_eq_cons_iff.mp hf
    obtain rfl := List.map_eq_nil_iff.mp hnil
    have ht : f.timestampUsec = t₀ := by simpa using hfirst
    have hpad : txPadded tr.payload = tr.payload ++ List.replicate
        (txRoundFramePayloadSizeUp (tr.payload.length + 1) - tr.payload.length - 1) 0#8 := by
      rw [txPadded, txPaddingOf, if_pos hlen]
    rw [txSingleFrame, ← hpad] at hfp
    obtain ⟨mem₁, rxs₁, hm₁, hc, hcrc, hstart⟩ := hl.start (t := f.timestampUsec)
      (by rw [ht]; exact hready) true (txPadded tr.payload)
    obtain ⟨mem', rxs', b, hacc, hm'⟩ := rxSessionAcceptFrame_single
      (r.model f.timestampUsec tr.transferId true true true (txPadded tr.payload)) hm₁ he hc rfl rfl
    obtain ⟨ins', h1, _⟩ := hl.accept (hall f (by simp)).1 hfp (fun _ => rfl) (Or.inl rfl)
      (Or.inl ⟨rfl, rfl⟩) hm' (hstart _ _ _ _ hacc)
    exact ⟨ins', b, by simp only [canardRxFrames, h1, ← ht]; rfl⟩
  · -- several frames, of which the first is not the last
    rw [if_neg hlen] at hf
    obtain ⟨ps, hps, htail⟩ := txMultiFrame_spec tr.transferId tr.payload
    have hpad : txPadded tr.payload = tr.payload ++ List.replicate
        (txPadding (tr.payload.length + 2)) 0#8 := by
      rw [txPadded, txPaddingOf, if_neg hlen]
    rw [← hpad] at hps
    rw [htail] at hf
    generalize hl' : txPadded tr.payload ++ [crcHigh (crcAdd CRC_INITIAL (txPadded tr.payload)),
      crcLow (crcAdd CRC_INITIAL (txPadded tr.payload))] = l at hps
    have hmtu : FD_MTU = 63 := rfl
    cases hps with
    | last hne hshort =>
        exfalso
        -- one piece would be longer than the MTU
        have hlong := congrArg List.length hl'
        rw [hpad] at hlong
        simp only [List.length_append, List.length_cons] at hlong
        omega
    | @full p l ps hp hps =>
        rw [txTailed_cons hps.ne_nil] at hf
        obtain ⟨f, fs, rfl, hfp, hrest⟩ := List.map_eq_cons_iff.mp hf
        have ht : f.timestampUsec = t₀ := by simpa using hfirst
        obtain ⟨mem₁, rxs₁, hm₁, hc, hcrc, hstart⟩ := hl.start (t := f.timestampUsec)
          (by rw [ht]; exact hready) false p
        obtain ⟨mem', rxs', hacc, hm', hc', hcrc', ht'⟩ := rxSessionAcceptFrame_more
          (r.model f.timestampUsec tr.transferId true false true p) hm₁ he hc hcrc rfl
        obtain ⟨ins', h1, hl₁⟩ := hl.accept (hall f (by simp)).1 hfp (fun _ => rfl)
          (Or.inr (by omega)) (Or.inr (by omega)) hm' (hstart _ _ _ _ hacc)
        obtain ⟨ins'', b, h2⟩ := canardRxFrames_rest he hps hrest
          (fun g hg => hall g (by simp [hg])) hl₁ (setSession_self _ _ _) hc' hcrc'
          (ht'.trans ht) hl'.symm
        exact ⟨ins'', b, by simp only [canardRxFrames, h1, h2]; rfl⟩

end Wlmio.Canard
