import Wlmio.Canard.PushAssertions
import Wlmio.Proof.Assertions
import Wlmio.Proof.Transport
import Mathlib.Data.List.Induction

/-!
# What is queued can be read back

Every frame in the queue comes from a push, and `rxTryParseFrame` reads from it what the
transfer said: its kind and priority, the port, both nodes and the transfer-ID, for every MTU
that the application sets and also for a node without a name (`queue_reads_back`). What it
does not read is a service transfer that a node addresses to itself.

`identifiers_agree` is the other direction of this: two transfers have one identifier when
they agree in all of it but the transfer-ID, and only then.
-/

namespace Wlmio.Proof

open Canard

/-! ## Frames of any MTU -/

/-- A frame that is not filled up is the last one. -/
theorem txFramePayloadSize_cases {mtu : Nat} (hmtu : mtu ≤ 63) (remaining : Nat) :
    txFramePayloadSize mtu remaining = mtu ∨
      (remaining < mtu ∧ remaining ≤ txFramePayloadSize mtu remaining) := by
  unfold txFramePayloadSize
  dsimp only
  by_cases hr : remaining < mtu
  · obtain ⟨_, hle⟩ := @txRoundFramePayloadSizeUpAsserted_eq (remaining + 1) (by omega)
    rw [if_pos hr]
    exact .inr ⟨hr, by omega⟩
  · rw [if_neg hr]
    exact .inl rfl

theorem txGetPresentationLayerMTU_range (ins : CanardInstance) :
    7 ≤ txGetPresentationLayerMTU ins ∧ txGetPresentationLayerMTU ins ≤ 63 := by
  have htable : ∀ n, n ≤ 64 → 8 ≤ n →
      7 ≤ CanardCANDLCToLength.getD (CanardCANLengthToDLC.getD n 0) 0 - 1 := by decide
  have hclassic : CANARD_MTU_CAN_CLASSIC = 8 := rfl
  have hmax : CanardCANLengthToDLC.length - 1 = 64 := rfl
  refine ⟨?_, (txGetPresentationLayerMTU_bounds ins).2⟩
  unfold txGetPresentationLayerMTU
  dsimp only
  rw [hmax]
  split
  · decide
  · split
    · exact htable _ (by omega) (by omega)
    · decide

/-- What the receiver wants of a frame, it gets from each iteration of the loop. -/
theorem txNextFrame_wellFormed {mtu : Nat} (hlow : 7 ≤ mtu) (hmtu : mtu ≤ 63) (tid : Nat)
    {payload : List Byte} {v : TxLoop} (hoffset : v.offset < payload.length + CRC_SIZE_BYTES)
    (htoggle : v.startOfTransfer = true → v.toggle = true) :
    WellFormed tid (txNextFrame mtu tid payload v).1 := by
  have hcrc : CRC_SIZE_BYTES = 2 := rfl
  have hsize := txFramePayloadSize_cases hmtu (payload.length + CRC_SIZE_BYTES - v.offset)
  have hone : v.offset = payload.length + 1 →
      txFramePayloadSize mtu (payload.length + CRC_SIZE_BYTES - v.offset) = 1 := by
    intro heq
    rw [show payload.length + CRC_SIZE_BYTES - v.offset = 1 by omega]
    exact txFramePayloadSize_one (by omega)
  unfold txNextFrame
  dsimp only
  generalize txFramePayloadSize mtu (payload.length + CRC_SIZE_BYTES - v.offset) = size at hsize hone ⊢
  have hfilled := @txNextFrame_filled (size + 1) (Nat.succ_pos size) payload v hoffset
    (by rw [Nat.add_sub_cancel]; exact hone)
  rw [Nat.add_sub_cancel] at hfilled
  have hlen : ((payload.drop v.offset).take size).length = min size (payload.length - v.offset) := by
    rw [List.length_take, List.length_drop]
  -- a frame that is too short for the middle of a transfer holds the whole CRC
  have hend : size < 7 → payload.length + CRC_SIZE_BYTES ≤
      (if payload.length ≤ v.offset + ((payload.drop v.offset).take size).length then
        txSealFrame size payload.length ((payload.drop v.offset).take size)
          (v.offset + ((payload.drop v.offset).take size).length) v.crc
      else ((payload.drop v.offset).take size,
        v.offset + ((payload.drop v.offset).take size).length, v.crc)).2.1 := by
    intro hshort
    have hlast := hsize.resolve_left (by omega)
    rw [if_pos (by omega)]
    by_cases hin : v.offset ≤ payload.length
    · rw [show v.offset + ((payload.drop v.offset).take size).length = payload.length by omega,
        txSealFrame_both size payload.length _ v.crc (by omega)]
      exact le_refl _
    · have heq : v.offset = payload.length + 1 := by omega
      rw [hone heq, heq, List.drop_of_length_le (by omega), List.take_nil]
      exact (congrArg (fun r => r.2.1) (@txSealFrame_low payload.length v.crc)).ge
  revert hfilled hend
  generalize (if payload.length ≤ v.offset + ((payload.drop v.offset).take size).length then
      txSealFrame size payload.length ((payload.drop v.offset).take size)
        (v.offset + ((payload.drop v.offset).take size).length) v.crc
    else ((payload.drop v.offset).take size,
      v.offset + ((payload.drop v.offset).take size).length, v.crc)) = r
  intro hfilled hend
  refine ⟨r.1, _, _, _, rfl, htoggle, ?_, .inr (by omega)⟩
  by_cases hshort : size < 7
  · exact .inl (decide_eq_true (hend hshort))
  · exact .inr (by omega)

theorem txFrames_wellFormed {mtu : Nat} (hlow : 7 ≤ mtu) (hmtu : mtu ≤ 63) (tid : Nat)
    (payload : List Byte) : ∀ (fuel : Nat) (v : TxLoop),
      (v.startOfTransfer = true → v.toggle = true) →
      ∀ q ∈ txFrames mtu tid payload fuel v, WellFormed tid q := by
  intro fuel
  induction fuel with
  | zero =>
      intro v _ q hq
      exact absurd hq List.not_mem_nil
  | succ fuel ih =>
      intro v htoggle q hq
      unfold txFrames at hq
      by_cases hoffset : v.offset < payload.length + CRC_SIZE_BYTES
      · rw [if_pos hoffset] at hq
        rcases List.mem_cons.mp hq with rfl | hq
        · exact txNextFrame_wellFormed hlow hmtu tid hoffset htoggle
        · exact ih (txNextFrame mtu tid payload v).2 (fun h => absurd h Bool.false_ne_true) q hq
      · rw [if_neg hoffset] at hq
        cases hq

/-- **What is sent is valid**, whatever the MTU; and it is one frame if it fits. -/
theorem txTransferFrames_valid {mtu canId : Nat} (hlow : 7 ≤ mtu) (hmtu : mtu ≤ 63)
    {tr : CanardTransfer} {f : CanardFrame} (hf : f ∈ txTransferFrames mtu canId tr) :
    f.extendedCanId = canId ∧ f.timestampUsec = tr.timestampUsec ∧
      WellFormed tr.transferId f.payload ∧ (tr.payload.length ≤ mtu →
        ∃ p, f.payload = p ++ [txMakeTailByte true true true tr.transferId]) := by
  unfold txTransferFrames at hf
  obtain ⟨q, hq, rfl⟩ := List.mem_map.mp hf
  refine ⟨rfl, rfl, ?_⟩
  dsimp only
  by_cases hlen : tr.payload.length ≤ mtu
  · rw [if_pos hlen] at hq
    rw [List.mem_singleton.mp hq]
    exact ⟨⟨_, true, true, true, rfl, fun _ => rfl, .inl rfl, .inl ⟨rfl, rfl⟩⟩, fun _ => ⟨_, rfl⟩⟩
  · rw [if_neg hlen] at hq
    exact ⟨txFrames_wellFormed hlow hmtu _ _ _ _ (fun _ => rfl) q hq, fun h => absurd h hlen⟩

/-- A node without a name sends nothing that does not fit a frame. -/
theorem txMakeCANID_anonymous {tr : CanardTransfer} {localNodeId mtu canId : Nat}
    (h : txMakeCANID tr localNodeId mtu = some canId) (hanon : ¬ localNodeId ≤ CANARD_NODE_ID_MAX) :
    tr.payload.length ≤ mtu := by
  by_contra hlong
  unfold txMakeCANID at h
  simp only [if_neg hanon, if_neg hlong, ite_self] at h
  cases h

/-! ## Reading them -/

/-- What the receiver makes of a valid frame under a valid identifier. -/
def Reads (frame : CanardFrame) (node : Nat) (tr : CanardTransfer) : Prop :=
  ∃ model, rxTryParseFrame frame = some model ∧ model.timestampUsec = tr.timestampUsec ∧
    model.priority = tr.priority ∧ model.transferKind = tr.transferKind ∧
    model.portId = tr.portId ∧ model.sourceNodeId = sourceOf node ∧
    model.destinationNodeId = tr.remoteNodeId ∧ model.transferId = tr.transferId % 32

theorem rxTryParseFrame_wellFormed {f : CanardFrame} {kind : CanardTransferKind}
    {port src dst tid : Nat} {valid : Bool}
    (hid : rxParseCanId f.extendedCanId = (kind, port, src, dst, valid))
    (hw : WellFormed tid f.payload)
    (hsrc : src ≤ CANARD_NODE_ID_MAX ∨ ∃ p, f.payload = p ++ [txMakeTailByte true true true tid]) :
    if valid then ∃ model, rxTryParseFrame f = some model ∧ model.timestampUsec = f.timestampUsec ∧
        model.priority = (f.extendedCanId >>> 26) &&& CANARD_PRIORITY_MAX ∧
        model.transferKind = kind ∧ model.portId = port ∧ model.sourceNodeId = src ∧
        model.destinationNodeId = dst ∧ model.transferId = tid % 32
    else rxTryParseFrame f = none := by
  -- the frame is one that may come from this source
  obtain ⟨p, sot, eot, toggle, hp, hsot, h7, h0, hanon⟩ : ∃ p sot eot toggle,
      f.payload = p ++ [txMakeTailByte sot eot toggle tid] ∧ (sot = true → toggle = true) ∧
      (eot = true ∨ 7 ≤ p.length) ∧ ((sot = true ∧ eot = true) ∨ 0 < p.length) ∧
      ((sot = true ∧ eot = true) ∨ src ≠ CANARD_NODE_ID_UNSET) := by
    rcases hsrc with hsrc | ⟨p, hp⟩
    · obtain ⟨p, sot, eot, toggle, hp, hsot, h7, h0⟩ := hw
      refine ⟨p, sot, eot, toggle, hp, hsot, h7, h0, .inr (fun heq => ?_)⟩
      rw [heq] at hsrc
      exact absurd hsrc (by decide)
    · exact ⟨p, true, true, true, hp, fun _ => rfl, .inl rfl, .inl ⟨rfl, rfl⟩, .inl ⟨rfl, rfl⟩⟩
  obtain ⟨h1, h2, h3, h4⟩ := txMakeTailByte_parse sot eot toggle tid
  have hstart : (!sot || toggle) = true := by
    cases sot with
    | false => rfl
    | true => exact hsot rfl
  have hlong : (decide (7 ≤ p.length) || eot) = true := by
    rcases h7 with h | h
    · rw [h, Bool.or_true]
    · rw [decide_eq_true h, Bool.true_or]
  have hfull : (decide (0 < p.length) || (sot && eot)) = true := by
    rcases h0 with h | h
    · rw [h.1, h.2, Bool.and_true, Bool.or_true]
    · rw [decide_eq_true h, Bool.true_or]
  have hnamed : ((sot && eot) || decide (src ≠ CANARD_NODE_ID_UNSET)) = true := by
    rcases hanon with h | h
    · rw [h.1, h.2, Bool.and_true, Bool.true_or]
    · rw [decide_eq_true h, Bool.or_true]
  unfold rxTryParseFrame
  rw [hp, List.getLast?_concat, List.dropLast_concat]
  cases valid with
  | false => simp only [hid, Bool.false_and, Bool.false_eq_true, if_false]
  | true =>
      simp only [hid, h1, h2, h3, h4, hstart, hlong, hfull, hnamed, Bool.and_self, if_true]
      exact ⟨_, rfl, rfl, rfl, rfl, rfl, rfl, rfl, rfl⟩

/-- **A frame of a transfer** is read as such. -/
theorem frame_reads {ins : CanardInstance} {tr : CanardTransfer} {canId : Nat}
    (hid : txMakeCANID tr ins.nodeId (txGetPresentationLayerMTU ins) = some canId) {f : CanardFrame}
    (hf : f ∈ txTransferFrames (txGetPresentationLayerMTU ins) canId tr) :
    if tr.transferKind = .message ∨ ins.nodeId ≠ tr.remoteNodeId then Reads f ins.nodeId tr
    else rxTryParseFrame f = none := by
  obtain ⟨hlow, hhigh⟩ := txGetPresentationLayerMTU_range ins
  obtain ⟨hcan, htime, hw, hsingle⟩ := txTransferFrames_valid hlow hhigh hf
  obtain ⟨_, hparse, hprio⟩ := txMakeCANID_parse hid
  rw [← hcan] at hparse hprio
  have hsource : sourceOf ins.nodeId ≤ CANARD_NODE_ID_MAX ∨
      ∃ p, f.payload = p ++ [txMakeTailByte true true true tr.transferId] := by
    by_cases hnamed : ins.nodeId ≤ CANARD_NODE_ID_MAX
    · unfold sourceOf
      rw [if_pos hnamed]
      exact .inl hnamed
    · exact .inr (hsingle (txMakeCANID_anonymous hid hnamed))
  have hread := rxTryParseFrame_wellFormed hparse hw hsource
  by_cases hvalid : tr.transferKind = .message ∨ ins.nodeId ≠ tr.remoteNodeId
  · rw [if_pos (decide_eq_true hvalid)] at hread
    rw [if_pos hvalid]
    obtain ⟨model, hmodel, ht, hp, hrest⟩ := hread
    exact ⟨model, hmodel, ht.trans htime, hp.trans hprio, hrest⟩
  · rw [if_neg (by rw [decide_eq_true_eq]; exact hvalid)] at hread
    rw [if_neg hvalid]
    exact hread

/-! ## The queue -/

theorem canardTxPush_invalid {ins : CanardInstance} {tr : CanardTransfer}
    (h : txMakeCANID tr ins.nodeId (txGetPresentationLayerMTU ins) = none) (room : Nat) :
    canardTxPush ins tr room = (ins, -CANARD_ERROR_INVALID_ARGUMENT) := by
  unfold canardTxPush
  simp only [h]

theorem canardTxPush_some {ins : CanardInstance} {tr : CanardTransfer} {canId : Nat}
    (h : txMakeCANID tr ins.nodeId (txGetPresentationLayerMTU ins) = some canId)
    {frames : List CanardFrame}
    (hframes : txTransferFrames (txGetPresentationLayerMTU ins) canId tr = frames) (room : Nat) :
    canardTxPush ins tr room = if frames.length ≤ room then
        ({ ins with txQueue := txInsert ins.txQueue canId frames }, (frames.length : Int))
      else (ins, -CANARD_ERROR_OUT_OF_MEMORY) := by
  subst hframes
  unfold canardTxPush
  simp only [h]

/-- What an operation adds to the queue are the frames of a transfer. -/
theorem operate_queue (ins : CanardInstance) (op : Operation) {f : CanardFrame}
    (hf : f ∈ (operate ins op).1.txQueue) : f ∈ ins.txQueue ∨ ∃ tr room canId,
      op = .call (.push tr room) ∧ 0 < (canardTxPush ins tr room).2 ∧
      txMakeCANID tr ins.nodeId (txGetPresentationLayerMTU ins) = some canId ∧
      f ∈ txTransferFrames (txGetPresentationLayerMTU ins) canId tr := by
  cases op with
  | setMtu mtuBytes => exact .inl hf
  | setNodeId nodeId => exact .inl hf
  | call c =>
      have hf : f ∈ (ins.call c).1.txQueue := hf
      by_cases hpush : ∃ tr room, c = .push tr room
      · obtain ⟨tr, room, rfl⟩ := hpush
        have hf : f ∈ (canardTxPush ins tr room).1.txQueue := hf
        rcases hid : txMakeCANID tr ins.nodeId (txGetPresentationLayerMTU ins) with _ | canId
        · rw [canardTxPush_invalid hid] at hf
          exact .inl hf
        · by_cases hroom : (txTransferFrames (txGetPresentationLayerMTU ins) canId tr).length ≤ room
          · rw [canardTxPush_some hid rfl, if_pos hroom] at hf
            have hf : f ∈ txInsert ins.txQueue canId
                (txTransferFrames (txGetPresentationLayerMTU ins) canId tr) := hf
            rw [txInsert_eq] at hf
            rcases List.mem_append.mp ((StableQueue.insertBlock_perm canId _ _).subset hf) with hf | hf
            · exact .inl hf
            · refine .inr ⟨tr, room, canId, rfl, ?_, hid, hf⟩
              rw [canardTxPush_some hid rfl, if_pos hroom]
              exact Int.natCast_pos.mpr (List.length_pos_of_mem hf)
          · rw [canardTxPush_some hid rfl, if_neg hroom] at hf
            exact .inl hf
      · by_cases hpop : c = .pop
        · subst hpop
          exact .inl (List.mem_of_mem_tail hf)
        · rw [call_queue ins (fun tr room heq => hpush ⟨tr, room, heq⟩) hpop] at hf
          exact .inl hf

theorem operateAll_snoc (ins : CanardInstance) (ops : List Operation) (op : Operation) :
    (operateAll ins (ops ++ [op])).1 = (operate (operateAll ins ops).1 op).1 := by
  induction ops generalizing ins with
  | nil => rfl
  | cons o ops ih => exact ih (operate ins o).1

/-- **What is queued can be read back**, at any time in any run. -/
theorem queue_reads_back {ins : CanardInstance} (hempty : ins.txQueue = []) (ops : List Operation)
    {f : CanardFrame} (hf : f ∈ (operateAll ins ops).1.txQueue) :
    ∃ before tr room, before ++ [.call (.push tr room)] <+: ops ∧
      0 < (canardTxPush (operateAll ins before).1 tr room).2 ∧
      if tr.transferKind = .message ∨ (operateAll ins before).1.nodeId ≠ tr.remoteNodeId then
        Reads f (operateAll ins before).1.nodeId tr
      else rxTryParseFrame f = none := by
  induction ops using List.reverseRecOn with
  | nil =>
      rw [show (operateAll ins []).1 = ins from rfl, hempty] at hf
      cases hf
  | append_singleton ops op ih =>
      rw [operateAll_snoc] at hf
      rcases operate_queue _ op hf with hf | ⟨tr, room, canId, rfl, hpos, hid, hf⟩
      · obtain ⟨before, tr, room, hprefix, hrest⟩ := ih hf
        exact ⟨before, tr, room, hprefix.trans (List.prefix_append _ _), hrest⟩
      · exact ⟨ops, tr, room, List.prefix_rfl, hpos, frame_reads hid hf⟩

/-- What a node without a name says is read as from nobody. -/
theorem queue_reads_back_message :
    ∃ before tr room,
      before ++ [.call (.push tr room)] <+:
        [.call (.push (messageTransfer CANARD_NODE_ID_UNSET 3 9#8) 1)] ∧
      0 < (canardTxPush (operateAll silentInstance before).1 tr room).2 ∧
      if tr.transferKind = .message ∨
          (operateAll silentInstance before).1.nodeId ≠ tr.remoteNodeId then
        Reads ⟨0, 23094361, [9#8, 227#8]⟩ (operateAll silentInstance before).1.nodeId tr
      else rxTryParseFrame ⟨0, 23094361, [9#8, 227#8]⟩ = none :=
  queue_reads_back rfl _ (List.mem_singleton.mpr rfl)

/-- **Two transfers have one identifier when they agree in all that it says**, and only then. -/
theorem identifiers_agree {tr tr' : CanardTransfer} {node node' mtu mtu' canId canId' : Nat}
    (hnode : node ≤ CANARD_NODE_ID_MAX) (hnode' : node' ≤ CANARD_NODE_ID_MAX)
    (h : txMakeCANID tr node mtu = some canId) (h' : txMakeCANID tr' node' mtu' = some canId') :
    canId = canId' ↔ tr.priority = tr'.priority ∧ tr.transferKind = tr'.transferKind ∧
      tr.portId = tr'.portId ∧ node = node' ∧ tr.remoteNodeId = tr'.remoteNodeId := by
  obtain ⟨_, hparse, hprio⟩ := txMakeCANID_parse h
  obtain ⟨_, hparse', hprio'⟩ := txMakeCANID_parse h'
  refine ⟨?_, fun ⟨hp, hk, hport, hn, hr⟩ => ?_⟩
  · intro heq
    subst heq
    have hsame := hparse.symm.trans hparse'
    simp only [Prod.mk.injEq] at hsame
    obtain ⟨hk, hport, hs, hr, _⟩ := hsame
    unfold sourceOf at hs
    rw [if_pos hnode, if_pos hnode'] at hs
    exact ⟨hprio.symm.trans hprio', hk, hport, hs, hr⟩
  · subst hn
    rw [txMakeCANID_congr hnode hk hport hr hp mtu mtu', h'] at h
    exact (Option.some.inj h).symm

theorem identifiers_agree_message :
    (6317061 : Nat) = 6317062 ↔
      (messageTransfer CANARD_NODE_ID_UNSET 3 9#8).priority =
        (messageTransfer CANARD_NODE_ID_UNSET 4 7#8).priority ∧
      (messageTransfer CANARD_NODE_ID_UNSET 3 9#8).transferKind =
        (messageTransfer CANARD_NODE_ID_UNSET 4 7#8).transferKind ∧
      (messageTransfer CANARD_NODE_ID_UNSET 3 9#8).portId =
        (messageTransfer CANARD_NODE_ID_UNSET 4 7#8).portId ∧
      5 = 6 ∧ (messageTransfer CANARD_NODE_ID_UNSET 3 9#8).remoteNodeId =
        (messageTransfer CANARD_NODE_ID_UNSET 4 7#8).remoteNodeId :=
  @identifiers_agree _ _ 5 6 63 7 _ _ (by decide) (by decide) rfl rfl

end Wlmio.Proof
