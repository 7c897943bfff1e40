import Wlmio.Canard.Loopback
import Wlmio.Proof.Ledger
import Wlmio.Proof.Scenario

/-!
# The transmit path

All requests share one queue, ordered by CAN identifier, and the socket may refuse a
frame at any time, in the middle of a transfer too. The queue is stable, so for each
identifier the frames sent followed by the frames queued are the frames of the requests
with that identifier, in the order of the calls: an invariant of pushing a block and of
sending the head, whatever the interleaving.

Channels have different identifiers, and so this is a statement about channels.
-/

namespace Wlmio.Proof

open Wlmio.Client Wlmio.Canard

/-- The identifier of the requests to a node for a service. -/
def requestCanId (localNodeId : Nat) (service : Service) (node : Nat) : Nat :=
  txMakeServiceSessionSpecifier service.port true localNodeId node ||| (CanardPriorityNominal <<< 26)

/-- The frames of a request. -/
def requestFrames (localNodeId : Nat) (i : Issued) : List CanardFrame :=
  txTransferFrames FD_MTU (requestCanId localNodeId i.service i.transfer.remoteNodeId) i.transfer

/-- The frames a request has put into the queue: none if `canardTxPush` failed. -/
def queuedFrames (localNodeId : Nat) (i : Issued) : List CanardFrame :=
  if i.pushed < 0 then [] else requestFrames localNodeId i

/-! ## Identifiers -/

theorem requestFrames_canId {localNodeId : Nat} {i : Issued} :
    ∀ f ∈ requestFrames localNodeId i,
      f.extendedCanId = requestCanId localNodeId i.service i.transfer.remoteNodeId :=
  txTransferFrames_canId

theorem requestCanId_eq {localNodeId : Nat} (hlocal : localNodeId ≤ CANARD_NODE_ID_MAX)
    (service : Service) {node : Nat} (hn : node ≤ CANARD_NODE_ID_MAX) :
    requestCanId localNodeId service node =
      localNodeId + node * 2 ^ 7 + service.port * 2 ^ 14 + 2 ^ 24 + 2 ^ 25 + 4 * 2 ^ 26 := by
  unfold requestCanId CanardPriorityNominal
  rw [txServiceCanId_eq (Service.port_le service) hlocal hn]
  simp

theorem requestCanId_lt {localNodeId : Nat} (hlocal : localNodeId ≤ CANARD_NODE_ID_MAX)
    (service : Service) {node : Nat} (hn : node ≤ CANARD_NODE_ID_MAX) :
    requestCanId localNodeId service node < 2 ^ 31 := by
  have hp := Service.port_le service
  rw [requestCanId_eq hlocal service hn]
  unfold CANARD_NODE_ID_MAX at hlocal hn
  unfold CANARD_SERVICE_ID_MAX at hp
  omega

/-- **Channels have different identifiers.** -/
theorem requestCanId_inj {localNodeId : Nat} (hlocal : localNodeId ≤ CANARD_NODE_ID_MAX)
    {service service' : Service} {node node' : Nat}
    (hn : node ≤ CANARD_NODE_ID_MAX) (hn' : node' ≤ CANARD_NODE_ID_MAX)
    (h : requestCanId localNodeId service node = requestCanId localNodeId service' node') :
    service = service' ∧ node = node' := by
  rw [requestCanId_eq hlocal service hn, requestCanId_eq hlocal service' hn'] at h
  unfold CANARD_NODE_ID_MAX at hlocal hn hn'
  exact ⟨Service.port_inj (by omega), by omega⟩

/-- The flag of the extended format does not confuse identifiers. -/
theorem toCanfd_canId {f : CanardFrame} {canId : Nat} (hf : f.extendedCanId < 2 ^ 31)
    (hc : canId < 2 ^ 31) : (toCanfd f).canId = canId ||| EXTENDED_FLAG ↔ f.extendedCanId = canId := by
  have hflag : EXTENDED_FLAG = 1 <<< 31 := by rw [Nat.shiftLeft_eq]; rfl
  have hcan : (toCanfd f).canId = f.extendedCanId + 1 * 2 ^ 31 := by
    rw [← BitField.or_shiftLeft 1 31 hf, ← hflag]
    rfl
  rw [hcan, hflag, BitField.or_shiftLeft 1 31 hc]
  exact Nat.add_right_cancel_iff

/-! ## The invariant -/

/-- Everything that was put into the queue, in the order of the calls. -/
def allFrames (b : Bus) : List CanardFrame := b.issued.flatMap (queuedFrames b.canard.nodeId)

/-- What has left and what is queued. -/
structure Outgoing (b : Bus) : Prop where
  nodeId : b.canard.nodeId ≤ CANARD_NODE_ID_MAX
  mtu : b.canard.mtuBytes = CANARD_MTU_CAN_FD
  conserved : ∃ gone, b.sent = gone.map toCanfd ∧
    StableQueue.Conserved CanardFrame.extendedCanId gone b.canard.txQueue (allFrames b)

theorem txMakeCANID_request {b : Bus} (h : Outgoing b) {service : Service} {nodeId : Nat}
    (hn : nodeId ≤ CANARD_NODE_ID_MAX) (payload : List Byte) (mtu : Nat) :
    txMakeCANID (requestTransfer b service nodeId payload) b.canard.nodeId mtu =
      some (requestCanId b.canard.nodeId service nodeId) := by
  have hprio : CanardPriorityNominal ≤ CANARD_PRIORITY_MAX := by decide
  unfold txMakeCANID requestTransfer requestCanId
  dsimp only
  rw [if_neg (by simp), if_pos ⟨Or.inl rfl, hn, Service.port_le service⟩, if_pos h.nodeId]
  dsimp only
  rw [if_pos hprio, decide_eq_true rfl]

/-- The frames of a request fit, and join the queue as one block, or they do not. -/
theorem canardTxPush_request {b : Bus} (h : Outgoing b) {service : Service} {nodeId : Nat}
    (hn : nodeId ≤ CANARD_NODE_ID_MAX) (payload : List Byte) (room : Nat) :
    canardTxPush b.canard (requestTransfer b service nodeId payload) room =
      if frameCount payload.length ≤ room then
        ({ b.canard with
            txQueue := StableQueue.insertBlock CanardFrame.extendedCanId
              (requestCanId b.canard.nodeId service nodeId)
              (txTransferFrames FD_MTU (requestCanId b.canard.nodeId service nodeId)
                (requestTransfer b service nodeId payload)) b.canard.txQueue },
          (frameCount payload.length : Int))
      else (b.canard, -CANARD_ERROR_OUT_OF_MEMORY) := by
  have hcount := length_txTransferFrames (requestCanId b.canard.nodeId service nodeId)
    (requestTransfer b service nodeId payload)
  unfold canardTxPush
  dsimp only
  rw [txGetPresentationLayerMTU_fd h.mtu, txMakeCANID_request h hn payload FD_MTU]
  dsimp only
  rw [hcount, txInsert_eq]
  rfl

/-- **A push queues the frames of the request**, or fails and queues nothing. -/
theorem Outgoing.pushRequest {b : Bus} (h : Outgoing b) (pending : List TaskEntry)
    (service : Service) {nodeId : Nat} (hn : nodeId ≤ CANARD_NODE_ID_MAX) (payload : List Byte)
    (room : Nat) :
    Outgoing (b.pushRequest pending service (requestTransfer b service nodeId payload) room) := by
  obtain ⟨gone, hsent, hcons⟩ := h.conserved
  unfold Bus.pushRequest
  rw [canardTxPush_request h hn]
  dsimp only
  split
  · -- the frames fit: they join the queue as one block
    refine ⟨h.nodeId, h.mtu, gone, hsent, ?_⟩
    dsimp only
    have hids : ∀ f ∈ txTransferFrames FD_MTU (requestCanId b.canard.nodeId service nodeId)
        (requestTransfer b service nodeId payload),
        f.extendedCanId = requestCanId b.canard.nodeId service nodeId := txTransferFrames_canId
    have hblock := hcons.insert hids
    have hall : allFrames b ++ txTransferFrames FD_MTU (requestCanId b.canard.nodeId service nodeId)
        (requestTransfer b service nodeId payload) = allFrames
          { b with
            canard := { b.canard with
              txQueue := StableQueue.insertBlock CanardFrame.extendedCanId
                (requestCanId b.canard.nodeId service nodeId) (txTransferFrames FD_MTU
                  (requestCanId b.canard.nodeId service nodeId)
                  (requestTransfer b service nodeId payload)) b.canard.txQueue }
            tfrIds := Function.update b.tfrIds service (Function.update (b.tfrIds service) nodeId
              ((b.tfrIds service nodeId + 1) &&& 0x1F))
            issued := b.issued ++ [⟨service, requestTransfer b service nodeId payload,
              frameCount payload.length, pending.any (fun t => decide (t.id =
                makeRspSpecifier (requestTransfer b service nodeId payload)))⟩] } := by
      unfold allFrames
      dsimp only
      rw [List.flatMap_append, List.flatMap_singleton]
      unfold queuedFrames
      dsimp only
      rw [if_neg (by omega)]
      rfl
    rw [hall] at hblock
    exact hblock
  · -- they do not: the queue is as before
    refine ⟨h.nodeId, h.mtu, gone, hsent, ?_⟩
    dsimp only
    have hall : allFrames b = allFrames
        { b with
          tfrIds := Function.update b.tfrIds service (Function.update (b.tfrIds service) nodeId
            ((b.tfrIds service nodeId + 1) &&& 0x1F))
          issued := b.issued ++ [⟨service, requestTransfer b service nodeId payload,
            -CANARD_ERROR_OUT_OF_MEMORY, pending.any (fun t => decide (t.id =
              makeRspSpecifier (requestTransfer b service nodeId payload)))⟩] } := by
      unfold allFrames
      dsimp only
      rw [List.flatMap_append, List.flatMap_singleton]
      unfold queuedFrames
      dsimp only
      rw [if_pos (by decide), List.append_nil]
    rw [hall] at hcons
    exact hcons

/-- **The send loop moves frames from the head of the queue to the bus.** -/
theorem Outgoing.uavcanSend {b : Bus} (h : Outgoing b) (n : Nat) : Outgoing (b.uavcanSend n) := by
  induction n generalizing b with
  | zero => exact h
  | succ n ih =>
      unfold Bus.uavcanSend
      split
      · exact h
      · rename_i txf hpeek
        refine ih ⟨h.nodeId, h.mtu, ?_⟩
        obtain ⟨gone, hsent, hcons⟩ := h.conserved
        unfold canardTxPeek at hpeek
        obtain ⟨q, hq⟩ : ∃ q, b.canard.txQueue = txf :: q := by
          cases hl : b.canard.txQueue with
          | nil => rw [hl] at hpeek; simp at hpeek
          | cons f q =>
              rw [hl] at hpeek
              exact ⟨q, by rw [Option.some.inj hpeek]⟩
        refine ⟨gone ++ [txf], by simp [hsent], ?_⟩
        rw [hq] at hcons
        have hserve := hcons.serve
        have htail : (canardTxPop b.canard).txQueue = q := by unfold canardTxPop; simp [hq]
        dsimp only
        rw [htail]
        exact hserve

theorem Outgoing.congr {b : Bus} (h : Outgoing b) {canard : CanardInstance}
    (htx : SameTx b.canard canard) : Outgoing { b with canard := canard } := by
  obtain ⟨hq, hn, hm⟩ := htx
  obtain ⟨gone, hsent, hcons⟩ := h.conserved
  refine ⟨hn ▸ h.nodeId, hm ▸ h.mtu, gone, hsent, ?_⟩
  unfold allFrames
  dsimp only
  rw [hq, hn]
  exact hcons

variable {ok : Registry → Int → Prop}

theorem outgoing_effect {s s' : Registry × Bus} (h : Outgoing s.2) (he : Effect ok s s') :
    Outgoing s'.2 := by
  cases he with
  | registered timeout hn _ _ => exact (h.pushRequest _ _ hn _ _).uavcanSend _
  | unregistered hn => exact (h.pushRequest _ _ hn _ _).uavcanSend _
  | removed _ _ => exact h
  | beat _ _ => exact h
  | expired _ _ _ _ => exact h
  | sent n => exact h.uavcanSend n
  | received htx => exact h.congr htx

theorem outgoing_fresh {w : World} (h : Fresh w) : Outgoing w.bus := by
  refine ⟨h.nodeId, h.mtu, [], by rw [h.sent]; rfl, ?_⟩
  have hall : allFrames w.bus = [] := by unfold allFrames; rw [h.issued]; rfl
  rw [h.queue, hall]
  exact .nil

theorem outgoing_reachable {guard : World → Act → Prop} {w : World} (h : ReachableBy guard w) :
    Outgoing w.bus :=
  reachable_core anyFd (P := fun s => Outgoing s.2) (fun _ _ _ _ _ => trivial)
    (fun _ hf => outgoing_fresh hf) (fun _ _ hg he => outgoing_effect hg he) h

/-! ## One request -/

/-- The frames have joined the queue as one block, and some of the queue may have left since. -/
def FramesQueued (b b' : Bus) (frames : List CanardFrame) : Prop :=
  ∃ before after, b.canard.txQueue = before ++ after ∧
    b'.sent ++ b'.canard.txQueue.map toCanfd = b.sent ++ (before ++ frames ++ after).map toCanfd

/-- Sending does not change the order of what is sent and what is queued. -/
theorem uavcanSend_flow (b : Bus) (n : Nat) :
    (b.uavcanSend n).sent ++ (b.uavcanSend n).canard.txQueue.map toCanfd =
      b.sent ++ b.canard.txQueue.map toCanfd := by
  induction n generalizing b with
  | zero => rfl
  | succ n ih =>
      unfold Bus.uavcanSend canardTxPeek canardTxPop
      cases hq : b.canard.txQueue with
      | nil => simp [hq]
      | cons txf q =>
          rw [List.head?_cons]
          dsimp only
          rw [ih]
          simp

/-- **A request that finds room** is queued, or sent in part or whole. -/
theorem busAfter_queued {w : World} (h : Outgoing w.bus) (service : Service) {nodeId : Nat}
    (hn : nodeId ≤ CANARD_NODE_ID_MAX) {payload : List Byte} {os : Os}
    (hroom : frameCount payload.length ≤ os.txRoom) :
    0 ≤ (nextIssued w.registry w.bus service nodeId payload os).pushed ∧
      FramesQueued w.bus (busAfter w service nodeId payload os) (requestFrames w.bus.canard.nodeId
        (nextIssued w.registry w.bus service nodeId payload os)) := by
  have hpush := @canardTxPush_request w.bus h service nodeId hn payload os.txRoom
  rw [if_pos hroom] at hpush
  constructor
  · unfold nextIssued
    rw [hpush]
    exact Int.natCast_nonneg _
  · obtain ⟨before, after, hqueue, hblock⟩ :=
      StableQueue.insertBlock_split CanardFrame.extendedCanId
        (requestCanId w.bus.canard.nodeId service nodeId)
        (txTransferFrames FD_MTU (requestCanId w.bus.canard.nodeId service nodeId)
          (requestTransfer w.bus service nodeId payload)) w.bus.canard.txQueue
    refine ⟨before, after, hqueue, ?_⟩
    unfold busAfter
    rw [uavcanSend_flow]
    unfold Bus.pushRequest
    rw [hpush]
    dsimp only
    rw [hblock]
    rfl

/-- One that does not is counted as issued, and that is all. -/
theorem nextIssued_refused {w : World} (h : Outgoing w.bus) (service : Service) {nodeId : Nat}
    (hn : nodeId ≤ CANARD_NODE_ID_MAX) {payload : List Byte} {os : Os}
    (hroom : ¬ frameCount payload.length ≤ os.txRoom) :
    (nextIssued w.registry w.bus service nodeId payload os).pushed < 0 := by
  unfold nextIssued
  rw [canardTxPush_request h hn, if_neg hroom]
  exact Int.neg_neg_of_pos (by decide)

/-! ## Channels -/

/-- The line of an identifier holds the frames of its channel and no others. -/
theorem lane_allFrames {b : Bus} (ho : Outgoing b) (hl : Ledger b) (hpush : ∀ i ∈ b.issued, 0 ≤ i.pushed)
    (service : Service) {node : Nat} (hn : node ≤ CANARD_NODE_ID_MAX) :
    StableQueue.lane CanardFrame.extendedCanId (requestCanId b.canard.nodeId service node)
      (allFrames b) = (channel b service node).flatMap (requestFrames b.canard.nodeId) := by
  have hshape := hl.shape
  unfold allFrames channel
  generalize b.issued = issued at hpush hshape
  induction issued with
  | nil => rfl
  | cons i issued ih =>
      have hi := hpush i (by simp)
      have hrest := ih (fun j hj => hpush j (by simp [hj])) (fun j hj => hshape j (by simp [hj]))
      have hframes : queuedFrames b.canard.nodeId i = requestFrames b.canard.nodeId i := by
        unfold queuedFrames
        rw [if_neg (by omega)]
      rw [List.flatMap_cons, StableQueue.lane_append, hrest, hframes, List.filter_cons]
      by_cases hon : onChannel service node i = true
      · obtain ⟨rfl, rfl⟩ := of_decide_eq_true hon
        rw [if_pos hon, List.flatMap_cons, StableQueue.lane_eq_self requestFrames_canId]
      · rw [if_neg hon, StableQueue.lane_eq_nil, List.nil_append]
        intro f hf heq
        rw [requestFrames_canId f hf] at heq
        obtain ⟨hs, hnode⟩ := requestCanId_inj ho.nodeId (hshape i (by simp)).2.2 hn heq
        exact hon (decide_eq_true ⟨hs, hnode⟩)

/-- Every frame that was queued has an identifier of 31 bits at most. -/
theorem canId_lt_of_mem {b : Bus} (ho : Outgoing b) (hl : Ledger b) {f : CanardFrame}
    (hf : f ∈ allFrames b) : f.extendedCanId < 2 ^ 31 := by
  obtain ⟨i, hi, hf⟩ := List.mem_flatMap.mp hf
  unfold queuedFrames at hf
  split at hf
  · simp at hf
  · rw [requestFrames_canId f hf]
    exact requestCanId_lt ho.nodeId _ (hl.shape i hi).2.2

/-! ## The ledger lists the accepted calls -/

/-- The channel of a request that is one transfer. -/
def requestChannel : Request → Option (Service × Nat)
  | .getNodeInfo n _ => some (.getNodeInfo, n.toNat)
  | .registerList n _ _ => some (.registerList, n.toNat)
  | .registerAccess n _ _ _ => some (.registerAccess, n.toNat)
  | .executeCommand n _ _ _ => some (.executeCommand, n.toNat)
  | _ => none

/-- A call is refused and leaves everything as it was, or it is accepted and has added one request
to the end of its channel. -/
def Issues (w : World) (service : Service) (node : Nat) (w' : World) (r : Int) : Prop :=
  (r < 0 ∧ w' = w) ∨
    (r = 0 ∧ ∃ i, w'.bus.issued = w.bus.issued ++ [i] ∧ onChannel service node i = true)

theorem submit_issues {w w' : World} {service : Service} {node : Nat} {payload : List Byte}
    {param : Param} {callback : Option Callback} {os : Os}
    (h : submit w service node payload param callback os = .ok w') :
    Issues w service node w' 0 := by
  have hissued : w'.bus.issued =
      w.bus.issued ++ [nextIssued w.registry w.bus service node payload os] := by
    rw [submit_bus h]
    exact pushed_issued w.registry w.bus service node payload os
  exact .inr ⟨rfl, _, hissued, decide_eq_true ⟨rfl, rfl⟩⟩

theorem returned_issues {w w' : World} {service : Service} {node : Nat} {payload : List Byte}
    {param : Param} {callback : Option Callback} {os : Os} {r : Int}
    (h : (submit w service node payload param callback os >>= fun w => .ok (w, (0 : Int))) =
      .ok (w', r)) : Issues w service node w' r := by
  obtain ⟨w₁, hs, h⟩ := Fallible.bind_eq_ok.mp h
  obtain ⟨rfl, rfl⟩ := Prod.mk.inj (Except.ok.inj h)
  exact submit_issues hs

theorem refused_issues {w w' : World} {service : Service} {node : Nat} {e r : Int} (he : e < 0)
    (h : (Except.ok (w, e) : Except Fault (World × Int)) = .ok (w', r)) :
    Issues w service node w' r := by
  obtain ⟨rfl, rfl⟩ := Prod.mk.inj (Except.ok.inj h)
  exact .inl ⟨he, rfl⟩

/-- **A call that returns 0 has issued one request**, and one that returns anything else none. -/
theorem call_issues {q : Request} {w w' : World} {c : Option Caller} {os : Nat → Os} {r : Int}
    {service : Service} {node : Nat} (hq : requestChannel q = some (service, node))
    (h : q.call w c os = .ok (w', r)) : Issues w service node w' r := by
  have heinval : -EINVAL < 0 := by decide
  cases q with
  | getNodeInfo n nodeInfo =>
      obtain ⟨rfl, rfl⟩ := Prod.mk.inj (Option.some.inj hq)
      simp only [Request.call, wlmioGetNodeInfo] at h
      cases nodeInfo with
      | none => exact refused_issues heinval h
      | some buffer =>
          dsimp only at h
          split at h
          · exact refused_issues heinval h
          · exact returned_issues h
  | registerList n index name =>
      obtain ⟨rfl, rfl⟩ := Prod.mk.inj (Option.some.inj hq)
      simp only [Request.call, wlmioRegisterList] at h
      cases name with
      | none => exact refused_issues heinval h
      | some buffer =>
          dsimp only at h
          split at h
          · exact refused_issues heinval h
          · exact returned_issues h
  | registerAccess n name regw regr =>
      obtain ⟨rfl, rfl⟩ := Prod.mk.inj (Option.some.inj hq)
      rcases registerAccess_cases h with ⟨_, rfl, rfl⟩ | ⟨_, rfl, payload, _, hs⟩
      · exact .inl ⟨heinval, rfl⟩
      · exact submit_issues hs
  | executeCommand n command param paramLen =>
      obtain ⟨rfl, rfl⟩ := Prod.mk.inj (Option.some.inj hq)
      simp only [Request.call, wlmioExecuteCommand] at h
      split at h
      · exact refused_issues heinval h
      split at h
      · exact refused_issues (by decide) h
      · obtain ⟨payload, _, h⟩ := Fallible.bind_eq_ok.mp h
        exact returned_issues h
  | _ => cases hq

/-! ## The order on the bus -/

/-- What is on the bus, channel by channel. -/
structure InOrder (w : World) : Prop where
  /-- The frames sent on a channel, and then those queued, are the frames of its requests in the
  order of the calls. -/
  frames : ∀ service node, node ≤ CANARD_NODE_ID_MAX →
    w.bus.sent.filter (fun f => decide (f.canId =
        requestCanId w.bus.canard.nodeId service node ||| EXTENDED_FLAG)) ++
      (w.bus.canard.txQueue.filter (fun f => decide (f.extendedCanId =
        requestCanId w.bus.canard.nodeId service node))).map toCanfd =
      ((channel w.bus service node).flatMap (requestFrames w.bus.canard.nodeId)).map toCanfd
  /-- So those sent are a prefix. -/
  sent_prefix : ∀ service node, node ≤ CANARD_NODE_ID_MAX →
    w.bus.sent.filter (fun f => decide (f.canId =
        requestCanId w.bus.canard.nodeId service node ||| EXTENDED_FLAG)) <+:
      ((channel w.bus service node).flatMap (requestFrames w.bus.canard.nodeId)).map toCanfd
  /-- Sent and queued frames together are all frames, each once. -/
  all : (w.bus.sent ++ w.bus.canard.txQueue.map toCanfd).Perm
    ((w.bus.issued.flatMap (requestFrames w.bus.canard.nodeId)).map toCanfd)
  /-- The `k`-th request of a channel carries the transfer identifier `k mod 32`. -/
  ids : ∀ service node k i, (channel w.bus service node)[k]? = some i →
    i.transfer.transferId = k % 32

/-- **No loss, no duplication, no reordering on a channel**, in every reachable state in which no
push has failed. -/
theorem transmit_in_order {w : World} (h : Reachable w) (hpush : ∀ i ∈ w.bus.issued, 0 ≤ i.pushed) :
    InOrder w := by
  have hl := ledger_reachable h
  have ho := outgoing_reachable h
  obtain ⟨gone, hsent, hcons⟩ := ho.conserved
  have hgone : ∀ f ∈ gone, f.extendedCanId < 2 ^ 31 := fun f hf =>
    canId_lt_of_mem ho hl (hcons.perm.subset (List.mem_append_left _ hf))
  have hframes : ∀ service node, node ≤ CANARD_NODE_ID_MAX →
      w.bus.sent.filter (fun f => decide (f.canId =
          requestCanId w.bus.canard.nodeId service node ||| EXTENDED_FLAG)) ++
        (w.bus.canard.txQueue.filter (fun f => decide (f.extendedCanId =
          requestCanId w.bus.canard.nodeId service node))).map toCanfd =
        ((channel w.bus service node).flatMap (requestFrames w.bus.canard.nodeId)).map toCanfd := by
    intro service node hn
    have hid := requestCanId_lt ho.nodeId service hn
    have hfilter : w.bus.sent.filter (fun f => decide (f.canId =
        requestCanId w.bus.canard.nodeId service node ||| EXTENDED_FLAG)) =
        (StableQueue.lane CanardFrame.extendedCanId
          (requestCanId w.bus.canard.nodeId service node) gone).map toCanfd := by
      rw [hsent, List.filter_map]
      congr 1
      unfold StableQueue.lane
      refine List.filter_congr ?_
      intro f hf
      exact decide_eq_decide.mpr (toCanfd_canId (hgone f hf) hid)
    rw [hfilter, ← List.map_append, ← lane_allFrames ho hl hpush service hn, ← hcons.lanes]
    rfl
  have hall : allFrames w.bus = w.bus.issued.flatMap (requestFrames w.bus.canard.nodeId) := by
    unfold allFrames
    refine List.flatMap_congr ?_
    intro i hi
    unfold queuedFrames
    rw [if_neg (by have := hpush i hi; omega)]
  refine ⟨hframes, fun service node hn => ⟨_, hframes service node hn⟩, ?_, hl.ids⟩
  rw [hsent, ← List.map_append, ← hall]
  exact hcons.perm.map toCanfd

/-- A two-frame request cut in the middle, and a request with a lower identifier behind it. -/
theorem transmit_in_order_cut : ∃ w, w.bus.sent.length = 2 ∧ w.bus.canard.txQueue.length = 1 ∧
    InOrder w := by
  obtain ⟨w, hr, hw⟩ := exists_after Transition.free
    [.request (.executeCommand 7 65533 (some (List.replicate 100 1#8)) 100) (some 0)
      (fun i => { grantFrom 5 i with sends := 1 }),
      .request (.registerList 3 0 (some 0)) (some 1) (fun i => { grantFrom 6 i with sends := 1 })]
    (fun w => decide (w.bus.sent.length = 2 ∧ w.bus.canard.txQueue.length = 1 ∧
      ∀ i ∈ w.bus.issued, 0 ≤ i.pushed)) (by decide +kernel)
  obtain ⟨hsent, hqueue, hpush⟩ := of_decide_eq_true hw
  exact ⟨w, hsent, hqueue, transmit_in_order hr hpush⟩

end Wlmio.Proof
