import Wlmio.Canard.CanId
import Wlmio.Proof.FileServer

/-!
# What the firmware server puts on the bus

Each answer is pushed and all of the queue is sent before the next request is read, so the
queue is empty between two passes. In a run whose pushes succeed the frames sent are those of
the command and then, in the order of the requests, those of the answers (`sendingRun_sent`):
nothing is left in the queue, overtakes or is sent twice.
-/

namespace Wlmio.Proof

open Wlmio.Client Wlmio.Canard Wlmio.Tools

/-! ## The frames of a service transfer -/

/-- The identifier of a service transfer. -/
def serviceCanId (localNodeId : Nat) (tr : CanardTransfer) : Nat :=
  txMakeServiceSessionSpecifier tr.portId (decide (tr.transferKind = .request)) localNodeId
    tr.remoteNodeId ||| (tr.priority <<< 26)

/-- Its frames on CAN FD. -/
def serviceFrames (localNodeId : Nat) (tr : CanardTransfer) : List CanardFrame :=
  txTransferFrames FD_MTU (serviceCanId localNodeId tr) tr

/-- **A push into the empty queue that succeeds** leaves the frames of the transfer there. -/
theorem canardTxPush_service {ins : CanardInstance} {tr : CanardTransfer} {room : Nat}
    (hmtu : ins.mtuBytes = CANARD_MTU_CAN_FD) (hqueue : ins.txQueue = [])
    (hkind : tr.transferKind ≠ .message) (h : 0 ≤ (canardTxPush ins tr room).2) :
    (canardTxPush ins tr room).1 = { ins with txQueue := serviceFrames ins.nodeId tr } := by
  have hempty : ∀ canId frames, txInsert [] canId frames = frames := by
    intro canId frames
    exact List.append_nil frames
  unfold canardTxPush at h ⊢
  dsimp only at h ⊢
  rw [txGetPresentationLayerMTU_fd hmtu] at h ⊢
  cases hid : txMakeCANID tr ins.nodeId FD_MTU with
  | none =>
      simp only [hid, CANARD_ERROR_INVALID_ARGUMENT] at h
      omega
  | some canId =>
      simp only [hid] at h ⊢
      split at h
      · rename_i hroom
        obtain ⟨_, ⟨hmessage, _⟩ | ⟨_, _, _, _, rfl⟩⟩ := txMakeCANID_cases hid
        · exact absurd hmessage hkind
        · rw [if_pos hroom, hqueue, hempty]
          rfl
      · simp only [CANARD_ERROR_OUT_OF_MEMORY] at h
        omega

/-- Whether a push succeeds depends on the address and the MTU only. -/
theorem canardTxPush_result {ins ins' : CanardInstance} (hnode : ins'.nodeId = ins.nodeId)
    (hmtu : ins'.mtuBytes = ins.mtuBytes) (tr : CanardTransfer) (room : Nat) :
    (canardTxPush ins' tr room).2 = (canardTxPush ins tr room).2 := by
  have hpl : txGetPresentationLayerMTU ins' = txGetPresentationLayerMTU ins := by
    unfold txGetPresentationLayerMTU
    rw [hmtu]
  unfold canardTxPush
  dsimp only
  rw [hpl, hnode]
  split
  · rfl
  · split
    · rfl
    · rfl

/-! ## Runs whose pushes succeed -/

/-- The answer of a pass, if there is one, gets into the queue. -/
def PushSucceeds (s : Server) : Pass → Prop
  | .nothing => True
  | .frame frame malloc txRoom => ∀ q ∈ heard s (.frame frame malloc txRoom),
      0 ≤ (canardTxPush (s.receiveTransfer frame).1.canard (answer s.data s.nodeId q) txRoom).2

/-- `main` enters its loop when the address could be read and there was room for the command. -/
def StartedSending (s : Server) : Prop :=
  ∃ os, startServer os = some s ∧ os.gpio.isSome = true ∧ 0 < os.txRoom

/-- The runs of the server whose pushes succeed, with the requests it has answered. -/
abbrev SendingRun : List CanardTransfer → Server → Prop :=
  Transition.Observes Server.step asked PushSucceeds StartedSending

theorem SendingRun.serverRun {qs : List CanardTransfer} {s : Server} (h : SendingRun qs s) :
    ServerRun qs s :=
  h.mono (fun _ _ _ => trivial) (fun _ ⟨os, hs, _⟩ => ⟨os, hs⟩)

/-- Between two passes everything has left. -/
structure Idle (s : Server) (frames : List CanardFrame) : Prop where
  mtu : s.canard.mtuBytes = CANARD_MTU_CAN_FD
  queue : s.canard.txQueue = []
  sent : s.sent = frames.map toCanfd

/-- A push that succeeds, and all of the queue sent. -/
theorem Idle.push {s : Server} {frames : List CanardFrame} (h : Idle s frames) {tr : CanardTransfer}
    (hkind : tr.transferKind ≠ .message) {room : Nat} (hpush : 0 ≤ (canardTxPush s.canard tr room).2) :
    Idle (s.push tr room).uavcanSend (frames ++ serviceFrames s.canard.nodeId tr) ∧
      (s.push tr room).uavcanSend.canard.nodeId = s.canard.nodeId := by
  have hcanard := canardTxPush_service h.mtu h.queue hkind hpush
  rw [uavcanSend_eq]
  unfold Server.push
  dsimp only
  rw [hcanard]
  refine ⟨⟨h.mtu, rfl, ?_⟩, rfl⟩
  rw [h.sent, List.map_append]

/-- What arrives does not change what has left. -/
theorem Idle.congr {s s' : Server} {frames : List CanardFrame} (h : Idle s frames)
    (htx : SameTx s.canard s'.canard) (hsent : s'.sent = s.sent) : Idle s' frames := by
  obtain ⟨hq, _, hm⟩ := htx
  exact ⟨hm.trans h.mtu, hq.trans h.queue, hsent.trans h.sent⟩

/-- The frames of the command and of the answers to these requests. -/
def servedFrames (s : Server) (qs : List CanardTransfer) : List CanardFrame :=
  serviceFrames s.canard.nodeId (startCommand s.nodeId) ++
    qs.flatMap (fun q => serviceFrames s.canard.nodeId (answer s.data s.nodeId q))

/-- The command fits into one frame. -/
theorem startCommand_pushes {ins : CanardInstance} {nodeId room : Nat}
    (hmtu : ins.mtuBytes = CANARD_MTU_CAN_FD) (hlocal : ins.nodeId ≤ CANARD_NODE_ID_MAX)
    (hnode : nodeId ≤ CANARD_NODE_ID_MAX) (hroom : 0 < room) :
    0 ≤ (canardTxPush ins (startCommand nodeId) room).2 := by
  have hid : txMakeCANID (startCommand nodeId) ins.nodeId FD_MTU =
      some (serviceCanId ins.nodeId (startCommand nodeId)) := by
    unfold txMakeCANID
    rw [if_neg (by simp [startCommand]), if_pos ⟨.inl rfl, hnode, Nat.le_of_ble_eq_true rfl⟩, if_pos hlocal]
    rfl
  unfold canardTxPush
  dsimp only
  rw [txGetPresentationLayerMTU_fd hmtu, hid]
  dsimp only
  rw [if_pos (show (txTransferFrames FD_MTU _ (startCommand nodeId)).length ≤ room from hroom)]
  exact Int.natCast_nonneg _

theorem startedSending_cases {s : Server} (h : StartedSending s) :
    ∃ canard nodeId data txRoom, canard.mtuBytes = CANARD_MTU_CAN_FD ∧ canard.txQueue = [] ∧
      canard.nodeId ≤ CANARD_NODE_ID_MAX ∧ nodeId ≤ CANARD_NODE_ID_MAX ∧ 0 < txRoom ∧
      s = ((Server.mk canard nodeId data [] [] none).push (startCommand nodeId) txRoom).uavcanSend := by
  obtain ⟨os, hs, hgpio, hroom⟩ := h
  unfold startServer at hs
  dsimp only at hs
  split at hs
  · cases hs
  split at hs
  · cases hs
  split at hs
  · cases hs
  split at hs
  · cases hs
  split at hs
  · cases hs
  split at hs
  · cases hs
  rename_i hnode
  obtain ⟨lines, hlines⟩ := Option.isSome_iff_exists.mp hgpio
  have hlocal : getNodeId os.gpio ≤ CANARD_NODE_ID_MAX := by
    rw [hlines]
    exact Nat.le_of_lt_succ lines.isLt
  exact ⟨_, _, _, os.txRoom, rfl, rfl, hlocal, Nat.le_of_not_lt hnode, hroom,
    (Option.some.inj hs).symm⟩

/-- The command is pushed while nothing else is queued. -/
theorem startedSending_idle {s : Server} (h : StartedSending s) :
    Idle s (serviceFrames s.canard.nodeId (startCommand s.nodeId)) := by
  obtain ⟨canard, nodeId, data, txRoom, hmtu, hqueue, hlocal, hnode, hroom, rfl⟩ :=
    startedSending_cases h
  have hempty : Idle (Server.mk canard nodeId data [] [] none) [] := ⟨hmtu, hqueue, rfl⟩
  obtain ⟨hidle, hkept⟩ := hempty.push (by simp [startCommand])
    (startCommand_pushes hmtu hlocal hnode hroom)
  have hnodeId : ((Server.mk canard nodeId data [] [] none).push (startCommand nodeId)
      txRoom).uavcanSend.nodeId = nodeId := by
    rw [uavcanSend_eq]
    rfl
  rw [hkept, hnodeId]
  exact hidle

/-- A pass sends the frames of its answer, and no others. -/
theorem step_idle {s s' : Server} {p : Pass} {frames : List CanardFrame} (h : Idle s frames)
    (hp : PushSucceeds s p) (hs : s.step p = some s') :
    s'.canard.nodeId = s.canard.nodeId ∧ Idle s' (frames ++
      (asked s p s').flatMap (fun q => serviceFrames s.canard.nodeId (answer s.data s.nodeId q))) := by
  have hnothing : Idle s (frames ++ []) := (List.append_nil frames).symm ▸ h
  unfold Server.step at hs
  split at hs
  · cases hs
  rename_i hfault
  cases p with
  | nothing =>
      obtain rfl := Option.some.inj hs
      unfold asked
      rw [if_neg hfault]
      exact ⟨rfl, hnothing⟩
  | frame frame malloc txRoom =>
      obtain ⟨canard, htx, hrecv, ⟨hheard, hpass⟩ | ⟨q, buffer, hheard, hpass⟩⟩ :=
        pass_frame s frame malloc txRoom
      · rw [hpass] at hs
        obtain rfl := Option.some.inj hs
        unfold asked
        rw [if_neg hfault, hheard]
        exact ⟨htx.2.1, hnothing.congr htx rfl⟩
      · rw [hpass] at hs
        cases malloc with
        | false =>
            -- without memory for the response the run is over
            obtain rfl := Option.some.inj hs
            exact ⟨rfl, hnothing.congr ⟨rfl, rfl, rfl⟩ rfl⟩
        | true =>
            obtain rfl := Option.some.inj hs
            have hfreed : Idle (freed { s with canard := canard } buffer) frames := h.congr htx rfl
            have hpush : 0 ≤ (canardTxPush (freed { s with canard := canard } buffer).canard
                (answer s.data s.nodeId q) txRoom).2 := by
              have hq := hp q (hheard ▸ List.mem_singleton.mpr rfl)
              rw [hrecv] at hq
              rw [@canardTxPush_result canard (freed { s with canard := canard } buffer).canard rfl rfl]
              exact hq
            obtain ⟨hidle, hkept⟩ := hfreed.push (by simp [answer]) hpush
            have hasked : asked s (.frame frame true txRoom) ((freed { s with canard := canard }
                buffer).push (answer s.data s.nodeId q) txRoom).uavcanSend = [q] := by
              unfold asked
              rw [uavcanSend_eq]
              exact (if_neg hfault).trans hheard
            rw [hasked, List.flatMap_singleton, ← htx.2.1]
            exact ⟨hkept, hidle⟩

/-- **What leaves the server**, in a run whose pushes succeed: the frames of the command, and then
those of the answers in the order of the requests. -/
theorem sendingRun_sent {qs : List CanardTransfer} {s : Server} (h : SendingRun qs s) :
    Idle s (servedFrames s qs) := by
  induction h with
  | init h =>
      have hidle := startedSending_idle h
      unfold servedFrames
      rw [List.flatMap_nil, List.append_nil]
      exact hidle
  | step _ hg hs ih =>
      obtain ⟨hnode, hidle⟩ := step_idle ih hg hs
      have hstep := step_answers hs
      unfold servedFrames at hidle ⊢
      rw [List.append_assoc, ← List.flatMap_append] at hidle
      rw [hnode, hstep.nodeId, hstep.data]
      exact hidle

end Wlmio.Proof
