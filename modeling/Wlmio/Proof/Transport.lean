import Wlmio.Canard.Network
import Wlmio.Proof.Sessions

/-!
# From one application to another

What the applications of two nodes see of each other, with any number of other nodes on
the bus and any interleaving of what all of them do: the transfers that one pushes for a
port come out at the other, each once and in the order of the pushes, none before it was
pushed and all of them when nothing is under way any more (`transport_delivers`).

This needs what the library asks of its users. Transfers of a session have one priority,
since the bus lets frames of a higher one overtake; no transfer has the transfer-ID of the
one before it, since it would be taken for a repeat; and the frames of a transfer come in
within the timeout of the subscription.
-/

namespace Wlmio.Proof

open Canard Demultiplexer

/-! ## Valid frames -/

/-- A frame's payload as the receiver wants it. -/
def WellFormed (tid : Nat) (payload : List Byte) : Prop :=
  ∃ p sot eot toggle, payload = p ++ [txMakeTailByte sot eot toggle tid] ∧
    (sot = true → toggle = true) ∧ (eot = true ∨ 7 ≤ p.length) ∧
    ((sot = true ∧ eot = true) ∨ 0 < p.length)

theorem txTailed_wellFormed {tid : Nat} {rest : List Byte} {ps : List (List Byte)}
    (hps : Pieces rest ps) : ∀ {sot toggle : Bool}, (sot = true → toggle = true) →
      ∀ q ∈ txTailed tid sot toggle ps, WellFormed tid q := by
  have hmtu : FD_MTU = 63 := rfl
  induction hps with
  | @last p hne hlen =>
      intro sot toggle hsot q hq
      rw [List.mem_singleton.mp hq]
      exact ⟨p, sot, true, toggle, rfl, hsot, .inl rfl, .inr (List.length_pos_iff.mpr hne)⟩
  | @full p rest ps hlen hps ih =>
      intro sot toggle hsot q hq
      rw [txTailed_cons hps.ne_nil] at hq
      rcases List.mem_cons.mp hq with rfl | hq
      · exact ⟨p, sot, false, toggle, rfl, hsot, .inr (by omega), .inr (by omega)⟩
      · exact @ih false (!toggle) (fun h => (nomatch h)) q hq

/-- **What is sent is valid.** -/
theorem txTransferFrames_wellFormed {canId : Nat} {tr : CanardTransfer} {q : List Byte}
    (hq : q ∈ (txTransferFrames FD_MTU canId tr).map CanardFrame.payload) :
    WellFormed tr.transferId q := by
  unfold txTransferFrames at hq
  have hmap : (CanardFrame.payload ∘ fun p => CanardFrame.mk tr.timestampUsec canId p) = id := rfl
  rw [List.map_map, hmap, List.map_id] at hq
  split at hq
  · rw [List.mem_singleton.mp hq]
    exact ⟨_, true, true, true, rfl, fun _ => rfl, .inl rfl, .inl ⟨rfl, rfl⟩⟩
  · obtain ⟨ps, hps, htail⟩ := txMultiFrame_spec tr.transferId tr.payload
    rw [htail] at hq
    exact txTailed_wellFormed hps (fun _ => rfl) q hq

/-! ## Two ends of a session -/

/-- Whether `canardTxPush` queues the transfer. -/
def pushSucceeds (nodeId : Nat) (tr : CanardTransfer) (room : Nat) : Bool :=
  (txMakeCANID tr nodeId FD_MTU).any
    (fun canId => decide ((txTransferFrames FD_MTU canId tr).length ≤ room))

theorem pushSucceeds_iff {ins : CanardInstance} (hmtu : ins.mtuBytes = CANARD_MTU_CAN_FD)
    (tr : CanardTransfer) (room : Nat) :
    pushSucceeds ins.nodeId tr room = true ↔ 0 ≤ (canardTxPush ins tr room).2 := by
  unfold pushSucceeds canardTxPush
  dsimp only
  rw [txGetPresentationLayerMTU_fd hmtu]
  cases txMakeCANID tr ins.nodeId FD_MTU with
  | none => simp [CANARD_ERROR_INVALID_ARGUMENT]
  | some canId =>
      by_cases hroom : (txTransferFrames FD_MTU canId tr).length ≤ room
      · simp [hroom]
      · simp [hroom, CANARD_ERROR_OUT_OF_MEMORY]

/-- The transfer is of this kind, to this port and node. -/
def IsTo (kind : CanardTransferKind) (port remote : Nat) (tr : CanardTransfer) : Prop :=
  tr.transferKind = kind ∧ tr.portId = port ∧ tr.remoteNodeId = remote

instance (kind : CanardTransferKind) (port remote : Nat) (tr : CanardTransfer) :
    Decidable (IsTo kind port remote tr) := inferInstanceAs (Decidable (_ ∧ _))

/-- What a node has queued of a kind for a port and a node, in the order of the pushes. -/
def transfersQueued (nodeId : Nat) (kind : CanardTransferKind) (port remote : Nat)
    (calls : List Call) : List CanardTransfer :=
  calls.filterMap (fun c =>
    match c with
    | .push tr room =>
      if IsTo kind port remote tr ∧ pushSucceeds nodeId tr room = true then some tr else none
    | _ => none)

/-- For which session a frame is. -/
theorem sessionOf_eq_some {nodeId index : Nat} {f : CanardFrame} {k : SessionKey} :
    sessionOf nodeId (f, index) = some k ↔ f.extendedCanId ≤ CAN_EXT_ID_MASK ∧ ∃ model,
      rxTryParseFrame f = some model ∧
      (model.destinationNodeId = CANARD_NODE_ID_UNSET ∨ model.destinationNodeId = nodeId) ∧
      model.transferKind = k.kind ∧ model.portId = k.port ∧ model.sourceNodeId = k.source := by
  obtain ⟨kind, port, source⟩ := k
  unfold sessionOf
  by_cases hid : f.extendedCanId ≤ CAN_EXT_ID_MASK
  · cases hparse : rxTryParseFrame f with
    | none => simp [hid]
    | some model =>
        by_cases hdst : model.destinationNodeId = CANARD_NODE_ID_UNSET ∨
            model.destinationNodeId = nodeId
        · simp [hid, hdst]
        · simp [hid, hdst]
  · simp [hid]

/-- The frames for a session that a node has read. -/
def framesFor (nodeId : Nat) (k : SessionKey) (calls : List Call) : List CanardFrame :=
  (framesRead calls).filter (fun f => decide (sessionOf nodeId (f, 0) = some k))

/-- What is handed over for a transfer that was started at time `t`. -/
def arrived (k : SessionKey) (priority extent t : Nat) (tr : CanardTransfer) : CanardTransfer where
  timestampUsec := t
  priority := priority
  transferKind := k.kind
  portId := k.port
  remoteNodeId := k.source
  transferId := tr.transferId % 32
  payload := (txPadded tr.payload).take extent

variable {ι : Type}

/-- Node `i` is the source of the session `k` at node `j`, which has just subscribed; transfers of
the session are addressed to `remote`. -/
structure Link (node : ι → CanardInstance) (i j : ι) (k : SessionKey) (remote : Nat) (l : Listener) :
    Prop where
  ne : j ≠ i
  source : (node i).nodeId = k.source
  named : k.source ≤ CANARD_NODE_ID_MAX
  message : k.kind = .message → remote = CANARD_NODE_ID_UNSET
  service : k.kind ≠ .message → remote = (node j).nodeId
  listens : HasListener (node j) k (some l)
  idle : l.assembly = none
  ports : (node j).PortsDistinct
  memory : (node j).memory.Ample

/-- The two applications have used the library as it wants to be used. -/
structure Disciplined (node : ι → CanardInstance) (net : Network ι) (i j : ι) (k : SessionKey)
    (remote priority : Nat) (l : Listener) : Prop where
  /-- The receiver stays subscribed. -/
  subscribed : ∀ c ∈ net.calls j, (∀ extent timeout, c ≠ .subscribe k.kind k.port extent timeout) ∧
    c ≠ .unsubscribe k.kind k.port
  /-- The sender keeps to one priority. -/
  priority : ∀ tr room, Call.push tr room ∈ net.calls i → IsTo k.kind k.port remote tr →
    tr.priority = priority
  ids : IdsDiffer (transfersQueued (node i).nodeId k.kind k.port remote (net.calls i))
  prompt : InTime l.timeout 0 (framesFor (node j).nodeId k (net.calls j))

/-- A transfer of the session. -/
def sampleTransfer (k : SessionKey) (remote priority : Nat) : CanardTransfer where
  timestampUsec := 0
  priority := priority
  transferKind := k.kind
  portId := k.port
  remoteNodeId := remote
  transferId := 0
  payload := []

section

variable {node : ι → CanardInstance} {net : Network ι} {i j : ι} {k : SessionKey}
  {remote priority : Nat} {l : Listener}

/-- All transfers of the session have one identifier. -/
theorem Disciplined.canId (ho : Disciplined node net i j k remote priority l) (hl : Link node i j k remote l)
    {tr : CanardTransfer} {room : Nat} (hmem : Call.push tr room ∈ net.calls i)
    (hto : IsTo k.kind k.port remote tr) : txMakeCANID tr (node i).nodeId FD_MTU =
      txMakeCANID (sampleTransfer k remote priority) k.source FD_MTU := by
  rw [hl.source]
  exact txMakeCANID_congr hl.named hto.1 hto.2.1 hto.2.2 (ho.priority tr room hmem hto) _ _

/-- The session that a frame is for tells its identifier. -/
theorem Disciplined.read_canId (ho : Disciplined node net i j k remote priority l)
    (hl : Link node i j k remote l) (hstart : Installed node) (hs : Coherent node net)
    {f : CanardFrame} {index : Nat} (hmem : Call.accept f index ∈ net.calls j)
    (hk : sessionOf (node j).nodeId (f, 0) = some k) :
    txMakeCANID (sampleTransfer k remote priority) k.source FD_MTU = some f.extendedCanId := by
  obtain ⟨_, m, tr, room, hpush, hid⟩ := hs.read j f index hmem
  obtain ⟨_, hparse, _⟩ := txMakeCANID_parse hid
  -- what the receiver takes the frame for
  obtain ⟨_, model, hmodel, hdst, hkind, hport, hsource⟩ := sessionOf_eq_some.mp hk
  rw [rxTryParseFrame_canId hmodel, Prod.mk.injEq, Prod.mk.injEq, Prod.mk.injEq,
    Prod.mk.injEq, hkind, hport, hsource] at hparse
  obtain ⟨htrKind, htrPort, hsrc, hremote, _⟩ := hparse
  -- so it is from the sender of this session
  have hm : m = i := by
    refine hstart.names i m (hl.source ▸ hl.named) ?_
    rw [hl.source, hsrc]
    unfold sourceOf at hsrc ⊢
    split
    · rfl
    · rename_i hle
      rw [if_neg hle] at hsrc
      exact absurd (hsrc ▸ hl.named) (by decide)
  subst hm
  have hto : tr.remoteNodeId = remote := by
    by_cases hmsg : k.kind = .message
    · rw [hl.message hmsg]
      obtain ⟨_, ⟨_, hunset, _⟩ | ⟨hservice, _⟩⟩ := txMakeCANID_cases hid
      · exact hunset
      · rw [← htrKind, hmsg] at hservice
        rcases hservice with hservice | hservice
        · cases hservice
        · cases hservice
    · rw [hl.service hmsg, ← hremote]
      refine hdst.resolve_left ?_
      intro hunset
      obtain ⟨_, ⟨hmessage, _⟩ | ⟨_, hle, _⟩⟩ := txMakeCANID_cases hid
      · exact hmsg (htrKind.trans hmessage)
      · rw [← hremote, hunset] at hle
        exact absurd hle (by decide)
  rw [← ho.canId hl hpush ⟨htrKind.symm, htrPort.symm, hto⟩]
  exact hid

/-- The route of the session. -/
def Link.route (hl : Link node i j k remote l) (hstart : Installed node) {canId : Nat}
    (hid : txMakeCANID (sampleTransfer k remote priority) k.source FD_MTU = some canId) : Route where
  canId := canId
  kind := k.kind
  port := k.port
  src := k.source
  dst := remote
  canId_le := (txMakeCANID_parse hid).1
  src_le := hl.named
  parse := by
    have hparse : rxParseCanId canId = (k.kind, k.port, sourceOf k.source, remote,
        decide (k.kind = .message ∨ k.source ≠ remote)) := (txMakeCANID_parse hid).2.1
    have hsource : sourceOf k.source = k.source := if_pos hl.named
    have hother : k.kind = .message ∨ k.source ≠ remote := by
      by_cases hmsg : k.kind = .message
      · exact .inl hmsg
      · refine .inr (fun heq => hl.ne (hstart.names i j (hl.source ▸ hl.named) ?_))
        rw [hl.source, heq, hl.service hmsg]
    rw [hparse, hsource, decide_eq_true hother]

/-- What is queued for the session is what is queued under its identifier. -/
theorem Disciplined.queuedUnder (ho : Disciplined node net i j k remote priority l)
    (hl : Link node i j k remote l) {canId : Nat}
    (hid : txMakeCANID (sampleTransfer k remote priority) k.source FD_MTU = some canId) :
    queuedUnder (node i).nodeId canId (net.calls i) =
      transfersQueued (node i).nodeId k.kind k.port remote (net.calls i) := by
  unfold Canard.queuedUnder transfersQueued
  refine List.filterMap_congr ?_
  intro c hc
  cases c with
  | push tr room =>
      dsimp only
      refine if_congr ?_ rfl rfl
      constructor
      · intro h
        -- the identifier says what the transfer is
        have hparse := (txMakeCANID_parse hid).2.1
        rw [(txMakeCANID_parse h.1).2.1, Prod.mk.injEq, Prod.mk.injEq, Prod.mk.injEq,
          Prod.mk.injEq] at hparse
        obtain ⟨hkind, hport, _, hremote, _⟩ := hparse
        refine ⟨⟨hkind, hport, hremote⟩, ?_⟩
        unfold pushSucceeds
        rw [h.1]
        exact decide_eq_true h.2
      · intro h
        have hown := (ho.canId hl hc h.1).trans hid
        have hroom := h.2
        unfold pushSucceeds at hroom
        rw [hown] at hroom
        exact ⟨hown, of_decide_eq_true hroom⟩
  | pop => rfl
  | accept frame index => rfl
  | subscribe kind portId extent timeout => rfl
  | unsubscribe kind portId => rfl
  | release payload => rfl

/-- What comes out for a session is what its listener makes of the frames for it. -/
theorem outputs_framesFor {nodeId : Nat} {calls : List Call}
    (hsub : ∀ c ∈ calls, (∀ extent timeout, c ≠ .subscribe k.kind k.port extent timeout) ∧
      c ≠ .unsubscribe k.kind k.port)
    (hindex : ∀ f index, Call.accept f index ∈ calls → index = 0) :
    ∀ l : Listener, outputs (listenerCall Grant.all) (some l) (inputsFor (concerns nodeId) k calls) =
      outputs Listener.receive l (framesFor nodeId k calls) := by
  -- both sides see one list of frames
  have hinputs : inputsFor (concerns nodeId) k calls =
      (framesFor nodeId k calls).map (fun f => Call.accept f 0) := by
    unfold inputsFor framesFor framesRead
    induction calls with
    | nil => rfl
    | cons c calls ih =>
        have hrest := ih (fun d hd => hsub d (List.mem_cons_of_mem _ hd))
          (fun f index hf => hindex f index (List.mem_cons_of_mem _ hf))
        obtain ⟨hs, hu⟩ := hsub c List.mem_cons_self
        cases c with
        | accept f index =>
            obtain rfl := hindex f index List.mem_cons_self
            by_cases hk : sessionOf nodeId (f, 0) = some k
            · rw [List.filter_cons_of_pos (show concerns nodeId k (.accept f 0) = true from
                decide_eq_true hk), hrest]
              simp [hk]
            · rw [List.filter_cons_of_neg (show ¬ concerns nodeId k (.accept f 0) = true from
                fun hc => hk (of_decide_eq_true hc)), hrest]
              simp [hk]
        | subscribe kind portId extent timeout =>
            have hno : ¬ concerns nodeId k (.subscribe kind portId extent timeout) = true := by
              intro hc
              obtain ⟨rfl, rfl⟩ := of_decide_eq_true hc
              exact hs extent timeout rfl
            rw [List.filter_cons_of_neg hno, List.filterMap_cons_none rfl, hrest]
        | unsubscribe kind portId =>
            have hno : ¬ concerns nodeId k (.unsubscribe kind portId) = true := by
              intro hc
              obtain ⟨rfl, rfl⟩ := of_decide_eq_true hc
              exact hu rfl
            rw [List.filter_cons_of_neg hno, List.filterMap_cons_none rfl, hrest]
        | push transfer room => exact hrest
        | pop => exact hrest
        | release payload => exact hrest
  intro l
  rw [hinputs, outputs_receive]

/-- The frames for the session are those with its identifier. -/
theorem Disciplined.lane (ho : Disciplined node net i j k remote priority l)
    (hl : Link node i j k remote l) (hstart : Installed node) (hs : Coherent node net) {canId : Nat}
    (hid : txMakeCANID (sampleTransfer k remote priority) k.source FD_MTU = some canId) :
    framesFor (node j).nodeId k (net.calls j) =
      StableQueue.lane CanardFrame.extendedCanId canId (framesRead (net.calls j)) := by
  have howns : Owns node i canId := hstart.owns (hl.source ▸ hl.named) (by rw [hl.source]; exact hid)
  have hflow := hs.flow i j canId hl.ne howns
  unfold framesFor StableQueue.lane
  refine List.filter_congr (fun f hf => decide_eq_decide.mpr ?_)
  obtain ⟨c, hc, hcf⟩ := List.mem_filterMap.mp hf
  constructor
  · intro hk
    cases c with
    | accept g index =>
        obtain rfl := Option.some.inj hcf
        have hread := ho.read_canId hl hstart hs hc hk
        rw [hid] at hread
        exact (Option.some.inj hread).symm
    | push transfer room => cases hcf
    | pop => cases hcf
    | subscribe kind portId extent timeout => cases hcf
    | unsubscribe kind portId => cases hcf
    | release payload => cases hcf
  · intro heq
    -- it is a frame of a transfer, and so valid
    have hlane : f.payload ∈ lanePayloads canId (framesRead (net.calls j)) :=
      List.mem_map_of_mem (List.mem_filter.mpr ⟨hf, decide_eq_true heq⟩)
    have hmem : f.payload ∈ framePayloads canId (Canard.queuedUnder (node i).nodeId canId
        (net.calls i)) := by
      rw [← hflow]
      exact List.mem_append_left _ (List.mem_append_left _ hlane)
    obtain ⟨tr, _, hpayload⟩ := List.mem_flatMap.mp hmem
    obtain ⟨p, sot, eot, toggle, hp, hsot, h7, h0⟩ := txTransferFrames_wellFormed hpayload
    have hparse := rxTryParseFrame_tailed (by rw [heq]; exact (hl.route hstart hid).parse)
      (hl.route hstart hid).src_le hp hsot h7 h0
    have hdst : remote = CANARD_NODE_ID_UNSET ∨ remote = (node j).nodeId := by
      by_cases hmsg : k.kind = .message
      · exact .inl (hl.message hmsg)
      · exact .inr (hl.service hmsg)
    refine sessionOf_eq_some.mpr ⟨heq ▸ (txMakeCANID_parse hid).1, _, hparse, hdst, rfl, rfl, rfl⟩

/-- What comes out is a first part of what was queued, in any network that is coherent. -/
theorem coherent_delivers (hs : Coherent node net) (hstart : Installed node)
    (hl : Link node i j k remote l) (ho : Disciplined node net i j k remote priority l) :
    ∃ front, front <+: transfersQueued (node i).nodeId k.kind k.port remote (net.calls i) ∧
      ((net.node i).txQueue = [] → net.inbox j = [] →
        front = transfersQueued (node i).nodeId k.kind k.port remote (net.calls i)) ∧
      List.Forall₂ (fun tr got => ∃ t, got = arrived k priority l.extent t tr) front
        (outputsOf transferSession k (handouts (node j) (net.calls j))) := by
  have hout : outputsOf transferSession k (handouts (node j) (net.calls j)) =
      outputs Listener.receive l (framesFor (node j).nodeId k (net.calls j)) := by
    rw [← outputs_framesFor ho.subscribed (fun f index hf => (hs.read j f index hf).1) l]
    exact (call_simulates_ample (node j).nodeId).outputsOf_eq (fun _ _ _ _ _ heq => heq)
      ⟨⟨rfl, hl.ports⟩, hl.memory⟩ hl.listens (net.calls j)
  rw [hout]
  have hprompt := ho.prompt
  have hids := ho.ids
  cases hid : txMakeCANID (sampleTransfer k remote priority) k.source FD_MTU with
  | some canId =>
      have howns : Owns node i canId :=
        hstart.owns (hl.source ▸ hl.named) (by rw [hl.source]; exact hid)
      have hflow := hs.flow i j canId hl.ne howns
      rw [ho.queuedUnder hl hid, List.append_assoc, ← lanePayloads_append] at hflow
      rw [ho.lane hl hstart hs hid] at hprompt ⊢
      obtain ⟨front, hprefix, hall, hdelivered⟩ := @Between.transfers_prefix (hl.route hstart hid)
        (transfersQueued (node i).nodeId k.kind k.port remote (net.calls i)) l
        (StableQueue.lane CanardFrame.extendedCanId canId (framesRead (net.calls j)))
        (lanePayloads canId (net.inbox j ++ (net.node i).txQueue)) 0
        (fun tr _ a ha => by rw [hl.idle] at ha; cases ha) hids hflow
        (fun f hf => of_decide_eq_true (List.mem_filter.mp hf).2) hprompt
      refine ⟨front, hprefix, fun hq hin => hall (by rw [hq, hin]; rfl), hdelivered.imp ?_⟩
      intro tr got hgot
      obtain ⟨t, rfl⟩ := hgot
      refine ⟨t, ?_⟩
      have hprio : (canId >>> 26) &&& CANARD_PRIORITY_MAX = priority := (txMakeCANID_parse hid).2.2
      unfold Route.received Route.transfer arrived
      rw [show (hl.route hstart hid).canId = canId from rfl, hprio]
      rfl
  | none =>
      -- nothing of this kind can be sent
      have hnone : framesFor (node j).nodeId k (net.calls j) = [] := by
        refine List.filter_eq_nil_iff.mpr ?_
        intro f hf hk
        obtain ⟨c, hc, hcf⟩ := List.mem_filterMap.mp hf
        cases c with
        | accept g index =>
            obtain rfl := Option.some.inj hcf
            have hread := ho.read_canId hl hstart hs hc (of_decide_eq_true hk)
            rw [hid] at hread
            cases hread
        | push transfer room => cases hcf
        | pop => cases hcf
        | subscribe kind portId extent timeout => cases hcf
        | unsubscribe kind portId => cases hcf
        | release payload => cases hcf
      have hempty : transfersQueued (node i).nodeId k.kind k.port remote (net.calls i) = [] := by
        refine List.filterMap_eq_nil_iff.mpr ?_
        intro c hc
        cases c with
        | push tr room =>
            refine if_neg ?_
            intro h
            have hroom := h.2
            unfold pushSucceeds at hroom
            rw [ho.canId hl hc h.1, hid] at hroom
            cases hroom
        | pop => rfl
        | accept frame index => rfl
        | subscribe kind portId extent timeout => rfl
        | unsubscribe kind portId => rfl
        | release payload => rfl
      rw [hnone, hempty]
      exact ⟨[], List.prefix_refl _, fun _ _ => rfl, .nil⟩

end

/-- A node that sends, and one that has subscribed to port 100. -/
def senderAndReceiver : Bool → CanardInstance
  | true => { silentInstance with nodeId := 5 }
  | false => { (canardRxSubscribe silentInstance .message 100 8 1000).1 with nodeId := 6 }

theorem senderAndReceiver_installed : Installed senderAndReceiver where
  names := by
    intro i j _ heq
    cases i with
    | true => cases j with
      | true => rfl
      | false => cases heq
    | false => cases j with
      | true => cases heq
      | false => rfl
  mtu := fun i => by cases i <;> rfl
  queue := fun i => by cases i <;> rfl

/-- A message goes from one to the other. -/
def oneMessage : List (BusEvent Bool) :=
  [.call true (.push (messageTransfer CANARD_NODE_ID_UNSET 3 9#8) 1), .transmit true,
    .receive false 7]

end Wlmio.Proof
