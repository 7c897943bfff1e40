import Mathlib.Data.List.Forall2
import Wlmio.Library.History
import Wlmio.Proof.Scenario
import Wlmio.Tools.Fwupdate

/-!
# Whom the firmware server answers

Every request for a part of the file is answered with that part and with its own transfer
identifier, but always to the node under update, whoever has asked. So the server answers the
node that asked exactly when no other node asks (`server_answers_iff`).
-/

namespace Wlmio.Proof

open Wlmio.Client Wlmio.Canard Wlmio.Tools

/-! ## What is asked and answered -/

/-- The part of the file at an offset. -/
def block (data : List Byte) (offset : Nat) : List Byte := (data.drop offset).take 256

/-- The payload that carries it: no error, the size, the bytes. -/
def blockPayload (data : List Byte) (offset : Nat) : List Byte :=
  [0#8, 0#8] ++ Bytes.ofNat 2 (block data offset).length ++ block data offset

/-- The offset a request asks for is the number in its first five bytes. -/
def askedOffset (q : CanardTransfer) : Nat := Bytes.toNat (Bytes.window q.payload 0 5)

/-- What the server makes of a request. -/
def answer (data : List Byte) (node : Nat) (q : CanardTransfer) : CanardTransfer :=
  { q with
    transferKind := .response
    remoteNodeId := node
    payload := blockPayload data (askedOffset q) }

/-- The request that a pass receives: a transfer that is complete and not empty. -/
def heard (s : Server) : Pass → List CanardTransfer
  | .nothing => []
  | .frame frame _ _ =>
    ((s.receiveTransfer frame).2.toList.map Prod.fst).filter (fun q => decide (q.payload ≠ []))

/-- The request that a step answers. One that goes wrong is the last. -/
def asked (s : Server) (p : Pass) (s' : Server) : List CanardTransfer :=
  if s'.fault.isSome then [] else heard s p

/-- The states in which `main` enters its loop. -/
def Started (s : Server) : Prop := ∃ os, startServer os = some s

/-- The runs of the server, with the requests it has answered. -/
abbrev ServerRun : List CanardTransfer → Server → Prop :=
  Transition.Observes Server.step asked Transition.free Started

/-- The responses among what has been pushed. -/
def responses (s : Server) : List CanardTransfer :=
  s.pushed.filter (fun tr => decide (tr.transferKind = .response))

/-! ## One answer -/

/-- All frames go out. -/
theorem uavcanSend_eq (s : Server) : s.uavcanSend =
    { s with
      canard := { s.canard with txQueue := [] }
      sent := s.sent ++ s.canard.txQueue.map toCanfd } := by
  have hloop : ∀ (queue : List CanardFrame) (s : Server), s.canard.txQueue = queue →
      s.sendFrames queue.length =
        { s with
          canard := { s.canard with txQueue := [] }
          sent := s.sent ++ queue.map toCanfd } := by
    intro queue
    induction queue with
    | nil =>
        intro s hq
        show s = _
        rw [List.map_nil, List.append_nil, ← hq]
    | cons f queue ih =>
        intro s hq
        have hpeek : canardTxPeek s.canard = some f := by
          unfold canardTxPeek
          rw [hq]
          rfl
        have hpop : (canardTxPop s.canard).txQueue = queue := by
          unfold canardTxPop
          rw [hq]
          rfl
        rw [List.length_cons, Server.sendFrames, hpeek]
        dsimp only
        rw [ih _ hpop, List.map_cons, List.append_assoc, List.singleton_append]
        rfl
  exact hloop _ s rfl

theorem bytesToSend_eq (data : List Byte) (offset : Nat) :
    bytesToSend data.length offset = (block data offset).length := by
  unfold bytesToSend block
  rw [List.length_take, List.length_drop]
  dsimp only
  split
  · omega
  · split
    · omega
    · omega

/-- The size is put into the buffer, and the bytes behind it, within the bounds of the buffer and of
the file. -/
theorem filled (data : List Byte) (offset : Nat) : ∃ payload full,
    Bytes.copy (List.replicate 260 0#8) 2 (Bytes.ofNat 8 (block data offset).length) 0 2 =
      some payload ∧
    Bytes.copy payload 4 data offset (block data offset).length = some full ∧
    full.take (4 + (block data offset).length) = blockPayload data offset := by
  have hlen : (block data offset).length = min 256 (data.length - offset) := by
    unfold block
    rw [List.length_take, List.length_drop]
  have hsize : (Bytes.ofNat 2 (block data offset).length).length = 2 := Bytes.length_ofNat 2 _
  let head := [0#8, 0#8] ++ Bytes.ofNat 2 (block data offset).length
  have hhead : head.length = 4 := by
    show ([0#8, 0#8] ++ Bytes.ofNat 2 (block data offset).length).length = 4
    rw [List.length_append, hsize]
    rfl
  have hput : Bytes.copy (List.replicate 260 0#8) 2 (Bytes.ofNat 8 (block data offset).length) 0 2 =
      some (head ++ List.replicate 256 0#8) := by
    rw [Bytes.copy_of_le (by rw [Bytes.length_ofNat]; omega) (by rw [List.length_replicate]; omega),
      List.drop_zero, Bytes.take_ofNat (by omega), List.take_replicate, List.drop_replicate]
    rfl
  by_cases hzero : (block data offset).length = 0
  · refine ⟨_, head ++ List.replicate 256 0#8, hput, by rw [hzero, Bytes.copy_zero], ?_⟩
    rw [hzero, List.take_left' hhead]
    show head = head ++ block data offset
    rw [List.length_eq_zero_iff.mp hzero, List.append_nil]
  · refine ⟨_, head ++ block data offset ++ (List.replicate 256 0#8).drop (block data offset).length,
      hput, ?_, ?_⟩
    · have hwhole : (data.drop offset).take (block data offset).length = block data offset := by
        unfold block
        rw [List.length_take]
        exact List.take_eq_take_min.symm
      have hrest : (head ++ List.replicate 256 0#8).drop (4 + (block data offset).length) =
          (List.replicate 256 0#8).drop (block data offset).length := by
        rw [← List.drop_drop, List.drop_left' hhead]
      rw [Bytes.copy_of_le (by omega) (by rw [List.length_append, hhead, List.length_replicate]; omega),
        List.take_left' hhead, hwhole, hrest]
    · rw [List.take_left' (by rw [List.length_append, hhead])]
      rfl

theorem askedOffset_read (q : CanardTransfer) :
    canardDSDLGetU64 q.payload 0 40 = some (askedOffset q) := by
  unfold askedOffset
  rw [Bytes.toNat_window]
  exact canardDSDLGetUxx_bytes (w := 8) (k := 5) (by omega) q.payload 0

/-- The state when the payload of a request has been freed. -/
def freed (s : Server) (buffer : Option Buffer) : Server :=
  { s with canard := { s.canard with memory := s.canard.memory.free buffer } }

/-- **A request is answered as `answer` says**, if there is memory for the response. -/
theorem serve_answers (s : Server) {q : CanardTransfer} (hq : q.payload ≠ [])
    (buffer : Option Buffer) (malloc : Bool) (txRoom : Nat) :
    s.serve q buffer malloc txRoom =
      if malloc then .ok (((freed s buffer).push (answer s.data s.nodeId q) txRoom).uavcanSend)
      else .error .nullDereference := by
  have hlen : ¬ q.payload.length = 0 := fun h => hq (List.length_eq_zero_iff.mp h)
  have hgot : ∀ n, got (some n) = .ok n := fun _ => rfl
  have hcopied : ∀ bs, copied (some bs) = .ok bs := fun _ => rfl
  unfold Server.serve
  rw [if_neg hlen]
  dsimp only
  rw [Nat.zero_shiftLeft, askedOffset_read, hgot, Fallible.ok_bind]
  cases malloc with
  | false => rfl
  | true =>
      obtain ⟨payload, full, hput, hfill, htake⟩ := filled s.data (askedOffset q)
      rw [if_neg (by decide), if_pos rfl, bytesToSend_eq, hput, hcopied, Fallible.ok_bind, hfill,
        hcopied, Fallible.ok_bind, htake]
      rfl

/-! ## Runs -/

/-- The file and the node stay, and each request has been answered. -/
structure AnsweredEach (s : Server) (qs : List CanardTransfer) (s' : Server) : Prop where
  nodeId : s'.nodeId = s.nodeId
  data : s'.data = s.data
  pushed : s'.pushed = s.pushed ++ qs.map (answer s.data s.nodeId)

/-- Receiving changes the receiving side of the instance only. -/
theorem receiveTransfer_eq (s : Server) (frame : CanardFrame) :
    ∃ canard transfer, SameTx s.canard canard ∧
      s.receiveTransfer frame = ({ s with canard := canard }, transfer) := by
  rcases hacc : canardRxAccept s.canard
    { frame with extendedCanId := frame.extendedCanId &&& 0x1FFFFFFF } 0 with ⟨canard, out, transfer⟩
  refine ⟨canard, transfer, (canardRxAccept_spec hacc).1, ?_⟩
  unfold Server.receiveTransfer
  dsimp only
  rw [hacc]

/-- **What a pass does with a frame**: it hears nothing, or one request, which it answers. -/
theorem pass_frame (s : Server) (frame : CanardFrame) (malloc : Bool) (txRoom : Nat) :
    ∃ canard, SameTx s.canard canard ∧ (s.receiveTransfer frame).1 = { s with canard := canard } ∧
      ((heard s (.frame frame malloc txRoom) = [] ∧
          s.pass (.frame frame malloc txRoom) = .ok { s with canard := canard }) ∨
        ∃ q buffer, heard s (.frame frame malloc txRoom) = [q] ∧
          s.pass (.frame frame malloc txRoom) =
            if malloc then .ok (((freed { s with canard := canard } buffer).push
              (answer s.data s.nodeId q) txRoom).uavcanSend)
            else .error .nullDereference) := by
  obtain ⟨canard, transfer, htx, hrecv⟩ := receiveTransfer_eq s frame
  refine ⟨canard, htx, by rw [hrecv], ?_⟩
  unfold Server.pass heard
  dsimp only
  rw [hrecv]
  cases transfer with
  | none => exact .inl ⟨rfl, rfl⟩
  | some transfer =>
      obtain ⟨q, buffer⟩ := transfer
      by_cases hq : q.payload = []
      · have hserve : Server.serve { s with canard := canard } q buffer malloc txRoom =
            .ok { s with canard := canard } := by
          unfold Server.serve
          rw [if_pos (by rw [hq]; rfl)]
        exact .inl ⟨by simp [hq], hserve⟩
      · exact .inr ⟨q, buffer, by simp [hq], serve_answers { s with canard := canard } hq _ _ _⟩

/-- A pass answers what it receives, unless the memory for the response is refused. -/
theorem pass_cases (s : Server) (p : Pass) :
    (∃ s', s.pass p = .ok s' ∧ s'.fault = s.fault ∧ AnsweredEach s (heard s p) s') ∨
      ∃ f frame txRoom, s.pass p = .error f ∧ p = .frame frame false txRoom := by
  have hnothing : ∀ canard, AnsweredEach s [] { s with canard := canard } :=
    fun canard => ⟨rfl, rfl, (List.append_nil _).symm⟩
  cases p with
  | nothing => exact .inl ⟨s, rfl, rfl, hnothing s.canard⟩
  | frame frame malloc txRoom =>
      obtain ⟨canard, _, _, ⟨hheard, hpass⟩ | ⟨q, buffer, hheard, hpass⟩⟩ :=
        pass_frame s frame malloc txRoom
      · exact .inl ⟨_, hpass, rfl, hheard ▸ hnothing canard⟩
      · cases malloc with
        | false => exact .inr ⟨_, frame, txRoom, hpass, rfl⟩
        | true =>
            refine .inl ⟨_, hpass, ?_, ?_⟩
            · rw [uavcanSend_eq]
              rfl
            · rw [uavcanSend_eq, hheard]
              exact ⟨rfl, rfl, rfl⟩

theorem step_answers {s s' : Server} {p : Pass} (h : s.step p = some s') :
    AnsweredEach s (asked s p s') s' := by
  unfold Server.step at h
  split at h
  · cases h
  rename_i hfault
  rcases pass_cases s p with ⟨s₁, hpass, hkept, hanswered⟩ | ⟨f, frame, txRoom, hpass, _⟩
  · rw [hpass] at h
    obtain rfl := Option.some.inj h
    unfold asked
    rw [hkept, if_neg hfault]
    exact hanswered
  · rw [hpass] at h
    obtain rfl := Option.some.inj h
    exact ⟨rfl, rfl, (List.append_nil _).symm⟩

/-- When the loop begins the command has been pushed, and nothing else. -/
theorem started_cases {s : Server} (h : Started s) :
    ∃ canard nodeId data txRoom, (∀ k, canard.rxSubscriptions k = []) ∧ nodeId ≤ 127 ∧
      s = (Server.push ⟨(canardRxSubscribe canard .request 408 261
        CANARD_DEFAULT_TRANSFER_ID_TIMEOUT_USEC).1, nodeId, data, [], [], none⟩
          (startCommand nodeId) txRoom).uavcanSend := by
  obtain ⟨os, h⟩ := h
  unfold startServer at h
  dsimp only at h
  split at h
  · cases h
  split at h
  · cases h
  split at h
  · cases h
  split at h
  · cases h
  split at h
  · cases h
  split at h
  · cases h
  · rename_i hnode
    refine ⟨_, _, _, _, ?_, by omega, (Option.some.inj h).symm⟩
    intro k
    rfl

theorem started_pushed {s : Server} (h : Started s) : s.pushed = [startCommand s.nodeId] := by
  obtain ⟨canard, nodeId, data, txRoom, _, _, rfl⟩ := started_cases h
  rw [uavcanSend_eq]
  rfl

/-- **What has been pushed**: the command to the node, and an answer to each request, in order. -/
theorem serverRun_pushed {qs : List CanardTransfer} {s : Server} (h : ServerRun qs s) :
    s.pushed = startCommand s.nodeId :: qs.map (answer s.data s.nodeId) := by
  induction h with
  | init h => exact started_pushed h
  | step _ _ hs ih =>
      have hstep := step_answers hs
      rw [hstep.pushed, hstep.nodeId, hstep.data, ih, List.map_append, List.cons_append]

theorem serverRun_responses {qs : List CanardTransfer} {s : Server} (h : ServerRun qs s) :
    responses s = qs.map (answer s.data s.nodeId) := by
  unfold responses
  rw [serverRun_pushed h, List.filter_cons_of_neg (by simp [startCommand]), List.filter_eq_self]
  intro tr htr
  obtain ⟨q, _, rfl⟩ := List.mem_map.mp htr
  simp [answer]

/-- Only file reads are subscribed to. -/
def Listens (canard : CanardInstance) : Prop :=
  ∀ k, (canard.rxSubscriptions k).map CanardRxSubscription.portId = if k = .request then [408] else []

theorem Listens.of_eq {canard canard' : CanardInstance} (h : Listens canard)
    (heq : canard'.rxSubscriptions = canard.rxSubscriptions) : Listens canard' := by
  intro k
  rw [heq]
  exact h k

theorem started_listens {s : Server} (h : Started s) : Listens s.canard := by
  obtain ⟨canard, nodeId, data, txRoom, hempty, _, rfl⟩ := started_cases h
  rw [uavcanSend_eq]
  refine Listens.of_eq ?_ (canardTxPush_rx _ _ _).2
  intro k
  unfold canardRxSubscribe canardRxUnsubscribe
  rw [hempty]
  dsimp only [List.find?_nil]
  split
  · rw [hempty]
    rfl
  · rw [hempty]
    rfl

theorem receiveTransfer_listens {s s₁ : Server} {frame : CanardFrame} {transfer : Option RxTransfer}
    (hl : Listens s.canard) (h : s.receiveTransfer frame = (s₁, transfer)) :
    Listens s₁.canard ∧
      ∀ q b, transfer = some (q, b) → q.transferKind = .request ∧ q.portId = 408 := by
  unfold Server.receiveTransfer at h
  obtain ⟨rfl, rfl⟩ := Prod.mk.inj h
  rcases hacc : canardRxAccept s.canard
    { frame with extendedCanId := frame.extendedCanId &&& 0x1FFFFFFF } 0 with ⟨canard, out, transfer⟩
  obtain ⟨hsame, hport⟩ := canardRxAccept_ports hacc
  refine ⟨fun k => (hsame k).trans (hl k), fun q b hq => ?_⟩
  have hmem := hport q b hq
  rw [hl] at hmem
  split at hmem
  · rename_i hkind
    exact ⟨hkind, List.mem_singleton.mp hmem⟩
  · cases hmem

theorem step_listens {s s' : Server} {p : Pass} (hl : Listens s.canard) (h : s.step p = some s') :
    Listens s'.canard ∧ ∀ q ∈ heard s p, q.transferKind = .request ∧ q.portId = 408 := by
  unfold Server.step at h
  split at h
  · cases h
  cases p with
  | nothing =>
      obtain rfl := Option.some.inj h
      exact ⟨hl, fun q hq => by cases hq⟩
  | frame frame malloc txRoom =>
      unfold Server.pass at h
      unfold heard
      dsimp only at h ⊢
      rcases hrecv : s.receiveTransfer frame with ⟨s₁, transfer⟩
      obtain ⟨hl₁, hread⟩ := receiveTransfer_listens hl hrecv
      rw [hrecv] at h
      cases transfer with
      | none =>
          obtain rfl := Option.some.inj h
          exact ⟨hl₁, fun q hq => by cases hq⟩
      | some transfer =>
          obtain ⟨q, buffer⟩ := transfer
          constructor
          · dsimp only at h
            split at h
            · rename_i s₂ hserve
              obtain rfl := Option.some.inj h
              by_cases hq : q.payload = []
              · unfold Server.serve at hserve
                rw [if_pos (by rw [hq]; rfl)] at hserve
                rwa [← Except.ok.inj hserve]
              · rw [serve_answers s₁ hq] at hserve
                split at hserve
                · rw [← Except.ok.inj hserve, uavcanSend_eq]
                  exact hl₁.of_eq (canardTxPush_rx _ _ _).2
                · cases hserve
            · obtain rfl := Option.some.inj h
              exact hl
          · intro q' hq'
            obtain rfl : q' = q := by simpa using (List.mem_filter.mp hq').1
            exact hread q' buffer rfl

/-- **Only file reads are answered.** -/
theorem serverRun_reads {qs : List CanardTransfer} {s : Server} (h : ServerRun qs s) :
    ∀ q ∈ qs, q.transferKind = .request ∧ q.portId = 408 := by
  have hboth : Listens s.canard ∧ ∀ q ∈ qs, q.transferKind = .request ∧ q.portId = 408 := by
    induction h with
    | init h => exact ⟨started_listens h, by simp⟩
    | step _ _ hs ih =>
        obtain ⟨hl, hall⟩ := step_listens ih.1 hs
        refine ⟨hl, ?_⟩
        intro q hq
        rcases List.mem_append.mp hq with hq | hq
        · exact ih.2 q hq
        · unfold asked at hq
          split at hq
          · cases hq
          · exact hall q hq
  exact hboth.2

/-- The server answers the node that asked. -/
structure AnswersAsker (qs : List CanardTransfer) (s : Server) : Prop where
  /-- Each response goes to the node its request came from, and has its transfer identifier. -/
  each : List.Forall₂ (fun q r => r.remoteNodeId = q.remoteNodeId ∧ r.transferId = q.transferId)
    qs (responses s)
  /-- The node under update gets no part of the file that it has not asked for itself. -/
  own : ∀ r ∈ responses s, r.remoteNodeId = s.nodeId →
    ∃ q ∈ qs, q.remoteNodeId = s.nodeId ∧ r.transferId = q.transferId ∧
      r.payload = blockPayload s.data (askedOffset q)

/-- The node under update gets every response, so it must have made every request. -/
theorem each_iff {qs : List CanardTransfer} {s : Server} (h : ServerRun qs s) :
    List.Forall₂ (fun q r => r.remoteNodeId = q.remoteNodeId ∧ r.transferId = q.transferId) qs
      (responses s) ↔ ∀ q ∈ qs, q.remoteNodeId = s.nodeId := by
  rw [serverRun_responses h, List.forall₂_map_right_iff, List.forall₂_same]
  constructor
  · intro hall q hq
    exact (hall q hq).1.symm
  · intro hall q hq
    exact ⟨(hall q hq).symm, rfl⟩

/-- **The server answers the node that asked exactly when** no node but the one under update
asks. -/
theorem server_answers_iff {qs : List CanardTransfer} {s : Server} (h : ServerRun qs s) :
    AnswersAsker qs s ↔ ∀ q ∈ qs, q.remoteNodeId = s.nodeId := by
  constructor
  · intro hanswers
    exact (each_iff h).mp hanswers.each
  · intro hall
    refine ⟨(each_iff h).mpr hall, ?_⟩
    intro r hr _
    rw [serverRun_responses h] at hr
    obtain ⟨q, hq, rfl⟩ := List.mem_map.mp hr
    exact ⟨q, hq, hall q hq, rfl, rfl⟩

/-- An update of node 7 by node 5. -/
def updateOs : MainOs := ⟨3, some [1#8, 2#8, 3#8], true, some 7, some 5#7, ampleMemory, 100⟩

/-- A node asks for the beginning of the file. -/
def readFrame (node tid : Nat) : CanardFrame where
  timestampUsec := 0
  extendedCanId := txMakeServiceSessionSpecifier 408 true node 5 ||| (4 <<< 26)
  payload := List.replicate 5 0#8 ++ [txMakeTailByte true true true tid]

/-- A run with one request that can be evaluated. -/
theorem exists_served (p : Pass) (P : List CanardTransfer → Server → Bool)
    (h : (startServer updateOs).any (fun s => (s.step p).any (fun s' => P (asked s p s') s')) = true) :
    ∃ qs s, ServerRun qs s ∧ P qs s = true := by
  obtain ⟨s, hs, h⟩ := (Option.any_eq_true _ _).mp h
  obtain ⟨s', hs', h⟩ := (Option.any_eq_true _ _).mp h
  have hrun : ServerRun ([] ++ asked s p s') s' := .step (.init ⟨_, hs⟩) trivial hs'
  exact ⟨asked s p s', s', hrun, h⟩

/-- Node 7 asks. -/
theorem server_answers_7 : ∃ qs s, ServerRun qs s ∧ qs.length = 1 ∧ AnswersAsker qs s := by
  obtain ⟨qs, s, h, hp⟩ := exists_served (.frame (readFrame 7 3) true 100)
    (fun qs s => decide (qs.length = 1 ∧ ∀ q ∈ qs, q.remoteNodeId = s.nodeId)) (by decide +kernel)
  obtain ⟨hlen, hall⟩ := of_decide_eq_true hp
  exact ⟨qs, s, h, hlen, (server_answers_iff h).mpr hall⟩

/-- **Node 9 asks, and node 7 is answered**, with the identifier of the transfer of node 9. -/
theorem server_misroutes : ∃ qs s, ServerRun qs s ∧ ¬ AnswersAsker qs s ∧
    (∀ q ∈ qs, q.remoteNodeId = 9) ∧
    (responses s).map (fun r => (r.remoteNodeId, r.transferId)) = [(7, 3)] := by
  obtain ⟨qs, s, h, hp⟩ := exists_served (.frame (readFrame 9 3) true 100)
    (fun qs s => decide ((∀ q ∈ qs, q.remoteNodeId = 9) ∧ ¬ (∀ q ∈ qs, q.remoteNodeId = s.nodeId) ∧
      (responses s).map (fun r => (r.remoteNodeId, r.transferId)) = [(7, 3)])) (by decide +kernel)
  obtain ⟨hnine, hother, hmap⟩ := of_decide_eq_true hp
  exact ⟨qs, s, h, fun hanswers => hother ((each_iff h).mp hanswers.each), hnine, hmap⟩

end Wlmio.Proof
