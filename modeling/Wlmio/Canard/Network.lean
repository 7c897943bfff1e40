import Wlmio.Canard.Delivery
import Mathlib.Logic.Function.Basic

/-!
# Nodes on a bus

Any number of nodes, each with an instance of the library. An application pushes and
subscribes as it likes; a node puts the head of its queue on the bus, from where it gets
into the inbox of every other node; a node reads its inbox in order. These steps
interleave in any way.

A CAN identifier belongs to one node. So for each of them what a node has read and what
is still on the way to it are the frames of the transfers that were queued under that
identifier, in order (`Coherent.flow`): an invariant of every step.
-/

namespace Wlmio.Canard

open Demultiplexer

/-- The nodes, the frames that each has not read yet, and what each has called so far. -/
structure Network (ι : Type) where
  node : ι → CanardInstance
  inbox : ι → List CanardFrame
  calls : ι → List Call

/-- What can happen next. -/
inductive BusEvent (ι : Type) where
  /-- The application of a node makes a call. -/
  | call (i : ι) (c : Call)
  /-- A node sends the head of its queue. -/
  | transmit (i : ι)
  /-- A node reads a frame. -/
  | receive (i : ι) (now : Nat)

/-- The calls by which a node moves frames are not the application's. -/
def Call.ofApplication : Call → Bool
  | .pop => false
  | .accept _ _ => false
  | _ => true

variable {ι : Type} [DecidableEq ι]

namespace Network

def perform (net : Network ι) (i : ι) (c : Call) : Network ι :=
  { net with
    node := Function.update net.node i ((net.node i).call c).1
    calls := Function.update net.calls i (net.calls i ++ [c]) }

def step (net : Network ι) : BusEvent ι → Network ι
  | .call i c => if c.ofApplication then net.perform i c else net
  | .transmit i =>
    match canardTxPeek (net.node i) with
    | none => net
    | some f =>
      { net.perform i .pop with
        inbox := fun j => if j = i then net.inbox j else net.inbox j ++ [f] }
  | .receive i now =>
    match net.inbox i with
    | [] => net
    | f :: fs =>
      { net.perform i (.accept { f with timestampUsec := now } 0) with
        inbox := Function.update net.inbox i fs }

/-- The network when nothing has happened yet. -/
def start (node : ι → CanardInstance) : Network ι where
  node := node
  inbox := fun _ => []
  calls := fun _ => []

/-- The network after some events. -/
def run (net : Network ι) (events : List (BusEvent ι)) : Network ι := events.foldl step net

end Network

/-! ## What is sent and what is read -/

/-- What has been queued under an identifier. -/
def queuedUnder (nodeId canId : Nat) (calls : List Call) : List CanardTransfer :=
  calls.filterMap (fun c =>
    match c with
    | .push tr room =>
      if txMakeCANID tr nodeId FD_MTU = some canId ∧ (txTransferFrames FD_MTU canId tr).length ≤ room
      then some tr else none
    | _ => none)

/-- The frames that were read. -/
def framesRead (calls : List Call) : List CanardFrame :=
  calls.filterMap (fun c =>
    match c with
    | .accept frame _ => some frame
    | _ => none)

theorem queuedUnder_append (nodeId canId : Nat) (calls calls' : List Call) :
    queuedUnder nodeId canId (calls ++ calls') =
      queuedUnder nodeId canId calls ++ queuedUnder nodeId canId calls' := List.filterMap_append

theorem framesRead_append (calls calls' : List Call) :
    framesRead (calls ++ calls') = framesRead calls ++ framesRead calls' := List.filterMap_append

theorem framePayloads_append (canId : Nat) (trs trs' : List CanardTransfer) :
    framePayloads canId (trs ++ trs') = framePayloads canId trs ++ framePayloads canId trs' :=
  List.flatMap_append

/-- The payloads of the frames with an identifier. -/
def lanePayloads (canId : Nat) (frames : List CanardFrame) : List (List Byte) :=
  (StableQueue.lane CanardFrame.extendedCanId canId frames).map CanardFrame.payload

theorem lanePayloads_append (canId : Nat) (fs gs : List CanardFrame) :
    lanePayloads canId (fs ++ gs) = lanePayloads canId fs ++ lanePayloads canId gs := by
  unfold lanePayloads
  rw [StableQueue.lane_append, List.map_append]

theorem lanePayloads_other {canId : Nat} {f : CanardFrame} (h : f.extendedCanId ≠ canId) :
    lanePayloads canId [f] = [] := by
  unfold lanePayloads
  rw [StableQueue.lane_eq_nil (fun g hg => by rw [List.mem_singleton.mp hg]; exact h)]
  rfl

theorem lanePayloads_time (canId : Nat) (f : CanardFrame) (now : Nat) :
    lanePayloads canId [{ f with timestampUsec := now }] = lanePayloads canId [f] := by
  unfold lanePayloads StableQueue.lane
  by_cases h : f.extendedCanId = canId
  · simp [h]
  · simp [h]

/-! ## What a call does to the queue -/

theorem call_mtu (ins : CanardInstance) (c : Call) : (ins.call c).1.mtuBytes = ins.mtuBytes := by
  cases c with
  | push transfer room =>
      show (canardTxPush ins transfer room).1.mtuBytes = ins.mtuBytes
      unfold canardTxPush
      dsimp only
      split
      · rfl
      · split
        · rfl
        · rfl
  | pop => rfl
  | accept frame index =>
      exact (canardRxAccept_spec (Prod.mk.eta (p := canardRxAccept ins frame index)).symm).1.2.2
  | subscribe kind portId extent timeout =>
      show (canardRxUnsubscribe ins kind portId).1.mtuBytes = ins.mtuBytes
      unfold canardRxUnsubscribe
      split
      · rfl
      · rfl
  | unsubscribe kind portId =>
      show (canardRxUnsubscribe ins kind portId).1.mtuBytes = ins.mtuBytes
      unfold canardRxUnsubscribe
      split
      · rfl
      · rfl
  | release payload => rfl

/-- No call but `push` and `pop` touches the queue. -/
theorem call_queue (ins : CanardInstance) {c : Call} (hpush : ∀ tr room, c ≠ .push tr room)
    (hpop : c ≠ .pop) : (ins.call c).1.txQueue = ins.txQueue := by
  cases c with
  | push transfer room => exact absurd rfl (hpush transfer room)
  | pop => exact absurd rfl hpop
  | accept frame index =>
      exact (canardRxAccept_spec (Prod.mk.eta (p := canardRxAccept ins frame index)).symm).1.1
  | subscribe kind portId extent timeout =>
      show (canardRxUnsubscribe ins kind portId).1.txQueue = ins.txQueue
      unfold canardRxUnsubscribe
      split
      · rfl
      · rfl
  | unsubscribe kind portId =>
      show (canardRxUnsubscribe ins kind portId).1.txQueue = ins.txQueue
      unfold canardRxUnsubscribe
      split
      · rfl
      · rfl
  | release payload => rfl

/-- **A call that is not `pop`** keeps the order of the queue, and lets what it queues join the end
of its line. -/
theorem call_lane {ins : CanardInstance} (hmtu : ins.mtuBytes = CANARD_MTU_CAN_FD) {c : Call}
    (hpop : c ≠ .pop) (hsorted : StableQueue.Sorted CanardFrame.extendedCanId ins.txQueue) :
    StableQueue.Sorted CanardFrame.extendedCanId (ins.call c).1.txQueue ∧
      (∀ canId, lanePayloads canId (ins.call c).1.txQueue =
        lanePayloads canId ins.txQueue ++ framePayloads canId (queuedUnder ins.nodeId canId [c])) ∧
      ∀ f ∈ (ins.call c).1.txQueue, f ∈ ins.txQueue ∨ ∃ tr room, c = .push tr room ∧
        txMakeCANID tr ins.nodeId FD_MTU = some f.extendedCanId := by
  by_cases hpush : ∃ tr room, c = .push tr room
  · obtain ⟨tr, room, rfl⟩ := hpush
    show StableQueue.Sorted _ (canardTxPush ins tr room).1.txQueue ∧
      (∀ canId, lanePayloads canId (canardTxPush ins tr room).1.txQueue = _) ∧
      ∀ f ∈ (canardTxPush ins tr room).1.txQueue, _
    unfold canardTxPush
    dsimp only
    rw [txGetPresentationLayerMTU_fd hmtu]
    unfold queuedUnder
    cases hid : txMakeCANID tr ins.nodeId FD_MTU with
    | none =>
        refine ⟨hsorted, fun canId => ?_, fun f hf => .inl hf⟩
        simp [hid, framePayloads]
    | some own =>
        dsimp only
        by_cases hroom : (txTransferFrames FD_MTU own tr).length ≤ room
        · rw [if_pos hroom]
          dsimp only
          rw [txInsert_eq]
          have hids : ∀ f ∈ txTransferFrames FD_MTU own tr, f.extendedCanId = own :=
            txTransferFrames_canId
          refine ⟨hsorted.insertBlock hids, ?_, ?_⟩
          · intro canId
            by_cases hown : canId = own
            · subst hown
              unfold lanePayloads
              rw [StableQueue.lane_insertBlock_self hsorted hids, List.map_append]
              simp [hid, hroom, framePayloads]
            · unfold lanePayloads
              rw [StableQueue.lane_insertBlock_other hown hids]
              have hnone : ¬ (own = canId ∧ (txTransferFrames FD_MTU canId tr).length ≤ room) :=
                fun heq => hown heq.1.symm
              simp only [hid, Option.some.injEq, if_neg hnone, framePayloads, List.filterMap_cons,
                List.filterMap_nil, List.flatMap_nil, List.append_nil]
          · intro f hf
            rcases List.mem_append.mp ((StableQueue.insertBlock_perm own _ ins.txQueue).subset hf) with
              hf | hf
            · exact .inl hf
            · exact .inr ⟨tr, room, rfl, by rw [hids f hf]; exact hid⟩
        · rw [if_neg hroom]
          refine ⟨hsorted, fun canId => ?_, fun f hf => .inl hf⟩
          have hnone : ¬ (own = canId ∧ (txTransferFrames FD_MTU canId tr).length ≤ room) := by
            rintro ⟨rfl, h⟩
            exact hroom h
          simp only [hid, Option.some.injEq, if_neg hnone, framePayloads, List.filterMap_cons,
            List.filterMap_nil, List.flatMap_nil, List.append_nil]
  · have hkeep := call_queue ins (fun tr room heq => hpush ⟨tr, room, heq⟩) hpop
    rw [hkeep]
    refine ⟨hsorted, fun canId => ?_, fun f hf => .inl hf⟩
    have hnone : queuedUnder ins.nodeId canId [c] = [] := by
      cases c with
      | push transfer room => exact absurd ⟨transfer, room, rfl⟩ hpush
      | pop => rfl
      | accept frame index => rfl
      | subscribe kind portId extent timeout => rfl
      | unsubscribe kind portId => rfl
      | release payload => rfl
    rw [hnone]
    exact (List.append_nil _).symm

/-! ## The invariant -/

/-- Nodes that are ready to start: those that have a name have different ones, all send CAN FD
frames, and nothing is queued. -/
structure Installed (node : ι → CanardInstance) : Prop where
  names : ∀ i j, (node i).nodeId ≤ CANARD_NODE_ID_MAX → (node j).nodeId = (node i).nodeId → j = i
  mtu : ∀ i, (node i).mtuBytes = CANARD_MTU_CAN_FD
  queue : ∀ i, (node i).txQueue = []

/-- The node `i` has pushed a transfer with this identifier. -/
def HasPushed (node : ι → CanardInstance) (net : Network ι) (i : ι) (canId : Nat) : Prop :=
  ∃ tr room, Call.push tr room ∈ net.calls i ∧ txMakeCANID tr (node i).nodeId FD_MTU = some canId

/-- No other node has this identifier. -/
def Owns (node : ι → CanardInstance) (i : ι) (canId : Nat) : Prop :=
  ∀ j tr, txMakeCANID tr (node j).nodeId FD_MTU = some canId → j = i

omit [DecidableEq ι] in
/-- **An identifier belongs to a node.** -/
theorem Installed.owns {node : ι → CanardInstance} (h : Installed node) {i : ι}
    (hnamed : (node i).nodeId ≤ CANARD_NODE_ID_MAX) {tr : CanardTransfer} {canId : Nat}
    (hid : txMakeCANID tr (node i).nodeId FD_MTU = some canId) : Owns node i canId := by
  intro j tr' hid'
  have hsource := (txMakeCANID_parse hid).2.1
  have hsource' := (txMakeCANID_parse hid').2.1
  rw [hsource] at hsource'
  have heq : sourceOf (node i).nodeId = sourceOf (node j).nodeId :=
    congrArg (fun x => x.2.2.1) hsource'
  unfold sourceOf at heq
  rw [if_pos hnamed] at heq
  split at heq
  · exact h.names i j hnamed heq.symm
  · rw [heq] at hnamed
    exact absurd hnamed (by decide)

/-- What holds of a network at any time. -/
structure Coherent (node : ι → CanardInstance) (net : Network ι) : Prop where
  /-- A node is where its calls have led it. -/
  nodes : ∀ i, net.node i = final callStep (node i) (net.calls i)
  sorted : ∀ i, StableQueue.Sorted CanardFrame.extendedCanId (net.node i).txQueue
  /-- Every frame is of a transfer that was pushed. -/
  queued : ∀ i, ∀ f ∈ (net.node i).txQueue, HasPushed node net i f.extendedCanId
  underway : ∀ j, ∀ f ∈ net.inbox j, ∃ i, HasPushed node net i f.extendedCanId
  read : ∀ j f index, Call.accept f index ∈ net.calls j →
    index = 0 ∧ ∃ i, HasPushed node net i f.extendedCanId
  /-- What was read, what is on the way and what is queued are the frames of what was pushed. -/
  flow : ∀ i j canId, j ≠ i → Owns node i canId →
    lanePayloads canId (framesRead (net.calls j)) ++ lanePayloads canId (net.inbox j) ++
        lanePayloads canId (net.node i).txQueue =
      framePayloads canId (queuedUnder (node i).nodeId canId (net.calls i))

section

variable {node : ι → CanardInstance} {net : Network ι}

omit [DecidableEq ι] in
theorem coherent_start (h : Installed node) : Coherent node (.start node) where
  nodes := fun i => rfl
  sorted := fun i => by rw [show ((Network.start node).node i).txQueue = [] from h.queue i]; exact .nil
  queued := by
    intro i f hf
    rw [show ((Network.start node).node i).txQueue = [] from h.queue i] at hf
    cases hf
  underway := fun j f hf => (nomatch hf)
  read := fun j f index hf => (nomatch hf)
  flow := by
    intro i j canId _ _
    rw [show ((Network.start node).node i).txQueue = [] from h.queue i]
    rfl

theorem final_mtu (ins : CanardInstance) (calls : List Call) :
    (final callStep ins calls).mtuBytes = ins.mtuBytes ∧
      (final callStep ins calls).nodeId = ins.nodeId := by
  induction calls generalizing ins with
  | nil => exact ⟨rfl, rfl⟩
  | cons c calls ih =>
      obtain ⟨hmtu, hnode⟩ := ih (callStep ins c).1
      exact ⟨hmtu.trans (call_mtu ins c), hnode.trans (call_nodeId ins c)⟩

omit [DecidableEq ι] in
theorem Coherent.setup (h : Coherent node net) (hstart : Installed node) (i : ι) :
    (net.node i).mtuBytes = CANARD_MTU_CAN_FD ∧ (net.node i).nodeId = (node i).nodeId := by
  rw [h.nodes i]
  obtain ⟨hmtu, hnode⟩ := final_mtu (node i) (net.calls i)
  exact ⟨hmtu.trans (hstart.mtu i), hnode⟩

theorem perform_node (net : Network ι) (i : ι) (c : Call) (j : ι) :
    (net.perform i c).node j = if j = i then ((net.node i).call c).1 else net.node j :=
  Function.update_apply ..

theorem perform_calls (net : Network ι) (i : ι) (c : Call) (j : ι) :
    (net.perform i c).calls j = if j = i then net.calls i ++ [c] else net.calls j :=
  Function.update_apply ..

/-- What was pushed stays pushed. -/
theorem HasPushed.perform {i : ι} {canId : Nat} (h : HasPushed node net i canId) (k : ι) (c : Call) :
    HasPushed node (net.perform k c) i canId := by
  obtain ⟨tr, room, hmem, hid⟩ := h
  refine ⟨tr, room, ?_, hid⟩
  rw [perform_calls]
  split
  · rename_i heq
    subst heq
    exact List.mem_append_left _ hmem
  · exact hmem

theorem Coherent.nodes_perform (h : Coherent node net) (i : ι) (c : Call) (j : ι) :
    (net.perform i c).node j = final callStep (node j) ((net.perform i c).calls j) := by
  rw [perform_node, perform_calls]
  split
  · rename_i heq
    subst heq
    rw [final_append, ← h.nodes]
    rfl
  · exact h.nodes j

theorem Coherent.read_perform (h : Coherent node net) (i : ι) (c : Call)
    (hc : ∀ f index, c = .accept f index → index = 0 ∧ ∃ k, HasPushed node net k f.extendedCanId)
    (j : ι) (f : CanardFrame) (index : Nat) (hmem : Call.accept f index ∈ (net.perform i c).calls j) :
    index = 0 ∧ ∃ k, HasPushed node (net.perform i c) k f.extendedCanId := by
  have hold : index = 0 ∧ ∃ k, HasPushed node net k f.extendedCanId := by
    rw [perform_calls] at hmem
    split at hmem
    · rcases List.mem_append.mp hmem with hmem | hmem
      · exact h.read i f index hmem
      · exact hc f index (List.mem_singleton.mp hmem).symm
    · exact h.read j f index hmem
  obtain ⟨hindex, k, hk⟩ := hold
  exact ⟨hindex, k, hk.perform i c⟩

/-- An application's call. -/
theorem Coherent.call (h : Coherent node net) (hstart : Installed node) (i : ι) {c : Call}
    (hc : c.ofApplication = true) : Coherent node (net.perform i c) := by
  have hpop : c ≠ .pop := by
    rintro rfl
    cases hc
  have haccept : ∀ f index, c ≠ .accept f index := by
    rintro f index rfl
    cases hc
  obtain ⟨hmtu, hnode⟩ := h.setup hstart i
  obtain ⟨hsorted, hlane, hqueue⟩ := call_lane hmtu hpop (h.sorted i)
  refine ⟨h.nodes_perform i c, fun j => ?_, fun j f hf => ?_, fun j f hf => ?_,
    h.read_perform i c (fun f index heq => absurd heq (haccept f index)), fun k j canId hne hown => ?_⟩
  · rw [perform_node]
    split
    · exact hsorted
    · exact h.sorted j
  · rw [perform_node] at hf
    split at hf
    · rename_i heq
      subst heq
      rcases hqueue f hf with hf | ⟨tr, room, rfl, hid⟩
      · exact (h.queued j f hf).perform j c
      · refine ⟨tr, room, ?_, hnode ▸ hid⟩
        rw [perform_calls, if_pos rfl]
        exact List.mem_append_right _ List.mem_cons_self
    · exact (h.queued j f hf).perform i c
  · obtain ⟨k, hk⟩ := h.underway j f hf
    exact ⟨k, hk.perform i c⟩
  · -- the frames that were read are those of before
    have hread : framesRead ((net.perform i c).calls j) = framesRead (net.calls j) := by
      rw [perform_calls]
      split
      · rename_i heq
        subst heq
        have hnone : framesRead [c] = [] := by
          cases c with
          | accept frame index => exact absurd rfl (haccept frame index)
          | push transfer room => rfl
          | pop => rfl
          | subscribe kind portId extent timeout => rfl
          | unsubscribe kind portId => rfl
          | release payload => rfl
        rw [framesRead_append, hnone, List.append_nil]
      · rfl
    have hflow := h.flow k j canId hne hown
    rw [hread, perform_node, perform_calls, show (net.perform i c).inbox = net.inbox from rfl]
    split
    · rename_i heq
      subst heq
      rw [queuedUnder_append, framePayloads_append, hlane, hnode, ← List.append_assoc, hflow]
    · exact hflow

/-- A node sends a frame. -/
theorem Coherent.transmit (h : Coherent node net) {i : ι} {f : CanardFrame} {q : List CanardFrame}
    (hq : (net.node i).txQueue = f :: q) :
    Coherent node { net.perform i .pop with
      inbox := fun j => if j = i then net.inbox j else net.inbox j ++ [f] } := by
  have htail : ((net.node i).call .pop).1.txQueue = q := by
    show (net.node i).txQueue.tail = q
    rw [hq]
    rfl
  have hhead : HasPushed node net i f.extendedCanId := h.queued i f (by rw [hq]; exact List.mem_cons_self)
  refine ⟨h.nodes_perform i .pop, fun j => ?_, fun j g hg => ?_, fun j g hg => ?_,
    h.read_perform i .pop (fun f index heq => (nomatch heq)), fun k j canId hne hown => ?_⟩
  · show StableQueue.Sorted _ ((net.perform i .pop).node j).txQueue
    rw [perform_node]
    split
    · have hs := h.sorted i
      rw [hq] at hs
      rw [htail]
      exact hs.tail
    · exact h.sorted j
  · change g ∈ ((net.perform i .pop).node j).txQueue at hg
    rw [perform_node] at hg
    split at hg
    · rename_i heq
      subst heq
      rw [htail] at hg
      exact (h.queued j g (by rw [hq]; exact List.mem_cons_of_mem _ hg)).perform j .pop
    · exact (h.queued j g hg).perform i .pop
  · have hold : ∃ k, HasPushed node net k g.extendedCanId := by
      dsimp only at hg
      split at hg
      · exact h.underway j g hg
      · rcases List.mem_append.mp hg with hg | hg
        · exact h.underway j g hg
        · rw [List.mem_singleton.mp hg]
          exact ⟨i, hhead⟩
    obtain ⟨k, hk⟩ := hold
    exact ⟨k, hk.perform i .pop⟩
  · have hflow := h.flow k j canId hne hown
    have hread : framesRead ((net.perform i .pop).calls j) = framesRead (net.calls j) := by
      rw [perform_calls]
      split
      · rename_i heq
        subst heq
        rw [framesRead_append]
        exact List.append_nil _
      · rfl
    have hsent : queuedUnder (node k).nodeId canId ((net.perform i .pop).calls k) =
        queuedUnder (node k).nodeId canId (net.calls k) := by
      rw [perform_calls]
      split
      · rename_i heq
        subst heq
        rw [queuedUnder_append]
        exact List.append_nil _
      · rfl
    show lanePayloads canId (framesRead ((net.perform i .pop).calls j)) ++
        lanePayloads canId (if j = i then net.inbox j else net.inbox j ++ [f]) ++
        lanePayloads canId ((net.perform i .pop).node k).txQueue =
      framePayloads canId (queuedUnder (node k).nodeId canId ((net.perform i .pop).calls k))
    rw [hread, hsent, perform_node, ← hflow]
    by_cases hki : k = i
    · -- the frame moves from the queue to the inbox
      subst hki
      rw [if_neg hne, if_pos rfl, htail, hq, lanePayloads_append, List.append_assoc, List.append_assoc,
        List.append_assoc, ← lanePayloads_append]
      rfl
    · -- it is not one of this identifier
      obtain ⟨tr, room, _, hid⟩ := hhead
      have hother : f.extendedCanId ≠ canId := by
        intro heq
        rw [heq] at hid
        exact hki (hown i tr hid).symm
      rw [if_neg hki]
      split
      · rfl
      · rw [lanePayloads_append, lanePayloads_other hother, List.append_nil]

/-- A node reads a frame. -/
theorem Coherent.receive (h : Coherent node net) {i : ι} {f : CanardFrame} {fs : List CanardFrame}
    (hq : net.inbox i = f :: fs) (now : Nat) :
    Coherent node { net.perform i (.accept { f with timestampUsec := now } 0) with
      inbox := Function.update net.inbox i fs } := by
  generalize hc : Call.accept { f with timestampUsec := now } 0 = c
  have hkeep : ((net.node i).call c).1.txQueue = (net.node i).txQueue := by
    subst hc
    exact call_queue _ (fun tr room heq => (nomatch heq)) (fun heq => (nomatch heq))
  have hnode : ∀ j, ((net.perform i c).node j).txQueue = (net.node j).txQueue := by
    intro j
    rw [perform_node]
    split
    · rename_i heq
      subst heq
      exact hkeep
    · rfl
  have hhead : ∃ k, HasPushed node net k f.extendedCanId :=
    h.underway i f (by rw [hq]; exact List.mem_cons_self)
  refine ⟨h.nodes_perform i c, fun j => ?_, fun j g hg => ?_, fun j g hg => ?_,
    h.read_perform i c (fun g index heq => ?_), fun k j canId hne hown => ?_⟩
  · show StableQueue.Sorted _ ((net.perform i c).node j).txQueue
    rw [hnode]
    exact h.sorted j
  · change g ∈ ((net.perform i c).node j).txQueue at hg
    rw [hnode] at hg
    exact (h.queued j g hg).perform i c
  · have hmem : g ∈ net.inbox j := by
      change g ∈ Function.update net.inbox i fs j at hg
      rw [Function.update_apply] at hg
      split at hg
      · rename_i heq
        subst heq
        rw [hq]
        exact List.mem_cons_of_mem _ hg
      · exact hg
    obtain ⟨k, hk⟩ := h.underway j g hmem
    exact ⟨k, hk.perform i c⟩
  · rw [← hc] at heq
    obtain ⟨rfl, rfl⟩ := Call.accept.inj heq
    exact ⟨rfl, hhead⟩
  · have hflow := h.flow k j canId hne hown
    have hsent : queuedUnder (node k).nodeId canId ((net.perform i c).calls k) =
        queuedUnder (node k).nodeId canId (net.calls k) := by
      rw [perform_calls]
      split
      · rename_i heq
        subst heq hc
        rw [queuedUnder_append]
        exact List.append_nil _
      · rfl
    show lanePayloads canId (framesRead ((net.perform i c).calls j)) ++
        lanePayloads canId (Function.update net.inbox i fs j) ++
        lanePayloads canId ((net.perform i c).node k).txQueue =
      framePayloads canId (queuedUnder (node k).nodeId canId ((net.perform i c).calls k))
    rw [hsent, hnode, perform_calls, Function.update_apply, ← hflow]
    by_cases hji : j = i
    · -- the frame moves from the inbox to what was read
      subst hji hc
      have hread : framesRead [Call.accept { f with timestampUsec := now } 0] =
          [{ f with timestampUsec := now }] := rfl
      have hcons : lanePayloads canId (f :: fs) = lanePayloads canId [f] ++ lanePayloads canId fs :=
        lanePayloads_append canId [f] fs
      rw [if_pos rfl, if_pos rfl, hq, framesRead_append, lanePayloads_append, hread,
        lanePayloads_time, hcons, ← List.append_assoc]
    · rw [if_neg hji, if_neg hji]

/-- **Every event keeps it.** -/
theorem coherent_step (hstart : Installed node) (h : Coherent node net) (e : BusEvent ι) :
    Coherent node (net.step e) := by
  cases e with
  | call i c =>
      dsimp only [Network.step]
      split
      · rename_i hc
        exact h.call hstart i hc
      · exact h
  | transmit i =>
      dsimp only [Network.step]
      split
      · exact h
      · rename_i f hpeek
        obtain ⟨q, hq⟩ := List.head?_eq_some_iff.mp hpeek
        exact h.transmit hq
  | receive i now =>
      dsimp only [Network.step]
      split
      · exact h
      · rename_i f fs hq
        exact h.receive hq now

theorem coherent_events (hstart : Installed node) (events : List (BusEvent ι)) :
    ∀ {net : Network ι}, Coherent node net → Coherent node (net.run events) := by
  induction events with
  | nil => exact fun h => h
  | cons e events ih => exact fun h => ih (coherent_step hstart h e)

theorem coherent_run (hstart : Installed node) (events : List (BusEvent ι)) :
    Coherent node ((Network.start node).run events) :=
  coherent_events hstart events (coherent_start hstart)

end

end Wlmio.Canard
