import Wlmio.Proof.ClientNode

/-!
# Requests and responses on the bus

What is pushed for a channel comes out at the node it is for (`requests_delivered`), and
what that node answers is handed to the client (`responses_delivered`), each transfer
once and in order, whatever the other nodes do and whatever the application of the client
does in between.

The client itself sees to a part of what the library asks of its users: its requests have
one priority, those to a service of a node have one transfer-ID after the other, and it
keeps what it has subscribed to. The rest is asked of the other node, in `Serving` and
`Answering`.
-/

namespace Wlmio.Proof

open Wlmio.Client Wlmio.Canard Demultiplexer

/-! ## The client's subscriptions -/

/-- The extent of the responses of a service. -/
def Service.responseExtent : Service → Nat
  | .getNodeInfo => 313
  | .registerList => 51
  | .registerAccess => 267
  | .executeCommand => 1

/-- The listener for the responses of a service, right after `wlmio_init`. -/
def responseListener (service : Service) : Listener :=
  ⟨CANARD_DEFAULT_TRANSFER_ID_TIMEOUT_USEC, Service.responseExtent service, none⟩

theorem reinstated_hears (memory : Memory) (nodeId : BitVec 7) (service : Service) (source : Nat) :
    HasListener (reinstated memory nodeId) ⟨.response, service.port, source⟩
      (some (responseListener service)) := by
  cases service with
  | getNodeInfo => exact .some ⟨rfl, rfl, .none⟩
  | registerList => exact .some ⟨rfl, rfl, .none⟩
  | registerAccess => exact .some ⟨rfl, rfl, .none⟩
  | executeCommand => exact .some ⟨rfl, rfl, .none⟩

theorem reinstated_ports (memory : Memory) (nodeId : BitVec 7) :
    (reinstated memory nodeId).PortsDistinct := by
  intro kind
  cases kind with
  | message => exact List.nodup_singleton _
  | response =>
      show [430, 435, 384, 385].Nodup
      decide
  | request => exact List.nodup_nil

section

variable {ι : Type} {node : Option ι → CanardInstance} {s : ClientBus ι} {calls : List Call}

/-- The client has started as `wlmio_init` starts it. -/
theorem reinstated_of_reachable [DecidableEq ι] (h : OnBusReachable node s) :
    ∃ memory nodeId, node none = reinstated memory nodeId := by
  refine Transition.Reaches.invariant (P := fun _ => ∃ memory nodeId,
    node none = reinstated memory nodeId) (fun s hs => ?_) (fun _ _ _ _ _ hp _ => hp) h
  obtain ⟨memory, os, hinit⟩ := hs.client
  obtain ⟨nodeId, _, _, _, _, _, hw⟩ := wlmioInit_cases hinit
  exact ⟨memory, nodeId, hs.self.trans (congrArg (fun w => w.bus.canard) hw)⟩

/-! ## The requests of a channel -/

/-- **The requests of a channel have different transfer-IDs.** -/
theorem Ledger.idsDiffer {b : Bus} (h : Ledger b) (service : Service) (nodeId : Nat) :
    IdsDiffer ((channel b service nodeId).map Issued.transfer) := by
  refine List.isChain_iff_getElem.mpr ?_
  intro k hk
  rw [List.length_map] at hk
  rw [List.getElem_map, List.getElem_map]
  have hfirst := h.ids service nodeId k _ (List.getElem?_eq_getElem (Nat.lt_of_succ_lt hk))
  have hsecond := h.ids service nodeId (k + 1) _ (List.getElem?_eq_getElem hk)
  rw [hfirst, hsecond]
  omega

/-- A request is on a channel if it is a transfer of that session. -/
theorem onChannel_iff {b : Bus} (h : Ledger b) {i : Issued} (hi : i ∈ b.issued) (service : Service)
    (nodeId : Nat) :
    onChannel service nodeId i = true ↔ IsTo .request service.port nodeId i.transfer := by
  obtain ⟨hkind, hport, _⟩ := h.shape i hi
  unfold onChannel IsTo
  rw [hkind, hport, decide_eq_true_iff]
  constructor
  · rintro ⟨hservice, hnode⟩
    exact ⟨rfl, by rw [hservice], hnode⟩
  · rintro ⟨_, hservice, hnode⟩
    exact ⟨Service.port_inj hservice, hnode⟩

/-- What is queued for a session is what is queued by pushes. -/
theorem transfersQueued_pushes (nodeId : Nat) (kind : CanardTransferKind) (port remote : Nat)
    (calls : List Call) : transfersQueued nodeId kind port remote (calls.filter isPush) =
      transfersQueued nodeId kind port remote calls := by
  unfold transfersQueued
  rw [List.filterMap_filter]
  refine List.filterMap_congr ?_
  intro c _
  cases c with
  | push transfer room => rfl
  | pop => rfl
  | accept frame index => rfl
  | subscribe kind portId extent timeout => rfl
  | unsubscribe kind portId => rfl
  | release payload => rfl

theorem transfersQueued_push (nodeId : Nat) (kind : CanardTransferKind) (port remote : Nat)
    (tr : CanardTransfer) (room : Nat) (calls : List Call) :
    transfersQueued nodeId kind port remote (.push tr room :: calls) =
      (if IsTo kind port remote tr ∧ pushSucceeds nodeId tr room = true then [tr] else []) ++
        transfersQueued nodeId kind port remote calls := by
  by_cases h : IsTo kind port remote tr ∧ pushSucceeds nodeId tr room = true
  · rw [if_pos h]
    exact List.filterMap_cons_some (if_pos h)
  · rw [if_neg h]
    exact List.filterMap_cons_none (if_neg h)

/-- **What is queued for a node is what was requested of it.** -/
theorem OnBus.transfersQueued (h : OnBus node s calls) (hl : Ledger s.client.bus) {service : Service}
    {nodeId : Nat} (hpush : ∀ i ∈ channel s.client.bus service nodeId, 0 ≤ i.pushed) :
    transfersQueued (node none).nodeId .request service.port nodeId calls =
      (channel s.client.bus service nodeId).map Issued.transfer := by
  rw [← transfersQueued_pushes]
  have hall : ∀ i ∈ s.client.bus.issued, (onChannel service nodeId i = true ↔
      IsTo .request service.port nodeId i.transfer) ∧
      (onChannel service nodeId i = true → 0 ≤ i.pushed) :=
    fun i hi => ⟨onChannel_iff hl hi service nodeId,
      fun hon => hpush i (List.mem_filter.mpr ⟨hi, hon⟩)⟩
  have hpushes := h.issued
  unfold channel
  -- request by request
  generalize s.client.bus.issued = issued at hall hpushes
  generalize calls.filter isPush = pushes at hpushes
  induction hpushes with
  | nil => rfl
  | @cons i c issued pushes hp _ ih =>
      obtain ⟨room, rfl, hqueued⟩ := hp
      obtain ⟨⟨hon, hok⟩, hrest⟩ := List.forall_mem_cons.mp hall
      rw [transfersQueued_push, ih hrest]
      by_cases hto : IsTo .request service.port nodeId i.transfer
      · have hthis := hon.mpr hto
        rw [if_pos ⟨hto, hqueued.mp (hok hthis)⟩, List.filter_cons_of_pos hthis]
        rfl
      · rw [if_neg (fun hc => hto hc.1), List.filter_cons_of_neg (fun hc => hto (hon.mp hc))]
        rfl

/-! ## Delivery in both directions -/

/-- The session of the client's requests for a service, at any node. -/
def requestSession (node : Option ι → CanardInstance) (service : Service) : SessionKey :=
  ⟨.request, service.port, (node none).nodeId⟩

/-- The session of a node's responses for a service, at the client. -/
def responseSession (node : Option ι → CanardInstance) (i : ι) (service : Service) : SessionKey :=
  ⟨.response, service.port, (node (some i)).nodeId⟩

/-- The node has subscribed to the requests of the service and stays so, and the frames of a request
come in within its timeout. -/
structure Serving (node : Option ι → CanardInstance) (s : ClientBus ι) (j : ι) (service : Service)
    (l : Listener) : Prop where
  listens : HasListener (node (some j)) (requestSession node service) (some l)
  idle : l.assembly = none
  ports : (node (some j)).PortsDistinct
  memory : (node (some j)).memory.Ample
  subscribed : ∀ c ∈ s.others.calls j,
    (∀ extent timeout, c ≠ .subscribe .request service.port extent timeout) ∧
      c ≠ .unsubscribe .request service.port
  prompt : InTime l.timeout 0
    (framesFor (node (some j)).nodeId (requestSession node service) (s.others.calls j))

/-- The node answers with one priority and under changing transfer-IDs, and the frames of an answer
come in within the client's timeout. -/
structure Answering (node : Option ι → CanardInstance) (s : ClientBus ι) (i : ι) (service : Service)
    (priority : Nat) : Prop where
  named : (node (some i)).nodeId ≤ CANARD_NODE_ID_MAX
  priority : ∀ tr room, Call.push tr room ∈ s.others.calls i →
    IsTo .response service.port (node none).nodeId tr → tr.priority = priority
  ids : IdsDiffer (transfersQueued (node (some i)).nodeId .response service.port (node none).nodeId
    (s.others.calls i))
  prompt : InTime CANARD_DEFAULT_TRANSFER_ID_TIMEOUT_USEC 0 (s.read.filter (fun f =>
    decide (sessionOf (node none).nodeId (f, 0) = some (responseSession node i service))))

/-- The client never changes what it has subscribed to. -/
theorem OnBus.subscribed (h : OnBus node s calls) (kind : CanardTransferKind) (port : Nat) :
    ∀ c ∈ calls, (∀ extent timeout, c ≠ .subscribe kind port extent timeout) ∧
      c ≠ .unsubscribe kind port := by
  intro c hc
  rcases h.stays c hc with hout | ⟨f, rfl⟩
  · refine ⟨?_, ?_⟩
    · intro extent timeout heq
      rw [heq] at hout
      cases hout
    · intro heq
      rw [heq] at hout
      cases hout
  · exact ⟨fun extent timeout heq => (nomatch heq), fun heq => (nomatch heq)⟩

/-- What was handed over is a first part of what was queued, in the same order and each transfer
once; and all of it when nothing is under way. -/
def Delivered (k : SessionKey) (priority extent : Nat) (quiet : Prop)
    (queued got : List CanardTransfer) : Prop :=
  ∃ front, front <+: queued ∧ (quiet → front = queued) ∧
    List.Forall₂ (fun tr got => ∃ t, got = arrived k priority extent t tr) front got

/-- What comes out of a coherent network is delivered. -/
theorem delivered_of_coherent {net : Network (Option ι)} {i j : Option ι} {k : SessionKey}
    {remote priority : Nat} {l : Listener} (hs : Coherent node net) (hstart : Installed node)
    (hl : Link node i j k remote l) (ho : Disciplined node net i j k remote priority l) :
    Delivered k priority l.extent ((net.node i).txQueue = [] ∧ net.inbox j = [])
      (transfersQueued (node i).nodeId k.kind k.port remote (net.calls i))
      (outputsOf transferSession k (handouts (node j) (net.calls j))) := by
  obtain ⟨front, hprefix, hall, hgot⟩ := coherent_delivers hs hstart hl ho
  exact ⟨front, hprefix, fun hquiet => hall hquiet.1 hquiet.2, hgot⟩

variable [DecidableEq ι]

/-- **Requests are delivered.** At any time in any run, what a node that serves has been handed is a
first part of what the client has requested of it, in the same order and each request once; and it
is all of that when the client's queue and the node's inbox are empty. -/
theorem requests_delivered (hstart : Installed node) (h : OnBusReachable node s) {j : ι}
    {service : Service} {l : Listener} (hserving : Serving node s j service l)
    (hpush : ∀ i ∈ channel s.client.bus service (node (some j)).nodeId, 0 ≤ i.pushed) :
    Delivered (requestSession node service) CanardPriorityNominal l.extent
      (s.client.bus.canard.txQueue = [] ∧ s.others.inbox j = [])
      ((channel s.client.bus service (node (some j)).nodeId).map Issued.transfer)
      (outputsOf transferSession (requestSession node service)
        (handouts (node (some j)) (s.others.calls j))) := by
  obtain ⟨hreach, calls, hbus⟩ := onBus_reachable hstart h
  obtain ⟨memory, nodeId, hself⟩ := reinstated_of_reachable h
  have hledger := ledger_reachable hreach
  have hqueued := hbus.transfersQueued hledger hpush
  have hnamed : (node none).nodeId ≤ CANARD_NODE_ID_MAX := by
    rw [hself]
    exact Nat.le_of_lt_succ nodeId.isLt
  have hlink : Link node none (some j) (requestSession node service) (node (some j)).nodeId l :=
    ⟨Option.some_ne_none j, rfl, hnamed, fun hmsg => (nomatch hmsg), fun _ => rfl,
      hserving.listens, hserving.idle, hserving.ports, hserving.memory⟩
  have hdisciplined : Disciplined node (joined s.client.bus.canard s.inbox calls s.others) none
      (some j) (requestSession node service) (node (some j)).nodeId CanardPriorityNominal l := by
    refine ⟨hserving.subscribed, ?_, ?_, hserving.prompt⟩
    · intro tr room hmem _
      -- the client pushes nothing but requests
      obtain ⟨i, hi, rfl⟩ := pushes_mem hbus.issued (List.mem_filter.mpr ⟨hmem, rfl⟩)
      exact (issued_nominal hreach i hi).2
    · show IdsDiffer (transfersQueued (node none).nodeId .request service.port _ calls)
      rw [hqueued]
      exact hledger.idsDiffer service _
  rw [← hqueued]
  exact delivered_of_coherent hbus.coherent hstart hlink hdisciplined

end

/-! ## An exchange -/

/-- The client as node 5, and node 3, which has subscribed to requests for its information. -/
def clientAndServer : Option Unit → CanardInstance
  | none => started.bus.canard
  | some () => { (canardRxSubscribe silentInstance .request 430 0 1000).1 with nodeId := 3 }

theorem clientAndServer_installed : Installed clientAndServer where
  names := by
    intro i j _ heq
    cases i with
    | none => cases j with
      | none => rfl
      | some j => cases heq
    | some i => cases j with
      | none => cases heq
      | some j => rfl
  mtu := fun i => by cases i <;> rfl
  queue := fun i => by cases i <;> rfl

/-- The answer of node 3. -/
def infoAnswer : CanardTransfer where
  timestampUsec := 0
  priority := CanardPriorityNominal
  transferKind := .response
  portId := 430
  remoteNodeId := 5
  transferId := 0
  payload := [1#8, 0#8]

/-- The client asks and the node answers. -/
def oneExchange : List (ClientBusEvent Unit) :=
  [.act (.request (.getNodeInfo 3 (some 0)) (some 0) (grantFrom 5)), .other (.receive () 7),
    .other (.call () (.push infoAnswer 1)), .other (.transmit ()), .act .tick, .read 9 0 true]

def infoRequestFrame : CanardFrame where
  timestampUsec := 7
  extendedCanId := requestCanId 5 .getNodeInfo 3
  payload := [txMakeTailByte true true true 0]

/-- What an exchange leaves behind: all has arrived. -/
structure Exchanged (s : ClientBus Unit) : Prop where
  calls : s.others.calls () = [.accept infoRequestFrame 0, .push infoAnswer 1, .pop]
  read : s.read = [{ responseFrame .getNodeInfo 3 0 [1#8, 0#8] with timestampUsec := 9 }]
  issued : s.client.bus.issued.length = 1
  pushed : ∀ i ∈ s.client.bus.issued, 0 ≤ i.pushed
  requests : s.client.bus.canard.txQueue = [] ∧ s.others.inbox () = []
  responses : (s.others.node ()).txQueue = [] ∧ s.inbox = []

theorem exists_exchange : ∃ s, OnBusReachable clientAndServer s ∧ Exchanged s := by
  have hrun : (Transition.run ClientBus.step Transition.free
      ⟨started, [], [], [], Network.start (fun i => clientAndServer (some i))⟩ oneExchange).any
      (fun s => decide (s.others.calls () = [.accept infoRequestFrame 0, .push infoAnswer 1, .pop] ∧
        s.read = [{ responseFrame .getNodeInfo 3 0 [1#8, 0#8] with timestampUsec := 9 }] ∧
        s.client.bus.issued.length = 1 ∧ (∀ i ∈ s.client.bus.issued, 0 ≤ i.pushed) ∧
        (s.client.bus.canard.txQueue = [] ∧ s.others.inbox () = []) ∧
        (s.others.node ()).txQueue = [] ∧ s.inbox = [])) = true := by
    decide +kernel
  obtain ⟨s, hs, hfacts⟩ := (Option.any_eq_true _ _).mp hrun
  obtain ⟨hcalls, hread, hissued, hpushed, hrequests, hresponses⟩ := of_decide_eq_true hfacts
  exact ⟨s, Transition.Reaches.run (.init ⟨initial_started, rfl, rfl, rfl, rfl, rfl⟩) hs,
    ⟨hcalls, hread, hissued, hpushed, hrequests, hresponses⟩⟩

theorem requests_delivered_info : ∃ s : ClientBus Unit, Exchanged s ∧
    Delivered (requestSession clientAndServer .getNodeInfo) CanardPriorityNominal 0
      (s.client.bus.canard.txQueue = [] ∧ s.others.inbox () = [])
      ((channel s.client.bus .getNodeInfo 3).map Issued.transfer)
      (outputsOf transferSession (requestSession clientAndServer .getNodeInfo)
        (handouts (clientAndServer (some ())) (s.others.calls ()))) := by
  obtain ⟨s, hs, he⟩ := exists_exchange
  refine ⟨s, he, @requests_delivered Unit clientAndServer s _ clientAndServer_installed hs ()
    .getNodeInfo ⟨1000, 0, none⟩ ?_ ?_⟩
  · refine ⟨.some ⟨rfl, rfl, .none⟩, rfl, ?_, fun _ => rfl, ?_, ?_⟩
    · intro kind
      cases kind with
      | message => exact List.nodup_nil
      | response => exact List.nodup_nil
      | request => exact List.nodup_singleton _
    · intro c hc
      rw [he.calls] at hc
      refine ⟨?_, ?_⟩
      · intro extent timeout heq
        rw [heq] at hc
        simp at hc
      · intro heq
        rw [heq] at hc
        simp at hc
    · rw [he.calls]
      exact ⟨by decide, trivial⟩
  · intro i hi
    exact he.pushed i (List.mem_of_mem_filter hi)

end Wlmio.Proof
