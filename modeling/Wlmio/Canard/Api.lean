import Wlmio.Canard.Listener
import Wlmio.Canard.Transmit
import Wlmio.Library.Demultiplexer

/-!
# The library as a machine

An application drives an instance by calls, in any order: it pushes transfers and takes
frames out, hands in frames from the bus, subscribes and unsubscribes, and gives back
the payload buffers it was handed. `CanardInstance.call` is one such call.

From an instance that is fresh, every list of calls keeps the subscriptions of a kind at
different ports, and the instance remains a family of listeners (`call_simulates`): for one
session it amounts to what the calls that concern this session make of a listener.
-/

namespace Wlmio.Canard

/-- What an application may do with an instance. -/
inductive Call where
  | push (transfer : CanardTransfer) (room : Nat)
  | pop
  | accept (frame : CanardFrame) (redundantTransportIndex : Nat)
  | subscribe (kind : CanardTransferKind) (portId extent transferIdTimeoutUsec : Nat)
  | unsubscribe (kind : CanardTransferKind) (portId : Nat)
  | release (payload : Option Buffer)
deriving DecidableEq

/-- The instance after a call, what the call returned, and the transfer it handed over. -/
def CanardInstance.call (ins : CanardInstance) :
    Call → CanardInstance × Int × Option RxTransfer
  | .push transfer room =>
    let (ins, out) := canardTxPush ins transfer room
    (ins, out, none)
  | .pop => (canardTxPop ins, 0, none)
  | .accept frame index => canardRxAccept ins frame index
  | .subscribe kind portId extent timeout =>
    let (ins, out) := canardRxSubscribe ins kind portId extent timeout
    (ins, out, none)
  | .unsubscribe kind portId =>
    let (ins, out) := canardRxUnsubscribe ins kind portId
    (ins, out, none)
  | .release payload => ({ ins with memory := ins.memory.free payload }, 0, none)

/-- A call as a step: what comes out is the transfer that is handed over. -/
def callStep (ins : CanardInstance) (c : Call) : CanardInstance × Option CanardTransfer :=
  ((ins.call c).1, (ins.call c).2.2.map Prod.fst)

/-- What the instance has handed over after some calls. -/
def handouts (ins : CanardInstance) (calls : List Call) : List CanardTransfer :=
  Demultiplexer.outputs callStep ins calls

/-- Nothing has been subscribed to yet. -/
structure CanardInstance.Fresh (ins : CanardInstance) (nodeId : Nat) : Prop where
  node : ins.nodeId = nodeId
  nothing : ∀ kind, ins.rxSubscriptions kind = []

/-! ## Subscriptions -/

/-- The subscriptions of a kind are to different ports. -/
def CanardInstance.PortsDistinct (ins : CanardInstance) : Prop :=
  ∀ kind, ((ins.rxSubscriptions kind).map CanardRxSubscription.portId).Nodup

theorem find?_eraseP_port {subs : List CanardRxSubscription}
    (h : (subs.map CanardRxSubscription.portId).Nodup) (portId port : Nat) :
    (subs.eraseP (fun s => s.portId == portId)).find? (fun s => s.portId == port) =
      if port = portId then none else subs.find? (fun s => s.portId == port) := by
  induction subs with
  | nil => simp
  | cons s subs ih =>
      rw [List.map_cons, List.nodup_cons] at h
      by_cases hs : s.portId = portId
      · rw [List.eraseP_cons_of_pos (by simpa using hs)]
        by_cases hp : port = portId
        · -- the port does not occur again
          rw [if_pos hp, List.find?_eq_none]
          intro t ht heq
          refine h.1 (List.mem_map.mpr ⟨t, ht, ?_⟩)
          rw [hs, ← hp]
          simpa using heq
        · have hne : ¬ s.portId = port := fun heq => hp (heq.symm.trans hs)
          rw [if_neg hp, List.find?_cons_of_neg (by simpa using hne)]
      · rw [List.eraseP_cons_of_neg (by simpa using hs)]
        by_cases hsp : s.portId = port
        · have hp : ¬ port = portId := fun heq => hs (hsp.trans heq)
          rw [if_neg hp, List.find?_cons_of_pos (by simpa using hsp),
            List.find?_cons_of_pos (by simpa using hsp)]
        · rw [List.find?_cons_of_neg (by simpa using hsp),
            List.find?_cons_of_neg (by simpa using hsp), ih h.2]

/-- **What unsubscribing does to the subscriptions**: that port is gone, the others stay. -/
theorem canardRxUnsubscribe_subscription {ins : CanardInstance} (h : ins.PortsDistinct)
    (kind : CanardTransferKind) (portId : Nat) (k : CanardTransferKind) (port : Nat) :
    (canardRxUnsubscribe ins kind portId).1.subscription k port =
      if k = kind ∧ port = portId then none else ins.subscription k port := by
  unfold canardRxUnsubscribe CanardInstance.subscription
  split
  · rename_i hnone
    by_cases hk : k = kind ∧ port = portId
    · rw [if_pos hk, hk.1, hk.2, hnone]
    · rw [if_neg hk]
  · dsimp only
    by_cases hk : k = kind
    · subst hk
      rw [if_pos rfl, find?_eraseP_port (h k)]
      simp
    · rw [if_neg hk, if_neg (fun hc => hk hc.1)]

theorem canardRxUnsubscribe_ports {ins : CanardInstance} (h : ins.PortsDistinct)
    (kind : CanardTransferKind) (portId : Nat) :
    (canardRxUnsubscribe ins kind portId).1.PortsDistinct ∧
      ∀ s ∈ (canardRxUnsubscribe ins kind portId).1.rxSubscriptions kind, s.portId ≠ portId := by
  have hgone := canardRxUnsubscribe_subscription h kind portId kind portId
  rw [if_pos ⟨rfl, rfl⟩] at hgone
  unfold CanardInstance.subscription at hgone
  refine ⟨?_, ?_⟩
  · intro k
    unfold canardRxUnsubscribe
    split
    · exact h k
    · dsimp only
      split
      · rename_i hk
        exact ((List.eraseP_sublist).map _).nodup (h kind)
      · exact h k
  · intro s hs heq
    exact List.find?_eq_none.mp hgone s hs (by simpa using heq)

/-- **What subscribing does**: the port has the new parameters and no session. -/
theorem canardRxSubscribe_subscription {ins : CanardInstance} (h : ins.PortsDistinct)
    (kind : CanardTransferKind) (portId extent timeout : Nat) (k : CanardTransferKind) (port : Nat) :
    (canardRxSubscribe ins kind portId extent timeout).1.subscription k port =
      if k = kind ∧ port = portId then
        some { sessions := fun _ => none, transferIdTimeoutUsec := timeout, extent := extent,
               portId := portId }
      else ins.subscription k port := by
  have hun := canardRxUnsubscribe_subscription h kind portId k port
  unfold canardRxSubscribe
  unfold CanardInstance.subscription at hun ⊢
  dsimp only
  by_cases hk : k = kind
  · subst hk
    rw [if_pos rfl]
    by_cases hp : port = portId
    · rw [if_pos ⟨rfl, hp⟩, List.find?_cons_of_pos (by simpa using hp.symm)]
    · rw [if_neg (fun hc => hp hc.2)] at hun
      have hne : ¬ portId = port := fun heq => hp heq.symm
      rw [if_neg (fun hc => hp hc.2), List.find?_cons_of_neg (by simpa using hne), hun]
  · rw [if_neg (fun hc => hk hc.1)] at hun
    rw [if_neg hk, if_neg (fun hc => hk hc.1), hun]

theorem canardRxSubscribe_ports {ins : CanardInstance} (h : ins.PortsDistinct)
    (kind : CanardTransferKind) (portId extent timeout : Nat) :
    (canardRxSubscribe ins kind portId extent timeout).1.PortsDistinct := by
  obtain ⟨hdistinct, hgone⟩ := canardRxUnsubscribe_ports h kind portId
  intro k
  unfold canardRxSubscribe
  dsimp only
  split
  · rename_i hk
    rw [List.map_cons, List.nodup_cons]
    refine ⟨fun hmem => ?_, hdistinct kind⟩
    obtain ⟨s, hs, heq⟩ := List.mem_map.mp hmem
    exact hgone s hs heq
  · exact hdistinct k

/-! ## What every call keeps -/

theorem canardTxPush_nodeId (ins : CanardInstance) (tr : CanardTransfer) (room : Nat) :
    (canardTxPush ins tr room).1.nodeId = ins.nodeId := by
  unfold canardTxPush
  dsimp only
  split
  · rfl
  · split
    · rfl
    · rfl

theorem canardRxUnsubscribe_nodeId (ins : CanardInstance) (kind : CanardTransferKind)
    (portId : Nat) : (canardRxUnsubscribe ins kind portId).1.nodeId = ins.nodeId := by
  unfold canardRxUnsubscribe
  split
  · rfl
  · rfl

theorem call_nodeId (ins : CanardInstance) (c : Call) : (ins.call c).1.nodeId = ins.nodeId := by
  cases c with
  | push transfer room => exact canardTxPush_nodeId ins transfer room
  | pop => rfl
  | accept frame index => exact rxStep_nodeId ins (frame, index)
  | subscribe kind portId extent timeout => exact canardRxUnsubscribe_nodeId ins kind portId
  | unsubscribe kind portId => exact canardRxUnsubscribe_nodeId ins kind portId
  | release payload => rfl

theorem call_ports {ins : CanardInstance} (h : ins.PortsDistinct) (c : Call) :
    (ins.call c).1.PortsDistinct := by
  cases c with
  | push transfer room =>
      intro kind
      rw [show ((ins.call (.push transfer room)).1.rxSubscriptions) = ins.rxSubscriptions from
        (canardTxPush_rx ins transfer room).2]
      exact h kind
  | pop => exact h
  | accept frame index =>
      intro kind
      have hports := (canardRxAccept_ports
        (Prod.mk.eta (p := canardRxAccept ins frame index)).symm).1 kind
      rw [show (ins.call (.accept frame index)).1 = (canardRxAccept ins frame index).1 from rfl, hports]
      exact h kind
  | subscribe kind portId extent timeout => exact canardRxSubscribe_ports h kind portId extent timeout
  | unsubscribe kind portId => exact (canardRxUnsubscribe_ports h kind portId).1
  | release payload => exact h

theorem free_deny (m : Memory) (b : Option Buffer) : (m.free b).deny = m.deny := by
  cases b with
  | none => rfl
  | some b => rfl

theorem canardRxUnsubscribe_deny (ins : CanardInstance) (kind : CanardTransferKind)
    (portId : Nat) : (canardRxUnsubscribe ins kind portId).1.memory.deny = ins.memory.deny := by
  have hfree : ∀ (nodes : List Nat) (sub : CanardRxSubscription) (m : Memory),
      (nodes.foldl (fun mem node => mem.free ((sub.sessions node).bind (·.payload))) m).deny =
        m.deny := by
    intro nodes sub
    induction nodes with
    | nil => intro m; rfl
    | cons n nodes ih =>
        intro m
        rw [List.foldl_cons, ih, free_deny]
  unfold canardRxUnsubscribe
  split
  · rfl
  · exact hfree _ _ _

theorem call_deny (ins : CanardInstance) (c : Call) :
    (ins.call c).1.memory.deny = ins.memory.deny := by
  cases c with
  | push transfer room => exact congrArg Memory.deny (canardTxPush_rx ins transfer room).1
  | pop => rfl
  | accept frame index => exact rxStep_deny ins (frame, index)
  | subscribe kind portId extent timeout => exact canardRxUnsubscribe_deny ins kind portId
  | unsubscribe kind portId => exact canardRxUnsubscribe_deny ins kind portId
  | release payload => exact free_deny ins.memory payload

/-! ## The simulation -/

/-- Whether a call has to do with a session: a frame for it, or a change of its subscription. -/
def concerns (nodeId : Nat) (k : SessionKey) : Call → Bool
  | .accept frame index => decide (sessionOf nodeId (frame, index) = some k)
  | .subscribe kind portId _ _ => decide (k.kind = kind ∧ k.port = portId)
  | .unsubscribe kind portId => decide (k.kind = kind ∧ k.port = portId)
  | _ => false

/-- What a call makes of the listener of a session it concerns. -/
def listenerCall (g : Grant) (l : Option Listener) : Call → Option Listener × Option CanardTransfer
  | .accept frame index => listenerStep g l (frame, index)
  | .subscribe _ _ extent timeout => (some ⟨timeout, extent, none⟩, none)
  | .unsubscribe _ _ => (none, none)
  | _ => (l, none)

theorem HasListener.congr {ins ins' : CanardInstance} {k : SessionKey} {l : Option Listener}
    (h : HasListener ins k l)
    (heq : ins'.subscription k.kind k.port = ins.subscription k.kind k.port) :
    HasListener ins' k l := by
  unfold HasListener
  rw [heq]
  exact h

theorem HasListener.fresh {ins : CanardInstance} {nodeId : Nat} (h : ins.Fresh nodeId)
    (k : SessionKey) : HasListener ins k none := by
  unfold HasListener CanardInstance.subscription
  rw [h.nothing]
  exact .none

/-- A transfer that comes out of a call is from a session that the call concerns. -/
theorem callStep_origin {ins : CanardInstance} {nodeId : Nat} (hn : ins.nodeId = nodeId) {c : Call}
    {k : SessionKey} (hc : ∀ frame index, c = .accept frame index →
      sessionOf nodeId (frame, index) = some k) :
    Demultiplexer.outputOf transferSession k (callStep ins c).2 = (callStep ins c).2 := by
  cases c with
  | accept frame index =>
      have horigin := @rxStep_origin ins (frame, index)
      rw [hn, hc frame index rfl] at horigin
      have hstep : (callStep ins (.accept frame index)).2 = (rxStep ins (frame, index)).2 := rfl
      rw [hstep]
      cases htr : (rxStep ins (frame, index)).2 with
      | none => rfl
      | some tr =>
          have hk := Option.some.inj (horigin htr)
          unfold Demultiplexer.outputOf
          simp [Option.filter, hk]
  | push transfer room => rfl
  | pop => rfl
  | subscribe kind portId extent timeout => rfl
  | unsubscribe kind portId => rfl
  | release payload => rfl

/-- **A call and a listener it concerns.** -/
theorem HasListener.call {ins : CanardInstance} {nodeId : Nat} {k : SessionKey} {l : Option Listener}
    (h : HasListener ins k l) (hn : ins.nodeId = nodeId) (hports : ins.PortsDistinct) {c : Call}
    (hc : concerns nodeId k c = true) :
    ∃ grant, (ins.memory.Ample → grant = Grant.all) ∧
      HasListener (callStep ins c).1 k (listenerCall grant l c).1 ∧
      (callStep ins c).2 = (listenerCall grant l c).2 := by
  cases c with
  | accept frame index =>
      have hkey : sessionOf ins.nodeId (frame, index) = some k := by
        rw [hn]
        exact of_decide_eq_true hc
      obtain ⟨grant, hample, hl, htr⟩ := h.own hkey
      exact ⟨grant, fun hm => (hample hm).1, hl, htr⟩
  | subscribe kind portId extent timeout =>
      obtain ⟨hkind, hport⟩ := of_decide_eq_true hc
      refine ⟨Grant.all, fun _ => rfl, ?_, rfl⟩
      unfold HasListener
      rw [show (callStep ins (.subscribe kind portId extent timeout)).1 =
        (canardRxSubscribe ins kind portId extent timeout).1 from rfl,
        canardRxSubscribe_subscription hports, if_pos ⟨hkind, hport⟩]
      exact .some ⟨rfl, rfl, .none⟩
  | unsubscribe kind portId =>
      obtain ⟨hkind, hport⟩ := of_decide_eq_true hc
      refine ⟨Grant.all, fun _ => rfl, ?_, rfl⟩
      unfold HasListener
      rw [show (callStep ins (.unsubscribe kind portId)).1 =
        (canardRxUnsubscribe ins kind portId).1 from rfl,
        canardRxUnsubscribe_subscription hports, if_pos ⟨hkind, hport⟩]
      exact .none
  | push transfer room => cases hc
  | pop => cases hc
  | release payload => cases hc

/-- **A call and a listener it does not concern.** -/
theorem HasListener.call_other {ins : CanardInstance} {nodeId : Nat} {k : SessionKey}
    {l : Option Listener} (h : HasListener ins k l) (hn : ins.nodeId = nodeId)
    (hports : ins.PortsDistinct) {c : Call} (hc : concerns nodeId k c = false) :
    HasListener (callStep ins c).1 k l ∧
      Demultiplexer.outputOf transferSession k (callStep ins c).2 = none := by
  cases c with
  | accept frame index =>
      have hkey : sessionOf ins.nodeId (frame, index) ≠ some k := by
        rw [hn]
        exact of_decide_eq_false hc
      refine ⟨h.others hkey, ?_⟩
      have hstep : (callStep ins (.accept frame index)).2 = (rxStep ins (frame, index)).2 := rfl
      rw [hstep]
      cases htr : (rxStep ins (frame, index)).2 with
      | none => rfl
      | some tr =>
          have hne : transferSession tr ≠ k := fun heq => hkey (heq ▸ rxStep_origin htr)
          unfold Demultiplexer.outputOf
          simp [Option.filter, hne]
  | subscribe kind portId extent timeout =>
      refine ⟨h.congr ?_, rfl⟩
      rw [show (callStep ins (.subscribe kind portId extent timeout)).1 =
        (canardRxSubscribe ins kind portId extent timeout).1 from rfl,
        canardRxSubscribe_subscription hports, if_neg (of_decide_eq_false hc)]
  | unsubscribe kind portId =>
      refine ⟨h.congr ?_, rfl⟩
      rw [show (callStep ins (.unsubscribe kind portId)).1 =
        (canardRxUnsubscribe ins kind portId).1 from rfl,
        canardRxUnsubscribe_subscription hports, if_neg (of_decide_eq_false hc)]
  | push transfer room =>
      refine ⟨h.congr ?_, rfl⟩
      unfold CanardInstance.subscription
      rw [show (callStep ins (.push transfer room)).1.rxSubscriptions = ins.rxSubscriptions from
        (canardTxPush_rx ins transfer room).2]
  | pop => exact ⟨h, rfl⟩
  | release payload => exact ⟨h, rfl⟩

/-- **An instance is a family of listeners**, whatever memory there is. -/
theorem call_simulates (nodeId : Nat) :
    Demultiplexer.Simulates callStep (concerns nodeId) transferSession
      (fun ins => ins.nodeId = nodeId ∧ ins.PortsDistinct) HasListener
      (fun _ l c l' tr => ∃ grant, listenerCall grant l c = (l', tr)) where
  keeps := fun ins c h => ⟨(call_nodeId ins c).trans h.1, call_ports h.2 c⟩
  own := by
    intro ins c k l h hc hl
    obtain ⟨grant, _, hl', htr⟩ := hl.call h.1 h.2 hc
    rw [callStep_origin h.1 (fun frame index heq => ?_)]
    · exact ⟨_, hl', grant, by rw [htr]⟩
    · rw [heq] at hc
      exact of_decide_eq_true hc
  others := fun ins c k l h hc hl => hl.call_other h.1 h.2 hc

/-- With memory at hand a listener is granted everything it asks for. -/
theorem call_simulates_ample (nodeId : Nat) :
    Demultiplexer.Simulates callStep (concerns nodeId) transferSession
      (fun ins => (ins.nodeId = nodeId ∧ ins.PortsDistinct) ∧ ins.memory.Ample) HasListener
      (fun _ l c l' tr => listenerCall Grant.all l c = (l', tr)) where
  keeps := by
    intro ins c h
    refine ⟨⟨(call_nodeId ins c).trans h.1.1, call_ports h.1.2 c⟩, ?_⟩
    intro n
    rw [show (callStep ins c).1.memory.deny = ins.memory.deny from call_deny ins c]
    exact h.2 n
  own := by
    intro ins c k l h hc hl
    obtain ⟨grant, hample, hl', htr⟩ := hl.call h.1.1 h.1.2 hc
    obtain rfl := hample h.2
    rw [callStep_origin h.1.1 (fun frame index heq => ?_)]
    · exact ⟨_, hl', by rw [htr]⟩
    · rw [heq] at hc
      exact of_decide_eq_true hc
  others := fun ins c k l h hc hl => hl.call_other h.1.1 h.1.2 hc

end Wlmio.Canard
