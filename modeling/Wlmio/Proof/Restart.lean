import Wlmio.Canard.Loopback
import Wlmio.Proof.Later
import Wlmio.Proof.Pending

/-!
# Shutdown and initialisation again

`wlmio_shutdown` closes two descriptors, and `wlmio_init` does not clear the two lists. So a second
`wlmio_init` never makes a fresh start (`restart_stale`): the entry of the old socket stays in front
of the new one, and so do the timers and the pending tasks. The timers are never reported any more,
but the tasks are found by responses as before.
-/

namespace Wlmio.Proof

open Wlmio.Client Wlmio.Canard

/-! ## Restarts -/

/-- The application calls `wlmio_shutdown` and then `wlmio_init`, which returns 0. -/
structure Restarts (w w' : World) : Prop where
  running : w.fault = none
  user : w.inUserCode = true
  init : ∃ os, wlmioInit (wlmioShutdown w).1 os = .ok (w', 0)

/-- What a first `wlmio_init` leaves behind, up to the numbers of descriptors and addresses. -/
structure FreshStart (w : World) : Prop where
  tasks : w.registry.head = []
  entries : ∃ addr, w.registry.fdEntries = [⟨addr, w.registry.canSock, .canSocketHandler⟩]
  nodes : ∀ i, i ≤ CANARD_NODE_ID_MAX → w.registry.nodes i = .offline ∧ w.registry.timers i = -1
  queue : w.bus.canard.txQueue = []

/-- What there is after a restart: the tasks and entries of before, and a new entry. -/
structure LeftOver (w w' : World) : Prop where
  tasks : w'.registry.head = w.registry.head
  entries : w'.registry.fdEntries =
    w.registry.fdEntries ++ [⟨w.registry.next, w'.registry.canSock, .canSocketHandler⟩]
  nodes : ∀ i, i ≤ CANARD_NODE_ID_MAX → w'.registry.nodes i = .offline ∧ w'.registry.timers i = -1
  queue : w'.bus.canard.txQueue = []

/-- What a restart does. -/
theorem restarts_cases {w w' : World} (h : Restarts w w') :
    ∃ nodeId epollfd canSock, w' = { w with
      bus := { w.bus with canard := reinstated w.bus.canard.memory nodeId }
      registry := reopened { w.registry with canSock := -1, epollfd := -1 } epollfd canSock } := by
  obtain ⟨os, hinit⟩ := h.init
  obtain ⟨nodeId, epollfd, canSock, _, _, _, rfl⟩ := wlmioInit_cases hinit
  exact ⟨nodeId, epollfd, canSock, rfl⟩

theorem restarts_leftOver {w w' : World} (h : Restarts w w') : LeftOver w w' := by
  obtain ⟨nodeId, epollfd, canSock, rfl⟩ := restarts_cases h
  refine ⟨rfl, rfl, fun i hi => ?_, rfl⟩
  simp [reopened, initNodes, hi]

/-! ## The entry of the socket -/

/-- There is an entry of a CAN socket. -/
def HasSocket (r : Registry) : Prop := ∃ e ∈ r.fdEntries, e.handler = .canSocketHandler

/-- Removing the entry of a timer leaves it there. -/
theorem HasSocket.without {r r' : Registry} (h : HasSocket r) (hgood : Good r) {e : FdEntry}
    (he : e ∈ r.fdEntries) (hh : e.handler ≠ .canSocketHandler)
    (hr : r'.fdEntries = r.fdEntries.filter (fun e' => decide (e'.addr ≠ e.addr))) :
    HasSocket r' := by
  obtain ⟨s, hs, hsocket⟩ := h
  refine ⟨s, ?_, hsocket⟩
  rw [hr]
  refine List.mem_filter.mpr ⟨hs, decide_eq_true (fun haddr => hh ?_)⟩
  have hsame := (hgood.fdEntryAt hs).symm.trans (haddr ▸ hgood.fdEntryAt he)
  exact Option.some.inj hsame ▸ hsocket

theorem HasSocket.append {r r' : Registry} (h : HasSocket r) {es : List FdEntry}
    (hr : r'.fdEntries = r.fdEntries ++ es) : HasSocket r' := by
  obtain ⟨s, hs, hsocket⟩ := h
  exact ⟨s, hr ▸ List.mem_append_left _ hs, hsocket⟩

theorem HasSocket.heartbeat {r r' : Registry} (h : HasSocket r) (hgood : Good r) {node : Nat}
    {payload : List Byte} {pick : Int} {malloc : Bool} {old : Option WlmioStatus}
    (hb : r.heartbeatHandler node payload pick malloc = .ok (r', old)) : HasSocket r' := by
  rcases heartbeat_cases hb with ⟨rfl, _⟩ | ⟨status, r₁, r₂, hn, _, h₁, h₂, rfl, _⟩
  · exact h
  have hset : HasSocket (r.setNode node status) := h
  have hstop : HasSocket r₁ := by
    rcases stopNodeTimer_cases h₁ with ⟨_, rfl⟩ | ⟨_, h0, e₁, e, hfind, hat, rfl⟩
    · exact hset
    · have hgood' := hgood.setNode node status
      obtain ⟨e₂, he₂, _, hh, hfind₂, hat₂⟩ := hgood'.find_node hn h0
      obtain rfl := Option.some.inj (hfind.symm.trans hfind₂)
      obtain rfl := Option.some.inj (hat.symm.trans hat₂)
      exact hset.without hgood' he₂ (by simp [hh]) rfl
  have hcreate : HasSocket r₂ := by
    rcases createNodeTimer_cases h₂ with ⟨_, rfl⟩ | ⟨_, _, rfl⟩
    · exact hstop
    · exact hstop.append rfl
  obtain ⟨_, heq⟩ := resetNodeTimer_eq r₂ node
  rw [heq]
  exact hcreate

theorem hasSocket_effect {ok : Registry → Int → Prop} {s s' : Registry × Bus} (h : HasSocket s.1)
    (hgood : Good s.1) (he : Effect ok s s') : HasSocket s'.1 := by
  cases he with
  | registered _ _ _ _ => exact h.append rfl
  | unregistered _ => exact h
  | @removed r b t e ht he =>
      obtain ⟨e', he', haddr, hh, _⟩ := hgood.timer t (taskAt_mem ht).1
      obtain rfl := Option.some.inj (he.symm.trans (haddr ▸ hgood.fdEntryAt he'))
      exact h.without hgood he' (by simp [hh]) rfl
  | beat _ hb => exact h.heartbeat hgood hb
  | expired he _ hh hx =>
      obtain ⟨_, _, e₁, he₁, rfl⟩ := timeout_cases hx
      obtain rfl := Option.some.inj (he.symm.trans he₁)
      exact h.without hgood (fdEntryAt_mem he).1 (by simp [hh]) rfl
  | sent _ => exact h
  | received _ => exact h

/-- **The entry of the socket is never removed.** -/
theorem hasSocket_reachable {w : World} (h : Reachable w) : HasSocket w.registry := by
  refine (reachable_core anyFd (P := fun s => Good s.1 ∧ HasSocket s.1)
    (fun _ _ _ _ _ => trivial) (fun w hf => ⟨good_fresh hf, ?_⟩)
    (fun _ _ hp he => ⟨good_effect hp.1 he, hasSocket_effect hp.2 hp.1 he⟩) h).2
  exact ⟨_, hf.entries ▸ List.mem_singleton.mpr rfl, rfl⟩

/-! ## Runs after a restart -/

/-- The new epoll instance knows the entries made since, which have addresses from `next` on. -/
def Known (next : Nat) (_ : World) : Act → Prop
  | .expire addr => next ≤ addr
  | _ => True

instance (next : Nat) (w : World) (a : Act) : Decidable (Known next w a) :=
  match a with
  | .expire addr => inferInstanceAs (Decidable (next ≤ addr))
  | .request .. | .sync .. | .setTimeout _ | .setStatusCallback _ | .tick | .receive .. | .idle _
  | .loop | .ret => isTrue trivial

/-- The states of the runs from `w'`, to which the client has been restarted from `w`. -/
abbrev AfterRestart (w w' : World) : World → Prop :=
  Transition.Reaches step (Known w.registry.next) (· = w')

/-- The task that an event is for: its callback is called, and its buffer written before. -/
inductive Finds (w : World) : Act → TaskEntry → Prop
  | response {frame : CanardFrame} {pick : Int} {malloc : Bool} {tfr : CanardTransfer}
      {t : TaskEntry} :
      Completes w frame tfr → tfr.transferKind = .response →
      w.registry.taskWithId (makeRspSpecifier tfr) = some t → Finds w (.receive frame pick malloc) t
  | timeout {addr : Nat} {e : FdEntry} {t : TaskEntry} :
      w.registry.fdEntryAt addr = some e → e.handler = .asyncHandler →
      w.registry.taskWithTimer e.addr = some t → Finds w (.expire addr) t

theorem Finds.mem {w : World} {a : Act} {t : TaskEntry} (h : Finds w a t) : t ∈ w.registry.head := by
  cases h with
  | response _ _ ht => exact (taskWithId_mem ht).1
  | timeout _ _ ht => exact (taskWithTimer_mem ht).1

/-- No event after the restart is for a request made before. -/
def Separate (w w' : World) : Prop :=
  ∀ w₁ a w₂ t, AfterRestart w w' w₁ → Known w.registry.next w₁ a → step w₁ a = some w₂ →
    Finds w₁ a t → w.bus.issued.length ≤ t.serial

/-- Without a pending request there is nothing to be found. -/
theorem separate_of_idle {w w' : World} (hr : Restarts w w') (hidle : w.registry.head = []) :
    Separate w w' := by
  intro w₁ a w₂ t hafter _ _ hfinds
  have hnew : w.bus.issued.length ≤ w₁.bus.issued.length ∧
      ∀ t ∈ w₁.registry.head, w.bus.issued.length ≤ t.serial := by
    refine Transition.Reaches.invariant (P := fun w₁ => w.bus.issued.length ≤ w₁.bus.issued.length ∧
      ∀ t ∈ w₁.registry.head, w.bus.issued.length ≤ t.serial) ?_ ?_ hafter
    · intro v hv
      obtain ⟨nodeId, epollfd, canSock, rfl⟩ := restarts_cases hr
      subst hv
      refine ⟨Nat.le_refl _, ?_⟩
      intro t ht
      have hmem : t ∈ w.registry.head := ht
      rw [hidle] at hmem
      cases hmem
    · intro v b v' _ _ hv hs
      have hlater := step_later hs
      refine ⟨Nat.le_trans hv.1 hlater.issued, ?_⟩
      intro t ht
      rcases hlater.tasks t ht with hold | ⟨hserial, _⟩
      · exact hv.2 t hold
      · exact Nat.le_trans hv.1 hserial
  exact hnew.2 t hfinds.mem

/-! ## A late response -/

theorem responseCanId_le (service : Service) {node own : Nat} (hnode : node ≤ CANARD_NODE_ID_MAX)
    (hown : own ≤ CANARD_NODE_ID_MAX) :
    txMakeServiceSessionSpecifier service.port false node own ||| (4 <<< 26) ≤ CAN_EXT_ID_MASK := by
  rw [txServiceCanId_eq (Service.port_le service) hnode hown]
  have hport := Service.port_le service
  simp only [CANARD_NODE_ID_MAX, CANARD_SERVICE_ID_MAX, CAN_EXT_ID_MASK, Bool.false_eq_true,
    if_false] at *
  omega

/-- The way of a response from a node to the client. -/
def responseRoute (service : Service) {node own : Nat} (hnode : node ≤ CANARD_NODE_ID_MAX)
    (hown : own ≤ CANARD_NODE_ID_MAX) (hne : node ≠ own) : Route where
  canId := txMakeServiceSessionSpecifier service.port false node own ||| (4 <<< 26)
  kind := .response
  port := service.port
  src := node
  dst := own
  canId_le := responseCanId_le service hnode hown
  src_le := hnode
  parse := rxParseCanId_service (Service.port_le service) hnode hown hne

/-- `wlmio_init` subscribes to the responses of all four services. -/
theorem reinstated_listening {memory : Memory} (hm : memory.Ample) (nodeId : BitVec 7)
    {r : Route} (hdst : nodeId.toNat = r.dst) (service : Service) (hkind : r.kind = .response)
    (hport : r.port = service.port) :
    ∃ extent sub, 0 < extent ∧ Listening (reinstated memory nodeId) r extent 2000000 sub ∧
      sub.sessions r.src = none := by
  cases service
  · exact ⟨313, ⟨fun _ => none, 2000000, 313, 430⟩, by omega,
      ⟨hdst, hm, by rw [hkind, hport]; rfl, rfl, rfl⟩, rfl⟩
  · exact ⟨51, ⟨fun _ => none, 2000000, 51, 385⟩, by omega,
      ⟨hdst, hm, by rw [hkind, hport]; rfl, rfl, rfl⟩, rfl⟩
  · exact ⟨267, ⟨fun _ => none, 2000000, 267, 384⟩, by omega,
      ⟨hdst, hm, by rw [hkind, hport]; rfl, rfl, rfl⟩, rfl⟩
  · exact ⟨1, ⟨fun _ => none, 2000000, 1, 435⟩, by omega,
      ⟨hdst, hm, by rw [hkind, hport]; rfl, rfl, rfl⟩, rfl⟩

/-- An empty response in a single frame. -/
def emptyResponse (r : Route) (tid : Nat) : CanardFrame where
  timestampUsec := 0
  extendedCanId := r.canId
  payload := [txMakeTailByte true true true tid]

theorem socketFrame_emptyResponse (r : Route) (tid : Nat) :
    socketFrame (emptyResponse r tid) = emptyResponse r tid := by
  have hle := r.canId_le
  have hmask : r.canId &&& 0x1FFFFFFF = r.canId := by
    rw [show (0x1FFFFFFF : Nat) = 2 ^ 29 - 1 by decide, BitField.and_mask]
    simp only [CAN_EXT_ID_MASK] at hle
    omega
  unfold socketFrame emptyResponse
  rw [hmask]

/-- It is accepted by an instance that has just been subscribed. -/
theorem emptyResponse_accepted {ins : CanardInstance} {r : Route} {extent timeout : Nat}
    {sub : CanardRxSubscription} (hl : Listening ins r extent timeout sub) (he : 0 < extent)
    (hnone : sub.sessions r.src = none) (tid : Nat) :
    ∃ ins' out b, canardRxAccept ins (emptyResponse r tid) 0 =
      (ins', out, some (r.transfer 0 tid [], b)) := by
  have hready : ∀ rxs, sub.sessions r.src = some rxs → Ready rxs 0 (tid % 32) extent timeout := by
    intro rxs hrxs
    rw [hnone] at hrxs
    cases hrxs
  obtain ⟨mem₁, rxs₁, hm₁, hc, _, hstart⟩ := hl.start hready true []
  obtain ⟨mem', rxs', b, hacc, hm'⟩ :=
    rxSessionAcceptFrame_single (r.model 0 tid true true true []) hm₁ he hc rfl rfl
  obtain ⟨ins', haccept, _⟩ := hl.accept (f := emptyResponse r tid) rfl rfl (fun _ => rfl)
    (Or.inl rfl) (Or.inl ⟨rfl, rfl⟩) hm' (hstart _ _ _ _ hacc)
  have hempty : (r.model 0 tid true true true []).payload.take extent = [] := List.take_nil
  rw [hempty] at haccept
  exact ⟨ins', _, _, haccept⟩

theorem tick_possible {w : World} (hfault : w.fault = none) (huser : w.inUserCode = true) :
    step w .tick = some { w with stack := .tick :: w.stack } := by
  unfold step act
  simp [hfault, huser, settle]

theorem receive_possible {w : World} (hfault : w.fault = none) {stack : List Activation}
    (hstack : w.stack = .tick :: stack) (hsocket : HasSocket w.registry) (frame : CanardFrame) :
    ∃ w', step w (.receive frame 0 true) = some w' := by
  obtain ⟨e, he, hh⟩ := hsocket
  have hany : w.registry.fdEntries.any (fun e => decide (e.handler = .canSocketHandler)) = true :=
    List.any_eq_true.mpr ⟨e, he, decide_eq_true hh⟩
  refine ⟨settle w (canSocketHandler w frame 0 true), ?_⟩
  unfold step act
  rw [hfault, hstack]
  dsimp only
  rw [if_pos hany]
  rfl

/-- **A request made before the restart is found by a response after it.** -/
theorem not_separate_of_pending {w w' : World} (h : Reachable w) (hr : Restarts w w')
    (hm : w.bus.canard.memory.Ample) {t : TaskEntry} (ht : t ∈ w.registry.head) {i : Issued}
    (hi : w.bus.issued[t.serial]? = some i)
    (hnode : i.transfer.remoteNodeId ≠ w'.bus.canard.nodeId) : ¬ Separate w w' := by
  intro hsep
  have howned := owned_reachable h
  have hledger := ledger_reachable h
  obtain ⟨nodeId, epollfd, canSock, hw'⟩ := restarts_cases hr
  have hown : nodeId.toNat ≤ CANARD_NODE_ID_MAX := Nat.le_of_lt_succ nodeId.isLt
  -- what the response has to be
  obtain ⟨i', hi', hspec, _⟩ := howned.origin t ht
  obtain rfl := Option.some.inj (hi.symm.trans hi')
  have hissued := List.mem_of_getElem? hi
  have hrange := hledger.inRange hissued
  have hne : i.transfer.remoteNodeId ≠ nodeId.toNat := by
    rw [hw'] at hnode
    exact hnode
  let r := responseRoute i.service hrange.node hown hne
  have hid : makeRspSpecifier (r.transfer 0 i.transfer.transferId []) = t.id := by
    have htid : i.transfer.transferId % 32 = i.transfer.transferId :=
      Nat.mod_eq_of_lt (Nat.lt_succ_of_le hrange.transferId)
    rw [hspec]
    unfold makeRspSpecifier Route.transfer
    rw [htid, (hledger.shape i hissued).2.1]
    rfl
  -- the task that is found may be another one with the same specifier
  obtain ⟨t', ht'⟩ : ∃ t', w.registry.taskWithId t.id = some t' :=
    Option.isSome_iff_exists.mp (List.find?_isSome.mpr ⟨t, ht, by simp⟩)
  have hold : t'.serial < w.bus.issued.length := howned.serial_lt (taskWithId_mem ht').1
  -- the run: a tick gets the frame
  let w₁ : World := { w' with stack := .tick :: w'.stack }
  have hstep₁ : step w' .tick = some w₁ := by
    subst hw'
    exact tick_possible hr.running hr.user
  obtain ⟨extent, sub, he, hl, hnone⟩ :=
    reinstated_listening hm nodeId (r := r) rfl i.service rfl rfl
  obtain ⟨ins, out, b, hacc⟩ := emptyResponse_accepted hl he hnone i.transfer.transferId
  have hcomplete : Completes w₁ (emptyResponse r i.transfer.transferId)
      (r.transfer 0 i.transfer.transferId []) := by
    refine ⟨ins, out, b, ?_⟩
    rw [socketFrame_emptyResponse]
    subst hw'
    exact hacc
  have hsocket : HasSocket w₁.registry :=
    (hasSocket_reachable h).append (restarts_leftOver hr).entries
  have hfault : w₁.fault = none := by
    subst hw'
    exact hr.running
  obtain ⟨w₂, hstep₂⟩ :=
    receive_possible hfault rfl hsocket (emptyResponse r i.transfer.transferId)
  have hfinds : Finds w₁ (.receive (emptyResponse r i.transfer.transferId) 0 true) t' := by
    refine .response hcomplete rfl ?_
    rw [hid]
    subst hw'
    exact ht'
  have hlate := hsep w₁ (.receive _ 0 true) w₂ t' (.step (a := .tick) (.init rfl) trivial hstep₁) trivial hstep₂ hfinds
  omega

/--
**A restart is no fresh start.**

The list of descriptors always keeps the entry of the old socket, and it and the task list keep
everything else. Nothing is found of before the restart if no request was pending; a request to
another node that was is found by its response.
-/
theorem restart_stale {w w' : World} (h : Reachable w) (hr : Restarts w w') :
    ¬ FreshStart w' ∧ LeftOver w w' ∧ (w.registry.head = [] → Separate w w') ∧
      ∀ t ∈ w.registry.head, ∀ i, w.bus.issued[t.serial]? = some i →
        i.transfer.remoteNodeId ≠ w'.bus.canard.nodeId → w.bus.canard.memory.Ample →
          ¬ Separate w w' := by
  have hleft := restarts_leftOver hr
  refine ⟨fun hfresh => ?_, hleft, separate_of_idle hr,
    fun t ht i hi hnode hm => not_separate_of_pending h hr hm ht hi hnode⟩
  obtain ⟨e, he, _⟩ := hasSocket_reachable h
  obtain ⟨addr, hone⟩ := hfresh.entries
  have hlength := congrArg List.length (hleft.entries.symm.trans hone)
  have hpos := List.length_pos_of_mem he
  simp only [List.length_append, List.length_singleton] at hlength
  omega

/-- The restart in which the descriptors of the first start are handed out again. -/
def restart (w : World) : Option World :=
  match wlmioInit (wlmioShutdown w).1 bootOs with
  | .ok (w', r) => if w.fault = none ∧ w.inUserCode = true ∧ r = 0 then some w' else none
  | .error _ => none

theorem restarts_of_restart {w w' : World} (h : restart w = some w') : Restarts w w' := by
  unfold restart at h
  split at h
  · rename_i w₁ r hinit
    split at h
    · rename_i hc
      obtain ⟨hfault, huser, rfl⟩ := hc
      obtain rfl := Option.some.inj h
      exact ⟨hfault, huser, bootOs, hinit⟩
    · cases h
  · cases h

/-- A command to node 7. -/
def command : Act := .request (.executeCommand 7 65533 none 0) (some 0) (grantFrom 5)

/-- The client that waits for its response. -/
def commanded : World := (after Transition.free [command]).getD started

theorem after_command : after Transition.free [command] = some commanded := rfl

theorem restart_stale_command : ∃ w', Restarts commanded w' ∧ ¬ FreshStart w' ∧
    LeftOver commanded w' ∧ ¬ Separate commanded w' := by
  obtain ⟨w', hw', hid⟩ := (Option.any_eq_true (fun w' : World => decide (w'.bus.canard.nodeId = 5))
    (restart commanded)).mp (by decide +kernel)
  have hr := restarts_of_restart hw'
  obtain ⟨hfresh, hleft, _, hpending⟩ := restart_stale (reachable_after after_command) hr
  obtain ⟨t, ht, i, hi, hnode⟩ : ∃ t ∈ commanded.registry.head, ∃ i,
      commanded.bus.issued[t.serial]? = some i ∧ i.transfer.remoteNodeId = 7 :=
    ⟨_, List.mem_singleton.mpr rfl, _, rfl, rfl⟩
  refine ⟨w', hr, hfresh, hleft, hpending t ht i hi ?_ (fun _ => rfl)⟩
  rw [hnode, of_decide_eq_true hid]
  decide

/-- **The callback of the old request is called**, by a response that comes after the restart. -/
theorem restart_calls_back : ∃ w w' w'', Reachable w ∧ Restarts w w' ∧ ¬ FreshStart w' ∧
    Transition.run step (Known w.registry.next) w'
      [.tick, .receive (responseFrame .executeCommand 7 0 [0#8]) 0 true] = some w'' ∧
    Event.called 0 0 ∉ w'.trace ∧ Event.called 0 0 ∈ w''.trace := by
  obtain ⟨w, hreach, hw⟩ := exists_after Transition.free [command]
    (fun w => (restart w).any (fun w' : World => decide (w'.registry.head ≠ []) &&
      decide (Event.called 0 0 ∉ w'.trace) &&
        (Transition.run step (Known w.registry.next) w'
          [.tick, .receive (responseFrame .executeCommand 7 0 [0#8]) 0 true]).any
            (fun w'' : World => decide (Event.called 0 0 ∈ w''.trace)))) (by decide +kernel)
  obtain ⟨w', hw', hafter⟩ := (Option.any_eq_true _ _).mp hw
  obtain ⟨hbefore, hrun⟩ := (Bool.and_eq_true _ _).mp hafter
  obtain ⟨hpending, hquiet⟩ := (Bool.and_eq_true _ _).mp hbefore
  obtain ⟨w'', hw'', hcalled⟩ := (Option.any_eq_true _ _).mp hrun
  exact ⟨w, w', w'', hreach, restarts_of_restart hw',
    fun hfresh => of_decide_eq_true hpending hfresh.tasks, hw'', of_decide_eq_true hquiet,
    of_decide_eq_true hcalled⟩

end Wlmio.Proof
