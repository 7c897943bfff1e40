import Wlmio.Proof.Registry
import Wlmio.Proof.Scenario

/-!
# Node liveness

The status of a node, its entry in the table of timers and its descriptor move together:
a node is online exactly when it has a timer (`online_effect`). When the timer expires,
the node goes offline and its timer is closed, for every node but the last: the search of
`heartbeat_timeout_handler` for the node of a timer stops short of `CANARD_NODE_ID_MAX`
(`expiry_iff`).
-/

namespace Wlmio.Proof

open Wlmio.Client Wlmio.Canard

/-! ## Online nodes have timers -/

/-- A node is online exactly when it has a timer. -/
def Online (r : Registry) : Prop :=
  ∀ i, i ≤ CANARD_NODE_ID_MAX → ((r.nodes i).mode ≠ WLMIO_MODE_OFFLINE ↔ 0 ≤ r.timers i)

/-- `timerfd_create` hands out a descriptor, and not an open one. -/
def freshFd (r : Registry) (pick : Int) : Prop := 0 ≤ r.newFd pick

/-- **A heartbeat keeps status and timer of its node in step**, and leaves the other nodes. -/
theorem heartbeat_online {r r' : Registry} {node : Nat} {payload : List Byte} {pick : Int}
    {malloc : Bool} {old : Option WlmioStatus} (h : Online r) (hok : freshFd r pick)
    (hb : r.heartbeatHandler node payload pick malloc = .ok (r', old)) : Online r' := by
  rcases heartbeat_cases hb with ⟨rfl, _⟩ | ⟨status, r₁, r₂, hn, _, h₁, h₂, rfl, _⟩
  · exact h
  -- the last step only arms a timer
  have hreset : (r₂.resetNodeTimer node).nodes = r₂.nodes ∧
      (r₂.resetNodeTimer node).timers = r₂.timers := by
    obtain ⟨_, heq⟩ := resetNodeTimer_eq r₂ node
    rw [heq]
    exact ⟨rfl, rfl⟩
  have hnode : (r.setNode node status).nodes node = status := Function.update_self _ _ _
  have hother : ∀ i, i ≠ node → (r.setNode node status).nodes i = r.nodes i :=
    fun i hi => Function.update_of_ne hi _ _
  intro i hi
  rw [hreset.1, hreset.2]
  rcases stopNodeTimer_cases h₁ with ⟨hs, rfl⟩ | ⟨hoff, _, e₁, e, _, _, rfl⟩
  · rcases createNodeTimer_cases h₂ with ⟨hc, rfl⟩ | ⟨hon, _, rfl⟩
    · -- neither: the timer was right already
      by_cases hin : i = node
      · subst hin
        have hdec := lt_or_ge (((r.setNode i status).timers i)) 0
        constructor
        · intro hm
          by_contra hneg
          exact hc ⟨hm, by omega⟩
        · intro h0 hm
          exact hs ⟨hm, h0⟩
      · rw [hother i hin]
        exact h i hi
    · -- the node comes online
      by_cases hin : i = node
      · subst hin
        refine iff_of_true hon ?_
        show 0 ≤ Function.update r.timers i _ i
        rw [Function.update_self]
        exact hok
      · show ((r.setNode node status).nodes i).mode ≠ _ ↔ 0 ≤ Function.update r.timers node _ i
        rw [hother i hin, Function.update_of_ne hin]
        exact h i hi
  · -- the node goes offline, and so no timer is made
    have hkeep : r₂ = withoutNodeTimer (r.setNode node status) e node := by
      rcases createNodeTimer_cases h₂ with ⟨_, rfl⟩ | ⟨hon, _⟩
      · rfl
      · exact absurd hoff hon
    subst hkeep
    by_cases hin : i = node
    · subst hin
      refine iff_of_false (fun hm => hm hoff) ?_
      show ¬ 0 ≤ Function.update r.timers i (-1) i
      rw [Function.update_self]
      omega
    · show ((r.setNode node status).nodes i).mode ≠ _ ↔ 0 ≤ Function.update r.timers node _ i
      rw [hother i hin, Function.update_of_ne hin]
      exact h i hi

theorem online_effect {s s' : Registry × Bus} (h : Online s.1) (he : Effect freshFd s s') :
    Online s'.1 := by
  cases he with
  | registered _ _ _ _ => exact h
  | unregistered _ => exact h
  | removed _ _ => exact h
  | beat hok hb => exact heartbeat_online h hok hb
  | @expired r r' b e node old _ _ _ hx =>
      obtain ⟨_, _, e₁, _, rfl⟩ := timeout_cases hx
      intro i hi
      show (Function.update r.nodes node _ i).mode ≠ _ ↔ 0 ≤ Function.update r.timers node _ i
      by_cases hin : i = node
      · subst hin
        rw [Function.update_self, Function.update_self]
        decide
      · rw [Function.update_of_ne hin, Function.update_of_ne hin]
        exact h i hi
  | sent _ => exact h
  | received _ => exact h

theorem online_fresh {w : World} (h : Fresh w) : Online w.registry := by
  intro i hi
  obtain ⟨hnode, htimer⟩ := h.nodes i hi
  rw [hnode, htimer]
  decide

/-! ## Expiries -/

/-- The step in which the timer of a node expires. -/
structure TimerExpires (w : World) (i : Nat) (e : FdEntry) (w' : World) : Prop where
  entry : e ∈ w.registry.fdEntries
  handler : e.handler = .heartbeatTimeoutHandler
  timer : e.fd = w.registry.timers i
  step : step w (.expire e.addr) = some w'

/-- The node goes offline, its timer is closed, and the status callback is called once if there
is one; nothing else in the registry changes. -/
structure WentOffline (w : World) (i : Nat) (e : FdEntry) (w' : World) : Prop where
  fault : w'.fault = none
  registry : w'.registry = { w.registry with
    nodes := Function.update w.registry.nodes i .offline
    timers := Function.update w.registry.timers i (-1)
    fdEntries := w.registry.fdEntries.filter (fun e' => decide (e'.addr ≠ e.addr))
    itimers := Function.update w.registry.itimers e.fd .disarmed }
  called : w'.trace = (if w.userCallback then [.status i (w.registry.nodes i) .offline] else []) ++
    w.trace

/-- The search finds every node but the last. -/
theorem nodeOfTimer_eq {r : Registry} (h : Good r) {i : Nat} (hi : i ≤ CANARD_NODE_ID_MAX)
    (h0 : 0 ≤ r.timers i) :
    r.nodeOfTimer (r.timers i) = if i = CANARD_NODE_ID_MAX then none else some i := by
  -- no two nodes have the same timer
  have honly : ∀ j ∈ List.range CANARD_NODE_ID_MAX, decide (r.timers j = r.timers i) = true →
      j = i := by
    intro j hj heq
    have hlt := List.mem_range.mp hj
    exact (h.node_inj i j hi (by omega) h0 (of_decide_eq_true heq).symm).symm
  unfold Registry.nodeOfTimer
  split
  · rename_i hlast
    refine List.find?_eq_none.mpr (fun j hj heq => ?_)
    have hlt := List.mem_range.mp hj
    have hji := honly j hj heq
    omega
  · rename_i hlast
    exact KeyedList.find_only (List.mem_range.mpr (by omega)) (by simp) honly

theorem reportStatus_trace {w w' : World} {i : Nat} {old : WlmioStatus} {rest : Option Rest}
    (h : reportStatus w i old = (w', rest)) :
    w'.fault = w.fault ∧ w'.registry = w.registry ∧
      w'.trace = (if w.userCallback then [.status i old (w.registry.nodes i)] else []) ++ w.trace := by
  rcases reportStatus_cases h with ⟨hu, rfl, _⟩ | ⟨hu, rfl, _⟩
  · exact ⟨rfl, rfl, by rw [hu]; rfl⟩
  · exact ⟨rfl, rfl, by rw [hu]; rfl⟩

/-- **The timer of a node does what it should exactly when** the node is not the last. -/
theorem expiry_iff {w w' : World} (hgood : Good w.registry) {i : Nat} {e : FdEntry}
    (hi : i ≤ CANARD_NODE_ID_MAX) (h0 : 0 ≤ w.registry.timers i) (h : TimerExpires w i e w') :
    WentOffline w i e w' ↔ i ≠ CANARD_NODE_ID_MAX := by
  have hat := hgood.fdEntryAt h.entry
  have hnode := nodeOfTimer_eq hgood hi h0
  rw [← h.timer] at hnode
  obtain ⟨hfault, hdid | ⟨f, _, rfl⟩⟩ := step_cases h.step
  · cases hdid with
    | @taskExpired e₁ _ _ _ _ _ _ he₁ _ _ hh₁ _ _ =>
        obtain rfl := Option.some.inj (he₁.symm.trans hat)
        rw [h.handler] at hh₁
        cases hh₁
    | @nodeExpired e₁ r node _ old w₁ rest stack _ he₁ _ _ hx hrep =>
        obtain rfl := Option.some.inj (he₁.symm.trans hat)
        obtain ⟨hfound, rfl, e₂, he₂, rfl⟩ := timeout_cases hx
        obtain rfl := Option.some.inj (he₂.symm.trans hat)
        -- the search has found a node, so this is not the last
        have hlast : i ≠ CANARD_NODE_ID_MAX := by
          intro hlast
          rw [hfound, if_pos hlast] at hnode
          cases hnode
        rw [hfound, if_neg hlast] at hnode
        obtain rfl := Option.some.inj hnode
        obtain ⟨hf, hr, ht⟩ := reportStatus_trace hrep
        have hres := resume_frame w₁ rest none
        refine iff_of_true ⟨?_, ?_, ?_⟩ hlast
        · rw [hres.fault, hf]
          exact hfault
        · rw [hres.registry, hr]
          rfl
        · have hoff : ((withoutNodeTimer w.registry e₂ node).setNode node .offline).nodes node =
              .offline := Function.update_self _ _ _
          rw [hres.trace, ht]
          dsimp only
          rw [hoff]
  · -- the only thing that can go wrong is the search
    refine iff_of_false (fun hoff => ?_) ?_
    · have hf := hoff.fault
      cases hf
    · rename_i hact
      intro hlast
      obtain ⟨e₁, _, _, he₁, hx⟩ := act_expire hact
      obtain rfl := Option.some.inj (he₁.symm.trans hat)
      obtain ⟨_, _, handled, hx, ⟨hh, _⟩ | ⟨_, rfl⟩⟩ := handleExpiry_cases hx
      · rw [h.handler] at hh
        cases hh
      · have hx := Fallible.map_eq_error.mp hx.symm
        unfold heartbeatTimeoutHandler Registry.heartbeatTimeoutHandler at hx
        rw [hnode, if_neg hlast] at hx
        dsimp only at hx
        unfold Registry.fdEntryClose at hx
        rw [hat] at hx
        cases hx

/-! ## Runs -/

/-- The entry at an address is the timer of the last node. -/
def isLastTimer (r : Registry) (addr : Nat) : Bool :=
  (r.fdEntryAt addr).any (fun e => decide (e.handler = .heartbeatTimeoutHandler ∧
    e.fd = r.timers CANARD_NODE_ID_MAX))

/-- Descriptors are fresh, and the timer of the last node does not expire. -/
def Attended (w : World) : Act → Prop
  | .receive _ pick _ => freshFd w.registry pick
  | .expire addr => isLastTimer w.registry addr = false
  | _ => True

instance (r : Registry) (pick : Int) : Decidable (freshFd r pick) :=
  inferInstanceAs (Decidable (0 ≤ r.newFd pick))

instance (w : World) (a : Act) : Decidable (Attended w a) :=
  match a with
  | .receive _ pick _ => inferInstanceAs (Decidable (freshFd w.registry pick))
  | .expire addr => inferInstanceAs (Decidable (isLastTimer w.registry addr = false))
  | .request .. | .sync .. | .setTimeout _ | .setStatusCallback _ | .tick | .idle _ | .loop | .ret =>
    isTrue trivial

/-- The three structures are in step, and timers take their nodes offline. -/
structure NodesLive (w : World) : Prop where
  /-- A node is online exactly when it has a timer. -/
  online : Online w.registry
  /-- Exactly one entry has the descriptor of that timer, and its handler is the right one. -/
  entry : ∀ i, i ≤ CANARD_NODE_ID_MAX → 0 ≤ w.registry.timers i →
    ∃ e, e.handler = .heartbeatTimeoutHandler ∧
      w.registry.fdEntries.filter (fun e' => decide (e'.fd = w.registry.timers i)) = [e]
  /-- Different nodes have different timers. -/
  differ : ∀ i j, i ≤ CANARD_NODE_ID_MAX → j ≤ CANARD_NODE_ID_MAX → i ≠ j →
    0 ≤ w.registry.timers i → w.registry.timers i ≠ w.registry.timers j
  /-- When the timer of a node expires, just that node goes offline, unless it is the last. -/
  expiry : ∀ i e w', i ≤ CANARD_NODE_ID_MAX → 0 ≤ w.registry.timers i → TimerExpires w i e w' →
    (WentOffline w i e w' ↔ i ≠ CANARD_NODE_ID_MAX)

/-- **Node liveness**, in every state of every run in which descriptors are fresh and the timer of
the last node does not expire. -/
theorem nodes_live {w : World} (h : ReachableBy Attended w) : NodesLive w := by
  have hgood := good_reachable h
  have honline : Online w.registry :=
    reachable_core freshFd (P := fun s => Online s.1) (fun _ _ _ _ hg => hg)
      (fun _ hf => online_fresh hf) (fun _ _ hg he => online_effect hg he) h
  constructor
  · exact honline
  · intro i hi h0
    obtain ⟨e, he, hfd, hh⟩ := hgood.node i hi h0
    refine ⟨e, hh, hgood.entry_unique.filter_only he (by simpa using hfd) ?_⟩
    intro e' he' heq
    exact (hgood.fd_inj e he e' he' (hfd ▸ h0) (hfd.trans (of_decide_eq_true heq).symm)).symm
  · intro i j hi hj hne h0 heq
    exact hne (hgood.node_inj i j hi hj h0 heq)
  · intro i e w' hi h0 hx
    exact expiry_iff hgood hi h0 hx

/-- Two nodes come online, the last among them, and the other goes offline. -/
theorem nodes_live_two : ∃ w, (0 ≤ w.registry.timers CANARD_NODE_ID_MAX ∧
    w.registry.timers 3 < 0 ∧ w.trace.length = 3) ∧ NodesLive w := by
  obtain ⟨w, hr, hw⟩ := exists_after Attended
    [.setStatusCallback true, .tick, .receive (heartbeatFrame 127 0) 5 true, .ret,
      .receive (heartbeatFrame 3 0) 6 true, .ret, .expire 2]
    (fun w => decide (0 ≤ w.registry.timers CANARD_NODE_ID_MAX ∧ w.registry.timers 3 < 0 ∧
      w.trace.length = 3)) (by decide +kernel)
  exact ⟨w, of_decide_eq_true hw, nodes_live hr⟩

/-- **The last node never goes offline**: its timer finds no node. -/
theorem last_node_stays : ∃ w e w', ReachableBy Attended w ∧ TimerExpires w 127 e w' ∧
    w'.fault = some .uninitialised ∧ (w'.registry.nodes 127).mode ≠ WLMIO_MODE_OFFLINE := by
  obtain ⟨w, hr, hw⟩ := exists_after Attended [.tick, .receive (heartbeatFrame 127 0) 5 true]
    (fun w => decide ((⟨1, 5, .heartbeatTimeoutHandler⟩ : FdEntry) ∈ w.registry.fdEntries ∧
      w.registry.timers 127 = 5 ∧ (step w (.expire 1)).any (fun w' => decide
        (w'.fault = some .uninitialised ∧ (w'.registry.nodes 127).mode ≠ WLMIO_MODE_OFFLINE)) =
          true)) (by decide +kernel)
  obtain ⟨hentry, htimer, hstep⟩ := of_decide_eq_true hw
  obtain ⟨w', hs, hw'⟩ := (Option.any_eq_true _ _).mp hstep
  exact ⟨w, _, w', hr, ⟨hentry, rfl, htimer.symm, hs⟩, of_decide_eq_true hw'⟩

end Wlmio.Proof
