import Wlmio.Proof.Sessions

/-!
# Subscriptions

What an instance is subscribed to is a table from kinds and ports to parameters.
`canardRxSubscribe` and `canardRxUnsubscribe` are its insertion and deletion, and what they
return says whether there was an entry; no other call changes it, and a transfer is handed
over only for an entry, and no longer than its extent (`subscriptions_refine`).
-/

namespace Wlmio.Proof

open Canard Demultiplexer

/-- The extent and the timeout that each kind and port is subscribed to with. -/
abbrev Table := CanardTransferKind → Nat → Option (Nat × Nat)

/-- What a call does to the table, and what it says about it. -/
def tableCall (t : Table) : Call → Table × Option Int
  | .subscribe kind portId extent timeout =>
    (fun k p => if k = kind ∧ p = portId then some (extent, timeout) else t k p,
      some (if (t kind portId).isSome then 0 else 1))
  | .unsubscribe kind portId =>
    (fun k p => if k = kind ∧ p = portId then none else t k p,
      some (if (t kind portId).isSome then 1 else 0))
  | _ => (t, none)

/-- The table of an instance. -/
def tableOf (ins : CanardInstance) : Table := fun kind port =>
  (ins.subscription kind port).map (fun sub => (sub.extent, sub.transferIdTimeoutUsec))

/-- A call as a step: what comes out is what it returns, if it is about subscriptions. -/
def codeStep (ins : CanardInstance) (c : Call) : CanardInstance × Option Int :=
  ((ins.call c).1,
    match c with
    | .subscribe _ _ _ _ => some (ins.call c).2.1
    | .unsubscribe _ _ => some (ins.call c).2.1
    | _ => none)

/-- An instance that is a family of listeners. -/
structure Represented (ins : CanardInstance) (nodeId : Nat) : Prop where
  node : ins.nodeId = nodeId
  ports : ins.PortsDistinct
  listeners : ∀ k, ∃ l, HasListener ins k l

theorem represented_fresh {ins : CanardInstance} {nodeId : Nat} (h : ins.Fresh nodeId) :
    Represented ins nodeId := ⟨h.node, fresh_distinct h, fun k => ⟨none, HasListener.fresh h k⟩⟩

theorem Represented.call {ins : CanardInstance} {nodeId : Nat} (h : Represented ins nodeId)
    (c : Call) : Represented (callStep ins c).1 nodeId := by
  refine ⟨(call_nodeId ins c).trans h.node, call_ports h.ports c, ?_⟩
  intro k
  obtain ⟨l, hl⟩ := h.listeners k
  by_cases hc : concerns nodeId k c = true
  · obtain ⟨grant, _, hl', _⟩ := hl.call h.node h.ports hc
    exact ⟨_, hl'⟩
  · exact ⟨l, (hl.call_other h.node h.ports (Bool.eq_false_iff.mpr hc)).1⟩

theorem Represented.final {ins : CanardInstance} {nodeId : Nat} (h : Represented ins nodeId)
    (calls : List Call) : Represented (final callStep ins calls) nodeId := by
  induction calls generalizing ins with
  | nil => exact h
  | cons c calls ih => exact ih (h.call c)

/-- A listener has the parameters of its subscription. -/
theorem tableOf_hasListener {ins : CanardInstance} {k : SessionKey} {l : Option Listener}
    (h : HasListener ins k l) :
    tableOf ins k.kind k.port = l.map (fun l => (l.extent, l.timeout)) := by
  unfold tableOf
  unfold HasListener at h
  cases hsub : ins.subscription k.kind k.port with
  | none =>
      rw [hsub] at h
      cases h
      rfl
  | some sub =>
      rw [hsub] at h
      cases h with
      | some hl => simp [hl.extent, hl.timeout]

/-- No frame changes the parameters of a listener. -/
theorem accept_parameters (l : Listener) (g : Grant) (model : RxFrameModel) (index : Nat) :
    (l.accept g model index).1.extent = l.extent ∧
      (l.accept g model index).1.timeout = l.timeout := by
  unfold Listener.accept
  split
  · split
    · exact ⟨rfl, rfl⟩
    · split
      · exact ⟨rfl, rfl⟩
      · exact ⟨rfl, rfl⟩
  · exact ⟨rfl, rfl⟩

theorem listenerStep_parameters (g : Grant) (l : Option Listener) (input : CanardFrame × Nat) :
    (listenerStep g l input).1.map (fun l => (l.extent, l.timeout)) =
      l.map (fun l => (l.extent, l.timeout)) := by
  unfold listenerStep
  split
  · rename_i x model _
    obtain ⟨hextent, htimeout⟩ := accept_parameters x g model input.2
    simp [hextent, htimeout]
  · rfl

/-- What is handed over fits the extent. -/
theorem transfer_extent {a : Assembly} {frame : RxFrameModel} {extent : Nat} {tr : CanardTransfer}
    (h : a.transfer frame extent = some tr) : tr.payload.length ≤ extent := by
  unfold Assembly.transfer at h
  split at h
  · rw [← Option.some.inj h]
    exact List.length_take_le _ _
  · split at h
    · rw [← Option.some.inj h]
      exact List.length_take_le _ _
    · cases h

theorem take_extent {a : Assembly} {granted : Bool} {frame : RxFrameModel} {index extent : Nat}
    {tr : CanardTransfer} (h : (a.take granted frame index extent).2 = some tr) :
    tr.payload.length ≤ extent := by
  unfold Assembly.take at h
  split at h
  · unfold Assembly.collect at h
    dsimp only at h
    split at h
    · cases h
    · split at h
      · exact transfer_extent h
      · cases h
  · cases h

theorem accept_extent {l : Listener} {g : Grant} {model : RxFrameModel} {index : Nat}
    {tr : CanardTransfer} (h : (l.accept g model index).2 = some tr) :
    tr.payload.length ≤ l.extent := by
  have hstep : ∀ a : Assembly, (l.proceed a g model index).2 = some tr →
      tr.payload.length ≤ l.extent := by
    intro a ha
    unfold Listener.proceed Assembly.step at ha
    dsimp only at ha
    split at ha
    · split at ha
      · exact take_extent ha
      · cases ha
    · exact take_extent ha
  unfold Listener.accept at h
  split at h
  · split at h
    · exact hstep _ h
    · split at h
      · exact hstep _ h
      · cases h
  · split at h
    · rw [← Option.some.inj h]
      exact List.length_take_le _ _
    · cases h

/-- **One call, and the table.** -/
theorem tableOf_call {ins : CanardInstance} {nodeId : Nat} (h : Represented ins nodeId) (c : Call) :
    tableOf (callStep ins c).1 = (tableCall (tableOf ins) c).1 := by
  funext kind port
  obtain ⟨l, hl⟩ := h.listeners ⟨kind, port, 0⟩
  have hbefore := tableOf_hasListener hl
  by_cases hc : concerns nodeId ⟨kind, port, 0⟩ c = true
  · obtain ⟨grant, _, hl', _⟩ := hl.call h.node h.ports hc
    have hafter := tableOf_hasListener hl'
    dsimp only at hbefore hafter
    rw [hafter]
    cases c with
    | accept frame index =>
        show (listenerStep grant l (frame, index)).1.map _ = tableOf ins kind port
        rw [listenerStep_parameters, hbefore]
    | subscribe kind' portId extent timeout =>
        obtain ⟨hkind, hport⟩ := of_decide_eq_true hc
        exact (if_pos ⟨hkind, hport⟩).symm
    | unsubscribe kind' portId =>
        obtain ⟨hkind, hport⟩ := of_decide_eq_true hc
        exact (if_pos ⟨hkind, hport⟩).symm
    | push transfer room => cases hc
    | pop => cases hc
    | release payload => cases hc
  · have hc := Bool.eq_false_iff.mpr hc
    have hafter := tableOf_hasListener (hl.call_other h.node h.ports hc).1
    rw [← hbefore] at hafter
    dsimp only at hafter
    rw [hafter]
    cases c with
    | subscribe kind' portId extent timeout => exact (if_neg (of_decide_eq_false hc)).symm
    | unsubscribe kind' portId => exact (if_neg (of_decide_eq_false hc)).symm
    | accept frame index => rfl
    | push transfer room => rfl
    | pop => rfl
    | release payload => rfl

/-- What a call about subscriptions returns. -/
theorem codeStep_table (ins : CanardInstance) (c : Call) :
    (codeStep ins c).2 = (tableCall (tableOf ins) c).2 := by
  have hun : ∀ kind portId, (canardRxUnsubscribe ins kind portId).2 =
      if (tableOf ins kind portId).isSome then 1 else 0 := by
    intro kind portId
    unfold canardRxUnsubscribe tableOf CanardInstance.subscription
    cases (ins.rxSubscriptions kind).find? (fun sub => sub.portId == portId) with
    | none => rfl
    | some sub => rfl
  cases c with
  | subscribe kind portId extent timeout =>
      show some (if 0 < (canardRxUnsubscribe ins kind portId).2 then (0 : Int) else 1) =
        some (if (tableOf ins kind portId).isSome then 0 else 1)
      rw [hun]
      by_cases hs : (tableOf ins kind portId).isSome = true
      · rw [if_pos hs, if_pos hs, if_pos (by decide)]
      · rw [if_neg hs, if_neg hs, if_neg (by decide)]
  | unsubscribe kind portId => exact congrArg some (hun kind portId)
  | accept frame index => rfl
  | push transfer room => rfl
  | pop => rfl
  | release payload => rfl

/-- A transfer is for an entry of the table. -/
theorem handouts_subscribed {ins : CanardInstance} {nodeId : Nat} (h : Represented ins nodeId)
    {c : Call} {tr : CanardTransfer} (htr : (callStep ins c).2 = some tr) :
    ∃ extent timeout, tableOf ins tr.transferKind tr.portId = some (extent, timeout) ∧
      tr.payload.length ≤ extent := by
  obtain ⟨_, frame, index, rfl, hkey⟩ := callStep_handed htr
  rw [h.node] at hkey
  obtain ⟨l, hl⟩ := h.listeners (transferSession tr)
  have hconcerned : concerns nodeId (transferSession tr) (.accept frame index) = true :=
    decide_eq_true hkey
  obtain ⟨grant, _, _, hout⟩ := hl.call h.node h.ports hconcerned
  have htable := tableOf_hasListener hl
  rw [htr] at hout
  simp only [listenerCall, listenerStep] at hout
  split at hout
  · rename_i x model _ _
    exact ⟨x.extent, x.timeout, htable, accept_extent hout.symm⟩
  · cases hout

/-- **Subscriptions are a table**, in every run. -/
theorem subscriptions_refine {ins : CanardInstance} {nodeId : Nat} (h : ins.Fresh nodeId)
    (calls : List Call) :
    tableOf (final callStep ins calls) = final tableCall (fun _ _ => none) calls ∧
      outputs codeStep ins calls = outputs tableCall (fun _ _ => none) calls ∧
      ∀ c tr, (callStep (final callStep ins calls) c).2 = some tr → ∃ extent timeout,
        final tableCall (fun _ _ => none) calls tr.transferKind tr.portId = some (extent, timeout) ∧
        tr.payload.length ≤ extent := by
  have hstart : tableOf ins = fun _ _ => none := by
    funext kind port
    unfold tableOf CanardInstance.subscription
    rw [h.nothing]
    rfl
  have hrun : ∀ (ins : CanardInstance), Represented ins nodeId →
      tableOf (final callStep ins calls) = final tableCall (tableOf ins) calls ∧
      outputs codeStep ins calls = outputs tableCall (tableOf ins) calls := by
    induction calls with
    | nil => exact fun ins _ => ⟨rfl, rfl⟩
    | cons c calls ih =>
        intro ins hins
        obtain ⟨hfinal, hcodes⟩ := ih _ (hins.call c)
        rw [final_cons, final_cons, outputs_cons, outputs_cons, codeStep_table, ← tableOf_call hins]
        exact ⟨hfinal, congrArg _ hcodes⟩
  obtain ⟨hfinal, hcodes⟩ := hrun ins (represented_fresh h)
  rw [hstart] at hfinal hcodes
  refine ⟨hfinal, hcodes, ?_⟩
  intro c tr htr
  rw [← hfinal]
  exact handouts_subscribed ((represented_fresh h).final calls) htr

theorem subscriptions_refine_message :
    tableOf (final callStep silentInstance [.subscribe .message 100 8 0]) =
        final tableCall (fun _ _ => none) [.subscribe .message 100 8 0] ∧
      outputs codeStep silentInstance [.subscribe .message 100 8 0] =
        outputs tableCall (fun _ _ => none) [.subscribe .message 100 8 0] ∧
      ∀ c tr, (callStep (final callStep silentInstance [.subscribe .message 100 8 0]) c).2 = some tr →
        ∃ extent timeout, final tableCall (fun _ _ => none) [.subscribe .message 100 8 0]
          tr.transferKind tr.portId = some (extent, timeout) ∧ tr.payload.length ≤ extent :=
  subscriptions_refine silentInstance_fresh _

end Wlmio.Proof
