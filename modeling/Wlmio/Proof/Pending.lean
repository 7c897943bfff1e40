import Wlmio.Proof.Ledger
import Wlmio.Proof.Scenario

/-!
# Pending tasks and their responses

The registry invariant and the ledger together say what the event handlers rely on: the
search for the task of a timer never fails, a response without a task changes nothing,
and a task that a response finds is one that the function for the same service made, so
that its `param` has the type the handler takes it for.
-/

namespace Wlmio.Proof

open Wlmio.Client Wlmio.Canard

/-! ## Responses without a task -/

theorem decodeStatus_ok (payload : List Byte) : ∃ r, decodeStatus payload = .ok r := by
  unfold decodeStatus
  split
  · rw [show (0 : Nat) = 0 * 8 by decide, canardDSDLGetU8_byte]
    exact ⟨_, rfl⟩
  · exact ⟨_, rfl⟩

/-- **A response that no task waits for is dropped.** -/
theorem dispatch_unmatched {w : World} {tfr : CanardTransfer} (pick : Int) (malloc : Bool)
    (hk : tfr.transferKind = .response)
    (hnone : w.registry.taskWithId (makeRspSpecifier tfr) = none) :
    dispatch w tfr pick malloc = .ok (w, none) := by
  have hparam : w.registry.asyncGetParam (makeRspSpecifier tfr) = none := by
    unfold Registry.asyncGetParam; rw [hnone]; rfl
  have hcomplete : ∀ r, asyncComplete w (makeRspSpecifier tfr) r = .ok (w, none) := by
    intro r; unfold asyncComplete; rw [hnone]
  unfold dispatch
  rw [if_neg (by simp [hk])]
  split
  · simp only [getNodeInfoResponseHandler, hparam, hcomplete]
  split
  · simp only [registerListResponseHandler, hparam]
  split
  · simp only [registerAccessResponseHandler, hparam]
  split
  · obtain ⟨r, hr⟩ := decodeStatus_ok tfr.payload
    unfold executeCommandResponseHandler
    rw [hr]
    exact hcomplete r
  · rfl

/-- The frame as `can_socket_handler` hands it on. -/
def socketFrame (frame : CanardFrame) : CanardFrame :=
  { frame with extendedCanId := frame.extendedCanId &&& 0x1FFFFFFF }

/-- `frame` completes the transfer `tfr`. -/
def Completes (w : World) (frame : CanardFrame) (tfr : CanardTransfer) : Prop :=
  ∃ canard out buffer,
    canardRxAccept w.bus.canard (socketFrame frame) 0 = (canard, out, some (tfr, buffer))

theorem completes_of_map {w : World} {frame : CanardFrame} {tfr : CanardTransfer}
    (h : (canardRxAccept w.bus.canard (socketFrame frame) 0).2.2.map Prod.fst = some tfr) :
    Completes w frame tfr := by
  rcases hacc : canardRxAccept w.bus.canard (socketFrame frame) 0 with ⟨canard, out, transfer⟩
  rw [hacc] at h
  obtain ⟨⟨tfr', buffer⟩, rfl, rfl⟩ := Option.map_eq_some_iff.mp h
  exact ⟨canard, out, buffer, hacc⟩

theorem receive_handled {w w' : World} {frame : CanardFrame} {pick : Int} {malloc : Bool}
    (hs : step w (.receive frame pick malloc) = some w') :
    w.fault = none ∧ w' = settle w (canSocketHandler w frame pick malloc) := by
  refine ⟨(step_cases hs).1, ?_⟩
  unfold step act at hs
  split at hs
  · simp at hs
  dsimp only at hs
  split at hs
  · split at hs
    · rw [Option.map_some] at hs
      exact (Option.some.inj hs).symm
    · simp at hs
  · simp at hs

/-- A step that receives a frame runs the handler of the transfer it completes. -/
theorem receive_step {w w' : World} {frame : CanardFrame} {pick : Int} {malloc : Bool}
    {canard : CanardInstance} {out : Int} {tfr : CanardTransfer} {buffer : Option Buffer}
    (hacc : canardRxAccept w.bus.canard (socketFrame frame) 0 = (canard, out, some (tfr, buffer)))
    (hs : step w (.receive frame pick malloc) = some w') :
    w.fault = none ∧
      w' = settle w (handleTransfer (withCanard w canard) tfr buffer pick malloc) := by
  obtain ⟨hfault, rfl⟩ := receive_handled hs
  have hh : canSocketHandler w frame pick malloc =
      handleTransfer (withCanard w canard) tfr buffer pick malloc := by
    unfold canSocketHandler
    dsimp only
    unfold socketFrame at hacc
    rw [hacc]
    rfl
  exact ⟨hfault, by rw [hh]⟩

theorem unmatched_step {w w' : World} {frame : CanardFrame} {pick : Int} {malloc : Bool}
    {tfr : CanardTransfer} (hc : Completes w frame tfr) (hk : tfr.transferKind = .response)
    (hnone : w.registry.taskWithId (makeRspSpecifier tfr) = none)
    (hs : step w (.receive frame pick malloc) = some w') :
    ∃ canard payload, w' = freePayload (withCanard w canard) payload := by
  obtain ⟨canard, out, buffer, hacc⟩ := hc
  obtain ⟨_, rfl⟩ := receive_step hacc hs
  unfold handleTransfer
  rw [dispatch_unmatched (w := withCanard w canard) pick malloc hk hnone]
  exact ⟨canard, _, rfl⟩

/-! ## The tasks responses find -/

/-- A response in range. -/
theorem completes_inRange {w : World} {frame : CanardFrame} {tfr : CanardTransfer}
    (hc : Completes w frame tfr) (hk : tfr.transferKind = .response) : InRange tfr := by
  obtain ⟨canard, out, buffer, hacc⟩ := hc
  have hrec := (canardRxAccept_spec hacc).2 tfr buffer rfl
  refine ⟨?_, hrec.transferId, hrec.service (by simp [hk])⟩
  rcases hrec.source with h | ⟨h, _⟩
  · exact h
  · rw [hk] at h; cases h

/-- A task with the specifier of a response waits for the service, node and transfer identifier
of that response. -/
theorem found_task {w : World} (hl : Ledger w.bus) (ho : Owned w.registry w.bus)
    {tfr : CanardTransfer} (hr : InRange tfr) {t : TaskEntry} (ht : t ∈ w.registry.head)
    (hid : t.id = makeRspSpecifier tfr) :
    ∃ i, w.bus.issued[t.serial]? = some i ∧ i.service.port = tfr.portId ∧
      i.transfer.remoteNodeId = tfr.remoteNodeId ∧ i.transfer.transferId = tfr.transferId ∧
      Fits i.service t.param := by
  obtain ⟨i, hi, hspec, hfit⟩ := ho.origin t ht
  have him := List.mem_of_getElem? hi
  obtain ⟨hnode, htid, hport⟩ := makeRspSpecifier_inj (hl.inRange him) hr (hspec.symm.trans hid)
  exact ⟨i, hi, (hl.shape i him).2.1.symm.trans hport, hnode, htid, hfit⟩

/-- What the event handlers rely on. -/
structure RegistrySound (w : World) : Prop where
  /-- The timer of a task is an entry of the descriptor list. -/
  timer : ∀ t ∈ w.registry.head, ∃ e ∈ w.registry.fdEntries,
    e.addr = t.timer ∧ e.handler = .asyncHandler
  /-- No two tasks share a timer. -/
  timers_differ : (w.registry.head.map TaskEntry.timer).Nodup
  /-- Each such entry is the timer of exactly one task. -/
  owner : ∀ e ∈ w.registry.fdEntries, e.handler = .asyncHandler →
    ∃! t, t ∈ w.registry.head ∧ t.timer = e.addr
  /-- The search in `async_handler` finds it. -/
  search : ∀ e ∈ w.registry.fdEntries, e.handler = .asyncHandler →
    ∃ t, w.registry.taskWithTimer e.addr = some t
  /-- A response without a task changes no task, no buffer and no count of callbacks. -/
  unmatched : ∀ frame pick malloc tfr w', Completes w frame tfr →
    tfr.transferKind = .response → w.registry.taskWithId (makeRspSpecifier tfr) = none →
    step w (.receive frame pick malloc) = some w' →
    w'.registry = w.registry ∧ w'.records = w.records ∧ w'.trace = w.trace ∧ w'.fault = none
  /-- A response with a task finds one that was made for its service, with a `param` of the type
  that service stores. -/
  typed : ∀ frame tfr t, Completes w frame tfr → tfr.transferKind = .response →
    w.registry.taskWithId (makeRspSpecifier tfr) = some t →
    ∃ i, w.bus.issued[t.serial]? = some i ∧ i.service.port = tfr.portId ∧ Fits i.service t.param

/-- **The registry is sound in every reachable state.** -/
theorem registry_sound {w : World} (h : Reachable w) : RegistrySound w := by
  have hg := good_reachable h
  have hl := ledger_reachable h
  have ho := owned_reachable h
  constructor
  · intro t ht
    obtain ⟨e, he, ha, hh, _⟩ := hg.timer t ht
    exact ⟨e, he, ha, hh⟩
  · exact (List.Nodup.of_map _ hg.task_unique).map_on
      (fun t ht t' ht' heq => hg.timer_inj t ht t' ht' heq)
  · intro e he hh
    obtain ⟨t, ht, heq⟩ := hg.owner e he hh
    exact ⟨t, ⟨ht, heq⟩, fun t' ⟨ht', heq'⟩ => hg.timer_inj t' ht' t ht (heq'.trans heq.symm)⟩
  · intro e he hh
    obtain ⟨t, ht, heq⟩ := hg.owner e he hh
    exact ⟨t, heq ▸ hg.taskWithTimer ht⟩
  · intro frame pick malloc tfr w' hc hk hnone hs
    have hf := (step_cases hs).1
    obtain ⟨canard, payload, rfl⟩ := unmatched_step hc hk hnone hs
    exact ⟨rfl, rfl, rfl, hf⟩
  · intro frame tfr t hc hk ht
    obtain ⟨htm, hid⟩ := taskWithId_mem ht
    obtain ⟨i, hi, hport, _, _, hfit⟩ := found_task hl ho (completes_inRange hc hk) htm hid
    exact ⟨i, hi, hport, hfit⟩

/-- A callback that makes a request in turn, while another task is pending. -/
theorem registry_sound_nested : ∃ w, w.registry.head.length = 3 ∧ RegistrySound w := by
  obtain ⟨w, hr, hw⟩ := exists_after Transition.free
    [.request (.registerList 7 0 (some 0)) (some 0) (grantFrom 5),
      .request (.getNodeInfo 7 (some 1)) (some 1) (grantFrom 6), .tick,
      .receive (responseFrame .registerList 7 0 [0#8]) 0 true,
      .request (.executeCommand 9 65533 none 0) (some 2) (grantFrom 7)]
    (fun w => decide (w.registry.head.length = 3)) (by decide +kernel)
  exact ⟨w, of_decide_eq_true hw, registry_sound hr⟩

end Wlmio.Proof
