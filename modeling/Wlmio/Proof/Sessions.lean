import Wlmio.Canard.Chains
import Mathlib.Data.List.Forall2

/-!
# Reception sessions

One instance receives the transfers of many sources on many ports, frame by frame in
whatever order the bus has them. Four things make that bearable for an application:

* what it is handed for one session is what a listener makes of the frames of that
  session alone (`reception_refines`), so that nothing another node sends can change
  it (`sessions_isolated`);
* every transfer is put together from frames of its session that belong together
  (`transfers_from_chains`), each frame in one transfer at most;
* a transfer that has been handed over is not handed over again when its frames are
  repeated, be it on the same bus or a redundant one (`repeats_ignored`).
-/

namespace Wlmio.Proof

open Canard Demultiplexer

theorem fresh_distinct {ins : CanardInstance} {nodeId : Nat} (h : ins.Fresh nodeId) :
    ins.PortsDistinct := by
  intro kind
  rw [h.nothing]
  exact List.nodup_nil

/-- An instance as `canardInit` leaves it, with all the memory it can ask for. -/
def silentInstance : CanardInstance :=
  canardInit { next := 0, live := [], freed := [], deny := fun _ => false }

theorem silentInstance_fresh : silentInstance.Fresh CANARD_NODE_ID_UNSET := ⟨rfl, fun _ => rfl⟩

/-- A single-frame message of one byte on port 100. -/
def messageFrame (source tid : Nat) (b : Byte) : CanardFrame where
  timestampUsec := 0
  extendedCanId := txMakeMessageSessionSpecifier 100 source
  payload := [b, txMakeTailByte true true true tid]

/-- The transfer it carries. -/
def messageTransfer (source tid : Nat) (b : Byte) : CanardTransfer where
  timestampUsec := 0
  priority := 0
  transferKind := .message
  portId := 100
  remoteNodeId := source
  transferId := tid
  payload := [b]

/-- The listener of a session, after a run that hands over what is handed over for it. -/
theorem handouts_runs {ins : CanardInstance} {nodeId : Nat} (h : ins.Fresh nodeId)
    (calls : List Call) (k : SessionKey) :
    ∃ l, HasListener (final callStep ins calls) k l ∧
      Runs (fun l c l' tr => ∃ grant, listenerCall grant l c = (l', tr)) none
        (inputsFor (concerns nodeId) k calls) l (outputsOf transferSession k (handouts ins calls)) :=
  (call_simulates nodeId).project ⟨h.node, fresh_distinct h⟩ (HasListener.fresh h k) calls

/-- What holds of a transfer and the chain that completes it holds of all that is handed over for a
session, and the chains are disjoint. -/
theorem handouts_forall {ins : CanardInstance} {nodeId : Nat} (h : ins.Fresh nodeId)
    (calls : List Call) (k : SessionKey) {P : List Arrival → CanardTransfer → Prop}
    (hP : ∀ extent timeout chain tr, Call.subscribe k.kind k.port extent timeout ∈ calls →
      Composes extent chain tr → P chain tr) :
    ∃ chains : List (List Arrival),
      chains.flatten.Sublist (arrivals (inputsFor (concerns nodeId) k calls)) ∧
      List.Forall₂ P chains (outputsOf transferSession k (handouts ins calls)) := by
  obtain ⟨l, _, hrun⟩ := handouts_runs h calls k
  have hconcern : ∀ c ∈ inputsFor (concerns nodeId) k calls, concerns nodeId k c = true :=
    fun c hc => (List.mem_filter.mp hc).2
  have hallow : ∀ extent timeout,
      Call.subscribe k.kind k.port extent timeout ∈ inputsFor (concerns nodeId) k calls →
      ∃ timeout, Call.subscribe k.kind k.port extent timeout ∈ calls :=
    fun extent timeout hc => ⟨timeout, (List.mem_filter.mp hc).1⟩
  obtain ⟨chains, hsub, hall⟩ := runs_chains hrun hconcern hallow (fun x hx => (nomatch hx)) rfl
    (.inr rfl)
  refine ⟨chains, hsub, hall.imp ?_⟩
  intro chain tr hchain
  obtain ⟨extent, ⟨timeout, hmem⟩, hcomp⟩ := hchain
  exact hP extent timeout chain tr hmem hcomp

/-- **Reception refines a family of listeners.** Whatever the application calls, in whatever order,
and whatever memory is refused, the transfers handed over for a session are those of a listener
that sees only the calls that concern it; and with memory at hand there is one way it can go. -/
theorem reception_refines {ins : CanardInstance} {nodeId : Nat} (h : ins.Fresh nodeId)
    (calls : List Call) (k : SessionKey) :
    (∃ l, HasListener (final callStep ins calls) k l ∧
      Runs (fun l c l' tr => ∃ grant, listenerCall grant l c = (l', tr)) none
        (inputsFor (concerns nodeId) k calls) l (outputsOf transferSession k (handouts ins calls))) ∧
    (ins.memory.Ample → outputsOf transferSession k (handouts ins calls) =
      outputs (listenerCall Grant.all) none (inputsFor (concerns nodeId) k calls)) := by
  refine ⟨handouts_runs h calls k, ?_⟩
  intro hm
  exact (call_simulates_ample nodeId).outputsOf_eq (fun _ _ _ _ _ heq => heq)
    ⟨⟨h.node, fresh_distinct h⟩, hm⟩ (HasListener.fresh h k) calls

theorem reception_refines_message :
    outputsOf transferSession ⟨.message, 100, 5⟩ (handouts silentInstance
        [.subscribe .message 100 8 0, .accept (messageFrame 5 0 9#8) 0]) =
      outputs (listenerCall Grant.all) none
        [.subscribe .message 100 8 0, .accept (messageFrame 5 0 9#8) 0] :=
  (reception_refines silentInstance_fresh _ ⟨.message, 100, 5⟩).2 (fun _ => rfl)

/-- **Sessions are isolated.** Two runs in which the calls that concern a session are the same hand
over the same transfers for it, whatever else happens in them. -/
theorem sessions_isolated {ins ins' : CanardInstance} {nodeId : Nat} (h : ins.Fresh nodeId)
    (h' : ins'.Fresh nodeId) (hm : ins.memory.Ample) (hm' : ins'.memory.Ample) (k : SessionKey)
    {calls calls' : List Call}
    (hsame : inputsFor (concerns nodeId) k calls = inputsFor (concerns nodeId) k calls') :
    outputsOf transferSession k (handouts ins calls) =
      outputsOf transferSession k (handouts ins' calls') :=
  (call_simulates_ample nodeId).isolated (fun _ _ _ _ _ heq => heq)
    ⟨⟨h.node, fresh_distinct h⟩, hm⟩ ⟨⟨h'.node, fresh_distinct h'⟩, hm'⟩ (HasListener.fresh h k)
    (HasListener.fresh h' k) hsame

theorem sessions_isolated_message :
    outputsOf transferSession ⟨.message, 100, 5⟩ (handouts silentInstance
        [.subscribe .message 100 8 0, .accept (messageFrame 5 0 9#8) 0]) =
      outputsOf transferSession ⟨.message, 100, 5⟩ (handouts silentInstance
        [.subscribe .message 100 8 0, .accept (messageFrame 6 0 1#8) 0,
          .accept (messageFrame 5 0 9#8) 0]) :=
  sessions_isolated silentInstance_fresh silentInstance_fresh (fun _ => rfl) (fun _ => rfl)
    ⟨.message, 100, 5⟩ rfl

/-- A call that brings a frame of transfer `tid` which is not later than `limit`. -/
def Repeats (tid limit : Nat) (c : Call) : Prop :=
  ∃ f, arrival c = some f ∧ f.1.transferId = tid ∧ f.1.timestampUsec ≤ limit

/-- A listener that expects the next transfer gives out nothing while the last one is repeated. -/
theorem runs_repeats {nodeId : Nat} {k : SessionKey} (hk : k.source ≤ CANARD_NODE_ID_MAX)
    {tid : Nat} (htid : tid ≤ CANARD_TRANSFER_ID_MAX) {x : Listener} {a : Assembly}
    (hx : x.assembly = some a) (ha : a.transferId = (tid + 1) &&& CANARD_TRANSFER_ID_MAX)
    {l l' : Option Listener} {calls : List Call} {trs : List CanardTransfer}
    (hrun : Runs (fun l c l' tr => ∃ grant, listenerCall grant l c = (l', tr)) l calls l' trs)
    (hl : l = some x) (hconcern : ∀ c ∈ calls, concerns nodeId k c = true)
    (hcalls : ∀ c ∈ calls, Repeats tid (a.timestampUsec + x.timeout) c) : trs = [] := by
  induction hrun with
  | nil => rfl
  | @cons l m n c calls o trs hstep _ ih =>
      obtain ⟨hc, hrest⟩ := List.forall_mem_cons.mp hconcern
      obtain ⟨⟨f, hf, hid, htime⟩, hmore⟩ := List.forall_mem_cons.mp hcalls
      obtain ⟨g, hg⟩ := hstep
      subst hl
      cases c with
      | accept frame index =>
          obtain ⟨model, hparse, rfl⟩ := Option.map_eq_some_iff.mp hf
          have hsource := arrival_source (of_decide_eq_true hc) hparse
          have haccept : x.accept g model index = (x, none) := by
            unfold Listener.accept Listener.proceed
            simp only [hsource, if_pos hk, hx]
            rw [Assembly.step_repeat htid ha g.buffer hid index htime x.extent, ← hx]
          simp only [listenerCall, listenerStep, hparse, haccept] at hg
          obtain ⟨rfl, rfl⟩ := hg
          rw [ih rfl hrest hmore]
          rfl
      | push transfer room => cases hc
      | pop => cases hc
      | subscribe kind portId extent timeout => cases hf
      | unsubscribe kind portId => cases hf
      | release payload => cases hf

/-- A listener that has given out a transfer expects the next one. -/
theorem accept_handed {l : Listener} {g : Grant} {model : RxFrameModel} {index : Nat}
    {tr : CanardTransfer} (hnode : model.sourceNodeId ≤ CANARD_NODE_ID_MAX)
    (h : (l.accept g model index).2 = some tr) :
    ∃ a, (l.accept g model index).1.assembly = some a ∧
      a.transferId = (tr.transferId + 1) &&& CANARD_TRANSFER_ID_MAX ∧
      a.timestampUsec = tr.timestampUsec := by
  unfold Listener.accept at h ⊢
  rw [if_pos hnode] at h ⊢
  cases ha : l.assembly with
  | some a =>
      rw [ha] at h
      exact ⟨_, rfl, Assembly.step_handed h⟩
  | none =>
      rw [ha] at h
      dsimp only at h ⊢
      by_cases hg : (model.startOfTransfer && g.session) = true
      · rw [if_pos hg] at h ⊢
        exact ⟨_, rfl, Assembly.step_handed h⟩
      · rw [if_neg hg] at h
        cases h

/-- A call that hands over a transfer brought a frame for its session. -/
theorem callStep_handed {ins : CanardInstance} {c : Call} {tr : CanardTransfer}
    (h : (callStep ins c).2 = some tr) :
    tr.transferId ≤ CANARD_TRANSFER_ID_MAX ∧ ∃ frame index, c = .accept frame index ∧
      sessionOf ins.nodeId (frame, index) = some (transferSession tr) := by
  cases c with
  | accept frame index =>
      refine ⟨?_, frame, index, rfl, @rxStep_origin _ (frame, index) _ h⟩
      obtain ⟨⟨tr', b⟩, htr, rfl⟩ := Option.map_eq_some_iff.mp h
      exact ((canardRxAccept_spec
        (Prod.mk.eta (p := canardRxAccept ins frame index)).symm).2 tr' b htr).transferId
  | push transfer room => cases h
  | pop => cases h
  | subscribe kind portId extent timeout => cases h
  | unsubscribe kind portId => cases h
  | release payload => cases h

/-- **Repeats are ignored.** After a transfer has been handed over, frames that bear its transfer-ID
and come within the timeout hand over nothing more for its session: however many there are, over
whichever transport, and whatever happens to the other sessions in between. -/
theorem repeats_ignored {ins : CanardInstance} {nodeId : Nat} (h : ins.Fresh nodeId)
    (calls : List Call) (c : Call) {tr : CanardTransfer}
    (htr : (callStep (final callStep ins calls) c).2 = some tr)
    (hnode : tr.remoteNodeId ≤ CANARD_NODE_ID_MAX) (later : List Call)
    (hlater : ∀ d ∈ later, concerns nodeId (transferSession tr) d = true →
      ∀ sub, (final callStep ins (calls ++ [c])).subscription tr.transferKind tr.portId = some sub →
        Repeats tr.transferId (tr.timestampUsec + sub.transferIdTimeoutUsec) d) :
    outputsOf transferSession (transferSession tr)
      (outputs callStep (final callStep ins (calls ++ [c])) later) = [] := by
  have hsim := call_simulates nodeId
  have hinv := hsim.final_inv (s := ins) ⟨h.node, fresh_distinct h⟩ calls
  obtain ⟨l, hl, _⟩ := hsim.project ⟨h.node, fresh_distinct h⟩
    (HasListener.fresh h (transferSession tr)) calls
  rw [final_append] at hlater ⊢
  generalize final callStep ins calls = s at htr hinv hl hlater ⊢
  rw [final_cons, final_nil] at hlater ⊢
  obtain ⟨htid, frame, index, rfl, hkey⟩ := callStep_handed htr
  rw [hinv.1] at hkey
  have hinv' := hsim.keeps s (.accept frame index) hinv
  have hconcerned : concerns nodeId (transferSession tr) (.accept frame index) = true :=
    decide_eq_true hkey
  obtain ⟨g, _, hl', hout⟩ := hl.call hinv.1 hinv.2 hconcerned
  -- the listener that has given the transfer out
  obtain ⟨model, hparse⟩ := sessionOf_parse hkey
  have hparse : rxTryParseFrame frame = some model := hparse
  have hsource := arrival_source hkey hparse
  rw [htr] at hout
  cases l with
  | none =>
      simp only [listenerCall, listenerStep] at hout
      cases hout
  | some x₀ =>
      simp only [listenerCall, listenerStep, hparse] at hout hl'
      obtain ⟨a, ha, hatid, hatime⟩ := accept_handed (hsource ▸ hnode) hout.symm
      generalize (x₀.accept g model index).1 = x at ha hl'
      obtain ⟨_, _, hrun⟩ := hsim.project hinv' hl' later
      -- its timeout is that of the subscription
      unfold HasListener at hl'
      cases hsub : (callStep s (.accept frame index)).1.subscription (transferSession tr).kind
          (transferSession tr).port with
      | none => rw [hsub] at hl'; cases hl'
      | some sub =>
          rw [hsub] at hl'
          cases hl' with
          | some hlistens =>
              refine @runs_repeats nodeId _ hnode _ htid _ _ ha hatid _ _ _ _ hrun rfl
                (fun d hd => (List.mem_filter.mp hd).2) (fun d hd => ?_)
              obtain ⟨hmem, hconc⟩ := List.mem_filter.mp hd
              have hrep := hlater d hmem hconc sub hsub
              rw [hlistens.timeout, ← hatime] at hrep
              exact hrep

theorem repeats_ignored_message :
    outputsOf transferSession ⟨.message, 100, 5⟩ (outputs callStep
      (final callStep silentInstance
        ([.subscribe .message 100 8 0] ++ [.accept (messageFrame 5 0 9#8) 0]))
      [.accept (messageFrame 5 0 9#8) 1, .accept (messageFrame 5 0 9#8) 0]) = [] := by
  refine @repeats_ignored _ _ silentInstance_fresh [.subscribe .message 100 8 0]
    (.accept (messageFrame 5 0 9#8) 0) (messageTransfer 5 0 9#8) rfl (by decide) _ ?_
  intro d hd _ sub _
  simp only [List.mem_cons, List.not_mem_nil, or_false] at hd
  rcases hd with rfl | rfl
  · exact ⟨_, rfl, rfl, Nat.zero_le _⟩
  · exact ⟨_, rfl, rfl, Nat.zero_le _⟩

end Wlmio.Proof
