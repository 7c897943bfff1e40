import Wlmio.Canard.Assembly
import Mathlib.Data.Option.Basic

/-!
# An instance is a family of listeners

`Listener` is what an instance amounts to for one kind, port and source: the
parameters of the subscription and the assembly of that source, if there is one. A frame
goes to one listener (`HasListener.own`) and the others do not notice
(`HasListener.others`), so that everything about one session can be said about a listener
by itself.
-/

namespace Wlmio.Canard

/-- What a frame is granted: a new session, if it needs one, and a payload buffer. -/
structure Grant where
  session : Bool
  buffer : Bool
deriving DecidableEq, Repr

/-- Everything. -/
def Grant.all : Grant := ⟨true, true⟩

/-- What an instance amounts to for one kind, port and source. -/
structure Listener where
  timeout : Nat
  extent : Nat
  assembly : Option Assembly
deriving DecidableEq, Repr

namespace Listener

/-- Take a step of an assembly. -/
def proceed (l : Listener) (a : Assembly) (g : Grant) (frame : RxFrameModel)
    (redundantTransportIndex : Nat) : Listener × Option CanardTransfer :=
  let r := a.step g.buffer frame redundantTransportIndex l.timeout l.extent
  ({ l with assembly := some r.1 }, r.2)

/-- What a listener makes of a frame. Anonymous transfers are taken as they come. -/
def accept (l : Listener) (g : Grant) (frame : RxFrameModel) (redundantTransportIndex : Nat) :
    Listener × Option CanardTransfer :=
  if frame.sourceNodeId ≤ CANARD_NODE_ID_MAX then
    match l.assembly with
    | some a => l.proceed a g frame redundantTransportIndex
    | none =>
      if frame.startOfTransfer && g.session then
        l.proceed (.start frame redundantTransportIndex) g frame redundantTransportIndex
      else (l, none)
  else
    (l, if g.buffer then
      some (rxInitTransferFromFrame frame frame.timestampUsec (frame.payload.take l.extent)) else none)

end Listener

/-- The subscription is this listener for a source. -/
structure Hears (sub : CanardRxSubscription) (source : Nat) (l : Listener) : Prop where
  timeout : sub.transferIdTimeoutUsec = l.timeout
  extent : sub.extent = l.extent
  session : Option.Rel (fun rxs a => StandsFor rxs a l.extent) (sub.sessions source) l.assembly

/-- A session takes a frame, and the listener with it. -/
theorem Hears.proceed {sub : CanardRxSubscription} {l : Listener} {frame : RxFrameModel}
    {rxs : CanardInternalRxSession} {a : Assembly} (h : Hears sub frame.sourceNodeId l)
    (hs : StandsFor rxs a l.extent) (mem : Memory) (index : Nat) :
    ∃ buffer mem' rxs' out tr,
      rxSessionUpdate mem rxs frame index sub.transferIdTimeoutUsec sub.extent =
        (mem', rxs', out, tr) ∧
      (mem.Ample → buffer = true ∧ mem'.Ample) ∧
      ∀ session, Hears (sub.setSession frame.sourceNodeId rxs') frame.sourceNodeId
          (l.proceed a ⟨session, buffer⟩ frame index).1 ∧
        tr.map Prod.fst = (l.proceed a ⟨session, buffer⟩ frame index).2 := by
  obtain ⟨buffer, mem', rxs', out, tr, hupd, hample, hs', htr⟩ := hs.update mem frame index l.timeout
  refine ⟨buffer, mem', rxs', out, tr, ?_, hample, fun session =>
    ⟨⟨h.timeout, h.extent, ?_⟩, htr⟩⟩
  · rw [h.timeout, h.extent, hupd]
  · rw [setSession_self]
    exact .some hs'

/-- **A frame at its subscription**: the listener of its source takes it, and those of the other
sources do not notice. -/
theorem Hears.accept {sub : CanardRxSubscription} {l : Listener} {frame : RxFrameModel}
    (h : Hears sub frame.sourceNodeId l) (mem : Memory) (index : Nat) :
    ∃ grant mem' sub' out tr, rxAcceptFrame mem sub frame index = (mem', sub', out, tr) ∧
      (mem.Ample → grant = Grant.all ∧ mem'.Ample) ∧
      Hears sub' frame.sourceNodeId (l.accept grant frame index).1 ∧
      tr.map Prod.fst = (l.accept grant frame index).2 := by
  unfold rxAcceptFrame Listener.accept
  by_cases hnode : frame.sourceNodeId ≤ CANARD_NODE_ID_MAX
  · simp only [if_pos hnode]
    have hsession := h.session
    cases hs : sub.sessions frame.sourceNodeId with
    | some rxs =>
        rw [hs] at hsession
        cases ha : l.assembly with
        | none => rw [ha] at hsession; cases hsession
        | some a =>
            rw [ha] at hsession
            cases hsession with
            | some hstands =>
                obtain ⟨buffer, mem', rxs', out, tr, hupd, hample, hl⟩ := h.proceed hstands mem index
                refine ⟨⟨true, buffer⟩, mem', sub.setSession frame.sourceNodeId rxs', out, tr, ?_,
                  fun hm => ⟨?_, (hample hm).2⟩, hl true⟩
                · simp only [hupd]
                · rw [(hample hm).1]
                  rfl
    | none =>
        rw [hs] at hsession
        cases ha : l.assembly with
        | some a => rw [ha] at hsession; cases hsession
        | none =>
            by_cases hsot : frame.startOfTransfer = true
            · by_cases hdeny : mem.deny mem.next = true
              · -- there is no memory for a session
                refine ⟨⟨false, true⟩, { mem with next := mem.next + 1 }, sub,
                  -CANARD_ERROR_OUT_OF_MEMORY, none, ?_, fun hm => ?_, ?_, ?_⟩
                · simp [hsot, Memory.allocateSession, hdeny]
                · rw [hm mem.next] at hdeny
                  cases hdeny
                · simpa [hsot] using h
                · simp [hsot]
              · have hinit := standsFor_init frame index l.extent
                obtain ⟨buffer, mem', rxs', out, tr, hupd, hample, hl⟩ := h.proceed hinit
                  { mem with next := mem.next + 1 } index
                refine ⟨⟨true, buffer⟩, mem', sub.setSession frame.sourceNodeId rxs', out, tr, ?_,
                  fun hm => ⟨?_, (hample hm).2⟩, ?_⟩
                · simp only [hsot, if_true, Memory.allocateSession, hdeny, Bool.not_false, hupd]
                · rw [(hample hm).1]
                  rfl
                · simpa [hsot] using hl true
            · refine ⟨Grant.all, mem, sub, 0, none, ?_, fun hm => ⟨rfl, hm⟩, ?_, ?_⟩
              · simp [hsot]
              · simpa [hsot] using h
              · simp [hsot]
  · simp only [if_neg hnode]
    by_cases hdeny : mem.deny mem.next = true
    · refine ⟨⟨true, false⟩, { mem with next := mem.next + 1 }, sub, -CANARD_ERROR_OUT_OF_MEMORY,
        none, ?_, fun hm => ?_, h, rfl⟩
      · simp [Memory.allocate, hdeny]
      · rw [hm mem.next] at hdeny
        cases hdeny
    · refine ⟨Grant.all, { mem with next := mem.next + 1, live := mem.next :: mem.live }, sub, 1,
        some (rxInitTransferFromFrame frame frame.timestampUsec (frame.payload.take l.extent),
          some mem.next), ?_, fun hm => ⟨rfl, hm⟩, h, rfl⟩
      simp [Memory.allocate, hdeny, h.extent]

/-- The sessions of the other sources are not touched. -/
theorem Hears.accept_other {sub : CanardRxSubscription} {l : Listener} {source : Nat}
    (h : Hears sub source l) (mem : Memory) {frame : RxFrameModel}
    (hne : frame.sourceNodeId ≠ source) (index : Nat) :
    Hears (rxAcceptFrame mem sub frame index).2.1 source l := by
  have hset : ∀ rxs, Hears (sub.setSession frame.sourceNodeId rxs) source l := by
    intro rxs
    refine ⟨h.timeout, h.extent, ?_⟩
    unfold CanardRxSubscription.setSession
    dsimp only
    rw [if_neg hne.symm]
    exact h.session
  unfold rxAcceptFrame
  split
  · dsimp only
    split
    · exact h
    · exact hset _
  · split
    · exact h
    · exact h

/-! ## The instance -/

/-- What a session is found by. -/
structure SessionKey where
  kind : CanardTransferKind
  port : Nat
  source : Nat
deriving DecidableEq, Repr

/-- The session that a frame is for, at the node `nodeId`. -/
def sessionOf (nodeId : Nat) (input : CanardFrame × Nat) : Option SessionKey :=
  if input.1.extendedCanId ≤ CAN_EXT_ID_MASK then
    match rxTryParseFrame input.1 with
    | none => none
    | some model =>
      if model.destinationNodeId = CANARD_NODE_ID_UNSET ∨ model.destinationNodeId = nodeId then
        some ⟨model.transferKind, model.portId, model.sourceNodeId⟩
      else none
  else none

/-- The session that a transfer is from. -/
def transferSession (tr : CanardTransfer) : SessionKey := ⟨tr.transferKind, tr.portId, tr.remoteNodeId⟩

/-- `canardRxAccept` as a step: a frame on a transport goes in, a transfer may come out. -/
def rxStep (ins : CanardInstance) (input : CanardFrame × Nat) :
    CanardInstance × Option CanardTransfer :=
  ((canardRxAccept ins input.1 input.2).1, (canardRxAccept ins input.1 input.2).2.2.map Prod.fst)

/-- The instance has this listener for a session, or none where nothing is subscribed to. -/
def HasListener (ins : CanardInstance) (k : SessionKey) (l : Option Listener) : Prop :=
  Option.Rel (fun sub l => Hears sub k.source l) (ins.subscription k.kind k.port) l

/-- What becomes of a listener, if there is one, when a frame for it comes in. -/
def listenerStep (g : Grant) (l : Option Listener) (input : CanardFrame × Nat) :
    Option Listener × Option CanardTransfer :=
  match l, rxTryParseFrame input.1 with
  | some l, some model => (some (l.accept g model input.2).1, (l.accept g model input.2).2)
  | l, _ => (l, none)

/-- What a frame does to the subscriptions of its kind. -/
theorem rxDispatch_find (mem : Memory) (frame : RxFrameModel) (index : Nat)
    (subs : List CanardRxSubscription) :
    (subs.find? (fun s => s.portId == frame.portId) = none ∧
      rxDispatch mem frame index subs = (mem, subs, 0, none)) ∨
    ∃ sub subs', subs.find? (fun s => s.portId == frame.portId) = some sub ∧
      rxDispatch mem frame index subs = ((rxAcceptFrame mem sub frame index).1, subs',
        (rxAcceptFrame mem sub frame index).2.2) ∧
      ∀ port, subs'.find? (fun s => s.portId == port) =
        if port = frame.portId then some (rxAcceptFrame mem sub frame index).2.1
        else subs.find? (fun s => s.portId == port) := by
  induction subs with
  | nil => exact .inl ⟨rfl, rfl⟩
  | cons s subs ih =>
      have hport := rxAcceptFrame_portId mem s frame index
      by_cases hs : s.portId = frame.portId
      · refine .inr ⟨s, (rxAcceptFrame mem s frame index).2.1 :: subs,
          List.find?_cons_of_pos (by simp [hs]), ?_, fun port => ?_⟩
        · rw [rxDispatch, if_pos hs]
        · by_cases hp : port = frame.portId
          · rw [if_pos hp, List.find?_cons_of_pos (by simp [hport, hs, hp])]
          · have hne : ¬ s.portId = port := fun heq => hp (heq.symm.trans hs)
            rw [if_neg hp, List.find?_cons_of_neg (by simpa [hport] using hne),
              List.find?_cons_of_neg (by simpa using hne)]
      · have hcons : (s :: subs).find? (fun s => s.portId == frame.portId) =
            subs.find? (fun s => s.portId == frame.portId) :=
          List.find?_cons_of_neg (by simpa using hs)
        rw [hcons]
        rcases ih with ⟨hnone, hd⟩ | ⟨sub, subs', hsome, hd, hfind⟩
        · refine .inl ⟨hnone, ?_⟩
          rw [rxDispatch, if_neg hs, hd]
        · refine .inr ⟨sub, s :: subs', hsome, ?_, ?_⟩
          · rw [rxDispatch, if_neg hs, hd]
          · intro port
            by_cases hsp : s.portId = port
            · have hp : ¬ port = frame.portId := fun heq => hs (hsp.trans heq)
              rw [if_neg hp, List.find?_cons_of_pos (by simpa using hsp),
                List.find?_cons_of_pos (by simpa using hsp)]
            · rw [List.find?_cons_of_neg (by simpa using hsp),
                List.find?_cons_of_neg (by simpa using hsp), hfind port]

/-- A frame for no session here is dropped, and any other goes to the subscriptions of its kind. -/
theorem canardRxAccept_cases (ins : CanardInstance) (input : CanardFrame × Nat) :
    (sessionOf ins.nodeId input = none ∧ rxStep ins input = (ins, none)) ∨
    ∃ model, sessionOf ins.nodeId input =
        some ⟨model.transferKind, model.portId, model.sourceNodeId⟩ ∧
      rxTryParseFrame input.1 = some model ∧
      rxStep ins input = ({ ins with
          memory := (rxDispatch ins.memory model input.2 (ins.rxSubscriptions model.transferKind)).1
          rxSubscriptions := fun k => if k = model.transferKind then
              (rxDispatch ins.memory model input.2 (ins.rxSubscriptions model.transferKind)).2.1
            else ins.rxSubscriptions k },
        (rxDispatch ins.memory model input.2
          (ins.rxSubscriptions model.transferKind)).2.2.2.map Prod.fst) := by
  unfold sessionOf rxStep canardRxAccept
  by_cases hid : input.1.extendedCanId ≤ CAN_EXT_ID_MASK
  · simp only [if_pos hid]
    cases hparse : rxTryParseFrame input.1 with
    | none => exact .inl ⟨rfl, rfl⟩
    | some model =>
        by_cases hdst : model.destinationNodeId = CANARD_NODE_ID_UNSET ∨
            model.destinationNodeId = ins.nodeId
        · refine .inr ⟨model, ?_, rfl, ?_⟩
          · simp only [if_pos hdst]
          · simp only [if_pos hdst]
        · refine .inl ⟨?_, ?_⟩
          · simp only [if_neg hdst]
          · simp only [if_neg hdst]
            rfl
  · exact .inl ⟨by simp only [if_neg hid], by simp only [if_neg hid]; rfl⟩

/-- **A frame and its listener.** -/
theorem HasListener.own {ins : CanardInstance} {k : SessionKey} {l : Option Listener}
    (h : HasListener ins k l) {input : CanardFrame × Nat} (hk : sessionOf ins.nodeId input = some k) :
    ∃ grant, (ins.memory.Ample → grant = Grant.all ∧ (rxStep ins input).1.memory.Ample) ∧
      HasListener (rxStep ins input).1 k (listenerStep grant l input).1 ∧
      (rxStep ins input).2 = (listenerStep grant l input).2 := by
  rcases canardRxAccept_cases ins input with ⟨hnone, _⟩ | ⟨model, hsome, hparse, hstep⟩
  · rw [hnone] at hk
    cases hk
  obtain rfl : (⟨model.transferKind, model.portId, model.sourceNodeId⟩ : SessionKey) = k :=
    Option.some.inj (hsome.symm.trans hk)
  rw [hstep]
  unfold HasListener CanardInstance.subscription at h ⊢
  dsimp only at h ⊢
  rw [if_pos rfl]
  rcases rxDispatch_find ins.memory model input.2 (ins.rxSubscriptions model.transferKind) with
    ⟨hnone, hd⟩ | ⟨sub, subs', hfound, hd, hfind⟩
  · rw [hd]
    rw [hnone] at h ⊢
    cases h
    exact ⟨Grant.all, fun hm => ⟨rfl, hm⟩, .none, rfl⟩
  · rw [hd]
    rw [hfound] at h
    cases hl : l with
    | none => rw [hl] at h; cases h
    | some l =>
        rw [hl] at h
        cases h with
        | some hlistens =>
            obtain ⟨grant, mem', sub', out, tr, hacc, hample, hl', htr⟩ :=
              hlistens.accept ins.memory input.2
            refine ⟨grant, fun hm => ⟨(hample hm).1, ?_⟩, ?_, ?_⟩
            · rw [hacc]
              exact (hample hm).2
            · rw [hfind, if_pos rfl, hacc]
              unfold listenerStep
              rw [hparse]
              exact .some hl'
            · rw [hacc]
              unfold listenerStep
              rw [hparse]
              exact htr

/-- **The other listeners do not notice.** -/
theorem HasListener.others {ins : CanardInstance} {k : SessionKey} {l : Option Listener}
    (h : HasListener ins k l) {input : CanardFrame × Nat}
    (hk : sessionOf ins.nodeId input ≠ some k) : HasListener (rxStep ins input).1 k l := by
  rcases canardRxAccept_cases ins input with ⟨_, hstep⟩ | ⟨model, hsome, _, hstep⟩
  · rw [hstep]
    exact h
  rw [hsome] at hk
  rw [hstep]
  unfold HasListener CanardInstance.subscription at h ⊢
  dsimp only at h ⊢
  by_cases hkind : k.kind = model.transferKind
  · rw [if_pos hkind]
    rw [hkind] at h
    rcases rxDispatch_find ins.memory model input.2 (ins.rxSubscriptions model.transferKind) with
      ⟨_, hd⟩ | ⟨sub, subs', hfound, hd, hfind⟩
    · rw [hd]
      exact h
    · rw [hd, hfind]
      by_cases hport : k.port = model.portId
      · -- the same subscription, but the session of another source
        have hsource : model.sourceNodeId ≠ k.source := by
          intro heq
          refine hk (congrArg some ?_)
          rw [← hkind, ← hport, heq]
        rw [if_pos hport]
        rw [hport, hfound] at h
        cases l with
        | none => cases h
        | some l =>
            cases h with
            | some hlistens => exact .some (hlistens.accept_other ins.memory hsource input.2)
      · rw [if_neg hport]
        exact h
  · rw [if_neg hkind]
    exact h

/-- What comes out is from the session that the frame was for. -/
theorem rxStep_origin {ins : CanardInstance} {input : CanardFrame × Nat} {tr : CanardTransfer}
    (h : (rxStep ins input).2 = some tr) :
    sessionOf ins.nodeId input = some (transferSession tr) := by
  rcases canardRxAccept_cases ins input with ⟨_, hstep⟩ | ⟨model, hsome, _, hstep⟩
  · rw [hstep] at h
    cases h
  · rw [hstep] at h
    obtain ⟨⟨tr', b⟩, htr, rfl⟩ := Option.map_eq_some_iff.mp h
    obtain ⟨t, p, rfl⟩ := rxDispatch_ofFrame _ _ _ _ _ _ htr
    exact hsome

theorem rxStep_nodeId (ins : CanardInstance) (input : CanardFrame × Nat) :
    (rxStep ins input).1.nodeId = ins.nodeId :=
  (canardRxAccept_spec (Prod.mk.eta (p := canardRxAccept ins input.1 input.2)).symm).1.2.1

/-! ### What memory refuses does not depend on what it is asked -/

theorem rxSessionWritePayload_deny (mem : Memory) (rxs : CanardInternalRxSession) (extent : Nat)
    (payload : List Byte) : (rxSessionWritePayload mem rxs extent payload).1.deny = mem.deny := by
  unfold rxSessionWritePayload Memory.allocate
  dsimp only
  split <;> split <;> (try split) <;> rfl

theorem rxSessionRestart_deny (mem : Memory) (rxs : CanardInternalRxSession) :
    (rxSessionRestart mem rxs).1.deny = mem.deny := by
  unfold rxSessionRestart Memory.free
  cases rxs.payload <;> rfl

theorem rxSessionAcceptFrame_deny (mem : Memory) (rxs : CanardInternalRxSession)
    (frame : RxFrameModel) (extent : Nat) :
    (rxSessionAcceptFrame mem rxs frame extent).1.deny = mem.deny := by
  have hw := rxSessionWritePayload_deny mem (rxSessionNote rxs frame) extent frame.payload
  unfold rxSessionAcceptFrame
  dsimp only
  split
  · exact (rxSessionRestart_deny _ _).trans hw
  · split
    · split
      · exact (rxSessionRestart_deny _ _).trans hw
      · exact (rxSessionRestart_deny _ _).trans hw
    · exact hw

theorem rxSessionUpdate_deny (mem : Memory) (rxs : CanardInternalRxSession) (frame : RxFrameModel)
    (index timeout extent : Nat) :
    (rxSessionUpdate mem rxs frame index timeout extent).1.deny = mem.deny := by
  have htake : ∀ r, (rxSessionTake mem r frame index extent).1.deny = mem.deny := by
    intro r
    unfold rxSessionTake
    split
    · exact rxSessionAcceptFrame_deny _ _ _ _
    · rfl
  rw [rxSessionUpdate_eq]
  split
  · split
    · exact htake _
    · exact rxSessionRestart_deny _ _
  · exact htake _

theorem rxAcceptFrame_deny (mem : Memory) (sub : CanardRxSubscription) (frame : RxFrameModel)
    (index : Nat) : (rxAcceptFrame mem sub frame index).1.deny = mem.deny := by
  unfold rxAcceptFrame Memory.allocate Memory.allocateSession
  split
  · dsimp only
    cases sub.sessions frame.sourceNodeId with
    | some rxs => exact rxSessionUpdate_deny _ _ _ _ _ _
    | none =>
        cases frame.startOfTransfer with
        | false => rfl
        | true =>
            cases mem.deny mem.next with
            | true => rfl
            | false => exact rxSessionUpdate_deny _ _ _ _ _ _
  · cases mem.deny mem.next <;> rfl

theorem rxStep_deny (ins : CanardInstance) (input : CanardFrame × Nat) :
    (rxStep ins input).1.memory.deny = ins.memory.deny := by
  rcases canardRxAccept_cases ins input with ⟨_, hstep⟩ | ⟨model, _, _, hstep⟩
  · rw [hstep]
  · rw [hstep]
    rcases rxDispatch_find ins.memory model input.2 (ins.rxSubscriptions model.transferKind) with
      ⟨_, hd⟩ | ⟨sub, subs', _, hd, _⟩
    · rw [hd]
    · rw [hd]
      exact rxAcceptFrame_deny _ _ _ _

end Wlmio.Canard
