import Wlmio.Canard.Api

/-!
# Where a transfer comes from

Whatever frames arrive, and whatever memory there is, a transfer that a session hands
over is put together from a chain of its frames: frames of one transfer-ID, from one
transport, with alternating toggles, of which the last and no other ends the transfer,
and whose CRC is right if the last frame is not a transfer by itself. No frame is in
two chains (`runs_chains`).
-/

namespace Wlmio.Canard

/-- A frame that has been parsed, and the transport it came over. -/
abbrev Arrival := RxFrameModel × Nat

/-- The bytes that frames carry. -/
def payloads (chain : List Arrival) : List Byte := chain.flatMap (fun f => f.1.payload)

/-- The frames are of transfer `tid` from one transport, with alternating toggles. -/
def Chained (tid index : Nat) : Bool → List Arrival → Prop
  | _, [] => True
  | toggle, f :: chain =>
    f.1.transferId = tid ∧ f.2 = index ∧ f.1.toggle = toggle ∧ Chained tid index (!toggle) chain

/-- The toggle that is expected after a chain. -/
def toggleAfter : Bool → List Arrival → Bool
  | toggle, [] => toggle
  | toggle, _ :: chain => toggleAfter (!toggle) chain

theorem chained_append {tid index : Nat} {toggle : Bool} {chain : List Arrival} {f : Arrival} :
    Chained tid index toggle (chain ++ [f]) ↔ Chained tid index toggle chain ∧
      f.1.transferId = tid ∧ f.2 = index ∧ f.1.toggle = toggleAfter toggle chain := by
  induction chain generalizing toggle with
  | nil => simp [Chained, toggleAfter]
  | cons g chain ih => simp [Chained, toggleAfter, ih, and_assoc]

theorem toggleAfter_append (toggle : Bool) (chain : List Arrival) (f : Arrival) :
    toggleAfter toggle (chain ++ [f]) = !toggleAfter toggle chain := by
  induction chain generalizing toggle with
  | nil => rfl
  | cons g chain ih => exact ih (!toggle)

theorem payloads_append (chain : List Arrival) (f : Arrival) :
    payloads (chain ++ [f]) = payloads chain ++ f.1.payload := by
  simp [payloads]

/-- The time of the last frame of the chain that starts a transfer. -/
def startedAt : Nat → List Arrival → Nat
  | t, [] => t
  | t, f :: chain => startedAt (if f.1.startOfTransfer then f.1.timestampUsec else t) chain

theorem startedAt_append (t : Nat) (chain : List Arrival) (f : Arrival) :
    startedAt t (chain ++ [f]) =
      if f.1.startOfTransfer then f.1.timestampUsec else startedAt t chain := by
  induction chain generalizing t with
  | nil => rfl
  | cons g chain ih => exact ih _

/-- No frame of the chain ends a transfer. -/
def Open (chain : List Arrival) : Prop := ∀ f ∈ chain, f.1.endOfTransfer = false

/-- The transfer is what the frames of the chain carry, cut at the extent: without the CRC, which
is right, if there are several. -/
structure Composes (extent : Nat) (chain : List Arrival) (tr : CanardTransfer) : Prop where
  /-- The last frame ends the transfer, and says what it is. -/
  last : ∃ front f, chain = front ++ [f] ∧ Open front ∧ f.1.endOfTransfer = true ∧
    tr = rxInitTransferFromFrame f.1 tr.timestampUsec tr.payload ∧
    (f.1.startOfTransfer = true → tr.payload = (payloads chain).take extent) ∧
    (f.1.startOfTransfer = false → crcAdd CRC_INITIAL (payloads chain) = CRC_RESIDUE ∧
      tr.payload = ((payloads chain).take ((payloads chain).length - CRC_SIZE_BYTES)).take extent)
  /-- All are of this transfer and of one transport. -/
  linked : ∃ index, Chained tr.transferId index true chain
  /-- The time is that of the start. -/
  time : ∃ t, tr.timestampUsec = startedAt t chain

/-- The assembly has just these frames in hand. -/
structure InHand (a : Assembly) (chain : List Arrival) : Prop where
  data : a.data = payloads chain
  linked : Chained a.transferId a.redundantTransportIndex true chain
  toggle : a.toggle = toggleAfter true chain
  notEnded : Open chain
  time : ∃ t, a.timestampUsec = startedAt t chain

theorem open_nil : Open [] := by
  intro f hf
  cases hf

theorem inHand_next (a : Assembly) : InHand a.next [] := ⟨rfl, trivial, rfl, open_nil, _, rfl⟩

theorem inHand_synchronise (a : Assembly) (frame : RxFrameModel) (index : Nat) :
    InHand (a.synchronise frame index) [] := ⟨rfl, trivial, rfl, open_nil, _, rfl⟩

theorem inHand_start (frame : RxFrameModel) (index : Nat) : InHand (.start frame index) [] :=
  ⟨rfl, trivial, rfl, open_nil, _, rfl⟩

/-- What a frame does to the frames in hand: some of them come out as a transfer, or none do, and
some are kept. -/
structure Advances (extent : Nat) (chain : List Arrival) (f : Arrival) (done kept : List Arrival)
    (tr : Option CanardTransfer) : Prop where
  order : (done ++ kept).Sublist (chain ++ [f])
  out : (tr = none ∧ done = []) ∨ ∃ t, tr = some t ∧ Composes extent done t

theorem Advances.drop {extent : Nat} {chain kept : List Arrival} {f : Arrival}
    (h : kept.Sublist (chain ++ [f])) : Advances extent chain f [] kept none :=
  ⟨h, .inl ⟨rfl, rfl⟩⟩

theorem Advances.mono {extent : Nat} {chain chain' done kept : List Arrival} {f : Arrival}
    {tr : Option CanardTransfer} (h : Advances extent chain f done kept tr)
    (hs : chain.Sublist chain') : Advances extent chain' f done kept tr :=
  ⟨h.order.trans (hs.append_right [f]), h.out⟩

/-- A frame that does not fit leaves the chain alone; one that does is its next. -/
theorem InHand.take {a : Assembly} {chain : List Arrival} (h : InHand a chain) (granted : Bool)
    (f : Arrival) (extent : Nat) :
    ∃ done kept, InHand (a.take granted f.1 f.2 extent).1 kept ∧
      Advances extent chain f done kept (a.take granted f.1 f.2 extent).2 := by
  unfold Assembly.take
  by_cases hf : a.fits f.1 f.2 = true
  · rw [if_pos hf]
    have hfit : f.2 = a.redundantTransportIndex ∧ f.1.toggle = a.toggle ∧
        f.1.transferId = a.transferId := by
      simp only [Assembly.fits, Bool.and_eq_true, decide_eq_true_eq] at hf
      exact ⟨hf.1.1.symm, hf.1.2, hf.2⟩
    have hlinked : Chained a.transferId a.redundantTransportIndex true (chain ++ [f]) :=
      chained_append.mpr ⟨h.linked, hfit.2.2, hfit.1, hfit.2.1.trans h.toggle⟩
    have hdata : (a.append f.1).data = payloads (chain ++ [f]) := by
      rw [payloads_append, ← h.data]
      rfl
    have htime : ∃ t, (a.append f.1).timestampUsec = startedAt t (chain ++ [f]) := by
      obtain ⟨t, ht⟩ := h.time
      refine ⟨t, ?_⟩
      rw [startedAt_append, ← ht]
      rfl
    unfold Assembly.collect
    cases granted with
    | false => exact ⟨[], [], inHand_next _, .drop (List.nil_sublist _)⟩
    | true =>
        cases heot : f.1.endOfTransfer with
        | false =>
            refine ⟨[], chain ++ [f], ⟨hdata, hlinked, ?_, ?_, htime⟩, .drop (List.Sublist.refl _)⟩
            · rw [toggleAfter_append, ← h.toggle]
              rfl
            · intro g hg
              rcases List.mem_append.mp hg with hg | hg
              · exact h.notEnded g hg
              · rw [List.mem_singleton.mp hg]
                exact heot
        | true =>
            simp only [Bool.not_true, Bool.false_eq_true, if_false, if_true]
            cases htr : (a.append f.1).transfer f.1 extent with
            | none => exact ⟨[], [], inHand_next _, .drop (List.nil_sublist _)⟩
            | some t =>
                refine ⟨chain ++ [f], [], inHand_next _, by rw [List.append_nil], .inr ⟨t, rfl, ?_⟩⟩
                unfold Assembly.transfer at htr
                rw [hdata] at htr
                cases hsot : f.1.startOfTransfer with
                | true =>
                    rw [if_pos hsot] at htr
                    obtain rfl := Option.some.inj htr
                    refine ⟨⟨chain, f, rfl, h.notEnded, heot, rfl, fun _ => rfl, fun hc => ?_⟩, ?_,
                      htime⟩
                    · rw [hsot] at hc
                      cases hc
                    · exact ⟨_, hfit.2.2 ▸ hlinked⟩
                | false =>
                    rw [if_neg (by rw [hsot]; exact Bool.false_ne_true)] at htr
                    by_cases hcrc : crcAdd CRC_INITIAL (payloads (chain ++ [f])) = CRC_RESIDUE
                    · rw [if_pos hcrc] at htr
                      obtain rfl := Option.some.inj htr
                      refine ⟨⟨chain, f, rfl, h.notEnded, heot, rfl, fun hc => ?_,
                        fun _ => ⟨hcrc, rfl⟩⟩, ?_, htime⟩
                      · rw [hsot] at hc
                        cases hc
                      · exact ⟨_, hfit.2.2 ▸ hlinked⟩
                    · rw [if_neg hcrc] at htr
                      cases htr
  · rw [if_neg hf]
    exact ⟨[], chain, h, .drop (List.sublist_append_left _ _)⟩

/-- **Any frame.** -/
theorem InHand.step {a : Assembly} {chain : List Arrival} (h : InHand a chain) (granted : Bool)
    (f : Arrival) (timeout extent : Nat) :
    ∃ done kept, InHand (a.step granted f.1 f.2 timeout extent).1 kept ∧
      Advances extent chain f done kept (a.step granted f.1 f.2 timeout extent).2 := by
  unfold Assembly.step
  split
  · dsimp only
    split
    · obtain ⟨done, kept, hk, hadv⟩ := (inHand_synchronise a f.1 f.2).take granted f extent
      exact ⟨done, kept, hk, hadv.mono (List.nil_sublist _)⟩
    · exact ⟨[], [], inHand_next _, .drop (List.nil_sublist _)⟩
  · exact h.take granted f extent

/-! ## Runs of a listener -/

/-- The frames in the hand of a listener. -/
def ListenerInHand (l : Option Listener) (chain : List Arrival) : Prop :=
  match l.bind Listener.assembly with
  | some a => InHand a chain
  | none => chain = []

/-- The frame that a call brings. -/
def arrival : Call → Option Arrival
  | .accept frame index => (rxTryParseFrame frame).map (fun model => (model, index))
  | _ => none

/-- The frames that some calls bring. -/
def arrivals (calls : List Call) : List Arrival := calls.filterMap arrival

/-- An anonymous transfer is a single frame. -/
theorem rxTryParseFrame_anonymous {frame : CanardFrame} {model : RxFrameModel}
    (h : rxTryParseFrame frame = some model) (hs : ¬ model.sourceNodeId ≤ CANARD_NODE_ID_MAX) :
    model.startOfTransfer = true ∧ model.endOfTransfer = true ∧ model.toggle = true := by
  unfold rxTryParseFrame at h
  split at h
  · cases h
  rename_i tail _
  dsimp only at h
  rcases hparse : rxParseCanId frame.extendedCanId with ⟨kind, portId, src, dst, valid⟩
  obtain ⟨hsrc, _⟩ := rxParseCanId_range hparse
  rw [hparse] at h
  split at h
  · rename_i hvalid
    rw [← Option.some.inj h] at hs ⊢
    dsimp only at hs ⊢
    obtain rfl : src = CANARD_NODE_ID_UNSET := (hsrc.resolve_left hs).2
    simp only [Bool.and_eq_true, Bool.or_eq_true, Bool.not_eq_true', decide_eq_true_eq,
      decide_eq_false_iff_not, ne_eq, not_true_eq_false, or_false] at hvalid
    obtain ⟨⟨⟨⟨_, htoggle⟩, hsingle⟩, _⟩, _⟩ := hvalid
    have htoggle' := htoggle.resolve_left (fun hc => hc hsingle.1)
    exact ⟨decide_eq_true hsingle.1, decide_eq_true hsingle.2, decide_eq_true htoggle'⟩
  · cases h

/-- **A frame at a listener.** Nothing is ever in hand for anonymous sources. -/
theorem ListenerInHand.accept {l : Listener} {chain : List Arrival}
    (h : ListenerInHand (some l) chain) (g : Grant) {frame : CanardFrame} {model : RxFrameModel}
    (hparse : rxTryParseFrame frame = some model) (index : Nat)
    (hanon : model.sourceNodeId ≤ CANARD_NODE_ID_MAX ∨ chain = []) :
    ∃ done kept, ListenerInHand (some (l.accept g model index).1) kept ∧
      (model.sourceNodeId ≤ CANARD_NODE_ID_MAX ∨ kept = []) ∧
      Advances l.extent chain (model, index) done kept (l.accept g model index).2 := by
  unfold Listener.accept
  by_cases hnode : model.sourceNodeId ≤ CANARD_NODE_ID_MAX
  · simp only [if_pos hnode]
    unfold ListenerInHand at h
    rw [Option.bind_some] at h
    cases ha : l.assembly with
    | some a =>
        rw [ha] at h
        obtain ⟨done, kept, hk, hadv⟩ := InHand.step h g.buffer (model, index) l.timeout l.extent
        exact ⟨done, kept, hk, .inl hnode, hadv⟩
    | none =>
        rw [ha] at h
        subst h
        dsimp only
        split
        · obtain ⟨done, kept, hk, hadv⟩ := (inHand_start model index).step g.buffer (model, index)
            l.timeout l.extent
          exact ⟨done, kept, hk, .inl hnode, hadv⟩
        · refine ⟨[], [], ?_, .inl hnode, .drop (List.nil_sublist _)⟩
          unfold ListenerInHand
          rw [Option.bind_some, ha]
  · simp only [if_neg hnode]
    obtain ⟨hsot, heot, htoggle⟩ := rxTryParseFrame_anonymous hparse hnode
    obtain rfl := hanon.resolve_left hnode
    cases g.buffer with
    | false => exact ⟨[], [], h, .inr rfl, .drop (List.nil_sublist _)⟩
    | true =>
        refine ⟨[(model, index)], [], h, .inr rfl, List.Sublist.refl _, .inr ⟨_, rfl, ?_⟩⟩
        refine ⟨⟨[], (model, index), rfl, open_nil, heot, rfl, fun _ => ?_, fun hc => ?_⟩,
          ⟨index, rfl, rfl, htoggle, trivial⟩, 0, ?_⟩
        · simp [payloads, rxInitTransferFromFrame]
        · rw [hsot] at hc
          cases hc
        · simp [startedAt, hsot, rxInitTransferFromFrame]

/-- The frame that a call brings is from the source of the session it is for. -/
theorem arrival_source {nodeId : Nat} {k : SessionKey} {frame : CanardFrame} {index : Nat}
    {model : RxFrameModel} (hc : sessionOf nodeId (frame, index) = some k)
    (hparse : rxTryParseFrame frame = some model) : model.sourceNodeId = k.source := by
  unfold sessionOf at hc
  split at hc
  · rw [hparse] at hc
    dsimp only at hc
    split at hc
    · rw [← Option.some.inj hc]
    · cases hc
  · cases hc

theorem sessionOf_parse {nodeId : Nat} {k : SessionKey} {input : CanardFrame × Nat}
    (hc : sessionOf nodeId input = some k) : ∃ model, rxTryParseFrame input.1 = some model := by
  unfold sessionOf at hc
  split at hc
  · cases hparse : rxTryParseFrame input.1 with
    | some model => exact ⟨model, rfl⟩
    | none =>
        rw [hparse] at hc
        cases hc
  · cases hc

/-- What a call that concerns a listener does to the frames in its hand. `allowed` are the extents
that are subscribed with. -/
theorem listenerCall_chains {nodeId : Nat} {k : SessionKey} {allowed : Nat → Prop} {g : Grant}
    {l m : Option Listener} {c : Call} {o : Option CanardTransfer} {chain : List Arrival}
    (hg : listenerCall g l c = (m, o)) (hc : concerns nodeId k c = true)
    (hallow : ∀ extent timeout, c = Call.subscribe k.kind k.port extent timeout → allowed extent)
    (hl : ∀ x, l = some x → allowed x.extent) (hhand : ListenerInHand l chain)
    (hanon : k.source ≤ CANARD_NODE_ID_MAX ∨ chain = []) :
    ∃ done kept, ListenerInHand m kept ∧ (k.source ≤ CANARD_NODE_ID_MAX ∨ kept = []) ∧
      (∀ x, m = some x → allowed x.extent) ∧
      (done ++ kept).Sublist (chain ++ (arrival c).toList) ∧
      ((o = none ∧ done = []) ∨
        ∃ tr, o = some tr ∧ ∃ extent, allowed extent ∧ Composes extent done tr) := by
  cases c with
  | accept frame index =>
      have hkey : sessionOf nodeId (frame, index) = some k := of_decide_eq_true hc
      obtain ⟨model, hparse⟩ := sessionOf_parse hkey
      have hparse : rxTryParseFrame frame = some model := hparse
      have hsource := arrival_source hkey hparse
      have harrival : arrival (.accept frame index) = some (model, index) := by
        simp [arrival, hparse]
      rw [harrival]
      simp only [listenerCall, listenerStep, hparse] at hg
      cases l with
      | none =>
          obtain ⟨rfl, rfl⟩ := hg
          obtain rfl : chain = [] := hhand
          exact ⟨[], [], rfl, .inr rfl, fun x hx => (nomatch hx), List.nil_sublist _, .inl ⟨rfl, rfl⟩⟩
      | some x =>
          obtain ⟨rfl, rfl⟩ := hg
          rw [← hsource] at hanon
          obtain ⟨done, kept, hkept, hanon', hadv⟩ := hhand.accept g hparse index hanon
          rw [hsource] at hanon'
          have hextent : (x.accept g model index).1.extent = x.extent := by
            unfold Listener.accept
            split
            · split
              · rfl
              · split <;> rfl
            · rfl
          refine ⟨done, kept, hkept, hanon', ?_, hadv.order, ?_⟩
          · intro y hy
            rw [← Option.some.inj hy, hextent]
            exact hl x rfl
          · rcases hadv.out with ⟨ho, hd⟩ | ⟨t, ho, hcomp⟩
            · exact .inl ⟨ho, hd⟩
            · exact .inr ⟨t, ho, x.extent, hl x rfl, hcomp⟩
  | subscribe kind portId extent timeout =>
      obtain ⟨hkind, hport⟩ := of_decide_eq_true hc
      obtain ⟨rfl, rfl⟩ := hg
      refine ⟨[], [], rfl, .inr rfl, fun x hx => ?_, List.nil_sublist _, .inl ⟨rfl, rfl⟩⟩
      rw [← Option.some.inj hx]
      exact hallow extent timeout (by rw [hkind, hport])
  | unsubscribe kind portId =>
      obtain ⟨rfl, rfl⟩ := hg
      exact ⟨[], [], rfl, .inr rfl, fun x hx => (nomatch hx), List.nil_sublist _, .inl ⟨rfl, rfl⟩⟩
  | push transfer room => cases hc
  | pop => cases hc
  | release payload => cases hc

/-- **Chains of a run.** -/
theorem runs_chains {nodeId : Nat} {k : SessionKey} {allowed : Nat → Prop}
    {l l' : Option Listener} {calls : List Call} {trs : List CanardTransfer}
    (hrun : Demultiplexer.Runs (fun l c l' tr => ∃ grant, listenerCall grant l c = (l', tr))
      l calls l' trs) :
    ∀ {chain : List Arrival}, (∀ c ∈ calls, concerns nodeId k c = true) →
      (∀ extent timeout, Call.subscribe k.kind k.port extent timeout ∈ calls → allowed extent) →
      (∀ x, l = some x → allowed x.extent) → ListenerInHand l chain →
      (k.source ≤ CANARD_NODE_ID_MAX ∨ chain = []) →
      ∃ chains : List (List Arrival), chains.flatten.Sublist (chain ++ arrivals calls) ∧
        List.Forall₂ (fun chain tr => ∃ extent, allowed extent ∧ Composes extent chain tr)
          chains trs := by
  induction hrun with
  | nil => exact fun _ _ _ _ _ => ⟨[], List.nil_sublist _, .nil⟩
  | @cons l m n c calls o trs hstep _ ih =>
      intro chain hconcern hallow hl hhand hanon
      obtain ⟨g, hg⟩ := hstep
      obtain ⟨hc, hconcern⟩ := List.forall_mem_cons.mp hconcern
      obtain ⟨done, kept, hkept, hanon', hl', hsub, hout⟩ := listenerCall_chains hg hc
        (fun e t heq => hallow e t (heq ▸ List.mem_cons_self)) hl hhand hanon
      obtain ⟨chains, hchains, hall⟩ := ih hconcern
        (fun e t h => hallow e t (List.mem_cons_of_mem _ h)) hl' hkept hanon'
      have harrivals : arrivals (c :: calls) = (arrival c).toList ++ arrivals calls := by
        unfold arrivals
        cases hc : arrival c with
        | none => rw [List.filterMap_cons_none hc]; rfl
        | some f => rw [List.filterMap_cons_some hc]; rfl
      have hall' := hsub.append_right (arrivals calls)
      rw [List.append_assoc, List.append_assoc, ← harrivals] at hall'
      rcases hout with ⟨rfl, rfl⟩ | ⟨tr, rfl, hcomp⟩
      · exact ⟨chains, hchains.trans hall', hall⟩
      · refine ⟨done :: chains, ?_, .cons hcomp hall⟩
        rw [List.flatten_cons]
        exact (hchains.append_left done).trans hall'

end Wlmio.Canard
