import Wlmio.Canard.Receive
import Wlmio.Library.Ownership

/-!
# Who owns a payload buffer

A session owns the buffer it collects a transfer in, until the transfer is complete: then the
application owns it. `canardRxAccept` keeps the books (`canardRxAccept_moves`), whatever
frame it gets and whichever allocation fails.
-/

namespace Wlmio.Canard

/-- The buffers that have been handed out are those that these own, and those that have been freed. -/
structure Memory.Accounts (m : Memory) (owned : List Buffer) : Prop where
  accounted : Ownership.Accounted m.live m.freed owned
  below : ∀ b ∈ m.freed ++ m.live, b < m.next

/-- A step from `m` to `m'` in which an owner of `o` becomes one of `o'`, whatever else is owned. What
has been freed stays freed. -/
structure Moves (m : Memory) (o : List Buffer) (m' : Memory) (o' : List Buffer) : Prop where
  freed : ∀ b ∈ m.freed, b ∈ m'.freed
  accounts : ∀ rest, m.Accounts (o ++ rest) → m'.Accounts (o' ++ rest)

section

variable {m m' m₁ m₂ m₃ : Memory} {o o' o₁ o₂ o₃ : List Buffer}

theorem Memory.Accounts.perm (h : m.Accounts o) (hp : o.Perm o') : m.Accounts o' :=
  ⟨h.accounted.perm hp, h.below⟩

theorem Moves.refl (m : Memory) (o : List Buffer) : Moves m o m o := ⟨fun _ h => h, fun _ h => h⟩

theorem Moves.trans (h : Moves m₁ o₁ m₂ o₂) (h' : Moves m₂ o₂ m₃ o₃) : Moves m₁ o₁ m₃ o₃ :=
  ⟨fun b hb => h'.freed b (h.freed b hb), fun rest ha => h'.accounts rest (h.accounts rest ha)⟩

/-- **What others own stays theirs.** -/
theorem Moves.frame (h : Moves m o m' o') (others : List Buffer) :
    Moves m (o ++ others) m' (o' ++ others) := by
  refine ⟨h.freed, ?_⟩
  intro rest ha
  rw [List.append_assoc] at ha ⊢
  exact h.accounts _ ha

theorem Moves.perm (h : Moves m o m' o') (hp : o₁.Perm o) (hp' : o'.Perm o₂) : Moves m o₁ m' o₂ :=
  ⟨h.freed, fun rest ha => (h.accounts rest (ha.perm (hp.append_right rest))).perm
    (hp'.append_right rest)⟩

/-! ## Memory -/

theorem allocate_moves (m : Memory) : Moves m [] m.allocate.1 m.allocate.2.toList := by
  unfold Memory.allocate
  split
  · exact ⟨fun _ h => h, fun rest ha =>
      ⟨ha.accounted, fun b hb => Nat.lt_succ_of_lt (ha.below b hb)⟩⟩
  · refine ⟨fun _ h => h, fun rest ha => ⟨?_, ?_⟩⟩
    · exact ha.accounted.allocate (fun hmem => Nat.lt_irrefl _ (ha.below _ hmem))
    · intro b hb
      rcases List.mem_append.mp hb with hb | hb
      · exact Nat.lt_succ_of_lt (ha.below b (List.mem_append_left _ hb))
      · rcases List.mem_cons.mp hb with rfl | hb
        · exact Nat.lt_succ_self _
        · exact Nat.lt_succ_of_lt (ha.below b (List.mem_append_right _ hb))

theorem allocateSession_moves (m : Memory) (o : List Buffer) :
    Moves m o m.allocateSession.1 o :=
  ⟨fun _ h => h, fun _ ha => ⟨ha.accounted, fun b hb => Nat.lt_succ_of_lt (ha.below b hb)⟩⟩

theorem free_moves (m : Memory) (p : Option Buffer) : Moves m p.toList (m.free p) [] := by
  cases p with
  | none => exact .refl m []
  | some b =>
      refine ⟨fun c hc => List.mem_append_left _ hc, fun rest ha => ⟨ha.accounted.free, fun c hc => ?_⟩⟩
      refine ha.below c ?_
      rcases List.mem_append.mp hc with hc | hc
      · rcases List.mem_append.mp hc with hc | hc
        · exact List.mem_append_left _ hc
        · obtain rfl := List.mem_singleton.mp hc
          exact List.mem_append_right _ (ha.accounted.mem_live.mpr (by simp))
      · exact List.mem_append_right _ (List.mem_of_mem_erase hc)

end

/-! ## Sessions -/

/-- The buffer that comes with a transfer. -/
def passed (transfer : Option RxTransfer) : List Buffer := (transfer.bind Prod.snd).toList

theorem append_passed_none (o : List Buffer) : o ++ passed none = o := List.append_nil o

theorem rxSessionWritePayload_moves (mem : Memory) (rxs : CanardInternalRxSession) (extent : Nat)
    (payload : List Byte) : Moves mem rxs.payload.toList
      (rxSessionWritePayload mem rxs extent payload).1
      (rxSessionWritePayload mem rxs extent payload).2.1.payload.toList := by
  unfold rxSessionWritePayload
  dsimp only
  split
  · rename_i hnone
    rw [hnone.1]
    have := allocate_moves mem
    split
    · exact this
    · exact this
  · split
    · exact .refl _ _
    · exact .refl _ _

theorem rxSessionRestart_moves (mem : Memory) (rxs : CanardInternalRxSession) :
    Moves mem rxs.payload.toList (rxSessionRestart mem rxs).1 [] := free_moves mem rxs.payload

theorem rxSessionNote_payload (rxs : CanardInternalRxSession) (frame : RxFrameModel) :
    (rxSessionNote rxs frame).payload = rxs.payload := by
  unfold rxSessionNote
  dsimp only
  split
  · split
    · rfl
    · rfl
  · split
    · rfl
    · rfl

/-- **A complete transfer takes the buffer along.** -/
theorem rxSessionAcceptFrame_moves (mem : Memory) (rxs : CanardInternalRxSession)
    (frame : RxFrameModel) (extent : Nat) : Moves mem rxs.payload.toList
      (rxSessionAcceptFrame mem rxs frame extent).1
      ((rxSessionAcceptFrame mem rxs frame extent).2.1.payload.toList ++
        passed (rxSessionAcceptFrame mem rxs frame extent).2.2.2) := by
  have hwrite := rxSessionWritePayload_moves mem (rxSessionNote rxs frame) extent frame.payload
  rw [rxSessionNote_payload] at hwrite
  unfold rxSessionAcceptFrame
  dsimp only
  generalize rxSessionWritePayload mem (rxSessionNote rxs frame) extent frame.payload = r at hwrite ⊢
  obtain ⟨mem₁, rxs₁, out⟩ := r
  have hrestart := hwrite.trans (rxSessionRestart_moves mem₁ rxs₁)
  dsimp only at hwrite ⊢
  split
  · exact hrestart
  · split
    · split
      · exact hwrite
      · exact hrestart
    · rw [append_passed_none]
      exact hwrite

theorem rxSessionUpdate_moves (mem : Memory) (rxs : CanardInternalRxSession) (frame : RxFrameModel)
    (index timeout extent : Nat) : Moves mem rxs.payload.toList
      (rxSessionUpdate mem rxs frame index timeout extent).1
      ((rxSessionUpdate mem rxs frame index timeout extent).2.1.payload.toList ++
        passed (rxSessionUpdate mem rxs frame index timeout extent).2.2.2) := by
  unfold rxSessionUpdate
  dsimp only
  -- a restart for another transfer keeps the buffer
  obtain ⟨rxs₁, hrxs₁, hpayload⟩ : ∃ rxs₁ : CanardInternalRxSession, rxs₁ =
      (if rxNeedRestart rxs frame index timeout = true then
        { rxs with
          totalPayloadSize := 0
          received := []
          calculatedCrc := CRC_INITIAL
          transferId := frame.transferId
          toggle := true
          redundantTransportIndex := index }
      else rxs) ∧ rxs₁.payload = rxs.payload := by
    refine ⟨_, rfl, ?_⟩
    split
    · rfl
    · rfl
  rw [← hrxs₁, ← hpayload]
  split
  · exact rxSessionRestart_moves mem rxs₁
  · split
    · exact rxSessionAcceptFrame_moves mem rxs₁ frame extent
    · rw [append_passed_none]
      exact .refl _ _

/-! ## Subscriptions -/

/-- The buffer of the session of a node. -/
def CanardRxSubscription.bufferOf (sub : CanardRxSubscription) (node : Nat) : Option Buffer :=
  (sub.sessions node).bind CanardInternalRxSession.payload

/-- What the sessions of a subscription own. -/
def CanardRxSubscription.owned (sub : CanardRxSubscription) : List Buffer :=
  (List.range (CANARD_NODE_ID_MAX + 1)).filterMap sub.bufferOf

/-- What the sessions of the other nodes own. -/
def CanardRxSubscription.ownedByOthers (sub : CanardRxSubscription) (node : Nat) : List Buffer :=
  ((List.range (CANARD_NODE_ID_MAX + 1)).erase node).filterMap sub.bufferOf

theorem owned_split (sub : CanardRxSubscription) {node : Nat} (h : node ≤ CANARD_NODE_ID_MAX) :
    sub.owned.Perm ((sub.bufferOf node).toList ++ sub.ownedByOthers node) := by
  have hmem : node ∈ List.range (CANARD_NODE_ID_MAX + 1) := List.mem_range.mpr (by omega)
  have hperm := (List.perm_cons_erase hmem).filterMap sub.bufferOf
  rw [List.filterMap_cons] at hperm
  cases hb : sub.bufferOf node with
  | none =>
      rw [hb] at hperm
      exact hperm
  | some b =>
      rw [hb] at hperm
      exact hperm

theorem bufferOf_setSession (sub : CanardRxSubscription) (node : Nat)
    (rxs : CanardInternalRxSession) : (sub.setSession node rxs).bufferOf node = rxs.payload := by
  unfold CanardRxSubscription.bufferOf CanardRxSubscription.setSession
  dsimp only
  rw [if_pos rfl]
  rfl

theorem ownedByOthers_setSession (sub : CanardRxSubscription) (node : Nat)
    (rxs : CanardInternalRxSession) :
    (sub.setSession node rxs).ownedByOthers node = sub.ownedByOthers node := by
  unfold CanardRxSubscription.ownedByOthers
  refine List.filterMap_congr ?_
  intro n hn
  have hne : n ≠ node := fun heq =>
    (List.nodup_range.not_mem_erase (a := node)) (heq ▸ hn)
  unfold CanardRxSubscription.bufferOf CanardRxSubscription.setSession
  dsimp only
  rw [if_neg hne]

/-- **One session changes, and the others keep what they own.** -/
theorem moves_setSession {mem mem' : Memory} (sub : CanardRxSubscription) {node : Nat}
    (h : node ≤ CANARD_NODE_ID_MAX) {rxs : CanardInternalRxSession} {given : List Buffer}
    (hmoves : Moves mem (sub.bufferOf node).toList mem' (rxs.payload.toList ++ given)) :
    Moves mem sub.owned mem' ((sub.setSession node rxs).owned ++ given) := by
  refine (hmoves.frame (sub.ownedByOthers node)).perm (owned_split sub h) ?_
  have hsplit := owned_split (sub.setSession node rxs) h
  rw [bufferOf_setSession, ownedByOthers_setSession] at hsplit
  rw [List.append_assoc]
  refine ((List.perm_append_comm.append_left _).trans ?_)
  rw [← List.append_assoc]
  exact hsplit.symm.append_right _

theorem setSession_moves {mem mem' : Memory} (sub : CanardRxSubscription) {node : Nat}
    (h : node ≤ CANARD_NODE_ID_MAX) (rxs : CanardInternalRxSession)
    (hp : sub.bufferOf node = rxs.payload) (frame : RxFrameModel) (index : Nat)
    (hmem : Moves mem sub.owned mem' sub.owned) :
    Moves mem sub.owned
      (rxSessionUpdate mem' rxs frame index sub.transferIdTimeoutUsec sub.extent).1
      ((sub.setSession node
          (rxSessionUpdate mem' rxs frame index sub.transferIdTimeoutUsec sub.extent).2.1).owned ++
        passed (rxSessionUpdate mem' rxs frame index sub.transferIdTimeoutUsec sub.extent).2.2.2) := by
  have hupdate := rxSessionUpdate_moves mem' rxs frame index sub.transferIdTimeoutUsec sub.extent
  rw [← hp] at hupdate
  exact hmem.trans (moves_setSession sub h hupdate)

theorem rxAcceptFrame_moves (mem : Memory) (sub : CanardRxSubscription) (frame : RxFrameModel)
    (index : Nat) : Moves mem sub.owned (rxAcceptFrame mem sub frame index).1
      ((rxAcceptFrame mem sub frame index).2.1.owned ++
        passed (rxAcceptFrame mem sub frame index).2.2.2) := by
  have hbuffer : sub.bufferOf frame.sourceNodeId =
      (sub.sessions frame.sourceNodeId).bind CanardInternalRxSession.payload := rfl
  have hnothing : Moves mem sub.owned mem (sub.owned ++ passed none) := by
    rw [append_passed_none]
    exact .refl mem sub.owned
  have hsession : Moves mem sub.owned mem.allocateSession.1 (sub.owned ++ passed none) := by
    rw [append_passed_none]
    exact allocateSession_moves mem sub.owned
  unfold rxAcceptFrame
  split
  · rename_i hnode
    cases hs : sub.sessions frame.sourceNodeId with
    | some rxs =>
        rw [hs] at hbuffer
        exact setSession_moves sub hnode rxs hbuffer frame index (.refl mem sub.owned)
    | none =>
        rw [hs] at hbuffer
        by_cases hstart : frame.startOfTransfer = true
        · rw [if_pos hstart]
          dsimp only
          by_cases hgrant : mem.allocateSession.2 = true
          · rw [if_pos hgrant]
            exact setSession_moves sub hnode (rxSessionInit frame index) hbuffer frame index
              (allocateSession_moves mem sub.owned)
          · rw [if_neg hgrant]
            exact hsession
        · rw [if_neg hstart]
          exact hnothing
  · -- the payload of an anonymous transfer never was in a session
    have halloc := (allocate_moves mem).frame sub.owned
    split
    · rename_i mem' buffer ha
      rw [ha] at halloc
      exact halloc.perm (.refl _) List.perm_append_comm
    · rename_i mem' ha
      rw [ha] at halloc
      rw [append_passed_none]
      exact halloc

/-- What the sessions of these subscriptions own. -/
def ownedBy (subs : List CanardRxSubscription) : List Buffer :=
  subs.flatMap CanardRxSubscription.owned

theorem rxDispatch_moves (mem : Memory) (frame : RxFrameModel) (index : Nat)
    (subs : List CanardRxSubscription) : Moves mem (ownedBy subs) (rxDispatch mem frame index subs).1
      (ownedBy (rxDispatch mem frame index subs).2.1 ++
        passed (rxDispatch mem frame index subs).2.2.2) := by
  induction subs with
  | nil =>
      rw [show (rxDispatch mem frame index []).2.2.2 = none from rfl, append_passed_none]
      exact .refl mem _
  | cons sub subs ih =>
      unfold ownedBy at ih ⊢
      rw [List.flatMap_cons, rxDispatch]
      split
      · refine ((rxAcceptFrame_moves mem sub frame index).frame _).perm (.refl _) ?_
        dsimp only
        rw [List.flatMap_cons, List.append_assoc, List.append_assoc]
        exact List.perm_append_comm.append_left _
      · refine (ih.frame sub.owned).perm List.perm_append_comm ?_
        dsimp only
        rw [List.flatMap_cons, List.append_assoc sub.owned]
        exact List.perm_append_comm

/-! ## The instance -/

/-- What all sessions of an instance own. -/
def CanardInstance.owned (ins : CanardInstance) : List Buffer :=
  ownedBy (ins.rxSubscriptions .message) ++ ownedBy (ins.rxSubscriptions .response) ++
    ownedBy (ins.rxSubscriptions .request)

/-- What the sessions of the other kinds of transfers own. -/
def CanardInstance.ownedBesides (ins : CanardInstance) : CanardTransferKind → List Buffer
  | .message => ownedBy (ins.rxSubscriptions .response) ++ ownedBy (ins.rxSubscriptions .request)
  | .response => ownedBy (ins.rxSubscriptions .message) ++ ownedBy (ins.rxSubscriptions .request)
  | .request => ownedBy (ins.rxSubscriptions .message) ++ ownedBy (ins.rxSubscriptions .response)

theorem owned_kind (ins : CanardInstance) (kind : CanardTransferKind) :
    ins.owned.Perm (ownedBy (ins.rxSubscriptions kind) ++ ins.ownedBesides kind) := by
  unfold CanardInstance.owned
  cases kind with
  | message =>
      rw [List.append_assoc]
      exact .refl _
  | response =>
      refine (List.perm_append_comm.append_right _).trans ?_
      rw [List.append_assoc]
      exact .refl _
  | request => exact List.perm_append_comm

/-- With other subscriptions for one kind, the other kinds own what they did. -/
theorem owned_update (ins : CanardInstance) (kind : CanardTransferKind) (mem : Memory)
    (subs : List CanardRxSubscription) :
    (CanardInstance.owned { ins with
        memory := mem
        rxSubscriptions := fun k => if k = kind then subs else ins.rxSubscriptions k }).Perm
      (ownedBy subs ++ ins.ownedBesides kind) := by
  have h := owned_kind { ins with
    memory := mem
    rxSubscriptions := fun k => if k = kind then subs else ins.rxSubscriptions k } kind
  cases kind with
  | message => exact h
  | response => exact h
  | request => exact h

/-- **`canardRxAccept` keeps the books**, whatever frame it gets: what has been allocated is owned by
a session, or it comes with the transfer that is handed over. -/
theorem canardRxAccept_moves {ins ins' : CanardInstance} {frame : CanardFrame} {index : Nat}
    {out : Int} {transfer : Option RxTransfer}
    (h : canardRxAccept ins frame index = (ins', out, transfer)) :
    Moves ins.memory ins.owned ins'.memory (ins'.owned ++ passed transfer) := by
  have hnothing : Moves ins.memory ins.owned ins.memory (ins.owned ++ passed none) := by
    rw [append_passed_none]
    exact .refl _ _
  unfold canardRxAccept at h
  split at h
  · split at h
    · obtain ⟨rfl, _, rfl⟩ := h
      exact hnothing
    · rename_i model _
      split at h
      · have hdispatch := (rxDispatch_moves ins.memory model index
          (ins.rxSubscriptions model.transferKind)).frame (ins.ownedBesides model.transferKind)
        obtain ⟨rfl, _, rfl⟩ := h
        refine hdispatch.perm (owned_kind ins model.transferKind) ?_
        refine .trans ?_ ((owned_update ins model.transferKind _ _).symm.append_right _)
        rw [List.append_assoc, List.append_assoc]
        exact List.perm_append_comm.append_left _
      · obtain ⟨rfl, _, rfl⟩ := h
        exact hnothing
  · obtain ⟨rfl, _, rfl⟩ := h
    exact hnothing

/-! ## Transfers without payload

A session asks for its buffer before it knows whether there is anything to put there. -/

/-- The transfer, if there is one, comes with a buffer. -/
def Buffered (transfer : Option RxTransfer) : Prop := ∀ tr b, transfer = some (tr, b) → b.isSome

theorem Buffered.none : Buffered none := by
  intro tr b h
  cases h

theorem rxSessionWritePayload_buffered (mem : Memory) (rxs : CanardInternalRxSession) {extent : Nat}
    (hextent : 0 < extent) (payload : List Byte) :
    (rxSessionWritePayload mem rxs extent payload).2.2 < 0 ∨
      (rxSessionWritePayload mem rxs extent payload).2.1.payload.isSome := by
  unfold rxSessionWritePayload
  dsimp only
  split
  · split
    · rename_i hsome
      exact .inr (Option.isSome_iff_ne_none.mpr hsome)
    · exact .inl (show -CANARD_ERROR_OUT_OF_MEMORY < 0 by decide)
  · rename_i hnot
    have hsome : rxs.payload ≠ none := fun hnone => hnot ⟨hnone, hextent⟩
    rw [if_pos hsome]
    exact .inr (Option.isSome_iff_ne_none.mpr hsome)

theorem rxSessionAcceptFrame_buffered (mem : Memory) (rxs : CanardInternalRxSession)
    (frame : RxFrameModel) {extent : Nat} (hextent : 0 < extent) :
    Buffered (rxSessionAcceptFrame mem rxs frame extent).2.2.2 := by
  have hwrite := rxSessionWritePayload_buffered mem (rxSessionNote rxs frame) hextent frame.payload
  unfold rxSessionAcceptFrame
  dsimp only
  generalize rxSessionWritePayload mem (rxSessionNote rxs frame) extent frame.payload = r at hwrite ⊢
  split
  · exact .none
  · rename_i hout
    split
    · split
      · intro tr b h
        obtain ⟨_, rfl⟩ := Prod.mk.inj (Option.some.inj h)
        exact hwrite.resolve_left hout
      · exact .none
    · exact .none

theorem rxSessionUpdate_buffered (mem : Memory) (rxs : CanardInternalRxSession)
    (frame : RxFrameModel) (index timeout : Nat) {extent : Nat} (hextent : 0 < extent) :
    Buffered (rxSessionUpdate mem rxs frame index timeout extent).2.2.2 := by
  unfold rxSessionUpdate
  dsimp only
  generalize (if rxNeedRestart rxs frame index timeout = true then _ else rxs) = rxs'
  split
  · exact .none
  · split
    · exact rxSessionAcceptFrame_buffered _ _ _ hextent
    · exact .none

theorem rxAcceptFrame_buffered (mem : Memory) (sub : CanardRxSubscription) (frame : RxFrameModel)
    (index : Nat) (hextent : 0 < sub.extent) :
    Buffered (rxAcceptFrame mem sub frame index).2.2.2 := by
  unfold rxAcceptFrame
  split
  · dsimp only
    split
    · exact .none
    · exact rxSessionUpdate_buffered _ _ _ _ _ hextent
  · split
    · intro tr b h
      obtain ⟨_, rfl⟩ := Prod.mk.inj (Option.some.inj h)
      rfl
    · exact .none

theorem rxAcceptFrame_extent (mem : Memory) (sub : CanardRxSubscription) (frame : RxFrameModel)
    (index : Nat) : (rxAcceptFrame mem sub frame index).2.1.extent = sub.extent := by
  unfold rxAcceptFrame
  split
  · dsimp only
    split
    · rfl
    · rfl
  · split
    · rfl
    · rfl

/-- Every subscription takes some payload. -/
def Roomy (subs : List CanardRxSubscription) : Prop := ∀ sub ∈ subs, 0 < sub.extent

theorem rxDispatch_buffered (mem : Memory) (frame : RxFrameModel) (index : Nat)
    {subs : List CanardRxSubscription} (h : Roomy subs) :
    Roomy (rxDispatch mem frame index subs).2.1 ∧
      Buffered (rxDispatch mem frame index subs).2.2.2 := by
  induction subs with
  | nil => exact ⟨h, .none⟩
  | cons sub subs ih =>
      obtain ⟨hsub, hsubs⟩ := List.forall_mem_cons.mp h
      unfold rxDispatch
      split
      · have hextent := rxAcceptFrame_extent mem sub frame index
        exact ⟨List.forall_mem_cons.mpr ⟨hextent ▸ hsub, hsubs⟩,
          rxAcceptFrame_buffered mem sub frame index hsub⟩
      · obtain ⟨hroomy, hbuffered⟩ := ih hsubs
        exact ⟨List.forall_mem_cons.mpr ⟨hsub, hroomy⟩, hbuffered⟩

/-- **A transfer comes with a buffer even if its payload is empty.** -/
theorem canardRxAccept_buffered {ins ins' : CanardInstance} {frame : CanardFrame} {index : Nat}
    {out : Int} {transfer : Option RxTransfer} (hroomy : ∀ k, Roomy (ins.rxSubscriptions k))
    (h : canardRxAccept ins frame index = (ins', out, transfer)) :
    (∀ k, Roomy (ins'.rxSubscriptions k)) ∧ Buffered transfer := by
  unfold canardRxAccept at h
  split at h
  · split at h
    · obtain ⟨rfl, _, rfl⟩ := h
      exact ⟨hroomy, .none⟩
    · rename_i model _
      split at h
      · have hdispatch := rxDispatch_buffered ins.memory model index (hroomy model.transferKind)
        obtain ⟨rfl, _, rfl⟩ := h
        refine ⟨fun k => ?_, hdispatch.2⟩
        dsimp only
        split
        · exact hdispatch.1
        · exact hroomy k
      · obtain ⟨rfl, _, rfl⟩ := h
        exact ⟨hroomy, .none⟩
  · obtain ⟨rfl, _, rfl⟩ := h
    exact ⟨hroomy, .none⟩

end Wlmio.Canard
