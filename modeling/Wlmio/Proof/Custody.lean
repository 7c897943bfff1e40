import Wlmio.Canard.Api
import Wlmio.Canard.Ownership
import Wlmio.Proof.Sessions

/-!
# Buffers between the library and its user

A payload buffer is the library's until a transfer is handed over in it, and then the
user's, who gives it back in the end. In every run in which the user gives back only what
is the user's, each buffer that was ever allocated has one owner or has been freed once
(`buffers_accounted`): whatever is subscribed to or unsubscribed from in the middle of a
transfer, and whichever allocation fails.
-/

namespace Wlmio.Proof

open Canard Demultiplexer

/-- What the user has, when a call is made. -/
def userHas (before : List Buffer) (c : Call) (handed : Option RxTransfer) : List Buffer :=
  (match c with
    | .release (some b) => before.erase b
    | _ => before) ++ passed handed

/-- A call, with what the user has. -/
def custodyStep (s : CanardInstance × List Buffer) (c : Call) : CanardInstance × List Buffer :=
  ((s.1.call c).1, userHas s.2 c (s.1.call c).2.2)

/-- The instance and what the user has, after some calls. -/
def custody (s : CanardInstance × List Buffer) (calls : List Call) : CanardInstance × List Buffer :=
  calls.foldl custodyStep s

/-- The user gives back only what is the user's. -/
def Honest : CanardInstance × List Buffer → List Call → Prop
  | _, [] => True
  | s, c :: calls => (∀ b, c = .release (some b) → b ∈ s.2) ∧ Honest (custodyStep s c) calls

/-! ## Unsubscribing -/

theorem freeSessions_moves (sub : CanardRxSubscription) (nodes : List Nat) (mem : Memory) :
    Moves mem (nodes.filterMap sub.bufferOf)
      (nodes.foldl (fun mem node => mem.free (sub.bufferOf node)) mem) [] := by
  induction nodes generalizing mem with
  | nil => exact .refl mem []
  | cons node nodes ih =>
      have hfree := (free_moves mem (sub.bufferOf node)).frame (nodes.filterMap sub.bufferOf)
      rw [List.nil_append] at hfree
      have hsplit : (node :: nodes).filterMap sub.bufferOf =
          (sub.bufferOf node).toList ++ nodes.filterMap sub.bufferOf := by
        rw [List.filterMap_cons]
        cases sub.bufferOf node with
        | none => rfl
        | some b => rfl
      rw [hsplit, List.foldl_cons]
      exact hfree.trans (ih _)

theorem ownedBy_eraseP {subs : List CanardRxSubscription} {sub : CanardRxSubscription}
    {p : CanardRxSubscription → Bool} (h : subs.find? p = some sub) :
    (ownedBy subs).Perm (sub.owned ++ ownedBy (subs.eraseP p)) := by
  induction subs with
  | nil => cases h
  | cons s subs ih =>
      unfold ownedBy at ih ⊢
      by_cases hs : p s = true
      · rw [List.find?_cons_of_pos hs] at h
        obtain rfl := Option.some.inj h
        rw [List.eraseP_cons_of_pos hs, List.flatMap_cons]
      · rw [List.find?_cons_of_neg hs] at h
        rw [List.eraseP_cons_of_neg hs, List.flatMap_cons, List.flatMap_cons]
        refine ((ih h).append_left s.owned).trans ?_
        exact List.perm_append_comm_assoc _ _ _

/-- **Unsubscribing frees what the sessions own**, and nothing else. -/
theorem canardRxUnsubscribe_moves (ins : CanardInstance) (kind : CanardTransferKind) (portId : Nat) :
    Moves ins.memory ins.owned (canardRxUnsubscribe ins kind portId).1.memory
      (canardRxUnsubscribe ins kind portId).1.owned := by
  unfold canardRxUnsubscribe
  split
  · exact .refl _ _
  · rename_i sub hfound
    dsimp only
    generalize hsubs : (ins.rxSubscriptions kind).eraseP (fun sub => sub.portId == portId) = subs
    have herase := ownedBy_eraseP hfound
    rw [hsubs] at herase
    have hfree := freeSessions_moves sub (List.range (CANARD_NODE_ID_MAX + 1)) ins.memory
    refine (hfree.frame (ownedBy subs ++ ins.ownedBesides kind)).perm ?_ ?_
    · rw [← List.append_assoc]
      exact (owned_kind ins kind).trans (herase.append_right _)
    · exact (owned_update ins kind (rxFreeSessions ins.memory sub) subs).symm

theorem owned_subscribed (extent timeout portId : Nat) :
    CanardRxSubscription.owned
      { sessions := fun _ => none, transferIdTimeoutUsec := timeout, extent := extent,
        portId := portId } = [] := by
  unfold CanardRxSubscription.owned
  exact List.filterMap_eq_nil_iff.mpr (fun _ _ => rfl)

/-- A new subscription has no sessions. -/
theorem canardRxSubscribe_moves (ins : CanardInstance) (kind : CanardTransferKind)
    (portId extent timeout : Nat) :
    Moves ins.memory ins.owned (canardRxSubscribe ins kind portId extent timeout).1.memory
      (canardRxSubscribe ins kind portId extent timeout).1.owned := by
  have hun := canardRxUnsubscribe_moves ins kind portId
  unfold canardRxSubscribe
  generalize canardRxUnsubscribe ins kind portId = r at hun ⊢
  obtain ⟨ins', out⟩ := r
  dsimp only at hun ⊢
  refine hun.perm (.refl _) ?_
  have hnew := owned_update ins' kind ins'.memory
    ({ sessions := fun _ => none, transferIdTimeoutUsec := timeout, extent := extent,
       portId := portId } :: ins'.rxSubscriptions kind)
  refine (owned_kind ins' kind).trans (.trans ?_ hnew.symm)
  unfold ownedBy
  rw [List.flatMap_cons, owned_subscribed, List.nil_append]

/-! ## Every call -/

theorem owned_congr {ins ins' : CanardInstance} (h : ins'.rxSubscriptions = ins.rxSubscriptions) :
    ins'.owned = ins.owned := by
  unfold CanardInstance.owned
  rw [h]

/-- **One call.** -/
theorem custodyStep_moves {s : CanardInstance × List Buffer} {c : Call}
    (hc : ∀ b, c = .release (some b) → b ∈ s.2) :
    Moves s.1.memory (s.1.owned ++ s.2) (custodyStep s c).1.memory
      ((custodyStep s c).1.owned ++ (custodyStep s c).2) := by
  obtain ⟨ins, has⟩ := s
  cases c with
  | push transfer room =>
      obtain ⟨hmem, hsubs⟩ := canardTxPush_rx ins transfer room
      show Moves ins.memory (ins.owned ++ has) (canardTxPush ins transfer room).1.memory
        ((canardTxPush ins transfer room).1.owned ++ (has ++ passed none))
      rw [hmem, owned_congr hsubs, append_passed_none]
      exact .refl _ _
  | pop =>
      show Moves ins.memory (ins.owned ++ has) ins.memory (ins.owned ++ (has ++ passed none))
      rw [append_passed_none]
      exact .refl _ _
  | accept frame index =>
      have haccept := (canardRxAccept_moves
        (Prod.mk.eta (p := canardRxAccept ins frame index)).symm).frame has
      refine haccept.perm (.refl _) ?_
      rw [List.append_assoc]
      exact List.perm_append_comm.append_left _
  | subscribe kind portId extent timeout =>
      show Moves ins.memory (ins.owned ++ has)
        (canardRxSubscribe ins kind portId extent timeout).1.memory
        ((canardRxSubscribe ins kind portId extent timeout).1.owned ++ (has ++ passed none))
      rw [append_passed_none]
      exact (canardRxSubscribe_moves ins kind portId extent timeout).frame has
  | unsubscribe kind portId =>
      show Moves ins.memory (ins.owned ++ has) (canardRxUnsubscribe ins kind portId).1.memory
        ((canardRxUnsubscribe ins kind portId).1.owned ++ (has ++ passed none))
      rw [append_passed_none]
      exact (canardRxUnsubscribe_moves ins kind portId).frame has
  | release payload =>
      cases payload with
      | none =>
          show Moves ins.memory (ins.owned ++ has) ins.memory (ins.owned ++ (has ++ passed none))
          rw [append_passed_none]
          exact .refl _ _
      | some b =>
          show Moves ins.memory (ins.owned ++ has) (ins.memory.free (some b))
            (ins.owned ++ (has.erase b ++ passed none))
          rw [append_passed_none]
          refine ((free_moves ins.memory (some b)).frame (ins.owned ++ has.erase b)).perm ?_ (.refl _)
          refine ((List.perm_cons_erase (hc b rfl)).append_left _).trans ?_
          exact List.perm_append_comm_assoc _ [b] _

theorem custody_accounts {s : CanardInstance × List Buffer} {calls : List Call}
    (h : s.1.memory.Accounts (s.1.owned ++ s.2)) (hhonest : Honest s calls) :
    (custody s calls).1.memory.Accounts ((custody s calls).1.owned ++ (custody s calls).2) ∧
      ∀ b ∈ s.1.memory.freed, b ∈ (custody s calls).1.memory.freed := by
  induction calls generalizing s with
  | nil => exact ⟨h, fun b hb => hb⟩
  | cons c calls ih =>
      obtain ⟨hc, hrest⟩ := hhonest
      have hmoves := custodyStep_moves hc
      have haccounts := hmoves.accounts []
      rw [List.append_nil, List.append_nil] at haccounts
      obtain ⟨hlater, hfreed⟩ := ih (haccounts h) hrest
      exact ⟨hlater, fun b hb => hfreed b (hmoves.freed b hb)⟩

/-- The instance of a user after some calls. -/
structure InCustody (ins : CanardInstance) (has : List Buffer) : Prop where
  /-- What is live is the library's or the user's, and not both. -/
  live : ins.memory.live.Perm (ins.owned ++ has)
  apart : ∀ b ∈ has, b ∉ ins.owned
  /-- Nothing is freed twice, and nobody has what is freed. -/
  once : (ins.memory.freed ++ ins.memory.live).Nodup
  /-- In the end nothing is left. -/
  closed : (∀ kind, ins.rxSubscriptions kind = []) → has = [] → ins.memory.live = []

/-- **Buffers are accounted for.** In every run, and what has been freed stays freed. -/
theorem buffers_accounted {ins : CanardInstance} {nodeId : Nat} (h : ins.Fresh nodeId)
    (hlive : ins.memory.live = []) (hfreed : ins.memory.freed = []) (calls later : List Call)
    (hhonest : Honest (ins, []) (calls ++ later)) :
    InCustody (custody (ins, []) (calls ++ later)).1 (custody (ins, []) (calls ++ later)).2 ∧
      ∀ b ∈ (custody (ins, []) calls).1.memory.freed,
        b ∈ (custody (ins, []) (calls ++ later)).1.memory.freed := by
  have hnothing : ins.owned = [] := by
    unfold CanardInstance.owned
    rw [h.nothing, h.nothing, h.nothing]
    rfl
  have hstart : ins.memory.Accounts (ins.owned ++ []) := by
    rw [hnothing]
    refine ⟨?_, ?_⟩
    · rw [hlive, hfreed]
      exact Ownership.accounted_nil
    · intro b hb
      rw [hlive, hfreed] at hb
      cases hb
  -- the first part of the run is honest, too
  have hsplit : ∀ (s : CanardInstance × List Buffer), Honest s (calls ++ later) →
      Honest s calls ∧ Honest (custody s calls) later := by
    clear hhonest
    induction calls with
    | nil => exact fun s hs => ⟨trivial, hs⟩
    | cons c calls ih =>
        intro s hs
        obtain ⟨hfirst, hrest⟩ := ih _ hs.2
        exact ⟨⟨hs.1, hfirst⟩, hrest⟩
  obtain ⟨hfirst, hrest⟩ := hsplit _ hhonest
  have haccounts := (custody_accounts (s := (ins, [])) hstart hfirst).1
  obtain ⟨hend, hkept⟩ := custody_accounts haccounts hrest
  have happend : custody (ins, []) (calls ++ later) = custody (custody (ins, []) calls) later :=
    List.foldl_append
  rw [happend]
  refine ⟨⟨hend.accounted.owned, ?_, hend.accounted.once, ?_⟩, hkept⟩
  · intro b hb howned
    exact (List.nodup_append.mp hend.accounted.nodup).2.2 b howned b hb rfl
  · intro hsubs hhas
    have hperm := hend.accounted.owned
    rw [hhas, List.append_nil] at hperm
    unfold CanardInstance.owned at hperm
    rw [hsubs, hsubs, hsubs] at hperm
    exact hperm.eq_nil

/-- A transfer is received, given back, and the subscription ended. -/
theorem buffers_accounted_message :
    InCustody (custody (silentInstance, []) ([.subscribe .message 100 8 0,
        .accept (messageFrame 5 0 9#8) 0] ++ [.release (some 1), .unsubscribe .message 100])).1 [] ∧
      ∀ b ∈ (custody (silentInstance, []) [.subscribe .message 100 8 0,
        .accept (messageFrame 5 0 9#8) 0]).1.memory.freed,
        b ∈ (custody (silentInstance, []) ([.subscribe .message 100 8 0,
          .accept (messageFrame 5 0 9#8) 0] ++
          [.release (some 1), .unsubscribe .message 100])).1.memory.freed := by
  refine buffers_accounted silentInstance_fresh rfl rfl
    [.subscribe .message 100 8 0, .accept (messageFrame 5 0 9#8) 0]
    [.release (some 1), .unsubscribe .message 100] ?_
  refine ⟨fun b hb => (nomatch hb), fun b hb => (nomatch hb), fun b hb => ?_,
    fun b hb => (nomatch hb), trivial⟩
  obtain rfl := Option.some.inj (Call.release.inj hb)
  exact List.mem_cons_self

end Wlmio.Proof
