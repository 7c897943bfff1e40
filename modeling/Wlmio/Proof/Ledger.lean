import Wlmio.Library.BitField
import Wlmio.Proof.Registry

/-!
# The ledger of requests

`World.bus.issued` lists every request in the order of the calls. Two things are read
off it. The counters `tfr_ids`: the `k`-th request on a channel, that is to one service
of one node, carries the transfer identifier `k mod 32`. And the tasks: each was made
for one request of the list, carries the specifier of its response, and has a `param`
of the type that the service stores.
-/

namespace Wlmio.Proof

open Wlmio.Client Wlmio.Canard

/-! ## Specifiers -/

/-- **A specifier is node, transfer identifier and service side by side.** -/
theorem makeRspSpecifier_eq {tr : CanardTransfer} (hn : tr.remoteNodeId ≤ CANARD_NODE_ID_MAX)
    (ht : tr.transferId ≤ CANARD_TRANSFER_ID_MAX) (hp : tr.portId ≤ CANARD_SERVICE_ID_MAX) :
    makeRspSpecifier tr = tr.remoteNodeId + tr.transferId * 128 + tr.portId * 4096 := by
  unfold CANARD_NODE_ID_MAX at hn
  unfold CANARD_TRANSFER_ID_MAX at ht
  unfold CANARD_SERVICE_ID_MAX at hp
  have h1 : tr.remoteNodeId &&& 0x7F = tr.remoteNodeId := by
    rw [show (0x7F : Nat) = 2 ^ 7 - 1 by decide, BitField.and_mask]
    omega
  have h2 : tr.transferId &&& 0x1F = tr.transferId := by
    rw [show (0x1F : Nat) = 2 ^ 5 - 1 by decide, BitField.and_mask]
    omega
  have h3 : tr.portId &&& 0x1FF = tr.portId := by
    rw [show (0x1FF : Nat) = 2 ^ 9 - 1 by decide, BitField.and_mask]
    omega
  unfold makeRspSpecifier
  rw [h1, h2, h3, BitField.or_shiftLeft _ 7 (by omega), BitField.or_shiftLeft _ 12 (by omega)]
  norm_num

/-- The fields of a transfer that have their ranges. -/
structure InRange (tr : CanardTransfer) : Prop where
  node : tr.remoteNodeId ≤ CANARD_NODE_ID_MAX
  transferId : tr.transferId ≤ CANARD_TRANSFER_ID_MAX
  port : tr.portId ≤ CANARD_SERVICE_ID_MAX

/-- **Different nodes, services or transfer identifiers make different specifiers.** -/
theorem makeRspSpecifier_inj {a b : CanardTransfer} (ha : InRange a) (hb : InRange b)
    (h : makeRspSpecifier a = makeRspSpecifier b) :
    a.remoteNodeId = b.remoteNodeId ∧ a.transferId = b.transferId ∧ a.portId = b.portId := by
  rw [makeRspSpecifier_eq ha.node ha.transferId ha.port,
    makeRspSpecifier_eq hb.node hb.transferId hb.port] at h
  have h1 := ha.node
  have h2 := hb.node
  have h3 := ha.transferId
  have h4 := hb.transferId
  unfold CANARD_NODE_ID_MAX at h1 h2
  unfold CANARD_TRANSFER_ID_MAX at h3 h4
  omega

theorem Service.port_le (s : Service) : s.port ≤ CANARD_SERVICE_ID_MAX := by
  cases s <;> decide

theorem Service.port_inj {s s' : Service} (h : s.port = s'.port) : s = s' := by
  cases s <;> cases s' <;> first | rfl | (revert h; decide)

/-! ## What a request adds -/

theorem uavcanSend_frame (b : Bus) (n : Nat) :
    (b.uavcanSend n).issued = b.issued ∧ (b.uavcanSend n).tfrIds = b.tfrIds ∧
      (b.uavcanSend n).canard.nodeId = b.canard.nodeId ∧
      (b.uavcanSend n).canard.mtuBytes = b.canard.mtuBytes := by
  induction n generalizing b with
  | zero => exact ⟨rfl, rfl, rfl, rfl⟩
  | succ n ih =>
      unfold Bus.uavcanSend
      split
      · exact ⟨rfl, rfl, rfl, rfl⟩
      · exact ih _

/-- The entry of the next request in the ledger. -/
def nextIssued (r : Registry) (b : Bus) (service : Service) (nodeId : Nat) (payload : List Byte)
    (os : Os) : Issued where
  service := service
  transfer := requestTransfer b service nodeId payload
  pushed := (canardTxPush b.canard (requestTransfer b service nodeId payload) os.txRoom).2
  clash := r.head.any (fun t => decide (t.id = nextSpecifier b service nodeId payload))

theorem pushed_issued (r : Registry) (b : Bus) (service : Service) (nodeId : Nat)
    (payload : List Byte) (os : Os) :
    (pushed r b service nodeId payload os).issued =
      b.issued ++ [nextIssued r b service nodeId payload os] :=
  (uavcanSend_frame _ _).1

theorem busAfter_issued (w : World) (service : Service) (nodeId : Nat) (payload : List Byte)
    (os : Os) :
    (busAfter w service nodeId payload os).issued.length = w.bus.issued.length + 1 := by
  have hpushed := congrArg List.length (pushed_issued w.registry w.bus service nodeId payload os)
  rw [List.length_append, List.length_singleton] at hpushed
  exact hpushed

theorem pushed_tfrIds (r : Registry) (b : Bus) (service : Service) (nodeId : Nat)
    (payload : List Byte) (os : Os) :
    (pushed r b service nodeId payload os).tfrIds = Function.update b.tfrIds service
      (Function.update (b.tfrIds service) nodeId ((b.tfrIds service nodeId + 1) &&& 0x1F)) :=
  (uavcanSend_frame _ _).2.1

theorem of_getElem?_singleton {α : Type} {a b : α} {k : Nat} (h : [a][k]? = some b) :
    k = 0 ∧ a = b := by
  cases k with
  | zero => exact ⟨rfl, Option.some.inj h⟩
  | succ k => simp at h

/-! ## Transfer identifiers -/

/-- Whether a request is on this channel. -/
def onChannel (service : Service) (node : Nat) (i : Issued) : Bool :=
  decide (i.service = service ∧ i.transfer.remoteNodeId = node)

/-- The requests to one service of one node. -/
def channel (b : Bus) (service : Service) (node : Nat) : List Issued :=
  b.issued.filter (onChannel service node)

/-- The ledger and the counters. -/
structure Ledger (b : Bus) : Prop where
  shape : ∀ i ∈ b.issued, i.transfer.transferKind = .request ∧ i.transfer.portId = i.service.port ∧
    i.transfer.remoteNodeId ≤ CANARD_NODE_ID_MAX
  counter : ∀ service node, b.tfrIds service node = (channel b service node).length % 32
  ids : ∀ service node k i, (channel b service node)[k]? = some i → i.transfer.transferId = k % 32

theorem Ledger.congr {b b' : Bus} (h : Ledger b) (hi : b'.issued = b.issued)
    (ht : b'.tfrIds = b.tfrIds) : Ledger b' := by
  have hc : ∀ s n, channel b' s n = channel b s n := by intro s n; unfold channel; rw [hi]
  exact ⟨hi ▸ h.shape, fun s n => by rw [ht, hc]; exact h.counter s n,
    fun s n k i hk => h.ids s n k i (hc s n ▸ hk)⟩

/-- **A request takes the next transfer identifier of its channel.** -/
theorem Ledger.push {b : Bus} (h : Ledger b) (r : Registry) {service : Service} {nodeId : Nat}
    (hn : nodeId ≤ CANARD_NODE_ID_MAX) (payload : List Byte) (os : Os) :
    Ledger (pushed r b service nodeId payload os) := by
  have hchannel : ∀ s n, channel (pushed r b service nodeId payload os) s n =
      channel b s n ++ if s = service ∧ n = nodeId then
        [nextIssued r b service nodeId payload os] else [] := by
    intro s n
    unfold channel
    rw [pushed_issued, List.filter_append]
    congr 1
    by_cases hsn : s = service ∧ n = nodeId
    · rw [if_pos hsn, hsn.1, hsn.2]
      simp [onChannel, nextIssued, requestTransfer]
    · have hoff : onChannel s n (nextIssued r b service nodeId payload os) = false :=
        decide_eq_false (fun hc => hsn ⟨hc.1.symm, hc.2.symm⟩)
      rw [if_neg hsn]
      simp [hoff]
  constructor
  · intro i hi
    rw [pushed_issued] at hi
    rcases List.mem_append.mp hi with hi | hi
    · exact h.shape i hi
    · obtain rfl := List.mem_singleton.mp hi
      exact ⟨rfl, rfl, hn⟩
  · intro s n
    have hc := h.counter s n
    rw [hchannel, pushed_tfrIds, List.length_append]
    by_cases hs : s = service
    · subst hs
      rw [Function.update_self]
      by_cases hnode : n = nodeId
      · subst hnode
        -- counting modulo 32 is what the mask does
        rw [Function.update_self, if_pos ⟨rfl, rfl⟩, show (0x1F : Nat) = 2 ^ 5 - 1 by decide,
          BitField.and_mask, List.length_singleton]
        omega
      · rw [Function.update_of_ne hnode, if_neg (fun hh => hnode hh.2), List.length_nil,
          Nat.add_zero]
        exact hc
    · rw [Function.update_of_ne hs, if_neg (fun hh => hs hh.1), List.length_nil, Nat.add_zero]
      exact hc
  · intro s n k i hk
    rw [hchannel] at hk
    rcases Nat.lt_or_ge k (channel b s n).length with hlt | hge
    · rw [List.getElem?_append_left hlt] at hk
      exact h.ids s n k i hk
    · rw [List.getElem?_append_right hge] at hk
      split at hk
      · rename_i hsn
        obtain ⟨hzero, rfl⟩ := of_getElem?_singleton hk
        have hc := h.counter s n
        show b.tfrIds service nodeId = k % 32
        rw [← hsn.1, ← hsn.2, hc]
        congr 1
        omega
      · simp at hk

theorem Ledger.uavcanSend {b : Bus} (h : Ledger b) (n : Nat) : Ledger (b.uavcanSend n) :=
  h.congr (uavcanSend_frame b n).1 (uavcanSend_frame b n).2.1

/-- An issued transfer is in range. -/
theorem Ledger.inRange {b : Bus} (h : Ledger b) {i : Issued} (hi : i ∈ b.issued) :
    InRange i.transfer := by
  obtain ⟨_, hport, hnode⟩ := h.shape i hi
  refine ⟨hnode, ?_, hport ▸ Service.port_le _⟩
  have hmem : i ∈ channel b i.service i.transfer.remoteNodeId := by
    simp [channel, onChannel, hi]
  obtain ⟨k, hk⟩ := List.mem_iff_getElem?.mp hmem
  rw [h.ids _ _ k i hk]
  unfold CANARD_TRANSFER_ID_MAX
  omega

/-! ## Tasks -/

/-- Tasks and the requests they were made for. -/
structure Owned (r : Registry) (b : Bus) : Prop where
  /-- A task waits for the response to its request. -/
  origin : ∀ t ∈ r.head, ∃ i, b.issued[t.serial]? = some i ∧ t.id = makeRspSpecifier i.transfer ∧
    Fits i.service t.param
  /-- A later request with the same specifier was made while the task was pending. -/
  clash : ∀ t ∈ r.head, ∀ n i, t.serial < n → b.issued[n]? = some i →
    makeRspSpecifier i.transfer = t.id → i.clash = true
  serial_inj : ∀ t ∈ r.head, ∀ t' ∈ r.head, t.serial = t'.serial → t = t'

/-- The tasks are in the order of their requests. -/
def Chronological (r : Registry) : Prop :=
  r.head.Pairwise (fun t t' => t.serial < t'.serial)

theorem Owned.serial_lt {r : Registry} {b : Bus} (h : Owned r b) {t : TaskEntry}
    (ht : t ∈ r.head) : t.serial < b.issued.length := by
  obtain ⟨i, hi, _⟩ := h.origin t ht
  exact (List.getElem?_eq_some_iff.mp hi).1

theorem Owned.congr {r r' : Registry} {b b' : Bus} (h : Owned r b)
    (hhead : ∀ t ∈ r'.head, t ∈ r.head) (hi : b'.issued = b.issued) : Owned r' b' := by
  constructor
  · intro t ht; rw [hi]; exact h.origin t (hhead t ht)
  · intro t ht; rw [hi]; exact h.clash t (hhead t ht)
  · intro t ht t' ht'; exact h.serial_inj t (hhead t ht) t' (hhead t' ht')

/-- A request leaves the tasks there are as they were. -/
theorem Owned.push {r : Registry} {b : Bus} (h : Owned r b) (service : Service) (nodeId : Nat)
    (payload : List Byte) (os : Os) : Owned r (pushed r b service nodeId payload os) := by
  constructor
  · intro t ht
    obtain ⟨i, hi, hrest⟩ := h.origin t ht
    refine ⟨i, ?_, hrest⟩
    rw [pushed_issued, List.getElem?_append_left (h.serial_lt ht)]
    exact hi
  · intro t ht n i hn hi hspec
    rw [pushed_issued] at hi
    rcases Nat.lt_or_ge n b.issued.length with hlt | hge
    · rw [List.getElem?_append_left hlt] at hi
      exact h.clash t ht n i hn hi hspec
    · rw [List.getElem?_append_right hge] at hi
      -- the new request notes the pending task it clashes with
      obtain ⟨_, rfl⟩ := of_getElem?_singleton hi
      exact List.any_eq_true.mpr ⟨t, ht, decide_eq_true hspec.symm⟩
  · exact h.serial_inj

/-- **A new task belongs to the newest request.** -/
theorem Owned.withTask {r : Registry} {b : Bus} (h : Owned r b) {service : Service} {nodeId : Nat}
    {payload : List Byte} {os : Os} {param : Param} (hfit : Fits service param) (fd : Int)
    (it : Itimerspec) (cb : Callback) :
    Owned (withTask r fd it (nextSpecifier b service nodeId payload) param cb b.issued.length)
      (pushed r b service nodeId payload os) := by
  have hpush := h.push service nodeId payload os
  constructor
  · intro t ht
    rcases List.mem_append.mp ht with ht | ht
    · exact hpush.origin t ht
    · obtain rfl := List.mem_singleton.mp ht
      refine ⟨nextIssued r b service nodeId payload os, ?_, rfl, hfit⟩
      rw [pushed_issued, List.getElem?_append_right (Nat.le_refl _), Nat.sub_self]
      rfl
  · intro t ht n i hn hi hspec
    rcases List.mem_append.mp ht with ht | ht
    · exact hpush.clash t ht n i hn hi hspec
    · obtain rfl := List.mem_singleton.mp ht
      -- no request is newer than the newest
      have hlt := (List.getElem?_eq_some_iff.mp hi).1
      rw [pushed_issued, List.length_append, List.length_singleton] at hlt
      simp only at hn
      omega
  · intro t ht t' ht' heq
    rcases List.mem_append.mp ht with ht | ht <;> rcases List.mem_append.mp ht' with ht' | ht'
    · exact h.serial_inj t ht t' ht' heq
    · obtain rfl := List.mem_singleton.mp ht'
      have hlt := h.serial_lt ht
      simp only at heq
      omega
    · obtain rfl := List.mem_singleton.mp ht
      have hlt := h.serial_lt ht'
      simp only at heq
      omega
    · rw [List.mem_singleton.mp ht, List.mem_singleton.mp ht']

/-! ## Every reachable state -/

variable {ok : Registry → Int → Prop}

theorem ledger_effect {s s' : Registry × Bus} (h : Ledger s.2) (he : Effect ok s s') :
    Ledger s'.2 := by
  cases he with
  | registered timeout hn _ _ => exact h.push _ hn _ _
  | unregistered hn => exact h.push _ hn _ _
  | removed _ _ => exact h
  | beat _ _ => exact h
  | expired _ _ _ _ => exact h
  | sent n => exact h.uavcanSend n
  | received _ => exact h.congr rfl rfl

theorem owned_effect {s s' : Registry × Bus} (h : Owned s.1 s.2) (he : Effect ok s s') :
    Owned s'.1 s'.2 := by
  cases he with
  | registered timeout _ hfit _ => exact h.withTask hfit _ _ _
  | unregistered _ => exact h.push _ _ _ _
  | removed _ _ => exact h.congr (fun t ht => (KeyedList.mem_without.mp ht).1) rfl
  | beat _ hb => exact h.congr (fun t ht => (heartbeat_edit hb).head ▸ ht) rfl
  | expired _ _ _ hx => exact h.congr (fun t ht => (timeout_edit hx).head ▸ ht) rfl
  | sent n => exact h.congr (fun t ht => ht) (uavcanSend_frame _ n).1
  | received _ => exact h.congr (fun t ht => ht) rfl

/-- Tasks are added at the end, and the others stay in their order. -/
theorem chronological_effect {s s' : Registry × Bus} (ho : Owned s.1 s.2) (h : Chronological s.1)
    (he : Effect ok s s') : Chronological s'.1 := by
  cases he with
  | registered timeout _ _ _ =>
      refine List.pairwise_append.mpr ⟨h, List.pairwise_singleton .., ?_⟩
      intro t ht t' ht'
      rw [List.mem_singleton.mp ht']
      exact ho.serial_lt ht
  | unregistered _ => exact h
  | removed _ _ => exact h.filter _
  | beat _ hb =>
      unfold Chronological
      rw [(heartbeat_edit hb).head]
      exact h
  | expired _ _ _ hx =>
      unfold Chronological
      rw [(timeout_edit hx).head]
      exact h
  | sent n => exact h
  | received _ => exact h

theorem ledger_fresh {w : World} (h : Fresh w) : Ledger w.bus := by
  have hc : ∀ s n, channel w.bus s n = [] := by intro s n; unfold channel; rw [h.issued]; rfl
  constructor
  · rw [h.issued]; simp
  · intro s n; rw [h.ids, hc]; rfl
  · intro s n k i hk; rw [hc] at hk; simp at hk

theorem owned_fresh {w : World} (h : Fresh w) : Owned w.registry w.bus := by
  constructor
  · rw [h.head]; simp
  · rw [h.head]; simp
  · rw [h.head]; simp

/-- **The counters follow the ledger in every reachable state.** -/
theorem ledger_reachable {guard : World → Act → Prop} {w : World} (h : ReachableBy guard w) :
    Ledger w.bus :=
  reachable_core anyFd (P := fun s => Ledger s.2) (fun _ _ _ _ _ => trivial)
    (fun _ hf => ledger_fresh hf) (fun _ _ hg he => ledger_effect hg he) h

/-- **Every pending task belongs to a request, in every reachable state.** -/
theorem owned_reachable {guard : World → Act → Prop} {w : World} (h : ReachableBy guard w) :
    Owned w.registry w.bus :=
  reachable_core anyFd (P := fun s => Owned s.1 s.2) (fun _ _ _ _ _ => trivial)
    (fun _ hf => owned_fresh hf) (fun _ _ hg he => owned_effect hg he) h

theorem chronological_reachable {guard : World → Act → Prop} {w : World} (h : ReachableBy guard w) :
    Chronological w.registry := by
  have hboth : Owned w.registry w.bus ∧ Chronological w.registry :=
    reachable_core anyFd (P := fun s => Owned s.1 s.2 ∧ Chronological s.1) (fun _ _ _ _ _ => trivial)
      (fun w hf => ⟨owned_fresh hf, by unfold Chronological core; rw [hf.head]; exact .nil⟩)
      (fun _ _ hg he => ⟨owned_effect hg.1 he, chronological_effect hg.1 hg.2 he⟩) h
  exact hboth.2

end Wlmio.Proof
