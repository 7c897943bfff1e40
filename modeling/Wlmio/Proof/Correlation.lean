import Wlmio.Proof.Completion
import Wlmio.Proof.NodeInfo
import Wlmio.Proof.Pending
import Wlmio.Proof.RegisterReply

/-!
# Which request a response answers

A response carries its service, its node and five bits of transfer identifier, and no
more; the task it finds is the first with that specifier. The counter of a channel
comes round after 32 requests, and nothing keeps a caller from having more of them
pending.

What goes wrong goes wrong by specifier. The search finds the oldest task that carries
it, and a request that was made while no pending task carried its specifier shares it
with no older task, whatever happened on other channels. So its response completes the
task of that request and no other; and when that task is gone, the response to one of
the last 32 requests of a channel is not taken for one to a newer request
(`response_correlation`). With 33 pending requests the oldest task is another's
(`correlation_fails`), and what comes 32 requests late, for a task that is gone, is taken
for the answer to a newer request (`late_response_misdirected`).
-/

namespace Wlmio.Proof

open Wlmio.Client Wlmio.Canard Fallible

/-- `tfr` is a response to the `n`-th request. -/
def Answers (w : World) (n : Nat) (tfr : CanardTransfer) : Prop :=
  tfr.transferKind = .response ∧ ∃ i, w.bus.issued[n]? = some i ∧
    tfr.portId = i.transfer.portId ∧ tfr.remoteNodeId = i.transfer.remoteNodeId ∧
    tfr.transferId = i.transfer.transferId

/-- The requests made after the `n`-th on its channel. -/
def later (w : World) (n : Nat) : List Issued :=
  match w.bus.issued[n]? with
  | none => []
  | some i => (w.bus.issued.drop (n + 1)).filter (onChannel i.service i.transfer.remoteNodeId)

/-- The `n`-th request was made while no pending task carried its specifier. -/
def Unclashed (b : Bus) (n : Nat) : Prop := ∀ i, b.issued[n]? = some i → i.clash = false

/-- No request was made while a pending task carried its specifier. -/
def NoClash (b : Bus) : Prop := ∀ i ∈ b.issued, i.clash = false

/-- No task of a request before the `n`-th is pending with the specifier of `tfr`. -/
def Unshadowed (w : World) (n : Nat) (tfr : CanardTransfer) : Prop :=
  ∀ t ∈ w.registry.head, t.serial < n → t.id ≠ makeRspSpecifier tfr

/-- No task of a request after the `n`-th is pending with the specifier of `tfr`. -/
def Unsuperseded (w : World) (n : Nat) (tfr : CanardTransfer) : Prop :=
  ∀ t ∈ w.registry.head, n < t.serial → t.id ≠ makeRspSpecifier tfr

/-! ## Specifiers of pending tasks -/

/-- **Of two pending tasks with one specifier the newer clashed with the older.** -/
theorem same_specifier {r : Registry} {b : Bus} (ho : Owned r b) {t t' : TaskEntry}
    (ht : t ∈ r.head) (ht' : t' ∈ r.head) (hid : t.id = t'.id) (hc : Unclashed b t'.serial) :
    t'.serial ≤ t.serial := by
  by_contra hlt
  obtain ⟨i, hi, hspec, _⟩ := ho.origin t' ht'
  have hclash := ho.clash t ht t'.serial i (Nat.lt_of_not_le hlt) hi (hspec.symm.trans hid.symm)
  rw [hc i hi] at hclash
  cases hclash

/-- At most one pending task has a specifier whose tasks did not clash. -/
theorem specifier_count {r : Registry} {b : Bus} (hg : Good r) (ho : Owned r b) {id : Nat}
    (hc : ∀ t ∈ r.head, t.id = id → Unclashed b t.serial) :
    (r.head.map TaskEntry.id).count id ≤ 1 := by
  have hsame : ∀ t ∈ r.head, ∀ t' ∈ r.head, t.id = id → t'.id = id → t = t' := by
    intro t ht t' ht' hid hid'
    have h1 := same_specifier ho ht ht' (hid.trans hid'.symm) (hc t' ht' hid')
    have h2 := same_specifier ho ht' ht (hid'.trans hid.symm) (hc t ht hid)
    exact ho.serial_inj t ht t' ht' (Nat.le_antisymm h2 h1)
  have hnodup : r.head.Nodup := List.Nodup.of_map _ hg.task_unique
  have hmem : ∀ t, t ∈ r.head.filter (fun t => t.id == id) → t ∈ r.head ∧ t.id = id := by
    intro t ht
    obtain ⟨htm, hid⟩ := List.mem_filter.mp ht
    exact ⟨htm, eq_of_beq hid⟩
  rw [List.count, List.countP_map, List.countP_eq_length_filter]
  have hfilter := hnodup.filter (fun t => t.id == id)
  show (r.head.filter (fun t => t.id == id)).length ≤ 1
  -- two of them would be the same task twice
  cases hl : r.head.filter (fun t => t.id == id) with
  | nil => exact Nat.zero_le 1
  | cons t ts =>
      cases ts with
      | nil => exact Nat.le_refl 1
      | cons t' ts =>
          exfalso
          rw [hl] at hfilter hmem
          obtain ⟨ht, hid⟩ := hmem t (by simp)
          obtain ⟨ht', hid'⟩ := hmem t' (by simp)
          have heq := hsame t ht t' ht' hid hid'
          exact (List.nodup_cons.mp hfilter).1 (heq ▸ List.mem_cons_self)

/-- A request without a clash is not shadowed, then or later. -/
theorem unshadowed_of_unclashed {w : World} (ho : Owned w.registry w.bus) {n : Nat}
    {tfr : CanardTransfer} (ha : Answers w n tfr) (hc : Unclashed w.bus n) :
    Unshadowed w n tfr := by
  obtain ⟨_, i, hi, hport, hnode, htid⟩ := ha
  intro t ht hlt hid
  have hspec : makeRspSpecifier i.transfer = t.id := by
    rw [hid]
    unfold makeRspSpecifier
    rw [hport, hnode, htid]
  have hclash := ho.clash t ht n i hlt hi hspec
  rw [hc i hi] at hclash
  cases hclash

/-! ## The request of the task that is found -/

/-- Two elements of a filtered list, the second behind the first. -/
theorem filter_positions {α : Type} {l : List α} {p : α → Bool} {n m : Nat} {a b : α}
    (ha : l[n]? = some a) (hpa : p a = true) (hb : l[m]? = some b) (hpb : p b = true)
    (hlt : n < m) : ∃ k d, d < ((l.drop (n + 1)).filter p).length ∧
      (l.filter p)[k]? = some a ∧ (l.filter p)[k + 1 + d]? = some b := by
  obtain ⟨hn, rfl⟩ := List.getElem?_eq_some_iff.mp ha
  have hsplit : l.filter p = (l.take n).filter p ++ l[n] :: (l.drop (n + 1)).filter p := by
    conv_lhs => rw [← List.take_append_drop n l, List.drop_eq_getElem_cons hn]
    rw [List.filter_append, List.filter_cons, if_pos hpa]
  have hmem : b ∈ (l.drop (n + 1)).filter p := by
    refine List.mem_filter.mpr ⟨List.mem_iff_getElem?.mpr ⟨m - (n + 1), ?_⟩, hpb⟩
    rw [List.getElem?_drop, ← hb]
    congr 1
    omega
  obtain ⟨d, hd⟩ := List.mem_iff_getElem?.mp hmem
  refine ⟨((l.take n).filter p).length, d, (List.getElem?_eq_some_iff.mp hd).1, ?_, ?_⟩
  · rw [hsplit, List.getElem?_append_right (Nat.le_refl _), Nat.sub_self]
    rfl
  · rw [hsplit, List.getElem?_append_right (by omega)]
    have hidx : ((l.take n).filter p).length + 1 + d - ((l.take n).filter p).length = d + 1 := by
      omega
    rw [hidx, List.getElem?_cons_succ]
    exact hd

/-- What answers a request is in range, as the request is. -/
theorem Answers.inRange {w : World} {n : Nat} {tfr : CanardTransfer} (ha : Answers w n tfr)
    (hl : Ledger w.bus) : InRange tfr := by
  obtain ⟨_, i, hi, hport, hnode, htid⟩ := ha
  obtain ⟨hn, ht, hp⟩ := hl.inRange (List.mem_of_getElem? hi)
  exact ⟨hnode ▸ hn, htid ▸ ht, hport ▸ hp⟩

/-- **Of the last 32 requests of a channel** none has the specifier of an older one. -/
theorem unsuperseded_of_recent {w : World} (hl : Ledger w.bus) (ho : Owned w.registry w.bus) {n : Nat}
    {tfr : CanardTransfer} (ha : Answers w n tfr) (hrecent : (later w n).length < 32) :
    Unsuperseded w n tfr := by
  intro t ht hgt hid
  have hr := ha.inRange hl
  obtain ⟨_, i, hi, hport, hnode, htid⟩ := ha
  obtain ⟨j, hj, hjport, hjnode, hjtid, _⟩ := found_task hl ho hr ht hid
  have hservice : j.service = i.service :=
    Service.port_inj (hjport.trans (hport.trans (hl.shape i (List.mem_of_getElem? hi)).2.1))
  -- the task is newer: then the counter has come round in between
  obtain ⟨k, d, hd, hk, hkd⟩ := filter_positions
    (p := onChannel i.service i.transfer.remoteNodeId) hi (by simp [onChannel]) hj
    (by simp [onChannel, hservice, hjnode, hnode]) hgt
  have h1 := hl.ids _ _ k i hk
  have h2 := hl.ids _ _ (k + 1 + d) j hkd
  have hlater : later w n =
      (w.bus.issued.drop (n + 1)).filter (onChannel i.service i.transfer.remoteNodeId) := by
    unfold later; rw [hi]
  rw [hlater] at hrecent
  rw [hjtid, htid, h1] at h2
  omega

/-- **The search finds the oldest task** with the specifier. -/
theorem found_first {r : Registry} (h : Chronological r) {t : TaskEntry} (ht : t ∈ r.head) {id : Nat}
    (hid : t.id = id) (hu : ∀ t' ∈ r.head, t'.serial < t.serial → t'.id ≠ id) :
    r.taskWithId id = some t := by
  obtain ⟨before, after, hsplit⟩ := List.append_of_mem ht
  unfold Chronological at h
  rw [hsplit] at h
  obtain ⟨_, _, hbefore⟩ := List.pairwise_append.mp h
  refine List.find?_eq_some_iff_append.mpr
    ⟨decide_eq_true hid, before, after, hsplit, fun t' ht' => ?_⟩
  have hother : t'.id ≠ id := by
    refine hu t' ?_ (hbefore t' ht' t List.mem_cons_self)
    rw [hsplit]
    exact List.mem_append_left _ ht'
  simp [hother]

/-- The task of the request has the specifier of the response. -/
theorem specifier_of_serial {w : World} (ho : Owned w.registry w.bus) {tfr : CanardTransfer}
    {t : TaskEntry} (ht : t ∈ w.registry.head) (ha : Answers w t.serial tfr) :
    t.id = makeRspSpecifier tfr := by
  obtain ⟨_, i, hi, hport, hnode, htid⟩ := ha
  obtain ⟨j, hj, hspec, _⟩ := ho.origin t ht
  obtain rfl := Option.some.inj (hi.symm.trans hj)
  rw [hspec]
  unfold makeRspSpecifier
  rw [hport, hnode, htid]

/-! ## What the response does -/

/-- A reply that does not fit what the handler copies it to. -/
def Overruns (tfr : CanardTransfer) : Prop :=
  (tfr.portId = 384 ∧ ¬ Decodable tfr.payload) ∨ (tfr.portId = 385 ∧ 52 < tfr.payload.length)

/-- The faults that can keep a response from completing the task it finds: the reply overruns a
buffer, or a function of `io.c` trips over its record. -/
def Excused (tfr : CanardTransfer) (t : TaskEntry) (f : Fault) : Prop :=
  (f = .outOfBounds ∧ Overruns tfr) ∨ (CallbackFault f ∧ ∃ p, PointsTo t p)

/-- The `param` of the task is written and the task completed, or there is an excuse. -/
structure TaskServed (w : World) (tfr : CanardTransfer) (t : TaskEntry)
    (x : Except Fault (World × Option Rest)) : Prop where
  fails : FailsOnly (Excused tfr t) x
  ok : ∀ w' rest, x = .ok (w', rest) → ∃ w₁ r, Stored w t w₁ ∧ complete w₁ t r = .ok (w', rest)

section

variable {w : World} {tfr : CanardTransfer} {t : TaskEntry}

theorem taskServed_complete {w₁ : World} (hg : Good w.registry) (ht : t ∈ w.registry.head)
    (hs : Stored w t w₁) (r : Int) : TaskServed w tfr t (complete w₁ t r) := by
  have hreg := hs.core.registry
  constructor
  · intro f hf
    have hcallback := complete_linked (hreg.symm ▸ hg) (hreg.symm ▸ ht) r f hf
    cases hcb : t.callback with
    | caller c =>
        obtain ⟨x, hx⟩ := complete_caller (hreg.symm ▸ hg) (hreg.symm ▸ ht) hcb r
        rw [hx] at hf
        cases hf
    | read module p => exact .inr ⟨hcallback, p, .inl (by rw [hcb]; rfl)⟩
    | configure p => exact .inr ⟨hcallback, p, .inl (by rw [hcb]; rfl)⟩
    | setSampleInterval p => exact .inr ⟨hcallback, p, .inl (by rw [hcb]; rfl)⟩
  · intro w' rest hx
    exact ⟨w₁, r, hs, hx⟩

/-- What comes before the completion fails with an excuse only. -/
theorem TaskServed.bind {α : Type} {x : Except Fault α} {f : α → Except Fault (World × Option Rest)}
    (hx : FailsOnly (Excused tfr t) x) (hf : ∀ a, x = .ok a → TaskServed w tfr t (f a)) :
    TaskServed w tfr t (x >>= f) := by
  constructor
  · exact hx.bind (fun a ha => (hf a ha).fails)
  · intro w' rest h
    obtain ⟨a, ha, h⟩ := Fallible.bind_eq_ok.mp h
    exact (hf a ha).ok w' rest h

theorem decodeName_excused (h : tfr.portId = 385) :
    FailsOnly (Excused tfr t) (decodeName tfr.payload) := by
  unfold decodeName
  split
  · by_cases hlong : 52 < tfr.payload.length
    · rw [copyField_of_none (Bytes.copy_eq_none.mpr ⟨by omega, .inr (by simp; omega)⟩)]
      exact .error (.inl ⟨rfl, .inr ⟨h, hlong⟩⟩)
    · rw [copyField_ok (by omega) (by omega)]
      exact .ok _
  · exact .ok _

theorem decodeRegisterAccess_excused (h : tfr.portId = 384) :
    FailsOnly (Excused tfr t) (decodeRegisterAccess tfr.payload) := by
  by_cases hd : Decodable tfr.payload
  · rw [decodeRegisterAccess_ok hd]
    exact .ok _
  · rw [decodeRegisterAccess_error hd]
    exact .error (.inl ⟨rfl, .inl ⟨h, hd⟩⟩)

theorem writeRegr_excused (hfit : Fits .registerAccess t.param) (regr : WlmioRegisterAccess) :
    FailsOnly (Excused tfr t) (writeRegr w t.param regr) := by
  cases hp : t.param with
  | null => exact .ok _
  | register buffer => exact .ok _
  | record p => exact (writeRegr_fails w _ regr).mono (fun f hf => .inr ⟨hf, p, .inr hp⟩)
  | nodeInfo _ => rw [hp] at hfit; exact hfit.elim
  | name _ => rw [hp] at hfit; exact hfit.elim

/-- **A handler serves the task its response finds**, if that waits for the handler's service. -/
theorem dispatch_served (hg : Good w.registry) {service : Service}
    (hport : service.port = tfr.portId) (hk : tfr.transferKind = .response)
    (hfit : Fits service t.param)
    (hfound : w.registry.taskWithId (makeRspSpecifier tfr) = some t) (pick : Int) (malloc : Bool) :
    TaskServed w tfr t (dispatch w tfr pick malloc) := by
  have htm := (taskWithId_mem hfound).1
  have hget := asyncGetParam_found hfound
  unfold dispatch
  rw [if_neg (by simp [hk]), ← hport, hk]
  cases service with
  | getNodeInfo =>
      obtain ⟨buffer, hp⟩ := fits_getNodeInfo hfit
      have hs : ∀ info, Stored w t (w.log (.wroteNodeInfo t.param info)) := fun info =>
        stored_log (.nodeInfo info) (by simp [hp])
      rw [if_pos ⟨rfl, rfl⟩]
      rcases decodeNodeInfo_spec tfr.payload with ⟨_, info, hdecode⟩ | ⟨_, hdecode⟩
      · rw [getNodeInfoResponseHandler_eq hfound hp hdecode]
        exact taskServed_complete hg htm (hs _) _
      · rw [getNodeInfoResponseHandler_eq hfound hp hdecode]
        exact taskServed_complete hg htm (hs _) _
  | registerList =>
      obtain ⟨buffer, hp⟩ := fits_registerList hfit
      rw [if_neg (by decide), if_pos ⟨rfl, rfl⟩]
      unfold registerListResponseHandler
      dsimp only
      rw [hget, hp]
      refine .bind (decodeName_excused hport.symm) ?_
      intro name _
      have hs : Stored w t (w.log (.wroteName (.name buffer) name.val)) :=
        stored_log (hp ▸ .name name.val) (by simp [hp])
      rw [asyncComplete_found hfound hs]
      exact taskServed_complete hg htm hs 0
  | registerAccess =>
      rw [if_neg (by decide), if_neg (by decide), if_pos ⟨rfl, rfl⟩,
        registerAccessResponseHandler_eq hfound]
      refine .bind (decodeRegisterAccess_excused hport.symm) ?_
      intro x _
      unfold delivery
      exact .bind (writeRegr_excused hfit x.1)
        (fun w₁ hw => taskServed_complete hg htm (stored_writeRegr hw) x.2)
  | executeCommand =>
      rw [if_neg (by decide), if_neg (by decide), if_neg (by decide), if_pos ⟨rfl, rfl⟩]
      have hp := fits_executeCommand hfit
      unfold executeCommandResponseHandler
      obtain ⟨status, hstatus⟩ := decodeStatus_ok tfr.payload
      rw [hstatus]
      show TaskServed w tfr t (asyncComplete w (makeRspSpecifier tfr) status)
      rw [asyncComplete_found hfound (stored_null hp)]
      exact taskServed_complete hg htm (stored_null hp) status

end

/-! ## Correlation -/

/-- What a step that receives the response `tfr` to the `n`-th request does. -/
structure CompletesOwn (w : World) (n : Nat) (tfr : CanardTransfer) (w' : World) : Prop where
  /-- If the request has a pending task, that is the task the response finds, and its `param` is
  written and its callback called, and those of no other. -/
  pending : ∀ t ∈ w.registry.head, t.serial = n →
    w.registry.taskWithId (makeRspSpecifier tfr) = some t ∧
      ((w'.fault = none ∧ Completed t w w') ∨ ∃ f, w'.fault = some f ∧ Excused tfr t f)
  /-- If it has none, and no newer request with the specifier has one, the response finds no task:
  nothing is written and nobody called. -/
  gone : (∀ t ∈ w.registry.head, t.serial ≠ n) → Unsuperseded w n tfr →
    w.registry.taskWithId (makeRspSpecifier tfr) = none ∧ w'.registry = w.registry ∧
      w'.records = w.records ∧ w'.trace = w.trace ∧ w'.fault = none

/-- Pending tasks and the responses to their requests. -/
structure Correlated (w : World) : Prop where
  /-- No two pending tasks carry a specifier whose pending requests did not clash. -/
  unique : ∀ id, (∀ t ∈ w.registry.head, t.id = id → Unclashed w.bus t.serial) →
    (w.registry.head.map TaskEntry.id).count id ≤ 1
  /-- A request that did not clash is never shadowed by an older one. -/
  unshadowed : ∀ n tfr, Answers w n tfr → Unclashed w.bus n → Unshadowed w n tfr
  /-- The last 32 requests of a channel have different specifiers. -/
  unsuperseded : ∀ n tfr, Answers w n tfr → (later w n).length < 32 → Unsuperseded w n tfr
  /-- A response completes the task of the request it answers, if no older task shadows it. -/
  response : ∀ n frame pick malloc tfr w', Completes w frame tfr → Answers w n tfr →
    Unshadowed w n tfr → step w (.receive frame pick malloc) = some w' → CompletesOwn w n tfr w'

/-- A step that receives a response serves the task that the response finds. -/
theorem receive_served {w w' : World} {frame : CanardFrame} {pick : Int} {malloc : Bool}
    {tfr : CanardTransfer} {t : TaskEntry} (hc : Completes w frame tfr)
    (hserved : ∀ canard, TaskServed (withCanard w canard) tfr t
      (dispatch (withCanard w canard) tfr pick malloc))
    (hs : step w (.receive frame pick malloc) = some w') :
    (w'.fault = none ∧ Completed t w w') ∨ ∃ f, w'.fault = some f ∧ Excused tfr t f := by
  obtain ⟨canard, out, buffer, hacc⟩ := hc
  obtain ⟨hfault, rfl⟩ := receive_step hacc hs
  unfold handleTransfer
  cases hd : dispatch (withCanard w canard) tfr pick malloc with
  | error f => exact .inr ⟨f, rfl, (hserved canard).fails f hd⟩
  | ok x =>
      obtain ⟨w₂, rest⟩ := x
      obtain ⟨w₁, r, hstored, hcomplete⟩ := (hserved canard).ok w₂ rest hd
      have hresumed := resume_frame w₂ rest (if 0 < tfr.payload.length then buffer else none)
      refine .inl ⟨?_, (hstored.completed hcomplete).congr rfl hresumed.trace⟩
      calc (resume w₂ rest (if 0 < tfr.payload.length then buffer else none)).fault
          = w₂.fault := hresumed.fault
        _ = w₁.fault := (complete_calls hcomplete).fault
        _ = (withCanard w canard).fault := hstored.core.fault
        _ = none := hfault

/-- **Responses complete their own requests**: in every reachable state, and whatever happens on
other channels or to other specifiers. -/
theorem response_correlation {w : World} (h : Reachable w) : Correlated w := by
  have hg := good_reachable h
  have hl := ledger_reachable h
  have ho := owned_reachable h
  constructor
  · intro id hc
    exact specifier_count hg ho hc
  · intro n tfr ha hc
    exact unshadowed_of_unclashed ho ha hc
  · intro n tfr ha hrecent
    exact unsuperseded_of_recent hl ho ha hrecent
  intro n frame pick malloc tfr w' hcomp ha hu hs
  have hr := completes_inRange hcomp ha.1
  constructor
  · rintro t ht rfl
    -- no older task has the specifier, so the search stops at this one
    have hid := specifier_of_serial ho ht ha
    have hfound := found_first (chronological_reachable h) ht hid hu
    refine ⟨hfound, receive_served hcomp (fun canard => ?_) hs⟩
    obtain ⟨i, _, hport, _, _, hfit⟩ := found_task hl ho hr ht hid
    exact dispatch_served (w := withCanard w canard) hg hport ha.1 hfit hfound pick malloc
  · intro hnone hnewer
    have hid : w.registry.taskWithId (makeRspSpecifier tfr) = none := by
      cases ht : w.registry.taskWithId (makeRspSpecifier tfr) with
      | none => rfl
      | some t =>
          obtain ⟨htm, hid⟩ := taskWithId_mem ht
          -- the task is neither older nor newer than the request
          rcases Nat.lt_trichotomy t.serial n with hlt | heq | hgt
          · exact absurd hid (hu t htm hlt)
          · exact absurd heq (hnone t htm)
          · exact absurd hid (hnewer t htm hgt)
    obtain ⟨canard, payload, rfl⟩ := unmatched_step hcomp ha.1 hid hs
    exact ⟨hid, rfl, rfl, rfl, (step_cases hs).1⟩

instance (b : Bus) : Decidable (NoClash b) :=
  inferInstanceAs (Decidable (∀ i ∈ b.issued, i.clash = false))

/-- Requests for the names of the first `n` registers of node 7. -/
def listRequests (n : Nat) : List Act :=
  (List.range n).map (fun i =>
    .request (.registerList 7 (BitVec.ofNat 16 i) (some i)) (some i) (grantFrom (5 + i)))

/-- A reply of node 3 to a request for a name. -/
def nameReply : CanardFrame := responseFrame .registerList 3 0 [1#8, 66#8]

/-- The transfer it completes. -/
def nameTransfer : CanardTransfer := ⟨0, 4, .response, 385, 3, 0, [1#8, 66#8]⟩

/-- Thirty-three requests to node 7 do not touch the one to node 3. -/
theorem response_correlation_crowded : ∃ w w' t, ¬ NoClash w.bus ∧ Correlated w ∧
    t ∈ w.registry.head ∧ t.serial = 33 ∧ step w (.receive nameReply 0 true) = some w' ∧
    Completed t w w' := by
  obtain ⟨w, hr, hw⟩ := exists_after Transition.free
    (listRequests 33 ++
      [.request (.registerList 3 0 (some 40)) (some 40) (grantFrom 60), .tick])
    (fun w => decide (¬ NoClash w.bus ∧
      (canardRxAccept w.bus.canard (socketFrame nameReply) 0).2.2.map Prod.fst =
        some nameTransfer ∧
      w.bus.issued[33]? = some (Issued.mk .registerList
        (CanardTransfer.mk 0 4 .request 385 3 0 [0#8, 0#8]) 1 false) ∧
      (w.registry.head.map TaskEntry.serial)[33]? = some 33 ∧
      (step w (.receive nameReply 0 true)).any (fun w' => w'.fault.isNone) = true))
    (by decide +kernel)
  obtain ⟨hclash, hacc, hissued, hserial, hstep⟩ := of_decide_eq_true hw
  rw [List.getElem?_map] at hserial
  obtain ⟨t, ht, hserial⟩ := Option.map_eq_some_iff.mp hserial
  have htm := List.mem_of_getElem? ht
  obtain ⟨w', hs, hfault⟩ := (Option.any_eq_true _ _).mp hstep
  have hcorrelated := response_correlation hr
  have ha : Answers w 33 nameTransfer := ⟨rfl, _, hissued, rfl, rfl, rfl⟩
  have hu : Unshadowed w 33 nameTransfer := by
    refine hcorrelated.unshadowed 33 nameTransfer ha ?_
    intro i hi
    rw [← Option.some.inj (hissued.symm.trans hi)]
  have hown := hcorrelated.response 33 nameReply 0 true nameTransfer w' (completes_of_map hacc) ha
    hu hs
  obtain ⟨_, ⟨_, hcompleted⟩ | ⟨f, hf, _⟩⟩ := hown.pending t htm hserial
  · exact ⟨w, w', t, hclash, hcorrelated, htm, hserial, hs, hcompleted⟩
  · rw [hf] at hfault
    cases hfault

/-- The reply to the last of 33 requests to node 7. -/
def lastReply : CanardFrame := responseFrame .registerList 7 0 [1#8, 65#8]

/-- The transfer it completes. -/
def lastTransfer : CanardTransfer := ⟨0, 4, .response, 385, 7, 0, [1#8, 65#8]⟩

/-- **Thirty-three pending requests are too many.** The response to the last of them, which is
number 32, writes to the `param` and calls the callback of the first, which is number 0. -/
theorem correlation_fails : ∃ w w', Reachable w ∧ ¬ (w.registry.head.map TaskEntry.id).Nodup ∧
    Completes w lastReply lastTransfer ∧ Answers w 32 lastTransfer ∧
    step w (.receive lastReply 0 true) = some w' ∧ .invoked 1 0 0 ∈ w'.trace ∧
    .wroteName (.name 0) (65#8 :: List.replicate 50 0#8) ∈ w'.trace := by
  obtain ⟨w, hr, hw⟩ := exists_after Transition.free
    (listRequests 33 ++ [.tick])
    (fun w => decide (¬ (w.registry.head.map TaskEntry.id).Nodup ∧
      (canardRxAccept w.bus.canard (socketFrame lastReply) 0).2.2.map Prod.fst =
        some lastTransfer ∧
      w.bus.issued[32]?.map Issued.transfer =
        some (CanardTransfer.mk 0 4 .request 385 7 0 [32#8, 0#8]) ∧
      (step w (.receive lastReply 0 true)).any (fun w' => decide (.invoked 1 0 0 ∈ w'.trace ∧
        .wroteName (.name 0) (65#8 :: List.replicate 50 0#8) ∈ w'.trace)) = true))
    (by decide +kernel)
  obtain ⟨hdup, hacc, hissued, hstep⟩ := of_decide_eq_true hw
  obtain ⟨i, hi, htransfer⟩ := Option.map_eq_some_iff.mp hissued
  obtain ⟨w', hs, hw'⟩ := (Option.any_eq_true _ _).mp hstep
  refine ⟨w, w', hr, hdup, completes_of_map hacc, ⟨rfl, i, hi, ?_⟩, hs, of_decide_eq_true hw'⟩
  rw [htransfer]
  exact ⟨rfl, rfl, rfl⟩

/-- **A response that comes 32 requests late is taken for a newer one.** Request 0 has timed out
when its channel comes round to its transfer identifier; no request was made while a pending task
carried its specifier. -/
theorem late_response_misdirected : ∃ w w', Reachable w ∧ NoClash w.bus ∧
    Completes w lastReply lastTransfer ∧ Answers w 0 lastTransfer ∧ (later w 0).length = 32 ∧
    step w (.receive lastReply 0 true) = some w' ∧
    ∃ task, .invoked task 32 0 ∈ w'.trace := by
  obtain ⟨w, hr, hw⟩ := exists_after Transition.free
    (listRequests 1 ++ [.tick, .expire 2, .ret, .idle 0] ++ (listRequests 33).tail ++ [.tick])
    (fun w => decide (NoClash w.bus ∧
      (canardRxAccept w.bus.canard (socketFrame lastReply) 0).2.2.map Prod.fst =
        some lastTransfer ∧
      w.bus.issued[0]?.map Issued.transfer =
        some (CanardTransfer.mk 0 4 .request 385 7 0 [0#8, 0#8]) ∧
      (later w 0).length = 32 ∧
      (step w (.receive lastReply 0 true)).any (fun w' =>
        decide (.invoked 65 32 0 ∈ w'.trace)) = true))
    (by decide +kernel)
  obtain ⟨hclash, hacc, hissued, hlater, hstep⟩ := of_decide_eq_true hw
  obtain ⟨i, hi, htransfer⟩ := Option.map_eq_some_iff.mp hissued
  obtain ⟨w', hs, hw'⟩ := (Option.any_eq_true _ _).mp hstep
  refine ⟨w, w', hr, hclash, completes_of_map hacc, ⟨rfl, i, hi, ?_⟩, hlater, hs, 65,
    of_decide_eq_true hw'⟩
  rw [htransfer]
  exact ⟨rfl, rfl, rfl⟩

end Wlmio.Proof
