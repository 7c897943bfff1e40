import Wlmio.Canard.Ownership
import Wlmio.Library.History
import Wlmio.Proof.Pending
import Wlmio.Proof.Scenario

/-!
# What becomes of the payload buffers

A buffer that `canardRxAccept` has allocated is owned by the session that collects a
transfer in it, then by the handler of the transfer, which is to free it when it is done. It
frees nothing where the payload is empty (`payloads_released_iff`): then the buffer is lost.
-/

namespace Wlmio.Proof

open Wlmio.Client Wlmio.Canard

/-! ## What has been handed over -/

/-- The transfer that `canardRxAccept` hands over for a frame. -/
def handedOver (w : World) (frame : CanardFrame) : Option RxTransfer :=
  (canardRxAccept w.bus.canard
    { frame with extendedCanId := frame.extendedCanId &&& 0x1FFFFFFF } 0).2.2

/-- The transfer that an act takes over, with its buffer. -/
def takenOver (w : World) (a : Act) (w' : World) : List RxTransfer :=
  match a with
  | .receive frame _ _ => if w'.fault.isSome then [] else (handedOver w frame).toList
  | _ => []

/-- The buffers of handlers that have called the application, and wait for it to return. -/
def held (stack : List Activation) : List Buffer :=
  stack.flatMap fun
    | .user _ payload => payload.toList
    | _ => []

/-- A first `wlmio_init` has returned 0, and there were no payload buffers before. -/
def StartedClean (w : World) : Prop :=
  ∃ memory os, memory.live = [] ∧ memory.freed = [] ∧
    wlmioInit (World.boot memory) os = .ok (w, 0)

/-- The buffers that are live are those of the sessions, and those of the handlers that have not
returned. What has been handed over to others has been freed, and nothing has been freed twice. -/
structure PayloadsReleased (transfers : List RxTransfer) (w : World) : Prop where
  live : ∀ b, b ∈ w.bus.canard.memory.live ↔ b ∈ w.bus.canard.owned ∨ b ∈ held w.stack
  freed : ∀ x ∈ transfers, ∀ b ∈ x.2, b ∉ held w.stack → w.bus.canard.memory.freed.count b = 1
  once : w.bus.canard.memory.freed.Nodup

/-! ## The books -/

/-- The buffers that came with an empty payload. -/
def lost (transfers : List RxTransfer) : List Buffer :=
  transfers.flatMap fun x => if x.1.payload = [] then x.2.toList else []

/-- **Every buffer is accounted for**: a session has it or a handler has it, it has been freed, or it
came with an empty payload. -/
structure Books (transfers : List RxTransfer) (w : World) : Prop where
  accounts : w.bus.canard.memory.Accounts (w.bus.canard.owned ++ (held w.stack ++ lost transfers))
  gone : ∀ x ∈ transfers, ∀ b ∈ x.2, x.1.payload ≠ [] →
    b ∈ w.bus.canard.memory.freed ∨ b ∈ held w.stack
  buffered : ∀ x ∈ transfers, x.2.isSome
  roomy : ∀ k, Roomy (w.bus.canard.rxSubscriptions k)

/-- The receiving side and the handlers' buffers are the same. -/
structure SameBuffers (w w' : World) : Prop where
  memory : w'.bus.canard.memory = w.bus.canard.memory
  subscriptions : w'.bus.canard.rxSubscriptions = w.bus.canard.rxSubscriptions
  held : held w'.stack = held w.stack

section

variable {w w' w₁ w₂ w₃ : World} {transfers : List RxTransfer}

theorem SameBuffers.trans (h : SameBuffers w₁ w₂) (h' : SameBuffers w₂ w₃) : SameBuffers w₁ w₃ :=
  ⟨h'.memory.trans h.memory, h'.subscriptions.trans h.subscriptions, h'.held.trans h.held⟩

theorem SameBuffers.owned (h : SameBuffers w w') : w'.bus.canard.owned = w.bus.canard.owned := by
  unfold CanardInstance.owned
  rw [h.subscriptions]

theorem SameCalls.buffers (h : SameCalls w w') : SameBuffers w w' :=
  ⟨by rw [h.bus], by rw [h.bus], by rw [h.stack]⟩

theorem Books.same (h : Books transfers w) (hsame : SameBuffers w w') : Books transfers w' := by
  refine ⟨?_, ?_, h.buffered, ?_⟩
  · rw [hsame.owned, hsame.held, hsame.memory]
    exact h.accounts
  · rw [hsame.held, hsame.memory]
    exact h.gone
  · rw [hsame.subscriptions]
    exact h.roomy

end

/-! ## Requests -/

theorem uavcanSend_rx (b : Bus) (sends : Nat) :
    (b.uavcanSend sends).canard.memory = b.canard.memory ∧
      (b.uavcanSend sends).canard.rxSubscriptions = b.canard.rxSubscriptions := by
  induction sends generalizing b with
  | zero => exact ⟨rfl, rfl⟩
  | succ n ih =>
      unfold Bus.uavcanSend
      split
      · exact ⟨rfl, rfl⟩
      · exact ih _

theorem submit_buffers {w w' : World} {service : Service} {nodeId : Nat} {payload : List Byte}
    {param : Param} {callback : Option Callback} {os : Os}
    (h : submit w service nodeId payload param callback os = .ok w') : SameBuffers w w' := by
  have hstack := (submit_control h).stack
  have hsend := uavcanSend_rx (w.bus.pushRequest w.registry.head service
    (requestTransfer w.bus service nodeId payload) os.txRoom) os.sends
  have hpush := canardTxPush_rx w.bus.canard (requestTransfer w.bus service nodeId payload) os.txRoom
  have hbus : w'.bus = busAfter w service nodeId payload os := by
    obtain ⟨cb, _, ⟨_, rfl⟩ | ⟨_, rfl⟩⟩ := submit_cases h
    · rfl
    · rfl
  refine ⟨?_, ?_, by rw [hstack]⟩
  · rw [hbus]
    exact hsend.1.trans hpush.1
  · rw [hbus]
    exact hsend.2.trans hpush.2

theorem made_buffers {w w' : World} {c : Option Caller} {r : Int} (h : Made w c w' r) :
    SameBuffers w w' := by
  have hadd : ∀ t, SameBuffers w (addRecord w t) := fun _ => ⟨rfl, rfl, rfl⟩
  cases h with
  | refused _ => exact ⟨rfl, rfl, rfl⟩
  | withdrawn t _ hfree =>
      rw [(freeRecord_cases hfree).2]
      exact ⟨rfl, rfl, rfl⟩
  | direct _ _ _ _ _ hs => exact submit_buffers hs
  | held _ _ _ _ _ hs => exact (hadd _).trans (submit_buffers hs)
  | counted _ _ _ _ _ h₁ h₂ h₃ =>
      exact (((hadd _).trans (submit_buffers h₁)).trans (submit_buffers h₂)).trans
        (submit_buffers h₃)

/-! ## Handlers -/

theorem reportStatus_calls {w w' : World} {node : Nat} {old : WlmioStatus} {rest : Option Rest}
    (h : reportStatus w node old = (w', rest)) : SameCalls w w' := by
  rcases reportStatus_cases h with ⟨_, rfl, _⟩ | ⟨_, rfl, _⟩
  · exact ⟨rfl, rfl, rfl, rfl, rfl⟩
  · exact ⟨rfl, rfl, rfl, rfl, rfl⟩

theorem dispatch_calls {w w' : World} {tfr : CanardTransfer} {pick : Int} {malloc : Bool}
    {rest : Option Rest} (h : dispatch w tfr pick malloc = .ok (w', rest)) : SameCalls w w' := by
  rcases dispatch_cases h with ⟨rfl, _⟩ | ⟨r, old, _, ⟨_, rfl, _⟩ | ⟨o, _, hrep⟩⟩ | ⟨_, hr⟩
  · exact ⟨rfl, rfl, rfl, rfl, rfl⟩
  · exact ⟨rfl, rfl, rfl, rfl, rfl⟩
  · have hreg : SameCalls w { w with registry := r } := ⟨rfl, rfl, rfl, rfl, rfl⟩
    exact hreg.trans (reportStatus_calls hrep)
  · exact responded_calls hr

theorem canSocketHandler_fault {w w' : World} {frame : CanardFrame} {pick : Int} {malloc : Bool}
    (h : canSocketHandler w frame pick malloc = .ok w') : w'.fault = w.fault := by
  unfold canSocketHandler handleTransfer at h
  dsimp only at h
  split at h
  · rw [← Except.ok.inj h]
  · obtain ⟨⟨w₁, rest⟩, hdispatch, h⟩ := Fallible.bind_eq_ok.mp h
    rw [← Except.ok.inj h]
    exact (resume_frame w₁ rest _).fault.trans (dispatch_calls hdispatch).fault

/-- A handler without a payload to free. -/
theorem resume_buffers (w : World) (rest : Option Rest) : SameBuffers w (resume w rest none) := by
  cases rest with
  | none => exact ⟨rfl, rfl, rfl⟩
  | some r => exact ⟨rfl, rfl, rfl⟩

/-- **A buffer that a handler has is freed, now or when the application has returned.** -/
theorem resume_accounts {w : World} (rest : Option Rest) {payload : Option Buffer}
    (others : List Buffer) (h : w.bus.canard.memory.Accounts
      (w.bus.canard.owned ++ (payload.toList ++ (held w.stack ++ others)))) :
    (resume w rest payload).bus.canard.memory.Accounts
        ((resume w rest payload).bus.canard.owned ++
          (held (resume w rest payload).stack ++ others)) ∧
      ∀ b ∈ payload, b ∈ (resume w rest payload).bus.canard.memory.freed ∨
        b ∈ held (resume w rest payload).stack := by
  cases rest with
  | some r =>
      refine ⟨?_, fun b hb => .inr ?_⟩
      · rw [← List.append_assoc payload.toList] at h
        exact h
      · exact List.mem_append_left _ (Option.mem_toList.mpr hb)
  | none =>
      refine ⟨?_, fun b hb => .inl ?_⟩
      · exact (free_moves w.bus.canard.memory payload).accounts _
          (h.perm (List.perm_append_comm_assoc _ _ _))
      · cases payload with
        | none => cases hb
        | some c =>
            obtain rfl := Option.some.inj hb
            exact List.mem_append_right _ (List.mem_singleton_self c)

theorem resume_gone {w : World} {b : Buffer} (rest : Option Rest) (payload : Option Buffer)
    (h : b ∈ w.bus.canard.memory.freed ∨ b ∈ held w.stack) :
    b ∈ (resume w rest payload).bus.canard.memory.freed ∨ b ∈ held (resume w rest payload).stack := by
  cases rest with
  | some r => exact h.imp_right (List.mem_append_right _)
  | none => exact h.imp_left ((free_moves w.bus.canard.memory payload).freed b)

theorem resume_subscriptions (w : World) (rest : Option Rest) (payload : Option Buffer) :
    (resume w rest payload).bus.canard.rxSubscriptions = w.bus.canard.rxSubscriptions := by
  cases rest with
  | none => rfl
  | some r => rfl

/-! ## Runs -/

theorem held_user (rest : Rest) (payload : Option Buffer) (stack : List Activation) :
    held (.user rest payload :: stack) = payload.toList ++ held stack := rfl

theorem lost_append (transfers : List RxTransfer) (x : RxTransfer) :
    lost (transfers ++ [x]) = lost transfers ++ if x.1.payload = [] then x.2.toList else [] := by
  unfold lost
  rw [List.flatMap_append, List.flatMap_singleton]

/-- What `handle_transfer` does not free is lost. -/
theorem split_buffer (tfr : CanardTransfer) (buffer : Option Buffer) :
    buffer.toList = (if 0 < tfr.payload.length then buffer else none).toList ++
      if tfr.payload = [] then buffer.toList else [] := by
  by_cases hempty : tfr.payload = []
  · rw [hempty]
    rfl
  · rw [if_pos (List.length_pos_iff.mpr hempty), if_neg hempty, List.append_nil]

/-- The books after `canardRxAccept`, when the transfer it has handed over is not dealt with yet. -/
theorem Books.accept {transfers : List RxTransfer} {w : World} {frame : CanardFrame} {index : Nat}
    {canard : CanardInstance} {out : Int} {transfer : Option RxTransfer} (h : Books transfers w)
    (hacc : canardRxAccept w.bus.canard frame index = (canard, out, transfer)) :
    canard.memory.Accounts
        (canard.owned ++ (passed transfer ++ (held w.stack ++ lost transfers))) ∧
      (∀ x ∈ transfers, ∀ b ∈ x.2, x.1.payload ≠ [] →
        b ∈ canard.memory.freed ∨ b ∈ held w.stack) ∧
      Buffered transfer ∧ ∀ k, Roomy (canard.rxSubscriptions k) := by
  have hmoves := canardRxAccept_moves hacc
  obtain ⟨hroomy, hbuffered⟩ := canardRxAccept_buffered h.roomy hacc
  refine ⟨?_, ?_, hbuffered, hroomy⟩
  · have := hmoves.accounts _ h.accounts
    rwa [List.append_assoc] at this
  · intro x hx b hb hne
    exact (h.gone x hx b hb hne).imp_left (hmoves.freed b)

/-- **A frame**: the transfer it completes, if any, goes through `dispatch`. -/
theorem Books.receive {transfers : List RxTransfer} {w w' : World} {frame : CanardFrame} {pick : Int}
    {malloc : Bool} (h : Books transfers w)
    (hok : canSocketHandler w frame pick malloc = .ok w') :
    Books (transfers ++ (handedOver w frame).toList) w' := by
  unfold handedOver
  unfold canSocketHandler at hok
  dsimp only at hok
  rcases hacc : canardRxAccept w.bus.canard
    { frame with extendedCanId := frame.extendedCanId &&& 0x1FFFFFFF } 0 with ⟨canard, out, transfer⟩
  obtain ⟨haccounts, hgone, hbuffered, hroomy⟩ := h.accept hacc
  rw [hacc] at hok
  cases transfer with
  | none =>
      obtain rfl := Except.ok.inj hok
      rw [Option.toList_none, List.append_nil]
      exact ⟨haccounts, hgone, h.buffered, hroomy⟩
  | some x =>
      obtain ⟨tfr, buffer⟩ := x
      unfold handleTransfer at hok
      obtain ⟨⟨w₁, rest⟩, hdispatch, hok⟩ := Fallible.bind_eq_ok.mp hok
      have hcalls : SameCalls (withCanard w canard) w₁ := dispatch_calls hdispatch
      have hcanard : w₁.bus.canard = canard := by rw [hcalls.bus]; rfl
      have hheld : held w₁.stack = held w.stack := by rw [hcalls.stack]; rfl
      rw [← Except.ok.inj hok]
      rw [show passed (some (tfr, buffer)) = buffer.toList from rfl, split_buffer tfr buffer,
        ← hcanard, ← hheld] at haccounts
      obtain ⟨hacc', hfreed⟩ := resume_accounts rest
        (lost (transfers ++ [(tfr, buffer)])) (haccounts.perm (by
          rw [lost_append, List.append_assoc]
          refine .append_left _ (.append_left _ ?_)
          rw [← List.append_assoc (held w₁.stack)]
          exact List.perm_append_comm))
      refine ⟨hacc', ?_, ?_, ?_⟩
      · intro x hx b hb hne
        rcases List.mem_append.mp hx with hx | hx
        · refine resume_gone rest _ ?_
          rw [hcanard, hheld]
          exact hgone x hx b hb hne
        · obtain rfl := List.mem_singleton.mp hx
          refine hfreed b ?_
          rw [if_pos (List.length_pos_iff.mpr hne)]
          exact hb
      · intro x hx
        rcases List.mem_append.mp hx with hx | hx
        · exact h.buffered x hx
        · obtain rfl := List.mem_singleton.mp hx
          exact hbuffered tfr buffer rfl
      · rw [resume_subscriptions, hcanard]
        exact hroomy

/-- The application returns to a handler that has a payload to free. -/
theorem Books.ret {transfers : List RxTransfer} {w w₁ : World} {rest : Rest}
    {payload : Option Buffer} {stack : List Activation} (h : Books transfers w)
    (hstack : w.stack = .user rest payload :: stack)
    (hsame : SameCalls { w with stack := stack } w₁) : Books transfers (freePayload w₁ payload) := by
  have hbus : w₁.bus = w.bus := hsame.bus
  have hstack₁ : w₁.stack = stack := hsame.stack
  have haccounts := h.accounts
  rw [hstack, held_user, List.append_assoc, ← hbus, ← hstack₁] at haccounts
  obtain ⟨hacc, hfreed⟩ := resume_accounts none _ haccounts
  refine ⟨hacc, ?_, h.buffered, ?_⟩
  · intro x hx b hb hne
    rcases h.gone x hx b hb hne with hf | hheld
    · exact resume_gone none payload (.inl (hbus ▸ hf))
    · rw [hstack, held_user] at hheld
      rcases List.mem_append.mp hheld with hp | hs
      · exact hfreed b (Option.mem_toList.mp hp)
      · exact .inr (hstack₁ ▸ hs)
  · show ∀ k, Roomy (w₁.bus.canard.rxSubscriptions k)
    rw [hbus]
    exact h.roomy

theorem Books.did {transfers : List RxTransfer} {w w' : World} {a : Act} (h : Books transfers w)
    (hframe : ∀ frame pick malloc, a ≠ .receive frame pick malloc) (hdid : Did w a w') :
    Books transfers w' := by
  cases hdid with
  | request _ hm => exact h.same (made_buffers hm)
  | syncRefused _ _ hm =>
      have hmade := made_buffers hm
      exact h.same ⟨hmade.memory, hmade.subscriptions, hmade.held⟩
  | syncEntered _ hm =>
      have hmade := made_buffers hm
      exact h.same ⟨hmade.memory, hmade.subscriptions, hmade.held⟩
  | setTimeout _ => exact h.same ⟨rfl, rfl, rfl⟩
  | setStatusCallback _ => exact h.same ⟨rfl, rfl, rfl⟩
  | tick _ => exact h.same ⟨rfl, rfl, rfl⟩
  | taskExpired _ _ _ _ _ _ hc =>
      exact h.same ((complete_calls hc).buffers.trans (resume_buffers _ _))
  | @nodeExpired _ _ _ _ _ w₁ rest _ _ _ _ _ _ hrep =>
      have hreport := (reportStatus_calls hrep).buffers.trans (resume_buffers w₁ rest)
      exact h.same ⟨hreport.memory, hreport.subscriptions, hreport.held⟩
  | collected _ _ => exact absurd rfl (hframe _ _ _)
  | ignored _ _ => exact absurd rfl (hframe _ _ _)
  | beat _ _ _ _ => exact absurd rfl (hframe _ _ _)
  | response _ _ _ _ _ _ => exact absurd rfl (hframe _ _ _)
  | @idle sends stack hstack =>
      have hsend := uavcanSend_rx w.bus sends
      exact h.same ⟨hsend.1, hsend.2, by rw [hstack]; rfl⟩
  | syncReturned hstack _ => exact h.same ⟨rfl, rfl, by rw [hstack]; rfl⟩
  | looped hstack _ => exact h.same ⟨rfl, rfl, rfl⟩
  | completed hstack hfin => exact h.ret hstack (finishCompletion_calls hfin)
  | reported hstack => exact h.ret hstack ⟨rfl, rfl, rfl, rfl, rfl⟩

/-- **One step keeps the books.** -/
theorem Books.step {transfers : List RxTransfer} {w w' : World} {a : Act} (h : Books transfers w)
    (hs : step w a = some w') : Books (transfers ++ takenOver w a w') w' := by
  have hfaulty : ∀ f, Books (transfers ++ []) { w with fault := some f } := by
    intro f
    rw [List.append_nil]
    exact h.same ⟨rfl, rfl, rfl⟩
  by_cases hframe : ∃ frame pick malloc, a = .receive frame pick malloc
  · obtain ⟨frame, pick, malloc, rfl⟩ := hframe
    obtain ⟨hfault, rfl⟩ := receive_handled hs
    cases hok : canSocketHandler w frame pick malloc with
    | error f => exact hfaulty f
    | ok w' =>
        have hnone : w'.fault = none := (canSocketHandler_fault hok).trans hfault
        rw [show takenOver w (.receive frame pick malloc) (settle w (.ok w')) =
          (handedOver w frame).toList by simp [takenOver, settle, hnone]]
        exact h.receive hok
  · have hnothing : takenOver w a w' = [] := by
      unfold takenOver
      split
      · exact absurd ⟨_, _, _, rfl⟩ hframe
      · rfl
    rw [hnothing]
    obtain ⟨_, hdid | ⟨f, _, rfl⟩⟩ := step_cases hs
    · rw [List.append_nil]
      exact h.did (fun frame pick malloc heq => hframe ⟨frame, pick, malloc, heq⟩) hdid
    · exact hfaulty f

/-! ## The beginning -/

theorem owned_unused {sub : CanardRxSubscription} (h : sub.sessions = fun _ => none) :
    sub.owned = [] := by
  unfold CanardRxSubscription.owned CanardRxSubscription.bufferOf
  rw [h]
  exact List.filterMap_eq_nil_iff.mpr (fun _ _ => rfl)

/-- Right after `wlmio_init` no session exists, and every subscription takes some payload. -/
theorem reinstated_buffers (memory : Memory) (nodeId : BitVec 7) :
    (reinstated memory nodeId).memory = memory ∧ (reinstated memory nodeId).owned = [] ∧
      ∀ k, Roomy ((reinstated memory nodeId).rxSubscriptions k) := by
  -- each subscription is to a port of its own, so none takes the place of another
  have hunused : ∀ k, ∀ sub ∈ (reinstated memory nodeId).rxSubscriptions k,
      0 < sub.extent ∧ sub.sessions = fun _ => none := by
    intro k
    cases k with
    | message => simp [reinstated, subscribe, canardRxSubscribe, canardRxUnsubscribe, canardInit]
    | response => simp [reinstated, subscribe, canardRxSubscribe, canardRxUnsubscribe, canardInit]
    | request => simp [reinstated, subscribe, canardRxSubscribe, canardRxUnsubscribe, canardInit]
  have hnone : ∀ k, ownedBy ((reinstated memory nodeId).rxSubscriptions k) = [] :=
    fun k => List.flatMap_eq_nil_iff.mpr (fun sub hsub => owned_unused (hunused k sub hsub).2)
  refine ⟨rfl, ?_, fun k sub hsub => (hunused k sub hsub).1⟩
  unfold CanardInstance.owned
  rw [hnone, hnone, hnone]
  rfl

theorem books_started {w : World} (h : StartedClean w) : Books [] w := by
  obtain ⟨memory, os, hlive, hfreed, hinit⟩ := h
  obtain ⟨nodeId, epollfd, canSock, _, _, _, rfl⟩ := wlmioInit_cases hinit
  obtain ⟨hmem, howned, hroomy⟩ := reinstated_buffers memory nodeId
  refine ⟨?_, ?_, ?_, hroomy⟩
  · show (reinstated memory nodeId).memory.Accounts ((reinstated memory nodeId).owned ++ ([] ++ []))
    rw [hmem, howned]
    refine ⟨?_, ?_⟩
    · rw [hlive, hfreed]
      exact Ownership.accounted_nil
    · rw [hlive, hfreed]
      intro b hb
      cases hb
  · intro x hx
    cases hx
  · intro x hx
    cases hx

/-! ## What is released -/

/-- In every run the books are in order. -/
theorem books_run {transfers : List RxTransfer} {w : World}
    (h : Transition.Observes step takenOver Transition.free StartedClean transfers w) :
    Books transfers w := by
  induction h with
  | init h => exact books_started h
  | step _ _ hs ih => exact ih.step hs

/-- What is lost is live, and nobody has it. -/
theorem Books.lost_live {transfers : List RxTransfer} {w : World} (h : Books transfers w)
    {b : Buffer} (hb : b ∈ lost transfers) : b ∈ w.bus.canard.memory.live ∧
      b ∉ w.bus.canard.owned ∧ b ∉ held w.stack := by
  have hnodup := h.accounts.accounted.nodup
  obtain ⟨_, hrest, hdisjoint⟩ := List.nodup_append.mp hnodup
  refine ⟨h.accounts.accounted.mem_live.mpr ?_, ?_, ?_⟩
  · exact List.mem_append_right _ (List.mem_append_right _ hb)
  · intro howned
    exact hdisjoint b howned b (List.mem_append_right _ hb) rfl
  · intro hheld
    exact (List.nodup_append.mp hrest).2.2 b hheld b hb rfl

theorem lost_eq_nil {transfers : List RxTransfer} (h : ∀ x ∈ transfers, x.1.payload ≠ []) :
    lost transfers = [] :=
  List.flatMap_eq_nil_iff.mpr (fun x hx => if_neg (h x hx))

theorem Books.released {transfers : List RxTransfer} {w : World} (h : Books transfers w)
    (hpayload : ∀ x ∈ transfers, x.1.payload ≠ []) : PayloadsReleased transfers w := by
  have haccounted := h.accounts.accounted
  rw [lost_eq_nil hpayload, List.append_nil] at haccounted
  refine ⟨?_, ?_, haccounted.freed_nodup⟩
  · intro b
    rw [haccounted.mem_live, List.mem_append]
  · intro x hx b hb hheld
    have hfreed := (h.gone x hx b hb (hpayload x hx)).resolve_right hheld
    exact List.count_eq_one_of_mem haccounted.freed_nodup hfreed

/-- **The payload buffers are released in a run, each exactly once, if and only if every transfer
that has been completed in it has a payload.** -/
theorem payloads_released_iff {transfers : List RxTransfer} {w : World}
    (h : Transition.Observes step takenOver Transition.free StartedClean transfers w) :
    PayloadsReleased transfers w ↔ ∀ x ∈ transfers, x.1.payload ≠ [] := by
  have hbooks := books_run h
  refine ⟨fun hreleased x hx hempty => ?_, hbooks.released⟩
  obtain ⟨b, hb⟩ := Option.isSome_iff_exists.mp (hbooks.buffered x hx)
  have hlost : b ∈ lost transfers := by
    refine List.mem_flatMap.mpr ⟨x, hx, ?_⟩
    rw [if_pos hempty, hb]
    exact List.mem_singleton_self b
  obtain ⟨hlive, howned, hheld⟩ := hbooks.lost_live hlost
  exact ((hreleased.live b).mp hlive).elim howned hheld

/-- A tick is waiting for an event. -/
def ticking : World := { started with stack := [.tick] }

theorem startedClean_started : StartedClean started := ⟨ampleMemory, bootOs, rfl, rfl, rfl⟩

/-- A run in which this frame is the first thing that happens. -/
theorem observes_first (frame : CanardFrame) (p : World → Bool)
    (h : (step ticking (.receive frame 5 true)).any p = true) :
    ∃ w, Transition.Observes step takenOver Transition.free StartedClean
        (takenOver ticking (.receive frame 5 true) w) w ∧ p w = true := by
  obtain ⟨w, hs, hw⟩ := (Option.any_eq_true p _).mp h
  have htick : Transition.Observes step takenOver Transition.free StartedClean [] ticking :=
    .step (a := Act.tick) (.init startedClean_started) trivial rfl
  exact ⟨w, .step htick trivial hs, hw⟩

/-- A heartbeat is released. -/
theorem payloads_released_heartbeat : ∃ transfers w,
    Transition.Observes step takenOver Transition.free StartedClean transfers w ∧
      transfers.length = 1 ∧ PayloadsReleased transfers w := by
  obtain ⟨w, h, hw⟩ := observes_first (heartbeatFrame 3 0)
    (fun w => decide ((takenOver ticking (.receive (heartbeatFrame 3 0) 5 true) w).map
      (fun x => x.1.payload) = [List.replicate 7 0#8])) (by decide +kernel)
  have hmap := of_decide_eq_true hw
  refine ⟨_, w, h, ?_, (payloads_released_iff h).mpr (fun x hx => ?_)⟩
  · rw [← List.length_map, hmap]
    rfl
  · have hmem := List.mem_map_of_mem (f := fun x : RxTransfer => x.1.payload) hx
    rw [hmap] at hmem
    rw [List.mem_singleton.mp hmem]
    simp

/-- A response that consists of a tail byte only is not: its buffer stays live for good. -/
theorem payload_lost : ¬ ∀ transfers w,
    Transition.Observes step takenOver Transition.free StartedClean transfers w →
      PayloadsReleased transfers w := by
  intro hall
  obtain ⟨w, h, hw⟩ := observes_first (responseFrame .executeCommand 3 0 [])
    (fun w => decide (1 ∈ w.bus.canard.memory.live ∧ 1 ∉ w.bus.canard.owned ∧ w.stack = [.tick]))
    (by decide +kernel)
  obtain ⟨hlive, howned, hstack⟩ := of_decide_eq_true hw
  have hheld : 1 ∉ held w.stack := by
    rw [hstack]
    exact List.not_mem_nil
  exact (((hall _ w h).live 1).mp hlive).elim howned hheld

end Wlmio.Proof
