import Wlmio.Proof.Faults
import Wlmio.Proof.Later

/-!
# Completing a task

A response handler writes to the `param` of the task it has found and completes the task:
the callback is called, and when it has returned the task is unlinked and freed. `Stored`
is the first half and `Completed` is what both leave in the trace. A task whose callback
is a function of the caller completes without a fault (`complete_caller`), and it is gone
when the callback has returned (`complete_leaves`).
-/

namespace Wlmio.Proof

open Wlmio.Client Wlmio.Canard Fallible

/-! ## The trace of a completion -/

/-- What may follow the call of a task's callback: no other callback and no write to a `param`. -/
def Trailing (e : Event) : Prop :=
  (∀ task serial r, e ≠ .invoked task serial r) ∧ ∀ param, ¬ WriteTo param e

/-- One write to `param`, and none if there is no `param`. -/
def WrittenOnce (param : Param) (writes : List Event) : Prop :=
  (param = .null ∧ writes = []) ∨ (param ≠ .null ∧ ∃ e, WriteTo param e ∧ writes = [e])

/-- Between `w` and `w'` the `param` of `t` was written and then its callback was called, each once,
and no other `param` was written and no other task called back. -/
def Completed (t : TaskEntry) (w w' : World) : Prop :=
  ∃ writes r trailing, WrittenOnce t.param writes ∧ (∀ e ∈ trailing, Trailing e) ∧
    w'.trace = trailing ++ .invoked t.addr t.serial r :: (writes ++ w.trace)

/-- The `param` of `t` has been written. -/
structure Stored (w : World) (t : TaskEntry) (w₁ : World) : Prop where
  core : SameCore w w₁
  writes : ∃ writes, WrittenOnce t.param writes ∧ w₁.trace = writes ++ w.trace

theorem trailing_call {e : Event} (h : CallEvent e) : Trailing e := by
  constructor
  · intro task serial r heq
    subst heq
    cases h
  · intro param hw
    cases h <;> cases hw

theorem finishCompletion_trailing {w w' : World} {task : Nat} {record : Option Nat}
    (h : finishCompletion w task record = .ok w') : Adds Trailing w w' := by
  obtain ⟨w₁, hrel, hrest⟩ := finishCompletion_cases h
  have h₁ : Adds Trailing w w₁ := by
    refine hrel.adds.mono ?_
    rintro e ⟨p, rfl⟩
    exact ⟨by simp, fun param hw => by cases hw⟩
  rcases hrest with ⟨_, rfl⟩ | ⟨t', e, _, _, rfl⟩
  · exact h₁
  · refine h₁.trans ⟨[.taskFreed task, .entryFreed t'.timer], rfl, ?_⟩
    intro e he
    rcases List.mem_cons.mp he with rfl | he
    · exact ⟨by simp, fun param hw => by cases hw⟩
    · obtain rfl := List.mem_singleton.mp he
      exact ⟨by simp, fun param hw => by cases hw⟩

/-- **Completion calls the callback of the task once**, and writes to no `param`. -/
theorem complete_invokes {w w' : World} {t : TaskEntry} {r : Int} {rest : Option Rest}
    (h : complete w t r = .ok (w', rest)) :
    ∃ trailing, (∀ e ∈ trailing, Trailing e) ∧
      w'.trace = trailing ++ .invoked t.addr t.serial r :: w.trace := by
  obtain ⟨w₁, user, record, hcall, hrest⟩ := complete_cases h
  have hcalled : Adds Trailing (w.log (.invoked t.addr t.serial r)) w₁ :=
    hcall.adds.mono (fun _ => trailing_call)
  have hall : Adds Trailing (w.log (.invoked t.addr t.serial r)) w' := by
    rcases hrest with ⟨_, _, rfl⟩ | ⟨_, _, hfin⟩
    · exact hcalled
    · exact hcalled.trans (finishCompletion_trailing hfin)
  obtain ⟨trailing, htrace, htrailing⟩ := hall
  exact ⟨trailing, htrailing, htrace⟩

theorem Stored.completed {w w₁ w' : World} {t : TaskEntry} {r : Int} {rest : Option Rest}
    (hs : Stored w t w₁) (h : complete w₁ t r = .ok (w', rest)) : Completed t w w' := by
  obtain ⟨writes, hwritten, hwrites⟩ := hs.writes
  obtain ⟨trailing, htrailing, htrace⟩ := complete_invokes h
  exact ⟨writes, r, trailing, hwritten, htrailing, by rw [htrace, hwrites]⟩

theorem Completed.congr {t : TaskEntry} {w w₁ w' w₁' : World} (h : Completed t w w')
    (hw : w₁.trace = w.trace) (hw' : w₁'.trace = w'.trace) : Completed t w₁ w₁' := by
  obtain ⟨writes, r, trailing, hwritten, htrailing, htrace⟩ := h
  exact ⟨writes, r, trailing, hwritten, htrailing, by rw [hw', hw, htrace]⟩

/-- A write to the `param` of a task. -/
theorem stored_log {w : World} {t : TaskEntry} {e : Event} (he : WriteTo t.param e)
    (hp : t.param ≠ .null) : Stored w t (w.log e) :=
  ⟨SameCore.log w e, [e], .inr ⟨hp, e, he, rfl⟩, rfl⟩

/-- Without a `param` there is nothing to write. -/
theorem stored_null {w : World} {t : TaskEntry} (hp : t.param = .null) : Stored w t w :=
  ⟨SameCore.refl w, [], .inl ⟨hp, rfl⟩, rfl⟩

theorem stored_writeRegr {w w₁ : World} {t : TaskEntry} {regr : WlmioRegisterAccess}
    (h : writeRegr w t.param regr = .ok w₁) : Stored w t w₁ := by
  unfold writeRegr at h
  split at h
  · rename_i hp
    rw [← Except.ok.inj h]
    exact stored_null hp
  · rename_i b hp
    rw [← Except.ok.inj h]
    exact stored_log (.register regr) (by simp [hp])
  · rename_i p hp
    have hs := @stored_log w t _ (.register regr) (by simp [hp])
    have hrecord : ∀ u, Stored w t (setRecord (w.log (.wroteRegister t.param regr)) p u) :=
      fun u => ⟨hs.core.trans (.setRecord _ p u), hs.writes⟩
    unfold storeRegister at h
    split at h
    · rw [← Except.ok.inj h]
      exact hrecord _
    · rw [← Except.ok.inj h]
      exact hrecord _
    · cases h
    · cases h
  · cases h

/-- After a write the response still completes the task it found. -/
theorem asyncComplete_found {w w₁ : World} {t : TaskEntry} {id : Nat}
    (h : w.registry.taskWithId id = some t) (hs : Stored w t w₁) (r : Int) :
    asyncComplete w₁ id r = complete w₁ t r := by
  unfold asyncComplete
  rw [hs.core.registry, h]

/-! ## The end of a task -/

/-- A task whose callback is a function of the caller completes without a fault. -/
theorem complete_caller {w : World} (h : Good w.registry) {t : TaskEntry}
    (ht : t ∈ w.registry.head) {c : Caller} (hc : t.callback = .caller c) (r : Int) :
    ∃ x, complete w t r = .ok x := by
  unfold complete Callback.call
  rw [hc]
  cases c with
  | user k => exact ⟨_, rfl⟩
  | sync call =>
      obtain ⟨w', hw'⟩ := finishTask_ok (w := { w.log (.invoked t.addr t.serial r) with
        syncReturn := r, syncFlag := true }.log (.delivered call r)) h ht
      refine ⟨(w', none), ?_⟩
      unfold finishCompletion
      simp only [callCaller, releaseRecord, bind, Except.bind, Bool.false_eq_true, if_false, hw']

theorem finishCompletion_leaves {w w' : World} {task : Nat} {record : Option Nat}
    (h : finishCompletion w task record = .ok w') :
    ∀ t ∈ w'.registry.head, t.addr ≠ task := by
  obtain ⟨w₁, hrel, ⟨hnil, rfl⟩ | ⟨t, e, ht, _, rfl⟩⟩ := finishCompletion_cases h
  · have hhead : w'.registry.head = [] := by
      rcases hrel with ⟨_, rfl⟩ | ⟨p, _, _, rfl⟩
      · exact hnil
      · exact hnil
    rw [hhead]
    simp
  · intro t' ht'
    rw [← (taskAt_mem ht).2]
    exact (KeyedList.mem_without.mp ht').2

/-- The task is unlinked, or it will be when the application returns. -/
def Leaves (t : TaskEntry) (w : World) (rest : Option Rest) : Prop :=
  (rest = none ∧ ∀ t' ∈ w.registry.head, t'.addr ≠ t.addr) ∨
    ∃ record, rest = some (.completion t.addr record) ∧ ∀ w₁ w₂,
      finishRest w₁ (.completion t.addr record) = .ok w₂ →
        ∀ t' ∈ w₂.registry.head, t'.addr ≠ t.addr

/-- **A completed task is gone when its callback has returned.** -/
theorem complete_leaves {w w' : World} {t : TaskEntry} {r : Int} {rest : Option Rest}
    (h : complete w t r = .ok (w', rest)) : Leaves t w' rest := by
  obtain ⟨w₁, user, record, _, ⟨_, rfl, rfl⟩ | ⟨_, rfl, hfin⟩⟩ := complete_cases h
  · exact .inr ⟨record, rfl, fun _ _ hrest => finishCompletion_leaves hrest⟩
  · exact .inl ⟨rfl, finishCompletion_leaves hfin⟩

end Wlmio.Proof
