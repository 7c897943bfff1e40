import Wlmio.Proof.Arguments
import Wlmio.Proof.Faults

/-!
# Callbacks that are there

Not all of the twenty-one functions look at the callback. Where one is missing the assertion
of `async_add` fails, or the callback of a record calls `NULL` later on. In runs where a
request without a callback is refused by some check, every task that is pending has somebody
to call (`arguments_checked`).
-/

namespace Wlmio.Proof

open Wlmio.Client Wlmio.Canard Fallible

/-! ## Callbacks that are there -/

/-- Without a callback a request is made only if it is refused. -/
def Addressed (_ : World) : Act → Prop
  | .request q none os => (Rejects none q ∨ NoMemory os q) ∨ Unreachable q
  | _ => True

/-- No record of `io.c` has lost its caller. -/
def Answerable (w : World) : Prop := ∀ u ∈ w.records, u.2.callback ≠ none

section

variable {w w' : World}

theorem Answerable.congr (h : Answerable w) (hrec : w'.records = w.records) : Answerable w' := by
  unfold Answerable
  rw [hrec]
  exact h

theorem Answerable.filter (h : Answerable w) {p : Nat × IoRecord → Bool}
    (hrec : w'.records = w.records.filter p) : Answerable w' := by
  intro u hu
  rw [hrec] at hu
  exact h u (List.mem_filter.mp hu).1

theorem Answerable.addRecord (h : Answerable w) {t : IoRecord} (ht : t.callback ≠ none) :
    Answerable (addRecord w t) := by
  intro u hu
  rcases List.mem_append.mp hu with hu | hu
  · exact h u hu
  · rw [List.mem_singleton.mp hu]
    exact ht

theorem Answerable.setRecord (h : Answerable w) {p : Nat} {u u' : IoRecord}
    (hu : recordAt w p = some u) (hc : u'.callback = u.callback) :
    Answerable (setRecord w p u') := by
  intro v hv
  obtain ⟨v₀, hv₀, heq⟩ := List.mem_map.mp hv
  split at heq
  · subst heq
    exact hc ▸ h _ (recordAt_mem hu)
  · subst heq
    exact h v₀ hv₀

/-- A call that has a caller, or is refused, adds no record without one. -/
theorem made_answerable {c : Option Caller} {r : Int} (h : Answerable w) (hm : Made w c w' r)
    (hc : c ≠ none ∨ r < 0) : Answerable w' := by
  cases hm with
  | refused _ => exact h
  | withdrawn t _ hfree =>
      rw [(freeRecord_cases hfree).2]
      intro u hu
      obtain ⟨hum, hne⟩ := List.mem_filter.mp hu
      rcases List.mem_append.mp hum with hold | hnew
      · exact h u hold
      · rw [List.mem_singleton.mp hnew] at hne
        simp at hne
  | direct _ _ _ _ _ hs => exact h.congr (submit_frame hs).1
  | held _ _ _ _ hcall hs =>
      refine (h.addRecord ?_).congr (submit_frame hs).1
      rw [hcall]
      exact hc.resolve_right (by omega)
  | counted _ _ _ _ _ h₁ h₂ h₃ =>
      refine (h.addRecord (t := .configure 0 0 0 c) ?_).congr
        (((submit_frame h₃).1.trans (submit_frame h₂).1).trans (submit_frame h₁).1)
      exact hc.resolve_right (by omega)

theorem calls_answerable {cb : Callback} {user : Bool} {record : Option Nat} (h : Answerable w)
    (hc : Calls w cb w' user record) : Answerable w' := by
  cases hc with
  | caller hcall => exact h.congr (callCaller_records hcall)
  | held _ _ _ _ hw hcall =>
      refine Answerable.congr (w := w) h ?_
      rw [callCaller_records hcall]
      rcases hw with rfl | ⟨_, _, rfl⟩
      · rfl
      · rfl
  | counting hrec _ => exact h.setRecord hrec rfl
  | counted hrec _ hcall =>
      refine Answerable.congr ?_ (callCaller_records hcall)
      exact h.setRecord hrec rfl

theorem complete_answerable {t : TaskEntry} {r : Int} {rest : Option Rest} (h : Answerable w)
    (hc : complete w t r = .ok (w', rest)) : Answerable w' := by
  obtain ⟨w₁, user, record, hcall, hrest⟩ := complete_cases hc
  have h₁ : Answerable w₁ :=
    calls_answerable (w := w.log (.invoked t.addr t.serial r)) (h.congr rfl) hcall
  rcases hrest with ⟨_, _, rfl⟩ | ⟨_, _, hfin⟩
  · exact h₁
  · exact h₁.filter (finishCompletion_lists hfin).2

theorem wrote_answerable {t : TaskEntry} (h : Answerable w) (hw : Wrote w t w') :
    Answerable w' := by
  cases hw with
  | nothing => exact h
  | buffer _ _ => exact h
  | @record p u u' v _ hrec hst =>
      have hc : u'.callback = u.callback := by cases hst <;> rfl
      exact Answerable.setRecord (w := w.log (.wroteRegister t.param v)) h hrec hc

theorem Resumed.answerable {rest : Option Rest} (hr : Resumed w rest w') (h : Answerable w) :
    Answerable w' := h.congr hr.records

theorem reportStatus_answerable {node : Nat} {old : WlmioStatus} {rest : Option Rest}
    (h : Answerable w) (hr : reportStatus w node old = (w', rest)) : Answerable w' := by
  rcases reportStatus_cases hr with ⟨_, rfl, _⟩ | ⟨_, rfl, _⟩
  · exact h.congr rfl
  · exact h

/-- **A request** of the application keeps every record answerable, if it is addressed. -/
theorem request_answerable {q : Request} {callback : Option Nat} {os : Nat → Os} {r : Int}
    (hrecords : RecordsGood w) (hepoll : 0 ≤ w.registry.epollfd) (h : Answerable w)
    (hg : Addressed w (.request q callback os))
    (hcall : q.call w (callback.map .user) os = .ok (w', r)) : Answerable w' := by
  refine made_answerable h (call_made hcall) ?_
  cases callback with
  | some k => exact .inl (by simp)
  | none => exact .inr (((call_verdict hrecords hepoll q none os).sign w' r hcall).mpr hg)

/-- What a request of the application comes to. -/
theorem request_step {q : Request} {callback : Option Nat} {os : Nat → Os}
    (h : step w (.request q callback os) = some w') :
    (∃ r, q.call w (callback.map .user) os = .ok (w', r)) ∨
      ∃ f, w' = { w with fault := some f } := by
  unfold step at h
  split at h
  · simp at h
  obtain ⟨x, hx, rfl⟩ := Option.map_eq_some_iff.mp h
  unfold act at hx
  obtain ⟨_, hx⟩ := Option.ite_none_right_eq_some.mp hx
  obtain rfl := Option.some.inj hx
  cases hcall : q.call w (callback.map .user) os with
  | error f => exact .inr ⟨f, rfl⟩
  | ok x => exact .inl ⟨x.2, rfl⟩

/-- **Every act** but a request keeps them answerable by itself. -/
theorem did_answerable {a : Act} (h : Answerable w) (hd : Did w a w')
    (hreq : ∀ q callback os, a = .request q callback os → Answerable w') : Answerable w' := by
  cases hd with
  | request _ _ => exact hreq _ _ _ rfl
  | syncRefused _ _ hm =>
      exact made_answerable (w := { w with syncFlag := false, nextCall := w.nextCall + 1 })
        (h.congr rfl) hm (.inl (by simp))
  | syncEntered _ hm =>
      exact (made_answerable (w := { w with syncFlag := false, nextCall := w.nextCall + 1 })
        (h.congr rfl) hm (.inl (by simp))).congr rfl
  | setTimeout _ => exact h.congr rfl
  | setStatusCallback _ => exact h.congr rfl
  | tick _ => exact h.congr rfl
  | @taskExpired _ _ w₁ rest _ _ _ _ _ _ _ _ hc =>
      exact (resume_frame w₁ rest none).answerable (complete_answerable h hc)
  | @nodeExpired _ r _ _ _ w₁ rest _ _ _ _ _ _ hrep =>
      have h₀ : Answerable { w with registry := r } := h.congr rfl
      exact (resume_frame w₁ rest none).answerable (reportStatus_answerable h₀ hrep)
  | collected _ _ => exact h.congr rfl
  | ignored _ _ => exact h.congr rfl
  | @beat _ _ _ canard _ w₁ rest _ payload _ _ _ hb =>
      obtain ⟨r, old, _, hrest⟩ := hb
      have h₀ : Answerable { withCanard w canard with registry := r } := h.congr rfl
      rcases hrest with ⟨_, rfl, rfl⟩ | ⟨o, _, hrep⟩
      · exact (resume_frame _ none payload).answerable h₀
      · exact (resume_frame w₁ rest payload).answerable (reportStatus_answerable h₀ hrep)
  | @response _ _ _ canard _ _ tfr w₁ rest _ payload _ _ _ _ _ hr =>
      have h₀ : Answerable (withCanard w canard) := h.congr rfl
      rcases hr with ⟨_, rfl, rfl⟩ | ⟨t, w₂, r, _, hw, hc⟩
      · exact (resume_frame _ none payload).answerable h₀
      · exact (resume_frame w₁ rest payload).answerable
          (complete_answerable (wrote_answerable h₀ hw) hc)
  | idle _ => exact h.congr rfl
  | syncReturned _ _ => exact h.congr rfl
  | looped _ _ => exact h.congr rfl
  | @completed task record payload stack w₁ _ hfin =>
      have h₀ : Answerable { w with stack := stack } := h.congr rfl
      exact (h₀.filter (finishCompletion_lists hfin).2).congr rfl
  | reported _ => exact h.congr rfl

end

/-! ## Runs -/

theorem answerable_reachable {w : World} (h : ReachableBy Addressed w) : Answerable w := by
  refine Transition.Reaches.invariant ?_ ?_ h
  · intro w hw u hu
    rw [(fresh_of_initial hw).records] at hu
    simp at hu
  · intro w a w' hr hg hans hs
    rcases (step_cases hs).2 with hd | ⟨f, _, rfl⟩
    · refine did_answerable hans hd ?_
      rintro q callback os rfl
      rcases request_step hs with ⟨r, hcall⟩ | ⟨f, rfl⟩
      · exact request_answerable (records_reachable hr.free) (epollfd_reachable hr) hans hg hcall
      · exact hans.congr rfl
    · exact hans.congr rfl

/-- Whoever is to be called is there. -/
theorem callCaller_not_null {w : World} {c : Option Caller} (hc : c ≠ none) (r : Int) :
    FailsOnly (· ≠ .nullDereference) (callCaller w c r) := by
  unfold callCaller
  cases c with
  | none => exact absurd rfl hc
  | some d =>
      cases d with
      | user k => exact .ok _
      | sync call => exact .ok _

/-- **A callback calls no `NULL`** if its record is answerable. -/
theorem call_not_null {w : World} (h : Answerable w) (cb : Callback) (r : Int) :
    FailsOnly (· ≠ .nullDereference) (cb.call w r) := by
  have hrecord : ∀ {p u}, recordAt w p = some u → u.callback ≠ none :=
    fun hu => h _ (recordAt_mem hu)
  unfold Callback.call
  cases cb with
  | caller c => exact (callCaller_not_null (by simp) _).bind (fun _ _ => .ok _)
  | read module p =>
      refine FailsOnly.bind ?_ (fun _ _ => .ok _)
      unfold readCallback
      split
      · rename_i hu
        have hc := hrecord hu
        split
        · exact callCaller_not_null hc _
        · split
          · exact .error (by simp)
          · split
            · exact callCaller_not_null hc _
            · exact callCaller_not_null hc _
      · exact .error (by simp)
      · exact .error (by simp)
  | setSampleInterval p =>
      refine FailsOnly.bind ?_ (fun _ _ => .ok _)
      unfold nodeSetSampleIntervalCallback
      split
      · rename_i hu
        have hc := hrecord hu
        split
        · exact callCaller_not_null hc _
        · split
          · exact .error (by simp)
          · exact callCaller_not_null hc _
      · exact .error (by simp)
      · exact .error (by simp)
  | configure p =>
      refine FailsOnly.bind ?_ (fun _ _ => .ok _)
      unfold configureCallback
      split
      · rename_i hu
        dsimp only
        split
        · exact .ok _
        · exact (callCaller_not_null (hrecord hu) _).bind (fun _ _ => .ok _)
      · exact .error (by simp)
      · exact .error (by simp)

theorem releaseRecord_not_null (w : World) (record : Option Nat) :
    FailsOnly (· ≠ .nullDereference) (releaseRecord w record) := by
  cases record with
  | none => exact .ok _
  | some p =>
      show FailsOnly _ (freeRecord w p)
      unfold freeRecord
      split
      · exact .error (by simp)
      · exact .ok _

theorem complete_not_null {w : World} (h : Answerable w) (t : TaskEntry) (r : Int) :
    complete w t r ≠ .error .nullDereference := by
  have hfails : FailsOnly (· ≠ .nullDereference) (complete w t r) := by
    unfold complete
    refine (call_not_null (w := w.log (.invoked t.addr t.serial r)) (h.congr rfl) _ _).bind
      (fun x _ => ?_)
    dsimp only
    split
    · exact .ok _
    · refine FailsOnly.bind ?_ (fun _ _ => .ok _)
      unfold finishCompletion
      refine FailsOnly.bind ?_ (fun v _ => ?_)
      · exact releaseRecord_not_null _ _
      · refine (finishTask_fails v _).mono ?_
        rintro f (rfl | rfl)
        · simp
        · simp
  exact fun heq => hfails _ heq rfl

/-- When a call comes to a clean end: its function refuses it, or its accesses are refused and the
record is given back, or somebody is to be called and the system grants what it asks for. -/
def EndsCleanly (w : World) (q : Request) (c : Option Caller) (os : Nat → Os) : Prop :=
  (Rejects c q ∨ NoMemory os q) ∨
    (RecordMemory os q ∧ (Unreachable q ∨
      (c ≠ none ∧ PayloadMemory os q ∧ Grants w.registry os (requests q))))

/-- **Bad arguments.** In every reachable state, a call of a request function is refused without an
effect or accepted with its tasks exactly when `EndsCleanly`. And in runs in which every request
without a callback is refused, no completion of a pending task calls `NULL`, whatever the response
has written before. -/
theorem arguments_checked (w : World) :
    (Reachable w → ∀ q c os, Clean w (requests q) c (q.call w c os) ↔ EndsCleanly w q c os) ∧
      (ReachableBy Addressed w → ∀ t ∈ w.registry.head, ∀ v, Wrote w t v → ∀ r,
        complete v t r ≠ .error .nullDereference) := by
  refine ⟨?_, ?_⟩
  · intro h q c os
    exact (call_verdict (records_reachable h) (epollfd_reachable h) q c os).clean
  · intro h t _ v hw r
    exact complete_not_null (wrote_answerable (answerable_reachable h) hw) t r

/-- A read of module 6010 without a destination, and one that waits for its reply. -/
theorem arguments_checked_6010 :
    Clean started 1 none ((Request.vpe6010Read 7 none).call started none (grantFrom 5)) ∧
    ∃ w, ReachableBy Addressed w ∧ ∃ t ∈ w.registry.head,
      complete w t (-ETIMEDOUT) ≠ .error .nullDereference := by
  have hrejects : Rejects none (.vpe6010Read 7 none) := .inl rfl
  refine ⟨((arguments_checked _).1 (.init initial_started) _ _ _).mpr (.inl (.inl hrejects)), ?_⟩
  obtain ⟨w, t, hw, ht⟩ : ∃ w t,
      step started (.request (.vpe6010Read 7 (some 0)) (some 0) (grantFrom 5)) = some w ∧
        t ∈ w.registry.head := ⟨_, _, rfl, .head _⟩
  have hg : Addressed started (.request (.vpe6010Read 7 (some 0)) (some 0) (grantFrom 5)) := trivial
  have hr : ReachableBy Addressed w := .step (.init initial_started) hg hw
  exact ⟨w, hr, t, ht, (arguments_checked w).2 hr t ht w .nothing _⟩

/-- **Callbacks that are not checked.** To list a register without a callback fails an assertion,
and a read of module 6010 without one calls `NULL` when it times out. -/
theorem null_callback : Reachable started ∧
    (Request.registerList 7 0 (some 0)).call started none (grantFrom 5) = .error .assertion ∧
    ∃ w, Reachable w ∧ ∃ t ∈ w.registry.head,
      complete w t (-ETIMEDOUT) = .error .nullDereference := by
  refine ⟨.init initial_started, rfl, ?_⟩
  obtain ⟨w, t, hw, ht, hc⟩ : ∃ w t,
      step started (.request (.vpe6010Read 7 (some 0)) none (grantFrom 5)) = some w ∧
        t ∈ w.registry.head ∧ complete w t (-ETIMEDOUT) = .error .nullDereference :=
    ⟨_, _, rfl, .head _, rfl⟩
  exact ⟨w, .step (.init initial_started) trivial hw, t, ht, hc⟩

end Wlmio.Proof
