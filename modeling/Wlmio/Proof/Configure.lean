import Mathlib.Data.List.Perm.Subperm
import Wlmio.Proof.Later
import Wlmio.Proof.Scenario

/-!
# Configurations of three registers

A configuration of module 6060 or 6080 makes three requests that share a record, in which
their callback counts the results and keeps the first that is negative. The caller hears of
it once, with the third result, and the record is freed when the caller's function has
returned (`configure_reports_once`), whatever else happens on the bus in the meantime and in
whichever order the three requests complete.
-/

namespace Wlmio.Proof

open Wlmio.Client Wlmio.Canard

/-! ## What a history says about a configuration -/

/-- The request is one of three, counted from `n`. -/
def OneOf (n serial : Nat) : Prop := n ≤ serial ∧ serial < n + 3

instance (n serial : Nat) : Decidable (OneOf n serial) := inferInstanceAs (Decidable (_ ∧ _))

/-- One of the three requests is completed. -/
def completionOf (n : Nat) : Event → Option (Nat × Int)
  | .invoked _ serial r => if OneOf n serial then some (serial, r) else none
  | _ => none

/-- Those that are completed, in this order, with their results. -/
def completed (n : Nat) (events : List Event) : List (Nat × Int) :=
  events.reverse.filterMap (completionOf n)

/-- The function of a caller is called. -/
def replyOf : Event → Option (Caller × Int)
  | .called k r => some (.user k, r)
  | .delivered call r => some (.sync call, r)
  | _ => none

/-- The calls of callers' functions that the completed of the three requests make: each comes
right after its completion. -/
def replies (n : Nat) : List Event → List (Caller × Int)
  | [] => []
  | e :: events =>
    (if (events.head?.bind (completionOf n)).isSome then (replyOf e).toList else []) ++
      replies n events

/-- 0, or the first result that is negative. -/
def firstNegative (results : List Int) : Int := (results.find? (fun r => decide (r < 0))).getD 0

/-- The last event is not one of the completed. -/
def Rested (n : Nat) (events : List Event) : Prop := events.head?.bind (completionOf n) = none

/-- The event is not about the three requests nor about the record. -/
def Elsewhere (n p : Nat) (e : Event) : Prop := completionOf n e = none ∧ e ≠ .recordFreed p

section

variable {n p : Nat} {new events : List Event}

theorem completed_append (new events : List Event) :
    completed n (new ++ events) = completed n events ++ completed n new := by
  unfold completed
  rw [List.reverse_append, List.filterMap_append]

theorem completed_without (h : ∀ e ∈ new, completionOf n e = none) :
    completed n (new ++ events) = completed n events := by
  rw [completed_append]
  have hnone : completed n new = [] :=
    List.filterMap_eq_nil_iff.mpr (fun e he => h e (List.mem_reverse.mp he))
  rw [hnone, List.append_nil]

theorem rested_append (h : ∀ e ∈ new, completionOf n e = none) (hr : Rested n events) :
    Rested n (new ++ events) := by
  cases new with
  | nil => exact hr
  | cons e new => exact h e (List.mem_cons_self ..)

/-- Nobody is called but by a completion. -/
theorem replies_without (h : ∀ e ∈ new, completionOf n e = none) (hr : Rested n events) :
    replies n (new ++ events) = replies n events := by
  induction new with
  | nil => rfl
  | cons e new ih =>
      have hnew : ∀ e ∈ new, completionOf n e = none := fun e he => h e (List.mem_cons_of_mem _ he)
      have hrest : Rested n (new ++ events) := rested_append hnew hr
      rw [List.cons_append, replies, hrest, ih hnew]
      rfl

theorem count_elsewhere (h : ∀ e ∈ new, Elsewhere n p e) :
    (new ++ events).count (.recordFreed p) = events.count (.recordFreed p) := by
  have hnone : new.count (.recordFreed p) = 0 :=
    List.count_eq_zero.mpr (fun hmem => (h _ hmem).2 rfl)
  rw [List.count_append, hnone, Nat.zero_add]

theorem firstNegative_append (results : List Int) (r : Int) :
    firstNegative (results ++ [r]) =
      if r < 0 ∧ 0 ≤ firstNegative results then r else firstNegative results := by
  unfold firstNegative
  rw [List.find?_append]
  cases hfind : results.find? (fun r => decide (r < 0)) with
  | none =>
      by_cases hr : r < 0
      · simp [hr]
      · simp [hr]
  | some x =>
      have hx : x < 0 := by simpa using List.find?_some hfind
      have hno : ¬ (r < 0 ∧ 0 ≤ x) := by omega
      simp [hno]

/-- There are three requests and no more. -/
theorem length_serials {l : List Nat} (hnodup : l.Nodup) (h : ∀ s ∈ l, OneOf n s) :
    l.length ≤ 3 := by
  have hsub : l ⊆ [n, n + 1, n + 2] := by
    intro s hs
    obtain ⟨hge, hlt⟩ := h s hs
    simp only [List.mem_cons, List.not_mem_nil, or_false]
    omega
  exact (hnodup.subperm hsub).length_le

theorem completed_oneOf {x : Nat × Int} (h : x ∈ completed n events) : OneOf n x.1 := by
  obtain ⟨e, _, he⟩ := List.mem_filterMap.mp h
  cases e with
  | invoked task serial r =>
      obtain ⟨hone, heq⟩ := Option.ite_none_right_eq_some.mp he
      rw [← Option.some.inj heq]
      exact hone
  | _ => cases he

end

/-! ## What happens beside a configuration -/

/-- How many callbacks that have not returned will free the record. -/
def openings (p : Nat) (stack : List Activation) : Nat :=
  stack.countP (fun a => match a with
    | .user (.completion _ (some q)) _ => decide (q = p)
    | _ => false)

/-- The three requests, the record and the release of the record are left alone. -/
structure Beside (n p : Nat) (w w' : World) : Prop where
  new : Adds (Elsewhere n p) w w'
  record : recordAt w' p = recordAt w p
  opened : openings p w'.stack = openings p w.stack

section

variable {w w' w₁ w₂ w₃ : World} {n p : Nat}

theorem Beside.of_eq (ht : w'.trace = w.trace) (hr : w'.records = w.records)
    (hs : w'.stack = w.stack) : Beside n p w w' := by
  refine ⟨.none ht, ?_, by rw [hs]⟩
  unfold recordAt
  rw [hr]

theorem Beside.trans (h : Beside n p w₁ w₂) (h' : Beside n p w₂ w₃) : Beside n p w₁ w₃ :=
  ⟨h.new.trans h'.new, h'.record.trans h.record, h'.opened.trans h.opened⟩

theorem openings_other {rest : Rest} (payload : Option Buffer) (stack : List Activation)
    (h : ∀ task, rest ≠ .completion task (some p)) :
    openings p (.user rest payload :: stack) = openings p stack := by
  refine List.countP_cons_of_neg ?_
  cases rest with
  | status => simp
  | completion task record =>
      cases record with
      | none => simp
      | some q =>
          have hq : q ≠ p := fun heq => h task (by rw [heq])
          simpa using hq

theorem recordAt_addRecord_ne (t : IoRecord) (hp : p ≠ w.nextRecord) :
    recordAt (addRecord w t) p = recordAt w p := by
  unfold recordAt addRecord
  rw [List.find?_append, List.find?_cons_of_neg (by simpa using hp.symm), List.find?_nil,
    Option.or_none]

theorem recordAt_withoutRecord_ne {q : Nat} (hq : q ≠ p) :
    recordAt (withoutRecord w q) p = recordAt w p := by
  unfold recordAt withoutRecord
  rw [List.find?_filter]
  congr 2
  funext t
  by_cases htp : t.1 = p
  · simp [htp, hq.symm]
  · simp [htp]

theorem recordAt_withoutRecord (w : World) (p : Nat) : recordAt (withoutRecord w p) p = none := by
  unfold recordAt withoutRecord
  rw [List.find?_filter, Option.map_eq_none_iff, List.find?_eq_none]
  intro t _
  simp

theorem recordAt_setRecord_ne {q : Nat} (u : IoRecord) (hq : q ≠ p) :
    recordAt (setRecord w q u) p = recordAt w p := by
  unfold recordAt setRecord
  dsimp only
  induction w.records with
  | nil => rfl
  | cons v records ih =>
      rw [List.map_cons]
      by_cases hv : v.1 = q
      · have hvp : v.1 ≠ p := fun h => hq (hv.symm.trans h)
        rw [if_pos hv, List.find?_cons_of_neg (by simpa using hq), ih,
          List.find?_cons_of_neg (by simpa using hvp)]
      · rw [if_neg hv]
        by_cases hvp : v.1 = p
        · rw [List.find?_cons_of_pos (by simpa using hvp), List.find?_cons_of_pos (by simpa using hvp)]
        · rw [List.find?_cons_of_neg (by simpa using hvp), ih,
            List.find?_cons_of_neg (by simpa using hvp)]

theorem recordAt_setRecord {u u' : IoRecord} (h : recordAt w p = some u) :
    recordAt (setRecord w p u') p = some u' := by
  unfold recordAt setRecord at *
  dsimp only at *
  revert h
  induction w.records with
  | nil => exact fun h => by cases h
  | cons v records ih =>
      intro h
      rw [List.map_cons]
      by_cases hv : v.1 = p
      · rw [if_pos hv, List.find?_cons_of_pos (by simp)]
        rfl
      · rw [List.find?_cons_of_neg (by simpa using hv)] at h
        rw [if_neg hv, List.find?_cons_of_neg (by simpa using hv)]
        exact ih h

/-! ### Requests -/

theorem submit_beside {service : Service} {nodeId : Nat} {payload : List Byte} {param : Param}
    {callback : Option Callback} {os : Os}
    (h : submit w service nodeId payload param callback os = .ok w') : Beside n p w w' := by
  obtain ⟨cb, _, ⟨_, rfl⟩ | ⟨_, rfl⟩⟩ := submit_cases h
  · exact ⟨.one rfl ⟨rfl, by simp⟩, rfl, rfl⟩
  · exact .of_eq rfl rfl rfl

theorem addRecord_beside (t : IoRecord) (hp : p < w.nextRecord) : Beside n p w (addRecord w t) :=
  ⟨.none rfl, recordAt_addRecord_ne t (Nat.ne_of_lt hp), rfl⟩

theorem made_beside {c : Option Caller} {r : Int} (hp : p < w.nextRecord) (h : Made w c w' r) :
    Beside n p w w' := by
  cases h with
  | refused _ => exact .of_eq rfl rfl rfl
  | withdrawn t _ hfree =>
      rw [(freeRecord_cases hfree).2]
      have hne : w.nextRecord ≠ p := (Nat.ne_of_lt hp).symm
      refine (addRecord_beside t hp).trans ⟨.one rfl ⟨rfl, ?_⟩, recordAt_withoutRecord_ne hne, rfl⟩
      exact fun h => hne (Event.recordFreed.inj h)
  | direct _ _ _ _ _ hs => exact submit_beside hs
  | @held _ t _ _ _ _ _ _ _ hs => exact (addRecord_beside t hp).trans (submit_beside hs)
  | @counted w₁ w₂ _ _ _ _ _ _ _ h₁ h₂ h₃ =>
      have e₁ : Beside n p w w₁ := (addRecord_beside _ hp).trans (submit_beside h₁)
      exact (e₁.trans (submit_beside h₂)).trans (submit_beside h₃)

theorem Resumed.stack_of_none {rest : Option Rest} (h : Resumed w rest w') (hr : rest = none) :
    w'.stack = w.stack := by
  rcases h.stack with ⟨_, hs⟩ | ⟨r, payload, hrest, _⟩
  · exact hs
  · rw [hr] at hrest
    cases hrest

theorem Resumed.stack_of_some {rest : Option Rest} {r : Rest} (h : Resumed w rest w')
    (hr : rest = some r) : ∃ payload, w'.stack = .user r payload :: w.stack := by
  rcases h.stack with ⟨hrest, _⟩ | ⟨r', payload, hrest, hs⟩
  · rw [hr] at hrest
    cases hrest
  · rw [hr] at hrest
    obtain rfl := Option.some.inj hrest
    exact ⟨payload, hs⟩

/-! ### Completions of other requests -/

theorem elsewhere_call {e : Event} (h : CallEvent e) : Elsewhere n p e := by
  cases h <;> exact ⟨rfl, by simp⟩

theorem elsewhere_write {param : Param} {e : Event} (h : WriteTo param e) : Elsewhere n p e := by
  cases h <;> exact ⟨rfl, by simp⟩

theorem callCaller_beside {c : Option Caller} {r : Int} {user : Bool}
    (h : callCaller w c r = .ok (w', user)) : Beside n p w w' := by
  refine ⟨(callCaller_adds h).mono (fun _ => elsewhere_call), ?_, ?_⟩
  · unfold recordAt
    rw [callCaller_records h]
  · rw [(callCaller_core h).stack]

theorem calls_beside {cb : Callback} {user : Bool} {record : Option Nat}
    (hcb : recordOf cb ≠ some p) (h : Calls w cb w' user record) :
    Beside n p w w' ∧ record ≠ some p := by
  cases h with
  | caller hcall => exact ⟨callCaller_beside hcall, by simp⟩
  | @held q _ _ v _ _ _ _ hof _ _ hw hcall =>
      have hv : Beside n p w v := by
        rcases hw with rfl | ⟨_, _, rfl⟩
        · exact .of_eq rfl rfl rfl
        · exact ⟨.one rfl ⟨rfl, by simp⟩, rfl, rfl⟩
      exact ⟨hv.trans (callCaller_beside hcall), fun h => hcb (hof.trans h)⟩
  | @counting q _ _ _ _ _ _ _ =>
      have hq : q ≠ p := fun h => hcb (congrArg some h)
      exact ⟨⟨.none rfl, recordAt_setRecord_ne _ hq, rfl⟩, by simp⟩
  | @counted q counter cancelled _ r c _ _ _ _ hcall =>
      have hq : q ≠ p := fun h => hcb (congrArg some h)
      have hv : Beside n p w (setRecord w q (.configure ((counter + 1) % 256) cancelled r c)) :=
        ⟨.none rfl, recordAt_setRecord_ne _ hq, rfl⟩
      exact ⟨hv.trans (callCaller_beside hcall), fun h => hq (Option.some.inj h)⟩

theorem finishCompletion_beside {task : Nat} {record : Option Nat} (hr : record ≠ some p)
    (h : finishCompletion w task record = .ok w') : Beside n p w w' := by
  obtain ⟨v, hrel, hcases⟩ := finishCompletion_cases h
  have hv : Beside n p w v := by
    rcases hrel with ⟨_, rfl⟩ | ⟨q, hq, _, rfl⟩
    · exact .of_eq rfl rfl rfl
    · have hqp : q ≠ p := fun heq => hr (hq.trans (congrArg some heq))
      refine ⟨.one rfl ⟨rfl, ?_⟩, recordAt_withoutRecord_ne hqp, rfl⟩
      exact fun h => hqp (Event.recordFreed.inj h)
  rcases hcases with ⟨_, rfl⟩ | ⟨t, e, _, _, rfl⟩
  · exact hv
  · refine hv.trans ⟨⟨[.taskFreed task, .entryFreed t.timer], rfl, ?_⟩, rfl, rfl⟩
    intro e he
    simp only [List.mem_cons, List.not_mem_nil, or_false] at he
    rcases he with rfl | rfl
    · exact ⟨rfl, by simp⟩
    · exact ⟨rfl, by simp⟩

/-- **Another request is completed.** -/
theorem complete_beside {t : TaskEntry} {r : Int} {rest : Option Rest}
    (hserial : ¬ OneOf n t.serial) (hcb : recordOf t.callback ≠ some p)
    (h : complete w t r = .ok (w', rest)) :
    Beside n p w w' ∧ ∀ task, rest ≠ some (.completion task (some p)) := by
  obtain ⟨v, user, record, hcall, hrest⟩ := complete_cases h
  have hlog : Beside n p w (w.log (.invoked t.addr t.serial r)) :=
    ⟨.one rfl ⟨if_neg hserial, by simp⟩, rfl, rfl⟩
  obtain ⟨hv, hrecord⟩ := calls_beside (n := n) hcb hcall
  rcases hrest with ⟨_, rfl, rfl⟩ | ⟨_, rfl, hfin⟩
  · exact ⟨hlog.trans hv, fun task heq => hrecord (by simp at heq; exact heq.2)⟩
  · exact ⟨(hlog.trans hv).trans (finishCompletion_beside hrecord hfin), fun task heq => by cases heq⟩

theorem wrote_beside {t : TaskEntry} (ht : t.param ≠ .record p) (h : Wrote w t w') :
    Beside n p w w' := by
  refine ⟨h.adds.mono (fun _ => elsewhere_write), ?_, by rw [h.frame.1.stack]⟩
  cases h with
  | nothing => rfl
  | buffer _ _ => rfl
  | @record q u u' v hq _ _ =>
      have hne : q ≠ p := fun heq => ht (heq ▸ hq)
      exact recordAt_setRecord_ne (w := w.log (.wroteRegister t.param v)) _ hne

theorem Resumed.beside {rest : Option Rest} (hr : Resumed w rest w')
    (hrest : ∀ task, rest ≠ some (.completion task (some p))) : Beside n p w w' := by
  refine ⟨.none hr.trace, ?_, ?_⟩
  · unfold recordAt
    rw [hr.records]
  · rcases hr.stack with ⟨_, hs⟩ | ⟨r, payload, rfl, hs⟩
    · rw [hs]
    · rw [hs]
      exact openings_other payload _ (fun task heq => hrest task (congrArg some heq))

theorem reportStatus_beside {node : Nat} {old : WlmioStatus} {rest : Option Rest}
    (h : reportStatus w node old = (w', rest)) :
    Beside n p w w' ∧ ∀ task, rest ≠ some (.completion task (some p)) := by
  rcases reportStatus_cases h with ⟨_, rfl, rfl⟩ | ⟨_, rfl, rfl⟩
  · exact ⟨⟨.one rfl ⟨rfl, by simp⟩, rfl, rfl⟩, by simp⟩
  · exact ⟨.of_eq rfl rfl rfl, by simp⟩

end

/-! ## The configuration itself -/

/-- The three requests have their tasks, and only these point to the record. -/
structure OwnTasks (n p : Nat) (w : World) : Prop where
  record_lt : p < w.nextRecord
  issued : n + 3 ≤ w.bus.issued.length
  points : ∀ t ∈ w.registry.head, PointsTo t p →
    t.callback = .configure p ∧ t.param ≠ .record p ∧ OneOf n t.serial
  serial : ∀ t ∈ w.registry.head, OneOf n t.serial → t.callback = .configure p

/-- How far a configuration for `c` has come, after the events since it was made. -/
inductive Phase (n p : Nat) (c : Caller) (w : World) (new : List Event) : Prop
  /-- Results are still missing. -/
  | counting : (completed n new).length < 3 →
      recordAt w p = some (.configure (completed n new).length 0
        (firstNegative ((completed n new).map Prod.snd)) (some c)) →
      openings p w.stack = 0 → replies n new = [] → new.count (.recordFreed p) = 0 →
      Phase n p c w new
  /-- The caller's function has been called and has not returned. -/
  | calling {u : IoRecord} : (completed n new).length = 3 → recordAt w p = some u →
      openings p w.stack = 1 →
      replies n new = [(c, firstNegative ((completed n new).map Prod.snd))] →
      new.count (.recordFreed p) = 0 → Phase n p c w new
  | released : (completed n new).length = 3 → recordAt w p = none → openings p w.stack = 0 →
      replies n new = [(c, firstNegative ((completed n new).map Prod.snd))] →
      new.count (.recordFreed p) = 1 → Phase n p c w new

section

variable {n p : Nat} {c : Caller} {w w' : World} {new : List Event}

theorem OwnTasks.later (h : OwnTasks n p w) (hl : Later w w') : OwnTasks n p w' where
  record_lt := Nat.lt_of_lt_of_le h.record_lt hl.nextRecord
  issued := h.issued.trans hl.issued
  points := by
    intro t ht hp
    rcases hl.tasks t ht with ht | ⟨_, hnew⟩
    · exact h.points t ht hp
    · have hlt := h.record_lt
      have hge := (hnew p hp).1
      omega
  serial := by
    intro t ht hone
    rcases hl.tasks t ht with ht | ⟨hserial, _⟩
    · exact h.serial t ht hone
    · have hlt := h.issued
      have hone := hone.2
      omega

/-- A task that is not one of the three has nothing to do with the record. -/
theorem OwnTasks.other (h : OwnTasks n p w) {t : TaskEntry} (ht : t ∈ w.registry.head)
    (hcb : recordOf t.callback ≠ some p) : ¬ OneOf n t.serial := by
  intro hone
  rw [h.serial t ht hone] at hcb
  exact hcb rfl

theorem OwnTasks.own (h : OwnTasks n p w) {t : TaskEntry} (ht : t ∈ w.registry.head)
    (hcb : recordOf t.callback = some p) : t.callback = .configure p ∧ OneOf n t.serial :=
  ⟨(h.points t ht (.inl hcb)).1, (h.points t ht (.inl hcb)).2.2⟩

theorem OwnTasks.param (h : OwnTasks n p w) {t : TaskEntry} (ht : t ∈ w.registry.head) :
    t.param ≠ .record p :=
  fun hp => (h.points t ht (.inr hp)).2.1 hp

/-- **What happens elsewhere** does not bring a configuration any further. -/
theorem Phase.beside (h : Phase n p c w new) {es : List Event} (hes : ∀ e ∈ es, Elsewhere n p e)
    (hr : Rested n new) (hrec : recordAt w' p = recordAt w p)
    (hopen : openings p w'.stack = openings p w.stack) : Phase n p c w' (es ++ new) := by
  have hnone : ∀ e ∈ es, completionOf n e = none := fun e he => (hes e he).1
  have hdone : completed n (es ++ new) = completed n new := completed_without hnone
  have hcount : (es ++ new).count (.recordFreed p) = new.count (.recordFreed p) :=
    count_elsewhere hes
  have hreplies := replies_without hnone hr
  cases h with
  | counting hlen hat ho hrep hfree =>
      refine .counting ?_ ?_ ?_ ?_ ?_
      · rw [hdone]; exact hlen
      · rw [hdone, hrec]; exact hat
      · rw [hopen]; exact ho
      · rw [hreplies]; exact hrep
      · rw [hcount]; exact hfree
  | calling hlen hat ho hrep hfree =>
      refine .calling ?_ (hrec.trans hat) ?_ ?_ ?_
      · rw [hdone]; exact hlen
      · rw [hopen]; exact ho
      · rw [hreplies, hdone]; exact hrep
      · rw [hcount]; exact hfree
  | released hlen hat ho hrep hfree =>
      refine .released ?_ (hrec.trans hat) ?_ ?_ ?_
      · rw [hdone]; exact hlen
      · rw [hopen]; exact ho
      · rw [hreplies, hdone]; exact hrep
      · rw [hcount]; exact hfree

/-! ### A completion of one of the three -/

/-- The record with one more result. -/
def counted (w : World) (p k : Nat) (r₀ r : Int) (c : Caller) : World :=
  setRecord w p (.configure (k + 1) 0 (if r < 0 ∧ 0 ≤ r₀ then r else r₀) (some c))

/-- What the callback of a configuration makes of a result. -/
theorem call_configure {r r₀ : Int} {k : Nat} (hk : k < 3)
    (hrec : recordAt w p = some (.configure k 0 r₀ (some c))) :
    (Callback.configure p).call w r =
      if k < 2 then .ok (counted w p k r₀ r c, false, none)
      else callCaller (counted w p k r₀ r c) (some c) (if r < 0 ∧ 0 ≤ r₀ then r else r₀) >>=
        fun x => .ok (x.1, x.2, some p) := by
  have hmod : (k + 1) % 256 = k + 1 := Nat.mod_eq_of_lt (by omega)
  unfold Callback.call configureCallback
  dsimp only
  rw [hrec]
  dsimp only
  rw [hmod, Nat.add_zero]
  by_cases hlt : k < 2
  · rw [if_pos hlt, if_pos (by omega)]
    rfl
  · rw [if_neg hlt, if_neg (by omega)]
    unfold counted
    cases callCaller _ (some c) _ with
    | error f => rfl
    | ok x => rfl

/-- **A completion of one of the three**: it is counted and its task goes, or the caller's function
is called, and the record goes with the task when this has returned. -/
theorem complete_configure {t : TaskEntry} {r r₀ : Int} {rest : Option Rest} {k : Nat}
    (hk : k < 3) (hcb : t.callback = .configure p)
    (hrec : recordAt w p = some (.configure k 0 r₀ (some c)))
    (h : complete w t r = .ok (w', rest)) :
    (k < 2 ∧ rest = none ∧ finishCompletion
        (counted (w.log (.invoked t.addr t.serial r)) p k r₀ r c) t.addr none = .ok w') ∨
      (k = 2 ∧ ∃ v user, callCaller (counted (w.log (.invoked t.addr t.serial r)) p k r₀ r c)
          (some c) (if r < 0 ∧ 0 ≤ r₀ then r else r₀) = .ok (v, user) ∧
        ((user = true ∧ rest = some (.completion t.addr (some p)) ∧ w' = v) ∨
          (user = false ∧ rest = none ∧ finishCompletion v t.addr (some p) = .ok w'))) := by
  unfold complete at h
  obtain ⟨⟨v, user, record⟩, hcall, h⟩ := Fallible.bind_eq_ok.mp h
  rw [hcb, call_configure (w := w.log _) hk hrec] at hcall
  dsimp only at h
  by_cases hlt : k < 2
  · rw [if_pos hlt] at hcall
    obtain ⟨rfl, rfl, rfl⟩ := by simpa using hcall
    rw [if_neg (by simp)] at h
    obtain ⟨v, hfin, h⟩ := Fallible.bind_eq_ok.mp h
    obtain ⟨rfl, rfl⟩ := Prod.mk.inj (Except.ok.inj h)
    exact .inl ⟨hlt, rfl, hfin⟩
  · rw [if_neg hlt] at hcall
    obtain ⟨⟨v₁, user₁⟩, hcaller, heq⟩ := Fallible.bind_eq_ok.mp hcall
    obtain ⟨rfl, rfl, rfl⟩ := by simpa using heq
    refine .inr ⟨by omega, _, _, hcaller, ?_⟩
    split at h
    · rename_i hu
      obtain ⟨rfl, rfl⟩ := Prod.mk.inj (Except.ok.inj h)
      exact .inl ⟨hu, rfl, rfl⟩
    · rename_i hu
      obtain ⟨v₂, hfin, h⟩ := Fallible.bind_eq_ok.mp h
      obtain ⟨rfl, rfl⟩ := Prod.mk.inj (Except.ok.inj h)
      exact .inr ⟨by simpa using hu, rfl, hfin⟩

/-- The release of a record, if there is one. -/
def releases : Option Nat → List Event
  | none => []
  | some q => [.recordFreed q]

/-- A task that is linked goes, and the record before it. -/
theorem finishCompletion_trace {task : Nat} {record : Option Nat}
    (h : finishCompletion w task record = .ok w') (hne : w.registry.head ≠ []) :
    ∃ timer, w'.trace = .taskFreed task :: .entryFreed timer :: (releases record ++ w.trace) := by
  obtain ⟨v, hrel, ⟨hnil, _⟩ | ⟨t', e, _, _, rfl⟩⟩ := finishCompletion_cases h
  · exact absurd hnil hne
  · refine ⟨t'.timer, ?_⟩
    rcases hrel with ⟨rfl, rfl⟩ | ⟨q, rfl, _, rfl⟩
    · rfl
    · rfl

theorem finishCompletion_without {task : Nat} {record : Option Nat} (n : Nat)
    (h : finishCompletion w task record = .ok w') :
    ∃ es, w'.trace = es ++ w.trace ∧ ∀ e ∈ es, completionOf n e = none := by
  obtain ⟨v, hrel, hcases⟩ := finishCompletion_cases h
  obtain ⟨es, hes, hfreed⟩ := hrel.adds
  have hnone : ∀ e ∈ es, completionOf n e = none := by
    intro e he
    obtain ⟨q, rfl⟩ := hfreed e he
    rfl
  rcases hcases with ⟨_, rfl⟩ | ⟨t, e, _, _, rfl⟩
  · exact ⟨es, hes, hnone⟩
  · refine ⟨.taskFreed task :: .entryFreed t.timer :: es, ?_, ?_⟩
    · show .taskFreed task :: .entryFreed t.timer :: v.trace = _
      rw [hes]
      rfl
    · intro x hx
      simp only [List.mem_cons] at hx
      rcases hx with rfl | rfl | hx
      · rfl
      · rfl
      · exact hnone x hx

/-- When code of the application runs, its function has been called. -/
theorem calls_user {cb : Callback} {user : Bool} {record : Option Nat}
    (h : Calls w cb w' user record) (hu : user = true) : w.trace.length < w'.trace.length := by
  have hcaller : ∀ {v : World} {d : Option Caller} {r : Int}, w.trace.length ≤ v.trace.length →
      callCaller v d r = .ok (w', user) → w.trace.length < w'.trace.length := by
    intro v d r hle hcall
    rcases callCaller_cases hcall with ⟨_, _, _, rfl⟩ | ⟨_, _, hno, _⟩
    · exact Nat.lt_succ_of_le hle
    · rw [hu] at hno
      cases hno
  cases h with
  | caller hcall => exact hcaller (Nat.le_refl _) hcall
  | held _ _ _ _ hw hcall =>
      rcases hw with rfl | ⟨_, _, rfl⟩
      · exact hcaller (Nat.le_refl _) hcall
      · exact hcaller (Nat.le_succ _) hcall
  | counting _ _ => cases hu
  | @counted p counter cancelled _ r c _ _ _ _ hcall =>
      exact hcaller (v := setRecord w p (.configure ((counter + 1) % 256) cancelled r c))
        (Nat.le_refl _) hcall

/-- A completion calls back first; what follows is no completion, and it is never nothing. -/
theorem complete_trace {t : TaskEntry} {r : Int} {rest : Option Rest} (n : Nat)
    (ht : t ∈ w.registry.head) (h : complete w t r = .ok (w', rest)) :
    ∃ e es, w'.trace = e :: es ++ .invoked t.addr t.serial r :: w.trace ∧
      ∀ x ∈ e :: es, completionOf n x = none := by
  obtain ⟨v, user, record, hcall, hrest⟩ := complete_cases h
  obtain ⟨es, hes, hcalls⟩ := hcall.adds
  have hnone : ∀ x ∈ es, completionOf n x = none := fun x hx => (elsewhere_call (p := 0) (hcalls x hx)).1
  rcases hrest with ⟨hu, _, rfl⟩ | ⟨_, _, hfin⟩
  · -- the function of the application has been called
    cases es with
    | nil =>
        have hlt := calls_user hcall hu
        rw [hes] at hlt
        exact absurd hlt (Nat.lt_irrefl _)
    | cons e es => exact ⟨e, es, hes, hnone⟩
  · have hlinked : v.registry.head ≠ [] := by
      rw [hcall.frame.registry]
      exact List.ne_nil_of_mem ht
    obtain ⟨timer, htrace⟩ := finishCompletion_trace hfin hlinked
    refine ⟨.taskFreed t.addr, .entryFreed timer :: (releases record ++ es), ?_, ?_⟩
    · rw [htrace, hes]
      simp
    · intro x hx
      simp only [List.mem_cons, List.mem_append] at hx
      rcases hx with rfl | rfl | hx | hx
      · rfl
      · rfl
      · cases record with
        | none => simp [releases] at hx
        | some q =>
            rw [List.mem_singleton.mp hx]
            rfl
      · exact hnone x hx

/-- Only three completions, each of another request, are possible. -/
theorem completed_lt {s : Nat} (hone : OneOf n s)
    (hnodup : ((completed n new).map Prod.fst ++ [s]).Nodup) : (completed n new).length < 3 := by
  have hle := length_serials (n := n) hnodup (fun x hx => ?_)
  · rw [List.length_append, List.length_map, List.length_singleton] at hle
    omega
  · rcases List.mem_append.mp hx with hx | hx
    · obtain ⟨y, hy, rfl⟩ := List.mem_map.mp hx
      exact completed_oneOf hy
    · rw [List.mem_singleton.mp hx]
      exact hone

/-- Nothing but the invocation of one of the three is a completion. -/
theorem completed_invoked {s : Nat} (hone : OneOf n s) (task : Nat) (r : Int) {es : List Event}
    (hes : ∀ e ∈ es, completionOf n e = none) :
    completed n (es ++ .invoked task s r :: new) = completed n new ++ [(s, r)] := by
  have hinvoked : completionOf n (.invoked task s r) = some (s, r) := if_pos hone
  rw [completed_without hes]
  show completed n ([.invoked task s r] ++ new) = _
  rw [completed_append]
  unfold completed
  rw [List.reverse_singleton, List.filterMap_cons_some hinvoked, List.filterMap_nil]

/-- A completion by itself calls nobody. -/
theorem replies_invoked {task s : Nat} {r : Int} (hr : Rested n new) :
    replies n (.invoked task s r :: new) = replies n new := by
  rw [replies, hr]
  rfl

/-- What comes right after a completion is its call, if it is one. -/
theorem replies_called {task s : Nat} {r : Int} (hone : OneOf n s) (hr : Rested n new)
    (e : Event) :
    replies n (e :: .invoked task s r :: new) = (replyOf e).toList ++ replies n new := by
  have hinvoked : completionOf n (.invoked task s r) = some (s, r) := if_pos hone
  rw [replies, replies_invoked hr, List.head?_cons, Option.bind_some, hinvoked]
  rfl

/-- Later events of the same step call nobody. -/
theorem replies_after {s : Nat} (hone : OneOf n s) (hr : Rested n new) (task : Nat) (r : Int)
    (pre : List Event) (e : Event) (hpre : ∀ x ∈ pre, completionOf n x = none)
    (he : completionOf n e = none) :
    replies n (pre ++ e :: .invoked task s r :: new) = (replyOf e).toList ++ replies n new := by
  have hrested : Rested n (e :: .invoked task s r :: new) := he
  rw [replies_without hpre hrested, replies_called hone hr]

theorem finishCompletion_record {task : Nat} {record : Option Nat}
    (h : finishCompletion w task record = .ok w') :
    recordAt w' p = if record = some p then none else recordAt w p := by
  obtain ⟨v, hrel, hcases⟩ := finishCompletion_cases h
  have hv : recordAt v p = if record = some p then none else recordAt w p := by
    rcases hrel with ⟨rfl, rfl⟩ | ⟨q, rfl, _, rfl⟩
    · rfl
    · by_cases hq : q = p
      · subst hq
        rw [if_pos rfl]
        exact recordAt_withoutRecord w q
      · rw [if_neg (fun heq => hq (Option.some.inj heq))]
        exact recordAt_withoutRecord_ne hq
  rcases hcases with ⟨_, rfl⟩ | ⟨t, e, _, _, rfl⟩
  · exact hv
  · exact hv

/-- What a completion of one of the three leaves: the events after it, what is left to do, and the
record. `r` is the result that is kept. -/
inductive Left (p k : Nat) (c : Caller) (task : Nat) (r : Int) :
    List Event → Option Rest → Option IoRecord → Prop
  | counted (timer : Nat) : k < 2 →
      Left p k c task r [.taskFreed task, .entryFreed timer] none
        (some (.configure (k + 1) 0 r (some c)))
  | user {j : Nat} (u : IoRecord) : k = 2 → c = .user j →
      Left p k c task r [.called j r] (some (.completion task (some p))) (some u)
  | sync {call : Nat} (timer : Nat) : k = 2 → c = .sync call →
      Left p k c task r
        [.taskFreed task, .entryFreed timer, .recordFreed p, .delivered call r] none none

theorem complete_left {t : TaskEntry} {r r₀ : Int} {rest : Option Rest} {k : Nat}
    (hk : k < 3) (ht : t ∈ w.registry.head) (hcb : t.callback = .configure p)
    (hrec : recordAt w p = some (.configure k 0 r₀ (some c)))
    (h : complete w t r = .ok (w', rest)) :
    ∃ es, w'.trace = es ++ .invoked t.addr t.serial r :: w.trace ∧
      Left p k c t.addr (if r < 0 ∧ 0 ≤ r₀ then r else r₀) es rest (recordAt w' p) := by
  have hne : w.registry.head ≠ [] := List.ne_nil_of_mem ht
  have hat : recordAt (counted (w.log (.invoked t.addr t.serial r)) p k r₀ r c) p =
      some (.configure (k + 1) 0 (if r < 0 ∧ 0 ≤ r₀ then r else r₀) (some c)) :=
    recordAt_setRecord (w := w.log (.invoked t.addr t.serial r)) hrec
  rcases complete_configure hk hcb hrec h with
    ⟨hlt, rfl, hfin⟩ | ⟨htwo, v, user, hcall, ⟨huser, rfl, rfl⟩ | ⟨huser, rfl, hfin⟩⟩
  · obtain ⟨timer, htrace⟩ := finishCompletion_trace hfin hne
    refine ⟨[.taskFreed t.addr, .entryFreed timer], htrace, ?_⟩
    rw [finishCompletion_record hfin, if_neg (by simp : ¬ none = some p), hat]
    exact .counted timer hlt
  · -- code of the application runs
    rcases callCaller_cases hcall with ⟨j, hc, _, rfl⟩ | ⟨call, _, hno, _⟩
    · refine ⟨[.called j _], rfl, ?_⟩
      show Left p k c t.addr _ _ _
        (recordAt (counted (w.log (.invoked t.addr t.serial r)) p k r₀ r c) p)
      rw [hat]
      exact .user _ htwo (Option.some.inj hc)
    · rw [huser] at hno
      cases hno
  · rcases callCaller_cases hcall with ⟨j, _, hno, _⟩ | ⟨call, hc, _, rfl⟩
    · rw [huser] at hno
      cases hno
    · obtain ⟨timer, htrace⟩ := finishCompletion_trace hfin hne
      refine ⟨[.taskFreed t.addr, .entryFreed timer, .recordFreed p, .delivered call _], htrace, ?_⟩
      rw [finishCompletion_record hfin, if_pos rfl]
      exact .sync timer htwo (Option.some.inj hc)

/-- **A completion of one of the three** brings the configuration one result further. -/
theorem Phase.complete {t : TaskEntry} {r : Int} {rest : Option Rest} {w₂ : World}
    (hphase : Phase n p c w new) (hlt : (completed n new).length < 3) (hrested : Rested n new)
    (ht : t ∈ w.registry.head) (hcb : t.callback = .configure p) (hone : OneOf n t.serial)
    (hc : complete w t r = .ok (w', rest)) (hr : Resumed w' rest w₂) :
    ∃ es, w₂.trace = es ++ .invoked t.addr t.serial r :: w.trace ∧
      Phase n p c w₂ (es ++ .invoked t.addr t.serial r :: new) := by
  have hrecord : recordAt w₂ p = recordAt w' p := by
    unfold recordAt
    rw [hr.records]
  have hstack : w'.stack = w.stack := (complete_calls hc).stack
  cases hphase with
  | calling hlen _ _ _ _ => omega
  | released hlen _ _ _ _ => omega
  | counting _ hat hopen hnone hfree =>
      obtain ⟨es, htrace, hleft⟩ := complete_left hlt ht hcb hat hc
      refine ⟨es, hr.trace.trans htrace, ?_⟩
      rw [← firstNegative_append, ← hrecord] at hleft
      generalize hat' : recordAt w₂ p = u at hleft
      have hes : ∀ e ∈ es, completionOf n e = none := by
        cases hleft <;> simp [completionOf]
      have hdone : completed n (es ++ .invoked t.addr t.serial r :: new) =
          completed n new ++ [(t.serial, r)] := completed_invoked hone t.addr r hes
      have hkept : (completed n (es ++ .invoked t.addr t.serial r :: new)).map Prod.snd =
          (completed n new).map Prod.snd ++ [r] := by rw [hdone, List.map_append]; rfl
      have hlength : (completed n (es ++ .invoked t.addr t.serial r :: new)).length =
          (completed n new).length + 1 := by rw [hdone, List.length_append]; rfl
      have hcount : (Event.invoked t.addr t.serial r :: new).count (.recordFreed p) = 0 := by
        rw [List.count_cons_of_ne (by simp)]
        exact hfree
      have hreplies := replies_after hone hrested t.addr r
      cases hleft with
      | counted timer hk =>
          have hstack₂ : w₂.stack = w.stack := (hr.stack_of_none rfl).trans hstack
          refine .counting (by omega) ?_ (by rw [hstack₂]; exact hopen) ?_ ?_
          · rw [hat', hlength, hkept]
          · exact (hreplies [.taskFreed t.addr] (.entryFreed timer) (by simp [completionOf]) rfl).trans
              hnone
          · rw [List.count_append, hcount]
            simp
      | @user j u hk hcaller =>
          -- the record will be freed when the function returns
          obtain ⟨payload, hstack₂⟩ := hr.stack_of_some rfl
          refine .calling (by omega) hat' ?_ ?_ ?_
          · rw [hstack₂, hstack]
            unfold openings
            rw [List.countP_cons_of_pos (by simp)]
            exact congrArg (· + 1) hopen
          · have hcalled := hreplies [] (.called j (firstNegative
              ((completed n new).map Prod.snd ++ [r]))) (by simp) rfl
            rw [hkept, hcaller]
            refine hcalled.trans ?_
            rw [hnone]
            rfl
          · rw [List.count_append, hcount]
            simp
      | @sync call timer hk hcaller =>
          have hstack₂ : w₂.stack = w.stack := (hr.stack_of_none rfl).trans hstack
          refine .released (by omega) hat' (by rw [hstack₂]; exact hopen) ?_ ?_
          · have hcalled := hreplies [.taskFreed t.addr, .entryFreed timer, .recordFreed p]
              (.delivered call (firstNegative ((completed n new).map Prod.snd ++ [r])))
              (by simp [completionOf]) rfl
            rw [hkept, hcaller]
            refine hcalled.trans ?_
            rw [hnone]
            rfl
          · rw [List.count_append, hcount]
            simp

/-- **The caller's function returns**, and the record is freed. -/
theorem Phase.finish {task : Nat} {payload : Option Buffer} {stack : List Activation}
    (hphase : Phase n p c w new) (hrested : Rested n new)
    (hs : w.stack = .user (.completion task (some p)) payload :: stack)
    (hfin : finishCompletion { w with stack := stack } task (some p) = .ok w') :
    ∃ es, w'.trace = es ++ w.trace ∧ (∀ e ∈ es, completionOf n e = none) ∧
      Phase n p c w' (es ++ new) := by
  have hopenings : openings p w.stack = openings p stack + 1 := by
    rw [hs]
    unfold openings
    rw [List.countP_cons_of_pos (by simp)]
  have hstack : w'.stack = stack := (finishCompletion_calls hfin).stack
  have hrecord : recordAt w' p = none := by rw [finishCompletion_record hfin, if_pos rfl]
  obtain ⟨es, htrace, hnone, hcount⟩ : ∃ es, w'.trace = es ++ w.trace ∧
      (∀ e ∈ es, completionOf n e = none) ∧ es.count (.recordFreed p) = 1 := by
    obtain ⟨v, hrel, hcases⟩ := finishCompletion_cases hfin
    obtain ⟨q, hq, _, rfl⟩ := hrel.resolve_left (by simp)
    obtain rfl := Option.some.inj hq
    rcases hcases with ⟨_, rfl⟩ | ⟨t, e, _, _, rfl⟩
    · exact ⟨[.recordFreed p], rfl, by simp [completionOf], by simp⟩
    · exact ⟨[.taskFreed task, .entryFreed t.timer, .recordFreed p], rfl, by simp [completionOf],
        by simp⟩
  refine ⟨es, htrace, hnone, ?_⟩
  have hdone : completed n (es ++ new) = completed n new := completed_without hnone
  cases hphase with
  | counting _ _ hopen _ _ => omega
  | released _ _ hopen _ _ => omega
  | calling hlen _ hopen hrep hfree =>
      refine .released ?_ hrecord (by rw [hstack]; omega) ?_ ?_
      · rw [hdone]; exact hlen
      · rw [replies_without hnone hrested, hdone]; exact hrep
      · rw [List.count_append, hcount, hfree]

end

/-! ## Runs -/

/-- What holds of a configuration, as long as none of its three requests is completed twice. -/
structure Tracked (n p : Nat) (c : Caller) (base : List Event) (w : World) : Prop where
  tasks : OwnTasks n p w
  history : ∃ new, w.trace = new ++ base ∧ Rested n new ∧
    (((completed n new).map Prod.fst).Nodup → Phase n p c w new)

section

variable {n p : Nat} {c : Caller} {base : List Event} {w w' v : World}

theorem Tracked.beside (h : Tracked n p c base w) (hl : Later w w') (hb : Beside n p w w') :
    Tracked n p c base w' := by
  obtain ⟨new, htrace, hrested, hphase⟩ := h.history
  obtain ⟨es, hes, helse⟩ := hb.new
  have hnone : ∀ e ∈ es, completionOf n e = none := fun e he => (helse e he).1
  refine ⟨h.tasks.later hl, es ++ new, ?_, rested_append hnone hrested, ?_⟩
  · rw [hes, htrace, List.append_assoc]
  · intro hnodup
    rw [completed_without hnone] at hnodup
    exact (hphase hnodup).beside helse hrested hb.record hb.opened

/-- **A completion**, of one of the three or of any other request. -/
theorem Tracked.complete {t : TaskEntry} {r : Int} {rest : Option Rest} (h : Tracked n p c base w)
    (ht : t ∈ w.registry.head) (hc : complete w t r = .ok (v, rest)) (hr : Resumed v rest w') :
    Tracked n p c base w' := by
  have hlater : Later w w' := (complete_later hc).trans hr.later
  by_cases hcb : recordOf t.callback = some p
  · obtain ⟨hconfigure, hone⟩ := h.tasks.own ht hcb
    obtain ⟨new, htrace, hrested, hphase⟩ := h.history
    obtain ⟨e, es, hes, hnone⟩ := complete_trace n ht hc
    have hdone : completed n (e :: es ++ .invoked t.addr t.serial r :: new) =
        completed n new ++ [(t.serial, r)] := completed_invoked hone t.addr r hnone
    refine ⟨h.tasks.later hlater, e :: es ++ .invoked t.addr t.serial r :: new, ?_, ?_, ?_⟩
    · rw [hr.trace, hes, htrace, List.append_assoc]
      rfl
    · exact hnone e (List.mem_cons_self ..)
    · intro hnodup
      rw [hdone, List.map_append] at hnodup
      have hlt := completed_lt hone hnodup
      obtain ⟨es', hes', hphase'⟩ := (hphase (List.nodup_append.mp hnodup).1).complete hlt hrested ht
        hconfigure hone hc hr
      obtain rfl : es' = e :: es := by
        refine List.append_cancel_right (hes'.symm.trans ?_)
        rw [hr.trace, hes]
      exact hphase'
  · obtain ⟨hb, hrest⟩ := complete_beside (h.tasks.other ht hcb) hcb hc
    exact h.beside hlater (hb.trans (hr.beside hrest))

/-- **Every act keeps track.** -/
theorem did_tracked {a : Act} (h : Tracked n p c base w) (hd : Did w a w') :
    Tracked n p c base w' := by
  have hlater := did_later hd
  have hlt := h.tasks.record_lt
  cases hd with
  | request _ hm => exact h.beside hlater (made_beside hlt hm)
  | syncRefused _ _ hm =>
      have hb : Beside n p _ w' :=
        made_beside (w := { w with syncFlag := false, nextCall := w.nextCall + 1 }) hlt hm
      exact h.beside hlater ⟨hb.new, hb.record, hb.opened⟩
  | syncEntered _ hm =>
      have hb : Beside n p _ _ :=
        made_beside (w := { w with syncFlag := false, nextCall := w.nextCall + 1 }) hlt hm
      exact h.beside hlater ⟨hb.new, hb.record, hb.opened⟩
  | setTimeout _ => exact h.beside hlater (.of_eq rfl rfl rfl)
  | setStatusCallback _ => exact h.beside hlater (.of_eq rfl rfl rfl)
  | tick _ => exact h.beside hlater ⟨.none rfl, rfl, rfl⟩
  | @taskExpired _ _ w₁ rest _ _ _ _ _ _ _ ht hc =>
      exact h.complete (taskWithTimer_mem ht).1 hc (resume_frame w₁ rest none)
  | @nodeExpired _ r _ _ _ w₁ rest _ _ _ _ _ hx hrep =>
      obtain ⟨hb, hrest⟩ := reportStatus_beside (n := n) (p := p) hrep
      have h₀ : Beside n p w { w with registry := r } := .of_eq rfl rfl rfl
      exact h.beside hlater ((h₀.trans hb).trans ((resume_frame w₁ rest none).beside hrest))
  | collected _ _ => exact h.beside hlater (.of_eq rfl rfl rfl)
  | @ignored _ _ _ canard _ payload _ _ =>
      have h₀ : Beside n p w (withCanard w canard) := .of_eq rfl rfl rfl
      exact h.beside hlater (h₀.trans ((resume_frame _ none payload).beside (by simp)))
  | @beat _ _ _ canard _ w₁ rest _ payload _ _ _ hb =>
      obtain ⟨r, old, _, hrest⟩ := hb
      have h₀ : Beside n p w { withCanard w canard with registry := r } := .of_eq rfl rfl rfl
      rcases hrest with ⟨_, rfl, rfl⟩ | ⟨o, _, hrep⟩
      · exact h.beside hlater (h₀.trans ((resume_frame _ none payload).beside (by simp)))
      · obtain ⟨hb, hrest⟩ := reportStatus_beside (n := n) (p := p) hrep
        exact h.beside hlater ((h₀.trans hb).trans ((resume_frame w₁ rest payload).beside hrest))
  | @response _ _ _ canard _ _ tfr w₁ rest _ payload _ _ _ _ _ hr =>
      have h₀ : Tracked n p c base (withCanard w canard) :=
        h.beside (.of_eq rfl rfl rfl) (.of_eq rfl rfl rfl)
      rcases hr with ⟨_, rfl, rfl⟩ | ⟨t, w₂, r, ht, hw, hc⟩
      · exact h₀.beside (resume_frame _ none payload).later
          ((resume_frame _ none payload).beside (by simp))
      · have hframe := hw.frame.1
        have hmem := (taskWithId_mem ht).1
        have h₁ : Tracked n p c base w₂ := by
          refine h₀.beside (.of_eq hframe.registry (by rw [hframe.bus]) hframe.nextRecord) ?_
          exact wrote_beside (h₀.tasks.param hmem) hw
        rw [← hframe.registry] at hmem
        exact h₁.complete hmem hc (resume_frame w₁ rest payload)
  | @idle sends stack hs => exact h.beside hlater ⟨.none rfl, rfl, by rw [hs]; rfl⟩
  | @syncReturned call stack hs _ =>
      exact h.beside hlater ⟨.one rfl ⟨rfl, by simp⟩, rfl, by rw [hs]; rfl⟩
  | looped _ _ => exact h.beside hlater ⟨.none rfl, rfl, rfl⟩
  | @completed task record payload stack w₁ hs hfin =>
      have h₁ : Tracked n p c base w₁ → Tracked n p c base (freePayload w₁ payload) :=
        fun h₁ => h₁.beside (.of_eq rfl rfl rfl) (.of_eq rfl rfl rfl)
      have hl : Later w w₁ := ⟨hlater.issued, hlater.nextRecord, hlater.tasks⟩
      by_cases hp : record = some p
      · subst hp
        obtain ⟨new, htrace, hrested, hphase⟩ := h.history
        obtain ⟨es, hes, hnone⟩ := finishCompletion_without n hfin
        refine h₁ ⟨h.tasks.later hl, es ++ new, ?_, rested_append hnone hrested, ?_⟩
        · have hes : w₁.trace = es ++ w.trace := hes
          rw [hes, htrace, List.append_assoc]
        · intro hnodup
          rw [completed_without hnone] at hnodup
          obtain ⟨es', hes', _, hphase'⟩ := (hphase hnodup).finish hrested hs hfin
          obtain rfl : es' = es := List.append_cancel_right (hes'.symm.trans hes)
          exact hphase'
      · have hb : Beside n p w w₁ := by
          have h₀ : Beside n p w { w with stack := stack } := by
            refine ⟨.none rfl, rfl, ?_⟩
            rw [hs]
            exact (openings_other payload stack (fun _ heq => hp (Rest.completion.inj heq).2)).symm
          exact h₀.trans (finishCompletion_beside hp hfin)
        exact h₁ (h.beside hl hb)
  | @reported payload stack hs => exact h.beside hlater ⟨.none rfl, rfl, by rw [hs]; rfl⟩

theorem step_tracked {a : Act} (h : Tracked n p c base w) (hs : step w a = some w') :
    Tracked n p c base w' := by
  rcases (step_cases hs).2 with hd | ⟨f, _, rfl⟩
  · exact did_tracked h hd
  · exact h.beside (.of_eq rfl rfl rfl) (.of_eq rfl rfl rfl)

/-! ### The call -/

/-- Three requests that are made with a new record. -/
theorem made_tracked {r : Int} (hrecords : RecordsGood w) (hpoints : PointsBelow w)
    (howned : Owned w.registry w.bus) (hm : Made w (some c) w' r)
    (hthree : w'.registry.head.length = w.registry.head.length + 3) :
    Tracked w.bus.issued.length w.nextRecord c w'.trace w' := by
  cases hm with
  | refused _ => omega
  | withdrawn t _ hfree =>
      have hhead : w'.registry.head = w.registry.head := by rw [(freeRecord_cases hfree).2]; rfl
      rw [hhead] at hthree
      omega
  | direct _ _ _ _ _ hs =>
      rcases (submit_tasks hs).2 with hhead | ⟨t, hhead, _⟩
      · rw [hhead] at hthree
        omega
      · rw [hhead, List.length_append, List.length_singleton] at hthree
        omega
  | held _ _ _ _ _ hs =>
      rcases (submit_tasks hs).2 with hhead | ⟨t, hhead, _⟩
      · rw [hhead] at hthree
        exact absurd hthree (by show ¬ w.registry.head.length = _; omega)
      · rw [hhead, List.length_append, List.length_singleton] at hthree
        exact absurd hthree (by show ¬ w.registry.head.length + 1 = _; omega)
  | @counted w₁ w₂ _ _ _ _ _ _ _ h₁ h₂ h₃ =>
      have hi₁ : w₁.bus.issued.length = w.bus.issued.length + 1 := (submit_tasks h₁).1
      have hi₂ := (submit_tasks h₂).1
      have hi₃ := (submit_tasks h₃).1
      obtain ⟨hr₁, hn₁, hs₁⟩ := submit_frame h₁
      obtain ⟨hr₂, hn₂, hs₂⟩ := submit_frame h₂
      obtain ⟨hr₃, hn₃, hs₃⟩ := submit_frame h₃
      have hnext : w'.nextRecord = w.nextRecord + 1 := (hn₃.trans hn₂).trans hn₁
      have hrecs : w'.records = (addRecord w (.configure 0 0 0 (some c))).records :=
        (hr₃.trans hr₂).trans hr₁
      have hstack : w'.stack = w.stack := (hs₃.trans hs₂).trans hs₁
      -- every task is one there was, or one of the three
      have hmem : ∀ t ∈ w'.registry.head, t ∈ w.registry.head ∨
          (t.callback = .configure w.nextRecord ∧ t.param = .null ∧
            OneOf w.bus.issued.length t.serial) := by
        intro t ht
        unfold OneOf
        rcases submit_mem h₃ ht with ht | ⟨hs, hp, hc⟩
        · rcases submit_mem h₂ ht with ht | ⟨hs, hp, hc⟩
          · rcases submit_mem h₁ ht with ht | ⟨hs, hp, hc⟩
            · exact .inl ht
            · have hs : t.serial = w.bus.issued.length := hs
              exact .inr ⟨(Option.some.inj hc).symm, hp, by omega⟩
          · exact .inr ⟨(Option.some.inj hc).symm, hp, by omega⟩
        · exact .inr ⟨(Option.some.inj hc).symm, hp, by omega⟩
      refine ⟨⟨by omega, by omega, ?_, ?_⟩, [], rfl, rfl, ?_⟩
      · intro t ht hp
        rcases hmem t ht with hold | ⟨hcb, hparam, hone⟩
        · exact absurd (hpoints t hold _ hp) (Nat.lt_irrefl _)
        · exact ⟨hcb, by rw [hparam]; simp, hone⟩
      · intro t ht hone
        rcases hmem t ht with hold | ⟨hcb, _⟩
        · have hlt := howned.serial_lt hold
          exact absurd hone.1 (by omega)
        · exact hcb
      · intro _
        refine .counting (by simp [completed]) ?_ ?_ rfl rfl
        · unfold recordAt
          rw [hrecs]
          exact recordAt_addRecord hrecords _
        · rw [hstack]
          refine List.countP_eq_zero.mpr ?_
          intro a ha
          split
          · rename_i task q payload
            intro hq
            obtain rfl := of_decide_eq_true hq
            exact hrecords.unused.2 task payload ha
          · simp

/-- The functions that configure three registers. -/
def IsConfigure : Request → Prop
  | .vpe6060Configure .. | .vpe6080Configure .. => True
  | _ => False

/-- The act calls one of them for `c`, and its three requests are registered. -/
structure Configures (w : World) (a : Act) (c : Caller) (w' : World) : Prop where
  call : ∃ q, IsConfigure q ∧ ((∃ k os, a = .request q (some k) os ∧ c = .user k) ∨
    ∃ os, a = .sync q os ∧ c = .sync w.nextCall)
  step : step w a = some w'
  registered : w'.registry.head.length = w.registry.head.length + 3

theorem made_head_le {d : Option Caller} {r : Int} (hm : Made w d w' r) (hr : r < 0) :
    w'.registry.head = w.registry.head := by
  cases hm with
  | refused _ => rfl
  | withdrawn t _ hfree => rw [(freeRecord_cases hfree).2]; rfl
  | direct _ _ _ _ _ _ => omega
  | held _ _ _ _ _ _ => omega
  | counted _ _ _ _ _ _ _ _ => omega

theorem configures_tracked {a : Act} (hw : Reachable w) (h : Configures w a c w') :
    Tracked w.bus.issued.length w.nextRecord c w'.trace w' := by
  have hthree := h.registered
  obtain ⟨q, _, hcall⟩ := h.call
  rcases (step_cases h.step).2 with hd | ⟨f, _, rfl⟩
  swap
  · exact absurd hthree (by show ¬ w.registry.head.length = _; omega)
  have hrecords := records_reachable hw
  have hpoints := points_reachable hw
  have howned := owned_reachable hw
  rcases hcall with ⟨k, os, rfl, rfl⟩ | ⟨os, rfl, rfl⟩
  · cases hd with
    | request _ hm => exact made_tracked hrecords hpoints howned hm hthree
  · cases hd with
    | syncRefused _ hr hm =>
        have hhead := made_head_le hm hr
        dsimp only at hhead
        rw [hhead] at hthree
        omega
    | @syncEntered _ _ w₁ _ hm =>
        have h₁ : Tracked w.bus.issued.length w.nextRecord (.sync w.nextCall) w₁.trace w₁ :=
          made_tracked (w := { w with syncFlag := false, nextCall := w.nextCall + 1 })
            hrecords hpoints howned hm hthree
        exact h₁.beside (.of_eq rfl rfl rfl) ⟨.none rfl, rfl, rfl⟩

end

/-- The events of a run from `w` to `w'`. -/
def since (w w' : World) : List Event := w'.trace.take (w'.trace.length - w.trace.length)

theorem since_eq {w w' : World} {new : List Event} (h : w'.trace = new ++ w.trace) :
    since w w' = new := by
  unfold since
  rw [h, List.length_append, Nat.add_sub_cancel, List.take_left]

/-- Nothing refers to the record any more, and nothing will. -/
structure Forgotten (p : Nat) (w : World) : Prop where
  gone : recordAt w p = none
  tasks : ∀ t ∈ w.registry.head, ¬ PointsTo t p
  calls : ∀ task payload, .user (.completion task (some p)) payload ∉ w.stack
  unused : p < w.nextRecord

/-- What a caller hears of a configuration, after these events, and what becomes of the record. -/
structure ReportsOnce (n p : Nat) (c : Caller) (events : List Event) (w : World) : Prop where
  atMost : (completed n events).length ≤ 3
  /-- Not before the third completion. -/
  before : (completed n events).length < 3 →
    replies n events = [] ∧ (recordAt w p).isSome ∧ .recordFreed p ∉ events
  /-- At the third, with the first negative result in the order of the completions. -/
  third : (completed n events).length = 3 →
    replies n events = [(c, firstNegative ((completed n events).map Prod.snd))]
  /-- Then the record is freed once, as soon as the caller's function has returned. -/
  released : (completed n events).length = 3 →
    ((∃ task payload, .user (.completion task (some p)) payload ∈ w.stack) ∧
        (recordAt w p).isSome ∧ .recordFreed p ∉ events) ∨
      (events.count (.recordFreed p) = 1 ∧ Forgotten p w)

/-- Channel 2 of the 6060 of node 7, for `sample_interval`, `polarity` and so on. -/
def configuring : Act := .request (.vpe6060Configure 7 1 2 1 2) (some 0) (grantFrom 5)

/-- The second request times out first, then the other two are refused by the module. -/
def refusals : List Act :=
  [.tick, .expire 4, .receive (responseFrame .registerAccess 7 0 []) 0 true,
    .receive (responseFrame .registerAccess 7 2 []) 0 true, .ret, .idle 0]

end Wlmio.Proof
