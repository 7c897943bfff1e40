import Wlmio.Proof.Ledger
import Wlmio.Proof.Records

/-!
# What comes later

Requests get the next number and records the next address, so a task that was not there before is
of a later request, and points to a later record if to any. `step_later` says so of every step.
-/

namespace Wlmio.Proof

open Wlmio.Client Wlmio.Canard

/-! ## Tasks and what they point to -/

/-- The callback of a task or its `param` points to the record. -/
def PointsTo (t : TaskEntry) (p : Nat) : Prop := recordOf t.callback = some p ∨ t.param = .record p

/-- Requests and records are only added, and a new task is of a new request and points to none of
the old records. -/
structure Later (w w' : World) : Prop where
  issued : w.bus.issued.length ≤ w'.bus.issued.length
  nextRecord : w.nextRecord ≤ w'.nextRecord
  tasks : ∀ t ∈ w'.registry.head, t ∈ w.registry.head ∨
    (w.bus.issued.length ≤ t.serial ∧ ∀ p, PointsTo t p → w.nextRecord ≤ p ∧ p < w'.nextRecord)

section

variable {w w' : World}

theorem Later.of_head (hb : w'.bus.issued = w.bus.issued) (hn : w'.nextRecord = w.nextRecord)
    (hhead : ∀ t ∈ w'.registry.head, t ∈ w.registry.head) : Later w w' :=
  ⟨by rw [hb], Nat.le_of_eq hn.symm, fun t ht => .inl (hhead t ht)⟩

/-- A request adds one task at most, with the next serial number. -/
theorem submit_tasks {service : Service} {nodeId : Nat} {payload : List Byte} {param : Param}
    {callback : Option Callback} {os : Os}
    (h : submit w service nodeId payload param callback os = .ok w') :
    w'.bus.issued.length = w.bus.issued.length + 1 ∧
      (w'.registry.head = w.registry.head ∨ ∃ t, w'.registry.head = w.registry.head ++ [t] ∧
        t.serial = w.bus.issued.length ∧ t.param = param ∧ callback = some t.callback) := by
  obtain ⟨cb, rfl, ⟨_, rfl⟩ | ⟨_, rfl⟩⟩ := submit_cases h
  · exact ⟨busAfter_issued w service nodeId payload os, .inr ⟨_, rfl, rfl, rfl, rfl⟩⟩
  · exact ⟨busAfter_issued w service nodeId payload os, .inl rfl⟩

theorem submit_mem {service : Service} {nodeId : Nat} {payload : List Byte} {param : Param}
    {callback : Option Callback} {os : Os}
    (h : submit w service nodeId payload param callback os = .ok w') {t : TaskEntry}
    (ht : t ∈ w'.registry.head) : t ∈ w.registry.head ∨
      (t.serial = w.bus.issued.length ∧ t.param = param ∧ callback = some t.callback) := by
  rcases (submit_tasks h).2 with hhead | ⟨u, hhead, hu⟩
  · exact .inl (hhead ▸ ht)
  · rw [hhead] at ht
    rcases List.mem_append.mp ht with ht | ht
    · exact .inl ht
    · rw [List.mem_singleton.mp ht]
      exact .inr hu

theorem made_later {c : Option Caller} {r : Int} (h : Made w c w' r) : Later w w' := by
  cases h with
  | refused _ => exact .of_head rfl rfl (fun _ ht => ht)
  | withdrawn t _ hfree =>
      rw [(freeRecord_cases hfree).2]
      exact ⟨Nat.le_refl _, Nat.le_succ _, fun _ ht => .inl ht⟩
  | direct _ _ _ _ hparam hs =>
      refine ⟨by rw [(submit_tasks hs).1]; omega, Nat.le_of_eq (submit_frame hs).2.1.symm,
        fun t ht => (submit_mem hs ht).imp_right ?_⟩
      rintro ⟨hserial, rfl, hcb⟩
      refine ⟨Nat.le_of_eq hserial.symm, ?_⟩
      intro p hp
      rcases hp with hp | hp
      · obtain ⟨d, _, hd⟩ := Option.map_eq_some_iff.mp hcb
        rw [← hd] at hp
        cases hp
      · exact absurd hp (hparam p)
  | @held _ t cb _ _ _ _ hholder _ hs =>
      have hnext : w'.nextRecord = w.nextRecord + 1 := (submit_frame hs).2.1
      refine ⟨by rw [(submit_tasks hs).1]; exact Nat.le_succ _, by omega,
        fun u hu => (submit_mem hs hu).imp_right ?_⟩
      rintro ⟨hserial, hparam, hcb⟩
      refine ⟨Nat.le_of_eq hserial.symm, ?_⟩
      intro p hp
      have hp : p = w.nextRecord := by
        rcases hp with hp | hp
        · rw [← Option.some.inj hcb, (hholder.serves _).1] at hp
          exact (Option.some.inj hp).symm
        · rw [hparam] at hp
          simpa using hp.symm
      omega
  | @counted w₁ w₂ _ _ _ _ _ _ _ h₁ h₂ h₃ =>
      obtain ⟨hi₁, _⟩ := submit_tasks h₁
      obtain ⟨hi₂, _⟩ := submit_tasks h₂
      obtain ⟨hi₃, _⟩ := submit_tasks h₃
      have hnext : w'.nextRecord = w.nextRecord + 1 :=
        ((submit_frame h₃).2.1.trans (submit_frame h₂).2.1).trans (submit_frame h₁).2.1
      have hi₁ : w₁.bus.issued.length = w.bus.issued.length + 1 := hi₁
      -- a new task of any of the three requests
      have hnew : ∀ (v : World) (t : TaskEntry), w.bus.issued.length ≤ v.bus.issued.length →
          t.serial = v.bus.issued.length → t.param = .null →
          some (Callback.configure w.nextRecord) = some t.callback →
          w.bus.issued.length ≤ t.serial ∧
            ∀ p, PointsTo t p → w.nextRecord ≤ p ∧ p < w'.nextRecord := by
        intro v t hle hserial hparam hcb
        refine ⟨by omega, ?_⟩
        intro p hp
        rcases hp with hp | hp
        · rw [← Option.some.inj hcb] at hp
          obtain rfl := Option.some.inj hp
          omega
        · rw [hparam] at hp
          cases hp
      refine ⟨by omega, by omega, ?_⟩
      intro t ht
      rcases submit_mem h₃ ht with ht | ⟨hs, hp, hc⟩
      · rcases submit_mem h₂ ht with ht | ⟨hs, hp, hc⟩
        · rcases submit_mem h₁ ht with ht | ⟨hs, hp, hc⟩
          · exact .inl ht
          · exact .inr (hnew _ t (Nat.le_refl _) hs hp hc)
        · exact .inr (hnew w₁ t (by omega) hs hp hc)
      · exact .inr (hnew w₂ t (by omega) hs hp hc)

theorem finishCompletion_later {task : Nat} {record : Option Nat}
    (h : finishCompletion w task record = .ok w') : Later w w' := by
  have hcalls := finishCompletion_calls h
  refine .of_head (by rw [hcalls.bus]) hcalls.nextRecord ?_
  intro t ht
  rw [(finishCompletion_lists h).1] at ht
  exact (List.mem_filter.mp ht).1

theorem complete_later {t : TaskEntry} {r : Int} {rest : Option Rest}
    (h : complete w t r = .ok (w', rest)) : Later w w' := by
  obtain ⟨w₁, user, record, hcall, hrest⟩ := complete_cases h
  have hframe := hcall.frame
  have h₁ : Later w w₁ := by
    refine .of_head (by rw [hframe.bus]; rfl) hframe.nextRecord ?_
    intro u hu
    rw [hframe.registry] at hu
    exact hu
  rcases hrest with ⟨_, _, rfl⟩ | ⟨_, _, hfin⟩
  · exact h₁
  · have h₂ := finishCompletion_later hfin
    refine ⟨h₁.issued.trans h₂.issued, h₁.nextRecord.trans h₂.nextRecord, fun u hu => .inl ?_⟩
    rw [(finishCompletion_lists hfin).1, hframe.registry] at hu
    exact (List.mem_filter.mp hu).1

theorem Resumed.later {rest : Option Rest} (hr : Resumed w rest w') : Later w w' :=
  .of_head hr.issued hr.nextRecord (fun _ ht => hr.registry ▸ ht)

theorem Later.trans {w₁ w₂ w₃ : World} (h : Later w₁ w₂) (h' : Later w₂ w₃) : Later w₁ w₃ := by
  refine ⟨h.issued.trans h'.issued, h.nextRecord.trans h'.nextRecord, ?_⟩
  intro t ht
  rcases h'.tasks t ht with ht | ⟨hserial, hpoints⟩
  · rcases h.tasks t ht with ht | ⟨hserial, hpoints⟩
    · exact .inl ht
    · refine .inr ⟨hserial, fun p hp => ?_⟩
      obtain ⟨hge, hlt⟩ := hpoints p hp
      exact ⟨hge, Nat.lt_of_lt_of_le hlt h'.nextRecord⟩
  · refine .inr ⟨h.issued.trans hserial, fun p hp => ?_⟩
    obtain ⟨hge, hlt⟩ := hpoints p hp
    exact ⟨h.nextRecord.trans hge, hlt⟩

/-- Nothing changes but the calls, the trace and the bus below the requests. -/
theorem Later.of_eq (hr : w'.registry = w.registry) (hb : w'.bus.issued = w.bus.issued)
    (hn : w'.nextRecord = w.nextRecord) : Later w w' :=
  .of_head hb hn (fun _ ht => hr ▸ ht)

theorem reportStatus_later {node : Nat} {old : WlmioStatus} {rest : Option Rest}
    (h : reportStatus w node old = (w', rest)) : Later w w' := by
  rcases reportStatus_cases h with ⟨_, rfl, _⟩ | ⟨_, rfl, _⟩
  · exact .of_eq rfl rfl rfl
  · exact .of_eq rfl rfl rfl

/-- **Every act.** -/
theorem did_later {a : Act} (hd : Did w a w') : Later w w' := by
  cases hd with
  | request _ hm => exact made_later hm
  | syncRefused _ _ hm =>
      have h₁ := made_later hm
      exact ⟨h₁.issued, h₁.nextRecord, h₁.tasks⟩
  | syncEntered _ hm =>
      have h₁ := made_later hm
      exact ⟨h₁.issued, h₁.nextRecord, h₁.tasks⟩
  | setTimeout _ => exact .of_eq rfl rfl rfl
  | setStatusCallback _ => exact .of_eq rfl rfl rfl
  | tick _ => exact .of_eq rfl rfl rfl
  | @taskExpired _ _ w₁ rest _ _ _ _ _ _ _ _ hc =>
      exact (complete_later hc).trans (resume_frame w₁ rest none).later
  | @nodeExpired _ r _ _ _ w₁ rest _ _ _ _ _ hx hrep =>
      have h₁ : Later w { w with registry := r } :=
        .of_head rfl rfl (fun t ht => (timeout_edit hx).head ▸ ht)
      exact (h₁.trans (reportStatus_later hrep)).trans (resume_frame w₁ rest none).later
  | collected _ _ => exact .of_eq rfl rfl rfl
  | ignored _ _ => exact .of_eq rfl rfl rfl
  | @beat _ _ _ canard _ w₁ rest _ payload _ _ _ hb =>
      obtain ⟨r, old, hr, hrest⟩ := hb
      have h₁ : Later w { withCanard w canard with registry := r } :=
        .of_head rfl rfl (fun t ht => (heartbeat_edit hr).head ▸ ht)
      rcases hrest with ⟨_, rfl, rfl⟩ | ⟨o, _, hrep⟩
      · exact h₁.trans (resume_frame _ none payload).later
      · exact (h₁.trans (reportStatus_later hrep)).trans (resume_frame w₁ rest payload).later
  | @response _ _ _ canard _ _ tfr w₁ rest _ payload _ _ _ _ _ hr =>
      have h₀ : Later w (withCanard w canard) := .of_eq rfl rfl rfl
      rcases hr with ⟨_, rfl, rfl⟩ | ⟨t, w₂, r, _, hw, hc⟩
      · exact h₀.trans (resume_frame _ none payload).later
      · have hframe := hw.frame.1
        have h₁ : Later (withCanard w canard) w₂ :=
          .of_eq hframe.registry (by rw [hframe.bus]) hframe.nextRecord
        exact ((h₀.trans h₁).trans (complete_later hc)).trans (resume_frame w₁ rest payload).later
  | @idle sends _ _ => exact .of_eq rfl (uavcanSend_frame w.bus sends).1 rfl
  | syncReturned _ _ => exact .of_eq rfl rfl rfl
  | looped _ _ => exact .of_eq rfl rfl rfl
  | @completed task record payload stack w₁ _ hfin =>
      have h₁ := finishCompletion_later hfin
      exact ⟨h₁.issued, h₁.nextRecord, h₁.tasks⟩
  | reported _ => exact .of_eq rfl rfl rfl

theorem step_later {a : Act} (h : step w a = some w') : Later w w' := by
  rcases (step_cases h).2 with hd | ⟨f, _, rfl⟩
  · exact did_later hd
  · exact .of_eq rfl rfl rfl

/-- No task points to a record that is not there yet. -/
def PointsBelow (w : World) : Prop :=
  ∀ t ∈ w.registry.head, ∀ p, PointsTo t p → p < w.nextRecord

theorem points_reachable (h : Reachable w) : PointsBelow w := by
  refine Transition.Reaches.invariant ?_ ?_ h
  · intro w hw t ht
    rw [(fresh_of_initial hw).head] at ht
    simp at ht
  · intro w a w' _ _ hpoints hs t ht p hp
    have hlater := step_later hs
    rcases hlater.tasks t ht with ht | ⟨_, hnew⟩
    · exact Nat.lt_of_lt_of_le (hpoints t ht p hp) hlater.nextRecord
    · exact (hnew p hp).2

end

end Wlmio.Proof
