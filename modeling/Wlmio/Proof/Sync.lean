import Wlmio.Proof.Records
import Wlmio.Proof.Scenario

/-!
# Synchronous calls

All synchronous calls wait for one flag and take one result. A call gets its own result as
long as no other is in its loop (`own_results`): then the flag is raised by the callback of
that call only, there is one task or record that will call it, and when it has there is
none. A synchronous call made inside the loop of another breaks this
(`nested_call_returns_early`).
-/

namespace Wlmio.Proof

open Wlmio.Client Wlmio.Canard

/-! ## What is said about synchronous calls -/

/-- The synchronous calls that are in their loops. -/
def syncCalls (stack : List Activation) : List Nat :=
  stack.filterMap (fun a => match a with
    | .sync call => some call
    | _ => none)

/-- The events that are about synchronous calls. -/
def talk (trace : List Event) : List Event :=
  trace.filter (fun e => match e with
    | .delivered .. => true
    | .syncReturned .. => true
    | _ => false)

/-- The call that a result is delivered to. -/
def deliveredTo : Event → Option Nat
  | .delivered call _ => some call
  | _ => none

/-- Every call that returned had the result delivered before. -/
def Answered : List Event → Prop
  | [] => True
  | .syncReturned call r :: trace => .delivered call r ∈ trace ∧ Answered trace
  | _ :: trace => Answered trace

theorem delivered_mem_talk {call : Nat} {r : Int} {trace : List Event} :
    .delivered call r ∈ talk trace ↔ .delivered call r ∈ trace := by
  simp [talk]

theorem syncReturned_mem_talk {call : Nat} {r : Int} {trace : List Event} :
    .syncReturned call r ∈ talk trace ↔ .syncReturned call r ∈ trace := by
  simp [talk]

theorem talk_append (new trace : List Event) : talk (new ++ trace) = talk new ++ talk trace :=
  List.filter_append _ _

theorem filterMap_talk (trace : List Event) :
    (talk trace).filterMap deliveredTo = trace.filterMap deliveredTo := by
  unfold talk
  rw [List.filterMap_filter]
  refine List.filterMap_congr ?_
  intro e _
  cases e <;> rfl

theorem Answered.suffix {post pre : List Event} (h : Answered (post ++ pre)) : Answered pre := by
  induction post with
  | nil => exact h
  | cons e post ih =>
      refine ih ?_
      cases e <;> first | exact h | exact h.2

/-! ## Who owes a result -/

/-- Where the result of a call can come from. -/
inductive Place where
  | task (addr : Nat)
  | record (p : Nat)
deriving DecidableEq

/-- The task or record at a place will call `sync_callback` for this call. -/
def Owes (w : World) (call : Nat) : Place → Prop
  | .task addr => ∃ t ∈ w.registry.head, t.addr = addr ∧ t.callback = .caller (.sync call)
  | .record p => ∃ u, (p, u) ∈ w.records ∧ u.callback = some (.sync call)

/-- At most one call is in its loop, and all there is about synchronous calls is about it. -/
structure Synced (w : World) : Prop where
  alone : (syncCalls w.stack).length ≤ 1
  entered_lt : ∀ call ∈ syncCalls w.stack, call < w.nextCall
  said_lt : ∀ call r, .delivered call r ∈ talk w.trace ∨ .syncReturned call r ∈ talk w.trace →
    call < w.nextCall
  /-- Only a call in its loop that has no result yet is owed one. -/
  owed : ∀ call x, Owes w call x →
    call ∈ syncCalls w.stack ∧ ∀ r, .delivered call r ∉ talk w.trace
  /-- And it is owed at one place. -/
  place : ∀ call call' x y, Owes w call x → Owes w call' y → x = y
  /-- The flag means that the result is there. -/
  flag : w.syncFlag = true → ∀ call ∈ syncCalls w.stack, .delivered call w.syncReturn ∈ talk w.trace
  /-- And nothing clears it until the call returns. -/
  kept : ∀ call ∈ syncCalls w.stack, ∀ r, .delivered call r ∈ talk w.trace →
    w.syncFlag = true ∧ w.syncReturn = r
  gone : ∀ call r, .syncReturned call r ∈ talk w.trace → call ∉ syncCalls w.stack
  once : ((talk w.trace).filterMap deliveredTo).Nodup
  answered : Answered (talk w.trace)

/-- Nothing is said about synchronous calls, and no more is owed. -/
structure Quiet (w w' : World) : Prop where
  stack : syncCalls w'.stack = syncCalls w.stack
  nextCall : w'.nextCall = w.nextCall
  syncFlag : w'.syncFlag = w.syncFlag
  syncReturn : w'.syncReturn = w.syncReturn
  talk : talk w'.trace = talk w.trace
  owes : ∀ call x, Owes w' call x → Owes w call x

/-- A result is delivered to `call` and is not owed any more. -/
structure Told (w : World) (call : Nat) (r : Int) (w' : World) : Prop where
  stack : syncCalls w'.stack = syncCalls w.stack
  nextCall : w'.nextCall = w.nextCall
  syncFlag : w'.syncFlag = true
  syncReturn : w'.syncReturn = r
  talk : Proof.talk w'.trace = .delivered call r :: Proof.talk w.trace
  owes : ∃ x, Owes w call x ∧ ∀ call' y, Owes w' call' y → Owes w call' y ∧ y ≠ x

section

variable {w w' w₁ w₂ w₃ : World}

theorem Quiet.refl (w : World) : Quiet w w := ⟨rfl, rfl, rfl, rfl, rfl, fun _ _ h => h⟩

theorem Quiet.trans (h : Quiet w₁ w₂) (h' : Quiet w₂ w₃) : Quiet w₁ w₃ :=
  ⟨h'.stack.trans h.stack, h'.nextCall.trans h.nextCall, h'.syncFlag.trans h.syncFlag,
    h'.syncReturn.trans h.syncReturn, h'.talk.trans h.talk,
    fun call x hx => h.owes call x (h'.owes call x hx)⟩

theorem Synced.quiet (h : Synced w) (hq : Quiet w w') : Synced w' where
  alone := by rw [hq.stack]; exact h.alone
  entered_lt := by rw [hq.stack, hq.nextCall]; exact h.entered_lt
  said_lt := by rw [hq.talk, hq.nextCall]; exact h.said_lt
  owed := by
    intro call x hx
    rw [hq.stack, hq.talk]
    exact h.owed call x (hq.owes call x hx)
  place := fun call call' x y hx hy =>
    h.place call call' x y (hq.owes call x hx) (hq.owes call' y hy)
  flag := by rw [hq.syncFlag, hq.stack, hq.syncReturn, hq.talk]; exact h.flag
  kept := by rw [hq.syncFlag, hq.stack, hq.syncReturn, hq.talk]; exact h.kept
  gone := by rw [hq.stack, hq.talk]; exact h.gone
  once := by rw [hq.talk]; exact h.once
  answered := by rw [hq.talk]; exact h.answered

theorem eq_of_length_le_one {l : List Nat} (h : l.length ≤ 1) {a b : Nat} (ha : a ∈ l)
    (hb : b ∈ l) : a = b := by
  match l, h with
  | [c], _ => rw [List.mem_singleton.mp ha, List.mem_singleton.mp hb]
  | [], _ => simp at ha
  | _ :: _ :: _, h => simp at h

/-- **A delivery is for the call in the loop.** -/
theorem Synced.told (h : Synced w) {call : Nat} {r : Int} (ht : Told w call r w') : Synced w' := by
  obtain ⟨x, hx, howes⟩ := ht.owes
  obtain ⟨hin, hnever⟩ := h.owed call x hx
  -- a call is owed its result at one place, and this place is gone
  have hnone : ∀ call' y, ¬ Owes w' call' y := by
    intro call' y hy
    obtain ⟨hold, hne⟩ := howes call' y hy
    exact hne (h.place call' call y x hold hx)
  constructor
  · rw [ht.stack]; exact h.alone
  · rw [ht.stack, ht.nextCall]; exact h.entered_lt
  · intro call' r' hsaid
    rw [ht.talk] at hsaid
    rw [ht.nextCall]
    rcases hsaid with hsaid | hsaid
    · rcases List.mem_cons.mp hsaid with heq | hsaid
      · obtain ⟨rfl, _⟩ := Event.delivered.inj heq
        exact h.entered_lt _ hin
      · exact h.said_lt call' r' (.inl hsaid)
    · rcases List.mem_cons.mp hsaid with heq | hsaid
      · cases heq
      · exact h.said_lt call' r' (.inr hsaid)
  · exact fun call' y hy => absurd hy (hnone call' y)
  · exact fun call' _ y _ hy _ => absurd hy (hnone call' y)
  · intro _ call' hin'
    rw [ht.stack] at hin'
    rw [ht.syncReturn, ht.talk, eq_of_length_le_one h.alone hin' hin]
    exact List.mem_cons_self
  · intro call' hin' r' hdel
    rw [ht.stack] at hin'
    rw [ht.talk] at hdel
    rcases List.mem_cons.mp hdel with heq | hdel
    · rw [(Event.delivered.inj heq).2]
      exact ⟨ht.syncFlag, ht.syncReturn⟩
    · rw [eq_of_length_le_one h.alone hin' hin] at hdel
      exact absurd hdel (hnever r')
  · intro call' r' hret
    rw [ht.talk] at hret
    rw [ht.stack]
    rcases List.mem_cons.mp hret with heq | hret
    · cases heq
    · exact h.gone call' r' hret
  · rw [ht.talk]
    refine List.nodup_cons.mpr ⟨fun hmem => ?_, h.once⟩
    obtain ⟨e, he, hdel⟩ := List.mem_filterMap.mp hmem
    cases e <;> cases hdel
    -- a second delivery to the call would be one that it is still owed
    exact hnever _ he
  · rw [ht.talk]
    exact h.answered

/-! ## Completions -/

/-- Rewriting a record does not change whom it will call. -/
theorem owes_setRecord {p : Nat} {u u' : IoRecord} (hu : recordAt w p = some u)
    (hc : u'.callback = u.callback) {call : Nat} {x : Place}
    (h : Owes (setRecord w p u') call x) : Owes w call x := by
  cases x with
  | task addr => exact h
  | record q =>
      obtain ⟨v, hv, hcall⟩ := h
      obtain ⟨⟨q₀, v₀⟩, hv₀, heq⟩ := List.mem_map.mp hv
      split at heq
      · obtain ⟨rfl, rfl⟩ := Prod.mk.inj heq
        exact ⟨u, recordAt_mem hu, hc ▸ hcall⟩
      · obtain ⟨rfl, rfl⟩ := Prod.mk.inj heq
        exact ⟨v₀, hv₀, hcall⟩

theorem quiet_log {e : Event} (he : talk [e] = []) : Quiet w (w.log e) := by
  refine ⟨rfl, rfl, rfl, rfl, ?_, fun _ _ h => h⟩
  have happ := talk_append [e] w.trace
  rw [he] at happ
  exact happ

/-- A callback delivers a result, to the call that its task or record owes it, or says nothing. -/
theorem calls_told {cb : Callback} {user : Bool} {record : Option Nat}
    (h : Calls w cb w' user record) :
    Quiet w w' ∨ ∃ call r, user = false ∧ syncCalls w'.stack = syncCalls w.stack ∧
      w'.nextCall = w.nextCall ∧ w'.syncFlag = true ∧ w'.syncReturn = r ∧
      talk w'.trace = .delivered call r :: talk w.trace ∧
      (∀ call' y, Owes w' call' y → Owes w call' y) ∧
      (cb = .caller (.sync call) ∨ ∃ p, record = some p ∧ Owes w call (.record p)) := by
  have hcaller : ∀ {v : World} {c : Option Caller} {r : Int}, Quiet w v →
      callCaller v c r = .ok (w', user) →
      Quiet w w' ∨ ∃ call, c = some (.sync call) ∧ user = false ∧
        syncCalls w'.stack = syncCalls w.stack ∧ w'.nextCall = w.nextCall ∧
        w'.syncFlag = true ∧ w'.syncReturn = r ∧
        talk w'.trace = .delivered call r :: talk w.trace ∧
        ∀ call' y, Owes w' call' y → Owes w call' y := by
    intro v c r hq hcall
    rcases callCaller_cases hcall with ⟨k, _, _, rfl⟩ | ⟨call, rfl, rfl, rfl⟩
    · exact .inl (hq.trans (quiet_log rfl))
    · refine .inr ⟨call, rfl, rfl, hq.stack, hq.nextCall, rfl, rfl, ?_, hq.owes⟩
      rw [← hq.talk]
      rfl
  cases h with
  | caller hcall =>
      rcases hcaller (Quiet.refl w) hcall with hq | ⟨call, heq, hu, h₁, h₂, h₃, h₄, h₅, h₆⟩
      · exact .inl hq
      · rw [Option.some.inj heq]
        exact .inr ⟨call, _, hu, h₁, h₂, h₃, h₄, h₅, h₆, .inl rfl⟩
  | @held p u _ v _ _ _ hrec _ _ _ hw hcall =>
      have hq : Quiet w v := by
        rcases hw with rfl | ⟨_, _, rfl⟩
        · exact Quiet.refl v
        · exact quiet_log rfl
      rcases hcaller hq hcall with hq | ⟨call, heq, hu, h₁, h₂, h₃, h₄, h₅, h₆⟩
      · exact .inl hq
      · exact .inr ⟨call, _, hu, h₁, h₂, h₃, h₄, h₅, h₆,
          .inr ⟨p, rfl, u, recordAt_mem hrec, heq⟩⟩
  | counting hrec _ =>
      exact .inl ⟨rfl, rfl, rfl, rfl, rfl, fun _ _ hx => owes_setRecord hrec (by rfl) hx⟩
  | @counted p counter cancelled _ r c _ _ hrec _ hcall =>
      have hq : Quiet w (setRecord w p (.configure ((counter + 1) % 256) cancelled r c)) :=
        ⟨rfl, rfl, rfl, rfl, rfl, fun _ _ hx => owes_setRecord hrec (by rfl) hx⟩
      rcases hcaller hq hcall with hq | ⟨call, heq, hu, h₁, h₂, h₃, h₄, h₅, h₆⟩
      · exact .inl hq
      · exact .inr ⟨call, _, hu, h₁, h₂, h₃, h₄, h₅, h₆,
          .inr ⟨p, rfl, _, recordAt_mem hrec, heq⟩⟩

theorem finishCompletion_quiet {task : Nat} {record : Option Nat}
    (h : finishCompletion w task record = .ok w') :
    Quiet w w' ∧ ∀ call y, Owes w' call y →
      y ≠ .task task ∧ ∀ p ∈ record, y ≠ .record p := by
  obtain ⟨hhead, hrecords⟩ := finishCompletion_lists h
  have hcontrol := finishCompletion_control h
  have howes : ∀ call y, Owes w' call y → Owes w call y ∧ y ≠ .task task ∧
      ∀ p ∈ record, y ≠ .record p := by
    intro call y hy
    cases y with
    | task addr =>
        obtain ⟨t, ht, rfl, hcb⟩ := hy
        rw [hhead] at ht
        obtain ⟨htm, hne⟩ := KeyedList.mem_without.mp ht
        exact ⟨⟨t, htm, rfl, hcb⟩, by simpa using hne, by simp⟩
    | record p =>
        obtain ⟨u, hu, hcb⟩ := hy
        rw [hrecords] at hu
        obtain ⟨hum, hne⟩ := List.mem_filter.mp hu
        refine ⟨⟨u, hum, hcb⟩, by simp, ?_⟩
        rintro q hq heq
        obtain rfl : p = q := by simpa using heq
        exact of_decide_eq_true hne hq.symm
  refine ⟨⟨by rw [hcontrol.stack], hcontrol.nextCall, hcontrol.syncFlag, hcontrol.syncReturn, ?_,
    fun call y hy => (howes call y hy).1⟩, fun call y hy => (howes call y hy).2⟩
  obtain ⟨w₁, hrel, hcases⟩ := finishCompletion_cases h
  have htalk : talk w₁.trace = talk w.trace := by
    rcases hrel with ⟨_, rfl⟩ | ⟨p, _, _, rfl⟩
    · rfl
    · rfl
  rcases hcases with ⟨_, rfl⟩ | ⟨t, e, _, _, rfl⟩
  · exact htalk
  · exact htalk

/-- **A completion** delivers the one result that its task or record owes, or none. -/
theorem complete_told {t : TaskEntry} {r : Int} {rest : Option Rest} (ht : t ∈ w.registry.head)
    (h : complete w t r = .ok (w', rest)) : Quiet w w' ∨ ∃ call r', Told w call r' w' := by
  obtain ⟨w₁, user, record, hcall, hrest⟩ := complete_cases h
  have hlog : Quiet w (w.log (.invoked t.addr t.serial r)) := quiet_log rfl
  rcases calls_told hcall with hq | ⟨call, r', hu, h₁, h₂, h₃, h₄, h₅, h₆, hfrom⟩
  · left
    rcases hrest with ⟨_, _, rfl⟩ | ⟨_, _, hfin⟩
    · exact hlog.trans hq
    · exact (hlog.trans hq).trans (finishCompletion_quiet hfin).1
  · right
    rcases hrest with ⟨huser, _⟩ | ⟨_, _, hfin⟩
    · rw [hu] at huser
      cases huser
    · obtain ⟨hq, hgone⟩ := finishCompletion_quiet hfin
      refine ⟨call, r', hq.stack.trans h₁, hq.nextCall.trans h₂, hq.syncFlag.trans h₃,
        hq.syncReturn.trans h₄, hq.talk.trans h₅, ?_⟩
      rcases hfrom with hcb | ⟨p, rfl, howes⟩
      · exact ⟨.task t.addr, ⟨t, ht, rfl, hcb⟩,
          fun call' y hy => ⟨h₆ call' y (hq.owes call' y hy), (hgone call' y hy).1⟩⟩
      · exact ⟨.record p, howes,
          fun call' y hy => ⟨h₆ call' y (hq.owes call' y hy), (hgone call' y hy).2 p rfl⟩⟩

theorem wrote_quiet {t : TaskEntry} (h : Wrote w t w') : Quiet w w' := by
  cases h with
  | nothing => exact Quiet.refl w
  | @buffer e he _ =>
      refine quiet_log ?_
      cases he <;> rfl
  | @record p u u' v _ hrec hst =>
      have hc : u'.callback = u.callback := by cases hst <;> rfl
      have hlog : Quiet w (w.log (.wroteRegister t.param v)) := quiet_log rfl
      exact ⟨rfl, rfl, rfl, rfl, hlog.talk,
        fun call x hx => owes_setRecord (w := w.log (.wroteRegister t.param v)) hrec hc hx⟩

/-! ## Requests -/

theorem submit_quiet {service : Service} {nodeId : Nat} {payload : List Byte} {param : Param}
    {callback : Option Callback} {os : Os}
    (h : submit w service nodeId payload param callback os = .ok w') :
    talk w'.trace = talk w.trace ∧ ∀ call x, Owes w' call x → Owes w call x ∨
      (x = .task w.registry.next ∧ callback = some (.caller (.sync call))) := by
  obtain ⟨cb, rfl, ⟨_, rfl⟩ | ⟨_, rfl⟩⟩ := submit_cases h
  · refine ⟨rfl, ?_⟩
    intro call x hx
    cases x with
    | task addr =>
        obtain ⟨t, ht, rfl, hcb⟩ := hx
        rcases List.mem_append.mp ht with ht | ht
        · exact .inl ⟨t, ht, rfl, hcb⟩
        · obtain rfl := List.mem_singleton.mp ht
          exact .inr ⟨rfl, congrArg some hcb⟩
    | record p => exact .inl hx
  · exact ⟨rfl, fun call x hx => .inl hx⟩

theorem owes_addRecord {u : IoRecord} {call : Nat} {x : Place} (h : Owes (addRecord w u) call x) :
    Owes w call x ∨ (x = .record w.nextRecord ∧ u.callback = some (.sync call)) := by
  cases x with
  | task addr => exact .inl h
  | record p =>
      obtain ⟨v, hv, hc⟩ := h
      rcases List.mem_append.mp hv with hv | hv
      · exact .inl ⟨v, hv, hc⟩
      · obtain ⟨rfl, rfl⟩ := Prod.mk.inj (List.mem_singleton.mp hv)
        exact .inr ⟨rfl, hc⟩

/-- **A call is owed a result at one place**, and only if it is accepted. -/
theorem made_owes {c : Option Caller} {r : Int} (h : Made w c w' r) :
    talk w'.trace = talk w.trace ∧ ∃ z, ∀ call x, Owes w' call x → Owes w call x ∨
      (x = z ∧ c = some (.sync call) ∧ 0 ≤ r) := by
  cases h with
  | refused _ => exact ⟨rfl, .task 0, fun _ _ hx => .inl hx⟩
  | withdrawn t _ hfree =>
      -- the new record is freed before anything points to it
      rw [(freeRecord_cases hfree).2]
      refine ⟨rfl, .record w.nextRecord, fun call x hx => .inl ?_⟩
      cases x with
      | task addr => exact hx
      | record p =>
          obtain ⟨u, hu, hc⟩ := hx
          obtain ⟨hum, hne⟩ := List.mem_filter.mp hu
          rcases owes_addRecord (x := .record p) ⟨u, hum, hc⟩ with hold | ⟨heq, _⟩
          · exact hold
          · obtain rfl : p = w.nextRecord := by simpa using heq
            simp at hne
  | direct _ _ _ _ _ hs =>
      obtain ⟨htalk, howes⟩ := submit_quiet hs
      refine ⟨htalk, .task w.registry.next, ?_⟩
      intro call x hx
      rcases howes call x hx with hold | ⟨rfl, hcb⟩
      · exact .inl hold
      · obtain ⟨c', rfl, heq⟩ := Option.map_eq_some_iff.mp hcb
        obtain rfl : c' = .sync call := by simpa using heq
        exact .inr ⟨rfl, rfl, Int.le_refl 0⟩
  | @held _ t cb _ _ _ _ ht hc hs =>
      obtain ⟨htalk, howes⟩ := submit_quiet hs
      refine ⟨htalk, .record w.nextRecord, ?_⟩
      intro call x hx
      rcases howes call x hx with hold | ⟨_, hcb⟩
      · rcases owes_addRecord hold with hold | ⟨rfl, hrec⟩
        · exact .inl hold
        · exact .inr ⟨rfl, hc ▸ hrec, Int.le_refl 0⟩
      · -- the callback of the task is that of the record, not the caller's
        cases ht <;> cases hcb
  | counted _ _ _ _ _ h₁ h₂ h₃ =>
      obtain ⟨htalk₁, howes₁⟩ := submit_quiet h₁
      obtain ⟨htalk₂, howes₂⟩ := submit_quiet h₂
      obtain ⟨htalk₃, howes₃⟩ := submit_quiet h₃
      refine ⟨(htalk₃.trans htalk₂).trans htalk₁, .record w.nextRecord, ?_⟩
      intro call x hx
      rcases howes₃ call x hx with hx | ⟨_, hcb⟩
      · rcases howes₂ call x hx with hx | ⟨_, hcb⟩
        · rcases howes₁ call x hx with hx | ⟨_, hcb⟩
          · rcases owes_addRecord hx with hold | ⟨rfl, hrec⟩
            · exact .inl hold
            · exact .inr ⟨rfl, hrec, Int.le_refl 0⟩
          · cases hcb
        · cases hcb
      · cases hcb

end

/-! ## Acts -/

/-- No synchronous call is made while another is in its loop. -/
def OneSync (w : World) : Act → Prop
  | .sync .. => syncCalls w.stack = []
  | _ => True

instance (w : World) (a : Act) : Decidable (OneSync w a) :=
  match a with
  | .sync .. => inferInstanceAs (Decidable (syncCalls w.stack = []))
  | .request .. | .setTimeout _ | .setStatusCallback _ | .tick | .expire _ | .receive .. | .idle _
  | .loop | .ret => isTrue trivial

section

variable {w w' : World}

theorem Resumed.quiet {rest : Option Rest} (h : Resumed w rest w') : Quiet w w' where
  stack := by
    rcases h.stack with ⟨_, hs⟩ | ⟨r, payload, _, hs⟩
    · rw [hs]
    · rw [hs]; rfl
  nextCall := h.nextCall
  syncFlag := h.syncFlag
  syncReturn := h.syncReturn
  talk := by rw [h.trace]
  owes := by
    intro call x hx
    cases x with
    | task addr => unfold Owes at hx ⊢; rw [h.registry] at hx; exact hx
    | record p => unfold Owes at hx ⊢; rw [h.records] at hx; exact hx

theorem reportStatus_quiet {node : Nat} {old : WlmioStatus} {rest : Option Rest}
    (h : reportStatus w node old = (w', rest)) : Quiet w w' := by
  rcases reportStatus_cases h with ⟨_, rfl, _⟩ | ⟨_, rfl, _⟩
  · exact quiet_log rfl
  · exact Quiet.refl _

theorem Quiet.of_registry {r : Registry} (h : r.head = w.registry.head) :
    Quiet w { w with registry := r } := by
  refine ⟨rfl, rfl, rfl, rfl, rfl, ?_⟩
  intro call x hx
  cases x with
  | task addr =>
      obtain ⟨t, ht, hrest⟩ := hx
      exact ⟨t, h ▸ ht, hrest⟩
  | record p => exact hx

/-- A handler that completes a task and then resumes. -/
theorem Synced.resumed {v : World} {rest : Option Rest} (h : Synced w)
    (ht : Quiet w v ∨ ∃ call r, Told w call r v) (hr : Resumed v rest w') : Synced w' := by
  rcases ht with hq | ⟨call, r, ht⟩
  · exact h.quiet (hq.trans hr.quiet)
  · exact (h.told ht).quiet hr.quiet

/-- A synchronous call clears the flag, whether it is accepted or not. -/
theorem Synced.clear (h : Synced w) (hnone : syncCalls w.stack = []) :
    Synced { w with syncFlag := false, nextCall := w.nextCall + 1 } :=
  { h with
    entered_lt := fun call hc => Nat.lt_succ_of_lt (h.entered_lt call hc)
    said_lt := fun call r hc => Nat.lt_succ_of_lt (h.said_lt call r hc)
    flag := by simp
    kept := by
      intro call hin
      have hin : call ∈ syncCalls w.stack := hin
      rw [hnone] at hin
      exact absurd hin List.not_mem_nil }

/-- **A synchronous call enters its loop**, if no other is in one. -/
theorem Synced.enter (h : Synced w) (hnone : syncCalls w.stack = [])
    (hm : Made { w with syncFlag := false, nextCall := w.nextCall + 1 }
      (some (.sync w.nextCall)) w' 0) :
    Synced { w' with stack := .sync w.nextCall :: w'.stack } := by
  have hcontrol := hm.control
  obtain ⟨htalk, z, howes⟩ := made_owes hm
  have hcalls : syncCalls (.sync w.nextCall :: w'.stack) = [w.nextCall] := by
    rw [hcontrol.stack]
    show w.nextCall :: syncCalls w.stack = _
    rw [hnone]
  -- without another call in its loop nothing was owed before
  have hnew : ∀ call x, Owes w' call x → x = z ∧ call = w.nextCall := by
    intro call x hx
    rcases howes call x hx with hold | ⟨rfl, heq, _⟩
    · have hin := (h.owed call x hold).1
      rw [hnone] at hin
      simp at hin
    · exact ⟨rfl, by simpa using heq.symm⟩
  -- the new call is greater than any that was spoken of
  have hsaid : ∀ call r, .delivered call r ∈ talk w'.trace ∨ .syncReturned call r ∈ talk w'.trace →
      call < w.nextCall := by
    rw [htalk]
    exact h.said_lt
  constructor
  · rw [hcalls]; exact Nat.le_refl 1
  · intro call hin
    rw [hcalls] at hin
    rw [List.mem_singleton.mp hin]
    show w.nextCall < w'.nextCall
    rw [hcontrol.nextCall]
    exact Nat.lt_succ_self _
  · intro call r hc
    show call < w'.nextCall
    rw [hcontrol.nextCall]
    exact Nat.lt_succ_of_lt (hsaid call r hc)
  · intro call x hx
    obtain ⟨_, rfl⟩ := hnew call x hx
    refine ⟨by rw [hcalls]; exact List.mem_singleton.mpr rfl, ?_⟩
    intro r hdel
    exact Nat.lt_irrefl _ (hsaid _ r (.inl hdel))
  · intro call call' x y hx hy
    rw [(hnew call x hx).1, (hnew call' y hy).1]
  · intro hflag
    have hclear : w'.syncFlag = false := hcontrol.syncFlag
    rw [hclear] at hflag
    cases hflag
  · intro call hin r hdel
    rw [hcalls] at hin
    rw [List.mem_singleton.mp hin] at hdel
    exact absurd (hsaid _ r (.inl hdel)) (Nat.lt_irrefl _)
  · intro call r hret hin
    rw [hcalls] at hin
    rw [List.mem_singleton.mp hin] at hret
    exact Nat.lt_irrefl _ (hsaid _ r (.inr hret))
  · show ((talk w'.trace).filterMap deliveredTo).Nodup
    rw [htalk]
    exact h.once
  · show Answered (talk w'.trace)
    rw [htalk]
    exact h.answered

/-- **A synchronous call returns**: its result is there, and nothing owes it another. -/
theorem Synced.leave (h : Synced w) {call : Nat} {stack : List Activation}
    (hs : w.stack = .sync call :: stack) (hflag : w.syncFlag = true) :
    Synced ({ w with stack := stack }.log (.syncReturned call w.syncReturn)) := by
  have hcalls : syncCalls w.stack = call :: syncCalls stack := by rw [hs]; rfl
  have hnone : syncCalls stack = [] := by
    have hlen := h.alone
    rw [hcalls] at hlen
    exact List.length_eq_zero_iff.mp (by simpa using hlen)
  have hin : call ∈ syncCalls w.stack := by rw [hcalls]; exact List.mem_cons_self
  have hthere := h.flag hflag call hin
  -- what is delivered is owed no more
  have hpaid : ∀ call' x, ¬ Owes w call' x := by
    intro call' x hx
    obtain ⟨hin', hnever⟩ := h.owed call' x hx
    rw [eq_of_length_le_one h.alone hin' hin] at hnever
    exact hnever _ hthere
  constructor
  · show (syncCalls stack).length ≤ 1
    rw [hnone]
    exact Nat.zero_le 1
  · show ∀ call ∈ syncCalls stack, _
    rw [hnone]
    simp
  · rintro call' r (hdel | hret)
    · rcases List.mem_cons.mp hdel with heq | hdel
      · cases heq
      · exact h.said_lt call' r (.inl hdel)
    · rcases List.mem_cons.mp hret with heq | hret
      · rw [(Event.syncReturned.inj heq).1]
        exact h.entered_lt call hin
      · exact h.said_lt call' r (.inr hret)
  · exact fun call' x hx => absurd hx (hpaid call' x)
  · exact fun call' _ x _ hx _ => absurd hx (hpaid call' x)
  · intro _ call' hin'
    have hin' : call' ∈ syncCalls stack := hin'
    rw [hnone] at hin'
    simp at hin'
  · intro call' hin'
    have hin' : call' ∈ syncCalls stack := hin'
    rw [hnone] at hin'
    exact absurd hin' List.not_mem_nil
  · intro call' r _
    show call' ∉ syncCalls stack
    rw [hnone]
    simp
  · exact h.once
  · exact ⟨hthere, h.answered⟩

/-- **Every act keeps to this**, unless it is a synchronous call inside the loop of another. -/
theorem did_synced {a : Act} (h : Synced w) (hg : OneSync w a) (hd : Did w a w') : Synced w' := by
  cases hd with
  | @request q callback os _ r _ hm =>
      have hcontrol := hm.control
      obtain ⟨htalk, z, howes⟩ := made_owes hm
      refine h.quiet ⟨by rw [hcontrol.stack], hcontrol.nextCall, hcontrol.syncFlag,
        hcontrol.syncReturn, htalk, fun call x hx => ?_⟩
      rcases howes call x hx with hold | ⟨_, heq, _⟩
      · exact hold
      · -- the callback of the application is no synchronous call
        cases callback <;> cases heq
  | @syncRefused q os _ r _ hr hm =>
      have hcontrol := hm.control
      obtain ⟨htalk, z, howes⟩ := made_owes hm
      refine (h.clear hg).quiet ⟨by rw [hcontrol.stack], hcontrol.nextCall, hcontrol.syncFlag,
        hcontrol.syncReturn, htalk, fun call x hx => ?_⟩
      rcases howes call x hx with hold | ⟨_, _, hr'⟩
      · exact hold
      · -- a refused call is owed nothing
        omega
  | syncEntered _ hm => exact h.enter hg hm
  | setTimeout _ => exact h.quiet ⟨rfl, rfl, rfl, rfl, rfl, fun _ _ hx => hx⟩
  | setStatusCallback _ => exact h.quiet ⟨rfl, rfl, rfl, rfl, rfl, fun _ _ hx => hx⟩
  | tick _ => exact h.quiet ⟨rfl, rfl, rfl, rfl, rfl, fun _ _ hx => hx⟩
  | @taskExpired _ _ w₁ rest _ _ _ _ _ _ _ ht hc =>
      exact h.resumed (complete_told (taskWithTimer_mem ht).1 hc) (resume_frame w₁ rest none)
  | @nodeExpired _ r _ _ _ w₁ rest _ _ _ _ _ hx hrep =>
      have hq : Quiet w { w with registry := r } := Quiet.of_registry (timeout_edit hx).head
      exact h.resumed (.inl (hq.trans (reportStatus_quiet hrep))) (resume_frame w₁ rest none)
  | collected _ _ => exact h.quiet ⟨rfl, rfl, rfl, rfl, rfl, fun _ _ hx => hx⟩
  | ignored _ _ => exact h.quiet ⟨rfl, rfl, rfl, rfl, rfl, fun _ _ hx => hx⟩
  | @beat _ _ _ canard _ w₁ rest _ payload _ _ _ hb =>
      obtain ⟨r, old, hr, hrest⟩ := hb
      have hq₀ : Quiet w (withCanard w canard) := ⟨rfl, rfl, rfl, rfl, rfl, fun _ _ hx => hx⟩
      have hq : Quiet w { withCanard w canard with registry := r } :=
        hq₀.trans (Quiet.of_registry (heartbeat_edit hr).head)
      have hq₁ : Quiet w w₁ := by
        rcases hrest with ⟨_, rfl, _⟩ | ⟨o, _, hrep⟩
        · exact hq
        · exact hq.trans (reportStatus_quiet hrep)
      exact h.resumed (.inl hq₁) (resume_frame w₁ rest payload)
  | @response _ _ _ canard _ _ tfr w₁ rest _ payload _ _ _ _ _ hr =>
      have hq : Quiet w (withCanard w canard) := ⟨rfl, rfl, rfl, rfl, rfl, fun _ _ hx => hx⟩
      have h₀ := h.quiet hq
      rcases hr with ⟨_, rfl, rfl⟩ | ⟨t, w₂, r, ht, hw, hc⟩
      · exact h₀.resumed (.inl (Quiet.refl _)) (resume_frame _ none payload)
      · have hmem := (taskWithId_mem ht).1
        rw [← hw.frame.1.registry] at hmem
        exact (h₀.quiet (wrote_quiet hw)).resumed (complete_told hmem hc)
          (resume_frame w₁ rest payload)
  | @idle _ stack hs =>
      exact h.quiet ⟨by rw [hs]; rfl, rfl, rfl, rfl, rfl, fun _ _ hx => hx⟩
  | syncReturned hs hflag => exact h.leave hs hflag
  | looped _ _ => exact h.quiet ⟨rfl, rfl, rfl, rfl, rfl, fun _ _ hx => hx⟩
  | @completed task record payload stack w₁ hs hfin =>
      have hq : Quiet w { w with stack := stack } :=
        ⟨by rw [hs]; rfl, rfl, rfl, rfl, rfl, fun _ _ hx => hx⟩
      have hq₁ : Quiet w₁ (freePayload w₁ payload) :=
        ⟨rfl, rfl, rfl, rfl, rfl, fun _ _ hx => hx⟩
      exact h.quiet ((hq.trans (finishCompletion_quiet hfin).1).trans hq₁)
  | @reported payload stack hs =>
      exact h.quiet ⟨by rw [hs]; rfl, rfl, rfl, rfl, rfl, fun _ _ hx => hx⟩

end

/-! ## Runs -/

theorem synced_fresh {w : World} (h : Fresh w) : Synced w := by
  have htalk : talk w.trace = [] := by rw [h.trace]; rfl
  have hcalls : syncCalls w.stack = [] := by rw [h.stack]; rfl
  have hnone : ∀ call x, ¬ Owes w call x := by
    intro call x hx
    cases x with
    | task addr =>
        obtain ⟨t, ht, _⟩ := hx
        rw [h.head] at ht
        simp at ht
    | record p =>
        obtain ⟨u, hu, _⟩ := hx
        rw [h.records] at hu
        simp at hu
  constructor
  · rw [hcalls]; exact Nat.zero_le 1
  · rw [hcalls]; simp
  · rw [htalk]; simp
  · exact fun call x hx => absurd hx (hnone call x)
  · exact fun call _ x _ hx _ => absurd hx (hnone call x)
  · rw [hcalls]; simp
  · rw [hcalls]; simp
  · rw [htalk]; simp
  · rw [htalk]; exact List.nodup_nil
  · rw [htalk]; trivial

theorem synced_reachable {w : World} (h : ReachableBy OneSync w) : Synced w := by
  refine Transition.Reaches.invariant ?_ ?_ h
  · intro w hw
    exact synced_fresh (fresh_of_initial hw)
  · intro w a w' _ hg hsynced hs
    rcases (step_cases hs).2 with hd | ⟨f, _, rfl⟩
    · exact did_synced hsynced hg hd
    · exact hsynced.quiet ⟨rfl, rfl, rfl, rfl, rfl, fun _ _ hx => hx⟩

/-- Whom a task will call when it completes, itself or through its record. -/
def reportsTo (w : World) (t : TaskEntry) : Option Caller :=
  match t.callback with
  | .caller c => some c
  | .read _ p => (recordAt w p).bind IoRecord.callback
  | .configure p => (recordAt w p).bind IoRecord.callback
  | .setSampleInterval p => (recordAt w p).bind IoRecord.callback

/-- Synchronous calls return their own results. -/
structure OwnResults (w : World) : Prop where
  /-- A call returns after its result was delivered to it, and returns that result. -/
  result : ∀ post call r pre, w.trace = post ++ .syncReturned call r :: pre →
    .delivered call r ∈ pre
  /-- As long as a call to which its result was delivered is in its loop, the flag is set and that
  result is what the call will return. -/
  returning : ∀ call ∈ syncCalls w.stack, ∀ r, .delivered call r ∈ w.trace →
    w.syncFlag = true ∧ w.syncReturn = r
  /-- There is one result for each call. -/
  once : (w.trace.filterMap deliveredTo).Nodup
  /-- When a call has returned, no task and no record will call it or holds its output buffer. -/
  clear : ∀ call r, .syncReturned call r ∈ w.trace →
    (∀ t ∈ w.registry.head, reportsTo w t ≠ some (.sync call)) ∧
      ∀ u ∈ w.records, u.2.callback ≠ some (.sync call)
  /-- No task has lost its record. -/
  live : ∀ t ∈ w.registry.head, ∀ p, recordOf t.callback = some p → (recordAt w p).isSome

/-- **Own results**, in runs that make no synchronous call while another is in its loop. -/
theorem own_results {w : World} (h : ReachableBy OneSync w) : OwnResults w := by
  have hsynced := synced_reachable h
  have hpaid : ∀ call r, .syncReturned call r ∈ w.trace → ∀ x, ¬ Owes w call x := by
    intro call r hret x hx
    exact hsynced.gone call r (syncReturned_mem_talk.mpr hret) (hsynced.owed call x hx).1
  constructor
  · intro post call r pre heq
    have hanswered := hsynced.answered
    rw [heq, talk_append] at hanswered
    exact delivered_mem_talk.mp hanswered.suffix.1
  · intro call hin r hdel
    exact hsynced.kept call hin r (delivered_mem_talk.mpr hdel)
  · rw [← filterMap_talk]
    exact hsynced.once
  · intro call r hret
    -- reads, configurations and intervals all call through a record
    have hrecord : ∀ p, (recordAt w p).bind IoRecord.callback ≠ some (.sync call) := by
      intro p hp
      obtain ⟨u, hu, hc⟩ := Option.bind_eq_some_iff.mp hp
      exact hpaid call r hret (.record p) ⟨u, recordAt_mem hu, hc⟩
    refine ⟨fun t ht hto => ?_, fun u hu hc => hpaid call r hret (.record u.1) ⟨u.2, hu, hc⟩⟩
    unfold reportsTo at hto
    split at hto
    · rename_i c hcb
      obtain rfl := Option.some.inj hto
      exact hpaid call r hret (.task t.addr) ⟨t, ht, rfl, hcb⟩
    · exact hrecord _ hto
    · exact hrecord _ hto
    · exact hrecord _ hto
  · intro t ht p hp
    obtain ⟨u, hu, _⟩ := record_live h.free ht hp
    rw [hu]
    rfl

/-- Two synchronous calls, one after the other. While the first waits, the status callback makes a
request of its own and runs `wlmio_tick` until it is answered. -/
theorem own_results_twice : ∃ w, w.trace.filterMap deliveredTo = [1, 0] ∧ OwnResults w := by
  obtain ⟨w, hr, hw⟩ := exists_after OneSync
    [.setStatusCallback true, .sync (.nodeSetSampleInterval 3 100) (grantFrom 5), .loop,
      .receive (heartbeatFrame 9 0) 6 true,
      .request (.executeCommand 4 1 none 0) (some 0) (grantFrom 7), .tick,
      .receive (responseFrame .executeCommand 4 0 [3#8]) 0 true, .ret, .idle 0, .ret,
      .expire 2, .idle 0, .loop,
      .sync (.executeCommand 4 1 none 0) (grantFrom 8), .loop,
      .receive (responseFrame .executeCommand 4 1 [5#8]) 0 true, .idle 0, .loop]
    (fun w => decide (w.trace.filterMap deliveredTo = [1, 0])) (by decide +kernel)
  exact ⟨w, of_decide_eq_true hw, own_results hr⟩

/-- **A synchronous call inside another.** The status callback runs while the node info of node 3
is waited for, and executes a command on node 4, whose status is 3. The outer call returns this
3, with its own request pending and its buffer to be written. -/
theorem nested_call_returns_early : ∃ w, Reachable w ∧ .syncReturned 0 3 ∈ w.trace ∧
    (∀ r, .delivered 0 r ∉ w.trace) ∧
      ∃ t ∈ w.registry.head, t.param = .nodeInfo 0 ∧ t.callback = .caller (.sync 0) := by
  obtain ⟨w, hr, hw⟩ := exists_after Transition.free
    [.setStatusCallback true, .sync (.getNodeInfo 3 (some 0)) (grantFrom 5), .loop,
      .receive (heartbeatFrame 9 0) 6 true,
      .sync (.executeCommand 4 1 none 0) (grantFrom 7), .loop,
      .receive (responseFrame .executeCommand 4 0 [3#8]) 0 true, .idle 0, .loop, .ret,
      .idle 0, .loop]
    (fun w => decide (.syncReturned 0 3 ∈ w.trace ∧ w.trace.filterMap deliveredTo = [1] ∧
      ∃ t ∈ w.registry.head, t.param = .nodeInfo 0 ∧ t.callback = .caller (.sync 0)))
    (by decide +kernel)
  obtain ⟨hret, hdel, hpending⟩ := of_decide_eq_true hw
  refine ⟨w, hr, hret, fun r hmem => ?_, hpending⟩
  have htold : 0 ∈ w.trace.filterMap deliveredTo := List.mem_filterMap.mpr ⟨_, hmem, rfl⟩
  rw [hdel] at htold
  simp at htold

end Wlmio.Proof
