import Wlmio.Proof.Calls

/-!
# What an act can do

The handlers and the step function of the machine taken apart. `Did w a w'` lists
every way from `w` to `w'` by the act `a`; each invariant is then a case analysis over
it, and none unfolds `step`.
-/

namespace Wlmio.Proof

open Wlmio.Client Wlmio.Canard

/-! ## Traces -/

/-- The events by which the trace of `w'` is longer than that of `w` all satisfy `P`. -/
def Adds (P : Event → Prop) (w w' : World) : Prop :=
  ∃ new, w'.trace = new ++ w.trace ∧ ∀ e ∈ new, P e

section

variable {P Q : Event → Prop} {w w' w₁ w₂ w₃ : World}

theorem Adds.none (h : w'.trace = w.trace) : Adds P w w' := ⟨[], h, by simp⟩

theorem Adds.one {e : Event} (h : w'.trace = e :: w.trace) (he : P e) : Adds P w w' :=
  ⟨[e], h, by simpa using he⟩

theorem Adds.trans (h : Adds P w₁ w₂) (h' : Adds P w₂ w₃) : Adds P w₁ w₃ := by
  obtain ⟨new, hnew, hp⟩ := h
  obtain ⟨new', hnew', hp'⟩ := h'
  refine ⟨new' ++ new, by rw [hnew', hnew, List.append_assoc], ?_⟩
  intro e he
  rcases List.mem_append.mp he with he | he
  · exact hp' e he
  · exact hp e he

theorem Adds.mono (h : Adds P w w') (hpq : ∀ e, P e → Q e) : Adds Q w w' := by
  obtain ⟨new, hnew, hp⟩ := h
  exact ⟨new, hnew, fun e he => hpq e (hp e he)⟩

end

/-- The events a callback adds. -/
inductive CallEvent : Event → Prop
  | stored (input : Nat) (value : List (List Byte)) : CallEvent (.stored input value)
  | called (k : Nat) (r : Int) : CallEvent (.called k r)
  | delivered (call : Nat) (r : Int) : CallEvent (.delivered call r)

/-! ## Callbacks -/

/-- A caller's function is code of the application, or `sync_callback`. -/
theorem callCaller_cases {w w' : World} {c : Option Caller} {r : Int} {user : Bool}
    (h : callCaller w c r = .ok (w', user)) :
    (∃ k, c = some (.user k) ∧ user = true ∧ w' = w.log (.called k r)) ∨
      ∃ call, c = some (.sync call) ∧ user = false ∧
        w' = { w with syncReturn := r, syncFlag := true }.log (.delivered call r) := by
  unfold callCaller at h
  split at h
  · cases h
  · obtain ⟨rfl, rfl⟩ := Prod.mk.inj (Except.ok.inj h)
    exact .inl ⟨_, rfl, rfl, rfl⟩
  · obtain ⟨rfl, rfl⟩ := Prod.mk.inj (Except.ok.inj h)
    exact .inr ⟨_, rfl, rfl, rfl⟩

/-- The part of the state that callbacks and writes leave alone. -/
structure SameCore (w w' : World) : Prop where
  registry : w'.registry = w.registry
  bus : w'.bus = w.bus
  stack : w'.stack = w.stack
  nextRecord : w'.nextRecord = w.nextRecord
  nextCall : w'.nextCall = w.nextCall
  fault : w'.fault = w.fault

theorem SameCore.refl (w : World) : SameCore w w := ⟨rfl, rfl, rfl, rfl, rfl, rfl⟩

theorem SameCore.log (w : World) (e : Event) : SameCore w (w.log e) := ⟨rfl, rfl, rfl, rfl, rfl, rfl⟩

theorem SameCore.setRecord (w : World) (p : Nat) (t : IoRecord) : SameCore w (setRecord w p t) :=
  ⟨rfl, rfl, rfl, rfl, rfl, rfl⟩

theorem SameCore.trans {w₁ w₂ w₃ : World} (h : SameCore w₁ w₂) (h' : SameCore w₂ w₃) :
    SameCore w₁ w₃ :=
  ⟨h'.registry.trans h.registry, h'.bus.trans h.bus, h'.stack.trans h.stack,
    h'.nextRecord.trans h.nextRecord, h'.nextCall.trans h.nextCall, h'.fault.trans h.fault⟩

theorem callCaller_core {w w' : World} {c : Option Caller} {r : Int} {user : Bool}
    (h : callCaller w c r = .ok (w', user)) : SameCore w w' := by
  rcases callCaller_cases h with ⟨k, _, _, rfl⟩ | ⟨call, _, _, rfl⟩
  · exact ⟨rfl, rfl, rfl, rfl, rfl, rfl⟩
  · exact ⟨rfl, rfl, rfl, rfl, rfl, rfl⟩

/-- The record that a callback works on. -/
def recordOf : Callback → Option Nat
  | .caller _ => none
  | .read _ p => some p
  | .configure p => some p
  | .setSampleInterval p => some p

/-- A callback takes a record for what it is. -/
inductive Serves : Callback → IoRecord → Prop
  | read (module : ReadModule) (p : Nat) (reg : Option WlmioRegisterAccess) (input : Nat)
      (c : Option Caller) : Serves (.read module p) (.read reg input c)
  | configure (p counter cancelled : Nat) (r : Int) (c : Option Caller) :
      Serves (.configure p) (.configure counter cancelled r c)
  | setSampleInterval (p : Nat) (regr : Option WlmioRegisterAccess) (interval : Nat)
      (c : Option Caller) : Serves (.setSampleInterval p) (.setSampleInterval regr interval c)

/-- What a callback does: it calls its caller, at once or after a look at its record, or only
counts. -/
inductive Calls (w : World) : Callback → World → Bool → Option Nat → Prop
  | caller {c : Caller} {r : Int} {w' : World} {user : Bool} :
      callCaller w (some c) r = .ok (w', user) → Calls w (.caller c) w' user none
  | held {p : Nat} {t : IoRecord} {cb : Callback} {w₁ w' : World} {r : Int} {user : Bool} :
      recordAt w p = some t → recordOf cb = some p → (∀ q, cb ≠ .configure q) → Serves cb t →
      (w₁ = w ∨ ∃ input value, w₁ = w.log (.stored input value)) →
      callCaller w₁ t.callback r = .ok (w', user) → Calls w cb w' user (some p)
  | counting {p counter cancelled : Nat} {r₀ r : Int} {c : Option Caller} :
      recordAt w p = some (.configure counter cancelled r₀ c) →
      (counter + 1) % 256 + cancelled < 3 →
      Calls w (.configure p)
        (setRecord w p (.configure ((counter + 1) % 256) cancelled r c)) false none
  | counted {p counter cancelled : Nat} {r₀ r : Int} {c : Option Caller} {w' : World}
      {user : Bool} :
      recordAt w p = some (.configure counter cancelled r₀ c) →
      ¬ (counter + 1) % 256 + cancelled < 3 →
      callCaller (setRecord w p (.configure ((counter + 1) % 256) cancelled r c)) c r =
        .ok (w', user) →
      Calls w (.configure p) w' user (some p)

theorem call_cases {cb : Callback} {w w' : World} {r : Int} {user : Bool} {record : Option Nat}
    (h : cb.call w r = .ok (w', user, record)) : Calls w cb w' user record := by
  unfold Callback.call at h
  cases cb with
  | caller c =>
      obtain ⟨⟨w₁, u⟩, hc, h⟩ := Fallible.bind_eq_ok.mp h
      obtain ⟨rfl, rfl, rfl⟩ := h
      exact .caller hc
  | read module p =>
      obtain ⟨⟨w₁, u⟩, hc, h⟩ := Fallible.bind_eq_ok.mp h
      obtain ⟨rfl, rfl, rfl⟩ := h
      unfold readCallback at hc
      split at hc
      · rename_i reg input c hrec
        have hserves := Serves.read module p reg input c
        split at hc
        · exact .held hrec rfl (by simp) hserves (.inl rfl) hc
        · split at hc
          · cases hc
          · split at hc
            · exact .held hrec rfl (by simp) hserves (.inl rfl) hc
            · exact .held hrec rfl (by simp) hserves (.inr ⟨_, _, rfl⟩) hc
      · cases hc
      · cases hc
  | setSampleInterval p =>
      obtain ⟨⟨w₁, u⟩, hc, h⟩ := Fallible.bind_eq_ok.mp h
      obtain ⟨rfl, rfl, rfl⟩ := h
      unfold nodeSetSampleIntervalCallback at hc
      split at hc
      · rename_i reg interval c hrec
        have hserves := Serves.setSampleInterval p reg interval c
        split at hc
        · exact .held hrec rfl (by simp) hserves (.inl rfl) hc
        · split at hc
          · cases hc
          · exact .held hrec rfl (by simp) hserves (.inl rfl) hc
      · cases hc
      · cases hc
  | configure p =>
      obtain ⟨⟨w₁, u, free⟩, hc, h⟩ := Fallible.bind_eq_ok.mp h
      obtain ⟨rfl, rfl, rfl⟩ := h
      unfold configureCallback at hc
      split at hc
      · rename_i counter cancelled r₀ c hrec
        dsimp only at hc
        split at hc
        · rename_i hlt
          obtain ⟨rfl, rfl, rfl⟩ := hc
          exact .counting hrec hlt
        · rename_i hlt
          obtain ⟨⟨w₂, u₂⟩, hcall, hc⟩ := Fallible.bind_eq_ok.mp hc
          obtain ⟨rfl, rfl, rfl⟩ := hc
          exact .counted hrec hlt hcall
      · cases hc
      · cases hc

/-- A callback stays with the records, the flags and the trace. -/
theorem Calls.frame {w w' : World} {cb : Callback} {user : Bool} {record : Option Nat}
    (h : Calls w cb w' user record) : SameCore w w' := by
  cases h with
  | caller h => exact callCaller_core h
  | held _ _ _ _ hw h =>
      rcases hw with rfl | ⟨input, value, rfl⟩
      · exact callCaller_core h
      · exact (SameCore.log w _).trans (callCaller_core h)
  | counting _ _ => exact SameCore.setRecord w _ _
  | counted _ _ h => exact (SameCore.setRecord w _ _).trans (callCaller_core h)

theorem callCaller_adds {w w' : World} {c : Option Caller} {r : Int} {user : Bool}
    (h : callCaller w c r = .ok (w', user)) : Adds CallEvent w w' := by
  rcases callCaller_cases h with ⟨k, _, _, rfl⟩ | ⟨call, _, _, rfl⟩
  · exact .one rfl (.called k r)
  · exact .one rfl (.delivered call r)

theorem Calls.adds {w w' : World} {cb : Callback} {user : Bool} {record : Option Nat}
    (h : Calls w cb w' user record) : Adds CallEvent w w' := by
  cases h with
  | caller h => exact callCaller_adds h
  | held _ _ _ _ hw h =>
      rcases hw with rfl | ⟨input, value, rfl⟩
      · exact callCaller_adds h
      · exact Adds.trans (.one rfl (.stored input value)) (callCaller_adds h)
  | counting _ _ => exact .none rfl
  | @counted p counter cancelled _ r c _ _ _ _ h =>
      have h₁ : Adds CallEvent w
          (setRecord w p (.configure ((counter + 1) % 256) cancelled r c)) := .none rfl
      exact h₁.trans (callCaller_adds h)

/-- Completion: the callback runs; then the application runs, or the task is removed. -/
theorem complete_cases {w w' : World} {t : TaskEntry} {r : Int} {rest : Option Rest}
    (h : complete w t r = .ok (w', rest)) :
    ∃ w₁ user record, Calls (w.log (.invoked t.addr t.serial r)) t.callback w₁ user record ∧
      ((user = true ∧ rest = some (.completion t.addr record) ∧ w' = w₁) ∨
        (user = false ∧ rest = none ∧ finishCompletion w₁ t.addr record = .ok w')) := by
  unfold complete at h
  obtain ⟨⟨w₁, user, record⟩, hcall, h⟩ := Fallible.bind_eq_ok.mp h
  refine ⟨w₁, user, record, call_cases hcall, ?_⟩
  dsimp only at h
  split at h
  · rename_i hu
    obtain ⟨rfl, rfl⟩ := Prod.mk.inj (Except.ok.inj h)
    exact .inl ⟨hu, rfl, rfl⟩
  · rename_i hu
    obtain ⟨w₂, hfin, h⟩ := Fallible.bind_eq_ok.mp h
    obtain ⟨rfl, rfl⟩ := Prod.mk.inj (Except.ok.inj h)
    exact .inr ⟨by simpa using hu, rfl, hfin⟩

/-- A record of `io.c` gone. -/
def withoutRecord (w : World) (p : Nat) : World :=
  { w with
    records := w.records.filter (fun t => decide (t.1 ≠ p))
    trace := .recordFreed p :: w.trace }

theorem freeRecord_cases {w w' : World} {p : Nat} (h : freeRecord w p = .ok w') :
    (recordAt w p).isSome ∧ w' = withoutRecord w p := by
  unfold freeRecord at h
  split at h
  · cases h
  · rename_i t ht
    exact ⟨by rw [ht]; rfl, (Except.ok.inj h).symm⟩

/-- The part of the state that only the machine itself changes. -/
structure SameControl (w w' : World) : Prop where
  stack : w'.stack = w.stack
  syncFlag : w'.syncFlag = w.syncFlag
  syncReturn : w'.syncReturn = w.syncReturn
  nextCall : w'.nextCall = w.nextCall
  fault : w'.fault = w.fault

theorem SameControl.trans {w₁ w₂ w₃ : World} (h : SameControl w₁ w₂) (h' : SameControl w₂ w₃) :
    SameControl w₁ w₃ :=
  ⟨h'.stack.trans h.stack, h'.syncFlag.trans h.syncFlag, h'.syncReturn.trans h.syncReturn,
    h'.nextCall.trans h.nextCall, h'.fault.trans h.fault⟩

theorem submit_control {w w' : World} {service : Service} {nodeId : Nat} {payload : List Byte}
    {param : Param} {callback : Option Callback} {os : Os}
    (h : submit w service nodeId payload param callback os = .ok w') : SameControl w w' := by
  obtain ⟨cb, _, ⟨_, rfl⟩ | ⟨_, rfl⟩⟩ := submit_cases h
  · exact ⟨rfl, rfl, rfl, rfl, rfl⟩
  · exact ⟨rfl, rfl, rfl, rfl, rfl⟩

/-- **A call leaves the calls in progress and the synchronous flag alone.** -/
theorem Made.control {w w' : World} {c : Option Caller} {r : Int} (h : Made w c w' r) :
    SameControl w w' := by
  cases h with
  | refused _ => exact ⟨rfl, rfl, rfl, rfl, rfl⟩
  | withdrawn t _ hfree =>
      rw [(freeRecord_cases hfree).2]
      exact ⟨rfl, rfl, rfl, rfl, rfl⟩
  | direct _ _ _ _ _ hs => exact submit_control hs
  | @held _ t _ _ _ _ _ _ _ hs =>
      have h₁ : SameControl w (addRecord w t) := ⟨rfl, rfl, rfl, rfl, rfl⟩
      exact h₁.trans (submit_control hs)
  | @counted w₁ w₂ _ _ _ _ _ _ _ h₁ h₂ h₃ =>
      have h₀ : SameControl w (addRecord w (.configure 0 0 0 c)) := ⟨rfl, rfl, rfl, rfl, rfl⟩
      exact ((h₀.trans (submit_control h₁)).trans (submit_control h₂)).trans (submit_control h₃)

/-- The release of the record, if there is one. -/
def Released (w w' : World) (record : Option Nat) : Prop :=
  (record = none ∧ w' = w) ∨
    ∃ p, record = some p ∧ (recordAt w p).isSome ∧ w' = withoutRecord w p

theorem Released.adds {w w' : World} {record : Option Nat} (h : Released w w' record) :
    Adds (fun e => ∃ p, e = .recordFreed p) w w' := by
  rcases h with ⟨_, rfl⟩ | ⟨p, _, _, rfl⟩
  · exact .none rfl
  · exact .one rfl ⟨p, rfl⟩

/-- A completed task is removed together with its timer, unless no task is left. -/
theorem finishCompletion_cases {w w' : World} {task : Nat} {record : Option Nat}
    (h : finishCompletion w task record = .ok w') :
    ∃ w₁, Released w w₁ record ∧
      ((w.registry.head = [] ∧ w' = w₁) ∨
        ∃ t e, w.registry.taskAt task = some t ∧ w.registry.fdEntryAt t.timer = some e ∧
          w' = { w₁ with
            registry := withoutTask w.registry t e
            trace := .taskFreed task :: .entryFreed t.timer :: w₁.trace }) := by
  unfold finishCompletion at h
  obtain ⟨w₁, hrec, h⟩ := Fallible.bind_eq_ok.mp h
  have hrel : Released w w₁ record := by
    cases record with
    | none => exact .inl ⟨rfl, (Except.ok.inj hrec).symm⟩
    | some p =>
        obtain ⟨hsome, hw⟩ := freeRecord_cases (hrec : freeRecord w p = .ok w₁)
        exact .inr ⟨p, rfl, hsome, hw⟩
  have hreg : w₁.registry = w.registry := by
    rcases hrel with ⟨_, rfl⟩ | ⟨p, _, _, rfl⟩
    · rfl
    · rfl
  refine ⟨w₁, hrel, ?_⟩
  unfold finishTask at h
  obtain ⟨⟨r, freed⟩, hrem, h⟩ := Fallible.bind_eq_ok.mp h
  rw [hreg] at hrem
  rcases asyncRemoveEntry_cases hrem with ⟨hnil, rfl, rfl⟩ | ⟨t, e, ht, he, rfl, rfl⟩
  · refine .inl ⟨hnil, ?_⟩
    rw [← Except.ok.inj h, ← hreg]
  · exact .inr ⟨t, e, ht, he, (Except.ok.inj h).symm⟩

/-- The part of the state that completions leave alone. -/
structure SameCalls (w w' : World) : Prop where
  bus : w'.bus = w.bus
  stack : w'.stack = w.stack
  nextRecord : w'.nextRecord = w.nextRecord
  nextCall : w'.nextCall = w.nextCall
  fault : w'.fault = w.fault

theorem SameCalls.trans {w₁ w₂ w₃ : World} (h : SameCalls w₁ w₂) (h' : SameCalls w₂ w₃) :
    SameCalls w₁ w₃ :=
  ⟨h'.bus.trans h.bus, h'.stack.trans h.stack, h'.nextRecord.trans h.nextRecord,
    h'.nextCall.trans h.nextCall, h'.fault.trans h.fault⟩

theorem SameCore.calls {w w' : World} (h : SameCore w w') : SameCalls w w' :=
  ⟨h.bus, h.stack, h.nextRecord, h.nextCall, h.fault⟩

theorem Released.calls {w w' : World} {record : Option Nat} (h : Released w w' record) :
    SameCalls w w' := by
  rcases h with ⟨_, rfl⟩ | ⟨p, _, _, rfl⟩
  · exact ⟨rfl, rfl, rfl, rfl, rfl⟩
  · exact ⟨rfl, rfl, rfl, rfl, rfl⟩

theorem finishCompletion_calls {w w' : World} {task : Nat} {record : Option Nat}
    (h : finishCompletion w task record = .ok w') : SameCalls w w' := by
  obtain ⟨w₁, hrel, ⟨_, rfl⟩ | ⟨t, e, _, _, rfl⟩⟩ := finishCompletion_cases h
  · exact hrel.calls
  · exact hrel.calls.trans ⟨rfl, rfl, rfl, rfl, rfl⟩

theorem finishCompletion_control {w w' : World} {task : Nat} {record : Option Nat}
    (h : finishCompletion w task record = .ok w') : SameControl w w' := by
  obtain ⟨w₁, hrel, hcases⟩ := finishCompletion_cases h
  have hcontrol : SameControl w w₁ := by
    rcases hrel with ⟨_, rfl⟩ | ⟨p, _, _, rfl⟩
    · exact ⟨rfl, rfl, rfl, rfl, rfl⟩
    · exact ⟨rfl, rfl, rfl, rfl, rfl⟩
  rcases hcases with ⟨_, rfl⟩ | ⟨t, e, _, _, rfl⟩
  · exact hcontrol
  · exact hcontrol.trans ⟨rfl, rfl, rfl, rfl, rfl⟩

theorem complete_calls {w w' : World} {t : TaskEntry} {r : Int} {rest : Option Rest}
    (h : complete w t r = .ok (w', rest)) : SameCalls w w' := by
  obtain ⟨w₁, user, record, hcall, hrest⟩ := complete_cases h
  have h₀ : SameCalls w w₁ := (SameCore.log w _).calls.trans hcall.frame.calls
  rcases hrest with ⟨_, _, rfl⟩ | ⟨_, _, hfin⟩
  · exact h₀
  · exact h₀.trans (finishCompletion_calls hfin)

/-! ## Handlers -/

/-- The events that record a write to `param`. -/
inductive WriteTo (param : Param) : Event → Prop
  | nodeInfo (v : WlmioNodeInfo) : WriteTo param (.wroteNodeInfo param v)
  | name (v : List Byte) : WriteTo param (.wroteName param v)
  | register (v : WlmioRegisterAccess) : WriteTo param (.wroteRegister param v)

/-- The register of a reply goes into the record of a read or of `set_sample_interval`. -/
inductive Stores (v : WlmioRegisterAccess) : IoRecord → IoRecord → Prop
  | read (reg : Option WlmioRegisterAccess) (input : Nat) (c : Option Caller) :
      Stores v (.read reg input c) (.read (some v) input c)
  | setSampleInterval (regr : Option WlmioRegisterAccess) (interval : Nat) (c : Option Caller) :
      Stores v (.setSampleInterval regr interval c) (.setSampleInterval (some v) interval c)

/-- What a response handler writes before it completes the task. -/
inductive Wrote (w : World) (t : TaskEntry) : World → Prop
  | nothing : Wrote w t w
  | buffer {e : Event} : WriteTo t.param e → (∀ p, t.param ≠ .record p) → Wrote w t (w.log e)
  | record {p : Nat} {u u' : IoRecord} (v : WlmioRegisterAccess) :
      t.param = .record p → recordAt w p = some u → Stores v u u' →
      Wrote w t (setRecord (w.log (.wroteRegister t.param v)) p u')

theorem Wrote.frame {w w' : World} {t : TaskEntry} (h : Wrote w t w') :
    SameCore w w' ∧ w'.syncFlag = w.syncFlag ∧ w'.syncReturn = w.syncReturn := by
  cases h with
  | nothing => exact ⟨SameCore.refl w, rfl, rfl⟩
  | buffer _ _ => exact ⟨⟨rfl, rfl, rfl, rfl, rfl, rfl⟩, rfl, rfl⟩
  | record _ _ _ _ => exact ⟨⟨rfl, rfl, rfl, rfl, rfl, rfl⟩, rfl, rfl⟩

theorem Wrote.adds {w w' : World} {t : TaskEntry} (h : Wrote w t w') :
    Adds (WriteTo t.param) w w' := by
  cases h with
  | nothing => exact .none rfl
  | buffer he _ => exact .one rfl he
  | record v _ _ _ => exact .one rfl (.register v)

/-- A response either finds no task and does nothing, or it writes to the `param` of a task with
its specifier and completes that task. -/
def Responded (w : World) (tfr : CanardTransfer) (w' : World) (rest : Option Rest) : Prop :=
  (w.registry.taskWithId (makeRspSpecifier tfr) = none ∧ w' = w ∧ rest = none) ∨
    ∃ t w₁ r, w.registry.taskWithId (makeRspSpecifier tfr) = some t ∧ Wrote w t w₁ ∧
      complete w₁ t r = .ok (w', rest)

theorem asyncGetParam_found {r : Registry} {id : Nat} {t : TaskEntry}
    (h : r.taskWithId id = some t) : r.asyncGetParam id = some t.param := by
  unfold Registry.asyncGetParam
  rw [h]
  rfl

theorem asyncGetParam_cases (r : Registry) (id : Nat) :
    (r.asyncGetParam id = none ∧ r.taskWithId id = none) ∨
      ∃ t, r.taskWithId id = some t ∧ r.asyncGetParam id = some t.param := by
  unfold Registry.asyncGetParam
  cases h : r.taskWithId id with
  | none => exact .inl ⟨rfl, rfl⟩
  | some t => exact .inr ⟨t, rfl, rfl⟩

/-- Writing does not change which task completes. -/
theorem Responded.of_complete {w w₁ w' : World} {tfr : CanardTransfer} {t : TaskEntry} {r : Int}
    {rest : Option Rest} (ht : w.registry.taskWithId (makeRspSpecifier tfr) = some t)
    (hw : Wrote w t w₁) (h : asyncComplete w₁ (makeRspSpecifier tfr) r = .ok (w', rest)) :
    Responded w tfr w' rest := by
  unfold asyncComplete at h
  rw [hw.frame.1.registry, ht] at h
  exact .inr ⟨t, w₁, r, ht, hw, h⟩

theorem getNodeInfoResponseHandler_cases {w w' : World} {tfr : CanardTransfer}
    {rest : Option Rest} (h : getNodeInfoResponseHandler w tfr = .ok (w', rest)) :
    Responded w tfr w' rest := by
  unfold getNodeInfoResponseHandler at h
  dsimp only at h
  rcases asyncGetParam_cases w.registry (makeRspSpecifier tfr) with
    ⟨hnone, ht⟩ | ⟨t, ht, hparam⟩
  · rw [hnone] at h
    simp only [asyncComplete, ht] at h
    obtain ⟨rfl, rfl⟩ := Prod.mk.inj (Except.ok.inj h)
    exact .inl ⟨ht, rfl, rfl⟩
  · rw [hparam] at h
    split at h
    · rename_i heq; simp at heq
    · rename_i buffer heq
      have hp : t.param = .nodeInfo buffer := Option.some.inj heq
      obtain ⟨⟨info, r⟩, _, h⟩ := Fallible.bind_eq_ok.mp h
      refine .of_complete ht (.buffer ?_ (by simp [hp])) h
      rw [hp]
      exact .nodeInfo info
    · cases h
    · cases h

theorem registerListResponseHandler_cases {w w' : World} {tfr : CanardTransfer}
    {rest : Option Rest} (h : registerListResponseHandler w tfr = .ok (w', rest)) :
    Responded w tfr w' rest := by
  unfold registerListResponseHandler at h
  dsimp only at h
  rcases asyncGetParam_cases w.registry (makeRspSpecifier tfr) with
    ⟨hnone, ht⟩ | ⟨t, ht, hparam⟩
  · rw [hnone] at h
    obtain ⟨rfl, rfl⟩ := Prod.mk.inj (Except.ok.inj h)
    exact .inl ⟨ht, rfl, rfl⟩
  · rw [hparam] at h
    split at h
    · rename_i heq; simp at heq
    · rename_i buffer heq
      have hp : t.param = .name buffer := Option.some.inj heq
      obtain ⟨name, _, h⟩ := Fallible.bind_eq_ok.mp h
      refine .of_complete ht (.buffer ?_ (by simp [hp])) h
      rw [hp]
      exact .name name.val
    · cases h
    · cases h

theorem writeRegr_cases {w w' : World} {t : TaskEntry} {regr : WlmioRegisterAccess}
    (h : writeRegr w t.param regr = .ok w') : Wrote w t w' := by
  unfold writeRegr at h
  split at h
  · rw [← Except.ok.inj h]; exact .nothing
  · rename_i b hp
    rw [← Except.ok.inj h]
    exact .buffer (.register regr) (by simp [hp])
  · rename_i p hp
    unfold storeRegister at h
    split at h
    · rename_i hrec
      rw [← Except.ok.inj h]
      exact .record regr hp hrec (.read _ _ _)
    · rename_i hrec
      rw [← Except.ok.inj h]
      exact .record regr hp hrec (.setSampleInterval _ _ _)
    · cases h
    · cases h
  · cases h

theorem registerAccessResponseHandler_cases {w w' : World} {tfr : CanardTransfer}
    {rest : Option Rest} (h : registerAccessResponseHandler w tfr = .ok (w', rest)) :
    Responded w tfr w' rest := by
  unfold registerAccessResponseHandler at h
  dsimp only at h
  rcases asyncGetParam_cases w.registry (makeRspSpecifier tfr) with
    ⟨hnone, ht⟩ | ⟨t, ht, hparam⟩
  · rw [hnone] at h
    obtain ⟨rfl, rfl⟩ := Prod.mk.inj (Except.ok.inj h)
    exact .inl ⟨ht, rfl, rfl⟩
  · rw [hparam] at h
    obtain ⟨⟨regr, r⟩, _, h⟩ := Fallible.bind_eq_ok.mp h
    obtain ⟨w₁, hw, h⟩ := Fallible.bind_eq_ok.mp h
    exact .of_complete ht (writeRegr_cases hw) h

theorem executeCommandResponseHandler_cases {w w' : World} {tfr : CanardTransfer}
    {rest : Option Rest} (h : executeCommandResponseHandler w tfr = .ok (w', rest)) :
    Responded w tfr w' rest := by
  unfold executeCommandResponseHandler at h
  obtain ⟨status, _, h⟩ := Fallible.bind_eq_ok.mp h
  cases ht : w.registry.taskWithId (makeRspSpecifier tfr) with
  | none =>
      simp only [asyncComplete, ht] at h
      obtain ⟨rfl, rfl⟩ := Prod.mk.inj (Except.ok.inj h)
      exact .inl ⟨ht, rfl, rfl⟩
  | some t => exact .of_complete ht .nothing h

/-- A heartbeat changes the registry, and then the status callback may run. -/
def Beat (w : World) (tfr : CanardTransfer) (pick : Int) (malloc : Bool) (w' : World)
    (rest : Option Rest) : Prop :=
  ∃ r old, w.registry.heartbeatHandler tfr.remoteNodeId tfr.payload pick malloc = .ok (r, old) ∧
    ((old = none ∧ w' = { w with registry := r } ∧ rest = none) ∨
      ∃ o, old = some o ∧ reportStatus { w with registry := r } tfr.remoteNodeId o = (w', rest))

/-- The transfer goes to `heartbeat_handler`. -/
def IsHeartbeat (tfr : CanardTransfer) : Prop := tfr.portId = 7509 ∧ tfr.transferKind = .message

/-- Any other transfer is ignored, or it is a response. -/
theorem dispatch_other {w w' : World} {tfr : CanardTransfer} {pick : Int} {malloc : Bool}
    {rest : Option Rest} (hother : ¬ IsHeartbeat tfr)
    (h : dispatch w tfr pick malloc = .ok (w', rest)) :
    (w' = w ∧ rest = none) ∨ (tfr.transferKind = .response ∧ Responded w tfr w' rest) := by
  unfold IsHeartbeat at hother
  unfold dispatch at h
  rw [if_neg hother] at h
  split at h
  · rename_i hk; exact .inr ⟨hk.2, getNodeInfoResponseHandler_cases h⟩
  split at h
  · rename_i hk; exact .inr ⟨hk.2, registerListResponseHandler_cases h⟩
  split at h
  · rename_i hk; exact .inr ⟨hk.2, registerAccessResponseHandler_cases h⟩
  split at h
  · rename_i hk; exact .inr ⟨hk.2, executeCommandResponseHandler_cases h⟩
  · obtain ⟨rfl, rfl⟩ := Prod.mk.inj (Except.ok.inj h)
    exact .inl ⟨rfl, rfl⟩

/-- A response of a service goes to its handler. -/
theorem dispatch_response {w w' : World} {tfr : CanardTransfer} {pick : Int} {malloc : Bool}
    {rest : Option Rest} {service : Service} (hport : service.port = tfr.portId)
    (hk : tfr.transferKind = .response) (h : dispatch w tfr pick malloc = .ok (w', rest)) :
    Responded w tfr w' rest := by
  unfold dispatch at h
  rw [if_neg (by simp [hk]), ← hport, hk] at h
  cases service with
  | getNodeInfo =>
      rw [if_pos ⟨rfl, rfl⟩] at h
      exact getNodeInfoResponseHandler_cases h
  | registerList =>
      rw [if_neg (by decide), if_pos ⟨rfl, rfl⟩] at h
      exact registerListResponseHandler_cases h
  | registerAccess =>
      rw [if_neg (by decide), if_neg (by decide), if_pos ⟨rfl, rfl⟩] at h
      exact registerAccessResponseHandler_cases h
  | executeCommand =>
      rw [if_neg (by decide), if_neg (by decide), if_neg (by decide), if_pos ⟨rfl, rfl⟩] at h
      exact executeCommandResponseHandler_cases h

theorem dispatch_beat {w w' : World} {tfr : CanardTransfer} {pick : Int} {malloc : Bool}
    {rest : Option Rest} (hbeat : IsHeartbeat tfr)
    (h : dispatch w tfr pick malloc = .ok (w', rest)) : Beat w tfr pick malloc w' rest := by
  unfold IsHeartbeat at hbeat
  unfold dispatch at h
  rw [if_pos hbeat] at h
  unfold heartbeatHandler at h
  obtain ⟨⟨r, old⟩, hr, h⟩ := Fallible.bind_eq_ok.mp h
  refine ⟨r, old, hr, ?_⟩
  cases old with
  | none =>
      obtain ⟨rfl, rfl⟩ := Prod.mk.inj (Except.ok.inj h)
      exact .inl ⟨rfl, rfl, rfl⟩
  | some o => exact .inr ⟨o, rfl, Except.ok.inj h⟩

theorem dispatch_cases {w w' : World} {tfr : CanardTransfer} {pick : Int} {malloc : Bool}
    {rest : Option Rest} (h : dispatch w tfr pick malloc = .ok (w', rest)) :
    (w' = w ∧ rest = none) ∨ Beat w tfr pick malloc w' rest ∨
      (tfr.transferKind = .response ∧ Responded w tfr w' rest) := by
  rcases Classical.em (IsHeartbeat tfr) with hbeat | hother
  · exact .inr (.inl (dispatch_beat hbeat h))
  · rcases dispatch_other hother h with hnone | hresponse
    · exact .inl hnone
    · exact .inr (.inr hresponse)

theorem responded_calls {w w' : World} {tfr : CanardTransfer} {rest : Option Rest}
    (h : Responded w tfr w' rest) : SameCalls w w' := by
  rcases h with ⟨_, rfl, _⟩ | ⟨t, w₁, r, _, hw, hc⟩
  · exact ⟨rfl, rfl, rfl, rfl, rfl⟩
  · exact hw.frame.1.calls.trans (complete_calls hc)

/-- The status callback is called and will have nothing left to do, or there is none. -/
theorem reportStatus_cases {w w' : World} {node : Nat} {old : WlmioStatus} {rest : Option Rest}
    (h : reportStatus w node old = (w', rest)) :
    (w.userCallback = true ∧ w' = w.log (.status node old (w.registry.nodes node)) ∧
        rest = some .status) ∨
      (w.userCallback = false ∧ w' = w ∧ rest = none) := by
  unfold reportStatus at h
  split at h
  · rename_i hu
    obtain ⟨rfl, rfl⟩ := Prod.mk.inj h
    exact .inl ⟨hu, rfl, rfl⟩
  · rename_i hu
    obtain ⟨rfl, rfl⟩ := Prod.mk.inj h
    exact .inr ⟨by simpa using hu, rfl, rfl⟩

/-- After a handler only the stack and the memory of the receiving side change. -/
structure Resumed (w : World) (rest : Option Rest) (w' : World) : Prop where
  registry : w'.registry = w.registry
  issued : w'.bus.issued = w.bus.issued
  records : w'.records = w.records
  nextRecord : w'.nextRecord = w.nextRecord
  nextCall : w'.nextCall = w.nextCall
  syncFlag : w'.syncFlag = w.syncFlag
  syncReturn : w'.syncReturn = w.syncReturn
  trace : w'.trace = w.trace
  fault : w'.fault = w.fault
  stack : (rest = none ∧ w'.stack = w.stack) ∨
    ∃ r payload, rest = some r ∧ w'.stack = .user r payload :: w.stack

theorem resume_frame (w : World) (rest : Option Rest) (payload : Option Buffer) :
    Resumed w rest (resume w rest payload) := by
  cases rest with
  | none => exact ⟨rfl, rfl, rfl, rfl, rfl, rfl, rfl, rfl, rfl, .inl ⟨rfl, rfl⟩⟩
  | some r =>
      exact ⟨rfl, rfl, rfl, rfl, rfl, rfl, rfl, rfl, rfl, .inr ⟨r, payload, rfl, rfl⟩⟩

/-! ## Acts -/

/-- A new state of the receiving side. -/
def withCanard (w : World) (canard : CanardInstance) : World :=
  { w with bus := { w.bus with canard := canard } }

/-- The transmission side of two instances is the same. -/
def SameTx (c c' : CanardInstance) : Prop :=
  c'.txQueue = c.txQueue ∧ c'.nodeId = c.nodeId ∧ c'.mtuBytes = c.mtuBytes

/-- Every way in which an act that does not fault can change the state. -/
inductive Did (w : World) : Act → World → Prop
  | request {q : Request} {callback : Option Nat} {os : Nat → Os} {w' : World} {r : Int} :
      w.inUserCode = true → Made w (callback.map .user) w' r → Did w (.request q callback os) w'
  | syncRefused {q : Request} {os : Nat → Os} {w' : World} {r : Int} :
      w.inUserCode = true → r < 0 →
      Made { w with syncFlag := false, nextCall := w.nextCall + 1 } (some (.sync w.nextCall)) w' r →
      Did w (.sync q os) w'
  | syncEntered {q : Request} {os : Nat → Os} {w' : World} :
      w.inUserCode = true →
      Made { w with syncFlag := false, nextCall := w.nextCall + 1 } (some (.sync w.nextCall)) w' 0 →
      Did w (.sync q os) { w' with stack := .sync w.nextCall :: w'.stack }
  | setTimeout {us : BitVec 64} :
      w.inUserCode = true → Did w (.setTimeout us) { w with timeout := us }
  | setStatusCallback {set : Bool} :
      w.inUserCode = true → Did w (.setStatusCallback set) { w with userCallback := set }
  | tick : w.inUserCode = true → Did w .tick { w with stack := .tick :: w.stack }
  | taskExpired {e : FdEntry} {t : TaskEntry} {w₁ : World} {rest : Option Rest} {addr : Nat}
      {stack : List Activation} :
      w.stack = .tick :: stack → w.registry.fdEntryAt addr = some e → 0 ≤ e.fd →
      w.registry.itimers e.fd ≠ .disarmed → e.handler = .asyncHandler →
      w.registry.taskWithTimer e.addr = some t → complete w t (-ETIMEDOUT) = .ok (w₁, rest) →
      Did w (.expire addr) (resume w₁ rest none)
  | nodeExpired {e : FdEntry} {r : Registry} {node addr : Nat} {old : WlmioStatus} {w₁ : World}
      {rest : Option Rest} {stack : List Activation} :
      w.stack = .tick :: stack → w.registry.fdEntryAt addr = some e → 0 ≤ e.fd →
      e.handler = .heartbeatTimeoutHandler →
      w.registry.heartbeatTimeoutHandler e = .ok (r, node, old) →
      reportStatus { w with registry := r } node old = (w₁, rest) →
      Did w (.expire addr) (resume w₁ rest none)
  | collected {frame : CanardFrame} {pick : Int} {malloc : Bool} {canard : CanardInstance}
      {stack : List Activation} :
      w.stack = .tick :: stack → SameTx w.bus.canard canard →
      Did w (.receive frame pick malloc) (withCanard w canard)
  | ignored {frame : CanardFrame} {pick : Int} {malloc : Bool} {canard : CanardInstance}
      {stack : List Activation} {payload : Option Buffer} :
      w.stack = .tick :: stack → SameTx w.bus.canard canard →
      Did w (.receive frame pick malloc) (resume (withCanard w canard) none payload)
  | beat {frame : CanardFrame} {pick : Int} {malloc : Bool} {canard : CanardInstance}
      {tfr : CanardTransfer} {w₁ : World} {rest : Option Rest} {stack : List Activation}
      {payload : Option Buffer} :
      w.stack = .tick :: stack → SameTx w.bus.canard canard → tfr.Received →
      Beat (withCanard w canard) tfr pick malloc w₁ rest →
      Did w (.receive frame pick malloc) (resume w₁ rest payload)
  | response {frame : CanardFrame} {pick : Int} {malloc : Bool} {canard : CanardInstance}
      {out : Int} {buffer : Option Buffer} {tfr : CanardTransfer} {w₁ : World} {rest : Option Rest}
      {stack : List Activation} {payload : Option Buffer} :
      w.stack = .tick :: stack → SameTx w.bus.canard canard →
      canardRxAccept w.bus.canard
        { frame with extendedCanId := frame.extendedCanId &&& 0x1FFFFFFF } 0 =
          (canard, out, some (tfr, buffer)) →
      tfr.Received → tfr.transferKind = .response →
      Responded (withCanard w canard) tfr w₁ rest →
      Did w (.receive frame pick malloc) (resume w₁ rest payload)
  | idle {sends : Nat} {stack : List Activation} :
      w.stack = .tick :: stack →
      Did w (.idle sends) { w with bus := w.bus.uavcanSend sends, stack := stack }
  | syncReturned {call : Nat} {stack : List Activation} :
      w.stack = .sync call :: stack → w.syncFlag = true →
      Did w .loop ({ w with stack := stack }.log (.syncReturned call w.syncReturn))
  | looped {call : Nat} {stack : List Activation} :
      w.stack = .sync call :: stack → w.syncFlag = false →
      Did w .loop { w with stack := .tick :: w.stack }
  | completed {task : Nat} {record : Option Nat} {payload : Option Buffer}
      {stack : List Activation} {w' : World} :
      w.stack = .user (.completion task record) payload :: stack →
      finishCompletion { w with stack := stack } task record = .ok w' →
      Did w .ret (freePayload w' payload)
  | reported {payload : Option Buffer} {stack : List Activation} :
      w.stack = .user .status payload :: stack →
      Did w .ret (freePayload { w with stack := stack } payload)

theorem callSync_did {w w' : World} {q : Request} {os : Nat → Os} (hu : w.inUserCode = true)
    (h : q.callSync w os = .ok w') : Did w (.sync q os) w' := by
  unfold Request.callSync at h
  obtain ⟨⟨w₁, r⟩, hcall, h⟩ := Fallible.bind_eq_ok.mp h
  have hmade := call_made hcall
  dsimp only at h
  split at h
  · rename_i hr
    rw [← Except.ok.inj h]
    exact .syncRefused hu hr hmade
  · rename_i hr
    rw [← Except.ok.inj h]
    have hzero : r = 0 := by
      cases hmade with
      | refused hn => exact absurd hn hr
      | withdrawn _ hn _ => exact absurd hn hr
      | direct _ _ _ _ _ _ => rfl
      | held _ _ _ _ _ _ => rfl
      | counted _ _ _ _ _ _ _ _ => rfl
    subst hzero
    exact .syncEntered hu hmade

/-- An expiry runs the handler of an entry whose timer is armed. -/
theorem handleExpiry_cases {w : World} {e : FdEntry} {x : Except Fault World}
    (h : handleExpiry w e = some x) :
    0 ≤ e.fd ∧ w.registry.itimers e.fd ≠ .disarmed ∧
      ∃ handled : Except Fault (World × Option Rest),
        x = handled.map (fun p => resume p.1 p.2 none) ∧
          ((e.handler = .asyncHandler ∧ handled = asyncHandler w e) ∨
            (e.handler = .heartbeatTimeoutHandler ∧ handled = heartbeatTimeoutHandler w e)) := by
  unfold handleExpiry at h
  dsimp only at h
  obtain ⟨handled, hhandled, rfl⟩ := Option.map_eq_some_iff.mp h
  split at hhandled
  · simp at hhandled
  rename_i harmed
  obtain ⟨hfd, harmed⟩ := not_or.mp harmed
  refine ⟨by omega, harmed, handled, rfl, ?_⟩
  split at hhandled
  · rename_i hh
    exact .inl ⟨hh, (Option.some.inj hhandled).symm⟩
  · rename_i hh
    exact .inr ⟨hh, (Option.some.inj hhandled).symm⟩
  · simp at hhandled

theorem handleExpiry_did {w w' : World} {e : FdEntry} {addr : Nat} {stack : List Activation}
    (hstack : w.stack = .tick :: stack) (he : w.registry.fdEntryAt addr = some e)
    (h : handleExpiry w e = some (.ok w')) : Did w (.expire addr) w' := by
  obtain ⟨hfd, harmed, handled, hx, hcases⟩ := handleExpiry_cases h
  obtain ⟨⟨w₁, rest⟩, rfl, rfl⟩ := Fallible.map_eq_ok.mp hx.symm
  rcases hcases with ⟨hh, hx⟩ | ⟨hh, hx⟩
  · unfold asyncHandler at hx
    split at hx
    · cases hx
    · rename_i t ht
      exact .taskExpired hstack he hfd harmed hh ht hx.symm
  · unfold heartbeatTimeoutHandler at hx
    obtain ⟨⟨r, node, old⟩, hexp, hx⟩ := Fallible.bind_eq_ok.mp hx.symm
    exact .nodeExpired hstack he hfd hh hexp (Except.ok.inj hx)

/-- An expiry is possible only in a tick. -/
theorem act_expire {w : World} {addr : Nat} {x : Except Fault World}
    (h : act w (.expire addr) = some x) :
    ∃ e stack, w.stack = .tick :: stack ∧ w.registry.fdEntryAt addr = some e ∧
      handleExpiry w e = some x := by
  unfold act at h
  dsimp only at h
  split at h
  · rename_i stack e hs he
    exact ⟨e, stack, hs, he, h⟩
  · simp at h

theorem canSocketHandler_did {w w' : World} {frame : CanardFrame} {pick : Int} {malloc : Bool}
    {stack : List Activation} (hstack : w.stack = .tick :: stack)
    (h : canSocketHandler w frame pick malloc = .ok w') : Did w (.receive frame pick malloc) w' := by
  unfold canSocketHandler at h
  dsimp only at h
  split at h
  · rename_i canard out hacc
    rw [← Except.ok.inj h]
    exact .collected hstack (canardRxAccept_spec hacc).1
  · rename_i canard out tfr buffer hacc
    obtain ⟨htx, hrec⟩ := canardRxAccept_spec hacc
    have hrec := hrec tfr buffer rfl
    unfold handleTransfer at h
    obtain ⟨⟨w₁, rest⟩, hd, h⟩ := Fallible.bind_eq_ok.mp h
    rw [← Except.ok.inj h]
    rcases dispatch_cases hd with ⟨rfl, rfl⟩ | hb | ⟨hk, hr⟩
    · exact .ignored hstack htx
    · exact .beat hstack htx hrec hb
    · exact .response hstack htx hacc hrec hk hr

/-- **Every act that does not fault is one of these.** -/
theorem act_did {w w' : World} {a : Act} (h : act w a = some (.ok w')) : Did w a w' := by
  unfold act at h
  cases a with
  | request q callback os =>
      obtain ⟨hu, h⟩ := Option.ite_none_right_eq_some.mp h
      obtain ⟨⟨w₁, r⟩, hcall, rfl⟩ := Fallible.map_eq_ok.mp (Option.some.inj h)
      exact .request hu (call_made hcall)
  | sync q os =>
      obtain ⟨hu, h⟩ := Option.ite_none_right_eq_some.mp h
      exact callSync_did hu (Option.some.inj h)
  | setTimeout us =>
      obtain ⟨hu, h⟩ := Option.ite_none_right_eq_some.mp h
      rw [← Except.ok.inj (Option.some.inj h)]
      exact .setTimeout hu
  | setStatusCallback set =>
      obtain ⟨hu, h⟩ := Option.ite_none_right_eq_some.mp h
      rw [← Except.ok.inj (Option.some.inj h)]
      exact .setStatusCallback hu
  | tick =>
      obtain ⟨hu, h⟩ := Option.ite_none_right_eq_some.mp h
      rw [← Except.ok.inj (Option.some.inj h)]
      exact .tick hu
  | expire addr =>
      obtain ⟨e, stack, hs, he, h⟩ := act_expire h
      exact handleExpiry_did hs he h
  | receive frame pick malloc =>
      dsimp only at h
      split at h
      · rename_i hs
        obtain ⟨_, h⟩ := Option.ite_none_right_eq_some.mp h
        exact canSocketHandler_did hs (Option.some.inj h)
      · simp at h
  | idle sends =>
      dsimp only at h
      split at h
      · rename_i hs
        rw [← Except.ok.inj (Option.some.inj h)]
        exact .idle hs
      · simp at h
  | loop =>
      dsimp only at h
      split at h
      · rename_i hs
        split at h
        · rename_i hf
          rw [← Except.ok.inj (Option.some.inj h)]
          exact .syncReturned hs hf
        · rename_i hf
          rw [← Except.ok.inj (Option.some.inj h)]
          exact .looped hs (by simpa using hf)
      · simp at h
  | ret =>
      dsimp only at h
      split at h
      · rename_i rest payload stack hs
        have h := Option.some.inj h
        unfold leaveUserCode at h
        obtain ⟨w₁, hfin, h⟩ := Fallible.bind_eq_ok.mp h
        rw [← Except.ok.inj h]
        cases rest with
        | completion task record => exact .completed hs hfin
        | status =>
            rw [← Except.ok.inj hfin]
            exact .reported hs
      · simp at h

theorem beat_fault {w w' : World} {tfr : CanardTransfer} {pick : Int} {malloc : Bool}
    {rest : Option Rest} (h : Beat w tfr pick malloc w' rest) : w'.fault = w.fault := by
  obtain ⟨r, old, _, ⟨_, rfl, _⟩ | ⟨o, _, hrep⟩⟩ := h
  · rfl
  · rcases reportStatus_cases hrep with ⟨_, rfl, _⟩ | ⟨_, rfl, _⟩
    · rfl
    · rfl

theorem Did.fault {w w' : World} {a : Act} (h : Did w a w') : w'.fault = w.fault := by
  cases h with
  | request _ hm => exact hm.control.fault
  | syncRefused _ _ hm => exact hm.control.fault
  | syncEntered _ hm => exact hm.control.fault
  | setTimeout _ => rfl
  | setStatusCallback _ => rfl
  | tick _ => rfl
  | @taskExpired _ _ w₁ rest _ _ _ _ _ _ _ _ hc =>
      exact (resume_frame w₁ rest none).fault.trans (complete_calls hc).fault
  | @nodeExpired _ _ _ _ _ w₁ rest _ _ _ _ _ _ hrep =>
      rcases reportStatus_cases hrep with ⟨_, rfl, rfl⟩ | ⟨_, rfl, rfl⟩
      · rfl
      · rfl
  | collected _ _ => rfl
  | ignored _ _ => rfl
  | @beat _ _ _ _ _ w₁ rest _ payload _ _ _ hb =>
      have hkept := beat_fault hb
      exact (resume_frame w₁ rest payload).fault.trans hkept
  | @response _ _ _ _ _ _ _ w₁ rest _ payload _ _ _ _ _ hr =>
      exact (resume_frame w₁ rest payload).fault.trans (responded_calls hr).fault
  | idle _ => rfl
  | syncReturned _ _ => rfl
  | looped _ _ => rfl
  | completed _ hfin => exact (finishCompletion_calls hfin).fault
  | reported _ => rfl

/-- **One step**: nothing has gone wrong before, and the act either does one of these or goes
wrong, which leaves everything as it is. -/
theorem step_cases {w w' : World} {a : Act} (h : step w a = some w') :
    w.fault = none ∧ (Did w a w' ∨ ∃ f, act w a = some (.error f) ∧ w' = { w with fault := some f }) := by
  unfold step at h
  split at h
  · simp at h
  · rename_i hf
    refine ⟨by simpa using hf, ?_⟩
    obtain ⟨x, hx, h⟩ := Option.map_eq_some_iff.mp h
    cases x with
    | ok w₁ =>
        obtain rfl : w₁ = w' := h
        exact .inl (act_did hx)
    | error f => exact .inr ⟨f, hx, h.symm⟩

end Wlmio.Proof
