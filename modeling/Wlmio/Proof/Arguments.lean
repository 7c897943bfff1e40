import Wlmio.Proof.Accepted
import Wlmio.Proof.Sync

/-!
# Arguments

Two layers check the arguments of a request: each of the twenty-one functions its own, and
`wlmio_register_access` those of the functions of `io.c` once more. `call_verdict` says for
every function what it refuses by itself, what the inner function refuses after it, and
when it comes to a clean end: refused without an effect, or accepted with its tasks
registered for a caller that is not `NULL`.

The layers disagree on node 127 and on channel 3 of module 6190 (`inner_accepts_iff`).
-/

namespace Wlmio.Proof

open Wlmio.Client Wlmio.Canard

/-! ## A clean end -/

/-- What a refused call leaves as it was. -/
structure Untouched (w w' : World) : Prop where
  head : w'.registry.head = w.registry.head
  txQueue : w'.bus.canard.txQueue = w.bus.canard.txQueue
  tfrIds : w'.bus.tfrIds = w.bus.tfrIds

/-- There are `n` new tasks, and all of them will call `c`. -/
def Registers (w w' : World) (n : Nat) (c : Option Caller) : Prop :=
  ∃ new, w'.registry.head = w.registry.head ++ new ∧ new.length = n ∧
    ∀ t ∈ new, reportsTo w' t = c

/-- The call returns: a negative value without an effect, or 0 with `n` tasks for a caller. -/
def Clean (w : World) (n : Nat) (c : Option Caller) : Except Fault (World × Int) → Prop
  | .error _ => False
  | .ok (w', r) => (r < 0 ∧ Untouched w w') ∨ (r = 0 ∧ c ≠ none ∧ Registers w w' n c)

/-- The system grants `n` tasks with their timers, each on a descriptor of its own. -/
structure Grants (r : Registry) (os : Nat → Os) (n : Nat) : Prop where
  granted : ∀ i, i < n → (os i).entryMalloc = true ∧ (os i).timerfdSettime = true ∧
    (os i).fdEntryMalloc = true
  fresh : ∀ i, i < n → 0 ≤ (os i).timerfdCreate ∧ (os i).timerfdCreate ∉ r.openFds
  distinct : ∀ i j, i < n → j < i → (os j).timerfdCreate ≠ (os i).timerfdCreate

theorem newFd_nonneg {r : Registry} {pick : Int} :
    0 ≤ r.newFd pick ↔ 0 ≤ pick ∧ pick ∉ r.openFds := by
  unfold Registry.newFd
  split
  · rename_i h
    exact iff_of_true h.1 h
  · rename_i h
    exact iff_of_false (by decide) h

theorem openFds_withTask (r : Registry) (fd : Int) (it : Itimerspec) (id : Nat) (param : Param)
    (cb : Callback) (serial : Nat) :
    (withTask r fd it id param cb serial).openFds = r.openFds ++ [fd] := by
  simp [Registry.openFds, withTask]

theorem Grants.zero (r : Registry) (os : Nat → Os) : Grants r os 0 :=
  ⟨fun i hi => by omega, fun i hi => by omega, fun i j hi => by omega⟩

/-- **One task after the other.** -/
theorem grants_succ {r : Registry} {os : Nat → Os} {n : Nat} (it : Itimerspec) (id : Nat)
    (param : Param) (cb : Callback) (serial : Nat) :
    Grants r os (n + 1) ↔ Granted r (os 0) ∧
      Grants (withTask r (r.newFd (os 0).timerfdCreate) it id param cb serial)
        (fun i => os (i + 1)) n := by
  constructor
  · rintro ⟨hgranted, hfresh, hdistinct⟩
    obtain ⟨hentry, hset, hadd⟩ := hgranted 0 (by omega)
    have hfd := newFd_nonneg.mpr (hfresh 0 (by omega))
    have hpick : r.newFd (os 0).timerfdCreate = (os 0).timerfdCreate := by
      unfold Registry.newFd
      rw [if_pos (hfresh 0 (by omega))]
    refine ⟨⟨hentry, hfd, hset, hadd⟩, fun i hi => hgranted (i + 1) (by omega), ?_, ?_⟩
    · intro i hi
      obtain ⟨hpos, hnot⟩ := hfresh (i + 1) (by omega)
      refine ⟨hpos, ?_⟩
      intro hmem
      rw [openFds_withTask, hpick] at hmem
      rcases List.mem_append.mp hmem with hmem | hmem
      · exact hnot hmem
      · exact hdistinct (i + 1) 0 (by omega) (by omega) (List.mem_singleton.mp hmem).symm
    · intro i j hi hj
      exact hdistinct (i + 1) (j + 1) (by omega) (by omega)
  · rintro ⟨⟨hentry, hfd, hset, hadd⟩, hgranted, hfresh, hdistinct⟩
    have hfirst := newFd_nonneg.mp hfd
    have hpick : r.newFd (os 0).timerfdCreate = (os 0).timerfdCreate := by
      unfold Registry.newFd
      rw [if_pos hfirst]
    rw [openFds_withTask, hpick] at hfresh
    refine ⟨?_, ?_, ?_⟩
    · intro i hi
      cases i with
      | zero => exact ⟨hentry, hset, hadd⟩
      | succ i => exact hgranted i (by omega)
    · intro i hi
      cases i with
      | zero => exact hfirst
      | succ i =>
          obtain ⟨hpos, hnot⟩ := hfresh i (by omega)
          exact ⟨hpos, fun hmem => hnot (List.mem_append_left _ hmem)⟩
    · intro i j hi hj
      cases i with
      | zero => omega
      | succ i =>
          obtain ⟨_, hnot⟩ := hfresh i (by omega)
          cases j with
          | zero =>
              intro heq
              exact hnot (List.mem_append_right _ (List.mem_singleton.mpr heq.symm))
          | succ j => exact hdistinct i j (by omega) (by omega)

theorem grants_one {r : Registry} {os : Nat → Os} : Grants r os 1 ↔ Granted r (os 0) := by
  rw [grants_succ .disarmed 0 .null (.configure 0) 0]
  exact ⟨fun h => h.1, fun h => ⟨h, Grants.zero _ _⟩⟩

/-! ## Submitting -/

section

variable {w v : World} {service : Service} {n : Nat} {payload : List Byte} {param : Param}
  {callback : Option Callback} {c : Option Caller} {os : Os}

theorem clean_refusal {m : Nat} {r : Int} (hr : r < 0) : Clean w m c (.ok (w, r)) :=
  .inl ⟨hr, rfl, rfl, rfl⟩

theorem taskAfter_head (v : World) (service : Service) (n : Nat) (payload : List Byte)
    (param : Param) (cb : Callback) (os : Os) :
    ∃ t, (taskAfter v service n payload param cb os).head = v.registry.head ++ [t] ∧
      t.callback = cb := ⟨_, rfl, rfl⟩

theorem reportsTo_direct (cb : Callback) (hcb : cb ∈ c.map Callback.caller) (v' : World)
    (t : TaskEntry) (_ : v'.records = v.records) (ht : t.callback = cb) : reportsTo v' t = c := by
  obtain ⟨d, hd, rfl⟩ := Option.map_eq_some_iff.mp hcb
  unfold reportsTo
  rw [ht]
  exact hd.symm

/-- **A request that is submitted ends cleanly exactly when** it has a caller and its task can be
registered. `v` is `w` with a new record, if the request has one. -/
theorem submit_clean (hreg : v.registry = w.registry) (hepoll : 0 ≤ w.registry.epollfd)
    (hnull : callback = none → c = none)
    (hto : ∀ cb ∈ callback, ∀ v' t, v'.records = v.records → t.callback = cb → reportsTo v' t = c) :
    Clean w 1 c (submit v service n payload param callback os >>= fun w => .ok (w, (0 : Int))) ↔
      c ≠ none ∧ Granted w.registry os := by
  constructor
  · intro h
    cases hs : submit v service n payload param callback os with
    | error f =>
        rw [hs] at h
        exact h.elim
    | ok v' =>
        rw [hs] at h
        rcases h with ⟨hr, _⟩ | ⟨_, hc, new, hhead, hone, _⟩
        · omega
        · obtain ⟨cb, _, ⟨hg, _⟩ | ⟨_, rfl⟩⟩ := submit_cases hs
          · exact ⟨hc, hreg ▸ hg⟩
          · -- without a task there is nothing new
            have hlen := congrArg List.length hhead
            rw [List.length_append, hone] at hlen
            dsimp only at hlen
            rw [hreg] at hlen
            omega
  · rintro ⟨hc, hg⟩
    obtain ⟨cb, rfl⟩ := Option.ne_none_iff_exists'.mp (fun hcb => hc (hnull hcb))
    rw [submit_granted (hreg ▸ hepoll) (hreg ▸ hg)]
    obtain ⟨t, ht, hcb⟩ := taskAfter_head v service n payload param cb os
    refine .inr ⟨rfl, hc, [t], hreg ▸ ht, rfl, fun u hu => hto cb rfl _ u rfl ?_⟩
    rw [List.mem_singleton.mp hu]
    exact hcb

end

/-! ## Register accesses -/

section

variable {w : World} {n : BitVec 8} {name : Option (List Byte)} {regw : Option WlmioRegisterAccess}
  {regr : Param} {callback : Option Callback} {c : Option Caller} {os : Os}

theorem registerAccess_sign {w' : World} {r : Int}
    (h : wlmioRegisterAccess w n name regw regr callback os = .ok (w', r)) :
    r < 0 ↔ RefusedAccess n name regw regr := by
  rcases registerAccess_cases h with ⟨hr, _, rfl⟩ | ⟨hn, rfl, _⟩
  · exact iff_of_true einval_neg hr
  · exact iff_of_false (by omega) hn

theorem access_clean {v : World} (hreg : v.registry = w.registry) (hepoll : 0 ≤ w.registry.epollfd)
    (hnull : callback = none → c = none)
    (hto : ∀ cb ∈ callback, ∀ v' t, v'.records = v.records → t.callback = cb → reportsTo v' t = c)
    (hpass : ¬ RefusedAccess n name regw regr) :
    Clean w 1 c (wlmioRegisterAccess v n name regw regr callback os) ↔
      c ≠ none ∧ os.payloadMalloc = true ∧ Granted w.registry os := by
  obtain ⟨payload, heq⟩ := registerAccess_passed v callback os hpass
  rw [heq]
  by_cases hm : os.payloadMalloc = true
  · rw [if_pos hm, submit_clean hreg hepoll hnull hto]
    exact ⟨fun h => ⟨h.1, hm, h.2⟩, fun h => ⟨h.1, h.2.2⟩⟩
  · rw [if_neg hm]
    exact iff_of_false (fun h => h) (fun h => hm h.2.1)

/-- A task was added for the access. -/
structure AddedTask (w : World) (cb : Callback) (os : Os) (w' : World) : Prop where
  records : w'.records = w.records
  registry : ∃ it id param serial, w'.registry =
    withTask w.registry (w.registry.newFd os.timerfdCreate) it id param cb serial

theorem AddedTask.head {cb : Callback} {w' : World} (h : AddedTask w cb os w') :
    ∃ t, w'.registry.head = w.registry.head ++ [t] ∧ t.callback = cb := by
  obtain ⟨it, id, param, serial, heq⟩ := h.registry
  rw [heq]
  exact ⟨_, rfl, rfl⟩

theorem AddedTask.epollfd {cb : Callback} {w' : World} (h : AddedTask w cb os w') :
    w'.registry.epollfd = w.registry.epollfd := by
  obtain ⟨it, id, param, serial, heq⟩ := h.registry
  rw [heq]
  rfl

theorem AddedTask.grants {cb : Callback} {os : Nat → Os} {w' : World}
    (h : AddedTask w cb (os 0) w') {m : Nat} :
    Grants w.registry os (m + 1) ↔
      Granted w.registry (os 0) ∧ Grants w'.registry (fun i => os (i + 1)) m := by
  obtain ⟨it, id, param, serial, heq⟩ := h.registry
  rw [heq]
  exact grants_succ it id param cb serial

theorem access_granted (cb : Callback) (hepoll : 0 ≤ w.registry.epollfd)
    (hpass : ¬ RefusedAccess n name regw regr) (hm : os.payloadMalloc = true)
    (hg : Granted w.registry os) :
    ∃ w', wlmioRegisterAccess w n name regw regr (some cb) os = .ok (w', 0) ∧
      AddedTask w cb os w' := by
  obtain ⟨payload, heq⟩ := registerAccess_passed w (some cb) os hpass
  rw [if_pos hm, submit_granted hepoll hg] at heq
  exact ⟨_, heq, rfl, _, _, _, _, rfl⟩

/-- There is at most one more task, and none unless it was granted. -/
theorem added_length {cb : Callback} {w' : World}
    (h : Granted w.registry os ∧ AddedTask w cb os w' ∨ w'.registry = w.registry) :
    w'.registry.head.length ≤ w.registry.head.length + 1 := by
  rcases h with ⟨_, h⟩ | h
  · obtain ⟨t, ht, _⟩ := h.head
    rw [ht, List.length_append, List.length_singleton]
  · rw [h]
    exact Nat.le_succ _

/-- An access that is not refused returns 0, with or without a task. -/
theorem access_returned {cb : Callback} {w' : World} {r : Int}
    (hpass : ¬ RefusedAccess n name regw regr)
    (h : wlmioRegisterAccess w n name regw regr (some cb) os = .ok (w', r)) :
    r = 0 ∧ os.payloadMalloc = true ∧
      (Granted w.registry os ∧ AddedTask w cb os w' ∨ w'.registry = w.registry) := by
  obtain ⟨payload, heq⟩ := registerAccess_passed w (some cb) os hpass
  rw [heq] at h
  split at h
  · rename_i hm
    obtain ⟨w₁, hs, h⟩ := Fallible.bind_eq_ok.mp h
    obtain ⟨rfl, rfl⟩ := Prod.mk.inj (Except.ok.inj h)
    obtain ⟨d, hd, ⟨hg, rfl⟩ | ⟨_, rfl⟩⟩ := submit_cases hs
    · obtain rfl := Option.some.inj hd
      exact ⟨rfl, hm, .inl ⟨hg, rfl, _, _, _, _, rfl⟩⟩
    · exact ⟨rfl, hm, .inr rfl⟩
  · cases h

end

/-! ## After a function's own checks -/

/-- What a call comes to whose function lets it pass: `inner` says that `wlmio_register_access`
refuses it, `record` that the memory for a record is there and `supplied` that all else is. -/
structure Passed (w : World) (m : Nat) (c : Option Caller) (x : Except Fault (World × Int))
    (inner record supplied : Prop) : Prop where
  clean : Clean w m c x ↔ record ∧ (inner ∨ (c ≠ none ∧ supplied))
  sign : ∀ w' r, x = .ok (w', r) → (r < 0 ↔ inner)

theorem Passed.congr {w : World} {m : Nat} {c : Option Caller} {x : Except Fault (World × Int)}
    {inner inner' record record' supplied supplied' : Prop}
    (h : Passed w m c x inner record supplied) (hi : inner ↔ inner') (hr : record ↔ record')
    (hs : supplied ↔ supplied') : Passed w m c x inner' record' supplied' := by
  rw [← hi, ← hr, ← hs]
  exact h

section

variable {w : World} {n : BitVec 8} {name : Option (List Byte)} {c : Option Caller} {os : Os}

theorem writeRegister_passed (hepoll : 0 ≤ w.registry.epollfd) (regw : WlmioRegisterAccess) :
    Passed w 1 c (writeRegister w n name regw c os) (RefusedAccess n name (some regw) .null) True
      (os.payloadMalloc = true ∧ Granted w.registry os) := by
  refine ⟨?_, fun w' r h => registerAccess_sign h⟩
  unfold writeRegister
  by_cases hr : RefusedAccess n name (some regw) .null
  · rw [registerAccess_refused hr]
    exact iff_of_true (clean_refusal einval_neg) ⟨trivial, .inl hr⟩
  · rw [access_clean rfl hepoll (by simp) reportsTo_direct hr]
    exact ⟨fun h => ⟨trivial, .inr h⟩, fun h => h.2.resolve_left hr⟩

theorem reportsTo_holder {t : IoRecord} {cb : Nat → Callback} (ht : Holder t cb) {v : World}
    {p : Nat} (hp : recordAt v p = some t) {u : TaskEntry} (hu : u.callback = cb p) :
    reportsTo v u = t.callback := by
  unfold reportsTo
  rw [hu]
  cases ht with
  | read module input d => exact congrArg (Option.bind · IoRecord.callback) hp
  | setSampleInterval garbage d => exact congrArg (Option.bind · IoRecord.callback) hp

theorem freeRecord_addRecord (h : RecordsGood w) (t : IoRecord) :
    freeRecord (addRecord w t) w.nextRecord =
      .ok (withoutRecord (addRecord w t) w.nextRecord) := by
  unfold freeRecord
  rw [recordAt_addRecord h t]
  rfl

section

variable {regw : Option WlmioRegisterAccess} {t : IoRecord} {cb : Nat → Callback}

/-- The record that was made is freed again. -/
theorem accessWithRecord_refused (h : RecordsGood w) (hm : os.recordMalloc = true)
    (hr : RefusedAccess n name regw (.record w.nextRecord)) :
    accessWithRecord w n name regw t cb os =
      .ok (withoutRecord (addRecord w t) w.nextRecord, -EINVAL) := by
  unfold accessWithRecord
  dsimp only
  rw [if_neg (by simp [hm]), registerAccess_refused hr, Fallible.ok_bind]
  dsimp only
  rw [if_pos einval_neg, freeRecord_addRecord h t, Fallible.ok_bind]

theorem accessWithRecord_accepted (hm : os.recordMalloc = true)
    (hr : ¬ RefusedAccess n name regw (.record w.nextRecord)) :
    accessWithRecord w n name regw t cb os =
      wlmioRegisterAccess (addRecord w t) n name regw (.record w.nextRecord)
        (some (cb w.nextRecord)) os := by
  unfold accessWithRecord
  dsimp only
  rw [if_neg (by simp [hm])]
  refine Fallible.bind_eq_self ?_
  intro a ha
  obtain ⟨v, r⟩ := a
  rcases registerAccess_cases ha with ⟨hr', _⟩ | ⟨_, rfl, _⟩
  · exact absurd hr' hr
  · rfl

theorem accessWithRecord_passed (hrecords : RecordsGood w) (hepoll : 0 ≤ w.registry.epollfd)
    (ht : Holder t cb) (hc : t.callback = c) :
    Passed w 1 c (accessWithRecord w n name regw t cb os)
      (RefusedAccess n name regw (.record w.nextRecord)) (os.recordMalloc = true)
      (os.payloadMalloc = true ∧ Granted w.registry os) := by
  by_cases hm : os.recordMalloc = true
  swap
  · unfold accessWithRecord
    rw [if_pos (by simp [hm])]
    exact ⟨iff_of_false (fun h => h) (fun h => hm h.1), by simp⟩
  by_cases hr : RefusedAccess n name regw (.record w.nextRecord)
  · rw [accessWithRecord_refused hrecords hm hr]
    refine ⟨iff_of_true (.inl ⟨einval_neg, rfl, rfl, rfl⟩) ⟨hm, .inl hr⟩, ?_⟩
    intro w' r h
    obtain ⟨_, rfl⟩ := Prod.mk.inj (Except.ok.inj h)
    exact iff_of_true einval_neg hr
  · rw [accessWithRecord_accepted hm hr]
    refine ⟨?_, fun w' r h => registerAccess_sign h⟩
    rw [access_clean (w := w) (v := addRecord w t) rfl hepoll (by simp) ?_ hr]
    · exact ⟨fun h => ⟨hm, .inr h⟩, fun h => h.2.resolve_left hr⟩
    · intro b hb v u hv hu
      obtain rfl := Option.some.inj hb
      have hat : recordAt v w.nextRecord = some t := by
        unfold recordAt
        rw [hv]
        exact recordAt_addRecord hrecords t
      rw [reportsTo_holder ht hat hu, hc]

end

section

variable {first second third : Option (List Byte) × WlmioRegisterAccess} {os : Nat → Os}

/-- The first of the three accesses of a configuration is refused, and the others with it. -/
def RefusedTogether (n : BitVec 8)
    (first second third : Option (List Byte) × WlmioRegisterAccess) : Prop :=
  (RefusedAccess n second.1 (some second.2) .null ↔ RefusedAccess n first.1 (some first.2) .null) ∧
    (RefusedAccess n third.1 (some third.2) .null ↔ RefusedAccess n first.1 (some first.2) .null)

theorem configureRegisters_refused (h : RecordsGood w) (hm : (os 0).recordMalloc = true)
    (hr : RefusedAccess n first.1 (some first.2) .null) :
    configureRegisters w n first second third c os =
      .ok (withoutRecord (addRecord w (.configure 0 0 0 c)) w.nextRecord, -EINVAL) := by
  unfold configureRegisters
  dsimp only
  rw [if_neg (by simp [hm]), registerAccess_refused hr, Fallible.ok_bind]
  dsimp only
  rw [if_pos einval_neg, freeRecord_addRecord h _, Fallible.ok_bind]

/-- The three accesses of a configuration, as they are when none is refused. -/
def threeAccesses (w : World) (n : BitVec 8)
    (first second third : Option (List Byte) × WlmioRegisterAccess) (cb : Callback)
    (os : Nat → Os) : Except Fault (World × Int) :=
  wlmioRegisterAccess w n first.1 (some first.2) .null (some cb) (os 0) >>= fun x =>
    wlmioRegisterAccess x.1 n second.1 (some second.2) .null (some cb) (os 1) >>= fun y =>
      wlmioRegisterAccess y.1 n third.1 (some third.2) .null (some cb) (os 2)

theorem configureRegisters_accepted (hm : (os 0).recordMalloc = true)
    (hsame : RefusedTogether n first second third)
    (hr : ¬ RefusedAccess n first.1 (some first.2) .null) :
    configureRegisters w n first second third c os =
      threeAccesses (addRecord w (.configure 0 0 0 c)) n first second third
        (.configure w.nextRecord) os := by
  unfold configureRegisters threeAccesses
  dsimp only
  rw [if_neg (by simp [hm])]
  refine Fallible.bind_congr_ok ?_
  intro x hx
  obtain ⟨w₁, r₁⟩ := x
  obtain ⟨rfl, _⟩ := access_returned hr hx
  refine Fallible.bind_congr_ok ?_
  intro y hy
  obtain ⟨w₂, r₂⟩ := y
  obtain ⟨rfl, _⟩ := access_returned (fun h => hr (hsame.1.mp h)) hy
  refine Fallible.bind_eq_self ?_
  intro z hz
  obtain ⟨w₃, r₃⟩ := z
  obtain ⟨rfl, _⟩ := access_returned (fun h => hr (hsame.2.mp h)) hz
  rfl

section

variable {cb : Callback} (hsame : RefusedTogether n first second third)
  (hr : ¬ RefusedAccess n first.1 (some first.2) .null)
include hsame hr

/-- With three new tasks none of the three accesses went without. -/
theorem threeAccesses_returned {w' : World} {r : Int}
    (h : threeAccesses w n first second third cb os = .ok (w', r)) :
    r = 0 ∧ (w'.registry.head.length = w.registry.head.length + 3 →
      (∀ i, i < 3 → (os i).payloadMalloc = true) ∧ Grants w.registry os 3) := by
  obtain ⟨⟨w₁, r₁⟩, h₁, h⟩ := Fallible.bind_eq_ok.mp h
  obtain ⟨⟨w₂, r₂⟩, h₂, h₃⟩ := Fallible.bind_eq_ok.mp h
  obtain ⟨_, hm₁, ha₁⟩ := access_returned hr h₁
  obtain ⟨_, hm₂, ha₂⟩ := access_returned (fun h => hr (hsame.1.mp h)) h₂
  obtain ⟨rfl, hm₃, ha₃⟩ := access_returned (fun h => hr (hsame.2.mp h)) h₃
  refine ⟨rfl, ?_⟩
  intro hlen
  have hlen₁ := added_length ha₁
  have hlen₂ := added_length ha₂
  have hlen₃ := added_length ha₃
  dsimp only at hlen₂ hlen₃ ha₂ ha₃
  rcases ha₁ with ⟨hg₁, ha₁⟩ | ha₁
  swap
  · rw [ha₁] at hlen₂
    omega
  rcases ha₂ with ⟨hg₂, ha₂⟩ | ha₂
  swap
  · rw [ha₂] at hlen₃
    omega
  rcases ha₃ with ⟨hg₃, _⟩ | ha₃
  swap
  · rw [ha₃] at hlen
    omega
  refine ⟨?_, ?_⟩
  · intro i hi
    match i, hi with
    | 0, _ => exact hm₁
    | 1, _ => exact hm₂
    | 2, _ => exact hm₃
  · exact ha₁.grants.mpr ⟨hg₁, ha₂.grants.mpr ⟨hg₂, grants_one.mpr hg₃⟩⟩

theorem threeAccesses_granted (cb : Callback) (hepoll : 0 ≤ w.registry.epollfd)
    (hm : ∀ i, i < 3 → (os i).payloadMalloc = true) (hg : Grants w.registry os 3) :
    ∃ w' new, threeAccesses w n first second third cb os = .ok (w', 0) ∧
      w'.records = w.records ∧ w'.registry.head = w.registry.head ++ new ∧ new.length = 3 ∧
        ∀ t ∈ new, t.callback = cb := by
  have hg₁ := ((grants_succ .disarmed 0 .null cb 0).mp hg).1
  obtain ⟨w₁, h₁, ha₁⟩ := access_granted cb hepoll hr (hm 0 (by omega)) hg₁
  have hg := (ha₁.grants.mp hg).2
  have hg₂ := ((grants_succ .disarmed 0 .null cb 0).mp hg).1
  obtain ⟨w₂, h₂, ha₂⟩ := access_granted cb (ha₁.epollfd ▸ hepoll)
    (fun h => hr (hsame.1.mp h)) (hm 1 (by omega)) hg₂
  have hg₃ := grants_one.mp (ha₂.grants.mp hg).2
  have hepoll₂ : 0 ≤ w₂.registry.epollfd := by rw [ha₂.epollfd, ha₁.epollfd]; exact hepoll
  obtain ⟨w₃, h₃, ha₃⟩ := access_granted cb hepoll₂ (fun h => hr (hsame.2.mp h))
    (hm 2 (by omega)) hg₃
  obtain ⟨t₁, ht₁, hc₁⟩ := ha₁.head
  obtain ⟨t₂, ht₂, hc₂⟩ := ha₂.head
  obtain ⟨t₃, ht₃, hc₃⟩ := ha₃.head
  refine ⟨w₃, [t₁, t₂, t₃], ?_, ?_, ?_, rfl, ?_⟩
  · unfold threeAccesses
    rw [h₁, Fallible.ok_bind]
    dsimp only
    rw [h₂, Fallible.ok_bind]
    exact h₃
  · rw [ha₃.records, ha₂.records, ha₁.records]
  · rw [ht₃, ht₂, ht₁]
    simp
  · simp [hc₁, hc₂, hc₃]

end

/-- **Three accesses end cleanly exactly when** each has its task. -/
theorem configureRegisters_passed (hrecords : RecordsGood w) (hepoll : 0 ≤ w.registry.epollfd)
    (hsame : RefusedTogether n first second third) :
    Passed w 3 c (configureRegisters w n first second third c os)
      (RefusedAccess n first.1 (some first.2) .null) ((os 0).recordMalloc = true)
      ((∀ i, i < 3 → (os i).payloadMalloc = true) ∧ Grants w.registry os 3) := by
  by_cases hm : (os 0).recordMalloc = true
  swap
  · unfold configureRegisters
    rw [if_pos (by simp [hm])]
    exact ⟨iff_of_false (fun h => h) (fun h => hm h.1), by simp⟩
  by_cases hr : RefusedAccess n first.1 (some first.2) .null
  · rw [configureRegisters_refused hrecords hm hr]
    refine ⟨iff_of_true (.inl ⟨einval_neg, rfl, rfl, rfl⟩) ⟨hm, .inl hr⟩, ?_⟩
    intro w' r h
    obtain ⟨_, rfl⟩ := Prod.mk.inj (Except.ok.inj h)
    exact iff_of_true einval_neg hr
  rw [configureRegisters_accepted hm hsame hr]
  refine ⟨⟨?_, ?_⟩, ?_⟩
  · intro h
    cases hx : threeAccesses (addRecord w (.configure 0 0 0 c)) n first second third
      (.configure w.nextRecord) os with
    | error f =>
        rw [hx] at h
        exact h.elim
    | ok a =>
        obtain ⟨w', r⟩ := a
        rw [hx] at h
        obtain ⟨rfl, hall⟩ := threeAccesses_returned hsame hr hx
        rcases h with ⟨hneg, _⟩ | ⟨_, hc, new, hhead, hthree, _⟩
        · omega
        · refine ⟨hm, .inr ⟨hc, hall ?_⟩⟩
          rw [hhead, List.length_append, hthree]
          rfl
  · rintro ⟨_, h⟩
    obtain ⟨hc, hmem, hg⟩ := h.resolve_left hr
    obtain ⟨w', new, heq, hrec, hhead, hthree, hcb⟩ := threeAccesses_granted
      (w := addRecord w (.configure 0 0 0 c)) hsame hr (.configure w.nextRecord) hepoll hmem hg
    rw [heq]
    refine .inr ⟨rfl, hc, new, hhead, hthree, fun t ht => ?_⟩
    have hat : recordAt w' w.nextRecord = some (.configure 0 0 0 c) := by
      unfold recordAt
      rw [hrec]
      exact recordAt_addRecord hrecords _
    unfold reportsTo
    rw [hcb t ht]
    exact congrArg (Option.bind · IoRecord.callback) hat
  · intro w' r h
    obtain ⟨rfl, _⟩ := threeAccesses_returned hsame hr h
    exact iff_of_false (by omega) hr

end

end

/-! ## The twenty-one functions -/

/-- The number of its requests. -/
def requests : Request → Nat
  | .vpe6060Configure .. | .vpe6080Configure .. => 3
  | _ => 1

/-- A read of a channel is refused by its own function. -/
def ReadRejected (n : BitVec 8) (maxChannel : Nat) (ch : BitVec 8) (v : Option Nat)
    (c : Option Caller) : Prop :=
  v = none ∨ CANARD_NODE_ID_MAX < n.toNat ∨ maxChannel < ch.toNat ∨ c = none

/-- The function refuses the arguments by itself. -/
def Rejects (c : Option Caller) : Request → Prop
  | .getNodeInfo n nodeInfo => nodeInfo = none ∨ CANARD_NODE_ID_MAX < n.toNat ∨ c = none
  | .registerList n _ name => name = none ∨ CANARD_NODE_ID_MAX < n.toNat
  | .registerAccess n name regw regr => RefusedAccess n name regw (callerRegr regr)
  | .executeCommand n _ param paramLen =>
    CANARD_NODE_ID_MAX < n.toNat ∨ (param = none ∧ 0 < paramLen)
  | .vpe6010Read n dst => dst = none ∨ CANARD_NODE_ID_MAX < n.toNat
  | .vpe6030Write n ch _ => CANARD_NODE_ID_MAX < n.toNat ∨ 3 < ch.toNat
  | .vpe6040Read n ch v | .vpe6060Read n ch v | .vpe6190Read n ch v => ReadRejected n 3 ch v c
  | .vpe6080Read n ch v | .vpe6180Read n ch v => ReadRejected n 7 ch v c
  | .vpe6090Read n ch v => ReadRejected n 5 ch v c
  | .vpe6050Write n ch _ | .vpe6070Write n ch _ =>
    CANARD_NODE_ID_MAX < n.toNat ∨ 3 < ch.toNat ∨ c = none
  | .vpe6040Configure n ch mode =>
    CANARD_NODE_ID_MAX < n.toNat ∨ 3 < ch.toNat ∨ WLMIO_VPE6040_MODE_10V < mode.toNat ∨ c = none
  | .vpe6050Configure n ch mode =>
    CANARD_NODE_ID_MAX < n.toNat ∨ 3 < ch.toNat ∨ WLMIO_VPE6050_MODE_SINK < mode.toNat ∨ c = none
  | .vpe6090Configure n ch type =>
    CANARD_NODE_ID_MAX < n.toNat ∨ 5 < ch.toNat ∨ WLMIO_VPE6090_TYPE_T < type.toNat ∨ c = none
  | .vpe6190Configure n ch _ => CANARD_NODE_ID_MAX < n.toNat ∨ 3 < ch.toNat ∨ c = none
  | .vpe6060Configure n ch mode polarity bias =>
    CANARD_NODE_ID_MAX < n.toNat ∨ 3 < ch.toNat ∨ WLMIO_VPE6060_MODE_PULSE_COUNTER < mode.toNat ∨
      WLMIO_VPE6060_POLARITY_FALLING < polarity.toNat ∨ WLMIO_VPE6060_BIAS_NPN < bias.toNat ∨
      c = none
  | .vpe6080Configure n ch _ _ _ => CANARD_NODE_ID_MAX < n.toNat ∨ 7 < ch.toNat ∨ c = none
  | .nodeSetSampleInterval n _ => CANARD_NODE_ID_MAX < n.toNat ∨ c = none

/-- The function lets the arguments pass and `wlmio_register_access` does not: it has no node
127, and channel 3 of module 6190 has no name. -/
def Unreachable : Request → Prop
  | .getNodeInfo .. | .registerList .. | .registerAccess .. | .executeCommand .. => False
  | .vpe6190Read n ch _ | .vpe6190Configure n ch _ => n.toNat = CANARD_NODE_ID_MAX ∨ ch.toNat = 3
  | .vpe6010Read n _ | .vpe6030Write n _ _ | .vpe6040Read n _ _ | .vpe6040Configure n _ _
  | .vpe6050Write n _ _ | .vpe6050Configure n _ _ | .vpe6060Read n _ _
  | .vpe6060Configure n _ _ _ _ | .vpe6070Write n _ _ | .vpe6080Read n _ _
  | .vpe6080Configure n _ _ _ _ | .nodeSetSampleInterval n _ | .vpe6090Read n _ _
  | .vpe6090Configure n _ _ | .vpe6180Read n _ _ => n.toNat = CANARD_NODE_ID_MAX

/-- `wlmio_execute_command` reports that it gets no memory for the payload; the other functions
do not look. -/
def NoMemory (os : Nat → Os) : Request → Prop
  | .executeCommand .. => (os 0).payloadMalloc = false
  | _ => False

/-- There is memory for the record, if the function makes one. -/
def RecordMemory (os : Nat → Os) : Request → Prop
  | .getNodeInfo .. | .registerList .. | .registerAccess .. | .executeCommand .. | .vpe6030Write ..
  | .vpe6040Configure .. | .vpe6050Write .. | .vpe6050Configure .. | .vpe6070Write ..
  | .vpe6090Configure .. | .vpe6190Configure .. => True
  | _ => (os 0).recordMalloc = true

/-- The payloads can be built: there is memory for them, and the parameter of a command is as long
as the caller says. -/
def PayloadMemory (os : Nat → Os) : Request → Prop
  | .getNodeInfo .. | .registerList .. => True
  | .executeCommand _ _ param paramLen => min paramLen 112 ≤ (param.getD []).length
  | .vpe6060Configure .. | .vpe6080Configure .. => ∀ i, i < 3 → (os i).payloadMalloc = true
  | _ => (os 0).payloadMalloc = true

/-- What a call of a request function comes to. -/
structure Verdict (w : World) (q : Request) (c : Option Caller) (os : Nat → Os)
    (x : Except Fault (World × Int)) : Prop where
  clean : Clean w (requests q) c x ↔ (Rejects c q ∨ NoMemory os q) ∨
    (RecordMemory os q ∧ (Unreachable q ∨
      (c ≠ none ∧ PayloadMemory os q ∧ Grants w.registry os (requests q))))
  sign : ∀ w' r, x = .ok (w', r) → (r < 0 ↔ (Rejects c q ∨ NoMemory os q) ∨ Unreachable q)

theorem Verdict.refused {w : World} {q : Request} {c : Option Caller} {os : Nat → Os}
    (h : Rejects c q) : Verdict w q c os (.ok (w, -EINVAL)) := by
  refine ⟨iff_of_true (clean_refusal einval_neg) (.inl (.inl h)), ?_⟩
  intro w' r heq
  obtain ⟨_, rfl⟩ := Prod.mk.inj (Except.ok.inj heq)
  exact iff_of_true einval_neg (.inl (.inl h))

theorem Verdict.passed {w : World} {q : Request} {c : Option Caller} {os : Nat → Os}
    {x : Except Fault (World × Int)} (hno : ¬ Rejects c q) (hmem : ¬ NoMemory os q)
    (h : Passed w (requests q) c x (Unreachable q) (RecordMemory os q)
      (PayloadMemory os q ∧ Grants w.registry os (requests q))) : Verdict w q c os x := by
  have hout : ¬ (Rejects c q ∨ NoMemory os q) := fun hor => hor.elim hno hmem
  refine ⟨h.clean.trans ⟨.inr, fun hor => hor.resolve_left hout⟩, fun w' r heq => ?_⟩
  exact (h.sign w' r heq).trans ⟨.inr, fun hor => hor.resolve_left hout⟩

/-! ### One function at a time -/

section

variable {w : World} {c : Option Caller} {os : Nat → Os} {n ch : BitVec 8} {q : Request}

theorem supplied_one (hone : requests q = 1)
    (hpay : PayloadMemory os q ↔ (os 0).payloadMalloc = true) :
    ((os 0).payloadMalloc = true ∧ Granted w.registry (os 0)) ↔
      (PayloadMemory os q ∧ Grants w.registry os (requests q)) := by
  rw [hone, hpay, grants_one]

theorem readChannel_verdict (hrecords : RecordsGood w) (hepoll : 0 ≤ w.registry.epollfd)
    {module : ReadModule} {maxChannel channels : Nat} {v : Option Nat} (hone : requests q = 1)
    (hrej : Rejects c q ↔ ReadRejected n maxChannel ch v c) (hmem : ¬ NoMemory os q)
    (hrec : RecordMemory os q ↔ (os 0).recordMalloc = true)
    (hpay : PayloadMemory os q ↔ (os 0).payloadMalloc = true)
    (hinner : n.toNat ≤ CANARD_NODE_ID_MAX → ch.toNat ≤ maxChannel →
      (CANARD_NODE_ID_MAX ≤ n.toNat ∨ channels ≤ ch.toNat ↔ Unreachable q)) :
    Verdict w q c os (readChannel w n c module maxChannel channels ch v (os 0)) := by
  unfold readChannel
  cases v with
  | none => exact .refused (hrej.mpr (.inl rfl))
  | some v =>
      dsimp only
      split
      · rename_i h
        exact .refused (hrej.mpr (.inr h))
      · rename_i h
        refine .passed (fun hr => ?_) hmem ?_
        · exact (hrej.mp hr).elim (by simp) h
        · rw [hone]
          refine (accessWithRecord_passed hrecords hepoll (.read module v c) rfl).congr ?_
            hrec.symm (hone ▸ supplied_one hone hpay)
          exact (refused_channel_iff (meaningful_read _)).trans (hinner (by omega) (by omega))

theorem writeRegister_verdict (hepoll : 0 ≤ w.registry.epollfd) {name : Option (List Byte)}
    {regw : WlmioRegisterAccess} (hone : requests q = 1) (hno : ¬ Rejects c q)
    (hmem : ¬ NoMemory os q) (hrec : RecordMemory os q ↔ True)
    (hpay : PayloadMemory os q ↔ (os 0).payloadMalloc = true)
    (hinner : RefusedAccess n name (some regw) .null ↔ Unreachable q) :
    Verdict w q c os (writeRegister w n name regw c (os 0)) := by
  refine .passed hno hmem ?_
  rw [hone]
  exact (writeRegister_passed hepoll regw).congr hinner hrec.symm (hone ▸ supplied_one hone hpay)

theorem configureChannel_verdict (hepoll : 0 ≤ w.registry.epollfd)
    {maxChannel channels maxValue : Nat} {suffix : String} {value : BitVec 8}
    (hone : requests q = 1)
    (hrej : Rejects c q ↔ CANARD_NODE_ID_MAX < n.toNat ∨ maxChannel < ch.toNat ∨
      maxValue < value.toNat ∨ c = none)
    (hmem : ¬ NoMemory os q) (hrec : RecordMemory os q ↔ True)
    (hpay : PayloadMemory os q ↔ (os 0).payloadMalloc = true)
    (hinner : n.toNat ≤ CANARD_NODE_ID_MAX → ch.toNat ≤ maxChannel →
      (CANARD_NODE_ID_MAX ≤ n.toNat ∨ channels ≤ ch.toNat ↔ Unreachable q)) :
    Verdict w q c os (configureChannel w n c maxChannel channels suffix maxValue ch value (os 0)) := by
  unfold configureChannel
  split
  · rename_i h
    exact .refused (hrej.mpr h)
  · rename_i h
    refine writeRegister_verdict hepoll hone (fun hr => h (hrej.mp hr)) hmem hrec hpay ?_
    exact (refused_channel_iff (meaningful_write (validate_uint8Register _))).trans
      (hinner (by omega) (by omega))

theorem writeChannel_verdict (hepoll : 0 ≤ w.registry.epollfd) {v : BitVec 16}
    (hone : requests q = 1)
    (hrej : Rejects c q ↔ CANARD_NODE_ID_MAX < n.toNat ∨ 3 < ch.toNat ∨ c = none)
    (hmem : ¬ NoMemory os q) (hrec : RecordMemory os q ↔ True)
    (hpay : PayloadMemory os q ↔ (os 0).payloadMalloc = true)
    (hinner : n.toNat ≤ CANARD_NODE_ID_MAX → ch.toNat ≤ 3 →
      (CANARD_NODE_ID_MAX ≤ n.toNat ∨ 4 ≤ ch.toNat ↔ Unreachable q)) :
    Verdict w q c os (writeChannel w n c ch v (os 0)) := by
  unfold writeChannel
  split
  · rename_i h
    exact .refused (hrej.mpr h)
  · rename_i h
    refine writeRegister_verdict hepoll hone (fun hr => h (hrej.mp hr)) hmem hrec hpay ?_
    exact (refused_channel_iff (meaningful_write (validate_uint16Register _))).trans
      (hinner (by omega) (by omega))

/-- A request of the caller's own. -/
theorem submit_verdict (hepoll : 0 ≤ w.registry.epollfd) {service : Service} {m : Nat}
    {payload : List Byte} {param : Param} (hone : requests q = 1) (hno : ¬ Rejects c q)
    (hmem : ¬ NoMemory os q) (hrec : RecordMemory os q) (hpay : PayloadMemory os q)
    (hun : ¬ Unreachable q) :
    Verdict w q c os (submit w service m payload param (c.map .caller) (os 0) >>=
      fun w => .ok (w, (0 : Int))) := by
  refine .passed hno hmem ⟨?_, ?_⟩
  · rw [hone, submit_clean rfl hepoll (by simp) reportsTo_direct]
    refine ⟨fun h => ⟨hrec, .inr ⟨h.1, hpay, grants_one.mpr h.2⟩⟩, fun h => ?_⟩
    obtain ⟨hc, _, hg⟩ := h.2.resolve_left hun
    exact ⟨hc, grants_one.mp hg⟩
  · intro w' r h
    obtain ⟨w₁, _, h⟩ := Fallible.bind_eq_ok.mp h
    obtain ⟨_, rfl⟩ := Prod.mk.inj (Except.ok.inj h)
    exact iff_of_false (by omega) hun

end

/-- A node that passes the outer check and not the inner one is node 127, if every channel that
passes has a name. -/
theorem node_or_channel {n ch maxChannel channels : Nat} (hch : maxChannel < channels)
    (hn : n ≤ CANARD_NODE_ID_MAX) (hc : ch ≤ maxChannel) :
    CANARD_NODE_ID_MAX ≤ n ∨ channels ≤ ch ↔ n = CANARD_NODE_ID_MAX := by
  omega

/-- **What each of the twenty-one functions comes to.** -/
theorem call_verdict {w : World} (hrecords : RecordsGood w) (hepoll : 0 ≤ w.registry.epollfd)
    (q : Request) (c : Option Caller) (os : Nat → Os) : Verdict w q c os (q.call w c os) := by
  cases q with
  | getNodeInfo n nodeInfo =>
      simp only [Request.call, wlmioGetNodeInfo]
      cases nodeInfo with
      | none => exact .refused (.inl rfl)
      | some buffer =>
          dsimp only
          split
          · rename_i h
            exact .refused (.inr (h.imp_right (by simp)))
          · rename_i h
            refine submit_verdict hepoll rfl (fun hr => h ?_) id trivial trivial id
            exact (hr.resolve_left (by simp)).imp_right (by simp)
  | registerList n index name =>
      simp only [Request.call, wlmioRegisterList]
      cases name with
      | none => exact .refused (.inl rfl)
      | some buffer =>
          dsimp only
          split
          · rename_i h
            exact .refused (.inr h)
          · rename_i h
            exact submit_verdict hepoll rfl (fun hr => h (hr.resolve_left (by simp))) id trivial
              trivial id
  | registerAccess n name regw regr =>
      simp only [Request.call]
      by_cases hr : RefusedAccess n name regw (callerRegr regr)
      · rw [registerAccess_refused hr]
        exact .refused hr
      · refine .passed hr id ⟨?_, ?_⟩
        · refine (access_clean rfl hepoll (by simp) reportsTo_direct hr).trans ?_
          rw [supplied_one (q := .registerAccess n name regw regr) rfl Iff.rfl]
          exact ⟨fun h => ⟨trivial, .inr h⟩, fun h => h.2.resolve_left id⟩
        · intro w' r h
          exact iff_of_false (fun hneg => hr ((registerAccess_sign h).mp hneg)) id
  | executeCommand n command param paramLen =>
      have hcut : (if 112 < paramLen then 112 else paramLen) = min paramLen 112 := by
        split <;> omega
      simp only [Request.call, wlmioExecuteCommand]
      split
      · rename_i h
        exact .refused h
      rename_i h
      split
      · rename_i hm
        have hm : (os 0).payloadMalloc = false := by simpa using hm
        refine ⟨iff_of_true (clean_refusal (by decide)) (.inl (.inr hm)), ?_⟩
        intro w' r heq
        obtain ⟨_, rfl⟩ := Prod.mk.inj (Except.ok.inj heq)
        exact iff_of_true (by decide) (.inl (.inr hm))
      rename_i hm
      have hmem : ¬ NoMemory os (.executeCommand n command param paramLen) := by
        simpa [NoMemory] using hm
      unfold executeCommandPayload
      dsimp only
      rw [hcut]
      by_cases hlen : min paramLen 112 ≤ (param.getD []).length
      · rw [if_pos hlen]
        exact submit_verdict hepoll rfl h hmem trivial hlen id
      · -- the copy leaves the buffer of the caller
        rw [if_neg hlen]
        refine .passed h hmem ⟨iff_of_false (fun h => h) ?_, fun w' r heq => by cases heq⟩
        rintro ⟨_, hun | ⟨_, hpay, _⟩⟩
        · exact hun
        · exact hlen hpay
  | vpe6010Read n dst =>
      simp only [Request.call, wlmioVpe6010Read]
      cases dst with
      | none => exact .refused (.inl rfl)
      | some dst =>
          dsimp only
          split
          · rename_i h
            exact .refused (.inr h)
          · rename_i h
            refine .passed (fun hr => h (hr.resolve_left (by simp))) id ?_
            refine (accessWithRecord_passed hrecords hepoll (.read .vpe6010 dst c) rfl).congr ?_
              Iff.rfl (supplied_one rfl Iff.rfl)
            refine (refused_name_iff (meaningful_read _) (by decide)).trans ?_
            exact ⟨fun hn => by unfold Unreachable; omega, fun hn => Nat.le_of_eq hn.symm⟩
  | vpe6030Write n ch v =>
      simp only [Request.call, wlmioVpe6030Write]
      split
      · rename_i h
        exact .refused h
      · rename_i h
        refine writeRegister_verdict hepoll rfl h id Iff.rfl Iff.rfl ?_
        exact (refused_channel_iff (meaningful_write (validate_uint8Register _))).trans
          (node_or_channel (by omega) (by omega) (by omega : ch.toNat ≤ 3))
  | vpe6040Read n ch v =>
      exact readChannel_verdict hrecords hepoll rfl Iff.rfl id Iff.rfl Iff.rfl
        (node_or_channel (by decide))
  | vpe6060Read n ch v =>
      exact readChannel_verdict hrecords hepoll rfl Iff.rfl id Iff.rfl Iff.rfl
        (node_or_channel (by decide))
  | vpe6080Read n ch v =>
      exact readChannel_verdict hrecords hepoll rfl Iff.rfl id Iff.rfl Iff.rfl
        (node_or_channel (by decide))
  | vpe6090Read n ch v =>
      exact readChannel_verdict hrecords hepoll rfl Iff.rfl id Iff.rfl Iff.rfl
        (node_or_channel (by decide))
  | vpe6180Read n ch v =>
      exact readChannel_verdict hrecords hepoll rfl Iff.rfl id Iff.rfl Iff.rfl
        (node_or_channel (by decide))
  | vpe6190Read n ch v =>
      refine readChannel_verdict hrecords hepoll rfl Iff.rfl id Iff.rfl Iff.rfl ?_
      intro hn hc
      unfold Unreachable
      omega
  | vpe6040Configure n ch mode =>
      exact configureChannel_verdict hepoll rfl Iff.rfl id Iff.rfl Iff.rfl
        (node_or_channel (by decide))
  | vpe6050Configure n ch mode =>
      exact configureChannel_verdict hepoll rfl Iff.rfl id Iff.rfl Iff.rfl
        (node_or_channel (by decide))
  | vpe6090Configure n ch type =>
      exact configureChannel_verdict hepoll rfl Iff.rfl id Iff.rfl Iff.rfl
        (node_or_channel (by decide))
  | vpe6190Configure n ch enable =>
      refine configureChannel_verdict hepoll rfl ?_ id Iff.rfl Iff.rfl (fun hn hc => ?_)
      · -- a flag is never too large
        have hflag : ¬ 1 < (flag enable).toNat := by
          unfold flag
          split <;> decide
        unfold Rejects
        exact ⟨by tauto, by tauto⟩
      · unfold Unreachable
        omega
  | vpe6050Write n ch v =>
      exact writeChannel_verdict hepoll rfl Iff.rfl id Iff.rfl Iff.rfl
        (node_or_channel (by decide))
  | vpe6070Write n ch v =>
      exact writeChannel_verdict hepoll rfl Iff.rfl id Iff.rfl Iff.rfl
        (node_or_channel (by decide))
  | vpe6060Configure n ch mode polarity bias =>
      simp only [Request.call, wlmioVpe6060Configure]
      split
      · rename_i h
        exact .refused h
      · rename_i h
        have hv := fun v => validate_uint8Register v
        refine .passed h id ((configureRegisters_passed hrecords hepoll ?_).congr ?_ Iff.rfl Iff.rfl)
        · exact ⟨refused_channelName (hv _) (hv _), refused_channelName (hv _) (hv _)⟩
        · exact (refused_channel_iff (meaningful_write (hv _))).trans
            (node_or_channel (by omega) (by omega) (by omega : ch.toNat ≤ 3))
  | vpe6080Configure n ch enabled beta t0 =>
      simp only [Request.call, wlmioVpe6080Configure]
      split
      · rename_i h
        exact .refused h
      · rename_i h
        have hv := fun v => validate_uint16Register v
        have hv₁ := validate_uint8Register (flag enabled)
        refine .passed h id ((configureRegisters_passed hrecords hepoll ?_).congr ?_ Iff.rfl Iff.rfl)
        · exact ⟨refused_channelName (hv _) hv₁, refused_channelName (hv _) hv₁⟩
        · exact (refused_channel_iff (meaningful_write hv₁)).trans
            (node_or_channel (by omega) (by omega) (by omega : ch.toNat ≤ 7))
  | nodeSetSampleInterval n interval =>
      simp only [Request.call, wlmioNodeSetSampleInterval]
      split
      · rename_i h
        exact .refused h
      · rename_i h
        refine .passed h id ?_
        refine (accessWithRecord_passed hrecords hepoll (.setSampleInterval _ c) rfl).congr ?_
          Iff.rfl (supplied_one rfl Iff.rfl)
        refine (refused_name_iff (meaningful_write (validate_uint16Register _)) (by decide)).trans ?_
        exact ⟨fun hn => by unfold Unreachable; omega, fun hn => Nat.le_of_eq hn.symm⟩

/-! ## The inner check and the outer ones -/

/-- A function of `io.c`. -/
def OfModule : Request → Prop
  | .getNodeInfo .. | .registerList .. | .registerAccess .. | .executeCommand .. => False
  | _ => True

/-- The accesses of a call are accepted: it returns 0 whatever the system answers, if it returns,
and with all that it asks for it returns and its requests are pending. -/
structure InnerAccepts (w : World) (q : Request) (c : Caller) : Prop where
  returns : ∀ os w' r, q.call w (some c) os = .ok (w', r) → r = 0
  pending : ∀ os, RecordMemory os q → PayloadMemory os q → Grants w.registry os (requests q) →
    ∃ w', q.call w (some c) os = .ok (w', 0) ∧ Registers w w' (requests q) (some c)

theorem noMemory_module {q : Request} (h : OfModule q) (os : Nat → Os) : ¬ NoMemory os q := by
  cases q <;> first | exact id | exact h.elim

/-- **What the functions of `io.c` let pass is accepted exactly when** it does not go to node 127,
nor to channel 3 of module 6190. -/
theorem inner_accepts_iff {w : World} (h : Reachable w) {q : Request} (hq : OfModule q)
    {c : Caller} (hpass : ¬ Rejects (some c) q) : InnerAccepts w q c ↔ ¬ Unreachable q := by
  have hverdict := fun os => call_verdict (records_reachable h) (epollfd_reachable h) q (some c) os
  have hown : ∀ os, ¬ (Rejects (some c) q ∨ NoMemory os q) :=
    fun os hor => hor.elim hpass (noMemory_module hq os)
  constructor
  · intro hin hun
    -- with memory for its record the call is refused
    have hrec : RecordMemory (grantFrom 5) q := by cases q <;> trivial
    have hclean := (hverdict (grantFrom 5)).clean.mpr (.inr ⟨hrec, .inl hun⟩)
    cases hcall : q.call w (some c) (grantFrom 5) with
    | error f =>
        rw [hcall] at hclean
        exact hclean
    | ok x =>
        have hneg := ((hverdict (grantFrom 5)).sign x.1 x.2 hcall).mpr (.inr hun)
        rw [hin.returns (grantFrom 5) x.1 x.2 hcall] at hneg
        omega
  · intro hreach
    have hsign : ∀ os w' r, q.call w (some c) os = .ok (w', r) → ¬ r < 0 := by
      intro os w' r hcall hneg
      rcases ((hverdict os).sign w' r hcall).mp hneg with hor | hun
      · exact hown os hor
      · exact hreach hun
    constructor
    · intro os w' r hcall
      cases call_made hcall with
      | refused hneg => exact absurd hneg (hsign os _ _ hcall)
      | withdrawn _ hneg _ => exact absurd hneg (hsign os _ _ hcall)
      | direct _ _ _ _ _ _ => rfl
      | held _ _ _ _ _ _ => rfl
      | counted _ _ _ _ _ _ _ _ => rfl
    · intro os hrec hpay hg
      have hclean := (hverdict os).clean.mpr (.inr ⟨hrec, .inr ⟨by simp, hpay, hg⟩⟩)
      cases hcall : q.call w (some c) os with
      | error f =>
          rw [hcall] at hclean
          exact hclean.elim
      | ok x =>
          rw [hcall] at hclean
          rcases hclean with ⟨hneg, _⟩ | ⟨hzero, _, hregs⟩
          · exact absurd hneg (hsign os _ _ hcall)
          · refine ⟨x.1, ?_, hregs⟩
            rw [← hzero]

/-- Three registers of a channel of module 6060. -/
theorem inner_accepts_6060 : InnerAccepts started (.vpe6060Configure 7 3 2 1 2) (.user 0) :=
  (inner_accepts_iff (q := .vpe6060Configure 7 3 2 1 2) (.init initial_started) trivial
    (by unfold Rejects; decide)).mpr (by unfold Unreachable; decide)

/-- The call passes the check of its function and is refused all the same. -/
def RefusedInside (w : World) (q : Request) (c : Caller) (os : Nat → Os) : Prop :=
  ¬ Rejects (some c) q ∧ (∃ w', q.call w (some c) os = .ok (w', -EINVAL)) ∧ ¬ InnerAccepts w q c

/-- **A node and a channel that no function reaches.** -/
theorem inner_refuses_127 : Reachable started ∧
    RefusedInside started (.vpe6040Read 127 0 (some 0)) (.user 0) (grantFrom 5) ∧
    RefusedInside started (.vpe6190Configure 7 3 1) (.user 0) (grantFrom 5) := by
  refine ⟨.init initial_started, ⟨?_, ⟨_, rfl⟩, ?_⟩, ?_, ⟨_, rfl⟩, ?_⟩
  · unfold Rejects ReadRejected
    decide
  · intro h
    have hzero := h.returns (grantFrom 5) _ (-EINVAL) rfl
    exact absurd hzero (by decide)
  · unfold Rejects
    decide
  · intro h
    have hzero := h.returns (grantFrom 5) _ (-EINVAL) rfl
    exact absurd hzero (by decide)

end Wlmio.Proof
