import Wlmio.Proof.Registry

/-!
# The records of `io.c`

A read or a configuration allocates a record, which its tasks point to and which the last
of their callbacks frees. `Recorded` says that this works out: the record of a linked task is
live and of the kind its callback takes it for, and a callback that frees a record is the
last that works on it, even if code of the application runs before the record is freed.
-/

namespace Wlmio.Proof

open Wlmio.Client Wlmio.Canard

/-! ## Records and their tasks -/

/-- How many of the tasks work on a record. -/
def users (head : List TaskEntry) (p : Nat) : Nat :=
  head.countP (fun t => decide (recordOf t.callback = some p))

/-- Whether a record may have `n` tasks. A configuration counts those that are done. -/
def Budget : IoRecord → Nat → Prop
  | .configure counter cancelled _ _, n => cancelled = 0 ∧ (n + counter ≤ 3 ∨ n ≤ 1)
  | _, n => n ≤ 1

theorem Budget.mono {u : IoRecord} {m n : Nat} (h : Budget u n) (hmn : m ≤ n) : Budget u m := by
  cases u with
  | read _ _ _ => exact Nat.le_trans hmn h
  | configure _ _ _ _ =>
      obtain ⟨hc, hn⟩ := h
      exact ⟨hc, by omega⟩
  | setSampleInterval _ _ _ => exact Nat.le_trans hmn h

/-- The tasks fit the records, and so do the callbacks that have not returned. -/
structure Recorded (head : List TaskEntry) (records : List (Nat × IoRecord)) (next : Nat)
    (stack : List Activation) : Prop where
  unique : KeyedList.Unique Prod.fst records
  lt : ∀ u ∈ records, u.1 < next
  live : ∀ t ∈ head, ∀ p, recordOf t.callback = some p → ∃ u, (p, u) ∈ records ∧ Serves t.callback u
  budget : ∀ p u, (p, u) ∈ records → Budget u (users head p)
  /-- A record that is about to be freed has no task but the one that goes with it. -/
  opened : ∀ task p payload, .user (.completion task (some p)) payload ∈ stack →
    p < next ∧ ∀ t ∈ head, recordOf t.callback = some p → t.addr = task

/-- The records in a state of the machine. -/
def RecordsGood (w : World) : Prop := Recorded w.registry.head w.records w.nextRecord w.stack

theorem users_append (head : List TaskEntry) (t : TaskEntry) (p : Nat) :
    users (head ++ [t]) p = users head p + if recordOf t.callback = some p then 1 else 0 := by
  unfold users
  rw [List.countP_append, List.countP_singleton]
  simp only [decide_eq_true_eq]

/-- A record with one task has no other. -/
theorem only_user {head : List TaskEntry} {p : Nat} (h : users head p ≤ 1) {t u : TaskEntry}
    (ht : t ∈ head) (hu : u ∈ head) (htp : recordOf t.callback = some p)
    (hup : recordOf u.callback = some p) : u = t := by
  unfold users at h
  rw [List.countP_eq_length_filter] at h
  have hmem : ∀ v ∈ head, recordOf v.callback = some p →
      v ∈ head.filter (fun t => decide (recordOf t.callback = some p)) :=
    fun v hv hvp => List.mem_filter.mpr ⟨hv, decide_eq_true hvp⟩
  have ht' := hmem t ht htp
  have hu' := hmem u hu hup
  revert h ht' hu'
  generalize head.filter (fun t => decide (recordOf t.callback = some p)) = l
  intro h ht' hu'
  match l, h with
  | [a], _ => rw [List.mem_singleton.mp ht', List.mem_singleton.mp hu']
  | [], _ => simp at ht'
  | _ :: _ :: _, h => simp at h

theorem recordAt_mem {w : World} {p : Nat} {u : IoRecord} (h : recordAt w p = some u) :
    (p, u) ∈ w.records := by
  unfold recordAt at h
  obtain ⟨⟨q, v⟩, hfind, rfl⟩ := Option.map_eq_some_iff.mp h
  obtain rfl : q = p := by simpa using List.find?_some hfind
  exact List.mem_of_find?_eq_some hfind

theorem recordAt_of_mem {w : World} (h : KeyedList.Unique Prod.fst w.records) {p : Nat}
    {u : IoRecord} (hu : (p, u) ∈ w.records) : recordAt w p = some u := by
  unfold recordAt
  rw [h.find hu]
  rfl

section

variable {head : List TaskEntry} {records : List (Nat × IoRecord)} {next : Nat}
  {stack stack' : List Activation}

/-- Records are told apart by their addresses. -/
theorem Recorded.record_eq (h : Recorded head records next stack) {p : Nat} {u v : IoRecord}
    (hu : (p, u) ∈ records) (hv : (p, v) ∈ records) : u = v :=
  (Prod.mk.inj (h.unique.eq hu hv rfl)).2

/-- Fewer calls, or others that free nothing. -/
theorem Recorded.calls (h : Recorded head records next stack)
    (hs : ∀ task p payload, .user (.completion task (some p)) payload ∈ stack' →
      .user (.completion task (some p)) payload ∈ stack) : Recorded head records next stack' :=
  { h with opened := fun task p payload hm => h.opened task p payload (hs task p payload hm) }

/-- A callback is running, and then its record will be freed. -/
theorem Recorded.push (h : Recorded head records next stack) {task p : Nat}
    {payload : Option Buffer} (hp : p < next)
    (honly : ∀ t ∈ head, recordOf t.callback = some p → t.addr = task) :
    Recorded head records next (.user (.completion task (some p)) payload :: stack) :=
  { h with
    opened := by
      intro task' p' payload' hm
      rcases List.mem_cons.mp hm with heq | hm
      · obtain ⟨⟨rfl, ⟨rfl⟩⟩, rfl⟩ := by simpa using heq
        exact ⟨hp, honly⟩
      · exact h.opened task' p' payload' hm }

/-- **A new task** may join if its record has room for it and is not about to be freed. -/
theorem Recorded.addTask (h : Recorded head records next stack) {t : TaskEntry}
    (ht : ∀ p, recordOf t.callback = some p →
      (∃ u, (p, u) ∈ records ∧ Serves t.callback u ∧ Budget u (users head p + 1)) ∧
        ∀ task payload, .user (.completion task (some p)) payload ∉ stack) :
    Recorded (head ++ [t]) records next stack :=
  { h with
    live := by
      intro t' ht' p hp
      rcases List.mem_append.mp ht' with ht' | ht'
      · exact h.live t' ht' p hp
      · obtain rfl := List.mem_singleton.mp ht'
        obtain ⟨⟨u, hu, hserves, _⟩, _⟩ := ht p hp
        exact ⟨u, hu, hserves⟩
    budget := by
      intro p u hu
      rw [users_append]
      split
      · rename_i hp
        obtain ⟨⟨v, hv, _, hroom⟩, _⟩ := ht p hp
        rw [h.record_eq hu hv]
        exact hroom
      · exact h.budget p u hu
    opened := by
      intro task p payload hm
      refine ⟨(h.opened task p payload hm).1, ?_⟩
      intro t' ht' hp
      rcases List.mem_append.mp ht' with ht' | ht'
      · exact (h.opened task p payload hm).2 t' ht' hp
      · obtain rfl := List.mem_singleton.mp ht'
        exact absurd hm ((ht p hp).2 task payload) }

/-- Nothing points to a record that is not there yet. -/
theorem Recorded.unused (h : Recorded head records next stack) :
    users head next = 0 ∧ ∀ task payload, .user (.completion task (some next)) payload ∉ stack := by
  refine ⟨List.countP_eq_zero.mpr (?_), ?_⟩
  · intro t ht hp
    obtain ⟨u, hu, _⟩ := h.live t ht next (of_decide_eq_true hp)
    exact Nat.lt_irrefl _ (h.lt _ hu)
  · intro task payload hm
    exact Nat.lt_irrefl _ (h.opened task next payload hm).1

/-- **A new record**. -/
theorem Recorded.addRecord (h : Recorded head records next stack) {u : IoRecord}
    (hu : Budget u 0) : Recorded head (records ++ [(next, u)]) (next + 1) stack where
  unique := h.unique.append (fun v hv => Nat.ne_of_lt (h.lt v hv))
  lt := by
    intro v hv
    rcases List.mem_append.mp hv with hv | hv
    · exact Nat.lt_succ_of_lt (h.lt v hv)
    · obtain rfl := List.mem_singleton.mp hv
      exact Nat.lt_succ_self next
  live := by
    intro t ht p hp
    obtain ⟨v, hv, hserves⟩ := h.live t ht p hp
    exact ⟨v, List.mem_append_left _ hv, hserves⟩
  budget := by
    intro p v hv
    rcases List.mem_append.mp hv with hv | hv
    · exact h.budget p v hv
    · obtain ⟨rfl, rfl⟩ := Prod.mk.inj (List.mem_singleton.mp hv)
      rw [h.unused.1]
      exact hu
  opened := fun task p payload hm =>
    ⟨Nat.lt_succ_of_lt (h.opened task p payload hm).1, (h.opened task p payload hm).2⟩

/-- A task gone. -/
theorem Recorded.dropTask (h : Recorded head records next stack) (task : Nat) :
    Recorded (head.filter (fun t => decide (t.addr ≠ task))) records next stack :=
  { h with
    live := fun t ht => h.live t (KeyedList.mem_without.mp ht).1
    budget := fun p u hu => (h.budget p u hu).mono (List.filter_sublist.countP_le)
    opened := fun task' p payload hm =>
      ⟨(h.opened task' p payload hm).1,
        fun t ht => (h.opened task' p payload hm).2 t (KeyedList.mem_without.mp ht).1⟩ }

/-- **A record gone** that no task works on. -/
theorem Recorded.dropRecord (h : Recorded head records next stack) {p : Nat}
    (hp : ∀ t ∈ head, recordOf t.callback ≠ some p) :
    Recorded head (records.filter (fun u => decide (u.1 ≠ p))) next stack where
  unique := h.unique.filter _
  lt := fun u hu => h.lt u (KeyedList.mem_without.mp hu).1
  live := by
    intro t ht q hq
    obtain ⟨u, hu, hserves⟩ := h.live t ht q hq
    exact ⟨u, KeyedList.mem_without.mpr ⟨hu, fun heq => hp t ht (heq ▸ hq)⟩, hserves⟩
  budget := fun q u hu => h.budget q u (KeyedList.mem_without.mp hu).1
  opened := h.opened

/-- A record rewritten. -/
theorem Recorded.set (h : Recorded head records next stack) {p : Nat} {u u' : IoRecord}
    (hu : (p, u) ∈ records) (hserves : ∀ cb, Serves cb u → Serves cb u')
    (hroom : Budget u' (users head p)) :
    Recorded head (records.map (fun v => if v.1 = p then (p, u') else v)) next stack where
  unique := by
    -- rewriting keeps the addresses
    have hfst : ((fun v : Nat × IoRecord => v.1) ∘ fun v => if v.1 = p then (p, u') else v) =
        Prod.fst := by
      funext v
      simp only [Function.comp]
      split
      · rename_i hv; exact hv.symm
      · rfl
    unfold KeyedList.Unique
    rw [List.map_map, hfst]
    exact h.unique
  lt := by
    intro v hv
    obtain ⟨v₀, hv₀, rfl⟩ := List.mem_map.mp hv
    split
    · rename_i heq
      rw [← heq]
      exact h.lt v₀ hv₀
    · exact h.lt v₀ hv₀
  live := by
    intro t ht q hq
    obtain ⟨v, hv, hs⟩ := h.live t ht q hq
    by_cases heq : q = p
    · subst heq
      rw [h.record_eq hv hu] at hs
      exact ⟨u', List.mem_map.mpr ⟨(q, u), hu, by simp⟩, hserves _ hs⟩
    · exact ⟨v, List.mem_map.mpr ⟨(q, v), hv, by simp [heq]⟩, hs⟩
  budget := by
    intro q v hv
    obtain ⟨v₀, hv₀, heq⟩ := List.mem_map.mp hv
    split at heq
    · obtain ⟨rfl, rfl⟩ := Prod.mk.inj heq
      exact hroom
    · subst heq
      exact h.budget q v hv₀
  opened := h.opened

end

theorem recordAt_addRecord {w : World} (h : RecordsGood w) (t : IoRecord) :
    recordAt (addRecord w t) w.nextRecord = some t := by
  refine recordAt_of_mem ?_ (List.mem_append_right _ (List.mem_singleton.mpr rfl))
  exact h.unique.append (fun u hu => Nat.ne_of_lt (h.lt u hu))

/-! ## Requests -/

section

variable {w w' : World}

theorem submit_frame {service : Service} {nodeId : Nat} {payload : List Byte} {param : Param}
    {callback : Option Callback} {os : Os}
    (h : submit w service nodeId payload param callback os = .ok w') :
    w'.records = w.records ∧ w'.nextRecord = w.nextRecord ∧ w'.stack = w.stack := by
  obtain ⟨cb, _, ⟨_, rfl⟩ | ⟨_, rfl⟩⟩ := submit_cases h
  · exact ⟨rfl, rfl, rfl⟩
  · exact ⟨rfl, rfl, rfl⟩

/-- A request may use a record that has room for it. -/
theorem submit_records {service : Service} {nodeId : Nat} {payload : List Byte} {param : Param}
    {callback : Option Callback} {os : Os} (h : RecordsGood w)
    (hcb : ∀ cb ∈ callback, ∀ p, recordOf cb = some p →
      (∃ u, (p, u) ∈ w.records ∧ Serves cb u ∧ Budget u (users w.registry.head p + 1)) ∧
        ∀ task payload, .user (.completion task (some p)) payload ∉ w.stack)
    (hs : submit w service nodeId payload param callback os = .ok w') :
    RecordsGood w' ∧ ∀ p, users w'.registry.head p ≤ users w.registry.head p + 1 := by
  obtain ⟨cb, rfl, ⟨_, rfl⟩ | ⟨_, rfl⟩⟩ := submit_cases hs
  · refine ⟨Recorded.addTask h (hcb cb rfl), ?_⟩
    intro p
    show users (w.registry.head ++ [_]) p ≤ _
    rw [users_append]
    split
    · exact Nat.le_refl _
    · exact Nat.le_succ _
  · exact ⟨h, fun p => Nat.le_succ _⟩

theorem Holder.serves {t : IoRecord} {cb : Nat → Callback} (h : Holder t cb) (p : Nat) :
    recordOf (cb p) = some p ∧ Serves (cb p) t ∧ ∀ n, n ≤ 1 → Budget t n := by
  cases h with
  | read module input c => exact ⟨rfl, .read module p none input c, fun _ hn => hn⟩
  | setSampleInterval garbage c => exact ⟨rfl, .setSampleInterval p none garbage c, fun _ hn => hn⟩

/-- **A call keeps the records in order.** -/
theorem made_records {c : Option Caller} {r : Int} (h : RecordsGood w) (hm : Made w c w' r) :
    RecordsGood w' := by
  cases hm with
  | refused _ => exact h
  | withdrawn t _ hfree =>
      rw [(freeRecord_cases hfree).2]
      -- the list is the old one again; only the next address has moved on
      have hsame : (withoutRecord (addRecord w t) w.nextRecord).records = w.records := by
        show (w.records ++ [(w.nextRecord, t)]).filter _ = w.records
        rw [List.filter_append, List.filter_cons_of_neg (by simp), List.filter_nil,
          List.append_nil]
        exact List.filter_eq_self.mpr
          (fun u hu => decide_eq_true (Nat.ne_of_lt (h.lt u hu)))
      show Recorded w.registry.head (withoutRecord (addRecord w t) w.nextRecord).records
        (w.nextRecord + 1) w.stack
      rw [hsame]
      exact
        { h with
          lt := fun u hu => Nat.lt_succ_of_lt (h.lt u hu)
          opened := fun task p payload hm =>
            ⟨Nat.lt_succ_of_lt (h.opened task p payload hm).1, (h.opened task p payload hm).2⟩ }
  | direct _ _ _ _ _ hs =>
      refine (submit_records h ?_ hs).1
      intro cb hcb p hp
      obtain ⟨c, _, rfl⟩ := Option.map_eq_some_iff.mp hcb
      cases hp
  | @held _ t cb _ _ _ _ ht _ hs =>
      have hserves := ht.serves w.nextRecord
      have hadd : RecordsGood (addRecord w t) := Recorded.addRecord h (hserves.2.2 0 (by omega))
      refine (submit_records hadd ?_ hs).1
      intro cb' hcb' p hp
      obtain rfl := Option.some.inj hcb'
      obtain rfl := Option.some.inj (hp.symm.trans hserves.1)
      refine ⟨⟨t, List.mem_append_right _ (List.mem_singleton.mpr rfl), hserves.2.1, ?_⟩, h.unused.2⟩
      show Budget t (users w.registry.head w.nextRecord + 1)
      rw [h.unused.1]
      exact hserves.2.2 1 (Nat.le_refl 1)
  | @counted w₁ w₂ _ _ _ _ _ os _ h₁ h₂ h₃ =>
      have hadd : RecordsGood (addRecord w (.configure 0 0 0 c)) :=
        Recorded.addRecord h ⟨rfl, .inl (by omega)⟩
      -- up to three tasks may join the new record
      have hcb : ∀ v : World, v.records = (addRecord w (.configure 0 0 0 c)).records →
          v.stack = w.stack → users v.registry.head w.nextRecord ≤ 2 →
          ∀ cb ∈ some (Callback.configure w.nextRecord), ∀ p, recordOf cb = some p →
            (∃ u, (p, u) ∈ v.records ∧ Serves cb u ∧ Budget u (users v.registry.head p + 1)) ∧
              ∀ task payload, .user (.completion task (some p)) payload ∉ v.stack := by
        intro v hrec hstack husers cb hcb p hp
        obtain rfl := Option.some.inj hcb
        obtain rfl := Option.some.inj hp
        rw [hrec, hstack]
        exact ⟨⟨_, List.mem_append_right _ (List.mem_singleton.mpr rfl), .configure _ 0 0 0 c, rfl,
          .inl (by omega)⟩, h.unused.2⟩
      have hzero : users (addRecord w (.configure 0 0 0 c)).registry.head w.nextRecord = 0 := h.unused.1
      obtain ⟨g₁, n₁⟩ := submit_records hadd (hcb _ rfl rfl (by omega)) h₁
      obtain ⟨hr₁, _, hs₁⟩ := submit_frame h₁
      have hone := n₁ w.nextRecord
      obtain ⟨g₂, n₂⟩ := submit_records g₁ (hcb w₁ hr₁ hs₁ (by omega)) h₂
      obtain ⟨hr₂, _, hs₂⟩ := submit_frame h₂
      have htwo := n₂ w.nextRecord
      exact (submit_records g₂ (hcb w₂ (hr₂.trans hr₁) (hs₂.trans hs₁) (by omega)) h₃).1

/-! ## Completions -/

theorem wrote_records {t : TaskEntry} (h : RecordsGood w) (hw : Wrote w t w') :
    RecordsGood w' := by
  cases hw with
  | nothing => exact h
  | buffer _ _ => exact h
  | @record p u u' v _ hrec hst =>
      have hu := recordAt_mem hrec
      have hroom := h.budget p u hu
      refine Recorded.set h hu ?_ ?_
      · intro cb hserves
        cases hst with
        | read _ _ _ => cases hserves; constructor
        | setSampleInterval _ _ _ => cases hserves; constructor
      · cases hst with
        | read _ _ _ => exact hroom
        | setSampleInterval _ _ _ => exact hroom

theorem users_without {r : Registry} (h : Good r) {t : TaskEntry} (ht : t ∈ r.head) {p : Nat}
    (hp : recordOf t.callback = some p) :
    users r.head p = users (r.head.filter (fun u => decide (u.addr ≠ t.addr))) p + 1 := by
  unfold users
  rw [(h.task_unique.perm_without ht).countP_eq, List.countP_cons_of_pos (by simpa using hp)]

theorem callCaller_records {c : Option Caller} {r : Int} {user : Bool}
    (h : callCaller w c r = .ok (w', user)) : w'.records = w.records := by
  rcases callCaller_cases h with ⟨_, _, _, rfl⟩ | ⟨_, _, _, rfl⟩
  · rfl
  · rfl

/-- A callback that frees its record is the last that works on it; any other leaves a record that
fits the tasks without its own. -/
theorem called_records {t : TaskEntry} {user : Bool} {record : Option Nat} (hg : Good w.registry)
    (h : RecordsGood w) (ht : t ∈ w.registry.head) (hc : Calls w t.callback w' user record) :
    (∃ p, record = some p ∧ p < w.nextRecord ∧ recordOf t.callback = some p ∧
        (∀ u ∈ w.registry.head, recordOf u.callback = some p → u = t) ∧
        Recorded w.registry.head w'.records w.nextRecord w.stack) ∨
      (record = none ∧ (user = true → w'.records = w.records) ∧
        Recorded (w.registry.head.filter (fun u => decide (u.addr ≠ t.addr))) w'.records
          w.nextRecord w.stack) := by
  generalize hcb : t.callback = cb at hc
  cases hc with
  | caller hcall =>
      right
      rw [callCaller_records hcall]
      exact ⟨rfl, fun _ => rfl, h.dropTask t.addr⟩
  | @held p u _ _ _ _ _ hrec hof hno hserves hw hcall =>
      left
      have hu := recordAt_mem hrec
      -- only configurations share their record
      have hone : users w.registry.head p ≤ 1 := by
        have hroom := h.budget p u hu
        cases hserves with
        | read _ _ _ _ _ => exact hroom
        | configure q _ _ _ _ => exact absurd rfl (hno q)
        | setSampleInterval _ _ _ _ => exact hroom
      have hrecords : w'.records = w.records := by
        rw [callCaller_records hcall]
        rcases hw with rfl | ⟨_, _, rfl⟩
        · rfl
        · rfl
      rw [hrecords]
      exact ⟨p, rfl, h.lt _ hu, hof,
        fun v hv hvp => only_user hone ht hv (by rw [hcb]; exact hof) hvp, h⟩
  | @counting p counter cancelled _ _ c hrec hlt =>
      right
      have hu := recordAt_mem hrec
      -- replies counted and tasks pending never exceed three
      obtain ⟨hzero, hroom⟩ := h.budget p _ hu
      have hless := users_without hg ht (by rw [hcb]; rfl : recordOf t.callback = some p)
      refine ⟨rfl, by simp, (h.dropTask t.addr).set hu ?_ ⟨hzero, ?_⟩⟩
      · intro cb hserves
        cases hserves
        constructor
      · omega
  | @counted p counter cancelled _ _ c _ _ hrec hlt hcall =>
      left
      have hu := recordAt_mem hrec
      obtain ⟨hzero, hroom⟩ := h.budget p _ hu
      have hless := users_without hg ht (by rw [hcb]; rfl : recordOf t.callback = some p)
      have hone : users w.registry.head p ≤ 1 := by omega
      rw [callCaller_records hcall]
      refine ⟨p, rfl, h.lt _ hu, rfl,
        fun v hv hvp => only_user hone ht hv (by rw [hcb]; rfl) hvp, h.set hu ?_ ⟨hzero, .inr hone⟩⟩
      intro cb hserves
      cases hserves
      constructor

/-- The lists after the task and the record are gone. -/
theorem finishCompletion_lists {task : Nat} {record : Option Nat}
    (h : finishCompletion w task record = .ok w') :
    w'.registry.head = w.registry.head.filter (fun t => decide (t.addr ≠ task)) ∧
      w'.records = w.records.filter (fun u => decide (some u.1 ≠ record)) := by
  obtain ⟨w₁, hrel, hcases⟩ := finishCompletion_cases h
  have hrecords : w₁.records = w.records.filter (fun u => decide (some u.1 ≠ record)) := by
    rcases hrel with ⟨rfl, rfl⟩ | ⟨p, rfl, _, rfl⟩
    · simp
    · simp [withoutRecord]
  rcases hcases with ⟨hnil, rfl⟩ | ⟨t, e, ht, _, rfl⟩
  · refine ⟨?_, hrecords⟩
    rw [hrel.core.1, hnil]
    rfl
  · obtain ⟨_, rfl⟩ := taskAt_mem ht
    exact ⟨rfl, hrecords⟩

/-- **When a callback has returned**, its record and its task go together. -/
theorem finishCompletion_records {task : Nat} {record : Option Nat} (h : RecordsGood w)
    (honly : ∀ p ∈ record, ∀ t ∈ w.registry.head, recordOf t.callback = some p → t.addr = task)
    (hf : finishCompletion w task record = .ok w') : RecordsGood w' := by
  obtain ⟨hhead, hrecords⟩ := finishCompletion_lists hf
  have hcalls := finishCompletion_calls hf
  unfold RecordsGood
  rw [hhead, hrecords, hcalls.nextRecord, hcalls.stack]
  have hdrop := h.dropTask task
  cases record with
  | none => simpa using hdrop
  | some p =>
      have hgone := hdrop.dropRecord (p := p) (fun t ht hp => by
        obtain ⟨htm, hne⟩ := KeyedList.mem_without.mp ht
        exact hne (honly p rfl t htm hp))
      simpa using hgone

/-- A completion leaves the records in order; if the application runs first, then its record will be
freed with its task. -/
theorem complete_records {t : TaskEntry} {r : Int} {rest : Option Rest} (hg : Good w.registry)
    (h : RecordsGood w) (ht : t ∈ w.registry.head) (hc : complete w t r = .ok (w', rest)) :
    RecordsGood w' ∧ ∀ task p, rest = some (.completion task (some p)) →
      p < w'.nextRecord ∧ ∀ u ∈ w'.registry.head, recordOf u.callback = some p → u.addr = task := by
  obtain ⟨w₁, user, record, hcall, hrest⟩ := complete_cases hc
  have hframe := hcall.frame
  have hcalled := called_records (w := w.log (.invoked t.addr t.serial r)) hg h ht hcall
  -- a reply that is only counted breaks the budget until its task goes; all else keeps it
  have hgood : (user = true ∨ ∃ p, record = some p) → RecordsGood w₁ := by
    intro hor
    unfold RecordsGood
    rw [hframe.registry, hframe.nextRecord, hframe.stack]
    rcases hcalled with ⟨p, _, _, _, _, hrec⟩ | ⟨rfl, hsame, _⟩
    · exact hrec
    · rcases hor with hu | ⟨p, hp⟩
      · rw [hsame hu]
        exact h
      · cases hp
  rcases hrest with ⟨hu, rfl, rfl⟩ | ⟨_, rfl, hfin⟩
  · refine ⟨hgood (.inl hu), ?_⟩
    rintro task p heq
    obtain ⟨rfl, rfl⟩ := by simpa using heq
    rw [hframe.registry, hframe.nextRecord]
    rcases hcalled with ⟨q, hq, hlt, _, honly, _⟩ | ⟨hnone, _⟩
    · obtain rfl := Option.some.inj hq
      exact ⟨hlt, fun u hu hup => by rw [honly u hu hup]⟩
    · cases hnone
  · refine ⟨?_, by simp⟩
    rcases hcalled with ⟨p, rfl, hlt, _, honly, hrec⟩ | ⟨rfl, _, hrec⟩
    · refine finishCompletion_records (hgood (.inr ⟨p, rfl⟩)) ?_ hfin
      intro q hq u hu hup
      obtain rfl := Option.some.inj hq
      rw [hframe.registry] at hu
      rw [honly u hu hup]
    · obtain ⟨hhead, hrecords⟩ := finishCompletion_lists hfin
      have hcalls := finishCompletion_calls hfin
      unfold RecordsGood
      rw [hhead, hrecords, hcalls.nextRecord, hcalls.stack, hframe.registry, hframe.nextRecord,
        hframe.stack]
      simpa using hrec

end

/-! ## Every reachable state -/

theorem Resumed.recordsGood {w w' : World} {rest : Option Rest} (hr : Resumed w rest w')
    (hhead : RecordsGood w)
    (honly : ∀ task p, rest = some (.completion task (some p)) →
      p < w.nextRecord ∧ ∀ u ∈ w.registry.head, recordOf u.callback = some p → u.addr = task) :
    RecordsGood w' := by
  unfold RecordsGood
  rw [hr.registry, hr.records, hr.nextRecord]
  rcases hr.stack with ⟨_, hs⟩ | ⟨r, payload, rfl, hs⟩
  · rw [hs]
    exact hhead
  · rw [hs]
    cases r with
    | status =>
        refine Recorded.calls hhead ?_
        intro task p payload' hm
        simpa using hm
    | completion task record =>
        cases record with
        | none =>
            refine Recorded.calls hhead ?_
            intro task' p payload' hm
            simpa using hm
        | some p => exact Recorded.push hhead (honly task p rfl).1 (honly task p rfl).2

theorem Recorded.edit {r r' : Registry} {records : List (Nat × IoRecord)} {next : Nat}
    {stack : List Activation} (h : Recorded r.head records next stack) (he : NodeEdit r r') :
    Recorded r'.head records next stack := by
  rw [he.head]
  exact h

theorem reportStatus_records {w w' : World} {node : Nat} {old : WlmioStatus} {rest : Option Rest}
    (h : RecordsGood w) (hr : reportStatus w node old = (w', rest)) (payload : Option Buffer) :
    RecordsGood (resume w' rest payload) := by
  rcases reportStatus_cases hr with ⟨_, rfl, rfl⟩ | ⟨_, rfl, rfl⟩
  · exact (resume_frame _ _ payload).recordsGood h (by simp)
  · exact (resume_frame _ _ payload).recordsGood h (by simp)

/-- **Every act keeps the records in order.** -/
theorem did_records {w w' : World} {a : Act} (hg : Good w.registry) (h : RecordsGood w)
    (hd : Did w a w') : RecordsGood w' := by
  cases hd with
  | request _ hm => exact made_records h hm
  | syncRefused _ _ hm =>
      exact made_records (w := { w with syncFlag := false, nextCall := w.nextCall + 1 }) h hm
  | syncEntered _ hm =>
      have h₁ := made_records (w := { w with syncFlag := false, nextCall := w.nextCall + 1 }) h hm
      exact Recorded.calls h₁ (fun task p payload hm => by simpa using hm)
  | setTimeout _ => exact h
  | setStatusCallback _ => exact h
  | tick _ => exact Recorded.calls h (fun task p payload hm => by simpa using hm)
  | @taskExpired e t w₁ rest _ _ _ _ _ _ _ ht hc =>
      obtain ⟨h₁, honly⟩ := complete_records hg h (taskWithTimer_mem ht).1 hc
      exact (resume_frame w₁ rest none).recordsGood h₁ honly
  | @nodeExpired e r _ _ _ w₁ rest _ _ _ _ _ hx hrep =>
      have h₁ : RecordsGood { w with registry := r } := Recorded.edit h (timeout_edit hx)
      exact reportStatus_records h₁ hrep none
  | collected _ _ => exact h
  | ignored _ _ => exact h
  | @beat _ _ _ canard _ w₁ rest _ payload _ _ _ hb =>
      obtain ⟨r, old, hr, hrest⟩ := hb
      have h₁ : RecordsGood { withCanard w canard with registry := r } :=
        Recorded.edit h (heartbeat_edit hr)
      rcases hrest with ⟨_, rfl, rfl⟩ | ⟨o, _, hrep⟩
      · exact h₁
      · exact reportStatus_records h₁ hrep payload
  | @response _ _ _ canard _ _ tfr w₁ rest _ payload _ _ _ _ _ hr =>
      rcases hr with ⟨_, rfl, rfl⟩ | ⟨t, w₂, r, ht, hw, hc⟩
      · exact h
      · have h₂ : RecordsGood w₂ := wrote_records (w := withCanard w canard) h hw
        have hreg : w₂.registry = w.registry := hw.frame.1.registry
        obtain ⟨h₁, honly⟩ := complete_records (hreg ▸ hg) h₂ (hreg ▸ (taskWithId_mem ht).1) hc
        exact (resume_frame w₁ rest payload).recordsGood h₁ honly
  | @idle _ _ hs => exact Recorded.calls h (fun task p payload hm => by rw [hs]; exact .tail _ hm)
  | @syncReturned _ _ hs _ =>
      exact Recorded.calls h (fun task p payload hm => by rw [hs]; exact .tail _ hm)
  | looped _ _ => exact Recorded.calls h (fun task p payload hm => by simpa using hm)
  | @completed task record payload stack w₁ hs hfin =>
      have h₁ : RecordsGood { w with stack := stack } :=
        Recorded.calls h (fun task p payload hm => by rw [hs]; exact .tail _ hm)
      refine @finishCompletion_records _ w₁ _ _ h₁ ?_ hfin
      intro p hp
      obtain rfl : record = some p := hp
      exact (h.opened task p payload (by rw [hs]; exact .head _)).2
  | @reported payload stack hs =>
      exact Recorded.calls h (fun task p payload hm => by rw [hs]; exact .tail _ hm)

theorem records_fresh {w : World} (h : Fresh w) : RecordsGood w := by
  unfold RecordsGood
  rw [h.head, h.records, h.stack]
  exact ⟨KeyedList.unique_nil, by simp, by simp, by simp, by simp⟩

theorem records_reachable {w : World} (h : Reachable w) : RecordsGood w := by
  refine Transition.Reaches.invariant ?_ ?_ h
  · intro w hw
    exact records_fresh (fresh_of_initial hw)
  intro w a w' hr _ hgood hs
  rcases (step_cases hs).2 with hd | ⟨f, _, rfl⟩
  · exact did_records (good_reachable hr) hgood hd
  · exact hgood

/-- **The record of a linked task is live**, and it is what the callback takes it for. -/
theorem record_live {w : World} (h : Reachable w) {t : TaskEntry} (ht : t ∈ w.registry.head)
    {p : Nat} (hp : recordOf t.callback = some p) :
    ∃ u, recordAt w p = some u ∧ Serves t.callback u := by
  have hgood := records_reachable h
  obtain ⟨u, hu, hserves⟩ := hgood.live t ht p hp
  exact ⟨u, recordAt_of_mem hgood.unique hu, hserves⟩

end Wlmio.Proof
