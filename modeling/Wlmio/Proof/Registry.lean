import Wlmio.Library.KeyedList
import Wlmio.Proof.Effects

/-!
# The registry invariant

The task list, the descriptor list and the table of node timers refer to each other:
the timer of a task is an entry with `async_handler`, and every such entry is the timer
of exactly one task; the timer of a node is the descriptor of an entry with
`heartbeat_timeout_handler`, and every such entry with a descriptor is the timer of
exactly one node. `Good` is this, together with what makes the pointers of the source
mean one record each: addresses and open descriptors are unique.

Each edit of the lists is shown to keep `Good`, and so it holds in every reachable
state, whatever the callbacks do in between.
-/

namespace Wlmio.Proof

open Wlmio.Client Wlmio.Canard

/-- The lists and the table fit together. -/
structure Good (r : Registry) : Prop where
  entry_unique : KeyedList.Unique FdEntry.addr r.fdEntries
  entry_lt : ∀ e ∈ r.fdEntries, e.addr < r.next
  /-- An open descriptor belongs to one entry. -/
  fd_inj : ∀ e ∈ r.fdEntries, ∀ e' ∈ r.fdEntries, 0 ≤ e.fd → e.fd = e'.fd → e = e'
  socket : ∀ e ∈ r.fdEntries, e.handler = .canSocketHandler → e.fd = r.canSock
  task_unique : KeyedList.Unique TaskEntry.addr r.head
  task_lt : ∀ t ∈ r.head, t.addr < r.next
  /-- The timer of a task. -/
  timer : ∀ t ∈ r.head, ∃ e ∈ r.fdEntries, e.addr = t.timer ∧ e.handler = .asyncHandler ∧ 0 ≤ e.fd
  timer_inj : ∀ t ∈ r.head, ∀ t' ∈ r.head, t.timer = t'.timer → t = t'
  /-- The task of a timer. -/
  owner : ∀ e ∈ r.fdEntries, e.handler = .asyncHandler → ∃ t ∈ r.head, t.timer = e.addr
  /-- The timer of a node. -/
  node : ∀ i, i ≤ CANARD_NODE_ID_MAX → 0 ≤ r.timers i →
    ∃ e ∈ r.fdEntries, e.fd = r.timers i ∧ e.handler = .heartbeatTimeoutHandler
  node_inj : ∀ i j, i ≤ CANARD_NODE_ID_MAX → j ≤ CANARD_NODE_ID_MAX → 0 ≤ r.timers i →
    r.timers i = r.timers j → i = j
  /-- The node of a timer. -/
  node_owner : ∀ e ∈ r.fdEntries, e.handler = .heartbeatTimeoutHandler → 0 ≤ e.fd →
    ∃ i, i ≤ CANARD_NODE_ID_MAX ∧ r.timers i = e.fd

theorem Good.fdEntryAt {r : Registry} (h : Good r) {e : FdEntry} (he : e ∈ r.fdEntries) :
    r.fdEntryAt e.addr = some e := h.entry_unique.find he

theorem Good.taskAt {r : Registry} (h : Good r) {t : TaskEntry} (ht : t ∈ r.head) :
    r.taskAt t.addr = some t := h.task_unique.find ht

/-- **The search of `async_handler` finds the task.** -/
theorem Good.taskWithTimer {r : Registry} (h : Good r) {t : TaskEntry} (ht : t ∈ r.head) :
    r.taskWithTimer t.timer = some t :=
  KeyedList.find_only ht (by simp) (fun b hb hp => h.timer_inj b hb t ht (by simpa using hp))

/-- The search by descriptor finds the entry of an open one. -/
theorem Good.fdEntryFind {r : Registry} (h : Good r) {e : FdEntry} (he : e ∈ r.fdEntries)
    (hfd : 0 ≤ e.fd) : r.fdEntryFind e.fd = some e :=
  KeyedList.find_only he (by simp)
    (fun b hb hp => (h.fd_inj e he b hb hfd (of_decide_eq_true hp).symm).symm)

/-- A descriptor that is not open is in no entry. -/
theorem Good.not_mem_openFds {r : Registry} (hgood : Good r) {fd : Int} (h : fd ∉ r.openFds) :
    ∀ e ∈ r.fdEntries, e.fd ≠ fd := by
  intro e he heq
  refine h (List.mem_cons.mpr (.inr (List.mem_cons.mpr ?_)))
  by_cases hh : e.handler = .canSocketHandler
  · exact .inl (heq.symm.trans (hgood.socket e he hh))
  · exact .inr (List.mem_map.mpr ⟨e, List.mem_filter.mpr ⟨he, by simpa using hh⟩, heq⟩)

/-! ## Entries come and go -/

/-- The part of the invariant that is about the descriptor list alone. -/
structure EntriesGood (r : Registry) : Prop where
  unique : KeyedList.Unique FdEntry.addr r.fdEntries
  lt : ∀ e ∈ r.fdEntries, e.addr < r.next
  inj : ∀ e ∈ r.fdEntries, ∀ e' ∈ r.fdEntries, 0 ≤ e.fd → e.fd = e'.fd → e = e'
  socket : ∀ e ∈ r.fdEntries, e.handler = .canSocketHandler → e.fd = r.canSock

theorem Good.entries {r : Registry} (h : Good r) : EntriesGood r :=
  ⟨h.entry_unique, h.entry_lt, h.fd_inj, h.socket⟩

/-- A timer is added, at a new address and with a descriptor that is not open. -/
theorem EntriesGood.append {r r' : Registry} (h : EntriesGood r) {e : FdEntry}
    (hr : r'.fdEntries = r.fdEntries ++ [e]) (hsock : r'.canSock = r.canSock)
    (haddr : r.next ≤ e.addr) (hnext : e.addr < r'.next)
    (hfresh : 0 ≤ e.fd → ∀ e' ∈ r.fdEntries, e'.fd ≠ e.fd) (hh : e.handler ≠ .canSocketHandler) :
    EntriesGood r' where
  unique := by
    rw [hr]
    refine h.unique.append ?_
    intro e' he' heq
    have hlt := h.lt e' he'
    omega
  lt := by
    intro e' he'
    rw [hr] at he'
    rcases List.mem_append.mp he' with he' | he'
    · have hlt := h.lt e' he'
      omega
    · obtain rfl := List.mem_singleton.mp he'
      exact hnext
  inj := by
    intro e₁ he₁ e₂ he₂ h0 heq
    rw [hr] at he₁ he₂
    rcases List.mem_append.mp he₁ with hm₁ | hm₁ <;> rcases List.mem_append.mp he₂ with hm₂ | hm₂
    · exact h.inj e₁ hm₁ e₂ hm₂ h0 heq
    · obtain rfl := List.mem_singleton.mp hm₂
      exact absurd heq (hfresh (heq ▸ h0) e₁ hm₁)
    · obtain rfl := List.mem_singleton.mp hm₁
      exact absurd heq.symm (hfresh h0 e₂ hm₂)
    · rw [List.mem_singleton.mp hm₁, List.mem_singleton.mp hm₂]
  socket := by
    intro e' he' hh'
    rw [hr] at he'
    rcases List.mem_append.mp he' with he' | he'
    · rw [hsock]
      exact h.socket e' he' hh'
    · obtain rfl := List.mem_singleton.mp he'
      exact absurd hh' hh

/-- An entry is removed. -/
theorem EntriesGood.without {r r' : Registry} (h : EntriesGood r) {addr : Nat}
    (hr : r'.fdEntries = r.fdEntries.filter (fun e => decide (e.addr ≠ addr)))
    (hsock : r'.canSock = r.canSock) (hnext : r'.next = r.next) : EntriesGood r' where
  unique := by
    rw [hr]
    exact h.unique.filter _
  lt := by
    intro e he
    rw [hr] at he
    rw [hnext]
    exact h.lt e (KeyedList.mem_without.mp he).1
  inj := by
    intro e he e' he'
    rw [hr] at he he'
    exact h.inj e (KeyedList.mem_without.mp he).1 e' (KeyedList.mem_without.mp he').1
  socket := by
    intro e he
    rw [hr] at he
    rw [hsock]
    exact h.socket e (KeyedList.mem_without.mp he).1

/-! ## Tasks come and go -/

theorem Good.withTask_entries {r : Registry} (h : Good r) {fd : Int} (hfresh : fd ∉ r.openFds)
    (it : Itimerspec) (id : Nat) (param : Param) (cb : Callback) (serial : Nat) :
    EntriesGood (Proof.withTask r fd it id param cb serial) :=
  h.entries.append (e := ⟨r.next + 1, fd, .asyncHandler⟩) rfl rfl (Nat.le_succ _)
    (Nat.lt_succ_self _) (fun _ => h.not_mem_openFds hfresh) (by simp)

/-- **`async_add` keeps the invariant.** -/
theorem Good.withTask {r : Registry} (h : Good r) {fd : Int} (hfd : 0 ≤ fd)
    (hfresh : fd ∉ r.openFds) (it : Itimerspec) (id : Nat) (param : Param) (cb : Callback)
    (serial : Nat) : Good (withTask r fd it id param cb serial) where
  entry_unique := (h.withTask_entries hfresh it id param cb serial).unique
  entry_lt := (h.withTask_entries hfresh it id param cb serial).lt
  fd_inj := (h.withTask_entries hfresh it id param cb serial).inj
  socket := (h.withTask_entries hfresh it id param cb serial).socket
  task_unique := by
    refine h.task_unique.append ?_
    intro t ht heq
    have hlt := h.task_lt t ht
    simp only at heq
    omega
  task_lt := by
    intro t ht
    rcases List.mem_append.mp ht with ht | ht
    · have hlt := h.task_lt t ht
      show t.addr < r.next + 2
      omega
    · obtain rfl := List.mem_singleton.mp ht
      show r.next < r.next + 2
      omega
  timer := by
    intro t ht
    rcases List.mem_append.mp ht with ht | ht
    · obtain ⟨e, he, hrest⟩ := h.timer t ht
      exact ⟨e, List.mem_append_left _ he, hrest⟩
    · obtain rfl := List.mem_singleton.mp ht
      exact ⟨_, List.mem_append_right _ (List.mem_singleton.mpr rfl), rfl, rfl, hfd⟩
  timer_inj := by
    -- the timers there are have addresses below the new one
    have hold : ∀ t ∈ r.head, t.timer < r.next := by
      intro t ht
      obtain ⟨e, he, haddr, _⟩ := h.timer t ht
      rw [← haddr]
      exact h.entry_lt e he
    intro t ht t' ht' heq
    rcases List.mem_append.mp ht with ht | ht <;> rcases List.mem_append.mp ht' with ht' | ht'
    · exact h.timer_inj t ht t' ht' heq
    · obtain rfl := List.mem_singleton.mp ht'
      have hlt := hold t ht
      simp only at heq
      omega
    · obtain rfl := List.mem_singleton.mp ht
      have hlt := hold t' ht'
      simp only at heq
      omega
    · rw [List.mem_singleton.mp ht, List.mem_singleton.mp ht']
  owner := by
    intro e he hh
    rcases List.mem_append.mp he with he | he
    · obtain ⟨t, ht, heq⟩ := h.owner e he hh
      exact ⟨t, List.mem_append_left _ ht, heq⟩
    · obtain rfl := List.mem_singleton.mp he
      exact ⟨_, List.mem_append_right _ (List.mem_singleton.mpr rfl), rfl⟩
  node := by
    intro i hi h0
    obtain ⟨e, he, hrest⟩ := h.node i hi h0
    exact ⟨e, List.mem_append_left _ he, hrest⟩
  node_inj := h.node_inj
  node_owner := by
    intro e he hh h0
    rcases List.mem_append.mp he with he | he
    · exact h.node_owner e he hh h0
    · obtain rfl := List.mem_singleton.mp he
      cases hh

/-- **`async_remove_entry` keeps the invariant.** -/
theorem Good.withoutTask {r : Registry} (h : Good r) {t : TaskEntry} {e : FdEntry}
    (ht : r.taskAt t.addr = some t) (he : r.fdEntryAt t.timer = some e) :
    Good (withoutTask r t e) := by
  obtain ⟨htm, _⟩ := taskAt_mem ht
  obtain ⟨hem, haddr⟩ := fdEntryAt_mem he
  -- the entry that goes is the timer of the task that goes
  have hasync : e.handler = .asyncHandler := by
    obtain ⟨e₁, he₁, ha₁, hh₁, _⟩ := h.timer t htm
    rw [h.entry_unique.eq hem he₁ (haddr.trans ha₁.symm)]
    exact hh₁
  have hentries : EntriesGood (Proof.withoutTask r t e) := h.entries.without rfl rfl rfl
  exact
    { entry_unique := hentries.unique
      entry_lt := hentries.lt
      fd_inj := hentries.inj
      socket := hentries.socket
      task_unique := h.task_unique.filter _
      task_lt := fun t₁ ht₁ => h.task_lt t₁ (KeyedList.mem_without.mp ht₁).1
      timer := by
        intro t₁ ht₁
        obtain ⟨hm₁, hne⟩ := KeyedList.mem_without.mp ht₁
        obtain ⟨e₁, he₁, ha₁, hrest⟩ := h.timer t₁ hm₁
        refine ⟨e₁, KeyedList.mem_without.mpr ⟨he₁, fun heq => hne ?_⟩, ha₁, hrest⟩
        -- another task has another timer, so its timer stays
        rw [h.timer_inj t₁ hm₁ t htm (by rw [← ha₁, heq, haddr])]
      timer_inj := fun t₁ ht₁ t₂ ht₂ =>
        h.timer_inj t₁ (KeyedList.mem_without.mp ht₁).1 t₂ (KeyedList.mem_without.mp ht₂).1
      owner := by
        intro e₁ he₁ hh
        obtain ⟨hm₁, hne⟩ := KeyedList.mem_without.mp he₁
        obtain ⟨t₁, ht₁, heq⟩ := h.owner e₁ hm₁ hh
        refine ⟨t₁, KeyedList.mem_without.mpr ⟨ht₁, fun ha => hne ?_⟩, heq⟩
        rw [← heq, h.task_unique.eq ht₁ htm ha, haddr]
      node := by
        intro i hi h0
        obtain ⟨e₁, he₁, hfd, hh⟩ := h.node i hi h0
        refine ⟨e₁, KeyedList.mem_without.mpr ⟨he₁, fun ha => ?_⟩, hfd, hh⟩
        -- a node timer is not the timer of a task
        rw [h.entry_unique.eq he₁ hem ha, hasync] at hh
        cases hh
      node_inj := h.node_inj
      node_owner := fun e₁ he₁ => h.node_owner e₁ (KeyedList.mem_without.mp he₁).1 }

/-! ## Node timers come and go -/

/-- A node timer gone. -/
def withoutNodeTimer (r : Registry) (e : FdEntry) (i : Nat) : Registry :=
  { withoutEntry r e with timers := Function.update r.timers i (-1) }

/-- A node timer made; without a descriptor it is an entry that never fires. -/
def withNodeTimer (r : Registry) (fd : Int) (i : Nat) : Registry :=
  { r with
    timers := Function.update r.timers i fd
    fdEntries := r.fdEntries ++ [⟨r.next, fd, .heartbeatTimeoutHandler⟩]
    next := r.next + 1 }

theorem Good.withoutNodeTimer_entries {r : Registry} (h : Good r) (e : FdEntry) (i : Nat) :
    EntriesGood (Proof.withoutNodeTimer r e i) := h.entries.without rfl rfl rfl

/-- **Closing the timer of a node keeps the invariant.** -/
theorem Good.withoutNodeTimer {r : Registry} (h : Good r) {e : FdEntry} {i : Nat}
    (he : e ∈ r.fdEntries) (hh : e.handler = .heartbeatTimeoutHandler)
    (hi : i ≤ CANARD_NODE_ID_MAX) (hfd : r.timers i = e.fd) : Good (withoutNodeTimer r e i) where
  entry_unique := (h.withoutNodeTimer_entries e i).unique
  entry_lt := (h.withoutNodeTimer_entries e i).lt
  fd_inj := (h.withoutNodeTimer_entries e i).inj
  socket := (h.withoutNodeTimer_entries e i).socket
  task_unique := h.task_unique
  task_lt := h.task_lt
  timer := by
    intro t ht
    obtain ⟨e₁, he₁, ha₁, hh₁, hfd₁⟩ := h.timer t ht
    refine ⟨e₁, KeyedList.mem_without.mpr ⟨he₁, fun ha => ?_⟩, ha₁, hh₁, hfd₁⟩
    rw [h.entry_unique.eq he₁ he ha, hh] at hh₁
    cases hh₁
  timer_inj := h.timer_inj
  owner := fun e₁ he₁ => h.owner e₁ (KeyedList.mem_without.mp he₁).1
  node := by
    intro j hj hj0
    by_cases hji : j = i
    · subst hji
      simp [Proof.withoutNodeTimer, Function.update_self] at hj0
    · have htj : (Proof.withoutNodeTimer r e i).timers j = r.timers j := Function.update_of_ne hji _ _
      rw [htj] at hj0 ⊢
      obtain ⟨e₁, he₁, hfd₁, hh₁⟩ := h.node j hj hj0
      refine ⟨e₁, KeyedList.mem_without.mpr ⟨he₁, fun ha => hji ?_⟩, hfd₁, hh₁⟩
      refine h.node_inj j i hj hi hj0 ?_
      rw [hfd, ← h.entry_unique.eq he₁ he ha, hfd₁]
  node_inj := by
    intro j k hj hk hj0 heq
    -- a node that still has a timer is not the one that lost it
    have hne : ∀ j, 0 ≤ (Proof.withoutNodeTimer r e i).timers j → j ≠ i := by
      intro j hj0 hji
      subst hji
      simp [Proof.withoutNodeTimer, Function.update_self] at hj0
    have hji := hne j hj0
    have hki := hne k (heq ▸ hj0)
    have htj : (Proof.withoutNodeTimer r e i).timers j = r.timers j := Function.update_of_ne hji _ _
    have htk : (Proof.withoutNodeTimer r e i).timers k = r.timers k := Function.update_of_ne hki _ _
    rw [htj] at hj0 heq
    rw [htk] at heq
    exact h.node_inj j k hj hk hj0 heq
  node_owner := by
    intro e₁ he₁ hh₁ hfd₁
    obtain ⟨hm₁, hne⟩ := KeyedList.mem_without.mp he₁
    obtain ⟨j, hj, hfdj⟩ := h.node_owner e₁ hm₁ hh₁ hfd₁
    refine ⟨j, hj, ?_⟩
    have hji : j ≠ i := by
      intro hji
      subst hji
      refine hne ?_
      rw [h.fd_inj e₁ hm₁ e he hfd₁ (by rw [← hfdj, hfd])]
    exact (Function.update_of_ne hji _ _).trans hfdj

theorem Good.withNodeTimer_entries {r : Registry} (h : Good r) {fd : Int} (i : Nat)
    (hfresh : 0 ≤ fd → fd ∉ r.openFds) : EntriesGood (Proof.withNodeTimer r fd i) :=
  h.entries.append (e := ⟨r.next, fd, .heartbeatTimeoutHandler⟩) rfl rfl (Nat.le_refl _)
    (Nat.lt_succ_self _) (fun h0 => h.not_mem_openFds (hfresh h0)) (by simp)

/-- **Making a timer for a node that has none keeps the invariant.** -/
theorem Good.withNodeTimer {r : Registry} (h : Good r) {fd : Int} {i : Nat}
    (hi : i ≤ CANARD_NODE_ID_MAX) (hnone : r.timers i < 0)
    (hfresh : 0 ≤ fd → fd ∉ r.openFds) : Good (withNodeTimer r fd i) where
  entry_unique := (h.withNodeTimer_entries i hfresh).unique
  entry_lt := (h.withNodeTimer_entries i hfresh).lt
  fd_inj := (h.withNodeTimer_entries i hfresh).inj
  socket := (h.withNodeTimer_entries i hfresh).socket
  task_unique := h.task_unique
  task_lt := fun t ht => Nat.lt_succ_of_lt (h.task_lt t ht)
  timer := by
    intro t ht
    obtain ⟨e, he, hrest⟩ := h.timer t ht
    exact ⟨e, List.mem_append_left _ he, hrest⟩
  timer_inj := h.timer_inj
  owner := by
    intro e he hh
    rcases List.mem_append.mp he with he | he
    · exact h.owner e he hh
    · obtain rfl := List.mem_singleton.mp he
      cases hh
  node := by
    intro j hj hj0
    by_cases hji : j = i
    · subst hji
      refine ⟨_, List.mem_append_right _ (List.mem_singleton.mpr rfl), ?_, rfl⟩
      show fd = Function.update r.timers j fd j
      rw [Function.update_self]
    · have htj : (Proof.withNodeTimer r fd i).timers j = r.timers j := Function.update_of_ne hji _ _
      rw [htj] at hj0 ⊢
      obtain ⟨e, he, hrest⟩ := h.node j hj hj0
      exact ⟨e, List.mem_append_left _ he, hrest⟩
  node_inj := by
    have hself : (Proof.withNodeTimer r fd i).timers i = fd := Function.update_self _ _ _
    -- the new descriptor is nobody else's
    have hother : ∀ j, j ≤ CANARD_NODE_ID_MAX → j ≠ i → 0 ≤ fd →
        (Proof.withNodeTimer r fd i).timers j ≠ fd := by
      intro j hj hji hfd heq
      have htj : (Proof.withNodeTimer r fd i).timers j = r.timers j := Function.update_of_ne hji _ _
      rw [htj] at heq
      obtain ⟨e, he, hfde, _⟩ := h.node j hj (heq ▸ hfd)
      exact h.not_mem_openFds (hfresh hfd) e he (hfde.trans heq)
    intro j k hj hk hj0 heq
    by_cases hji : j = i
    · by_cases hki : k = i
      · rw [hji, hki]
      · subst hji
        rw [hself] at hj0 heq
        exact absurd heq.symm (hother k hk hki hj0)
    · by_cases hki : k = i
      · subst hki
        rw [hself] at heq
        exact absurd heq (hother j hj hji (heq ▸ hj0))
      · have htj : (Proof.withNodeTimer r fd i).timers j = r.timers j :=
          Function.update_of_ne hji _ _
        have htk : (Proof.withNodeTimer r fd i).timers k = r.timers k :=
          Function.update_of_ne hki _ _
        rw [htj] at hj0 heq
        rw [htk] at heq
        exact h.node_inj j k hj hk hj0 heq
  node_owner := by
    intro e he hh h0
    rcases List.mem_append.mp he with he | he
    · obtain ⟨j, hj, hfdj⟩ := h.node_owner e he hh h0
      -- node `i` had no timer, so the owner of an old one is another node
      have hji : j ≠ i := by
        intro hji
        subst hji
        rw [← hfdj] at h0
        omega
      exact ⟨j, hj, (Function.update_of_ne hji _ _).trans hfdj⟩
    · obtain rfl := List.mem_singleton.mp he
      exact ⟨i, hi, Function.update_self _ _ _⟩

/-- The invariant does not look at the statuses and the kernel's timers. -/
theorem Good.congr {r r' : Registry} (h : Good r) (he : r'.fdEntries = r.fdEntries)
    (hc : r'.canSock = r.canSock) (hh : r'.head = r.head) (ht : r'.timers = r.timers)
    (hn : r'.next = r.next) : Good r' := by
  obtain ⟨epollfd, canSock, fdEntries, head, nodes, timers, itimers, next⟩ := r'
  subst he hc hh ht hn
  exact ⟨h.entry_unique, h.entry_lt, h.fd_inj, h.socket, h.task_unique, h.task_lt, h.timer, h.timer_inj,
    h.owner, h.node, h.node_inj, h.node_owner⟩

/-! ## The two heartbeat handlers -/

theorem stopNodeTimer_cases {r r' : Registry} {i : Nat} (h : r.stopNodeTimer i = .ok r') :
    (¬ ((r.nodes i).mode = WLMIO_MODE_OFFLINE ∧ 0 ≤ r.timers i) ∧ r' = r) ∨
      ((r.nodes i).mode = WLMIO_MODE_OFFLINE ∧ 0 ≤ r.timers i ∧
        ∃ e₁ e, r.fdEntryFind (r.timers i) = some e₁ ∧ r.fdEntryAt e₁.addr = some e ∧
          r' = withoutNodeTimer r e i) := by
  unfold Registry.stopNodeTimer at h
  split at h
  · rename_i hc
    split at h
    · cases h
    · rename_i e₁ hfind
      obtain ⟨r₁, hclose, h⟩ := Fallible.bind_eq_ok.mp h
      obtain ⟨e, he, rfl⟩ := fdEntryClose_cases hclose
      exact .inr ⟨hc.1, hc.2, e₁, e, hfind, he, (Except.ok.inj h).symm⟩
  · rename_i hc
    exact .inl ⟨hc, (Except.ok.inj h).symm⟩

theorem createNodeTimer_cases {r r' : Registry} {i : Nat} {pick : Int} {malloc : Bool}
    (h : r.createNodeTimer i pick malloc = .ok r') :
    (¬ ((r.nodes i).mode ≠ WLMIO_MODE_OFFLINE ∧ r.timers i < 0) ∧ r' = r) ∨
      ((r.nodes i).mode ≠ WLMIO_MODE_OFFLINE ∧ r.timers i < 0 ∧
        r' = withNodeTimer r (r.newFd pick) i) := by
  unfold Registry.createNodeTimer at h
  split at h
  · rename_i hc
    obtain ⟨⟨r₁, a⟩, hadd, h⟩ := Fallible.bind_eq_ok.mp h
    unfold Registry.fdEntryAdd at hadd
    split at hadd
    · obtain ⟨rfl, rfl⟩ := Prod.mk.inj (Except.ok.inj hadd)
      exact .inr ⟨hc.1, hc.2, (Except.ok.inj h).symm⟩
    · cases hadd
  · rename_i hc
    exact .inl ⟨hc, (Except.ok.inj h).symm⟩

/-- A heartbeat is ignored, or it sets the status and then edits the timer in three steps. -/
theorem heartbeat_cases {r r' : Registry} {node : Nat} {payload : List Byte} {pick : Int}
    {malloc : Bool} {old : Option WlmioStatus}
    (h : r.heartbeatHandler node payload pick malloc = .ok (r', old)) :
    (r' = r ∧ old = none ∧ (payload.length = 0 ∨ node = CANARD_NODE_ID_UNSET)) ∨
      ∃ status r₁ r₂, node ≤ CANARD_NODE_ID_MAX ∧ Registry.heartbeatStatus payload = some status ∧
        (r.setNode node status).stopNodeTimer node = .ok r₁ ∧
        r₁.createNodeTimer node pick malloc = .ok r₂ ∧ r' = r₂.resetNodeTimer node ∧
        old = some (r.nodes node) ∧ payload.length ≠ 0 := by
  unfold Registry.heartbeatHandler at h
  split at h
  · rename_i hskip
    obtain ⟨rfl, rfl⟩ := Prod.mk.inj (Except.ok.inj h)
    exact .inl ⟨rfl, rfl, hskip⟩
  rename_i hskip
  split at h
  · cases h
  rename_i hnode
  split at h
  · cases h
  · rename_i status hstatus
    obtain ⟨r₁, h₁, h⟩ := Fallible.bind_eq_ok.mp h
    obtain ⟨r₂, h₂, h⟩ := Fallible.bind_eq_ok.mp h
    obtain ⟨rfl, rfl⟩ := Prod.mk.inj (Except.ok.inj h)
    exact .inr ⟨status, r₁, r₂, Classical.not_not.mp hnode, hstatus, h₁, h₂, rfl, rfl,
      fun h0 => hskip (.inl h0)⟩

theorem Good.setNode {r : Registry} (h : Good r) (i : Nat) (status : WlmioStatus) :
    Good (r.setNode i status) := h.congr rfl rfl rfl rfl rfl

/-- The entry that is closed is the one the search by descriptor found. -/
theorem Good.find_node {r : Registry} (h : Good r) {i : Nat} (hi : i ≤ CANARD_NODE_ID_MAX)
    (h0 : 0 ≤ r.timers i) : ∃ e ∈ r.fdEntries, e.fd = r.timers i ∧
      e.handler = .heartbeatTimeoutHandler ∧ r.fdEntryFind (r.timers i) = some e ∧
      r.fdEntryAt e.addr = some e := by
  obtain ⟨e, he, hfd, hh⟩ := h.node i hi h0
  exact ⟨e, he, hfd, hh, hfd ▸ h.fdEntryFind he (hfd ▸ h0), h.fdEntryAt he⟩

theorem Good.stopNodeTimer {r r' : Registry} (h : Good r) {i : Nat} (hi : i ≤ CANARD_NODE_ID_MAX)
    (hs : r.stopNodeTimer i = .ok r') : Good r' := by
  rcases stopNodeTimer_cases hs with ⟨_, rfl⟩ | ⟨_, h0, e₁, e, hfind, hat, rfl⟩
  · exact h
  · obtain ⟨e₂, he₂, hfd, hh, hfind₂, hat₂⟩ := h.find_node hi h0
    obtain rfl := Option.some.inj (hfind.symm.trans hfind₂)
    obtain rfl := Option.some.inj (hat.symm.trans hat₂)
    exact h.withoutNodeTimer he₂ hh hi hfd.symm

theorem fdEntryClose_ok {r : Registry} {addr : Nat} {e : FdEntry} (h : r.fdEntryAt addr = some e) :
    ∃ r', r.fdEntryClose addr = .ok r' := by
  unfold Registry.fdEntryClose
  rw [h]
  exact ⟨_, rfl⟩

/-- The entry of a timer that is to be stopped is there. -/
theorem Good.stopNodeTimer_ok {r : Registry} (h : Good r) {i : Nat} (hi : i ≤ CANARD_NODE_ID_MAX) :
    ∃ r', r.stopNodeTimer i = .ok r' := by
  unfold Registry.stopNodeTimer
  split
  · rename_i hc
    obtain ⟨e, _, _, _, hfind, hat⟩ := h.find_node hi hc.2
    rw [hfind]
    obtain ⟨r', hr'⟩ := fdEntryClose_ok hat
    dsimp only
    rw [hr']
    exact ⟨_, rfl⟩
  · exact ⟨_, rfl⟩

theorem Good.createNodeTimer {r r' : Registry} (h : Good r) {i : Nat}
    (hi : i ≤ CANARD_NODE_ID_MAX) {pick : Int} {malloc : Bool}
    (hc : r.createNodeTimer i pick malloc = .ok r') : Good r' := by
  rcases createNodeTimer_cases hc with ⟨_, rfl⟩ | ⟨_, hlt, rfl⟩
  · exact h
  · exact h.withNodeTimer hi hlt newFd_fresh

/-- Setting a timer again changes nothing but the kernel's timers. -/
theorem resetNodeTimer_eq (r : Registry) (i : Nat) :
    ∃ itimers, r.resetNodeTimer i = { r with itimers := itimers } := by
  unfold Registry.resetNodeTimer
  split
  · exact ⟨_, rfl⟩
  · exact ⟨r.itimers, rfl⟩

theorem Good.resetNodeTimer {r : Registry} (h : Good r) (i : Nat) : Good (r.resetNodeTimer i) := by
  obtain ⟨_, heq⟩ := resetNodeTimer_eq r i
  rw [heq]
  exact h.congr rfl rfl rfl rfl rfl

theorem Good.heartbeat {r r' : Registry} (h : Good r) {node : Nat} {payload : List Byte}
    {pick : Int} {malloc : Bool} {old : Option WlmioStatus}
    (hb : r.heartbeatHandler node payload pick malloc = .ok (r', old)) : Good r' := by
  rcases heartbeat_cases hb with ⟨rfl, _⟩ | ⟨status, r₁, r₂, hn, _, h₁, h₂, rfl, _⟩
  · exact h
  · exact (((h.setNode node status).stopNodeTimer hn h₁).createNodeTimer hn h₂).resetNodeTimer node

theorem nodeOfTimer_cases {r : Registry} {fd : Int} {i : Nat} (h : r.nodeOfTimer fd = some i) :
    i < CANARD_NODE_ID_MAX ∧ r.timers i = fd :=
  ⟨List.mem_range.mp (List.mem_of_find?_eq_some h), by simpa using List.find?_some h⟩

/-- An expiry whose node is found clears that node. -/
theorem timeout_cases {r r' : Registry} {e : FdEntry} {node : Nat} {old : WlmioStatus}
    (h : r.heartbeatTimeoutHandler e = .ok (r', node, old)) :
    r.nodeOfTimer e.fd = some node ∧ old = r.nodes node ∧ ∃ e₁, r.fdEntryAt e.addr = some e₁ ∧
      r' = (withoutNodeTimer r e₁ node).setNode node .offline := by
  unfold Registry.heartbeatTimeoutHandler at h
  split at h
  · cases h
  · rename_i i hi
    obtain ⟨r₁, hclose, h⟩ := Fallible.bind_eq_ok.mp h
    obtain ⟨e₁, he₁, rfl⟩ := fdEntryClose_cases hclose
    obtain ⟨rfl, rfl, rfl⟩ := h
    exact ⟨hi, rfl, e₁, he₁, rfl⟩

theorem Good.timeout {r r' : Registry} (h : Good r) {e : FdEntry} {node : Nat}
    {old : WlmioStatus} (he : r.fdEntryAt e.addr = some e)
    (hh : e.handler = .heartbeatTimeoutHandler)
    (hx : r.heartbeatTimeoutHandler e = .ok (r', node, old)) : Good r' := by
  obtain ⟨hnode, _, e₁, he₁, rfl⟩ := timeout_cases hx
  obtain rfl := Option.some.inj (he₁.symm.trans he)
  obtain ⟨hlt, hfd⟩ := nodeOfTimer_cases hnode
  exact (h.withoutNodeTimer (fdEntryAt_mem he).1 hh (by omega) hfd).setNode node _

/-! ## What the heartbeat handlers leave alone -/

/-- A change of node timers: the tasks stay, and every entry is an old one or has a new address. -/
structure NodeEdit (r r' : Registry) : Prop where
  epollfd : r'.epollfd = r.epollfd
  head : r'.head = r.head
  next : r.next ≤ r'.next
  entries : ∀ e ∈ r'.fdEntries, e ∈ r.fdEntries ∨ r.next ≤ e.addr

theorem NodeEdit.refl (r : Registry) : NodeEdit r r :=
  ⟨rfl, rfl, Nat.le_refl _, fun _ he => .inl he⟩

theorem NodeEdit.trans {r₁ r₂ r₃ : Registry} (h : NodeEdit r₁ r₂) (h' : NodeEdit r₂ r₃) :
    NodeEdit r₁ r₃ := by
  refine ⟨h'.epollfd.trans h.epollfd, h'.head.trans h.head, Nat.le_trans h.next h'.next, ?_⟩
  intro e he
  rcases h'.entries e he with he | he
  · exact h.entries e he
  · exact .inr (Nat.le_trans h.next he)

theorem NodeEdit.withoutNodeTimer (r : Registry) (e : FdEntry) (i : Nat) :
    NodeEdit r (withoutNodeTimer r e i) :=
  ⟨rfl, rfl, Nat.le_refl _, fun _ he => .inl (KeyedList.mem_without.mp he).1⟩

theorem NodeEdit.withNodeTimer (r : Registry) (fd : Int) (i : Nat) :
    NodeEdit r (withNodeTimer r fd i) := by
  refine ⟨rfl, rfl, Nat.le_succ _, ?_⟩
  intro e he
  rcases List.mem_append.mp he with he | he
  · exact .inl he
  · obtain rfl := List.mem_singleton.mp he
    exact .inr (Nat.le_refl _)

theorem heartbeat_edit {r r' : Registry} {node : Nat} {payload : List Byte} {pick : Int}
    {malloc : Bool} {old : Option WlmioStatus}
    (h : r.heartbeatHandler node payload pick malloc = .ok (r', old)) : NodeEdit r r' := by
  rcases heartbeat_cases h with ⟨rfl, _⟩ | ⟨status, r₁, r₂, _, _, h₁, h₂, rfl, _⟩
  · exact .refl r'
  have hset : NodeEdit r (r.setNode node status) := ⟨rfl, rfl, Nat.le_refl _, fun _ he => .inl he⟩
  have hstop : NodeEdit (r.setNode node status) r₁ := by
    rcases stopNodeTimer_cases h₁ with ⟨_, rfl⟩ | ⟨_, _, e₁, e, _, _, rfl⟩
    · exact .refl _
    · exact .withoutNodeTimer _ e node
  have hcreate : NodeEdit r₁ r₂ := by
    rcases createNodeTimer_cases h₂ with ⟨_, rfl⟩ | ⟨_, _, rfl⟩
    · exact .refl _
    · exact .withNodeTimer r₁ _ node
  have hreset : NodeEdit r₂ (r₂.resetNodeTimer node) := by
    obtain ⟨_, heq⟩ := resetNodeTimer_eq r₂ node
    rw [heq]
    exact ⟨rfl, rfl, Nat.le_refl _, fun _ he => .inl he⟩
  exact ((hset.trans hstop).trans hcreate).trans hreset

theorem timeout_edit {r r' : Registry} {e : FdEntry} {node : Nat} {old : WlmioStatus}
    (h : r.heartbeatTimeoutHandler e = .ok (r', node, old)) : NodeEdit r r' := by
  obtain ⟨_, _, e₁, _, rfl⟩ := timeout_cases h
  exact (NodeEdit.withoutNodeTimer r e₁ node).trans
    ⟨rfl, rfl, Nat.le_refl _, fun _ he => .inl he⟩

/-! ## Every reachable state -/

variable {ok : Registry → Int → Prop}

theorem good_effect {s s' : Registry × Bus} (h : Good s.1) (he : Effect ok s s') : Good s'.1 := by
  cases he with
  | registered timeout _ _ hg =>
      exact h.withTask hg.2.1 (newFd_fresh hg.2.1) _ _ _ _ _
  | unregistered _ => exact h
  | removed ht he => exact h.withoutTask ht he
  | beat _ hb => exact h.heartbeat hb
  | expired he _ hh hx => exact h.timeout he hh hx
  | sent _ => exact h
  | received _ => exact h

theorem good_fresh {w : World} (h : Fresh w) : Good w.registry := by
  have hhead := h.head
  have hentries := h.entries
  have hnext := h.next
  have hnode : ∀ i, i ≤ CANARD_NODE_ID_MAX → w.registry.timers i = -1 := fun i hi => (h.nodes i hi).2
  constructor
  · rw [hentries]; simp [KeyedList.Unique]
  · rw [hentries, hnext]; simp
  · rw [hentries]
    intro e he e' he' _ _
    rw [List.mem_singleton.mp he, List.mem_singleton.mp he']
  · rw [hentries]
    intro e he _
    rw [List.mem_singleton.mp he]
  · rw [hhead]; exact KeyedList.unique_nil
  · rw [hhead]; simp
  · rw [hhead]; simp
  · rw [hhead]; simp
  · rw [hentries]; simp
  · intro i hi h0
    rw [hnode i hi] at h0
    omega
  · intro i j hi _ h0
    rw [hnode i hi] at h0
    omega
  · rw [hentries]; simp

/-- **The registry invariant holds in every reachable state.** -/
theorem good_reachable {guard : World → Act → Prop} {w : World} (h : ReachableBy guard w) :
    Good w.registry :=
  reachable_core anyFd (P := fun s => Good s.1) (fun _ _ _ _ _ => trivial)
    (fun _ hf => good_fresh hf) (fun _ _ hg he => good_effect hg he) h

end Wlmio.Proof
