import Wlmio.Proof.Completion
import Wlmio.Proof.Pending

/-!
# Completion and re-entrancy

`async_handler` and `async_complete` call back first and unlink the task afterwards. While
the callback runs, its task can be completed once more from a nested event loop, by its
timer or by another response.

`Life` counts what a run does to its tasks: every task that was accepted is either linked
or freed, and every callback belongs to a task that was freed or whose callback has not
returned. In runs that never complete a task whose callback has not returned, these counts
are kept by every act, and so no task is called back or freed twice (`at_most_once`).
-/

namespace Wlmio.Proof

open Wlmio.Client Wlmio.Canard

/-! ## Histories -/

/-- A request that was accepted, with its task and its timer. -/
structure Acceptance where
  serial : Nat
  task : Nat
  timer : Nat
deriving DecidableEq

/-- A call of the callback of a task. -/
structure Invocation where
  task : Nat
  serial : Nat
deriving DecidableEq

def acceptanceOf : Event → Option Acceptance
  | .accepted serial task timer => some ⟨serial, task, timer⟩
  | _ => none

def invocationOf : Event → Option Invocation
  | .invoked task serial _ => some ⟨task, serial⟩
  | _ => none

def freedTaskOf : Event → Option Nat
  | .taskFreed task => some task
  | _ => none

def freedEntryOf : Event → Option Nat
  | .entryFreed entry => some entry
  | _ => none

/-- What a trace says about tasks. -/
structure History where
  accepted : List Acceptance
  invoked : List Invocation
  freedTasks : List Nat
  freedEntries : List Nat

def history (trace : List Event) : History where
  accepted := trace.filterMap acceptanceOf
  invoked := trace.filterMap invocationOf
  freedTasks := trace.filterMap freedTaskOf
  freedEntries := trace.filterMap freedEntryOf

/-- The event says nothing about tasks. -/
def Aside (e : Event) : Prop :=
  acceptanceOf e = none ∧ invocationOf e = none ∧ freedTaskOf e = none ∧ freedEntryOf e = none

theorem history_aside {e : Event} (h : Aside e) (trace : List Event) :
    history (e :: trace) = history trace := by
  obtain ⟨h₁, h₂, h₃, h₄⟩ := h
  unfold history
  rw [List.filterMap_cons_none h₁, List.filterMap_cons_none h₂, List.filterMap_cons_none h₃,
    List.filterMap_cons_none h₄]

theorem Adds.history {w w' : World} (h : Adds Aside w w') : history w'.trace = history w.trace := by
  obtain ⟨new, hnew, haside⟩ := h
  rw [hnew]
  clear hnew
  induction new with
  | nil => rfl
  | cons e new ih =>
      rw [List.cons_append, history_aside (haside e (by simp))]
      exact ih (fun e' he' => haside e' (by simp [he']))

theorem aside_call {e : Event} (h : CallEvent e) : Aside e := by
  cases h <;> exact ⟨rfl, rfl, rfl, rfl⟩

theorem aside_write {param : Param} {e : Event} (h : WriteTo param e) : Aside e := by
  cases h <;> exact ⟨rfl, rfl, rfl, rfl⟩

theorem Released.history {w w' : World} {record : Option Nat} (h : Released w w' record) :
    history w'.trace = history w.trace := by
  refine (h.adds.mono ?_).history
  rintro e ⟨p, rfl⟩
  exact ⟨rfl, rfl, rfl, rfl⟩

/-! ## Lifecycles -/

/-- What has become of the tasks. `opened` are those whose callbacks have not returned, and `n` is
the number of requests. -/
structure Life (opened : List Nat) (r : Registry) (n : Nat) (h : History) : Prop where
  good : Good r
  opened_nodup : opened.Nodup
  opened_linked : ∀ a ∈ opened, ∃ t ∈ r.head, t.addr = a
  /-- Accepted tasks are linked or freed. -/
  tasks : (h.accepted.map Acceptance.task).Perm (r.head.map TaskEntry.addr ++ h.freedTasks)
  /-- And so are their timers. -/
  timers : (h.accepted.map Acceptance.timer).Perm (r.head.map TaskEntry.timer ++ h.freedEntries)
  /-- A callback that was called has not returned, or its task is freed. -/
  invoked : (h.invoked.map Invocation.task).Perm (opened ++ h.freedTasks)
  serial_unique : KeyedList.Unique Acceptance.serial h.accepted
  task_unique : KeyedList.Unique Acceptance.task h.accepted
  timer_unique : KeyedList.Unique Acceptance.timer h.accepted
  accepted_lt : ∀ x ∈ h.accepted, x.serial < n ∧ x.task < r.next ∧ x.timer < r.next
  linked : ∀ t ∈ r.head, ⟨t.serial, t.addr, t.timer⟩ ∈ h.accepted
  called : ∀ x ∈ h.invoked, ∃ timer, ⟨x.serial, x.task, timer⟩ ∈ h.accepted
  /-- The timer of a request is never anything else. -/
  timer_kind : ∀ e ∈ r.fdEntries, ∀ x ∈ h.accepted, e.addr = x.timer → e.handler = .asyncHandler

section

variable {opened : List Nat} {r r' : Registry} {n : Nat} {h : History}

/-- Requests that are sent without a task do not matter. -/
theorem Life.later (hl : Life opened r n h) {n' : Nat} (hn : n ≤ n') : Life opened r n' h :=
  { hl with
    accepted_lt := fun x hx =>
      ⟨Nat.lt_of_lt_of_le (hl.accepted_lt x hx).1 hn, (hl.accepted_lt x hx).2⟩ }

/-- Nor do changes of node timers. -/
theorem Life.edit (hl : Life opened r n h) (hg : Good r') (he : NodeEdit r r') :
    Life opened r' n h where
  good := hg
  opened_nodup := hl.opened_nodup
  opened_linked := by rw [he.head]; exact hl.opened_linked
  tasks := by rw [he.head]; exact hl.tasks
  timers := by rw [he.head]; exact hl.timers
  invoked := hl.invoked
  serial_unique := hl.serial_unique
  task_unique := hl.task_unique
  timer_unique := hl.timer_unique
  accepted_lt := fun x hx => by
    obtain ⟨h₁, h₂, h₃⟩ := hl.accepted_lt x hx
    have hnext := he.next
    exact ⟨h₁, by omega, by omega⟩
  linked := by rw [he.head]; exact hl.linked
  called := hl.called
  timer_kind := by
    intro e hmem x hx heq
    rcases he.entries e hmem with hold | hnew
    · exact hl.timer_kind e hold x hx heq
    · -- a new entry is at an address that no request was given
      have hlt := (hl.accepted_lt x hx).2.2
      omega

/-- **A new task.** -/
theorem Life.accept (hl : Life opened r n h) {fd : Int} (hfd : 0 ≤ fd) (hfresh : fd ∉ r.openFds)
    (it : Itimerspec) (id : Nat) (param : Param) (cb : Callback) :
    Life opened (withTask r fd it id param cb n) (n + 1)
      { h with accepted := ⟨n, r.next, r.next + 1⟩ :: h.accepted } where
  good := hl.good.withTask hfd hfresh it id param cb n
  opened_nodup := hl.opened_nodup
  opened_linked := by
    intro a ha
    obtain ⟨t, ht, haddr⟩ := hl.opened_linked a ha
    exact ⟨t, List.mem_append_left _ ht, haddr⟩
  tasks := by
    show (r.next :: h.accepted.map Acceptance.task).Perm
      ((r.head ++ [_]).map TaskEntry.addr ++ h.freedTasks)
    rw [List.map_append, List.append_assoc]
    exact (hl.tasks.cons r.next).trans List.perm_middle.symm
  timers := by
    show ((r.next + 1) :: h.accepted.map Acceptance.timer).Perm
      ((r.head ++ [_]).map TaskEntry.timer ++ h.freedEntries)
    rw [List.map_append, List.append_assoc]
    exact (hl.timers.cons (r.next + 1)).trans List.perm_middle.symm
  invoked := hl.invoked
  serial_unique := hl.serial_unique.cons (fun x hx => Nat.ne_of_lt (hl.accepted_lt x hx).1)
  task_unique := hl.task_unique.cons (fun x hx => Nat.ne_of_lt (hl.accepted_lt x hx).2.1)
  timer_unique := hl.timer_unique.cons
    (fun x hx => Nat.ne_of_lt (Nat.lt_succ_of_lt (hl.accepted_lt x hx).2.2))
  accepted_lt := by
    intro x hx
    show x.serial < n + 1 ∧ x.task < r.next + 2 ∧ x.timer < r.next + 2
    rcases List.mem_cons.mp hx with rfl | hx
    · exact ⟨Nat.lt_succ_self n, by dsimp only; omega, by dsimp only; omega⟩
    · obtain ⟨h₁, h₂, h₃⟩ := hl.accepted_lt x hx
      exact ⟨by omega, by omega, by omega⟩
  linked := by
    intro t ht
    rcases List.mem_append.mp ht with ht | ht
    · exact List.mem_cons_of_mem _ (hl.linked t ht)
    · obtain rfl := List.mem_singleton.mp ht
      exact List.mem_cons_self
  called := by
    intro x hx
    obtain ⟨timer, htimer⟩ := hl.called x hx
    exact ⟨timer, List.mem_cons_of_mem _ htimer⟩
  timer_kind := by
    intro e he x hx heq
    -- an old entry is not at the address of the new timer
    rcases List.mem_append.mp he with he | he
    · have hlt := hl.good.entry_lt e he
      rcases List.mem_cons.mp hx with rfl | hx
      · dsimp only at heq
        omega
      · exact hl.timer_kind e he x hx heq
    · obtain rfl := List.mem_singleton.mp he
      rfl

/-- **A callback is called**, which was not being called already. -/
theorem Life.invoke (hl : Life opened r n h) {t : TaskEntry} (ht : t ∈ r.head)
    (hnew : t.addr ∉ opened) :
    Life (t.addr :: opened) r n { h with invoked := ⟨t.addr, t.serial⟩ :: h.invoked } where
  good := hl.good
  opened_nodup := List.nodup_cons.mpr ⟨hnew, hl.opened_nodup⟩
  opened_linked := by
    intro a ha
    rcases List.mem_cons.mp ha with rfl | ha
    · exact ⟨t, ht, rfl⟩
    · exact hl.opened_linked a ha
  tasks := hl.tasks
  timers := hl.timers
  invoked := hl.invoked.cons t.addr
  serial_unique := hl.serial_unique
  task_unique := hl.task_unique
  timer_unique := hl.timer_unique
  accepted_lt := hl.accepted_lt
  linked := hl.linked
  called := by
    intro x hx
    rcases List.mem_cons.mp hx with rfl | hx
    · exact ⟨t.timer, hl.linked t ht⟩
    · exact hl.called x hx
  timer_kind := hl.timer_kind

/-- **A task whose callback has returned is freed**, and so is its timer. -/
theorem Life.finish {t : TaskEntry} {e : FdEntry} (hl : Life (t.addr :: opened) r n h)
    (ht : r.taskAt t.addr = some t) (he : r.fdEntryAt t.timer = some e) :
    Life opened (withoutTask r t e) n
      { h with freedTasks := t.addr :: h.freedTasks, freedEntries := t.timer :: h.freedEntries } := by
  obtain ⟨htm, _⟩ := taskAt_mem ht
  obtain ⟨hnew, hnodup⟩ := List.nodup_cons.mp hl.opened_nodup
  have hperm := hl.good.task_unique.perm_without htm
  exact
    { good := hl.good.withoutTask ht he
      opened_nodup := hnodup
      opened_linked := by
        intro a ha
        obtain ⟨u, hu, rfl⟩ := hl.opened_linked a (List.mem_cons_of_mem _ ha)
        exact ⟨u, KeyedList.mem_without.mpr ⟨hu, fun heq => hnew (heq ▸ ha)⟩, rfl⟩
      tasks := hl.tasks.trans
        (((hperm.map TaskEntry.addr).append_right h.freedTasks).trans List.perm_middle.symm)
      timers := hl.timers.trans
        (((hperm.map TaskEntry.timer).append_right h.freedEntries).trans List.perm_middle.symm)
      invoked := hl.invoked.trans List.perm_middle.symm
      serial_unique := hl.serial_unique
      task_unique := hl.task_unique
      timer_unique := hl.timer_unique
      accepted_lt := hl.accepted_lt
      linked := fun u hu => hl.linked u (KeyedList.mem_without.mp hu).1
      called := hl.called
      timer_kind := fun e₁ he₁ => hl.timer_kind e₁ (KeyedList.mem_without.mp he₁).1 }

end

/-! ## Acts -/

/-- The lifecycles in a state of the machine. -/
def Living (opened : List Nat) (w : World) : Prop :=
  Life opened w.registry w.bus.issued.length (history w.trace)

theorem Living.congr {opened : List Nat} {w w' : World} (h : Living opened w)
    (hr : w'.registry = w.registry) (hb : w'.bus.issued = w.bus.issued)
    (ht : history w'.trace = history w.trace) : Living opened w' := by
  unfold Living
  rw [hr, hb, ht]
  exact h

section

variable {opened : List Nat} {w w' : World}

theorem submit_living {service : Service} {nodeId : Nat} {payload : List Byte} {param : Param}
    {callback : Option Callback} {os : Os} (h : Living opened w)
    (hs : submit w service nodeId payload param callback os = .ok w') : Living opened w' := by
  have hissued := busAfter_issued w service nodeId payload os
  obtain ⟨cb, _, ⟨hg, rfl⟩ | ⟨_, rfl⟩⟩ := submit_cases hs
  · have hlife := Life.accept h hg.2.1 (newFd_fresh hg.2.1) (Registry.timeoutSpec w.timeout)
      (makeRspSpecifier (requestTransfer w.bus service nodeId payload)) param cb
    rw [← hissued] at hlife
    exact hlife
  · exact Life.later h (by dsimp only; omega)

theorem made_living {c : Option Caller} {r : Int} (h : Living opened w) (hm : Made w c w' r) :
    Living opened w' := by
  cases hm with
  | refused _ => exact h
  | withdrawn t _ hfree =>
      rw [(freeRecord_cases hfree).2]
      exact h.congr rfl rfl (history_aside ⟨rfl, rfl, rfl, rfl⟩ _)
  | direct _ _ _ _ _ hs => exact submit_living h hs
  | held _ _ _ _ _ hs => exact submit_living (w := addRecord w _) h hs
  | counted _ _ _ _ _ h₁ h₂ h₃ =>
      exact submit_living (submit_living (submit_living (w := addRecord w _) h h₁) h₂) h₃

/-- When a callback has returned, its task goes. -/
theorem finishCompletion_living {task : Nat} {record : Option Nat}
    (h : Living (task :: opened) w) (hf : finishCompletion w task record = .ok w') :
    Living opened w' := by
  obtain ⟨w₁, hrel, ⟨hnil, _⟩ | ⟨t, e, ht, he, rfl⟩⟩ := finishCompletion_cases hf
  · obtain ⟨t, ht, _⟩ := h.opened_linked task List.mem_cons_self
    rw [hnil] at ht
    simp at ht
  · obtain ⟨_, rfl⟩ := taskAt_mem ht
    have hlife := Life.finish h ht he
    rw [← hrel.history] at hlife
    have hbus := hrel.core.2
    unfold Living
    dsimp only
    rw [hbus]
    exact hlife

/-- A completion calls the callback; then the application runs, or the task goes. -/
theorem complete_living {t : TaskEntry} {r : Int} {rest : Option Rest} (h : Living opened w)
    (ht : t ∈ w.registry.head) (hnew : t.addr ∉ opened) (hc : complete w t r = .ok (w', rest)) :
    (rest = none ∧ Living opened w') ∨
      ∃ record, rest = some (.completion t.addr record) ∧ Living (t.addr :: opened) w' := by
  obtain ⟨w₁, user, record, hcall, hrest⟩ := complete_cases hc
  have hcalled : Living (t.addr :: opened) (w.log (.invoked t.addr t.serial r)) :=
    Life.invoke h ht hnew
  have h₁ : Living (t.addr :: opened) w₁ := by
    refine hcalled.congr hcall.frame.registry ?_ (hcall.adds.mono (fun _ => aside_call)).history
    rw [hcall.frame.bus]
  rcases hrest with ⟨_, rfl, rfl⟩ | ⟨_, rfl, hfin⟩
  · exact .inr ⟨record, rfl, h₁⟩
  · exact .inl ⟨rfl, finishCompletion_living h₁ hfin⟩

theorem responded_living {tfr : CanardTransfer} {rest : Option Rest} (h : Living opened w)
    (hnew : ∀ t, w.registry.taskWithId (makeRspSpecifier tfr) = some t → t.addr ∉ opened)
    (hr : Responded w tfr w' rest) :
    (rest = none ∧ Living opened w') ∨
      ∃ task record, rest = some (.completion task record) ∧ Living (task :: opened) w' := by
  rcases hr with ⟨_, rfl, rfl⟩ | ⟨t, w₁, r, ht, hw, hc⟩
  · exact .inl ⟨rfl, h⟩
  · have h₁ : Living opened w₁ := by
      refine h.congr hw.frame.1.registry ?_ (hw.adds.mono (fun _ => aside_write)).history
      rw [hw.frame.1.bus]
    have hmem := (taskWithId_mem ht).1
    rw [← hw.frame.1.registry] at hmem
    rcases complete_living h₁ hmem (hnew t ht) hc with hdone | ⟨record, hrest, hopen⟩
    · exact .inl hdone
    · exact .inr ⟨t.addr, record, hrest, hopen⟩

end

/-! ## Steps -/

theorem completions_user {task : Nat} {record : Option Nat} {payload : Option Buffer}
    {stack : List Activation} :
    completions (.user (.completion task record) payload :: stack) = task :: completions stack := rfl

theorem Resumed.living {opened : List Nat} {w w' : World} {rest : Option Rest}
    (hr : Resumed w rest w') (h : Living opened w) : Living opened w' :=
  h.congr hr.registry hr.issued (by rw [hr.trace])

/-- The task that an act completes, if it completes one. -/
def completedBy (w : World) : Act → Option TaskEntry
  | .expire addr =>
    (w.registry.fdEntryAt addr).bind (fun e => w.registry.taskWithTimer e.addr)
  | .receive frame _ _ =>
    (canardRxAccept w.bus.canard (socketFrame frame) 0).2.2.bind (fun (tfr, _) =>
      if tfr.transferKind = .response then w.registry.taskWithId (makeRspSpecifier tfr) else none)
  | _ => none

/-- No act completes a task whose callback has not returned. -/
def Unnested (w : World) (a : Act) : Prop :=
  ∀ t ∈ completedBy w a, t.addr ∉ completions w.stack

instance (w : World) (a : Act) : Decidable (Unnested w a) :=
  match h : completedBy w a with
  | none => isTrue (fun t ht => by rw [h] at ht; cases ht)
  | some t =>
    decidable_of_iff (t.addr ∉ completions w.stack)
      ⟨fun ht u hu => by rw [h] at hu; cases hu; exact ht, fun hu => hu t (by rw [h]; rfl)⟩

/-- What is left to do after a handler decides which callbacks have not returned. -/
theorem resumed_living {w w' : World} {rest : Option Rest} {stack : List Activation}
    (hr : Resumed w rest w') (hstack : w.stack = stack)
    (h : (rest = none ∧ Living (completions stack) w) ∨
      ∃ task record, rest = some (.completion task record) ∧
        Living (task :: completions stack) w) : Living (completions w'.stack) w' := by
  rcases h with ⟨rfl, h⟩ | ⟨task, record, rfl, h⟩
  · rcases hr.stack with ⟨_, hs⟩ | ⟨r, payload, hrest, _⟩
    · rw [hs, hstack]
      exact hr.living h
    · cases hrest
  · rcases hr.stack with ⟨hrest, _⟩ | ⟨r, payload, hrest, hs⟩
    · cases hrest
    · obtain rfl := Option.some.inj hrest
      rw [hs, hstack, completions_user]
      exact hr.living h

/-- The status callback opens nothing. -/
theorem reportStatus_living {w w' : World} {node : Nat} {old : WlmioStatus}
    {rest : Option Rest} (h : Living (completions w.stack) w)
    (hr : reportStatus w node old = (w', rest)) (payload : Option Buffer) :
    Living (completions (resume w' rest payload).stack) (resume w' rest payload) := by
  rcases reportStatus_cases hr with ⟨_, rfl, rfl⟩ | ⟨_, rfl, rfl⟩
  · exact h.congr rfl rfl (history_aside ⟨rfl, rfl, rfl, rfl⟩ _)
  · exact h.congr rfl rfl rfl

/-- **An act that completes no task twice keeps the lifecycles.** -/
theorem did_living {w w' : World} {a : Act} (h : Living (completions w.stack) w)
    (hu : Unnested w a) (hd : Did w a w') : Living (completions w'.stack) w' := by
  cases hd with
  | request _ hm =>
      rw [hm.control.stack]
      exact made_living h hm
  | syncRefused _ _ hm =>
      rw [hm.control.stack]
      exact made_living (w := { w with syncFlag := false, nextCall := w.nextCall + 1 }) h hm
  | syncEntered _ hm =>
      have h₁ := made_living (w := { w with syncFlag := false, nextCall := w.nextCall + 1 }) h hm
      rw [← hm.control.stack] at h₁
      exact h₁
  | setTimeout _ => exact h
  | setStatusCallback _ => exact h
  | tick _ => exact h
  | @taskExpired e t w₁ rest addr stack _ he _ _ _ ht hc =>
      have hnew : t.addr ∉ completions w.stack := by
        refine hu t ?_
        simp only [completedBy, he, Option.bind_some]
        exact ht
      refine resumed_living (resume_frame w₁ rest none) (complete_calls hc).stack ?_
      rcases complete_living h (taskWithTimer_mem ht).1 hnew hc with hdone | ⟨record, hrest, hopen⟩
      · exact .inl hdone
      · exact .inr ⟨t.addr, record, hrest, hopen⟩
  | @nodeExpired e r node addr old w₁ rest stack _ he _ hh hx hrep =>
      obtain ⟨_, rfl⟩ := fdEntryAt_mem he
      exact reportStatus_living (w := { w with registry := r })
        (Life.edit h (h.good.timeout he hh hx) (timeout_edit hx)) hrep none
  | collected _ _ => exact h
  | ignored _ _ => exact h
  | @beat frame pick malloc canard tfr w₁ rest stack payload _ _ _ hb =>
      obtain ⟨r, old, hr, hrest⟩ := hb
      have h₁ := Life.edit h (h.good.heartbeat hr) (heartbeat_edit hr)
      rcases hrest with ⟨_, rfl, rfl⟩ | ⟨o, _, hrep⟩
      · exact h₁
      · exact reportStatus_living (w := { withCanard w canard with registry := r }) h₁ hrep payload
  | @response frame pick malloc canard out buffer tfr w₁ rest stack payload _ _ hacc _ hk hr =>
      have hnew : ∀ t, w.registry.taskWithId (makeRspSpecifier tfr) = some t →
          t.addr ∉ completions w.stack := by
        intro t ht
        refine hu t ?_
        have hacc' : canardRxAccept w.bus.canard (socketFrame frame) 0 =
            (canard, out, some (tfr, buffer)) := hacc
        simp only [completedBy, hacc', Option.bind_some, hk, if_true]
        exact ht
      exact resumed_living (resume_frame w₁ rest payload) (responded_calls hr).stack
        (responded_living (w := withCanard w canard) h hnew hr)
  | @idle sends stack hs =>
      refine Living.congr (w := w) ?_ rfl (uavcanSend_frame _ _).1 rfl
      rw [hs] at h
      exact h
  | @syncReturned call stack hs _ =>
      rw [hs] at h
      exact h.congr rfl rfl (history_aside ⟨rfl, rfl, rfl, rfl⟩ _)
  | looped _ _ => exact h
  | @completed task record payload stack w₁ hs hfin =>
      rw [hs, completions_user] at h
      have h₁ := finishCompletion_living (w := { w with stack := stack }) h hfin
      have hstack : w₁.stack = stack := (finishCompletion_calls hfin).stack
      rw [← hstack] at h₁
      exact h₁
  | @reported payload stack hs =>
      rw [hs] at h
      exact h

/-! ## Runs -/

/-- The lifecycles are in order, and no task or entry was used after it was freed. -/
structure Orderly (w : World) : Prop where
  living : Living (completions w.stack) w
  fault : ∀ f ∈ w.fault, Linked f

theorem orderly_fresh {w : World} (h : Fresh w) (hg : Good w.registry) : Orderly w := by
  refine ⟨?_, by simp [h.fault]⟩
  unfold Living
  rw [h.stack, h.trace]
  exact
    { good := hg
      opened_nodup := List.nodup_nil
      opened_linked := by simp [completions]
      tasks := by rw [h.head]; exact List.Perm.refl _
      timers := by rw [h.head]; exact List.Perm.refl _
      invoked := List.Perm.refl _
      serial_unique := KeyedList.unique_nil
      task_unique := KeyedList.unique_nil
      timer_unique := KeyedList.unique_nil
      accepted_lt := by simp [history]
      linked := by simp [h.head]
      called := by simp [history]
      timer_kind := by simp [history] }

theorem orderly_step {w w' : World} {a : Act} (h : Orderly w) (hu : Unnested w a)
    (hs : step w a = some w') : Orderly w' := by
  obtain ⟨hfault, hd | ⟨f, hact, rfl⟩⟩ := step_cases hs
  · refine ⟨did_living h.living hu hd, ?_⟩
    rw [hd.fault, hfault]
    simp
  · refine ⟨h.living.congr rfl rfl rfl, ?_⟩
    intro f' hf'
    obtain rfl := Option.some.inj hf'
    exact act_fails h.living.good h.living.opened_linked hact f rfl

theorem orderly_reachable {w : World} (h : ReachableBy Unnested w) : Orderly w := by
  refine Transition.Reaches.invariant ?_ (fun _ _ _ _ hu ho hs => orderly_step ho hu hs) h
  intro w hw
  exact orderly_fresh (fresh_of_initial hw) (good_fresh (fresh_of_initial hw))

/-! ## At most once -/

/-- How often the callback of a request was called. -/
def calls (w : World) (serial : Nat) : Nat :=
  (history w.trace).invoked.countP (fun x => decide (x.serial = serial))

/-- How often a task was freed. -/
def taskFrees (w : World) (task : Nat) : Nat := (history w.trace).freedTasks.count task

/-- How often an entry was freed. -/
def entryFrees (w : World) (entry : Nat) : Nat := (history w.trace).freedEntries.count entry

/-- The task of a request and its timer are linked. If its callback was called, it has not
returned. -/
structure StillLinked (w : World) (x : Acceptance) : Prop where
  task : ∃ t ∈ w.registry.head, t.addr = x.task ∧ t.timer = x.timer ∧ t.serial = x.serial
  entry : ∃ e ∈ w.registry.fdEntries, e.addr = x.timer
  called : calls w x.serial = if x.task ∈ completions w.stack then 1 else 0
  taskFrees : taskFrees w x.task = 0
  entryFrees : entryFrees w x.timer = 0

/-- The callback of a request was called once, and its task and timer were freed once. -/
structure Finished (w : World) (x : Acceptance) : Prop where
  task : ∀ t ∈ w.registry.head, t.addr ≠ x.task
  entry : ∀ e ∈ w.registry.fdEntries, e.addr ≠ x.timer
  called : calls w x.serial = 1
  taskFrees : taskFrees w x.task = 1
  entryFrees : entryFrees w x.timer = 1

/-- Every request completes at most once. -/
structure AtMostOnce (w : World) : Prop where
  requests : ∀ x ∈ (history w.trace).accepted,
    calls w x.serial ≤ 1 ∧ (StillLinked w x ∨ Finished w x)
  /-- Nothing but accepted requests is ever called back. -/
  called : ∀ i ∈ (history w.trace).invoked,
    ∃ timer, ⟨i.serial, i.task, timer⟩ ∈ (history w.trace).accepted
  fault : ∀ f ∈ w.fault, Linked f

section

variable {opened : List Nat} {r : Registry} {n : Nat} {h : History}

/-- Task and serial number of an accepted request name each other. -/
theorem Life.serial_iff (hl : Life opened r n h) {x : Acceptance} (hx : x ∈ h.accepted)
    {i : Invocation} (hi : i ∈ h.invoked) : i.serial = x.serial ↔ i.task = x.task := by
  obtain ⟨timer, hy⟩ := hl.called i hi
  constructor
  · intro heq
    have := hl.serial_unique.eq hy hx heq
    rw [← this]
  · intro heq
    have := hl.task_unique.eq hy hx heq
    rw [← this]

/-- The callbacks of a request are those that are running and those that led to a free. -/
theorem Life.calls_eq (hl : Life opened r n h) {x : Acceptance} (hx : x ∈ h.accepted) :
    h.invoked.countP (fun i => decide (i.serial = x.serial)) =
      opened.count x.task + h.freedTasks.count x.task := by
  rw [← List.count_append, ← hl.invoked.count_eq x.task, List.count, List.countP_map]
  refine List.countP_congr ?_
  intro i hi
  simpa using hl.serial_iff hx hi

theorem Life.task_count (hl : Life opened r n h) {x : Acceptance} (hx : x ∈ h.accepted) :
    (r.head.map TaskEntry.addr).count x.task + h.freedTasks.count x.task = 1 := by
  rw [← List.count_append, ← hl.tasks.count_eq x.task]
  exact List.count_eq_one_of_mem hl.task_unique (List.mem_map_of_mem hx)

theorem Life.timer_count (hl : Life opened r n h) {x : Acceptance} (hx : x ∈ h.accepted) :
    (r.head.map TaskEntry.timer).count x.timer + h.freedEntries.count x.timer = 1 := by
  rw [← List.count_append, ← hl.timers.count_eq x.timer]
  exact List.count_eq_one_of_mem hl.timer_unique (List.mem_map_of_mem hx)

end

/-- A request is in one of the two states. -/
theorem request_state {w : World} (h : Living (completions w.stack) w) {x : Acceptance}
    (hx : x ∈ (history w.trace).accepted) : StillLinked w x ∨ Finished w x := by
  have hcalls := Life.calls_eq h hx
  have htask := Life.task_count h hx
  have htimer := Life.timer_count h hx
  -- a task is linked or was freed, and with it goes its timer
  by_cases hlinked : ∃ t ∈ w.registry.head, t.addr = x.task
  · left
    obtain ⟨t, ht, haddr⟩ := hlinked
    obtain rfl : (⟨t.serial, t.addr, t.timer⟩ : Acceptance) = x :=
      h.task_unique.eq (h.linked t ht) hx haddr
    have htaskPos := List.count_pos_iff.mpr (List.mem_map_of_mem (f := TaskEntry.addr) ht)
    have htimerPos := List.count_pos_iff.mpr (List.mem_map_of_mem (f := TaskEntry.timer) ht)
    have hfrees : (history w.trace).freedTasks.count t.addr = 0 := by
      dsimp only at htask
      omega
    have hentries : (history w.trace).freedEntries.count t.timer = 0 := by
      dsimp only at htimer
      omega
    obtain ⟨e, he, heq, _⟩ := h.good.timer t ht
    refine ⟨⟨t, ht, rfl, rfl, rfl⟩, ⟨e, he, heq⟩, ?_, hfrees, hentries⟩
    show List.countP _ _ = _
    rw [hcalls]
    dsimp only
    rw [hfrees, Nat.add_zero, h.opened_nodup.count]
  · right
    have hgone : ∀ t ∈ w.registry.head, t.addr ≠ x.task := fun t ht heq => hlinked ⟨t, ht, heq⟩
    have htimerGone : ∀ t ∈ w.registry.head, t.timer ≠ x.timer := by
      intro t ht heq
      have := h.timer_unique.eq (h.linked t ht) hx heq
      exact hgone t ht (by rw [← this])
    have htaskZero : (w.registry.head.map TaskEntry.addr).count x.task = 0 :=
      List.count_eq_zero.mpr (fun hm => by
        obtain ⟨t, ht, heq⟩ := List.mem_map.mp hm
        exact hgone t ht heq)
    have htimerZero : (w.registry.head.map TaskEntry.timer).count x.timer = 0 :=
      List.count_eq_zero.mpr (fun hm => by
        obtain ⟨t, ht, heq⟩ := List.mem_map.mp hm
        exact htimerGone t ht heq)
    -- only linked tasks have callbacks that run
    have hopen : (completions w.stack).count x.task = 0 :=
      List.count_eq_zero.mpr (fun hm => by
        obtain ⟨t, ht, heq⟩ := h.opened_linked _ hm
        exact hgone t ht heq)
    refine ⟨hgone, ?_, ?_, ?_, ?_⟩
    · intro e he heq
      obtain ⟨t, ht, htime⟩ := h.good.owner e he (h.timer_kind e he x hx heq)
      exact htimerGone t ht (htime.trans heq)
    · show List.countP _ _ = 1
      omega
    · show List.count _ _ = 1
      omega
    · show List.count _ _ = 1
      omega

/-- **At most once**: in runs that never complete a task whose callback has not returned, each
accepted request is called back at most once, and its task and timer are linked or were freed
once. -/
theorem at_most_once {w : World} (h : ReachableBy Unnested w) : AtMostOnce w := by
  obtain ⟨hliving, hfault⟩ := orderly_reachable h
  refine ⟨fun x hx => ?_, hliving.called, hfault⟩
  have hstate := request_state hliving hx
  refine ⟨?_, hstate⟩
  rcases hstate with hlinked | hdone
  · rw [hlinked.called]
    split
    · exact Nat.le_refl 1
    · exact Nat.zero_le 1
  · exact Nat.le_of_eq hdone.called

/-! ## The condition is exact -/

theorem complete_invoked {w w' : World} {t : TaskEntry} {r : Int} {rest : Option Rest}
    (h : complete w t r = .ok (w', rest)) :
    (history w'.trace).invoked = ⟨t.addr, t.serial⟩ :: (history w.trace).invoked := by
  obtain ⟨trailing, htrailing, htrace⟩ := complete_invokes h
  have hnone : trailing.filterMap invocationOf = [] := by
    refine List.filterMap_eq_nil_iff.mpr ?_
    intro e he
    cases e with
    | invoked task serial r => exact absurd rfl ((htrailing _ he).1 task serial r)
    | _ => rfl
  show w'.trace.filterMap invocationOf = _
  rw [htrace, List.filterMap_append, hnone, List.nil_append]
  rfl

/-- An expiry invokes the task of the timer. -/
theorem expire_invokes {guard : World → Act → Prop} {w w' : World} {addr : Nat} {t : TaskEntry}
    (h : ReachableBy guard w) (ht : completedBy w (.expire addr) = some t)
    (hs : step w (.expire addr) = some w') (hf : w'.fault = none) : t ∈ w.registry.head ∧
      (history w'.trace).invoked = ⟨t.addr, t.serial⟩ :: (history w.trace).invoked := by
  have hg := good_reachable h
  obtain ⟨e, he, ht⟩ := Option.bind_eq_some_iff.mp ht
  obtain ⟨htm, htimer⟩ := taskWithTimer_mem ht
  refine ⟨htm, ?_⟩
  rcases (step_cases hs).2 with hdid | ⟨f, _, rfl⟩
  · cases hdid with
    | taskExpired _ he' _ _ _ ht' hc =>
        obtain rfl := Option.some.inj (he.symm.trans he')
        obtain rfl := Option.some.inj (ht.symm.trans ht')
        rw [(resume_frame _ _ _).trace]
        exact complete_invoked hc
    | nodeExpired _ he' _ hh =>
        -- the timer of a task is not that of a node
        obtain rfl := Option.some.inj (he.symm.trans he')
        obtain ⟨e', hmem, haddr, hasync, _⟩ := hg.timer t htm
        obtain rfl := hg.entry_unique.eq hmem (fdEntryAt_mem he).1 (haddr.trans htimer)
        rw [hh] at hasync
        cases hasync
  · cases hf

/-- A response invokes the task that it is for. -/
theorem response_invokes {guard : World → Act → Prop} {w w' : World} {frame : CanardFrame}
    {pick : Int} {malloc : Bool} {t : TaskEntry} (h : ReachableBy guard w)
    (ht : completedBy w (.receive frame pick malloc) = some t)
    (hs : step w (.receive frame pick malloc) = some w') (hf : w'.fault = none) :
    t ∈ w.registry.head ∧
      (history w'.trace).invoked = ⟨t.addr, t.serial⟩ :: (history w.trace).invoked := by
  obtain ⟨⟨tfr, buffer⟩, hacc, ht⟩ := Option.bind_eq_some_iff.mp ht
  dsimp only at ht
  split at ht
  · rename_i hk
    obtain ⟨htm, hid⟩ := taskWithId_mem ht
    have hcomp : Completes w frame tfr := ⟨_, _, buffer, Prod.ext rfl (Prod.ext rfl hacc)⟩
    obtain ⟨i, _, hport, _⟩ := found_task (ledger_reachable h) (owned_reachable h)
      (completes_inRange hcomp hk) htm hid
    refine ⟨htm, ?_⟩
    obtain ⟨_, rfl⟩ := receive_step (Prod.ext rfl (Prod.ext rfl hacc)) hs
    unfold handleTransfer at hf ⊢
    cases hd : dispatch (withCanard w (canardRxAccept w.bus.canard (socketFrame frame) 0).1) tfr
        pick malloc with
    | error f =>
        rw [hd] at hf
        cases hf
    | ok x =>
        obtain ⟨w₂, rest⟩ := x
        rcases dispatch_response hport hk hd with ⟨hnone, _⟩ | ⟨t', w₁, r, ht', hw, hc⟩
        · exact absurd (ht.symm.trans hnone) (Option.some_ne_none t)
        · obtain rfl := Option.some.inj (ht.symm.trans ht')
          show (history (resume w₂ rest _).trace).invoked = _
          rw [(resume_frame w₂ rest _).trace, complete_invoked hc,
            (hw.adds.mono (fun _ => aside_write)).history]
          rfl
  · cases ht

/-- An act that completes a task calls its callback, unless it ends in a fault. -/
theorem step_invokes {guard : World → Act → Prop} {w w' : World} {a : Act} {t : TaskEntry}
    (h : ReachableBy guard w) (ht : completedBy w a = some t) (hs : step w a = some w')
    (hf : w'.fault = none) : t ∈ w.registry.head ∧
      (history w'.trace).invoked = ⟨t.addr, t.serial⟩ :: (history w.trace).invoked := by
  cases a with
  | expire addr => exact expire_invokes h ht hs hf
  | receive frame pick malloc => exact response_invokes h ht hs hf
  | _ => cases ht

/-- **An act that completes a task whose callback has not returned** calls that callback a second
time, unless it ends in a fault. -/
theorem nested_calls_again {w w' : World} {a : Act} (h : ReachableBy Unnested w)
    (ha : ¬ Unnested w a) (hs : step w a = some w') (hf : w'.fault = none) :
    ∃ x ∈ (history w.trace).accepted, calls w x.serial = 1 ∧ calls w' x.serial = 2 := by
  have hliving := (orderly_reachable h).living
  obtain ⟨t, ht, hopen⟩ : ∃ t ∈ completedBy w a, t.addr ∈ completions w.stack := by
    by_contra hno
    exact ha (fun t ht hopen => hno ⟨t, ht, hopen⟩)
  obtain ⟨htm, hinvoked⟩ := step_invokes h ht hs hf
  have hx := hliving.linked t htm
  refine ⟨_, hx, ?_⟩
  have honce : calls w t.serial = 1 := by
    rcases request_state hliving hx with hlinked | hdone
    · rw [hlinked.called, if_pos hopen]
    · exact absurd rfl (hdone.task t htm)
  refine ⟨honce, ?_⟩
  unfold calls at honce ⊢
  rw [hinvoked, List.countP_cons_of_pos (by simp), honce]

/-- A request to a node. -/
def infoRequest (node : BitVec 8) (fd : Int) : Act :=
  .request (.getNodeInfo node (some 0)) (some 0) (grantFrom fd)

/-- The first of two requests is answered; its callback runs `wlmio_tick`, in which the second times
out. -/
theorem at_most_once_nested : ∃ w, (calls w 0 = 1 ∧ calls w 1 = 1 ∧ w.registry.head = []) ∧
    AtMostOnce w := by
  obtain ⟨w, hr, hw⟩ := exists_after Unnested
    [infoRequest 3 5, infoRequest 4 6, .tick, .receive (responseFrame .getNodeInfo 3 0 []) 7 true,
      .tick, .expire 4, .ret, .idle 0, .ret]
    (fun w => decide (calls w 0 = 1 ∧ calls w 1 = 1 ∧ w.registry.head = [])) (by decide +kernel)
  exact ⟨w, of_decide_eq_true hw, at_most_once hr⟩

/-- **A callback that runs `wlmio_tick` is called again.** The timer of its task is still open and
still expired, so the task is completed once more and freed; when the first callback returns, the
task is searched for in vain. -/
theorem nested_expiry_repeats : ∃ w, Reachable w ∧
    (⟨0, 1, 2⟩ : Acceptance) ∈ (history w.trace).accepted ∧ calls w 0 = 2 ∧
      w.fault = some (.useAfterFree .task) := by
  obtain ⟨w, hr, hw⟩ := exists_after Transition.free
    [infoRequest 3 5, infoRequest 4 6, .tick, .expire 2, .tick, .expire 2, .ret, .idle 0, .ret]
    (fun w => decide ((⟨0, 1, 2⟩ : Acceptance) ∈ (history w.trace).accepted ∧ calls w 0 = 2 ∧
      w.fault = some (.useAfterFree .task))) (by decide +kernel)
  exact ⟨w, hr, of_decide_eq_true hw⟩

end Wlmio.Proof
