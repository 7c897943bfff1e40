import Wlmio.Pywlmio.Node

/-!
# The cached node info

Node info that is cached should be that of the node as it is since its last restart. The status
task clears the cache in time for that, unless it gets between a response and the coroutine that
waits for it: `set_result` runs before the task, but only schedules the coroutine, which then stores
what it was sent before the restart.

So the info is always current if no transition is reported while the `set_result` of a response is
still to be run (`Prompt`), and becomes stale each time one is (`info_current`).
-/

namespace Wlmio.Proof

open Wlmio.Client Wlmio.Pywlmio

/-! ## Current info -/

/-- A response with this number was received after the transition. -/
def Newer (transition : Option Nat) (stamp : Nat) : Prop := ∀ p, transition = some p → p < stamp

/-- The info that is cached is from a response received after the last transition that was
processed. -/
def Current (n : Node) : Prop := ∀ cached, n.info = some cached → Newer n.transition cached.stamp

/-- Each access was let through by such an info. -/
def Checked (n : Node) : Prop :=
  ∀ c cached last, NodeEvent.passed c cached last ∈ n.trace → Newer last cached.stamp

/-- A result that `get_info` stores an info from. -/
def usable (result : InfoResult) : Bool :=
  decide (0 ≤ result.1) && (result.2.bind unpackNodeInfo).isSome

/-- `set_result` with such a result. -/
def pendingInfo : Handle → Bool
  | .setResult _ result _ => usable result
  | _ => false

/-- No transition is reported while such a result is still to be set. -/
def Prompt (l : NodeLoop) : NodeAct → Prop
  | .report nodeId oldStatus newStatus =>
    nodeId = l.state.id → isTransition oldStatus newStatus → l.ready.any pendingInfo = false
  | _ => True

instance (l : NodeLoop) (a : NodeAct) : Decidable (Prompt l a) :=
  match a with
  | .report _ _ _ => inferInstanceAs (Decidable (_ → _ → _ = _))
  | .call _ | .complete _ _ _ | .turn => isTrue trivial

/-- The states of all runs. -/
abbrev NodeReachable : NodeLoop → Prop :=
  Transition.Reaches NodeLoop.step Transition.free NodeLoop.Initial

/-! ## Coroutines -/

/-- A coroutine has gone on with the info there is. -/
structure Steady (n : Node) (s : Node × List Handle) : Prop where
  info : s.1.info = n.info
  transition : s.1.transition = n.transition
  clock : s.1.clock = n.clock
  /-- It has not passed a check, or one on this info. -/
  passed : ∀ c cached last, NodeEvent.passed c cached last ∈ s.1.trace →
    NodeEvent.passed c cached last ∈ n.trace ∨ (n.info = some cached ∧ last = n.transition)
  /-- At most a waiter has been woken. -/
  woken : ∀ h ∈ s.2, ∃ c, h = .acquire c

theorem Steady.current {n : Node} {s : Node × List Handle} (h : Steady n s) (hn : Current n) :
    Current s.1 := by
  intro cached hc
  rw [h.transition]
  exact hn cached (h.info ▸ hc)

theorem Steady.checked {n : Node} {s : Node × List Handle} (h : Steady n s) (hn : Current n)
    (hc : Checked n) : Checked s.1 := by
  intro c cached last hmem
  rcases h.passed c cached last hmem with hold | ⟨hinfo, rfl⟩
  · exact hc c cached last hold
  · exact hn cached hinfo

theorem release_woken (n : Node) : ∀ h ∈ n.release.2, ∃ c, h = Handle.acquire c := by
  intro h hh
  unfold Node.release at hh
  obtain ⟨c, _, hc⟩ := Option.map_eq_some_iff.mp (Option.mem_toList.mp hh)
  exact ⟨c, hc.symm⟩

theorem deliver_steady {n : Node} (c : Coroutine) {cached : Cached} (h : n.info = some cached) :
    Steady n (n.release.1.deliver c cached, n.release.2) := by
  have hpassed : (n.release.1.deliver c cached).info = n.info ∧
      (n.release.1.deliver c cached).transition = n.transition ∧
      (n.release.1.deliver c cached).clock = n.clock ∧
      ∃ e, (n.release.1.deliver c cached).trace = e :: n.trace ∧
        ∀ c' cached' last, e = .passed c' cached' last → cached' = cached ∧ last = n.transition := by
    unfold Node.deliver
    split
    · exact ⟨rfl, rfl, rfl, _, rfl, fun _ _ _ heq => by cases heq⟩
    · split
      · exact ⟨rfl, rfl, rfl, _, rfl, fun _ _ _ heq => by cases heq⟩
      · exact ⟨rfl, rfl, rfl, _, rfl, fun _ _ _ heq => by cases heq; exact ⟨rfl, rfl⟩⟩
  obtain ⟨hinfo, htransition, hclock, e, htrace, he⟩ := hpassed
  refine ⟨hinfo, htransition, hclock, fun c' cached' last hmem => ?_, release_woken n⟩
  rw [htrace] at hmem
  rcases List.mem_cons.mp hmem with heq | hold
  · obtain ⟨rfl, rfl⟩ := he c' cached' last heq.symm
    exact .inr ⟨h, rfl⟩
  · exact .inl hold

theorem enter_steady (n : Node) (c : Coroutine) : Steady n (n.enter c) := by
  unfold Node.enter
  split
  · exact ⟨rfl, rfl, rfl, fun _ _ _ h => .inl h, fun _ h => by cases h⟩
  · rename_i cached hinfo
    exact deliver_steady c hinfo

/-- The lock and the waiters are not looked at. -/
theorem Steady.of_lock {n n' : Node} {s : Node × List Handle} (h : Steady n' s)
    (hn : n' = { n with locked := n'.locked, waiters := n'.waiters }) : Steady n s := by
  rw [hn] at h
  exact ⟨h.info, h.transition, h.clock, h.passed, h.woken⟩

theorem getInfo_steady (n : Node) (c : Coroutine) : Steady n (n.getInfo c) := by
  unfold Node.getInfo
  split
  · exact (enter_steady { n with locked := true } c).of_lock rfl
  · exact ⟨rfl, rfl, rfl, fun _ _ _ h => .inl h, fun _ h => by cases h⟩

theorem acquire_steady (n : Node) (c : Coroutine) : Steady n (n.acquire c) :=
  (enter_steady { n with waiters := n.waiters.erase c, locked := true } c).of_lock rfl

theorem raise_steady (n : Node) (c : Coroutine) (e : NodeError) : Steady n (n.raise c e) := by
  refine ⟨rfl, rfl, rfl, fun c' cached last h => ?_, release_woken n⟩
  rcases List.mem_cons.mp h with heq | hold
  · cases heq
  · exact .inl hold

/-- A coroutine that goes on after the future stores an info exactly if the result is usable. -/
theorem resume_cases (n : Node) (c : Coroutine) (result : InfoResult) (stamp : Nat) :
    (usable result = false ∧ Steady n (n.resume c result stamp)) ∨
      (usable result = true ∧
        ∃ info, Steady { n with info := some ⟨info, stamp⟩ } (n.resume c result stamp)) := by
  unfold Node.resume usable
  by_cases hr : result.1 < 0
  · rw [if_pos hr]
    exact .inl ⟨by simp [Int.not_le.mpr hr], raise_steady n c _⟩
  rw [if_neg hr]
  cases hvalue : result.2 with
  | none => exact .inl ⟨by simp, raise_steady n c _⟩
  | some temp =>
      dsimp only
      cases hinfo : unpackNodeInfo temp with
      | none => exact .inl ⟨by simp [hinfo], raise_steady n c _⟩
      | some info =>
          refine .inr ⟨by simp [hinfo, Int.not_lt.mp hr], info, ?_⟩
          exact deliver_steady (n := { n with info := some ⟨info, stamp⟩ }) c rfl

/-- Whatever it does, it only wakes a waiter. -/
theorem resume_wakes (n : Node) (c : Coroutine) (result : InfoResult) (stamp : Nat) :
    (n.resume c result stamp).1.transition = n.transition ∧
      (n.resume c result stamp).1.clock = n.clock ∧
      ∀ h ∈ (n.resume c result stamp).2, ∃ c', h = .acquire c' := by
  rcases resume_cases n c result stamp with ⟨_, hs⟩ | ⟨_, info, hs⟩
  · exact ⟨hs.transition, hs.clock, hs.woken⟩
  · exact ⟨hs.transition, hs.clock, hs.woken⟩

/-! ## Callbacks -/

/-- The status task sets the status, and clears the info at a transition. -/
theorem statusCallback_cases (n : Node) (oldStatus newStatus : WlmioStatus) :
    ∃ info, n.statusCallback oldStatus newStatus =
        { n with status := some newStatus, info := info } ∧
      (info = none ∨ (info = n.info ∧ ¬ isTransition oldStatus newStatus)) := by
  by_cases hoffline : newStatus.mode = 7
  · refine ⟨none, ?_, .inl rfl⟩
    unfold Node.statusCallback
    simp only [if_pos hoffline]
    split <;> split <;> rfl
  by_cases honline : (oldStatus.mode = 7 ∧ newStatus.mode ≠ 7) ∨ newStatus.uptime < oldStatus.uptime
  · refine ⟨none, ?_, .inl rfl⟩
    unfold Node.statusCallback
    simp only [if_neg hoffline, if_pos honline]
    split <;> rfl
  · refine ⟨n.info, ?_, .inr ⟨rfl, ?_⟩⟩
    · unfold Node.statusCallback
      simp only [if_neg hoffline, if_neg honline]
      split <;> rfl
    · intro h
      rcases h with h | h
      · exact hoffline h.2
      · exact honline h

/-- **A callback moves the last transition as the queue foretells.** -/
theorem exec_transition (n : Node) (h : Handle) :
    (n.exec h).1.transition = lastTransition n.transition h := by
  cases h with
  | setResult c result stamp => rfl
  | resume c result stamp => exact (resume_wakes n c result stamp).1
  | acquire c => exact (acquire_steady n c).transition
  | status oldStatus newStatus stamp => rfl

theorem exec_clock (n : Node) (h : Handle) : (n.exec h).1.clock = n.clock := by
  cases h with
  | setResult c result stamp => rfl
  | resume c result stamp => exact (resume_wakes n c result stamp).2.1
  | acquire c => exact (acquire_steady n c).clock
  | status oldStatus newStatus stamp =>
      obtain ⟨info, heq, _⟩ := statusCallback_cases n oldStatus newStatus
      show (n.statusCallback oldStatus newStatus).clock = n.clock
      rw [heq]

/-- What a callback schedules: a coroutine that waited for the lock, or for the result it sets. -/
theorem exec_new (n : Node) (h : Handle) : ∀ h' ∈ (n.exec h).2, (∃ c, h' = .acquire c) ∨
    ∃ c result stamp, h = .setResult c result stamp ∧ h' = .resume c result stamp := by
  intro h' hh'
  cases h with
  | setResult c result stamp => exact .inr ⟨c, result, stamp, rfl, List.mem_singleton.mp hh'⟩
  | resume c result stamp => exact .inl ((resume_wakes n c result stamp).2.2 h' hh')
  | acquire c => exact .inl ((acquire_steady n c).woken h' hh')
  | status oldStatus newStatus stamp => cases hh'

/-- Those do not move the last transition. -/
theorem exec_still (n : Node) (h : Handle) (last : Option Nat) :
    ∀ h' ∈ (n.exec h).2, lastTransition last h' = last := by
  intro h' hh'
  rcases exec_new n h h' hh' with ⟨c, rfl⟩ | ⟨c, result, stamp, _, rfl⟩
  · rfl
  · rfl

/-! ## Steps -/

/-- What an act does. -/
inductive Stepped (n : Node) (ready : List Handle) : NodeAct → NodeLoop → Prop
  | called (c : Coroutine) :
      Stepped n ready (.call c) ⟨(n.getInfo c).1, ready ++ (n.getInfo c).2⟩
  | completed (c : Coroutine) (r : Int) (nodeInfo : WlmioNodeInfo) :
      Stepped n ready (.complete c r nodeInfo)
        ⟨{ n with requests := n.requests.erase c, clock := n.clock + 1 },
          ready ++ [.setResult c (getNodeInfoCallback r nodeInfo) n.clock]⟩
  | reported (oldStatus newStatus : WlmioStatus) :
      Stepped n ready (.report n.id oldStatus newStatus)
        ⟨{ n with clock := n.clock + 1 }, ready ++ [.status oldStatus newStatus n.clock]⟩
  | unheard {nodeId : Nat} (oldStatus newStatus : WlmioStatus) :
      nodeId ≠ n.id → Stepped n ready (.report nodeId oldStatus newStatus) ⟨n, ready⟩
  | turned {a : Handle} {rest : List Handle} :
      ready = a :: rest → Stepped n ready .turn ⟨(n.exec a).1, rest ++ (n.exec a).2⟩

theorem step_stepped {n : Node} {ready : List Handle} {a : NodeAct} {l' : NodeLoop}
    (hs : NodeLoop.step ⟨n, ready⟩ a = some l') : Stepped n ready a l' := by
  cases a with
  | call c => exact Option.some.inj hs ▸ .called c
  | complete c r nodeInfo =>
      unfold NodeLoop.step at hs
      dsimp only at hs
      split at hs
      · exact Option.some.inj hs ▸ .completed c r nodeInfo
      · cases hs
  | report nodeId oldStatus newStatus =>
      unfold NodeLoop.step at hs
      dsimp only at hs
      split at hs
      · rename_i hid
        subst hid
        exact Option.some.inj hs ▸ .reported oldStatus newStatus
      · rename_i hid
        exact Option.some.inj hs ▸ .unheard oldStatus newStatus hid
  | turn =>
      obtain ⟨b, rest, hready, rfl⟩ := EventLoop.turn_cases hs
      exact .turned hready

/-! ## The invariant -/

/-- A coroutine that is going to store an info stores a current one. -/
def Timely (last : Option Nat) : Handle → Prop
  | .resume _ result stamp => usable result = true → Newer last stamp
  | _ => True

/-- The last transition when all callbacks that are ready have been run. -/
def finalTransition (l : NodeLoop) : Option Nat := l.ready.foldl lastTransition l.state.transition

/-- The cache is current, and will be when the callbacks that are ready have been run. -/
structure CacheSound (l : NodeLoop) : Prop where
  current : Current l.state
  checked : Checked l.state
  along : EventLoop.Along lastTransition Timely l.state.transition l.ready
  /-- A result still to be set will be stored after all of them. -/
  pending : ∀ c result stamp, Handle.setResult c result stamp ∈ l.ready → usable result = true →
    Newer (finalTransition l) stamp
  clock : Newer (finalTransition l) l.state.clock

theorem exec_current {n : Node} {h : Handle} (hn : Current n) (ht : Timely n.transition h) :
    Current (n.exec h).1 := by
  cases h with
  | setResult c result stamp => exact hn
  | resume c result stamp =>
      rcases resume_cases n c result stamp with ⟨_, hs⟩ | ⟨husable, info, hs⟩
      · exact hs.current hn
      · refine hs.current ?_
        intro cached hc
        obtain rfl := Option.some.inj hc
        exact ht husable
  | acquire c => exact (acquire_steady n c).current hn
  | status oldStatus newStatus stamp =>
      obtain ⟨info, heq, hinfo⟩ := statusCallback_cases n oldStatus newStatus
      intro cached hc
      have hcached : info = some cached := by
        rw [← hc]
        exact (congrArg Node.info heq).symm
      rcases hinfo with rfl | ⟨rfl, hno⟩
      · cases hcached
      · rw [exec_transition, lastTransition, if_neg hno]
        exact hn cached hcached

theorem exec_checked {n : Node} {h : Handle} (hn : Current n) (hc : Checked n)
    (ht : Timely n.transition h) : Checked (n.exec h).1 := by
  cases h with
  | setResult c result stamp => exact hc
  | resume c result stamp =>
      rcases resume_cases n c result stamp with ⟨_, hs⟩ | ⟨husable, info, hs⟩
      · exact hs.checked hn hc
      · refine hs.checked (fun cached hcached => ?_) hc
        obtain rfl := Option.some.inj hcached
        exact ht husable
  | acquire c => exact (acquire_steady n c).checked hn hc
  | status oldStatus newStatus stamp =>
      obtain ⟨info, heq, _⟩ := statusCallback_cases n oldStatus newStatus
      have htrace : (n.exec (.status oldStatus newStatus stamp)).1.trace = n.trace := by
        show (n.statusCallback oldStatus newStatus).trace = n.trace
        rw [heq]
      intro c cached last hmem
      rw [htrace] at hmem
      exact hc c cached last hmem

/-- Callbacks that do not move the last transition may come last. -/
theorem finalTransition_append {n n' : Node} {ready new : List Handle}
    (hn : n'.transition = n.transition) (hnew : ∀ h ∈ new, ∀ last, lastTransition last h = last) :
    finalTransition ⟨n', ready ++ new⟩ = finalTransition ⟨n, ready⟩ := by
  show (ready ++ new).foldl lastTransition n'.transition = _
  rw [List.foldl_append, EventLoop.foldl_of_still (fun h hh => hnew h hh _), hn]
  rfl

/-- **A turn of the loop keeps the invariant.** -/
theorem CacheSound.turn {n : Node} {a : Handle} {rest : List Handle}
    (h : CacheSound ⟨n, a :: rest⟩) : CacheSound ⟨(n.exec a).1, rest ++ (n.exec a).2⟩ := by
  obtain ⟨htimely, hrest⟩ := h.along
  have hfinal : finalTransition ⟨(n.exec a).1, rest ++ (n.exec a).2⟩ =
      finalTransition ⟨n, a :: rest⟩ := by
    have hmoved : finalTransition ⟨n, a :: rest⟩ = finalTransition ⟨(n.exec a).1, rest⟩ := by
      show rest.foldl lastTransition (lastTransition n.transition a) = _
      rw [← exec_transition]
      rfl
    rw [hmoved]
    exact finalTransition_append rfl (fun h hh last => exec_still n a last h hh)
  constructor
  · exact exec_current h.current htimely
  · exact exec_checked h.current h.checked htimely
  · show EventLoop.Along lastTransition Timely (n.exec a).1.transition (rest ++ (n.exec a).2)
    rw [exec_transition]
    refine EventLoop.along_append.mpr ⟨hrest, ?_⟩
    cases a with
    | setResult c result stamp =>
        -- the coroutine goes on after everything that is ready now
        exact ⟨fun hu => h.pending c result stamp List.mem_cons_self hu, trivial⟩
    | _ =>
        refine EventLoop.along_of_all (fun last b hb => ?_) _
        rcases exec_new n _ b hb with ⟨c, rfl⟩ | ⟨c, result, stamp, heq, _⟩
        · trivial
        · cases heq
  · intro c result stamp hmem hu
    rw [hfinal]
    rcases List.mem_append.mp hmem with hmem | hmem
    · exact h.pending c result stamp (List.mem_cons_of_mem _ hmem) hu
    · rcases exec_new n a _ hmem with ⟨c', heq⟩ | ⟨_, _, _, _, heq⟩
      · cases heq
      · cases heq
  · show Newer _ (n.exec a).1.clock
    rw [hfinal, exec_clock]
    exact h.clock

/-- A coroutine that asks for the info keeps it. -/
theorem CacheSound.call {n : Node} {ready : List Handle} (h : CacheSound ⟨n, ready⟩) (c : Coroutine) :
    CacheSound ⟨(n.getInfo c).1, ready ++ (n.getInfo c).2⟩ := by
  have hsteady := getInfo_steady n c
  have hstill : ∀ h ∈ (n.getInfo c).2, ∀ last, lastTransition last h = last := by
    intro h hh last
    obtain ⟨c', rfl⟩ := hsteady.woken h hh
    rfl
  have hfinal : finalTransition ⟨(n.getInfo c).1, ready ++ (n.getInfo c).2⟩ =
      finalTransition ⟨n, ready⟩ := finalTransition_append hsteady.transition hstill
  constructor
  · exact hsteady.current h.current
  · exact hsteady.checked h.current h.checked
  · show EventLoop.Along lastTransition Timely (n.getInfo c).1.transition (ready ++ (n.getInfo c).2)
    rw [hsteady.transition]
    refine EventLoop.along_append.mpr ⟨h.along, EventLoop.along_of_all (fun last b hb => ?_) _⟩
    obtain ⟨c', rfl⟩ := hsteady.woken b hb
    trivial
  · intro c' result stamp hmem hu
    rw [hfinal]
    rcases List.mem_append.mp hmem with hmem | hmem
    · exact h.pending c' result stamp hmem hu
    · obtain ⟨_, heq⟩ := hsteady.woken _ hmem
      cases heq
  · show Newer _ (n.getInfo c).1.clock
    rw [hfinal, hsteady.clock]
    exact h.clock

theorem Newer.succ {transition : Option Nat} {stamp : Nat} (h : Newer transition stamp) :
    Newer transition (stamp + 1) := fun p hp => Nat.lt_succ_of_lt (h p hp)

/-- **A response is later than all there is in the queue.** -/
theorem CacheSound.complete {n : Node} {ready : List Handle} (h : CacheSound ⟨n, ready⟩) (c : Coroutine)
    (result : InfoResult) (requests : List Coroutine) :
    CacheSound ⟨{ n with requests := requests, clock := n.clock + 1 },
      ready ++ [.setResult c result n.clock]⟩ := by
  have hfinal : finalTransition ⟨{ n with requests := requests, clock := n.clock + 1 },
      ready ++ [.setResult c result n.clock]⟩ = finalTransition ⟨n, ready⟩ := by
    refine finalTransition_append rfl ?_
    intro h hh last
    obtain rfl := List.mem_singleton.mp hh
    rfl
  constructor
  · exact h.current
  · exact h.checked
  · exact EventLoop.along_append.mpr ⟨h.along, trivial, trivial⟩
  · intro c' result' stamp hmem hu
    rw [hfinal]
    rcases List.mem_append.mp hmem with hmem | hmem
    · exact h.pending c' result' stamp hmem hu
    · cases List.mem_singleton.mp hmem
      exact h.clock
  · rw [hfinal]
    exact h.clock.succ

/-- **A report keeps the invariant** unless it overtakes a result. -/
theorem CacheSound.report {n : Node} {ready : List Handle} (h : CacheSound ⟨n, ready⟩)
    {oldStatus newStatus : WlmioStatus}
    (hprompt : isTransition oldStatus newStatus → ready.any pendingInfo = false) :
    CacheSound ⟨{ n with clock := n.clock + 1 }, ready ++ [.status oldStatus newStatus n.clock]⟩ := by
  have hfinal : finalTransition ⟨{ n with clock := n.clock + 1 },
      ready ++ [.status oldStatus newStatus n.clock]⟩ =
        if isTransition oldStatus newStatus then some n.clock else finalTransition ⟨n, ready⟩ := by
    show (ready ++ [_]).foldl lastTransition n.transition = _
    rw [List.foldl_append]
    rfl
  constructor
  · exact h.current
  · exact h.checked
  · exact EventLoop.along_append.mpr ⟨h.along, trivial, trivial⟩
  · intro c result stamp hmem hu
    have hready : Handle.setResult c result stamp ∈ ready := by
      rcases List.mem_append.mp hmem with hmem | hmem
      · exact hmem
      · cases List.mem_singleton.mp hmem
    by_cases ht : isTransition oldStatus newStatus
    · have hnone := List.any_eq_false.mp (hprompt ht) _ hready
      exact absurd hu hnone
    · rw [hfinal, if_neg ht]
      exact h.pending c result stamp hready hu
  · rw [hfinal]
    split
    · intro p hp
      obtain rfl := Option.some.inj hp
      exact Nat.lt_succ_self _
    · exact h.clock.succ

theorem cacheSound_init {l : NodeLoop} (h : NodeLoop.Initial l) : CacheSound l := by
  obtain ⟨id, rfl⟩ := h
  refine ⟨?_, ?_, trivial, ?_, ?_⟩
  · intro cached hc
    cases hc
  · intro c cached last hmem
    cases hmem
  · intro c result stamp hmem
    cases hmem
  · intro p hp
    cases hp

/-- **A step keeps the invariant** if no transition overtakes a result. -/
theorem CacheSound.step {l l' : NodeLoop} {a : NodeAct} (h : CacheSound l) (hg : Prompt l a)
    (hs : l.step a = some l') : CacheSound l' := by
  obtain ⟨n, ready⟩ := l
  cases step_stepped hs with
  | called c => exact h.call c
  | completed c r nodeInfo => exact h.complete c _ _
  | reported oldStatus newStatus => exact h.report (hg rfl)
  | unheard _ _ _ => exact h
  | turned hready =>
      subst hready
      exact h.turn

/-! ## Overtaken results -/

/-- Results in the queue were received before now. -/
def Stamped (l : NodeLoop) : Prop :=
  ∀ c result stamp, Handle.setResult c result stamp ∈ l.ready → stamp < l.state.clock

theorem Stamped.step {l l' : NodeLoop} {a : NodeAct} (h : Stamped l) (hs : l.step a = some l') :
    Stamped l' := by
  obtain ⟨n, ready⟩ := l
  intro c result stamp hmem
  cases step_stepped hs with
  | called c' =>
      have hsteady := getInfo_steady n c'
      rw [hsteady.clock]
      rcases List.mem_append.mp hmem with hmem | hmem
      · exact h c result stamp hmem
      · obtain ⟨_, heq⟩ := hsteady.woken _ hmem
        cases heq
  | completed c' r nodeInfo =>
      rcases List.mem_append.mp hmem with hmem | hmem
      · exact Nat.lt_succ_of_lt (h c result stamp hmem)
      · cases List.mem_singleton.mp hmem
        exact Nat.lt_succ_self _
  | reported oldStatus newStatus =>
      rcases List.mem_append.mp hmem with hmem | hmem
      · exact Nat.lt_succ_of_lt (h c result stamp hmem)
      · cases List.mem_singleton.mp hmem
  | unheard _ _ _ => exact h c result stamp hmem
  | @turned b rest hready =>
      subst hready
      rw [exec_clock]
      rcases List.mem_append.mp hmem with hmem | hmem
      · exact h c result stamp (List.mem_cons_of_mem _ hmem)
      · rcases exec_new n b _ hmem with ⟨_, heq⟩ | ⟨_, _, _, _, heq⟩
        · cases heq
        · cases heq

theorem stamped_reachable {l : NodeLoop} (h : NodeReachable l) : Stamped l := by
  refine Transition.Reaches.invariant ?_ (fun l a l' _ _ hp hs => hp.step hs) h
  rintro l ⟨id, rfl⟩ c result stamp hmem
  cases hmem

theorem turns_reach {l l' : NodeLoop} (h : EventLoop.Turns Node.exec l l') :
    Transition.Reaches NodeLoop.step Transition.free (· = l) l' := by
  induction h with
  | refl => exact .init rfl
  | tail _ hturn ih => exact .step (a := .turn) ih trivial hturn

/--
**A transition that overtakes a result makes the cache stale.**

The loop runs what comes before the result, the result, what comes before the status task, and that.
The coroutine is next at the latest after what these have scheduled, and none of it is a status task.
-/
theorem overtaken_stale {n : Node} (before behind : List Handle) (c : Coroutine)
    {result : InfoResult} {stamp now : Nat} {oldStatus newStatus : WlmioStatus}
    (hu : usable result = true) (hlt : stamp < now) (ht : isTransition oldStatus newStatus) :
    ∃ l, EventLoop.Turns Node.exec
        ⟨n, before ++ .setResult c result stamp :: (behind ++ [.status oldStatus newStatus now])⟩ l ∧
      ¬ Current l.state := by
  have hupTo := @EventLoop.turns_append _ _ Node.exec n before
    (.setResult c result stamp :: (behind ++ [.status oldStatus newStatus now]))
  have hstill : ∀ h ∈ (EventLoop.execAll Node.exec n before).2,
      ∀ last, lastTransition last h = last :=
    EventLoop.execAll_new (fun n a _ h hh last => exec_still n a last h hh) n
  generalize EventLoop.execAll Node.exec n before = s at hupTo hstill
  obtain ⟨n₁, new₁⟩ := s
  -- the result is set, and what is ready then is run
  have hset : EventLoop.turn Node.exec
      ⟨n₁, .setResult c result stamp :: (behind ++ [.status oldStatus newStatus now]) ++ new₁⟩ =
        some ⟨n₁, behind ++ [.status oldStatus newStatus now] ++ new₁ ++
          [.resume c result stamp]⟩ := rfl
  have hrun := @EventLoop.turns_append _ _ Node.exec n₁
    (behind ++ [.status oldStatus newStatus now] ++ new₁) [.resume c result stamp]
  have hlast : (EventLoop.execAll Node.exec n₁
      (behind ++ [.status oldStatus newStatus now] ++ new₁)).1.transition = some now := by
    rw [@EventLoop.execAll_view _ _ _ _ Node.transition _ exec_transition, List.foldl_append,
      EventLoop.foldl_of_still (fun h hh => hstill h hh _), List.foldl_append]
    exact if_pos ht
  generalize EventLoop.execAll Node.exec n₁
    (behind ++ [.status oldStatus newStatus now] ++ new₁) = s at hrun hlast
  obtain ⟨n₂, new₂⟩ := s
  -- the coroutine stores what it was sent
  have hresume : EventLoop.turn Node.exec ⟨n₂, .resume c result stamp :: new₂⟩ =
      some ⟨(n₂.resume c result stamp).1, new₂ ++ (n₂.resume c result stamp).2⟩ := rfl
  refine ⟨_, ((hupTo.tail hset).trans hrun).tail hresume, ?_⟩
  intro hcurrent
  rcases resume_cases n₂ c result stamp with ⟨hno, _⟩ | ⟨_, info, hs⟩
  · rw [hu] at hno
    cases hno
  · have hnewer := hcurrent ⟨info, stamp⟩ hs.info now (hs.transition.trans hlast)
    exact absurd hnewer (Nat.not_lt.mpr (Nat.le_of_lt hlt))

/-- A report that is not prompt overtakes a result. -/
theorem not_prompt_cases {l : NodeLoop} {a : NodeAct} (h : ¬ Prompt l a) :
    ∃ oldStatus newStatus before c result stamp behind,
      a = .report l.state.id oldStatus newStatus ∧ isTransition oldStatus newStatus ∧
      l.ready = before ++ .setResult c result stamp :: behind ∧ usable result = true := by
  cases a with
  | report nodeId oldStatus newStatus =>
      unfold Prompt at h
      obtain ⟨hid, hreported⟩ := Classical.not_imp.mp h
      obtain ⟨ht, hany⟩ := Classical.not_imp.mp hreported
      obtain ⟨b, hb, hpending⟩ := List.any_eq_true.mp (Bool.of_not_eq_false hany)
      subst hid
      obtain ⟨before, behind, hready⟩ := List.append_of_mem hb
      cases b with
      | setResult c result stamp =>
          exact ⟨oldStatus, newStatus, before, c, result, stamp, behind, rfl, ht, hready, hpending⟩
      | _ => cases hpending
  | _ => exact absurd trivial h

/--
**Cached node info.**

In every run in which no transition is reported while a usable result is still to be set, the info
that is cached is always from a response received after the last transition the node has processed,
and so is each one that let an access through. Each report of such a transition leads to a state in
which it is not.
-/
theorem info_current (l : NodeLoop) :
    (Transition.Reaches NodeLoop.step Prompt NodeLoop.Initial l →
      Current l.state ∧ Checked l.state) ∧
    ∀ a l', NodeReachable l → ¬ Prompt l a → l.step a = some l' →
      ∃ l'', Transition.Reaches NodeLoop.step Transition.free (· = l') l'' ∧ ¬ Current l''.state := by
  constructor
  · intro h
    have hsound : CacheSound l := Transition.Reaches.invariant (fun _ hl => cacheSound_init hl)
      (fun _ _ _ _ hg hp hs => hp.step hg hs) h
    exact ⟨hsound.current, hsound.checked⟩
  · intro a l' h hg hs
    obtain ⟨oldStatus, newStatus, before, c, result, stamp, behind, rfl, ht, hready, hu⟩ :=
      not_prompt_cases hg
    obtain ⟨n, ready⟩ := l
    have hlt : stamp < n.clock := stamped_reachable h c result stamp (by rw [hready]; simp)
    cases step_stepped hs with
    | reported _ _ =>
        subst hready
        obtain ⟨l'', hturns, hstale⟩ := overtaken_stale (n := { n with clock := n.clock + 1 }) before
          behind c hu hlt ht
        refine ⟨l'', turns_reach ?_, hstale⟩
        rw [List.append_assoc, List.cons_append]
        exact hturns
    | unheard _ _ hne => exact absurd rfl hne

/-! ## Runs of node 7 -/

theorem exists_nodeRun (guard : NodeLoop → NodeAct → Prop) [∀ l a, Decidable (guard l a)]
    (acts : List NodeAct) (p : NodeLoop → Bool)
    (h : (Transition.run NodeLoop.step guard ⟨Node.init 7, []⟩ acts).any p = true) :
    ∃ l, Transition.Reaches NodeLoop.step guard NodeLoop.Initial l ∧ p l = true := by
  obtain ⟨l, hrun, hp⟩ := (Option.any_eq_true _ _).mp h
  exact ⟨l, Transition.Reaches.run (.init ⟨7, rfl⟩) hrun, hp⟩

/-- A node named "6010". -/
def sentInfo : WlmioNodeInfo :=
  { WlmioNodeInfo.zero with
    name := [54#8, 48#8, 49#8, 48#8] ++ List.replicate 47 0#8
    name_length := rfl }

/-- The same in the cache. -/
def cachedInfo (stamp : Nat) : Cached :=
  ⟨⟨⟨0, 0⟩, ⟨0, 0⟩, ⟨0, 0⟩, 0, List.replicate 16 0#8, "6010", 0, none⟩, stamp⟩

def application : Coroutine := ⟨0, none⟩
def checkedRead : Coroutine := ⟨1, some "6010"⟩

/-- The node has restarted. -/
def restarted : NodeAct := .report 7 ⟨5, 0, 0, 0⟩ ⟨0, 0, 0, 0⟩

theorem info_current_restarted : ∃ l : NodeLoop, l.state.info = some (cachedInfo 2) ∧
    l.state.transition = some 1 ∧ (Current l.state ∧ Checked l.state) ∧
    ∃ l₁ l₂ l₃ : NodeLoop, l₁.step restarted = some l₂ ∧
      Transition.Reaches NodeLoop.step Transition.free (· = l₂) l₃ ∧ ¬ Current l₃.state := by
  obtain ⟨l, hreach, hl⟩ := exists_nodeRun Prompt
    [.call application, .complete application 0 sentInfo, .turn, .turn, restarted, .turn,
      .call checkedRead, .complete checkedRead 0 sentInfo, .turn, .turn]
    (fun l : NodeLoop => decide (l.state.info = some (cachedInfo 2)) &&
      decide (l.state.transition = some 1))
    (by decide +kernel)
  obtain ⟨hinfo, htransition⟩ := (Bool.and_eq_true _ _).mp hl
  obtain ⟨l₁, hreach₁, hl₁⟩ := exists_nodeRun Transition.free
    [.call application, .complete application 0 sentInfo]
    (fun l : NodeLoop => decide (¬ Prompt l restarted) && (l.step restarted).isSome)
    (by decide +kernel)
  obtain ⟨hlate, hsome⟩ := (Bool.and_eq_true _ _).mp hl₁
  obtain ⟨l₂, hl₂⟩ := Option.isSome_iff_exists.mp hsome
  obtain ⟨l₃, hreach₃, hstale⟩ :=
    (info_current l₁).2 restarted l₂ hreach₁ (of_decide_eq_true hlate) hl₂
  exact ⟨l, of_decide_eq_true hinfo, of_decide_eq_true htransition, (info_current l).1 hreach,
    l₁, l₂, l₃, hl₂, hreach₃, hstale⟩

/-- **The name of before the restart lets an access through**: the response and the heartbeat of the
restart come one after the other, and then the loop runs. -/
theorem info_stale : ∃ l, NodeReachable l ∧ ¬ Current l.state ∧ ¬ Checked l.state := by
  obtain ⟨l, hreach, hl⟩ := exists_nodeRun Transition.free
    [.call application, .complete application 0 sentInfo, restarted, .turn, .turn, .turn,
      .call checkedRead]
    (fun l : NodeLoop => decide (l.state.info = some (cachedInfo 0)) &&
      decide (l.state.transition = some 1) &&
      decide (.passed checkedRead (cachedInfo 0) (some 1) ∈ l.state.trace)) (by decide +kernel)
  obtain ⟨hstate, hpassed⟩ := (Bool.and_eq_true _ _).mp hl
  obtain ⟨hinfo, htransition⟩ := (Bool.and_eq_true _ _).mp hstate
  refine ⟨l, hreach, ?_, ?_⟩
  · intro hcurrent
    exact absurd (hcurrent _ (of_decide_eq_true hinfo) 1 (of_decide_eq_true htransition)) (by decide)
  · intro hchecked
    exact absurd (hchecked _ _ _ (of_decide_eq_true hpassed) 1 rfl) (by decide)

end Wlmio.Proof
