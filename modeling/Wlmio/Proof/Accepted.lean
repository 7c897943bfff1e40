import Wlmio.Proof.Registry
import Wlmio.Proof.RegisterRequest
import Wlmio.Proof.Scenario

/-!
# Accepted requests

A request function that returns 0 should have registered a task whose timer runs, for as
long as the configured timeout. None of the four looks at what `async_add` returns, and a
timeout of 0 disarms the timer that it is to arm; `accepted_iff` says when the functions
keep their promise all the same.
-/

namespace Wlmio.Proof

open Wlmio.Client Wlmio.Canard

/-! ## Timers -/

/-- The timer expires after exactly `timeout` microseconds. -/
structure Armed (it : Itimerspec) (timeout : BitVec 64) : Prop where
  armed : it ≠ .disarmed
  nsec_lt : it.tvNsec < 1000000000
  exact : it.tvSec * 1000000000 + it.tvNsec = timeout.toNat * 1000

/-- **Every timeout is split without a loss; only 0 disarms the timer.** -/
theorem timeoutSpec_armed {timeout : BitVec 64} :
    Armed (Registry.timeoutSpec timeout) timeout ↔ timeout.toNat ≠ 0 := by
  constructor
  · intro h hzero
    refine h.armed ?_
    unfold Registry.timeoutSpec
    rw [hzero]
    rfl
  · intro hpos
    constructor
    · intro heq
      unfold Registry.timeoutSpec Itimerspec.disarmed at heq
      obtain ⟨hsec, hnsec⟩ := Itimerspec.mk.inj heq
      omega
    · unfold Registry.timeoutSpec
      dsimp only
      omega
    · unfold Registry.timeoutSpec
      dsimp only
      omega

/-! ## `epollfd` stays open -/

variable {ok : Registry → Int → Prop}

theorem epollfd_effect {s s' : Registry × Bus} (h : 0 ≤ s.1.epollfd) (he : Effect ok s s') :
    0 ≤ s'.1.epollfd := by
  cases he with
  | registered _ _ _ _ => exact h
  | unregistered _ => exact h
  | removed _ _ => exact h
  | beat _ hb => exact (heartbeat_edit hb).epollfd.symm ▸ h
  | expired _ _ _ hx => exact (timeout_edit hx).epollfd.symm ▸ h
  | sent _ => exact h
  | received _ => exact h

theorem epollfd_reachable {guard : World → Act → Prop} {w : World} (h : ReachableBy guard w) :
    0 ≤ w.registry.epollfd :=
  reachable_core anyFd (P := fun s => 0 ≤ s.1.epollfd) (fun _ _ _ _ _ => trivial)
    (fun _ hf => hf.epollfd) (fun _ _ hg he => epollfd_effect hg he) h

/-! ## What 0 should mean -/

/-- `t` is the one new task, it was made for the call from `w`, and its timer runs. -/
structure PendingFor (w w' : World) (callback : Option Callback) (t : TaskEntry) : Prop where
  head : w'.registry.head = w.registry.head ++ [t]
  serial : t.serial = w.bus.issued.length
  callback : callback = some t.callback
  timer : ∃ e ∈ w'.registry.fdEntries, e.addr = t.timer ∧ e.handler = .asyncHandler ∧ 0 ≤ e.fd ∧
    Armed (w'.registry.itimers e.fd) w.timeout

/-- The call returns, with 0 and a pending task, or with a negative value and nothing new. -/
def Truthful (w : World) (callback : Option Callback) : Except Fault (World × Int) → Prop
  | .error _ => False
  | .ok (w', r) => (r = 0 ∧ ∃ t, PendingFor w w' callback t) ∨
      (r < 0 ∧ w'.registry.head = w.registry.head)

/-- All that `async_add` needs, and a timeout that arms. -/
def Registrable (w : World) (callback : Option Callback) (os : Os) : Prop :=
  callback ≠ none ∧ w.timeout.toNat ≠ 0 ∧ Granted w.registry os

theorem asyncAdd_granted {r : Registry} {id serial : Nat} {timeout : BitVec 64} {param : Param}
    {cb : Callback} {os : Os} (he : 0 ≤ r.epollfd) (hg : Granted r os) :
    r.asyncAdd id timeout param (some cb) serial os =
      .ok (withTask r (r.newFd os.timerfdCreate) (Registry.timeoutSpec timeout) id param cb serial,
        0) := by
  obtain ⟨hentry, hfd, hset, hadd⟩ := hg
  unfold Registry.asyncAdd
  rw [if_neg (by omega)]
  dsimp only
  rw [if_neg (by simp [hentry]), if_neg (by omega), if_neg (by simp [hset])]
  unfold Registry.fdEntryAdd
  rw [if_pos hadd]
  rfl

theorem submit_granted {w : World} {service : Service} {nodeId : Nat} {payload : List Byte}
    {param : Param} {cb : Callback} {os : Os} (he : 0 ≤ w.registry.epollfd)
    (hg : Granted w.registry os) :
    submit w service nodeId payload param (some cb) os = .ok { w with
      bus := busAfter w service nodeId payload os
      registry := taskAfter w service nodeId payload param cb os
      trace := .accepted w.bus.issued.length w.registry.next (w.registry.next + 1) :: w.trace } := by
  unfold submit registerTask
  dsimp only
  rw [asyncAdd_granted he hg]
  rfl

/-- The timer of the task of a request. -/
theorem taskAfter_timer {w : World} (h : Good w.registry) {service : Service} {nodeId : Nat}
    {payload : List Byte} {param : Param} {cb : Callback} {os : Os} {e : FdEntry}
    (he : e ∈ (taskAfter w service nodeId payload param cb os).fdEntries)
    (haddr : e.addr = w.registry.next + 1) :
    (taskAfter w service nodeId payload param cb os).itimers e.fd =
      Registry.timeoutSpec w.timeout := by
  rcases List.mem_append.mp he with he | he
  · have hlt := h.entry_lt e he
    omega
  · obtain rfl := List.mem_singleton.mp he
    exact Function.update_self _ _ _

/-- **A request that is submitted is truthful exactly when it can be registered.** -/
theorem submit_truthful_iff {w : World} (hgood : Good w.registry) (hepoll : 0 ≤ w.registry.epollfd)
    {service : Service} {nodeId : Nat} {payload : List Byte} {param : Param}
    {callback : Option Callback} {os : Os} :
    Truthful w callback (submit w service nodeId payload param callback os >>=
      fun w => .ok (w, (0 : Int))) ↔ Registrable w callback os := by
  constructor
  · intro h
    cases hs : submit w service nodeId payload param callback os with
    | error f =>
        rw [hs] at h
        exact h.elim
    | ok w' =>
        rw [hs] at h
        rcases h with ⟨_, t, ht⟩ | ⟨hr, _⟩
        · obtain ⟨cb, hcb, ⟨hg, rfl⟩ | ⟨_, rfl⟩⟩ := submit_cases hs
          · refine ⟨by rw [hcb]; simp, ?_, hg⟩
            -- the task that was added is the one `async_add` registers
            have htask := List.append_cancel_left ht.head
            obtain rfl := List.head_eq_of_cons_eq htask
            obtain ⟨e, he, haddr, _, _, harmed⟩ := ht.timer
            have hspec := taskAfter_timer hgood he haddr
            rw [← timeoutSpec_armed, ← hspec]
            exact harmed
          · -- nothing was registered, although the request reports success
            have hlen := congrArg List.length ht.head
            rw [List.length_append, List.length_singleton] at hlen
            dsimp only at hlen
            omega
        · omega
  · rintro ⟨hcb, htime, hg⟩
    obtain ⟨cb, rfl⟩ := Option.ne_none_iff_exists'.mp hcb
    rw [submit_granted hepoll hg]
    refine .inl ⟨rfl, _, rfl, rfl, rfl, ?_⟩
    refine ⟨_, List.mem_append_right _ (List.mem_singleton.mpr rfl), rfl, rfl, hg.2.1, ?_⟩
    have hspec : (taskAfter w service nodeId payload param cb os).itimers
        (w.registry.newFd os.timerfdCreate) = Registry.timeoutSpec w.timeout :=
      Function.update_self _ _ _
    show Armed ((taskAfter w service nodeId payload param cb os).itimers
      (w.registry.newFd os.timerfdCreate)) w.timeout
    rw [hspec]
    exact timeoutSpec_armed.mpr htime

/-! ## The four request functions -/

/-- A call of one of the four request functions. -/
inductive RequestCall where
  | getNodeInfo (nodeId : BitVec 8) (nodeInfo : Option Nat)
  | registerList (nodeId : BitVec 8) (index : BitVec 16) (name : Option Nat)
  | registerAccess (nodeId : BitVec 8) (name : Option (List Byte))
      (regw : Option WlmioRegisterAccess) (regr : Param)
  | executeCommand (nodeId : BitVec 8) (command : BitVec 16) (param : Option (List Byte))
      (paramLen : Nat)

namespace RequestCall

def run (q : RequestCall) (w : World) (callback : Option Callback) (os : Os) :
    Except Fault (World × Int) :=
  match q with
  | getNodeInfo n nodeInfo => wlmioGetNodeInfo w n nodeInfo callback os
  | registerList n index name => wlmioRegisterList w n index name callback os
  | registerAccess n name regw regr => wlmioRegisterAccess w n name regw regr callback os
  | executeCommand n command param paramLen =>
    wlmioExecuteCommand w n command param paramLen callback os

/-- The function refuses the call by itself. -/
def Refused (q : RequestCall) (callback : Option Callback) (os : Os) : Prop :=
  match q with
  | getNodeInfo n nodeInfo => nodeInfo = none ∨ CANARD_NODE_ID_MAX < n.toNat ∨ callback = none
  | registerList n _ name => name = none ∨ CANARD_NODE_ID_MAX < n.toNat
  | registerAccess n name regw regr => RefusedAccess n name regw regr
  | executeCommand n _ param paramLen =>
    CANARD_NODE_ID_MAX < n.toNat ∨ (param = none ∧ 0 < paramLen) ∨ os.payloadMalloc = false

/-- The function has what it needs to build the payload: memory, and the parameter the caller
says there is. -/
def Supplied (q : RequestCall) (os : Os) : Prop :=
  match q with
  | registerAccess .. => os.payloadMalloc = true
  | executeCommand _ _ param paramLen => min paramLen 112 ≤ (param.getD []).length
  | _ => True

end RequestCall

theorem truthful_refusal {w : World} {callback : Option Callback} {r : Int} (hr : r < 0) :
    Truthful w callback (.ok (w, r)) := .inr ⟨hr, rfl⟩

section

variable {w : World} {callback : Option Callback} {os : Os}

theorem getNodeInfo_truthful_iff (hgood : Good w.registry) (hepoll : 0 ≤ w.registry.epollfd)
    (n : BitVec 8) (nodeInfo : Option Nat) :
    Truthful w callback (wlmioGetNodeInfo w n nodeInfo callback os) ↔
      (nodeInfo = none ∨ CANARD_NODE_ID_MAX < n.toNat ∨ callback = none) ∨
        Registrable w callback os := by
  unfold wlmioGetNodeInfo
  cases nodeInfo with
  | none => exact iff_of_true (truthful_refusal einval_neg) (.inl (.inl rfl))
  | some buffer =>
      dsimp only
      split
      · rename_i hr
        exact iff_of_true (truthful_refusal einval_neg) (.inl (.inr hr))
      · rename_i hr
        refine (submit_truthful_iff hgood hepoll).trans ⟨.inr, fun h => h.resolve_left ?_⟩
        exact fun hn => hr (hn.resolve_left (by simp))

theorem registerList_truthful_iff (hgood : Good w.registry) (hepoll : 0 ≤ w.registry.epollfd)
    (n : BitVec 8) (index : BitVec 16) (name : Option Nat) :
    Truthful w callback (wlmioRegisterList w n index name callback os) ↔
      (name = none ∨ CANARD_NODE_ID_MAX < n.toNat) ∨ Registrable w callback os := by
  unfold wlmioRegisterList
  cases name with
  | none => exact iff_of_true (truthful_refusal einval_neg) (.inl (.inl rfl))
  | some buffer =>
      dsimp only
      split
      · rename_i hr
        exact iff_of_true (truthful_refusal einval_neg) (.inl (.inr hr))
      · rename_i hr
        refine (submit_truthful_iff hgood hepoll).trans ⟨.inr, fun h => h.resolve_left ?_⟩
        exact fun hn => hr (hn.resolve_left (by simp))

/-- What is left of an access that is not refused. -/
theorem registerAccess_passed {n : BitVec 8} {name : Option (List Byte)}
    {regw : Option WlmioRegisterAccess} {regr : Param} (w : World) (callback : Option Callback)
    (os : Os) (h : ¬ RefusedAccess n name regw regr) :
    ∃ payload, wlmioRegisterAccess w n name regw regr callback os =
      if os.payloadMalloc then
        submit w .registerAccess n.toNat payload regr callback os >>= fun w => .ok (w, (0 : Int))
      else .error .nullDereference := by
  cases name with
  | none => exact absurd (.inr (.inl (by simp))) h
  | some s =>
      have hvalid : ∀ reg ∈ regw, validateRegisterAccess reg = 0 := by
        intro reg hreg
        by_contra hne
        exact h (.inr (.inr (.inr ⟨reg, hreg, hne⟩)))
      refine ⟨requestName s ++ requestRegister regw, ?_⟩
      unfold wlmioRegisterAccess
      dsimp only
      rw [if_neg (fun hr => h (refusedAccess_iff.mpr hr)), registerAccessPayload_ok s hvalid]
      cases os.payloadMalloc with
      | false => rfl
      | true => rfl

theorem registerAccess_truthful_iff (hgood : Good w.registry) (hepoll : 0 ≤ w.registry.epollfd)
    (n : BitVec 8) (name : Option (List Byte)) (regw : Option WlmioRegisterAccess) (regr : Param) :
    Truthful w callback (wlmioRegisterAccess w n name regw regr callback os) ↔
      RefusedAccess n name regw regr ∨ os.payloadMalloc = true ∧ Registrable w callback os := by
  by_cases hr : RefusedAccess n name regw regr
  · rw [registerAccess_refused hr]
    exact iff_of_true (truthful_refusal einval_neg) (.inl hr)
  obtain ⟨payload, heq⟩ := registerAccess_passed w callback os hr
  rw [heq]
  by_cases hm : os.payloadMalloc = true
  · rw [if_pos hm]
    refine (submit_truthful_iff hgood hepoll).trans ⟨fun h => .inr ⟨hm, h⟩, ?_⟩
    exact fun h => (h.resolve_left hr).2
  · rw [if_neg hm]
    refine iff_of_false (fun h => h) ?_
    rintro (h | ⟨h, _⟩)
    · exact hr h
    · exact hm h

theorem executeCommand_truthful_iff (hgood : Good w.registry) (hepoll : 0 ≤ w.registry.epollfd)
    (n : BitVec 8) (command : BitVec 16) (param : Option (List Byte)) (paramLen : Nat) :
    Truthful w callback (wlmioExecuteCommand w n command param paramLen callback os) ↔
      (CANARD_NODE_ID_MAX < n.toNat ∨ (param = none ∧ 0 < paramLen) ∨ os.payloadMalloc = false) ∨
        min paramLen 112 ≤ (param.getD []).length ∧ Registrable w callback os := by
  have hcut : (if 112 < paramLen then 112 else paramLen) = min paramLen 112 := by
    split <;> omega
  unfold wlmioExecuteCommand
  split
  · rename_i hr
    refine iff_of_true (truthful_refusal einval_neg) (.inl ?_)
    exact hr.elim .inl (fun h => .inr (.inl h))
  rename_i hr
  obtain ⟨hnode, hparam⟩ := not_or.mp hr
  split
  · rename_i hm
    refine iff_of_true (truthful_refusal (by decide)) (.inl (.inr (.inr (by simpa using hm))))
  rename_i hm
  have hmalloc : os.payloadMalloc = true := by simpa using hm
  have hno : ¬ (CANARD_NODE_ID_MAX < n.toNat ∨ (param = none ∧ 0 < paramLen) ∨
      os.payloadMalloc = false) := by
    rintro (h | h | h)
    · exact hnode h
    · exact hparam h
    · rw [hmalloc] at h
      cases h
  unfold executeCommandPayload
  dsimp only
  rw [hcut]
  -- with too little parameter the copy leaves the buffer of the caller
  by_cases hlen : min paramLen 112 ≤ (param.getD []).length
  · rw [if_pos hlen]
    refine (submit_truthful_iff hgood hepoll).trans ⟨fun h => .inr ⟨hlen, h⟩, ?_⟩
    exact fun h => (h.resolve_left hno).2
  · rw [if_neg hlen]
    refine iff_of_false (fun h => h) ?_
    rintro (h | ⟨h, _⟩)
    · exact hno h
    · exact hlen h

end

/-- **What a request function returns is true exactly when** it refuses the call by itself, or the
payload can be built, there is a callback, the timeout is not 0 and the system grants all that
`async_add` asks for. -/
theorem accepted_iff {w : World} (h : Reachable w) (q : RequestCall) (callback : Option Callback)
    (os : Os) :
    Truthful w callback (q.run w callback os) ↔
      q.Refused callback os ∨ (q.Supplied os ∧ Registrable w callback os) := by
  have hgood := good_reachable h
  have hepoll := epollfd_reachable h
  cases q with
  | getNodeInfo n nodeInfo =>
      rw [RequestCall.Supplied, true_and]
      · exact getNodeInfo_truthful_iff hgood hepoll n nodeInfo
      all_goals simp
  | registerList n index name =>
      rw [RequestCall.Supplied, true_and]
      · exact registerList_truthful_iff hgood hepoll n index name
      all_goals simp
  | registerAccess n name regw regr => exact registerAccess_truthful_iff hgood hepoll n name regw regr
  | executeCommand n command param paramLen =>
      exact executeCommand_truthful_iff hgood hepoll n command param paramLen

/-- With everything granted, a command is accepted. -/
theorem accepted_command : Truthful started (some (.caller (.user 0)))
    ((RequestCall.executeCommand 7 65533 none 0).run started (some (.caller (.user 0)))
      (grantFrom 5 0)) :=
  (accepted_iff (.init initial_started) _ _ _).mpr
    (.inr ⟨Nat.zero_le _, by simp, by decide, rfl, by decide, rfl, rfl⟩)

/-- **A request without a timer is accepted**, although it has no task and is never completed. -/
theorem accepted_without_task : ∃ w',
    wlmioExecuteCommand started 7 65533 none 0 (some (.caller (.user 0)))
      { grantFrom 5 0 with timerfdCreate := -1 } = .ok (w', 0) ∧ w'.registry.head = [] :=
  ⟨_, rfl, rfl⟩

end Wlmio.Proof
