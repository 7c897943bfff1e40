import Mathlib.Logic.Relation
import Wlmio.Proof.Acts

/-!
# Effects on the registry and the bus

Most invariants speak of the registry and the bus only, and there are few ways in which
these change: a request adds a task or fails to, a completed task goes, a heartbeat or
its absence moves the timer of a node, frames leave or arrive. `Effect` is that list. A
step of the machine is a sequence of effects, often an empty one, so an invariant needs
to be checked against each effect only.
-/

namespace Wlmio.Proof

open Wlmio.Client Wlmio.Canard

/-- The registry and the bus. -/
def core (w : World) : Registry × Bus := (w.registry, w.bus)

/-- The bus after a request to a node. -/
def pushed (r : Registry) (b : Bus) (service : Service) (nodeId : Nat) (payload : List Byte)
    (os : Os) : Bus :=
  (b.pushRequest r.head service (requestTransfer b service nodeId payload) os.txRoom).uavcanSend
    os.sends

/-- The specifier of the response to the next request to a node. -/
def nextSpecifier (b : Bus) (service : Service) (nodeId : Nat) (payload : List Byte) : Nat :=
  makeRspSpecifier (requestTransfer b service nodeId payload)

/-- One change of the registry and the bus. `ok` is what is assumed of the descriptors handed out
to heartbeats. -/
inductive Effect (ok : Registry → Int → Prop) : Registry × Bus → Registry × Bus → Prop
  /-- A request whose task is registered. -/
  | registered {r : Registry} {b : Bus} {service : Service} {nodeId : Nat} {payload : List Byte}
      {param : Param} {cb : Callback} {os : Os} (timeout : BitVec 64) :
      nodeId ≤ CANARD_NODE_ID_MAX → Fits service param → Granted r os →
      Effect ok (r, b)
        (withTask r (r.newFd os.timerfdCreate) (Registry.timeoutSpec timeout)
            (nextSpecifier b service nodeId payload) param cb b.issued.length,
          pushed r b service nodeId payload os)
  /-- A request that is sent although its task could not be registered. -/
  | unregistered {r : Registry} {b : Bus} {service : Service} {nodeId : Nat} {payload : List Byte}
      {os : Os} :
      nodeId ≤ CANARD_NODE_ID_MAX → Effect ok (r, b) (r, pushed r b service nodeId payload os)
  | removed {r : Registry} {b : Bus} {t : TaskEntry} {e : FdEntry} :
      r.taskAt t.addr = some t → r.fdEntryAt t.timer = some e →
      Effect ok (r, b) (withoutTask r t e, b)
  | beat {r r' : Registry} {b : Bus} {node : Nat} {payload : List Byte} {pick : Int}
      {malloc : Bool} {old : Option WlmioStatus} :
      ok r pick → r.heartbeatHandler node payload pick malloc = .ok (r', old) →
      Effect ok (r, b) (r', b)
  | expired {r r' : Registry} {b : Bus} {e : FdEntry} {node : Nat} {old : WlmioStatus} :
      r.fdEntryAt e.addr = some e → 0 ≤ e.fd → e.handler = .heartbeatTimeoutHandler →
      r.heartbeatTimeoutHandler e = .ok (r', node, old) → Effect ok (r, b) (r', b)
  | sent {r : Registry} {b : Bus} (sends : Nat) : Effect ok (r, b) (r, b.uavcanSend sends)
  | received {r : Registry} {b : Bus} {canard : CanardInstance} :
      SameTx b.canard canard → Effect ok (r, b) (r, { b with canard := canard })

abbrev Effects (ok : Registry → Int → Prop) := Relation.ReflTransGen (Effect ok)

/-- No assumption about descriptors. -/
def anyFd : Registry → Int → Prop := fun _ _ => True

variable {ok : Registry → Int → Prop}

theorem effects_of_eq {w w' : World} (hr : w'.registry = w.registry) (hb : w'.bus = w.bus) :
    Effects ok (core w) (core w') := by
  have h : core w' = core w := by unfold core; rw [hr, hb]
  rw [h]

/-! ## Requests -/

theorem submit_effects {w w' : World} {service : Service} {nodeId : Nat} {payload : List Byte}
    {param : Param} {callback : Option Callback} {os : Os} (hn : nodeId ≤ CANARD_NODE_ID_MAX)
    (hfit : Fits service param)
    (h : submit w service nodeId payload param callback os = .ok w') :
    Effects ok (core w) (core w') := by
  obtain ⟨cb, _, ⟨hg, rfl⟩ | ⟨_, rfl⟩⟩ := submit_cases h
  · exact .single (.registered w.timeout hn hfit hg)
  · exact .single (.unregistered hn)

theorem fits_record (p : Nat) : Fits .registerAccess (.record p) := trivial

theorem fits_null : Fits .registerAccess .null := trivial

theorem made_effects {w w' : World} {c : Option Caller} {r : Int} (h : Made w c w' r) :
    Effects ok (core w) (core w') := by
  cases h with
  | refused _ => exact .refl
  | withdrawn t _ hfree =>
      rw [(freeRecord_cases hfree).2]
      exact .refl
  | direct _ _ hn hfit _ hs => exact submit_effects hn hfit hs
  | held _ _ hn _ _ hs =>
      exact submit_effects (w := addRecord w _) hn (fits_record _) hs
  | @counted w₁ w₂ w' _ _ _ _ _ hn h₁ h₂ h₃ =>
      have e₁ : Effects ok (core w) (core w₁) :=
        submit_effects (w := addRecord w _) hn fits_null h₁
      have e₂ : Effects ok (core w₁) (core w₂) := submit_effects hn fits_null h₂
      have e₃ : Effects ok (core w₂) (core w') := submit_effects hn fits_null h₃
      exact (e₁.trans e₂).trans e₃

/-! ## Completions -/

theorem Released.core {w w' : World} {record : Option Nat} (h : Released w w' record) :
    w'.registry = w.registry ∧ w'.bus = w.bus := by
  rcases h with ⟨_, rfl⟩ | ⟨p, _, _, rfl⟩
  · exact ⟨rfl, rfl⟩
  · exact ⟨rfl, rfl⟩

theorem finishCompletion_effects {w w' : World} {task : Nat} {record : Option Nat}
    (h : finishCompletion w task record = .ok w') : Effects ok (core w) (core w') := by
  obtain ⟨w₁, hrel, ⟨_, rfl⟩ | ⟨t, e, ht, he, rfl⟩⟩ := finishCompletion_cases h
  · exact effects_of_eq hrel.core.1 hrel.core.2
  · have haddr := (taskAt_mem ht).2
    have hcore : core { w₁ with
        registry := withoutTask w.registry t e
        trace := .taskFreed task :: .entryFreed t.timer :: w₁.trace } =
        (withoutTask w.registry t e, w.bus) := by
      unfold core
      rw [hrel.core.2]
    rw [hcore]
    exact .single (.removed (haddr ▸ ht) he)

theorem complete_effects {w w' : World} {t : TaskEntry} {r : Int} {rest : Option Rest}
    (h : complete w t r = .ok (w', rest)) : Effects ok (core w) (core w') := by
  obtain ⟨w₁, user, record, hcall, ⟨_, _, rfl⟩ | ⟨_, _, hfin⟩⟩ := complete_cases h
  · exact effects_of_eq hcall.frame.registry hcall.frame.bus
  · have h₁ : Effects ok (core w) (core w₁) :=
      effects_of_eq hcall.frame.registry hcall.frame.bus
    exact h₁.trans (finishCompletion_effects hfin)

theorem responded_effects {w w' : World} {tfr : CanardTransfer} {rest : Option Rest}
    (h : Responded w tfr w' rest) : Effects ok (core w) (core w') := by
  rcases h with ⟨_, rfl, _⟩ | ⟨t, w₁, r, _, hw, hc⟩
  · exact .refl
  · have h₁ : Effects ok (core w) (core w₁) :=
      effects_of_eq hw.frame.1.registry hw.frame.1.bus
    exact h₁.trans (complete_effects hc)

/-! ## Acts -/

theorem reportStatus_core {w w' : World} {node : Nat} {old : WlmioStatus} {rest : Option Rest}
    (h : reportStatus w node old = (w', rest)) : core w' = core w := by
  rcases reportStatus_cases h with ⟨_, rfl, _⟩ | ⟨_, rfl, _⟩
  · rfl
  · rfl

theorem freePayload_effects (w : World) (payload : Option Buffer) :
    Effects ok (core w) (core (freePayload w payload)) :=
  .single (.received ⟨rfl, rfl, rfl⟩)

theorem resume_effects (w : World) (rest : Option Rest) (payload : Option Buffer) :
    Effects ok (core w) (core (resume w rest payload)) := by
  cases rest with
  | none => exact freePayload_effects w payload
  | some rest => exact .refl

theorem withCanard_effects {w : World} {canard : CanardInstance}
    (h : SameTx w.bus.canard canard) : Effects ok (core w) (core (withCanard w canard)) :=
  .single (.received h)

/-- **The effects of an act.** -/
theorem did_effects {w w' : World} {a : Act}
    (hok : ∀ frame pick malloc, a = .receive frame pick malloc → ok w.registry pick)
    (h : Did w a w') : Effects ok (core w) (core w') := by
  cases h with
  | request _ hm => exact made_effects hm
  | syncRefused _ _ hm =>
      exact made_effects (w := { w with syncFlag := false, nextCall := w.nextCall + 1 }) hm
  | @syncEntered q os w₁ _ hm =>
      have h₁ : Effects ok (core w) (core w₁) :=
        made_effects (w := { w with syncFlag := false, nextCall := w.nextCall + 1 }) hm
      exact h₁
  | setTimeout _ => exact .refl
  | setStatusCallback _ => exact .refl
  | tick _ => exact .refl
  | taskExpired _ _ _ _ _ _ hc => exact (complete_effects hc).trans (resume_effects _ _ _)
  | @nodeExpired e r node addr old w₁ rest stack _ he hfd hh hexp hrep =>
      have haddr := (fdEntryAt_mem he).2
      have h₁ : Effects ok (core w) (core w₁) := by
        rw [reportStatus_core hrep]
        exact .single (.expired (haddr ▸ he) hfd hh hexp)
      exact h₁.trans (resume_effects _ _ _)
  | collected _ htx => exact withCanard_effects htx
  | ignored _ htx => exact (withCanard_effects htx).trans (resume_effects _ _ _)
  | @beat frame pick malloc canard tfr w₁ rest stack payload _ htx _ hbeat =>
      obtain ⟨r, old, hr, hrest⟩ := hbeat
      have hcore : core w₁ = (r, (withCanard w canard).bus) := by
        rcases hrest with ⟨_, rfl, _⟩ | ⟨o, _, hrep⟩
        · rfl
        · exact reportStatus_core hrep
      have h₁ : Effects ok (core (withCanard w canard)) (core w₁) := by
        rw [hcore]
        exact .single (.beat (hok _ _ _ rfl) hr)
      exact ((withCanard_effects htx).trans h₁).trans (resume_effects _ _ _)
  | response _ htx _ _ _ hr =>
      exact ((withCanard_effects htx).trans (responded_effects hr)).trans (resume_effects _ _ _)
  | idle _ => exact .single (.sent _)
  | syncReturned _ _ => exact .refl
  | looped _ _ => exact .refl
  | @completed task record payload stack w₁ _ hfin =>
      have h₁ : Effects ok (core w) (core w₁) :=
        finishCompletion_effects (w := { w with stack := stack }) hfin
      exact h₁.trans (freePayload_effects _ _)
  | reported _ => exact freePayload_effects _ _

theorem step_effects {w w' : World} {a : Act}
    (hok : ∀ frame pick malloc, a = .receive frame pick malloc → ok w.registry pick)
    (h : step w a = some w') : Effects ok (core w) (core w') := by
  rcases (step_cases h).2 with hd | ⟨f, _, rfl⟩
  · exact did_effects hok hd
  · exact .refl

/-! ## Initial states -/

/-- What `wlmio_init` leaves behind. -/
structure Fresh (w : World) : Prop where
  epollfd : 0 ≤ w.registry.epollfd
  canSock : 0 ≤ w.registry.canSock
  socket : w.registry.canSock ≠ w.registry.epollfd
  entries : w.registry.fdEntries = [⟨0, w.registry.canSock, .canSocketHandler⟩]
  head : w.registry.head = []
  next : w.registry.next = 1
  nodes : ∀ i, i ≤ CANARD_NODE_ID_MAX → w.registry.nodes i = .offline ∧ w.registry.timers i = -1
  nodeId : w.bus.canard.nodeId ≤ CANARD_NODE_ID_MAX
  mtu : w.bus.canard.mtuBytes = CANARD_MTU_CAN_FD
  queue : w.bus.canard.txQueue = []
  ids : ∀ service node, w.bus.tfrIds service node = 0
  sent : w.bus.sent = []
  issued : w.bus.issued = []
  records : w.records = []
  nextRecord : w.nextRecord = 0
  nextCall : w.nextCall = 0
  stack : w.stack = []
  trace : w.trace = []
  fault : w.fault = none

/-- The registry after `wlmio_init` has opened these descriptors. -/
def reopened (r : Registry) (epollfd canSock : Int) : Registry :=
  initNodes { r with
    epollfd := epollfd
    canSock := canSock
    fdEntries := r.fdEntries ++ [⟨r.next, canSock, .canSocketHandler⟩]
    next := r.next + 1 }

/-- The transport instance after `wlmio_init`. -/
def reinstated (memory : Memory) (nodeId : BitVec 7) : CanardInstance :=
  subscribe { canardInit memory with mtuBytes := CANARD_MTU_CAN_FD, nodeId := nodeId.toNat }

/-- **What a `wlmio_init` that returns 0 does.** -/
theorem wlmioInit_cases {w w' : World} {os : InitOs} (h : wlmioInit w os = .ok (w', 0)) :
    ∃ nodeId epollfd canSock, 0 ≤ epollfd ∧ 0 ≤ canSock ∧ canSock ≠ epollfd ∧
      w' = { w with
        bus := { w.bus with canard := reinstated w.bus.canard.memory nodeId }
        registry := reopened w.registry epollfd canSock } := by
  unfold wlmioInit at h
  cases hg : os.gpio with
  | none =>
      rw [hg] at h
      dsimp only at h
      have := (Prod.mk.inj (Except.ok.inj h)).2
      omega
  | some nodeId =>
      rw [hg] at h
      dsimp only at h
      split at h
      · have := (Prod.mk.inj (Except.ok.inj h)).2
        omega
      rename_i hepoll
      obtain ⟨⟨r, s⟩, hs, h⟩ := Fallible.bind_eq_ok.mp h
      obtain ⟨rfl, hzero⟩ := Prod.mk.inj (Except.ok.inj h)
      -- without a socket the result is -1
      have hs0 : 0 ≤ s := by
        by_contra hn
        rw [if_pos (by omega)] at hzero
        omega
      unfold canSocketInit at hs
      dsimp only at hs
      split at hs
      · have := (Prod.mk.inj (Except.ok.inj hs)).2
        omega
      obtain ⟨⟨r₁, a⟩, hadd, hs⟩ := Fallible.bind_eq_ok.mp hs
      obtain ⟨rfl, rfl⟩ := Prod.mk.inj (Except.ok.inj hs)
      unfold Registry.fdEntryAdd at hadd
      split at hadd
      · obtain ⟨rfl, rfl⟩ := Prod.mk.inj (Except.ok.inj hadd)
        refine ⟨nodeId, _, _, Int.not_lt.mp hepoll, hs0, fun heq => ?_, rfl⟩
        exact newFd_fresh hs0 (List.mem_cons.mpr (.inl heq))
      · cases hadd

theorem fresh_of_initial {w : World} (h : Initial w) : Fresh w := by
  obtain ⟨memory, os, h⟩ := h
  obtain ⟨nodeId, epollfd, canSock, hepoll, hsock, hne, rfl⟩ := wlmioInit_cases h
  have hid : nodeId.toNat < 128 := nodeId.isLt
  refine ⟨hepoll, hsock, hne, rfl, rfl, rfl, ?_, ?_, rfl, rfl, fun _ _ => rfl, rfl, rfl, rfl, rfl,
    rfl, rfl, rfl, rfl⟩
  · intro i hi
    simp [reopened, initNodes, hi]
  · show nodeId.toNat ≤ 127
    omega

/-! ## The invariant rule -/

theorem Effects.invariant {P : Registry × Bus → Prop} {s s' : Registry × Bus}
    (h : Effects ok s s') (hstep : ∀ s s', P s → Effect ok s s' → P s') (hp : P s) : P s' := by
  induction h with
  | refl => exact hp
  | tail _ he ih => exact hstep _ _ ih he

/-- **What holds of the registry and the bus after `wlmio_init`, and is kept by each effect, holds
in every reachable state.** -/
theorem reachable_core (ok : Registry → Int → Prop) {P : Registry × Bus → Prop}
    {guard : World → Act → Prop}
    (hok : ∀ w frame pick malloc, guard w (.receive frame pick malloc) → ok w.registry pick)
    (hinit : ∀ w, Fresh w → P (core w)) (hstep : ∀ s s', P s → Effect ok s s' → P s')
    {w : World} (h : ReachableBy guard w) : P (core w) := by
  refine Transition.Reaches.invariant (fun w hw => hinit w (fresh_of_initial hw)) ?_ h
  intro w a w' _ hg hp hs
  have heff : Effects ok (core w) (core w') :=
    step_effects (fun frame pick malloc ha => hok w frame pick malloc (ha ▸ hg)) hs
  exact Effects.invariant heff hstep hp

end Wlmio.Proof
