import Wlmio.Library.History
import Wlmio.Proof.Liveness
import Wlmio.Proof.Pending

/-!
# The status history of a node

Of each node the status callback hears a history without gaps, and this history depends on
nothing but what the node itself did: its heartbeats and the expiries of its timer
(`status_history`). The nodes share the list of descriptors and the search through the table of
timers, so that what keeps them apart is that no descriptor is the timer of two nodes.
-/

namespace Wlmio.Proof

open Wlmio.Client Wlmio.Canard

/-! ## What happens to a node -/

/-- The status a heartbeat stands for: little-endian fields at fixed places, zero where the payload
has ended. -/
def announced (payload : List Byte) : WlmioStatus where
  uptime := Bytes.toNat (Bytes.window payload 0 4)
  health := (Bytes.zeroExtended payload 4).toNat % 4
  mode := (Bytes.zeroExtended payload 5).toNat % 8
  vendorStatus := (Bytes.zeroExtended payload 6).toNat

/-- **The handler reads a heartbeat for what it stands for.** -/
theorem heartbeatStatus_eq (payload : List Byte) :
    Registry.heartbeatStatus payload = some (announced payload) := by
  have huptime : canardDSDLGetU32 payload 0 32 = some (Bytes.toNat (Bytes.window payload 0 4)) := by
    rw [Bytes.toNat_window]
    exact canardDSDLGetUxx_bytes (w := 4) (k := 4) (by omega) payload 0
  have hhealth : canardDSDLGetU8 payload (0 + 32) 2 =
      some ((Bytes.zeroExtended payload 4).toNat % 4) :=
    canardDSDLGetU8_bits (k := 2) (by omega) (by omega) payload 4
  have hmode : canardDSDLGetU8 payload (0 + 32 + 8) 3 =
      some ((Bytes.zeroExtended payload 5).toNat % 8) :=
    canardDSDLGetU8_bits (k := 3) (by omega) (by omega) payload 5
  have hvendor : canardDSDLGetU8 payload (0 + 32 + 8 + 8) 8 =
      some (Bytes.zeroExtended payload 6).toNat := canardDSDLGetU8_byte payload 6
  unfold Registry.heartbeatStatus
  dsimp only
  rw [huptime, Option.bind_eq_bind, Option.bind_some, hhealth, Option.bind_some, hmode,
    Option.bind_some, hvendor, Option.bind_some]
  rfl

inductive NodeEvent where
  | heartbeat (payload : List Byte)
  | expiry
deriving DecidableEq

/-- What the node is from then on. -/
def NodeEvent.status : NodeEvent → WlmioStatus
  | .heartbeat payload => announced payload
  | .expiry => .offline

/-- The transfer that a frame completes. -/
def completes (w : World) (frame : CanardFrame) : Option CanardTransfer :=
  (canardRxAccept w.bus.canard (socketFrame frame) 0).2.2.map Prod.fst

instance (tfr : CanardTransfer) : Decidable (IsHeartbeat tfr) :=
  inferInstanceAs (Decidable (_ ∧ _))

/-- The node's own event in an act: a heartbeat of the node that is not empty, or the expiry of its
timer. -/
def happens (i : Nat) (w : World) : Act → Option NodeEvent
  | .receive frame _ _ =>
    (completes w frame).bind (fun tfr =>
      if IsHeartbeat tfr ∧ tfr.remoteNodeId = i ∧ tfr.payload ≠ [] then
        some (.heartbeat tfr.payload)
      else none)
  | .expire addr =>
    (w.registry.fdEntryAt addr).bind (fun e =>
      if e.handler = .heartbeatTimeoutHandler ∧ e.fd = w.registry.timers i then some .expiry
      else none)
  | _ => none

/-- The same of a step. One that goes wrong is the end of the run. -/
def ownEvents (i : Nat) (w : World) (a : Act) (w' : World) : List NodeEvent :=
  if w'.fault.isSome then [] else (happens i w a).toList

/-- A status callback is set when there may be something to report. -/
def Listened (w : World) : Act → Prop
  | .receive .. => w.userCallback = true
  | .expire _ => w.userCallback = true
  | _ => True

/-- The runs from `wlmio_init`, with what happens to a node. -/
abbrev Lives (i : Nat) : List NodeEvent → World → Prop :=
  Transition.Observes step (ownEvents i) Listened Initial

/-! ## What is reported -/

def reportOf (i : Nat) : Event → Option (WlmioStatus × WlmioStatus)
  | .status node old new => if node = i then some (old, new) else none
  | _ => none

/-- The calls of the status callback for a node, with the old and the new status, oldest first. -/
def reports (i : Nat) (trace : List Event) : List (WlmioStatus × WlmioStatus) :=
  trace.reverse.filterMap (reportOf i)

theorem reports_append (i : Nat) (new trace : List Event) :
    reports i (new ++ trace) = reports i trace ++ reports i new := by
  unfold reports
  rw [List.reverse_append, List.filterMap_append]

/-- The step is one in which nothing happens to the nodes. -/
structure Unseen (w w' : World) : Prop where
  nodes : w'.registry.nodes = w.registry.nodes
  new : Adds (fun e => ∀ i, reportOf i e = none) w w'

section

variable {w w' w₁ w₂ w₃ : World}

theorem Unseen.of_eq (hr : w'.registry.nodes = w.registry.nodes) (ht : w'.trace = w.trace) :
    Unseen w w' := ⟨hr, .none ht⟩

theorem Unseen.trans (h : Unseen w₁ w₂) (h' : Unseen w₂ w₃) : Unseen w₁ w₃ :=
  ⟨h'.nodes.trans h.nodes, h.new.trans h'.new⟩

theorem submit_unseen {service : Service} {nodeId : Nat} {payload : List Byte} {param : Param}
    {callback : Option Callback} {os : Os}
    (h : submit w service nodeId payload param callback os = .ok w') : Unseen w w' := by
  obtain ⟨cb, _, ⟨_, rfl⟩ | ⟨_, rfl⟩⟩ := submit_cases h
  · exact ⟨rfl, .one rfl (fun _ => rfl)⟩
  · exact .of_eq rfl rfl

theorem made_unseen {c : Option Caller} {r : Int} (h : Made w c w' r) : Unseen w w' := by
  cases h with
  | refused _ => exact .of_eq rfl rfl
  | withdrawn t _ hfree =>
      rw [(freeRecord_cases hfree).2]
      exact ⟨rfl, .one rfl (fun _ => rfl)⟩
  | direct _ _ _ _ _ hs => exact submit_unseen hs
  | @held _ t _ _ _ _ _ _ _ hs =>
      have h₁ : Unseen w (addRecord w t) := .of_eq rfl rfl
      exact h₁.trans (submit_unseen hs)
  | @counted w₁ w₂ _ _ _ _ _ _ _ h₁ h₂ h₃ =>
      have h₀ : Unseen w (addRecord w (.configure 0 0 0 c)) := .of_eq rfl rfl
      exact ((h₀.trans (submit_unseen h₁)).trans (submit_unseen h₂)).trans (submit_unseen h₃)

theorem finishCompletion_unseen {task : Nat} {record : Option Nat}
    (h : finishCompletion w task record = .ok w') : Unseen w w' := by
  obtain ⟨w₁, hrel, hcases⟩ := finishCompletion_cases h
  have hadds : Adds (fun e => ∀ i, reportOf i e = none) w w₁ :=
    hrel.adds.mono (by rintro _ ⟨p, rfl⟩ i; rfl)
  rcases hcases with ⟨_, rfl⟩ | ⟨t, e, _, _, rfl⟩
  · exact ⟨congrArg Registry.nodes hrel.core.1, hadds⟩
  · refine ⟨rfl, hadds.trans ⟨[.taskFreed task, .entryFreed t.timer], rfl, fun e he i => ?_⟩⟩
    rcases List.mem_pair.mp he with rfl | rfl
    · rfl
    · rfl

theorem complete_unseen {t : TaskEntry} {r : Int} {rest : Option Rest}
    (h : complete w t r = .ok (w', rest)) : Unseen w w' := by
  obtain ⟨w₁, user, record, hcall, hrest⟩ := complete_cases h
  have hlog : Unseen w (w.log (.invoked t.addr t.serial r)) := ⟨rfl, .one rfl (fun _ => rfl)⟩
  have hcalled : Unseen (w.log (.invoked t.addr t.serial r)) w₁ :=
    ⟨congrArg Registry.nodes hcall.frame.registry,
      hcall.adds.mono (by rintro _ (_ | _ | _) i <;> rfl)⟩
  rcases hrest with ⟨_, _, rfl⟩ | ⟨_, _, hfin⟩
  · exact hlog.trans hcalled
  · exact (hlog.trans hcalled).trans (finishCompletion_unseen hfin)

theorem responded_unseen {tfr : CanardTransfer} {rest : Option Rest}
    (h : Responded w tfr w' rest) : Unseen w w' := by
  rcases h with ⟨_, rfl, _⟩ | ⟨t, w₁, r, _, hw, hc⟩
  · exact .of_eq rfl rfl
  · have hwrote : Unseen w w₁ := ⟨congrArg Registry.nodes hw.frame.1.registry,
      hw.adds.mono (by rintro _ (_ | _ | _) i <;> rfl)⟩
    exact hwrote.trans (complete_unseen hc)

theorem resume_unseen (w : World) (rest : Option Rest) (payload : Option Buffer) :
    Unseen w (resume w rest payload) :=
  .of_eq (congrArg Registry.nodes (resume_frame w rest payload).registry)
    (resume_frame w rest payload).trace

end

/-! ## One step -/

/-- The status of the node and what is reported of it follow these events. -/
structure Follows (i : Nat) (events : List NodeEvent) (w w' : World) : Prop where
  node : w'.registry.nodes i =
    History.current (w.registry.nodes i) (events.map NodeEvent.status)
  told : reports i w'.trace = reports i w.trace ++
    History.changes (w.registry.nodes i) (events.map NodeEvent.status)

section

variable {w w' w₁ : World} {i : Nat} {rest : Option Rest}

theorem Unseen.follows (h : Unseen w w') (i : Nat) : Follows i [] w w' := by
  obtain ⟨new, htrace, hnew⟩ := h.new
  have hnone : reports i new = [] :=
    List.filterMap_eq_nil_iff.mpr (fun e he => hnew e (List.mem_reverse.mp he) i)
  refine ⟨by rw [h.nodes]; rfl, ?_⟩
  rw [htrace, reports_append, hnone]
  rfl

theorem Follows.nothing (hnodes : w'.registry.nodes = w.registry.nodes)
    (hnew : Adds (fun e => ∀ i, reportOf i e = none) w w') (i : Nat) : Follows i [] w w' :=
  Unseen.follows ⟨hnodes, hnew⟩ i

theorem Follows.trans {es es' : List NodeEvent} (h : Follows i es w w₁) (h' : Follows i es' w₁ w') :
    Follows i (es ++ es') w w' := by
  constructor
  · rw [h'.node, h.node, List.map_append, History.current_append]
  · rw [h'.told, h.told, h.node, List.map_append, History.changes_append, List.append_assoc]

theorem Follows.resume {es : List NodeEvent} (h : Follows i es w w₁) (payload : Option Buffer) :
    Follows i es w (resume w₁ rest payload) := by
  have hrest := h.trans ((resume_unseen w₁ rest payload).follows i)
  rwa [List.append_nil] at hrest

/-- A node gets a new status, and this is reported. -/
theorem reportStatus_follows {e : NodeEvent} {node : Nat} {r : Registry}
    (hcallback : w.userCallback = true)
    (hnodes : r.nodes = Function.update w.registry.nodes node e.status)
    (h : reportStatus { w with registry := r } node (w.registry.nodes node) = (w', rest)) :
    Follows i (if node = i then [e] else []) w w' := by
  rcases reportStatus_cases h with ⟨_, rfl, _⟩ | ⟨hnone, _, _⟩
  · have hnew : r.nodes node = e.status := by rw [hnodes, Function.update_self]
    have happend := reports_append i [.status node (w.registry.nodes node) (r.nodes node)] w.trace
    by_cases hi : node = i
    · subst hi
      rw [if_pos rfl]
      refine ⟨hnew, ?_⟩
      refine happend.trans (congrArg _ ?_)
      rw [hnew]
      simp [reports, reportOf, History.changes]
    · rw [if_neg hi]
      constructor
      · show r.nodes i = _
        rw [hnodes, Function.update_of_ne (Ne.symm hi)]
        rfl
      · refine happend.trans (congrArg _ ?_)
        simp [reports, reportOf, hi, History.changes]
  · rw [hcallback] at hnone
    cases hnone

/-- What a heartbeat does to the statuses. -/
theorem heartbeat_nodes {r r' : Registry} {node : Nat} {payload : List Byte} {pick : Int}
    {malloc : Bool} {old : Option WlmioStatus}
    (h : r.heartbeatHandler node payload pick malloc = .ok (r', old)) :
    (r' = r ∧ old = none ∧ (payload = [] ∨ node = CANARD_NODE_ID_UNSET)) ∨
      (payload ≠ [] ∧ old = some (r.nodes node) ∧
        r'.nodes = Function.update r.nodes node (announced payload)) := by
  rcases heartbeat_cases h with
    ⟨rfl, rfl, hskip⟩ | ⟨status, r₁, r₂, hn, hstatus, h₁, h₂, rfl, rfl, hlen⟩
  · rw [List.length_eq_zero_iff] at hskip
    exact .inl ⟨rfl, rfl, hskip⟩
  · refine .inr ⟨fun hnil => hlen (by rw [hnil]; rfl), rfl, ?_⟩
    rw [heartbeatStatus_eq] at hstatus
    obtain rfl := Option.some.inj hstatus
    have hstop : r₁.nodes = (r.setNode node (announced payload)).nodes := by
      rcases stopNodeTimer_cases h₁ with ⟨_, rfl⟩ | ⟨_, _, e₁, e, _, _, rfl⟩
      · rfl
      · rfl
    have hcreate : r₂.nodes = r₁.nodes := by
      rcases createNodeTimer_cases h₂ with ⟨_, rfl⟩ | ⟨_, _, rfl⟩
      · rfl
      · rfl
    obtain ⟨_, hreset⟩ := resetNodeTimer_eq r₂ node
    rw [hreset]
    exact hcreate.trans hstop

theorem beat_follows {tfr : CanardTransfer} {pick : Int} {malloc : Bool}
    (hi : i < CANARD_NODE_ID_MAX) (hcallback : w.userCallback = true)
    (h : Beat w tfr pick malloc w' rest) :
    Follows i (if tfr.remoteNodeId = i ∧ tfr.payload ≠ [] then [.heartbeat tfr.payload] else [])
      w w' := by
  obtain ⟨r, old, hb, hcases⟩ := h
  rcases heartbeat_nodes hb with ⟨rfl, rfl, hskip⟩ | ⟨hpayload, rfl, hnodes⟩
  · rcases hcases with ⟨_, rfl, _⟩ | ⟨o, ho, _⟩
    · have hother : ¬ (tfr.remoteNodeId = i ∧ tfr.payload ≠ []) := by
        rintro ⟨hnode, hne⟩
        rcases hskip with hnil | hunset
        · exact hne hnil
        · unfold CANARD_NODE_ID_UNSET at hunset
          unfold CANARD_NODE_ID_MAX at hi
          omega
      rw [if_neg hother]
      exact Unseen.follows (.of_eq rfl rfl) i
    · cases ho
  · rcases hcases with ⟨ho, _, _⟩ | ⟨o, ho, hreport⟩
    · cases ho
    · obtain rfl := Option.some.inj ho
      have hfollows := reportStatus_follows (i := i) (e := .heartbeat tfr.payload) hcallback hnodes
        hreport
      by_cases hnode : tfr.remoteNodeId = i
      · rw [if_pos hnode] at hfollows
        rwa [if_pos ⟨hnode, hpayload⟩]
      · rw [if_neg hnode] at hfollows
        rwa [if_neg (fun h => hnode h.1)]

theorem completes_none {frame : CanardFrame} {pick : Int} {malloc : Bool}
    (hnone : completes w frame = none) (hs : step w (.receive frame pick malloc) = some w') :
    ∃ canard, w' = withCanard w canard := by
  obtain ⟨_, rfl⟩ := receive_handled hs
  unfold completes socketFrame at hnone
  unfold canSocketHandler
  dsimp only
  split
  · exact ⟨_, rfl⟩
  · rename_i hacc
    rw [hacc] at hnone
    cases hnone

theorem completes_some {frame : CanardFrame} {pick : Int} {malloc : Bool} {tfr : CanardTransfer}
    (hsome : completes w frame = some tfr) (hs : step w (.receive frame pick malloc) = some w') :
    ∃ canard buffer,
      w' = settle w (handleTransfer (withCanard w canard) tfr buffer pick malloc) := by
  obtain ⟨canard, _, buffer, hacc⟩ := completes_of_map hsome
  exact ⟨canard, buffer, (receive_step hacc hs).2⟩

/-- An act that goes wrong leaves its fault. -/
theorem settle_fault {x : Except Fault World} (hf : (settle w x).fault = none) :
    x = .ok (settle w x) := by
  cases x with
  | ok _ => rfl
  | error _ => cases hf

theorem receive_follows {frame : CanardFrame} {pick : Int} {malloc : Bool}
    (hi : i < CANARD_NODE_ID_MAX) (hcallback : w.userCallback = true)
    (hs : step w (.receive frame pick malloc) = some w') (hf : w'.fault = none) :
    Follows i (happens i w (.receive frame pick malloc)).toList w w' := by
  unfold happens
  dsimp only
  cases htfr : completes w frame with
  | none =>
      obtain ⟨canard, rfl⟩ := completes_none htfr hs
      refine Follows.nothing ?_ (.none ?_) i
      · rfl
      · rfl
  | some tfr =>
      obtain ⟨canard, buffer, hw⟩ := completes_some htfr hs
      rw [hw] at hf
      have hok := settle_fault hf
      rw [← hw] at hok
      unfold handleTransfer at hok
      obtain ⟨⟨w₁, rest⟩, hd, hres⟩ := Fallible.bind_eq_ok.mp hok
      rw [← Except.ok.inj hres]
      rw [Option.bind_some]
      refine Follows.resume ?_ _
      by_cases hbeat : IsHeartbeat tfr
      · have hfollows := beat_follows (w := withCanard w canard) hi hcallback (dispatch_beat hbeat hd)
        by_cases hown : tfr.remoteNodeId = i ∧ tfr.payload ≠ []
        · rw [if_pos hown] at hfollows
          rw [if_pos ⟨hbeat, hown⟩]
          exact ⟨hfollows.node, hfollows.told⟩
        · rw [if_neg hown] at hfollows
          rw [if_neg (fun h => hown h.2)]
          exact ⟨hfollows.node, hfollows.told⟩
      · rw [if_neg (fun h => hbeat h.1)]
        rcases dispatch_other hbeat hd with ⟨rfl, _⟩ | ⟨_, hr⟩
        · refine Follows.nothing ?_ (.none ?_) i
          · rfl
          · rfl
        · refine Follows.nothing ?_ ?_ i
          · exact (responded_unseen hr).nodes
          · exact (responded_unseen hr).new

theorem expire_follows {addr : Nat} (hgood : Good w.registry) (hi : i < CANARD_NODE_ID_MAX)
    (hcallback : w.userCallback = true) (hd : Did w (.expire addr) w') :
    Follows i (happens i w (.expire addr)).toList w w' := by
  unfold happens
  dsimp only
  cases hd with
  | @taskExpired e _ _ _ _ _ _ he _ _ hh _ hc =>
      rw [he, Option.bind_some, if_neg (by rw [hh]; simp)]
      exact ((complete_unseen hc).follows i).resume none
  | @nodeExpired e r node _ old w₁ rest stack _ he hfd hh hx hreport =>
      obtain ⟨hnode, rfl, e₁, _, hr⟩ := timeout_cases hx
      obtain ⟨hlt, htimer⟩ := nodeOfTimer_cases hnode
      have hnodes : r.nodes = Function.update w.registry.nodes node NodeEvent.expiry.status := by
        rw [hr]
        rfl
      have hfollows := reportStatus_follows (i := i) (e := .expiry) hcallback hnodes hreport
      rw [he, Option.bind_some]
      refine Follows.resume ?_ none
      by_cases hin : node = i
      · rw [if_pos hin] at hfollows
        rw [if_pos ⟨hh, by rw [← htimer, hin]⟩]
        exact hfollows
      · -- no two nodes have the same timer
        have hother : e.fd ≠ w.registry.timers i := fun heq =>
          hin (hgood.node_inj node i (by omega) (by omega) (by rw [htimer]; exact hfd)
            (htimer.trans heq))
        rw [if_neg hin] at hfollows
        rw [if_neg (fun h => hother h.2)]
        exact hfollows

/-- The acts other than these two are not about the nodes. -/
theorem did_unseen {a : Act} (hd : Did w a w')
    (hreceive : ∀ frame pick malloc, a ≠ .receive frame pick malloc)
    (hexpire : ∀ addr, a ≠ .expire addr) : happens i w a = none ∧ Unseen w w' := by
  cases hd with
  | request _ hm => exact ⟨rfl, made_unseen hm⟩
  | syncRefused _ _ hm => exact ⟨rfl, (made_unseen hm).nodes, (made_unseen hm).new⟩
  | syncEntered _ hm => exact ⟨rfl, (made_unseen hm).nodes, (made_unseen hm).new⟩
  | setTimeout _ => exact ⟨rfl, .of_eq rfl rfl⟩
  | setStatusCallback _ => exact ⟨rfl, .of_eq rfl rfl⟩
  | tick _ => exact ⟨rfl, .of_eq rfl rfl⟩
  | taskExpired _ _ _ _ _ _ _ => exact absurd rfl (hexpire _)
  | nodeExpired _ _ _ _ _ _ => exact absurd rfl (hexpire _)
  | collected _ _ => exact absurd rfl (hreceive _ _ _)
  | ignored _ _ => exact absurd rfl (hreceive _ _ _)
  | beat _ _ _ _ => exact absurd rfl (hreceive _ _ _)
  | response _ _ _ _ _ _ => exact absurd rfl (hreceive _ _ _)
  | idle _ => exact ⟨rfl, .of_eq rfl rfl⟩
  | @syncReturned call stack _ _ =>
      exact ⟨rfl, rfl, .one (e := .syncReturned call w.syncReturn) rfl (fun _ => rfl)⟩
  | looped _ _ => exact ⟨rfl, .of_eq rfl rfl⟩
  | completed _ hfin =>
      exact ⟨rfl, (finishCompletion_unseen hfin).nodes, (finishCompletion_unseen hfin).new⟩
  | reported _ => exact ⟨rfl, .of_eq rfl rfl⟩

/-- **One step**: what is reported of a node is what happens to it. -/
theorem step_follows {a : Act} (hgood : Good w.registry) (hi : i < CANARD_NODE_ID_MAX)
    (hlistened : Listened w a) (hs : step w a = some w') (hf : w'.fault = none) :
    Follows i (happens i w a).toList w w' := by
  have hd : Did w a w' := by
    rcases (step_cases hs).2 with hd | ⟨f, _, rfl⟩
    · exact hd
    · cases hf
  have hrest : (∀ frame pick malloc, a ≠ .receive frame pick malloc) → (∀ addr, a ≠ .expire addr) →
      Follows i (happens i w a).toList w w' := by
    intro hreceive hexpire
    obtain ⟨hnone, hunseen⟩ := did_unseen (i := i) hd hreceive hexpire
    rw [hnone]
    exact hunseen.follows i
  cases a with
  | receive frame pick malloc => exact receive_follows hi hlistened hs hf
  | expire addr => exact expire_follows hgood hi hlistened hd
  | _ => exact hrest (by simp) (by simp)

/-- With memory for a descriptor a heartbeat is always handled. -/
theorem heartbeat_ok {r : Registry} (h : Good r) {node : Nat} (hn : node ≤ CANARD_NODE_ID_MAX)
    (payload : List Byte) (pick : Int) :
    ∃ r' old, r.heartbeatHandler node payload pick true = .ok (r', old) := by
  unfold Registry.heartbeatHandler
  split
  · exact ⟨_, _, rfl⟩
  rw [heartbeatStatus_eq]
  dsimp only
  obtain ⟨r₁, h₁⟩ := (h.setNode node (announced payload)).stopNodeTimer_ok hn
  obtain ⟨r₂, h₂⟩ : ∃ r₂, r₁.createNodeTimer node pick true = .ok r₂ := by
    unfold Registry.createNodeTimer
    split
    · exact ⟨_, rfl⟩
    · exact ⟨_, rfl⟩
  exact ⟨_, _, Fallible.bind_eq_ok.mpr ⟨r₁, h₁, Fallible.bind_eq_ok.mpr ⟨r₂, h₂, rfl⟩⟩⟩

/-- Of what happens to a node nothing is lost, unless there is no memory for a descriptor. -/
theorem happens_handled {a : Act} {event : NodeEvent} (hgood : Good w.registry)
    (hi : i < CANARD_NODE_ID_MAX) (hown : happens i w a = some event) (hs : step w a = some w') :
    w'.fault = none ∨ ∃ frame pick, a = .receive frame pick false := by
  obtain ⟨hfault, hd | ⟨f, hact, hw⟩⟩ := step_cases hs
  · exact .inl (hd.fault.trans hfault)
  cases a with
  | receive frame pick malloc =>
      cases malloc with
      | false => exact .inr ⟨frame, pick, rfl⟩
      | true =>
          obtain ⟨tfr, htfr, hown⟩ := Option.bind_eq_some_iff.mp hown
          obtain ⟨⟨hbeat, rfl, _⟩, _⟩ := Option.ite_none_right_eq_some.mp hown
          obtain ⟨canard, buffer, hset⟩ := completes_some htfr hs
          obtain ⟨r, old, hb⟩ := heartbeat_ok hgood (Nat.le_of_lt hi) tfr.payload pick
          obtain ⟨w₁, rest, hd⟩ : ∃ w₁ rest,
              dispatch (withCanard w canard) tfr pick true = .ok (w₁, rest) := by
            unfold IsHeartbeat at hbeat
            unfold dispatch heartbeatHandler
            rw [if_pos hbeat]
            show ∃ w₁ rest, (w.registry.heartbeatHandler tfr.remoteNodeId tfr.payload pick true >>= _) =
              Except.ok (w₁, rest)
            rw [hb, Fallible.ok_bind]
            cases old with
            | none => exact ⟨_, _, rfl⟩
            | some old => exact ⟨_, _, rfl⟩
          have hkept := beat_fault (dispatch_beat hbeat hd)
          rw [handleTransfer, hd] at hset
          rw [hset]
          exact .inl ((resume_frame w₁ rest _).fault.trans (hkept.trans hfault))
  | expire addr =>
      obtain ⟨e, stack, _, he, hx⟩ := act_expire hact
      obtain ⟨e', he', hown⟩ := Option.bind_eq_some_iff.mp hown
      obtain ⟨⟨hh, hfd⟩, _⟩ := Option.ite_none_right_eq_some.mp hown
      obtain rfl := Option.some.inj (he.symm.trans he')
      obtain ⟨hmem, rfl⟩ := fdEntryAt_mem he
      have hopen := (handleExpiry_cases hx).1
      rw [hfd] at hopen
      exact .inl ((expiry_iff hgood (by omega) hopen ⟨hmem, hh, hfd, hs⟩).mpr (by omega)).fault
  | _ => cases hown

end

/-! ## Runs -/

/-- What is reported of a node to which this has happened. -/
structure StatusHistory (events : List NodeEvent) (told : List (WlmioStatus × WlmioStatus)) :
    Prop where
  /-- The node is offline at first. -/
  starts : ∀ p, told.head? = some p → p.1 = .offline
  /-- Each old status is the new one of the report before. -/
  joined : told.IsChain (fun p q => q.1 = p.2)
  /-- There is one report of each event, with the status the event stands for. -/
  news : told.map Prod.snd = events.map NodeEvent.status

theorem lives_follows {i : Nat} {events : List NodeEvent} {w : World} (hi : i < CANARD_NODE_ID_MAX)
    (h : Lives i events w) :
    reports i w.trace = History.changes .offline (events.map NodeEvent.status) ∧
      w.registry.nodes i = History.current .offline (events.map NodeEvent.status) := by
  induction h with
  | @init w h =>
      have hfresh := fresh_of_initial h
      exact ⟨by rw [hfresh.trace]; rfl, (hfresh.nodes i (by omega)).1⟩
  | @step events w w' a h hg hs ih =>
      unfold ownEvents
      cases hf : w'.fault with
      | none =>
          have hfollows := step_follows (good_reachable h.reaches) hi hg hs hf
          rw [if_neg (by simp), List.map_append]
          constructor
          · rw [hfollows.told, ih.1, ih.2, History.changes_append]
          · rw [hfollows.node, ih.2, History.current_append]
      | some f =>
          -- the run has gone wrong and nothing has changed
          rw [if_pos (by simp), List.append_nil]
          obtain ⟨hnone, hd | ⟨_, _, rfl⟩⟩ := step_cases hs
          · rw [hd.fault, hnone] at hf
            cases hf
          · exact ih

/-- **The status history of a node**, in every run in which the status callback is set. -/
theorem status_history {i : Nat} (hi : i < CANARD_NODE_ID_MAX) :
    (∀ events w, Lives i events w → StatusHistory events (reports i w.trace)) ∧
      -- whatever the other nodes do
      (∀ events w w', Lives i events w → Lives i events w' →
        reports i w.trace = reports i w'.trace) ∧
      -- and no event of the node goes without its report
      ∀ events w a w' event, Lives i events w → step w a = some w' → happens i w a = some event →
        w'.fault = none ∨ ∃ frame pick, a = .receive frame pick false := by
  refine ⟨?_, ?_, ?_⟩
  · intro events w h
    rw [(lives_follows hi h).1]
    exact ⟨History.changes_head _ _, History.changes_chain _ _, History.changes_new _ _⟩
  · intro events w w' h h'
    rw [(lives_follows hi h).1, (lives_follows hi h').1]
  · intro events w a w' event h hs hown
    exact happens_handled (good_reachable h.reaches) hi hown hs

instance (w : World) (a : Act) : Decidable (Listened w a) :=
  match a with
  | .receive .. | .expire _ => inferInstanceAs (Decidable (w.userCallback = true))
  | .request .. | .sync .. | .setTimeout _ | .setStatusCallback _ | .tick | .idle _ | .loop | .ret =>
    isTrue trivial

/-- Nodes 3 and 9 come online, and node 3 goes offline. -/
theorem status_history_two : ∃ events w, Lives 3 events w ∧
    StatusHistory events (reports 3 w.trace) ∧
    reports 3 w.trace = [(.offline, ⟨0, 0, 0, 0⟩), (⟨0, 0, 0, 0⟩, .offline)] := by
  obtain ⟨w, hr, hw⟩ := exists_after Listened
    [.setStatusCallback true, .tick, .receive (heartbeatFrame 3 0) 5 true, .ret,
      .receive (heartbeatFrame 9 0) 6 true, .ret, .expire 1]
    (fun w => decide (reports 3 w.trace = [(.offline, ⟨0, 0, 0, 0⟩), (⟨0, 0, 0, 0⟩, .offline)]))
    (by decide +kernel)
  obtain ⟨events, h⟩ := hr.observed
  exact ⟨events, w, h, (status_history (by decide)).1 events w h, of_decide_eq_true hw⟩

end Wlmio.Proof
