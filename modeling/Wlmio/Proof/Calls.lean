import Wlmio.Client.Machine
import Wlmio.Library.Fallible

/-!
# What a call to the library can do

The functions of the model taken apart once, for all invariants: each lemma says what
is true of the state after a function has returned, so that no later proof unfolds the
function again.

All twenty-one request functions come down to `submit`. `Made` lists the ways: a
refusal, a request of the caller's own, a register access with a record, or three
register accesses that share one.
-/

namespace Wlmio.Proof

open Wlmio.Client Wlmio.Canard

/-! ## Registry operations that succeed -/

/-- A new task with a timer of its own. -/
def withTask (r : Registry) (fd : Int) (it : Itimerspec) (id : Nat) (param : Param)
    (callback : Callback) (serial : Nat) : Registry :=
  { r with
    fdEntries := r.fdEntries ++ [⟨r.next + 1, fd, .asyncHandler⟩]
    head := r.head ++ [⟨r.next, id, r.next + 1, param, callback, serial⟩]
    itimers := Function.update r.itimers fd it
    next := r.next + 2 }

/-- An entry gone. -/
def withoutEntry (r : Registry) (e : FdEntry) : Registry :=
  { r with
    fdEntries := r.fdEntries.filter (fun e' => decide (e'.addr ≠ e.addr))
    itimers := Function.update r.itimers e.fd .disarmed }

/-- A task and its timer gone. -/
def withoutTask (r : Registry) (t : TaskEntry) (e : FdEntry) : Registry :=
  { withoutEntry r e with head := r.head.filter (fun t' => decide (t'.addr ≠ t.addr)) }

/-- Whether everything `async_add` asks for is granted. -/
def Granted (r : Registry) (os : Os) : Prop :=
  os.entryMalloc = true ∧ 0 ≤ r.newFd os.timerfdCreate ∧ os.timerfdSettime = true ∧
    os.fdEntryMalloc = true

theorem newFd_fresh {r : Registry} {pick : Int} (h : 0 ≤ r.newFd pick) :
    r.newFd pick ∉ r.openFds := by
  unfold Registry.newFd at h ⊢
  split at h
  · rename_i hp; rw [if_pos hp]; exact hp.2
  · omega

/-- `async_add` appends a task and reports 0, or changes nothing and reports something else. -/
theorem asyncAdd_cases {r r' : Registry} {id serial : Nat} {timeout : BitVec 64} {param : Param}
    {callback : Option Callback} {os : Os} {k : Int}
    (h : r.asyncAdd id timeout param callback serial os = .ok (r', k)) :
    ∃ cb, callback = some cb ∧ 0 ≤ r.epollfd ∧
      ((k = 0 ∧ Granted r os ∧ r' = withTask r (r.newFd os.timerfdCreate)
          (Registry.timeoutSpec timeout) id param cb serial) ∨
        (k ≠ 0 ∧ ¬ Granted r os ∧ r' = r)) := by
  unfold Registry.asyncAdd at h
  split at h
  · cases h
  rename_i hepoll
  cases callback with
  | none => cases h
  | some cb =>
      refine ⟨cb, rfl, by omega, ?_⟩
      dsimp only at h
      have herr := os.errno_pos
      split at h
      · rename_i hm
        obtain ⟨rfl, rfl⟩ := Prod.mk.inj (Except.ok.inj h)
        exact .inr ⟨by simp [ENOMEM], fun hg => by simp [hg.1] at hm, rfl⟩
      split at h
      · rename_i hfd
        obtain ⟨rfl, rfl⟩ := Prod.mk.inj (Except.ok.inj h)
        exact .inr ⟨by omega, fun hg => by have := hg.2.1; omega, rfl⟩
      split at h
      · rename_i hset
        obtain ⟨rfl, rfl⟩ := Prod.mk.inj (Except.ok.inj h)
        exact .inr ⟨by omega, fun hg => by simp [hg.2.2.1] at hset, rfl⟩
      rename_i hm hfd hset
      obtain ⟨⟨r₁, a⟩, hadd, h⟩ := Fallible.bind_eq_ok.mp h
      unfold Registry.fdEntryAdd at hadd
      split at hadd
      · rename_i hfm
        obtain ⟨rfl, rfl⟩ := Prod.mk.inj (Except.ok.inj hadd)
        obtain ⟨rfl, rfl⟩ := Prod.mk.inj (Except.ok.inj h)
        exact .inl ⟨rfl, ⟨by simpa using hm, by omega, by simpa using hset, hfm⟩, rfl⟩
      · cases hadd

theorem fdEntryAt_mem {r : Registry} {a : Nat} {e : FdEntry} (h : r.fdEntryAt a = some e) :
    e ∈ r.fdEntries ∧ e.addr = a :=
  ⟨List.mem_of_find?_eq_some h, by simpa using List.find?_some h⟩

theorem taskAt_mem {r : Registry} {a : Nat} {t : TaskEntry} (h : r.taskAt a = some t) :
    t ∈ r.head ∧ t.addr = a :=
  ⟨List.mem_of_find?_eq_some h, by simpa using List.find?_some h⟩

theorem taskWithId_mem {r : Registry} {id : Nat} {t : TaskEntry} (h : r.taskWithId id = some t) :
    t ∈ r.head ∧ t.id = id :=
  ⟨List.mem_of_find?_eq_some h, by simpa using List.find?_some h⟩

theorem taskWithId_exists {r : Registry} {id : Nat} {t : TaskEntry} (ht : t ∈ r.head)
    (hid : t.id = id) : ∃ t', r.taskWithId id = some t' :=
  Option.isSome_iff_exists.mp (List.find?_isSome.mpr ⟨t, ht, decide_eq_true hid⟩)

theorem taskWithTimer_mem {r : Registry} {a : Nat} {t : TaskEntry}
    (h : r.taskWithTimer a = some t) : t ∈ r.head ∧ t.timer = a :=
  ⟨List.mem_of_find?_eq_some h, by simpa using List.find?_some h⟩

theorem fdEntryClose_cases {r r' : Registry} {a : Nat} (h : r.fdEntryClose a = .ok r') :
    ∃ e, r.fdEntryAt a = some e ∧ r' = withoutEntry r e := by
  unfold Registry.fdEntryClose at h
  split at h
  · cases h
  · rename_i e he
    refine ⟨e, he, ?_⟩
    rw [← Except.ok.inj h, ← (fdEntryAt_mem he).2]
    rfl

theorem asyncRemoveEntry_cases {r r' : Registry} {a : Nat} {freed : Option Nat}
    (h : r.asyncRemoveEntry a = .ok (r', freed)) :
    (r.head = [] ∧ r' = r ∧ freed = none) ∨
      ∃ t e, r.taskAt a = some t ∧ r.fdEntryAt t.timer = some e ∧ r' = withoutTask r t e ∧
        freed = some t.timer := by
  unfold Registry.asyncRemoveEntry at h
  split at h
  · rename_i hnil
    obtain ⟨rfl, rfl⟩ := Prod.mk.inj (Except.ok.inj h)
    exact .inl ⟨List.isEmpty_iff.mp hnil, rfl, rfl⟩
  split at h
  · cases h
  · rename_i t ht
    obtain ⟨r₁, hclose, h⟩ := Fallible.bind_eq_ok.mp h
    obtain ⟨e, he, rfl⟩ := fdEntryClose_cases hclose
    obtain ⟨rfl, rfl⟩ := Prod.mk.inj (Except.ok.inj h)
    refine .inr ⟨t, e, ht, he, ?_, rfl⟩
    rw [← (taskAt_mem ht).2]
    rfl

/-! ## Requests -/

/-- The type at which each service stores its `param`. -/
def Fits : Service → Param → Prop
  | .getNodeInfo, .nodeInfo _ => True
  | .registerList, .name _ => True
  | .registerAccess, .null => True
  | .registerAccess, .register _ => True
  | .registerAccess, .record _ => True
  | .executeCommand, .null => True
  | _, _ => False

theorem fits_getNodeInfo {param : Param} (h : Fits .getNodeInfo param) :
    ∃ buffer, param = .nodeInfo buffer := by
  cases param with
  | nodeInfo buffer => exact ⟨buffer, rfl⟩
  | null => exact h.elim
  | name _ => exact h.elim
  | register _ => exact h.elim
  | record _ => exact h.elim

theorem fits_registerList {param : Param} (h : Fits .registerList param) :
    ∃ buffer, param = .name buffer := by
  cases param with
  | name buffer => exact ⟨buffer, rfl⟩
  | null => exact h.elim
  | nodeInfo _ => exact h.elim
  | register _ => exact h.elim
  | record _ => exact h.elim

theorem fits_executeCommand {param : Param} (h : Fits .executeCommand param) : param = .null := by
  cases param with
  | null => rfl
  | nodeInfo _ => exact h.elim
  | name _ => exact h.elim
  | register _ => exact h.elim
  | record _ => exact h.elim

/-- The bus after a request. -/
def busAfter (w : World) (service : Service) (nodeId : Nat) (payload : List Byte) (os : Os) : Bus :=
  (w.bus.pushRequest w.registry.head service (requestTransfer w.bus service nodeId payload)
    os.txRoom).uavcanSend os.sends

/-- The task of a request. -/
def taskAfter (w : World) (service : Service) (nodeId : Nat) (payload : List Byte) (param : Param)
    (callback : Callback) (os : Os) : Registry :=
  withTask w.registry (w.registry.newFd os.timerfdCreate) (Registry.timeoutSpec w.timeout)
    (makeRspSpecifier (requestTransfer w.bus service nodeId payload)) param callback
    w.bus.issued.length

/-- A request that was accepted has a task, or the task could not be registered. -/
theorem submit_cases {w w' : World} {service : Service} {nodeId : Nat} {payload : List Byte}
    {param : Param} {callback : Option Callback} {os : Os}
    (h : submit w service nodeId payload param callback os = .ok w') :
    ∃ cb, callback = some cb ∧
      ((Granted w.registry os ∧
          w' = { w with
            bus := busAfter w service nodeId payload os
            registry := taskAfter w service nodeId payload param cb os
            trace := .accepted w.bus.issued.length w.registry.next (w.registry.next + 1) ::
              w.trace }) ∨
        (¬ Granted w.registry os ∧
          w' = { w with bus := busAfter w service nodeId payload os })) := by
  unfold submit registerTask at h
  obtain ⟨w₁, h₁, h⟩ := Fallible.bind_eq_ok.mp h
  obtain ⟨⟨r, k⟩, hadd, h₁⟩ := Fallible.bind_eq_ok.mp h₁
  obtain ⟨cb, hcb, _, hcases⟩ := asyncAdd_cases hadd
  refine ⟨cb, hcb, ?_⟩
  have h₁ := Except.ok.inj h₁
  have h := Except.ok.inj h
  rcases hcases with ⟨rfl, hg, rfl⟩ | ⟨hk, hg, rfl⟩
  · refine .inl ⟨hg, ?_⟩
    rw [← h, ← h₁]
    rfl
  · refine .inr ⟨hg, ?_⟩
    rw [if_neg hk] at h₁
    rw [← h, ← h₁]
    rfl

/-- The bus does not depend on what became of the task. -/
theorem submit_bus {w w' : World} {service : Service} {nodeId : Nat} {payload : List Byte}
    {param : Param} {callback : Option Callback} {os : Os}
    (h : submit w service nodeId payload param callback os = .ok w') :
    w'.bus = busAfter w service nodeId payload os := by
  obtain ⟨cb, _, ⟨_, rfl⟩ | ⟨_, rfl⟩⟩ := submit_cases h
  · rfl
  · rfl

/-- The arguments `wlmio_register_access` refuses. -/
def RefusedAccess (nodeId : BitVec 8) (name : Option (List Byte))
    (regw : Option WlmioRegisterAccess) (regr : Param) : Prop :=
  CANARD_NODE_ID_MAX ≤ nodeId.toNat ∨ (∀ s ∈ name, cString s = []) ∨
    (regw = none ∧ regr = .null) ∨ ∃ reg ∈ regw, validateRegisterAccess reg ≠ 0

section

variable {w w' : World} {nodeId : BitVec 8} {name : Option (List Byte)}
  {regw : Option WlmioRegisterAccess} {regr : Param} {callback : Option Callback} {os : Os}

theorem refusedAccess_iff {s : List Byte} :
    RefusedAccess nodeId (some s) regw regr ↔ CANARD_NODE_ID_MAX ≤ nodeId.toNat ∨ cString s = [] ∨
      (regw = none ∧ regr = .null) ∨ ∃ reg ∈ regw, validateRegisterAccess reg ≠ 0 := by
  simp [RefusedAccess]

theorem registerAccess_refused (h : RefusedAccess nodeId name regw regr) :
    wlmioRegisterAccess w nodeId name regw regr callback os = .ok (w, -EINVAL) := by
  unfold wlmioRegisterAccess
  cases name with
  | none => rfl
  | some s =>
      dsimp only
      rw [if_pos (refusedAccess_iff.mp h)]

theorem registerAccess_cases {r : Int}
    (h : wlmioRegisterAccess w nodeId name regw regr callback os = .ok (w', r)) :
    (RefusedAccess nodeId name regw regr ∧ w' = w ∧ r = -EINVAL) ∨
      (¬ RefusedAccess nodeId name regw regr ∧ r = 0 ∧
        ∃ payload, (∀ s ∈ name, registerAccessPayload s regw = .ok payload) ∧
          submit w .registerAccess nodeId.toNat payload regr callback os = .ok w') := by
  by_cases hr : RefusedAccess nodeId name regw regr
  · rw [registerAccess_refused hr] at h
    obtain ⟨rfl, rfl⟩ := Prod.mk.inj (Except.ok.inj h)
    exact .inl ⟨hr, rfl, rfl⟩
  cases name with
  | none => exact absurd (.inr (.inl (by simp))) hr
  | some s =>
      unfold wlmioRegisterAccess at h
      dsimp only at h
      rw [if_neg (fun hc => hr (refusedAccess_iff.mpr hc))] at h
      split at h
      · cases h
      obtain ⟨payload, hbuilt, h⟩ := Fallible.bind_eq_ok.mp h
      obtain ⟨w₁, hs, h⟩ := Fallible.bind_eq_ok.mp h
      obtain ⟨rfl, rfl⟩ := Prod.mk.inj (Except.ok.inj h)
      exact .inr ⟨hr, rfl, payload, by simpa using hbuilt, hs⟩

/-- There is something to read or to write, and what is written is valid. -/
def Meaningful (regw : Option WlmioRegisterAccess) (regr : Param) : Prop :=
  ¬ (regw = none ∧ regr = .null) ∧ ∀ reg ∈ regw, validateRegisterAccess reg = 0

theorem meaningful_write {reg : WlmioRegisterAccess} (h : validateRegisterAccess reg = 0) :
    Meaningful (some reg) regr := by
  refine ⟨by simp, ?_⟩
  intro reg' hreg'
  obtain rfl := Option.some.inj hreg'
  exact h

theorem meaningful_read (p : Nat) : Meaningful none (.record p) := ⟨by simp, by simp⟩

theorem refused_name_iff (h : Meaningful regw regr) {s : List Byte} (hs : cString s ≠ []) :
    RefusedAccess nodeId (some s) regw regr ↔ CANARD_NODE_ID_MAX ≤ nodeId.toNat := by
  rw [refusedAccess_iff]
  constructor
  · rintro (hn | hname | hnone | ⟨reg, hreg, hv⟩)
    · exact hn
    · exact absurd hname hs
    · exact absurd hnone h.1
    · exact absurd (h.2 reg hreg) hv
  · exact .inl

/-- The name of a channel starts with `c`, so it is not empty. -/
theorem cString_eq_self_iff {s : List Byte} : cString s = s ↔ 0#8 ∉ s := by
  unfold cString
  rw [List.takeWhile_eq_self_iff]
  constructor
  · intro h hmem
    exact absurd (h _ hmem) (by decide)
  · intro h b hb
    exact decide_eq_true (fun heq => h (heq ▸ hb))

theorem cString_channelName (ch : BitVec 8) (suffix : String) :
    cString (ascii "ch" ++ [BitVec.ofNat 8 (49 + ch.toNat)] ++ ascii suffix) ≠ [] := by
  have hc : (99#8 : Byte) ≠ 0#8 := by decide
  have hascii : ascii "ch" = [99#8, 104#8] := by decide
  rw [hascii]
  simp [cString, List.takeWhile_cons, hc]

/-- A channel that has no case in the switch has no name. -/
theorem refused_channel_iff (h : Meaningful regw regr) {channels : Nat} {suffix : String}
    {ch : BitVec 8} : RefusedAccess nodeId (channelName channels suffix ch) regw regr ↔
      CANARD_NODE_ID_MAX ≤ nodeId.toNat ∨ channels ≤ ch.toNat := by
  unfold channelName
  split
  · rename_i hch
    rw [refused_name_iff h (cString_channelName ch suffix)]
    exact ⟨.inl, fun hor => hor.resolve_right (by omega)⟩
  · rename_i hch
    exact iff_of_true (.inr (.inl (by simp))) (.inr (by omega))

end

/-- The two kinds of records that hold the register of a reply, with their callbacks. -/
inductive Holder : IoRecord → (Nat → Callback) → Prop
  | read (module : ReadModule) (input : Nat) (c : Option Caller) :
      Holder (.read none input c) (.read module)
  | setSampleInterval (garbage : Nat) (c : Option Caller) :
      Holder (.setSampleInterval none garbage c) .setSampleInterval

/-- The ways a call can go that returns with `r`. -/
inductive Made (w : World) (c : Option Caller) : World → Int → Prop
  /-- It is refused, perhaps after a record was made and freed again. -/
  | refused {r : Int} : r < 0 → Made w c w r
  | withdrawn {w' : World} {r : Int} (t : IoRecord) :
      r < 0 → freeRecord (addRecord w t) w.nextRecord = .ok w' → Made w c w' r
  /-- One request, which calls the caller back. -/
  | direct {w' : World} {service : Service} {param : Param} {nodeId : Nat} (payload : List Byte)
      (os : Os) : nodeId ≤ CANARD_NODE_ID_MAX → Fits service param → (∀ p, param ≠ .record p) →
      submit w service nodeId payload param (c.map .caller) os = .ok w' → Made w c w' 0
  /-- One register access, whose reply goes into a record. -/
  | held {w' : World} {t : IoRecord} {cb : Nat → Callback} {nodeId : Nat} (payload : List Byte)
      (os : Os) : nodeId ≤ CANARD_NODE_ID_MAX → Holder t cb → t.callback = c →
      submit (addRecord w t) .registerAccess nodeId payload (.record w.nextRecord)
        (some (cb w.nextRecord)) os = .ok w' → Made w c w' 0
  /-- Three register accesses, counted in one record. -/
  | counted {w₁ w₂ w' : World} {nodeId : Nat} (payload₁ payload₂ payload₃ : List Byte)
      (os : Nat → Os) : nodeId ≤ CANARD_NODE_ID_MAX →
      submit (addRecord w (.configure 0 0 0 c)) .registerAccess nodeId payload₁ .null
        (some (.configure w.nextRecord)) (os 0) = .ok w₁ →
      submit w₁ .registerAccess nodeId payload₂ .null
        (some (.configure w.nextRecord)) (os 1) = .ok w₂ →
      submit w₂ .registerAccess nodeId payload₃ .null
        (some (.configure w.nextRecord)) (os 2) = .ok w' → Made w c w' 0

section

variable {w w' : World} {nodeId : BitVec 8} {c : Option Caller} {os : Os} {r : Int}

theorem einval_neg : -EINVAL < 0 := by decide

theorem refusal {w w' : World} {r : Int}
    (h : (Except.ok (w, -EINVAL) : Except Fault (World × Int)) = .ok (w', r)) : Made w c w' r := by
  obtain ⟨rfl, rfl⟩ := Prod.mk.inj (Except.ok.inj h)
  exact .refused einval_neg

theorem submit_made {service : Service} {n : Nat} {payload : List Byte} {param : Param}
    (hn : n ≤ CANARD_NODE_ID_MAX) (hfit : Fits service param) (hparam : ∀ p, param ≠ .record p)
    (h : (submit w service n payload param (c.map .caller) os >>= fun w => .ok (w, (0 : Int))) =
      .ok (w', r)) : Made w c w' r := by
  obtain ⟨w₁, hs, h⟩ := Fallible.bind_eq_ok.mp h
  obtain ⟨rfl, rfl⟩ := Prod.mk.inj (Except.ok.inj h)
  exact .direct _ _ hn hfit hparam hs

/-- An access that is not refused goes to a node. -/
theorem node_of_accepted {name : Option (List Byte)} {regw : Option WlmioRegisterAccess}
    {regr : Param} (h : ¬ RefusedAccess nodeId name regw regr) :
    nodeId.toNat ≤ CANARD_NODE_ID_MAX :=
  Nat.le_of_not_le (fun hn => h (.inl hn))

theorem registerAccess_made {name : Option (List Byte)} {regw : Option WlmioRegisterAccess}
    {regr : Param} (hparam : regr = .null ∨ ∃ b, regr = .register b)
    (h : wlmioRegisterAccess w nodeId name regw regr (c.map .caller) os = .ok (w', r)) :
    Made w c w' r := by
  rcases registerAccess_cases h with ⟨_, rfl, rfl⟩ | ⟨hn, rfl, payload, _, hs⟩
  · exact .refused einval_neg
  · have hfit : Fits .registerAccess regr := by
      rcases hparam with rfl | ⟨b, rfl⟩ <;> trivial
    have hno : ∀ p, regr ≠ .record p := by
      rcases hparam with rfl | ⟨b, rfl⟩ <;> simp
    exact .direct _ _ (node_of_accepted hn) hfit hno hs

theorem accessWithRecord_made {name : Option (List Byte)} {regw : Option WlmioRegisterAccess}
    {t : IoRecord} {cb : Nat → Callback} (ht : Holder t cb) (hc : t.callback = c)
    (h : accessWithRecord w nodeId name regw t cb os = .ok (w', r)) : Made w c w' r := by
  unfold accessWithRecord at h
  split at h
  · cases h
  obtain ⟨⟨w₁, r₁⟩, hacc, h⟩ := Fallible.bind_eq_ok.mp h
  rcases registerAccess_cases hacc with ⟨_, rfl, rfl⟩ | ⟨hn, rfl, payload, _, hs⟩
  · dsimp only at h
    rw [if_pos einval_neg] at h
    obtain ⟨w₂, hfree, h⟩ := Fallible.bind_eq_ok.mp h
    obtain ⟨rfl, rfl⟩ := Prod.mk.inj (Except.ok.inj h)
    exact .withdrawn t einval_neg hfree
  · obtain ⟨rfl, rfl⟩ := Prod.mk.inj (Except.ok.inj h)
    exact .held _ _ (node_of_accepted hn) ht hc hs

theorem readChannel_made {module : ReadModule} {maxChannel channels : Nat} {ch : BitVec 8}
    {v : Option Nat} (h : readChannel w nodeId c module maxChannel channels ch v os = .ok (w', r)) :
    Made w c w' r := by
  unfold readChannel at h
  cases v with
  | none => exact refusal h
  | some v =>
      dsimp only at h
      split at h
      · exact refusal h
      · exact accessWithRecord_made (.read module v c) rfl h

theorem writeRegister_made {name : Option (List Byte)} {regw : WlmioRegisterAccess}
    (h : writeRegister w nodeId name regw c os = .ok (w', r)) : Made w c w' r :=
  registerAccess_made (.inl rfl) h

theorem configureChannel_made {maxChannel channels maxValue : Nat} {suffix : String}
    {ch value : BitVec 8}
    (h : configureChannel w nodeId c maxChannel channels suffix maxValue ch value os = .ok (w', r)) :
    Made w c w' r := by
  unfold configureChannel at h
  split at h
  · exact refusal h
  · exact writeRegister_made h

theorem writeChannel_made {ch : BitVec 8} {v : BitVec 16}
    (h : writeChannel w nodeId c ch v os = .ok (w', r)) : Made w c w' r := by
  unfold writeChannel at h
  split at h
  · exact refusal h
  · exact writeRegister_made h

/-- The registers of the configurations pass the check. -/
theorem validate_uint8Register (v : BitVec 8) : validateRegisterAccess (uint8Register v) = 0 := rfl

theorem validate_uint16Register (v : BitVec 16) :
    validateRegisterAccess (uint16Register v) = 0 := rfl

/-- The three accesses of a configuration are refused together or not at all: they go to the same
node, and their names and registers are valid. -/
theorem configureRegisters_made {first second third : Option (List Byte) × WlmioRegisterAccess}
    {os : Nat → Os}
    (hsecond : ∀ n : BitVec 8, RefusedAccess n second.1 (some second.2) .null →
      RefusedAccess n first.1 (some first.2) .null)
    (hthird : ∀ n : BitVec 8, RefusedAccess n third.1 (some third.2) .null →
      RefusedAccess n first.1 (some first.2) .null)
    (h : configureRegisters w nodeId first second third c os = .ok (w', r)) : Made w c w' r := by
  unfold configureRegisters at h
  split at h
  · cases h
  obtain ⟨⟨w₁, r₁⟩, hacc₁, h⟩ := Fallible.bind_eq_ok.mp h
  rcases registerAccess_cases hacc₁ with ⟨_, rfl, rfl⟩ | ⟨hn, rfl, payload₁, _, hs₁⟩
  · -- refused at the first access: the record is freed again
    dsimp only at h
    rw [if_pos einval_neg] at h
    obtain ⟨w₂, hfree, h⟩ := Fallible.bind_eq_ok.mp h
    obtain ⟨rfl, rfl⟩ := Prod.mk.inj (Except.ok.inj h)
    exact .withdrawn _ einval_neg hfree
  · dsimp only at h
    rw [if_neg (by decide)] at h
    obtain ⟨⟨w₂, r₂⟩, hacc₂, h⟩ := Fallible.bind_eq_ok.mp h
    rcases registerAccess_cases hacc₂ with ⟨hr, _⟩ | ⟨_, rfl, payload₂, _, hs₂⟩
    · -- the first access passed, and so do the others
      exact absurd (hsecond _ hr) hn
    · dsimp only at h
      rw [if_neg (by decide)] at h
      obtain ⟨⟨w₃, r₃⟩, hacc₃, h⟩ := Fallible.bind_eq_ok.mp h
      rcases registerAccess_cases hacc₃ with ⟨hr, _⟩ | ⟨_, rfl, payload₃, _, hs₃⟩
      · exact absurd (hthird _ hr) hn
      · obtain ⟨rfl, rfl⟩ := Prod.mk.inj (Except.ok.inj h)
        exact .counted _ _ _ os (node_of_accepted hn) hs₁ hs₂ hs₃

/-- Two registers of one channel are refused alike. -/
theorem refused_channelName {channels : Nat} {suffix suffix' : String} {ch n : BitVec 8}
    {regw regw' : WlmioRegisterAccess} (hv : validateRegisterAccess regw = 0)
    (hv' : validateRegisterAccess regw' = 0) :
    RefusedAccess n (channelName channels suffix ch) (some regw) .null ↔
      RefusedAccess n (channelName channels suffix' ch) (some regw') .null :=
  (refused_channel_iff (meaningful_write hv)).trans
    (refused_channel_iff (meaningful_write hv')).symm

end

/-- **Every request function is a refusal or comes down to `submit`.** -/
theorem call_made {q : Request} {w w' : World} {c : Option Caller} {os : Nat → Os} {r : Int}
    (h : q.call w c os = .ok (w', r)) : Made w c w' r := by
  cases q with
  | getNodeInfo n nodeInfo =>
      simp only [Request.call, wlmioGetNodeInfo] at h
      cases nodeInfo with
      | none => exact refusal h
      | some buffer =>
          dsimp only at h
          split at h
          · exact refusal h
          · rename_i hn
            refine submit_made (by omega) ?_ (by simp) h
            exact trivial
  | registerList n index name =>
      simp only [Request.call, wlmioRegisterList] at h
      cases name with
      | none => exact refusal h
      | some buffer =>
          dsimp only at h
          split at h
          · exact refusal h
          · rename_i hn
            refine submit_made (by omega) ?_ (by simp) h
            exact trivial
  | registerAccess n name regw regr =>
      refine registerAccess_made ?_ h
      cases regr with
      | none => exact .inl rfl
      | some b => exact .inr ⟨b, rfl⟩
  | executeCommand n command param paramLen =>
      simp only [Request.call, wlmioExecuteCommand] at h
      split at h
      · exact refusal h
      rename_i hn
      split at h
      · obtain ⟨rfl, rfl⟩ := Prod.mk.inj (Except.ok.inj h)
        exact .refused (by decide)
      · obtain ⟨payload, _, h⟩ := Fallible.bind_eq_ok.mp h
        refine submit_made (by omega) ?_ (by simp) h
        exact trivial
  | vpe6010Read n dst =>
      simp only [Request.call, wlmioVpe6010Read] at h
      cases dst with
      | none => exact refusal h
      | some dst =>
          dsimp only at h
          split at h
          · exact refusal h
          · exact accessWithRecord_made (.read .vpe6010 dst c) rfl h
  | vpe6030Write n ch v =>
      simp only [Request.call, wlmioVpe6030Write] at h
      split at h
      · exact refusal h
      · exact writeRegister_made h
  | vpe6040Read n ch v => exact readChannel_made h
  | vpe6060Read n ch v => exact readChannel_made h
  | vpe6080Read n ch v => exact readChannel_made h
  | vpe6090Read n ch v => exact readChannel_made h
  | vpe6180Read n ch v => exact readChannel_made h
  | vpe6190Read n ch v => exact readChannel_made h
  | vpe6040Configure n ch mode => exact configureChannel_made h
  | vpe6050Configure n ch mode => exact configureChannel_made h
  | vpe6090Configure n ch type => exact configureChannel_made h
  | vpe6190Configure n ch enable => exact configureChannel_made h
  | vpe6050Write n ch v => exact writeChannel_made h
  | vpe6070Write n ch v => exact writeChannel_made h
  | vpe6060Configure n ch mode polarity bias =>
      simp only [Request.call, wlmioVpe6060Configure] at h
      split at h
      · exact refusal h
      · refine configureRegisters_made ?_ ?_ h
        · exact fun _ =>
            (refused_channelName (validate_uint8Register _) (validate_uint8Register _)).mp
        · exact fun _ =>
            (refused_channelName (validate_uint8Register _) (validate_uint8Register _)).mp
  | vpe6080Configure n ch enabled beta t0 =>
      simp only [Request.call, wlmioVpe6080Configure] at h
      split at h
      · exact refusal h
      · refine configureRegisters_made ?_ ?_ h
        · exact fun _ =>
            (refused_channelName (validate_uint16Register _) (validate_uint8Register _)).mp
        · exact fun _ =>
            (refused_channelName (validate_uint16Register _) (validate_uint8Register _)).mp
  | nodeSetSampleInterval n interval =>
      simp only [Request.call, wlmioNodeSetSampleInterval] at h
      split at h
      · exact refusal h
      · exact accessWithRecord_made (.setSampleInterval _ c) rfl h

end Wlmio.Proof
