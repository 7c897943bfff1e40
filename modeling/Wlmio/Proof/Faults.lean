import Wlmio.Proof.Registry

/-!
# How a run can go wrong

For each function the faults it can end in. A callback can follow a pointer that is `NULL`
or whose record is gone; building a payload can leave its buffer; but only the release of
a task and of an entry can miss them (`LinkFault`), and it does not as long as the
registry invariant holds and the task is linked (`act_fails`).
-/

namespace Wlmio.Proof

open Wlmio.Client Wlmio.Canard Fallible

/-- A task or an entry was used after it was freed. -/
def LinkFault (f : Fault) : Prop := f = .useAfterFree .task ∨ f = .useAfterFree .fdEntry

/-- What a callback and its record can run into. -/
inductive CallbackFault : Fault → Prop
  | null : CallbackFault .nullDereference
  | uninitialised : CallbackFault .uninitialised
  | confused : CallbackFault .typeConfusion
  | record : CallbackFault (.useAfterFree .record)

theorem CallbackFault.not_link {f : Fault} (h : CallbackFault f) : ¬ LinkFault f := by
  cases h <;> simp [LinkFault]

theorem CallbackFault.in_bounds {f : Fault} (h : CallbackFault f) : f ≠ .outOfBounds := by
  cases h <;> simp

/-! ## Callbacks and records -/

theorem callCaller_fails (w : World) (c : Option Caller) (r : Int) :
    FailsOnly CallbackFault (callCaller w c r) := by
  unfold callCaller
  split
  · exact .error .null
  · exact .ok _
  · exact .ok _

theorem call_fails (cb : Callback) (w : World) (r : Int) :
    FailsOnly CallbackFault (cb.call w r) := by
  unfold Callback.call
  cases cb with
  | caller c => exact (callCaller_fails _ _ _).bind (fun _ _ => .ok _)
  | read module p =>
      refine FailsOnly.bind ?_ (fun _ _ => .ok _)
      unfold readCallback
      split
      · split
        · exact callCaller_fails _ _ _
        · split
          · exact .error .uninitialised
          · split
            · exact callCaller_fails _ _ _
            · exact callCaller_fails _ _ _
      · exact .error .confused
      · exact .error .record
  | setSampleInterval p =>
      refine FailsOnly.bind ?_ (fun _ _ => .ok _)
      unfold nodeSetSampleIntervalCallback
      split
      · split
        · exact callCaller_fails _ _ _
        · split
          · exact .error .uninitialised
          · exact callCaller_fails _ _ _
      · exact .error .confused
      · exact .error .record
  | configure p =>
      refine FailsOnly.bind ?_ (fun _ _ => .ok _)
      unfold configureCallback
      split
      · dsimp only
        split
        · exact .ok _
        · exact (callCaller_fails _ _ _).bind (fun _ _ => .ok _)
      · exact .error .confused
      · exact .error .record

theorem freeRecord_fails (w : World) (p : Nat) : FailsOnly CallbackFault (freeRecord w p) := by
  unfold freeRecord
  split
  · exact .error .record
  · exact .ok _

theorem releaseRecord_fails (w : World) (record : Option Nat) :
    FailsOnly CallbackFault (releaseRecord w record) := by
  cases record with
  | none => exact .ok _
  | some p => exact freeRecord_fails w p

theorem writeRegr_fails (w : World) (uregr : Param) (regr : WlmioRegisterAccess) :
    FailsOnly CallbackFault (writeRegr w uregr regr) := by
  unfold writeRegr
  split
  · exact .ok _
  · exact .ok _
  · unfold storeRegister
    split
    · exact .ok _
    · exact .ok _
    · exact .error .confused
    · exact .error .record
  · exact .error .confused

/-! ## Completions -/

theorem fdEntryClose_fails (r : Registry) (addr : Nat) : FailsOnly LinkFault (r.fdEntryClose addr) := by
  unfold Registry.fdEntryClose
  split
  · exact .error (.inr rfl)
  · exact .ok _

theorem finishTask_fails (w : World) (task : Nat) : FailsOnly LinkFault (finishTask w task) := by
  unfold finishTask
  refine FailsOnly.bind ?_ (fun x _ => ?_)
  · unfold Registry.asyncRemoveEntry
    split
    · exact .ok _
    · split
      · exact .error (.inl rfl)
      · exact (fdEntryClose_fails _ _).bind (fun _ _ => .ok _)
  · dsimp only
    split
    · exact .ok _
    · exact .ok _

/-- **A linked task is removed without a fault.** -/
theorem finishTask_ok {w : World} (h : Good w.registry) {t : TaskEntry}
    (ht : t ∈ w.registry.head) : ∃ w', finishTask w t.addr = .ok w' := by
  obtain ⟨e, he, haddr, _⟩ := h.timer t ht
  have htask := h.taskAt ht
  have hentry := h.fdEntryAt he
  rw [haddr] at hentry
  have hne : ¬ w.registry.head.isEmpty = true := by
    rw [List.isEmpty_iff]
    exact List.ne_nil_of_mem ht
  unfold finishTask Registry.asyncRemoveEntry
  rw [if_neg hne, htask]
  dsimp only
  unfold Registry.fdEntryClose
  rw [hentry]
  exact ⟨_, rfl⟩

theorem finishCompletion_fails (w : World) (task : Nat) (record : Option Nat) :
    FailsOnly (fun f => CallbackFault f ∨ LinkFault f) (finishCompletion w task record) :=
  ((releaseRecord_fails w record).mono (fun _ => .inl)).bind
    (fun _ _ => (finishTask_fails _ task).mono (fun _ => .inr))

theorem finishCompletion_linked {w : World} (h : Good w.registry) {t : TaskEntry}
    (ht : t ∈ w.registry.head) (record : Option Nat) :
    FailsOnly CallbackFault (finishCompletion w t.addr record) := by
  refine (releaseRecord_fails w record).bind ?_
  intro w₁ hrel
  have hreg : w₁.registry = w.registry := by
    cases record with
    | none => rw [← Except.ok.inj hrel]
    | some p => rw [(freeRecord_cases hrel).2]; rfl
  rw [← hreg] at h ht
  obtain ⟨w', hw'⟩ := finishTask_ok h ht
  rw [hw']
  exact .ok _

theorem complete_fails (w : World) (t : TaskEntry) (r : Int) :
    FailsOnly (fun f => CallbackFault f ∨ LinkFault f) (complete w t r) := by
  unfold complete
  refine ((call_fails _ _ _).mono (fun _ => .inl)).bind ?_
  intro x _
  dsimp only
  split
  · exact .ok _
  · exact (finishCompletion_fails _ _ _).bind (fun _ _ => .ok _)

/-- **The completion of a linked task fails only in its callback.** -/
theorem complete_linked {w : World} (h : Good w.registry) {t : TaskEntry}
    (ht : t ∈ w.registry.head) (r : Int) : FailsOnly CallbackFault (complete w t r) := by
  unfold complete
  refine (call_fails _ _ _).bind ?_
  intro x hcall
  have hreg : x.1.registry = w.registry := (call_cases hcall).frame.registry
  dsimp only
  split
  · exact .ok _
  · rw [← hreg] at h ht
    exact (finishCompletion_linked h ht _).bind (fun _ _ => .ok _)

/-! ## Requests -/

/-- Nothing that is linked is missed. -/
def Linked (f : Fault) : Prop := ¬ LinkFault f

theorem linked_of_ne {f : Fault} (h : f ≠ .useAfterFree .task) (h' : f ≠ .useAfterFree .fdEntry) :
    Linked f := by
  rintro (rfl | rfl)
  · exact h rfl
  · exact h' rfl

theorem linked_error {α : Type} {f : Fault} (h : f ≠ .useAfterFree .task)
    (h' : f ≠ .useAfterFree .fdEntry) : FailsOnly Linked (.error f : Except Fault α) :=
  .error (linked_of_ne h h')

theorem submit_fails (w : World) (service : Service) (nodeId : Nat) (payload : List Byte)
    (param : Param) (callback : Option Callback) (os : Os) :
    FailsOnly Linked (submit w service nodeId payload param callback os) := by
  unfold submit registerTask
  refine FailsOnly.bind (FailsOnly.bind ?_ (fun _ _ => .ok _)) (fun _ _ => .ok _)
  unfold Registry.asyncAdd
  split
  · exact linked_error (by decide) (by decide)
  · split
    · exact linked_error (by decide) (by decide)
    · split
      · exact .ok _
      · dsimp only
        split
        · exact .ok _
        · split
          · exact .ok _
          · refine FailsOnly.bind ?_ (fun _ _ => .ok _)
            unfold Registry.fdEntryAdd
            split
            · exact .ok _
            · exact linked_error (by decide) (by decide)

theorem emit_fails (payload bytes : List Byte) : FailsOnly Linked (emit payload bytes) := by
  unfold emit
  split
  · exact .ok _
  · exact linked_error (by decide) (by decide)

theorem registerAccessPayload_fails (name : List Byte) (regw : Option WlmioRegisterAccess) :
    FailsOnly Linked (registerAccessPayload name regw) := by
  unfold registerAccessPayload
  refine (emit_fails _ _).bind (fun _ _ => (emit_fails _ _).bind (fun _ _ => ?_))
  split
  · exact emit_fails _ _
  · refine (emit_fails _ _).bind ?_
    intro _ _
    split
    · unfold emitRegister
      split
      · refine (emit_fails _ _).bind ?_
        intro _ _
        dsimp only
        split
        · exact emit_fails _ _
        · exact linked_error (by decide) (by decide)
      · exact linked_error (by decide) (by decide)
    · exact .ok _

theorem registerAccess_fails (w : World) (nodeId : BitVec 8) (name : Option (List Byte))
    (regw : Option WlmioRegisterAccess) (regr : Param) (callback : Option Callback) (os : Os) :
    FailsOnly Linked (wlmioRegisterAccess w nodeId name regw regr callback os) := by
  unfold wlmioRegisterAccess
  split
  · exact .ok _
  · split
    · exact .ok _
    · split
      · exact linked_error (by decide) (by decide)
      · exact (registerAccessPayload_fails _ _).bind
          (fun _ _ => (submit_fails _ _ _ _ _ _ _).bind (fun _ _ => .ok _))

theorem freeRecord_linked (w : World) (p : Nat) : FailsOnly Linked (freeRecord w p) :=
  (freeRecord_fails w p).mono (fun _ h => h.not_link)

theorem accessWithRecord_fails (w : World) (nodeId : BitVec 8) (name : Option (List Byte))
    (regw : Option WlmioRegisterAccess) (t : IoRecord) (callback : Nat → Callback) (os : Os) :
    FailsOnly Linked (accessWithRecord w nodeId name regw t callback os) := by
  unfold accessWithRecord
  split
  · exact linked_error (by decide) (by decide)
  · refine (registerAccess_fails _ _ _ _ _ _ _).bind ?_
    intro x _
    dsimp only
    split
    · exact (freeRecord_linked _ _).bind (fun _ _ => .ok _)
    · exact .ok _

theorem readChannel_fails (w : World) (nodeId : BitVec 8) (callback : Option Caller)
    (module : ReadModule) (maxChannel channels : Nat) (ch : BitVec 8) (v : Option Nat) (os : Os) :
    FailsOnly Linked (readChannel w nodeId callback module maxChannel channels ch v os) := by
  unfold readChannel
  split
  · exact .ok _
  · split
    · exact .ok _
    · exact accessWithRecord_fails _ _ _ _ _ _ _

theorem configureChannel_fails (w : World) (nodeId : BitVec 8) (callback : Option Caller)
    (maxChannel channels : Nat) (suffix : String) (maxValue : Nat) (ch value : BitVec 8) (os : Os) :
    FailsOnly Linked
      (configureChannel w nodeId callback maxChannel channels suffix maxValue ch value os) := by
  unfold configureChannel
  split
  · exact .ok _
  · exact registerAccess_fails _ _ _ _ _ _ _

theorem writeChannel_fails (w : World) (nodeId : BitVec 8) (callback : Option Caller)
    (ch : BitVec 8) (v : BitVec 16) (os : Os) :
    FailsOnly Linked (writeChannel w nodeId callback ch v os) := by
  unfold writeChannel
  split
  · exact .ok _
  · exact registerAccess_fails _ _ _ _ _ _ _

theorem cancelOne_fails (w : World) (p : Nat) : FailsOnly Linked (cancelOne w p) := by
  unfold cancelOne
  split
  · exact .ok _
  · exact linked_error (by decide) (by decide)
  · exact linked_error (by decide) (by decide)

theorem configureRegisters_fails (w : World) (nodeId : BitVec 8)
    (first second third : Option (List Byte) × WlmioRegisterAccess) (callback : Option Caller)
    (os : Nat → Os) :
    FailsOnly Linked (configureRegisters w nodeId first second third callback os) := by
  unfold configureRegisters
  split
  · exact linked_error (by decide) (by decide)
  refine (registerAccess_fails _ _ _ _ _ _ _).bind (fun ⟨w₁, r₁⟩ _ => ?_)
  dsimp only
  split
  · exact (freeRecord_linked _ _).bind (fun _ _ => .ok _)
  refine (registerAccess_fails _ _ _ _ _ _ _).bind (fun ⟨w₂, r₂⟩ _ => ?_)
  dsimp only
  split
  · exact (cancelOne_fails _ _).bind (fun _ _ => .ok _)
  refine (registerAccess_fails _ _ _ _ _ _ _).bind (fun ⟨w₃, r₃⟩ _ => ?_)
  dsimp only
  split
  · exact (cancelOne_fails _ _).bind (fun _ _ => .ok _)
  · exact .ok _

/-- **No request function frees a task or an entry.** -/
theorem request_fails (q : Request) (w : World) (c : Option Caller) (os : Nat → Os) :
    FailsOnly Linked (q.call w c os) := by
  cases q with
  | getNodeInfo n nodeInfo =>
      simp only [Request.call, wlmioGetNodeInfo]
      split
      · exact .ok _
      · split
        · exact .ok _
        · exact (submit_fails _ _ _ _ _ _ _).bind (fun _ _ => .ok _)
  | registerList n index name =>
      simp only [Request.call, wlmioRegisterList]
      split
      · exact .ok _
      · split
        · exact .ok _
        · exact (submit_fails _ _ _ _ _ _ _).bind (fun _ _ => .ok _)
  | registerAccess n name regw regr => exact registerAccess_fails _ _ _ _ _ _ _
  | executeCommand n command param paramLen =>
      simp only [Request.call, wlmioExecuteCommand]
      split
      · exact .ok _
      · split
        · exact .ok _
        · refine FailsOnly.bind ?_ (fun _ _ => (submit_fails _ _ _ _ _ _ _).bind (fun _ _ => .ok _))
          -- a parameter shorter than its length is read out of bounds
          unfold executeCommandPayload
          generalize (if 112 < paramLen then 112 else paramLen) = len
          dsimp only
          split
          · exact .ok _
          · exact linked_error (by decide) (by decide)
  | vpe6010Read n dst =>
      simp only [Request.call, wlmioVpe6010Read]
      split
      · exact .ok _
      · split
        · exact .ok _
        · exact accessWithRecord_fails _ _ _ _ _ _ _
  | vpe6030Write n ch v =>
      simp only [Request.call, wlmioVpe6030Write]
      split
      · exact .ok _
      · exact registerAccess_fails _ _ _ _ _ _ _
  | vpe6040Read n ch v => exact readChannel_fails _ _ _ _ _ _ _ _ _
  | vpe6060Read n ch v => exact readChannel_fails _ _ _ _ _ _ _ _ _
  | vpe6080Read n ch v => exact readChannel_fails _ _ _ _ _ _ _ _ _
  | vpe6090Read n ch v => exact readChannel_fails _ _ _ _ _ _ _ _ _
  | vpe6180Read n ch v => exact readChannel_fails _ _ _ _ _ _ _ _ _
  | vpe6190Read n ch v => exact readChannel_fails _ _ _ _ _ _ _ _ _
  | vpe6040Configure n ch mode => exact configureChannel_fails _ _ _ _ _ _ _ _ _ _
  | vpe6050Configure n ch mode => exact configureChannel_fails _ _ _ _ _ _ _ _ _ _
  | vpe6090Configure n ch type => exact configureChannel_fails _ _ _ _ _ _ _ _ _ _
  | vpe6190Configure n ch enable => exact configureChannel_fails _ _ _ _ _ _ _ _ _ _
  | vpe6050Write n ch v => exact writeChannel_fails _ _ _ _ _ _
  | vpe6070Write n ch v => exact writeChannel_fails _ _ _ _ _ _
  | vpe6060Configure n ch mode polarity bias =>
      simp only [Request.call, wlmioVpe6060Configure]
      split
      · exact .ok _
      · exact configureRegisters_fails _ _ _ _ _ _ _
  | vpe6080Configure n ch enabled beta t0 =>
      simp only [Request.call, wlmioVpe6080Configure]
      split
      · exact .ok _
      · exact configureRegisters_fails _ _ _ _ _ _ _
  | nodeSetSampleInterval n interval =>
      simp only [Request.call, wlmioNodeSetSampleInterval]
      split
      · exact .ok _
      · exact accessWithRecord_fails _ _ _ _ _ _ _

/-! ## Responses and heartbeats -/

theorem got_fails (n : Option Nat) : FailsOnly Linked (got n) := by
  unfold got
  split
  · exact .ok _
  · exact linked_error (by decide) (by decide)

theorem copyField_fails (size : Nat) (payload : List Byte) (payloadOffset n : Nat) :
    FailsOnly Linked (copyField size payload payloadOffset n) := by
  unfold copyField
  split
  · exact .ok _
  · exact linked_error (by decide) (by decide)

theorem decodeName_fails (payload : List Byte) : FailsOnly Linked (decodeName payload) := by
  unfold decodeName
  split
  · exact copyField_fails _ _ _ _
  · exact .ok _

theorem decodeStatus_fails (payload : List Byte) : FailsOnly Linked (decodeStatus payload) := by
  unfold decodeStatus
  split
  · exact (got_fails _).map _
  · exact .ok _

theorem decodeRegisterAccess_fails (payload : List Byte) :
    FailsOnly Linked (decodeRegisterAccess payload) := by
  unfold decodeRegisterAccess
  refine (got_fails _).bind ?_
  intro type _
  dsimp only
  split
  · exact linked_error (by decide) (by decide)
  · refine (got_fails _).bind (fun length _ => FailsOnly.bind ?_ (fun value _ => ?_))
    · unfold copyValue
      split
      · exact copyField_fails _ _ _ _
      · exact .ok _
    · split
      · exact .ok _
      · split
        · exact .ok _
        · exact .ok _

theorem decodeNodeInfo_fails (payload : List Byte) : FailsOnly Linked (decodeNodeInfo payload) := by
  have hfield : ∀ size payloadOffset limit : Nat, FailsOnly Linked
      (if payloadOffset < payload.length then
        copyField size payload payloadOffset (if limit < payload.length - payloadOffset then limit
          else payload.length - payloadOffset)
      else .ok (clearedField size)) := by
    intro size payloadOffset limit
    split
    · exact copyField_fails _ _ _ _
    · exact .ok _
  unfold decodeNodeInfo
  split
  · exact .ok _
  dsimp only
  refine (got_fails _).bind (fun _ _ => (got_fails _).bind (fun _ _ => ?_))
  refine (got_fails _).bind (fun _ _ => (got_fails _).bind (fun _ _ => ?_))
  refine (got_fails _).bind (fun _ _ => (got_fails _).bind (fun _ _ => ?_))
  refine (got_fails _).bind (fun _ _ => (hfield _ _ _).bind (fun _ _ => ?_))
  refine (got_fails _).bind ?_
  intro nameLen _
  split
  · exact .ok _
  refine (hfield _ _ _).bind (fun _ _ => (got_fails _).bind (fun crcPresent _ => ?_))
  split
  · exact .ok _
  refine FailsOnly.bind ?_ (fun crc _ => (got_fails _).bind (fun coaLen _ => ?_))
  · split
    · exact .ok _
    · exact got_fails _
  split
  · exact .ok _
  split
  · exact .ok _
  · exact (hfield _ _ _).bind (fun _ _ => .ok _)

theorem complete_fails_linked {w : World} (h : Good w.registry) {t : TaskEntry}
    (ht : t ∈ w.registry.head) (r : Int) : FailsOnly Linked (complete w t r) :=
  (complete_linked h ht r).mono (fun _ hf => hf.not_link)

theorem asyncComplete_fails {w : World} (h : Good w.registry) (id : Nat) (r : Int) :
    FailsOnly Linked (asyncComplete w id r) := by
  unfold asyncComplete
  split
  · exact .ok _
  · rename_i t ht
    exact complete_fails_linked h (taskWithId_mem ht).1 r

theorem heartbeatHandler_fails {r : Registry} (h : Good r) (node : Nat) (payload : List Byte)
    (pick : Int) (malloc : Bool) :
    FailsOnly Linked (r.heartbeatHandler node payload pick malloc) := by
  unfold Registry.heartbeatHandler
  split
  · exact .ok _
  split
  · exact linked_error (by decide) (by decide)
  split
  · exact linked_error (by decide) (by decide)
  rename_i hn _ status _
  have hn : node ≤ CANARD_NODE_ID_MAX := Classical.not_not.mp hn
  refine FailsOnly.bind ?_ (fun r₁ _ => FailsOnly.bind ?_ (fun r₂ _ => .ok _))
  · obtain ⟨r₁, hr₁⟩ := (h.setNode node status).stopNodeTimer_ok hn
    rw [hr₁]
    exact .ok _
  · unfold Registry.createNodeTimer
    split
    · refine FailsOnly.bind ?_ (fun _ _ => .ok _)
      unfold Registry.fdEntryAdd
      split
      · exact .ok _
      · exact linked_error (by decide) (by decide)
    · exact .ok _

theorem dispatch_fails {w : World} (h : Good w.registry) (tfr : CanardTransfer) (pick : Int)
    (malloc : Bool) : FailsOnly Linked (dispatch w tfr pick malloc) := by
  unfold dispatch
  split
  · unfold heartbeatHandler
    refine (heartbeatHandler_fails h _ _ _ _).bind (fun ⟨r, old⟩ _ => ?_)
    dsimp only
    split
    · exact .ok _
    · exact .ok _
  split
  · unfold getNodeInfoResponseHandler
    dsimp only
    split
    · exact asyncComplete_fails h _ _
    · exact (decodeNodeInfo_fails _).bind
        (fun ⟨info, r⟩ _ => asyncComplete_fails (w := w.log _) h _ _)
    · exact linked_error (by decide) (by decide)
    · exact linked_error (by decide) (by decide)
  split
  · unfold registerListResponseHandler
    dsimp only
    split
    · exact .ok _
    · exact (decodeName_fails _).bind (fun _ _ => asyncComplete_fails (w := w.log _) h _ _)
    · exact linked_error (by decide) (by decide)
    · exact linked_error (by decide) (by decide)
  split
  · unfold registerAccessResponseHandler
    dsimp only
    split
    · exact .ok _
    · rename_i uregr hparam
      refine (decodeRegisterAccess_fails _).bind (fun ⟨regr, r⟩ _ => ?_)
      refine ((writeRegr_fails _ _ _).mono (fun _ hf => hf.not_link)).bind ?_
      intro w₁ hw
      have hreg : w₁.registry = w.registry := by
        rcases asyncGetParam_cases w.registry (makeRspSpecifier tfr) with ⟨hnone, _⟩ | ⟨t, _, ht⟩
        · rw [hnone] at hparam
          cases hparam
        · rw [hparam] at ht
          obtain rfl := Option.some.inj ht
          exact (writeRegr_cases hw).frame.1.registry
      exact asyncComplete_fails (hreg ▸ h) _ _
  split
  · unfold executeCommandResponseHandler
    exact (decodeStatus_fails _).bind (fun _ _ => asyncComplete_fails h _ _)
  · exact .ok _

/-! ## Acts -/

/-- The tasks whose callbacks have not returned, innermost first. -/
def completions (stack : List Activation) : List Nat :=
  stack.filterMap (fun a => match a with
    | .user (.completion task _) _ => some task
    | _ => none)

/-- **No act misses a task or an entry**, as long as the tasks whose callbacks have not returned
are linked. -/
theorem act_fails {w : World} (h : Good w.registry)
    (hopen : ∀ a ∈ completions w.stack, ∃ t ∈ w.registry.head, t.addr = a) {a : Act}
    {x : Except Fault World} (hx : act w a = some x) : FailsOnly Linked x := by
  unfold act at hx
  cases a with
  | request q callback os =>
      obtain ⟨_, hx⟩ := Option.ite_none_right_eq_some.mp hx
      rw [← Option.some.inj hx]
      exact (request_fails _ _ _ _).map _
  | sync q os =>
      obtain ⟨_, hx⟩ := Option.ite_none_right_eq_some.mp hx
      rw [← Option.some.inj hx]
      unfold Request.callSync
      refine (request_fails _ _ _ _).bind (fun ⟨w₁, r⟩ _ => ?_)
      dsimp only
      split
      · exact .ok _
      · exact .ok _
  | setTimeout us =>
      obtain ⟨_, hx⟩ := Option.ite_none_right_eq_some.mp hx
      rw [← Option.some.inj hx]
      exact .ok _
  | setStatusCallback set =>
      obtain ⟨_, hx⟩ := Option.ite_none_right_eq_some.mp hx
      rw [← Option.some.inj hx]
      exact .ok _
  | tick =>
      obtain ⟨_, hx⟩ := Option.ite_none_right_eq_some.mp hx
      rw [← Option.some.inj hx]
      exact .ok _
  | expire addr =>
      obtain ⟨e, _, _, he, hx⟩ := act_expire hx
      obtain ⟨_, _, handled, rfl, ⟨_, rfl⟩ | ⟨_, rfl⟩⟩ := handleExpiry_cases hx
      · refine FailsOnly.map ?_ _
        unfold asyncHandler
        split
        · exact linked_error (by decide) (by decide)
        · rename_i t ht
          exact complete_fails_linked h (taskWithTimer_mem ht).1 _
      · refine FailsOnly.map ?_ _
        unfold heartbeatTimeoutHandler Registry.heartbeatTimeoutHandler
        refine FailsOnly.bind ?_ (fun _ _ => .ok _)
        split
        · exact linked_error (by decide) (by decide)
        · obtain ⟨hem, haddr⟩ := fdEntryAt_mem he
          obtain ⟨r', hr'⟩ := fdEntryClose_ok (h.fdEntryAt hem)
          rw [hr']
          exact .ok _
  | receive frame pick malloc =>
      dsimp only at hx
      split at hx
      · obtain ⟨_, hx⟩ := Option.ite_none_right_eq_some.mp hx
        rw [← Option.some.inj hx]
        unfold canSocketHandler
        dsimp only
        split
        · exact .ok _
        · rename_i canard _ tfr buffer _
          unfold handleTransfer
          exact (dispatch_fails (w := withCanard w canard) h tfr pick malloc).bind
            (fun ⟨_, _⟩ _ => .ok _)
      · simp at hx
  | idle sends =>
      dsimp only at hx
      split at hx
      · rw [← Option.some.inj hx]
        exact .ok _
      · simp at hx
  | loop =>
      dsimp only at hx
      split at hx
      · split at hx
        · rw [← Option.some.inj hx]
          exact .ok _
        · rw [← Option.some.inj hx]
          exact .ok _
      · simp at hx
  | ret =>
      dsimp only at hx
      split at hx
      · rename_i rest payload stack hs
        rw [← Option.some.inj hx]
        unfold leaveUserCode
        refine FailsOnly.bind ?_ (fun _ _ => .ok _)
        cases rest with
        | completion task record =>
            obtain ⟨t, ht, rfl⟩ := hopen task (by rw [hs]; simp [completions])
            exact (finishCompletion_linked (w := { w with stack := stack }) h ht record).mono
              (fun _ hf => hf.not_link)
        | status => exact .ok _
      · simp at hx

end Wlmio.Proof
