import Wlmio.Proof.Accepted
import Wlmio.Proof.Transmission
import Wlmio.Pywlmio.Requests

/-!
# What a Python write sends

`Node.register_access` of the Python binding packs the values of the three unsigned types that
a register reply is unpacked for. The values of every other type are dropped without a word:
the request has the type and no elements (`register_write_carried_iff`). The write is lost as a
whole where the transmission queue has no room for its frames, since nobody looks at what
`canardTxPush` returns.
-/

namespace Wlmio.Proof

open Wlmio.Client Wlmio.Canard Wlmio.Pywlmio

/-! ## What a request conveys -/

/-- The element of a register of this type stands for this value. -/
def Stands (type : RegisterType) (element : Nat) : PyValue → Prop
  | .int n => ElementIs type.value element n
  | .float bits => match type with
    | .float64 | .float32 | .float16 => bits = element
    | _ => False
  | .str c => type = .string ∧ c.toNat = element

/-- The request has the type, and an element for each of the values. -/
structure Conveys (q : AccessRequest) (regType : RegisterType) (values : List PyValue) : Prop where
  type : q.type = regType.value
  length : q.length = values.length
  elements : List.Forall₂ (Stands regType) (elementsOf q.type q.length q.value) values

/-- The call has made one register request to the node, and its frames are queued or sent. -/
structure Emitted (w w' : World) (nodeId : BitVec 8) (i : Issued) : Prop where
  issued : w'.bus.issued = w.bus.issued ++ [i]
  service : i.service = .registerAccess
  node : i.transfer.remoteNodeId = nodeId.toNat
  pushed : 0 ≤ i.pushed
  frames : FramesQueued w.bus w'.bus (requestFrames w.bus.canard.nodeId i)

/-- The call raises, and nothing is sent; or it emits one request, which conveys the values. -/
def WriteCarried (w : World) (nodeId : BitVec 8) (type : RegisterType) (values : List PyValue) :
    Except Fault (World × Option RequestError) → Prop
  | .error _ => False
  | .ok (w', some _) => w'.bus = w.bus
  | .ok (w', none) => ∃ i q, Emitted w w' nodeId i ∧
      readRequest i.transfer.payload = some q ∧ Conveys q type values

/-! ## Packing -/

/-- The types that `Node.register_access` has a branch for, with the size of an element. -/
def packSize : RegisterType → Option Nat
  | .uint32 => some 4
  | .uint16 => some 2
  | .uint8 => some 1
  | _ => none

/-- An integer of so many bytes. -/
def FitsIn (size : Nat) (v : PyValue) : Prop := ∃ n : Nat, v = .int n ∧ n < 256 ^ size

theorem packNumbers_ok {size : Nat} {ns : List Nat} (h : ∀ n ∈ ns, n < 256 ^ size) :
    packNumbers size (ns.map (fun n : Nat => PyValue.int n)) = .ok (ns.flatMap (Bytes.ofNat size)) := by
  induction ns with
  | nil => rfl
  | cons n ns ih =>
      obtain ⟨hn, hns⟩ := List.forall_mem_cons.mp h
      have hcast : (n : Int) < 256 ^ size := by exact_mod_cast hn
      rw [List.map_cons, packNumbers, if_pos ⟨Int.natCast_nonneg n, hcast⟩, ih hns,
        List.flatMap_cons]
      rfl

theorem packNumbers_error {size : Nat} {values : List PyValue} (h : ∃ v ∈ values, ¬ FitsIn size v) :
    packNumbers size values = .error .structError := by
  induction values with
  | nil =>
      obtain ⟨v, hv, _⟩ := h
      cases hv
  | cons v values ih =>
      cases v with
      | int n =>
          unfold packNumbers
          split
          · rename_i hfit
            -- this one fits, so it is another that does not
            have hthis : FitsIn size (.int n) := by
              refine ⟨n.toNat, by rw [Int.toNat_of_nonneg hfit.1], ?_⟩
              exact (Int.toNat_lt hfit.1).mpr (by exact_mod_cast hfit.2)
            obtain ⟨v, hv, hno⟩ := h
            rcases List.mem_cons.mp hv with rfl | hv
            · exact absurd hthis hno
            · rw [ih ⟨v, hv, hno⟩]
              rfl
          · rfl
      | float bits => rfl
      | str c => rfl

/-- Values that fit are numbers. -/
theorem numbers_of_fit {size : Nat} {values : List PyValue} (h : ∀ v ∈ values, FitsIn size v) :
    ∃ ns : List Nat, values = ns.map (fun n : Nat => PyValue.int n) ∧ ∀ n ∈ ns, n < 256 ^ size := by
  induction values with
  | nil => exact ⟨[], rfl, fun n hn => by cases hn⟩
  | cons v values ih =>
      obtain ⟨⟨n, rfl, hn⟩, hvalues⟩ := List.forall_mem_cons.mp h
      obtain ⟨ns, rfl, hns⟩ := ih hvalues
      exact ⟨n :: ns, rfl, List.forall_mem_cons.mpr ⟨hn, hns⟩⟩

theorem packValue_branch {type : RegisterType} {size : Nat} (h : packSize type = some size)
    (values : List PyValue) : packValue (some type) (some values) =
      packNumbers size values >>= packRegister type values.length := by
  cases type with
  | uint32 => obtain rfl := Option.some.inj h; rfl
  | uint16 => obtain rfl := Option.some.inj h; rfl
  | uint8 => obtain rfl := Option.some.inj h; rfl
  | _ => cases h

theorem packValue_other {type : RegisterType} (h : packSize type = none) (values : List PyValue) :
    packValue (some type) (some values) = packRegister type 0 [] := by
  cases type with
  | uint32 => cases h
  | uint16 => cases h
  | uint8 => cases h
  | _ => rfl

/-! ## The name -/

/-- A string that can be passed to C. -/
def Passable (name : List CodePoint) : Prop := ∀ c ∈ name, ∃ k : Char, c = .char k ∧ k.val.toNat ≠ 0

theorem zero_eq_octet {n : Nat} (h : n < 256) : 0#8 = (UInt8.ofNat n).toBitVec ↔ n = 0 := by
  have hbyte : (UInt8.ofNat n).toBitVec = BitVec.ofNat 8 n := rfl
  rw [hbyte, eq_comm, ← BitVec.toNat_inj, BitVec.toNat_ofNat, Nat.mod_eq_of_lt h]
  rfl

/-- Only the encoding of U+0000 has a zero byte. -/
theorem zero_mem_utf8 (c : Char) :
    0#8 ∈ (String.utf8EncodeChar c).map UInt8.toBitVec ↔ c.val.toNat = 0 := by
  unfold String.utf8EncodeChar
  dsimp only
  split
  · rw [List.map_singleton, List.mem_singleton, zero_eq_octet (by omega)]
  · split
    · simp only [List.map_cons, List.map_nil, List.mem_cons, List.not_mem_nil, or_false]
      rw [zero_eq_octet (by omega), zero_eq_octet (by omega)]
      omega
    · split
      · simp only [List.map_cons, List.map_nil, List.mem_cons, List.not_mem_nil, or_false]
        rw [zero_eq_octet (by omega), zero_eq_octet (by omega), zero_eq_octet (by omega)]
        omega
      · simp only [List.map_cons, List.map_nil, List.mem_cons, List.not_mem_nil, or_false]
        rw [zero_eq_octet (by omega), zero_eq_octet (by omega), zero_eq_octet (by omega),
          zero_eq_octet (by omega)]
        omega

theorem passable_cons (k : Char) (name : List CodePoint) :
    Passable (.char k :: name) ↔ k.val.toNat ≠ 0 ∧ Passable name := by
  unfold Passable
  rw [List.forall_mem_cons]
  simp

/-- A surrogate has no encoding; otherwise the string is not passable if there is a zero byte. -/
theorem encodeUtf8_cases (name : List CodePoint) :
    (encodeUtf8 name = none ∧ ¬ Passable name) ∨
      ∃ bytes, encodeUtf8 name = some bytes ∧ (0#8 ∉ bytes ↔ Passable name) ∧
        (bytes = [] ↔ name = []) := by
  induction name with
  | nil => exact .inr ⟨[], rfl, by simp [Passable], by simp⟩
  | cons c name ih =>
      cases c with
      | surrogate n =>
          refine .inl ⟨rfl, fun h => ?_⟩
          obtain ⟨k, hk, _⟩ := h _ List.mem_cons_self
          cases hk
      | char k =>
          rw [passable_cons, encodeUtf8]
          rcases ih with ⟨hnone, hno⟩ | ⟨bytes, hsome, hzero, _⟩
          · rw [hnone]
            exact .inl ⟨rfl, fun h => hno h.2⟩
          · rw [hsome]
            refine .inr ⟨_, rfl, ?_, ?_⟩
            · rw [List.mem_append, not_or, zero_mem_utf8, hzero]
            · simp

theorem parseString_cases (name : List CodePoint) :
    (¬ Passable name ∧ ∃ e, parseString name = .error e) ∨
      (Passable name ∧ ∃ bytes, parseString name = .ok bytes ∧ encodeUtf8 name = some bytes ∧
        cString bytes = bytes ∧ (bytes = [] ↔ name = [])) := by
  unfold parseString
  rcases encodeUtf8_cases name with ⟨hnone, hno⟩ | ⟨bytes, hsome, hzero, hempty⟩
  · rw [hnone]
    exact .inl ⟨hno, _, rfl⟩
  · rw [hsome]
    dsimp only
    by_cases hmem : 0#8 ∈ bytes
    · rw [if_pos hmem]
      exact .inl ⟨fun h => hzero.mpr h hmem, _, rfl⟩
    · rw [if_neg hmem]
      exact .inr ⟨hzero.mp hmem, bytes, rfl, rfl, cString_eq_self_iff.mpr hmem, hempty⟩

/-! ## The native call -/

/-- What nobody checks is granted: the buffer of the payload, the entry of the timer where one is
made, and the queue items for the frames of a payload of so many bytes. -/
structure Served (r : Registry) (os : Os) (size : Nat) : Prop where
  payload : os.payloadMalloc = true
  timer : os.entryMalloc = true → 0 ≤ r.newFd os.timerfdCreate → os.timerfdSettime = true →
    os.fdEntryMalloc = true
  room : frameCount size ≤ os.txRoom

theorem asyncAdd_returns_iff {r : Registry} {os : Os} (he : 0 ≤ r.epollfd) (id : Nat)
    (timeout : BitVec 64) (param : Param) (cb : Callback) (serial : Nat) :
    (∃ x, r.asyncAdd id timeout param (some cb) serial os = .ok x) ↔
      (os.entryMalloc = true → 0 ≤ r.newFd os.timerfdCreate → os.timerfdSettime = true →
        os.fdEntryMalloc = true) := by
  unfold Registry.asyncAdd Registry.fdEntryAdd
  rw [if_neg (by omega)]
  dsimp only
  split
  · rename_i hentry
    refine iff_of_true ⟨_, rfl⟩ (fun h => ?_)
    rw [h] at hentry
    cases hentry
  · rename_i hentry
    split
    · rename_i hfd
      exact iff_of_true ⟨_, rfl⟩ (fun _ h => absurd h (by omega))
    · rename_i hfd
      split
      · rename_i hset
        refine iff_of_true ⟨_, rfl⟩ (fun _ _ h => ?_)
        rw [h] at hset
        cases hset
      · rename_i hset
        split
        · rename_i hadd
          exact iff_of_true ⟨_, rfl⟩ (fun _ _ _ => hadd)
        · rename_i hadd
          refine iff_of_false (fun ⟨x, hx⟩ => by cases hx) (fun h => hadd ?_)
          exact h (by simpa using hentry) (by omega) (by simpa using hset)

theorem submit_returns_iff {w : World} (he : 0 ≤ w.registry.epollfd) (service : Service)
    (nodeId : Nat) (payload : List Byte) (param : Param) (cb : Callback) (os : Os) :
    (∃ w', submit w service nodeId payload param (some cb) os = .ok w') ↔
      (os.entryMalloc = true → 0 ≤ w.registry.newFd os.timerfdCreate → os.timerfdSettime = true →
        os.fdEntryMalloc = true) := by
  rw [← asyncAdd_returns_iff he (makeRspSpecifier (requestTransfer w.bus service nodeId payload))
    w.timeout param cb w.bus.issued.length]
  constructor
  · rintro ⟨w', h⟩
    obtain ⟨w₁, h, _⟩ := Fallible.bind_eq_ok.mp h
    obtain ⟨x, hx, _⟩ := Fallible.bind_eq_ok.mp h
    exact ⟨x, hx⟩
  · rintro ⟨x, hx⟩
    unfold submit registerTask
    dsimp only
    rw [hx]
    exact ⟨_, rfl⟩

/-- **What the native call comes to** with a register that is valid. If all is granted it has emitted
one request, with the payload that `wlmio_register_access` builds. Otherwise it does not return, or
it returns and the queue has nothing of the request. -/
theorem registerAccess_served {w : World} (h : Reachable w) {nodeId : BitVec 8} {name : List Byte}
    {reg : WlmioRegisterAccess} {regr : Param} {cb : Callback} {os : Os}
    (hok : ¬ RefusedAccess nodeId (some name) (some reg) regr) :
    let payload := requestName name ++ requestRegister (some reg)
    (Served w.registry os payload.length ∧ ∃ w' i,
        wlmioRegisterAccess w nodeId (some name) (some reg) regr (some cb) os = .ok (w', 0) ∧
        Emitted w w' nodeId i ∧ i.transfer.payload = payload) ∨
      (¬ Served w.registry os payload.length ∧
        ((∃ f, wlmioRegisterAccess w nodeId (some name) (some reg) regr (some cb) os = .error f) ∨
          ∃ w' i, wlmioRegisterAccess w nodeId (some name) (some reg) regr (some cb) os =
            .ok (w', 0) ∧ w'.bus.issued = w.bus.issued ++ [i] ∧ i.pushed < 0)) := by
  intro payload
  have hepoll := epollfd_reachable h
  have hout := outgoing_reachable h
  have hnode : nodeId.toNat ≤ CANARD_NODE_ID_MAX := by
    by_contra hlt
    exact hok (.inl (Nat.le_of_lt (Nat.not_le.mp hlt)))
  have hvalid : ∀ r ∈ some reg, validateRegisterAccess r = 0 := by
    intro r hr
    by_contra hne
    exact hok (.inr (.inr (.inr ⟨r, hr, hne⟩)))
  unfold wlmioRegisterAccess
  dsimp only
  rw [if_neg (fun hr => hok (refusedAccess_iff.mpr hr)), registerAccessPayload_ok name hvalid]
  by_cases hmalloc : os.payloadMalloc = true
  · have hreturns := submit_returns_iff hepoll .registerAccess nodeId.toNat payload regr cb os
    rw [if_neg (by simp [hmalloc])]
    by_cases htimer : os.entryMalloc = true → 0 ≤ w.registry.newFd os.timerfdCreate →
        os.timerfdSettime = true → os.fdEntryMalloc = true
    · obtain ⟨w', hw'⟩ := hreturns.mpr htimer
      have hbus := submit_bus hw'
      have hissued := pushed_issued w.registry w.bus .registerAccess nodeId.toNat payload os
      rw [Fallible.ok_bind, hw']
      by_cases hroom : frameCount payload.length ≤ os.txRoom
      · obtain ⟨hpushed, hframes⟩ := busAfter_queued hout .registerAccess hnode hroom
        rw [← hbus] at hframes
        exact .inl ⟨⟨hmalloc, htimer, hroom⟩, w', _, rfl,
          ⟨hbus ▸ hissued, rfl, rfl, hpushed, hframes⟩, rfl⟩
      · exact .inr ⟨fun hs => hroom hs.room, .inr ⟨w', _, rfl, hbus ▸ hissued,
          nextIssued_refused hout .registerAccess hnode hroom⟩⟩
    · refine .inr ⟨fun hs => htimer hs.timer, .inl ?_⟩
      cases hsubmit : submit w .registerAccess nodeId.toNat payload regr (some cb) os with
      | ok w' => exact absurd (hreturns.mp ⟨w', hsubmit⟩) htimer
      | error f => exact ⟨f, by rw [Fallible.ok_bind, hsubmit]; rfl⟩
  · refine .inr ⟨fun hs => hmalloc hs.payload, .inl ⟨.nullDereference, ?_⟩⟩
    rw [if_pos (by simp [hmalloc])]

/-- The bytes of a request with this name and so many for the register. -/
def requestSize (name : List CodePoint) (registerSize : Nat) : Nat :=
  1 + min ((encodeUtf8 name).getD []).length 50 + registerSize

theorem nativeRegisterAccess_passed (w : World) (nodeId : BitVec 8) {name : List CodePoint}
    {bytes : List Byte} (reg : WlmioRegisterAccess) (future : Nat) {os : Os}
    (hname : parseString name = .ok bytes) (hmalloc : os.recordMalloc = true) :
    nativeRegisterAccess w nodeId name reg future os =
      (wlmioRegisterAccess w nodeId (some bytes) (some reg) (.register future)
        (some (.caller (.user future))) os).map
        (fun x => (x.1, if x.2 < 0 then some RequestError.systemError else none)) := by
  unfold nativeRegisterAccess
  rw [hname]
  dsimp only
  rw [if_neg (by simp [hmalloc])]
  cases wlmioRegisterAccess w nodeId (some bytes) (some reg) (.register future)
      (some (.caller (.user future))) os with
  | ok x => rfl
  | error f => rfl

/-- **A request that is not refused** is carried if it is served and reads back. -/
theorem accepted_carried_iff {w : World} (h : Reachable w) {nodeId : BitVec 8} {bytes : List Byte}
    {reg : WlmioRegisterAccess} {regr : Param} {cb : Callback} {os : Os} {type : RegisterType}
    {values : List PyValue} (hok : ¬ RefusedAccess nodeId (some bytes) (some reg) regr) :
    WriteCarried w nodeId type values
        ((wlmioRegisterAccess w nodeId (some bytes) (some reg) regr (some cb) os).map
          (fun x => (x.1, if x.2 < 0 then some RequestError.systemError else none))) ↔
      Served w.registry os (requestName bytes ++ requestRegister (some reg)).length ∧
        ∃ q, readRequest (requestName bytes ++ requestRegister (some reg)) = some q ∧
          Conveys q type values := by
  rcases registerAccess_served h hok with ⟨hserved, w', i, hcall, hemitted, hpayload⟩ |
    ⟨hserved, ⟨f, hcall⟩ | ⟨w', i, hcall, hissued, hpushed⟩⟩
  · rw [hcall]
    constructor
    · rintro ⟨j, q, hj, hq, hconveys⟩
      obtain rfl := List.head_eq_of_cons_eq
        (List.append_cancel_left (hemitted.issued.symm.trans hj.issued))
      exact ⟨hserved, q, hpayload ▸ hq, hconveys⟩
    · rintro ⟨_, q, hq, hconveys⟩
      exact ⟨i, q, hemitted, hpayload ▸ hq, hconveys⟩
  · rw [hcall]
    exact iff_of_false (fun h => h) (fun h => hserved h.1)
  · -- the request is counted, and nothing of it is queued
    rw [hcall]
    refine iff_of_false ?_ (fun h => hserved h.1)
    rintro ⟨j, q, hj, _⟩
    obtain rfl := List.head_eq_of_cons_eq
      (List.append_cancel_left (hissued.symm.trans hj.issued))
    exact Int.not_lt.mpr hj.pushed hpushed

/-- **What the binding makes of a packed register**: Python raises for the name, the native function
refuses the call, or the request is sent. `carried` says what reading it back comes to. -/
theorem native_carried_iff {w : World} (h : Reachable w) {nodeId : BitVec 8}
    {name : List CodePoint} {reg : WlmioRegisterAccess} {future : Nat} {os : Os}
    {type : RegisterType} {values : List PyValue} {size : Nat} (carried : Prop)
    (hsize : validateRegisterAccess reg = 0 → (requestRegister (some reg)).length = size)
    (hread : validateRegisterAccess reg = 0 → ∀ n,
      (∃ q, readRegisterValue n (requestRegister (some reg)) = some q ∧ Conveys q type values) ↔
        carried) :
    WriteCarried w nodeId type values (nativeRegisterAccess w nodeId name reg future os) ↔
      ¬ Passable name ∨ (os.recordMalloc = true ∧
        ((CANARD_NODE_ID_MAX ≤ nodeId.toNat ∨ name = [] ∨ validateRegisterAccess reg ≠ 0) ∨
          (Served w.registry os (requestSize name size) ∧ carried))) := by
  rcases parseString_cases name with ⟨hno, e, he⟩ | ⟨hpass, bytes, hok, hutf8, hstring, hempty⟩
  · unfold nativeRegisterAccess
    rw [he]
    exact iff_of_true rfl (.inl hno)
  by_cases hmalloc : os.recordMalloc = true
  · rw [nativeRegisterAccess_passed w nodeId reg future hok hmalloc]
    have hrefused : RefusedAccess nodeId (some bytes) (some reg) (.register future) ↔
        (CANARD_NODE_ID_MAX ≤ nodeId.toNat ∨ name = [] ∨ validateRegisterAccess reg ≠ 0) := by
      rw [refusedAccess_iff, hstring, hempty]
      simp
    by_cases hr : RefusedAccess nodeId (some bytes) (some reg) (.register future)
    · rw [registerAccess_refused hr]
      exact iff_of_true rfl (.inr ⟨hmalloc, .inl (hrefused.mp hr)⟩)
    · have hvalid : validateRegisterAccess reg = 0 := by
        by_contra hne
        exact hr (hrefused.mpr (.inr (.inr hne)))
      have hlength : (requestName bytes ++ requestRegister (some reg)).length =
          requestSize name size := by
        unfold requestSize
        rw [List.length_append, hsize hvalid, hutf8, length_requestName, hstring]
        rfl
      rw [accepted_carried_iff h hr, hlength, readRequest_name, hread hvalid]
      constructor
      · exact fun hserved => .inr ⟨hmalloc, .inr hserved⟩
      · rintro (hno | ⟨_, hrefuse | hserved⟩)
        · exact absurd hpass hno
        · exact absurd (hrefused.mpr hrefuse) hr
        · exact hserved
  · unfold nativeRegisterAccess
    rw [hok]
    dsimp only
    rw [if_pos (by simp [hmalloc])]
    refine iff_of_false (fun h => h) ?_
    rintro (hno | ⟨hm, _⟩)
    · exact hno hpass
    · exact hmalloc hm

/-! ## Reading the request back -/

theorem value_lt (type : RegisterType) : type.value < 15 := by
  cases type <;> decide

theorem packRegister_ok (type : RegisterType) {length : Nat} (data : List Byte)
    (h : length ≤ UINT16_MAX) : ∃ reg, packRegister type length data = .ok reg ∧
      reg.type.toNat = type.value ∧ reg.length.toNat = length ∧
      reg.value = (data ++ List.replicate 256 0#8).take 256 := by
  refine ⟨_, if_pos h, ?_, ?_, rfl⟩
  · exact Nat.mod_eq_of_lt (Nat.lt_of_lt_of_le (value_lt type) (by decide))
  · exact Nat.mod_eq_of_lt (Nat.lt_succ_of_le h)

theorem validate_iff {reg : WlmioRegisterAccess} {type : RegisterType}
    (htype : reg.type.toNat = type.value) :
    validateRegisterAccess reg ≠ 0 ↔ maxLength type.value < reg.length.toNat := by
  have hlt : ¬ WLMIO_REGISTER_VALUE_FLOAT16 < type.value :=
    Nat.not_lt.mpr (Nat.le_of_lt_succ (value_lt type))
  unfold validateRegisterAccess
  rw [htype, if_neg hlt]
  split
  · rename_i hlong
    exact iff_of_true (by decide) hlong
  · rename_i hlong
    exact iff_of_false (fun h => h rfl) hlong

/-- A register without elements. -/
theorem read_nothing {reg : WlmioRegisterAccess} {type : RegisterType}
    (htype : reg.type.toNat = type.value) (hlength : reg.length.toNat = 0) (n : List Byte) :
    readRegisterValue n (requestRegister (some reg)) = some ⟨n, type.value, 0, []⟩ := by
  by_cases hempty : reg.type.toNat = WLMIO_REGISTER_VALUE_EMPTY
  · rw [readRegisterValue_empty n (fun r hr => by rw [← Option.some.inj hr]; exact hempty),
      ← htype, hempty]
  · have hvalid : validateRegisterAccess reg = 0 := by
      by_contra hne
      rw [← ne_eq, validate_iff htype, hlength] at hne
      exact Nat.not_lt_zero _ hne
    have hwritten : writtenSize reg = 0 := by
      unfold writtenSize
      rw [hlength, Nat.zero_mul]
    have hsize : valueSize reg = 0 := by
      unfold valueSize
      rw [hlength, Nat.zero_mul]
    rw [readRegisterValue_register n ⟨hempty, hvalid⟩, if_pos (by rw [hwritten, hsize]), htype,
      hlength, hwritten, List.take_zero]

/-- What is read back of it is the values only if there were none. -/
theorem conveys_nothing_iff (n : List Byte) (type : RegisterType) {values : List PyValue} :
    Conveys ⟨n, type.value, 0, []⟩ type values ↔ values = [] := by
  constructor
  · intro h
    exact List.length_eq_zero_iff.mp h.length.symm
  · rintro rfl
    refine ⟨rfl, rfl, ?_⟩
    unfold elementsOf
    split
    · exact .nil
    · exact .nil

theorem packSize_facts {type : RegisterType} {size : Nat} (h : packSize type = some size) :
    bitWidth type.value = 8 * size ∧ type.value ≠ WLMIO_REGISTER_VALUE_EMPTY ∧
      type.value ≠ WLMIO_REGISTER_VALUE_BIT ∧ maxLength type.value * size = 256 ∧
      ∀ n : Nat, Stands type n (.int n) := by
  cases type with
  | uint32 =>
      obtain rfl := Option.some.inj h
      exact ⟨rfl, by decide, by decide, rfl, fun n => rfl⟩
  | uint16 =>
      obtain rfl := Option.some.inj h
      exact ⟨rfl, by decide, by decide, rfl, fun n => rfl⟩
  | uint8 =>
      obtain rfl := Option.some.inj h
      exact ⟨rfl, by decide, by decide, rfl, fun n => rfl⟩
  | _ => cases h

/-- The bytes of a register of this type with so many elements. -/
def registerSize (type : RegisterType) (count : Nat) : Nat :=
  if type = .empty then 1 else 1 + lengthWidth type.value + (packSize type).getD 0 * count

theorem value_eq_empty_iff (type : RegisterType) :
    type.value = WLMIO_REGISTER_VALUE_EMPTY ↔ type = .empty := by
  cases type <;> decide

theorem length_requestRegister {reg : WlmioRegisterAccess} {type : RegisterType}
    (htype : reg.type.toNat = type.value) (hwritten : writtenSize reg ≤ 256) :
    (requestRegister (some reg)).length =
      if type = .empty then 1 else 1 + lengthWidth type.value + writtenSize reg := by
  unfold requestRegister
  dsimp only
  rw [htype]
  by_cases hempty : type = .empty
  · rw [if_pos hempty, if_pos ((value_eq_empty_iff type).mpr hempty)]
    rfl
  · rw [if_neg hempty, if_neg (fun h => hempty ((value_eq_empty_iff type).mp h)), List.length_cons,
      List.length_append, Bytes.length_ofNat, List.length_take, reg.value_length,
      Nat.min_eq_left hwritten]
    omega

/-- A register without elements, of a type without a branch. -/
theorem size_nothing {reg : WlmioRegisterAccess} {type : RegisterType} (hnone : packSize type = none)
    (htype : reg.type.toNat = type.value) (hlength : reg.length.toNat = 0) (count : Nat) :
    (requestRegister (some reg)).length = registerSize type count := by
  have hwritten : writtenSize reg = 0 := by
    unfold writtenSize
    rw [hlength, Nat.zero_mul]
  rw [length_requestRegister htype (by omega), hwritten]
  unfold registerSize
  rw [hnone, Option.getD_none, Nat.zero_mul]

/-- The elements of the types with a branch are made of whole bytes. -/
theorem writtenSize_packed {reg : WlmioRegisterAccess} {type : RegisterType} {size : Nat}
    (hsize : packSize type = some size) (htype : reg.type.toNat = type.value) :
    writtenSize reg = reg.length.toNat * size := by
  obtain ⟨hwidth, _⟩ := packSize_facts hsize
  unfold writtenSize
  rw [htype, hwidth, ← Nat.mul_assoc, Nat.mul_right_comm, Nat.mul_div_cancel _ (by omega)]

theorem size_numbers {reg : WlmioRegisterAccess} {type : RegisterType} {size : Nat}
    (hsize : packSize type = some size) (htype : reg.type.toNat = type.value)
    (hvalid : validateRegisterAccess reg = 0) :
    (requestRegister (some reg)).length = registerSize type reg.length.toNat := by
  obtain ⟨_, hnonempty, _⟩ := packSize_facts hsize
  have hle : writtenSize reg ≤ 256 := writtenSize_le ⟨htype ▸ hnonempty, hvalid⟩
  rw [length_requestRegister htype hle, writtenSize_packed hsize htype]
  unfold registerSize
  rw [hsize, Option.getD_some, Nat.mul_comm]

/-- **Numbers that have been packed are read back.** -/
theorem read_numbers {reg : WlmioRegisterAccess} {type : RegisterType} {size : Nat}
    (hsize : packSize type = some size) {ns : List Nat} (hns : ∀ n ∈ ns, n < 256 ^ size)
    (htype : reg.type.toNat = type.value) (hlength : reg.length.toNat = ns.length)
    (hvalue : reg.value = (ns.flatMap (Bytes.ofNat size) ++ List.replicate 256 0#8).take 256)
    (hvalid : validateRegisterAccess reg = 0) (n : List Byte) :
    ∃ q, readRegisterValue n (requestRegister (some reg)) = some q ∧
      Conveys q type (ns.map (fun n : Nat => PyValue.int n)) := by
  obtain ⟨hwidth, hnonempty, hbit, hmax, hstands⟩ := packSize_facts hsize
  have hreg : ValidRegister reg := ⟨htype ▸ hnonempty, hvalid⟩
  have hwritten : writtenSize reg = ns.length * size := by
    rw [writtenSize_packed hsize htype, hlength]
  have hvaluesize : valueSize reg = ns.length * size := by
    unfold valueSize
    rw [htype, hlength, hwidth]
    have hcomm : ns.length * (8 * size) = 8 * (ns.length * size) := Nat.mul_left_comm _ _ _
    omega
  have hdata : (ns.flatMap (Bytes.ofNat size)).length = ns.length * size := by
    simp [List.length_flatMap]
  have hfits : ns.length * size ≤ 256 := by
    rw [← hmax]
    exact Nat.mul_le_mul_right size (by rw [← hlength, ← htype]; exact hreg.length_le)
  have htake : reg.value.take (writtenSize reg) = ns.flatMap (Bytes.ofNat size) := by
    rw [hwritten, hvalue, List.take_take, Nat.min_eq_left hfits, ← hdata, List.take_left]
  rw [readRegisterValue_register n hreg, if_pos (by rw [hwritten, hvaluesize]), htake, htype, hlength]
  refine ⟨_, rfl, rfl, (List.length_map _).symm, ?_⟩
  unfold elementsOf
  dsimp only
  rw [if_neg hbit, hwidth, Nat.mul_div_cancel_left size (by omega), Bytes.words_flatMap_ofNat size ns hns]
  refine List.forall₂_map_right_iff.mpr (List.forall₂_same.mpr (fun n _ => hstands n))

/-! ## The call -/

/-- The values do not fit the native struct, or the name is no C string. -/
def RaisesInPython (name : List CodePoint) (type : RegisterType) (values : List PyValue) : Prop :=
  (∃ size ∈ packSize type, (∃ v ∈ values, ¬ FitsIn size v) ∨ UINT16_MAX < values.length) ∨
    ¬ Passable name

/-- The native function refuses the node, the name or the number of values. -/
def RefusedNatively (nodeId : BitVec 8) (name : List CodePoint) (type : RegisterType)
    (values : List PyValue) : Prop :=
  CANARD_NODE_ID_MAX ≤ nodeId.toNat ∨ name = [] ∨
    ((packSize type).isSome ∧ maxLength type.value < values.length)

/-- **A write is carried exactly when** it raises before anything is sent, or all that it takes is
granted and its type has a branch or there are no values. -/
theorem register_write_carried_iff {w : World} (h : Reachable w) (nodeId : BitVec 8)
    (name : List CodePoint) (type : RegisterType) (values : List PyValue) (future : Nat) (os : Os) :
    WriteCarried w nodeId type values
        (nodeRegisterAccess w nodeId name (some type) (some values) future os) ↔
      RaisesInPython name type values ∨ (os.recordMalloc = true ∧
        (RefusedNatively nodeId name type values ∨
          (Served w.registry os (requestSize name (registerSize type values.length)) ∧
            ((packSize type).isSome ∨ values = [])))) := by
  unfold nodeRegisterAccess
  cases hsize : packSize type with
  | none =>
      obtain ⟨reg, hreg, htype, hlength, _⟩ := packRegister_ok type [] (Nat.zero_le _)
      rw [packValue_other hsize, hreg]
      have hvalid : ¬ validateRegisterAccess reg ≠ 0 := by
        rw [validate_iff htype, hlength]
        exact Nat.not_lt_zero _
      refine (native_carried_iff h (values = [])
        (fun _ => size_nothing hsize htype hlength values.length) (fun _ n => ?_)).trans ?_
      · rw [read_nothing htype hlength n, ← conveys_nothing_iff n type]
        simp
      · unfold RaisesInPython RefusedNatively
        rw [hsize]
        simp [hvalid]
  | some size =>
      rw [packValue_branch hsize]
      by_cases hfit : ∀ v ∈ values, FitsIn size v
      · obtain ⟨ns, rfl, hns⟩ := numbers_of_fit hfit
        rw [packNumbers_ok hns, Fallible.ok_bind]
        by_cases hlong : (ns.map (fun n : Nat => PyValue.int n)).length ≤ UINT16_MAX
        · obtain ⟨reg, hreg, htype, hlength, hvalue⟩ :=
            packRegister_ok type (ns.flatMap (Bytes.ofNat size)) hlong
          rw [hreg]
          refine (native_carried_iff h True (size_numbers hsize htype) (fun hvalid n => ?_)).trans ?_
          · rw [List.length_map] at hlength
            exact iff_of_true (read_numbers hsize hns htype hlength hvalue hvalid n) trivial
          · unfold RaisesInPython RefusedNatively
            rw [hsize, validate_iff htype, hlength]
            have hno : ¬ ∃ k ∈ some size, (∃ v ∈ ns.map (fun n : Nat => PyValue.int n), ¬ FitsIn k v) ∨
                UINT16_MAX < (ns.map (fun n : Nat => PyValue.int n)).length := by
              rintro ⟨k, hk, ⟨v, hv, hnot⟩ | hlt⟩
              · exact hnot (Option.some.inj hk ▸ hfit v hv)
              · exact Nat.not_lt.mpr hlong hlt
            simp only [hno, false_or, Option.isSome_some, true_and, true_or]
        · have hraise : packRegister type (ns.map (fun n : Nat => PyValue.int n)).length
              (ns.flatMap (Bytes.ofNat size)) = .error .structError := if_neg hlong
          rw [hraise]
          exact iff_of_true rfl (.inl (.inl ⟨size, hsize, .inr (Nat.not_le.mp hlong)⟩))
      · have hsome : ∃ v ∈ values, ¬ FitsIn size v := by
          by_contra hno
          exact hfit (fun v hv => Classical.byContradiction (fun hv' => hno ⟨v, hv, hv'⟩))
        rw [packNumbers_error hsome]
        exact iff_of_true rfl (.inl (.inl ⟨size, hsize, .inl hsome⟩))

/-- A byte is written. -/
theorem register_write_carried_byte : WriteCarried started 3 .uint8 [.int 5]
    (nodeRegisterAccess started 3 [.char 'a'] (some .uint8) (some [.int 5]) 0 (grantFrom 5 0)) :=
  (register_write_carried_iff (.init initial_started) 3 [.char 'a'] .uint8 [.int 5] 0
    (grantFrom 5 0)).mpr (.inr ⟨rfl, .inr ⟨⟨rfl, fun _ _ _ => rfl, by decide⟩, .inl rfl⟩⟩)

/-- **A signed number is lost**: nothing is raised, and the request that is sent has no elements. -/
theorem signed_write_lost : Reachable started ∧ ¬ WriteCarried started 3 .int16 [.int 5]
    (nodeRegisterAccess started 3 [.char 'a'] (some .int16) (some [.int 5]) 0 (grantFrom 5 0)) := by
  refine ⟨.init initial_started, ?_⟩
  intro hcarried
  have hrun : (nodeRegisterAccess started 3 [.char 'a'] (some .int16) (some [.int 5]) 0
      (grantFrom 5 0)).toOption.any (fun x => decide (x.2 = none ∧
        x.1.bus.issued.map (fun i => i.transfer.payload) = [[1#8, 97#8, 6#8, 0#8]])) = true := by
    decide +kernel
  cases hres : nodeRegisterAccess started 3 [.char 'a'] (some .int16) (some [.int 5]) 0
      (grantFrom 5 0) with
  | error f =>
      rw [hres] at hrun
      cases hrun
  | ok x =>
      rw [hres] at hrun hcarried
      obtain ⟨w', raised⟩ := x
      obtain ⟨rfl, hpayload⟩ := of_decide_eq_true hrun
      obtain ⟨i, q, hemitted, hq, hconveys⟩ := hcarried
      rw [hemitted.issued, (fresh_of_initial initial_started).issued] at hpayload
      have hpayload : i.transfer.payload = [1#8, 97#8, 6#8, 0#8] := List.singleton_inj.mp hpayload
      rw [hpayload] at hq
      have hread : readRequest [1#8, 97#8, 6#8, 0#8] = some ⟨[97#8], 6, 0, []⟩ := by decide
      obtain rfl := Option.some.inj (hq.symm.trans hread)
      exact absurd hconveys.length (by decide)

end Wlmio.Proof
