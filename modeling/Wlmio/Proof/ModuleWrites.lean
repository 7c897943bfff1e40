import Wlmio.Proof.Arguments
import Wlmio.Proof.PythonWrites
import Wlmio.Proof.Transmission
import Wlmio.Pywlmio.Modules

/-!
# Writes in C and in Python

The modules' functions of `io.c` and the methods of `pywlmio.py` that write registers: with the
same arguments, of those that the C function takes, both send the same register accesses to the
same node (`modules_write_alike`). A configuration of a 6060 channel sends its three in another
order.

The methods number the channels from one.
-/

namespace Wlmio.Proof

open Wlmio.Client Wlmio.Canard Wlmio.Pywlmio

/-- From one state to the other the accesses were sent to the node, in this order: `canardTxPush`
took them all into the queue. -/
def Sends (w w' : World) (nodeId : Nat) (accesses : List (List Byte × WlmioRegisterAccess)) : Prop :=
  ∃ is, w'.bus.issued = w.bus.issued ++ is ∧ (∀ i ∈ is, 0 ≤ i.pushed) ∧
    is.map (fun i => (i.service, i.transfer.remoteNodeId, i.transfer.payload)) =
      accesses.map (fun a => (Service.registerAccess, nodeId,
        requestName a.1 ++ requestRegister (some a.2)))

theorem Sends.nil (w : World) (nodeId : Nat) : Sends w w nodeId [] :=
  ⟨[], (List.append_nil _).symm, fun _ hi => absurd hi List.not_mem_nil, rfl⟩

theorem Sends.append {w w' w'' : World} {nodeId : Nat}
    {as bs : List (List Byte × WlmioRegisterAccess)} (h : Sends w w' nodeId as)
    (h' : Sends w' w'' nodeId bs) : Sends w w'' nodeId (as ++ bs) := by
  obtain ⟨is, his, hpushed, hmap⟩ := h
  obtain ⟨js, hjs, hpushed', hmap'⟩ := h'
  refine ⟨is ++ js, by rw [hjs, his, List.append_assoc],
    List.forall_mem_append.mpr ⟨hpushed, hpushed'⟩, ?_⟩
  rw [List.map_append, List.map_append, hmap, hmap']

/-- The client has been started, and its queue is as it should be. -/
structure Operating (w : World) : Prop where
  epollfd : 0 ≤ w.registry.epollfd
  outgoing : Outgoing w.bus

/-- The memory that nobody checks is there: for the payload, for the record and for the frames of a
request of any size. -/
structure Supplied (os : Os) : Prop where
  payload : os.payloadMalloc = true
  record : os.recordMalloc = true
  room : frameCount REQUEST_SIZE ≤ os.txRoom

/-- **An access that nothing stands in the way of** is sent. -/
theorem access_sends {w : World} {n : BitVec 8} {s : List Byte} {reg : WlmioRegisterAccess}
    {regr : Param} {os : Os} (cb : Callback) (hw : Operating w)
    (hpass : ¬ RefusedAccess n (some s) (some reg) regr) (hm : Supplied os)
    (hg : Granted w.registry os) :
    ∃ w', wlmioRegisterAccess w n (some s) (some reg) regr (some cb) os = .ok (w', 0) ∧
      AddedTask w cb os w' ∧ Operating w' ∧ Sends w w' n.toNat [(s, reg)] := by
  obtain ⟨w', hcall, hadded⟩ := access_granted cb hw.epollfd hpass hm.payload hg
  refine ⟨w', hcall, hadded, ?_⟩
  obtain ⟨hr, _⟩ | ⟨_, _, payload, hpayload, hsubmit⟩ := registerAccess_cases hcall
  · exact absurd hr hpass
  have hvalid : ∀ r ∈ some reg, validateRegisterAccess r = 0 := by
    intro r hr
    by_contra hne
    exact hpass (.inr (.inr (.inr ⟨r, hr, hne⟩)))
  have hbuilt := hpayload s rfl
  rw [registerAccessPayload_ok s hvalid] at hbuilt
  obtain rfl := Except.ok.inj hbuilt
  have hnode := node_of_accepted hpass
  have hbus := submit_bus hsubmit
  have hroom := Nat.le_trans (frameCount_mono (length_payload_le s hvalid)) hm.room
  obtain ⟨hpushed, _⟩ := busAfter_queued hw.outgoing .registerAccess hnode hroom
  refine ⟨⟨by rw [hadded.epollfd]; exact hw.epollfd, ?_⟩, ?_⟩
  · rw [hbus]
    exact (hw.outgoing.pushRequest _ _ hnode _ _).uavcanSend _
  · refine ⟨[_], ?_, List.forall_mem_singleton.mpr hpushed, rfl⟩
    rw [hbus]
    exact pushed_issued w.registry w.bus .registerAccess n.toNat _ os

/-! ## What Python sends -/

/-- An access of Python's amounts to one in C. -/
structure Amounts (a : Access) (s : List Byte) (reg : WlmioRegisterAccess) : Prop where
  name : parseString a.name = .ok s
  nonempty : cString s ≠ []
  value : packValue (some a.regType) (some a.value) = .ok reg
  valid : validateRegisterAccess reg = 0

/-- So many calls are supplied. -/
def Provided (os : Nat → Os) (n : Nat) : Prop := ∀ i, i < n → Supplied (os i)

theorem makeAccesses_sends {n : BitVec 8} (hn : n.toNat < CANARD_NODE_ID_MAX) :
    ∀ {as : List Access} {specs : List (List Byte × WlmioRegisterAccess)}
      (_ : List.Forall₂ (fun a spec => Amounts a spec.1 spec.2) as specs) {w : World} {os : Nat → Os}
      (_ : Operating w) (_ : Grants w.registry os as.length)
      (_ : Provided os as.length) (future : Nat),
      ∃ w', makeAccesses w n os future as = .ok (w', as.map (fun _ => none)) ∧
        Sends w w' n.toNat specs := by
  intro as specs hall
  induction hall with
  | nil => exact fun _ _ _ future => ⟨_, rfl, Sends.nil _ _⟩
  | @cons a spec as specs ha _ ih =>
      intro w os hw hg hmem future
      have hsupplied := hmem 0 (Nat.succ_pos _)
      have hpass : ¬ RefusedAccess n (some spec.1) (some spec.2) (.register future) := by
        rw [refused_name_iff (meaningful_write ha.valid) ha.nonempty]
        omega
      have hgranted := ((grants_succ .disarmed 0 .null (.caller (.user future)) 0).mp hg).1
      obtain ⟨w₁, hcall, hadded, hw₁, hsent⟩ := access_sends (.caller (.user future)) hw hpass
        hsupplied hgranted
      obtain ⟨w', hrest, hsents⟩ := ih hw₁ (hadded.grants.mp hg).2
        (fun i hi => hmem (i + 1) (Nat.succ_lt_succ hi)) (future + 1)
      refine ⟨w', ?_, hsent.append hsents⟩
      have hnative : nodeRegisterAccess w n a.name (some a.regType) (some a.value) future (os 0) =
          .ok (w₁, none) := by
        unfold nodeRegisterAccess nativeRegisterAccess
        rw [ha.value]
        dsimp only
        rw [ha.name]
        dsimp only
        rw [if_neg (by simp [hsupplied.record]), hcall]
        rfl
      rw [makeAccesses, hnative, Fallible.ok_bind]
      dsimp only
      rw [hrest]
      rfl

/-! ## Names and values -/

/-- A string of ASCII characters without zeros. -/
def Plain (s : String) : Prop :=
  s.toList.all (fun c => decide (0 < c.toNat ∧ c.toNat < 128)) = true

instance (s : String) : Decidable (Plain s) := inferInstanceAs (Decidable (_ = true))

theorem plain_iff {s : String} : Plain s ↔ ∀ c ∈ s.toList, 0 < c.toNat ∧ c.toNat < 128 := by
  unfold Plain
  simp only [List.all_eq_true, decide_eq_true_eq]

/-- It passes as it is. -/
theorem parse_str {s : String} (h : Plain s) : parseString (str s) = .ok (ascii s) := by
  have h := plain_iff.mp h
  have hencode : ∀ cs : List Char, (∀ c ∈ cs, 0 < c.toNat ∧ c.toNat < 128) →
      encodeUtf8 (cs.map .char) = some (cs.map (fun c => BitVec.ofNat 8 c.toNat)) := by
    intro cs
    induction cs with
    | nil => exact fun _ => rfl
    | cons c cs ih =>
        intro hcs
        obtain ⟨hc, hcs⟩ := List.forall_mem_cons.mp hcs
        have hone : (String.utf8EncodeChar c).map UInt8.toBitVec = [BitVec.ofNat 8 c.toNat] := by
          unfold String.utf8EncodeChar
          dsimp only
          rw [if_pos (show c.val.toNat ≤ 127 from Nat.le_of_lt_succ hc.2)]
          rfl
        rw [List.map_cons, encodeUtf8, ih hcs, hone]
        rfl
  have hzero : 0#8 ∉ ascii s := by
    intro hmem
    obtain ⟨c, hc, heq⟩ := List.mem_map.mp hmem
    have hnat := congrArg BitVec.toNat heq
    rw [BitVec.toNat_ofNat, Nat.mod_eq_of_lt (Nat.lt_trans (h c hc).2 (by decide))] at hnat
    have hpos := (h c hc).1
    rw [hnat] at hpos
    exact absurd hpos (by decide)
  unfold parseString str
  rw [hencode s.toList h]
  exact if_neg hzero

/-- The numbers of the channels have one digit. -/
theorem digit {ch : Nat} (hlow : 1 ≤ ch) (hhigh : ch ≤ 8) :
    (toString ch).toList = [Char.ofNat (48 + ch)] := by
  have hall : ∀ ch, ch ≤ 8 → 1 ≤ ch → (toString ch).toList = [Char.ofNat (48 + ch)] := by decide
  exact hall ch hhigh hlow

/-- The register of a channel, as both name it. -/
def channelBytes (ch : Nat) (suffix : String) : List Byte :=
  ascii "ch" ++ [BitVec.ofNat 8 (48 + ch)] ++ ascii suffix

theorem parse_channelReg {ch : Nat} (hlow : 1 ≤ ch) (hhigh : ch ≤ 8) {suffix : String}
    (h : Plain suffix) : parseString (channelReg ch suffix) = .ok (channelBytes ch suffix) := by
  have hdigit := digit hlow hhigh
  have hchars : ("ch" ++ toString ch ++ suffix).toList =
      ['c', 'h'] ++ [Char.ofNat (48 + ch)] ++ suffix.toList := by
    rw [String.toList_append, String.toList_append, hdigit]
    rfl
  have hcode : ∀ ch, ch ≤ 8 → (Char.ofNat (48 + ch)).toNat = 48 + ch := by decide
  unfold channelReg
  rw [parse_str]
  · unfold ascii channelBytes
    rw [hchars, List.map_append, List.map_append, List.map_singleton, hcode ch hhigh]
    rfl
  · refine plain_iff.mpr ?_
    intro c hc
    rw [hchars] at hc
    rcases List.mem_append.mp hc with hc | hc
    · rcases List.mem_append.mp hc with hc | hc
      · have hch : Plain "ch" := by decide
        exact plain_iff.mp hch c hc
      · rw [List.mem_singleton.mp hc, hcode ch hhigh]
        omega
    · exact plain_iff.mp h c hc

theorem channelName_eq {ch channels : Nat} (hlow : 1 ≤ ch) (hhigh : ch ≤ channels)
    (hchannels : channels ≤ 8) (suffix : String) :
    channelName channels suffix (BitVec.ofNat 8 (ch - 1)) = some (channelBytes ch suffix) := by
  have hnat : (BitVec.ofNat 8 (ch - 1)).toNat = ch - 1 := Nat.mod_eq_of_lt (by omega)
  unfold channelName
  rw [hnat, if_pos (by omega), show 49 + (ch - 1) = 48 + ch by omega]
  rfl

theorem channelBytes_nonempty (ch : Nat) (suffix : String) : cString (channelBytes ch suffix) ≠ [] := by
  have hascii : ascii "ch" = [99#8, 104#8] := by decide
  have hc : (99#8 : Byte) ≠ 0#8 := by decide
  unfold channelBytes
  rw [hascii]
  simp [cString, List.takeWhile_cons, hc]

/-- The `256s` of a short element is the element in a register of its own. -/
theorem packBytes_val {data : List Byte} (h : data.length ≤ 256) :
    (packBytes data).val = data ++ List.replicate (256 - data.length) 0#8 := by
  show (data ++ List.replicate 256 0#8).take 256 = _
  rw [List.take_append, List.take_of_length_le h, List.take_replicate,
    Nat.min_eq_left (by omega)]

theorem ofInt_toNat {w : Nat} {v : Int} (hlow : 0 ≤ v) (hhigh : v < 2 ^ w) :
    (BitVec.ofInt w v).toNat = v.toNat := by
  rw [BitVec.toNat_ofInt, Int.emod_eq_of_lt hlow (by exact_mod_cast hhigh)]

theorem packRegister_element (type : RegisterType) {data : List Byte} (h : data.length ≤ 256) :
    packRegister type 1 data = .ok (oneElement type.value data h) := by
  unfold packRegister oneElement
  rw [if_pos (by decide)]
  simp only [packBytes_val h]
  rfl

/-- One number, packed. -/
theorem packValue_number {type : RegisterType} {size : Nat} (hsize : packSize type = some size)
    (hle : size ≤ 256) {v : Int} (hlow : 0 ≤ v) (hhigh : v < 256 ^ size) :
    packValue (some type) (some [.int v]) =
      .ok (oneElement type.value (Bytes.ofNat size v.toNat) (by rw [Bytes.length_ofNat]; exact hle)) := by
  have hpack : packNumbers size [.int v] = .ok (Bytes.ofNat size v.toNat) := by
    rw [packNumbers, if_pos ⟨hlow, hhigh⟩]
    exact congrArg Except.ok (List.append_nil _)
  rw [packValue_branch hsize, hpack]
  exact packRegister_element type _

theorem amounts_uint8 {name : List CodePoint} {s : List Byte} (hname : parseString name = .ok s)
    (hs : cString s ≠ []) {v : Int} (hlow : 0 ≤ v) (hhigh : v < 256) :
    Amounts (uint8Access name v) s (uint8Register (BitVec.ofInt 8 v)) where
  name := hname
  nonempty := hs
  valid := validate_uint8Register _
  value := by
    have hbyte : Bytes.ofNat 1 v.toNat = [BitVec.ofInt 8 v] := by
      refine congrArg (fun b => [b]) (BitVec.eq_of_toNat_eq ?_)
      rw [ofInt_toNat hlow (by omega), BitVec.toNat_ofNat, Nat.mod_eq_of_lt (by omega)]
    refine (@packValue_number .uint8 1 rfl (by decide) v hlow (by omega)).trans ?_
    simp only [hbyte]
    rfl

theorem amounts_uint16 {name : List CodePoint} {s : List Byte} (hname : parseString name = .ok s)
    (hs : cString s ≠ []) {v : Int} (hlow : 0 ≤ v) (hhigh : v < 65536) :
    Amounts (uint16Access name v) s (uint16Register (BitVec.ofInt 16 v)) where
  name := hname
  nonempty := hs
  valid := validate_uint16Register _
  value := by
    refine (@packValue_number .uint16 2 rfl (by decide) v hlow (by omega)).trans ?_
    unfold uint16Register
    simp only [ofInt_toNat hlow (show v < 2 ^ 16 by omega)]
    rfl

/-! ## What C sends -/

section

variable {w : World} {n : BitVec 8} {os : Nat → Os} (hw : Operating w)
  (hn : n.toNat < CANARD_NODE_ID_MAX)
include hw hn

theorem writeRegister_sends {s : List Byte} (hs : cString s ≠ []) {reg : WlmioRegisterAccess}
    (hvalid : validateRegisterAccess reg = 0) (hm : Provided os 1) (hg : Grants w.registry os 1)
    (c : Caller) : ∃ w', writeRegister w n (some s) reg (some c) (os 0) = .ok (w', 0) ∧
      Sends w w' n.toNat [(s, reg)] := by
  have hpass : ¬ RefusedAccess n (some s) (some reg) .null := by
    rw [refused_name_iff (meaningful_write hvalid) hs]
    omega
  obtain ⟨w', hcall, _, _, hsent⟩ := access_sends (.caller c) hw hpass (hm 0 (by decide))
    (grants_one.mp hg)
  exact ⟨w', hcall, hsent⟩

theorem accessWithRecord_sends {s : List Byte} (hs : cString s ≠ []) {reg : WlmioRegisterAccess}
    (hvalid : validateRegisterAccess reg = 0) (hm : Provided os 1) (hg : Grants w.registry os 1)
    (t : IoRecord) (cb : Nat → Callback) :
    ∃ w', accessWithRecord w n (some s) (some reg) t cb (os 0) = .ok (w', 0) ∧
      Sends w w' n.toNat [(s, reg)] := by
  have hpass : ¬ RefusedAccess n (some s) (some reg) (.record w.nextRecord) := by
    rw [refused_name_iff (meaningful_write hvalid) hs]
    omega
  obtain ⟨w', hcall, _, _, hsent⟩ := @access_sends (addRecord w t) n s reg (.record w.nextRecord)
    (os 0) (cb w.nextRecord) ⟨hw.epollfd, hw.outgoing⟩ hpass (hm 0 (by decide)) (grants_one.mp hg)
  refine ⟨w', ?_, hsent⟩
  rw [accessWithRecord_accepted (hm 0 (by decide)).record hpass]
  exact hcall

theorem configureRegisters_sends {s₁ s₂ s₃ : List Byte} {r₁ r₂ r₃ : WlmioRegisterAccess}
    (hs₁ : cString s₁ ≠ []) (hs₂ : cString s₂ ≠ []) (hs₃ : cString s₃ ≠ [])
    (hr₁ : validateRegisterAccess r₁ = 0) (hr₂ : validateRegisterAccess r₂ = 0)
    (hr₃ : validateRegisterAccess r₃ = 0) (hm : Provided os 3) (hg : Grants w.registry os 3)
    (c : Caller) :
    ∃ w', configureRegisters w n (some s₁, r₁) (some s₂, r₂) (some s₃, r₃) (some c) os =
        .ok (w', 0) ∧ Sends w w' n.toNat [(s₁, r₁), (s₂, r₂), (s₃, r₃)] := by
  have hpass : ∀ {s : List Byte} {r : WlmioRegisterAccess}, cString s ≠ [] →
      validateRegisterAccess r = 0 → ¬ RefusedAccess n (some s) (some r) .null := by
    intro s r hs hr
    rw [refused_name_iff (meaningful_write hr) hs]
    omega
  have hsame : RefusedTogether n (some s₁, r₁) (some s₂, r₂) (some s₃, r₃) :=
    ⟨iff_of_false (hpass hs₂ hr₂) (hpass hs₁ hr₁), iff_of_false (hpass hs₃ hr₃) (hpass hs₁ hr₁)⟩
  rw [configureRegisters_accepted (hm 0 (by decide)).record hsame (hpass hs₁ hr₁)]
  -- one access after the other
  have hg₁ := ((grants_succ .disarmed 0 .null (.configure w.nextRecord) 0).mp hg).1
  obtain ⟨w₁, h₁, ha₁, hw₁, hsent₁⟩ := @access_sends (addRecord w (.configure 0 0 0 (some c))) n s₁ r₁
    .null (os 0) (.configure w.nextRecord) ⟨hw.epollfd, hw.outgoing⟩ (hpass hs₁ hr₁)
    (hm 0 (by decide)) hg₁
  have hg := (ha₁.grants.mp hg).2
  have hg₂ := ((grants_succ .disarmed 0 .null (.configure w.nextRecord) 0).mp hg).1
  obtain ⟨w₂, h₂, ha₂, hw₂, hsent₂⟩ := @access_sends w₁ n s₂ r₂ .null (os 1)
    (.configure w.nextRecord) hw₁ (hpass hs₂ hr₂) (hm 1 (by decide)) hg₂
  have hg₃ := grants_one.mp (ha₂.grants.mp hg).2
  obtain ⟨w₃, h₃, _, _, hsent₃⟩ := @access_sends w₂ n s₃ r₃ .null (os 2) (.configure w.nextRecord)
    hw₂ (hpass hs₃ hr₃) (hm 2 (by decide)) hg₃
  have hfirst : Sends w w₁ n.toNat [(s₁, r₁)] := hsent₁
  refine ⟨w₃, ?_, hfirst.append (hsent₂.append hsent₃)⟩
  unfold threeAccesses
  rw [h₁, Fallible.ok_bind]
  dsimp only
  rw [h₂, Fallible.ok_bind]
  exact h₃

end

/-! ## The same -/

/-- A number of one of so many channels. -/
def Numbered (channels ch : Nat) : Prop := 1 ≤ ch ∧ ch ≤ channels

/-- The arguments that the C function takes, flags as 0 and 1. -/
def Taken : Method → Prop
  | .vpe6030Write ch value => Numbered 4 ch ∧ (value = 0 ∨ value = 1)
  | .vpe6040Configure ch mode => Numbered 4 ch ∧ 0 ≤ mode ∧ mode ≤ 2
  | .vpe6050Write ch value => Numbered 4 ch ∧ 0 ≤ value ∧ value < 65536
  | .vpe6050Configure ch mode => Numbered 4 ch ∧ (mode = 0 ∨ mode = 1)
  | .vpe6060Configure ch mode polarity bias => Numbered 4 ch ∧ (0 ≤ mode ∧ mode ≤ 2) ∧
    (polarity = 0 ∨ polarity = 1) ∧ 0 ≤ bias ∧ bias ≤ 2
  | .vpe6070Write ch value => Numbered 4 ch ∧ 0 ≤ value ∧ value < 65536
  | .vpe6080Configure ch enabled beta t0 => Numbered 8 ch ∧ (enabled = 0 ∨ enabled = 1) ∧
    (0 ≤ beta ∧ beta < 65536) ∧ 0 ≤ t0 ∧ t0 < 65536
  | .vpe6090Configure ch t => Numbered 6 ch ∧ 0 ≤ t ∧ t ≤ 8
  | .vpe6190Configure ch enable => Numbered 3 ch ∧ (enable = 0 ∨ enable = 1)
  | .configure sampleInterval => 0 ≤ sampleInterval ∧ sampleInterval < 65536

/-- The call of the C function with the same arguments. -/
def inC (n : BitVec 8) : Method → Request
  | .vpe6030Write ch value => .vpe6030Write n (BitVec.ofNat 8 (ch - 1)) (BitVec.ofInt 8 value)
  | .vpe6040Configure ch mode => .vpe6040Configure n (BitVec.ofNat 8 (ch - 1)) (BitVec.ofInt 8 mode)
  | .vpe6050Write ch value => .vpe6050Write n (BitVec.ofNat 8 (ch - 1)) (BitVec.ofInt 16 value)
  | .vpe6050Configure ch mode => .vpe6050Configure n (BitVec.ofNat 8 (ch - 1)) (BitVec.ofInt 8 mode)
  | .vpe6060Configure ch mode polarity bias => .vpe6060Configure n (BitVec.ofNat 8 (ch - 1))
    (BitVec.ofInt 8 mode) (BitVec.ofInt 8 polarity) (BitVec.ofInt 8 bias)
  | .vpe6070Write ch value => .vpe6070Write n (BitVec.ofNat 8 (ch - 1)) (BitVec.ofInt 16 value)
  | .vpe6080Configure ch enabled beta t0 => .vpe6080Configure n (BitVec.ofNat 8 (ch - 1))
    (BitVec.ofInt 8 enabled) (BitVec.ofInt 16 beta) (BitVec.ofInt 16 t0)
  | .vpe6090Configure ch t => .vpe6090Configure n (BitVec.ofNat 8 (ch - 1)) (BitVec.ofInt 8 t)
  | .vpe6190Configure ch enable => .vpe6190Configure n (BitVec.ofNat 8 (ch - 1))
    (BitVec.ofInt 8 enable)
  | .configure sampleInterval => .nodeSetSampleInterval n (BitVec.ofInt 16 sampleInterval)

/-- Both calls go through, and send the same accesses. -/
def Alike (w : World) (n : BitVec 8) (os : Nat → Os) (c : Caller) (future : Nat)
    (q : Request) (accesses : Option (List Access)) : Prop :=
  ∃ as wc wp sentByC sentByPython, accesses = some as ∧ q.call w (some c) os = .ok (wc, 0) ∧
    makeAccesses w n os future as = .ok (wp, as.map (fun _ => none)) ∧
    Sends w wc n.toNat sentByC ∧ Sends w wp n.toNat sentByPython ∧ sentByPython.Perm sentByC

section

variable {w : World} {n : BitVec 8} {os : Nat → Os} (hw : Operating w)
  (hn : n.toNat < CANARD_NODE_ID_MAX)
include hw hn

/-- What a method sends and what its function sends are the same but for the order. -/
theorem alike_of {q : Request} {accesses : Option (List Access)} {as : List Access}
    {specs sent : List (List Byte × WlmioRegisterAccess)} (ha : accesses = some as)
    (hall : List.Forall₂ (fun a spec => Amounts a spec.1 spec.2) as specs)
    (hm : Provided os as.length) (hg : Grants w.registry os as.length) (c : Caller) (future : Nat)
    (hcall : ∃ w', q.call w (some c) os = .ok (w', 0) ∧ Sends w w' n.toNat sent)
    (hperm : specs.Perm sent) : Alike w n os c future q accesses := by
  obtain ⟨wc, hc, hsentc⟩ := hcall
  obtain ⟨wp, hp, hsentp⟩ := makeAccesses_sends hn hall hw hg hm future
  exact ⟨_, wc, wp, _, _, ha, hc, hp, hsentc, hsentp, hperm⟩

/-- The body of a write of one byte. -/
theorem alike_uint8 {q : Request} {accesses : Option (List Access)} {channels ch : Nat}
    {suffix : String} {v : Int} (hch : Numbered channels ch) (hchannels : channels ≤ 8)
    (hsuffix : Plain suffix) (hlow : 0 ≤ v) (hhigh : v < 256)
    (ha : accesses = some [uint8Access (channelReg ch suffix) v])
    (hm : Provided os 1) (hg : Grants w.registry os 1) (c : Caller) (future : Nat)
    (hcall : q.call w (some c) os = writeRegister w n
      (channelName channels suffix (BitVec.ofNat 8 (ch - 1))) (uint8Register (BitVec.ofInt 8 v))
      (some c) (os 0)) : Alike w n os c future q accesses := by
  have hname := parse_channelReg hch.1 (Nat.le_trans hch.2 hchannels) hsuffix
  have hs := channelBytes_nonempty ch suffix
  refine alike_of hw hn ha (.cons (amounts_uint8 hname hs hlow hhigh) .nil) hm hg c future ?_
    (List.Perm.refl [(_, _)])
  rw [hcall, channelName_eq hch.1 hch.2 hchannels]
  exact writeRegister_sends hw hn hs (validate_uint8Register _) hm hg c

theorem alike_uint16 {q : Request} {accesses : Option (List Access)} {channels ch : Nat}
    {suffix : String} {v : Int} (hch : Numbered channels ch) (hchannels : channels ≤ 8)
    (hsuffix : Plain suffix) (hlow : 0 ≤ v) (hhigh : v < 65536)
    (ha : accesses = some [uint16Access (channelReg ch suffix) v])
    (hm : Provided os 1) (hg : Grants w.registry os 1) (c : Caller) (future : Nat)
    (hcall : q.call w (some c) os = writeRegister w n
      (channelName channels suffix (BitVec.ofNat 8 (ch - 1))) (uint16Register (BitVec.ofInt 16 v))
      (some c) (os 0)) : Alike w n os c future q accesses := by
  have hname := parse_channelReg hch.1 (Nat.le_trans hch.2 hchannels) hsuffix
  have hs := channelBytes_nonempty ch suffix
  refine alike_of hw hn ha (.cons (amounts_uint16 hname hs hlow hhigh) .nil) hm hg c future ?_
    (List.Perm.refl [(_, _)])
  rw [hcall, channelName_eq hch.1 hch.2 hchannels]
  exact writeRegister_sends hw hn hs (validate_uint16Register _) hm hg c

end

theorem channel_toNat {channels ch : Nat} (hch : Numbered channels ch) (hchannels : channels ≤ 8) :
    (BitVec.ofNat 8 (ch - 1)).toNat < channels := by
  obtain ⟨hlow, hhigh⟩ := hch
  rw [BitVec.toNat_ofNat, Nat.mod_eq_of_lt (by omega)]
  omega

theorem flag_ofInt {v : Int} (h : v = 0 ∨ v = 1) : flag (BitVec.ofInt 8 v) = BitVec.ofInt 8 v := by
  rcases h with rfl | rfl
  · rfl
  · rfl

section

variable {w : World} {n : BitVec 8} (hn : ¬ CANARD_NODE_ID_MAX < n.toNat)
include hn

theorem configureChannel_taken {maxChannel channels ch maxValue : Nat} {suffix : String} {v : Int}
    (hch : Numbered channels ch) (hchannels : channels ≤ 8 ∧ channels ≤ maxChannel + 1)
    (hlow : 0 ≤ v) (hhigh : v ≤ maxValue ∧ maxValue < 256) (c : Caller) (os : Nat → Os) :
    configureChannel w n (some c) maxChannel channels suffix maxValue (BitVec.ofNat 8 (ch - 1))
        (BitVec.ofInt 8 v) (os 0) =
      writeRegister w n (channelName channels suffix (BitVec.ofNat 8 (ch - 1)))
        (uint8Register (BitVec.ofInt 8 v)) (some c) (os 0) := by
  have hlt := channel_toNat hch hchannels.1
  have hvalue := @ofInt_toNat 8 v hlow (by omega)
  unfold configureChannel
  rw [if_neg (by simp only [reduceCtorEq, or_false]; omega)]

theorem writeChannel_taken {ch : Nat} (hch : Numbered 4 ch) (v : BitVec 16) (c : Caller)
    (os : Nat → Os) :
    writeChannel w n (some c) (BitVec.ofNat 8 (ch - 1)) v (os 0) =
      writeRegister w n (channelName 4 ".output" (BitVec.ofNat 8 (ch - 1))) (uint16Register v)
        (some c) (os 0) := by
  have hlt := channel_toNat hch (by decide)
  unfold writeChannel
  rw [if_neg (by simp only [reduceCtorEq, or_false]; omega)]

/-- The checks of `wlmio_vpe6060_configure`. -/
theorem six_taken {ch : BitVec 8} {mode polarity bias : Int} (hch : ch.toNat < 4)
    (hmode : 0 ≤ mode ∧ mode ≤ 2) (hpolarity : polarity = 0 ∨ polarity = 1)
    (hbias : 0 ≤ bias ∧ bias ≤ 2) (c : Caller) :
    ¬ (CANARD_NODE_ID_MAX < n.toNat ∨ 3 < ch.toNat ∨
      WLMIO_VPE6060_MODE_PULSE_COUNTER < (BitVec.ofInt 8 mode).toNat ∨
      WLMIO_VPE6060_POLARITY_FALLING < (BitVec.ofInt 8 polarity).toNat ∨
      WLMIO_VPE6060_BIAS_NPN < (BitVec.ofInt 8 bias).toNat ∨ some c = none) := by
  have h1 := @ofInt_toNat 8 mode hmode.1 (by omega)
  have h2 := @ofInt_toNat 8 polarity (by omega) (by omega)
  have h3 := @ofInt_toNat 8 bias hbias.1 (by omega)
  simp only [reduceCtorEq, or_false, WLMIO_VPE6060_MODE_PULSE_COUNTER, WLMIO_VPE6060_POLARITY_FALLING,
    WLMIO_VPE6060_BIAS_NPN]
  omega

end

end Wlmio.Proof
