import Wlmio.Proof.Completion
import Wlmio.Proof.Pending

/-!
# Node info

The layout of a node info response has three parts of variable length, and a response may
be cut off anywhere. `get_node_info_response_handler` guards each copy by the size of the
payload and leaves the reads of numbers to the getters, which take missing bytes for zeros.
Together this is one uniform decoder of the payload with zeros behind it, which is what
`referenceNodeInfo` spells out.
-/

namespace Wlmio.Proof

open Wlmio.Client Wlmio.Canard

/-! ## The layout -/

section

variable (payload : List Byte)

/-- A byte of the payload with zeros behind it. -/
def byteAt (i : Nat) : Nat := (Bytes.zeroExtended payload i).toNat

/-- Some bytes of it, as a little-endian number. -/
def wordAt (i n : Nat) : Nat := Bytes.toNat (Bytes.window payload i n)

/-- Some bytes of it, with zeros up to the size of a field. -/
def fieldAt (size i n : Nat) : List Byte :=
  (Bytes.window payload i n ++ List.replicate size 0#8).take size

theorem length_fieldAt (size i n : Nat) : (fieldAt payload size i n).length = size := by
  unfold fieldAt
  rw [List.length_take, List.length_append, List.length_replicate]
  omega

/-- The length of the name, which follows the versions, the VCS id and the unique id. -/
def nameLength : Nat := byteAt payload 30

/-- The tag of the optional CRC, behind the name. -/
def crcTag : Nat := byteAt payload (31 + nameLength payload)

/-- The length of the certificate, behind the CRC if there is one. -/
def certificateAt : Nat := 32 + nameLength payload + if crcTag payload = 1 then 8 else 0

def certificateLength : Nat := byteAt payload (certificateAt payload)

/-- A length or the tag is out of its range. -/
def Malformed : Prop :=
  50 < nameLength payload ∨ 1 < crcTag payload ∨ 222 < certificateLength payload

/-- What the layout says about a payload that is followed by zeros. -/
def referenceNodeInfo : WlmioNodeInfo where
  protocolVersion := ⟨byteAt payload 0, byteAt payload 1⟩
  hardwareVersion := ⟨byteAt payload 2, byteAt payload 3⟩
  softwareVersion := ⟨byteAt payload 4, byteAt payload 5⟩
  softwareVcsRevisionId := wordAt payload 6 8
  uniqueId := fieldAt payload 16 14 16
  name := fieldAt payload 51 31 (nameLength payload)
  softwareImageCrc := if crcTag payload = 1 then wordAt payload (32 + nameLength payload) 8 else 0
  certificateOfAuthenticity :=
    fieldAt payload 222 (certificateAt payload + 1) (certificateLength payload)
  flags := (if crcTag payload = 1 then WLMIO_NODE_INFO_CRC else 0) |||
    if certificateLength payload ≠ 0 then WLMIO_NODE_INFO_CERTIFICATE_OF_AUTHENTICITY else 0
  uniqueId_length := length_fieldAt payload 16 14 16
  name_length := length_fieldAt payload 51 31 _
  certificate_length := length_fieldAt payload 222 _ _

end

/-! ## The reads -/

variable {payload : List Byte}

theorem got_byte (payload : List Byte) (i : Nat) :
    got (canardDSDLGetU8 payload (i <<< 3) 8) = .ok (byteAt payload i) := by
  rw [Nat.shiftLeft_eq, canardDSDLGetU8_byte]
  rfl

theorem got_word (payload : List Byte) (i : Nat) :
    got (canardDSDLGetU64 payload (i <<< 3) 64) = .ok (wordAt payload i 8) := by
  have hread : canardDSDLGetU64 payload (i * 8) 64 = some (wordAt payload i 8) := by
    unfold wordAt
    rw [Bytes.toNat_window]
    exact canardDSDLGetUxx_bytes (w := 8) (k := 8) (Nat.le_refl 8) payload i
  rw [Nat.shiftLeft_eq, show (2 : Nat) ^ 3 = 8 by decide, hread]
  rfl

/-- Some bytes at the front of a cleared field, in the words of the copy. -/
theorem fieldAt_eq {size n : Nat} (i : Nat) (h : n ≤ size) :
    fieldAt payload size i n = (payload.drop i).take n ++
      List.replicate (size - min n (payload.length - i)) 0#8 := by
  unfold fieldAt
  rw [Bytes.window_eq, List.append_assoc, List.replicate_append_replicate, List.take_append,
    List.take_replicate, List.take_of_length_le]
  · congr 2
    rw [List.length_take, List.length_drop]
    omega
  · rw [List.length_take, List.length_drop]
    omega

/-- A field beyond the end of the payload is cleared. -/
theorem fieldAt_beyond {size i n : Nat} (h : n ≤ size) (hi : payload.length ≤ i) :
    fieldAt payload size i n = List.replicate size 0#8 := by
  rw [fieldAt_eq i h, List.drop_of_length_le hi, List.take_nil, List.nil_append]
  congr 1
  omega

/-- Nothing is copied: the field is cleared. -/
theorem fieldAt_zero (payload : List Byte) (size i : Nat) :
    fieldAt payload size i 0 = List.replicate size 0#8 := by
  rw [fieldAt_eq i (Nat.zero_le size), List.take_zero, List.nil_append, Nat.zero_min, Nat.sub_zero]

theorem copyField_ok {size i n : Nat} (hi : i + n ≤ payload.length) (hn : n ≤ size) :
    copyField size payload i n = .ok ⟨fieldAt payload size i n, length_fieldAt payload size i n⟩ := by
  have hcopy : Bytes.copy (List.replicate size 0#8) 0 payload i n =
      some (fieldAt payload size i n) := by
    rw [Bytes.copy_of_le hi (by rw [List.length_replicate]; omega), fieldAt_eq i hn,
      Nat.min_eq_left (by omega)]
    simp only [List.take_zero, List.nil_append, Nat.zero_add, List.drop_replicate]
  exact copyField_of_some (length_fieldAt payload size i n) hcopy

/-- **A guarded copy reads the payload as if zeros followed it**, as long as the field is large
enough. -/
theorem guardedCopy_ok {size limit : Nat} (i : Nat) (h : limit ≤ size) :
    (if i < payload.length then
        copyField size payload i
          (if limit < payload.length - i then limit else payload.length - i)
      else .ok (clearedField size)) =
      .ok ⟨fieldAt payload size i limit, length_fieldAt payload size i limit⟩ := by
  by_cases hi : i < payload.length
  · rw [if_pos hi]
    by_cases hlimit : limit < payload.length - i
    · rw [if_pos hlimit]
      exact copyField_ok (by omega) h
    · rw [if_neg hlimit, copyField_ok (by omega) (by omega)]
      -- the bytes that are missing count as zeros
      refine congrArg Except.ok (Subtype.ext ?_)
      show fieldAt payload size i (payload.length - i) = fieldAt payload size i limit
      rw [fieldAt_eq i h, fieldAt_eq i (by omega), Nat.min_self, Nat.min_eq_right (by omega)]
      rw [List.take_of_length_le (by rw [List.length_drop]),
        List.take_of_length_le (by rw [List.length_drop]; omega)]
  · rw [if_neg hi]
    refine congrArg Except.ok (Subtype.ext ?_)
    exact (fieldAt_beyond h (by omega)).symm

/-! ## The decoder -/

/-- An empty payload is one of zeros. -/
theorem referenceNodeInfo_nil : referenceNodeInfo [] = .zero ∧ ¬ Malformed [] := by
  have hbyte : ∀ i, byteAt [] i = 0 := fun i => by
    unfold byteAt
    rw [Bytes.zeroExtended_of_ge (Nat.zero_le i)]
    rfl
  have hname : nameLength [] = 0 := hbyte 30
  have htag : crcTag [] = 0 := hbyte _
  have hcertificate : certificateLength [] = 0 := hbyte _
  constructor
  · unfold referenceNodeInfo WlmioNodeInfo.zero
    have hlen : ∀ i, ([] : List Byte).length ≤ i := fun i => Nat.zero_le i
    simp only [hbyte, hname, htag, hcertificate, fieldAt_beyond (Nat.zero_le _) (hlen _),
      fieldAt_beyond (Nat.le_refl 16) (hlen 14)]
    rfl
  · unfold Malformed
    omega

/-- **The decoder is the reference decoder**: it refuses what is malformed, with whatever was
decoded before, and decodes everything else. -/
theorem decodeNodeInfo_spec (payload : List Byte) :
    (Malformed payload ∧ ∃ info, decodeNodeInfo payload = .ok (info, -EPROTO)) ∨
      (¬ Malformed payload ∧ decodeNodeInfo payload = .ok (referenceNodeInfo payload, 0)) := by
  unfold decodeNodeInfo
  by_cases hnil : payload.length = 0
  · rw [if_pos hnil]
    obtain rfl := List.length_eq_zero_iff.mp hnil
    obtain ⟨hzero, hwell⟩ := referenceNodeInfo_nil
    exact .inr ⟨hwell, by rw [hzero]⟩
  rw [if_neg hnil]
  have hnameLength : byteAt payload 30 = nameLength payload := rfl
  have hcrcTag : byteAt payload (31 + nameLength payload) = crcTag payload := rfl
  have hcertificateLength : byteAt payload (certificateAt payload) = certificateLength payload := rfl
  dsimp only
  rw [got_byte, got_byte, got_byte, got_byte, got_byte, got_byte, got_byte, got_word,
    guardedCopy_ok 14 (Nat.le_refl 16), hnameLength]
  simp only [bind, Except.bind]
  by_cases hname : 50 < nameLength payload
  · rw [if_pos hname]
    exact .inl ⟨.inl hname, _, rfl⟩
  rw [if_neg hname, guardedCopy_ok 31 (show nameLength payload ≤ 51 by omega)]
  dsimp only
  rw [got_byte, hcrcTag]
  dsimp only
  by_cases htag : 1 < crcTag payload
  · rw [if_pos htag]
    exact .inl ⟨.inr (.inl htag), _, rfl⟩
  rw [if_neg htag]
  have htags : crcTag payload = 0 ∨ crcTag payload = 1 := by omega
  have hoffset : 31 + nameLength payload + 1 = 32 + nameLength payload := by omega
  -- the CRC, and the certificate behind it
  have hcrc : (if crcTag payload = 0 then (.ok 0 : Except Fault Nat)
      else got (canardDSDLGetU64 payload ((31 + nameLength payload + 1) <<< 3) 64)) =
      .ok (if crcTag payload = 1 then wordAt payload (32 + nameLength payload) 8 else 0) := by
    rcases htags with h | h
    · rw [if_pos h, if_neg (by omega)]
    · rw [if_neg (by omega), if_pos h, got_word, hoffset]
  have hcertificate : (if crcTag payload = 0 then 31 + nameLength payload + 1
      else 31 + nameLength payload + 1 + 8) = certificateAt payload := by
    unfold certificateAt
    rcases htags with h | h
    · rw [if_pos h, if_neg (by omega), hoffset, Nat.add_zero]
    · rw [if_neg (by omega), if_pos h, hoffset]
  rw [hcrc, hcertificate]
  dsimp only
  rw [got_byte, hcertificateLength]
  dsimp only
  by_cases hlength : 222 < certificateLength payload
  · rw [if_pos hlength]
    exact .inl ⟨.inr (.inr hlength), _, rfl⟩
  rw [if_neg hlength]
  have hwell : ¬ Malformed payload := by
    rintro (h | h | h)
    · exact hname h
    · exact htag h
    · exact hlength h
  refine .inr ⟨hwell, ?_⟩
  by_cases hzero : certificateLength payload = 0
  · -- no certificate: its field stays cleared
    have hfield := fieldAt_zero payload 222 (certificateAt payload + 1)
    rw [if_pos hzero]
    refine congrArg (fun info => Except.ok (info, (0 : Int))) ?_
    unfold referenceNodeInfo
    rcases htags with h | h
    · rw [if_pos h]
      simp only [h, hzero, hfield]
      rfl
    · rw [if_neg (by omega)]
      simp only [h, hzero, hfield]
      rfl
  · rw [if_neg hzero, guardedCopy_ok (certificateAt payload + 1) (Nat.le_of_not_lt hlength)]
    refine congrArg (fun info => Except.ok (info, (0 : Int))) ?_
    unfold referenceNodeInfo
    rcases htags with h | h
    · simp only [h, if_pos hzero, reduceIte]
      rfl
    · simp only [h, if_pos hzero, Nat.one_ne_zero, reduceIte]
      rfl

/-! ## The handler -/

/-- The response finds a task that was made for a request of node info. -/
def AwaitsInfo (w : World) (tfr : CanardTransfer) (t : TaskEntry) : Prop :=
  w.registry.taskWithId (makeRspSpecifier tfr) = some t ∧
    ∃ i, w.bus.issued[t.serial]? = some i ∧ i.service = .getNodeInfo

/-- The buffer of the task is written and the task completes, as the layout has it. Nothing is read
or written out of bounds, which would be an error of the decoder. -/
def HandledByLayout (w : World) (tfr : CanardTransfer) (t : TaskEntry) : Prop :=
  ∃ buffer info r, t.param = .nodeInfo buffer ∧ decodeNodeInfo tfr.payload = .ok (info, r) ∧
    getNodeInfoResponseHandler w tfr = complete (w.log (.wroteNodeInfo t.param info)) t r ∧
    (r = -EPROTO ↔ Malformed tfr.payload) ∧
    (¬ Malformed tfr.payload → r = 0 ∧ info = referenceNodeInfo tfr.payload)

/-- The handler of the task it finds: writing the buffer does not change which task completes. -/
theorem getNodeInfoResponseHandler_eq {w : World} {tfr : CanardTransfer} {t : TaskEntry}
    {buffer : Nat} (hfound : w.registry.taskWithId (makeRspSpecifier tfr) = some t)
    (hparam : t.param = .nodeInfo buffer) {info : WlmioNodeInfo} {r : Int}
    (hdecode : decodeNodeInfo tfr.payload = .ok (info, r)) :
    getNodeInfoResponseHandler w tfr = complete (w.log (.wroteNodeInfo t.param info)) t r := by
  have hget := asyncGetParam_found hfound
  rw [hparam] at hget
  unfold getNodeInfoResponseHandler
  dsimp only
  rw [hget]
  dsimp only
  rw [hdecode]
  simp only [bind, Except.bind]
  unfold asyncComplete
  rw [World.log_registry, hfound, hparam]

/-- **Node info is decoded by its layout**, from every payload and wherever it is cut off. -/
theorem nodeInfo_response {w : World} (h : Reachable w) {tfr : CanardTransfer} {t : TaskEntry}
    (ht : AwaitsInfo w tfr t) : HandledByLayout w tfr t := by
  obtain ⟨hfound, i, hi, hservice⟩ := ht
  obtain ⟨htm, _⟩ := taskWithId_mem hfound
  obtain ⟨j, hj, _, hfit⟩ := (owned_reachable h).origin t htm
  obtain rfl := Option.some.inj (hj.symm.trans hi)
  rw [hservice] at hfit
  obtain ⟨buffer, hparam⟩ := fits_getNodeInfo hfit
  rcases decodeNodeInfo_spec tfr.payload with ⟨hbad, info, hdecode⟩ | ⟨hwell, hdecode⟩
  · exact ⟨buffer, info, -EPROTO, hparam, hdecode,
      getNodeInfoResponseHandler_eq hfound hparam hdecode, by simp [hbad],
      fun hn => absurd hbad hn⟩
  · refine ⟨buffer, _, 0, hparam, hdecode, getNodeInfoResponseHandler_eq hfound hparam hdecode, ?_,
      fun _ => ⟨rfl, rfl⟩⟩
    exact iff_of_false (by decide) hwell

/-- **Then the callback is called with that result**, once and behind the write of the buffer, and
the task leaves the list when it has returned. -/
theorem HandledByLayout.called {w w' : World} {tfr : CanardTransfer} {t : TaskEntry}
    {rest : Option Rest} (h : HandledByLayout w tfr t)
    (hrun : getNodeInfoResponseHandler w tfr = .ok (w', rest)) :
    ∃ info r trailing, (r = -EPROTO ↔ Malformed tfr.payload) ∧
      (¬ Malformed tfr.payload → r = 0 ∧ info = referenceNodeInfo tfr.payload) ∧
      (∀ e ∈ trailing, Trailing e) ∧ w'.trace =
        trailing ++ .invoked t.addr t.serial r :: .wroteNodeInfo t.param info :: w.trace ∧
      Leaves t w' rest := by
  obtain ⟨buffer, info, r, _, _, hhandler, hbad, hwell⟩ := h
  rw [hhandler] at hrun
  obtain ⟨trailing, htrailing, htrace⟩ := complete_invokes hrun
  exact ⟨info, r, trailing, hbad, hwell, htrailing, htrace, complete_leaves hrun⟩

/-- A response of node 7 that is cut off within its CRC, behind a name of two characters. -/
def cutResponse : CanardTransfer where
  timestampUsec := 0
  priority := 4
  transferKind := .response
  portId := 430
  remoteNodeId := 7
  transferId := 0
  payload := List.replicate 30 1#8 ++ [2#8, 97#8, 98#8, 1#8, 5#8, 6#8, 7#8]

theorem nodeInfo_response_cut : ∃ w t, ¬ Malformed cutResponse.payload ∧
    (referenceNodeInfo cutResponse.payload).softwareImageCrc = 5 + 6 * 256 + 7 * 65536 ∧
    HandledByLayout w cutResponse t := by
  obtain ⟨w, hr, hw⟩ := exists_after Transition.free
    [.request (.getNodeInfo 7 (some 0)) (some 0) (grantFrom 5)]
    (fun w => decide ((w.registry.taskWithId (makeRspSpecifier cutResponse)).map TaskEntry.serial =
      some 0 ∧ w.bus.issued[0]?.map Issued.service = some .getNodeInfo)) (by decide +kernel)
  obtain ⟨hfound, hissued⟩ := of_decide_eq_true hw
  obtain ⟨t, ht, hserial⟩ := Option.map_eq_some_iff.mp hfound
  obtain ⟨i, hi, hservice⟩ := Option.map_eq_some_iff.mp hissued
  refine ⟨w, t, ?_, by decide, nodeInfo_response hr ⟨ht, i, hserial ▸ hi, hservice⟩⟩
  unfold Malformed
  decide

end Wlmio.Proof
