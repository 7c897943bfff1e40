import Wlmio.Canard.Loopback

/-!
# CAN identifiers

What `txMakeCANID` puts into an identifier, `rxParseCanId` takes out again: the kind, the
port, the source and the destination, and the priority (`txMakeCANID_parse`). Transfers
that have an identifier in common therefore agree in all of these.
-/

namespace Wlmio.Canard

/-- The source that a receiver sees in the frames of a node. -/
def sourceOf (localNodeId : Nat) : Nat :=
  if localNodeId ≤ CANARD_NODE_ID_MAX then localNodeId else CANARD_NODE_ID_UNSET

/-- The identifier of a message, as a sum of its fields. -/
theorem txMessageCanId_eq {port src : Nat} (prio : Nat) (anonymous : Bool)
    (hport : port ≤ CANARD_SUBJECT_ID_MAX) (hsrc : src ≤ CANARD_NODE_ID_MAX) :
    (txMakeMessageSessionSpecifier port src ||| (if anonymous then 1 <<< 24 else 0)) |||
        (prio <<< 26) =
      src + (port + 8192 + 16384) * 2 ^ 8 + (if anonymous then 1 else 0) * 2 ^ 24 + prio * 2 ^ 26 := by
  simp only [CANARD_SUBJECT_ID_MAX, CANARD_NODE_ID_MAX] at hport hsrc
  have hflag : (if anonymous then 1 <<< 24 else 0) = (if anonymous then 1 else 0) <<< 24 := by
    cases anonymous <;> rfl
  have hbound : (if anonymous then 1 else 0) ≤ 1 := by split <;> omega
  have hfield : port ||| (CANARD_SUBJECT_ID_MAX + 1) ||| ((CANARD_SUBJECT_ID_MAX + 1) * 2) =
      port + 8192 + 16384 := by
    have h13 : port ||| 1 <<< 13 = port + 1 * 2 ^ 13 := BitField.or_shiftLeft 1 13 (by omega)
    have h14 : (port + 1 * 2 ^ 13) ||| 1 <<< 14 = port + 1 * 2 ^ 13 + 1 * 2 ^ 14 :=
      BitField.or_shiftLeft 1 14 (by omega)
    rw [show CANARD_SUBJECT_ID_MAX + 1 = 1 <<< 13 from rfl, show (1 <<< 13) * 2 = 1 <<< 14 from rfl,
      h13, h14]
    omega
  unfold txMakeMessageSessionSpecifier
  rw [hfield, hflag, BitField.or_shiftLeft _ 8 (by omega), BitField.or_shiftLeft _ 24 (by omega),
    BitField.or_shiftLeft prio 26 (by omega)]

/-- **The receiver reads the identifier of a message back.** -/
theorem rxParseCanId_message {port src : Nat} (prio : Nat) (anonymous : Bool)
    (hport : port ≤ CANARD_SUBJECT_ID_MAX) (hsrc : src ≤ CANARD_NODE_ID_MAX) :
    rxParseCanId ((txMakeMessageSessionSpecifier port src ||| (if anonymous then 1 <<< 24 else 0)) |||
        (prio <<< 26)) =
      (.message, port, if anonymous then CANARD_NODE_ID_UNSET else src, CANARD_NODE_ID_UNSET, true) := by
  rw [txMessageCanId_eq prio anonymous hport hsrc]
  simp only [CANARD_SUBJECT_ID_MAX, CANARD_NODE_ID_MAX] at hport hsrc
  generalize hid : src + (port + 8192 + 16384) * 2 ^ 8 + (if anonymous then 1 else 0) * 2 ^ 24 +
    prio * 2 ^ 26 = canId
  have hbound : (if anonymous then 1 else 0) ≤ 1 := by split <;> omega
  have hsrc' : canId &&& CANARD_NODE_ID_MAX = src := by
    rw [show CANARD_NODE_ID_MAX = 2 ^ 7 - 1 from rfl, BitField.and_mask]; omega
  have hport' : (canId >>> 8) &&& CANARD_SUBJECT_ID_MAX = port := by
    rw [show CANARD_SUBJECT_ID_MAX = 2 ^ 13 - 1 from rfl, BitField.shiftRight_and_mask]; omega
  have h25 : canId &&& (1 <<< 25) = 0 := by rw [BitField.and_flag_eq_zero]; omega
  have h23 : canId &&& (1 <<< 23) = 0 := by rw [BitField.and_flag_eq_zero]; omega
  have h7 : canId &&& (1 <<< 7) = 0 := by rw [BitField.and_flag_eq_zero]; omega
  have h24 : canId &&& (1 <<< 24) = 0 ↔ anonymous = false := by
    rw [BitField.and_flag_eq_zero]
    cases anonymous <;> simp at hid ⊢ <;> omega
  unfold rxParseCanId
  rw [if_pos h25]
  simp only [hsrc', hport', h23, h7, ne_eq, h24]
  cases anonymous <;> simp

/-- The priority is in the bits above all of these. -/
theorem canId_priority (low : Nat) {prio : Nat} (hlow : low < 2 ^ 26) (hprio : prio ≤ CANARD_PRIORITY_MAX) :
    low + prio * 2 ^ 26 ≤ CAN_EXT_ID_MASK ∧
      ((low + prio * 2 ^ 26) >>> 26) &&& CANARD_PRIORITY_MAX = prio := by
  simp only [CANARD_PRIORITY_MAX] at hprio
  have hmask : CAN_EXT_ID_MASK = 2 ^ 29 - 1 := rfl
  refine ⟨by omega, ?_⟩
  rw [show CANARD_PRIORITY_MAX = 2 ^ 3 - 1 from rfl, BitField.shiftRight_and_mask]
  omega

/-- Which identifiers are made. -/
theorem txMakeCANID_cases {tr : CanardTransfer} {localNodeId mtu canId : Nat}
    (h : txMakeCANID tr localNodeId mtu = some canId) :
    tr.priority ≤ CANARD_PRIORITY_MAX ∧
      ((tr.transferKind = .message ∧ tr.remoteNodeId = CANARD_NODE_ID_UNSET ∧
          tr.portId ≤ CANARD_SUBJECT_ID_MAX ∧ ∃ (src : Nat) (anonymous : Bool),
            src ≤ CANARD_NODE_ID_MAX ∧
            sourceOf localNodeId = (if anonymous then CANARD_NODE_ID_UNSET else src) ∧
            canId = (txMakeMessageSessionSpecifier tr.portId src |||
              (if anonymous then 1 <<< 24 else 0)) ||| (tr.priority <<< 26)) ∨
        ((tr.transferKind = .request ∨ tr.transferKind = .response) ∧
          tr.remoteNodeId ≤ CANARD_NODE_ID_MAX ∧ tr.portId ≤ CANARD_SERVICE_ID_MAX ∧
          localNodeId ≤ CANARD_NODE_ID_MAX ∧
          canId = txMakeServiceSessionSpecifier tr.portId (decide (tr.transferKind = .request))
            localNodeId tr.remoteNodeId ||| (tr.priority <<< 26))) := by
  have hp : tr.priority ≤ CANARD_PRIORITY_MAX := by
    by_contra hp
    unfold txMakeCANID at h
    simp only [if_neg hp] at h
    split at h
    · cases h
    · cases h
  refine ⟨hp, ?_⟩
  unfold txMakeCANID at h
  by_cases hmsg : tr.transferKind = .message ∧ tr.remoteNodeId = CANARD_NODE_ID_UNSET ∧
      tr.portId ≤ CANARD_SUBJECT_ID_MAX
  · simp only [if_pos hmsg] at h
    refine .inl ⟨hmsg.1, hmsg.2.1, hmsg.2.2, ?_⟩
    by_cases hlocal : localNodeId ≤ CANARD_NODE_ID_MAX
    · simp only [if_pos hlocal, if_pos hp] at h
      refine ⟨localNodeId, false, hlocal, by simp [sourceOf, hlocal], ?_⟩
      rw [← Option.some.inj h]
      simp
    · by_cases hlen : tr.payload.length ≤ mtu
      · simp only [if_neg hlocal, if_pos hlen, if_pos hp] at h
        refine ⟨(crcAdd CRC_INITIAL tr.payload).toNat &&& CANARD_NODE_ID_MAX, true,
          Nat.and_le_right, by simp [sourceOf, hlocal], ?_⟩
        rw [← Option.some.inj h]
        rfl
      · simp only [if_neg hlocal, if_neg hlen] at h
        cases h
  · by_cases hservice : (tr.transferKind = .request ∨ tr.transferKind = .response) ∧
        tr.remoteNodeId ≤ CANARD_NODE_ID_MAX ∧ tr.portId ≤ CANARD_SERVICE_ID_MAX
    · by_cases hlocal : localNodeId ≤ CANARD_NODE_ID_MAX
      · simp only [if_neg hmsg, if_pos hservice, if_pos hlocal, if_pos hp] at h
        exact .inr ⟨hservice.1, hservice.2.1, hservice.2.2, hlocal, (Option.some.inj h).symm⟩
      · simp only [if_neg hmsg, if_pos hservice, if_neg hlocal] at h
        cases h
    · simp only [if_neg hmsg, if_neg hservice] at h
      cases h

/-- **The receiver reads the identifier of a service transfer back**, and does not take it for valid
if it is to the node that sends it. -/
theorem rxParseCanId_specifier {svc src dst : Nat} (prio : Nat) (req : Bool)
    (hsvc : svc ≤ CANARD_SERVICE_ID_MAX) (hsrc : src ≤ CANARD_NODE_ID_MAX)
    (hdst : dst ≤ CANARD_NODE_ID_MAX) :
    rxParseCanId (txMakeServiceSessionSpecifier svc req src dst ||| (prio <<< 26)) =
      (if req then .request else .response, svc, src, dst, decide (src ≠ dst)) := by
  by_cases hne : src ≠ dst
  · rw [rxParseCanId_service hsvc hsrc hdst hne, decide_eq_true hne]
  · obtain rfl : src = dst := not_not.mp hne
    have hsum := @txServiceCanId_eq svc src src prio req hsvc hsrc hdst
    simp only [CANARD_SERVICE_ID_MAX, CANARD_NODE_ID_MAX] at hsvc hsrc
    have hbound : (if req then 1 else 0) ≤ 1 := by split <;> omega
    generalize txMakeServiceSessionSpecifier svc req src src ||| (prio <<< 26) = canId at hsum ⊢
    -- what is left above each field
    have h7 : canId / 2 ^ 7 = src + svc * 2 ^ 7 + (if req then 1 else 0) * 2 ^ 17 + 2 ^ 18 +
        prio * 2 ^ 19 := by omega
    have h14 : canId / 2 ^ 14 = svc + (if req then 1 else 0) * 2 ^ 10 + 2 ^ 11 + prio * 2 ^ 12 := by
      omega
    have h24' : canId / 2 ^ 24 = (if req then 1 else 0) + 2 + prio * 2 ^ 2 := by omega
    have h25' : canId / 2 ^ 25 = 1 + prio * 2 := by omega
    have hsrc' : canId &&& CANARD_NODE_ID_MAX = src := by
      rw [show CANARD_NODE_ID_MAX = 2 ^ 7 - 1 from rfl, BitField.and_mask]; omega
    have hdst' : (canId >>> 7) &&& CANARD_NODE_ID_MAX = src := by
      rw [show CANARD_NODE_ID_MAX = 2 ^ 7 - 1 from rfl, BitField.shiftRight_and_mask, h7]; omega
    have hsvc' : (canId >>> 14) &&& CANARD_SERVICE_ID_MAX = svc := by
      rw [show CANARD_SERVICE_ID_MAX = 2 ^ 9 - 1 from rfl, BitField.shiftRight_and_mask, h14]; omega
    have h25 : ¬ canId &&& (1 <<< 25) = 0 := by rw [BitField.and_flag_eq_zero, h25']; omega
    have h24 : canId &&& (1 <<< 24) = 0 ↔ req = false := by
      rw [BitField.and_flag_eq_zero, h24']
      cases req <;> simp <;> omega
    unfold rxParseCanId
    rw [if_neg h25]
    simp only [hsrc', hdst', hsvc', ne_eq, h24]
    cases req <;> simp

/-- **What goes into an identifier comes out of it.** -/
theorem txMakeCANID_parse {tr : CanardTransfer} {localNodeId mtu canId : Nat}
    (h : txMakeCANID tr localNodeId mtu = some canId) :
    canId ≤ CAN_EXT_ID_MASK ∧
      rxParseCanId canId = (tr.transferKind, tr.portId, sourceOf localNodeId, tr.remoteNodeId,
        decide (tr.transferKind = .message ∨ localNodeId ≠ tr.remoteNodeId)) ∧
      (canId >>> 26) &&& CANARD_PRIORITY_MAX = tr.priority := by
  obtain ⟨hprio, ⟨hkind, hremote, hport, src, anonymous, hsrc, hsource, hid⟩ |
    ⟨hkind, hremote, hport, hlocal, hid⟩⟩ := txMakeCANID_cases h
  · have hsum := txMessageCanId_eq tr.priority anonymous hport hsrc
    have hparse := rxParseCanId_message tr.priority anonymous hport hsrc
    rw [← hid] at hsum hparse
    have hbound : (if anonymous then 1 else 0) ≤ 1 := by split <;> omega
    obtain ⟨hmask, htop⟩ := canId_priority
      (src + (tr.portId + 8192 + 16384) * 2 ^ 8 + (if anonymous then 1 else 0) * 2 ^ 24)
      (by simp only [CANARD_SUBJECT_ID_MAX, CANARD_NODE_ID_MAX] at hport hsrc; omega) hprio
    rw [← hsum] at hmask htop
    refine ⟨hmask, ?_, htop⟩
    rw [hparse, decide_eq_true (.inl hkind), hkind, hsource, hremote]
  · have hmsg : ¬ tr.transferKind = .message := by
      intro heq
      rw [heq] at hkind
      rcases hkind with hkind | hkind <;> cases hkind
    have hsum := @txServiceCanId_eq _ _ _ tr.priority (decide (tr.transferKind = .request)) hport hlocal
      hremote
    have hparse := rxParseCanId_specifier tr.priority (decide (tr.transferKind = .request)) hport
      hlocal hremote
    rw [← hid] at hsum hparse
    have hbound : (if decide (tr.transferKind = .request) then 1 else 0) ≤ 1 := by split <;> omega
    obtain ⟨hmask, htop⟩ := canId_priority
      (localNodeId + tr.remoteNodeId * 2 ^ 7 + tr.portId * 2 ^ 14 +
        (if decide (tr.transferKind = .request) then 1 else 0) * 2 ^ 24 + 2 ^ 25)
      (by simp only [CANARD_SERVICE_ID_MAX, CANARD_NODE_ID_MAX] at hport hlocal hremote; omega) hprio
    rw [← hsum] at hmask htop
    refine ⟨hmask, ?_, htop⟩
    have hread : (if decide (tr.transferKind = .request) then CanardTransferKind.request
        else .response) = tr.transferKind := by
      rcases hkind with hkind | hkind <;> rw [hkind] <;> rfl
    rw [hparse, hread, sourceOf, if_pos hlocal]
    simp only [hmsg, false_or]

/-- The payload does not matter to a node that has a name. -/
theorem txMakeCANID_congr {tr tr' : CanardTransfer} {localNodeId : Nat}
    (hlocal : localNodeId ≤ CANARD_NODE_ID_MAX) (hkind : tr.transferKind = tr'.transferKind)
    (hport : tr.portId = tr'.portId) (hremote : tr.remoteNodeId = tr'.remoteNodeId)
    (hprio : tr.priority = tr'.priority) (mtu mtu' : Nat) :
    txMakeCANID tr localNodeId mtu = txMakeCANID tr' localNodeId mtu' := by
  unfold txMakeCANID
  simp only [if_pos hlocal, hkind, hport, hremote, hprio]

/-- A valid frame has a valid identifier, and is from where it says. -/
theorem rxTryParseFrame_canId {frame : CanardFrame} {model : RxFrameModel}
    (h : rxTryParseFrame frame = some model) :
    rxParseCanId frame.extendedCanId = (model.transferKind, model.portId, model.sourceNodeId,
      model.destinationNodeId, true) := by
  unfold rxTryParseFrame at h
  split at h
  · cases h
  dsimp only at h
  rcases hparse : rxParseCanId frame.extendedCanId with ⟨kind, portId, src, dst, valid⟩
  rw [hparse] at h
  split at h
  · rename_i hvalid
    rw [← Option.some.inj h]
    simp only [Bool.and_eq_true] at hvalid
    rw [hvalid.1.1.1.1]
  · cases h

end Wlmio.Canard
