import Wlmio.Canard.Loopback
import Wlmio.Proof.Faults
import Wlmio.Proof.RegisterTables
import Wlmio.Proof.Scenario

/-!
# Register replies

`register_access_response_handler` looks the width of the length field up by the type
byte, and copies everything behind the length field, before `validate_register_access`
has seen the register. `decodeRegisterAccess_ok` and `decodeRegisterAccess_error` say for
which payloads this goes well; all else follows from these two.

The transport pads a reply with zeros, so the size of the copy is not that of the value.
-/

namespace Wlmio.Proof

open Wlmio.Client Wlmio.Canard

/-! ## Reading a reply -/

/-- The type byte. A byte that is missing counts as zero, here and below. -/
def replyType (payload : List Byte) : Nat := (Bytes.zeroExtended payload 8).toNat

/-- The declared length. -/
def replyLength (payload : List Byte) : Nat :=
  Bytes.toNat ((payload.drop 9).take (lengthWidth (replyType payload)))

/-- What is behind the length field. -/
def replyRest (payload : List Byte) : List Byte :=
  payload.drop (9 + lengthWidth (replyType payload))

/-- The result a reply deserves. -/
def replyResult (payload : List Byte) : Int :=
  if WLMIO_REGISTER_VALUE_FLOAT16 < replyType payload ∨
      maxLength (replyType payload) < replyLength payload then -EPROTO
  else if replyType payload = WLMIO_REGISTER_VALUE_EMPTY then -ENOENT
  else 0

/-- Some bytes at the front of a cleared array. -/
def cleared (bytes : List Byte) : List Byte := (bytes ++ List.replicate 256 0#8).take 256

theorem length_cleared (bytes : List Byte) : (cleared bytes).length = 256 := by
  unfold cleared
  rw [List.length_take, List.length_append, List.length_replicate]
  omega

/-- The register in a reply. -/
def replyRegister (payload : List Byte) : WlmioRegisterAccess where
  type := BitVec.ofNat 8 (replyType payload)
  length := BitVec.ofNat 16 (replyLength payload)
  value := cleared (replyRest payload)
  value_length := length_cleared _

/-- The table has an entry for the type, and what is behind the length field fits. -/
def Decodable (payload : List Byte) : Prop :=
  replyType payload ≤ WLMIO_REGISTER_VALUE_FLOAT16 ∧
    payload.length ≤ 265 + lengthWidth (replyType payload)

theorem replyType_lt (payload : List Byte) : replyType payload < 256 :=
  (Bytes.zeroExtended payload 8).isLt

theorem replyLength_lt (payload : List Byte) : replyLength payload < 65536 := by
  have hlt := Bytes.toNat_lt ((payload.drop 9).take (lengthWidth (replyType payload)))
  have hle : ((payload.drop 9).take (lengthWidth (replyType payload))).length ≤ 2 :=
    Nat.le_trans (List.length_take_le _ _) (lengthWidth_le _)
  exact Nat.lt_of_lt_of_le hlt (Nat.pow_le_pow_right (by decide) hle)

/-- The check of the decoded register is the check of the reply. -/
theorem validate_replyRegister (payload : List Byte) :
    validateRegisterAccess (replyRegister payload) ≠ 0 ↔
      WLMIO_REGISTER_VALUE_FLOAT16 < replyType payload ∨
        maxLength (replyType payload) < replyLength payload := by
  have htype : (replyRegister payload).type.toNat = replyType payload :=
    Nat.mod_eq_of_lt (replyType_lt payload)
  have hlength : (replyRegister payload).length.toNat = replyLength payload :=
    Nat.mod_eq_of_lt (replyLength_lt payload)
  unfold validateRegisterAccess
  rw [htype, hlength]
  split
  · rename_i h
    exact iff_of_true (by decide) (.inl h)
  · split
    · rename_i h
      exact iff_of_true (by decide) (.inr h)
    · rename_i h h'
      exact iff_of_false (by decide) (not_or.mpr ⟨h, h'⟩)

/-! ## The decoder -/

theorem got_type (payload : List Byte) :
    got (canardDSDLGetU8 payload (8 <<< 3) 8) = .ok (replyType payload) := by
  rw [show (8 : Nat) <<< 3 = 8 * 8 by decide, canardDSDLGetU8_byte]
  rfl

theorem got_length (payload : List Byte) :
    got (canardDSDLGetU16 payload (9 <<< 3) (lengthWidth (replyType payload) <<< 3)) =
      .ok (replyLength payload) := by
  have hbits : lengthWidth (replyType payload) <<< 3 = lengthWidth (replyType payload) * 8 := by
    rw [Nat.shiftLeft_eq]
  have hread : canardDSDLGetU16 payload (9 * 8) (lengthWidth (replyType payload) * 8) =
      some (replyLength payload) :=
    canardDSDLGetUxx_bytes (w := 2) (lengthWidth_le _) payload 9
  rw [hbits, show (9 : Nat) <<< 3 = 9 * 8 by decide, hread]
  rfl

/-- The copy goes well as long as the array is large enough. -/
theorem copyValue_ok {payload : List Byte} {offset : Nat} (h : payload.length ≤ offset + 256) :
    copyValue payload offset = .ok ⟨cleared (payload.drop offset), length_cleared _⟩ := by
  have hvalue : ∀ n, n ≤ 256 → payload.length - offset = n →
      payload.drop offset ++ List.replicate (256 - n) 0#8 = cleared (payload.drop offset) := by
    intro n hn hlen
    unfold cleared
    have hdrop : (payload.drop offset).length = n := by rw [List.length_drop, hlen]
    rw [List.take_append, hdrop, List.take_replicate, List.take_of_length_le (by omega),
      Nat.min_eq_left (by omega)]
  unfold copyValue
  split
  · rename_i hlt
    have hcopy : Bytes.copy (List.replicate 256 0#8) 0 payload offset (payload.length - offset) =
        some (cleared (payload.drop offset)) := by
      rw [Bytes.copy_of_le (by omega) (by rw [List.length_replicate]; omega),
        ← hvalue _ (by omega) rfl]
      simp only [List.take_zero, List.nil_append, Nat.zero_add, List.drop_replicate]
      rw [List.take_of_length_le (by rw [List.length_drop])]
    exact copyField_of_some (length_cleared _) hcopy
  · rename_i hge
    -- nothing behind the length: the array stays cleared
    have hnil : payload.drop offset = [] := List.drop_of_length_le (by omega)
    have hzero : List.replicate 256 0#8 = cleared (payload.drop offset) := by
      rw [hnil, cleared, List.nil_append, List.take_replicate, Nat.min_self]
    unfold clearedField
    exact congrArg Except.ok (Subtype.ext hzero)

theorem copyValue_error {payload : List Byte} {offset : Nat} (h : offset + 256 < payload.length) :
    copyValue payload offset = .error .outOfBounds := by
  unfold copyValue
  rw [if_pos (by omega)]
  refine copyField_of_none (Bytes.copy_eq_none.mpr ⟨by omega, .inr ?_⟩)
  rw [List.length_replicate]
  omega

/-- **A reply of a known type that is not too long is decoded**, with the result it deserves. -/
theorem decodeRegisterAccess_ok {payload : List Byte} (h : Decodable payload) :
    decodeRegisterAccess payload = .ok (replyRegister payload, replyResult payload) := by
  obtain ⟨htype, hlen⟩ := h
  have hcopy := @copyValue_ok payload (9 + lengthWidth (replyType payload)) (by omega)
  have hempty : (replyRegister payload).type.toNat = replyType payload :=
    Nat.mod_eq_of_lt (replyType_lt payload)
  -- the checks behind the copy are those of the result
  have hresult : (if validateRegisterAccess (replyRegister payload) ≠ 0 then
      (.ok (replyRegister payload, -EPROTO) : Except Fault (WlmioRegisterAccess × Int))
      else if (replyRegister payload).type.toNat = WLMIO_REGISTER_VALUE_EMPTY then
        .ok (replyRegister payload, -ENOENT)
      else .ok (replyRegister payload, 0)) = .ok (replyRegister payload, replyResult payload) := by
    unfold replyResult
    rw [hempty]
    by_cases hv : validateRegisterAccess (replyRegister payload) ≠ 0
    · rw [if_pos hv, if_pos ((validate_replyRegister payload).mp hv)]
    · rw [if_neg hv, if_neg (fun hn => hv ((validate_replyRegister payload).mpr hn))]
      split
      · rfl
      · rfl
  unfold decodeRegisterAccess
  dsimp only
  rw [got_type]
  simp only [bind, Except.bind]
  rw [lengthWidth_get htype]
  dsimp only
  rw [got_length]
  dsimp only
  rw [hcopy]
  exact hresult

/-- **Any other reply leaves the table or the array.** -/
theorem decodeRegisterAccess_error {payload : List Byte} (h : ¬ Decodable payload) :
    decodeRegisterAccess payload = .error .outOfBounds := by
  unfold decodeRegisterAccess
  dsimp only
  rw [got_type]
  simp only [bind, Except.bind]
  by_cases htype : replyType payload ≤ WLMIO_REGISTER_VALUE_FLOAT16
  · have hlong : ¬ payload.length ≤ 265 + lengthWidth (replyType payload) :=
      fun hlen => h ⟨htype, hlen⟩
    rw [lengthWidth_get htype]
    dsimp only
    rw [got_length]
    dsimp only
    rw [copyValue_error (by omega)]
  · rw [lengthWidth_get_none (by omega)]

/-! ## The handler -/

/-- The computation stays inside the buffers. -/
def InBounds {α : Type} (x : Except Fault α) : Prop :=
  Fallible.FailsOnly (fun f => f ≠ .outOfBounds) x

/-- What a handler should do with a reply: store a register and complete the task. -/
def delivery (w : World) (t : TaskEntry) (regr : WlmioRegisterAccess) (r : Int) :
    Except Fault (World × Option Rest) := do
  let w ← writeRegr w t.param regr
  complete w t r

theorem delivery_inBounds (w : World) (t : TaskEntry) (regr : WlmioRegisterAccess) (r : Int) :
    InBounds (delivery w t regr r) := by
  refine ((writeRegr_fails _ _ _).mono (fun _ hf => hf.in_bounds)).bind ?_
  intro w₁ _
  refine (complete_fails w₁ t r).mono ?_
  intro f hf
  rcases hf with hf | rfl | rfl
  · exact hf.in_bounds
  · decide
  · decide

/-- The handler decodes and delivers. -/
theorem registerAccessResponseHandler_eq {w : World} {tfr : CanardTransfer} {t : TaskEntry}
    (ht : w.registry.taskWithId (makeRspSpecifier tfr) = some t) :
    registerAccessResponseHandler w tfr =
      (decodeRegisterAccess tfr.payload >>= fun x => delivery w t x.1 x.2) := by
  have hparam := asyncGetParam_found ht
  unfold registerAccessResponseHandler
  dsimp only
  rw [hparam]
  dsimp only
  congr 1
  funext ⟨regr, r⟩
  unfold delivery
  -- writing the register leaves the task where it is
  cases hw : writeRegr w t.param regr with
  | error f => rfl
  | ok w₁ =>
      have hreg := (writeRegr_cases hw).frame.1.registry
      show asyncComplete w₁ (makeRspSpecifier tfr) r = complete w₁ t r
      unfold asyncComplete
      rw [hreg, ht]

/-- The handler of `tfr` stays in bounds, and stores `regr` and completes the task with `r`. -/
structure HandledAs (w : World) (tfr : CanardTransfer) (t : TaskEntry) (regr : WlmioRegisterAccess)
    (r : Int) : Prop where
  inBounds : InBounds (registerAccessResponseHandler w tfr)
  result : registerAccessResponseHandler w tfr = delivery w t regr r

/-- **What the handler makes of a reply.** -/
theorem handledAs_iff {w : World} {tfr : CanardTransfer} {t : TaskEntry}
    {regr : WlmioRegisterAccess} {r : Int}
    (ht : w.registry.taskWithId (makeRspSpecifier tfr) = some t)
    (hvalue : Decodable tfr.payload → replyRegister tfr.payload = regr ∧ replyResult tfr.payload = r) :
    HandledAs w tfr t regr r ↔ Decodable tfr.payload := by
  have heq := registerAccessResponseHandler_eq ht
  constructor
  · intro h
    by_contra hn
    rw [decodeRegisterAccess_error hn] at heq
    exact h.inBounds _ heq rfl
  · intro hd
    rw [decodeRegisterAccess_ok hd] at heq
    obtain ⟨rfl, rfl⟩ := hvalue hd
    have hresult : registerAccessResponseHandler w tfr =
        delivery w t (replyRegister tfr.payload) (replyResult tfr.payload) := heq
    exact ⟨hresult ▸ delivery_inBounds _ _ _ _, hresult⟩

/-! ## Arbitrary replies -/

/-- **A reply is checked before it is used exactly when** it names a type of the table and is not
too long: then the handler stays in bounds and completes the task with the result the reply
deserves. -/
theorem reply_checked_iff {w : World} {tfr : CanardTransfer} {t : TaskEntry}
    (ht : w.registry.taskWithId (makeRspSpecifier tfr) = some t) :
    (∃ regr, HandledAs w tfr t regr (replyResult tfr.payload)) ↔ Decodable tfr.payload := by
  constructor
  · rintro ⟨regr, h⟩
    by_contra hn
    have heq := registerAccessResponseHandler_eq ht
    rw [decodeRegisterAccess_error hn] at heq
    exact h.inBounds _ heq rfl
  · intro hd
    exact ⟨replyRegister tfr.payload, (handledAs_iff ht (fun _ => ⟨rfl, rfl⟩)).mpr hd⟩

/-- A task that waits for the register of node 7 under the transfer identifier 0. -/
def waiting : TaskEntry := ⟨1, 7 ||| (384 <<< 12), 2, .register 0, .caller (.user 0), 0⟩

/-- The client with that task. -/
def waitingWorld : World :=
  { started with
    registry := withTask started.registry 5 ⟨2, 0⟩ waiting.id waiting.param waiting.callback 0 }

/-- A bit array that declares one element more than there can be. -/
theorem reply_checked_bits : ∃ regr, HandledAs waitingWorld
    ⟨0, 4, .response, 384, 7, 0, List.replicate 8 0#8 ++ [3#8, 1#8, 8#8]⟩ waiting regr (-EPROTO) :=
  (@reply_checked_iff waitingWorld _ waiting rfl).mpr ⟨by decide, by decide⟩

/-- **A type byte behind the end of the table.** -/
theorem unknown_type_escapes : ∃ w w', Reachable w ∧
    w.registry.head.map TaskEntry.param = [.register 0] ∧
    step w (.receive (responseFrame .registerAccess 7 0 (List.replicate 8 0#8 ++ [15#8])) 0 true) =
      some w' ∧ w'.fault = some .outOfBounds := by
  obtain ⟨w, hr, hw⟩ := exists_after Transition.free
    [.request (.registerAccess 7 (some [97#8]) none (some 0)) (some 0) (grantFrom 5), .tick]
    (fun w => decide (w.registry.head.map TaskEntry.param = [.register 0] ∧
      (step w (.receive (responseFrame .registerAccess 7 0 (List.replicate 8 0#8 ++ [15#8])) 0
        true)).any (fun w' => decide (w'.fault = some .outOfBounds)) = true)) (by decide +kernel)
  obtain ⟨hparam, hstep⟩ := of_decide_eq_true hw
  obtain ⟨w', hs, hw'⟩ := (Option.any_eq_true _ _).mp hstep
  exact ⟨w, w', hr, hparam, hs, of_decide_eq_true hw'⟩

/-! ## Replies that serialise a register -/

/-- The response of a device that has this register. -/
def replyPayload (header : List Byte) (reg : WlmioRegisterAccess) : List Byte :=
  header ++ [reg.type] ++ (Bytes.ofNat 2 reg.length.toNat).take (lengthWidth reg.type.toNat) ++
    reg.value.take (valueSize reg)

/-- The register without what is in the array behind its value. -/
def sentRegister (reg : WlmioRegisterAccess) : WlmioRegisterAccess where
  type := reg.type
  length := reg.length
  value := cleared (reg.value.take (valueSize reg))
  value_length := length_cleared _

section

variable {reg : WlmioRegisterAccess}

variable {header : List Byte}

theorem length_replyPayload (h : ValidRegister reg) (hheader : header.length = 8) :
    (replyPayload header reg).length = 9 + lengthWidth reg.type.toNat + valueSize reg := by
  have hvalue : (reg.value.take (valueSize reg)).length = valueSize reg := by
    rw [List.length_take, reg.value_length]
    exact Nat.min_eq_left h.facts.2.1
  unfold replyPayload
  simp only [List.length_append, length_lengthField, hvalue, hheader, List.length_singleton]

/-- Reading a reply with some zeros behind it. -/
theorem read_replyPayload (h : ValidRegister reg) (hheader : header.length = 8) (n : Nat) :
    replyType (replyPayload header reg ++ List.replicate n 0#8) = reg.type.toNat ∧
      replyLength (replyPayload header reg ++ List.replicate n 0#8) = reg.length.toNat ∧
      replyRest (replyPayload header reg ++ List.replicate n 0#8) =
        reg.value.take (valueSize reg) ++ List.replicate n 0#8 := by
  have hshape : replyPayload header reg ++ List.replicate n 0#8 =
      header ++ (reg.type :: ((Bytes.ofNat 2 reg.length.toNat).take (lengthWidth reg.type.toNat) ++
        (reg.value.take (valueSize reg) ++ List.replicate n 0#8))) := by
    simp only [replyPayload, List.append_assoc, List.cons_append, List.nil_append]
  rw [hshape]
  generalize reg.value.take (valueSize reg) ++ List.replicate n 0#8 = rest
  have htype : replyType (header ++ (reg.type ::
      ((Bytes.ofNat 2 reg.length.toNat).take (lengthWidth reg.type.toNat) ++ rest))) =
        reg.type.toNat := by
    unfold replyType Bytes.zeroExtended
    rw [List.getD_eq_getElem?_getD, List.getElem?_append_right (by omega), hheader]
    rfl
  have hdrop : (header ++ (reg.type ::
      ((Bytes.ofNat 2 reg.length.toNat).take (lengthWidth reg.type.toNat) ++ rest))).drop 9 =
        (Bytes.ofNat 2 reg.length.toNat).take (lengthWidth reg.type.toNat) ++ rest := by
    rw [List.drop_append, hheader, List.drop_of_length_le (by omega)]
    rfl
  refine ⟨htype, ?_, ?_⟩
  · unfold replyLength
    rw [htype, hdrop, List.take_left' (length_lengthField _ _), Bytes.take_ofNat (lengthWidth_le _),
      Bytes.toNat_ofNat, Nat.mod_eq_of_lt h.facts.2.2]
  · unfold replyRest
    rw [htype, ← List.drop_drop, hdrop, List.drop_left' (length_lengthField _ _)]

/-- The value is what is left of the array when zeros follow it. -/
theorem cleared_append_zeros (bytes : List Byte) (n : Nat) :
    cleared (bytes ++ List.replicate n 0#8) = cleared bytes := by
  unfold cleared
  rw [List.append_assoc, List.replicate_append_replicate]
  refine List.ext_getElem? ?_
  intro i
  simp only [List.getElem?_take, List.getElem?_append, List.getElem?_replicate]
  grind

/-- **A reply with padding behind it yields the register that was sent**, if it is decoded. -/
theorem reply_of_register (h : ValidRegister reg) (hheader : header.length = 8) (n : Nat) :
    replyRegister (replyPayload header reg ++ List.replicate n 0#8) = sentRegister reg ∧
      replyResult (replyPayload header reg ++ List.replicate n 0#8) = 0 := by
  obtain ⟨htype, hlength, hrest⟩ := read_replyPayload h hheader n
  constructor
  · unfold replyRegister sentRegister
    congr 1
    · rw [htype, BitVec.ofNat_toNat]
      rfl
    · rw [hlength, BitVec.ofNat_toNat]
      rfl
    · rw [hrest, cleared_append_zeros]
  · have hmax := h.length_le
    have hle := h.type_le
    unfold replyResult
    rw [htype, hlength, if_neg (by omega), if_neg h.nonempty]

/-- What the extent leaves of a reply and its padding. -/
theorem take_txPadded (h : ValidRegister reg) (hheader : header.length = 8) :
    (txPadded (replyPayload header reg)).take 267 = replyPayload header reg ++
      List.replicate (min (267 - (replyPayload header reg).length)
        (txPaddingOf (replyPayload header reg).length)) 0#8 := by
  have hlen := length_replyPayload h hheader
  have hsize := h.facts.2.1
  have h2 := lengthWidth_le reg.type.toNat
  unfold txPadded
  rw [List.take_append, List.take_of_length_le (by omega), List.take_replicate]

/-- The frames of a reply with a length field of one byte stay below the extent as long as the
value does not fill the array. -/
theorem padded_le : ∀ n < 266, n + txPaddingOf n ≤ 266 := by decide +kernel

/-- **The padded reply is decoded exactly when** its length field has two bytes or its value does
not fill the array. -/
theorem decodable_padded (h : ValidRegister reg) (hheader : header.length = 8) :
    Decodable ((txPadded (replyPayload header reg)).take 267) ↔
      lengthWidth reg.type.toNat = 2 ∨ valueSize reg < 256 := by
  obtain ⟨h1, hsize, _⟩ := h.facts
  have h2 := lengthWidth_le reg.type.toNat
  have hlen := length_replyPayload h hheader
  have htype := (read_replyPayload h hheader (min (267 - (replyPayload header reg).length)
    (txPaddingOf (replyPayload header reg).length))).1
  have hle := h.type_le
  rw [take_txPadded h hheader]
  unfold Decodable
  rw [htype, List.length_append, List.length_replicate, hlen]
  constructor
  · rintro ⟨_, hfit⟩
    by_contra hn
    obtain ⟨hw, hfull⟩ := not_or.mp hn
    have hw1 : lengthWidth reg.type.toNat = 1 := by omega
    -- 266 bytes are padded to 269, of which the extent leaves 267
    have hpad : txPaddingOf 266 = 3 := by decide
    rw [hw1, show valueSize reg = 256 by omega, hpad] at hfit
    omega
  · intro hc
    refine ⟨hle, ?_⟩
    rcases hc with hw | hlt
    · omega
    · by_cases hw : lengthWidth reg.type.toNat = 2
      · omega
      · have hpad := padded_le (9 + lengthWidth reg.type.toNat + valueSize reg) (by omega)
        omega

end

/-! ## Replies that arrive -/

/-- The frames of `tr` arrive at `ins` along `r`: in order, in time, under a subscription with this
extent, and at a session that is ready for them. -/
structure Arriving (ins : CanardInstance) (r : Route) (extent t₀ : Nat) (tr : CanardTransfer)
    (frames : List CanardFrame) : Prop where
  payloads : frames.map CanardFrame.payload =
    (txTransferFrames FD_MTU r.canId tr).map CanardFrame.payload
  first : frames.head?.map CanardFrame.timestampUsec = some t₀
  session : ∃ timeout sub, Listening ins r extent timeout sub ∧
    (∀ f ∈ frames, f.extendedCanId = r.canId ∧ f.timestampUsec ≤ t₀ + timeout) ∧
    ∀ rxs, sub.sessions r.src = some rxs → Ready rxs t₀ (tr.transferId % 32) extent timeout

/-- **A register arrives as it was sent exactly when** its length field has two bytes or its value
does not fill the array; else the padding overflows the array. -/
theorem register_delivered_iff {w : World} {t : TaskEntry} {r : Route} {t₀ : Nat}
    {tr : CanardTransfer} {frames : List CanardFrame} {header : List Byte}
    {reg : WlmioRegisterAccess} (hreg : ValidRegister reg) (hheader : header.length = 8)
    (hpayload : tr.payload = replyPayload header reg)
    (harrive : Arriving w.bus.canard r 267 t₀ tr frames)
    (ht : w.registry.taskWithId (makeRspSpecifier (r.transfer t₀ tr.transferId [])) = some t) :
    ∃ ins tfr b, canardRxFrames w.bus.canard frames = (ins, [(tfr, some b)]) ∧
      (HandledAs (withCanard w ins) tfr t (sentRegister reg) 0 ↔
        lengthWidth reg.type.toNat = 2 ∨ valueSize reg < 256) := by
  obtain ⟨timeout, sub, hl, hall, hready⟩ := harrive.session
  obtain ⟨ins, b, hrx⟩ := canardRxFrames_transfer (by decide) harrive.payloads hall harrive.first hl
    hready
  rw [hpayload] at hrx
  refine ⟨ins, _, b, hrx, ?_⟩
  rw [← decodable_padded hreg hheader]
  refine handledAs_iff (w := withCanard w ins) ht ?_
  intro _
  show replyRegister ((txPadded (replyPayload header reg)).take 267) = sentRegister reg ∧
    replyResult ((txPadded (replyPayload header reg)).take 267) = 0
  rw [take_txPadded hreg hheader]
  exact reply_of_register hreg hheader _

/-- The way from node 7 to the client. -/
def replyRoute : Route where
  canId := txMakeServiceSessionSpecifier 384 false 7 5 ||| (4 <<< 26)
  kind := .response
  port := 384
  src := 7
  dst := 5
  canId_le := by decide
  src_le := by decide
  parse := by decide

/-- 128 numbers of 16 bits: a value that fills the array. -/
def fullRegister : WlmioRegisterAccess :=
  ⟨10#8, 128#16, List.replicate 256 1#8, List.length_replicate⟩

/-- The reply with this register. -/
def replyTransfer (reg : WlmioRegisterAccess) : CanardTransfer :=
  ⟨0, 4, .response, 384, 5, 0, replyPayload (List.replicate 8 0#8) reg⟩

def replyFrames (reg : WlmioRegisterAccess) : List CanardFrame :=
  txTransferFrames FD_MTU replyRoute.canId (replyTransfer reg)

/-- 2047 bits. -/
def bitRegister : WlmioRegisterAccess :=
  ⟨3#8, 2047#16, List.replicate 256 1#8, List.length_replicate⟩

theorem register_delivered_bits : ∃ ins tfr b,
    canardRxFrames waitingWorld.bus.canard (replyFrames bitRegister) = (ins, [(tfr, some b)]) ∧
      HandledAs (withCanard waitingWorld ins) tfr waiting (sentRegister bitRegister) 0 := by
  have hsession : ∃ timeout sub, Listening waitingWorld.bus.canard replyRoute 267 timeout sub ∧
      (∀ f ∈ replyFrames bitRegister, f.extendedCanId = replyRoute.canId ∧
        f.timestampUsec ≤ 0 + timeout) ∧
      ∀ rxs, sub.sessions replyRoute.src = some rxs → Ready rxs 0 (0 % 32) 267 timeout :=
    ⟨2000000, ⟨fun _ => none, 2000000, 267, 384⟩, ⟨rfl, fun _ => rfl, rfl, rfl, rfl⟩,
      by decide +kernel, fun _ h => by cases h⟩
  obtain ⟨ins, tfr, b, hrx, hiff⟩ := @register_delivered_iff waitingWorld waiting replyRoute 0
    (replyTransfer bitRegister) (replyFrames bitRegister) (List.replicate 8 0#8) bitRegister
    ⟨by decide, by decide⟩ List.length_replicate rfl ⟨rfl, by decide +kernel, hsession⟩ rfl
  exact ⟨ins, tfr, b, hrx, hiff.mpr (.inl rfl)⟩

/-- **A valid register whose reply overflows the array.** -/
theorem full_register_overflows : ValidRegister fullRegister ∧ ∃ w, Reachable w ∧
    after Transition.free ([.request (.registerAccess 7 (some [97#8]) none (some 0)) (some 0)
      (grantFrom 5), .tick] ++ (replyFrames fullRegister).map (fun f => .receive f 0 true)) =
        some w ∧ w.fault = some .outOfBounds := by
  refine ⟨⟨by decide, by decide⟩, ?_⟩
  have hrun : (after Transition.free ([.request (.registerAccess 7 (some [97#8]) none (some 0))
      (some 0) (grantFrom 5), .tick] ++
        (replyFrames fullRegister).map (fun f => .receive f 0 true))).any
          (fun w => decide (w.fault = some .outOfBounds)) = true := by decide +kernel
  obtain ⟨w, hw, hf⟩ := (Option.any_eq_true _ _).mp hrun
  exact ⟨w, reachable_after hw, hw, of_decide_eq_true hf⟩

end Wlmio.Proof
