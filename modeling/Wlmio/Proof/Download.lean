import Wlmio.Library.Blocks
import Wlmio.Proof.FileFrames
import Wlmio.Proof.RegisterReply

/-!
# What a download brings

Each response of the firmware server carries the part of the image at the offset that was asked
for, without leaving the image or the buffer of the response; and as long as there is room for its
frames they leave the server, one response after the other. A receiver puts them together to the
response with some zeros behind it. So a reader that asks from 0 on, moves on by what it has
received and stops at the first block that is not full ends up with the image (`image_served`),
whatever else is asked of the server in between.
-/

namespace Wlmio.Proof

open Wlmio.Client Wlmio.Canard Wlmio.Tools

/-! ## One response -/

/-- How many bytes of the image there are to send at an offset. -/
def blockSize (image : List Byte) (offset : Nat) : Nat :=
  if offset < image.length then min 256 (image.length - offset) else 0

/-- What the response to a request for the part at `offset` has to be. -/
structure ServesBlock (image : List Byte) (offset : Nat) (payload : List Byte) : Prop where
  /-- The error code in the first two bytes is 0. -/
  error : Bytes.toNat (payload.take 2) = 0
  /-- The next two bytes are the size. -/
  size : Bytes.toNat ((payload.drop 2).take 2) = blockSize image offset
  length : payload.length = 4 + blockSize image offset
  /-- The buffer for the response is as large as that. -/
  fits : payload.length ≤ 260
  bytes : payload.drop 4 = (image.drop offset).take (blockSize image offset)

/-- What a reader takes from a response: as many bytes as the size says. -/
def delivered (r : CanardTransfer) : List Byte :=
  (r.payload.drop 4).take (Bytes.toNat ((r.payload.drop 2).take 2))

theorem length_block (image : List Byte) (offset : Nat) :
    (block image offset).length = blockSize image offset := by
  unfold block blockSize
  rw [List.length_take, List.length_drop]
  split
  · rfl
  · omega

theorem serves_blockPayload (image : List Byte) (offset : Nat) :
    ServesBlock image offset (blockPayload image offset) := by
  have hle : blockSize image offset ≤ 256 := by
    unfold blockSize
    split
    · exact Nat.min_le_left _ _
    · exact Nat.zero_le _
  have hsize : (Bytes.ofNat 2 (block image offset).length).length = 2 := Bytes.length_ofNat 2 _
  have hdrop : (blockPayload image offset).drop 2 =
      Bytes.ofNat 2 (block image offset).length ++ block image offset := rfl
  have hlen : (blockPayload image offset).length = 4 + blockSize image offset := by
    unfold blockPayload
    rw [List.length_append, List.length_append, hsize, length_block]
    rfl
  refine ⟨rfl, ?_, hlen, by omega, ?_⟩
  · rw [hdrop, List.take_left' hsize, Bytes.toNat_ofNat, length_block, Nat.mod_eq_of_lt (by omega)]
  · have hfour : (blockPayload image offset).drop 4 = ((blockPayload image offset).drop 2).drop 2 := by
      rw [List.drop_drop]
    rw [hfour, hdrop, List.drop_left' hsize, ← length_block]
    unfold block
    rw [List.length_take]
    exact List.take_eq_take_min

/-- What a reader finds in a response: no error, the size, and as many bytes of the image. -/
structure ReadsBlock (image : List Byte) (offset : Nat) (payload : List Byte) : Prop where
  error : Bytes.toNat (payload.take 2) = 0
  size : Bytes.toNat ((payload.drop 2).take 2) = blockSize image offset
  bytes : (payload.drop 4).take (blockSize image offset) =
    (image.drop offset).take (blockSize image offset)

/-- Zeros behind a response do no harm. -/
theorem ServesBlock.reads {image : List Byte} {offset : Nat} {payload : List Byte}
    (h : ServesBlock image offset payload) (n : Nat) :
    ReadsBlock image offset (payload ++ List.replicate n 0#8) := by
  have hlen := h.length
  constructor
  · rw [List.take_append_of_le_length (by omega)]
    exact h.error
  · rw [List.drop_append_of_le_length (by omega),
      List.take_append_of_le_length (by rw [List.length_drop]; omega)]
    exact h.size
  · rw [List.drop_append_of_le_length (by omega),
      List.take_append_of_le_length (by rw [List.length_drop]; omega), h.bytes, List.take_take,
      Nat.min_self]

/-- A reader gets the block. -/
theorem delivered_eq {image : List Byte} {offset : Nat} {r : CanardTransfer}
    (h : ReadsBlock image offset r.payload) : delivered r = Blocks.block 256 image offset := by
  unfold delivered
  rw [h.size, h.bytes]
  unfold Blocks.block blockSize
  split
  · rw [← List.length_drop]
    exact List.take_eq_take_min.symm
  · rw [List.drop_of_length_le (by omega), List.take_nil, List.take_nil]

/-! ## A whole download -/

/-- The requests a run has answered, each with its response. -/
def exchanges (qs : List CanardTransfer) (s : Server) : List (CanardTransfer × CanardTransfer) :=
  qs.zip (responses s)

/-- What a reader knows of an exchange: the offset it has asked for and the bytes it got. -/
def seen (x : CanardTransfer × CanardTransfer) : Nat × List Byte := (askedOffset x.1, delivered x.2)

/-- What a download can come to: what has arrived is the beginning of the image, it ends after so
many blocks, and then the whole image has arrived. -/
structure Downloads (image : List Byte) (xs : List (CanardTransfer × CanardTransfer)) : Prop where
  beginning : Blocks.received (xs.map seen) = image.take (256 * xs.length)
  ends : xs.length ≤ image.length / 256 + 1
  stopped : Blocks.Stopped 256 (xs.map seen) ↔ xs.length = image.length / 256 + 1
  whole : Blocks.Stopped 256 (xs.map seen) → Blocks.received (xs.map seen) = image

theorem downloads {image : List Byte} {xs : List (CanardTransfer × CanardTransfer)}
    (hserved : ∀ x ∈ xs, ReadsBlock image (askedOffset x.1) x.2.payload)
    (h : Blocks.Follows 256 0 (xs.map seen)) : Downloads image xs := by
  have hblocks : ∀ e ∈ xs.map seen, e.2 = Blocks.block 256 image e.1 := by
    intro e he
    obtain ⟨x, hx, rfl⟩ := List.mem_map.mp he
    exact delivered_eq (hserved x hx)
  obtain ⟨hle, hstop⟩ := Blocks.length_le (by decide) h hblocks (Nat.zero_le _)
  rw [List.length_map, Nat.sub_zero] at hle hstop
  have hreceived := Blocks.received_eq h hblocks
  rw [List.length_map, List.drop_zero] at hreceived
  exact ⟨hreceived, hle, hstop, Blocks.received_whole (by decide) h hblocks⟩

/-! ## Runs -/

/-- Every response of a run serves the request it answers. -/
theorem run_serves {qs : List CanardTransfer} {s : Server} (h : ServerRun qs s) :
    List.Forall₂ (fun q r => ServesBlock s.data (askedOffset q) r.payload) qs (responses s) := by
  rw [serverRun_responses h, List.forall₂_map_right_iff, List.forall₂_same]
  exact fun q _ => serves_blockPayload _ _

/-- `main` enters its loop with every image of an admissible size. -/
theorem exists_started {image : List Byte} (hpos : 0 < image.length)
    (hle : image.length ≤ 0x38000) : ∃ s, StartedSending s ∧ s.data = image := by
  have hstart : startServer ⟨3, some image, true, some 7, some 5#7, ampleMemory, 100⟩ ≠ none := by
    unfold startServer
    simp only [ne_eq, not_true, if_false, Bool.not_true, Bool.false_eq_true]
    rw [if_neg (by omega)]
    simp
  obtain ⟨s, hs⟩ := Option.ne_none_iff_exists'.mp hstart
  refine ⟨s, ⟨_, hs, rfl, Nat.succ_pos 99⟩, ?_⟩
  unfold startServer at hs
  dsimp only at hs
  rw [if_neg (by decide), if_neg (by decide), if_neg (by omega), if_neg (by decide)] at hs
  rw [← Option.some.inj hs, uavcanSend_eq]
  rfl

/-- The only fault is that of a response for which there is no memory. -/
theorem step_fault {s s' : Server} {p : Pass} (h : s.step p = some s') :
    s'.fault = none ∨ ∃ frame txRoom, p = .frame frame false txRoom := by
  unfold Server.step at h
  split at h
  · cases h
  rename_i hfault
  rcases pass_cases s p with ⟨s₁, hpass, hkept, _⟩ | ⟨f, frame, txRoom, _, hp⟩
  · rw [hpass] at h
    rw [← Option.some.inj h, hkept]
    exact .inl (by simpa using hfault)
  · exact .inr ⟨frame, txRoom, hp⟩

/-! ## On the bus -/

/-- A receiver makes `y` of the frames of the response `r`: they arrive in order and in time, at a
subscription to responses of this size. -/
def Receives (localNodeId : Nat) (r y : CanardTransfer) : Prop :=
  ∃ ins ins' route extent t₀ frames buffer, route.canId = serviceCanId localNodeId r ∧
    260 ≤ extent ∧ Arriving ins route extent t₀ r frames ∧
    canardRxFrames ins frames = (ins', [(y, some buffer)])

/-- **What is received is the response**, with zeros behind it. -/
theorem receives_payload {localNodeId : Nat} {r y : CanardTransfer} (h : Receives localNodeId r y)
    (hlen : r.payload.length ≤ 260) : ∃ n, y.payload = r.payload ++ List.replicate n 0#8 := by
  obtain ⟨ins, ins', route, extent, t₀, frames, buffer, _, hextent, harrive, hrx⟩ := h
  obtain ⟨timeout, sub, hl, hall, hready⟩ := harrive.session
  obtain ⟨ins₁, b, hrx₁⟩ := canardRxFrames_transfer (by omega) harrive.payloads hall harrive.first hl
    hready
  rw [hrx] at hrx₁
  obtain ⟨htransfer, _⟩ := List.cons.inj (Prod.mk.inj hrx₁).2
  obtain ⟨rfl, _⟩ := Prod.mk.inj htransfer
  refine ⟨min (extent - r.payload.length) (txPaddingOf r.payload.length), ?_⟩
  show (txPadded r.payload).take extent = _
  unfold txPadded
  rw [List.take_append, List.take_of_length_le (by omega), List.take_replicate]

/-- What a reader receives can be read as the block it has asked for. -/
theorem received_reads {image : List Byte} {localNodeId : Nat}
    {xs ys : List (CanardTransfer × CanardTransfer)}
    (h : List.Forall₂ (fun x y => y.1 = x.1 ∧ Receives localNodeId x.2 y.2) xs ys)
    (hserved : ∀ x ∈ xs, ServesBlock image (askedOffset x.1) x.2.payload) :
    ∀ y ∈ ys, ReadsBlock image (askedOffset y.1) y.2.payload := by
  induction h with
  | nil => simp
  | cons hxy _ ih =>
      obtain ⟨hx, hxs⟩ := List.forall_mem_cons.mp hserved
      refine List.forall_mem_cons.mpr ⟨?_, ih hxs⟩
      obtain ⟨n, hpayload⟩ := receives_payload hxy.2 hx.fits
      rw [hxy.1, hpayload]
      exact hx.reads n

/-- **The image is served.** With every image that is not empty and not too large, each response is
the part that was asked for, its frames leave the server in turn, and a download of one request
after the other brings the image. -/
theorem image_served {image : List Byte} (hpos : 0 < image.length) (hle : image.length ≤ 0x38000) :
    (∃ s, StartedSending s ∧ s.data = image) ∧ ∀ qs s, ServerRun qs s → s.data = image →
      List.Forall₂ (fun q r => ServesBlock image (askedOffset q) r.payload) qs (responses s) ∧
      (∀ xs, xs.Sublist (exchanges qs s) → Blocks.Follows 256 0 (xs.map seen) →
        Downloads image xs) ∧
      -- the frames of the command and of each response leave, in order and each once
      (SendingRun qs s → s.canard.txQueue = [] ∧
        s.sent = (serviceFrames s.canard.nodeId (startCommand s.nodeId) ++
          (responses s).flatMap (serviceFrames s.canard.nodeId)).map toCanfd) ∧
      -- a reader that gets these frames gets the image
      (∀ xs ys, xs.Sublist (exchanges qs s) →
        List.Forall₂ (fun x y => y.1 = x.1 ∧ Receives s.canard.nodeId x.2 y.2) xs ys →
        (∀ y ∈ ys, ReadsBlock image (askedOffset y.1) y.2.payload) ∧
          (Blocks.Follows 256 0 (ys.map seen) → Downloads image ys)) ∧
      -- neither the image nor the buffer of the response is left
      ∀ p s', s.step p = some s' → s'.fault = none ∨ ∃ frame txRoom, p = .frame frame false txRoom := by
  refine ⟨exists_started hpos hle, ?_⟩
  rintro qs s h rfl
  have hserves := run_serves h
  have hexchanged : ∀ x ∈ exchanges qs s, ServesBlock s.data (askedOffset x.1) x.2.payload := by
    intro x hx
    exact List.forall₂_zip hserves hx
  refine ⟨hserves, fun xs hsub hfollows => downloads (fun x hx => ?_) hfollows, fun hsending => ?_,
    fun xs ys hsub hreceived => ?_, fun _ _ hs => step_fault hs⟩
  · have hreads := (hexchanged x (hsub.subset hx)).reads 0
    rwa [List.replicate_zero, List.append_nil] at hreads
  · have hidle := sendingRun_sent hsending
    refine ⟨hidle.queue, ?_⟩
    rw [hidle.sent, serverRun_responses h, List.flatMap_map]
    rfl
  · have hreads := received_reads hreceived (fun x hx => hexchanged x (hsub.subset hx))
    exact ⟨hreads, fun hfollows => downloads hreads hfollows⟩

/-- An image of one block and three bytes. -/
def sampleImage : List Byte := List.replicate 259 7#8

/-- Node 7 asks at an offset below 65536, and leaves the higher bytes of the offset out. -/
def readTransfer (offset tid : Nat) : CanardTransfer :=
  ⟨0, 4, .request, 408, 7, tid, Bytes.ofNat 2 offset⟩

/-- The frame of this request. -/
def readFrameAt (offset tid : Nat) : CanardFrame where
  timestampUsec := 0
  extendedCanId := txMakeServiceSessionSpecifier 408 true 7 5 ||| (4 <<< 26)
  payload := Bytes.ofNat 2 offset ++ [txMakeTailByte true true true tid]

/-- The response to it. -/
def readAnswer (offset tid : Nat) : CanardTransfer := answer sampleImage 7 (readTransfer offset tid)

/-- Node 7, which waits for responses. -/
def reader : CanardInstance :=
  (canardRxSubscribe { canardInit ampleMemory with mtuBytes := CANARD_MTU_CAN_FD, nodeId := 7 }
    .response 408 300 2000000).1

/-- The way from the server to node 7. -/
def answerRoute : Route where
  canId := txMakeServiceSessionSpecifier 408 false 5 7 ||| (4 <<< 26)
  kind := .response
  port := 408
  src := 5
  dst := 7
  canId_le := by decide
  src_le := by decide
  parse := by decide

/-- The frames of a response arrive at node 7. -/
theorem reader_receives {offset tid : Nat}
    (hframes : ∀ f ∈ serviceFrames 5 (readAnswer offset tid),
      f.extendedCanId = answerRoute.canId ∧ f.timestampUsec ≤ 0 + 2000000)
    (hfirst : (serviceFrames 5 (readAnswer offset tid)).head?.map CanardFrame.timestampUsec =
      some 0) : ∃ y, Receives 5 (readAnswer offset tid) y := by
  have harrive : Arriving reader answerRoute 300 0 (readAnswer offset tid)
      (serviceFrames 5 (readAnswer offset tid)) :=
    ⟨rfl, hfirst, 2000000, ⟨fun _ => none, 2000000, 300, 408⟩, ⟨rfl, fun _ => rfl, rfl, rfl, rfl⟩,
      hframes, fun _ h => by cases h⟩
  obtain ⟨timeout, sub, hl, hall, hready⟩ := harrive.session
  obtain ⟨ins', b, hrx⟩ := canardRxFrames_transfer (by decide) harrive.payloads hall harrive.first hl
    hready
  exact ⟨_, reader, ins', answerRoute, 300, 0, _, b, rfl, by decide, harrive, hrx⟩

/-- Two requests bring the image, and there is no third. -/
theorem image_served_259 : ∃ qs s ys, SendingRun qs s ∧ s.sent =
      (serviceFrames 5 (startCommand 7) ++ serviceFrames 5 (readAnswer 0 0) ++
        serviceFrames 5 (readAnswer 256 1)).map toCanfd ∧
    List.Forall₂ (fun x y => y.1 = x.1 ∧ Receives 5 x.2 y.2) (exchanges qs s) ys ∧
    Downloads sampleImage ys ∧
    ys.map seen = [(0, List.replicate 256 7#8), (256, List.replicate 3 7#8)] := by
  have hrun : (startServer { updateOs with file := some sampleImage }).any (fun s =>
      (s.step (.frame (readFrameAt 0 0) true 100)).any (fun s₁ =>
        (s₁.step (.frame (readFrameAt 256 1) true 100)).any (fun s₂ =>
          let qs := asked s (.frame (readFrameAt 0 0) true 100) s₁ ++
            asked s₁ (.frame (readFrameAt 256 1) true 100) s₂
          decide (s₂.data = sampleImage ∧ s₂.canard.nodeId = 5 ∧ s₂.nodeId = 7 ∧
            heard s (.frame (readFrameAt 0 0) true 100) = [readTransfer 0 0] ∧
            heard s₁ (.frame (readFrameAt 256 1) true 100) = [readTransfer 256 1] ∧
            0 ≤ (canardTxPush (s.receiveTransfer (readFrameAt 0 0)).1.canard
              (answer s.data s.nodeId (readTransfer 0 0)) 100).2 ∧
            0 ≤ (canardTxPush (s₁.receiveTransfer (readFrameAt 256 1)).1.canard
              (answer s₁.data s₁.nodeId (readTransfer 256 1)) 100).2 ∧
            qs = [readTransfer 0 0, readTransfer 256 1])))) = true := by
    decide +kernel
  obtain ⟨s, hs, h⟩ := (Option.any_eq_true _ _).mp hrun
  obtain ⟨s₁, hs₁, h⟩ := (Option.any_eq_true _ _).mp h
  obtain ⟨s₂, hs₂, h⟩ := (Option.any_eq_true _ _).mp h
  obtain ⟨hdata, hlocal, hnode, hheard, hheard₁, hpush, hpush₁, hqs⟩ := of_decide_eq_true h
  have hp : PushSucceeds s (.frame (readFrameAt 0 0) true 100) := by
    intro q hq
    rw [hheard] at hq
    obtain rfl := List.mem_singleton.mp hq
    exact hpush
  have hp₁ : PushSucceeds s₁ (.frame (readFrameAt 256 1) true 100) := by
    intro q hq
    rw [hheard₁] at hq
    obtain rfl := List.mem_singleton.mp hq
    exact hpush₁
  have hsending : SendingRun _ s₂ :=
    .step (.step (.init ⟨_, hs, rfl, Nat.succ_pos 99⟩) hp hs₁) hp₁ hs₂
  rw [List.nil_append, hqs] at hsending
  have hresponses : responses s₂ = [readAnswer 0 0, readAnswer 256 1] := by
    rw [serverRun_responses hsending.serverRun, hdata, hnode]
    rfl
  have hlen : sampleImage.length = 259 := List.length_replicate
  obtain ⟨_, _, hsent, hreader, _⟩ :=
    (image_served (by omega) (by omega)).2 _ s₂ hsending.serverRun hdata
  -- both responses arrive
  obtain ⟨y, hy⟩ := @reader_receives 0 0 (by decide +kernel) (by decide +kernel)
  obtain ⟨y₁, hy₁⟩ := @reader_receives 256 1 (by decide +kernel) (by decide +kernel)
  have hexchanges : exchanges [readTransfer 0 0, readTransfer 256 1] s₂ =
      [(readTransfer 0 0, readAnswer 0 0), (readTransfer 256 1, readAnswer 256 1)] := by
    unfold exchanges
    rw [hresponses]
    rfl
  have hreceived : List.Forall₂ (fun x y => y.1 = x.1 ∧ Receives 5 x.2 y.2)
      (exchanges [readTransfer 0 0, readTransfer 256 1] s₂)
      [(readTransfer 0 0, y), (readTransfer 256 1, y₁)] := by
    rw [hexchanges]
    exact .cons ⟨rfl, hy⟩ (.cons ⟨rfl, hy₁⟩ .nil)
  obtain ⟨hreads, hdownloads⟩ := hreader _ _ (List.Sublist.refl _) (hlocal.symm ▸ hreceived)
  have hseen : [(readTransfer 0 0, y), (readTransfer 256 1, y₁)].map seen =
      [(0, List.replicate 256 7#8), (256, List.replicate 3 7#8)] := by
    have h₀ := delivered_eq (hreads (readTransfer 0 0, y) (by simp))
    have h₁ := delivered_eq (hreads (readTransfer 256 1, y₁) (by simp))
    dsimp only at h₀ h₁
    show [(askedOffset (readTransfer 0 0), delivered y),
      (askedOffset (readTransfer 256 1), delivered y₁)] = _
    rw [h₀, h₁]
    decide +kernel
  refine ⟨_, s₂, _, hsending, ?_, hreceived, hdownloads ?_, hseen⟩
  · rw [(hsent hsending).2, hresponses, hlocal, hnode, List.append_assoc]
    rfl
  · rw [hseen]
    exact ⟨rfl, fun _ => Nat.le_of_eq List.length_replicate.symm,
      by rw [List.length_replicate], fun h => absurd rfl h, trivial⟩

end Wlmio.Proof
