import Wlmio.Canard.Chains
import Wlmio.Canard.CanId
import Mathlib.Data.List.Forall2

/-!
# What a listener makes of what a sender sends

The frames of transfer after transfer come in on one route, in the order in which they
were queued, and none of them much later than the first of its transfer. A listener
gives out just these transfers, as far as they have come in (`Between.transfers_prefix`).

The first frame of a transfer finds the listener ready for it unless it has the
transfer-ID of the transfer before: the session takes it for a repeat of that one.
-/

namespace Wlmio.Canard

open Demultiplexer

/-! ## Where a listener is -/

/-- The assembly has `data` of transfer `tid`, from the first transport. -/
structure Assembly.At (a : Assembly) (tid : Nat) (data : List Byte) (toggle : Bool) : Prop where
  data : a.data = data
  toggle : a.toggle = toggle
  index : a.redundantTransportIndex = 0
  tid : a.transferId = tid

/-- The listener is between two transfers, and the last one was not `tid`. -/
def Between (l : Listener) (tid : Nat) : Prop :=
  ∀ a, l.assembly = some a → ∃ n, a.At n [] true ∧ n < 32 ∧ n ≠ (tid % 32 + 1) % 32

/-- After one transfer the listener is ready for any other. -/
theorem Between.after {l : Listener} {a : Assembly} {tid tid' : Nat} (hl : l.assembly = some a)
    (h : a.At ((tid % 32 + 1) % 32) [] true) (hne : tid % 32 ≠ tid' % 32) : Between l tid' := by
  intro b hb
  obtain rfl : a = b := Option.some.inj (hl.symm.trans hb)
  exact ⟨_, h, Nat.mod_lt _ (by omega), by omega⟩

theorem Assembly.At.next {a : Assembly} {tid : Nat} {data : List Byte} {toggle : Bool}
    (h : a.At tid data toggle) : a.next.At ((tid + 1) % 32) [] true := by
  refine ⟨rfl, rfl, h.index, ?_⟩
  show (a.transferId + 1) &&& CANARD_TRANSFER_ID_MAX = _
  rw [h.tid]
  exact BitField.and_mask (tid + 1) 5

/-! ## One frame -/

/-- What a listener makes of a frame on the first transport, with memory at hand. -/
def Listener.receive (l : Listener) (frame : CanardFrame) : Listener × Option CanardTransfer :=
  match rxTryParseFrame frame with
  | some model => l.accept Grant.all model 0
  | none => (l, none)

theorem outputs_receive (l : Listener) (frames : List CanardFrame) :
    outputs (listenerCall Grant.all) (some l) (frames.map (fun f => Call.accept f 0)) =
      outputs Listener.receive l frames := by
  induction frames generalizing l with
  | nil => rfl
  | cons f frames ih =>
      have hcall : listenerCall Grant.all (some l) (.accept f 0) =
          (some (l.receive f).1, (l.receive f).2) := by
        cases hparse : rxTryParseFrame f with
        | none => simp only [listenerCall, listenerStep, Listener.receive, hparse]
        | some model => simp only [listenerCall, listenerStep, Listener.receive, hparse]
      rw [List.map_cons, outputs_cons, outputs_cons, hcall, ih]

section

variable {l : Listener} {r : Route} {tid t : Nat} {p : List Byte} {eot toggle : Bool}

/-- A frame of the route is taken for what it is. -/
theorem receive_tailed (l : Listener) {f : CanardFrame} {sot : Bool} (hid : f.extendedCanId = r.canId)
    (hp : f.payload = p ++ [txMakeTailByte sot eot toggle tid])
    (hsot : sot = true → toggle = true) (h7 : eot = true ∨ 7 ≤ p.length)
    (h0 : (sot = true ∧ eot = true) ∨ 0 < p.length) :
    l.receive f = l.accept Grant.all (r.model f.timestampUsec tid sot eot toggle p) 0 := by
  have hparse := rxTryParseFrame_tailed (by rw [hid]; exact r.parse) r.src_le hp hsot h7 h0
  rw [hid] at hparse
  unfold Listener.receive
  rw [hparse]
  rfl

/-- The next frame of the transfer that is in hand. -/
theorem Assembly.At.proceed {a : Assembly} {data : List Byte} (hl : l.assembly = some a)
    (h : a.At (tid % 32) data toggle) (htime : t ≤ a.timestampUsec + l.timeout) :
    l.accept Grant.all (r.model t tid false eot toggle p) 0 =
      ({ l with assembly := some (a.collect true (r.model t tid false eot toggle p) l.extent).1 },
        (a.collect true (r.model t tid false eot toggle p) l.extent).2) := by
  have hsrc : (r.model t tid false eot toggle p).sourceNodeId ≤ CANARD_NODE_ID_MAX := r.src_le
  have hkeep : ¬ a.abandons (r.model t tid false eot toggle p) 0 l.timeout = true := by
    have hlate : ¬ l.timeout < t - a.timestampUsec := by omega
    simp [Assembly.abandons, Route.model, hlate]
  have hfits : a.fits (r.model t tid false eot toggle p) 0 = true := by
    simp [Assembly.fits, Route.model, h.index, h.toggle, h.tid]
  unfold Listener.accept Listener.proceed Assembly.step Assembly.take
  simp only [if_pos hsrc, hl, if_neg hkeep, if_pos hfits]
  rfl

/-- **The first frame** finds the listener ready, whatever it did before. -/
theorem Between.start (h : Between l tid) (t : Nat) (eot : Bool) (p : List Byte) :
    ∃ a : Assembly, a.At (tid % 32) [] true ∧
      l.accept Grant.all (r.model t tid true eot true p) 0 =
        ({ l with assembly := some (a.collect true (r.model t tid true eot true p) l.extent).1 },
          (a.collect true (r.model t tid true eot true p) l.extent).2) := by
  have hsrc : (r.model t tid true eot true p).sourceNodeId ≤ CANARD_NODE_ID_MAX := r.src_le
  -- one step of an assembly that holds nothing
  have hstep : ∀ (b : Assembly) (n : Nat), b.At n [] true → n < 32 → n ≠ (tid % 32 + 1) % 32 →
      ∃ a : Assembly, a.At (tid % 32) [] true ∧
        b.step true (r.model t tid true eot true p) 0 l.timeout l.extent =
          a.collect true (r.model t tid true eot true p) l.extent := by
    intro b n hb hlt hne
    unfold Assembly.step Assembly.take
    by_cases hn : b.abandons (r.model t tid true eot true p) 0 l.timeout = true
    · refine ⟨b.synchronise (r.model t tid true eot true p) 0, ⟨rfl, rfl, rfl, rfl⟩, ?_⟩
      have hfits : (b.synchronise (r.model t tid true eot true p) 0).fits
          (r.model t tid true eot true p) 0 = true := by
        simp [Assembly.fits, Assembly.synchronise, Route.model]
      have hsot : (r.model t tid true eot true p).startOfTransfer = true := rfl
      rw [if_pos hn]
      dsimp only
      rw [if_pos hsot, if_pos hfits]
    · -- it is not abandoned, so this is the transfer it waits for
      have hdiff : ¬ 1 < rxComputeTransferIDDifference n (tid % 32) := by
        intro hlarge
        refine hn ?_
        unfold Assembly.abandons
        simp [hb.index, hb.tid, Route.model, hlarge]
      have htid : n = tid % 32 := by
        unfold rxComputeTransferIDDifference at hdiff
        dsimp only at hdiff
        split at hdiff <;> omega
      have hfits : b.fits (r.model t tid true eot true p) 0 = true := by
        simp [Assembly.fits, hb.index, hb.toggle, hb.tid, htid, Route.model]
      rw [if_neg hn, if_pos hfits]
      exact ⟨b, htid ▸ hb, rfl⟩
  unfold Listener.accept Listener.proceed
  rw [if_pos hsrc]
  cases ha : l.assembly with
  | some b =>
      obtain ⟨n, hb, hlt, hne⟩ := h b ha
      obtain ⟨a, hat, hcollect⟩ := hstep b n hb hlt hne
      refine ⟨a, hat, ?_⟩
      rw [← hcollect]
      rfl
  | none =>
      obtain ⟨a, hat, hcollect⟩ := hstep (.start (r.model t tid true eot true p) 0) (tid % 32)
        ⟨rfl, rfl, rfl, rfl⟩ (Nat.mod_lt _ (by omega)) (by omega)
      refine ⟨a, hat, ?_⟩
      rw [← hcollect]
      rfl

end

/-! ## One transfer -/

/-- What comes out for a transfer whose first frame came in at time `t`. -/
def Route.received (r : Route) (extent t : Nat) (tr : CanardTransfer) : CanardTransfer :=
  r.transfer t tr.transferId ((txPadded tr.payload).take extent)

section

variable {r : Route} {tid t : Nat}

/-- **The rest of a transfer.** `data` are in hand, `rest` is still to come, in pieces. The induction
is over the pieces: a full one is collected, the last one completes the transfer. -/
theorem Assembly.At.rest {body rest : List Byte} {ps : List (List Byte)} (hps : Pieces rest ps) :
    ∀ {frames : List CanardFrame} {l : Listener} {a : Assembly} {data : List Byte} {toggle : Bool},
      frames.map CanardFrame.payload = txTailed tid false toggle ps →
      (∀ f ∈ frames, f.extendedCanId = r.canId ∧ f.timestampUsec ≤ t + l.timeout) →
      l.assembly = some a → a.At (tid % 32) data toggle → a.timestampUsec = t →
      data ++ rest = body ++ [crcHigh (crcAdd CRC_INITIAL body), crcLow (crcAdd CRC_INITIAL body)] →
      outputs Listener.receive l frames = [r.transfer t tid (body.take l.extent)] ∧
        ∃ b, final Listener.receive l frames = { l with assembly := some b } ∧
          b.At ((tid % 32 + 1) % 32) [] true := by
  induction hps with
  | @last p hne hlen =>
      intro frames l a data toggle hf hall hl hat ht hbody
      obtain ⟨f, rfl, hfp⟩ : ∃ f, frames = [f] ∧
          f.payload = p ++ [txMakeTailByte false true toggle tid] := by
        obtain ⟨f, fs, rfl, hfp, hnil⟩ := List.map_eq_cons_iff.mp hf
        exact ⟨f, by rw [List.map_eq_nil_iff.mp hnil], hfp⟩
      obtain ⟨hid, htime⟩ := hall f List.mem_cons_self
      have hreceive := receive_tailed l hid hfp (fun h => (nomatch h)) (.inl rfl)
        (.inr (List.length_pos_iff.mpr hne))
      have hproceed := @Assembly.At.proceed l r tid f.timestampUsec p true toggle a data hl hat
        (by rw [ht]; exact htime)
      have happend : (a.append (r.model f.timestampUsec tid false true toggle p)).At (tid % 32)
          (data ++ p) toggle := ⟨by rw [← hat.data]; rfl, hat.toggle, hat.index, hat.tid⟩
      -- the last piece closes the payload with its CRC
      have hresidue : crcAdd CRC_INITIAL (data ++ p) = CRC_RESIDUE := by
        rw [hbody, crcAdd_append, crcAdd_self]
      have hcut : (data ++ p).take ((data ++ p).length - CRC_SIZE_BYTES) = body := by
        rw [hbody, List.length_append]
        exact List.take_left
      have htransfer : (a.append (r.model f.timestampUsec tid false true toggle p)).transfer
          (r.model f.timestampUsec tid false true toggle p) l.extent =
            some (r.transfer t tid (body.take l.extent)) := by
        unfold Assembly.transfer
        rw [happend.data, if_pos hresidue, hcut, ← ht]
        rfl
      have hcollect : a.collect true (r.model f.timestampUsec tid false true toggle p) l.extent =
          ((a.append (r.model f.timestampUsec tid false true toggle p)).next,
            some (r.transfer t tid (body.take l.extent))) := by
        rw [← htransfer]
        rfl
      rw [outputs_cons, final_cons, hreceive, hproceed, hcollect]
      exact ⟨rfl, _, rfl, happend.next⟩
  | @full p rest ps hlen hps ih =>
      intro frames l a data toggle hf hall hl hat ht hbody
      rw [txTailed_cons hps.ne_nil] at hf
      obtain ⟨f, fs, rfl, hfp, hrest⟩ := List.map_eq_cons_iff.mp hf
      obtain ⟨hid, htime⟩ := hall f List.mem_cons_self
      have hmtu : FD_MTU = 63 := rfl
      have hreceive := receive_tailed l hid hfp (fun h => (nomatch h)) (.inr (by omega))
        (.inr (by omega))
      have hproceed := @Assembly.At.proceed l r tid f.timestampUsec p false toggle a data hl hat
        (by rw [ht]; exact htime)
      -- a full piece is collected; the toggle is now that of the pieces to come
      obtain ⟨b, hcollect, hb, hbt⟩ : ∃ b : Assembly,
          a.collect true (r.model f.timestampUsec tid false false toggle p) l.extent = (b, none) ∧
          b.At (tid % 32) (data ++ p) (!toggle) ∧ b.timestampUsec = t :=
        ⟨_, rfl, ⟨by rw [← hat.data]; rfl, by rw [← hat.toggle]; rfl, hat.index, hat.tid⟩, ht⟩
      rw [outputs_cons, final_cons, hreceive, hproceed, hcollect]
      obtain ⟨hout, c, hfinal, hc⟩ := ih (l := { l with assembly := some b }) hrest
        (fun g hg => hall g (List.mem_cons_of_mem _ hg)) rfl hb hbt (by rw [← hbody, List.append_assoc])
      exact ⟨hout, c, hfinal, hc⟩

/-- **A transfer arrives**, and the listener is ready for the next. -/
theorem Between.transfer {l : Listener} {tr : CanardTransfer} {frames : List CanardFrame}
    (h : Between l tr.transferId) (hf : frames.map CanardFrame.payload =
      (txTransferFrames FD_MTU r.canId tr).map CanardFrame.payload)
    (hall : ∀ f ∈ frames, f.extendedCanId = r.canId ∧ f.timestampUsec ≤ t + l.timeout)
    (hfirst : frames.head?.map CanardFrame.timestampUsec = some t) :
    outputs Listener.receive l frames = [r.received l.extent t tr] ∧
      ∃ b, final Listener.receive l frames = { l with assembly := some b } ∧
        b.At ((tr.transferId % 32 + 1) % 32) [] true := by
  unfold txTransferFrames at hf
  have hmap : (CanardFrame.payload ∘ fun p => CanardFrame.mk tr.timestampUsec r.canId p) = id := rfl
  rw [List.map_map, hmap, List.map_id] at hf
  by_cases hlen : tr.payload.length ≤ FD_MTU
  · -- a single frame
    rw [if_pos hlen] at hf
    obtain ⟨f, fs, rfl, hfp, hnil⟩ := List.map_eq_cons_iff.mp hf
    obtain rfl := List.map_eq_nil_iff.mp hnil
    obtain rfl : f.timestampUsec = t := Option.some.inj hfirst
    have hpad : txPadded tr.payload = tr.payload ++ List.replicate
        (txRoundFramePayloadSizeUp (tr.payload.length + 1) - tr.payload.length - 1) 0#8 := by
      rw [txPadded, txPaddingOf, if_pos hlen]
    rw [txSingleFrame, ← hpad] at hfp
    have hreceive := receive_tailed l (hall f List.mem_cons_self).1 hfp (fun _ => rfl) (.inl rfl)
      (.inl ⟨rfl, rfl⟩)
    obtain ⟨a, hat, hstart⟩ := @Between.start l r tr.transferId h f.timestampUsec true
      (txPadded tr.payload)
    have happend : (a.append (r.model f.timestampUsec tr.transferId true true true
        (txPadded tr.payload))).At (tr.transferId % 32) (txPadded tr.payload) true :=
      ⟨by show a.data ++ txPadded tr.payload = _; rw [hat.data, List.nil_append], hat.toggle,
        hat.index, hat.tid⟩
    have htransfer : (a.append (r.model f.timestampUsec tr.transferId true true true
        (txPadded tr.payload))).transfer (r.model f.timestampUsec tr.transferId true true true
          (txPadded tr.payload)) l.extent = some (r.received l.extent f.timestampUsec tr) := by
      unfold Assembly.transfer
      rw [happend.data]
      rfl
    have hcollect : a.collect true (r.model f.timestampUsec tr.transferId true true true
        (txPadded tr.payload)) l.extent = ((a.append (r.model f.timestampUsec tr.transferId true true
          true (txPadded tr.payload))).next, some (r.received l.extent f.timestampUsec tr)) := by
      rw [← htransfer]
      rfl
    rw [outputs_cons, final_cons, hreceive, hstart, hcollect]
    exact ⟨rfl, _, rfl, happend.next⟩
  · -- several frames, of which the first is not the last
    rw [if_neg hlen] at hf
    obtain ⟨ps, hps, htail⟩ := txMultiFrame_spec tr.transferId tr.payload
    have hpad : txPadded tr.payload = tr.payload ++ List.replicate
        (txPadding (tr.payload.length + 2)) 0#8 := by
      rw [txPadded, txPaddingOf, if_neg hlen]
    rw [← hpad] at hps
    rw [htail] at hf
    generalize hl' : txPadded tr.payload ++ [crcHigh (crcAdd CRC_INITIAL (txPadded tr.payload)),
      crcLow (crcAdd CRC_INITIAL (txPadded tr.payload))] = whole at hps
    have hmtu : FD_MTU = 63 := rfl
    cases hps with
    | last hne hshort =>
        exfalso
        -- one piece would be longer than the MTU
        have hlong := congrArg List.length hl'
        rw [hpad] at hlong
        simp only [List.length_append, List.length_cons] at hlong
        omega
    | @full p rest ps hp hps =>
        rw [txTailed_cons hps.ne_nil] at hf
        obtain ⟨f, fs, rfl, hfp, hrest⟩ := List.map_eq_cons_iff.mp hf
        obtain rfl : f.timestampUsec = t := Option.some.inj hfirst
        have hreceive := receive_tailed l (hall f List.mem_cons_self).1 hfp (fun _ => rfl)
          (.inr (by omega)) (.inr (by omega))
        obtain ⟨a, hat, hstart⟩ := @Between.start l r tr.transferId h f.timestampUsec false p
        obtain ⟨b, hcollect, hb, hbt⟩ : ∃ b : Assembly, a.collect true
            (r.model f.timestampUsec tr.transferId true false true p) l.extent = (b, none) ∧
            b.At (tr.transferId % 32) p false ∧ b.timestampUsec = f.timestampUsec :=
          ⟨_, rfl, ⟨by show a.data ++ p = p; rw [hat.data, List.nil_append],
            by show (!a.toggle) = false; rw [hat.toggle]; rfl, hat.index, hat.tid⟩, rfl⟩
        rw [outputs_cons, final_cons, hreceive, hstart, hcollect]
        obtain ⟨hout, c, hfinal, hc⟩ := Assembly.At.rest (l := { l with assembly := some b }) hps hrest
          (fun g hg => hall g (List.mem_cons_of_mem _ hg)) rfl hb hbt hl'.symm
        exact ⟨hout, c, hfinal, hc⟩

end

/-! ## When the frames come in -/

/-- Whether the tail byte says that the frame starts a transfer. -/
def startsTransfer (f : CanardFrame) : Bool :=
  f.payload.getLast?.any (fun tail => decide (tail &&& 128#8 ≠ 0#8))

/-- When the last transfer was started. -/
def lastStart (t : Nat) (frames : List CanardFrame) : Nat :=
  frames.foldl (fun t f => if startsTransfer f then f.timestampUsec else t) t

/-- No frame comes in later than `timeout` after the last one that started a transfer, which was at
`t`. -/
def InTime (timeout : Nat) : Nat → List CanardFrame → Prop
  | _, [] => True
  | t, f :: fs => f.timestampUsec ≤ lastStart t [f] + timeout ∧ InTime timeout (lastStart t [f]) fs

theorem startsTransfer_tailed {f : CanardFrame} {p : List Byte} {sot eot toggle : Bool} {tid : Nat}
    (hp : f.payload = p ++ [txMakeTailByte sot eot toggle tid]) : startsTransfer f = sot := by
  unfold startsTransfer
  rw [hp, List.getLast?_concat]
  exact (txMakeTailByte_parse sot eot toggle tid).1

theorem lastStart_start {f : CanardFrame} (h : startsTransfer f = true) (t : Nat) :
    lastStart t [f] = f.timestampUsec := if_pos h

theorem lastStart_other {f : CanardFrame} (h : startsTransfer f = false) (t : Nat) :
    lastStart t [f] = t := if_neg (by rw [h]; exact Bool.false_ne_true)

theorem inTime_append {timeout t : Nat} {fs gs : List CanardFrame} :
    InTime timeout t (fs ++ gs) ↔ InTime timeout t fs ∧ InTime timeout (lastStart t fs) gs := by
  induction fs generalizing t with
  | nil => exact ⟨fun h => ⟨trivial, h⟩, fun h => h.2⟩
  | cons f fs ih =>
      rw [List.cons_append, show InTime timeout t (f :: (fs ++ gs)) ↔
        f.timestampUsec ≤ lastStart t [f] + timeout ∧ InTime timeout (lastStart t [f]) (fs ++ gs)
        from Iff.rfl, ih, ← and_assoc]
      rfl

/-- Frames that all come in when the last transfer was started are not late. -/
theorem inTime_now {timeout t : Nat} {fs : List CanardFrame} (h : ∀ f ∈ fs, f.timestampUsec = t) :
    InTime timeout t fs := by
  induction fs with
  | nil => trivial
  | cons f fs ih =>
      have hstart : lastStart t [f] = t := by
        unfold lastStart
        simp [h f List.mem_cons_self]
      refine ⟨?_, ?_⟩
      · rw [hstart, h f List.mem_cons_self]
        omega
      · rw [hstart]
        exact ih (fun g hg => h g (List.mem_cons_of_mem _ hg))

/-- Where no frame starts a transfer all come in within the timeout. -/
theorem inTime_within {timeout t : Nat} {fs : List CanardFrame}
    (hstart : ∀ f ∈ fs, startsTransfer f = false) (h : InTime timeout t fs) :
    (∀ f ∈ fs, f.timestampUsec ≤ t + timeout) ∧ lastStart t fs = t := by
  induction fs with
  | nil => exact ⟨fun f hf => (nomatch hf), rfl⟩
  | cons f fs ih =>
      have hf := lastStart_other (hstart f List.mem_cons_self) t
      obtain ⟨hlate, hrest⟩ := h
      rw [hf] at hlate hrest
      obtain ⟨hall, hlast⟩ := ih (fun g hg => hstart g (List.mem_cons_of_mem _ hg)) hrest
      refine ⟨List.forall_mem_cons.mpr ⟨hlate, hall⟩, ?_⟩
      rw [show lastStart t (f :: fs) = lastStart (lastStart t [f]) fs from rfl, hf, hlast]

theorem txTailed_starts {tid : Nat} {toggle : Bool} {ps : List (List Byte)} {fs : List CanardFrame}
    (hf : fs.map CanardFrame.payload = txTailed tid false toggle ps) :
    ∀ f ∈ fs, startsTransfer f = false := by
  induction ps generalizing fs toggle with
  | nil =>
      obtain rfl := List.map_eq_nil_iff.mp hf
      exact fun f hf => (nomatch hf)
  | cons p ps ih =>
      cases ps with
      | nil =>
          obtain ⟨f, fs, rfl, hfp, hnil⟩ := List.map_eq_cons_iff.mp hf
          obtain rfl := List.map_eq_nil_iff.mp hnil
          exact List.forall_mem_cons.mpr ⟨startsTransfer_tailed hfp, fun g hg => (nomatch hg)⟩
      | cons q ps =>
          obtain ⟨f, fs, rfl, hfp, hrest⟩ := List.map_eq_cons_iff.mp hf
          exact List.forall_mem_cons.mpr ⟨startsTransfer_tailed hfp, ih hrest⟩

/-- The first frame of a transfer starts it, and no other does. -/
theorem txTransferFrames_starts {canId : Nat} {tr : CanardTransfer} {frames : List CanardFrame}
    (hf : frames.map CanardFrame.payload =
      (txTransferFrames FD_MTU canId tr).map CanardFrame.payload) :
    ∃ f fs, frames = f :: fs ∧ startsTransfer f = true ∧ ∀ g ∈ fs, startsTransfer g = false := by
  unfold txTransferFrames at hf
  have hmap : (CanardFrame.payload ∘ fun p => CanardFrame.mk tr.timestampUsec canId p) = id := rfl
  rw [List.map_map, hmap, List.map_id] at hf
  by_cases hlen : tr.payload.length ≤ FD_MTU
  · rw [if_pos hlen] at hf
    obtain ⟨f, fs, rfl, hfp, hnil⟩ := List.map_eq_cons_iff.mp hf
    obtain rfl := List.map_eq_nil_iff.mp hnil
    exact ⟨f, [], rfl, startsTransfer_tailed hfp, fun g hg => (nomatch hg)⟩
  · obtain ⟨ps, hps, htail⟩ := txMultiFrame_spec tr.transferId tr.payload
    rw [if_neg hlen, htail] at hf
    cases ps with
    | nil => exact absurd rfl hps.ne_nil
    | cons p ps =>
        cases ps with
        | nil =>
            obtain ⟨f, fs, rfl, hfp, hnil⟩ := List.map_eq_cons_iff.mp hf
            obtain rfl := List.map_eq_nil_iff.mp hnil
            exact ⟨f, [], rfl, startsTransfer_tailed hfp, fun g hg => (nomatch hg)⟩
        | cons q ps =>
            obtain ⟨f, fs, rfl, hfp, hrest⟩ := List.map_eq_cons_iff.mp hf
            exact ⟨f, fs, rfl, startsTransfer_tailed hfp, txTailed_starts hrest⟩

/-! ## Transfer after transfer -/

/-- No transfer has the transfer-ID of the one before. -/
def IdsDiffer (trs : List CanardTransfer) : Prop :=
  trs.IsChain (fun a b => a.transferId % 32 ≠ b.transferId % 32)

/-- What the frames of some transfers carry, one after the other. -/
def framePayloads (canId : Nat) (trs : List CanardTransfer) : List (List Byte) :=
  trs.flatMap (fun tr => (txTransferFrames FD_MTU canId tr).map CanardFrame.payload)

section

variable {r : Route}

/-- **All transfers arrive**, in order, each once. -/
theorem Between.transfers {trs : List CanardTransfer} :
    ∀ {l : Listener} {frames : List CanardFrame} {t : Nat},
      (∀ tr ∈ trs.head?, Between l tr.transferId) → IdsDiffer trs →
      frames.map CanardFrame.payload = framePayloads r.canId trs →
      (∀ f ∈ frames, f.extendedCanId = r.canId) → InTime l.timeout t frames →
      List.Forall₂ (fun tr got => ∃ t, got = r.received l.extent t tr) trs
        (outputs Listener.receive l frames) := by
  induction trs with
  | nil =>
      intro l frames t _ _ hf _ _
      obtain rfl := List.map_eq_nil_iff.mp hf
      exact .nil
  | cons tr trs ih =>
      intro l frames t hbetween hids hf hcan hprompt
      unfold framePayloads at hf
      rw [List.flatMap_cons] at hf
      obtain ⟨block, rest, rfl, hblock, hrest⟩ := List.map_eq_append_iff.mp hf
      obtain ⟨f, fs, rfl, hstart, hothers⟩ := txTransferFrames_starts hblock
      -- the transfer is taken in time
      obtain ⟨hp, hlater⟩ := inTime_append.mp hprompt
      obtain ⟨_, hwithin⟩ := hp
      rw [lastStart_start hstart] at hwithin
      obtain ⟨hall, hlast⟩ := inTime_within hothers hwithin
      rw [show lastStart t (f :: fs) = lastStart (lastStart t [f]) fs from rfl,
        lastStart_start hstart, hlast] at hlater
      have hframes : ∀ g ∈ f :: fs, g.extendedCanId = r.canId ∧
          g.timestampUsec ≤ f.timestampUsec + l.timeout := by
        intro g hg
        refine ⟨hcan g (List.mem_append_left _ hg), ?_⟩
        rcases List.mem_cons.mp hg with rfl | hg
        · omega
        · exact hall g hg
      obtain ⟨hout, b, hfinal, hb⟩ := Between.transfer (hbetween tr rfl) hblock hframes rfl
      rw [outputs_append, hout, hfinal]
      refine .cons ⟨_, rfl⟩ (@ih { l with assembly := some b } rest _ ?_ (List.IsChain.of_cons hids) hrest
        (fun g hg => hcan g (List.mem_append_right _ hg)) hlater)
      -- the next has another transfer-ID
      intro tr' htr'
      cases trs with
      | nil => cases htr'
      | cons next trs =>
          obtain rfl := Option.some.inj htr'
          exact Between.after rfl hb (List.isChain_cons_cons.mp hids).1

/-- **What has come in** is a first part of the frames, and what has come out a first part of the
transfers. -/
theorem Between.transfers_prefix {trs : List CanardTransfer} {l : Listener}
    {frames : List CanardFrame} {more : List (List Byte)} {t : Nat}
    (hbetween : ∀ tr ∈ trs.head?, Between l tr.transferId) (hids : IdsDiffer trs)
    (hf : frames.map CanardFrame.payload ++ more = framePayloads r.canId trs)
    (hcan : ∀ f ∈ frames, f.extendedCanId = r.canId) (hprompt : InTime l.timeout t frames) :
    ∃ front, front <+: trs ∧ (more = [] → front = trs) ∧
      List.Forall₂ (fun tr got => ∃ t, got = r.received l.extent t tr) front
        (outputs Listener.receive l frames) := by
  -- let the rest come in at once
  generalize hcoming : more.map (fun p => CanardFrame.mk (lastStart t frames) r.canId p) = coming
  have hpayload : coming.map CanardFrame.payload = more := by
    rw [← hcoming, List.map_map]
    exact List.map_id more
  have hall := @Between.transfers r trs l (frames ++ coming) t hbetween hids
    (by rw [List.map_append, hpayload, hf])
    (fun f hf => by
      rcases List.mem_append.mp hf with hf | hf
      · exact hcan f hf
      · rw [← hcoming] at hf
        obtain ⟨p, _, rfl⟩ := List.mem_map.mp hf
        rfl)
    (inTime_append.mpr ⟨hprompt, inTime_now (fun f hf => by
      rw [← hcoming] at hf
      obtain ⟨p, _, rfl⟩ := List.mem_map.mp hf
      rfl)⟩)
  rw [outputs_append] at hall
  refine ⟨_, List.take_prefix _ trs, fun hnone => ?_, List.forall₂_take_append _ _ _ hall⟩
  rw [← hcoming, hnone, List.map_nil, outputs_nil, List.append_nil] at hall
  rw [← hall.length_eq, List.take_length]

end

end Wlmio.Canard
