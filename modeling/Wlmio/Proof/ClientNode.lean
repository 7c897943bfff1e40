import Wlmio.Canard.Joined
import Wlmio.Proof.PayloadBuffers
import Wlmio.Proof.Transmission
import Wlmio.Proof.Transport

/-!
# The client is a node

The machine of the client beside any number of other nodes on one bus. Whatever the
application of the client does, its instance of the library only sees pushes, pops, frames
and payloads given back, and each act amounts to some events of a network in which the
client is one of the nodes (`onBus_reachable`). So what holds of networks holds of it.
-/

namespace Wlmio.Proof

open Wlmio.Client Wlmio.Canard Demultiplexer

/-! ## The bus -/

/-- The client and the other nodes. -/
structure ClientBus (ι : Type) where
  client : World
  /-- The frames that the client has not read yet. -/
  inbox : List CanardFrame
  /-- Those that it has read. -/
  read : List CanardFrame
  /-- What the library has handed to the handlers. -/
  handed : List CanardTransfer
  others : Network ι

inductive ClientBusEvent (ι : Type) where
  /-- The client does something, but does not read. -/
  | act (a : Act)
  | read (now : Nat) (pick : Int) (malloc : Bool)
  | other (e : BusEvent ι)

/-- A frame as the socket of the client gives it. -/
def toSocket (f : CanardFrame) (now : Nat) : CanardFrame :=
  { f with timestampUsec := now, extendedCanId := f.extendedCanId ||| EXTENDED_FLAG }

/-- A frame as the other nodes read it. -/
def ofCanfd (f : CanfdFrame) : CanardFrame := ⟨0, f.canId &&& CAN_EXT_ID_MASK, f.data⟩

/-- What the socket takes in a step. -/
def newlySent (w w' : World) : List CanardFrame :=
  (w'.bus.sent.drop w.bus.sent.length).map ofCanfd

def readsFrame : Act → Bool
  | .receive .. => true
  | _ => false

variable {ι : Type} [DecidableEq ι]

/-- One step. A client that has failed does not go on, and the others do. -/
def ClientBus.step (s : ClientBus ι) : ClientBusEvent ι → Option (ClientBus ι)
  | .act a =>
    if readsFrame a then none
    else (Client.step s.client a).map (fun w =>
      { s with client := w, others := s.others.hear (newlySent s.client w) })
  | .read now pick malloc =>
    match s.inbox with
    | [] => none
    | f :: fs =>
      (Client.step s.client (.receive (toSocket f now) pick malloc)).map (fun w =>
        if w.fault.isSome then { s with client := w }
        else
          { s with
            client := w
            inbox := fs
            read := s.read ++ [{ f with timestampUsec := now }]
            handed := s.handed ++ ((handedOver s.client (toSocket f now)).map Prod.fst).toList })
  | .other e =>
    some { s with inbox := s.inbox ++ s.others.puts e, others := s.others.step e }

/-- Nothing has happened yet. -/
structure Powered (node : Option ι → CanardInstance) (s : ClientBus ι) : Prop where
  client : Initial s.client
  self : node none = s.client.bus.canard
  inbox : s.inbox = []
  read : s.read = []
  handed : s.handed = []
  others : s.others = Network.start (fun i => node (some i))

/-- The states that a bus with these nodes gets into. -/
abbrev OnBusReachable (node : Option ι → CanardInstance) : ClientBus ι → Prop :=
  Transition.Reaches ClientBus.step Transition.free (Powered node)

/-! ## What an act amounts to -/

/-- The calls that neither read nor change what is subscribed to. -/
def outward : Call → Bool
  | .push _ _ => true
  | .pop => true
  | .release _ => true
  | _ => false

/-- Calls of an instance, and the frames that they have put on the bus. -/
inductive Performs : CanardInstance → List Call → List CanardFrame → CanardInstance → Prop
  | nil {ins : CanardInstance} : Performs ins [] [] ins
  | call {ins ins' : CanardInstance} {c : Call} {calls : List Call} {frames : List CanardFrame} :
      outward c = true → c ≠ .pop → Performs (ins.call c).1 calls frames ins' →
      Performs ins (c :: calls) frames ins'
  | send {ins ins' : CanardInstance} {f : CanardFrame} {calls : List Call}
      {frames : List CanardFrame} :
      canardTxPeek ins = some f → Performs (canardTxPop ins) calls frames ins' →
      Performs ins (.pop :: calls) (f :: frames) ins'

section

variable {ins ins' : CanardInstance} {calls : List Call} {frames : List CanardFrame}

theorem Performs.trans {ins'' : CanardInstance} {calls' : List Call} {frames' : List CanardFrame}
    (h : Performs ins calls frames ins') (h' : Performs ins' calls' frames' ins'') :
    Performs ins (calls ++ calls') (frames ++ frames') ins'' := by
  induction h with
  | nil => exact h'
  | call hc hpop _ ih => exact .call hc hpop (ih h')
  | send hpeek _ ih => exact .send hpeek (ih h')

theorem Performs.all_outward (h : Performs ins calls frames ins') :
    ∀ c ∈ calls, outward c = true := by
  induction h with
  | nil => exact fun c hc => absurd hc List.not_mem_nil
  | call hc _ _ ih => exact List.forall_mem_cons.mpr ⟨hc, ih⟩
  | send _ _ ih => exact List.forall_mem_cons.mpr ⟨rfl, ih⟩

theorem Performs.final (h : Performs ins calls frames ins') : ins' = final callStep ins calls := by
  induction h with
  | nil => rfl
  | call _ _ _ ih => exact ih
  | send _ _ ih => exact ih

/-- **Calls are events**: what they put on the bus the others hear. -/
theorem Performs.events (h : Performs ins calls frames ins') (inbox : List CanardFrame)
    (before : List Call) (others : Network ι) :
    ∃ events, (joined ins inbox before others).run events =
      joined ins' inbox (before ++ calls) (others.hear frames) := by
  induction h generalizing before others with
  | nil => exact ⟨[], by rw [List.append_nil, hear_nil]; rfl⟩
  | @call ins ins' c calls frames hc hpop _ ih =>
      have happ : c.ofApplication = true := by
        cases c with
        | pop => exact absurd rfl hpop
        | accept frame index => cases hc
        | push transfer room => rfl
        | subscribe kind portId extent timeout => rfl
        | unsubscribe kind portId => rfl
        | release payload => rfl
      obtain ⟨events, hrun⟩ := ih (before ++ [c]) others
      refine ⟨.call none c :: events, ?_⟩
      rw [List.append_assoc] at hrun
      rw [Network.run, List.foldl_cons, joined_call _ _ _ _ happ]
      exact hrun
  | @send ins ins' f calls frames hpeek _ ih =>
      obtain ⟨events, hrun⟩ := ih (before ++ [.pop]) (others.hear [f])
      refine ⟨.transmit none :: events, ?_⟩
      rw [List.append_assoc, hear_hear] at hrun
      rw [Network.run, List.foldl_cons, joined_transmit _ _ _ _ hpeek]
      exact hrun

end

/-- An outward call hands over nothing. -/
theorem outward_output (ins : CanardInstance) {c : Call} (hc : outward c = true) :
    (callStep ins c).2 = none := by
  cases c with
  | push transfer room => rfl
  | pop => rfl
  | release payload => rfl
  | accept frame index => cases hc
  | subscribe kind portId extent timeout => cases hc
  | unsubscribe kind portId => cases hc

theorem outward_outputs {calls : List Call} (h : ∀ c ∈ calls, outward c = true)
    (ins : CanardInstance) : handouts ins calls = [] := by
  unfold handouts
  induction calls generalizing ins with
  | nil => rfl
  | cons c calls ih =>
      obtain ⟨hc, hrest⟩ := List.forall_mem_cons.mp h
      rw [outputs_cons, outward_output ins hc, ih hrest]
      rfl

theorem outward_framesRead {calls : List Call} (h : ∀ c ∈ calls, outward c = true) :
    framesRead calls = [] := by
  refine List.filterMap_eq_nil_iff.mpr ?_
  intro c hc
  have hout := h c hc
  cases c with
  | accept frame index => cases hout
  | push transfer room => rfl
  | pop => rfl
  | subscribe kind portId extent timeout => rfl
  | unsubscribe kind portId => rfl
  | release payload => rfl

/-- A request and the push of its transfer. -/
def Pushes (nodeId : Nat) (i : Issued) (c : Call) : Prop :=
  ∃ room, c = .push i.transfer room ∧
    (0 ≤ i.pushed ↔ pushSucceeds nodeId i.transfer room = true)

def isPush : Call → Bool
  | .push _ _ => true
  | _ => false

/-- A push is that of a request. -/
theorem pushes_mem {nodeId : Nat} {issued : List Issued} {calls : List Call}
    (h : List.Forall₂ (Pushes nodeId) issued calls) {tr : CanardTransfer} {room : Nat}
    (hmem : Call.push tr room ∈ calls) : ∃ i ∈ issued, i.transfer = tr := by
  induction h with
  | nil => cases hmem
  | @cons i c issued calls hp _ ih =>
      rcases List.mem_cons.mp hmem with heq | hmem
      · obtain ⟨_, hc, _⟩ := hp
        exact ⟨i, List.mem_cons_self, (Call.push.inj (heq.trans hc)).1.symm⟩
      · obtain ⟨j, hj, htr⟩ := ih hmem
        exact ⟨j, List.mem_cons_of_mem _ hj, htr⟩

/-- The instance has this node-ID, and sends CAN FD frames. -/
structure Configured (nodeId : Nat) (ins : CanardInstance) : Prop where
  nodeId : ins.nodeId = nodeId
  mtu : ins.mtuBytes = CANARD_MTU_CAN_FD

/-- What the client has called and put on the bus from one state to another. -/
structure Turn (nodeId : Nat) (b b' : Bus) (calls : List Call) (frames : List CanardFrame) :
    Prop where
  performed : Performs b.canard calls frames b'.canard
  sent : b'.sent = b.sent ++ frames.map toCanfd
  issued : ∃ new, b'.issued = b.issued ++ new ∧
    List.Forall₂ (Pushes nodeId) new (calls.filter isPush)

section

variable {nodeId : Nat} {b b' b'' : Bus} {calls calls' : List Call}
  {frames frames' : List CanardFrame}

theorem Turn.refl (nodeId : Nat) (b : Bus) : Turn nodeId b b [] [] :=
  ⟨.nil, (List.append_nil _).symm, [], (List.append_nil _).symm, .nil⟩

theorem Turn.trans (h : Turn nodeId b b' calls frames) (h' : Turn nodeId b' b'' calls' frames') :
    Turn nodeId b b'' (calls ++ calls') (frames ++ frames') := by
  obtain ⟨new, hnew, hpush⟩ := h.issued
  obtain ⟨new', hnew', hpush'⟩ := h'.issued
  refine ⟨h.performed.trans h'.performed, ?_, new ++ new', ?_, ?_⟩
  · rw [h'.sent, h.sent, List.map_append, List.append_assoc]
  · rw [hnew', hnew, List.append_assoc]
  · rw [List.filter_append]
    exact List.rel_append hpush hpush'

theorem Turn.configured (h : Turn nodeId b b' calls frames) (hc : Configured nodeId b.canard) :
    Configured nodeId b'.canard := by
  obtain ⟨hmtu, hnode⟩ := final_mtu b.canard calls
  rw [← h.performed.final] at hmtu hnode
  exact ⟨hnode.trans hc.nodeId, hmtu.trans hc.mtu⟩

/-- **A push.** -/
theorem turn_push (hc : Configured nodeId b.canard) (pending : List TaskEntry) (service : Service)
    (tfrTx : CanardTransfer) (room : Nat) :
    Turn nodeId b (b.pushRequest pending service tfrTx room) [.push tfrTx room] [] := by
  refine ⟨.call rfl (fun h => (nomatch h)) .nil, (List.append_nil _).symm, _, rfl, ?_⟩
  refine .cons ⟨room, rfl, ?_⟩ .nil
  rw [← hc.nodeId]
  exact (pushSucceeds_iff hc.mtu tfrTx room).symm

/-- **Frames that the socket takes.** -/
theorem turn_send (b : Bus) (n : Nat) :
    ∃ calls frames, Turn nodeId b (b.uavcanSend n) calls frames := by
  induction n generalizing b with
  | zero => exact ⟨_, _, .refl nodeId b⟩
  | succ n ih =>
      unfold Bus.uavcanSend
      cases hpeek : canardTxPeek b.canard with
      | none => exact ⟨_, _, .refl nodeId b⟩
      | some f =>
          obtain ⟨calls, frames, h⟩ := ih
            { b with canard := canardTxPop b.canard, sent := b.sent ++ [toCanfd f] }
          have hone : Turn nodeId b
              { b with canard := canardTxPop b.canard, sent := b.sent ++ [toCanfd f] } [.pop] [f] :=
            ⟨.send hpeek .nil, rfl, [], (List.append_nil _).symm, .nil⟩
          exact ⟨_, _, hone.trans h⟩

/-- **A payload is given back.** -/
theorem turn_release (w : World) (payload : Option Buffer) :
    Turn nodeId w.bus (freePayload w payload).bus [.release payload] [] :=
  ⟨.call rfl (fun h => (nomatch h)) .nil, (List.append_nil _).symm, [], (List.append_nil _).symm,
    .nil⟩

end

/-- The client may have taken a turn, or more. -/
def Turned (nodeId : Nat) (w w' : World) : Prop :=
  ∃ calls frames, Turn nodeId w.bus w'.bus calls frames

section

variable {nodeId : Nat} {w w' w'' : World}

theorem turned_of_eq (h : w'.bus = w.bus) : Turned nodeId w w' := by
  unfold Turned
  rw [h]
  exact ⟨_, _, .refl nodeId w.bus⟩

theorem Turned.trans (h : Turned nodeId w w') (h' : Turned nodeId w' w'') :
    Turned nodeId w w'' := by
  obtain ⟨_, _, h⟩ := h
  obtain ⟨_, _, h'⟩ := h'
  exact ⟨_, _, h.trans h'⟩

theorem Turned.configured (h : Turned nodeId w w') (hc : Configured nodeId w.bus.canard) :
    Configured nodeId w'.bus.canard := by
  obtain ⟨_, _, h⟩ := h
  exact h.configured hc

theorem submit_turned (hc : Configured nodeId w.bus.canard) {service : Service} {node : Nat}
    {payload : List Byte} {param : Param} {callback : Option Callback} {os : Os}
    (h : submit w service node payload param callback os = .ok w') : Turned nodeId w w' := by
  have hbus : w'.bus = busAfter w service node payload os := by
    obtain ⟨cb, _, ⟨_, rfl⟩ | ⟨_, rfl⟩⟩ := submit_cases h
    · rfl
    · rfl
  have hpush := turn_push hc w.registry.head service (requestTransfer w.bus service node payload)
    os.txRoom
  obtain ⟨_, _, hsend⟩ := @turn_send nodeId (w.bus.pushRequest w.registry.head service
    (requestTransfer w.bus service node payload) os.txRoom) os.sends
  unfold Turned
  rw [hbus]
  exact ⟨_, _, hpush.trans hsend⟩

theorem made_turned (hc : Configured nodeId w.bus.canard) {c : Option Caller} {r : Int}
    (h : Made w c w' r) : Turned nodeId w w' := by
  cases h with
  | refused _ => exact turned_of_eq rfl
  | withdrawn t _ hfree =>
      rw [(freeRecord_cases hfree).2]
      exact turned_of_eq rfl
  | direct _ _ _ _ _ hs => exact submit_turned hc hs
  | held _ _ _ _ _ hs => exact @submit_turned _ (addRecord w _) _ hc _ _ _ _ _ _ hs
  | @counted w₁ w₂ w' _ _ _ _ _ _ h₁ h₂ h₃ =>
      have t₁ : Turned nodeId w w₁ := @submit_turned _ (addRecord w _) _ hc _ _ _ _ _ _ h₁
      have hc₁ := t₁.configured hc
      have t₂ := submit_turned hc₁ h₂
      exact (t₁.trans t₂).trans (submit_turned (t₂.configured hc₁) h₃)

theorem resume_turned (w : World) (rest : Option Rest) (payload : Option Buffer) :
    Turned nodeId w (resume w rest payload) := by
  cases rest with
  | none => exact ⟨_, _, turn_release w payload⟩
  | some rest => exact turned_of_eq rfl

/-- **An act that does not read.** -/
theorem did_turned (hc : Configured nodeId w.bus.canard) {a : Act} (ha : readsFrame a = false)
    (h : Did w a w') : Turned nodeId w w' := by
  cases h with
  | request _ hm => exact made_turned hc hm
  | syncRefused _ _ hm =>
      exact @made_turned _ { w with syncFlag := false, nextCall := w.nextCall + 1 } _ hc _ _ hm
  | @syncEntered q os w₁ _ hm =>
      have h₁ : Turned nodeId w w₁ :=
        @made_turned _ { w with syncFlag := false, nextCall := w.nextCall + 1 } _ hc _ _ hm
      exact h₁
  | setTimeout _ => exact turned_of_eq rfl
  | setStatusCallback _ => exact turned_of_eq rfl
  | tick _ => exact turned_of_eq rfl
  | taskExpired _ _ _ _ _ _ hcomp =>
      exact (turned_of_eq (complete_calls hcomp).bus).trans (resume_turned _ _ _)
  | @nodeExpired _ r _ _ _ w₁ _ _ _ _ _ _ _ hrep =>
      have hbus : w₁.bus = w.bus := (reportStatus_calls hrep).bus
      exact (turned_of_eq hbus).trans (resume_turned _ _ _)
  | collected _ _ => cases ha
  | ignored _ _ => cases ha
  | beat _ _ _ _ => cases ha
  | response _ _ _ _ _ _ => cases ha
  | @idle sends stack _ => exact turn_send w.bus sends
  | syncReturned _ _ => exact turned_of_eq rfl
  | looped _ _ => exact turned_of_eq rfl
  | @completed _ _ payload stack w₁ _ hfin =>
      have hbus : w₁.bus = w.bus := (finishCompletion_calls hfin).bus
      exact (turned_of_eq hbus).trans ⟨_, _, turn_release w₁ payload⟩
  | @reported payload stack _ => exact ⟨_, _, turn_release { w with stack := stack } payload⟩

/-- **An act that reads**: the library takes the frame, and then it is the client's turn. -/
theorem read_turn (nodeId : Nat) {frame : CanardFrame} {pick : Int} {malloc : Bool}
    (h : canSocketHandler w frame pick malloc = .ok w') :
    ∃ calls, Turn nodeId (withCanard w (w.bus.canard.call (.accept (socketFrame frame) 0)).1).bus
      w'.bus calls [] := by
  unfold canSocketHandler at h
  dsimp only at h
  rcases hacc : canardRxAccept w.bus.canard
    { frame with extendedCanId := frame.extendedCanId &&& 0x1FFFFFFF } 0 with ⟨canard, out, transfer⟩
  have hcall : (w.bus.canard.call (.accept (socketFrame frame) 0)).1 = canard :=
    congrArg Prod.fst hacc
  rw [hacc] at h
  rw [hcall]
  cases transfer with
  | none =>
      obtain rfl := Except.ok.inj h
      exact ⟨_, .refl _ _⟩
  | some x =>
      unfold handleTransfer at h
      obtain ⟨⟨w₁, rest⟩, hdispatch, h⟩ := Fallible.bind_eq_ok.mp h
      have hcalls : SameCalls (withCanard w canard) w₁ := dispatch_calls hdispatch
      rw [← Except.ok.inj h, ← hcalls.bus]
      cases rest with
      | none => exact ⟨_, turn_release w₁ _⟩
      | some rest => exact ⟨_, .refl _ _⟩

end

/-! ## Frames on the wire -/

/-- What the other nodes read is the frame that was queued. -/
def Verbatim (f : CanardFrame) : Prop := ofCanfd (toCanfd f) = f

/-- The flag of the socket goes away again. -/
theorem and_flag {canId : Nat} (h : canId ≤ CAN_EXT_ID_MASK) :
    (canId ||| EXTENDED_FLAG) &&& CAN_EXT_ID_MASK = canId := by
  have hmask : CAN_EXT_ID_MASK = 2 ^ 29 - 1 := rfl
  have hflag : EXTENDED_FLAG = 1 <<< 31 := by rw [Nat.shiftLeft_eq]; rfl
  rw [hflag, BitField.or_shiftLeft 1 31 (by omega), hmask, BitField.and_mask]
  omega

theorem verbatim_of_canId {f : CanardFrame} (hid : f.extendedCanId ≤ CAN_EXT_ID_MASK)
    (htime : f.timestampUsec = 0) : Verbatim f := by
  unfold Verbatim ofCanfd toCanfd
  dsimp only
  rw [and_flag hid, ← htime]

theorem socketFrame_toSocket {f : CanardFrame} (hid : f.extendedCanId ≤ CAN_EXT_ID_MASK)
    (now : Nat) : socketFrame (toSocket f now) = { f with timestampUsec := now } := by
  unfold socketFrame toSocket
  dsimp only
  rw [show (0x1FFFFFFF : Nat) = CAN_EXT_ID_MASK from rfl, and_flag hid]

/-- Requests have no time, and one priority. -/
theorem issued_nominal {w : World} (h : Reachable w) : ∀ i ∈ w.bus.issued,
    i.transfer.timestampUsec = 0 ∧ i.transfer.priority = CanardPriorityNominal := by
  have hpush : ∀ {r : Registry} {b : Bus} (service : Service) (nodeId : Nat) (payload : List Byte)
      (os : Os), (∀ i ∈ b.issued, i.transfer.timestampUsec = 0 ∧
        i.transfer.priority = CanardPriorityNominal) →
      ∀ i ∈ (pushed r b service nodeId payload os).issued, i.transfer.timestampUsec = 0 ∧
        i.transfer.priority = CanardPriorityNominal := by
    intro r b service nodeId payload os hb i hi
    rw [pushed_issued] at hi
    rcases List.mem_append.mp hi with hi | hi
    · exact hb i hi
    · rw [List.mem_singleton.mp hi]
      exact ⟨rfl, rfl⟩
  refine reachable_core anyFd (P := fun s => ∀ i ∈ s.2.issued, i.transfer.timestampUsec = 0 ∧
    i.transfer.priority = CanardPriorityNominal) (fun _ _ _ _ _ => trivial) (fun w hf i hi => ?_)
    (fun s s' hs he => ?_) h
  · rw [show (core w).2.issued = [] from hf.issued] at hi
    cases hi
  · cases he with
    | registered timeout hn _ _ => exact hpush _ _ _ _ hs
    | unregistered hn => exact hpush _ _ _ _ hs
    | removed _ _ => exact hs
    | beat _ _ => exact hs
    | expired _ _ _ _ => exact hs
    | sent n =>
        intro i hi
        rw [(uavcanSend_frame _ n).1] at hi
        exact hs i hi
    | received htx => exact hs

/-- Frames of transfers without a time are read as they were queued. -/
theorem Performs.verbatim {ins ins' : CanardInstance} {calls : List Call} {frames : List CanardFrame}
    (h : Performs ins calls frames ins') (hq : ∀ f ∈ ins.txQueue, Verbatim f)
    (hpush : ∀ tr room, Call.push tr room ∈ calls → tr.timestampUsec = 0) :
    (∀ f ∈ frames, Verbatim f) ∧ ∀ f ∈ ins'.txQueue, Verbatim f := by
  induction h with
  | nil => exact ⟨fun f hf => absurd hf List.not_mem_nil, hq⟩
  | @call ins ins' c calls frames hc hpop _ ih =>
      refine ih (fun f hf => ?_) (fun tr room hmem => hpush tr room (List.mem_cons_of_mem _ hmem))
      by_cases hcall : ∃ tr room, c = .push tr room
      · obtain ⟨tr, room, rfl⟩ := hcall
        have htime := hpush tr room List.mem_cons_self
        have hf : f ∈ (canardTxPush ins tr room).1.txQueue := hf
        unfold canardTxPush at hf
        dsimp only at hf
        split at hf
        · exact hq f hf
        · rename_i canId hid
          split at hf
          · dsimp only at hf
            rw [txInsert_eq] at hf
            rcases List.mem_append.mp ((StableQueue.insertBlock_perm canId _ ins.txQueue).subset hf)
              with hf | hf
            · exact hq f hf
            · refine verbatim_of_canId ?_ ?_
              · rw [txTransferFrames_canId f hf]
                exact (txMakeCANID_parse hid).1
              · rw [← htime]
                unfold txTransferFrames at hf
                obtain ⟨p, _, rfl⟩ := List.mem_map.mp hf
                rfl
          · exact hq f hf
      · rw [call_queue ins (fun tr room heq => hcall ⟨tr, room, heq⟩) hpop] at hf
        exact hq f hf
  | @send ins ins' f calls frames hpeek _ ih =>
      obtain ⟨q, hqueue⟩ := List.head?_eq_some_iff.mp hpeek
      rw [hqueue] at hq
      obtain ⟨hf, hrest⟩ := List.forall_mem_cons.mp hq
      have htail : (canardTxPop ins).txQueue = q := by
        unfold canardTxPop
        rw [hqueue]
        rfl
      obtain ⟨hframes, hlast⟩ := ih (by rw [htail]; exact hrest)
        (fun tr room hmem => hpush tr room (List.mem_cons_of_mem _ hmem))
      exact ⟨List.forall_mem_cons.mpr ⟨hf, hframes⟩, hlast⟩

/-! ## The invariant -/

/-- The client's instance is that of a node of a network, and these are its calls. -/
structure OnBus (node : Option ι → CanardInstance) (s : ClientBus ι) (calls : List Call) : Prop where
  coherent : Coherent node (joined s.client.bus.canard s.inbox calls s.others)
  /-- Its pushes are the requests. -/
  issued : List.Forall₂ (Pushes (node none).nodeId) s.client.bus.issued (calls.filter isPush)
  /-- It never changes what it has subscribed to. -/
  stays : ∀ c ∈ calls, outward c = true ∨ ∃ f, c = .accept f 0
  read : framesRead calls = s.read
  handed : handouts (node none) calls = s.handed
  queue : ∀ f ∈ s.client.bus.canard.txQueue, Verbatim f

section

variable {node : Option ι → CanardInstance} {s : ClientBus ι} {calls : List Call}

omit [DecidableEq ι] in
theorem onBus_powered (hstart : Installed node) (h : Powered node s) : OnBus node s [] := by
  have hfresh := fresh_of_initial h.client
  have hnet : joined s.client.bus.canard s.inbox [] s.others = Network.start node := by
    rw [h.others, h.inbox]
    refine network_ext (fun i => ?_) (fun i => ?_) (fun i => ?_)
    · cases i with
      | none => exact h.self.symm
      | some i => rfl
    · cases i with
      | none => rfl
      | some i => rfl
    · cases i with
      | none => rfl
      | some i => rfl
  refine ⟨hnet ▸ coherent_start hstart, ?_, fun c hc => absurd hc List.not_mem_nil, h.read.symm,
    h.handed.symm, ?_⟩
  · rw [hfresh.issued]
    exact .nil
  · rw [hfresh.queue]
    exact fun f hf => absurd hf List.not_mem_nil

omit [DecidableEq ι] in
/-- Only the bus of the client matters. -/
theorem OnBus.congr (h : OnBus node s calls) {w : World} (hw : w.bus = s.client.bus) :
    OnBus node { s with client := w } calls :=
  ⟨by rw [hw]; exact h.coherent, by rw [hw]; exact h.issued, h.stays, h.read, h.handed,
    by rw [hw]; exact h.queue⟩

omit [DecidableEq ι] in
theorem OnBus.configured (h : OnBus node s calls) (hstart : Installed node) :
    Configured (node none).nodeId s.client.bus.canard := by
  obtain ⟨hmtu, hnode⟩ := h.coherent.setup hstart none
  exact ⟨hnode, hmtu⟩

/-- **The client takes a turn.** -/
theorem OnBus.turn (h : OnBus node s calls) (hstart : Installed node) {w : World}
    {more : List Call} {frames : List CanardFrame}
    (ht : Turn (node none).nodeId s.client.bus w.bus more frames)
    (htime : ∀ i ∈ w.bus.issued, i.transfer.timestampUsec = 0) :
    OnBus node { s with client := w, others := s.others.hear (newlySent s.client w) }
      (calls ++ more) := by
  obtain ⟨new, hnew, hpushes⟩ := ht.issued
  have hpush : ∀ tr room, Call.push tr room ∈ more → tr.timestampUsec = 0 := by
    intro tr room hmem
    obtain ⟨i, hi, rfl⟩ := pushes_mem hpushes (List.mem_filter.mpr ⟨hmem, rfl⟩)
    exact htime i (by rw [hnew]; exact List.mem_append_right _ hi)
  obtain ⟨hframes, hqueue⟩ := ht.performed.verbatim h.queue hpush
  -- what the socket has taken is what has left the queue
  have hsent : newlySent s.client w = frames := by
    unfold newlySent
    rw [ht.sent, List.drop_left, List.map_map]
    exact (List.map_congr_left hframes).trans (List.map_id frames)
  have hout := ht.performed.all_outward
  obtain ⟨events, hrun⟩ := ht.performed.events s.inbox calls s.others
  refine ⟨?_, ?_, ?_, ?_, ?_, hqueue⟩
  · dsimp only
    rw [hsent, ← hrun]
    exact coherent_events hstart events h.coherent
  · dsimp only
    rw [hnew, List.filter_append]
    exact List.rel_append h.issued hpushes
  · intro c hc
    rcases List.mem_append.mp hc with hc | hc
    · exact h.stays c hc
    · exact .inl (hout c hc)
  · rw [framesRead_append, outward_framesRead hout, List.append_nil]
    exact h.read
  · have happend : handouts (node none) (calls ++ more) = handouts (node none) calls ++
        handouts (final callStep (node none) calls) more := outputs_append ..
    rw [happend, outward_outputs hout, List.append_nil]
    exact h.handed

/-- **The library takes a frame.** -/
theorem OnBus.accept {f : CanardFrame} {fs : List CanardFrame} (h : OnBus node s calls)
    (hstart : Installed node) (hinbox : s.inbox = f :: fs) (now : Nat) :
    OnBus node { s with
        client := withCanard s.client
          (s.client.bus.canard.call (.accept (socketFrame (toSocket f now)) 0)).1
        inbox := fs
        read := s.read ++ [{ f with timestampUsec := now }]
        handed := s.handed ++ ((handedOver s.client (toSocket f now)).map Prod.fst).toList }
      (calls ++ [.accept { f with timestampUsec := now } 0]) := by
  -- every frame on the way has an identifier that some node has made
  have hid : f.extendedCanId ≤ CAN_EXT_ID_MASK := by
    obtain ⟨_, tr, room, _, hid⟩ := h.coherent.underway none f
      (by rw [show (joined s.client.bus.canard s.inbox calls s.others).inbox none = s.inbox from rfl,
        hinbox]; exact List.mem_cons_self)
    exact (txMakeCANID_parse hid).1
  have hframe := socketFrame_toSocket hid now
  have hhanded : (handedOver s.client (toSocket f now)).map Prod.fst =
      (callStep s.client.bus.canard (.accept { f with timestampUsec := now } 0)).2 := by
    rw [← hframe]
    rfl
  have hnode : final callStep (node none) calls = s.client.bus.canard :=
    (h.coherent.nodes none).symm
  refine ⟨?_, ?_, ?_, ?_, ?_, ?_⟩
  · dsimp only
    rw [hframe]
    have hstep := coherent_step hstart h.coherent (.receive none now)
    rw [hinbox, joined_receive] at hstep
    exact hstep
  · rw [List.filter_append]
    exact (List.append_nil (calls.filter isPush)).symm ▸ h.issued
  · intro c hc
    rcases List.mem_append.mp hc with hc | hc
    · exact h.stays c hc
    · exact .inr ⟨_, List.mem_singleton.mp hc⟩
  · rw [framesRead_append, h.read]
    rfl
  · have happend : handouts (node none) (calls ++ [.accept { f with timestampUsec := now } 0]) =
        handouts (node none) calls ++ handouts (final callStep (node none) calls)
          [.accept { f with timestampUsec := now } 0] := outputs_append ..
    dsimp only
    rw [happend, hnode, hhanded, h.handed]
    unfold handouts
    rw [outputs_cons, outputs_nil, List.append_nil]
  · intro g hg
    have hkeep := @call_queue s.client.bus.canard (.accept (socketFrame (toSocket f now)) 0)
      (fun tr room heq => (nomatch heq)) (fun heq => (nomatch heq))
    refine h.queue g ?_
    rw [← hkeep]
    exact hg

omit [DecidableEq ι] in
theorem hear_newlySent (s : ClientBus ι) {w : World} (hw : w.bus.sent = s.client.bus.sent) :
    s.others.hear (newlySent s.client w) = s.others := by
  unfold newlySent
  rw [hw, List.drop_length, List.map_nil, hear_nil]

/-- **One step of the bus.** -/
theorem OnBus.step (h : OnBus node s calls) (hstart : Installed node) {e : ClientBusEvent ι}
    {s' : ClientBus ι} (hs : s.step e = some s') (hreach : Reachable s'.client) :
    ∃ calls', OnBus node s' calls' := by
  have htime := fun i hi => (issued_nominal hreach i hi).1
  cases e with
  | act a =>
      unfold ClientBus.step at hs
      dsimp only at hs
      split at hs
      · cases hs
      · rename_i ha
        obtain ⟨w, hstep, rfl⟩ := Option.map_eq_some_iff.mp hs
        rcases (step_cases hstep).2 with hdid | ⟨fault, _, rfl⟩
        · obtain ⟨more, frames, ht⟩ :=
            did_turned (h.configured hstart) (Bool.eq_false_iff.mpr ha) hdid
          exact ⟨_, h.turn hstart ht htime⟩
        · rw [@hear_newlySent _ s { s.client with fault := some fault } rfl]
          exact ⟨_, h.congr rfl⟩
  | read now pick malloc =>
      unfold ClientBus.step at hs
      dsimp only at hs
      split at hs
      · cases hs
      · rename_i f fs hinbox
        obtain ⟨w, hstep, hw⟩ := Option.map_eq_some_iff.mp hs
        obtain ⟨hfault, rfl⟩ := receive_handled hstep
        cases hok : canSocketHandler s.client (toSocket f now) pick malloc with
        | error fault =>
            rw [hok] at hw
            obtain rfl : { s with client := { s.client with fault := some fault } } = s' := hw
            exact ⟨_, h.congr rfl⟩
        | ok w₁ =>
            have hnone : w₁.fault = none := (canSocketHandler_fault hok).trans hfault
            rw [hok] at hw
            simp only [settle, hnone, Option.isSome_none, Bool.false_eq_true, if_false] at hw
            subst hw
            obtain ⟨more, ht⟩ := read_turn (node none).nodeId hok
            -- the library takes the frame, and then the client takes its turn
            have hturn := (h.accept hstart hinbox now).turn hstart ht htime
            rw [hear_newlySent _ (by rw [ht.sent]; exact List.append_nil _)] at hturn
            exact ⟨_, hturn⟩
  | other e =>
      obtain rfl := Option.some.inj hs
      refine ⟨calls, ?_, h.issued, h.stays, h.read, h.handed, h.queue⟩
      have hstep := coherent_step hstart h.coherent e.elsewhere
      rw [joined_elsewhere] at hstep
      exact hstep

end

/-- A step of the bus is at most one of the client. -/
theorem client_step {s s' : ClientBus ι} {e : ClientBusEvent ι} (hs : s.step e = some s') :
    s'.client = s.client ∨ ∃ a, Client.step s.client a = some s'.client := by
  cases e with
  | act a =>
      unfold ClientBus.step at hs
      dsimp only at hs
      split at hs
      · cases hs
      · obtain ⟨w, hstep, rfl⟩ := Option.map_eq_some_iff.mp hs
        exact .inr ⟨a, hstep⟩
  | read now pick malloc =>
      unfold ClientBus.step at hs
      dsimp only at hs
      split at hs
      · cases hs
      · obtain ⟨w, hstep, rfl⟩ := Option.map_eq_some_iff.mp hs
        refine .inr ⟨_, hstep.trans (congrArg some ?_)⟩
        split
        · rfl
        · rfl
  | other e =>
      obtain rfl := Option.some.inj hs
      exact .inl rfl

/-- **In every run** the client is in a state that it can be in, and it is a node of a network. -/
theorem onBus_reachable {node : Option ι → CanardInstance} (hstart : Installed node)
    {s : ClientBus ι} (h : OnBusReachable node s) :
    Reachable s.client ∧ ∃ calls, OnBus node s calls := by
  refine Transition.Reaches.invariant (P := fun s => Reachable s.client ∧ ∃ calls, OnBus node s calls)
    (fun s hs => ⟨.init hs.client, _, onBus_powered hstart hs⟩) ?_ h
  intro s e s' _ _ hs hstep
  obtain ⟨hreach, calls, hbus⟩ := hs
  have hreach' : Reachable s'.client := by
    rcases client_step hstep with heq | ⟨a, ha⟩
    · rw [heq]
      exact hreach
    · exact .step hreach trivial ha
  exact ⟨hreach', hbus.step hstart hstep hreach'⟩

end Wlmio.Proof
