import Wlmio.Client.Request

/-!
# Module functions

`io.c`: reads, writes and configurations of the channels of the VPE modules. Each is a
check of its arguments and one or three register accesses. A read, and
`wlmio_node_set_sample_interval`, keep a record with the register of the reply until
they are called back; the two configurations with three registers count their replies
in a record that the three tasks share.

The functions of one kind differ in their checks, names and values only, so each is its
own check and one of `readRegister`, `writeRegister` and `configureRegisters`.
-/

namespace Wlmio.Client

open Canard

/-! ## Names and values -/

def ascii (s : String) : List Byte := s.toList.map (fun c => BitVec.ofNat 8 c.toNat)

/-- The switch over `ch`: `"ch1" ++ suffix` for channel 0 and so on, and `NULL` for a channel
that has no case. -/
def channelName (channels : Nat) (suffix : String) (ch : BitVec 8) : Option (List Byte) :=
  if ch.toNat < channels then
    some (ascii "ch" ++ [BitVec.ofNat 8 (49 + ch.toNat)] ++ ascii suffix)
  else none

/-- A register of one element; the bytes behind it are never sent. -/
def oneElement (type : Nat) (element : List Byte) (h : element.length ≤ 256) :
    WlmioRegisterAccess where
  type := BitVec.ofNat 8 type
  length := 1
  value := element ++ List.replicate (256 - element.length) 0#8
  value_length := by simp only [List.length_append, List.length_replicate]; omega

def uint8Register (v : BitVec 8) : WlmioRegisterAccess :=
  oneElement WLMIO_REGISTER_VALUE_UINT8 [v] (by simp)

def uint16Register (v : BitVec 16) : WlmioRegisterAccess :=
  oneElement WLMIO_REGISTER_VALUE_UINT16 (Bytes.ofNat 2 v.toNat) (by simp)

/-- `v ? 1U : 0U`. -/
def flag (v : BitVec 8) : BitVec 8 := if v = 0 then 0 else 1

/-! ## Records -/

def addRecord (w : World) (t : IoRecord) : World :=
  { w with records := w.records ++ [(w.nextRecord, t)], nextRecord := w.nextRecord + 1 }

/-- What a pointer to a record points to. -/
def recordAt (w : World) (p : Nat) : Option IoRecord :=
  (w.records.find? (fun t => decide (t.1 = p))).map Prod.snd

def setRecord (w : World) (p : Nat) (t : IoRecord) : World :=
  { w with records := w.records.map (fun u => if u.1 = p then (p, t) else u) }

/-- `free`. -/
def freeRecord (w : World) (p : Nat) : Except Fault World :=
  match recordAt w p with
  | none => .error (.useAfterFree .record)
  | some _ =>
    .ok ({ w with records := w.records.filter (fun t => decide (t.1 ≠ p)) }.log (.recordFreed p))

/-! ## The three kinds of access -/

/-- Write a register; the reply is dropped. -/
def writeRegister (w : World) (nodeId : BitVec 8) (name : Option (List Byte))
    (regw : WlmioRegisterAccess) (callback : Option Caller) (os : Os) :
    Except Fault (World × Int) :=
  wlmioRegisterAccess w nodeId name (some regw) .null (callback.map .caller) os

/-- Access a register with a record for the reply, which is freed again when the access is
refused. -/
def accessWithRecord (w : World) (nodeId : BitVec 8) (name : Option (List Byte))
    (regw : Option WlmioRegisterAccess) (t : IoRecord) (callback : Nat → Callback) (os : Os) :
    Except Fault (World × Int) :=
  if !os.recordMalloc then .error .nullDereference
  else do
    let p := w.nextRecord
    let (w, r) ← wlmioRegisterAccess (addRecord w t) nodeId name regw (.record p)
      (some (callback p)) os
    if r < 0 then do
      let w ← freeRecord w p
      .ok (w, r)
    else .ok (w, 0)

/-- Read a register into the destination at `input`. -/
def readRegister (w : World) (module : ReadModule) (nodeId : BitVec 8) (name : Option (List Byte))
    (input : Nat) (callback : Option Caller) (os : Os) : Except Fault (World × Int) :=
  accessWithRecord w nodeId name none (.read none input callback) (.read module) os

/-- `t->cancelled += 1`. -/
def cancelOne (w : World) (p : Nat) : Except Fault World :=
  match recordAt w p with
  | some (.configure counter cancelled r c) =>
    .ok (setRecord w p (.configure counter ((cancelled + 1) % 256) r c))
  | some _ => .error .typeConfusion
  | none => .error (.useAfterFree .record)

/-- Write three registers whose replies are counted in one record. -/
def configureRegisters (w : World) (nodeId : BitVec 8)
    (first second third : Option (List Byte) × WlmioRegisterAccess) (callback : Option Caller)
    (os : Nat → Os) : Except Fault (World × Int) :=
  if !(os 0).recordMalloc then .error .nullDereference
  else do
    let p := w.nextRecord
    let w := addRecord w (.configure 0 0 0 callback)
    let (w, r) ← wlmioRegisterAccess w nodeId first.1 (some first.2) .null (some (.configure p)) (os 0)
    if r < 0 then do
      let w ← freeRecord w p
      .ok (w, r)
    else do
      let (w, r) ← wlmioRegisterAccess w nodeId second.1 (some second.2) .null
        (some (.configure p)) (os 1)
      if r < 0 then do
        -- the replies that will not come are counted as cancelled
        let w ← cancelOne w p
        .ok (w, r)
      else do
        let (w, r) ← wlmioRegisterAccess w nodeId third.1 (some third.2) .null
          (some (.configure p)) (os 2)
        if r < 0 then do
          let w ← cancelOne w p
          .ok (w, r)
        else .ok (w, 0)

/-! ## The functions -/

section

variable (w : World) (nodeId : BitVec 8) (callback : Option Caller)

/-- The callback is not checked here. -/
def wlmioVpe6010Read (dst : Option Nat) (os : Os) : Except Fault (World × Int) :=
  match dst with
  | none => .ok (w, -EINVAL)
  | some dst =>
    if CANARD_NODE_ID_MAX < nodeId.toNat then .ok (w, -EINVAL)
    else readRegister w .vpe6010 nodeId (some (ascii "input")) dst callback os

/-- The callback is not checked here. -/
def wlmioVpe6030Write (ch v : BitVec 8) (os : Os) : Except Fault (World × Int) :=
  if CANARD_NODE_ID_MAX < nodeId.toNat ∨ 3 < ch.toNat then .ok (w, -EINVAL)
  else writeRegister w nodeId (channelName 4 ".output" ch) (uint8Register (flag v)) callback os

/-- The body the reads of one channel share; `channels` is the number of cases of the switch. -/
def readChannel (module : ReadModule) (maxChannel channels : Nat) (ch : BitVec 8)
    (v : Option Nat) (os : Os) : Except Fault (World × Int) :=
  match v with
  | none => .ok (w, -EINVAL)
  | some v =>
    if CANARD_NODE_ID_MAX < nodeId.toNat ∨ maxChannel < ch.toNat ∨ callback = none then
      .ok (w, -EINVAL)
    else readRegister w module nodeId (channelName channels ".input" ch) v callback os

def wlmioVpe6040Read := readChannel w nodeId callback .vpe6040 3 4
def wlmioVpe6060Read := readChannel w nodeId callback .vpe6060 3 4
def wlmioVpe6080Read := readChannel w nodeId callback .vpe6080 7 8
def wlmioVpe6090Read := readChannel w nodeId callback .vpe6090 5 6
def wlmioVpe6180Read := readChannel w nodeId callback .vpe6180 7 8

/-- Channel 3 passes the check but has no case in the switch. -/
def wlmioVpe6190Read := readChannel w nodeId callback .vpe6190 3 3

/-- The body the writes of one byte share. -/
def configureChannel (maxChannel channels : Nat) (suffix : String) (maxValue : Nat)
    (ch value : BitVec 8) (os : Os) : Except Fault (World × Int) :=
  if CANARD_NODE_ID_MAX < nodeId.toNat ∨ maxChannel < ch.toNat ∨ maxValue < value.toNat ∨
      callback = none then .ok (w, -EINVAL)
  else writeRegister w nodeId (channelName channels suffix ch) (uint8Register value) callback os

def WLMIO_VPE6040_MODE_10V : Nat := 2
def WLMIO_VPE6050_MODE_SINK : Nat := 1
def WLMIO_VPE6060_MODE_PULSE_COUNTER : Nat := 2
def WLMIO_VPE6060_POLARITY_FALLING : Nat := 1
def WLMIO_VPE6060_BIAS_NPN : Nat := 2
def WLMIO_VPE6090_TYPE_T : Nat := 8

def wlmioVpe6040Configure := configureChannel w nodeId callback 3 4 ".mode" WLMIO_VPE6040_MODE_10V
def wlmioVpe6050Configure := configureChannel w nodeId callback 3 4 ".mode" WLMIO_VPE6050_MODE_SINK
def wlmioVpe6090Configure := configureChannel w nodeId callback 5 6 ".type" WLMIO_VPE6090_TYPE_T

/-- Channel 3 passes the check but has no case in the switch. -/
def wlmioVpe6190Configure (ch enable : BitVec 8) :=
  configureChannel w nodeId callback 3 3 ".enabled" 1 ch (flag enable)

/-- The body the writes of one word share. -/
def writeChannel (ch : BitVec 8) (v : BitVec 16) (os : Os) : Except Fault (World × Int) :=
  if CANARD_NODE_ID_MAX < nodeId.toNat ∨ 3 < ch.toNat ∨ callback = none then .ok (w, -EINVAL)
  else writeRegister w nodeId (channelName 4 ".output" ch) (uint16Register v) callback os

def wlmioVpe6050Write := writeChannel w nodeId callback
def wlmioVpe6070Write := writeChannel w nodeId callback

def wlmioVpe6060Configure (ch mode polarity bias : BitVec 8) (os : Nat → Os) :
    Except Fault (World × Int) :=
  if CANARD_NODE_ID_MAX < nodeId.toNat ∨ 3 < ch.toNat ∨
      WLMIO_VPE6060_MODE_PULSE_COUNTER < mode.toNat ∨
      WLMIO_VPE6060_POLARITY_FALLING < polarity.toNat ∨ WLMIO_VPE6060_BIAS_NPN < bias.toNat ∨
      callback = none then .ok (w, -EINVAL)
  else configureRegisters w nodeId (channelName 4 ".mode" ch, uint8Register mode)
    (channelName 4 ".polarity" ch, uint8Register polarity)
    (channelName 4 ".bias" ch, uint8Register bias) callback os

def wlmioVpe6080Configure (ch enabled : BitVec 8) (beta t0 : BitVec 16) (os : Nat → Os) :
    Except Fault (World × Int) :=
  if CANARD_NODE_ID_MAX < nodeId.toNat ∨ 7 < ch.toNat ∨ callback = none then .ok (w, -EINVAL)
  else configureRegisters w nodeId (channelName 8 ".enabled" ch, uint8Register (flag enabled))
    (channelName 8 ".beta" ch, uint16Register beta) (channelName 8 ".t0" ch, uint16Register t0)
    callback os

/-- The field `sample_interval` of the record is never set. -/
def wlmioNodeSetSampleInterval (sampleInterval : BitVec 16) (os : Os) :
    Except Fault (World × Int) :=
  if CANARD_NODE_ID_MAX < nodeId.toNat ∨ callback = none then .ok (w, -EINVAL)
  else accessWithRecord w nodeId (some (ascii "sample_interval")) (some (uint16Register sampleInterval))
    (.setSampleInterval none (os.garbage % 65536) callback) .setSampleInterval os

end

/-! ## Callbacks -/

/-- The type a module's register has to have. -/
def ReadModule.type : ReadModule → Nat
  | .vpe6060 | .vpe6190 => WLMIO_REGISTER_VALUE_UINT32
  | _ => WLMIO_REGISTER_VALUE_UINT16

/-- The number of elements it has to have at least. -/
def ReadModule.minLength : ReadModule → Nat
  | .vpe6010 => 6
  | _ => 1

/-- Offset and size of the pieces copied to the destination. -/
def ReadModule.pieces : ReadModule → List (Nat × Nat)
  | .vpe6010 => [(0, 2), (2, 2), (4, 2), (6, 2), (8, 2), (10, 2)]
  | .vpe6190 => [(0, 4)]
  | _ => [(0, 2)]

/-- The destination of a read: the six words of `struct wlmio_vpe6010_input`, or one number. -/
def ReadModule.elements : ReadModule → Nat
  | .vpe6010 => 6
  | _ => 1

/-- The size of each, `uint16_t` or `uint32_t`. -/
def ReadModule.elementSize : ReadModule → Nat
  | .vpe6060 | .vpe6190 => 4
  | _ => 2

/-- What a read callback makes of the register: the pieces it stores, or the code it passes on. -/
def readResult (module : ReadModule) (reg : WlmioRegisterAccess) : Except Int (List (List Byte)) :=
  if reg.type.toNat ≠ module.type ∨ reg.length.toNat < module.minLength then .error (-EPROTO)
  else .ok (module.pieces.map (fun p => (reg.value.drop p.1).take p.2))

/-- The checks of `node_set_sample_interval_callback`. -/
def sampleIntervalResult (regr : WlmioRegisterAccess) (sampleInterval : Nat) : Int :=
  if regr.type.toNat ≠ WLMIO_REGISTER_VALUE_UINT16 ∨ regr.length.toNat ≠ 1 then -ENOTSUP
  else if Bytes.toNat (regr.value.take 2) ≠ sampleInterval then -EBADE
  else 0

/-- Call the function a caller passed in; the second component says whether it is code of the
application, which runs on its own. -/
def callCaller (w : World) (callback : Option Caller) (r : Int) : Except Fault (World × Bool) :=
  match callback with
  | none => .error .nullDereference
  | some (.user k) => .ok (w.log (.called k r), true)
  | some (.sync call) => .ok ({ w with syncReturn := r, syncFlag := true }.log (.delivered call r), false)

/-- The read callbacks, up to the call of the caller's function. -/
def readCallback (w : World) (module : ReadModule) (p : Nat) (r : Int) :
    Except Fault (World × Bool) :=
  match recordAt w p with
  | some (.read reg input callback) =>
    if r < 0 then callCaller w callback r
    else match reg with
      -- no reply has stored a register
      | none => .error .uninitialised
      | some reg =>
        match readResult module reg with
        | .error r => callCaller w callback r
        | .ok value => callCaller (w.log (.stored input value)) callback 0
  | some _ => .error .typeConfusion
  | none => .error (.useAfterFree .record)

/-- `node_set_sample_interval_callback`, up to the call of the caller's function. -/
def nodeSetSampleIntervalCallback (w : World) (p : Nat) (r : Int) : Except Fault (World × Bool) :=
  match recordAt w p with
  | some (.setSampleInterval regr sampleInterval callback) =>
    if r < 0 then callCaller w callback r
    else match regr with
      | none => .error .uninitialised
      | some regr => callCaller w callback (sampleIntervalResult regr sampleInterval)
  | some _ => .error .typeConfusion
  | none => .error (.useAfterFree .record)

/-- The configure callbacks, up to the call of the caller's function; `false` in the third
component is the early return, which does not free the record. -/
def configureCallback (w : World) (p : Nat) (r : Int) : Except Fault (World × Bool × Bool) :=
  match recordAt w p with
  | some (.configure counter cancelled r₀ callback) =>
    let counter := (counter + 1) % 256
    -- the first error is the one that is kept
    let r₀ := if r < 0 ∧ 0 ≤ r₀ then r else r₀
    let w := setRecord w p (.configure counter cancelled r₀ callback)
    if counter + cancelled < 3 then .ok (w, false, false)
    else do
      let (w, user) ← callCaller w callback r₀
      .ok (w, user, true)
  | some _ => .error .typeConfusion
  | none => .error (.useAfterFree .record)

/-- `callback(r, uparam)`: whether code of the application runs now, and the record to free when
it has returned. -/
def Callback.call (callback : Callback) (w : World) (r : Int) :
    Except Fault (World × Bool × Option Nat) :=
  match callback with
  | .caller c => do
    let (w, user) ← callCaller w (some c) r
    .ok (w, user, none)
  | .read module p => do
    let (w, user) ← readCallback w module p r
    .ok (w, user, some p)
  | .setSampleInterval p => do
    let (w, user) ← nodeSetSampleIntervalCallback w p r
    .ok (w, user, some p)
  | .configure p => do
    let (w, user, free) ← configureCallback w p r
    .ok (w, user, if free then some p else none)

end Wlmio.Client
