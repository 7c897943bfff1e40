import Mathlib.Data.List.Basic

/-!
# Frames, transfers and the transfer CRC

The data types of `canard.h` that cross the boundary of the transport: a CAN
data frame, a transfer, and the parameters both are made of. Sizes are the
lengths of the byte lists that carry the data, so a `payload`/`payload_size`
pair of the source is one `List Byte` here.

`crcAddByte` is the bit-serial CRC-16-CCITT of `canard.c`. The one fact the
receiver relies on is proved beside it: a CRC followed by its own two bytes, high
byte first, leaves the residue `CRC_RESIDUE`.
-/

namespace Wlmio

/-- An octet of payload. -/
abbrev Byte := BitVec 8

namespace Canard

/-! ## Parameters -/

def CAN_EXT_ID_MASK : Nat := (1 <<< 29) - 1
def CANARD_MTU_CAN_CLASSIC : Nat := 8
def CANARD_MTU_CAN_FD : Nat := 64
def CANARD_SUBJECT_ID_MAX : Nat := 8191
def CANARD_SERVICE_ID_MAX : Nat := 511
def CANARD_NODE_ID_MAX : Nat := 127
def CANARD_PRIORITY_MAX : Nat := 7
def CANARD_TRANSFER_ID_MAX : Nat := 31
def CANARD_NODE_ID_UNSET : Nat := 255
def CANARD_ERROR_INVALID_ARGUMENT : Int := 2
def CANARD_ERROR_OUT_OF_MEMORY : Int := 3
def CANARD_DEFAULT_TRANSFER_ID_TIMEOUT_USEC : Nat := 2000000

/-- `CanardPriorityNominal`, the only priority the client sends at. -/
def CanardPriorityNominal : Nat := 4

/-- Transfer kinds, numbered as in the source by `CanardTransferKind.toNat`. -/
inductive CanardTransferKind where
  | message
  | response
  | request
deriving DecidableEq, Repr

/-- A CAN data frame with an extended 29-bit identifier. -/
structure CanardFrame where
  timestampUsec : Nat
  extendedCanId : Nat
  payload : List Byte
deriving DecidableEq, Repr

/-- A UAVCAN transfer, incoming or outgoing. -/
structure CanardTransfer where
  timestampUsec : Nat
  priority : Nat
  transferKind : CanardTransferKind
  portId : Nat
  remoteNodeId : Nat
  transferId : Nat
  payload : List Byte
deriving DecidableEq, Repr

/-- The payload buffer of a session is the dynamic block with this number. -/
abbrev Buffer := Nat

/-- State of the reassembly of transfers from one node. `received` is the part
`payload[0 .. payload_size)` of the buffer; the bytes behind it are not read. -/
structure CanardInternalRxSession where
  transferTimestampUsec : Nat
  totalPayloadSize : Nat
  payload : Option Buffer
  received : List Byte
  calculatedCrc : BitVec 16
  transferId : Nat
  redundantTransportIndex : Nat
  toggle : Bool
deriving DecidableEq, Repr

/-- A subscription, with the session of each remote node. -/
structure CanardRxSubscription where
  sessions : Nat → Option CanardInternalRxSession
  transferIdTimeoutUsec : Nat
  extent : Nat
  portId : Nat

/-- Dynamic memory behind `memory_allocate` and `memory_free`. Blocks are numbered
in the order they are asked for, and `deny` says which requests come back `NULL`. -/
structure Memory where
  next : Nat
  live : List Nat
  freed : List Nat
  deny : Nat → Bool

/-- The state of one library instance. -/
structure CanardInstance where
  mtuBytes : Nat
  nodeId : Nat
  memory : Memory
  rxSubscriptions : CanardTransferKind → List CanardRxSubscription
  txQueue : List CanardFrame

/-- `canardInit`. -/
def canardInit (memory : Memory) : CanardInstance where
  mtuBytes := CANARD_MTU_CAN_FD
  nodeId := CANARD_NODE_ID_UNSET
  memory := memory
  rxSubscriptions := fun _ => []
  txQueue := []

/-- Length of a frame for each DLC. -/
def CanardCANDLCToLength : List Nat :=
  [0, 1, 2, 3, 4, 5, 6, 7, 8, 12, 16, 20, 24, 32, 48, 64]

/-- The DLC for each length, rounded up. -/
def CanardCANLengthToDLC : List Nat :=
  [0, 1, 2, 3, 4, 5, 6, 7, 8,
   9, 9, 9, 9,
   10, 10, 10, 10,
   11, 11, 11, 11,
   12, 12, 12, 12,
   13, 13, 13, 13, 13, 13, 13, 13,
   14, 14, 14, 14, 14, 14, 14, 14, 14, 14, 14, 14, 14, 14, 14, 14,
   15, 15, 15, 15, 15, 15, 15, 15, 15, 15, 15, 15, 15, 15, 15, 15]

/-! ## Transfer CRC -/

abbrev TransferCRC := BitVec 16

def CRC_INITIAL : TransferCRC := 0xFFFF#16
def CRC_RESIDUE : TransferCRC := 0x0000#16
def CRC_SIZE_BYTES : Nat := 2

/-- One of the eight unrolled lines of `crcAddByte`. -/
def crcAddBit (out : TransferCRC) : TransferCRC :=
  (out <<< 1) ^^^ (if out &&& 0x8000#16 ≠ 0#16 then 0x1021#16 else 0#16)

def crcAddByte (crc : TransferCRC) (byte : Byte) : TransferCRC :=
  let out := crc ^^^ (byte.setWidth 16 <<< 8)
  let out := crcAddBit out
  let out := crcAddBit out
  let out := crcAddBit out
  let out := crcAddBit out
  let out := crcAddBit out
  let out := crcAddBit out
  let out := crcAddBit out
  crcAddBit out

def crcAdd (crc : TransferCRC) (data : List Byte) : TransferCRC := data.foldl crcAddByte crc

/-- The byte `crc >> 8` that the sender puts first. -/
def crcHigh (crc : TransferCRC) : Byte := (crc >>> 8).setWidth 8

/-- The byte `crc & 0xFF` that the sender puts second. -/
def crcLow (crc : TransferCRC) : Byte := crc.setWidth 8

@[simp] theorem crcAdd_nil (crc : TransferCRC) : crcAdd crc [] = crc := rfl

@[simp] theorem crcAdd_cons (crc : TransferCRC) (b : Byte) (bs : List Byte) :
    crcAdd crc (b :: bs) = crcAdd (crcAddByte crc b) bs := rfl

theorem crcAdd_append (crc : TransferCRC) (as bs : List Byte) :
    crcAdd crc (as ++ bs) = crcAdd (crcAdd crc as) bs := List.foldl_append

/-- Eight shifts of a register whose high byte is clear never meet the polynomial. -/
private theorem crcAddBit_eight : ∀ b : Byte,
    crcAddBit (crcAddBit (crcAddBit (crcAddBit (crcAddBit (crcAddBit (crcAddBit
      (crcAddBit (b.setWidth 16)))))))) = b.setWidth 16 <<< 8 := by
  decide +kernel

/-- Cancelling the high byte leaves the low one. -/
private theorem xor_crcHigh (crc : TransferCRC) :
    crc ^^^ ((crcHigh crc).setWidth 16 <<< 8) = (crcLow crc).setWidth 16 := by
  apply BitVec.eq_of_getLsbD_eq
  intro i hi
  by_cases h8 : i < 8
  · simp [crcHigh, crcLow, h8, hi]
  · have hi8 : i - 8 < 16 := by omega
    have hi8' : i - 8 < 8 := by omega
    have hadd : 8 + (i - 8) = i := by omega
    simp [crcHigh, crcLow, h8, hi, hi8, hi8', hadd]

/-- **The residue.** A CRC followed by its own two bytes comes out as `CRC_RESIDUE`. -/
theorem crcAdd_self (crc : TransferCRC) :
    crcAdd crc [crcHigh crc, crcLow crc] = CRC_RESIDUE := by
  have hhigh : crcAddByte crc (crcHigh crc) = (crcLow crc).setWidth 16 <<< 8 := by
    unfold crcAddByte
    rw [xor_crcHigh]
    exact crcAddBit_eight _
  rw [crcAdd_cons, hhigh, crcAdd_cons, crcAdd_nil]
  unfold crcAddByte
  rw [BitVec.xor_self]
  decide

end Canard

end Wlmio
