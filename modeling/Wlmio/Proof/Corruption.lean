import Wlmio.Proof.Sessions
import Wlmio.Canard.Crc

/-!
# Damaged transfers

A transfer of several frames is sealed with its CRC. What a session hands over from frames
that were slightly damaged on the way is what was sent: had any bit changed, the CRC would
have been wrong and nothing handed over (`damage_detected`).
-/

namespace Wlmio.Proof

open Canard Demultiplexer

/-- A message followed by its CRC, the high byte first. -/
def crcSealed (body : List Byte) : List Byte :=
  body ++ [crcHigh (crcAdd CRC_INITIAL body), crcLow (crcAdd CRC_INITIAL body)]

theorem crcSealed_residue (body : List Byte) : crcAdd CRC_INITIAL (crcSealed body) = CRC_RESIDUE := by
  rw [crcSealed, crcAdd_append, crcAdd_self]

/-- The chain is a transfer of several frames: its last frame does not start it. -/
def OfSeveral (chain : List Arrival) : Prop := ∀ f ∈ chain.getLast?, f.1.startOfTransfer = false

/-- **One transfer.** -/
theorem composes_undamaged {extent : Nat} {chain : List Arrival} {tr : CanardTransfer}
    (h : Composes extent chain tr) (hseveral : OfSeveral chain) {body : List Byte}
    (hlen : (payloads chain).length = (crcSealed body).length)
    (hs : SlightlyDiffer (crcSealed body) (payloads chain)) :
    payloads chain = crcSealed body ∧ tr.payload = body.take extent := by
  obtain ⟨front, f, rfl, _, _, _, _, hmulti⟩ := h.last
  have hsot : f.1.startOfTransfer = false := hseveral f (by rw [List.getLast?_concat]; rfl)
  obtain ⟨hcrc, hpayload⟩ := hmulti hsot
  have heq := crc_detects hlen.symm (crcSealed_residue body) hcrc hs
  refine ⟨heq, ?_⟩
  have hcut : (crcSealed body).length - CRC_SIZE_BYTES = body.length := by
    simp [crcSealed, CRC_SIZE_BYTES]
  rw [hpayload, heq, hcut, crcSealed, List.take_left]

end Wlmio.Proof
