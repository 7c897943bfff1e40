import Wlmio.Proof.Effects

/-!
# Concrete runs

A client at node 5, an operating system that grants everything, and the frames other
nodes send to it: what counterexamples and instances are run on.
-/

namespace Wlmio.Proof

open Wlmio.Client Wlmio.Canard

/-- Memory that is never denied. -/
def ampleMemory : Memory := ⟨0, [], [], fun _ => false⟩

/-- `wlmio_init` succeeds, with descriptors 3 and 4. -/
def bootOs : InitOs := ⟨some 5#7, 3, 4, true, true⟩

/-- The state after `wlmio_init`. -/
def started : World :=
  match wlmioInit (World.boot ampleMemory) bootOs with
  | .ok (w, _) => w
  | .error _ => World.boot ampleMemory

theorem initial_started : Initial started := ⟨ampleMemory, bootOs, rfl⟩

/-- Everything is granted, and descriptors are handed out from `fd` on. -/
def grantFrom (fd : Int) : Nat → Os := fun i =>
  { txRoom := 100, payloadMalloc := true, entryMalloc := true, timerfdCreate := fd + i,
    timerfdSettime := true, errno := 12, errno_pos := by decide, fdEntryMalloc := true,
    sends := 100, recordMalloc := true, garbage := 0 }

/-- A response to the client in a single frame. -/
def responseFrame (service : Service) (node tid : Nat) (payload : List Byte) : CanardFrame where
  timestampUsec := 0
  extendedCanId := txMakeServiceSessionSpecifier service.port false node 5 ||| (4 <<< 26)
  payload := payload ++ [txMakeTailByte true true true tid]

/-- A heartbeat of a node in operation. -/
def heartbeatFrame (node tid : Nat) : CanardFrame where
  timestampUsec := 0
  extendedCanId := txMakeMessageSessionSpecifier 7509 node ||| (4 <<< 26)
  payload := List.replicate 7 0#8 ++ [txMakeTailByte true true true tid]

/-- The state after these acts, if each is possible and meets the guard. -/
def after (guard : World → Act → Prop) [∀ w a, Decidable (guard w a)] (acts : List Act) :
    Option World :=
  Transition.run step guard started acts

theorem reachable_after {guard : World → Act → Prop} [∀ w a, Decidable (guard w a)]
    {acts : List Act} {w : World} (h : after guard acts = some w) : ReachableBy guard w :=
  Transition.Reaches.run (.init initial_started) h

/-- A run that can be evaluated ends in a reachable state. -/
theorem exists_after (guard : World → Act → Prop) [∀ w a, Decidable (guard w a)]
    (acts : List Act) (p : World → Bool) (h : (after guard acts).any p = true) :
    ∃ w, ReachableBy guard w ∧ p w = true := by
  cases hw : after guard acts with
  | none => rw [hw] at h; simp at h
  | some w =>
      rw [hw] at h
      exact ⟨w, reachable_after hw, h⟩

end Wlmio.Proof
