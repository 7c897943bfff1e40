import Wlmio.Canard.Assertions
import Wlmio.Canard.PushAssertions
import Wlmio.Proof.Sessions

/-!
# No assertion fails

The library is built with its assertions, and an assertion that fails is the end of the
process. Whatever an application does with an instance, and whatever comes from the bus,
none does (`assertions_hold`): the sessions stay intact over every call, and what is pushed
passes for every transfer and every MTU.

Besides calling the library, the application may set the MTU and the node-ID at any time.
-/

namespace Wlmio.Proof

open Canard

/-- What an application does with an instance. -/
inductive Operation where
  | call (c : Call)
  | setMtu (mtuBytes : Nat)
  | setNodeId (nodeId : Nat)

/-- The instance afterwards, what was returned, and the transfer that was handed over. -/
def operate (ins : CanardInstance) : Operation → CanardInstance × Int × Option RxTransfer
  | .call c => ins.call c
  | .setMtu mtuBytes => ({ ins with mtuBytes := mtuBytes }, 0, none)
  | .setNodeId nodeId => ({ ins with nodeId := nodeId }, 0, none)

/-- The instance after a run, and what came of each step. -/
def operateAll (ins : CanardInstance) : List Operation → CanardInstance × List (Int × Option RxTransfer)
  | [] => (ins, [])
  | op :: ops =>
    let (ins, result) := operate ins op
    let (ins, results) := operateAll ins ops
    (ins, result :: results)

/-! ## The same with assertions -/

/-- What the search finds is a subscription to the port. -/
def canardRxUnsubscribeAsserted (ins : CanardInstance) (kind : CanardTransferKind) (portId : Nat) :
    Option (CanardInstance × Int) := do
  check (((ins.rxSubscriptions kind).find? (fun sub => sub.portId == portId)).all
    (fun sub => decide (sub.portId = portId)))
  pure (canardRxUnsubscribe ins kind portId)

def callAsserted (ins : CanardInstance) : Call → Option (CanardInstance × Int × Option RxTransfer)
  | .push transfer room => do
    let (ins, out) ← canardTxPushAsserted ins transfer room
    pure (ins, out, none)
  | .accept frame index => canardRxAcceptAsserted ins frame index
  | .subscribe kind portId extent timeout => do
    let _ ← canardRxUnsubscribeAsserted ins kind portId
    pure (ins.call (.subscribe kind portId extent timeout))
  | .unsubscribe kind portId => do
    let (ins, out) ← canardRxUnsubscribeAsserted ins kind portId
    pure (ins, out, none)
  | c => some (ins.call c)

def operateAsserted (ins : CanardInstance) : Operation → Option (CanardInstance × Int × Option RxTransfer)
  | .call c => callAsserted ins c
  | op => some (operate ins op)

def operateAllAsserted (ins : CanardInstance) :
    List Operation → Option (CanardInstance × List (Int × Option RxTransfer))
  | [] => some (ins, [])
  | op :: ops => do
    let (ins, result) ← operateAsserted ins op
    let (ins, results) ← operateAllAsserted ins ops
    pure (ins, result :: results)

/-! ## They agree -/

theorem canardRxUnsubscribeAsserted_eq (ins : CanardInstance) (kind : CanardTransferKind)
    (portId : Nat) :
    canardRxUnsubscribeAsserted ins kind portId = some (canardRxUnsubscribe ins kind portId) := by
  have hfound : ((ins.rxSubscriptions kind).find? (fun sub => sub.portId == portId)).all
      (fun sub => decide (sub.portId = portId)) = true := by
    cases hsub : (ins.rxSubscriptions kind).find? (fun sub => sub.portId == portId) with
    | none => rfl
    | some sub =>
        have hport := List.find?_some hsub
        exact decide_eq_true (eq_of_beq hport)
  unfold canardRxUnsubscribeAsserted
  rw [check_pos hfound]
  rfl

theorem callAsserted_eq {ins : CanardInstance} (h : ins.Intact) (c : Call) :
    callAsserted ins c = some (ins.call c) := by
  cases c with
  | push transfer room =>
      simp only [callAsserted, canardTxPushAsserted_eq]
      rfl
  | accept frame index => exact (canardRxAcceptAsserted_eq h frame index).1
  | subscribe kind portId extent timeout =>
      simp only [callAsserted, canardRxUnsubscribeAsserted_eq]
      rfl
  | unsubscribe kind portId =>
      simp only [callAsserted, canardRxUnsubscribeAsserted_eq]
      rfl
  | pop => rfl
  | release payload => rfl

/-- **One step** passes its assertions and leaves the sessions intact. -/
theorem operateAsserted_eq {ins : CanardInstance} (h : ins.Intact) (op : Operation) :
    operateAsserted ins op = some (operate ins op) ∧ (operate ins op).1.Intact := by
  cases op with
  | call c => exact ⟨callAsserted_eq h c, h.call c⟩
  | setMtu mtuBytes => exact ⟨rfl, h⟩
  | setNodeId nodeId => exact ⟨rfl, h⟩

theorem operateAllAsserted_eq {ins : CanardInstance} (h : ins.Intact) (ops : List Operation) :
    operateAllAsserted ins ops = some (operateAll ins ops) := by
  induction ops generalizing ins with
  | nil => rfl
  | cons op ops ih =>
      obtain ⟨hstep, hintact⟩ := operateAsserted_eq h op
      unfold operateAllAsserted operateAll
      rw [hstep]
      dsimp only [Option.bind_eq_bind, Option.bind_some]
      rw [ih hintact]
      rfl

/-- **No assertion fails**, in any run from a fresh instance. -/
theorem assertions_hold {ins : CanardInstance} {nodeId : Nat} (h : ins.Fresh nodeId)
    (ops : List Operation) : operateAllAsserted ins ops = some (operateAll ins ops) := by
  have hintact : ins.Intact := by
    intro kind sub hsub
    rw [h.nothing kind] at hsub
    cases hsub
  exact operateAllAsserted_eq hintact ops

theorem assertions_hold_message :
    operateAllAsserted silentInstance [.setMtu 8, .call (.subscribe .message 100 8 0),
        .call (.accept (messageFrame 5 0 9#8) 0)] =
      some (operateAll silentInstance [.setMtu 8, .call (.subscribe .message 100 8 0),
        .call (.accept (messageFrame 5 0 9#8) 0)]) :=
  assertions_hold silentInstance_fresh _

end Wlmio.Proof
