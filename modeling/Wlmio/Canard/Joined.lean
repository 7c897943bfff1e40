import Wlmio.Canard.Network

/-!
# One node and the others

A network in which one node is seen by itself: its instance, the frames it has not read
yet and its calls, beside the network of the others. Put together they are a network
again (`joined`), where an event is one of that node or one among the others, and either
side hears what the other puts on the bus.
-/

namespace Wlmio.Canard

open Demultiplexer

variable {ι : Type} [DecidableEq ι]

/-- The nodes hear frames of somebody else. -/
def Network.hear (net : Network ι) (frames : List CanardFrame) : Network ι :=
  { net with inbox := fun j => net.inbox j ++ frames }

/-- What an event puts on the bus. -/
def Network.puts (net : Network ι) : BusEvent ι → List CanardFrame
  | .transmit i => (canardTxPeek (net.node i)).toList
  | _ => []

/-- The node and the others. -/
def joined (ins : CanardInstance) (inbox : List CanardFrame) (calls : List Call)
    (others : Network ι) : Network (Option ι) where
  node := fun i => i.elim ins others.node
  inbox := fun i => i.elim inbox others.inbox
  calls := fun i => i.elim calls others.calls

/-- An event among the others. -/
def BusEvent.elsewhere : BusEvent ι → BusEvent (Option ι)
  | .call i c => .call (some i) c
  | .transmit i => .transmit (some i)
  | .receive i now => .receive (some i) now

omit [DecidableEq ι] in
theorem network_ext {net net' : Network ι} (hnode : ∀ i, net.node i = net'.node i)
    (hinbox : ∀ i, net.inbox i = net'.inbox i) (hcalls : ∀ i, net.calls i = net'.calls i) :
    net = net' := by
  obtain ⟨node, inbox, calls⟩ := net
  obtain ⟨node', inbox', calls'⟩ := net'
  obtain rfl : node = node' := funext hnode
  obtain rfl : inbox = inbox' := funext hinbox
  obtain rfl : calls = calls' := funext hcalls
  rfl

omit [DecidableEq ι] in
theorem hear_nil (net : Network ι) : net.hear [] = net :=
  network_ext (fun _ => rfl) (fun _ => List.append_nil _) (fun _ => rfl)

omit [DecidableEq ι] in
theorem hear_hear (net : Network ι) (fs gs : List CanardFrame) :
    (net.hear fs).hear gs = net.hear (fs ++ gs) :=
  network_ext (fun _ => rfl) (fun _ => List.append_assoc ..) (fun _ => rfl)

section

variable (ins : CanardInstance) (inbox : List CanardFrame) (calls : List Call) (others : Network ι)

theorem joined_perform (c : Call) :
    (joined ins inbox calls others).perform none c =
      joined (ins.call c).1 inbox (calls ++ [c]) others := by
  refine network_ext (fun i => ?_) (fun _ => rfl) (fun i => ?_)
  · cases i with
    | none => rfl
    | some i => rfl
  · cases i with
    | none => rfl
    | some i => rfl

theorem joined_perform_some (i : ι) (c : Call) :
    (joined ins inbox calls others).perform (some i) c =
      joined ins inbox calls (others.perform i c) := by
  refine network_ext (fun j => ?_) (fun _ => rfl) (fun j => ?_)
  · cases j with
    | none => rfl
    | some j =>
        rw [perform_node]
        show _ = (others.perform i c).node j
        rw [perform_node]
        exact if_congr (by rw [Option.some.injEq]) rfl rfl
  · cases j with
    | none => rfl
    | some j =>
        rw [perform_calls]
        show _ = (others.perform i c).calls j
        rw [perform_calls]
        exact if_congr (by rw [Option.some.injEq]) rfl rfl

/-- **The node makes a call.** -/
theorem joined_call {c : Call} (hc : c.ofApplication = true) :
    (joined ins inbox calls others).step (.call none c) =
      joined (ins.call c).1 inbox (calls ++ [c]) others :=
  (if_pos hc).trans (joined_perform ins inbox calls others c)

/-- **The node sends**, and the others hear it. -/
theorem joined_transmit {f : CanardFrame} (hpeek : canardTxPeek ins = some f) :
    (joined ins inbox calls others).step (.transmit none) =
      joined (canardTxPop ins) inbox (calls ++ [.pop]) (others.hear [f]) := by
  have hnode : canardTxPeek ((joined ins inbox calls others).node none) = some f := hpeek
  dsimp only [Network.step]
  rw [hnode, joined_perform]
  refine network_ext (fun _ => rfl) (fun j => ?_) (fun _ => rfl)
  cases j with
  | none => rfl
  | some j => rfl

/-- **The node reads a frame.** -/
theorem joined_receive (f : CanardFrame) (fs : List CanardFrame) (now : Nat) :
    (joined ins (f :: fs) calls others).step (.receive none now) =
      joined (ins.call (.accept { f with timestampUsec := now } 0)).1 fs
        (calls ++ [.accept { f with timestampUsec := now } 0]) others := by
  have hinbox : (joined ins (f :: fs) calls others).inbox none = f :: fs := rfl
  dsimp only [Network.step]
  rw [hinbox]
  dsimp only
  rw [joined_perform]
  refine network_ext (fun _ => rfl) (fun j => ?_) (fun _ => rfl)
  cases j with
  | none => rfl
  | some j => rfl

/-- **Among the others** things go on as without the node, but that it hears them. -/
theorem joined_elsewhere (e : BusEvent ι) :
    (joined ins inbox calls others).step e.elsewhere =
      joined ins (inbox ++ others.puts e) calls (others.step e) := by
  cases e with
  | call i c =>
      dsimp only [BusEvent.elsewhere, Network.step, Network.puts]
      rw [List.append_nil]
      split
      · exact joined_perform_some ins inbox calls others i c
      · rfl
  | transmit i =>
      have hnode : (joined ins inbox calls others).node (some i) = others.node i := rfl
      dsimp only [BusEvent.elsewhere, Network.step, Network.puts]
      rw [hnode]
      cases hpeek : canardTxPeek (others.node i) with
      | none =>
          rw [Option.toList_none, List.append_nil]
      | some f =>
          dsimp only
          rw [joined_perform_some]
          refine network_ext (fun _ => rfl) (fun j => ?_) (fun _ => rfl)
          cases j with
          | none => rfl
          | some j => exact if_congr (by rw [Option.some.injEq]) rfl rfl
  | receive i now =>
      have hinbox : (joined ins inbox calls others).inbox (some i) = others.inbox i := rfl
      dsimp only [BusEvent.elsewhere, Network.step, Network.puts]
      rw [hinbox, List.append_nil]
      cases hread : others.inbox i with
      | nil => rfl
      | cons f fs =>
          dsimp only
          rw [joined_perform_some]
          refine network_ext (fun _ => rfl) (fun j => ?_) (fun _ => rfl)
          cases j with
          | none => rfl
          | some j =>
              dsimp only
              rw [Function.update_apply]
              show _ = Function.update others.inbox i fs j
              rw [Function.update_apply]
              exact if_congr (by rw [Option.some.injEq]) rfl rfl

end

end Wlmio.Canard
