import Wlmio.Proof.Scenario

/-!
# What a read leaves in its destination

The seven read callbacks differ in the type and length they ask for and in the bytes they
copy. Six of them copy as many bytes as their destination has; `vpe6060_read_callback`
copies two into a destination of four. `read_whole_iff` says when a destination holds
either what it held before or the whole value, and `read_nothing_iff` is about a read for
which no register came.
-/

namespace Wlmio.Proof

open Wlmio.Client Wlmio.Canard

/-! ## Destinations -/

/-- The number of bytes of a destination. -/
def inputSize (module : ReadModule) : Nat := module.elements * module.elementSize

/-- The bytes of a destination after some events, newest first. -/
def contents (module : ReadModule) (input : Nat) (prior : List Byte) : List Event → List Byte
  | [] => prior
  | .stored i value :: trace =>
    if i = input then
      Bytes.overlayAll module.elementSize 0 (contents module input prior trace) value
    else contents module input prior trace
  | _ :: trace => contents module input prior trace

/-- The result in the newest event, if it calls a function of the caller. -/
def reported : List Event → Option Int
  | .called _ r :: _ => some r
  | .delivered _ r :: _ => some r
  | _ => none

/-- What a read callback reports, and what its destination holds then. -/
def readOutcome (w : World) (module : ReadModule) (p : Nat) (r : Int) (prior : List Byte) :
    Option (Int × List Byte) :=
  match recordAt w p, readCallback w module p r with
  | some (.read _ input _), .ok (w', _) =>
    let new := w'.trace.take (w'.trace.length - w.trace.length)
    (reported new).map (fun k => (k, contents module input prior new))
  | _, _ => none

/-- The register is one the callback takes. -/
def Readable (module : ReadModule) (reg : WlmioRegisterAccess) : Prop :=
  reg.type.toNat = module.type ∧ module.minLength ≤ reg.length.toNat

/-- Success means the elements of the register at full width, and failure that nothing changed. -/
def WholeOrNothing (module : ReadModule) (reg : WlmioRegisterAccess) (prior : List Byte) :
    Option (Int × List Byte) → Prop
  | none => False
  | some (k, after) =>
    (k = 0 → after = reg.value.take (inputSize module)) ∧ (k < 0 → after = prior)

instance (module : ReadModule) (reg : WlmioRegisterAccess) : Decidable (Readable module reg) :=
  inferInstanceAs (Decidable (_ ∧ _))

instance (module : ReadModule) (reg : WlmioRegisterAccess) (prior : List Byte)
    (outcome : Option (Int × List Byte)) : Decidable (WholeOrNothing module reg prior outcome) :=
  match outcome with
  | none => inferInstanceAs (Decidable False)
  | some (_, _) => inferInstanceAs (Decidable (_ ∧ _))

/-! ## The callbacks -/

section

variable {w : World} {module : ReadModule} {p input : Nat} {r : Int}
  {reg : Option WlmioRegisterAccess} {c : Caller} {prior : List Byte}

/-- A caller's function gets the result, and its call is the only event. -/
theorem callCaller_some (w : World) (c : Caller) (r : Int) :
    ∃ w' user e, callCaller w (some c) r = .ok (w', user) ∧ w'.trace = e :: w.trace ∧
      reported [e] = some r ∧ ∀ module input prior, contents module input prior [e] = prior := by
  cases c with
  | user k => exact ⟨_, _, _, rfl, rfl, rfl, fun _ _ _ => rfl⟩
  | sync call => exact ⟨_, _, _, rfl, rfl, rfl, fun _ _ _ => rfl⟩

/-- What follows from the events of a callback. -/
theorem readOutcome_of {w' : World} {user : Bool} {new : List Event} {k : Int}
    (hrec : recordAt w p = some (.read reg input (some c)))
    (hcall : readCallback w module p r = .ok (w', user)) (htrace : w'.trace = new ++ w.trace)
    (hreported : reported new = some k) :
    readOutcome w module p r prior = some (k, contents module input prior new) := by
  have hnew : w'.trace.take (w'.trace.length - w.trace.length) = new := by
    rw [htrace, List.length_append, Nat.add_sub_cancel, List.take_left]
  unfold readOutcome
  rw [hrec, hcall]
  dsimp only
  rw [hnew, hreported]
  rfl

/-- A reply that failed is passed on. -/
theorem readOutcome_failed (hrec : recordAt w p = some (.read reg input (some c))) (hr : r < 0) :
    readOutcome w module p r prior = some (r, prior) := by
  obtain ⟨w', user, e, hcall, htrace, hreported, hcontents⟩ := callCaller_some w c r
  have hread : readCallback w module p r = .ok (w', user) := by
    unfold readCallback
    rw [hrec]
    dsimp only
    rw [if_pos hr, hcall]
  rw [readOutcome_of hrec hread (htrace : w'.trace = [e] ++ w.trace) hreported, hcontents]

/-- A register of another type, or a shorter one, is refused. -/
theorem readOutcome_refused {reg : WlmioRegisterAccess}
    (hrec : recordAt w p = some (.read (some reg) input (some c))) (hr : ¬ r < 0)
    (hreg : ¬ Readable module reg) : readOutcome w module p r prior = some (-EPROTO, prior) := by
  obtain ⟨w', user, e, hcall, htrace, hreported, hcontents⟩ := callCaller_some w c (-EPROTO)
  have hresult : readResult module reg = .error (-EPROTO) := by
    unfold readResult
    rw [if_pos]
    by_contra hn
    obtain ⟨htype, hlength⟩ := not_or.mp hn
    exact hreg ⟨Classical.not_not.mp htype, Nat.le_of_not_lt hlength⟩
  have hread : readCallback w module p r = .ok (w', user) := by
    unfold readCallback
    rw [hrec]
    dsimp only
    rw [if_neg hr, hresult]
    exact hcall
  rw [readOutcome_of hrec hread (htrace : w'.trace = [e] ++ w.trace) hreported, hcontents]

/-- **A register that is taken** is stored piece by piece. -/
theorem readOutcome_stored {reg : WlmioRegisterAccess}
    (hrec : recordAt w p = some (.read (some reg) input (some c))) (hr : ¬ r < 0)
    (hreg : Readable module reg) :
    readOutcome w module p r prior = some (0, Bytes.overlayAll module.elementSize 0 prior
      (module.pieces.map (fun q => (reg.value.drop q.1).take q.2))) := by
  have hresult : readResult module reg =
      .ok (module.pieces.map (fun q => (reg.value.drop q.1).take q.2)) := by
    unfold readResult
    rw [if_neg]
    rintro (h | h)
    · exact h hreg.1
    · exact absurd hreg.2 (Nat.not_le_of_lt h)
  obtain ⟨w', user, e, hcall, htrace, hreported, hcontents⟩ := callCaller_some
    (w.log (.stored input (module.pieces.map (fun q => (reg.value.drop q.1).take q.2)))) c 0
  have hread : readCallback w module p r = .ok (w', user) := by
    unfold readCallback
    rw [hrec]
    dsimp only
    rw [if_neg hr, hresult]
    exact hcall
  have hsplit : w'.trace =
      [e, .stored input (module.pieces.map (fun q => (reg.value.drop q.1).take q.2))] ++ w.trace :=
    htrace
  have hresultOf : reported
      [e, .stored input (module.pieces.map (fun q => (reg.value.drop q.1).take q.2))] = some 0 := by
    cases e <;> exact hreported
  rw [readOutcome_of hrec hread hsplit hresultOf]
  -- the call of the caller's function writes nothing
  have hafter : ∀ trace, contents module input prior (e :: trace) =
      contents module input prior trace := by
    intro trace
    cases e <;> first | rfl | cases hreported
  rw [hafter]
  simp only [contents, if_true]

end

/-! ## What is stored -/

/-- The pieces are the elements, but for the one module that copies too little. -/
theorem pieces_eq {module : ReadModule} (h : module ≠ .vpe6060) (value : List Byte) :
    module.pieces.map (fun q => (value.drop q.1).take q.2) =
      (List.range module.elements).map (Bytes.chunk module.elementSize value) := by
  cases module with
  | vpe6060 => exact absurd rfl h
  | vpe6010 => rfl
  | vpe6040 => rfl
  | vpe6080 => rfl
  | vpe6090 => rfl
  | vpe6180 => rfl
  | vpe6190 => rfl

theorem inputSize_le (module : ReadModule) : inputSize module ≤ 256 := by
  cases module <;> decide

theorem length_chunk {module : ReadModule} (reg : WlmioRegisterAccess) {i : Nat}
    (hi : i < module.elements) :
    (Bytes.chunk module.elementSize reg.value i).length = module.elementSize := by
  have hle := inputSize_le module
  have hend : i * module.elementSize + module.elementSize ≤ inputSize module := by
    rw [← Nat.succ_mul]
    exact Nat.mul_le_mul_right _ hi
  have hvalue := reg.value_length
  unfold Bytes.chunk
  rw [List.length_take, List.length_drop]
  omega

/-- **Six modules store every byte of their destination.** -/
theorem overlay_whole {module : ReadModule} (h : module ≠ .vpe6060) (reg : WlmioRegisterAccess)
    {prior : List Byte} (hprior : prior.length = inputSize module) :
    Bytes.overlayAll module.elementSize 0 prior
      (module.pieces.map (fun q => (reg.value.drop q.1).take q.2)) =
      reg.value.take (inputSize module) := by
  rw [pieces_eq h, Bytes.overlayAll_full ?_ (Nat.zero_le _), Bytes.flatten_chunks, List.length_map,
    List.length_range, List.take_zero, List.nil_append, Nat.zero_add]
  · have hdrop : prior.drop (module.elements * module.elementSize) = [] :=
      List.drop_of_length_le (Nat.le_of_eq hprior)
    rw [hdrop, List.append_nil]
    rfl
  · intro bs hbs
    obtain ⟨i, hi, rfl⟩ := List.mem_map.mp hbs
    exact length_chunk reg (List.mem_range.mp hi)

/-- The other stores the lower half. -/
theorem overlay_half (reg : WlmioRegisterAccess) (prior : List Byte) :
    Bytes.overlayAll ReadModule.vpe6060.elementSize 0 prior
      (ReadModule.vpe6060.pieces.map (fun q => (reg.value.drop q.1).take q.2)) =
      reg.value.take 2 ++ prior.drop 2 := by
  have hlen : (reg.value.take 2).length = 2 := by
    rw [List.length_take, reg.value_length]
    rfl
  show prior.take 0 ++ reg.value.take 2 ++ prior.drop (0 + (reg.value.take 2).length) = _
  rw [hlen, List.take_zero, List.nil_append]

/-- The lower half with what was behind it is the whole if the upper halves agree. -/
theorem half_eq_iff (reg : WlmioRegisterAccess) (prior : List Byte) :
    reg.value.take 2 ++ prior.drop 2 = reg.value.take 4 ↔
      prior.drop 2 = (reg.value.drop 2).take 2 := by
  have hsplit : reg.value.take 4 = reg.value.take 2 ++ (reg.value.drop 2).take 2 :=
    List.take_add (i := 2) (j := 2)
  rw [hsplit]
  exact ⟨List.append_cancel_left, fun h => by rw [h]⟩

/-! ## Whole values -/

/-- The destination holds the upper half of the register already. -/
def UpperHalfThere (reg : WlmioRegisterAccess) (prior : List Byte) : Prop :=
  prior.drop 2 = (reg.value.drop 2).take 2

/-- **A read delivers the whole value or nothing** unless it is a read of module 6060 that succeeds
while the destination holds something else in its upper half. -/
theorem read_whole_iff {w : World} {module : ReadModule} {p input : Nat}
    {reg : WlmioRegisterAccess} {c : Caller} {r : Int} {prior : List Byte}
    (hrec : recordAt w p = some (.read (some reg) input (some c)))
    (hprior : prior.length = inputSize module) :
    WholeOrNothing module reg prior (readOutcome w module p r prior) ↔
      (module = .vpe6060 → ¬ r < 0 → Readable module reg → UpperHalfThere reg prior) := by
  by_cases hr : r < 0
  · rw [readOutcome_failed hrec hr]
    exact iff_of_true ⟨fun h => by omega, fun _ => rfl⟩ (fun _ h => absurd hr h)
  by_cases hreg : Readable module reg
  · rw [readOutcome_stored hrec hr hreg]
    by_cases hmodule : module = .vpe6060
    · subst hmodule
      rw [overlay_half]
      constructor
      · intro h _ _ _
        exact (half_eq_iff reg prior).mp (h.1 rfl)
      · intro h
        exact ⟨fun _ => (half_eq_iff reg prior).mpr (h rfl hr hreg), fun h => by omega⟩
    · rw [overlay_whole hmodule reg hprior]
      exact iff_of_true ⟨fun _ => rfl, fun h => by omega⟩ (fun h => absurd h hmodule)
  · rw [readOutcome_refused hrec hr hreg]
    exact iff_of_true ⟨fun h => absurd h (by decide), fun _ => rfl⟩ (fun _ _ h => absurd h hreg)

/-- **A read without a reply delivers nothing**: no register has come into the record, the result is
negative (the request timed out), and the destination is as it was. With any other result the
callback would look at a register that is not there. -/
theorem read_nothing_iff {w : World} {module : ReadModule} {p input : Nat} {c : Caller} {r : Int}
    {prior : List Byte} (hrec : recordAt w p = some (.read none input (some c))) :
    readOutcome w module p r prior = some (r, prior) ↔ r < 0 := by
  constructor
  · intro houtcome
    by_contra hr
    have hread : readCallback w module p r = .error .uninitialised := by
      unfold readCallback
      rw [hrec]
      exact if_neg hr
    unfold readOutcome at houtcome
    rw [hrec, hread] at houtcome
    cases houtcome
  · exact readOutcome_failed hrec

/-- A `UINT32` register of one element, 0x04030201. -/
def counterReply : WlmioRegisterAccess :=
  oneElement WLMIO_REGISTER_VALUE_UINT32 [1#8, 2#8, 3#8, 4#8] (by decide)

/-- A record that holds this reply, for a destination at 0. -/
def withReply : World := addRecord started (.read (some counterReply) 0 (some (.user 0)))

theorem read_whole_6190 : WholeOrNothing .vpe6190 counterReply (List.replicate 4 0#8)
    (readOutcome withReply .vpe6190 0 0 (List.replicate 4 0#8)) := by
  have hrec : recordAt withReply 0 = some (.read (some counterReply) 0 (some (.user 0))) := rfl
  exact (read_whole_iff hrec rfl).mpr (fun h => by cases h)

/-- **A read of module 6060 delivers half of its counter**: 0x0201 for 0x04030201. -/
theorem read_half_6060 : readOutcome withReply .vpe6060 0 0 (List.replicate 4 0#8) =
      some (0, [1#8, 2#8, 0#8, 0#8]) ∧
    ¬ WholeOrNothing .vpe6060 counterReply (List.replicate 4 0#8)
      (readOutcome withReply .vpe6060 0 0 (List.replicate 4 0#8)) := by
  decide +kernel

end Wlmio.Proof
