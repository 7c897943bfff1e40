import Wlmio.Canard.DsdlBits

/-!
# Serialised records

A record is serialised by setting its fields, each at its own bits, and read by getting them
again. Whatever the fields are, how they lie to the byte boundaries, and in which order they
are set, each reads back as what fits of its value, and nothing else in the buffer changes
(`record_round_trip`). A getter does not need the record to be whole: what the buffer does
not have reads as zero (`fields_read`).
-/

namespace Wlmio.Proof

open Canard BitString

/-- A field of a record and its value. -/
structure Field where
  offBit : Nat
  lenBit : Nat
  value : Int

/-- The fields are set one after the other. -/
def setFields : List Field → List Byte → Option (List Byte)
  | [], buf => some buf
  | f :: fields, buf => do
    let buf ← canardDSDLSetIxx buf f.offBit f.value f.lenBit
    setFields fields buf

/-- They do not overlap. -/
def Field.Apart (f g : Field) : Prop :=
  f.offBit + f.lenBit ≤ g.offBit ∨ g.offBit + g.lenBit ≤ f.offBit

/-- A bit is not one of the field's. -/
def Field.Avoids (f : Field) (i : Nat) : Prop := i < f.offBit ∨ f.offBit + f.lenBit ≤ i

/-- The field is in the buffer, and a value of the setters' type can fill it. -/
structure Field.Fits (f : Field) (buf : List Byte) : Prop where
  len : f.lenBit ≤ 64
  room : f.offBit + f.lenBit ≤ buf.length * 8

/-- **One field**: it has its value, and the bits of the others are as before. -/
theorem set_field {f : Field} {buf : List Byte} (h : f.Fits buf) :
    ∃ out, canardDSDLSetIxx buf f.offBit f.value f.lenBit = some out ∧ out.length = buf.length ∧
      bitsAt out f.offBit f.lenBit = (f.value % 2 ^ f.lenBit).toNat ∧
      ∀ i, f.Avoids i → bit out i = bit buf i := by
  have hlen := h.len
  have hmin : min f.lenBit 64 = f.lenBit := Nat.min_eq_left hlen
  obtain ⟨out, hout, hmoved⟩ := @canardDSDLSetUxx_moved buf f.offBit f.lenBit
    (by rw [hmin]; exact h.room) (f.value % 2 ^ 64).toNat
  rw [hmin] at hmoved
  refine ⟨out, hout, hmoved.length, ?_, fun i hi => hmoved.outside hi⟩
  rw [bitsAt_moved hlen hmoved]
  -- the low bits of the value are those of its 64-bit form
  have hdvd : (2 : Int) ^ f.lenBit ∣ 2 ^ 64 := pow_dvd_pow 2 hlen
  have hnonneg : 0 ≤ f.value % 2 ^ 64 := Int.emod_nonneg _ (by decide)
  have hnonneg' : 0 ≤ f.value % 2 ^ f.lenBit := Int.emod_nonneg _ (pow_ne_zero _ (by decide))
  refine Int.ofNat_inj.mp ?_
  rw [Int.natCast_emod, Int.toNat_of_nonneg hnonneg, Int.toNat_of_nonneg hnonneg', Nat.cast_pow]
  exact Int.emod_emod_of_dvd _ hdvd

/-- What the getters of any width that is enough make of a field. -/
theorem get_field {f : Field} {buf : List Byte}
    (h : bitsAt buf f.offBit f.lenBit = (f.value % 2 ^ f.lenBit).toNat) {w : Nat}
    (hw : f.lenBit ≤ w * 8) :
    canardDSDLGetUxx (w * 8) buf f.offBit f.lenBit = some (f.value % 2 ^ f.lenBit).toNat ∧
      canardDSDLGetIxx (w * 8) buf f.offBit f.lenBit = some (f.value.bmod (2 ^ f.lenBit)) := by
  have hnonneg : 0 ≤ f.value % 2 ^ f.lenBit := Int.emod_nonneg _ (pow_ne_zero _ (by decide))
  rw [canardDSDLGetUxx_field, canardDSDLGetIxx_field, Nat.min_eq_left hw, h,
    Int.toNat_of_nonneg hnonneg]
  refine ⟨rfl, congrArg some ?_⟩
  have hcast : (2 : Int) ^ f.lenBit = ((2 ^ f.lenBit : Nat) : Int) := by push_cast; rfl
  rw [hcast]
  exact Int.emod_bmod _ _

theorem set_fields {fields : List Field} : ∀ {buf : List Byte}, (∀ f ∈ fields, f.Fits buf) →
    fields.Pairwise Field.Apart →
    ∃ out, setFields fields buf = some out ∧ out.length = buf.length ∧
      (∀ f ∈ fields, bitsAt out f.offBit f.lenBit = (f.value % 2 ^ f.lenBit).toNat) ∧
      ∀ i, (∀ f ∈ fields, f.Avoids i) → bit out i = bit buf i := by
  induction fields with
  | nil => exact fun _ _ => ⟨_, rfl, rfl, fun f hf => (nomatch hf), fun _ _ => rfl⟩
  | cons f fields ih =>
      intro buf hfits hapart
      obtain ⟨hf, hrest⟩ := List.forall_mem_cons.mp hfits
      obtain ⟨hfapart, hapart⟩ := List.pairwise_cons.mp hapart
      obtain ⟨mid, hmid, hlen, hvalue, hkeep⟩ := set_field hf
      obtain ⟨out, hout, hlen', hvalues, hkeeps⟩ := @ih mid
        (fun g hg => ⟨(hrest g hg).len, by rw [hlen]; exact (hrest g hg).room⟩) hapart
      refine ⟨out, ?_, hlen'.trans hlen, ?_, ?_⟩
      · rw [setFields, hmid]
        exact hout
      · refine List.forall_mem_cons.mpr ⟨?_, hvalues⟩
        -- the fields that are set later do not touch this one
        rw [← hvalue]
        refine bitsAt_congr fun i hlow hhigh => hkeeps i fun g hg => ?_
        rcases hfapart g hg with h | h
        · exact .inl (by omega)
        · exact .inr (by omega)
      · intro i hi
        obtain ⟨hi, his⟩ := List.forall_mem_cons.mp hi
        rw [hkeeps i his, hkeep i hi]

/-- **A record reads back.** Fields that do not overlap are set in whatever order; then every getter
that is wide enough gets what fits of the value, signed or not, and the rest of the buffer is as it
was. -/
theorem record_round_trip {fields : List Field} {buf : List Byte} (hfits : ∀ f ∈ fields, f.Fits buf)
    (hapart : fields.Pairwise Field.Apart) :
    ∃ out, setFields fields buf = some out ∧ out.length = buf.length ∧
      (∀ f ∈ fields, ∀ w, f.lenBit ≤ w * 8 →
        canardDSDLGetUxx (w * 8) out f.offBit f.lenBit = some (f.value % 2 ^ f.lenBit).toNat ∧
        canardDSDLGetIxx (w * 8) out f.offBit f.lenBit = some (f.value.bmod (2 ^ f.lenBit))) ∧
      ∀ i, (∀ f ∈ fields, f.Avoids i) → bit out i = bit buf i := by
  obtain ⟨out, hout, hlen, hvalues, hkeep⟩ := set_fields hfits hapart
  exact ⟨out, hout, hlen, fun f hf w hw => get_field (hvalues f hf) hw, hkeep⟩

/-- Two fields across a byte boundary, one of them signed. -/
theorem record_round_trip_two :
    ∃ out, setFields [⟨3, 7, -5⟩, ⟨10, 11, 1234⟩] [0#8, 0#8, 0#8] = some out ∧
      out.length = [0#8, 0#8, 0#8].length ∧
      (∀ f ∈ [Field.mk 3 7 (-5), ⟨10, 11, 1234⟩], ∀ w, f.lenBit ≤ w * 8 →
        canardDSDLGetUxx (w * 8) out f.offBit f.lenBit = some (f.value % 2 ^ f.lenBit).toNat ∧
        canardDSDLGetIxx (w * 8) out f.offBit f.lenBit = some (f.value.bmod (2 ^ f.lenBit))) ∧
      ∀ i, (∀ f ∈ [Field.mk 3 7 (-5), ⟨10, 11, 1234⟩], f.Avoids i) →
        bit out i = bit [0#8, 0#8, 0#8] i := by
  refine record_round_trip ?_ ?_
  · exact List.forall_mem_cons.mpr ⟨⟨by decide, by decide⟩,
      List.forall_mem_cons.mpr ⟨⟨by decide, by decide⟩, fun f hf => (nomatch hf)⟩⟩
  · refine List.pairwise_cons.mpr ⟨fun g hg => ?_, List.pairwise_singleton _ _⟩
    rw [List.mem_singleton.mp hg]
    exact .inl (by decide)

/-- **A getter reads its field** of the buffer as if it went on with zeros, whatever the offset, the
length and the buffer: bit by bit if the value is unsigned, and as two's complement of the length if
it is signed. -/
theorem fields_read (w : Nat) (buf : List Byte) (offBit lenBit : Nat) :
    ∃ n, canardDSDLGetUxx (w * 8) buf offBit lenBit = some n ∧
      (∀ i, n.testBit i = (decide (i < min lenBit (w * 8)) && bit buf (offBit + i))) ∧
      canardDSDLGetIxx (w * 8) buf offBit lenBit =
        some ((n : Int).bmod (2 ^ min lenBit (w * 8))) :=
  ⟨_, canardDSDLGetUxx_field w buf offBit lenBit, testBit_bitsAt buf offBit _,
    canardDSDLGetIxx_field w buf offBit lenBit⟩

/-- **The builds agree**: with and without the option for little-endian platforms, the setters leave
the same bytes and the getters return the same numbers. -/
theorem builds_agree (w : Nat) (buf : List Byte) (offBit lenBit value : Nat) :
    canardDSDLSetUxxGeneric buf offBit value lenBit = canardDSDLSetUxx buf offBit value lenBit ∧
      canardDSDLGetUxxGeneric (w * 8) buf offBit lenBit =
        canardDSDLGetUxx (w * 8) buf offBit lenBit := by
  unfold canardDSDLSetUxxGeneric canardDSDLGetUxxGeneric canardDSDLSetUxx canardDSDLGetUxx
  dsimp only
  refine ⟨by rw [bytes_of_value], ?_⟩
  have hjoin : joinBytes 0 = Bytes.toNat := by
    funext bs
    rw [joinBytes_eq, Nat.mul_zero, Nat.pow_zero, Nat.mul_one]
  rw [hjoin]

end Wlmio.Proof
