import Wlmio.Proof.RegisterRequest
import Wlmio.Tools.Regtool

/-!
# What was typed

`regtool` narrows the numbers of its command line before it looks at them, parses the values of two
types of registers, and writes as many values as it is given. So what it sends is what was typed
only for some command lines (`arguments_typed_iff`).
-/

namespace Wlmio.Proof

open Wlmio.Client Wlmio.Canard Wlmio.Tools Strtol

/-- The arguments are the integers of the command line, and nothing is written beyond the value. The
program may also have ended with an error. -/
def SendsTyped (l : Long) (node type : List Byte) (values : List (List Byte)) :
    Except Stop Settings → Prop
  | .error .exit => True
  | .error (.fault _) => False
  | .ok s => ∃ n t, typed l node = some n ∧ typed l type = some t ∧
      0 ≤ n ∧ n ≤ 127 ∧ (s.nodeId.toNat : Int) = n ∧
      1 ≤ t ∧ t ≤ 14 ∧ (s.regWrite.type.toNat : Int) = t ∧
      s.regWrite.length.toNat = values.length ∧
      List.Forall₂ (fun element arg => ∃ v, typed l arg = some v ∧
          ElementIs s.regWrite.type.toNat element v)
        (elementsOf s.regWrite.type.toNat s.regWrite.length.toNat s.regWrite.value) values

/-! ## One number -/

theorem convert_cases (l : Long) (arg : List Byte) :
    (typed l arg = none ∧ convert l arg = .error .exit) ∨
      ∃ n, typed l arg = some n ∧ convert l arg = .ok n := by
  unfold convert
  dsimp only
  rcases strtol_cases l arg with ⟨hnone, hbad⟩ | ⟨n, hn, hrange, hend, rfl⟩
  · rw [if_pos hbad]
    exact .inl ⟨hnone, rfl⟩
  · rw [if_neg (by simp [hrange, hend])]
    exact .inr ⟨_, hn, rfl⟩

/-- A number narrowed to an octet. -/
theorem toNat_ofInt8 (n : Int) : ((BitVec.ofInt 8 n).toNat : Int) = n % 256 := by
  rw [BitVec.toNat_ofInt, Int.toNat_of_nonneg (Int.emod_nonneg n (by decide))]
  rfl

/-- A number that is narrowed to an octet and then checked. -/
theorem octet_cases (l : Long) (arg : List Byte) (bad : BitVec 8 → Prop) [DecidablePred bad]
    (rejects : Int → Prop) (hbad : ∀ x, bad x ↔ rejects x.toNat) :
    ((∀ n ∈ typed l arg, rejects (n % 256)) ∧
      (convert l arg >>= fun n =>
        if bad (BitVec.ofInt 8 n) then .error .exit else .ok (BitVec.ofInt 8 n)) = .error .exit) ∨
      ∃ n x, typed l arg = some n ∧ ¬ rejects (n % 256) ∧
        (convert l arg >>= fun n =>
          if bad (BitVec.ofInt 8 n) then .error .exit else .ok (BitVec.ofInt 8 n)) = .ok x ∧
        (x.toNat : Int) = n % 256 := by
  rcases convert_cases l arg with ⟨hnone, hc⟩ | ⟨n, hn, hc⟩
  · rw [hc]
    exact .inl ⟨fun n hn => (nomatch hnone.symm.trans hn), rfl⟩
  · have hx := toNat_ofInt8 n
    rw [hc, Fallible.ok_bind]
    by_cases h : bad (BitVec.ofInt 8 n)
    · refine .inl ⟨fun m hm => ?_, if_pos h⟩
      obtain rfl := Option.some.inj (hn.symm.trans hm)
      exact hx ▸ (hbad _).mp h
    · exact .inr ⟨n, _, hn, hx ▸ fun hr => h ((hbad _).mpr hr), if_neg h, hx⟩

theorem parseNodeId_cases (l : Long) (arg : List Byte) :
    ((∀ n ∈ typed l arg, 127 < n % 256) ∧ parseNodeId l arg = .error .exit) ∨
      ∃ n id, typed l arg = some n ∧ n % 256 ≤ 127 ∧ parseNodeId l arg = .ok id ∧
        (id.toNat : Int) = n % 256 := by
  rcases octet_cases l arg (fun x => 127 < x.toNat) (fun m => 127 < m) (fun x => by omega) with
    hbad | ⟨n, id, hn, hgood, hrun, hid⟩
  · exact .inl hbad
  · exact .inr ⟨n, id, hn, Int.not_lt.mp hgood, hrun, hid⟩

theorem parseType_cases (l : Long) (arg : List Byte) :
    ((∀ t ∈ typed l arg, t % 256 < 1 ∨ 14 < t % 256) ∧ parseType l arg = .error .exit) ∨
      ∃ t type, typed l arg = some t ∧ 1 ≤ t % 256 ∧ t % 256 ≤ 14 ∧ parseType l arg = .ok type ∧
        (type.toNat : Int) = t % 256 := by
  rcases octet_cases l arg (fun x => x.toNat < 1 ∨ 14 < x.toNat) (fun m => m < 1 ∨ 14 < m)
    (fun x => by omega) with hbad | ⟨t, type, ht, hgood, hrun, hid⟩
  · exact .inl hbad
  · exact .inr ⟨t, type, ht, by omega, by omega, hrun, hid⟩

/-! ## The values -/

/-- The bytes of an element. -/
def elementBytes (size : Nat) (n : Int) : List Byte := Bytes.ofNat size (n % 256 ^ size).toNat

/-- An element that fits is written over the bytes there; one that does not leaves the value. -/
theorem storeElement_cases {size : Nat} (i : Nat) (n : Int) (value : RegisterValue)
    (hsize : 0 < size) :
    (size * (i + 1) ≤ 256 ∧ ∃ value', storeElement size i n value = .ok value' ∧
      value'.val = Bytes.overlay value.val (size * i) (elementBytes size n)) ∨
      (256 < size * (i + 1) ∧ storeElement size i n value = .error (.fault .outOfBounds)) := by
  have hbytes := Bytes.length_ofNat size (n % 256 ^ size).toNat
  have hvalue := value.property
  have hnext : size * (i + 1) = size * i + size := Nat.mul_succ size i
  unfold storeElement elementBytes
  split
  · rename_i value' hcopy
    have hfits : ¬ Bytes.copy value.val (size * i) (Bytes.ofNat size (n % 256 ^ size).toNat) 0 size =
        none := by
      rw [hcopy]
      simp
    rw [Bytes.copy_eq_none, hbytes] at hfits
    have hle : size * i + size ≤ value.val.length := by omega
    rw [Bytes.copy_of_le (by omega) hle] at hcopy
    refine .inl ⟨by omega, _, rfl, ?_⟩
    have hall : ((Bytes.ofNat size (n % 256 ^ size).toNat).drop 0).take size =
        Bytes.ofNat size (n % 256 ^ size).toNat := List.take_of_length_le (Nat.le_of_eq hbytes)
    show value' = _
    rw [← Option.some.inj hcopy, hall]
    unfold Bytes.overlay
    rw [hbytes]
  · rename_i hcopy
    rw [Bytes.copy_eq_none, hbytes] at hcopy
    exact .inr ⟨by omega, rfl⟩

/-- A value that cannot be read is reached before the writes leave the array. -/
def Misread (l : Long) (size i : Nat) (args : List (List Byte)) : Prop :=
  ∃ j arg, args[j]? = some arg ∧ typed l arg = none ∧ size * (i + j) ≤ 256

theorem misread_cons {l : Long} {size i : Nat} {arg : List Byte} {args : List (List Byte)} {n : Int}
    (h : typed l arg = some n) : Misread l size i (arg :: args) ↔ Misread l size (i + 1) args := by
  constructor
  · rintro ⟨j, arg', hj, hnone, hle⟩
    cases j with
    | zero =>
        obtain rfl := Option.some.inj hj
        rw [h] at hnone
        cases hnone
    | succ j => exact ⟨j, arg', hj, hnone, by rwa [Nat.add_right_comm]⟩
  · rintro ⟨j, arg', hj, hnone, hle⟩
    exact ⟨j + 1, arg', hj, hnone, by rwa [Nat.add_right_comm] at hle⟩

theorem not_misread {l : Long} {size i : Nat} {args : List (List Byte)} {ns : List Int}
    (h : args.map (typed l) = ns.map some) : ¬ Misread l size i args := by
  rintro ⟨j, arg, hj, hnone, _⟩
  have hmem : none ∈ args.map (typed l) := List.mem_map.mpr ⟨arg, List.mem_of_getElem? hj, hnone⟩
  rw [h] at hmem
  obtain ⟨n, _, hn⟩ := List.mem_map.mp hmem
  cases hn

/-- **The loop over the values** stops at one that cannot be read, leaves the array, or writes them
all. -/
theorem parseElements_cases (l : Long) {size : Nat} (hsize : 0 < size) (args : List (List Byte))
    (i : Nat) (value : RegisterValue) (hi : size * i ≤ 256) :
    (Misread l size i args ∧ parseElements l size i args value = .error .exit) ∨
      (¬ Misread l size i args ∧ 256 < size * (i + args.length) ∧
        parseElements l size i args value = .error (.fault .outOfBounds)) ∨
      ∃ (ns : List Int) (value' : RegisterValue), args.map (typed l) = ns.map some ∧
        size * (i + args.length) ≤ 256 ∧
        parseElements l size i args value = .ok value' ∧
        value'.val = Bytes.overlayAll size (size * i) value.val (ns.map (elementBytes size)) := by
  induction args generalizing i value with
  | nil => exact .inr (.inr ⟨[], value, rfl, hi, rfl, rfl⟩)
  | cons arg args ih =>
      unfold parseElements
      rcases convert_cases l arg with ⟨hnone, hc⟩ | ⟨n, hn, hc⟩
      · rw [hc]
        exact .inl ⟨⟨0, arg, rfl, hnone, hi⟩, rfl⟩
      · rw [hc, Fallible.ok_bind, misread_cons hn]
        have hlen : i + (arg :: args).length = i + 1 + args.length := by
          rw [List.length_cons]
          omega
        rw [hlen]
        rcases storeElement_cases i n value hsize with ⟨hle, value₁, hs, hval⟩ | ⟨hgt, hs⟩
        · rw [hs, Fallible.ok_bind]
          rcases ih (i + 1) value₁ hle with hbad | hout | ⟨ns, value', htyped, hfit, hrun, hval'⟩
          · exact .inl hbad
          · exact .inr (.inl hout)
          · have hcons : (arg :: args).map (typed l) = (n :: ns).map some := by
              rw [List.map_cons, hn, htyped]
              rfl
            refine .inr (.inr ⟨n :: ns, value', hcons, hfit, hrun, ?_⟩)
            rw [hval', hval, List.map_cons, Bytes.overlayAll, Nat.mul_succ]
        · rw [hs]
          refine .inr (.inl ⟨?_, ?_, rfl⟩)
          · rintro ⟨j, arg', _, _, hle⟩
            have := Nat.mul_le_mul_left size (Nat.le_add_right (i + 1) j)
            omega
          · have := Nat.mul_le_mul_left size (Nat.le_add_right (i + 1) args.length)
            omega

/-! ## The register -/

/-- The types that `parse_value` has a branch for, with the size of an element. -/
def branchSize : Nat → Option Nat
  | 11 => some 1
  | 10 => some 2
  | _ => none

theorem branchSize_facts {type size : Nat} (h : branchSize type = some size) :
    (type = 11 ∧ size = 1) ∨ (type = 10 ∧ size = 2) := by
  unfold branchSize at h
  split at h
  · exact .inl ⟨rfl, (Option.some.inj h).symm⟩
  · exact .inr ⟨rfl, (Option.some.inj h).symm⟩
  · cases h

theorem parseValue_branch (l : Long) (args : List (List Byte)) {reg : WlmioRegisterAccess}
    {size : Nat} (h : branchSize reg.type.toNat = some size) :
    parseValue l args reg = parseBranch l size args reg := by
  unfold parseValue
  rcases branchSize_facts h with ⟨htype, rfl⟩ | ⟨htype, rfl⟩
  · rw [htype]
    rfl
  · rw [htype]
    rfl

theorem parseValue_other (l : Long) (args : List (List Byte)) {reg : WlmioRegisterAccess}
    (h : branchSize reg.type.toNat = none) : parseValue l args reg = .ok reg := by
  unfold parseValue
  split
  · rename_i htype
    rw [htype] at h
    cases h
  · split
    · rename_i htype
      rw [htype] at h
      cases h
    · rfl

/-- What an integer becomes in an element of so many bytes. -/
def narrowed (size : Nat) (n : Int) : Nat := (n % 256 ^ size).toNat

theorem narrowed_lt (size : Nat) (n : Int) : narrowed size n < 256 ^ size := by
  have hpos : (0 : Int) < 256 ^ size := Int.pow_pos (by decide)
  have hlt := Int.emod_lt_of_pos n hpos
  have hnonneg := Int.emod_nonneg n (Int.ne_of_gt hpos)
  unfold narrowed
  exact (Int.toNat_lt hnonneg).mpr (by exact_mod_cast hlt)

theorem narrowed_eq_iff (size : Nat) (n : Int) :
    n = narrowed size n ↔ 0 ≤ n ∧ n < 256 ^ size := by
  have hpos : (0 : Int) < 256 ^ size := Int.pow_pos (by decide)
  have hcast : (narrowed size n : Int) = n % 256 ^ size :=
    Int.toNat_of_nonneg (Int.emod_nonneg n (Int.ne_of_gt hpos))
  rw [hcast]
  constructor
  · intro h
    exact ⟨h ▸ Int.emod_nonneg n (Int.ne_of_gt hpos), h ▸ Int.emod_lt_of_pos n hpos⟩
  · rintro ⟨hnonneg, hlt⟩
    exact (Int.emod_eq_of_lt hnonneg hlt).symm

/-- The elements of a register that has been filled from the start. -/
theorem elements_filled {type size : Nat} (h : branchSize type = some size) (ns : List Int)
    (value : List Byte) :
    elementsOf type ns.length (Bytes.overlayAll size 0 value (ns.map (elementBytes size))) =
      ns.map (narrowed size) := by
  have hgroups : ∀ bs ∈ ns.map (elementBytes size), bs.length = size := by
    intro bs hbs
    obtain ⟨n, _, rfl⟩ := List.mem_map.mp hbs
    exact Bytes.length_ofNat size _
  have hflat : (ns.map (elementBytes size)).flatten =
      (ns.map (narrowed size)).flatMap (Bytes.ofNat size) := by
    rw [List.flatMap_map, List.flatMap_def]
    rfl
  have hwords : elementsOf type ns.length
      (Bytes.overlayAll size 0 value (ns.map (elementBytes size))) = Bytes.words size ns.length
        (Bytes.overlayAll size 0 value (ns.map (elementBytes size))) := by
    rcases branchSize_facts h with ⟨rfl, rfl⟩ | ⟨rfl, rfl⟩
    · rfl
    · rfl
  have hread := Bytes.words_flatMap_ofNat size (ns.map (narrowed size)) (fun n hn => by
    obtain ⟨m, _, rfl⟩ := List.mem_map.mp hn
    exact narrowed_lt size m)
  have hlength : ns.length * size =
      ((ns.map (narrowed size)).flatMap (Bytes.ofNat size)).length := by
    rw [← hflat, List.length_flatten, List.map_congr_left hgroups, List.map_const',
      List.sum_replicate_nat, List.length_map]
  rw [List.length_map] at hread
  rw [hwords, Bytes.overlayAll_full hgroups (Nat.zero_le _), List.take_zero, List.nil_append, hflat,
    ← Bytes.words_take, hlength, List.take_left, hread]

/-- **A branch** ends like its loop. Where it goes through, the register has the values from the
start on. -/
theorem parseBranch_cases (l : Long) {size : Nat} {reg : WlmioRegisterAccess}
    (h : branchSize reg.type.toNat = some size) (args : List (List Byte)) :
    (Misread l size 0 args ∧ parseBranch l size args reg = .error .exit) ∨
      (¬ Misread l size 0 args ∧ 256 < size * args.length ∧
        parseBranch l size args reg = .error (.fault .outOfBounds)) ∨
      ∃ (ns : List Int) (reg' : WlmioRegisterAccess), args.map (typed l) = ns.map some ∧
        size * args.length ≤ 256 ∧ parseBranch l size args reg = .ok reg' ∧
        reg'.type = reg.type ∧ reg'.length.toNat = args.length ∧
        elementsOf reg.type.toNat args.length reg'.value = ns.map (narrowed size) := by
  have hpos : 0 < size := by
    have := branchSize_facts h
    omega
  have hloop := parseElements_cases l hpos args 0 ⟨reg.value, reg.value_length⟩ (Nat.zero_le _)
  rw [Nat.zero_add] at hloop
  unfold parseBranch
  rcases hloop with ⟨hbad, hrun⟩ | ⟨hgood, hout, hrun⟩ | ⟨ns, value', htyped, hfit, hrun, hval⟩
  · rw [hrun]
    exact .inl ⟨hbad, rfl⟩
  · rw [hrun]
    exact .inr (.inl ⟨hgood, hout, rfl⟩)
  · have hcount : ns.length = args.length := by
      have := congrArg List.length htyped
      rwa [List.length_map, List.length_map, eq_comm] at this
    have hlength : (BitVec.ofNat 16 args.length).toNat = args.length := by
      have := Nat.le_mul_of_pos_left args.length hpos
      rw [BitVec.toNat_ofNat]
      omega
    have helements := elements_filled h ns reg.value
    rw [← Nat.mul_zero size, ← hval, hcount] at helements
    rw [hrun]
    exact .inr (.inr ⟨ns, _, htyped, hfit, rfl, rfl, hlength, helements⟩)

theorem elementIs_branch {type size : Nat} (h : branchSize type = some size) (element : Nat)
    (n : Int) : ElementIs type element n ↔ n = element := by
  rcases branchSize_facts h with ⟨rfl, rfl⟩ | ⟨rfl, rfl⟩
  · exact Iff.rfl
  · exact Iff.rfl

/-- The elements are the integers typed where each is in the range of the type. -/
theorem elements_typed_iff {l : Long} {type size : Nat} (h : branchSize type = some size)
    {args : List (List Byte)} {ns : List Int} (htyped : args.map (typed l) = ns.map some) :
    List.Forall₂ (fun element arg => ∃ v, typed l arg = some v ∧ ElementIs type element v)
        (ns.map (narrowed size)) args ↔
      ∀ arg ∈ args, ∃ v, typed l arg = some v ∧ 0 ≤ v ∧ v < 256 ^ size := by
  induction args generalizing ns with
  | nil =>
      obtain rfl : ns = [] := List.map_eq_nil_iff.mp htyped.symm
      exact ⟨fun _ arg harg => absurd harg List.not_mem_nil, fun _ => .nil⟩
  | cons arg args ih =>
      cases ns with
      | nil => cases htyped
      | cons n ns =>
          rw [List.map_cons, List.map_cons] at htyped
          obtain ⟨harg, hargs⟩ := List.cons.inj htyped
          have hone : (∃ v, typed l arg = some v ∧ ElementIs type (narrowed size n) v) ↔
              ∃ v, typed l arg = some v ∧ 0 ≤ v ∧ v < 256 ^ size := by
            refine exists_congr fun v => and_congr_right fun hv => ?_
            obtain rfl := Option.some.inj (harg.symm.trans hv)
            rw [elementIs_branch h, narrowed_eq_iff]
          rw [List.map_cons, List.forall₂_cons, List.forall_mem_cons, hone, ih hargs]

/-! ## The command line -/

/-- What makes the program end with an error. -/
inductive EndsWithError (l : Long) (node type : List Byte) (values : List (List Byte)) : Prop
  | node : (∀ n ∈ typed l node, 127 < n % 256) → EndsWithError l node type values
  | type : (∀ t ∈ typed l type, t % 256 < 1 ∨ 14 < t % 256) → EndsWithError l node type values
  | value {t : Int} {size : Nat} : typed l type = some t →
      branchSize (t % 256).toNat = some size → Misread l size 0 values →
      EndsWithError l node type values

/-- What has a place in the request: a node and a type that an octet can hold, of a type that is
parsed, and no more values than there is room for, each in its range. -/
structure Representable (l : Long) (node type : List Byte) (values : List (List Byte)) : Prop where
  node : ∃ n, typed l node = some n ∧ 0 ≤ n ∧ n ≤ 127
  values : ∃ t size, typed l type = some t ∧ 0 ≤ t ∧ branchSize t.toNat = some size ∧
    size * values.length ≤ 256 ∧ ∀ arg ∈ values, ∃ v, typed l arg = some v ∧ 0 ≤ v ∧ v < 256 ^ size

/-- With a node and a type that are accepted, only a value can end the program. -/
theorem endsWithError_iff {l : Long} {node type : List Byte} {values : List (List Byte)} {n t : Int}
    (hn : typed l node = some n) (hsmall : n % 256 ≤ 127) (ht : typed l type = some t)
    (hlow : 1 ≤ t % 256) (hhigh : t % 256 ≤ 14) :
    EndsWithError l node type values ↔
      ∃ size, branchSize (t % 256).toNat = some size ∧ Misread l size 0 values := by
  constructor
  · rintro (hnode | htype | ⟨hu, hsize, hbad⟩)
    · have := hnode n hn
      omega
    · have := htype t ht
      omega
    · obtain rfl := Option.some.inj (ht.symm.trans hu)
      exact ⟨_, hsize, hbad⟩
  · rintro ⟨size, hsize, hbad⟩
    exact .value ht hsize hbad

theorem branchSize_mod {t : Int} {size : Nat} (ht : 0 ≤ t) (h : branchSize t.toNat = some size) :
    t % 256 = t := by
  have := branchSize_facts h
  omega

/-- With the integers that were typed, and the size of an element. -/
theorem representable_iff {l : Long} {node type : List Byte} {values : List (List Byte)} {n t : Int}
    (hn : typed l node = some n) (ht : typed l type = some t) :
    Representable l node type values ↔ (0 ≤ n ∧ n ≤ 127) ∧ 0 ≤ t ∧ t % 256 = t ∧
      ∃ size, branchSize (t % 256).toNat = some size ∧ size * values.length ≤ 256 ∧
        ∀ arg ∈ values, ∃ v, typed l arg = some v ∧ 0 ≤ v ∧ v < 256 ^ size := by
  constructor
  · rintro ⟨⟨m, hm, hnode⟩, ⟨u, size, hu, hnonneg, hsize, hfits, hvalues⟩⟩
    obtain rfl := Option.some.inj (hn.symm.trans hm)
    obtain rfl := Option.some.inj (ht.symm.trans hu)
    have hmod := branchSize_mod hnonneg hsize
    exact ⟨hnode, hnonneg, hmod, size, hmod.symm ▸ hsize, hfits, hvalues⟩
  · rintro ⟨hnode, hnonneg, hmod, size, hsize, hfits, hvalues⟩
    exact ⟨⟨n, hn, hnode⟩, ⟨t, size, ht, hnonneg, hmod ▸ hsize, hfits, hvalues⟩⟩

/-- What is left to say of a program that has not ended. -/
theorem sendsTyped_ok_iff {l : Long} {node type : List Byte} {values : List (List Byte)} {n t : Int}
    {s : Settings} (hn : typed l node = some n) (hsmall : n % 256 ≤ 127)
    (hid : (s.nodeId.toNat : Int) = n % 256) (ht : typed l type = some t) (hlow : 1 ≤ t % 256)
    (hhigh : t % 256 ≤ 14) (htype : (s.regWrite.type.toNat : Int) = t % 256)
    (hlength : s.regWrite.length.toNat = values.length) :
    SendsTyped l node type values (.ok s) ↔ (0 ≤ n ∧ n ≤ 127) ∧ 0 ≤ t ∧ t % 256 = t ∧
      List.Forall₂ (fun element arg => ∃ v, typed l arg = some v ∧
          ElementIs (t % 256).toNat element v)
        (elementsOf (t % 256).toNat values.length s.regWrite.value) values := by
  have htypeNat : s.regWrite.type.toNat = (t % 256).toNat := by omega
  unfold SendsTyped
  dsimp only
  rw [hlength, htypeNat]
  constructor
  · rintro ⟨m, u, hm, hu, hm0, hm127, _, hu1, hu14, hutype, _, helements⟩
    obtain rfl := Option.some.inj (hn.symm.trans hm)
    obtain rfl := Option.some.inj (ht.symm.trans hu)
    exact ⟨⟨hm0, hm127⟩, by omega, by omega, helements⟩
  · rintro ⟨⟨hn0, hn127⟩, _, _, helements⟩
    exact ⟨n, t, hn, ht, hn0, hn127, by omega, by omega, by omega, by omega, rfl, helements⟩

/-- **What was typed is sent exactly when** the program ends with an error, or all of it has a place
in the request. -/
theorem arguments_typed_iff (l : Long) (prog node name type value : List Byte)
    (values : List (List Byte)) :
    SendsTyped l node type (value :: values)
        (parseArguments l (prog :: node :: name :: type :: value :: values) .zero) ↔
      EndsWithError l node type (value :: values) ∨ Representable l node type (value :: values) := by
  unfold parseArguments
  dsimp only
  rcases parseNodeId_cases l node with ⟨hnode, hrun⟩ | ⟨n, id, hn, hsmall, hrun, hid⟩
  · rw [hrun]
    exact iff_of_true trivial (.inl (.node hnode))
  rw [hrun, Fallible.ok_bind]
  rcases parseType_cases l type with ⟨htype, hrun⟩ | ⟨t, type', ht, hlow, hhigh, hrun, htype'⟩
  · rw [hrun]
    exact iff_of_true trivial (.inl (.type htype))
  rw [hrun, Fallible.ok_bind, endsWithError_iff hn hsmall ht hlow hhigh, representable_iff hn ht]
  have hnat : type'.toNat = (t % 256).toNat := by omega
  cases hsize : branchSize (t % 256).toNat with
  | none =>
      rw [parseValue_other l _ (hnat ▸ hsize)]
      refine iff_of_false ?_ ?_
      · rintro ⟨_, _, _, _, _, _, _, _, _, _, hlength, _⟩
        cases hlength
      · rintro (⟨size, h, _⟩ | ⟨_, _, _, size, h, _⟩)
        · cases h
        · cases h
  | some size =>
      have hbranch : branchSize
          ({ Settings.zero.regWrite with type := type' } : WlmioRegisterAccess).type.toNat =
            some size := hnat ▸ hsize
      rw [parseValue_branch l _ hbranch]
      rcases parseBranch_cases l hbranch (value :: values) with
        ⟨hbad, hrun⟩ | ⟨hgood, hout, hrun⟩ | ⟨ns, reg, htyped, hfit, hrun, hreg, hlength, helements⟩
      · rw [hrun]
        exact iff_of_true trivial (.inl ⟨size, rfl, hbad⟩)
      · rw [hrun]
        refine iff_of_false (fun h => h) ?_
        rintro (⟨size', h, hbad⟩ | ⟨_, _, _, size', h, hfit, _⟩)
        · cases h
          exact hgood hbad
        · cases h
          omega
      · have hgood : ¬ Misread l size 0 (value :: values) := not_misread htyped
        rw [hrun]
        refine (sendsTyped_ok_iff hn hsmall hid ht hlow hhigh ?_ hlength).trans ?_
        · rw [hreg]
          exact htype'
        show _ ∧ _ ∧ _ ∧ List.Forall₂ _ (elementsOf _ _ reg.value) _ ↔ _
        rw [← hnat, helements, elements_typed_iff hbranch htyped]
        constructor
        · rintro ⟨hnode, hnonneg, hmod, hvalues⟩
          exact .inr ⟨hnode, hnonneg, hmod, size, rfl, hfit, hvalues⟩
        · rintro (⟨size', h, hbad⟩ | ⟨hnode, hnonneg, hmod, size', h, _, hvalues⟩)
          · cases h
            exact absurd hbad hgood
          · cases h
            exact ⟨hnode, hnonneg, hmod, hvalues⟩

/-- Node 300 is typed, and the request goes to node 44. -/
theorem node_wraps :
    ¬ SendsTyped ⟨64, by decide⟩ [51#8, 48#8, 48#8] [49#8, 49#8] [[53#8]]
        (parseArguments ⟨64, by decide⟩
          [[], [51#8, 48#8, 48#8], [97#8], [49#8, 49#8], [53#8]] .zero) := by
  have hnode : parseNodeId ⟨64, by decide⟩ [51#8, 48#8, 48#8] = .ok 44#8 := by decide
  have htype : parseType ⟨64, by decide⟩ [49#8, 49#8] = .ok 11#8 := by decide
  have hvalue : [[53#8]].map (typed ⟨64, by decide⟩) = [5].map some := by decide
  have hbranch : branchSize
      ({ Settings.zero.regWrite with type := 11#8 } : WlmioRegisterAccess).type.toNat = some 1 := rfl
  have hrun : ∃ s, parseArguments ⟨64, by decide⟩
      [[], [51#8, 48#8, 48#8], [97#8], [49#8, 49#8], [53#8]] .zero = .ok s := by
    unfold parseArguments
    dsimp only
    rw [hnode, Fallible.ok_bind, htype, Fallible.ok_bind, parseValue_branch _ _ hbranch]
    rcases parseBranch_cases _ hbranch [[53#8]] with
      ⟨hbad, _⟩ | ⟨_, hout, _⟩ | ⟨_, _, _, _, hrun, _⟩
    · exact absurd hbad (not_misread hvalue)
    · exact absurd hout (by decide)
    · rw [hrun]
      exact ⟨_, rfl⟩
  obtain ⟨s, hs⟩ := hrun
  rw [hs]
  rintro ⟨n, t, hn, _, _, hle, _⟩
  have htyped : typed ⟨64, by decide⟩ [51#8, 48#8, 48#8] = some 300 := by decide
  obtain rfl := Option.some.inj (htyped.symm.trans hn)
  omega

end Wlmio.Proof
