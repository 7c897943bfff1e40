import Wlmio.Proof.NodeInfo
import Wlmio.Pywlmio.Listing
import Wlmio.Tools.Regtool

/-!
# Enumerating the registers of a node

A node has a table of registers, and serves their names by index: from the first index without a
register on, the name is empty. Two loops go through it, `Node.list_registers` of the Python
binding and `dump_registers` of `regtool`.
-/

namespace Wlmio.Proof

open Wlmio.Client Wlmio.Canard Wlmio.Pywlmio Wlmio.Tools

/-! ## The table of a node -/

/-- The name of a register. -/
structure RegisterName where
  bytes : List Byte
  nonempty : bytes ≠ []
  length_le : bytes.length ≤ 50

/-- The name that is served at an index. -/
def nameAt (table : List RegisterName) (i : Nat) : List Byte :=
  match table[i]? with
  | some name => name.bytes
  | none => []

/-- A buffer for a name, filled up with zeros. -/
def nameBuffer (name : List Byte) : List Byte := name ++ List.replicate (51 - name.length) 0#8

theorem cString_zeros (s : List Byte) (n : Nat) :
    cString (s ++ List.replicate n 0#8) = cString s := by
  induction s with
  | nil =>
      cases n with
      | zero => rfl
      | succ n => rfl
  | cons b s ih =>
      unfold cString at ih ⊢
      rw [List.cons_append, List.takeWhile_cons, List.takeWhile_cons, ih]

/-! ## `Node.list_registers` -/

/-- The requests that fail, each with the errno it reports. -/
abbrev Failures := Nat → Option { e : Int // 0 < e }

/-- What the request at an index completes with, and the content of its buffer. -/
def listReply (table : List RegisterName) (fails : Failures) (i : Nat) : Int × List Byte :=
  match fails i with
  | some e => (-e.val, [])
  | none => (0, nameBuffer (nameAt table i))

/-- The names are those of the table, and no request has failed; or the last request was the first
to fail, and its errno is raised. -/
def ListedCleanly (table : List RegisterName) (fails : Failures) : Except Fault Listing → Prop
  | .ok ⟨requests, .ok names⟩ =>
    names.map some = table.map (fun name => decodeUtf8 name.bytes) ∧ ∀ i < requests, fails i = none
  | .ok ⟨requests, .error (.wlmioInternalError errno)⟩ =>
    ∃ i, requests = i + 1 ∧ (fails i).map Subtype.val = some errno ∧ ∀ j < i, fails j = none
  | _ => False

/-- The name is a C string of UTF-8. -/
def RegisterName.IsText (name : RegisterName) : Prop :=
  0#8 ∉ name.bytes ∧ ∃ s, decodeUtf8 name.bytes = some s

theorem utf8_of_decode {bytes : List Byte} {s : String} (h : decodeUtf8 bytes = some s) :
    s.toByteArray = ⟨(bytes.map UInt8.ofBitVec).toArray⟩ := by
  unfold decodeUtf8 String.fromUTF8? at h
  split at h
  · rw [← Option.some.inj h]
    rfl
  · cases h

theorem decodeUtf8_inj {bytes bytes' : List Byte} {s : String} (h : decodeUtf8 bytes = some s)
    (h' : decodeUtf8 bytes' = some s) : bytes = bytes' := by
  have heq := (utf8_of_decode h).symm.trans (utf8_of_decode h')
  have hlist : (bytes.map UInt8.ofBitVec).toArray = (bytes'.map UInt8.ofBitVec).toArray :=
    ByteArray.mk.inj heq
  refine List.map_injective_iff.mpr (fun a b hab => ?_) (List.toArray_inj hlist)
  exact UInt8.ofBitVec.inj hab

theorem decodeUtf8_eq_empty {bytes : List Byte} (h : decodeUtf8 bytes = some "") : bytes = [] :=
  decodeUtf8_inj h (by rfl)

/-- A request that fails ends the listing with an error of another kind. -/
theorem listFrom_raises {reply : Nat → Int × List Byte} {n i requests : Nat} {names : List String}
    {e : NodeError} (h : listFrom reply n i names = .ok ⟨requests, .error e⟩) : e = .typeError := by
  induction n generalizing i names with
  | zero => cases h
  | succ n ih =>
      unfold listFrom at h
      obtain ⟨r, _, h⟩ := Fallible.bind_eq_ok.mp h
      split at h
      · cases h
        rfl
      · split at h
        · cases h
        · exact ih h

/-! ### One request -/

theorem callback_failed {table : List RegisterName} {fails : Failures} {i : Nat}
    {e : { e : Int // 0 < e }} (h : fails i = some e) :
    registerListCallback (listReply table fails i).1 (listReply table fails i).2 = .ok (-e.val, none) := by
  have hneg : -e.val < 0 := Int.neg_neg_of_pos e.property
  unfold listReply
  rw [h]
  exact if_pos hneg

theorem callback_served {table : List RegisterName} {fails : Failures} {i : Nat}
    (h : fails i = none) :
    registerListCallback (listReply table fails i).1 (listReply table fails i).2 =
      match decodeUtf8 (cString (nameAt table i)) with
      | some value => .ok (0, some value)
      | none => .error .nullDereference := by
  have hname : cString (nameBuffer (nameAt table i)) = cString (nameAt table i) := cString_zeros _ _
  rw [← hname]
  unfold listReply registerListCallback
  rw [h]
  exact if_neg (Int.lt_irrefl 0)

/-- A request that fails stops the listing. -/
theorem listFrom_failed {table : List RegisterName} {fails : Failures} {n i : Nat}
    {names : List String} {e : { e : Int // 0 < e }} (h : fails i = some e) :
    listFrom (listReply table fails) (n + 1) i names = .ok ⟨i + 1, .error .typeError⟩ := by
  unfold listFrom
  rw [callback_failed h]
  rfl

theorem listFrom_served {table : List RegisterName} {fails : Failures} {n i : Nat}
    {names : List String} {s : String} (h : fails i = none)
    (hs : decodeUtf8 (cString (nameAt table i)) = some s) :
    listFrom (listReply table fails) (n + 1) i names =
      if s = "" then .ok ⟨i + 1, .ok names⟩
      else listFrom (listReply table fails) n (i + 1) (names ++ [s]) := by
  rw [listFrom, callback_served h, hs]
  rfl

theorem listFrom_crashed {table : List RegisterName} {fails : Failures} {n i : Nat}
    {names : List String} (h : fails i = none)
    (hs : decodeUtf8 (cString (nameAt table i)) = none) :
    listFrom (listReply table fails) (n + 1) i names = .error .nullDereference := by
  rw [listFrom, callback_served h, hs]
  rfl

/-! ### The loop -/

/-- What the loop has gone through when it returns: each request has succeeded, and brought the next
name; and so has the last one, unless the range has come to its end. -/
theorem listFrom_returns {table : List RegisterName} {fails : Failures} {n i requests : Nat}
    {names listed : List String}
    (h : listFrom (listReply table fails) n i names = .ok ⟨requests, .ok listed⟩) :
    ∃ new : List String, listed = names ++ new ∧ new.length ≤ n ∧
      (∀ j, (hj : j < new.length) → fails (i + j) = none ∧
        decodeUtf8 (cString (nameAt table (i + j))) = some new[j]) ∧
      (new.length < n → fails (i + new.length) = none) := by
  induction n generalizing i names with
  | zero =>
      obtain ⟨rfl, rfl⟩ : i = requests ∧ names = listed := by
        injection h with h
        injection h with h h'
        injection h' with h'
        exact ⟨h, h'⟩
      exact ⟨[], (List.append_nil _).symm, Nat.le_refl 0, fun j hj => absurd hj (Nat.not_lt_zero j),
        fun hlt => absurd hlt (Nat.lt_irrefl 0)⟩
  | succ n ih =>
      cases hfail : fails i with
      | some e =>
          rw [listFrom_failed hfail] at h
          cases h
      | none =>
          cases hs : decodeUtf8 (cString (nameAt table i)) with
          | none =>
              rw [listFrom_crashed hfail hs] at h
              cases h
          | some s =>
              rw [listFrom_served hfail hs] at h
              split at h
              · cases h
                refine ⟨[], (List.append_nil _).symm, Nat.zero_le _,
                  fun j hj => absurd hj (Nat.not_lt_zero j), fun _ => hfail⟩
              · obtain ⟨new, rfl, hlen, hnew, hlast⟩ := ih h
                refine ⟨s :: new, by rw [List.append_assoc]; rfl, Nat.succ_le_succ hlen, ?_, ?_⟩
                · intro j hj
                  cases j with
                  | zero => exact ⟨hfail, hs⟩
                  | succ j =>
                      rw [Nat.add_succ, ← Nat.succ_add]
                      exact hnew j (Nat.lt_of_succ_lt_succ hj)
                · intro hlt
                  rw [List.length_cons, Nat.add_succ, ← Nat.succ_add]
                  exact hlast (Nat.lt_of_succ_lt_succ hlt)

/-- A table of text is listed to its end, or to that of the range. -/
theorem listFrom_text {fails : Failures} {table : List RegisterName} (before : List RegisterName)
    {rest : List RegisterName} {n i : Nat} (names : List String) (htable : table = before ++ rest)
    (hi : i = before.length) (htext : ∀ name ∈ rest, name.IsText) (hn : rest.length ≤ n)
    (hfails : ∀ j ≤ rest.length, j < n → fails (i + j) = none) :
    ∃ requests new, listFrom (listReply table fails) n i names = .ok ⟨requests, .ok (names ++ new)⟩ ∧
      new.map some = rest.map (fun name => decodeUtf8 name.bytes) ∧
      requests ≤ i + min n (rest.length + 1) := by
  induction rest generalizing before n i names with
  | nil =>
      cases n with
      | zero =>
          refine ⟨i, [], ?_, rfl, Nat.le_add_right _ _⟩
          rw [List.append_nil]
          rfl
      | succ n =>
          have hend : nameAt table i = [] := by
            unfold nameAt
            rw [htable, List.append_nil, List.getElem?_eq_none (by omega)]
          have hs : decodeUtf8 (cString (nameAt table i)) = some "" := by
            rw [hend]
            rfl
          refine ⟨i + 1, [], ?_, rfl, by simp⟩
          rw [listFrom_served (i := i) (hfails 0 (Nat.le_refl 0) (Nat.succ_pos n)) hs, if_pos rfl,
            List.append_nil]
  | cons name rest ih =>
      obtain ⟨n, rfl⟩ : ∃ m, n = m + 1 := ⟨n - 1, by rw [List.length_cons] at hn; omega⟩
      obtain ⟨hname, hrest⟩ := List.forall_mem_cons.mp htext
      obtain ⟨hnul, s, hs⟩ := hname
      have hat : nameAt table i = name.bytes := by
        unfold nameAt
        rw [htable, hi, List.getElem?_append_right (Nat.le_refl _), Nat.sub_self]
        rfl
      have hdecode : decodeUtf8 (cString (nameAt table i)) = some s := by
        rw [hat, cString_eq_self_iff.mpr hnul]
        exact hs
      have hne : s ≠ "" := fun heq => name.nonempty (decodeUtf8_eq_empty (heq ▸ hs))
      rw [listFrom_served (i := i) (hfails 0 (Nat.zero_le _) (Nat.succ_pos n)) hdecode, if_neg hne]
      obtain ⟨requests, new, hrun, hnew, hle⟩ := ih (before ++ [name]) (n := n)
        (i := i + 1) (names ++ [s]) (by rw [htable, List.append_assoc]; rfl)
        (by rw [List.length_append, hi]; rfl) hrest (Nat.le_of_succ_le_succ hn)
        (fun j hj hlt => by
          rw [Nat.add_right_comm]
          exact hfails (j + 1) (Nat.succ_le_succ hj) (Nat.succ_lt_succ hlt))
      refine ⟨requests, s :: new, ?_, ?_, ?_⟩
      · rw [hrun, List.append_assoc]
        rfl
      · rw [List.map_cons, List.map_cons, hnew, hs]
      · rw [List.length_cons]
        omega

/-- A listing that is complete has had no failure, and only names that are text. -/
theorem listFrom_complete {table : List RegisterName} {fails : Failures} {n requests : Nat}
    {listed : List String}
    (h : listFrom (listReply table fails) n 0 [] = .ok ⟨requests, .ok listed⟩)
    (hnames : listed.map some = table.map (fun name => decodeUtf8 name.bytes)) :
    table.length ≤ n ∧ (∀ i ≤ table.length, i < n → fails i = none) ∧
      ∀ name ∈ table, name.IsText := by
  obtain ⟨new, hlisted, hlen, hnew, hlast⟩ := listFrom_returns h
  rw [List.nil_append] at hlisted
  subst hlisted
  have hlength : listed.length = table.length := by
    have := congrArg List.length hnames
    rwa [List.length_map, List.length_map] at this
  refine ⟨by omega, ?_, ?_⟩
  · intro i hi hn
    by_cases hlt : i < listed.length
    · rw [← Nat.zero_add i]
      exact (hnew i hlt).1
    · obtain rfl : i = listed.length := by omega
      rw [← Nat.zero_add listed.length]
      exact hlast hn
  · intro name hname
    obtain ⟨j, hj, rfl⟩ := List.mem_iff_getElem.mp hname
    have hlt : j < listed.length := by omega
    have hs := (hnew j hlt).2
    have hat : nameAt table (0 + j) = table[j].bytes := by
      unfold nameAt
      rw [Nat.zero_add, List.getElem?_eq_getElem hj]
    have hdecode : decodeUtf8 table[j].bytes = some listed[j] := by
      have hget := congrArg (fun l => l[j]?) hnames
      rw [List.getElem?_map, List.getElem?_map, List.getElem?_eq_getElem hj,
        List.getElem?_eq_getElem hlt] at hget
      exact (Option.some.inj hget).symm
    rw [hat] at hs
    -- what has been read up to the first zero is the whole name
    have hself := decodeUtf8_inj hs hdecode
    exact ⟨cString_eq_self_iff.mp hself, _, hdecode⟩

/-- **The names are listed completely, or the failure is reported, exactly when** no request that is
made fails, the table is no longer than the range, and its names are text. -/
theorem list_registers_iff (table : List RegisterName) (fails : Failures) :
    ListedCleanly table fails (listRegisters (listReply table fails)) ↔
      table.length ≤ 65535 ∧ (∀ i ≤ min table.length 65534, fails i = none) ∧
        ∀ name ∈ table, name.IsText := by
  unfold listRegisters
  constructor
  · intro h
    cases hrun : listFrom (listReply table fails) (2 ^ 16 - 1) 0 [] with
    | error f =>
        rw [hrun] at h
        exact h.elim
    | ok listing =>
        obtain ⟨requests, result⟩ := listing
        rw [hrun] at h
        cases result with
        | error e =>
            obtain rfl := listFrom_raises hrun
            exact h.elim
        | ok listed =>
            obtain ⟨hlen, hfails, htext⟩ := listFrom_complete hrun h.1
            exact ⟨hlen, fun i hi => hfails i (by omega) (by omega), htext⟩
  · rintro ⟨hlen, hfails, htext⟩
    have hserved : ∀ j ≤ table.length, j < 2 ^ 16 - 1 → fails (0 + j) = none := by
      intro j hj hlt
      rw [Nat.zero_add]
      exact hfails j (by omega)
    obtain ⟨requests, new, hrun, hnew, hle⟩ := listFrom_text [] [] (List.nil_append table).symm
      List.length_nil.symm htext (by omega) hserved
    rw [hrun]
    exact ⟨hnew, fun i hi => hfails i (by omega)⟩

/-- **A timeout is not reported as such**: the length of `None` is asked for. -/
theorem listing_timeout : ¬ ListedCleanly [⟨[97#8], by decide, by decide⟩]
    (fun _ => some ⟨ETIMEDOUT, by decide⟩)
    (listRegisters (listReply [⟨[97#8], by decide, by decide⟩]
      (fun _ => some ⟨ETIMEDOUT, by decide⟩))) := by
  intro h
  unfold listRegisters at h
  rw [show 2 ^ 16 - 1 = 65534 + 1 from rfl, listFrom_failed rfl] at h
  exact h

/-! ## The list response

The length byte says where the name ends. The handler copies everything behind it.
-/

/-- A list response: length byte, name, and what the node puts behind the name. -/
def listPayload (table : List RegisterName) (trailing : Nat → List Byte) (i : Nat) : List Byte :=
  BitVec.ofNat 8 (nameAt table i).length :: (nameAt table i ++ trailing i)

/-- The response finds a task that was made for a list request. -/
def AwaitsName (w : World) (tfr : CanardTransfer) (t : TaskEntry) : Prop :=
  w.registry.taskWithId (makeRspSpecifier tfr) = some t ∧
    ∃ i, w.bus.issued[t.serial]? = some i ∧ i.service = .registerList

/-- The buffer of the task gets the name, filled up with zeros, and the task completes. -/
def DeliversName (w : World) (tfr : CanardTransfer) (t : TaskEntry) (name : List Byte) : Prop :=
  ∃ buffer delivered, t.param = .name buffer ∧ decodeName tfr.payload = .ok delivered ∧
    registerListResponseHandler w tfr = complete (w.log (.wroteName t.param delivered.val)) t 0 ∧
    delivered.val = nameBuffer name

theorem length_nameBuffer {name : List Byte} (h : name.length ≤ 51) :
    (nameBuffer name).length = 51 := by
  unfold nameBuffer
  rw [List.length_append, List.length_replicate]
  omega

theorem decodeName_ok (b : Byte) {rest : List Byte} (h : rest.length ≤ 51) :
    decodeName (b :: rest) = .ok ⟨nameBuffer rest, length_nameBuffer h⟩ := by
  unfold decodeName
  rw [List.length_cons, Nat.add_sub_cancel]
  split
  · rw [copyField_ok (by rw [List.length_cons]; omega) h]
    congr 2
    rw [fieldAt_eq 1 h, List.drop_one, List.tail_cons, List.take_of_length_le (Nat.le_refl _),
      List.length_cons, Nat.add_sub_cancel, Nat.min_self]
    rfl
  · obtain rfl : rest = [] := List.length_eq_zero_iff.mp (by omega)
    rfl

/-- Zeros behind a name are as good as none, and anything else is not. -/
theorem nameBuffer_append_iff {name trailing : List Byte} (h : (name ++ trailing).length ≤ 51) :
    nameBuffer (name ++ trailing) = nameBuffer name ↔ ∀ b ∈ trailing, b = 0#8 := by
  unfold nameBuffer
  rw [List.append_assoc, List.append_cancel_left_eq]
  rw [List.length_append] at h
  constructor
  · intro heq b hb
    have hmem : b ∈ List.replicate (51 - name.length) 0#8 := heq ▸ List.mem_append_left _ hb
    exact (List.mem_replicate.mp hmem).2
  · intro hzero
    rw [List.eq_replicate_iff.mpr ⟨rfl, hzero⟩, List.replicate_append_replicate,
      List.length_append, List.length_replicate]
    congr 1
    omega

/-- **What is delivered is everything behind the length byte.** -/
theorem delivered_eq_rest {w : World} (h : Reachable w) {tfr : CanardTransfer} {t : TaskEntry}
    (ht : AwaitsName w tfr t) {b : Byte} {rest : List Byte} (hrest : rest.length ≤ 51)
    (hpayload : tfr.payload = b :: rest) : DeliversName w tfr t rest := by
  obtain ⟨hfound, i, hi, hservice⟩ := ht
  obtain ⟨htm, _⟩ := taskWithId_mem hfound
  obtain ⟨j, hj, _, hfit⟩ := (owned_reachable h).origin t htm
  obtain rfl := Option.some.inj (hj.symm.trans hi)
  rw [hservice] at hfit
  obtain ⟨buffer, hparam⟩ := fits_registerList hfit
  have hget := asyncGetParam_found hfound
  rw [hparam] at hget
  have hdecode := decodeName_ok b hrest
  rw [← hpayload] at hdecode
  refine ⟨buffer, _, hparam, hdecode, ?_, rfl⟩
  unfold registerListResponseHandler
  dsimp only
  rw [hget]
  dsimp only
  rw [hdecode]
  simp only [bind, Except.bind]
  unfold asyncComplete
  rw [World.log_registry, hfound, hparam]

/-! ## `dump_registers` -/

/-- The two synchronous calls of the loop, for a node that answers every request: a list request
leaves what its response delivers, and a register access succeeds. -/
structure Replying (table : List RegisterName) (trailing : Nat → List Byte)
    (list : Nat → Int × List Byte) (access : List Byte → Int × WlmioRegisterAccess) : Prop where
  list : ∀ i ≤ UINT16_MAX, ∃ name,
    decodeName (listPayload table trailing i) = .ok name ∧ list i = (0, name.val)
  access : ∀ name, 0 ≤ (access name).1

/-- Every name is delivered as it is, and the loop visits the registers of the table in order, and
comes to an end. -/
structure EnumeratesExactly (table : List RegisterName) (trailing : Nat → List Byte)
    (list : Nat → Int × List Byte) (access : List Byte → Int × WlmioRegisterAccess) : Prop where
  delivered : ∀ w tfr t, ∀ i ≤ UINT16_MAX, Reachable w → AwaitsName w tfr t →
    tfr.payload = listPayload table trailing i → DeliversName w tfr t (nameAt table i)
  visited : dumpRegisters list access =
    some (table.map (fun name => (name.bytes, (access name.bytes).2)))

theorem dumpFrom_table {list : Nat → Int × List Byte}
    {access : List Byte → Int × WlmioRegisterAccess} {table : List RegisterName}
    (before : List RegisterName) {rest : List RegisterName} {fuel i : Nat} {printed : Dump}
    (haccess : ∀ name, 0 ≤ (access name).1)
    (hlist : ∀ i ≤ UINT16_MAX, (list i).1 = 0 ∧ cString (list i).2 = nameAt table i)
    (htable : table = before ++ rest) (hi : i = before.length)
    (hfuel : i + fuel = UINT16_MAX + 1) (hpos : 0 < fuel) (hrest : rest.length ≤ fuel) :
    dumpFrom list access fuel i printed =
      some (printed ++ rest.map (fun name => (name.bytes, (access name.bytes).2))) := by
  obtain ⟨fuel, rfl⟩ : ∃ m, fuel = m + 1 := ⟨fuel - 1, by omega⟩
  obtain ⟨hzero, hname⟩ := hlist i (by omega)
  induction rest generalizing before fuel i printed with
  | nil =>
      have hend : nameAt table i = [] := by
        unfold nameAt
        rw [htable, List.append_nil, List.getElem?_eq_none (by omega)]
      unfold dumpFrom
      dsimp only
      rw [if_neg (by omega), if_pos (hname.trans hend), List.map_nil, List.append_nil]
  | cons name rest ih =>
      have hat : nameAt table i = name.bytes := by
        unfold nameAt
        rw [htable, hi, List.getElem?_append_right (Nat.le_refl _), Nat.sub_self]
        rfl
      have hhere := haccess name.bytes
      unfold dumpFrom
      dsimp only
      rw [if_neg (by omega), hname, hat, if_neg name.nonempty, if_neg (by omega)]
      rw [List.length_cons] at hrest
      split
      · -- the last index there is
        obtain rfl : rest = [] := List.length_eq_zero_iff.mp (by omega)
        rfl
      · obtain ⟨hzero', hname'⟩ := hlist (i + 1) (by omega)
        obtain ⟨fuel, rfl⟩ : ∃ m, fuel = m + 1 := ⟨fuel - 1, by omega⟩
        rw [ih (before ++ [name]) (by rw [htable, List.append_assoc]; rfl)
          (by rw [List.length_append, hi]; rfl) fuel (by omega) (by omega) (by omega) hzero' hname',
          List.append_assoc]
        rfl

theorem zero_not_mem_nameAt {table : List RegisterName} (h : ∀ name ∈ table, 0#8 ∉ name.bytes)
    (i : Nat) : 0#8 ∉ nameAt table i := by
  unfold nameAt
  split
  · rename_i name hname
    exact h name (List.mem_of_getElem? hname)
  · exact List.not_mem_nil

/-- A response to the first list request for node 7. -/
def listResponse (payload : List Byte) : CanardTransfer where
  timestampUsec := 0
  priority := 4
  transferKind := .response
  portId := 385
  remoteNodeId := 7
  transferId := 0
  payload := payload

/-- A response may come with any payload. -/
theorem exists_awaiting (payload : List Byte) :
    ∃ w t, Reachable w ∧ AwaitsName w (listResponse payload) t := by
  obtain ⟨w, hr, hw⟩ := exists_after Transition.free
    [.request (.registerList 7 0 (some 0)) (some 0) (grantFrom 5)]
    (fun w => decide ((w.registry.taskWithId (makeRspSpecifier (listResponse []))).map
      TaskEntry.serial = some 0 ∧ w.bus.issued[0]?.map Issued.service = some .registerList))
    (by decide +kernel)
  obtain ⟨hfound, hissued⟩ := of_decide_eq_true hw
  obtain ⟨t, ht, hserial⟩ := Option.map_eq_some_iff.mp hfound
  obtain ⟨i, hi, hservice⟩ := Option.map_eq_some_iff.mp hissued
  exact ⟨w, t, hr, ht, i, hserial ▸ hi, hservice⟩

/-- **The registers of a node are enumerated exactly if and only if** there is nothing but zeros behind
the names. -/
theorem enumeration_exact_iff {table : List RegisterName} {trailing : Nat → List Byte}
    {list : Nat → Int × List Byte} {access : List Byte → Int × WlmioRegisterAccess}
    (hlength : table.length ≤ UINT16_MAX + 1) (hnul : ∀ name ∈ table, 0#8 ∉ name.bytes)
    (hextent : ∀ i ≤ UINT16_MAX, (listPayload table trailing i).length ≤ 51)
    (hanswers : Replying table trailing list access) :
    EnumeratesExactly table trailing list access ↔
      ∀ i ≤ UINT16_MAX, ∀ b ∈ trailing i, b = 0#8 := by
  have hrest : ∀ i ≤ UINT16_MAX, (nameAt table i ++ trailing i).length ≤ 51 := by
    intro i hi
    have := hextent i hi
    unfold listPayload at this
    rw [List.length_cons] at this
    omega
  constructor
  · intro h i hi
    obtain ⟨w, t, hr, ht⟩ := exists_awaiting (listPayload table trailing i)
    obtain ⟨_, delivered, _, hdecode, _, hval⟩ :=
      h.delivered w _ t i hi hr ht rfl
    obtain rfl := Except.ok.inj ((decodeName_ok _ (hrest i hi)).symm.trans hdecode)
    exact (nameBuffer_append_iff (hrest i hi)).mp hval
  · intro hzero
    have hbuffer : ∀ i ≤ UINT16_MAX,
        nameBuffer (nameAt table i ++ trailing i) = nameBuffer (nameAt table i) :=
      fun i hi => (nameBuffer_append_iff (hrest i hi)).mpr (hzero i hi)
    constructor
    · intro w tfr t i hi hr ht hpayload
      obtain ⟨buffer, delivered, hparam, hdecode, hrun, hval⟩ :=
        delivered_eq_rest hr ht (hrest i hi) hpayload
      exact ⟨buffer, delivered, hparam, hdecode, hrun, hval.trans (hbuffer i hi)⟩
    · refine (dumpFrom_table [] hanswers.access (fun i hi => ?_) rfl rfl
        (Nat.zero_add _) (Nat.succ_pos _) hlength).trans rfl
      obtain ⟨name, hdecode, hlist⟩ := hanswers.list i hi
      obtain rfl := Except.ok.inj (hdecode.symm.trans (decodeName_ok _ (hrest i hi)))
      rw [hlist]
      refine ⟨rfl, ?_⟩
      show cString (nameBuffer (nameAt table i ++ trailing i)) = nameAt table i
      rw [hbuffer i hi]
      unfold nameBuffer
      rw [cString_zeros, cString_eq_self_iff.mpr (zero_not_mem_nameAt hnul i)]

/-- A node with one register, `a`. -/
def oneRegister : List RegisterName := [⟨[97#8], by decide, by decide⟩]

/-- What its list requests leave, with these bytes behind the name. -/
def oneListed (trailing : List Byte) (i : Nat) : Int × List Byte :=
  if i = 0 then (0, nameBuffer (97#8 :: trailing)) else (0, nameBuffer trailing)

theorem length_zeros : (List.replicate 256 (0#8 : Byte)).length = 256 := List.length_replicate

/-- A register of one byte. -/
def oneByte : WlmioRegisterAccess := ⟨11#8, 1#16, List.replicate 256 0#8, length_zeros⟩

theorem oneRegister_payload (trailing : List Byte) :
    listPayload oneRegister (fun _ => trailing) 0 = 1#8 :: 97#8 :: trailing ∧
      ∀ i, listPayload oneRegister (fun _ => trailing) (i + 1) = 0#8 :: trailing :=
  ⟨rfl, fun _ => rfl⟩

theorem oneRegister_extent {trailing : List Byte} (h : trailing.length ≤ 49) (i : Nat) :
    (listPayload oneRegister (fun _ => trailing) i).length ≤ 51 := by
  cases i with
  | zero =>
      rw [(oneRegister_payload trailing).1, List.length_cons, List.length_cons]
      omega
  | succ i =>
      rw [(oneRegister_payload trailing).2, List.length_cons]
      omega

theorem oneRegister_answers {trailing : List Byte} (h : trailing.length ≤ 49) :
    Replying oneRegister (fun _ => trailing) (oneListed trailing) (fun _ => (0, oneByte)) := by
  refine ⟨fun i _ => ?_, fun _ => Int.le_refl 0⟩
  cases i with
  | zero =>
      rw [(oneRegister_payload trailing).1]
      exact ⟨_, decodeName_ok _ (by rw [List.length_cons]; omega), rfl⟩
  | succ i =>
      rw [(oneRegister_payload trailing).2]
      exact ⟨_, decodeName_ok _ (by omega), rfl⟩

/-- Responses that are padded with a zero. -/
theorem enumeration_exact_padded :
    EnumeratesExactly oneRegister (fun _ => [0#8]) (oneListed [0#8]) (fun _ => (0, oneByte)) :=
  (enumeration_exact_iff (by decide) (by decide) (fun i _ => oneRegister_extent (by decide) i)
    (oneRegister_answers (by decide))).mpr (by simp)

/-- **A byte behind the name becomes part of it.** -/
theorem name_runs_on : Replying oneRegister (fun _ => [98#8]) (oneListed [98#8])
      (fun _ => (0, oneByte)) ∧
    ¬ EnumeratesExactly oneRegister (fun _ => [98#8]) (oneListed [98#8]) (fun _ => (0, oneByte)) := by
  refine ⟨oneRegister_answers (by decide), ?_⟩
  intro h
  obtain ⟨w, t, hr, ht⟩ := exists_awaiting (listPayload oneRegister (fun _ => [98#8]) 0)
  obtain ⟨_, delivered, _, hdecode, _, hval⟩ := h.delivered w _ t 0 (Nat.zero_le _) hr ht rfl
  have hrest : [97#8, 98#8].length ≤ 51 := by decide
  obtain rfl := Except.ok.inj ((decodeName_ok 1#8 hrest).symm.trans hdecode)
  have hval : nameBuffer [97#8, 98#8] = nameBuffer [97#8] := hval
  exact absurd hval (by decide)

end Wlmio.Proof
