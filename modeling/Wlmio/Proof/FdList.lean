import Wlmio.Client.FdEntry
import Wlmio.Client.Registry
import Wlmio.Library.DoublyLinked
import Wlmio.Library.History
import Wlmio.Library.KeyedList

/-!
# The descriptor list is a sequence

A sequence of entries and the records in memory that stand for it (`Represents`). Each of the three
functions does to the records what is plain to say of the sequence: append, take one out, look
for the first with a descriptor. So the list stays well formed in every run
(`fd_list_refines`), and what a `Registry` does with its sequence is what happens in
memory (`represents_add` and the others).
-/

namespace Wlmio.Proof

open Wlmio.Client

/-! ## The memory -/

section

variable {m : FdMemory} {a p : Nat} {e : FdEntryStruct}

theorem load_of_some (h : m.entryAt a = some e) : m.load a = .ok e := by
  unfold FdMemory.load
  rw [h]

theorem entryAt_cons (blocks : List (Nat × FdEntryStruct)) (head : Option Nat) (a : Nat) :
    (FdMemory.mk head ((p, e) :: blocks)).entryAt a =
      if a = p then some e else (FdMemory.mk head blocks).entryAt a := by
  unfold FdMemory.entryAt
  rw [List.find?_cons]
  by_cases h : a = p
  · rw [if_pos h, h]
    simp
  · have hne : ¬ p = a := fun h' => h h'.symm
    simp [h, hne]

/-- A record that is written keeps its address. -/
theorem entryAt_store (h : m.entryAt p ≠ none) (a : Nat) :
    (m.store p e).entryAt a = if a = p then some e else m.entryAt a := by
  have hkey : (fun b : Nat × FdEntryStruct => decide (b.1 = a)) ∘
      (fun b => if b.1 = p then (p, e) else b) = fun b => decide (b.1 = a) := by
    funext b
    by_cases hb : b.1 = p
    · simp [hb]
    · simp [hb]
  unfold FdMemory.entryAt FdMemory.store at *
  dsimp only
  rw [List.find?_map, hkey]
  cases hf : m.blocks.find? (fun b => decide (b.1 = a)) with
  | none =>
      rw [if_neg]
      · rfl
      · rintro rfl
        rw [hf] at h
        exact h rfl
  | some b =>
      have hb : b.1 = a := by simpa using List.find?_some hf
      by_cases ha : a = p
      · rw [if_pos ha, Option.map_some, if_pos (hb.trans ha)]
        rfl
      · rw [if_neg ha, Option.map_some, if_neg (fun h' => ha (hb.symm.trans h'))]

theorem entryAt_free (entry a : Nat) :
    (FdMemory.mk m.fdEntryHead (m.blocks.filter (fun b => decide (b.1 ≠ entry)))).entryAt a =
      if a = entry then none else m.entryAt a := by
  unfold FdMemory.entryAt
  dsimp only
  rw [List.find?_filter]
  by_cases ha : a = entry
  · rw [if_pos ha, List.find?_eq_none.mpr]
    · rfl
    · intro b _
      simp [ha]
  · rw [if_neg ha]
    congr 2
    funext b
    by_cases hb : b.1 = a
    · simp [hb, ha]
    · simp [hb]

/-- Pointers in these records have been edited, and nothing else. -/
structure Repointed (m : FdMemory) (as : List Nat) (m' : FdMemory) : Prop where
  others : ∀ a, a ∉ as → m'.entryAt a = m.entryAt a
  content : ∀ a e, m.entryAt a = some e →
    ∃ e', m'.entryAt a = some e' ∧ e'.fd = e.fd ∧ e'.handler = e.handler
  addresses : m'.blocks.map Prod.fst = m.blocks.map Prod.fst

theorem Repointed.mono {as bs : List Nat} {m' : FdMemory} (h : Repointed m as m') (hsub : as ⊆ bs) :
    Repointed m bs m' :=
  ⟨fun a ha => h.others a (fun hmem => ha (hsub hmem)), h.content, h.addresses⟩

theorem Repointed.keeps {as : List Nat} {m' : FdMemory} {e : FdEntry} (h : Repointed m as m')
    (hb : ∃ b, m.entryAt e.addr = some b ∧ b.fd = e.fd ∧ b.handler = e.handler) :
    ∃ b, m'.entryAt e.addr = some b ∧ b.fd = e.fd ∧ b.handler = e.handler := by
  obtain ⟨b, hb, hfd, hhandler⟩ := hb
  obtain ⟨b', hb', hfd', hhandler'⟩ := h.content _ b hb
  exact ⟨b', hb', hfd'.trans hfd, hhandler'.trans hhandler⟩

theorem Repointed.none {m m' : FdMemory} (h : m'.blocks = m.blocks) : Repointed m [] m' := by
  have hsame : ∀ a, m'.entryAt a = m.entryAt a := by
    intro a
    unfold FdMemory.entryAt
    rw [h]
  exact ⟨fun a _ => hsame a, fun a e he => ⟨e, (hsame a).trans he, rfl, rfl⟩, by rw [h]⟩

theorem repointed_store (e' : FdEntryStruct) (h : m.entryAt p = some e) (hfd : e'.fd = e.fd)
    (hhandler : e'.handler = e.handler) : Repointed m [p] (m.store p e') := by
  have hstore : ∀ a, (m.store p e').entryAt a = if a = p then some e' else m.entryAt a :=
    entryAt_store (by rw [h]; simp)
  refine ⟨?_, ?_, ?_⟩
  · intro a ha
    rw [hstore, if_neg (fun heq => ha (List.mem_singleton.mpr heq))]
  · intro a d hd
    rw [hstore]
    by_cases ha : a = p
    · subst ha
      obtain rfl := Option.some.inj (h.symm.trans hd)
      exact ⟨e', if_pos rfl, hfd, hhandler⟩
    · exact ⟨d, by rw [if_neg ha, hd], rfl, rfl⟩
  · unfold FdMemory.store
    rw [List.map_map]
    refine List.map_congr_left ?_
    intro b _
    by_cases hb : b.1 = p
    · simp [hb]
    · simp [hb]

end

/-! ## What the memory stands for -/

/-- The records in memory are those of the sequence, linked in its order. -/
structure Represents (m : FdMemory) (es : List FdEntry) : Prop where
  linked : ∃ last, DoublyLinked.Segment FdEntryStruct.next FdEntryStruct.previous m.entryAt none
    m.fdEntryHead (es.map FdEntry.addr) last none
  unique : KeyedList.Unique FdEntry.addr es
  content : ∀ e ∈ es, ∃ b, m.entryAt e.addr = some b ∧ b.fd = e.fd ∧ b.handler = e.handler
  addresses : (m.blocks.map Prod.fst).Perm (es.map FdEntry.addr)

theorem represents_empty : Represents FdMemory.empty [] :=
  ⟨⟨none, rfl, rfl⟩, KeyedList.unique_nil, by simp, List.Perm.nil⟩

section

variable {m m' : FdMemory} {es : List FdEntry}

/-- There is enough fuel for the list. -/
theorem Represents.fuel (h : Represents m es) : es.length < m.fuel := by
  have hlen := h.addresses.length_eq
  rw [List.length_map, List.length_map] at hlen
  unfold FdMemory.fuel
  omega

/-! ## The loops -/

theorem findFrom_eq {before p last : Option Nat} {n : Nat} (fd : Int) (hn : es.length < n)
    (h : DoublyLinked.Segment FdEntryStruct.next FdEntryStruct.previous m.entryAt before p
      (es.map FdEntry.addr) last none)
    (hcontent : ∀ e ∈ es, ∃ b, m.entryAt e.addr = some b ∧ b.fd = e.fd ∧ b.handler = e.handler) :
    m.findFrom fd n p = .ok ((es.find? (fun e => decide (e.fd = fd))).map FdEntry.addr) := by
  induction es generalizing before p n with
  | nil =>
      obtain ⟨n, rfl⟩ : ∃ k, n = k + 1 := ⟨n - 1, by simp at hn; omega⟩
      rw [h.2]
      rfl
  | cons e es ih =>
      obtain ⟨n, rfl⟩ : ∃ k, n = k + 1 := ⟨n - 1, by simp at hn; omega⟩
      obtain ⟨rfl, b, hb, _, hrest⟩ := h
      obtain ⟨d, hd, hfd, _⟩ := hcontent e List.mem_cons_self
      obtain rfl := Option.some.inj (hb.symm.trans hd)
      rw [FdMemory.findFrom, load_of_some hb, Fallible.ok_bind, List.find?_cons, hfd]
      by_cases heq : e.fd = fd
      · rw [if_pos heq]
        simp [heq]
      · rw [if_neg heq, ih (by simp at hn; omega) hrest
          (fun e' he' => hcontent e' (List.mem_cons_of_mem _ he'))]
        simp [heq]

/-- **The search finds the first entry with the descriptor**, or none if there is none. -/
theorem represents_find (h : Represents m es) (fd : Int) :
    m.fdEntryFind fd = .ok ((es.find? (fun e => decide (e.fd = fd))).map FdEntry.addr) := by
  obtain ⟨last, hlinked⟩ := h.linked
  exact findFrom_eq fd h.fuel hlinked h.content

theorem findEnd_eq {before p last : Option Nat} {as : List Nat} {n : Nat} (noted : Option Nat)
    (hn : as.length < n)
    (h : DoublyLinked.Segment FdEntryStruct.next FdEntryStruct.previous m.entryAt before p as last
      none) : m.findEnd n p noted = .ok (as.getLast?.or noted) := by
  induction as generalizing before p n noted with
  | nil =>
      obtain ⟨n, rfl⟩ : ∃ k, n = k + 1 := ⟨n - 1, by simp at hn; omega⟩
      rw [h.2]
      rfl
  | cons a as ih =>
      obtain ⟨n, rfl⟩ : ∃ k, n = k + 1 := ⟨n - 1, by simp at hn; omega⟩
      obtain ⟨rfl, b, hb, _, hrest⟩ := h
      rw [FdMemory.findEnd, load_of_some hb, Fallible.ok_bind, ih _ (by simp at hn; omega) hrest,
        List.getLast?_cons]
      cases as with
      | nil =>
          rw [if_pos hrest.2]
          rfl
      | cons a' as =>
          rw [List.getLast?_cons]
          rfl

theorem listed_eq {before p last : Option Nat} {as : List Nat} {n : Nat} (hn : as.length < n)
    (h : DoublyLinked.Segment FdEntryStruct.next FdEntryStruct.previous m.entryAt before p as last
      none) : m.listed n p = as := by
  induction as generalizing before p n with
  | nil =>
      obtain ⟨n, rfl⟩ : ∃ k, n = k + 1 := ⟨n - 1, by simp at hn; omega⟩
      rw [h.2]
      rfl
  | cons a as ih =>
      obtain ⟨n, rfl⟩ : ∃ k, n = k + 1 := ⟨n - 1, by simp at hn; omega⟩
      obtain ⟨rfl, b, hb, _, hrest⟩ := h
      rw [FdMemory.listed, hb, Option.bind_some, ih (by simp at hn; omega) hrest]

/-- The records that the pointers lead to are those of the sequence. -/
theorem Represents.listed (h : Represents m es) :
    m.listed m.fuel m.fdEntryHead = es.map FdEntry.addr := by
  obtain ⟨last, hlinked⟩ := h.linked
  exact listed_eq (by rw [List.length_map]; exact h.fuel) hlinked

/-! ## Edits of the pointers -/

/-- What leads to the end of a front part is made to lead elsewhere. -/
theorem relinkNext_front {as : List Nat} {last q : Option Nat}
    (h : DoublyLinked.Segment FdEntryStruct.next FdEntryStruct.previous m.entryAt none
      m.fdEntryHead as last q) (hnodup : as.Nodup) (q' : Option Nat) :
    ∃ m', m.relinkNext last q' = .ok m' ∧ Repointed m as m' ∧
      DoublyLinked.Segment FdEntryStruct.next FdEntryStruct.previous m'.entryAt none
        m'.fdEntryHead as last q' := by
  rcases List.eq_nil_or_concat' as with rfl | ⟨as, p, rfl⟩
  · obtain rfl := h.1
    exact ⟨_, rfl, .none rfl, rfl, rfl⟩
  · have hlast : last = some p := by
      rw [h.last_eq]
      simp
    obtain ⟨b, hb⟩ := h.mem_some (a := p) (by simp)
    have hstored := repointed_store { b with next := q' } hb rfl rfl
    have hrelink : m.relinkNext (some p) q' = .ok (m.store p { b with next := q' }) := by
      unfold FdMemory.relinkNext
      dsimp only
      rw [load_of_some hb, Fallible.ok_bind]
    subst hlast
    refine ⟨_, hrelink, hstored.mono (by simp), ?_⟩
    refine h.setNext { b with next := q' } (fun a ha => ?_) hb ?_ rfl rfl
    · refine hstored.others a ?_
      intro hmem
      obtain rfl := List.mem_singleton.mp hmem
      exact (List.nodup_append.mp hnodup).2.2 a ha a (by simp) rfl
    · rw [entryAt_store (by rw [hb]; simp), if_pos rfl]

/-- The first record of a rear part is made to come after another one. -/
theorem relinkPrevious_rear {as : List Nat} {before p last : Option Nat}
    (h : DoublyLinked.Segment FdEntryStruct.next FdEntryStruct.previous m.entryAt before p as last
      none) (hnodup : as.Nodup) (before' : Option Nat) :
    ∃ m' last', m.relinkPrevious p before' = .ok m' ∧ Repointed m as m' ∧
      m'.fdEntryHead = m.fdEntryHead ∧
      DoublyLinked.Segment FdEntryStruct.next FdEntryStruct.previous m'.entryAt before' p as last'
        none := by
  cases as with
  | nil =>
      obtain rfl := h.2
      exact ⟨m, before', rfl, .none rfl, rfl, rfl, rfl⟩
  | cons n as =>
      obtain rfl := h.1
      obtain ⟨b, hb⟩ := h.mem_some List.mem_cons_self
      have hstored := repointed_store { b with previous := before' } hb rfl rfl
      have hrelink : m.relinkPrevious (some n) before' =
          .ok (m.store n { b with previous := before' }) := by
        unfold FdMemory.relinkPrevious
        dsimp only
        rw [load_of_some hb, Fallible.ok_bind]
      refine ⟨_, last, hrelink, hstored.mono (by simp), rfl, ?_⟩
      refine h.setPrevious { b with previous := before' } (fun a ha => ?_) hb ?_ rfl rfl
      · refine hstored.others a ?_
        intro hmem
        obtain rfl := List.mem_singleton.mp hmem
        exact (List.nodup_cons.mp hnodup).1 ha
      · rw [entryAt_store (by rw [hb]; simp), if_pos rfl]

/-! ## Appending -/

/-- An address at which there is no record is not one of the list. -/
theorem Represents.not_listed (h : Represents m es) {c : Nat} (hc : m.entryAt c = none) :
    c ∉ es.map FdEntry.addr := by
  intro hmem
  obtain ⟨e, he, rfl⟩ := List.mem_map.mp hmem
  obtain ⟨b, hb, _⟩ := h.content e he
  rw [hc] at hb
  cases hb

/-- **An entry that is added comes last.** -/
theorem represents_add (h : Represents m es) (fd : Int) (handler : Handler) {c : Nat}
    (hc : m.entryAt c = none) : ∃ m', m.fdEntryAdd fd handler (some c) = .ok m' ∧
      Represents m' (es ++ [⟨c, fd, handler⟩]) := by
  obtain ⟨last, hlinked⟩ := h.linked
  have hnot := h.not_listed hc
  have hend := findEnd_eq none (by rw [List.length_map]; exact h.fuel) hlinked
  have hlast := hlinked.last_eq
  rw [Option.or_none] at hend hlast
  rw [← hlast] at hend
  obtain ⟨m₁, hm₁⟩ : ∃ m₁, m₁ =
      FdMemory.mk m.fdEntryHead ((c, ⟨fd, handler, none, last⟩) :: m.blocks) := ⟨_, rfl⟩
  have hnew : m₁.entryAt c = some ⟨fd, handler, none, last⟩ := by
    rw [hm₁, entryAt_cons, if_pos rfl]
  have hold : ∀ a ∈ es.map FdEntry.addr, m₁.entryAt a = m.entryAt a := by
    intro a ha
    have hne : a ≠ c := by
      rintro rfl
      exact hnot ha
    rw [hm₁, entryAt_cons, if_neg hne]
  have hfront : DoublyLinked.Segment FdEntryStruct.next FdEntryStruct.previous m₁.entryAt none
      m₁.fdEntryHead (es.map FdEntry.addr) last none := by
    rw [show m₁.fdEntryHead = m.fdEntryHead by rw [hm₁]]
    exact hlinked.congr hold
  obtain ⟨m', hm', hedit, hfront'⟩ := relinkNext_front hfront h.unique (some c)
  refine ⟨m', ?_, ⟨some c, ?_⟩, ?_, ?_, ?_⟩
  · unfold FdMemory.fdEntryAdd
    rw [hend, Fallible.ok_bind, ← hm', hm₁]
  · rw [List.map_append]
    exact DoublyLinked.segment_append.mpr
      ⟨last, some c, hfront', rfl, _, (hedit.others c hnot).trans hnew, rfl, rfl, rfl⟩
  · refine h.unique.append (fun e he heq => hnot ?_)
    rw [← show e.addr = c from heq]
    exact List.mem_map_of_mem he
  · intro e he
    have hbefore : ∃ b, m₁.entryAt e.addr = some b ∧ b.fd = e.fd ∧ b.handler = e.handler := by
      rcases List.mem_append.mp he with he | he
      · rw [hold _ (List.mem_map_of_mem he)]
        exact h.content e he
      · obtain rfl := List.mem_singleton.mp he
        exact ⟨_, hnew, rfl, rfl⟩
    exact hedit.keeps hbefore
  · rw [hedit.addresses, hm₁, List.map_append]
    exact (h.addresses.cons c).trans (List.perm_append_singleton _ _).symm

/-! ## Taking out -/

/-- What a sequence is without one of its entries. -/
theorem without_eq {fs gs : List FdEntry} {e : FdEntry}
    (h : KeyedList.Unique FdEntry.addr (fs ++ e :: gs)) :
    (fs ++ e :: gs).filter (fun e' => decide (e'.addr ≠ e.addr)) = fs ++ gs := by
  unfold KeyedList.Unique at h
  rw [List.map_append, List.map_cons, List.nodup_append, List.nodup_cons] at h
  obtain ⟨_, ⟨hgs, _⟩, hfs⟩ := h
  rw [List.filter_append, List.filter_cons_of_neg (by simp)]
  congr 1
  · rw [List.filter_eq_self]
    intro f hf
    exact decide_eq_true (hfs _ (List.mem_map_of_mem hf) _ List.mem_cons_self)
  · rw [List.filter_eq_self]
    intro g hg
    exact decide_eq_true (fun heq => hgs (heq ▸ List.mem_map_of_mem hg))

/-- **An entry that is closed is taken out**, and the others stay in their order. -/
theorem represents_close {fs gs : List FdEntry} {e : FdEntry} (h : Represents m (fs ++ e :: gs)) :
    ∃ m', m.fdEntryClose e.addr = .ok m' ∧ Represents m' (fs ++ gs) := by
  obtain ⟨last, hlinked⟩ := h.linked
  have hunique : (fs.map FdEntry.addr ++ e.addr :: gs.map FdEntry.addr).Nodup := by
    have := h.unique
    unfold KeyedList.Unique at this
    rwa [List.map_append, List.map_cons] at this
  obtain ⟨hfs, hegs, hdisj⟩ := List.nodup_append.mp hunique
  obtain ⟨hegs, hgs⟩ := List.nodup_cons.mp hegs
  have hefs : e.addr ∉ fs.map FdEntry.addr :=
    fun hmem => hdisj _ hmem _ List.mem_cons_self rfl
  rw [List.map_append, List.map_cons] at hlinked
  obtain ⟨mid, r, hfront, rfl, b, hb, rfl, hrear⟩ := DoublyLinked.segment_append.mp hlinked
  -- what led to the entry leads to what the entry leads to
  obtain ⟨m₁, hm₁, hedit₁, hfront₁⟩ := relinkNext_front hfront hfs b.next
  have hb₁ : m₁.entryAt e.addr = some b := (hedit₁.others _ hefs).trans hb
  have hkept₁ : ∀ a ∈ gs.map FdEntry.addr, m₁.entryAt a = m.entryAt a := fun a ha =>
    hedit₁.others a (fun hmem => hdisj a hmem a (List.mem_cons_of_mem _ ha) rfl)
  have hrear₁ := hrear.congr hkept₁
  -- what comes behind the entry comes behind what was before it
  obtain ⟨m₂, last', hm₂, hedit₂, hhead₂, hrear₂⟩ := relinkPrevious_rear hrear₁ hgs b.previous
  have hkept₂ : ∀ a ∈ fs.map FdEntry.addr, m₂.entryAt a = m₁.entryAt a := fun a ha =>
    hedit₂.others a (fun hmem => hdisj a ha a (List.mem_cons_of_mem _ hmem) rfl)
  have hfront₂ := hfront₁.congr hkept₂
  have hfree : ∀ a, a ≠ e.addr → (FdMemory.mk m₂.fdEntryHead
      (m₂.blocks.filter (fun b => decide (b.1 ≠ e.addr)))).entryAt a = m₂.entryAt a := by
    intro a ha
    rw [entryAt_free, if_neg ha]
  have hne : ∀ a ∈ fs.map FdEntry.addr ++ gs.map FdEntry.addr, a ≠ e.addr := by
    rintro a ha rfl
    rcases List.mem_append.mp ha with ha | ha
    · exact hefs ha
    · exact hegs ha
  refine ⟨⟨m₂.fdEntryHead, m₂.blocks.filter (fun b => decide (b.1 ≠ e.addr))⟩, ?_, ⟨last', ?_⟩, ?_,
    fun f hf => ?_, ?_⟩
  · unfold FdMemory.fdEntryClose
    rw [load_of_some hb, Fallible.ok_bind, hm₁, Fallible.ok_bind, load_of_some hb₁,
      Fallible.ok_bind, hm₂, Fallible.ok_bind]
  · rw [List.map_append]
    have hlinked₂ := DoublyLinked.segment_append.mpr ⟨b.previous, b.next, hfront₂, hrear₂⟩
    rw [← hhead₂] at hlinked₂
    exact hlinked₂.congr (fun a ha => hfree a (hne a ha))
  · rw [← without_eq h.unique]
    exact h.unique.filter _
  · have hmem : f ∈ fs ++ e :: gs := by
      rcases List.mem_append.mp hf with hf | hf
      · exact List.mem_append_left _ hf
      · exact List.mem_append_right _ (List.mem_cons_of_mem _ hf)
    rw [hfree f.addr (hne _ (by rw [← List.map_append]; exact List.mem_map_of_mem hf))]
    exact hedit₂.keeps (hedit₁.keeps (h.content f hmem))
  · have haddresses : (m₂.blocks.map Prod.fst).Perm ((fs ++ e :: gs).map FdEntry.addr) := by
      rw [hedit₂.addresses, hedit₁.addresses]
      exact h.addresses
    have hfilter := haddresses.filter (fun a => decide (a ≠ e.addr))
    rw [List.filter_map, List.filter_map] at hfilter
    rw [← without_eq h.unique]
    exact hfilter

end

/-! ## Runs -/

/-- What a call does to the sequence. -/
def FdCall.onSequence (es : List FdEntry) : FdCall → List FdEntry
  | .add fd handler (some c) => es ++ [⟨c, fd, handler⟩]
  | .add _ _ none => es
  | .close entry => es.filter (fun e => decide (e.addr ≠ entry))
  | .find _ => es

/-- The runs of calls that can be made, from the empty list on. -/
abbrev FdRun : List FdCall → FdMemory → Prop :=
  Transition.Observes fdStep (fun _ c _ => [c]) FdCall.Possible (· = .empty)

section

variable {m m' : FdMemory} {es : List FdEntry}

/-- Every call that can be made is carried out, unless `malloc` fails, and does to the records what it
does to the sequence. -/
theorem represents_call (h : Represents m es) {c : FdCall} (hc : c.Possible m) :
    (∃ m', fdStep m c = some m' ∧ Represents m' (FdCall.onSequence es c)) ∨
      ∃ fd handler, c = .add fd handler none ∧ fdStep m c = none := by
  have hstep : ∀ m', c.exec m = .ok m' → fdStep m c = some m' := by
    intro m' hm'
    unfold fdStep
    rw [hm']
  cases c with
  | add fd handler malloc =>
      cases malloc with
      | none =>
          obtain ⟨last, hlinked⟩ := h.linked
          have hend := findEnd_eq none (by rw [List.length_map]; exact h.fuel) hlinked
          refine .inr ⟨fd, handler, rfl, ?_⟩
          unfold fdStep FdCall.exec FdMemory.fdEntryAdd
          dsimp only
          rw [hend, Fallible.ok_bind]
      | some a =>
          obtain ⟨m', hm', h'⟩ := represents_add h fd handler (hc a rfl)
          exact .inl ⟨m', hstep m' hm', h'⟩
  | close entry =>
      have hmem : entry ∈ es.map FdEntry.addr := h.listed ▸ hc
      obtain ⟨e, he, rfl⟩ := List.mem_map.mp hmem
      obtain ⟨fs, gs, rfl⟩ := List.append_of_mem he
      obtain ⟨m', hm', h'⟩ := represents_close h
      refine .inl ⟨m', hstep m' hm', ?_⟩
      unfold FdCall.onSequence
      dsimp only
      rw [without_eq h.unique]
      exact h'
  | find fd =>
      refine .inl ⟨m, hstep m ?_, h⟩
      unfold FdCall.exec
      dsimp only
      rw [represents_find h fd]
      rfl

theorem run_represents {cs : List FdCall} (h : FdRun cs m) :
    Represents m (cs.foldl FdCall.onSequence []) := by
  induction h with
  | init h => exact h ▸ represents_empty
  | step _ hg hs ih =>
      rw [List.foldl_append]
      rcases represents_call ih hg with ⟨m₁, hm₁, h₁⟩ | ⟨_, _, _, hnone⟩
      · obtain rfl := Option.some.inj (hs.symm.trans hm₁)
        exact h₁
      · rw [hs] at hnone
        cases hnone

/-- The records in memory are well formed as a list, and are that sequence. -/
structure IsSequence (m : FdMemory) (es : List FdEntry) : Prop where
  wellFormed : DoublyLinked.WellFormed FdEntryStruct.next FdEntryStruct.previous m.entryAt
    m.fdEntryHead (es.map FdEntry.addr)
  content : ∀ e ∈ es, ∃ b, m.entryAt e.addr = some b ∧ b.fd = e.fd ∧ b.handler = e.handler
  /-- A search finds the first entry with the descriptor, or none if there is none. -/
  find : ∀ fd, m.fdEntryFind fd = .ok ((es.find? (fun e => decide (e.fd = fd))).map FdEntry.addr)
  /-- A call that can be made is carried out, unless there is no memory for an entry. -/
  calls : ∀ c : FdCall, c.Possible m →
    (∃ m', fdStep m c = some m') ∨ ∃ fd handler, c = .add fd handler none

/-- **The list is a sequence**: after every run it is well formed, and is what the calls have made of
the empty sequence. -/
theorem fd_list_refines {cs : List FdCall} (h : FdRun cs m) :
    IsSequence m (cs.foldl FdCall.onSequence []) := by
  have hrep := run_represents h
  obtain ⟨last, hlinked⟩ := hrep.linked
  refine ⟨hlinked.wellFormed hrep.unique, hrep.content, represents_find hrep, ?_⟩
  intro c hc
  rcases represents_call hrep hc with ⟨m', hm', _⟩ | ⟨fd, handler, hadd, _⟩
  · exact .inl ⟨m', hm'⟩
  · exact .inr ⟨fd, handler, hadd⟩

/-- Three entries are added and the middle one is closed; a fourth gets its address. -/
theorem fd_list_refines_reused : ∃ m, IsSequence m
    [⟨1, 10, .canSocketHandler⟩, ⟨3, 12, .asyncHandler⟩, ⟨2, 13, .asyncHandler⟩] := by
  obtain ⟨m, hm⟩ := Option.isSome_iff_exists.mp (show (Transition.run fdStep FdCall.Possible .empty
    [.add 10 .canSocketHandler (some 1), .add 11 .asyncHandler (some 2),
      .add 12 .asyncHandler (some 3), .close 2, .add 13 .asyncHandler (some 2)]).isSome = true by
    decide)
  exact ⟨m, fd_list_refines (Transition.Observes.run (.init rfl) hm)⟩

/-! ## The descriptors of a registry -/

theorem registry_find {r : Registry} (h : Represents m r.fdEntries) (fd : Int) :
    m.fdEntryFind fd = .ok ((r.fdEntryFind fd).map FdEntry.addr) := represents_find h fd

theorem registry_add {r r' : Registry} {fd : Int} {handler : Handler} {a : Nat}
    (h : Represents m r.fdEntries) (hadd : r.fdEntryAdd fd handler true = .ok (r', a))
    (hfree : m.entryAt a = none) :
    ∃ m', m.fdEntryAdd fd handler (some a) = .ok m' ∧ Represents m' r'.fdEntries := by
  obtain ⟨rfl, rfl⟩ := Prod.mk.inj (Except.ok.inj hadd)
  exact represents_add h fd handler hfree

theorem registry_close {r r' : Registry} {a : Nat} (h : Represents m r.fdEntries)
    (hclose : r.fdEntryClose a = .ok r') :
    ∃ m', m.fdEntryClose a = .ok m' ∧ Represents m' r'.fdEntries := by
  unfold Registry.fdEntryClose at hclose
  split at hclose
  · cases hclose
  · rename_i e he
    have hmem : e ∈ r.fdEntries := List.mem_of_find?_eq_some he
    have haddr : e.addr = a := by simpa using List.find?_some he
    subst haddr
    obtain ⟨fs, gs, hsplit⟩ := List.append_of_mem hmem
    rw [hsplit] at h
    obtain ⟨m', hm', h'⟩ := represents_close h
    refine ⟨m', hm', ?_⟩
    rw [← Except.ok.inj hclose]
    dsimp only
    rw [hsplit, without_eq h.unique]
    exact h'

end

end Wlmio.Proof
