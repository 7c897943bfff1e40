import Mathlib.Data.List.Nodup

/-!
# Doubly linked lists

Cells in a memory, each with a pointer to the next and to the previous one. `Segment` says
that the cells at the given addresses are linked to one another in this order, what the first is
preceded by and where the last leads to. Lists are put together from segments, and an edit of a pointer is an
edit at the end of one or at the beginning of another.

`γ` is what a cell holds, and `next` and `previous` are its two pointers; `none` is the null
pointer.
-/

namespace DoublyLinked

variable {γ : Type}

section

variable (next previous : γ → Option Nat)

/-- The cells at these addresses follow one another. The first is reached by `p` and its previous
one is `before`; the last is `last`, or `before` if there are none, and leads to `q`. -/
def Segment (mem : Nat → Option γ) :
    Option Nat → Option Nat → List Nat → Option Nat → Option Nat → Prop
  | before, p, [], last, q => last = before ∧ p = q
  | before, p, a :: as, last, q =>
    p = some a ∧ ∃ c, mem a = some c ∧ previous c = before ∧ Segment mem (some a) (next c) as last q

/-- A walk along `next` visits these addresses and comes to an end. -/
def Walk (mem : Nat → Option γ) : Option Nat → List Nat → Prop
  | p, [] => p = none
  | p, a :: as => p = some a ∧ ∃ c, mem a = some c ∧ Walk mem (next c) as

/-- What it means for a list to be well formed. -/
structure WellFormed (mem : Nat → Option γ) (head : Option Nat) (as : List Nat) : Prop where
  /-- The first cell has no previous one. -/
  first : ∀ a c, head = some a → mem a = some c → previous c = none
  /-- The two pointers are inverse to each other. -/
  next_previous : ∀ a ∈ as, ∀ c b, mem a = some c → next c = some b →
    b ∈ as ∧ ∃ d, mem b = some d ∧ previous d = some a
  previous_next : ∀ a ∈ as, ∀ c b, mem a = some c → previous c = some b →
    b ∈ as ∧ ∃ d, mem b = some d ∧ next d = some a
  /-- The chain is finite, and no cell comes twice. -/
  walk : Walk next mem head as
  acyclic : as.Nodup

end

variable {next previous : γ → Option Nat} {mem mem' : Nat → Option γ}
  {before p last q : Option Nat} {as bs : List Nat} {a m : Nat}

/-- **Segments are put together where one leads to the other.** -/
theorem segment_append : Segment next previous mem before p (as ++ bs) last q ↔
    ∃ m r, Segment next previous mem before p as m r ∧ Segment next previous mem m r bs last q := by
  induction as generalizing before p with
  | nil =>
      constructor
      · exact fun h => ⟨before, p, ⟨rfl, rfl⟩, h⟩
      · rintro ⟨m, r, ⟨rfl, rfl⟩, h⟩
        exact h
  | cons a as ih =>
      constructor
      · rintro ⟨rfl, c, hc, hprev, h⟩
        obtain ⟨m, r, h₁, h₂⟩ := ih.mp h
        exact ⟨m, r, ⟨rfl, c, hc, hprev, h₁⟩, h₂⟩
      · rintro ⟨m, r, ⟨rfl, c, hc, hprev, h₁⟩, h₂⟩
        exact ⟨rfl, c, hc, hprev, ih.mpr ⟨m, r, h₁, h₂⟩⟩

/-- What lies elsewhere does not matter. -/
theorem Segment.congr (h : Segment next previous mem before p as last q)
    (hmem : ∀ a ∈ as, mem' a = mem a) : Segment next previous mem' before p as last q := by
  induction as generalizing before p with
  | nil => exact h
  | cons a as ih =>
      obtain ⟨rfl, c, hc, hprev, h⟩ := h
      exact ⟨rfl, c, (hmem a List.mem_cons_self).trans hc, hprev,
        ih h (fun b hb => hmem b (List.mem_cons_of_mem _ hb))⟩

theorem Segment.mem_some (h : Segment next previous mem before p as last q) (ha : a ∈ as) :
    ∃ c, mem a = some c := by
  obtain ⟨as, bs, rfl⟩ := List.append_of_mem ha
  obtain ⟨m, r, _, _, c, hc, _⟩ := segment_append.mp h
  exact ⟨c, hc⟩

/-- Where a segment ends. -/
theorem Segment.last_eq (h : Segment next previous mem before p as last q) :
    last = as.getLast?.or before := by
  induction as generalizing before p with
  | nil => exact h.1
  | cons a as ih =>
      obtain ⟨rfl, c, _, _, h⟩ := h
      rw [ih h, List.getLast?_cons]
      cases as.getLast? with
      | none => rfl
      | some b => rfl

/-! ## Edits -/

/-- The last cell is made to lead elsewhere. -/
theorem Segment.setNext {c : γ} (c' : γ) {q' : Option Nat}
    (h : Segment next previous mem before p (as ++ [m]) last q) (hmem : ∀ a ∈ as, mem' a = mem a)
    (hc : mem m = some c) (hc' : mem' m = some c') (hprev : previous c' = previous c)
    (hnext : next c' = q') : Segment next previous mem' before p (as ++ [m]) (some m) q' := by
  obtain ⟨l, r, h₁, rfl, d, hd, hdprev, h₂⟩ := segment_append.mp h
  obtain rfl := Option.some.inj (hc.symm.trans hd)
  exact segment_append.mpr ⟨l, some m, h₁.congr hmem, rfl, c', hc', hprev.trans hdprev, rfl, hnext⟩

/-- The first cell is made to come after another one. -/
theorem Segment.setPrevious {c : γ} (c' : γ) {before' : Option Nat}
    (h : Segment next previous mem before p (a :: as) last q) (hmem : ∀ b ∈ as, mem' b = mem b)
    (hc : mem a = some c) (hc' : mem' a = some c') (hnext : next c' = next c)
    (hprev : previous c' = before') :
    Segment next previous mem' before' p (a :: as) last q := by
  obtain ⟨rfl, d, hd, _, h⟩ := h
  obtain rfl := Option.some.inj (hc.symm.trans hd)
  exact ⟨rfl, c', hc', hprev, hnext ▸ h.congr hmem⟩

/-! ## Whole lists -/

theorem Segment.walk (h : Segment next previous mem before p as last none) :
    Walk next mem p as := by
  induction as generalizing before p with
  | nil => exact h.2
  | cons a as ih =>
      obtain ⟨rfl, c, hc, _, h⟩ := h
      exact ⟨rfl, c, hc, ih h⟩

/-- **A segment from nothing to nothing is a well formed list**, if its cells are distinct. -/
theorem Segment.wellFormed (h : Segment next previous mem none p as last none) (hnodup : as.Nodup) :
    WellFormed next previous mem p as where
  first := by
    rintro a c rfl hc
    cases as with
    | nil => cases h.2
    | cons b bs =>
        obtain ⟨hb, d, hd, hprev, _⟩ := h
        obtain rfl := Option.some.inj hb
        obtain rfl := Option.some.inj (hc.symm.trans hd)
        exact hprev
  next_previous := by
    intro a ha c b hc hb
    obtain ⟨as, bs, rfl⟩ := List.append_of_mem ha
    obtain ⟨m, r, _, _, d, hd, _, hrest⟩ := segment_append.mp h
    obtain rfl := Option.some.inj (hc.symm.trans hd)
    rw [hb] at hrest
    cases bs with
    | nil => cases hrest.2
    | cons b' bs =>
        obtain ⟨hb', e, he, hprev, _⟩ := hrest
        obtain rfl := Option.some.inj hb'
        exact ⟨by simp, e, he, hprev⟩
  previous_next := by
    intro a ha c b hc hb
    obtain ⟨as, bs, rfl⟩ := List.append_of_mem ha
    obtain ⟨m, r, hfront, rfl, d, hd, hprev, _⟩ := segment_append.mp h
    obtain rfl := Option.some.inj (hc.symm.trans hd)
    obtain rfl := hprev.symm.trans hb
    rcases List.eq_nil_or_concat' as with rfl | ⟨as, b', rfl⟩
    · cases hfront.1
    · -- the cell before is the last one of the front
      obtain ⟨l, s, _, rfl, e, he, _, hlast, hnext⟩ := segment_append.mp hfront
      obtain rfl := Option.some.inj hlast
      exact ⟨by simp, e, he, hnext⟩
  walk := h.walk
  acyclic := hnodup

end DoublyLinked
