import Mathlib.Data.List.TakeWhile
import Mathlib.Order.Lattice

/-!
# Stable priority queues

A list kept in ascending order of a key, into which whole blocks of equal key are
inserted behind everything that is not greater. Read through one key at a time,
such a list is an ordinary first-in first-out line: a block joins its own line at
the end, the other lines do not notice, and taking the head shortens the line of
the head and no other.

Nothing here depends on what is queued. `key` is any map into a linear order.
-/

namespace StableQueue

variable {α κ : Type} [LinearOrder κ] (key : α → κ)

/-- Ascending in `key`. -/
def Sorted (q : List α) : Prop := q.Pairwise (fun a b => key a ≤ key b)

/-- The line of `k`: the queued elements of that key, in order. -/
def lane (k : κ) (q : List α) : List α := q.filter (fun a => decide (key a = k))

/-- Insert a block of key `k` behind everything that is not greater. -/
def insertBlock (k : κ) (block q : List α) : List α :=
  q.takeWhile (fun a => decide (key a ≤ k)) ++ block ++ q.dropWhile (fun a => decide (key a ≤ k))

/-- The block stays together. -/
theorem insertBlock_split (k : κ) (block q : List α) : ∃ before after, q = before ++ after ∧
    insertBlock key k block q = before ++ block ++ after :=
  ⟨_, _, (List.takeWhile_append_dropWhile (p := fun a => decide (key a ≤ k))).symm, rfl⟩

variable {key}

theorem sorted_nil : Sorted key [] := List.Pairwise.nil

theorem Sorted.tail {a : α} {q : List α} (h : Sorted key (a :: q)) : Sorted key q :=
  (List.pairwise_cons.mp h).2

/-- Behind the insertion point of `k` everything is greater than `k`. -/
theorem Sorted.lt_of_mem_dropWhile {q : List α} (h : Sorted key q) (k : κ) :
    ∀ a ∈ q.dropWhile (fun a => decide (key a ≤ k)), k < key a := by
  induction q with
  | nil => simp
  | cons x q ih =>
      intro a ha
      rw [List.dropWhile_cons] at ha
      split at ha
      · exact ih h.tail a ha
      · rename_i hx
        have hx' : k < key x := by simpa using hx
        rcases List.mem_cons.mp ha with rfl | ha
        · exact hx'
        · exact lt_of_lt_of_le hx' ((List.pairwise_cons.mp h).1 a ha)

theorem mem_takeWhile_le {q : List α} {k : κ} {a : α}
    (h : a ∈ q.takeWhile (fun a => decide (key a ≤ k))) : key a ≤ k := by
  simpa using List.mem_takeWhile_imp h

/-- **Insertion keeps the order.** -/
theorem Sorted.insertBlock {q block : List α} {k : κ} (h : Sorted key q)
    (hb : ∀ a ∈ block, key a = k) : Sorted key (insertBlock key k block q) := by
  have hsplit : Sorted key (q.takeWhile (fun a => decide (key a ≤ k)) ++
      q.dropWhile (fun a => decide (key a ≤ k))) := by
    rw [List.takeWhile_append_dropWhile]; exact h
  obtain ⟨hfront, hback, _⟩ := List.pairwise_append.mp hsplit
  have hblock : Sorted key block := by
    refine List.pairwise_iff_forall_sublist.mpr ?_
    intro a b hab
    have ha := hb a (hab.subset (by simp))
    have hb' := hb b (hab.subset (by simp))
    rw [ha, hb']
  refine List.pairwise_append.mpr ⟨List.pairwise_append.mpr ⟨hfront, hblock, ?_⟩, hback, ?_⟩
  · intro a ha b hbb
    rw [hb b hbb]
    exact mem_takeWhile_le ha
  · intro a ha b hbb
    have hkb : k < key b := h.lt_of_mem_dropWhile k b hbb
    rcases List.mem_append.mp ha with ha | ha
    · exact le_trans (mem_takeWhile_le ha) (le_of_lt hkb)
    · rw [hb a ha]; exact le_of_lt hkb

theorem lane_append (k : κ) (p q : List α) : lane key k (p ++ q) = lane key k p ++ lane key k q :=
  List.filter_append ..

theorem lane_eq_nil {q : List α} {k : κ} (h : ∀ a ∈ q, key a ≠ k) : lane key k q = [] := by
  rw [lane, List.filter_eq_nil_iff]
  intro a ha
  simpa using h a ha

theorem lane_eq_self {q : List α} {k : κ} (h : ∀ a ∈ q, key a = k) : lane key k q = q := by
  rw [lane, List.filter_eq_self]
  intro a ha
  simpa using h a ha

/-- **A block joins the end of its own line.** -/
theorem lane_insertBlock_self {q block : List α} {k : κ} (h : Sorted key q)
    (hb : ∀ a ∈ block, key a = k) :
    lane key k (insertBlock key k block q) = lane key k q ++ block := by
  have hback : lane key k (q.dropWhile (fun a => decide (key a ≤ k))) = [] :=
    lane_eq_nil (fun a ha => ne_of_gt (h.lt_of_mem_dropWhile k a ha))
  have hq : lane key k q = lane key k (q.takeWhile (fun a => decide (key a ≤ k))) := by
    have hsplit := congrArg (lane key k)
      (List.takeWhile_append_dropWhile (p := fun a => decide (key a ≤ k)) (l := q))
    rw [lane_append, hback, List.append_nil] at hsplit
    exact hsplit.symm
  rw [insertBlock, lane_append, lane_append, hback, List.append_nil, lane_eq_self hb, hq]

/-- The other lines do not notice. -/
theorem lane_insertBlock_other {q block : List α} {k k' : κ} (hk : k' ≠ k)
    (hb : ∀ a ∈ block, key a = k) : lane key k' (insertBlock key k block q) = lane key k' q := by
  have hnil : lane key k' block = [] := lane_eq_nil (fun a ha => by rw [hb a ha]; exact hk.symm)
  rw [insertBlock, lane_append, lane_append, hnil, List.append_nil, ← lane_append,
    List.takeWhile_append_dropWhile]

/-- Moving the head of the queue to the end of what was served changes no line. -/
theorem lane_serve (k : κ) (served q : List α) (a : α) :
    lane key k (served ++ [a]) ++ lane key k q = lane key k served ++ lane key k (a :: q) := by
  rw [lane_append, List.append_assoc, ← lane_append]
  rfl

/-! ## Nothing is lost, doubled or reordered within a line -/

/-- What was served and what is queued make up what was put in, line by line in order. -/
structure Conserved (key : α → κ) (served q input : List α) : Prop where
  sorted : Sorted key q
  lanes : ∀ k, lane key k served ++ lane key k q = lane key k input
  perm : (served ++ q).Perm input

theorem Conserved.nil : Conserved key [] [] [] := ⟨sorted_nil, fun _ => rfl, List.Perm.refl _⟩

theorem insertBlock_perm (k : κ) (block q : List α) :
    (insertBlock key k block q).Perm (q ++ block) := by
  unfold insertBlock
  have hswap : (q.takeWhile (fun a => decide (key a ≤ k)) ++
      (block ++ q.dropWhile (fun a => decide (key a ≤ k)))).Perm
      (q.takeWhile (fun a => decide (key a ≤ k)) ++
        (q.dropWhile (fun a => decide (key a ≤ k)) ++ block)) :=
    List.Perm.append_left _ List.perm_append_comm
  rw [← List.append_assoc, ← List.append_assoc, List.takeWhile_append_dropWhile] at hswap
  exact hswap

/-- **Putting a block in.** -/
theorem Conserved.insert {served q input block : List α} {k : κ} (h : Conserved key served q input)
    (hb : ∀ a ∈ block, key a = k) :
    Conserved key served (insertBlock key k block q) (input ++ block) where
  sorted := h.sorted.insertBlock hb
  lanes := by
    intro k'
    rw [lane_append, ← h.lanes k']
    by_cases hk : k' = k
    · subst hk
      rw [lane_insertBlock_self h.sorted hb, lane_eq_self hb, List.append_assoc]
    · have hnil : lane key k' block = [] :=
        lane_eq_nil (fun a ha => by rw [hb a ha]; exact fun heq => hk heq.symm)
      rw [lane_insertBlock_other hk hb, hnil, List.append_nil]
  perm := by
    have hq : (served ++ insertBlock key k block q).Perm (served ++ (q ++ block)) :=
      List.Perm.append_left _ (insertBlock_perm k block q)
    refine hq.trans ?_
    rw [← List.append_assoc]
    exact h.perm.append_right _

/-- **Serving the head.** -/
theorem Conserved.serve {served q input : List α} {a : α}
    (h : Conserved key served (a :: q) input) : Conserved key (served ++ [a]) q input where
  sorted := h.sorted.tail
  lanes := fun k => by rw [lane_serve]; exact h.lanes k
  perm := by rw [List.append_assoc]; exact h.perm

end StableQueue
