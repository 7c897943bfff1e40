import Mathlib.Data.List.Nodup

/-!
# Lists with a key

Records in a list, told apart by a key: no two have the same. A record found by a
predicate that only it satisfies, records removed by key, and records appended under a
fresh key.
-/

namespace KeyedList

variable {α κ : Type} {key : α → κ} {l : List α}

/-- No two records have the same key. -/
def Unique (key : α → κ) (l : List α) : Prop := (l.map key).Nodup

theorem unique_nil : Unique key [] := List.nodup_nil

theorem Unique.eq (h : Unique key l) {a b : α} (ha : a ∈ l) (hb : b ∈ l) (hk : key a = key b) :
    a = b := List.inj_on_of_nodup_map h ha hb hk

/-- A search for a key finds the record that has it. -/
theorem Unique.find [DecidableEq κ] (h : Unique key l) {a : α} (ha : a ∈ l) :
    l.find? (fun b => decide (key b = key a)) = some a := by
  cases hf : l.find? (fun b => decide (key b = key a)) with
  | none =>
      have hno := List.find?_eq_none.mp hf a ha
      simp at hno
  | some b =>
      have hb := List.mem_of_find?_eq_some hf
      have hk : key b = key a := by simpa using List.find?_some hf
      rw [h.eq hb ha hk]

/-- A search for any other feature finds a record if it belongs to one only. -/
theorem find_only {p : α → Bool} {a : α} (ha : a ∈ l) (hp : p a = true)
    (honly : ∀ b ∈ l, p b = true → b = a) : l.find? p = some a := by
  cases hf : l.find? p with
  | none => exact absurd hp (List.find?_eq_none.mp hf a ha)
  | some b => rw [honly b (List.mem_of_find?_eq_some hf) (List.find?_some hf)]

theorem Unique.filter (h : Unique key l) (p : α → Bool) : Unique key (l.filter p) :=
  List.Nodup.sublist (List.filter_sublist.map key) h

/-- A record under a fresh key may join. -/
theorem Unique.append (h : Unique key l) {a : α} (ha : ∀ b ∈ l, key b ≠ key a) :
    Unique key (l ++ [a]) := by
  unfold Unique
  rw [List.map_append, List.nodup_append]
  refine ⟨h, by simp, ?_⟩
  intro x hx y hy
  obtain ⟨b, hb, rfl⟩ := List.mem_map.mp hx
  obtain rfl : y = key a := by simpa using hy
  exact ha b hb

theorem Unique.cons (h : Unique key l) {a : α} (ha : ∀ b ∈ l, key b ≠ key a) :
    Unique key (a :: l) := by
  refine List.nodup_cons.mpr ⟨fun hmem => ?_, h⟩
  obtain ⟨b, hb, heq⟩ := List.mem_map.mp hmem
  exact ha b hb heq

/-- Who is left when the records with one key are removed. -/
theorem mem_without [DecidableEq κ] {a : α} {k : κ} :
    a ∈ l.filter (fun b => decide (key b ≠ k)) ↔ a ∈ l ∧ key a ≠ k := by
  simp [List.mem_filter]

/-- Removing a record takes just that record out. -/
theorem Unique.perm_without [DecidableEq κ] (h : Unique key l) {a : α} (ha : a ∈ l) :
    l.Perm (a :: l.filter (fun b => decide (key b ≠ key a))) := by
  induction l with
  | nil => simp at ha
  | cons b l ih =>
      obtain ⟨hb, hl⟩ := List.nodup_cons.mp h
      rcases List.mem_cons.mp ha with rfl | ha
      · have hkeep : l.filter (fun b => decide (key b ≠ key a)) = l := by
          refine List.filter_eq_self.mpr (fun c hc => decide_eq_true (fun heq => hb ?_))
          exact heq ▸ List.mem_map_of_mem hc
        rw [List.filter_cons_of_neg (by simp), hkeep]
      · have hne : key b ≠ key a := fun heq => hb (heq ▸ List.mem_map_of_mem ha)
        rw [List.filter_cons_of_pos (by simpa using hne)]
        exact ((ih hl ha).cons b).trans (List.Perm.swap a b _)

/-- A filter that only one record passes leaves that record. -/
theorem Unique.filter_only (h : Unique key l) {p : α → Bool} {a : α} (ha : a ∈ l) (hp : p a = true)
    (honly : ∀ b ∈ l, p b = true → b = a) : l.filter p = [a] := by
  have hnodup : (l.filter p).Nodup := (List.Nodup.of_map _ h).filter p
  have hmem : ∀ b, b ∈ l.filter p ↔ b ∈ [a] := by
    intro b
    rw [List.mem_filter, List.mem_singleton]
    exact ⟨fun ⟨hb, hpb⟩ => honly b hb hpb, fun hb => hb ▸ ⟨ha, hp⟩⟩
  exact List.perm_singleton.mp ((List.perm_ext_iff_of_nodup hnodup (by simp)).mpr hmem)

end KeyedList
