import Mathlib.Data.List.Count
import Mathlib.Logic.Function.Basic

/-!
# Reference counts

An object counts the references there are to it. A component owns some of them and others own the
rest. What has a count does not say which is which: a reference that is counted and given away
and a reference that is given away uncounted look the same until it is dropped.
-/

namespace References

/-- The count of each object, and how many references to it others own. -/
structure Counts (α : Type) where
  count : α → Int
  others : α → Nat

namespace Counts

variable {α : Type} [DecidableEq α]

/-- The references the component owns; negative if it has given away or dropped more. -/
def held (c : Counts α) (o : α) : Int := c.count o - c.others o

/-- The component counts a reference. -/
def incref (c : Counts α) (o : α) : Counts α :=
  { c with count := Function.update c.count o (c.count o + 1) }

/-- The component drops a reference. -/
def decref (c : Counts α) (o : α) : Counts α :=
  { c with count := Function.update c.count o (c.count o - 1) }

/-- A reference of the component becomes another's. -/
def give (c : Counts α) (o : α) : Counts α :=
  { c with others := Function.update c.others o (c.others o + 1) }

/-- Others take a reference of their own. -/
def take (c : Counts α) (o : α) : Counts α := (c.incref o).give o

/-- Others drop a reference. -/
def drop (c : Counts α) (o : α) : Counts α :=
  { c.decref o with others := Function.update c.others o (c.others o - 1) }

variable (c : Counts α) (o o' : α)

@[simp] theorem held_incref : (c.incref o).held o' = c.held o' + if o' = o then 1 else 0 := by
  unfold held incref
  dsimp only
  rw [Function.update_apply]
  split
  · rename_i h
    rw [h]
    omega
  · omega

@[simp] theorem held_decref : (c.decref o).held o' = c.held o' - if o' = o then 1 else 0 := by
  unfold held decref
  dsimp only
  rw [Function.update_apply]
  split
  · rename_i h
    rw [h]
    omega
  · omega

@[simp] theorem held_give : (c.give o).held o' = c.held o' - if o' = o then 1 else 0 := by
  unfold held give
  dsimp only
  rw [Function.update_apply]
  split
  · rename_i h
    rw [h]
    omega
  · omega

@[simp] theorem held_take : (c.take o).held o' = c.held o' := by
  unfold take
  rw [held_give, held_incref]
  omega

/-- Whoever drops a reference of his own takes none from the component. -/
theorem held_drop (h : 0 < c.others o) : (c.drop o).held o' = c.held o' := by
  unfold held drop decref
  dsimp only
  rw [Function.update_apply, Function.update_apply]
  split
  · rename_i heq
    rw [heq]
    omega
  · rfl

theorem count_incref_of_ne {c : Counts α} {o o' : α} (h : o' ≠ o) :
    (c.incref o).count o' = c.count o' := Function.update_of_ne h _ c.count

/-! ## Owners -/

/-- The component owns one reference to an object for each of its owners. -/
def Covers (owners : List α) : Prop := c.held o = owners.count o

variable {c o o'} {owners rest : List α}

/-- **An object that somebody owns is alive.** -/
theorem Covers.alive (h : c.Covers o owners) (ho : o ∈ owners ∨ 0 < c.others o) :
    0 < c.count o := by
  unfold Covers held at h
  rcases ho with ho | ho
  · have := List.count_pos_iff.mpr ho
    omega
  · omega

/-- **An owner that goes drops its reference.** -/
theorem Covers.decref (h : c.Covers o' owners) (hp : owners.Perm (o :: rest)) :
    (c.decref o).Covers o' rest := by
  unfold Covers at h ⊢
  rw [held_decref, h, hp.count_eq, List.count_cons]
  by_cases heq : o' = o
  · simp [heq]
  · simp [heq, Ne.symm heq]

end Counts

end References
