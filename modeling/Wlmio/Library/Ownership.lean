import Mathlib.Data.List.Nodup
import Mathlib.Data.List.Perm.Basic

/-!
# Blocks and their owners

The blocks of an allocator are live or freed. Somebody owns each live block, and the owners
are the parts of a program: what they own together is a list of blocks. The books are in order
when the live blocks are those that are owned, each by one owner, and none has been freed twice.
-/

namespace Ownership

variable {α : Type}

/-- The live blocks are the owned ones, and no block is listed twice or both live and freed. -/
structure Accounted (live freed owned : List α) : Prop where
  owned : live.Perm owned
  once : (freed ++ live).Nodup

variable {live freed owned owned' : List α} {b : α}

theorem accounted_nil : Accounted ([] : List α) [] [] := ⟨.nil, .nil⟩

/-- It does not matter in which order the owners are asked. -/
theorem Accounted.perm (h : Accounted live freed owned) (hp : owned.Perm owned') :
    Accounted live freed owned' := ⟨h.owned.trans hp, h.once⟩

/-- **A new block gets an owner.** -/
theorem Accounted.allocate (h : Accounted live freed owned) (hb : b ∉ freed ++ live) :
    Accounted (b :: live) freed (b :: owned) :=
  ⟨h.owned.cons b, List.nodup_middle.mpr (List.nodup_cons.mpr ⟨hb, h.once⟩)⟩

/-- **A block is freed by its owner.** -/
theorem Accounted.free [DecidableEq α] (h : Accounted live freed (b :: owned)) :
    Accounted (live.erase b) (freed ++ [b]) owned := by
  have hmem : b ∈ live := h.owned.symm.subset List.mem_cons_self
  have hperm : (freed ++ live).Perm (freed ++ [b] ++ live.erase b) := by
    rw [List.append_assoc]
    exact (List.perm_cons_erase hmem).append_left freed
  refine ⟨?_, hperm.nodup h.once⟩
  have herase := h.owned.erase b
  rwa [List.erase_cons_head] at herase

theorem Accounted.mem_live (h : Accounted live freed owned) : b ∈ live ↔ b ∈ owned :=
  h.owned.mem_iff

theorem Accounted.nodup (h : Accounted live freed owned) : owned.Nodup :=
  h.owned.nodup (List.nodup_append.mp h.once).2.1

theorem Accounted.freed_nodup (h : Accounted live freed owned) : freed.Nodup :=
  (List.nodup_append.mp h.once).1

end Ownership
