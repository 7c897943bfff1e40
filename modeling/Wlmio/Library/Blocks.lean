import Mathlib.Data.List.Basic

/-!
# Transfers in blocks

A reader fetches a sequence block by block. It asks for the block at an offset, moves on by
what it has received, and stops at the first block that is not full. An exchange is what was
asked and what came back.
-/

namespace Blocks

variable {α : Type}

/-- The block at an offset. -/
def block (size : Nat) (data : List α) (offset : Nat) : List α := (data.drop offset).take size

/-- The exchanges of a reader that starts at an offset. It goes on after a full block only. -/
def Follows (size : Nat) : Nat → List (Nat × List α) → Prop
  | _, [] => True
  | offset, e :: es =>
    e.1 = offset ∧ (es ≠ [] → size ≤ e.2.length) ∧ Follows size (offset + e.2.length) es

/-- The last block was not full. -/
def Stopped (size : Nat) (es : List (Nat × List α)) : Prop :=
  ∃ e, es.getLast? = some e ∧ e.2.length < size

/-- What has been received. -/
def received (es : List (Nat × List α)) : List α := (es.map Prod.snd).flatten

variable {size : Nat} {data : List α}

theorem length_block (size : Nat) (data : List α) (offset : Nat) :
    (block size data offset).length = min size (data.length - offset) := by
  unfold block
  rw [List.length_take, List.length_drop]

/-- A block and what comes behind it. -/
theorem block_append (size : Nat) (data : List α) (offset n : Nat) :
    block size data offset ++ (data.drop (offset + size)).take (size * n) =
      (data.drop offset).take (size * (n + 1)) := by
  unfold block
  rw [Nat.mul_succ, Nat.add_comm (size * n), List.take_add, List.drop_drop]

/-- What is received is the data from the offset on. -/
theorem received_eq {es : List (Nat × List α)} {offset : Nat} (h : Follows size offset es)
    (hserved : ∀ e ∈ es, e.2 = block size data e.1) :
    received es = (data.drop offset).take (size * es.length) := by
  induction es generalizing offset with
  | nil => simp [received]
  | cons e es ih =>
      obtain ⟨rfl, hfull, hrest⟩ := h
      have he : e.2 = block size data e.1 := hserved e List.mem_cons_self
      have hstep : received (e :: es) = e.2 ++ received es := rfl
      rw [hstep, List.length_cons]
      by_cases hnil : es = []
      · subst hnil
        rw [he]
        simp [received, block]
      · have hlen : (block size data e.1).length = size := by
          have := hfull hnil
          rw [he, length_block] at this
          rw [length_block]
          omega
        have ih := ih hrest (fun e' he' => hserved e' (List.mem_cons_of_mem _ he'))
        rw [ih, he, hlen, block_append]

/-- A reader that has not started behind the end makes this many exchanges at most, and has made them
all exactly when it has stopped. -/
theorem length_le {es : List (Nat × List α)} {offset : Nat} (hsize : 0 < size)
    (h : Follows size offset es) (hserved : ∀ e ∈ es, e.2 = block size data e.1)
    (ho : offset ≤ data.length) :
    es.length ≤ (data.length - offset) / size + 1 ∧
      (Stopped size es ↔ es.length = (data.length - offset) / size + 1) := by
  induction es generalizing offset with
  | nil =>
      refine ⟨Nat.zero_le _, ⟨?_, fun hlen => by cases hlen⟩⟩
      rintro ⟨e, he, _⟩
      cases he
  | cons e es ih =>
      obtain ⟨rfl, hfull, hrest⟩ := h
      have he : e.2 = block size data e.1 := hserved e List.mem_cons_self
      have hlen : e.2.length = min size (data.length - e.1) := by rw [he, length_block]
      by_cases hnil : es = []
      · subst hnil
        have hstop : Stopped size [e] ↔ e.2.length < size := by
          constructor
          · rintro ⟨e', he', hlt⟩
            cases he'
            exact hlt
          · exact fun hlt => ⟨e, rfl, hlt⟩
        have hshort : e.2.length < size ↔ data.length - e.1 < size := by omega
        have hdiv : (data.length - e.1) / size = 0 ↔ data.length - e.1 < size := by
          rw [Nat.div_eq_zero_iff]
          exact ⟨fun h => h.resolve_left (Nat.ne_of_gt hsize), .inr⟩
        refine ⟨Nat.le_add_left _ _, ?_⟩
        rw [hstop, hshort, ← hdiv, List.length_singleton]
        exact ⟨fun h => by rw [h], fun h => (Nat.succ.inj h).symm⟩
      · -- the block was full, so the rest of the data is shorter by one block
        have hge : size ≤ data.length - e.1 := by
          have := hfull hnil
          omega
        have hmin : e.2.length = size := by omega
        obtain ⟨hle, hiff⟩ := ih hrest (fun e' he' => hserved e' (List.mem_cons_of_mem _ he'))
          (by omega)
        have hdiv : (data.length - e.1) / size = (data.length - (e.1 + e.2.length)) / size + 1 := by
          rw [hmin, ← Nat.sub_sub]
          exact Nat.div_eq_sub_div hsize hge
        have hstop : Stopped size (e :: es) ↔ Stopped size es := by
          unfold Stopped
          rw [List.getLast?_cons]
          cases hlast : es.getLast? with
          | none => exact absurd (List.getLast?_eq_none_iff.mp hlast) hnil
          | some e' => rfl
        rw [List.length_cons, hstop, hiff, hdiv]
        exact ⟨by omega, by omega⟩

/-- **A reader that has stopped has the data.** -/
theorem received_whole {es : List (Nat × List α)} (hsize : 0 < size) (h : Follows size 0 es)
    (hserved : ∀ e ∈ es, e.2 = block size data e.1) (hstop : Stopped size es) :
    received es = data := by
  have hlen := (length_le hsize h hserved (Nat.zero_le _)).2.mp hstop
  rw [received_eq h hserved, List.drop_zero, hlen, Nat.sub_zero]
  refine List.take_of_length_le ?_
  have := Nat.lt_mul_div_succ data.length hsize
  rw [Nat.mul_succ] at this ⊢
  omega

end Blocks
