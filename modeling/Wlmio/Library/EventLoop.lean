import Mathlib.Data.List.Basic
import Mathlib.Logic.Relation

/-!
# Event loops

A loop has a queue of callbacks that are ready. It runs them in the order in which they
were scheduled, and what a callback schedules in turn comes last. `exec` is what a
callback does: the state after it, and the callbacks it schedules.

Often a part of the state, which `view` extracts, is moved by each callback in a way that
depends on nothing else. Then the queue says what that part will be when any of the
callbacks in it gets its turn.
-/

/-- The state callbacks share, and the callbacks that are ready. -/
structure EventLoop (σ α : Type) where
  state : σ
  ready : List α

namespace EventLoop

variable {σ α τ : Type}

/-- Run the first callback, if there is one. -/
def turn (exec : σ → α → σ × List α) (l : EventLoop σ α) : Option (EventLoop σ α) :=
  match l.ready with
  | [] => none
  | a :: rest => some ⟨(exec l.state a).1, rest ++ (exec l.state a).2⟩

/-- Run these callbacks one after the other. -/
def execAll (exec : σ → α → σ × List α) : σ → List α → σ × List α
  | s, [] => (s, [])
  | s, a :: as =>
    let (s, new) := exec s a
    let (s, more) := execAll exec s as
    (s, new ++ more)

/-- Any number of turns. -/
abbrev Turns (exec : σ → α → σ × List α) : EventLoop σ α → EventLoop σ α → Prop :=
  Relation.ReflTransGen (fun l l' => turn exec l = some l')

variable {exec : σ → α → σ × List α}

theorem turn_cases {l l' : EventLoop σ α} (h : turn exec l = some l') :
    ∃ a rest, l.ready = a :: rest ∧ l' = ⟨(exec l.state a).1, rest ++ (exec l.state a).2⟩ := by
  unfold turn at h
  split at h
  · cases h
  · rename_i a rest hready
    exact ⟨a, rest, hready, (Option.some.inj h).symm⟩

/-- **The callbacks at the front are run in their order**, and the others move up. -/
theorem turns_append (s : σ) (as bs : List α) :
    Turns exec ⟨s, as ++ bs⟩ ⟨(execAll exec s as).1, bs ++ (execAll exec s as).2⟩ := by
  induction as generalizing s bs with
  | nil =>
      rw [show bs ++ (execAll exec s []).2 = [] ++ bs by simp [execAll]]
      exact .refl
  | cons a as ih =>
      have hturn : turn exec ⟨s, a :: as ++ bs⟩ =
          some ⟨(exec s a).1, as ++ (bs ++ (exec s a).2)⟩ := by
        rw [← List.append_assoc]
        rfl
      have hrest := ih (exec s a).1 (bs ++ (exec s a).2)
      rw [List.append_assoc] at hrest
      exact .head hturn hrest

/-- What holds of every callback that one may schedule holds of all that are scheduled. -/
theorem execAll_new {P : α → Prop} {as : List α} (h : ∀ s, ∀ a ∈ as, ∀ b ∈ (exec s a).2, P b)
    (s : σ) : ∀ b ∈ (execAll exec s as).2, P b := by
  induction as generalizing s with
  | nil => intro b hb; cases hb
  | cons a as ih =>
      intro b hb
      rcases List.mem_append.mp hb with hb | hb
      · exact h s a List.mem_cons_self b hb
      · exact ih (fun s c hc => h s c (List.mem_cons_of_mem _ hc)) _ b hb

/-! ## What the queue foretells -/

variable {view : σ → τ} {move : τ → α → τ}

theorem execAll_view (hview : ∀ s a, view (exec s a).1 = move (view s) a) (s : σ) (as : List α) :
    view (execAll exec s as).1 = as.foldl move (view s) := by
  induction as generalizing s with
  | nil => rfl
  | cons a as ih =>
      show view (execAll exec (exec s a).1 as).1 = _
      rw [ih, hview]
      rfl

/-- Callbacks that do not move it leave it as it is. -/
theorem foldl_of_still {as : List α} {t : τ} (h : ∀ a ∈ as, move t a = t) :
    as.foldl move t = t := by
  induction as with
  | nil => rfl
  | cons a as ih =>
      rw [List.foldl_cons, h a List.mem_cons_self]
      exact ih (fun b hb => h b (List.mem_cons_of_mem _ hb))

/-- `P` holds at the turn of each callback. -/
def Along (move : τ → α → τ) (P : τ → α → Prop) : τ → List α → Prop
  | _, [] => True
  | t, a :: as => P t a ∧ Along move P (move t a) as

theorem along_append {P : τ → α → Prop} {t : τ} {as bs : List α} :
    Along move P t (as ++ bs) ↔ Along move P t as ∧ Along move P (as.foldl move t) bs := by
  induction as generalizing t with
  | nil => exact ⟨fun h => ⟨trivial, h⟩, fun h => h.2⟩
  | cons a as ih =>
      constructor
      · intro h
        exact ⟨⟨h.1, (ih.mp h.2).1⟩, (ih.mp h.2).2⟩
      · intro h
        exact ⟨h.1.1, ih.mpr ⟨h.1.2, h.2⟩⟩

theorem along_of_all {P : τ → α → Prop} {as : List α} (h : ∀ t, ∀ a ∈ as, P t a) (t : τ) :
    Along move P t as := by
  induction as generalizing t with
  | nil => trivial
  | cons a as ih =>
      exact ⟨h t a List.mem_cons_self, ih (fun t b hb => h t b (List.mem_cons_of_mem _ hb)) _⟩

end EventLoop
