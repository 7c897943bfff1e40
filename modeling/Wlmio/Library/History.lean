import Mathlib.Data.List.Basic
import Wlmio.Library.Transition

/-!
# Histories

What an observer sees of the run of a machine, and the changes of a value over time,
each with the value it replaces.
-/

namespace Transition

variable {σ α β : Type}

/-- The states that runs from `init` reach, with what an observer has seen of the run: `see` is
what it sees of one step. -/
inductive Observes (step : σ → α → Option σ) (see : σ → α → σ → List β) (guard : σ → α → Prop)
    (init : σ → Prop) : List β → σ → Prop
  | init {s : σ} : init s → Observes step see guard init [] s
  | step {seen : List β} {s s' : σ} {a : α} :
      Observes step see guard init seen s → guard s a → step s a = some s' →
      Observes step see guard init (seen ++ see s a s') s'

variable {step : σ → α → Option σ} {see : σ → α → σ → List β} {guard : σ → α → Prop}
  {init : σ → Prop}

/-- Runs under a stronger guard, from fewer states, are seen as runs under a weaker one. -/
theorem Observes.mono {guard' : σ → α → Prop} {init' : σ → Prop} (hg : ∀ s a, guard s a → guard' s a)
    (hi : ∀ s, init s → init' s) {seen : List β} {s : σ} (h : Observes step see guard init seen s) :
    Observes step see guard' init' seen s := by
  induction h with
  | init h => exact .init (hi _ h)
  | step _ h hs ih => exact .step ih (hg _ _ h) hs

/-- Whoever observes it, it is a run. -/
theorem Observes.reaches {seen : List β} {s : σ} (h : Observes step see guard init seen s) :
    Reaches step guard init s := by
  induction h with
  | init h => exact .init h
  | step _ hg hs ih => exact .step ih hg hs

/-- Every run can be observed. -/
theorem Reaches.observed {s : σ} (h : Reaches step guard init s) :
    ∃ seen, Observes step see guard init seen s := by
  induction h with
  | init h => exact ⟨[], .init h⟩
  | step _ hg hs ih =>
      obtain ⟨seen, ih⟩ := ih
      exact ⟨_, .step ih hg hs⟩

/-- An observer that sees the labels sees those of an execution. -/
theorem Observes.run {step : σ → α → Option σ} {guard : σ → α → Prop} {init : σ → Prop}
    [∀ s a, Decidable (guard s a)] {seen as : List α} {s s' : σ}
    (h : Observes step (fun _ a _ => [a]) guard init seen s)
    (hr : Transition.run step guard s as = some s') :
    Observes step (fun _ a _ => [a]) guard init (seen ++ as) s' := by
  induction as generalizing seen s with
  | nil =>
      rw [List.append_nil, ← Option.some.inj hr]
      exact h
  | cons a as ih =>
      unfold Transition.run at hr
      split at hr
      · rename_i hg
        obtain ⟨u, hu, hr⟩ := Option.bind_eq_some_iff.mp hr
        rw [← List.singleton_append, ← List.append_assoc]
        exact ih (.step h hg hu) hr
      · cases hr

end Transition

namespace History

variable {β : Type}

/-- A value that was `first`, after these changes. -/
def current (first : β) (news : List β) : β := news.getLastD first

/-- Each change, with the value before it. -/
def changes : β → List β → List (β × β)
  | _, [] => []
  | old, new :: news => (old, new) :: changes new news

theorem current_append (first : β) (news more : List β) :
    current first (news ++ more) = current (current first news) more := by
  cases more with
  | nil => rw [List.append_nil]; rfl
  | cons n ns => simp [current, List.getLastD_eq_getLast?]

theorem current_cons (first n : β) (ns : List β) : current first (n :: ns) = current n ns :=
  current_append first [n] ns

theorem changes_append (first : β) (news more : List β) :
    changes first (news ++ more) = changes first news ++ changes (current first news) more := by
  induction news generalizing first with
  | nil => rfl
  | cons n ns ih => rw [List.cons_append, changes, ih, current_cons, changes, List.cons_append]

theorem changes_new (first : β) (news : List β) : (changes first news).map Prod.snd = news := by
  induction news generalizing first with
  | nil => rfl
  | cons n ns ih => rw [changes, List.map_cons, ih]

theorem changes_head (first : β) (news : List β) :
    ∀ p, (changes first news).head? = some p → p.1 = first := by
  intro p h
  cases news with
  | nil => cases h
  | cons n ns => rw [← Option.some.inj h]

/-- **No change is missing**: each starts from what the one before it led to. -/
theorem changes_chain (first : β) (news : List β) :
    (changes first news).IsChain (fun p q => q.1 = p.2) := by
  induction news generalizing first with
  | nil => exact .nil
  | cons n ns ih =>
      cases ns with
      | nil => exact .singleton _
      | cons m ms => exact List.isChain_cons_cons.mpr ⟨rfl, ih n⟩

end History
