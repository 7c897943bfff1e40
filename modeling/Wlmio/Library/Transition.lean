import Mathlib.Logic.Basic

/-!
# Runs of a partial labelled step function

A machine is a function `step : σ → α → Option σ`: `none` where the label is not
possible. A `guard` narrows the runs that are looked at to those whose every step
meets a condition on the state before it and the label.

The induction over runs is done here once. A property of all reachable states needs
that it holds initially and that one step keeps it, where the step may use that the
state before it is itself reachable.
-/

namespace Transition

variable {σ α : Type}

/-- The states that runs from `init` reach by steps that meet `guard`. -/
inductive Reaches (step : σ → α → Option σ) (guard : σ → α → Prop) (init : σ → Prop) : σ → Prop
  | init {s : σ} : init s → Reaches step guard init s
  | step {s s' : σ} {a : α} :
      Reaches step guard init s → guard s a → step s a = some s' → Reaches step guard init s'

/-- No condition on the steps. -/
def free : σ → α → Prop := fun _ _ => True

variable {step : σ → α → Option σ} {guard guard' : σ → α → Prop} {init : σ → Prop}

/-- **The invariant rule.** -/
theorem Reaches.invariant {P : σ → Prop} (hinit : ∀ s, init s → P s)
    (hstep : ∀ s a s', Reaches step guard init s → guard s a → P s → step s a = some s' → P s')
    {s : σ} (h : Reaches step guard init s) : P s := by
  induction h with
  | init h => exact hinit _ h
  | step hr hg hs ih => exact hstep _ _ _ hr hg ih hs

/-- Runs under a stronger guard are runs under a weaker one. -/
theorem Reaches.mono (hg : ∀ s a, guard s a → guard' s a) {s : σ}
    (h : Reaches step guard init s) : Reaches step guard' init s := by
  induction h with
  | init h => exact .init h
  | step _ h hs ih => exact .step ih (hg _ _ h) hs

/-- Every guarded run is a run. -/
theorem Reaches.free {s : σ} (h : Reaches step guard init s) :
    Reaches step Transition.free init s := h.mono (fun _ _ _ => trivial)

/-- A run may go on from where another has ended. -/
theorem Reaches.trans {s s' : σ} (h : Reaches step guard init s)
    (h' : Reaches step guard (· = s) s') : Reaches step guard init s' := by
  induction h' with
  | init heq => exact heq ▸ h
  | step _ hg hs ih => exact .step ih hg hs

/-- Execute a list of labels, as long as each is possible and meets the guard. -/
def run (step : σ → α → Option σ) (guard : σ → α → Prop) [∀ s a, Decidable (guard s a)] (s : σ) :
    List α → Option σ
  | [] => some s
  | a :: as => if guard s a then (step s a).bind (fun s' => run step guard s' as) else none

/-- What an execution ends in is reachable. -/
theorem Reaches.run [∀ s a, Decidable (guard s a)] {as : List α} {s s' : σ}
    (h : Reaches step guard init s) (hr : Transition.run step guard s as = some s') :
    Reaches step guard init s' := by
  induction as generalizing s with
  | nil => rw [← Option.some.inj hr]; exact h
  | cons a as ih =>
      unfold Transition.run at hr
      split at hr
      · rename_i hg
        obtain ⟨u, hu, hr⟩ := Option.bind_eq_some_iff.mp hr
        exact ih (.step h hg hu) hr
      · simp at hr

instance (s : σ) (a : α) : Decidable (free s a) := isTrue trivial

end Transition
