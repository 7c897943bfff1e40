import Mathlib.Data.List.Basic

/-!
# One machine that is a family of machines

Each input of the machine concerns some members of a family of smaller machines, and
each output comes from one of them. `Simulates` says so for one step: a member that is
concerned takes a step of its own, the others stay and give out nothing.

The induction over runs is done once. Seen from one member, a run of the whole is a
run of that member on its own inputs (`Simulates.project`), and so two runs in which
a member starts alike and sees the same inputs give it the same outputs
(`Simulates.isolated`).
-/

namespace Demultiplexer

variable {S κ σ α β : Type}

/-- The state after some inputs. -/
def final (step : S → α → S × Option β) (s : S) (as : List α) : S :=
  as.foldl (fun s a => (step s a).1) s

/-- What comes out on the way. -/
def outputs (step : S → α → S × Option β) : S → List α → List β
  | _, [] => []
  | s, a :: as => (step s a).2.toList ++ outputs step (step s a).1 as

@[simp] theorem final_nil (step : S → α → S × Option β) (s : S) : final step s [] = s := rfl

@[simp] theorem final_cons (step : S → α → S × Option β) (s : S) (a : α) (as : List α) :
    final step s (a :: as) = final step (step s a).1 as := rfl

theorem final_append (step : S → α → S × Option β) (s : S) (as as' : List α) :
    final step s (as ++ as') = final step (final step s as) as' := List.foldl_append

@[simp] theorem outputs_nil (step : S → α → S × Option β) (s : S) : outputs step s [] = [] := rfl

@[simp] theorem outputs_cons (step : S → α → S × Option β) (s : S) (a : α) (as : List α) :
    outputs step s (a :: as) = (step s a).2.toList ++ outputs step (step s a).1 as := rfl

theorem outputs_append (step : S → α → S × Option β) (s : S) (as as' : List α) :
    outputs step s (as ++ as') = outputs step s as ++ outputs step (final step s as) as' := by
  induction as generalizing s with
  | nil => rfl
  | cons a as ih => rw [List.cons_append, outputs_cons, ih, outputs_cons, List.append_assoc, final_cons]

/-- The runs of a member, whose step need not be a function. -/
inductive Runs (comp : σ → α → σ → Option β → Prop) : σ → List α → σ → List β → Prop
  | nil {x : σ} : Runs comp x [] x []
  | cons {x y z : σ} {a : α} {as : List α} {o : Option β} {bs : List β} :
      comp x a y o → Runs comp y as z bs → Runs comp x (a :: as) z (o.toList ++ bs)

/-- A run by a function is the run of that function. -/
theorem Runs.eq_outputs {comp : σ → α → σ → Option β → Prop} {f : σ → α → σ × Option β}
    (hf : ∀ x a y o, comp x a y o → f x a = (y, o)) {x y : σ} {as : List α} {bs : List β}
    (h : Runs comp x as y bs) : y = final f x as ∧ bs = outputs f x as := by
  induction h with
  | nil => exact ⟨rfl, rfl⟩
  | cons hstep _ ih =>
      have hfx := hf _ _ _ _ hstep
      rw [final_cons, outputs_cons, hfx]
      exact ⟨ih.1, congrArg _ ih.2⟩

variable [DecidableEq κ]

/-- The outputs that are from one member. -/
def outputsOf (lane : β → κ) (k : κ) (bs : List β) : List β :=
  bs.filter (fun b => decide (lane b = k))

/-- The same for what comes out of a single step. -/
def outputOf (lane : β → κ) (k : κ) (o : Option β) : Option β :=
  o.filter (fun b => decide (lane b = k))

/-- The inputs that concern one member. -/
def inputsFor (concerns : κ → α → Bool) (k : κ) (as : List α) : List α := as.filter (concerns k)

theorem outputsOf_append (lane : β → κ) (k : κ) (bs bs' : List β) :
    outputsOf lane k (bs ++ bs') = outputsOf lane k bs ++ outputsOf lane k bs' :=
  List.filter_append ..

theorem outputsOf_toList (lane : β → κ) (k : κ) (o : Option β) :
    outputsOf lane k o.toList = (outputOf lane k o).toList := by
  cases o with
  | none => rfl
  | some b =>
      unfold outputsOf outputOf
      by_cases hb : lane b = k
      · simp [hb, Option.filter]
      · simp [hb, Option.filter]

/-- `step` is a family of machines with the steps `comp`: `concerns` tells which members an input is
for, `lane` which one an output is from, and `rel` what represents a member. -/
structure Simulates (step : S → α → S × Option β) (concerns : κ → α → Bool) (lane : β → κ)
    (Inv : S → Prop) (rel : S → κ → σ → Prop) (comp : κ → σ → α → σ → Option β → Prop) : Prop where
  keeps : ∀ s a, Inv s → Inv (step s a).1
  own : ∀ s a k x, Inv s → concerns k a = true → rel s k x →
    ∃ y, rel (step s a).1 k y ∧ comp k x a y (outputOf lane k (step s a).2)
  others : ∀ s a k x, Inv s → concerns k a = false → rel s k x →
    rel (step s a).1 k x ∧ outputOf lane k (step s a).2 = none

variable {step : S → α → S × Option β} {concerns : κ → α → Bool} {lane : β → κ} {Inv : S → Prop}
  {rel : S → κ → σ → Prop} {comp : κ → σ → α → σ → Option β → Prop}

theorem Simulates.final_inv (h : Simulates step concerns lane Inv rel comp) {s : S} (hs : Inv s)
    (as : List α) : Inv (final step s as) := by
  induction as generalizing s with
  | nil => exact hs
  | cons a as ih => exact ih (h.keeps s a hs)

/-- **A run of the whole is a run of each member on its own inputs.** -/
theorem Simulates.project (h : Simulates step concerns lane Inv rel comp) {s : S} {k : κ} {x : σ}
    (hs : Inv s) (hx : rel s k x) (as : List α) :
    ∃ y, rel (final step s as) k y ∧
      Runs (comp k) x (inputsFor concerns k as) y (outputsOf lane k (outputs step s as)) := by
  induction as generalizing s x with
  | nil => exact ⟨x, hx, .nil⟩
  | cons a as ih =>
      have hs' := h.keeps s a hs
      rw [outputs_cons, outputsOf_append, outputsOf_toList, final_cons]
      unfold inputsFor at ih ⊢
      by_cases hk : concerns k a = true
      · -- the member takes the input
        obtain ⟨y, hy, hstep⟩ := h.own s a k x hs hk hx
        obtain ⟨z, hz, hrun⟩ := ih hs' hy
        rw [List.filter_cons_of_pos hk]
        exact ⟨z, hz, .cons hstep hrun⟩
      · -- it is not concerned, and nothing comes out of it
        obtain ⟨hy, hout⟩ := h.others s a k x hs (Bool.eq_false_iff.mpr hk) hx
        obtain ⟨z, hz, hrun⟩ := ih hs' hy
        rw [List.filter_cons_of_neg hk, hout]
        exact ⟨z, hz, hrun⟩

/-- **A member that takes its steps by a function** gives out what that function says. -/
theorem Simulates.outputsOf_eq {f : κ → σ → α → σ × Option β}
    (h : Simulates step concerns lane Inv rel comp)
    (hf : ∀ k x a y o, comp k x a y o → f k x a = (y, o)) {s : S} {k : κ} {x : σ}
    (hs : Inv s) (hx : rel s k x) (as : List α) :
    outputsOf lane k (outputs step s as) = outputs (f k) x (inputsFor concerns k as) := by
  obtain ⟨_, _, hrun⟩ := h.project hs hx as
  exact (hrun.eq_outputs (hf k)).2

/-- **Isolation.** What a member gives out depends on its state and its own inputs only. -/
theorem Simulates.isolated {f : κ → σ → α → σ × Option β}
    (h : Simulates step concerns lane Inv rel comp)
    (hf : ∀ k x a y o, comp k x a y o → f k x a = (y, o)) {s s' : S} {k : κ} {x : σ}
    (hs : Inv s) (hs' : Inv s') (hx : rel s k x) (hx' : rel s' k x) {as as' : List α}
    (has : inputsFor concerns k as = inputsFor concerns k as') :
    outputsOf lane k (outputs step s as) = outputsOf lane k (outputs step s' as') := by
  rw [h.outputsOf_eq hf hs hx, h.outputsOf_eq hf hs' hx', has]

end Demultiplexer
