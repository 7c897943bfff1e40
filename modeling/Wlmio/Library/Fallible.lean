/-!
# Functions that may fail

Taking a computation in `Except` apart that is known to have succeeded.
-/

namespace Fallible

variable {ε α β : Type}

/-- A sequence succeeds if both parts do. -/
@[simp] theorem bind_eq_ok {x : Except ε α} {f : α → Except ε β} {b : β} :
    (x >>= f) = .ok b ↔ ∃ a, x = .ok a ∧ f a = .ok b := by
  cases x with
  | error e => simp [bind, Except.bind]
  | ok a => simp [bind, Except.bind]

@[simp] theorem map_eq_ok {x : Except ε α} {f : α → β} {b : β} :
    x.map f = .ok b ↔ ∃ a, x = .ok a ∧ f a = b := by
  cases x with
  | error e => simp [Except.map]
  | ok a => simp [Except.map]

theorem ok_bind (a : α) (f : α → Except ε β) : ((.ok a : Except ε α) >>= f) = f a := rfl

/-- The second part of a sequence may give back what it takes. -/
theorem bind_eq_self {x : Except ε α} {f : α → Except ε α} (h : ∀ a, x = .ok a → f a = .ok a) :
    (x >>= f) = x := by
  cases x with
  | error e => rfl
  | ok a => exact h a rfl

/-- The second part matters only for what the first gives. -/
theorem bind_congr_ok {x : Except ε α} {f g : α → Except ε β} (h : ∀ a, x = .ok a → f a = g a) :
    (x >>= f) = (x >>= g) := by
  cases x with
  | error e => rfl
  | ok a => exact h a rfl

/-- A sequence fails if the first part does, or the second after it. -/
theorem bind_eq_error {x : Except ε α} {f : α → Except ε β} {e : ε} :
    (x >>= f) = .error e ↔ x = .error e ∨ ∃ a, x = .ok a ∧ f a = .error e := by
  cases x with
  | error e => simp [bind, Except.bind]
  | ok a => simp [bind, Except.bind]

theorem map_eq_error {x : Except ε α} {f : α → β} {e : ε} :
    x.map f = .error e ↔ x = .error e := by
  cases x with
  | error e => simp [Except.map]
  | ok a => simp [Except.map]

/-! ## Which failures -/

/-- The computation fails only in ways that `p` allows. -/
def FailsOnly (p : ε → Prop) (x : Except ε α) : Prop := ∀ e, x = .error e → p e

variable {p q : ε → Prop}

theorem FailsOnly.ok (a : α) : FailsOnly p (.ok a) := fun _ h => by cases h

theorem FailsOnly.error {e : ε} (h : p e) : FailsOnly p (.error e : Except ε α) :=
  fun _ heq => Except.error.inj heq ▸ h

theorem FailsOnly.mono {x : Except ε α} (hx : FailsOnly p x) (h : ∀ e, p e → q e) :
    FailsOnly q x := fun e he => h e (hx e he)

/-- A sequence fails only in the ways its parts do, the second after any result of the first. -/
theorem FailsOnly.bind {x : Except ε α} {f : α → Except ε β} (hx : FailsOnly p x)
    (hf : ∀ a, x = .ok a → FailsOnly p (f a)) : FailsOnly p (x >>= f) := by
  intro e h
  rcases bind_eq_error.mp h with h | ⟨a, ha, h⟩
  · exact hx e h
  · exact hf a ha e h

theorem FailsOnly.map {x : Except ε α} (hx : FailsOnly p x) (f : α → β) :
    FailsOnly p (x.map f) := fun e h => hx e (map_eq_error.mp h)

end Fallible
