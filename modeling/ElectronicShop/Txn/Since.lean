import ElectronicShop.Txn.Serial

/-!
# Since

An operator on runs: a step of one kind has been taken, and none of another kind since. It is
what a state remembers of its past when every step either sets a fact, keeps it or drops it.
-/

namespace Txn

variable {A ε σ : Type}

/-- The run has taken a step that `p` holds of, and after it no step that `q` holds of. -/
inductive Since (step : A → σ → Except ε σ) (guard : σ → A → Prop) (s₀ : σ) (p q : σ → A → Prop) :
    List A → σ → Prop where
  | now {as : List A} {a : A} {s s' : σ} (before : Run step guard s₀ as s) (allowed : guard s a)
      (taken : p s a) (committed : step a s = .ok s') : Since step guard s₀ p q (as ++ [a]) s'
  | snoc {as : List A} {a : A} {s s' : σ} (since : Since step guard s₀ p q as s)
      (allowed : guard s a) (kept : ¬ q s a) (committed : step a s = .ok s') :
      Since step guard s₀ p q (as ++ [a]) s'

namespace Since

variable {step : A → σ → Except ε σ} {guard : σ → A → Prop} {s₀ s : σ} {p q : σ → A → Prop}
  {as : List A}

theorem run (h : Since step guard s₀ p q as s) : Run step guard s₀ as s := by
  induction h with
  | now before allowed taken committed => exact before.snoc allowed committed
  | snoc since allowed kept committed ih => exact ih.snoc allowed committed

/-- A step of the first kind has been taken. -/
theorem earlier (h : Since step guard s₀ p q as s) :
    Run.Earlier step guard s₀ (fun _ => p) as := by
  induction h with
  | now before allowed taken committed => exact .last before taken
  | snoc since allowed kept committed ih => exact ih.snoc _

/-- A fact that is false at the start, and that every step from a state that is reached sets,
    keeps or drops, holds exactly when it has been set and not been dropped since. -/
theorem iff_of_step (fact : σ → Prop) (h₀ : ¬ fact s₀)
    (hstep : ∀ as s a s', Run step guard s₀ as s → step a s = .ok s' →
      (fact s' ↔ p s a ∨ fact s ∧ ¬ q s a))
    (hrun : Run step guard s₀ as s) : fact s ↔ Since step guard s₀ p q as s := by
  constructor
  · intro hfact
    induction hrun with
    | nil => exact absurd hfact h₀
    | snoc before allowed committed ih =>
      rcases (hstep _ _ _ _ before committed).mp hfact with htaken | ⟨hold, hkept⟩
      · exact .now before allowed htaken committed
      · exact (ih hold).snoc allowed hkept committed
  · intro hsince
    induction hsince with
    | now before allowed taken committed =>
      exact (hstep _ _ _ _ before committed).mpr (Or.inl taken)
    | snoc since allowed kept committed ih =>
      exact (hstep _ _ _ _ since.run committed).mpr (Or.inr ⟨ih since.run, kept⟩)

end Since

/-- A fact that only some of the steps can end still holds after a run, or one of these steps was
    taken. -/
theorem Run.holds_or_earlier {step : A → σ → Except ε σ} {guard : σ → A → Prop} {s₀ s : σ}
    {as : List A} (fact : σ → Prop) (ends : σ → A → Prop) (h₀ : fact s₀)
    (hstep : ∀ s a s', step a s = .ok s' → fact s → ¬ ends s a → fact s')
    (hrun : Run step guard s₀ as s) :
    fact s ∨ Run.Earlier step guard s₀ (fun _ => ends) as := by
  induction hrun with
  | nil => exact Or.inl h₀
  | @snoc as a s s' before allowed committed ih =>
    rcases ih with hfact | hearlier
    · by_cases hends : ends s a
      · exact Or.inr (.last before hends)
      · exact Or.inl (hstep s a s' committed hfact hends)
    · exact Or.inr (hearlier.snoc a)

/-- A fact that steps of one kind set and that only steps of another kind can end: it holds after
    a run, or it has been ended and not been set since. -/
theorem Run.holds_or_since {step : A → σ → Except ε σ} {guard : σ → A → Prop} {s₀ s : σ}
    {as : List A} (fact : σ → Prop) (ends sets : σ → A → Prop) (h₀ : fact s₀)
    (hstep : ∀ as s a s', Run step guard s₀ as s → step a s = .ok s' →
      sets s a ∨ fact s ∧ ¬ ends s a → fact s')
    (hrun : Run step guard s₀ as s) : fact s ∨ Since step guard s₀ ends sets as s := by
  induction hrun with
  | nil => exact Or.inl h₀
  | @snoc as a s s' before allowed committed ih =>
    by_cases hsets : sets s a
    · exact Or.inl (hstep as s a s' before committed (Or.inl hsets))
    rcases ih with hfact | hsince
    · by_cases hends : ends s a
      · exact Or.inr (.now before allowed hends committed)
      · exact Or.inl (hstep as s a s' before committed (Or.inr ⟨hfact, hends⟩))
    · exact Or.inr (hsince.snoc allowed hsets committed)

end Txn
