/-!
# While loops

A loop is given by what one iteration makes of the state; there is none when the condition is
false. `Ends` counts the iterations of a loop that ends. A variant that every iteration lowers
bounds them, and what every iteration keeps holds in the end.
-/

namespace Loop

variable {σ : Type} {next : σ → Option σ} {s t : σ} {n : Nat}

/-- The loop ends after `n` iterations, and leaves the second state. -/
inductive Ends (next : σ → Option σ) : Nat → σ → σ → Prop where
  | done {s : σ} (stop : next s = none) : Ends next 0 s s
  | step {n : Nat} {s s' t : σ} (iterate : next s = some s') (rest : Ends next n s' t) :
      Ends next (n + 1) s t

namespace Ends

theorem stopped (h : Ends next n s t) : next t = none := by
  induction h with
  | done stop => exact stop
  | step _ _ ih => exact ih

/-- A loop ends in one way. -/
theorem unique {n' : Nat} {t' : σ} (h : Ends next n s t) (h' : Ends next n' s t') :
    n = n' ∧ t = t' := by
  induction h generalizing n' with
  | done stop =>
    cases h' with
    | done => exact ⟨rfl, rfl⟩
    | step iterate => cases stop.symm.trans iterate
  | step iterate _ ih =>
    cases h' with
    | done stop => cases stop.symm.trans iterate
    | step iterate' rest' =>
      cases iterate.symm.trans iterate'
      obtain ⟨rfl, rfl⟩ := ih rest'
      exact ⟨rfl, rfl⟩

/-- What every iteration keeps holds in the end. -/
theorem invariant {I : σ → Prop} (hstep : ∀ s s', next s = some s' → I s → I s')
    (h : Ends next n s t) (hs : I s) : I t := by
  induction h with
  | done => exact hs
  | step iterate _ ih => exact ih (hstep _ _ iterate hs)

end Ends

/-- A variant that every iteration lowers by one, and that is not 0 before an iteration: the
    loop ends after as many iterations at most. -/
theorem exists_ends {I : Nat → σ → Prop} (hstep : ∀ n s s', I (n + 1) s → next s = some s' → I n s')
    (hzero : ∀ s, I 0 s → next s = none) (hs : I n s) :
    ∃ k t m, k ≤ n ∧ Ends next k s t ∧ I m t := by
  induction n generalizing s with
  | zero => exact ⟨0, s, 0, Nat.le_refl 0, .done (hzero s hs), hs⟩
  | succ n ih =>
    cases hnext : next s with
    | none => exact ⟨0, s, n + 1, Nat.zero_le _, .done hnext, hs⟩
    | some s' =>
      obtain ⟨k, t, m, hk, hends, ht⟩ := ih (hstep n s s' hs hnext)
      exact ⟨k + 1, t, m, Nat.succ_le_succ hk, .step hnext hends, ht⟩

end Loop
