import ElectronicShop.Txn.ReadCommitted

/-!
# Serial runs, and what a transaction does when it runs alone

`Run` is a sequence of committed steps, each satisfying a guard on the state it
starts from: the invariant rule is `Run.invariant`. The rest connects the two
meanings of a transaction program. `Engine.Implements` says that a session which
nobody interferes with answers every statement as the serial database would on
its own view; then the whole program does what `Prog.run` says, and a client
that is scheduled without interruption commits exactly that state.
-/

namespace Txn

/-! ## Serial runs -/

section Run

variable {A ε σ : Type}

/-- The states reached from `s₀` by committed steps that satisfy `guard` when
    they are taken, with the steps taken. A step that fails commits nothing and
    is not listed. -/
inductive Run (step : A → σ → Except ε σ) (guard : σ → A → Prop) (s₀ : σ) :
    List A → σ → Prop where
  | nil : Run step guard s₀ [] s₀
  | snoc {as : List A} {a : A} {s s' : σ} (before : Run step guard s₀ as s)
      (allowed : guard s a) (committed : step a s = .ok s') : Run step guard s₀ (as ++ [a]) s'

/-- Any step may be taken. -/
def anyStep : σ → A → Prop := fun _ _ => True

instance (s : σ) (a : A) : Decidable (anyStep s a) := isTrue trivial

namespace Run

variable {step : A → σ → Except ε σ} {guard guard' : σ → A → Prop} {s₀ s : σ} {as : List A}

/-- What holds at the start and is kept by every committed step that the guard
    allows holds in every state reached. -/
theorem invariant (inv : σ → Prop) (h₀ : inv s₀)
    (hstep : ∀ a s s', inv s → guard s a → step a s = .ok s' → inv s')
    (h : Run step guard s₀ as s) : inv s := by
  induction h with
  | nil => exact h₀
  | snoc _ allowed committed ih => exact hstep _ _ _ ih allowed committed

theorem mono (himp : ∀ s a, guard s a → guard' s a) (h : Run step guard s₀ as s) :
    Run step guard' s₀ as s := by
  induction h with
  | nil => exact .nil
  | snoc _ allowed committed ih => exact ih.snoc (himp _ _ allowed) committed

/-- One guard for another, on the steps that are committed. -/
theorem mono_committed
    (himp : ∀ s a s', guard s a → step a s = .ok s' → guard' s a)
    (h : Run step guard s₀ as s) : Run step guard' s₀ as s := by
  induction h with
  | nil => exact .nil
  | snoc _ allowed committed ih => exact ih.snoc (himp _ _ _ allowed committed) committed

/-- Forget the guard. -/
theorem any (h : Run step guard s₀ as s) : Run step anyStep s₀ as s :=
  h.mono fun _ _ _ => trivial

/-- Some step of the run `as`, taken after the steps `before` in the state `s`, satisfies
    `p before s`. -/
def Earlier (step : A → σ → Except ε σ) (guard : σ → A → Prop) (s₀ : σ)
    (p : List A → σ → A → Prop) (as : List A) : Prop :=
  ∃ before a after s, as = before ++ a :: after ∧ Run step guard s₀ before s ∧ p before s a

theorem Earlier.snoc {p : List A → σ → A → Prop} (h : Earlier step guard s₀ p as) (a : A) :
    Earlier step guard s₀ p (as ++ [a]) := by
  obtain ⟨before, b, after, s, rfl, hrun, hb⟩ := h
  exact ⟨before, b, after ++ [a], s, by simp, hrun, hb⟩

theorem Earlier.last {p : List A → σ → A → Prop} {a : A} (h : Run step guard s₀ as s)
    (ha : p as s a) : Earlier step guard s₀ p (as ++ [a]) :=
  ⟨as, a, [], s, rfl, h, ha⟩

theorem Earlier.exists_mem {p : List A → σ → A → Prop} (h : Earlier step guard s₀ p as) :
    ∃ a ∈ as, ∃ before s, p before s a := by
  obtain ⟨before, a, after, s, rfl, -, ha⟩ := h
  exact ⟨a, List.mem_append_right before List.mem_cons_self, before, s, ha⟩

/-- What only some of the steps can change is after a run as it was, or one of these steps
    was taken. -/
theorem earlier_of_ne {τ : Type} (π : σ → τ) {p : σ → A → Prop}
    (hstep : ∀ a s s', step a s = .ok s' → ¬ p s a → π s' = π s)
    (h : Run step guard s₀ as s) (hne : π s ≠ π s₀) :
    Earlier step guard s₀ (fun _ => p) as := by
  induction h with
  | nil => exact absurd rfl hne
  | snoc before allowed committed ih =>
    rename_i a s s'
    by_cases ha : p s a
    · exact .last before ha
    · have hsame := hstep a s s' committed ha
      exact (ih (hsame ▸ hne)).snoc a

/-- A run of one step. -/
theorem singleton_iff {a : A} :
    Run step guard s₀ [a] s ↔ guard s₀ a ∧ step a s₀ = .ok s := by
  constructor
  · intro h
    generalize hlist : [a] = as at h
    cases h with
    | nil => cases hlist
    | snoc before allowed committed =>
      rename_i rest last s₁
      cases rest with
      | nil =>
        cases hlist
        generalize hempty : ([] : List A) = rest at before
        cases before with
        | nil => exact ⟨allowed, committed⟩
        | snoc => simp at hempty
      | cons first rest => simp at hlist
  · rintro ⟨allowed, committed⟩
    exact .snoc .nil allowed committed

/-- Take a list of steps, checking the guard before each. -/
def execAll (step : A → σ → Except ε σ) (guard : σ → A → Prop) [∀ s a, Decidable (guard s a)] :
    List A → σ → Option σ
  | [], s => some s
  | a :: rest, s =>
    if guard s a then
      match step a s with
      | .ok s' => execAll step guard rest s'
      | .error _ => none
    else none

/-- A list of steps that executes is a run. -/
theorem of_execAll [∀ s a, Decidable (guard s a)] (rest : List A) {s' : σ}
    (h : Run step guard s₀ as s) (hexec : execAll step guard rest s = some s') :
    Run step guard s₀ (as ++ rest) s' := by
  induction rest generalizing as s with
  | nil =>
    cases hexec
    simpa using h
  | cons a rest ih =>
    simp only [execAll] at hexec
    split at hexec
    · rename_i hguard
      split at hexec
      · rename_i s₁ hstep
        simpa using ih (h.snoc hguard hstep) hexec
      · cases hexec
    · cases hexec

/-- A list of steps that executes, to a state that passes a test. -/
theorem exists_of_execAll [∀ s a, Decidable (guard s a)] {rest : List A} {p : σ → Prop}
    [DecidablePred p] (h : (execAll step guard rest s₀).any (fun s => p s) = true) :
    ∃ s, Run step guard s₀ rest s ∧ p s := by
  cases hexec : execAll step guard rest s₀ with
  | none =>
    rw [hexec] at h
    cases h
  | some s =>
    rw [hexec] at h
    exact ⟨s, of_execAll rest .nil hexec, of_decide_eq_true h⟩

end Run

end Run

/-! ## A transaction that runs alone -/

section Alone

variable {I : Interface} {ε α σ W L ι : Type}

/-- A session nobody interferes with behaves like the serial database `exec`:
    `view` is the database as the session sees it, `coherent` what its memory has
    to satisfy for that. -/
structure Engine.Implements (E : Engine I ε σ W L) (exec : (s : I.Stmt) → σ → I.Resp s × σ) where
  view : W → σ → σ
  coherent : W → σ → Prop
  view_start : ∀ db, view E.start db = db
  coherent_start : ∀ db, coherent E.start db
  step : ∀ s w db, coherent w db →
    (E.exec s w db).1 = (exec s (view w db)).1 ∧
    view (E.exec s w db).2 db = (exec s (view w db)).2 ∧
    coherent (E.exec s w db).2 db

variable {E : Engine I ε σ W L} {exec : (s : I.Stmt) → σ → I.Resp s × σ}

/-- Alone, a program has the outcome and leaves the view that its serial run
    has and leaves. -/
theorem Engine.Implements.run_alone (S : E.Implements exec) (m : Prog I ε α) {w : W} {db : σ}
    (hw : S.coherent w db) :
    (m.run (fun s w => E.exec s w db) w).map (fun r => (r.1, S.view r.2 db)) =
      m.run exec (S.view w db) := by
  induction m generalizing w with
  | done a => rfl
  | raise e => rfl
  | step s next ih =>
    obtain ⟨hresp, hview, hcoherent⟩ := S.step s w db hw
    simp only [Prog.run_step]
    rw [ih _ hcoherent, hresp, hview]

theorem Engine.Implements.run_of_alone (S : E.Implements exec) {m : Prog I ε α} {w' : W} {db : σ}
    {a : α} (h : m.run (fun s w => E.exec s w db) E.start = .ok (a, w')) :
    m.run exec db = .ok (a, S.view w' db) := by
  have hrun := S.run_alone m (S.coherent_start db)
  rw [h, S.view_start] at hrun
  exact hrun.symm

theorem Engine.Implements.error_of_alone (S : E.Implements exec) {m : Prog I ε α} {db : σ} {e : ε}
    (h : m.run (fun s w => E.exec s w db) E.start = .error e) : m.run exec db = .error e := by
  have hrun := S.run_alone m (S.coherent_start db)
  rw [h, S.view_start] at hrun
  exact hrun.symm

/-- A transaction that no other overlaps, up to its commit. -/
def Engine.alone (E : Engine I ε σ W L) (m : Prog I ε α) (db : σ) : Except ε (α × σ) :=
  match m.run (fun s w => E.exec s w db) E.start with
  | .error e => .error e
  | .ok (a, w) => (E.commit w db).map fun db' => (a, db')

variable [DecidableEq ι] [Fintype ι] [DecidableEq L]

/-- Scheduled without interruption, while nobody else holds a lock, a client
    reaches the end of its program. -/
theorem Reach.run_alone {c : Config I ε α σ W L ι} {i : ι} {m : Prog I ε α} {w w' : W}
    {held : List L} {a : α} (hi : c.clients i = .running m w held)
    (hothers : ∀ j, j ≠ i → (c.clients j).held = [])
    (h : m.run (fun s w => E.exec s w c.db) w = .ok (a, w')) :
    ∃ held', Reach E anyEvent c (c.set i (.running (.done a) w' held')) := by
  induction m generalizing c w held with
  | done b =>
    cases h
    refine ⟨held, ?_⟩
    rw [← hi]
    simpa [Config.set] using Reach.refl
  | raise e => cases h
  | step s next ih =>
    let c₁ := c.set i (.running (next (E.exec s w c.db).1) (E.exec s w c.db).2
      (E.need s w c.db ++ held))
    have hfree : c.Free i (E.need s w c.db) := by
      intro j hj l _ hl
      simp [hothers j hj] at hl
    have hexec : c.exec E (.turn i) = some c₁ := by
      simp [Config.exec, hi, hfree, c₁]
    have hothers₁ : ∀ j, j ≠ i → (c₁.clients j).held = [] := by
      intro j hj
      rw [Config.set_of_ne c _ hj]
      exact hothers j hj
    obtain ⟨held', hreach⟩ := ih _ (Config.set_self c i _) hothers₁ h
    refine ⟨held', (Reach.step .refl trivial hexec).trans ?_⟩
    simpa [c₁] using hreach

/-- Then it commits what its serial run ends with. -/
theorem Engine.Implements.reach_commit (S : E.Implements exec) {c : Config I ε α σ W L ι} {i : ι}
    {m : Prog I ε α} {db : σ} {a : α} (hi : c.clients i = .running m E.start [])
    (hothers : ∀ j, j ≠ i → (c.clients j).held = []) (h : m.run exec c.db = .ok (a, db))
    (hcommit : ∀ w, S.view w c.db = db → E.commit w c.db = .ok db) :
    Reach E anyEvent c { c.set i (.committed a) with db := db } := by
  have hrun := S.run_alone m (S.coherent_start c.db)
  rw [S.view_start, h] at hrun
  cases halone : m.run (fun s w => E.exec s w c.db) E.start with
  | error e =>
    rw [halone] at hrun
    cases hrun
  | ok r =>
    obtain ⟨b, w⟩ := r
    rw [halone] at hrun
    obtain ⟨rfl, hview⟩ := Prod.mk.inj (Except.ok.inj hrun)
    obtain ⟨held, hreach⟩ := Reach.run_alone hi hothers halone
    have hfree : (c.set i (.running (.done b) w held)).Free i (E.needCommit w) := by
      intro j hj l _ hl
      rw [Config.set_of_ne c _ hj, hothers j hj] at hl
      cases hl
    have hexec : (c.set i (.running (.done b) w held)).exec E (.turn i) =
        some { c.set i (.committed b) with db := db } := by
      simp [Config.exec, hfree, hcommit w hview]
    exact hreach.step trivial hexec

end Alone

end Txn
