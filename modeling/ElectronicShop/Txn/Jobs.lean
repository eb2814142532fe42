import ElectronicShop.Txn.ReadCommitted

/-!
# Jobs of several transactions

A background job commits more than once: what a transaction of it has committed says which
program its next one runs, if there is one. In between, the database may also change in ways
that no transaction is behind, such as the time going by. A run is a list of moves, and what
happens in it can be counted (`tally`).
-/

namespace Txn

/-- How jobs go on after a commit, and what changes the database from outside. -/
structure Jobs (I : Interface) (ε α σ τ : Type) where
  next : α → Option (Prog I ε α)
  outside : τ → σ → σ

/-- An event of a transaction, the beginning of a job's next transaction, or a change from
    outside. -/
inductive Move (ι τ : Type) where
  | event (ev : Event ι)
  | resume (i : ι)
  | outside (change : τ)

/-- The client that a move is a turn of. -/
def Move.client {ι τ : Type} : Move ι τ → Option ι
  | .event (.turn i) => some i
  | _ => none

variable {I : Interface} {ε α σ W L ι τ : Type}

section Moves

variable [DecidableEq ι] [Fintype ι] [DecidableEq L]

/-- One move, when it is enabled. -/
def Config.move (E : Engine I ε σ W L) (J : Jobs I ε α σ τ) (c : Config I ε α σ W L ι) :
    Move ι τ → Option (Config I ε α σ W L ι)
  | .event ev => c.exec E ev
  | .resume i =>
    match c.clients i with
    | .committed a => (J.next a).map fun p => c.set i (.running p E.start [])
    | _ => none
  | .outside change => some { c with db := J.outside change c.db }

/-- Make a list of moves, when each is enabled and satisfies `cond` in its turn. -/
def Config.moveAll (E : Engine I ε σ W L) (J : Jobs I ε α σ τ)
    (cond : Config I ε α σ W L ι → Move ι τ → Prop) [∀ c m, Decidable (cond c m)]
    (c : Config I ε α σ W L ι) : List (Move ι τ) → Option (Config I ε α σ W L ι)
  | [] => some c
  | m :: rest =>
    if cond c m then (c.move E J m).bind fun c' => c'.moveAll E J cond rest else none

/-- What the moves of a run add up to, when `f` is what each one adds. -/
def Config.tally (E : Engine I ε σ W L) (J : Jobs I ε α σ τ)
    (f : Config I ε α σ W L ι → Move ι τ → Config I ε α σ W L ι → Nat)
    (c : Config I ε α σ W L ι) : List (Move ι τ) → Nat
  | [] => 0
  | m :: rest =>
    match c.move E J m with
    | some c' => f c m c' + c'.tally E J f rest
    | none => 0

/-- The configurations reached from `c₀` by moves that satisfy `cond` when they are made. -/
inductive JobReach (E : Engine I ε σ W L) (J : Jobs I ε α σ τ)
    (cond : Config I ε α σ W L ι → Move ι τ → Prop) (c₀ : Config I ε α σ W L ι) :
    Config I ε α σ W L ι → Prop where
  | refl : JobReach E J cond c₀ c₀
  | step {c c' : Config I ε α σ W L ι} {m : Move ι τ} (reached : JobReach E J cond c₀ c)
      (allowed : cond c m) (moved : c.move E J m = some c') : JobReach E J cond c₀ c'

/-- No condition on the moves. -/
def anyMove : Config I ε α σ W L ι → Move ι τ → Prop := fun _ _ => True

instance decidableAnyMove (c : Config I ε α σ W L ι) (m : Move ι τ) : Decidable (anyMove c m) :=
  isTrue trivial

variable {E : Engine I ε σ W L} {J : Jobs I ε α σ τ}
  {cond : Config I ε α σ W L ι → Move ι τ → Prop} {c₀ c c' : Config I ε α σ W L ι}

theorem JobReach.trans (h₁ : JobReach E J cond c₀ c) (h₂ : JobReach E J cond c c') :
    JobReach E J cond c₀ c' := by
  induction h₂ with
  | refl => exact h₁
  | step _ allowed moved ih => exact ih.step allowed moved

/-- What one move can do: an event, a job that goes on, or a change from outside. -/
theorem Config.move_cases {m : Move ι τ} (h : c.move E J m = some c') :
    (∃ ev, m = .event ev ∧ c.exec E ev = some c') ∨
    (∃ i a p, m = .resume i ∧ c.clients i = .committed a ∧ J.next a = some p ∧
      c' = c.set i (.running p E.start [])) ∨
    ∃ change, m = .outside change ∧ c' = { c with db := J.outside change c.db } := by
  cases m with
  | event ev => exact Or.inl ⟨ev, rfl, h⟩
  | resume i =>
    refine Or.inr (Or.inl ?_)
    simp only [Config.move] at h
    split at h
    · rename_i a hi
      obtain ⟨p, hnext, rfl⟩ := Option.map_eq_some_iff.mp h
      exact ⟨i, a, p, rfl, hi, hnext, rfl⟩
    · cases h
  | outside change => exact Or.inr (Or.inr ⟨change, rfl, (Option.some.inj h).symm⟩)

section MoveAll

variable [∀ c m, Decidable (cond c m)]

/-- The first move of a run. -/
theorem Config.moveAll_cons {m : Move ι τ} {rest : List (Move ι τ)}
    (h : c.moveAll E J cond (m :: rest) = some c') :
    cond c m ∧ ∃ c₁, c.move E J m = some c₁ ∧ c₁.moveAll E J cond rest = some c' := by
  simp only [Config.moveAll] at h
  split at h
  · rename_i hcond
    exact ⟨hcond, Option.bind_eq_some_iff.mp h⟩
  · cases h

theorem JobReach.of_moveAll (moves : List (Move ι τ)) (h₀ : JobReach E J cond c₀ c)
    (h : c.moveAll E J cond moves = some c') : JobReach E J cond c₀ c' := by
  induction moves generalizing c with
  | nil =>
    cases h
    exact h₀
  | cons m rest ih =>
    obtain ⟨hcond, c₁, hmove, hrest⟩ := Config.moveAll_cons h
    exact ih (h₀.step hcond hmove) hrest

/-- In a run something holds all along, or fails after some of its moves. -/
theorem Config.always_or_left (P : Config I ε α σ W L ι → Prop) {moves : List (Move ι τ)}
    (h : c.moveAll E J cond moves = some c') :
    JobReach E J (fun c m => cond c m ∧ P c) c c' ∨
    ∃ before after c₁, moves = before ++ after ∧ c.moveAll E J cond before = some c₁ ∧
      c₁.moveAll E J cond after = some c' ∧ ¬ P c₁ := by
  induction moves generalizing c with
  | nil =>
    cases h
    exact Or.inl .refl
  | cons m rest ih =>
    by_cases hc : P c
    · obtain ⟨hcond, c₁, hmove, hrest⟩ := Config.moveAll_cons h
      rcases ih hrest with halways | ⟨before, after, c₂, rfl, hbefore, hafter, hleft⟩
      · exact Or.inl (JobReach.trans (.step .refl ⟨hcond, hc⟩ hmove) halways)
      · refine Or.inr ⟨m :: before, after, c₂, rfl, ?_, hafter, hleft⟩
        simp only [Config.moveAll, if_pos hcond, hmove, Option.bind_some, hbefore]
    · exact Or.inr ⟨[], m :: rest, c, rfl, rfl, h, hc⟩

end MoveAll

end Moves

/-! ## Proof outlines -/

/-- What has to be shown on top of a proof outline: a job goes on as its client may, and a
    change from outside is one that everybody can rely on. -/
structure JobOutline (E : Engine I ε σ W L) (J : Jobs I ε α σ τ)
    (cond : Config I ε α σ W L ι → Move ι τ → Prop) [DecidableEq ι] extends
    Outline E fun (c : Config I ε α σ W L ι) ev => cond c (.event ev) where
  resume_ok : ∀ db results i a p, inv db results → results i = some a → J.next a = some p →
    inv db (Function.update results i none) ∧
      ∀ db', rely i [] db db' → wp E (rely i) p E.start [] db' (post i)
  outside_ok : ∀ c change, cond c (.outside change) → inv c.db c.results →
    inv (J.outside change c.db) c.results ∧
      ∀ i held, rely i held c.db (J.outside change c.db)

namespace JobOutline

variable [DecidableEq ι] [Fintype ι] [DecidableEq L] {E : Engine I ε σ W L}
  {J : Jobs I ε α σ τ} {cond : Config I ε α σ W L ι → Move ι τ → Prop}
  {c₀ c c' : Config I ε α σ W L ι}

omit [Fintype ι] [DecidableEq L] in
theorem good_resume (o : JobOutline E J cond) (hgood : o.Good c) {i : ι} {a : α}
    {p : Prog I ε α} (hi : c.clients i = .committed a) (hnext : J.next a = some p) :
    o.Good (c.set i (.running p E.start [])) := by
  have hresult : c.results i = some a := by
    simp [Config.results, hi, Client.result]
  obtain ⟨hinv, hwp⟩ := o.resume_ok c.db c.results i a p hgood.inv hresult hnext
  refine ⟨?_, ?_, ?_⟩
  · have hresults : (c.set i (.running p E.start [])).results =
        Function.update c.results i none := by
      funext j
      by_cases hj : j = i
      · subst hj
        simp [Config.results, Client.result]
      · simp [Config.results, Config.set, hj]
    rw [hresults]
    exact hinv
  · exact Config.exclusive_set hgood.exclusive fun _ _ _ hl => absurd hl List.not_mem_nil
  · intro j p' w held hj db hrely
    by_cases hji : j = i
    · subst hji
      simp only [Config.set_self, Client.running.injEq] at hj
      obtain ⟨rfl, rfl, rfl⟩ := hj
      exact hwp db hrely
    · rw [Config.set_of_ne c _ hji] at hj
      exact hgood.clients j p' w held hj db hrely

theorem good_move (o : JobOutline E J cond) {m : Move ι τ} (hgood : o.Good c) (hcond : cond c m)
    (hmove : c.move E J m = some c') : o.Good c' := by
  rcases Config.move_cases hmove with ⟨ev, rfl, hexec⟩ | ⟨i, a, p, rfl, hi, hnext, rfl⟩ |
    ⟨change, rfl, rfl⟩
  · exact o.good_step hgood hcond hexec
  · exact o.good_resume hgood hi hnext
  · obtain ⟨hinv, hrely⟩ := o.outside_ok c change hcond hgood.inv
    refine ⟨hinv, hgood.exclusive, fun i p w held hi db hdb => ?_⟩
    exact hgood.clients i p w held hi db (o.rely_trans i held _ _ _ (hrely i held) hdb)

/-- Every configuration reached from a good one is good. -/
theorem sound (o : JobOutline E J cond) (h₀ : o.Good c₀) (h : JobReach E J cond c₀ c) :
    o.Good c := by
  induction h with
  | refl => exact h₀
  | step _ allowed moved ih => exact o.good_move ih allowed moved

omit [Fintype ι] [DecidableEq L] in
/-- A client that is about to commit is in its `post`. -/
theorem post_of_good (o : JobOutline E J cond) (hgood : o.Good c) {i : ι} {a : α} {w : W}
    {held : List L} (hi : c.clients i = .running (.done a) w held) : o.post i a w held c.db :=
  hgood.clients i _ w held hi c.db (o.rely_refl i held c.db)

/-- What every commit and every change from outside keeps of the database, a run keeps. -/
theorem invariant (o : JobOutline E J cond) {P : σ → Prop}
    (hcommit : ∀ c i a w held db, o.Good c → cond c (.event (.turn i)) →
      c.clients i = .running (.done a) w held → E.commit w c.db = .ok db → P c.db → P db)
    (houtside : ∀ c change, cond c (.outside change) → P c.db → P (J.outside change c.db))
    (hgood : o.Good c) (h₀ : P c.db) (h : JobReach E J cond c c') : P c'.db := by
  have hboth : o.Good c' ∧ P c'.db := by
    induction h with
    | refl => exact ⟨hgood, h₀⟩
    | step _ allowed moved ih =>
      refine ⟨o.good_move ih.1 allowed moved, ?_⟩
      rcases Config.move_cases moved with ⟨ev, rfl, hexec⟩ | ⟨i, a, p, rfl, hi, hnext, rfl⟩ |
        ⟨change, rfl, rfl⟩
      · rcases Config.exec_cases hexec with ⟨i, s, next, w, held, rfl, hi, -, rfl⟩ |
          ⟨i, a, w, held, db, rfl, hi, -, hdb, rfl⟩ | ⟨i, p, w, held, e, hi, rfl⟩
        · exact ih.2
        · exact hcommit _ i a w held db ih.1 allowed hi hdb ih.2
        · exact ih.2
      · exact ih.2
      · exact houtside _ change allowed ih.2
  exact hboth.2

section Tally

variable [∀ c m, Decidable (cond c m)]
  {f g : Config I ε α σ W L ι → Move ι τ → Config I ε α σ W L ι → Nat}

/-- A number that grows by `f` in each move grows by the tally of `f` in a run. -/
theorem tally_eq (o : JobOutline E J cond) (number : Config I ε α σ W L ι → Nat)
    (hmove : ∀ c m c', o.Good c → cond c m → c.move E J m = some c' →
      number c' = number c + f c m c')
    (moves : List (Move ι τ)) (hgood : o.Good c) (h : c.moveAll E J cond moves = some c') :
    number c' = number c + c.tally E J f moves := by
  induction moves generalizing c with
  | nil =>
    cases h
    rfl
  | cons m rest ih =>
    obtain ⟨hcond, c₁, hfirst, hrest⟩ := Config.moveAll_cons h
    have hstep := hmove c m c₁ hgood hcond hfirst
    have hlater := ih (o.good_move hgood hcond hfirst) hrest
    simp only [Config.tally, hfirst]
    omega

/-- Two tallies of a run agree when they do in each move. -/
theorem tally_congr (o : JobOutline E J cond)
    (hmove : ∀ c m c', o.Good c → cond c m → c.move E J m = some c' → f c m c' = g c m c')
    (moves : List (Move ι τ)) (hgood : o.Good c) (h : c.moveAll E J cond moves = some c') :
    c.tally E J f moves = c.tally E J g moves := by
  induction moves generalizing c with
  | nil => rfl
  | cons m rest ih =>
    obtain ⟨hcond, c₁, hfirst, hrest⟩ := Config.moveAll_cons h
    simp only [Config.tally, hfirst]
    rw [hmove c m c₁ hgood hcond hfirst, ih (o.good_move hgood hcond hfirst) hrest]

end Tally

end JobOutline

end Txn
