import ElectronicShop.Txn.Outcome

/-!
# Interleavings whose statements are guarded

Some interleavings are harmless as long as no statement is executed at a bad moment. `wpg` is
a weakest precondition in which every statement satisfies a guard when it is executed, so
that its answer may be relied on; `Guarded` is a proof outline for runs whose events keep to
the guards. Of a program it is often enough to know which statements it sends and, given the
answers that the guards promise, which errors it raises (`Prog.Behaves`). A client that takes its
turns without others in between keeps to the guards by what its own statements read
(`Prog.Alone`).
-/

namespace Txn

variable {I : Interface} {ε α β σ W L ι : Type}

/-! ## Which errors a program can raise -/

/-- Every statement the program sends satisfies `ok`, and every error it raises, when the
    answers it gets satisfy `answers`, satisfies `refused`. -/
def Prog.Behaves (ok : I.Stmt → Prop) (answers : (s : I.Stmt) → I.Resp s → Prop)
    (refused : ε → Prop) : Prog I ε α → Prop
  | .done _ => True
  | .raise e => refused e
  | .step s next => ok s ∧ ∀ r, answers s r → (next r).Behaves ok answers refused

namespace Prog.Behaves

variable {ok : I.Stmt → Prop} {answers : (s : I.Stmt) → I.Resp s → Prop} {refused : ε → Prop}

theorem done (a : α) : (Prog.done a : Prog I ε α).Behaves ok answers refused := trivial

theorem raise {e : ε} (he : refused e) :
    (Prog.raise e : Prog I ε α).Behaves ok answers refused := he

theorem bind {m : Prog I ε α} {f : α → Prog I ε β} (hm : m.Behaves ok answers refused)
    (hf : ∀ a, (f a).Behaves ok answers refused) : (m >>= f).Behaves ok answers refused := by
  induction m with
  | done a => exact hf a
  | raise e => exact hm
  | step s next ih => exact ⟨hm.1, fun r hr => ih r (hm.2 r hr)⟩

/-- A statement whose answer is used. -/
theorem send_bind {s : I.Stmt} {f : I.Resp s → Prog I ε α} (hs : ok s)
    (hf : ∀ r, answers s r → (f r).Behaves ok answers refused) :
    ((Prog.send s : Prog I ε _) >>= f).Behaves ok answers refused :=
  ⟨hs, hf⟩

theorem forM {f : β → Prog I ε PUnit} (xs : List β)
    (hf : ∀ x, (f x).Behaves ok answers refused) : (xs.forM f).Behaves ok answers refused := by
  induction xs with
  | nil => trivial
  | cons x xs ih => exact (hf x).bind fun _ => ih

theorem foldlM {f : α → β → Prog I ε α} (xs : List β) (init : α)
    (hf : ∀ a x, (f a x).Behaves ok answers refused) :
    (xs.foldlM f init).Behaves ok answers refused := by
  induction xs generalizing init with
  | nil => trivial
  | cons x xs ih => exact (hf init x).bind fun a => ih a

end Prog.Behaves

/-! ## Weakest preconditions under guards -/

/-- `wpg E rely may m w held db post refused`: as `wpe`, when every statement satisfies `may`
    in the memory and on the database that it is executed with. -/
def wpg (E : Engine I ε σ W L) (rely : List L → σ → σ → Prop) (may : I.Stmt → W → σ → Prop) :
    Prog I ε α → W → List L → σ → (α → W → List L → σ → Prop) → (ε → Prop) → Prop
  | .done a, w, held, db, post, _ => post a w held db
  | .raise e, _, _, _, _, refused => refused e
  | .step s next, w, held, db, post, refused =>
    may s w db → ∀ db', rely (E.need s w db ++ held) db db' →
      wpg E rely may (next (E.exec s w db).1) (E.exec s w db).2 (E.need s w db ++ held) db' post
        refused

section Wpg

variable {E : Engine I ε σ W L} {rely : List L → σ → σ → Prop} {may : I.Stmt → W → σ → Prop}
  {w : W} {held : List L} {db : σ} {post : α → W → List L → σ → Prop} {refused : ε → Prop}

@[simp] theorem wpg_done (a : α) :
    wpg E rely may (.done a : Prog I ε α) w held db post refused ↔ post a w held db := Iff.rfl

@[simp] theorem wpg_raise (e : ε) :
    wpg E rely may (.raise e : Prog I ε α) w held db post refused ↔ refused e := Iff.rfl

theorem wpg_bind (m : Prog I ε α) (f : α → Prog I ε β) {post : β → W → List L → σ → Prop} :
    wpg E rely may (m >>= f) w held db post refused ↔
      wpg E rely may m w held db
        (fun a w' held' db' => wpg E rely may (f a) w' held' db' post refused) refused := by
  induction m generalizing w held db with
  | done a => rfl
  | raise e => rfl
  | step s next ih => exact forall_congr' fun _ => forall₂_congr fun db' _ => ih _

theorem wpg_if_raise {c : Prop} [Decidable c] {e : ε} {m : Prog I ε α} :
    wpg E rely may (if c then .raise e else m) w held db post refused ↔
      (c → refused e) ∧ (¬ c → wpg E rely may m w held db post refused) := by
  by_cases hc : c <;> simp [hc]

theorem wpg_mono {m : Prog I ε α} {post' : α → W → List L → σ → Prop}
    (h : wpg E rely may m w held db post refused)
    (hpost : ∀ a w' held' db', post a w' held' db' → post' a w' held' db') :
    wpg E rely may m w held db post' refused := by
  induction m generalizing w held db with
  | done a => exact hpost _ _ _ _ h
  | raise e => exact h
  | step s next ih =>
    intro hmay db' hrely
    exact ih _ (h hmay db' hrely)

/-- What every statement a program sends keeps when it is guarded, the program keeps. -/
theorem wpg_of_behaves (keeps : W → List L → σ → Prop) {ok : I.Stmt → Prop}
    {answers : (s : I.Stmt) → I.Resp s → Prop}
    (hanswers : ∀ s w db, may s w db → answers s (E.exec s w db).1)
    (hstep : ∀ s, ok s → ∀ w held db, keeps w held db → may s w db → ∀ db',
      rely (E.need s w db ++ held) db db' →
        keeps (E.exec s w db).2 (E.need s w db ++ held) db')
    {m : Prog I ε α} (hm : m.Behaves ok answers refused) (h : keeps w held db) :
    wpg E rely may m w held db (fun _ => keeps) refused := by
  induction m generalizing w held db with
  | done a => exact h
  | raise e => exact hm
  | step s next ih =>
    intro hmay db' hrely
    exact ih _ (hm.2 _ (hanswers s w db hmay)) (hstep s hm.1 w held db h hmay db' hrely)

end Wpg

/-! ## Turns without others in between -/

/-- When nothing else is committed, every statement of the program satisfies `may`. -/
def Prog.Alone (E : Engine I ε σ W L) (may : I.Stmt → W → σ → Prop) (db : σ) :
    Prog I ε α → W → Prop
  | .done _, _ => True
  | .raise _, _ => True
  | .step s next, w => may s w db ∧ (next (E.exec s w db).1).Alone E may db (E.exec s w db).2

namespace Prog.Alone

variable {E : Engine I ε σ W L} {may : I.Stmt → W → σ → Prop} {db : σ} {w : W}

theorem bind {m : Prog I ε α} {f : α → Prog I ε β} (hm : m.Alone E may db w)
    (hf : ∀ a w', (f a).Alone E may db w') : (m >>= f).Alone E may db w := by
  induction m generalizing w with
  | done a => exact hf a w
  | raise e => trivial
  | step s next ih => exact ⟨hm.1, ih _ hm.2⟩

theorem send_bind {s : I.Stmt} {f : I.Resp s → Prog I ε α} (hs : may s w db)
    (hf : (f (E.exec s w db).1).Alone E may db (E.exec s w db).2) :
    (Prog.send s >>= f).Alone E may db w := ⟨hs, hf⟩

/-- A program whose statements satisfy it always. -/
theorem of_uses {ok : I.Stmt → Prop} (hok : ∀ s, ok s → ∀ w, may s w db) {m : Prog I ε α}
    (hm : m.Uses ok) (w : W) : m.Alone E may db w := by
  induction m generalizing w with
  | done a => trivial
  | raise e => trivial
  | step s next ih => exact ⟨hok s hm.1 w, ih _ (hm.2 _) _⟩

variable [Fintype ι] [DecidableEq ι] [DecidableEq L]

/-- As long as only this client takes turns, its next statement satisfies `may`. -/
theorem may_next {cond : Config I ε α σ W L ι → Event ι → Prop} {c₀ c : Config I ε α σ W L ι}
    {i : ι} {m : Prog I ε α} {held : List L} (hi : c₀.clients i = .running m w held)
    (hm : m.Alone E may c₀.db w) (h : Reach E (fun c ev => cond c ev ∧ ev = .turn i) c₀ c)
    {s : I.Stmt} {next : I.Resp s → Prog I ε α} {w' : W} {held' : List L}
    (hnext : c.clients i = .running (.step s next) w' held') : may s w' c.db := by
  have hrest : ∀ p w held, c.clients i = .running p w held → p.Alone E may c.db w := by
    clear hnext
    induction h with
    | refl =>
      intro p w held hp
      cases hi.symm.trans hp
      exact hm
    | step _ allowed moved ih =>
      obtain ⟨-, rfl⟩ := allowed
      rcases Config.exec_cases moved with ⟨j, s, next, w, held, hturn, hj, -, rfl⟩ |
        ⟨j, a, w, held, db, hturn, hj, -, -, rfl⟩ | ⟨j, p, w, held, e, hj, rfl⟩
      · cases hturn
        intro p w held hp
        rw [Config.set_self] at hp
        cases hp
        exact (ih _ _ _ hj).2
      · cases hturn
        intro p w held hp
        simp at hp
      · intro p w held hp
        by_cases hij : i = j
        · subst hij
          simp at hp
        · rw [Config.set_of_ne _ _ hij] at hp
          exact ih p w held hp
  exact (hrest _ _ _ hnext).1

end Prog.Alone

/-! ## Proof outlines -/

/-- What has to be shown of runs whose events satisfy `cond`: a statement that is executed
    satisfies the guard of its client, a commit succeeds and keeps `inv`, and it stays within
    what everybody else relies on. -/
structure Guarded (E : Engine I ε σ W L) (cond : Config I ε α σ W L ι → Event ι → Prop)
    [DecidableEq ι] where
  rely : List L → σ → σ → Prop
  may : I.Stmt → W → σ → Prop
  post : ι → α → W → List L → σ → Prop
  refused : ε → Prop
  inv : σ → (ι → Option α) → Prop
  rely_refl : ∀ held db, rely held db db
  rely_trans : ∀ held db₁ db₂ db₃, rely held db₁ db₂ → rely held db₂ db₃ → rely held db₁ db₃
  may_of_cond : ∀ c i s next w held, c.clients i = .running (.step s next) w held →
    cond c (.turn i) → may s w c.db
  commit_ok : ∀ c i a w held, c.clients i = .running (.done a) w held → cond c (.turn i) →
    inv c.db c.results → post i a w held c.db →
      ∃ db, E.commit w c.db = .ok db ∧ inv db (Function.update c.results i (some a)) ∧
        ∀ locks, (∀ l ∈ locks, l ∉ held ∧ l ∉ E.needCommit w) → rely locks c.db db

namespace Guarded

variable [DecidableEq ι] {E : Engine I ε σ W L}
  {cond : Config I ε α σ W L ι → Event ι → Prop}

/-- The invariant of configurations: locks are exclusive, every running client ends in its
    `post`, and every error was one in `refused`. -/
structure Good (g : Guarded E cond) (c : Config I ε α σ W L ι) : Prop where
  inv : g.inv c.db c.results
  exclusive : ∀ i j, i ≠ j → ∀ l ∈ (c.clients i).held, l ∉ (c.clients j).held
  clients : ∀ i p w held, c.clients i = .running p w held → ∀ db, g.rely held c.db db →
    wpg E g.rely g.may p w held db (g.post i) g.refused
  errors : ∀ i e, c.clients i = .aborted (some e) → g.refused e

theorem good_start (g : Guarded E cond) (db : σ) (progs : ι → Prog I ε α)
    (hinv : g.inv db fun _ => none)
    (hwpg : ∀ i db', g.rely [] db db' →
      wpg E g.rely g.may (progs i) E.start [] db' (g.post i) g.refused) :
    g.Good { db, clients := fun i => .running (progs i) E.start [] } := by
  refine ⟨hinv, ?_, ?_, ?_⟩
  · intro i j _ l hl
    simp [Client.held] at hl
  · intro i p w held hi db' hrely
    simp only [Client.running.injEq] at hi
    obtain ⟨rfl, rfl, rfl⟩ := hi
    exact hwpg i db' hrely
  · intro i e hi
    cases hi

variable [Fintype ι] [DecidableEq L]

theorem good_step (g : Guarded E cond) {c c' : Config I ε α σ W L ι} {ev : Event ι}
    (hgood : g.Good c) (hcond : cond c ev) (hexec : c.exec E ev = some c') : g.Good c' := by
  have hexclusive := Config.exclusive_of_exec hgood.exclusive hexec
  have hwpg : ∀ {i p w held}, c.clients i = .running p w held →
      wpg E g.rely g.may p w held c.db (g.post i) g.refused :=
    fun hi => hgood.clients _ _ _ _ hi c.db (g.rely_refl _ _)
  have herrors : ∀ j e, c'.clients j = .aborted (some e) → g.refused e := by
    intro j e hj
    rcases Config.aborted_of_exec hexec hj with hbefore | ⟨rfl, hraise | hcommit⟩
    · exact hgood.errors j e hbefore
    · obtain ⟨w, held, hraise⟩ := hraise
      exact hwpg hraise
    · obtain ⟨a, w, held, hdone, hcommit⟩ := hcommit
      obtain ⟨db, hdb, -⟩ := g.commit_ok c j a w held hdone hcond hgood.inv (hwpg hdone)
      rw [hdb] at hcommit
      cases hcommit
  rcases Config.exec_cases hexec with
    ⟨i, s, next, w, held, rfl, hi, -, rfl⟩ | ⟨i, a, w, held, db, rfl, hi, hfree, hdb, rfl⟩ |
    ⟨i, p, w, held, e, hi, rfl⟩
  · refine ⟨?_, hexclusive, ?_, herrors⟩
    · rw [Outline.set_result_of_running hi rfl]
      exact hgood.inv
    · intro j p' w' held' hj db hrely
      by_cases hji : j = i
      · subst hji
        simp only [Config.set_self, Client.running.injEq] at hj
        obtain ⟨rfl, rfl, rfl⟩ := hj
        exact hwpg hi (g.may_of_cond c j s next w held hi hcond) db hrely
      · rw [Config.set_of_ne c _ hji] at hj
        exact hgood.clients j p' w' held' hj db hrely
  · obtain ⟨db', hdb', hinv, hothers⟩ := g.commit_ok c i a w held hi hcond hgood.inv (hwpg hi)
    obtain rfl : db' = db := by simpa [hdb'] using hdb
    refine ⟨?_, hexclusive, ?_, herrors⟩
    · convert hinv using 1
      funext j
      by_cases hji : j = i
      · subst hji
        simp [Config.results, Config.set, Client.result]
      · simp [Config.results, Config.set, hji]
    · intro j p' w' held' hj db₁ hrely
      have hji : j ≠ i := by
        rintro rfl
        simp [Config.set] at hj
      simp only [Config.set, Function.update_of_ne hji] at hj
      have hlocks : ∀ l ∈ held', l ∉ held ∧ l ∉ E.needCommit w := by
        intro l hl
        have hmem : l ∈ (c.clients j).held := by
          rw [hj]
          exact hl
        refine ⟨fun hli => ?_, fun hneed => hfree j hji l hneed hmem⟩
        exact hgood.exclusive j i hji l hmem (by rw [hi]; exact hli)
      exact hgood.clients j p' w' held' hj db₁
        (g.rely_trans held' _ _ _ (hothers held' hlocks) hrely)
  · refine ⟨?_, hexclusive, ?_, herrors⟩
    · rw [Outline.set_result_of_running hi rfl]
      exact hgood.inv
    · intro j p' w' held' hj db hrely
      have hji : j ≠ i := by
        rintro rfl
        simp at hj
      rw [Config.set_of_ne c _ hji] at hj
      exact hgood.clients j p' w' held' hj db hrely

/-- Every configuration reached from a good one is good. -/
theorem sound (g : Guarded E cond) {c₀ c : Config I ε α σ W L ι} (h₀ : g.Good c₀)
    (h : Reach E cond c₀ c) : g.Good c := by
  induction h with
  | refl => exact h₀
  | step _ allowed moved ih => exact g.good_step ih allowed moved

end Guarded

end Txn
