import ElectronicShop.Txn.Prog
import Mathlib.Data.Fintype.Basic

/-!
# Interleaved READ COMMITTED transactions

Several clients run transaction programs against one committed database. A
client keeps a private memory (what its session has loaded and not yet written
back) and the row locks it was granted. One event executes one statement of one
client, on the committed database of that moment; a statement that needs a lock
another client holds is not enabled until that client ends. The last event of a
client commits its private memory or aborts it, and any client can be killed at
any point.

The second half is a program logic for such runs. `wp` is a weakest
precondition in which other clients may change the database after every
statement, as far as the client's own locks allow (`rely`); an `Outline`
collects what has to be shown for one client and one commit, and
`Outline.sound` turns it into an invariant of every reachable configuration.
-/

namespace Txn

/-- How the sessions of a database execute statements: on private memory `W`
    over a committed database `σ`, with row locks `L`. -/
structure Engine (I : Interface) (ε σ W L : Type) where
  /-- The memory of a session that has just begun. -/
  start : W
  /-- The row locks a statement has to be granted. -/
  need : I.Stmt → W → σ → List L
  exec : (s : I.Stmt) → W → σ → I.Resp s × W
  /-- The row locks the writes of a commit have to be granted. -/
  needCommit : W → List L
  /-- The committed database with the session's writes, or the violated
      constraint. -/
  commit : W → σ → Except ε σ

/-- One transaction of an interleaving. -/
inductive Client (I : Interface) (ε α W L : Type) where
  | running (prog : Prog I ε α) (work : W) (held : List L)
  | committed (value : α)
  | aborted (error : Option ε)

variable {I : Interface} {ε α β σ W L ι : Type}

namespace Client

/-- The row locks a client holds: they go with the transaction. -/
def held : Client I ε α W L → List L
  | .running _ _ h => h
  | _ => []

/-- The value of a committed transaction. -/
def result : Client I ε α W L → Option α
  | .committed a => some a
  | _ => none

/-- The error that a transaction has been stopped by. -/
def failure : Client I ε α W L → Option ε
  | .aborted e => e
  | _ => none

theorem aborted_of_failure {client : Client I ε α W L} {e : ε} (h : client.failure = some e) :
    client = .aborted (some e) := by
  cases client with
  | aborted e' => exact congrArg _ h
  | _ => cases h

end Client

/-- The committed database and the clients. -/
structure Config (I : Interface) (ε α σ W L ι : Type) where
  db : σ
  clients : ι → Client I ε α W L

/-- What the scheduler can do: let a client execute its next statement (or end,
    when it has none left), or kill it. -/
inductive Event (ι : Type) where
  | turn (i : ι)
  | kill (i : ι)

namespace Config

/-- No client but `i` holds one of `locks`. -/
def Free (c : Config I ε α σ W L ι) (i : ι) (locks : List L) : Prop :=
  ∀ j, j ≠ i → ∀ l ∈ locks, l ∉ (c.clients j).held

instance [Fintype ι] [DecidableEq ι] [DecidableEq L] (c : Config I ε α σ W L ι) (i : ι)
    (locks : List L) : Decidable (c.Free i locks) :=
  inferInstanceAs (Decidable (∀ j, j ≠ i → ∀ l ∈ locks, l ∉ (c.clients j).held))

/-- The committed results so far. -/
def results (c : Config I ε α σ W L ι) : ι → Option α := fun i => (c.clients i).result

variable [DecidableEq ι]

/-- Replace client `i`. -/
def set (c : Config I ε α σ W L ι) (i : ι) (client : Client I ε α W L) :
    Config I ε α σ W L ι :=
  { c with clients := Function.update c.clients i client }

@[simp] theorem set_db (c : Config I ε α σ W L ι) (i : ι) (client : Client I ε α W L) :
    (c.set i client).db = c.db := rfl

@[simp] theorem set_self (c : Config I ε α σ W L ι) (i : ι) (client : Client I ε α W L) :
    (c.set i client).clients i = client := Function.update_self ..

theorem set_of_ne (c : Config I ε α σ W L ι) {i j : ι} (client : Client I ε α W L) (h : j ≠ i) :
    (c.set i client).clients j = c.clients j := Function.update_of_ne h ..

@[simp] theorem set_set (c : Config I ε α σ W L ι) (i : ι) (x y : Client I ε α W L) :
    (c.set i x).set i y = c.set i y := by
  simp [set]

/-- Locks stay exclusive when nobody else holds one of the new client's. -/
theorem exclusive_set {c : Config I ε α σ W L ι} {i : ι} {client : Client I ε α W L}
    (h : ∀ j k, j ≠ k → ∀ l ∈ (c.clients j).held, l ∉ (c.clients k).held)
    (hclient : ∀ j, j ≠ i → ∀ l ∈ client.held, l ∉ (c.clients j).held) :
    ∀ j k, j ≠ k → ∀ l ∈ ((c.set i client).clients j).held,
      l ∉ ((c.set i client).clients k).held := by
  intro j k hjk l hl
  by_cases hj : j = i
  · subst hj
    rw [set_self] at hl
    rw [set_of_ne c client hjk.symm]
    exact hclient k hjk.symm l hl
  · rw [set_of_ne c client hj] at hl
    by_cases hk : k = i
    · subst hk
      rw [set_self]
      exact fun hmem => hclient j hj l hmem hl
    · rw [set_of_ne c client hk]
      exact h j k hjk l hl

variable [Fintype ι] [DecidableEq L]

/-- One event, when it is enabled. -/
def exec (E : Engine I ε σ W L) (c : Config I ε α σ W L ι) :
    Event ι → Option (Config I ε α σ W L ι)
  | .turn i =>
    match c.clients i with
    | .running (.step s next) w h =>
      if c.Free i (E.need s w c.db) then
        some (c.set i (.running (next (E.exec s w c.db).1) (E.exec s w c.db).2
          (E.need s w c.db ++ h)))
      else none
    | .running (.raise e) _ _ => some (c.set i (.aborted (some e)))
    | .running (.done a) w _ =>
      if c.Free i (E.needCommit w) then
        match E.commit w c.db with
        | .ok db => some { c.set i (.committed a) with db := db }
        | .error e => some (c.set i (.aborted (some e)))
      else none
    | _ => none
  | .kill i =>
    match c.clients i with
    | .running _ _ _ => some (c.set i (.aborted none))
    | _ => none

/-- What one event can do: execute a statement, commit, or abort a client. -/
theorem exec_cases {E : Engine I ε σ W L} {c c' : Config I ε α σ W L ι} {ev : Event ι}
    (h : c.exec E ev = some c') :
    (∃ i s next w held, ev = .turn i ∧ c.clients i = .running (.step s next) w held ∧
      c.Free i (E.need s w c.db) ∧
      c' = c.set i (.running (next (E.exec s w c.db).1) (E.exec s w c.db).2
        (E.need s w c.db ++ held))) ∨
    (∃ i a w held db, ev = .turn i ∧ c.clients i = .running (.done a) w held ∧
      c.Free i (E.needCommit w) ∧ E.commit w c.db = .ok db ∧
      c' = { c.set i (.committed a) with db := db }) ∨
    (∃ i p w held e, c.clients i = .running p w held ∧ c' = c.set i (.aborted e)) := by
  cases ev with
  | turn i =>
    simp only [exec] at h
    split at h
    · rename_i s next w held hi
      split at h
      · rename_i hfree
        exact Or.inl ⟨i, s, next, w, held, rfl, hi, hfree, (Option.some.inj h).symm⟩
      · cases h
    · rename_i e w held hi
      exact Or.inr (Or.inr ⟨i, _, w, held, some e, hi, (Option.some.inj h).symm⟩)
    · rename_i a w held hi
      split at h
      · rename_i hfree
        split at h
        · rename_i db hdb
          exact Or.inr (Or.inl ⟨i, a, w, held, db, rfl, hi, hfree, hdb,
            (Option.some.inj h).symm⟩)
        · rename_i e _
          exact Or.inr (Or.inr ⟨i, _, w, held, some e, hi, (Option.some.inj h).symm⟩)
      · cases h
    · cases h
  | kill i =>
    simp only [exec] at h
    split at h
    · rename_i p w held hi
      exact Or.inr (Or.inr ⟨i, p, w, held, none, hi, (Option.some.inj h).symm⟩)
    · cases h

/-- Locks stay exclusive: a statement is executed when nobody else holds one that it needs. -/
theorem exclusive_of_exec {E : Engine I ε σ W L} {c c' : Config I ε α σ W L ι} {ev : Event ι}
    (h : ∀ j k, j ≠ k → ∀ l ∈ (c.clients j).held, l ∉ (c.clients k).held)
    (hexec : c.exec E ev = some c') :
    ∀ j k, j ≠ k → ∀ l ∈ (c'.clients j).held, l ∉ (c'.clients k).held := by
  rcases exec_cases hexec with ⟨i, s, next, w, held, -, hi, hfree, rfl⟩ |
    ⟨i, a, w, held, db, -, -, -, -, rfl⟩ | ⟨i, p, w, held, e, -, rfl⟩
  · have hheld : (c.clients i).held = held := by rw [hi]; rfl
    refine exclusive_set h fun j hj l hl => ?_
    rcases List.mem_append.mp hl with hneed | hold
    · exact hfree j hj l hneed
    · exact h i j hj.symm l (hheld ▸ hold)
  · exact exclusive_set h fun _ _ _ hl => nomatch hl
  · exact exclusive_set h fun _ _ _ hl => nomatch hl

/-- An event leaves the clients that it is not about as they are. -/
theorem clients_of_exec {E : Engine I ε σ W L} {c c' : Config I ε α σ W L ι} {ev : Event ι} {j : ι}
    (h : c.exec E ev = some c') (hj : ev ≠ .turn j ∧ ev ≠ .kill j) :
    c'.clients j = c.clients j := by
  cases ev with
  | turn i =>
    have hji : j ≠ i := fun heq => hj.1 (heq ▸ rfl)
    simp only [exec] at h
    split at h
    · split at h
      · cases h
        exact set_of_ne c _ hji
      · cases h
    · cases h
      exact set_of_ne c _ hji
    · split at h
      · split at h
        · cases h
          exact set_of_ne c _ hji
        · cases h
          exact set_of_ne c _ hji
      · cases h
    · cases h
  | kill i =>
    have hji : j ≠ i := fun heq => hj.2 (heq ▸ rfl)
    simp only [exec] at h
    split at h
    · cases h
      exact set_of_ne c _ hji
    · cases h

/-- Execute a list of events, when each is enabled and satisfies `cond` in its
    turn. -/
def execAll (E : Engine I ε σ W L) (cond : Config I ε α σ W L ι → Event ι → Prop)
    [∀ c ev, Decidable (cond c ev)] (c : Config I ε α σ W L ι) :
    List (Event ι) → Option (Config I ε α σ W L ι)
  | [] => some c
  | ev :: rest => if cond c ev then (c.exec E ev).bind fun c' => c'.execAll E cond rest else none

end Config

section Reach

variable [DecidableEq ι] [Fintype ι] [DecidableEq L]

/-- The configurations reached from `c₀` by events that satisfy `cond` when they
    happen. -/
inductive Reach (E : Engine I ε σ W L) (cond : Config I ε α σ W L ι → Event ι → Prop)
    (c₀ : Config I ε α σ W L ι) : Config I ε α σ W L ι → Prop where
  | refl : Reach E cond c₀ c₀
  | step {c c' : Config I ε α σ W L ι} {ev : Event ι} (reached : Reach E cond c₀ c)
      (allowed : cond c ev) (moved : c.exec E ev = some c') : Reach E cond c₀ c'

/-- Every interleaving: no condition on the events. -/
def anyEvent : Config I ε α σ W L ι → Event ι → Prop := fun _ _ => True

instance (c : Config I ε α σ W L ι) (ev : Event ι) : Decidable (anyEvent c ev) := isTrue trivial

theorem Reach.trans {E : Engine I ε σ W L} {cond : Config I ε α σ W L ι → Event ι → Prop}
    {c₀ c₁ c₂ : Config I ε α σ W L ι} (h₁ : Reach E cond c₀ c₁) (h₂ : Reach E cond c₁ c₂) :
    Reach E cond c₀ c₂ := by
  induction h₂ with
  | refl => exact h₁
  | step _ allowed moved ih => exact ih.step allowed moved

theorem Reach.mono {E : Engine I ε σ W L} {cond cond' : Config I ε α σ W L ι → Event ι → Prop}
    {c₀ c : Config I ε α σ W L ι} (h : Reach E cond c₀ c)
    (himp : ∀ c ev, cond c ev → cond' c ev) : Reach E cond' c₀ c := by
  induction h with
  | refl => exact .refl
  | step _ allowed moved ih => exact ih.step (himp _ _ allowed) moved

/-- As long as nobody has committed, the database is as it was. -/
theorem Reach.db_of_no_results {E : Engine I ε σ W L}
    {cond : Config I ε α σ W L ι → Event ι → Prop} {c₀ c : Config I ε α σ W L ι}
    (h : Reach E cond c₀ c) (hnone : ∀ i, c.results i = none) : c.db = c₀.db := by
  induction h with
  | refl => rfl
  | step reached allowed moved ih =>
    have hbefore : ∀ {i : ι} {client : Client I ε α W L} {c : Config I ε α σ W L ι},
        c.results i = none → (∀ j, (c.set i client).results j = none) →
          ∀ j, c.results j = none := by
      intro i client c hi hset j
      by_cases hji : j = i
      · rw [hji]
        exact hi
      · have hj := hset j
        rwa [Config.results, Config.set_of_ne c client hji] at hj
    rcases Config.exec_cases moved with ⟨i, s, next, w, held, -, hi, -, rfl⟩ |
      ⟨i, a, w, held, db, -, -, -, -, rfl⟩ | ⟨i, p, w, held, e, hi, rfl⟩
    · exact ih (hbefore (by simp only [Config.results, hi, Client.result]) hnone)
    · have hi := hnone i
      simp [Config.results, Config.set, Client.result] at hi
    · exact ih (hbefore (by simp only [Config.results, hi, Client.result]) hnone)

section ExecAll

variable {E : Engine I ε σ W L} {cond : Config I ε α σ W L ι → Event ι → Prop}
  [∀ c ev, Decidable (cond c ev)] {c₀ c : Config I ε α σ W L ι}

/-- A schedule that executes is a run. -/
theorem Reach.of_execAll (evs : List (Event ι)) {c' : Config I ε α σ W L ι}
    (h₀ : Reach E cond c₀ c) (h : c.execAll E cond evs = some c') : Reach E cond c₀ c' := by
  induction evs generalizing c with
  | nil =>
    cases h
    exact h₀
  | cons ev rest ih =>
    simp only [Config.execAll] at h
    split at h
    · rename_i hcond
      obtain ⟨c₁, hev, hrest⟩ := Option.bind_eq_some_iff.mp h
      exact ih (h₀.step hcond hev) hrest
    · cases h

/-- A client that no event of the schedule is about stays as it is. -/
theorem Config.clients_of_execAll {j : ι} (evs : List (Event ι)) {c' : Config I ε α σ W L ι}
    (h : c.execAll E cond evs = some c') (hj : ∀ ev ∈ evs, ev ≠ .turn j ∧ ev ≠ .kill j) :
    c'.clients j = c.clients j := by
  induction evs generalizing c with
  | nil =>
    cases h
    rfl
  | cons ev rest ih =>
    rw [List.forall_mem_cons] at hj
    simp only [Config.execAll] at h
    split at h
    · obtain ⟨c₁, hev, hrest⟩ := Option.bind_eq_some_iff.mp h
      exact (ih hrest hj.2).trans (Config.clients_of_exec hev hj.1)
    · cases h

/-- A schedule that executes, to a configuration that passes a test. -/
theorem Reach.exists_of_execAll (evs : List (Event ι)) {p : Config I ε α σ W L ι → Prop}
    [DecidablePred p] (h : (c₀.execAll E cond evs).any (fun c => p c) = true) :
    ∃ c, Reach E cond c₀ c ∧ p c := by
  cases hexec : c₀.execAll E cond evs with
  | none =>
    rw [hexec] at h
    cases h
  | some c =>
    rw [hexec] at h
    exact ⟨c, of_execAll evs .refl hexec, of_decide_eq_true h⟩

end ExecAll

end Reach

/-! ## Weakest preconditions under interference -/

/-- `wp E rely m w held db post`: from memory `w`, locks `held` and committed
    database `db`, whatever the other clients do to the database within `rely` of
    the locks held, the program `m` reaches its end only in `post`. Before a
    statement is executed the database is the one given; afterwards it is any one
    that `rely` allows. -/
def wp (E : Engine I ε σ W L) (rely : List L → σ → σ → Prop) :
    Prog I ε α → W → List L → σ → (α → W → List L → σ → Prop) → Prop
  | .done a, w, held, db, post => post a w held db
  | .raise _, _, _, _, _ => True
  | .step s next, w, held, db, post =>
    ∀ db', rely (E.need s w db ++ held) db db' →
      wp E rely (next (E.exec s w db).1) (E.exec s w db).2 (E.need s w db ++ held) db' post

section Wp

variable {E : Engine I ε σ W L} {rely : List L → σ → σ → Prop}

@[simp] theorem wp_done (a : α) (w : W) (held : List L) (db : σ)
    (post : α → W → List L → σ → Prop) :
    wp E rely (.done a : Prog I ε α) w held db post ↔ post a w held db := Iff.rfl

@[simp] theorem wp_raise (e : ε) (w : W) (held : List L) (db : σ)
    (post : α → W → List L → σ → Prop) :
    wp E rely (.raise e : Prog I ε α) w held db post ↔ True := Iff.rfl

theorem wp_step (s : I.Stmt) (next : I.Resp s → Prog I ε α) (w : W) (held : List L) (db : σ)
    (post : α → W → List L → σ → Prop) :
    wp E rely (.step s next) w held db post ↔
      ∀ db', rely (E.need s w db ++ held) db db' →
        wp E rely (next (E.exec s w db).1) (E.exec s w db).2 (E.need s w db ++ held)
          db' post := Iff.rfl

/-- Sequencing: the first program has to establish the precondition of the
    rest. -/
theorem wp_bind (m : Prog I ε α) (f : α → Prog I ε β) (w : W) (held : List L) (db : σ)
    (post : β → W → List L → σ → Prop) :
    wp E rely (m >>= f) w held db post ↔
      wp E rely m w held db fun a w' held' db' => wp E rely (f a) w' held' db' post := by
  induction m generalizing w held db with
  | done a => rfl
  | raise e => rfl
  | step s next ih =>
    simp only [Prog.step_bind, wp_step]
    exact forall₂_congr fun db' _ => ih _ _ _ _

/-- A check that ends the program. -/
theorem wp_if_raise {c : Prop} [Decidable c] {e : ε} {m : Prog I ε α} {w : W} {held : List L}
    {db : σ} {post : α → W → List L → σ → Prop} :
    wp E rely (if c then .raise e else m) w held db post ↔ (¬ c → wp E rely m w held db post) := by
  by_cases hc : c <;> simp [hc]

theorem wp_mono {m : Prog I ε α} {w : W} {held : List L} {db : σ}
    {post post' : α → W → List L → σ → Prop} (h : wp E rely m w held db post)
    (himp : ∀ a w' held' db', post a w' held' db' → post' a w' held' db') :
    wp E rely m w held db post' := by
  induction m generalizing w held db with
  | done a => exact himp _ _ _ _ h
  | raise e => trivial
  | step s next ih =>
    intro db' hrely
    exact ih _ (h db' hrely)

/-- Nothing is lost when the other clients may do less. -/
theorem wp_rely_mono {rely' : List L → σ → σ → Prop}
    (hless : ∀ held db db', rely' held db db' → rely held db db') {m : Prog I ε α} {w : W}
    {held : List L} {db : σ} {post : α → W → List L → σ → Prop}
    (h : wp E rely m w held db post) : wp E rely' m w held db post := by
  induction m generalizing w held db with
  | done a => exact h
  | raise e => trivial
  | step s next ih =>
    intro db' hrely
    exact ih _ (h db' (hless _ _ _ hrely))

/-- A loop over a list: `inv rest` is what holds when `rest` is still to come. -/
theorem wp_foldlM {f : α → β → Prog I ε α} (inv : List β → α → W → List L → σ → Prop)
    (hbody : ∀ x rest c w held db, inv (x :: rest) c w held db →
      wp E rely (f c x) w held db fun c' w' held' db' => inv rest c' w' held' db')
    (xs : List β) (c : α) (w : W) (held : List L) (db : σ) (h : inv xs c w held db) :
    wp E rely (xs.foldlM f c) w held db (inv []) := by
  induction xs generalizing c w held db with
  | nil => exact h
  | cons x rest ih =>
    rw [List.foldlM_cons, wp_bind]
    exact wp_mono (hbody x rest c w held db h) fun c' w' held' db' h' => ih c' w' held' db' h'

theorem wp_forM {f : β → Prog I ε PUnit} (inv : List β → W → List L → σ → Prop)
    (hbody : ∀ x rest w held db, inv (x :: rest) w held db →
      wp E rely (f x) w held db fun _ w' held' db' => inv rest w' held' db')
    (xs : List β) (w : W) (held : List L) (db : σ) (h : inv xs w held db) :
    wp E rely (xs.forM f) w held db fun _ => inv [] := by
  induction xs generalizing w held db with
  | nil => exact h
  | cons x rest ih =>
    rw [Prog.forM_cons, wp_bind]
    exact wp_mono (hbody x rest w held db h) fun _ w' held' db' h' => ih w' held' db' h'

/-- While a lock is held under which nobody else can change the database, a
    program does what it does when it runs alone. -/
theorem wp_of_alone {lock : L} {db : σ}
    (hsole : ∀ held db', lock ∈ held → rely held db db' → db' = db)
    {m : Prog I ε α} {w : W} {held : List L} (hlock : lock ∈ held)
    {post : α → W → List L → σ → Prop}
    (hpost : ∀ a w', m.run (fun s w => E.exec s w db) w = .ok (a, w') →
      ∀ held', (∀ l ∈ held, l ∈ held') → post a w' held' db) :
    wp E rely m w held db post := by
  induction m generalizing w held with
  | done a => exact hpost a w rfl held fun _ hl => hl
  | raise e => trivial
  | step s next ih =>
    intro db' hrely
    have hmem : lock ∈ E.need s w db ++ held := List.mem_append_right _ hlock
    obtain rfl := hsole _ _ hmem hrely
    refine ih _ hmem fun a w' hrun held' hsub => hpost a w' hrun held' fun l hl => ?_
    exact hsub l (List.mem_append_right _ hl)

/-- What every statement a program uses keeps of the session's memory, whatever the
    database is, the program keeps. -/
theorem wp_of_uses (keeps : W → Prop) {ok : I.Stmt → Prop}
    (hstep : ∀ s, ok s → ∀ w db, keeps w → keeps (E.exec s w db).2) {m : Prog I ε α}
    (hm : m.Uses ok) {w : W} (hw : keeps w) (held : List L) (db : σ) :
    wp E rely m w held db fun _ w' _ _ => keeps w' := by
  induction m generalizing w held db with
  | done a => exact hw
  | raise e => trivial
  | step s next ih =>
    intro db' _
    exact ih _ (hm.2 _) (hstep s hm.1 w db hw) _ _

/-- What the locks protect stays true to the end. -/
theorem wp_and_stable (stable : List L → σ → Prop)
    (hstable : ∀ held locks db db', stable held db → rely (locks ++ held) db db' →
      stable (locks ++ held) db')
    {m : Prog I ε α} {w : W} {held : List L} {db : σ} {post : α → W → List L → σ → Prop}
    (h : wp E rely m w held db post) (h₀ : stable held db) :
    wp E rely m w held db fun a w' held' db' => post a w' held' db' ∧ stable held' db' := by
  induction m generalizing w held db with
  | done a => exact ⟨h, h₀⟩
  | raise e => trivial
  | step s next ih =>
    intro db' hrely
    exact ih _ (h db' hrely) (hstable _ _ _ _ h₀ hrely)

end Wp

/-! ## Proof outlines -/

/-- What has to be shown to keep `inv` over every interleaving: for each client a
    `rely` (what the others may do while it holds some locks) and a `post`
    (what it knows when it is about to commit), and that a commit in `post` keeps
    `inv` and stays within the `rely` of everybody whose locks are disjoint from
    its own. -/
structure Outline (E : Engine I ε σ W L) (cond : Config I ε α σ W L ι → Event ι → Prop)
    [DecidableEq ι] where
  rely : ι → List L → σ → σ → Prop
  post : ι → α → W → List L → σ → Prop
  inv : σ → (ι → Option α) → Prop
  rely_refl : ∀ i held db, rely i held db db
  rely_trans : ∀ i held db₁ db₂ db₃,
    rely i held db₁ db₂ → rely i held db₂ db₃ → rely i held db₁ db₃
  post_stable : ∀ i a w held db db',
    post i a w held db → rely i held db db' → post i a w held db'
  commit_ok : ∀ c i a w held db, c.clients i = .running (.done a) w held → cond c (.turn i) →
    inv c.db c.results → post i a w held c.db → E.commit w c.db = .ok db →
      inv db (Function.update c.results i (some a)) ∧
      ∀ j, j ≠ i → ∀ locks, (∀ l ∈ locks, l ∉ held ∧ l ∉ E.needCommit w) → rely j locks c.db db

namespace Outline

variable [DecidableEq ι] {E : Engine I ε σ W L}
  {cond : Config I ε α σ W L ι → Event ι → Prop}

/-- The invariant of configurations an outline proves: locks are exclusive and
    every running client will end in its `post`, whatever its `rely` allows to
    happen first. -/
structure Good (o : Outline E cond) (c : Config I ε α σ W L ι) : Prop where
  inv : o.inv c.db c.results
  exclusive : ∀ i j, i ≠ j → ∀ l ∈ (c.clients i).held, l ∉ (c.clients j).held
  clients : ∀ i p w held, c.clients i = .running p w held → ∀ db, o.rely i held c.db db →
    wp E (o.rely i) p w held db (o.post i)

theorem set_result_of_running {c : Config I ε α σ W L ι} {i : ι} {client : Client I ε α W L}
    {p : Prog I ε α} {w : W} {held : List L} (hi : c.clients i = .running p w held)
    (hclient : client.result = none) : (c.set i client).results = c.results := by
  funext j
  by_cases hj : j = i
  · subst hj
    have hold : (c.clients j).result = none := by rw [hi]; rfl
    simp [Config.results, Config.set, hclient, hold]
  · simp [Config.results, Config.set, hj]

section Sound

variable [Fintype ι] [DecidableEq L]

theorem good_step (o : Outline E cond) {c c' : Config I ε α σ W L ι} {ev : Event ι}
    (hgood : o.Good c) (hcond : cond c ev) (hexec : c.exec E ev = some c') : o.Good c' := by
  have hexclusive := Config.exclusive_of_exec hgood.exclusive hexec
  rcases Config.exec_cases hexec with
    ⟨i, s, next, w, held, rfl, hi, hfree, rfl⟩ | ⟨i, a, w, held, db, rfl, hi, hfree, hdb, rfl⟩ |
    ⟨i, p, w, held, e, hi, rfl⟩
  · -- a statement: the database stays, the client gains locks nobody else holds
    refine ⟨?_, hexclusive, ?_⟩
    · rw [set_result_of_running hi rfl]
      exact hgood.inv
    · intro j p' w' held' hj' db hrely
      by_cases hj : j = i
      · subst hj
        simp only [Config.set, Function.update_self, Client.running.injEq] at hj'
        obtain ⟨rfl, rfl, rfl⟩ := hj'
        have hwp := hgood.clients j _ _ _ hi c.db (o.rely_refl j held c.db)
        exact hwp db hrely
      · simp only [Config.set, Function.update_of_ne hj] at hj'
        exact hgood.clients j p' w' held' hj' db hrely
  · -- a commit: the others only see what their own locks allow
    have hpost : o.post i a w held c.db :=
      hgood.clients i _ _ _ hi c.db (o.rely_refl i held c.db)
    obtain ⟨hinv, hothers⟩ := o.commit_ok c i a w held db hi hcond hgood.inv hpost hdb
    refine ⟨?_, hexclusive, ?_⟩
    · convert hinv using 1
      funext j
      by_cases hj : j = i
      · subst hj
        simp [Config.results, Config.set, Client.result]
      · simp [Config.results, Config.set, hj]
    · intro j p' w' held' hj' db' hrely
      have hj : j ≠ i := by
        rintro rfl
        simp [Config.set] at hj'
      simp only [Config.set, Function.update_of_ne hj] at hj'
      have hlocks : ∀ l ∈ held', l ∉ held ∧ l ∉ E.needCommit w := by
        intro l hl
        have hmem : l ∈ (c.clients j).held := by rw [hj']; exact hl
        refine ⟨fun hli => ?_, fun hneed => hfree j hj l hneed hmem⟩
        exact hgood.exclusive j i hj l hmem (by rw [hi]; exact hli)
      exact hgood.clients j p' w' held' hj' db'
        (o.rely_trans j held' _ _ _ (hothers j hj held' hlocks) hrely)
  · -- an abort: the private memory is dropped
    refine ⟨?_, hexclusive, ?_⟩
    · rw [set_result_of_running hi rfl]
      exact hgood.inv
    · intro j p' w' held' hj' db hrely
      have hj : j ≠ i := by
        rintro rfl
        simp [Config.set] at hj'
      simp only [Config.set, Function.update_of_ne hj] at hj'
      exact hgood.clients j p' w' held' hj' db hrely

/-- Every configuration reached from a good one is good. -/
theorem sound (o : Outline E cond) {c₀ c : Config I ε α σ W L ι} (h₀ : o.Good c₀)
    (h : Reach E cond c₀ c) : o.Good c := by
  induction h with
  | refl => exact h₀
  | step _ allowed moved ih => exact o.good_step ih allowed moved

/-- What relates the database before and after each commit relates it before and after
    a run. -/
theorem db_rel (o : Outline E cond) {rel : σ → σ → Prop} (hrefl : ∀ db, rel db db)
    (htrans : ∀ db₁ db₂ db₃, rel db₁ db₂ → rel db₂ db₃ → rel db₁ db₃)
    (hcommit : ∀ i a w held db db', o.post i a w held db → E.commit w db = .ok db' →
      rel db db')
    {c c' : Config I ε α σ W L ι} (hgood : o.Good c) (h : Reach E cond c c') :
    rel c.db c'.db := by
  have hstep : o.Good c' ∧ rel c.db c'.db := by
    induction h with
    | refl => exact ⟨hgood, hrefl _⟩
    | step _ allowed moved ih =>
      refine ⟨o.good_step ih.1 allowed moved, ?_⟩
      rcases Config.exec_cases moved with ⟨i, s, next, w, held, -, -, -, rfl⟩ |
        ⟨i, a, w, held, db, -, hi, -, hdb, rfl⟩ | ⟨i, p, w, held, e, -, rfl⟩
      · exact ih.2
      · have hpost := ih.1.clients i _ _ _ hi _ (o.rely_refl i held _)
        exact htrans _ _ _ ih.2 (hcommit i a w held _ _ hpost hdb)
      · exact ih.2
  exact hstep.2

end Sound

/-- Clients that are all about to begin are good when their programs are. -/
theorem good_start (o : Outline E cond) (db : σ) (progs : ι → Prog I ε α)
    (hinv : o.inv db fun _ => none)
    (hwp : ∀ i db', o.rely i [] db db' →
      wp E (o.rely i) (progs i) E.start [] db' (o.post i)) :
    o.Good { db, clients := fun i => .running (progs i) E.start [] } := by
  refine ⟨hinv, ?_, ?_⟩
  · intro i j _ l hl
    simp [Client.held] at hl
  · intro i p w held hi db' hrely
    simp only [Client.running.injEq] at hi
    obtain ⟨rfl, rfl, rfl⟩ := hi
    exact hwp i db' hrely

end Outline

end Txn
