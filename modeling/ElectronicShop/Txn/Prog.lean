import Mathlib.Logic.Basic

/-!
# Transaction programs

A transaction program is what a request handler does to a database, cut at its
statements: a statement is sent, its answer comes back, and the program goes on
with that answer. The same program has two meanings: run on its own on one
database state (`Prog.run`, below), and interleaved with other transactions
(`Txn.ReadCommitted`). Nothing here depends on which statements a database has.
-/

namespace Txn

/-- The statements of a kind of database, and what each one is answered with. -/
structure Interface where
  Stmt : Type
  Resp : Stmt → Type

/-- A transaction program: finished, stopped by an error, or waiting for the
    answer to a statement. -/
inductive Prog (I : Interface) (ε α : Type) : Type where
  | done (value : α)
  | raise (error : ε)
  | step (stmt : I.Stmt) (next : I.Resp stmt → Prog I ε α)

namespace Prog

variable {I : Interface} {ε α β γ : Type}

/-- Sequencing: an error ends the whole program. -/
def bind : Prog I ε α → (α → Prog I ε β) → Prog I ε β
  | .done a, f => f a
  | .raise e, _ => .raise e
  | .step s next, f => .step s fun r => (next r).bind f

instance : Monad (Prog I ε) where
  pure := .done
  bind := Prog.bind

/-- The program that sends one statement and returns its answer. -/
def send (s : I.Stmt) : Prog I ε (I.Resp s) := .step s .done

/-- A value that has to be there. -/
def orRaise (error : ε) : Option α → Prog I ε α
  | some a => .done a
  | none => .raise error

@[simp] theorem pure_eq (a : α) : (pure a : Prog I ε α) = .done a := rfl

@[simp] theorem done_bind (a : α) (f : α → Prog I ε β) : (Prog.done a >>= f) = f a := rfl

@[simp] theorem raise_bind (e : ε) (f : α → Prog I ε β) :
    (Prog.raise e >>= f) = Prog.raise e := rfl

@[simp] theorem step_bind (s : I.Stmt) (next : I.Resp s → Prog I ε α) (f : α → Prog I ε β) :
    (Prog.step s next >>= f) = Prog.step s fun r => next r >>= f := rfl

@[simp] theorem send_bind (s : I.Stmt) (f : I.Resp s → Prog I ε β) :
    ((send s : Prog I ε _) >>= f) = Prog.step s f := rfl

/-- A value that must not be there. -/
def raiseIfSome (error : ε) : Option β → Prog I ε Unit
  | none => .done ()
  | some _ => .raise error

theorem bind_done (m : Prog I ε α) : (m >>= Prog.done) = m := by
  induction m with
  | done a => rfl
  | raise e => rfl
  | step s next ih => exact congrArg (Prog.step s) (funext ih)

theorem bind_assoc (m : Prog I ε α) (f : α → Prog I ε β) (g : β → Prog I ε γ) :
    (m >>= f >>= g) = m >>= fun a => f a >>= g := by
  induction m with
  | done a => rfl
  | raise e => rfl
  | step s next ih => exact congrArg (Prog.step s) (funext ih)

instance : LawfulMonad (Prog I ε) :=
  LawfulMonad.mk' (Prog I ε) bind_done (fun _ _ => rfl) bind_assoc

@[simp] theorem forM_nil (f : β → Prog I ε PUnit) : [].forM f = Prog.done PUnit.unit := rfl

theorem forM_cons (f : β → Prog I ε PUnit) (x : β) (xs : List β) :
    (x :: xs).forM f = f x >>= fun _ => xs.forM f := rfl

/-! ## Running a program on its own -/

section Run

variable {σ : Type} (exec : (s : I.Stmt) → σ → I.Resp s × σ)

/-- Run a program on one database state: every statement takes effect at once
    and the program ends with a value and a state, or with an error. -/
def run : Prog I ε α → σ → Except ε (α × σ)
  | .done a, db => .ok (a, db)
  | .raise e, _ => .error e
  | .step s next, db => (next (exec s db).1).run (exec s db).2

@[simp] theorem run_done (a : α) (db : σ) :
    (Prog.done a : Prog I ε α).run exec db = .ok (a, db) := rfl

@[simp] theorem run_raise (e : ε) (db : σ) :
    (Prog.raise e : Prog I ε α).run exec db = .error e := rfl

@[simp] theorem run_step (s : I.Stmt) (next : I.Resp s → Prog I ε α) (db : σ) :
    (Prog.step s next).run exec db = (next (exec s db).1).run exec (exec s db).2 := rfl

@[simp] theorem run_send (s : I.Stmt) (db : σ) :
    (send s : Prog I ε _).run exec db = .ok (exec s db) := rfl

/-- Sequencing runs the first program, then the rest on what it left. -/
theorem run_bind (m : Prog I ε α) (f : α → Prog I ε β) (db : σ) :
    (m >>= f).run exec db = match m.run exec db with
      | .ok (a, db') => (f a).run exec db'
      | .error e => .error e := by
  induction m generalizing db with
  | done a => rfl
  | raise e => rfl
  | step s next ih => exact ih _ _

variable {exec}

theorem run_bind_of_ok {m : Prog I ε α} {f : α → Prog I ε β} {db db' : σ} {a : α}
    (h : m.run exec db = .ok (a, db')) :
    (m >>= f).run exec db = (f a).run exec db' := by
  rw [run_bind, h]

theorem run_bind_of_error {m : Prog I ε α} {f : α → Prog I ε β} {db : σ} {e : ε}
    (h : m.run exec db = .error e) : (m >>= f).run exec db = .error e := by
  rw [run_bind, h]

theorem run_bind_congr {m m' : Prog I ε α} {f f' : α → Prog I ε β} {db : σ}
    (hm : m.run exec db = m'.run exec db)
    (hf : ∀ a db', m.run exec db = .ok (a, db') → (f a).run exec db' = (f' a).run exec db') :
    (m >>= f).run exec db = (m' >>= f').run exec db := by
  rw [run_bind, run_bind, ← hm]
  cases h : m.run exec db with
  | error e => rfl
  | ok r => exact hf r.1 r.2 h

/-- A sequence succeeds exactly when its first part does and the rest succeeds
    after it. -/
theorem run_bind_ok {m : Prog I ε α} {f : α → Prog I ε β} {db db'' : σ} {b : β} :
    (m >>= f).run exec db = .ok (b, db'') ↔
      ∃ a db', m.run exec db = .ok (a, db') ∧ (f a).run exec db' = .ok (b, db'') := by
  rw [run_bind]
  cases h : m.run exec db with
  | error e => simp
  | ok r =>
    obtain ⟨a, db'⟩ := r
    constructor
    · intro hrest
      exact ⟨a, db', rfl, hrest⟩
    · rintro ⟨_, _, heq, hrest⟩
      cases heq
      exact hrest

theorem run_orRaise_ok {e : ε} {x : Option α} {db db' : σ} {a : α} :
    (orRaise e x : Prog I ε α).run exec db = .ok (a, db') ↔ x = some a ∧ db' = db := by
  cases x with
  | none => simp [orRaise]
  | some y => simp [orRaise, eq_comm]

theorem run_orRaise_bind {e : ε} {x : Option α} {f : α → Prog I ε β} {db : σ} {r : β × σ} :
    (orRaise e x >>= f).run exec db = .ok r ↔ ∃ a, x = some a ∧ (f a).run exec db = .ok r := by
  cases x with
  | none => simp [orRaise]
  | some y => simp [orRaise]

theorem run_raiseIfSome_bind {e : ε} {x : Option γ} {f : Unit → Prog I ε β} {db : σ}
    {r : β × σ} :
    (raiseIfSome e x >>= f).run exec db = .ok r ↔ x = none ∧ (f ()).run exec db = .ok r := by
  cases x with
  | none => simp [raiseIfSome]
  | some y => simp [raiseIfSome]

/-- A check that ends the program. -/
theorem run_if_raise_ok {c : Prop} [Decidable c] {e : ε} {m : Prog I ε α} {db : σ} {r : α × σ} :
    (if c then .raise e else m : Prog I ε α).run exec db = .ok r ↔ ¬ c ∧ m.run exec db = .ok r := by
  by_cases hc : c <;> simp [hc]

end Run

/-! ## Which statements a program can send -/

/-- Every statement the program can ever send, whatever the answers, satisfies
    `ok`. -/
def Uses (ok : I.Stmt → Prop) : Prog I ε α → Prop
  | .done _ => True
  | .raise _ => True
  | .step s next => ok s ∧ ∀ r, (next r).Uses ok

section Uses

variable {ok : I.Stmt → Prop}

@[simp] theorem uses_done (a : α) : (Prog.done a : Prog I ε α).Uses ok := trivial

@[simp] theorem uses_raise (e : ε) : (Prog.raise e : Prog I ε α).Uses ok := trivial

@[simp] theorem uses_step (s : I.Stmt) (next : I.Resp s → Prog I ε α) :
    (Prog.step s next).Uses ok ↔ ok s ∧ ∀ r, (next r).Uses ok := Iff.rfl

@[simp] theorem uses_send (s : I.Stmt) : (send s : Prog I ε _).Uses ok ↔ ok s := by
  simp [send]

@[simp] theorem uses_orRaise (e : ε) (x : Option α) : (orRaise e x : Prog I ε α).Uses ok := by
  cases x <;> trivial

@[simp] theorem uses_raiseIfSome (e : ε) (x : Option β) :
    (raiseIfSome e x : Prog I ε Unit).Uses ok := by
  cases x <;> trivial

theorem Uses.bind {m : Prog I ε α} {f : α → Prog I ε β} (hm : m.Uses ok)
    (hf : ∀ a, (f a).Uses ok) : (m >>= f).Uses ok := by
  induction m with
  | done a => exact hf a
  | raise e => trivial
  | step s next ih => exact ⟨hm.1, fun r => ih r (hm.2 r)⟩

theorem Uses.mono {ok' : I.Stmt → Prop} {m : Prog I ε α} (hm : m.Uses ok)
    (himp : ∀ s, ok s → ok' s) : m.Uses ok' := by
  induction m with
  | done a => trivial
  | raise e => trivial
  | step s next ih => exact ⟨himp s hm.1, fun r => ih r (hm.2 r)⟩

/-- Every statement after the first one is `ok`. -/
def ThenUses (ok : I.Stmt → Prop) : Prog I ε α → Prop
  | .step _ next => ∀ r, (next r).Uses ok
  | .done _ => True
  | .raise _ => True

theorem Uses.thenUses {m : Prog I ε α} (hm : m.Uses ok) : m.ThenUses ok := by
  cases m with
  | step s next => exact hm.2
  | _ => trivial

theorem ThenUses.bind {m : Prog I ε α} {f : α → Prog I ε β} (hm : m.ThenUses ok)
    (hf : ∀ a, (f a).Uses ok) : (m >>= f).ThenUses ok := by
  cases m with
  | done a => exact (hf a).thenUses
  | raise e => trivial
  | step s next => exact fun r => (hm r).bind hf

theorem Uses.forM {f : β → Prog I ε PUnit} (xs : List β) (hf : ∀ x, (f x).Uses ok) :
    (xs.forM f).Uses ok := by
  induction xs with
  | nil => trivial
  | cons x xs ih => exact (hf x).bind fun _ => ih

theorem Uses.foldlM {f : γ → β → Prog I ε γ} (xs : List β) (init : γ)
    (hf : ∀ c x, (f c x).Uses ok) : (xs.foldlM f init).Uses ok := by
  induction xs generalizing init with
  | nil => trivial
  | cons x xs ih => exact (hf init x).bind fun c => ih c

/-- A reflexive and transitive relation kept by every statement a program uses
    relates the states before and after its run. -/
theorem Uses.run_rel {σ : Type} {exec : (s : I.Stmt) → σ → I.Resp s × σ}
    (rel : σ → σ → Prop) (hrefl : ∀ db, rel db db)
    (htrans : ∀ db₁ db₂ db₃, rel db₁ db₂ → rel db₂ db₃ → rel db₁ db₃)
    (hstep : ∀ s, ok s → ∀ db, rel db (exec s db).2)
    {m : Prog I ε α} (hm : m.Uses ok) {db db' : σ} {a : α}
    (h : m.run exec db = .ok (a, db')) : rel db db' := by
  induction m generalizing db with
  | done a =>
    cases h
    exact hrefl _
  | raise e => cases h
  | step s next ih =>
    exact htrans _ _ _ (hstep s hm.1 db) (ih _ (hm.2 _) h)

/-- Frame rule: what no statement of a program changes, its run does not
    change. -/
theorem Uses.run_frame {σ τ : Type} {exec : (s : I.Stmt) → σ → I.Resp s × σ} (π : σ → τ)
    (hstep : ∀ s, ok s → ∀ db, π (exec s db).2 = π db)
    {m : Prog I ε α} (hm : m.Uses ok) {db db' : σ} {a : α}
    (h : m.run exec db = .ok (a, db')) : π db' = π db :=
  hm.run_rel (fun db db' => π db' = π db) (fun _ => rfl)
    (fun _ _ _ h₁ h₂ => h₂.trans h₁) hstep h

end Uses

end Prog

end Txn
