import ElectronicShop.Txn.Outcome
import ElectronicShop.Txn.Jobs
import Mathlib.Data.Finset.Max
import Mathlib.Data.Fintype.Basic
import Mathlib.Logic.Hydra

/-!
# Waiting for locks

A client waits as long as another one holds a lock that its next turn needs. `orderly` is a
discipline for the locks that a program asks for, whatever the database is by then, and every
reachable configuration follows it when the programs do. With locks that are ranked, somebody
can go on unless a client waits out of order; and as long as somebody can go on, all clients
can be brought to their end.
-/

namespace Txn

variable {I : Interface} {ε α β σ W L ι τ : Type}

/-! ## Who can take a turn -/

/-- The locks that the next turn of a client needs. -/
def Client.needs (E : Engine I ε σ W L) (db : σ) : Client I ε α W L → List L
  | .running (.step s _) w _ => E.need s w db
  | .running (.done _) w _ => E.needCommit w
  | _ => []

/-- A client that has not ended. -/
def Client.IsRunning (client : Client I ε α W L) : Prop := ∃ p w held, client = .running p w held

theorem Client.isRunning_of_mem_held {client : Client I ε α W L} {l : L} (h : l ∈ client.held) :
    client.IsRunning := by
  cases client with
  | running p w held => exact ⟨p, w, held, rfl⟩
  | committed a => exact absurd h List.not_mem_nil
  | aborted e => exact absurd h List.not_mem_nil

section Turns

variable [DecidableEq ι] [Fintype ι] [DecidableEq L] {E : Engine I ε σ W L}
  {c c' : Config I ε α σ W L ι} {i : ι}

theorem Config.isSome_exec_turn (hi : (c.clients i).IsRunning)
    (hfree : c.Free i ((c.clients i).needs E c.db)) : (c.exec E (.turn i)).isSome := by
  obtain ⟨p, w, held, hclient⟩ := hi
  rw [hclient] at hfree
  cases p with
  | done a =>
    have hfree' : c.Free i (E.needCommit w) := hfree
    simp only [Config.exec, hclient, hfree', if_true]
    split <;> rfl
  | raise e => simp [Config.exec, hclient]
  | step s next =>
    have hfree' : c.Free i (E.need s w c.db) := hfree
    simp [Config.exec, hclient, hfree']

/-- Who cannot take a turn waits for a lock that somebody else holds. -/
theorem Config.exists_holder (hi : (c.clients i).IsRunning)
    (hstuck : ¬ (c.exec E (.turn i)).isSome) :
    ∃ j l, i ≠ j ∧ l ∈ (c.clients i).needs E c.db ∧ l ∈ (c.clients j).held := by
  by_contra hnone
  refine hstuck (Config.isSome_exec_turn hi fun j hji l hl hheld => hnone ?_)
  exact ⟨j, l, hji.symm, hl, hheld⟩

/-- When nobody can take a turn, some client waits for a lock that does not rank above one
    that it holds. -/
theorem Config.exists_turn_or_disordered {ρ : Type} [LinearOrder ρ] (rank : L → ρ)
    (hrunning : ∃ i, (c.clients i).IsRunning) :
    (∃ i, (c.exec E (.turn i)).isSome) ∨
    ∃ i j l m, i ≠ j ∧ l ∈ (c.clients i).needs E c.db ∧ l ∈ (c.clients j).held ∧
      m ∈ (c.clients i).held ∧ rank l ≤ rank m := by
  classical
  by_cases hstuck : ∃ i, (c.exec E (.turn i)).isSome
  · exact Or.inl hstuck
  right
  have hwaits : ∀ i : {i // (c.clients i).IsRunning}, ∃ j l, i.1 ≠ j ∧
      l ∈ (c.clients i.1).needs E c.db ∧ l ∈ (c.clients j).held := fun i =>
    Config.exists_holder i.2 fun h => hstuck ⟨i.1, h⟩
  choose holder lock hne hneeds hheld using hwaits
  obtain ⟨i₀, hi₀⟩ := hrunning
  have hnonempty : (Finset.univ : Finset {i // (c.clients i).IsRunning}).Nonempty :=
    ⟨⟨i₀, hi₀⟩, Finset.mem_univ _⟩
  -- the client that waits for the highest lock: who holds that lock waits, too
  obtain ⟨i, -, hmax⟩ := Finset.exists_max_image Finset.univ (fun i => rank (lock i)) hnonempty
  let j : {i // (c.clients i).IsRunning} := ⟨holder i, Client.isRunning_of_mem_held (hheld i)⟩
  exact ⟨holder i, holder j, lock j, lock i, hne j, hneeds j, hheld j, hheld i,
    hmax j (Finset.mem_univ _)⟩

end Turns

/-! ## A discipline for the locks -/

/-- The statements of a program ask for locks that `ok` allows a client with its locks to ask
    for, when they are executed on databases that have grown from `db`. -/
def orderly (E : Engine I ε σ W L) (grows : σ → σ → Prop) (ok : List L → List L → Prop) :
    Prog I ε α → W → List L → σ → (α → W → List L → σ → Prop) → Prop
  | .done a, w, held, db, post => post a w held db
  | .raise _, _, _, _, _ => True
  | .step s next, w, held, db, post =>
    ∀ db', grows db db' → ok (E.need s w db') held ∧
      orderly E grows ok (next (E.exec s w db').1) (E.exec s w db').2 (E.need s w db' ++ held)
        db' post

section Orderly

variable {E : Engine I ε σ W L} {grows : σ → σ → Prop} {ok : List L → List L → Prop} {w : W}
  {held : List L} {db : σ} {post : α → W → List L → σ → Prop}

theorem orderly_bind (m : Prog I ε β) (f : β → Prog I ε α) :
    orderly E grows ok (m >>= f) w held db post ↔
      orderly E grows ok m w held db fun b w' held' db' =>
        orderly E grows ok (f b) w' held' db' post := by
  induction m generalizing w held db with
  | done b => rfl
  | raise e => rfl
  | step s next ih =>
    exact forall₂_congr fun db' _ => and_congr_right fun _ => ih _

theorem orderly_mono {m : Prog I ε α} {post' : α → W → List L → σ → Prop}
    (h : orderly E grows ok m w held db post)
    (himp : ∀ a w' held' db', post a w' held' db' → post' a w' held' db') :
    orderly E grows ok m w held db post' := by
  induction m generalizing w held db with
  | done a => exact himp _ _ _ _ h
  | raise e => trivial
  | step s next ih => exact fun db' hdb' => ⟨(h db' hdb').1, ih _ (h db' hdb').2⟩

theorem orderly_orRaise_bind {e : ε} {x : Option β} {f : β → Prog I ε α}
    (h : ∀ b, x = some b → orderly E grows ok (f b) w held db post) :
    orderly E grows ok (Prog.orRaise e x >>= f) w held db post := by
  cases x with
  | none => trivial
  | some b => exact h b rfl

theorem orderly_if_raise {P : Prop} [Decidable P] {e : ε} {m : Prog I ε α}
    (h : ¬ P → orderly E grows ok m w held db post) :
    orderly E grows ok (if P then .raise e else m) w held db post := by
  split
  · trivial
  · rename_i hP
    exact h hP

/-- What every statement of a program keeps, the program keeps. -/
theorem orderly_of_uses (keeps : W → List L → σ → Prop) {sends : I.Stmt → Prop}
    (hstep : ∀ s, sends s → ∀ w held db db', keeps w held db → grows db db' →
      ok (E.need s w db') held ∧ keeps (E.exec s w db').2 (E.need s w db' ++ held) db')
    {m : Prog I ε α} (hm : m.Uses sends) (h : keeps w held db) :
    orderly E grows ok m w held db fun _ => keeps := by
  induction m generalizing w held db with
  | done a => exact h
  | raise e => trivial
  | step s next ih =>
    intro db' hdb'
    obtain ⟨hok, hkeeps⟩ := hstep s hm.1 w held db db' h hdb'
    exact ⟨hok, ih _ (hm.2 _) hkeeps⟩

end Orderly

/-! ## In every reachable configuration -/

/-- How the committed database grows. -/
structure Grows (E : Engine I ε σ W L) (grows : σ → σ → Prop) : Prop where
  refl : ∀ db, grows db db
  trans : ∀ db₁ db₂ db₃, grows db₁ db₂ → grows db₂ db₃ → grows db₁ db₃
  commit : ∀ w db db', E.commit w db = .ok db' → grows db db'

theorem orderly_grow {E : Engine I ε σ W L} {grows : σ → σ → Prop} (hgrows : Grows E grows)
    {ok : List L → List L → Prop} {m : Prog I ε α} {w : W} {held : List L} {db db' : σ}
    {post : α → W → List L → Prop}
    (h : orderly E grows ok m w held db fun a w' held' _ => post a w' held')
    (hdb : grows db db') : orderly E grows ok m w held db' fun a w' held' _ => post a w' held' := by
  cases m with
  | done a => exact h
  | raise e => trivial
  | step s next => exact fun db'' hdb'' => h db'' (hgrows.trans _ _ _ hdb hdb'')

section Reachable

variable [DecidableEq ι] [Fintype ι] [DecidableEq L] {E : Engine I ε σ W L}
  {J : Jobs I ε α σ τ} {grows : σ → σ → Prop} {ok : List L → List L → Prop}
  {cond : Config I ε α σ W L ι → Event ι → Prop} {c₀ c c' : Config I ε α σ W L ι}

/-- The clients are orderly, up to their commits. -/
def Config.Orderly (E : Engine I ε σ W L) (grows : σ → σ → Prop) (ok : List L → List L → Prop)
    (c : Config I ε α σ W L ι) : Prop :=
  ∀ i p w held, c.clients i = .running p w held →
    orderly E grows ok p w held c.db fun _ w' held' _ => ok (E.needCommit w') held'

theorem Config.grows_of_exec (hgrows : Grows E grows) {ev : Event ι}
    (h : c.exec E ev = some c') : grows c.db c'.db := by
  rcases Config.exec_cases h with ⟨i, s, next, w, held, -, -, -, rfl⟩ |
    ⟨i, a, w, held, db, -, -, -, hcommit, rfl⟩ | ⟨i, p, w, held, e, -, rfl⟩
  · exact hgrows.refl _
  · exact hgrows.commit _ _ _ hcommit
  · exact hgrows.refl _

theorem Config.Orderly.exec (hgrows : Grows E grows) {ev : Event ι}
    (h : c.Orderly E grows ok) (hexec : c.exec E ev = some c') : c'.Orderly E grows ok := by
  intro i p w held hi
  refine orderly_grow hgrows ?_ (Config.grows_of_exec hgrows hexec)
  rcases Config.exec_running hexec hi with hsame | ⟨s, next, w₀, held₀, hi₀, rfl, rfl, rfl⟩
  · exact h i p w held hsame
  · exact (h i _ w₀ held₀ hi₀ c.db (hgrows.refl _)).2

theorem Config.Orderly.reach (hgrows : Grows E grows) (h₀ : c₀.Orderly E grows ok)
    (h : Reach E cond c₀ c) : c.Orderly E grows ok := by
  induction h with
  | refl => exact h₀
  | step _ _ moved ih => exact ih.exec hgrows moved

theorem Config.Orderly.move (hgrows : Grows E grows)
    (houtside : ∀ change db, grows db (J.outside change db))
    (hresume : ∀ a p db, J.next a = some p →
      orderly E grows ok p E.start [] db fun _ w' held' _ => ok (E.needCommit w') held')
    {m : Move ι τ} (h : c.Orderly E grows ok) (hmove : c.move E J m = some c') :
    c'.Orderly E grows ok := by
  rcases Config.move_cases hmove with ⟨ev, rfl, hexec⟩ | ⟨i, a, p, rfl, hi, hnext, rfl⟩ |
    ⟨change, rfl, rfl⟩
  · exact h.exec hgrows hexec
  · intro j p' w held hj
    by_cases hji : j = i
    · subst hji
      simp only [Config.set_self, Client.running.injEq] at hj
      obtain ⟨rfl, rfl, rfl⟩ := hj
      exact hresume a p _ hnext
    · rw [Config.set_of_ne c _ hji] at hj
      exact h j p' w held hj
  · exact fun i p w held hi => orderly_grow hgrows (h i p w held hi) (houtside change _)

omit [DecidableEq ι] [Fintype ι] [DecidableEq L] in
/-- So a client asks for locks as `ok` allows. -/
theorem Config.Orderly.needs (hgrows : Grows E grows) (h : c.Orderly E grows ok)
    (hnil : ∀ held, ok [] held) (i : ι) :
    ok ((c.clients i).needs E c.db) (c.clients i).held := by
  cases hi : c.clients i with
  | running p w held =>
    have horderly := h i p w held hi
    cases p with
    | done a => exact horderly
    | raise e => exact hnil held
    | step s next => exact (horderly c.db (hgrows.refl _)).1
  | committed a => exact hnil []
  | aborted e => exact hnil []

/-- No two clients hold the same lock. -/
def Config.Exclusive (c : Config I ε α σ W L ι) : Prop :=
  ∀ i j, i ≠ j → ∀ l ∈ (c.clients i).held, l ∉ (c.clients j).held

theorem Config.Exclusive.reach (h₀ : c₀.Exclusive) (h : Reach E cond c₀ c) : c.Exclusive := by
  induction h with
  | refl => exact h₀
  | step _ _ moved ih => exact Config.exclusive_of_exec ih moved

theorem Config.Exclusive.move {m : Move ι τ} (h : c.Exclusive) (hmove : c.move E J m = some c') :
    c'.Exclusive := by
  rcases Config.move_cases hmove with ⟨ev, rfl, hexec⟩ | ⟨i, a, p, rfl, hi, hnext, rfl⟩ |
    ⟨change, rfl, rfl⟩
  · exact Config.exclusive_of_exec h hexec
  · exact Config.exclusive_set h fun _ _ _ hl => absurd hl List.not_mem_nil
  · exact h

/-! ## Bringing everybody to an end -/

/-- A value that a program can return. -/
def Prog.Returns (a : α) : Prog I ε α → Prop
  | .done a' => a' = a
  | .raise _ => False
  | .step _ next => ∃ r, (next r).Returns a

/-- A job comes to an end: what its next transaction returns comes before what the last one
    returned. -/
def Jobs.Finite (J : Jobs I ε α σ τ) : Prop :=
  WellFounded fun a' a => ∃ p, J.next a = some p ∧ p.Returns a'

/-- A client after a turn of it, or with the next transaction of its job. -/
inductive Jobs.Advances (J : Jobs I ε α σ τ) : Client I ε α W L → Client I ε α W L → Prop where
  | statement (s : I.Stmt) (next : I.Resp s → Prog I ε α) (r : I.Resp s) (w w' : W)
      (held held' : List L) :
      J.Advances (.running (next r) w' held') (.running (.step s next) w held)
  | commit (a : α) (w : W) (held : List L) : J.Advances (.committed a) (.running (.done a) w held)
  | abort (e : Option ε) (p : Prog I ε α) (w : W) (held : List L) :
      J.Advances (.aborted e) (.running p w held)
  | resume (a : α) (p : Prog I ε α) (w : W) (held : List L) (next : J.next a = some p) :
      J.Advances (.running p w held) (.committed a)

omit [DecidableEq L] in
theorem Jobs.acc_aborted (e : Option ε) :
    Acc J.Advances (.aborted e : Client I ε α W L) :=
  Acc.intro _ fun _ h => nomatch h

omit [DecidableEq L] in
theorem Jobs.acc_running {p : Prog I ε α}
    (hreturns : ∀ a, p.Returns a → Acc J.Advances (.committed a : Client I ε α W L)) (w : W)
    (held : List L) : Acc J.Advances (.running p w held : Client I ε α W L) := by
  induction p generalizing w held with
  | done a =>
    refine Acc.intro _ fun client h => ?_
    cases h with
    | commit => exact hreturns a rfl
    | abort e => exact acc_aborted e
  | raise e =>
    refine Acc.intro _ fun client h => ?_
    cases h with
    | abort e => exact acc_aborted e
  | step s next ih =>
    refine Acc.intro _ fun client h => ?_
    cases h with
    | statement _ _ r _ w' _ held' => exact ih r (fun a ha => hreturns a ⟨r, ha⟩) w' held'
    | abort e => exact acc_aborted e

omit [DecidableEq L] in
/-- No client advances for ever. -/
theorem Jobs.Finite.wellFounded (h : J.Finite) :
    WellFounded (J.Advances : Client I ε α W L → Client I ε α W L → Prop) := by
  have hcommitted : ∀ a, Acc J.Advances (.committed a : Client I ε α W L) := by
    intro a
    induction a using h.induction with
    | h a ih =>
      refine Acc.intro _ fun client hclient => ?_
      cases hclient with
      | resume _ p w held hnext => exact acc_running (fun a' ha' => ih a' ⟨p, hnext, ha'⟩) w held
  refine ⟨fun client => ?_⟩
  cases client with
  | running p w held => exact acc_running (fun a _ => hcommitted a) w held
  | committed a => exact hcommitted a
  | aborted e => exact acc_aborted e

/-- Turns, and the transactions of the jobs that are not over: nobody is killed. -/
def onward (_ : Config I ε α σ W L ι) : Move ι τ → Prop
  | .event (.turn _) => True
  | .resume _ => True
  | _ => False

/-- Every client is at its end, and every job is over. -/
def Config.Ended (J : Jobs I ε α σ τ) (c : Config I ε α σ W L ι) : Prop :=
  ∀ i, (∃ a, c.clients i = .committed a ∧ J.next a = none) ∨ ∃ e, c.clients i = .aborted e

/-- An onward move is an advance of one client. -/
theorem Config.advances_of_move {m : Move ι τ} (hm : onward c m) (hmove : c.move E J m = some c') :
    ∃ i client, J.Advances client (c.clients i) ∧
      c'.clients = Function.update c.clients i client := by
  rcases Config.move_cases hmove with ⟨ev, rfl, hexec⟩ | ⟨i, a, p, rfl, hi, hnext, rfl⟩ |
    ⟨change, rfl, rfl⟩
  · rcases Config.exec_cases hexec with ⟨i, s, next, w, held, rfl, hi, -, rfl⟩ |
      ⟨i, a, w, held, db, rfl, hi, -, -, rfl⟩ | ⟨i, p, w, held, e, hi, rfl⟩
    · exact ⟨i, _, hi ▸ .statement s next _ w _ held _, rfl⟩
    · exact ⟨i, _, hi ▸ .commit a w held, rfl⟩
    · exact ⟨i, _, hi ▸ .abort e p w held, rfl⟩
  · exact ⟨i, _, hi ▸ .resume a p E.start [] hnext, rfl⟩
  · exact hm.elim

/-- One client of many is replaced. -/
theorem cutExpand_update {C : Type} {r : C → C → Prop} (f : ι → C) {i : ι} {x : C}
    (h : r x (f i)) :
    Relation.CutExpand r (Finset.univ.val.map (Function.update f i x)) (Finset.univ.val.map f) := by
  have hothers : ∀ g : ι → C, Finset.univ.val.map g =
      g i ::ₘ ((Finset.univ.erase i).val.map g) := by
    intro g
    rw [← Multiset.map_cons, ← Finset.insert_val_of_notMem (Finset.notMem_erase i _),
      Finset.insert_erase (Finset.mem_univ i)]
  have hsame : (Finset.univ.erase i).val.map (Function.update f i x) =
      (Finset.univ.erase i).val.map f :=
    Multiset.map_congr rfl fun j hj =>
      Function.update_of_ne (Finset.ne_of_mem_erase (Finset.mem_def.mpr hj)) ..
  rw [hothers (Function.update f i x), hothers f, hsame, Function.update_self]
  exact Relation.cutExpand_single_add h _

/-- As long as a running client can take its turn, all clients can be brought to their end. -/
theorem JobReach.exists_ended (hfinite : J.Finite) (inv : Config I ε α σ W L ι → Prop)
    (hturn : ∀ c, inv c → (∃ i, (c.clients i).IsRunning) → ∃ i, (c.exec E (.turn i)).isSome)
    (hmove : ∀ c m c', inv c → c.move E J m = some c' → inv c') (h : inv c) :
    ∃ c', JobReach E J onward c c' ∧ c'.Ended J := by
  have hwf := InvImage.wf (fun c : Config I ε α σ W L ι => Finset.univ.val.map c.clients)
    (WellFounded.cutExpand hfinite.wellFounded)
  induction c using hwf.induction with
  | h c ih =>
    by_cases hended : c.Ended J
    · exact ⟨c, .refl, hended⟩
    have hnext : ∃ m c', onward c m ∧ c.move E J m = some c' := by
      by_cases hrunning : ∃ i, (c.clients i).IsRunning
      · obtain ⟨i, hi⟩ := hturn c h hrunning
        obtain ⟨c', hexec⟩ := Option.isSome_iff_exists.mp hi
        exact ⟨.event (.turn i), c', trivial, hexec⟩
      · obtain ⟨i, hi⟩ := not_forall.mp hended
        cases hclient : c.clients i with
        | running p w held => exact absurd ⟨i, p, w, held, hclient⟩ hrunning
        | aborted e => exact absurd (Or.inr ⟨e, hclient⟩) hi
        | committed a =>
          cases hjob : J.next a with
          | none => exact absurd (Or.inl ⟨a, hclient, hjob⟩) hi
          | some p =>
            refine ⟨.resume i, c.set i (.running p E.start []), trivial, ?_⟩
            simp only [Config.move, hclient, hjob, Option.map_some]
    obtain ⟨m, c', hm, hstep⟩ := hnext
    obtain ⟨i, client, hadvances, hclients⟩ := Config.advances_of_move hm hstep
    have hless : Relation.CutExpand J.Advances (Finset.univ.val.map c'.clients)
        (Finset.univ.val.map c.clients) := by
      rw [hclients]
      exact cutExpand_update c.clients hadvances
    obtain ⟨c'', hreach, hend⟩ := ih c' hless (hmove c m c' h hstep)
    exact ⟨c'', (JobReach.refl.step hm hstep).trans hreach, hend⟩

end Reachable

end Txn
