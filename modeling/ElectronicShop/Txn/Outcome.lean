import ElectronicShop.Txn.Serial

/-!
# How transactions end

`wp` says what is known of a transaction that is about to commit. `wpe` also says
what is known when it raises an error, and `Outline.outcome` carries that to every
reachable configuration. Where one lock serializes the clients, `wpe_of_grant`
reduces both to what the rest of a program does when it runs alone, and no
configuration is stuck (`exists_turn`).
-/

namespace Txn

variable {I : Interface} {ε α β σ W L ι : Type}

/-- `wpe E rely m w held db post failed`: as `wp`, and when `m` raises an error it
    does so in `failed`. -/
def wpe (E : Engine I ε σ W L) (rely : List L → σ → σ → Prop) :
    Prog I ε α → W → List L → σ → (α → W → List L → σ → Prop) →
      (ε → W → List L → σ → Prop) → Prop
  | .done a, w, held, db, post, _ => post a w held db
  | .raise e, w, held, db, _, failed => failed e w held db
  | .step s next, w, held, db, post, failed =>
    ∀ db', rely (E.need s w db ++ held) db db' →
      wpe E rely (next (E.exec s w db).1) (E.exec s w db).2 (E.need s w db ++ held) db' post failed

section Wpe

variable {E : Engine I ε σ W L} {rely : List L → σ → σ → Prop} {w : W} {held : List L} {db : σ}
  {post : α → W → List L → σ → Prop} {failed : ε → W → List L → σ → Prop}

@[simp] theorem wpe_done (a : α) :
    wpe E rely (.done a : Prog I ε α) w held db post failed ↔ post a w held db := Iff.rfl

@[simp] theorem wpe_raise (e : ε) :
    wpe E rely (.raise e : Prog I ε α) w held db post failed ↔ failed e w held db := Iff.rfl

theorem wpe.wp {m : Prog I ε α} (h : wpe E rely m w held db post failed) :
    wp E rely m w held db post := by
  induction m generalizing w held db with
  | done a => exact h
  | raise e => trivial
  | step s next ih =>
    intro db' hrely
    exact ih _ (h db' hrely)

theorem wpe_bind (m : Prog I ε α) (f : α → Prog I ε β) {post : β → W → List L → σ → Prop} :
    wpe E rely (m >>= f) w held db post failed ↔
      wpe E rely m w held db (fun a w' held' db' => wpe E rely (f a) w' held' db' post failed)
        failed := by
  induction m generalizing w held db with
  | done a => rfl
  | raise e => rfl
  | step s next ih => exact forall₂_congr fun db' _ => ih _

theorem wpe_orRaise_bind {e : ε} {x : Option α} {f : α → Prog I ε β}
    {post : β → W → List L → σ → Prop} :
    wpe E rely (Prog.orRaise e x >>= f) w held db post failed ↔
      (x = none → failed e w held db) ∧ ∀ a, x = some a → wpe E rely (f a) w held db post failed := by
  cases x with
  | none => simp [Prog.orRaise]
  | some a => simp [Prog.orRaise]

theorem wpe_raiseIfSome_bind {γ : Type} {e : ε} {x : Option γ} {f : Unit → Prog I ε β}
    {post : β → W → List L → σ → Prop} :
    wpe E rely (Prog.raiseIfSome e x >>= f) w held db post failed ↔
      (x.isSome → failed e w held db) ∧ (x = none → wpe E rely (f ()) w held db post failed) := by
  cases x with
  | none => simp [Prog.raiseIfSome]
  | some a => simp [Prog.raiseIfSome]

theorem wpe_if_raise {c : Prop} [Decidable c] {e : ε} {m : Prog I ε α} :
    wpe E rely (if c then .raise e else m) w held db post failed ↔
      (c → failed e w held db) ∧ (¬ c → wpe E rely m w held db post failed) := by
  by_cases hc : c <;> simp [hc]

theorem wpe_mono {m : Prog I ε α} {post' : α → W → List L → σ → Prop}
    {failed' : ε → W → List L → σ → Prop} (h : wpe E rely m w held db post failed)
    (hpost : ∀ a w' held' db', post a w' held' db' → post' a w' held' db')
    (hfailed : ∀ e w' held' db', failed e w' held' db' → failed' e w' held' db') :
    wpe E rely m w held db post' failed' := by
  induction m generalizing w held db with
  | done a => exact hpost _ _ _ _ h
  | raise e => exact hfailed _ _ _ _ h
  | step s next ih =>
    intro db' hrely
    exact ih _ (h db' hrely)

/-- What every statement a program uses keeps, whatever the others do in between, the
    program keeps, also when it raises an error. -/
theorem wpe_of_uses (keeps : W → List L → σ → Prop) {ok : I.Stmt → Prop}
    (hstep : ∀ s, ok s → ∀ w held db, keeps w held db → ∀ db',
      rely (E.need s w db ++ held) db db' →
        keeps (E.exec s w db).2 (E.need s w db ++ held) db')
    {m : Prog I ε α} (hm : m.Uses ok) (h : keeps w held db) :
    wpe E rely m w held db (fun _ => keeps) fun _ => keeps := by
  induction m generalizing w held db with
  | done a => exact h
  | raise e => exact h
  | step s next ih =>
    intro db' hrely
    exact ih _ (hm.2 _) (hstep s hm.1 w held db h db' hrely)

/-- While a lock is held under which nobody else can change the database, a program ends
    as it does when it runs alone. -/
theorem wpe_of_alone {lock : L}
    (hsole : ∀ held db', lock ∈ held → rely held db db' → db' = db) {m : Prog I ε α}
    (hlock : lock ∈ held)
    (hpost : ∀ a w', m.run (fun s w => E.exec s w db) w = .ok (a, w') →
      ∀ held', lock ∈ held' → post a w' held' db)
    (hfailed : ∀ e, m.run (fun s w => E.exec s w db) w = .error e →
      ∀ w' held', lock ∈ held' → failed e w' held' db) :
    wpe E rely m w held db post failed := by
  induction m generalizing w held with
  | done a => exact hpost a w rfl held hlock
  | raise e => exact hfailed e rfl w held hlock
  | step s next ih =>
    intro db' hrely
    have hmem : lock ∈ E.need s w db ++ held := List.mem_append_right _ hlock
    obtain rfl := hsole _ _ hmem hrely
    exact ih _ hmem hpost hfailed

/-- So does a program from the statement on that is granted the lock. -/
theorem wpe_of_grant {lock : L}
    (hsole : ∀ held db', lock ∈ held → rely held db db' → db' = db) {s : I.Stmt}
    {next : I.Resp s → Prog I ε α} (hneed : lock ∈ E.need s w db)
    (hpost : ∀ a w', (Prog.step s next).run (fun s w => E.exec s w db) w = .ok (a, w') →
      ∀ held', lock ∈ held' → post a w' held' db)
    (hfailed : ∀ e, (Prog.step s next).run (fun s w => E.exec s w db) w = .error e →
      ∀ w' held', lock ∈ held' → failed e w' held' db) :
    wpe E rely (.step s next) w held db post failed := by
  intro db' hrely
  have hmem : lock ∈ E.need s w db ++ held := List.mem_append_left _ hneed
  obtain rfl := hsole _ _ hmem hrely
  exact wpe_of_alone hsole hmem hpost hfailed

end Wpe

/-! ## In every reachable configuration -/

section Outcome

variable [DecidableEq ι] [Fintype ι] [DecidableEq L] {E : Engine I ε σ W L}
  {cond : Config I ε α σ W L ι → Event ι → Prop} {c c' : Config I ε α σ W L ι}

/-- A client that is running after an event has executed the statement, or waited while
    the database changed as it relies on. -/
theorem Outline.Good.running (o : Outline E cond) (hgood : o.Good c) {ev : Event ι}
    (hcond : cond c ev) (hexec : c.exec E ev = some c') {j : ι} {p : Prog I ε α} {w : W}
    {held : List L} (hj : c'.clients j = .running p w held) :
    (c.clients j = .running p w held ∧ o.rely j held c.db c'.db) ∨
      ∃ s next w₀ held₀, c.clients j = .running (.step s next) w₀ held₀ ∧ c'.db = c.db ∧
        p = next (E.exec s w₀ c.db).1 ∧ w = (E.exec s w₀ c.db).2 ∧
        held = E.need s w₀ c.db ++ held₀ := by
  rcases Config.exec_cases hexec with
    ⟨i, s, next, w₀, held₀, rfl, hi, -, rfl⟩ | ⟨i, a, w₀, held₀, db, rfl, hi, hfree, hdb, rfl⟩ |
    ⟨i, p₀, w₀, held₀, e, hi, rfl⟩
  · by_cases hji : j = i
    · subst hji
      simp only [Config.set_self, Client.running.injEq] at hj
      obtain ⟨rfl, rfl, rfl⟩ := hj
      exact Or.inr ⟨s, next, w₀, held₀, hi, rfl, rfl, rfl, rfl⟩
    · rw [Config.set_of_ne c _ hji] at hj
      exact Or.inl ⟨hj, o.rely_refl j held c.db⟩
  · have hji : j ≠ i := by
      rintro rfl
      simp [Config.set] at hj
    have hj₀ : c.clients j = .running p w held := by
      simpa only [Config.set, Function.update_of_ne hji] using hj
    have hpost : o.post i a w₀ held₀ c.db :=
      hgood.clients i _ _ _ hi c.db (o.rely_refl i held₀ c.db)
    obtain ⟨-, hothers⟩ := o.commit_ok c i a w₀ held₀ db hi hcond hgood.inv hpost hdb
    refine Or.inl ⟨hj₀, hothers j hji held fun l hl => ?_⟩
    have hmem : l ∈ (c.clients j).held := by
      rw [hj₀]
      exact hl
    refine ⟨fun hli => ?_, fun hneed => hfree j hji l hneed hmem⟩
    exact hgood.exclusive j i hji l hmem (by rw [hi]; exact hli)
  · have hji : j ≠ i := by
      rintro rfl
      simp [Config.set] at hj
    rw [Config.set_of_ne c _ hji] at hj
    exact Or.inl ⟨hj, o.rely_refl j held c.db⟩

/-- Whatever its `rely` allows to happen first, every running client ends in its `post`,
    or raises an error in `failed`. -/
def Outline.Outcome (o : Outline E cond) (failed : ι → ε → W → List L → σ → Prop)
    (c : Config I ε α σ W L ι) : Prop :=
  ∀ i p w held, c.clients i = .running p w held → ∀ db, o.rely i held c.db db →
    wpe E (o.rely i) p w held db (o.post i) (failed i)

theorem Outline.outcome (o : Outline E cond) {failed : ι → ε → W → List L → σ → Prop}
    {c₀ : Config I ε α σ W L ι} (hgood : o.Good c₀) (h₀ : o.Outcome failed c₀)
    (h : Reach E cond c₀ c) : o.Outcome failed c := by
  induction h with
  | refl => exact h₀
  | step reached allowed moved ih =>
    intro j p w held hj db hrely
    rcases Outline.Good.running o (o.sound hgood reached) allowed moved hj with
      ⟨hj₀, hchange⟩ | ⟨s, next, w₀, held₀, hj₀, hdb, rfl, rfl, rfl⟩
    · exact ih j p w held hj₀ db (o.rely_trans j held _ _ _ hchange hrely)
    · rw [hdb] at hrely
      exact ih j _ w₀ held₀ hj₀ _ (o.rely_refl j held₀ _) db hrely

omit [Fintype ι] [DecidableEq L] in
/-- Clients that are all about to begin. -/
theorem Outline.outcome_start (o : Outline E cond) {failed : ι → ε → W → List L → σ → Prop}
    (db : σ) (progs : ι → Prog I ε α)
    (hwpe : ∀ i db', o.rely i [] db db' →
      wpe E (o.rely i) (progs i) E.start [] db' (o.post i) (failed i)) :
    o.Outcome failed { db, clients := fun i => .running (progs i) E.start [] } := by
  intro i p w held hi db' hrely
  simp only [Client.running.injEq] at hi
  obtain ⟨rfl, rfl, rfl⟩ := hi
  exact hwpe i db' hrely

/-- Client `j` has not committed, and whatever its `rely` allows to happen first, it does
    not reach the end of its program. -/
def Outline.Never (o : Outline E cond) (j : ι) (c : Config I ε α σ W L ι) : Prop :=
  (∀ a, c.clients j ≠ .committed a) ∧
    ∀ p w held, c.clients j = .running p w held → ∀ db, o.rely j held c.db db →
      wp E (o.rely j) p w held db fun _ _ _ _ => False

theorem Outline.never (o : Outline E cond) {j : ι} (hgood : o.Good c) (hnever : o.Never j c)
    (h : Reach E cond c c') : o.Never j c' := by
  induction h with
  | refl => exact hnever
  | step reached allowed moved ih =>
    obtain ⟨hnot, hends⟩ := ih
    constructor
    · intro a ha
      rcases Config.exec_cases moved with ⟨i, s, next, w, held, -, hi, -, rfl⟩ |
        ⟨i, b, w, held, db, -, hi, -, -, rfl⟩ | ⟨i, p, w, held, e, hi, rfl⟩
      all_goals by_cases hji : j = i
      · subst hji
        simp at ha
      · exact hnot a (by rwa [Config.set_of_ne _ _ hji] at ha)
      · subst hji
        exact hends _ w held hi _ (o.rely_refl j held _)
      · exact hnot a (by simpa only [Config.set, Function.update_of_ne hji] using ha)
      · subst hji
        simp at ha
      · exact hnot a (by rwa [Config.set_of_ne _ _ hji] at ha)
    · intro p w held hj db hrely
      rcases Outline.Good.running o (o.sound hgood reached) allowed moved hj with
        ⟨hj₀, hchange⟩ | ⟨s, next, w₀, held₀, hj₀, hdb, rfl, rfl, rfl⟩
      · exact hends p w held hj₀ db (o.rely_trans j held _ _ _ hchange hrely)
      · rw [hdb] at hrely
        exact hends _ w₀ held₀ hj₀ _ (o.rely_refl j held₀ _) db hrely

/-- How a client comes to be aborted with an error in its turn: it raises it, or its
    commit is refused. -/
theorem Config.exec_aborted {i : ι} {e : ε} (h : c.exec E (.turn i) = some c')
    (hi : c'.clients i = .aborted (some e)) :
    (∃ w held, c.clients i = .running (.raise e) w held) ∨
      ∃ a w held, c.clients i = .running (.done a) w held ∧ E.commit w c.db = .error e := by
  simp only [Config.exec] at h
  split at h
  · split at h
    · cases h
      simp at hi
    · cases h
  · rename_i e' w held hrun
    cases h
    obtain rfl : e' = e := by simpa using hi
    exact Or.inl ⟨w, held, hrun⟩
  · rename_i a w held hrun
    split at h
    · split at h
      · cases h
        simp [Config.set] at hi
      · rename_i e' hcommit
        cases h
        obtain rfl : e' = e := by simpa using hi
        exact Or.inr ⟨a, w, held, hrun, hcommit⟩
    · cases h
  · cases h

/-- A client that is aborted with an error was so before, or has come to be in its turn. -/
theorem Config.aborted_of_exec {ev : Event ι} {i : ι} {e : ε} (h : c.exec E ev = some c')
    (hi : c'.clients i = .aborted (some e)) :
    c.clients i = .aborted (some e) ∨ ev = .turn i ∧
      ((∃ w held, c.clients i = .running (.raise e) w held) ∨
        ∃ a w held, c.clients i = .running (.done a) w held ∧ E.commit w c.db = .error e) := by
  by_cases hturn : ev = .turn i
  · subst hturn
    exact Or.inr ⟨rfl, Config.exec_aborted h hi⟩
  · by_cases hkill : ev = .kill i
    · subst hkill
      simp only [Config.exec] at h
      split at h
      · cases h
        simp at hi
      · cases h
    · rw [Config.clients_of_exec h ⟨hturn, hkill⟩] at hi
      exact Or.inl hi

/-- How a client comes to be committed in its turn. -/
theorem Config.exec_committed {i : ι} {a : α} (h : c.exec E (.turn i) = some c')
    (hi : c'.clients i = .committed a) :
    ∃ w held, c.clients i = .running (.done a) w held ∧ E.commit w c.db = .ok c'.db := by
  simp only [Config.exec] at h
  split at h
  · split at h
    · cases h
      simp at hi
    · cases h
  · cases h
    simp at hi
  · rename_i b w held hrun
    split at h
    · split at h
      · rename_i db hcommit
        cases h
        obtain rfl : b = a := by simpa [Config.set] using hi
        exact ⟨w, held, hrun, hcommit⟩
      · cases h
        simp at hi
    · cases h
  · cases h

/-- A transaction that has committed stays committed. -/
theorem Config.committed_of_exec {ev : Event ι} {i : ι} {a : α} (h : c.exec E ev = some c')
    (hi : c.clients i = .committed a) : c'.clients i = .committed a := by
  have hne : ∀ {j p w held}, c.clients j = .running p w held → i ≠ j := by
    intro j p w held hj hij
    rw [← hij, hi] at hj
    cases hj
  rcases Config.exec_cases h with ⟨j, s, next, w, held, -, hj, -, rfl⟩ |
    ⟨j, b, w, held, db, -, hj, -, -, rfl⟩ | ⟨j, p, w, held, e, hj, rfl⟩
  · exact (Config.set_of_ne c _ (hne hj)).trans hi
  · exact (Config.set_of_ne c _ (hne hj)).trans hi
  · exact (Config.set_of_ne c _ (hne hj)).trans hi

/-- It leaves the database as it is. -/
theorem Config.db_of_aborted {i : ι} {e : Option ε} (h : c.exec E (.turn i) = some c')
    (hi : c'.clients i = .aborted e) : c'.db = c.db := by
  rcases Config.exec_cases h with ⟨j, s, next, w, held, -, -, -, rfl⟩ |
    ⟨j, a, w, held, db, hj, -, -, -, rfl⟩ | ⟨j, p, w, held, e, -, rfl⟩
  · rfl
  · cases hj
    simp [Config.set] at hi
  · rfl

end Outcome

/-! ## Clients that share one lock -/

section OneLock

variable [DecidableEq ι] [Fintype ι] [DecidableEq L] {E : Engine I ε σ W L}
  {cond : Config I ε α σ W L ι → Event ι → Prop} {c₀ c c' : Config I ε α σ W L ι}

/-- A client that is running after an event was running before it, at the same point or
    one statement earlier. -/
theorem Config.exec_running {ev : Event ι} (h : c.exec E ev = some c') {j : ι} {p : Prog I ε α}
    {w : W} {held : List L} (hj : c'.clients j = .running p w held) :
    c.clients j = .running p w held ∨
      ∃ s next w₀ held₀, c.clients j = .running (.step s next) w₀ held₀ ∧
        p = next (E.exec s w₀ c.db).1 ∧ w = (E.exec s w₀ c.db).2 ∧
        held = E.need s w₀ c.db ++ held₀ := by
  rcases Config.exec_cases h with
    ⟨i, s, next, w₀, held₀, -, hi, -, rfl⟩ | ⟨i, a, w₀, held₀, db, -, hi, -, -, rfl⟩ |
    ⟨i, p₀, w₀, held₀, e, hi, rfl⟩
  all_goals by_cases hji : j = i
  · subst hji
    simp only [Config.set_self, Client.running.injEq] at hj
    obtain ⟨rfl, rfl, rfl⟩ := hj
    exact Or.inr ⟨s, next, w₀, held₀, hi, rfl, rfl, rfl⟩
  · exact Or.inl (by rwa [Config.set_of_ne c _ hji] at hj)
  · subst hji
    simp [Config.set] at hj
  · exact Or.inl (by simpa only [Config.set, Function.update_of_ne hji] using hj)
  · subst hji
    simp [Config.set] at hj
  · exact Or.inl (by rwa [Config.set_of_ne c _ hji] at hj)

/-- No client asks for a lock other than `lock`: not with the statements it can still send,
    which satisfy `ok`, and not to commit what `keeps` says of its memory. -/
structure OneLock (E : Engine I ε σ W L) (lock : L) (ok : I.Stmt → Prop) (keeps : W → Prop) :
    Prop where
  start : keeps E.start
  need : ∀ s, ok s → ∀ w db, keeps w → ∀ l ∈ E.need s w db, l = lock
  exec : ∀ s, ok s → ∀ w db, keeps w → keeps (E.exec s w db).2
  commit : ∀ w, keeps w → ∀ l ∈ E.needCommit w, l = lock

variable {lock : L} {ok : I.Stmt → Prop} {keeps : W → Prop}

/-- What `OneLock` is about, in a configuration. -/
def OneLock.Kept (_ : OneLock E lock ok keeps) (c : Config I ε α σ W L ι) : Prop :=
  ∀ i p w held, c.clients i = .running p w held → p.Uses ok ∧ keeps w

theorem OneLock.kept_of_reach (h : OneLock E lock ok keeps) (h₀ : h.Kept c₀)
    (hreach : Reach E cond c₀ c) : h.Kept c := by
  induction hreach with
  | refl => exact h₀
  | step _ _ moved ih =>
    intro j p w held hj
    rcases Config.exec_running moved hj with hj₀ | ⟨s, next, w₀, held₀, hj₀, rfl, rfl, rfl⟩
    · exact ih j p w held hj₀
    · obtain ⟨huses, hkeeps⟩ := ih j _ w₀ held₀ hj₀
      exact ⟨huses.2 _, h.exec s huses.1 w₀ _ hkeeps⟩

/-- Then some running client can take its turn. -/
theorem OneLock.exists_turn (h : OneLock E lock ok keeps) (hkept : h.Kept c)
    (hexclusive : ∀ i j, i ≠ j → ∀ l ∈ (c.clients i).held, l ∉ (c.clients j).held)
    (hrunning : ∃ i p w held, c.clients i = .running p w held) :
    ∃ i, (c.exec E (.turn i)).isSome := by
  have hchoice : ∃ i, (∃ p w held, c.clients i = .running p w held) ∧
      ∀ j, j ≠ i → lock ∉ (c.clients j).held := by
    by_cases howner : ∃ i, lock ∈ (c.clients i).held
    · obtain ⟨i, hi⟩ := howner
      refine ⟨i, ?_, fun j hji => hexclusive i j (Ne.symm hji) lock hi⟩
      cases hclient : c.clients i with
      | running p w held => exact ⟨p, w, held, rfl⟩
      | committed a => simp [hclient, Client.held] at hi
      | aborted e => simp [hclient, Client.held] at hi
    · obtain ⟨i, hi⟩ := hrunning
      exact ⟨i, hi, fun j _ hj => howner ⟨j, hj⟩⟩
  obtain ⟨i, ⟨p, w, held, hi⟩, hothers⟩ := hchoice
  obtain ⟨huses, hkeeps⟩ := hkept i p w held hi
  have hfree : ∀ locks : List L, (∀ l ∈ locks, l = lock) → c.Free i locks := by
    rintro locks hlocks j hji l hl
    rw [hlocks l hl]
    exact hothers j hji
  refine ⟨i, ?_⟩
  cases p with
  | done a =>
    simp only [Config.exec, hi, hfree _ (h.commit w hkeeps), if_true]
    split <;> rfl
  | raise e => simp [Config.exec, hi]
  | step s next => simp [Config.exec, hi, hfree _ (h.need s huses.1 w c.db hkeeps)]

end OneLock

end Txn
