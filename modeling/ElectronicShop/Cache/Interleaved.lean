import ElectronicShop.Cache.Aside
import ElectronicShop.Txn.Serial

/-!
# A cache beside interleaved transactions

Writers are transactions that delete keys from the cache when they have executed their last
statement, and commit afterwards. Readers answer a view through the cache: they look for
what is cached, read the committed database when there is nothing, and cache what they have
read. All of these are steps of their own, so others can come between them. The cache is right
all along when the readers' fillings and the writers' commits keep out of each other's way
(`Consistent.run`).
-/

namespace Cache

open Txn

/-- How far a reader is. -/
inductive Reader (ε β : Type) where
  | waiting
  /-- It has found nothing in the cache. -/
  | missed
  /-- It has read the database, and not cached what it has read. -/
  | fetched (b : β)
  | answered (answer : Except ε β)

/-- Whether a reader is about to cache what it has read. -/
def Reader.hasFetched {ε β : Type} : Reader ε β → Bool
  | .fetched _ => true
  | _ => false

/-- The answer of a reader that has finished. -/
def Reader.answer {ε β : Type} : Reader ε β → Option (Except ε β)
  | .answered answer => some answer
  | _ => none

/-- What the parties can do next. -/
inductive Step (ι κ : Type) where
  | txn (ev : Event ι)
  | delete (i : ι)
  | read (j : κ)

variable {I : Interface} {ε α β σ W L K V ι κ : Type}

structure System (I : Interface) (ε α β σ W L K V ι κ : Type) where
  txns : Config I ε α σ W L ι
  /-- The writers that have deleted their keys. -/
  deleted : ι → Bool
  cells : Cells K V
  readers : κ → Reader ε β

/-- The parties of a system: the sessions of the writers, the keys that a writer deletes, and
    the view of the readers. -/
structure Parties (I : Interface) (ε α β σ W L K V : Type) where
  engine : Engine I ε σ W L
  keys : α → List K
  view : View σ K V ε β

namespace System

/-- A writer that has deleted its keys and has not ended. -/
def isOpen (s : System I ε α β σ W L K V ι κ) (i : ι) : Bool :=
  s.deleted i &&
    match s.txns.clients i with
    | .running _ _ _ => true
    | _ => false

/-- No writer commits between the query of a reader and its filling of the cache, and no reader
    fills the cache between the deletion of a writer and its end. -/
def Spaced (s : System I ε α β σ W L K V ι κ) : Step ι κ → Prop
  | .txn (.turn i) =>
    match s.txns.clients i with
    | .running (.done _) _ _ => ∀ j, (s.readers j).hasFetched = false
    | _ => True
  | .txn (.kill _) => True
  | .delete _ => True
  | .read j => (s.readers j).hasFetched = true → ∀ i, s.isOpen i = false

instance decidableSpaced [Fintype ι] [Fintype κ] (s : System I ε α β σ W L K V ι κ) :
    (step : Step ι κ) → Decidable (s.Spaced step)
  | .txn (.turn i) => by
    simp only [Spaced]
    rcases s.txns.clients i with ⟨_ | _ | _, _, _⟩ | _ | _ <;> infer_instance
  | .txn (.kill _) | .delete _ => isTrue trivial
  | .read _ => inferInstanceAs (Decidable (_ → _))

theorem isOpen_iff {s : System I ε α β σ W L K V ι κ} {i : ι} : s.isOpen i = true ↔
    s.deleted i = true ∧ ∃ p w held, s.txns.clients i = .running p w held := by
  unfold isOpen
  rw [Bool.and_eq_true]
  refine and_congr_right fun _ => ?_
  cases s.txns.clients i <;> simp

variable [DecidableEq K]

/-- What the cache is for: the readers are answered as with an empty cache. -/
def Transparent (P : Parties I ε α β σ W L K V) (s : System I ε α β σ W L K V ι κ) : Prop :=
  P.view.Transparent s.txns.db s.cells

/-- A reader that is as far as `reader` takes its next step. -/
def readStep (P : Parties I ε α β σ W L K V) (s : System I ε α β σ W L K V ι κ) :
    Reader ε β → Option (Cells K V × Reader ε β)
  | .waiting =>
    match s.cells.find P.view.key with
    | some value => some (s.cells, .answered (P.view.validate value))
    | none => some (s.cells, .missed)
  | .missed =>
    match P.view.read s.txns.db with
    | .ok b => some (s.cells, .fetched b)
    | .error e => some (s.cells, .answered (.error e))
  | .fetched b => some (s.cells.set P.view.key (P.view.dump b), .answered (.ok b))
  | .answered _ => none

/-- What a spaced run keeps: what the readers are about to cache is what they would read now,
    and while a writer is between its deletion and its end nothing is cached. -/
structure Consistent (P : Parties I ε α β σ W L K V) (s : System I ε α β σ W L K V ι κ) : Prop
    where
  transparent : s.Transparent P
  fetched : ∀ j b, s.readers j = .fetched b → P.view.read s.txns.db = .ok b
  emptied : ∀ i, s.isOpen i = true → s.cells.find P.view.key = none

/-- Nobody has done anything yet. -/
theorem Consistent.start {P : Parties I ε α β σ W L K V} {s : System I ε α β σ W L K V ι κ}
    (htransparent : s.Transparent P)
    (hdeleted : ∀ i, s.deleted i = false) (hreaders : ∀ j, s.readers j = .waiting) : s.Consistent P where
  transparent := htransparent
  fetched j b h := by
    rw [hreaders j] at h
    cases h
  emptied i h := by
    simp only [isOpen, hdeleted i, Bool.false_and, Bool.false_eq_true] at h

/-- What a reader does: it leaves the cache alone, or caches what it has read. And what it is
    about to cache then is what it has read now. -/
theorem readStep_some {P : Parties I ε α β σ W L K V} {s : System I ε α β σ W L K V ι κ}
    {cells : Cells K V} {reader reader' : Reader ε β}
    (h : s.readStep P reader = some (cells, reader')) :
    (cells = s.cells ∨
      ∃ b, reader = .fetched b ∧ cells = s.cells.set P.view.key (P.view.dump b)) ∧
    ∀ b, reader' = .fetched b → P.view.read s.txns.db = .ok b := by
  cases reader with
  | waiting =>
    simp only [readStep] at h
    split at h
    · cases h
      exact ⟨Or.inl rfl, fun b hb => by cases hb⟩
    · cases h
      exact ⟨Or.inl rfl, fun b hb => by cases hb⟩
  | missed =>
    simp only [readStep] at h
    split at h
    · rename_i b hread
      cases h
      refine ⟨Or.inl rfl, fun b' hb' => ?_⟩
      cases hb'
      exact hread
    · cases h
      exact ⟨Or.inl rfl, fun b hb => by cases hb⟩
  | fetched b =>
    cases h
    exact ⟨Or.inr ⟨b, rfl, rfl⟩, fun b' hb' => by cases hb'⟩
  | answered answer => cases h

variable [DecidableEq κ] [DecidableEq ι] [Fintype ι] [DecidableEq L]

/-- A writer does not commit before it has deleted its keys. -/
def mayGoOn (s : System I ε α β σ W L K V ι κ) : Event ι → Bool
  | .turn i =>
    match s.txns.clients i with
    | .running (.done _) _ _ => s.deleted i
    | _ => true
  | .kill _ => true

/-- One step, unless it is not enabled. -/
def exec (P : Parties I ε α β σ W L K V) :
    Step ι κ → System I ε α β σ W L K V ι κ → Except Unit (System I ε α β σ W L K V ι κ)
  | .txn ev, s =>
    if s.mayGoOn ev then
      match s.txns.exec P.engine ev with
      | some txns => .ok { s with txns }
      | none => .error ()
    else .error ()
  | .delete i, s =>
    match s.txns.clients i with
    | .running (.done a) _ _ =>
      if s.deleted i then .error ()
      else .ok { s with
        cells := s.cells.delete (P.keys a)
        deleted := Function.update s.deleted i true }
    | _ => .error ()
  | .read j, s =>
    match s.readStep P (s.readers j) with
    | some (cells, reader) =>
      .ok { s with cells, readers := Function.update s.readers j reader }
    | none => .error ()

section Run

variable {P : Parties I ε α β σ W L K V} {s s' : System I ε α β σ W L K V ι κ}

omit [DecidableEq K] [DecidableEq κ] in
/-- No transaction begins again. -/
theorem isOpen_of_exec {txns : Config I ε α σ W L ι} {ev : Event ι} {i : ι}
    (hexec : s.txns.exec P.engine ev = some txns) (h : isOpen { s with txns } i = true) :
    s.isOpen i = true := by
  obtain ⟨hdeleted, p', w', held', hi⟩ := isOpen_iff.mp h
  refine isOpen_iff.mpr ⟨hdeleted, ?_⟩
  have hset : ∀ {k client}, (s.txns.set k client).clients i = .running p' w' held' → i ≠ k →
      s.txns.clients i = .running p' w' held' := by
    intro k client hclient hik
    rwa [Config.set_of_ne _ _ hik] at hclient
  rcases Config.exec_cases hexec with ⟨k, st, next, w, held, -, hk, -, rfl⟩ |
    ⟨k, a, w, held, db, -, hk, -, -, rfl⟩ | ⟨k, p, w, held, e, hk, rfl⟩
  all_goals
    by_cases hik : i = k
    · subst hik
      exact ⟨_, w, held, hk⟩
    · exact ⟨p', w', held', hset hi hik⟩

omit [DecidableEq K] [DecidableEq κ] in
/-- An event that changes the database is the commit of a writer that has deleted its keys, and
    no reader is about to fill the cache. -/
theorem Spaced.commit {txns : Config I ε α σ W L ι} {ev : Event ι} (h : s.Spaced (.txn ev))
    (hgo : s.mayGoOn ev = true) (hexec : s.txns.exec P.engine ev = some txns) :
    txns.db = s.txns.db ∨
      (∃ i, s.isOpen i = true) ∧ ∀ j, (s.readers j).hasFetched = false := by
  rcases Config.exec_cases hexec with ⟨i, st, next, w, held, -, -, -, rfl⟩ |
    ⟨i, a, w, held, db, rfl, hi, -, -, rfl⟩ | ⟨i, p, w, held, e, -, rfl⟩
  · exact Or.inl rfl
  · simp only [mayGoOn, hi] at hgo
    simp only [Spaced, hi] at h
    exact Or.inr ⟨⟨i, isOpen_iff.mpr ⟨hgo, _, w, held, hi⟩⟩, h⟩
  · exact Or.inl rfl

omit [DecidableEq κ] in
/-- An event of a writer. -/
theorem Consistent.moved {txns : Config I ε α σ W L ι} {ev : Event ι} (h : s.Consistent P)
    (hspaced : s.Spaced (.txn ev)) (hgo : s.mayGoOn ev = true)
    (htxns : s.txns.exec P.engine ev = some txns) : Consistent P { s with txns } := by
  have hemptied : ∀ i, isOpen { s with txns } i = true → s.cells.find P.view.key = none :=
    fun i hi => h.emptied i (isOpen_of_exec htxns hi)
  rcases hspaced.commit hgo htxns with hdb | ⟨⟨i, hi⟩, hreaders⟩
  · refine ⟨?_, fun j b hj => ?_, hemptied⟩
    · unfold Transparent
      rw [hdb]
      exact h.transparent
    · rw [hdb]
      exact h.fetched j b hj
  · -- the writer has deleted what was cached, and nobody has filled the cache since
    refine ⟨View.transparent_of_none (h.emptied i hi), fun j b hj => ?_, hemptied⟩
    have hfetched := hreaders j
    rw [hj] at hfetched
    cases hfetched

omit [DecidableEq κ] [Fintype ι] [DecidableEq L] in
/-- A writer deletes its keys, and the key of the view is one of them. -/
theorem Consistent.deletes (hkeys : ∀ a, P.view.key ∈ P.keys a) (h : s.Consistent P) (i : ι)
    (a : α) : Consistent P { s with
      cells := s.cells.delete (P.keys a), deleted := Function.update s.deleted i true } := by
  have hnone : (s.cells.delete (P.keys a)).find P.view.key = none :=
    s.cells.find_delete_of_mem (hkeys a)
  exact ⟨View.transparent_of_none hnone, h.fetched, fun _ _ => hnone⟩

omit [DecidableEq ι] [Fintype ι] [DecidableEq L] in
/-- A reader takes its next step. -/
theorem Consistent.reads {j : κ} {cells : Cells K V} {reader : Reader ε β} (h : s.Consistent P)
    (hspaced : s.Spaced (.read j)) (hread : s.readStep P (s.readers j) = some (cells, reader)) :
    Consistent P { s with cells, readers := Function.update s.readers j reader } := by
  obtain ⟨hcells, hfetched⟩ := readStep_some hread
  have hreaders : ∀ k b, Function.update s.readers j reader k = .fetched b →
      P.view.read s.txns.db = .ok b := by
    intro k b hk
    by_cases hkj : k = j
    · subst hkj
      rw [Function.update_self] at hk
      exact hfetched b hk
    · rw [Function.update_of_ne hkj] at hk
      exact h.fetched k b hk
  rcases hcells with rfl | ⟨b, hj, rfl⟩
  · exact ⟨h.transparent, hreaders, h.emptied⟩
  · -- a filling: it is what would be read now, and no writer is open
    have hclosed : ∀ i, s.isOpen i = false := hspaced (by rw [hj]; rfl)
    refine ⟨?_, hreaders, fun i hi => ?_⟩
    · refine View.transparent_iff.mpr fun value hvalue => ?_
      rw [Cells.find_set_self] at hvalue
      cases hvalue
      rw [P.view.validate_dump, h.fetched j b hj]
    · have hopen : s.isOpen i = true := hi
      rw [hclosed i] at hopen
      cases hopen

/-- One step, when the writers delete the key of the view. -/
theorem Consistent.exec (hkeys : ∀ a, P.view.key ∈ P.keys a) {step : Step ι κ}
    (h : s.Consistent P) (hspaced : s.Spaced step) (hexec : exec P step s = .ok s') :
    s'.Consistent P := by
  cases step with
  | txn ev =>
    simp only [System.exec] at hexec
    split at hexec
    · rename_i hgo
      split at hexec
      · rename_i txns htxns
        cases hexec
        exact h.moved hspaced hgo htxns
      · cases hexec
    · cases hexec
  | delete i =>
    simp only [System.exec] at hexec
    split at hexec
    · rename_i a _ _ _
      split at hexec
      · cases hexec
      · cases hexec
        exact h.deletes hkeys i a
    · cases hexec
  | read j =>
    simp only [System.exec] at hexec
    split at hexec
    · rename_i cells reader hread
      cases hexec
      exact h.reads hspaced hread
    · cases hexec

/-- Spaced runs keep the cache right, when the writers delete the key of the view. -/
theorem Consistent.run {start : System I ε α β σ W L K V ι κ} {steps : List (Step ι κ)}
    (hkeys : ∀ a, P.view.key ∈ P.keys a) (h₀ : start.Consistent P)
    (hrun : Run (System.exec P) Spaced start steps s) : s.Consistent P :=
  hrun.invariant (Consistent P) h₀ fun _ _ _ h hspaced hexec => h.exec hkeys hspaced hexec

end Run

end System

end Cache
