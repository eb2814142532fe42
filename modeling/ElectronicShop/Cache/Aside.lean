import ElectronicShop.Txn.Table

/-!
# Cache-aside

A cache holds values under keys, and nothing in it expires. A view of a state is answered
with what is cached under its key, or else with what is read from the state, which is cached
then. The cache is transparent for a view when it makes no difference to the answer.
-/

namespace Cache

open Txn

/-- A cached value with its key. -/
structure Entry (K V : Type) where
  key : K
  value : V
  deriving DecidableEq, Repr

/-- What is cached. -/
abbrev Cells (K V : Type) : Type := Table (Entry.key : Entry K V → K)

section Cells

variable {K V : Type} [DecidableEq K]

/-- `GET`. -/
def Cells.find (cells : Cells K V) (key : K) : Option V := (cells.get key).map Entry.value

/-- `SET`. -/
def Cells.set (cells : Cells K V) (key : K) (value : V) : Cells K V := cells.put ⟨key, value⟩

/-- `DEL`. -/
def Cells.delete (cells : Cells K V) (keys : List K) : Cells K V :=
  keys.foldl (fun cells key => cells.eraseIf key fun _ => true) cells

@[simp] theorem Cells.find_empty (key : K) : (∅ : Cells K V).find key = none := rfl

theorem Cells.find_set (cells : Cells K V) (key key' : K) (value : V) :
    (cells.set key value).find key' = if key' = key then some value else cells.find key' := by
  unfold set find
  rw [Table.get_put]
  split
  · rfl
  · rfl

@[simp] theorem Cells.find_set_self (cells : Cells K V) (key : K) (value : V) :
    (cells.set key value).find key = some value := by
  rw [find_set, if_pos rfl]

theorem Cells.find_set_of_ne (cells : Cells K V) {key key' : K} (value : V) (h : key' ≠ key) :
    (cells.set key value).find key' = cells.find key' := by
  rw [find_set, if_neg h]

theorem Cells.find_delete (cells : Cells K V) (keys : List K) (key : K) :
    (cells.delete keys).find key = if key ∈ keys then none else cells.find key := by
  unfold delete
  induction keys generalizing cells with
  | nil => simp
  | cons k rest ih =>
    rw [List.foldl_cons, ih]
    unfold find
    rw [Table.get_eraseIf]
    by_cases hk : key = k
    · simp [hk]
    · simp [hk]

theorem Cells.find_delete_of_mem (cells : Cells K V) {keys : List K} {key : K} (h : key ∈ keys) :
    (cells.delete keys).find key = none := by
  rw [find_delete, if_pos h]

theorem Cells.find_delete_of_not_mem (cells : Cells K V) {keys : List K} {key : K}
    (h : key ∉ keys) : (cells.delete keys).find key = cells.find key := by
  rw [find_delete, if_neg h]

/-- An entry is what is found under its key. -/
theorem Cells.find_of_mem {cells : Cells K V} {entry : Entry K V} (h : entry ∈ cells.rows) :
    cells.find entry.key = some entry.value := by
  unfold find
  rw [Table.get_of_mem h]
  rfl

theorem Cells.mem_of_find {cells : Cells K V} {key : K} {value : V}
    (h : cells.find key = some value) : ⟨key, value⟩ ∈ cells.rows := by
  obtain ⟨entry, hget, rfl⟩ := Option.map_eq_some_iff.mp h
  obtain ⟨hmem, rfl⟩ := Table.get_eq_some_iff.mp hget
  exact hmem

end Cells

/-- How an endpoint shows a state: the key of its answers, how they are read, and the format
    in which they are cached. -/
structure View (σ K V ε α : Type) where
  key : K
  read : σ → Except ε α
  dump : α → V
  validate : V → Except ε α
  /-- What is cached can be read back. -/
  validate_dump : ∀ a, validate (dump a) = .ok a

namespace View

variable {σ K V ε α β : Type} [DecidableEq K] {view : View σ K V ε α} {s s' : σ}
  {cells cells' : Cells K V}

/-- The answer of the endpoint, and what is cached afterwards. -/
def answer (view : View σ K V ε α) (s : σ) (cells : Cells K V) : Except ε α × Cells K V :=
  match cells.find view.key with
  | some value => (view.validate value, cells)
  | none =>
    match view.read s with
    | .ok a => (.ok a, cells.set view.key (view.dump a))
    | .error e => (.error e, cells)

theorem answer_of_find {value : V} (h : cells.find view.key = some value) :
    view.answer s cells = (view.validate value, cells) := by
  unfold answer
  rw [h]

theorem answer_of_none (h : cells.find view.key = none) :
    (view.answer s cells).1 = view.read s := by
  unfold answer
  rw [h]
  cases view.read s with
  | ok a => rfl
  | error e => rfl

/-- The answer is the same as with an empty cache. -/
def Transparent (view : View σ K V ε α) (s : σ) (cells : Cells K V) : Prop :=
  (view.answer s cells).1 = (view.answer s ∅).1

theorem transparent_iff : view.Transparent s cells ↔
    ∀ value, cells.find view.key = some value → view.validate value = view.read s := by
  have hempty : (view.answer s ∅).1 = view.read s := answer_of_none rfl
  unfold Transparent
  rw [hempty]
  cases hfind : cells.find view.key with
  | none => simp [answer_of_none hfind]
  | some value => simp [answer_of_find hfind]

/-- Only what is cached under the key of the view matters. -/
theorem transparent_congr (hcells : cells'.find view.key = cells.find view.key)
    (hread : view.read s' = view.read s) :
    view.Transparent s' cells' ↔ view.Transparent s cells := by
  rw [transparent_iff, transparent_iff, hcells, hread]

theorem transparent_of_none (h : cells.find view.key = none) : view.Transparent s cells := by
  rw [transparent_iff, h]
  intro value hvalue
  cases hvalue

namespace Transparent

theorem delete (h : view.Transparent s cells) (keys : List K) :
    view.Transparent s (cells.delete keys) := by
  by_cases hkey : view.key ∈ keys
  · exact transparent_of_none (cells.find_delete_of_mem hkey)
  · exact (transparent_congr (cells.find_delete_of_not_mem hkey) rfl).mpr h

/-- When the state changes, what is cached has to be what is read afterwards. -/
theorem change_iff (h : view.Transparent s cells) :
    view.Transparent s' cells ↔
      ∀ value, cells.find view.key = some value → view.read s' = view.read s := by
  rw [transparent_iff] at h ⊢
  refine forall₂_congr fun value hfind => ?_
  rw [h value hfind, eq_comm]

/-- The view has been answered. -/
theorem answered (h : view.Transparent s cells) :
    view.Transparent s (view.answer s cells).2 := by
  cases hfind : cells.find view.key with
  | some value =>
    rw [answer_of_find hfind]
    exact h
  | none =>
    unfold answer
    rw [hfind]
    cases hread : view.read s with
    | ok a =>
      rw [transparent_iff]
      intro value hvalue
      rw [Cells.find_set_self] at hvalue
      cases hvalue
      rw [view.validate_dump, hread]
    | error e => exact h

end Transparent

/-- An answer is cached under the key of its view only. -/
theorem find_answer_of_ne (view : View σ K V ε α) (s : σ) (cells : Cells K V) {key : K}
    (h : key ≠ view.key) : (view.answer s cells).2.find key = cells.find key := by
  unfold answer
  split
  · rfl
  · split
    · exact cells.find_set_of_ne _ h
    · rfl

/-- Another view, with another key, has been answered. -/
theorem Transparent.answered_other {other : View σ K V ε β} (h : view.Transparent s cells)
    (hkey : view.key ≠ other.key) : view.Transparent s (other.answer s cells).2 :=
  (transparent_congr (other.find_answer_of_ne s cells hkey) rfl).mpr h

end View

end Cache
