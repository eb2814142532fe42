import Mathlib.Algebra.Order.BigOperators.Group.List
import Mathlib.Algebra.Order.Group.Int
import Mathlib.Algebra.Order.Ring.Int
import Mathlib.Data.List.Nodup
import Mathlib.Tactic.Tauto

/-!
# Tables with a primary key

A table is a list of rows with distinct keys, in the order they were inserted.
The distinctness is a field of the structure, so a table with two rows of one
key cannot be built. `sum` adds a quantity over all rows; its lemmas say what a
single insert or update does to it.
-/

namespace Txn

/-- The rows of a table whose primary key is `key`. -/
structure Table {κ α : Type} (key : α → κ) where
  rows : List α
  nodup : (rows.map key).Nodup

namespace Table

variable {κ α : Type} {key : α → κ}

instance : EmptyCollection (Table key) := ⟨⟨[], List.nodup_nil⟩⟩

@[simp] theorem empty_rows : (∅ : Table key).rows = [] := rfl

section Keys

variable [DecidableEq κ]

/-- The row with key `k`. -/
def get (t : Table key) (k : κ) : Option α := t.rows.find? fun r => key r = k

/-- Replace the row with `row`'s key, or append `row` when there is none. -/
def upsertRows (key : α → κ) (row : α) : List α → List α
  | [] => [row]
  | r :: rest => if key r = key row then row :: rest else r :: upsertRows key row rest

theorem mem_keys_upsertRows (row : α) (rows : List α) (k : κ) :
    k ∈ (upsertRows key row rows).map key ↔ k = key row ∨ k ∈ rows.map key := by
  induction rows with
  | nil => simp [upsertRows]
  | cons r rest ih =>
    by_cases h : key r = key row
    · simp [upsertRows, h]
    · simp only [upsertRows, if_neg h, List.map_cons, List.mem_cons, ih]
      tauto

theorem nodup_upsertRows (row : α) (rows : List α) (h : (rows.map key).Nodup) :
    ((upsertRows key row rows).map key).Nodup := by
  induction rows with
  | nil => simp [upsertRows]
  | cons r rest ih =>
    have hd := List.nodup_cons.mp h
    by_cases heq : key r = key row
    · simpa [upsertRows, heq] using h
    · simp only [upsertRows, if_neg heq, List.map_cons, List.nodup_cons]
      refine ⟨?_, ih hd.2⟩
      rw [mem_keys_upsertRows]
      rintro (hrow | hrest)
      · exact heq hrow
      · exact hd.1 hrest

/-- `INSERT` or `UPDATE` of one whole row. -/
def put (t : Table key) (row : α) : Table key :=
  ⟨upsertRows key row t.rows, nodup_upsertRows row t.rows t.nodup⟩

/-- `UPDATE ... WHERE key = k`: nothing happens when there is no such row. -/
def modify (t : Table key) (k : κ) (f : α → α) : Table key :=
  match t.get k with
  | some row => t.put (f row)
  | none => t

/-- `DELETE ... WHERE key = k AND p`. -/
def eraseIf (t : Table key) (k : κ) (p : α → Bool) : Table key :=
  ⟨t.rows.filter fun r => ¬ (key r = k ∧ p r), t.nodup.sublist (List.filter_sublist.map key)⟩

/-! ## Reading back -/

@[simp] theorem get_empty (k : κ) : (∅ : Table key).get k = none := rfl

theorem key_of_get {t : Table key} {k : κ} {row : α} (h : t.get k = some row) : key row = k := by
  simpa using List.find?_some h

theorem mem_of_get {t : Table key} {k : κ} {row : α} (h : t.get k = some row) : row ∈ t.rows :=
  List.mem_of_find?_eq_some h

theorem get_of_mem {t : Table key} {row : α} (h : row ∈ t.rows) : t.get (key row) = some row := by
  obtain ⟨rows, nodup⟩ := t
  change row ∈ rows at h
  change rows.find? (fun r => key r = key row) = some row
  induction rows with
  | nil => cases h
  | cons r rest ih =>
    have hd := List.nodup_cons.mp nodup
    rcases List.mem_cons.mp h with rfl | hrest
    · simp
    · have hne : key r ≠ key row := by
        intro heq
        exact hd.1 (heq ▸ List.mem_map_of_mem hrest)
      rw [List.find?_cons_of_neg (by simpa using hne)]
      exact ih hd.2 hrest

/-- A statement about all rows, read through the key. -/
theorem forall_rows_iff {t : Table key} {p : α → Prop} :
    (∀ row ∈ t.rows, p row) ↔ ∀ k row, t.get k = some row → p row := by
  constructor
  · intro h k row hget
    exact h row (mem_of_get hget)
  · intro h row hmem
    exact h (key row) row (get_of_mem hmem)

theorem find?_upsertRows (row : α) (rows : List α) (k : κ) :
    (upsertRows key row rows).find? (fun r => key r = k) =
      if k = key row then some row else rows.find? fun r => key r = k := by
  induction rows with
  | nil =>
    by_cases h : key row = k
    · simp [upsertRows, h]
    · simp [upsertRows, h, Ne.symm h]
  | cons r rest ih =>
    by_cases hr : key r = key row
    · by_cases hk : k = key row
      · simp [upsertRows, hr, hk]
      · simp [upsertRows, hr, hk, Ne.symm hk]
    · by_cases hk : k = key row
      · subst hk
        simp [upsertRows, hr, ih]
      · by_cases hrk : key r = k
        · simp [upsertRows, hk, hrk]
        · simp [upsertRows, hr, hk, hrk, ih]

theorem get_put (t : Table key) (row : α) (k : κ) :
    (t.put row).get k = if k = key row then some row else t.get k :=
  find?_upsertRows row t.rows k

@[simp] theorem get_put_self (t : Table key) (row : α) : (t.put row).get (key row) = some row := by
  simp [get_put]

theorem get_put_of_ne (t : Table key) {row : α} {k : κ} (h : k ≠ key row) :
    (t.put row).get k = t.get k := by
  simp [get_put, h]

/-- A row that a lookup has found, by its own key. -/
theorem get_self {t : Table key} {k : κ} {row : α} (h : t.get k = some row) :
    t.get (key row) = some row := get_of_mem (mem_of_get h)

/-- An update adds no key. -/
theorem get_put_eq_none {t : Table key} {row old : α} {k : κ} (h : t.get (key row) = some old)
    (hk : t.get k = none) : (t.put row).get k = none := by
  rw [get_put_of_ne]
  · exact hk
  · rintro rfl
    rw [h] at hk
    cases hk

/-- A new row is appended. -/
theorem rows_put_of_fresh {t : Table key} {row : α} (h : t.get (key row) = none) :
    (t.put row).rows = t.rows ++ [row] := by
  have hrows : ∀ rows : List α, (∀ r ∈ rows, key r ≠ key row) →
      upsertRows key row rows = rows ++ [row] := by
    intro rows hne
    induction rows with
    | nil => rfl
    | cons r rest ih =>
      rw [List.forall_mem_cons] at hne
      rw [upsertRows, if_neg hne.1, ih hne.2]
      rfl
  refine hrows t.rows fun r hr heq => ?_
  rw [← heq, get_of_mem hr] at h
  cases h

theorem mem_put {t : Table key} {row r : α} (h : r ∈ (t.put row).rows) :
    r = row ∨ (r ∈ t.rows ∧ key r ≠ key row) := by
  have hget := get_of_mem h
  rw [get_put] at hget
  split at hget
  · exact Or.inl (Option.some.inj hget).symm
  · rename_i hne
    exact Or.inr ⟨mem_of_get hget, hne⟩

/-- A query that finds neither the row that is put nor the one that it replaces. -/
theorem find?_put_of_not {t : Table key} {row : α} {q : α → Bool} (hrow : q row = false)
    (hold : ∀ old, t.get (key row) = some old → q old = false) :
    (t.put row).rows.find? q = t.rows.find? q := by
  obtain ⟨rows, nodup⟩ := t
  change ∀ old, rows.find? (fun r => key r = key row) = some old → q old = false at hold
  change (upsertRows key row rows).find? q = rows.find? q
  clear nodup
  induction rows with
  | nil => simp [upsertRows, hrow]
  | cons r rest ih =>
    by_cases hr : key r = key row
    · have hq : q r = false := hold r (by simp [hr])
      simp [upsertRows, hr, hrow, hq]
    · have hrest := ih fun old hget => hold old (by simpa [hr] using hget)
      simp only [upsertRows, if_neg hr, List.find?_cons, hrest]

/-- A selection that has neither the row that is put nor the one that it replaces. -/
theorem filter_put_of_not {t : Table key} {row : α} {q : α → Bool} (hrow : q row = false)
    (hold : ∀ old, t.get (key row) = some old → q old = false) :
    (t.put row).rows.filter q = t.rows.filter q := by
  obtain ⟨rows, nodup⟩ := t
  change ∀ old, rows.find? (fun r => key r = key row) = some old → q old = false at hold
  change (upsertRows key row rows).filter q = rows.filter q
  clear nodup
  induction rows with
  | nil => simp [upsertRows, hrow]
  | cons r rest ih =>
    by_cases hr : key r = key row
    · have hq : q r = false := hold r (by simp [hr])
      simp [upsertRows, hr, hrow, hq]
    · have hrest := ih fun old hget => hold old (by simpa [hr] using hget)
      simp only [upsertRows, if_neg hr, List.filter_cons, hrest]

/-- No two rows have one key. -/
theorem length_filter_key_le_one (t : Table key) (k : κ) :
    (t.rows.filter fun r => key r = k).length ≤ 1 := by
  have hcount : (t.rows.map key).count k ≤ 1 := List.nodup_iff_count_le_one.mp t.nodup k
  rw [List.count, List.countP_map, List.countP_eq_length_filter] at hcount
  simpa only [Function.comp_def, beq_eq_decide] using hcount

/-- An update that keeps the key changes the row with key `k` and no other. -/
theorem get_modify (t : Table key) (k : κ) (f : α → α) (hf : ∀ r, key (f r) = key r) (k' : κ) :
    (t.modify k f).get k' = if k' = k then (t.get k).map f else t.get k' := by
  unfold modify
  cases hrow : t.get k with
  | none =>
    by_cases hk : k' = k
    · simp [hk, hrow]
    · simp [hk]
  | some row =>
    have hkey : key (f row) = k := (hf row).trans (key_of_get hrow)
    simp only [get_put, hkey, Option.map_some]

theorem modify_of_get {t : Table key} {k : κ} {row : α} (f : α → α) (h : t.get k = some row) :
    t.modify k f = t.put (f row) := by
  simp only [modify, h]

theorem upsertRows_upsertRows {row row' : α} (h : key row' = key row) (rows : List α) :
    upsertRows key row' (upsertRows key row rows) = upsertRows key row' rows := by
  induction rows with
  | nil => simp [upsertRows, h]
  | cons r rest ih =>
    by_cases hr : key r = key row
    · simp [upsertRows, hr, h]
    · simp [upsertRows, hr, h, ih]

/-- The second of two writes of one row wins. -/
theorem put_put (t : Table key) {row row' : α} (h : key row' = key row) :
    (t.put row).put row' = t.put row' := by
  simp only [put, upsertRows_upsertRows h]

theorem upsertRows_comm {row new : α} (hne : key row ≠ key new) (rows : List α)
    (h : key row ∈ rows.map key) :
    upsertRows key row (upsertRows key new rows) = upsertRows key new (upsertRows key row rows) := by
  induction rows with
  | nil => cases h
  | cons r rest ih =>
    by_cases hr : key r = key row
    · simp [upsertRows, hr, hne]
    · have hrest : key row ∈ rest.map key := by
        rcases List.mem_cons.mp h with heq | hrest
        · exact absurd heq.symm hr
        · exact hrest
      by_cases hrn : key r = key new
      · simp [upsertRows, hrn, Ne.symm hne]
      · simp [upsertRows, hr, hrn, ih hrest]

/-- An update of one row and a write of another can be exchanged. -/
theorem put_comm (t : Table key) {row new old : α} (hne : key row ≠ key new)
    (h : t.get (key row) = some old) : (t.put new).put row = (t.put row).put new := by
  have hmem : key row ∈ t.rows.map key := by
    rw [← key_of_get h]
    exact List.mem_map_of_mem (mem_of_get h)
  simp only [put, upsertRows_comm hne t.rows hmem]

theorem upsertRows_of_find? {k : κ} {row : α} (rows : List α)
    (h : rows.find? (fun r => key r = k) = some row) (hkey : key row = k) :
    upsertRows key row rows = rows := by
  induction rows with
  | nil => cases h
  | cons r rest ih =>
    by_cases hr : key r = k
    · rw [List.find?_cons_of_pos (by simpa using hr)] at h
      obtain rfl := Option.some.inj h
      simp [upsertRows]
    · rw [List.find?_cons_of_neg (by simpa using hr)] at h
      simp [upsertRows, hkey, hr, ih h]

/-- Writing a row back as it is changes nothing. -/
theorem put_self {t : Table key} {k : κ} {row : α} (h : t.get k = some row) : t.put row = t := by
  have hrows := upsertRows_of_find? t.rows h (key_of_get h)
  simp only [put, hrows]

theorem filterMap_upsertRows {β : Type} (f : α → Option β) {row old : α} (rows : List α)
    (h : rows.find? (fun r => key r = key row) = some old) (hf : f row = f old) :
    (upsertRows key row rows).filterMap f = rows.filterMap f := by
  induction rows with
  | nil => cases h
  | cons r rest ih =>
    by_cases hr : key r = key row
    · rw [List.find?_cons_of_pos (by simpa using hr)] at h
      obtain rfl := Option.some.inj h
      simp [upsertRows, hr, List.filterMap_cons, hf]
    · rw [List.find?_cons_of_neg (by simpa using hr)] at h
      simp [upsertRows, hr, List.filterMap_cons, ih h]

/-- Replacing a row by one that agrees on a column leaves the column alone. -/
theorem filterMap_put {β : Type} {t : Table key} (f : α → Option β) {row old : α}
    (h : t.get (key row) = some old) (hf : f row = f old) :
    (t.put row).rows.filterMap f = t.rows.filterMap f :=
  filterMap_upsertRows f t.rows h hf

/-- An update that keeps a column. -/
theorem map_put {β : Type} {t : Table key} (f : α → β) {row old : α}
    (hget : t.get (key row) = some old) (hf : f row = f old) :
    (t.put row).rows.map f = t.rows.map f := by
  have hsame := filterMap_put (fun r => some (f r)) hget (congrArg some hf)
  simpa using hsame

theorem modify_put (t : Table key) (row : α) {k : κ} (hk : key row = k) {f : α → α}
    (hf : key (f row) = key row) : (t.put row).modify k f = t.put (f row) := by
  subst hk
  rw [modify_of_get f (get_put_self t row), put_put t hf]

theorem modify_modify (t : Table key) (k : κ) {f g : α → α} (hf : ∀ r, key (f r) = key r)
    (hg : ∀ r, key (g r) = key r) : (t.modify k f).modify k g = t.modify k fun r => g (f r) := by
  cases h : t.get k with
  | none => simp only [modify, h]
  | some row =>
    have hkey : key (f row) = k := (hf row).trans (key_of_get h)
    rw [modify_of_get f h, modify_put t _ hkey (hg _), modify_of_get _ h]

/-- Two updates of one row, with an insert in between. -/
theorem modify_put_modify {t : Table key} {k : κ} {row new : α} {f g : α → α}
    (hf : ∀ r, key (f r) = key r) (hg : ∀ r, key (g r) = key r) (hrow : t.get k = some row)
    (hnew : t.get (key new) = none) :
    ((t.modify k f).put new).modify k g = (t.put (g (f row))).put new := by
  have hkey : key (f row) = k := (hf row).trans (key_of_get hrow)
  have hne : k ≠ key new := by
    rintro rfl
    rw [hrow] at hnew
    cases hnew
  have hmiddle : ((t.put (f row)).put new).get k = some (f row) := by
    rw [get_put_of_ne _ hne, ← hkey]
    exact get_put_self ..
  have hlast : key (g (f row)) = key (f row) := hg (f row)
  have hchanged : (t.put (f row)).get (key (g (f row))) = some (f row) := by
    rw [hlast]
    exact get_put_self ..
  rw [modify_of_get f hrow, modify_of_get g hmiddle,
    put_comm _ (by rwa [hlast, hkey]) hchanged, put_put t hlast]

theorem modify_id (t : Table key) (k : κ) : t.modify k id = t := by
  cases h : t.get k with
  | none => simp only [modify, h]
  | some row =>
    rw [modify_of_get id h]
    exact put_self h

theorem isSome_get_modify (t : Table key) (k : κ) (f : α → α) (hf : ∀ r, key (f r) = key r)
    (k' : κ) : ((t.modify k f).get k').isSome = (t.get k').isSome := by
  rw [get_modify t k f hf]
  split
  · rename_i hk
    simp [hk]
  · rfl

theorem mem_eraseIf {t : Table key} {k : κ} {p : α → Bool} {row : α} :
    row ∈ (t.eraseIf k p).rows ↔ row ∈ t.rows ∧ ¬ (key row = k ∧ p row) := by
  simp [eraseIf, imp_iff_not_or]

/-- A selection without the row that is deleted. -/
theorem filter_eraseIf_of_not {t : Table key} {k : κ} {p q : α → Bool}
    (h : ∀ row, key row = k → q row = false) : (t.eraseIf k p).rows.filter q = t.rows.filter q := by
  rw [eraseIf, List.filter_filter]
  refine List.filter_congr fun row _ => ?_
  by_cases hk : key row = k
  · simp [hk, h row hk]
  · simp [hk]

theorem get_eq_some_iff {t : Table key} {k : κ} {row : α} :
    t.get k = some row ↔ row ∈ t.rows ∧ key row = k :=
  ⟨fun h => ⟨mem_of_get h, key_of_get h⟩, fun h => h.2 ▸ get_of_mem h.1⟩

theorem get_eraseIf (t : Table key) (k k' : κ) (p : α → Bool) :
    (t.eraseIf k p).get k' = if k' = k then (t.get k').filter fun r => !p r else t.get k' := by
  refine Option.ext fun row => ?_
  rw [get_eq_some_iff, mem_eraseIf]
  split
  · rename_i hk
    rw [Option.filter_eq_some_iff, get_eq_some_iff, hk]
    simp only [Bool.not_eq_true', not_and, Bool.not_eq_true]
    constructor
    · rintro ⟨⟨hmem, hp⟩, hkey⟩
      exact ⟨⟨hmem, hkey⟩, hp hkey⟩
    · rintro ⟨⟨hmem, hkey⟩, hp⟩
      exact ⟨⟨hmem, fun _ => hp⟩, hkey⟩
  · rename_i hk
    rw [get_eq_some_iff]
    constructor
    · rintro ⟨⟨hmem, -⟩, hkey⟩
      exact ⟨hmem, hkey⟩
    · rintro ⟨hmem, hkey⟩
      exact ⟨⟨hmem, fun h => hk (hkey ▸ h.1)⟩, hkey⟩

end Keys

/-! ## Updates of many rows -/

/-- `UPDATE` of every row, with a function that keeps the keys. -/
def map (t : Table key) (f : α → α) (hf : ∀ r, key (f r) = key r) : Table key :=
  ⟨t.rows.map f, by
    have hkeys : (t.rows.map f).map key = t.rows.map key := by
      rw [List.map_map]
      exact List.map_congr_left fun r _ => hf r
    rw [hkeys]
    exact t.nodup⟩

@[simp] theorem rows_map (t : Table key) (f : α → α) (hf : ∀ r, key (f r) = key r) :
    (t.map f hf).rows = t.rows.map f := rfl

theorem get_map [DecidableEq κ] (t : Table key) (f : α → α) (hf : ∀ r, key (f r) = key r) (k : κ) :
    (t.map f hf).get k = (t.get k).map f := by
  simp only [get, rows_map, List.find?_map]
  congr 2
  funext r
  simp only [Function.comp_apply, hf]

theorem map_congr {t : Table key} {f g : α → α} {hf : ∀ r, key (f r) = key r}
    {hg : ∀ r, key (g r) = key r} (h : ∀ r ∈ t.rows, f r = g r) : t.map f hf = t.map g hg := by
  simp only [map, List.map_congr_left h]

theorem map_map (t : Table key) (f g : α → α) (hf : ∀ r, key (f r) = key r)
    (hg : ∀ r, key (g r) = key r) :
    (t.map f hf).map g hg = t.map (fun r => g (f r)) fun r => (hg (f r)).trans (hf r) := by
  simp only [map, List.map_map]
  rfl

theorem map_id (t : Table key) : t.map (fun r => r) (fun _ => rfl) = t := by
  simp only [map, List.map_id_fun']
  rfl

theorem upsertRows_eq_map [DecidableEq κ] {k : κ} {f : α → α} (rows : List α) (hnodup : (rows.map key).Nodup)
    {row : α} (h : rows.find? (fun r => key r = k) = some row) (hf : key (f row) = k) :
    upsertRows key (f row) rows = rows.map fun r => if key r = k then f r else r := by
  induction rows with
  | nil => cases h
  | cons r rest ih =>
    have hd := List.nodup_cons.mp hnodup
    by_cases hr : key r = k
    · rw [List.find?_cons_of_pos (by simpa using hr)] at h
      obtain rfl := Option.some.inj h
      have hrest : rest.map (fun x => if key x = k then f x else x) = rest := by
        refine (List.map_congr_left fun x hx => ?_).trans (List.map_id' rest)
        rw [if_neg]
        rintro rfl
        exact hd.1 (hr ▸ List.mem_map_of_mem hx)
      simp only [upsertRows, hf, hr, if_true, List.map_cons, hrest]
    · rw [List.find?_cons_of_neg (by simpa using hr)] at h
      have hne : key r ≠ key (f row) := fun heq => hr (heq.trans hf)
      simp only [upsertRows, if_neg hne, List.map_cons, if_neg hr, ih hd.2 h]

theorem rows_put_of_get [DecidableEq κ] {t : Table key} {row old : α}
    (h : t.get (key row) = some old) :
    (t.put row).rows = t.rows.map fun r => if key r = key row then row else r :=
  upsertRows_eq_map (f := fun _ => row) t.rows t.nodup h rfl

/-- An update of one row, as an update of every row. -/
theorem modify_eq_map [DecidableEq κ] (t : Table key) (k : κ) (f : α → α) (hf : ∀ r, key (f r) = key r) :
    t.modify k f = t.map (fun r => if key r = k then f r else r) fun r => by
      split
      · exact hf r
      · rfl := by
  cases hrow : t.get k with
  | some row =>
    rw [modify_of_get f hrow]
    have hkey : key (f row) = k := (hf row).trans (key_of_get hrow)
    simp only [put, map, upsertRows_eq_map t.rows t.nodup hrow hkey]
  | none =>
    have hne : ∀ r ∈ t.rows, key r ≠ k := by
      rintro r hr rfl
      rw [get_of_mem hr] at hrow
      cases hrow
    have hsame : t.modify k f = t := by
      simp only [modify, hrow]
    rw [hsame]
    conv_lhs => rw [← map_id t]
    exact map_congr fun r hr => (if_neg (hne r hr)).symm

/-! ## Sums over all rows -/

/-- The sum of `f` over the rows. -/
def sum (t : Table key) (f : α → Int) : Int := (t.rows.map f).sum

@[simp] theorem sum_empty (f : α → Int) : (∅ : Table key).sum f = 0 := rfl

theorem sum_upsertRows [DecidableEq κ] (f : α → Int) (row : α) (rows : List α) :
    ((upsertRows key row rows).map f).sum =
      (rows.map f).sum - ((rows.find? fun r => key r = key row).map f).getD 0 + f row := by
  induction rows with
  | nil => simp [upsertRows]
  | cons r rest ih =>
    by_cases h : key r = key row
    · simp [upsertRows, h]
      omega
    · have hfind : (r :: rest).find? (fun x => decide (key x = key row)) =
          rest.find? fun x => decide (key x = key row) :=
        List.find?_cons_of_neg (by simpa using h)
      rw [hfind]
      simp only [upsertRows, if_neg h, List.map_cons, List.sum_cons, ih]
      omega

/-- An insert or update moves a sum by the new row minus the replaced one. -/
theorem sum_put [DecidableEq κ] (t : Table key) (f : α → Int) (row : α) :
    (t.put row).sum f = t.sum f - ((t.get (key row)).map f).getD 0 + f row :=
  sum_upsertRows f row t.rows

theorem sum_put_new [DecidableEq κ] {t : Table key} {row : α} (f : α → Int) (h : t.get (key row) = none) :
    (t.put row).sum f = t.sum f + f row := by
  simp [sum_put, h]

/-- A sum after an insert, when the terms of the old rows stay the same. -/
theorem sum_insert [DecidableEq κ] {t : Table key} {row : α} {f g : α → Int}
    (h : t.get (key row) = none) (hfg : ∀ r ∈ t.rows, g r = f r) :
    (t.put row).sum g = t.sum f + g row := by
  rw [sum_put_new g h]
  congr 1
  exact congrArg List.sum (List.map_congr_left hfg)

theorem sum_rows_update [DecidableEq κ] {f g : α → Int} {row old : α} (rows : List α)
    (hnodup : (rows.map key).Nodup) (h : old ∈ rows) (hkey : key row = key old)
    (hfg : ∀ r ∈ rows, key r ≠ key old → g r = f r) :
    ((upsertRows key row rows).map g).sum = (rows.map f).sum - f old + g row := by
  induction rows with
  | nil => cases h
  | cons r rest ih =>
    have hd := List.nodup_cons.mp hnodup
    by_cases hr : key r = key old
    · have hold : old = r := by
        rcases List.mem_cons.mp h with rfl | hrest
        · rfl
        · exact absurd (List.mem_map_of_mem hrest) (hr ▸ hd.1)
      subst hold
      have hrest : rest.map g = rest.map f := by
        refine List.map_congr_left fun x hx => hfg x (List.mem_cons_of_mem _ hx) fun hxk => ?_
        exact hd.1 (hxk ▸ List.mem_map_of_mem hx)
      simp only [upsertRows, hkey, if_true, List.map_cons, List.sum_cons, hrest]
      omega
    · have hmem : old ∈ rest := by
        rcases List.mem_cons.mp h with rfl | hrest
        · exact absurd rfl hr
        · exact hrest
      have hne : key r ≠ key row := fun heq => hr (heq.trans hkey)
      simp only [upsertRows, if_neg hne, List.map_cons, List.sum_cons,
        ih hd.2 hmem fun x hx => hfg x (List.mem_cons_of_mem _ hx), hfg r (by simp) hr]
      omega

/-- A sum after an update of one row, when the terms of the others stay the
    same. -/
theorem sum_update [DecidableEq κ] {t : Table key} {row old : α} {f g : α → Int}
    (h : t.get (key row) = some old)
    (hfg : ∀ r ∈ t.rows, key r ≠ key row → g r = f r) :
    (t.put row).sum g = t.sum f - f old + g row := by
  have hkey : key row = key old := (key_of_get h).symm
  exact sum_rows_update t.rows t.nodup (mem_of_get h) hkey (hkey ▸ hfg)

theorem sum_nonneg {t : Table key} {f : α → Int} (hf : ∀ r ∈ t.rows, 0 ≤ f r) : 0 ≤ t.sum f := by
  refine List.sum_nonneg ?_
  intro x hx
  obtain ⟨r, hr, rfl⟩ := List.mem_map.mp hx
  exact hf r hr

/-- One row's share of a sum of non-negative terms is at most the sum. -/
theorem le_sum {t : Table key} {f : α → Int} (hf : ∀ r ∈ t.rows, 0 ≤ f r) {row : α}
    (h : row ∈ t.rows) : f row ≤ t.sum f := by
  refine List.single_le_sum ?_ _ (List.mem_map_of_mem h)
  intro x hx
  obtain ⟨r, hr, rfl⟩ := List.mem_map.mp hx
  exact hf r hr

theorem sum_le_sum {t : Table key} {f g : α → Int} (h : ∀ r ∈ t.rows, f r ≤ g r) :
    t.sum f ≤ t.sum g :=
  List.sum_le_sum h

theorem sum_congr {t : Table key} {f g : α → Int} (h : ∀ r ∈ t.rows, f r = g r) :
    t.sum f = t.sum g := by
  unfold sum
  rw [List.map_congr_left h]

end Table

end Txn
