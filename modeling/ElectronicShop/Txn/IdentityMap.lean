import ElectronicShop.Txn.Table

/-!
# Identity maps

A session keeps the rows it has loaded as objects. A query for a row it has is
answered with the object, whatever the database holds by then. While the objects
are rows of the database nothing can tell the difference.
-/

namespace Txn

namespace Table

variable {κ α : Type} {key : α → κ} [DecidableEq κ]

/-- The answer to a query for one row: the object, or else the row. -/
def lookup (objects rows : Table key) (k : κ) : Option α := (objects.get k).or (rows.get k)

theorem key_of_lookup {objects rows : Table key} {k : κ} {row : α}
    (h : objects.lookup rows k = some row) : key row = k := by
  unfold lookup at h
  cases hobject : objects.get k with
  | some object =>
    rw [hobject, Option.some_or] at h
    exact key_of_get (hobject.trans h)
  | none =>
    rw [hobject, Option.none_or] at h
    exact key_of_get h

/-- `t` with the row that such a query loads: none when there is an object already. -/
def remember (t objects rows : Table key) (k : κ) : Table key :=
  match objects.get k, rows.get k with
  | none, some row => t.put row
  | _, _ => t

theorem get_remember (t objects rows : Table key) (k k' : κ) :
    (remember t objects rows k).get k' =
      if k' = k ∧ objects.get k = none ∧ (rows.get k).isSome then rows.get k else t.get k' := by
  unfold remember
  cases hobject : objects.get k with
  | some object => simp
  | none =>
    cases hrow : rows.get k with
    | none => simp
    | some row => simp [get_put, key_of_get hrow]

/-- A load that finds an object changes nothing. -/
theorem remember_of_isSome {t objects rows : Table key} {k : κ} (h : (objects.get k).isSome) :
    remember t objects rows k = t := by
  obtain ⟨object, hobject⟩ := Option.isSome_iff_exists.mp h
  simp only [remember, hobject]

/-- A query loads what it answers. -/
theorem get_remember_self (objects rows : Table key) (k : κ) :
    (remember objects objects rows k).get k = lookup objects rows k := by
  rw [get_remember]
  unfold lookup
  cases hobject : objects.get k with
  | some object => simp
  | none => cases hrow : rows.get k <;> simp

theorem get_remember_of_ne (t objects rows : Table key) {k k' : κ} (h : k' ≠ k) :
    (remember t objects rows k).get k' = t.get k' := by
  rw [get_remember, if_neg fun hk => h hk.1]

/-! ## Objects that are rows of the database -/

/-- Every row of `t` is a row of `t'`. -/
def Sub (t t' : Table key) : Prop := ∀ k row, t.get k = some row → t'.get k = some row

theorem sub_empty (t : Table key) : Sub ∅ t := fun _ _ h => nomatch h

variable {objects rows : Table key}

theorem Sub.lookup (h : Sub objects rows) (k : κ) : objects.lookup rows k = rows.get k := by
  unfold Table.lookup
  cases hobject : objects.get k with
  | none => rfl
  | some object => exact (h k object hobject).symm

theorem Sub.getD (h : Sub objects rows) {k : κ} {row : α} (hrow : rows.get k = some row) :
    (objects.get k).getD row = row := by
  cases hobject : objects.get k with
  | none => rfl
  | some object => exact Option.some.inj ((h k object hobject).symm.trans hrow)

theorem Sub.remember (h : Sub objects rows) (k : κ) :
    Sub (Table.remember objects objects rows k) rows := by
  intro k' row hget
  by_cases hk : k' = k
  · rw [hk, get_remember_self, h.lookup] at hget
    rwa [hk]
  · rw [get_remember_of_ne _ _ _ hk] at hget
    exact h k' row hget

theorem Sub.put (h : Sub objects rows) (row : α) : Sub (objects.put row) (rows.put row) := by
  intro k r hget
  rw [get_put] at hget ⊢
  split
  · rename_i hk
    rwa [if_pos hk] at hget
  · rename_i hk
    rw [if_neg hk] at hget
    exact h k r hget

/-- Loading a row that the database has. -/
theorem Sub.put_get (h : Sub objects rows) {k : κ} {row : α} (hrow : rows.get k = some row) :
    Sub (objects.put row) rows := by
  have hsub := h.put row
  rwa [put_self hrow] at hsub

/-- A new row of the database. -/
theorem Sub.put_right (h : Sub objects rows) {row : α} (hfresh : rows.get (key row) = none) :
    Sub objects (rows.put row) := by
  intro k r hget
  rw [get_put_of_ne]
  · exact h k r hget
  · rintro rfl
    rw [h _ r hget] at hfresh
    cases hfresh

/-- The same update of objects and rows. -/
theorem Sub.modify (h : Sub objects rows) {k : κ} {f : α → α}
    (hf : ∀ r, key r = k → key (f r) = k) : Sub (objects.modify k f) (rows.modify k f) := by
  cases hobject : objects.get k with
  | some object =>
    rw [modify_of_get f hobject, modify_of_get f (h k object hobject)]
    exact h.put _
  | none =>
    have hkeep : objects.modify k f = objects := by
      simp only [Table.modify, hobject]
    rw [hkeep]
    cases hrow : rows.get k with
    | none =>
      simp only [Table.modify, hrow]
      exact h
    | some row =>
      rw [modify_of_get f hrow]
      intro k' r hget
      have hne : k' ≠ k := by
        rintro rfl
        rw [hobject] at hget
        cases hget
      rw [get_put_of_ne rows (by rwa [hf row (key_of_get hrow)])]
      exact h k' r hget

/-- The same deletion of objects and rows. -/
theorem Sub.eraseIf (h : Sub objects rows) (k : κ) (p : α → Bool) :
    Sub (objects.eraseIf k p) (rows.eraseIf k p) := by
  intro k' row hget
  rw [get_eraseIf] at hget ⊢
  split
  · rename_i hk
    rw [if_pos hk, Option.filter_eq_some_iff] at hget
    exact Option.filter_eq_some_iff.mpr ⟨h k' row hget.1, hget.2⟩
  · rename_i hk
    rw [if_neg hk] at hget
    exact h k' row hget

end Table

end Txn
