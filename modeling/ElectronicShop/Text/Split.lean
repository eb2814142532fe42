import Mathlib.Data.List.Basic

/-!
# Splitting at a separator

`splitOnce` splits at the first separator; there is no result without one.
-/

namespace Text

variable {α : Type} [DecidableEq α] {sep : α} {xs before after : List α}

/-- What stands before the first separator, and what stands after it. -/
def splitOnce (sep : α) : List α → Option (List α × List α)
  | [] => none
  | x :: xs => if x = sep then some ([], xs) else (splitOnce sep xs).map (Prod.map (x :: ·) id)

theorem splitOnce_eq_none : splitOnce sep xs = none ↔ sep ∉ xs := by
  induction xs with
  | nil => simp [splitOnce]
  | cons x rest ih =>
    rw [splitOnce]
    split
    · rename_i heq
      simp [heq]
    · rename_i hne
      simp [ih, Ne.symm hne]

theorem splitOnce_append (hbefore : sep ∉ before) :
    splitOnce sep (before ++ sep :: after) = some (before, after) := by
  induction before with
  | nil => simp [splitOnce]
  | cons x rest ih =>
    obtain ⟨hne, hrest⟩ := List.ne_and_not_mem_of_not_mem_cons hbefore
    rw [List.cons_append, splitOnce, if_neg (Ne.symm hne), ih hrest]
    rfl

theorem splitOnce_eq_some :
    splitOnce sep xs = some (before, after) ↔ xs = before ++ sep :: after ∧ sep ∉ before := by
  constructor
  · intro h
    induction xs generalizing before with
    | nil => cases h
    | cons x rest ih =>
      rw [splitOnce] at h
      split at h
      · rename_i heq
        cases h
        exact ⟨by rw [heq, List.nil_append], List.not_mem_nil⟩
      · rename_i hne
        obtain ⟨⟨front, back⟩, hrest, heq⟩ := Option.map_eq_some_iff.mp h
        cases heq
        obtain ⟨hsplit, hfront⟩ := ih hrest
        exact ⟨by rw [hsplit]; rfl, List.not_mem_cons_of_ne_of_not_mem (Ne.symm hne) hfront⟩
  · rintro ⟨rfl, hbefore⟩
    exact splitOnce_append hbefore

end Text
