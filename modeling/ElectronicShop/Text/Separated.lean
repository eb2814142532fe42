import Mathlib.Data.List.Basic
import Mathlib.Data.List.Infix

/-!
# Splitting at every separator

`splitAll` splits at the occurrences of a separator of any length, from left to right, as `split`
of ECMAScript strings does. It undoes joining with the separator when no part has the first symbol
of the separator.
-/

namespace Text

variable {α : Type} [DecidableEq α]

/-- The parts of what is left when `skip` symbols more belong to a separator. -/
def splitFrom (sep : List α) : (skip : Nat) → List α → List (List α)
  | _, [] => [[]]
  | skip + 1, _ :: xs => splitFrom sep skip xs
  | 0, x :: xs =>
    if sep <+: x :: xs then [] :: splitFrom sep (sep.length - 1) xs
    else (splitFrom sep 0 xs).modifyHead (x :: ·)

def splitAll (sep xs : List α) : List (List α) := splitFrom sep 0 xs

variable {c : α} {cs part : List α}

theorem splitFrom_skip (sep skipped xs : List α) :
    splitFrom sep skipped.length (skipped ++ xs) = splitAll sep xs := by
  induction skipped with
  | nil => rfl
  | cons x rest ih => simpa [splitFrom] using ih

theorem splitAll_cons_of_ne {x : α} {xs : List α} (hne : x ≠ c) :
    splitAll (c :: cs) (x :: xs) = (splitAll (c :: cs) xs).modifyHead (x :: ·) := by
  have hprefix : ¬ c :: cs <+: x :: xs := fun h => hne (List.cons_prefix_cons.mp h).1.symm
  rw [splitAll, splitFrom, if_neg hprefix]
  rfl

theorem splitAll_sep (c : α) (cs xs : List α) :
    splitAll (c :: cs) (c :: cs ++ xs) = [] :: splitAll (c :: cs) xs := by
  have hprefix : c :: cs <+: c :: (cs ++ xs) := List.prefix_append (c :: cs) xs
  rw [List.cons_append, splitAll, splitFrom, if_pos hprefix]
  exact congrArg ([] :: ·) (splitFrom_skip (c :: cs) cs xs)

theorem splitAll_part (hpart : c ∉ part) : splitAll (c :: cs) part = [part] := by
  induction part with
  | nil => rfl
  | cons x rest ih =>
    obtain ⟨hne, hrest⟩ := List.ne_and_not_mem_of_not_mem_cons hpart
    rw [splitAll_cons_of_ne hne.symm, ih hrest]
    rfl

theorem splitAll_part_sep (hpart : c ∉ part) (xs : List α) :
    splitAll (c :: cs) (part ++ (c :: cs ++ xs)) = part :: splitAll (c :: cs) xs := by
  induction part with
  | nil => exact splitAll_sep c cs xs
  | cons x rest ih =>
    obtain ⟨hne, hrest⟩ := List.ne_and_not_mem_of_not_mem_cons hpart
    rw [List.cons_append, splitAll_cons_of_ne hne.symm, ih hrest]
    rfl

/-- Joining and splitting again. -/
theorem splitAll_intercalate {parts : List (List α)} (hparts : ∀ part ∈ parts, c ∉ part)
    (hne : parts ≠ []) : splitAll (c :: cs) ((c :: cs).intercalate parts) = parts := by
  induction parts with
  | nil => exact absurd rfl hne
  | cons part rest ih =>
    obtain ⟨hpart, hrest⟩ := List.forall_mem_cons.mp hparts
    cases rest with
    | nil =>
      have hone : (c :: cs).intercalate [part] = part := by simp [List.intercalate]
      rw [hone, splitAll_part hpart]
    | cons next rest =>
      have hjoin : (c :: cs).intercalate (part :: next :: rest) =
          part ++ (c :: cs ++ (c :: cs).intercalate (next :: rest)) := by
        simp [List.intercalate]
      rw [hjoin, splitAll_part_sep hpart, ih hrest (List.cons_ne_nil _ _)]

end Text
