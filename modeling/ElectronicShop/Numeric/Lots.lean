import Mathlib.Algebra.BigOperators.Group.Finset.Sigma
import Mathlib.Algebra.Order.Group.Int

/-!
# Lots and where they are

A lot is an amount of one kind. Each lot that has arrived is in one place, and what
a place holds of a kind is the sum of the lots that are there. A lot arrives at a
place, or everything of some kinds is moved from one place to an empty one.
-/

namespace Numeric

open Finset

variable {ι κ π : Type} [Fintype ι] [DecidableEq κ] [DecidableEq π]

/-- The lots `ι`: what each is of, and how much. -/
structure Lots (ι κ : Type) where
  kind : ι → κ
  amount : ι → Int

namespace Lots

variable (lots : Lots ι κ) {arrived : ι → Bool} {place : ι → π}

/-- What the place `q` holds of a kind. -/
def held (arrived : ι → Bool) (place : ι → π) (q : π) (k : κ) : Int :=
  ∑ i, if arrived i = true ∧ place i = q ∧ lots.kind i = k then lots.amount i else 0

/-- A lot arrives at a place. -/
theorem held_arrive [DecidableEq ι] {i : ι} (hi : arrived i = false) (q₀ q : π) (k : κ) :
    lots.held (Function.update arrived i true) (Function.update place i q₀) q k =
      lots.held arrived place q k + if q₀ = q ∧ lots.kind i = k then lots.amount i else 0 := by
  unfold held
  rw [← add_sum_erase univ _ (mem_univ i), ← add_sum_erase univ (a := i) _ (mem_univ i)]
  have hothers : ∀ j ∈ univ.erase i,
      (if Function.update arrived i true j = true ∧ Function.update place i q₀ j = q ∧
        lots.kind j = k then lots.amount j else 0) =
      if arrived j = true ∧ place j = q ∧ lots.kind j = k then lots.amount j else 0 := by
    intro j hj
    rw [Function.update_of_ne (ne_of_mem_erase hj), Function.update_of_ne (ne_of_mem_erase hj)]
  rw [sum_congr rfl hothers]
  simp only [Function.update_self, hi, Bool.false_eq_true, false_and, if_false, true_and, zero_add]
  exact add_comm _ _

theorem held_congr {place' : ι → π} {q q' : π} {k : κ}
    (h : ∀ i, lots.kind i = k → (place i = q ↔ place' i = q')) :
    lots.held arrived place q k = lots.held arrived place' q' k := by
  refine sum_congr rfl fun i _ => if_congr (and_congr_right fun _ => ?_) rfl rfl
  exact and_congr_left fun hkind => h i hkind

/-- Nothing of a kind is where no lot of it is. -/
theorem held_eq_zero {q : π} {k : κ} (h : ∀ i, lots.kind i = k → place i ≠ q) :
    lots.held arrived place q k = 0 :=
  sum_eq_zero fun i _ => if_neg fun hi => h i hi.2.2 hi.2.1

/-- The places after everything of some kinds is moved from `q` to `q'`. -/
def move (place : ι → π) (q q' : π) (kinds : κ → Prop) [DecidablePred kinds] (i : ι) : π :=
  if place i = q ∧ kinds (lots.kind i) then q' else place i

section Move

variable {q q' : π} {kinds : κ → Prop} [DecidablePred kinds] {k : κ}

theorem held_move_to (hempty : ∀ i, place i ≠ q') (hk : kinds k) :
    lots.held arrived (lots.move place q q' kinds) q' k = lots.held arrived place q k := by
  refine lots.held_congr fun i hkind => ?_
  unfold move
  by_cases hi : place i = q
  · simp [hi, hkind, hk]
  · simp [hi, hempty i]

theorem held_move_from (hne : q' ≠ q) (hk : kinds k) :
    lots.held arrived (lots.move place q q' kinds) q k = 0 := by
  refine lots.held_eq_zero fun i hkind => ?_
  unfold move
  by_cases hi : place i = q
  · simpa [hi, hkind, hk] using hne
  · simp [hi]

theorem held_move_of_ne {r : π} (hq : r ≠ q) (hq' : r ≠ q') :
    lots.held arrived (lots.move place q q' kinds) r k = lots.held arrived place r k := by
  refine lots.held_congr fun i _ => ?_
  unfold move
  split
  · rename_i hi
    simp [hi.1, hq.symm, hq'.symm]
  · rfl

theorem held_move_of_not (hk : ¬ kinds k) (r : π) :
    lots.held arrived (lots.move place q q' kinds) r k = lots.held arrived place r k := by
  refine lots.held_congr fun i hkind => ?_
  rw [move, if_neg fun hi => hk (hkind ▸ hi.2)]

end Move

/-- The places hold what has arrived. -/
theorem sum_held [Fintype π] (k : κ) : ∑ q, lots.held arrived place q k =
    ∑ i, if arrived i = true ∧ lots.kind i = k then lots.amount i else 0 := by
  unfold held
  rw [sum_comm]
  refine sum_congr rfl fun i _ => ?_
  rw [sum_eq_single (place i)]
  · simp
  · intro q _ hq
    exact if_neg fun h => hq h.2.1.symm
  · intro hi
    exact absurd (mem_univ _) hi

end Lots

end Numeric
