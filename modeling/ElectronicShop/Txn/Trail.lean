import Mathlib.Data.List.Count

/-!
# Trails

A log of the moves of a state machine, read as a walk: each entry leaves the state
the walk is in, by an allowed move, to the entry's own state. A log that can be
arranged as a trail has been written by one machine.
-/

namespace Txn

/-- `Trail src dst allowed first es last`: the entries `es` lead from `first` to
    `last`. The state an entry leaves may be unknown; then it belongs to no trail. -/
inductive Trail {S E : Type} (src : E → Option S) (dst : E → S) (allowed : S → S → Prop)
    (first : S) : List E → S → Prop where
  | nil : Trail src dst allowed first [] first
  | snoc {es : List E} {s : S} {e : E} (before : Trail src dst allowed first es s)
      (leaves : src e = some s) (move : allowed s (dst e)) :
      Trail src dst allowed first (es ++ [e]) (dst e)

namespace Trail

variable {S E : Type} {src : E → Option S} {dst : E → S} {allowed : S → S → Prop}
  {first last : S} {es : List E}

/-- A state that nothing leaves is entered once, at the end, or never. -/
theorem countP_terminal [DecidableEq S] {t : S} (hterminal : ∀ s, ¬ allowed t s)
    (hfirst : first ≠ t) (h : Trail src dst allowed first es last) :
    es.countP (fun e => dst e = t) = if last = t then 1 else 0 := by
  induction h with
  | nil => simp [hfirst]
  | @snoc es s e before leaves move ih =>
    have hs : s ≠ t := by
      rintro rfl
      exact hterminal _ move
    rw [List.countP_append, ih, if_neg hs, List.countP_singleton]
    simp

end Trail

end Txn
