import Mathlib.Data.List.Perm.Subperm
import Mathlib.Data.List.Nodup
import Mathlib.Logic.Relation

/-!
# Parent pointers

A function that gives each node its parent, if it has one, describes a forest when no walk
from a node to its parent, and so on, comes back to the node. Taking parents away keeps it
one, and so does giving a node a new parent that is not below it. The path from a node up to
a root passes no node twice, whether or not there are cycles elsewhere.
-/

namespace Forest

variable {α : Type} {parent parent' : α → Option α} {x y k : α}

/-- One step towards the root. -/
def Up (parent : α → Option α) (x y : α) : Prop := parent x = some y

/-- No walk towards the root comes back. -/
def Acyclic (parent : α → Option α) : Prop := ∀ x, ¬ Relation.TransGen (Up parent) x x

/-- Taking parents away. -/
theorem Acyclic.mono (h : Acyclic parent)
    (hsub : ∀ x y, parent' x = some y → parent x = some y) : Acyclic parent' :=
  fun x hcycle => h x (Relation.TransGen.mono hsub _ _ hcycle)

/-- What a walk looks like when `k` has a new parent: it does not pass `k`, or it goes from
    its start to `k`, and from the new parent of `k` to its end. -/
theorem walk_of_update (hother : ∀ x, x ≠ k → ∀ y, parent' x = some y → parent x = some y)
    (h : Relation.TransGen (Up parent') x y) :
    Relation.TransGen (Up parent) x y ∨
      Relation.ReflTransGen (Up parent) x k ∧
        ∃ p, parent' k = some p ∧ Relation.ReflTransGen (Up parent) p y := by
  induction h with
  | single hxy =>
    rename_i y
    by_cases hx : x = k
    · subst hx
      exact Or.inr ⟨.refl, y, hxy, .refl⟩
    · exact Or.inl (.single (hother x hx y hxy))
  | tail hxb hbc ih =>
    rename_i b c
    by_cases hb : b = k
    · subst hb
      rcases ih with hwalk | ⟨hwalk, -⟩
      · exact Or.inr ⟨hwalk.to_reflTransGen, c, hbc, .refl⟩
      · exact Or.inr ⟨hwalk, c, hbc, .refl⟩
    · have hstep : Up parent b c := hother b hb c hbc
      rcases ih with hwalk | ⟨hwalk, p, hp, hrest⟩
      · exact Or.inl (hwalk.tail hstep)
      · exact Or.inr ⟨hwalk, p, hp, hrest.tail hstep⟩

/-- A new parent for one node, from which no walk leads to the node. -/
theorem Acyclic.update (h : Acyclic parent)
    (hother : ∀ x, x ≠ k → ∀ y, parent' x = some y → parent x = some y)
    (hk : ∀ p, parent' k = some p → ¬ Relation.ReflTransGen (Up parent) p k) :
    Acyclic parent' := by
  intro x hcycle
  rcases walk_of_update hother hcycle with hwalk | ⟨htoK, p, hp, hfromP⟩
  · exact h x hwalk
  · exact hk p hp (hfromP.trans htoK)

/-- The nodes from a node up to a root. -/
inductive Path (parent : α → Option α) : α → List α → Prop where
  | root {x : α} (h : parent x = none) : Path parent x [x]
  | child {x y : α} {path : List α} (h : parent y = some x) (above : Path parent x path) :
      Path parent y (y :: path)

namespace Path

variable {path path' : List α}

theorem unique (h : Path parent x path) (h' : Path parent x path') : path = path' := by
  induction h generalizing path' with
  | root hroot =>
    cases h' with
    | root => rfl
    | child hparent => cases hroot.symm.trans hparent
  | child hparent _ ih =>
    cases h' with
    | root hroot => cases hroot.symm.trans hparent
    | child hparent' habove =>
      cases hparent.symm.trans hparent'
      rw [ih habove]

/-- The path from a node on the way is a part of it. -/
theorem of_mem (h : Path parent x path) (hy : y ∈ path) :
    ∃ rest, Path parent y rest ∧ rest.length ≤ path.length := by
  induction h with
  | root hroot =>
    cases List.mem_singleton.mp hy
    exact ⟨_, .root hroot, Nat.le_refl _⟩
  | child hparent habove ih =>
    rcases List.mem_cons.mp hy with rfl | hrest
    · exact ⟨_, .child hparent habove, Nat.le_refl _⟩
    · obtain ⟨rest, hpath, hlength⟩ := ih hrest
      exact ⟨rest, hpath, Nat.le_succ_of_le hlength⟩

theorem nodup (h : Path parent x path) : path.Nodup := by
  induction h with
  | root => exact List.nodup_singleton _
  | child hparent habove ih =>
    refine List.nodup_cons.mpr ⟨fun hmem => ?_, ih⟩
    -- a node that is above itself would have a path shorter than its own
    obtain ⟨rest, hrest, hlength⟩ := habove.of_mem hmem
    cases (child hparent habove).unique hrest
    exact absurd hlength (Nat.not_succ_le_self _)

/-- What is above a node is on its path. -/
theorem mem_of_up (h : Path parent x path) (hup : Relation.TransGen (Up parent) x y) :
    y ∈ path.tail := by
  induction h with
  | root hroot =>
    obtain ⟨z, hz, -⟩ := Relation.TransGen.head'_iff.mp hup
    cases hroot.symm.trans hz
  | child hparent habove ih =>
    obtain ⟨z, hz, hrest⟩ := Relation.TransGen.head'_iff.mp hup
    cases hparent.symm.trans hz
    rcases Relation.reflTransGen_iff_eq_or_transGen.mp hrest with rfl | hrest
    · cases habove <;> exact List.mem_cons_self
    · exact List.mem_of_mem_tail (ih hrest)

/-- No walk from a node on a path comes back to it. -/
theorem not_up_self (h : Path parent x path) : ¬ Relation.TransGen (Up parent) x x := by
  intro hup
  have htail := h.mem_of_up hup
  have hnodup := h.nodup
  cases h with
  | root => cases htail
  | child => exact (List.nodup_cons.mp hnodup).1 htail

/-- A path has at most as many nodes as there are. -/
theorem length_le (h : Path parent x path) {nodes : List α} (hnodes : ∀ y ∈ path, y ∈ nodes) :
    path.length ≤ nodes.length :=
  (List.subperm_of_subset h.nodup hnodes).length_le

end Path

theorem up_rightUnique : Relator.RightUnique (Up parent) :=
  fun _ _ _ h h' => Option.some.inj (h.symm.trans h')

/-- Nothing is below two children of a node that is not below itself. -/
theorem siblings_apart {x' c : α} (hc : ¬ Relation.TransGen (Up parent) c c)
    (hx : Up parent x c) (hx' : Up parent x' c) (hy : Relation.ReflTransGen (Up parent) y x)
    (hy' : Relation.ReflTransGen (Up parent) y x') : x = x' := by
  have hcycle : ∀ {a b}, Up parent a c → Up parent b c →
      Relation.ReflTransGen (Up parent) a b → a = b := by
    intro a b ha hb hab
    rcases Relation.reflTransGen_iff_eq_or_transGen.mp hab with heq | hab
    · exact heq.symm
    · obtain ⟨z, hz, hrest⟩ := Relation.TransGen.head'_iff.mp hab
      cases ha.symm.trans hz
      exact absurd (Relation.TransGen.tail' hrest hb) hc
  rcases Relation.ReflTransGen.total_of_right_unique up_rightUnique hy hy' with h | h
  · exact hcycle hx hx' h
  · exact (hcycle hx' hx h).symm

/-- Nothing is below two roots. -/
theorem roots_apart {x' : α} (hx : parent x = none) (hx' : parent x' = none)
    (hy : Relation.ReflTransGen (Up parent) y x) (hy' : Relation.ReflTransGen (Up parent) y x') :
    x = x' := by
  have htop : ∀ {a b}, parent a = none → Relation.ReflTransGen (Up parent) a b → a = b := by
    intro a b ha hab
    rcases Relation.ReflTransGen.cases_head hab with heq | ⟨z, hz, -⟩
    · exact heq
    · cases ha.symm.trans hz
  rcases Relation.ReflTransGen.total_of_right_unique up_rightUnique hy hy' with h | h
  · exact htop hx h
  · exact (htop hx' h).symm

end Forest
