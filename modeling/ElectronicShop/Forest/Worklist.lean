import ElectronicShop.Loop.While
import Mathlib.Data.List.Perm.Subperm
import Mathlib.Data.List.Nodup
import Mathlib.Logic.Relation

/-!
# Searching with a list of what is still to visit

The search takes a node from the frontier, and adds those of its successors that it has not
found before to what it has found and to the frontier. A node enters the frontier once, so
as many steps as there are nodes, and one for the start, are enough, and what has been found
then is what can be reached (`mem_search_iff`).
-/

namespace Forest

variable {α : Type} [DecidableEq α]

/-- Add the successors that have not been found. -/
def visit (found frontier : List α) : List α → List α × List α
  | [] => (found, frontier)
  | x :: rest => if x ∈ found then visit found frontier rest
      else visit (x :: found) (x :: frontier) rest

/-- One iteration of the search. -/
def next (succ : α → List α) : List α × List α → Option (List α × List α)
  | (_, []) => none
  | (found, x :: frontier) => some (visit found frontier (succ x))

/-- Search until nothing is left to visit, or `fuel` is used up. -/
def search (succ : α → List α) : Nat → List α → List α → List α
  | _, found, [] => found
  | 0, found, _ :: _ => found
  | fuel + 1, found, x :: frontier =>
    let (found, frontier) := visit found frontier (succ x)
    search succ fuel found frontier

section Visit

variable {found frontier xs : List α}

/-- As many nodes are found as enter the frontier. -/
theorem length_visit (found frontier xs : List α) :
    (visit found frontier xs).1.length + frontier.length =
      (visit found frontier xs).2.length + found.length := by
  induction xs generalizing found frontier with
  | nil => exact Nat.add_comm ..
  | cons x rest ih =>
    simp only [visit]
    split
    · exact ih found frontier
    · have hrest := ih (x :: found) (x :: frontier)
      simp only [List.length_cons] at hrest
      omega

theorem nodup_visit (h : found.Nodup) : (visit found frontier xs).1.Nodup := by
  induction xs generalizing found frontier with
  | nil => exact h
  | cons x rest ih =>
    simp only [visit]
    split
    · exact ih h
    · exact ih (List.nodup_cons.mpr ⟨‹_›, h⟩)

/-- The nodes found are those that were, and the successors. -/
theorem mem_visit {y : α} : y ∈ (visit found frontier xs).1 ↔ y ∈ found ∨ y ∈ xs := by
  induction xs generalizing found frontier with
  | nil => simp [visit]
  | cons x rest ih =>
    simp only [visit]
    split
    · rw [ih]
      constructor
      · rintro (h | h)
        · exact Or.inl h
        · exact Or.inr (List.mem_cons_of_mem _ h)
      · rintro (h | h)
        · exact Or.inl h
        · rcases List.mem_cons.mp h with rfl | h
          · exact Or.inl ‹_›
          · exact Or.inr h
    · rw [ih, List.mem_cons, List.mem_cons]
      tauto

/-- What was to be visited is still. -/
theorem mem_visit_frontier {y : α} (h : y ∈ frontier) : y ∈ (visit found frontier xs).2 := by
  induction xs generalizing found frontier with
  | nil => exact h
  | cons x rest ih =>
    simp only [visit]
    split
    · exact ih h
    · exact ih (List.mem_cons_of_mem _ h)

/-- What is to be visited was so before, or has been found. -/
theorem of_mem_visit_frontier {y : α} (h : y ∈ (visit found frontier xs).2) :
    y ∈ frontier ∨ y ∈ (visit found frontier xs).1 := by
  induction xs generalizing found frontier with
  | nil => exact Or.inl h
  | cons x rest ih =>
    simp only [visit] at h ⊢
    split at h
    · rw [if_pos ‹_›]
      exact ih h
    · rw [if_neg ‹_›]
      rcases ih h with hold | hnew
      · rcases List.mem_cons.mp hold with rfl | hold
        · exact Or.inr (mem_visit.mpr (Or.inl (List.mem_cons_self ..)))
        · exact Or.inl hold
      · exact Or.inr hnew

/-- What has been found newly is to be visited. -/
theorem mem_frontier_of_new {y : α} (h : y ∈ (visit found frontier xs).1) (hnew : y ∉ found) :
    y ∈ (visit found frontier xs).2 := by
  induction xs generalizing found frontier with
  | nil => exact absurd h hnew
  | cons x rest ih =>
    simp only [visit] at h ⊢
    split at h
    · rw [if_pos ‹_›]
      exact ih h hnew
    · rw [if_neg ‹_›]
      by_cases hyx : y = x
      · subst hyx
        exact mem_visit_frontier (List.mem_cons_self ..)
      · exact ih h (by simp [hyx, hnew])

end Visit

section Search

variable {succ : α → List α} {start : α} {nodes : List α}

/-- What holds while the search goes on, with `fuel` steps left. -/
structure Searching (succ : α → List α) (start : α) (nodes : List α) (fuel : Nat)
    (found frontier : List α) : Prop where
  reached : ∀ y ∈ found, Relation.TransGen (fun a b => b ∈ succ a) start y
  known : ∀ y ∈ frontier, y = start ∨ y ∈ found
  nodup : found.Nodup
  within : ∀ y ∈ found, y ∈ nodes
  /-- A node that is not to be visited any more has been. -/
  visited : ∀ y, y = start ∨ y ∈ found → y ∈ frontier ∨ ∀ z ∈ succ y, z ∈ found
  enough : frontier.length + nodes.length ≤ fuel + found.length

omit [DecidableEq α] in
theorem searching_start (succ : α → List α) (start : α) :
    Searching succ start nodes (nodes.length + 1) [] [start] where
  reached _ h := nomatch h
  known y h := Or.inl (List.mem_singleton.mp h)
  nodup := List.nodup_nil
  within _ h := nomatch h
  visited y h := h.elim (fun heq => Or.inl (List.mem_singleton.mpr heq)) fun h => nomatch h
  enough := by simp [Nat.add_comm]

/-- A step keeps it. -/
theorem Searching.step (hsucc : ∀ x, ∀ y ∈ succ x, y ∈ nodes) {fuel : Nat} {x : α}
    {found frontier : List α}
    (h : Searching succ start nodes (fuel + 1) found (x :: frontier)) :
    Searching succ start nodes fuel (visit found frontier (succ x)).1
      (visit found frontier (succ x)).2 where
  reached y hy := by
    rcases mem_visit.mp hy with hold | hnew
    · exact h.reached y hold
    · rcases h.known x (List.mem_cons_self ..) with rfl | hx
      · exact .single hnew
      · exact (h.reached x hx).tail hnew
  known y hy := by
    rcases of_mem_visit_frontier hy with hold | hnew
    · rcases h.known y (List.mem_cons_of_mem _ hold) with heq | hfound
      · exact Or.inl heq
      · exact Or.inr (mem_visit.mpr (Or.inl hfound))
    · exact Or.inr hnew
  nodup := nodup_visit h.nodup
  within y hy := by
    rcases mem_visit.mp hy with hold | hnew
    · exact h.within y hold
    · exact hsucc x y hnew
  visited y hy := by
    have hstill : (y = start ∨ y ∈ found) →
        y ∈ (visit found frontier (succ x)).2 ∨
          ∀ z ∈ succ y, z ∈ (visit found frontier (succ x)).1 := by
      intro hold
      rcases h.visited y hold with hfrontier | hclosed
      · rcases List.mem_cons.mp hfrontier with rfl | hfrontier
        · exact Or.inr fun z hz => mem_visit.mpr (Or.inr hz)
        · exact Or.inl (mem_visit_frontier hfrontier)
      · exact Or.inr fun z hz => mem_visit.mpr (Or.inl (hclosed z hz))
    rcases hy with heq | hfound
    · exact hstill (Or.inl heq)
    · by_cases hold : y ∈ found
      · exact hstill (Or.inr hold)
      · exact Or.inl (mem_frontier_of_new hfound hold)
  enough := by
    have hlength := length_visit found frontier (succ x)
    have henough := h.enough
    simp only [List.length_cons] at henough
    omega

omit [DecidableEq α] in
/-- When nothing is left to visit, what has been found is what can be reached. -/
theorem Searching.mem_found_iff {fuel : Nat} {found : List α}
    (h : Searching succ start nodes fuel found []) {y : α} :
    y ∈ found ↔ Relation.TransGen (fun a b => b ∈ succ a) start y := by
  have hclosed : ∀ x, x = start ∨ x ∈ found → ∀ z ∈ succ x, z ∈ found :=
    fun x hx => (h.visited x hx).resolve_left List.not_mem_nil
  constructor
  · exact h.reached y
  · intro hpath
    induction hpath with
    | single hstep => exact hclosed start (Or.inl rfl) _ hstep
    | tail _ hstep ih => exact hclosed _ (Or.inr ih) _ hstep

theorem search_nil (fuel : Nat) (found : List α) : search succ fuel found [] = found := by
  cases fuel <;> rfl

omit [DecidableEq α] in
/-- Without fuel, nothing is left to visit. -/
theorem Searching.frontier_nil {found frontier : List α}
    (h : Searching succ start nodes 0 found frontier) : frontier = [] := by
  have hlength : found.length ≤ nodes.length := (h.nodup.subperm h.within).length_le
  have henough := h.enough
  refine List.eq_nil_of_length_eq_zero ?_
  omega

theorem next_eq_none {s : List α × List α} : next succ s = none ↔ s.2 = [] := by
  obtain ⟨found, frontier⟩ := s
  cases frontier <;> simp [next]

/-- The loop ends, with as many iterations as there is fuel at most. -/
theorem Searching.ends (hsucc : ∀ x, ∀ y ∈ succ x, y ∈ nodes) {fuel : Nat}
    {found frontier : List α} (h : Searching succ start nodes fuel found frontier) :
    ∃ n found' left, n ≤ fuel ∧ Loop.Ends (next succ) n (found, frontier) (found', []) ∧
      Searching succ start nodes left found' [] := by
  obtain ⟨n, ⟨found', frontier'⟩, left, hn, hends, hleft⟩ := Loop.exists_ends
    (I := fun fuel s => Searching succ start nodes fuel s.1 s.2)
    (fun fuel s s' hs hnext => by
      obtain ⟨found, _ | ⟨x, frontier⟩⟩ := s
      · cases hnext
      · cases hnext
        exact hs.step hsucc)
    (fun s hs => next_eq_none.mpr hs.frontier_nil) (s := (found, frontier)) h
  obtain rfl : frontier' = [] := next_eq_none.mp hends.stopped
  exact ⟨n, found', left, hn, hends, hleft⟩

/-- With fuel for all iterations, `search` is the loop. -/
theorem search_of_ends {n fuel : Nat} {s t : List α × List α} (h : Loop.Ends (next succ) n s t)
    (hfuel : n ≤ fuel) : search succ fuel s.1 s.2 = t.1 := by
  induction h generalizing fuel with
  | done stop => rw [next_eq_none.mp stop, search_nil]
  | @step n s s' t iterate rest ih =>
    obtain ⟨found, _ | ⟨x, frontier⟩⟩ := s
    · cases iterate
    · cases iterate
      cases fuel with
      | zero => exact absurd hfuel (Nat.not_succ_le_zero n)
      | succ fuel => exact ih (Nat.le_of_succ_le_succ hfuel)

/-- With a step for every node, and one for the start, the search finds what can be reached. -/
theorem mem_search_iff (hsucc : ∀ x, ∀ y ∈ succ x, y ∈ nodes) {y : α} :
    y ∈ search succ (nodes.length + 1) [] [start] ↔
      Relation.TransGen (fun a b => b ∈ succ a) start y := by
  obtain ⟨n, found, left, hn, hends, hleft⟩ :=
    (searching_start succ start).ends hsucc
  rw [search_of_ends hends hn]
  exact hleft.mem_found_iff

end Search

end Forest
