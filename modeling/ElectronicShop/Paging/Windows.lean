import Mathlib.Data.List.Nodup
import Mathlib.Data.List.Sort

/-!
# Pages of sorted rows

Rows are sorted by a preorder and read page by page, each time sorted anew. Rows that are equal
in the order come in any order then, and not always in the same one. The pages partition the
rows nevertheless if equal rows are on one page; and if they are not, the pages may not.
-/

namespace Paging

variable {α : Type}

/-- Skip some pages of a size, and read one. -/
def window (size k : Nat) (xs : List α) : List α := (xs.drop (k * size)).take size

/-- The rows, sorted. -/
structure Sorting (R : α → α → Prop) (rows xs : List α) : Prop where
  perm : xs.Perm rows
  sorted : xs.Pairwise R

/-- Some pages, one after the other, each read from its own sorting. -/
def pages (size n : Nat) (order : Nat → List α) : List α :=
  (List.range n).flatMap fun k => window size k (order k)

theorem mem_window {size k : Nat} {xs : List α} {x : α} (hsize : 0 < size) :
    x ∈ window size k xs ↔ ∃ front back, xs = front ++ x :: back ∧ front.length / size = k := by
  unfold window
  constructor
  · intro h
    obtain ⟨front, back, hsplit⟩ := List.append_of_mem h
    have hlt : front.length < size := by
      have hlength := congrArg List.length hsplit
      simp only [List.length_append, List.length_cons] at hlength
      have hle := List.length_take_le size (xs.drop (k * size))
      omega
    have hskipped : (xs.take (k * size)).length = k * size := by
      have hpos := List.length_pos_of_mem (List.mem_of_mem_take h)
      rw [List.length_drop] at hpos
      exact List.length_take_of_le (by omega)
    refine ⟨xs.take (k * size) ++ front, back ++ (xs.drop (k * size)).drop size, ?_, ?_⟩
    · rw [List.append_assoc, ← List.cons_append, ← List.append_assoc front, ← hsplit,
        List.take_append_drop, List.take_append_drop]
    · rw [List.length_append, hskipped, Nat.add_comm, Nat.add_mul_div_right _ _ hsize,
        Nat.div_eq_of_lt hlt, Nat.zero_add]
  · rintro ⟨front, back, rfl, rfl⟩
    have hle : front.length / size * size ≤ front.length := Nat.div_mul_le_self _ _
    have hmod : (front.drop (front.length / size * size)).length < size := by
      rw [List.length_drop]
      have hdiv := Nat.div_add_mod' front.length size
      have hlt := Nat.mod_lt front.length hsize
      omega
    rw [List.drop_append_of_le_length hle, List.take_append]
    refine List.mem_append_right _ ?_
    obtain ⟨n, hn⟩ := Nat.exists_eq_succ_of_ne_zero (Nat.sub_ne_zero_of_lt hmod)
    rw [hn, List.take_succ_cons]
    exact List.mem_cons_self

theorem mem_pages {size n : Nat} {order : Nat → List α} {x : α} :
    x ∈ pages size n order ↔ ∃ k < n, x ∈ window size k (order k) := by
  simp [pages]

/-- The pages of one sorting are the rows in its order. -/
theorem pages_const {size n : Nat} {xs : List α} (h : xs.length ≤ n * size) :
    pages size n (fun _ => xs) = xs := by
  have hpages : ∀ n, pages size n (fun _ => xs) = xs.take (n * size) := by
    intro n
    induction n with
    | zero => simp [pages]
    | succ n ih =>
      unfold pages at ih ⊢
      rw [List.range_succ, List.flatMap_append, ih, List.flatMap_singleton, window, Nat.succ_mul,
        List.take_add]
  rw [hpages, List.take_of_length_le h]

section Ties

variable {R : α → α → Prop} [DecidableRel R] {rows xs front back : List α} {x y : α} {size n : Nat}

/-- How many rows come before a row in every sorting. -/
def before (R : α → α → Prop) [DecidableRel R] (rows : List α) (x : α) : Nat :=
  rows.countP fun y => R y x ∧ ¬ R x y

/-- How many do not come after it, itself and those equal to it included. -/
def upTo (R : α → α → Prop) [DecidableRel R] (rows : List α) (x : α) : Nat :=
  rows.countP fun y => R y x

/-- Rows that are equal in the order are on one page. -/
def Together (R : α → α → Prop) [DecidableRel R] (rows : List α) (size : Nat) : Prop :=
  ∀ x ∈ rows, before R rows x / size = (upTo R rows x - 1) / size

omit [DecidableRel R] in
theorem Sorting.sorted_split (h : Sorting R rows (front ++ x :: back)) :
    (∀ y ∈ front, R y x) ∧ ∀ y ∈ back, R x y := by
  obtain ⟨-, htail, hfront⟩ := List.pairwise_append.mp h.sorted
  exact ⟨fun y hy => hfront y hy x List.mem_cons_self, (List.pairwise_cons.mp htail).1⟩

/-- Where a row is in a sorting. -/
theorem Sorting.position [Std.Total R] (h : Sorting R rows (front ++ x :: back)) :
    before R rows x ≤ front.length ∧ front.length < upTo R rows x := by
  have hrefl : R x x := (Std.Total.total x x).elim id id
  obtain ⟨hfront, hback⟩ := h.sorted_split
  unfold before upTo
  rw [← h.perm.countP_eq, ← h.perm.countP_eq]
  constructor
  · have hnone : (x :: back).countP (fun y => R y x ∧ ¬ R x y) = 0 := by
      refine List.countP_eq_zero.mpr (List.forall_mem_cons.mpr ⟨?_, fun y hy => ?_⟩)
      · simp [hrefl]
      · simp [hback y hy]
    rw [List.countP_append, hnone]
    exact List.countP_le_length
  · have hall : front.countP (fun y => R y x) = front.length :=
      List.countP_eq_length.mpr fun y hy => decide_eq_true (hfront y hy)
    have hself : 0 < (x :: back).countP (fun y => R y x) :=
      List.countP_pos_iff.mpr ⟨x, List.mem_cons_self, decide_eq_true hrefl⟩
    rw [List.countP_append, hall]
    omega

/-- The rows on a page are the same in every sorting. -/
theorem Together.mem_window_iff [Std.Total R] (h : Together R rows size) (hsize : 0 < size)
    {k : Nat} (hsorting : Sorting R rows xs) :
    x ∈ window size k xs ↔ x ∈ rows ∧ before R rows x / size = k := by
  have hplace : ∀ front back, xs = front ++ x :: back → x ∈ rows ∧
      before R rows x / size = front.length / size := by
    rintro front back rfl
    have hmem : x ∈ rows := hsorting.perm.subset (by simp)
    obtain ⟨hbefore, hupTo⟩ := hsorting.position
    refine ⟨hmem, Nat.le_antisymm (Nat.div_le_div_right hbefore) ?_⟩
    rw [h x hmem]
    exact Nat.div_le_div_right (by omega)
  rw [mem_window hsize]
  constructor
  · rintro ⟨front, back, hsplit, rfl⟩
    exact hplace front back hsplit
  · rintro ⟨hmem, rfl⟩
    obtain ⟨front, back, hsplit⟩ := List.append_of_mem (hsorting.perm.symm.subset hmem)
    exact ⟨front, back, hsplit, (hplace front back hsplit).2.symm⟩

omit [DecidableRel R] in
/-- Two neighbours that are equal in the order may as well come the other way round. -/
theorem Sorting.swap (h : Sorting R rows (front ++ x :: y :: back)) (hyx : R y x) :
    Sorting R rows (front ++ y :: x :: back) where
  perm := ((List.Perm.swap x y back).append_left front).trans h.perm
  sorted := by
    have hsorted := h.sorted
    simp only [List.pairwise_append, List.pairwise_cons, List.forall_mem_cons] at hsorted ⊢
    obtain ⟨hfront, ⟨⟨-, hx⟩, hy, hback⟩, happend⟩ := hsorted
    exact ⟨hfront, ⟨⟨hyx, hy⟩, hx, hback⟩, fun z hz => ⟨(happend z hz).2.1, (happend z hz).1,
      (happend z hz).2.2⟩⟩

end Ties

end Paging
