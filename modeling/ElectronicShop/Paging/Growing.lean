import ElectronicShop.Paging.Windows
import Mathlib.Order.RelClasses

/-!
# Pages of rows that become more

Between one page and the next, rows are added, and none of the old ones is taken away or moved in
the order. A row is then never further to the front than it was, so that it cannot slip past a
reader who begins with the first page: there is a page that shows it.
-/

namespace Paging

/-- A sequence that begins at 0 or above and never falls meets the diagonal before it is below. -/
theorem exists_eq_self {f : Nat → Nat} (hf : ∀ k, f k ≤ f (k + 1)) {n : Nat} (hn : f n ≤ n) :
    ∃ k ≤ n, f k = k := by
  induction n with
  | zero => exact ⟨0, le_rfl, Nat.le_zero.mp hn⟩
  | succ n ih =>
    by_cases hle : f n ≤ n
    · obtain ⟨k, hk, heq⟩ := ih hle
      exact ⟨k, hk.step, heq⟩
    · have hstep := hf n
      exact ⟨n + 1, le_rfl, by omega⟩

section Growing

variable {α β : Type} {key : β → α} {R : α → α → Prop} {rows order : Nat → List β}
  {size n : Nat} {x : β}

/-- Rows are added, and the old ones keep their keys. -/
def Growing (key : β → α) (rows : Nat → List β) : Prop :=
  ∀ k, ((rows k).map key).Subperm ((rows (k + 1)).map key)

theorem Growing.exists_row (h : Growing key rows) (hx : x ∈ rows 0) (k : Nat) :
    ∃ y ∈ rows k, key y = key x := by
  have hkey : key x ∈ (rows k).map key := by
    induction k with
    | zero => exact List.mem_map_of_mem hx
    | succ k ih => exact (h k).subset ih
  exact List.mem_map.mp hkey

section

variable [DecidableRel R]

instance Together.decidable (rows : List α) (size : Nat) : Decidable (Together R rows size) :=
  inferInstanceAs (Decidable (∀ _ ∈ _, _))

theorem before_preimage (rows : List β) (x : β) :
    before (Order.Preimage key R) rows x = before R (rows.map key) (key x) := by
  unfold before
  rw [List.countP_map]
  rfl

/-- More rows come before a row than did. -/
theorem Growing.before_le (h : Growing key rows) (a : α) (k : Nat) :
    before R ((rows k).map key) a ≤ before R ((rows (k + 1)).map key) a :=
  (h k).countP_le _

/-- The pages up to the last one are read, each at its time. A row that there was at first is on
    one of them. -/
theorem Growing.exists_page [Std.Total R] (h : Growing key rows) (hsize : 0 < size)
    (htogether : ∀ k ≤ n, Together (Order.Preimage key R) (rows k) size)
    (hsorting : ∀ k ≤ n, Sorting (Order.Preimage key R) (rows k) (order k))
    (hlast : (rows n).length ≤ (n + 1) * size) (hx : x ∈ rows 0) :
    ∃ k ≤ n, ∃ y ∈ window size k (order k), key y = key x := by
  have hmono : ∀ k, before R ((rows k).map key) (key x) / size ≤
      before R ((rows (k + 1)).map key) (key x) / size := fun k =>
    Nat.div_le_div_right (h.before_le (key x) k)
  have hend : before R ((rows n).map key) (key x) / size ≤ n := by
    obtain ⟨y, hy, hkey⟩ := h.exists_row hx n
    have hlasts := hsorting n le_rfl
    obtain ⟨front, back, hsplit⟩ := List.append_of_mem (hlasts.perm.symm.subset hy)
    have hposition := (hsplit ▸ hlasts).position.1
    have hlength := hlasts.perm.length_eq
    rw [hsplit, List.length_append, List.length_cons] at hlength
    rw [before_preimage, hkey] at hposition
    have hlt : before R ((rows n).map key) (key x) < (n + 1) * size := by omega
    exact Nat.lt_succ_iff.mp ((Nat.div_lt_iff_lt_mul hsize).mpr hlt)
  obtain ⟨k, hk, heq⟩ := exists_eq_self hmono hend
  obtain ⟨y, hy, hkey⟩ := h.exists_row hx k
  refine ⟨k, hk, y, ((htogether k hk).mem_window_iff hsize (hsorting k hk)).mpr ⟨hy, ?_⟩, hkey⟩
  rw [before_preimage, hkey, heq]

end

end Growing

end Paging
