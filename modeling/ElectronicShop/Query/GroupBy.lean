import Mathlib.Algebra.BigOperators.Group.Finset.Piecewise
import Mathlib.Data.List.Dedup

/-!
# Grouped queries

`SELECT key, aggregate ... GROUP BY key` has one row for each key that occurs, in an order
that is the database's own. The groups partition the rows, so an aggregate that is a sum
adds up to the sum over all rows: over the groups themselves, and over any list of keys that
the groups are looked up for in a dictionary, if it has every key of the rows once.
-/

namespace Query

/-- The order in which the rows of a query without `ORDER BY` come. -/
structure RowOrder where
  arrange : {α : Type} → List α → List α
  perm : ∀ {α : Type} (rows : List α), (arrange rows).Perm rows

/-- As they are stored. -/
def RowOrder.stored : RowOrder := ⟨fun rows => rows, fun _ => .rfl⟩

variable {α κ β M : Type} [DecidableEq κ]

/-- The rows with a key. -/
def group (key : α → κ) (rows : List α) (k : κ) : List α := rows.filter fun r => key r = k

/-- `SELECT key, aggregate FROM rows GROUP BY key`. -/
def groupBy (order : RowOrder) (key : α → κ) (aggregate : List α → β) (rows : List α) :
    List (κ × β) :=
  order.arrange ((rows.map key).dedup.map fun k => (k, aggregate (group key rows k)))

/-- `{k: value for k, value in rows}.get(k)`: the last value of a key is the one kept. -/
def lookup (rows : List (κ × β)) (k : κ) : Option β :=
  (rows.reverse.find? fun r => r.1 = k).map Prod.snd

/-! ## What is in the groups -/

theorem mem_groupBy {order : RowOrder} {key : α → κ} {aggregate : List α → β} {rows : List α}
    {k : κ} {b : β} :
    (k, b) ∈ groupBy order key aggregate rows ↔
      k ∈ rows.map key ∧ b = aggregate (group key rows k) := by
  unfold groupBy
  rw [(order.perm _).mem_iff, List.mem_map]
  constructor
  · rintro ⟨k', hk', heq⟩
    cases heq
    exact ⟨List.mem_dedup.mp hk', rfl⟩
  · rintro ⟨hk, rfl⟩
    exact ⟨k, List.mem_dedup.mpr hk, rfl⟩

theorem nodup_keys_groupBy (order : RowOrder) (key : α → κ) (aggregate : List α → β)
    (rows : List α) : ((groupBy order key aggregate rows).map Prod.fst).Nodup := by
  unfold groupBy
  rw [((order.perm _).map Prod.fst).nodup_iff, List.map_map]
  exact (List.map_id' _).symm ▸ List.nodup_dedup _

/-- In a dictionary without repeated keys, the entries are what is looked up. -/
theorem lookup_eq_some_iff {rows : List (κ × β)} (hnodup : (rows.map Prod.fst).Nodup) {k : κ}
    {b : β} : lookup rows k = some b ↔ (k, b) ∈ rows := by
  unfold lookup
  rw [Option.map_eq_some_iff]
  constructor
  · rintro ⟨row, hfind, rfl⟩
    have hkey : row.1 = k := of_decide_eq_true (List.find?_some hfind :)
    rw [← hkey]
    exact List.mem_reverse.mp (List.mem_of_find?_eq_some hfind)
  · intro hmem
    obtain ⟨row, hfind⟩ : ∃ row, rows.reverse.find? (fun r => r.1 = k) = some row := by
      rw [← Option.isSome_iff_exists, List.find?_isSome]
      exact ⟨(k, b), List.mem_reverse.mpr hmem, decide_eq_true rfl⟩
    have hkey : row.1 = k := of_decide_eq_true (List.find?_some hfind :)
    have hrow := List.mem_reverse.mp (List.mem_of_find?_eq_some hfind)
    have heq : row = (k, b) := List.inj_on_of_nodup_map hnodup hrow hmem hkey
    exact ⟨row, hfind, congrArg Prod.snd heq⟩

theorem lookup_groupBy {order : RowOrder} {key : α → κ} {aggregate : List α → β} {rows : List α}
    {k : κ} {b : β} :
    lookup (groupBy order key aggregate rows) k = some b ↔
      k ∈ rows.map key ∧ b = aggregate (group key rows k) := by
  rw [lookup_eq_some_iff (nodup_keys_groupBy ..), mem_groupBy]

/-! ## Sums over the groups -/

variable [AddCommMonoid M] {f : α → M}

/-- The rows whose keys are in the list, added up key by key. -/
theorem sum_group (key : α → κ) (f : α → M) {keys : List κ} (hkeys : keys.Nodup) (rows : List α)
    (hrows : ∀ r ∈ rows, key r ∈ keys) :
    (keys.map fun k => ((group key rows k).map f).sum).sum = (rows.map f).sum := by
  induction rows with
  | nil => simp [group]
  | cons r rest ih =>
    have hsplit : ∀ k, ((group key (r :: rest) k).map f).sum =
        (if key r = k then f r else 0) + ((group key rest k).map f).sum := by
      intro k
      unfold group
      by_cases hk : key r = k
      · simp [hk]
      · simp [hk]
    have hone : (keys.map fun k => if key r = k then f r else 0).sum = f r := by
      rw [← List.sum_toFinset _ hkeys, Finset.sum_ite_eq,
        if_pos (List.mem_toFinset.mpr (hrows r List.mem_cons_self))]
    simp only [hsplit, List.sum_map_add, hone, ih fun x hx => hrows x (List.mem_cons_of_mem _ hx),
      List.map_cons, List.sum_cons]

/-- The rows with a key of the list, among others, added up key by key. -/
theorem sum_group_of_mem (key : α → κ) (f : α → M) {keys : List κ} (hkeys : keys.Nodup)
    (rows : List α) :
    (keys.map fun k => ((group key rows k).map f).sum).sum =
      ((rows.filter fun r => key r ∈ keys).map f).sum := by
  rw [← sum_group key f hkeys _ fun r hr => of_decide_eq_true (List.mem_filter.mp hr).2]
  refine congrArg List.sum (List.map_congr_left fun k hk => ?_)
  unfold group
  rw [List.filter_filter]
  refine congrArg (fun rows => (rows.map f).sum) (List.filter_congr fun r _ => ?_)
  by_cases hr : key r = k
  · simp [hr, hk]
  · simp [hr]

variable (order : RowOrder) (key : α → κ)

/-- The groups whose keys satisfy `p` add up to the rows whose keys do. -/
theorem sum_groupBy_of {aggregate : List α → β} (value : β → M)
    (hvalue : ∀ rows, value (aggregate rows) = (rows.map f).sum) (p : κ → Prop) [DecidablePred p]
    (rows : List α) :
    (((groupBy order key aggregate rows).filter fun g => p g.1).map fun g => value g.2).sum =
      ((rows.filter fun r => p (key r)).map f).sum := by
  have hkeys : ((rows.map key).dedup.filter fun k => p k).Nodup := (List.nodup_dedup _).filter _
  have hrows : (rows.filter fun r => key r ∈ (rows.map key).dedup.filter fun k => p k) =
      rows.filter fun r => p (key r) := by
    refine List.filter_congr fun r hr => decide_eq_decide.mpr ?_
    simp only [List.mem_filter, List.mem_dedup, decide_eq_true_eq]
    exact and_iff_right (List.mem_map_of_mem hr)
  unfold groupBy
  rw [(((order.perm _).filter _).map _).sum_eq, List.filter_map, List.map_map, ← hrows,
    ← sum_group_of_mem key f hkeys rows]
  simp only [Function.comp_def, hvalue]

/-- A column of the groups that is a sum adds up to the sum over all rows. -/
theorem sum_groupBy {aggregate : List α → β} (value : β → M)
    (hvalue : ∀ rows, value (aggregate rows) = (rows.map f).sum) (rows : List α) :
    ((groupBy order key aggregate rows).map fun g => value g.2).sum = (rows.map f).sum := by
  unfold groupBy
  rw [((order.perm _).map _).sum_eq, List.map_map]
  simp only [Function.comp_def, hvalue]
  exact sum_group key f (List.nodup_dedup _) rows fun r hr =>
    List.mem_dedup.mpr (List.mem_map_of_mem hr)

/-- What is looked up for a key, where a key without rows counts as zero. -/
theorem getD_lookup_groupBy {total : List α → M} (htotal : ∀ rows, total rows = (rows.map f).sum)
    (rows : List α) (k : κ) :
    (lookup (groupBy order key total rows) k).getD 0 = ((group key rows k).map f).sum := by
  cases hlookup : lookup (groupBy order key total rows) k with
  | some b =>
    obtain ⟨-, rfl⟩ := lookup_groupBy.mp hlookup
    exact htotal _
  | none =>
    have hnone : group key rows k = [] := by
      refine List.filter_eq_nil_iff.mpr fun r hr hk => ?_
      have hsome : lookup (groupBy order key total rows) k = some (total (group key rows k)) :=
        lookup_groupBy.mpr ⟨List.mem_map.mpr ⟨r, hr, of_decide_eq_true hk⟩, rfl⟩
      rw [hlookup] at hsome
      cases hsome
    rw [hnone]
    rfl

/-- The values that are looked up add up, too. -/
theorem sum_lookup_groupBy {total : List α → M} (htotal : ∀ rows, total rows = (rows.map f).sum)
    {keys : List κ} (hkeys : keys.Nodup) {rows : List α} (hrows : ∀ r ∈ rows, key r ∈ keys) :
    (keys.map fun k => (lookup (groupBy order key total rows) k).getD 0).sum =
      (rows.map f).sum := by
  rw [← sum_group key f hkeys rows hrows]
  exact congrArg List.sum (List.map_congr_left fun k _ =>
    getD_lookup_groupBy order key htotal rows k)

end Query
