import Mathlib.Algebra.BigOperators.Group.List.Basic
import Mathlib.Data.List.Nodup

/-!
# Joined queries

`left JOIN right ON ...` pairs every row on the left with the rows on the right that match it.
On a key that occurs once on the right, a row has at most one match: where it has one, the
join neither loses nor repeats a row of the left side.
-/

namespace Query

variable {α β κ : Type}

/-- `FROM left JOIN right ON on`. -/
def join (left : List α) (right : List β) (on : α → β → Prop) [∀ a b, Decidable (on a b)] :
    List (α × β) :=
  left.flatMap fun a => (right.filter fun b => on a b).map (Prod.mk a)

variable {on : α → β → Prop} [∀ a b, Decidable (on a b)]

/-- What matches the key of a row is that row. -/
theorem filter_key {right : List β} {key : β → κ} (hkeys : (right.map key).Nodup) {p : β → Prop}
    [DecidablePred p] {b : β} (hb : b ∈ right) (hp : ∀ b', p b' ↔ key b' = key b) :
    right.filter (fun b' => p b') = [b] := by
  have hnodup : (right.filter fun b' => p b').Nodup := (List.Nodup.of_map key hkeys).filter _
  have hmem : ∀ b', b' ∈ right.filter (fun b' => p b') ↔ b' = b := by
    intro b'
    rw [List.mem_filter, decide_eq_true_iff, hp]
    constructor
    · rintro ⟨hb', hkey⟩
      exact List.inj_on_of_nodup_map hkeys hb' hb hkey
    · rintro rfl
      exact ⟨hb, rfl⟩
  exact List.perm_singleton.mp ((List.perm_ext_iff_of_nodup hnodup (List.nodup_singleton b)).mpr
    fun b' => by rw [hmem, List.mem_singleton])

/-- A join in which every row has its one match keeps the left side as it is. -/
theorem map_fst_join {left : List α} {right : List β}
    (hone : ∀ a ∈ left, ∃ b, right.filter (fun b' => on a b') = [b]) :
    (join left right on).map Prod.fst = left := by
  induction left with
  | nil => rfl
  | cons a rest ih =>
    obtain ⟨b, hb⟩ := hone a List.mem_cons_self
    have hrest := ih fun a' ha' => hone a' (List.mem_cons_of_mem a ha')
    unfold join at hrest ⊢
    rw [List.flatMap_cons, hb, List.map_append, hrest]
    rfl

theorem mem_join {left : List α} {right : List β} {row : α × β} :
    row ∈ join left right on ↔ row.1 ∈ left ∧ row.2 ∈ right ∧ on row.1 row.2 := by
  unfold join
  simp only [List.mem_flatMap, List.mem_map, List.mem_filter, decide_eq_true_iff]
  constructor
  · rintro ⟨a, ha, b, ⟨hb, hon⟩, rfl⟩
    exact ⟨ha, hb, hon⟩
  · rintro ⟨ha, hb, hon⟩
    exact ⟨row.1, ha, row.2, ⟨hb, hon⟩, rfl⟩

/-- Rows that are stored with the rows they belong to, joined with these, are paired with
    the rows they belong to. -/
theorem join_children {parents : List β} {children : β → List α}
    (hone : ∀ b ∈ parents, ∀ a ∈ children b, parents.filter (fun b' => on a b') = [b]) :
    join (parents.flatMap children) parents on =
      parents.flatMap fun b => (children b).map fun a => (a, b) := by
  have hsub : ∀ bs : List β, (∀ b ∈ bs, b ∈ parents) →
      join (bs.flatMap children) parents on =
        bs.flatMap fun b => (children b).map fun a => (a, b) := by
    intro bs hbs
    unfold join
    rw [List.flatMap_assoc]
    refine List.flatMap_congr fun b hb => ?_
    rw [List.map_eq_flatMap]
    refine List.flatMap_congr fun a ha => ?_
    rw [hone b (hbs b hb) a ha]
    rfl
  exact hsub parents fun _ hb => hb

/-- Where the rows that belong to a row add up to a value of it, they do so in the join, for
    whichever of the rows they belong to. -/
theorem sum_join_children {M : Type} [AddCommMonoid M] {parents : List β} {children : β → List α}
    (hone : ∀ b ∈ parents, ∀ a ∈ children b, parents.filter (fun b' => on a b') = [b])
    {f : α → M} {g : β → M} (hsum : ∀ b ∈ parents, ((children b).map f).sum = g b)
    (p : β → Prop) [DecidablePred p] :
    (((join (parents.flatMap children) parents on).filter fun row => p row.2).map
      fun row => f row.1).sum = ((parents.filter fun b => p b).map g).sum := by
  rw [join_children hone]
  clear hone
  induction parents with
  | nil => rfl
  | cons b rest ih =>
    have hrest := ih fun b' hb' => hsum b' (List.mem_cons_of_mem b hb')
    rw [List.flatMap_cons, List.filter_append, List.map_append, List.sum_append, hrest]
    by_cases hb : p b
    · have hall : ((children b).map fun a => (a, b)).filter (fun row => p row.2) =
          (children b).map fun a => (a, b) := by
        simp [List.filter_eq_self, hb]
      have hcons : (b :: rest).filter (fun b => p b) = b :: rest.filter fun b => p b :=
        List.filter_cons_of_pos (decide_eq_true hb)
      rw [hall, hcons, List.map_cons, List.sum_cons, ← hsum b List.mem_cons_self, List.map_map]
      rfl
    · have hnone : ((children b).map fun a => (a, b)).filter (fun row => p row.2) = [] := by
        simp [List.filter_eq_nil_iff, hb]
      have hcons : (b :: rest).filter (fun b => p b) = rest.filter fun b => p b :=
        List.filter_cons_of_neg (by simpa using hb)
      rw [hnone, hcons]
      exact zero_add _

end Query
