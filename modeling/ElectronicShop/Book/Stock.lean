import ElectronicShop.Model.Database

/-!
# Stock rows and their log

A stock mutator writes one `product_inventory` row and one `inventory_history`
row that says how. Here the row it writes is computed from the log entry, so that
stock after any number of mutators is a fold over the entries they wrote. The
clamped counters and the unclamped log agree as long as no clamp is reached.
-/

namespace ElectronicShop

open Txn

/-- The row after a logged change of `quantity`: `release` and `purchase` clamp at
    zero. -/
def InventoryChangeType.move :
    InventoryChangeType → Int → ProductInventory → ProductInventory
  | .restock, quantity, r => { r with stockTotal := r.stockTotal + quantity }
  | .adjust, quantity, r => { r with stockTotal := r.stockTotal + quantity }
  | .reserve, quantity, r => { r with stockReserved := r.stockReserved + quantity }
  | .release, quantity, r => { r with stockReserved := max 0 (r.stockReserved - quantity) }
  | .purchase, quantity, r =>
    { r with
      stockTotal := max 0 (r.stockTotal - quantity)
      stockReserved := max 0 (r.stockReserved - quantity) }

/-- The share of `stock_reserved` in a log entry: what an unclamped change adds
    to it. -/
def InventoryHistory.reservedDelta (e : InventoryHistory) : Int :=
  match e.changeType with
  | .reserve => e.quantity
  | .release => -e.quantity
  | .purchase => -e.quantity
  | .restock => 0
  | .adjust => 0

@[simp] theorem move_productId (kind : InventoryChangeType) (quantity : Int)
    (r : ProductInventory) : (kind.move quantity r).productId = r.productId := by
  cases kind <;> rfl

structure Stock where
  rows : Table ProductInventory.productId
  log : List InventoryHistory

namespace Stock

/-- One mutator: the row of the entry's product, then the entry. -/
def move (s : Stock) (e : InventoryHistory) : Stock where
  rows := s.rows.modify e.productId (e.changeType.move e.quantity)
  log := s.log ++ [e]

/-- Several mutators, in the order of their entries. -/
def moveAll (s : Stock) (entries : List InventoryHistory) : Stock := entries.foldl move s

@[simp] theorem moveAll_nil (s : Stock) : s.moveAll [] = s := rfl

@[simp] theorem moveAll_cons (s : Stock) (e : InventoryHistory) (rest : List InventoryHistory) :
    s.moveAll (e :: rest) = (s.move e).moveAll rest := rfl

theorem moveAll_append (s : Stock) (xs ys : List InventoryHistory) :
    s.moveAll (xs ++ ys) = (s.moveAll xs).moveAll ys := List.foldl_append

/-- `stock_total` of a product, zero when it has no row. -/
def total (s : Stock) (p : Uuid) : Int := ((s.rows.get p).map ProductInventory.stockTotal).getD 0

/-- `stock_reserved` of a product, zero when it has no row. -/
def reserved (s : Stock) (p : Uuid) : Int :=
  ((s.rows.get p).map ProductInventory.stockReserved).getD 0

/-- Every product of the entries has a row. -/
def Covers (s : Stock) (entries : List InventoryHistory) : Prop :=
  ∀ e ∈ entries, (s.rows.get e.productId).isSome

@[simp] theorem covers_nil (s : Stock) : s.Covers [] := fun _ he => nomatch he

@[simp] theorem covers_cons (s : Stock) (e : InventoryHistory) (rest : List InventoryHistory) :
    s.Covers (e :: rest) ↔ (s.rows.get e.productId).isSome ∧ s.Covers rest :=
  List.forall_mem_cons

/-- Whether `reserve` accepts the entries one after another: each product has a row
    with enough stock left. -/
def Reservable (s : Stock) : List InventoryHistory → Prop
  | [] => True
  | e :: rest =>
    (∃ r, s.rows.get e.productId = some r ∧ e.quantity ≤ r.stockTotal - r.stockReserved) ∧
    (s.move e).Reservable rest

theorem total_of_get {s : Stock} {p : Uuid} {r : ProductInventory} (h : s.rows.get p = some r) :
    s.total p = r.stockTotal := by
  simp [total, h]

theorem reserved_of_get {s : Stock} {p : Uuid} {r : ProductInventory} (h : s.rows.get p = some r) :
    s.reserved p = r.stockReserved := by
  simp [reserved, h]

theorem get_move (s : Stock) (e : InventoryHistory) (p : Uuid) :
    (s.move e).rows.get p = if p = e.productId then
      (s.rows.get p).map (e.changeType.move e.quantity) else s.rows.get p := by
  unfold move
  rw [Table.get_modify _ _ _ (move_productId _ _)]
  split
  · rename_i h
    rw [h]
  · rfl

theorem isSome_get_move (s : Stock) (e : InventoryHistory) (p : Uuid) :
    ((s.move e).rows.get p).isSome = (s.rows.get p).isSome :=
  Table.isSome_get_modify _ _ _ (move_productId _ _) p

theorem isSome_get_moveAll (s : Stock) (entries : List InventoryHistory) (p : Uuid) :
    ((s.moveAll entries).rows.get p).isSome = (s.rows.get p).isSome := by
  induction entries generalizing s with
  | nil => rfl
  | cons e rest ih =>
    rw [moveAll_cons, ih, isSome_get_move]

theorem covers_move {s : Stock} {e : InventoryHistory} {entries : List InventoryHistory} :
    (s.move e).Covers entries ↔ s.Covers entries := by
  simp only [Covers, isSome_get_move]

theorem Reservable.covers {entries : List InventoryHistory} {s : Stock}
    (h : s.Reservable entries) : s.Covers entries := by
  induction entries generalizing s with
  | nil => exact covers_nil s
  | cons e rest ih =>
    obtain ⟨⟨r, hr, -⟩, hrest⟩ := h
    exact (covers_cons s e rest).mpr ⟨by simp [hr], covers_move.mp (ih hrest)⟩

theorem reservable_append {xs ys : List InventoryHistory} {s : Stock} :
    s.Reservable (xs ++ ys) ↔ s.Reservable xs ∧ (s.moveAll xs).Reservable ys := by
  induction xs generalizing s with
  | nil => simp [Reservable]
  | cons e rest ih => simp only [List.cons_append, Reservable, ih, moveAll_cons, and_assoc]

theorem log_moveAll (s : Stock) (entries : List InventoryHistory) :
    (s.moveAll entries).log = s.log ++ entries := by
  induction entries generalizing s with
  | nil => simp
  | cons e rest ih => simp [ih, move]

/-- Products no entry is about keep their row. -/
theorem get_moveAll_of_not_mem {s : Stock} {entries : List InventoryHistory} {p : Uuid}
    (h : ∀ e ∈ entries, e.productId ≠ p) : (s.moveAll entries).rows.get p = s.rows.get p := by
  induction entries generalizing s with
  | nil => rfl
  | cons e rest ih =>
    rw [moveAll_cons, ih fun e' he' => h e' (List.mem_cons_of_mem _ he'), get_move,
      if_neg (Ne.symm (h e (by simp)))]

/-- With one entry for a product at most, each entry is checked against the row as it was. -/
theorem reservable_iff {entries : List InventoryHistory} {s : Stock}
    (hnodup : (entries.map InventoryHistory.productId).Nodup) :
    s.Reservable entries ↔ ∀ e ∈ entries, ∃ r, s.rows.get e.productId = some r ∧
      e.quantity ≤ r.stockTotal - r.stockReserved := by
  induction entries generalizing s with
  | nil => simp [Reservable]
  | cons e rest ih =>
    rw [List.map_cons, List.nodup_cons] at hnodup
    have hrest : ∀ e' ∈ rest, (s.move e).rows.get e'.productId = s.rows.get e'.productId := by
      intro e' he'
      rw [get_move, if_neg]
      intro heq
      exact hnodup.1 (heq ▸ List.mem_map_of_mem he')
    rw [List.forall_mem_cons, Reservable, ih hnodup.2]
    refine and_congr_right fun _ => forall₂_congr fun e' he' => ?_
    rw [hrest e' he']

/-- It moves the row of its product once. -/
theorem get_moveAll_of_mem {entries : List InventoryHistory} {s : Stock}
    (hnodup : (entries.map InventoryHistory.productId).Nodup) {e : InventoryHistory}
    (he : e ∈ entries) : (s.moveAll entries).rows.get e.productId =
      (s.rows.get e.productId).map (e.changeType.move e.quantity) := by
  induction entries generalizing s with
  | nil => cases he
  | cons e' rest ih =>
    rw [List.map_cons, List.nodup_cons] at hnodup
    rw [moveAll_cons]
    rcases List.mem_cons.mp he with rfl | hrest
    · have hother : ∀ e' ∈ rest, e'.productId ≠ e.productId := by
        intro e' he' heq
        exact hnodup.1 (heq ▸ List.mem_map_of_mem he')
      rw [get_moveAll_of_not_mem hother, get_move, if_pos rfl]
    · rw [ih hnodup.2 hrest, get_move, if_neg]
      intro heq
      exact hnodup.1 (heq ▸ List.mem_map_of_mem hrest)

/-! ## Quantities in the log -/

/-- The quantity of a product in a list of entries. -/
def quantityIn (entries : List InventoryHistory) (p : Uuid) : Int :=
  (entries.map fun e => if e.productId = p then e.quantity else 0).sum

@[simp] theorem quantityIn_nil (p : Uuid) : quantityIn [] p = 0 := rfl

@[simp] theorem quantityIn_cons (e : InventoryHistory) (rest : List InventoryHistory) (p : Uuid) :
    quantityIn (e :: rest) p = (if e.productId = p then e.quantity else 0) + quantityIn rest p := by
  simp [quantityIn]

theorem quantityIn_nonneg {entries : List InventoryHistory} (h : ∀ e ∈ entries, 0 ≤ e.quantity)
    (p : Uuid) : 0 ≤ quantityIn entries p := by
  refine List.sum_nonneg fun x hx => ?_
  obtain ⟨e, he, rfl⟩ := List.mem_map.mp hx
  split
  · exact h e he
  · exact le_rfl

/-- What the log says an order holds of a product: reserved for it, and neither
    released nor purchased since. -/
def held (log : List InventoryHistory) (orderId p : Uuid) : Int :=
  (log.map fun e =>
    if e.productId = p ∧ e.referenceId = some orderId then e.reservedDelta else 0).sum

@[simp] theorem held_nil (orderId p : Uuid) : held [] orderId p = 0 := rfl

theorem held_cons (e : InventoryHistory) (rest : List InventoryHistory) (orderId p : Uuid) :
    held (e :: rest) orderId p =
      (if e.productId = p ∧ e.referenceId = some orderId then e.reservedDelta else 0) +
        held rest orderId p := by
  simp [held]

theorem held_append (log entries : List InventoryHistory) (orderId p : Uuid) :
    held (log ++ entries) orderId p = held log orderId p + held entries orderId p := by
  simp [held]

/-- Entries that refer to something else do not count. -/
theorem held_eq_zero {log : List InventoryHistory} {orderId : Uuid}
    (h : ∀ e ∈ log, e.referenceId ≠ some orderId) (p : Uuid) : held log orderId p = 0 := by
  refine List.sum_eq_zero fun x hx => ?_
  obtain ⟨e, he, rfl⟩ := List.mem_map.mp hx
  simp [h e he]

/-! ## Clamps

`reserve` entries add to `stock_reserved`; a list of `release` or of `purchase`
entries takes its quantities off, down to zero. -/

/-- A change of the total leaves what is reserved alone. -/
theorem counters_adjust {e : InventoryHistory} {s : Stock}
    (hkind : e.changeType = .restock ∨ e.changeType = .adjust)
    (hrow : (s.rows.get e.productId).isSome) (p : Uuid) :
    (s.move e).reserved p = s.reserved p ∧
    (s.move e).total p = s.total p + if e.productId = p then e.quantity else 0 := by
  obtain ⟨r, hget⟩ := Option.isSome_iff_exists.mp hrow
  by_cases hp : p = e.productId
  · subst hp
    rcases hkind with hk | hk <;>
      simp [reserved, total, get_move, hget, hk, InventoryChangeType.move]
  · simp [reserved, total, get_move, hp, Ne.symm hp]

theorem reserved_reserve {entries : List InventoryHistory} {s : Stock}
    (hkind : ∀ e ∈ entries, e.changeType = .reserve) (hcover : s.Covers entries) (p : Uuid) :
    (s.moveAll entries).reserved p = s.reserved p + quantityIn entries p ∧
    (s.moveAll entries).total p = s.total p := by
  induction entries generalizing s with
  | nil => simp
  | cons e rest ih =>
    have he : e.changeType = .reserve := hkind e (by simp)
    rw [covers_cons] at hcover
    obtain ⟨hr, ht⟩ := ih (s := s.move e) (fun e' he' => hkind e' (List.mem_cons_of_mem _ he'))
      (covers_move.mpr hcover.2)
    obtain ⟨r, hget⟩ := Option.isSome_iff_exists.mp hcover.1
    rw [moveAll_cons, hr, ht, quantityIn_cons]
    by_cases hp : p = e.productId
    · subst hp
      simp [reserved, total, get_move, hget, he, InventoryChangeType.move]
      omega
    · simp [reserved, total, get_move, hp, Ne.symm hp]

/-- Rows with counters that are not negative. -/
def Nonneg (s : Stock) : Prop :=
  ∀ p r, s.rows.get p = some r → 0 ≤ r.stockReserved ∧ 0 ≤ r.stockTotal

theorem Nonneg.reserved {s : Stock} (h : s.Nonneg) (p : Uuid) : 0 ≤ s.reserved p := by
  unfold Stock.reserved
  cases hget : s.rows.get p with
  | none => simp
  | some r => exact (h p r hget).1

theorem Nonneg.total {s : Stock} (h : s.Nonneg) (p : Uuid) : 0 ≤ s.total p := by
  unfold Stock.total
  cases hget : s.rows.get p with
  | none => simp
  | some r => exact (h p r hget).2

theorem Nonneg.move {s : Stock} (h : s.Nonneg) {e : InventoryHistory}
    (hkind : e.changeType = .release ∨ e.changeType = .purchase) : (s.move e).Nonneg := by
  intro p r hr
  rw [get_move] at hr
  split at hr
  · obtain ⟨r₀, hget, rfl⟩ := Option.map_eq_some_iff.mp hr
    have hr₀ := h p r₀ hget
    rcases hkind with hk | hk
    · simp only [hk, InventoryChangeType.move]
      omega
    · simp only [hk, InventoryChangeType.move]
      omega
  · exact h p r hr

theorem reserved_take {entries : List InventoryHistory} {s : Stock} (hs : s.Nonneg)
    (hkind : ∀ e ∈ entries, e.changeType = .release ∨ e.changeType = .purchase)
    (hq : ∀ e ∈ entries, 0 ≤ e.quantity) (p : Uuid) :
    (s.moveAll entries).reserved p = max 0 (s.reserved p - quantityIn entries p) := by
  induction entries generalizing s with
  | nil =>
    have h0 := hs.reserved p
    simp only [moveAll_nil, quantityIn_nil]
    omega
  | cons e rest ih =>
    have he := hkind e (by simp)
    have hrest : ∀ e' ∈ rest, 0 ≤ e'.quantity := fun e' he' => hq e' (List.mem_cons_of_mem _ he')
    have hqe : 0 ≤ e.quantity := hq e (by simp)
    have hqr := quantityIn_nonneg hrest p
    rw [moveAll_cons, ih (hs.move he) (fun e' he' => hkind e' (List.mem_cons_of_mem _ he')) hrest,
      quantityIn_cons]
    by_cases hp : p = e.productId
    · subst hp
      cases hget : s.rows.get e.productId with
      | none =>
        simp only [reserved, get_move, hget, Option.map_none, Option.getD_none, if_true]
        omega
      | some r =>
        rcases he with he | he
        · simp [reserved, get_move, hget, he, InventoryChangeType.move]
          omega
        · simp [reserved, get_move, hget, he, InventoryChangeType.move]
          omega
    · simp [reserved, get_move, hp, Ne.symm hp]

theorem total_release {entries : List InventoryHistory} {s : Stock}
    (hkind : ∀ e ∈ entries, e.changeType = .release) (p : Uuid) :
    (s.moveAll entries).total p = s.total p := by
  induction entries generalizing s with
  | nil => rfl
  | cons e rest ih =>
    have he : e.changeType = .release := hkind e (by simp)
    rw [moveAll_cons, ih fun e' he' => hkind e' (List.mem_cons_of_mem _ he')]
    by_cases hp : p = e.productId
    · subst hp
      cases hget : s.rows.get e.productId <;>
        simp [total, get_move, hget, he, InventoryChangeType.move]
    · simp [total, get_move, hp]

theorem total_purchase {entries : List InventoryHistory} {s : Stock} (hs : s.Nonneg)
    (hkind : ∀ e ∈ entries, e.changeType = .purchase) (hq : ∀ e ∈ entries, 0 ≤ e.quantity)
    (p : Uuid) : (s.moveAll entries).total p = max 0 (s.total p - quantityIn entries p) := by
  induction entries generalizing s with
  | nil =>
    have h0 := hs.total p
    simp only [moveAll_nil, quantityIn_nil]
    omega
  | cons e rest ih =>
    have he : e.changeType = .purchase := hkind e (by simp)
    have hrest : ∀ e' ∈ rest, 0 ≤ e'.quantity := fun e' he' => hq e' (List.mem_cons_of_mem _ he')
    have hqe : 0 ≤ e.quantity := hq e (by simp)
    have hqr := quantityIn_nonneg hrest p
    rw [moveAll_cons, ih (hs.move (Or.inr he)) (fun e' he' => hkind e' (List.mem_cons_of_mem _ he'))
      hrest, quantityIn_cons]
    by_cases hp : p = e.productId
    · subst hp
      cases hget : s.rows.get e.productId with
      | none =>
        simp only [total, get_move, hget, Option.map_none, Option.getD_none, if_true]
        omega
      | some r =>
        simp [total, get_move, hget, he, InventoryChangeType.move]
        omega
    · simp [total, get_move, hp, Ne.symm hp]

end Stock

end ElectronicShop
