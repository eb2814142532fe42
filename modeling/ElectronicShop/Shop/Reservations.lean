import ElectronicShop.Book.Holdings

/-!
# Reservations: not stolen and not leaked

In a run from a state without orders, `stock_reserved` of a product is compared
with what the open orders need of it. From below it fails when an order takes
stock that it no longer holds: a paid order that is cancelled after its purchase,
or a failed one that an admin reopens. From above it fails when an admin closes an
order that still holds its stock. The two theorems exclude exactly these steps.
-/

namespace ElectronicShop

open Txn

/-- A state without orders: nothing is or refers to one. -/
structure NoOrders (db : Db) : Prop where
  orders : db.orders.rows = []
  statusHistory : db.statusHistory = []
  payments : db.payments.rows = []
  log : ∀ e ∈ db.inventoryHistory, e.referenceId = none
  refunds : ∀ t ∈ db.walletTransactions, t.type ≠ .refund

theorem NoOrders.referenced {db : Db} (h : NoOrders db) : db.book.Referenced := by
  intro e he orderId href
  rw [h.log e he] at href
  cases href

theorem NoOrders.heldTotal {db : Db} (h : NoOrders db) (p : Uuid) : db.book.heldTotal p = 0 := by
  simp [Book.heldTotal, Table.sum, Db.book, h.orders]

/-- The order still holds everything it has reserved. -/
def Order.HoldsAll (o : Order) (log : List InventoryHistory) : Prop :=
  ∀ item ∈ o.items, ∀ p ∈ item.productId, Stock.held log o.id p = orderQuantity o.items p

instance (o : Order) (log : List InventoryHistory) : Decidable (o.HoldsAll log) :=
  inferInstanceAs (Decidable (∀ item ∈ o.items, ∀ p ∈ item.productId, _))

/-- The order holds no stock. -/
def Order.HoldsNothing (o : Order) (log : List InventoryHistory) : Prop :=
  ∀ item ∈ o.items, ∀ p ∈ item.productId, Stock.held log o.id p ≤ 0

instance (o : Order) (log : List InventoryHistory) : Decidable (o.HoldsNothing log) :=
  inferInstanceAs (Decidable (∀ item ∈ o.items, ∀ p ∈ item.productId, _))

/-- Products that are not ordered do not count; for the others an order that holds
    everything holds the ordered quantity. -/
theorem Order.HoldsAll.cases {o : Order} {log : List InventoryHistory} (h : o.HoldsAll log)
    (p : Uuid) : orderQuantity o.items p = 0 ∨ Stock.held log o.id p = orderQuantity o.items p := by
  by_cases hp : ∃ item ∈ o.items, item.productId = some p
  · obtain ⟨item, hitem, hp⟩ := hp
    exact Or.inr (h item hitem p hp)
  · refine Or.inl (orderQuantity_eq_zero fun item hitem hq => hp ⟨item, hitem, hq⟩)

/-! ## Not stolen -/

/-- The steps that take or promise only stock the order still holds: cancelling a
    paid order and reopening a failed one are the two that could do otherwise. -/
def TakesOwnStock (store : Store) : Request → Prop
  | .cancelOrder _ orderId _ => ∀ o ∈ store.db.orders.get orderId,
    o.status = .paid → o.HoldsAll store.db.inventoryHistory
  | .updateOrderStatus _ orderId data _ => ∀ o ∈ store.db.orders.get orderId,
    o.status = .paymentFailed → data.newStatus = .awaitingPayment →
      o.HoldsAll store.db.inventoryHistory
  | _ => True

instance (store : Store) (request : Request) : Decidable (TakesOwnStock store request) := by
  unfold TakesOwnStock
  rcases request <;> infer_instance

/-- Open orders hold what they ordered, and what is held is reserved. -/
structure Backed (b : Book) : Prop where
  referenced : b.Referenced
  openHolds : ∀ o ∈ b.orders.rows, o.status ∈ openStatuses → o.HoldsAll b.stock.log
  backed : ∀ p, b.heldTotal p ≤ b.stock.reserved p

namespace Backed

variable {b b' : Book}

theorem apart (h : Backed b) (ha : b.Apart b') : Backed b' where
  referenced := ha.referenced h.referenced
  openHolds := by
    intro o ho hopen item hitem p hp
    rw [ha.orders] at ho
    rw [← h.openHolds o ho hopen item hitem p hp]
    exact ha.held o.id p
  backed := by
    intro p
    rw [ha.heldTotal, ha.reserved]
    exact h.backed p

theorem placed (h : Backed b) {order : Order} (hfresh : b.orders.get order.id = none)
    (hreservable : b.stock.Reservable
      (stockEntries order.id (some order.userId) order.items .reserve)) :
    Backed (b.placed order) where
  referenced := Book.referenced_placed h.referenced
  openHolds := by
    intro o ho hopen item hitem p hp
    rcases Table.mem_put ho with rfl | ⟨ho, hne⟩
    · exact Book.held_placed h.referenced hfresh p
    · rw [← h.openHolds o ho hopen item hitem p hp]
      exact Book.held_placed_of_ne hne p
  backed := by
    intro p
    rw [Book.heldTotal_placed h.referenced hfresh, Book.reserved_placed hreservable]
    have hp := h.backed p
    omega

/-- Another order's event does not change what an open order holds. -/
theorem openHolds_about (h : Backed b) {order order' : Order} {entries : List InventoryHistory}
    (ha : b.About b' order order' entries)
    (hnew : order'.status ∈ openStatuses → order'.HoldsAll b'.stock.log) :
    ∀ o ∈ b'.orders.rows, o.status ∈ openStatuses → o.HoldsAll b'.stock.log := by
  intro o ho hopen
  rcases ha.mem ho with rfl | ⟨ho, hne⟩
  · exact hnew hopen
  · intro item hitem p hp
    rw [← h.openHolds o ho hopen item hitem p hp]
    exact ha.held_of_ne hne p

/-- Taking stock the order holds keeps the rest backed. -/
theorem taken {db : Db} (h : Backed db.book) (hnonneg : db.stock.Nonneg) {order order' : Order}
    {kind : InventoryChangeType}
    (ha : db.book.About b' order order' (stockEntries order.id none order.items kind))
    (htakes : kind = .release ∨ kind = .purchase) (hclosed : order'.status ∉ openStatuses)
    (hholds : order.HoldsAll db.inventoryHistory) : Backed b' where
  referenced := ha.referenced h.referenced
  openHolds := h.openHolds_about ha fun hopen => absurd hopen hclosed
  backed := by
    intro p
    have hbefore := h.backed p
    have hq := orderQuantity_nonneg order.items p
    have hreserved : db.book.stock.reserved p = db.stock.reserved p := rfl
    rw [ha.heldTotal, ← ha.held, held_taken ha htakes, reserved_taken hnonneg ha htakes]
    rcases hholds.cases p with hzero | hheld
    · omega
    · have hheld' : db.book.held order.id p = orderQuantity order.items p := hheld
      omega

theorem kept (h : Backed b) {order order' : Order} (ha : b.About b' order order' [])
    (hnew : order'.status ∈ openStatuses → order.HoldsAll b.stock.log) : Backed b' where
  referenced := ha.referenced h.referenced
  openHolds := by
    refine h.openHolds_about ha fun hopen item hitem p hp => ?_
    rw [ha.items] at hitem ⊢
    rw [ha.id, ← hnew hopen item hitem p hp, ha.stock]
    rfl
  backed := by
    intro p
    have hp := h.backed p
    rw [ha.heldTotal, ha.stock, Stock.held_nil, add_zero, Stock.moveAll_nil]
    omega

/-- The step lemma: every event of a step that takes only its own stock keeps the
    invariant. -/
theorem effect {store : Store} {request : Request} {db' : Db} (h : Backed store.db.book)
    (hguard : TakesOwnStock store request) (heffect : Effect store.db request db') :
    Backed db'.book := by
  cases heffect.reservation with
  | apart hapart => exact h.apart hapart
  | placed order fresh status reservable book =>
    rw [book]
    exact h.placed fresh reservable
  | taken order order' kind about takes was closed ofPaid =>
    refine h.taken store.valid.nonneg about takes closed ?_
    by_cases hpaid : order.status = .paid
    · obtain ⟨subject, now, rfl⟩ := ofPaid hpaid
      exact hguard order about.found hpaid
    · refine h.openHolds order (Table.mem_of_get about.found) ?_
      cases hs : order.status <;>
        simp [OrderService.releasedOnCancel, hs, openStatuses] at was hpaid ⊢
  | kept order order' about allowed cause =>
    refine h.kept about fun hopen => ?_
    by_cases hwas : order.status ∈ openStatuses
    · exact h.openHolds order (Table.mem_of_get about.found) hwas
    · rcases cause with ⟨-, hcancelled⟩ | ⟨subject, data, now, rfl, hnew⟩
      · rw [hcancelled] at hopen
        exact absurd hopen (by decide)
      · have hstatus : order.status = .paymentFailed ∧ order'.status = .awaitingPayment := by
          cases hs : order.status <;> cases hs' : order'.status <;>
            simp [hs, hs', allowedTransitions, openStatuses] at allowed hwas hopen ⊢
        exact hguard order about.found hstatus.1 (hnew ▸ hstatus.2)

end Backed

theorem NoOrders.backed {store : Store} (h : NoOrders store.db) : Backed store.db.book where
  referenced := h.referenced
  openHolds := by
    intro o ho
    have hrows : store.db.book.orders.rows = [] := h.orders
    rw [hrows] at ho
    cases ho
  backed := by
    intro p
    rw [h.heldTotal]
    exact store.valid.nonneg.reserved p

/-- What the open orders need of a product is part of what all orders hold. -/
theorem Backed.openQuantity_le {db : Db} (h : Backed db.book) (p : Uuid) :
    db.openQuantity p ≤ db.stock.reserved p := by
  refine le_trans (Table.sum_le_sum fun o ho => ?_) (h.backed p)
  split
  · rename_i hopen
    rcases (h.openHolds o ho hopen).cases p with hzero | hheld
    · omega
    · exact hheld ▸ le_max_right _ _
  · exact le_max_left _ _

theorem Backed.quantity_le {db : Db} (h : Backed db.book) {o : Order} (ho : o ∈ db.orders.rows)
    (hopen : o.status ∈ openStatuses) (p : Uuid) :
    orderQuantity o.items p ≤ db.stock.reserved p := by
  have hnonneg : ∀ r ∈ db.orders.rows, 0 ≤ max 0 (db.book.held r.id p) :=
    fun r _ => le_max_left _ _
  have hle : max 0 (db.book.held o.id p) ≤ db.book.heldTotal p := Table.le_sum hnonneg ho
  have hbacked := h.backed p
  have hreserved : db.book.stock.reserved p = db.stock.reserved p := rfl
  have hzero := orderQuantity_nonneg o.items p
  rcases (h.openHolds o ho hopen).cases p with hq | hheld
  · omega
  · have hheld' : db.book.held o.id p = orderQuantity o.items p := hheld
    omega

/-- In a run from a state without orders whose steps take only stock the order
    still holds, every state has at least the quantities of the open orders
    reserved, and no open order's purchase reaches the clamp at zero. -/
theorem reserved_covers_open {store₀ store : Store} {requests : List Request}
    (h₀ : NoOrders store₀.db) (hrun : Run serve TakesOwnStock store₀ requests store) :
    ∀ r ∈ store.db.inventory.rows,
      store.db.openQuantity r.productId ≤ r.stockReserved ∧
      ∀ o ∈ store.db.orders.rows, o.status ∈ openStatuses →
        orderQuantity o.items r.productId ≤ r.stockReserved ∧
        orderQuantity o.items r.productId ≤ r.stockTotal := by
  have hbacked : Backed store.db.book :=
    hrun.invariant (fun s => Backed s.db.book) h₀.backed fun request s s' hs hguard hserve =>
      hs.effect hguard (serve_effect hserve)
  intro r hr
  have hreserved : store.db.stock.reserved r.productId = r.stockReserved :=
    Stock.reserved_of_get (Table.get_of_mem hr)
  rw [← hreserved]
  refine ⟨hbacked.openQuantity_le r.productId, fun o ho hopen => ?_⟩
  have hle := hbacked.quantity_le ho hopen r.productId
  have hvalid := store.valid.inventory r hr
  refine ⟨hle, ?_⟩
  rw [hreserved] at hle
  exact le_trans hle hvalid.2.2.1

theorem smallShop_noOrders : NoOrders smallShop.db :=
  ⟨rfl, rfl, rfl, by decide, by decide⟩

/-- Two orders, one paid. -/
theorem reserved_covers_open_smallShop : ∃ store,
    Run serve TakesOwnStock smallShop (buyTwo 1 100 ++ payWith "A" "OK" true 1 100 200 ++
      buyTwo 2 101) store ∧
    ∀ r ∈ store.db.inventory.rows,
      store.db.openQuantity r.productId ≤ r.stockReserved ∧
      ∀ o ∈ store.db.orders.rows, o.status ∈ openStatuses →
        orderQuantity o.items r.productId ≤ r.stockReserved ∧
        orderQuantity o.items r.productId ≤ r.stockTotal := by
  have hrun : ∃ store, Run serve TakesOwnStock smallShop (buyTwo 1 100 ++
      payWith "A" "OK" true 1 100 200 ++ buyTwo 2 101) store ∧ True :=
    Run.exists_of_execAll (by decide +kernel)
  obtain ⟨store, hrun, -⟩ := hrun
  exact ⟨store, hrun, reserved_covers_open smallShop_noOrders hrun⟩

/-- A paid order is cancelled after another one was placed: what is released is the
    other order's reservation. -/
theorem reserved_covers_open_fails : NoOrders smallShop.db ∧ ∃ store,
    Run serve anyStep smallShop (buyTwo 1 100 ++ payWith "A" "OK" true 1 100 200 ++
      buyTwo 2 101 ++ [.cancelOrder 1 100 0]) store ∧
    ∃ r ∈ store.db.inventory.rows, r.stockReserved < store.db.openQuantity r.productId :=
  ⟨smallShop_noOrders, Run.exists_of_execAll (by decide +kernel)⟩

/-! ## Not leaked -/

/-- The steps that do not close an order which still holds stock: an admin's status
    change is the one that could. -/
def ClosesEmptyHanded (store : Store) : Request → Prop
  | .updateOrderStatus _ orderId data _ => ∀ o ∈ store.db.orders.get orderId,
    o.status ∈ openStatuses → data.newStatus ∉ openStatuses →
      o.HoldsNothing store.db.inventoryHistory
  | _ => True

instance (store : Store) (request : Request) : Decidable (ClosesEmptyHanded store request) := by
  unfold ClosesEmptyHanded
  rcases request <;> infer_instance

/-- Only open orders hold stock, at most what they ordered, and what is reserved is
    held. -/
structure Bounded (b : Book) : Prop where
  referenced : b.Referenced
  heldLe : ∀ o ∈ b.orders.rows, ∀ p, b.held o.id p ≤ orderQuantity o.items p
  closedHolds : ∀ o ∈ b.orders.rows, o.status ∉ openStatuses → ∀ p, b.held o.id p ≤ 0
  bounded : ∀ p, b.stock.reserved p ≤ b.heldTotal p

namespace Bounded

variable {b b' : Book}

theorem apart (h : Bounded b) (ha : b.Apart b') : Bounded b' where
  referenced := ha.referenced h.referenced
  heldLe := by
    intro o ho p
    rw [ha.orders] at ho
    rw [ha.held]
    exact h.heldLe o ho p
  closedHolds := by
    intro o ho hclosed p
    rw [ha.orders] at ho
    rw [ha.held]
    exact h.closedHolds o ho hclosed p
  bounded := by
    intro p
    rw [ha.heldTotal, ha.reserved]
    exact h.bounded p

theorem placed (h : Bounded b) {order : Order} (hfresh : b.orders.get order.id = none)
    (hopen : order.status ∈ openStatuses)
    (hreservable : b.stock.Reservable
      (stockEntries order.id (some order.userId) order.items .reserve)) :
    Bounded (b.placed order) where
  referenced := Book.referenced_placed h.referenced
  heldLe := by
    intro o ho p
    rcases Table.mem_put ho with rfl | ⟨ho, hne⟩
    · exact (Book.held_placed h.referenced hfresh p).le
    · rw [Book.held_placed_of_ne hne]
      exact h.heldLe o ho p
  closedHolds := by
    intro o ho hclosed p
    rcases Table.mem_put ho with rfl | ⟨ho, hne⟩
    · exact absurd hopen hclosed
    · rw [Book.held_placed_of_ne hne]
      exact h.closedHolds o ho hclosed p
  bounded := by
    intro p
    rw [Book.heldTotal_placed h.referenced hfresh, Book.reserved_placed hreservable]
    have hp := h.bounded p
    omega

/-- An event about one order, when what that order then holds is in bounds. -/
theorem about (h : Bounded b) {order order' : Order} {entries : List InventoryHistory}
    (ha : b.About b' order order' entries)
    (hle : ∀ p, b'.held order.id p ≤ orderQuantity order.items p)
    (hclosed : order'.status ∉ openStatuses → ∀ p, b'.held order.id p ≤ 0)
    (hbounded : ∀ p, b'.stock.reserved p ≤ b'.heldTotal p) : Bounded b' where
  referenced := ha.referenced h.referenced
  heldLe := by
    intro o ho p
    rcases ha.mem ho with rfl | ⟨ho, hne⟩
    · rw [ha.id, ha.items]
      exact hle p
    · rw [ha.held_of_ne hne]
      exact h.heldLe o ho p
  closedHolds := by
    intro o ho hstatus p
    rcases ha.mem ho with rfl | ⟨ho, hne⟩
    · rw [ha.id]
      exact hclosed hstatus p
    · rw [ha.held_of_ne hne]
      exact h.closedHolds o ho hstatus p
  bounded := hbounded

theorem held_le_total {order : Order} (hfound : b.orders.get order.id = some order) (p : Uuid) :
    max 0 (b.held order.id p) ≤ b.heldTotal p := by
  have hnonneg : ∀ r ∈ b.orders.rows, 0 ≤ max 0 (b.held r.id p) := fun r _ => le_max_left _ _
  exact Table.le_sum hnonneg (Table.mem_of_get hfound)

/-- A take leaves the order with nothing, also when it had nothing left to give. -/
theorem taken {db : Db} (h : Bounded db.book) (hnonneg : db.stock.Nonneg) {order order' : Order}
    {kind : InventoryChangeType}
    (ha : db.book.About b' order order' (stockEntries order.id none order.items kind))
    (htakes : kind = .release ∨ kind = .purchase) : Bounded b' := by
  have hle : ∀ p, db.book.held order.id p ≤ orderQuantity order.items p :=
    h.heldLe order (Table.mem_of_get ha.found)
  refine h.about ha (fun p => ?_) (fun _ p => ?_) fun p => ?_
  · have hp := hle p
    have hq := orderQuantity_nonneg order.items p
    rw [held_taken ha htakes]
    omega
  · have hp := hle p
    rw [held_taken ha htakes]
    omega
  · have hp := hle p
    have hq := orderQuantity_nonneg order.items p
    have hbefore := h.bounded p
    have htotal := held_le_total ha.found p
    have hreserved : db.book.stock.reserved p = db.stock.reserved p := rfl
    rw [ha.heldTotal, ← ha.held, held_taken ha htakes, reserved_taken hnonneg ha htakes]
    omega

theorem kept (h : Bounded b) {order order' : Order} (ha : b.About b' order order' [])
    (hclosed : order'.status ∉ openStatuses → ∀ p, b.held order.id p ≤ 0) : Bounded b' := by
  have hheld : ∀ p, b'.held order.id p = b.held order.id p := by
    intro p
    rw [ha.held, Stock.held_nil, add_zero]
  refine h.about ha (fun p => ?_) (fun hstatus p => ?_) fun p => ?_
  · rw [hheld]
    exact h.heldLe order (Table.mem_of_get ha.found) p
  · rw [hheld]
    exact hclosed hstatus p
  · have hp := h.bounded p
    rw [ha.heldTotal, ha.stock, Stock.held_nil, add_zero, Stock.moveAll_nil]
    omega

/-- The step lemma: every event of a step that closes orders empty-handed keeps the
    invariant. -/
theorem effect {store : Store} {request : Request} {db' : Db} (h : Bounded store.db.book)
    (hguard : ClosesEmptyHanded store request) (heffect : Effect store.db request db') :
    Bounded db'.book := by
  cases heffect.reservation with
  | apart hapart => exact h.apart hapart
  | placed order fresh status reservable book =>
    rw [book]
    exact h.placed fresh (by simp [status, openStatuses]) reservable
  | taken order order' kind about takes was closed ofPaid =>
    exact h.taken store.valid.nonneg about takes
  | kept order order' about allowed cause =>
    refine h.kept about fun hclosed p => ?_
    have hmem := Table.mem_of_get about.found
    by_cases hwas : order.status ∈ openStatuses
    · rcases cause with ⟨hnot, -⟩ | ⟨subject, data, now, rfl, hnew⟩
      · exact absurd hwas hnot
      · have hnothing := hguard order about.found hwas (hnew ▸ hclosed)
        by_cases hp : ∃ item ∈ order.items, item.productId = some p
        · obtain ⟨item, hitem, hp⟩ := hp
          exact hnothing item hitem p hp
        · have hle := h.heldLe order hmem p
          rwa [orderQuantity_eq_zero fun item hitem hq => hp ⟨item, hitem, hq⟩] at hle
    · exact h.closedHolds order hmem hwas p

end Bounded

theorem NoOrders.bounded {db : Db} (h : NoOrders db)
    (hfree : ∀ r ∈ db.inventory.rows, r.stockReserved = 0) : Bounded db.book := by
  have hrows : db.book.orders.rows = [] := h.orders
  refine ⟨h.referenced, ?_, ?_, fun p => ?_⟩
  · intro o ho
    rw [hrows] at ho
    cases ho
  · intro o ho
    rw [hrows] at ho
    cases ho
  · rw [h.heldTotal]
    change ((db.inventory.get p).map ProductInventory.stockReserved).getD 0 ≤ 0
    cases hget : db.inventory.get p with
    | none => simp
    | some r => simp [hfree r (Table.mem_of_get hget)]

/-- What all orders hold of a product is part of what the open ones need. -/
theorem Bounded.le_openQuantity {db : Db} (h : Bounded db.book) (p : Uuid) :
    db.stock.reserved p ≤ db.openQuantity p := by
  refine le_trans (h.bounded p) (Table.sum_le_sum fun o ho => ?_)
  split
  · exact max_le (orderQuantity_nonneg o.items p) (h.heldLe o ho p)
  · rename_i hclosed
    exact max_le le_rfl (h.closedHolds o ho hclosed p)

/-- In a run from a state without orders and reservations whose steps close orders
    empty-handed, no state has more reserved than the open orders need, and a
    cancelled or failed order holds no stock. -/
theorem open_covers_reserved {store₀ store : Store} {requests : List Request}
    (h₀ : NoOrders store₀.db) (hfree : ∀ r ∈ store₀.db.inventory.rows, r.stockReserved = 0)
    (hrun : Run serve ClosesEmptyHanded store₀ requests store) :
    (∀ r ∈ store.db.inventory.rows, r.stockReserved ≤ store.db.openQuantity r.productId) ∧
    ∀ o ∈ store.db.orders.rows, o.status = .cancelled ∨ o.status = .paymentFailed →
      ∀ p, Stock.held store.db.inventoryHistory o.id p ≤ 0 := by
  have hbounded : Bounded store.db.book :=
    hrun.invariant (fun s => Bounded s.db.book) (h₀.bounded hfree)
      fun request s s' hs hguard hserve => hs.effect hguard (serve_effect hserve)
  refine ⟨fun r hr => ?_, fun o ho hstatus p => ?_⟩
  · have hreserved : store.db.stock.reserved r.productId = r.stockReserved :=
      Stock.reserved_of_get (Table.get_of_mem hr)
    rw [← hreserved]
    exact hbounded.le_openQuantity r.productId
  · refine hbounded.closedHolds o ho ?_ p
    rcases hstatus with hs | hs <;> simp [hs, openStatuses]

/-- An order whose payment fails, and that an admin then cancels. -/
theorem open_covers_reserved_smallShop : ∃ store,
    Run serve ClosesEmptyHanded smallShop (buyTwo 1 100 ++ payWith "A" "NOK" true 1 100 200 ++
      [setStatus 100 .cancelled]) store ∧
    (∀ r ∈ store.db.inventory.rows, r.stockReserved ≤ store.db.openQuantity r.productId) ∧
    ∀ o ∈ store.db.orders.rows, o.status = .cancelled ∨ o.status = .paymentFailed →
      ∀ p, Stock.held store.db.inventoryHistory o.id p ≤ 0 := by
  have hrun : ∃ store, Run serve ClosesEmptyHanded smallShop (buyTwo 1 100 ++
      payWith "A" "NOK" true 1 100 200 ++ [setStatus 100 .cancelled]) store ∧ True :=
    Run.exists_of_execAll (by decide +kernel)
  obtain ⟨store, hrun, -⟩ := hrun
  exact ⟨store, hrun, open_covers_reserved smallShop_noOrders (by decide) hrun⟩

/-- An admin cancels an order that awaits payment: its reservation stays. -/
theorem open_covers_reserved_fails :
    NoOrders smallShop.db ∧ (∀ r ∈ smallShop.db.inventory.rows, r.stockReserved = 0) ∧
    ∃ store, Run serve anyStep smallShop (buyTwo 1 100 ++ [setStatus 100 .cancelled]) store ∧
      ∃ r ∈ store.db.inventory.rows, store.db.openQuantity r.productId < r.stockReserved :=
  ⟨smallShop_noOrders, by decide, Run.exists_of_execAll (by decide +kernel)⟩

end ElectronicShop
