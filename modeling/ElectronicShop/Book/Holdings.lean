import ElectronicShop.Book.Effect

/-!
# What orders hold of the stock

An order holds what its log entries have reserved and neither released nor
purchased. This module says how each kind of event changes the holdings of the
orders of a book and their total; the two invariants about reservations compare
that total with `stock_reserved`.
-/

namespace ElectronicShop

open Txn

/-- The statuses of orders whose stock is reserved and not yet sold. -/
def openStatuses : List OrderStatus := [.pending, .awaitingPayment]

/-- The quantity of a product in the items of an order. -/
def orderQuantity (items : List OrderItem) (p : Uuid) : Int :=
  (items.map fun i => if i.productId = some p then (i.quantity : Int) else 0).sum

@[simp] theorem orderQuantity_nil (p : Uuid) : orderQuantity [] p = 0 := rfl

@[simp] theorem orderQuantity_cons (item : OrderItem) (rest : List OrderItem) (p : Uuid) :
    orderQuantity (item :: rest) p =
      (if item.productId = some p then (item.quantity : Int) else 0) + orderQuantity rest p := by
  simp [orderQuantity]

theorem orderQuantity_nonneg (items : List OrderItem) (p : Uuid) : 0 ≤ orderQuantity items p := by
  induction items with
  | nil => simp
  | cons item rest ih =>
    rw [orderQuantity_cons]
    split <;> omega

theorem orderQuantity_eq_zero {items : List OrderItem} {p : Uuid}
    (h : ∀ item ∈ items, item.productId ≠ some p) : orderQuantity items p = 0 := by
  induction items with
  | nil => rfl
  | cons item rest ih =>
    rw [orderQuantity_cons, if_neg (h item (by simp)),
      ih fun i hi => h i (List.mem_cons_of_mem _ hi)]
    rfl

/-- The quantity of a product in all orders that are open. -/
def Db.openQuantity (db : Db) (p : Uuid) : Int :=
  db.orders.sum fun o => if o.status ∈ openStatuses then orderQuantity o.items p else 0

/-! ## The entries of an order -/

section StockEntries

variable (orderId : Uuid) (actorId : Option Uuid) (items : List OrderItem)
  (kind : InventoryChangeType)

theorem quantityIn_stockEntries (p : Uuid) :
    Stock.quantityIn (stockEntries orderId actorId items kind) p = orderQuantity items p := by
  induction items with
  | nil => rfl
  | cons item rest ih =>
    cases hp : item.productId with
    | none => simp [stockEntries_cons_none _ _ _ _ _ hp, ih, hp]
    | some q => simp [stockEntries_cons_some _ _ _ _ _ hp, ih, hp]

/-- The entries of one kind of an order add or take off its quantities. -/
theorem held_stockEntries (p : Uuid) :
    Stock.held (stockEntries orderId actorId items kind) orderId p =
      match kind with
      | .reserve => orderQuantity items p
      | .release => -orderQuantity items p
      | .purchase => -orderQuantity items p
      | .restock => 0
      | .adjust => 0 := by
  induction items with
  | nil => cases kind <;> rfl
  | cons item rest ih =>
    cases hp : item.productId with
    | none =>
      rw [stockEntries_cons_none _ _ _ _ _ hp, ih]
      cases kind <;> simp [hp]
    | some q =>
      rw [stockEntries_cons_some _ _ _ _ _ hp, Stock.held_cons, ih]
      by_cases hq : q = p
      · cases kind <;> simp [hp, hq, InventoryHistory.reservedDelta]
        omega
        omega
      · cases kind <;> simp [hp, hq]

theorem held_stockEntries_of_ne {orderId' : Uuid} (h : orderId' ≠ orderId) (p : Uuid) :
    Stock.held (stockEntries orderId actorId items kind) orderId' p = 0 := by
  refine Stock.held_eq_zero (fun e he => ?_) p
  rw [(stockEntries_spec orderId actorId kind he).2.1]
  simpa using h.symm

end StockEntries

/-! ## Holdings in a book -/

namespace Book

/-- What an order holds of a product. -/
def held (b : Book) (orderId p : Uuid) : Int := Stock.held b.stock.log orderId p

/-- What all orders hold of a product. -/
def heldTotal (b : Book) (p : Uuid) : Int := b.orders.sum fun o => max 0 (b.held o.id p)

/-- Log entries about orders are about orders of the book. -/
def Referenced (b : Book) : Prop :=
  ∀ e ∈ b.stock.log, ∀ orderId, e.referenceId = some orderId → (b.orders.get orderId).isSome

/-- An event that is not about an order: it leaves the orders and what is reserved
    alone. -/
structure Apart (b b' : Book) : Prop where
  orders : b'.orders = b.orders
  reserved : ∀ p, b'.stock.reserved p = b.stock.reserved p
  log : ∃ entries, b'.stock.log = b.stock.log ++ entries ∧ ∀ e ∈ entries, e.referenceId = none

/-- An event about one order of the book: it moves stock for the order and
    replaces its row, but not its items. -/
structure About (b b' : Book) (order order' : Order) (entries : List InventoryHistory) :
    Prop where
  found : b.orders.get order.id = some order
  id : order'.id = order.id
  items : order'.items = order.items
  orders : b'.orders = b.orders.put order'
  stock : b'.stock = b.stock.moveAll entries
  own : ∀ e ∈ entries, e.referenceId = some order.id

variable {b b' : Book}

theorem Apart.held (h : Apart b b') (orderId p : Uuid) : b'.held orderId p = b.held orderId p := by
  obtain ⟨entries, hlog, hnone⟩ := h.log
  have hzero : Stock.held entries orderId p = 0 :=
    Stock.held_eq_zero (fun e he => by simp [hnone e he]) p
  simp only [Book.held, hlog, Stock.held_append, hzero, add_zero]

theorem Apart.heldTotal (h : Apart b b') (p : Uuid) : b'.heldTotal p = b.heldTotal p := by
  simp only [Book.heldTotal, h.orders, h.held]

theorem Apart.referenced (h : Apart b b') (hb : b.Referenced) : b'.Referenced := by
  obtain ⟨entries, hlog, hnone⟩ := h.log
  intro e he orderId href
  rw [hlog] at he
  rw [h.orders]
  rcases List.mem_append.mp he with he | he
  · exact hb e he orderId href
  · rw [hnone e he] at href
    cases href

section About

variable {order order' : Order} {entries : List InventoryHistory}

theorem About.held (h : About b b' order order' entries) (orderId p : Uuid) :
    b'.held orderId p = b.held orderId p + Stock.held entries orderId p := by
  simp only [Book.held, h.stock, Stock.log_moveAll, Stock.held_append]

theorem About.held_of_ne (h : About b b' order order' entries) {orderId : Uuid}
    (hne : orderId ≠ order.id) (p : Uuid) : b'.held orderId p = b.held orderId p := by
  have hzero : Stock.held entries orderId p = 0 :=
    Stock.held_eq_zero (fun e he => by simpa [h.own e he] using hne.symm) p
  rw [h.held, hzero, add_zero]

theorem About.heldTotal (h : About b b' order order' entries) (p : Uuid) :
    b'.heldTotal p = b.heldTotal p - max 0 (b.held order.id p) +
      max 0 (b.held order.id p + Stock.held entries order.id p) := by
  have hfound : b.orders.get order'.id = some order := h.id ▸ h.found
  have hothers : ∀ o ∈ b.orders.rows, o.id ≠ order'.id →
      max 0 (b'.held o.id p) = max 0 (b.held o.id p) := by
    intro o _ hne
    rw [h.held_of_ne (h.id ▸ hne)]
  rw [Book.heldTotal, h.orders, Table.sum_update hfound hothers, h.id, h.held]
  rfl

theorem About.referenced (h : About b b' order order' entries) (hb : b.Referenced) :
    b'.Referenced := by
  intro e he orderId href
  rw [h.stock, Stock.log_moveAll] at he
  rw [h.orders, Table.get_put]
  split
  · rfl
  · rename_i hne
    rcases List.mem_append.mp he with he | he
    · exact hb e he orderId href
    · rw [h.own e he, ← h.id] at href
      exact absurd (Option.some.inj href).symm hne

/-- The rows of the orders after the event. -/
theorem About.mem (h : About b b' order order' entries) {o : Order} (ho : o ∈ b'.orders.rows) :
    o = order' ∨ o ∈ b.orders.rows ∧ o.id ≠ order.id := by
  rw [h.orders] at ho
  rw [← h.id]
  exact Table.mem_put ho

end About

/-! ## A new order -/

section Placed

variable {order : Order}

theorem held_placed (hb : b.Referenced) (hfresh : b.orders.get order.id = none) (p : Uuid) :
    (b.placed order).held order.id p = orderQuantity order.items p := by
  have hzero : b.held order.id p = 0 := by
    refine Stock.held_eq_zero (fun e he href => ?_) p
    have hsome := hb e he order.id href
    simp [hfresh] at hsome
  simp only [Book.held, placed, Stock.log_moveAll, Stock.held_append, held_stockEntries]
  rw [show Stock.held b.stock.log order.id p = 0 from hzero, zero_add]

theorem held_placed_of_ne {orderId : Uuid} (hne : orderId ≠ order.id) (p : Uuid) :
    (b.placed order).held orderId p = b.held orderId p := by
  simp only [Book.held, placed, Stock.log_moveAll, Stock.held_append,
    held_stockEntries_of_ne _ _ _ _ hne, add_zero]

theorem heldTotal_placed (hb : b.Referenced) (hfresh : b.orders.get order.id = none) (p : Uuid) :
    (b.placed order).heldTotal p = b.heldTotal p + orderQuantity order.items p := by
  have hothers : ∀ o ∈ b.orders.rows,
      max 0 ((b.placed order).held o.id p) = max 0 (b.held o.id p) := by
    intro o ho
    have hne : o.id ≠ order.id := by
      intro heq
      have hget := Table.get_of_mem ho
      rw [heq, hfresh] at hget
      cases hget
    rw [held_placed_of_ne hne]
  have hq := orderQuantity_nonneg order.items p
  rw [heldTotal, show (b.placed order).orders = b.orders.put order from rfl,
    Table.sum_insert hfresh hothers, held_placed hb hfresh, max_eq_right hq]
  rfl

theorem referenced_placed (hb : b.Referenced) : (b.placed order).Referenced := by
  intro e he orderId href
  simp only [placed, Stock.log_moveAll] at he ⊢
  rw [Table.get_put]
  split
  · rfl
  · rename_i hne
    rcases List.mem_append.mp he with he | he
    · exact hb e he orderId href
    · rw [(stockEntries_spec _ _ _ he).2.1] at href
      exact absurd (Option.some.inj href).symm hne

theorem reserved_placed
    (hreservable : b.stock.Reservable
      (stockEntries order.id (some order.userId) order.items .reserve)) (p : Uuid) :
    (b.placed order).stock.reserved p = b.stock.reserved p + orderQuantity order.items p := by
  have hmove := Stock.reserved_reserve
    (fun e he => (stockEntries_spec _ _ _ he).1) hreservable.covers p
  rw [quantityIn_stockEntries] at hmove
  exact hmove.1

end Placed

end Book

/-! ## The events, as far as reservations are concerned -/

/-- An event leaves reservations alone, reserves for a new order, takes the stock of
    an order (when it is settled, or cancelled while `cancel` releases), or only
    changes the status of an order. -/
inductive Reservation (db : Db) (request : Request) (b' : Book) : Prop where
  | apart (apart : db.book.Apart b')
  | placed (order : Order) (fresh : db.orders.get order.id = none)
      (status : order.status = .awaitingPayment)
      (reservable : db.stock.Reservable
        (stockEntries order.id (some order.userId) order.items .reserve))
      (book : b' = db.book.placed order)
  | taken (order order' : Order) (kind : InventoryChangeType)
      (about : db.book.About b' order order' (stockEntries order.id none order.items kind))
      (takes : kind = .release ∨ kind = .purchase)
      (was : order.status ∈ OrderService.releasedOnCancel)
      (closed : order'.status ∉ openStatuses)
      (ofPaid : order.status = .paid →
        ∃ subject now, request = .cancelOrder subject order.id now)
  | kept (order order' : Order) (about : db.book.About b' order order' [])
      (allowed : order'.status ∈ allowedTransitions order.status)
      (cause : order.status ∉ openStatuses ∧ order'.status = .cancelled ∨
        ∃ subject data now, request = .updateOrderStatus subject order.id data now ∧
          order'.status = data.newStatus)

/-- A mutator of `stock_total` is apart from all orders. -/
theorem apart_of_total {db : Db} {e : InventoryHistory} {b' : Book}
    (hkind : e.changeType = .restock ∨ e.changeType = .adjust) (href : e.referenceId = none)
    (hrow : (db.inventory.get e.productId).isSome) (hbook : b' = db.book.moveStock [e]) :
    db.book.Apart b' := by
  subst hbook
  refine ⟨rfl, fun p => ?_, [e], rfl, by simpa using href⟩
  have hmove := Stock.counters_adjust (s := db.stock) hkind hrow p
  exact hmove.1

theorem apart_of_listed {db : Db} {productId : Uuid} {stock : Int} {b' : Book}
    (hfresh : db.inventory.get productId = none)
    {products : Table Product.id}
    (hbook : b' = { db.book with
      products, stock := ⟨db.inventory.put ⟨productId, stock, 0⟩, db.inventoryHistory⟩ }) :
    db.book.Apart b' := by
  subst hbook
  refine ⟨rfl, fun p => ?_, [], by simp [Db.book], by simp⟩
  simp only [Stock.reserved, Table.get_put, Db.book, Db.stock]
  split
  · rename_i hp
    rw [hp, hfresh]
    rfl
  · rfl

theorem Effect.reservation {db db' : Db} {request : Request} (h : Effect db request db') :
    Reservation db request db'.book := by
  cases h with
  | quiet book => exact .apart ⟨by rw [book], fun p => by rw [book], [], by simp [book], by simp⟩
  | listed fresh book => exact .apart (apart_of_listed fresh book)
  | updated old new found stored book =>
    exact .apart ⟨by rw [book], fun p => by rw [book], [], by simp [book], by simp⟩
  | archived old found book =>
    exact .apart ⟨by rw [book], fun p => by rw [book], [], by simp [book], by simp⟩
  | restocked actorId row book => exact .apart (apart_of_total (Or.inl rfl) rfl row book)
  | adjusted actorId row book => exact .apart (apart_of_total (Or.inr rfl) rfl row book)
  | paymentInitiated order authority found payable fresh book =>
    exact .apart ⟨by rw [book]; rfl, fun p => by rw [book]; rfl, [], by simp [book, Book.withPayment],
      by simp⟩
  | placed userId items fresh lines reservable book =>
    exact .placed _ fresh rfl reservable book
  | @cancelled subject orderId now _ user order found covers allowed book =>
    have hid : order.id = orderId := Table.key_of_get found
    have hfound : db.book.orders.get order.id = some order := hid ▸ found
    by_cases hreleased : order.status ∈ OrderService.releasedOnCancel
    · rw [OrderService.cancelEntries, if_pos hreleased] at book
      refine .taken order (order.transitioned .cancelled now) .release
        ⟨hfound, rfl, rfl, by rw [book]; rfl, by rw [book]; rfl, ?_⟩ (Or.inl rfl) hreleased
        (by simp [Order.transitioned, openStatuses]) fun _ => ⟨subject, now, by rw [hid]⟩
      exact fun e he => (stockEntries_spec _ _ _ he).2.1
    · rw [OrderService.cancelEntries, if_neg hreleased] at book
      refine .kept order (order.transitioned .cancelled now)
        ⟨hfound, rfl, rfl, by rw [book]; rfl, by rw [book]; rfl, by simp⟩ allowed (Or.inl ⟨?_, rfl⟩)
      have hsub : openStatuses ⊆ OrderService.releasedOnCancel := by decide
      exact fun hopen => hreleased (hsub hopen)
  | @reviewed subject orderId data now _ actor order found allowed notRefunded book =>
    have hid : order.id = orderId := Table.key_of_get found
    exact .kept order (order.transitioned data.newStatus now)
      ⟨hid ▸ found, rfl, rfl, by rw [book]; rfl, by rw [book]; rfl, by simp⟩ allowed
      (Or.inr ⟨subject, data, now, by rw [hid], rfl⟩)
  | @refunded subject orderId data now _ actor order refund found allowed isRefunded type wallet amount
      reference book =>
    have hid : order.id = orderId := Table.key_of_get found
    exact .kept order (order.transitioned .refunded now)
      ⟨hid ▸ found, rfl, rfl, by rw [book]; rfl, by rw [book]; rfl, by simp⟩ allowed
      (Or.inr ⟨subject, data, now, by rw [hid], isRefunded.symm⟩)
  | @settled zarinpal authority status now _ payment answer paid order byAuthority wasInitiated
      outcome found covers allowed book =>
    have hid : order.id = payment.orderId := Table.key_of_get found
    have hawaiting : order.status = .awaitingPayment := PaymentService.awaiting_iff.mp allowed
    refine .taken order (order.transitioned (PaymentService.settledStatus paid).1 now)
      (PaymentService.settledMove paid)
      ⟨hid ▸ found, rfl, rfl, by rw [book]; rfl, by rw [book]; rfl, ?_⟩ (PaymentService.settledMove_takes paid)
      ?_ ?_ ?_
    · exact fun e he => (stockEntries_spec _ _ _ he).2.1
    · rw [hawaiting]
      decide
    · cases paid <;> simp [Order.transitioned, PaymentService.settledStatus, openStatuses]
    · intro hpaid
      rw [hawaiting] at hpaid
      cases hpaid

/-- What a take leaves reserved. -/
theorem reserved_taken {db : Db} {b' : Book} {order order' : Order} {kind : InventoryChangeType}
    (hnonneg : db.stock.Nonneg)
    (habout : db.book.About b' order order' (stockEntries order.id none order.items kind))
    (htakes : kind = .release ∨ kind = .purchase) (p : Uuid) :
    b'.stock.reserved p = max 0 (db.stock.reserved p - orderQuantity order.items p) := by
  rw [habout.stock, show db.book.stock = db.stock from rfl, Stock.reserved_take hnonneg ?_ ?_,
    quantityIn_stockEntries]
  · intro e he
    rw [(stockEntries_spec _ _ _ he).1]
    exact htakes
  · exact fun e he => (stockEntries_spec _ _ _ he).2.2.1

/-- What a take leaves the order holding. -/
theorem held_taken {b b' : Book} {order order' : Order} {kind : InventoryChangeType}
    (habout : b.About b' order order' (stockEntries order.id none order.items kind))
    (htakes : kind = .release ∨ kind = .purchase) (p : Uuid) :
    b'.held order.id p = b.held order.id p - orderQuantity order.items p := by
  rw [habout.held, held_stockEntries]
  rcases htakes with rfl | rfl <;> rfl

theorem Db.Constraints.nonneg {db : Db} (h : db.Constraints) : db.stock.Nonneg := by
  intro p r hr
  have hrow := h.inventory r (Table.mem_of_get hr)
  exact ⟨hrow.2.1, hrow.1⟩

theorem Db.Constraints.reserved_le_total {db : Db} (h : db.Constraints) (p : Uuid) :
    db.stock.reserved p ≤ db.stock.total p := by
  change ((db.inventory.get p).map _).getD 0 ≤ ((db.inventory.get p).map _).getD 0
  cases hget : db.inventory.get p with
  | none => simp
  | some r => exact (h.inventory r (Table.mem_of_get hget)).2.2.1

end ElectronicShop
