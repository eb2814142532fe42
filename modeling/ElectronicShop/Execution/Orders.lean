import ElectronicShop.Execution.Stock
import ElectronicShop.Model.Orders

/-!
# Order operations that run alone
-/

namespace ElectronicShop

open Txn

/-! ## Transitions and stock loops -/

/-- The order object after `_transition`. -/
def Order.transitioned (order : Order) (newStatus : OrderStatus) (now : DateTime) : Order :=
  { order with
    status := newStatus
    cancelledAt := if newStatus = .cancelled then some now else order.cancelledAt }

/-- The database after `_transition` of an order it holds. -/
def Db.transitioned (db : Db) (order : Order) (newStatus : OrderStatus) (actorId : Option Uuid)
    (note : Option String) (now : DateTime) : Db :=
  { db with
    orders := db.orders.put (order.transitioned newStatus now)
    statusHistory := db.statusHistory ++
      [⟨order.id, some order.status, newStatus, actorId, note, now⟩] }

/-- The log entries of a stock loop over the items of an order. -/
def stockEntries (orderId : Uuid) (actorId : Option Uuid) (items : List OrderItem)
    (kind : InventoryChangeType) : List InventoryHistory :=
  items.filterMap fun item => item.productId.map fun productId =>
    ⟨productId, kind, item.quantity, some "order", some orderId, actorId⟩

section StockEntries

variable (orderId : Uuid) (actorId : Option Uuid) (item : OrderItem) (rest : List OrderItem)
  (kind : InventoryChangeType)

@[simp] theorem stockEntries_nil : stockEntries orderId actorId [] kind = [] := rfl

theorem stockEntries_cons_none (h : item.productId = none) :
    stockEntries orderId actorId (item :: rest) kind = stockEntries orderId actorId rest kind := by
  simp [stockEntries, h]

theorem stockEntries_cons_some {p : Uuid} (h : item.productId = some p) :
    stockEntries orderId actorId (item :: rest) kind =
      ⟨p, kind, item.quantity, some "order", some orderId, actorId⟩ ::
        stockEntries orderId actorId rest kind := by
  simp [stockEntries, h]

theorem stockEntries_cons : stockEntries orderId actorId (item :: rest) kind =
    stockEntries orderId actorId [item] kind ++ stockEntries orderId actorId rest kind :=
  List.filterMap_append (l := [item])

theorem stockEntries_spec {items : List OrderItem} {e : InventoryHistory}
    (h : e ∈ stockEntries orderId actorId items kind) :
    e.changeType = kind ∧ e.referenceId = some orderId ∧ 0 ≤ e.quantity ∧
    ∃ item ∈ items, item.productId = some e.productId := by
  obtain ⟨item, hitem, he⟩ := List.mem_filterMap.mp h
  obtain ⟨p, hp, rfl⟩ := Option.map_eq_some_iff.mp he
  exact ⟨rfl, rfl, Int.natCast_nonneg _, item, hitem, hp⟩

end StockEntries

namespace OrderService

variable {db db' : Db} {order order' : Order} {orderId : Uuid} {newStatus : OrderStatus}
  {actorId : Option Uuid} {note : Option String} {now : DateTime} {u : Unit}

theorem run_transition_ok :
    db.run (transition order newStatus actorId note now) = .ok (order', db') ↔
      newStatus ∈ allowedTransitions order.status ∧ order' = order.transitioned newStatus now ∧
      db' = { db with
        orders := db.orders.modify order.id fun o => o.transitioned newStatus now
        statusHistory := db.statusHistory ++
          [⟨order.id, some order.status, newStatus, actorId, note, now⟩] } := by
  unfold transition
  split
  · rename_i h
    simp [h]
  · rename_i h
    rw [not_not] at h
    by_cases hc : newStatus = .cancelled
    · subst hc
      simp [Write.apply, Order.transitioned, h, eq_comm, Table.modify_modify]
    · simp [Write.apply, Order.transitioned, h, hc, eq_comm]

/-- Transition of an order as it is in the database. -/
theorem run_transition_ok_of_get (h : db.orders.get order.id = some order) :
    db.run (transition order newStatus actorId note now) = .ok (order', db') ↔
      newStatus ∈ allowedTransitions order.status ∧ order' = order.transitioned newStatus now ∧
      db' = db.transitioned order newStatus actorId note now := by
  rw [run_transition_ok, Table.modify_of_get _ h]
  rfl

theorem run_getById_bind_ok {β : Type} {f : Order → Tx β} {b : β} :
    db.run (getById orderId >>= f) = .ok (b, db') ↔
      ∃ order, db.orders.get orderId = some order ∧ db.run (f order) = .ok (b, db') :=
  Db.run_orRaise_bind_ok

/-- A loop over the items of an order whose body is one stock mutator. -/
theorem run_forProducts_ok {act : Uuid → Int → Tx Unit} {kind : InventoryChangeType}
    (hact : ∀ (db db' : Db) productId quantity u, db.run (act productId quantity) = .ok (u, db') ↔
      (db.inventory.get productId).isSome ∧ db' = db.withStock (db.stock.move
        ⟨productId, kind, quantity, some "order", some order.id, none⟩)) :
    db.run (forProducts order act) = .ok (u, db') ↔
      db.stock.Covers (stockEntries order.id none order.items kind) ∧
      db' = db.withStock (db.stock.moveAll (stockEntries order.id none order.items kind)) := by
  unfold forProducts
  generalize order.items = items
  induction items generalizing db with
  | nil => simp [eq_comm]
  | cons item rest ih =>
    rw [Prog.forM_cons, Db.run_bind_ok]
    cases hp : item.productId with
    | none =>
      rw [stockEntries_cons_none _ _ _ _ _ hp, ← ih]
      constructor
      · rintro ⟨_, _, hskip, hrest⟩
        cases hskip
        exact hrest
      · intro hrest
        exact ⟨_, _, rfl, hrest⟩
    | some productId =>
      rw [stockEntries_cons_some _ _ _ _ _ hp]
      simp only [hact, Stock.covers_cons, Stock.moveAll_cons]
      constructor
      · rintro ⟨_, db₁, ⟨hrow, rfl⟩, hrest⟩
        obtain ⟨hcover, rfl⟩ := ih.mp hrest
        exact ⟨⟨hrow, Stock.covers_move.mp hcover⟩, rfl⟩
      · rintro ⟨⟨hrow, hcover⟩, rfl⟩
        exact ⟨(), _, ⟨hrow, rfl⟩, ih.mpr ⟨Stock.covers_move.mpr hcover, rfl⟩⟩

/-- `mark_paid`, in the form shared with `mark_payment_failed`: a stock loop, then
    the transition. -/
theorem run_moveStock_transition_ok {act : Uuid → Int → Tx Unit} {kind : InventoryChangeType}
    (hact : ∀ (db db' : Db) productId quantity u, db.run (act productId quantity) = .ok (u, db') ↔
      (db.inventory.get productId).isSome ∧ db' = db.withStock (db.stock.move
        ⟨productId, kind, quantity, some "order", some order.id, none⟩))
    (h : db.orders.get order.id = some order) :
    db.run (forProducts order act >>= fun _ => transition order newStatus actorId note now) =
        .ok (order', db') ↔
      db.stock.Covers (stockEntries order.id none order.items kind) ∧
      newStatus ∈ allowedTransitions order.status ∧ order' = order.transitioned newStatus now ∧
      db' = (db.withStock (db.stock.moveAll
        (stockEntries order.id none order.items kind))).transitioned order newStatus actorId note
          now := by
  rw [Db.run_bind_ok]
  constructor
  · rintro ⟨_, db₁, hloop, htransition⟩
    obtain ⟨hcover, rfl⟩ := (run_forProducts_ok hact).mp hloop
    obtain ⟨hallowed, rfl, rfl⟩ := (run_transition_ok_of_get (by simpa using h)).mp htransition
    exact ⟨hcover, hallowed, rfl, rfl⟩
  · rintro ⟨hcover, hallowed, rfl, rfl⟩
    exact ⟨(), _, (run_forProducts_ok hact).mpr ⟨hcover, rfl⟩,
      (run_transition_ok_of_get (by simpa using h)).mpr ⟨hallowed, rfl, rfl⟩⟩

theorem run_markPaid_ok :
    db.run (markPaid orderId now) = .ok (order', db') ↔
      ∃ order, db.orders.get orderId = some order ∧
        db.stock.Covers (stockEntries order.id none order.items .purchase) ∧
        .paid ∈ allowedTransitions order.status ∧ order' = order.transitioned .paid now ∧
        db' = (db.withStock (db.stock.moveAll
          (stockEntries order.id none order.items .purchase))).transitioned order .paid none
            (some "پرداخت با موفقیت تأیید شد.") now := by
  unfold markPaid
  rw [run_getById_bind_ok]
  refine exists_congr fun order => and_congr_right fun hget => ?_
  exact run_moveStock_transition_ok (fun _ _ _ _ _ => InventoryService.run_commitPurchase_ok)
    (Table.key_of_get hget ▸ hget)

theorem run_markPaymentFailed_ok :
    db.run (markPaymentFailed orderId now) = .ok (order', db') ↔
      ∃ order, db.orders.get orderId = some order ∧
        db.stock.Covers (stockEntries order.id none order.items .release) ∧
        .paymentFailed ∈ allowedTransitions order.status ∧
        order' = order.transitioned .paymentFailed now ∧
        db' = (db.withStock (db.stock.moveAll
          (stockEntries order.id none order.items .release))).transitioned order .paymentFailed none
            (some "پرداخت ناموفق بود.") now := by
  unfold markPaymentFailed
  rw [run_getById_bind_ok]
  refine exists_congr fun order => and_congr_right fun hget => ?_
  exact run_moveStock_transition_ok (fun _ _ _ _ _ => InventoryService.run_release_ok)
    (Table.key_of_get hget ▸ hget)

/-- What `_authorize_access` lets through. -/
def Authorized (order : Order) (user : User) : Prop :=
  order.userId = user.id ∨ user.role ∈ [UserRole.admin, UserRole.superAdmin]

theorem run_authorizeAccess_bind_ok {β : Type} {user : User} {f : Unit → Tx β} {b : β} :
    db.run (authorizeAccess order user >>= f) = .ok (b, db') ↔
      Authorized order user ∧ db.run (f ()) = .ok (b, db') := by
  unfold authorizeAccess Authorized
  split
  · rename_i h
    simp only [Prog.raise_bind, Db.run_raise, reduceCtorEq, false_iff, not_and]
    rintro (h' | h')
    · exact absurd h' h.1
    · exact absurd h' h.2
  · rename_i h
    rw [not_and_or, not_not, not_not] at h
    simp only [Prog.pure_eq, Prog.done_bind, h, true_and]

/-- The log entries of `cancel`. -/
def cancelEntries (order : Order) : List InventoryHistory :=
  if order.status ∈ releasedOnCancel then stockEntries order.id none order.items .release else []

theorem run_releaseOnCancel_ok :
    db.run (releaseOnCancel order) = .ok (u, db') ↔
      db.stock.Covers (cancelEntries order) ∧
      db' = db.withStock (db.stock.moveAll (cancelEntries order)) := by
  unfold releaseOnCancel cancelEntries
  split
  · exact run_forProducts_ok fun _ _ _ _ _ => InventoryService.run_release_ok
  · simp [eq_comm]

theorem run_cancel_ok {user : User} :
    db.run (cancel orderId user now) = .ok (order', db') ↔
      ∃ order, db.orders.get orderId = some order ∧ Authorized order user ∧
        db.stock.Covers (cancelEntries order) ∧ .cancelled ∈ allowedTransitions order.status ∧
        order' = order.transitioned .cancelled now ∧
        db' = (db.withStock (db.stock.moveAll (cancelEntries order))).transitioned order .cancelled
          (some user.id) (some "سفارش لغو شد.") now := by
  unfold cancel
  rw [run_getById_bind_ok]
  refine exists_congr fun order => and_congr_right fun hget => ?_
  rw [run_authorizeAccess_bind_ok, Db.run_bind_ok]
  refine and_congr_right fun _ => ?_
  have hget' : db.orders.get order.id = some order := Table.key_of_get hget ▸ hget
  constructor
  · rintro ⟨_, db₁, hrelease, htransition⟩
    obtain ⟨hcover, rfl⟩ := run_releaseOnCancel_ok.mp hrelease
    obtain ⟨hallowed, rfl, rfl⟩ := (run_transition_ok_of_get (by simpa using hget')).mp htransition
    exact ⟨hcover, hallowed, rfl, rfl⟩
  · rintro ⟨hcover, hallowed, rfl, rfl⟩
    exact ⟨(), _, run_releaseOnCancel_ok.mpr ⟨hcover, rfl⟩,
      (run_transition_ok_of_get (by simpa using hget')).mpr ⟨hallowed, rfl, rfl⟩⟩

theorem run_adminUpdateStatus_ok {actor : Uuid} :
    db.run (adminUpdateStatus orderId newStatus note actor now) = .ok (order', db') ↔
      ∃ order, db.orders.get orderId = some order ∧
        newStatus ∈ allowedTransitions order.status ∧ order' = order.transitioned newStatus now ∧
        db' = db.transitioned order newStatus (some actor) note now := by
  unfold adminUpdateStatus
  rw [run_getById_bind_ok]
  refine exists_congr fun order => and_congr_right fun hget => ?_
  exact run_transition_ok_of_get (Table.key_of_get hget ▸ hget)

end OrderService

/-! ## Carts and checkout -/

/-- The cart lines after one of them is deleted. -/
def CartItem.deleteFrom (t : Table CartItem.key) (item : CartItem) : Table CartItem.key :=
  t.eraseIf item.key fun r => r.id = item.id

/-- The database after the items of a user's cart are deleted. -/
def Db.clearCart (db : Db) (userId : Uuid) : Db :=
  { db with cartItems := (db.itemsOf userId).foldl CartItem.deleteFrom db.cartItems }

/-- The database after `checkout` has placed an order. -/
def Db.placed (db : Db) (order : Order) : Db :=
  Db.clearCart
    { db with
      orders := db.orders.put order
      statusHistory := db.statusHistory ++ [⟨order.id, some .pending, .awaitingPayment,
        some order.userId, none, order.createdAt⟩]
      inventory := (db.stock.moveAll
        (stockEntries order.id (some order.userId) order.items .reserve)).rows
      inventoryHistory := (db.stock.moveAll
        (stockEntries order.id (some order.userId) order.items .reserve)).log }
    order.userId

theorem Db.mem_itemsOf {db : Db} {userId : Uuid} {c : CartItem} :
    c ∈ db.itemsOf userId ↔ c ∈ db.cartItems.rows ∧ c.userId = userId := by
  simp [Db.itemsOf]

/-- A cart has one line for a product at most. -/
theorem Db.nodup_itemsOf (db : Db) (userId : Uuid) :
    ((db.itemsOf userId).map CartItem.productId).Nodup := by
  have hkeys : ((db.itemsOf userId).map CartItem.key).Nodup :=
    db.cartItems.nodup.sublist (List.filter_sublist.map CartItem.key)
  refine List.Nodup.of_map (fun p => (userId, p)) ?_
  rw [List.map_map]
  refine (List.map_congr_left fun c hc => ?_).symm ▸ hkeys
  simp [CartItem.key, (mem_itemsOf.mp hc).2]

theorem CartItem.rows_deleteFrom (items : List CartItem) (t : Table CartItem.key) :
    (items.foldl deleteFrom t).rows =
      t.rows.filter fun c => ∀ item ∈ items, ¬ (c.key = item.key ∧ c.id = item.id) := by
  induction items generalizing t with
  | nil => simp
  | cons item rest ih =>
    rw [List.foldl_cons, ih]
    simp only [deleteFrom, Table.eraseIf, List.filter_filter]
    refine List.filter_congr fun c _ => ?_
    rw [← Bool.decide_and]
    simp only [List.forall_mem_cons, decide_eq_true_eq]
    exact decide_eq_decide.mpr and_comm

/-- Deleting the lines of one cart leaves those of the others. -/
theorem Db.cartItems_clearCart (db : Db) (userId : Uuid) :
    (db.clearCart userId).cartItems.rows =
      db.cartItems.rows.filter fun c => c.userId ≠ userId := by
  change (List.foldl _ db.cartItems (db.itemsOf userId)).rows = _
  rw [CartItem.rows_deleteFrom]
  refine List.filter_congr fun c hc => decide_eq_decide.mpr ?_
  constructor
  · intro h huser
    exact h c (mem_itemsOf.mpr ⟨hc, huser⟩) ⟨rfl, rfl⟩
  · rintro huser item hitem ⟨hkey, -⟩
    have hsame : c.userId = item.userId := congrArg Prod.fst hkey
    exact huser (hsame.trans (mem_itemsOf.mp hitem).2)

theorem Db.itemsOf_clearCart (db : Db) (userId : Uuid) : (db.clearCart userId).itemsOf userId = [] := by
  simp [Db.itemsOf, cartItems_clearCart]

theorem Db.itemsOf_clearCart_of_ne (db : Db) {userId u : Uuid} (h : u ≠ userId) :
    (db.clearCart userId).itemsOf u = db.itemsOf u := by
  rw [Db.itemsOf, cartItems_clearCart, List.filter_filter]
  refine List.filter_congr fun c _ => ?_
  by_cases hc : c.userId = u
  · simp [hc, h]
  · simp [hc]

/-- Item rows are added to an order. -/
def Db.addItems (db : Db) (orderId : Uuid) (items : List OrderItem) : Db :=
  { db with orders := db.orders.modify orderId fun o => { o with items := o.items ++ items } }

namespace CartRepository

variable {db db' : Db} {userId : Uuid} {items : List CartItem}

theorem run_getOrCreate_ok :
    db.run (getOrCreate userId) = .ok (items, db') ↔
      (db.carts.get userId).isSome ∧ items = db.itemsOf userId ∧ db' = db ∨
      db.carts.get userId = none ∧ items = [] ∧ db' = { db with carts := db.carts.put ⟨userId⟩ } := by
  unfold getOrCreate
  rw [Db.run_send_bind]
  simp only [Stmt.exec]
  cases hget : db.carts.get userId with
  | some cart => simp [eq_comm]
  | none =>
    simp only [Option.map_none, Db.run_bind_ok, Db.run_insert_ok, NewRow.taken, NewRow.insert, hget,
      Option.isSome_none, true_and, false_and, false_or, Bool.false_eq_true]
    constructor
    · rintro ⟨_, _, rfl, hdone⟩
      cases hdone
      exact ⟨rfl, rfl⟩
    · rintro ⟨rfl, rfl⟩
      exact ⟨(), _, rfl, rfl⟩

theorem run_deleteItems (items : List CartItem) (db : Db) :
    db.run (items.forM fun item => write (.deleteCartItem item.id item.userId item.productId)) =
      .ok ((), { db with cartItems := items.foldl CartItem.deleteFrom db.cartItems }) := by
  induction items generalizing db with
  | nil => rfl
  | cons item rest ih =>
    rw [Prog.forM_cons, Db.run_write_bind, ih]
    rfl

theorem run_clear : db.run (clear userId) = .ok ((), db.clearCart userId) :=
  run_deleteItems (db.itemsOf userId) db

end CartRepository

namespace OrderService

variable {db db' : Db} {orderId userId : Uuid} {subtotal subtotal' : Int}

/-- The order item of a cart line at the product's price. -/
def orderItem (product : Product) (cartItem : CartItem) : OrderItem where
  productId := some product.id
  productNameSnapshot := product.name
  skuSnapshot := product.sku
  unitPriceSnapshot := effectiveUnitPrice product
  quantity := cartItem.quantity
  subtotal := effectiveUnitPrice product * cartItem.quantity

/-- A cart line and the order item `checkout` makes of it: the product exists and
    is active. -/
def IsLine (products : Table Product.id) (cartItem : CartItem) (item : OrderItem) : Prop :=
  ∃ product, products.get cartItem.productId = some product ∧ product.isActive = true ∧
    item = orderItem product cartItem

/-- Every line of a cart is of a product that exists and is active, exactly when there are
    order items for all of them. -/
theorem exists_lines {products : Table Product.id} {cart : List CartItem} :
    (∃ items, List.Forall₂ (IsLine products) cart items) ↔
      ∀ c ∈ cart, ∃ product, products.get c.productId = some product ∧ product.isActive = true := by
  constructor
  · rintro ⟨items, hlines⟩
    induction hlines with
    | nil => simp
    | cons hline _ ih =>
      obtain ⟨product, hproduct, hactive, -⟩ := hline
      exact List.forall_mem_cons.mpr ⟨⟨product, hproduct, hactive⟩, ih⟩
  · intro h
    induction cart with
    | nil => exact ⟨[], .nil⟩
    | cons c rest ih =>
      obtain ⟨⟨product, hproduct, hactive⟩, hrest⟩ := List.forall_mem_cons.mp h
      obtain ⟨items, hlines⟩ := ih hrest
      exact ⟨_, .cons ⟨product, hproduct, hactive, rfl⟩ hlines⟩

/-- The stock entries of an order, read off its cart. -/
theorem stockEntries_of_lines {products : Table Product.id} {cart : List CartItem}
    {items : List OrderItem} (h : List.Forall₂ (IsLine products) cart items) (actorId : Option Uuid)
    (kind : InventoryChangeType) : stockEntries orderId actorId items kind =
      cart.map fun c => ⟨c.productId, kind, c.quantity, some "order", some orderId, actorId⟩ := by
  induction h with
  | nil => rfl
  | cons hline _ ih =>
    obtain ⟨product, hproduct, -, rfl⟩ := hline
    rw [stockEntries_cons_some _ _ _ _ _ rfl, ih, List.map_cons, ← Table.key_of_get hproduct]
    rfl

theorem run_checkoutItem_ok {cartItem : CartItem} :
    db.run (checkoutItem orderId userId subtotal cartItem) = .ok (subtotal', db') ↔
      ∃ item, IsLine db.products cartItem item ∧
        db.stock.Reservable (stockEntries orderId (some userId) [item] .reserve) ∧
        subtotal' = subtotal + item.subtotal ∧
        db' = (db.addItems orderId [item]).withStock
          (db.stock.moveAll (stockEntries orderId (some userId) [item] .reserve)) := by
  unfold checkoutItem
  simp only [Db.run_send_bind, Stmt.exec, Db.run_orRaise_bind_ok, Option.map_eq_some_iff]
  constructor
  · rintro ⟨_, ⟨product, hproduct, rfl⟩, h⟩
    simp only at h
    split at h
    · simp at h
    · rename_i hactive
      rw [Db.run_write_bind, Db.run_bind_ok] at h
      obtain ⟨_, db₁, hreserve, hdone⟩ := h
      obtain ⟨r, hr, hq, rfl⟩ := InventoryService.run_reserve_ok.mp hreserve
      cases hdone
      refine ⟨orderItem product cartItem, ⟨product, hproduct, by simpa using hactive, rfl⟩, ?_, rfl,
        rfl⟩
      exact ⟨⟨r, hr, hq⟩, trivial⟩
  · rintro ⟨_, ⟨product, hproduct, hactive, rfl⟩, ⟨⟨r, hr, hq⟩, -⟩, rfl, rfl⟩
    refine ⟨_, ⟨product, hproduct, rfl⟩, ?_⟩
    simp only [hactive, Bool.true_eq_false, if_false]
    rw [Db.run_write_bind, Db.run_bind_ok]
    exact ⟨(), _, InventoryService.run_reserve_ok.mpr ⟨r, hr, hq, rfl⟩, rfl⟩

theorem addItems_addItems (db : Db) (xs ys : List OrderItem) :
    (db.addItems orderId xs).addItems orderId ys = db.addItems orderId (xs ++ ys) := by
  simp only [Db.addItems, Table.modify_modify db.orders orderId
    (f := fun o => { o with items := o.items ++ xs })
    (g := fun o => { o with items := o.items ++ ys }) (fun _ => rfl) fun _ => rfl,
    List.append_assoc]

theorem Db.addItems_withStock (db : Db) (s : Stock) (items : List OrderItem) :
    (db.withStock s).addItems orderId items = (db.addItems orderId items).withStock s := rfl

theorem addItems_nil (db : Db) : db.addItems orderId [] = db := by
  have hid : (fun o : Order => { o with items := o.items ++ [] }) = id := by
    funext o
    simp
  simp only [Db.addItems, hid, Table.modify_id]

theorem run_checkoutItems_ok {cart : List CartItem} :
    db.run (cart.foldlM (checkoutItem orderId userId) subtotal) = .ok (subtotal', db') ↔
      ∃ items, List.Forall₂ (IsLine db.products) cart items ∧
        db.stock.Reservable (stockEntries orderId (some userId) items .reserve) ∧
        subtotal' = subtotal + (items.map OrderItem.subtotal).sum ∧
        db' = (db.addItems orderId items).withStock
          (db.stock.moveAll (stockEntries orderId (some userId) items .reserve)) := by
  induction cart generalizing db subtotal with
  | nil =>
    constructor
    · intro h
      cases h
      exact ⟨[], .nil, trivial, by simp, by simp [addItems_nil]⟩
    · rintro ⟨items, hlines, -, rfl, rfl⟩
      cases hlines
      simp [addItems_nil]
  | cons c rest ih =>
    rw [List.foldlM_cons, Db.run_bind_ok]
    constructor
    · rintro ⟨sub, db₁, hfirst, hrest⟩
      obtain ⟨item, hline, hitem, rfl, rfl⟩ := run_checkoutItem_ok.mp hfirst
      obtain ⟨items, hlines, hreserve, rfl, rfl⟩ := ih.mp hrest
      refine ⟨item :: items, .cons hline hlines, ?_, ?_, ?_⟩
      · rw [stockEntries_cons orderId (some userId) item items]
        exact Stock.reservable_append.mpr ⟨hitem, hreserve⟩
      · simp only [List.map_cons, List.sum_cons]
        omega
      · rw [stockEntries_cons orderId (some userId) item items, Stock.moveAll_append,
          Db.addItems_withStock, addItems_addItems]
        rfl
    · rintro ⟨_, hlines, hreserve, rfl, rfl⟩
      cases hlines with
      | @cons _ item _ items hline hlines =>
        rw [stockEntries_cons orderId (some userId) item items, Stock.reservable_append] at hreserve
        refine ⟨_, _, run_checkoutItem_ok.mpr ⟨item, hline, hreserve.1, rfl, rfl⟩,
          ih.mpr ⟨items, hlines, hreserve.2, ?_, ?_⟩⟩
        · simp only [List.map_cons, List.sum_cons]
          omega
        · rw [stockEntries_cons orderId (some userId) item items, Stock.moveAll_append,
            Db.addItems_withStock, addItems_addItems]
          rfl

/-- The order `checkout` first inserts. -/
def newOrder (userId : Uuid) (shippingAddress : Option ShippingAddress) (orderId : Uuid)
    (now : DateTime) : Order where
  id := orderId
  userId := userId
  status := .pending
  subtotal := 0
  total := 0
  shippingAddress := shippingAddress
  cancelledAt := none
  createdAt := now
  items := []

/-- The order `checkout` leaves. -/
def placedOrder (userId : Uuid) (shippingAddress : Option ShippingAddress) (orderId : Uuid)
    (now : DateTime) (items : List OrderItem) : Order where
  id := orderId
  userId := userId
  status := .awaitingPayment
  subtotal := (items.map OrderItem.subtotal).sum
  total := (items.map OrderItem.subtotal).sum
  shippingAddress := shippingAddress
  cancelledAt := none
  createdAt := now
  items := items

/-- Three updates of the new order leave the placed one. -/
theorem put_newOrder (orders : Table Order.id) (shippingAddress : Option ShippingAddress)
    (now : DateTime) (items : List OrderItem) (total : Int)
    (htotal : total = (items.map OrderItem.subtotal).sum) :
    (((orders.put (newOrder userId shippingAddress orderId now)).modify orderId
        fun o => { o with items := o.items ++ items }).modify orderId
        fun o => { o with subtotal := total, total := total }).modify orderId
        (fun o => o.transitioned .awaitingPayment now) =
      orders.put (placedOrder userId shippingAddress orderId now items) := by
  have hput := fun (o : Order) (f : Order → Order) (ho : o.id = orderId) (hf : (f o).id = o.id) =>
    Table.modify_put orders o ho hf
  rw [hput _ _ rfl rfl, hput _ _ rfl rfl, hput _ _ rfl rfl, htotal]
  rfl

theorem run_finishCheckout (db : Db) (shippingAddress : Option ShippingAddress) (now : DateTime)
    (items : List OrderItem) (s : Stock) :
    ((Db.addItems
        { db with orders := db.orders.put (newOrder userId shippingAddress orderId now) }
        orderId items).withStock s).run
      (finishCheckout (newOrder userId shippingAddress orderId now)
        (items.map OrderItem.subtotal).sum now) =
    .ok (placedOrder userId shippingAddress orderId now items,
      (Db.withStock
        { db with
          orders := db.orders.put (placedOrder userId shippingAddress orderId now items)
          statusHistory := db.statusHistory ++ [⟨orderId, some .pending, .awaitingPayment,
            some userId, none, now⟩] } s).clearCart userId) := by
  unfold finishCheckout
  rw [Db.run_write_bind]
  refine Db.run_bind_ok.mpr ⟨_, Db.withStock
    { db with
      orders := db.orders.put (placedOrder userId shippingAddress orderId now items)
      statusHistory := db.statusHistory ++ [⟨orderId, some .pending, .awaitingPayment,
        some userId, none, now⟩] } s, run_transition_ok.mpr ⟨?_, rfl, ?_⟩, ?_⟩
  · simp [newOrder, allowedTransitions]
  · have horders := @put_newOrder orderId userId db.orders shippingAddress now items _ rfl
    simp only [newOrder, Write.apply, Db.withStock, Db.addItems] at horders ⊢
    rw [horders]
  · refine Db.run_bind_ok.mpr ⟨_, _, CartRepository.run_clear, ?_⟩
    rw [Db.run_flush_bind, Db.run_send_bind]
    refine Db.run_orRaise_ok.mpr ⟨?_, rfl⟩
    exact Table.get_put_self db.orders (placedOrder userId shippingAddress orderId now items)

theorem run_checkout_ok {shippingAddress : Option ShippingAddress} {now : DateTime}
    {order : Order} :
    db.run (checkout userId shippingAddress orderId now) = .ok (order, db') ↔
      ∃ items, (db.carts.get userId).isSome ∧ db.itemsOf userId ≠ [] ∧
        db.orders.get orderId = none ∧
        List.Forall₂ (IsLine db.products) (db.itemsOf userId) items ∧
        db.stock.Reservable (stockEntries orderId (some userId) items .reserve) ∧
        order = placedOrder userId shippingAddress orderId now items ∧ db' = db.placed order := by
  unfold checkout
  rw [Db.run_bind_ok]
  constructor
  · rintro ⟨cart, db₁, hcart, h⟩
    rcases CartRepository.run_getOrCreate_ok.mp hcart with ⟨hexists, rfl, rfl⟩ | ⟨-, rfl, rfl⟩
    · cases hempty : (db₁.itemsOf userId).isEmpty with
      | true => simp [hempty] at h
      | false =>
        simp only [hempty, Bool.false_eq_true, if_false] at h
        obtain ⟨_, db₂, hinsert, h⟩ := Db.run_bind_ok.mp h
        obtain ⟨hfree, rfl⟩ := Db.run_insert_ok.mp hinsert
        obtain ⟨subtotal, db₃, hloop, h⟩ := Db.run_bind_ok.mp h
        obtain ⟨items, hlines, hreserve, rfl, rfl⟩ := run_checkoutItems_ok.mp hloop
        rw [Int.zero_add] at h
        cases h.symm.trans (run_finishCheckout db₁ shippingAddress now items _)
        refine ⟨items, hexists, ?_, ?_, hlines, hreserve, rfl, rfl⟩
        · simpa using hempty
        · simpa [NewRow.taken] using hfree
    · simp at h
  · rintro ⟨items, hexists, hcart, hfree, hlines, hreserve, rfl, rfl⟩
    refine ⟨_, _, CartRepository.run_getOrCreate_ok.mpr (Or.inl ⟨hexists, rfl, rfl⟩), ?_⟩
    rw [if_neg (by simpa using hcart)]
    refine Db.run_bind_ok.mpr ⟨(), _, Db.run_insert_ok.mpr ⟨by simp [NewRow.taken, hfree], rfl⟩, ?_⟩
    refine Db.run_bind_ok.mpr ⟨_, _, run_checkoutItems_ok.mpr ⟨items, hlines, hreserve, rfl, rfl⟩, ?_⟩
    rw [Int.zero_add]
    exact run_finishCheckout db shippingAddress now items _

end OrderService

end ElectronicShop
