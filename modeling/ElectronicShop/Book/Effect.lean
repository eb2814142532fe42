import ElectronicShop.Execution.Footprint
import ElectronicShop.Execution.Requests

/-!
# The order book

The book is the part of the database that products, orders, payments, stock and
refunds live in: an abstract machine whose moves are the business events. `Effect` is its
transition relation, one constructor an event, and `serve_effect` the refinement:
every request that is served moves the book by an event of its kind, or not at
all. The invariants of the later modules are proved once for each event.
-/

namespace ElectronicShop

open Txn

structure Book where
  products : Table Product.id
  stock : Stock
  orders : Table Order.id
  statusHistory : List OrderStatusHistory
  payments : Table Payment.id
  refunds : List WalletTransaction

/-- The book in a database; of the wallet ledger it has the refunds. -/
def Db.book (db : Db) : Book where
  products := db.products
  stock := db.stock
  orders := db.orders
  statusHistory := db.statusHistory
  payments := db.payments
  refunds := db.walletTransactions.filter fun t => t.type = .refund

namespace Book

def moveStock (b : Book) (entries : List InventoryHistory) : Book :=
  { b with stock := b.stock.moveAll entries }

/-- An order changes its status, and the change is logged. -/
def transitioned (b : Book) (order : Order) (newStatus : OrderStatus) (actorId : Option Uuid)
    (note : Option String) (now : DateTime) : Book :=
  { b with
    orders := b.orders.put (order.transitioned newStatus now)
    statusHistory := b.statusHistory ++
      [⟨order.id, some order.status, newStatus, actorId, note, now⟩] }

/-- A new order, with its stock reserved. -/
def placed (b : Book) (order : Order) : Book :=
  { b with
    orders := b.orders.put order
    statusHistory := b.statusHistory ++ [⟨order.id, some .pending, .awaitingPayment,
      some order.userId, none, order.createdAt⟩]
    stock := b.stock.moveAll
      (stockEntries order.id (some order.userId) order.items .reserve) }

def withPayment (b : Book) (payment : Payment) : Book :=
  { b with payments := b.payments.put payment }

/-- A payment of `order` is settled. -/
def settled (b : Book) (payment : Payment) (order : Order) (paid : Bool) (now : DateTime) : Book :=
  ((b.withPayment payment).moveStock (stockEntries order.id none order.items
    (PaymentService.settledMove paid))).transitioned order (PaymentService.settledStatus paid).1 none
      (some (PaymentService.settledStatus paid).2) now

end Book

/-- The events of the order book, by the requests that cause them. `db` is the
    database before and `db'` the one after. -/
inductive Effect (db : Db) : Request → Db → Prop where
  /-- Nothing happens to the book. -/
  | quiet {request : Request} {db' : Db} (book : db'.book = db.book) : Effect db request db'
  /-- A new product has a stock row. -/
  | listed {subject productId : Uuid} {data : ProductCreate} {db' : Db}
      (fresh : db.inventory.get productId = none)
      (book : db'.book = { db.book with
        products := db.products.put (ProductService.created data productId)
        stock := ⟨db.inventory.put ⟨productId, data.initialStock, 0⟩, db.inventoryHistory⟩ }) :
      Effect db (.createProduct subject data productId) db'
  | updated {subject productId : Uuid} {data : ProductUpdate} {db' : Db} (old new : Product)
      (found : db.products.get productId = some old)
      (stored : ProductService.updated old data = some new)
      (book : db'.book = { db.book with products := db.products.put new }) :
      Effect db (.updateProduct subject productId data) db'
  | archived {subject productId : Uuid} {db' : Db} (old : Product)
      (found : db.products.get productId = some old)
      (book : db'.book =
        { db.book with products := db.products.put { old with isActive := false } }) :
      Effect db (.archiveProduct subject productId) db'
  /-- The total of a product changes. -/
  | restocked {subject productId : Uuid} {data : InventoryAdjustRequest} {db' : Db}
      (actorId : Option Uuid) (row : (db.inventory.get productId).isSome)
      (book : db'.book = db.book.moveStock
        [⟨productId, .restock, data.delta, some "admin_restock", none, actorId⟩]) :
      Effect db (.restockProduct subject productId data) db'
  | adjusted {subject productId : Uuid} {data : InventoryAdjustRequest} {db' : Db}
      (actorId : Option Uuid) (row : (db.inventory.get productId).isSome)
      (book : db'.book = db.book.moveStock
        [⟨productId, .adjust, data.delta, some "admin_adjust", none, actorId⟩]) :
      Effect db (.adjustProductInventory subject productId data) db'
  /-- A cart becomes an order: its items are those of the cart, at current prices. -/
  | placed {subject orderId : Uuid} {shippingAddress : Option ShippingAddress} {now : DateTime}
      {db' : Db} (userId : Uuid) (items : List OrderItem)
      (fresh : db.orders.get orderId = none)
      (lines : List.Forall₂ (OrderService.IsLine db.products) (db.itemsOf userId) items)
      (reservable : db.stock.Reservable (stockEntries orderId (some userId) items .reserve))
      (book : db'.book = db.book.placed
        (OrderService.placedOrder userId shippingAddress orderId now items)) :
      Effect db (.checkout subject shippingAddress orderId now) db'
  | cancelled {subject orderId : Uuid} {now : DateTime} {db' : Db} (user : User) (order : Order)
      (found : db.orders.get orderId = some order)
      (covers : db.stock.Covers (OrderService.cancelEntries order))
      (allowed : .cancelled ∈ allowedTransitions order.status)
      (book : db'.book = (db.book.moveStock (OrderService.cancelEntries order)).transitioned order
        .cancelled (some user.id) (some "سفارش لغو شد.") now) :
      Effect db (.cancelOrder subject orderId now) db'
  /-- An admin sets the status, to anything but `refunded`. -/
  | reviewed {subject orderId : Uuid} {data : OrderStatusUpdateRequest} {now : DateTime} {db' : Db}
      (actor : Uuid) (order : Order) (found : db.orders.get orderId = some order)
      (allowed : data.newStatus ∈ allowedTransitions order.status)
      (notRefunded : data.newStatus ≠ .refunded)
      (book : db'.book =
        db.book.transitioned order data.newStatus (some actor) data.note now) :
      Effect db (.updateOrderStatus subject orderId data now) db'
  /-- An admin refunds the order. -/
  | refunded {subject orderId : Uuid} {data : OrderStatusUpdateRequest} {now : DateTime} {db' : Db}
      (actor : Uuid) (order : Order) (refund : WalletTransaction)
      (found : db.orders.get orderId = some order)
      (allowed : .refunded ∈ allowedTransitions order.status)
      (isRefunded : data.newStatus = .refunded)
      (type : refund.type = .refund) (wallet : refund.walletId = order.userId)
      (amount : refund.amount = order.total) (reference : refund.referenceId = some order.id)
      (book : db'.book =
        { db.book.transitioned order .refunded (some actor) data.note now with
          refunds := db.book.refunds ++ [refund] }) :
      Effect db (.updateOrderStatus subject orderId data now) db'
  | paymentInitiated {zarinpal : ZarinPalClient} {callbackUrl : String} {subject orderId : Uuid}
      {paymentId : Uuid} {db' : Db} (order : Order) (authority : String)
      (found : db.orders.get orderId = some order)
      (payable : order.status ∈ PaymentService.payableStatuses)
      (fresh : db.payments.get paymentId = none)
      (book : db'.book =
        db.book.withPayment (PaymentService.initiated order paymentId authority)) :
      Effect db (.initPayment zarinpal callbackUrl subject orderId paymentId) db'
  | settled {zarinpal : ZarinPalClient} {authority status : String} {now : DateTime} {db' : Db}
      (payment answer : Payment) (paid : Bool) (order : Order)
      (byAuthority : db.paymentBy authority = some payment)
      (wasInitiated : payment.status = .initiated)
      (outcome : PaymentService.outcome zarinpal payment authority status now =
        some (answer, paid))
      (found : db.orders.get payment.orderId = some order)
      (covers : db.stock.Covers
        (stockEntries order.id none order.items (PaymentService.settledMove paid)))
      (allowed : (PaymentService.settledStatus paid).1 ∈ allowedTransitions order.status)
      (book : db'.book = db.book.settled answer order paid now) :
      Effect db (.paymentCallback zarinpal authority status now) db'

/-! ## Requests that leave the book alone -/

/-- New rows outside the book. -/
def NewRow.keepsBook : NewRow → Bool
  | .cart _ | .cartItem _ | .wallet _ => true
  | .product _ | .inventory _ | .order _ | .payment _ => false

/-- Changes outside the book. -/
def Write.keepsBook : Write → Bool
  | .add row => row.keepsBook
  | .setCartItemQuantity .. | .deleteCartItem .. | .setWalletBalance .. => true
  | .addWalletTransaction t => t.type ≠ .refund
  | _ => false

def Stmt.keepsBook : Stmt → Bool
  | .claimPayment .. => false
  | .insert row => row.keepsBook
  | .write w => w.keepsBook
  | _ => true

theorem Write.book_apply {w : Write} (h : w.keepsBook) (db : Db) : (w.apply db).book = db.book := by
  cases w with
  | add row => cases row <;> first | rfl | cases h
  | addWalletTransaction t =>
    have ht : t.type ≠ .refund := by simpa [keepsBook] using h
    simp [Write.apply, Db.book, Db.stock, ht]
  | _ => first | rfl | cases h

theorem Stmt.book_exec {s : Stmt} (h : s.keepsBook) (db : Db) : (s.exec db).2.book = db.book := by
  cases s with
  | claimPayment id fromStatus toStatus => cases h
  | updateCartItem item quantity =>
    simp only [Stmt.exec]
    split
    · rfl
    · rfl
  | insertWalletIfAbsent u =>
    simp only [Stmt.exec]
    split
    · rfl
    · split
      · rfl
      · rfl
  | insert row =>
    simp only [Stmt.exec]
    split
    · rfl
    · exact Write.book_apply (w := .add row) h db
  | write w => exact Write.book_apply h db
  | _ => rfl

/-- A program of such statements. -/
abbrev KeepsBook {α : Type} (m : Tx α) : Prop := m.Uses fun s : Stmt => s.keepsBook = true

theorem KeepsBook.book_run {α : Type} {m : Tx α} (hm : KeepsBook m) {db db' : Db} {a : α}
    (h : db.run m = .ok (a, db')) : db'.book = db.book :=
  hm.run_frame Db.book (fun _ hs db => Stmt.book_exec hs db) h

section KeepsBook

variable {α β : Type}

/-- The tables outside the book. -/
abbrev quietTables : List TableName := [.carts, .cartItems, .wallets]

theorem Within.keepsBook {tables : List TableName} {m : Tx α} (hm : Within tables m)
    (h : ∀ t ∈ tables, t ∈ quietTables) : KeepsBook m := by
  refine Prog.Uses.mono (hm.mono h) fun s hs => ?_
  cases s with
  | claimPayment id fromStatus toStatus => cases hs
  | insert row => cases row <;> first | rfl | cases hs
  | write x =>
    cases x with
    | add row => cases row <;> first | rfl | cases hs
    | _ => first | rfl | cases hs
  | _ => rfl

theorem KeepsBook.bind {m : Tx α} {f : α → Tx β} (hm : KeepsBook m) (hf : ∀ a, KeepsBook (f a)) :
    KeepsBook (m >>= f) :=
  Prog.Uses.bind hm hf

theorem keepsBook_pure (a : α) : KeepsBook (pure a : Tx α) := trivial

theorem keepsBook_apply (userId : Uuid) {type : WalletTransactionType} (htype : type ≠ .refund)
    (amount : ℚ) (referenceType : Option String) (referenceId : Option Uuid) (note : Option String)
    (actorId : Option Uuid) :
    KeepsBook (WalletService.apply userId type amount referenceType referenceId note actorId) := by
  refine ((within_getOrCreateWallet _).keepsBook (by decide)).bind fun _ =>
    KeepsBook.bind ⟨rfl, fun _ => trivial⟩ fun wallet => ?_
  refine ((within_orRaise _ _ : Within [] _).keepsBook (by decide)).bind fun w => ?_
  simp only
  split
  · trivial
  · have hlog : ∀ t : WalletTransaction, t.type = type → KeepsBook (write (.addWalletTransaction t)) := by
      rintro t rfl
      exact ⟨by simpa [Stmt.keepsBook, Write.keepsBook] using htype, fun _ => trivial⟩
    refine KeepsBook.bind ⟨rfl, fun _ => trivial⟩ fun _ => (hlog _ rfl).bind fun _ => ?_
    exact KeepsBook.bind ⟨rfl, fun _ => trivial⟩ fun _ => keepsBook_pure _

theorem keepsBook_getCurrentUser (subject : Uuid) : KeepsBook (getCurrentUser subject) :=
  (within_getCurrentUser subject).keepsBook (by simp)

theorem keepsBook_authorized (subject : Uuid) (permission : Permission) :
    KeepsBook (authorized subject permission) :=
  (within_authorized subject permission).keepsBook (by simp)

/-- The requests that only look at the book: everything about carts and wallets. -/
def Request.IsQuiet : Request → Prop
  | .addCartItem .. | .updateCartItem .. | .removeCartItem .. | .clearCart .. | .getMyWallet ..
  | .depositToWallet .. | .adminGetWallet .. | .adminCreditWallet .. | .adminDebitWallet .. => True
  | _ => False

theorem keepsBook_handler {request : Request} (h : request.IsQuiet) : KeepsBook request.handler := by
  have hcart : ∀ t ∈ cartTables, t ∈ quietTables := by decide
  have hwallet : ∀ t ∈ [TableName.wallets], t ∈ quietTables := by decide
  cases request with
  | addCartItem subject data itemId =>
    exact (within_handler (.addCartItem subject data itemId)).keepsBook hcart
  | updateCartItem subject productId data =>
    exact (within_handler (.updateCartItem subject productId data)).keepsBook hcart
  | removeCartItem subject productId =>
    exact (within_handler (.removeCartItem subject productId)).keepsBook hcart
  | clearCart subject => exact (within_handler (.clearCart subject)).keepsBook hcart
  | getMyWallet subject => exact (within_handler (.getMyWallet subject)).keepsBook hwallet
  | depositToWallet subject data =>
    refine KeepsBook.bind ?_ fun _ => keepsBook_pure ()
    exact (keepsBook_getCurrentUser _).bind fun user => keepsBook_apply _ (by decide) _ _ _ _ _
  | adminGetWallet subject userId =>
    exact (within_handler (.adminGetWallet subject userId)).keepsBook hwallet
  | adminCreditWallet subject userId data =>
    refine KeepsBook.bind ?_ fun _ => keepsBook_pure ()
    exact (keepsBook_authorized _ _).bind fun user => keepsBook_apply _ (by decide) _ _ _ _ _
  | adminDebitWallet subject userId data =>
    refine KeepsBook.bind ?_ fun _ => keepsBook_pure ()
    exact (keepsBook_authorized _ _).bind fun user => keepsBook_apply _ (by decide) _ _ _ _ _
  | _ => exact h.elim

end KeepsBook

/-! ## The refinement -/

/-- The database an admin's status change leaves, in the two cases of the router. -/
theorem updateOrderStatus_effect {db db' : Db} {subject orderId : Uuid}
    {data : OrderStatusUpdateRequest} {now : DateTime} {order' : Order}
    (h : db.run (updateOrderStatus subject orderId data now) = .ok (order', db')) :
    Effect db (.updateOrderStatus subject orderId data now) db' := by
  obtain ⟨user, -, -, -, hrun⟩ := run_authorized_bind_ok.mp h
  obtain ⟨order₁, db₁, hadmin, hrest⟩ := Db.run_bind_ok.mp hrun
  obtain ⟨order, hfound, hallowed, rfl, rfl⟩ := OrderService.run_adminUpdateStatus_ok.mp hadmin
  obtain ⟨_, db₂, hrefund, hdone⟩ := Db.run_bind_ok.mp hrest
  cases hdone
  unfold refundIfRefunded at hrefund
  split at hrefund
  · rename_i hstatus
    have hstatus' : data.newStatus = .refunded := hstatus
    obtain ⟨t, db₃, happly, hdone⟩ := Db.run_bind_ok.mp hrefund
    cases hdone
    obtain ⟨-, ht, rfl⟩ := WalletService.run_apply_ok happly
    have htype : t.type = .refund := congrArg WalletTransaction.type ht
    have hamount : t.amount = numeric (order.total : ℚ) := congrArg WalletTransaction.amount ht
    refine .refunded user.id order t hfound (hstatus' ▸ hallowed) hstatus' htype
      (congrArg WalletTransaction.walletId ht) (hamount.trans (numeric_intCast order.total))
      (congrArg WalletTransaction.referenceId ht) ?_
    simp [Db.book, Db.stock, Db.transitioned, Book.transitioned, htype, hstatus']
  · rename_i hstatus
    cases hrefund
    exact .reviewed user.id order hfound hallowed hstatus rfl

/-- Every request that is served moves the order book by one of its events. -/
theorem serve_effect {request : Request} {store store' : Store}
    (h : serve request store = .ok store') : Effect store.db request store'.db := by
  rw [serve_ok] at h
  cases request with
  | checkout subject shippingAddress orderId now =>
    obtain ⟨order, hrun⟩ := Db.run_discard_ok.mp h
    obtain ⟨user, -, -, hrun⟩ := run_getCurrentUser_bind_ok.mp hrun
    obtain ⟨items, -, -, hfresh, hlines, hreservable, rfl, hdb⟩ :=
      OrderService.run_checkout_ok.mp hrun
    refine .placed user.id items hfresh hlines hreservable ?_
    rw [hdb]
    rfl
  | cancelOrder subject orderId now =>
    obtain ⟨order', hrun⟩ := Db.run_discard_ok.mp h
    obtain ⟨user, -, -, hrun⟩ := run_getCurrentUser_bind_ok.mp hrun
    obtain ⟨order, hfound, -, hcovers, hallowed, -, hdb⟩ := OrderService.run_cancel_ok.mp hrun
    refine .cancelled user order hfound hcovers hallowed ?_
    rw [hdb]
    rfl
  | updateOrderStatus subject orderId data now =>
    obtain ⟨order', hrun⟩ := Db.run_discard_ok.mp h
    exact updateOrderStatus_effect hrun
  | initPayment zarinpal callbackUrl subject orderId paymentId =>
    obtain ⟨answer, hrun⟩ := Db.run_discard_ok.mp h
    obtain ⟨user, -, -, hrun⟩ := run_getCurrentUser_bind_ok.mp hrun
    obtain ⟨order, result, hfound, -, hpayable, hfresh, -, -, hdb⟩ :=
      PaymentService.run_initPayment_ok.mp hrun
    refine .paymentInitiated order result.authority hfound hpayable hfresh ?_
    rw [hdb]
    rfl
  | paymentCallback zarinpal authority status now =>
    obtain ⟨answer, hrun⟩ := Db.run_discard_ok.mp h
    obtain ⟨payment, hby, hcases⟩ := PaymentService.run_handleCallback_ok.mp hrun
    rcases hcases with ⟨-, -, hdb⟩ |
      ⟨hinitiated, paid, houtcome, order, hfound, hcovers, hallowed, hdb⟩
    · rw [hdb]
      exact .quiet rfl
    · refine .settled payment answer paid order hby hinitiated houtcome hfound hcovers hallowed ?_
      rw [hdb]
      rfl
  | restockProduct subject productId data =>
    obtain ⟨user, -, -, -, hrun⟩ := run_authorized_bind_ok.mp h
    obtain ⟨hrow, hdb⟩ := InventoryService.run_restock_ok.mp hrun
    refine .restocked (some user.id) hrow ?_
    rw [hdb]
    rfl
  | adjustProductInventory subject productId data =>
    obtain ⟨user, -, -, -, hrun⟩ := run_authorized_bind_ok.mp h
    obtain ⟨r, hrow, -, hdb⟩ := InventoryService.run_adjust_ok.mp hrun
    refine .adjusted (some user.id) (Option.isSome_of_eq_some hrow) ?_
    rw [hdb]
    rfl
  | createProduct subject data productId =>
    obtain ⟨product, hrun⟩ := Db.run_discard_ok.mp h
    obtain ⟨user, -, -, -, hrun⟩ := run_authorized_bind_ok.mp hrun
    obtain ⟨-, -, -, -, hfresh, -, hdb⟩ := ProductService.run_create_ok.mp hrun
    refine .listed hfresh ?_
    rw [hdb]
    rfl
  | updateProduct subject productId data =>
    obtain ⟨product, hrun⟩ := Db.run_discard_ok.mp h
    obtain ⟨user, -, -, -, hrun⟩ := run_authorized_bind_ok.mp hrun
    obtain ⟨old, hfound, hstored, hdb⟩ := ProductService.run_update_ok hrun
    refine .updated old product hfound hstored ?_
    rw [hdb]
    rfl
  | archiveProduct subject productId =>
    obtain ⟨user, -, -, -, hrun⟩ := run_authorized_bind_ok.mp h
    obtain ⟨old, hfound, hdb⟩ := ProductService.run_archive_ok hrun
    refine .archived old hfound ?_
    rw [hdb]
    rfl
  | _ => exact .quiet (KeepsBook.book_run (keepsBook_handler (by trivial)) h)

end ElectronicShop
