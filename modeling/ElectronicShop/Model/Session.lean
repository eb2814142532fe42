import ElectronicShop.Model.Database
import ElectronicShop.Txn.IdentityMap
import ElectronicShop.Txn.Serial

/-!
# Sessions

What a statement does while other transactions are running: an `AsyncSession`
over one READ COMMITTED transaction. The session keeps the rows it has loaded as
objects and answers a query for such a row with the object, also when it has just
been granted the row's lock. A change is made to the object and sent as an
absolute value, at the next flush or at commit. PostgreSQL lets no two
transactions write one row; a statement that has to waits for the other's end.

The rows kept are those that the code still refers to when it queries them
again. The wallet that `get_or_create` reads is dropped before it is locked.
-/

namespace ElectronicShop

open Txn

/-! ## Rows and their locks -/

/-- A row, by its primary key. -/
inductive RowKey where
  | product (id : Uuid)
  | inventory (productId : Uuid)
  | cart (userId : Uuid)
  | cartItem (userId productId : Uuid)
  | order (id : Uuid)
  | payment (id : Uuid)
  | wallet (userId : Uuid)
  deriving DecidableEq, Repr

def NewRow.key : NewRow → RowKey
  | .product row => .product row.id
  | .inventory row => .inventory row.productId
  | .cart row => .cart row.userId
  | .cartItem row => .cartItem row.userId row.productId
  | .order row => .order row.id
  | .payment row => .payment row.id
  | .wallet row => .wallet row.userId

/-- The row a write locks. A log row or an order item is new, and nobody else can
    write it. -/
def Write.locks : Write → Option RowKey
  | .add row => some row.key
  | .setProduct old _ => some (.product old.id)
  | .setStockTotal p _ => some (.inventory p)
  | .setStockReserved p _ => some (.inventory p)
  | .setCartItemQuantity _ u p _ => some (.cartItem u p)
  | .deleteCartItem _ u p => some (.cartItem u p)
  | .setOrderAmounts o _ _ => some (.order o)
  | .setOrderStatus o _ => some (.order o)
  | .setOrderCancelledAt o _ => some (.order o)
  | .setPaymentStatus p _ => some (.payment p)
  | .setPaymentAuthority p _ => some (.payment p)
  | .setPaymentResponse p _ => some (.payment p)
  | .setPaymentReference p _ => some (.payment p)
  | .setPaymentVerifiedAt p _ => some (.payment p)
  | .setWalletBalance u _ => some (.wallet u)
  | .addOrderItem _ _ => none
  | .addInventoryHistory _ => none
  | .addStatusHistory _ => none
  | .addWalletTransaction _ => none

/-! ## The memory of a session -/

structure Session where
  /-- The loaded rows, with the changes made to them. -/
  objects : Db
  /-- The same rows as they were when they were loaded. -/
  loaded : Db
  /-- The changes, flushed or not. -/
  pending : List Write

namespace Session

/-- The database as the transaction sees it: what is committed by now, with its own
    changes. -/
def view (w : Session) (db : Db) : Db := w.pending.foldl Write.apply db

/-- Make a change. -/
def send (w : Session) (x : Write) : Session :=
  { w with objects := x.apply w.objects, pending := w.pending ++ [x] }

/-- Load a row, unless its object is there already. -/
def load (w : Session) (db : Db) : RowKey → Session
  | .product id =>
    { w with
      objects := { w.objects with
        products := w.objects.products.remember w.objects.products (w.view db).products id }
      loaded := { w.loaded with
        products := w.loaded.products.remember w.objects.products (w.view db).products id } }
  | .inventory p =>
    { w with
      objects := { w.objects with
        inventory := w.objects.inventory.remember w.objects.inventory (w.view db).inventory p }
      loaded := { w.loaded with
        inventory := w.loaded.inventory.remember w.objects.inventory (w.view db).inventory p } }
  | .order id =>
    { w with
      objects := { w.objects with
        orders := w.objects.orders.remember w.objects.orders (w.view db).orders id }
      loaded := { w.loaded with
        orders := w.loaded.orders.remember w.objects.orders (w.view db).orders id } }
  | .payment id =>
    { w with
      objects := { w.objects with
        payments := w.objects.payments.remember w.objects.payments (w.view db).payments id }
      loaded := { w.loaded with
        payments := w.loaded.payments.remember w.objects.payments (w.view db).payments id } }
  | .wallet u =>
    { w with
      objects := { w.objects with
        wallets := w.objects.wallets.remember w.objects.wallets (w.view db).wallets u }
      loaded := { w.loaded with
        wallets := w.loaded.wallets.remember w.objects.wallets (w.view db).wallets u } }
  | .cart _ => w
  | .cartItem _ _ => w

/-- The object of a cart line, or else its row. -/
def itemObject (w : Session) (row : CartItem) : CartItem :=
  match w.objects.cartItems.get row.key with
  | some object => if object.id = row.id then object else row
  | none => row

/-- Load a cart line, unless its object is there already. -/
def loadItem (w : Session) (row : CartItem) : Session :=
  if (w.objects.cartItems.get row.key).map CartItem.id = some row.id then
    w
  else
    { w with
      objects := { w.objects with cartItems := w.objects.cartItems.put row }
      loaded := { w.loaded with cartItems := w.loaded.cartItems.put row } }

/-- Load a payment again, over its object. -/
def refresh (w : Session) (payment : Payment) : Session :=
  { w with objects := { w.objects with payments := w.objects.payments.put payment } }

end Session

/-! ## Statements in a session -/

def Stmt.execIn : (s : Stmt) → Session → Db → s.Resp × Session
  | .getProduct id, w, db =>
    match w.objects.products.lookup (w.view db).products id with
    | some product =>
      (some (product, w.objects.inventory.lookup (w.view db).inventory id),
        (w.load db (.product id)).load db (.inventory id))
    | none => (none, w)
  | .lockInventory p, w, db =>
    (w.objects.inventory.lookup (w.view db).inventory p, w.load db (.inventory p))
  | .getOrder id, w, db =>
    (w.objects.orders.lookup (w.view db).orders id, w.load db (.order id))
  | .getPaymentByAuthority authority, w, db =>
    match (w.view db).paymentBy authority with
    | some payment =>
      (w.objects.payments.lookup (w.view db).payments payment.id, w.load db (.payment payment.id))
    | none => (none, w)
  | .claimPayment id fromStatus toStatus, w, db =>
    if ((w.view db).payments.get id).map Payment.status = some fromStatus then
      (true, w.send (.setPaymentStatus id toStatus))
    else (false, w)
  | .refreshPayment id, w, db =>
    match (w.view db).payments.get id with
    | some payment => (some payment, w.refresh payment)
    | none => (none, w)
  -- the cart refers to its lines as long as a handler uses it
  | .getCart u, w, db =>
    match (w.view db).carts.get u with
    | some _ =>
      (some (((w.view db).itemsOf u).map w.itemObject), ((w.view db).itemsOf u).foldl Session.loadItem w)
    | none => (none, w)
  | .getCartItem u p, w, db =>
    match (w.view db).cartItems.get (u, p) with
    | some row => (some (w.itemObject row), w.loadItem row)
    | none => (none, w)
  | .getCartItems u, w, db => (((w.view db).itemsOf u).map w.itemObject, w)
  | .updateCartItem item quantity, w, db =>
    if ((w.view db).cartItems.get item.key).map CartItem.id = some item.id then
      (true, w.send (.setCartItemQuantity item.id item.userId item.productId quantity))
    else (false, w)
  | .lockWallet u, w, db =>
    (w.objects.wallets.lookup (w.view db).wallets u, w.load db (.wallet u))
  -- a statement of its own, not a new object
  | .insertWalletIfAbsent u, w, db =>
    if ((w.view db).wallets.get u).isSome then (true, w)
    else if ((w.view db).users.get u).isSome then
      (true, { w with pending := w.pending ++ [.add (.wallet ⟨u, 0⟩)] })
    else (false, w)
  | .insert row, w, db => if row.taken (w.view db) then (false, w) else (true, w.send (.add row))
  | .write x, w, _ => ((), w.send x)
  | .flush, w, _ => ((), w)
  -- queries whose rows are not kept
  | .getUser id, w, db => ((Stmt.getUser id).exec (w.view db) |>.1, w)
  | .getCategory id, w, db => ((Stmt.getCategory id).exec (w.view db) |>.1, w)
  | .getProductBySlugOrSku slug sku, w, db =>
    ((Stmt.getProductBySlugOrSku slug sku).exec (w.view db) |>.1, w)
  | .getWallet u, w, db => ((Stmt.getWallet u).exec (w.view db) |>.1, w)

/-- The locks a statement has to be granted: of the rows it writes at once, or asks
    for with `FOR UPDATE`. -/
def Stmt.needs : Stmt → Session → Db → List RowKey
  | .lockInventory p, w, db => if ((w.view db).inventory.get p).isSome then [.inventory p] else []
  | .lockWallet u, w, db => if ((w.view db).wallets.get u).isSome then [.wallet u] else []
  -- a row that does not match the condition is not waited for
  | .claimPayment id fromStatus _, w, db =>
    if ((w.view db).payments.get id).map Payment.status = some fromStatus then [.payment id] else []
  | .updateCartItem item _, w, db =>
    if ((w.view db).cartItems.get item.key).map CartItem.id = some item.id then
      [.cartItem item.userId item.productId]
    else []
  | .insertWalletIfAbsent u, w, db =>
    if ((w.view db).wallets.get u).isSome then [] else [.wallet u]
  | .insert row, _, _ => [row.key]
  | .flush, w, _ => w.pending.filterMap Write.locks
  | _, _, _ => []

/-- The shop's database under concurrent transactions. -/
def shopEngine : Engine shop ShopError Db Session RowKey where
  start := ⟨Db.empty, Db.empty, []⟩
  need := Stmt.needs
  exec := Stmt.execIn
  needCommit w := w.pending.filterMap Write.locks
  commit w db := if (w.view db).Constraints then .ok (w.view db) else .error .database

theorem shopEngine_commit_ok {w : Session} {db db' : Db} :
    shopEngine.commit w db = .ok db' ↔ (w.view db).Constraints ∧ db' = w.view db := by
  change (if (w.view db).Constraints then Except.ok (w.view db) else _) = Except.ok db' ↔ _
  split <;> simp [*, eq_comm]

theorem shopEngine_commit_error {w : Session} {db : Db} {e : ShopError} :
    shopEngine.commit w db = .error e ↔ ¬ (w.view db).Constraints ∧ e = .database := by
  change (if (w.view db).Constraints then Except.ok (w.view db) else _) = Except.error e ↔ _
  split <;> simp [*, eq_comm]

/-! ## A session that nobody interferes with -/

namespace Session

@[simp] theorem view_send (w : Session) (x : Write) (db : Db) :
    (w.send x).view db = x.apply (w.view db) := by
  simp [view, send]

@[simp] theorem view_load (w : Session) (db db' : Db) (k : RowKey) :
    (w.load db k).view db' = w.view db' := by
  cases k <;> rfl

/-- Loading cart lines touches nothing else of the memory. -/
theorem loadItems_eq (w : Session) (items : List CartItem) : ∃ objects loaded : Table CartItem.key,
    items.foldl loadItem w =
      ⟨{ w.objects with cartItems := objects }, { w.loaded with cartItems := loaded }, w.pending⟩ := by
  induction items generalizing w with
  | nil => exact ⟨w.objects.cartItems, w.loaded.cartItems, rfl⟩
  | cons item rest ih =>
    obtain ⟨objects, loaded, h⟩ := ih (w.loadItem item)
    rw [List.foldl_cons, h]
    unfold loadItem
    split
    · exact ⟨_, _, rfl⟩
    · exact ⟨_, _, rfl⟩

theorem loadItem_eq (w : Session) (item : CartItem) : ∃ objects loaded : Table CartItem.key,
    w.loadItem item =
      ⟨{ w.objects with cartItems := objects }, { w.loaded with cartItems := loaded }, w.pending⟩ :=
  w.loadItems_eq [item]

@[simp] theorem view_loadItems (w : Session) (items : List CartItem) (db : Db) :
    (items.foldl loadItem w).view db = w.view db := by
  obtain ⟨_, _, h⟩ := w.loadItems_eq items
  rw [h]
  rfl

@[simp] theorem view_loadItem (w : Session) (row : CartItem) (db : Db) :
    (w.loadItem row).view db = w.view db := w.view_loadItems [row] db

/-- The objects are rows of the database as the transaction sees it. -/
structure Coherent (w : Session) (db : Db) : Prop where
  products : Table.Sub w.objects.products (w.view db).products
  inventory : Table.Sub w.objects.inventory (w.view db).inventory
  cartItems : Table.Sub w.objects.cartItems (w.view db).cartItems
  orders : Table.Sub w.objects.orders (w.view db).orders
  payments : Table.Sub w.objects.payments (w.view db).payments
  wallets : Table.Sub w.objects.wallets (w.view db).wallets

namespace Coherent

variable {w : Session} {db : Db}

theorem load (h : w.Coherent db) (k : RowKey) : (w.load db k).Coherent db := by
  obtain ⟨hproducts, hinventory, hitems, horders, hpayments, hwallets⟩ := h
  cases k with
  | product id => exact ⟨hproducts.remember id, hinventory, hitems, horders, hpayments, hwallets⟩
  | inventory p => exact ⟨hproducts, hinventory.remember p, hitems, horders, hpayments, hwallets⟩
  | order id => exact ⟨hproducts, hinventory, hitems, horders.remember id, hpayments, hwallets⟩
  | payment id => exact ⟨hproducts, hinventory, hitems, horders, hpayments.remember id, hwallets⟩
  | wallet u => exact ⟨hproducts, hinventory, hitems, horders, hpayments, hwallets.remember u⟩
  | cart u => exact ⟨hproducts, hinventory, hitems, horders, hpayments, hwallets⟩
  | cartItem u p => exact ⟨hproducts, hinventory, hitems, horders, hpayments, hwallets⟩

theorem itemObject (h : w.Coherent db) {row : CartItem}
    (hrow : (w.view db).cartItems.get row.key = some row) : w.itemObject row = row := by
  unfold Session.itemObject
  cases hobject : w.objects.cartItems.get row.key with
  | none => rfl
  | some object =>
    obtain rfl : object = row := Option.some.inj ((h.cartItems _ _ hobject).symm.trans hrow)
    exact ite_self _

theorem itemObjects (h : w.Coherent db) {items : List CartItem}
    (hitems : ∀ row ∈ items, (w.view db).cartItems.get row.key = some row) :
    items.map w.itemObject = items := by
  rw [List.map_congr_left fun row hrow => h.itemObject (hitems row hrow)]
  exact List.map_id' items

theorem loadItem (h : w.Coherent db) {row : CartItem}
    (hrow : (w.view db).cartItems.get row.key = some row) : (w.loadItem row).Coherent db := by
  unfold Session.loadItem
  split
  · exact h
  · exact ⟨h.products, h.inventory, h.cartItems.put_get hrow, h.orders, h.payments, h.wallets⟩

theorem loadItems (h : w.Coherent db) {items : List CartItem}
    (hitems : ∀ row ∈ items, (w.view db).cartItems.get row.key = some row) :
    (items.foldl Session.loadItem w).Coherent db := by
  induction items generalizing w with
  | nil => exact h
  | cons item rest ih =>
    rw [List.forall_mem_cons] at hitems
    refine ih (h.loadItem hitems.1) fun row hrow => ?_
    rw [view_loadItem]
    exact hitems.2 row hrow

/-- A change is made to the object as to the row. -/
theorem send (h : w.Coherent db) (x : Write) : (w.send x).Coherent db := by
  obtain ⟨hproducts, hinventory, hitems, horders, hpayments, hwallets⟩ := h
  constructor <;> rw [view_send]
  · cases x with
    | add row =>
      cases row with
      | product row => exact hproducts.put row
      | _ => exact hproducts
    | setProduct old new => exact hproducts.modify fun _ hk => hk
    | _ => exact hproducts
  · cases x with
    | add row =>
      cases row with
      | inventory row => exact hinventory.put row
      | _ => exact hinventory
    | setStockTotal p v => exact hinventory.modify fun _ hk => hk
    | setStockReserved p v => exact hinventory.modify fun _ hk => hk
    | _ => exact hinventory
  · cases x with
    | add row =>
      cases row with
      | cartItem row => exact hitems.put row
      | _ => exact hitems
    | setCartItemQuantity id u p q =>
      refine hitems.modify fun r hk => ?_
      split
      · exact hk
      · exact hk
    | deleteCartItem id u p => exact hitems.eraseIf _ _
    | _ => exact hitems
  · cases x with
    | add row =>
      cases row with
      | order row => exact horders.put row
      | _ => exact horders
    | addOrderItem o item => exact horders.modify fun _ hk => hk
    | setOrderAmounts o subtotal total => exact horders.modify fun _ hk => hk
    | setOrderStatus o status => exact horders.modify fun _ hk => hk
    | setOrderCancelledAt o time => exact horders.modify fun _ hk => hk
    | _ => exact horders
  · cases x with
    | add row =>
      cases row with
      | payment row => exact hpayments.put row
      | _ => exact hpayments
    | setPaymentStatus p status => exact hpayments.modify fun _ hk => hk
    | setPaymentAuthority p authority => exact hpayments.modify fun _ hk => hk
    | setPaymentResponse p raw => exact hpayments.modify fun _ hk => hk
    | setPaymentReference p referenceId => exact hpayments.modify fun _ hk => hk
    | setPaymentVerifiedAt p time => exact hpayments.modify fun _ hk => hk
    | _ => exact hpayments
  · cases x with
    | add row =>
      cases row with
      | wallet row => exact hwallets.put row
      | _ => exact hwallets
    | setWalletBalance u balance => exact hwallets.modify fun _ hk => hk
    | _ => exact hwallets

theorem refresh (h : w.Coherent db) {payment : Payment}
    (hrow : (w.view db).payments.get payment.id = some payment) : (w.refresh payment).Coherent db :=
  ⟨h.products, h.inventory, h.cartItems, h.orders, h.payments.put_get hrow, h.wallets⟩

/-- A wallet that is inserted without an object. -/
theorem insertWallet (h : w.Coherent db) {u : Uuid} (hfresh : (w.view db).wallets.get u = none) :
    Coherent { w with pending := w.pending ++ [.add (.wallet ⟨u, 0⟩)] } db := by
  have hview : view { w with pending := w.pending ++ [.add (.wallet ⟨u, 0⟩)] } db =
      (Write.add (.wallet ⟨u, 0⟩)).apply (w.view db) := by
    simp [view]
  constructor <;> rw [hview]
  · exact h.products
  · exact h.inventory
  · exact h.cartItems
  · exact h.orders
  · exact h.payments
  · exact h.wallets.put_right hfresh

end Coherent

end Session

open Session in
/-- Alone, a statement has the answer and the effect that it has on the database the
    session sees. -/
theorem Stmt.execIn_alone (s : Stmt) {w : Session} {db : Db} (h : w.Coherent db) :
    (s.execIn w db).1 = (s.exec (w.view db)).1 ∧
    (s.execIn w db).2.view db = (s.exec (w.view db)).2 ∧ (s.execIn w db).2.Coherent db := by
  cases s with
  | getProduct id =>
    simp only [Stmt.execIn, Stmt.exec, h.products.lookup, h.inventory.lookup]
    cases hproduct : (w.view db).products.get id with
    | none => exact ⟨rfl, rfl, h⟩
    | some product => exact ⟨rfl, by simp, (h.load (.product id)).load (.inventory id)⟩
  | lockInventory p => exact ⟨h.inventory.lookup p, view_load .., h.load (.inventory p)⟩
  | getOrder id => exact ⟨h.orders.lookup id, view_load .., h.load (.order id)⟩
  | getPaymentByAuthority authority =>
    simp only [Stmt.execIn, Stmt.exec]
    cases hpayment : (w.view db).paymentBy authority with
    | none => exact ⟨rfl, rfl, h⟩
    | some payment =>
      have hget : (w.view db).payments.get payment.id = some payment :=
        Table.get_of_mem (List.mem_of_find?_eq_some hpayment)
      exact ⟨(h.payments.lookup payment.id).trans hget, view_load ..,
        h.load (.payment payment.id)⟩
  | getCart u =>
    simp only [Stmt.execIn, Stmt.exec]
    have hrows : ∀ row ∈ (w.view db).itemsOf u, (w.view db).cartItems.get row.key = some row :=
      fun row hrow => Table.get_of_mem (List.mem_filter.mp hrow).1
    cases (w.view db).carts.get u with
    | none => exact ⟨rfl, rfl, h⟩
    | some cart =>
      exact ⟨congrArg some (h.itemObjects hrows), view_loadItems .., h.loadItems hrows⟩
  | getCartItem u p =>
    simp only [Stmt.execIn, Stmt.exec]
    cases hrow : (w.view db).cartItems.get (u, p) with
    | none => exact ⟨rfl, rfl, h⟩
    | some row =>
      have hget : (w.view db).cartItems.get row.key = some row := Table.key_of_get hrow ▸ hrow
      exact ⟨congrArg some (h.itemObject hget), view_loadItem .., h.loadItem hget⟩
  | getCartItems u =>
    have hrows : ∀ row ∈ (w.view db).itemsOf u, (w.view db).cartItems.get row.key = some row :=
      fun row hrow => Table.get_of_mem (List.mem_filter.mp hrow).1
    exact ⟨h.itemObjects hrows, rfl, h⟩
  | updateCartItem item quantity =>
    simp only [Stmt.execIn, Stmt.exec]
    split
    · exact ⟨rfl, view_send .., h.send _⟩
    · exact ⟨rfl, rfl, h⟩
  | claimPayment id fromStatus toStatus =>
    simp only [Stmt.execIn, Stmt.exec]
    split
    · exact ⟨rfl, view_send .., h.send _⟩
    · exact ⟨rfl, rfl, h⟩
  | refreshPayment id =>
    simp only [Stmt.execIn, Stmt.exec]
    cases hpayment : (w.view db).payments.get id with
    | none => exact ⟨rfl, rfl, h⟩
    | some payment => exact ⟨rfl, rfl, h.refresh (Table.key_of_get hpayment ▸ hpayment)⟩
  | lockWallet u => exact ⟨h.wallets.lookup u, view_load .., h.load (.wallet u)⟩
  | insertWalletIfAbsent u =>
    simp only [Stmt.execIn, Stmt.exec]
    cases hwallet : (w.view db).wallets.get u with
    | some wallet => exact ⟨rfl, rfl, h⟩
    | none =>
      cases (w.view db).users.get u with
      | none => exact ⟨rfl, rfl, h⟩
      | some user => exact ⟨rfl, by simp [view], h.insertWallet hwallet⟩
  | insert row =>
    simp only [Stmt.execIn, Stmt.exec]
    split
    · exact ⟨rfl, rfl, h⟩
    · exact ⟨rfl, view_send .., h.send _⟩
  | write x => exact ⟨rfl, view_send .., h.send x⟩
  | flush => exact ⟨rfl, rfl, h⟩
  | _ => exact ⟨rfl, rfl, h⟩

/-- So a transaction that nobody interferes with does what it does alone. -/
def shopImplements : shopEngine.Implements Stmt.exec where
  view w db := w.view db
  coherent w db := w.Coherent db
  view_start _ := rfl
  coherent_start _ := ⟨Table.sub_empty _, Table.sub_empty _, Table.sub_empty _, Table.sub_empty _,
    Table.sub_empty _, Table.sub_empty _⟩
  step s _ _ h := s.execIn_alone h

end ElectronicShop
