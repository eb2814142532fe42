import ElectronicShop.Model.Data
import ElectronicShop.Txn.Prog
import ElectronicShop.Txn.Table

/-!
# The database and its statements

`Db` is the committed content of the tables, `Write` one change that the unit of
work of a session sends, `Stmt` one statement of the repositories. `Stmt.exec`
is what a statement does when no other transaction is running; what it does in a
session among others is in `ElectronicShop.Model.Session`.
-/

namespace ElectronicShop

open Txn

structure Db where
  users : Table User.id
  categories : Table Category.id
  products : Table Product.id
  inventory : Table ProductInventory.productId
  inventoryHistory : List InventoryHistory
  carts : Table Cart.userId
  cartItems : Table CartItem.key
  orders : Table Order.id
  statusHistory : List OrderStatusHistory
  payments : Table Payment.id
  wallets : Table Wallet.userId
  walletTransactions : List WalletTransaction

/-- The database after `alembic upgrade head`. -/
def Db.empty : Db where
  users := ∅
  categories := ∅
  products := ∅
  inventory := ∅
  inventoryHistory := []
  carts := ∅
  cartItems := ∅
  orders := ∅
  statusHistory := []
  payments := ∅
  wallets := ∅
  walletTransactions := []

/-- The `CHECK` constraints of `product_inventory` and its column type. -/
def ProductInventory.Valid (r : ProductInventory) : Prop :=
  0 ≤ r.stockTotal ∧ 0 ≤ r.stockReserved ∧ r.stockReserved ≤ r.stockTotal ∧ r.stockTotal < 2 ^ 31

instance (r : ProductInventory) : Decidable r.Valid := inferInstanceAs (Decidable (_ ∧ _))

/-- What the tables declare and PostgreSQL enforces at the latest at commit: the
    `CHECK` and `UNIQUE` constraints and the ranges of the column types. Primary
    keys are part of `Txn.Table`; a foreign key is not listed where the handler
    has read the row it points to, because no modelled handler deletes one. A
    quantity in the stock log is not listed either: it is that of a line or of an
    item, or the difference of two totals, which are in the range of its column. -/
structure Db.Constraints (db : Db) : Prop where
  inventory : ∀ r ∈ db.inventory.rows, r.Valid
  products : ∀ p ∈ db.products.rows, p.fits
  skus : (db.products.rows.map Product.sku).Nodup
  slugs : (db.products.rows.map Product.slug).Nodup
  orders : ∀ o ∈ db.orders.rows, o.fits
  statusHistory : ∀ e ∈ db.statusHistory, ∀ n ∈ e.note, fitsVarchar 500 n
  payments : ∀ p ∈ db.payments.rows, p.fits
  authorities : (db.payments.rows.filterMap Payment.authority).Nodup
  wallets : ∀ w ∈ db.wallets.rows, fitsNumeric 14 w.balance
  walletTransactions : ∀ t ∈ db.walletTransactions, t.fits

theorem Db.constraints_iff (db : Db) : db.Constraints ↔
    (∀ r ∈ db.inventory.rows, r.Valid) ∧ (∀ p ∈ db.products.rows, p.fits) ∧
    (db.products.rows.map Product.sku).Nodup ∧ (db.products.rows.map Product.slug).Nodup ∧
    (∀ o ∈ db.orders.rows, o.fits) ∧
    (∀ e ∈ db.statusHistory, ∀ n ∈ e.note, fitsVarchar 500 n) ∧
    (∀ p ∈ db.payments.rows, p.fits) ∧
    (db.payments.rows.filterMap Payment.authority).Nodup ∧
    (∀ w ∈ db.wallets.rows, fitsNumeric 14 w.balance) ∧ ∀ t ∈ db.walletTransactions, t.fits := by
  constructor
  · rintro ⟨h₁, h₂, h₃, h₄, h₅, h₆, h₇, h₈, h₉, h₁₀⟩
    exact ⟨h₁, h₂, h₃, h₄, h₅, h₆, h₇, h₈, h₉, h₁₀⟩
  · rintro ⟨h₁, h₂, h₃, h₄, h₅, h₆, h₇, h₈, h₉, h₁₀⟩
    exact ⟨h₁, h₂, h₃, h₄, h₅, h₆, h₇, h₈, h₉, h₁₀⟩

instance (db : Db) : Decidable db.Constraints := decidable_of_iff _ db.constraints_iff.symm

/-! ## Writes -/

/-- A new row of a table with a primary key. -/
inductive NewRow where
  | product (row : Product)
  | inventory (row : ProductInventory)
  | cart (row : Cart)
  | cartItem (row : CartItem)
  | order (row : Order)
  | payment (row : Payment)
  | wallet (row : Wallet)

/-- Whether the primary key (or the unique owner) of a new row is taken. -/
def NewRow.taken (db : Db) : NewRow → Bool
  | .product row => (db.products.get row.id).isSome
  | .inventory row => (db.inventory.get row.productId).isSome
  | .cart row => (db.carts.get row.userId).isSome
  | .cartItem row => (db.cartItems.get row.key).isSome
  | .order row => (db.orders.get row.id).isSome
  | .payment row => (db.payments.get row.id).isSome
  | .wallet row => (db.wallets.get row.userId).isSome

/-- One `INSERT`, `UPDATE` of the changed columns of a product or of one column, or
    `DELETE`. The new value of a column is
    absolute: the session computed it from what it had loaded. -/
inductive Write where
  | add (row : NewRow)
  | setProduct (old new : Product)
  | setStockTotal (productId : Uuid) (value : Int)
  | setStockReserved (productId : Uuid) (value : Int)
  | addInventoryHistory (entry : InventoryHistory)
  | setCartItemQuantity (id userId productId : Uuid) (quantity : Nat)
  | deleteCartItem (id userId productId : Uuid)
  | addOrderItem (orderId : Uuid) (item : OrderItem)
  | setOrderAmounts (orderId : Uuid) (subtotal total : Int)
  | setOrderStatus (orderId : Uuid) (status : OrderStatus)
  | setOrderCancelledAt (orderId : Uuid) (time : DateTime)
  | addStatusHistory (entry : OrderStatusHistory)
  | setPaymentStatus (paymentId : Uuid) (status : PaymentStatus)
  | setPaymentAuthority (paymentId : Uuid) (authority : String)
  | setPaymentResponse (paymentId : Uuid) (raw : String)
  | setPaymentReference (paymentId : Uuid) (referenceId : Option String)
  | setPaymentVerifiedAt (paymentId : Uuid) (time : DateTime)
  | setWalletBalance (userId : Uuid) (balance : Int)
  | addWalletTransaction (entry : WalletTransaction)

def NewRow.insert (db : Db) : NewRow → Db
  | .product row => { db with products := db.products.put row }
  | .inventory row => { db with inventory := db.inventory.put row }
  | .cart row => { db with carts := db.carts.put row }
  | .cartItem row => { db with cartItems := db.cartItems.put row }
  | .order row => { db with orders := db.orders.put row }
  | .payment row => { db with payments := db.payments.put row }
  | .wallet row => { db with wallets := db.wallets.put row }

def Write.apply (db : Db) : Write → Db
  | .add row => row.insert db
  | .setProduct old new => { db with products := db.products.modify old.id (old.setChanged new) }
  | .setStockTotal p v =>
    { db with inventory := db.inventory.modify p fun r => { r with stockTotal := v } }
  | .setStockReserved p v =>
    { db with inventory := db.inventory.modify p fun r => { r with stockReserved := v } }
  | .addInventoryHistory e => { db with inventoryHistory := db.inventoryHistory ++ [e] }
  | .setCartItemQuantity id u p q =>
    { db with
      cartItems := db.cartItems.modify (u, p) fun r => if r.id = id then { r with quantity := q } else r }
  | .deleteCartItem id u p =>
    { db with cartItems := db.cartItems.eraseIf (u, p) fun r => r.id = id }
  | .addOrderItem o item =>
    { db with orders := db.orders.modify o fun r => { r with items := r.items ++ [item] } }
  | .setOrderAmounts o subtotal total =>
    { db with orders := db.orders.modify o fun r => { r with subtotal, total } }
  | .setOrderStatus o status =>
    { db with orders := db.orders.modify o fun r => { r with status } }
  | .setOrderCancelledAt o time =>
    { db with orders := db.orders.modify o fun r => { r with cancelledAt := some time } }
  | .addStatusHistory e => { db with statusHistory := db.statusHistory ++ [e] }
  | .setPaymentStatus p status =>
    { db with payments := db.payments.modify p fun r => { r with status } }
  | .setPaymentAuthority p authority =>
    { db with payments := db.payments.modify p fun r => { r with authority := some authority } }
  | .setPaymentResponse p raw =>
    { db with payments := db.payments.modify p fun r => { r with rawGatewayResponse := some raw } }
  | .setPaymentReference p referenceId =>
    { db with payments := db.payments.modify p fun r => { r with referenceId } }
  | .setPaymentVerifiedAt p time =>
    { db with payments := db.payments.modify p fun r => { r with verifiedAt := some time } }
  | .setWalletBalance u balance =>
    { db with wallets := db.wallets.modify u fun r => { r with balance } }
  | .addWalletTransaction e => { db with walletTransactions := db.walletTransactions ++ [e] }

/-! ## Statements -/

/-- The rows of a user's cart. -/
def Db.itemsOf (db : Db) (userId : Uuid) : List CartItem :=
  db.cartItems.rows.filter fun r => r.userId = userId

/-- The payment with a given authority: there is at most one (`unique=True`). -/
def Db.paymentBy (db : Db) (authority : String) : Option Payment :=
  db.payments.rows.find? fun p => p.authority = some authority

inductive Stmt where
  | getUser (id : Uuid)
  | getCategory (id : Uuid)
  /-- `ProductRepository.get_by_id`: the product and, by `selectinload`, its
      inventory row, both without a lock. -/
  | getProduct (id : Uuid)
  | getProductBySlugOrSku (slug sku : String)
  /-- `InventoryRepository.lock_for_update`: `SELECT ... FOR UPDATE`. -/
  | lockInventory (productId : Uuid)
  /-- The cart of a user with its items, when the user has one. -/
  | getCart (userId : Uuid)
  | getCartItem (userId productId : Uuid)
  | getCartItems (userId : Uuid)
  /-- `UPDATE` of the quantity of a loaded line, answered with whether its row was
      still there. -/
  | updateCartItem (item : CartItem) (quantity : Nat)
  | getOrder (id : Uuid)
  | getPaymentByAuthority (authority : String)
  /-- `PaymentRepository.try_claim`: `UPDATE ... WHERE id = id AND status = fromStatus`,
      answered with whether a row was changed. -/
  | claimPayment (id : Uuid) (fromStatus toStatus : PaymentStatus)
  /-- `session.refresh(payment)`. -/
  | refreshPayment (id : Uuid)
  | getWallet (userId : Uuid)
  /-- `WalletRepository.lock_by_user_id`: `SELECT ... FOR UPDATE`. -/
  | lockWallet (userId : Uuid)
  /-- `INSERT INTO wallets ... ON CONFLICT (user_id) DO NOTHING`, answered with
      whether the foreign key to `users` holds. -/
  | insertWalletIfAbsent (userId : Uuid)
  /-- `session.add` of a new row and its flush, answered with whether the row's
      key was free. -/
  | insert (row : NewRow)
  /-- A change to loaded objects, or a new log row, left to the unit of work. -/
  | write (w : Write)
  | flush

def Stmt.Resp : Stmt → Type
  | .getUser _ => Option User
  | .getCategory _ => Option Category
  | .getProduct _ => Option (Product × Option ProductInventory)
  | .getProductBySlugOrSku _ _ => List Product
  | .lockInventory _ => Option ProductInventory
  | .getCart _ => Option (List CartItem)
  | .getCartItem _ _ => Option CartItem
  | .getCartItems _ => List CartItem
  | .updateCartItem _ _ => Bool
  | .getOrder _ => Option Order
  | .getPaymentByAuthority _ => Option Payment
  | .claimPayment _ _ _ => Bool
  | .refreshPayment _ => Option Payment
  | .getWallet _ => Option Wallet
  | .lockWallet _ => Option Wallet
  | .insertWalletIfAbsent _ => Bool
  | .insert _ => Bool
  | .write _ => Unit
  | .flush => Unit

/-- The interface of the shop's database. -/
def shop : Interface := ⟨Stmt, Stmt.Resp⟩

/-- The transaction programs of the services. -/
abbrev Tx (α : Type) : Type := Prog shop ShopError α

/-- Send one statement. -/
def send (s : Stmt) : Tx s.Resp := Prog.send (I := shop) s

/-- Leave a change to the unit of work. -/
def write (w : Write) : Tx Unit := send (.write w)

def flush : Tx Unit := send .flush

/-- Add a row and flush it. -/
def insert (row : NewRow) : Tx Unit := do
  match ← send (.insert row) with
  | true => pure ()
  | false => .raise .database

/-- `if x is None: raise error`. -/
def orRaise {α : Type} (error : ShopError) : Option α → Tx α
  | some a => pure a
  | none => .raise error

/-- A statement on a database nobody else is using. -/
def Stmt.exec : (s : Stmt) → Db → s.Resp × Db
  | .getUser id, db => (db.users.get id, db)
  | .getCategory id, db => (db.categories.get id, db)
  | .getProduct id, db => ((db.products.get id).map fun p => (p, db.inventory.get id), db)
  | .getProductBySlugOrSku slug sku, db =>
    (db.products.rows.filter fun p => p.slug = slug ∨ p.sku = sku, db)
  | .lockInventory p, db => (db.inventory.get p, db)
  | .getCart u, db => ((db.carts.get u).map fun _ => db.itemsOf u, db)
  | .getCartItem u p, db => (db.cartItems.get (u, p), db)
  | .getCartItems u, db => (db.itemsOf u, db)
  | .updateCartItem item quantity, db =>
    if (db.cartItems.get item.key).map CartItem.id = some item.id then
      (true, (Write.setCartItemQuantity item.id item.userId item.productId quantity).apply db)
    else (false, db)
  | .getOrder id, db => (db.orders.get id, db)
  | .getPaymentByAuthority authority, db => (db.paymentBy authority, db)
  | .claimPayment id fromStatus toStatus, db =>
    if (db.payments.get id).map Payment.status = some fromStatus then
      (true, (Write.setPaymentStatus id toStatus).apply db)
    else (false, db)
  | .refreshPayment id, db => (db.payments.get id, db)
  | .getWallet u, db => (db.wallets.get u, db)
  | .lockWallet u, db => (db.wallets.get u, db)
  | .insertWalletIfAbsent u, db =>
    if (db.wallets.get u).isSome then (true, db)
    else if (db.users.get u).isSome then (true, (Write.add (.wallet ⟨u, 0⟩)).apply db)
    else (false, db)
  | .insert row, db => if row.taken db then (false, db) else (true, (Write.add row).apply db)
  | .write w, db => ((), w.apply db)
  | .flush, db => ((), db)

/-- Run a program on a database nobody else is using. -/
def Db.run {α : Type} (db : Db) (m : Tx α) : Except ShopError (α × Db) := m.run Stmt.exec db

end ElectronicShop
