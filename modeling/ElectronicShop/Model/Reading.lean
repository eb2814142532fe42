import ElectronicShop.Model.Idempotency
import ElectronicShop.Model.Search

/-!
# Reading orders and wallets

The `GET` endpoints of `app/modules/orders` and `app/modules/wallet`, each a query of the committed
database. Lists come with the newest row first; in which order rows of the same time come is a
parameter, and so is the whole order of the ledger rows, whose times are not part of the model.
-/

namespace ElectronicShop

open Txn

/-- What a transaction answers. -/
def Db.answer {α : Type} (db : Db) (m : Tx α) : Except ShopError α := (db.run m).map Prod.fst

/-! ## Orders -/

/-- `order_by(Order.created_at.desc())` allows the one order before the other. -/
def Order.NewestFirst (o o' : Order) : Prop := o'.createdAt ≤ o.createdAt

instance : DecidableRel Order.NewestFirst := fun o o' =>
  inferInstanceAs (Decidable (o'.createdAt ≤ o.createdAt))

/-- The orders of a user. -/
def Db.ordersOf (db : Db) (userId : Uuid) : List Order :=
  db.orders.rows.filter fun o => o.userId = userId

namespace OrderRepository

def listForUser (db : Db) (userId : Uuid) (offset limit : Nat)
    (orderBy : List Order → List Order) : List Order × Nat :=
  (((orderBy (db.ordersOf userId)).drop offset).take limit, (db.ordersOf userId).length)

def listAll (db : Db) (offset limit : Nat) (orderBy : List Order → List Order) :
    List Order × Nat :=
  (((orderBy db.orders.rows).drop offset).take limit, db.orders.rows.length)

end OrderRepository

/-- `get_for_user`. -/
def OrderService.getForUser (orderId : Uuid) (user : User) : Tx Order := do
  let order ← getById orderId
  authorizeAccess order user
  pure order

/-- `GET /orders`. -/
def listMyOrders (db : Db) (subject : Uuid) (params : PageParams)
    (orderBy : List Order → List Order) : Except ShopError (Page OrderPublic) := do
  let user ← db.answer (getCurrentUser subject)
  let (items, total) :=
    OrderRepository.listForUser db user.id params.offset params.pageSize orderBy
  pure (Page.create (items.map serializeOrder) total params)

/-- `GET /orders/{order_id}`. -/
def getOrder (subject orderId : Uuid) : Tx OrderPublic := do
  let user ← getCurrentUser subject
  let order ← OrderService.getForUser orderId user
  pure (serializeOrder order)

/-- `GET /admin/orders`. -/
def listAllOrders (db : Db) (subject : Uuid) (params : PageParams)
    (orderBy : List Order → List Order) : Except ShopError (Page OrderPublic) := do
  let _ ← db.answer (authorized subject .orderRead)
  let (items, total) := OrderRepository.listAll db params.offset params.pageSize orderBy
  pure (Page.create (items.map serializeOrder) total params)

/-! ## Wallets -/

/-- The ledger of a wallet. -/
def Db.transactionsOf (db : Db) (userId : Uuid) : List WalletTransaction :=
  db.walletTransactions.filter fun t => t.walletId = userId

def WalletRepository.listForWallet (db : Db) (walletId : Uuid) (offset limit : Nat)
    (orderBy : List WalletTransaction → List WalletTransaction) : List WalletTransaction × Nat :=
  (((orderBy (db.transactionsOf walletId)).drop offset).take limit,
    (db.transactionsOf walletId).length)

/-- `GET /wallet/transactions`. It commits no more than a new wallet, as `getMyWallet` does. -/
def listMyWalletTransactions (db : Db) (subject : Uuid) (params : PageParams)
    (orderBy : List WalletTransaction → List WalletTransaction) :
    Except ShopError (Page WalletTransactionPublic) := do
  let user ← db.answer (getCurrentUser subject)
  let wallet ← db.answer (WalletService.getOrCreate user.id)
  let (items, total) :=
    WalletRepository.listForWallet db wallet.userId params.offset params.pageSize orderBy
  pure (Page.create (items.map .modelValidate) total params)

end ElectronicShop
