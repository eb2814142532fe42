import ElectronicShop.Model.Payments
import ElectronicShop.Model.Wallet

/-!
# Requests

The routers of `app/modules`: a request names its caller (the subject of the
access token), is handled by one transaction program and, when that ends without
an error, committed. `serve` is a request that no other request overlaps. Only
the requests that commit are in `Request`; what they answer, and the idempotency
keys of those that take one, are not part of the model.
-/

namespace ElectronicShop

open Txn

/-! ## Who is asking -/

/-- `get_current_user`. -/
def getCurrentUser (subject : Uuid) : Tx User := do
  let unauthorized : ShopError := .unauthorized "حساب کاربری شما یافت نشد یا غیرفعال است."
  let user ← orRaise unauthorized (← send (.getUser subject))
  if user.isActive = false then .raise unauthorized else pure user

/-- `require_permission`. -/
def requirePermission (permission : Permission) (user : User) : Tx Unit :=
  if roleHasPermission user.role permission = false then
    .raise (.permissionDenied "شما اجازه دسترسی به این بخش را ندارید.")
  else
    pure ()

/-- The caller, who has to have a permission. -/
def authorized (subject : Uuid) (permission : Permission) : Tx User := do
  let user ← getCurrentUser subject
  requirePermission permission user
  pure user

/-! ## Handlers -/

structure OrderStatusUpdateRequest where
  newStatus : OrderStatus
  note : Option String
  noteLength : ∀ n ∈ note, n.length ≤ 500

/-- It ends without a commit: what it has flushed is rolled back. -/
def getCart (subject : Uuid) : Tx CartSummary := do
  let user ← getCurrentUser subject
  CartService.getSummary user.id

def addCartItem (subject : Uuid) (data : CartItemAdd) (itemId : Uuid) : Tx CartSummary := do
  let user ← getCurrentUser subject
  let _ ← CartService.addItem user.id data.productId data.quantity itemId
  CartService.getSummary user.id

def updateCartItem (subject productId : Uuid) (data : CartItemUpdate) : Tx CartSummary := do
  let user ← getCurrentUser subject
  let _ ← CartService.updateItem user.id productId data.quantity
  CartService.getSummary user.id

def removeCartItem (subject productId : Uuid) : Tx Unit := do
  let user ← getCurrentUser subject
  CartService.removeItem user.id productId

def clearCart (subject : Uuid) : Tx Unit := do
  let user ← getCurrentUser subject
  CartService.clear user.id

def checkout (subject : Uuid) (shippingAddress : Option ShippingAddress) (orderId : Uuid)
    (now : DateTime) : Tx Order := do
  let user ← getCurrentUser subject
  OrderService.checkout user.id shippingAddress orderId now

def cancelOrder (subject orderId : Uuid) (now : DateTime) : Tx Order := do
  let user ← getCurrentUser subject
  OrderService.cancel orderId user now

/-- Refunding an order returns its value to the customer's wallet. -/
def refundIfRefunded (order : Order) (actorId : Uuid) : Tx Unit :=
  if order.status = .refunded then do
    let _ ← WalletService.refundOrder order.userId order.total order.id actorId
    pure ()
  else
    pure ()

def updateOrderStatus (subject orderId : Uuid) (data : OrderStatusUpdateRequest)
    (now : DateTime) : Tx Order := do
  let user ← authorized subject .orderManage
  let order ← OrderService.adminUpdateStatus orderId data.newStatus data.note user.id now
  refundIfRefunded order user.id
  pure order

def initPayment (zarinpal : ZarinPalClient) (callbackUrl : String) (subject orderId : Uuid)
    (paymentId : Uuid) : Tx (Payment × String) := do
  let user ← getCurrentUser subject
  PaymentService.initPayment zarinpal callbackUrl user orderId paymentId

def paymentCallback (zarinpal : ZarinPalClient) (authority status : String) (now : DateTime) :
    Tx Payment :=
  PaymentService.handleCallback zarinpal authority status now

def restockProduct (subject productId : Uuid) (data : InventoryAdjustRequest) : Tx Unit := do
  let user ← authorized subject .productUpdate
  InventoryService.restock productId data.delta (some user.id)

def adjustProductInventory (subject productId : Uuid) (data : InventoryAdjustRequest) :
    Tx Unit := do
  let user ← authorized subject .productUpdate
  InventoryService.adjust productId data.delta (some user.id)

def createProduct (subject : Uuid) (data : ProductCreate) (productId : Uuid) : Tx Product := do
  let _ ← authorized subject .productCreate
  ProductService.create data productId

def updateProduct (subject productId : Uuid) (data : ProductUpdate) : Tx Product := do
  let _ ← authorized subject .productUpdate
  ProductService.update productId data

def archiveProduct (subject productId : Uuid) : Tx Unit := do
  let _ ← authorized subject .productDelete
  ProductService.archive productId

def getMyWallet (subject : Uuid) : Tx Wallet := do
  let user ← getCurrentUser subject
  WalletService.getOrCreate user.id

def depositToWallet (subject : Uuid) (data : WalletDepositRequest) : Tx WalletTransaction := do
  let user ← getCurrentUser subject
  WalletService.deposit user.id data.amount

def adminGetWallet (subject userId : Uuid) : Tx Wallet := do
  let _ ← authorized subject .walletManage
  WalletService.getOrCreate userId

def adminCreditWallet (subject userId : Uuid) (data : AdminWalletAdjustRequest) :
    Tx WalletTransaction := do
  let user ← authorized subject .walletManage
  WalletService.adminCredit userId data.amount data.reason user.id

def adminDebitWallet (subject userId : Uuid) (data : AdminWalletAdjustRequest) :
    Tx WalletTransaction := do
  let user ← authorized subject .walletManage
  WalletService.adminDebit userId data.amount data.reason user.id

/-! ## Serving requests one after another -/

inductive Request where
  | addCartItem (subject : Uuid) (data : CartItemAdd) (itemId : Uuid)
  | updateCartItem (subject productId : Uuid) (data : CartItemUpdate)
  | removeCartItem (subject productId : Uuid)
  | clearCart (subject : Uuid)
  | checkout (subject : Uuid) (shippingAddress : Option ShippingAddress) (orderId : Uuid)
      (now : DateTime)
  | cancelOrder (subject orderId : Uuid) (now : DateTime)
  | updateOrderStatus (subject orderId : Uuid) (data : OrderStatusUpdateRequest) (now : DateTime)
  | initPayment (zarinpal : ZarinPalClient) (callbackUrl : String) (subject orderId : Uuid)
      (paymentId : Uuid)
  | paymentCallback (zarinpal : ZarinPalClient) (authority status : String) (now : DateTime)
  | restockProduct (subject productId : Uuid) (data : InventoryAdjustRequest)
  | adjustProductInventory (subject productId : Uuid) (data : InventoryAdjustRequest)
  | createProduct (subject : Uuid) (data : ProductCreate) (productId : Uuid)
  | updateProduct (subject productId : Uuid) (data : ProductUpdate)
  | archiveProduct (subject productId : Uuid)
  | getMyWallet (subject : Uuid)
  | depositToWallet (subject : Uuid) (data : WalletDepositRequest)
  | adminGetWallet (subject userId : Uuid)
  | adminCreditWallet (subject userId : Uuid) (data : AdminWalletAdjustRequest)
  | adminDebitWallet (subject userId : Uuid) (data : AdminWalletAdjustRequest)

/-- The program of a request, without its answer. -/
def Request.handler : Request → Tx Unit
  | .addCartItem subject data itemId =>
    discard (ElectronicShop.addCartItem subject data itemId)
  | .updateCartItem subject productId data =>
    discard (ElectronicShop.updateCartItem subject productId data)
  | .removeCartItem subject productId => ElectronicShop.removeCartItem subject productId
  | .clearCart subject => ElectronicShop.clearCart subject
  | .checkout subject shippingAddress orderId now =>
    discard (ElectronicShop.checkout subject shippingAddress orderId now)
  | .cancelOrder subject orderId now => discard (ElectronicShop.cancelOrder subject orderId now)
  | .updateOrderStatus subject orderId data now =>
    discard (ElectronicShop.updateOrderStatus subject orderId data now)
  | .initPayment zarinpal callbackUrl subject orderId paymentId =>
    discard (ElectronicShop.initPayment zarinpal callbackUrl subject orderId paymentId)
  | .paymentCallback zarinpal authority status now =>
    discard (ElectronicShop.paymentCallback zarinpal authority status now)
  | .restockProduct subject productId data => ElectronicShop.restockProduct subject productId data
  | .adjustProductInventory subject productId data =>
    ElectronicShop.adjustProductInventory subject productId data
  | .createProduct subject data productId =>
    discard (ElectronicShop.createProduct subject data productId)
  | .updateProduct subject productId data =>
    discard (ElectronicShop.updateProduct subject productId data)
  | .archiveProduct subject productId => ElectronicShop.archiveProduct subject productId
  | .getMyWallet subject => discard (ElectronicShop.getMyWallet subject)
  | .depositToWallet subject data => discard (ElectronicShop.depositToWallet subject data)
  | .adminGetWallet subject userId => discard (ElectronicShop.adminGetWallet subject userId)
  | .adminCreditWallet subject userId data =>
    discard (ElectronicShop.adminCreditWallet subject userId data)
  | .adminDebitWallet subject userId data =>
    discard (ElectronicShop.adminDebitWallet subject userId data)

/-- A committed database: its constraints hold. -/
structure Store where
  db : Db
  valid : db.Constraints

/-- Commit: the constraints are checked, and an error leaves nothing behind. -/
def Store.commit {α : Type} : Except ShopError (α × Db) → Except ShopError (α × Store)
  | .error e => .error e
  | .ok (a, db) => if valid : db.Constraints then .ok (a, ⟨db, valid⟩) else .error .database

/-- A transaction that no other overlaps: its answer and the committed database. -/
def Store.transact {α : Type} (store : Store) (program : Tx α) : Except ShopError (α × Store) :=
  Store.commit (store.db.run program)

/-- A request that no other overlaps. -/
def serve (request : Request) (store : Store) : Except ShopError Store :=
  (store.transact request.handler).map Prod.snd

end ElectronicShop
