import ElectronicShop.Model.Cart
import ElectronicShop.Model.Catalog

/-!
# Orders

`app/modules/orders/service.py`. `now` stands for the clock readings of one
request, `orderId` for the identifier it draws.
-/

namespace ElectronicShop

open Txn

namespace OrderService

/-- `_transition`: the result is the order object after it. -/
def transition (order : Order) (newStatus : OrderStatus) (actorId : Option Uuid)
    (note : Option String) (now : DateTime) : Tx Order :=
  if newStatus ∉ allowedTransitions order.status then
    .raise (.conflict ("تغییر وضعیت سفارش از «" ++ order.status.value ++ "» به «" ++
      newStatus.value ++ "» مجاز نیست."))
  else do
    write (.addStatusHistory
      { orderId := order.id, fromStatus := some order.status, toStatus := newStatus, actorId, note,
        createdAt := now })
    write (.setOrderStatus order.id newStatus)
    if newStatus = .cancelled then
      write (.setOrderCancelledAt order.id now)
      pure { order with status := newStatus, cancelledAt := some now }
    else
      pure { order with status := newStatus }

/-- One round of the loop of `checkout`: check the product, add the order item and
    reserve its stock; the result is the subtotal so far. -/
def checkoutItem (orderId userId : Uuid) (subtotal : Int) (cartItem : CartItem) : Tx Int := do
  let unavailable : ShopError := .conflict ("محصول «" ++ toString cartItem.productId ++
    "» دیگر در دسترس نیست. " ++ "سبد خرید را به‌روزرسانی کنید.")
  let (product, _) ← orRaise unavailable (← send (.getProduct cartItem.productId))
  if product.isActive = false then
    .raise unavailable
  else
    let unitPrice := product.discountPrice.getD product.price
    let itemSubtotal := unitPrice * cartItem.quantity
    write (.addOrderItem orderId
      { productId := some product.id, productNameSnapshot := product.name,
        skuSnapshot := product.sku, unitPriceSnapshot := unitPrice, quantity := cartItem.quantity,
        subtotal := itemSubtotal })
    InventoryService.reserve product.id cartItem.quantity "order" orderId (some userId)
    pure (subtotal + itemSubtotal)

/-- The end of `checkout`: store the amounts, make the order payable, empty the cart
    and read the order back. -/
def finishCheckout (order : Order) (subtotal : Int) (now : DateTime) : Tx Order := do
  write (.setOrderAmounts order.id subtotal subtotal)
  let _ ← transition order .awaitingPayment (some order.userId) none now
  CartRepository.clear order.userId
  flush
  orRaise .internal (← send (.getOrder order.id))

def checkout (userId : Uuid) (shippingAddress : Option ShippingAddress) (orderId : Uuid)
    (now : DateTime) : Tx Order := do
  let items ← CartRepository.getOrCreate userId
  if items.isEmpty then
    .raise (.conflict "سبد خرید شما خالی است.")
  else
    let order : Order :=
      { id := orderId, userId, status := .pending, subtotal := 0, total := 0, shippingAddress,
        cancelledAt := none, createdAt := now, items := [] }
    insert (.order order)
    let subtotal ← items.foldlM (checkoutItem orderId userId) 0
    finishCheckout order subtotal now

/-- `for item in order.items: if item.product_id is not None: ...`. -/
def forProducts (order : Order) (act : Uuid → Int → Tx Unit) : Tx Unit :=
  order.items.forM fun item =>
    match item.productId with
    | some productId => act productId item.quantity
    | none => pure ()

def getById (orderId : Uuid) : Tx Order := do
  orRaise (.notFound "سفارش پیدا نشد.") (← send (.getOrder orderId))

def markPaid (orderId : Uuid) (now : DateTime) : Tx Order := do
  let order ← getById orderId
  forProducts order fun productId quantity =>
    InventoryService.commitPurchase productId quantity "order" order.id none
  transition order .paid none (some "پرداخت با موفقیت تأیید شد.") now

def markPaymentFailed (orderId : Uuid) (now : DateTime) : Tx Order := do
  let order ← getById orderId
  forProducts order fun productId quantity =>
    InventoryService.release productId quantity "order" order.id none
  transition order .paymentFailed none (some "پرداخت ناموفق بود.") now

/-- `_authorize_access`. -/
def authorizeAccess (order : Order) (user : User) : Tx Unit :=
  if order.userId ≠ user.id ∧ user.role ∉ [UserRole.admin, UserRole.superAdmin] then
    .raise (.permissionDenied "شما اجازه دسترسی به این سفارش را ندارید.")
  else
    pure ()

/-- The statuses in which `cancel` releases the stock of the order. -/
def releasedOnCancel : List OrderStatus := [.pending, .awaitingPayment, .paid]

/-- The release `cancel` does before the transition. -/
def releaseOnCancel (order : Order) : Tx Unit :=
  if order.status ∈ releasedOnCancel then
    forProducts order fun productId quantity =>
      InventoryService.release productId quantity "order" order.id none
  else
    pure ()

def cancel (orderId : Uuid) (user : User) (now : DateTime) : Tx Order := do
  let order ← getById orderId
  authorizeAccess order user
  releaseOnCancel order
  transition order .cancelled (some user.id) (some "سفارش لغو شد.") now

def adminUpdateStatus (orderId : Uuid) (newStatus : OrderStatus) (note : Option String)
    (actorId : Uuid) (now : DateTime) : Tx Order := do
  let order ← getById orderId
  transition order newStatus (some actorId) note now

end OrderService

end ElectronicShop
