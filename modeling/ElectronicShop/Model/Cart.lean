import ElectronicShop.Model.Database

/-!
# Carts

`app/modules/cart`: `CartRepository` and `CartService`.
-/

namespace ElectronicShop

open Txn

namespace CartRepository

/-- The items of the user's cart, which is created when there is none. -/
def getOrCreate (userId : Uuid) : Tx (List CartItem) := do
  match ← send (.getCart userId) with
  | some items => pure items
  | none =>
    insert (.cart { userId })
    pure []

def clear (userId : Uuid) : Tx Unit := do
  let items ← send (.getCartItems userId)
  items.forM fun item => write (.deleteCartItem item.id item.userId item.productId)

end CartRepository

/-- `_effective_unit_price`. -/
def effectiveUnitPrice (product : Product) : Int := product.discountPrice.getD product.price

/-- `_available_stock`. -/
def availableStock : Option ProductInventory → Int
  | none => 0
  | some inventory => max 0 (inventory.stockTotal - inventory.stockReserved)

structure CartItemAdd where
  productId : Uuid
  quantity : Nat
  quantityRange : 1 ≤ quantity ∧ quantity ≤ 99

structure CartItemUpdate where
  quantity : Nat
  quantityRange : 1 ≤ quantity ∧ quantity ≤ 99

structure CartItemPublic where
  productId : Uuid
  name : String
  slug : String
  unitPrice : Int
  quantity : Nat
  subtotal : Int
  availableStock : Int
  deriving DecidableEq, Repr

structure CartSummary where
  items : List CartItemPublic
  subtotal : Int
  total : Int
  deriving DecidableEq, Repr

namespace CartService

/-- Set the quantity of a loaded line and flush it: nothing is sent when it does not
    change, and a row that is gone by then is a `StaleDataError`. -/
def setQuantity (item : CartItem) (quantity : Nat) : Tx Unit :=
  if quantity = item.quantity then
    pure ()
  else do
    match ← send (.updateCartItem item quantity) with
    | true => pure ()
    | false => .raise .internal

/-- Store the quantity of a cart line, in the line that exists or in a new one. -/
def storeQuantity (userId productId : Uuid) (existing : Option CartItem) (quantity : Nat)
    (itemId : Uuid) : Tx Unit :=
  match existing with
  | some item => setQuantity item quantity
  | none => insert (.cartItem { id := itemId, userId, productId, quantity })

/-- `itemId` is the identifier that a new line draws. -/
def addItem (userId productId : Uuid) (quantity : Nat) (itemId : Uuid) : Tx (List CartItem) := do
  let (product, inventory) ← orRaise (.notFound "محصول موردنظر پیدا نشد.")
    (← send (.getProduct productId))
  if product.isActive = false then
    .raise (.notFound "محصول موردنظر پیدا نشد.")
  else
    let _ ← CartRepository.getOrCreate userId
    let existing ← send (.getCartItem userId productId)
    let newQuantity := quantity + (existing.map CartItem.quantity).getD 0
    if newQuantity > availableStock inventory then
      .raise (.conflict "موجودی کافی برای این تعداد وجود ندارد.")
    else
      storeQuantity userId productId existing newQuantity itemId
      CartRepository.getOrCreate userId

def updateItem (userId productId : Uuid) (quantity : Nat) : Tx (List CartItem) := do
  let (_, inventory) ← orRaise (.notFound "محصول موردنظر پیدا نشد.")
    (← send (.getProduct productId))
  if quantity > availableStock inventory then
    .raise (.conflict "موجودی کافی برای این تعداد وجود ندارد.")
  else
    let _ ← CartRepository.getOrCreate userId
    let item ← orRaise (.notFound "این محصول در سبد خرید شما نیست.")
      (← send (.getCartItem userId productId))
    setQuantity item quantity
    CartRepository.getOrCreate userId

def removeItem (userId productId : Uuid) : Tx Unit := do
  let _ ← CartRepository.getOrCreate userId
  match ← send (.getCartItem userId productId) with
  | some item => write (.deleteCartItem item.id item.userId item.productId)
  | none => pure ()

def clear (userId : Uuid) : Tx Unit := do
  let _ ← CartRepository.getOrCreate userId
  CartRepository.clear userId

/-- One round of the loop of `get_summary`. -/
def summarize (summary : CartSummary) (cartItem : CartItem) : Tx CartSummary := do
  match ← send (.getProduct cartItem.productId) with
  | none => pure summary
  | some (product, inventory) =>
    if product.isActive = false then
      pure summary
    else
      let unitPrice := effectiveUnitPrice product
      let itemSubtotal := unitPrice * cartItem.quantity
      pure
        { items := summary.items ++ [
            { productId := product.id, name := product.name, slug := product.slug, unitPrice,
              quantity := cartItem.quantity, subtotal := itemSubtotal,
              availableStock := availableStock inventory }]
          subtotal := summary.subtotal + itemSubtotal
          total := summary.subtotal + itemSubtotal }

def getSummary (userId : Uuid) : Tx CartSummary := do
  let items ← CartRepository.getOrCreate userId
  items.foldlM summarize { items := [], subtotal := 0, total := 0 }

end CartService

end ElectronicShop
