import ElectronicShop.Model.Database

/-!
# Stock and products

`app/modules/catalog`: `InventoryService`, through which every change of stock
goes, and `ProductService`. What it deletes from the product caches is in
`ElectronicShop.Model.ProductCache`.
-/

namespace ElectronicShop

open Txn

/-! ## Stock -/

namespace InventoryService

/-- `_locked_inventory`. -/
def lockedInventory (productId : Uuid) : Tx ProductInventory := do
  orRaise (.notFound "موجودی این محصول ثبت نشده است.") (← send (.lockInventory productId))

def reserve (productId : Uuid) (quantity : Int) (referenceType : String) (referenceId : Uuid)
    (actorId : Option Uuid) : Tx Unit := do
  let inventory ← lockedInventory productId
  let available := inventory.stockTotal - inventory.stockReserved
  if available < quantity then
    .raise (.conflict "موجودی کافی برای این محصول وجود ندارد.")
  else
    write (.setStockReserved productId (inventory.stockReserved + quantity))
    write (.addInventoryHistory
      { productId, changeType := .reserve, quantity, referenceType := some referenceType,
        referenceId := some referenceId, actorId })

def release (productId : Uuid) (quantity : Int) (referenceType : String) (referenceId : Uuid)
    (actorId : Option Uuid) : Tx Unit := do
  let inventory ← lockedInventory productId
  write (.setStockReserved productId (max 0 (inventory.stockReserved - quantity)))
  write (.addInventoryHistory
    { productId, changeType := .release, quantity, referenceType := some referenceType,
      referenceId := some referenceId, actorId })

def commitPurchase (productId : Uuid) (quantity : Int) (referenceType : String)
    (referenceId : Uuid) (actorId : Option Uuid) : Tx Unit := do
  let inventory ← lockedInventory productId
  write (.setStockTotal productId (max 0 (inventory.stockTotal - quantity)))
  write (.setStockReserved productId (max 0 (inventory.stockReserved - quantity)))
  write (.addInventoryHistory
    { productId, changeType := .purchase, quantity, referenceType := some referenceType,
      referenceId := some referenceId, actorId })

def restock (productId : Uuid) (quantity : Int) (actorId : Option Uuid) : Tx Unit := do
  let inventory ← lockedInventory productId
  write (.setStockTotal productId (inventory.stockTotal + quantity))
  write (.addInventoryHistory
    { productId, changeType := .restock, quantity, referenceType := some "admin_restock",
      referenceId := none, actorId })

def adjust (productId : Uuid) (delta : Int) (actorId : Option Uuid) : Tx Unit := do
  let inventory ← lockedInventory productId
  let newTotal := inventory.stockTotal + delta
  if newTotal < inventory.stockReserved then
    .raise (.conflict
      "موجودی جدید نمی‌تواند کمتر از مقدار رزروشده برای سفارش‌های در انتظار باشد.")
  else
    write (.setStockTotal productId newTotal)
    write (.addInventoryHistory
      { productId, changeType := .adjust, quantity := delta, referenceType := some "admin_adjust",
        referenceId := none, actorId })

end InventoryService

/-! ## Products -/

/-- The characters `[a-z0-9]` of a slug. -/
def slugChar (c : Char) : Bool := c.isLower || c.isDigit

/-- `^[a-z0-9]+(?:-[a-z0-9]+)*$`: the parts between the hyphens are not empty. -/
def slugPattern (slug : String) : Bool :=
  (slug.toList.splitOn '-').all fun part => !part.isEmpty && part.all slugChar

structure ProductCreate where
  sku : String
  name : String
  slug : String
  shortDescription : String
  description : String
  price : ℚ
  discountPrice : Option ℚ
  brand : String
  categoryId : Uuid
  images : List String
  specifications : List (String × String)
  isActive : Bool
  isFeatured : Bool
  isPopular : Bool
  initialStock : Int
  skuLength : 1 ≤ sku.length ∧ sku.length ≤ 64
  nameLength : 1 ≤ name.length ∧ name.length ≤ 255
  slugLength : 1 ≤ slug.length ∧ slug.length ≤ 280
  slugMatches : slugPattern slug = true
  shortDescriptionLength : shortDescription.length ≤ 500
  pricePositive : 0 < price
  discountNonneg : ∀ d ∈ discountPrice, 0 ≤ d
  brandLength : brand.length ≤ 100
  initialStockNonneg : 0 ≤ initialStock
  discountBelowPrice : ∀ d ∈ discountPrice, d < price

/-- A field of a partial update: absent, or present with `null` or a value. -/
abbrev Field (α : Type) := Option (Option α)

/-- The value of a field that is present and not `null`. -/
def Field.value {α : Type} (field : Field α) : Option α := field.join

structure ProductUpdate where
  name : Field String
  shortDescription : Field String
  description : Field String
  price : Field ℚ
  discountPrice : Field ℚ
  brand : Field String
  categoryId : Field Uuid
  images : Field (List String)
  specifications : Field (List (String × String))
  isActive : Field Bool
  isFeatured : Field Bool
  isPopular : Field Bool
  nameLength : ∀ n ∈ name.value, 1 ≤ n.length ∧ n.length ≤ 255
  shortDescriptionLength : ∀ s ∈ shortDescription.value, s.length ≤ 500
  pricePositive : ∀ p ∈ price.value, 0 < p
  discountNonneg : ∀ d ∈ discountPrice.value, 0 ≤ d
  brandLength : ∀ b ∈ brand.value, b.length ≤ 100

structure InventoryAdjustRequest where
  delta : Int
  reason : String
  reasonLength : 1 ≤ reason.length ∧ reason.length ≤ 255

namespace ProductService

/-- Look for products with the slug or the SKU. PostgreSQL takes no NUL character in a
    parameter of a query; a slug has none. -/
def getBySlugOrSku (data : ProductCreate) : Tx (List Product) :=
  if ¬ fitsText data.sku then .raise .database
  else send (.getProductBySlugOrSku data.slug data.sku)

/-- Create a product and its inventory row; the result is the stored product. -/
def create (data : ProductCreate) (productId : Uuid) : Tx Product := do
  match ← getBySlugOrSku data with
  | [] =>
    let _ ← orRaise (.notFound "دسته‌بندی انتخاب‌شده پیدا نشد.") (← send (.getCategory data.categoryId))
    let product : Product :=
      { id := productId, sku := data.sku, name := data.name, slug := data.slug,
        shortDescription := data.shortDescription, description := data.description,
        price := numeric data.price, discountPrice := data.discountPrice.map numeric,
        brand := data.brand, categoryId := data.categoryId, images := some data.images,
        specifications := some data.specifications, isActive := data.isActive,
        isFeatured := data.isFeatured, isPopular := data.isPopular }
    insert (.product product)
    insert (.inventory { productId, stockTotal := data.initialStock, stockReserved := 0 })
    pure product
  | [_] => .raise (.conflict "محصولی با این نامک یا SKU از قبل وجود دارد.")
  -- two products, one with the slug and one with the SKU: `MultipleResultsFound`
  | _ :: _ :: _ => .raise .internal

/-- Set a `NOT NULL` column from a field of an update: `null` violates it. -/
def setColumn {α β : Type} (field : Field α) (old : β) (store : α → β) : Option β :=
  match field with
  | none => some old
  | some none => none
  | some (some a) => some (store a)

/-- Set a nullable column from a field of an update. -/
def setNullable {α β : Type} (field : Field α) (old : Option β) (store : α → β) : Option β :=
  match field with
  | none => old
  | some value => value.map store

/-- The row after `setattr` of every submitted field, when it can be stored. -/
def updated (product : Product) (data : ProductUpdate) : Option Product := do
  let name ← setColumn data.name product.name id
  let shortDescription ← setColumn data.shortDescription product.shortDescription id
  let description ← setColumn data.description product.description id
  let price ← setColumn data.price product.price numeric
  let brand ← setColumn data.brand product.brand id
  let categoryId ← setColumn data.categoryId product.categoryId id
  let isActive ← setColumn data.isActive product.isActive id
  let isFeatured ← setColumn data.isFeatured product.isFeatured id
  let isPopular ← setColumn data.isPopular product.isPopular id
  pure { product with
    name, shortDescription, description, price, brand, categoryId, isActive, isFeatured, isPopular,
    discountPrice := setNullable data.discountPrice product.discountPrice numeric
    images := setNullable data.images product.images id
    specifications := setNullable data.specifications product.specifications id }

/-- `category_id`, when it is given, must name a category. -/
def checkCategory : Option Uuid → Tx Unit
  | some categoryId => do
    let _ ← orRaise (.notFound "دسته‌بندی انتخاب‌شده پیدا نشد.") (← send (.getCategory categoryId))
  | none => pure ()

/-- `new_discount is not None and new_discount >= new_price` has no error. Comparing
    with a price of `None` is a `TypeError`. -/
def checkDiscount (newPrice newDiscount : Option ℚ) : Tx Unit :=
  match newDiscount, newPrice with
  | none, _ => pure ()
  | some _, none => .raise .internal
  | some discount, some price =>
    if discount ≥ price then .raise (.conflict "قیمت با تخفیف باید کمتر از قیمت اصلی باشد.")
    else pure ()

/-- Update the submitted fields; the result is the stored product. -/
def update (productId : Uuid) (data : ProductUpdate) : Tx Product := do
  let (product, _) ← orRaise (.notFound "محصول پیدا نشد.") (← send (.getProduct productId))
  checkCategory data.categoryId.value
  let newPrice := data.price.getD (some (product.price : ℚ))
  let newDiscount := data.discountPrice.getD (product.discountPrice.map fun d : Int => (d : ℚ))
  checkDiscount newPrice newDiscount
  let stored ← orRaise .database (updated product data)
  write (.setProduct product stored)
  pure stored

def archive (productId : Uuid) : Tx Unit := do
  let (product, _) ← orRaise (.notFound "محصول پیدا نشد.") (← send (.getProduct productId))
  write (.setProduct product { product with isActive := false })

end ProductService

end ElectronicShop
