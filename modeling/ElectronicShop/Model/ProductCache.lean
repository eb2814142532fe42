import ElectronicShop.Model.Api
import ElectronicShop.Model.Cache
import Mathlib.Data.List.Sort

/-!
# Product pages

The endpoints of `app/modules/catalog/router.py` that show products read through the cache;
the operations of `ProductService` delete what is cached of a product. Time is that of the
transaction: the column `updated_at` of a product is set to it by an `INSERT` or `UPDATE`.
-/

namespace ElectronicShop

/-- The database, with the column `updated_at` of its products. -/
structure Catalogue where
  store : Store
  updatedAt : Uuid → DateTime

/-! ## Reading products -/

/-- `_serialize_product`: a document that is `null` is a `ValidationError`. -/
def serializeProduct (product : Product) (inventory : Option ProductInventory) :
    Except ShopError ProductPublic :=
  match product.images, product.specifications with
  | some images, some specifications => .ok
    { id := product.id, sku := product.sku, name := product.name, slug := product.slug,
      shortDescription := product.shortDescription, description := product.description,
      price := product.price, discountPrice := product.discountPrice, brand := product.brand,
      categoryId := product.categoryId, images, specifications, isActive := product.isActive,
      isFeatured := product.isFeatured, isPopular := product.isPopular,
      availableStock := availableStock inventory }
  | _, _ => .error .internal

namespace Catalogue

/-- The row that `selectinload(Product.inventory)` loads. -/
def inventoryOf (c : Catalogue) (product : Product) : Option ProductInventory :=
  c.store.db.inventory.get product.id

/-- `get_by_slug`. PostgreSQL takes no NUL character in a parameter of a query. -/
def getBySlug (c : Catalogue) (slug : String) : Except ShopError (Option Product) :=
  if ¬ fitsText slug then .error .database
  else .ok (c.store.db.products.rows.find? fun p => p.slug = slug)

/-- `list_flagged`: the eight products that were updated last. Which of two that were updated
    at the same time comes first is open in SQL; here it is the one inserted first. -/
def listFlagged (c : Catalogue) (featured popular : Bool) : List Product :=
  let flagged := c.store.db.products.rows.filter fun p =>
    p.isActive && (!featured || p.isFeatured) && (!popular || p.isPopular)
  (flagged.insertionSort fun p q => c.updatedAt q.id ≤ c.updatedAt p.id).take 8

def serialize (c : Catalogue) (product : Product) : Except ShopError ProductPublic :=
  serializeProduct product (c.inventoryOf product)

end Catalogue

/-! ## Endpoints -/

/-- `GET /products/{slug}`. -/
def getProduct (slug : String) :
    Cache.View Catalogue CacheKey CachedJson ShopError ProductPublic where
  key := .product slug
  read c := do
    match ← c.getBySlug slug with
    | some product => c.serialize product
    | none => .error (.notFound "محصول موردنظر پیدا نشد.")
  dump := .product
  validate := CachedJson.asProduct
  validate_dump _ := rfl

/-- The endpoints with a list of products. -/
def flaggedProducts (key : CacheKey) (featured popular : Bool) :
    Cache.View Catalogue CacheKey CachedJson ShopError (List ProductPublic) where
  key := key
  read c := (c.listFlagged featured popular).mapM c.serialize
  dump := .products
  validate := CachedJson.asProducts
  validate_dump _ := rfl

/-- `GET /products/featured`. -/
def featuredProducts : Cache.View Catalogue CacheKey CachedJson ShopError (List ProductPublic) :=
  flaggedProducts .featuredProducts true false

/-- `GET /products/popular`. -/
def popularProducts : Cache.View Catalogue CacheKey CachedJson ShopError (List ProductPublic) :=
  flaggedProducts .popularProducts false true

/-! ## Operations -/

namespace ProductService

/-- Whether a submitted field differs from what was loaded. -/
def isChange {α : Type} [DecidableEq α] (field : Field α) (old : Option α) : Bool :=
  match field with
  | none => false
  | some value => value ≠ old

/-- A dictionary has no order. -/
def isDictChange (field : Field (List (String × String)))
    (old : Option (List (String × String))) : Bool :=
  match field with
  | none => false
  | some none => old ≠ none
  | some (some value) => !(old.any fun loaded => value.isPerm loaded)

/-- Whether an update changes the loaded object: only then is an `UPDATE` sent. Amounts are
    compared before they are rounded. -/
def changes (product : Product) (data : ProductUpdate) : Bool :=
  isChange data.name (some product.name) ||
  isChange data.shortDescription (some product.shortDescription) ||
  isChange data.description (some product.description) ||
  isChange data.price (some (product.price : ℚ)) ||
  isChange data.discountPrice (product.discountPrice.map fun d : Int => (d : ℚ)) ||
  isChange data.brand (some product.brand) ||
  isChange data.categoryId (some product.categoryId) ||
  isChange data.images product.images ||
  isDictChange data.specifications product.specifications ||
  isChange data.isActive (some product.isActive) ||
  isChange data.isFeatured (some product.isFeatured) ||
  isChange data.isPopular (some product.isPopular)

/-- The keys that `_invalidate_product_cache` deletes. -/
def cacheKeys (slug : String) : List CacheKey :=
  [.product slug, .featuredProducts, .popularProducts, .home]

end ProductService

/-- What a committed request has deleted from the cache. An update cannot change the slug. -/
def Request.invalidates (db : Db) : Request → List CacheKey
  | .createProduct _ data _ => ProductService.cacheKeys data.slug
  | .updateProduct _ productId _ | .archiveProduct _ productId =>
    match db.products.get productId with
    | some product => ProductService.cacheKeys product.slug
    | none => []
  | _ => []

/-- The product whose row a committed request has inserted or updated. -/
def Request.touches (db : Db) : Request → Option Uuid
  | .createProduct _ _ productId => some productId
  | .updateProduct _ productId data =>
    if (db.products.get productId).any fun p => ProductService.changes p data then some productId
    else none
  | .archiveProduct _ productId =>
    if (db.products.get productId).any fun p => p.isActive then some productId else none
  | _ => none

/-- The shop with its cache. -/
structure CachedShop where
  catalogue : Catalogue
  redis : Redis

/-- The database of the shop. -/
def CachedShop.db (shop : CachedShop) : Db := shop.catalogue.store.db

/-- An operation, with the time of its transaction, or a page of products that is shown. -/
inductive CatalogCall where
  | request (request : Request) (now : DateTime)
  | getProduct (slug : String)
  | featuredProducts
  | popularProducts

/-- A page is shown. -/
def CachedShop.show {α : Type} (shop : CachedShop)
    (view : Cache.View Catalogue CacheKey CachedJson ShopError α) : CachedShop :=
  { shop with redis := (view.answer shop.catalogue shop.redis).2 }

def CatalogCall.serve : CatalogCall → CachedShop → Except ShopError CachedShop
  | .request r now, shop => do
    let store ← ElectronicShop.serve r shop.catalogue.store
    let updatedAt := match r.touches shop.db with
      | some productId => Function.update shop.catalogue.updatedAt productId now
      | none => shop.catalogue.updatedAt
    pure ⟨⟨store, updatedAt⟩, shop.redis.delete (r.invalidates shop.db)⟩
  | .getProduct slug, shop => .ok (shop.show (ElectronicShop.getProduct slug))
  | .featuredProducts, shop => .ok (shop.show ElectronicShop.featuredProducts)
  | .popularProducts, shop => .ok (shop.show ElectronicShop.popularProducts)

end ElectronicShop
