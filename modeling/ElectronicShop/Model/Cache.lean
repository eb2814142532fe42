import ElectronicShop.Cache.Aside
import ElectronicShop.Model.Data

/-!
# What Redis holds

`app/common/cache.py`, the keys of `app/modules/catalog/service.py` and the response models of
`app/modules/catalog/schemas.py`, whose JSON is cached. It reads back as what it was dumped
from: amounts of money and identifiers are dumped as text without loss.
-/

namespace ElectronicShop

/-! ## Keys -/

inductive CacheKey where
  /-- Deleted, but nothing is cached under it. -/
  | home
  | categoryTree
  | featuredProducts
  | popularProducts
  /-- `product_cache_key(slug)`. -/
  | product (slug : String)
  deriving DecidableEq, Repr

/-- The key in Redis. -/
def CacheKey.text : CacheKey → String
  | .home => "home:v1"
  | .categoryTree => "categories:tree:v1"
  | .featuredProducts => "products:featured:v1"
  | .popularProducts => "products:popular:v1"
  | .product slug => "product:" ++ slug ++ ":v1"

/-- Different keys have different texts, whatever the slugs are. -/
theorem CacheKey.text_injective : Function.Injective CacheKey.text := by
  have hproduct : ∀ slug, (CacheKey.product slug).text.toList =
      'p' :: 'r' :: 'o' :: 'd' :: 'u' :: 'c' :: 't' :: ':' :: (slug.toList ++ ":v1".toList) := by
    intro slug
    simp [text]
  have hother : ∀ key slug, CacheKey.text key = (CacheKey.product slug).text →
      key = .product slug := by
    intro key slug h
    have hlist : (CacheKey.text key).toList = _ := (congrArg String.toList h).trans (hproduct slug)
    cases key with
    | product slug' =>
      rw [hproduct] at hlist
      simp only [List.cons.injEq, true_and, List.append_cancel_right_eq] at hlist
      rw [String.toList_injective hlist]
    | _ => simp [text] at hlist
  intro key key' h
  cases key' with
  | product slug => exact hother key slug h
  | _ =>
    cases key with
    | product slug => exact (hother _ slug h.symm).symm
    | _ => first | rfl | simp [text] at h

/-! ## Values -/

structure ProductPublic where
  id : Uuid
  sku : String
  name : String
  slug : String
  shortDescription : String
  description : String
  price : Int
  discountPrice : Option Int
  brand : String
  categoryId : Uuid
  images : List String
  specifications : List (String × String)
  isActive : Bool
  isFeatured : Bool
  isPopular : Bool
  availableStock : Int
  deriving DecidableEq, Repr

structure CategoryPublic where
  id : Uuid
  name : String
  slug : String
  isActive : Bool
  sortOrder : Int
  parentId : Option Uuid
  children : List CategoryPublic
  deriving Repr

mutual

/-- Equality of trees, by their fields and their subtrees. -/
def CategoryPublic.decEq : (x y : CategoryPublic) → Decidable (x = y)
  | ⟨id, name, slug, isActive, sortOrder, parentId, children⟩,
    ⟨id', name', slug', isActive', sortOrder', parentId', children'⟩ =>
    match CategoryPublic.decEqList children children' with
    | isTrue hchildren =>
      decidable_of_iff (id = id' ∧ name = name' ∧ slug = slug' ∧ isActive = isActive' ∧
        sortOrder = sortOrder' ∧ parentId = parentId') (by simp [hchildren])
    | isFalse hchildren => isFalse (by simp [hchildren])

def CategoryPublic.decEqList : (xs ys : List CategoryPublic) → Decidable (xs = ys)
  | [], [] => isTrue rfl
  | [], _ :: _ => isFalse (by simp)
  | _ :: _, [] => isFalse (by simp)
  | x :: xs, y :: ys =>
    match CategoryPublic.decEq x y, CategoryPublic.decEqList xs ys with
    | isTrue hx, isTrue hxs => isTrue (by rw [hx, hxs])
    | isFalse hx, _ => isFalse (by simp [hx])
    | _, isFalse hxs => isFalse (by simp [hxs])

end

instance CategoryPublic.decidableEq : DecidableEq CategoryPublic := CategoryPublic.decEq

/-- A JSON document, by the response model it is a dump of. -/
inductive CachedJson where
  | product (product : ProductPublic)
  | products (products : List ProductPublic)
  | categories (tree : List CategoryPublic)
  deriving DecidableEq

namespace CachedJson

/-- `ProductPublic.model_validate`: another document is a `ValidationError`. -/
def asProduct : CachedJson → Except ShopError ProductPublic
  | .product p => .ok p
  | .products _ | .categories _ => .error .internal

def asProducts : CachedJson → Except ShopError (List ProductPublic)
  | .products ps => .ok ps
  | .product _ | .categories _ => .error .internal

def asCategories : CachedJson → Except ShopError (List CategoryPublic)
  | .categories tree => .ok tree
  | .product _ | .products _ => .error .internal

end CachedJson

/-- The cache database of Redis. -/
abbrev Redis : Type := Cache.Cells CacheKey CachedJson

namespace Redis

/-- What is stored under the texts of the keys. Setting and deleting entries keeps it, so that a
    key may stand for its text. -/
def Holds (texts : Cache.Cells String CachedJson) (redis : Redis) : Prop :=
  ∀ key, texts.find (CacheKey.text key) = redis.find key

variable {texts : Cache.Cells String CachedJson} {redis : Redis}

theorem Holds.set (h : Holds texts redis) (key : CacheKey) (value : CachedJson) :
    Holds (texts.set key.text value) (redis.set key value) := by
  intro key'
  simp only [Cache.Cells.find_set, h key', CacheKey.text_injective.eq_iff]

theorem Holds.delete (h : Holds texts redis) (keys : List CacheKey) :
    Holds (texts.delete (keys.map CacheKey.text)) (redis.delete keys) := by
  intro key
  simp only [Cache.Cells.find_delete, h key, List.mem_map_of_injective CacheKey.text_injective]

end Redis

end ElectronicShop
