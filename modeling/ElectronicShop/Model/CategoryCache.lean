import ElectronicShop.Cache.Interleaved
import ElectronicShop.Model.Cache
import ElectronicShop.Model.Categories
import Mathlib.Data.List.Sort

/-!
# The cached category tree

`GET /categories` reads the tree through the cache. The operations of `CategoryService` delete
it when they are done, and their endpoints commit after that.
-/

namespace ElectronicShop

namespace Categories

open Txn

/-- `list_all`, in the order of `sort_order` and then of the names, which the collation of the
    database decides. Which of two equal ones comes first is open in SQL; here it is the one
    inserted first. -/
def listAll (collate : String → String → Bool) (db : Db) : List Category :=
  db.categories.rows.insertionSort fun a b =>
    a.sortOrder < b.sortOrder ∨ a.sortOrder = b.sortOrder ∧ collate a.name b.name = true

namespace CategoryService

/-- `CategoryPublic.model_validate` of a category that has got its children. -/
def toPublic (c : Category) (children : List CategoryPublic) : CategoryPublic where
  id := c.id
  name := c.name
  slug := c.slug
  isActive := c.isActive
  sortOrder := c.sortOrder
  parentId := c.parentId
  children := children

/-- `children_map.get(id, [])`. -/
def childrenOf (all : List Category) (id : Uuid) : List Category :=
  all.filter fun c => c.parentId = some id

/-- `attach`. As many levels as there are categories are enough below a root. -/
def attach (all : List Category) : Nat → Category → CategoryPublic
  | 0, node => toPublic node []
  | fuel + 1, node => toPublic node ((childrenOf all node.id).map (attach all fuel))

/-- `get_tree`, of the categories that `list_all` has read. -/
def getTree (all : List Category) : List CategoryPublic :=
  (all.filter fun c => c.parentId = none).map (attach all all.length)

end CategoryService

/-- `GET /categories`. -/
def getCategoryTree (collate : String → String → Bool) :
    Cache.View Db CacheKey CachedJson ShopError (List CategoryPublic) where
  key := .categoryTree
  read db := .ok (CategoryService.getTree (listAll collate db))
  dump := .categories
  validate := CachedJson.asCategories
  validate_dump _ := rfl

/-- The requests about categories: each operation deletes the keys of `_invalidate_tree_cache`. -/
def requests (collate : String → String → Bool) :
    Cache.Parties categories ShopError (Option Category) (List CategoryPublic) Db Session Uuid
      CacheKey CachedJson where
  engine := engine
  keys _ := [.categoryTree, .home]
  view := getCategoryTree collate

/-- Operations and readers of the tree, on the way. -/
abbrev CachedCategories (ι κ : Type) : Type :=
  Cache.System categories ShopError (Option Category) (List CategoryPublic) Db Session Uuid
    CacheKey CachedJson ι κ

/-- All of them are about to begin. -/
def CachedCategories.start {ι : Type} (κ : Type) (db : Db) (ops : ι → CategoryOperation)
    (redis : Redis) : CachedCategories ι κ where
  txns := CategoryOperations.start db ops
  deleted _ := false
  cells := redis
  readers _ := .waiting

end Categories

end ElectronicShop
