import ElectronicShop.Model.ProductCache
import ElectronicShop.Paging.Windows
import ElectronicShop.Text.Like
import Mathlib.Data.Bool.AllAny
import Mathlib.Data.List.DropRight

/-!
# Searching products

`GET /products` and `ProductRepository.search` of `app/modules/catalog/repository.py`. What
depends on the locale of the database is a parameter: which letters ILIKE takes for the same,
and how names are ordered. So is the order in which one query returns rows with equal sort keys.
-/

namespace ElectronicShop

/-- The database, with the columns `created_at` and `updated_at` of its products. -/
structure Assortment extends Catalogue where
  createdAt : Uuid → DateTime

/-! ## Texts -/

def persianNormalizeFrom : List Char := ['ي', 'ك']

def persianNormalizeTo : List Char := ['ی', 'ک']

/-- `translate`, of one character. -/
def normalizeChar (x : Char) : Char :=
  ((persianNormalizeFrom.zip persianNormalizeTo).lookup x).getD x

/-- `_normalize_persian`. -/
def normalizePersian (text : List Char) : List Char := text.map normalizeChar

/-- The characters that `str.strip` takes away. -/
def whitespace : List Char :=
  [0x9, 0xa, 0xb, 0xc, 0xd, 0x1c, 0x1d, 0x1e, 0x1f, 0x20, 0x85, 0xa0, 0x1680, 0x2000, 0x2001,
    0x2002, 0x2003, 0x2004, 0x2005, 0x2006, 0x2007, 0x2008, 0x2009, 0x200a, 0x2028, 0x2029,
    0x202f, 0x205f, 0x3000].map Char.ofNat

def strip (text : List Char) : List Char :=
  (text.dropWhile whitespace.contains).rdropWhile whitespace.contains

/-- The characters without case that patterns and the two spellings are made of. -/
def uncased : List Char := Text.wildcards ++ persianNormalizeFrom ++ persianNormalizeTo

/-- What the locale of the database decides. -/
structure Locale where
  /-- `lower`, character by character. -/
  lower : Char → Char
  lower_uncased : Text.Fixes lower uncased
  /-- Whether a text may stand before another in `ORDER BY`. -/
  collate : String → String → Bool
  collate_total : ∀ a b, collate a b = true ∨ collate b a = true
  collate_trans : ∀ a b c, collate a b = true → collate b c = true → collate a c = true

def asciiUppercase : List Char := "ABCDEFGHIJKLMNOPQRSTUVWXYZ".toList

def asciiLower (x : Char) : Char :=
  if x ∈ asciiUppercase then Char.ofNat (x.toNat + 32) else x

theorem asciiLower_uncased : Text.Fixes asciiLower uncased := by
  have hcased : (asciiUppercase.all fun y => uncased.all fun x =>
      decide (Char.ofNat (y.toNat + 32) = x ↔ y = x)) = true := by
    decide +kernel
  intro x hx y
  unfold asciiLower
  split
  · rename_i hy
    exact List.all_iff_forall_prop.mp (List.all_eq_true.mp hcased y hy) x hx
  · exact Iff.rfl

/-- The locale `C`: lower case is for ASCII letters, and texts are in the order of their code
    points. -/
def cLocale : Locale where
  lower := asciiLower
  lower_uncased := asciiLower_uncased
  collate a b := a ≤ b
  collate_total a b :=
    (String.le_total a b).imp (fun h => decide_eq_true h) fun h => decide_eq_true h
  collate_trans _ _ _ hab hbc :=
    decide_eq_true (String.le_trans (of_decide_eq_true hab) (of_decide_eq_true hbc))

/-- `text ILIKE pattern`. -/
def ilike (locale : Locale) (text pattern : List Char) : Bool :=
  Text.like (text.map locale.lower) (pattern.map locale.lower)

/-! ## The query -/

structure ProductFilters where
  categoryId : Option Uuid
  brand : Option String
  minPrice : Option ℚ
  maxPrice : Option ℚ
  inStockOnly : Bool
  search : Option String
  isFeatured : Option Bool
  isActive : Option Bool

/-- A text, unless it is missing or empty. -/
def given (text : Option String) : Option String := text.filter (· ≠ "")

/-- `f"%{search.strip()}%"`. -/
def normalizedTerm (search : String) : List Char := '%' :: strip search.toList ++ ['%']

/-- The four comparisons with a search term. -/
def matchesSearch (locale : Locale) (search : String) (p : Product) : Bool :=
  ilike locale (normalizePersian p.name.toList) (normalizePersian (normalizedTerm search)) ||
  ilike locale (normalizePersian p.description.toList) (normalizePersian (normalizedTerm search)) ||
  ilike locale p.sku.toList (normalizedTerm search) ||
  ilike locale p.brand.toList (normalizedTerm search)

/-- The joined row of the inventory, with some of the stock not reserved. -/
def Assortment.inStock (a : Assortment) (p : Product) : Bool :=
  (a.inventoryOf p).any fun i => 0 < i.stockTotal - i.stockReserved

/-- The conditions of `_base_query`. The bounds of the price are sent as values of the column that
    they are compared with, and rounded. -/
def ProductFilters.admits (locale : Locale) (a : Assortment) (f : ProductFilters) (p : Product) :
    Bool :=
  f.categoryId.all (p.categoryId = ·) &&
  (given f.brand).all (p.brand = ·) &&
  f.minPrice.all (fun x => numeric x ≤ p.price) &&
  f.maxPrice.all (fun x => p.price ≤ numeric x) &&
  f.isFeatured.all (p.isFeatured = ·) &&
  f.isActive.all (p.isActive = ·) &&
  (!f.inStockOnly || a.inStock p) &&
  (given f.search).all (matchesSearch locale · p)

/-- PostgreSQL takes no NUL character in a parameter, and no price that is too large for its
    column. -/
def ProductFilters.Sendable (f : ProductFilters) : Prop :=
  (∀ brand ∈ given f.brand, fitsText brand) ∧
    (∀ search ∈ given f.search, Char.ofNat 0 ∉ normalizedTerm search) ∧
    (∀ x ∈ f.minPrice, fitsNumeric 12 (numeric x)) ∧ ∀ x ∈ f.maxPrice, fitsNumeric 12 (numeric x)

instance decidableSendable (f : ProductFilters) : Decidable f.Sendable :=
  inferInstanceAs (Decidable (_ ∧ _))

/-- `_base_query`. -/
def Assortment.baseQuery (locale : Locale) (a : Assortment) (f : ProductFilters) : List Product :=
  a.store.db.products.rows.filter (f.admits locale a)

inductive SortColumn where
  | createdAt
  | price
  | name
  deriving DecidableEq, Repr

structure SortOrder where
  sortBy : SortColumn
  sortDesc : Bool
  deriving DecidableEq, Repr

/-- One sort key is at most the other. -/
def SortColumn.le (locale : Locale) (a : Assortment) : SortColumn → Product → Product → Bool
  | .createdAt, p, q => a.createdAt p.id ≤ a.createdAt q.id
  | .price, p, q => p.price ≤ q.price
  | .name, p, q => locale.collate p.name q.name

/-- A row may stand before another one. -/
def SortOrder.Before (locale : Locale) (a : Assortment) (o : SortOrder) (p q : Product) : Prop :=
  (if o.sortDesc then o.sortBy.le locale a q p else o.sortBy.le locale a p q) = true

instance decidableSortBefore (locale : Locale) (a : Assortment) (o : SortOrder) :
    DecidableRel (o.Before locale a) := fun _ _ => inferInstanceAs (Decidable (_ = true))

/-- A query returns the rows in this order. -/
def SortOrder.Sorts (locale : Locale) (a : Assortment) (o : SortOrder)
    (orderBy : List Product → List Product) : Prop :=
  ∀ rows, Paging.Sorting (o.Before locale a) rows (orderBy rows)

/-- The offsets that a query can be sent with: those of a `BIGINT`. -/
def fitsOffset (offset : Nat) : Prop := offset < 2 ^ 63

instance (offset : Nat) : Decidable (fitsOffset offset) := inferInstanceAs (Decidable (_ < _))

/-- `ProductRepository.search`: the rows of a page, and how many there are. -/
def Assortment.search (locale : Locale) (a : Assortment) (f : ProductFilters) (offset limit : Nat)
    (orderBy : List Product → List Product) : Except ShopError (List Product × Nat) :=
  if f.Sendable ∧ fitsOffset offset then
    let query := a.baseQuery locale f
    .ok (((orderBy query).drop offset).take limit, query.length)
  else .error .database

/-! ## The endpoint -/

structure PageParams where
  page : Nat
  pageSize : Nat
  pagePositive : 1 ≤ page
  sizePositive : 1 ≤ pageSize
  sizeBounded : pageSize ≤ 100

def PageParams.offset (params : PageParams) : Nat := (params.page - 1) * params.pageSize

structure Page (α : Type) where
  items : List α
  page : Nat
  pageSize : Nat
  total : Nat
  totalPages : Nat
  deriving DecidableEq, Repr

/-- `total_pages`. -/
def pageCount (total pageSize : Nat) : Nat :=
  if total = 0 then 0 else (total + pageSize - 1) / pageSize

def Page.create {α : Type} (items : List α) (total : Nat) (params : PageParams) : Page α where
  items := items
  page := params.page
  pageSize := params.pageSize
  total := total
  totalPages := pageCount total params.pageSize

/-- The query parameters of `GET /products`, but for the page. -/
structure ListQuery where
  categoryId : Option Uuid
  brand : Option String
  minPrice : Option ℚ
  maxPrice : Option ℚ
  inStockOnly : Bool
  search : Option String
  order : SortOrder

/-- The arguments that are not given have their defaults. -/
def ListQuery.filters (q : ListQuery) : ProductFilters where
  categoryId := q.categoryId
  brand := q.brand
  minPrice := q.minPrice
  maxPrice := q.maxPrice
  inStockOnly := q.inStockOnly
  search := q.search
  isFeatured := none
  isActive := some true

/-- `list_products`. -/
def listProducts (locale : Locale) (a : Assortment) (q : ListQuery) (params : PageParams)
    (orderBy : List Product → List Product) : Except ShopError (Page ProductPublic) := do
  let (items, total) ← a.search locale q.filters params.offset params.pageSize orderBy
  let items ← items.mapM a.serialize
  pure (Page.create items total params)

end ElectronicShop
