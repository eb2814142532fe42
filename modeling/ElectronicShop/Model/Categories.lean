import ElectronicShop.Forest.Worklist
import ElectronicShop.Model.Data
import ElectronicShop.Txn.IdentityMap
import ElectronicShop.Txn.ReadCommitted

/-!
# The category tree

`CategoryService` of `app/modules/catalog/service.py`, over the queries of
`CategoryRepository`. Its transactions write categories and nothing else; they read
products to see whether a category has any. Rows are read without locks, and the changes
are sent at commit, but for the insert of a new category.
-/

namespace ElectronicShop

namespace Categories

open Txn

/-- The column types of `categories`. -/
def fits (c : Category) : Prop :=
  fitsVarchar 150 c.name ∧ fitsVarchar 170 c.slug ∧ -2 ^ 31 ≤ c.sortOrder ∧ c.sortOrder < 2 ^ 31

instance decidableFits (c : Category) : Decidable (fits c) := inferInstanceAs (Decidable (_ ∧ _))

structure Db where
  categories : Table Category.id
  products : Table Product.id

/-- The constraints on `categories`, and the foreign key of `products`. -/
structure Db.Constraints (db : Db) : Prop where
  fits : ∀ c ∈ db.categories.rows, fits c
  slugs : (db.categories.rows.map Category.slug).Nodup
  parents : ∀ c ∈ db.categories.rows, ∀ p ∈ c.parentId, (db.categories.get p).isSome
  /-- `ck_category_not_self_parent`. -/
  notSelfParent : ∀ c ∈ db.categories.rows, c.parentId ≠ some c.id
  products : ∀ p ∈ db.products.rows, (db.categories.get p.categoryId).isSome

theorem Db.constraints_iff (db : Db) : db.Constraints ↔
    (∀ c ∈ db.categories.rows, Categories.fits c) ∧ (db.categories.rows.map Category.slug).Nodup ∧
    (∀ c ∈ db.categories.rows, ∀ p ∈ c.parentId, (db.categories.get p).isSome) ∧
    (∀ c ∈ db.categories.rows, c.parentId ≠ some c.id) ∧
    ∀ p ∈ db.products.rows, (db.categories.get p.categoryId).isSome := by
  constructor
  · rintro ⟨h₁, h₂, h₃, h₄, h₅⟩
    exact ⟨h₁, h₂, h₃, h₄, h₅⟩
  · rintro ⟨h₁, h₂, h₃, h₄, h₅⟩
    exact ⟨h₁, h₂, h₃, h₄, h₅⟩

instance Db.decidableConstraints (db : Db) : Decidable db.Constraints :=
  decidable_of_iff _ db.constraints_iff.symm

/-- A committed database: its constraints hold. -/
structure Store where
  db : Db
  valid : db.Constraints

/-! ## Statements -/

/-- One `INSERT` or `DELETE`, or one `UPDATE` of a column. -/
inductive Write where
  | add (row : Category)
  | setName (id : Uuid) (name : String)
  | setActive (id : Uuid) (isActive : Bool)
  | setSortOrder (id : Uuid) (sortOrder : Int)
  | setParent (id : Uuid) (parentId : Option Uuid)
  | delete (id : Uuid)
  deriving DecidableEq, Repr

def Write.applyTo (categories : Table Category.id) : Write → Table Category.id
  | .add row => categories.put row
  | .setName id name => categories.modify id fun c => { c with name }
  | .setActive id isActive => categories.modify id fun c => { c with isActive }
  | .setSortOrder id sortOrder => categories.modify id fun c => { c with sortOrder }
  | .setParent id parentId => categories.modify id fun c => { c with parentId }
  | .delete id => categories.eraseIf id fun _ => true

def Write.apply (db : Db) (x : Write) : Db := { db with categories := x.applyTo db.categories }

/-- An `UPDATE` of a row that is gone by then is a `StaleDataError`; a `DELETE` is not. -/
def Write.finds (db : Db) : Write → Bool
  | .setName id _ => (db.categories.get id).isSome
  | .setActive id _ => (db.categories.get id).isSome
  | .setSortOrder id _ => (db.categories.get id).isSome
  | .setParent id _ => (db.categories.get id).isSome
  | .add _ => true
  | .delete _ => true

/-- The row a write locks. -/
def Write.row : Write → Uuid
  | .add row => row.id
  | .setName id _ => id
  | .setActive id _ => id
  | .setSortOrder id _ => id
  | .setParent id _ => id
  | .delete id => id

inductive Stmt where
  /-- `get_by_id`: `session.get`. -/
  | getCategory (id : Uuid)
  | getCategoryBySlug (slug : String)
  /-- `list_all`; whoever reads it here makes sets of it, so the order is left out. -/
  | listAll
  /-- The count of `has_products`. -/
  | countProducts (categoryId : Uuid)
  /-- The count of `has_children`. -/
  | countChildren (categoryId : Uuid)
  /-- `session.add` of a new category and its flush, answered with whether the primary key
      was free. -/
  | insert (row : Category)
  /-- A change to a loaded object, or its deletion, left to the unit of work. -/
  | write (x : Write)

@[reducible] def Stmt.Resp : Stmt → Type
  | .getCategory _ => Option Category
  | .getCategoryBySlug _ => Option Category
  | .listAll => List Category
  | .countProducts _ => Nat
  | .countChildren _ => Nat
  | .insert _ => Bool
  | .write _ => Unit

abbrev categories : Interface := ⟨Stmt, Stmt.Resp⟩

abbrev Tx (α : Type) : Type := Prog categories ShopError α

def send (s : Stmt) : Tx s.Resp := Prog.send (I := categories) s

def write (x : Write) : Tx Unit := send (.write x)

/-- Add a row and flush it. -/
def insert (row : Category) : Tx Unit := do
  match ← send (.insert row) with
  | true => pure ()
  | false => .raise .database

/-! ## The service -/

/-- `children_by_parent[current]`, by their ids. -/
def childIds (categories : List Category) (current : Uuid) : List Uuid :=
  (categories.filter fun c => c.parentId = some current).map Category.id

/-- What `get_descendant_ids` makes of the categories it has read. A category enters the
    frontier once, so the fuel is not used up. -/
def descendantIds (categories : List Category) (categoryId : Uuid) : List Uuid :=
  Forest.search (childIds categories) ((categories.map Category.id).length + 1) [] [categoryId]

structure CategoryCreate where
  name : String
  slug : String
  parentId : Option Uuid
  sortOrder : Int
  deriving DecidableEq, Repr

structure CategoryUpdate where
  name : Option String
  isActive : Option Bool
  sortOrder : Option Int
  deriving DecidableEq, Repr

namespace CategoryService

def categoryNotFound : ShopError := .notFound "دسته‌بندی پیدا نشد."

def parentNotFound : ShopError := .notFound "دسته‌بندی والد پیدا نشد."

/-- Setting a column of a loaded row: nothing is sent for the value that it has. -/
def assign {α : Type} [DecidableEq α] (old new : α) (x : Write) : Tx Unit :=
  if new = old then pure () else write x

/-- A parent that is given must be there. -/
def checkParent : Option Uuid → Tx Unit
  | none => pure ()
  | some parentId => do
    let _ ← Prog.orRaise parentNotFound (← send (.getCategory parentId))
    pure ()

/-- The row of a new category. -/
def newCategory (data : CategoryCreate) (id : Uuid) : Category where
  id := id
  parentId := data.parentId
  name := data.name
  slug := data.slug
  isActive := true
  sortOrder := data.sortOrder

def create (data : CategoryCreate) (id : Uuid) : Tx Category := do
  Prog.raiseIfSome (.conflict "این نامک دسته‌بندی قبلاً استفاده شده است.")
    (← send (.getCategoryBySlug data.slug))
  checkParent data.parentId
  insert (newCategory data id)
  pure (newCategory data id)

/-- A column that a request may leave out. -/
def assignIfGiven {α : Type} [DecidableEq α] (old : α) (new : Option α) (x : α → Write) : Tx α :=
  match new with
  | none => pure old
  | some value => do
    assign old value (x value)
    pure value

def update (categoryId : Uuid) (data : CategoryUpdate) : Tx Category := do
  let category ← Prog.orRaise categoryNotFound (← send (.getCategory categoryId))
  let name ← assignIfGiven category.name data.name (.setName categoryId)
  let isActive ← assignIfGiven category.isActive data.isActive (.setActive categoryId)
  let sortOrder ← assignIfGiven category.sortOrder data.sortOrder (.setSortOrder categoryId)
  pure { category with name, isActive, sortOrder }

/-- What `move` asks of a new parent. -/
def checkNewParent (categoryId newParentId : Uuid) : Tx Unit :=
  if newParentId = categoryId then .raise (.conflict "دسته‌بندی نمی‌تواند والد خودش باشد.")
  else do
    let _ ← Prog.orRaise parentNotFound (← send (.getCategory newParentId))
    let all ← send .listAll
    if newParentId ∈ descendantIds all categoryId then
      .raise (.conflict "دسته‌بندی نمی‌تواند به زیرمجموعه خودش منتقل شود.")
    else pure ()

def move (categoryId : Uuid) (newParentId : Option Uuid) : Tx Category := do
  let category ← Prog.orRaise categoryNotFound (← send (.getCategory categoryId))
  match newParentId with
  | none => pure ()
  | some newParentId => checkNewParent categoryId newParentId
  assign category.parentId newParentId (.setParent categoryId newParentId)
  pure { category with parentId := newParentId }

def delete (categoryId : Uuid) : Tx Unit := do
  let _ ← Prog.orRaise categoryNotFound (← send (.getCategory categoryId))
  if 0 < (← send (.countChildren categoryId)) then
    .raise (.conflict "ابتدا زیردسته‌های این دسته‌بندی را حذف یا منتقل کنید.")
  else if 0 < (← send (.countProducts categoryId)) then
    .raise (.conflict "این دسته‌بندی دارای محصول است و قابل حذف نیست.")
  else write (.delete categoryId)

end CategoryService

/-! ## Sessions -/

structure Session where
  /-- The loaded rows, with the changes made to them. -/
  objects : Table Category.id
  /-- What the last `list_all` was answered with. -/
  listed : List Category
  /-- The changes, flushed or not. -/
  pending : List Write

namespace Session

/-- The database as the transaction sees it. -/
def view (w : Session) (db : Db) : Db := w.pending.foldl Write.apply db

/-- Make a change. -/
def send (w : Session) (x : Write) : Session :=
  { w with objects := x.applyTo w.objects, pending := w.pending ++ [x] }

/-- Load a row, unless its object is there already. -/
def load (w : Session) (db : Db) (id : Uuid) : Session :=
  { w with objects := w.objects.remember w.objects (w.view db).categories id }

/-- The object of a category, or else its row. -/
def object (w : Session) (row : Category) : Category := (w.objects.get row.id).getD row

end Session

def Stmt.execIn : (s : Stmt) → Session → Db → s.Resp × Session
  | .getCategory id, w, db => (w.objects.lookup (w.view db).categories id, w.load db id)
  | .getCategoryBySlug slug, w, db =>
    match (w.view db).categories.rows.find? fun c => c.slug = slug with
    | some row => (some (w.object row), w.load db row.id)
    | none => (none, w)
  | .listAll, w, db =>
    let all := (w.view db).categories.rows.map w.object
    (all, { (w.view db).categories.rows.foldl (fun w row => w.load db row.id) w with listed := all })
  | .countProducts id, w, db => ((w.view db).products.rows.countP fun p => p.categoryId = id, w)
  | .countChildren id, w, db =>
    ((w.view db).categories.rows.countP fun c => c.parentId = some id, w)
  | .insert row, w, db =>
    if ((w.view db).categories.get row.id).isSome then (false, w) else (true, w.send (.add row))
  | .write x, w, _ => ((), w.send x)

/-- The locks a statement has to be granted: of the rows its flush writes. -/
def Stmt.needs : Stmt → Session → List Uuid
  | .insert row, w => row.id :: w.pending.map Write.row
  | _, _ => []

/-- The categories under concurrent transactions. -/
def engine : Engine categories ShopError Db Session Uuid where
  start := ⟨∅, [], []⟩
  need s w _ := s.needs w
  exec := Stmt.execIn
  needCommit w := w.pending.map Write.row
  commit w db :=
    if w.pending.all (Write.finds db) = false then .error .internal
    else if (w.view db).Constraints then .ok (w.view db)
    else .error .database

theorem engine_commit_ok {w : Session} {db db' : Db} (h : engine.commit w db = .ok db') :
    (∀ x ∈ w.pending, x.finds db = true) ∧ (w.view db).Constraints ∧ db' = w.view db := by
  change (if w.pending.all (Write.finds db) = false then Except.error ShopError.internal
    else if (w.view db).Constraints then .ok (w.view db) else .error .database) = .ok db' at h
  split at h
  · cases h
  · rename_i hfinds
    split at h
    · rename_i hvalid
      cases h
      exact ⟨List.all_eq_true.mp (by simpa using hfinds), hvalid, rfl⟩
    · cases h

/-! ## Transactions that overlap -/

inductive CategoryOperation where
  | create (data : CategoryCreate) (id : Uuid)
  | update (categoryId : Uuid) (data : CategoryUpdate)
  | move (categoryId : Uuid) (newParentId : Option Uuid)
  | delete (categoryId : Uuid)
  deriving DecidableEq, Repr

/-- The transaction of a request: the endpoints commit after the service. -/
def CategoryOperation.program : CategoryOperation → Tx (Option Category)
  | .create data id => do
    let category ← CategoryService.create data id
    pure (some category)
  | .update categoryId data => do
    let category ← CategoryService.update categoryId data
    pure (some category)
  | .move categoryId newParentId => do
    let category ← CategoryService.move categoryId newParentId
    pure (some category)
  | .delete categoryId => do
    CategoryService.delete categoryId
    pure none

abbrev CategoryOperations (ι : Type) : Type :=
  Config categories ShopError (Option Category) Db Session Uuid ι

/-- All of them are about to begin. -/
def CategoryOperations.start {ι : Type} (db : Db) (ops : ι → CategoryOperation) :
    CategoryOperations ι where
  db := db
  clients i := .running ((ops i).program) engine.start []

end Categories

end ElectronicShop
