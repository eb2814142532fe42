import ElectronicShop.Execution.Stock

/-!
# Product operations that run alone
-/

namespace ElectronicShop

open Txn

namespace ProductService

variable {db db' : Db} {productId : Uuid}

/-- The row `create` stores. -/
def created (data : ProductCreate) (productId : Uuid) : Product where
  id := productId
  sku := data.sku
  name := data.name
  slug := data.slug
  shortDescription := data.shortDescription
  description := data.description
  price := numeric data.price
  discountPrice := data.discountPrice.map numeric
  brand := data.brand
  categoryId := data.categoryId
  images := some data.images
  specifications := some data.specifications
  isActive := data.isActive
  isFeatured := data.isFeatured
  isPopular := data.isPopular

/-- What `create` does with the products that have the slug or the SKU. -/
theorem run_create {data : ProductCreate} (hsku : fitsText data.sku) :
    db.run (create data productId) =
      match db.products.rows.filter fun p => p.slug = data.slug ∨ p.sku = data.sku with
      | [] => db.run (do
          let _ ← orRaise (.notFound "دسته‌بندی انتخاب‌شده پیدا نشد.")
            (← send (.getCategory data.categoryId))
          insert (.product (created data productId))
          insert (.inventory ⟨productId, data.initialStock, 0⟩)
          pure (created data productId))
      | [_] => .error (.conflict "محصولی با این نامک یا SKU از قبل وجود دارد.")
      | _ :: _ :: _ => .error .internal := by
  have hquery : getBySlugOrSku data = send (.getProductBySlugOrSku data.slug data.sku) :=
    if_neg (not_not.mpr hsku)
  unfold create
  rw [hquery]
  refine (Db.run_send_bind db (.getProductBySlugOrSku data.slug data.sku) _).trans ?_
  simp only [Stmt.exec]
  cases db.products.rows.filter fun p => p.slug = data.slug ∨ p.sku = data.sku with
  | nil => rfl
  | cons p rest =>
    cases rest with
    | nil => rfl
    | cons q rest => rfl

theorem run_create_of_nul {data : ProductCreate} (hsku : ¬ fitsText data.sku) :
    db.run (create data productId) = .error .database := by
  have hquery : getBySlugOrSku data = .raise .database := if_pos hsku
  unfold create
  rw [hquery]
  rfl

theorem run_create_ok {data : ProductCreate} {product : Product} :
    db.run (create data productId) = .ok (product, db') ↔
      fitsText data.sku ∧
      db.products.rows.filter (fun p => p.slug = data.slug ∨ p.sku = data.sku) = [] ∧
      (db.categories.get data.categoryId).isSome ∧
      db.products.get productId = none ∧ db.inventory.get productId = none ∧
      product = created data productId ∧
      db' = { db with
        products := db.products.put (created data productId)
        inventory := db.inventory.put ⟨productId, data.initialStock, 0⟩ } := by
  by_cases hsku : fitsText data.sku
  · rw [run_create hsku]
    cases hrows : db.products.rows.filter fun p => p.slug = data.slug ∨ p.sku = data.sku with
    | nil =>
      simp only [hsku, true_and]
      constructor
      · intro h
        rw [Db.run_send_bind] at h
        obtain ⟨category, hcategory, h⟩ := Db.run_orRaise_bind_ok.mp h
        obtain ⟨_, db₁, hproduct, h⟩ := Db.run_bind_ok.mp h
        obtain ⟨hfree, rfl⟩ := Db.run_insert_ok.mp hproduct
        obtain ⟨_, db₂, hinventory, h⟩ := Db.run_bind_ok.mp h
        obtain ⟨hfree', rfl⟩ := Db.run_insert_ok.mp hinventory
        cases h
        refine ⟨?_, ?_, ?_, rfl, rfl⟩
        · exact Option.isSome_of_eq_some hcategory
        · simpa [NewRow.taken, Stmt.exec, created] using hfree
        · simpa [NewRow.taken, NewRow.insert, Stmt.exec] using hfree'
      · rintro ⟨hcategory, hfree, hfree', rfl, rfl⟩
        obtain ⟨category, hcategory⟩ := Option.isSome_iff_exists.mp hcategory
        rw [Db.run_send_bind]
        refine Db.run_orRaise_bind_ok.mpr ⟨category, hcategory, ?_⟩
        refine Db.run_bind_ok.mpr ⟨(), _, Db.run_insert_ok.mpr ⟨?_, rfl⟩, ?_⟩
        · simp [NewRow.taken, Stmt.exec, hfree, created]
        · refine Db.run_bind_ok.mpr ⟨(), _, Db.run_insert_ok.mpr ⟨?_, rfl⟩, rfl⟩
          simp [NewRow.taken, NewRow.insert, Stmt.exec, hfree']
    | cons p rest =>
      cases rest <;> simp
  · rw [run_create_of_nul hsku]
    simp [hsku]

/-- An update keeps the product's identifiers. -/
theorem keys_of_updated {old new : Product} {data : ProductUpdate}
    (h : updated old data = some new) :
    new.id = old.id ∧ new.sku = old.sku ∧ new.slug = old.slug := by
  simp only [updated, bind, Option.bind_eq_some_iff, pure, Option.some.injEq] at h
  obtain ⟨_, -, _, -, _, -, _, -, _, -, _, -, _, -, _, -, _, -, rfl⟩ := h
  exact ⟨rfl, rfl, rfl⟩

/-- An update of a product stores one product row. -/
theorem run_update_ok {data : ProductUpdate} {product : Product}
    (h : db.run (update productId data) = .ok (product, db')) :
    ∃ old, db.products.get productId = some old ∧ updated old data = some product ∧
      db' = { db with products := db.products.put product } := by
  unfold update at h
  rw [Db.run_send_bind] at h
  obtain ⟨⟨old, inventory⟩, hget, h₁⟩ := Db.run_orRaise_bind_ok.mp h
  obtain ⟨old', hold, heq⟩ := Option.map_eq_some_iff.mp hget
  cases heq
  obtain ⟨_, db₁, hcategory, h₂⟩ := Db.run_bind_ok.mp h₁
  have hdb₁ : db₁ = db := by
    cases hvalue : data.categoryId.value with
    | none =>
      rw [hvalue] at hcategory
      cases hcategory
      rfl
    | some categoryId =>
      rw [hvalue, checkCategory, Db.run_send_bind] at hcategory
      obtain ⟨_, -, hdone⟩ := Db.run_orRaise_bind_ok.mp hcategory
      cases hdone
      rfl
  obtain ⟨_, db₂, hdiscount, h₃⟩ := Db.run_bind_ok.mp h₂
  have hdb₂ : db₂ = db₁ := by
    unfold checkDiscount at hdiscount
    split at hdiscount
    · cases hdiscount
      rfl
    · cases hdiscount
    · split at hdiscount
      · cases hdiscount
      · cases hdiscount
        rfl
  obtain ⟨new, hnew, h₄⟩ := Db.run_orRaise_bind_ok.mp h₃
  rw [hdb₂, hdb₁] at h₄
  cases h₄
  have hget' : db.products.get old.id = some old := Table.key_of_get hold ▸ hold
  obtain ⟨hid, hsku, hslug⟩ := keys_of_updated hnew
  refine ⟨old, hold, hnew, ?_⟩
  simp only [Stmt.exec, Write.apply, Table.modify_of_get _ hget',
    Product.setChanged_self hid hsku hslug]

theorem run_archive_ok {u : Unit} (h : db.run (archive productId) = .ok (u, db')) :
    ∃ old, db.products.get productId = some old ∧
      db' = { db with products := db.products.put { old with isActive := false } } := by
  unfold archive at h
  rw [Db.run_send_bind] at h
  obtain ⟨⟨old, inventory⟩, hget, h⟩ := Db.run_orRaise_bind_ok.mp h
  obtain ⟨old', hold, heq⟩ := Option.map_eq_some_iff.mp hget
  cases heq
  cases h
  have hget' : db.products.get old.id = some old := Table.key_of_get hold ▸ hold
  have hstored : old.setChanged { old with isActive := false } old =
      { old with isActive := false } := Product.setChanged_self rfl rfl rfl
  refine ⟨old, hold, ?_⟩
  simp only [Stmt.exec, Write.apply, Table.modify_of_get _ hget']
  rw [hstored]

end ProductService

end ElectronicShop
