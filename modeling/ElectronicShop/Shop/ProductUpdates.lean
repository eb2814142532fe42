import ElectronicShop.Execution.Requests
import ElectronicShop.Model.Session

/-!
# Partial updates of a product

The schema lets every field of an update be `null`, while only the discount and the two
JSON columns can be. So an update that passes the checks of the service is stored as it was
submitted exactly when it has no `null` for another column and no text with a NUL character;
a `null` price next to a discount already stops the comparison of the two.
-/

namespace ElectronicShop

open Txn

namespace ProductUpdate

/-- `update_fields.get("price", product.price)`. -/
def newPrice (data : ProductUpdate) (old : Product) : Option ℚ :=
  data.price.getD (some (old.price : ℚ))

/-- `update_fields.get("discount_price", product.discount_price)`. -/
def newDiscount (data : ProductUpdate) (old : Product) : Option ℚ :=
  data.discountPrice.getD (old.discountPrice.map fun d : Int => (d : ℚ))

/-- The prices are whole and fit their columns. -/
def PricesWhole (data : ProductUpdate) : Prop :=
  (∀ p ∈ data.price.value, ∃ n : Int, p = n ∧ fitsNumeric 12 n) ∧
  ∀ d ∈ data.discountPrice.value, ∃ n : Int, d = n ∧ fitsNumeric 12 n

/-- No field of a `NOT NULL` column is `null`. -/
structure NoNulls (data : ProductUpdate) : Prop where
  name : data.name ≠ some none
  shortDescription : data.shortDescription ≠ some none
  description : data.description ≠ some none
  price : data.price ≠ some none
  brand : data.brand ≠ some none
  categoryId : data.categoryId ≠ some none
  isActive : data.isActive ≠ some none
  isFeatured : data.isFeatured ≠ some none
  isPopular : data.isPopular ≠ some none

/-- No text has a NUL character in it. -/
structure TextsFit (data : ProductUpdate) : Prop where
  name : ∀ text ∈ data.name.value, fitsText text
  shortDescription : ∀ text ∈ data.shortDescription.value, fitsText text
  description : ∀ text ∈ data.description.value, fitsText text
  brand : ∀ text ∈ data.brand.value, fitsText text
  images : ∀ images ∈ data.images.value, ∀ i ∈ images, fitsText i
  specifications : ∀ specifications ∈ data.specifications.value, ∀ s ∈ specifications,
    fitsText s.1 ∧ fitsText s.2

/-- Every field of the row is the submitted one or, where none is submitted, the old one. -/
structure Stores (data : ProductUpdate) (old new : Product) : Prop where
  id : new.id = old.id
  sku : new.sku = old.sku
  slug : new.slug = old.slug
  name : some new.name = data.name.getD (some old.name)
  shortDescription :
    some new.shortDescription = data.shortDescription.getD (some old.shortDescription)
  description : some new.description = data.description.getD (some old.description)
  price : some (new.price : ℚ) = data.newPrice old
  discountPrice : (new.discountPrice.map fun d : Int => (d : ℚ)) = data.newDiscount old
  brand : some new.brand = data.brand.getD (some old.brand)
  categoryId : some new.categoryId = data.categoryId.getD (some old.categoryId)
  images : new.images = data.images.getD old.images
  specifications : new.specifications = data.specifications.getD old.specifications
  isActive : some new.isActive = data.isActive.getD (some old.isActive)
  isFeatured : some new.isFeatured = data.isFeatured.getD (some old.isFeatured)
  isPopular : some new.isPopular = data.isPopular.getD (some old.isPopular)

end ProductUpdate

/-- The checks of the service refuse an update: there is no such product or category, or the
    new discount is not below the new price. -/
inductive UpdateRefused (db : Db) (productId : Uuid) (data : ProductUpdate) : Prop where
  | product (missing : db.products.get productId = none)
  | category (old : Product) (found : db.products.get productId = some old) (categoryId : Uuid)
      (submitted : data.categoryId.value = some categoryId)
      (missing : db.categories.get categoryId = none)
  | discount (old : Product) (found : db.products.get productId = some old) (price discount : ℚ)
      (newPrice : data.newPrice old = some price) (newDiscount : data.newDiscount old = some discount)
      (notBelow : price ≤ discount)

/-- An update stores the submitted fields, or it is refused. -/
inductive UpdatesOrRefuses (store : Store) (productId : Uuid) (data : ProductUpdate) : Prop where
  | stored (old new : Product) (store' : Store) (found : store.db.products.get productId = some old)
      (answer : store.transact (ProductService.update productId data) = .ok (new, store'))
      (fields : data.Stores old new)
      (db : store'.db = { store.db with products := store.db.products.put new })
  | refused (e : ShopError) (answer : store.transact (ProductService.update productId data) = .error e)
      (refusal : e.IsRefusal)

/-! ## The row that is stored -/

namespace ProductService

section Columns

variable {α β : Type} {field : Field α} {old : β} {store : α → β}

theorem setColumn_eq_none : setColumn field old store = none ↔ field = some none := by
  unfold setColumn
  split <;> simp

theorem setColumn_id {field : Field α} {old : α} :
    setColumn field old id = field.getD (some old) := by
  unfold setColumn
  split <;> rfl

theorem setNullable_id {field : Field α} {old : Option α} :
    setNullable field old id = field.getD old := by
  unfold setNullable
  split
  · rfl
  · simp

end Columns

variable {old new : Product} {data : ProductUpdate}

/-- The columns of the row that is stored. -/
theorem updated_eq_some : updated old data = some new ↔
    setColumn data.name old.name id = some new.name ∧
    setColumn data.shortDescription old.shortDescription id = some new.shortDescription ∧
    setColumn data.description old.description id = some new.description ∧
    setColumn data.price old.price numeric = some new.price ∧
    setColumn data.brand old.brand id = some new.brand ∧
    setColumn data.categoryId old.categoryId id = some new.categoryId ∧
    setColumn data.isActive old.isActive id = some new.isActive ∧
    setColumn data.isFeatured old.isFeatured id = some new.isFeatured ∧
    setColumn data.isPopular old.isPopular id = some new.isPopular ∧
    new = { new with
      id := old.id
      sku := old.sku
      slug := old.slug
      discountPrice := setNullable data.discountPrice old.discountPrice numeric
      images := setNullable data.images old.images id
      specifications := setNullable data.specifications old.specifications id } := by
  simp only [updated, bind, Option.bind_eq_some_iff, pure, Option.some.injEq]
  constructor
  · rintro ⟨_, hname, _, hshort, _, hdescription, _, hprice, _, hbrand, _, hcategory, _, hactive, _,
      hfeatured, _, hpopular, rfl⟩
    exact ⟨hname, hshort, hdescription, hprice, hbrand, hcategory, hactive, hfeatured, hpopular, rfl⟩
  · rintro ⟨hname, hshort, hdescription, hprice, hbrand, hcategory, hactive, hfeatured, hpopular,
      hrest⟩
    exact ⟨_, hname, _, hshort, _, hdescription, _, hprice, _, hbrand, _, hcategory, _, hactive, _,
      hfeatured, _, hpopular, hrest.symm⟩

/-- There is one when no column is given a `null` that it does not take. -/
theorem updated_isSome : (updated old data).isSome ↔ data.NoNulls := by
  constructor
  · intro h
    obtain ⟨new, hnew⟩ := Option.isSome_iff_exists.mp h
    obtain ⟨hname, hshort, hdescription, hprice, hbrand, hcategory, hactive, hfeatured, hpopular,
      -⟩ := updated_eq_some.mp hnew
    have hcolumn : ∀ {α β : Type} {field : Field α} {old new : β} {store : α → β},
        setColumn field old store = some new → field ≠ some none := by
      intro α β field old new store hset hnull
      rw [setColumn_eq_none.mpr hnull] at hset
      cases hset
    exact ⟨hcolumn hname, hcolumn hshort, hcolumn hdescription, hcolumn hprice, hcolumn hbrand,
      hcolumn hcategory, hcolumn hactive, hcolumn hfeatured, hcolumn hpopular⟩
  · rintro ⟨hname, hshort, hdescription, hprice, hbrand, hcategory, hactive, hfeatured, hpopular⟩
    have hcolumn : ∀ {α β : Type} {field : Field α} (old : β) (store : α → β), field ≠ some none →
        ∃ new, setColumn field old store = some new := by
      intro α β field old store hnull
      exact Option.ne_none_iff_exists'.mp fun hset => hnull (setColumn_eq_none.mp hset)
    obtain ⟨_, hname⟩ := hcolumn old.name id hname
    obtain ⟨_, hshort⟩ := hcolumn old.shortDescription id hshort
    obtain ⟨_, hdescription⟩ := hcolumn old.description id hdescription
    obtain ⟨_, hprice⟩ := hcolumn old.price numeric hprice
    obtain ⟨_, hbrand⟩ := hcolumn old.brand id hbrand
    obtain ⟨_, hcategory⟩ := hcolumn old.categoryId id hcategory
    obtain ⟨_, hactive⟩ := hcolumn old.isActive id hactive
    obtain ⟨_, hfeatured⟩ := hcolumn old.isFeatured id hfeatured
    obtain ⟨_, hpopular⟩ := hcolumn old.isPopular id hpopular
    simp [updated, hname, hshort, hdescription, hprice, hbrand, hcategory, hactive, hfeatured,
      hpopular]

/-- It has the submitted fields. -/
theorem stores_of_updated (hwhole : data.PricesWhole) (h : updated old data = some new) :
    data.Stores old new := by
  obtain ⟨hid, hsku, hslug⟩ := keys_of_updated h
  obtain ⟨hname, hshort, hdescription, hprice, hbrand, hcategory, hactive, hfeatured, hpopular,
    hrest⟩ := updated_eq_some.mp h
  rw [setColumn_id] at hname hshort hdescription hbrand hcategory hactive hfeatured hpopular
  have himages : new.images = setNullable data.images old.images id := by rw [hrest]
  have hspecifications : new.specifications =
      setNullable data.specifications old.specifications id := by rw [hrest]
  have hdiscount : new.discountPrice =
      setNullable data.discountPrice old.discountPrice numeric := by rw [hrest]
  refine ⟨hid, hsku, hslug, hname.symm, hshort.symm, hdescription.symm, ?_, ?_, hbrand.symm,
    hcategory.symm, himages.trans setNullable_id, hspecifications.trans setNullable_id,
    hactive.symm, hfeatured.symm, hpopular.symm⟩
  · unfold ProductUpdate.newPrice
    cases hfield : data.price with
    | none =>
      rw [hfield] at hprice
      rw [← Option.some.inj hprice]
      rfl
    | some value =>
      rw [hfield] at hprice
      cases value with
      | none => cases hprice
      | some p =>
        obtain ⟨n, rfl, -⟩ := hwhole.1 p (by rw [hfield]; rfl)
        rw [setColumn, numeric_intCast] at hprice
        rw [← Option.some.inj hprice]
        rfl
  · unfold ProductUpdate.newDiscount
    rw [hdiscount]
    cases hfield : data.discountPrice with
    | none => rfl
    | some value =>
      cases value with
      | none => rfl
      | some d =>
        obtain ⟨n, rfl, -⟩ := hwhole.2 d (by rw [hfield]; rfl)
        simp [setNullable, numeric_intCast]

/-- What holds of an old column holds of the new one when it does of the submitted value. -/
theorem column_iff {α : Type} {P : α → Prop} {field : Field α} {old new : α}
    (h : some new = field.getD (some old)) (hold : P old) : P new ↔ ∀ a ∈ field.value, P a := by
  cases field with
  | none =>
    cases h
    simpa [Field.value] using hold
  | some value =>
    cases value with
    | none => cases h
    | some a =>
      cases h
      simp [Field.value]

theorem nullable_iff {α : Type} {P : α → Prop} {field : Field α} {old new : Option α}
    (h : new = field.getD old) (hold : ∀ a ∈ old, P a) :
    (∀ a ∈ new, P a) ↔ ∀ a ∈ field.value, P a := by
  rw [h]
  cases field with
  | none => simpa [Field.value] using hold
  | some value => rfl

/-- The row fits its columns when the submitted texts can be stored. -/
theorem fits_updated (hwhole : data.PricesWhole) (hold : old.fits)
    (h : updated old data = some new) : new.fits ↔ data.TextsFit := by
  have hstores := stores_of_updated hwhole h
  obtain ⟨hprice, hdiscount, hsku, hname, hslug, hshort, hdescription, hbrand, himages,
    hspecifications⟩ := hold
  have hwholePrice : fitsNumeric 12 new.price := by
    have hnew : ∃ n : Int, (new.price : ℚ) = n ∧ fitsNumeric 12 n :=
      (column_iff (P := fun q : ℚ => ∃ n : Int, q = n ∧ fitsNumeric 12 n) hstores.price
        ⟨old.price, rfl, hprice⟩).mpr hwhole.1
    obtain ⟨n, hn, hfits⟩ := hnew
    rwa [Int.cast_inj.mp hn]
  have hwholeDiscount : ∀ d ∈ new.discountPrice, fitsNumeric 12 d := by
    intro d hd
    have hold : ∀ q ∈ old.discountPrice.map fun d : Int => (d : ℚ), ∃ n : Int, q = n ∧
        fitsNumeric 12 n := by
      intro q hq
      obtain ⟨n, hn, rfl⟩ := Option.map_eq_some_iff.mp hq
      exact ⟨n, rfl, hdiscount n hn⟩
    obtain ⟨n, hn, hfits⟩ := (nullable_iff hstores.discountPrice hold).mpr hwhole.2 (d : ℚ)
      (Option.map_eq_some_iff.mpr ⟨d, hd, rfl⟩)
    rwa [Int.cast_inj.mp hn]
  have hvarchar : ∀ {n : Nat} {field : Field String} {old new : String},
      some new = field.getD (some old) → fitsVarchar n old → (∀ t ∈ field.value, t.length ≤ n) →
        (fitsVarchar n new ↔ ∀ t ∈ field.value, fitsText t) := by
    intro n field old new hnew hfits hlength
    refine (column_iff hnew hfits).trans (forall₂_congr fun t ht => ?_)
    exact and_iff_right (hlength t ht)
  have hnames := hvarchar hstores.name hname fun t ht => (data.nameLength t ht).2
  have hshorts := hvarchar hstores.shortDescription hshort data.shortDescriptionLength
  have hbrands := hvarchar hstores.brand hbrand data.brandLength
  have hdescriptions := column_iff (P := fitsText) hstores.description hdescription
  have hpictures := nullable_iff hstores.images himages
  have hproperties := nullable_iff hstores.specifications hspecifications
  unfold Product.fits
  rw [hnames, hshorts, hbrands, hdescriptions, hpictures, hproperties, hstores.sku, hstores.slug]
  constructor
  · rintro ⟨-, -, -, hname, -, hshort, hdescription, hbrand, himages, hspecifications⟩
    exact ⟨hname, hshort, hdescription, hbrand, himages, hspecifications⟩
  · rintro ⟨hname, hshort, hdescription, hbrand, himages, hspecifications⟩
    exact ⟨hwholePrice, hwholeDiscount, hsku, hname, hslug, hshort, hdescription, hbrand, himages,
      hspecifications⟩

/-! ## The outcome of an update -/

variable {db : Db} {productId : Uuid}

/-- The update of a product that is there, in a category that is there. -/
theorem run_update (hold : db.products.get productId = some old)
    (hcategory : ∀ c ∈ data.categoryId.value, (db.categories.get c).isSome) :
    db.run (update productId data) = db.run (do
      checkDiscount (data.newPrice old) (data.newDiscount old)
      let stored ← orRaise .database (updated old data)
      write (.setProduct old stored)
      pure stored) := by
  have hcheck : ∀ f : Unit → Tx Product,
      db.run (checkCategory data.categoryId.value >>= f) = db.run (f ()) := by
    intro f
    cases hvalue : data.categoryId.value with
    | none => rfl
    | some c =>
      obtain ⟨category, hget⟩ := Option.isSome_iff_exists.mp (hcategory c hvalue)
      unfold checkCategory
      rw [bind_assoc, Db.run_send_bind]
      simp only [Stmt.exec, hget]
      rfl
  unfold update
  rw [Db.run_send_bind]
  simp only [Stmt.exec, hold, Option.map_some, Db.run_orRaise_some_bind]
  exact hcheck _

/-- A row of a product that keeps its identifiers can be stored when it fits its columns. -/
theorem constraints_put_product (hvalid : db.Constraints)
    (hold : db.products.get productId = some old)
    (hkeys : new.id = old.id ∧ new.sku = old.sku ∧ new.slug = old.slug) :
    Db.Constraints { db with products := db.products.put new } ↔ new.fits := by
  obtain ⟨hid, hsku, hslug⟩ := hkeys
  have hget : db.products.get new.id = some old := by
    rw [hid]
    exact Table.get_of_mem (Table.mem_of_get hold)
  have hcolumn : ∀ f : Product → String, f new = f old →
      (db.products.put new).rows.map f = db.products.rows.map f := by
    intro f hf
    rw [← List.filterMap_eq_map]
    exact Table.filterMap_put (some ∘ f) hget (congrArg some hf)
  constructor
  · intro h
    exact h.products new (Table.mem_of_get (Table.get_put_self _ new))
  · intro hfits
    refine { hvalid with products := ?_, skus := ?_, slugs := ?_ }
    · intro p hp
      rcases Table.mem_put hp with rfl | hrest
      · exact hfits
      · exact hvalid.products p hrest.1
    · rw [hcolumn Product.sku hsku]
      exact hvalid.skus
    · rw [hcolumn Product.slug hslug]
      exact hvalid.slugs

end ProductService

section Outcome

variable {store : Store} {productId : Uuid} {data : ProductUpdate} {old : Product}

theorem UpdatesOrRefuses.of_error {e : ShopError}
    (hrun : store.db.run (ProductService.update productId data) = .error e) :
    UpdatesOrRefuses store productId data ↔ e.IsRefusal := by
  have houtcome := Store.transact_error.mpr (Or.inl hrun)
  constructor
  · intro h
    cases h with
    | stored old new store' found answer =>
      rw [houtcome] at answer
      cases answer
    | refused e' answer refusal =>
      rw [houtcome] at answer
      cases answer
      exact refusal
  · exact .refused e houtcome

/-- An update that has passed the checks. -/
theorem UpdatesOrRefuses.of_checked (hwhole : data.PricesWhole)
    (hold : store.db.products.get productId = some old)
    (hrun : store.db.run (ProductService.update productId data) = store.db.run (do
      let stored ← orRaise .database (ProductService.updated old data)
      write (.setProduct old stored)
      pure stored)) :
    UpdatesOrRefuses store productId data ↔ data.NoNulls ∧ data.TextsFit := by
  cases hupdated : ProductService.updated old data with
  | none =>
    have herror : store.db.run (ProductService.update productId data) = .error .database := by
      rw [hrun, hupdated]
      rfl
    have hnulls : (ProductService.updated old data).isSome ↔ data.NoNulls :=
      ProductService.updated_isSome
    rw [UpdatesOrRefuses.of_error herror, ← hnulls, hupdated]
    simp [ShopError.IsRefusal]
  | some new =>
    have hkeys := ProductService.keys_of_updated hupdated
    have hget : store.db.products.get old.id = some old :=
      Table.get_of_mem (Table.mem_of_get hold)
    have hok : store.db.run (ProductService.update productId data) =
        .ok (new, { store.db with products := store.db.products.put new }) := by
      rw [hrun, hupdated, Db.run_orRaise_some_bind, Db.run_write_bind]
      simp only [Write.apply, Table.modify_of_get _ hget,
        Product.setChanged_self hkeys.1 hkeys.2.1 hkeys.2.2]
      rfl
    have hconstraints := ProductService.constraints_put_product store.valid hold hkeys
    have hfits := ProductService.fits_updated hwhole
      (store.valid.products old (Table.mem_of_get hold)) hupdated
    have hnulls : data.NoNulls :=
      ProductService.updated_isSome.mp (Option.isSome_of_eq_some hupdated)
    constructor
    · intro h
      refine ⟨hnulls, hfits.mp (hconstraints.mp ?_)⟩
      cases h with
      | stored old' new' store' found answer fields db =>
        have hstored := Store.transact_ok.mp answer
        rw [hok] at hstored
        obtain ⟨-, hdb⟩ := Prod.mk.inj (Except.ok.inj hstored)
        rw [hdb]
        exact store'.valid
      | refused e answer refusal =>
        rcases Store.transact_error.mp answer with herror | ⟨rfl, -⟩
        · rw [hok] at herror
          cases herror
        · exact refusal.elim
    · rintro ⟨-, htexts⟩
      exact .stored old new ⟨_, hconstraints.mpr (hfits.mpr htexts)⟩ hold (Store.transact_ok.mpr hok)
        (ProductService.stores_of_updated hwhole hupdated) rfl

theorem ProductUpdate.newPrice_eq_none : data.newPrice old = none ↔ data.price = some none := by
  unfold ProductUpdate.newPrice
  cases data.price <;> simp

/-- For a product and a category that are there, the comparison of the prices is left. -/
theorem updateRefused_iff (hold : store.db.products.get productId = some old)
    (hcategory : ∀ c ∈ data.categoryId.value, (store.db.categories.get c).isSome) :
    UpdateRefused store.db productId data ↔ ∃ price discount : ℚ,
      data.newPrice old = some price ∧ data.newDiscount old = some discount ∧ price ≤ discount := by
  constructor
  · intro h
    cases h with
    | product missing =>
      rw [hold] at missing
      cases missing
    | category old' found categoryId submitted missing =>
      have hsome := hcategory categoryId submitted
      rw [missing] at hsome
      cases hsome
    | discount old' found price discount newPrice newDiscount notBelow =>
      rw [hold] at found
      cases found
      exact ⟨price, discount, newPrice, newDiscount, notBelow⟩
  · rintro ⟨price, discount, hprice, hdiscount, hle⟩
    exact .discount old hold price discount hprice hdiscount hle

theorem UpdatesOrRefuses.of_found (hwhole : data.PricesWhole)
    (hold : store.db.products.get productId = some old)
    (hcategory : ∀ c ∈ data.categoryId.value, (store.db.categories.get c).isSome) :
    UpdatesOrRefuses store productId data ↔
      UpdateRefused store.db productId data ∨ data.NoNulls ∧ data.TextsFit := by
  have hrun := ProductService.run_update hold hcategory
  rw [updateRefused_iff hold hcategory]
  cases hdiscount : data.newDiscount old with
  | none =>
    rw [hdiscount] at hrun
    rw [UpdatesOrRefuses.of_checked hwhole hold hrun]
    simp
  | some discount =>
    cases hprice : data.newPrice old with
    | none =>
      -- `None` cannot be compared with the discount
      rw [hdiscount, hprice] at hrun
      have hnull : ¬ data.NoNulls := fun h => h.price (ProductUpdate.newPrice_eq_none.mp hprice)
      rw [UpdatesOrRefuses.of_error hrun]
      simp [ShopError.IsRefusal, hnull]
    | some price =>
      rw [hdiscount, hprice] at hrun
      by_cases hle : price ≤ discount
      · have hconflict : store.db.run (ProductService.update productId data) =
            .error (.conflict "قیمت با تخفیف باید کمتر از قیمت اصلی باشد.") := by
          rw [hrun]
          simp [ProductService.checkDiscount, hle]
        rw [UpdatesOrRefuses.of_error hconflict]
        simp [ShopError.IsRefusal, hle]
      · have hpassed : ∀ f : Unit → Tx Product, store.db.run
            (ProductService.checkDiscount (some price) (some discount) >>= f) =
              store.db.run (f ()) := by
          intro f
          simp [ProductService.checkDiscount, hle]
        rw [hpassed] at hrun
        rw [UpdatesOrRefuses.of_checked hwhole hold hrun]
        simp [hle]

/-- An update is stored as it was submitted, or refused, exactly when the checks refuse it or
    it has no `null` for a column that takes none and no NUL character in a text. And one that
    does not commit changes nothing. -/
theorem updatesOrRefuses_iff (hwhole : data.PricesWhole) :
    (UpdatesOrRefuses store productId data ↔
      UpdateRefused store.db productId data ∨ data.NoNulls ∧ data.TextsFit) ∧
    ∀ c : Config shop ShopError Product Db Session RowKey Unit,
      Reach shopEngine anyEvent
        { db := store.db
          clients := fun _ =>
            .running (ProductService.update productId data) shopEngine.start [] } c →
      c.results () = none → c.db = store.db := by
  refine ⟨?_, fun c hreach hnone => hreach.db_of_no_results fun _ => hnone⟩
  cases hold : store.db.products.get productId with
  | none =>
    have hrun : store.db.run (ProductService.update productId data) =
        .error (.notFound "محصول پیدا نشد.") := by
      unfold ProductService.update
      rw [Db.run_send_bind]
      simp only [Stmt.exec, hold]
      rfl
    exact iff_of_true ((UpdatesOrRefuses.of_error hrun).mpr trivial) (Or.inl (.product hold))
  | some old =>
    by_cases hcategory : ∀ c ∈ data.categoryId.value, (store.db.categories.get c).isSome
    · exact UpdatesOrRefuses.of_found hwhole hold hcategory
    · simp only [not_forall] at hcategory
      obtain ⟨c, hvalue, hmissing⟩ := hcategory
      have hnone := Option.not_isSome_iff_eq_none.mp hmissing
      have hrun : store.db.run (ProductService.update productId data) =
          .error (.notFound "دسته‌بندی انتخاب‌شده پیدا نشد.") := by
        unfold ProductService.update
        rw [Db.run_send_bind]
        simp only [Stmt.exec, hold, Option.map_some, Db.run_orRaise_some_bind,
          Option.mem_def.mp hvalue, ProductService.checkCategory, bind_assoc, Db.run_send_bind, hnone]
        rfl
      exact iff_of_true ((UpdatesOrRefuses.of_error hrun).mpr trivial)
        (Or.inl (.category old hold c hvalue hnone))

end Outcome

/-- The phone gets a price of 8. -/
def priceEight : ProductUpdate :=
  { ProductUpdate.noFields with price := some (some 8), pricePositive := by simp [Field.value] }

theorem updatesOrRefuses_iff_smallShop : UpdatesOrRefuses smallShop 10 priceEight := by
  have hwhole : priceEight.PricesWhole := by
    constructor
    · intro p hp
      cases hp
      exact ⟨8, by norm_num, by decide⟩
    · intro d hd
      cases hd
  refine (updatesOrRefuses_iff hwhole).1.mpr (Or.inr ⟨?_, ?_⟩)
  · constructor <;> simp [priceEight, ProductUpdate.noFields]
  · constructor <;> simp [priceEight, ProductUpdate.noFields, Field.value]

/-- `{"name": null}`. -/
def nameNull : ProductUpdate :=
  { ProductUpdate.noFields with
    name := some none
    nameLength := ProductUpdate.noFields.nameLength }

/-- `{"price": null, "discount_price": 3}`. -/
def priceNull : ProductUpdate :=
  { ProductUpdate.noFields with
    price := some none
    discountPrice := some (some 3)
    pricePositive := ProductUpdate.noFields.pricePositive
    discountNonneg := by simp [Field.value] }

/-- A name of `null` cannot be stored, and a price of `null` cannot be compared with a
    discount. -/
theorem updatesOrRefuses_fails :
    (nameNull.PricesWhole ∧
      smallShop.transact (ProductService.update 10 nameNull) = .error .database ∧
      ¬ UpdatesOrRefuses smallShop 10 nameNull) ∧
    priceNull.PricesWhole ∧
      smallShop.transact (ProductService.update 10 priceNull) = .error .internal ∧
      ¬ UpdatesOrRefuses smallShop 10 priceNull := by
  have hname : smallShop.db.run (ProductService.update 10 nameNull) = .error .database := rfl
  have hprice : smallShop.db.run (ProductService.update 10 priceNull) = .error .internal := rfl
  refine ⟨⟨⟨?_, ?_⟩, Store.transact_error.mpr (Or.inl hname), ?_⟩, ⟨?_, ?_⟩,
    Store.transact_error.mpr (Or.inl hprice), ?_⟩
  · exact fun p hp => nomatch hp
  · exact fun d hd => nomatch hd
  · exact fun h => (UpdatesOrRefuses.of_error hname).mp h
  · exact fun p hp => nomatch hp
  · intro d hd
    cases hd
    exact ⟨3, by norm_num, by decide⟩
  · exact fun h => (UpdatesOrRefuses.of_error hprice).mp h

end ElectronicShop
