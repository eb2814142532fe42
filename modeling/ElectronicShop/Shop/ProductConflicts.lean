import ElectronicShop.Execution.Requests

/-!
# Conflicts of a new product

`create` asks one query for the products that have the slug or the SKU, and expects at most
one row of it. When two different products are found it ends in the error of the query
instead of a conflict; and a text with a NUL character ends in an error of the database.
-/

namespace ElectronicShop

open Txn

/-- A product that has the slug or the SKU of a new one. -/
def ProductCreate.Conflicts (data : ProductCreate) (p : Product) : Prop :=
  p.slug = data.slug ∨ p.sku = data.sku

instance ProductCreate.decidableConflicts (data : ProductCreate) (p : Product) :
    Decidable (data.Conflicts p) :=
  inferInstanceAs (Decidable (_ ∨ _))

/-- The numbers fit their columns. -/
def ProductCreate.NumbersFit (data : ProductCreate) : Prop :=
  fitsNumeric 12 (numeric data.price) ∧
  (∀ d ∈ data.discountPrice, fitsNumeric 12 (numeric d)) ∧ data.initialStock < 2 ^ 31

/-- No text has a NUL character in it. -/
def ProductCreate.TextsFit (data : ProductCreate) : Prop :=
  fitsText data.sku ∧ fitsText data.name ∧ fitsText data.shortDescription ∧
  fitsText data.description ∧ fitsText data.brand ∧ (∀ i ∈ data.images, fitsText i) ∧
  ∀ s ∈ data.specifications, fitsText s.1 ∧ fitsText s.2

instance ProductCreate.decidableNumbersFit (data : ProductCreate) : Decidable data.NumbersFit :=
  inferInstanceAs (Decidable (_ ∧ _))

instance ProductCreate.decidableTextsFit (data : ProductCreate) : Decidable data.TextsFit :=
  inferInstanceAs (Decidable (_ ∧ _))

/-- A creation ends in a conflict, else in a missing category, else with the product and its
    inventory row, and in nothing else. -/
structure ReportsConflicts (store : Store) (data : ProductCreate) (productId : Uuid) : Prop where
  conflict : (∃ message, store.transact (ProductService.create data productId) =
      .error (.conflict message)) ↔ ∃ p ∈ store.db.products.rows, data.Conflicts p
  notFound : (∃ message, store.transact (ProductService.create data productId) =
      .error (.notFound message)) ↔
    (∀ p ∈ store.db.products.rows, ¬ data.Conflicts p) ∧
      store.db.categories.get data.categoryId = none
  created : (∀ p ∈ store.db.products.rows, ¬ data.Conflicts p) →
    (store.db.categories.get data.categoryId).isSome →
      ∃ store', store.transact (ProductService.create data productId) =
          .ok (ProductService.created data productId, store') ∧
        store'.db = { store.db with
          products := store.db.products.put (ProductService.created data productId)
          inventory := store.db.inventory.put ⟨productId, data.initialStock, 0⟩ }
  refusal : ∀ e, store.transact (ProductService.create data productId) = .error e → e.IsRefusal

/-! ## What can be stored -/

/-- A character is the separator, or in one of the parts. -/
theorem mem_part_of_splitOn {sep c : Char} {cs : List Char} (hc : c ∈ cs) :
    c = sep ∨ ∃ part ∈ cs.splitOn sep, c ∈ part := by
  induction cs with
  | nil => cases hc
  | cons x rest ih =>
    rw [List.splitOn_cons_eq_if_modifyHead]
    by_cases hx : x = sep
    · rw [if_pos (by simpa using hx)]
      rcases List.mem_cons.mp hc with rfl | hc
      · exact Or.inl hx
      · refine (ih hc).imp_right fun ⟨part, hpart, hmem⟩ => ?_
        exact ⟨part, List.mem_cons_of_mem _ hpart, hmem⟩
    · rw [if_neg (by simpa using hx)]
      obtain ⟨head, tail, hparts⟩ := List.exists_cons_of_ne_nil (List.splitOn_ne_nil sep rest)
      rw [hparts] at ih ⊢
      rw [List.modifyHead_cons]
      rcases List.mem_cons.mp hc with rfl | hc
      · exact Or.inr ⟨c :: head, List.mem_cons_self, List.mem_cons_self⟩
      · refine (ih hc).imp_right fun ⟨part, hpart, hmem⟩ => ?_
        rcases List.mem_cons.mp hpart with rfl | hpart
        · exact ⟨x :: part, List.mem_cons_self, List.mem_cons_of_mem _ hmem⟩
        · exact ⟨part, List.mem_cons_of_mem _ hpart, hmem⟩

/-- A slug has no NUL character. -/
theorem fitsText_of_slugPattern {slug : String} (h : slugPattern slug = true) : fitsText slug := by
  intro hmem
  have hparts : Char.ofNat 0 = '-' ∨ ∃ part ∈ slug.toList.splitOn '-', Char.ofNat 0 ∈ part :=
    mem_part_of_splitOn hmem
  rcases hparts with hsep | ⟨part, hpart, hmem⟩
  · exact absurd hsep (by decide)
  · have hchars := List.all_eq_true.mp h part hpart
    simp only [Bool.and_eq_true, List.all_eq_true] at hchars
    exact absurd (hchars.2 _ hmem) (by decide)

section Created

variable {db : Db} {data : ProductCreate} {productId : Uuid}

theorem fits_created (hnumbers : data.NumbersFit) :
    (ProductService.created data productId).fits ↔ data.TextsFit := by
  have hslug := fitsText_of_slugPattern data.slugMatches
  obtain ⟨hprice, hdiscount, -⟩ := hnumbers
  have hdiscounts : ∀ d ∈ data.discountPrice.map numeric, fitsNumeric 12 d := by
    simpa using hdiscount
  have himages : (∀ images ∈ some data.images, ∀ i ∈ images, fitsText i) ↔
      ∀ i ∈ data.images, fitsText i := by simp
  have hspecifications : (∀ specifications ∈ some data.specifications, ∀ s ∈ specifications,
      fitsText s.1 ∧ fitsText s.2) ↔ ∀ s ∈ data.specifications, fitsText s.1 ∧ fitsText s.2 := by
    simp
  unfold Product.fits ProductCreate.TextsFit ProductService.created fitsVarchar
  simp only [himages, hspecifications]
  constructor
  · rintro ⟨-, -, ⟨-, hsku⟩, ⟨-, hname⟩, -, ⟨-, hshort⟩, hdescription, ⟨-, hbrand⟩, hlists⟩
    exact ⟨hsku, hname, hshort, hdescription, hbrand, hlists⟩
  · rintro ⟨hsku, hname, hshort, hdescription, hbrand, hlists⟩
    exact ⟨hprice, hdiscounts, ⟨data.skuLength.2, hsku⟩, ⟨data.nameLength.2, hname⟩,
      ⟨data.slugLength.2, hslug⟩, ⟨data.shortDescriptionLength, hshort⟩, hdescription,
      ⟨data.brandLength, hbrand⟩, hlists⟩

/-- What a creation leaves satisfies the constraints when the texts can be stored. -/
theorem constraints_created (hvalid : db.Constraints) (hproduct : db.products.get productId = none)
    (hinventory : db.inventory.get productId = none) (hnumbers : data.NumbersFit)
    (hfree : ∀ p ∈ db.products.rows, ¬ data.Conflicts p) :
    Db.Constraints { db with
      products := db.products.put (ProductService.created data productId)
      inventory := db.inventory.put ⟨productId, data.initialStock, 0⟩ } ↔ data.TextsFit := by
  have hproducts : (db.products.put (ProductService.created data productId)).rows =
      db.products.rows ++ [ProductService.created data productId] :=
    Table.rows_put_of_fresh hproduct
  have hstock : (db.inventory.put ⟨productId, data.initialStock, 0⟩).rows =
      db.inventory.rows ++ [⟨productId, data.initialStock, 0⟩] :=
    Table.rows_put_of_fresh hinventory
  constructor
  · intro h
    have hfits : (ProductService.created data productId).fits := by
      refine h.products _ ?_
      rw [hproducts]
      simp
    exact (fits_created hnumbers).mp hfits
  · intro htexts
    refine { hvalid with inventory := ?_, products := ?_, skus := ?_, slugs := ?_ }
    · simp only [hstock, List.forall_mem_append, List.forall_mem_singleton]
      refine ⟨hvalid.inventory, data.initialStockNonneg, le_rfl, data.initialStockNonneg, ?_⟩
      exact hnumbers.2.2
    · simp only [hproducts, List.forall_mem_append, List.forall_mem_singleton]
      exact ⟨hvalid.products, (fits_created hnumbers).mpr htexts⟩
    · simp only [hproducts, List.map_append, List.map_singleton]
      refine List.nodup_append.mpr ⟨hvalid.skus, List.nodup_singleton _, ?_⟩
      rintro sku hsku _ hmem rfl
      obtain ⟨p, hp, rfl⟩ := List.mem_map.mp hsku
      exact hfree p hp (Or.inr (List.mem_singleton.mp hmem))
    · simp only [hproducts, List.map_append, List.map_singleton]
      refine List.nodup_append.mpr ⟨hvalid.slugs, List.nodup_singleton _, ?_⟩
      rintro slug hslug _ hmem rfl
      obtain ⟨p, hp, rfl⟩ := List.mem_map.mp hslug
      exact hfree p hp (Or.inl (List.mem_singleton.mp hmem))

end Created

/-! ## The outcome of a creation -/

section Outcome

variable {store : Store} {data : ProductCreate} {productId : Uuid}

/-- The products that the query finds. -/
theorem mem_filter_conflicts {p : Product} :
    p ∈ store.db.products.rows.filter (fun p => p.slug = data.slug ∨ p.sku = data.sku) ↔
      p ∈ store.db.products.rows ∧ data.Conflicts p := by
  rw [List.mem_filter, decide_eq_true_eq]
  rfl

theorem free_of_filter_eq_nil
    (hrows : store.db.products.rows.filter (fun p => p.slug = data.slug ∨ p.sku = data.sku) = []) :
    ∀ p ∈ store.db.products.rows, ¬ data.Conflicts p := by
  intro p hp hconflicts
  have hmem := mem_filter_conflicts.mpr ⟨hp, hconflicts⟩
  rw [hrows] at hmem
  cases hmem

/-- One product is found. -/
theorem reportsConflicts_of_one (hsku : fitsText data.sku) {p : Product}
    (hrows : store.db.products.rows.filter (fun p => p.slug = data.slug ∨ p.sku = data.sku) = [p]) :
    ReportsConflicts store data productId := by
  have hrun : store.db.run (ProductService.create data productId) =
      .error (.conflict "محصولی با این نامک یا SKU از قبل وجود دارد.") := by
    rw [ProductService.run_create hsku, hrows]
  have houtcome := Store.transact_error.mpr (Or.inl hrun)
  obtain ⟨hp, hconflicts⟩ := mem_filter_conflicts.mp (hrows ▸ List.mem_singleton_self p)
  refine ⟨?_, ?_, fun hnone => absurd hconflicts (hnone p hp), fun e he => ?_⟩
  · exact ⟨fun _ => ⟨p, hp, hconflicts⟩, fun _ => ⟨_, houtcome⟩⟩
  · constructor
    · rintro ⟨message, he⟩
      rw [houtcome] at he
      cases he
    · rintro ⟨hnone, -⟩
      exact absurd hconflicts (hnone p hp)
  · rw [houtcome] at he
    cases he
    trivial

/-- None is found. -/
theorem reportsConflicts_of_none (hproduct : store.db.products.get productId = none)
    (hinventory : store.db.inventory.get productId = none) (hnumbers : data.NumbersFit)
    (hsku : fitsText data.sku)
    (hrows : store.db.products.rows.filter (fun p => p.slug = data.slug ∨ p.sku = data.sku) = []) :
    ReportsConflicts store data productId ↔
      ((store.db.categories.get data.categoryId).isSome → data.TextsFit) := by
  have hfree := free_of_filter_eq_nil hrows
  have hno : ¬ ∃ p ∈ store.db.products.rows, data.Conflicts p := by
    rintro ⟨p, hp, hconflicts⟩
    exact hfree p hp hconflicts
  have hrun : store.db.run (ProductService.create data productId) = _ :=
    ProductService.run_create hsku
  rw [hrows] at hrun
  cases hcategory : store.db.categories.get data.categoryId with
  | none =>
    have hnone : store.db.run (ProductService.create data productId) =
        .error (.notFound "دسته‌بندی انتخاب‌شده پیدا نشد.") := by
      rw [hrun, Db.run_send_bind]
      simp only [Stmt.exec, hcategory]
      rfl
    have houtcome := Store.transact_error.mpr (Or.inl hnone)
    simp only [Option.isSome_none, Bool.false_eq_true, false_imp_iff, iff_true]
    refine ⟨?_, ?_, fun _ hsome => ?_, fun e he => ?_⟩
    · simp only [hno, iff_false, not_exists]
      intro message he
      rw [houtcome] at he
      cases he
    · exact ⟨fun _ => ⟨hfree, hcategory⟩, fun _ => ⟨_, houtcome⟩⟩
    · rw [hcategory] at hsome
      cases hsome
    · rw [houtcome] at he
      cases he
      trivial
  | some category =>
    have hok : store.db.run (ProductService.create data productId) =
        .ok (ProductService.created data productId, { store.db with
          products := store.db.products.put (ProductService.created data productId)
          inventory := store.db.inventory.put ⟨productId, data.initialStock, 0⟩ }) :=
      ProductService.run_create_ok.mpr ⟨hsku, hrows, Option.isSome_of_eq_some hcategory, hproduct,
        hinventory, rfl, rfl⟩
    have hconstraints := constraints_created store.valid hproduct hinventory hnumbers hfree
    simp only [Option.isSome_some, true_imp_iff]
    constructor
    · intro h
      by_contra htexts
      have houtcome := Store.transact_error.mpr (Or.inr ⟨rfl, _, _, hok,
        fun hvalid => htexts (hconstraints.mp hvalid)⟩)
      exact h.refusal _ houtcome
    · intro htexts
      have houtcome : store.transact (ProductService.create data productId) =
          .ok (ProductService.created data productId, ⟨_, hconstraints.mpr htexts⟩) :=
        Store.transact_ok.mpr hok
      refine ⟨?_, ?_, fun _ _ => ⟨_, houtcome, rfl⟩, fun e he => ?_⟩
      · simp only [hno, iff_false, not_exists]
        intro message he
        rw [houtcome] at he
        cases he
      · rw [hcategory]
        simp only [reduceCtorEq, and_false, iff_false, not_exists]
        intro message he
        rw [houtcome] at he
        cases he
      · rw [houtcome] at he
        cases he

/-- Every conflict is reported as one exactly when no two products have the slug and the SKU
    between them, and the texts that reach the database have no NUL character. -/
theorem reportsConflicts_iff (hproduct : store.db.products.get productId = none)
    (hinventory : store.db.inventory.get productId = none) (hnumbers : data.NumbersFit) :
    ReportsConflicts store data productId ↔
      (∀ p ∈ store.db.products.rows, ∀ q ∈ store.db.products.rows,
        data.Conflicts p → data.Conflicts q → p = q) ∧
      fitsText data.sku ∧
      ((∀ p ∈ store.db.products.rows, ¬ data.Conflicts p) →
        (store.db.categories.get data.categoryId).isSome → data.TextsFit) := by
  by_cases hsku : fitsText data.sku
  · cases hrows : store.db.products.rows.filter
        fun p => p.slug = data.slug ∨ p.sku = data.sku with
    | nil =>
      have hfree := free_of_filter_eq_nil hrows
      rw [reportsConflicts_of_none hproduct hinventory hnumbers hsku hrows]
      constructor
      · intro htexts
        exact ⟨fun p hp _ _ hconflicts => absurd hconflicts (hfree p hp), hsku, fun _ => htexts⟩
      · rintro ⟨-, -, htexts⟩
        exact htexts hfree
    | cons p rest =>
      have hp := mem_filter_conflicts.mp (hrows ▸ List.mem_cons_self)
      cases rest with
      | nil =>
        refine iff_of_true (reportsConflicts_of_one hsku hrows) ⟨?_, hsku, ?_⟩
        · have hone : ∀ q ∈ store.db.products.rows, data.Conflicts q → q = p := by
            intro q hq hconflicts
            have hmem := mem_filter_conflicts.mpr ⟨hq, hconflicts⟩
            rw [hrows] at hmem
            exact List.mem_singleton.mp hmem
          intro q hq q' hq' hconflicts hconflicts'
          rw [hone q hq hconflicts, hone q' hq' hconflicts']
        · intro hfree
          exact absurd hp.2 (hfree p hp.1)
      | cons q rest =>
        have hq := mem_filter_conflicts.mp (hrows ▸ List.mem_cons_of_mem p List.mem_cons_self)
        have hrun : store.db.run (ProductService.create data productId) = .error .internal := by
          rw [ProductService.run_create hsku, hrows]
        refine iff_of_false (fun h => ?_) ?_
        · exact h.refusal _ (Store.transact_error.mpr (Or.inl hrun))
        · rintro ⟨hone, -, -⟩
          have hnodup : (p :: q :: rest).Nodup :=
            hrows ▸ (List.Nodup.of_map _ store.db.products.nodup).filter _
          have hpq := hone p hp.1 q hq.1 hp.2 hq.2
          exact (List.nodup_cons.mp hnodup).1 (hpq ▸ List.mem_cons_self)
  · have hrun : store.db.run (ProductService.create data productId) = .error .database :=
      ProductService.run_create_of_nul hsku
    have houtcome := Store.transact_error.mpr (Or.inl hrun)
    refine iff_of_false (fun h => ?_) fun h => hsku h.2.1
    exact h.refusal _ houtcome

end Outcome

/-- The tablet is new to the small shop. -/
theorem reportsConflicts_iff_smallShop : ReportsConflicts smallShop newTablet 11 :=
  (reportsConflicts_iff (by decide) (by decide) (by decide +kernel)).mpr
    ⟨by decide, by decide, fun _ _ => by decide⟩

/-- The small shop with the tablet. -/
def phoneAndTablet : Store where
  db := { smallShop.db with
    products := smallShop.db.products.put (ProductService.created newTablet 11)
    inventory := smallShop.db.inventory.put ⟨11, 5, 0⟩ }
  valid := by decide +kernel

/-- A product with the slug of the phone and the SKU of the tablet. -/
def mixedUp : ProductCreate :=
  { newTablet with slug := "phone", slugLength := by decide, slugMatches := by decide }

/-- Two products conflict with it, and the query for them fails. -/
theorem reportsConflicts_fails :
    mixedUp.NumbersFit ∧ mixedUp.TextsFit ∧
    (∃ p ∈ phoneAndTablet.db.products.rows, mixedUp.Conflicts p) ∧
    phoneAndTablet.transact (ProductService.create mixedUp 12) = .error .internal ∧
    ¬ ReportsConflicts phoneAndTablet mixedUp 12 := by
  have houtcome : phoneAndTablet.transact (ProductService.create mixedUp 12) = .error .internal :=
    Store.transact_error.mpr (Or.inl rfl)
  exact ⟨by decide +kernel, by decide, by decide, houtcome, fun h => h.refusal _ houtcome⟩

end ElectronicShop
