import ElectronicShop.Book.Effect
import ElectronicShop.Model.ProductCache

/-!
# When the product caches are transparent

A page of products shows how many pieces are available. Creating, updating and archiving a
product deletes what is cached of it; the operations that move stock delete nothing. So a
cached page stays right exactly as long as none of them changes what is available of a
product that it shows.
-/

namespace ElectronicShop

open Txn

/-! ## Pages of products -/

/-- Neither document is `null`: the product can be shown. -/
def Product.isDocumented (p : Product) : Bool := p.images.isSome && p.specifications.isSome

/-- What is shown of a documented product. -/
def Product.toPublic (p : Product) (available : Int) : ProductPublic where
  id := p.id
  sku := p.sku
  name := p.name
  slug := p.slug
  shortDescription := p.shortDescription
  description := p.description
  price := p.price
  discountPrice := p.discountPrice
  brand := p.brand
  categoryId := p.categoryId
  images := p.images.getD []
  specifications := p.specifications.getD []
  isActive := p.isActive
  isFeatured := p.isFeatured
  isPopular := p.isPopular
  availableStock := available

theorem serializeProduct_eq (p : Product) (inventory : Option ProductInventory) :
    serializeProduct p inventory =
      if p.isDocumented then .ok (p.toPublic (availableStock inventory))
      else .error .internal := by
  unfold serializeProduct Product.isDocumented Product.toPublic
  cases p.images <;> cases p.specifications <;> rfl

/-- A list of results, one of which may be an error. -/
theorem mapM_ite {α β : Type} (p : α → Bool) (f : α → β) (e : ShopError) (xs : List α) :
    (xs.mapM fun x => if p x then .ok (f x) else .error e) =
      if xs.all p then .ok (xs.map f) else (.error e : Except ShopError (List β)) := by
  induction xs with
  | nil => rfl
  | cons x rest ih =>
    rw [List.mapM_cons, ih]
    cases hx : p x with
    | true => cases hrest : rest.all p <;> simp [hx, hrest] <;> rfl
    | false => simp [hx]; rfl

namespace Catalogue

/-- What is available of a product. -/
def available (c : Catalogue) (productId : Uuid) : Int :=
  availableStock (c.store.db.inventory.get productId)

/-- The products of two catalogues are the same, but for their stock. -/
structure SameProducts (c c' : Catalogue) : Prop where
  products : c'.store.db.products = c.store.db.products
  updatedAt : c'.updatedAt = c.updatedAt

theorem serialize_eq (c : Catalogue) (p : Product) :
    c.serialize p =
      if p.isDocumented then .ok (p.toPublic (c.available p.id)) else .error .internal :=
  serializeProduct_eq p _

theorem mapM_serialize (c : Catalogue) (ps : List Product) :
    ps.mapM c.serialize =
      if ps.all Product.isDocumented then .ok (ps.map fun p => p.toPublic (c.available p.id))
      else .error .internal := by
  rw [funext (serialize_eq c)]
  exact mapM_ite _ _ _ _

/-- A page shows the same after a change of stock if it shows the same stock. -/
theorem mapM_serialize_eq_iff (c c' : Catalogue) (ps : List Product) :
    ps.mapM c'.serialize = ps.mapM c.serialize ↔
      ∀ pages, ps.mapM c.serialize = .ok pages →
        ∀ page ∈ pages, c'.available page.id = c.available page.id := by
  rw [mapM_serialize, mapM_serialize]
  cases ps.all Product.isDocumented with
  | false => simp
  | true =>
    simp only [if_true, Except.ok.injEq, List.map_inj_left, forall_eq', List.forall_mem_map]
    refine forall₂_congr fun p _ => ?_
    simp [Product.toPublic]

end Catalogue

/-! ## Changes of stock -/

section Stock

variable {c c' : Catalogue}

theorem getProduct_read_eq_iff (h : c.SameProducts c') (slug : String) :
    (getProduct slug).read c' = (getProduct slug).read c ↔
      ∀ page, (getProduct slug).read c = .ok page →
        c'.available page.id = c.available page.id := by
  have hrow : c'.getBySlug slug = c.getBySlug slug := by
    unfold Catalogue.getBySlug
    rw [h.products]
  change (c'.getBySlug slug >>= _) = (c.getBySlug slug >>= _) ↔
    ∀ page, (c.getBySlug slug >>= _) = .ok page → _
  rw [hrow]
  cases c.getBySlug slug with
  | error e => simp [bind, Except.bind]
  | ok found =>
    cases found with
    | none => simp [bind, Except.bind]
    | some p =>
      change c'.serialize p = c.serialize p ↔ ∀ page, c.serialize p = .ok page → _
      rw [Catalogue.serialize_eq, Catalogue.serialize_eq]
      cases p.isDocumented with
      | false => simp
      | true => simp [Product.toPublic]

theorem flaggedProducts_read_eq_iff (h : c.SameProducts c') (key : CacheKey)
    (featured popular : Bool) :
    (flaggedProducts key featured popular).read c' =
        (flaggedProducts key featured popular).read c ↔
      ∀ pages, (flaggedProducts key featured popular).read c = .ok pages →
        ∀ page ∈ pages, c'.available page.id = c.available page.id := by
  have hrows : c'.listFlagged featured popular = c.listFlagged featured popular := by
    unfold Catalogue.listFlagged
    rw [h.products, h.updatedAt]
  change (c'.listFlagged featured popular).mapM c'.serialize = _ ↔ _
  rw [hrows]
  exact Catalogue.mapM_serialize_eq_iff c c' _

end Stock

/-! ## Transparency -/

/-- Every page of products is answered as with an empty cache. -/
structure CachedShop.Transparent (shop : CachedShop) : Prop where
  product : ∀ slug, (getProduct slug).Transparent shop.catalogue shop.redis
  featured : featuredProducts.Transparent shop.catalogue shop.redis
  popular : popularProducts.Transparent shop.catalogue shop.redis

/-- The products on a cached page. -/
def shownIds (entry : Cache.Entry CacheKey CachedJson) : List Uuid :=
  match entry.key, entry.value with
  | .product _, .product page => [page.id]
  | .featuredProducts, .products pages => pages.map ProductPublic.id
  | .popularProducts, .products pages => pages.map ProductPublic.id
  | _, _ => []

section Change

variable {c c' : Catalogue} {redis : Redis}

/-- A cached page of one product, after a change of stock. -/
theorem getProduct_transparent_iff (h : c.SameProducts c') {slug : String}
    (hbefore : (getProduct slug).Transparent c redis) :
    (getProduct slug).Transparent c' redis ↔
      ∀ value, redis.find (.product slug) = some value →
        ∀ id ∈ shownIds ⟨.product slug, value⟩, c'.available id = c.available id := by
  rw [hbefore.change_iff]
  refine forall₂_congr fun value hfind => ?_
  have hvalid := Cache.View.transparent_iff.mp hbefore value hfind
  rw [getProduct_read_eq_iff h, ← hvalid]
  cases value with
  | product page => simp [getProduct, CachedJson.asProduct, shownIds]
  | products pages => simp [getProduct, CachedJson.asProduct, shownIds]
  | categories tree => simp [getProduct, CachedJson.asProduct, shownIds]

/-- A cached list of products, after a change of stock. -/
theorem flaggedProducts_transparent_iff (h : c.SameProducts c') {key : CacheKey}
    {featured popular : Bool} (hkey : key = .featuredProducts ∨ key = .popularProducts)
    (hbefore : (flaggedProducts key featured popular).Transparent c redis) :
    (flaggedProducts key featured popular).Transparent c' redis ↔
      ∀ value, redis.find key = some value →
        ∀ id ∈ shownIds ⟨key, value⟩, c'.available id = c.available id := by
  rw [hbefore.change_iff]
  refine forall₂_congr fun value hfind => ?_
  have hvalid := Cache.View.transparent_iff.mp hbefore value hfind
  rw [flaggedProducts_read_eq_iff h, ← hvalid]
  rcases hkey with rfl | rfl
  · cases value <;> simp [flaggedProducts, CachedJson.asProducts, shownIds]
  · cases value <;> simp [flaggedProducts, CachedJson.asProducts, shownIds]

/-- After a change of stock the caches are transparent if what is available of the products
    on cached pages is as it was. -/
theorem CachedShop.Transparent.stock_iff (hbefore : CachedShop.Transparent ⟨c, redis⟩)
    (h : c.SameProducts c') :
    CachedShop.Transparent ⟨c', redis⟩ ↔
      ∀ entry ∈ redis.rows, ∀ id ∈ shownIds entry, c'.available id = c.available id := by
  constructor
  · intro hafter entry hentry
    have hfind := Cache.Cells.find_of_mem hentry
    obtain ⟨key, value⟩ := entry
    cases key with
    | product slug =>
      exact (getProduct_transparent_iff h (hbefore.product slug)).mp (hafter.product slug)
        value hfind
    | featuredProducts =>
      exact (flaggedProducts_transparent_iff h (.inl rfl) hbefore.featured).mp hafter.featured
        value hfind
    | popularProducts =>
      exact (flaggedProducts_transparent_iff h (.inr rfl) hbefore.popular).mp hafter.popular
        value hfind
    | home => simp [shownIds]
    | categoryTree => simp [shownIds]
  · intro hkept
    have hfound : ∀ key value, redis.find key = some value →
        ∀ id ∈ shownIds ⟨key, value⟩, c'.available id = c.available id :=
      fun key value hfind => hkept _ (Cache.Cells.mem_of_find hfind)
    constructor
    · intro slug
      exact (getProduct_transparent_iff h (hbefore.product slug)).mpr (hfound _)
    · exact (flaggedProducts_transparent_iff h (.inl rfl) hbefore.featured).mpr (hfound _)
    · exact (flaggedProducts_transparent_iff h (.inr rfl) hbefore.popular).mpr (hfound _)

/-- What is cached of a product has been deleted, and the others are shown as before. -/
theorem CachedShop.Transparent.invalidated (hbefore : CachedShop.Transparent ⟨c, redis⟩)
    {slug : String} (hother : ∀ slug', slug' ≠ slug →
      (getProduct slug').read c' = (getProduct slug').read c) :
    CachedShop.Transparent ⟨c', redis.delete (ProductService.cacheKeys slug)⟩ := by
  constructor
  · intro slug'
    by_cases hslug : slug' = slug
    · subst hslug
      refine Cache.View.transparent_of_none (redis.find_delete_of_mem ?_)
      simp [getProduct, ProductService.cacheKeys]
    · have hkept : CacheKey.product slug' ∉ ProductService.cacheKeys slug := by
        simp [ProductService.cacheKeys, hslug]
      exact (Cache.View.transparent_congr (redis.find_delete_of_not_mem hkept)
        (hother slug' hslug)).mpr (hbefore.product slug')
  · refine Cache.View.transparent_of_none (redis.find_delete_of_mem ?_)
    simp [featuredProducts, flaggedProducts, ProductService.cacheKeys]
  · refine Cache.View.transparent_of_none (redis.find_delete_of_mem ?_)
    simp [popularProducts, flaggedProducts, ProductService.cacheKeys]

end Change

/-! ## Showing a page -/

namespace CachedShop.Transparent

variable {shop : CachedShop}

theorem show_getProduct (h : shop.Transparent) (slug : String) :
    (shop.show (getProduct slug)).Transparent := by
  constructor
  · intro slug'
    by_cases hslug : slug' = slug
    · subst hslug
      exact (h.product slug').answered
    · exact (h.product slug').answered_other (by simpa [getProduct] using hslug)
  · exact h.featured.answered_other (by simp [featuredProducts, flaggedProducts, getProduct])
  · exact h.popular.answered_other (by simp [popularProducts, flaggedProducts, getProduct])

theorem show_featuredProducts (h : shop.Transparent) :
    (shop.show featuredProducts).Transparent := by
  constructor
  · intro slug
    exact (h.product slug).answered_other
      (by simp [featuredProducts, flaggedProducts, getProduct])
  · exact h.featured.answered
  · exact h.popular.answered_other (by simp [popularProducts, featuredProducts, flaggedProducts])

theorem show_popularProducts (h : shop.Transparent) :
    (shop.show popularProducts).Transparent := by
  constructor
  · intro slug
    exact (h.product slug).answered_other (by simp [popularProducts, flaggedProducts, getProduct])
  · exact h.featured.answered_other (by simp [popularProducts, featuredProducts, flaggedProducts])
  · exact h.popular.answered

end CachedShop.Transparent

/-! ## Operations -/

/-- The operations of `ProductService`. -/
def Request.WritesProduct : Request → Prop
  | .createProduct .. | .updateProduct .. | .archiveProduct .. => True
  | _ => False

instance Request.decidableWritesProduct (r : Request) : Decidable r.WritesProduct := by
  unfold Request.WritesProduct
  rcases r <;> infer_instance

/-- The log entries of the stock that a request moves. -/
def Request.stockMoves (db : Db) : Request → List InventoryHistory
  | .restockProduct subject productId data =>
    [⟨productId, .restock, data.delta, some "admin_restock", none, some subject⟩]
  | .adjustProductInventory subject productId data =>
    [⟨productId, .adjust, data.delta, some "admin_adjust", none, some subject⟩]
  | .checkout subject _ orderId _ => (db.itemsOf subject).map fun line =>
    ⟨line.productId, .reserve, line.quantity, some "order", some orderId, some subject⟩
  | .cancelOrder _ orderId _ =>
    match db.orders.get orderId with
    | some order => OrderService.cancelEntries order
    | none => []
  | .paymentCallback zarinpal authority status now =>
    match db.paymentBy authority with
    | some payment =>
      if payment.status = .initiated then
        match PaymentService.outcome zarinpal payment authority status now,
          db.orders.get payment.orderId with
        | some (_, paid), some order =>
          stockEntries order.id none order.items (PaymentService.settledMove paid)
        | _, _ => []
      else []
    | none => []
  | _ => []

section Serve

variable {store store' : Store}

/-- Only `ProductService` writes products. -/
theorem serve_products {r : Request} (h : serve r store = .ok store') (hr : ¬ r.WritesProduct) :
    store'.db.products = store.db.products := by
  have heffect := serve_effect h
  cases heffect with
  | listed => exact absurd trivial hr
  | updated => exact absurd trivial hr
  | archived => exact absurd trivial hr
  | quiet book => exact congrArg Book.products book
  | restocked _ _ book => exact congrArg Book.products book
  | adjusted _ _ book => exact congrArg Book.products book
  | placed _ _ _ _ _ book => exact congrArg Book.products book
  | cancelled _ _ _ _ _ book => exact congrArg Book.products book
  | reviewed _ _ _ _ _ book => exact congrArg Book.products book
  | refunded _ _ _ _ _ _ _ _ _ _ book => exact congrArg Book.products book
  | paymentInitiated _ _ _ _ _ book => exact congrArg Book.products book
  | settled _ _ _ _ _ _ _ _ _ _ book => exact congrArg Book.products book

/-- Every other request moves the stock as it says. -/
theorem serve_stock {r : Request} (h : serve r store = .ok store') (hr : ¬ r.WritesProduct) :
    store'.db.stock = store.db.stock.moveAll (r.stockMoves store.db) := by
  have hquiet : r.IsQuiet → store'.db.stock = store.db.stock := fun hquiet =>
    congrArg Book.stock (KeepsBook.book_run (keepsBook_handler hquiet) (serve_ok.mp h))
  have heffect := serve_effect h
  rw [serve_ok] at h
  cases r with
  | createProduct => exact absurd trivial hr
  | updateProduct => exact absurd trivial hr
  | archiveProduct => exact absurd trivial hr
  | restockProduct subject productId data =>
    obtain ⟨user, huser, -, -, hrun⟩ := run_authorized_bind_ok.mp h
    obtain ⟨-, hdb⟩ := InventoryService.run_restock_ok.mp hrun
    rw [hdb, Table.key_of_get huser]
    rfl
  | adjustProductInventory subject productId data =>
    obtain ⟨user, huser, -, -, hrun⟩ := run_authorized_bind_ok.mp h
    obtain ⟨r, -, -, hdb⟩ := InventoryService.run_adjust_ok.mp hrun
    rw [hdb, Table.key_of_get huser]
    rfl
  | checkout subject shippingAddress orderId now =>
    obtain ⟨order, hrun⟩ := Db.run_discard_ok.mp h
    obtain ⟨user, huser, -, hrun⟩ := run_getCurrentUser_bind_ok.mp hrun
    obtain ⟨items, -, -, -, hlines, -, rfl, hdb⟩ := OrderService.run_checkout_ok.mp hrun
    rw [hdb]
    change store.db.stock.moveAll (stockEntries orderId (some user.id) items .reserve) = _
    rw [OrderService.stockEntries_of_lines hlines, Table.key_of_get huser]
    rfl
  | cancelOrder subject orderId now =>
    obtain ⟨order', hrun⟩ := Db.run_discard_ok.mp h
    obtain ⟨user, -, -, hrun⟩ := run_getCurrentUser_bind_ok.mp hrun
    obtain ⟨order, hfound, -, -, -, -, hdb⟩ := OrderService.run_cancel_ok.mp hrun
    rw [hdb]
    simp only [Request.stockMoves, hfound]
    rfl
  | paymentCallback zarinpal authority status now =>
    obtain ⟨answer, hrun⟩ := Db.run_discard_ok.mp h
    obtain ⟨payment, hby, hcases⟩ := PaymentService.run_handleCallback_ok.mp hrun
    rcases hcases with ⟨hstatus, -, hdb⟩ |
      ⟨hinitiated, paid, houtcome, order, hfound, -, -, hdb⟩
    · rw [hdb]
      simp only [Request.stockMoves, hby, if_neg hstatus]
      rfl
    · rw [hdb]
      simp only [Request.stockMoves, hby, if_pos hinitiated, houtcome, hfound]
      rfl
  | updateOrderStatus subject orderId data now =>
    cases heffect with
    | quiet book => exact congrArg Book.stock book
    | reviewed _ _ _ _ _ book => exact congrArg Book.stock book
    | refunded _ _ _ _ _ _ _ _ _ _ book => exact congrArg Book.stock book
  | initPayment zarinpal callbackUrl subject orderId paymentId =>
    cases heffect with
    | quiet book => exact congrArg Book.stock book
    | paymentInitiated _ _ _ _ _ book => exact congrArg Book.stock book
  | _ => exact hquiet trivial

/-- A page that finds neither the new row nor the old one. -/
theorem getProduct_read_of_put {p : Product} {slug : String} {updatedAt updatedAt' : Uuid → DateTime}
    (hproducts : store'.db.products = store.db.products.put p) (hnew : p.slug ≠ slug)
    (hold : ∀ old, store.db.products.get p.id = some old → old.slug ≠ slug)
    (hinventory : ∀ q ∈ store.db.products.rows, q.slug = slug →
      store'.db.inventory.get q.id = store.db.inventory.get q.id) :
    (getProduct slug).read ⟨store', updatedAt'⟩ = (getProduct slug).read ⟨store, updatedAt⟩ := by
  have hfind : (store'.db.products.rows.find? fun q => q.slug = slug) =
      store.db.products.rows.find? fun q => q.slug = slug := by
    rw [hproducts]
    exact Table.find?_put_of_not (by simpa using hnew) fun old hget => by simpa using hold old hget
  change (Catalogue.getBySlug _ slug >>= _) = (Catalogue.getBySlug _ slug >>= _)
  unfold Catalogue.getBySlug
  simp only [hfind]
  split
  · rfl
  · cases hrow : store.db.products.rows.find? fun q => q.slug = slug with
    | none => rfl
    | some q =>
      change serializeProduct q (store'.db.inventory.get q.id) =
        serializeProduct q (store.db.inventory.get q.id)
      rw [hinventory q (List.mem_of_find?_eq_some hrow) (by simpa using List.find?_some hrow)]

/-- An operation of `ProductService` deletes the cached page of the product it is about, and
    the pages of the others show what they showed. -/
theorem serve_product {r : Request} (h : serve r store = .ok store') (hr : r.WritesProduct) :
    ∃ slug, r.invalidates store.db = ProductService.cacheKeys slug ∧
      ∀ slug', slug' ≠ slug → ∀ updatedAt updatedAt',
        (getProduct slug').read ⟨store', updatedAt'⟩ =
          (getProduct slug').read ⟨store, updatedAt⟩ := by
  rw [serve_ok] at h
  cases r with
  | createProduct subject data productId =>
    obtain ⟨product, hrun⟩ := Db.run_discard_ok.mp h
    obtain ⟨user, -, -, -, hrun⟩ := run_authorized_bind_ok.mp hrun
    obtain ⟨-, -, -, hfresh, -, -, hdb⟩ := ProductService.run_create_ok.mp hrun
    refine ⟨data.slug, rfl, fun slug' hslug updatedAt updatedAt' => ?_⟩
    refine getProduct_read_of_put (p := ProductService.created data productId) ?_
      (Ne.symm hslug) ?_ ?_
    · rw [hdb]
    · intro old hget
      cases hfresh.symm.trans hget
    · intro q hq _
      have hne : q.id ≠ productId := by
        rintro rfl
        cases hfresh.symm.trans (Table.get_of_mem hq)
      rw [hdb]
      exact Table.get_put_of_ne _ hne
  | updateProduct subject productId data =>
    obtain ⟨product, hrun⟩ := Db.run_discard_ok.mp h
    obtain ⟨user, -, -, -, hrun⟩ := run_authorized_bind_ok.mp hrun
    obtain ⟨old, hfound, hstored, hdb⟩ := ProductService.run_update_ok hrun
    obtain ⟨hid, -, hkept⟩ := ProductService.keys_of_updated hstored
    refine ⟨old.slug, by simp only [Request.invalidates, hfound], ?_⟩
    intro slug' hslug updatedAt updatedAt'
    refine getProduct_read_of_put (p := product) (by rw [hdb]) ?_ ?_ ?_
    · rw [hkept]
      exact Ne.symm hslug
    · intro old' hget
      rw [hid, Table.key_of_get hfound, hfound] at hget
      cases hget
      exact Ne.symm hslug
    · intro q _ _
      rw [hdb]
  | archiveProduct subject productId =>
    obtain ⟨user, -, -, -, hrun⟩ := run_authorized_bind_ok.mp h
    obtain ⟨old, hfound, hdb⟩ := ProductService.run_archive_ok hrun
    refine ⟨old.slug, by simp only [Request.invalidates, hfound], ?_⟩
    intro slug' hslug updatedAt updatedAt'
    refine getProduct_read_of_put (p := { old with isActive := false }) (by rw [hdb])
      (Ne.symm hslug) ?_ ?_
    · intro old' hget
      rw [Table.key_of_get hfound, hfound] at hget
      cases hget
      exact Ne.symm hslug
    · intro q _ _
      rw [hdb]
  | _ => exact hr.elim

end Serve

/-! ## Runs -/

/-- No request other than those of `ProductService` changes what is available of a product that
    a cached page shows. -/
def KeepsShownStock (shop : CachedShop) : CatalogCall → Prop
  | .request r _ => r.WritesProduct ∨
    ∀ entry ∈ shop.redis.rows, ∀ id ∈ shownIds entry,
      availableStock ((shop.db.stock.moveAll (r.stockMoves shop.db)).rows.get id) =
        availableStock (shop.db.inventory.get id)
  | .getProduct _ => True
  | .featuredProducts => True
  | .popularProducts => True

instance KeepsShownStock.decidable (shop : CachedShop) (call : CatalogCall) :
    Decidable (KeepsShownStock shop call) := by
  cases call <;> unfold KeepsShownStock <;> infer_instance

section Run

variable {start shop shop' : CachedShop} {calls : List CatalogCall}

/-- An operation is committed and has deleted its keys. -/
theorem CatalogCall.serve_request {r : Request} {now : DateTime}
    (h : (CatalogCall.request r now).serve shop = .ok shop') :
    ∃ store' updatedAt', ElectronicShop.serve r shop.catalogue.store = .ok store' ∧
      (r.touches shop.db = none → updatedAt' = shop.catalogue.updatedAt) ∧
      shop' = ⟨⟨store', updatedAt'⟩, shop.redis.delete (r.invalidates shop.db)⟩ := by
  cases hstore : ElectronicShop.serve r shop.catalogue.store with
  | error e =>
    simp only [CatalogCall.serve, hstore] at h
    cases h
  | ok store' =>
    simp only [CatalogCall.serve, hstore] at h
    cases h
    refine ⟨store', _, rfl, fun htouches => ?_, rfl⟩
    rw [htouches]

/-- The caches stay transparent exactly over the calls that keep the stock they show. -/
theorem CachedShop.Transparent.serve_iff {call : CatalogCall} (h : shop.Transparent)
    (hserve : call.serve shop = .ok shop') : shop'.Transparent ↔ KeepsShownStock shop call := by
  cases call with
  | getProduct slug =>
    cases hserve
    exact iff_of_true (h.show_getProduct slug) trivial
  | featuredProducts =>
    cases hserve
    exact iff_of_true h.show_featuredProducts trivial
  | popularProducts =>
    cases hserve
    exact iff_of_true h.show_popularProducts trivial
  | request r now =>
    obtain ⟨store', updatedAt', hstore, htouches, rfl⟩ := CatalogCall.serve_request hserve
    by_cases hr : r.WritesProduct
    · obtain ⟨slug, hkeys, hother⟩ := serve_product hstore hr
      refine iff_of_true ?_ (.inl hr)
      change CachedShop.Transparent ⟨_, shop.redis.delete (r.invalidates shop.catalogue.store.db)⟩
      rw [hkeys]
      exact h.invalidated fun slug' hslug => hother slug' hslug _ _
    · have hkeys : r.invalidates shop.db = [] := by
        cases r <;> first | rfl | exact absurd trivial hr
      have hkept : r.touches shop.db = none := by
        cases r <;> first | rfl | exact absurd trivial hr
      have hstock : store'.db.inventory = (shop.db.stock.moveAll (r.stockMoves shop.db)).rows :=
        congrArg Stock.rows (serve_stock hstore hr)
      have hsame : shop.catalogue.SameProducts ⟨store', updatedAt'⟩ :=
        ⟨serve_products hstore hr, htouches hkept⟩
      rw [hkeys]
      refine (h.stock_iff hsame).trans ?_
      unfold Catalogue.available
      rw [hstock]
      exact (or_iff_right hr).symm

/-- In a run whose requests keep the stock that cached pages show, every page is answered as with
    an empty cache. And the next call keeps it so exactly when it keeps that stock, too. -/
theorem product_caches_transparent (h₀ : start.Transparent)
    (hrun : Run CatalogCall.serve KeepsShownStock start calls shop) :
    shop.Transparent ∧ ∀ call shop', CatalogCall.serve call shop = .ok shop' →
      (shop'.Transparent ↔ KeepsShownStock shop call) := by
  have htransparent : shop.Transparent := by
    refine hrun.invariant CachedShop.Transparent h₀ ?_
    intro call shop shop' h hguard hserve
    exact (h.serve_iff hserve).mpr hguard
  exact ⟨htransparent, fun call shop' hserve => htransparent.serve_iff hserve⟩

end Run

/-- The small shop with nothing cached. -/
def uncachedShop : CachedShop := ⟨⟨smallShop, fun _ => 0⟩, ∅⟩

/-- An empty cache is transparent. -/
theorem transparent_uncachedShop : uncachedShop.Transparent where
  product _ := Cache.View.transparent_of_none rfl
  featured := Cache.View.transparent_of_none rfl
  popular := Cache.View.transparent_of_none rfl

/-- Three more phones. -/
def restockPhones : CatalogCall := .request (.restockProduct 3 10 ⟨3, "delivery", by decide⟩) 1

/-- The page of the phone says how many pieces are available. -/
def phonesShown (shop : CachedShop) : Except ShopError Int :=
  ((getProduct "phone").answer shop.catalogue shop.redis).1.map ProductPublic.availableStock

/-- The phone is restocked before its page is shown, and archived and restocked afterwards. -/
theorem product_caches_transparent_uncachedShop : ∃ shop,
    Run CatalogCall.serve KeepsShownStock uncachedShop
      [restockPhones, .getProduct "phone", .request (.archiveProduct 3 10) 2, restockPhones] shop ∧
    phonesShown shop = .ok 16 ∧ shop.Transparent := by
  have hrun : ∃ shop, Run CatalogCall.serve KeepsShownStock uncachedShop
      [restockPhones, .getProduct "phone", .request (.archiveProduct 3 10) 2, restockPhones] shop ∧
      phonesShown shop = .ok 16 := Run.exists_of_execAll (by decide +kernel)
  obtain ⟨shop, hrun, hshown⟩ := hrun
  exact ⟨shop, hrun, hshown, (product_caches_transparent transparent_uncachedShop hrun).1⟩

/-- The page of the phone has been shown when it is restocked, and when two pieces are
    ordered: it says that ten are available, as before. -/
theorem product_caches_transparent_fails : uncachedShop.Transparent ∧
    (∃ shop, Run CatalogCall.serve anyStep uncachedShop [.getProduct "phone", restockPhones] shop ∧
      phonesShown shop = .ok 10 ∧ phonesShown ⟨shop.catalogue, ∅⟩ = .ok 13) ∧
    ∃ shop, Run CatalogCall.serve anyStep uncachedShop
      (.getProduct "phone" :: (buyTwo 1 100).map fun r => .request r 1) shop ∧
      phonesShown shop = .ok 10 ∧ phonesShown ⟨shop.catalogue, ∅⟩ = .ok 8 :=
  ⟨transparent_uncachedShop, Run.exists_of_execAll (by decide +kernel),
    Run.exists_of_execAll (by decide +kernel)⟩

end ElectronicShop
