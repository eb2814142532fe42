import ElectronicShop.Model.Search
import ElectronicShop.Shop.ProductCaches

/-!
# Paging through the products

The pages of `GET /products` are separate queries, sorted by one column. Products with equal
sort keys come in any order, and in another one when the next page is asked for: where they are
on both sides of a page boundary, one may be shown twice and another one not at all.
-/

namespace ElectronicShop

variable {locale : Locale} {a : Assortment} {q : ListQuery} {o : SortOrder}

/-! ## Sort keys -/

theorem SortColumn.le_total (locale : Locale) (a : Assortment) (c : SortColumn) (p r : Product) :
    c.le locale a p r = true ∨ c.le locale a r p = true := by
  cases c with
  | createdAt => simpa [SortColumn.le] using Int.le_total (a.createdAt p.id) (a.createdAt r.id)
  | price => simpa [SortColumn.le] using Int.le_total p.price r.price
  | name => exact locale.collate_total p.name r.name

theorem SortColumn.le_trans {c : SortColumn} {p r s : Product}
    (hpr : c.le locale a p r = true) (hrs : c.le locale a r s = true) :
    c.le locale a p s = true := by
  cases c with
  | createdAt =>
    simp only [SortColumn.le, decide_eq_true_iff] at *
    exact Int.le_trans hpr hrs
  | price =>
    simp only [SortColumn.le, decide_eq_true_iff] at *
    exact Int.le_trans hpr hrs
  | name => exact locale.collate_trans _ _ _ hpr hrs

instance sortBefore_total (locale : Locale) (a : Assortment) (o : SortOrder) :
    Std.Total (o.Before locale a) where
  total p r := by
    unfold SortOrder.Before
    cases o.sortDesc with
    | false => exact o.sortBy.le_total locale a p r
    | true => exact o.sortBy.le_total locale a r p

instance sortBefore_trans (locale : Locale) (a : Assortment) (o : SortOrder) :
    IsTrans Product (o.Before locale a) where
  trans p r s hpr hrs := by
    unfold SortOrder.Before at *
    by_cases hdesc : o.sortDesc = true
    · rw [if_pos hdesc] at *
      exact SortColumn.le_trans hrs hpr
    · rw [if_neg hdesc] at *
      exact SortColumn.le_trans hpr hrs

/-- The order in which the rows are found, as one of the orders that are allowed. -/
def SortOrder.insertion (locale : Locale) (a : Assortment) (o : SortOrder) (rows : List Product) :
    List Product := rows.insertionSort (o.Before locale a)

theorem SortOrder.insertion_sorts (locale : Locale) (a : Assortment) (o : SortOrder) :
    o.Sorts locale a (o.insertion locale a) := fun _ =>
  ⟨List.perm_insertionSort _ _, List.pairwise_insertionSort _ _⟩

/-! ## Pages -/

/-- A page size that is accepted. -/
structure PageSize where
  value : Nat
  positive : 1 ≤ value
  bounded : value ≤ 100

/-- The pages of a size, counted from 0. -/
def PageSize.params (size : PageSize) (k : Nat) : PageParams where
  page := k + 1
  pageSize := size.value
  pagePositive := Nat.le_add_left 1 k
  sizePositive := size.positive
  sizeBounded := size.bounded

theorem le_pageCount (total : Nat) (size : PageSize) :
    total ≤ pageCount total size.value * size.value := by
  unfold pageCount
  split
  · rename_i hzero
    omega
  · have hdiv := Nat.lt_div_mul_add (a := total + size.value - 1) size.positive
    omega

/-- The conditions of a query, with the bounds of the price as they are given. -/
def ProductFilters.asks (locale : Locale) (a : Assortment) (f : ProductFilters) (p : Product) :
    Bool :=
  { f with minPrice := none, maxPrice := none }.admits locale a p &&
  f.minPrice.all (fun x => x ≤ (p.price : ℚ)) &&
  f.maxPrice.all (fun x => (p.price : ℚ) ≤ x)

/-- The products that a query asks for. -/
def Assortment.matching (locale : Locale) (a : Assortment) (q : ListQuery) : List Product :=
  a.store.db.products.rows.filter (q.filters.asks locale a)

/-- Those that the database finds. -/
def Assortment.found (locale : Locale) (a : Assortment) (q : ListQuery) : List Product :=
  a.baseQuery locale q.filters

/-- The rounded bounds admit the products that are asked for. -/
def ListQuery.Exact (locale : Locale) (a : Assortment) (q : ListQuery) : Prop :=
  ∀ p ∈ a.store.db.products.rows, q.filters.admits locale a p = q.filters.asks locale a p

theorem ListQuery.exact_of_perm (h : (a.found locale q).Perm (a.matching locale q)) :
    q.Exact locale a := by
  intro p hp
  have hmem : p ∈ a.found locale q ↔ p ∈ a.matching locale q := h.mem_iff
  simp only [Assortment.found, Assortment.baseQuery, Assortment.matching, List.mem_filter, hp,
    true_and] at hmem
  exact Bool.eq_iff_iff.mpr hmem

/-- The rows of a page that a query returns. -/
def Assortment.pageRows (locale : Locale) (a : Assortment) (q : ListQuery) (size : PageSize)
    (k : Nat) (orderBy : List Product → List Product) : List Product :=
  Paging.window size.value k (orderBy (a.found locale q))

/-- A page, unless a parameter cannot be sent or a product on it cannot be shown. -/
theorem listProducts_eq (size : PageSize) (k : Nat) (orderBy : List Product → List Product) :
    listProducts locale a q (size.params k) orderBy =
      if ¬ (q.filters.Sendable ∧ fitsOffset (k * size.value)) then .error .database
      else if (a.pageRows locale q size k orderBy).all Product.isDocumented then
        .ok (Page.create
          ((a.pageRows locale q size k orderBy).map fun p => p.toPublic (a.available p.id))
          (a.found locale q).length (size.params k))
      else .error .internal := by
  have hoffset : (size.params k).offset = k * size.value := by
    simp [PageSize.params, PageParams.offset]
  unfold listProducts Assortment.search
  rw [hoffset]
  by_cases hsend : q.filters.Sendable ∧ fitsOffset (k * size.value)
  · rw [if_pos hsend, if_neg (not_not.mpr hsend)]
    change (do
      let items ← (a.pageRows locale q size k orderBy).mapM a.serialize
      pure (Page.create items (a.found locale q).length (size.params k))) = _
    rw [Catalogue.mapM_serialize]
    split <;> rfl
  · rw [if_neg hsend, if_pos hsend]
    rfl

/-- A page that is answered. -/
theorem listProducts_ok {size : PageSize} {k : Nat} {orderBy : List Product → List Product}
    {page : Page ProductPublic}
    (h : listProducts locale a q (size.params k) orderBy = .ok page) :
    (q.filters.Sendable ∧ fitsOffset (k * size.value)) ∧
      page.items =
        (a.pageRows locale q size k orderBy).map (fun p => p.toPublic (a.available p.id)) ∧
      page.totalPages = pageCount (a.found locale q).length size.value := by
  rw [listProducts_eq] at h
  split at h
  · cases h
  · rename_i hsend
    split at h
    · rw [← Except.ok.inj h]
      exact ⟨not_not.mp hsend, rfl, rfl⟩
    · cases h

/-! ## Reading all pages -/

/-- A page that is read: one that there is, or one behind it up to the page `last`. -/
def IsRead (n last k : Nat) : Prop := k < n ∨ k ≤ last

/-- What is read shows every matching product once, in order, and the pages behind are empty. -/
def ShowsAll (locale : Locale) (a : Assortment) (q : ListQuery) (size : PageSize) (last : Nat)
    (orderBy : Nat → List Product → List Product) : Prop :=
  ∃ (page : Nat → Page ProductPublic) (n : Nat) (ps : List Product),
    (∀ k, IsRead n last k →
      listProducts locale a q (size.params k) (orderBy k) = .ok (page k) ∧
        (page k).totalPages = n) ∧
    Paging.Sorting (q.order.Before locale a) (a.matching locale q) ps ∧
    ps.mapM a.serialize = .ok ((List.range n).flatMap fun k => (page k).items) ∧
    ∀ k, IsRead n last k → n ≤ k → (page k).items = []

/-- Rows with the same ids are the same rows. -/
theorem Assortment.eq_of_ids {ps rs : List Product}
    (hps : ∀ p ∈ ps, p ∈ a.store.db.products.rows) (hrs : ∀ p ∈ rs, p ∈ a.store.db.products.rows)
    (h : ps.map Product.id = rs.map Product.id) : ps = rs := by
  have hget : ∀ xs : List Product, (∀ p ∈ xs, p ∈ a.store.db.products.rows) →
      (xs.map Product.id).map a.store.db.products.get = xs.map some := by
    intro xs hxs
    rw [List.map_map]
    exact List.map_congr_left fun p hp => Txn.Table.get_of_mem (hxs p hp)
  have heq := congrArg (List.map a.store.db.products.get) h
  rw [hget ps hps, hget rs hrs] at heq
  exact (Option.some_injective _).list_map heq

/-- The products that are shown are the rows of the pages. -/
theorem ShowsAll.rows {size : PageSize} {last : Nat} {orderBy : Nat → List Product → List Product}
    (h : ShowsAll locale a q size last orderBy)
    (horder : ∀ k, (orderBy k (a.found locale q)).Perm (a.found locale q)) :
    Paging.Sorting (q.order.Before locale a) (a.matching locale q)
      (Paging.pages size.value (pageCount (a.found locale q).length size.value)
        fun k => orderBy k (a.found locale q)) ∧
    ∀ p ∈ a.matching locale q, p.isDocumented = true := by
  obtain ⟨page, n, ps, hpages, hsorting, hshown, -⟩ := h
  have hok := fun k hk => listProducts_ok (hpages k hk).1
  have hn : n = pageCount (a.found locale q).length size.value := by
    have hzero : IsRead n last 0 := Or.inr (Nat.zero_le last)
    exact (hpages 0 hzero).2.symm.trans (hok 0 hzero).2.2
  have hps : ∀ p ∈ ps, p ∈ a.store.db.products.rows := fun p hp =>
    (List.mem_filter.mp (hsorting.perm.subset hp)).1
  have hrows : ∀ p ∈ Paging.pages size.value n fun k => orderBy k (a.found locale q),
      p ∈ a.store.db.products.rows := by
    intro p hp
    obtain ⟨k, -, hk⟩ := Paging.mem_pages.mp hp
    have hmem := List.mem_of_mem_drop (List.mem_of_mem_take hk)
    exact (List.mem_filter.mp ((horder k).subset hmem)).1
  have hitems : (List.range n).flatMap (fun k => (page k).items) =
      (Paging.pages size.value n fun k => orderBy k (a.found locale q)).map
        fun p => p.toPublic (a.available p.id) := by
    unfold Paging.pages
    rw [List.map_flatMap]
    refine List.flatMap_congr fun k hk => ?_
    exact (hok k (Or.inl (List.mem_range.mp hk))).2.1
  rw [Catalogue.mapM_serialize] at hshown
  split at hshown
  · rename_i hall
    have hids := congrArg (List.map ProductPublic.id) (Except.ok.inj hshown)
    rw [hitems, List.map_map, List.map_map] at hids
    have hsame := Assortment.eq_of_ids hps hrows hids
    rw [← hn, ← hsame]
    exact ⟨hsorting, fun p hp => List.all_eq_true.mp hall p (hsorting.perm.symm.subset hp)⟩
  · cases hshown

/-- When every page is in the same order, the pages are what is found. -/
theorem ShowsAll.exact {size : PageSize} {last : Nat}
    (h : ShowsAll locale a q size last fun _ => q.order.insertion locale a) :
    q.Exact locale a ∧ ∀ p ∈ a.matching locale q, p.isDocumented = true := by
  have hinsertion := q.order.insertion_sorts locale a (a.found locale q)
  obtain ⟨hsorting, hdocumented⟩ := h.rows fun _ => hinsertion.perm
  have hlength : (q.order.insertion locale a (a.found locale q)).length ≤
      pageCount (a.found locale q).length size.value * size.value := by
    rw [hinsertion.perm.length_eq]
    exact le_pageCount _ size
  rw [Paging.pages_const hlength] at hsorting
  exact ⟨ListQuery.exact_of_perm (hinsertion.perm.symm.trans hsorting.perm), hdocumented⟩

/-- Two cables of one price, and no others. -/
def twoCables : Assortment where
  store :=
    { db := { Db.empty with
        categories := ⟨[⟨20, none, "cables", "cables", true, 0⟩], by decide⟩
        products := ⟨[⟨10, "usb-a", "USB-A", "usb-a", "", "", 5, none, "", 20, some [], some [],
            true, false, false⟩,
          ⟨11, "usb-c", "USB-C", "usb-c", "", "", 5, none, "", 20, some [], some [], true, false,
            false⟩], by decide⟩ }
      valid := by decide +kernel }
  updatedAt _ := 0
  createdAt _ := 0

end ElectronicShop
