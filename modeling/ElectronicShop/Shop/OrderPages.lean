import ElectronicShop.Book.Effect
import ElectronicShop.Execution.Reading
import ElectronicShop.Paging.Growing
import ElectronicShop.Shop.Paging

/-!
# Paging through the orders

The lists of orders are read page by page, while the shop goes on. Orders are added in between and
the old ones change their status, but none is deleted and none changes its place among the others.
So every order that there was at first is on one of the pages, some of them perhaps twice.
-/

namespace ElectronicShop

open Txn

/-! ## What stays of an order -/

/-- The columns of an order that are written once. -/
structure OrderKey where
  id : Uuid
  userId : Uuid
  createdAt : DateTime

def Order.key (o : Order) : OrderKey := ⟨o.id, o.userId, o.createdAt⟩

def OrderKey.NewestFirst (a b : OrderKey) : Prop := b.createdAt ≤ a.createdAt

instance : DecidableRel OrderKey.NewestFirst := fun a b =>
  inferInstanceAs (Decidable (b.createdAt ≤ a.createdAt))

instance : Std.Total OrderKey.NewestFirst where
  total a b := Int.le_total b.createdAt a.createdAt

/-- An event adds an order, or it leaves the keys of all orders. -/
theorem Effect.order_keys {db db' : Db} {request : Request} (h : Effect db request db') :
    ∃ added, db'.orders.rows.map Order.key = db.orders.rows.map Order.key ++ added := by
  have horders : ∀ b, db'.book = b → db'.orders = b.orders := fun _ hb => congrArg Book.orders hb
  have hsame : db'.orders = db.orders →
      ∃ added, db'.orders.rows.map Order.key = db.orders.rows.map Order.key ++ added :=
    fun heq => ⟨[], by rw [heq, List.append_nil]⟩
  have hmoved : ∀ (id : Uuid) (order : Order) newStatus now, db.orders.get id = some order →
      db'.orders = db.orders.put (order.transitioned newStatus now) →
      ∃ added, db'.orders.rows.map Order.key = db.orders.rows.map Order.key ++ added := by
    intro id order newStatus now hfound heq
    have hget : db.orders.get (order.transitioned newStatus now).id = some order := by
      rw [← Table.key_of_get hfound] at hfound
      exact hfound
    refine ⟨[], ?_⟩
    rw [heq, Table.map_put Order.key hget rfl, List.append_nil]
  cases h with
  | quiet book | listed fresh book | updated old new found stored book | archived old found book
  | restocked actorId row book | adjusted actorId row book
  | paymentInitiated order authority found payable fresh book =>
    exact hsame (horders _ book)
  | @placed subject orderId shippingAddress now _ userId items fresh lines reservable book =>
    let order := OrderService.placedOrder userId shippingAddress orderId now items
    have horder : db'.orders = db.orders.put order := horders _ book
    have hfresh : db.orders.get order.id = none := fresh
    refine ⟨[order.key], ?_⟩
    rw [horder, Table.rows_put_of_fresh hfresh, List.map_append, List.map_singleton]
  | cancelled user order found covers allowed book => exact hmoved _ _ _ _ found (horders _ book)
  | reviewed actor order found allowed notRefunded book =>
    exact hmoved _ _ _ _ found (horders _ book)
  | refunded actor order refund found allowed isRefunded type wallet amount reference book =>
    exact hmoved _ _ _ _ found (horders _ book)
  | settled payment answer paid order byAuthority wasInitiated outcome found covers allowed book =>
    exact hmoved _ _ _ _ found (horders _ book)

theorem Run.order_keys {store₀ store : Store} {requests : List Request}
    (hrun : Run serve anyStep store₀ requests store) :
    ∃ added, store.db.orders.rows.map Order.key = store₀.db.orders.rows.map Order.key ++ added := by
  induction hrun with
  | nil => exact ⟨[], (List.append_nil _).symm⟩
  | snoc before allowed committed ih =>
    obtain ⟨added, hadded⟩ := ih
    obtain ⟨new, hnew⟩ := (serve_effect committed).order_keys
    exact ⟨added ++ new, by rw [hnew, hadded, List.append_assoc]⟩

/-! ## The lists -/

/-- A list of orders: of those of the caller, or of all. -/
inductive OrderList where
  | mine
  | all
  deriving DecidableEq, Repr

namespace OrderList

/-- The orders that the list is of. -/
def rows (list : OrderList) (db : Db) (subject : Uuid) : List Order :=
  match list with
  | mine => db.ordersOf subject
  | all => db.orders.rows

/-- A page of it. -/
def read (list : OrderList) (db : Db) (subject : Uuid) (params : PageParams)
    (orderBy : List Order → List Order) : Except ShopError (Page OrderPublic) :=
  match list with
  | mine => listMyOrders db subject params orderBy
  | all => listAllOrders db subject params orderBy

theorem growing_rows (list : OrderList) (subject : Uuid) {stores : Nat → Store}
    (hruns : ∀ k, ∃ requests, Run serve anyStep (stores k) requests (stores (k + 1))) :
    Paging.Growing Order.key fun k => list.rows (stores k).db subject := by
  intro k
  obtain ⟨requests, hrun⟩ := hruns k
  obtain ⟨added, hadded⟩ := Run.order_keys hrun
  have hprefix : ((stores k).db.orders.rows.map Order.key).Sublist
      ((stores (k + 1)).db.orders.rows.map Order.key) := by
    rw [hadded]
    exact List.sublist_append_left _ _
  cases list with
  | all => exact hprefix.subperm
  | mine =>
    have hmine : ∀ db : Db, (db.ordersOf subject).map Order.key =
        (db.orders.rows.map Order.key).filter fun a => a.userId = subject := by
      intro db
      rw [List.filter_map]
      rfl
    refine List.Sublist.subperm ?_
    simp only [rows, hmine]
    exact hprefix.filter _

/-- What a page that is read consists of. -/
theorem read_ok {list : OrderList} {db : Db} {subject : Uuid} {size : PageSize} {k : Nat}
    {orderBy : List Order → List Order} {page : Page OrderPublic}
    (h : list.read db subject (size.params k) orderBy = .ok page) :
    page.items = (Paging.window size.value k (orderBy (list.rows db subject))).map serializeOrder ∧
      page.totalPages = pageCount (list.rows db subject).length size.value := by
  cases list with
  | mine =>
    obtain ⟨-, rfl⟩ := listMyOrders_ok.mp h
    exact ⟨rfl, rfl⟩
  | all =>
    obtain ⟨-, rfl⟩ := listAllOrders_ok.mp h
    exact ⟨rfl, rfl⟩

end OrderList

/-! ## Reading on -/

/-- Any requests are served between one page and the next, and the last page that is read says
    that it is the last. As long as orders of the same time are on one page, every order that was
    in the list at first is shown by one of the pages, as it is when that page is read; and a page
    shows no orders but those of the list. -/
theorem order_pages_miss_none {stores : Nat → Store} {list : OrderList} {subject : Uuid}
    {size : PageSize} {n : Nat} {orderBy : Nat → List Order → List Order}
    {page : Nat → Page OrderPublic}
    (hruns : ∀ k, ∃ requests, Run serve anyStep (stores k) requests (stores (k + 1)))
    (hsorts : ∀ k ≤ n, Paging.Sorting Order.NewestFirst (list.rows (stores k).db subject)
      (orderBy k (list.rows (stores k).db subject)))
    (hties : ∀ k ≤ n,
      Paging.Together Order.NewestFirst (list.rows (stores k).db subject) size.value)
    (hread : ∀ k ≤ n,
      list.read (stores k).db subject (size.params k) (orderBy k) = .ok (page k))
    (hlast : (page n).totalPages ≤ n + 1) :
    (∀ o ∈ list.rows (stores 0).db subject, ∃ k ≤ n, ∃ o' ∈ list.rows (stores k).db subject,
      o'.key = o.key ∧ serializeOrder o' ∈ (page k).items) ∧
    ∀ k ≤ n, ∀ shown ∈ (page k).items, ∃ o ∈ list.rows (stores k).db subject,
      serializeOrder o = shown := by
  have hitems : ∀ k ≤ n, (page k).items = (Paging.window size.value k
      (orderBy k (list.rows (stores k).db subject))).map serializeOrder := fun k hk =>
    (OrderList.read_ok (hread k hk)).1
  have hmem : ∀ k ≤ n, ∀ o ∈ Paging.window size.value k
      (orderBy k (list.rows (stores k).db subject)), o ∈ list.rows (stores k).db subject :=
    fun k hk o ho => (hsorts k hk).perm.subset (List.mem_of_mem_drop (List.mem_of_mem_take ho))
  constructor
  · intro o ho
    have hend : (list.rows (stores n).db subject).length ≤ (n + 1) * size.value := by
      rw [(OrderList.read_ok (hread n le_rfl)).2] at hlast
      exact (le_pageCount _ size).trans (Nat.mul_le_mul_right _ hlast)
    obtain ⟨k, hk, o', ho', hkey⟩ := (list.growing_rows subject hruns).exists_page
      (R := OrderKey.NewestFirst) size.positive hties hsorts hend ho
    refine ⟨k, hk, o', hmem k hk o' ho', hkey, ?_⟩
    rw [hitems k hk]
    exact List.mem_map_of_mem ho'
  · intro k hk shown hshown
    rw [hitems k hk] at hshown
    obtain ⟨o, ho, rfl⟩ := List.mem_map.mp hshown
    exact ⟨o, hmem k hk o ho, rfl⟩

instance : Std.Total Order.NewestFirst where
  total o o' := Int.le_total o'.createdAt o.createdAt

instance : IsTrans Order Order.NewestFirst where
  trans _ _ _ h h' := Int.le_trans h' h

/-- One of the ways in which the orders may be sorted. -/
def sortNewestFirst (orders : List Order) : List Order := orders.insertionSort Order.NewestFirst

theorem sorting_sortNewestFirst (orders : List Order) :
    Paging.Sorting Order.NewestFirst orders (sortNewestFirst orders) :=
  ⟨List.perm_insertionSort _ _, List.pairwise_insertionSort _ _⟩

/-- A customer orders two pieces at a time. -/
def buyTwoAt (orderId : Uuid) (now : DateTime) : List Request :=
  [.addCartItem 1 ⟨10, 2, two_pieces⟩ orderId, .checkout 1 none orderId now]

def oneOnAPage : PageSize := ⟨1, le_rfl, by decide⟩

/-- The pages of customer 1, of which the first is read before the others. -/
def pagesOfOne (s₀ s₁ : Store) (k : Nat) : Page OrderPublic :=
  orderPage ((if k = 0 then s₀ else s₁).db.ordersOf 1) (oneOnAPage.params k) sortNewestFirst

/-- What is checked of the two states. -/
def ThirdOrder (s₀ s₁ : Store) : Prop :=
  (∀ s ∈ [s₀, s₁], (s.db.users.get 1).any User.isActive = true ∧
    Paging.Together Order.NewestFirst (s.db.ordersOf 1) 1) ∧
  (pagesOfOne s₀ s₁ 2).totalPages = 3 ∧
  ((pagesOfOne s₀ s₁ 0).items ++ (pagesOfOne s₀ s₁ 1).items ++
    (pagesOfOne s₀ s₁ 2).items).map OrderPublic.id = [101, 101, 100]

instance (s₀ s₁ : Store) : Decidable (ThirdOrder s₀ s₁) := inferInstanceAs (Decidable (_ ∧ _))

/-- A third order comes after the first page is read. The second page shows the same order as the
    first one, and the third page shows the other. -/
theorem order_pages_miss_none_third : ∃ s₀ s₁ : Store,
    Run serve anyStep smallShop (buyTwoAt 100 0 ++ buyTwoAt 101 1) s₀ ∧
    Run serve anyStep s₀ (buyTwoAt 102 2) s₁ ∧
    ((pagesOfOne s₀ s₁ 0).items ++ (pagesOfOne s₀ s₁ 1).items ++
      (pagesOfOne s₀ s₁ 2).items).map OrderPublic.id = [101, 101, 100] ∧
    ∀ o ∈ s₀.db.ordersOf 1, ∃ k ≤ 2, ∃ o' ∈ (if k = 0 then s₀ else s₁).db.ordersOf 1,
      o'.key = o.key ∧ serializeOrder o' ∈ (pagesOfOne s₀ s₁ k).items := by
  have hrun : ∃ s₀, Run serve anyStep smallShop (buyTwoAt 100 0 ++ buyTwoAt 101 1) s₀ ∧
      (Run.execAll serve anyStep (buyTwoAt 102 2) s₀).any (fun s₁ => ThirdOrder s₀ s₁) = true :=
    Run.exists_of_execAll (by decide +kernel)
  obtain ⟨s₀, hrun₀, htest⟩ := hrun
  obtain ⟨s₁, hrun₁, hchecked, htotal, hids⟩ := Run.exists_of_execAll htest
  have hstate : ∀ k, (if k = 0 then s₀ else s₁) ∈ [s₀, s₁] := by
    intro k
    split <;> simp
  have hshown := @order_pages_miss_none (fun k => if k = 0 then s₀ else s₁) .mine 1 oneOnAPage 2
    (fun _ => sortNewestFirst) (pagesOfOne s₀ s₁) ?_ (fun _ _ => sorting_sortNewestFirst _)
    (fun k _ => (hchecked _ (hstate k)).2) ?_ htotal.le
  · exact ⟨s₀, s₁, hrun₀, hrun₁, hids, hshown.1⟩
  · intro k
    by_cases hk : k = 0
    · exact ⟨_, by simpa [hk] using hrun₁⟩
    · exact ⟨[], by simpa [hk] using Run.nil⟩
  · intro k _
    obtain ⟨user, huser, hactive⟩ := (Option.any_eq_true ..).mp (hchecked _ (hstate k)).1
    exact listMyOrders_ok.mpr ⟨⟨user, huser, hactive⟩, rfl⟩

end ElectronicShop
