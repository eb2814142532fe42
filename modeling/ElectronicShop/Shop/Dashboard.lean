import ElectronicShop.Model.Dashboard
import ElectronicShop.Shop.DailyReports

/-!
# The dashboard and the reports

The dashboard counts with queries of its own what the charts and the report of today count, too.
Its numbers are those of the charts and the reports, in every state that the application gets
into.
-/

namespace ElectronicShop

namespace Reports

open Query Txn

/-! ## Stock rows -/

/-- Every stock row is of a product. -/
def Stocked (db : ElectronicShop.Db) : Prop :=
  ∀ r ∈ db.inventory.rows, (db.products.get r.productId).isSome

/-- An event of the book adds no stock row but that of a new product. -/
theorem isSome_inventory_of_effect {db db' : ElectronicShop.Db} {request : Request}
    (h : Effect db request db') {p : Uuid} (hrow : (db'.inventory.get p).isSome) :
    (db.inventory.get p).isSome ∨ (db'.products.get p).isSome := by
  have hstock : ∀ {b : Book}, db'.book = b → db'.inventory = b.stock.rows :=
    fun hb => congrArg (fun b => b.stock.rows) hb
  have hmoved : ∀ entries : List InventoryHistory, db'.inventory = (db.stock.moveAll entries).rows →
      (db.inventory.get p).isSome := by
    intro entries heq
    rw [heq, Stock.isSome_get_moveAll] at hrow
    exact hrow
  cases h with
  | listed fresh book =>
    rename_i subject productId data
    rw [hstock book] at hrow
    have hproducts : db'.products = db.products.put (ProductService.created data productId) :=
      congrArg Book.products book
    by_cases hp : p = productId
    · refine Or.inr ?_
      subst hp
      rw [hproducts]
      have hget := Table.get_put_self db.products (ProductService.created data p)
      exact Option.isSome_of_eq_some hget
    · left
      rwa [Table.get_put_of_ne _ (by exact hp)] at hrow
  | quiet book | updated old new found stored book | archived old found book
  | reviewed actor order found allowed notRefunded book
  | refunded actor order refund found allowed isRefunded type wallet amount reference book
  | paymentInitiated order authority found payable fresh book =>
    exact Or.inl (hmoved [] (hstock book))
  | restocked actorId row book | adjusted actorId row book => exact Or.inl (hmoved _ (hstock book))
  | placed userId items fresh lines reservable book => exact Or.inl (hmoved _ (hstock book))
  | cancelled user order found covers allowed book => exact Or.inl (hmoved _ (hstock book))
  | settled payment answer paid order byAuthority wasInitiated outcome found covers allowed book =>
    exact Or.inl (hmoved _ (hstock book))

theorem Stocked.effect {db db' : ElectronicShop.Db} {request : Request} (h : Stocked db)
    (heffect : Effect db request db') : Stocked db' := by
  intro r hr
  have hrow : (db'.inventory.get r.productId).isSome :=
    Option.isSome_of_eq_some (Table.get_of_mem hr)
  rcases isSome_inventory_of_effect heffect hrow with hold | hnew
  · obtain ⟨old, hget⟩ := Option.isSome_iff_exists.mp hold
    have hproduct := h old (Table.mem_of_get hget)
    rw [Table.key_of_get hget] at hproduct
    obtain ⟨p, hp⟩ := Option.isSome_iff_exists.mp hproduct
    obtain ⟨p', hp', hid⟩ := heffect.keepsProducts p (Table.mem_of_get hp)
    have hget' := Table.get_of_mem hp'
    rw [hid, Table.key_of_get hp] at hget'
    exact Option.isSome_of_eq_some hget'
  · exact hnew

/-- What the reports rely on: the orders are itemized, and the stock rows are of products. -/
structure Db.Sound (db : Db) : Prop where
  sold : db.Sold
  stocked : Stocked db.shop

theorem Db.Sound.performed {operation : Operation} {store store' : Store} (h : store.db.Sound)
    (hperform : operation.perform store = .ok store') : store'.db.Sound := by
  refine ⟨h.sold.performed hperform, ?_⟩
  cases operation with
  | shop request =>
    cases hserve : serve request store.shop with
    | error e =>
      rw [Operation.perform, hserve] at hperform
      cases hperform
    | ok shop =>
      rw [Operation.perform, hserve] at hperform
      rw [Db.commit_ok hperform]
      exact h.stocked.effect (serve_effect hserve)
  | category operation =>
    cases halone : Categories.engine.alone operation.program store.db.catalogue with
    | error e =>
      rw [Operation.perform, halone] at hperform
      cases hperform
    | ok answer =>
      rw [Operation.perform, halone] at hperform
      rw [Db.commit_ok hperform]
      exact h.stocked
  | elsewhere users tickets auditLogs =>
    rw [Db.commit_ok hperform]
    exact h.stocked

/-! ## Counts -/

theorem OrderStatus.value_injective : Function.Injective OrderStatus.value := by
  intro s s' h
  cases s <;> cases s' <;> first | rfl | exact absurd h (by decide)

theorem PaymentStatus.value_injective : Function.Injective PaymentStatus.value := by
  intro s s' h
  cases s <;> cases s' <;> first | rfl | exact absurd h (by decide)

theorem TicketStatus.value_injective : Function.Injective Tickets.TicketStatus.value := by
  intro s s' h
  cases s <;> cases s' <;> first | rfl | exact absurd h (by decide)

/-- The slice of a status counts the rows in it. -/
theorem countOf_label {α κ : Type} [DecidableEq κ] (order : RowOrder) (key : α → κ)
    {label : κ → String} (hlabel : Function.Injective label) (rows : List α) (k : κ) :
    countOf (slices label (groupBy order key List.length rows)) (label k) =
      (rows.countP fun r => key r = k : Nat) := by
  rw [countOf_slices]
  simp only [hlabel.eq_iff]

/-- Rows in one of two states. -/
theorem countP_or {α : Type} (rows : List α) {p q : α → Prop} [DecidablePred p] [DecidablePred q]
    (hdisjoint : ∀ r, p r → ¬ q r) :
    (rows.countP fun r => p r ∨ q r) = rows.countP (fun r => p r) + rows.countP fun r => q r := by
  induction rows with
  | nil => rfl
  | cons r rest ih =>
    simp only [List.countP_cons, ih]
    by_cases hp : p r
    · have hq := hdisjoint r hp
      simp [hp, hq]
      omega
    · by_cases hq : q r
      · simp [hp, hq]
        omega
      · simp [hp, hq]

/-- Every product is of one category. -/
theorem length_productsByCategory {db : Db} (hcatalogue : db.catalogue.Constraints) :
    (join db.shop.categories.rows db.shop.products.rows fun c p => p.categoryId = c.id).length =
      db.shop.products.rows.length := by
  have hkeys : (db.shop.categories.rows.map Category.id).Nodup := db.shop.categories.nodup
  have hrows : ∀ p ∈ db.shop.products.rows,
      p.categoryId ∈ db.shop.categories.rows.map Category.id := by
    intro p hp
    obtain ⟨c, hc⟩ := Option.isSome_iff_exists.mp (hcatalogue.products p hp)
    exact List.mem_map.mpr ⟨c, Table.mem_of_get hc, Table.key_of_get hc⟩
  have hsum := sum_group Product.categoryId (fun _ => 1) hkeys _ hrows
  rw [length_eq_sum db.shop.products.rows, ← hsum, List.map_map]
  unfold join
  rw [List.length_flatMap]
  refine congrArg List.sum (List.map_congr_left fun c _ => ?_)
  rw [List.length_map, Function.comp_apply, ← length_eq_sum]
  rfl

theorem countDistinct_le {α β κ : Type} [DecidableEq κ] {column : α → κ} {column' : β → κ}
    {rows : List α} {rows' : List β} (h : ∀ r ∈ rows, ∃ r' ∈ rows', column' r' = column r) :
    countDistinct column rows ≤ countDistinct column' rows' := by
  refine ((List.nodup_dedup _).subperm fun k hk => ?_).length_le
  obtain ⟨r, hr, rfl⟩ := List.mem_map.mp (List.mem_dedup.mp hk)
  obtain ⟨r', hr', hsame⟩ := h r hr
  exact List.mem_dedup.mpr (hsame ▸ List.mem_map_of_mem hr')

/-! ## The numbers of the dashboard -/

/-- The numbers of the dashboard are those of the charts and of the report of today. -/
structure DashboardStats.Agrees (stats : DashboardStats) (charts : DashboardCharts)
    (today : AdminReport) : Prop where
  totalOrders : (charts.orderStatusDistribution.map DistributionSlice.count).sum = stats.totalOrders
  pendingOrders : countOf charts.orderStatusDistribution "pending" +
    countOf charts.orderStatusDistribution "awaiting_payment" = stats.pendingOrders
  completedOrders : countOf charts.orderStatusDistribution "completed" = stats.completedOrders
  cancelledOrders : countOf charts.orderStatusDistribution "cancelled" = stats.cancelledOrders
  successfulPayments :
    countOf charts.paymentStatusDistribution "verified" = stats.successfulPayments
  failedPayments : countOf charts.paymentStatusDistribution "failed" = stats.failedPayments
  tickets : (charts.ticketStatusDistribution.map DistributionSlice.count).sum =
    stats.openTickets + stats.closedTickets
  closedTickets : countOf charts.ticketStatusDistribution "closed" = stats.closedTickets
  unansweredTickets :
    countOf charts.ticketStatusDistribution "waiting_for_support" = stats.unansweredTickets
  unanswered_le : stats.unansweredTickets ≤ stats.openTickets
  totalProducts : (charts.productsByCategory.map DistributionSlice.count).sum = stats.totalProducts
  lowStock : today.products.lowStockCount = stats.lowStockProducts
  outOfStock : today.products.outOfStockCount = stats.outOfStockProducts
  stock_le : stats.lowStockProducts + stats.outOfStockProducts ≤ stats.totalProducts
  newUsers : today.users.newRegistrations = stats.newUsersToday
  ordersToday : (today.orders.byStatus.map DistributionSlice.count).sum = stats.ordersToday
  carts : stats.abandonedCarts ≤ stats.activeCarts

/-- A product is low on stock or out of it, or neither. -/
theorem stock_le_totalProducts {db : Db} (hstocked : Stocked db.shop)
    (cartUpdatedAt : Uuid → DateTime) (now : DateTime) :
    (getDashboardStats db cartUpdatedAt now).lowStockProducts +
      (getDashboardStats db cartUpdatedAt now).outOfStockProducts ≤
        (getDashboardStats db cartUpdatedAt now).totalProducts := by
  have hrows : db.shop.inventory.rows.length ≤ db.shop.products.rows.length := by
    have hkeys : db.shop.inventory.rows.map ProductInventory.productId ⊆
        db.shop.products.rows.map Product.id := by
      intro k hk
      obtain ⟨r, hr, rfl⟩ := List.mem_map.mp hk
      obtain ⟨p, hp⟩ := Option.isSome_iff_exists.mp (hstocked r hr)
      exact List.mem_map.mpr ⟨p, Table.mem_of_get hp, Table.key_of_get hp⟩
    simpa using (List.Nodup.subperm db.shop.inventory.nodup hkeys).length_le
  refine le_trans ?_ hrows
  have hor := countP_or db.shop.inventory.rows
    (p := fun r => 0 < unreservedStock r ∧ unreservedStock r ≤ 5)
    (q := fun r => unreservedStock r ≤ 0) fun r hlow hout => by omega
  unfold getDashboardStats
  rw [← hor]
  exact List.countP_le_length

theorem dashboard_agrees_of_sound {db : Db} (hsound : db.Sound)
    (hcatalogue : db.catalogue.Constraints) {now : DateTime} (hnow : db.NotAfter now)
    (order order' : RowOrder) (cartUpdatedAt : Uuid → DateTime) (days : Nat)
    (startDate endDate : Option Date) :
    ∃ today, getAdminReport order db .today startDate endDate now = .ok today ∧
      (getDashboardStats db cartUpdatedAt now).Agrees (getDashboardCharts order' db days now)
        today := by
  have horders := fun status =>
    countOf_label order' Order.status OrderStatus.value_injective db.shop.orders.rows status
  have hpayments := fun status =>
    countOf_label order' Payment.status PaymentStatus.value_injective db.shop.payments.rows status
  have htickets := fun status => countOf_label order' Tickets.Ticket.status
    TicketStatus.value_injective db.tickets.rows status
  refine ⟨_, rfl, ?_⟩
  constructor
  case totalOrders => exact sum_counts ..
  case pendingOrders =>
    have hor := countP_or db.shop.orders.rows (p := fun o => o.status = .pending)
      (q := fun o => o.status = .awaitingPayment) fun o hpending hawaiting => by
        rw [hpending] at hawaiting
        cases hawaiting
    refine (congrArg₂ (· + ·) (horders .pending) (horders .awaitingPayment)).trans ?_
    simp only [getDashboardStats, pendingOrderStatuses, List.mem_cons, List.not_mem_nil, or_false,
      hor, Nat.cast_add]
  case completedOrders => exact horders .completed
  case cancelledOrders => exact horders .cancelled
  case successfulPayments => exact hpayments .verified
  case failedPayments => exact hpayments .failed
  case tickets =>
    refine (sum_counts order' Tickets.Ticket.status Tickets.TicketStatus.value _).trans ?_
    rw [List.length_eq_countP_add_countP fun t : Tickets.Ticket => decide (t.status ≠ .closed)]
    simp [getDashboardStats]
  case closedTickets => exact htickets .closed
  case unansweredTickets => exact htickets .waitingForSupport
  case unanswered_le =>
    refine List.countP_mono_left fun t _ ht => ?_
    have hstatus : t.status = .waitingForSupport := of_decide_eq_true ht
    simp [hstatus]
  case totalProducts =>
    exact (sum_counts order' (fun row : Category × Product => row.1.name) id _).trans
      (length_productsByCategory hcatalogue)
  case lowStock => rfl
  case outOfStock => rfl
  case stock_le => exact stock_le_totalProducts hsound.stocked cartUpdatedAt now
  case newUsers =>
    refine List.countP_congr fun u hu => ?_
    simp [Between, hnow.users u hu]
  case ordersToday =>
    refine (sum_counts order Order.status OrderStatus.value _).trans ?_
    refine Eq.trans List.countP_eq_length_filter.symm (List.countP_congr fun o ho => ?_)
    simp [Between, hnow.orders o ho]
  case carts =>
    refine countDistinct_le fun row hrow => ?_
    obtain ⟨-, hitem, hcart⟩ := mem_join.mp (List.mem_filter.mp hrow).1
    exact ⟨row.2, hitem, hcart⟩

/-- The sales of the dashboard are the revenue of every report whose range has all orders, and
    what its categories add up to. -/
theorem totalSales_eq {db : Db} (hsound : db.Sound) (hcatalogue : db.catalogue.Constraints)
    {order : RowOrder} {range : ReportRange} {startDate endDate : Option Date} {now : DateTime}
    {report : AdminReport}
    (h : getAdminReport order db range startDate endDate now = .ok report)
    (hall : ∀ o ∈ db.shop.orders.rows, Between report.startDate report.endDate o.createdAt)
    (cartUpdatedAt : Uuid → DateTime) (now' : DateTime) :
    report.sales.totalRevenue = (getDashboardStats db cartUpdatedAt now').totalSales ∧
      (report.categoryPerformance.map CategoryPerformanceItem.revenue).sum =
        (getDashboardStats db cartUpdatedAt now').totalSales := by
  unfold getAdminReport at h
  cases hrange : resolveRange range startDate endDate now with
  | error e =>
    rw [hrange] at h
    cases h
  | ok window =>
    obtain ⟨start, last⟩ := window
    rw [hrange] at h
    cases h
    have hrows : (db.shop.orders.rows.filter fun o =>
        Between start last o.createdAt ∧ o.status ∈ completedOrderStatuses) =
          db.shop.orders.rows.filter fun o => o.status ∈ completedOrderStatuses :=
      List.filter_congr fun o ho => decide_eq_decide.mpr (and_iff_right (hall o ho))
    have hcategories := sum_categoryRows order hsound.sold hcatalogue start last
    rw [hrows] at hcategories
    refine ⟨congrArg (sumOf Order.total) hrows, ?_⟩
    rw [List.map_map]
    exact hcategories

/-- In every state reached, the dashboard has the numbers of the charts and of the report of
    today, and its sales are the revenue of every report that has all orders. -/
theorem dashboard_agrees {store₀ store : Store} {operations : List Operation}
    (h₀ : store₀.db.Sound) (hrun : Run Operation.perform anyStep store₀ operations store)
    {now : DateTime} (hnow : store.db.NotAfter now) (order order' : RowOrder)
    (cartUpdatedAt : Uuid → DateTime) (days : Nat) (startDate endDate : Option Date) :
    (∃ today, getAdminReport order store.db .today startDate endDate now = .ok today ∧
      (getDashboardStats store.db cartUpdatedAt now).Agrees
        (getDashboardCharts order' store.db days now) today) ∧
    ∀ range report, getAdminReport order store.db range startDate endDate now = .ok report →
      (∀ o ∈ store.db.shop.orders.rows, Between report.startDate report.endDate o.createdAt) →
      report.sales.totalRevenue = (getDashboardStats store.db cartUpdatedAt now).totalSales ∧
      (report.categoryPerformance.map CategoryPerformanceItem.revenue).sum =
        (getDashboardStats store.db cartUpdatedAt now).totalSales := by
  have hsound : store.db.Sound :=
    hrun.invariant (fun s => s.db.Sound) h₀ fun _ _ _ h _ hperform => h.performed hperform
  exact ⟨dashboard_agrees_of_sound hsound store.valid.catalogue hnow order order' cartUpdatedAt
    days startDate endDate, fun range report hreport hall =>
      totalSales_eq hsound store.valid.catalogue hreport hall cartUpdatedAt now⟩

theorem sound_smallTables : smallTables.Sound where
  sold := ⟨fun _ ho => absurd ho List.not_mem_nil, fun _ ho => absurd ho List.not_mem_nil⟩
  stocked := by
    intro r hr
    have hall : ∀ r ∈ smallShop.db.inventory.rows,
        (smallShop.db.products.get r.productId).isSome := by decide
    exact hall r hr

theorem dashboard_agrees_smallTables : ∃ store,
    Run Operation.perform anyStep ⟨smallTables, smallTables_valid⟩ soldPhones store ∧
    (getDashboardStats store.db (fun _ => 0) (3 * dayLength)).totalSales = 10 ∧
    ∃ today, getAdminReport .stored store.db .today none none (3 * dayLength) = .ok today ∧
      (getDashboardStats store.db (fun _ => 0) (3 * dayLength)).Agrees
        (getDashboardCharts .stored store.db 14 (3 * dayLength)) today := by
  have hrun : ∃ store,
      Run Operation.perform anyStep ⟨smallTables, smallTables_valid⟩ soldPhones store ∧
      (getDashboardStats store.db (fun _ => 0) (3 * dayLength)).totalSales = 10 ∧
      store.db.NotAfter (3 * dayLength) :=
    Run.exists_of_execAll (by decide +kernel)
  obtain ⟨store, hrun, hsales, hnow⟩ := hrun
  exact ⟨store, hrun, hsales, (dashboard_agrees sound_smallTables hrun hnow .stored .stored
    (fun _ => 0) 14 none none).1⟩

end Reports

end ElectronicShop
