import ElectronicShop.Model.Reports
import ElectronicShop.Shop.Charges

/-!
# The reports and the dashboard agree

Three queries add up the revenue of a window: one over the orders, one day by day, and one
over the items, joined with their orders, products and categories. They agree because an
order is worth its items, an item is of a product that is still there, and a product has a
category. What is counted day by day agrees with what is counted by status, because the days
of the charts are the range of the report.
-/

namespace ElectronicShop

open Txn

namespace Reports

open Query

/-! ## Dates -/

theorem dayLength_pos : 0 < dayLength := by decide

theorem startOfDay_eq (t : DateTime) : startOfDay t = combineMin (dateOf t) :=
  sub_eq_of_eq_add (Int.ediv_mul_add_emod t dayLength).symm

theorem combineMin_le_iff {date : Date} {t : DateTime} : combineMin date ≤ t ↔ date ≤ dateOf t :=
  (Int.le_ediv_iff_mul_le dayLength_pos).symm

theorem dateOf_mono {t t' : DateTime} (h : t ≤ t') : dateOf t ≤ dateOf t' :=
  Int.ediv_le_ediv dayLength_pos h

@[simp] theorem dateOf_combineMin (date : Date) : dateOf (combineMin date) = date :=
  Int.mul_ediv_cancel date dayLength_pos.ne'

/-- The days of a window that ends today. -/
def windowDates (days : Nat) (today : Int) : List Int :=
  (List.range days).map fun i : Nat => today - ((days : Int) - 1) + i

theorem mem_windowDates {days : Nat} {today date : Int} :
    date ∈ windowDates days today ↔ today - ((days : Int) - 1) ≤ date ∧ date ≤ today := by
  unfold windowDates
  simp only [List.mem_map, List.mem_range]
  constructor
  · rintro ⟨i, hi, rfl⟩
    omega
  · rintro ⟨hfirst, hlast⟩
    exact ⟨(date - (today - ((days : Int) - 1))).toNat, by omega, by omega⟩

theorem windowDates_ascending (days : Nat) (today : Int) :
    (windowDates days today).Pairwise (· < ·) := by
  refine List.pairwise_map.mpr (List.pairwise_lt_range.imp fun {i j} hij => ?_)
  omega

theorem nodup_windowDates (days : Nat) (today : Int) : (windowDates days today).Nodup :=
  (windowDates_ascending days today).imp fun h => h.ne

/-- What lies between the start of the window and now is of one of its days. -/
theorem dateOf_mem_windowDates {days : Nat} {now t : DateTime}
    (hstart : windowStart days (dateOf now) ≤ t) (hnow : t ≤ now) :
    dateOf t ∈ windowDates days (dateOf now) :=
  mem_windowDates.mpr ⟨combineMin_le_iff.mp hstart, dateOf_mono hnow⟩

/-- The days that a range covers, if it ends now. -/
def ReportRange.days : ReportRange → Option Nat
  | .today => some 1
  | .days7 => some 7
  | .days30 => some 30
  | .custom => none

/-- The range of a report is the window of the charts over as many days. -/
theorem resolveRange_of_days {range : ReportRange} {days : Nat} (h : range.days = some days)
    (startDate endDate : Option Date) (now : DateTime) :
    resolveRange range startDate endDate now =
      .ok (windowStart days (dateOf now), now) := by
  unfold windowStart
  have hshift : ∀ n : Int, startOfDay now - timedelta n = combineMin (dateOf now - n) := by
    intro n
    rw [startOfDay_eq, combineMin, combineMin, timedelta, Int.sub_mul]
  cases range with
  | today =>
    cases h
    rw [resolveRange, startOfDay_eq]
    simp
  | days7 =>
    cases h
    rw [resolveRange, hshift]
    simp
  | days30 =>
    cases h
    rw [resolveRange, hshift]
    simp
  | custom => cases h

/-! ## What is sold -/

/-- Orders are worth their items, and these are of products that are there. -/
structure Db.Sold (db : Db) : Prop where
  itemized : ∀ o ∈ db.shop.orders.rows, o.Itemized
  ofProducts : ∀ o ∈ db.shop.orders.rows, ∀ item ∈ o.items,
    ∃ p ∈ db.shop.products.rows, item.productId = some p.id

/-- An item that `checkout` makes is of a product that is there. -/
theorem ofProducts_lines {products : Table Product.id} {cart : List CartItem}
    {items : List OrderItem} (hlines : List.Forall₂ (OrderService.IsLine products) cart items) :
    ∀ item ∈ items, ∃ p ∈ products.rows, item.productId = some p.id := by
  induction hlines with
  | nil =>
    intro item hitem
    cases hitem
  | cons hline _ ih =>
    intro item hitem
    rcases List.mem_cons.mp hitem with rfl | hrest
    · obtain ⟨product, hproduct, -, rfl⟩ := hline
      exact ⟨product, Table.mem_of_get hproduct, rfl⟩
    · exact ih item hrest

/-- The step lemma, for what the shop does. -/
theorem Db.Sold.served {db : Db} {shop' : ElectronicShop.Db} {request : Request} (h : db.Sold)
    (heffect : Effect db.shop request shop') : { db with shop := shop' }.Sold where
  itemized := heffect.billing.itemized h.itemized
  ofProducts := by
    have hold : ∀ o ∈ shop'.orders.rows, ∀ item ∈ o.items,
        ∃ p ∈ db.shop.products.rows, item.productId = some p.id := by
      refine heffect.billing.forall_orders (fun o o' hsame ho => ?_)
        (fun order cart _ _ hlines => ?_) h.ofProducts
      · rw [hsame.items]
        exact ho
      · exact ofProducts_lines hlines
    intro o ho item hitem
    obtain ⟨p, hp, hid⟩ := hold o ho item hitem
    obtain ⟨p', hp', hsame⟩ := heffect.keepsProducts p hp
    exact ⟨p', hp', hid.trans (congrArg some hsame.symm)⟩

theorem Db.commit_ok {db : Db} {store : Store} (h : db.commit = .ok store) : store.db = db := by
  unfold Db.commit at h
  split at h
  · cases h
    rfl
  · cases h

/-- The step lemma. -/
theorem Db.Sold.performed {operation : Operation} {store store' : Store} (h : store.db.Sold)
    (hperform : operation.perform store = .ok store') : store'.db.Sold := by
  cases operation with
  | shop request =>
    cases hserve : serve request store.shop with
    | error e =>
      rw [Operation.perform, hserve] at hperform
      cases hperform
    | ok shop =>
      rw [Operation.perform, hserve] at hperform
      rw [Db.commit_ok hperform]
      exact h.served (serve_effect hserve)
  | category operation =>
    cases halone : Categories.engine.alone operation.program store.db.catalogue with
    | error e =>
      rw [Operation.perform, halone] at hperform
      cases hperform
    | ok answer =>
      rw [Operation.perform, halone] at hperform
      rw [Db.commit_ok hperform]
      exact ⟨h.itemized, h.ofProducts⟩
  | elsewhere users tickets auditLogs =>
    rw [Db.commit_ok hperform]
    exact ⟨h.itemized, h.ofProducts⟩

/-! ## The join -/

section Join

variable {db : Db}

/-- An item matches the order that it is stored with. -/
theorem orderItem_matches (db : Db) : ∀ o ∈ db.shop.orders.rows,
    ∀ row ∈ o.items.map (Prod.mk o.id),
      db.shop.orders.rows.filter (fun o' => o'.id = row.1) = [o] := by
  intro o ho row hrow
  obtain ⟨item, -, rfl⟩ := List.mem_map.mp hrow
  exact filter_key db.shop.orders.nodup ho fun o' => Iff.rfl

/-- The items are paired with their own orders. -/
theorem itemsOfOrders_eq (db : Db) : db.itemsOfOrders = db.shop.orders.rows.flatMap fun o =>
    (o.items.map (Prod.mk o.id)).map fun row => (row, o) :=
  join_children (orderItem_matches db)

/-- Every item is of one product. -/
theorem map_itemsOfProducts (hsold : db.Sold) :
    db.itemsOfProducts.map Prod.fst = db.itemsOfOrders := by
  refine map_fst_join fun row hrow => ?_
  rw [itemsOfOrders_eq] at hrow
  obtain ⟨o, ho, hrow⟩ := List.mem_flatMap.mp hrow
  simp only [List.map_map, List.mem_map] at hrow
  obtain ⟨item, hitem, rfl⟩ := hrow
  obtain ⟨p, hp, hid⟩ := hsold.ofProducts o ho item hitem
  refine ⟨p, filter_key db.shop.products.nodup hp fun p' => ?_⟩
  simp only [Function.comp_apply, hid, Option.some.injEq]
  exact eq_comm

/-- Every product is of one category. -/
theorem map_itemsOfCategories (hcatalogue : db.catalogue.Constraints) :
    db.itemsOfCategories.map Prod.fst = db.itemsOfProducts := by
  refine map_fst_join fun row hrow => ?_
  obtain ⟨-, hproduct, -⟩ := mem_join.mp hrow
  obtain ⟨c, hc⟩ := Option.isSome_iff_exists.mp (hcatalogue.products row.2 hproduct)
  have hid : c.id = row.2.categoryId := Table.key_of_get hc
  exact ⟨c, filter_key db.shop.categories.nodup (Table.mem_of_get hc) fun c' => by rw [hid]⟩

/-- The revenue of the sold items is that of the orders. -/
theorem sum_soldItems (hsold : db.Sold) (hcatalogue : db.catalogue.Constraints)
    (start last : DateTime) :
    sumOf (fun row => row.1.1.1.2.subtotal) (db.soldItems start last) =
      sumOf Order.total (db.shop.orders.rows.filter fun o =>
        Between start last o.createdAt ∧ o.status ∈ completedOrderStatuses) := by
  have hworth : ∀ o ∈ db.shop.orders.rows,
      ((o.items.map (Prod.mk o.id)).map fun row => row.2.subtotal).sum = o.total := by
    intro o ho
    rw [(hsold.itemized o ho).total, List.map_map]
    rfl
  refine Eq.trans ?_ (sum_join_children (orderItem_matches db) hworth fun o =>
    Between start last o.createdAt ∧ o.status ∈ completedOrderStatuses)
  change _ = ((db.itemsOfOrders.filter _).map _).sum
  rw [← map_itemsOfProducts hsold, ← map_itemsOfCategories hcatalogue]
  simp only [List.filter_map, sumOf, List.map_map]
  rfl

end Join

/-! ## Day by day -/

/-- Nobody has signed up or ordered later than now. -/
structure Db.NotAfter (db : Db) (now : DateTime) : Prop where
  orders : ∀ o ∈ db.shop.orders.rows, o.createdAt ≤ now
  users : ∀ u ∈ db.shop.users.rows, db.userCreatedAt u.id ≤ now

instance Db.decidableNotAfter (db : Db) (now : DateTime) : Decidable (db.NotAfter now) :=
  decidable_of_iff ((∀ o ∈ db.shop.orders.rows, o.createdAt ≤ now) ∧
    ∀ u ∈ db.shop.users.rows, db.userCreatedAt u.id ≤ now)
    ⟨fun h => ⟨h.1, h.2⟩, fun h => ⟨h.orders, h.users⟩⟩

section Daily

variable {α M : Type} [AddCommMonoid M] (order : RowOrder) (days : Nat) {now : DateTime}
  {rows : List α} {stamp : α → DateTime}

/-- The days of the window add up to the rows that are not older than its start. -/
theorem sum_daily {total : List α → M} {f : α → M}
    (htotal : ∀ rows, total rows = (rows.map f).sum)
    (hstart : ∀ r ∈ rows, windowStart days (dateOf now) ≤ stamp r)
    (hnow : ∀ r ∈ rows, stamp r ≤ now) :
    ((windowDates days (dateOf now)).map fun date =>
      (lookup (groupBy order (fun r => dateOf (stamp r)) total rows) date).getD 0).sum =
        total rows := by
  rw [htotal]
  exact sum_lookup_groupBy order _ htotal (nodup_windowDates days _) fun r hr =>
    dateOf_mem_windowDates (hstart r hr) (hnow r hr)

theorem fillDailySeries_eq (raw : List (Date × Nat)) (days : Nat) (today : Date) :
    fillDailySeries raw days today =
      (windowDates days today).map fun date => ⟨date, (lookup raw date).getD 0⟩ := by
  unfold fillDailySeries windowDates
  rw [List.map_map]
  rfl

theorem length_eq_sum (rows : List α) : rows.length = (rows.map fun _ => 1).sum := by simp

/-- A series of counts adds up to the number of rows between its start and now. -/
theorem sum_fillDailySeries (hnow : ∀ r ∈ rows, stamp r ≤ now) :
    ((fillDailySeries (groupBy order (fun r => dateOf (stamp r)) List.length
        (rows.filter fun r => windowStart days (dateOf now) ≤ stamp r)) days (dateOf now)).map
      DailyPoint.value).sum =
      rows.countP fun r => Between (windowStart days (dateOf now)) now (stamp r) := by
  rw [fillDailySeries_eq, List.map_map]
  refine (sum_daily order days length_eq_sum
    (fun r hr => of_decide_eq_true (List.mem_filter.mp hr).2)
    (fun r hr => hnow r (List.mem_filter.mp hr).1)).trans ?_
  rw [← List.countP_eq_length_filter]
  refine List.countP_congr fun r hr => ?_
  simp [Between, hnow r hr]

end Daily

/-! ## The main result -/

/-- The dates are the days from the start of the report to its end, one after the other. -/
def AdminReport.CoveredBy (report : AdminReport) (dates : List Date) : Prop :=
  dates.Pairwise (· < ·) ∧
  ∀ date, date ∈ dates ↔ dateOf report.startDate ≤ date ∧ date ≤ dateOf report.endDate

/-- The charts show what the report says. -/
structure Agrees (charts : DashboardCharts) (report : AdminReport) : Prop where
  revenue : (charts.revenuePerDay.map RevenuePoint.value).sum = report.sales.totalRevenue
  categories : (charts.revenuePerDay.map RevenuePoint.value).sum =
    (report.categoryPerformance.map CategoryPerformanceItem.revenue).sum
  orders : (charts.ordersPerDay.map DailyPoint.value).sum =
    (report.orders.byStatus.map DistributionSlice.count).sum
  registrations : (charts.registrationsPerDay.map DailyPoint.value).sum =
    report.users.newRegistrations
  orderDates : report.CoveredBy (charts.ordersPerDay.map DailyPoint.date)
  revenueDates : report.CoveredBy (charts.revenuePerDay.map RevenuePoint.date)
  registrationDates : report.CoveredBy (charts.registrationsPerDay.map DailyPoint.date)

theorem date_fillDailySeries (raw : List (Date × Nat)) (days : Nat) (today : Date) :
    (fillDailySeries raw days today).map DailyPoint.date = windowDates days today := by
  rw [fillDailySeries_eq, List.map_map]
  exact List.map_id _

theorem revenuePerDay_eq (order : RowOrder) (db : Db) (days : Nat) (now : DateTime) :
    (getDashboardCharts order db days now).revenuePerDay =
      (windowDates days (dateOf now)).map fun date => ⟨date,
        (lookup (groupBy order (fun o : Order => dateOf o.createdAt) (sumOf Order.total)
          (db.shop.orders.rows.filter fun o =>
            windowStart days (dateOf now) ≤ o.createdAt ∧ o.status ∈ completedOrderStatuses))
          date).getD 0⟩ := by
  unfold getDashboardCharts windowDates
  rw [List.map_map]
  rfl

theorem date_revenuePerDay (order : RowOrder) (db : Db) (days : Nat) (now : DateTime) :
    (getDashboardCharts order db days now).revenuePerDay.map RevenuePoint.date =
      windowDates days (dateOf now) := by
  rw [revenuePerDay_eq, List.map_map]
  exact List.map_id _

/-- The revenue of the charts is that of the orders between the start of the window and now. -/
theorem sum_revenuePerDay (order : RowOrder) {db : Db} (days : Nat) {now : DateTime}
    (hnow : db.NotAfter now) :
    ((getDashboardCharts order db days now).revenuePerDay.map RevenuePoint.value).sum =
      sumOf Order.total (db.shop.orders.rows.filter fun o =>
        Between (windowStart days (dateOf now)) now o.createdAt ∧
          o.status ∈ completedOrderStatuses) := by
  have hrows : (db.shop.orders.rows.filter fun o =>
      Between (windowStart days (dateOf now)) now o.createdAt ∧
        o.status ∈ completedOrderStatuses) = db.shop.orders.rows.filter fun o =>
          windowStart days (dateOf now) ≤ o.createdAt ∧ o.status ∈ completedOrderStatuses := by
    refine List.filter_congr fun o ho => ?_
    simp [Between, hnow.orders o ho]
  rw [hrows, revenuePerDay_eq, List.map_map]
  exact sum_daily order days (fun _ => rfl)
    (fun o ho => (of_decide_eq_true (List.mem_filter.mp ho).2).1)
    (fun o ho => hnow.orders o (List.mem_filter.mp ho).1)

/-- The groups of a count add up to the number of rows. -/
theorem sum_counts {κ α : Type} [DecidableEq κ] (order : RowOrder) (key : α → κ)
    (label : κ → String) (rows : List α) :
    ((slices label (groupBy order key List.length rows)).map DistributionSlice.count).sum =
      rows.length := by
  unfold slices
  rw [List.map_map, length_eq_sum rows]
  exact sum_groupBy order key id length_eq_sum rows

/-- The revenue by category is that of the orders. -/
theorem sum_categoryRows (order : RowOrder) {db : Db} (hsold : db.Sold)
    (hcatalogue : db.catalogue.Constraints) (start last : DateTime) :
    ((groupBy order (fun row : (((Uuid × OrderItem) × Order) × Product) × Category => row.2.name)
        (fun rows => (rows.length, sumOf (fun row => row.1.1.1.2.subtotal) rows))
        (db.soldItems start last)).map fun row => row.2.2).sum =
      sumOf Order.total (db.shop.orders.rows.filter fun o =>
        Between start last o.createdAt ∧ o.status ∈ completedOrderStatuses) := by
  rw [← sum_soldItems hsold hcatalogue]
  exact sum_groupBy order _ Prod.snd (fun _ => rfl) _

/-- The days of the charts are those of a report from the start of the window until now. -/
theorem AdminReport.coveredBy_windowDates {report : AdminReport} {days : Nat} {now : DateTime}
    (hstart : report.startDate = windowStart days (dateOf now)) (hend : report.endDate = now) :
    report.CoveredBy (windowDates days (dateOf now)) := by
  refine ⟨windowDates_ascending days _, fun date => ?_⟩
  rw [mem_windowDates, hstart, hend, windowStart, dateOf_combineMin]

/-- In every state reached from one without orders, whatever the time is: a report over the
    last days and the charts over as many of them agree on the revenue, which is also that of
    the categories, on the orders and on the registrations, and each chart has one point for
    each day of the report. -/
theorem reports_agree {store₀ store : Store} {operations : List Operation}
    (h₀ : store₀.db.shop.orders.rows = [])
    (hrun : Run Operation.perform anyStep store₀ operations store) {range : ReportRange}
    {days : Nat} (hdays : range.days = some days) {now : DateTime} (hnow : store.db.NotAfter now)
    (order order' : RowOrder) (startDate endDate : Option Date) :
    ∃ report, getAdminReport order store.db range startDate endDate now = .ok report ∧
      Agrees (getDashboardCharts order' store.db days now) report := by
  have hsold : store.db.Sold := by
    refine hrun.invariant (fun s => s.db.Sold) ⟨?_, ?_⟩
      fun operation s s' h _ hperform => h.performed hperform
    · simp [h₀]
    · simp [h₀]
  have hrevenue := sum_revenuePerDay order' days hnow
  have hcategories := sum_categoryRows order hsold store.valid.catalogue
    (windowStart days (dateOf now)) now
  unfold getAdminReport
  rw [resolveRange_of_days hdays]
  refine ⟨_, rfl, hrevenue, hrevenue.trans ?_, ?_, ?_, ?_, ?_, ?_⟩
  · rw [List.map_map]
    exact hcategories.symm
  · refine (sum_fillDailySeries order' days hnow.orders).trans ?_
    rw [List.countP_eq_length_filter]
    exact (sum_counts ..).symm
  · exact sum_fillDailySeries order' days hnow.users
  · have hdates : (getDashboardCharts order' store.db days now).ordersPerDay.map DailyPoint.date =
        windowDates days (dateOf now) := date_fillDailySeries ..
    rw [hdates]
    exact AdminReport.coveredBy_windowDates rfl rfl
  · rw [date_revenuePerDay]
    exact AdminReport.coveredBy_windowDates rfl rfl
  · have hdates :
        (getDashboardCharts order' store.db days now).registrationsPerDay.map DailyPoint.date =
          windowDates days (dateOf now) := date_fillDailySeries ..
    rw [hdates]
    exact AdminReport.coveredBy_windowDates rfl rfl

/-- The small shop, without tickets, and with users of the first day. -/
def smallTables : Db where
  shop := smallShop.db
  tickets := ∅
  auditLogs := []
  userCreatedAt _ := 0
  paymentCreatedAt _ := 0
  ticketCreatedAt _ := 0

/-- Phones are bought and paid for, and their category gets a sibling and a new name. -/
def soldPhones : List Operation :=
  [.category (.create ⟨"tablets", "tablets", none, 0⟩ 21)] ++ (buyTwo 1 100).map .shop ++
    (payWith "A" "OK" true 1 100 200).map .shop ++
    [.category (.update 20 ⟨some "mobile phones", none, none⟩)]

theorem smallTables_valid : smallTables.Constraints := by decide +kernel

theorem reports_agree_smallTables : ∃ store,
    Run Operation.perform anyStep ⟨smallTables, smallTables_valid⟩ soldPhones store ∧
    store.db.shop.orders.rows.map Order.total = [10] ∧
    ∃ report, getAdminReport .stored store.db .days7 none none (3 * dayLength) = .ok report ∧
      Agrees (getDashboardCharts .stored store.db 7 (3 * dayLength)) report := by
  have hrun : ∃ store,
      Run Operation.perform anyStep ⟨smallTables, smallTables_valid⟩ soldPhones store ∧
      store.db.shop.orders.rows.map Order.total = [10] ∧ store.db.NotAfter (3 * dayLength) :=
    Run.exists_of_execAll (by decide +kernel)
  obtain ⟨store, hrun, htotal, hnow⟩ := hrun
  exact ⟨store, hrun, htotal, reports_agree rfl hrun rfl hnow .stored .stored none none⟩

end Reports

end ElectronicShop
