import ElectronicShop.Shop.Reports

/-!
# Reports day by day

A custom range is from the first microsecond of its first day to the last one of its last day,
and the clock has no time in between two days. So its figures are the sums of the figures of the
single days, and these are the points of the charts.
-/

namespace ElectronicShop

namespace Reports

open Query Txn

/-! ## Figures -/

/-- The numbers of a report that a longer range has more of. -/
inductive Figure where
  | orderCount
  | totalRevenue
  | newRegistrations
  | verifiedCount
  | verifiedAmount
  | failedCount
  | autoClosedCount
  | orders (label : String)
  | tickets (label : String)
  | categoryItems (categoryName : String)
  | categoryRevenue (categoryName : String)
  deriving DecidableEq, Repr

/-- The number of a label. -/
def countOf (slices : List DistributionSlice) (label : String) : Int :=
  ((slices.filter fun s => s.label = label).map fun s => (s.count : Int)).sum

def AdminReport.figure (report : AdminReport) : Figure → Int
  | .orderCount => report.sales.orderCount
  | .totalRevenue => report.sales.totalRevenue
  | .newRegistrations => report.users.newRegistrations
  | .verifiedCount => report.payments.verifiedCount
  | .verifiedAmount => report.payments.verifiedAmount
  | .failedCount => report.payments.failedCount
  | .autoClosedCount => report.tickets.autoClosedCount
  | .orders label => countOf report.orders.byStatus label
  | .tickets label => countOf report.tickets.byStatus label
  | .categoryItems categoryName => ((report.categoryPerformance.filter fun c =>
      c.categoryName = categoryName).map fun c => (c.orderItemCount : Int)).sum
  | .categoryRevenue categoryName => ((report.categoryPerformance.filter fun c =>
      c.categoryName = categoryName).map fun c => c.revenue).sum

/-- What a table adds to a figure: amounts with their times. -/
def entries {α : Type} (rows : List α) (q : α → Prop) [DecidablePred q] (stamp : α → DateTime)
    (amount : α → Int) : List (DateTime × Int) :=
  (rows.filter fun r => q r).map fun r => (stamp r, amount r)

/-- The verified payments that have the time of it. -/
def Db.verifiedEntries (db : Db) (amount : Payment → Int) : List (DateTime × Int) :=
  (db.shop.payments.rows.filter fun p => p.status = .verified).filterMap fun p =>
    p.verifiedAt.map fun t => (t, amount p)

/-- What the tables add to a figure. -/
def Db.entriesOf (db : Db) : Figure → List (DateTime × Int)
  | .orderCount => entries db.shop.orders.rows (fun o => o.status ∈ completedOrderStatuses)
      Order.createdAt fun _ => 1
  | .totalRevenue => entries db.shop.orders.rows (fun o => o.status ∈ completedOrderStatuses)
      Order.createdAt Order.total
  | .newRegistrations => entries db.shop.users.rows (fun _ => True)
      (fun u => db.userCreatedAt u.id) fun _ => 1
  | .verifiedCount => db.verifiedEntries fun _ => 1
  | .verifiedAmount => db.verifiedEntries Payment.amount
  | .failedCount => entries db.shop.payments.rows (fun p => p.status = .failed)
      (fun p => db.paymentCreatedAt p.id) fun _ => 1
  | .autoClosedCount => entries db.auditLogs (fun e => e.1.action = "ticket.auto_closed") Prod.snd
      fun _ => 1
  | .orders label => entries db.shop.orders.rows (fun o => o.status.value = label)
      Order.createdAt fun _ => 1
  | .tickets label => entries db.tickets.rows (fun t => t.status.value = label)
      (fun t => db.ticketCreatedAt t.id) fun _ => 1
  | .categoryItems categoryName => entries db.itemsOfCategories
      (fun row => row.1.1.2.status ∈ completedOrderStatuses ∧ row.2.name = categoryName)
      (fun row => row.1.1.2.createdAt) fun _ => 1
  | .categoryRevenue categoryName => entries db.itemsOfCategories
      (fun row => row.1.1.2.status ∈ completedOrderStatuses ∧ row.2.name = categoryName)
      (fun row => row.1.1.2.createdAt) fun row => row.1.1.1.2.subtotal

/-- The amounts within a range. -/
def total (start last : DateTime) (es : List (DateTime × Int)) : Int :=
  ((es.filter fun e => Between start last e.1).map Prod.snd).sum

/-! ## A report is a total -/

section Totals

variable {α : Type} (rows : List α) (q : α → Prop) [DecidablePred q] (stamp : α → DateTime)
  (start last : DateTime)

theorem total_entries (amount : α → Int) : total start last (entries rows q stamp amount) =
    ((rows.filter fun r => Between start last (stamp r) ∧ q r).map amount).sum := by
  unfold total entries
  rw [List.filter_map, List.map_map, List.filter_filter]
  simp only [Function.comp_def, Bool.decide_and]

theorem total_ones : total start last (entries rows q stamp fun _ => 1) =
    (rows.countP fun r => Between start last (stamp r) ∧ q r : Nat) := by
  rw [total_entries, List.countP_eq_length_filter]
  simp

theorem total_verifiedEntries (db : Db) (amount : Payment → Int) :
    total start last (db.verifiedEntries amount) =
      ((db.shop.payments.rows.filter fun p =>
        (∃ t ∈ p.verifiedAt, Between start last t) ∧ p.status = .verified).map amount).sum := by
  unfold total Db.verifiedEntries
  induction db.shop.payments.rows with
  | nil => rfl
  | cons p rest ih =>
    by_cases hstatus : p.status = .verified
    · cases ht : p.verifiedAt with
      | none => simpa [hstatus, ht] using ih
      | some t =>
        by_cases hbetween : Between start last t
        · simpa [hstatus, ht, hbetween] using ih
        · simpa [hstatus, ht, hbetween] using ih
    · simpa [hstatus] using ih

/-- The slices of a label count the rows with it. -/
theorem countOf_slices {κ : Type} [DecidableEq κ] (order : RowOrder) (key : α → κ)
    (label : κ → String) (l : String) :
    countOf (slices label (groupBy order key List.length rows)) l =
      (rows.countP fun r => label (key r) = l : Nat) := by
  have hsum : (((groupBy order key List.length rows).filter fun g => label g.1 = l).map
        fun g => (g.2 : Int)).sum =
      ((rows.filter fun r => label (key r) = l).map fun _ => (1 : Int)).sum :=
    sum_groupBy_of order key (fun n : Nat => (n : Int))
      (fun rows => by rw [List.map_const', List.sum_replicate, nsmul_one])
      (fun k => label k = l) rows
  unfold countOf slices
  rw [List.filter_map, List.map_map]
  refine hsum.trans ?_
  rw [List.countP_eq_length_filter]
  simp

end Totals

/-- The rows of a category add up to its items. -/
theorem sum_categoryRows_of (order : RowOrder) (db : Db) (start last : DateTime)
    (categoryName : String)
    (value : Nat × Int → Int)
    (amount : (((Uuid × OrderItem) × Order) × Product) × Category → Int)
    (hvalue : ∀ rows, value (rows.length, sumOf (fun row => row.1.1.1.2.subtotal) rows) =
      (rows.map amount).sum) :
    (((groupBy order (fun row : (((Uuid × OrderItem) × Order) × Product) × Category => row.2.name)
        (fun rows => (rows.length, sumOf (fun row => row.1.1.1.2.subtotal) rows))
        (db.soldItems start last)).filter fun g => g.1 = categoryName).map
          fun g => value g.2).sum =
      total start last (entries db.itemsOfCategories
        (fun row => row.1.1.2.status ∈ completedOrderStatuses ∧ row.2.name = categoryName)
        (fun row => row.1.1.2.createdAt) amount) := by
  rw [sum_groupBy_of order _ value hvalue (fun k => k = categoryName), total_entries,
    Db.soldItems, List.filter_filter]
  refine congrArg (fun rows => (rows.map amount).sum) (List.filter_congr fun row _ => ?_)
  rw [← Bool.decide_and]
  exact decide_eq_decide.mpr (and_comm.trans and_assoc)

/-- A figure of a report is the total of what the tables add to it. -/
theorem figure_eq_total {order : RowOrder} {db : Db} {range : ReportRange}
    {startDate endDate : Option Date} {now : DateTime} {report : AdminReport}
    (h : getAdminReport order db range startDate endDate now = .ok report) (figure : Figure) :
    report.figure figure = total report.startDate report.endDate (db.entriesOf figure) := by
  unfold getAdminReport at h
  cases hrange : resolveRange range startDate endDate now with
  | error e =>
    rw [hrange] at h
    cases h
  | ok window =>
    obtain ⟨start, last⟩ := window
    rw [hrange] at h
    cases h
    cases figure with
    | orderCount =>
      refine Eq.trans ?_ (total_ones ..).symm
      simp [AdminReport.figure, List.countP_eq_length_filter]
    | totalRevenue => exact (total_entries ..).symm
    | newRegistrations =>
      refine Eq.trans ?_ (total_ones ..).symm
      simp [AdminReport.figure]
    | verifiedCount =>
      refine Eq.trans ?_ (total_verifiedEntries ..).symm
      simp [AdminReport.figure]
    | verifiedAmount => exact (total_verifiedEntries ..).symm
    | failedCount => exact (total_ones ..).symm
    | autoClosedCount =>
      refine Eq.trans ?_ (total_ones ..).symm
      simp only [AdminReport.figure, and_comm]
    | orders label =>
      refine Eq.trans (countOf_slices _ order Order.status OrderStatus.value label) ?_
      refine Eq.trans ?_ (total_ones ..).symm
      rw [List.countP_filter]
      simp only [Bool.decide_and, Bool.and_comm]
    | tickets label =>
      refine Eq.trans (countOf_slices _ order Tickets.Ticket.status Tickets.TicketStatus.value
        label) ?_
      refine Eq.trans ?_ (total_ones ..).symm
      rw [List.countP_filter]
      simp only [Bool.decide_and, Bool.and_comm]
    | categoryItems categoryName =>
      refine Eq.trans ?_ (sum_categoryRows_of order db start last categoryName
        (fun g => (g.1 : Int)) (fun _ => 1) fun rows => by simp)
      simp only [AdminReport.figure, List.filter_map, List.map_map]
      rfl
    | categoryRevenue categoryName =>
      refine Eq.trans ?_ (sum_categoryRows_of order db start last categoryName Prod.snd
        (fun row => row.1.1.1.2.subtotal) fun rows => rfl)
      simp only [AdminReport.figure, List.filter_map, List.map_map]
      rfl

/-! ## Days -/

/-- The days of a custom range. -/
def datesBetween (first last : Int) : List Int :=
  (List.range (last + 1 - first).toNat).map fun i : Nat => first + i

theorem mem_datesBetween {first last date : Int} :
    date ∈ datesBetween first last ↔ first ≤ date ∧ date ≤ last := by
  unfold datesBetween
  simp only [List.mem_map, List.mem_range]
  constructor
  · rintro ⟨i, hi, rfl⟩
    omega
  · rintro ⟨hfirst, hlast⟩
    exact ⟨(date - first).toNat, by omega, by omega⟩

theorem nodup_datesBetween (first last : Int) : (datesBetween first last).Nodup := by
  refine List.Nodup.map_on (fun i _ j _ hij => ?_) List.nodup_range
  omega

theorem le_combineMax_iff {date : Int} {t : DateTime} : t ≤ combineMax date ↔ dateOf t ≤ date := by
  have hnext : combineMax date = combineMin (date + 1) - 1 := by
    unfold combineMax combineMin
    ring
  rw [hnext, Int.le_sub_one_iff, ← not_le, combineMin_le_iff]
  exact Int.not_le.trans Int.lt_add_one_iff

/-- A custom range has the times of its days, and no others. -/
theorem between_iff {first last : Int} {t : DateTime} :
    Between (combineMin first) (combineMax last) t ↔ dateOf t ∈ datesBetween first last := by
  rw [Between, combineMin_le_iff, le_combineMax_iff, mem_datesBetween]

theorem total_day (date : Int) (es : List (DateTime × Int)) :
    total (combineMin date) (combineMax date) es =
      ((group (fun e => dateOf e.1) es date).map Prod.snd).sum := by
  unfold total group
  refine congrArg (fun rows : List (DateTime × Int) => (rows.map Prod.snd).sum)
    (List.filter_congr fun e _ => ?_)
  refine decide_eq_decide.mpr (between_iff.trans ?_)
  rw [mem_datesBetween]
  exact le_antisymm_iff.symm.trans eq_comm

/-- The total of a custom range is that of its days. -/
theorem total_days (first last : Int) (es : List (DateTime × Int)) :
    total (combineMin first) (combineMax last) es =
      ((datesBetween first last).map fun date =>
        total (combineMin date) (combineMax date) es).sum := by
  simp only [total_day]
  rw [sum_group_of_mem _ _ (nodup_datesBetween first last)]
  unfold total
  exact congrArg (fun rows : List (DateTime × Int) => (rows.map Prod.snd).sum)
    (List.filter_congr fun e _ => decide_eq_decide.mpr between_iff)

theorem getAdminReport_custom (order : RowOrder) (db : Db) (first last : Int) (now : DateTime) :
    ∃ report, getAdminReport order db .custom (some first) (some last) now = .ok report ∧
      report.startDate = combineMin first ∧ report.endDate = combineMax last :=
  ⟨_, rfl, rfl, rfl⟩

/-! ## The points of the charts -/

/-- What is looked up for a day of the window is the sum over the rows of the day. -/
theorem lookup_window {α M : Type} [AddCommMonoid M] (order : RowOrder) (rows : List α)
    (q : α → Prop) [DecidablePred q] (stamp : α → DateTime) {sum : List α → M} {amount : α → M}
    (hsum : ∀ rows, sum rows = (rows.map amount).sum) {days : Nat} {today date : Int}
    (hdate : date ∈ windowDates days today) :
    (lookup (groupBy order (fun r => dateOf (stamp r)) sum
      (rows.filter fun r => windowStart days today ≤ stamp r ∧ q r)) date).getD 0 =
      ((rows.filter fun r =>
        Between (combineMin date) (combineMax date) (stamp r) ∧ q r).map amount).sum := by
  rw [getD_lookup_groupBy order _ hsum, group, List.filter_filter]
  refine congrArg (fun rows : List α => (rows.map amount).sum) (List.filter_congr fun r _ => ?_)
  rw [← Bool.decide_and]
  refine decide_eq_decide.mpr ?_
  rw [between_iff, mem_datesBetween, windowStart, combineMin_le_iff]
  have hfirst := (mem_windowDates.mp hdate).1
  constructor
  · rintro ⟨rfl, -, hq⟩
    exact ⟨⟨le_refl _, le_refl _⟩, hq⟩
  · rintro ⟨hday, hq⟩
    have heq : dateOf (stamp r) = date := le_antisymm hday.2 hday.1
    exact ⟨heq, heq ▸ hfirst, hq⟩

/-- The points of a series of counts. -/
theorem fillDailySeries_window {α : Type} (order : RowOrder) (rows : List α)
    (stamp : α → DateTime) (days : Nat) (today : Int) :
    fillDailySeries (groupBy order (fun r => dateOf (stamp r)) List.length
        (rows.filter fun r => windowStart days today ≤ stamp r)) days today =
      (windowDates days today).map fun date =>
        ⟨date, rows.countP fun r => Between (combineMin date) (combineMax date) (stamp r)⟩ := by
  rw [fillDailySeries_eq]
  refine List.map_congr_left fun date hdate => congrArg (DailyPoint.mk date) ?_
  have hwindow := lookup_window order rows (fun _ => True) stamp length_eq_sum hdate
  simp only [and_true] at hwindow
  rw [hwindow, List.countP_eq_length_filter, length_eq_sum]

theorem sum_byStatus {order : RowOrder} {db : Db} {range : ReportRange}
    {startDate endDate : Option Date} {now : DateTime} {report : AdminReport}
    (h : getAdminReport order db range startDate endDate now = .ok report) :
    (report.orders.byStatus.map DistributionSlice.count).sum =
      db.shop.orders.rows.countP fun o => Between report.startDate report.endDate o.createdAt := by
  unfold getAdminReport at h
  cases hrange : resolveRange range startDate endDate now with
  | error e =>
    rw [hrange] at h
    cases h
  | ok window =>
    rw [hrange] at h
    cases h
    refine Eq.trans ?_ List.countP_eq_length_filter.symm
    exact sum_counts order Order.status OrderStatus.value _

/-- Every figure of a custom range is the sum of those of the reports of its days, whatever
    orders the rows come in, and the points of the charts are figures of these reports. -/
theorem custom_report_adds_up (db : Db) (orders : Int → RowOrder) (nows : Int → DateTime) :
    ∃ daily : Int → AdminReport,
      (∀ date, getAdminReport (orders date) db .custom (some date) (some date) (nows date) =
        .ok (daily date)) ∧
      (∀ order first last now, ∃ report,
        getAdminReport order db .custom (some first) (some last) now = .ok report ∧
        ∀ figure, report.figure figure =
          ((datesBetween first last).map fun date => (daily date).figure figure).sum) ∧
      ∀ order days now,
        (getDashboardCharts order db days now).revenuePerDay =
          ((windowDates days (dateOf now)).map fun date =>
            ⟨date, (daily date).sales.totalRevenue⟩) ∧
        (getDashboardCharts order db days now).registrationsPerDay =
          ((windowDates days (dateOf now)).map fun date =>
            ⟨date, (daily date).users.newRegistrations⟩) ∧
        (getDashboardCharts order db days now).ordersPerDay =
          (windowDates days (dateOf now)).map fun date =>
            ⟨date, ((daily date).orders.byStatus.map DistributionSlice.count).sum⟩ := by
  choose daily hdaily hstart hend using fun date =>
    getAdminReport_custom (orders date) db date date (nows date)
  have hfigure : ∀ date figure, (daily date).figure figure =
      total (combineMin date) (combineMax date) (db.entriesOf figure) := by
    intro date figure
    rw [figure_eq_total (hdaily date), hstart, hend]
  refine ⟨daily, hdaily, fun order first last now => ?_, fun order days now => ⟨?_, ?_, ?_⟩⟩
  · obtain ⟨report, hreport, hfirst, hlast⟩ := getAdminReport_custom order db first last now
    refine ⟨report, hreport, fun figure => ?_⟩
    rw [figure_eq_total hreport, hfirst, hlast, total_days]
    simp only [hfigure]
  · rw [revenuePerDay_eq]
    refine List.map_congr_left fun date hdate => congrArg (RevenuePoint.mk date) ?_
    refine (lookup_window order _ _ Order.createdAt
      (fun rows => (rfl : sumOf Order.total rows = (rows.map Order.total).sum)) hdate).trans ?_
    exact (total_entries ..).symm.trans (hfigure date .totalRevenue).symm
  · refine (fillDailySeries_window order _ _ days (dateOf now)).trans ?_
    refine List.map_congr_left fun date hdate => congrArg (DailyPoint.mk date) ?_
    have h := hfigure date .newRegistrations
    rw [Db.entriesOf, total_ones] at h
    simp only [and_true] at h
    exact (Int.ofNat_inj.mp h).symm
  · refine (fillDailySeries_window order _ Order.createdAt days (dateOf now)).trans ?_
    refine List.map_congr_left fun date hdate => congrArg (DailyPoint.mk date) ?_
    rw [sum_byStatus (hdaily date), hstart, hend]

end Reports

end ElectronicShop
