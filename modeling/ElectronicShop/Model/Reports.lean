import ElectronicShop.Model.Api
import ElectronicShop.Model.Categories
import ElectronicShop.Model.Tickets
import ElectronicShop.Query.GroupBy
import ElectronicShop.Query.Join

/-!
# Reports

`get_dashboard_charts` and `get_admin_report` of `app/modules/reports/service.py`, over the
tables of the whole application. The session's time zone is UTC; dates are counted in days
from the epoch, without the ends of Python's calendar.
-/

namespace ElectronicShop

/-- The stored value of a status. -/
def PaymentStatus.value : PaymentStatus → String
  | .initiated => "initiated"
  | .pending => "pending"
  | .verified => "verified"
  | .failed => "failed"

/-- The stored value of a status. -/
def Tickets.TicketStatus.value : TicketStatus → String
  | .open => "open"
  | .waitingForSupport => "waiting_for_support"
  | .waitingForCustomer => "waiting_for_customer"
  | .closed => "closed"

namespace Reports

open Query Txn

/-! ## Dates -/

/-- `dt.date`. -/
abbrev Date := Int

/-- The microseconds of a day. -/
def dayLength : Int := 86400 * 10 ^ 6

/-- `dt.timedelta(days=n)`. -/
def timedelta (n : Int) : Int := n * dayLength

/-- `.date()`, and `CAST(... AS DATE)`. -/
def dateOf (t : DateTime) : Date := t / dayLength

/-- `dt.datetime.combine(date, dt.time.min, tzinfo=UTC)`. -/
def combineMin (date : Date) : DateTime := date * dayLength

/-- `dt.datetime.combine(date, dt.time.max, tzinfo=UTC)`. -/
def combineMax (date : Date) : DateTime := date * dayLength + (dayLength - 1)

/-- `.replace(hour=0, minute=0, second=0, microsecond=0)`. -/
def startOfDay (t : DateTime) : DateTime := t - t % dayLength

/-- `column.between(start, end)`. -/
def Between (start last t : DateTime) : Prop := start ≤ t ∧ t ≤ last

instance decidableBetween (start last t : DateTime) : Decidable (Between start last t) :=
  inferInstanceAs (Decidable (_ ∧ _))

inductive ReportRange where
  | today
  | days7
  | days30
  | custom
  deriving DecidableEq, Repr

/-- `ValueError`. -/
structure ValueError where
  message : String
  deriving DecidableEq, Repr

def resolveRange (range : ReportRange) (startDate endDate : Option Date) (now : DateTime) :
    Except ValueError (DateTime × DateTime) :=
  match range with
  | .today => .ok (startOfDay now, now)
  | .days7 => .ok (startOfDay now - timedelta 6, now)
  | .days30 => .ok (startOfDay now - timedelta 29, now)
  | .custom =>
    match startDate, endDate with
    | some startDate, some endDate => .ok (combineMin startDate, combineMax endDate)
    | _, _ => .error ⟨"برای بازه سفارشی، تاریخ شروع و پایان الزامی است."⟩

/-! ## Tables -/

/-- The tables that the reports read. The `created_at` of users, payments, tickets and log
    rows, which nothing else reads, stand beside their rows. -/
structure Db where
  shop : ElectronicShop.Db
  tickets : Table Tickets.Ticket.id
  auditLogs : List (Accounts.AuditLog × DateTime)
  userCreatedAt : Uuid → DateTime
  paymentCreatedAt : Uuid → DateTime
  ticketCreatedAt : Uuid → DateTime

/-- The tables that `CategoryService` works on. -/
def Db.catalogue (db : Db) : Categories.Db := ⟨db.shop.categories, db.shop.products⟩

/-- The rows of `order_items`, each with its `order_id`. -/
def Db.orderItems (db : Db) : List (Uuid × OrderItem) :=
  db.shop.orders.rows.flatMap fun o => o.items.map (Prod.mk o.id)

/-! ## Answers -/

structure DailyPoint where
  date : Date
  value : Nat
  deriving DecidableEq, Repr

structure RevenuePoint where
  date : Date
  value : Int
  deriving DecidableEq, Repr

structure DistributionSlice where
  label : String
  count : Nat
  deriving DecidableEq, Repr

structure DashboardCharts where
  ordersPerDay : List DailyPoint
  revenuePerDay : List RevenuePoint
  registrationsPerDay : List DailyPoint
  orderStatusDistribution : List DistributionSlice
  paymentStatusDistribution : List DistributionSlice
  productsByCategory : List DistributionSlice
  ticketStatusDistribution : List DistributionSlice
  deriving DecidableEq, Repr

structure SalesReport where
  orderCount : Nat
  totalRevenue : Int
  averageOrderValue : ℚ
  deriving DecidableEq

structure OrdersReport where
  byStatus : List DistributionSlice
  deriving DecidableEq, Repr

structure UsersReport where
  newRegistrations : Nat
  deriving DecidableEq, Repr

structure ProductsReport where
  totalActiveProducts : Nat
  lowStockCount : Nat
  outOfStockCount : Nat
  deriving DecidableEq, Repr

structure PaymentsReport where
  verifiedCount : Nat
  verifiedAmount : Int
  failedCount : Nat
  deriving DecidableEq, Repr

structure TicketsReport where
  byStatus : List DistributionSlice
  autoClosedCount : Nat
  deriving DecidableEq, Repr

structure CategoryPerformanceItem where
  categoryName : String
  orderItemCount : Nat
  revenue : Int
  deriving DecidableEq, Repr

structure AdminReport where
  range : ReportRange
  startDate : DateTime
  endDate : DateTime
  sales : SalesReport
  orders : OrdersReport
  users : UsersReport
  products : ProductsReport
  payments : PaymentsReport
  tickets : TicketsReport
  categoryPerformance : List CategoryPerformanceItem
  deriving DecidableEq

/-! ## The service -/

/-- `_COMPLETED_ORDER_STATUSES`. -/
def completedOrderStatuses : List OrderStatus := [.paid, .processing, .shipped, .completed]

/-- `func.coalesce(func.sum(column), 0)`. -/
def sumOf {α : Type} (column : α → Int) (rows : List α) : Int := (rows.map column).sum

/-- `_fill_daily_series`. -/
def fillDailySeries (raw : List (Date × Nat)) (days : Nat) (today : Date) : List DailyPoint :=
  let start := today - ((days : Int) - 1)
  (List.range days).map fun i : Nat => ⟨start + i, (lookup raw (start + i)).getD 0⟩

/-- `[DistributionSlice(label=row[0].value, count=row[1]) for row in rows]`. -/
def slices {κ : Type} (label : κ → String) (rows : List (κ × Nat)) : List DistributionSlice :=
  rows.map fun row => ⟨label row.1, row.2⟩

/-- `window_start`. -/
def windowStart (days : Nat) (today : Date) : DateTime := combineMin (today - ((days : Int) - 1))

def getDashboardCharts (order : RowOrder) (db : Db) (days : Nat) (now : DateTime) :
    DashboardCharts :=
  let today := dateOf now
  let ordersRows := groupBy order (fun o : Order => dateOf o.createdAt) List.length
    (db.shop.orders.rows.filter fun o => windowStart days today ≤ o.createdAt)
  let revenueRows := groupBy order (fun o : Order => dateOf o.createdAt) (sumOf Order.total)
    (db.shop.orders.rows.filter fun o =>
      windowStart days today ≤ o.createdAt ∧ o.status ∈ completedOrderStatuses)
  let start := today - ((days : Int) - 1)
  let registrationRows := groupBy order (fun u : User => dateOf (db.userCreatedAt u.id)) List.length
    (db.shop.users.rows.filter fun u => windowStart days today ≤ db.userCreatedAt u.id)
  { ordersPerDay := fillDailySeries ordersRows days today
    revenuePerDay := (List.range days).map fun i : Nat =>
      ⟨start + i, (lookup revenueRows (start + i)).getD 0⟩
    registrationsPerDay := fillDailySeries registrationRows days today
    orderStatusDistribution := slices OrderStatus.value
      (groupBy order Order.status List.length db.shop.orders.rows)
    paymentStatusDistribution := slices PaymentStatus.value
      (groupBy order Payment.status List.length db.shop.payments.rows)
    productsByCategory := slices id
      (groupBy order (fun row : Category × Product => row.1.name) List.length
        (join db.shop.categories.rows db.shop.products.rows fun c p => p.categoryId = c.id))
    ticketStatusDistribution := slices Tickets.TicketStatus.value
      (groupBy order Tickets.Ticket.status List.length db.tickets.rows) }

/-- `OrderItem` joined with `Order`. -/
def Db.itemsOfOrders (db : Db) : List ((Uuid × OrderItem) × Order) :=
  join db.orderItems db.shop.orders.rows fun row o => o.id = row.1

/-- These joined with `Product`. A row without a product id has no match. -/
def Db.itemsOfProducts (db : Db) : List (((Uuid × OrderItem) × Order) × Product) :=
  join db.itemsOfOrders db.shop.products.rows fun row p => row.1.2.productId = some p.id

/-- These joined with `Category`. -/
def Db.itemsOfCategories (db : Db) : List ((((Uuid × OrderItem) × Order) × Product) × Category) :=
  join db.itemsOfProducts db.shop.categories.rows fun row c => c.id = row.2.categoryId

/-- The rows that the query for `category_rows` groups. -/
def Db.soldItems (db : Db) (start last : DateTime) :
    List ((((Uuid × OrderItem) × Order) × Product) × Category) :=
  db.itemsOfCategories.filter fun row =>
    Between start last row.1.1.2.createdAt ∧ row.1.1.2.status ∈ completedOrderStatuses

/-- The stock that is not reserved. -/
def unreservedStock (r : ProductInventory) : Int := r.stockTotal - r.stockReserved

def getAdminReport (order : RowOrder) (db : Db) (range : ReportRange)
    (startDate endDate : Option Date) (now : DateTime) : Except ValueError AdminReport := do
  let (start, last) ← resolveRange range startDate endDate now
  let sold := db.shop.orders.rows.filter fun o =>
    Between start last o.createdAt ∧ o.status ∈ completedOrderStatuses
  let orderCount := sold.length
  let totalRevenue := sumOf Order.total sold
  let verified := db.shop.payments.rows.filter fun p =>
    (∃ t ∈ p.verifiedAt, Between start last t) ∧ p.status = .verified
  pure
    { range
      startDate := start
      endDate := last
      sales :=
        { orderCount
          totalRevenue
          averageOrderValue := if orderCount = 0 then 0 else decimal (totalRevenue / orderCount) }
      orders := ⟨slices OrderStatus.value (groupBy order Order.status List.length
        (db.shop.orders.rows.filter fun o => Between start last o.createdAt))⟩
      users := ⟨db.shop.users.rows.countP fun u => Between start last (db.userCreatedAt u.id)⟩
      products :=
        { totalActiveProducts := db.shop.products.rows.countP fun p => p.isActive
          lowStockCount := db.shop.inventory.rows.countP fun r =>
            0 < unreservedStock r ∧ unreservedStock r ≤ 5
          outOfStockCount := db.shop.inventory.rows.countP fun r => unreservedStock r ≤ 0 }
      payments :=
        { verifiedCount := verified.length
          verifiedAmount := sumOf Payment.amount verified
          failedCount := db.shop.payments.rows.countP fun p =>
            Between start last (db.paymentCreatedAt p.id) ∧ p.status = .failed }
      tickets :=
        { byStatus := slices Tickets.TicketStatus.value
            (groupBy order Tickets.Ticket.status List.length
              (db.tickets.rows.filter fun t => Between start last (db.ticketCreatedAt t.id)))
          autoClosedCount := db.auditLogs.countP fun e =>
            e.1.action = "ticket.auto_closed" ∧ Between start last e.2 }
      categoryPerformance :=
        (groupBy order (fun row => row.2.name)
          (fun rows => (rows.length, sumOf (fun row => row.1.1.1.2.subtotal) rows))
          (db.soldItems start last)).map fun row => ⟨row.1, row.2.1, row.2.2⟩ }

/-! ## Operations -/

/-- The constraints of the shop, and of the categories with the products in them. -/
structure Db.Constraints (db : Db) : Prop where
  shop : db.shop.Constraints
  catalogue : db.catalogue.Constraints

instance Db.decidableConstraints (db : Db) : Decidable db.Constraints :=
  decidable_of_iff (db.shop.Constraints ∧ db.catalogue.Constraints)
    ⟨fun h => ⟨h.1, h.2⟩, fun h => ⟨h.shop, h.catalogue⟩⟩

/-- A committed database: its constraints hold. -/
structure Store where
  db : Db
  valid : db.Constraints

/-- The part of the shop. -/
def Store.shop (store : Store) : ElectronicShop.Store := ⟨store.db.shop, store.valid.shop⟩

/-- Commit: the constraints are checked. -/
def Db.commit (db : Db) : Except ShopError Store :=
  if valid : db.Constraints then .ok ⟨db, valid⟩ else .error .database

/-- The operations of the application. -/
inductive Operation where
  | shop (request : Request)
  | category (operation : Categories.CategoryOperation)
  /-- An operation of the accounts or the tickets. Of the tables here it writes users,
      tickets and the audit log, and nothing is said about how. -/
  | elsewhere (users : Table User.id) (tickets : Table Tickets.Ticket.id)
      (auditLogs : List (Accounts.AuditLog × DateTime))

/-- An operation that no other overlaps. -/
def Operation.perform : Operation → Store → Except ShopError Store
  | .shop request, store => do
    let shop ← serve request store.shop
    { store.db with shop := shop.db }.commit
  | .category operation, store => do
    let (_, catalogue) ← Categories.engine.alone operation.program store.db.catalogue
    { store.db with shop := { store.db.shop with categories := catalogue.categories } }.commit
  | .elsewhere users tickets auditLogs, store =>
    { store.db with shop := { store.db.shop with users }, tickets, auditLogs }.commit

end Reports

end ElectronicShop
