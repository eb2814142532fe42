import ElectronicShop.Model.Reports

/-!
# The dashboard

`get_dashboard_stats` of `app/modules/reports/service.py`. The `updated_at` of carts, which
nothing else reads, stands beside the tables.
-/

namespace ElectronicShop

namespace Reports

open Query Txn

structure DashboardStats where
  totalUsers : Nat
  activeUsers : Nat
  newUsersToday : Nat
  totalProducts : Nat
  lowStockProducts : Nat
  outOfStockProducts : Nat
  totalOrders : Nat
  ordersToday : Nat
  pendingOrders : Nat
  completedOrders : Nat
  cancelledOrders : Nat
  successfulPayments : Nat
  failedPayments : Nat
  totalSales : Int
  walletTransactions : Nat
  openTickets : Nat
  unansweredTickets : Nat
  closedTickets : Nat
  activeCarts : Nat
  abandonedCarts : Nat
  deriving DecidableEq, Repr

/-- `_ABANDONED_CART_AGE`. -/
def abandonedCartAge : Int := 24 * 60 * 60 * 10 ^ 6

/-- `_PENDING_ORDER_STATUSES`. -/
def pendingOrderStatuses : List OrderStatus := [.pending, .awaitingPayment]

/-- `func.count(func.distinct(column))`. -/
def countDistinct {α κ : Type} [DecidableEq κ] (column : α → κ) (rows : List α) : Nat :=
  (rows.map column).dedup.length

def getDashboardStats (db : Db) (cartUpdatedAt : Uuid → DateTime) (now : DateTime) :
    DashboardStats where
  totalUsers := db.shop.users.rows.length
  activeUsers := db.shop.users.rows.countP fun u => u.isActive
  newUsersToday := db.shop.users.rows.countP fun u => startOfDay now ≤ db.userCreatedAt u.id
  totalProducts := db.shop.products.rows.length
  lowStockProducts := db.shop.inventory.rows.countP fun r =>
    0 < unreservedStock r ∧ unreservedStock r ≤ 5
  outOfStockProducts := db.shop.inventory.rows.countP fun r => unreservedStock r ≤ 0
  totalOrders := db.shop.orders.rows.length
  ordersToday := db.shop.orders.rows.countP fun o => startOfDay now ≤ o.createdAt
  pendingOrders := db.shop.orders.rows.countP fun o => o.status ∈ pendingOrderStatuses
  completedOrders := db.shop.orders.rows.countP fun o => o.status = .completed
  cancelledOrders := db.shop.orders.rows.countP fun o => o.status = .cancelled
  successfulPayments := db.shop.payments.rows.countP fun p => p.status = .verified
  failedPayments := db.shop.payments.rows.countP fun p => p.status = .failed
  totalSales := sumOf Order.total
    (db.shop.orders.rows.filter fun o => o.status ∈ completedOrderStatuses)
  walletTransactions := db.shop.walletTransactions.length
  openTickets := db.tickets.rows.countP fun t => t.status ≠ .closed
  unansweredTickets := db.tickets.rows.countP fun t => t.status = .waitingForSupport
  closedTickets := db.tickets.rows.countP fun t => t.status = .closed
  activeCarts := countDistinct CartItem.userId db.shop.cartItems.rows
  abandonedCarts := countDistinct (fun row => row.1.userId)
    ((join db.shop.carts.rows db.shop.cartItems.rows fun cart item =>
        item.userId = cart.userId).filter fun row =>
      cartUpdatedAt row.1.userId < now - abandonedCartAge)

end Reports

end ElectronicShop
