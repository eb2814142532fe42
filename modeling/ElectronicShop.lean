import ElectronicShop.Shop.Reservations
import ElectronicShop.Shop.Ledger
import ElectronicShop.Shop.Refunds
import ElectronicShop.Shop.Retries
import ElectronicShop.Shop.Charges
import ElectronicShop.Shop.Checkout
import ElectronicShop.Shop.WalletUpdates
import ElectronicShop.Shop.Replays
import ElectronicShop.Shop.Callbacks
import ElectronicShop.Shop.Overselling
import ElectronicShop.Shop.Transitions
import ElectronicShop.Shop.CartLines
import ElectronicShop.Shop.CategoryMoves
import ElectronicShop.Shop.CategoryCache
import ElectronicShop.Shop.StockGuards
import ElectronicShop.Shop.ProductConflicts
import ElectronicShop.Shop.ProductUpdates
import ElectronicShop.Shop.ProductCaches
import ElectronicShop.Shop.Prices
import ElectronicShop.Shop.CartQuantities
import ElectronicShop.Shop.FirstCart
import ElectronicShop.Shop.CartAdditions
import ElectronicShop.Shop.Paging
import ElectronicShop.Shop.SearchTerms
import ElectronicShop.Shop.Toman
import ElectronicShop.Shop.Reports
import ElectronicShop.Accounts.Roles
import ElectronicShop.Accounts.Lockout
import ElectronicShop.Accounts.Families
import ElectronicShop.Accounts.Google
import ElectronicShop.Accounts.PasswordChange
import ElectronicShop.Accounts.Deactivation
import ElectronicShop.Accounts.ResetLinks
import ElectronicShop.Accounts.Usernames
import ElectronicShop.Accounts.Csrf
import ElectronicShop.Tickets.Replies
import ElectronicShop.Shop.Customers
import ElectronicShop.Shop.DailyReports
import ElectronicShop.Shop.Dashboard
import ElectronicShop.Tickets.Threads
import ElectronicShop.Accounts.AuditTrail
import ElectronicShop.Accounts.GoogleStates
import ElectronicShop.Accounts.SessionLife
import ElectronicShop.Accounts.Verification
import ElectronicShop.Accounts.CsrfRoundTrip
import ElectronicShop.Tickets.Progress
import ElectronicShop.Tickets.Backlog
import ElectronicShop.Shop.Deadlocks
import ElectronicShop.Shop.OrderPages
import ElectronicShop.Shop.CustomerReads
import ElectronicShop.Accounts.BrowserSession
