import ElectronicShop.Book.Effect
import ElectronicShop.Execution.Sessions

/-!
# What is recorded of the orders

The order rows, their status history and the refunds of the wallet ledger. A
statement that keeps these records keeps what a session has done to them, so that
of most programs it is enough to know which statements they use.
-/

namespace ElectronicShop

open Txn

structure Records where
  orders : Table Order.id
  statusHistory : List OrderStatusHistory
  refunds : List WalletTransaction

def Db.records (db : Db) : Records where
  orders := db.orders
  statusHistory := db.statusHistory
  refunds := db.walletTransactions.filter fun t => t.type = .refund

/-- Changes to other tables. -/
def Write.keepsRecords : Write → Bool
  | .add (.order _) => false
  | .addOrderItem .. | .setOrderAmounts .. | .setOrderStatus .. | .setOrderCancelledAt .. => false
  | .addStatusHistory _ => false
  | .addWalletTransaction t => t.type ≠ .refund
  | _ => true

def Stmt.keepsRecords : Stmt → Bool
  | .insert row => (Write.add row).keepsRecords
  | .write x => x.keepsRecords
  | _ => true

theorem Write.records_apply {x : Write} (h : x.keepsRecords) (db : Db) :
    (x.apply db).records = db.records := by
  cases x with
  | add row => cases row <;> first | rfl | cases h
  | addWalletTransaction t =>
    have ht : t.type ≠ .refund := by simpa [keepsRecords] using h
    simp [Write.apply, Db.records, ht]
  | _ => first | rfl | cases h

theorem Write.keepsRecords_of_keepsBook {x : Write} (h : x.keepsBook) : x.keepsRecords := by
  cases x with
  | add row => cases row <;> first | rfl | cases h
  | addWalletTransaction t => exact h
  | _ => first | rfl | cases h

/-- A program of such statements. -/
abbrev KeepsRecords {α : Type} (m : Tx α) : Prop := m.Uses fun s : Stmt => s.keepsRecords = true

section KeepsRecords

variable {α β : Type}

theorem KeepsBook.keepsRecords {m : Tx α} (h : KeepsBook m) : KeepsRecords m := by
  refine Prog.Uses.mono h fun s hs => ?_
  cases s with
  | insert row => exact Write.keepsRecords_of_keepsBook (x := .add row) hs
  | write x => exact Write.keepsRecords_of_keepsBook hs
  | _ => rfl

/-- The tables without records. -/
abbrev unrecordedTables : List TableName :=
  [.products, .inventory, .inventoryHistory, .carts, .cartItems, .payments, .wallets]

theorem Within.keepsRecords {tables : List TableName} {m : Tx α} (hm : Within tables m)
    (h : ∀ t ∈ tables, t ∈ unrecordedTables) : KeepsRecords m := by
  refine Prog.Uses.mono (hm.mono h) fun s hs => ?_
  cases s with
  | insert row => cases row <;> first | rfl | cases hs
  | write x =>
    cases x with
    | add row => cases row <;> first | rfl | cases hs
    | _ => first | rfl | cases hs
  | _ => rfl

theorem KeepsRecords.bind {m : Tx α} {f : α → Tx β} (hm : KeepsRecords m)
    (hf : ∀ a, KeepsRecords (f a)) : KeepsRecords (m >>= f) :=
  Prog.Uses.bind hm hf

theorem keepsRecords_pure (a : α) : KeepsRecords (pure a : Tx α) := trivial

theorem keepsRecords_raise (e : ShopError) : KeepsRecords (.raise e : Tx α) := trivial

theorem keepsRecords_send {s : Stmt} (h : s.keepsRecords) : KeepsRecords (send s) :=
  ⟨h, fun _ => trivial⟩

theorem keepsRecords_orRaise (e : ShopError) (x : Option α) : KeepsRecords (orRaise e x) := by
  cases x <;> trivial

end KeepsRecords

/-- The requests that write no order, no status history and no refund. -/
def Request.KeepsOrders : Request → Prop
  | .checkout .. | .cancelOrder .. | .updateOrderStatus .. | .paymentCallback .. => False
  | _ => True

theorem keepsRecords_handler {request : Request} (h : request.KeepsOrders) :
    KeepsRecords request.handler := by
  have hstock : ∀ t ∈ stockTables, t ∈ unrecordedTables := by decide
  have hproducts : ∀ t ∈ [TableName.products], t ∈ unrecordedTables := by decide
  cases request with
  | checkout => exact h.elim
  | cancelOrder => exact h.elim
  | updateOrderStatus => exact h.elim
  | paymentCallback => exact h.elim
  | initPayment zarinpal callbackUrl subject orderId paymentId =>
    have hpayments : ∀ t ∈ [TableName.payments], t ∈ unrecordedTables := by decide
    exact (within_handler (.initPayment zarinpal callbackUrl subject orderId paymentId)).keepsRecords
      hpayments
  | restockProduct subject productId data =>
    exact (within_handler (.restockProduct subject productId data)).keepsRecords hstock
  | adjustProductInventory subject productId data =>
    exact (within_handler (.adjustProductInventory subject productId data)).keepsRecords hstock
  | createProduct subject data productId =>
    have htables : ∀ t ∈ [TableName.products, .inventory], t ∈ unrecordedTables := by decide
    exact (within_handler (.createProduct subject data productId)).keepsRecords htables
  | updateProduct subject productId data =>
    exact (within_handler (.updateProduct subject productId data)).keepsRecords hproducts
  | archiveProduct subject productId =>
    exact (within_handler (.archiveProduct subject productId)).keepsRecords hproducts
  | _ => exact KeepsBook.keepsRecords (keepsBook_handler (by trivial))

/-! ## In a session -/

namespace Session

variable {w : Session}

/-- What a session has done to the records so far. -/
def Recorded (w : Session) (f : Records → Records) : Prop :=
  ∀ db, (w.view db).records = f db.records

theorem Recorded.apply {f : Records → Records} (h : w.Recorded f) (x : Write)
    (g : Records → Records) (hx : ∀ db : Db, (x.apply db).records = g db.records) :
    (w.send x).Recorded fun r => g (f r) := by
  intro db
  rw [view_send, hx, h db]

theorem Recorded.send {f : Records → Records} (h : w.Recorded f) {x : Write}
    (hx : x.keepsRecords) : (w.send x).Recorded f := by
  intro db
  rw [view_send, Write.records_apply hx, h db]

/-- A statement that keeps the records. -/
theorem Recorded.execIn {f : Records → Records} (h : w.Recorded f) {s : Stmt}
    (hs : s.keepsRecords) (db : Db) : (s.execIn w db).2.Recorded f := by
  have hload : ∀ {w : Session}, w.Recorded f → ∀ k, (w.load db k).Recorded f := by
    intro w hw k db'
    rw [view_load, hw]
  cases s with
  | getProduct id =>
    simp only [Stmt.execIn]
    split
    · exact hload (hload h _) _
    · exact h
  | lockInventory p => exact hload h _
  | getOrder id => exact hload h _
  | getPaymentByAuthority authority =>
    simp only [Stmt.execIn]
    split
    · exact hload h _
    · exact h
  | getCart u =>
    simp only [Stmt.execIn]
    split
    · intro db'
      rw [view_loadItems, h]
    · exact h
  | getCartItem u p =>
    simp only [Stmt.execIn]
    split
    · intro db'
      rw [view_loadItem, h]
    · exact h
  | updateCartItem item quantity =>
    simp only [Stmt.execIn]
    split
    · exact h.send rfl
    · exact h
  | claimPayment id fromStatus toStatus =>
    simp only [Stmt.execIn]
    split
    · exact h.send rfl
    · exact h
  | refreshPayment id =>
    simp only [Stmt.execIn]
    split
    · exact h
    · exact h
  | lockWallet u => exact hload h _
  | insertWalletIfAbsent u =>
    simp only [Stmt.execIn]
    split
    · exact h
    · split
      · exact Recorded.send (x := .add (.wallet ⟨u, 0⟩)) h rfl
      · exact h
  | insert row =>
    simp only [Stmt.execIn]
    split
    · exact h
    · exact h.send hs
  | write x => exact h.send hs
  | _ => exact h

end Session

end ElectronicShop
