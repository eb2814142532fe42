import ElectronicShop.Execution.Reading
import ElectronicShop.Shop.Customers

/-!
# What a customer sees

A customer sees their orders, their wallet and its ledger. What is shown depends on their account
and on what belongs to them, and on nothing else in the database: so it stays the same as long as
nobody who may do so has changed what belongs to them.
-/

namespace ElectronicShop

open Txn

/-- What a customer may ask to see. -/
inductive Reading where
  | orders (params : PageParams) (orderBy : List Order → List Order)
  | order (orderId : Uuid)
  | wallet
  | transactions (params : PageParams) (orderBy : List WalletTransaction → List WalletTransaction)

/-- What is shown. -/
inductive Shown where
  | orders (page : Page OrderPublic)
  | order (order : OrderPublic)
  | wallet (wallet : Wallet)
  | transactions (page : Page WalletTransactionPublic)
  deriving DecidableEq

/-- What the reading shows to a user, unless it is refused. -/
def Reading.shown (db : Db) (userId : Uuid) : Reading → Option Shown
  | .orders params orderBy => (listMyOrders db userId params orderBy).toOption.map .orders
  | .order orderId => (db.answer (getOrder userId orderId)).toOption.map .order
  | .wallet => (db.answer (getMyWallet userId)).toOption.map .wallet
  | .transactions params orderBy =>
    (listMyWalletTransactions db userId params orderBy).toOption.map .transactions

/-- The account of a user who is no admin. -/
def Db.IsCustomer (db : Db) (userId : Uuid) : Prop :=
  ∀ user ∈ db.users.get userId, user.role ∉ [UserRole.admin, .superAdmin]

instance (db : Db) (userId : Uuid) : Decidable (db.IsCustomer userId) :=
  inferInstanceAs (Decidable (∀ _ ∈ db.users.get userId, _))

/-! ## One state and another -/

theorem toOption_congr {ε α : Type} {x y : Except ε α} (h : ∀ a, x = .ok a ↔ y = .ok a) :
    x.toOption = y.toOption := by
  cases x with
  | ok a => rw [(h a).mp rfl]
  | error e =>
    cases y with
    | ok a => cases (h a).mpr rfl
    | error e' => rfl

section Same

variable {db db' : Db} {u : Uuid}

/-- An order that is shown to a customer is one of theirs. -/
theorem getOrder_own (hcustomer : db.IsCustomer u) {orderId : Uuid} {shown : OrderPublic} :
    db.answer (getOrder u orderId) = .ok shown ↔
      (∃ user, db.Caller u user) ∧
        ∃ order ∈ (db.customer u).orders, order.id = orderId ∧ serializeOrder order = shown := by
  rw [getOrder_ok]
  constructor
  · rintro ⟨user, order, hcaller, hget, hauthorized, rfl⟩
    have howner : order.userId = u :=
      (hauthorized.resolve_right (hcustomer user hcaller.1)).trans hcaller.id
    refine ⟨⟨user, hcaller⟩, order, ?_, Table.key_of_get hget, rfl⟩
    exact List.mem_filter.mpr ⟨Table.mem_of_get hget, decide_eq_true howner⟩
  · rintro ⟨⟨user, hcaller⟩, order, horder, rfl, rfl⟩
    obtain ⟨hmem, howner⟩ := List.mem_filter.mp horder
    have hid : order.userId = user.id := (of_decide_eq_true howner).trans hcaller.id.symm
    exact ⟨user, order, hcaller, Table.get_of_mem hmem, Or.inl hid, rfl⟩

/-- What is shown depends on the account of the customer and on what belongs to them. -/
theorem Reading.shown_congr (reading : Reading) (husers : db'.users = db.users)
    (hdata : db'.customer u = db.customer u) (hcustomer : db.IsCustomer u) :
    reading.shown db' u = reading.shown db u := by
  have hcaller : ∀ user, db'.Caller u user ↔ db.Caller u user := by
    intro user
    unfold Db.Caller
    rw [husers]
  have hcustomer' : db'.IsCustomer u := by
    unfold Db.IsCustomer
    rw [husers]
    exact hcustomer
  cases reading with
  | orders params orderBy =>
    have horders : db'.ordersOf u = db.ordersOf u := congrArg CustomerData.orders hdata
    refine congrArg (Option.map Shown.orders) (toOption_congr fun page => ?_)
    simp only [listMyOrders_ok, hcaller, horders]
  | order orderId =>
    refine congrArg (Option.map Shown.order) (toOption_congr fun shown => ?_)
    simp only [getOrder_own hcustomer, getOrder_own hcustomer', hcaller, hdata]
  | wallet =>
    have hwallet : db'.wallets.get u = db.wallets.get u := congrArg CustomerData.wallet hdata
    refine congrArg (Option.map Shown.wallet) (toOption_congr fun wallet => ?_)
    simp only [getMyWallet_ok, hcaller, Db.walletOf, hwallet]
  | transactions params orderBy =>
    have hledger : db'.transactionsOf u = db.transactionsOf u :=
      congrArg CustomerData.walletTransactions hdata
    refine congrArg (Option.map Shown.transactions) (toOption_congr fun page => ?_)
    simp only [listMyWalletTransactions_ok, hcaller, Db.transactionPage, hledger]

end Same

/-! ## Every run -/

/-- The requests of the shop change no account. -/
theorem serve_users {request : Request} {store store' : Store}
    (hserve : serve request store = .ok store') : store'.db.users = store.db.users := by
  have hnot : TableName.users ∉ request.tables := by
    cases request <;> exact of_decide_eq_false rfl
  have hsame : store.db.Same store'.db .users :=
    (within_handler request).same_run (serve_ok.mp hserve) hnot
  exact hsame

/-- When a reading shows something else to a customer after a run than it did before, some request
    of the run was entitled to change what belongs to them. -/
theorem shown_changed_by_entitled {store₀ store : Store} {requests : List Request} {u : Uuid}
    {reading : Reading} (hrun : Run serve anyStep store₀ requests store)
    (hcustomer : store₀.db.IsCustomer u)
    (hchanged : reading.shown store.db u ≠ reading.shown store₀.db u) :
    Run.Earlier serve anyStep store₀ (fun _ store request => MayChange store.db u request)
      requests := by
  refine hrun.earlier_of_ne (fun store => (store.db.users, store.db.customer u)) ?_ ?_
  · intro request store store' hserve hnot
    exact Prod.ext (serve_users hserve) (serve_customer hserve hnot)
  · intro hsame
    obtain ⟨husers, hdata⟩ := Prod.ext_iff.mp hsame
    exact hchanged (reading.shown_congr husers hdata hcustomer)

/-- Customer 1 looks for an order, then places it, and sees it. -/
theorem shown_changed_by_entitled_placed : ∃ store,
    Run serve anyStep smallShop (buyTwo 1 100) store ∧
    (Reading.order 100).shown store.db 1 ≠ (Reading.order 100).shown smallShop.db 1 ∧
    Run.Earlier serve anyStep smallShop (fun _ store request => MayChange store.db 1 request)
      (buyTwo 1 100) := by
  have hrun : ∃ store, Run serve anyStep smallShop (buyTwo 1 100) store ∧
      (Reading.order 100).shown store.db 1 ≠ (Reading.order 100).shown smallShop.db 1 :=
    Run.exists_of_execAll (by decide +kernel)
  obtain ⟨store, hrun, hchanged⟩ := hrun
  exact ⟨store, hrun, hchanged, shown_changed_by_entitled hrun (by decide) hchanged⟩

end ElectronicShop
