import ElectronicShop.Model.Reading
import ElectronicShop.Execution.Requests
import ElectronicShop.Execution.Wallet

/-!
# What the readings answer

Each of the `GET` endpoints answers exactly an active user, with rows of the committed database.
-/

namespace ElectronicShop

open Txn

variable {db : Db} {subject : Uuid} {params : PageParams}

theorem bind_eq_ok {ε α β : Type} {x : Except ε α} {f : α → Except ε β} {b : β} :
    x >>= f = .ok b ↔ ∃ a, x = .ok a ∧ f a = .ok b := by
  cases x with
  | error e => simp [bind, Except.bind]
  | ok a => simp [bind, Except.bind]

theorem Db.answer_ok {α : Type} {m : Tx α} {a : α} :
    db.answer m = .ok a ↔ ∃ db', db.run m = .ok (a, db') := by
  unfold Db.answer
  cases db.run m with
  | error e => simp [Except.map]
  | ok r =>
    obtain ⟨a', db'⟩ := r
    simp [Except.map, Prod.ext_iff]

/-- The user of a request: there, and active. -/
def Db.Caller (db : Db) (subject : Uuid) (user : User) : Prop :=
  db.users.get subject = some user ∧ user.isActive = true

theorem Db.Caller.id {user : User} (h : db.Caller subject user) : user.id = subject :=
  Table.key_of_get h.1

theorem answer_bind_getCurrentUser {α : Type} {f : User → Tx α} {a : α} :
    db.answer (getCurrentUser subject >>= f) = .ok a ↔
      ∃ user, db.Caller subject user ∧ db.answer (f user) = .ok a := by
  simp only [Db.answer_ok, run_getCurrentUser_bind_ok, Db.Caller]
  constructor
  · rintro ⟨db', user, huser, hactive, hrun⟩
    exact ⟨user, ⟨huser, hactive⟩, db', hrun⟩
  · rintro ⟨user, ⟨huser, hactive⟩, db', hrun⟩
    exact ⟨db', user, huser, hactive, hrun⟩

theorem answer_pure {α : Type} {a : α} : db.answer (pure a) = .ok a := rfl

theorem answer_getCurrentUser {user : User} :
    db.answer (getCurrentUser subject) = .ok user ↔ db.Caller subject user := by
  rw [← bind_pure (getCurrentUser subject), answer_bind_getCurrentUser]
  constructor
  · rintro ⟨_, hcaller, hsame⟩
    cases hsame
    exact hcaller
  · exact fun hcaller => ⟨user, hcaller, answer_pure⟩

theorem answer_authorized {permission : Permission} {user : User} :
    db.answer (authorized subject permission) = .ok user ↔
      db.Caller subject user ∧ roleHasPermission user.role permission = true := by
  rw [← bind_pure (authorized subject permission)]
  simp only [Db.answer_ok, run_authorized_bind_ok, Db.Caller, Prog.pure_eq, Db.run_done,
    Except.ok.injEq, Prod.mk.injEq]
  constructor
  · rintro ⟨_, _, huser, hactive, hpermitted, rfl, rfl⟩
    exact ⟨⟨huser, hactive⟩, hpermitted⟩
  · rintro ⟨⟨huser, hactive⟩, hpermitted⟩
    exact ⟨db, user, huser, hactive, hpermitted, rfl, rfl⟩

/-! ## Orders -/

/-- A page of some orders. -/
def orderPage (rows : List Order) (params : PageParams) (orderBy : List Order → List Order) :
    Page OrderPublic :=
  Page.create ((((orderBy rows).drop params.offset).take params.pageSize).map serializeOrder)
    rows.length params

theorem listMyOrders_ok {orderBy : List Order → List Order} {page : Page OrderPublic} :
    listMyOrders db subject params orderBy = .ok page ↔
      (∃ user, db.Caller subject user) ∧ orderPage (db.ordersOf subject) params orderBy = page := by
  unfold listMyOrders
  rw [bind_eq_ok]
  constructor
  · rintro ⟨user, huser, hpage⟩
    have hcaller := answer_getCurrentUser.mp huser
    obtain rfl := hcaller.id
    exact ⟨⟨user, hcaller⟩, Except.ok.inj hpage⟩
  · rintro ⟨⟨user, hcaller⟩, rfl⟩
    obtain rfl := hcaller.id
    exact ⟨user, answer_getCurrentUser.mpr hcaller, rfl⟩

theorem listAllOrders_ok {orderBy : List Order → List Order} {page : Page OrderPublic} :
    listAllOrders db subject params orderBy = .ok page ↔
      (∃ user, db.Caller subject user ∧ roleHasPermission user.role .orderRead = true) ∧
        orderPage db.orders.rows params orderBy = page := by
  unfold listAllOrders
  rw [bind_eq_ok]
  constructor
  · rintro ⟨user, huser, hpage⟩
    exact ⟨⟨user, answer_authorized.mp huser⟩, Except.ok.inj hpage⟩
  · rintro ⟨⟨user, huser⟩, rfl⟩
    exact ⟨user, answer_authorized.mpr huser, rfl⟩

theorem getOrder_ok {orderId : Uuid} {shown : OrderPublic} :
    db.answer (getOrder subject orderId) = .ok shown ↔
      ∃ user order, db.Caller subject user ∧ db.orders.get orderId = some order ∧
        OrderService.Authorized order user ∧ serializeOrder order = shown := by
  unfold getOrder OrderService.getForUser
  rw [answer_bind_getCurrentUser]
  refine exists_congr fun user => ?_
  simp only [bind_assoc, pure_bind]
  simp only [Db.answer_ok, OrderService.run_getById_bind_ok,
    OrderService.run_authorizeAccess_bind_ok]
  constructor
  · rintro ⟨hcaller, _, order, hget, hauthorized, hshown⟩
    cases hshown
    exact ⟨order, hcaller, hget, hauthorized, rfl⟩
  · rintro ⟨order, hcaller, hget, hauthorized, rfl⟩
    exact ⟨hcaller, db, order, hget, hauthorized, rfl⟩

/-! ## Wallets -/

/-- The wallet of a user, who may not have one yet. -/
def Db.walletOf (db : Db) (userId : Uuid) : Wallet := (db.wallets.get userId).getD ⟨userId, 0⟩

theorem answer_getOrCreate (huser : (db.users.get subject).isSome) :
    db.answer (WalletService.getOrCreate subject) = .ok (db.walletOf subject) := by
  obtain ⟨wallet, db', hrun⟩ := WalletService.run_getOrCreate huser
  refine Db.answer_ok.mpr ⟨db', ?_⟩
  obtain ⟨hid, -, hwallet⟩ := WalletService.run_getOrCreate_ok hrun
  have hsame : db.walletOf subject = wallet := by
    rcases hwallet with hget | ⟨hget, hzero⟩
    · rw [Db.walletOf, hget]
      rfl
    · rw [Db.walletOf, hget, ← hid, ← hzero]
      rfl
  rw [hsame, hrun]

theorem getMyWallet_ok {wallet : Wallet} :
    db.answer (getMyWallet subject) = .ok wallet ↔
      (∃ user, db.Caller subject user) ∧ db.walletOf subject = wallet := by
  unfold getMyWallet
  rw [answer_bind_getCurrentUser]
  constructor
  · rintro ⟨user, hcaller, hwallet⟩
    obtain rfl := hcaller.id
    rw [answer_getOrCreate (by rw [hcaller.1]; rfl)] at hwallet
    exact ⟨⟨user, hcaller⟩, Except.ok.inj hwallet⟩
  · rintro ⟨⟨user, hcaller⟩, rfl⟩
    obtain rfl := hcaller.id
    exact ⟨user, hcaller, answer_getOrCreate (by rw [hcaller.1]; rfl)⟩

/-- A page of the ledger of a user. -/
def Db.transactionPage (db : Db) (userId : Uuid) (params : PageParams)
    (orderBy : List WalletTransaction → List WalletTransaction) : Page WalletTransactionPublic :=
  Page.create ((((orderBy (db.transactionsOf userId)).drop params.offset).take
    params.pageSize).map .modelValidate) (db.transactionsOf userId).length params

theorem Db.userId_walletOf : (db.walletOf subject).userId = subject := by
  unfold Db.walletOf
  cases hget : db.wallets.get subject with
  | none => rfl
  | some wallet => exact Table.key_of_get hget

theorem listMyWalletTransactions_ok {orderBy : List WalletTransaction → List WalletTransaction}
    {page : Page WalletTransactionPublic} :
    listMyWalletTransactions db subject params orderBy = .ok page ↔
      (∃ user, db.Caller subject user) ∧ db.transactionPage subject params orderBy = page := by
  unfold listMyWalletTransactions
  simp only [bind_eq_ok]
  constructor
  · rintro ⟨user, huser, wallet, hwallet, hpage⟩
    have hcaller := answer_getCurrentUser.mp huser
    obtain rfl := hcaller.id
    rw [answer_getOrCreate (by rw [hcaller.1]; rfl)] at hwallet
    obtain rfl := Except.ok.inj hwallet
    rw [Db.userId_walletOf] at hpage
    exact ⟨⟨user, hcaller⟩, Except.ok.inj hpage⟩
  · rintro ⟨⟨user, hcaller⟩, rfl⟩
    obtain rfl := hcaller.id
    refine ⟨user, answer_getCurrentUser.mpr hcaller, db.walletOf user.id,
      answer_getOrCreate (by rw [hcaller.1]; rfl), ?_⟩
    rw [Db.userId_walletOf]
    rfl

end ElectronicShop
