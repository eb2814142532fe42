import ElectronicShop.Shop.CartQuantities

/-!
# What belongs to a customer

The rows of one user in the tables of carts, orders, payments and wallets. `MayChange` says
which requests are entitled to touch them: the user's own, those of staff whose role allows
it, and the report of the gateway on a payment that is still open. The services check this
where they load a row, so that it holds of every committed request.
-/

namespace ElectronicShop

open Txn

/-- What the shop keeps for one user. -/
structure CustomerData where
  cart : Option Cart
  items : List CartItem
  orders : List Order
  statusHistory : List OrderStatusHistory
  payments : List Payment
  wallet : Option Wallet
  walletTransactions : List WalletTransaction
  deriving DecidableEq

/-- The user an order belongs to. -/
def Db.ownerOf (db : Db) (orderId : Uuid) : Option Uuid :=
  (db.orders.get orderId).map Order.userId

/-- The status changes of a user's orders. -/
def Db.historyOf (db : Db) (userId : Uuid) : List OrderStatusHistory :=
  db.statusHistory.filter fun e => db.ownerOf e.orderId = some userId

def Db.customer (db : Db) (userId : Uuid) : CustomerData where
  cart := db.carts.get userId
  items := db.itemsOf userId
  orders := db.orders.rows.filter fun o => o.userId = userId
  statusHistory := db.historyOf userId
  payments := db.payments.rows.filter fun p => p.userId = userId
  wallet := db.wallets.get userId
  walletTransactions := db.walletTransactions.filter fun t => t.walletId = userId

/-! ## Who may change it -/

/-- The account is there and active, and `p` holds of it. -/
def Db.IsUser (db : Db) (subject : Uuid) (p : User → Prop) : Prop :=
  ∃ user ∈ db.users.get subject, user.isActive = true ∧ p user

instance (db : Db) (subject : Uuid) (p : User → Prop) [DecidablePred p] :
    Decidable (db.IsUser subject p) :=
  inferInstanceAs (Decidable (∃ user ∈ db.users.get subject, _))

/-- The requests that are entitled to change what belongs to a user. -/
def MayChange (db : Db) (userId : Uuid) : Request → Prop
  | .addCartItem subject _ _ | .updateCartItem subject _ _ | .removeCartItem subject _
  | .clearCart subject | .checkout subject _ _ _ | .getMyWallet subject
  | .depositToWallet subject _ => subject = userId ∧ db.IsUser subject fun _ => True
  | .initPayment _ _ subject orderId _ =>
    subject = userId ∧ db.ownerOf orderId = some userId ∧ db.IsUser subject fun _ => True
  | .cancelOrder subject orderId _ =>
    db.ownerOf orderId = some userId ∧
      db.IsUser subject fun user => user.id = userId ∨ user.role ∈ [UserRole.admin, .superAdmin]
  | .updateOrderStatus subject orderId _ _ =>
    db.ownerOf orderId = some userId ∧
      db.IsUser subject fun user => roleHasPermission user.role .orderManage = true
  | .adminGetWallet subject target | .adminCreditWallet subject target _
  | .adminDebitWallet subject target _ =>
    target = userId ∧
      db.IsUser subject fun user => roleHasPermission user.role .walletManage = true
  | .paymentCallback _ authority _ _ =>
    ∃ p ∈ db.paymentBy authority, p.status = .initiated ∧
      (p.userId = userId ∨ db.ownerOf p.orderId = some userId)
  | .restockProduct .. | .adjustProductInventory .. | .createProduct .. | .updateProduct ..
  | .archiveProduct .. => False

instance (db : Db) (userId : Uuid) (request : Request) :
    Decidable (MayChange db userId request) := by
  unfold MayChange
  rcases request <;> infer_instance

/-! ## Rows of somebody else -/

section Frame

variable {db db' : Db} {u : Uuid}

/-- The orders keep their owners, and nothing is logged about those of this user. -/
theorem Db.historyOf_eq {entries : List OrderStatusHistory}
    (hhistory : db'.statusHistory = db.statusHistory ++ entries)
    (howner : ∀ orderId, db'.ownerOf orderId = some u ↔ db.ownerOf orderId = some u)
    (hother : ∀ e ∈ entries, db'.ownerOf e.orderId ≠ some u) :
    db'.historyOf u = db.historyOf u := by
  have hnone : entries.filter (fun e => db'.ownerOf e.orderId = some u) = [] :=
    List.filter_eq_nil_iff.mpr fun e he => by simpa using hother e he
  unfold historyOf
  rw [hhistory, List.filter_append, hnone, List.append_nil]
  exact List.filter_congr fun e _ => decide_eq_decide.mpr (howner e.orderId)

/-- The tables of a customer, except those of carts. -/
abbrev customerTables : List TableName :=
  [.orders, .statusHistory, .payments, .wallets, .walletTransactions]

theorem Db.customer_of_same (hsame : ∀ t ∈ customerTables, db.Same db' t)
    (hcarts : db'.carts.get u = db.carts.get u) (hitems : db'.itemsOf u = db.itemsOf u) :
    db'.customer u = db.customer u := by
  have horders : db'.orders = db.orders := hsame .orders (by decide)
  have hlog : db'.statusHistory = db.statusHistory := hsame .statusHistory (by decide)
  have hpayments : db'.payments = db.payments := hsame .payments (by decide)
  have hwallets : db'.wallets = db.wallets := hsame .wallets (by decide)
  have htransactions : db'.walletTransactions = db.walletTransactions :=
    hsame .walletTransactions (by decide)
  have hhistory : db'.historyOf u = db.historyOf u := by
    refine historyOf_eq (by simpa using hlog : _ = _ ++ []) (fun orderId => ?_) (by simp)
    rw [ownerOf, ownerOf, horders]
  simp only [Db.customer, hcarts, hitems, horders, hhistory, hpayments, hwallets, htransactions]

/-- Storing another user's order makes and loses no order of this one. -/
theorem Db.ownerOf_put {order : Order} (hrow : order.userId ≠ u)
    (hold : ∀ old, db.orders.get order.id = some old → old.userId ≠ u)
    (horders : db'.orders = db.orders.put order) (orderId : Uuid) :
    db'.ownerOf orderId = some u ↔ db.ownerOf orderId = some u := by
  unfold Db.ownerOf
  rw [horders, Table.get_put]
  split
  · rename_i heq
    subst heq
    simp only [Option.map_some, Option.some.injEq, hrow, Option.map_eq_some_iff, false_iff]
    rintro ⟨old, hget, howner⟩
    exact hold old hget howner
  · rfl

/-- An order of somebody else is stored and its change is logged. -/
theorem Db.customer_order (order : Order) (entry : OrderStatusHistory) (hrow : order.userId ≠ u)
    (hold : ∀ old, db.orders.get order.id = some old → old.userId ≠ u)
    (hentry : entry.orderId = order.id) :
    Db.customer { db with
      orders := db.orders.put order, statusHistory := db.statusHistory ++ [entry] } u =
    db.customer u := by
  let db' : Db :=
    { db with orders := db.orders.put order, statusHistory := db.statusHistory ++ [entry] }
  have hown : ∀ orderId, db'.ownerOf orderId = some u ↔ db.ownerOf orderId = some u :=
    ownerOf_put hrow hold rfl
  have horders : (db.orders.put order).rows.filter (fun o => o.userId = u) =
      db.orders.rows.filter fun o => o.userId = u := by
    refine Table.filter_put_of_not (decide_eq_false hrow) fun old hget => ?_
    exact decide_eq_false (hold old hget)
  have hhistory := historyOf_eq rfl hown fun e he => by
    rw [List.mem_singleton.mp he, hentry, ownerOf, Table.get_put_self]
    simpa using hrow
  exact congrArg₂ (fun orders statusHistory => { db.customer u with orders, statusHistory })
    horders hhistory

theorem Db.customer_transitioned {order : Order} {newStatus : OrderStatus} {actorId : Option Uuid}
    {note : Option String} {now : DateTime} (hget : db.orders.get order.id = some order)
    (hne : order.userId ≠ u) :
    (db.transitioned order newStatus actorId note now).customer u = db.customer u := by
  refine customer_order (order.transitioned newStatus now) _ hne ?_ rfl
  intro old hold
  cases hget.symm.trans hold
  exact hne

theorem Db.customer_withStock (stock : Stock) : (db.withStock stock).customer u = db.customer u :=
  rfl

theorem Db.customer_payment {payment : Payment} (hrow : payment.userId ≠ u)
    (hold : ∀ old, db.payments.get payment.id = some old → old.userId ≠ u) :
    Db.customer { db with payments := db.payments.put payment } u = db.customer u := by
  have hpayments : (db.payments.put payment).rows.filter (fun p => p.userId = u) =
      db.payments.rows.filter fun p => p.userId = u := by
    refine Table.filter_put_of_not (decide_eq_false hrow) fun old hget => ?_
    exact decide_eq_false (hold old hget)
  simp only [Db.customer, hpayments]
  rfl

theorem Db.customer_wallet (wallet : Wallet) (hne : wallet.userId ≠ u) :
    Db.customer { db with wallets := db.wallets.put wallet } u = db.customer u := by
  simp only [Db.customer, Table.get_put_of_ne _ hne.symm]
  rfl

/-- An operation on somebody else's wallet. -/
theorem Db.customer_apply {userId : Uuid} {type : WalletTransactionType} {amount : ℚ}
    {referenceType : Option String} {referenceId : Option Uuid} {note : Option String}
    {actorId : Option Uuid} {t : WalletTransaction} (hne : userId ≠ u)
    (h : db.run (WalletService.apply userId type amount referenceType referenceId note actorId) =
      .ok (t, db')) : db'.customer u = db.customer u := by
  obtain ⟨-, ht, rfl⟩ := WalletService.run_apply_ok h
  have hwallet : t.walletId ≠ u := by
    rw [ht]
    exact hne
  have htransactions : (db.walletTransactions ++ [t]).filter (fun t => t.walletId = u) =
      db.walletTransactions.filter fun t => t.walletId = u := by
    simp [hwallet]
  refine Eq.trans ?_ (customer_wallet ⟨userId, t.balanceAfter⟩ hne)
  simp only [Db.customer, htransactions]
  rfl

theorem Db.customer_placed {order : Order} (hne : order.userId ≠ u)
    (hfresh : db.orders.get order.id = none) : (db.placed order).customer u = db.customer u := by
  let stock := db.stock.moveAll (stockEntries order.id (some order.userId) order.items .reserve)
  let entry : OrderStatusHistory :=
    ⟨order.id, some .pending, .awaitingPayment, some order.userId, none, order.createdAt⟩
  let db₁ := (db.withStock stock)
  let db₂ : Db :=
    { db₁ with orders := db.orders.put order, statusHistory := db.statusHistory ++ [entry] }
  have horder : db₂.customer u = db₁.customer u := by
    have hold : ∀ old, db₁.orders.get order.id = some old → old.userId ≠ u := by
      intro old hget
      cases hfresh.symm.trans hget
    exact customer_order order entry hne hold rfl
  have hcart : (db₂.clearCart order.userId).customer u = db₂.customer u := by
    refine customer_of_same (fun t ht => ?_) rfl (itemsOf_clearCart_of_ne _ hne.symm)
    cases t <;> first | exact Eq.refl _ | exact absurd ht (by decide)
  exact hcart.trans (horder.trans (customer_withStock stock))

end Frame

/-! ## Carts of somebody else -/

/-- The statement opens no cart but that of `userId`. -/
def Stmt.opensOnly (userId : Uuid) : Stmt → Bool
  | .insert (.cart row) => row.userId = userId
  | .write (.add (.cart row)) => row.userId = userId
  | _ => true

/-- A program of such statements. -/
abbrev OpensOnly {α : Type} (userId : Uuid) (m : Tx α) : Prop :=
  m.Uses fun s : Stmt => s.opensOnly userId = true

theorem Stmt.carts_exec {s : Stmt} {userId u : Uuid} (h : s.opensOnly userId) (hne : u ≠ userId)
    (db : Db) : (s.exec db).2.carts.get u = db.carts.get u := by
  have hsame : s.table ≠ some .carts → (s.exec db).2.carts.get u = db.carts.get u := by
    intro htable
    have hcarts : (s.exec db).2.carts = db.carts := Stmt.same_exec (t := .carts) htable db
    rw [hcarts]
  have hput : ∀ row : Cart, decide (row.userId = userId) = true →
      (db.carts.put row).get u = db.carts.get u := by
    intro row hrow
    refine Table.get_put_of_ne _ fun heq => hne ?_
    exact heq.trans (of_decide_eq_true hrow)
  cases s with
  | insert row =>
    cases row with
    | cart row =>
      simp only [Stmt.exec]
      split
      · rfl
      · exact hput row h
    | _ => exact hsame (by simp [Stmt.table, NewRow.table])
  | write w =>
    cases w with
    | add row =>
      cases row with
      | cart row => exact hput row h
      | _ => exact hsame (by simp [Stmt.table, Write.table, NewRow.table])
    | _ => exact hsame (by simp [Stmt.table, Write.table])
  | _ => exact hsame (by simp [Stmt.table])

section OpensOnly

variable {α β : Type} {userId : Uuid}

theorem OpensOnly.carts_run {m : Tx α} (hm : OpensOnly userId m) {db db' : Db} {a : α}
    (h : db.run m = .ok (a, db')) {u : Uuid} (hne : u ≠ userId) :
    db'.carts.get u = db.carts.get u :=
  hm.run_frame (fun db => db.carts.get u) (fun _ hs db => Stmt.carts_exec hs hne db) h

theorem OpensOnly.bind {m : Tx α} {f : α → Tx β} (hm : OpensOnly userId m)
    (hf : ∀ a, OpensOnly userId (f a)) : OpensOnly userId (m >>= f) :=
  Prog.Uses.bind hm hf

theorem Within.opensOnly {tables : List TableName} {m : Tx α} (hm : Within tables m)
    (h : TableName.carts ∉ tables) : OpensOnly userId m := by
  refine Prog.Uses.mono hm fun s hs => ?_
  have htable := Stmt.table_ne_of_within hs h
  cases s with
  | insert row => cases row <;> first | rfl | exact absurd rfl htable
  | write w =>
    cases w with
    | add row => cases row <;> first | rfl | exact absurd rfl htable
    | _ => rfl
  | _ => rfl

theorem opensOnly_send {s : Stmt} (h : s.opensOnly userId) : OpensOnly userId (send s) :=
  ⟨h, fun _ => trivial⟩

theorem opensOnly_orRaise (e : ShopError) (x : Option α) : OpensOnly userId (orRaise e x) :=
  Prog.uses_orRaise e x

theorem opensOnly_getOrCreate : OpensOnly userId (CartRepository.getOrCreate userId) := by
  refine (opensOnly_send rfl).bind fun cart => ?_
  cases cart with
  | some items => trivial
  | none =>
    refine OpensOnly.bind (OpensOnly.bind (opensOnly_send ?_) fun inserted => ?_) fun _ => trivial
    · exact decide_eq_true rfl
    · cases inserted <;> trivial

theorem opensOnly_setQuantity (item : CartItem) (quantity : Nat) :
    OpensOnly userId (CartService.setQuantity item quantity) := by
  unfold CartService.setQuantity
  split
  · trivial
  · refine (opensOnly_send rfl).bind fun found => ?_
    cases found <;> trivial

theorem opensOnly_storeQuantity (productId : Uuid) (existing : Option CartItem) (quantity : Nat)
    (itemId : Uuid) : OpensOnly userId
      (CartService.storeQuantity userId productId existing quantity itemId) := by
  cases existing with
  | some item => exact opensOnly_setQuantity item quantity
  | none =>
    have hwithin : Within [.cartItems] (insert (.cartItem ⟨itemId, userId, productId, quantity⟩)) :=
      within_insert rfl
    exact hwithin.opensOnly (by decide)

theorem opensOnly_addItem (productId : Uuid) (quantity : Nat) (itemId : Uuid) :
    OpensOnly userId (CartService.addItem userId productId quantity itemId) := by
  refine (opensOnly_send rfl).bind fun found => (opensOnly_orRaise _ _).bind fun p => ?_
  obtain ⟨product, inventory⟩ := p
  simp only
  split
  · trivial
  · refine opensOnly_getOrCreate.bind fun _ => (opensOnly_send rfl).bind fun existing => ?_
    split
    · trivial
    · exact (opensOnly_storeQuantity _ _ _ _).bind fun _ => opensOnly_getOrCreate

theorem opensOnly_updateItem (productId : Uuid) (quantity : Nat) :
    OpensOnly userId (CartService.updateItem userId productId quantity) := by
  refine (opensOnly_send rfl).bind fun found => (opensOnly_orRaise _ _).bind fun p => ?_
  obtain ⟨product, inventory⟩ := p
  simp only
  split
  · trivial
  · refine opensOnly_getOrCreate.bind fun _ => (opensOnly_send rfl).bind fun existing => ?_
    refine (opensOnly_orRaise _ _).bind fun item => (opensOnly_setQuantity _ _).bind fun _ => ?_
    exact opensOnly_getOrCreate

theorem opensOnly_removeItem (productId : Uuid) :
    OpensOnly userId (CartService.removeItem userId productId) := by
  refine opensOnly_getOrCreate.bind fun _ => (opensOnly_send rfl).bind fun item => ?_
  cases item with
  | some item => exact opensOnly_send rfl
  | none => trivial

theorem opensOnly_clear : OpensOnly userId (CartService.clear userId) := by
  refine opensOnly_getOrCreate.bind fun _ => (opensOnly_send rfl).bind fun items => ?_
  exact Prog.Uses.forM items fun _ => opensOnly_send rfl

theorem opensOnly_getSummary : OpensOnly userId (CartService.getSummary userId) := by
  refine opensOnly_getOrCreate.bind fun items => ?_
  refine Within.opensOnly ?_ (List.not_mem_nil (a := TableName.carts))
  refine Prog.Uses.foldlM items _ fun summary item => ?_
  refine (within_send rfl).bind fun found => ?_
  cases found with
  | none => exact within_pure _
  | some p =>
    obtain ⟨product, inventory⟩ := p
    simp only
    split
    · exact within_pure _
    · exact within_pure _

end OpensOnly

/-- The lines of one user's cart, when a line of another one is stored. -/
theorem Db.itemsOf_put {db db' : Db} {line : CartItem} {userId productId u : Uuid}
    (hput : db'.cartItems = db.cartItems.put line) (hkey : line.key = (userId, productId))
    (hne : u ≠ userId) : db'.itemsOf u = db.itemsOf u := by
  have howner : ∀ item : CartItem, item.key = line.key → item.userId ≠ u := by
    intro item hitem heq
    exact hne (heq.symm.trans (congrArg Prod.fst (hitem.trans hkey)))
  unfold itemsOf
  rw [hput]
  refine Table.filter_put_of_not (decide_eq_false (howner line rfl)) fun old hget => ?_
  exact decide_eq_false (howner old (Table.key_of_get hget))

theorem Db.itemsOf_removeItem {db db' : Db} {userId productId u : Uuid} {v : Unit}
    (h : db.run (CartService.removeItem userId productId) = .ok (v, db')) (hne : u ≠ userId) :
    db'.itemsOf u = db.itemsOf u := by
  obtain ⟨_, db₁, hcart, h⟩ := Db.run_bind_ok.mp h
  rw [Db.run_send_bind] at h
  have hsame : db₁.itemsOf u = db.itemsOf u := by
    rw [itemsOf, cartItems_getOrCreate hcart, itemsOf]
  rw [← hsame]
  simp only [Stmt.exec] at h
  split at h
  · rename_i item hget
    cases h
    have hitem : item.userId = userId := congrArg Prod.fst (Table.key_of_get hget)
    refine Table.filter_eraseIf_of_not fun c hc => decide_eq_false fun heq => hne ?_
    exact heq.symm.trans ((congrArg Prod.fst hc).trans hitem)
  · cases h
    rfl

theorem Db.itemsOf_clear {db db' : Db} {userId u : Uuid} {v : Unit}
    (h : db.run (CartService.clear userId) = .ok (v, db')) (hne : u ≠ userId) :
    db'.itemsOf u = db.itemsOf u := by
  obtain ⟨_, db₁, hcart, h⟩ := Db.run_bind_ok.mp h
  rw [CartRepository.run_clear] at h
  cases h
  rw [itemsOf_clearCart_of_ne _ hne, itemsOf, cartItems_getOrCreate hcart, itemsOf]

/-! ## Every change is entitled -/

/-- A committed request that is not entitled to it changes nothing that belongs to a user. -/
theorem serve_customer {request : Request} {store store' : Store} {u : Uuid}
    (hserve : serve request store = .ok store') (hnot : ¬ MayChange store.db u request) :
    store'.db.customer u = store.db.customer u := by
  have hrun := serve_ok.mp hserve
  have hsame : ∀ t, t ∉ request.tables → store.db.Same store'.db t :=
    fun t ht => (within_handler request).same_run hrun ht
  have hcart : request.tables = cartTables → ∀ t ∈ customerTables, store.db.Same store'.db t := by
    intro htables t ht
    refine hsame t fun hmem => ?_
    rw [htables] at hmem
    revert t
    decide
  have hother : ∀ {subject : Uuid} {user : User}, store.db.users.get subject = some user →
      user.isActive = true → ¬ (subject = u ∧ store.db.IsUser subject fun _ => True) →
      u ≠ user.id := by
    rintro subject user huser hactive hneither rfl
    exact hneither ⟨(Table.key_of_get huser).symm, user, huser, hactive, trivial⟩
  cases request with
  | addCartItem subject data itemId =>
    obtain ⟨_, hrun⟩ := Db.run_discard_ok.mp hrun
    obtain ⟨user, huser, hactive, hrun⟩ := run_getCurrentUser_bind_ok.mp hrun
    have hne := hother huser hactive hnot
    obtain ⟨_, db₁, hadd, hsummary⟩ := Db.run_bind_ok.mp hrun
    obtain ⟨line, hkey, -, hput⟩ := run_addItem_ok hadd
    have hitems : store'.db.cartItems = db₁.cartItems :=
      (within_getSummary user.id).same_run hsummary (t := .cartItems) (by decide)
    refine Db.customer_of_same (hcart rfl) ?_ (Db.itemsOf_put (hitems.trans hput) hkey hne)
    rw [opensOnly_getSummary.carts_run hsummary hne, (opensOnly_addItem _ _ _).carts_run hadd hne]
  | updateCartItem subject productId data =>
    obtain ⟨_, hrun⟩ := Db.run_discard_ok.mp hrun
    obtain ⟨user, huser, hactive, hrun⟩ := run_getCurrentUser_bind_ok.mp hrun
    have hne := hother huser hactive hnot
    obtain ⟨_, db₁, hupdate, hsummary⟩ := Db.run_bind_ok.mp hrun
    obtain ⟨line, hkey, -, hput⟩ := run_updateItem_ok hupdate
    have hitems : store'.db.cartItems = db₁.cartItems :=
      (within_getSummary user.id).same_run hsummary (t := .cartItems) (by decide)
    refine Db.customer_of_same (hcart rfl) ?_ (Db.itemsOf_put (hitems.trans hput) hkey hne)
    rw [opensOnly_getSummary.carts_run hsummary hne,
      (opensOnly_updateItem _ _).carts_run hupdate hne]
  | removeCartItem subject productId =>
    obtain ⟨user, huser, hactive, hrun⟩ := run_getCurrentUser_bind_ok.mp hrun
    have hne := hother huser hactive hnot
    exact Db.customer_of_same (hcart rfl) ((opensOnly_removeItem _).carts_run hrun hne)
      (Db.itemsOf_removeItem hrun hne)
  | clearCart subject =>
    obtain ⟨user, huser, hactive, hrun⟩ := run_getCurrentUser_bind_ok.mp hrun
    have hne := hother huser hactive hnot
    exact Db.customer_of_same (hcart rfl) (opensOnly_clear.carts_run hrun hne)
      (Db.itemsOf_clear hrun hne)
  | checkout subject shippingAddress orderId now =>
    obtain ⟨_, hrun⟩ := Db.run_discard_ok.mp hrun
    obtain ⟨user, huser, hactive, hrun⟩ := run_getCurrentUser_bind_ok.mp hrun
    obtain ⟨items, -, -, hfresh, -, -, rfl, hdb⟩ := OrderService.run_checkout_ok.mp hrun
    rw [hdb]
    exact Db.customer_placed (hother huser hactive hnot).symm hfresh
  | cancelOrder subject orderId now =>
    obtain ⟨_, hrun⟩ := Db.run_discard_ok.mp hrun
    obtain ⟨user, huser, hactive, hrun⟩ := run_getCurrentUser_bind_ok.mp hrun
    obtain ⟨order, hget, hauthorized, -, -, -, hdb⟩ := OrderService.run_cancel_ok.mp hrun
    have howner : store.db.ownerOf orderId = some order.userId := by
      rw [Db.ownerOf, hget, Option.map_some]
    have hid := Table.key_of_get hget
    rw [hdb]
    refine (Db.customer_transitioned (hid ▸ hget) ?_).trans (Db.customer_withStock _)
    rintro rfl
    exact hnot ⟨howner, user, huser, hactive, hauthorized.imp_left Eq.symm⟩
  | updateOrderStatus subject orderId data now =>
    obtain ⟨_, hrun⟩ := Db.run_discard_ok.mp hrun
    obtain ⟨user, huser, hactive, hpermitted, hrun⟩ := run_authorized_bind_ok.mp hrun
    obtain ⟨_, db₁, hadmin, hrest⟩ := Db.run_bind_ok.mp hrun
    obtain ⟨order, hget, -, rfl, rfl⟩ := OrderService.run_adminUpdateStatus_ok.mp hadmin
    have howner : store.db.ownerOf orderId = some order.userId := by
      rw [Db.ownerOf, hget, Option.map_some]
    have hne : order.userId ≠ u := by
      rintro rfl
      exact hnot ⟨howner, user, huser, hactive, hpermitted⟩
    have hid := Table.key_of_get hget
    have hmoved : (store.db.transitioned order data.newStatus (some user.id) data.note now).customer
        u = store.db.customer u := Db.customer_transitioned (hid ▸ hget) hne
    obtain ⟨_, db₂, hrefund, hdone⟩ := Db.run_bind_ok.mp hrest
    have hrefunded : db₂.customer u = store.db.customer u := by
      unfold refundIfRefunded at hrefund
      split at hrefund
      · obtain ⟨t, db₃, happly, hdone⟩ := Db.run_bind_ok.mp hrefund
        cases hdone
        exact (Db.customer_apply hne happly).trans hmoved
      · cases hrefund
        exact hmoved
    cases hdone
    exact hrefunded
  | initPayment zarinpal callbackUrl subject orderId paymentId =>
    obtain ⟨_, hrun⟩ := Db.run_discard_ok.mp hrun
    obtain ⟨user, huser, hactive, hrun⟩ := run_getCurrentUser_bind_ok.mp hrun
    obtain ⟨order, result, hget, howner, -, hfresh, -, -, hdb⟩ :=
      PaymentService.run_initPayment_ok.mp hrun
    have hid : user.id = subject := Table.key_of_get huser
    rw [hdb]
    refine Db.customer_payment ?_ fun old hold => ?_
    · rintro (heq : order.userId = u)
      refine hnot ⟨hid.symm.trans (howner.symm.trans heq), ?_, user, huser, hactive, trivial⟩
      rw [Db.ownerOf, hget, Option.map_some, heq]
    · cases hfresh.symm.trans hold
  | paymentCallback zarinpal authority status now =>
    obtain ⟨answer, hrun⟩ := Db.run_discard_ok.mp hrun
    obtain ⟨payment, hby, hcases⟩ := PaymentService.run_handleCallback_ok.mp hrun
    rcases hcases with ⟨-, -, hdb⟩ |
      ⟨hinitiated, paid, houtcome, order, hget, -, -, hdb⟩
    · rw [hdb]
    · obtain ⟨hanswer, -, huser, -⟩ := PaymentService.outcome_some houtcome
      have hpayment : payment.userId ≠ u :=
        fun heq => hnot ⟨payment, hby, hinitiated, Or.inl heq⟩
      have howner : order.userId ≠ u := by
        rintro rfl
        refine hnot ⟨payment, hby, hinitiated, Or.inr ?_⟩
        rw [Db.ownerOf, hget, Option.map_some]
      have hid := Table.key_of_get hget
      rw [hdb, PaymentService.settledDb]
      refine (Db.customer_transitioned (hid ▸ hget) howner).trans
        ((Db.customer_withStock _).trans (Db.customer_payment (huser ▸ hpayment) ?_))
      intro old hold
      rw [hanswer, Db.get_of_paymentBy hby] at hold
      cases hold
      exact hpayment
  | getMyWallet subject =>
    obtain ⟨wallet, hrun⟩ := Db.run_discard_ok.mp hrun
    obtain ⟨user, huser, hactive, hrun⟩ := run_getCurrentUser_bind_ok.mp hrun
    obtain ⟨hwallet, hdb, -⟩ := WalletService.run_getOrCreate_ok hrun
    rw [hdb]
    exact Db.customer_wallet _ (hwallet ▸ (hother huser hactive hnot).symm)
  | depositToWallet subject data =>
    obtain ⟨_, hrun⟩ := Db.run_discard_ok.mp hrun
    obtain ⟨user, huser, hactive, hrun⟩ := run_getCurrentUser_bind_ok.mp hrun
    exact Db.customer_apply (hother huser hactive hnot).symm hrun
  | adminGetWallet subject target =>
    obtain ⟨wallet, hrun⟩ := Db.run_discard_ok.mp hrun
    obtain ⟨user, huser, hactive, hpermitted, hrun⟩ := run_authorized_bind_ok.mp hrun
    obtain ⟨hwallet, hdb, -⟩ := WalletService.run_getOrCreate_ok hrun
    rw [hdb]
    refine Db.customer_wallet _ (hwallet ▸ ?_)
    rintro rfl
    exact hnot ⟨rfl, user, huser, hactive, hpermitted⟩
  | adminCreditWallet subject target data | adminDebitWallet subject target data =>
    obtain ⟨_, hrun⟩ := Db.run_discard_ok.mp hrun
    obtain ⟨user, huser, hactive, hpermitted, hrun⟩ := run_authorized_bind_ok.mp hrun
    refine Db.customer_apply ?_ hrun
    rintro rfl
    exact hnot ⟨rfl, user, huser, hactive, hpermitted⟩
  | restockProduct subject productId data | adjustProductInventory subject productId data
  | createProduct subject data productId | updateProduct subject productId data
  | archiveProduct subject productId =>
    have hcarts : store'.db.carts = store.db.carts := hsame .carts (by simp [Request.tables])
    have hlines : store'.db.cartItems = store.db.cartItems :=
      hsame .cartItems (by simp [Request.tables])
    refine Db.customer_of_same (fun t ht => hsame t fun hmem => ?_) (by rw [hcarts])
      (by rw [Db.itemsOf, hlines, Db.itemsOf])
    cases t <;> simp [Request.tables] at ht hmem

/-- When anything that belongs to a user is different after a run, some request of the run was
    entitled to change it when it was made: it was the user's own, one of staff whose role
    allows it, or the gateway's report on an open payment. -/
theorem customer_changed_by_entitled {store₀ store : Store} {requests : List Request} {u : Uuid}
    (hrun : Run serve anyStep store₀ requests store)
    (hchanged : store.db.customer u ≠ store₀.db.customer u) :
    Run.Earlier serve anyStep store₀ (fun _ store request => MayChange store.db u request)
      requests :=
  hrun.earlier_of_ne (fun store => store.db.customer u)
    (fun _ _ _ hserve hnot => serve_customer hserve hnot) hchanged

/-- Customer 1 buys and pays, and the admin takes up the order. -/
theorem customer_changed_by_entitled_smallShop : ∃ store,
    Run serve anyStep smallShop
      (buyTwo 1 100 ++ payWith "A" "OK" true 1 100 200 ++ [setStatus 100 .processing]) store ∧
    store.db.customer 1 ≠ smallShop.db.customer 1 ∧
    Run.Earlier serve anyStep smallShop (fun _ store request => MayChange store.db 1 request)
      (buyTwo 1 100 ++ payWith "A" "OK" true 1 100 200 ++ [setStatus 100 .processing]) := by
  have hrun : ∃ store, Run serve anyStep smallShop
      (buyTwo 1 100 ++ payWith "A" "OK" true 1 100 200 ++ [setStatus 100 .processing]) store ∧
      store.db.customer 1 ≠ smallShop.db.customer 1 :=
    Run.exists_of_execAll (by decide +kernel)
  obtain ⟨store, hrun, hchanged⟩ := hrun
  exact ⟨store, hrun, hchanged, customer_changed_by_entitled hrun hchanged⟩

end ElectronicShop
