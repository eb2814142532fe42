import ElectronicShop.Book.Effect

/-!
# Payments and refunds of orders

What an event of the book means for money: orders keep their owner, items and
total, a payment belongs to an order and is over its total, and a refund names
the order it is for.
-/

namespace ElectronicShop

open Txn

/-- The order has been paid for through the gateway. -/
def HasVerified (payments : Table Payment.id) (orderId : Uuid) : Prop :=
  ∃ p ∈ payments.rows, p.orderId = orderId ∧ p.status = .verified

instance (payments : Table Payment.id) (orderId : Uuid) : Decidable (HasVerified payments orderId) :=
  inferInstanceAs (Decidable (∃ p ∈ payments.rows, _))

/-- The amounts of an order's verified payments. -/
def verifiedAmount (payments : Table Payment.id) (orderId : Uuid) : Int :=
  payments.sum fun p => if p.orderId = orderId ∧ p.status = .verified then p.amount else 0

/-- The amounts of the refunds in a wallet ledger that reference an order. -/
def refundedAmount (ledger : List WalletTransaction) (orderId : Uuid) : Int :=
  (ledger.map fun t =>
    if t.type = .refund ∧ t.referenceId = some orderId then t.amount else 0).sum

theorem refundedAmount_append (xs ys : List WalletTransaction) (orderId : Uuid) :
    refundedAmount (xs ++ ys) orderId = refundedAmount xs orderId + refundedAmount ys orderId := by
  simp [refundedAmount]

theorem refundedAmount_eq_zero {ledger : List WalletTransaction} {orderId : Uuid}
    (h : ∀ t ∈ ledger, t.type = .refund → t.referenceId ≠ some orderId) :
    refundedAmount ledger orderId = 0 := by
  refine List.sum_eq_zero fun x hx => ?_
  obtain ⟨t, ht, rfl⟩ := List.mem_map.mp hx
  exact if_neg fun hboth => h t ht hboth.1 hboth.2

/-- The book has all refunds of the ledger. -/
theorem refundedAmount_book (db : Db) (orderId : Uuid) :
    refundedAmount db.book.refunds orderId = refundedAmount db.walletTransactions orderId := by
  change refundedAmount (db.walletTransactions.filter fun t => t.type = .refund) orderId = _
  induction db.walletTransactions with
  | nil => rfl
  | cons t rest ih =>
    by_cases ht : t.type = .refund
    · rw [List.filter_cons_of_pos (by simpa using ht)]
      simpa [refundedAmount] using ih
    · rw [List.filter_cons_of_neg (by simpa using ht), ih]
      simp [refundedAmount, ht]

/-- A claimed payment that is settled replaces no verified one. -/
theorem HasVerified.put {payments : Table Payment.id} {payment : Payment} {orderId : Uuid}
    (h : HasVerified payments orderId)
    (hreplaced : ∀ p, payments.get payment.id = some p → p.status ≠ .verified) :
    HasVerified (payments.put payment) orderId := by
  obtain ⟨p, hp, horder, hverified⟩ := h
  have hne : p.id ≠ payment.id := fun heq => hreplaced p (heq ▸ Table.get_of_mem hp) hverified
  exact ⟨p, Table.mem_of_get (Table.get_put_of_ne payments hne ▸ Table.get_of_mem hp), horder,
    hverified⟩

/-! ## Prices -/

/-- A price is not negative. -/
structure Product.Priced (p : Product) : Prop where
  price : 0 ≤ p.price
  discount : ∀ d ∈ p.discountPrice, 0 ≤ d

namespace ProductService

theorem priced_created (data : ProductCreate) (productId : Uuid) :
    (created data productId).Priced where
  price := numeric_nonneg data.pricePositive.le
  discount := by
    intro d hd
    obtain ⟨x, hx, rfl⟩ := Option.map_eq_some_iff.mp hd
    exact numeric_nonneg (data.discountNonneg x hx)

theorem setColumn_cases {α β : Type} {field : Field α} {old new : β} {store : α → β}
    (h : setColumn field old store = some new) : new = old ∨ ∃ a ∈ field.value, new = store a := by
  match field, h with
  | none, h => exact Or.inl (Option.some.inj h).symm
  | some (some a), h => exact Or.inr ⟨a, rfl, (Option.some.inj h).symm⟩

theorem setNullable_cases {α β : Type} {field : Field α} {old : Option β} {store : α → β} {new : β}
    (h : setNullable field old store = some new) :
    old = some new ∨ ∃ a ∈ field.value, new = store a := by
  match field, h with
  | none, h => exact Or.inl h
  | some (some a), h => exact Or.inr ⟨a, rfl, (Option.some.inj h).symm⟩

theorem priced_updated {old new : Product} {data : ProductUpdate} (h : updated old data = some new)
    (hold : old.Priced) : new.Priced := by
  simp only [updated, bind, Option.bind_eq_some_iff, pure, Option.some.injEq] at h
  obtain ⟨_, -, _, -, _, -, price, hprice, _, -, _, -, _, -, _, -, _, -, rfl⟩ := h
  refine ⟨?_, fun d hd => ?_⟩
  · rcases setColumn_cases hprice with rfl | ⟨x, hx, rfl⟩
    · exact hold.price
    · exact numeric_nonneg (data.pricePositive x hx).le
  · rcases setNullable_cases hd with hkept | ⟨x, hx, rfl⟩
    · exact hold.discount d hkept
    · exact numeric_nonneg (data.discountNonneg x hx)

end ProductService

/-- The total of a new order is not negative. -/
theorem total_nonneg {products : Table Product.id} (hpriced : ∀ p ∈ products.rows, p.Priced)
    {cart : List CartItem} {items : List OrderItem}
    (hlines : List.Forall₂ (OrderService.IsLine products) cart items) :
    0 ≤ (items.map OrderItem.subtotal).sum := by
  induction hlines with
  | nil => simp
  | cons hline _ ih =>
    obtain ⟨product, hget, -, rfl⟩ := hline
    have hprice := hpriced product (Table.mem_of_get hget)
    have hunit : 0 ≤ effectiveUnitPrice product := by
      unfold effectiveUnitPrice
      cases hd : product.discountPrice with
      | none => exact hprice.price
      | some d => exact hprice.discount d hd
    rw [List.map_cons, List.sum_cons]
    exact add_nonneg (mul_nonneg hunit (Int.natCast_nonneg _)) ih

/-- An event leaves the products alone, or it stores one, which is priced if the others are. -/
theorem Effect.products_cases {db db' : Db} {request : Request} (h : Effect db request db') :
    db'.products = db.products ∨ ∃ row, db'.products = db.products.put row ∧
      ((∀ p ∈ db.products.rows, p.Priced) → row.Priced) := by
  have hproducts : ∀ {b : Book}, db'.book = b → db'.products = b.products :=
    fun hb => congrArg Book.products hb
  cases h with
  | listed fresh book =>
    exact Or.inr ⟨_, hproducts book, fun _ => ProductService.priced_created _ _⟩
  | updated old new found stored book =>
    exact Or.inr ⟨new, hproducts book, fun hpriced =>
      ProductService.priced_updated stored (hpriced old (Table.mem_of_get found))⟩
  | archived old found book =>
    refine Or.inr ⟨_, hproducts book, fun hpriced => ?_⟩
    have hold := hpriced old (Table.mem_of_get found)
    exact ⟨hold.price, hold.discount⟩
  | quiet book | restocked actorId row book | adjusted actorId row book
  | placed userId items fresh lines reservable book | cancelled user order found covers allowed book
  | reviewed actor order found allowed notRefunded book
  | refunded actor order refund found allowed isRefunded type wallet amount reference book
  | paymentInitiated order authority found payable fresh book
  | settled payment answer paid order byAuthority wasInitiated outcome found covers allowed book =>
    exact Or.inl (hproducts book)

theorem Effect.priced {db db' : Db} {request : Request} (h : Effect db request db')
    (hpriced : ∀ p ∈ db.products.rows, p.Priced) : ∀ p ∈ db'.products.rows, p.Priced := by
  rcases h.products_cases with hsame | ⟨row, hput, hrow⟩
  · rw [hsame]
    exact hpriced
  · intro p hp
    rw [hput] at hp
    rcases Table.mem_put hp with rfl | ⟨hold, -⟩
    · exact hrow hpriced
    · exact hpriced p hold

/-- No event removes a product. -/
theorem Effect.keepsProducts {db db' : Db} {request : Request} (h : Effect db request db') :
    ∀ p ∈ db.products.rows, ∃ p' ∈ db'.products.rows, p'.id = p.id := by
  intro p hp
  rcases h.products_cases with hsame | ⟨row, hput, -⟩
  · rw [hsame]
    exact ⟨p, hp, rfl⟩
  · rw [hput]
    by_cases hid : p.id = row.id
    · exact ⟨row, Table.mem_of_get (Table.get_put_self _ row), hid.symm⟩
    · have hget := Table.get_put_of_ne db.products hid
      rw [Table.get_of_mem hp] at hget
      exact ⟨p, Table.mem_of_get hget, rfl⟩

/-! ## The events, as far as money is concerned -/

/-- The same order, maybe in another status. -/
structure Order.Same (o o' : Order) : Prop where
  id : o'.id = o.id
  userId : o'.userId = o.userId
  items : o'.items = o.items
  subtotal : o'.subtotal = o.subtotal
  total : o'.total = o.total

theorem Order.Same.rfl {o : Order} : o.Same o := ⟨Eq.refl _, Eq.refl _, Eq.refl _, Eq.refl _, Eq.refl _⟩

theorem Order.Same.trans {o₁ o₂ o₃ : Order} (h₁ : o₁.Same o₂) (h₂ : o₂.Same o₃) : o₁.Same o₃ :=
  ⟨h₂.id.trans h₁.id, h₂.userId.trans h₁.userId, h₂.items.trans h₁.items,
    h₂.subtotal.trans h₁.subtotal, h₂.total.trans h₁.total⟩

/-- The order a request cancels when it is served. -/
def Request.cancelledOrder : Request → Option Uuid
  | .cancelOrder _ orderId _ => some orderId
  | .updateOrderStatus _ orderId data _ => if data.newStatus = .cancelled then some orderId else none
  | _ => none

/-- The order a request refunds when it is served. -/
def Request.refundedOrder : Request → Option Uuid
  | .updateOrderStatus _ orderId data _ => if data.newStatus = .refunded then some orderId else none
  | _ => none

/-- An event leaves orders, payments and refunds alone, or it places an order,
    starts a payment, settles one with its order, or moves an order to another
    status, with a refund when that is `refunded`. -/
inductive Billing (db : Db) (request : Request) (b' : Book) : Prop where
  | apart (orders : b'.orders = db.orders) (payments : b'.payments = db.payments)
      (refunds : b'.refunds = db.book.refunds)
  | placed (order : Order) (cart : List CartItem) (fresh : db.orders.get order.id = none)
      (status : order.status = .awaitingPayment)
      (subtotal : order.subtotal = order.total)
      (total : order.total = (order.items.map OrderItem.subtotal).sum)
      (lines : List.Forall₂ (OrderService.IsLine db.products) cart order.items)
      (orders : b'.orders = db.orders.put order) (payments : b'.payments = db.payments)
      (refunds : b'.refunds = db.book.refunds)
  | initiated (order : Order) (payment : Payment) (found : db.orders.get order.id = some order)
      (ofOrder : payment.orderId = order.id) (amount : payment.amount = order.total)
      (status : payment.status = .initiated) (fresh : db.payments.get payment.id = none)
      (orders : b'.orders = db.orders) (payments : b'.payments = db.payments.put payment)
      (refunds : b'.refunds = db.book.refunds)
  | moved (order order' : Order) (found : db.orders.get order.id = some order)
      (same : order.Same order') (allowed : order'.status ∈ allowedTransitions order.status)
      (notRefunded : order'.status ≠ .refunded)
      (cause : order'.status = .cancelled → request.cancelledOrder = some order.id)
      (orders : b'.orders = db.orders.put order') (payments : b'.payments = db.payments)
      (refunds : b'.refunds = db.book.refunds)
  | refunded (order order' : Order) (refund : WalletTransaction)
      (found : db.orders.get order.id = some order) (same : order.Same order')
      (allowed : .refunded ∈ allowedTransitions order.status) (status : order'.status = .refunded)
      (cause : request.refundedOrder = some order.id) (type : refund.type = .refund)
      (wallet : refund.walletId = order.userId) (amount : refund.amount = order.total)
      (reference : refund.referenceId = some order.id) (orders : b'.orders = db.orders.put order')
      (payments : b'.payments = db.payments) (refunds : b'.refunds = db.book.refunds ++ [refund])
  | settled (payment answer : Payment) (order order' : Order) (paid : Bool)
      (claimed : db.payments.get payment.id = some payment)
      (wasInitiated : payment.status = .initiated) (found : db.orders.get order.id = some order)
      (ofOrder : payment.orderId = order.id) (id : answer.id = payment.id)
      (sameOrder : answer.orderId = payment.orderId) (amount : answer.amount = payment.amount)
      (status : answer.status = if paid then .verified else .failed) (same : order.Same order')
      (awaiting : order.status = .awaitingPayment)
      (status' : order'.status = if paid then .paid else .paymentFailed)
      (orders : b'.orders = db.orders.put order') (payments : b'.payments = db.payments.put answer)
      (refunds : b'.refunds = db.book.refunds)

theorem Effect.billing {db db' : Db} {request : Request} (h : Effect db request db') :
    Billing db request db'.book := by
  have hsame : ∀ (o : Order) newStatus now, o.Same (o.transitioned newStatus now) :=
    fun _ _ _ => ⟨rfl, rfl, rfl, rfl, rfl⟩
  have horders : ∀ b, db'.book = b → db'.book.orders = b.orders := fun _ hb => congrArg Book.orders hb
  have hpayments : ∀ b, db'.book = b → db'.book.payments = b.payments :=
    fun _ hb => congrArg Book.payments hb
  have hrefunds : ∀ b, db'.book = b → b.refunds = db.book.refunds →
      db'.book.refunds = db.book.refunds := fun _ hb heq => (congrArg Book.refunds hb).trans heq
  cases h with
  | quiet book | listed fresh book | updated old new found stored book | archived old found book
  | restocked actorId row book | adjusted actorId row book =>
    exact .apart (horders _ book) (hpayments _ book) (hrefunds _ book rfl)
  | placed userId items fresh lines reservable book =>
    exact .placed _ _ fresh rfl rfl rfl lines (horders _ book) (hpayments _ book) (hrefunds _ book rfl)
  | paymentInitiated order authority found payable fresh book =>
    have hid := Table.key_of_get found
    exact .initiated order _ (hid ▸ found) rfl rfl rfl fresh (horders _ book) (hpayments _ book)
      (hrefunds _ book rfl)
  | cancelled user order found covers allowed book =>
    have hid := Table.key_of_get found
    exact .moved order _ (hid ▸ found) (hsame _ .cancelled _) allowed (by simp [Order.transitioned])
      (fun _ => congrArg some hid.symm) (horders _ book) (hpayments _ book) (hrefunds _ book rfl)
  | @reviewed subject orderId data now _ actor order found allowed notRefunded book =>
    have hid := Table.key_of_get found
    refine .moved order _ (hid ▸ found) (hsame _ data.newStatus _) allowed notRefunded
      (fun hcancelled => ?_) (horders _ book) (hpayments _ book) (hrefunds _ book rfl)
    have hnew : data.newStatus = .cancelled := hcancelled
    simp [Request.cancelledOrder, hnew, hid]
  | refunded actor order refund found allowed isRefunded type wallet amount reference book =>
    have hid := Table.key_of_get found
    exact .refunded order _ refund (hid ▸ found) (hsame _ .refunded _) allowed rfl
      (by simp [Request.refundedOrder, isRefunded, hid]) type wallet amount reference
      (horders _ book) (hpayments _ book) (congrArg Book.refunds book)
  | settled payment answer paid order byAuthority wasInitiated outcome found covers allowed book =>
    have hid := Table.key_of_get found
    obtain ⟨hanswer, horder, -, hamount, -, hstatus⟩ := PaymentService.outcome_some outcome
    refine .settled payment answer order _ paid (Db.get_of_paymentBy byAuthority) wasInitiated
      (hid ▸ found) hid.symm hanswer horder hamount hstatus
      (hsame _ (PaymentService.settledStatus paid).1 _) (PaymentService.awaiting_iff.mp allowed)
      ?_ (horders _ book) (hpayments _ book) (hrefunds _ book rfl)
    cases paid <;> rfl

/-- What is true of the orders placed, and of an order in every status if in one, stays true of
    all orders. -/
theorem Billing.forall_orders {db : Db} {request : Request} {b' : Book} {P : Order → Prop}
    (h : Billing db request b') (hsame : ∀ o o', o.Same o' → P o → P o')
    (hplaced : ∀ order cart, order.subtotal = order.total →
      order.total = (order.items.map OrderItem.subtotal).sum →
      List.Forall₂ (OrderService.IsLine db.products) cart order.items → P order)
    (hdb : ∀ o ∈ db.orders.rows, P o) : ∀ o ∈ b'.orders.rows, P o := by
  have hput : ∀ order : Order, P order → b'.orders = db.orders.put order →
      ∀ o ∈ b'.orders.rows, P o := by
    intro order horder horders o ho
    rw [horders] at ho
    rcases Table.mem_put ho with rfl | ⟨hold, -⟩
    · exact horder
    · exact hdb o hold
  cases h with
  | apart orders payments refunds => exact orders ▸ hdb
  | initiated order payment found ofOrder amount status fresh orders payments refunds =>
    exact orders ▸ hdb
  | placed order cart fresh status subtotal total lines orders payments refunds =>
    exact hput order (hplaced order cart subtotal total lines) orders
  | moved order order' found same allowed notRefunded cause orders payments refunds =>
    exact hput order' (hsame order order' same (hdb order (Table.mem_of_get found))) orders
  | refunded order order' refund found same allowed status cause type wallet amount reference orders
      payments refunds =>
    exact hput order' (hsame order order' same (hdb order (Table.mem_of_get found))) orders
  | settled payment answer order order' paid claimed wasInitiated found ofOrder id sameOrder amount
      status same awaiting status' orders payments refunds =>
    exact hput order' (hsame order order' same (hdb order (Table.mem_of_get found))) orders

/-- No event changes what an order is over. -/
theorem Billing.kept {db : Db} {request : Request} {b' : Book} (h : Billing db request b') {id : Uuid}
    {o : Order} (ho : db.orders.get id = some o) :
    ∃ o', b'.orders.get id = some o' ∧ o.Same o' := by
  have hput : ∀ order order' : Order, db.orders.get order.id = some order → order.Same order' →
      b'.orders = db.orders.put order' → ∃ o', b'.orders.get id = some o' ∧ o.Same o' := by
    intro order order' hfound hsame horders
    rw [horders, Table.get_put]
    split
    · rename_i hid
      rw [hid, hsame.id, hfound] at ho
      exact ⟨order', rfl, Option.some.inj ho ▸ hsame⟩
    · exact ⟨o, ho, .rfl⟩
  cases h with
  | apart orders payments refunds => exact ⟨o, orders ▸ ho, .rfl⟩
  | initiated order payment found ofOrder amount status fresh orders payments refunds =>
    exact ⟨o, orders ▸ ho, .rfl⟩
  | placed order cart fresh status subtotal total lines orders payments refunds =>
    refine ⟨o, ?_, .rfl⟩
    rw [orders, Table.get_put_of_ne]
    · exact ho
    · rintro rfl
      simp [fresh] at ho
  | moved order order' found same allowed notRefunded cause orders payments refunds =>
    exact hput order order' found same orders
  | refunded order order' refund found same allowed status cause type wallet amount reference orders
      payments refunds =>
    exact hput order order' found same orders
  | settled payment answer order order' paid claimed wasInitiated found ofOrder id sameOrder amount
      status same awaiting status' orders payments refunds =>
    exact hput order order' found same orders

/-! ## Accounts -/

/-- A payment belongs to an order and is over its total; a refund is for an
    order. -/
structure Accounted (b : Book) : Prop where
  payments : ∀ p ∈ b.payments.rows, ∃ o, b.orders.get p.orderId = some o ∧ p.amount = o.total
  refunds : ∀ t ∈ b.refunds, ∀ orderId, t.referenceId = some orderId →
    (b.orders.get orderId).isSome

namespace Accounted

variable {db : Db} {b' : Book}

/-- What has to be shown of an event: its payments and refunds are for orders there
    were before. -/
theorem of_billing {request : Request} (h : Accounted db.book) (hbilling : Billing db request b')
    (hpayments : ∀ p ∈ b'.payments.rows, ∃ o, db.orders.get p.orderId = some o ∧
      p.amount = o.total)
    (hrefunds : ∀ t ∈ b'.refunds, t ∈ db.book.refunds ∨
      ∃ o, db.orders.get o.id = some o ∧ t.referenceId = some o.id) : Accounted b' where
  payments := by
    intro p hp
    obtain ⟨o, ho, hamount⟩ := hpayments p hp
    obtain ⟨o', ho', hsame⟩ := hbilling.kept ho
    exact ⟨o', ho', hamount.trans hsame.total.symm⟩
  refunds := by
    intro t ht orderId href
    obtain ⟨o, ho⟩ : ∃ o, db.orders.get orderId = some o := by
      rcases hrefunds t ht with ht | ⟨o, ho, hid⟩
      · exact Option.isSome_iff_exists.mp (h.refunds t ht orderId href)
      · rw [href] at hid
        exact ⟨o, Option.some.inj hid ▸ ho⟩
    obtain ⟨o', ho', -⟩ := hbilling.kept ho
    exact Option.isSome_of_eq_some ho'

/-- The step lemma. -/
theorem billing {request : Request} (h : Accounted db.book) (hbilling : Billing db request b') :
    Accounted b' := by
  have hold : ∀ p ∈ db.payments.rows, ∃ o, db.orders.get p.orderId = some o ∧ p.amount = o.total :=
    h.payments
  refine h.of_billing hbilling ?_ ?_
  · intro p hp
    cases hbilling with
    | initiated order payment found ofOrder amount status fresh orders payments refunds =>
      rw [payments] at hp
      rcases Table.mem_put hp with rfl | ⟨hp, -⟩
      · exact ⟨order, ofOrder ▸ found, amount⟩
      · exact hold p hp
    | settled payment answer order order' paid claimed wasInitiated found ofOrder id sameOrder amount
        status same awaiting status' orders payments refunds =>
      rw [payments] at hp
      rcases Table.mem_put hp with rfl | ⟨hp, -⟩
      · rw [sameOrder, amount]
        exact hold payment (Table.mem_of_get claimed)
      · exact hold p hp
    | apart orders payments refunds => exact hold p (payments ▸ hp)
    | placed order cart fresh status subtotal total lines orders payments refunds =>
      exact hold p (payments ▸ hp)
    | moved order order' found same allowed notRefunded cause orders payments refunds =>
      exact hold p (payments ▸ hp)
    | refunded order order' refund found same allowed status cause type wallet amount reference
        orders payments refunds =>
      exact hold p (payments ▸ hp)
  · intro t ht
    cases hbilling with
    | refunded order order' refund found same allowed status cause type wallet amount reference
        orders payments refunds =>
      rw [refunds] at ht
      rcases List.mem_append.mp ht with ht | ht
      · exact Or.inl ht
      · exact Or.inr ⟨order, found, List.mem_singleton.mp ht ▸ reference⟩
    | apart orders payments refunds => exact Or.inl (refunds ▸ ht)
    | placed order cart fresh status subtotal total lines orders payments refunds =>
      exact Or.inl (refunds ▸ ht)
    | initiated order payment found ofOrder amount status fresh orders payments refunds =>
      exact Or.inl (refunds ▸ ht)
    | moved order order' found same allowed notRefunded cause orders payments refunds =>
      exact Or.inl (refunds ▸ ht)
    | settled payment answer order order' paid claimed wasInitiated found ofOrder id sameOrder amount
        status same awaiting status' orders payments refunds =>
      exact Or.inl (refunds ▸ ht)

end Accounted

end ElectronicShop
