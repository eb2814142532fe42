import ElectronicShop.Book.Billing
import ElectronicShop.Shop.Reservations

/-!
# Paid orders and refunds

Two properties of the money a customer has paid. An order with a verified payment
is served or refunded as long as nobody cancels it: `cancel` and an admin's
`cancelled` give nothing back. A refund is covered by verified payments as long as
the refunded order has one: an admin can set an order to `paid` that nobody paid.
-/

namespace ElectronicShop

open Txn

/-! ## Served or refunded -/

/-- The statuses in which a paid order is being served. -/
def servedStatuses : List OrderStatus := [.paid, .processing, .shipped, .completed]

/-- The order's total has been refunded to its owner. -/
def Order.RefundedIn (o : Order) (ledger : List WalletTransaction) : Prop :=
  ∃ t ∈ ledger, t.type = .refund ∧ t.walletId = o.userId ∧ t.referenceId = some o.id ∧
    t.amount = o.total

instance (o : Order) (ledger : List WalletTransaction) : Decidable (o.RefundedIn ledger) :=
  inferInstanceAs (Decidable (∃ t ∈ ledger, _))

theorem Order.RefundedIn.mono {o o' : Order} {ledger ledger' : List WalletTransaction}
    (h : o.RefundedIn ledger) (hsame : o.Same o') (hsub : ledger ⊆ ledger') :
    o'.RefundedIn ledger' := by
  obtain ⟨t, ht, htype, hwallet, href, hamount⟩ := h
  exact ⟨t, hsub ht, htype, hwallet.trans hsame.userId.symm, by rw [href, hsame.id],
    hamount.trans hsame.total.symm⟩

/-- The steps that cancel no order with a verified payment. -/
def KeepsPaidOrders (store : Store) (request : Request) : Prop :=
  ∀ orderId ∈ request.cancelledOrder, ¬ HasVerified store.db.payments orderId

instance (store : Store) (request : Request) : Decidable (KeepsPaidOrders store request) := by
  unfold KeepsPaidOrders
  infer_instance

/-- Every order with a verified payment is served or refunded. -/
structure Served (b : Book) : Prop where
  accounted : Accounted b
  served : ∀ orderId o, HasVerified b.payments orderId → b.orders.get orderId = some o →
    o.status ∈ servedStatuses ∨ o.RefundedIn b.refunds

/-- A served order that moves on is served, unless it is cancelled or refunded. -/
theorem served_of_allowed {status status' : OrderStatus} (h : status ∈ servedStatuses)
    (hallowed : status' ∈ allowedTransitions status) (hcancelled : status' ≠ .cancelled)
    (hrefunded : status' ≠ .refunded) : status' ∈ servedStatuses := by
  revert h hallowed hcancelled hrefunded
  cases status <;> cases status' <;> decide

namespace Served

variable {db : Db} {b' : Book}

/-- An event that replaces the row of one order and adds no verified payment to
    another. -/
theorem put (h : Served db.book) (ha : Accounted b') {order order' : Order}
    (hid : order'.id = order.id)
    (horders : b'.orders = db.orders.put order') (hrefunds : db.book.refunds ⊆ b'.refunds)
    (hothers : ∀ orderId, orderId ≠ order.id → HasVerified b'.payments orderId →
      HasVerified db.payments orderId)
    (horder : HasVerified b'.payments order.id →
      order'.status ∈ servedStatuses ∨ order'.RefundedIn b'.refunds) : Served b' := by
  refine ⟨ha, fun orderId o hverified ho => ?_⟩
  rw [horders, Table.get_put] at ho
  split at ho
  · rename_i heq
    obtain rfl := Option.some.inj ho
    exact horder (by rwa [← hid, ← heq])
  · rename_i hne
    rw [hid] at hne
    refine (h.served orderId o (hothers orderId hne hverified) ho).imp_right fun hr => ?_
    exact hr.mono .rfl hrefunds

/-- The step lemma: every event of a step that cancels no paid order keeps the
    invariant. -/
theorem billing {store : Store} {request : Request} (h : Served store.db.book)
    (hguard : KeepsPaidOrders store request) (hbilling : Billing store.db request b') :
    Served b' := by
  have ha : Accounted b' := h.accounted.billing hbilling
  cases hbilling with
  | apart orders payments refunds =>
    refine ⟨ha, fun orderId o hverified ho => ?_⟩
    rw [payments] at hverified
    rw [orders] at ho
    rw [refunds]
    exact h.served orderId o hverified ho
  | placed order cart fresh status subtotal total lines orders payments refunds =>
    refine h.put ha rfl orders (fun _ ht => refunds ▸ ht) (fun _ _ hv => payments ▸ hv) fun hv => ?_
    rw [payments] at hv
    -- a payment of the new order would be older than the order
    obtain ⟨p, hp, horder, -⟩ := hv
    obtain ⟨o, ho, -⟩ := h.accounted.payments p hp
    rw [horder] at ho
    exact absurd (fresh.symm.trans ho) (by simp)
  | initiated order payment found ofOrder amount status fresh orders payments refunds =>
    refine ⟨ha, fun orderId o hverified ho => ?_⟩
    rw [orders] at ho
    rw [refunds]
    refine h.served orderId o ?_ ho
    obtain ⟨p, hp, horder, hstatus⟩ := hverified
    rw [payments] at hp
    rcases Table.mem_put hp with rfl | ⟨hp, -⟩
    · rw [status] at hstatus
      cases hstatus
    · exact ⟨p, hp, horder, hstatus⟩
  | moved order order' found same allowed notRefunded cause orders payments refunds =>
    refine h.put ha same.id orders (fun _ ht => refunds ▸ ht) (fun _ _ hv => payments ▸ hv) fun hv => ?_
    rw [payments] at hv
    have hcancelled : order'.status ≠ .cancelled := fun hc => hguard order.id (cause hc) hv
    rcases h.served order.id order hv found with hserved | hrefunded
    · exact Or.inl (served_of_allowed hserved allowed hcancelled notRefunded)
    · exact Or.inr (hrefunded.mono same fun _ ht => refunds ▸ ht)
  | refunded order order' refund found same allowed status cause type wallet amount reference orders
      payments refunds =>
    refine h.put ha same.id orders (fun _ ht => ?_) (fun _ _ hv => payments ▸ hv) fun _ => Or.inr ?_
    · rw [refunds]
      exact List.mem_append_left _ ht
    · refine ⟨refund, ?_, type, wallet.trans same.userId.symm, by rw [reference, same.id],
        amount.trans same.total.symm⟩
      rw [refunds]
      exact List.mem_append_right _ (List.mem_singleton_self _)
  | settled payment answer order order' paid claimed wasInitiated found ofOrder id sameOrder amount
      status same awaiting status' orders payments refunds =>
    have hold : ∀ orderId, HasVerified b'.payments orderId →
        (orderId = order.id ∧ paid = true) ∨ HasVerified store.db.payments orderId := by
      rintro orderId ⟨p, hp, horder, hverified⟩
      rw [payments] at hp
      rcases Table.mem_put hp with rfl | ⟨hp, -⟩
      · refine Or.inl ⟨by rw [← horder, sameOrder, ofOrder], ?_⟩
        cases paid
        · rw [status] at hverified
          cases hverified
        · rfl
      · exact Or.inr ⟨p, hp, horder, hverified⟩
    refine h.put ha same.id orders (fun _ ht => refunds ▸ ht) (fun orderId hne hv => ?_) fun hv => ?_
    · exact (hold orderId hv).resolve_left fun heq => hne heq.1
    · rcases hold order.id hv with ⟨-, rfl⟩ | hv
      · rw [status']
        exact Or.inl (by decide)
      · refine (h.served order.id order hv found).elim (fun hserved => ?_) fun hr =>
          Or.inr (hr.mono same fun _ ht => refunds ▸ ht)
        rw [awaiting] at hserved
        exact absurd hserved (by decide)

end Served

theorem NoOrders.accounted {db : Db} (h : NoOrders db) : Accounted db.book where
  payments := by
    intro p hp
    have hrows : db.book.payments.rows = [] := h.payments
    rw [hrows] at hp
    cases hp
  refunds := by
    intro t ht
    have hrefund := List.mem_filter.mp ht
    exact absurd (by simpa using hrefund.2) (h.refunds t hrefund.1)

theorem NoOrders.not_hasVerified {db : Db} (h : NoOrders db) (orderId : Uuid) :
    ¬ HasVerified db.payments orderId := by
  rintro ⟨p, hp, -⟩
  rw [h.payments] at hp
  cases hp

/-- In a run from a state without orders in which no order with a verified payment is
    cancelled, every order with a verified payment is served or has been refunded
    in full. -/
theorem paid_served_or_refunded {store₀ store : Store} {requests : List Request}
    (h₀ : NoOrders store₀.db) (hrun : Run serve KeepsPaidOrders store₀ requests store) :
    ∀ p ∈ store.db.payments.rows, p.status = .verified →
      ∃ o, store.db.orders.get p.orderId = some o ∧
        (o.status ∈ servedStatuses ∨ o.RefundedIn store.db.walletTransactions) := by
  have hserved : Served store.db.book := by
    refine hrun.invariant (fun s => Served s.db.book) ⟨h₀.accounted, fun orderId o hv => ?_⟩
      fun request s s' hs hguard hserve => hs.billing hguard (serve_effect hserve).billing
    exact absurd hv (h₀.not_hasVerified orderId)
  intro p hp hverified
  obtain ⟨o, ho, -⟩ := hserved.accounted.payments p hp
  refine ⟨o, ho, (hserved.served p.orderId o ⟨p, hp, rfl, hverified⟩ ho).imp_right fun hr => ?_⟩
  exact hr.mono .rfl (List.filter_subset_self _)

/-- A paid order that is refunded, and another that is shipped. -/
theorem paid_served_or_refunded_smallShop : ∃ store,
    Run serve KeepsPaidOrders smallShop (buyTwo 1 100 ++ payWith "A" "OK" true 1 100 200 ++
      [setStatus 100 .refunded] ++ buyTwo 2 101 ++ payWith "B" "OK" true 2 101 201 ++
      [setStatus 101 .processing]) store ∧
    ∀ p ∈ store.db.payments.rows, p.status = .verified →
      ∃ o, store.db.orders.get p.orderId = some o ∧
        (o.status ∈ servedStatuses ∨ o.RefundedIn store.db.walletTransactions) := by
  have hrun : ∃ store, Run serve KeepsPaidOrders smallShop (buyTwo 1 100 ++
      payWith "A" "OK" true 1 100 200 ++ [setStatus 100 .refunded] ++ buyTwo 2 101 ++
      payWith "B" "OK" true 2 101 201 ++ [setStatus 101 .processing]) store ∧ True :=
    Run.exists_of_execAll (by decide +kernel)
  obtain ⟨store, hrun, -⟩ := hrun
  exact ⟨store, hrun, paid_served_or_refunded smallShop_noOrders hrun⟩

/-- A customer cancels the order they have paid for: nothing is refunded. -/
theorem paid_served_or_refunded_fails : NoOrders smallShop.db ∧ ∃ store,
    Run serve anyStep smallShop (buyTwo 1 100 ++ payWith "A" "OK" true 1 100 200 ++
      [.cancelOrder 1 100 0]) store ∧
    ∃ p ∈ store.db.payments.rows, p.status = .verified ∧
      ∃ o ∈ store.db.orders.get p.orderId,
        o.status ∉ servedStatuses ∧ ¬ o.RefundedIn store.db.walletTransactions :=
  ⟨smallShop_noOrders, Run.exists_of_execAll (by decide +kernel)⟩

/-! ## Refunds are covered by payments -/

/-- The steps that refund no order without a verified payment, unless its total
    is zero. -/
def RefundsPaidOrders (store : Store) (request : Request) : Prop :=
  ∀ orderId ∈ request.refundedOrder, ∀ o ∈ store.db.orders.get orderId,
    o.total = 0 ∨ HasVerified store.db.payments orderId

instance (store : Store) (request : Request) : Decidable (RefundsPaidOrders store request) := by
  unfold RefundsPaidOrders
  infer_instance

/-- A refunded order has been refunded once, its total, and had been paid for;
    no other order has been refunded. -/
structure Funded (b : Book) : Prop where
  accounted : Accounted b
  total_nonneg : ∀ o ∈ b.orders.rows, 0 ≤ o.total
  refunded : ∀ o ∈ b.orders.rows,
    refundedAmount b.refunds o.id = if o.status = .refunded then o.total else 0
  paidFor : ∀ o ∈ b.orders.rows, o.status = .refunded → o.total = 0 ∨ HasVerified b.payments o.id

namespace Funded

variable {db : Db} {b' : Book}

/-- An event that replaces the row of one order. -/
theorem put (h : Funded db.book) (ha : Accounted b') {order' : Order}
    (horders : b'.orders = db.orders.put order')
    (hverified : ∀ orderId, HasVerified db.payments orderId → HasVerified b'.payments orderId)
    (hothers : ∀ orderId, orderId ≠ order'.id →
      refundedAmount b'.refunds orderId = refundedAmount db.book.refunds orderId)
    (htotal : 0 ≤ order'.total)
    (hrefunded : refundedAmount b'.refunds order'.id =
      if order'.status = .refunded then order'.total else 0)
    (hpaidFor : order'.status = .refunded → order'.total = 0 ∨ HasVerified b'.payments order'.id) :
    Funded b' := by
  refine ⟨ha, fun o ho => ?_, fun o ho => ?_, fun o ho hstatus => ?_⟩ <;> rw [horders] at ho <;>
    rcases Table.mem_put ho with rfl | ⟨ho, hne⟩
  · exact htotal
  · exact h.total_nonneg o ho
  · exact hrefunded
  · rw [hothers o.id hne]
    exact h.refunded o ho
  · exact hpaidFor hstatus
  · exact (h.paidFor o ho hstatus).imp_right (hverified o.id)

/-- An event that leaves the orders and refunds alone. -/
theorem keep (h : Funded db.book) (ha : Accounted b') (horders : b'.orders = db.orders)
    (hverified : ∀ orderId, HasVerified db.payments orderId → HasVerified b'.payments orderId)
    (hrefunds : b'.refunds = db.book.refunds) : Funded b' := by
  refine ⟨ha, ?_, ?_, ?_⟩
  · rw [horders]
    exact h.total_nonneg
  · rw [horders, hrefunds]
    exact h.refunded
  · rw [horders]
    exact fun o ho hstatus => (h.paidFor o ho hstatus).imp_right (hverified o.id)

/-- The step lemma: every event of a step that refunds only paid orders keeps the
    invariant. -/
theorem billing {store : Store} {request : Request} (h : Funded store.db.book)
    (hpriced : ∀ p ∈ store.db.products.rows, p.Priced) (hguard : RefundsPaidOrders store request)
    (hbilling : Billing store.db request b') : Funded b' := by
  have ha : Accounted b' := h.accounted.billing hbilling
  -- an order that can still change its status has not been refunded
  have hnone : ∀ {o : Order} {status}, store.db.orders.get o.id = some o →
      status ∈ allowedTransitions o.status → refundedAmount store.db.book.refunds o.id = 0 := by
    intro o status ho hallowed
    rw [h.refunded o (Table.mem_of_get ho), if_neg]
    intro hrefunded
    rw [hrefunded] at hallowed
    cases hallowed
  cases hbilling with
  | apart orders payments refunds => exact h.keep ha orders (fun _ hv => payments ▸ hv) refunds
  | placed order cart fresh status subtotal total lines orders payments refunds =>
    refine h.put ha orders (fun _ hv => payments ▸ hv) (fun _ _ => by rw [refunds])
      (total ▸ ElectronicShop.total_nonneg hpriced lines) ?_ fun hstatus => ?_
    · rw [refunds, status, if_neg (by decide)]
      refine refundedAmount_eq_zero fun t ht _ href => ?_
      have hsome := h.accounted.refunds t ht order.id href
      simp [show store.db.book.orders.get order.id = none from fresh] at hsome
    · rw [status] at hstatus
      cases hstatus
  | initiated order payment found ofOrder amount status fresh orders payments refunds =>
    refine h.keep ha orders (fun orderId hv => ?_) refunds
    rw [payments]
    refine hv.put fun p hp => ?_
    rw [fresh] at hp
    cases hp
  | moved order order' found same allowed notRefunded cause orders payments refunds =>
    refine h.put ha orders (fun _ hv => payments ▸ hv) (fun _ _ => by rw [refunds]) ?_ ?_ ?_
    · rw [same.total]
      exact h.total_nonneg order (Table.mem_of_get found)
    · rw [refunds, same.id, if_neg notRefunded]
      exact hnone found allowed
    · exact fun hstatus => absurd hstatus notRefunded
  | refunded order order' refund found same allowed status cause type wallet amount reference orders
      payments refunds =>
    have hone : ∀ orderId, refundedAmount [refund] orderId =
        if orderId = order.id then order.total else 0 := by
      intro orderId
      simp [refundedAmount, type, reference, amount, eq_comm]
    refine h.put ha orders (fun _ hv => payments ▸ hv) (fun orderId hne => ?_) ?_ ?_ fun _ => ?_
    · rw [same.id] at hne
      rw [refunds, refundedAmount_append, hone, if_neg hne, add_zero]
    · rw [same.total]
      exact h.total_nonneg order (Table.mem_of_get found)
    · rw [refunds, refundedAmount_append, hone, same.id, if_pos rfl, if_pos status,
        hnone found allowed, zero_add, same.total]
    · rw [same.total, same.id, payments]
      exact hguard order.id cause order found
  | settled payment answer order order' paid claimed wasInitiated found ofOrder id sameOrder amount
      status same awaiting status' orders payments refunds =>
    have hnot : order'.status ≠ .refunded := by
      rw [status']
      cases paid <;> decide
    refine h.put ha orders (fun orderId hv => ?_) (fun _ _ => by rw [refunds]) ?_ ?_ ?_
    · rw [payments]
      refine hv.put fun p hp => ?_
      rw [id, claimed] at hp
      rw [← Option.some.inj hp, wasInitiated]
      decide
    · rw [same.total]
      exact h.total_nonneg order (Table.mem_of_get found)
    · rw [refunds, same.id, if_neg hnot]
      exact @hnone order .paid found (by rw [awaiting]; decide)
    · exact fun hstatus => absurd hstatus hnot

/-- What has been refunded for an order is covered. -/
theorem refunded_le {db : Db} (h : Funded db.book) {o : Order} (ho : o ∈ db.orders.rows) :
    refundedAmount db.walletTransactions o.id ≤ verifiedAmount db.payments o.id := by
  have hnonneg : ∀ p ∈ db.payments.rows,
      0 ≤ if p.orderId = o.id ∧ p.status = .verified then p.amount else 0 := by
    intro p hp
    split
    · obtain ⟨o', ho', hamount⟩ := h.accounted.payments p hp
      rw [hamount]
      exact h.total_nonneg o' (Table.mem_of_get ho')
    · exact le_rfl
  rw [← refundedAmount_book, h.refunded o ho]
  split
  · rename_i hstatus
    rcases h.paidFor o ho hstatus with hzero | ⟨p, hp, horder, hverified⟩
    · rw [hzero]
      exact Table.sum_nonneg hnonneg
    · obtain ⟨o', ho', hamount⟩ := h.accounted.payments p hp
      rw [horder, show db.book.orders.get o.id = some o from Table.get_of_mem ho] at ho'
      obtain rfl := Option.some.inj ho'
      have hle := Table.le_sum hnonneg hp
      rw [if_pos ⟨horder, hverified⟩, hamount] at hle
      exact hle
  · exact Table.sum_nonneg hnonneg

end Funded

/-- In a run from a state without orders and negative prices in which only orders
    with a verified payment are refunded, the refunds of an order are at most its
    verified payments. -/
theorem refunds_covered {store₀ store : Store} {requests : List Request} (h₀ : NoOrders store₀.db)
    (hpriced : ∀ p ∈ store₀.db.products.rows, p.Priced)
    (hrun : Run serve RefundsPaidOrders store₀ requests store) :
    ∀ o ∈ store.db.orders.rows,
      refundedAmount store.db.walletTransactions o.id ≤ verifiedAmount store.db.payments o.id := by
  have hstart : Funded store₀.db.book := by
    have hrows : store₀.db.book.orders.rows = [] := h₀.orders
    exact ⟨h₀.accounted, by simp [hrows], by simp [hrows], by simp [hrows]⟩
  have hfunded : Funded store.db.book ∧ ∀ p ∈ store.db.products.rows, p.Priced := by
    refine hrun.invariant
      (fun s => Funded s.db.book ∧ ∀ p ∈ s.db.products.rows, p.Priced) ⟨hstart, hpriced⟩ ?_
    rintro request s s' ⟨hs, hprices⟩ hguard hserve
    have heffect := serve_effect hserve
    exact ⟨hs.billing hprices hguard heffect.billing, heffect.priced hprices⟩
  exact fun o ho => hfunded.1.refunded_le ho

theorem smallShop_priced : ∀ p ∈ smallShop.db.products.rows, p.Priced := by
  intro p hp
  obtain rfl := List.mem_singleton.mp hp
  exact ⟨by decide, by simp⟩

/-- A paid order that is refunded. -/
theorem refunds_covered_smallShop : ∃ store,
    Run serve RefundsPaidOrders smallShop (buyTwo 1 100 ++ payWith "A" "OK" true 1 100 200 ++
      [setStatus 100 .refunded]) store ∧
    ∀ o ∈ store.db.orders.rows,
      refundedAmount store.db.walletTransactions o.id ≤ verifiedAmount store.db.payments o.id := by
  have hrun : ∃ store, Run serve RefundsPaidOrders smallShop (buyTwo 1 100 ++
      payWith "A" "OK" true 1 100 200 ++ [setStatus 100 .refunded]) store ∧ True :=
    Run.exists_of_execAll (by decide +kernel)
  obtain ⟨store, hrun, -⟩ := hrun
  exact ⟨store, hrun, refunds_covered smallShop_noOrders smallShop_priced hrun⟩

/-- An admin sets an order that nobody paid to `paid`, then to `refunded`. -/
theorem refunds_covered_fails :
    NoOrders smallShop.db ∧ (∀ p ∈ smallShop.db.products.rows, p.Priced) ∧ ∃ store,
      Run serve anyStep smallShop (buyTwo 1 100 ++
        [setStatus 100 .paid, setStatus 100 .refunded]) store ∧
      ∃ o ∈ store.db.orders.rows,
        verifiedAmount store.db.payments o.id < refundedAmount store.db.walletTransactions o.id :=
  ⟨smallShop_noOrders, smallShop_priced, Run.exists_of_execAll (by decide +kernel)⟩

end ElectronicShop
