import ElectronicShop.Book.Billing
import ElectronicShop.Book.Holdings
import ElectronicShop.Execution.Settlement
import ElectronicShop.Shop.Refunds

/-!
# Captured payments and retries

A payment and its order are settled in one transaction, and only an order that
awaits payment can be settled. A payment that the gateway has captured is
therefore lost when the order has left that status in the meantime: after a
failed attempt it is `payment_failed`, from where `init_payment` lets the customer
try again, but no callback is accepted any more.
-/

namespace ElectronicShop

open Txn

/-! ## Ordered products keep their stock rows -/

theorem Effect.isSome_inventory {db db' : Db} {request : Request} (h : Effect db request db')
    {p : Uuid} (hp : (db.inventory.get p).isSome) : (db'.inventory.get p).isSome := by
  have hrows : ∀ b, db'.book = b → (b.stock.rows.get p).isSome → (db'.inventory.get p).isSome := by
    intro b hb hsome
    rw [← hb] at hsome
    exact hsome
  have hmoved : ∀ entries, ((db.stock.moveAll entries).rows.get p).isSome :=
    fun entries => (Stock.isSome_get_moveAll db.stock entries p).trans hp
  cases h with
  | quiet book => exact hrows _ book hp
  | listed fresh book =>
    refine hrows _ book ?_
    rw [Table.get_put]
    split
    · rfl
    · exact hp
  | updated old new found stored book => exact hrows _ book hp
  | archived old found book => exact hrows _ book hp
  | restocked actorId row book => exact hrows _ book (hmoved _)
  | adjusted actorId row book => exact hrows _ book (hmoved _)
  | placed userId items fresh lines reservable book => exact hrows _ book (hmoved _)
  | cancelled user order found covers allowed book => exact hrows _ book (hmoved _)
  | reviewed actor order found allowed notRefunded book => exact hrows _ book hp
  | refunded actor order refund found allowed isRefunded type wallet amount reference book =>
    exact hrows _ book hp
  | paymentInitiated order authority found payable fresh book => exact hrows _ book hp
  | settled payment answer paid order byAuthority wasInitiated outcome found covers allowed book =>
    exact hrows _ book (hmoved _)

/-- The products of every order have stock rows. -/
def OrdersStocked (db : Db) : Prop :=
  ∀ o ∈ db.orders.rows, OrderService.Stocked db.inventory o.items

theorem OrdersStocked.effect {db db' : Db} {request : Request} (h : OrdersStocked db)
    (heffect : Effect db request db') : OrdersStocked db' := by
  have hkeep : ∀ {items}, OrderService.Stocked db.inventory items →
      OrderService.Stocked db'.inventory items :=
    fun hs item hitem p hp => heffect.isSome_inventory (hs item hitem p hp)
  have habout : ∀ {order order' entries}, db.book.About db'.book order order' entries →
      OrdersStocked db' := by
    intro order order' entries ha o ho
    rcases ha.mem ho with rfl | ⟨ho, -⟩
    · rw [ha.items]
      exact hkeep (h order (Table.mem_of_get ha.found))
    · exact hkeep (h o ho)
  cases heffect.reservation with
  | apart hapart =>
    intro o ho
    have horders : db'.orders = db.orders := hapart.orders
    rw [horders] at ho
    exact hkeep (h o ho)
  | placed order fresh status reservable book =>
    intro o ho
    have horders : db'.orders = db.orders.put order := congrArg Book.orders book
    rw [horders] at ho
    rcases Table.mem_put ho with rfl | ⟨ho, -⟩
    · exact hkeep (OrderService.stocked_of_covers reservable.covers)
    · exact hkeep (h o ho)
  | taken order order' kind about takes was closed ofPaid => exact habout about
  | kept order order' about allowed cause => exact habout about

/-! ## Captured payments -/

/-- In a run from a state without orders, a payment that is still initiated and that
    the gateway reports as captured is stored as verified exactly when its order
    still awaits payment and the columns can hold the gateway's answer. -/
theorem captured_verified_iff {store₀ store : Store} {requests : List Request}
    (h₀ : NoOrders store₀.db) (hrun : Run serve anyStep store₀ requests store) {payment : Payment}
    (hpayment : payment ∈ store.db.payments.rows) (hinitiated : payment.status = .initiated)
    {authority : String} (hauthority : payment.authority = some authority)
    {zarinpal : ZarinPalClient} {result : PaymentVerifyResult}
    (hverify : zarinpal.verifyPayment (payment.amount * tomanToRial) authority = .ok result)
    (hsuccess : result.success = true) (now : DateTime) :
    (∃ store', serve (.paymentCallback zarinpal authority "OK" now) store = .ok store' ∧
      ∃ p, store'.db.payments.get payment.id = some p ∧ p.status = .verified) ↔
    (∃ o, store.db.orders.get payment.orderId = some o ∧ o.status = .awaitingPayment) ∧
      result.Fits := by
  have hinv : Accounted store.db.book ∧ OrdersStocked store.db := by
    refine hrun.invariant (fun s => Accounted s.db.book ∧ OrdersStocked s.db)
      ⟨h₀.accounted, fun o ho => ?_⟩ fun request s s' hs _ hserve => ?_
    · rw [h₀.orders] at ho
      cases ho
    · have heffect := serve_effect hserve
      exact ⟨hs.1.billing heffect.billing, hs.2.effect heffect⟩
  obtain ⟨order, hfound, -⟩ := hinv.1.payments payment hpayment
  have hstocked := hinv.2 order (Table.mem_of_get hfound)
  obtain ⟨answer, houtcome⟩ := PaymentService.outcome_verified hverify now
  rw [hsuccess] at houtcome
  have hfits : answer.fits ↔ result.Fits := by
    rw [PaymentService.fits_of_outcome (store.valid.payments payment hpayment) houtcome, hverify]
    exact ⟨fun hall => hall rfl result rfl, fun hone _ _ heq => by cases heq; exact hone⟩
  obtain ⟨hid, -, -, -, -, hstatus⟩ := PaymentService.outcome_some houtcome
  have hiff := serve_paymentCallback_iff hpayment hauthority hinitiated houtcome hfound hstocked
  constructor
  · rintro ⟨store', hserve, -⟩
    obtain ⟨answer', paid, order', houtcome', hfound', -, -, hdb⟩ :=
      (serve_paymentCallback_ok hpayment hauthority hinitiated).mp hserve
    cases houtcome.symm.trans houtcome'
    obtain rfl := Option.some.inj (hfound.symm.trans hfound')
    obtain ⟨hawaiting, hanswer⟩ := hiff.mp ⟨store', hserve, hdb⟩
    exact ⟨⟨order, hfound, hawaiting⟩, hfits.mp hanswer⟩
  · rintro ⟨⟨order', hfound', hawaiting⟩, hresult⟩
    obtain rfl := Option.some.inj (hfound.symm.trans hfound')
    obtain ⟨store', hserve, hdb⟩ := hiff.mpr ⟨hawaiting, hfits.mpr hresult⟩
    refine ⟨store', hserve, answer, ?_, hstatus⟩
    rw [hdb, ← hid]
    exact Table.get_put_self store.db.payments answer

/-- A payment just started. -/
theorem captured_verified_iff_smallShop : ∃ store, ∃ payment ∈ store.db.payments.rows,
    ((∃ store', serve (.paymentCallback (gateway "A" true) "A" "OK" 0) store = .ok store' ∧
      ∃ p, store'.db.payments.get payment.id = some p ∧ p.status = .verified) ↔
    (∃ o, store.db.orders.get payment.orderId = some o ∧ o.status = .awaitingPayment) ∧
      PaymentVerifyResult.Fits ⟨true, some "1", "{}"⟩) := by
  have hrun : ∃ store, Run serve anyStep smallShop (buyTwo 1 100 ++
      [.initPayment (gateway "A" true) "" 1 100 200]) store ∧
      ∃ payment ∈ store.db.payments.rows,
        payment.status = .initiated ∧ payment.authority = some "A" :=
    Run.exists_of_execAll (by decide +kernel)
  obtain ⟨store, hrun, payment, hmem, hinitiated, hauthority⟩ := hrun
  exact ⟨store, payment, hmem,
    captured_verified_iff smallShop_noOrders hrun hmem hinitiated hauthority rfl rfl 0⟩

/-- Two payments of one order: the first one fails, so the second one, which the gateway
    has captured, is refused and stays initiated. -/
theorem captured_verified_fails : NoOrders smallShop.db ∧ ∃ store,
    Run serve anyStep smallShop (buyTwo 1 100 ++
      [.initPayment (gateway "A" true) "" 1 100 200, .initPayment (gateway "B" true) "" 1 100 201,
        .paymentCallback (gateway "A" true) "A" "NOK" 0]) store ∧
    ∃ payment ∈ store.db.payments.rows,
      payment.status = .initiated ∧ payment.authority = some "B" ∧
      (gateway "B" true).verifyPayment (payment.amount * tomanToRial) "B" =
        .ok ⟨true, some "1", "{}"⟩ ∧
      ∀ store', serve (.paymentCallback (gateway "B" true) "B" "OK" 0) store ≠ .ok store' := by
  have hrun : ∃ store, Run serve anyStep smallShop (buyTwo 1 100 ++
      [.initPayment (gateway "A" true) "" 1 100 200, .initPayment (gateway "B" true) "" 1 100 201,
        .paymentCallback (gateway "A" true) "A" "NOK" 0]) store ∧
      (serve (.paymentCallback (gateway "B" true) "B" "OK" 0) store).isOk = false ∧
      ∃ payment ∈ store.db.payments.rows,
        payment.status = .initiated ∧ payment.authority = some "B" :=
    Run.exists_of_execAll (by decide +kernel)
  obtain ⟨store, hrun, hfails, payment, hmem, hinitiated, hauthority⟩ := hrun
  refine ⟨smallShop_noOrders, store, hrun, payment, hmem, hinitiated, hauthority, rfl, ?_⟩
  intro store' hserve
  rw [hserve] at hfails
  cases hfails

end ElectronicShop
