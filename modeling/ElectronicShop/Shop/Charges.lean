import ElectronicShop.Execution.Settlement
import ElectronicShop.Shop.Refunds

/-!
# The amount charged is the amount ordered

In every run from a state without orders, an order is worth its items at the prices
they were ordered for, whatever happens to the products later, and its payments are
over that amount. What the gateway is asked for, and is sent to verify, is ten times
it: the answers of the gateway to other amounts have no part in what a request does.
-/

namespace ElectronicShop

open Txn

/-! ## Orders and their items -/

/-- The value of an order's items. -/
def Order.itemsTotal (o : Order) : Int := (o.items.map OrderItem.subtotal).sum

/-- The amounts of an order are those of its items. -/
structure Order.Itemized (o : Order) : Prop where
  subtotal : o.subtotal = o.itemsTotal
  total : o.total = o.itemsTotal
  items : ∀ item ∈ o.items, item.subtotal = item.unitPriceSnapshot * item.quantity

theorem Order.Itemized.same {o o' : Order} (h : o.Itemized) (hsame : o.Same o') : o'.Itemized := by
  obtain ⟨-, -, hitems, hsubtotal, htotal⟩ := hsame
  have hsum : o'.itemsTotal = o.itemsTotal := by
    unfold itemsTotal
    rw [hitems]
  exact ⟨by rw [hsubtotal, hsum, h.subtotal], by rw [htotal, hsum, h.total], hitems ▸ h.items⟩

/-- An item that `checkout` makes is at the price of its product. -/
theorem itemized_lines {products : Table Product.id} {cart : List CartItem} {items : List OrderItem}
    (hlines : List.Forall₂ (OrderService.IsLine products) cart items) :
    ∀ item ∈ items, item.subtotal = item.unitPriceSnapshot * item.quantity := by
  induction hlines with
  | nil =>
    intro item hitem
    cases hitem
  | cons hline _ ih =>
    intro item hitem
    rcases List.mem_cons.mp hitem with rfl | hrest
    · obtain ⟨product, -, -, rfl⟩ := hline
      rfl
    · exact ih item hrest

/-- The step lemma. -/
theorem Billing.itemized {db : Db} {request : Request} {b' : Book} (h : Billing db request b')
    (hdb : ∀ o ∈ db.orders.rows, o.Itemized) : ∀ o ∈ b'.orders.rows, o.Itemized :=
  h.forall_orders (fun _ _ hsame ho => ho.same hsame)
    (fun _ _ hsubtotal htotal hlines => ⟨hsubtotal.trans htotal, htotal, itemized_lines hlines⟩) hdb

/-- A run changes no order but in its status. -/
theorem orders_kept {store store' : Store} {requests : List Request}
    (hrun : Run serve anyStep store requests store') {id : Uuid} {o : Order}
    (ho : store.db.orders.get id = some o) :
    ∃ o', store'.db.orders.get id = some o' ∧ o.Same o' := by
  induction hrun with
  | nil => exact ⟨o, ho, .rfl⟩
  | snoc _ _ committed ih =>
    obtain ⟨o₁, ho₁, hsame₁⟩ := ih
    obtain ⟨o₂, ho₂, hsame₂⟩ := (serve_effect committed).billing.kept ho₁
    exact ⟨o₂, ho₂, hsame₁.trans hsame₂⟩

/-! ## What the gateway is told -/

/-- After the caller is known, the database is what it was. -/
theorem run_getCurrentUser_bind_congr {β : Type} {db : Db} {subject : Uuid} {f g : User → Tx β}
    (h : ∀ user, db.run (f user) = db.run (g user)) :
    db.run (getCurrentUser subject >>= f) = db.run (getCurrentUser subject >>= g) := by
  refine Prog.run_bind_congr rfl fun user db' hrun => ?_
  have hpure : db.run (getCurrentUser subject >>= pure) = .ok (user, db') :=
    Db.run_bind_ok.mpr ⟨user, db', hrun, rfl⟩
  obtain ⟨_, -, -, hsame⟩ := run_getCurrentUser_bind_ok.mp hpure
  cases hsame
  exact h user

theorem serve_congr {request request' : Request} {store : Store}
    (h : store.db.run request.handler = store.db.run request'.handler) :
    serve request store = serve request' store := by
  unfold serve Store.transact
  rw [h]

/-- To start a payment for the order, the gateway is asked for this amount and for no
    other: the request does the same with every gateway that answers alike to the amount,
    and is served only if the gateway accepts it. -/
def RequestsAmount (store : Store) (orderId : Uuid) (amountRial : Int) : Prop :=
  ∀ (zarinpal zarinpal' : ZarinPalClient) (callbackUrl : String) (subject paymentId : Uuid),
    ((∀ description, zarinpal'.requestPayment amountRial description callbackUrl =
        zarinpal.requestPayment amountRial description callbackUrl) →
      serve (.initPayment zarinpal' callbackUrl subject orderId paymentId) store =
        serve (.initPayment zarinpal callbackUrl subject orderId paymentId) store) ∧
    ∀ store', serve (.initPayment zarinpal callbackUrl subject orderId paymentId) store = .ok store' →
      ∃ description result,
        zarinpal.requestPayment amountRial description callbackUrl = .ok result

/-- A callback with the authority sends the gateway this amount to verify and no other, and
    is served as a payment only if the gateway answers. -/
def VerifiesAmount (store : Store) (payment : Payment) (authority : String) (amountRial : Int) :
    Prop :=
  ∀ (zarinpal zarinpal' : ZarinPalClient) (status : String) (now : DateTime),
    (zarinpal'.verifyPayment amountRial authority = zarinpal.verifyPayment amountRial authority →
      serve (.paymentCallback zarinpal' authority status now) store =
        serve (.paymentCallback zarinpal authority status now) store) ∧
    ∀ store', serve (.paymentCallback zarinpal authority status now) store = .ok store' →
      payment.status = .initiated → status = "OK" →
        ∃ result, zarinpal.verifyPayment amountRial authority = .ok result

namespace PaymentService

variable {db : Db} {zarinpal zarinpal' : ZarinPalClient}

theorem run_initPayment_congr {callbackUrl : String} {user : User} {orderId paymentId : Uuid}
    {order : Order} (horder : db.orders.get orderId = some order)
    (h : ∀ description, zarinpal'.requestPayment (order.total * tomanToRial) description callbackUrl =
      zarinpal.requestPayment (order.total * tomanToRial) description callbackUrl) :
    db.run (initPayment zarinpal' callbackUrl user orderId paymentId) =
      db.run (initPayment zarinpal callbackUrl user orderId paymentId) := by
  unfold initPayment
  simp only [Db.run_send_bind, Stmt.exec, horder, Db.run_orRaise_some_bind, h]

theorem run_handleCallback_congr {authority status : String} {now : DateTime} {payment : Payment}
    (hpayment : db.paymentBy authority = some payment)
    (h : zarinpal'.verifyPayment (payment.amount * tomanToRial) authority =
      zarinpal.verifyPayment (payment.amount * tomanToRial) authority) :
    db.run (handleCallback zarinpal' authority status now) =
      db.run (handleCallback zarinpal authority status now) := by
  unfold handleCallback settle
  simp only [Db.run_send_bind, Stmt.exec, hpayment, Db.run_orRaise_some_bind, h]

end PaymentService

theorem requestsAmount {store : Store} {orderId : Uuid} {order : Order}
    (horder : store.db.orders.get orderId = some order) :
    RequestsAmount store orderId (order.total * tomanToRial) := by
  intro zarinpal zarinpal' callbackUrl subject paymentId
  constructor
  · intro h
    refine serve_congr ?_
    change store.db.run (getCurrentUser subject >>= _ >>= _) =
      store.db.run (getCurrentUser subject >>= _ >>= _)
    rw [bind_assoc, bind_assoc]
    refine run_getCurrentUser_bind_congr fun user => ?_
    exact Prog.run_bind_congr (PaymentService.run_initPayment_congr horder h) fun _ _ _ => rfl
  · intro store' hserve
    obtain ⟨answer, hrun⟩ := Db.run_discard_ok.mp (serve_ok.mp hserve)
    obtain ⟨user, -, -, hrun⟩ := run_getCurrentUser_bind_ok.mp hrun
    obtain ⟨order', result, horder', -, -, -, hresult, -⟩ :=
      PaymentService.run_initPayment_ok.mp hrun
    rw [horder] at horder'
    cases horder'
    exact ⟨_, result, hresult⟩

theorem verifiesAmount {store : Store} {payment : Payment} {authority : String}
    (hpayment : store.db.paymentBy authority = some payment) :
    VerifiesAmount store payment authority (payment.amount * tomanToRial) := by
  intro zarinpal zarinpal' status now
  constructor
  · intro h
    refine serve_congr ?_
    exact Prog.run_bind_congr (PaymentService.run_handleCallback_congr hpayment h) fun _ _ _ => rfl
  · rintro store' hserve hinitiated rfl
    obtain ⟨answer, hrun⟩ := Db.run_discard_ok.mp (serve_ok.mp hserve)
    obtain ⟨payment', hpayment', hcases⟩ := PaymentService.run_handleCallback_ok.mp hrun
    rw [hpayment] at hpayment'
    cases hpayment'
    rcases hcases with ⟨hother, -⟩ | ⟨-, paid, houtcome, -⟩
    · exact absurd hinitiated hother
    · unfold PaymentService.outcome at houtcome
      cases hverify : zarinpal.verifyPayment (payment.amount * tomanToRial) authority with
      | ok result => exact ⟨result, rfl⟩
      | error e => simp [hverify] at houtcome

/-! ## The main result -/

/-- In every state reached from one without orders: every order is worth its items, each at
    its price times its quantity, and stays so; every payment is over that; and ten times
    it is what the gateway is asked for and what it verifies. -/
theorem charged_as_ordered {store₀ store : Store} {requests : List Request}
    (h₀ : NoOrders store₀.db) (hrun : Run serve anyStep store₀ requests store) :
    (∀ o ∈ store.db.orders.rows, o.subtotal = o.itemsTotal ∧ o.total = o.itemsTotal ∧
      ∀ item ∈ o.items, item.subtotal = item.unitPriceSnapshot * item.quantity) ∧
    (∀ requests' store', Run serve anyStep store requests' store' →
      ∀ id o, store.db.orders.get id = some o → ∃ o', store'.db.orders.get id = some o' ∧
        o'.items = o.items ∧ o'.subtotal = o.subtotal ∧ o'.total = o.total) ∧
    (∀ o ∈ store.db.orders.rows, RequestsAmount store o.id (10 * o.itemsTotal)) ∧
    (∀ p ∈ store.db.payments.rows, ∃ o, store.db.orders.get p.orderId = some o ∧
      p.amount = o.itemsTotal ∧ ∀ authority, p.authority = some authority →
        VerifiesAmount store p authority (10 * o.itemsTotal)) := by
  have hinv : (∀ o ∈ store.db.orders.rows, o.Itemized) ∧ Accounted store.db.book := by
    refine hrun.invariant
      (fun s => (∀ o ∈ s.db.orders.rows, o.Itemized) ∧ Accounted s.db.book) ⟨?_, h₀.accounted⟩ ?_
    · simp [h₀.orders]
    · rintro request s s' ⟨hitemized, haccounted⟩ - hserve
      have hbilling := (serve_effect hserve).billing
      exact ⟨hbilling.itemized hitemized, haccounted.billing hbilling⟩
  obtain ⟨hitemized, haccounted⟩ := hinv
  have hten : ∀ n : Int, n * tomanToRial = 10 * n := fun n => Int.mul_comm n 10
  refine ⟨?_, ?_, ?_, ?_⟩
  · intro o ho
    exact ⟨(hitemized o ho).subtotal, (hitemized o ho).total, (hitemized o ho).items⟩
  · intro requests' store' hrun' id o ho
    obtain ⟨o', ho', hsame⟩ := orders_kept hrun' ho
    exact ⟨o', ho', hsame.items, hsame.subtotal, hsame.total⟩
  · intro o ho
    rw [← (hitemized o ho).total, ← hten]
    exact requestsAmount (Table.get_of_mem ho)
  · intro p hp
    obtain ⟨o, ho, hamount⟩ := haccounted.payments p hp
    have hsum : p.amount = o.itemsTotal :=
      hamount.trans (hitemized o (Table.mem_of_get ho)).total
    refine ⟨o, ho, hsum, fun authority hauthority => ?_⟩
    rw [← hsum, ← hten]
    exact verifiesAmount (Db.paymentBy_of_mem store.valid.authorities hp hauthority)

/-- A new price. -/
def dearer : ProductUpdate :=
  { ProductUpdate.noFields with
    price := some (some 7)
    pricePositive := by
      intro p hp
      cases hp
      norm_num }

/-- The price changes after the checkout, the product is archived, and the order is paid. -/
theorem charged_as_ordered_smallShop : ∃ store,
    Run serve anyStep smallShop (buyTwo 1 100 ++ [.updateProduct 3 10 dearer,
      .archiveProduct 3 10] ++ payWith "A" "OK" true 1 100 200) store ∧
    (∀ p ∈ store.db.payments.rows, p.amount = 10) ∧
    ∀ p ∈ store.db.payments.rows, ∃ o, store.db.orders.get p.orderId = some o ∧
      p.amount = o.itemsTotal ∧ ∀ authority, p.authority = some authority →
        VerifiesAmount store p authority (10 * o.itemsTotal) := by
  have hrun : ∃ store, Run serve anyStep smallShop (buyTwo 1 100 ++ [.updateProduct 3 10 dearer,
      .archiveProduct 3 10] ++ payWith "A" "OK" true 1 100 200) store ∧
      ∀ p ∈ store.db.payments.rows, p.amount = 10 :=
    Run.exists_of_execAll (by decide +kernel)
  obtain ⟨store, hrun, hamount⟩ := hrun
  obtain ⟨-, -, -, hpayments⟩ := charged_as_ordered smallShop_noOrders hrun
  exact ⟨store, hrun, hamount, hpayments⟩

end ElectronicShop
