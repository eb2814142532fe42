import ElectronicShop.Shop.Settlement
import Mathlib.Logic.Relation

/-!
# Paying again after a failed attempt

A customer may try to pay an order again: `init_payment` accepts one whose payment
failed. The attempts below are made one after another, between them only requests
that touch neither the order nor any stock. A retry can pay the order only while
no failed attempt has been recorded.
-/

namespace ElectronicShop

open Txn

/-! ## Requests that touch neither the order nor stock -/

/-- One request that is served and leaves stock and the order alone. -/
def Aside (orderId : Uuid) (store store' : Store) : Prop :=
  ∃ request, serve request store = .ok store' ∧ store'.db.stock = store.db.stock ∧
    store'.db.orders.get orderId = store.db.orders.get orderId

/-- Any number of them. -/
abbrev Asides (orderId : Uuid) : Store → Store → Prop := Relation.ReflTransGen (Aside orderId)

section Asides

variable {orderId : Uuid} {store store' : Store}

theorem Asides.stock (h : Asides orderId store store') : store'.db.stock = store.db.stock := by
  induction h with
  | refl => rfl
  | tail _ hstep ih =>
    obtain ⟨_, -, hstock, -⟩ := hstep
    exact hstock.trans ih

theorem Asides.order (h : Asides orderId store store') :
    store'.db.orders.get orderId = store.db.orders.get orderId := by
  induction h with
  | refl => rfl
  | tail _ hstep ih =>
    obtain ⟨_, -, -, horder⟩ := hstep
    exact horder.trans ih

/-- A payment of the order stays as it is: settling it would move the order. -/
theorem Aside.payment (h : Aside orderId store store') {payment : Payment}
    (hget : store.db.payments.get payment.id = some payment) (hof : payment.orderId = orderId) :
    store'.db.payments.get payment.id = some payment := by
  obtain ⟨request, hserve, -, horder⟩ := h
  have hkeep : store'.db.payments = store.db.payments →
      store'.db.payments.get payment.id = some payment := fun heq => heq ▸ hget
  have hput : ∀ row : Payment, store'.db.payments = store.db.payments.put row →
      payment.id ≠ row.id → store'.db.payments.get payment.id = some payment := by
    intro row heq hne
    rw [heq, Table.get_put_of_ne _ hne, hget]
  cases (serve_effect hserve).billing with
  | apart orders payments refunds => exact hkeep payments
  | placed order cart fresh status subtotal total lines orders payments refunds => exact hkeep payments
  | moved order order' found same allowed notRefunded cause orders payments refunds =>
    exact hkeep payments
  | refunded order order' refund found same allowed status cause type wallet amount reference orders
      payments refunds => exact hkeep payments
  | initiated order payment' found ofOrder amount status fresh orders payments refunds =>
    refine hput payment' payments fun heq => ?_
    rw [← heq, hget] at fresh
    cases fresh
  | settled payment' answer order order' paid claimed wasInitiated found ofOrder id sameOrder amount
      status same awaiting status' orders payments refunds =>
    refine hput answer payments fun heq => ?_
    rw [← id, ← heq, hget] at claimed
    obtain rfl := Option.some.inj claimed
    have horders : store'.db.orders = store.db.orders.put order' := orders
    have hmoved : store'.db.orders.get order.id = some order' := by
      rw [horders, ← same.id]
      exact Table.get_put_self store.db.orders order'
    rw [← hof, ofOrder, hmoved, found] at horder
    obtain rfl := Option.some.inj horder
    rw [awaiting] at status'
    cases paid <;> cases status'

theorem Asides.payment (h : Asides orderId store store') {payment : Payment}
    (hget : store.db.payments.get payment.id = some payment) (hof : payment.orderId = orderId) :
    store'.db.payments.get payment.id = some payment := by
  induction h with
  | refl => exact hget
  | tail _ hstep ih => exact hstep.payment ih hof

end Asides

/-! ## Attempts -/

/-- The state after a request, whether it is committed or fails. -/
def Store.afterwards (store : Store) (request : Request) : Store :=
  match serve request store with
  | .ok store' => store'
  | .error _ => store

theorem Store.afterwards_of_ok {store store' : Store} {request : Request}
    (h : serve request store = .ok store') : store.afterwards request = store' := by
  simp only [afterwards, h]

theorem Store.afterwards_of_fails {store : Store} {request : Request}
    (h : ∀ store', serve request store ≠ .ok store') : store.afterwards request = store := by
  unfold afterwards
  cases hserve : serve request store with
  | ok store' => exact absurd hserve (h store')
  | error e => rfl

/-- A payment attempt: the gateway, the authority it hands out, and what the callback
    says. -/
structure Attempt where
  zarinpal : ZarinPalClient
  callbackUrl : String
  paymentId : Uuid
  authority : String
  status : String
  now : DateTime

namespace Attempt

/-- The attempt is made: the payment is accepted, and afterwards the gateway reports
    back. -/
def Made (a : Attempt) (subject orderId : Uuid) (store store' : Store) : Prop :=
  ∃ s₁ s₂ s₃, Asides orderId store s₁ ∧
    serve (.initPayment a.zarinpal a.callbackUrl subject orderId a.paymentId) s₁ = .ok s₂ ∧
    (s₂.db.payments.get a.paymentId).bind Payment.authority = some a.authority ∧
    Asides orderId s₂ s₃ ∧
    store' = s₃.afterwards (.paymentCallback a.zarinpal a.authority a.status a.now)

/-- The gateway reports that an amount was not paid. -/
def Fails (a : Attempt) (amount : Int) : Prop :=
  a.status ≠ "OK" ∨ ∃ result,
    a.zarinpal.verifyPayment (amount * tomanToRial) a.authority = .ok result ∧
      result.success = false

/-- The gateway reports that an amount was paid. -/
def Succeeds (a : Attempt) (amount : Int) : Prop :=
  a.status = "OK" ∧ ∃ result,
    a.zarinpal.verifyPayment (amount * tomanToRial) a.authority = .ok result ∧
      result.success = true

/-- The columns of the payment can hold the gateway's answer. -/
def Recordable (a : Attempt) (amount : Int) : Prop :=
  a.status = "OK" → ∀ result,
    a.zarinpal.verifyPayment (amount * tomanToRial) a.authority = .ok result → result.Fits

variable {a : Attempt} {subject orderId : Uuid} {store store' : Store} {order : Order}

theorem Fails.outcome {payment : Payment} (h : a.Fails payment.amount) : ∃ answer,
    PaymentService.outcome a.zarinpal payment a.authority a.status a.now =
      some (answer, false) := by
  by_cases hstatus : a.status = "OK"
  · obtain ⟨result, hverify, hfailed⟩ := h.resolve_left (not_not.mpr hstatus)
    rw [hstatus, ← hfailed]
    exact PaymentService.outcome_verified hverify a.now
  · exact ⟨_, if_pos hstatus⟩

theorem Succeeds.outcome {payment : Payment} (h : a.Succeeds payment.amount) : ∃ answer,
    PaymentService.outcome a.zarinpal payment a.authority a.status a.now = some (answer, true) := by
  obtain ⟨hstatus, result, hverify, hsuccess⟩ := h
  rw [hstatus, ← hsuccess]
  exact PaymentService.outcome_verified hverify a.now

/-- When the gateway reports back, the payment is initiated and over the order's
    total, and order and stock are as they were. -/
theorem Made.reported (h : a.Made subject orderId store store')
    (hfound : store.db.orders.get orderId = some order) :
    ∃ (s : Store) (payment : Payment), s.db.stock = store.db.stock ∧
      s.db.orders.get orderId = some order ∧ payment ∈ s.db.payments.rows ∧
      payment.authority = some a.authority ∧ payment.status = .initiated ∧
      payment.orderId = orderId ∧ payment.amount = order.total ∧
      store' = s.afterwards (.paymentCallback a.zarinpal a.authority a.status a.now) := by
  obtain ⟨s₁, s₂, s₃, hbefore, hinit, hauthority, hafter, rfl⟩ := h
  obtain ⟨answer, hrun⟩ := Db.run_discard_ok.mp (serve_ok.mp hinit)
  obtain ⟨user, -, -, hrun⟩ := run_getCurrentUser_bind_ok.mp hrun
  obtain ⟨order', result, hfound', -, -, hfresh, -, -, hdb⟩ :=
    PaymentService.run_initPayment_ok.mp hrun
  rw [hbefore.order, hfound] at hfound'
  obtain rfl := Option.some.inj hfound'
  have hid : order.id = orderId := Table.key_of_get hfound
  have hget : s₂.db.payments.get a.paymentId =
      some (PaymentService.initiated order a.paymentId result.authority) := by
    rw [hdb]
    exact Table.get_put_self s₁.db.payments
      (PaymentService.initiated order a.paymentId result.authority)
  rw [hget] at hauthority
  refine ⟨s₃, PaymentService.initiated order a.paymentId result.authority, ?_, ?_, ?_, hauthority,
    rfl, hid, rfl, rfl⟩
  · rw [hafter.stock, hdb, ← hbefore.stock]
    rfl
  · rw [hafter.order, hdb, ← hfound, ← hbefore.order]
  · exact Table.mem_of_get (hafter.payment hget hid)

/-- An order that does not await payment is left alone. -/
theorem Made.refused (h : a.Made subject orderId store store')
    (hfound : store.db.orders.get orderId = some order) (hstatus : order.status ≠ .awaitingPayment) :
    store'.db.orders.get orderId = some order := by
  obtain ⟨s, payment, -, hfound', hmem, hauthority, hinitiated, hof, -, rfl⟩ := h.reported hfound
  rw [Store.afterwards_of_fails]
  · exact hfound'
  · intro s' hserve
    obtain ⟨_, _, order', -, hfound'', hawaiting, -, -⟩ :=
      (serve_paymentCallback_ok hmem hauthority hinitiated).mp hserve
    rw [hof, hfound'] at hfound''
    exact hstatus (Option.some.inj hfound'' ▸ hawaiting)

/-- An order that awaits payment is settled when the answer can be recorded, and left
    alone when not. -/
theorem Made.settles (h : a.Made subject orderId store store') {paid : Bool}
    (hreports : ∀ payment : Payment, payment.amount = order.total → ∃ answer,
      PaymentService.outcome a.zarinpal payment a.authority a.status a.now = some (answer, paid))
    (hfound : store.db.orders.get orderId = some order) (hawaiting : order.status = .awaitingPayment)
    (hstocked : OrderService.Stocked store.db.inventory order.items) :
    (a.Recordable order.total →
      store'.db.orders.get orderId =
        some (order.transitioned (PaymentService.settledStatus paid).1 a.now) ∧
      store'.db.stock = store.db.stock.moveAll
        (stockEntries order.id none order.items (PaymentService.settledMove paid))) ∧
    (¬ a.Recordable order.total →
      store'.db.orders.get orderId = some order ∧ store'.db.stock = store.db.stock) := by
  obtain ⟨s, payment, hstock, hfound', hmem, hauthority, hinitiated, hof, hamount, rfl⟩ :=
    h.reported hfound
  obtain ⟨answer, houtcome⟩ := hreports payment hamount
  have hfits := PaymentService.fits_of_outcome (s.valid.payments payment hmem) houtcome
  rw [hamount] at hfits
  have hinventory : s.db.inventory = store.db.inventory := congrArg Stock.rows hstock
  have hiff := serve_paymentCallback_iff hmem hauthority hinitiated houtcome (hof ▸ hfound')
    (hinventory ▸ hstocked)
  refine ⟨fun hrecordable => ?_, fun hnot => ?_⟩
  · obtain ⟨s', hserve, hdb⟩ := hiff.mpr ⟨hawaiting, hfits.mpr hrecordable⟩
    have hid : order.id = orderId := Table.key_of_get hfound
    rw [Store.afterwards_of_ok hserve, hdb, ← hstock, ← hid]
    exact ⟨Table.get_put_self s.db.orders (order.transitioned _ a.now), rfl⟩
  · rw [Store.afterwards_of_fails]
    · exact ⟨hfound', hstock⟩
    · intro s' hserve
      obtain ⟨answer', paid', order', houtcome', hfound'', -, -, hdb⟩ :=
        (serve_paymentCallback_ok hmem hauthority hinitiated).mp hserve
      cases houtcome.symm.trans houtcome'
      rw [hof, hfound'] at hfound''
      obtain rfl := Option.some.inj hfound''
      exact hnot (hfits.mp (hiff.mp ⟨s', hserve, hdb⟩).2)

end Attempt

/-- Failed attempts on an order over an amount, one after another. -/
inductive FailedAttempts (subject orderId : Uuid) (amount : Int) (store : Store) :
    List Attempt → Store → Prop where
  | nil : FailedAttempts subject orderId amount store [] store
  | snoc {attempts : List Attempt} {a : Attempt} {s s' : Store}
      (before : FailedAttempts subject orderId amount store attempts s) (fails : a.Fails amount)
      (made : a.Made subject orderId s s') :
      FailedAttempts subject orderId amount store (attempts ++ [a]) s'

/-- The run lemma: the order is as placed until an attempt is recorded, and failed
    from then on. -/
theorem FailedAttempts.order {subject orderId : Uuid} {store store' : Store} {order : Order}
    {attempts : List Attempt}
    (h : FailedAttempts subject orderId order.total store attempts store')
    (hfound : store.db.orders.get orderId = some order) (hawaiting : order.status = .awaitingPayment)
    (hstocked : OrderService.Stocked store.db.inventory order.items) :
    ((∀ a ∈ attempts, ¬ a.Recordable order.total) ∧ store'.db.orders.get orderId = some order ∧
      store'.db.stock = store.db.stock) ∨
    ((∃ a ∈ attempts, a.Recordable order.total) ∧
      ∃ o, store'.db.orders.get orderId = some o ∧ o.status = .paymentFailed) := by
  induction h with
  | nil => exact Or.inl ⟨by simp, hfound, rfl⟩
  | @snoc attempts a s s' before fails made ih =>
    rcases ih with ⟨hnone, horder, hstock⟩ | ⟨⟨a', ha', hrecorded⟩, o, ho, hfailed⟩
    · have hinventory : s.db.inventory = store.db.inventory := congrArg Stock.rows hstock
      have hreports : ∀ payment : Payment, payment.amount = order.total → ∃ answer,
          PaymentService.outcome a.zarinpal payment a.authority a.status a.now =
            some (answer, false) := fun payment hamount => (hamount ▸ fails).outcome
      have hsettles := made.settles hreports horder hawaiting (hinventory ▸ hstocked)
      by_cases hrecordable : a.Recordable order.total
      · exact Or.inr ⟨⟨a, by simp, hrecordable⟩, _, (hsettles.1 hrecordable).1, rfl⟩
      · obtain ⟨horder', hstock'⟩ := hsettles.2 hrecordable
        refine Or.inl ⟨fun b hb => ?_, horder', hstock'.trans hstock⟩
        rcases List.mem_append.mp hb with hb | hb
        · exact hnone b hb
        · rwa [List.mem_singleton.mp hb]
    · refine Or.inr ⟨⟨a', List.mem_append_left _ ha', hrecorded⟩, o, ?_, hfailed⟩
      exact made.refused ho (by rw [hfailed]; decide)

/-! ## Paying after failed attempts -/

/-- What `checkout` leaves: the order awaits payment and its items are reserved. -/
theorem placed_of_serve {store store' : Store} {subject orderId : Uuid}
    {shippingAddress : Option ShippingAddress} {now : DateTime}
    (h : serve (.checkout subject shippingAddress orderId now) store = .ok store') :
    ∃ order, store'.db.orders.get orderId = some order ∧ order.status = .awaitingPayment ∧
      store.db.stock.Reservable (stockEntries orderId (some order.userId) order.items .reserve) ∧
      store'.db.stock = store.db.stock.moveAll
        (stockEntries orderId (some order.userId) order.items .reserve) := by
  obtain ⟨answer, hrun⟩ := Db.run_discard_ok.mp (serve_ok.mp h)
  obtain ⟨user, -, -, hrun⟩ := run_getCurrentUser_bind_ok.mp hrun
  obtain ⟨items, -, -, -, -, hreservable, rfl, hdb⟩ := OrderService.run_checkout_ok.mp hrun
  rw [hdb]
  exact ⟨_, Table.get_put_self store.db.orders
    (OrderService.placedOrder user.id shippingAddress orderId now items), rfl, hreservable, rfl⟩

/-- The counters after a reservation and its purchase. -/
theorem counters_purchased {store₀ store₁ : Store} {orderId : Uuid} {actorId : Option Uuid}
    {items : List OrderItem}
    (hreservable : store₀.db.stock.Reservable (stockEntries orderId actorId items .reserve))
    (hreserved : store₁.db.stock =
      store₀.db.stock.moveAll (stockEntries orderId actorId items .reserve)) (p : Uuid) :
    let stock := store₁.db.stock.moveAll (stockEntries orderId none items .purchase)
    stock.total p = store₀.db.stock.total p - orderQuantity items p ∧
      stock.reserved p = store₀.db.stock.reserved p := by
  have hbefore := Stock.reserved_reserve
    (fun e he => (stockEntries_spec orderId actorId .reserve he).1) hreservable.covers p
  rw [quantityIn_stockEntries, ← hreserved] at hbefore
  have hkind : ∀ e ∈ stockEntries orderId none items .purchase, e.changeType = .purchase :=
    fun e he => (stockEntries_spec _ _ _ he).1
  have hquantity : ∀ e ∈ stockEntries orderId none items .purchase, 0 ≤ e.quantity :=
    fun e he => (stockEntries_spec _ _ _ he).2.2.1
  have hnonneg := store₁.valid.nonneg
  have hle := store₁.valid.reserved_le_total p
  have hfree := store₀.valid.nonneg.reserved p
  constructor
  · rw [Stock.total_purchase hnonneg hkind hquantity, quantityIn_stockEntries]
    omega
  · rw [Stock.reserved_take hnonneg (fun e he => Or.inr (hkind e he)) hquantity,
      quantityIn_stockEntries]
    omega

/-- After a checkout and any number of failed attempts, a successful one pays the
    order, takes its quantities off the stock and gives back the reservation exactly
    when none of the failed attempts was recorded and this one can be. -/
theorem retry_paid_iff {store₀ store₁ store₂ store₃ : Store} {subject orderId : Uuid}
    {shippingAddress : Option ShippingAddress} {now : DateTime} {order : Order}
    {attempts : List Attempt} {last : Attempt}
    (hcheckout : serve (.checkout subject shippingAddress orderId now) store₀ = .ok store₁)
    (horder : store₁.db.orders.get orderId = some order)
    (hfailed : FailedAttempts subject orderId order.total store₁ attempts store₂)
    (hsucceeds : last.Succeeds order.total) (hlast : last.Made subject orderId store₂ store₃) :
    ((∃ o, store₃.db.orders.get orderId = some o ∧ o.status = .paid) ∧
      ∀ p, store₃.db.stock.total p = store₀.db.stock.total p - orderQuantity order.items p ∧
        store₃.db.stock.reserved p = store₀.db.stock.reserved p) ↔
    (∀ a ∈ attempts, ¬ a.Recordable order.total) ∧ last.Recordable order.total := by
  obtain ⟨order', horder', hawaiting, hreservable, hreserved⟩ := placed_of_serve hcheckout
  obtain rfl := Option.some.inj (horder.symm.trans horder')
  have hid : order.id = orderId := Table.key_of_get horder
  have hstocked : OrderService.Stocked store₁.db.inventory order.items := by
    intro item hitem p hp
    have hsome := OrderService.stocked_of_covers hreservable.covers item hitem p hp
    rw [show store₁.db.inventory = _ from congrArg Stock.rows hreserved]
    exact (Stock.isSome_get_moveAll _ _ p).trans hsome
  rcases hfailed.order horder hawaiting hstocked with
    ⟨hnone, horder₂, hstock₂⟩ | ⟨⟨a, ha, hrecorded⟩, o, ho, hstatus⟩
  · have hreports : ∀ payment : Payment, payment.amount = order.total → ∃ answer,
        PaymentService.outcome last.zarinpal payment last.authority last.status last.now =
          some (answer, true) := fun payment hamount => (hamount ▸ hsucceeds).outcome
    have hinventory : store₂.db.inventory = store₁.db.inventory := congrArg Stock.rows hstock₂
    have hsettles := hlast.settles hreports horder₂ hawaiting (hinventory ▸ hstocked)
    constructor
    · rintro ⟨⟨o, ho, hpaid⟩, -⟩
      refine ⟨hnone, not_not.mp fun hnot => ?_⟩
      -- the callback failed, so the order still awaits payment
      rw [(hsettles.2 hnot).1] at ho
      obtain rfl := Option.some.inj ho
      rw [hawaiting] at hpaid
      cases hpaid
    · rintro ⟨-, hrecordable⟩
      obtain ⟨horder₃, hstock₃⟩ := hsettles.1 hrecordable
      refine ⟨⟨_, horder₃, rfl⟩, fun p => ?_⟩
      rw [hstock₃, hstock₂, hid]
      exact counters_purchased hreservable hreserved p
  · constructor
    · rintro ⟨⟨o', ho', hpaid⟩, -⟩
      rw [hlast.refused ho (by rw [hstatus]; decide)] at ho'
      obtain rfl := Option.some.inj ho'
      rw [hstatus] at hpaid
      cases hpaid
    · rintro ⟨hnone, -⟩
      exact absurd hrecorded (hnone a ha)

/-! ### In the small shop -/

/-- A request of the small shop that is served. -/
theorem serve_of_isOk {store : Store} {request : Request} (h : (serve request store).isOk = true) :
    serve request store = .ok (store.afterwards request) := by
  unfold Store.afterwards
  cases hserve : serve request store with
  | ok store' => rfl
  | error e =>
    rw [hserve] at h
    cases h

/-- An attempt in the small shop. -/
def attempt (authority status : String) (paymentId : Uuid) : Attempt where
  zarinpal := gateway authority true
  callbackUrl := ""
  paymentId := paymentId
  authority := authority
  status := status
  now := 0

/-- The store in which customer 1 has filled the cart, and the one with the order. -/
def filledCart : Store := smallShop.afterwards (.addCartItem 1 ⟨10, 2, two_pieces⟩ 50)

def orderPlaced : Store := filledCart.afterwards (.checkout 1 none 100 0)

/-- The store after an attempt of customer 1 on order 100. -/
def attempted (a : Attempt) (store : Store) : Store :=
  (store.afterwards (.initPayment a.zarinpal a.callbackUrl 1 100 a.paymentId)).afterwards
    (.paymentCallback a.zarinpal a.authority a.status a.now)

theorem made_attempted {a : Attempt} {s : Store}
    (hinit : (serve (.initPayment a.zarinpal a.callbackUrl 1 100 a.paymentId) s).isOk = true)
    (hauthority : ((s.afterwards (.initPayment a.zarinpal a.callbackUrl 1 100
      a.paymentId)).db.payments.get a.paymentId).bind Payment.authority = some a.authority) :
    a.Made 1 100 s (attempted a s) :=
  ⟨s, _, _, .refl, serve_of_isOk hinit, hauthority, .refl, rfl⟩

/-- The first attempt succeeds. -/
theorem retry_paid_iff_smallShop : ∃ order,
    orderPlaced.db.orders.get 100 = some order ∧
    let paid := attempted (attempt "A" "OK" 200) orderPlaced
    (((∃ o, paid.db.orders.get 100 = some o ∧ o.status = .paid) ∧
      ∀ p, paid.db.stock.total p = filledCart.db.stock.total p - orderQuantity order.items p ∧
        paid.db.stock.reserved p = filledCart.db.stock.reserved p) ↔
    (∀ a ∈ ([] : List Attempt), ¬ a.Recordable order.total) ∧
      (attempt "A" "OK" 200).Recordable order.total) := by
  have hplaced : (orderPlaced.db.orders.get 100).isSome := by decide +kernel
  obtain ⟨order, horder⟩ := Option.isSome_iff_exists.mp hplaced
  exact ⟨order, horder, retry_paid_iff (serve_of_isOk (by decide +kernel)) horder .nil
    ⟨rfl, _, rfl, rfl⟩ (made_attempted (by decide +kernel) (by decide +kernel))⟩

/-- One attempt fails; the retry is accepted and the gateway captures the money, but
    the order stays failed. -/
theorem retry_paid_fails : ∃ order store₂ store₃,
    serve (.checkout 1 none 100 0) filledCart = .ok orderPlaced ∧
    orderPlaced.db.orders.get 100 = some order ∧
    FailedAttempts 1 100 order.total orderPlaced [attempt "A" "NOK" 200] store₂ ∧
    (attempt "B" "OK" 201).Succeeds order.total ∧
    (attempt "B" "OK" 201).Made 1 100 store₂ store₃ ∧
    ¬ ∃ o, store₃.db.orders.get 100 = some o ∧ o.status = .paid := by
  have hplaced : (orderPlaced.db.orders.get 100).isSome := by decide +kernel
  obtain ⟨order, horder⟩ := Option.isSome_iff_exists.mp hplaced
  have hfirst := made_attempted (a := attempt "A" "NOK" 200) (s := orderPlaced)
    (by decide +kernel) (by decide +kernel)
  have hstatus : ∀ o ∈ (attempted (attempt "B" "OK" 201)
      (attempted (attempt "A" "NOK" 200) orderPlaced)).db.orders.get 100,
      o.status = .paymentFailed := by decide +kernel
  refine ⟨order, _, _, serve_of_isOk (by decide +kernel), horder,
    .snoc .nil (Or.inl (by decide)) hfirst, ⟨rfl, _, rfl, rfl⟩,
    made_attempted (by decide +kernel) (by decide +kernel), ?_⟩
  rintro ⟨o, ho, hpaid⟩
  rw [hstatus o ho] at hpaid
  cases hpaid

end ElectronicShop
