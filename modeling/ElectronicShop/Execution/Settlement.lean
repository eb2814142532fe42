import ElectronicShop.Execution.Requests

/-!
# When a callback is committed

A callback on a payment that is still initiated is committed exactly when the
order awaits payment and the gateway's answer fits the columns it is stored in:
everything else it writes keeps the constraints of the database.
-/

namespace ElectronicShop

open Txn

/-! ## Constraints after a settlement -/

/-- A take keeps a stock row valid. -/
theorem InventoryChangeType.valid_move {kind : InventoryChangeType}
    (htakes : kind = .release ∨ kind = .purchase) {quantity : Int} (hquantity : 0 ≤ quantity)
    {r : ProductInventory} (h : r.Valid) : (kind.move quantity r).Valid := by
  obtain ⟨htotal, hreserved, hle, hrange⟩ := h
  rcases htakes with rfl | rfl
  · refine ⟨htotal, ?_, ?_, hrange⟩ <;> simp only [InventoryChangeType.move] <;> omega
  · refine ⟨?_, ?_, ?_, ?_⟩ <;> simp only [InventoryChangeType.move] <;> omega

theorem Stock.valid_moveAll {entries : List InventoryHistory} {s : Stock}
    (htakes : ∀ e ∈ entries, e.changeType = .release ∨ e.changeType = .purchase)
    (hquantity : ∀ e ∈ entries, 0 ≤ e.quantity) (h : ∀ r ∈ s.rows.rows, r.Valid) :
    ∀ r ∈ (s.moveAll entries).rows.rows, r.Valid := by
  induction entries generalizing s with
  | nil => exact h
  | cons e rest ih =>
    rw [List.forall_mem_cons] at htakes hquantity
    refine ih htakes.2 hquantity.2 (Table.forall_rows_iff.mpr fun p r hr => ?_)
    rw [Stock.get_move] at hr
    have hvalid := Table.forall_rows_iff.mp h
    split at hr
    · obtain ⟨r₀, hr₀, rfl⟩ := Option.map_eq_some_iff.mp hr
      exact InventoryChangeType.valid_move htakes.1 hquantity.1 (hvalid p r₀ hr₀)
    · exact hvalid p r hr

/-- Every product of the items has a stock row. -/
def OrderService.Stocked (inventory : Table ProductInventory.productId) (items : List OrderItem) :
    Prop :=
  ∀ item ∈ items, ∀ p ∈ item.productId, (inventory.get p).isSome

theorem OrderService.Stocked.covers {db : Db} {items : List OrderItem}
    (h : OrderService.Stocked db.inventory items) (orderId : Uuid) (actorId : Option Uuid)
    (kind : InventoryChangeType) : db.stock.Covers (stockEntries orderId actorId items kind) := by
  intro e he
  obtain ⟨-, -, -, item, hitem, hp⟩ := stockEntries_spec _ _ _ he
  exact h item hitem e.productId hp

theorem OrderService.stocked_of_covers {db : Db} {items : List OrderItem} {orderId : Uuid}
    {actorId : Option Uuid} {kind : InventoryChangeType}
    (h : db.stock.Covers (stockEntries orderId actorId items kind)) :
    OrderService.Stocked db.inventory items := by
  intro item hitem p hp
  refine h ⟨p, kind, item.quantity, some "order", some orderId, actorId⟩ ?_
  exact List.mem_filterMap.mpr ⟨item, hitem, by rw [show item.productId = some p from hp]; rfl⟩

/-- Where authorities are unique, one finds its payment. -/
theorem Db.paymentBy_of_mem {db : Db} {payment : Payment} {authority : String}
    (hnodup : (db.payments.rows.filterMap Payment.authority).Nodup)
    (hmem : payment ∈ db.payments.rows) (hauthority : payment.authority = some authority) :
    db.paymentBy authority = some payment := by
  unfold Db.paymentBy
  revert hnodup hmem
  induction db.payments.rows with
  | nil =>
    intro _ hmem
    cases hmem
  | cons p rest ih =>
    intro hnodup hmem
    rcases List.mem_cons.mp hmem with rfl | hrest
    · simp [hauthority]
    · cases hp : p.authority with
      | none =>
        rw [List.filterMap_cons_none hp] at hnodup
        rw [List.find?_cons_of_neg (by simp [hp])]
        exact ih hnodup hrest
      | some a =>
        rw [List.filterMap_cons_some hp, List.nodup_cons] at hnodup
        have hne : a ≠ authority := by
          rintro rfl
          exact hnodup.1 (List.mem_filterMap.mpr ⟨payment, hrest, hauthority⟩)
        rw [List.find?_cons_of_neg (by simpa [hp] using hne)]
        exact ih hnodup.2 hrest

namespace PaymentService

variable {db : Db} {payment answer : Payment} {order : Order} {paid : Bool} {now : DateTime}

/-- Settling a payment keeps the constraints, when the row it stores fits. -/
theorem constraints_settledDb (hvalid : db.Constraints)
    (hget : db.payments.get payment.id = some payment) (hid : answer.id = payment.id)
    (hauthority : answer.authority = payment.authority)
    (hfound : db.orders.get order.id = some order) (hfits : answer.fits) :
    (settledDb db answer order paid now).Constraints where
  inventory := by
    refine Stock.valid_moveAll (fun e he => ?_) (fun e he => ?_) hvalid.inventory
    · rw [(stockEntries_spec _ _ _ he).1]
      exact settledMove_takes paid
    · exact (stockEntries_spec _ _ _ he).2.2.1
  products := hvalid.products
  skus := hvalid.skus
  slugs := hvalid.slugs
  orders := by
    intro o ho
    rcases Table.mem_put ho with rfl | ⟨ho, -⟩
    · exact hvalid.orders order (Table.mem_of_get hfound)
    · exact hvalid.orders o ho
  statusHistory := by
    intro e he n hn
    rcases List.mem_append.mp he with he | he
    · exact hvalid.statusHistory e he n hn
    · obtain rfl := List.mem_singleton.mp he
      obtain rfl := Option.some.inj hn
      cases paid <;> decide +kernel
  payments := by
    intro p hp
    rcases Table.mem_put hp with rfl | ⟨hp, -⟩
    · exact hfits
    · exact hvalid.payments p hp
  authorities := by
    have hrows : (db.payments.put answer).rows.filterMap Payment.authority =
        db.payments.rows.filterMap Payment.authority :=
      Table.filterMap_put Payment.authority (hid ▸ hget) hauthority
    change ((db.payments.put answer).rows.filterMap Payment.authority).Nodup
    rw [hrows]
    exact hvalid.authorities
  wallets := hvalid.wallets
  walletTransactions := hvalid.walletTransactions

end PaymentService

/-! ## The callback -/

/-- The columns of a payment can hold what is stored of a gateway's answer. -/
def PaymentVerifyResult.Fits (result : PaymentVerifyResult) : Prop :=
  (result.success = true → ∀ r ∈ result.referenceId, fitsVarchar 64 r) ∧
  fitsJsonb result.rawResponse

instance (result : PaymentVerifyResult) : Decidable result.Fits :=
  inferInstanceAs (Decidable (_ ∧ _))

section Callback

variable {store store' : Store} {zarinpal : ZarinPalClient} {authority status : String}
  {now : DateTime} {payment answer : Payment} {paid : Bool} {order : Order}

/-- A callback on an initiated payment. -/
theorem serve_paymentCallback_ok (hmem : payment ∈ store.db.payments.rows)
    (hauthority : payment.authority = some authority) (hinitiated : payment.status = .initiated) :
    serve (.paymentCallback zarinpal authority status now) store = .ok store' ↔
      ∃ answer paid order,
        PaymentService.outcome zarinpal payment authority status now = some (answer, paid) ∧
        store.db.orders.get payment.orderId = some order ∧ order.status = .awaitingPayment ∧
        store.db.stock.Covers
          (stockEntries order.id none order.items (PaymentService.settledMove paid)) ∧
        store'.db = PaymentService.settledDb store.db answer order paid now := by
  have hby : store.db.paymentBy authority = some payment := Db.paymentBy_of_mem store.valid.authorities hmem hauthority
  rw [serve_ok]
  refine Db.run_discard_ok.trans ?_
  simp only [paymentCallback, PaymentService.run_handleCallback_ok]
  constructor
  · rintro ⟨answer, payment', hby', hcases⟩
    obtain rfl := Option.some.inj (hby.symm.trans hby')
    rcases hcases with ⟨hne, -⟩ | ⟨-, paid, houtcome, order, hfound, hcovers, hallowed, hdb⟩
    · exact absurd hinitiated hne
    · exact ⟨answer, paid, order, houtcome, hfound, PaymentService.awaiting_iff.mp hallowed, hcovers,
        hdb⟩
  · rintro ⟨answer, paid, order, houtcome, hfound, hawaiting, hcovers, hdb⟩
    exact ⟨answer, payment, hby, Or.inr ⟨hinitiated, paid, houtcome, order, hfound, hcovers,
      PaymentService.awaiting_iff.mpr hawaiting, hdb⟩⟩

/-- When the gateway answers, the callback is committed exactly when the order awaits
    payment and the answer fits. -/
theorem serve_paymentCallback_iff (hmem : payment ∈ store.db.payments.rows)
    (hauthority : payment.authority = some authority) (hinitiated : payment.status = .initiated)
    (houtcome : PaymentService.outcome zarinpal payment authority status now = some (answer, paid))
    (hfound : store.db.orders.get payment.orderId = some order)
    (hstocked : OrderService.Stocked store.db.inventory order.items) :
    (∃ store', serve (.paymentCallback zarinpal authority status now) store = .ok store' ∧
      store'.db = PaymentService.settledDb store.db answer order paid now) ↔
      order.status = .awaitingPayment ∧ answer.fits := by
  simp only [serve_paymentCallback_ok hmem hauthority hinitiated]
  obtain ⟨hid, -, -, -, hauthority', -⟩ := PaymentService.outcome_some houtcome
  constructor
  · rintro ⟨store', ⟨_, _, order', -, hfound', hawaiting, -, -⟩, hdb⟩
    obtain rfl := Option.some.inj (hfound.symm.trans hfound')
    refine ⟨hawaiting, store'.valid.payments answer ?_⟩
    rw [hdb]
    exact Table.mem_of_get (Table.get_put_self store.db.payments answer)
  · rintro ⟨hawaiting, hfits⟩
    have hfound' : store.db.orders.get order.id = some order := Table.key_of_get hfound ▸ hfound
    exact ⟨⟨_, PaymentService.constraints_settledDb store.valid (Table.get_of_mem hmem) hid
      hauthority' hfound' hfits⟩, ⟨answer, paid, order, houtcome, hfound, hawaiting,
      hstocked.covers order.id none _, rfl⟩, rfl⟩

end Callback

namespace PaymentService

variable {zarinpal : ZarinPalClient} {payment answer : Payment} {paid : Bool}
  {authority status : String} {now : DateTime}

/-- The outcome when the gateway answers a verification. -/
theorem outcome_verified {result : PaymentVerifyResult}
    (hverify : zarinpal.verifyPayment (payment.amount * tomanToRial) authority = .ok result)
    (now : DateTime) :
    ∃ answer, outcome zarinpal payment authority "OK" now = some (answer, result.success) := by
  unfold outcome
  rw [if_neg (by simp), hverify]
  cases hsuccess : result.success with
  | true => exact ⟨_, if_pos hsuccess⟩
  | false => exact ⟨_, if_neg (by simp [hsuccess])⟩

/-- The row that is stored fits when the gateway's answer does. -/
theorem fits_of_outcome (hfits : payment.fits)
    (h : outcome zarinpal payment authority status now = some (answer, paid)) :
    answer.fits ↔ (status = "OK" → ∀ result,
      zarinpal.verifyPayment (payment.amount * tomanToRial) authority = .ok result →
        result.Fits) := by
  obtain ⟨hamount, hauthority, href, hraw⟩ := hfits
  unfold outcome at h
  split at h
  · rename_i hstatus
    cases h
    exact iff_of_true ⟨hamount, hauthority, href, hraw⟩ fun hok => absurd hok hstatus
  · rename_i hstatus
    rw [not_not] at hstatus
    split at h
    · cases h
    · rename_i result hverify
      have hresult : (status = "OK" → ∀ result',
          zarinpal.verifyPayment (payment.amount * tomanToRial) authority = .ok result' →
            result'.Fits) ↔ result.Fits := by
        rw [hverify]
        exact ⟨fun hall => hall hstatus result rfl, fun hone _ _ heq => by cases heq; exact hone⟩
      rw [hresult]
      split at h
      · rename_i hsuccess
        cases h
        constructor
        · rintro ⟨-, -, href', hraw'⟩
          exact ⟨fun _ => href', hraw' _ rfl⟩
        · rintro ⟨href', hraw'⟩
          exact ⟨hamount, hauthority, href' hsuccess, fun r hr => Option.some.inj hr ▸ hraw'⟩
      · rename_i hsuccess
        cases h
        constructor
        · rintro ⟨-, -, -, hraw'⟩
          exact ⟨fun hs => absurd hs hsuccess, hraw' _ rfl⟩
        · rintro ⟨-, hraw'⟩
          exact ⟨hamount, hauthority, href, fun r hr => Option.some.inj hr ▸ hraw'⟩

end PaymentService

end ElectronicShop
