import ElectronicShop.Execution.Orders
import ElectronicShop.Model.Payments

/-!
# Payment operations that run alone
-/

namespace ElectronicShop

open Txn

namespace PaymentService

variable {db db' : Db} {zarinpal : ZarinPalClient} {authority gatewayStatus : String}
  {now : DateTime}

/-- The payment row `init_payment` stores. -/
def initiated (order : Order) (paymentId : Uuid) (authority : String) : Payment where
  id := paymentId
  orderId := order.id
  userId := order.userId
  gateway := "zarinpal"
  authority := some authority
  amount := order.total
  status := .initiated
  referenceId := none
  verifiedAt := none
  rawGatewayResponse := none

theorem run_initPayment_ok {callbackUrl : String} {user : User} {orderId paymentId : Uuid}
    {answer : Payment × String} :
    db.run (initPayment zarinpal callbackUrl user orderId paymentId) = .ok (answer, db') ↔
      ∃ order result, db.orders.get orderId = some order ∧ order.userId = user.id ∧
        order.status ∈ payableStatuses ∧ db.payments.get paymentId = none ∧
        zarinpal.requestPayment (order.total * tomanToRial)
          ("پرداخت سفارش " ++ toString order.id) callbackUrl = .ok result ∧
        answer = (initiated order paymentId result.authority, result.paymentUrl) ∧
        db' = { db with
          payments := db.payments.put (initiated order paymentId result.authority) } := by
  unfold initPayment
  rw [Db.run_send_bind]
  constructor
  · intro h
    obtain ⟨order, hget, h⟩ := Db.run_orRaise_bind_ok.mp h
    split at h
    · cases h
    · rename_i howner
      rw [not_not] at howner
      split at h
      · cases h
      · rename_i hstatus
        rw [not_not] at hstatus
        obtain ⟨_, db₁, hinsert, h⟩ := Db.run_bind_ok.mp h
        obtain ⟨hfree, rfl⟩ := Db.run_insert_ok.mp hinsert
        split at h
        · cases h
        · cases h
        · rename_i result hrequest
          cases h
          refine ⟨order, result, hget, howner, hstatus, ?_, hrequest, ?_, ?_⟩
          · simpa [NewRow.taken, Stmt.exec] using hfree
          · rw [initiated, howner]
          · simp only [NewRow.insert, Stmt.exec, Write.apply]
            rw [Table.modify_put _ _ rfl rfl, initiated, howner]
  · rintro ⟨order, result, hget, howner, hstatus, hfree, hrequest, rfl, rfl⟩
    refine Db.run_orRaise_bind_ok.mpr ⟨order, hget, ?_⟩
    rw [if_neg (not_not.mpr howner), if_neg (not_not.mpr hstatus)]
    refine Db.run_bind_ok.mpr ⟨(), _, Db.run_insert_ok.mpr ⟨?_, rfl⟩, ?_⟩
    · simp [NewRow.taken, Stmt.exec, hfree]
    · simp only [hrequest, Db.run_write_bind, NewRow.insert, Write.apply, Prog.pure_eq, Db.run_done,
        Stmt.exec]
      rw [Table.modify_put _ _ rfl rfl, initiated, howner]

/-- How `handle_callback` settles a payment it has claimed: the row it stores, and
    whether the order is paid. There is no outcome when the gateway call fails. -/
def outcome (zarinpal : ZarinPalClient) (payment : Payment) (authority gatewayStatus : String)
    (now : DateTime) : Option (Payment × Bool) :=
  if gatewayStatus ≠ "OK" then
    some ({ payment with status := .failed }, false)
  else
    match zarinpal.verifyPayment (payment.amount * tomanToRial) authority with
    | .error _ => none
    | .ok result =>
      if result.success then
        some ({ payment with
          status := .verified, rawGatewayResponse := some result.rawResponse,
          referenceId := result.referenceId, verifiedAt := some now }, true)
      else
        some ({ payment with
          status := .failed, rawGatewayResponse := some result.rawResponse }, false)

/-- Settling keeps what identifies a payment, and stores its final status. -/
theorem outcome_some {payment answer : Payment} {paid : Bool}
    (h : outcome zarinpal payment authority gatewayStatus now = some (answer, paid)) :
    answer.id = payment.id ∧ answer.orderId = payment.orderId ∧ answer.userId = payment.userId ∧
    answer.amount = payment.amount ∧ answer.authority = payment.authority ∧
    answer.status = if paid then .verified else .failed := by
  unfold outcome at h
  split at h
  · cases h
    exact ⟨rfl, rfl, rfl, rfl, rfl, rfl⟩
  · split at h
    · cases h
    · split at h
      · cases h
        exact ⟨rfl, rfl, rfl, rfl, rfl, rfl⟩
      · cases h
        exact ⟨rfl, rfl, rfl, rfl, rfl, rfl⟩

/-- The status of the order after its payment is settled, with the note of the
    transition. -/
def settledStatus : Bool → OrderStatus × String
  | true => (.paid, "پرداخت با موفقیت تأیید شد.")
  | false => (.paymentFailed, "پرداخت ناموفق بود.")

/-- A payment is settled only with an order that awaits payment. -/
theorem awaiting_iff {paid : Bool} {status : OrderStatus} :
    (settledStatus paid).1 ∈ allowedTransitions status ↔ status = .awaitingPayment := by
  cases paid <;> cases status <;> simp [settledStatus, allowedTransitions]

/-- What settling does to the order's stock. -/
def settledMove : Bool → InventoryChangeType
  | true => .purchase
  | false => .release

theorem settledMove_takes (paid : Bool) :
    settledMove paid = .release ∨ settledMove paid = .purchase := by
  cases paid
  · exact Or.inl rfl
  · exact Or.inr rfl

/-- The database after a payment of `order` is settled. -/
def settledDb (db : Db) (payment : Payment) (order : Order) (paid : Bool) (now : DateTime) : Db :=
  (Db.withStock { db with payments := db.payments.put payment } (db.stock.moveAll
    (stockEntries order.id none order.items (settledMove paid)))).transitioned order
      (settledStatus paid).1 none (some (settledStatus paid).2) now

/-- The transition a settled payment causes, whether it is `mark_paid` or
    `mark_payment_failed`. -/
theorem run_settleOrder_ok {orderId : Uuid} {order' : Order} {paid : Bool} :
    db.run (if paid then OrderService.markPaid orderId now
        else OrderService.markPaymentFailed orderId now) = .ok (order', db') ↔
      ∃ order, db.orders.get orderId = some order ∧
        db.stock.Covers (stockEntries order.id none order.items (settledMove paid)) ∧
        (settledStatus paid).1 ∈ allowedTransitions order.status ∧
        order' = order.transitioned (settledStatus paid).1 now ∧
        db' = (db.withStock (db.stock.moveAll (stockEntries order.id none order.items
          (settledMove paid)))).transitioned order (settledStatus paid).1 none
            (some (settledStatus paid).2) now := by
  cases paid with
  | true => exact OrderService.run_markPaid_ok
  | false => exact OrderService.run_markPaymentFailed_ok

/-- The rest of `handle_callback` once the payment row is stored. -/
theorem run_settled_ok {answer : Payment} (payment : Payment) (orderId : Uuid) (paid : Bool) :
    Db.run { db with payments := db.payments.put payment }
        ((if paid then OrderService.markPaid orderId now
          else OrderService.markPaymentFailed orderId now) >>= fun _ => pure payment) =
        .ok (answer, db') ↔
      answer = payment ∧ ∃ order, db.orders.get orderId = some order ∧
        db.stock.Covers (stockEntries order.id none order.items (settledMove paid)) ∧
        (settledStatus paid).1 ∈ allowedTransitions order.status ∧
        db' = settledDb db payment order paid now := by
  rw [Db.run_bind_pure_ok]
  refine and_congr_right fun _ => ?_
  simp only [run_settleOrder_ok]
  constructor
  · rintro ⟨_, order, hget, hcover, hallowed, -, rfl⟩
    exact ⟨order, hget, hcover, hallowed, rfl⟩
  · rintro ⟨order, hget, hcover, hallowed, rfl⟩
    exact ⟨_, order, hget, hcover, hallowed, rfl, rfl⟩

theorem run_settle_ok {payment answer : Payment} {status : PaymentStatus}
    (hget : db.payments.get payment.id = some { payment with status }) :
    db.run (settle zarinpal payment authority gatewayStatus now) = .ok (answer, db') ↔
      ∃ paid, outcome zarinpal payment authority gatewayStatus now = some (answer, paid) ∧
        ∃ order, db.orders.get payment.orderId = some order ∧
          db.stock.Covers (stockEntries order.id none order.items (settledMove paid)) ∧
          (settledStatus paid).1 ∈ allowedTransitions order.status ∧
          db' = settledDb db answer order paid now := by
  unfold settle outcome
  split
  · rw [Db.run_write_bind]
    simp only [Write.apply, Table.modify_of_get _ hget, Option.some.injEq, Prod.mk.injEq]
    refine (run_settled_ok { payment with status := .failed } payment.orderId false).trans ?_
    constructor
    · rintro ⟨rfl, h⟩
      exact ⟨false, ⟨rfl, rfl⟩, h⟩
    · rintro ⟨_, ⟨rfl, rfl⟩, h⟩
      exact ⟨rfl, h⟩
  · cases zarinpal.verifyPayment (payment.amount * tomanToRial) authority with
    | error e => simp
    | ok result =>
      cases hsuccess : result.success with
      | true =>
        simp only [hsuccess, if_true, Db.run_write_bind, Write.apply, Table.modify_of_get _ hget,
          Option.some.injEq, Prod.mk.injEq]
        rw [Table.modify_put _ _ rfl rfl, Table.modify_put _ _ rfl rfl, Table.modify_put _ _ rfl rfl]
        refine (run_settled_ok { payment with
          status := .verified, rawGatewayResponse := some result.rawResponse,
          referenceId := result.referenceId, verifiedAt := some now } payment.orderId true).trans ?_
        constructor
        · rintro ⟨rfl, h⟩
          exact ⟨true, ⟨rfl, rfl⟩, h⟩
        · rintro ⟨_, ⟨rfl, rfl⟩, h⟩
          exact ⟨rfl, h⟩
      | false =>
        simp only [hsuccess, Bool.false_eq_true, if_false, Db.run_write_bind, Write.apply,
          Table.modify_of_get _ hget, Option.some.injEq, Prod.mk.injEq]
        rw [Table.modify_put _ _ rfl rfl]
        refine (run_settled_ok { payment with
          status := .failed, rawGatewayResponse := some result.rawResponse } payment.orderId
            false).trans ?_
        constructor
        · rintro ⟨rfl, h⟩
          exact ⟨false, ⟨rfl, rfl⟩, h⟩
        · rintro ⟨_, ⟨rfl, rfl⟩, h⟩
          exact ⟨rfl, h⟩

theorem run_handleCallback_ok {answer : Payment} :
    db.run (handleCallback zarinpal authority gatewayStatus now) = .ok (answer, db') ↔
      ∃ payment, db.paymentBy authority = some payment ∧
        (payment.status ≠ .initiated ∧ answer = payment ∧ db' = db ∨
          payment.status = .initiated ∧ ∃ paid,
            outcome zarinpal payment authority gatewayStatus now = some (answer, paid) ∧
            ∃ order, db.orders.get payment.orderId = some order ∧
              db.stock.Covers (stockEntries order.id none order.items (settledMove paid)) ∧
              (settledStatus paid).1 ∈ allowedTransitions order.status ∧
              db' = settledDb db answer order paid now) := by
  unfold handleCallback
  rw [Db.run_send_bind]
  refine Db.run_orRaise_bind_ok.trans (exists_congr fun payment => and_congr_right fun hby => ?_)
  have hget : db.payments.get payment.id = some payment := Db.get_of_paymentBy hby
  rw [Db.run_send_bind]
  simp only [Stmt.exec, hget, Option.map_some, Option.some.injEq]
  by_cases hstatus : payment.status = .initiated
  · simp only [hstatus, if_true, Write.apply, Table.modify_of_get _ hget, ne_eq, not_true_eq_false,
      false_and, false_or, true_and]
    refine (run_settle_ok (Table.get_put_self db.payments
      { payment with status := .pending })).trans ?_
    refine exists_congr fun paid => and_congr_right fun houtcome => exists_congr fun order =>
      and_congr_right fun _ => and_congr_right fun _ => and_congr_right fun _ => ?_
    have hput : (db.payments.put { payment with status := .pending }).put answer =
        db.payments.put answer := Table.put_put db.payments (outcome_some houtcome).1
    simp only [settledDb, hput]
    rfl
  · simp [hstatus, hget, eq_comm, Stmt.exec]

end PaymentService

end ElectronicShop
