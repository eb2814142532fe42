import ElectronicShop.Model.Orders

/-!
# Payments

`app/modules/payments/service.py`. The gateway is a parameter: a client answers
each call as it likes, or fails.
-/

namespace ElectronicShop

open Txn

structure PaymentRequestResult where
  authority : String
  paymentUrl : String

/-- The answer to a verification; `rawResponse` is the payload as `json.dumps` writes it. -/
structure PaymentVerifyResult where
  success : Bool
  referenceId : Option String
  rawResponse : String

/-- How a gateway call fails. -/
inductive GatewayError where
  | notConfigured (message : String)
  | failed

structure ZarinPalClient where
  requestPayment (amountRial : Int) (description callbackUrl : String) :
    Except GatewayError PaymentRequestResult
  verifyPayment (amountRial : Int) (authority : String) : Except GatewayError PaymentVerifyResult

/-- `_TOMAN_TO_RIAL`. -/
def tomanToRial : Int := 10

namespace PaymentService

/-- The statuses in which an order can be paid for. -/
def payableStatuses : List OrderStatus := [.awaitingPayment, .paymentFailed]

def initPayment (zarinpal : ZarinPalClient) (callbackUrl : String) (user : User) (orderId : Uuid)
    (paymentId : Uuid) : Tx (Payment × String) := do
  let order ← orRaise (.notFound "سفارش پیدا نشد.") (← send (.getOrder orderId))
  if order.userId ≠ user.id then
    .raise (.permissionDenied "شما اجازه دسترسی به این سفارش را ندارید.")
  else if order.status ∉ payableStatuses then
    .raise (.conflict "این سفارش در وضعیتی نیست که بتوان برای آن پرداخت انجام داد.")
  else
    let payment : Payment :=
      { id := paymentId, orderId := order.id, userId := user.id, gateway := "zarinpal",
        authority := none, amount := order.total, status := .initiated, referenceId := none,
        verifiedAt := none, rawGatewayResponse := none }
    insert (.payment payment)
    match zarinpal.requestPayment (order.total * tomanToRial)
        ("پرداخت سفارش " ++ toString order.id) callbackUrl with
    | .error (.notConfigured message) => .raise (.conflict message)
    | .error .failed => .raise .gateway
    | .ok result =>
      write (.setPaymentAuthority paymentId result.authority)
      pure ({ payment with authority := some result.authority }, result.paymentUrl)

/-- What `handle_callback` does with a payment it has claimed. -/
def settle (zarinpal : ZarinPalClient) (payment : Payment) (authority gatewayStatus : String)
    (now : DateTime) : Tx Payment :=
  if gatewayStatus ≠ "OK" then do
    write (.setPaymentStatus payment.id .failed)
    let _ ← OrderService.markPaymentFailed payment.orderId now
    pure { payment with status := .failed }
  else
    match zarinpal.verifyPayment (payment.amount * tomanToRial) authority with
    | .error _ => .raise .gateway
    | .ok verifyResult =>
      if verifyResult.success then do
        write (.setPaymentResponse payment.id verifyResult.rawResponse)
        write (.setPaymentStatus payment.id .verified)
        write (.setPaymentReference payment.id verifyResult.referenceId)
        write (.setPaymentVerifiedAt payment.id now)
        let _ ← OrderService.markPaid payment.orderId now
        pure { payment with
          status := .verified, rawGatewayResponse := some verifyResult.rawResponse,
          referenceId := verifyResult.referenceId, verifiedAt := some now }
      else do
        write (.setPaymentResponse payment.id verifyResult.rawResponse)
        write (.setPaymentStatus payment.id .failed)
        let _ ← OrderService.markPaymentFailed payment.orderId now
        pure { payment with
          status := .failed, rawGatewayResponse := some verifyResult.rawResponse }

/-- `handle_callback`: the result is the payment object after it. -/
def handleCallback (zarinpal : ZarinPalClient) (authority gatewayStatus : String)
    (now : DateTime) : Tx Payment := do
  let payment ← orRaise (.notFound "تراکنش پرداخت پیدا نشد.")
    (← send (.getPaymentByAuthority authority))
  match ← send (.claimPayment payment.id .initiated .pending) with
  -- already processed: answer with the row as it is now
  | false => orRaise .internal (← send (.refreshPayment payment.id))
  | true => settle zarinpal payment authority gatewayStatus now

end PaymentService

end ElectronicShop
