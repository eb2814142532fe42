import ElectronicShop.Model.Api
import ElectronicShop.Model.Session
import ElectronicShop.Txn.Embedding

/-!
# Idempotent endpoints

`app/common/idempotency.py` and the six endpoints it guards: they take a client's
key, and their row in `idempotency_keys` shares a transaction with what they do to
the shop. That table is a second part of the database; the programs of the services
are embedded in the larger one. No code deletes a row, and `expires_at` is never
read. Parsing and hashing are third-party code and a parameter.
-/

namespace ElectronicShop

open Txn

/-! ## Responses -/

structure OrderItemPublic where
  productId : Option Uuid
  productName : String
  sku : String
  unitPrice : Int
  quantity : Nat
  subtotal : Int
  deriving DecidableEq, Repr

structure OrderPublic where
  id : Uuid
  status : OrderStatus
  subtotal : Int
  total : Int
  shippingAddress : Option ShippingAddress
  items : List OrderItemPublic
  createdAt : DateTime
  deriving DecidableEq, Repr

/-- `_serialize_order`. -/
def serializeOrder (order : Order) : OrderPublic where
  id := order.id
  status := order.status
  subtotal := order.subtotal
  total := order.total
  shippingAddress := order.shippingAddress
  items := order.items.map fun item =>
    { productId := item.productId, productName := item.productNameSnapshot,
      sku := item.skuSnapshot, unitPrice := item.unitPriceSnapshot, quantity := item.quantity,
      subtotal := item.subtotal }
  createdAt := order.createdAt

structure PaymentInitResponse where
  paymentId : Uuid
  paymentUrl : String
  deriving DecidableEq, Repr

/-- A ledger row as it is answered. The amounts here are the stored ones; the code answers with
    those of the object in memory, which are not rounded. -/
structure WalletTransactionPublic where
  type : WalletTransactionType
  amount : Int
  balanceAfter : Int
  note : Option String
  deriving DecidableEq, Repr

/-- `WalletTransactionPublic.model_validate`. -/
def WalletTransactionPublic.modelValidate (transaction : WalletTransaction) :
    WalletTransactionPublic where
  type := transaction.type
  amount := transaction.amount
  balanceAfter := transaction.balanceAfter
  note := transaction.note

/-- The JSON that a guarded endpoint answers with. -/
inductive ResponseBody where
  | cartSummary (summary : CartSummary)
  | order (order : OrderPublic)
  | paymentInit (response : PaymentInitResponse)
  | walletTransaction (transaction : WalletTransactionPublic)
  deriving DecidableEq, Repr

/-- The texts of a body. -/
def ResponseBody.texts : ResponseBody → List String
  | .cartSummary summary => summary.items.flatMap fun item => [item.name, item.slug]
  | .order o =>
    o.items.flatMap (fun item => [item.productName, item.sku]) ++
      o.shippingAddress.toList.flatMap fun a =>
        [a.recipientName, a.province, a.city, a.addressLine, a.postalCode, a.phoneNumber]
  | .paymentInit response => [response.paymentUrl]
  | .walletTransaction transaction => transaction.note.toList

/-- A `JSONB` column can hold the body. -/
def ResponseBody.fits (body : ResponseBody) : Prop := ∀ text ∈ body.texts, fitsText text

instance ResponseBody.decidableFits (body : ResponseBody) : Decidable body.fits :=
  inferInstanceAs (Decidable (∀ _ ∈ _, _))

/-- A status code and a body. -/
abbrev Response := Nat × ResponseBody

/-! ## The table of keys -/

inductive IdempotencyStatus where
  | pending
  | completed
  deriving DecidableEq, Repr

/-- The columns of `uq_idempotency_user_operation_key`. -/
abbrev Slot := Uuid × String × String

structure IdempotencyKey where
  key : String
  userId : Uuid
  operation : String
  requestHash : String
  status : IdempotencyStatus
  responseStatus : Option Nat
  responseBody : Option ResponseBody
  deriving DecidableEq, Repr

namespace IdempotencyKey

def slot (record : IdempotencyKey) : Slot := (record.userId, record.operation, record.key)

/-- The column types of `idempotency_keys`. -/
def fits (record : IdempotencyKey) : Prop :=
  fitsVarchar 255 record.key ∧ fitsVarchar 100 record.operation ∧
  fitsVarchar 64 record.requestHash ∧ ∀ body ∈ record.responseBody, body.fits

instance decidableFits (record : IdempotencyKey) : Decidable record.fits :=
  inferInstanceAs (Decidable (_ ∧ _))

/-- What `IdempotencyGuard.finish` makes of a row. -/
def finish (record : IdempotencyKey) (statusCode : Nat) (body : ResponseBody) : IdempotencyKey :=
  { record with
    status := .completed, responseStatus := some statusCode, responseBody := some body }

@[simp] theorem slot_finish (record : IdempotencyKey) (statusCode : Nat) (body : ResponseBody) :
    (record.finish statusCode body).slot = record.slot := rfl

end IdempotencyKey

/-- The shop's tables and the keys. -/
structure GuardedDb where
  db : Db
  keys : Table IdempotencyKey.slot

/-! ## Statements -/

/-- How the insert of a key ends: the row is there, its slot is taken, or a value does
    not fit its column. -/
inductive Insertion where
  | inserted
  | taken
  | refused
  deriving DecidableEq, Repr

inductive GuardStmt where
  /-- A statement of the services. -/
  | shop (s : Stmt)
  /-- `session.add` of a new key and its flush. -/
  | insertKey (record : IdempotencyKey)
  | rollback
  | getKey (slot : Slot)
  /-- A change to the key that was inserted, left to the unit of work. -/
  | finishKey (statusCode : Nat) (body : ResponseBody)

def GuardStmt.Resp : GuardStmt → Type
  | .shop s => s.Resp
  | .insertKey _ => Insertion
  | .rollback => Unit
  | .getKey _ => Option IdempotencyKey
  | .finishKey _ _ => Unit

/-- The interface of the database with its keys. -/
def guardedShop : Interface := ⟨GuardStmt, GuardStmt.Resp⟩

/-- What stops a guarded request: an error of the services, one of the guard's, or a body
    that is not what the endpoint takes. -/
inductive GuardError where
  | app (error : ShopError)
  | keyRequired (message : String)
  | keyReused (message : String)
  /-- `IdempotentReplay`: the answer is a stored one. -/
  | replay (statusCode : Nat) (body : Option ResponseBody)
  | validation
  deriving DecidableEq, Repr

abbrev GuardedTx (α : Type) : Type := Prog guardedShop GuardError α

def shopEmbedding : Embedding shop guardedShop := ⟨GuardStmt.shop, fun _ r => r⟩

/-- A program of the services. -/
def inShop {α : Type} (m : Tx α) : GuardedTx α := m.embed shopEmbedding GuardError.app

def sendGuard (s : GuardStmt) : GuardedTx s.Resp := Prog.send (I := guardedShop) s

/-! ## Sessions -/

/-- The memory of a session: that of the shop's tables, and the key it has inserted, as
    changed since. -/
structure GuardSession where
  shop : Session
  record : Option IdempotencyKey

/-- The keys as the transaction sees them. -/
def GuardSession.keys (w : GuardSession) (db : GuardedDb) : Table IdempotencyKey.slot :=
  match w.record with
  | none => db.keys
  | some record => db.keys.put record

def GuardStmt.execIn : (s : GuardStmt) → GuardSession → GuardedDb → s.Resp × GuardSession
  | .shop s, w, db => ((s.execIn w.shop db.db).1, { w with shop := (s.execIn w.shop db.db).2 })
  | .insertKey record, w, db =>
    if ¬ record.fits then (.refused, w)
    else if ((w.keys db).get record.slot).isSome then (.taken, w)
    else (.inserted, { w with record := some record })
  | .rollback, _, _ => ((), ⟨shopEngine.start, none⟩)
  | .getKey slot, w, db => ((w.keys db).get slot, w)
  | .finishKey statusCode body, w, _ =>
    ((), { w with record := w.record.map fun record => record.finish statusCode body })

/-- The locks of the shop's rows, and of the slots: an insert waits for the transaction
    that has inserted the same slot and is still open. -/
abbrev GuardLock := RowKey ⊕ Slot

def GuardStmt.needs : GuardStmt → GuardSession → GuardedDb → List GuardLock
  | .shop s, w, db => (s.needs w.shop db.db).map .inl
  | .insertKey record, w, db =>
    if record.fits ∧ ((w.keys db).get record.slot).isNone then [.inr record.slot] else []
  -- sent only by a transaction that has no lock
  | .rollback, _, _ => []
  | .getKey _, _, _ => []
  | .finishKey _ _, _, _ => []

/-- The database under concurrent transactions. -/
def guardEngine : Engine guardedShop GuardError GuardedDb GuardSession GuardLock where
  start := ⟨shopEngine.start, none⟩
  need := GuardStmt.needs
  exec := GuardStmt.execIn
  needCommit w := (shopEngine.needCommit w.shop).map .inl ++
    w.record.toList.map fun record => .inr record.slot
  commit w db :=
    if ∀ record ∈ w.record, record.fits then
      match shopEngine.commit w.shop db.db with
      | .error e => .error (.app e)
      | .ok db' => .ok ⟨db', w.keys db⟩
    else .error (.app .database)

/-! ## The guard -/

/-- `existing.response_status or 200`. -/
def replayStatus : Option Nat → Nat
  | none => 200
  | some 0 => 200
  | some statusCode => statusCode

/-- The new row of a request. -/
def pendingKey (operation : String) (userId : Uuid) (idempotencyKey requestHash : String) :
    IdempotencyKey :=
  { key := idempotencyKey, userId, operation, requestHash, status := .pending,
    responseStatus := none, responseBody := none }

/-- The error that answers a request whose slot is taken. -/
def IdempotencyKey.answer (existing : IdempotencyKey) (requestHash : String) : GuardError :=
  if existing.requestHash ≠ requestHash then
    .keyReused "این کلید یکتا قبلاً برای درخواست دیگری استفاده شده است."
  else .replay (replayStatus existing.responseStatus) existing.responseBody

/-- What follows the conflict: `scalar_one` has to find the row that holds the slot. -/
def answerTaken (requestHash : String) : Option IdempotencyKey → GuardedTx Unit
  | none => .raise (.app .internal)
  | some existing => .raise (existing.answer requestHash)

/-- What follows the insert of a row. -/
def afterInsert (record : IdempotencyKey) : Insertion → GuardedTx Unit
  | .inserted => pure ()
  | .refused => .raise (.app .database)
  | .taken => do
    sendGuard .rollback
    answerTaken record.requestHash (← sendGuard (.getKey record.slot))

/-- `idempotency_guard`. -/
def idempotencyGuard (operation : String) (userId : Uuid) (idempotencyKey : Option String)
    (requestHash : String) : GuardedTx Unit :=
  let required : GuardError :=
    .keyRequired "برای این عملیات ارسال هدر Idempotency-Key الزامی است."
  match idempotencyKey with
  | none => .raise required
  | some key =>
    if key = "" then .raise required
    else do
      let record := pendingKey operation userId key requestHash
      afterInsert record (← sendGuard (.insertKey record))

/-! ## Guarded requests -/

/-- What the framework and the standard library do with the bytes of a request: whether a
    content type says JSON, the JSON text, the validated model of each endpoint, and the
    hash, whose hexadecimal text has 64 characters. -/
structure Http where
  Json : Type
  isJson : Option String → Bool
  parse : List UInt8 → Option Json
  cartItemAdd : Json → Option CartItemAdd
  /-- `CheckoutRequest`: the shipping address. -/
  checkoutRequest : Json → Option (Option ShippingAddress)
  /-- `PaymentInitRequest`: the order. -/
  paymentInitRequest : Json → Option Uuid
  walletDepositRequest : Json → Option WalletDepositRequest
  adminWalletAdjustRequest : Json → Option AdminWalletAdjustRequest
  sha256 : List UInt8 → String
  sha256Length : ∀ bytes, fitsVarchar 64 (sha256 bytes)

/-- The decoded body, if there is one. A text that is not JSON is refused before any
    dependency of the endpoint runs. -/
def Http.json (http : Http) (contentType : Option String) (body : List UInt8) :
    Except GuardError (Option http.Json) :=
  if body = [] ∨ http.isJson contentType = false then .ok none
  else
    match http.parse body with
    | none => .error .validation
    | some json => .ok (some json)

/-- A guarded endpoint with its path parameters. -/
inductive Endpoint where
  | addCartItem
  | checkout
  | initPayment
  | depositToWallet
  | adminCreditWallet (userId : Uuid)
  | adminDebitWallet (userId : Uuid)
  deriving DecidableEq, Repr

/-- What the process draws for a request: an identifier, the time, and its gateway. -/
structure Draws where
  id : Uuid
  now : DateTime
  zarinpal : ZarinPalClient
  callbackUrl : String

namespace Endpoint

/-- The argument of `idempotency_guard`. -/
def operation : Endpoint → String
  | .addCartItem => "cart.add_item"
  | .checkout => "order.checkout"
  | .initPayment => "payment.init"
  | .depositToWallet => "wallet.deposit"
  | .adminCreditWallet _ => "wallet.admin_credit"
  | .adminDebitWallet _ => "wallet.admin_debit"

/-- The argument of `require_permission`. -/
def permission : Endpoint → Option Permission
  | .adminCreditWallet _ => some .walletManage
  | .adminDebitWallet _ => some .walletManage
  | _ => none

/-- The dependencies that come before the guard. -/
def caller (endpoint : Endpoint) (subject : Uuid) : Tx User :=
  match endpoint.permission with
  | none => getCurrentUser subject
  | some permission => authorized subject permission

/-- What the endpoint does for a caller, given its validated body. -/
def handler (http : Http) (draws : Draws) : Endpoint → http.Json → Option (User → Tx ResponseBody)
  | .addCartItem, json => (http.cartItemAdd json).map fun data user => do
    let _ ← CartService.addItem user.id data.productId data.quantity draws.id
    let summary ← CartService.getSummary user.id
    pure (.cartSummary summary)
  | .checkout, json => (http.checkoutRequest json).map fun shippingAddress user => do
    let order ← OrderService.checkout user.id shippingAddress draws.id draws.now
    pure (.order (serializeOrder order))
  | .initPayment, json => (http.paymentInitRequest json).map fun orderId user => do
    let (payment, paymentUrl) ← PaymentService.initPayment draws.zarinpal draws.callbackUrl user
      orderId draws.id
    pure (.paymentInit ⟨payment.id, paymentUrl⟩)
  | .depositToWallet, json => (http.walletDepositRequest json).map fun data user => do
    let transaction ← WalletService.deposit user.id data.amount
    pure (.walletTransaction (.modelValidate transaction))
  | .adminCreditWallet userId, json => (http.adminWalletAdjustRequest json).map fun data user => do
    let transaction ← WalletService.adminCredit userId data.amount data.reason user.id
    pure (.walletTransaction (.modelValidate transaction))
  | .adminDebitWallet userId, json => (http.adminWalletAdjustRequest json).map fun data user => do
    let transaction ← WalletService.adminDebit userId data.amount data.reason user.id
    pure (.walletTransaction (.modelValidate transaction))

end Endpoint

structure GuardedRequest where
  subject : Uuid
  endpoint : Endpoint
  idempotencyKey : Option String
  contentType : Option String
  body : List UInt8
  draws : Draws

namespace GuardedRequest

/-- What is left of the request when its body is valid. -/
def handler (http : Http) (r : GuardedRequest) : Option (User → Tx ResponseBody) :=
  match http.json r.contentType r.body with
  | .ok (some json) => r.endpoint.handler http r.draws json
  | _ => none

/-- The body of the endpoint, with the guard's `finish`. -/
def operate (http : Http) (r : GuardedRequest) (user : User) : GuardedTx Response :=
  match r.handler http with
  | none => .raise .validation
  | some operation => do
    let body ← inShop (operation user)
    sendGuard (.finishKey 201 body)
    pure (201, body)

def program (http : Http) (r : GuardedRequest) : GuardedTx Response :=
  match http.json r.contentType r.body with
  | .error e => .raise e
  | .ok _ => do
    let user ← inShop (r.endpoint.caller r.subject)
    idempotencyGuard r.endpoint.operation user.id r.idempotencyKey (http.sha256 r.body)
    r.operate http user

end GuardedRequest

/-- Whether a request is served by one of the guarded endpoints. -/
def Request.guarded : Request → Bool
  | .addCartItem .. | .checkout .. | .initPayment .. | .depositToWallet .. | .adminCreditWallet ..
  | .adminDebitWallet .. => true
  | _ => false

/-- A request to any endpoint. -/
inductive ShopRequest where
  | guarded (request : GuardedRequest)
  | unguarded (request : Request) (isUnguarded : request.guarded = false)

/-- The program of a request, with the answer of the guarded ones. -/
def ShopRequest.program (http : Http) : ShopRequest → GuardedTx (Option Response)
  | .guarded request => do
    let response ← request.program http
    pure (some response)
  | .unguarded request _ => do
    inShop request.handler
    pure none

end ElectronicShop
