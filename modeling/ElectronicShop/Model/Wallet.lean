import ElectronicShop.Model.Database

/-!
# Wallets

`app/modules/wallet/service.py`. Amounts come in as arbitrary decimals, are computed
with to 28 digits and rounded to whole numbers when they are stored; the ledger row
returned here is the stored one, where the code returns the amounts as they were before.
-/

namespace ElectronicShop

open Txn

namespace WalletService

def getOrCreate (userId : Uuid) : Tx Wallet := do
  match ← send (.getWallet userId) with
  | some wallet => pure wallet
  | none =>
    match ← send (.insertWalletIfAbsent userId) with
    | true => orRaise .internal (← send (.getWallet userId))
    | false => .raise .database

/-- `amount if type_ in CREDIT_TYPES else -amount`. -/
def signedAmount (type : WalletTransactionType) (amount : ℚ) : ℚ :=
  if type ∈ creditTypes then amount else decimal (-amount)

/-- `_apply`. -/
def apply (userId : Uuid) (type : WalletTransactionType) (amount : ℚ)
    (referenceType : Option String) (referenceId : Option Uuid) (note : Option String)
    (actorId : Option Uuid) : Tx WalletTransaction := do
  let _ ← getOrCreate userId
  let wallet ← orRaise .internal (← send (.lockWallet userId))
  let newBalance := decimal (wallet.balance + signedAmount type amount)
  if newBalance < 0 then
    .raise (.conflict "موجودی کیف پول کافی نیست.")
  else
    write (.setWalletBalance userId (numeric newBalance))
    let transaction : WalletTransaction :=
      { walletId := wallet.userId, type, amount := numeric amount,
        balanceAfter := numeric newBalance, referenceType, referenceId, note, actorId }
    write (.addWalletTransaction transaction)
    flush
    pure transaction

def deposit (userId : Uuid) (amount : ℚ) : Tx WalletTransaction :=
  apply userId .deposit amount none none (some "افزایش موجودی کیف پول") none

def refundOrder (userId : Uuid) (amount : ℚ) (orderId actorId : Uuid) : Tx WalletTransaction :=
  apply userId .refund amount (some "order") (some orderId) (some "بازپرداخت سفارش") (some actorId)

def adminCredit (userId : Uuid) (amount : ℚ) (reason : String) (actorId : Uuid) :
    Tx WalletTransaction :=
  apply userId .adminCredit amount none none (some reason) (some actorId)

def adminDebit (userId : Uuid) (amount : ℚ) (reason : String) (actorId : Uuid) :
    Tx WalletTransaction :=
  apply userId .adminDebit amount none none (some reason) (some actorId)

end WalletService

structure WalletDepositRequest where
  amount : ℚ
  amountPositive : 0 < amount

structure AdminWalletAdjustRequest where
  amount : ℚ
  reason : String
  amountPositive : 0 < amount
  reasonLength : 1 ≤ reason.length ∧ reason.length ≤ 500

end ElectronicShop
