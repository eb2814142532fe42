import ElectronicShop.Execution.Footprint
import ElectronicShop.Execution.Requests
import Mathlib.Algebra.Order.Ring.Star
import Mathlib.Data.Rat.Star

/-!
# Balances and the wallet ledger

A wallet stores its balance next to the ledger of its transactions. The new balance,
the amount and the balance logged are rounded one by one when they are stored, so the
two agree only as long as no new balance lies half-way between two whole numbers on
the other side of its amount: `stored_iff` is the exact condition for one operation.
-/

namespace ElectronicShop

open Txn WalletService

/-! ## Rounding one operation -/

/-- The amount of a ledger row as it counts for the balance. -/
def signedEntry (type : WalletTransactionType) (amount : Int) : Int :=
  if type ∈ creditTypes then amount else -amount

/-- The new balance is not stored half-way between two whole numbers while the amount is
    rounded the other way. -/
def RoundsAlike (balance : Int) (type : WalletTransactionType) (amount : ℚ) : Prop :=
  Int.fract (decimal (balance + signedAmount type amount)) = 1 / 2 →
    (type ∈ creditTypes ↔ 1 / 2 ≤ Int.fract amount)

instance (balance : Int) (type : WalletTransactionType) (amount : ℚ) :
    Decidable (RoundsAlike balance type amount) := inferInstanceAs (Decidable (_ → _))

/-- Between a whole number and the half after it, only the half is rounded up. -/
theorem numeric_lower {d : ℚ} {m : Int} (hm : 0 ≤ d) (hlow : (m : ℚ) ≤ d) (hhigh : d ≤ m + 1 / 2) :
    (numeric d = m ↔ Int.fract d ≠ 1 / 2) ∧ (numeric d = m + 1 ↔ Int.fract d = 1 / 2) := by
  by_cases hd : d = m + 1 / 2
  · have hfract : Int.fract d = 1 / 2 := by
      rw [hd, Int.fract_intCast_add]
      norm_num
    have hnumeric : numeric d = m + 1 := by
      refine numeric_eq hm ?_ ?_
      · push_cast
        linarith
      · push_cast
        linarith
    simp [hfract, hnumeric]
  · have hlt : d < m + 1 / 2 := lt_of_le_of_ne hhigh hd
    have hfloor : ⌊d⌋ = m := Int.floor_eq_iff.mpr ⟨hlow, by linarith⟩
    have hfract : Int.fract d ≠ 1 / 2 := by
      intro heq
      have hsum := Int.floor_add_fract d
      rw [hfloor, heq] at hsum
      exact hd hsum.symm
    have hnumeric : numeric d = m := numeric_eq hm (by linarith) hlt
    exact ⟨iff_of_true hnumeric hfract, iff_of_false (by omega) hfract⟩

/-- From the half to the next whole number, everything is rounded up. -/
theorem numeric_upper {d : ℚ} {m : Int} (hm : 0 ≤ d) (hlow : (m : ℚ) + 1 / 2 ≤ d) (hhigh : d ≤ m + 1) :
    numeric d = m + 1 := by
  refine numeric_eq hm ?_ ?_
  · push_cast
    linarith
  · push_cast
    linarith

theorem numeric_of_fract {x : ℚ} (hx : 0 ≤ x) :
    numeric x = if Int.fract x < 1 / 2 then ⌊x⌋ else ⌊x⌋ + 1 := by
  have hsum := Int.floor_add_fract x
  split
  · rename_i hfract
    exact numeric_eq hx (by linarith [Int.floor_le x]) (by linarith)
  · rename_i hfract
    have hlt := Int.lt_floor_add_one x
    exact numeric_upper hx (by linarith [not_lt.mp hfract]) hlt.le

section Stored

variable {balance : Int} {amount : ℚ}

/-- Doubled bounds, for the lemmas on halves. -/
theorem abs_double_lt {m k : Int} (hlow : -10 ^ 15 ≤ m) (hhigh : m ≤ 10 ^ 15) (hk : k = 0 ∨ k = 1) :
    |2 * m + k| < 10 ^ 27 := by
  rw [abs_lt]
  omega

/-- Rounding to 28 digits stays between a whole number and the half after it. -/
theorem decimal_lower {m : Int} {x : ℚ} (hlow : -10 ^ 15 ≤ m) (hhigh : m ≤ 10 ^ 15)
    (h₁ : (m : ℚ) ≤ x) (h₂ : x ≤ m + 1 / 2) : (m : ℚ) ≤ decimal x ∧ decimal x ≤ m + 1 / 2 := by
  have h₀ := half_le_decimal (x := x) (abs_double_lt hlow hhigh (Or.inl rfl))
    (by push_cast; linarith)
  have h₁ := decimal_le_half (x := x) (abs_double_lt hlow hhigh (Or.inr rfl))
    (by push_cast; linarith)
  push_cast at h₀ h₁
  exact ⟨by linarith, by linarith⟩

theorem decimal_upper {m : Int} {x : ℚ} (hlow : -10 ^ 15 ≤ m) (hhigh : m < 10 ^ 15)
    (h₁ : (m : ℚ) + 1 / 2 ≤ x) (h₂ : x ≤ m + 1) : (m : ℚ) + 1 / 2 ≤ decimal x ∧ decimal x ≤ m + 1 := by
  have h₀ := half_le_decimal (x := x) (abs_double_lt hlow hhigh.le (Or.inr rfl))
    (by push_cast; linarith)
  have h₁ := decimal_le_half (x := x) (abs_double_lt (m := m + 1) (by omega) (by omega) (Or.inl rfl))
    (by push_cast; linarith)
  push_cast at h₀ h₁
  exact ⟨by linarith, by linarith⟩

/-- A sum that is stored in fewer than 15 digits is that small. -/
theorem lt_of_numeric_decimal_lt {x : ℚ} (h : numeric (decimal x) < 10 ^ 14) : x < 10 ^ 14 := by
  by_contra hge
  have hhalf := half_le_decimal (n := 2 * 10 ^ 14) (x := x) (by norm_num)
    (by push_cast; linarith [not_lt.mp hge])
  push_cast at hhalf
  have hle : (10 ^ 14 : Int) ≤ numeric (decimal x) :=
    le_numeric (by linarith) (by push_cast; linarith)
  omega

theorem stored_credit (hbalance : 0 ≤ balance) (hamount : 0 ≤ amount)
    (hfits : numeric (decimal (balance + amount)) < 10 ^ 14) :
    numeric (decimal (balance + amount)) = balance + numeric amount ↔
      (Int.fract (decimal (balance + amount)) = 1 / 2 → 1 / 2 ≤ Int.fract amount) := by
  have hsum : (balance : ℚ) + amount < 10 ^ 14 := lt_of_numeric_decimal_lt hfits
  have hbalanceQ : (0 : ℚ) ≤ balance := by exact_mod_cast hbalance
  have hparts := Int.floor_add_fract amount
  have hfloor : 0 ≤ ⌊amount⌋ := Int.floor_nonneg.mpr hamount
  have hnonneg : 0 ≤ decimal (balance + amount) := decimal_nonneg_iff.mpr (by linarith)
  have hsmall : balance + ⌊amount⌋ < 10 ^ 14 := by
    have : (balance : ℚ) + ⌊amount⌋ < 10 ^ 14 := by linarith [Int.fract_nonneg amount]
    exact_mod_cast this
  have hround := numeric_of_fract hamount
  split at hround
  · rename_i hfract
    obtain ⟨hlow, hhigh⟩ := decimal_lower (m := balance + ⌊amount⌋) (x := balance + amount)
      (by omega) (by omega) (by push_cast; linarith [Int.fract_nonneg amount]) (by push_cast; linarith)
    rw [hround, (numeric_lower hnonneg hlow hhigh).1]
    exact ⟨fun h heq => absurd heq h, fun h heq => absurd (h heq) (not_le.mpr hfract)⟩
  · rename_i hfract
    obtain ⟨hlow, hhigh⟩ := decimal_upper (m := balance + ⌊amount⌋) (x := balance + amount)
      (by omega) (by omega) (by push_cast; linarith [not_lt.mp hfract])
      (by push_cast; linarith [Int.fract_lt_one amount])
    have hstored := numeric_upper hnonneg hlow hhigh
    exact iff_of_true (by omega) fun _ => not_lt.mp hfract

theorem stored_debit (hfits : balance < 10 ^ 14) (hamount : 0 ≤ amount)
    (hnonneg : 0 ≤ decimal (balance + decimal (-amount))) :
    numeric (decimal (balance + decimal (-amount))) = balance - numeric amount ↔
      (Int.fract (decimal (balance + decimal (-amount))) = 1 / 2 → Int.fract amount < 1 / 2) := by
  rw [decimal_neg, ← sub_eq_add_neg] at hnonneg ⊢
  have hcovered : decimal amount ≤ balance := by linarith [decimal_nonneg_iff.mp hnonneg]
  have hbalance : (balance : ℚ) < 10 ^ 14 := by exact_mod_cast hfits
  have hlarge : amount < 10 ^ 14 := by
    by_contra hge
    have hhalf := half_le_decimal (n := 2 * 10 ^ 14) (x := amount) (by norm_num)
      (by push_cast; linarith [not_lt.mp hge])
    push_cast at hhalf
    linarith
  have hparts := Int.floor_add_fract amount
  have hfloor : 0 ≤ ⌊amount⌋ := Int.floor_nonneg.mpr hamount
  have hsmall : ⌊amount⌋ < 10 ^ 14 := by
    have : (⌊amount⌋ : ℚ) < 10 ^ 14 := by linarith [Int.fract_nonneg amount]
    exact_mod_cast this
  have hround := numeric_of_fract hamount
  split at hround
  · rename_i hfract
    obtain ⟨hlow, hhigh⟩ := decimal_lower (m := ⌊amount⌋) (x := amount) (by omega) (by omega)
      (by linarith [Int.fract_nonneg amount]) (by linarith)
    have hfloorle : ⌊amount⌋ ≤ balance := by
      have : (⌊amount⌋ : ℚ) ≤ balance := by linarith
      exact_mod_cast this
    obtain ⟨hlow', hhigh'⟩ := decimal_upper (m := balance - ⌊amount⌋ - 1)
      (x := balance - decimal amount) (by omega) (by omega) (by push_cast; linarith)
      (by push_cast; linarith)
    have hstored := numeric_upper hnonneg hlow' hhigh'
    exact iff_of_true (by omega) fun _ => hfract
  · rename_i hfract
    obtain ⟨hlow, hhigh⟩ := decimal_upper (m := ⌊amount⌋) (x := amount) (by omega) (by omega)
      (by linarith [not_lt.mp hfract]) (by linarith [Int.fract_lt_one amount])
    have hfloorle : ⌊amount⌋ ≤ balance := by
      have : (⌊amount⌋ : ℚ) ≤ balance := by linarith
      exact_mod_cast this
    obtain ⟨hlow', hhigh'⟩ := decimal_lower (m := balance - ⌊amount⌋ - 1)
      (x := balance - decimal amount) (by omega) (by omega) (by push_cast; linarith)
      (by push_cast; linarith)
    have hstored := (numeric_lower hnonneg hlow' hhigh').1
    rw [hround, show balance - (⌊amount⌋ + 1) = balance - ⌊amount⌋ - 1 by ring, hstored]
    exact ⟨fun h heq => absurd heq h, fun h heq => absurd (h heq) hfract⟩

theorem stored_iff {type : WalletTransactionType} (hbalance : 0 ≤ balance)
    (hsmall : balance < 10 ^ 14) (hamount : 0 ≤ amount)
    (hnonneg : 0 ≤ decimal (balance + signedAmount type amount))
    (hfits : numeric (decimal (balance + signedAmount type amount)) < 10 ^ 14) :
    numeric (decimal (balance + signedAmount type amount)) =
        balance + signedEntry type (numeric amount) ↔ RoundsAlike balance type amount := by
  unfold RoundsAlike signedAmount signedEntry at *
  by_cases hcredit : type ∈ creditTypes
  · simp only [hcredit, if_true, true_iff] at hfits ⊢
    exact stored_credit hbalance hamount hfits
  · simp only [hcredit, if_false, false_iff, not_le] at hnonneg ⊢
    rw [← sub_eq_add_neg]
    exact stored_debit hsmall hamount hnonneg

/-- Of an amount with at most 13 decimals only a debit that ends in ½ is rounded the
    other way. -/
theorem roundsAlike_iff_of_decimals (type : WalletTransactionType) (hbalance : |balance| < 10 ^ 14)
    (hsmall : |amount| < 10 ^ 14) (hdecimals : ∃ z : Int, amount * 10 ^ 13 = z) :
    RoundsAlike balance type amount ↔ (type ∉ creditTypes → Int.fract amount ≠ 1 / 2) := by
  obtain ⟨z, hz⟩ := hdecimals
  have hbalanceQ : |(balance : ℚ)| < 10 ^ 14 := by exact_mod_cast hbalance
  have hexact : ∀ x : ℚ, ∀ n : Int, x * 10 ^ 13 = n → |x| < 2 * 10 ^ 14 → decimal x = x := by
    intro x n hx hlt
    have hshort : Numeric.Short 28 13 x := ⟨⟨n, hx⟩, hlt.trans (by norm_num)⟩
    exact Numeric.roundDigits_of_short (by norm_num) hshort
  have hamount : decimal (-amount) = -amount :=
    hexact (-amount) (-z) (by push_cast; linarith) (by rw [abs_neg]; linarith)
  rw [abs_lt] at hbalanceQ hsmall
  unfold RoundsAlike signedAmount
  by_cases hcredit : type ∈ creditTypes
  · have hsum : decimal (balance + amount) = balance + amount :=
      hexact _ (balance * 10 ^ 13 + z) (by push_cast; linarith)
        (abs_lt.mpr ⟨by linarith, by linarith⟩)
    simp only [hcredit, if_true, hsum, Int.fract_intCast_add, true_iff, not_true_eq_false,
      false_implies, iff_true]
    exact fun h => h.ge
  · have hsum : decimal (balance + -amount) = balance + -amount :=
      hexact _ (balance * 10 ^ 13 - z) (by push_cast; linarith)
        (abs_lt.mpr ⟨by linarith, by linarith⟩)
    have hneg : Int.fract (-amount) = 1 / 2 ↔ Int.fract amount = 1 / 2 := by
      by_cases hint : Int.fract amount = 0
      · have hint' := Int.fract_neg_eq_zero.mpr hint
        rw [hint, hint']
      · rw [Int.fract_neg hint]
        constructor
        · intro h
          linarith
        · intro h
          linarith
    simp only [hcredit, if_false, hamount, hsum, Int.fract_intCast_add, false_iff, not_le,
      not_false_eq_true, true_implies, hneg]
    exact ⟨fun h heq => absurd (h heq) heq.ge.not_gt, fun h heq => absurd heq h⟩

/-- Whole amounts are not rounded. -/
theorem decimal_add_intCast (type : WalletTransactionType) {n : Int} (hbalance : |balance| < 10 ^ 25)
    (hn : |n| < 10 ^ 25) :
    decimal (balance + signedAmount type n) = ((balance + signedEntry type n : Int) : ℚ) := by
  have hsigned : signedAmount type n = signedEntry type n := by
    unfold signedAmount signedEntry
    split
    · rfl
    · rw [← Int.cast_neg]
      exact decimal_intCast (by rw [abs_neg]; omega)
  have hentry : |signedEntry type n| < 10 ^ 25 := by
    unfold signedEntry
    split
    · exact hn
    · rwa [abs_neg]
  rw [hsigned, ← Int.cast_add]
  refine decimal_intCast ?_
  rw [abs_lt] at hbalance hentry ⊢
  omega

theorem roundsAlike_intCast (type : WalletTransactionType) {n : Int} (hbalance : |balance| < 10 ^ 25)
    (hn : |n| < 10 ^ 25) : RoundsAlike balance type n := by
  intro hhalf
  rw [decimal_add_intCast type hbalance hn, Int.fract_intCast] at hhalf
  norm_num at hhalf

end Stored

/-! ## The law of the ledger -/

/-- What the ledger adds up to for a user: credits count positive, debits negative. -/
def ledgerSum (ledger : List WalletTransaction) (userId : Uuid) : Int :=
  (ledger.map fun t => if t.walletId = userId then signedEntry t.type t.amount else 0).sum

theorem ledgerSum_append (ledger entries : List WalletTransaction) (userId : Uuid) :
    ledgerSum (ledger ++ entries) userId = ledgerSum ledger userId + ledgerSum entries userId := by
  simp [ledgerSum]

theorem ledgerSum_singleton (t : WalletTransaction) (userId : Uuid) :
    ledgerSum [t] userId = if t.walletId = userId then signedEntry t.type t.amount else 0 := by
  simp [ledgerSum]

/-- The balances are what the ledger adds up to, in each of its rows too. -/
structure Db.Reconciled (db : Db) : Prop where
  nonneg : ∀ u, 0 ≤ db.balance u
  balance : ∀ u, db.balance u = ledgerSum db.walletTransactions u
  running : ∀ before t after, db.walletTransactions = before ++ t :: after →
    t.balanceAfter = ledgerSum (before ++ [t]) t.walletId

theorem Db.Reconciled.of_empty {db : Db} (hwallets : db.wallets = ∅)
    (hledger : db.walletTransactions = []) : db.Reconciled := by
  have hbalance : ∀ u, db.balance u = 0 := by
    intro u
    rw [Db.balance, hwallets]
    rfl
  refine ⟨fun u => (hbalance u).ge, fun u => ?_, fun before t after h => ?_⟩
  · rw [hbalance, hledger]
    rfl
  · simp [hledger] at h

/-- A wallet operation: one more ledger row, and its balance stored. -/
structure Adjusted (db : Db) (userId : Uuid) (type : WalletTransactionType) (amount : ℚ) (db' : Db) :
    Prop where
  nonneg : 0 ≤ decimal (db.balance userId + signedAmount type amount)
  balance : ∀ u, db'.balance u = if u = userId then
    numeric (decimal (db.balance userId + signedAmount type amount)) else db.balance u
  ledger : ∃ t : WalletTransaction, t.walletId = userId ∧ t.type = type ∧
    t.amount = numeric amount ∧
    t.balanceAfter = numeric (decimal (db.balance userId + signedAmount type amount)) ∧
    db'.walletTransactions = db.walletTransactions ++ [t]

namespace Adjusted

variable {db db' : Db} {userId : Uuid} {type : WalletTransactionType} {amount : ℚ}

/-- The law survives exactly when the stored balance moves by the stored amount. -/
theorem reconciled_iff (h : Adjusted db userId type amount db') (hdb : db.Reconciled) :
    db'.Reconciled ↔ numeric (decimal (db.balance userId + signedAmount type amount)) =
      db.balance userId + signedEntry type (numeric amount) := by
  obtain ⟨t, hwallet, htype, hamount, hafter, hledger⟩ := h.ledger
  have hsum : ∀ u, ledgerSum db'.walletTransactions u =
      db.balance u + if userId = u then signedEntry type (numeric amount) else 0 := by
    intro u
    rw [hledger, ledgerSum_append, ledgerSum_singleton, hwallet, htype, hamount, hdb.balance u]
  constructor
  · intro hdb'
    have hbalance := hdb'.balance userId
    rw [h.balance, hsum, if_pos rfl, if_pos rfl] at hbalance
    exact hbalance
  · intro hstored
    refine ⟨fun u => ?_, fun u => ?_, fun before t' after hsplit => ?_⟩
    · rw [h.balance]
      split
      · exact numeric_nonneg h.nonneg
      · exact hdb.nonneg u
    · rw [h.balance, hsum]
      by_cases hu : u = userId
      · rw [if_pos hu, if_pos hu.symm, hstored, hu]
      · rw [if_neg hu, if_neg (Ne.symm hu), add_zero]
    · -- the row is an old one, or the new one
      rcases List.eq_nil_or_concat' after with rfl | ⟨rest, last, rfl⟩
      · rw [hledger] at hsplit
        obtain ⟨rfl, hlast⟩ := List.append_inj' hsplit rfl
        obtain rfl : t = t' := by simpa using hlast
        rw [← hledger, hwallet, hsum, if_pos rfl, hafter, hstored]
      · rw [hledger, ← List.cons_append, ← List.append_assoc] at hsplit
        exact hdb.running before t' rest (List.append_inj' hsplit rfl).1

end Adjusted

/-! ## Requests -/

/-- The wallet operation of a request. -/
def Request.adjustment (db : Db) : Request → Option (Uuid × WalletTransactionType × ℚ)
  | .depositToWallet subject data => some (subject, .deposit, data.amount)
  | .adminCreditWallet _ userId data => some (userId, .adminCredit, data.amount)
  | .adminDebitWallet _ userId data => some (userId, .adminDebit, data.amount)
  | .updateOrderStatus _ orderId data _ =>
    if data.newStatus = .refunded then
      (db.orders.get orderId).map fun order => (order.userId, .refund, (order.total : ℚ))
    else none
  | _ => none

/-- The guard of the law: the operation rounds the new balance as it does the amount. -/
def Request.RoundsAlike (store : Store) (request : Request) : Prop :=
  ∀ op ∈ request.adjustment store.db,
    ElectronicShop.RoundsAlike (store.db.balance op.1) op.2.1 op.2.2

instance (store : Store) (request : Request) : Decidable (request.RoundsAlike store) :=
  inferInstanceAs (Decidable (∀ op ∈ request.adjustment store.db, _))

/-- Balances and ledger stay as they are. -/
structure Unadjusted (db db' : Db) : Prop where
  balance : ∀ u, db'.balance u = db.balance u
  ledger : db'.walletTransactions = db.walletTransactions

theorem Unadjusted.reconciled_iff {db db' : Db} (h : Unadjusted db db') :
    db'.Reconciled ↔ db.Reconciled := by
  constructor
  · rintro ⟨hnonneg, hbalance, hrunning⟩
    simp only [h.balance, h.ledger] at hnonneg hbalance hrunning
    exact ⟨hnonneg, hbalance, hrunning⟩
  · rintro ⟨hnonneg, hbalance, hrunning⟩
    refine ⟨?_, ?_, ?_⟩ <;> simp only [h.balance, h.ledger]
    · exact hnonneg
    · exact hbalance
    · exact hrunning

section Runs

variable {db db' : Db} {userId : Uuid}

theorem Db.balance_put (db : Db) {w : Wallet} (h : db'.wallets = db.wallets.put w) (u : Uuid) :
    db'.balance u = if u = w.userId then w.balance else db.balance u := by
  rw [Db.balance, h]
  split
  · rename_i hu
    rw [hu, Table.get_put_self]
    rfl
  · rename_i hu
    rw [Table.get_put_of_ne _ hu]
    rfl

theorem unadjusted_of_getOrCreate {wallet : Wallet}
    (h : db.run (getOrCreate userId) = .ok (wallet, db')) : Unadjusted db db' := by
  obtain ⟨hkey, rfl, hwallet⟩ := run_getOrCreate_ok h
  refine ⟨fun u => ?_, rfl⟩
  rw [Db.balance_put _ rfl, Db.balance]
  split
  · rename_i hu
    rw [hu, hkey]
    rcases hwallet with hget | ⟨hget, hzero⟩
    · simp [hget]
    · simp [hget, hzero]
  · rfl

theorem adjusted_of_apply {type : WalletTransactionType} {amount : ℚ}
    {referenceType : Option String} {referenceId : Option Uuid} {note : Option String}
    {actorId : Option Uuid} {t : WalletTransaction}
    (h : db.run (apply userId type amount referenceType referenceId note actorId) = .ok (t, db')) :
    Adjusted db userId type amount db' := by
  obtain ⟨hnonneg, rfl, rfl⟩ := run_apply_ok h
  refine ⟨hnonneg, fun u => ?_, _, rfl, rfl, rfl, rfl, rfl⟩
  rw [Db.balance_put db rfl u]
  rfl

end Runs

/-- What a request that is served does to balances and ledger. -/
theorem serve_adjustment {request : Request} {store store' : Store}
    (h : serve request store = .ok store') :
    (request.adjustment store.db = none ∧ Unadjusted store.db store'.db) ∨
      ∃ u type amount, request.adjustment store.db = some (u, type, amount) ∧
        Adjusted store.db u type amount store'.db := by
  rw [serve_ok] at h
  have hframe : TableName.wallets ∉ request.tables →
      TableName.walletTransactions ∉ request.tables → Unadjusted store.db store'.db := by
    intro hwallets hledger
    have hsame : store'.db.wallets = store.db.wallets := (within_handler request).same_run h hwallets
    refine ⟨fun u => ?_, (within_handler request).same_run h hledger⟩
    rw [Db.balance, Db.balance, hsame]
  cases request with
  | depositToWallet subject data =>
    obtain ⟨t, hrun⟩ := Db.run_discard_ok.mp h
    obtain ⟨user, huser, -, hdeposit⟩ := run_getCurrentUser_bind_ok.mp hrun
    obtain rfl : user.id = subject := Table.key_of_get huser
    exact Or.inr ⟨_, _, _, rfl, adjusted_of_apply hdeposit⟩
  | adminCreditWallet subject userId data =>
    obtain ⟨t, hrun⟩ := Db.run_discard_ok.mp h
    obtain ⟨user, -, -, -, hrun⟩ := run_authorized_bind_ok.mp hrun
    exact Or.inr ⟨_, _, _, rfl, adjusted_of_apply hrun⟩
  | adminDebitWallet subject userId data =>
    obtain ⟨t, hrun⟩ := Db.run_discard_ok.mp h
    obtain ⟨user, -, -, -, hrun⟩ := run_authorized_bind_ok.mp hrun
    exact Or.inr ⟨_, _, _, rfl, adjusted_of_apply hrun⟩
  | updateOrderStatus subject orderId data now =>
    obtain ⟨order', hrun⟩ := Db.run_discard_ok.mp h
    obtain ⟨user, -, -, -, hrun⟩ := run_authorized_bind_ok.mp hrun
    obtain ⟨order₁, db₁, hadmin, hrest⟩ := Db.run_bind_ok.mp hrun
    obtain ⟨order, hfound, -, rfl, rfl⟩ := OrderService.run_adminUpdateStatus_ok.mp hadmin
    obtain ⟨_, db₂, hrefund, hdone⟩ := Db.run_bind_ok.mp hrest
    cases hdone
    unfold refundIfRefunded at hrefund
    split at hrefund
    · rename_i hstatus
      obtain ⟨t, db₃, happly, hdone⟩ := Db.run_bind_ok.mp hrefund
      cases hdone
      have hstatus' : data.newStatus = .refunded := hstatus
      refine Or.inr ⟨order.userId, .refund, order.total, ?_, ?_⟩
      · simp [Request.adjustment, hstatus', hfound]
      · obtain ⟨hnonneg, hbalance, hledger⟩ := adjusted_of_apply happly
        exact ⟨hnonneg, hbalance, hledger⟩
    · rename_i hstatus
      have hstatus' : data.newStatus ≠ .refunded := hstatus
      have hdb := (Prod.mk.inj (Except.ok.inj hrefund)).2
      refine Or.inl ⟨by simp [Request.adjustment, hstatus'], fun _ => ?_, ?_⟩
      · rw [← hdb]
        rfl
      · rw [← hdb]
        rfl
  | getMyWallet subject =>
    obtain ⟨wallet, hrun⟩ := Db.run_discard_ok.mp h
    obtain ⟨user, -, -, hrun⟩ := run_getCurrentUser_bind_ok.mp hrun
    exact Or.inl ⟨rfl, unadjusted_of_getOrCreate hrun⟩
  | adminGetWallet subject userId =>
    obtain ⟨wallet, hrun⟩ := Db.run_discard_ok.mp h
    obtain ⟨user, -, -, -, hrun⟩ := run_authorized_bind_ok.mp hrun
    exact Or.inl ⟨rfl, unadjusted_of_getOrCreate hrun⟩
  | _ => exact Or.inl ⟨rfl, hframe (by simp [Request.tables]) (by simp [Request.tables])⟩

theorem Store.abs_balance_lt (store : Store) (u : Uuid) : |store.db.balance u| < 10 ^ 14 := by
  unfold Db.balance
  cases hget : store.db.wallets.get u with
  | none => norm_num
  | some w =>
    have hfits : w.balance.natAbs < 10 ^ 14 := store.valid.wallets w (Table.mem_of_get hget)
    simp only [Option.map_some, Option.getD_some]
    rw [Int.abs_eq_natAbs]
    exact_mod_cast hfits

/-- A refund is of the total of an order. -/
theorem adjustment_refund {store : Store} {subject orderId u : Uuid}
    {data : OrderStatusUpdateRequest} {now : DateTime} {type : WalletTransactionType} {amount : ℚ}
    (h : (Request.updateOrderStatus subject orderId data now).adjustment store.db =
      some (u, type, amount)) : ∃ n : Int, amount = n ∧ |n| < 10 ^ 14 := by
  simp only [Request.adjustment] at h
  split at h
  · obtain ⟨order, hget, heq⟩ := Option.map_eq_some_iff.mp h
    cases heq
    have hfits : order.total.natAbs < 10 ^ 14 := (store.valid.orders order (Table.mem_of_get hget)).2.1
    refine ⟨order.total, rfl, ?_⟩
    rw [Int.abs_eq_natAbs]
    exact_mod_cast hfits
  · cases h

/-- An amount is not negative, or it is the total of an order. -/
theorem adjustment_amount {request : Request} {store : Store} {u : Uuid}
    {type : WalletTransactionType} {amount : ℚ}
    (h : request.adjustment store.db = some (u, type, amount)) :
    0 ≤ amount ∨ ∃ n : Int, amount = n ∧ |n| < 10 ^ 14 := by
  cases request with
  | depositToWallet subject data =>
    cases h
    exact Or.inl data.amountPositive.le
  | adminCreditWallet subject userId data =>
    cases h
    exact Or.inl data.amountPositive.le
  | adminDebitWallet subject userId data =>
    cases h
    exact Or.inl data.amountPositive.le
  | updateOrderStatus subject orderId data now => exact Or.inr (adjustment_refund h)
  | _ => cases h

/-- One request keeps the law exactly when it rounds alike. -/
theorem serve_reconciled_iff {request : Request} {store store' : Store}
    (hstore : store.db.Reconciled) (h : serve request store = .ok store') :
    store'.db.Reconciled ↔ request.RoundsAlike store := by
  rcases serve_adjustment h with ⟨hnone, hkept⟩ | ⟨u, type, amount, hop, hadjusted⟩
  · have halike : request.RoundsAlike store := by
      simp [Request.RoundsAlike, hnone]
    exact iff_of_true (hkept.reconciled_iff.mpr hstore) halike
  · have halike : request.RoundsAlike store ↔ RoundsAlike (store.db.balance u) type amount := by
      simp [Request.RoundsAlike, hop]
    rw [halike, hadjusted.reconciled_iff hstore]
    have hbalance := store.abs_balance_lt u
    rcases adjustment_amount hop with hamount | ⟨n, rfl, hn⟩
    · refine stored_iff (hstore.nonneg u) (abs_lt.mp hbalance).2 hamount hadjusted.nonneg ?_
      have hafter := (abs_lt.mp (store'.abs_balance_lt u)).2
      rwa [hadjusted.balance, if_pos rfl] at hafter
    · have hlarge : (10 : Int) ^ 14 < 10 ^ 25 := by norm_num
      refine iff_of_true ?_ (roundsAlike_intCast type (hbalance.trans hlarge) (hn.trans hlarge))
      rw [decimal_add_intCast type (hbalance.trans hlarge) (hn.trans hlarge), numeric_intCast,
        numeric_intCast]

/-- In every run whose wallet operations round alike the balances are what the ledger
    adds up to, and in a state of such a run no other operation keeps that. -/
theorem balances_reconciled {start : Store} (h₀ : start.db.Reconciled) {requests : List Request}
    {store : Store}
    (h : Run serve (fun store request => request.RoundsAlike store) start requests store) :
    store.db.Reconciled ∧
      ∀ request store', serve request store = .ok store' →
        (store'.db.Reconciled ↔ request.RoundsAlike store) := by
  have hstore : store.db.Reconciled :=
    h.invariant (fun store => store.db.Reconciled) h₀ fun request s s' hs halike hserve =>
      (serve_reconciled_iff hs hserve).mpr halike
  exact ⟨hstore, fun request store' hserve => serve_reconciled_iff hstore hserve⟩

/-- At most 13 decimals, and not too many digits before them. -/
def ShortAmount (amount : ℚ) : Prop := |amount| < 10 ^ 14 ∧ ∃ z : Int, amount * 10 ^ 13 = z

/-- The amounts are short, and no debit ends in ½. -/
def Request.ShortAmounts : Request → Prop
  | .depositToWallet _ data => ShortAmount data.amount
  | .adminCreditWallet _ _ data => ShortAmount data.amount
  | .adminDebitWallet _ _ data => ShortAmount data.amount ∧ Int.fract data.amount ≠ 1 / 2
  | _ => True

/-- What is credited rounds alike. -/
theorem ShortAmount.roundsAlike_credit {balance : Int} {type : WalletTransactionType} {amount : ℚ}
    (h : ShortAmount amount) (hbalance : |balance| < 10 ^ 14) (hcredit : type ∈ creditTypes) :
    RoundsAlike balance type amount :=
  (roundsAlike_iff_of_decimals type hbalance h.1 h.2).mpr fun hdebit => absurd hcredit hdebit

/-- Such a request rounds alike on every balance. -/
theorem Request.ShortAmounts.roundsAlike {request : Request} (h : request.ShortAmounts) (store : Store) :
    request.RoundsAlike store := by
  rintro ⟨u, type, amount⟩ hop
  have hbalance := store.abs_balance_lt u
  cases request with
  | depositToWallet subject data =>
    cases hop
    have hcredit : WalletTransactionType.deposit ∈ creditTypes := by decide
    exact ShortAmount.roundsAlike_credit h hbalance hcredit
  | adminCreditWallet subject userId data =>
    cases hop
    have hcredit : WalletTransactionType.adminCredit ∈ creditTypes := by decide
    exact ShortAmount.roundsAlike_credit h hbalance hcredit
  | adminDebitWallet subject userId data =>
    cases hop
    exact (roundsAlike_iff_of_decimals _ hbalance h.1.1 h.1.2).mpr fun _ => h.2
  | updateOrderStatus subject orderId data now =>
    have hlarge : (10 : Int) ^ 14 < 10 ^ 25 := by norm_num
    obtain ⟨n, rfl, hn⟩ := adjustment_refund hop
    exact roundsAlike_intCast type (hbalance.trans hlarge) (hn.trans hlarge)
  | _ => cases hop

/-- In every run of such requests the balances are what the ledger adds up to. -/
theorem reconciled_of_shortAmounts {start store : Store} (h₀ : start.db.Reconciled)
    {requests : List Request}
    (h : Run serve (fun _ request => request.ShortAmounts) start requests store) :
    store.db.Reconciled :=
  h.invariant (fun store => store.db.Reconciled) h₀ fun _ s _ hs hshort hserve =>
    (serve_reconciled_iff hs hserve).mpr (hshort.roundsAlike s)

theorem reconciled_smallShop : smallShop.db.Reconciled := .of_empty rfl rfl

/-- Customer 1 deposits an amount and the admin debits one. -/
def depositAndDebit (deposit debit : ℚ) (hdeposit : 0 < deposit) (hdebit : 0 < debit) :
    List Request :=
  [.depositToWallet 1 ⟨deposit, hdeposit⟩,
    .adminDebitWallet 3 1 ⟨debit, "fee", hdebit, by decide⟩]

/-- Of 2.5, stored as 3, 1.4 is debited. -/
theorem balances_reconciled_smallShop : ∃ store,
    Run serve (fun store request => request.RoundsAlike store) smallShop
      (depositAndDebit (5 / 2) (7 / 5) (by norm_num) (by norm_num)) store ∧
    store.db.balance 1 = 2 ∧ store.db.Reconciled := by
  have hrun : ∃ store, Run serve (fun store request => request.RoundsAlike store) smallShop
      (depositAndDebit (5 / 2) (7 / 5) (by norm_num) (by norm_num)) store ∧
      store.db.balance 1 = 2 :=
    Run.exists_of_execAll (by decide +kernel)
  obtain ⟨store, hrun, hbalance⟩ := hrun
  exact ⟨store, hrun, hbalance, (balances_reconciled reconciled_smallShop hrun).1⟩

/-- Of 1, 0.5 is debited: the balance stays 1, and the ledger adds up to 0. -/
theorem balances_reconciled_fails : smallShop.db.Reconciled ∧ ∃ store,
    Run serve anyStep smallShop
      (depositAndDebit 1 (1 / 2) (by norm_num) (by norm_num)) store ∧ ¬ store.db.Reconciled := by
  have hrun : ∃ store, Run serve anyStep smallShop
      (depositAndDebit 1 (1 / 2) (by norm_num) (by norm_num)) store ∧
      store.db.balance 1 ≠ ledgerSum store.db.walletTransactions 1 :=
    Run.exists_of_execAll (by decide +kernel)
  obtain ⟨store, hrun, hne⟩ := hrun
  exact ⟨reconciled_smallShop, store, hrun, fun h => hne (h.balance 1)⟩

end ElectronicShop
