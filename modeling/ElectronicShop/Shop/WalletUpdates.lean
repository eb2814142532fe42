import ElectronicShop.Execution.Sessions
import ElectronicShop.Shop.Balances
import ElectronicShop.Txn.Outcome

/-!
# Concurrent operations on one wallet

Whatever inserts or locks the row of the wallet holds its lock until it commits, so
the operations take effect one after another. An operation that reads the wallet
first keeps nothing of what it read.
-/

namespace ElectronicShop

open Txn WalletService

/-! ## The operations -/

/-- The wallet operations, with the amounts that their callers pass. -/
inductive WalletOperation where
  | deposit (data : WalletDepositRequest)
  | refundOrder (total : Nat) (orderId actorId : Uuid)
  | adminCredit (data : AdminWalletAdjustRequest) (actorId : Uuid)
  | adminDebit (data : AdminWalletAdjustRequest) (actorId : Uuid)

namespace WalletOperation

def program (userId : Uuid) : WalletOperation → Tx WalletTransaction
  | .deposit data => WalletService.deposit userId data.amount
  | .refundOrder total orderId actorId => WalletService.refundOrder userId total orderId actorId
  | .adminCredit data actorId => WalletService.adminCredit userId data.amount data.reason actorId
  | .adminDebit data actorId => WalletService.adminDebit userId data.amount data.reason actorId

def type : WalletOperation → WalletTransactionType
  | .deposit _ => .deposit
  | .refundOrder .. => .refund
  | .adminCredit .. => .adminCredit
  | .adminDebit .. => .adminDebit

def amount : WalletOperation → ℚ
  | .deposit data => data.amount
  | .refundOrder total _ _ => total
  | .adminCredit data _ => data.amount
  | .adminDebit data _ => data.amount

/-- The reason an admin gives, which is stored as the note. -/
def reason : WalletOperation → Option String
  | .adminCredit data _ => some data.reason
  | .adminDebit data _ => some data.reason
  | _ => none

/-- Whole tomans. -/
def Whole (op : WalletOperation) : Prop := ∃ n : Int, op.amount = n

/-- The amount as it counts for the balance. -/
def signed (op : WalletOperation) : Int := signedEntry op.type (numeric op.amount)

variable {op : WalletOperation} {userId : Uuid}

theorem amount_nonneg (op : WalletOperation) : 0 ≤ op.amount := by
  cases op with
  | deposit data => exact data.amountPositive.le
  | refundOrder total orderId actorId => exact Nat.cast_nonneg total
  | adminCredit data actorId => exact data.amountPositive.le
  | adminDebit data actorId => exact data.amountPositive.le

/-- Every operation is `_apply` with some arguments. -/
theorem program_eq (op : WalletOperation) (userId : Uuid) :
    ∃ referenceType referenceId note actorId,
      op.program userId =
        WalletService.apply userId op.type op.amount referenceType referenceId note actorId ∧
      ∀ n ∈ note, n.length ≤ 500 ∧ (fitsText n ∨ op.reason = some n) := by
  cases op with
  | deposit data =>
    refine ⟨_, _, _, _, rfl, fun n hn => ?_⟩
    cases hn
    exact ⟨by decide, Or.inl (by decide)⟩
  | refundOrder total orderId actorId =>
    refine ⟨_, _, _, _, rfl, fun n hn => ?_⟩
    cases hn
    exact ⟨by decide, Or.inl (by decide)⟩
  | adminCredit data actorId =>
    refine ⟨_, _, _, _, rfl, fun n hn => ?_⟩
    cases hn
    exact ⟨data.reasonLength.2, Or.inr rfl⟩
  | adminDebit data actorId =>
    refine ⟨_, _, _, _, rfl, fun n hn => ?_⟩
    cases hn
    exact ⟨data.reasonLength.2, Or.inr rfl⟩

/-- An operation that is committed moves the balance by its amount. -/
theorem transact_ok {store store' : Store} {t : WalletTransaction} (hwhole : op.Whole)
    (h : store.transact (op.program userId) = .ok (t, store')) :
    store'.db.balance userId = store.db.balance userId + op.signed ∧
    t.balanceAfter = store'.db.balance userId ∧ 0 ≤ store'.db.balance userId ∧
    (store'.db.wallets.get userId).isSome := by
  obtain ⟨n, hn⟩ := hwhole
  obtain ⟨referenceType, referenceId, note, actorId, hprogram, -⟩ := op.program_eq userId
  rw [hprogram] at h
  obtain ⟨hnonneg, rfl, hdb⟩ := run_apply_ok (Store.transact_ok.mp h)
  have hbalance : store'.db.balance userId =
      numeric (decimal (store.db.balance userId + signedAmount op.type op.amount)) := by
    rw [Db.balance_put store.db (w := ⟨userId, _⟩) (by rw [hdb]), if_pos rfl]
    rfl
  have hstored : (numeric op.amount).natAbs < 10 ^ 14 := by
    have hentry : entry store.db userId op.type op.amount referenceType referenceId note actorId ∈
        store'.db.walletTransactions := by
      rw [hdb]
      simp
    exact (store'.valid.walletTransactions _ hentry).1
  have hsmall : |n| < 10 ^ 25 := by
    rw [hn, numeric_intCast] at hstored
    rw [Int.abs_eq_natAbs]
    omega
  have hlarge := (store.abs_balance_lt userId).trans (show (10 : Int) ^ 14 < 10 ^ 25 by norm_num)
  have hmoved : store'.db.balance userId = store.db.balance userId + op.signed := by
    rw [hbalance, signed, hn, decimal_add_intCast op.type hlarge hsmall, numeric_intCast,
      numeric_intCast]
  refine ⟨hmoved, hbalance.symm, ?_, ?_⟩
  · rw [hbalance]
    exact numeric_nonneg hnonneg
  · rw [hdb]
    simp

/-- The constraints that a wallet operation can violate. -/
theorem constraints_adjusted {db : Db} (h : db.Constraints) {t : WalletTransaction}
    (ht : t.fits) : Db.Constraints { db with
      wallets := db.wallets.put ⟨userId, t.balanceAfter⟩
      walletTransactions := db.walletTransactions ++ [t] } where
  inventory := h.inventory
  products := h.products
  skus := h.skus
  slugs := h.slugs
  orders := h.orders
  statusHistory := h.statusHistory
  payments := h.payments
  authorities := h.authorities
  wallets := by
    intro w hw
    rcases Table.mem_put hw with rfl | ⟨hold, -⟩
    · exact ht.2.1
    · exact h.wallets w hold
  walletTransactions := by
    intro t' ht'
    rcases List.mem_append.mp ht' with hold | hnew
    · exact h.walletTransactions t' hold
    · obtain rfl := List.mem_singleton.mp hnew
      exact ht

/-- A whole operation is refused exactly when it would make the balance negative. -/
theorem newBalance_neg_iff {balance n : Int} (type : WalletTransactionType)
    (hbalance : |balance| < 10 ^ 14) (hn : 0 ≤ n) :
    decimal (balance + signedAmount type n) < 0 ↔ balance + signedEntry type n < 0 := by
  have hlarge : (10 : Int) ^ 14 < 10 ^ 25 := by norm_num
  by_cases hsmall : n < 10 ^ 25
  · rw [decimal_add_intCast type (hbalance.trans hlarge) (by rwa [abs_of_nonneg hn])]
    exact_mod_cast Iff.rfl
  · -- beyond 25 digits the sign of the sum is that of the amount
    rw [abs_lt] at hbalance
    rw [← not_le, decimal_nonneg_iff, not_le]
    unfold signedAmount signedEntry
    split
    · exact_mod_cast Iff.rfl
    · have hhalf := half_le_decimal (n := 2 * 10 ^ 14) (x := n) (by norm_num) (by
        have hcast : (10 : ℚ) ^ 25 ≤ n := by exact_mod_cast not_lt.mp hsmall
        push_cast
        linarith)
      have hcast : (balance : ℚ) < 10 ^ 14 := by exact_mod_cast hbalance.2
      push_cast at hhalf
      rw [decimal_neg]
      refine iff_of_true ?_ (by omega)
      linarith

/-- Alone, a whole operation is refused when its debit exceeds the balance, and its commit
    when a new value does not fit its column. -/
theorem transact_error {store : Store} {e : ShopError} (hwhole : op.Whole)
    (huser : (store.db.users.get userId).isSome) (hbalance : 0 ≤ store.db.balance userId)
    (h : store.transact (op.program userId) = .error e) :
    (op.type = .adminDebit ∧ e = .conflict "موجودی کیف پول کافی نیست." ∧
      store.db.balance userId < numeric op.amount) ∨
    (e = .database ∧ (10 ^ 14 ≤ store.db.balance userId + op.signed ∨
      ∃ r, op.reason = some r ∧ ¬ fitsText r)) := by
  obtain ⟨n, hn⟩ := hwhole
  have hnonneg : 0 ≤ n := by
    have hamount := op.amount_nonneg
    rw [hn] at hamount
    exact_mod_cast hamount
  have hsigned : op.signed = signedEntry op.type n := by rw [signed, hn, numeric_intCast]
  have hlimit := store.abs_balance_lt userId
  obtain ⟨referenceType, referenceId, note, actorId, hprogram, hnote⟩ := op.program_eq userId
  rw [hprogram, hn] at h
  rcases Store.transact_error.mp h with herror | ⟨rfl, t, db', hrun, hinvalid⟩
  · left
    obtain ⟨wallet, db₁, hcreate⟩ := run_getOrCreate huser
    rw [run_apply hcreate] at herror
    split at herror
    · rename_i hneg
      rw [newBalance_neg_iff op.type hlimit hnonneg] at hneg
      cases herror
      cases op with
      | adminDebit data actorId =>
        refine ⟨rfl, rfl, ?_⟩
        rw [hn, numeric_intCast]
        simp only [type, signedEntry, creditTypes] at hneg
        simp at hneg
        omega
      | _ =>
        simp [type, signedEntry, creditTypes] at hneg
        omega
    · cases herror
  · refine Or.inr ⟨rfl, ?_⟩
    by_contra hcontra
    push Not at hcontra
    obtain ⟨hfits, hreason⟩ := hcontra
    obtain ⟨hnew, rfl, rfl⟩ := run_apply_ok hrun
    rw [← not_lt, newBalance_neg_iff op.type hlimit hnonneg, not_lt] at hnew
    rw [hsigned] at hfits
    have hsmall : n < 10 ^ 14 := by
      rw [abs_lt] at hlimit
      unfold signedEntry at hnew hfits
      split at hnew
      · rename_i hcredit
        rw [if_pos hcredit] at hfits
        omega
      · omega
    have hafter : numeric (decimal (store.db.balance userId + signedAmount op.type n)) =
        store.db.balance userId + signedEntry op.type n := by
      rw [decimal_add_intCast op.type (hlimit.trans (by norm_num)) (by rw [abs_lt]; omega),
        numeric_intCast]
    refine hinvalid (constraints_adjusted store.valid ⟨?_, ?_, fun r hr => ?_⟩)
    · simp only [entry, numeric_intCast, fitsNumeric]
      omega
    · simp only [entry, hafter, fitsNumeric]
      omega
    · obtain ⟨hlength, hfit | hgiven⟩ := hnote r hr
      · exact ⟨hlength, hfit⟩
      · exact ⟨hlength, hreason r hgiven⟩

end WalletOperation

/-! ## The lock of the wallet -/

namespace WalletLock

variable {α ι : Type} {userId : Uuid}

/-- What the others can do to the database: nothing under the lock of the wallet, and they
    never remove the wallet. -/
structure Rely (userId : Uuid) (held : List RowKey) (db db' : Db) : Prop where
  locked : .wallet userId ∈ held → db' = db
  users : db'.users = db.users
  wallet : (db.wallets.get userId).isSome → (db'.wallets.get userId).isSome

namespace Rely

variable {held : List RowKey} {db₁ db₂ db₃ : Db}

theorem refl (db : Db) : Rely userId held db db := ⟨fun _ => rfl, rfl, id⟩

theorem trans (h₁ : Rely userId held db₁ db₂) (h₂ : Rely userId held db₂ db₃) :
    Rely userId held db₁ db₃ :=
  ⟨fun hl => (h₂.locked hl).trans (h₁.locked hl), h₂.users.trans h₁.users,
    fun hw => h₂.wallet (h₁.wallet hw)⟩

end Rely

/-- The transaction is about to commit what it does alone. -/
def Post (userId : Uuid) (m : Tx α) (a : α) (w : Session) (held : List RowKey) (db : Db) : Prop :=
  .wallet userId ∈ held ∧ db.run m = .ok (a, w.view db)

/-- The transaction fails as it does alone. -/
def Failed (userId : Uuid) (m : Tx α) (e : ShopError) (_ : Session) (held : List RowKey) (db : Db) :
    Prop :=
  .wallet userId ∈ held ∧ db.run m = .error e

/-- From the statement on that is granted the lock, a program does what it does alone. -/
theorem wpe_granted {s : Stmt} {next : s.Resp → Tx α} {m : Tx α} {db : Db}
    (hneed : .wallet userId ∈ s.needs shopEngine.start db)
    (hrun : db.run m = db.run (send s >>= next)) :
    wpe shopEngine (Rely userId) (send s >>= next) shopEngine.start [] db (Post userId m)
      (Failed userId m) := by
  have hsole : ∀ held db', RowKey.wallet userId ∈ held → Rely userId held db db' → db' = db :=
    fun _ _ hl hrely => hrely.locked hl
  refine wpe_of_grant hsole hneed (fun a w' halone held' hl => ⟨hl, ?_⟩)
    (fun e halone w' held' hl => ⟨hl, ?_⟩)
  · rw [hrun]
    exact shopImplements.run_of_alone halone
  · rw [hrun]
    exact shopImplements.error_of_alone halone

/-- Creating a wallet that is there does nothing. -/
theorem run_getOrCreate_of_isSome {m : Tx α} {db : Db} (h : (db.wallets.get userId).isSome) :
    db.run (getOrCreate userId >>= fun _ => m) = db.run m := by
  obtain ⟨wallet, hget⟩ := Option.isSome_iff_exists.mp h
  unfold getOrCreate
  rw [bind_assoc, Db.run_send_bind]
  simp only [Stmt.exec, hget]
  rfl

/-- A program that locks the wallet right after it has made sure that there is one. -/
theorem wpe_getOrCreate {m : Tx α} {next : Option Wallet → Tx α}
    (hm : m = getOrCreate userId >>= fun _ => send (.lockWallet userId) >>= next) {db : Db} :
    wpe shopEngine (Rely userId) m shopEngine.start [] db (Post userId m) (Failed userId m) := by
  have hlock : ∀ db' : Db, (db'.wallets.get userId).isSome →
      wpe shopEngine (Rely userId) (send (.lockWallet userId) >>= next) shopEngine.start [] db'
        (Post userId m) (Failed userId m) := by
    intro db' hwallet
    refine wpe_granted ?_ (hm ▸ run_getOrCreate_of_isSome hwallet)
    simp [Stmt.needs, shopEngine, Session.view, hwallet]
  suffices h : wpe shopEngine (Rely userId)
      (getOrCreate userId >>= fun _ => send (.lockWallet userId) >>= next) shopEngine.start [] db
      (Post userId m) (Failed userId m) by rwa [← hm] at h
  unfold getOrCreate
  rw [bind_assoc]
  refine wpe_send_bind.mpr fun db₁ hrely₁ => ?_
  cases hget : db.wallets.get userId with
  | some wallet =>
    have hread : ((Stmt.getWallet userId).execIn shopEngine.start db).1 = some wallet := hget
    rw [hread]
    exact hlock db₁ (hrely₁.wallet (by rw [hget]; rfl))
  | none =>
    have hread : ((Stmt.getWallet userId).execIn shopEngine.start db).1 = none := hget
    rw [hread]
    change wpe _ _ _ shopEngine.start [] db₁ _ _
    by_cases hwallet : (db₁.wallets.get userId).isSome
    · -- somebody has created it in the meantime
      have hexec : (Stmt.insertWalletIfAbsent userId).execIn shopEngine.start db₁ =
          (true, shopEngine.start) := by
        simp only [Stmt.execIn]
        exact if_pos hwallet
      have hneeds : (Stmt.insertWalletIfAbsent userId).needs shopEngine.start db₁ = [] := by
        simp only [Stmt.needs]
        exact if_pos hwallet
      rw [bind_assoc]
      refine wpe_send_bind.mpr fun db₂ hrely₂ => ?_
      rw [hexec, hneeds]
      refine wpe_send_bind.mpr fun db₃ hrely₃ => ?_
      obtain ⟨wallet, hread⟩ := Option.isSome_iff_exists.mp (hrely₂.wallet hwallet)
      have hread' : ((Stmt.getWallet userId).execIn shopEngine.start db₂).1 = some wallet := hread
      rw [hread']
      exact hlock db₃ (hrely₃.wallet (hrely₂.wallet hwallet))
    · -- the insert is granted the lock
      refine wpe_granted ?_ ?_
      · simp [Stmt.needs, shopEngine, Session.view, hwallet]
      · have hnone : db₁.wallets.get userId = none := by simpa using hwallet
        rw [hm]
        unfold getOrCreate
        rw [bind_assoc, Db.run_send_bind]
        simp only [Stmt.exec, hnone]
        rfl

/-! ## The interleaving -/

/-- One of several transactions, alone: the committed database and the committed answers
    after it. -/
def takeTurn [DecidableEq ι] (programs : ι → Tx α) (i : ι) (s : Store × (ι → Option α)) :
    Except ShopError (Store × (ι → Option α)) :=
  (s.1.transact (programs i)).map fun r => (r.2, Function.update s.2 i (some r.1))

/-- The transaction has not been committed yet. -/
def notTaken (s : Store × (ι → Option α)) (i : ι) : Prop := s.2 i = none

/-- Database and answers are those of taking turns, in some order. -/
def Serialized [DecidableEq ι] (programs : ι → Tx α) (start : Store) (db : Db)
    (results : ι → Option α) : Prop :=
  ∃ store order, store.db = db ∧
    Run (takeTurn programs) notTaken (start, fun _ => none) order (store, results)

section TakeTurn

variable [DecidableEq ι] {programs : ι → Tx α} {i : ι} {s s' : Store × (ι → Option α)}

theorem takeTurn_ok : takeTurn programs i s = .ok s' ↔
    ∃ a, s.1.transact (programs i) = .ok (a, s'.1) ∧ s'.2 = Function.update s.2 i (some a) := by
  unfold takeTurn
  cases htransact : s.1.transact (programs i) with
  | error e => simp [Except.map]
  | ok r =>
    obtain ⟨a, store⟩ := r
    obtain ⟨store', results'⟩ := s'
    constructor
    · intro h
      cases h
      exact ⟨a, rfl, rfl⟩
    · rintro ⟨a', h₁, h₂⟩
      cases h₁
      cases h₂
      rfl

/-- The transactions that took their turn are those with an answer, each once. -/
theorem order_of_run {start : Store} {order : List ι}
    (h : Run (takeTurn programs) notTaken (start, fun _ => none) order s) :
    order.Nodup ∧ ∀ i, i ∈ order ↔ (s.2 i).isSome := by
  induction h with
  | nil => simp
  | @snoc order i s s' _ allowed committed ih =>
    obtain ⟨a, -, hresults⟩ := takeTurn_ok.mp committed
    have hfresh : i ∉ order := by
      intro hmem
      have hsome := (ih.2 i).mp hmem
      rw [allowed] at hsome
      cases hsome
    refine ⟨List.nodup_append.mpr ⟨ih.1, List.nodup_singleton i, ?_⟩, fun j => ?_⟩
    · rintro j hj k hk rfl
      exact hfresh (List.mem_singleton.mp hk ▸ hj)
    · rw [List.mem_append, List.mem_singleton, ih.2 j, hresults]
      by_cases hji : j = i
      · simp [hji]
      · simp [hji]

end TakeTurn

variable [DecidableEq ι]

/-- The outline of the operations on one wallet. -/
def outline (userId : Uuid) (ops : ι → WalletOperation) (start : Store) :
    Outline shopEngine
      (anyEvent : Config shop ShopError WalletTransaction Db Session RowKey ι → _ → _) where
  rely _ := Rely userId
  post i := Post userId ((ops i).program userId)
  inv := Serialized (fun i => (ops i).program userId) start
  rely_refl _ _ db := .refl db
  rely_trans _ _ _ _ _ := .trans
  post_stable := by
    rintro i t w held db db' ⟨hl, hrun⟩ hrely
    obtain rfl := hrely.locked hl
    exact ⟨hl, hrun⟩
  commit_ok := by
    rintro c i t w held db hi - ⟨store, order, hstore, hrun⟩ ⟨hl, halone⟩ hcommit
    obtain ⟨hvalid, rfl⟩ := shopEngine_commit_ok.mp hcommit
    refine ⟨⟨⟨w.view c.db, hvalid⟩, order ++ [i], rfl, hrun.snoc ?_ ?_⟩, fun j _ locks hlocks => ?_⟩
    · simp [notTaken, Config.results, hi, Client.result]
    · rw [takeTurn_ok]
      refine ⟨t, Store.transact_ok.mpr ?_, rfl⟩
      rw [hstore]
      exact halone
    · obtain ⟨referenceType, referenceId, note, actorId, hprogram, -⟩ := (ops i).program_eq userId
      rw [hprogram] at halone
      refine ⟨fun hlock => absurd hl (hlocks _ hlock).1, ?_, fun _ => ?_⟩
      · exact (within_apply ..).same_run halone (t := .users) (by decide)
      · obtain ⟨-, -, hdb⟩ := run_apply_ok halone
        rw [hdb]
        simp

/-- All operations are about to begin. -/
def initial (userId : Uuid) (ops : ι → WalletOperation) (start : Store) :
    Config shop ShopError WalletTransaction Db Session RowKey ι where
  db := start.db
  clients i := .running ((ops i).program userId) shopEngine.start []

section Reach

variable [Fintype ι] {ops : ι → WalletOperation} {start : Store}
  {c : Config shop ShopError WalletTransaction Db Session RowKey ι}

theorem wpe_program (op : WalletOperation) (db : Db) :
    wpe shopEngine (Rely userId) (op.program userId) shopEngine.start [] db
      (Post userId (op.program userId)) (Failed userId (op.program userId)) := by
  cases op with
  | deposit data => exact wpe_getOrCreate rfl
  | refundOrder total orderId actorId => exact wpe_getOrCreate rfl
  | adminCredit data actorId => exact wpe_getOrCreate rfl
  | adminDebit data actorId => exact wpe_getOrCreate rfl

omit [Fintype ι] in
theorem good_initial (userId : Uuid) (ops : ι → WalletOperation) (start : Store) :
    (outline userId ops start).Good (initial userId ops start) :=
  Outline.good_start _ start.db _ ⟨start, [], rfl, .nil⟩ fun i db' _ => (wpe_program (ops i) db').wp

theorem good_of_reach (hreach : Reach shopEngine anyEvent (initial userId ops start) c) :
    (outline userId ops start).Good c :=
  Outline.sound _ (good_initial userId ops start) hreach

/-- An operation that fails in its turn would fail in the same way alone. -/
theorem failed_of_reach (hreach : Reach shopEngine anyEvent (initial userId ops start) c) {i : ι}
    {e : ShopError} {c' : Config shop ShopError WalletTransaction Db Session RowKey ι}
    (hexec : c.exec shopEngine (.turn i) = some c') (hi : c'.clients i = .aborted (some e))
    {store : Store} (hstore : store.db = c.db) :
    store.transact ((ops i).program userId) = .error e := by
  have hstart : (outline userId ops start).Outcome (fun i => Failed userId ((ops i).program userId))
      (initial userId ops start) :=
    Outline.outcome_start _ start.db _ fun i db' _ => wpe_program (ops i) db'
  have houtcome := Outline.outcome _ (good_initial userId ops start) hstart hreach
  rw [Store.transact_error, hstore]
  rcases Config.exec_aborted hexec hi with ⟨w, held, hrun⟩ | ⟨t, w, held, hrun, hcommit⟩
  · exact Or.inl (houtcome i _ w held hrun c.db (.refl _)).2
  · obtain ⟨-, halone⟩ := houtcome i _ w held hrun c.db (.refl _)
    obtain ⟨hinvalid, hdatabase⟩ := shopEngine_commit_error.mp hcommit
    exact Or.inr ⟨hdatabase, t, _, halone, hinvalid⟩

end Reach

/-! ## What the serial run adds up to -/

/-- The balance after the operations in `order`. -/
def balanceAfter (userId : Uuid) (ops : ι → WalletOperation) (start : Store) (order : List ι) : Int :=
  start.db.balance userId + (order.map fun i => (ops i).signed).sum

omit [DecidableEq ι] in
theorem balanceAfter_append (userId : Uuid) (ops : ι → WalletOperation) (start : Store)
    (order : List ι) (i : ι) : balanceAfter userId ops start (order ++ [i]) =
      balanceAfter userId ops start order + (ops i).signed := by
  simp [balanceAfter, add_assoc]

structure Accounted (userId : Uuid) (ops : ι → WalletOperation) (start : Store) (order : List ι)
    (s : Store × (ι → Option WalletTransaction)) : Prop where
  balance : s.1.db.balance userId = balanceAfter userId ops start order
  nonneg : 0 ≤ s.1.db.balance userId
  wallet : order ≠ [] → (s.1.db.wallets.get userId).isSome
  users : s.1.db.users = start.db.users
  answers : ∀ before i after, order = before ++ i :: after →
    ∃ t, s.2 i = some t ∧ t.balanceAfter = balanceAfter userId ops start (before ++ [i])

theorem accounted_of_run {ops : ι → WalletOperation} {start : Store} {order : List ι}
    {s : Store × (ι → Option WalletTransaction)} (hwhole : ∀ i, (ops i).Whole)
    (hbalance : 0 ≤ start.db.balance userId)
    (h : Run (takeTurn fun i => (ops i).program userId) notTaken (start, fun _ => none) order s) :
    Accounted userId ops start order s := by
  induction h with
  | nil =>
    refine ⟨by simp [balanceAfter], hbalance, fun hne => absurd rfl hne, rfl, ?_⟩
    intro before i after h
    simp at h
  | @snoc order i s s' hbefore allowed committed ih =>
    obtain ⟨t, htransact, hresults⟩ := takeTurn_ok.mp committed
    obtain ⟨hmoved, hafter, hnonneg, hwallet⟩ := WalletOperation.transact_ok (hwhole i) htransact
    have hsum : s'.1.db.balance userId = balanceAfter userId ops start (order ++ [i]) := by
      rw [hmoved, ih.balance, balanceAfter_append]
    refine ⟨hsum, hnonneg, fun _ => hwallet, ?_, fun before j after hsplit => ?_⟩
    · obtain ⟨referenceType, referenceId, note, actorId, hprogram, -⟩ := (ops i).program_eq userId
      have hrun := Store.transact_ok.mp htransact
      rw [hprogram] at hrun
      have hsame : s'.1.db.users = s.1.db.users :=
        (within_apply ..).same_run hrun (t := .users) (by decide)
      exact hsame.trans ih.users
    · rcases List.eq_nil_or_concat' after with rfl | ⟨rest, last, rfl⟩
      · obtain ⟨rfl, hlast⟩ := List.append_inj' hsplit rfl
        obtain rfl : i = j := by simpa using hlast
        refine ⟨t, ?_, ?_⟩
        · rw [hresults, Function.update_self]
        · rw [hafter, hsum]
      · rw [← List.cons_append, ← List.append_assoc] at hsplit
        obtain ⟨rfl, -⟩ := List.append_inj' hsplit rfl
        obtain ⟨t', ht', hbalance'⟩ := ih.answers before j rest rfl
        refine ⟨t', ?_, hbalance'⟩
        have hne : j ≠ i := by
          rintro rfl
          rw [allowed] at ht'
          cases ht'
        rw [hresults, Function.update_of_ne hne, ht']

/-! ## No deadlock -/

/-- The statements of the operations on one wallet. -/
def onWallet (userId : Uuid) : Stmt → Bool
  | .getWallet u | .insertWalletIfAbsent u | .lockWallet u => u = userId
  | .write (.setWalletBalance u _) => u = userId
  | .write (.addWalletTransaction _) | .flush => true
  | _ => false

theorem uses_program (op : WalletOperation) :
    (op.program userId).Uses fun s : Stmt => onWallet userId s = true := by
  have hsend : ∀ s : Stmt, onWallet userId s = true →
      (send s).Uses fun s : Stmt => onWallet userId s = true := fun s hs => ⟨hs, fun _ => trivial⟩
  have horRaise : ∀ {α : Type} (e : ShopError) (x : Option α),
      (orRaise e x).Uses fun s : Stmt => onWallet userId s = true := by
    intro α e x
    cases x <;> trivial
  obtain ⟨referenceType, referenceId, note, actorId, hprogram, -⟩ := op.program_eq userId
  rw [hprogram]
  refine Prog.Uses.bind ?_ fun _ => Prog.Uses.bind (hsend _ (by simp [onWallet])) fun found =>
    (horRaise _ _).bind fun wallet => ?_
  · refine (hsend _ (by simp [onWallet])).bind fun found => ?_
    cases found with
    | some wallet => trivial
    | none =>
      refine (hsend _ (by simp [onWallet])).bind fun inserted => ?_
      cases inserted with
      | true => exact (hsend _ (by simp [onWallet])).bind fun found => horRaise _ _
      | false => trivial
  · simp only
    split
    · trivial
    · exact (hsend _ (by simp [onWallet])).bind fun _ => (hsend _ rfl).bind fun _ =>
        (hsend _ rfl).bind fun _ => trivial

/-- What a session has pending locks the wallet at most. -/
def LocksWallet (userId : Uuid) (w : Session) : Prop :=
  ∀ l ∈ w.pending.filterMap Write.locks, l = .wallet userId

theorem LocksWallet.send {w : Session} (h : LocksWallet userId w) {x : Write}
    (hx : ∀ l ∈ x.locks, l = .wallet userId) : LocksWallet userId (w.send x) := by
  intro l hl
  simp only [Session.send, List.filterMap_append, List.mem_append] at hl
  rcases hl with hold | hnew
  · exact h l hold
  · exact hx l (by simpa [eq_comm] using hnew)

theorem oneLock (userId : Uuid) : OneLock shopEngine (.wallet userId)
    (fun s : Stmt => onWallet userId s = true) (LocksWallet userId) where
  start := by
    intro l hl
    simp [shopEngine] at hl
  need := by
    intro s hs w db hw l hl
    change l ∈ s.needs w db at hl
    cases s with
    | lockWallet u =>
      obtain rfl : u = userId := by simpa [onWallet] using hs
      simp only [Stmt.needs] at hl
      split at hl
      · exact List.mem_singleton.mp hl
      · cases hl
    | insertWalletIfAbsent u =>
      obtain rfl : u = userId := by simpa [onWallet] using hs
      simp only [Stmt.needs] at hl
      split at hl
      · cases hl
      · exact List.mem_singleton.mp hl
    | flush => exact hw l hl
    | insert row => cases hs
    | updateCartItem item quantity => cases hs
    | claimPayment id fromStatus toStatus => cases hs
    | lockInventory p => cases hs
    | _ => cases hl
  exec := by
    intro s hs w db hw
    change LocksWallet userId (s.execIn w db).2
    cases s with
    | getWallet u => exact hw
    | lockWallet u => exact hw
    | insertWalletIfAbsent u =>
      obtain rfl : u = userId := by simpa [onWallet] using hs
      simp only [Stmt.execIn]
      split
      · exact hw
      · split
        · exact hw.send (x := .add (.wallet ⟨u, 0⟩)) (by simp [Write.locks, NewRow.key])
        · exact hw
    | flush => exact hw
    | write x =>
      refine hw.send ?_
      cases x with
      | setWalletBalance u balance =>
        obtain rfl : u = userId := by simpa [onWallet] using hs
        simp [Write.locks]
      | addWalletTransaction t => simp [Write.locks]
      | _ => cases hs
    | _ => cases hs
  commit w hw := hw

end WalletLock

/-! ## The main result -/

section Main

variable {ι : Type} [DecidableEq ι] [Fintype ι] {userId : Uuid} {ops : ι → WalletOperation}
  {start : Store} {c : Config shop ShopError WalletTransaction Db Session RowKey ι}

/-- Any number of whole operations on the wallet of one user, interleaved in any way: the
    database and the answers are those of running the committed ones alone, one after
    another in the order of their commits; so no update is lost. There is one wallet at
    most, and its balance is never negative. An operation fails in its turn only when it
    is a debit that finds too small a balance, or when the new balance has more than 14
    digits, or when the reason has a NUL character; and somebody can always go on. -/
theorem wallet_updates_serialize (huser : (start.db.users.get userId).isSome)
    (hbalance : 0 ≤ start.db.balance userId) (hwhole : ∀ i, (ops i).Whole)
    (hreach : Reach shopEngine anyEvent (WalletLock.initial userId ops start) c) :
    (∃ store order, store.db = c.db ∧
      Run (WalletLock.takeTurn fun i => (ops i).program userId) WalletLock.notTaken
        (start, fun _ => none) order (store, c.results) ∧
      order.Nodup ∧ (∀ i, i ∈ order ↔ (c.results i).isSome) ∧
      c.db.balance userId = WalletLock.balanceAfter userId ops start order ∧
      ∀ before i after, order = before ++ i :: after → ∃ t, c.results i = some t ∧
        t.balanceAfter = WalletLock.balanceAfter userId ops start (before ++ [i])) ∧
    0 ≤ c.db.balance userId ∧
    (c.db.wallets.rows.filter fun w => w.userId = userId).length ≤ 1 ∧
    ((∃ i, (c.results i).isSome) → ∃ w ∈ c.db.wallets.rows, w.userId = userId) ∧
    (∀ i e c', c.exec shopEngine (.turn i) = some c' → c'.clients i = .aborted (some e) →
      ((ops i).type = .adminDebit ∧ e = .conflict "موجودی کیف پول کافی نیست." ∧
        c.db.balance userId < numeric (ops i).amount) ∨
      (e = .database ∧ (10 ^ 14 ≤ c.db.balance userId + (ops i).signed ∨
        ∃ r, (ops i).reason = some r ∧ ¬ fitsText r))) ∧
    ((∃ i p w held, c.clients i = .running p w held) →
      ∃ i, (c.exec shopEngine (.turn i)).isSome) := by
  have hgood := WalletLock.good_of_reach hreach
  obtain ⟨store, order, hstore, hrun⟩ := hgood.inv
  obtain ⟨hnodup, horder⟩ := WalletLock.order_of_run hrun
  have haccounted := WalletLock.accounted_of_run hwhole hbalance hrun
  have hnonneg : 0 ≤ c.db.balance userId := hstore ▸ haccounted.nonneg
  refine ⟨⟨store, order, hstore, hrun, hnodup, horder, hstore ▸ haccounted.balance,
    haccounted.answers⟩, hnonneg, ?_, ?_, ?_, ?_⟩
  · exact Table.length_filter_key_le_one c.db.wallets userId
  · rintro ⟨i, hi⟩
    have hne : order ≠ [] := List.ne_nil_of_mem ((horder i).mpr hi)
    obtain ⟨w, hw⟩ := Option.isSome_iff_exists.mp (haccounted.wallet hne)
    exact ⟨w, hstore ▸ Table.mem_of_get hw, Table.key_of_get hw⟩
  · intro i e c' hexec hi
    rw [← hstore]
    refine WalletOperation.transact_error (hwhole i) ?_ haccounted.nonneg
      (WalletLock.failed_of_reach hreach hexec hi hstore)
    rw [haccounted.users]
    exact huser
  · intro hrunning
    have hkept : (WalletLock.oneLock userId).Kept (WalletLock.initial userId ops start) := by
      intro i p w held hi
      simp only [WalletLock.initial, Client.running.injEq] at hi
      obtain ⟨rfl, rfl, rfl⟩ := hi
      exact ⟨WalletLock.uses_program (ops i), (WalletLock.oneLock userId).start⟩
    exact (WalletLock.oneLock userId).exists_turn
      ((WalletLock.oneLock userId).kept_of_reach hkept hreach) hgood.exclusive hrunning

end Main

/-- Two deposits to a wallet that does not exist yet. -/
def twoDeposits : Fin 2 → WalletOperation
  | 0 => .deposit ⟨5, five_pos⟩
  | 1 => .deposit ⟨7, seven_pos⟩

/-- Both find no wallet, and both are kept. -/
theorem wallet_updates_serialize_smallShop : ∃ c,
    Reach shopEngine anyEvent (WalletLock.initial 1 twoDeposits smallShop) c ∧
    (∀ i, (c.results i).isSome) ∧ c.db.balance 1 = 12 ∧
    ∃ order : List (Fin 2), order.Nodup ∧ (∀ i, i ∈ order) ∧
      c.db.balance 1 = WalletLock.balanceAfter 1 twoDeposits smallShop order := by
  let schedule : List (Event (Fin 2)) :=
    [.turn 0, .turn 1] ++ List.replicate 7 (.turn 0) ++ List.replicate 7 (.turn 1)
  have hrun : ∃ c, Reach shopEngine anyEvent (WalletLock.initial 1 twoDeposits smallShop) c ∧
      ((∀ i, (c.results i).isSome) ∧ c.db.balance 1 = 12) :=
    Reach.exists_of_execAll schedule (by decide +kernel)
  obtain ⟨c, hreach, hall, hbalance⟩ := hrun
  have hwhole : ∀ i, (twoDeposits i).Whole := by
    refine Fin.forall_fin_two.mpr ⟨⟨5, ?_⟩, ⟨7, ?_⟩⟩
    · simp [twoDeposits, WalletOperation.amount]
    · simp [twoDeposits, WalletOperation.amount]
  obtain ⟨⟨store, order, -, -, hnodup, horder, hsum, -⟩, -⟩ :=
    wallet_updates_serialize (by decide) (by decide) hwhole hreach
  exact ⟨c, hreach, hall, hbalance, order, hnodup, fun i => (horder i).mpr (hall i), hsum⟩

/-- A credit whose reason is the NUL character. -/
def nulCredit (_ : Fin 1) : WalletOperation :=
  .adminCredit ⟨5, "\x00", five_pos, by decide⟩ 3

/-- It fails although it is no debit. -/
theorem wallet_updates_serialize_fails : ∃ c c',
    Reach shopEngine anyEvent (WalletLock.initial 1 nulCredit smallShop) c ∧
    c.exec shopEngine (.turn 0) = some c' ∧ c'.clients 0 = .aborted (some .database) ∧
    (nulCredit 0).type ≠ .adminDebit ∧ (nulCredit 0).Whole ∧
    c.db.balance 1 + (nulCredit 0).signed < 10 ^ 14 := by
  have hrun : ∃ c, Reach shopEngine anyEvent (WalletLock.initial 1 nulCredit smallShop) c ∧
      ((c.exec shopEngine (.turn 0)).any (fun c' => (c'.clients 0).failure = some .database) = true ∧
        c.db.balance 1 + (nulCredit 0).signed < 10 ^ 14) :=
    Reach.exists_of_execAll (List.replicate 7 (.turn 0)) (by decide +kernel)
  obtain ⟨c, hreach, hturn, hsmall⟩ := hrun
  obtain ⟨c', hexec, haborted⟩ := (Option.any_eq_true _ _).mp hturn
  exact ⟨c, c', hreach, hexec, Client.aborted_of_failure (of_decide_eq_true haborted), by decide,
    ⟨5, rfl⟩, hsmall⟩

end ElectronicShop
