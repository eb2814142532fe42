import ElectronicShop.Execution.Stock
import ElectronicShop.Model.Wallet

/-!
# Wallet operations that run alone
-/

namespace ElectronicShop

open Txn

/-- The balance of a user, who may not have a wallet yet. -/
def Db.balance (db : Db) (userId : Uuid) : Int := ((db.wallets.get userId).map Wallet.balance).getD 0

namespace WalletService

variable {db db' : Db} {userId : Uuid}

/-- The wallet, which is created empty when there is none. -/
theorem run_getOrCreate_ok {wallet : Wallet} (h : db.run (getOrCreate userId) = .ok (wallet, db')) :
    wallet.userId = userId ∧
    db' = { db with wallets := db.wallets.put wallet } ∧
    (db.wallets.get userId = some wallet ∨ db.wallets.get userId = none ∧ wallet.balance = 0) := by
  unfold getOrCreate at h
  rw [Db.run_send_bind] at h
  simp only [Stmt.exec] at h
  cases hget : db.wallets.get userId with
  | some w =>
    simp only [hget, Prog.pure_eq, Db.run_done, Except.ok.injEq, Prod.mk.injEq] at h
    obtain ⟨rfl, rfl⟩ := h
    exact ⟨Table.key_of_get hget, by rw [Table.put_self hget], Or.inl rfl⟩
  | none =>
    simp only [hget] at h
    rw [Db.run_send_bind] at h
    cases huser : (db.users.get userId).isSome with
    | false => simp [Stmt.exec, hget, huser] at h
    | true =>
      simp only [Stmt.exec, hget, huser, Option.isSome_none, Bool.false_eq_true, if_false, if_true,
        Write.apply, NewRow.insert, Db.run_send_bind, Db.run_orRaise_ok] at h
      obtain ⟨hw, rfl⟩ := h
      have hnew : (db.wallets.put ⟨userId, 0⟩).get userId = some ⟨userId, 0⟩ :=
        Table.get_put_self db.wallets ⟨userId, 0⟩
      obtain rfl : wallet = ⟨userId, 0⟩ := Option.some.inj (hw.symm.trans hnew)
      exact ⟨rfl, rfl, Or.inr ⟨rfl, rfl⟩⟩

/-- For a user there is always a wallet. -/
theorem run_getOrCreate (huser : (db.users.get userId).isSome) :
    ∃ wallet db₁, db.run (getOrCreate userId) = .ok (wallet, db₁) := by
  unfold getOrCreate
  rw [Db.run_send_bind]
  simp only [Stmt.exec]
  cases hget : db.wallets.get userId with
  | some w => exact ⟨w, db, rfl⟩
  | none =>
    have hnew : (db.wallets.put ⟨userId, 0⟩).get userId = some ⟨userId, 0⟩ :=
      Table.get_put_self db.wallets ⟨userId, 0⟩
    refine ⟨⟨userId, 0⟩, { db with wallets := db.wallets.put ⟨userId, 0⟩ }, ?_⟩
    simp only [Db.run_send_bind, Stmt.exec, hget, huser, Option.isSome_none, Bool.false_eq_true,
      if_false, if_true, Write.apply, NewRow.insert, hnew, Db.run_orRaise_some]

section Apply

variable {type : WalletTransactionType} {amount : ℚ} {referenceType : Option String}
  {referenceId : Option Uuid} {note : Option String} {actorId : Option Uuid}

/-- The ledger row of a wallet operation. -/
def entry (db : Db) (userId : Uuid) (type : WalletTransactionType) (amount : ℚ)
    (referenceType : Option String) (referenceId : Option Uuid) (note : Option String)
    (actorId : Option Uuid) : WalletTransaction :=
  { walletId := userId, type, amount := numeric amount,
    balanceAfter := numeric (decimal (db.balance userId + signedAmount type amount)),
    referenceType, referenceId, note, actorId }

/-- A wallet operation changes one wallet row and logs one transaction. -/
theorem run_apply {wallet : Wallet} {db₁ : Db}
    (hcreate : db.run (getOrCreate userId) = .ok (wallet, db₁)) :
    db.run (apply userId type amount referenceType referenceId note actorId) =
      if decimal (db.balance userId + signedAmount type amount) < 0 then
        .error (.conflict "موجودی کیف پول کافی نیست.")
      else
        let t := entry db userId type amount referenceType referenceId note actorId
        .ok (t, { db with
          wallets := db.wallets.put ⟨userId, t.balanceAfter⟩
          walletTransactions := db.walletTransactions ++ [t] }) := by
  obtain ⟨hkey, rfl, hwallet⟩ := run_getOrCreate_ok hcreate
  have hbalance : wallet.balance = db.balance userId := by
    rcases hwallet with hget | ⟨hget, hzero⟩
    · simp [Db.balance, hget]
    · simp [Db.balance, hget, hzero]
  have hlock : (db.wallets.put wallet).get userId = some wallet :=
    hkey ▸ Table.get_put_self db.wallets wallet
  unfold apply Db.run
  rw [Prog.run_bind_of_ok hcreate]
  change Db.run _ _ = _
  simp only [Db.run_send_bind, Stmt.exec, hlock, Db.run_orRaise_some_bind, hbalance]
  split
  · rfl
  · simp only [Db.run_write_bind, Db.run_flush_bind, Write.apply, Prog.pure_eq, Db.run_done, entry,
      hkey, Table.modify_put _ _ hkey]

theorem run_apply_ok {t : WalletTransaction}
    (h : db.run (apply userId type amount referenceType referenceId note actorId) = .ok (t, db')) :
    0 ≤ decimal (db.balance userId + signedAmount type amount) ∧
    t = entry db userId type amount referenceType referenceId note actorId ∧
    db' = { db with
      wallets := db.wallets.put ⟨userId, t.balanceAfter⟩
      walletTransactions := db.walletTransactions ++ [t] } := by
  obtain ⟨w, db₁, hcreate, -⟩ := Db.run_bind_ok.mp h
  rw [run_apply hcreate] at h
  split at h
  · cases h
  · rename_i hnonneg
    cases h
    exact ⟨not_lt.mp hnonneg, rfl, rfl⟩

end Apply

end WalletService

end ElectronicShop
