import ElectronicShop.Book.Stock
import ElectronicShop.Model.Catalog

/-!
# Statements and stock mutators that run alone

The modules of `Execution` say what a service does when its transaction runs
alone, one lemma a function: when its run on a database succeeds, and what it
leaves behind. Later modules use these and do not unfold a service again.
-/

namespace ElectronicShop

open Txn

/-! ## Running single statements -/

namespace Db

variable {α β : Type} (db : Db)

@[simp] theorem run_done (a : α) : db.run (.done a) = .ok (a, db) := rfl

@[simp] theorem run_raise (e : ShopError) : db.run (.raise e : Tx α) = .error e := rfl

@[simp] theorem run_send (s : Stmt) : db.run (send s) = .ok (s.exec db) := rfl

@[simp] theorem run_send_bind (s : Stmt) (f : s.Resp → Tx β) :
    db.run (send s >>= f) = (s.exec db).2.run (f (s.exec db).1) := rfl

@[simp] theorem run_write (w : Write) : db.run (write w) = .ok ((), w.apply db) := rfl

@[simp] theorem run_write_bind (w : Write) (f : Unit → Tx β) :
    db.run (write w >>= f) = (w.apply db).run (f ()) := rfl

@[simp] theorem run_flush : db.run flush = .ok ((), db) := rfl

@[simp] theorem run_flush_bind (f : Unit → Tx β) : db.run (flush >>= f) = db.run (f ()) := rfl

@[simp] theorem run_orRaise_some_bind (e : ShopError) (a : α) (f : α → Tx β) :
    db.run (orRaise e (some a) >>= f) = db.run (f a) := rfl

@[simp] theorem run_orRaise_none_bind (e : ShopError) (f : α → Tx β) :
    db.run (orRaise e none >>= f) = .error e := rfl

@[simp] theorem run_orRaise_some (e : ShopError) (a : α) :
    db.run (orRaise e (some a)) = .ok (a, db) := rfl

@[simp] theorem run_orRaise_none (e : ShopError) :
    db.run (orRaise e (none : Option α)) = .error e := rfl

variable {db}

theorem run_bind_ok {m : Tx α} {f : α → Tx β} {db' : Db} {b : β} :
    db.run (m >>= f) = .ok (b, db') ↔
      ∃ a db₁, db.run m = .ok (a, db₁) ∧ db₁.run (f a) = .ok (b, db') :=
  Prog.run_bind_ok

theorem run_bind_pure_ok {m : Tx α} {b b' : β} {db' : Db} :
    db.run (m >>= fun _ => pure b) = .ok (b', db') ↔ b' = b ∧ ∃ a, db.run m = .ok (a, db') := by
  rw [run_bind_ok]
  constructor
  · rintro ⟨a, db₁, hm, hb⟩
    cases hb
    exact ⟨rfl, a, hm⟩
  · rintro ⟨rfl, a, hm⟩
    exact ⟨a, db', hm, rfl⟩

theorem run_orRaise_bind_ok {e : ShopError} {x : Option α} {f : α → Tx β} {db' : Db} {b : β} :
    db.run (orRaise e x >>= f) = .ok (b, db') ↔ ∃ a, x = some a ∧ db.run (f a) = .ok (b, db') := by
  cases x <;> simp

theorem run_orRaise_ok {e : ShopError} {x : Option α} {db' : Db} {a : α} :
    db.run (orRaise e x) = .ok (a, db') ↔ x = some a ∧ db' = db := by
  cases x with
  | none => simp
  | some y => simp [eq_comm]

theorem run_insert_ok {row : NewRow} {db' : Db} {u : Unit} :
    db.run (insert row) = .ok (u, db') ↔ row.taken db = false ∧ db' = row.insert db := by
  unfold insert
  simp only [run_send_bind, Stmt.exec]
  cases h : row.taken db with
  | true => simp
  | false => simp [Write.apply, eq_comm]

theorem get_of_paymentBy {authority : String} {payment : Payment}
    (h : db.paymentBy authority = some payment) : db.payments.get payment.id = some payment :=
  Table.get_of_mem (List.mem_of_find?_eq_some h)

/-! ## Stock as a part of the database -/

def stock (db : Db) : Stock := ⟨db.inventory, db.inventoryHistory⟩

def withStock (db : Db) (s : Stock) : Db :=
  { db with inventory := s.rows, inventoryHistory := s.log }

@[simp] theorem stock_rows (db : Db) : db.stock.rows = db.inventory := rfl

@[simp] theorem stock_log (db : Db) : db.stock.log = db.inventoryHistory := rfl

@[simp] theorem stock_withStock (db : Db) (s : Stock) : (db.withStock s).stock = s := rfl

@[simp] theorem withStock_stock (db : Db) : db.withStock db.stock = db := rfl

@[simp] theorem withStock_withStock (db : Db) (s s' : Stock) :
    (db.withStock s).withStock s' = db.withStock s' := rfl

@[simp] theorem users_withStock (db : Db) (s : Stock) : (db.withStock s).users = db.users := rfl

@[simp] theorem products_withStock (db : Db) (s : Stock) :
    (db.withStock s).products = db.products := rfl

@[simp] theorem inventory_withStock (db : Db) (s : Stock) :
    (db.withStock s).inventory = s.rows := rfl

@[simp] theorem orders_withStock (db : Db) (s : Stock) : (db.withStock s).orders = db.orders := rfl

@[simp] theorem statusHistory_withStock (db : Db) (s : Stock) :
    (db.withStock s).statusHistory = db.statusHistory := rfl

@[simp] theorem payments_withStock (db : Db) (s : Stock) :
    (db.withStock s).payments = db.payments := rfl

@[simp] theorem walletTransactions_withStock (db : Db) (s : Stock) :
    (db.withStock s).walletTransactions = db.walletTransactions := rfl

end Db

/-! ## Stock mutators -/

namespace InventoryService

variable {db db' : Db} {p : Uuid} {quantity : Int} {referenceType : String} {referenceId : Uuid}
  {actorId : Option Uuid} {u : Unit}

theorem run_lockedInventory_bind_ok {β : Type} {f : ProductInventory → Tx β} {b : β} :
    db.run (lockedInventory p >>= f) = .ok (b, db') ↔
      ∃ r, db.inventory.get p = some r ∧ db.run (f r) = .ok (b, db') :=
  Db.run_orRaise_bind_ok

theorem run_reserve_ok :
    db.run (reserve p quantity referenceType referenceId actorId) = .ok (u, db') ↔
      ∃ r, db.inventory.get p = some r ∧ quantity ≤ r.stockTotal - r.stockReserved ∧
        db' = db.withStock (db.stock.move
          ⟨p, .reserve, quantity, some referenceType, some referenceId, actorId⟩) := by
  unfold reserve
  rw [run_lockedInventory_bind_ok]
  refine exists_congr fun r => and_congr_right fun hr => ?_
  simp only
  split
  · simp
    omega
  · simp [Write.apply, Stock.move, Db.withStock, Table.modify_of_get _ hr,
      InventoryChangeType.move, eq_comm]
    omega

theorem run_release_ok :
    db.run (release p quantity referenceType referenceId actorId) = .ok (u, db') ↔
      (db.inventory.get p).isSome ∧ db' = db.withStock (db.stock.move
        ⟨p, .release, quantity, some referenceType, some referenceId, actorId⟩) := by
  unfold release
  rw [run_lockedInventory_bind_ok, Option.isSome_iff_exists, ← exists_and_right]
  refine exists_congr fun r => and_congr_right fun hr => ?_
  simp [Write.apply, Stock.move, Db.withStock, Table.modify_of_get _ hr,
    InventoryChangeType.move, eq_comm]

theorem run_commitPurchase_ok :
    db.run (commitPurchase p quantity referenceType referenceId actorId) = .ok (u, db') ↔
      (db.inventory.get p).isSome ∧ db' = db.withStock (db.stock.move
        ⟨p, .purchase, quantity, some referenceType, some referenceId, actorId⟩) := by
  unfold commitPurchase
  rw [run_lockedInventory_bind_ok, Option.isSome_iff_exists, ← exists_and_right]
  refine exists_congr fun r => and_congr_right fun hr => ?_
  have hkey : r.productId = p := Table.key_of_get hr
  simp [Write.apply, Stock.move, Db.withStock, Table.modify_of_get _ hr, Table.modify_put, hkey,
    InventoryChangeType.move, eq_comm]

theorem run_restock_ok :
    db.run (restock p quantity actorId) = .ok (u, db') ↔
      (db.inventory.get p).isSome ∧ db' = db.withStock (db.stock.move
        ⟨p, .restock, quantity, some "admin_restock", none, actorId⟩) := by
  unfold restock
  rw [run_lockedInventory_bind_ok, Option.isSome_iff_exists, ← exists_and_right]
  refine exists_congr fun r => and_congr_right fun hr => ?_
  simp [Write.apply, Stock.move, Db.withStock, Table.modify_of_get _ hr,
    InventoryChangeType.move, eq_comm]

theorem run_adjust_ok :
    db.run (adjust p quantity actorId) = .ok (u, db') ↔
      ∃ r, db.inventory.get p = some r ∧ r.stockReserved ≤ r.stockTotal + quantity ∧
        db' = db.withStock (db.stock.move
          ⟨p, .adjust, quantity, some "admin_adjust", none, actorId⟩) := by
  unfold adjust
  rw [run_lockedInventory_bind_ok]
  refine exists_congr fun r => and_congr_right fun hr => ?_
  simp only
  split
  · simp
    omega
  · simp [Write.apply, Stock.move, Db.withStock, Table.modify_of_get _ hr,
      InventoryChangeType.move, eq_comm]
    omega

end InventoryService

end ElectronicShop
