import ElectronicShop.Execution.Requests
import ElectronicShop.Execution.Sessions

/-!
# What the stock mutators refuse

Each mutator of `InventoryService` works on two coupled counters. `reserve` and `adjust`
compare before they write, `release` and `commit_purchase` stop at zero, and `restock` adds
whatever it is given: it alone can leave a row that the `CHECK` constraints reject. The `INTEGER`
columns are a bound that none of them looks at, for the total and for the quantity in the log.
-/

namespace ElectronicShop

open Txn

/-- The tables of the stock can hold their rows. -/
def Db.StockFits (db : Db) : Prop :=
  (∀ r ∈ db.inventory.rows, r.Valid) ∧ ∀ e ∈ db.inventoryHistory, e.fits

instance Db.decidableStockFits (db : Db) : Decidable db.StockFits :=
  inferInstanceAs (Decidable (_ ∧ _))

/-- A call of a mutator: order services take or give back at least one piece, and the
    endpoints of the catalogue pass on the delta of the request. -/
inductive StockCall where
  | reserve (productId : Uuid) (quantity : Int) (positive : 1 ≤ quantity) (referenceType : String)
      (referenceId : Uuid) (actorId : Option Uuid)
  | release (productId : Uuid) (quantity : Int) (positive : 1 ≤ quantity) (referenceType : String)
      (referenceId : Uuid) (actorId : Option Uuid)
  | commitPurchase (productId : Uuid) (quantity : Int) (positive : 1 ≤ quantity)
      (referenceType : String) (referenceId : Uuid) (actorId : Option Uuid)
  | restock (productId : Uuid) (data : InventoryAdjustRequest) (actorId : Option Uuid)
  | adjust (productId : Uuid) (data : InventoryAdjustRequest) (actorId : Option Uuid)

namespace StockCall

def program : StockCall → Tx Unit
  | .reserve productId quantity _ referenceType referenceId actorId =>
    InventoryService.reserve productId quantity referenceType referenceId actorId
  | .release productId quantity _ referenceType referenceId actorId =>
    InventoryService.release productId quantity referenceType referenceId actorId
  | .commitPurchase productId quantity _ referenceType referenceId actorId =>
    InventoryService.commitPurchase productId quantity referenceType referenceId actorId
  | .restock productId data actorId => InventoryService.restock productId data.delta actorId
  | .adjust productId data actorId => InventoryService.adjust productId data.delta actorId

/-- Nobody else changes the database. -/
def Alone : List RowKey → Db → Db → Prop := fun _ db db' => db' = db

/-- The call leaves rows that the tables can hold, or refuses before it has changed
    anything. -/
def KeepsOrRefuses (call : StockCall) (w : Session) (db : Db) : Prop :=
  wpe shopEngine Alone call.program w [] db (fun _ w' _ db' => (w'.view db').StockFits)
    fun e w' _ _ => e.IsRefusal ∧ w'.pending = w.pending

/-- A restock takes no more away than is free, no change of the total makes it too large for its
    column, and what is given back or sold is no more than the log can hold. -/
def WithinStock (db : Db) : StockCall → Prop
  | .reserve _ _ _ _ _ _ => True
  | .release productId quantity _ _ _ _ =>
    (db.inventory.get productId).isSome → quantity < 2 ^ 31
  | .commitPurchase productId quantity _ _ _ _ =>
    (db.inventory.get productId).isSome → quantity < 2 ^ 31
  | .restock productId data _ => ∀ r ∈ db.inventory.get productId,
      r.stockReserved ≤ r.stockTotal + data.delta ∧ r.stockTotal + data.delta < 2 ^ 31
  | .adjust productId data _ => ∀ r ∈ db.inventory.get productId,
      r.stockReserved ≤ r.stockTotal + data.delta → r.stockTotal + data.delta < 2 ^ 31

end StockCall

section Mutators

variable {w : Session} {held : List RowKey} {db : Db} {p : Uuid}
  {post : Unit → Session → List RowKey → Db → Prop}
  {failed : ShopError → Session → List RowKey → Db → Prop}

/-- A mutator reads the row, or refuses. -/
theorem wpe_lockedInventory_bind (h : w.Coherent db) {f : ProductInventory → Tx Unit} :
    wpe shopEngine StockCall.Alone (InventoryService.lockedInventory p >>= f) w held db post
      failed ↔
      let held' := (Stmt.lockInventory p).needs w db ++ held
      ((w.view db).inventory.get p = none →
        failed (.notFound "موجودی این محصول ثبت نشده است.") (w.load db (.inventory p)) held' db) ∧
      ∀ r, (w.view db).inventory.get p = some r →
        wpe shopEngine StockCall.Alone (f r) (w.load db (.inventory p)) held' db post failed := by
  have hanswer : ((Stmt.lockInventory p).execIn w db).1 = (w.view db).inventory.get p :=
    h.inventory.lookup p
  unfold InventoryService.lockedInventory
  rw [bind_assoc, wpe_send_bind, hanswer]
  constructor
  · intro hwp
    exact wpe_found_bind.mp (hwp db rfl)
  · intro hwp db' hdb
    cases hdb
    exact wpe_found_bind.mpr hwp

theorem wpe_write_alone {x : Write} :
    wpe shopEngine StockCall.Alone (write x) w held db post failed ↔ post () (w.send x) held db := by
  rw [wpe_write]
  exact forall_eq

theorem wpe_write_bind_alone {x : Write} {f : Unit → Tx Unit} :
    wpe shopEngine StockCall.Alone (write x >>= f) w held db post failed ↔
      wpe shopEngine StockCall.Alone (f ()) (w.send x) held db post failed := by
  rw [wpe_write_bind]
  exact forall_eq

/-- One row has been changed, and the change is logged. -/
theorem stockFits_logged (h : db.StockFits) {r : ProductInventory}
    (hget : db.inventory.get p = some r) (f : ProductInventory → ProductInventory)
    (entry : InventoryHistory) :
    ({ db with inventory := db.inventory.modify p f,
               inventoryHistory := db.inventoryHistory ++ [entry] } : Db).StockFits ↔
      (f r).Valid ∧ entry.fits := by
  refine and_congr ?_ ?_
  · change (∀ r' ∈ (db.inventory.modify p f).rows, r'.Valid) ↔ (f r).Valid
    rw [Table.modify_of_get f hget]
    constructor
    · intro hrows
      exact hrows (f r) (Table.mem_of_get (Table.get_put_self db.inventory (f r)))
    · intro hr r' hr'
      rcases Table.mem_put hr' with rfl | hold
      · exact hr
      · exact h.1 r' hold.1
  · change (∀ e ∈ db.inventoryHistory ++ [entry], e.fits) ↔ entry.fits
    rw [List.forall_mem_append, List.forall_mem_singleton]
    exact and_iff_right h.2

/-- A mutator that sets the total of the row it has read. -/
theorem wpe_setStockTotal (h : (w.view db).StockFits) {r : ProductInventory}
    (hr : (w.view db).inventory.get p = some r) (value : Int) (entry : InventoryHistory) :
    (wpe shopEngine StockCall.Alone
      (write (.setStockTotal p value) >>= fun _ => write (.addInventoryHistory entry)) w held db
      (fun _ w' _ db' => (w'.view db').StockFits) failed) ↔
      (0 ≤ value ∧ 0 ≤ r.stockReserved ∧ r.stockReserved ≤ value ∧ value < 2 ^ 31) ∧
        entry.fits := by
  rw [wpe_write_bind_alone, wpe_write_alone]
  simp only [Session.view_send, Write.apply]
  exact stockFits_logged h hr (fun r => { r with stockTotal := value }) entry

theorem wpe_setStockReserved (h : (w.view db).StockFits) {r : ProductInventory}
    (hr : (w.view db).inventory.get p = some r) (value : Int) (entry : InventoryHistory) :
    (wpe shopEngine StockCall.Alone
      (write (.setStockReserved p value) >>= fun _ => write (.addInventoryHistory entry)) w held db
      (fun _ w' _ db' => (w'.view db').StockFits) failed) ↔
      (0 ≤ r.stockTotal ∧ 0 ≤ value ∧ value ≤ r.stockTotal ∧ r.stockTotal < 2 ^ 31) ∧
        entry.fits := by
  rw [wpe_write_bind_alone, wpe_write_alone]
  simp only [Session.view_send, Write.apply]
  exact stockFits_logged h hr (fun r => { r with stockReserved := value }) entry

/-- A mutator that sets both. -/
theorem wpe_setStock (h : (w.view db).StockFits) {r : ProductInventory}
    (hr : (w.view db).inventory.get p = some r) (total reserved : Int)
    (entry : InventoryHistory) :
    (wpe shopEngine StockCall.Alone
      (write (.setStockTotal p total) >>= fun _ => write (.setStockReserved p reserved) >>= fun _ =>
        write (.addInventoryHistory entry)) w held db
      (fun _ w' _ db' => (w'.view db').StockFits) failed) ↔
      (0 ≤ total ∧ 0 ≤ reserved ∧ reserved ≤ total ∧ total < 2 ^ 31) ∧ entry.fits := by
  have htotal : ∀ r : ProductInventory, { r with stockTotal := total }.productId = r.productId :=
    fun _ => rfl
  have hreserved : ∀ r : ProductInventory,
      { r with stockReserved := reserved }.productId = r.productId := fun _ => rfl
  rw [wpe_write_bind_alone, wpe_write_bind_alone, wpe_write_alone]
  simp only [Session.view_send, Write.apply]
  rw [Table.modify_modify _ _ htotal hreserved]
  exact stockFits_logged h hr (fun r => { r with stockTotal := total, stockReserved := reserved })
    entry

end Mutators

namespace StockCall

/-- Every mutator keeps the rows or refuses, but for a restock that takes more away than is
    free and for numbers that are too large for their columns. -/
theorem keepsOrRefuses_iff {w : Session} {db : Db} (hcoherent : w.Coherent db)
    (hstock : (w.view db).StockFits) (call : StockCall) :
    call.KeepsOrRefuses w db ↔ call.WithinStock (w.view db) := by
  unfold KeepsOrRefuses
  have hloaded : ∀ p, ((w.load db (.inventory p)).view db).StockFits := by
    intro p
    rw [Session.view_load]
    exact hstock
  have hget : ∀ {p r}, (w.view db).inventory.get p = some r →
      ((w.load db (.inventory p)).view db).inventory.get p = some r ∧ r.Valid := by
    intro p r hr
    rw [Session.view_load]
    exact ⟨hr, hstock.1 r (Table.mem_of_get hr)⟩
  cases call with
  | reserve p quantity positive referenceType referenceId actorId =>
    simp only [program, InventoryService.reserve, WithinStock, iff_true]
    refine (wpe_lockedInventory_bind hcoherent).mpr ⟨fun _ => ⟨trivial, rfl⟩, fun r hr => ?_⟩
    obtain ⟨hfound, htotal, hreserved, hle, hrange⟩ := hget hr
    refine wpe_if_raise.mpr ⟨fun _ => ⟨trivial, rfl⟩, fun havailable => ?_⟩
    have hlow : -2 ^ 31 ≤ quantity := by omega
    have hhigh : quantity < 2 ^ 31 := by omega
    refine (wpe_setStockReserved (hloaded p) hfound _ _).mpr
      ⟨⟨htotal, ?_, ?_, hrange⟩, hlow, hhigh⟩
    · omega
    · omega
  | release p quantity positive referenceType referenceId actorId =>
    simp only [program, InventoryService.release, WithinStock]
    rw [wpe_lockedInventory_bind hcoherent]
    constructor
    · rintro ⟨-, hwp⟩ hsome
      obtain ⟨r, hr⟩ := Option.isSome_iff_exists.mp hsome
      exact ((wpe_setStockReserved (hloaded p) (hget hr).1 _ _).mp (hwp r hr)).2.2
    · intro hquantity
      refine ⟨fun _ => ⟨trivial, rfl⟩, fun r hr => ?_⟩
      obtain ⟨hfound, htotal, hreserved, hle, hrange⟩ := hget hr
      have hlow : -2 ^ 31 ≤ quantity := by omega
      refine (wpe_setStockReserved (hloaded p) hfound _ _).mpr
        ⟨⟨htotal, ?_, ?_, hrange⟩, hlow, hquantity (Option.isSome_of_eq_some hr)⟩
      · omega
      · omega
  | commitPurchase p quantity positive referenceType referenceId actorId =>
    simp only [program, InventoryService.commitPurchase, WithinStock]
    rw [wpe_lockedInventory_bind hcoherent]
    constructor
    · rintro ⟨-, hwp⟩ hsome
      obtain ⟨r, hr⟩ := Option.isSome_iff_exists.mp hsome
      exact ((wpe_setStock (hloaded p) (hget hr).1 _ _ _).mp (hwp r hr)).2.2
    · intro hquantity
      refine ⟨fun _ => ⟨trivial, rfl⟩, fun r hr => ?_⟩
      obtain ⟨hfound, htotal, hreserved, hle, hrange⟩ := hget hr
      have hlow : -2 ^ 31 ≤ quantity := by omega
      refine (wpe_setStock (hloaded p) hfound _ _ _).mpr
        ⟨⟨?_, ?_, ?_, ?_⟩, hlow, hquantity (Option.isSome_of_eq_some hr)⟩
      · omega
      · omega
      · omega
      · omega
  | restock p data actorId =>
    simp only [program, InventoryService.restock, WithinStock]
    rw [wpe_lockedInventory_bind hcoherent]
    constructor
    · rintro ⟨-, hwp⟩ r hr
      exact ((wpe_setStockTotal (hloaded p) (hget hr).1 _ _).mp (hwp r hr)).1.2.2
    · intro hwithin
      refine ⟨fun _ => ⟨trivial, rfl⟩, fun r hr => ?_⟩
      obtain ⟨hfound, htotal, hreserved, hle, hrange⟩ := hget hr
      obtain ⟨hfree, hnew⟩ := hwithin r hr
      -- the logged difference of two totals is in range when they are
      have hlow : -2 ^ 31 ≤ data.delta := by omega
      have hhigh : data.delta < 2 ^ 31 := by omega
      refine (wpe_setStockTotal (hloaded p) hfound _ _).mpr
        ⟨⟨?_, hreserved, hfree, hnew⟩, hlow, hhigh⟩
      omega
  | adjust p data actorId =>
    simp only [program, InventoryService.adjust, WithinStock]
    rw [wpe_lockedInventory_bind hcoherent]
    constructor
    · rintro ⟨-, hwp⟩ r hr hfree
      have henough := (wpe_if_raise.mp (hwp r hr)).2 (Int.not_lt.mpr hfree)
      exact ((wpe_setStockTotal (hloaded p) (hget hr).1 _ _).mp henough).1.2.2.2
    · intro hwithin
      refine ⟨fun _ => ⟨trivial, rfl⟩, fun r hr => ?_⟩
      obtain ⟨hfound, htotal, hreserved, hle, hrange⟩ := hget hr
      refine wpe_if_raise.mpr ⟨fun _ => ⟨trivial, rfl⟩, fun henough => ?_⟩
      have hfree := Int.not_lt.mp henough
      have hnew := hwithin r hr hfree
      have hlow : -2 ^ 31 ≤ data.delta := by omega
      have hhigh : data.delta < 2 ^ 31 := by omega
      refine (wpe_setStockTotal (hloaded p) hfound _ _).mpr
        ⟨⟨?_, hreserved, hfree, hnew⟩, hlow, hhigh⟩
      omega

/-- All ten pieces are taken back. -/
theorem keepsOrRefuses_iff_smallShop :
    (StockCall.restock 10 ⟨-10, "recall", by decide⟩ none).KeepsOrRefuses shopEngine.start
      smallShop.db := by
  have hstock : (shopEngine.start.view smallShop.db).StockFits := by decide
  refine (keepsOrRefuses_iff (shopImplements.coherent_start smallShop.db) hstock _).mpr ?_
  intro r hr
  cases hr
  decide

/-- Eleven are taken back, or more are added than the column can hold: the database refuses it. -/
theorem keepsOrRefuses_fails :
    smallShop.db.StockFits ∧
    (¬ (StockCall.restock 10 ⟨-11, "recall", by decide⟩ none).KeepsOrRefuses shopEngine.start
        smallShop.db ∧
      serve (.restockProduct 3 10 ⟨-11, "recall", by decide⟩) smallShop = .error .database) ∧
    ¬ (StockCall.restock 10 ⟨2 ^ 31, "count", by decide⟩ none).KeepsOrRefuses shopEngine.start
        smallShop.db ∧
      serve (.restockProduct 3 10 ⟨2 ^ 31, "count", by decide⟩) smallShop = .error .database := by
  have hrow : ∀ data, (StockCall.restock 10 data none).KeepsOrRefuses shopEngine.start
      smallShop.db → (⟨10, 10 + data.delta, 0⟩ : ProductInventory).Valid := by
    intro data h
    exact (h _ rfl _ rfl _ rfl).1 ⟨10, 10 + data.delta, 0⟩ (List.mem_singleton_self _)
  refine ⟨by decide, ⟨fun h => ?_, eq_error_of_map (by decide +kernel)⟩, fun h => ?_,
    eq_error_of_map (by decide +kernel)⟩
  · exact absurd (hrow _ h) (by decide)
  · exact absurd (hrow _ h) (by decide)

end StockCall

end ElectronicShop
