import ElectronicShop.Book.Holdings

/-!
# The inventory history as a ledger

The two counters of a product follow from its initial stock and the logged
quantities as long as no `max(0, ...)` is reached: a release or purchase of more
than is reserved lowers the counter by less than it logs.
-/

namespace ElectronicShop

open Txn

/-- The quantities logged for a product with one change type. -/
def logged (log : List InventoryHistory) (p : Uuid) (kind : InventoryChangeType) : Int :=
  (log.map fun e => if e.productId = p ∧ e.changeType = kind then e.quantity else 0).sum

theorem logged_append (log entries : List InventoryHistory) (p : Uuid)
    (kind : InventoryChangeType) :
    logged (log ++ entries) p kind = logged log p kind + logged entries p kind := by
  simp [logged]

theorem logged_eq_zero {log : List InventoryHistory} {p : Uuid}
    (h : ∀ e ∈ log, e.productId ≠ p) (kind : InventoryChangeType) : logged log p kind = 0 := by
  refine List.sum_eq_zero fun x hx => ?_
  obtain ⟨e, he, rfl⟩ := List.mem_map.mp hx
  simp [h e he]

/-- The entries of an order log its quantities, all with one change type. -/
theorem logged_stockEntries (orderId : Uuid) (actorId : Option Uuid) (items : List OrderItem)
    (kind kind' : InventoryChangeType) (p : Uuid) :
    logged (stockEntries orderId actorId items kind) p kind' =
      if kind = kind' then orderQuantity items p else 0 := by
  split
  · rename_i hkind
    rw [← quantityIn_stockEntries orderId actorId items kind p]
    refine congrArg List.sum (List.map_congr_left fun e he => ?_)
    simp [(stockEntries_spec _ _ _ he).1, hkind]
  · rename_i hkind
    refine List.sum_eq_zero fun x hx => ?_
    obtain ⟨e, he, rfl⟩ := List.mem_map.mp hx
    simp [(stockEntries_spec _ _ _ he).1, hkind]

/-- The counters of a product are those its log accounts for. -/
structure Balanced (s : Stock) (p : Uuid) (initialStock : Int) : Prop where
  row : (s.rows.get p).isSome
  total : s.total p = initialStock + logged s.log p .restock + logged s.log p .adjust -
    logged s.log p .purchase
  reserved : s.reserved p = logged s.log p .reserve - logged s.log p .release -
    logged s.log p .purchase

namespace Balanced

variable {s : Stock} {p : Uuid} {initialStock : Int}

/-- A product whose row has just been created. -/
theorem listed (hlog : ∀ e ∈ s.log, e.productId ≠ p) :
    Balanced ⟨s.rows.put ⟨p, initialStock, 0⟩, s.log⟩ p initialStock := by
  have hget : (s.rows.put ⟨p, initialStock, 0⟩).get p = some ⟨p, initialStock, 0⟩ :=
    Table.get_put_self s.rows ⟨p, initialStock, 0⟩
  refine ⟨by simp [hget], ?_, ?_⟩
  · simp [Stock.total, hget, logged_eq_zero hlog]
  · simp [Stock.reserved, hget, logged_eq_zero hlog]

/-- Creating another product. -/
theorem listed_other (h : Balanced s p initialStock) {row : ProductInventory}
    (hfresh : s.rows.get row.productId = none) :
    Balanced ⟨s.rows.put row, s.log⟩ p initialStock := by
  have hne : p ≠ row.productId := by
    rintro rfl
    have hrow := h.row
    simp [hfresh] at hrow
  have hget : (s.rows.put row).get p = s.rows.get p := Table.get_put_of_ne s.rows hne
  refine ⟨by simpa [hget] using h.row, ?_, ?_⟩
  · simpa [Stock.total, hget] using h.total
  · simpa [Stock.reserved, hget] using h.reserved

/-- A change of the total, of this product or another. -/
theorem adjusted (h : Balanced s p initialStock) {e : InventoryHistory}
    (hkind : e.changeType = .restock ∨ e.changeType = .adjust)
    (hrow : (s.rows.get e.productId).isSome) : Balanced (s.move e) p initialStock := by
  obtain ⟨hreserved, htotal⟩ := Stock.counters_adjust hkind hrow p
  have hrow' : ((s.move e).rows.get p).isSome := by
    rw [Stock.isSome_get_move]
    exact h.row
  refine ⟨hrow', ?_, ?_⟩
  · rw [htotal, h.total]
    simp only [Stock.move, logged_append]
    rcases hkind with hk | hk
    · simp [logged, hk]
      omega
    · simp [logged, hk]
      omega
  · rw [hreserved, h.reserved]
    simp only [Stock.move, logged_append]
    rcases hkind with hk | hk <;> simp [logged, hk]

/-- A new order. -/
theorem reserved_for (h : Balanced s p initialStock) {orderId : Uuid} {actorId : Option Uuid}
    {items : List OrderItem}
    (hcovers : s.Covers (stockEntries orderId actorId items .reserve)) :
    Balanced (s.moveAll (stockEntries orderId actorId items .reserve)) p initialStock := by
  obtain ⟨hreserved, htotal⟩ := Stock.reserved_reserve
    (fun e he => (stockEntries_spec _ _ _ he).1) hcovers p
  rw [quantityIn_stockEntries] at hreserved
  refine ⟨by rw [Stock.isSome_get_moveAll]; exact h.row, ?_, ?_⟩
  · rw [htotal, h.total]
    simp [Stock.log_moveAll, logged_append, logged_stockEntries]
  · rw [hreserved, h.reserved]
    simp [Stock.log_moveAll, logged_append, logged_stockEntries]
    omega

/-- A take of no more than is reserved. -/
theorem taken (h : Balanced s p initialStock) (hnonneg : s.Nonneg) (hle : s.reserved p ≤ s.total p)
    {orderId : Uuid} {actorId : Option Uuid} {items : List OrderItem} {kind : InventoryChangeType}
    (htakes : kind = .release ∨ kind = .purchase)
    (hreserved : orderQuantity items p ≤ s.reserved p) :
    Balanced (s.moveAll (stockEntries orderId actorId items kind)) p initialStock := by
  have hkind : ∀ e ∈ stockEntries orderId actorId items kind, e.changeType = kind :=
    fun e he => (stockEntries_spec _ _ _ he).1
  have hquantity : ∀ e ∈ stockEntries orderId actorId items kind, 0 ≤ e.quantity :=
    fun e he => (stockEntries_spec _ _ _ he).2.2.1
  have hafter := Stock.reserved_take hnonneg (fun e he => hkind e he ▸ htakes) hquantity p
  rw [quantityIn_stockEntries, max_eq_right (by omega)] at hafter
  refine ⟨by rw [Stock.isSome_get_moveAll]; exact h.row, ?_, ?_⟩
  · rcases htakes with rfl | rfl
    · rw [Stock.total_release hkind, h.total]
      simp [Stock.log_moveAll, logged_append, logged_stockEntries]
    · rw [Stock.total_purchase hnonneg hkind hquantity, quantityIn_stockEntries,
        max_eq_right (by omega), h.total]
      simp [Stock.log_moveAll, logged_append, logged_stockEntries]
      omega
  · rw [hafter, h.reserved]
    rcases htakes with rfl | rfl
    · simp [Stock.log_moveAll, logged_append, logged_stockEntries]
      omega
    · simp [Stock.log_moveAll, logged_append, logged_stockEntries]
      omega

end Balanced

/-! ## Steps that reach no clamp -/

/-- The items whose stock a request releases or purchases when it is served. -/
def takenItems (db : Db) : Request → List OrderItem
  | .cancelOrder _ orderId _ =>
    match db.orders.get orderId with
    | some order => if order.status ∈ OrderService.releasedOnCancel then order.items else []
    | none => []
  | .paymentCallback _ authority _ _ =>
    match db.paymentBy authority with
    | some payment =>
      if payment.status = .initiated then
        ((db.orders.get payment.orderId).map Order.items).getD []
      else []
    | none => []
  | _ => []

/-- No product is released or purchased in a larger quantity than is reserved. -/
def TakesReserved (store : Store) (request : Request) : Prop :=
  ∀ item ∈ takenItems store.db request, ∀ p ∈ item.productId,
    orderQuantity (takenItems store.db request) p ≤ store.db.stock.reserved p

instance (store : Store) (request : Request) : Decidable (TakesReserved store request) := by
  unfold TakesReserved
  infer_instance

theorem TakesReserved.quantity_le {store : Store} {request : Request}
    (h : TakesReserved store request) (p : Uuid) :
    orderQuantity (takenItems store.db request) p ≤ store.db.stock.reserved p := by
  by_cases hp : ∃ item ∈ takenItems store.db request, item.productId = some p
  · obtain ⟨item, hitem, hp⟩ := hp
    exact h item hitem p hp
  · rw [orderQuantity_eq_zero fun item hitem hq => hp ⟨item, hitem, hq⟩]
    exact store.valid.nonneg.reserved p

/-- The step lemma: a step that takes no more than is reserved keeps every product
    balanced. -/
theorem Balanced.effect {store : Store} {request : Request} {db' : Db} {p : Uuid}
    {initialStock : Int} (h : Balanced store.db.stock p initialStock)
    (hguard : TakesReserved store request) (heffect : Effect store.db request db') :
    Balanced db'.stock p initialStock := by
  have hstock : ∀ {b : Book}, db'.book = b → db'.stock = b.stock := fun hb => congrArg Book.stock hb
  have hquantity := hguard.quantity_le p
  have hle := store.valid.reserved_le_total p
  cases heffect with
  | quiet book => exact hstock book ▸ h
  | updated old new found stored book => exact hstock book ▸ h
  | archived old found book => exact hstock book ▸ h
  | paymentInitiated order authority found payable fresh book => exact hstock book ▸ h
  | reviewed actor order found allowed notRefunded book => exact hstock book ▸ h
  | refunded actor order refund found allowed isRefunded type wallet amount reference book =>
    exact hstock book ▸ h
  | listed fresh book =>
    rw [hstock book]
    exact h.listed_other fresh
  | restocked actorId row book =>
    rw [hstock book]
    exact h.adjusted (Or.inl rfl) row
  | adjusted actorId row book =>
    rw [hstock book]
    exact h.adjusted (Or.inr rfl) row
  | placed userId items fresh lines reservable book =>
    rw [hstock book]
    exact h.reserved_for reservable.covers
  | cancelled user order found covers allowed book =>
    rw [hstock book]
    change Balanced (store.db.stock.moveAll (OrderService.cancelEntries order)) p initialStock
    simp only [takenItems, found] at hquantity
    unfold OrderService.cancelEntries
    split
    · rename_i hreleased
      rw [if_pos hreleased] at hquantity
      exact h.taken store.valid.nonneg hle (Or.inl rfl) hquantity
    · exact h
  | settled payment answer paid order byAuthority wasInitiated outcome found covers allowed book =>
    rw [hstock book]
    simp only [takenItems, byAuthority, wasInitiated, found] at hquantity
    exact h.taken store.valid.nonneg hle (PaymentService.settledMove_takes paid) hquantity

/-! ## Whole runs -/

/-- Every log row is about a product with a stock row. -/
def LogCovered (db : Db) : Prop := ∀ e ∈ db.inventoryHistory, (db.inventory.get e.productId).isSome

theorem LogCovered.moveAll {s s' : Stock} {entries : List InventoryHistory}
    (h : s.Covers s.log) (hentries : s.Covers entries) (hs : s' = s.moveAll entries) :
    s'.Covers s'.log := by
  subst hs
  intro e he
  rw [Stock.isSome_get_moveAll]
  rw [Stock.log_moveAll] at he
  rcases List.mem_append.mp he with he | he
  · exact h e he
  · exact hentries e he

theorem LogCovered.effect {store : Store} {request : Request} {db' : Db}
    (h : LogCovered store.db) (heffect : Effect store.db request db') : LogCovered db' := by
  have hstock : ∀ {b : Book}, db'.book = b → db'.stock = b.stock := fun hb => congrArg Book.stock hb
  have hcovers : store.db.stock.Covers store.db.stock.log := h
  change db'.stock.Covers db'.stock.log
  cases heffect with
  | quiet book => exact hstock book ▸ hcovers
  | updated old new found stored book => exact hstock book ▸ hcovers
  | archived old found book => exact hstock book ▸ hcovers
  | paymentInitiated order authority found payable fresh book => exact hstock book ▸ hcovers
  | reviewed actor order found allowed notRefunded book => exact hstock book ▸ hcovers
  | refunded actor order refund found allowed isRefunded type wallet amount reference book =>
    exact hstock book ▸ hcovers
  | listed fresh book =>
    rw [hstock book]
    intro e he
    rw [Table.get_put]
    split
    · rfl
    · exact h e he
  | restocked actorId row book =>
    exact moveAll hcovers (by simpa using row) (hstock book)
  | adjusted actorId row book =>
    exact moveAll hcovers (by simpa using row) (hstock book)
  | placed userId items fresh lines reservable book =>
    exact moveAll hcovers reservable.covers (hstock book)
  | cancelled user order found covers allowed book => exact moveAll hcovers covers (hstock book)
  | settled payment answer paid order byAuthority wasInitiated outcome found covers allowed book =>
    exact moveAll hcovers covers (hstock book)

theorem LogCovered.run {store₀ store : Store} {guard : Store → Request → Prop}
    {requests : List Request} (h₀ : LogCovered store₀.db)
    (hrun : Run serve guard store₀ requests store) : LogCovered store.db :=
  hrun.invariant (fun s => LogCovered s.db) h₀ fun _ _ _ hs _ hserve =>
    hs.effect (serve_effect hserve)

/-- A created product is balanced. -/
theorem balanced_created {store store' : Store} {subject p : Uuid} {data : ProductCreate}
    (hlog : LogCovered store.db) (hserve : serve (.createProduct subject data p) store = .ok store') :
    Balanced store'.db.stock p data.initialStock := by
  obtain ⟨product, hrun⟩ := Db.run_discard_ok.mp (serve_ok.mp hserve)
  obtain ⟨user, -, -, -, hrun⟩ := run_authorized_bind_ok.mp hrun
  obtain ⟨-, -, -, -, hfresh, -, hdb⟩ := ProductService.run_create_ok.mp hrun
  rw [hdb]
  refine Balanced.listed (s := store.db.stock) fun e he hp => ?_
  have hrow := hlog e he
  rw [hp, hfresh] at hrow
  cases hrow

/-- In a run whose steps never release or purchase more of a product than is
    reserved, the counters of every product created on the way are its initial
    stock and its log, added up. -/
theorem counters_eq_ledger {store₀ store : Store} {requests : List Request}
    (h₀ : LogCovered store₀.db) (hrun : Run serve TakesReserved store₀ requests store)
    {subject p : Uuid} {data : ProductCreate}
    (hcreated : Request.createProduct subject data p ∈ requests) :
    ∃ r, store.db.inventory.get p = some r ∧
      r.stockTotal = data.initialStock + logged store.db.inventoryHistory p .restock +
        logged store.db.inventoryHistory p .adjust - logged store.db.inventoryHistory p .purchase ∧
      r.stockReserved = logged store.db.inventoryHistory p .reserve -
        logged store.db.inventoryHistory p .release -
        logged store.db.inventoryHistory p .purchase := by
  have hbalanced : Balanced store.db.stock p data.initialStock := by
    induction hrun with
    | nil => cases hcreated
    | @snoc requests request s s' before allowed committed ih =>
      rcases List.mem_append.mp hcreated with hearlier | hlast
      · exact (ih hearlier).effect allowed (serve_effect committed)
      · obtain rfl := List.mem_singleton.mp hlast
        exact balanced_created (LogCovered.run h₀ before) committed
  obtain ⟨r, hr⟩ := Option.isSome_iff_exists.mp hbalanced.row
  refine ⟨r, hr, ?_, ?_⟩
  · rw [← Stock.total_of_get hr]
    exact hbalanced.total
  · rw [← Stock.reserved_of_get hr]
    exact hbalanced.reserved

/-- The admin creates the tablet, and a customer orders and pays two of it. -/
def tabletPaid : List Request :=
  [.createProduct 3 newTablet 11, .addCartItem 1 ⟨11, 2, two_pieces⟩ 50, .checkout 1 none 100 0] ++
    payWith "A" "OK" true 1 100 200

/-- The tablet is bought and restocked. -/
theorem counters_eq_ledger_smallShop : ∃ store,
    Run serve TakesReserved smallShop
      (tabletPaid ++ [.restockProduct 3 11 ⟨4, "new", by decide⟩]) store ∧
    ∃ r, store.db.inventory.get 11 = some r ∧
      r.stockTotal = newTablet.initialStock + logged store.db.inventoryHistory 11 .restock +
        logged store.db.inventoryHistory 11 .adjust -
        logged store.db.inventoryHistory 11 .purchase ∧
      r.stockReserved = logged store.db.inventoryHistory 11 .reserve -
        logged store.db.inventoryHistory 11 .release -
        logged store.db.inventoryHistory 11 .purchase := by
  have hrun : ∃ store, Run serve TakesReserved smallShop
      (tabletPaid ++ [.restockProduct 3 11 ⟨4, "new", by decide⟩]) store ∧ True :=
    Run.exists_of_execAll (by decide +kernel)
  obtain ⟨store, hrun, -⟩ := hrun
  have hcovered : LogCovered smallShop.db := fun e he => nomatch he
  exact ⟨store, hrun, counters_eq_ledger hcovered hrun
    (List.mem_append_left _ (List.mem_append_left _ (List.mem_cons_self)))⟩

/-- The paid order is cancelled: the release is logged, but the counter is clamped
    at zero. -/
theorem counters_eq_ledger_fails : LogCovered smallShop.db ∧ ∃ store,
    Run serve anyStep smallShop (tabletPaid ++ [.cancelOrder 1 100 0]) store ∧
    ∃ r ∈ store.db.inventory.rows, r.productId = 11 ∧
      r.stockReserved ≠ logged store.db.inventoryHistory 11 .reserve -
        logged store.db.inventoryHistory 11 .release -
        logged store.db.inventoryHistory 11 .purchase :=
  ⟨(fun _ he => nomatch he), Run.exists_of_execAll (by decide +kernel)⟩

end ElectronicShop
