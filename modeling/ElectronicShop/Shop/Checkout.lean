import ElectronicShop.Execution.Footprint
import ElectronicShop.Execution.Requests

/-!
# Checkout, run alone

A checkout that no other transaction overlaps commits exactly when every line of the
cart can be ordered and what it stores fits its columns, and then it does all of it:
`checkout_all_or_nothing`. The order has the lines and the total that the summary of
the cart showed: `charged_as_shown`.
-/

namespace ElectronicShop

open Txn

/-! ## When a cart can be ordered -/

/-- The cart has a line, and every line is of an active product with enough stock left. -/
structure CanCheckOut (db : Db) (userId : Uuid) : Prop where
  cart : (db.carts.get userId).isSome
  nonempty : db.itemsOf userId ≠ []
  products : ∀ c ∈ db.itemsOf userId, ∃ product,
    db.products.get c.productId = some product ∧ product.isActive = true
  stock : ∀ c ∈ db.itemsOf userId, ∃ r, db.inventory.get c.productId = some r ∧
    c.quantity ≤ r.stockTotal - r.stockReserved

/-- What a line costs. -/
def Db.lineTotal (db : Db) (c : CartItem) : Int :=
  ((db.products.get c.productId).map effectiveUnitPrice).getD 0 * c.quantity

/-- The amounts of the order fit their columns. -/
def AmountsFit (db : Db) (userId : Uuid) : Prop :=
  (∀ c ∈ db.itemsOf userId, fitsNumeric 14 (db.lineTotal c)) ∧
  fitsNumeric 14 ((db.itemsOf userId).map db.lineTotal).sum

/-- What a checkout leaves behind. -/
structure CheckedOut (db : Db) (userId : Uuid) (shippingAddress : Option ShippingAddress)
    (orderId : Uuid) (now : DateTime) (db' : Db) : Prop where
  /-- One more order, with one item for each line at its effective price. -/
  order : ∃ items, List.Forall₂ (OrderService.IsLine db.products) (db.itemsOf userId) items ∧
    db.orders.get orderId = none ∧ db'.orders.get orderId =
      some (OrderService.placedOrder userId shippingAddress orderId now items)
  otherOrders : ∀ id, id ≠ orderId → db'.orders.get id = db.orders.get id
  /-- The quantity of each line is reserved. -/
  reserved : ∀ c ∈ db.itemsOf userId, db'.inventory.get c.productId =
    (db.inventory.get c.productId).map fun r =>
      { r with stockReserved := r.stockReserved + c.quantity }
  otherStock : ∀ p, (∀ c ∈ db.itemsOf userId, c.productId ≠ p) →
    db'.inventory.get p = db.inventory.get p
  inventoryHistory : db'.inventoryHistory = db.inventoryHistory ++
    (db.itemsOf userId).map fun c =>
      ⟨c.productId, .reserve, c.quantity, some "order", some orderId, some userId⟩
  statusHistory : db'.statusHistory = db.statusHistory ++
    [⟨orderId, some .pending, .awaitingPayment, some userId, none, now⟩]
  cart : db'.itemsOf userId = []
  otherCarts : ∀ u, u ≠ userId → db'.itemsOf u = db.itemsOf u
  otherTables : ∀ t, t ∉ [TableName.orders, .inventory, .inventoryHistory, .statusHistory,
    .cartItems] → db.Same db' t

/-- What is committed after a transaction that no other overlaps. -/
def Store.after {α : Type} (store : Store) (program : Tx α) : Store :=
  match store.transact program with
  | .ok (_, store') => store'
  | .error _ => store

namespace OrderService

variable {db : Db} {userId orderId : Uuid} {shippingAddress : Option ShippingAddress}
  {now : DateTime} {items : List OrderItem}

theorem subtotals_of_lines {cart : List CartItem}
    (hlines : List.Forall₂ (IsLine db.products) cart items) :
    items.map OrderItem.subtotal = cart.map db.lineTotal := by
  induction hlines with
  | nil => rfl
  | cons hline _ ih =>
    obtain ⟨product, hproduct, -, rfl⟩ := hline
    rw [List.map_cons, List.map_cons, ih, Db.lineTotal, hproduct]
    rfl

/-- The lines of a cart are reserved one by one as they would be together. -/
theorem reservable_lines
    (hlines : List.Forall₂ (IsLine db.products) (db.itemsOf userId) items) :
    db.stock.Reservable (stockEntries orderId (some userId) items .reserve) ↔
      ∀ c ∈ db.itemsOf userId, ∃ r, db.inventory.get c.productId = some r ∧
        c.quantity ≤ r.stockTotal - r.stockReserved := by
  rw [stockEntries_of_lines hlines, Stock.reservable_iff, List.forall_mem_map]
  · rfl
  · rw [List.map_map]
    exact db.nodup_itemsOf userId

theorem checkedOut_placed
    (hlines : List.Forall₂ (IsLine db.products) (db.itemsOf userId) items)
    (hfresh : db.orders.get orderId = none) :
    CheckedOut db userId shippingAddress orderId now
      (db.placed (placedOrder userId shippingAddress orderId now items)) := by
  have hentries : stockEntries orderId (some userId) items .reserve = _ :=
    stockEntries_of_lines hlines (some userId) .reserve
  have hnodup : ((stockEntries orderId (some userId) items .reserve).map
      InventoryHistory.productId).Nodup := by
    rw [hentries, List.map_map]
    exact db.nodup_itemsOf userId
  refine ⟨⟨items, hlines, hfresh, Table.get_put_self _ _⟩, ?_, ?_, ?_, ?_, rfl, ?_, ?_, ?_⟩
  · intro id hid
    exact Table.get_put_of_ne _ hid
  · intro c hc
    refine Stock.get_moveAll_of_mem (s := db.stock) hnodup
      (e := ⟨c.productId, .reserve, c.quantity, some "order", some orderId, some userId⟩) ?_
    rw [hentries]
    exact List.mem_map_of_mem hc
  · intro p hp
    have hother : ∀ e ∈ stockEntries orderId (some userId) items .reserve, e.productId ≠ p := by
      rw [hentries]
      exact List.forall_mem_map.mpr hp
    exact Stock.get_moveAll_of_not_mem hother
  · have hlog := Stock.log_moveAll db.stock (stockEntries orderId (some userId) items .reserve)
    exact hlog.trans (congrArg _ hentries)
  · exact Db.itemsOf_clearCart _ userId
  · intro u hu
    exact Db.itemsOf_clearCart_of_ne _ hu
  · intro t ht
    cases t <;> first | rfl | exact absurd ht (by decide)

/-- Reserving what is left keeps the stock rows valid. -/
theorem valid_reserve {entries : List InventoryHistory} {s : Stock}
    (hkind : ∀ e ∈ entries, e.changeType = .reserve) (hquantity : ∀ e ∈ entries, 0 ≤ e.quantity)
    (hreservable : s.Reservable entries) (h : ∀ r ∈ s.rows.rows, r.Valid) :
    ∀ r ∈ (s.moveAll entries).rows.rows, r.Valid := by
  induction entries generalizing s with
  | nil => exact h
  | cons e rest ih =>
    rw [List.forall_mem_cons] at hkind hquantity
    obtain ⟨⟨r, hr, hle⟩, hrest⟩ := hreservable
    refine ih hkind.2 hquantity.2 hrest (Table.forall_rows_iff.mpr fun p r' hr' => ?_)
    rw [Stock.get_move] at hr'
    have hvalid := Table.forall_rows_iff.mp h
    split at hr'
    · rename_i hp
      rw [hp, hr] at hr'
      cases hr'
      obtain ⟨htotal, hreserved, -, hrange⟩ := hvalid _ r hr
      have hnonneg := hquantity.1
      rw [hkind.1]
      refine ⟨htotal, ?_, ?_, hrange⟩
      · simp only [InventoryChangeType.move]
        omega
      · simp only [InventoryChangeType.move]
        omega
    · exact hvalid p r' hr'

/-- What a checkout stores keeps the constraints exactly when the order fits its columns. -/
theorem constraints_placed (hvalid : db.Constraints)
    (hreservable : db.stock.Reservable (stockEntries orderId (some userId) items .reserve)) :
    (db.placed (placedOrder userId shippingAddress orderId now items)).Constraints ↔
      (placedOrder userId shippingAddress orderId now items).fits := by
  constructor
  · intro h
    exact h.orders _ (Table.mem_of_get (Table.get_put_self db.orders _))
  · intro hfits
    refine ⟨?_, hvalid.products, hvalid.skus, hvalid.slugs, ?_, ?_, hvalid.payments,
      hvalid.authorities, hvalid.wallets, hvalid.walletTransactions⟩
    · refine valid_reserve (fun e he => ?_) (fun e he => ?_) hreservable hvalid.inventory
      · exact (stockEntries_spec _ _ _ he).1
      · exact (stockEntries_spec _ _ _ he).2.2.1
    · intro o ho
      rcases Table.mem_put ho with rfl | ⟨hold, -⟩
      · exact hfits
      · exact hvalid.orders o hold
    · intro e he n hn
      rcases List.mem_append.mp he with hold | hnew
      · exact hvalid.statusHistory e hold n hn
      · obtain rfl := List.mem_singleton.mp hnew
        cases hn

/-- A price that is stored fits. -/
theorem fits_unitPrice {products : Table Product.id} (hproducts : ∀ p ∈ products.rows, p.fits)
    {cart : List CartItem} (hlines : List.Forall₂ (IsLine products) cart items) :
    ∀ item ∈ items, fitsNumeric 12 item.unitPriceSnapshot := by
  induction hlines with
  | nil =>
    intro item hitem
    cases hitem
  | cons hline _ ih =>
    refine List.forall_mem_cons.mpr ⟨?_, ih⟩
    obtain ⟨product, hproduct, -, rfl⟩ := hline
    obtain ⟨hprice, hdiscount, -⟩ := hproducts product (Table.mem_of_get hproduct)
    change fitsNumeric 12 (effectiveUnitPrice product)
    unfold effectiveUnitPrice
    cases hd : product.discountPrice with
    | none => exact hprice
    | some d => exact hdiscount d hd

theorem fits_placedOrder (hvalid : db.Constraints)
    (hlines : List.Forall₂ (IsLine db.products) (db.itemsOf userId) items) :
    (placedOrder userId shippingAddress orderId now items).fits ↔
      AmountsFit db userId ∧ ∀ a ∈ shippingAddress, a.fits := by
  have hsubtotals := subtotals_of_lines hlines
  have hitems : (∀ item ∈ items, fitsNumeric 14 item.subtotal) ↔
      ∀ c ∈ db.itemsOf userId, fitsNumeric 14 (db.lineTotal c) := by
    rw [← List.forall_mem_map (f := OrderItem.subtotal), hsubtotals, List.forall_mem_map]
  have hunit := fits_unitPrice hvalid.products hlines
  unfold Order.fits AmountsFit
  rw [← hitems, ← hsubtotals]
  constructor
  · rintro ⟨hsubtotal, -, haddress, hall⟩
    exact ⟨⟨fun item hitem => (hall item hitem).2, hsubtotal⟩, haddress⟩
  · rintro ⟨⟨hall, htotal⟩, haddress⟩
    exact ⟨htotal, htotal, haddress, fun item hitem => ⟨hunit item hitem, hall item hitem⟩⟩

theorem transact_checkout_ok {store store' : Store} {order : Order} :
    store.transact (checkout userId shippingAddress orderId now) = .ok (order, store') ↔
      ∃ items, (store.db.carts.get userId).isSome ∧ store.db.itemsOf userId ≠ [] ∧
        store.db.orders.get orderId = none ∧
        List.Forall₂ (IsLine store.db.products) (store.db.itemsOf userId) items ∧
        store.db.stock.Reservable (stockEntries orderId (some userId) items .reserve) ∧
        order = placedOrder userId shippingAddress orderId now items ∧
        store'.db = store.db.placed order := by
  rw [Store.transact_ok, run_checkout_ok]

end OrderService

/-! ## All or nothing -/

section AllOrNothing

variable (store : Store) (userId : Uuid) (shippingAddress : Option ShippingAddress) (orderId : Uuid)
  (now : DateTime)

/-- A checkout commits exactly when the cart can be ordered, the amounts and the address
    fit their columns and the identifier drawn for the order is new. Then it leaves what
    `CheckedOut` says, and otherwise everything as it was. -/
theorem checkout_all_or_nothing :
    ((∃ order store', store.transact (OrderService.checkout userId shippingAddress orderId now) =
        .ok (order, store')) ↔
      CanCheckOut store.db userId ∧ AmountsFit store.db userId ∧
        (∀ a ∈ shippingAddress, a.fits) ∧ store.db.orders.get orderId = none) ∧
    (∀ order store', store.transact (OrderService.checkout userId shippingAddress orderId now) =
        .ok (order, store') →
      CheckedOut store.db userId shippingAddress orderId now store'.db) ∧
    ∀ e, store.transact (OrderService.checkout userId shippingAddress orderId now) = .error e →
      store.after (OrderService.checkout userId shippingAddress orderId now) = store := by
  refine ⟨?_, ?_, ?_⟩
  · constructor
    · rintro ⟨order, store', htransact⟩
      obtain ⟨items, hcart, hnonempty, hfresh, hlines, hreservable, rfl, hdb⟩ :=
        OrderService.transact_checkout_ok.mp htransact
      have hfits := (OrderService.constraints_placed store.valid hreservable).mp (hdb ▸ store'.valid)
      obtain ⟨hamounts, haddress⟩ := (OrderService.fits_placedOrder store.valid hlines).mp hfits
      exact ⟨⟨hcart, hnonempty, OrderService.exists_lines.mp ⟨items, hlines⟩,
        (OrderService.reservable_lines hlines).mp hreservable⟩, hamounts, haddress, hfresh⟩
    · rintro ⟨hcan, hamounts, haddress, hfresh⟩
      obtain ⟨items, hlines⟩ := OrderService.exists_lines.mpr hcan.products
      have hreservable : store.db.stock.Reservable
          (stockEntries orderId (some userId) items .reserve) :=
        (OrderService.reservable_lines hlines).mpr hcan.stock
      have hfits : (OrderService.placedOrder userId shippingAddress orderId now items).fits :=
        (OrderService.fits_placedOrder store.valid hlines).mpr ⟨hamounts, haddress⟩
      exact ⟨_, ⟨_, (OrderService.constraints_placed store.valid hreservable).mpr hfits⟩,
        OrderService.transact_checkout_ok.mpr ⟨items, hcan.cart, hcan.nonempty, hfresh, hlines,
          hreservable, rfl, rfl⟩⟩
  · intro order store' htransact
    obtain ⟨items, -, -, hfresh, hlines, -, rfl, hdb⟩ :=
      OrderService.transact_checkout_ok.mp htransact
    rw [hdb]
    exact OrderService.checkedOut_placed hlines hfresh
  · intro e htransact
    rw [Store.after, htransact]

end AllOrNothing

/-- Customer 1 of the small shop with two pieces in the cart. -/
def twoInCart : Store := smallShop.after (addCartItem 1 ⟨10, 2, two_pieces⟩ 50)

theorem itemsOf_twoInCart : twoInCart.db.itemsOf 1 = [⟨50, 1, 10, 2⟩] := by decide +kernel

theorem canCheckOut_twoInCart : CanCheckOut twoInCart.db 1 := by
  have hproduct : ((twoInCart.db.products.get 10).map Product.isActive) = some true := by
    decide +kernel
  have hstock : twoInCart.db.inventory.get 10 = some ⟨10, 10, 0⟩ := by decide +kernel
  refine ⟨by decide +kernel, by rw [itemsOf_twoInCart]; simp, ?_, ?_⟩
  · rw [itemsOf_twoInCart, List.forall_mem_singleton]
    exact Option.map_eq_some_iff.mp hproduct
  · rw [itemsOf_twoInCart, List.forall_mem_singleton]
    exact ⟨_, hstock, by decide⟩

/-- The text of an address with a NUL character in it, which `JSONB` refuses. -/
def nulAddress : ShippingAddress where
  recipientName := String.singleton (Char.ofNat 0)
  province := ""
  city := ""
  addressLine := ""
  postalCode := ""
  phoneNumber := ""

/-- The cart can be ordered and the amounts fit, but the address cannot be stored. -/
theorem checkout_all_or_nothing_fails :
    CanCheckOut twoInCart.db 1 ∧ AmountsFit twoInCart.db 1 ∧
    twoInCart.db.orders.get 100 = none ∧
    twoInCart.transact (OrderService.checkout 1 (some nulAddress) 100 0) = .error .database := by
  have hamounts : AmountsFit twoInCart.db 1 := by
    unfold AmountsFit
    decide +kernel
  have hrefused : (twoInCart.transact (OrderService.checkout 1 (some nulAddress) 100 0)).map
      (fun _ => ()) = .error .database := by decide +kernel
  exact ⟨canCheckOut_twoInCart, hamounts, by decide +kernel, eq_error_of_map hrefused⟩

/-! ## The order and the summary of the cart -/

/-- A line as a customer sees it, in the order and in the summary of the cart. -/
structure ShownLine where
  productId : Option Uuid
  unitPrice : Int
  quantity : Nat
  subtotal : Int
  deriving DecidableEq

def OrderItem.shown (item : OrderItem) : ShownLine :=
  ⟨item.productId, item.unitPriceSnapshot, item.quantity, item.subtotal⟩

def CartItemPublic.shown (item : CartItemPublic) : ShownLine :=
  ⟨some item.productId, item.unitPrice, item.quantity, item.subtotal⟩

namespace CartService

variable {db : Db} {userId : Uuid} {items : List OrderItem}

/-- A line that can be ordered is shown at the price it is ordered at. -/
theorem run_summarize {c : CartItem} {item : OrderItem}
    (hline : OrderService.IsLine db.products c item) (summary : CartSummary) :
    ∃ shown, shown.shown = item.shown ∧ db.run (summarize summary c) =
      .ok (⟨summary.items ++ [shown], summary.subtotal + item.subtotal,
        summary.subtotal + item.subtotal⟩, db) := by
  obtain ⟨product, hproduct, hactive, rfl⟩ := hline
  refine ⟨⟨product.id, product.name, product.slug, effectiveUnitPrice product, c.quantity,
    effectiveUnitPrice product * c.quantity, availableStock (db.inventory.get c.productId)⟩,
    rfl, ?_⟩
  unfold summarize
  rw [Db.run_send_bind]
  simp only [Stmt.exec, hproduct, Option.map_some, hactive, Bool.true_eq_false, if_false]
  rfl

theorem run_summarizeAll {cart : List CartItem}
    (hlines : List.Forall₂ (OrderService.IsLine db.products) cart items) (summary : CartSummary)
    (htotal : summary.total = summary.subtotal) :
    ∃ summary', db.run (cart.foldlM summarize summary) = .ok (summary', db) ∧
      summary'.items.map CartItemPublic.shown =
        summary.items.map CartItemPublic.shown ++ items.map OrderItem.shown ∧
      summary'.total = summary.subtotal + (items.map OrderItem.subtotal).sum := by
  induction hlines generalizing summary with
  | nil => exact ⟨summary, rfl, by simp, by simpa using htotal⟩
  | @cons _ item _ _ hline _ ih =>
    obtain ⟨shown, hshown, hfirst⟩ := run_summarize hline summary
    obtain ⟨summary', hrest, hitems, htotal'⟩ := ih ⟨summary.items ++ [shown],
      summary.subtotal + item.subtotal, summary.subtotal + item.subtotal⟩ rfl
    refine ⟨summary', ?_, ?_, ?_⟩
    · rw [List.foldlM_cons]
      exact Db.run_bind_ok.mpr ⟨_, _, hfirst, hrest⟩
    · rw [hitems]
      simp [hshown]
    · rw [htotal', List.map_cons, List.sum_cons]
      exact Int.add_assoc _ _ _

end CartService

/-- An order has the lines and the total that the summary of the cart showed in the
    state it was placed in. -/
theorem charged_as_shown {db db' : Db} {userId orderId : Uuid}
    {shippingAddress : Option ShippingAddress} {now : DateTime} {order : Order}
    (h : db.run (OrderService.checkout userId shippingAddress orderId now) = .ok (order, db')) :
    ∃ summary, db.run (CartService.getSummary userId) = .ok (summary, db) ∧
      (order.items.map OrderItem.shown).Perm (summary.items.map CartItemPublic.shown) ∧
      order.total = summary.total := by
  obtain ⟨items, hcart, -, -, hlines, -, rfl, -⟩ := OrderService.run_checkout_ok.mp h
  obtain ⟨summary, hrun, hitems, htotal⟩ :=
    CartService.run_summarizeAll hlines ⟨[], 0, 0⟩ rfl
  refine ⟨summary, ?_, ?_, ?_⟩
  · unfold CartService.getSummary
    exact Db.run_bind_ok.mpr
      ⟨_, _, CartRepository.run_getOrCreate_ok.mpr (Or.inl ⟨hcart, rfl, rfl⟩), hrun⟩
  · rw [hitems]
    exact .refl _
  · rw [htotal, Int.zero_add]
    rfl

theorem charged_as_shown_twoInCart : ∃ order db' summary,
    twoInCart.db.run (OrderService.checkout 1 none 100 0) = .ok (order, db') ∧
    twoInCart.db.run (CartService.getSummary 1) = .ok (summary, twoInCart.db) ∧
    (order.items.map OrderItem.shown).Perm (summary.items.map CartItemPublic.shown) ∧
    order.total = summary.total := by
  obtain ⟨items, hlines⟩ := OrderService.exists_lines.mpr canCheckOut_twoInCart.products
  have hfresh : twoInCart.db.orders.get 100 = none := by decide +kernel
  have hrun : twoInCart.db.run (OrderService.checkout 1 none 100 0) = .ok (_, _) :=
    OrderService.run_checkout_ok.mpr ⟨items, canCheckOut_twoInCart.cart,
      canCheckOut_twoInCart.nonempty, hfresh, hlines,
      (OrderService.reservable_lines hlines).mpr canCheckOut_twoInCart.stock, rfl, rfl⟩
  obtain ⟨summary, hsummary, hitems, htotal⟩ := charged_as_shown hrun
  exact ⟨_, _, summary, hrun, hsummary, hitems, htotal⟩

end ElectronicShop
