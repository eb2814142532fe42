import ElectronicShop.Book.Holdings
import ElectronicShop.Execution.Sessions
import ElectronicShop.Execution.Requests
import Mathlib.Algebra.BigOperators.Group.Finset.Basic

/-!
# Concurrent checkouts

Any number of checkouts. `reserve` locks the stock row it changes, but the checkout
has read the row with its product before, without a lock, and a locked row that is
loaded already is answered with its object. So what is written is the quantity of
the checkout on top of the row as it was first read, and the checkouts add up
exactly as long as no transaction commits a row that has changed since.
-/

namespace ElectronicShop

open Txn

/-- The stock row a write updates. -/
def Write.stockRow : Write → Option Uuid
  | .setStockTotal p _ => some p
  | .setStockReserved p _ => some p
  | _ => none

/-- The items of an order as a session sees its object. -/
def Session.itemsOf (w : Session) (orderId : Uuid) : Option (List OrderItem) :=
  (w.objects.orders.get orderId).map Order.items

/-- What a session has done to the stock of a product: nothing, or reserved a quantity
    on top of the row it has loaded. -/
inductive Session.Reserving (w : Session) (p : Uuid) (quantity : Int) : Prop where
  | untouched (object : w.objects.inventory.get p = w.loaded.inventory.get p)
      (view : ∀ db, (w.view db).inventory.get p = db.inventory.get p) (none : quantity = 0)
  | reserved (r : ProductInventory) (loaded : w.loaded.inventory.get p = some r)
      (object : w.objects.inventory.get p =
        some { r with stockReserved := r.stockReserved + quantity })
      (written : p ∈ w.pending.filterMap Write.stockRow)
      (view : ∀ db, (w.view db).inventory.get p = (db.inventory.get p).map fun r' =>
        { r' with stockReserved := r.stockReserved + quantity })

namespace Session

variable {w : Session} {p : Uuid} {quantity : Int} {orderId : Uuid}

/-- A load neither changes an object nor writes. -/
theorem Reserving.load (h : w.Reserving p quantity) (db : Db) (k : RowKey) :
    (w.load db k).Reserving p quantity := by
  have hview : ∀ db', (w.load db k).view db' = w.view db' := fun db' => view_load w db db' k
  have hobjects : (w.load db k).objects.inventory.get p = w.objects.inventory.get p ∧
      (w.load db k).loaded.inventory.get p = w.loaded.inventory.get p ∨
      w.objects.inventory.get p = none ∧
      (w.load db k).objects.inventory.get p = (w.load db k).loaded.inventory.get p := by
    cases k with
    | inventory p' =>
      simp only [Session.load, Table.get_remember]
      split
      · rename_i hload
        exact Or.inr ⟨hload.1 ▸ hload.2.1, rfl⟩
      · exact Or.inl ⟨rfl, rfl⟩
    | _ => exact Or.inl ⟨rfl, rfl⟩
  have hpending : (w.load db k).pending = w.pending := by cases k <;> rfl
  cases h with
  | untouched object view none =>
    refine .untouched ?_ (fun db' => hview db' ▸ view db') none
    rcases hobjects with ⟨hobject, hloaded⟩ | ⟨-, hsame⟩
    · rw [hobject, hloaded, object]
    · exact hsame
  | reserved r loaded object written view =>
    rcases hobjects with ⟨hobject, hloaded⟩ | ⟨hnone, -⟩
    · exact .reserved r (hloaded.trans loaded) (hobject.trans object) (hpending ▸ written)
        fun db' => hview db' ▸ view db'
    · rw [object] at hnone
      cases hnone

/-- Cart lines are loaded. -/
theorem Reserving.loadItems (h : w.Reserving p quantity) (items : List CartItem) :
    (items.foldl Session.loadItem w).Reserving p quantity := by
  obtain ⟨_, _, heq⟩ := w.loadItems_eq items
  rw [heq]
  cases h with
  | untouched object view none => exact .untouched object view none
  | reserved r loaded object written view => exact .reserved r loaded object written view

/-- A change of something else. -/
theorem Reserving.send (h : w.Reserving p quantity) {x : Write}
    (hx : ∀ db : Db, (x.apply db).inventory.get p = db.inventory.get p) :
    (w.send x).Reserving p quantity := by
  have hview : ∀ db, ((w.send x).view db).inventory.get p = (w.view db).inventory.get p := by
    intro db
    rw [view_send, hx]
  have hobject : (w.send x).objects.inventory.get p = w.objects.inventory.get p := hx w.objects
  cases h with
  | untouched object view none =>
    exact .untouched (hobject.trans object) (fun db => (hview db).trans (view db)) none
  | reserved r loaded object written view =>
    refine .reserved r loaded (hobject.trans object) ?_ fun db => (hview db).trans (view db)
    change p ∈ (w.pending ++ [x]).filterMap Write.stockRow
    rw [List.filterMap_append]
    exact List.mem_append_left _ written

/-- `reserve` adds to what the object says, whatever the row is by now. -/
theorem Reserving.reserve (h : w.Reserving p quantity) {db : Db} {row : ProductInventory}
    (hrow : w.objects.inventory.lookup (w.view db).inventory p = some row) (n : Int) :
    ((w.load db (.inventory p)).send (.setStockReserved p (row.stockReserved + n))).Reserving p
      (quantity + n) := by
  have hloaded : (w.load db (.inventory p)).objects.inventory.get p = some row := by
    rw [← hrow]
    exact Table.get_remember_self w.objects.inventory (w.view db).inventory p
  have hset : ∀ db : Db, ((Write.setStockReserved p (row.stockReserved + n)).apply db).inventory.get
      p = (db.inventory.get p).map fun r =>
        { r with stockReserved := row.stockReserved + n } := by
    intro db
    simp [Write.apply, Table.get_modify]
  have hwritten : p ∈ ((w.load db (.inventory p)).send
      (.setStockReserved p (row.stockReserved + n))).pending.filterMap Write.stockRow := by
    simp [Session.send, Write.stockRow]
  have hobject : ((w.load db (.inventory p)).send
      (.setStockReserved p (row.stockReserved + n))).objects.inventory.get p =
        some { row with stockReserved := row.stockReserved + n } := by
    change ((Write.setStockReserved p _).apply (w.load db (.inventory p)).objects).inventory.get p = _
    rw [hset, hloaded, Option.map_some]
  cases h.load db (.inventory p) with
  | untouched object view none =>
    refine .reserved row (object.symm.trans hloaded) ?_ hwritten fun db' => ?_
    · rw [hobject, none, zero_add]
    · rw [view_send, hset, view, none, zero_add]
  | reserved r loaded object written view =>
    obtain rfl := Option.some.inj (hloaded.symm.trans object)
    refine .reserved r loaded ?_ hwritten fun db' => ?_
    · rw [hobject, Int.add_assoc]
    · rw [view_send, hset, view, Option.map_map, Int.add_assoc]
      rfl

theorem itemsOf_load {items : List OrderItem} (h : w.itemsOf orderId = some items) (db : Db)
    (k : RowKey) : (w.load db k).itemsOf orderId = some items := by
  cases k with
  | order id =>
    unfold itemsOf at h ⊢
    simp only [Session.load, Table.get_remember]
    split
    · rename_i hload
      rw [hload.1, hload.2.1] at h
      cases h
    · exact h
  | _ => exact h

theorem itemsOf_send {items : List OrderItem} (h : w.itemsOf orderId = some items) {x : Write}
    (hx : ∀ db : Db, ((x.apply db).orders.get orderId).map Order.items =
      (db.orders.get orderId).map Order.items) : (w.send x).itemsOf orderId = some items :=
  (hx w.objects).trans h

end Session

/-- A change to an order that keeps its items. -/
theorem items_modify (orders : Table Order.id) (id orderId : Uuid) {f : Order → Order}
    (hf : ∀ o, (f o).id = o.id ∧ (f o).items = o.items) :
    ((orders.modify id f).get orderId).map Order.items = (orders.get orderId).map Order.items := by
  rw [Table.get_modify _ _ _ fun o => (hf o).1]
  split
  · rename_i hid
    rw [Option.map_map, hid]
    exact congrArg (fun g => Option.map g (orders.get id)) (funext fun o => (hf o).2)
  · rfl

/-- What a checkout has done when it has placed `items`: reserved each of them. -/
def Placing (orderId : Uuid) (items : List OrderItem) (w : Session) : Prop :=
  w.itemsOf orderId = some items ∧ ∀ p, w.Reserving p (orderQuantity items p)

namespace Placing

variable {orderId : Uuid} {items : List OrderItem} {w : Session}

theorem load (h : Placing orderId items w) (db : Db) (k : RowKey) :
    Placing orderId items (w.load db k) :=
  ⟨Session.itemsOf_load h.1 db k, fun p => (h.2 p).load db k⟩

/-- A write to another table, or to other columns of the order. -/
theorem send (h : Placing orderId items w) {x : Write}
    (hstock : ∀ db : Db, (x.apply db).inventory = db.inventory)
    (hitems : ∀ db : Db, ((x.apply db).orders.get orderId).map Order.items =
      (db.orders.get orderId).map Order.items) : Placing orderId items (w.send x) :=
  ⟨Session.itemsOf_send h.1 hitems, fun p => (h.2 p).send fun db => by rw [hstock]⟩

/-- An item that is added to the order, and reserved. -/
theorem addItem (h : Placing orderId items w) {item : OrderItem} {p : Uuid}
    (hproduct : item.productId = some p) {db : Db} {row : ProductInventory}
    (hrow : (w.send (.addOrderItem orderId item)).objects.inventory.lookup
      ((w.send (.addOrderItem orderId item)).view db).inventory p = some row) :
    Placing orderId (items ++ [item]) (((w.send (.addOrderItem orderId item)).load db
      (.inventory p)).send (.setStockReserved p (row.stockReserved + item.quantity))) := by
  have hadded : ∀ p', (w.send (.addOrderItem orderId item)).Reserving p' (orderQuantity items p') :=
    fun p' => (h.2 p').send fun _ => rfl
  refine ⟨?_, fun p' => ?_⟩
  · refine Session.itemsOf_send (Session.itemsOf_load ?_ db _) fun _ => rfl
    obtain ⟨o, ho, hitems⟩ := Option.map_eq_some_iff.mp h.1
    unfold Session.itemsOf
    simp only [Session.send, Write.apply]
    rw [Table.get_modify _ _ _ (by simp), if_pos rfl, ho, Option.map_some, Option.map_some, hitems]
  · have hquantity : orderQuantity (items ++ [item]) p' =
        orderQuantity items p' + if p = p' then (item.quantity : Int) else 0 := by
      simp [orderQuantity, hproduct]
    rw [hquantity]
    by_cases hp : p = p'
    · subst hp
      rw [if_pos rfl]
      exact (hadded p).reserve hrow item.quantity
    · rw [if_neg hp, add_zero]
      refine ((hadded p').load db _).send fun db' => ?_
      simp only [Write.apply]
      rw [Table.get_modify _ _ _ (by simp), if_neg (Ne.symm hp)]

end Placing

section Checkout

variable {orderId userId : Uuid} {items : List OrderItem} {w : Session} {held : List RowKey} {db : Db}

/-- One round of the loop. -/
theorem wp_checkoutItem (h : Placing orderId items w) (subtotal : Int) (cartItem : CartItem) :
    wp shopEngine (fun _ _ _ => True) (OrderService.checkoutItem orderId userId subtotal cartItem) w
      held db fun _ w' _ _ => ∃ items', Placing orderId items' w' := by
  unfold OrderService.checkoutItem
  refine wp_send_bind.mpr fun db₁ _ => wp_orRaise_bind.mpr fun ⟨product, inventory⟩ _ => ?_
  have hread : Placing orderId items ((Stmt.getProduct cartItem.productId).execIn w db).2 := by
    simp only [Stmt.execIn]
    split
    · exact (h.load db _).load db _
    · exact h
  generalize ((Stmt.getProduct cartItem.productId).execIn w db).2 = w₁ at hread
  refine wp_if_raise.mpr fun _ => wp_write_bind.mpr fun db₂ _ => ?_
  unfold InventoryService.reserve InventoryService.lockedInventory
  rw [bind_assoc, bind_assoc]
  refine wp_send_bind.mpr fun db₃ _ => wp_orRaise_bind.mpr fun row hrow => ?_
  have hreserved := hread.addItem rfl hrow
  rw [wp_bind]
  refine wp_if_raise.mpr fun _ => wp_write_bind.mpr fun db₄ _ => wp_write.mpr fun db₅ _ => ?_
  exact ⟨_, hreserved.send (fun _ => rfl) fun _ => rfl⟩

/-- The cart is cleared without touching stock or order. -/
theorem wp_clear (h : Placing orderId items w) :
    wp shopEngine (fun _ _ _ => True) (CartRepository.clear userId) w held db
      fun _ w' _ _ => Placing orderId items w' := by
  unfold CartRepository.clear
  refine wp_send_bind.mpr fun db₁ _ => ?_
  exact wp_forM (fun _ w' _ _ => Placing orderId items w')
    (fun item _ w' _ _ hw' => wp_write.mpr fun _ _ => hw'.send (fun _ => rfl) fun _ => rfl) _ _ _ _ h

theorem wp_finishCheckout (h : Placing orderId items w) {order : Order} (hid : order.id = orderId)
    (subtotal : Int) (now : DateTime) :
    wp shopEngine (fun _ _ _ => True) (OrderService.finishCheckout order subtotal now) w held db
      fun result w' _ _ => ∀ p, w'.Reserving p (orderQuantity result.items p) := by
  unfold OrderService.finishCheckout OrderService.transition
  refine wp_write_bind.mpr fun db₁ _ => ?_
  rw [wp_bind]
  refine wp_if_raise.mpr fun _ => wp_write_bind.mpr fun db₂ _ => wp_write_bind.mpr fun db₃ _ => ?_
  rw [if_neg (by decide)]
  have hamounts := h.send (x := .setOrderAmounts order.id subtotal subtotal) (fun _ => rfl)
    fun _ => items_modify _ _ _ (by simp)
  have hlogged := hamounts.send (x := .addStatusHistory ⟨order.id, some order.status,
    .awaitingPayment, some order.userId, none, now⟩) (fun _ => rfl) fun _ => rfl
  have hmoved := hlogged.send (x := .setOrderStatus order.id .awaitingPayment) (fun _ => rfl)
    fun _ => items_modify _ _ _ (by simp)
  rw [Prog.pure_eq, wp_done, wp_bind]
  refine wp_mono (wp_clear hmoved) fun _ w₁ held₁ db₄ hcleared => ?_
  refine wp_flush_bind.mpr fun db₅ _ => wp_send_bind.mpr fun db₆ _ =>
    wp_orRaise.mpr fun result hresult p => ?_
  obtain ⟨o, ho, hitems⟩ := Option.map_eq_some_iff.mp hcleared.1
  have hobject : w₁.objects.orders.lookup (w₁.view db₅).orders order.id = some o := by
    rw [hid, Table.lookup, ho, Option.some_or]
  obtain rfl : o = result := Option.some.inj (hobject.symm.trans hresult)
  rw [hitems]
  exact (hcleared.2 p).load db₅ (.order order.id)

/-- Nothing is reserved when a session begins. -/
theorem reserving_start (p : Uuid) : shopEngine.start.Reserving p 0 :=
  .untouched rfl (fun _ => rfl) rfl

/-- A checkout ends having reserved what it has ordered, on top of the rows it has
    loaded. -/
theorem wp_checkout (shippingAddress : Option ShippingAddress) (now : DateTime) :
    wp shopEngine (fun _ _ _ => True)
      (OrderService.checkout userId shippingAddress orderId now) shopEngine.start held db
      fun result w' _ _ => ∀ p, w'.Reserving p (orderQuantity result.items p) := by
  unfold OrderService.checkout
  rw [wp_bind]
  have hcart : wp shopEngine (fun _ _ _ => True) (CartRepository.getOrCreate userId)
      shopEngine.start held db fun _ w' _ _ => ∀ p, w'.Reserving p 0 :=
    wp_getOrCreate (fun _ _ _ p => (reserving_start p).loadItems _)
      fun _ _ _ _ p => (reserving_start p).send fun _ => rfl
  refine wp_mono hcart fun cartItems w₁ held₁ db₁ hw₁ => ?_
  refine wp_if_raise.mpr fun _ => wp_insert_bind fun _ db₂ _ => ?_
  have hplaced : ∃ items, Placing orderId items (w₁.send (.add (.order
      { id := orderId, userId, status := .pending, subtotal := 0, total := 0, shippingAddress,
        cancelledAt := none, createdAt := now, items := [] }))) := by
    refine ⟨[], ?_, fun p => (hw₁ p).send fun _ => rfl⟩
    exact congrArg (Option.map Order.items) (Table.get_put_self w₁.objects.orders _)
  rw [wp_bind]
  refine wp_mono (wp_foldlM (fun _ _ w' _ _ => ∃ items, Placing orderId items w')
    (fun cartItem _ subtotal w' _ _ ⟨items, hw'⟩ => wp_checkoutItem hw' subtotal cartItem)
    cartItems 0 _ _ _ hplaced) fun subtotal w₂ _ _ ⟨items, hw₂⟩ => ?_
  exact wp_finishCheckout hw₂ rfl subtotal now

end Checkout

/-! ## Commits -/

/-- Where the row is as it was loaded, a commit adds the quantity to it. -/
theorem Session.Reserving.get_view {w : Session} {p : Uuid} {quantity : Int}
    (h : w.Reserving p quantity) {db : Db}
    (hcurrent : p ∈ w.pending.filterMap Write.stockRow →
      db.inventory.get p = w.loaded.inventory.get p) :
    (w.view db).inventory.get p = (db.inventory.get p).map fun r =>
      { r with stockReserved := r.stockReserved + quantity } := by
  cases h with
  | untouched object view none =>
    rw [view, none]
    simp
  | reserved r loaded object written view =>
    rw [view, hcurrent written, loaded, Option.map_some, Option.map_some]

/-- A checkout. -/
structure Checkout where
  userId : Uuid
  shippingAddress : Option ShippingAddress
  orderId : Uuid
  now : DateTime

/-- Its transaction. -/
def Checkout.program (checkout : Checkout) : Tx Order :=
  OrderService.checkout checkout.userId checkout.shippingAddress checkout.orderId checkout.now

/-- What a committed checkout has sold of a product. -/
def soldQuantity (result : Option Order) (p : Uuid) : Int :=
  (result.map fun order => orderQuantity order.items p).getD 0

section Concurrent

variable {ι : Type}

/-- The checkouts arrive. -/
def Checkout.start (db : Db) (checkouts : ι → Checkout) :
    Config shop ShopError Order Db Session RowKey ι where
  db := db
  clients i := .running (checkouts i).program shopEngine.start []

/-- No commit updates a stock row that has changed since the transaction loaded it. -/
def WritesCurrentStock (c : Config shop ShopError Order Db Session RowKey ι) : Event ι → Prop
  | .turn i =>
    match c.clients i with
    | .running (.done _) w _ => ∀ p ∈ w.pending.filterMap Write.stockRow,
        c.db.inventory.get p = w.loaded.inventory.get p
    | _ => True
  | .kill _ => True

instance (c : Config shop ShopError Order Db Session RowKey ι) :
    (ev : Event ι) → Decidable (WritesCurrentStock c ev)
  | .turn i => by
    simp only [WritesCurrentStock]
    rcases c.clients i with ⟨_ | _ | _, _, _⟩ | _ | _ <;> infer_instance
  | .kill _ => isTrue trivial

variable [Fintype ι] [DecidableEq ι] {db₀ : Db} {checkouts : ι → Checkout}

theorem sum_soldQuantity_update {results : ι → Option Order} {i : ι} (hi : results i = none)
    (order : Order) (p : Uuid) :
    (∑ j, soldQuantity (Function.update results i (some order) j) p) =
      (∑ j, soldQuantity (results j) p) + orderQuantity order.items p := by
  rw [← Finset.add_sum_erase Finset.univ _ (Finset.mem_univ i),
    ← Finset.add_sum_erase Finset.univ (fun j => soldQuantity (results j) p) (Finset.mem_univ i)]
  have hothers : ∀ j ∈ Finset.univ.erase i,
      soldQuantity (Function.update results i (some order) j) p = soldQuantity (results j) p := by
    intro j hj
    rw [Function.update_of_ne (Finset.ne_of_mem_erase hj)]
  rw [Finset.sum_congr rfl hothers, Function.update_self, hi]
  simp only [soldQuantity, Option.map_some, Option.map_none, Option.getD_some, Option.getD_none]
  omega

/-- Every stock row is the one of the start, with what was sold reserved. -/
def AddsUp (db₀ db : Db) (results : ι → Option Order) : Prop :=
  ∀ p, db.inventory.get p = (db₀.inventory.get p).map fun r =>
    { r with stockReserved := r.stockReserved + ∑ i, soldQuantity (results i) p }

/-- The outline of the checkouts: nothing is relied on of the others. -/
def Checkout.outline (db₀ : Db) :
    Outline shopEngine (WritesCurrentStock : Config shop ShopError Order Db Session RowKey ι → _) where
  rely _ _ _ _ := True
  post _ order w _ _ := ∀ p, w.Reserving p (orderQuantity order.items p)
  inv db results := AddsUp db₀ db results ∧ db.Constraints
  rely_refl _ _ _ := trivial
  rely_trans _ _ _ _ _ _ _ := trivial
  post_stable _ _ _ _ _ _ hpost _ := hpost
  commit_ok := by
    intro c i order w held db hi hcond hinv hpost hcommit
    obtain ⟨hvalid, rfl⟩ := shopEngine_commit_ok.mp hcommit
    refine ⟨⟨fun p => ?_, hvalid⟩, fun _ _ _ _ => trivial⟩
    have hcurrent : ∀ p ∈ w.pending.filterMap Write.stockRow,
        c.db.inventory.get p = w.loaded.inventory.get p := by
      simpa only [WritesCurrentStock, hi] using hcond
    have hrunning : c.results i = none := by
      simp only [Config.results, hi, Client.result]
    rw [(hpost p).get_view (hcurrent p), hinv.1 p, sum_soldQuantity_update hrunning order p,
      Option.map_map]
    refine congrArg (fun f => Option.map f (db₀.inventory.get p)) (funext fun r => ?_)
    simp only [Function.comp_apply, Int.add_assoc]

/-- Checkouts that never overwrite a changed stock row, interleaved in any way: the stock
    reserved grows by exactly what is sold, which never is more than was available. -/
theorem sold_within_available {c : Config shop ShopError Order Db Session RowKey ι}
    (hvalid : db₀.Constraints)
    (hreach : Reach shopEngine WritesCurrentStock (Checkout.start db₀ checkouts) c) :
    ∀ r₀ ∈ db₀.inventory.rows, ∃ r, c.db.inventory.get r₀.productId = some r ∧
      r.stockTotal = r₀.stockTotal ∧
      r.stockReserved = r₀.stockReserved + ∑ i, soldQuantity (c.results i) r₀.productId ∧
      ∑ i, soldQuantity (c.results i) r₀.productId ≤ r₀.stockTotal - r₀.stockReserved := by
  have hstart : AddsUp db₀ db₀ fun _ : ι => none := by
    intro p
    simp [soldQuantity]
  obtain ⟨haddsUp, hvalid'⟩ := ((Checkout.outline db₀).sound ((Checkout.outline db₀).good_start db₀ _
    ⟨hstart, hvalid⟩ fun i db _ => wp_checkout _ _) hreach).inv
  intro r₀ hr₀
  have hrow := haddsUp r₀.productId
  rw [Table.get_of_mem hr₀, Option.map_some] at hrow
  refine ⟨_, hrow, rfl, rfl, ?_⟩
  obtain ⟨-, -, hle, -⟩ := hvalid'.inventory _ (Table.mem_of_get hrow)
  simp only at hle
  omega

end Concurrent

/-- Customers 1 and 2 check out at once. -/
def twoCheckouts (i : Fin 2) : Checkout := ⟨1 + i, none, 100 + i, 0⟩

/-- Both customers have put some pieces of product 10 into their carts. -/
def bothWant (quantity : Nat) (h : 1 ≤ quantity ∧ quantity ≤ 99) : List Request :=
  [.addCartItem 1 ⟨10, quantity, h⟩ 50, .addCartItem 2 ⟨10, quantity, h⟩ 51]

/-- The second one reads the product after the first one has committed. -/
theorem sold_within_available_smallShop : ∃ (store : Store) (c : _),
    Run serve anyStep smallShop (bothWant 4 (by decide)) store ∧
    Reach shopEngine WritesCurrentStock (Checkout.start store.db twoCheckouts) c ∧
    (∀ i, (c.results i).isSome) ∧
    ∀ r₀ ∈ store.db.inventory.rows, ∃ r, c.db.inventory.get r₀.productId = some r ∧
      r.stockTotal = r₀.stockTotal ∧
      r.stockReserved = r₀.stockReserved + ∑ i, soldQuantity (c.results i) r₀.productId ∧
      ∑ i, soldQuantity (c.results i) r₀.productId ≤ r₀.stockTotal - r₀.stockReserved := by
  let schedule : List (Event (Fin 2)) := [.turn 0, .turn 1, .turn 1] ++
    List.replicate 14 (.turn 0) ++ List.replicate 13 (.turn 1)
  have hrun : ∃ store, Run serve anyStep smallShop (bothWant 4 (by decide)) store ∧
      ((Checkout.start store.db twoCheckouts).execAll shopEngine WritesCurrentStock schedule).any
        (fun c => ∀ i, (c.results i).isSome) = true :=
    Run.exists_of_execAll (by decide +kernel)
  obtain ⟨store, hrun, hschedule⟩ := hrun
  obtain ⟨c, hreach, hall⟩ := Reach.exists_of_execAll schedule hschedule
  exact ⟨store, c, hrun, hreach, hall, sold_within_available store.valid hreach⟩

/-- Both read the product before either has locked it: six pieces each are sold of ten,
    and six are reserved. -/
theorem sold_within_available_fails : ∃ (store : Store) (c : _),
    Run serve anyStep smallShop (bothWant 6 (by decide)) store ∧
    Reach shopEngine anyEvent (Checkout.start store.db twoCheckouts) c ∧
    (∀ i, (c.results i).isSome) ∧
    ∃ r₀ ∈ store.db.inventory.rows, ∃ r ∈ c.db.inventory.get r₀.productId,
      r.stockReserved < r₀.stockReserved + ∑ i, soldQuantity (c.results i) r₀.productId ∧
      r₀.stockTotal - r₀.stockReserved < ∑ i, soldQuantity (c.results i) r₀.productId := by
  let schedule : List (Event (Fin 2)) := List.replicate 3 (.turn 0) ++ List.replicate 3 (.turn 1) ++
    List.replicate 12 (.turn 0) ++ List.replicate 12 (.turn 1)
  have hrun : ∃ store, Run serve anyStep smallShop (bothWant 6 (by decide)) store ∧
      ((Checkout.start store.db twoCheckouts).execAll shopEngine anyEvent schedule).any
        (fun c => (∀ i, (c.results i).isSome) ∧
          ∃ r₀ ∈ store.db.inventory.rows, ∃ r ∈ c.db.inventory.get r₀.productId,
            r.stockReserved < r₀.stockReserved + ∑ i, soldQuantity (c.results i) r₀.productId ∧
            r₀.stockTotal - r₀.stockReserved < ∑ i, soldQuantity (c.results i) r₀.productId) =
        true :=
    Run.exists_of_execAll (by decide +kernel)
  obtain ⟨store, hrun, hschedule⟩ := hrun
  obtain ⟨c, hreach, hall, hsold⟩ := Reach.exists_of_execAll schedule hschedule
  exact ⟨store, c, hrun, hreach, hall, hsold⟩

end ElectronicShop
