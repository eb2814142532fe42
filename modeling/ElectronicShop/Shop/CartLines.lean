import ElectronicShop.Book.Holdings
import ElectronicShop.Execution.Requests
import ElectronicShop.Execution.Sessions
import ElectronicShop.Numeric.Lots
import ElectronicShop.Shop.Checkout
import ElectronicShop.Txn.Outcome
import Mathlib.Algebra.BigOperators.Fin

/-!
# Checkouts and carts, interleaved

Any number of checkouts and additions to the cart of one customer. A checkout reads
the lines of the cart, orders them, and in the end deletes the lines it finds by then;
nothing locks the cart in between. An addition to a line writes the quantity it has
read plus its own. So a line can be ordered twice, deleted without being ordered, or
lose an addition, exactly when a request commits after the lines it has read have
changed.
-/

namespace ElectronicShop

open Txn

/-! ## What a session has done to the cart and the orders -/

/-- What a line is of: a product and a quantity. -/
def CartItem.line (c : CartItem) : Option Uuid × Nat := (some c.productId, c.quantity)

def OrderItem.line (item : OrderItem) : Option Uuid × Nat := (item.productId, item.quantity)

/-- The identifier and the key of the cart line that a write deletes. -/
def Write.deletedLine : Write → Option (Uuid × Uuid × Uuid)
  | .deleteCartItem id u p => some (id, u, p)
  | _ => none

/-- The key of the cart line whose quantity a write sets. -/
def Write.changedLine : Write → Option (Uuid × Uuid)
  | .setCartItemQuantity _ u p _ => some (u, p)
  | _ => none

/-- Cart lines without one that is deleted. -/
def deleteLine (t : Table CartItem.key) (line : Uuid × Uuid × Uuid) : Table CartItem.key :=
  t.eraseIf line.2 fun r => r.id = line.1

namespace Session

variable {w : Session} {userId orderId : Uuid} {items : List OrderItem}

/-- A session that has placed an order for a cart it has read, and deleted some lines. -/
structure Ordering (w : Session) (userId orderId : Uuid) (lines : List CartItem)
    (items : List OrderItem) : Prop where
  order : ∃ order : Order, order.id = orderId ∧ order.userId = userId ∧ order.items = items ∧
    ∀ db, (w.view db).orders = db.orders.put order
  loaded : w.loaded.itemsOf userId = lines
  deleted : ∀ db, (w.view db).cartItems =
    (w.pending.filterMap Write.deletedLine).foldl deleteLine db.cartItems

namespace Ordering

variable {lines : List CartItem}

theorem load (h : w.Ordering userId orderId lines items) (db : Db) (k : RowKey) :
    (w.load db k).Ordering userId orderId lines items := by
  obtain ⟨horder, hloaded, hdeleted⟩ := h
  cases k <;> exact ⟨horder, hloaded, hdeleted⟩

/-- A write that is neither to the order nor to cart lines. -/
theorem send (h : w.Ordering userId orderId lines items) {x : Write}
    (hx : ∀ db : Db, (x.apply db).orders = db.orders ∧ (x.apply db).cartItems = db.cartItems)
    (hline : x.deletedLine = none) : (w.send x).Ordering userId orderId lines items := by
  obtain ⟨⟨order, hid, huser, hitems, hview⟩, hloaded, hdeleted⟩ := h
  refine ⟨⟨order, hid, huser, hitems, fun db => ?_⟩, hloaded, fun db => ?_⟩
  · rw [view_send, (hx _).1, hview]
  · rw [view_send, (hx _).2, hdeleted]
    simp [Session.send, hline]

/-- A change to the order. -/
theorem modify (h : w.Ordering userId orderId lines items) {x : Write} {g : Order → Order}
    (hx : ∀ db : Db, x.apply db = { db with orders := db.orders.modify orderId g })
    (hline : x.deletedLine = none) {items' : List OrderItem}
    (hg : ∀ o, (g o).id = o.id ∧ (g o).userId = o.userId ∧
      (o.items = items → (g o).items = items')) :
    (w.send x).Ordering userId orderId lines items' := by
  obtain ⟨⟨order, hid, huser, hitems, hview⟩, hloaded, hdeleted⟩ := h
  refine ⟨⟨g order, (hg order).1.trans hid, (hg order).2.1.trans huser, (hg order).2.2 hitems,
    fun db => ?_⟩, hloaded, fun db => ?_⟩
  · rw [view_send, hx, hview]
    exact Table.modify_put db.orders order hid (hg order).1
  · rw [view_send, hx, hdeleted]
    simp [Session.send, hline]

theorem delete (h : w.Ordering userId orderId lines items) (id u p : Uuid) :
    (w.send (.deleteCartItem id u p)).Ordering userId orderId lines items := by
  obtain ⟨⟨order, hid, huser, hitems, hview⟩, hloaded, hdeleted⟩ := h
  refine ⟨⟨order, hid, huser, hitems, fun db => ?_⟩, hloaded, fun db => ?_⟩
  · rw [view_send]
    exact hview db
  · rw [view_send]
    simp only [Write.apply, hdeleted db, Session.send, List.filterMap_append, List.foldl_append]
    rfl

end Ordering

/-- Reading a cart loads its lines. -/
theorem loaded_lines {lines : List CartItem} (hkeys : (lines.map CartItem.key).Nodup)
    (hfresh : ∀ c ∈ lines, w.objects.cartItems.get c.key = none ∧
      w.loaded.cartItems.get c.key = none) :
    (lines.foldl loadItem w).loaded.cartItems.rows = w.loaded.cartItems.rows ++ lines := by
  induction lines generalizing w with
  | nil => simp
  | cons c rest ih =>
    rw [List.map_cons, List.nodup_cons] at hkeys
    rw [List.forall_mem_cons] at hfresh
    have hload : w.loadItem c =
        { w with
          objects := { w.objects with cartItems := w.objects.cartItems.put c }
          loaded := { w.loaded with cartItems := w.loaded.cartItems.put c } } := by
      simp [loadItem, hfresh.1.1]
    have hrest : ∀ c' ∈ rest, (w.loadItem c).objects.cartItems.get c'.key = none ∧
        (w.loadItem c).loaded.cartItems.get c'.key = none := by
      intro c' hc'
      have hne : c'.key ≠ c.key := fun heq => hkeys.1 (heq ▸ List.mem_map_of_mem hc')
      rw [hload]
      exact ⟨(Table.get_put_of_ne _ hne).trans (hfresh.2 c' hc').1,
        (Table.get_put_of_ne _ hne).trans (hfresh.2 c' hc').2⟩
    rw [List.foldl_cons, ih hkeys.2 hrest, hload, Table.rows_put_of_fresh hfresh.1.2]
    simp

end Session

/-! ## A checkout -/

section Checkout

variable {rely : List RowKey → Db → Db → Prop} {w : Session} {held : List RowKey} {db : Db}
  {userId orderId : Uuid} {lines : List CartItem} {items : List OrderItem}

/-- One round of the loop orders one line. -/
theorem wp_checkoutItem_ordering (h : w.Ordering userId orderId lines items) (subtotal : Int)
    (c : CartItem) :
    wp shopEngine rely (OrderService.checkoutItem orderId userId subtotal c) w held db
      fun _ w' _ _ => ∃ item : OrderItem, item.line = c.line ∧
        w'.Ordering userId orderId lines (items ++ [item]) := by
  unfold OrderService.checkoutItem
  refine wp_send_bind.mpr fun db₁ _ => wp_orRaise_bind.mpr fun ⟨product, inventory⟩ hfound => ?_
  have hproduct : product.id = c.productId ∧
      ((Stmt.getProduct c.productId).execIn w db).2.Ordering userId orderId lines items := by
    simp only [Stmt.execIn] at hfound ⊢
    cases hlookup : w.objects.products.lookup (w.view db).products c.productId with
    | none => simp [hlookup] at hfound
    | some row =>
      simp only [hlookup, Option.some.injEq, Prod.mk.injEq] at hfound ⊢
      exact ⟨hfound.1 ▸ Table.key_of_lookup hlookup, (h.load db _).load db _⟩
  obtain ⟨hid, hread⟩ := hproduct
  generalize ((Stmt.getProduct c.productId).execIn w db).2 = w₁ at hread
  refine wp_if_raise.mpr fun _ => wp_write_bind.mpr fun db₂ _ => ?_
  let item : OrderItem :=
    { productId := some product.id, productNameSnapshot := product.name, skuSnapshot := product.sku,
      unitPriceSnapshot := product.discountPrice.getD product.price, quantity := c.quantity,
      subtotal := product.discountPrice.getD product.price * c.quantity }
  have hadded : (w₁.send (.addOrderItem orderId item)).Ordering userId orderId lines
      (items ++ [item]) :=
    hread.modify (g := fun o => { o with items := o.items ++ [item] }) (fun _ => rfl) rfl
      fun o => ⟨rfl, rfl, fun ho => congrArg (· ++ [item]) ho⟩
  unfold InventoryService.reserve InventoryService.lockedInventory
  rw [bind_assoc, bind_assoc]
  refine wp_send_bind.mpr fun db₃ _ => wp_orRaise_bind.mpr fun row _ => ?_
  rw [wp_bind]
  refine wp_if_raise.mpr fun _ => wp_write_bind.mpr fun db₄ _ => wp_write.mpr fun db₅ _ => ?_
  refine ⟨item, ?_, ?_⟩
  · exact congrArg (fun p => (some p, c.quantity)) hid
  · exact ((hadded.load db₂ _).send (fun _ => ⟨rfl, rfl⟩) rfl).send (fun _ => ⟨rfl, rfl⟩) rfl

theorem wp_clear_ordering (h : w.Ordering userId orderId lines items) :
    wp shopEngine rely (CartRepository.clear userId) w held db
      fun _ w' _ _ => w'.Ordering userId orderId lines items := by
  unfold CartRepository.clear
  refine wp_send_bind.mpr fun db₁ _ => ?_
  exact wp_forM (fun _ w' _ _ => w'.Ordering userId orderId lines items)
    (fun item _ w' _ _ hw' => wp_write.mpr fun _ _ => hw'.delete _ _ _) _ _ _ _ h

theorem wp_finishCheckout_ordering (h : w.Ordering userId orderId lines items) {order : Order}
    (hid : order.id = orderId) (huser : order.userId = userId) (subtotal : Int) (now : DateTime) :
    wp shopEngine rely (OrderService.finishCheckout order subtotal now) w held db
      fun _ w' _ _ => w'.Ordering userId orderId lines items := by
  unfold OrderService.finishCheckout OrderService.transition
  refine wp_write_bind.mpr fun db₁ _ => ?_
  rw [wp_bind]
  refine wp_if_raise.mpr fun _ => wp_write_bind.mpr fun db₂ _ => wp_write_bind.mpr fun db₃ _ => ?_
  rw [if_neg (by decide), hid, huser]
  have hamounts : (w.send (.setOrderAmounts orderId subtotal subtotal)).Ordering userId orderId lines
      items :=
    h.modify (g := fun o => { o with subtotal := subtotal, total := subtotal }) (fun _ => rfl) rfl
      fun o => ⟨rfl, rfl, id⟩
  have hlogged := hamounts.send (x := .addStatusHistory ⟨orderId, some order.status,
    .awaitingPayment, some userId, none, now⟩) (fun _ => ⟨rfl, rfl⟩) rfl
  have hmoved := hlogged.modify (x := .setOrderStatus orderId .awaitingPayment)
    (g := fun o => { o with status := .awaitingPayment }) (fun _ => rfl) rfl
    fun o => ⟨rfl, rfl, id⟩
  rw [Prog.pure_eq, wp_done, wp_bind]
  refine wp_mono (wp_clear_ordering hmoved) fun _ w₁ held₁ db₄ hcleared => ?_
  refine wp_flush_bind.mpr fun db₅ _ => wp_send_bind.mpr fun db₆ _ => wp_orRaise.mpr fun result _ => ?_
  exact hcleared.load db₅ (.order orderId)

/-- The loop orders the lines one by one. -/
theorem wp_orderLines (h : w.Ordering userId orderId lines []) {order : Order}
    (hid : order.id = orderId) (huser : order.userId = userId) (now : DateTime) :
    wp shopEngine rely
      (lines.foldlM (OrderService.checkoutItem orderId userId) 0 >>= fun subtotal =>
        OrderService.finishCheckout order subtotal now) w held db
      fun _ w' _ _ => ∃ lines items, w'.Ordering userId orderId lines items ∧
        items.map OrderItem.line = lines.map CartItem.line := by
  -- the rest of the lines is still to be ordered
  let ordered (rest : List CartItem) (w' : Session) : Prop := ∃ items,
    w'.Ordering userId orderId lines items ∧
    items.map OrderItem.line ++ rest.map CartItem.line = lines.map CartItem.line
  have hround : ∀ c rest subtotal w' held' db', ordered (c :: rest) w' →
      wp shopEngine rely (OrderService.checkoutItem orderId userId subtotal c) w' held' db'
        fun _ w'' _ _ => ordered rest w'' := by
    rintro c rest subtotal w' held' db' ⟨items, hw', hitems⟩
    refine wp_mono (wp_checkoutItem_ordering hw' subtotal c) fun _ w₁ _ _ ⟨item, hitem, h₁⟩ => ?_
    refine ⟨_, h₁, ?_⟩
    rw [← hitems]
    simp [hitem]
  rw [wp_bind]
  refine wp_mono (wp_foldlM (fun rest _ w' _ _ => ordered rest w') hround lines 0 _ _ _ ⟨[], h, rfl⟩)
    fun subtotal w₁ _ _ ⟨items, h₁, hitems⟩ => ?_
  refine wp_mono (wp_finishCheckout_ordering h₁ hid huser subtotal now) fun _ _ _ _ h₂ => ?_
  exact ⟨_, _, h₂, by simpa using hitems⟩

/-- What the others leave alone: the cart lines and the orders whose rows are locked. -/
structure CartLocked (held : List RowKey) (db db' : Db) : Prop where
  lines : ∀ u p, RowKey.cartItem u p ∈ held → db'.cartItems.get (u, p) = db.cartItems.get (u, p)
  orders : ∀ id, RowKey.order id ∈ held → db'.orders.get id = db.orders.get id

/-- A session that begins with reading the cart loads the lines it is answered with. -/
theorem wp_getOrCreate_start :
    wp shopEngine rely (CartRepository.getOrCreate userId) shopEngine.start held db
      fun cartItems w' _ _ => cartItems = [] ∨
        w'.loaded.itemsOf userId = cartItems ∧ w'.pending = [] := by
  refine wp_getOrCreate (fun _ db' _ => Or.inr ?_) fun _ _ _ _ => Or.inl rfl
  have hview : shopEngine.start.view db = db := rfl
  have hobjects : (db.itemsOf userId).map shopEngine.start.itemObject = db.itemsOf userId :=
    List.map_id' _
  have hkeys : ((db.itemsOf userId).map CartItem.key).Nodup :=
    db.cartItems.nodup.sublist (List.filter_sublist.map CartItem.key)
  have hrows := Session.loaded_lines (w := shopEngine.start) hkeys fun c _ => ⟨rfl, rfl⟩
  obtain ⟨objects, loaded, hload⟩ := shopEngine.start.loadItems_eq (db.itemsOf userId)
  rw [hview, hobjects]
  refine ⟨?_, by rw [hload]; rfl⟩
  rw [Db.itemsOf, hrows]
  refine List.filter_eq_self.mpr fun c hc => ?_
  exact decide_eq_true (Db.mem_itemsOf.mp hc).2

/-- How a checkout ends: with an order of the lines it has read, whose row is new and
    locked. -/
structure Session.OrdersCart (w : Session) (held : List RowKey) (db : Db) (userId orderId : Uuid) :
    Prop where
  order : ∃ lines items, w.Ordering userId orderId lines items ∧
    items.map OrderItem.line = lines.map CartItem.line
  locked : RowKey.order orderId ∈ held
  fresh : db.orders.get orderId = none

theorem wp_checkout_ordered (userId : Uuid) (shippingAddress : Option ShippingAddress)
    (orderId : Uuid) (now : DateTime) (held : List RowKey) (db : Db) :
    wp shopEngine CartLocked (OrderService.checkout userId shippingAddress orderId now)
      shopEngine.start held db fun _ w' held' db' => w'.OrdersCart held' db' userId orderId := by
  unfold OrderService.checkout
  rw [wp_bind]
  refine wp_mono wp_getOrCreate_start fun cartItems w₁ held₁ db₁ h₁ => ?_
  refine wp_if_raise.mpr fun hempty => wp_insert_bind fun htaken db₂ hrely => ?_
  obtain ⟨hloaded, hpending⟩ := h₁.resolve_left fun h => hempty (by simp [h])
  have hview : ∀ db, w₁.view db = db := by
    intro db
    rw [Session.view, hpending]
    rfl
  have hfresh : RowKey.order orderId ∈ RowKey.order orderId :: held₁ ∧
      db₂.orders.get orderId = none := by
    refine ⟨List.mem_cons_self, ?_⟩
    rw [hrely.orders orderId List.mem_cons_self]
    simpa [NewRow.taken, hview] using htaken
  let order : Order :=
    { id := orderId, userId, status := .pending, subtotal := 0, total := 0, shippingAddress,
      cancelledAt := none, createdAt := now, items := [] }
  have hplaced : (w₁.send (.add (.order order))).Ordering userId orderId cartItems [] := by
    refine ⟨⟨order, rfl, rfl, rfl, fun db => ?_⟩, hloaded, fun db => ?_⟩
    · rw [Session.view_send, hview]
      rfl
    · rw [Session.view_send, hview]
      rw [Session.send, hpending]
      rfl
  have hid : order.id = orderId := rfl
  have huser : order.userId = userId := rfl
  let fresh (held : List RowKey) (db : Db) : Prop :=
    RowKey.order orderId ∈ held ∧ db.orders.get orderId = none
  have hstable : ∀ held locks db db', fresh held db → CartLocked (locks ++ held) db db' →
      fresh (locks ++ held) db' := by
    intro held locks db db' h hrely
    have hlocked := List.mem_append_right locks h.1
    exact ⟨hlocked, (hrely.orders orderId hlocked).trans h.2⟩
  refine wp_mono (wp_and_stable fresh hstable (wp_orderLines hplaced hid huser now) hfresh) ?_
  rintro _ _ _ _ ⟨horder, hlocked, hnone⟩
  exact ⟨horder, hlocked, hnone⟩

end Checkout

/-! ## An addition to the cart -/

/-- A session that has changed neither cart lines nor orders. -/
structure Session.Untouched (w : Session) : Prop where
  objects : w.objects.cartItems = w.loaded.cartItems
  cartItems : ∀ db, (w.view db).cartItems = db.cartItems
  orders : ∀ db, (w.view db).orders = db.orders

/-- How an addition of `n` pieces of a product ends: with a new line, or with the
    quantity of a line it has read set to that much more. -/
inductive Session.AddsTo (w : Session) (held : List RowKey) (db : Db) (userId productId : Uuid)
    (n : Nat) : Prop where
  | inserted (c : CartItem) (key : c.key = (userId, productId)) (quantity : c.quantity = n)
      (locked : RowKey.cartItem userId productId ∈ held)
      (fresh : db.cartItems.get (userId, productId) = none)
      (view : ∀ db', (w.view db').cartItems = db'.cartItems.put c)
      (orders : ∀ db', (w.view db').orders = db'.orders)
  | changed (c : CartItem) (key : c.key = (userId, productId))
      (locked : RowKey.cartItem userId productId ∈ held)
      (current : (db.cartItems.get (userId, productId)).map CartItem.id = some c.id)
      (object : (w.objects.cartItems.get (userId, productId)).map CartItem.id = some c.id)
      (loaded : w.loaded.cartItems.get (userId, productId) = some c)
      (written : (userId, productId) ∈ w.pending.filterMap Write.changedLine)
      (view : ∀ db', (w.view db').cartItems = db'.cartItems.modify (userId, productId) fun r =>
        if r.id = c.id then { r with quantity := n + c.quantity } else r)
      (orders : ∀ db', (w.view db').orders = db'.orders)

/-- The statements that read a cart and its products. -/
def Stmt.readsCart : Stmt → Bool
  | .getCart _ | .getProduct _ | .insert (.cart _) => true
  | _ => false

namespace Session

variable {w : Session} {held : List RowKey} {db : Db} {userId productId : Uuid} {n : Nat}

namespace Untouched

theorem load (h : w.Untouched) (db : Db) (k : RowKey) : (w.load db k).Untouched := by
  obtain ⟨hobjects, hcartItems, horders⟩ := h
  cases k <;> exact ⟨hobjects, hcartItems, horders⟩

theorem loadItem (h : w.Untouched) (c : CartItem) : (w.loadItem c).Untouched := by
  refine ⟨?_, fun db => ?_, fun db => ?_⟩
  · unfold Session.loadItem
    split
    · exact h.objects
    · exact congrArg (Table.put · c) h.objects
  · rw [view_loadItem, h.cartItems]
  · rw [view_loadItem, h.orders]

theorem loadItems (h : w.Untouched) (items : List CartItem) :
    (items.foldl Session.loadItem w).Untouched := by
  induction items generalizing w with
  | nil => exact h
  | cons c rest ih => exact ih (h.loadItem c)

theorem addCart (h : w.Untouched) (cart : Cart) : (w.send (.add (.cart cart))).Untouched := by
  refine ⟨h.objects, fun db => ?_, fun db => ?_⟩
  · rw [view_send]
    exact h.cartItems db
  · rw [view_send]
    exact h.orders db

/-- A line that has been read is loaded, with the quantity that the query is answered with. -/
theorem loaded_itemObject (h : w.Untouched) (c : CartItem) :
    (w.loadItem c).loaded.cartItems.get c.key = some (w.itemObject c) ∧
      (w.itemObject c).id = c.id := by
  unfold Session.loadItem itemObject
  cases hobject : w.objects.cartItems.get c.key with
  | none => simp
  | some object =>
    by_cases hid : object.id = c.id
    · simp [hid, ← h.objects, hobject]
    · simp [hid]

end Untouched

/-- A loaded line stays as it was loaded, as long as the same row is read. -/
theorem get_loadItems {k : Uuid × Uuid} {id : Uuid}
    (hobject : (w.objects.cartItems.get k).map CartItem.id = some id) {rows : List CartItem}
    (hrows : ∀ r ∈ rows, r.key = k → r.id = id) :
    (rows.foldl loadItem w).objects.cartItems.get k = w.objects.cartItems.get k ∧
      (rows.foldl loadItem w).loaded.cartItems.get k = w.loaded.cartItems.get k := by
  induction rows generalizing w with
  | nil => exact ⟨rfl, rfl⟩
  | cons r rest ih =>
    rw [List.forall_mem_cons] at hrows
    have hfirst : (w.loadItem r).objects.cartItems.get k = w.objects.cartItems.get k ∧
        (w.loadItem r).loaded.cartItems.get k = w.loaded.cartItems.get k := by
      unfold loadItem
      split
      · exact ⟨rfl, rfl⟩
      · rename_i hload
        have hne : k ≠ r.key := by
          rintro rfl
          exact hload (by rw [hobject, hrows.1 rfl])
        exact ⟨Table.get_put_of_ne _ hne, Table.get_put_of_ne _ hne⟩
    obtain ⟨hobjects, hloaded⟩ := ih (w := w.loadItem r) (by rw [hfirst.1, hobject]) hrows.2
    exact ⟨hobjects.trans hfirst.1, hloaded.trans hfirst.2⟩

namespace AddsTo

/-- The rows that are read of the line are the one that is changed. -/
theorem id_of_mem_view {c : CartItem}
    (current : (db.cartItems.get (userId, productId)).map CartItem.id = some c.id)
    (view : ∀ db', (w.view db').cartItems = db'.cartItems.modify (userId, productId) fun r =>
      if r.id = c.id then { r with quantity := n + c.quantity } else r)
    {r : CartItem} (hr : r ∈ (w.view db).cartItems.rows) (hkey : r.key = (userId, productId)) :
    r.id = c.id := by
  have hget := Table.get_of_mem hr
  obtain ⟨old, hold, hid⟩ := Option.map_eq_some_iff.mp current
  rw [view, hkey, Table.modify_of_get _ hold, if_pos hid] at hget
  have hkey' : old.key = (userId, productId) := Table.key_of_get hold
  have hput := Table.get_put_self db.cartItems { old with quantity := n + c.quantity }
  change Table.get _ old.key = _ at hput
  rw [← hkey', hput] at hget
  cases hget
  exact hid

/-- What the session's memory keeps of it, and the locks. -/
theorem mono (h : w.AddsTo held db userId productId n) {w' : Session} {held' : List RowKey} {db' : Db}
    (hview : ∀ db, (w'.view db).cartItems = (w.view db).cartItems ∧
      (w'.view db).orders = (w.view db).orders)
    (hloaded : ∀ c : CartItem,
      (w.objects.cartItems.get (userId, productId)).map CartItem.id = some c.id →
      (∀ r ∈ (w.view db).cartItems.rows, r.key = (userId, productId) → r.id = c.id) →
      w'.objects.cartItems.get (userId, productId) = w.objects.cartItems.get (userId, productId) ∧
      w'.loaded.cartItems.get (userId, productId) = w.loaded.cartItems.get (userId, productId))
    (hpending : ∀ x ∈ w.pending, x ∈ w'.pending) (hheld : ∀ l ∈ held, l ∈ held')
    (hrely : CartLocked held' db db') : w'.AddsTo held' db' userId productId n := by
  cases h with
  | inserted c key quantity locked fresh view orders =>
    refine .inserted c key quantity (hheld _ locked) ?_ (fun db => (hview db).1.trans (view db))
      fun db => (hview db).2.trans (orders db)
    exact (hrely.lines _ _ (hheld _ locked)).trans fresh
  | changed c key locked current object loaded written view orders =>
    obtain ⟨hobject', hloaded'⟩ := hloaded c object fun r hr => id_of_mem_view current view hr
    refine .changed c key (hheld _ locked) ?_ ?_ (hloaded'.trans loaded) ?_
      (fun db => (hview db).1.trans (view db)) fun db => (hview db).2.trans (orders db)
    · rw [hrely.lines _ _ (hheld _ locked)]
      exact current
    · rw [hobject']
      exact object
    · obtain ⟨x, hx, hkey⟩ := List.mem_filterMap.mp written
      exact List.mem_filterMap.mpr ⟨x, hpending x hx, hkey⟩

/-- Reading the cart and its products keeps it. -/
theorem execIn (h : w.AddsTo held db userId productId n) {s : Stmt} (hs : s.readsCart) {db' : Db}
    (hrely : CartLocked (s.needs w db ++ held) db db') :
    (s.execIn w db).2.AddsTo (s.needs w db ++ held) db' userId productId n := by
  have hheld : ∀ l ∈ held, l ∈ s.needs w db ++ held := fun l hl => List.mem_append_right _ hl
  have hsame : w.AddsTo (s.needs w db ++ held) db' userId productId n :=
    h.mono (fun _ => ⟨rfl, rfl⟩) (fun _ _ _ => ⟨rfl, rfl⟩) (fun _ hx => hx) hheld hrely
  cases s with
  | getProduct id =>
    simp only [Stmt.execIn]
    split
    · exact hsame.mono (fun _ => ⟨rfl, rfl⟩) (fun _ _ _ => ⟨rfl, rfl⟩) (fun _ hx => hx)
        (fun _ hl => hl)
        ⟨fun _ _ _ => rfl, fun _ _ => rfl⟩
    · exact hsame
  | getCart u =>
    simp only [Stmt.execIn]
    split
    · refine h.mono (fun db => ?_) (fun c hobject hrows => ?_) (fun x hx => ?_) hheld hrely
      · rw [view_loadItems]
        exact ⟨rfl, rfl⟩
      · exact get_loadItems hobject fun r hr => hrows r (List.mem_filter.mp hr).1
      · obtain ⟨_, _, hload⟩ := w.loadItems_eq ((w.view db).itemsOf u)
        rw [hload]
        exact hx
    · exact hsame
  | insert row =>
    cases row with
    | cart row =>
      simp only [Stmt.execIn]
      split
      · exact hsame
      · refine h.mono (fun db => ?_) (fun _ _ _ => ⟨rfl, rfl⟩) (fun x hx => List.mem_append_left _ hx)
          hheld hrely
        rw [view_send]
        exact ⟨rfl, rfl⟩
    | _ => cases hs
  | _ => cases hs

end AddsTo

end Session

section AddItem

variable {w : Session} {held : List RowKey} {db : Db} {userId productId : Uuid} {n : Nat}

theorem wp_keeps_addsTo {α : Type} {m : Tx α} (hm : m.Uses fun s : Stmt => s.readsCart = true)
    (h : w.AddsTo held db userId productId n) :
    wp shopEngine CartLocked m w held db
      fun _ w' held' db' => w'.AddsTo held' db' userId productId n :=
  (wpe_of_uses (fun (w : Session) held db => w.AddsTo held db userId productId n)
    (fun _ hs _ _ _ hw _ hrely => Session.AddsTo.execIn hw hs hrely) hm h).wp

theorem uses_getOrCreate (userId : Uuid) :
    (CartRepository.getOrCreate userId).Uses fun s : Stmt => s.readsCart = true := by
  refine Prog.Uses.bind ⟨rfl, fun _ => trivial⟩ fun cart => ?_
  cases cart with
  | some items => trivial
  | none =>
    refine Prog.Uses.bind (Prog.Uses.bind ⟨rfl, fun _ => trivial⟩ fun free => ?_) fun _ => trivial
    cases free <;> trivial

theorem uses_getSummary (userId : Uuid) :
    (CartService.getSummary userId).Uses fun s : Stmt => s.readsCart = true := by
  refine (uses_getOrCreate userId).bind fun items => Prog.Uses.foldlM items _ fun summary c => ?_
  refine Prog.Uses.bind ⟨rfl, fun _ => trivial⟩ fun found => ?_
  cases found with
  | none => trivial
  | some p =>
    obtain ⟨product, inventory⟩ := p
    simp only
    split <;> trivial

/-- A line that has been read is given that much more. -/
theorem wp_setQuantity (h : w.Untouched) {c : CartItem} (hkey : c.key = (userId, productId))
    (hloaded : w.loaded.cartItems.get (userId, productId) = some c) (hn : 1 ≤ n) :
    wp shopEngine CartLocked (CartService.setQuantity c (n + c.quantity)) w held db
      fun _ w' held' db' => w'.AddsTo held' db' userId productId n := by
  unfold CartService.setQuantity
  rw [if_neg (by omega)]
  obtain ⟨rfl, rfl⟩ : c.userId = userId ∧ c.productId = productId := Prod.mk.inj hkey
  refine wp_send_bind.mpr fun db₁ hrely => ?_
  simp only [Stmt.execIn, Stmt.needs, h.cartItems] at hrely ⊢
  by_cases hrow : (db.cartItems.get c.key).map CartItem.id = some c.id
  · simp only [hrow, if_true] at hrely ⊢
    refine .changed c rfl List.mem_cons_self ?_ ?_ hloaded ?_ (fun db' => ?_) fun db' => ?_
    · rw [hrely.lines _ _ List.mem_cons_self]
      exact hrow
    · simp only [Session.send, Write.apply, h.objects]
      rw [Table.modify_of_get _ hloaded, if_pos rfl]
      have hput := Table.get_put_self w.loaded.cartItems { c with quantity := n + c.quantity }
      exact congrArg (Option.map CartItem.id) hput
    · simp [Session.send, Write.changedLine]
    · rw [Session.view_send]
      simp only [Write.apply, h.cartItems]
    · rw [Session.view_send]
      exact h.orders db'
  · simp only [hrow, if_false]
    trivial

theorem wp_insertLine (h : w.Untouched) (itemId : Uuid) :
    wp shopEngine CartLocked (insert (.cartItem ⟨itemId, userId, productId, n⟩)) w held db
      fun _ w' held' db' => w'.AddsTo held' db' userId productId n := by
  refine wp_insert fun htaken db₁ hrely => ?_
  refine .inserted ⟨itemId, userId, productId, n⟩ rfl rfl List.mem_cons_self ?_ (fun db' => ?_)
    fun db' => ?_
  · rw [hrely.lines _ _ List.mem_cons_self]
    simp only [NewRow.taken, h.cartItems] at htaken
    exact Option.not_isSome_iff_eq_none.mp (Bool.eq_false_iff.mp htaken)
  · rw [Session.view_send]
    exact congrArg (Table.put · _) (h.cartItems db')
  · rw [Session.view_send]
    exact h.orders db'

theorem wp_storeQuantity (h : w.Untouched) {existing : Option CartItem}
    (hexisting : ∀ c ∈ existing, c.key = (userId, productId) ∧
      w.loaded.cartItems.get (userId, productId) = some c) (hn : 1 ≤ n) (itemId : Uuid) :
    wp shopEngine CartLocked (CartService.storeQuantity userId productId existing
      (n + (existing.map CartItem.quantity).getD 0) itemId) w held db
      fun _ w' held' db' => w'.AddsTo held' db' userId productId n := by
  cases existing with
  | none => exact wp_insertLine h itemId
  | some c => exact wp_setQuantity h (hexisting c rfl).1 (hexisting c rfl).2 hn

/-- A query for a line loads what it is answered with. -/
theorem Session.Untouched.getCartItem (h : w.Untouched) (db : Db) {existing : Option CartItem}
    {w' : Session} (hexec : (Stmt.getCartItem userId productId).execIn w db = (existing, w')) :
    w'.Untouched ∧ ∀ c ∈ existing, c.key = (userId, productId) ∧
      w'.loaded.cartItems.get (userId, productId) = some c := by
  simp only [Stmt.execIn] at hexec
  cases hrow : (w.view db).cartItems.get (userId, productId) with
  | none =>
    rw [hrow] at hexec
    cases hexec
    exact ⟨h, by simp⟩
  | some row =>
    rw [hrow] at hexec
    cases hexec
    have hkey : row.key = (userId, productId) := Table.key_of_get hrow
    have hloaded := (h.loaded_itemObject row).1
    rw [hkey] at hloaded
    refine ⟨h.loadItem row, fun c hc => ?_⟩
    cases hc
    exact ⟨Table.key_of_get hloaded, hloaded⟩

theorem wp_addItem (h : w.Untouched) (hn : 1 ≤ n) (itemId : Uuid) :
    wp shopEngine CartLocked (CartService.addItem userId productId n itemId) w held db
      fun _ w' held' db' => w'.AddsTo held' db' userId productId n := by
  unfold CartService.addItem
  refine wp_send_bind.mpr fun db₁ _ => wp_orRaise_bind.mpr fun ⟨product, inventory⟩ _ => ?_
  have hread : ((Stmt.getProduct productId).execIn w db).2.Untouched := by
    simp only [Stmt.execIn]
    split
    · exact (h.load db (.product productId)).load db (.inventory productId)
    · exact h
  generalize ((Stmt.getProduct productId).execIn w db).2 = w₁ at hread
  have hcart : ∀ held db, wp shopEngine CartLocked (CartRepository.getOrCreate userId) w₁ held db
      fun _ w' _ _ => w'.Untouched := fun held db =>
    wp_getOrCreate (fun _ _ _ => hread.loadItems _) fun _ _ _ _ => hread.addCart _
  refine wp_if_raise.mpr fun _ => (wp_bind _ _ _ _ _ _).mpr ?_
  refine wp_mono (hcart _ _) fun _ w₂ held₂ db₂ h₂ => wp_send_bind.mpr fun db₃ _ => ?_
  have hexec : (Stmt.getCartItem userId productId).execIn w₂ db₂ = _ := rfl
  obtain ⟨h₃, hexisting⟩ := h₂.getCartItem db₂ hexec
  refine wp_if_raise.mpr fun _ => (wp_bind _ _ _ _ _ _).mpr ?_
  refine wp_mono (wp_storeQuantity h₃ hexisting hn itemId) fun _ w₄ held₄ db₄ h₄ => ?_
  exact wp_keeps_addsTo (uses_getOrCreate userId) h₄

end AddItem

/-! ## The requests of one customer -/

/-- A request of the customer: to add to the cart or to check out. Each carries an
    idempotency key of its own, so none is answered for another. -/
inductive CartRequest where
  | add (data : CartItemAdd) (itemId : Uuid)
  | checkout (shippingAddress : Option ShippingAddress) (orderId : Uuid) (now : DateTime)

namespace CartRequest

def request (userId : Uuid) : CartRequest → Request
  | .add data itemId => .addCartItem userId data itemId
  | .checkout shippingAddress orderId now => .checkout userId shippingAddress orderId now

/-- The product it adds. -/
def productId : CartRequest → Option Uuid
  | .add data _ => some data.productId
  | .checkout .. => none

/-- How much it adds. -/
def quantity : CartRequest → Nat
  | .add data _ => data.quantity
  | .checkout .. => 0

/-- The order it places. -/
def orderId : CartRequest → Option Uuid
  | .add .. => none
  | .checkout _ orderId _ => some orderId

/-- How it ends. -/
def Ends (userId : Uuid) (w : Session) (held : List RowKey) (db : Db) : CartRequest → Prop
  | .add data _ => w.AddsTo held db userId data.productId data.quantity
  | .checkout _ orderId _ => w.OrdersCart held db userId orderId

/-- What is committed is still as the request has read it: for an addition the line it
    changes, for a checkout every line it has ordered, which are the lines it deletes. -/
def ActsOnWhatItRead (userId : Uuid) (w : Session) (db : Db) : CartRequest → Prop
  | .add .. => ∀ k ∈ w.pending.filterMap Write.changedLine,
      db.cartItems.get k = w.loaded.cartItems.get k
  | .checkout .. =>
      (∀ c ∈ w.loaded.itemsOf userId, c ∈ db.itemsOf userId ∧
        (c.id, c.key) ∈ w.pending.filterMap Write.deletedLine) ∧
      ∀ c ∈ db.itemsOf userId, (c.id, c.key) ∈ w.pending.filterMap Write.deletedLine →
        c ∈ w.loaded.itemsOf userId

instance decidableActsOnWhatItRead (userId : Uuid) (w : Session) (db : Db) (r : CartRequest) :
    Decidable (r.ActsOnWhatItRead userId w db) := by
  cases r <;> unfold ActsOnWhatItRead <;> infer_instance

/-- What its commit does to the cart and the orders. -/
inductive Effect (userId : Uuid) (db db' : Db) : CartRequest → Prop where
  /-- The line of the product has that much more, or is new. -/
  | added (data : CartItemAdd) (itemId : Uuid) (c : CartItem) (key : c.key = (userId, data.productId))
      (quantity : c.quantity =
        data.quantity + ((db.cartItems.get c.key).map CartItem.quantity).getD 0)
      (cartItems : db'.cartItems = db.cartItems.put c) (orders : db'.orders = db.orders) :
      Effect userId db db' (.add data itemId)
  /-- Some lines are moved from the cart to a new order. -/
  | ordered (shippingAddress : Option ShippingAddress) (now : DateTime) (order : Order)
      (lines : List CartItem) (user : order.userId = userId) (fresh : db.orders.get order.id = none)
      (items : (order.items.map OrderItem.line).Perm (lines.map CartItem.line))
      (cart : (db.itemsOf userId).Perm (lines ++ db'.itemsOf userId))
      (orders : db'.orders = db.orders.put order) :
      Effect userId db db' (.checkout shippingAddress order.id now)

end CartRequest

theorem wp_getCurrentUser_bind {α : Type} {rely : List RowKey → Db → Db → Prop} {subject : Uuid}
    {f : User → Tx α} {w : Session} {held : List RowKey} {db : Db}
    {post : α → Session → List RowKey → Db → Prop}
    (h : ∀ user db', user.id = subject → rely held db db' →
      wp shopEngine rely (f user) w held db' post) :
    wp shopEngine rely (getCurrentUser subject >>= f) w held db post := by
  unfold getCurrentUser
  simp only [bind_assoc]
  refine wp_send_bind.mpr fun db' hrely => wp_orRaise_bind.mpr fun user huser => ?_
  have hid : user.id = subject := Table.key_of_get huser
  cases hactive : user.isActive with
  | false => simp
  | true =>
    simp only [Bool.true_eq_false, if_false]
    exact h user db' hid hrely

/-- Every request ends so. -/
theorem wp_cartRequest (userId : Uuid) (r : CartRequest) (db : Db) :
    wp shopEngine CartLocked (r.request userId).handler shopEngine.start [] db
      fun _ w' held' db' => r.Ends userId w' held' db' := by
  cases r with
  | checkout shippingAddress orderId now =>
    refine (wp_bind _ _ _ _ _ _).mpr ?_
    refine wp_getCurrentUser_bind fun user db' hid _ => ?_
    rw [hid]
    exact wp_checkout_ordered userId shippingAddress orderId now [] db'
  | add data itemId =>
    refine (wp_bind _ _ _ _ _ _).mpr ?_
    refine wp_getCurrentUser_bind fun user db' hid _ => ?_
    rw [hid]
    have hstart : shopEngine.start.Untouched := ⟨rfl, fun _ => rfl, fun _ => rfl⟩
    refine (wp_bind _ _ _ _ _ _).mpr ?_
    refine wp_mono (wp_addItem hstart data.quantityRange.1 itemId) fun _ w₁ held₁ db₁ h₁ => ?_
    exact wp_keeps_addsTo (uses_getSummary userId) h₁

/-! ## Commits -/

/-- Lines that are deleted one after another are gone. -/
theorem rows_deleteLines (lines : List (Uuid × Uuid × Uuid)) (t : Table CartItem.key) :
    (lines.foldl deleteLine t).rows =
      t.rows.filter fun c => (c.id, c.key) ∉ lines := by
  induction lines generalizing t with
  | nil => simp
  | cons line rest ih =>
    rw [List.foldl_cons, ih]
    simp only [deleteLine, Table.eraseIf, List.filter_filter]
    refine List.filter_congr fun c _ => ?_
    rw [← Bool.decide_and]
    refine decide_eq_decide.mpr ?_
    simp [Prod.ext_iff, and_comm]

namespace CartRequest

variable {userId : Uuid} {w : Session} {held : List RowKey} {db : Db}

/-- A commit on what the request has read has its effect. -/
theorem effect_of_commit {r : CartRequest} (hends : r.Ends userId w held db)
    (hread : r.ActsOnWhatItRead userId w db) : r.Effect userId db (w.view db) := by
  cases r with
  | add data itemId =>
    cases hends with
    | inserted c key quantity locked fresh view orders =>
      refine .added data itemId c key ?_ (view db) (orders db)
      rw [key, fresh, quantity]
      rfl
    | changed c key locked current object loaded written view orders =>
      have hrow : db.cartItems.get (userId, data.productId) = some c :=
        (hread _ written).trans loaded
      refine .added data itemId { c with quantity := data.quantity + c.quantity } key ?_ ?_ (orders db)
      · change _ = _ + ((db.cartItems.get c.key).map CartItem.quantity).getD 0
        rw [key, hrow]
        rfl
      · rw [view, Table.modify_of_get _ hrow, if_pos rfl]
  | checkout shippingAddress orderId now =>
    obtain ⟨⟨lines, items, hordering, hlines⟩, hlocked, hfresh⟩ := hends
    obtain ⟨⟨order, rfl, huser, rfl, horders⟩, hloaded, hdeleted⟩ := hordering
    obtain ⟨hcurrent, hcart⟩ := hread
    have hnodup : ∀ db : Db, (db.itemsOf userId).Nodup := fun db =>
      List.Nodup.of_map CartItem.productId (db.nodup_itemsOf userId)
    have hkept : ∀ c, c ∈ (w.view db).itemsOf userId ↔ c ∈ db.itemsOf userId ∧
        (c.id, c.key) ∉ w.pending.filterMap Write.deletedLine := by
      intro c
      rw [Db.mem_itemsOf, Db.mem_itemsOf, hdeleted, rows_deleteLines, List.mem_filter,
        decide_eq_true_eq, and_right_comm]
    have happend : (w.loaded.itemsOf userId ++ (w.view db).itemsOf userId).Nodup :=
      List.nodup_append.mpr ⟨hnodup _, hnodup _, fun c hc c' hc' heq =>
        ((hkept c').mp hc').2 (heq ▸ (hcurrent c hc).2)⟩
    refine .ordered shippingAddress now order (w.loaded.itemsOf userId) huser hfresh ?_ ?_ (horders db)
    · rw [hlines, ← hloaded]
    · refine (List.perm_ext_iff_of_nodup (hnodup _) happend).mpr fun c => ?_
      rw [List.mem_append, hkept]
      constructor
      · intro hc
        by_cases hdel : (c.id, c.key) ∈ w.pending.filterMap Write.deletedLine
        · exact Or.inl (hcart c hc hdel)
        · exact Or.inr ⟨hc, hdel⟩
      · rintro (hc | ⟨hc, -⟩)
        · exact (hcurrent c hc).1
        · exact hc

/-- What the others do does not change how it ends. -/
theorem Ends.stable {r : CartRequest} (hends : r.Ends userId w held db) {db' : Db}
    (hrely : CartLocked held db db') : r.Ends userId w held db' := by
  cases r with
  | add data itemId =>
    exact Session.AddsTo.mono hends (fun _ => ⟨rfl, rfl⟩) (fun _ _ _ => ⟨rfl, rfl⟩)
      (fun _ hx => hx) (fun _ hl => hl) hrely
  | checkout shippingAddress orderId now =>
    obtain ⟨horder, hlocked, hfresh⟩ := hends
    exact ⟨horder, hlocked, (hrely.orders _ hlocked).trans hfresh⟩

/-- A commit leaves alone what the others have locked. -/
theorem cartLocked_of_commit {r : CartRequest} (hends : r.Ends userId w held db)
    {locks : List RowKey}
    (hlocks : ∀ l ∈ locks, l ∉ held ∧ l ∉ w.pending.filterMap Write.locks) :
    CartLocked locks db (w.view db) := by
  refine ⟨fun u p hl => w.get_cartItems_view db (hlocks _ hl).2, fun id hl => ?_⟩
  cases r with
  | add data itemId =>
    cases hends with
    | inserted c key quantity locked fresh view orders => rw [orders]
    | changed c key locked current object loaded written view orders => rw [orders]
  | checkout shippingAddress orderId now =>
    obtain ⟨⟨lines, items, hordering, -⟩, hlocked, -⟩ := hends
    obtain ⟨order, rfl, -, -, horders⟩ := hordering.order
    rw [horders]
    refine Table.get_put_of_ne _ ?_
    rintro rfl
    exact (hlocks _ hl).1 hlocked

end CartRequest

/-! ## Where the lines are -/

/-- The quantity of a product in some cart lines. -/
def cartQuantity (lines : List CartItem) (p : Uuid) : Int :=
  (lines.map fun c => if c.productId = p then (c.quantity : Int) else 0).sum

theorem orderQuantity_of_lines {items : List OrderItem} {lines : List CartItem}
    (h : (items.map OrderItem.line).Perm (lines.map CartItem.line)) (p : Uuid) :
    orderQuantity items p = cartQuantity lines p := by
  let quantityOf (l : Option Uuid × Nat) : Int := if l.1 = some p then (l.2 : Int) else 0
  have hitems : orderQuantity items p = ((items.map OrderItem.line).map quantityOf).sum := by
    rw [List.map_map]
    rfl
  have hlines : cartQuantity lines p = ((lines.map CartItem.line).map quantityOf).sum := by
    rw [List.map_map]
    refine congrArg List.sum (List.map_congr_left fun c _ => ?_)
    simp [quantityOf, CartItem.line]
  rw [hitems, hlines]
  exact (h.map quantityOf).sum_eq

theorem cartQuantity_append (lines rest : List CartItem) (p : Uuid) :
    cartQuantity (lines ++ rest) p = cartQuantity lines p + cartQuantity rest p := by
  simp [cartQuantity]

theorem cartQuantity_eq_zero {lines : List CartItem} {p : Uuid}
    (h : p ∉ lines.map CartItem.productId) : cartQuantity lines p = 0 := by
  refine List.sum_eq_zero fun q hq => ?_
  obtain ⟨c, hc, rfl⟩ := List.mem_map.mp hq
  refine if_neg fun hp => h ?_
  rw [← hp]
  exact List.mem_map_of_mem hc

theorem cartQuantity_perm {lines lines' : List CartItem} (h : lines.Perm lines') (p : Uuid) :
    cartQuantity lines p = cartQuantity lines' p :=
  (h.map _).sum_eq

/-- The quantity of a product in a cart is that of its one line. -/
theorem cartQuantity_itemsOf (db : Db) (userId p : Uuid) :
    cartQuantity (db.itemsOf userId) p =
      (((db.cartItems.get (userId, p)).map CartItem.quantity).getD 0 : Nat) := by
  have hsum : ∀ lines : List CartItem, (lines.map CartItem.key).Nodup →
      ((lines.filter fun c => c.userId = userId).map fun c =>
        if c.productId = p then (c.quantity : Int) else 0).sum =
      (((lines.find? fun c => c.key = (userId, p)).map CartItem.quantity).getD 0 : Nat) := by
    intro lines hnodup
    induction lines with
    | nil => rfl
    | cons c rest ih =>
      rw [List.map_cons, List.nodup_cons] at hnodup
      specialize ih hnodup.2
      by_cases hkey : c.key = (userId, p)
      · -- no other line has this key
        have hrest : (rest.find? fun c => c.key = (userId, p)) = none := by
          refine List.find?_eq_none.mpr fun c' hc' hkey' => hnodup.1 ?_
          rw [hkey, ← of_decide_eq_true hkey']
          exact List.mem_map_of_mem hc'
        rw [hrest] at ih
        obtain ⟨huser, hproduct⟩ := Prod.mk.inj hkey
        simp [hkey, huser, hproduct, ih]
      · rw [List.find?_cons_of_neg (by simpa using hkey), ← ih]
        by_cases huser : c.userId = userId
        · have hproduct : c.productId ≠ p := fun hp => hkey (by rw [CartItem.key, huser, hp])
          simp [huser, hproduct]
        · simp [huser]
  exact hsum db.cartItems.rows db.cartItems.nodup

section Lines

variable {ι : Type} {userId : Uuid} {db₀ db db' : Db} {requests : ι → CartRequest}

/-- The lines a run is about: those of the cart when it starts, and one for each request. -/
abbrev LineOf (db₀ : Db) (userId : Uuid) (ι : Type) : Type := Fin (db₀.itemsOf userId).length ⊕ ι

/-- What each line is of. -/
def linesOf (db₀ : Db) (userId : Uuid) (requests : ι → CartRequest) :
    Numeric.Lots (LineOf db₀ userId ι) (Option Uuid) where
  kind
    | .inl k => some (db₀.itemsOf userId)[k].productId
    | .inr i => (requests i).productId
  amount
    | .inl k => (db₀.itemsOf userId)[k].quantity
    | .inr i => (requests i).quantity

/-- The lines that existed at the start, or whose request has committed. -/
def existing (results : ι → Option Unit) : LineOf db₀ userId ι → Bool
  | .inl _ => true
  | .inr i => (results i).isSome

/-- Every line is in one place: still in the cart, or in the order of one committed
    checkout. -/
structure OrderedOnce [Fintype ι] [DecidableEq ι] (userId : Uuid) (requests : ι → CartRequest)
    (db₀ db : Db) (results : ι → Option Unit) (place : LineOf db₀ userId ι → Option ι) : Prop where
  committed : ∀ x j, place x = some j → (requests j).orderId.isSome ∧ (results j).isSome
  cart : ∀ p, cartQuantity (db.itemsOf userId) p =
    (linesOf db₀ userId requests).held (existing results) place none (some p)
  orders : ∀ j orderId, (requests j).orderId = some orderId → (results j).isSome →
    ∃ order, db.orders.get orderId = some order ∧ order.userId = userId ∧
      ∀ p, orderQuantity order.items p =
        (linesOf db₀ userId requests).held (existing results) place (some j) (some p)

variable [DecidableEq ι] {results : ι → Option Unit} {place : LineOf db₀ userId ι → Option ι}

theorem existing_update (i : ι) :
    (existing (Function.update results i (some ())) : LineOf db₀ userId ι → Bool) =
      Function.update (existing results) (.inr i) true := by
  funext x
  cases x with
  | inl k => rfl
  | inr j =>
    by_cases hj : j = i
    · subst hj
      simp [existing]
    · rw [Function.update_of_ne (by simpa using hj)]
      simp [existing, Function.update_of_ne hj]

namespace OrderedOnce

theorem isSome_update {i j : ι} (h : (results j).isSome) :
    (Function.update results i (some ()) j).isSome := by
  by_cases hj : j = i
  · subst hj
    simp
  · rwa [Function.update_of_ne hj]

variable [Fintype ι]

/-- When the run begins, every line is in the cart. -/
theorem start : OrderedOnce userId requests db₀ db₀ (fun _ => none) (fun _ => none) := by
  refine ⟨fun x j h => (nomatch h), fun p => ?_, fun j orderId _ h => (nomatch h)⟩
  have hcart := Fin.sum_univ_fun_getElem (db₀.itemsOf userId)
    fun c => if c.productId = p then (c.quantity : Int) else 0
  rw [cartQuantity, ← hcart, Numeric.Lots.held, Fintype.sum_sum_type]
  refine ((add_eq_left.mpr (Finset.sum_eq_zero fun i _ => if_neg ?_)).trans ?_).symm
  · rintro ⟨hexists, -⟩
    cases hexists
  · simp [existing, linesOf]

/-- The line of a request that commits is put into the cart. -/
theorem held_arrive {i : ι} (hi : results i = none) (q : Option ι) (p : Uuid) :
    (linesOf db₀ userId requests).held (existing (Function.update results i (some ())))
        (Function.update place (.inr i) none) q (some p) =
      (linesOf db₀ userId requests).held (existing results) place q (some p) +
        if none = q ∧ (requests i).productId = some p then ((requests i).quantity : Int) else 0 := by
  have hnew : existing results (.inr i : LineOf db₀ userId ι) = false := by
    simp [existing, hi]
  rw [existing_update, Numeric.Lots.held_arrive _ hnew]
  rfl

/-- An addition commits: its line is in the cart. -/
theorem added (h : OrderedOnce userId requests db₀ db results place) {i : ι}
    (hi : results i = none) {data : CartItemAdd} {itemId : Uuid}
    (hrequest : requests i = .add data itemId) {c : CartItem}
    (hkey : c.key = (userId, data.productId))
    (hquantity : c.quantity =
      data.quantity + ((db.cartItems.get c.key).map CartItem.quantity).getD 0)
    (hcartItems : db'.cartItems = db.cartItems.put c) (horders : db'.orders = db.orders) :
    OrderedOnce userId requests db₀ db' (Function.update results i (some ()))
      (Function.update place (.inr i) none) := by
  refine ⟨fun x j hx => ?_, fun p => ?_, fun j orderId hj hcommitted => ?_⟩
  · have hne : x ≠ .inr i := by
      rintro rfl
      simp at hx
    rw [Function.update_of_ne hne] at hx
    obtain ⟨horder, hcommitted⟩ := h.committed x j hx
    exact ⟨horder, isSome_update hcommitted⟩
  · rw [held_arrive hi, ← h.cart, cartQuantity_itemsOf, cartQuantity_itemsOf, hcartItems,
      Table.get_put, hkey, hrequest]
    by_cases hp : p = data.productId
    · subst hp
      rw [hkey] at hquantity
      simp only [if_true, Option.map_some, Option.getD_some, hquantity, CartRequest.productId,
        CartRequest.quantity, and_self]
      push_cast
      omega
    · have hne : ¬ (userId, p) = (userId, data.productId) := fun heq => hp (Prod.mk.inj heq).2
      simp [hne, CartRequest.productId, Ne.symm hp]
  · have hne : j ≠ i := by
      rintro rfl
      rw [hrequest] at hj
      cases hj
    rw [Function.update_of_ne hne] at hcommitted
    obtain ⟨order, horder, huser, hitems⟩ := h.orders j orderId hj hcommitted
    refine ⟨order, by rw [horders, horder], huser, fun p => ?_⟩
    rw [held_arrive hi, hitems p]
    simp

/-- The places after the checkout `i` has ordered some lines of the cart. -/
def orderPlaces (requests : ι → CartRequest) (place : LineOf db₀ userId ι → Option ι) (i : ι)
    (lines : List CartItem) : LineOf db₀ userId ι → Option ι :=
  (linesOf db₀ userId requests).move (Function.update place (.inr i) none) none (some i)
    fun product => product ∈ lines.map fun c => some c.productId

/-- A checkout commits: the lines it has ordered are in its order. -/
theorem ordered (h : OrderedOnce userId requests db₀ db results place) {i : ι}
    (hi : results i = none) {shippingAddress : Option ShippingAddress} {now : DateTime} {order : Order}
    {lines : List CartItem} (hrequest : requests i = .checkout shippingAddress order.id now)
    (huser : order.userId = userId) (hfresh : db.orders.get order.id = none)
    (hitems : (order.items.map OrderItem.line).Perm (lines.map CartItem.line))
    (hcart : (db.itemsOf userId).Perm (lines ++ db'.itemsOf userId))
    (horders : db'.orders = db.orders.put order) :
    OrderedOnce userId requests db₀ db' (Function.update results i (some ()))
      (orderPlaces requests place i lines) := by
  have hproduct : (requests i).productId = none := by rw [hrequest]; rfl
  -- the request has no line of its own
  have harrive : ∀ q p, (linesOf db₀ userId requests).held
      (existing (Function.update results i (some ()))) (Function.update place (.inr i) none) q
        (some p) = (linesOf db₀ userId requests).held (existing results) place q (some p) := by
    intro q p
    rw [held_arrive hi, hproduct]
    simp
  have hempty : ∀ x, Function.update place (.inr i) none x ≠ some i := by
    intro x hx
    by_cases hxi : x = .inr i
    · subst hxi
      simp at hx
    · rw [Function.update_of_ne hxi] at hx
      have hcommitted := (h.committed x i hx).2
      rw [hi] at hcommitted
      cases hcommitted
  have hsplit : ∀ p, cartQuantity (db.itemsOf userId) p =
      cartQuantity lines p + cartQuantity (db'.itemsOf userId) p := fun p =>
    (cartQuantity_perm hcart p).trans (cartQuantity_append _ _ p)
  have hkind : ∀ p, p ∈ lines.map CartItem.productId ↔
      some p ∈ lines.map fun c => some c.productId := by
    intro p
    simp
  -- a product has one line: it is ordered or stays
  have hdisjoint : ∀ p ∈ lines.map CartItem.productId, cartQuantity (db'.itemsOf userId) p = 0 := by
    intro p hp
    have hnodup := (hcart.map CartItem.productId).nodup_iff.mp (db.nodup_itemsOf userId)
    rw [List.map_append] at hnodup
    exact cartQuantity_eq_zero fun hp' => (List.nodup_append.mp hnodup).2.2 p hp p hp' rfl
  refine ⟨fun x j hx => ?_, fun p => ?_, fun j orderId hj hcommitted => ?_⟩
  · unfold orderPlaces Numeric.Lots.move at hx
    split at hx
    · cases hx
      exact ⟨by rw [hrequest]; rfl, by simp⟩
    · have hxi : x ≠ .inr i := by
        rintro rfl
        simp at hx
      rw [Function.update_of_ne hxi] at hx
      obtain ⟨horder, hcommitted⟩ := h.committed x j hx
      exact ⟨horder, isSome_update hcommitted⟩
  · unfold orderPlaces
    by_cases hp : p ∈ lines.map CartItem.productId
    · rw [Numeric.Lots.held_move_from]
      · exact hdisjoint p hp
      · simp
      · exact (hkind p).mp hp
    · rw [Numeric.Lots.held_move_of_not, harrive, ← h.cart, hsplit p, cartQuantity_eq_zero hp,
        zero_add]
      exact fun hk => hp ((hkind p).mpr hk)
  · unfold orderPlaces
    rw [horders]
    by_cases hji : j = i
    · subst hji
      rw [hrequest] at hj
      cases hj
      refine ⟨order, Table.get_put_self _ _, huser, fun p => ?_⟩
      rw [orderQuantity_of_lines hitems]
      by_cases hp : p ∈ lines.map CartItem.productId
      · rw [Numeric.Lots.held_move_to _ hempty, harrive, ← h.cart, hsplit p, hdisjoint p hp, add_zero]
        exact (hkind p).mp hp
      · rw [Numeric.Lots.held_move_of_not, Numeric.Lots.held_eq_zero _ fun x _ => hempty x]
        · exact cartQuantity_eq_zero hp
        · exact fun hk => hp ((hkind p).mpr hk)
    · rw [Function.update_of_ne hji] at hcommitted
      obtain ⟨order', horder', huser', hitems'⟩ := h.orders j orderId hj hcommitted
      refine ⟨order', ?_, huser', fun p => ?_⟩
      · refine (Table.get_put_of_ne _ ?_).trans horder'
        rintro rfl
        rw [hfresh] at horder'
        cases horder'
      · rw [Numeric.Lots.held_move_of_ne _ (by simp) (by simpa using hji), harrive, hitems' p]

/-- What the committed checkout `i` has ordered of a product. -/
def orderedQuantity (requests : ι → CartRequest) (db : Db) (results : ι → Option Unit) (p : Uuid)
    (i : ι) : Int :=
  if (results i).isSome then
    (((requests i).orderId.bind db.orders.get).map fun o => orderQuantity o.items p).getD 0
  else
    0

/-- What the committed addition `i` has added of a product. -/
def addedQuantity (requests : ι → CartRequest) (results : ι → Option Unit) (p : Uuid) (i : ι) : Int :=
  if (results i).isSome ∧ (requests i).productId = some p then ((requests i).quantity : Int) else 0

theorem orderedQuantity_eq (h : OrderedOnce userId requests db₀ db results place) (p : Uuid) (j : ι) :
    orderedQuantity requests db results p j =
      (linesOf db₀ userId requests).held (existing results) place (some j) (some p) := by
  unfold orderedQuantity
  by_cases hplace : (requests j).orderId.isSome ∧ (results j).isSome
  · obtain ⟨orderId, hid⟩ := Option.isSome_iff_exists.mp hplace.1
    obtain ⟨order, horder, -, hitems⟩ := h.orders j orderId hid hplace.2
    rw [if_pos hplace.2, hid, ← hitems p]
    change ((db.orders.get orderId).map _).getD 0 = _
    rw [horder]
    rfl
  · rw [Numeric.Lots.held_eq_zero _ fun x _ hx => hplace (h.committed x j hx)]
    split
    · rename_i hcommitted
      have hnone : (requests j).orderId = none :=
        Option.not_isSome_iff_eq_none.mp fun horder => hplace ⟨horder, hcommitted⟩
      rw [hnone]
      rfl
    · rfl

/-- Nothing gets lost, and nothing is ordered twice. -/
theorem conserved (h : OrderedOnce userId requests db₀ db results place) (p : Uuid) :
    cartQuantity (db.itemsOf userId) p + ∑ j, orderedQuantity requests db results p j =
      cartQuantity (db₀.itemsOf userId) p + ∑ i, addedQuantity requests results p i := by
  have hcart := Fin.sum_univ_fun_getElem (db₀.itemsOf userId)
    fun c => if c.productId = p then (c.quantity : Int) else 0
  have htotal : ∑ q, (linesOf db₀ userId requests).held (existing results) place q (some p) = _ :=
    (linesOf db₀ userId requests).sum_held (some p)
  rw [Fintype.sum_option, ← h.cart, Fintype.sum_sum_type] at htotal
  rw [Finset.sum_congr rfl fun j _ => h.orderedQuantity_eq p j, htotal]
  refine congrArg₂ (· + ·) ?_ rfl
  rw [cartQuantity, ← hcart]
  simp [existing, linesOf]

end OrderedOnce

/-- What a commit does to the cart and the orders, it does to the places. -/
theorem OrderedOnce.step [Fintype ι] (h : OrderedOnce userId requests db₀ db results place) {i : ι}
    (hi : results i = none) (heffect : (requests i).Effect userId db db') :
    ∃ place', OrderedOnce userId requests db₀ db' (Function.update results i (some ())) place' := by
  generalize hrequest : requests i = r at heffect
  cases heffect with
  | added data itemId c key quantity cartItems orders =>
    exact ⟨_, h.added hi hrequest key quantity cartItems orders⟩
  | ordered shippingAddress now order lines user fresh items cart orders =>
    exact ⟨_, h.ordered hi hrequest user fresh items cart orders⟩

end Lines

/-! ## Every interleaving -/

section Concurrent

variable {ι : Type}

/-- The requests arrive. -/
def CartRequest.start (userId : Uuid) (db : Db) (requests : ι → CartRequest) :
    Config shop ShopError Unit Db Session RowKey ι where
  db := db
  clients i := .running ((requests i).request userId).handler shopEngine.start []

/-- Every request commits while what it has read is still what is committed. -/
def ActOnWhatTheyRead (userId : Uuid) (requests : ι → CartRequest)
    (c : Config shop ShopError Unit Db Session RowKey ι) : Event ι → Prop
  | .turn i =>
    match c.clients i with
    | .running (.done _) w _ => (requests i).ActsOnWhatItRead userId w c.db
    | _ => True
  | .kill _ => True

instance decidableActOnWhatTheyRead (userId : Uuid) (requests : ι → CartRequest)
    (c : Config shop ShopError Unit Db Session RowKey ι) :
    (ev : Event ι) → Decidable (ActOnWhatTheyRead userId requests c ev)
  | .turn i => by
    simp only [ActOnWhatTheyRead]
    rcases c.clients i with ⟨_ | _ | _, _, _⟩ | _ | _ <;> infer_instance
  | .kill _ => isTrue trivial

variable [Fintype ι] [DecidableEq ι] {userId : Uuid} {db₀ : Db} {requests : ι → CartRequest}

/-- The outline of the requests: the others leave locked lines and orders alone. -/
def CartRequest.outline (userId : Uuid) (db₀ : Db) (requests : ι → CartRequest) :
    Outline shopEngine (ActOnWhatTheyRead userId requests) where
  rely _ := CartLocked
  post i _ w held db := (requests i).Ends userId w held db
  inv db results := ∃ place, OrderedOnce userId requests db₀ db results place
  rely_refl _ _ _ := ⟨fun _ _ _ => rfl, fun _ _ => rfl⟩
  rely_trans _ _ _ _ _ h₁ h₂ :=
    ⟨fun u p hl => (h₂.lines u p hl).trans (h₁.lines u p hl),
      fun id hl => (h₂.orders id hl).trans (h₁.orders id hl)⟩
  post_stable _ _ _ _ _ _ hends hrely := hends.stable hrely
  commit_ok c i _ w held db hi hcond hinv hends hcommit := by
    obtain ⟨-, rfl⟩ := shopEngine_commit_ok.mp hcommit
    have hread : (requests i).ActsOnWhatItRead userId w c.db := by
      simpa only [ActOnWhatTheyRead, hi] using hcond
    have hrunning : c.results i = none := by
      simp only [Config.results, hi, Client.result]
    obtain ⟨place, hplace⟩ := hinv
    refine ⟨hplace.step hrunning (effect_of_commit hends hread), fun j _ locks hlocks => ?_⟩
    exact cartLocked_of_commit hends hlocks

theorem CartRequest.good {c : Config shop ShopError Unit Db Session RowKey ι}
    (hreach : Reach shopEngine (ActOnWhatTheyRead userId requests)
      (CartRequest.start userId db₀ requests) c) :
    (CartRequest.outline userId db₀ requests).Good c :=
  (CartRequest.outline userId db₀ requests).sound
    ((CartRequest.outline userId db₀ requests).good_start db₀ _ ⟨_, OrderedOnce.start⟩
      fun i db _ => wp_cartRequest userId (requests i) db) hreach

/-- Where every request commits on what it has read, every line that existed or was added
    is either still in the cart or in the order of exactly one committed checkout; and a
    commit takes lines out of the cart only into its one new order, as they are. -/
theorem ordered_exactly_once {c : Config shop ShopError Unit Db Session RowKey ι}
    (hreach : Reach shopEngine (ActOnWhatTheyRead userId requests)
      (CartRequest.start userId db₀ requests) c) :
    (∃ place, OrderedOnce userId requests db₀ c.db c.results place) ∧
    ∀ ev c', ActOnWhatTheyRead userId requests c ev → c.exec shopEngine ev = some c' →
      c'.db = c.db ∨ ∃ i, ev = .turn i ∧ (requests i).Effect userId c.db c'.db := by
  have hgood := CartRequest.good hreach
  refine ⟨hgood.inv, fun ev c' hcond hexec => ?_⟩
  rcases Config.exec_cases hexec with ⟨i, s, next, w, held, -, -, -, rfl⟩ |
    ⟨i, a, w, held, db, rfl, hi, -, hdb, rfl⟩ | ⟨i, p, w, held, e, -, rfl⟩
  · exact Or.inl rfl
  · obtain ⟨-, rfl⟩ := shopEngine_commit_ok.mp hdb
    have hread : (requests i).ActsOnWhatItRead userId w c.db := by
      simpa only [ActOnWhatTheyRead, hi] using hcond
    have hends := hgood.clients i _ _ _ hi c.db
      ((CartRequest.outline userId db₀ requests).rely_refl i held c.db)
    exact Or.inr ⟨i, rfl, CartRequest.effect_of_commit hends hread⟩
  · exact Or.inl rfl

end Concurrent

/-- The customer clicks twice. -/
def twoClicks (i : Fin 2) : CartRequest := .checkout none (100 + i) 0

/-- The customer checks out, and adds three more pieces in another tab. -/
def clickAndAdd : Fin 2 → CartRequest
  | 0 => .checkout none 100 0
  | 1 => .add ⟨10, 3, three_pieces⟩ 51

/-- Three pieces are added after the checkout has committed. -/
theorem ordered_exactly_once_twoInCart : ∃ c,
    Reach shopEngine (ActOnWhatTheyRead 1 clickAndAdd)
      (CartRequest.start 1 twoInCart.db clickAndAdd) c ∧
    (∀ i, (c.results i).isSome) ∧
    (∃ place, OrderedOnce 1 clickAndAdd twoInCart.db c.db c.results place) ∧
    ∀ ev c', ActOnWhatTheyRead 1 clickAndAdd c ev → c.exec shopEngine ev = some c' →
      c'.db = c.db ∨ ∃ i, ev = .turn i ∧ (clickAndAdd i).Effect 1 c.db c'.db := by
  let schedule : List (Event (Fin 2)) := List.replicate 16 (.turn 0) ++ List.replicate 9 (.turn 1)
  have hrun : ((CartRequest.start 1 twoInCart.db clickAndAdd).execAll shopEngine
      (ActOnWhatTheyRead 1 clickAndAdd) schedule).any
      (fun c => ∀ i, (c.results i).isSome) = true := by decide +kernel
  obtain ⟨c, hreach, hall⟩ := Reach.exists_of_execAll schedule hrun
  obtain ⟨hplace, hsteps⟩ := ordered_exactly_once hreach
  exact ⟨c, hreach, hall, hplace, hsteps⟩

/-- Two checkouts read the cart before either has cleared it, and its line is in both orders;
    and what is added between the reading and the clearing is deleted without being
    ordered. -/
theorem ordered_exactly_once_fails :
    (∃ c, Reach shopEngine anyEvent (CartRequest.start 1 twoInCart.db twoClicks) c ∧
      (∀ i, (c.results i).isSome) ∧
      ¬ ∃ place, OrderedOnce 1 twoClicks twoInCart.db c.db c.results place) ∧
    ∃ c, Reach shopEngine anyEvent (CartRequest.start 1 twoInCart.db clickAndAdd) c ∧
      (∀ i, (c.results i).isSome) ∧
      ¬ ∃ place, OrderedOnce 1 clickAndAdd twoInCart.db c.db c.results place := by
  let twice : List (Event (Fin 2)) := List.replicate 2 (.turn 0) ++ List.replicate 2 (.turn 1) ++
    List.replicate 14 (.turn 0) ++ List.replicate 13 (.turn 1)
  let between : List (Event (Fin 2)) := List.replicate 2 (.turn 0) ++ List.replicate 9 (.turn 1) ++
    List.replicate 14 (.turn 0)
  have htwice : ((CartRequest.start 1 twoInCart.db twoClicks).execAll shopEngine anyEvent twice).any
      (fun c => (∀ i, (c.results i).isSome) ∧ cartQuantity (c.db.itemsOf 1) 10 +
        ∑ j, OrderedOnce.orderedQuantity twoClicks c.db c.results 10 j ≠
        cartQuantity (twoInCart.db.itemsOf 1) 10 +
          ∑ i, OrderedOnce.addedQuantity twoClicks c.results 10 i) = true := by decide +kernel
  have hbetween : ((CartRequest.start 1 twoInCart.db clickAndAdd).execAll shopEngine anyEvent
      between).any
      (fun c => (∀ i, (c.results i).isSome) ∧ cartQuantity (c.db.itemsOf 1) 10 +
        ∑ j, OrderedOnce.orderedQuantity clickAndAdd c.db c.results 10 j ≠
        cartQuantity (twoInCart.db.itemsOf 1) 10 +
          ∑ i, OrderedOnce.addedQuantity clickAndAdd c.results 10 i) = true := by decide +kernel
  obtain ⟨c₁, hreach₁, hall₁, hne₁⟩ := Reach.exists_of_execAll twice htwice
  obtain ⟨c₂, hreach₂, hall₂, hne₂⟩ := Reach.exists_of_execAll between hbetween
  exact ⟨⟨c₁, hreach₁, hall₁, fun ⟨_, h⟩ => hne₁ (h.conserved 10)⟩,
    c₂, hreach₂, hall₂, fun ⟨_, h⟩ => hne₂ (h.conserved 10)⟩

end ElectronicShop
