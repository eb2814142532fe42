import ElectronicShop.Execution.Footprint
import ElectronicShop.Execution.Requests

/-!
# Quantities in carts

The schemas limit a quantity to 99, request by request, while an addition puts its pieces on
top of those the line has. So the lines stay within the limit as long as no addition exceeds
it together with what is in the cart, and then no line is too dear for an order.
-/

namespace ElectronicShop

open Txn

/-! ## What a request does to the cart lines -/

section Run

variable {db db' : Db} {userId productId itemId : Uuid} {n : Nat}

/-- The lines of the cart are read, or a cart is created. -/
theorem cartItems_getOrCreate {items : List CartItem}
    (h : db.run (CartRepository.getOrCreate userId) = .ok (items, db')) :
    db'.cartItems = db.cartItems :=
  (within_getOrCreateCart userId).same_run h (t := .cartItems) (by decide)

theorem run_setQuantity {c : CartItem} (hget : db.cartItems.get c.key = some c) :
    db.run (CartService.setQuantity c n) =
      .ok ((), { db with cartItems := db.cartItems.put { c with quantity := n } }) := by
  unfold CartService.setQuantity
  by_cases hn : n = c.quantity
  · subst hn
    rw [if_pos rfl, Table.put_self hget]
    rfl
  · have hput : db.cartItems.modify (c.userId, c.productId)
        (fun r => if r.id = c.id then { r with quantity := n } else r) =
        db.cartItems.put { c with quantity := n } := by
      rw [Table.modify_of_get _ (k := (c.userId, c.productId)) hget, if_pos rfl]
    rw [if_neg hn, Db.run_send_bind]
    simp only [Stmt.exec, hget, Option.map_some, if_true, Write.apply, hput]
    rfl

/-- An addition stores one line, with its pieces on top of those that are there. -/
theorem run_addItem_ok {items : List CartItem}
    (h : db.run (CartService.addItem userId productId n itemId) = .ok (items, db')) :
    ∃ line : CartItem, line.key = (userId, productId) ∧
      line.quantity = n + ((db.cartItems.get (userId, productId)).map CartItem.quantity).getD 0 ∧
      db'.cartItems = db.cartItems.put line := by
  unfold CartService.addItem at h
  rw [Db.run_send_bind] at h
  obtain ⟨⟨product, inventory⟩, -, h⟩ := Db.run_orRaise_bind_ok.mp h
  simp only at h
  split at h
  · cases h
  · obtain ⟨_, db₁, hcart, h⟩ := Db.run_bind_ok.mp h
    have hsame : db₁.cartItems = db.cartItems := cartItems_getOrCreate hcart
    rw [Db.run_send_bind] at h
    simp only [Stmt.exec, hsame] at h
    split at h
    · cases h
    · obtain ⟨_, db₂, hstore, h⟩ := Db.run_bind_ok.mp h
      rw [cartItems_getOrCreate h]
      cases hline : db.cartItems.get (userId, productId) with
      | none =>
        rw [hline] at hstore
        obtain ⟨-, rfl⟩ := Db.run_insert_ok.mp hstore
        refine ⟨⟨itemId, userId, productId, n⟩, rfl, by simp, ?_⟩
        simp [NewRow.insert, hsame]
      | some c =>
        rw [hline] at hstore
        have hkey := Table.key_of_get hline
        have hget : db₁.cartItems.get c.key = some c := by
          rw [hsame, hkey]
          exact hline
        rw [CartService.storeQuantity, run_setQuantity hget] at hstore
        cases hstore
        exact ⟨{ c with quantity := n + c.quantity }, hkey, rfl, by rw [hsame]; rfl⟩

/-- An update stores the submitted quantity in one line. -/
theorem run_updateItem_ok {items : List CartItem}
    (h : db.run (CartService.updateItem userId productId n) = .ok (items, db')) :
    ∃ line : CartItem, line.key = (userId, productId) ∧ line.quantity = n ∧
      db'.cartItems = db.cartItems.put line := by
  unfold CartService.updateItem at h
  rw [Db.run_send_bind] at h
  obtain ⟨⟨product, inventory⟩, -, h⟩ := Db.run_orRaise_bind_ok.mp h
  simp only at h
  split at h
  · cases h
  · obtain ⟨_, db₁, hcart, h⟩ := Db.run_bind_ok.mp h
    have hsame : db₁.cartItems = db.cartItems := cartItems_getOrCreate hcart
    rw [Db.run_send_bind] at h
    obtain ⟨c, hline, h⟩ := Db.run_orRaise_bind_ok.mp h
    have hkey := Table.key_of_get hline
    have hget : db₁.cartItems.get c.key = some c := hkey ▸ hline
    obtain ⟨u, db₂, hstore, h⟩ := Db.run_bind_ok.mp h
    change db₁.run (CartService.setQuantity c n) = .ok (u, db₂) at hstore
    rw [run_setQuantity hget] at hstore
    cases hstore
    refine ⟨{ c with quantity := n }, hkey, rfl, ?_⟩
    rw [cartItems_getOrCreate h, hsame]

theorem cartItems_removeItem {u : Unit}
    (h : db.run (CartService.removeItem userId productId) = .ok (u, db')) :
    ∀ c ∈ db'.cartItems.rows, c ∈ db.cartItems.rows := by
  obtain ⟨_, db₁, hcart, h⟩ := Db.run_bind_ok.mp h
  rw [Db.run_send_bind] at h
  rw [← cartItems_getOrCreate hcart]
  simp only [Stmt.exec] at h
  split at h
  · cases h
    intro c hc
    exact (Table.mem_eraseIf.mp hc).1
  · cases h
    exact fun c hc => hc

theorem cartItems_clear {u : Unit} (h : db.run (CartService.clear userId) = .ok (u, db')) :
    ∀ c ∈ db'.cartItems.rows, c ∈ db.cartItems.rows := by
  obtain ⟨_, db₁, hcart, h⟩ := Db.run_bind_ok.mp h
  rw [CartRepository.run_clear] at h
  cases h
  rw [← cartItems_getOrCreate hcart, Db.cartItems_clearCart]
  exact fun c hc => (List.mem_filter.mp hc).1

end Run

/-- What a request does to the cart lines: an addition or an update stores one line, and
    every other request changes none and adds none. -/
inductive LineEffect (lines : Table CartItem.key) : Request → Table CartItem.key → Prop where
  | kept {request : Request} {lines' : Table CartItem.key} (rows : ∀ c ∈ lines'.rows, c ∈ lines.rows)
      (noAddition : ∀ subject data itemId, request ≠ .addCartItem subject data itemId) :
      LineEffect lines request lines'
  | added {subject itemId : Uuid} {data : CartItemAdd} (line : CartItem)
      (key : line.key = (subject, data.productId))
      (quantity : line.quantity = data.quantity +
        ((lines.get (subject, data.productId)).map CartItem.quantity).getD 0) :
      LineEffect lines (.addCartItem subject data itemId) (lines.put line)
  | changed {subject productId : Uuid} {data : CartItemUpdate} (line : CartItem)
      (key : line.key = (subject, productId)) (quantity : line.quantity = data.quantity) :
      LineEffect lines (.updateCartItem subject productId data) (lines.put line)

theorem serve_lineEffect {request : Request} {store store' : Store}
    (hserve : serve request store = .ok store') :
    LineEffect store.db.cartItems request store'.db.cartItems := by
  have hrun := serve_ok.mp hserve
  have hquiet : TableName.cartItems ∉ request.tables →
      (∀ subject data itemId, request ≠ .addCartItem subject data itemId) →
      LineEffect store.db.cartItems request store'.db.cartItems := by
    intro hnot hne
    have hsame : store'.db.cartItems = store.db.cartItems :=
      (within_handler request).same_run hrun (t := .cartItems) hnot
    exact .kept (fun c hc => hsame ▸ hc) hne
  cases request with
  | addCartItem subject data itemId =>
    obtain ⟨_, hrun⟩ := Db.run_discard_ok.mp hrun
    obtain ⟨user, huser, -, hrun⟩ := run_getCurrentUser_bind_ok.mp hrun
    obtain ⟨_, db₁, hadd, hsummary⟩ := Db.run_bind_ok.mp hrun
    obtain ⟨line, hkey, hquantity, hput⟩ := run_addItem_ok hadd
    have hid : user.id = subject := Table.key_of_get huser
    have hsame : store'.db.cartItems = db₁.cartItems :=
      (within_getSummary user.id).same_run hsummary (t := .cartItems) (by decide)
    rw [hsame, hput]
    exact .added line (hid ▸ hkey) (hid ▸ hquantity)
  | updateCartItem subject productId data =>
    obtain ⟨_, hrun⟩ := Db.run_discard_ok.mp hrun
    obtain ⟨user, huser, -, hrun⟩ := run_getCurrentUser_bind_ok.mp hrun
    obtain ⟨_, db₁, hupdate, hsummary⟩ := Db.run_bind_ok.mp hrun
    obtain ⟨line, hkey, hquantity, hput⟩ := run_updateItem_ok hupdate
    have hid : user.id = subject := Table.key_of_get huser
    have hsame : store'.db.cartItems = db₁.cartItems :=
      (within_getSummary user.id).same_run hsummary (t := .cartItems) (by decide)
    rw [hsame, hput]
    exact .changed line (hid ▸ hkey) hquantity
  | removeCartItem subject productId =>
    obtain ⟨user, huser, -, hrun⟩ := run_getCurrentUser_bind_ok.mp hrun
    exact .kept (cartItems_removeItem hrun) (by simp)
  | clearCart subject =>
    obtain ⟨user, huser, -, hrun⟩ := run_getCurrentUser_bind_ok.mp hrun
    exact .kept (cartItems_clear hrun) (by simp)
  | checkout subject shippingAddress orderId now =>
    obtain ⟨_, hrun⟩ := Db.run_discard_ok.mp hrun
    obtain ⟨user, huser, -, hrun⟩ := run_getCurrentUser_bind_ok.mp hrun
    obtain ⟨items, -, -, -, -, -, -, hdb⟩ := OrderService.run_checkout_ok.mp hrun
    refine .kept ?_ (by simp)
    rw [hdb, Db.placed, Db.cartItems_clearCart]
    exact fun c hc => (List.mem_filter.mp hc).1
  | _ => exact hquiet (by simp [Request.tables]) (by simp)

/-! ## Lines within the limit -/

/-- Every cart line has between 1 and 99 pieces. -/
def SmallLines (db : Db) : Prop := ∀ c ∈ db.cartItems.rows, 1 ≤ c.quantity ∧ c.quantity ≤ 99

/-- An addition does not exceed the limit together with what is in the cart. -/
def AddsWithinLimit (store : Store) : Request → Prop
  | .addCartItem subject data _ => ∀ c ∈ store.db.cartItems.get (subject, data.productId),
      c.quantity + data.quantity ≤ 99
  | _ => True

instance decidableAddsWithinLimit (store : Store) (request : Request) :
    Decidable (AddsWithinLimit store request) := by
  unfold AddsWithinLimit
  rcases request <;> infer_instance

theorem smallLines_put {db db' : Db} (hsmall : SmallLines db) {line : CartItem}
    (hput : db'.cartItems = db.cartItems.put line) :
    SmallLines db' ↔ 1 ≤ line.quantity ∧ line.quantity ≤ 99 := by
  unfold SmallLines
  rw [hput]
  constructor
  · intro h
    exact h line (Table.mem_of_get (Table.get_put_self _ line))
  · intro h c hc
    rcases Table.mem_put hc with rfl | hrest
    · exact h
    · exact hsmall c hrest.1

/-- A committed request keeps the lines within the limit exactly when it does not add too
    much. -/
theorem SmallLines.serve_iff {store store' : Store} {request : Request}
    (hsmall : SmallLines store.db) (hserve : serve request store = .ok store') :
    SmallLines store'.db ↔ AddsWithinLimit store request := by
  have heffect := serve_lineEffect hserve
  generalize hlines : store'.db.cartItems = lines' at heffect
  cases heffect with
  | kept rows noAddition =>
    refine iff_of_true (fun c hc => hsmall c (rows c (hlines ▸ hc))) ?_
    cases request with
    | addCartItem subject data itemId => exact absurd rfl (noAddition subject data itemId)
    | _ => trivial
  | added line key quantity =>
    rename_i subject itemId data
    rw [smallLines_put hsmall hlines, quantity]
    have hrange := data.quantityRange
    simp only [AddsWithinLimit]
    cases store.db.cartItems.get (subject, data.productId) with
    | none => simp [hrange]
    | some c =>
      simp
      omega
  | changed line key quantity =>
    rw [smallLines_put hsmall hlines, quantity]
    rename_i data
    exact iff_of_true data.quantityRange trivial

/-- A line of at most 99 pieces costs less than the column of an order item can hold. -/
theorem fits_subtotal {price : Int} {quantity : Nat} (hprice : fitsNumeric 12 price)
    (hquantity : quantity ≤ 99) : fitsNumeric 14 (price * quantity) := by
  unfold fitsNumeric at *
  rw [Int.natAbs_mul, Int.natAbs_natCast]
  calc price.natAbs * quantity ≤ price.natAbs * 99 := Nat.mul_le_mul_left _ hquantity
    _ < 10 ^ 14 := by omega

/-- In a run whose additions stay within the limit, every cart line has between 1 and 99
    pieces, and fits an order at every price that a product can have. And the next request
    keeps it so exactly when it stays within the limit, too. -/
theorem cart_lines_small {store₀ store : Store} {requests : List Request}
    (h₀ : SmallLines store₀.db) (hrun : Run serve AddsWithinLimit store₀ requests store) :
    SmallLines store.db ∧
    (∀ c ∈ store.db.cartItems.rows, ∀ price, fitsNumeric 12 price →
      fitsNumeric 14 (price * c.quantity)) ∧
    (∀ c ∈ store.db.cartItems.rows, ∀ p ∈ store.db.products.rows,
      fitsNumeric 14 (OrderService.orderItem p c).subtotal) ∧
    ∀ request store', serve request store = .ok store' →
      (SmallLines store'.db ↔ AddsWithinLimit store request) := by
  have hsmall : SmallLines store.db := by
    refine hrun.invariant (fun store => SmallLines store.db) h₀ ?_
    intro request store store' hsmall hguard hserve
    exact (hsmall.serve_iff hserve).mpr hguard
  have hfits : ∀ c ∈ store.db.cartItems.rows, ∀ price, fitsNumeric 12 price →
      fitsNumeric 14 (price * c.quantity) :=
    fun c hc price hprice => fits_subtotal hprice (hsmall c hc).2
  refine ⟨hsmall, hfits, ?_, fun request store' hserve => hsmall.serve_iff hserve⟩
  intro c hc p hp
  have hstored := store.valid.products p hp
  have hprice : fitsNumeric 12 (effectiveUnitPrice p) := by
    unfold effectiveUnitPrice
    cases hdiscount : p.discountPrice with
    | none => exact hstored.1
    | some d => exact hstored.2.1 d hdiscount
  exact hfits c hc _ hprice

/-- The small shop with 250 phones in stock, at the highest price there is. -/
def dearShop : Store where
  db := { smallShop.db with
    products := ⟨[⟨10, "phone", "phone", "phone", "", "", 10 ^ 12 - 1, none, "", 20, some [], some [],
      true, false, false⟩], by decide⟩
    inventory := ⟨[⟨10, 250, 0⟩], by decide⟩ }
  valid := by decide +kernel

theorem smallLines_dearShop : SmallLines dearShop.db := by
  intro c hc
  cases hc

/-- Customer 1 puts 50 and then 49 phones into the cart. -/
theorem cart_lines_small_dearShop : ∃ store,
    Run serve AddsWithinLimit dearShop
      [.addCartItem 1 ⟨10, 50, by decide⟩ 50, .addCartItem 1 ⟨10, 49, by decide⟩ 51] store ∧
    (store.db.cartItems.get (1, 10)).map CartItem.quantity = some 99 ∧ SmallLines store.db := by
  have hrun : ∃ store, Run serve AddsWithinLimit dearShop
      [.addCartItem 1 ⟨10, 50, by decide⟩ 50, .addCartItem 1 ⟨10, 49, by decide⟩ 51] store ∧
      (store.db.cartItems.get (1, 10)).map CartItem.quantity = some 99 :=
    Run.exists_of_execAll (by decide +kernel)
  obtain ⟨store, hrun, hline⟩ := hrun
  exact ⟨store, hrun, hline, (cart_lines_small smallLines_dearShop hrun).1⟩

/-- Twice 99 phones are accepted, and are too dear for an order. -/
theorem cart_lines_small_fails : SmallLines dearShop.db ∧ ∃ store,
    Run serve anyStep dearShop
      [.addCartItem 1 ⟨10, 99, by decide⟩ 50, .addCartItem 1 ⟨10, 99, by decide⟩ 51] store ∧
    (store.db.cartItems.get (1, 10)).map CartItem.quantity = some 198 ∧
    (∃ c ∈ store.db.cartItems.rows, ∃ p ∈ store.db.products.rows,
      ¬ fitsNumeric 14 (OrderService.orderItem p c).subtotal) ∧
    (store.transact (OrderService.checkout 1 none 100 0)).map Prod.fst = .error .database :=
  ⟨smallLines_dearShop, Run.exists_of_execAll (by decide +kernel)⟩

end ElectronicShop
