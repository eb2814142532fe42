import ElectronicShop.Model.Cart
import ElectronicShop.Model.Session
import ElectronicShop.Txn.Guarded

/-!
# Statements in a session among others

The rules of the program logic for the statements of the shop, and what each
statement leaves of a session's memory.
-/

namespace ElectronicShop

open Txn

section Wp

variable {rely : List RowKey → Db → Db → Prop} {α β : Type} {w : Session} {held : List RowKey}
  {db : Db} {post : α → Session → List RowKey → Db → Prop}

theorem wp_send_bind {s : Stmt} {f : s.Resp → Tx α} :
    wp shopEngine rely (send s >>= f) w held db post ↔
      ∀ db', rely (s.needs w db ++ held) db db' →
        wp shopEngine rely (f (s.execIn w db).1) (s.execIn w db).2 (s.needs w db ++ held) db'
          post := Iff.rfl

theorem wp_write_bind {x : Write} {f : Unit → Tx α} :
    wp shopEngine rely (write x >>= f) w held db post ↔
      ∀ db', rely held db db' → wp shopEngine rely (f ()) (w.send x) held db' post := Iff.rfl

theorem wp_write {x : Write} {post : Unit → Session → List RowKey → Db → Prop} :
    wp shopEngine rely (write x) w held db post ↔
      ∀ db', rely held db db' → post () (w.send x) held db' := Iff.rfl

theorem wp_flush_bind {f : Unit → Tx α} :
    wp shopEngine rely (flush >>= f) w held db post ↔
      ∀ db', rely (w.pending.filterMap Write.locks ++ held) db db' →
        wp shopEngine rely (f ()) w (w.pending.filterMap Write.locks ++ held) db' post := Iff.rfl

/-- A row whose key is free is added. -/
theorem Stmt.execIn_insert {row : NewRow} (h : row.taken (w.view db) = false) :
    (Stmt.insert row).execIn w db = (true, w.send (.add row)) := by
  have hfree : ¬ row.taken (w.view db) = true := by simp [h]
  simp only [Stmt.execIn]
  exact if_neg hfree

/-- A new row is added, or the whole program ends. -/
theorem wp_insert_bind {row : NewRow} {f : Unit → Tx α}
    (h : row.taken (w.view db) = false → ∀ db', rely (row.key :: held) db db' →
      wp shopEngine rely (f ()) (w.send (.add row)) (row.key :: held) db' post) :
    wp shopEngine rely (insert row >>= f) w held db post := by
  unfold insert
  rw [bind_assoc]
  refine wp_send_bind.mpr fun db' hrely => ?_
  by_cases htaken : row.taken (w.view db) = true
  · have hexec : (Stmt.insert row).execIn w db = (false, w) := by
      simp only [Stmt.execIn]
      exact if_pos htaken
    rw [hexec]
    trivial
  · have hfree : row.taken (w.view db) = false := by simpa using htaken
    rw [Stmt.execIn_insert hfree]
    exact h hfree db' hrely

theorem wp_insert {row : NewRow} {post : Unit → Session → List RowKey → Db → Prop}
    (h : row.taken (w.view db) = false → ∀ db', rely (row.key :: held) db db' →
      post () (w.send (.add row)) (row.key :: held) db') :
    wp shopEngine rely (insert row) w held db post := by
  rw [← bind_pure (insert row)]
  exact wp_insert_bind h

theorem wp_orRaise_bind {e : ShopError} {x : Option β} {f : β → Tx α} :
    wp shopEngine rely (orRaise e x >>= f) w held db post ↔
      ∀ a, x = some a → wp shopEngine rely (f a) w held db post := by
  cases x with
  | none => simp [orRaise]
  | some a => simp [orRaise]

theorem wp_orRaise {e : ShopError} {x : Option α} :
    wp shopEngine rely (orRaise e x) w held db post ↔ ∀ a, x = some a → post a w held db := by
  cases x with
  | none => simp [orRaise]
  | some a => simp [orRaise]

/-- The lines of the cart are loaded, or a cart is added. -/
theorem wp_getOrCreate {userId : Uuid} {post : List CartItem → Session → List RowKey → Db → Prop}
    (hfound : ((w.view db).carts.get userId).isSome → ∀ db', rely held db db' →
      post (((w.view db).itemsOf userId).map w.itemObject)
        (((w.view db).itemsOf userId).foldl Session.loadItem w) held db')
    (hnew : ∀ db₁ db', rely held db db₁ → rely (.cart userId :: held) db₁ db' →
      post [] (w.send (.add (.cart ⟨userId⟩))) (.cart userId :: held) db') :
    wp shopEngine rely (CartRepository.getOrCreate userId) w held db post := by
  unfold CartRepository.getOrCreate
  refine wp_send_bind.mpr fun db₁ hrely => ?_
  cases hcart : (w.view db).carts.get userId with
  | some cart =>
    simp only [Stmt.execIn, hcart]
    exact hfound (by rw [hcart]; rfl) db₁ hrely
  | none =>
    simp only [Stmt.execIn, hcart]
    exact wp_insert_bind fun _ db₂ hrely₂ => hnew db₁ db₂ hrely hrely₂

end Wp

/-! ## Also when they raise an error -/

section Wpe

variable {rely : List RowKey → Db → Db → Prop} {α β : Type} {w : Session} {held : List RowKey}
  {db : Db} {post : α → Session → List RowKey → Db → Prop}
  {failed : ShopError → Session → List RowKey → Db → Prop}

theorem wpe_send_bind {s : Stmt} {f : s.Resp → Tx α} :
    wpe shopEngine rely (send s >>= f) w held db post failed ↔
      ∀ db', rely (s.needs w db ++ held) db db' →
        wpe shopEngine rely (f (s.execIn w db).1) (s.execIn w db).2 (s.needs w db ++ held) db'
          post failed := Iff.rfl

theorem wpe_write_bind {x : Write} {f : Unit → Tx α} :
    wpe shopEngine rely (write x >>= f) w held db post failed ↔
      ∀ db', rely held db db' → wpe shopEngine rely (f ()) (w.send x) held db' post failed := Iff.rfl

theorem wpe_write {x : Write} {post : Unit → Session → List RowKey → Db → Prop} :
    wpe shopEngine rely (write x) w held db post failed ↔
      ∀ db', rely held db db' → post () (w.send x) held db' := Iff.rfl

theorem wpe_found_bind {e : ShopError} {x : Option β} {f : β → Tx α} :
    wpe shopEngine rely (orRaise e x >>= f) w held db post failed ↔
      (x = none → failed e w held db) ∧
        ∀ a, x = some a → wpe shopEngine rely (f a) w held db post failed := by
  cases x with
  | none => simp [orRaise]
  | some a => simp [orRaise]

end Wpe

/-! ## Under guards -/

section Wpg

variable {rely : List RowKey → Db → Db → Prop} {may : Stmt → Session → Db → Prop} {α β : Type}
  {w : Session} {held : List RowKey} {db : Db} {post : α → Session → List RowKey → Db → Prop}
  {refused : ShopError → Prop}

theorem wpg_send_bind {s : Stmt} {f : s.Resp → Tx α} :
    wpg shopEngine rely may (send s >>= f) w held db post refused ↔
      (may s w db → ∀ db', rely (s.needs w db ++ held) db db' →
        wpg shopEngine rely may (f (s.execIn w db).1) (s.execIn w db).2 (s.needs w db ++ held) db'
          post refused) := Iff.rfl

theorem wpg_found_bind {e : ShopError} {x : Option β} {f : β → Tx α} :
    wpg shopEngine rely may (orRaise e x >>= f) w held db post refused ↔
      (x = none → refused e) ∧
        ∀ a, x = some a → wpg shopEngine rely may (f a) w held db post refused := by
  cases x with
  | none => exact ⟨fun h => ⟨fun _ => h, fun _ ha => nomatch ha⟩, fun h => h.1 rfl⟩
  | some a => simp [orRaise]

/-- A row whose key the guard promises to be free. -/
theorem wpg_insert_bind {row : NewRow} {f : Unit → Tx α}
    (hfree : may (.insert row) w db → row.taken (w.view db) = false)
    (h : row.taken (w.view db) = false → ∀ db', rely (row.key :: held) db db' →
      wpg shopEngine rely may (f ()) (w.send (.add row)) (row.key :: held) db' post refused) :
    wpg shopEngine rely may (insert row >>= f) w held db post refused := by
  unfold insert
  rw [bind_assoc]
  refine wpg_send_bind.mpr fun hmay db' hrely => ?_
  rw [Stmt.execIn_insert (hfree hmay)]
  exact h (hfree hmay) db' hrely

end Wpg

/-! ## What a session is going to write -/

/-- The change that a statement makes, if it makes one. -/
def Stmt.sends : Stmt → Option Write
  | .updateCartItem item quantity =>
    some (.setCartItemQuantity item.id item.userId item.productId quantity)
  | .claimPayment id _ toStatus => some (.setPaymentStatus id toStatus)
  | .insertWalletIfAbsent u => some (.add (.wallet ⟨u, 0⟩))
  | .insert row => some (.add row)
  | .write x => some x
  | _ => none

/-- A statement makes its change, or none. -/
theorem Stmt.pending_execIn (s : Stmt) (w : Session) (db : Db) :
    (s.execIn w db).2.pending = w.pending ∨
      ∃ x, s.sends = some x ∧ (s.execIn w db).2.pending = w.pending ++ [x] := by
  have hload : ∀ (w : Session) (k : RowKey), (w.load db k).pending = w.pending := by
    intro w k
    cases k <;> rfl
  cases s with
  | getProduct id =>
    simp only [Stmt.execIn]
    split
    · simp [hload]
    · exact Or.inl rfl
  | getPaymentByAuthority authority =>
    simp only [Stmt.execIn]
    split <;> exact Or.inl rfl
  | refreshPayment id =>
    simp only [Stmt.execIn]
    split <;> exact Or.inl rfl
  | getCart u =>
    simp only [Stmt.execIn]
    split
    · obtain ⟨_, _, heq⟩ := w.loadItems_eq ((w.view db).itemsOf u)
      simp [heq]
    · exact Or.inl rfl
  | getCartItem u p =>
    simp only [Stmt.execIn]
    split
    · rename_i row _
      obtain ⟨_, _, heq⟩ := w.loadItem_eq row
      simp [heq]
    · exact Or.inl rfl
  | updateCartItem item quantity =>
    simp only [Stmt.execIn]
    split
    · exact Or.inr ⟨_, rfl, rfl⟩
    · exact Or.inl rfl
  | claimPayment id fromStatus toStatus =>
    simp only [Stmt.execIn]
    split
    · exact Or.inr ⟨_, rfl, rfl⟩
    · exact Or.inl rfl
  | insertWalletIfAbsent u =>
    simp only [Stmt.execIn]
    split
    · exact Or.inl rfl
    · split
      · exact Or.inr ⟨_, rfl, rfl⟩
      · exact Or.inl rfl
  | insert row =>
    simp only [Stmt.execIn]
    split
    · exact Or.inl rfl
    · exact Or.inr ⟨_, rfl, rfl⟩
  | write x => exact Or.inr ⟨x, rfl, rfl⟩
  | _ => exact Or.inl rfl

theorem Stmt.pending_of_sends_none {s : Stmt} (h : s.sends = none) (w : Session) (db : Db) :
    (s.execIn w db).2.pending = w.pending := by
  rcases s.pending_execIn w db with hsame | ⟨x, hx, -⟩
  · exact hsame
  · rw [h] at hx
    cases hx

namespace Session

/-- A commit changes the lines it has locked only. -/
theorem get_cartItems_view (w : Session) (db : Db) {u p : Uuid}
    (h : RowKey.cartItem u p ∉ w.pending.filterMap Write.locks) :
    (w.view db).cartItems.get (u, p) = db.cartItems.get (u, p) := by
  have happly : ∀ (x : Write) (db : Db), x.locks ≠ some (.cartItem u p) →
      (x.apply db).cartItems.get (u, p) = db.cartItems.get (u, p) := by
    intro x db hx
    cases x with
    | add row =>
      cases row with
      | cartItem c =>
        refine Table.get_put_of_ne _ fun hkey => hx ?_
        obtain ⟨rfl, rfl⟩ := Prod.mk.inj hkey
        rfl
      | _ => rfl
    | setCartItemQuantity id u' p' q =>
      simp only [Write.apply]
      rw [Table.get_modify _ _ _ fun r => by split <;> rfl, if_neg]
      rintro ⟨⟩
      exact hx rfl
    | deleteCartItem id u' p' =>
      simp only [Write.apply]
      rw [Table.get_eraseIf, if_neg]
      rintro ⟨⟩
      exact hx rfl
    | _ => rfl
  have hfold : ∀ (xs : List Write) (db : Db), (∀ x ∈ xs, x.locks ≠ some (.cartItem u p)) →
      (xs.foldl Write.apply db).cartItems.get (u, p) = db.cartItems.get (u, p) := by
    intro xs
    induction xs with
    | nil => exact fun _ _ => rfl
    | cons x rest ih =>
      intro db hxs
      rw [List.forall_mem_cons] at hxs
      rw [List.foldl_cons, ih _ hxs.2, happly x db hxs.1]
  exact hfold w.pending db fun x hx hlock => h (List.mem_filterMap.mpr ⟨x, hx, hlock⟩)

/-- There is a cart when there is one already or the session adds it. -/
theorem isSome_carts_view (w : Session) (db : Db) (u : Uuid) :
    ((w.view db).carts.get u).isSome ↔
      (db.carts.get u).isSome ∨ Write.add (.cart ⟨u⟩) ∈ w.pending := by
  have happly : ∀ (x : Write) (db : Db), ((x.apply db).carts.get u).isSome ↔
      (db.carts.get u).isSome ∨ x = .add (.cart ⟨u⟩) := by
    intro x db
    cases x with
    | add row =>
      cases row with
      | cart cart =>
        simp only [Write.apply, NewRow.insert, Table.get_put]
        by_cases hu : u = cart.userId
        · simp [hu]
        · have hne : cart ≠ ⟨u⟩ := fun heq => hu (congrArg Cart.userId heq).symm
          simp [hu, hne]
      | _ => simp [Write.apply, NewRow.insert]
    | _ => simp [Write.apply]
  have hfold : ∀ (xs : List Write) (db : Db), ((xs.foldl Write.apply db).carts.get u).isSome ↔
      (db.carts.get u).isSome ∨ Write.add (.cart ⟨u⟩) ∈ xs := by
    intro xs
    induction xs with
    | nil => simp
    | cons x rest ih =>
      intro db
      rw [List.foldl_cons, ih, happly, List.mem_cons, or_assoc, eq_comm (a := x)]
  exact hfold w.pending db

end Session

end ElectronicShop
