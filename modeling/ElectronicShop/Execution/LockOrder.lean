import ElectronicShop.Model.Api
import ElectronicShop.Execution.Sessions
import ElectronicShop.Txn.Waiting

/-!
# In which order the shop locks rows

The rows have ranks: a cart, a wallet, a payment or a product before an order, and an order
before stock and cart lines. A transaction climbs (`climbing`): it asks for locks above those
that it holds, as long as it holds no stock. Which stock it asks for next, and that it asks for
its order last, is not in any order.
-/

namespace ElectronicShop

open Txn

/-! ## The ranks -/

def RowKey.rank : RowKey → Nat
  | .product _ => 1
  | .cart _ => 1
  | .payment _ => 1
  | .wallet _ => 1
  | .order _ => 2
  | .inventory _ => 3
  | .cartItem _ _ => 3

theorem RowKey.rank_pos (l : RowKey) : 0 < l.rank := by
  cases l <;> simp [RowKey.rank]

theorem RowKey.rank_le (l : RowKey) : l.rank ≤ 3 := by
  cases l <;> simp [RowKey.rank]

/-- The row of some stock is locked. -/
def HoldsStock (held : List RowKey) : Prop := ∃ p, RowKey.inventory p ∈ held

/-- A lock that is asked for is above the ones that are held, or some stock is held and the lock
    is of stock, a cart line or an order. -/
def climbing (need held : List RowKey) : Prop :=
  ∀ l ∈ need, l ∈ held ∨ (∀ m ∈ held, m.rank < l.rank) ∨ HoldsStock held ∧ 1 < l.rank

theorem climbing_nil (held : List RowKey) : climbing [] held :=
  fun _ hl => absurd hl List.not_mem_nil

/-- No cart is ever deleted. -/
def cartsStay (db db' : Db) : Prop := ∀ u, (db.carts.get u).isSome → (db'.carts.get u).isSome

theorem grows_cartsStay : Grows shopEngine cartsStay where
  refl _ _ h := h
  trans _ _ _ h₁ h₂ u h := h₂ u (h₁ u h)
  commit w db db' h u hu := by
    obtain ⟨-, rfl⟩ := shopEngine_commit_ok.mp h
    exact (w.isSome_carts_view db u).mpr (Or.inl hu)

/-- The locks that a session has to have for what it has changed. -/
def Session.locks (w : Session) : List RowKey := w.pending.filterMap Write.locks

theorem Session.mem_locks_send {w : Session} {x : Write} {l : RowKey} (h : l ∈ (w.send x).locks) :
    l ∈ w.locks ∨ x.locks = some l := by
  unfold Session.locks Session.send at h
  rw [List.filterMap_append, List.mem_append] at h
  refine h.imp_right fun hnew => ?_
  obtain ⟨y, hy, hlock⟩ := List.mem_filterMap.mp hnew
  rw [← List.mem_singleton.mp hy]
  exact hlock

theorem Session.locks_of_pending {w w' : Session} (h : w'.pending = w.pending) :
    w'.locks = w.locks := by
  unfold Session.locks
  rw [h]

section Rules

variable {α β : Type} {w : Session} {held mine : List RowKey} {db : Db} {n : Nat}
  {post : α → Session → List RowKey → Db → Prop}

theorem orderly_send_bind {s : Stmt} {f : s.Resp → Tx α} :
    orderly shopEngine cartsStay climbing (send s >>= f) w held db post ↔
      ∀ db', cartsStay db db' → climbing (s.needs w db') held ∧
        orderly shopEngine cartsStay climbing (f (s.execIn w db').1) (s.execIn w db').2
          (s.needs w db' ++ held) db' post := Iff.rfl

/-! ## A transaction that has taken its locks up to a rank -/

/-- The locks up to rank `n` are taken, `mine` among them, and from then on only stock is locked:
    what else has been changed ranks higher. -/
structure Rising (n : Nat) (mine : List RowKey) (w : Session) (held : List RowKey) : Prop where
  owned : ∀ l ∈ mine, l ∈ held
  ranks : (∀ l ∈ held, l.rank ≤ n) ∨ HoldsStock held ∧ 0 < n
  locks : ∀ l ∈ w.locks, l ∈ held ∨ n < l.rank

/-- So it can be flushed, or committed. -/
theorem Rising.climbing (h : Rising n mine w held) : climbing w.locks held := by
  refine fun l hl => (h.locks l hl).imp_right fun hrank => ?_
  refine h.ranks.imp (fun hheld m hm => lt_of_le_of_lt (hheld m hm) hrank) ?_
  rintro ⟨hstock, hn⟩
  exact ⟨hstock, lt_of_le_of_lt hn hrank⟩

/-- The statements that can come next: reads, the locks of stock, and changes of rows that are
    locked or rank higher. -/
def Stmt.Climbs (n : Nat) (mine : List RowKey) : Stmt → Prop
  | .write x => ∀ l, x.locks = some l → l ∈ mine ∨ n < l.rank
  | .lockInventory _ => 0 < n
  | .insert _ | .updateCartItem _ _ | .claimPayment _ _ _ | .insertWalletIfAbsent _
  | .lockWallet _ | .flush => False
  | _ => True

theorem Rising.execIn (h : Rising n mine w held) (hn : n < 3) {s : Stmt} (hs : s.Climbs n mine)
    (db : Db) :
    ElectronicShop.climbing (s.needs w db) held ∧
      Rising n mine (s.execIn w db).2 (s.needs w db ++ held) := by
  -- most of them ask for no lock and change nothing
  have hread : s.sends = none → s.needs w db = [] → ElectronicShop.climbing (s.needs w db) held ∧
      Rising n mine (s.execIn w db).2 (s.needs w db ++ held) := by
    intro hsends hneeds
    rw [hneeds]
    refine ⟨climbing_nil held, h.owned, h.ranks, ?_⟩
    rw [Session.locks_of_pending (Stmt.pending_of_sends_none hsends w db)]
    exact h.locks
  cases s with
  | insert row => exact hs.elim
  | updateCartItem item quantity => exact hs.elim
  | claimPayment id fromStatus toStatus => exact hs.elim
  | insertWalletIfAbsent u => exact hs.elim
  | lockWallet u => exact hs.elim
  | flush => exact hs.elim
  | write x =>
    refine ⟨climbing_nil held, h.owned, h.ranks, fun l hl => ?_⟩
    rcases Session.mem_locks_send hl with hold | hnew
    · exact h.locks l hold
    · exact (hs l hnew).imp_left (h.owned l)
  | lockInventory p =>
    by_cases hrow : ((w.view db).inventory.get p).isSome = true
    · have hneeds : (Stmt.lockInventory p).needs w db = [.inventory p] := if_pos hrow
      rw [hneeds]
      refine ⟨fun l hl => Or.inr ?_, fun l hl => List.mem_append_right _ (h.owned l hl),
        Or.inr ⟨⟨p, List.mem_append_left _ (List.mem_singleton_self _)⟩, hs⟩, fun l hl =>
          (h.locks l hl).imp_left (List.mem_append_right _)⟩
      rw [List.mem_singleton.mp hl]
      refine h.ranks.imp (fun hheld m hm => lt_of_le_of_lt (hheld m hm) hn) fun hstock => ?_
      exact ⟨hstock.1, (show 1 < 3 by decide)⟩
    · exact hread rfl (if_neg hrow)
  | _ => exact hread rfl rfl

theorem orderly_rising {m : Tx α} (hm : m.Uses (Stmt.Climbs n mine)) (hn : n < 3)
    (h : Rising n mine w held) :
    orderly shopEngine cartsStay climbing m w held db
      fun _ w' held' _ => Rising n mine w' held' :=
  orderly_of_uses (fun w' held' _ => Rising n mine w' held')
    (fun _ hs _ _ _ db' h _ => h.execIn hn hs db') hm h

/-! ## A transaction that has taken all its locks -/

/-- All rows that have been changed are locked, and those are the locks, up to rank `n`. -/
structure Tidy (n : Nat) (mine : List RowKey) (w : Session) (held : List RowKey) : Prop where
  owned : ∀ l ∈ mine, l ∈ held
  ranks : ∀ l ∈ held, l.rank ≤ n
  locked : ∀ l ∈ w.locks, l ∈ held

theorem Tidy.rising (h : Tidy n mine w held) : Rising n mine w held :=
  ⟨h.owned, Or.inl h.ranks, fun l hl => Or.inl (h.locked l hl)⟩

theorem Tidy.mono {n' : Nat} (h : Tidy n mine w held) (hn : n ≤ n') : Tidy n' mine w held :=
  ⟨h.owned, fun l hl => (h.ranks l hl).trans hn, h.locked⟩

theorem Tidy.of_pending {w' : Session} (h : Tidy n mine w held) (hw : w'.pending = w.pending) :
    Tidy n mine w' held :=
  ⟨h.owned, h.ranks, by rw [Session.locks_of_pending hw]; exact h.locked⟩

theorem tidy_start : Tidy 0 [] shopEngine.start [] :=
  ⟨fun _ hl => absurd hl List.not_mem_nil, fun _ hl => absurd hl List.not_mem_nil,
    fun _ hl => absurd hl List.not_mem_nil⟩

/-- One more lock, of a row that is changed. -/
theorem Tidy.lock (h : Tidy n mine w held) {x : Write} {l : RowKey} (hx : x.locks = some l)
    (hn : n ≤ l.rank) : Tidy l.rank (l :: mine) (w.send x) (l :: held) := by
  refine ⟨fun m hm => ?_, fun m hm => ?_, fun m hm => ?_⟩
  · rcases List.mem_cons.mp hm with rfl | hmine
    · exact List.mem_cons_self
    · exact List.mem_cons_of_mem _ (h.owned m hmine)
  · rcases List.mem_cons.mp hm with rfl | hheld
    · exact le_refl _
    · exact (h.ranks m hheld).trans hn
  · rcases Session.mem_locks_send hm with hold | hnew
    · exact List.mem_cons_of_mem _ (h.locked m hold)
    · rw [hx] at hnew
      cases hnew
      exact List.mem_cons_self

/-- A lock above all others can be asked for. -/
theorem Tidy.climbing_singleton (h : Tidy n mine w held) {l : RowKey} (hn : n < l.rank) :
    climbing [l] held := by
  refine fun l' hl' => Or.inr (Or.inl fun m hm => ?_)
  rw [List.mem_singleton.mp hl']
  exact lt_of_le_of_lt (h.ranks m hm) hn

/-- A statement that locks nothing and changes nothing. -/
def Stmt.Reads (s : Stmt) : Prop := s.sends = none ∧ ∀ w db, s.needs w db = []

theorem orderly_read_bind {s : Stmt} {f : s.Resp → Tx α} (hs : s.Reads)
    (h : ∀ db', cartsStay db db' → ∀ w', w'.pending = w.pending →
      orderly shopEngine cartsStay climbing (f (s.execIn w db').1) w' held db' post) :
    orderly shopEngine cartsStay climbing (send s >>= f) w held db post := by
  refine orderly_send_bind.mpr fun db' hdb' => ?_
  rw [hs.2 w db']
  refine ⟨climbing_nil _, ?_⟩
  exact h db' hdb' _ (Stmt.pending_of_sends_none hs.1 w db')

/-- A row is added, or the whole program ends. -/
theorem orderly_insert_bind {row : NewRow} {f : Unit → Tx α} (h : Tidy n mine w held)
    (hn : n < row.key.rank)
    (hadded : ∀ db', cartsStay db db' →
      Tidy row.key.rank (row.key :: mine) (w.send (.add row)) (row.key :: held) →
      orderly shopEngine cartsStay climbing (f ()) (w.send (.add row)) (row.key :: held) db'
        post) :
    orderly shopEngine cartsStay climbing (insert row >>= f) w held db post := by
  unfold insert
  rw [bind_assoc]
  refine orderly_send_bind.mpr fun db' hdb' => ⟨h.climbing_singleton hn, ?_⟩
  by_cases htaken : row.taken (w.view db') = true
  · have hexec : (Stmt.insert row).execIn w db' = (false, w) := by
      simp only [Stmt.execIn]
      exact if_pos htaken
    rw [hexec]
    trivial
  · have hfree : row.taken (w.view db') = false := by simpa using htaken
    rw [Stmt.execIn_insert hfree]
    exact hadded db' hdb' (h.lock rfl hn.le)

/-! ## Carts -/

/-- A transaction on the cart of a user, which there is by now. -/
structure InCart (n : Nat) (userId : Uuid) (w : Session) (held : List RowKey) (db : Db) : Prop
    extends Tidy n [] w held where
  cart : ((w.view db).carts.get userId).isSome

theorem InCart.grow {userId : Uuid} (h : InCart n userId w held db) {w' : Session} {db' : Db}
    (hw : w'.pending = w.pending) (hdb : cartsStay db db') : InCart n userId w' held db' := by
  refine ⟨h.toTidy.of_pending hw, ?_⟩
  have hcart := h.cart
  rw [Session.isSome_carts_view] at hcart ⊢
  rw [hw]
  exact hcart.imp_left (hdb userId)

/-- Its cart is read, or created. -/
theorem orderly_getOrCreate {userId : Uuid} (h : Tidy 0 [] w held) :
    orderly shopEngine cartsStay climbing (CartRepository.getOrCreate userId) w held db
      fun _ w' held' db' => InCart 1 userId w' held' db' := by
  unfold CartRepository.getOrCreate
  refine orderly_read_bind ⟨rfl, fun _ _ => rfl⟩ fun db' _ w' hw' => ?_
  have htidy := h.of_pending hw'
  cases hcart : (w.view db').carts.get userId with
  | some cart =>
    simp only [Stmt.execIn, hcart]
    refine ⟨htidy.mono (Nat.zero_le 1), ?_⟩
    have hsome : ((w.view db').carts.get userId).isSome := by rw [hcart]; rfl
    rw [Session.isSome_carts_view] at hsome ⊢
    rwa [hw']
  | none =>
    simp only [Stmt.execIn, hcart]
    refine orderly_insert_bind htidy Nat.zero_lt_one fun db'' _ hadded => ?_
    refine ⟨⟨fun _ hl => absurd hl List.not_mem_nil, hadded.ranks, hadded.locked⟩, ?_⟩
    rw [Session.isSome_carts_view]
    exact Or.inr (List.mem_append_right _ (List.mem_singleton_self _))

/-- Once there is a cart, it is found again. -/
theorem orderly_getOrCreate_found {userId : Uuid} (h : InCart n userId w held db) :
    orderly shopEngine cartsStay climbing (CartRepository.getOrCreate userId) w held db
      fun _ w' held' db' => InCart n userId w' held' db' := by
  unfold CartRepository.getOrCreate
  refine orderly_read_bind ⟨rfl, fun _ _ => rfl⟩ fun db' hdb' w' hw' => ?_
  have hsome := (h.grow rfl hdb').cart
  cases hcart : (w.view db').carts.get userId with
  | some cart =>
    simp only [Stmt.execIn, hcart]
    exact h.grow hw' hdb'
  | none =>
    rw [hcart] at hsome
    cases hsome

/-- A program that only reads. -/
theorem orderly_inCart {userId : Uuid} {m : Tx α} (hm : m.Uses Stmt.Reads)
    (h : InCart n userId w held db) :
    orderly shopEngine cartsStay climbing m w held db
      fun _ w' held' db' => InCart n userId w' held' db' := by
  refine orderly_of_uses (fun w' held' db' => InCart n userId w' held' db')
    (fun s hs w' held' db db' h hdb => ?_) hm h
  have hneeds : shopEngine.need s w' db' = [] := hs.2 w' db'
  rw [hneeds]
  refine ⟨climbing_nil _, ?_⟩
  exact h.grow (Stmt.pending_of_sends_none hs.1 w' db') hdb

theorem orderly_getSummary {userId : Uuid} (h : InCart n userId w held db) :
    orderly shopEngine cartsStay climbing (CartService.getSummary userId) w held db
      fun _ w' held' db' => InCart n userId w' held' db' := by
  unfold CartService.getSummary
  rw [orderly_bind]
  refine orderly_mono (orderly_getOrCreate_found h) fun items w' held' db' h' => ?_
  refine orderly_inCart (Prog.Uses.foldlM items _ fun summary item => ?_) h'
  refine ⟨⟨rfl, fun _ _ => rfl⟩, fun found => ?_⟩
  change (match found with | none => _ | some (product, inventory) => _ : Tx CartSummary).Uses _
  cases found with
  | none => trivial
  | some p =>
    obtain ⟨product, inventory⟩ := p
    simp only
    split <;> trivial

/-- The lock of a cart line. -/
theorem InCart.lock {userId : Uuid} {x : Write} {l : RowKey} {db' : Db}
    (h : InCart 1 userId w held db) (hx : x.locks = some l) (hrank : l.rank = 3)
    (hdb : cartsStay db db') : InCart 3 userId (w.send x) (l :: held) db' := by
  have hlocked := h.toTidy.lock hx (hrank ▸ (show 1 ≤ 3 by decide))
  refine ⟨⟨fun _ hl => absurd hl List.not_mem_nil, hrank ▸ hlocked.ranks, hlocked.locked⟩, ?_⟩
  have hcart := (h.grow rfl hdb).cart
  rw [Session.isSome_carts_view] at hcart ⊢
  exact hcart.imp_right fun hmem => List.mem_append_left _ hmem

theorem orderly_setQuantity {userId : Uuid} {item : CartItem} {quantity : Nat}
    (h : InCart 1 userId w held db) :
    orderly shopEngine cartsStay climbing (CartService.setQuantity item quantity) w held db
      fun _ w' held' db' => InCart 3 userId w' held' db' := by
  unfold CartService.setQuantity
  split
  · exact ⟨h.toTidy.mono (by decide), h.cart⟩
  · refine orderly_send_bind.mpr fun db' hdb' => ?_
    by_cases hthere : ((w.view db').cartItems.get item.key).map CartItem.id = some item.id
    · have hneeds : (Stmt.updateCartItem item quantity).needs w db' =
          [.cartItem item.userId item.productId] := if_pos hthere
      have hexec : (Stmt.updateCartItem item quantity).execIn w db' =
          (true, w.send (.setCartItemQuantity item.id item.userId item.productId quantity)) :=
        if_pos hthere
      rw [hneeds, hexec]
      exact ⟨h.climbing_singleton (show 1 < 3 by decide), h.lock rfl rfl hdb'⟩
    · have hneeds : (Stmt.updateCartItem item quantity).needs w db' = [] := if_neg hthere
      have hexec : (Stmt.updateCartItem item quantity).execIn w db' = (false, w) := if_neg hthere
      rw [hneeds, hexec]
      exact ⟨climbing_nil _, trivial⟩

theorem orderly_storeQuantity {userId productId itemId : Uuid} {existing : Option CartItem}
    {quantity : Nat} (h : InCart 1 userId w held db) :
    orderly shopEngine cartsStay climbing
      (CartService.storeQuantity userId productId existing quantity itemId) w held db
      fun _ w' held' db' => InCart 3 userId w' held' db' := by
  cases existing with
  | some item => exact orderly_setQuantity h
  | none =>
    change orderly _ _ _ (insert (.cartItem { id := itemId, userId, productId, quantity })) w held
      db _
    rw [← bind_pure (insert _)]
    exact orderly_insert_bind h.toTidy (show 1 < 3 by decide) fun db' hdb' _ => h.lock rfl rfl hdb'

theorem orderly_addItem {userId productId itemId : Uuid} {quantity : Nat} (h : Tidy 0 [] w held) :
    orderly shopEngine cartsStay climbing (CartService.addItem userId productId quantity itemId) w
      held db fun _ w' held' db' => InCart 3 userId w' held' db' := by
  unfold CartService.addItem
  refine orderly_read_bind ⟨rfl, fun _ _ => rfl⟩ fun db₁ _ w₁ hw₁ => ?_
  refine orderly_orRaise_bind fun found _ => ?_
  obtain ⟨product, inventory⟩ := found
  refine orderly_if_raise fun _ => (orderly_bind ..).mpr ?_
  refine orderly_mono (orderly_getOrCreate (h.of_pending hw₁)) fun _ w₂ held₂ db₂ h₂ => ?_
  refine orderly_read_bind ⟨rfl, fun _ _ => rfl⟩ fun db₃ hdb₃ w₃ hw₃ => orderly_if_raise fun _ => ?_
  refine (orderly_bind ..).mpr (orderly_mono (orderly_storeQuantity (h₂.grow hw₃ hdb₃)) ?_)
  exact fun _ _ _ _ h₄ => orderly_getOrCreate_found h₄

theorem orderly_updateItem {userId productId : Uuid} {quantity : Nat} (h : Tidy 0 [] w held) :
    orderly shopEngine cartsStay climbing (CartService.updateItem userId productId quantity) w
      held db fun _ w' held' db' => InCart 3 userId w' held' db' := by
  unfold CartService.updateItem
  refine orderly_read_bind ⟨rfl, fun _ _ => rfl⟩ fun db₁ _ w₁ hw₁ => ?_
  refine orderly_orRaise_bind fun found _ => ?_
  obtain ⟨product, inventory⟩ := found
  refine orderly_if_raise fun _ => (orderly_bind ..).mpr ?_
  refine orderly_mono (orderly_getOrCreate (h.of_pending hw₁)) fun _ w₂ held₂ db₂ h₂ => ?_
  refine orderly_read_bind ⟨rfl, fun _ _ => rfl⟩ fun db₃ hdb₃ w₃ hw₃ => ?_
  refine orderly_orRaise_bind fun item _ => (orderly_bind ..).mpr ?_
  refine orderly_mono (orderly_setQuantity (h₂.grow hw₃ hdb₃)) ?_
  exact fun _ _ _ _ h₄ => orderly_getOrCreate_found h₄

/-- The last changes of a transaction. -/
theorem orderly_removeItem {userId productId : Uuid} (h : Tidy 0 [] w held) :
    orderly shopEngine cartsStay climbing (CartService.removeItem userId productId) w held db
      fun _ w' held' _ => Rising 1 [] w' held' := by
  unfold CartService.removeItem
  refine (orderly_bind ..).mpr (orderly_mono (orderly_getOrCreate h) fun _ w₁ held₁ db₁ h₁ => ?_)
  refine orderly_rising ⟨trivial, fun item => ?_⟩ (by decide) h₁.toTidy.rising
  change (match item with | some item => _ | none => _ : Tx Unit).Uses _
  cases item with
  | none => trivial
  | some item =>
    refine ⟨fun l hl => ?_, fun _ => trivial⟩
    cases hl
    exact Or.inr (show 1 < 3 by decide)

theorem climbs_clear (userId : Uuid) (hn : n < 3) :
    (CartRepository.clear userId).Uses (Stmt.Climbs n mine) := by
  refine ⟨trivial, fun items => Prog.Uses.forM items fun item => ⟨fun l hl => ?_, fun _ => trivial⟩⟩
  cases hl
  exact Or.inr hn

theorem orderly_clear {userId : Uuid} (h : Tidy 0 [] w held) :
    orderly shopEngine cartsStay climbing (CartService.clear userId) w held db
      fun _ w' held' _ => Rising 1 [] w' held' := by
  unfold CartService.clear
  refine (orderly_bind ..).mpr (orderly_mono (orderly_getOrCreate h) fun _ w₁ held₁ db₁ h₁ => ?_)
  exact orderly_rising (climbs_clear userId (by decide)) (by decide) h₁.toTidy.rising

/-! ## Stock and products -/

theorem climbs_write {x : Write} {f : Unit → Tx α}
    (hx : ∀ l, x.locks = some l → l ∈ mine ∨ n < l.rank) (hf : (f ()).Uses (Stmt.Climbs n mine)) :
    (write x >>= f).Uses (Stmt.Climbs n mine) := ⟨hx, fun _ => hf⟩

theorem climbs_send {s : Stmt} {f : s.Resp → Tx α} (hs : s.Climbs n mine)
    (hf : ∀ r, (f r).Uses (Stmt.Climbs n mine)) : (send s >>= f).Uses (Stmt.Climbs n mine) :=
  ⟨hs, hf⟩

theorem climbs_found {e : ShopError} {x : Option β} {f : β → Tx α}
    (hf : ∀ b, (f b).Uses (Stmt.Climbs n mine)) :
    (orRaise e x >>= f).Uses (Stmt.Climbs n mine) :=
  Prog.Uses.bind (Prog.uses_orRaise e x) hf

/-- A change of stock. -/
theorem climbs_stock (hn : n < 3) {x : Write} {p : Uuid} (hx : x.locks = some (.inventory p)) :
    ∀ l, x.locks = some l → l ∈ mine ∨ n < l.rank := by
  intro l hl
  rw [hx] at hl
  cases hl
  exact Or.inr hn

/-- A row that nobody else can change is added. -/
theorem climbs_log {x : Write} (hx : x.locks = none) :
    ∀ l, x.locks = some l → l ∈ mine ∨ n < l.rank := by
  intro l hl
  rw [hx] at hl
  cases hl

theorem climbs_lockedInventory (hn : 0 < n) {productId : Uuid} {f : ProductInventory → Tx α}
    (hf : ∀ inventory, (f inventory).Uses (Stmt.Climbs n mine)) :
    (InventoryService.lockedInventory productId >>= f).Uses (Stmt.Climbs n mine) := by
  refine Prog.Uses.bind ⟨hn, fun inventory => ?_⟩ hf
  exact Prog.uses_orRaise _ inventory

theorem climbs_reserve (hn : 0 < n ∧ n < 3) (productId : Uuid) (quantity : Int)
    (referenceType : String) (referenceId : Uuid) (actorId : Option Uuid) :
    (InventoryService.reserve productId quantity referenceType referenceId actorId).Uses
      (Stmt.Climbs n mine) := by
  refine climbs_lockedInventory hn.1 fun inventory => ?_
  simp only
  split
  · trivial
  · exact climbs_write (climbs_stock hn.2 rfl) (climbs_write (climbs_log rfl) trivial)

theorem climbs_release (hn : 0 < n ∧ n < 3) (productId : Uuid) (quantity : Int)
    (referenceType : String) (referenceId : Uuid) (actorId : Option Uuid) :
    (InventoryService.release productId quantity referenceType referenceId actorId).Uses
      (Stmt.Climbs n mine) :=
  climbs_lockedInventory hn.1 fun _ => climbs_write (climbs_stock hn.2 rfl)
    ⟨climbs_log rfl, fun _ => trivial⟩

theorem climbs_commitPurchase (hn : 0 < n ∧ n < 3) (productId : Uuid) (quantity : Int)
    (referenceType : String) (referenceId : Uuid) (actorId : Option Uuid) :
    (InventoryService.commitPurchase productId quantity referenceType referenceId actorId).Uses
      (Stmt.Climbs n mine) :=
  climbs_lockedInventory hn.1 fun _ => climbs_write (climbs_stock hn.2 rfl)
    (climbs_write (climbs_stock hn.2 rfl) ⟨climbs_log rfl, fun _ => trivial⟩)

theorem climbs_restock (hn : 0 < n ∧ n < 3) (productId : Uuid) (quantity : Int)
    (actorId : Option Uuid) :
    (InventoryService.restock productId quantity actorId).Uses (Stmt.Climbs n mine) :=
  climbs_lockedInventory hn.1 fun _ => climbs_write (climbs_stock hn.2 rfl)
    ⟨climbs_log rfl, fun _ => trivial⟩

theorem climbs_adjust (hn : 0 < n ∧ n < 3) (productId : Uuid) (delta : Int)
    (actorId : Option Uuid) :
    (InventoryService.adjust productId delta actorId).Uses (Stmt.Climbs n mine) := by
  refine climbs_lockedInventory hn.1 fun inventory => ?_
  simp only
  split
  · trivial
  · exact climbs_write (climbs_stock hn.2 rfl) ⟨climbs_log rfl, fun _ => trivial⟩

/-- The row of a product is changed. -/
theorem climbs_product {old new : Product} :
    ∀ l, (Write.setProduct old new).locks = some l → l ∈ mine ∨ 0 < l.rank :=
  fun l _ => Or.inr l.rank_pos

theorem climbs_update (productId : Uuid) (data : ProductUpdate) :
    (ProductService.update productId data).Uses (Stmt.Climbs 0 mine) := by
  refine climbs_send trivial fun found => climbs_found fun found => ?_
  obtain ⟨product, inventory⟩ := found
  refine Prog.Uses.bind ?_ fun _ => Prog.Uses.bind ?_ fun _ =>
    climbs_found fun stored => climbs_write climbs_product trivial
  · cases data.categoryId.value with
    | none => trivial
    | some categoryId => exact climbs_send trivial fun _ => climbs_found fun _ => trivial
  · unfold ProductService.checkDiscount
    split
    · trivial
    · trivial
    · split <;> trivial

theorem climbs_archive (productId : Uuid) :
    (ProductService.archive productId).Uses (Stmt.Climbs 0 mine) :=
  climbs_send trivial fun _ => climbs_found fun _ => ⟨climbs_product, fun _ => trivial⟩

theorem orderly_getBySlugOrSku (data : ProductCreate) :
    orderly shopEngine cartsStay climbing (ProductService.getBySlugOrSku data) w held db
      fun _ w' held' _ => w'.pending = w.pending ∧ held' = held := by
  refine orderly_if_raise fun _ => ?_
  exact orderly_read_bind (f := pure) ⟨rfl, fun _ _ => rfl⟩ fun _ _ w' hw' => ⟨hw', rfl⟩

/-- A product is added with its stock. -/
theorem orderly_create (data : ProductCreate) (productId : Uuid) (h : Tidy 0 [] w held) :
    orderly shopEngine cartsStay climbing (ProductService.create data productId) w held db
      fun _ w' held' _ => Rising 3 [] w' held' := by
  unfold ProductService.create
  rw [orderly_bind]
  refine orderly_mono (orderly_getBySlugOrSku data) ?_
  rintro products w₁ held₁ db₁ ⟨hw₁, rfl⟩
  cases products with
  | cons product others => cases others <;> trivial
  | nil =>
    refine orderly_read_bind ⟨rfl, fun _ _ => rfl⟩ fun db₂ _ w₂ hw₂ => ?_
    refine orderly_orRaise_bind fun _ _ => ?_
    refine orderly_insert_bind ((h.of_pending hw₁).of_pending hw₂) (show 0 < 1 by decide) ?_
    intro db₃ _ h₃
    refine orderly_insert_bind h₃ (show 1 < 3 by decide) fun db₄ _ h₄ => ?_
    exact ⟨fun _ hl => absurd hl List.not_mem_nil, h₄.rising.ranks, h₄.rising.locks⟩

/-! ## Orders -/

/-- A change of an order whose row is locked, or for which the time has not come. -/
theorem climbs_order {orderId : Uuid} (ho : RowKey.order orderId ∈ mine ∨ n < 2) {x : Write}
    (hx : x.locks = some (.order orderId)) : ∀ l, x.locks = some l → l ∈ mine ∨ n < l.rank := by
  intro l hl
  rw [hx] at hl
  cases hl
  exact ho

theorem climbs_transition {order : Order} (ho : RowKey.order order.id ∈ mine ∨ n < 2)
    (newStatus : OrderStatus) (actorId : Option Uuid) (note : Option String) (now : DateTime) :
    (OrderService.transition order newStatus actorId note now).Uses (Stmt.Climbs n mine) := by
  unfold OrderService.transition
  split
  · trivial
  · refine climbs_write (climbs_log rfl) (climbs_write (climbs_order ho rfl) ?_)
    split
    · exact climbs_write (climbs_order ho rfl) trivial
    · trivial

theorem climbs_forProducts {order : Order} {act : Uuid → Int → Tx Unit}
    (hact : ∀ p q, (act p q).Uses (Stmt.Climbs n mine)) :
    (OrderService.forProducts order act).Uses (Stmt.Climbs n mine) := by
  refine Prog.Uses.forM order.items fun item => ?_
  split
  · exact hact _ _
  · trivial

theorem climbs_getById {orderId : Uuid} {f : Order → Tx α}
    (hf : ∀ order, (f order).Uses (Stmt.Climbs n mine)) :
    (OrderService.getById orderId >>= f).Uses (Stmt.Climbs n mine) := by
  refine Prog.Uses.bind (climbs_send trivial fun order => ?_) hf
  exact Prog.uses_orRaise _ order

theorem climbs_markPaid (orderId : Uuid) (now : DateTime) :
    (OrderService.markPaid orderId now).Uses (Stmt.Climbs 1 mine) :=
  climbs_getById fun _ => Prog.Uses.bind
    (climbs_forProducts fun _ _ => climbs_commitPurchase (by decide) ..) fun _ =>
      climbs_transition (Or.inr (by decide)) ..

theorem climbs_markPaymentFailed (orderId : Uuid) (now : DateTime) :
    (OrderService.markPaymentFailed orderId now).Uses (Stmt.Climbs 1 mine) :=
  climbs_getById fun _ => Prog.Uses.bind
    (climbs_forProducts fun _ _ => climbs_release (by decide) ..) fun _ =>
      climbs_transition (Or.inr (by decide)) ..

theorem climbs_cancel (orderId : Uuid) (user : User) (now : DateTime) :
    (OrderService.cancel orderId user now).Uses (Stmt.Climbs 1 mine) := by
  refine climbs_getById fun order => Prog.Uses.bind ?_ fun _ => Prog.Uses.bind ?_ fun _ =>
    climbs_transition (Or.inr (by decide)) ..
  · unfold OrderService.authorizeAccess
    split <;> trivial
  · unfold OrderService.releaseOnCancel
    split
    · exact climbs_forProducts fun _ _ => climbs_release (by decide) ..
    · trivial

theorem climbs_checkoutItem (hn : 0 < n ∧ n < 3) (orderId userId : Uuid) (subtotal : Int)
    (cartItem : CartItem) :
    (OrderService.checkoutItem orderId userId subtotal cartItem).Uses (Stmt.Climbs n mine) := by
  refine climbs_send trivial fun found => climbs_found fun found => ?_
  obtain ⟨product, inventory⟩ := found
  simp only
  split
  · trivial
  · refine climbs_write (climbs_log rfl) ?_
    exact Prog.Uses.bind (climbs_reserve hn ..) fun _ => trivial

/-- Before a flush everything may still be asked for, and afterwards all of it is there. -/
theorem orderly_flush_bind {f : Unit → Tx α} (h : Rising n mine w held)
    (hf : ∀ held' db', Rising 3 [] w held' →
      orderly shopEngine cartsStay climbing (f ()) w held' db' post) :
    orderly shopEngine cartsStay climbing (flush >>= f) w held db post := by
  refine orderly_send_bind.mpr fun db' _ => ⟨h.climbing, hf _ db' ?_⟩
  refine ⟨fun _ hl => absurd hl List.not_mem_nil, Or.inl fun l _ => l.rank_le, fun l hl => ?_⟩
  exact Or.inl (List.mem_append_left _ hl)

/-- A program at whose end nothing is left to be done but reads. -/
theorem orderly_reads {m : Tx α} (hm : m.Uses Stmt.Reads) (h : Rising n mine w held) :
    orderly shopEngine cartsStay climbing m w held db
      fun _ w' held' _ => Rising n mine w' held' := by
  refine orderly_of_uses (fun w' held' _ => Rising n mine w' held')
    (fun s hs w' held' db db' h _ => ?_) hm h
  have hneeds : shopEngine.need s w' db' = [] := hs.2 w' db'
  have hlocks : Session.locks (shopEngine.exec s w' db').2 = w'.locks :=
    Session.locks_of_pending (Stmt.pending_of_sends_none hs.1 w' db')
  rw [hneeds]
  exact ⟨climbing_nil _, h.owned, h.ranks, hlocks ▸ h.locks⟩

theorem orderly_finishCheckout (order : Order) (subtotal : Int) (now : DateTime)
    (h : Rising 2 [.order order.id] w held) :
    orderly shopEngine cartsStay climbing (OrderService.finishCheckout order subtotal now) w held
      db fun _ w' held' _ => Rising 3 [] w' held' := by
  have hmine : RowKey.order order.id ∈ [RowKey.order order.id] ∨ 2 < 2 :=
    Or.inl (List.mem_singleton_self _)
  have hchanges : (write (.setOrderAmounts order.id subtotal subtotal) >>= fun _ =>
      OrderService.transition order .awaitingPayment (some order.userId) none now >>= fun _ =>
        CartRepository.clear order.userId).Uses (Stmt.Climbs 2 [.order order.id]) :=
    climbs_write (climbs_order hmine rfl) (Prog.Uses.bind (climbs_transition hmine ..) fun _ =>
      climbs_clear order.userId (by decide))
  have hfinish : OrderService.finishCheckout order subtotal now =
      ((write (.setOrderAmounts order.id subtotal subtotal) >>= fun _ =>
        OrderService.transition order .awaitingPayment (some order.userId) none now >>= fun _ =>
          CartRepository.clear order.userId) >>= fun _ => flush >>= fun _ =>
            send (.getOrder order.id) >>= orRaise .internal) := by
    simp only [OrderService.finishCheckout, bind_assoc]
  rw [hfinish, orderly_bind]
  refine orderly_mono (orderly_rising hchanges (by decide) h) fun _ w' held' db' h' => ?_
  refine orderly_flush_bind h' fun held'' db'' h'' => orderly_reads ?_ h''
  exact ⟨⟨rfl, fun _ _ => rfl⟩, fun order => Prog.uses_orRaise _ order⟩

theorem orderly_checkout (userId : Uuid) (shippingAddress : Option ShippingAddress)
    (orderId : Uuid) (now : DateTime) (h : Tidy 0 [] w held) :
    orderly shopEngine cartsStay climbing
      (OrderService.checkout userId shippingAddress orderId now) w held db
      fun _ w' held' _ => Rising 3 [] w' held' := by
  unfold OrderService.checkout
  rw [orderly_bind]
  refine orderly_mono (orderly_getOrCreate h) fun items w₁ held₁ db₁ h₁ => ?_
  refine orderly_if_raise fun _ => ?_
  refine orderly_insert_bind h₁.toTidy (show 1 < 2 by decide) fun db₂ _ h₂ => ?_
  rw [orderly_bind]
  have hitems : (items.foldlM (OrderService.checkoutItem orderId userId) 0).Uses
      (Stmt.Climbs 2 [.order orderId]) :=
    Prog.Uses.foldlM items 0 fun subtotal item => climbs_checkoutItem (by decide) ..
  refine orderly_mono (orderly_rising hitems (by decide) h₂.rising) ?_
  exact fun subtotal w₃ held₃ db₃ h₃ => orderly_finishCheckout _ subtotal now h₃

/-! ## Payments -/

theorem orderly_initPayment (zarinpal : ZarinPalClient) (callbackUrl : String) (user : User)
    (orderId paymentId : Uuid) (h : Tidy 0 [] w held) :
    orderly shopEngine cartsStay climbing
      (PaymentService.initPayment zarinpal callbackUrl user orderId paymentId) w held db
      fun _ w' held' _ => climbing w'.locks held' := by
  unfold PaymentService.initPayment
  refine orderly_read_bind ⟨rfl, fun _ _ => rfl⟩ fun db₁ _ w₁ hw₁ => ?_
  refine orderly_orRaise_bind fun order _ => orderly_if_raise fun _ => orderly_if_raise fun _ => ?_
  refine orderly_insert_bind (h.of_pending hw₁) (show 0 < 1 by decide) fun db₂ _ h₂ => ?_
  generalize zarinpal.requestPayment _ _ _ = answer
  cases answer with
  | error e => cases e <;> trivial
  | ok result =>
    have hauthority : (write (.setPaymentAuthority paymentId result.authority)).Uses
        (Stmt.Climbs 1 [.payment paymentId]) := by
      refine ⟨fun l hl => ?_, fun _ => trivial⟩
      cases hl
      exact Or.inl (List.mem_singleton_self _)
    refine (orderly_bind ..).mpr ?_
    refine orderly_mono (orderly_rising hauthority (by decide) h₂.rising) ?_
    exact fun _ _ _ _ h' => h'.climbing

/-- A change of the payment that has been claimed. -/
theorem climbs_payment {paymentId : Uuid} {x : Write} (hx : x.locks = some (.payment paymentId)) :
    ∀ l, x.locks = some l → l ∈ [RowKey.payment paymentId] ∨ 1 < l.rank := by
  intro l hl
  rw [hx] at hl
  cases hl
  exact Or.inl (List.mem_singleton_self _)

theorem climbs_settle (zarinpal : ZarinPalClient) (payment : Payment)
    (authority gatewayStatus : String) (now : DateTime) :
    (PaymentService.settle zarinpal payment authority gatewayStatus now).Uses
      (Stmt.Climbs 1 [.payment payment.id]) := by
  have hfailed : ∀ payment' : Payment,
      (OrderService.markPaymentFailed payment.orderId now >>= fun _ => pure payment').Uses
        (Stmt.Climbs 1 [.payment payment.id]) := fun _ =>
    Prog.Uses.bind (climbs_markPaymentFailed ..) fun _ => trivial
  unfold PaymentService.settle
  split
  · exact climbs_write (climbs_payment rfl) (hfailed _)
  · split
    · trivial
    · split
      · refine climbs_write (climbs_payment rfl) (climbs_write (climbs_payment rfl) ?_)
        refine climbs_write (climbs_payment rfl) (climbs_write (climbs_payment rfl) ?_)
        exact Prog.Uses.bind (climbs_markPaid ..) fun _ => trivial
      · exact climbs_write (climbs_payment rfl) (climbs_write (climbs_payment rfl) (hfailed _))

theorem orderly_handleCallback (zarinpal : ZarinPalClient) (authority gatewayStatus : String)
    (now : DateTime) (h : Tidy 0 [] w held) :
    orderly shopEngine cartsStay climbing
      (PaymentService.handleCallback zarinpal authority gatewayStatus now) w held db
      fun _ w' held' _ => climbing w'.locks held' := by
  unfold PaymentService.handleCallback
  refine orderly_read_bind ⟨rfl, fun _ _ => rfl⟩ fun db₁ _ w₁ hw₁ => ?_
  refine orderly_orRaise_bind fun payment _ => orderly_send_bind.mpr fun db₂ _ => ?_
  have h₁ := h.of_pending hw₁
  by_cases hclaim : ((w₁.view db₂).payments.get payment.id).map Payment.status = some .initiated
  · have hneeds : (Stmt.claimPayment payment.id .initiated .pending).needs w₁ db₂ =
        [.payment payment.id] := if_pos hclaim
    have hexec : (Stmt.claimPayment payment.id .initiated .pending).execIn w₁ db₂ =
        (true, w₁.send (.setPaymentStatus payment.id .pending)) := if_pos hclaim
    rw [hneeds, hexec]
    refine ⟨h₁.climbing_singleton (show 0 < 1 by decide), ?_⟩
    have h₂ := (h₁.lock (x := .setPaymentStatus payment.id .pending) rfl (Nat.zero_le _)).rising
    refine orderly_mono (orderly_rising (climbs_settle ..) (by decide) h₂) ?_
    exact fun _ _ _ _ h' => h'.climbing
  · have hneeds : (Stmt.claimPayment payment.id .initiated .pending).needs w₁ db₂ = [] :=
      if_neg hclaim
    have hexec : (Stmt.claimPayment payment.id .initiated .pending).execIn w₁ db₂ = (false, w₁) :=
      if_neg hclaim
    rw [hneeds, hexec]
    refine ⟨climbing_nil _, ?_⟩
    have hrefresh : (send (.refreshPayment payment.id) >>= orRaise ShopError.internal).Uses
        (Stmt.Climbs 0 []) := climbs_send trivial fun found => Prog.uses_orRaise _ found
    refine orderly_mono (orderly_rising hrefresh (by decide) h₁.rising) ?_
    exact fun _ _ _ _ h' => h'.climbing

/-! ## Wallets -/

/-- A transaction that locks no row but a wallet, before it is flushed. -/
structure InWallet (userId : Uuid) (w : Session) (held : List RowKey) : Prop where
  held : ∀ l ∈ held, l = .wallet userId
  locks : ∀ l ∈ w.locks, l = .wallet userId ∨ 1 < l.rank

theorem InWallet.climbing_wallet {userId : Uuid} (h : InWallet userId w held) {need : List RowKey}
    (hneed : ∀ l ∈ need, l = .wallet userId ∨ 1 < l.rank) : climbing need held := by
  intro l hl
  rcases hneed l hl with rfl | hrank
  · by_cases hheld : RowKey.wallet userId ∈ held
    · exact Or.inl hheld
    · exact Or.inr (Or.inl fun m hm => absurd (h.held m hm ▸ hm) hheld)
  · refine Or.inr (Or.inl fun m hm => ?_)
    rw [h.held m hm]
    exact hrank

/-- The statements of the operations on a wallet, but for the flush. -/
def Stmt.OfWallet (userId : Uuid) : Stmt → Prop
  | .getWallet _ => True
  | .insertWalletIfAbsent u => u = userId
  | .lockWallet u => u = userId
  | .write x => ∀ l, x.locks = some l → l = .wallet userId
  | _ => False

theorem InWallet.send {userId : Uuid} (h : InWallet userId w held) {x : Write}
    (hx : ∀ l, x.locks = some l → l = .wallet userId) : InWallet userId (w.send x) held := by
  refine ⟨h.held, fun l hl => ?_⟩
  rcases Session.mem_locks_send hl with hold | hnew
  · exact h.locks l hold
  · exact Or.inl (hx l hnew)

theorem InWallet.execIn {userId : Uuid} (h : InWallet userId w held) {s : Stmt}
    (hs : s.OfWallet userId) (db : Db) :
    climbing (s.needs w db) held ∧ InWallet userId (s.execIn w db).2 (s.needs w db ++ held) := by
  have hwallet : ∀ {need : List RowKey} {w' : Session}, (∀ l ∈ need, l = .wallet userId) →
      InWallet userId w' held → climbing need held ∧ InWallet userId w' (need ++ held) := by
    intro need w' hneed h'
    refine ⟨h.climbing_wallet fun l hl => Or.inl (hneed l hl), fun l hl => ?_, h'.locks⟩
    exact (List.mem_append.mp hl).elim (hneed l) (h.held l)
  cases s with
  | getWallet u => exact hwallet (fun l hl => absurd hl List.not_mem_nil) h
  | write x => exact hwallet (fun l hl => absurd hl List.not_mem_nil) (h.send hs)
  | lockWallet u =>
    cases hs
    refine hwallet (fun l hl => ?_) ⟨h.held, h.locks⟩
    simp only [Stmt.needs] at hl
    split at hl
    · exact List.mem_singleton.mp hl
    · cases hl
  | insertWalletIfAbsent u =>
    cases hs
    refine hwallet (fun l hl => ?_) ?_
    · simp only [Stmt.needs] at hl
      split at hl
      · cases hl
      · exact List.mem_singleton.mp hl
    · simp only [Stmt.execIn]
      split
      · exact h
      · split
        · refine ⟨h.held, (h.send (x := .add (.wallet ⟨userId, 0⟩)) fun l hl => ?_).locks⟩
          cases hl
          rfl
        · exact h
  | _ => exact hs.elim

theorem orderly_inWallet {userId : Uuid} {m : Tx α} (hm : m.Uses (Stmt.OfWallet userId))
    (h : InWallet userId w held) :
    orderly shopEngine cartsStay climbing m w held db
      fun _ w' held' _ => InWallet userId w' held' :=
  orderly_of_uses (fun w' held' _ => InWallet userId w' held')
    (fun _ hs _ _ _ db' h _ => h.execIn hs db') hm h

theorem ofWallet_getOrCreate (userId : Uuid) :
    (WalletService.getOrCreate userId).Uses (Stmt.OfWallet userId) := by
  refine ⟨trivial, fun wallet => ?_⟩
  change (match wallet with | some wallet => _ | none => _ : Tx Wallet).Uses _
  cases wallet with
  | some wallet => trivial
  | none =>
    refine ⟨rfl, fun inserted => ?_⟩
    change (match inserted with | true => _ | false => _ : Tx Wallet).Uses _
    cases inserted with
    | true => exact ⟨trivial, fun wallet => Prog.uses_orRaise _ wallet⟩
    | false => trivial

theorem orderly_apply (userId : Uuid) (type : WalletTransactionType) (amount : ℚ)
    (referenceType : Option String) (referenceId : Option Uuid) (note : Option String)
    (actorId : Option Uuid) (h : InWallet userId w held) :
    orderly shopEngine cartsStay climbing
      (WalletService.apply userId type amount referenceType referenceId note actorId) w held db
      fun _ w' held' _ => climbing w'.locks held' := by
  unfold WalletService.apply
  rw [orderly_bind]
  refine orderly_mono (orderly_inWallet (ofWallet_getOrCreate userId) h) fun _ w₁ held₁ db₁ h₁ => ?_
  refine orderly_send_bind.mpr fun db₂ _ => ?_
  obtain ⟨hclimbing, h₂⟩ := h₁.execIn (s := .lockWallet userId) rfl db₂
  refine ⟨hclimbing, orderly_orRaise_bind fun wallet _ => orderly_if_raise fun _ => ?_⟩
  refine orderly_send_bind.mpr fun db₃ _ => ?_
  obtain ⟨hclimbing, h₃⟩ := h₂.execIn (s := .write (.setWalletBalance userId _))
    (fun l hl => (Option.some.inj hl).symm) db₃
  refine ⟨hclimbing, orderly_send_bind.mpr fun db₄ _ => ?_⟩
  obtain ⟨hclimbing, h₄⟩ := h₃.execIn (s := .write (.addWalletTransaction _))
    (fun l hl => by cases hl) db₄
  refine ⟨hclimbing, orderly_send_bind.mpr fun db₅ _ => ⟨h₄.climbing_wallet h₄.locks, ?_⟩⟩
  exact fun l hl => Or.inl (List.mem_append_left _ hl)

theorem orderly_walletGetOrCreate (userId : Uuid) (h : InWallet userId w held) :
    orderly shopEngine cartsStay climbing (WalletService.getOrCreate userId) w held db
      fun _ w' held' _ => climbing w'.locks held' :=
  orderly_mono (orderly_inWallet (ofWallet_getOrCreate userId) h) fun _ _ _ _ h' =>
    h'.climbing_wallet h'.locks

/-- A transaction that has taken no lock so far, and has changed nothing but orders. -/
structure InOrder (w : Session) (held : List RowKey) : Prop where
  free : held = []
  locks : ∀ l ∈ w.locks, 1 < l.rank

theorem InOrder.inWallet (h : InOrder w held) (userId : Uuid) : InWallet userId w held := by
  refine ⟨fun l hl => ?_, fun l hl => Or.inr (h.locks l hl)⟩
  rw [h.free] at hl
  cases hl

theorem InOrder.climbing (h : InOrder w held) : climbing w.locks held :=
  (h.inWallet 0).climbing_wallet (h.inWallet 0).locks

/-- The statements of a change of an order. -/
def Stmt.OfOrder : Stmt → Prop
  | .getOrder _ => True
  | .write x => ∀ l, x.locks = some l → 1 < l.rank
  | _ => False

theorem orderly_inOrder {m : Tx α} (hm : m.Uses Stmt.OfOrder) (h : InOrder w held) :
    orderly shopEngine cartsStay ElectronicShop.climbing m w held db
      fun _ w' held' _ => InOrder w' held' := by
  refine orderly_of_uses (fun w' held' _ => InOrder w' held') (fun s hs w' held' db db' h _ => ?_)
    hm h
  cases s with
  | getOrder id => exact ⟨climbing_nil _, h.free, h.locks⟩
  | write x =>
    refine ⟨climbing_nil _, h.free, fun l hl => ?_⟩
    rcases Session.mem_locks_send hl with hold | hnew
    · exact h.locks l hold
    · exact hs l hnew
  | _ => exact hs.elim

theorem ofOrder_adminUpdateStatus (orderId : Uuid) (newStatus : OrderStatus)
    (note : Option String) (actorId : Uuid) (now : DateTime) :
    (OrderService.adminUpdateStatus orderId newStatus note actorId now).Uses Stmt.OfOrder := by
  refine Prog.Uses.bind ⟨trivial, fun order => Prog.uses_orRaise _ order⟩ fun order => ?_
  unfold OrderService.transition
  split
  · trivial
  · refine ⟨fun l hl => ?_, fun _ => ⟨fun l hl => ?_, fun _ => ?_⟩⟩
    · cases hl
    · cases hl
      exact (show 1 < 2 by decide)
    · split
      · refine ⟨fun l hl => ?_, fun _ => trivial⟩
        cases hl
        exact (show 1 < 2 by decide)
      · trivial

/-- Only then is the wallet locked, and the order last of all. -/
theorem orderly_refundIfRefunded (order : Order) (actorId : Uuid) (h : InOrder w held) :
    orderly shopEngine cartsStay climbing (refundIfRefunded order actorId) w held db
      fun _ w' held' _ => climbing w'.locks held' := by
  unfold refundIfRefunded
  split
  · exact (orderly_bind ..).mpr (orderly_apply _ _ _ _ _ _ _ (h.inWallet _))
  · exact h.climbing

/-! ## Requests -/

theorem orderly_discard {m : Tx α}
    (h : orderly shopEngine cartsStay climbing m w held db
      fun _ w' held' _ => climbing w'.locks held') :
    orderly shopEngine cartsStay climbing (discard m) w held db
      fun _ w' held' _ => climbing w'.locks held' :=
  (orderly_bind m _).mpr h

theorem orderly_getCurrentUser {subject : Uuid} (h : Tidy 0 [] w held) :
    orderly shopEngine cartsStay climbing (getCurrentUser subject) w held db
      fun _ w' held' _ => Tidy 0 [] w' held' := by
  unfold getCurrentUser
  refine orderly_read_bind ⟨rfl, fun _ _ => rfl⟩ fun db₁ _ w₁ hw₁ => ?_
  exact orderly_orRaise_bind fun user _ => orderly_if_raise fun _ => h.of_pending hw₁

theorem orderly_authorized {subject : Uuid} {permission : Permission} (h : Tidy 0 [] w held) :
    orderly shopEngine cartsStay climbing (authorized subject permission) w held db
      fun _ w' held' _ => Tidy 0 [] w' held' := by
  refine (orderly_bind ..).mpr (orderly_mono (orderly_getCurrentUser h) fun user _ _ _ h' => ?_)
  refine (orderly_bind ..).mpr ?_
  unfold requirePermission
  exact orderly_if_raise fun _ => h'

theorem orderly_asUser {subject : Uuid} {f : User → Tx α} (h : Tidy 0 [] w held)
    (hf : ∀ user w' held' db', Tidy 0 [] w' held' →
      orderly shopEngine cartsStay climbing (f user) w' held' db' post) :
    orderly shopEngine cartsStay climbing (getCurrentUser subject >>= f) w held db post :=
  (orderly_bind ..).mpr (orderly_mono (orderly_getCurrentUser h) hf)

theorem orderly_asAuthorized {subject : Uuid} {permission : Permission} {f : User → Tx α}
    (h : Tidy 0 [] w held)
    (hf : ∀ user w' held' db', Tidy 0 [] w' held' →
      orderly shopEngine cartsStay climbing (f user) w' held' db' post) :
    orderly shopEngine cartsStay climbing (authorized subject permission >>= f) w held db post :=
  (orderly_bind ..).mpr (orderly_mono (orderly_authorized h) hf)

/-- Who has taken its locks last can commit. -/
theorem orderly_climbing {m : Tx α}
    (h : orderly shopEngine cartsStay climbing m w held db
      fun _ w' held' _ => Rising n mine w' held') :
    orderly shopEngine cartsStay climbing m w held db
      fun _ w' held' _ => climbing w'.locks held' :=
  orderly_mono h fun _ _ _ _ h' => h'.climbing

theorem Tidy.climbing (h : Tidy n mine w held) : climbing w.locks held := h.rising.climbing

theorem Tidy.inWallet (h : Tidy 0 [] w held) (userId : Uuid) : InWallet userId w held :=
  ⟨fun l hl => absurd (h.ranks l hl) (Nat.not_le_of_lt l.rank_pos), fun l hl =>
    absurd (h.ranks l (h.locked l hl)) (Nat.not_le_of_lt l.rank_pos)⟩

theorem Tidy.inOrder (h : Tidy 0 [] w held) : InOrder w held :=
  ⟨List.eq_nil_iff_forall_not_mem.mpr fun l hl =>
    absurd (h.ranks l hl) (Nat.not_le_of_lt l.rank_pos), fun l hl =>
    absurd (h.ranks l (h.locked l hl)) (Nat.not_le_of_lt l.rank_pos)⟩

end Rules

/-- Every request climbs. -/
theorem orderly_request (request : Request) (db : Db) :
    orderly shopEngine cartsStay climbing request.handler shopEngine.start [] db
      fun _ w' held' _ => climbing w'.locks held' := by
  cases request with
  | addCartItem subject data itemId =>
    refine orderly_discard (orderly_asUser tidy_start fun user w held db h => ?_)
    refine (orderly_bind ..).mpr (orderly_mono (orderly_addItem h) fun _ _ _ _ h' => ?_)
    exact orderly_mono (orderly_getSummary h') fun _ _ _ _ h'' => h''.climbing
  | updateCartItem subject productId data =>
    refine orderly_discard (orderly_asUser tidy_start fun user w held db h => ?_)
    refine (orderly_bind ..).mpr (orderly_mono (orderly_updateItem h) fun _ _ _ _ h' => ?_)
    exact orderly_mono (orderly_getSummary h') fun _ _ _ _ h'' => h''.climbing
  | removeCartItem subject productId =>
    exact orderly_asUser tidy_start fun user w held db h => orderly_climbing (orderly_removeItem h)
  | clearCart subject =>
    exact orderly_asUser tidy_start fun user w held db h => orderly_climbing (orderly_clear h)
  | checkout subject shippingAddress orderId now =>
    refine orderly_discard (orderly_asUser tidy_start fun user w held db h => ?_)
    exact orderly_climbing (orderly_checkout _ _ _ _ h)
  | cancelOrder subject orderId now =>
    refine orderly_discard (orderly_asUser tidy_start fun user w held db h => ?_)
    exact orderly_climbing
      (orderly_rising (climbs_cancel ..) (by decide) (h.mono (Nat.zero_le 1)).rising)
  | updateOrderStatus subject orderId data now =>
    refine orderly_discard (orderly_asAuthorized tidy_start fun user w held db h => ?_)
    refine (orderly_bind ..).mpr
      (orderly_mono (orderly_inOrder (ofOrder_adminUpdateStatus ..) h.inOrder) ?_)
    intro order _ _ _ h'
    exact (orderly_bind ..).mpr (orderly_refundIfRefunded order user.id h')
  | initPayment zarinpal callbackUrl subject orderId paymentId =>
    refine orderly_discard (orderly_asUser tidy_start fun user w held db h => ?_)
    exact orderly_initPayment _ _ _ _ _ h
  | paymentCallback zarinpal authority status now =>
    exact orderly_discard (orderly_handleCallback _ _ _ _ tidy_start)
  | restockProduct subject productId data =>
    refine orderly_asAuthorized tidy_start fun user w held db h => ?_
    exact orderly_climbing (orderly_rising (climbs_restock (by decide) ..) (by decide)
      (h.mono (Nat.zero_le 1)).rising)
  | adjustProductInventory subject productId data =>
    refine orderly_asAuthorized tidy_start fun user w held db h => ?_
    exact orderly_climbing (orderly_rising (climbs_adjust (by decide) ..) (by decide)
      (h.mono (Nat.zero_le 1)).rising)
  | createProduct subject data productId =>
    refine orderly_discard (orderly_asAuthorized tidy_start fun user w held db h => ?_)
    exact orderly_climbing (orderly_create _ _ h)
  | updateProduct subject productId data =>
    refine orderly_discard (orderly_asAuthorized tidy_start fun user w held db h => ?_)
    exact orderly_climbing (orderly_rising (climbs_update ..) (by decide) h.rising)
  | archiveProduct subject productId =>
    refine orderly_asAuthorized tidy_start fun user w held db h => ?_
    exact orderly_climbing (orderly_rising (climbs_archive ..) (by decide) h.rising)
  | getMyWallet subject =>
    refine orderly_discard (orderly_asUser tidy_start fun user w held db h => ?_)
    exact orderly_walletGetOrCreate _ (h.inWallet _)
  | depositToWallet subject data =>
    refine orderly_discard (orderly_asUser tidy_start fun user w held db h => ?_)
    exact orderly_apply _ _ _ _ _ _ _ (h.inWallet _)
  | adminGetWallet subject userId =>
    refine orderly_discard (orderly_asAuthorized tidy_start fun user w held db h => ?_)
    exact orderly_walletGetOrCreate _ (h.inWallet _)
  | adminCreditWallet subject userId data =>
    refine orderly_discard (orderly_asAuthorized tidy_start fun user w held db h => ?_)
    exact orderly_apply _ _ _ _ _ _ _ (h.inWallet _)
  | adminDebitWallet subject userId data =>
    refine orderly_discard (orderly_asAuthorized tidy_start fun user w held db h => ?_)
    exact orderly_apply _ _ _ _ _ _ _ (h.inWallet _)

end ElectronicShop
