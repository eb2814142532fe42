import ElectronicShop.Shop.Checkout
import ElectronicShop.Shop.FirstCart
import Mathlib.Algebra.BigOperators.Fin

/-!
# Additions to one cart

Any number of additions to the cart of one customer. An addition reads the line without a
lock, and writes its quantity as it has read it plus its own, or inserts the line that it has
not found. So two that overlap on one line lose one of the additions, or the second insertion
fails; an addition that stores its line while the line is still as it has read it counts in
full.
-/

namespace ElectronicShop

open Txn

/-- The quantity of a line, 0 when there is none. -/
def lineQuantity (db : Db) (userId productId : Uuid) : Nat :=
  ((db.cartItems.get (userId, productId)).map CartItem.quantity).getD 0

/-- The `AppError`s that the services raise themselves. -/
def ShopError.IsDomain : ShopError → Prop
  | .notFound _ | .permissionDenied _ | .conflict _ | .unauthorized _ => True
  | _ => False

/-- A statement that stores a cart line finds it as it has been read: the line that it changes
    is the committed one, and the line that it inserts is missing. -/
def Stmt.FindsLineAsRead : Stmt → Session → Db → Prop
  | .updateCartItem item _, w, db => (w.view db).cartItems.get item.key = some item
  | .insert (.cartItem row), w, db => (w.view db).cartItems.get row.key = none
  | _, _, _ => True

instance decidableFindsLineAsRead (s : Stmt) (w : Session) (db : Db) :
    Decidable (s.FindsLineAsRead w db) := by
  unfold Stmt.FindsLineAsRead
  split <;> infer_instance

/-- Lines are stored while they are as they have been read. -/
def StoresWhatItRead {ι : Type} (c : Config shop ShopError Unit Db Session RowKey ι) :
    Event ι → Prop
  | .turn i =>
    match c.clients i with
    | .running (.step s _) w _ => Stmt.FindsLineAsRead s w c.db
    | _ => True
  | .kill _ => True

instance decidableStoresWhatItRead {ι : Type} (c : Config shop ShopError Unit Db Session RowKey ι) :
    (ev : Event ι) → Decidable (StoresWhatItRead c ev)
  | .turn i => by
    simp only [StoresWhatItRead]
    rcases c.clients i with ⟨_ | _ | ⟨s, _⟩, w, _⟩ | _ | _
    case running.step => exact decidableFindsLineAsRead s w c.db
    all_goals exact isTrue trivial
  | .kill _ => isTrue trivial

/-! ## One addition -/

/-- A session that has stored one line: with `n` pieces more than are committed. -/
structure Session.HasAdded (w : Session) (held : List RowKey) (db : Db) (userId productId : Uuid)
    (n : Nat) : Prop where
  writes : ∀ x ∈ w.pending, x.table = .cartItems
  locked : RowKey.cartItem userId productId ∈ held
  line : ∃ c : CartItem, c.key = (userId, productId) ∧
    c.quantity = n + lineQuantity db userId productId ∧
    ∀ db', db'.cartItems.get (userId, productId) = db.cartItems.get (userId, productId) →
      (w.view db').cartItems = db'.cartItems.put c
  cart : (db.carts.get userId).isSome

section Addition

variable {w w' : Session} {held : List RowKey} {db db' : Db} {userId productId : Uuid} {n : Nat}

theorem view_of_pending (h : w'.pending = w.pending) (db : Db) : w'.view db = w.view db := by
  unfold Session.view
  rw [h]

namespace Session.HasAdded

theorem mono (h : w.HasAdded held db userId productId n) (hpending : w'.pending = w.pending)
    (hrely : CartsKept held db db') : w'.HasAdded held db' userId productId n := by
  obtain ⟨c, hkey, hquantity, hview⟩ := h.line
  have hsame := hrely.lines userId productId h.locked
  refine ⟨hpending ▸ h.writes, h.locked, ⟨c, hkey, ?_, ?_⟩, hrely.stays userId h.cart⟩
  · rw [hquantity, lineQuantity, lineQuantity, hsame]
  · intro db'' hget
    rw [view_of_pending hpending]
    exact hview db'' (hget.trans hsame)

/-- The user's cart is seen. -/
theorem isSome_cart (h : w.HasAdded held db userId productId n) :
    ((w.view db).carts.get userId).isSome :=
  (w.isSome_carts_view db userId).mpr (Or.inl h.cart)

theorem constraints_view (h : w.HasAdded held db userId productId n) (hvalid : db.Constraints) :
    (w.view db).Constraints := by
  refine constraints_of_same hvalid fun t ht => Session.same_view (fun x hx heq => ht ?_) db
  rw [← heq, h.writes x hx]
  decide

end Session.HasAdded

variable {may : Stmt → Session → Db → Prop} {refused : ShopError → Prop}

/-- A cart that is there is read. -/
theorem wpg_getOrCreate_found {post : List CartItem → Session → List RowKey → Db → Prop}
    (hcart : ((w.view db).carts.get userId).isSome)
    (h : ∀ items w' db', w'.pending = w.pending → CartsKept held db db' → post items w' held db') :
    wpg shopEngine CartsKept may (CartRepository.getOrCreate userId) w held db post refused := by
  unfold CartRepository.getOrCreate
  refine wpg_send_bind.mpr fun _ db₁ hrely => ?_
  have hpending := Stmt.pending_of_sends_none (s := .getCart userId) rfl w db
  obtain ⟨cart, hget⟩ := Option.isSome_iff_exists.mp hcart
  simp only [Stmt.execIn, hget] at hpending ⊢
  exact h _ _ db₁ hpending hrely

/-- The line is changed while it is as it has been read. -/
theorem wpg_setQuantity (hpending : w.pending = []) (hcart : (db.carts.get userId).isSome)
    {c : CartItem} (hkey : c.key = (userId, productId)) (hn : 1 ≤ n) :
    wpg shopEngine CartsKept Stmt.FindsLineAsRead (CartService.setQuantity c (n + c.quantity)) w held
      db (fun _ w' held' db' => w'.HasAdded held' db' userId productId n) ShopError.IsDomain := by
  obtain ⟨rfl, rfl⟩ : c.userId = userId ∧ c.productId = productId := Prod.mk.inj hkey
  have hview : ∀ db, w.view db = db := fun db => view_of_pending (w := shopEngine.start) hpending db
  unfold CartService.setQuantity
  rw [if_neg (by omega)]
  refine wpg_send_bind.mpr fun hread db₁ hrely => ?_
  simp only [Stmt.FindsLineAsRead, hview] at hread
  simp only [Stmt.execIn, Stmt.needs, hview, hread, Option.map_some, if_true] at hrely ⊢
  have hsame := hrely.lines c.userId c.productId List.mem_cons_self
  have hget : db₁.cartItems.get (c.userId, c.productId) = some c := hsame.trans hread
  refine ⟨?_, List.mem_cons_self, ?_, hrely.stays _ hcart⟩
  · simp [Session.send, hpending, Write.table]
  · refine ⟨{ c with quantity := n + c.quantity }, rfl, ?_, fun db' hdb' => ?_⟩
    · simp [lineQuantity, hget]
    · rw [Session.view_send, hview]
      simp only [Write.apply]
      rw [Table.modify_of_get _ (hdb'.trans hget), if_pos rfl]

/-- The line is inserted while it is missing. -/
theorem wpg_insertLine (hpending : w.pending = []) (hcart : (db.carts.get userId).isSome)
    (itemId : Uuid) :
    wpg shopEngine CartsKept Stmt.FindsLineAsRead
      (insert (.cartItem ⟨itemId, userId, productId, n⟩)) w held
      db (fun _ w' held' db' => w'.HasAdded held' db' userId productId n) ShopError.IsDomain := by
  have hview : ∀ db, w.view db = db := fun db => view_of_pending (w := shopEngine.start) hpending db
  have hfree : Stmt.FindsLineAsRead (.insert (.cartItem ⟨itemId, userId, productId, n⟩)) w db →
      NewRow.taken (w.view db) (.cartItem ⟨itemId, userId, productId, n⟩) = false := by
    intro hread
    rw [Stmt.FindsLineAsRead] at hread
    simp [NewRow.taken, hread]
  rw [← bind_pure (insert _)]
  refine wpg_insert_bind hfree fun htaken db₁ hrely => ?_
  have hsame := hrely.lines userId productId List.mem_cons_self
  have hget : db₁.cartItems.get (userId, productId) = none := by
    rw [hsame]
    simpa [NewRow.taken, hview, CartItem.key] using htaken
  refine ⟨?_, List.mem_cons_self, ?_, hrely.stays _ hcart⟩
  · simp [Session.send, hpending, Write.table, NewRow.table]
  · refine ⟨⟨itemId, userId, productId, n⟩, rfl, ?_, fun db' hdb' => ?_⟩
    · simp [lineQuantity, hget]
    · rw [Session.view_send, hview]
      rfl

/-- Reading a line, its object is answered. -/
theorem Session.key_itemObject (w : Session) (row : CartItem) :
    (w.itemObject row).key = row.key := by
  unfold Session.itemObject
  split
  · rename_i object hobject
    split
    · exact Table.key_of_get hobject
    · rfl
  · rfl

/-- An addition stores its line while the line is as it has read it, or is refused. -/
theorem wpg_addItem (hpending : w.pending = []) (hcart : (db.carts.get userId).isSome) (hn : 1 ≤ n)
    (itemId : Uuid) :
    wpg shopEngine CartsKept Stmt.FindsLineAsRead (CartService.addItem userId productId n itemId) w
      held db (fun _ w' held' db' => w'.HasAdded held' db' userId productId n)
      ShopError.IsDomain := by
  unfold CartService.addItem
  refine wpg_send_bind.mpr fun _ db₁ hrely₁ => wpg_found_bind.mpr ⟨fun _ => trivial, ?_⟩
  have hpending₁ := Stmt.pending_of_sends_none (s := .getProduct productId) rfl w db
  generalize ((Stmt.getProduct productId).execIn w db).2 = w₁ at hpending₁
  intro found _
  obtain ⟨product, inventory⟩ := found
  refine wpg_if_raise.mpr ⟨fun _ => trivial, fun _ => (wpg_bind _ _).mpr ?_⟩
  have hcart₁ := hrely₁.stays userId hcart
  refine wpg_getOrCreate_found ((w₁.isSome_carts_view db₁ userId).mpr (Or.inl hcart₁)) ?_
  intro _ w₂ db₂ hpending₂ hrely₂
  have hempty₂ : w₂.pending = [] := hpending₂.trans (hpending₁.trans hpending)
  have hcart₂ := hrely₂.stays userId hcart₁
  refine wpg_send_bind.mpr fun _ db₃ hrely₃ => ?_
  have hpending₃ := Stmt.pending_of_sends_none (s := .getCartItem userId productId) rfl w₂ db₂
  have hcart₃ := hrely₃.stays userId hcart₂
  have hkey : ∀ c, ((Stmt.getCartItem userId productId).execIn w₂ db₂).1 = some c →
      c.key = (userId, productId) := by
    intro c hc
    simp only [Stmt.execIn] at hc
    split at hc
    · rename_i row hrow
      cases hc
      exact (w₂.key_itemObject row).trans (Table.key_of_get hrow)
    · cases hc
  have hempty₃ := hpending₃.trans hempty₂
  generalize ((Stmt.getCartItem userId productId).execIn w₂ db₂).2 = w₃ at hempty₃
  generalize ((Stmt.getCartItem userId productId).execIn w₂ db₂).1 = existing at hkey
  refine wpg_if_raise.mpr ⟨fun _ => trivial, fun _ => (wpg_bind _ _).mpr ?_⟩
  have hstore : wpg shopEngine CartsKept Stmt.FindsLineAsRead (CartService.storeQuantity userId
      productId existing (n + (existing.map CartItem.quantity).getD 0) itemId) w₃ held db₃
      (fun _ w' held' db' => w'.HasAdded held' db' userId productId n) ShopError.IsDomain := by
    cases existing with
    | none => exact wpg_insertLine hempty₃ hcart₃ itemId
    | some c => exact wpg_setQuantity hempty₃ hcart₃ (hkey c rfl) hn
  refine wpg_mono hstore fun _ w₄ held₄ db₄ hadded => ?_
  exact wpg_getOrCreate_found hadded.isSome_cart fun _ _ _ hsame hrely => hadded.mono hsame hrely

theorem wpg_summary (h : w.HasAdded held db userId productId n) :
    wpg shopEngine CartsKept Stmt.FindsLineAsRead (CartService.getSummary userId) w held db
      (fun _ w' held' db' => w'.HasAdded held' db' userId productId n) ShopError.IsDomain := by
  refine (wpg_bind _ _).mpr (wpg_getOrCreate_found h.isSome_cart ?_)
  intro items w₁ db₁ hpending hrely
  have hreads : Prog.Behaves (I := shop)
      (fun s : Stmt => s.sends = none ∧ ∀ w db, s.needs w db = []) (fun _ _ => True) ShopError.IsDomain
      (items.foldlM CartService.summarize { items := [], subtotal := 0, total := 0 }) :=
    behaves_summarize (fun _ => ⟨rfl, fun _ _ => rfl⟩) items _
  refine wpg_of_behaves (fun (w : Session) held db => w.HasAdded held db userId productId n)
    (fun _ _ _ _ => trivial) ?_ hreads (h.mono hpending hrely)
  intro s hs w' held' db' hw' _ db'' hrely'
  have hneed : shopEngine.need s w' db' = [] := hs.2 w' db'
  rw [hneed] at hrely' ⊢
  exact hw'.mono (Stmt.pending_of_sends_none hs.1 w' db') hrely'

end Addition

/-! ## Every interleaving -/

/-- One addition: what is added, and the identifier that a new line draws. -/
structure CartAddition where
  data : CartItemAdd
  itemId : Uuid

def CartAddition.call (r : CartAddition) : CartCall := .add r.data r.itemId

section Concurrent

variable {ι : Type} {userId : Uuid} {requests : ι → CartAddition} {db db' : Db}

/-- What the committed addition `i` has added of a product. -/
def addedPieces (requests : ι → CartAddition) (results : ι → Option Unit) (p : Uuid) (i : ι) : Nat :=
  if (results i).isSome ∧ (requests i).data.productId = p then (requests i).data.quantity else 0

/-- What an addition promises: it is refused, or it counts in full. -/
structure CountsInFull [Fintype ι] (userId : Uuid) (requests : ι → CartAddition) (db : Db)
    (c : Config shop ShopError Unit Db Session RowKey ι) : Prop where
  errors : ∀ i e, c.clients i = .aborted (some e) → e.IsDomain
  quantity : ∀ p, lineQuantity c.db userId p =
    lineQuantity db userId p + ∑ i, addedPieces requests c.results p i
  oneLine : ((c.db.itemsOf userId).map CartItem.productId).Nodup

theorem sum_addedPieces_update [Fintype ι] [DecidableEq ι] {results : ι → Option Unit} {i : ι}
    (hi : results i = none) (p : Uuid) :
    ∑ j, addedPieces requests (Function.update results i (some ())) p j =
      ∑ j, addedPieces requests results p j +
        if (requests i).data.productId = p then (requests i).data.quantity else 0 := by
  have hterm : ∀ j, addedPieces requests (Function.update results i (some ())) p j =
      addedPieces requests results p j + if i = j then
        (if (requests i).data.productId = p then (requests i).data.quantity else 0) else 0 := by
    intro j
    unfold addedPieces
    by_cases hji : i = j
    · subst hji
      simp [hi]
    · simp [hji, Function.update_of_ne (Ne.symm hji)]
  rw [Finset.sum_congr rfl fun j _ => hterm j, Finset.sum_add_distrib, Finset.sum_ite_eq]
  simp

/-- A commit adds the pieces to the line. -/
theorem lineQuantity_view {w : Session} {held : List RowKey} {productId : Uuid} {n : Nat}
    (h : w.HasAdded held db userId productId n) (p : Uuid) :
    lineQuantity (w.view db) userId p =
      lineQuantity db userId p + if productId = p then n else 0 := by
  obtain ⟨c, hkey, hquantity, hview⟩ := h.line
  unfold lineQuantity
  rw [hview db rfl, Table.get_put]
  by_cases hp : productId = p
  · subst hp
    rw [if_pos hkey.symm, if_pos rfl, Option.map_some, Option.getD_some, hquantity, lineQuantity,
      Nat.add_comm]
  · have hne : (userId, p) ≠ c.key := by
      rw [hkey]
      exact fun heq => hp (Prod.mk.inj heq).2.symm
    simp [hne, hp]

variable [Fintype ι] [DecidableEq ι]

/-- The outline of the additions. -/
def CartAddition.guarded (userId : Uuid) (requests : ι → CartAddition) (db : Db) :
    Guarded (ε := ShopError) (α := Unit) shopEngine (StoresWhatItRead (ι := ι)) where
  rely := CartsKept
  may := Stmt.FindsLineAsRead
  post i _ w held db :=
    w.HasAdded held db userId (requests i).data.productId (requests i).data.quantity
  refused := ShopError.IsDomain
  inv db' results := db'.Constraints ∧ ∀ p, lineQuantity db' userId p =
    lineQuantity db userId p + ∑ i, addedPieces requests results p i
  rely_refl := CartsKept.refl
  rely_trans _ _ _ _ := CartsKept.trans
  may_of_cond c i s next w held hi hcond := by
    simpa only [StoresWhatItRead, hi] using hcond
  commit_ok c i a w held hi hcond hinv hends := by
    have hvalid := hends.constraints_view hinv.1
    have hrunning : c.results i = none := by
      simp only [Config.results, hi, Client.result]
    refine ⟨w.view c.db, shopEngine_commit_ok.mpr ⟨hvalid, rfl⟩, ⟨hvalid, fun p => ?_⟩, ?_⟩
    · rw [lineQuantity_view hends, hinv.2 p, sum_addedPieces_update hrunning]
      omega
    · exact fun locks hlocks => cartsKept_view w c.db fun l hl => (hlocks l hl).2

theorem wpg_addition (r : CartAddition) (hcart : (db.carts.get userId).isSome) :
    wpg shopEngine CartsKept Stmt.FindsLineAsRead (r.call.handler userId) shopEngine.start [] db
      (fun _ w held db => w.HasAdded held db userId r.data.productId r.data.quantity)
      ShopError.IsDomain := by
  refine (wpg_bind _ _).mpr ?_
  refine wpg_getCurrentUser_bind trivial fun user db₁ hid hrely => ?_
  rw [hid]
  refine (wpg_bind _ _).mpr ?_
  refine wpg_mono ?_ fun _ _ _ _ hadded => wpg_summary hadded
  exact wpg_addItem rfl (hrely.stays userId hcart) r.data.quantityRange.1 r.itemId

/-- No addition is lost in a run in which lines are stored while they are as they have been
    read. -/
theorem no_lost_addition (hvalid : db.Constraints) (hcart : (db.carts.get userId).isSome)
    {c : Config shop ShopError Unit Db Session RowKey ι}
    (hreach : Reach shopEngine StoresWhatItRead
      (CartCall.start userId db fun i => (requests i).call) c) :
    CountsInFull userId requests db c := by
  have hgood := (CartAddition.guarded userId requests db).sound
    ((CartAddition.guarded userId requests db).good_start db _
      ⟨hvalid, fun p => by simp [addedPieces]⟩
      fun i db' hrely => wpg_addition (requests i) (hrely.stays userId hcart)) hreach
  exact ⟨hgood.errors, hgood.inv.2, c.db.nodup_itemsOf userId⟩

end Concurrent

/-- Customer 1 adds three and four phones in two tabs. -/
def twoTabs : Fin 2 → CartAddition
  | 0 => ⟨⟨10, 3, three_pieces⟩, 51⟩
  | 1 => ⟨⟨10, 4, by decide⟩, 52⟩

/-- One after the other, on top of the two that are in the cart. -/
theorem no_lost_addition_twoInCart : ∃ c,
    Reach shopEngine StoresWhatItRead
      (CartCall.start 1 twoInCart.db fun i => (twoTabs i).call) c ∧
    (∀ i, (c.results i).isSome) ∧ lineQuantity c.db 1 10 = 9 ∧
    CountsInFull 1 twoTabs twoInCart.db c := by
  let schedule : List (Event (Fin 2)) := List.replicate 9 (.turn 0) ++ List.replicate 9 (.turn 1)
  have hrun : ((CartCall.start 1 twoInCart.db fun i => (twoTabs i).call).execAll shopEngine
      StoresWhatItRead schedule).any
      (fun c => (∀ i, (c.results i).isSome) ∧ lineQuantity c.db 1 10 = 9) = true := by decide +kernel
  obtain ⟨c, hreach, hall, hline⟩ := Reach.exists_of_execAll schedule hrun
  exact ⟨c, hreach, hall, hline, no_lost_addition twoInCart.valid (by decide +kernel) hreach⟩

/-- The small shop, where customer 1 has an empty cart. -/
def emptyCart : Store where
  db := { smallShop.db with carts := smallShop.db.carts.put ⟨1⟩ }
  valid := by decide +kernel

/-- Both tabs read the line before either has stored it: the first three pieces are lost when
    there is a line already, and the second insertion fails when there is none. -/
theorem no_lost_addition_fails :
    (∃ c, Reach shopEngine anyEvent (CartCall.start 1 twoInCart.db fun i => (twoTabs i).call) c ∧
      (∀ i, (c.results i).isSome) ∧ lineQuantity c.db 1 10 = 6 ∧
      ¬ CountsInFull 1 twoTabs twoInCart.db c) ∧
    ∃ c, Reach shopEngine anyEvent (CartCall.start 1 emptyCart.db fun i => (twoTabs i).call) c ∧
      c.clients 1 = .aborted (some .database) ∧ ¬ CountsInFull 1 twoTabs emptyCart.db c := by
  let bothRead (rest : Nat) : List (Event (Fin 2)) := List.replicate 4 (.turn 0) ++
    List.replicate 4 (.turn 1) ++ List.replicate 5 (.turn 0) ++ List.replicate rest (.turn 1)
  constructor
  · have hrun : ((CartCall.start 1 twoInCart.db fun i => (twoTabs i).call).execAll shopEngine
        anyEvent (bothRead 5)).any
        (fun c => (∀ i, (c.results i).isSome) ∧ lineQuantity c.db 1 10 = 6 ∧
          ∑ i, addedPieces twoTabs c.results 10 i = 7) = true := by decide +kernel
    obtain ⟨c, hreach, hall, hline, hadded⟩ := Reach.exists_of_execAll (bothRead 5) hrun
    refine ⟨c, hreach, hall, hline, fun h => ?_⟩
    have hquantity := h.quantity 10
    rw [hline, hadded] at hquantity
    omega
  · have hrun : ((CartCall.start 1 emptyCart.db fun i => (twoTabs i).call).execAll shopEngine
        anyEvent (bothRead 2)).any
        (fun c => (c.clients 1).failure = some .database) = true := by decide +kernel
    obtain ⟨c, hreach, hshown⟩ := Reach.exists_of_execAll (bothRead 2) hrun
    have haborted : c.clients 1 = .aborted (some .database) := Client.aborted_of_failure hshown
    exact ⟨c, hreach, haborted, fun h => (h.errors 1 _ haborted).elim⟩

end ElectronicShop
