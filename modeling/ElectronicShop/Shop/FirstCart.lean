import ElectronicShop.Execution.Footprint
import ElectronicShop.Execution.Requests
import ElectronicShop.Execution.Sessions

/-!
# The first use of a cart

Every endpoint of the cart creates the cart of a user who has none: it looks for the row and
inserts one. Two first requests that overlap both find none, and the second to insert it gets
an integrity error, also when it only reads the cart. The same happens to two first additions
of one product. Otherwise first use is harmless.
-/

namespace ElectronicShop

open Txn

/-! ## The requests of the cart -/

/-- A request to the cart of one user. -/
inductive CartCall where
  | get
  | add (data : CartItemAdd) (itemId : Uuid)
  | update (productId : Uuid) (data : CartItemUpdate)
  | remove (productId : Uuid)
  | clear

namespace CartCall

def handler (subject : Uuid) : CartCall → Tx Unit
  | .get => discard (getCart subject)
  | .add data itemId => discard (addCartItem subject data itemId)
  | .update productId data => discard (updateCartItem subject productId data)
  | .remove productId => removeCartItem subject productId
  | .clear => clearCart subject

/-- Whether the endpoint commits. -/
def commits : CartCall → Bool
  | .get => false
  | _ => true

variable {ι : Type}

/-- The requests arrive. -/
def start (subject : Uuid) (db : Db) (calls : ι → CartCall) :
    Config shop ShopError Unit Db Session RowKey ι where
  db := db
  clients i := .running ((calls i).handler subject) shopEngine.start []

/-- A request that does not commit is rolled back when it has answered. -/
def ReadsRollBack (calls : ι → CartCall) (c : Config shop ShopError Unit Db Session RowKey ι) :
    Event ι → Prop
  | .turn i =>
    match c.clients i with
    | .running (.done _) _ _ => (calls i).commits = true
    | _ => True
  | .kill _ => True

instance decidableReadsRollBack (calls : ι → CartCall)
    (c : Config shop ShopError Unit Db Session RowKey ι) :
    (ev : Event ι) → Decidable (ReadsRollBack calls c ev)
  | .turn i => by
    simp only [ReadsRollBack]
    rcases c.clients i with ⟨_ | _ | _, _, _⟩ | _ | _ <;> infer_instance
  | .kill _ => isTrue trivial

end CartCall

/-- A statement that inserts a row finds its key free. -/
def Stmt.FindsKeyFree : Stmt → Session → Db → Prop
  | .insert row, w, db => row.taken (w.view db) = false
  | _, _, _ => True

instance decidableFindsKeyFree (s : Stmt) (w : Session) (db : Db) :
    Decidable (s.FindsKeyFree w db) := by
  unfold Stmt.FindsKeyFree
  split <;> infer_instance

/-- Rows are inserted while their keys are free. -/
def InsertsWhileFree {ι : Type} (c : Config shop ShopError Unit Db Session RowKey ι) :
    Event ι → Prop
  | .turn i =>
    match c.clients i with
    | .running (.step s _) w _ => Stmt.FindsKeyFree s w c.db
    | _ => True
  | .kill _ => True

instance decidableInsertsWhileFree {ι : Type} (c : Config shop ShopError Unit Db Session RowKey ι) :
    (ev : Event ι) → Decidable (InsertsWhileFree c ev)
  | .turn i => by
    simp only [InsertsWhileFree]
    rcases c.clients i with ⟨_ | _ | ⟨s, _⟩, w, _⟩ | _ | _
    case running.step => exact decidableFindsKeyFree s w c.db
    all_goals exact isTrue trivial
  | .kill _ => isTrue trivial

/-! ## What the requests send, and the errors they raise -/

/-- The statements of cart requests: rows are added by inserting them. -/
def Stmt.OfCart (s : Stmt) : Prop := s.within cartTables ∧ ∀ row, s ≠ .write (.add row)

/-- The key of a new row is free. -/
def Stmt.AnswersFree : (s : Stmt) → s.Resp → Prop
  | .insert _, answer => answer = true
  | _, _ => True

/-- A program of such statements that raises no error of the database. -/
abbrev CartProgram {α : Type} (m : Tx α) : Prop :=
  m.Behaves (fun s : Stmt => s.OfCart) Stmt.AnswersFree (· ≠ ShopError.database)

section CartProgram

variable {α β : Type}

theorem cartProgram_send {s : Stmt} (hs : s.OfCart) : CartProgram (send s) :=
  ⟨hs, fun _ _ => trivial⟩

theorem cartProgram_orRaise {e : ShopError} (he : e ≠ .database) (x : Option α) :
    CartProgram (orRaise e x) := by
  cases x with
  | none => exact he
  | some a => trivial

theorem cartProgram_insert {row : NewRow} (hs : (Stmt.insert row).OfCart) :
    CartProgram (insert row) := by
  refine Prog.Behaves.send_bind hs fun answer hanswer => ?_
  rw [show answer = true from hanswer]
  trivial

theorem cartProgram_getOrCreate (userId : Uuid) :
    CartProgram (CartRepository.getOrCreate userId) := by
  refine (cartProgram_send ⟨rfl, by simp⟩).bind fun cart => ?_
  cases cart with
  | some items => trivial
  | none => exact (cartProgram_insert ⟨rfl, by simp⟩).bind fun _ => trivial

theorem cartProgram_setQuantity (item : CartItem) (quantity : Nat) :
    CartProgram (CartService.setQuantity item quantity) := by
  unfold CartService.setQuantity
  split
  · trivial
  · refine (cartProgram_send ⟨rfl, by simp⟩).bind fun found => ?_
    cases found with
    | true => trivial
    | false => simp [Prog.Behaves]

theorem cartProgram_storeQuantity (userId productId : Uuid) (existing : Option CartItem)
    (quantity : Nat) (itemId : Uuid) :
    CartProgram (CartService.storeQuantity userId productId existing quantity itemId) := by
  cases existing with
  | some item => exact cartProgram_setQuantity item quantity
  | none => exact cartProgram_insert ⟨rfl, by simp⟩

theorem cartProgram_addItem (userId productId : Uuid) (quantity : Nat) (itemId : Uuid) :
    CartProgram (CartService.addItem userId productId quantity itemId) := by
  refine (cartProgram_send ⟨rfl, by simp⟩).bind fun found => ?_
  refine (cartProgram_orRaise (by simp) _).bind fun p => ?_
  obtain ⟨product, inventory⟩ := p
  simp only
  split
  · simp [Prog.Behaves]
  · refine (cartProgram_getOrCreate userId).bind fun _ => ?_
    refine (cartProgram_send ⟨rfl, by simp⟩).bind fun existing => ?_
    split
    · simp [Prog.Behaves]
    · exact (cartProgram_storeQuantity ..).bind fun _ => cartProgram_getOrCreate userId

theorem cartProgram_updateItem (userId productId : Uuid) (quantity : Nat) :
    CartProgram (CartService.updateItem userId productId quantity) := by
  refine (cartProgram_send ⟨rfl, by simp⟩).bind fun found => ?_
  refine (cartProgram_orRaise (by simp) _).bind fun p => ?_
  obtain ⟨product, inventory⟩ := p
  simp only
  split
  · simp [Prog.Behaves]
  · refine (cartProgram_getOrCreate userId).bind fun _ => ?_
    refine (cartProgram_send ⟨rfl, by simp⟩).bind fun existing => ?_
    refine (cartProgram_orRaise (by simp) _).bind fun item => ?_
    exact (cartProgram_setQuantity item quantity).bind fun _ => cartProgram_getOrCreate userId

/-- The summary reads products. -/
theorem behaves_summarize {ok : Stmt → Prop} {answers : (s : Stmt) → s.Resp → Prop}
    {refused : ShopError → Prop} (hok : ∀ id, ok (.getProduct id)) (items : List CartItem)
    (summary : CartSummary) :
    Prog.Behaves (I := shop) ok answers refused (items.foldlM CartService.summarize summary) := by
  refine Prog.Behaves.foldlM items _ fun summary item => ?_
  refine Prog.Behaves.send_bind (hok _) fun found _ => ?_
  cases found with
  | none => trivial
  | some p =>
    obtain ⟨product, inventory⟩ := p
    simp only
    split <;> trivial

/-- The line of a product is deleted when there is one. -/
theorem cartProgram_removeLine (userId productId : Uuid) : CartProgram (do
    match ← send (.getCartItem userId productId) with
    | some item => write (.deleteCartItem item.id item.userId item.productId)
    | none => pure ()) := by
  refine (cartProgram_send ⟨rfl, by simp⟩).bind fun item => ?_
  cases item with
  | none => trivial
  | some item => exact cartProgram_send ⟨rfl, by simp⟩

theorem cartProgram_clear (userId : Uuid) : CartProgram (CartRepository.clear userId) := by
  refine (cartProgram_send ⟨rfl, by simp⟩).bind fun items => ?_
  exact Prog.Behaves.forM items fun _ => cartProgram_send ⟨rfl, by simp⟩

end CartProgram

/-- The caller is read. -/
theorem wpg_getCurrentUser_bind {α : Type} {rely : List RowKey → Db → Db → Prop}
    {may : Stmt → Session → Db → Prop} {w : Session} {held : List RowKey} {db : Db} {subject : Uuid}
    {f : User → Tx α} {post : α → Session → List RowKey → Db → Prop} {refused : ShopError → Prop}
    (hrefused : refused (.unauthorized "حساب کاربری شما یافت نشد یا غیرفعال است."))
    (hf : ∀ user db', user.id = subject → rely held db db' →
      wpg shopEngine rely may (f user) w held db' post refused) :
    wpg shopEngine rely may (getCurrentUser subject >>= f) w held db post refused := by
  unfold getCurrentUser
  simp only [bind_assoc]
  refine wpg_send_bind.mpr fun _ db' hrely => ?_
  refine wpg_found_bind.mpr ⟨fun _ => hrefused, fun user huser => ?_⟩
  have hid : user.id = subject := Table.key_of_get huser
  cases hactive : user.isActive with
  | false => exact hrefused
  | true => exact hf user db' hid hrely

/-! ## One request after the other -/

section Alone

variable {db : Db}

/-- A program that runs alone inserts rows while their keys are free. -/
abbrev InsertsAlone {α : Type} (db : Db) (m : Tx α) (w : Session) : Prop :=
  m.Alone shopEngine Stmt.FindsKeyFree db w

theorem insertsAlone_of_uses {α : Type} {m : Tx α}
    (hm : m.Uses fun s : Stmt => ∀ row, s ≠ .insert row) (w : Session) : InsertsAlone db m w := by
  refine Prog.Alone.of_uses (fun s hs w => ?_) hm w
  cases s with
  | insert row => exact absurd rfl (hs row)
  | _ => trivial

theorem insertsAlone_orRaise {α : Type} (e : ShopError) (x : Option α) (w : Session) :
    InsertsAlone db (orRaise e x) w := by
  cases x <;> trivial

theorem insertsAlone_insert {row : NewRow} {w : Session} (hfree : row.taken (w.view db) = false) :
    InsertsAlone db (insert row) w := by
  refine ⟨hfree, ?_⟩
  generalize (shopEngine.exec (Stmt.insert row) w db).1 = answer
  cases answer <;> trivial

/-- The cart that is inserted is one that was not found. -/
theorem insertsAlone_getOrCreate (userId : Uuid) (w : Session) :
    InsertsAlone db (CartRepository.getOrCreate userId) w := by
  refine Prog.Alone.send_bind trivial ?_
  cases hcart : (w.view db).carts.get userId with
  | some cart =>
    simp only [shopEngine, Stmt.execIn, hcart]
    trivial
  | none =>
    simp only [shopEngine, Stmt.execIn, hcart]
    refine Prog.Alone.bind (insertsAlone_insert ?_) fun _ _ => trivial
    simp [NewRow.taken, hcart]

theorem insertsAlone_setQuantity (item : CartItem) (quantity : Nat) (w : Session) :
    InsertsAlone db (CartService.setQuantity item quantity) w := by
  unfold CartService.setQuantity
  split
  · trivial
  · refine ⟨trivial, ?_⟩
    generalize (shopEngine.exec (Stmt.updateCartItem item quantity) w db).1 = found
    cases found <;> trivial

/-- The line that is inserted is one that was not found. -/
theorem insertsAlone_addItem (userId productId : Uuid) (quantity : Nat) (itemId : Uuid)
    (w : Session) : InsertsAlone db (CartService.addItem userId productId quantity itemId) w := by
  refine Prog.Alone.send_bind trivial ?_
  refine Prog.Alone.bind (insertsAlone_orRaise ..) fun p w₁ => ?_
  obtain ⟨product, inventory⟩ := p
  simp only
  split
  · trivial
  · refine Prog.Alone.bind (insertsAlone_getOrCreate userId w₁) fun _ w₂ => ?_
    refine Prog.Alone.send_bind trivial ?_
    cases hline : (w₂.view db).cartItems.get (userId, productId) with
    | some item =>
      simp only [shopEngine, Stmt.execIn, hline]
      split
      · trivial
      · exact Prog.Alone.bind (insertsAlone_setQuantity ..) fun _ => insertsAlone_getOrCreate userId
    | none =>
      simp only [shopEngine, Stmt.execIn, hline]
      split
      · trivial
      · refine Prog.Alone.bind (insertsAlone_insert ?_) fun _ => insertsAlone_getOrCreate userId
        simp [NewRow.taken, CartItem.key, hline]

theorem insertsAlone_updateItem (userId productId : Uuid) (quantity : Nat) (w : Session) :
    InsertsAlone db (CartService.updateItem userId productId quantity) w := by
  refine Prog.Alone.send_bind trivial ?_
  refine Prog.Alone.bind (insertsAlone_orRaise ..) fun p w₁ => ?_
  obtain ⟨product, inventory⟩ := p
  simp only
  split
  · trivial
  · refine Prog.Alone.bind (insertsAlone_getOrCreate userId w₁) fun _ w₂ => ?_
    refine Prog.Alone.send_bind trivial ?_
    refine Prog.Alone.bind (insertsAlone_orRaise ..) fun item w₃ => ?_
    exact Prog.Alone.bind (insertsAlone_setQuantity item quantity w₃) fun _ =>
      insertsAlone_getOrCreate userId

theorem insertsAlone_getSummary (userId : Uuid) (w : Session) :
    InsertsAlone db (CartService.getSummary userId) w := by
  refine Prog.Alone.bind (insertsAlone_getOrCreate userId w) fun items => ?_
  refine insertsAlone_of_uses (Prog.Uses.foldlM items _ fun summary item => ?_)
  refine Prog.Uses.bind ⟨by simp, fun _ => trivial⟩ fun found => ?_
  cases found with
  | none => trivial
  | some p =>
    obtain ⟨product, inventory⟩ := p
    simp only
    split <;> trivial

theorem insertsAlone_caller_bind {α : Type} {subject : Uuid} {f : User → Tx α} {w : Session}
    (hf : ∀ user w', InsertsAlone db (f user) w') :
    InsertsAlone db (getCurrentUser subject >>= f) w := by
  refine Prog.Alone.bind ?_ hf
  refine Prog.Alone.send_bind trivial ?_
  refine Prog.Alone.bind (insertsAlone_orRaise ..) fun user w' => ?_
  split <;> trivial

theorem insertsAlone_cartCall (call : CartCall) (userId : Uuid) (w : Session) :
    InsertsAlone db (call.handler userId) w := by
  cases call with
  | get =>
    refine Prog.Alone.bind (insertsAlone_caller_bind fun user w' => ?_) fun _ _ => trivial
    exact insertsAlone_getSummary user.id w'
  | add data itemId =>
    refine Prog.Alone.bind (insertsAlone_caller_bind fun user w' => ?_) fun _ _ => trivial
    exact Prog.Alone.bind (insertsAlone_addItem ..) fun _ => insertsAlone_getSummary user.id
  | update productId data =>
    refine Prog.Alone.bind (insertsAlone_caller_bind fun user w' => ?_) fun _ _ => trivial
    exact Prog.Alone.bind (insertsAlone_updateItem ..) fun _ => insertsAlone_getSummary user.id
  | remove productId =>
    refine insertsAlone_caller_bind fun user w' => ?_
    refine Prog.Alone.bind (insertsAlone_getOrCreate user.id w') fun _ w₁ => ?_
    refine Prog.Alone.send_bind trivial ?_
    generalize (shopEngine.exec (Stmt.getCartItem user.id productId) w₁ db).1 = item
    cases item with
    | none => trivial
    | some item => exact ⟨trivial, trivial⟩
  | clear =>
    refine insertsAlone_caller_bind fun user w' => ?_
    refine Prog.Alone.bind (insertsAlone_getOrCreate user.id w') fun _ w₁ => ?_
    refine Prog.Alone.send_bind trivial (insertsAlone_of_uses ?_ _)
    exact Prog.Uses.forM _ fun _ => ⟨by simp, fun _ => trivial⟩

end Alone

/-- A request that takes its turns without others in between inserts rows while their keys are
    free, whatever the others have done before. -/
theorem insertsWhileFree_of_alone {ι : Type} [Fintype ι] [DecidableEq ι] {calls : ι → CartCall}
    {userId : Uuid} {c₀ c : Config shop ShopError Unit Db Session RowKey ι} {i : ι} {w : Session}
    {held : List RowKey} (hi : c₀.clients i = .running ((calls i).handler userId) w held)
    (h : Reach shopEngine (fun c ev => CartCall.ReadsRollBack calls c ev ∧ ev = .turn i) c₀ c) :
    InsertsWhileFree c (.turn i) := by
  rcases hnext : c.clients i with ⟨_ | _ | ⟨s, next⟩, w', held'⟩ | _ | _
  case running.step =>
    simp only [InsertsWhileFree, hnext]
    exact (insertsAlone_cartCall (calls i) userId w).may_next hi h hnext
  all_goals simp only [InsertsWhileFree, hnext]

/-! ## What a session has done -/

/-- What others leave alone: the lines and carts whose keys are locked. And no cart goes. -/
structure CartsKept (held : List RowKey) (db db' : Db) : Prop where
  lines : ∀ u p, RowKey.cartItem u p ∈ held → db'.cartItems.get (u, p) = db.cartItems.get (u, p)
  carts : ∀ u, RowKey.cart u ∈ held → db.carts.get u = none → db'.carts.get u = none
  stays : ∀ u, (db.carts.get u).isSome → (db'.carts.get u).isSome

theorem CartsKept.refl (held : List RowKey) (db : Db) : CartsKept held db db :=
  ⟨fun _ _ _ => rfl, fun _ _ h => h, fun _ h => h⟩

theorem CartsKept.trans {held : List RowKey} {db₁ db₂ db₃ : Db} (h₁ : CartsKept held db₁ db₂)
    (h₂ : CartsKept held db₂ db₃) : CartsKept held db₁ db₃ :=
  ⟨fun u p hl => (h₂.lines u p hl).trans (h₁.lines u p hl),
    fun u hl h => h₂.carts u hl (h₁.carts u hl h), fun u h => h₂.stays u (h₁.stays u h)⟩

/-- A commit keeps to it. -/
theorem cartsKept_view (w : Session) (db : Db) {locks : List RowKey}
    (hlocks : ∀ l ∈ locks, l ∉ w.pending.filterMap Write.locks) :
    CartsKept locks db (w.view db) := by
  refine ⟨fun u p hl => w.get_cartItems_view db (hlocks _ hl), fun u hl hnone => ?_, fun u h => ?_⟩
  · refine Option.not_isSome_iff_eq_none.mp fun hsome => ?_
    rcases (w.isSome_carts_view db u).mp hsome with hold | hadded
    · simp [hnone] at hold
    · exact hlocks _ hl (List.mem_filterMap.mpr ⟨_, hadded, rfl⟩)
  · exact (w.isSome_carts_view db u).mpr (Or.inl h)

/-- A session that writes carts and their lines only, and has locked the carts it adds. -/
structure Session.UsesCart (w : Session) (held : List RowKey) (db : Db) : Prop where
  writes : ∀ x ∈ w.pending, x.table ∈ cartTables
  added : ∀ cart, Write.add (.cart cart) ∈ w.pending →
    RowKey.cart cart.userId ∈ held ∧ db.carts.get cart.userId = none

/-- It leaves the other tables as they are. -/
theorem Session.same_view {w : Session} {t : TableName} (h : ∀ x ∈ w.pending, x.table ≠ t)
    (db : Db) : db.Same (w.view db) t := by
  have hfold : ∀ (xs : List Write) (db : Db), (∀ x ∈ xs, x.table ≠ t) →
      db.Same (xs.foldl Write.apply db) t := by
    intro xs
    induction xs with
    | nil => exact fun _ _ => .rfl
    | cons x rest ih =>
      intro db hxs
      rw [List.forall_mem_cons] at hxs
      exact (Write.same_apply hxs.1 db).trans (ih _ hxs.2)
  exact hfold w.pending db h

theorem Stmt.table_of_sends {s : Stmt} {x : Write} (h : s.sends = some x) :
    s.table = some x.table := by
  cases s <;> cases h <;> rfl

/-- The constraints are about other tables. -/
theorem constraints_of_same {db db' : Db} (h : db.Constraints)
    (hsame : ∀ t, t ∉ cartTables → db.Same db' t) : db'.Constraints := by
  have hproducts : db'.products = db.products := hsame .products (by decide)
  have hinventory : db'.inventory = db.inventory := hsame .inventory (by decide)
  have horders : db'.orders = db.orders := hsame .orders (by decide)
  have hhistory : db'.statusHistory = db.statusHistory := hsame .statusHistory (by decide)
  have hpayments : db'.payments = db.payments := hsame .payments (by decide)
  have hwallets : db'.wallets = db.wallets := hsame .wallets (by decide)
  have hledger : db'.walletTransactions = db.walletTransactions :=
    hsame .walletTransactions (by decide)
  rw [Db.constraints_iff] at h ⊢
  rwa [hproducts, hinventory, horders, hhistory, hpayments, hwallets, hledger]

namespace Session.UsesCart

variable {w : Session} {held : List RowKey} {db db' : Db} {userId : Uuid}

theorem constraints_view (h : w.UsesCart held db) (hvalid : db.Constraints) :
    (w.view db).Constraints := by
  refine constraints_of_same hvalid fun t ht => same_view (fun x hx heq => ?_) db
  exact ht (heq ▸ h.writes x hx)

/-- A statement that is sent keeps it, when a key that it needs is free. -/
theorem execIn (h : w.UsesCart held db) {s : Stmt} (hs : s.OfCart) (hfree : s.FindsKeyFree w db)
    (hrely : CartsKept (s.needs w db ++ held) db db') :
    (s.execIn w db).2.UsesCart (s.needs w db ++ held) db' := by
  have hadded : ∀ cart, Write.add (.cart cart) ∈ w.pending →
      RowKey.cart cart.userId ∈ s.needs w db ++ held ∧ db'.carts.get cart.userId = none := by
    intro cart hcart
    obtain ⟨hheld, hnone⟩ := h.added cart hcart
    have hmem := List.mem_append_right (s.needs w db) hheld
    exact ⟨hmem, hrely.carts _ hmem hnone⟩
  rcases s.pending_execIn w db with hsame | ⟨x, hx, happend⟩
  · exact ⟨hsame ▸ h.writes, hsame ▸ hadded⟩
  · refine ⟨?_, ?_⟩
    · rw [happend]
      intro y hy
      rcases List.mem_append.mp hy with hold | hnew
      · exact h.writes y hold
      · rw [List.mem_singleton.mp hnew]
        simpa [Stmt.within, Stmt.table_of_sends hx] using hs.1
    · rw [happend]
      intro cart hcart
      rcases List.mem_append.mp hcart with hold | hnew
      · exact hadded cart hold
      · obtain rfl := List.mem_singleton.mp hnew
        cases s with
        | insert row =>
          cases hx
          have hmem : RowKey.cart cart.userId ∈ [RowKey.cart cart.userId] ++ held :=
            List.mem_append_left _ (List.mem_singleton_self _)
          refine ⟨hmem, hrely.carts _ hmem ?_⟩
          have hview : ¬ ((w.view db).carts.get cart.userId).isSome := by
            simpa [Stmt.FindsKeyFree, NewRow.taken] using hfree
          rw [w.isSome_carts_view, not_or] at hview
          exact Option.not_isSome_iff_eq_none.mp hview.1
        | write y =>
          cases hx
          exact absurd rfl (hs.2 _)
        | _ => cases hx

end Session.UsesCart

section Wpg

variable {w : Session} {held : List RowKey} {db : Db} {userId : Uuid}

/-- With a cart that others leave alone, or that the session adds. -/
structure Session.HasCart (w : Session) (held : List RowKey) (db : Db) (userId : Uuid) : Prop
    extends w.UsesCart held db where
  cart : ((w.view db).carts.get userId).isSome

theorem findsKeyFree_answers (s : Stmt) (w : Session) (db : Db) (h : s.FindsKeyFree w db) :
    Stmt.AnswersFree s (s.execIn w db).1 := by
  cases s with
  | insert row =>
    rw [Stmt.execIn_insert h]
    rfl
  | _ => trivial

theorem wpg_usesCart {α : Type} {m : Tx α} (hm : CartProgram m) (h : w.UsesCart held db) :
    wpg shopEngine CartsKept Stmt.FindsKeyFree m w held db
      (fun _ w' held' db' => w'.UsesCart held' db') (· ≠ .database) :=
  wpg_of_behaves (fun (w : Session) held db => w.UsesCart held db) findsKeyFree_answers
    (fun _ hs _ _ _ hw hfree _ hrely => hw.execIn hs hfree hrely) hm h

/-- A cart stays. -/
theorem Session.HasCart.execIn (h : w.HasCart held db userId) {s : Stmt} (hs : s.OfCart)
    (hfree : s.FindsKeyFree w db) {db' : Db} (hrely : CartsKept (s.needs w db ++ held) db db') :
    (s.execIn w db).2.HasCart (s.needs w db ++ held) db' userId := by
  refine ⟨h.toUsesCart.execIn hs hfree hrely, ?_⟩
  have hsub : ∀ x ∈ w.pending, x ∈ (s.execIn w db).2.pending := by
    intro x hx
    rcases s.pending_execIn w db with hsame | ⟨y, -, happend⟩
    · rwa [hsame]
    · rw [happend]
      exact List.mem_append_left _ hx
  rw [Session.isSome_carts_view]
  rcases (w.isSome_carts_view db userId).mp h.cart with hold | hadded
  · exact Or.inl (hrely.stays userId hold)
  · exact Or.inr (hsub _ hadded)

theorem wpg_hasCart {α : Type} {m : Tx α} (hm : CartProgram m) (h : w.HasCart held db userId) :
    wpg shopEngine CartsKept Stmt.FindsKeyFree m w held db
      (fun _ w' held' db' => w'.HasCart held' db' userId) (· ≠ .database) :=
  wpg_of_behaves (fun (w : Session) held db => w.HasCart held db userId) findsKeyFree_answers
    (fun _ hs _ _ _ hw hfree _ hrely => hw.execIn hs hfree hrely) hm h

theorem isSome_carts_stays (h : ((w.view db).carts.get userId).isSome) {db' : Db}
    (hrely : CartsKept held db db') : ((w.view db').carts.get userId).isSome := by
  rw [Session.isSome_carts_view] at h ⊢
  exact h.imp_left (hrely.stays userId)

/-- What the others do keeps it. -/
theorem Session.UsesCart.mono (h : w.UsesCart held db) {db' : Db} (hrely : CartsKept held db db') :
    w.UsesCart held db' := by
  refine ⟨h.writes, fun cart hcart => ?_⟩
  obtain ⟨hheld, hnone⟩ := h.added cart hcart
  exact ⟨hheld, hrely.carts _ hheld hnone⟩

/-- Then there is a cart: it is found or added. -/
theorem wpg_getOrCreate (h : w.UsesCart held db) :
    wpg shopEngine CartsKept Stmt.FindsKeyFree (CartRepository.getOrCreate userId) w held db
      (fun _ w' held' db' => w'.HasCart held' db' userId) (· ≠ .database) := by
  unfold CartRepository.getOrCreate
  refine wpg_send_bind.mpr fun hfree db₁ hrely => ?_
  have hread := h.execIn (s := .getCart userId) ⟨rfl, by simp⟩ hfree hrely
  cases hcart : (w.view db).carts.get userId with
  | some cart =>
    have hstays : ((w.view db₁).carts.get userId).isSome :=
      isSome_carts_stays (by rw [hcart]; rfl) hrely
    simp only [Stmt.execIn, hcart] at hread ⊢
    exact ⟨hread, by rwa [Session.view_loadItems]⟩
  | none =>
    simp only [Stmt.execIn, hcart] at hread ⊢
    refine wpg_insert_bind (fun hfree => hfree) fun hfree db₂ hrely₂ => ?_
    have hadded := hread.execIn (s := .insert (.cart ⟨userId⟩)) ⟨rfl, by simp⟩ hfree hrely₂
    rw [Stmt.execIn_insert hfree] at hadded
    refine ⟨hadded, ?_⟩
    rw [Session.isSome_carts_view]
    exact Or.inr (by simp [Session.send])

/-- The caller is looked up first: others leave the cart usable in the meantime. -/
theorem wpg_caller_bind {α : Type} {f : User → Tx α}
    {post : α → Session → List RowKey → Db → Prop} (h : w.UsesCart held db)
    (hf : ∀ user db', user.id = userId → w.UsesCart held db' →
      wpg shopEngine CartsKept Stmt.FindsKeyFree (f user) w held db' post (· ≠ .database)) :
    wpg shopEngine CartsKept Stmt.FindsKeyFree (getCurrentUser userId >>= f) w held db post
      (· ≠ .database) := by
  refine wpg_getCurrentUser_bind (by simp) fun user db₁ hid hrely => ?_
  exact hf user db₁ hid (h.mono hrely)

theorem wpg_discard {α : Type} {m : Tx α}
    (h : wpg shopEngine CartsKept Stmt.FindsKeyFree m w held db
      (fun _ w' held' db' => w'.HasCart held' db' userId) (· ≠ .database)) :
    wpg shopEngine CartsKept Stmt.FindsKeyFree (discard m) w held db
      (fun _ w' held' db' => w'.HasCart held' db' userId) (· ≠ .database) :=
  (wpg_bind m _).mpr h

theorem wpg_getSummary (h : w.UsesCart held db) :
    wpg shopEngine CartsKept Stmt.FindsKeyFree (CartService.getSummary userId) w held db
      (fun _ w' held' db' => w'.HasCart held' db' userId) (· ≠ .database) := by
  refine (wpg_bind _ _).mpr (wpg_mono (wpg_getOrCreate h) fun items w₁ held₁ db₁ h₁ => ?_)
  exact wpg_hasCart (behaves_summarize (fun _ => ⟨rfl, by simp⟩) items _) h₁

/-- A request ends with a cart, or with an error that is not one of the database. -/
theorem wpg_cartCall (call : CartCall) (h : w.UsesCart held db) :
    wpg shopEngine CartsKept Stmt.FindsKeyFree (call.handler userId) w held db
      (fun _ w' held' db' => w'.HasCart held' db' userId) (· ≠ .database) := by
  cases call with
  | get =>
    refine wpg_discard (wpg_caller_bind h fun user db₁ hid h₁ => ?_)
    rw [hid]
    exact wpg_getSummary h₁
  | add data itemId =>
    refine wpg_discard (wpg_caller_bind h fun user db₁ hid h₁ => ?_)
    rw [hid]
    have hadd := wpg_usesCart (cartProgram_addItem userId data.productId data.quantity itemId) h₁
    exact (wpg_bind _ _).mpr (wpg_mono hadd fun _ _ _ _ h₂ => wpg_getSummary h₂)
  | update productId data =>
    refine wpg_discard (wpg_caller_bind h fun user db₁ hid h₁ => ?_)
    rw [hid]
    have hupdate := wpg_usesCart (cartProgram_updateItem userId productId data.quantity) h₁
    exact (wpg_bind _ _).mpr (wpg_mono hupdate fun _ _ _ _ h₂ => wpg_getSummary h₂)
  | remove productId =>
    refine wpg_caller_bind h fun user db₁ hid h₁ => ?_
    rw [hid]
    refine (wpg_bind _ _).mpr (wpg_mono (wpg_getOrCreate h₁) fun _ _ _ _ h₂ => ?_)
    exact wpg_hasCart (cartProgram_removeLine userId productId) h₂
  | clear =>
    refine wpg_caller_bind h fun user db₁ hid h₁ => ?_
    rw [hid]
    refine (wpg_bind _ _).mpr (wpg_mono (wpg_getOrCreate h₁) fun _ _ _ _ h₂ => ?_)
    exact wpg_hasCart (cartProgram_clear userId) h₂

end Wpg

/-! ## Every interleaving -/

/-- The user has no cart, and no lines that would be in one. -/
structure NoCart (db : Db) (userId : Uuid) : Prop where
  cart : db.carts.get userId = none
  items : db.itemsOf userId = []

/-- What first use promises: no integrity error, one cart row at most, which nobody else has
    inserted when it is committed, and a cart row for all committed lines. -/
structure CartRaceFree {ι : Type} (userId : Uuid)
    (c : Config shop ShopError Unit Db Session RowKey ι) : Prop where
  errors : ∀ i e, c.clients i = .aborted (some e) → e ≠ .database
  carts : (c.db.carts.rows.filter fun cart => cart.userId = userId).length ≤ 1
  inserted : ∀ i a w held, c.clients i = .running (.done a) w held →
    Write.add (.cart ⟨userId⟩) ∈ w.pending → c.db.carts.get userId = none
  items : c.db.itemsOf userId ≠ [] → (c.db.carts.get userId).isSome

section Concurrent

variable {ι : Type} [Fintype ι] [DecidableEq ι] {userId : Uuid} {calls : ι → CartCall} {db : Db}

/-- The outline of the requests. -/
def CartCall.guarded (userId : Uuid) (calls : ι → CartCall) :
    Guarded (ε := ShopError) (α := Unit) shopEngine
      (fun c ev => CartCall.ReadsRollBack calls c ev ∧ InsertsWhileFree c ev) where
  rely := CartsKept
  may := Stmt.FindsKeyFree
  post _ _ w held db := w.HasCart held db userId
  refused := (· ≠ .database)
  inv db _ := db.Constraints ∧ (db.itemsOf userId ≠ [] → (db.carts.get userId).isSome)
  rely_refl := CartsKept.refl
  rely_trans _ _ _ _ := CartsKept.trans
  may_of_cond c i s next w held hi hcond := by
    simpa only [InsertsWhileFree, hi] using hcond.2
  commit_ok c i a w held hi hcond hinv hends := by
    refine ⟨w.view c.db, ?_, ⟨?_, fun _ => hends.cart⟩, fun locks hlocks => ?_⟩
    · exact shopEngine_commit_ok.mpr ⟨hends.constraints_view hinv.1, rfl⟩
    · exact hends.constraints_view hinv.1
    · exact cartsKept_view w c.db fun l hl => (hlocks l hl).2

/-- First use of a cart is free of races in every run in which rows are inserted while their
    keys are free. -/
theorem first_use_race_free (hvalid : db.Constraints) (hnew : NoCart db userId)
    {c : Config shop ShopError Unit Db Session RowKey ι}
    (hreach : Reach shopEngine
      (fun c ev => CartCall.ReadsRollBack calls c ev ∧ InsertsWhileFree c ev)
      (CartCall.start userId db calls) c) : CartRaceFree userId c := by
  have hstart : ∀ db', shopEngine.start.UsesCart [] db' := by
    intro db'
    constructor <;> intro _ hx <;> cases hx
  have hgood := (CartCall.guarded userId calls).sound
    ((CartCall.guarded userId calls).good_start db _ ⟨hvalid, fun h => absurd hnew.items h⟩
      fun i db' _ => wpg_cartCall (calls i) (hstart db')) hreach
  refine ⟨hgood.errors, Table.length_filter_key_le_one c.db.carts userId, ?_, hgood.inv.2⟩
  intro i a w held hi hadded
  have hends := hgood.clients i _ w held hi c.db (CartsKept.refl held c.db)
  exact (hends.added _ hadded).2

end Concurrent

/-- The first phone is put into the cart of customer 1 while another tab shows the cart. -/
def addAndShow : Fin 2 → CartCall
  | 0 => .add ⟨10, 2, two_pieces⟩ 50
  | 1 => .get

/-- The cart is shown after the phone has been added. -/
theorem first_use_race_free_smallShop : ∃ c,
    Reach shopEngine (fun c ev => CartCall.ReadsRollBack addAndShow c ev ∧ InsertsWhileFree c ev)
      (CartCall.start 1 smallShop.db addAndShow) c ∧
    (c.results 0).isSome ∧ CartRaceFree 1 c := by
  let schedule : List (Event (Fin 2)) := List.replicate 10 (.turn 0) ++ List.replicate 3 (.turn 1)
  have hrun : ((CartCall.start 1 smallShop.db addAndShow).execAll shopEngine
      (fun c ev => CartCall.ReadsRollBack addAndShow c ev ∧ InsertsWhileFree c ev) schedule).any
      (fun c => decide ((c.results 0).isSome = true)) = true := by decide +kernel
  obtain ⟨c, hreach, hall⟩ := Reach.exists_of_execAll schedule hrun
  exact ⟨c, hreach, hall, first_use_race_free smallShop.valid ⟨rfl, rfl⟩ hreach⟩

/-- The other tab has looked for the cart before the addition commits, and shows an error. -/
theorem first_use_race_free_fails : NoCart smallShop.db 1 ∧ ∃ c,
    Reach shopEngine (CartCall.ReadsRollBack addAndShow)
      (CartCall.start 1 smallShop.db addAndShow) c ∧
    (c.results 0).isSome ∧ c.clients 1 = .aborted (some .database) ∧ ¬ CartRaceFree 1 c := by
  let schedule : List (Event (Fin 2)) := List.replicate 2 (.turn 1) ++
    List.replicate 10 (.turn 0) ++ List.replicate 2 (.turn 1)
  have hrun : ((CartCall.start 1 smallShop.db addAndShow).execAll shopEngine
      (CartCall.ReadsRollBack addAndShow) schedule).any
      (fun c => (c.results 0).isSome ∧ (c.clients 1).failure = some .database) = true := by
    decide +kernel
  obtain ⟨c, hreach, hadded, hshown⟩ := Reach.exists_of_execAll schedule hrun
  have haborted : c.clients 1 = .aborted (some .database) := Client.aborted_of_failure hshown
  exact ⟨⟨rfl, rfl⟩, c, hreach, hadded, haborted, fun h => h.errors 1 _ haborted rfl⟩

end ElectronicShop
