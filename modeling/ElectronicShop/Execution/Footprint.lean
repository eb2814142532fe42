import ElectronicShop.Model.Api

/-!
# Which tables a request writes

Every program stays within a list of tables, its footprint, whatever the database
answers. The tables outside are the same before and after its run, alone or in a
session.
-/

namespace ElectronicShop

open Txn

inductive TableName where
  | users
  | categories
  | products
  | inventory
  | inventoryHistory
  | carts
  | cartItems
  | orders
  | statusHistory
  | payments
  | wallets
  | walletTransactions
  deriving DecidableEq, Repr

def NewRow.table : NewRow → TableName
  | .product _ => .products
  | .inventory _ => .inventory
  | .cart _ => .carts
  | .cartItem _ => .cartItems
  | .order _ => .orders
  | .payment _ => .payments
  | .wallet _ => .wallets

def Write.table : Write → TableName
  | .add row => row.table
  | .setProduct .. => .products
  | .setStockTotal .. | .setStockReserved .. => .inventory
  | .addInventoryHistory _ => .inventoryHistory
  | .setCartItemQuantity .. | .deleteCartItem .. => .cartItems
  | .addOrderItem .. | .setOrderAmounts .. | .setOrderStatus .. | .setOrderCancelledAt .. => .orders
  | .addStatusHistory _ => .statusHistory
  | .setPaymentStatus .. | .setPaymentAuthority .. | .setPaymentResponse ..
  | .setPaymentReference .. | .setPaymentVerifiedAt .. => .payments
  | .setWalletBalance .. => .wallets
  | .addWalletTransaction _ => .walletTransactions

/-- The table a statement can write. -/
def Stmt.table : Stmt → Option TableName
  | .updateCartItem .. => some .cartItems
  | .claimPayment .. => some .payments
  | .insertWalletIfAbsent _ => some .wallets
  | .insert row => some row.table
  | .write x => some x.table
  | _ => none

/-- A table has the same content in two databases. -/
def Db.Same (db db' : Db) : TableName → Prop
  | .users => db'.users = db.users
  | .categories => db'.categories = db.categories
  | .products => db'.products = db.products
  | .inventory => db'.inventory = db.inventory
  | .inventoryHistory => db'.inventoryHistory = db.inventoryHistory
  | .carts => db'.carts = db.carts
  | .cartItems => db'.cartItems = db.cartItems
  | .orders => db'.orders = db.orders
  | .statusHistory => db'.statusHistory = db.statusHistory
  | .payments => db'.payments = db.payments
  | .wallets => db'.wallets = db.wallets
  | .walletTransactions => db'.walletTransactions = db.walletTransactions

theorem Db.Same.rfl {db : Db} {t : TableName} : db.Same db t := by
  cases t <;> exact Eq.refl _

theorem Db.Same.trans {db₁ db₂ db₃ : Db} {t : TableName} (h₁ : db₁.Same db₂ t)
    (h₂ : db₂.Same db₃ t) : db₁.Same db₃ t := by
  cases t <;> exact Eq.trans h₂ h₁

theorem Write.same_apply {x : Write} {t : TableName} (h : x.table ≠ t) (db : Db) :
    db.Same (x.apply db) t := by
  cases x with
  | add row => cases row <;> cases t <;> first | exact Eq.refl _ | exact absurd rfl h
  | _ => cases t <;> first | exact Eq.refl _ | exact absurd rfl h

theorem Stmt.same_exec {s : Stmt} {t : TableName} (h : s.table ≠ some t) (db : Db) :
    db.Same (s.exec db).2 t := by
  have hwrite : ∀ x : Write, some x.table ≠ some t → db.Same (x.apply db) t :=
    fun x hx => Write.same_apply (fun heq => hx (congrArg some heq)) db
  cases s with
  | updateCartItem item quantity =>
    simp only [Stmt.exec]
    split
    · exact hwrite (.setCartItemQuantity item.id item.userId item.productId quantity) h
    · exact .rfl
  | claimPayment id fromStatus toStatus =>
    simp only [Stmt.exec]
    split
    · exact hwrite (.setPaymentStatus id toStatus) h
    · exact .rfl
  | insertWalletIfAbsent u =>
    simp only [Stmt.exec]
    split
    · exact .rfl
    · split
      · exact hwrite (.add (.wallet ⟨u, 0⟩)) h
      · exact .rfl
  | insert row =>
    simp only [Stmt.exec]
    split
    · exact .rfl
    · exact hwrite (.add row) h
  | write x => exact hwrite x h
  | _ => exact .rfl

/-! ## Footprints of programs -/

/-- The statement writes one of the tables, or none. -/
def Stmt.within (tables : List TableName) (s : Stmt) : Bool := s.table.all (· ∈ tables)

/-- A program of such statements. -/
abbrev Within {α : Type} (tables : List TableName) (m : Tx α) : Prop :=
  m.Uses fun s : Stmt => s.within tables = true

section Within

variable {α β : Type} {tables : List TableName}

theorem Stmt.table_ne_of_within {s : Stmt} (h : s.within tables) {t : TableName}
    (ht : t ∉ tables) : s.table ≠ some t := by
  intro heq
  simp [Stmt.within, heq, ht] at h

/-- The tables outside stay as they are. -/
theorem Within.same_run {m : Tx α} (hm : Within tables m) {db db' : Db} {a : α}
    (h : db.run m = .ok (a, db')) {t : TableName} (ht : t ∉ tables) : db.Same db' t :=
  hm.run_rel (fun db db' => db.Same db' t) (fun _ => .rfl) (fun _ _ _ => .trans)
    (fun _ hs db => Stmt.same_exec (Stmt.table_ne_of_within hs ht) db) h

theorem Within.mono {tables' : List TableName} {m : Tx α} (hm : Within tables m)
    (hsub : ∀ t ∈ tables, t ∈ tables') : Within tables' m := by
  refine Prog.Uses.mono hm fun s hs => ?_
  cases htable : s.table with
  | none => simp [Stmt.within, htable]
  | some t =>
    have ht : t ∈ tables := by simpa [Stmt.within, htable] using hs
    simpa [Stmt.within, htable] using hsub t ht

theorem Within.bind {m : Tx α} {f : α → Tx β} (hm : Within tables m)
    (hf : ∀ a, Within tables (f a)) : Within tables (m >>= f) :=
  Prog.Uses.bind hm hf

theorem within_pure (a : α) : Within tables (pure a : Tx α) := trivial

theorem within_raise (e : ShopError) : Within tables (.raise e : Tx α) := trivial

theorem within_send {s : Stmt} (h : s.within tables) : Within tables (send s) :=
  ⟨h, fun _ => trivial⟩

theorem within_write {x : Write} (h : (Stmt.write x).within tables) : Within tables (write x) :=
  within_send h

theorem within_flush : Within tables flush := within_send rfl

theorem within_orRaise (e : ShopError) (x : Option α) : Within tables (orRaise e x) := by
  cases x <;> trivial

theorem within_insert {row : NewRow} (h : (Stmt.insert row).within tables) :
    Within tables (insert row) := by
  refine (within_send h).bind fun inserted => ?_
  cases inserted with
  | true => exact within_pure ()
  | false => exact within_raise _

end Within

/-! ## Carts -/

/-- The tables of carts. -/
abbrev cartTables : List TableName := [.carts, .cartItems]

theorem within_getOrCreateCart (userId : Uuid) :
    Within [.carts] (CartRepository.getOrCreate userId) := by
  refine (within_send rfl).bind fun cart => ?_
  cases cart with
  | some items => exact within_pure items
  | none => exact (within_insert rfl).bind fun _ => within_pure []

theorem within_clearCart (userId : Uuid) : Within cartTables (CartRepository.clear userId) :=
  (within_send rfl).bind fun items => Prog.Uses.forM items fun _ => within_write rfl

theorem within_setQuantity (item : CartItem) (quantity : Nat) :
    Within cartTables (CartService.setQuantity item quantity) := by
  unfold CartService.setQuantity
  split
  · exact within_pure ()
  · refine (within_send rfl).bind fun found => ?_
    cases found with
    | true => exact within_pure ()
    | false => exact within_raise _

theorem within_storeQuantity (userId productId : Uuid) (existing : Option CartItem)
    (quantity : Nat) (itemId : Uuid) :
    Within cartTables (CartService.storeQuantity userId productId existing quantity itemId) := by
  cases existing with
  | some item => exact within_setQuantity item quantity
  | none => exact within_insert rfl

theorem within_addItem (userId productId : Uuid) (quantity : Nat) (itemId : Uuid) :
    Within cartTables (CartService.addItem userId productId quantity itemId) := by
  refine (within_send rfl).bind fun found => (within_orRaise _ _).bind fun p => ?_
  obtain ⟨product, inventory⟩ := p
  simp only
  split
  · exact within_raise _
  · refine ((within_getOrCreateCart _).mono (by decide)).bind fun _ =>
      (within_send rfl).bind fun existing => ?_
    split
    · exact within_raise _
    · exact (within_storeQuantity ..).bind fun _ => (within_getOrCreateCart _).mono (by decide)

theorem within_updateItem (userId productId : Uuid) (quantity : Nat) :
    Within cartTables (CartService.updateItem userId productId quantity) := by
  refine (within_send rfl).bind fun found => (within_orRaise _ _).bind fun p => ?_
  obtain ⟨product, inventory⟩ := p
  simp only
  split
  · exact within_raise _
  · refine ((within_getOrCreateCart _).mono (by decide)).bind fun _ =>
      (within_send rfl).bind fun existing => ?_
    refine (within_orRaise _ _).bind fun item => (within_setQuantity _ _).bind fun _ => ?_
    exact (within_getOrCreateCart _).mono (by decide)

theorem within_removeItem (userId productId : Uuid) :
    Within cartTables (CartService.removeItem userId productId) := by
  refine ((within_getOrCreateCart _).mono (by decide)).bind fun _ =>
    (within_send rfl).bind fun item => ?_
  cases item with
  | some item => exact within_write rfl
  | none => exact within_pure ()

theorem within_clear (userId : Uuid) : Within cartTables (CartService.clear userId) :=
  ((within_getOrCreateCart _).mono (by decide)).bind fun _ => within_clearCart _

theorem within_getSummary (userId : Uuid) : Within [.carts] (CartService.getSummary userId) := by
  refine (within_getOrCreateCart _).bind fun items => ?_
  refine Prog.Uses.foldlM items _ fun summary item => ?_
  refine (within_send rfl).bind fun found => ?_
  cases found with
  | none => exact within_pure _
  | some p =>
    obtain ⟨product, inventory⟩ := p
    simp only
    split
    · exact within_pure _
    · exact within_pure _

/-! ## Stock and products -/

abbrev stockTables : List TableName := [.inventory, .inventoryHistory]

theorem within_lockedInventory (productId : Uuid) :
    Within stockTables (InventoryService.lockedInventory productId) :=
  (within_send rfl).bind fun _ => within_orRaise _ _

theorem within_reserve (productId : Uuid) (quantity : Int) (referenceType : String)
    (referenceId : Uuid) (actorId : Option Uuid) : Within stockTables
      (InventoryService.reserve productId quantity referenceType referenceId actorId) := by
  refine (within_lockedInventory _).bind fun inventory => ?_
  simp only
  split
  · exact within_raise _
  · exact (within_write rfl).bind fun _ => within_write rfl

theorem within_release (productId : Uuid) (quantity : Int) (referenceType : String)
    (referenceId : Uuid) (actorId : Option Uuid) : Within stockTables
      (InventoryService.release productId quantity referenceType referenceId actorId) :=
  (within_lockedInventory _).bind fun _ => (within_write rfl).bind fun _ => within_write rfl

theorem within_commitPurchase (productId : Uuid) (quantity : Int) (referenceType : String)
    (referenceId : Uuid) (actorId : Option Uuid) : Within stockTables
      (InventoryService.commitPurchase productId quantity referenceType referenceId actorId) :=
  (within_lockedInventory _).bind fun _ => (within_write rfl).bind fun _ =>
    (within_write rfl).bind fun _ => within_write rfl

theorem within_restock (productId : Uuid) (quantity : Int) (actorId : Option Uuid) :
    Within stockTables (InventoryService.restock productId quantity actorId) :=
  (within_lockedInventory _).bind fun _ => (within_write rfl).bind fun _ => within_write rfl

theorem within_adjust (productId : Uuid) (delta : Int) (actorId : Option Uuid) :
    Within stockTables (InventoryService.adjust productId delta actorId) := by
  refine (within_lockedInventory _).bind fun inventory => ?_
  simp only
  split
  · exact within_raise _
  · exact (within_write rfl).bind fun _ => within_write rfl

theorem within_create (data : ProductCreate) (productId : Uuid) :
    Within [.products, .inventory] (ProductService.create data productId) := by
  have hquery : Within [.products, .inventory] (ProductService.getBySlugOrSku data) := by
    by_cases hsku : fitsText data.sku
    · have hsent : ProductService.getBySlugOrSku data =
          send (.getProductBySlugOrSku data.slug data.sku) := if_neg (not_not.mpr hsku)
      rw [hsent]
      exact within_send rfl
    · have hraised : ProductService.getBySlugOrSku data = .raise .database := if_pos hsku
      rw [hraised]
      exact within_raise _
  refine hquery.bind fun products => ?_
  split
  · refine (within_send rfl).bind fun category => (within_orRaise _ _).bind fun _ => ?_
    exact (within_insert rfl).bind fun _ => (within_insert rfl).bind fun _ => within_pure _
  · exact within_raise _
  · exact within_raise _

theorem within_update (productId : Uuid) (data : ProductUpdate) :
    Within [.products] (ProductService.update productId data) := by
  refine (within_send rfl).bind fun found => (within_orRaise _ _).bind fun p => ?_
  obtain ⟨product, inventory⟩ := p
  refine Within.bind ?_ fun _ => Within.bind ?_ fun _ =>
    (within_orRaise _ _).bind fun stored => (within_write rfl).bind fun _ => within_pure _
  · cases data.categoryId.value with
    | none => exact within_pure ()
    | some categoryId =>
      exact (within_send rfl).bind fun _ => (within_orRaise _ _).bind fun _ => within_pure ()
  · unfold ProductService.checkDiscount
    split
    · exact within_pure ()
    · exact within_raise _
    · split
      · exact within_raise _
      · exact within_pure ()

theorem within_archive (productId : Uuid) : Within [.products] (ProductService.archive productId) := by
  refine (within_send rfl).bind fun found => (within_orRaise _ _).bind fun p => ?_
  exact within_write rfl

/-! ## Orders and payments -/

theorem within_transition (order : Order) (newStatus : OrderStatus) (actorId : Option Uuid)
    (note : Option String) (now : DateTime) :
    Within [.orders, .statusHistory] (OrderService.transition order newStatus actorId note now) := by
  unfold OrderService.transition
  split
  · exact within_raise _
  · refine (within_write rfl).bind fun _ => (within_write rfl).bind fun _ => ?_
    split
    · exact (within_write rfl).bind fun _ => within_pure _
    · exact within_pure _

theorem within_forProducts {tables : List TableName} (order : Order) {act : Uuid → Int → Tx Unit}
    (hact : ∀ p q, Within tables (act p q)) : Within tables (OrderService.forProducts order act) := by
  refine Prog.Uses.forM order.items fun item => ?_
  split
  · exact hact _ _
  · exact within_pure ()

/-- The tables of orders and stock. -/
abbrev orderTables : List TableName := [.orders, .statusHistory, .inventory, .inventoryHistory]

theorem within_getById (orderId : Uuid) : Within orderTables (OrderService.getById orderId) :=
  (within_send rfl).bind fun _ => within_orRaise _ _

theorem within_markPaid (orderId : Uuid) (now : DateTime) :
    Within orderTables (OrderService.markPaid orderId now) :=
  (within_getById _).bind fun order =>
    ((within_forProducts order fun _ _ => within_commitPurchase ..).mono (by decide)).bind fun _ =>
      (within_transition ..).mono (by decide)

theorem within_markPaymentFailed (orderId : Uuid) (now : DateTime) :
    Within orderTables (OrderService.markPaymentFailed orderId now) :=
  (within_getById _).bind fun order =>
    ((within_forProducts order fun _ _ => within_release ..).mono (by decide)).bind fun _ =>
      (within_transition ..).mono (by decide)

theorem within_cancel (orderId : Uuid) (user : User) (now : DateTime) :
    Within orderTables (OrderService.cancel orderId user now) := by
  refine (within_getById _).bind fun order => Within.bind ?_ fun _ => Within.bind ?_ fun _ =>
    (within_transition ..).mono (by decide)
  · unfold OrderService.authorizeAccess
    split
    · exact within_raise _
    · exact within_pure ()
  · unfold OrderService.releaseOnCancel
    split
    · exact (within_forProducts order fun _ _ => within_release ..).mono (by decide)
    · exact within_pure ()

theorem within_adminUpdateStatus (orderId : Uuid) (newStatus : OrderStatus) (note : Option String)
    (actorId : Uuid) (now : DateTime) :
    Within orderTables (OrderService.adminUpdateStatus orderId newStatus note actorId now) :=
  (within_getById _).bind fun _ => (within_transition ..).mono (by decide)

theorem within_checkout (userId : Uuid) (shippingAddress : Option ShippingAddress)
    (orderId : Uuid) (now : DateTime) : Within (cartTables ++ orderTables)
      (OrderService.checkout userId shippingAddress orderId now) := by
  refine ((within_getOrCreateCart _).mono (by decide)).bind fun items => ?_
  split
  · exact within_raise _
  · refine (within_insert rfl).bind fun _ => Within.bind ?_ fun subtotal => ?_
    · refine Prog.Uses.foldlM items _ fun subtotal item => ?_
      refine (within_send rfl).bind fun found => (within_orRaise _ _).bind fun p => ?_
      obtain ⟨product, inventory⟩ := p
      simp only
      split
      · exact within_raise _
      · exact (within_write rfl).bind fun _ =>
          ((within_reserve ..).mono (by decide)).bind fun _ => within_pure _
    · refine (within_write rfl).bind fun _ =>
        ((within_transition ..).mono (by decide)).bind fun _ => ?_
      exact ((within_clearCart _).mono (by decide)).bind fun _ => within_flush.bind fun _ =>
        (within_send rfl).bind fun _ => within_orRaise _ _

theorem within_initPayment (zarinpal : ZarinPalClient) (callbackUrl : String) (user : User)
    (orderId paymentId : Uuid) : Within [.payments]
      (PaymentService.initPayment zarinpal callbackUrl user orderId paymentId) := by
  refine (within_send rfl).bind fun found => (within_orRaise _ _).bind fun order => ?_
  split
  · exact within_raise _
  · split
    · exact within_raise _
    · refine (within_insert rfl).bind fun _ => ?_
      split
      · exact within_raise _
      · exact within_raise _
      · exact (within_write rfl).bind fun _ => within_pure _

theorem within_handleCallback (zarinpal : ZarinPalClient) (authority gatewayStatus : String)
    (now : DateTime) : Within (.payments :: orderTables)
      (PaymentService.handleCallback zarinpal authority gatewayStatus now) := by
  refine (within_send rfl).bind fun found => (within_orRaise _ _).bind fun payment => ?_
  refine (within_send rfl).bind fun claimed => ?_
  cases claimed with
  | false => exact (within_send rfl).bind fun _ => within_orRaise _ _
  | true =>
    simp only [PaymentService.settle]
    split
    · exact (within_write rfl).bind fun _ =>
        ((within_markPaymentFailed _ _).mono (by decide)).bind fun _ => within_pure _
    · split
      · exact within_raise _
      · split
        · exact (within_write rfl).bind fun _ => (within_write rfl).bind fun _ =>
            (within_write rfl).bind fun _ => (within_write rfl).bind fun _ =>
              ((within_markPaid _ _).mono (by decide)).bind fun _ => within_pure _
        · exact (within_write rfl).bind fun _ => (within_write rfl).bind fun _ =>
            ((within_markPaymentFailed _ _).mono (by decide)).bind fun _ => within_pure _

/-! ## Wallets -/

abbrev walletTables : List TableName := [.wallets, .walletTransactions]

theorem within_getOrCreateWallet (userId : Uuid) :
    Within [.wallets] (WalletService.getOrCreate userId) := by
  refine (within_send rfl).bind fun wallet => ?_
  cases wallet with
  | some w => exact within_pure w
  | none =>
    refine (within_send rfl).bind fun inserted => ?_
    cases inserted with
    | true => exact (within_send rfl).bind fun _ => within_orRaise _ _
    | false => exact within_raise _

theorem within_apply (userId : Uuid) (type : WalletTransactionType) (amount : ℚ)
    (referenceType : Option String) (referenceId : Option Uuid) (note : Option String)
    (actorId : Option Uuid) : Within walletTables
      (WalletService.apply userId type amount referenceType referenceId note actorId) := by
  refine ((within_getOrCreateWallet _).mono (by decide)).bind fun _ =>
    (within_send rfl).bind fun wallet => (within_orRaise _ _).bind fun w => ?_
  simp only
  split
  · exact within_raise _
  · exact (within_write rfl).bind fun _ => (within_write rfl).bind fun _ =>
      within_flush.bind fun _ => within_pure _

/-! ## Requests -/

theorem within_getCurrentUser (subject : Uuid) : Within [] (getCurrentUser subject) := by
  refine (within_send rfl).bind fun found => (within_orRaise _ _).bind fun user => ?_
  split
  · exact within_raise _
  · exact within_pure user

theorem within_authorized (subject : Uuid) (permission : Permission) :
    Within [] (authorized subject permission) := by
  refine (within_getCurrentUser _).bind fun user => Within.bind ?_ fun _ => within_pure user
  unfold requirePermission
  split
  · exact within_raise _
  · exact within_pure ()

theorem within_updateOrderStatus (subject orderId : Uuid) (data : OrderStatusUpdateRequest)
    (now : DateTime) : Within (orderTables ++ walletTables)
      (updateOrderStatus subject orderId data now) := by
  refine ((within_authorized _ _).mono (by decide)).bind fun user =>
    ((within_adminUpdateStatus ..).mono (by decide)).bind fun order =>
      Within.bind ?_ fun _ => within_pure _
  unfold refundIfRefunded
  split
  · exact ((within_apply ..).mono (by decide)).bind fun _ => within_pure ()
  · exact within_pure ()

/-- The tables a request can write. -/
def Request.tables : Request → List TableName
  | .addCartItem .. | .updateCartItem .. | .removeCartItem .. | .clearCart .. => cartTables
  | .checkout .. => cartTables ++ orderTables
  | .cancelOrder .. => orderTables
  | .updateOrderStatus .. => orderTables ++ walletTables
  | .initPayment .. => [.payments]
  | .paymentCallback .. => .payments :: orderTables
  | .restockProduct .. | .adjustProductInventory .. => stockTables
  | .createProduct .. => [.products, .inventory]
  | .updateProduct .. | .archiveProduct .. => [.products]
  | .getMyWallet .. | .adminGetWallet .. => [.wallets]
  | .depositToWallet .. | .adminCreditWallet .. | .adminDebitWallet .. => walletTables

theorem within_handler (request : Request) : Within request.tables request.handler := by
  have huser : ∀ {tables : List TableName} subject, Within tables (getCurrentUser subject) :=
    fun _ => (within_getCurrentUser _).mono (by simp)
  have hadmin : ∀ {tables : List TableName} subject permission,
      Within tables (authorized subject permission) :=
    fun _ _ => (within_authorized _ _).mono (by simp)
  have hanswer : ∀ {α : Type} {tables : List TableName} {m : Tx α}, Within tables m →
      Within tables (discard m) := fun hm => hm.bind fun _ => within_pure ()
  cases request with
  | addCartItem subject data itemId =>
    exact hanswer ((huser _).bind fun _ => (within_addItem ..).bind fun _ =>
      (within_getSummary _).mono (by decide))
  | updateCartItem subject productId data =>
    exact hanswer ((huser _).bind fun _ => (within_updateItem ..).bind fun _ =>
      (within_getSummary _).mono (by decide))
  | removeCartItem subject productId => exact (huser _).bind fun _ => within_removeItem ..
  | clearCart subject => exact (huser _).bind fun _ => within_clear _
  | checkout subject shippingAddress orderId now =>
    exact hanswer ((huser _).bind fun _ => within_checkout ..)
  | cancelOrder subject orderId now => exact hanswer ((huser _).bind fun _ => within_cancel ..)
  | updateOrderStatus subject orderId data now =>
    exact hanswer (within_updateOrderStatus ..)
  | initPayment zarinpal callbackUrl subject orderId paymentId =>
    exact hanswer ((huser _).bind fun _ => within_initPayment ..)
  | paymentCallback zarinpal authority status now => exact hanswer (within_handleCallback ..)
  | restockProduct subject productId data => exact (hadmin _ _).bind fun _ => within_restock ..
  | adjustProductInventory subject productId data =>
    exact (hadmin _ _).bind fun _ => within_adjust ..
  | createProduct subject data productId =>
    exact hanswer ((hadmin _ _).bind fun _ => within_create ..)
  | updateProduct subject productId data =>
    exact hanswer ((hadmin _ _).bind fun _ => within_update ..)
  | archiveProduct subject productId => exact (hadmin _ _).bind fun _ => within_archive _
  | getMyWallet subject => exact hanswer ((huser _).bind fun _ => within_getOrCreateWallet _)
  | depositToWallet subject data => exact hanswer ((huser _).bind fun _ => within_apply ..)
  | adminGetWallet subject userId =>
    exact hanswer ((hadmin _ _).bind fun _ => within_getOrCreateWallet _)
  | adminCreditWallet subject userId data =>
    exact hanswer ((hadmin _ _).bind fun _ => within_apply ..)
  | adminDebitWallet subject userId data =>
    exact hanswer ((hadmin _ _).bind fun _ => within_apply ..)

end ElectronicShop
