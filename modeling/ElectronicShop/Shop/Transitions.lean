import ElectronicShop.Execution.Records
import ElectronicShop.Execution.Sessions
import ElectronicShop.Shop.Reservations
import ElectronicShop.Txn.Trail

/-!
# Concurrent status changes

Any number of requests of any kind, from a state without orders. A transition reads
the order without a lock, checks its status and writes the next one at commit. While
no transaction commits a change to an order whose status is not the one it has read,
the status history of every order is one trail through `allowedTransitions`, and an
order is refunded once at most.
-/

namespace ElectronicShop

open Txn

/-! ## What a session knows of an order -/

/-- The order whose status a write changes. -/
def Write.statusRow : Write → Option Uuid
  | .setOrderStatus id _ => some id
  | _ => none

namespace Session

variable {w : Session} {o : Order} {s : OrderStatus} {refunds : List WalletTransaction}

/-- A session that has done nothing to the records: its orders are as it has read them. -/
structure Unchanged (w : Session) : Prop where
  objects : w.objects.orders = w.loaded.orders
  recorded : w.Recorded id

/-- An order has been read. -/
structure Read (w : Session) (o : Order) : Prop where
  unchanged : w.Unchanged
  loaded : w.loaded.orders.get o.id = some o

/-- An order has been read, its status has been checked and changed to `s`, and `refunds`
    have been entered. -/
structure Changed (w : Session) (o : Order) (s : OrderStatus) (refunds : List WalletTransaction) :
    Prop where
  allowed : s ∈ allowedTransitions o.status
  loaded : w.loaded.orders.get o.id = some o
  object : (w.objects.orders.get o.id).isSome
  written : o.id ∈ w.pending.filterMap Write.statusRow
  recorded : ∃ (entry : OrderStatusHistory) (f : Order → Order), entry.orderId = o.id ∧
    entry.fromStatus = some o.status ∧ entry.toStatus = s ∧
    (∀ r, (f r).id = r.id ∧ (f r).status = s) ∧
    w.Recorded fun r => ⟨r.orders.modify o.id f, r.statusHistory ++ [entry], r.refunds ++ refunds⟩

/-- A statement that keeps the records loads orders or leaves them alone. -/
theorem orders_execIn {stmt : Stmt} (h : stmt.keepsRecords) (w : Session) (db : Db) :
    (∃ id, (stmt.execIn w db).2.objects.orders =
        w.objects.orders.remember w.objects.orders (w.view db).orders id ∧
      (stmt.execIn w db).2.loaded.orders =
        w.loaded.orders.remember w.objects.orders (w.view db).orders id) ∨
    (stmt.execIn w db).2.objects.orders = w.objects.orders ∧
      (stmt.execIn w db).2.loaded.orders = w.loaded.orders := by
  have hsend : ∀ {x : Write}, x.keepsRecords → (x.apply w.objects).orders = w.objects.orders :=
    fun {x} hx => congrArg Records.orders (Write.records_apply hx w.objects)
  cases stmt with
  | getOrder id => exact Or.inl ⟨id, rfl, rfl⟩
  | getProduct id =>
    simp only [Stmt.execIn]
    split <;> exact Or.inr ⟨rfl, rfl⟩
  | getPaymentByAuthority authority =>
    simp only [Stmt.execIn]
    split <;> exact Or.inr ⟨rfl, rfl⟩
  | getCart u =>
    simp only [Stmt.execIn]
    split
    · obtain ⟨_, _, hload⟩ := w.loadItems_eq ((w.view db).itemsOf u)
      rw [hload]
      exact Or.inr ⟨rfl, rfl⟩
    · exact Or.inr ⟨rfl, rfl⟩
  | getCartItem u p =>
    simp only [Stmt.execIn]
    split
    · rename_i row _
      obtain ⟨_, _, hload⟩ := w.loadItem_eq row
      rw [hload]
      exact Or.inr ⟨rfl, rfl⟩
    · exact Or.inr ⟨rfl, rfl⟩
  | updateCartItem item quantity =>
    simp only [Stmt.execIn]
    split <;> exact Or.inr ⟨rfl, rfl⟩
  | claimPayment id fromStatus toStatus =>
    simp only [Stmt.execIn]
    split <;> exact Or.inr ⟨rfl, rfl⟩
  | refreshPayment id =>
    simp only [Stmt.execIn]
    split <;> exact Or.inr ⟨rfl, rfl⟩
  | insertWalletIfAbsent u =>
    simp only [Stmt.execIn]
    split
    · exact Or.inr ⟨rfl, rfl⟩
    · split <;> exact Or.inr ⟨rfl, rfl⟩
  | insert row =>
    simp only [Stmt.execIn]
    split
    · exact Or.inr ⟨rfl, rfl⟩
    · exact Or.inr ⟨hsend h, rfl⟩
  | write x => exact Or.inr ⟨hsend h, rfl⟩
  | _ => exact Or.inr ⟨rfl, rfl⟩

/-- No statement takes a write back. -/
theorem pending_execIn (stmt : Stmt) (w : Session) (db : Db) :
    ∀ x ∈ w.pending, x ∈ (stmt.execIn w db).2.pending := by
  intro x hx
  rcases stmt.pending_execIn w db with hsame | ⟨y, -, happend⟩
  · rw [hsame]
    exact hx
  · rw [happend]
    exact List.mem_append_left _ hx

theorem Unchanged.execIn (h : w.Unchanged) (stmt : Stmt) (hstmt : stmt.keepsRecords) (db : Db) :
    (stmt.execIn w db).2.Unchanged := by
  refine ⟨?_, h.recorded.execIn hstmt db⟩
  rcases orders_execIn hstmt w db with ⟨id, hobjects, hloaded⟩ | ⟨hobjects, hloaded⟩
  · rw [hobjects, hloaded, h.objects]
  · rw [hobjects, hloaded, h.objects]

/-- What is loaded is not loaded again. -/
theorem loaded_execIn {id : Uuid} {row : Order} (hobject : (w.objects.orders.get id).isSome)
    (hloaded : w.loaded.orders.get id = some row) (stmt : Stmt) (hstmt : stmt.keepsRecords) (db : Db) :
    ((stmt.execIn w db).2.objects.orders.get id).isSome ∧
      (stmt.execIn w db).2.loaded.orders.get id = some row := by
  rcases orders_execIn hstmt w db with ⟨id', hobjects', hloaded'⟩ | ⟨hobjects', hloaded'⟩
  · rw [hobjects', hloaded', Table.get_remember, Table.get_remember]
    have hno : ¬ (id = id' ∧ w.objects.orders.get id' = none ∧
        ((w.view db).orders.get id').isSome) := by
      rintro ⟨rfl, hnone, -⟩
      rw [hnone] at hobject
      cases hobject
    rw [if_neg hno, if_neg hno]
    exact ⟨hobject, hloaded⟩
  · rw [hobjects', hloaded']
    exact ⟨hobject, hloaded⟩

theorem Read.execIn (h : w.Read o) (stmt : Stmt) (hstmt : stmt.keepsRecords) (db : Db) :
    (stmt.execIn w db).2.Read o := by
  have hobject : (w.objects.orders.get o.id).isSome := by
    rw [h.unchanged.objects, h.loaded]
    rfl
  exact ⟨h.unchanged.execIn stmt hstmt db, (loaded_execIn hobject h.loaded stmt hstmt db).2⟩

theorem Changed.execIn (h : w.Changed o s refunds) (stmt : Stmt) (hstmt : stmt.keepsRecords)
    (db : Db) : (stmt.execIn w db).2.Changed o s refunds := by
  obtain ⟨hobject, hloaded⟩ := loaded_execIn h.object h.loaded stmt hstmt db
  refine ⟨h.allowed, hloaded, hobject, ?_, ?_⟩
  · obtain ⟨x, hx, hid⟩ := List.mem_filterMap.mp h.written
    exact List.mem_filterMap.mpr ⟨x, pending_execIn stmt w db x hx, hid⟩
  · obtain ⟨entry, f, hentry, hfrom, hto, hf, hrecorded⟩ := h.recorded
    exact ⟨entry, f, hentry, hfrom, hto, hf, hrecorded.execIn hstmt db⟩

theorem unchanged_start : shopEngine.start.Unchanged := ⟨rfl, fun _ => rfl⟩

end Session

/-! ## Programs -/

section Programs

variable {rely : List RowKey → Db → Db → Prop} {α : Type} {w : Session} {held : List RowKey} {db : Db}
  {o : Order} {s : OrderStatus} {refunds : List WalletTransaction} {orderId : Uuid}

theorem wp_unchanged {m : Tx α} (hm : KeepsRecords m) (h : w.Unchanged) :
    wp shopEngine rely m w held db fun _ w' _ _ => w'.Unchanged :=
  wp_of_uses Session.Unchanged (fun stmt hs _ db hw => Session.Unchanged.execIn hw stmt hs db) hm h held db

theorem wp_read {m : Tx α} (hm : KeepsRecords m) (h : w.Read o) :
    wp shopEngine rely m w held db fun _ w' _ _ => w'.Read o :=
  wp_of_uses (Session.Read · o) (fun stmt hs _ db hw => Session.Read.execIn hw stmt hs db) hm h held db

theorem wp_changed {m : Tx α} (hm : KeepsRecords m) (h : w.Changed o s refunds) :
    wp shopEngine rely m w held db fun _ w' _ _ => w'.Changed o s refunds :=
  wp_of_uses (Session.Changed · o s refunds) (fun stmt hs _ db hw => Session.Changed.execIn hw stmt hs db) hm h held db

/-- `get_by_id` reads the order. -/
theorem wp_getById (h : w.Unchanged) :
    wp shopEngine rely (OrderService.getById orderId) w held db fun o w' _ _ => w'.Read o := by
  refine wp_send_bind.mpr fun db' _ => wp_orRaise.mpr fun o ho => ?_
  have hunchanged := h.execIn (.getOrder orderId) rfl db
  have hobject : ((Stmt.getOrder orderId).execIn w db).2.objects.orders.get orderId = some o :=
    (Table.get_remember_self w.objects.orders (w.view db).orders orderId).trans ho
  refine ⟨hunchanged, ?_⟩
  rw [Table.key_of_get hobject, ← hunchanged.objects, hobject]

/-- A change to an order that has been changed. -/
theorem Session.Changed.modify (h : w.Changed o s refunds) {x : Write} {g : Order → Order}
    (hx : ∀ db : Db, x.apply db = { db with orders := db.orders.modify o.id g })
    (hg : ∀ r, (g r).id = r.id ∧ (g r).status = r.status) : (w.send x).Changed o s refunds := by
  obtain ⟨entry, f, hentry, hfrom, hto, hf, hrecorded⟩ := h.recorded
  refine ⟨h.allowed, h.loaded, ?_, ?_, entry, g ∘ f, hentry, hfrom, hto, fun r => ?_, ?_⟩
  · simp only [Session.send, hx]
    rw [Table.isSome_get_modify _ _ _ fun r => (hg r).1]
    exact h.object
  · obtain ⟨y, hy, hid⟩ := List.mem_filterMap.mp h.written
    exact List.mem_filterMap.mpr ⟨y, List.mem_append_left _ hy, hid⟩
  · exact ⟨(hg (f r)).1.trans (hf r).1, (hg (f r)).2.trans (hf r).2⟩
  · have happlied := hrecorded.apply x (fun r => ⟨r.orders.modify o.id g, r.statusHistory, r.refunds⟩)
      fun db' => by rw [hx]; rfl
    intro db'
    rw [happlied db']
    exact congrArg (fun t => (⟨t, _, _⟩ : Records))
      (Table.modify_modify db'.records.orders o.id (fun r => (hf r).1) fun r => (hg r).1)

/-- `_transition` checks the status that was read. -/
theorem wp_transition (h : w.Read o) (actorId : Option Uuid) (note : Option String)
    (now : DateTime) :
    wp shopEngine rely (OrderService.transition o s actorId note now) w held db
      fun o' w' _ _ => o' = o.transitioned s now ∧ w'.Changed o s [] := by
  unfold OrderService.transition
  refine wp_if_raise.mpr fun hallowed => ?_
  rw [not_not] at hallowed
  refine wp_write_bind.mpr fun db₁ _ => wp_write_bind.mpr fun db₂ _ => ?_
  let entry : OrderStatusHistory := ⟨o.id, some o.status, s, actorId, note, now⟩
  have hlogged : (w.send (.addStatusHistory entry)).Recorded
      fun r => ⟨r.orders, r.statusHistory ++ [entry], r.refunds⟩ :=
    h.unchanged.recorded.apply _ (fun r => ⟨r.orders, r.statusHistory ++ [entry], r.refunds⟩)
      fun _ => rfl
  have hset : ((w.send (.addStatusHistory entry)).send (.setOrderStatus o.id s)).Changed o s [] := by
    refine ⟨hallowed, h.loaded, ?_, ?_, entry, fun r => { r with status := s }, rfl, rfl, rfl,
      fun _ => ⟨rfl, rfl⟩, fun db' => ?_⟩
    · simp only [Session.send, Write.apply]
      rw [Table.isSome_get_modify _ _ _ (by simp), h.unchanged.objects, h.loaded]
      rfl
    · simp [Session.send, Write.statusRow]
    · have happlied := hlogged.apply (.setOrderStatus o.id s) (fun r => ⟨r.orders.modify o.id
        fun r => { r with status := s }, r.statusHistory, r.refunds⟩) fun _ => rfl
      rw [happlied db']
      simp only [List.append_nil]
  split
  · rename_i hs
    refine wp_write_bind.mpr fun db₃ _ => ⟨?_, hset.modify (fun _ => rfl) fun _ => ⟨rfl, rfl⟩⟩
    simp [Order.transitioned, hs]
  · rename_i hs
    refine ⟨?_, hset⟩
    simp [Order.transitioned, hs]

/-- A refund of an order that has been changed. -/
theorem Session.Changed.refund (h : w.Changed o s []) {t : WalletTransaction}
    (ht : t.type = .refund) : (w.send (.addWalletTransaction t)).Changed o s [t] := by
  obtain ⟨entry, f, hentry, hfrom, hto, hf, hrecorded⟩ := h.recorded
  refine ⟨h.allowed, h.loaded, h.object, ?_, entry, f, hentry, hfrom, hto, hf, fun db' => ?_⟩
  · obtain ⟨y, hy, hid⟩ := List.mem_filterMap.mp h.written
    exact List.mem_filterMap.mpr ⟨y, List.mem_append_left _ hy, hid⟩
  · have happlied := hrecorded.apply (.addWalletTransaction t)
      (fun r => ⟨r.orders, r.statusHistory, r.refunds ++ [t]⟩) fun db => by
        simp [Write.apply, Db.records, ht]
    rw [happlied db']
    simp only [List.append_nil]

/-- `refund_order` enters the refund in the wallet ledger. -/
theorem wp_refundOrder (h : w.Changed o s []) (userId : Uuid) (amount : ℚ) (actorId : Uuid) :
    wp shopEngine rely (WalletService.refundOrder userId amount o.id actorId) w held db
      fun t w' _ _ => t.type = .refund ∧ t.referenceId = some o.id ∧ w'.Changed o s [t] := by
  unfold WalletService.refundOrder WalletService.apply
  rw [wp_bind]
  refine wp_mono (wp_changed ((within_getOrCreateWallet userId).keepsRecords (by decide)) h)
    fun _ w₁ held₁ db₁ h₁ => wp_send_bind.mpr fun db₂ _ => wp_orRaise_bind.mpr fun wallet _ => ?_
  refine wp_if_raise.mpr fun _ => wp_write_bind.mpr fun db₃ _ => wp_write_bind.mpr fun db₄ _ =>
    wp_flush_bind.mpr fun db₅ _ => ⟨rfl, rfl, ?_⟩
  have h₂ := h₁.execIn (.lockWallet userId) rfl db₁
  exact (h₂.execIn (.write (.setWalletBalance userId _)) rfl db₂).refund rfl

/-- `cancel` releases stock and changes the status. -/
theorem wp_cancel (h : w.Unchanged) (user : User) (now : DateTime) :
    wp shopEngine rely (OrderService.cancel orderId user now) w held db
      fun _ w' _ _ => ∃ o, w'.Changed o .cancelled [] := by
  have hrelease : ∀ o, KeepsRecords (OrderService.releaseOnCancel o) := by
    intro o
    unfold OrderService.releaseOnCancel
    split
    · exact (within_forProducts o fun _ _ => within_release ..).keepsRecords (by decide)
    · exact keepsRecords_pure ()
  have hauthorize : ∀ o, KeepsRecords (OrderService.authorizeAccess o user) := by
    intro o
    unfold OrderService.authorizeAccess
    split
    · exact keepsRecords_raise _
    · exact keepsRecords_pure ()
  unfold OrderService.cancel
  rw [wp_bind]
  refine wp_mono (wp_getById h) fun o w₁ held₁ db₁ h₁ => ?_
  rw [wp_bind]
  refine wp_mono (wp_read (hauthorize o) h₁) fun _ w₂ held₂ db₂ h₂ => ?_
  rw [wp_bind]
  refine wp_mono (wp_read (hrelease o) h₂) fun _ w₃ held₃ db₃ h₃ => ?_
  exact wp_mono (wp_transition h₃ _ _ _) fun _ _ _ _ h₄ => ⟨o, h₄.2⟩

/-- `mark_paid` and `mark_payment_failed` move stock and change the status. -/
theorem wp_markPaid (h : w.Unchanged) (now : DateTime) :
    wp shopEngine rely (OrderService.markPaid orderId now) w held db
      fun _ w' _ _ => ∃ o, w'.Changed o .paid [] := by
  unfold OrderService.markPaid
  rw [wp_bind]
  refine wp_mono (wp_getById h) fun o w₁ held₁ db₁ h₁ => ?_
  rw [wp_bind]
  refine wp_mono (wp_read ((within_forProducts o fun _ _ =>
    within_commitPurchase ..).keepsRecords (by decide)) h₁) fun _ w₂ held₂ db₂ h₂ => ?_
  exact wp_mono (wp_transition h₂ _ _ _) fun _ _ _ _ h₃ => ⟨o, h₃.2⟩

theorem wp_markPaymentFailed (h : w.Unchanged) (now : DateTime) :
    wp shopEngine rely (OrderService.markPaymentFailed orderId now) w held db
      fun _ w' _ _ => ∃ o, w'.Changed o .paymentFailed [] := by
  unfold OrderService.markPaymentFailed
  rw [wp_bind]
  refine wp_mono (wp_getById h) fun o w₁ held₁ db₁ h₁ => ?_
  rw [wp_bind]
  refine wp_mono (wp_read ((within_forProducts o fun _ _ =>
    within_release ..).keepsRecords (by decide)) h₁) fun _ w₂ held₂ db₂ h₂ => ?_
  exact wp_mono (wp_transition h₂ _ _ _) fun _ _ _ _ h₃ => ⟨o, h₃.2⟩

/-- What a request other than a checkout has done to the records: nothing, or one
    transition, with one refund when it leads to `refunded`. -/
inductive Session.Moved (w : Session) : Prop where
  | unchanged (h : w.Unchanged)
  | changed (o : Order) (s : OrderStatus) (refunds : List WalletTransaction)
      (h : w.Changed o s refunds) (about : ∀ t ∈ refunds, t.referenceId = some o.id)
      (count : refunds.length = if s = .refunded then 1 else 0)

theorem Session.Changed.moved (h : w.Changed o s []) (hs : s ≠ .refunded) : w.Moved :=
  .changed o s [] h (fun _ ht => nomatch ht) (by simp [hs])

/-- An admin's status change, with the refund of the router. -/
theorem wp_updateOrderStatus (h : w.Unchanged) (subject : Uuid) (data : OrderStatusUpdateRequest)
    (now : DateTime) :
    wp shopEngine rely (updateOrderStatus subject orderId data now) w held db
      fun _ w' _ _ => w'.Moved := by
  unfold updateOrderStatus OrderService.adminUpdateStatus
  rw [wp_bind]
  refine wp_mono (wp_unchanged (KeepsBook.keepsRecords (keepsBook_authorized _ _)) h)
    fun user w₁ held₁ db₁ h₁ => ?_
  rw [wp_bind, wp_bind]
  refine wp_mono (wp_getById h₁) fun o w₂ held₂ db₂ h₂ => ?_
  refine wp_mono (wp_transition h₂ _ _ _) fun o' w₃ held₃ db₃ h₃ => ?_
  obtain ⟨rfl, h₃⟩ := h₃
  rw [wp_bind]
  unfold refundIfRefunded
  split
  · rename_i hs
    have hs' : data.newStatus = .refunded := hs
    rw [wp_bind]
    refine wp_mono (wp_refundOrder h₃ _ _ _) fun t w₄ _ _ ⟨_, hreference, h₄⟩ => ?_
    refine .changed o data.newStatus [t] h₄ ?_ (by simp [hs'])
    simpa using hreference
  · rename_i hs
    exact h₃.moved hs

/-- What `handle_callback` does with a payment it has claimed. -/
theorem wp_settle (h : w.Unchanged) (zarinpal : ZarinPalClient) (payment : Payment)
    (authority gatewayStatus : String) (now : DateTime) :
    wp shopEngine rely (PaymentService.settle zarinpal payment authority gatewayStatus now) w held db
      fun _ w' _ _ => w'.Moved := by
  have hfailed : ∀ {w : Session} {held : List RowKey} {db : Db} (answer : Payment), w.Unchanged →
      wp shopEngine rely (OrderService.markPaymentFailed payment.orderId now >>= fun _ => pure answer)
        w held db fun _ w' _ _ => w'.Moved := by
    intro w held db answer hw
    rw [wp_bind]
    exact wp_mono (wp_markPaymentFailed hw now) fun _ _ _ _ ⟨o, ho⟩ => ho.moved (by decide)
  unfold PaymentService.settle
  split
  · exact wp_write_bind.mpr fun db₁ _ =>
      hfailed _ (h.execIn (.write (.setPaymentStatus payment.id .failed)) rfl db)
  · split
    · trivial
    · rename_i result _
      split
      · refine wp_write_bind.mpr fun db₁ _ => wp_write_bind.mpr fun db₂ _ =>
          wp_write_bind.mpr fun db₃ _ => wp_write_bind.mpr fun db₄ _ => ?_
        have h₁ := h.execIn (.write (.setPaymentResponse payment.id result.rawResponse)) rfl db
        have h₂ := h₁.execIn (.write (.setPaymentStatus payment.id .verified)) rfl db
        have h₃ := h₂.execIn (.write (.setPaymentReference payment.id result.referenceId)) rfl db
        have h₄ := h₃.execIn (.write (.setPaymentVerifiedAt payment.id now)) rfl db
        rw [wp_bind]
        exact wp_mono (wp_markPaid h₄ now) fun _ _ _ _ ⟨o, ho⟩ => ho.moved (by decide)
      · refine wp_write_bind.mpr fun db₁ _ => wp_write_bind.mpr fun db₂ _ => ?_
        have h₁ := h.execIn (.write (.setPaymentResponse payment.id result.rawResponse)) rfl db
        exact hfailed _ (h₁.execIn (.write (.setPaymentStatus payment.id .failed)) rfl db)

/-- A callback settles the payment it claims, or changes nothing. -/
theorem wp_handleCallback (h : w.Unchanged) (zarinpal : ZarinPalClient)
    (authority gatewayStatus : String) (now : DateTime) :
    wp shopEngine rely (PaymentService.handleCallback zarinpal authority gatewayStatus now) w held db
      fun _ w' _ _ => w'.Moved := by
  unfold PaymentService.handleCallback
  refine wp_send_bind.mpr fun db₁ _ => wp_orRaise_bind.mpr fun payment _ => ?_
  have h₁ := h.execIn (.getPaymentByAuthority authority) rfl db
  generalize ((Stmt.getPaymentByAuthority authority).execIn w db).2 = w₁ at h₁
  refine wp_send_bind.mpr fun db₂ _ => ?_
  have h₂ := h₁.execIn (.claimPayment payment.id .initiated .pending) rfl db₁
  cases ((Stmt.claimPayment payment.id .initiated .pending).execIn w₁ db₁).1 with
  | false =>
    have h₃ := h₂.execIn (.refreshPayment payment.id) rfl db₂
    exact wp_send_bind.mpr fun _ _ => wp_orRaise.mpr fun _ _ => .unchanged h₃
  | true => exact wp_settle h₂ zarinpal payment authority gatewayStatus now

/-- A new order that is not finished yet. -/
def Session.Placed (w : Session) (orderId : Uuid) : Prop :=
  ∃ order : Order, order.id = orderId ∧
    w.Recorded fun r => ⟨r.orders.put order, r.statusHistory, r.refunds⟩

theorem Session.Placed.execIn (h : w.Placed orderId) (stmt : Stmt) (hstmt : stmt.keepsRecords)
    (db : Db) : (stmt.execIn w db).2.Placed orderId := by
  obtain ⟨order, hid, hrecorded⟩ := h
  exact ⟨order, hid, hrecorded.execIn hstmt db⟩

theorem Session.Placed.modify (h : w.Placed orderId) {x : Write} {g : Order → Order}
    (hx : ∀ db : Db, x.apply db = { db with orders := db.orders.modify orderId g })
    (hg : ∀ r, (g r).id = r.id) : (w.send x).Placed orderId := by
  obtain ⟨order, hid, hrecorded⟩ := h
  refine ⟨g order, (hg order).trans hid, fun db' => ?_⟩
  have happlied := hrecorded.apply x (fun r => ⟨r.orders.modify orderId g, r.statusHistory, r.refunds⟩)
    fun db' => by rw [hx]; rfl
  rw [happlied db']
  exact congrArg (fun t => (⟨t, _, _⟩ : Records)) (Table.modify_put db'.records.orders order hid (hg order))

theorem wp_placed {m : Tx α} (hm : KeepsRecords m) (h : w.Placed orderId) :
    wp shopEngine rely m w held db fun _ w' _ _ => w'.Placed orderId :=
  wp_of_uses (Session.Placed · orderId) (fun stmt hs _ db hw => Session.Placed.execIn hw stmt hs db)
    hm h held db

/-- One round of the loop of `checkout`. -/
theorem wp_checkoutItem_placed (h : w.Placed orderId) (userId : Uuid) (subtotal : Int)
    (cartItem : CartItem) :
    wp shopEngine rely (OrderService.checkoutItem orderId userId subtotal cartItem) w held db
      fun _ w' _ _ => w'.Placed orderId := by
  unfold OrderService.checkoutItem
  refine wp_send_bind.mpr fun db₁ _ => wp_orRaise_bind.mpr fun ⟨product, inventory⟩ _ => ?_
  have h₁ := h.execIn (.getProduct cartItem.productId) rfl db
  refine wp_if_raise.mpr fun _ => wp_write_bind.mpr fun db₂ _ => ?_
  rw [wp_bind]
  refine wp_mono (wp_placed ((within_reserve ..).keepsRecords (by decide)) (h₁.modify (fun _ => rfl) fun _ => rfl))
    fun _ w₂ _ _ h₂ => h₂

/-- A new order that awaits payment. -/
structure Session.Ordered (w : Session) (order : Order) (entry : OrderStatusHistory) : Prop where
  status : order.status = .awaitingPayment
  about : entry.orderId = order.id
  leaves : entry.fromStatus = some .pending
  enters : entry.toStatus = .awaitingPayment
  recorded : w.Recorded fun r => ⟨r.orders.put order, r.statusHistory ++ [entry], r.refunds⟩

theorem Session.Ordered.execIn {order : Order} {entry : OrderStatusHistory}
    (h : w.Ordered order entry) (stmt : Stmt) (hstmt : stmt.keepsRecords) (db : Db) :
    (stmt.execIn w db).2.Ordered order entry :=
  ⟨h.status, h.about, h.leaves, h.enters, h.recorded.execIn hstmt db⟩

theorem wp_finishCheckout_ordered {order : Order} (h : w.Placed order.id)
    (hpending : order.status = .pending) (subtotal : Int) (now : DateTime) :
    wp shopEngine rely (OrderService.finishCheckout order subtotal now) w held db
      fun _ w' _ _ => ∃ o entry, o.id = order.id ∧ w'.Ordered o entry := by
  unfold OrderService.finishCheckout OrderService.transition
  refine wp_write_bind.mpr fun db₁ _ => ?_
  rw [wp_bind]
  refine wp_if_raise.mpr fun _ => wp_write_bind.mpr fun db₂ _ => wp_write_bind.mpr fun db₃ _ => ?_
  rw [if_neg (by decide), Prog.pure_eq, wp_done]
  let entry : OrderStatusHistory :=
    ⟨order.id, some order.status, .awaitingPayment, some order.userId, none, now⟩
  obtain ⟨o, ho, hrecorded⟩ := h.modify (x := .setOrderAmounts order.id subtotal subtotal)
    (g := fun r => { r with subtotal, total := subtotal }) (fun _ => rfl) fun _ => rfl
  have hlogged := hrecorded.apply (.addStatusHistory entry)
    (fun r => ⟨r.orders, r.statusHistory ++ [entry], r.refunds⟩) fun _ => rfl
  have hset := hlogged.apply (.setOrderStatus order.id .awaitingPayment)
    (fun r => ⟨r.orders.modify order.id fun r => { r with status := .awaitingPayment },
      r.statusHistory, r.refunds⟩) fun _ => rfl
  let o' : Order := { o with status := .awaitingPayment }
  have hordered : (((w.send (.setOrderAmounts order.id subtotal subtotal)).send
      (.addStatusHistory entry)).send (.setOrderStatus order.id .awaitingPayment)).Ordered o' entry := by
    refine ⟨rfl, ho.symm, congrArg some hpending, rfl, fun db' => ?_⟩
    rw [hset db']
    exact congrArg (fun t => (⟨t, _, _⟩ : Records))
      (Table.modify_put db'.records.orders o ho rfl)
  have hrest : KeepsRecords (do
      CartRepository.clear order.userId
      flush
      orRaise .internal (← send (.getOrder order.id)) : Tx Order) :=
    ((within_clearCart _).keepsRecords (by decide)).bind fun _ => (keepsRecords_send rfl).bind fun _ =>
      (keepsRecords_send rfl).bind fun _ => keepsRecords_orRaise _ _
  exact wp_mono (wp_of_uses (Session.Ordered · o' entry)
    (fun stmt hs _ db hw => Session.Ordered.execIn hw stmt hs db) hrest hordered _ _)
    fun _ w' _ _ hw' => ⟨o', entry, ho, hw'⟩

end Programs

/-! ## Requests -/

/-- What the others leave alone: the orders whose rows are locked. -/
def OrdersLocked (held : List RowKey) (db db' : Db) : Prop :=
  ∀ id, RowKey.order id ∈ held → db'.orders.get id = db.orders.get id

/-- How a request ends: with one transition at most, or with a new order whose row it has
    locked. -/
inductive Session.Ends (w : Session) (held : List RowKey) (db : Db) : Prop where
  | moved (h : w.Moved)
  | ordered (order : Order) (entry : OrderStatusHistory) (h : w.Ordered order entry)
      (locked : RowKey.order order.id ∈ held) (fresh : db.orders.get order.id = none)

theorem wp_checkout_ends {w : Session} (h : w.Unchanged) (userId : Uuid)
    (shippingAddress : Option ShippingAddress) (orderId : Uuid) (now : DateTime)
    (held : List RowKey) (db : Db) :
    wp shopEngine OrdersLocked (OrderService.checkout userId shippingAddress orderId now) w held db
      fun _ w' held' db' => w'.Ends held' db' := by
  unfold OrderService.checkout
  rw [wp_bind]
  refine wp_mono (wp_unchanged ((within_getOrCreateCart userId).keepsRecords (by decide)) h)
    fun cartItems w₁ held₁ db₁ h₁ => ?_
  refine wp_if_raise.mpr fun _ => wp_insert_bind fun htaken db₂ hrely => ?_
  have hfresh : RowKey.order orderId ∈ RowKey.order orderId :: held₁ ∧
      db₂.orders.get orderId = none := by
    refine ⟨List.mem_cons_self, ?_⟩
    rw [hrely orderId List.mem_cons_self]
    have hview : (w₁.view db₁).orders = db₁.orders :=
      congrArg Records.orders (h₁.recorded db₁)
    rw [← hview]
    simpa [NewRow.taken] using htaken
  let order : Order :=
    { id := orderId, userId, status := .pending, subtotal := 0, total := 0, shippingAddress,
      cancelledAt := none, createdAt := now, items := [] }
  have hplaced : (w₁.send (.add (.order order))).Placed orderId :=
    ⟨order, rfl, h₁.recorded.apply _ (fun r => ⟨r.orders.put order, r.statusHistory, r.refunds⟩)
      fun _ => rfl⟩
  have hmemory : wp shopEngine OrdersLocked
      (cartItems.foldlM (OrderService.checkoutItem orderId userId) 0 >>= fun subtotal =>
        OrderService.finishCheckout order subtotal now)
      (w₁.send (.add (.order order))) (RowKey.order orderId :: held₁) db₂
      fun _ w' _ _ => ∃ o entry, o.id = orderId ∧ w'.Ordered o entry := by
    rw [wp_bind]
    refine wp_mono (wp_foldlM (fun _ _ w' _ _ => w'.Placed orderId)
      (fun cartItem _ subtotal w' _ _ hw' => wp_checkoutItem_placed hw' userId subtotal cartItem)
      cartItems 0 _ _ _ hplaced) fun subtotal w₂ _ _ h₂ => ?_
    exact wp_finishCheckout_ordered h₂ rfl subtotal now
  let fresh (held : List RowKey) (db : Db) : Prop :=
    RowKey.order orderId ∈ held ∧ db.orders.get orderId = none
  have hstable : ∀ held locks db db', fresh held db → OrdersLocked (locks ++ held) db db' →
      fresh (locks ++ held) db' := by
    intro held locks db db' h hrely
    have hlocked := List.mem_append_right locks h.1
    exact ⟨hlocked, (hrely orderId hlocked).trans h.2⟩
  refine wp_mono (wp_and_stable fresh hstable hmemory hfresh) ?_
  rintro _ w' held' db' ⟨⟨o, entry, ho, hordered⟩, hlocked, hnone⟩
  exact .ordered o entry hordered (ho ▸ hlocked) (ho ▸ hnone)

/-- Every request ends so. -/
theorem wp_handler (request : Request) (held : List RowKey) (db : Db) :
    wp shopEngine OrdersLocked request.handler shopEngine.start held db
      fun _ w' held' db' => w'.Ends held' db' := by
  have hmoved : ∀ {m : Tx Unit} {w : Session} {held : List RowKey} {db : Db},
      wp shopEngine OrdersLocked m w held db (fun _ w' _ _ => w'.Moved) →
      wp shopEngine OrdersLocked m w held db fun _ w' held' db' => w'.Ends held' db' :=
    fun h => wp_mono h fun _ _ _ _ hw => .moved hw
  have hcaller : ∀ subject, KeepsRecords (getCurrentUser subject) := fun subject =>
    KeepsBook.keepsRecords (keepsBook_getCurrentUser subject)
  have hstart := Session.unchanged_start
  by_cases hkeeps : request.KeepsOrders
  · exact hmoved (wp_mono (wp_unchanged (keepsRecords_handler hkeeps) hstart)
      fun _ _ _ _ hw => .unchanged hw)
  cases request with
  | checkout subject shippingAddress orderId now =>
    refine (wp_bind _ _ _ _ _ _).mpr ((wp_bind _ _ _ _ _ _).mpr ?_)
    refine wp_mono (wp_unchanged (hcaller subject) hstart) fun user w₁ held₁ db₁ h₁ => ?_
    exact wp_checkout_ends h₁ _ _ _ _ _ _
  | cancelOrder subject orderId now =>
    refine hmoved ((wp_bind _ _ _ _ _ _).mpr ((wp_bind _ _ _ _ _ _).mpr ?_))
    refine wp_mono (wp_unchanged (hcaller subject) hstart) fun user w₁ held₁ db₁ h₁ => ?_
    exact wp_mono (wp_cancel h₁ user now) fun _ _ _ _ ⟨o, ho⟩ => ho.moved (by decide)
  | updateOrderStatus subject orderId data now =>
    exact hmoved ((wp_bind _ _ _ _ _ _).mpr (wp_updateOrderStatus hstart subject data now))
  | paymentCallback zarinpal authority status now =>
    exact hmoved ((wp_bind _ _ _ _ _ _).mpr (wp_handleCallback hstart zarinpal authority status now))
  | _ => exact absurd trivial hkeeps

/-! ## The histories -/

/-- The rows of a status history can be arranged as one path of `ALLOWED_TRANSITIONS` that
    starts with `pending -> awaiting_payment` and ends in `status`. -/
def IsPath (rows : List OrderStatusHistory) (status : OrderStatus) : Prop :=
  ∃ placed rest, (placed :: rest).Perm rows ∧ placed.fromStatus = some .pending ∧
    placed.toStatus = .awaitingPayment ∧
    Trail OrderStatusHistory.fromStatus OrderStatusHistory.toStatus
      (fun s s' => s' ∈ allowedTransitions s) .awaitingPayment rest status

/-- Such a path enters `refunded` once at most. -/
theorem IsPath.countP_refunded {rows : List OrderStatusHistory} {status : OrderStatus}
    (h : IsPath rows status) :
    rows.countP (fun e => e.toStatus = .refunded) = if status = .refunded then 1 else 0 := by
  obtain ⟨placed, rest, hperm, -, hto, htrail⟩ := h
  rw [← hperm.countP_eq, List.countP_cons_of_neg (by simp [hto])]
  exact htrail.countP_terminal (fun s => by simp [allowedTransitions]) (by decide)

namespace Records

def historyOf (r : Records) (id : Uuid) : List OrderStatusHistory :=
  r.statusHistory.filter fun e => e.orderId = id

def refundsOf (r : Records) (id : Uuid) : List WalletTransaction :=
  r.refunds.filter fun t => t.referenceId = some id

@[simp] theorem historyOf_append (r : Records) (orders : Table Order.id)
    (entry : OrderStatusHistory) (refunds : List WalletTransaction) (id : Uuid) :
    historyOf ⟨orders, r.statusHistory ++ [entry], refunds⟩ id =
      if entry.orderId = id then r.historyOf id ++ [entry] else r.historyOf id := by
  by_cases h : entry.orderId = id <;> simp [historyOf, h]

end Records

/-- The records of one order agree: its history leads to its status, and it is refunded
    once when that is `refunded`. -/
def Agree (order : Option Order) (history : List OrderStatusHistory)
    (refunds : List WalletTransaction) : Prop :=
  match order with
  | none => history = [] ∧ refunds = []
  | some o => IsPath history o.status ∧ refunds.length = if o.status = .refunded then 1 else 0

theorem Agree.placed {history : List OrderStatusHistory} {refunds : List WalletTransaction}
    (h : Agree none history refunds) {order : Order} (hstatus : order.status = .awaitingPayment)
    {entry : OrderStatusHistory} (hleaves : entry.fromStatus = some .pending)
    (henters : entry.toStatus = .awaitingPayment) :
    Agree (some order) (history ++ [entry]) refunds := by
  obtain ⟨rfl, rfl⟩ := h
  refine ⟨⟨entry, [], .refl _, hleaves, henters, ?_⟩, by simp [hstatus]⟩
  rw [hstatus]
  exact .nil

theorem Agree.transition {o o' : Order} {history : List OrderStatusHistory}
    {refunds new : List WalletTransaction} (h : Agree (some o) history refunds)
    (hallowed : o'.status ∈ allowedTransitions o.status) {entry : OrderStatusHistory}
    (hleaves : entry.fromStatus = some o.status) (henters : entry.toStatus = o'.status)
    (hnew : new.length = if o'.status = .refunded then 1 else 0) :
    Agree (some o') (history ++ [entry]) (refunds ++ new) := by
  obtain ⟨⟨placed, rest, hperm, hfrom, hto, htrail⟩, hcount⟩ := h
  refine ⟨⟨placed, rest ++ [entry], hperm.append_right [entry], hfrom, hto, ?_⟩, ?_⟩
  · rw [← henters]
    exact htrail.snoc hleaves (henters ▸ hallowed)
  · have hopen : o.status ≠ .refunded := by
      intro hrefunded
      rw [hrefunded] at hallowed
      cases hallowed
    rw [if_neg hopen] at hcount
    rw [List.length_append, hcount, hnew, Nat.zero_add]

/-- The records of every order agree. -/
def Records.Sound (r : Records) : Prop :=
  ∀ id, Agree (r.orders.get id) (r.historyOf id) (r.refundsOf id)

/-- A transition from the status the order has. -/
theorem Records.Sound.changed {r : Records} (h : r.Sound) {o row : Order} {s : OrderStatus}
    (hrow : r.orders.get o.id = some row) (hstatus : row.status = o.status)
    (hallowed : s ∈ allowedTransitions o.status) {entry : OrderStatusHistory}
    (habout : entry.orderId = o.id) (hleaves : entry.fromStatus = some o.status)
    (henters : entry.toStatus = s) {f : Order → Order} (hf : ∀ r, (f r).id = r.id ∧ (f r).status = s)
    {refunds : List WalletTransaction} (hrefunds : ∀ t ∈ refunds, t.referenceId = some o.id)
    (hcount : refunds.length = if s = .refunded then 1 else 0) :
    Records.Sound ⟨r.orders.modify o.id f, r.statusHistory ++ [entry], r.refunds ++ refunds⟩ := by
  intro id
  have hget := Table.get_modify r.orders o.id f (fun r => (hf r).1) id
  have hrefundsOf : Records.refundsOf ⟨r.orders.modify o.id f, r.statusHistory ++ [entry],
      r.refunds ++ refunds⟩ id = r.refundsOf id ++ refunds.filter fun t => t.referenceId = some id :=
    List.filter_append ..
  rw [hget, hrefundsOf, Records.historyOf_append, habout]
  by_cases hid : id = o.id
  · subst hid
    have hall : (refunds.filter fun t => t.referenceId = some o.id) = refunds :=
      List.filter_eq_self.mpr fun t ht => by simpa using hrefunds t ht
    rw [if_pos rfl, if_pos rfl, hall, hrow, Option.map_some]
    have hagree := h o.id
    rw [hrow] at hagree
    refine hagree.transition ?_ (by rw [hleaves, hstatus]) ?_ ?_
    · rwa [(hf row).2, hstatus]
    · rw [henters, (hf row).2]
    · rw [(hf row).2, hcount]
  · have hnone : (refunds.filter fun t => t.referenceId = some id) = [] :=
      List.filter_eq_nil_iff.mpr fun t ht => by
        rw [hrefunds t ht]
        simpa using Ne.symm hid
    rw [if_neg hid, if_neg (Ne.symm hid), hnone, List.append_nil]
    exact h id

/-- A new order. -/
theorem Records.Sound.ordered {r : Records} (h : r.Sound) {order : Order}
    (hfresh : r.orders.get order.id = none) (hstatus : order.status = .awaitingPayment)
    {entry : OrderStatusHistory} (habout : entry.orderId = order.id)
    (hleaves : entry.fromStatus = some .pending) (henters : entry.toStatus = .awaitingPayment) :
    Records.Sound ⟨r.orders.put order, r.statusHistory ++ [entry], r.refunds⟩ := by
  intro id
  have hrefundsOf : Records.refundsOf ⟨r.orders.put order, r.statusHistory ++ [entry], r.refunds⟩ id =
      r.refundsOf id := rfl
  rw [Table.get_put, hrefundsOf, Records.historyOf_append, habout]
  by_cases hid : id = order.id
  · subst hid
    rw [if_pos rfl, if_pos rfl]
    have hagree := h order.id
    rw [hfresh] at hagree
    exact hagree.placed hstatus hleaves henters
  · rw [if_neg hid, if_neg (Ne.symm hid)]
    exact h id

/-- What a request commits keeps the records in agreement, when the status it has read is
    the current one. -/
theorem Session.Ends.sound {w : Session} {held : List RowKey} {db : Db} (h : w.Ends held db)
    (hcurrent : ∀ id ∈ w.pending.filterMap Write.statusRow, ∀ o ∈ w.loaded.orders.get id,
      (db.orders.get id).map Order.status = some o.status)
    (hsound : db.records.Sound) : (w.view db).records.Sound := by
  cases h with
  | moved hmoved =>
    cases hmoved with
    | unchanged h =>
      rw [h.recorded db]
      exact hsound
    | changed o s refunds h about count =>
      obtain ⟨entry, f, habout, hleaves, henters, hf, hrecorded⟩ := h.recorded
      obtain ⟨row, hrow, hstatus⟩ :=
        Option.map_eq_some_iff.mp (hcurrent o.id h.written o h.loaded)
      rw [hrecorded db]
      exact hsound.changed hrow hstatus h.allowed habout hleaves henters hf about count
  | ordered order entry h locked fresh =>
    rw [h.recorded db]
    exact hsound.ordered fresh h.status h.about h.leaves h.enters

/-- It changes only orders that it has locked. -/
theorem Session.Ends.ordersLocked {w : Session} {held : List RowKey} {db : Db} (h : w.Ends held db)
    {locks : List RowKey}
    (hlocks : ∀ l ∈ locks, l ∉ held ∧ l ∉ w.pending.filterMap Write.locks) :
    OrdersLocked locks db (w.view db) := by
  intro id hid
  have horders : (w.view db).orders = (w.view db).records.orders := rfl
  cases h with
  | moved hmoved =>
    cases hmoved with
    | unchanged h =>
      rw [horders, h.recorded db]
      rfl
    | changed o s refunds h about count =>
      obtain ⟨entry, f, -, -, -, hf, hrecorded⟩ := h.recorded
      have hne : id ≠ o.id := by
        rintro rfl
        obtain ⟨x, hx, hrow⟩ := List.mem_filterMap.mp h.written
        refine (hlocks _ hid).2 (List.mem_filterMap.mpr ⟨x, hx, ?_⟩)
        cases x <;> simp_all [Write.statusRow, Write.locks]
      rw [horders, hrecorded db]
      exact (Table.get_modify db.orders o.id f (fun r => (hf r).1) id).trans (if_neg hne)
  | ordered order entry h locked fresh =>
    have hne : id ≠ order.id := by
      rintro rfl
      exact (hlocks _ hid).1 locked
    rw [horders, h.recorded db]
    exact Table.get_put_of_ne db.orders hne

/-! ## Interleavings -/

section Concurrent

variable {ι : Type}

/-- The requests arrive. -/
def startRequests (db : Db) (requests : ι → Request) :
    Config shop ShopError Unit Db Session RowKey ι where
  db := db
  clients i := .running (requests i).handler shopEngine.start []

/-- No commit changes the status of an order that has another one than the transaction has
    read. -/
def MovesCurrentStatus (c : Config shop ShopError Unit Db Session RowKey ι) : Event ι → Prop
  | .turn i =>
    match c.clients i with
    | .running (.done _) w _ => ∀ id ∈ w.pending.filterMap Write.statusRow,
        ∀ o ∈ w.loaded.orders.get id, (c.db.orders.get id).map Order.status = some o.status
    | _ => True
  | .kill _ => True

instance (c : Config shop ShopError Unit Db Session RowKey ι) :
    (ev : Event ι) → Decidable (MovesCurrentStatus c ev)
  | .turn i => by
    simp only [MovesCurrentStatus]
    rcases c.clients i with ⟨_ | _ | _, _, _⟩ | _ | _ <;> infer_instance
  | .kill _ => isTrue trivial

variable [DecidableEq ι]

/-- The outline of the requests. -/
def requestOutline :
    Outline shopEngine (MovesCurrentStatus : Config shop ShopError Unit Db Session RowKey ι → _) where
  rely _ := OrdersLocked
  post _ _ w held db := w.Ends held db
  inv db _ := db.records.Sound
  rely_refl _ _ _ _ _ := rfl
  rely_trans _ _ _ _ _ h₁ h₂ id hid := (h₂ id hid).trans (h₁ id hid)
  post_stable := by
    intro i a w held db db' hpost hrely
    cases hpost with
    | moved h => exact .moved h
    | ordered order entry h locked fresh =>
      exact .ordered order entry h locked ((hrely _ locked).trans fresh)
  commit_ok := by
    intro c i a w held db hi hcond hinv hpost hcommit
    obtain ⟨-, rfl⟩ := shopEngine_commit_ok.mp hcommit
    refine ⟨hpost.sound ?_ hinv, fun j _ locks hlocks => hpost.ordersLocked hlocks⟩
    simpa only [MovesCurrentStatus, hi] using hcond

variable [Fintype ι] {db₀ : Db} {requests : ι → Request}
  {c : Config shop ShopError Unit Db Session RowKey ι}

/-- Any requests, interleaved in any way from a state without orders, of which none commits
    a transition from a status that the order has no longer: the history of every order is
    one path to its status, and no order is refunded twice. -/
theorem histories_are_paths (h₀ : NoOrders db₀)
    (hreach : Reach shopEngine MovesCurrentStatus (startRequests db₀ requests) c) :
    ∀ o ∈ c.db.orders.rows,
      IsPath (c.db.statusHistory.filter fun e => e.orderId = o.id) o.status ∧
      (c.db.walletTransactions.filter fun t =>
        t.type = .refund ∧ t.referenceId = some o.id).length ≤ 1 := by
  have hstart : db₀.records.Sound := by
    intro id
    have hrows : db₀.orders.get id = none := by
      simp [Table.get, h₀.orders]
    have hrefunds : db₀.records.refunds = [] :=
      List.filter_eq_nil_iff.mpr fun t ht => by simpa using h₀.refunds t ht
    have hhistory : db₀.records.statusHistory = [] := h₀.statusHistory
    change Agree (db₀.orders.get id) (db₀.records.historyOf id) (db₀.records.refundsOf id)
    rw [hrows]
    simp [Agree, Records.historyOf, Records.refundsOf, hhistory, hrefunds]
  have hsound : c.db.records.Sound :=
    (requestOutline.sound (requestOutline.good_start db₀ _ hstart fun i db _ =>
      wp_handler (requests i) [] db) hreach).inv
  intro o ho
  have hagree := hsound o.id
  have hget : c.db.records.orders.get o.id = some o := Table.get_of_mem ho
  rw [hget] at hagree
  refine ⟨hagree.1, ?_⟩
  have hrefunds : (c.db.walletTransactions.filter fun t =>
      t.type = .refund ∧ t.referenceId = some o.id) = c.db.records.refundsOf o.id := by
    simp [Records.refundsOf, Db.records, List.filter_filter, Bool.and_comm]
  rw [hrefunds, hagree.2]
  split <;> decide

end Concurrent

/-- An order is paid; then the admin refunds it, twice. -/
def refundTwice (i : Fin 6) : Request :=
  (buyTwo 1 100 ++ payWith "A" "OK" true 1 100 200 ++
    [setStatus 100 .refunded, setStatus 100 .refunded]).get i

/-- The order is paid for, one request after another. -/
def payFirst : List (Event (Fin 6)) :=
  List.replicate 10 (.turn 0) ++ List.replicate 16 (.turn 1) ++ List.replicate 5 (.turn 2) ++
    List.replicate 14 (.turn 3)

/-- The second refund finds the order refunded, and is aborted. -/
theorem histories_are_paths_smallShop : ∃ c,
    Reach shopEngine MovesCurrentStatus (startRequests smallShop.db refundTwice) c ∧
    (∃ o ∈ c.db.orders.rows, o.status = .refunded) ∧
    ∀ o ∈ c.db.orders.rows,
      IsPath (c.db.statusHistory.filter fun e => e.orderId = o.id) o.status ∧
      (c.db.walletTransactions.filter fun t =>
        t.type = .refund ∧ t.referenceId = some o.id).length ≤ 1 := by
  have hschedule : ∃ c, Reach shopEngine MovesCurrentStatus
      (startRequests smallShop.db refundTwice) c ∧ ∃ o ∈ c.db.orders.rows, o.status = .refunded :=
    Reach.exists_of_execAll (payFirst ++ List.replicate 12 (.turn 4) ++
      List.replicate 3 (.turn 5)) (by decide +kernel)
  obtain ⟨c, hreach, hrefunded⟩ := hschedule
  exact ⟨c, hreach, hrefunded, histories_are_paths smallShop_noOrders hreach⟩

/-- Both refunds read the order while it is paid: it is refunded twice. -/
theorem histories_are_paths_fails : NoOrders smallShop.db ∧ ∃ c,
    Reach shopEngine anyEvent (startRequests smallShop.db refundTwice) c ∧
    ∃ o ∈ c.db.orders.rows,
      ¬ IsPath (c.db.statusHistory.filter fun e => e.orderId = o.id) o.status ∧
      1 < (c.db.walletTransactions.filter fun t =>
        t.type = .refund ∧ t.referenceId = some o.id).length := by
  have hschedule : ∃ c, Reach shopEngine anyEvent (startRequests smallShop.db refundTwice) c ∧
      ∃ o ∈ c.db.orders.rows,
        1 < (c.db.statusHistory.filter fun e => e.orderId = o.id).countP
          (fun e => e.toStatus = .refunded) ∧
        1 < (c.db.walletTransactions.filter fun t =>
          t.type = .refund ∧ t.referenceId = some o.id).length :=
    Reach.exists_of_execAll (payFirst ++ List.replicate 2 (.turn 4) ++
      List.replicate 2 (.turn 5) ++ List.replicate 10 (.turn 4) ++ List.replicate 8 (.turn 5))
      (by decide +kernel)
  obtain ⟨c, hreach, o, ho, hcount, hrefunds⟩ := hschedule
  refine ⟨smallShop_noOrders, c, hreach, o, ho, fun hpath => ?_, hrefunds⟩
  rw [hpath.countP_refunded] at hcount
  split at hcount <;> omega

end ElectronicShop
