import ElectronicShop.Execution.LockOrder
import ElectronicShop.Shop.Replays

/-!
# Where the shop can deadlock

The slots of the key table come before all rows in the order of the locks. A guarded request
takes its slot while it holds nothing, and the services climb from there. So when nobody can go
on, somebody who has locked stock waits for another one.
-/

namespace ElectronicShop

open Txn

/-! ## Guarded requests -/

namespace GuardLock

/-- The slots of the keys come before all rows. -/
def rank : GuardLock → Nat
  | .inl l => l.rank
  | .inr _ => 0

/-- The row of some stock is locked. -/
def HoldsStock (held : List GuardLock) : Prop := ∃ p, Sum.inl (RowKey.inventory p) ∈ held

/-- `climbing`, with the slots of the keys. -/
def climbing (need held : List GuardLock) : Prop :=
  ∀ l ∈ need, l ∈ held ∨ (∀ m ∈ held, rank m < rank l) ∨ HoldsStock held ∧ 1 < rank l

/-- The rows among the locks. -/
def rows (held : List GuardLock) : List RowKey := held.filterMap Sum.getLeft?

theorem mem_rows {held : List GuardLock} {l : RowKey} : l ∈ rows held ↔ Sum.inl l ∈ held := by
  simp [rows]

theorem rows_append (need : List RowKey) (held : List GuardLock) :
    rows (need.map .inl ++ held) = need ++ rows held := by
  simp [rows, List.filterMap_append, List.filterMap_map, Function.comp_def]

/-- Rows are asked for as in the shop without keys. -/
theorem climbing_rows {need : List RowKey} {held : List GuardLock}
    (h : ElectronicShop.climbing need (rows held)) : climbing (need.map .inl) held := by
  intro l hl
  obtain ⟨row, hrow, rfl⟩ := List.mem_map.mp hl
  rcases h row hrow with hown | habove | ⟨⟨p, hp⟩, hrank⟩
  · exact Or.inl (mem_rows.mp hown)
  · refine Or.inr (Or.inl fun m hm => ?_)
    cases m with
    | inl m => exact habove m (mem_rows.mpr hm)
    | inr slot => exact row.rank_pos
  · exact Or.inr (Or.inr ⟨⟨p, mem_rows.mp hp⟩, hrank⟩)

theorem climbing_nil (held : List GuardLock) : climbing [] held :=
  fun _ hl => absurd hl List.not_mem_nil

end GuardLock

/-- No cart of the guarded shop is ever deleted. -/
def guardedCartsStay (db db' : GuardedDb) : Prop := cartsStay db.db db'.db

theorem guardEngine_commit_shop {w : GuardSession} {db db' : GuardedDb}
    (h : guardEngine.commit w db = .ok db') : shopEngine.commit w.shop db.db = .ok db'.db := by
  simp only [guardEngine] at h
  split at h
  · cases hshop : shopEngine.commit w.shop db.db with
    | error e =>
      rw [hshop] at h
      cases h
    | ok db₁ =>
      rw [hshop] at h
      cases h
      rfl
  · cases h

theorem grows_guardedCartsStay : Grows guardEngine guardedCartsStay where
  refl db := grows_cartsStay.refl db.db
  trans _ _ _ := grows_cartsStay.trans _ _ _
  commit _ _ _ h := grows_cartsStay.commit _ _ _ (guardEngine_commit_shop h)

/-- The slot of the key that a session has inserted is locked. -/
def GuardSession.SlotLocked (w : GuardSession) (held : List GuardLock) : Prop :=
  ∀ record ∈ w.record, Sum.inr record.slot ∈ held

/-- A session that can be committed. -/
theorem GuardSession.climbing_commit {w : GuardSession} {held : List GuardLock}
    (hrows : climbing w.shop.locks (GuardLock.rows held)) (hslot : w.SlotLocked held) :
    GuardLock.climbing (guardEngine.needCommit w) held := by
  intro l hl
  rcases List.mem_append.mp hl with hrow | hkey
  · exact GuardLock.climbing_rows hrows l hrow
  · obtain ⟨record, hrecord, rfl⟩ := List.mem_map.mp hkey
    exact Or.inl (hslot record (Option.mem_toList.mp hrecord))

section Programs

variable {α β : Type} {w : GuardSession} {held : List GuardLock} {db : GuardedDb}

/-- A program of the services. -/
theorem orderly_inShop {m : Tx α} {post : α → Session → List RowKey → Prop}
    (h : orderly shopEngine cartsStay climbing m w.shop (GuardLock.rows held) db.db
      fun a w' held' _ => post a w' held') :
    orderly guardEngine guardedCartsStay GuardLock.climbing (inShop m) w held db
      fun a w' held' _ => post a w'.shop (GuardLock.rows held') ∧ w'.record = w.record ∧
        ∀ slot, Sum.inr slot ∈ held' ↔ Sum.inr slot ∈ held := by
  induction m generalizing w held db with
  | done a => exact ⟨h, rfl, fun _ => Iff.rfl⟩
  | raise e => trivial
  | step s next ih =>
    intro db' hdb'
    obtain ⟨hclimbing, hnext⟩ := h db'.db hdb'
    have hrows : orderly shopEngine cartsStay climbing (next (s.execIn w.shop db'.db).1)
        (s.execIn w.shop db'.db).2 (GuardLock.rows ((s.needs w.shop db'.db).map .inl ++ held))
        db'.db fun a w' held' _ => post a w' held' := by
      rw [GuardLock.rows_append]
      exact hnext
    refine ⟨GuardLock.climbing_rows hclimbing, orderly_mono (ih _ hrows) ?_⟩
    rintro a w' held' db'' ⟨hpost, hrecord, hslots⟩
    refine ⟨hpost, hrecord, fun slot => (hslots slot).trans ?_⟩
    change Sum.inr slot ∈ (s.needs w.shop db'.db).map .inl ++ held ↔ _
    simp

/-- The caller is read. -/
theorem orderly_caller (endpoint : Endpoint) (subject : Uuid) {w : Session} {held : List RowKey}
    {db : Db} (h : Tidy 0 [] w held) :
    orderly shopEngine cartsStay climbing (endpoint.caller subject) w held db
      fun _ w' held' _ => Tidy 0 [] w' held' := by
  unfold Endpoint.caller
  split
  · exact orderly_getCurrentUser h
  · exact orderly_authorized h

/-- What an endpoint does for its caller. -/
theorem orderly_operation {http : Http} {draws : Draws} {endpoint : Endpoint} {json : http.Json}
    {operation : User → Tx ResponseBody}
    (hoperation : endpoint.handler http draws json = some operation) (user : User) {w : Session}
    {held : List RowKey} {db : Db} (h : Tidy 0 [] w held) :
    orderly shopEngine cartsStay climbing (operation user) w held db
      fun _ w' held' _ => climbing w'.locks held' := by
  cases endpoint with
  | addCartItem =>
    obtain ⟨data, -, rfl⟩ := Option.map_eq_some_iff.mp hoperation
    refine (orderly_bind ..).mpr (orderly_mono (orderly_addItem h) fun _ _ _ _ h' => ?_)
    refine (orderly_bind ..).mpr (orderly_mono (orderly_getSummary h') fun _ _ _ _ h'' => ?_)
    exact h''.climbing
  | checkout =>
    obtain ⟨shippingAddress, -, rfl⟩ := Option.map_eq_some_iff.mp hoperation
    exact (orderly_bind ..).mpr (orderly_climbing (orderly_checkout _ _ _ _ h))
  | initPayment =>
    obtain ⟨orderId, -, rfl⟩ := Option.map_eq_some_iff.mp hoperation
    exact (orderly_bind ..).mpr (orderly_initPayment _ _ _ _ _ h)
  | depositToWallet =>
    obtain ⟨data, -, rfl⟩ := Option.map_eq_some_iff.mp hoperation
    exact (orderly_bind ..).mpr (orderly_apply _ _ _ _ _ _ _ (h.inWallet _))
  | adminCreditWallet userId =>
    obtain ⟨data, -, rfl⟩ := Option.map_eq_some_iff.mp hoperation
    exact (orderly_bind ..).mpr (orderly_apply _ _ _ _ _ _ _ (h.inWallet _))
  | adminDebitWallet userId =>
    obtain ⟨data, -, rfl⟩ := Option.map_eq_some_iff.mp hoperation
    exact (orderly_bind ..).mpr (orderly_apply _ _ _ _ _ _ _ (h.inWallet _))

/-- A slot that is taken is answered with an error. -/
theorem orderly_answerTaken {post : Unit → GuardSession → List GuardLock → GuardedDb → Prop}
    (requestHash : String) (existing : Option IdempotencyKey) :
    orderly guardEngine guardedCartsStay GuardLock.climbing (answerTaken requestHash existing) w
      held db post := by
  cases existing <;> trivial

/-- The guard takes its slot when nothing is locked yet. -/
theorem orderly_idempotencyGuard (operation : String) (userId : Uuid)
    (idempotencyKey : Option String) (requestHash : String) (h : Tidy 0 [] w.shop []) :
    orderly guardEngine guardedCartsStay GuardLock.climbing
      (idempotencyGuard operation userId idempotencyKey requestHash) w [] db
      fun _ w' held' _ => Tidy 0 [] w'.shop (GuardLock.rows held') ∧ w'.SlotLocked held' := by
  unfold idempotencyGuard
  cases idempotencyKey with
  | none => trivial
  | some key =>
    refine orderly_if_raise fun _ db' _ =>
      ⟨fun l _ => Or.inr (Or.inl fun m hm => absurd hm List.not_mem_nil), ?_⟩
    let record := pendingKey operation userId key requestHash
    by_cases hfits : record.fits
    · cases hrow : (w.keys db').get record.slot with
      | some existing =>
        have htaken : ((w.keys db').get record.slot).isSome := by rw [hrow]; rfl
        have hexec : guardEngine.exec (.insertKey record) w db' = (.taken, w) :=
          (if_neg (not_not_intro hfits)).trans (if_pos htaken)
        rw [hexec]
        intro db₁ _
        refine ⟨GuardLock.climbing_nil _, fun db₂ _ => ⟨GuardLock.climbing_nil _, ?_⟩⟩
        exact orderly_answerTaken _ _
      | none =>
        have hfree : ((w.keys db').get record.slot).isNone := by rw [hrow]; rfl
        have hexec : guardEngine.exec (.insertKey record) w db' =
            (.inserted, { w with record := some record }) :=
          (if_neg (not_not_intro hfits)).trans (if_neg (Option.not_isSome_iff_eq_none.mpr hrow))
        have hneed : guardEngine.need (.insertKey record) w db' = [.inr record.slot] :=
          if_pos ⟨hfits, hfree⟩
        rw [hexec, hneed]
        refine ⟨h, fun record' hrecord => ?_⟩
        cases hrecord
        exact List.mem_singleton_self _
    · have hexec : guardEngine.exec (.insertKey record) w db' = (.refused, w) := if_pos hfits
      rw [hexec]
      trivial

theorem orderly_guarded (http : Http) (r : GuardedRequest) (db : GuardedDb) :
    orderly guardEngine guardedCartsStay GuardLock.climbing (r.program http) guardEngine.start []
      db fun _ w' held' _ => GuardLock.climbing (guardEngine.needCommit w') held' := by
  unfold GuardedRequest.program
  cases http.json r.contentType r.body with
  | error e => trivial
  | ok json =>
    refine (orderly_bind ..).mpr (orderly_mono (orderly_inShop (orderly_caller _ _ tidy_start)) ?_)
    rintro user w₁ held₁ db₁ ⟨htidy, -, hslots⟩
    have hfree : held₁ = [] := by
      refine List.eq_nil_iff_forall_not_mem.mpr fun l hl => ?_
      cases l with
      | inl l =>
        exact absurd (htidy.ranks l (GuardLock.mem_rows.mpr hl)) (Nat.not_le_of_lt l.rank_pos)
      | inr slot => exact absurd ((hslots slot).mp hl) List.not_mem_nil
    subst hfree
    refine (orderly_bind ..).mpr (orderly_mono (orderly_idempotencyGuard _ _ _ _ htidy) ?_)
    rintro - w₂ held₂ db₂ ⟨htidy₂, hslot₂⟩
    unfold GuardedRequest.operate
    cases hhandler : r.handler http with
    | none => trivial
    | some operation =>
      have hoperation : ∃ json, r.endpoint.handler http r.draws json = some operation := by
        unfold GuardedRequest.handler at hhandler
        split at hhandler
        · exact ⟨_, hhandler⟩
        · cases hhandler
      obtain ⟨json, hjson⟩ := hoperation
      refine (orderly_bind ..).mpr
        (orderly_mono (orderly_inShop (orderly_operation hjson user htidy₂)) ?_)
      rintro body w₃ held₃ db₃ ⟨hclimbing, hrecord, hslots₃⟩ db₄ -
      refine ⟨GuardLock.climbing_nil _, GuardSession.climbing_commit hclimbing ?_⟩
      intro record hfinished
      obtain ⟨record', hrecord', rfl⟩ := Option.map_eq_some_iff.mp hfinished
      exact (hslots₃ _).mpr (hslot₂ record' (hrecord ▸ hrecord'))

/-- Every request climbs. -/
theorem orderly_shopRequest (http : Http) (request : ShopRequest) (db : GuardedDb) :
    orderly guardEngine guardedCartsStay GuardLock.climbing (request.program http)
      guardEngine.start [] db
      fun _ w' held' _ => GuardLock.climbing (guardEngine.needCommit w') held' := by
  cases request with
  | guarded r => exact (orderly_bind ..).mpr (orderly_guarded http r db)
  | unguarded r _ =>
    refine (orderly_bind ..).mpr
      (orderly_mono (orderly_inShop (orderly_request r db.db)) ?_)
    rintro - w' held' db' ⟨hclimbing, hrecord, -⟩
    refine GuardSession.climbing_commit hclimbing fun record hsome => ?_
    rw [hrecord] at hsome
    cases hsome

end Programs

/-! ## Deadlocks -/

section Runs

variable {ι : Type} [DecidableEq ι] [Fintype ι] {http : Http} {requests : ι → ShopRequest}
  {start : GuardedDb}
  {c : Config guardedShop GuardError (Option Response) GuardedDb GuardSession GuardLock ι}

/-- In every interleaving of requests of all kinds, as long as one has not ended, some request
    can go on, or one that has locked stock waits for another one: for stock, a cart line or an
    order, and never for a wallet, a payment, a product, a cart or a key. -/
theorem deadlocks_hold_stock
    (h : Reach guardEngine anyEvent (Replays.initial http requests start) c)
    (hrunning : ∃ i, (c.clients i).IsRunning) :
    (∃ i, (c.exec guardEngine (.turn i)).isSome) ∨
    ∃ i j l, i ≠ j ∧ GuardLock.HoldsStock (c.clients i).held ∧ 1 < l.rank ∧
      l ∈ (c.clients i).needs guardEngine c.db ∧ l ∈ (c.clients j).held := by
  have hexclusive : c.Exclusive :=
    Config.Exclusive.reach (fun _ _ _ _ hl => absurd hl List.not_mem_nil) h
  have horderly : c.Orderly guardEngine guardedCartsStay GuardLock.climbing := by
    refine Config.Orderly.reach grows_guardedCartsStay (fun i p w held hi => ?_) h
    cases hi
    exact orderly_shopRequest http (requests i) start
  refine (Config.exists_turn_or_disordered GuardLock.rank hrunning).imp_right ?_
  rintro ⟨i, j, l, m, hij, hneeds, hheld, hm, hrank⟩
  rcases horderly.needs grows_guardedCartsStay GuardLock.climbing_nil i l hneeds with
    hown | habove | ⟨hstock, hl⟩
  · exact absurd hheld (hexclusive i j hij l hown)
  · exact absurd (habove m hm) (not_lt_of_ge hrank)
  · exact ⟨i, j, l, hij, hstock, hl, hneeds, hheld⟩

end Runs

/-- An order of one piece each of two products. -/
def orderOfBoth (orderId userId first second : Uuid) : Order :=
  { id := orderId, userId, status := .awaitingPayment, subtotal := 12, total := 12,
    shippingAddress := none, cancelledAt := none, createdAt := 0
    items := [⟨some first, "", "", 5, 1, 5⟩, ⟨some second, "", "", 7, 1, 7⟩] }

/-- Two orders of the same products, in opposite orders. -/
def crossedOrders : GuardedDb :=
  ⟨{ smallShop.db with
      inventory := ⟨[⟨10, 10, 2⟩, ⟨11, 5, 2⟩], by simp⟩
      orders := ⟨[orderOfBoth 100 1 10 11, orderOfBoth 200 2 11 10], by simp [orderOfBoth]⟩ }, ∅⟩

/-- Both customers cancel their order. -/
def cancelBoth : Fin 2 → ShopRequest
  | 0 => .unguarded (.cancelOrder 1 100 0) rfl
  | 1 => .unguarded (.cancelOrder 2 200 0) rfl

/-- Each waits for the stock that the other one has locked. -/
theorem deadlocks_hold_stock_crossed :
    ∃ c, Reach guardEngine anyEvent (Replays.initial smallHttp cancelBoth crossedOrders) c ∧
      (∀ i, (c.exec guardEngine (.turn i)).isSome = false) ∧
      ((∃ i, (c.exec guardEngine (.turn i)).isSome) ∨
        ∃ i j l, i ≠ j ∧ GuardLock.HoldsStock (c.clients i).held ∧ 1 < l.rank ∧
          l ∈ (c.clients i).needs guardEngine c.db ∧ l ∈ (c.clients j).held) := by
  have hrun : ∃ c,
      Reach guardEngine anyEvent (Replays.initial smallHttp cancelBoth crossedOrders) c ∧
      ((c.clients 0).held.head? = some (.inl (.inventory 10)) ∧
        ∀ i, (c.exec guardEngine (.turn i)).isSome = false) :=
    Reach.exists_of_execAll (List.replicate 5 (.turn 0) ++ List.replicate 5 (.turn 1))
      (by decide +kernel)
  obtain ⟨c, hreach, hhead, hstuck⟩ := hrun
  have hheld : Sum.inl (RowKey.inventory 10) ∈ (c.clients 0).held := List.mem_of_head? hhead
  exact ⟨c, hreach, hstuck, deadlocks_hold_stock hreach ⟨0, Client.isRunning_of_mem_held hheld⟩⟩

end ElectronicShop
