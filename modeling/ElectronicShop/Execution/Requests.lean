import ElectronicShop.Execution.Catalog
import ElectronicShop.Execution.Payments
import ElectronicShop.Execution.Wallet
import ElectronicShop.Model.Api
import ElectronicShop.Txn.Serial

/-!
# Requests that run alone

A request is served exactly when its handler succeeds and the constraints hold
of what it leaves.
-/

namespace ElectronicShop

open Txn

variable {db db' : Db}

theorem Db.run_discard_ok {α : Type} {m : Tx α} {u : Unit} :
    db.run (discard m) = .ok (u, db') ↔ ∃ a, db.run m = .ok (a, db') :=
  Db.run_bind_pure_ok.trans (and_iff_right rfl)

theorem run_getCurrentUser_bind_ok {β : Type} {subject : Uuid} {f : User → Tx β} {b : β} :
    db.run (getCurrentUser subject >>= f) = .ok (b, db') ↔
      ∃ user, db.users.get subject = some user ∧ user.isActive = true ∧
        db.run (f user) = .ok (b, db') := by
  have hcheck : ∀ user : User, ∀ e : ShopError,
      db.run ((if user.isActive = false then .raise e else pure user) >>= f) = .ok (b, db') ↔
        user.isActive = true ∧ db.run (f user) = .ok (b, db') := by
    intro user e
    cases user.isActive <;> simp
  unfold getCurrentUser
  simp only [bind_assoc]
  rw [Db.run_send_bind]
  refine Db.run_orRaise_bind_ok.trans (exists_congr fun user => and_congr_right fun _ => ?_)
  exact hcheck user _

theorem run_authorized_bind_ok {β : Type} {subject : Uuid} {permission : Permission}
    {f : User → Tx β} {b : β} :
    db.run (authorized subject permission >>= f) = .ok (b, db') ↔
      ∃ user, db.users.get subject = some user ∧ user.isActive = true ∧
        roleHasPermission user.role permission = true ∧ db.run (f user) = .ok (b, db') := by
  unfold authorized
  simp only [bind_assoc, pure_bind, run_getCurrentUser_bind_ok]
  refine exists_congr fun user => and_congr_right fun _ => and_congr_right fun _ => ?_
  unfold requirePermission
  cases roleHasPermission user.role permission <;> simp

theorem Store.transact_ok {α : Type} {m : Tx α} {store store' : Store} {a : α} :
    store.transact m = .ok (a, store') ↔ store.db.run m = .ok (a, store'.db) := by
  unfold Store.transact
  cases hrun : store.db.run m with
  | error e => simp [Store.commit]
  | ok r =>
    obtain ⟨b, db⟩ := r
    by_cases hvalid : db.Constraints
    · simp only [Store.commit, hvalid, dif_pos, Except.ok.injEq, Prod.mk.injEq]
      refine and_congr_right fun _ => ?_
      constructor
      · rintro rfl
        rfl
      · rintro rfl
        rfl
    · simp only [Store.commit, hvalid, dif_neg, not_false_eq_true, reduceCtorEq, Except.ok.injEq,
        Prod.mk.injEq, false_iff, not_and]
      rintro - rfl
      exact hvalid store'.valid

/-- A transaction fails by an error of its program, or its commit is refused. -/
theorem Store.transact_error {α : Type} {m : Tx α} {store : Store} {e : ShopError} :
    store.transact m = .error e ↔ store.db.run m = .error e ∨
      e = .database ∧ ∃ a db', store.db.run m = .ok (a, db') ∧ ¬ db'.Constraints := by
  unfold Store.transact
  cases hrun : store.db.run m with
  | error e' => simp [Store.commit]
  | ok r =>
    obtain ⟨a, db'⟩ := r
    by_cases hvalid : db'.Constraints
    · simp [Store.commit, hvalid]
    · simp [Store.commit, hvalid, eq_comm]

theorem serve_ok {request : Request} {store store' : Store} :
    serve request store = .ok store' ↔ store.db.run request.handler = .ok ((), store'.db) := by
  rw [← Store.transact_ok]
  unfold serve
  cases htransact : store.transact request.handler with
  | error e => simp [Except.map]
  | ok r => simp [Except.map, Prod.ext_iff]

/-- `ConflictError` or `NotFoundError`. -/
def ShopError.IsRefusal : ShopError → Prop
  | .conflict _ => True
  | .notFound _ => True
  | _ => False

/-- The error that a run ends with, without its answer. -/
theorem eq_error_of_map {α : Type} {outcome : Except ShopError α} {e : ShopError}
    (h : outcome.map (fun _ => ()) = .error e) : outcome = .error e := by
  cases outcome with
  | ok a => cases h
  | error e' =>
    cases h
    rfl

/-! ## A small shop

Two customers, 1 and 2, an admin, 3, and ten pieces of the product 10: the start
of the runs that the counterexamples and examples of the later modules take. -/

def smallShop : Store where
  db := { Db.empty with
    users := ⟨[⟨1, .customer, true⟩, ⟨2, .customer, true⟩, ⟨3, .admin, true⟩], by decide⟩
    categories := ⟨[⟨20, none, "phones", "phones", true, 0⟩], by decide⟩
    products := ⟨[⟨10, "phone", "phone", "phone", "", "", 5, none, "", 20, some [], some [], true,
      false, false⟩], by decide⟩
    inventory := ⟨[⟨10, 10, 0⟩], by decide⟩ }
  valid := by decide +kernel

/-- A second product for the small shop, with five pieces. -/
def newTablet : ProductCreate where
  sku := "tablet"
  name := "tablet"
  slug := "tablet"
  shortDescription := ""
  description := ""
  price := 7
  discountPrice := none
  brand := ""
  categoryId := 20
  images := []
  specifications := []
  isActive := true
  isFeatured := false
  isPopular := false
  initialStock := 5
  skuLength := by decide
  nameLength := by decide
  slugLength := by decide
  slugMatches := by decide
  shortDescriptionLength := by decide
  pricePositive := by decide
  discountNonneg := by simp
  brandLength := by decide
  initialStockNonneg := by decide
  discountBelowPrice := by simp

/-- An update of nothing. -/
def ProductUpdate.noFields : ProductUpdate where
  name := none
  shortDescription := none
  description := none
  price := none
  discountPrice := none
  brand := none
  categoryId := none
  images := none
  specifications := none
  isActive := none
  isFeatured := none
  isPopular := none
  nameLength := by simp [Field.value]
  shortDescriptionLength := by simp [Field.value]
  pricePositive := by simp [Field.value]
  discountNonneg := by simp [Field.value]
  brandLength := by simp [Field.value]

/-- A gateway that hands out one authority and answers every verification alike. -/
def gateway (authority : String) (success : Bool) : ZarinPalClient where
  requestPayment _ _ _ := .ok ⟨authority, "https://pay"⟩
  verifyPayment _ _ := .ok ⟨success, some "1", "{}"⟩

theorem two_pieces : 1 ≤ 2 ∧ 2 ≤ 99 := by decide

theorem three_pieces : 1 ≤ 3 ∧ 3 ≤ 99 := by decide

theorem five_pos : (0 : ℚ) < 5 := by norm_num

theorem seven_pos : (0 : ℚ) < 7 := by norm_num

/-- A customer orders two pieces. -/
def buyTwo (subject orderId : Uuid) : List Request :=
  [.addCartItem subject ⟨10, 2, two_pieces⟩ orderId, .checkout subject none orderId 0]

/-- A customer starts a payment and the gateway reports back. -/
def payWith (authority status : String) (success : Bool) (subject orderId paymentId : Uuid) :
    List Request :=
  [.initPayment (gateway authority success) "" subject orderId paymentId,
    .paymentCallback (gateway authority success) authority status 0]

/-- The admin sets the status of an order. -/
def setStatus (orderId : Uuid) (newStatus : OrderStatus) : Request :=
  .updateOrderStatus 3 orderId ⟨newStatus, none, by simp⟩ 0

end ElectronicShop
