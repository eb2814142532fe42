import ElectronicShop.Numeric.Rounding
import Mathlib.Data.Rat.Floor
import Mathlib.Tactic.NormNum

/-!
# Rows, enumerations and errors

The data model of `app/modules/*/models.py`: one structure a table, one
inductive type an enumeration. Amounts of money are stored in `NUMERIC(p, 0)`
columns, so a stored amount is an integer; a `Decimal` that has not been stored
yet is a rational. Columns that no modelled function reads or writes
(the server-side `created_at` of the log tables) are left out; `updated_at` of a
product stands beside it in `ElectronicShop.Model.ProductCache`. A user has at most one cart and one wallet (both `user_id` columns are unique), so
carts and wallets are identified by their owner.
-/

namespace ElectronicShop

/-- `uuid.UUID`: compared and looked up, never computed with. -/
abbrev Uuid := Nat

/-- A UTC timestamp in microseconds. -/
abbrev DateTime := Int

/-- What stops a request: the `AppError` subclasses with their texts, and the
    exceptions the application code does not raise itself. -/
inductive ShopError where
  | notFound (message : String)
  | permissionDenied (message : String)
  | conflict (message : String)
  | unauthorized (message : String)
  /-- `ZarinPalError` or a network failure in a gateway call. -/
  | gateway
  /-- `IntegrityError` or `DataError` of the database. -/
  | database
  /-- `AssertionError`, `TypeError` or `StaleDataError`. -/
  | internal
  deriving DecidableEq, Repr

/-! ## Column types -/

/-- The result of an operation on `Decimal`s: the default context keeps 28 significant
    digits. -/
def decimal (x : ℚ) : ℚ := Numeric.roundDigits 28 x

/-- Storing a `Decimal` in a `NUMERIC(p, 0)` column rounds it to the nearest
    integer, halves away from zero. -/
def numeric (x : ℚ) : Int :=
  if 0 ≤ x then (x + 1 / 2).floor else -(-x + 1 / 2).floor

/-- The values a `NUMERIC(precision, 0)` column can hold. -/
def fitsNumeric (precision : Nat) (x : Int) : Prop := x.natAbs < 10 ^ precision

instance (precision : Nat) (x : Int) : Decidable (fitsNumeric precision x) :=
  inferInstanceAs (Decidable (_ < _))

/-- PostgreSQL text has no NUL character. -/
def fitsText (s : String) : Prop := Char.ofNat 0 ∉ s.toList

instance (s : String) : Decidable (fitsText s) := inferInstanceAs (Decidable (_ ∉ _))

/-- The values a `VARCHAR(n)` column can hold. -/
def fitsVarchar (n : Nat) (s : String) : Prop := s.length ≤ n ∧ fitsText s

instance (n : Nat) (s : String) : Decidable (fitsVarchar n s) :=
  inferInstanceAs (Decidable (_ ∧ _))

/-- Where a scan of a JSON text stands. -/
inductive JsonScan where
  /-- Outside the strings of the text. -/
  | outside
  /-- Inside a string. -/
  | inside
  /-- Inside a string, right after the escape of a high surrogate. -/
  | afterHigh
  deriving DecidableEq

/-- The value of a hexadecimal digit. -/
def hexDigit (c : Char) : Nat :=
  if c.isDigit then c.toNat - '0'.toNat else c.toLower.toNat - 'a'.toNat + 10

/-- The UTF-16 code unit of an escape with four hexadecimal digits. -/
def codeUnit (a b c d : Char) : Nat :=
  ((hexDigit a * 16 + hexDigit b) * 16 + hexDigit c) * 16 + hexDigit d

/-- What `JSONB` accepts of a text that `json.dumps` has written. Outside the strings a
    capital letter starts `NaN` or `Infinity`, which are no JSON numbers. In a string the
    NUL character cannot be stored, and an escaped high surrogate must be followed at once
    by an escaped low one, which stands nowhere else. -/
def jsonbAccepts : JsonScan → List Char → Bool
  | .outside, '"' :: rest => jsonbAccepts .inside rest
  | .outside, c :: rest => decide (c ≠ 'N' ∧ c ≠ 'I') && jsonbAccepts .outside rest
  | scan, '\\' :: 'u' :: a :: b :: c :: d :: rest =>
    if 0xD800 ≤ codeUnit a b c d ∧ codeUnit a b c d < 0xDC00 then
      decide (scan = .inside) && jsonbAccepts .afterHigh rest
    else if 0xDC00 ≤ codeUnit a b c d ∧ codeUnit a b c d < 0xE000 then
      decide (scan = .afterHigh) && jsonbAccepts .inside rest
    else
      decide (scan = .inside ∧ codeUnit a b c d ≠ 0) && jsonbAccepts .inside rest
  | scan, '\\' :: _ :: rest => decide (scan = .inside) && jsonbAccepts .inside rest
  | scan, '"' :: rest => decide (scan = .inside) && jsonbAccepts .outside rest
  | scan, _ :: rest => decide (scan = .inside) && jsonbAccepts .inside rest
  | _, [] => true

/-- The JSON texts a `JSONB` column can hold. -/
def fitsJsonb (text : String) : Prop := jsonbAccepts .outside text.toList = true

instance (text : String) : Decidable (fitsJsonb text) := inferInstanceAs (Decidable (_ = _))

example : fitsJsonb "[1.5e+16, null, \"NaN\", \"\\ud83d\\ude00\"]" ∧ ¬ fitsJsonb "[NaN]" ∧
    ¬ fitsJsonb "[-Infinity]" ∧ ¬ fitsJsonb "[\"\\ud83d\"]" ∧ ¬ fitsJsonb "[\"\\ude00\"]" ∧
    ¬ fitsJsonb "[\"\\ud83d\\n\\ude00\"]" ∧ ¬ fitsJsonb "[\"\\u0000\"]" := by
  decide +kernel

theorem numeric_intCast (n : Int) : numeric n = n := by
  have hfloor : ∀ m : Int, ((m : ℚ) + 1 / 2).floor = m := by
    intro m
    change ⌊(m : ℚ) + 1 / 2⌋ = m
    rw [Int.floor_intCast_add]
    norm_num
  unfold numeric
  split
  · exact hfloor n
  · rw [← Int.cast_neg, hfloor, neg_neg]

theorem numeric_of_nonneg {x : ℚ} (hx : 0 ≤ x) : numeric x = ⌊x + 1 / 2⌋ := by
  rw [numeric, if_pos hx]
  rfl

theorem numeric_nonneg {x : ℚ} (hx : 0 ≤ x) : 0 ≤ numeric x := by
  rw [numeric_of_nonneg hx]
  exact Int.floor_nonneg.mpr (by linarith)

/-- The nearest integer. -/
theorem numeric_eq {x : ℚ} {n : Int} (hx : 0 ≤ x) (hlow : n - 1 / 2 ≤ x) (hhigh : x < n + 1 / 2) :
    numeric x = n := by
  rw [numeric_of_nonneg hx]
  exact Int.floor_eq_iff.mpr ⟨by linarith, by linarith⟩

theorem le_numeric {x : ℚ} {n : Int} (hx : 0 ≤ x) (h : n ≤ x) : n ≤ numeric x := by
  rw [numeric_of_nonneg hx]
  exact Int.le_floor.mpr (by linarith)

/-- Multiples of ½ are short. -/
theorem short_half {n : Int} (hn : |n| < 10 ^ 27) : Numeric.Short 28 1 (n / 2 : ℚ) := by
  refine ⟨⟨5 * n, ?_⟩, ?_⟩
  · push_cast
    ring
  · have hcast : |(n : ℚ)| < 10 ^ 27 := by exact_mod_cast hn
    rw [abs_div, abs_two]
    norm_num
    linarith [abs_nonneg (n : ℚ)]

theorem half_le_decimal {n : Int} {x : ℚ} (hn : |n| < 10 ^ 27) (h : (n / 2 : ℚ) ≤ x) :
    (n / 2 : ℚ) ≤ decimal x :=
  Numeric.le_roundDigits (by norm_num) (short_half hn) h

theorem decimal_le_half {n : Int} {x : ℚ} (hn : |n| < 10 ^ 27) (h : x ≤ (n / 2 : ℚ)) :
    decimal x ≤ (n / 2 : ℚ) :=
  Numeric.roundDigits_le (by norm_num) (short_half hn) h

theorem decimal_neg (x : ℚ) : decimal (-x) = -decimal x := Numeric.roundDigits_neg 28 x

theorem decimal_intCast {n : Int} (hn : |n| < 10 ^ 26) : decimal n = n := by
  have hdouble : |2 * n| < 10 ^ 27 := by
    rw [abs_mul]
    norm_num
    omega
  have hhalf : ((2 * n : Int) / 2 : ℚ) = n := by
    push_cast
    ring
  rw [← hhalf]
  exact Numeric.roundDigits_of_short (by norm_num) (short_half hdouble)

theorem decimal_nonneg_iff {x : ℚ} : 0 ≤ decimal x ↔ 0 ≤ x := by
  constructor
  · intro h
    by_contra hneg
    have hpos := Numeric.roundDigits_pos (show 1 ≤ 28 by norm_num) (neg_pos.mpr (not_le.mp hneg))
    rw [Numeric.roundDigits_neg] at hpos
    exact absurd h (not_le.mpr (neg_pos.mp hpos))
  · intro h
    have hhalf := half_le_decimal (n := 0) (x := x) (by norm_num) (by simpa using h)
    simpa using hhalf

/-! ## Users -/

inductive UserRole where
  | customer
  | support
  | admin
  | superAdmin
  deriving DecidableEq, Repr

structure User where
  id : Uuid
  role : UserRole
  isActive : Bool
  deriving DecidableEq, Repr

inductive Permission where
  | productRead
  | categoryRead
  | orderReadOwn
  | orderCreateOwn
  | walletReadOwn
  | ticketReadOwn
  | ticketCreateOwn
  | ticketRead
  | ticketRespond
  | ticketManage
  | orderRead
  | userRead
  | productCreate
  | productUpdate
  | productDelete
  | categoryManage
  | orderManage
  | userManage
  | walletManage
  | paymentRead
  | paymentManage
  | reportRead
  | auditRead
  | userRoleManage
  deriving DecidableEq, Repr

def customerPermissions : List Permission :=
  [.productRead, .categoryRead, .orderReadOwn, .orderCreateOwn, .walletReadOwn, .ticketReadOwn,
    .ticketCreateOwn]

def supportPermissions : List Permission :=
  customerPermissions ++ [.ticketRead, .ticketRespond, .ticketManage, .orderRead, .userRead]

def adminPermissions : List Permission :=
  supportPermissions ++ [.productCreate, .productUpdate, .productDelete, .categoryManage,
    .orderManage, .userManage, .walletManage, .paymentRead, .paymentManage, .reportRead, .auditRead]

def superAdminPermissions : List Permission := adminPermissions ++ [.userRoleManage]

def rolePermissions : UserRole → List Permission
  | .customer => customerPermissions
  | .support => supportPermissions
  | .admin => adminPermissions
  | .superAdmin => superAdminPermissions

def roleHasPermission (role : UserRole) (permission : Permission) : Bool :=
  permission ∈ rolePermissions role

/-! ## Catalogue -/

structure Category where
  id : Uuid
  parentId : Option Uuid
  name : String
  slug : String
  isActive : Bool
  sortOrder : Int
  deriving DecidableEq, Repr

/-- A product. `images` and `specifications` are `JSONB` columns, in which
    `None` is stored as the JSON value `null`. -/
structure Product where
  id : Uuid
  sku : String
  name : String
  slug : String
  shortDescription : String
  description : String
  price : Int
  discountPrice : Option Int
  brand : String
  categoryId : Uuid
  images : Option (List String)
  specifications : Option (List (String × String))
  isActive : Bool
  isFeatured : Bool
  isPopular : Bool
  deriving DecidableEq, Repr

/-- A row, with the columns set in which the object `new` differs from what it was when
    it was loaded. -/
def Product.setChanged (old new row : Product) : Product :=
  { row with
    name := if new.name = old.name then row.name else new.name
    shortDescription :=
      if new.shortDescription = old.shortDescription then row.shortDescription
      else new.shortDescription
    description := if new.description = old.description then row.description else new.description
    price := if new.price = old.price then row.price else new.price
    discountPrice :=
      if new.discountPrice = old.discountPrice then row.discountPrice else new.discountPrice
    brand := if new.brand = old.brand then row.brand else new.brand
    categoryId := if new.categoryId = old.categoryId then row.categoryId else new.categoryId
    images := if new.images = old.images then row.images else new.images
    specifications :=
      if new.specifications = old.specifications then row.specifications else new.specifications
    isActive := if new.isActive = old.isActive then row.isActive else new.isActive
    isFeatured := if new.isFeatured = old.isFeatured then row.isFeatured else new.isFeatured
    isPopular := if new.isPopular = old.isPopular then row.isPopular else new.isPopular }

/-- In the row as it was loaded, that is the object. -/
theorem Product.setChanged_self {old new : Product} (hid : new.id = old.id)
    (hsku : new.sku = old.sku) (hslug : new.slug = old.slug) : old.setChanged new old = new := by
  have hcolumn : ∀ {α : Type} [DecidableEq α] (a b : α), (if a = b then b else a) = a := by
    intro α _ a b
    split
    · rename_i h
      exact h.symm
    · rfl
  simp only [setChanged, hcolumn, ← hid, ← hsku, ← hslug]

/-- The column types of `products`. -/
def Product.fits (p : Product) : Prop :=
  fitsNumeric 12 p.price ∧ (∀ d ∈ p.discountPrice, fitsNumeric 12 d) ∧ fitsVarchar 64 p.sku ∧
  fitsVarchar 255 p.name ∧ fitsVarchar 280 p.slug ∧ fitsVarchar 500 p.shortDescription ∧
  fitsText p.description ∧ fitsVarchar 100 p.brand ∧ (∀ images ∈ p.images, ∀ i ∈ images, fitsText i) ∧
  ∀ specifications ∈ p.specifications, ∀ s ∈ specifications, fitsText s.1 ∧ fitsText s.2

instance (p : Product) : Decidable p.fits := by
  unfold Product.fits
  infer_instance

structure ProductInventory where
  productId : Uuid
  stockTotal : Int
  stockReserved : Int
  deriving DecidableEq, Repr

inductive InventoryChangeType where
  | restock
  | reserve
  | release
  | purchase
  | adjust
  deriving DecidableEq, Repr

structure InventoryHistory where
  productId : Uuid
  changeType : InventoryChangeType
  quantity : Int
  referenceType : Option String
  referenceId : Option Uuid
  actorId : Option Uuid
  deriving DecidableEq, Repr

/-- The `INTEGER` column of the quantity. -/
def InventoryHistory.fits (e : InventoryHistory) : Prop := -2 ^ 31 ≤ e.quantity ∧ e.quantity < 2 ^ 31

instance (e : InventoryHistory) : Decidable e.fits := inferInstanceAs (Decidable (_ ∧ _))

/-! ## Carts -/

/-- The cart row of a user. -/
structure Cart where
  userId : Uuid
  deriving DecidableEq, Repr

structure CartItem where
  id : Uuid
  userId : Uuid
  productId : Uuid
  quantity : Nat
  deriving DecidableEq, Repr

/-- `uq_cart_product`. -/
def CartItem.key (item : CartItem) : Uuid × Uuid := (item.userId, item.productId)

/-! ## Orders -/

inductive OrderStatus where
  | pending
  | awaitingPayment
  | paid
  | processing
  | shipped
  | completed
  | cancelled
  | paymentFailed
  | refunded
  deriving DecidableEq, Repr

/-- The stored value of a status, as error texts print it. -/
def OrderStatus.value : OrderStatus → String
  | .pending => "pending"
  | .awaitingPayment => "awaiting_payment"
  | .paid => "paid"
  | .processing => "processing"
  | .shipped => "shipped"
  | .completed => "completed"
  | .cancelled => "cancelled"
  | .paymentFailed => "payment_failed"
  | .refunded => "refunded"

/-- `ALLOWED_TRANSITIONS`. -/
def allowedTransitions : OrderStatus → List OrderStatus
  | .pending => [.awaitingPayment, .cancelled]
  | .awaitingPayment => [.paid, .paymentFailed, .cancelled]
  | .paid => [.processing, .refunded, .cancelled]
  | .processing => [.shipped, .cancelled]
  | .shipped => [.completed]
  | .completed => [.refunded]
  | .paymentFailed => [.awaitingPayment, .cancelled]
  | .cancelled => []
  | .refunded => []

structure ShippingAddress where
  recipientName : String
  province : String
  city : String
  addressLine : String
  postalCode : String
  phoneNumber : String
  deriving DecidableEq, Repr

/-- The address is stored as JSON. -/
def ShippingAddress.fits (a : ShippingAddress) : Prop :=
  fitsText a.recipientName ∧ fitsText a.province ∧ fitsText a.city ∧ fitsText a.addressLine ∧
  fitsText a.postalCode ∧ fitsText a.phoneNumber

instance (a : ShippingAddress) : Decidable a.fits := inferInstanceAs (Decidable (_ ∧ _))

structure OrderItem where
  productId : Option Uuid
  productNameSnapshot : String
  skuSnapshot : String
  unitPriceSnapshot : Int
  quantity : Nat
  subtotal : Int
  deriving DecidableEq, Repr

/-- An order with the item rows that `selectinload(Order.items)` loads. -/
structure Order where
  id : Uuid
  userId : Uuid
  status : OrderStatus
  subtotal : Int
  total : Int
  shippingAddress : Option ShippingAddress
  cancelledAt : Option DateTime
  createdAt : DateTime
  items : List OrderItem
  deriving DecidableEq, Repr

/-- The column types of `orders` and `order_items`. -/
def Order.fits (o : Order) : Prop :=
  fitsNumeric 14 o.subtotal ∧ fitsNumeric 14 o.total ∧ (∀ a ∈ o.shippingAddress, a.fits) ∧
  ∀ i ∈ o.items, fitsNumeric 12 i.unitPriceSnapshot ∧ fitsNumeric 14 i.subtotal

instance (o : Order) : Decidable o.fits := inferInstanceAs (Decidable (_ ∧ _))

structure OrderStatusHistory where
  orderId : Uuid
  fromStatus : Option OrderStatus
  toStatus : OrderStatus
  actorId : Option Uuid
  note : Option String
  createdAt : DateTime
  deriving DecidableEq, Repr

/-! ## Payments -/

inductive PaymentStatus where
  | initiated
  | pending
  | verified
  | failed
  deriving DecidableEq, Repr

structure Payment where
  id : Uuid
  orderId : Uuid
  userId : Uuid
  gateway : String
  authority : Option String
  amount : Int
  status : PaymentStatus
  referenceId : Option String
  verifiedAt : Option DateTime
  rawGatewayResponse : Option String
  deriving DecidableEq, Repr

/-- The column types of `payments`. -/
def Payment.fits (p : Payment) : Prop :=
  fitsNumeric 14 p.amount ∧ (∀ a ∈ p.authority, fitsVarchar 64 a) ∧
  (∀ r ∈ p.referenceId, fitsVarchar 64 r) ∧ ∀ raw ∈ p.rawGatewayResponse, fitsJsonb raw

instance (p : Payment) : Decidable p.fits := inferInstanceAs (Decidable (_ ∧ _))

/-! ## Wallets -/

inductive WalletTransactionType where
  | deposit
  | purchase
  | refund
  | adminCredit
  | adminDebit
  deriving DecidableEq, Repr

/-- `CREDIT_TYPES`. -/
def creditTypes : List WalletTransactionType := [.deposit, .refund, .adminCredit]

structure Wallet where
  userId : Uuid
  balance : Int
  deriving DecidableEq, Repr

/-- A ledger row; `walletId` is the wallet's owner. -/
structure WalletTransaction where
  walletId : Uuid
  type : WalletTransactionType
  amount : Int
  balanceAfter : Int
  referenceType : Option String
  referenceId : Option Uuid
  note : Option String
  actorId : Option Uuid
  deriving DecidableEq, Repr

/-- The column types of `wallet_transactions`. -/
def WalletTransaction.fits (t : WalletTransaction) : Prop :=
  fitsNumeric 14 t.amount ∧ fitsNumeric 14 t.balanceAfter ∧ ∀ n ∈ t.note, fitsVarchar 500 n

instance (t : WalletTransaction) : Decidable t.fits := inferInstanceAs (Decidable (_ ∧ _))

end ElectronicShop
