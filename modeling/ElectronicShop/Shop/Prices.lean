import ElectronicShop.Shop.ProductConflicts
import ElectronicShop.Shop.ProductUpdates

/-!
# Stored prices

The schemas and the service compare the submitted decimals, and the `NUMERIC(12, 0)`
columns store them rounded. So the stored price is at least 1 and above the stored discount
as long as the two are not rounded to the same integer, and the price not to 0.
-/

namespace ElectronicShop

open Txn

/-! ## Rounding two prices -/

/-- A half lies between the two: they are rounded to different integers. -/
def Apart (low high : ℚ) : Prop := ∃ n : Int, low < n + 1 / 2 ∧ n + 1 / 2 ≤ high

theorem numeric_lt_numeric_iff {low high : ℚ} (hlow : 0 ≤ low) (hhigh : 0 ≤ high) :
    numeric low < numeric high ↔ Apart low high := by
  rw [numeric_of_nonneg hlow, numeric_of_nonneg hhigh]
  constructor
  · intro h
    have hlt := Int.lt_floor_add_one (low + 1 / 2)
    have hle := Int.floor_le (high + 1 / 2)
    have hstep : ((⌊low + 1 / 2⌋ + 1 : Int) : ℚ) ≤ ⌊high + 1 / 2⌋ := by exact_mod_cast h
    push_cast at hstep
    exact ⟨⌊low + 1 / 2⌋, by linarith, by linarith⟩
  · intro h
    obtain ⟨n, hbelow, habove⟩ := h
    have hlt : ⌊low + 1 / 2⌋ < n + 1 := by
      rw [Int.floor_lt]
      push_cast
      linarith
    have hle : n + 1 ≤ ⌊high + 1 / 2⌋ := by
      rw [Int.le_floor]
      push_cast
      linarith
    omega

theorem one_le_numeric_iff {price : ℚ} (hprice : 0 ≤ price) : 1 ≤ numeric price ↔ 1 / 2 ≤ price := by
  rw [numeric_of_nonneg hprice, Int.le_floor]
  push_cast
  constructor <;> intro h <;> linarith

/-- Prices that are still sane when they are rounded. -/
structure SafelyPriced (price : ℚ) (discount : Option ℚ) : Prop where
  atLeastHalf : 1 / 2 ≤ price
  discountApart : ∀ d ∈ discount, Apart d price

/-- The price is at least 1 and above the discount. -/
structure Product.SanelyPriced (p : Product) : Prop where
  atLeastOne : 1 ≤ p.price
  discountBelow : ∀ d ∈ p.discountPrice, 0 ≤ d ∧ d < p.price

/-- A row that stores two decimals. -/
theorem Product.sanelyPriced_iff {p : Product} {price : ℚ} {discount : Option ℚ}
    (hprice : 0 ≤ price) (hdiscount : ∀ d ∈ discount, 0 ≤ d) (hstored : p.price = numeric price)
    (hstored' : p.discountPrice = discount.map numeric) :
    p.SanelyPriced ↔ SafelyPriced price discount := by
  have hbelow : ∀ d ∈ discount, (0 ≤ numeric d ∧ numeric d < numeric price) ↔ Apart d price := by
    intro d hd
    rw [and_iff_right (numeric_nonneg (hdiscount d hd))]
    exact numeric_lt_numeric_iff (hdiscount d hd) hprice
  constructor
  · intro h
    refine ⟨(one_le_numeric_iff hprice).mp (hstored ▸ h.atLeastOne), ?_⟩
    intro d hd
    have hmem : numeric d ∈ p.discountPrice := by
      rw [hstored', Option.mem_map]
      exact ⟨d, hd, rfl⟩
    have hsane := h.discountBelow _ hmem
    rw [hstored] at hsane
    exact (hbelow d hd).mp hsane
  · intro h
    refine ⟨hstored ▸ (one_le_numeric_iff hprice).mpr h.atLeastHalf, ?_⟩
    intro d hd
    rw [hstored', Option.mem_map] at hd
    obtain ⟨d, hd, rfl⟩ := hd
    rw [hstored]
    exact (hbelow d hd).mpr (h.discountApart d hd)

/-! ## Creations and updates -/

/-- A call that stores prices. -/
inductive PriceCall where
  | create (data : ProductCreate) (productId : Uuid)
  | update (productId : Uuid) (data : ProductUpdate)

namespace PriceCall

def handler : PriceCall → Tx Product
  | .create data productId => ProductService.create data productId
  | .update productId data => ProductService.update productId data

/-- The call and its commit. -/
def serve (call : PriceCall) (store : Store) : Except ShopError Store :=
  (store.transact call.handler).map Prod.snd

/-- The prices that the product has after the call are safe to round: the submitted ones,
    or for an update those it leaves as they were. -/
def KeepsApart (store : Store) : PriceCall → Prop
  | .create data _ => SafelyPriced data.price data.discountPrice
  | .update productId data => ∀ old ∈ store.db.products.get productId,
      ∀ price ∈ data.newPrice old, SafelyPriced price (data.newDiscount old)

theorem serve_ok {call : PriceCall} {store store' : Store} :
    call.serve store = .ok store' ↔ ∃ product, store.db.run call.handler =
      .ok (product, store'.db) := by
  unfold serve
  constructor
  · intro h
    cases htransact : store.transact call.handler with
    | error e =>
      rw [htransact] at h
      cases h
    | ok r =>
      rw [htransact] at h
      cases h
      exact ⟨r.1, Store.transact_ok.mp htransact⟩
  · intro h
    obtain ⟨product, hrun⟩ := h
    rw [Store.transact_ok.mpr hrun]
    rfl

end PriceCall

/-- Every product of the store is sanely priced. -/
def SanePrices (store : Store) : Prop := ∀ p ∈ store.db.products.rows, p.SanelyPriced

namespace ProductService

variable {old new : Product} {data : ProductUpdate}

/-- The prices of an updated row are the new ones, rounded. -/
theorem prices_of_updated (h : updated old data = some new) :
    (∃ price, data.newPrice old = some price ∧ new.price = numeric price) ∧
    new.discountPrice = (data.newDiscount old).map numeric := by
  obtain ⟨-, -, -, hprice, -, -, -, -, -, hrest⟩ := updated_eq_some.mp h
  constructor
  · unfold ProductUpdate.newPrice
    cases hfield : data.price with
    | none =>
      rw [hfield] at hprice
      refine ⟨old.price, rfl, ?_⟩
      rw [numeric_intCast]
      exact (Option.some.inj hprice).symm
    | some value =>
      rw [hfield] at hprice
      cases value with
      | none => cases hprice
      | some price => exact ⟨price, rfl, (Option.some.inj hprice).symm⟩
  · have hdiscount : new.discountPrice =
        setNullable data.discountPrice old.discountPrice numeric := by rw [hrest]
    rw [hdiscount]
    unfold ProductUpdate.newDiscount
    cases data.discountPrice with
    | none => simp [setNullable, Function.comp_def, numeric_intCast]
    | some value => rfl

/-- What an update takes from the row and from the schema is not negative. -/
theorem newPrices_nonneg (hold : old.SanelyPriced) :
    (∀ price ∈ data.newPrice old, 0 ≤ price) ∧ ∀ d ∈ data.newDiscount old, 0 ≤ d := by
  constructor
  · intro price hprice
    unfold ProductUpdate.newPrice at hprice
    cases hfield : data.price with
    | none =>
      rw [hfield] at hprice
      cases hprice
      exact_mod_cast (zero_le_one.trans hold.atLeastOne : (0 : Int) ≤ old.price)
    | some value =>
      rw [hfield] at hprice
      exact (data.pricePositive price (by rw [hfield]; exact hprice)).le
  · intro d hd
    unfold ProductUpdate.newDiscount at hd
    cases hfield : data.discountPrice with
    | none =>
      rw [hfield] at hd
      obtain ⟨n, hn, rfl⟩ := Option.map_eq_some_iff.mp hd
      exact_mod_cast (hold.discountBelow n hn).1
    | some value =>
      rw [hfield] at hd
      exact data.discountNonneg d (by rw [hfield]; exact hd)

end ProductService

variable {store₀ store store' : Store} {calls : List PriceCall} {call : PriceCall}

/-- A call that stores a row. -/
theorem sanePrices_put {product : Product} (hsane : SanePrices store)
    (hdb : store'.db.products = store.db.products.put product) :
    SanePrices store' ↔ product.SanelyPriced := by
  unfold SanePrices
  rw [hdb]
  constructor
  · intro h
    exact h product (Table.mem_of_get (Table.get_put_self _ product))
  · intro h p hp
    rcases Table.mem_put hp with rfl | hrest
    · exact h
    · exact hsane p hrest.1

/-- A committed call keeps all prices sane exactly when its prices are safe to round. -/
theorem SanePrices.serve_iff (hsane : SanePrices store) (hserve : call.serve store = .ok store') :
    SanePrices store' ↔ call.KeepsApart store := by
  obtain ⟨product, hrun⟩ := PriceCall.serve_ok.mp hserve
  cases call with
  | create data productId =>
    obtain ⟨-, -, -, -, -, hproduct, hdb⟩ := ProductService.run_create_ok.mp hrun
    subst hproduct
    rw [sanePrices_put hsane (congrArg Db.products hdb)]
    exact Product.sanelyPriced_iff data.pricePositive.le data.discountNonneg rfl rfl
  | update productId data =>
    obtain ⟨old, hold, hupdated, hdb⟩ := ProductService.run_update_ok hrun
    obtain ⟨⟨price, hprice, hnew⟩, hdiscount⟩ := ProductService.prices_of_updated hupdated
    have hnonneg : (∀ price ∈ data.newPrice old, 0 ≤ price) ∧
        ∀ d ∈ data.newDiscount old, 0 ≤ d :=
      ProductService.newPrices_nonneg (hsane old (Table.mem_of_get hold))
    rw [sanePrices_put hsane (congrArg Db.products hdb),
      Product.sanelyPriced_iff (hnonneg.1 price hprice) hnonneg.2 hnew hdiscount]
    simp [PriceCall.KeepsApart, hold, hprice]

/-- In a run whose calls do not round two prices together, every stored price is sane. And no
    weaker condition on the next call will do. -/
theorem stored_prices_sane (h₀ : SanePrices store₀)
    (hrun : Run PriceCall.serve (fun store call => call.KeepsApart store) store₀ calls store) :
    SanePrices store ∧ ∀ call : PriceCall, ∀ store', call.serve store = .ok store' →
      (SanePrices store' ↔ call.KeepsApart store) := by
  have hsane : SanePrices store := by
    refine hrun.invariant SanePrices h₀ ?_
    intro call store store' hsane hguard hserve
    exact (hsane.serve_iff hserve).mpr hguard
  exact ⟨hsane, fun call store' hserve => hsane.serve_iff hserve⟩

/-- The discount of the phone becomes 4. -/
def discountFour : ProductUpdate :=
  { ProductUpdate.noFields with
    discountPrice := some (some 4)
    discountNonneg := by simp [Field.value] }

theorem sanePrices_smallShop : SanePrices smallShop := by
  intro p hp
  cases List.mem_singleton.mp hp
  exact ⟨by decide, by decide⟩

/-- The tablet is listed and the phone gets a discount. -/
theorem stored_prices_sane_smallShop : ∃ store,
    Run PriceCall.serve (fun store call => call.KeepsApart store) smallShop
      [.create newTablet 11, .update 10 discountFour] store ∧ SanePrices store := by
  have hcreate : PriceCall.serve (.create newTablet 11) smallShop = .ok phoneAndTablet :=
    PriceCall.serve_ok.mpr ⟨_, ProductService.run_create_ok.mpr
      ⟨by decide, by decide, by decide, by decide, by decide, rfl, rfl⟩⟩
  have hsafe : PriceCall.KeepsApart smallShop (.create newTablet 11) :=
    ⟨by norm_num [newTablet], by simp [newTablet]⟩
  have hsafe' : PriceCall.KeepsApart phoneAndTablet (.update 10 discountFour) := by
    have hphone : phoneAndTablet.db.products.get 10 = smallShop.db.products.get 10 := by
      decide +kernel
    intro old hold price hprice
    rw [hphone] at hold
    cases hold
    cases hprice
    refine ⟨by norm_num, ?_⟩
    intro d hd
    cases hd
    exact ⟨4, by norm_num, by norm_num⟩
  have hupdate : (PriceCall.serve (.update 10 discountFour) phoneAndTablet).isOk = true := by
    decide +kernel
  cases hstore : PriceCall.serve (.update 10 discountFour) phoneAndTablet with
  | error e =>
    rw [hstore] at hupdate
    cases hupdate
  | ok store =>
    have hrun := (Run.nil.snoc hsafe hcreate).snoc hsafe' hstore
    exact ⟨store, hrun, (stored_prices_sane sanePrices_smallShop hrun).1⟩

/-- A new product at a price of 0.3. -/
def cheapTablet : ProductCreate :=
  { newTablet with
    price := 3 / 10
    pricePositive := by norm_num
    discountBelowPrice := by simp [newTablet] }

/-- The discount of the phone becomes 4.6, its price is 5. -/
def discountNearPrice : ProductUpdate :=
  { ProductUpdate.noFields with
    discountPrice := some (some (23 / 5))
    discountNonneg := by
      intro d hd
      cases hd
      norm_num }

/-- A price of 0.3 is stored as 0, and a discount of 4.6 as the price of 5. -/
theorem stored_prices_sane_fails : SanePrices smallShop ∧
    (∃ store, Run PriceCall.serve anyStep smallShop [.create cheapTablet 11] store ∧
      (store.db.products.get 11).map Product.price = some 0) ∧
    ∃ store, Run PriceCall.serve anyStep smallShop [.update 10 discountNearPrice] store ∧
      (store.db.products.get 10).map (fun p => (p.price, p.discountPrice)) = some (5, some 5) :=
  ⟨sanePrices_smallShop, Run.exists_of_execAll (by decide +kernel),
    Run.exists_of_execAll (by decide +kernel)⟩

end ElectronicShop
