import Mathlib.Data.Int.Log
import Mathlib.Data.Rat.Floor
import Mathlib.Tactic.Linarith
import Mathlib.Tactic.NormNum

/-!
# Rounding decimals

Decimal arithmetic with a fixed number of significant digits: the exact result is
rounded, halves to the even neighbour. Rounding never crosses a number that is
itself short enough (`le_roundDigits`, `roundDigits_le`), and that is all that is
used of it.
-/

namespace Numeric

/-! ## To an integer -/

/-- The nearest integer, of two the even one. -/
def roundHalfEven (x : ℚ) : ℤ :=
  if Int.fract x < 1 / 2 then ⌊x⌋
  else if 1 / 2 < Int.fract x then ⌊x⌋ + 1
  else if Even ⌊x⌋ then ⌊x⌋
  else ⌊x⌋ + 1

theorem floor_le_roundHalfEven (x : ℚ) : ⌊x⌋ ≤ roundHalfEven x := by
  unfold roundHalfEven
  split_ifs <;> omega

theorem le_roundHalfEven {n : ℤ} {x : ℚ} (h : n ≤ x) : n ≤ roundHalfEven x :=
  (Int.le_floor.mpr h).trans (floor_le_roundHalfEven x)

theorem roundHalfEven_le {n : ℤ} {x : ℚ} (h : x ≤ n) : roundHalfEven x ≤ n := by
  by_cases hfract : Int.fract x < 1 / 2
  · rw [roundHalfEven, if_pos hfract]
    exact_mod_cast (Int.floor_le x).trans h
  · have hlt : ⌊x⌋ < n := by
      have hx := Int.floor_add_fract x
      have hcast : (⌊x⌋ : ℚ) < n := by linarith
      exact_mod_cast hcast
    unfold roundHalfEven
    split_ifs <;> omega

theorem roundHalfEven_neg (x : ℚ) : roundHalfEven (-x) = -roundHalfEven x := by
  by_cases hint : Int.fract x = 0
  · have hx : x = ⌊x⌋ := by
      have := Int.floor_add_fract x
      linarith
    have hneg : -x = ((-⌊x⌋ : ℤ) : ℚ) := by
      rw [Int.cast_neg, ← hx]
    have h₁ := roundHalfEven_le hx.le
    have h₂ := le_roundHalfEven hx.ge
    have h₃ := roundHalfEven_le hneg.le
    have h₄ := le_roundHalfEven hneg.ge
    omega
  · have hfloor : ⌊-x⌋ = -⌊x⌋ - 1 := by
      have hx := Int.floor_add_fract x
      have hpos := lt_of_le_of_ne (Int.fract_nonneg x) (Ne.symm hint)
      have hlt := Int.fract_lt_one x
      refine Int.floor_eq_iff.mpr ⟨?_, ?_⟩
      · push_cast
        linarith
      · push_cast
        linarith
    have hfract : Int.fract (-x) = 1 - Int.fract x := Int.fract_neg hint
    have heven : Even (-⌊x⌋ - 1) ↔ ¬ Even ⌊x⌋ := by
      rw [Int.even_sub_one, even_neg]
    unfold roundHalfEven
    rw [hfloor, hfract]
    split_ifs <;> first | omega | (exfalso; first | linarith | tauto)

/-! ## To a number of significant digits -/

/-- The power of ten that brings `x` to `digits` digits before the point. -/
def scale (digits : ℕ) (x : ℚ) : ℚ := 10 ^ ((digits : ℤ) - 1 - Int.log 10 |x|)

/-- `x` rounded to `digits` significant digits. -/
def roundDigits (digits : ℕ) (x : ℚ) : ℚ := roundHalfEven (x * scale digits x) / scale digits x

theorem scale_pos (digits : ℕ) (x : ℚ) : 0 < scale digits x := zpow_pos (by norm_num) _

theorem roundDigits_neg (digits : ℕ) (x : ℚ) : roundDigits digits (-x) = -roundDigits digits x := by
  have hscale : scale digits (-x) = scale digits x := by rw [scale, scale, abs_neg]
  rw [roundDigits, roundDigits, hscale, neg_mul, roundHalfEven_neg, Int.cast_neg, neg_div]

/-- A number with few enough decimals to be written with `digits` digits. -/
structure Short (digits decimals : ℕ) (h : ℚ) : Prop where
  scaled : ∃ z : ℤ, h * 10 ^ decimals = z
  small : |h| < 10 ^ ((digits : ℤ) - decimals)

theorem Short.neg {digits decimals : ℕ} {h : ℚ} (hs : Short digits decimals h) :
    Short digits decimals (-h) := by
  obtain ⟨z, hz⟩ := hs.scaled
  exact ⟨⟨-z, by rw [neg_mul, hz, Int.cast_neg]⟩, by rw [abs_neg]; exact hs.small⟩

variable {digits decimals : ℕ} {h x : ℚ}

/-- Of a positive number the leading digit survives. -/
theorem pow_log_le_roundDigits (hdigits : 1 ≤ digits) (hx : 0 < x) :
    10 ^ Int.log 10 x ≤ roundDigits digits x := by
  have habs : |x| = x := abs_of_pos hx
  have hle : (10 : ℚ) ^ Int.log 10 x ≤ x := by
    exact_mod_cast Int.zpow_log_le_self (b := 10) (by norm_num) hx
  have hten : (10 : ℚ) ≠ 0 := by norm_num
  have hscaled : (10 : ℚ) ^ Int.log 10 x * scale digits x = ((10 ^ (digits - 1) : ℤ) : ℚ) := by
    rw [scale, habs, ← zpow_add₀ hten]
    push_cast
    rw [← zpow_natCast]
    congr 1
    omega
  rw [roundDigits, le_div_iff₀ (scale_pos digits x), hscaled]
  have hround : ((10 ^ (digits - 1) : ℤ) : ℚ) ≤ x * scale digits x := by
    rw [← hscaled]
    exact mul_le_mul_of_nonneg_right hle (scale_pos digits x).le
  exact_mod_cast le_roundHalfEven hround

theorem roundDigits_pos (hdigits : 1 ≤ digits) (hx : 0 < x) : 0 < roundDigits digits x :=
  (zpow_pos (by norm_num) _).trans_le (pow_log_le_roundDigits hdigits hx)

theorem roundDigits_zero (digits : ℕ) : roundDigits digits 0 = 0 := by
  simp [roundDigits, roundHalfEven]

theorem le_roundDigits (hdigits : 1 ≤ digits) (hs : Short digits decimals h) (hle : h ≤ x) :
    h ≤ roundDigits digits x := by
  have hten : (10 : ℚ) ≠ 0 := by norm_num
  by_cases hx0 : x = 0
  · subst hx0
    rwa [roundDigits_zero]
  by_cases hmany : (decimals : ℤ) ≤ (digits : ℤ) - 1 - Int.log 10 |x|
  · -- scaled, `h` is an integer
    obtain ⟨z, hz⟩ := hs.scaled
    obtain ⟨n, hn⟩ := Int.le.dest hmany
    have hscaled : h * scale digits x = ((z * 10 ^ n : ℤ) : ℚ) := by
      rw [scale, ← hn, zpow_add₀ hten, zpow_natCast, zpow_natCast, ← mul_assoc, hz]
      push_cast
      rfl
    rw [roundDigits, le_div_iff₀ (scale_pos digits x), hscaled]
    have hround : ((z * 10 ^ n : ℤ) : ℚ) ≤ x * scale digits x := by
      rw [← hscaled]
      exact mul_le_mul_of_nonneg_right hle (scale_pos digits x).le
    exact_mod_cast le_roundHalfEven hround
  · -- `x` is larger than `h` by an order of magnitude
    have hlog : (10 : ℚ) ^ Int.log 10 |x| ≤ |x| := by
      exact_mod_cast Int.zpow_log_le_self (b := 10) (by norm_num) (abs_pos.mpr hx0)
    have hpow : |h| < 10 ^ Int.log 10 |x| :=
      hs.small.trans_le (zpow_le_zpow_right₀ (by norm_num) (by omega))
    have hpos : 0 < x := by
      by_contra hneg
      rw [abs_of_nonpos (not_lt.mp hneg)] at hlog hpow
      have := neg_abs_le h
      linarith
    rw [abs_of_pos hpos] at hpow
    exact (le_abs_self h).trans (hpow.le.trans (pow_log_le_roundDigits hdigits hpos))

theorem roundDigits_le (hdigits : 1 ≤ digits) (hs : Short digits decimals h) (hle : x ≤ h) :
    roundDigits digits x ≤ h := by
  have hneg := le_roundDigits hdigits hs.neg (neg_le_neg hle)
  rw [roundDigits_neg] at hneg
  linarith

/-- Short numbers are not rounded. -/
theorem roundDigits_of_short (hdigits : 1 ≤ digits) (hs : Short digits decimals h) :
    roundDigits digits h = h :=
  le_antisymm (roundDigits_le hdigits hs le_rfl) (le_roundDigits hdigits hs le_rfl)

end Numeric
