import ClassifierBridge.Json.Value
import ClassifierBridge.Proofs.Binary.Midpoint
import ClassifierBridge.Proofs.Decimal.Shortest
import ClassifierBridge.Proofs.Json.Scale

/-!
# `ClassifierBridge.Proofs.Json.Reading`: what a literal with a fraction is worth

A literal spells a decimal, `Literal.decimal`. Where its digits fit the
significand of 64 bits, the digits themselves are exact, and two roundings are
left: that of the power of ten and that of the product or quotient. So the number
read is within three units of `2 ^ -53` of the decimal, and where the power of
ten is exact, too, it is the number nearest to the decimal.

* `Literal.number_eq_real`: the number read is the decimal, scaled once.
* `scaleOnce_close`: how far that is from the decimal.
* `magnitude_scaleOnce_of_small`: it is the nearest number for small exponents.
* `toSingle_real`: what is left of a number in 32 bits.
-/

set_option autoImplicit false

namespace ClassifierBridge

/-! ### Products and quotients of finite numbers -/

namespace Binary

variable {fmt : BinaryFormat} {x y : Binary fmt}

/-- A product of finite numbers is the exact product, rounded once. -/
theorem magnitude_mul (hleft : x.magnitude < fmt.infinity) (hright : y.magnitude < fmt.infinity) :
    (x.mul y).magnitude
      = fmt.roundMagnitude (fmt.magnitudeValue x.magnitude * fmt.magnitudeValue y.magnitude) := by
  unfold mul
  rw [isNaN_of_finite hleft, isNaN_of_finite hright, isInfinite_of_finite hleft,
    isInfinite_of_finite hright]
  rfl

/-- A quotient of finite numbers is the exact quotient, rounded once. -/
theorem magnitude_div (hleft : x.magnitude < fmt.infinity) (hright : y.magnitude < fmt.infinity)
    (hpos : 0 < y.magnitude) :
    (x.div y).magnitude
      = fmt.roundMagnitude (fmt.magnitudeValue x.magnitude / fmt.magnitudeValue y.magnitude) := by
  have hnonzero : y.isZero = false := beq_eq_false_iff_ne.mpr hpos.ne'
  unfold div
  rw [isNaN_of_finite hleft, isNaN_of_finite hright, isInfinite_of_finite hleft,
    isInfinite_of_finite hright, hnonzero]
  rfl

end Binary

namespace Json.Literal

/-! ### The decimal of a literal -/

/-- What an exponent spells. -/
def exponentValue : Option (Bool × List Char) → Int
  | none => 0
  | some (down, ds) =>
      if down then -(Nat.ofDigitChars 10 ds 0 : Int) else Nat.ofDigitChars 10 ds 0

/-- The decimal that a literal spells: all its digits, and the power of ten of
the last one. -/
def decimal (l : Literal) : Decimal :=
  ⟨Nat.ofDigitChars 10 (l.whole ++ l.fraction) 0,
    exponentValue l.exponent - (l.fraction.length : Int)⟩

/-- A decimal in 64 bits: its digits, multiplied or divided by a power of ten. -/
def scaleOnce (d : Decimal) : Double :=
  if 0 ≤ d.exponent then (Binary.ofInt d.digits).mul (powerOfTen d.exponent.natAbs)
  else (Binary.ofInt d.digits).div (powerOfTen d.exponent.natAbs)

/-- Digits that fit 64 bits are all in the significand. -/
theorem significand_eq {l : Literal} (hfits : l.decimal.digits ≤ digitLimit) :
    l.significand = (l.decimal.digits, -(l.fraction.length : Int)) := by
  have hall : Nat.ofDigitChars 10 l.fraction (Nat.ofDigitChars 10 l.whole 0) = l.decimal.digits :=
    (Nat.ofDigitChars_append 0).symm
  -- The digits before the point are part of the number, so they fit, too.
  have hwhole : accumulate digitLimit 0 l.whole = (Nat.ofDigitChars 10 l.whole 0, []) :=
    accumulate_of_le (Nat.le_trans (le_ofDigitChars l.fraction _) (by rwa [hall]))
  have hfraction : accumulate digitLimit (Nat.ofDigitChars 10 l.whole 0) l.fraction
      = (l.decimal.digits, []) := by
    rw [← hall] at hfits ⊢
    exact accumulate_of_le hfits
  unfold significand
  rw [hwhole]
  dsimp only
  rw [hfraction]
  show (l.decimal.digits, (0 : Int) - ((l.fraction.length - 0 : Nat) : Int)) = _
  rw [Nat.sub_zero, Int.zero_sub]

/-- A scaling within the powers of ten takes one operation. -/
theorem scale_eq {d : Decimal} (hnear : d.exponent.natAbs ≤ 308)
    (hfinite : (scaleOnce d).isInfinite = false) :
    scale (Binary.ofInt d.digits) d.exponent = some (scaleOnce d) := by
  rw [scale, if_pos hnear]
  unfold scaleOnce at hfinite ⊢
  split
  · next hup =>
      rw [if_pos hup] at hfinite
      dsimp only
      rw [hfinite]
      rfl
  · rfl

/-- A literal that is no integer is worth its decimal, scaled once. -/
theorem number_eq_real {l : Literal} (hother : l.isInteger = false)
    (hfits : l.decimal.digits ≤ digitLimit)
    (hexponent : ∀ down ds, l.exponent = some (down, ds) →
      Nat.ofDigitChars 10 ds 0 ≤ exponentLimit)
    (hnear : l.decimal.exponent.natAbs ≤ 308)
    (hfinite : (scaleOnce l.decimal).isInfinite = false) :
    l.number = .ok (.real { scaleOnce l.decimal with negative := l.negative }) := by
  have hscaled : scale (Binary.ofInt l.decimal.digits)
      (-(l.fraction.length : Int) + exponentValue l.exponent) = some (scaleOnce l.decimal) := by
    rw [Int.add_comm]
    exact scale_eq hnear hfinite
  unfold number
  rw [significand_eq hfits, hother]
  dsimp only
  -- Without an exponent the fraction alone scales; with one, both do.
  cases hwritten : l.exponent with
  | none =>
      rw [hwritten] at hscaled
      dsimp only [exponentValue] at hscaled ⊢
      rw [if_neg Bool.false_ne_true, hscaled]
  | some parts =>
      obtain ⟨down, ds⟩ := parts
      rw [hwritten] at hscaled
      dsimp only
      rw [accumulate_of_le (hexponent down ds hwritten)]
      dsimp only
      rw [show scale (Binary.ofInt l.decimal.digits) (-(l.fraction.length : Int)
        + if down then -(Nat.ofDigitChars 10 ds 0 : Int) else Nat.ofDigitChars 10 ds 0)
        = some (scaleOnce l.decimal) from hscaled]

/-! ### The error of reading -/

/-- Numbers far from both ends of the range are rounded to nearly themselves. -/
theorem roundMagnitude_close {x : Rat} (hlow : (2 : Rat) ^ (-1000 : Int) ≤ x)
    (hhigh : x ≤ (2 : Rat) ^ 1000) :
    BinaryFormat.double.roundMagnitude x < BinaryFormat.double.infinity
      ∧ 2 ^ 53 * |BinaryFormat.double.magnitudeValue (BinaryFormat.double.roundMagnitude x) - x|
        ≤ x := by
  have hfinite := Nat.lt_of_le_of_lt (roundMagnitude_le_powerMagnitude (by decide) hhigh)
    (powerMagnitude_lt (by decide))
  refine ⟨hfinite, ?_⟩
  have hleast : BinaryFormat.double.leastExponent = -1074 := by decide
  refine BinaryFormat.double.abs_magnitudeValue_roundMagnitude_sub_le ?_ hfinite
  rw [hleast]
  exact le_trans (zpow_le_zpow_right₀ one_le_two (by decide)) hlow

/-- A number of at most 53 bits is exact. -/
theorem magnitudeValue_ofInt {n : Nat} (hpos : 0 < n) (hfits : n < 2 ^ 53) :
    (Binary.ofInt n : Double).magnitude < BinaryFormat.double.infinity
      ∧ BinaryFormat.double.magnitudeValue (Binary.ofInt n : Double).magnitude = n := by
  have hleast : (1 : Rat) ≤ n := by exact_mod_cast hpos
  have hmost : (n : Rat) ≤ (2 : Rat) ^ 1000 := by
    refine le_trans (by exact_mod_cast hfits.le : (n : Rat) ≤ (2 : Rat) ^ 53) ?_
    exact pow_le_pow_right₀ one_le_two (by decide)
  have hone : (2 : Rat) ^ (-1000 : Int) ≤ 1 := zpow_le_one_of_nonpos₀ one_le_two (by decide)
  have hfinite := (roundMagnitude_close (le_trans hone hleast) hmost).1
  have hunit : (n : Rat) * (2 : Rat) ^ (0 : Int) = n := by rw [zpow_zero, mul_one]
  have hkept := BinaryFormat.double.magnitudeValue_roundMagnitude_of_exact (e := 0) hpos hfits
    (by decide) (by rwa [hunit])
  rw [hunit] at hkept
  exact ⟨hfinite, hkept⟩

/-- One, scaled by ten, is a power of ten. -/
theorem scaled_ten (k : Nat) : scaled 1 10 (k : Int) = (10 : Rat) ^ k := by
  rw [scaled_one (by decide), zpow_natCast]
  rfl

/-- The powers of ten that reading needs stay far below the end of the range. -/
theorem pow_ten_le {k : Nat} (hsmall : k ≤ 200) : (10 : Rat) ^ k ≤ (2 : Rat) ^ 800 :=
  calc (10 : Rat) ^ k ≤ (16 : Rat) ^ k := pow_le_pow_left₀ (by norm_num) (by norm_num) k
    _ ≤ (16 : Rat) ^ 200 := pow_le_pow_right₀ (by norm_num) hsmall
    _ = (2 : Rat) ^ 800 := by
        rw [show (16 : Rat) = 2 ^ 4 by norm_num, ← pow_mul]

/-- A power of ten is rounded to nearly itself. -/
theorem powerOfTen_close {k : Nat} (hsmall : k ≤ 200) :
    (powerOfTen k).magnitude < BinaryFormat.double.infinity
      ∧ 2 ^ 53 * |BinaryFormat.double.magnitudeValue (powerOfTen k).magnitude - (10 : Rat) ^ k|
        ≤ (10 : Rat) ^ k := by
  have hleast : (1 : Rat) ≤ (10 : Rat) ^ k := one_le_pow₀ (by norm_num)
  have hmost : (10 : Rat) ^ k ≤ (2 : Rat) ^ 1000 :=
    le_trans (pow_ten_le hsmall) (pow_le_pow_right₀ one_le_two (by decide))
  have hone : (2 : Rat) ^ (-1000 : Int) ≤ 1 := zpow_le_one_of_nonpos₀ one_le_two (by decide)
  show BinaryFormat.double.roundMagnitude (scaled 1 10 (k : Int)) < _
    ∧ 2 ^ 53 * |BinaryFormat.double.magnitudeValue
        (BinaryFormat.double.roundMagnitude (scaled 1 10 (k : Int))) - (10 : Rat) ^ k| ≤ _
  rw [scaled_ten]
  exact roundMagnitude_close (le_trans hone hleast) hmost

/-- The powers of ten whose odd part has 53 bits are exact. -/
theorem powerOfTen_of_small {k : Nat} (hsmall : k ≤ 22) :
    BinaryFormat.double.magnitudeValue (powerOfTen k).magnitude = (10 : Rat) ^ k := by
  -- The factor of two goes into the exponent and leaves a power of five.
  have hsplit : (10 : Rat) ^ k = ((5 ^ k : Nat) : Rat) * (2 : Rat) ^ (k : Int) := by
    rw [zpow_natCast]
    push_cast
    rw [← mul_pow]
    norm_num
  have hfits : 5 ^ k < 2 ^ 53 :=
    Nat.lt_of_le_of_lt (Nat.pow_le_pow_right (by decide) hsmall) (by decide)
  have hleast : BinaryFormat.double.leastExponent ≤ (k : Int) := by
    have hexponent : BinaryFormat.double.leastExponent = -1074 := by decide
    omega
  have hfinite := (powerOfTen_close (le_trans hsmall (by decide))).1
  have hkept := BinaryFormat.double.magnitudeValue_roundMagnitude_of_exact (Nat.pow_pos (by decide))
    hfits hleast (by rw [← hsplit, ← scaled_ten]; exact hfinite)
  rw [← hsplit] at hkept
  rw [← hkept, ← scaled_ten]
  rfl

/-- Two relative errors in a product add up. -/
theorem abs_mul_sub_le {n t p y : Rat} (hnonneg : 0 ≤ n) (hpower : 2 ^ 53 * |p - t| ≤ t)
    (hproduct : 2 ^ 53 * |y - n * p| ≤ n * p) : 2 ^ 53 * |y - n * t| ≤ 3 * (n * t) := by
  have hshift : |n * p - n * t| = n * |p - t| := by rw [← mul_sub, abs_mul, abs_of_nonneg hnonneg]
  have herror := mul_le_mul_of_nonneg_left hpower hnonneg
  have htriangle := abs_sub_le y (n * p) (n * t)
  have hsize := le_abs_self (n * p - n * t)
  have hsmall : 0 ≤ n * |p - t| := mul_nonneg hnonneg (abs_nonneg _)
  rw [hshift] at htriangle hsize
  linarith

/-- Two relative errors in a quotient add up. -/
theorem abs_div_sub_le {n t p y : Rat} (hnonneg : 0 ≤ n) (hpos : 0 < t)
    (hpower : 2 ^ 53 * |p - t| ≤ t) (hquotient : 2 ^ 53 * |y - n / p| ≤ n / p) :
    2 ^ 53 * |y - n / t| ≤ 3 * (n / t) := by
  have hbelow := neg_abs_le (p - t)
  have hpositive : 0 < p := by linarith
  have hexact : 0 ≤ n / t := div_nonneg hnonneg hpos.le
  have hleast := abs_nonneg (n / p - n / t)
  -- The rounded divisor moves the quotient by the same part that it moved itself.
  have hshift : |n / p - n / t| * p = n / t * |p - t| := by
    have hsame : (n / p - n / t) * p = n / t * (t - p) := by
      rw [sub_mul, div_mul_cancel₀ _ hpositive.ne', mul_sub, div_mul_cancel₀ _ hpos.ne']
    rw [← abs_of_pos hpositive, ← abs_mul, abs_of_pos hpositive, hsame, abs_mul,
      abs_of_nonneg hexact,
      abs_sub_comm]
  have herror : (2 ^ 53 - 1) * |n / p - n / t| ≤ n / t := by
    refine le_of_mul_le_mul_right ?_ hpos
    have hnumerator := mul_le_mul_of_nonneg_left hpower hexact
    have hdenominator := mul_le_mul_of_nonneg_left hpower hleast
    have hsmaller := mul_le_mul_of_nonneg_left (show t - |p - t| ≤ p by linarith) hleast
    linarith
  have htriangle := abs_sub_le y (n / p) (n / t)
  have hsize := le_abs_self (n / p - n / t)
  linarith

section Range

variable {n p : Rat} (hone : 1 ≤ n) (hdigits : n ≤ 2 ^ 53) (hhalf : 1 / 2 ≤ p)
  (hpower : p ≤ 2 ^ 801)
include hone hdigits hhalf hpower

/-- Digits times a power stay far from both ends of the range. -/
theorem mul_range : (2 : Rat) ^ (-1000 : Int) ≤ n * p ∧ n * p ≤ 2 ^ 1000 := by
  have htiny : (2 : Rat) ^ (-1000 : Int) ≤ 1 / 2 := by
    rw [one_div, ← zpow_neg_one]
    exact zpow_le_zpow_right₀ one_le_two (by decide)
  constructor
  · calc (2 : Rat) ^ (-1000 : Int) ≤ 1 * (1 / 2) := by rwa [one_mul]
      _ ≤ n * p := mul_le_mul hone hhalf (by norm_num) (by linarith)
  · calc n * p ≤ 2 ^ 53 * 2 ^ 801 := mul_le_mul hdigits hpower (by linarith) (by positivity)
      _ = (2 : Rat) ^ 854 := (pow_add 2 53 801).symm
      _ ≤ (2 : Rat) ^ 1000 := pow_le_pow_right₀ one_le_two (by decide)

/-- Digits over a power stay far from both ends of the range. -/
theorem div_range : (2 : Rat) ^ (-1000 : Int) ≤ n / p ∧ n / p ≤ 2 ^ 1000 := by
  constructor
  · calc (2 : Rat) ^ (-1000 : Int) ≤ (2 : Rat) ^ (-801 : Int) :=
          zpow_le_zpow_right₀ one_le_two (by decide)
      _ = 1 / (2 : Rat) ^ 801 := by rw [zpow_neg, one_div]; rfl
      _ ≤ n / p := div_le_div₀ (by linarith) hone (by linarith) hpower
  · calc n / p ≤ 2 ^ 53 / (1 / 2) := div_le_div₀ (by positivity) hdigits (by norm_num) hhalf
      _ = (2 : Rat) ^ 54 := by norm_num
      _ ≤ (2 : Rat) ^ 1000 := pow_le_pow_right₀ one_le_two (by decide)

end Range

section Decimal

variable {d : Decimal}

/-- A decimal whose exponent is not negative is a product. -/
theorem value_of_nonneg (hup : 0 ≤ d.exponent) :
    d.value = d.digits * (10 : Rat) ^ d.exponent.natAbs := by
  rw [Decimal.value_eq, ← zpow_natCast, Int.natAbs_of_nonneg hup]

/-- A decimal whose exponent is negative is a quotient. -/
theorem value_of_neg (hdown : d.exponent < 0) :
    d.value = d.digits / (10 : Rat) ^ d.exponent.natAbs := by
  have hexponent : d.exponent = -(d.exponent.natAbs : Int) := by omega
  rw [Decimal.value_eq, div_eq_mul_inv, ← zpow_natCast, ← zpow_neg, ← hexponent]

variable (hpos : 0 < d.digits) (hfits : d.digits < 2 ^ 53)
include hpos hfits

/-- The exact result that is rounded last: the digits times or over the rounded
power of ten. -/
theorem magnitude_scaleOnce (hsmall : d.exponent.natAbs ≤ 200) :
    (0 ≤ d.exponent ∧ (scaleOnce d).magnitude = BinaryFormat.double.roundMagnitude
        (d.digits * BinaryFormat.double.magnitudeValue (powerOfTen d.exponent.natAbs).magnitude))
      ∨ (d.exponent < 0 ∧ (scaleOnce d).magnitude = BinaryFormat.double.roundMagnitude
        (d.digits
          / BinaryFormat.double.magnitudeValue (powerOfTen d.exponent.natAbs).magnitude)) := by
  obtain ⟨hfinite, hdigits⟩ := magnitudeValue_ofInt hpos hfits
  obtain ⟨hpowerFinite, hclose⟩ := powerOfTen_close hsmall
  unfold scaleOnce
  rcases lt_or_ge d.exponent 0 with hdown | hup
  · right
    refine ⟨hdown, ?_⟩
    -- A power of ten that is rounded to nearly itself is not rounded to zero.
    have hpowerPos : 0 < (powerOfTen d.exponent.natAbs).magnitude := by
      refine Nat.pos_of_ne_zero fun hzero => ?_
      have hten : (0 : Rat) < (10 : Rat) ^ d.exponent.natAbs := by positivity
      rw [hzero, BinaryFormat.magnitudeValue_zero, zero_sub, abs_neg, abs_of_pos hten] at hclose
      linarith
    rw [if_neg (not_le.mpr hdown), Binary.magnitude_div hfinite hpowerFinite hpowerPos, hdigits]
  · left
    refine ⟨hup, ?_⟩
    rw [if_pos hup, Binary.magnitude_mul hfinite hpowerFinite, hdigits]

/-- The number read is finite and within three units of the decimal. -/
theorem scaleOnce_close (hsmall : d.exponent.natAbs ≤ 200) :
    (scaleOnce d).magnitude < BinaryFormat.double.infinity
      ∧ 2 ^ 53 * |BinaryFormat.double.magnitudeValue (scaleOnce d).magnitude - d.value|
        ≤ 3 * d.value := by
  obtain ⟨-, hpower⟩ := powerOfTen_close hsmall
  have hcases := magnitude_scaleOnce hpos hfits hsmall
  generalize BinaryFormat.double.magnitudeValue (powerOfTen d.exponent.natAbs).magnitude = p at *
  have hone : (1 : Rat) ≤ d.digits := by exact_mod_cast hpos
  have hdigits : (d.digits : Rat) ≤ 2 ^ 53 := by exact_mod_cast hfits.le
  have hten : (1 : Rat) ≤ (10 : Rat) ^ d.exponent.natAbs := one_le_pow₀ (by norm_num)
  have hmost := pow_ten_le hsmall
  have herror := abs_nonneg (p - (10 : Rat) ^ d.exponent.natAbs)
  obtain ⟨hbelow, habove⟩ := abs_le.mp (show |p - (10 : Rat) ^ d.exponent.natAbs|
    ≤ (10 : Rat) ^ d.exponent.natAbs / 2 by linarith)
  -- The rounded power is within a factor of two of the exact one, so nothing leaves the range.
  have hhalf : 1 / 2 ≤ p := by linarith
  have hbound : p ≤ (2 : Rat) ^ 801 :=
    calc p ≤ (10 : Rat) ^ d.exponent.natAbs * 2 := by linarith
      _ ≤ (2 : Rat) ^ 800 * 2 := mul_le_mul_of_nonneg_right hmost (by norm_num)
      _ = (2 : Rat) ^ 801 := (pow_succ 2 800).symm
  rcases hcases with ⟨hup, hmagnitude⟩ | ⟨hdown, hmagnitude⟩
  · obtain ⟨hlow, hhigh⟩ := mul_range hone hdigits hhalf hbound
    obtain ⟨hfinite, hproduct⟩ := roundMagnitude_close hlow hhigh
    rw [hmagnitude, value_of_nonneg hup]
    exact ⟨hfinite, abs_mul_sub_le (by linarith) hpower hproduct⟩
  · obtain ⟨hlow, hhigh⟩ := div_range hone hdigits hhalf hbound
    obtain ⟨hfinite, hquotient⟩ := roundMagnitude_close hlow hhigh
    rw [hmagnitude, value_of_neg hdown]
    exact ⟨hfinite, abs_div_sub_le (by linarith) (by linarith) hpower hquotient⟩

/-- Where the power of ten is exact, only one rounding is left. -/
theorem magnitude_scaleOnce_of_small (hsmall : d.exponent.natAbs ≤ 22) :
    (scaleOnce d).magnitude = BinaryFormat.double.roundMagnitude d.value := by
  have hexact := powerOfTen_of_small hsmall
  rcases magnitude_scaleOnce hpos hfits (le_trans hsmall (by decide)) with
    ⟨hup, hmagnitude⟩ | ⟨hdown, hmagnitude⟩
  · rw [hmagnitude, hexact, value_of_nonneg hup]
  · rw [hmagnitude, hexact, value_of_neg hdown]

end Decimal

/-! ### Narrowing -/

/-- What is left of a finite number in 32 bits is the sign that it was given and
the nearest magnitude. -/
theorem toSingle_real (negative : Bool) {x : Double}
    (hfinite : x.magnitude < BinaryFormat.double.infinity) :
    (Number.real { x with negative := negative }).toSingle
      = Binary.round negative (BinaryFormat.double.magnitudeValue x.magnitude) := by
  show Binary.convert (Binary.mk negative x.magnitude x.magnitude_lt) = _
  unfold Binary.convert
  rw [Binary.isNaN_of_finite (x := ⟨negative, _, _⟩) hfinite,
    Binary.isInfinite_of_finite (x := ⟨negative, _, _⟩) hfinite]
  rfl

end Json.Literal

end ClassifierBridge
