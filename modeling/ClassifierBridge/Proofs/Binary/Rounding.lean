import ClassifierBridge.Binary.Arithmetic
import Mathlib.Algebra.Order.Field.Power
import Mathlib.Algebra.Order.Field.Rat
import Mathlib.Data.Rat.Cast.Order
import Mathlib.Tactic.Linarith
import Mathlib.Tactic.LinearCombination
import Mathlib.Tactic.NormNum
import Mathlib.Tactic.Ring

/-!
# `ClassifierBridge.Proofs.Binary.Rounding`: rounding keeps the order

Rounding to a binary format is monotone and keeps every number of the format.
These two facts say all that the bounds and round trips of numbers need: a
number of the format that bounds a rational from either side bounds what the
rational is rounded to.

* `scaled_eq`: `scaled` is multiplication with an integer power.
* `floorLog_spec`: the choice between two candidates finds the exponent, with
  `floorLog2_spec` for base two.
* `nearestEven_mono`, `nearestEven_natCast`: rounding to natural numbers.
* `BinaryFormat.roundMagnitude_mono`, `BinaryFormat.roundMagnitude_magnitudeValue`:
  rounding to a format.
* `BinaryFormat.magnitudeValue_lt`: finite magnitudes are in the order of their
  values.
-/

set_option autoImplicit false

namespace ClassifierBridge

/-! ### Powers -/

/-- The power that the program computes, in the notation of the lemmas here. -/
theorem twoPow_eq (n : Nat) : twoPow n = 2 ^ n := rfl

/-- Scaling by a base that is computed with natural numbers is multiplication by an
integer power, of either sign. -/
theorem scaled_eq {base : Nat} (hpos : 0 < base) (m e : Int) :
    scaled m base e = (m : Rat) * (base : Rat) ^ e := by
  have hnonzero : (base : Rat) ≠ 0 := by exact_mod_cast hpos.ne'
  rw [scaled, Nat.pow_eq, Nat.pow_eq]
  split
  · next hnonneg =>
      -- Up the scale the program multiplies.
      obtain ⟨n, rfl⟩ := Int.eq_ofNat_of_zero_le hnonneg
      rw [Int.toNat_natCast, zpow_natCast]
      push_cast
      rfl
  · next hnegative =>
      -- Down the scale it makes a fraction of the power.
      obtain ⟨n, hsame⟩ := Int.eq_ofNat_of_zero_le (a := -e) (by omega)
      obtain rfl : e = -(n : Int) := by omega
      rw [hsame, Int.toNat_natCast, zpow_neg, zpow_natCast, Rat.mkRat_eq_div]
      push_cast
      rw [div_eq_mul_inv]

/-- A scaled one is the power itself. -/
theorem scaled_one {base : Nat} (hpos : 0 < base) (e : Int) :
    scaled 1 base e = (base : Rat) ^ e := by
  rw [scaled_eq hpos, Int.cast_one, one_mul]

/-- A natural power of two, as an integer power of a rational. -/
theorem natCast_two_pow (n : Nat) : ((2 ^ n : Nat) : Rat) = (2 : Rat) ^ (n : Int) := by
  rw [zpow_natCast]
  push_cast
  rfl

/-- The numerator that the program takes apart is the number times its denominator. -/
theorem natCast_toNat_num {x : Rat} (hnonneg : 0 ≤ x) : (x.num.toNat : Rat) = x * x.den := by
  have hnum : ((x.num.toNat : Nat) : Int) = x.num :=
    Int.toNat_of_nonneg (Rat.num_nonneg.mpr hnonneg)
  rw [Rat.mul_den_eq_num, ← hnum]
  rfl

/-- The candidate that the digit counts of numerator and denominator leave is
the exponent of the power just at or below `x`. -/
theorem floorLog_spec {base a b : Nat} {x : Rat} (htwo : 2 ≤ base) (hpos : 0 < x)
    (hnumLow : base ^ a ≤ x.num.toNat) (hnumHigh : x.num.toNat < base ^ (a + 1))
    (hdenLow : base ^ b ≤ x.den) (hdenHigh : x.den < base ^ (b + 1)) {e : Int}
    (hfound : e = if scaled 1 base ((a : Int) - b) ≤ x then (a : Int) - b else (a : Int) - b - 1) :
    (base : Rat) ^ e ≤ x ∧ x < (base : Rat) ^ (e + 1) := by
  have hbasePos : (0 : Rat) < base := by exact_mod_cast (by omega : 0 < base)
  -- Bounds on numerator and denominator become bounds on `x` after multiplication.
  have hproduct : ∀ (k : Int) (m n : Nat), k + m = n →
      (base : Rat) ^ k * (base : Rat) ^ m = (base : Rat) ^ n := by
    intro k m n hsum
    rw [← zpow_natCast, ← zpow_natCast, ← zpow_add₀ hbasePos.ne', hsum]
  have hquotient := natCast_toNat_num hpos.le
  have hnumLow' : (base : Rat) ^ a ≤ x * x.den := by rw [← hquotient]; exact_mod_cast hnumLow
  have hnumHigh' : x * x.den < (base : Rat) ^ (a + 1) := by
    rw [← hquotient]; exact_mod_cast hnumHigh
  have hdenLow' : (base : Rat) ^ b ≤ x.den := by exact_mod_cast hdenLow
  have hdenHigh' : (x.den : Rat) < (base : Rat) ^ (b + 1) := by exact_mod_cast hdenHigh
  have habove : x < (base : Rat) ^ ((a : Int) - b + 1) := by
    have hstep : x * (base : Rat) ^ b < (base : Rat) ^ ((a : Int) - b + 1) * (base : Rat) ^ b := by
      rw [hproduct _ b (a + 1) (by omega)]
      exact lt_of_le_of_lt (mul_le_mul_of_nonneg_left hdenLow' hpos.le) hnumHigh'
    exact lt_of_mul_lt_mul_right hstep (pow_pos hbasePos b).le
  have hbelow : (base : Rat) ^ ((a : Int) - b - 1) < x := by
    have hstep : (base : Rat) ^ ((a : Int) - b - 1) * (base : Rat) ^ (b + 1)
        < x * (base : Rat) ^ (b + 1) := by
      rw [hproduct _ (b + 1) a (by omega)]
      exact lt_of_le_of_lt hnumLow' (mul_lt_mul_of_pos_left hdenHigh' hpos)
    exact lt_of_mul_lt_mul_right hstep (pow_pos hbasePos (b + 1)).le
  -- Only two exponents are left between these bounds, and one comparison decides.
  rw [scaled_one (by omega)] at hfound
  split at hfound
  · next hreached =>
      subst hfound
      exact ⟨hreached, habove⟩
  · next hnotReached =>
      subst hfound
      rw [sub_add_cancel]
      exact ⟨hbelow.le, not_le.mp hnotReached⟩

/-- The binary exponent of a number: the greatest power of two that is not above it. -/
theorem floorLog2_spec {x : Rat} (hpos : 0 < x) :
    (2 : Rat) ^ floorLog2 x ≤ x ∧ x < (2 : Rat) ^ (floorLog2 x + 1) := by
  have hnum : x.num.toNat ≠ 0 := by
    have := Rat.num_pos.mpr hpos
    omega
  have hspec := floorLog_spec (e := floorLog2 x) (le_refl 2) hpos
    (Nat.log2_self_le hnum) Nat.lt_log2_self (Nat.log2_self_le x.den_nz) Nat.lt_log2_self rfl
  exact_mod_cast hspec

/-- Exponents are in the order of the numbers. -/
theorem floorLog2_mono {x y : Rat} (hpos : 0 < x) (hle : x ≤ y) : floorLog2 x ≤ floorLog2 y := by
  have hlow := (floorLog2_spec hpos).1
  have hhigh := (floorLog2_spec (lt_of_lt_of_le hpos hle)).2
  have hbetween := lt_of_le_of_lt (le_trans hlow hle) hhigh
  have hexponents := (zpow_lt_zpow_iff_right₀ (one_lt_two : (1 : Rat) < 2)).mp hbetween
  omega

/-- A number between neighbouring powers of two has the lower exponent. -/
theorem floorLog2_eq {x : Rat} {e : Int} (hlow : (2 : Rat) ^ e ≤ x)
    (hhigh : x < (2 : Rat) ^ (e + 1)) : floorLog2 x = e := by
  have hpos : 0 < x := lt_of_lt_of_le (zpow_pos two_pos e) hlow
  obtain ⟨hlow', hhigh'⟩ := floorLog2_spec hpos
  have hleast :=
    (zpow_lt_zpow_iff_right₀ (one_lt_two : (1 : Rat) < 2)).mp (lt_of_le_of_lt hlow hhigh')
  have hmost :=
    (zpow_lt_zpow_iff_right₀ (one_lt_two : (1 : Rat) < 2)).mp (lt_of_le_of_lt hlow' hhigh)
  omega

/-! ### Natural numbers -/

/-- The nearest natural number is at most half a unit away, and even where two
are at that distance. -/
theorem nearestQuotient_spec (num : Nat) {den : Nat} (hpos : 0 < den) :
    2 * num ≤ 2 * (nearestQuotient num den * den) + den
      ∧ 2 * (nearestQuotient num den * den) ≤ 2 * num + den
      ∧ (2 * num = 2 * (nearestQuotient num den * den) + den
          ∨ 2 * (nearestQuotient num den * den) = 2 * num + den
        → nearestQuotient num den % 2 = 0) := by
  have hsplit : den * (num / den) + num % den = num := Nat.div_add_mod num den
  have hrest : num % den < den := Nat.mod_lt num hpos
  rw [Nat.mul_comm] at hsplit
  have hnext : (num / den + 1) * den = num / den * den + den := Nat.succ_mul _ den
  unfold nearestQuotient
  generalize num / den = q at hsplit hnext ⊢
  generalize num % den = r at hsplit hrest ⊢
  dsimp only
  by_cases hbelow : 2 * r < den
  · rw [if_pos hbelow]
    omega
  · rw [if_neg hbelow]
    by_cases habove : den < 2 * r
    · rw [if_pos habove]
      omega
    · rw [if_neg habove]
      -- Halfway, the even one of the neighbours is taken.
      rcases Nat.mod_two_eq_zero_or_one q with heven | hodd
      · rw [heven, Nat.add_zero]
        omega
      · rw [hodd]
        omega

/-- The nearest natural number is at most half a unit away, and even where two
are at that distance. -/
theorem nearestEven_spec {x : Rat} (hnonneg : 0 ≤ x) :
    2 * x ≤ 2 * (nearestEven x : Rat) + 1 ∧ 2 * (nearestEven x : Rat) ≤ 2 * x + 1
      ∧ (2 * x = 2 * (nearestEven x : Rat) + 1 ∨ 2 * (nearestEven x : Rat) = 2 * x + 1
        → nearestEven x % 2 = 0) := by
  have hdenPos : (0 : Rat) < x.den := by exact_mod_cast x.den_pos
  have hquotient := natCast_toNat_num hnonneg
  obtain ⟨hhigh, hlow, heven⟩ := nearestQuotient_spec x.num.toNat x.den_pos
  unfold nearestEven
  generalize nearestQuotient x.num.toNat x.den = n at hhigh hlow heven ⊢
  -- Each comparison is the one of the quotients, multiplied by the denominator.
  have hhigh' : 2 * (x * x.den) ≤ 2 * ((n : Rat) * x.den) + x.den := by
    rw [← hquotient]
    exact_mod_cast hhigh
  have hlow' : 2 * ((n : Rat) * x.den) ≤ 2 * (x * x.den) + x.den := by
    rw [← hquotient]
    exact_mod_cast hlow
  refine ⟨?_, ?_, fun htie => heven ?_⟩
  · refine le_of_mul_le_mul_right ?_ hdenPos
    linarith
  · refine le_of_mul_le_mul_right ?_ hdenPos
    linarith
  · rcases htie with htie | htie
    · left
      have hscaledTie : 2 * (x * x.den) = 2 * ((n : Rat) * x.den) + x.den := by
        linear_combination (x.den : Rat) * htie
      rw [← hquotient] at hscaledTie
      exact_mod_cast hscaledTie
    · right
      have hscaledTie : 2 * ((n : Rat) * x.den) = 2 * (x * x.den) + x.den := by
        linear_combination (x.den : Rat) * htie
      rw [← hquotient] at hscaledTie
      exact_mod_cast hscaledTie

/-- Two numbers can only be rounded against their order if both lie halfway
between the same two, and then both are rounded to the even one. -/
theorem nearestEven_mono {x y : Rat} (hnonneg : 0 ≤ x) (hle : x ≤ y) :
    nearestEven x ≤ nearestEven y := by
  obtain ⟨-, hlowX, hevenX⟩ := nearestEven_spec hnonneg
  obtain ⟨hhighY, -, hevenY⟩ := nearestEven_spec (le_trans hnonneg hle)
  by_contra hagainst
  rw [not_le] at hagainst
  have hapart : (nearestEven y : Rat) + 1 ≤ nearestEven x := by exact_mod_cast hagainst
  -- One comes down by half a unit and the other goes up by half a unit.
  have htieX := hevenX (.inr (by linarith))
  have htieY := hevenY (.inl (by linarith))
  have hadjacent : (nearestEven x : Rat) = nearestEven y + 1 := by linarith
  have hadjacent' : nearestEven x = nearestEven y + 1 := by exact_mod_cast hadjacent
  omega

/-- A natural number is its own nearest one. -/
theorem nearestEven_natCast (n : Nat) : nearestEven (n : Rat) = n := by
  obtain ⟨hhigh, hlow, -⟩ := nearestEven_spec (x := (n : Rat)) (by exact_mod_cast Nat.zero_le n)
  have hhigh' : 2 * n ≤ 2 * nearestEven (n : Rat) + 1 := by exact_mod_cast hhigh
  have hlow' : 2 * nearestEven (n : Rat) ≤ 2 * n + 1 := by exact_mod_cast hlow
  omega

/-! ### Formats -/

namespace BinaryFormat

variable (fmt : BinaryFormat)

/-- The last place of the number that `x` is rounded to. -/
def roundingPlace (x : Rat) : Int :=
  max fmt.leastExponent (floorLog2 x - (fmt.fractionBits : Int))

/-- The significand that `x` is rounded to. -/
def roundedSignificand (x : Rat) : Nat := nearestEven (x * (2 : Rat) ^ (-fmt.roundingPlace x))

/-- The pattern of a rounded number: its place counts in units of the hidden one,
and the significand is added, with the hidden one still in it. -/
theorem roundMagnitude_of_pos {x : Rat} (hpos : 0 < x) :
    fmt.roundMagnitude x = min fmt.infinity
      ((fmt.roundingPlace x - fmt.leastExponent).toNat * 2 ^ fmt.fractionBits
        + fmt.roundedSignificand x) := by
  have hnum : ¬ x.num ≤ 0 := not_le.mpr (Rat.num_pos.mpr hpos)
  have hunit : scaled 1 2 (-fmt.roundingPlace x) = (2 : Rat) ^ (-fmt.roundingPlace x) :=
    scaled_one two_pos _
  rw [roundMagnitude, if_neg hnum, roundedSignificand, ← hunit]
  rfl

/-- Magnitudes begin at zero. -/
theorem roundMagnitude_of_nonpos {x : Rat} (hnonpos : x ≤ 0) : fmt.roundMagnitude x = 0 := by
  rw [roundMagnitude, if_pos (Rat.num_nonpos.mpr hnonpos)]

/-- Greater numbers are rounded at the same place or at a higher one. -/
theorem roundingPlace_mono {x y : Rat} (hpos : 0 < x) (hle : x ≤ y) :
    fmt.roundingPlace x ≤ fmt.roundingPlace y := by
  have hexponents := floorLog2_mono hpos hle
  unfold roundingPlace
  omega

/-- A significand has one bit more than the fraction, or is the next power of
two after rounding up. -/
theorem roundedSignificand_le {x : Rat} (hpos : 0 < x) :
    fmt.roundedSignificand x ≤ 2 ^ (fmt.fractionBits + 1) := by
  have hhigh := (floorLog2_spec hpos).2
  have hexponent : floorLog2 x + 1 + -fmt.roundingPlace x
      ≤ ((fmt.fractionBits + 1 : Nat) : Int) := by
    unfold roundingPlace
    omega
  -- The bound is a natural number, so rounding does not get past it.
  have hbound : x * (2 : Rat) ^ (-fmt.roundingPlace x)
      ≤ ((2 ^ (fmt.fractionBits + 1) : Nat) : Rat) := by
    calc x * (2 : Rat) ^ (-fmt.roundingPlace x)
        ≤ (2 : Rat) ^ (floorLog2 x + 1) * (2 : Rat) ^ (-fmt.roundingPlace x) :=
          mul_le_mul_of_nonneg_right hhigh.le (zpow_pos two_pos _).le
      _ = (2 : Rat) ^ (floorLog2 x + 1 + -fmt.roundingPlace x) := (zpow_add₀ two_ne_zero _ _).symm
      _ ≤ (2 : Rat) ^ ((fmt.fractionBits + 1 : Nat) : Int) :=
          zpow_le_zpow_right₀ one_le_two hexponent
      _ = ((2 ^ (fmt.fractionBits + 1) : Nat) : Rat) := (natCast_two_pow _).symm
  have hrounded := nearestEven_mono (mul_pos hpos (zpow_pos two_pos _)).le hbound
  rw [nearestEven_natCast] at hrounded
  exact hrounded

/-- Above the least exponent a significand has its full width. -/
theorem le_roundedSignificand {x : Rat} (hpos : 0 < x)
    (hnormal : fmt.leastExponent < fmt.roundingPlace x) :
    2 ^ fmt.fractionBits ≤ fmt.roundedSignificand x := by
  have hlow := (floorLog2_spec hpos).1
  have hexponent : (fmt.fractionBits : Int) = floorLog2 x + -fmt.roundingPlace x := by
    unfold roundingPlace at hnormal ⊢
    omega
  -- Here, too, the bound is a natural number.
  have hbound : ((2 ^ fmt.fractionBits : Nat) : Rat) ≤ x * (2 : Rat) ^ (-fmt.roundingPlace x) := by
    calc ((2 ^ fmt.fractionBits : Nat) : Rat)
        = (2 : Rat) ^ (fmt.fractionBits : Int) := natCast_two_pow _
      _ = (2 : Rat) ^ floorLog2 x * (2 : Rat) ^ (-fmt.roundingPlace x) := by
          rw [hexponent, zpow_add₀ two_ne_zero]
      _ ≤ x * (2 : Rat) ^ (-fmt.roundingPlace x) :=
          mul_le_mul_of_nonneg_right hlow (zpow_pos two_pos _).le
  have hrounded := nearestEven_mono (by exact_mod_cast Nat.zero_le _) hbound
  rw [nearestEven_natCast] at hrounded
  exact hrounded

/-- Rounding keeps the order. -/
theorem roundMagnitude_mono {x y : Rat} (hle : x ≤ y) :
    fmt.roundMagnitude x ≤ fmt.roundMagnitude y := by
  rcases le_or_gt x 0 with hnonpos | hpos
  · rw [fmt.roundMagnitude_of_nonpos hnonpos]
    exact Nat.zero_le _
  · rw [fmt.roundMagnitude_of_pos hpos, fmt.roundMagnitude_of_pos (lt_of_lt_of_le hpos hle)]
    refine min_le_min_left _ ?_
    rcases eq_or_lt_of_le (fmt.roundingPlace_mono hpos hle) with hsame | hlower
    · -- On the same grid the significands decide.
      have hsignificands : fmt.roundedSignificand x ≤ fmt.roundedSignificand y := by
        unfold roundedSignificand
        rw [hsame]
        exact nearestEven_mono (mul_pos hpos (zpow_pos two_pos _)).le
          (mul_le_mul_of_nonneg_right hle (zpow_pos two_pos _).le)
      rw [hsame]
      omega
    · -- A higher place makes up for whatever the significands are.
      have hleast : fmt.leastExponent ≤ fmt.roundingPlace x := le_max_left _ _
      have hhigh := fmt.roundedSignificand_le hpos
      have hlow :=
        fmt.le_roundedSignificand (lt_of_lt_of_le hpos hle) (lt_of_le_of_lt hleast hlower)
      have hplaces : (fmt.roundingPlace x - fmt.leastExponent).toNat + 1
          ≤ (fmt.roundingPlace y - fmt.leastExponent).toNat := by omega
      have hcarried := Nat.mul_le_mul_right (2 ^ fmt.fractionBits) hplaces
      rw [Nat.succ_mul] at hcarried
      rw [Nat.pow_succ] at hhigh
      omega

/-- The value of a pattern, as a significand on its last place. -/
theorem magnitudeValue_eq (m : Nat) :
    fmt.magnitudeValue m = (fmt.significand m : Rat) * (2 : Rat) ^ fmt.lastPlace m := by
  rw [magnitudeValue, scaled_eq two_pos]
  push_cast
  rfl

/-- Magnitudes carry no sign. -/
theorem magnitudeValue_nonneg (m : Nat) : 0 ≤ fmt.magnitudeValue m := by
  rw [magnitudeValue_eq]
  exact mul_nonneg (Nat.cast_nonneg _) (zpow_pos two_pos _).le

/-- The least pattern stands for zero. -/
theorem magnitudeValue_zero : fmt.magnitudeValue 0 = 0 := by
  rw [magnitudeValue_eq, significand, Nat.zero_div, if_pos rfl, Nat.cast_zero, zero_mul]

/-- A magnitude is made up of its significand and its place. -/
theorem magnitude_eq (m : Nat) :
    (fmt.lastPlace m - fmt.leastExponent).toNat * 2 ^ fmt.fractionBits + fmt.significand m = m := by
  have hsplit := Nat.div_add_mod m (2 ^ fmt.fractionBits)
  rw [Nat.mul_comm] at hsplit
  unfold lastPlace significand
  rw [twoPow_eq, add_sub_cancel_left, Int.toNat_natCast]
  -- The exponent fields zero and one share the least place, and the hidden one tells them apart.
  split
  · next hsubnormal =>
      rw [hsubnormal]
      omega
  · next hnormal =>
      obtain ⟨q, hsame⟩ := Nat.exists_eq_succ_of_ne_zero hnormal
      rw [hsame, Nat.succ_mul] at hsplit
      rw [hsame, Nat.succ_sub_one]
      omega

/-- Only zero has a significand of zero. -/
theorem significand_pos {m : Nat} (hpos : 0 < m) : 0 < fmt.significand m := by
  unfold significand
  split
  · exact hpos
  · have := twoPow_pos fmt.fractionBits
    omega

/-- Only zero has the value zero. -/
theorem magnitudeValue_pos {m : Nat} (hpos : 0 < m) : 0 < fmt.magnitudeValue m := by
  rw [magnitudeValue_eq]
  exact mul_pos (by exact_mod_cast fmt.significand_pos hpos) (zpow_pos two_pos _)

/-- The place of a number is the place that its value is rounded at. -/
theorem roundingPlace_magnitudeValue {m : Nat} (hpos : 0 < m) :
    fmt.roundingPlace (fmt.magnitudeValue m) = fmt.lastPlace m := by
  have hpower : ∀ e : Int, (2 : Rat) ^ ((fmt.fractionBits : Int) + e)
      = ((2 ^ fmt.fractionBits : Nat) : Rat) * (2 : Rat) ^ e := by
    intro e
    rw [zpow_add₀ two_ne_zero, natCast_two_pow]
  have hpositive := fmt.magnitudeValue_pos hpos
  have hvalue := fmt.magnitudeValue_eq m
  have hunit : (0 : Rat) < (2 : Rat) ^ fmt.lastPlace m := zpow_pos two_pos _
  by_cases hsubnormal : m / 2 ^ fmt.fractionBits = 0
  · -- The value is too small for a full significand, so the least place is taken.
    have hsmall : fmt.significand m < 2 ^ fmt.fractionBits := by
      rw [significand, twoPow_eq, if_pos hsubnormal]
      exact (Nat.div_eq_zero_iff_lt (Nat.two_pow_pos _)).mp hsubnormal
    have hleast : fmt.lastPlace m = fmt.leastExponent := by
      rw [lastPlace, twoPow_eq, hsubnormal]
      simp
    have hbound : fmt.magnitudeValue m
        < (2 : Rat) ^ ((fmt.fractionBits : Int) + fmt.lastPlace m) := by
      rw [hvalue, hpower]
      exact mul_lt_mul_of_pos_right (by exact_mod_cast hsmall) hunit
    have hexponent := (zpow_lt_zpow_iff_right₀ (one_lt_two : (1 : Rat) < 2)).mp
      (lt_of_le_of_lt (floorLog2_spec hpositive).1 hbound)
    rw [roundingPlace]
    omega
  · -- With the hidden one, the significand has its full width.
    have hfull : 2 ^ fmt.fractionBits ≤ fmt.significand m
        ∧ fmt.significand m < 2 * 2 ^ fmt.fractionBits := by
      have hrest := Nat.mod_lt m (Nat.two_pow_pos fmt.fractionBits)
      rw [significand, twoPow_eq, if_neg hsubnormal]
      omega
    have hleast : fmt.leastExponent ≤ fmt.lastPlace m := by
      unfold lastPlace
      omega
    have hexponent : floorLog2 (fmt.magnitudeValue m)
        = (fmt.fractionBits : Int) + fmt.lastPlace m := by
      refine floorLog2_eq ?_ ?_
      · rw [hvalue, hpower]
        exact mul_le_mul_of_nonneg_right (by exact_mod_cast hfull.1) hunit.le
      · rw [hvalue, add_comm _ 1, ← add_assoc, add_assoc, zpow_add₀ two_ne_zero, zpow_one, hpower,
          ← mul_assoc]
        exact mul_lt_mul_of_pos_right (by exact_mod_cast hfull.2) hunit
    rw [roundingPlace, hexponent]
    omega

/-- Every finite number of the format is rounded to itself. -/
theorem roundMagnitude_magnitudeValue {m : Nat} (hfinite : m ≤ fmt.infinity) :
    fmt.roundMagnitude (fmt.magnitudeValue m) = m := by
  rcases Nat.eq_zero_or_pos m with rfl | hpos
  · exact fmt.roundMagnitude_of_nonpos fmt.magnitudeValue_zero.le
  · have hsignificand : fmt.roundedSignificand (fmt.magnitudeValue m) = fmt.significand m := by
      rw [roundedSignificand, fmt.roundingPlace_magnitudeValue hpos, magnitudeValue_eq, mul_assoc,
        ← zpow_add₀ two_ne_zero, add_neg_cancel, zpow_zero, mul_one, nearestEven_natCast]
    rw [fmt.roundMagnitude_of_pos (fmt.magnitudeValue_pos hpos),
      fmt.roundingPlace_magnitudeValue hpos, hsignificand, magnitude_eq]
    exact min_eq_right hfinite

/-- Finite magnitudes are in the order of their values. -/
theorem magnitudeValue_lt {m n : Nat} (hlt : m < n) (hfinite : n ≤ fmt.infinity) :
    fmt.magnitudeValue m < fmt.magnitudeValue n := by
  -- Values in the wrong order would be rounded in the wrong order.
  by_contra hagainst
  have hrounded := fmt.roundMagnitude_mono (not_lt.mp hagainst)
  rw [fmt.roundMagnitude_magnitudeValue hfinite,
    fmt.roundMagnitude_magnitudeValue (le_trans hlt.le hfinite)] at hrounded
  omega

/-- The same for patterns that may be equal. -/
theorem magnitudeValue_le {m n : Nat} (hle : m ≤ n) (hfinite : n ≤ fmt.infinity) :
    fmt.magnitudeValue m ≤ fmt.magnitudeValue n := by
  rcases Nat.eq_or_lt_of_le hle with rfl | hlt
  · exact le_refl _
  · exact (fmt.magnitudeValue_lt hlt hfinite).le

/-- A number of the format that bounds a rational bounds what it is rounded to. -/
theorem roundMagnitude_le_of_le {x : Rat} {m : Nat} (hfinite : m ≤ fmt.infinity)
    (hle : x ≤ fmt.magnitudeValue m) : fmt.roundMagnitude x ≤ m := by
  have hrounded := fmt.roundMagnitude_mono hle
  rw [fmt.roundMagnitude_magnitudeValue hfinite] at hrounded
  exact hrounded

end BinaryFormat

end ClassifierBridge
