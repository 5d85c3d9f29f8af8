import ClassifierBridge.Proofs.Binary.Rounding
import ClassifierBridge.Proofs.Json.Number

/-!
# `ClassifierBridge.Proofs.Json.Scale`: literals that are not out of range

Only a product can be too large for the format: a literal whose scaling shrinks
it has a value, whatever its digits, and so has one whose power of ten is small
beside the range of the format.

* `Binary.isInfinite_mul`: products that a finite number bounds are finite.
* `Literal.scale_of_neg`, `Literal.scale_of_le`: scaling that has a result.
* `Literal.exists_number`: literals that have a value.
-/

set_option autoImplicit false

namespace ClassifierBridge

namespace Binary

variable {fmt : BinaryFormat} {x y : Binary fmt}

/-- A finite number is a number. -/
theorem isNaN_of_finite (hfinite : x.magnitude < fmt.infinity) : x.isNaN = false :=
  decide_eq_false (Nat.lt_asymm hfinite)

/-- A finite number is not infinite. -/
theorem isInfinite_of_finite (hfinite : x.magnitude < fmt.infinity) : x.isInfinite = false :=
  beq_eq_false_iff_ne.mpr (Nat.ne_of_lt hfinite)

/-- A product within a finite number of the format is finite. -/
theorem isInfinite_mul {m : Nat} (hfinite : m < fmt.infinity)
    (hleft : x.magnitude < fmt.infinity) (hright : y.magnitude < fmt.infinity)
    (hproduct : fmt.magnitudeValue x.magnitude * fmt.magnitudeValue y.magnitude
      ≤ fmt.magnitudeValue m) : (x.mul y).isInfinite = false := by
  have hrounded := fmt.roundMagnitude_le_of_le (Nat.le_of_lt hfinite) hproduct
  unfold mul
  rw [isNaN_of_finite hleft, isNaN_of_finite hright, isInfinite_of_finite hleft,
    isInfinite_of_finite hright]
  exact isInfinite_of_finite (Nat.lt_of_le_of_lt hrounded hfinite)

end Binary

namespace Json.Literal

/-- The magnitude of a power of two in the format of literals. -/
def powerMagnitude (k : Nat) : Nat := (1023 + k) * 2 ^ 52

/-- The magnitude of a power of two has this power as its value. -/
theorem magnitudeValue_powerMagnitude (k : Nat) :
    BinaryFormat.double.magnitudeValue (powerMagnitude k) = (2 : Rat) ^ k := by
  have hquotient : powerMagnitude k / 2 ^ 52 = 1023 + k :=
    Nat.mul_div_cancel _ (Nat.two_pow_pos 52)
  have hrest : powerMagnitude k % 2 ^ 52 = 0 := Nat.mul_mod_left _ _
  have hbits : BinaryFormat.double.fractionBits = 52 := rfl
  have hexponent : BinaryFormat.double.leastExponent = -1074 := by decide
  -- The significand has its hidden bit only, and the place follows from the exponent.
  have hsignificand : BinaryFormat.double.significand (powerMagnitude k) = 2 ^ 52 := by
    rw [BinaryFormat.significand, twoPow_eq, hbits, hquotient, hrest, if_neg (by omega),
      Nat.add_zero]
  have hplace : BinaryFormat.double.lastPlace (powerMagnitude k) = (k : Int) - 52 := by
    rw [BinaryFormat.lastPlace, twoPow_eq, hbits, hquotient, hexponent]
    omega
  have hunit : ((2 ^ 52 : Nat) : Rat) = (2 : Rat) ^ (52 : Int) := natCast_two_pow 52
  rw [BinaryFormat.magnitudeValue_eq, hsignificand, hplace, hunit, ← zpow_add₀ two_ne_zero,
    add_sub_cancel, zpow_natCast]

/-- The powers of two up to the largest exponent are finite. -/
theorem powerMagnitude_lt {k : Nat} (hsmall : k < 1024) :
    powerMagnitude k < BinaryFormat.double.infinity := by
  have hinfinity : BinaryFormat.double.infinity = 2047 * 2 ^ 52 := by decide
  rw [powerMagnitude, hinfinity]
  exact Nat.mul_lt_mul_of_pos_right (by omega) (Nat.two_pow_pos 52)

/-- What is rounded below a power of two stays at or below it. -/
theorem roundMagnitude_le_powerMagnitude {x : Rat} {k : Nat} (hsmall : k < 1024)
    (hle : x ≤ (2 : Rat) ^ k) :
    BinaryFormat.double.roundMagnitude x ≤ powerMagnitude k := by
  refine BinaryFormat.double.roundMagnitude_le_of_le (Nat.le_of_lt (powerMagnitude_lt hsmall)) ?_
  rw [magnitudeValue_powerMagnitude]
  exact hle

/-- Scaling down always has a result. -/
theorem scale_of_neg (x : Double) {e : Int} (hdown : e < 0) : ∃ y, scale x e = some y := by
  induction hsmall : e.natAbs using Nat.strong_induction_on generalizing x e with
  | _ n ih =>
      have hnotUp : ¬ 0 ≤ e := not_le.mpr hdown
      rw [scale]
      by_cases hnear : e.natAbs ≤ 308
      · rw [if_pos hnear, if_neg hnotUp]
        exact ⟨_, rfl⟩
      · -- One step of `308` keeps the exponent negative, so the induction goes on.
        rw [if_neg hnear]
        by_cases hzero : x.isZero = true
        · rw [if_pos hzero]
          exact ⟨x, rfl⟩
        · rw [if_neg hzero, if_neg hnotUp]
          exact ih (e + 308).natAbs (by omega) _ (by omega) rfl

/-- Digits that fit 64 bits are rounded to at most the power of two behind them. -/
theorem magnitude_ofInt_le {n : Nat} (hdigits : n ≤ digitLimit) :
    (Binary.ofInt n : Double).magnitude ≤ powerMagnitude 64 := by
  refine roundMagnitude_le_powerMagnitude (by decide) ?_
  have hbound : n ≤ 2 ^ 64 := Nat.le_trans hdigits (by decide)
  rw [Int.natAbs_natCast]
  exact_mod_cast hbound

/-- Scaling up a number of 64 bits by a small power of ten has a result. -/
theorem scale_of_le {n : Nat} (hdigits : n ≤ digitLimit) {e : Int} (hle : e ≤ 39) :
    ∃ y, scale (Binary.ofInt n) e = some y := by
  rcases lt_or_ge e 0 with hdown | hup
  · exact scale_of_neg _ hdown
  · obtain ⟨k, rfl⟩ := Int.eq_ofNat_of_zero_le hup
    -- Both factors stay below powers of two, and so does their product.
    have hnumber := magnitude_ofInt_le hdigits
    have hpower : (powerOfTen k).magnitude ≤ powerMagnitude 130 := by
      refine roundMagnitude_le_powerMagnitude (by decide) ?_
      have hbound : 10 ^ k ≤ 2 ^ 130 :=
        Nat.le_trans (Nat.pow_le_pow_right (by decide) (by omega : k ≤ 39)) (by decide)
      rw [scaled_one (by decide), zpow_natCast]
      exact_mod_cast hbound
    have hfinite : ∀ {m j : Nat}, j < 1024 → m ≤ powerMagnitude j →
        m < BinaryFormat.double.infinity :=
      fun hsmall hle => Nat.lt_of_le_of_lt hle (powerMagnitude_lt hsmall)
    have hvalue : ∀ {m j : Nat}, j < 1024 → m ≤ powerMagnitude j →
        BinaryFormat.double.magnitudeValue m ≤ (2 : Rat) ^ j := by
      intro m j hsmall hle
      rw [← magnitudeValue_powerMagnitude]
      exact BinaryFormat.double.magnitudeValue_le hle (Nat.le_of_lt (powerMagnitude_lt hsmall))
    have hproduct : BinaryFormat.double.magnitudeValue (Binary.ofInt n : Double).magnitude
          * BinaryFormat.double.magnitudeValue (powerOfTen k).magnitude
        ≤ BinaryFormat.double.magnitudeValue (powerMagnitude 194) := by
      rw [magnitudeValue_powerMagnitude, pow_add (2 : Rat) 64 130]
      refine mul_le_mul (hvalue (by decide) hnumber) (hvalue (by decide) hpower) ?_ (by positivity)
      rw [BinaryFormat.magnitudeValue_eq]
      exact mul_nonneg (Nat.cast_nonneg _) (zpow_pos two_pos _).le
    have hbounded := Binary.isInfinite_mul (powerMagnitude_lt (by decide : 194 < 1024))
      (hfinite (by decide) hnumber) (hfinite (by decide) hpower) hproduct
    rw [scale, if_pos (by omega), if_pos hup, Int.natAbs_natCast]
    dsimp only
    rw [hbounded]
    exact ⟨_, rfl⟩

/-! ### Literals with a value -/

/-- A digit is worth nine at most. -/
theorem toNat_sub_le_of_isDigit {c : Char} (hdigit : c.isDigit = true) :
    c.toNat - '0'.toNat ≤ 9 := by
  simp only [Char.isDigit, Bool.and_eq_true, decide_eq_true_eq] at hdigit
  have hhigh : c.toNat ≤ 57 := hdigit.2
  have hzero : '0'.toNat = 48 := rfl
  omega

/-- As many digits spell a number below that power of ten. -/
theorem ofDigitChars_lt {ds : List Char} (hall : ∀ d ∈ ds, d.isDigit = true) :
    Nat.ofDigitChars 10 ds 0 < 10 ^ ds.length := by
  induction ds with
  | nil =>
      rw [Nat.ofDigitChars_nil]
      exact Nat.one_pos
  | cons d ds ih =>
      have hdigit := toNat_sub_le_of_isDigit (hall d List.mem_cons_self)
      have hrest := ih fun c hmem => hall c (List.mem_cons_of_mem d hmem)
      have hshifted := Nat.mul_le_mul_left (10 ^ ds.length) hdigit
      rw [Nat.ofDigitChars_cons, Nat.ofDigitChars_eq_ofDigitChars_zero, Nat.mul_zero, Nat.zero_add,
        List.length_cons, Nat.pow_succ]
      omega

/-- A whole part of few digits is counted in full. -/
theorem accumulate_of_length_le {ds : List Char} (hall : ∀ d ∈ ds, d.isDigit = true)
    (hshort : ds.length ≤ 19) : (accumulate digitLimit 0 ds).2 = [] := by
  have hvalue := ofDigitChars_lt hall
  have hpower : 10 ^ ds.length ≤ 10 ^ 19 := Nat.pow_le_pow_right (by decide) hshort
  have hlimit : 10 ^ 19 ≤ digitLimit := by decide
  rw [accumulate_of_le (by omega)]

/-- What is counted of some digits stays within the limit. -/
theorem accumulate_le {limit n : Nat} (ds : List Char) (hstart : n ≤ limit) :
    (accumulate limit n ds).1 ≤ limit := by
  induction ds generalizing n with
  | nil => exact hstart
  | cons d ds ih =>
      rw [accumulate]
      split
      · next hfits => exact ih hfits
      · exact hstart

/-- The significand fits 64 bits, and where the whole part is counted in full
the fraction can only scale it down. -/
theorem significand_bounds {l : Literal} (hcounted : (accumulate digitLimit 0 l.whole).2 = []) :
    l.significand.1 ≤ digitLimit ∧ l.significand.2 ≤ 0 := by
  have hwhole := accumulate_le l.whole (Nat.zero_le digitLimit)
  have hfraction := accumulate_le l.fraction hwhole
  unfold significand
  dsimp only
  rw [hcounted]
  -- Where no digit of the whole part is left out, places are only taken off for the fraction.
  refine ⟨hfraction, ?_⟩
  rw [List.length_nil]
  omega

/-- A literal has a value if its whole part fits 64 bits and its exponent, where
it is positive, is far from the largest exponent of the format. -/
theorem exists_number {l : Literal} (hcounted : (accumulate digitLimit 0 l.whole).2 = [])
    (hexponent : ∀ down ds, l.exponent = some (down, ds) →
      Nat.ofDigitChars 10 ds 0 ≤ exponentLimit
        ∧ (down = false → Nat.ofDigitChars 10 ds 0 ≤ 39)) :
    ∃ n, l.number = .ok n := by
  obtain ⟨hdigits, hscaling⟩ := significand_bounds hcounted
  -- Whatever the exponent, what is scaled fits 64 bits, and the scaling is small enough.
  have hscales : ∀ e : Int, e ≤ 39 →
      ∃ x, scale (Binary.ofInt l.significand.1) (l.significand.2 + e) = some x :=
    fun e hle => scale_of_le hdigits (by omega)
  unfold number
  cases hwritten : l.exponent with
  | none =>
      obtain ⟨x, hvalue⟩ := hscales 0 (by decide)
      dsimp only
      rw [hvalue]
      dsimp only
      split
      · split
        · exact ⟨_, rfl⟩
        · split
          · exact ⟨_, rfl⟩
          · exact ⟨_, rfl⟩
      · exact ⟨_, rfl⟩
  | some parts =>
      obtain ⟨down, ds⟩ := parts
      obtain ⟨hfits, hsmall⟩ := hexponent down ds hwritten
      have hsigned : (if down then -((Nat.ofDigitChars 10 ds 0 : Nat) : Int)
          else (Nat.ofDigitChars 10 ds 0 : Nat)) ≤ 39 := by
        cases down with
        | true => rw [if_pos rfl]; omega
        | false =>
            have := hsmall rfl
            rw [if_neg Bool.false_ne_true]
            omega
      obtain ⟨x, hvalue⟩ := hscales _ hsigned
      dsimp only
      rw [accumulate_of_le hfits]
      dsimp only
      rw [hvalue]
      exact ⟨_, rfl⟩

end Json.Literal

end ClassifierBridge
