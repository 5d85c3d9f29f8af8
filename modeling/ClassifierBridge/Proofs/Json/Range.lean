import ClassifierBridge.Proofs.Json.Reading

/-!
# `ClassifierBridge.Proofs.Json.Range`: literals and the range of 32 bits

A literal that is too large for 64 bits has no value. Nothing looks at the range
again where the value is narrowed to 32 bits, so there the large ones become
infinite: those from the midpoint behind the largest finite number on. On the way
there a literal grows by at most three roundings, which do not reach from the
largest finite number to that midpoint.

* `Number.isNaN_toSingle`, `Number.isFinite_toSingle_iff`: what is narrowed, and
  which values stay finite.
* `finite_of_number`: a literal has a finite value, if any.
* `significand_le`: digits that are left out never make a literal larger.
* `size_le`: how much larger than the literal its value may be.
* `isFinite_toSingle_of_le`: literals up to the largest finite number.
-/

set_option autoImplicit false

namespace ClassifierBridge

namespace BinaryFormat

/-- The midpoint behind the largest number of 32 bits. -/
theorem midpoint_single_largest :
    single.midpoint (single.infinity - 1) = (2 : Rat) ^ 128 - 2 ^ 103 := by
  have hsignificand : single.significand (single.infinity - 1) = 2 ^ 24 - 1 := by decide
  have hplace : single.lastPlace (single.infinity - 1) = 104 := by decide
  rw [midpoint_eq, hsignificand, hplace]
  norm_num

/-- The range of 32 bits ends at that midpoint, which is itself rounded up. -/
theorem roundMagnitude_single_lt_iff {x : Rat} :
    single.roundMagnitude x < single.infinity ↔ x < 2 ^ 128 - 2 ^ 103 := by
  have hinfinity : 0 < single.infinity := by decide
  rw [← midpoint_single_largest]
  constructor
  · intro hfinite
    -- The largest significand is odd, so a tie behind it goes up.
    have htie := single.roundMagnitude_midpoint_of_odd (m := single.infinity - 1) (by omega)
      (by decide)
    by_contra hpast
    have hrounded := single.roundMagnitude_mono (not_lt.mp hpast)
    omega
  · intro hbelow
    have hrounded := single.roundMagnitude_le_of_lt_midpoint (Nat.sub_le _ 1) hbelow
    omega

end BinaryFormat

namespace Json

open BinaryFormat

/-! ### Numbers that were read -/

/-- The size of a number, its sign aside. -/
def Number.size : Number → Rat
  | .natural n => n
  | .negative n => n
  | .real x => double.magnitudeValue x.magnitude

/-- An integer, or a finite number of 64 bits. -/
def Number.Finite : Number → Prop
  | .natural _ => True
  | .negative _ => True
  | .real x => x.magnitude < double.infinity

/-- What is left of a finite number in 32 bits is the magnitude nearest to it. -/
theorem Number.magnitude_toSingle {n : Number} (hfinite : n.Finite) :
    n.toSingle.magnitude = single.roundMagnitude n.size := by
  -- Integers are narrowed directly; what was scaled has been rounded once before.
  cases n with
  | natural n => rfl
  | negative n =>
      show single.roundMagnitude (((-(n : Int)).natAbs : Nat) : Rat) = _
      rw [Int.natAbs_neg, Int.natAbs_natCast]
      rfl
  | real x =>
      obtain ⟨negative, magnitude, hlt⟩ := x
      exact congrArg Binary.magnitude
        (Literal.toSingle_real negative (x := ⟨negative, _, hlt⟩) hfinite)

/-- A finite number is narrowed to a number. -/
theorem Number.isNaN_toSingle {n : Number} (hfinite : n.Finite) : n.toSingle.isNaN = false := by
  have hle := single.roundMagnitude_le n.size
  rw [← n.magnitude_toSingle hfinite] at hle
  exact decide_eq_false (Nat.not_lt_of_le hle)

/-- It stays finite up to the midpoint behind the range. -/
theorem Number.isFinite_toSingle_iff {n : Number} (hfinite : n.Finite) :
    n.toSingle.isFinite = true ↔ n.size < 2 ^ 128 - 2 ^ 103 := by
  rw [← roundMagnitude_single_lt_iff, ← n.magnitude_toSingle hfinite]
  exact decide_eq_true_iff

namespace Literal

/-! ### Scaling -/

/-- What is not less than one is not rounded below it. -/
theorem one_le_magnitudeValue_roundMagnitude {x : Rat} (hone : 1 ≤ x)
    (hfinite : double.roundMagnitude x < double.infinity) :
    1 ≤ double.magnitudeValue (double.roundMagnitude x) := by
  have hunit := magnitudeValue_powerMagnitude 0
  rw [pow_zero] at hunit
  rw [← hunit] at hone ⊢
  have hrounded := double.roundMagnitude_mono hone
  rw [double.roundMagnitude_magnitudeValue (powerMagnitude_lt (by decide)).le] at hrounded
  exact double.magnitudeValue_le hrounded hfinite.le

/-- The largest power of ten in reach. -/
theorem pow_ten_le_largest : (10 : Rat) ^ 308 ≤ double.magnitudeValue (double.infinity - 1) := by
  have hsignificand : double.significand (double.infinity - 1) = 2 ^ 53 - 1 := by decide
  have hplace : double.lastPlace (double.infinity - 1) = (971 : Nat) := by decide
  rw [double.magnitudeValue_eq, hsignificand, hplace, zpow_natCast]
  -- Ten to the 28th is hardly more than two to the 93rd.
  calc (10 : Rat) ^ 308 = (10 ^ 28) ^ 11 := by rw [← pow_mul]
    _ ≤ (2 ^ 93 * (101 / 100)) ^ 11 := pow_le_pow_left₀ (by norm_num) (by norm_num) 11
    _ = 2 ^ 52 * (101 / 100) ^ 11 * 2 ^ 971 := by
        rw [mul_pow, ← pow_mul, mul_right_comm, ← pow_add]
    _ ≤ ((2 ^ 53 - 1 : Nat) : Rat) * 2 ^ 971 :=
        mul_le_mul_of_nonneg_right (by norm_num) (by positivity)

/-- The powers of ten in reach are finite, and none is less than one. -/
theorem powerOfTen_bounds {k : Nat} (hreach : k ≤ 308) :
    1 ≤ double.magnitudeValue (powerOfTen k).magnitude
      ∧ (powerOfTen k).magnitude < double.infinity := by
  have hfinite : (powerOfTen k).magnitude < double.infinity := by
    have hle : scaled 1 10 (k : Int) ≤ double.magnitudeValue (double.infinity - 1) := by
      rw [scaled_ten]
      exact le_trans (pow_le_pow_right₀ (by norm_num) hreach) pow_ten_le_largest
    have hrounded := double.roundMagnitude_le_of_le (Nat.sub_le _ 1) hle
    have hinfinity : 0 < double.infinity := by decide
    exact Nat.lt_of_le_of_lt hrounded (by omega)
  refine ⟨one_le_magnitudeValue_roundMagnitude ?_ hfinite, hfinite⟩
  rw [scaled_ten]
  exact one_le_pow₀ (by norm_num)

/-- A number over a power of ten is no larger than before. -/
theorem magnitude_div_powerOfTen_le {x : Double} (hfinite : x.magnitude < double.infinity) {k : Nat}
    (hreach : k ≤ 308) : (x.div (powerOfTen k)).magnitude ≤ x.magnitude := by
  obtain ⟨hone, hpowerFinite⟩ := powerOfTen_bounds hreach
  have hpos : 0 < (powerOfTen k).magnitude := by
    refine Nat.pos_of_ne_zero fun hzero => ?_
    rw [hzero, double.magnitudeValue_zero] at hone
    exact absurd hone (by norm_num)
  rw [Binary.magnitude_div hfinite hpowerFinite hpos]
  exact double.roundMagnitude_le_of_le hfinite.le
    (div_le_self (double.magnitudeValue_nonneg _) hone)

/-- Scaling a finite number makes it no larger, or it is one product that is not
too large. -/
theorem scale_cases {x y : Double} {e : Int} (hfinite : x.magnitude < double.infinity)
    (hresult : scale x e = some y) :
    y.magnitude ≤ x.magnitude
      ∨ (0 ≤ e ∧ e.natAbs ≤ 308 ∧ y = x.mul (powerOfTen e.natAbs) ∧ y.isInfinite = false) := by
  induction hfar : e.natAbs using Nat.strong_induction_on generalizing x e with
  | _ n ih =>
      subst hfar
      rw [scale] at hresult
      by_cases hnear : e.natAbs ≤ 308
      · rw [if_pos hnear] at hresult
        by_cases hup : 0 ≤ e
        · rw [if_pos hup] at hresult
          dsimp only at hresult
          split at hresult
          · cases hresult
          · next hnotInfinite =>
              cases hresult
              exact .inr ⟨hup, hnear, rfl, Bool.eq_false_iff.mpr hnotInfinite⟩
        · rw [if_neg hup] at hresult
          cases hresult
          exact .inl (magnitude_div_powerOfTen_le hfinite hnear)
      · rw [if_neg hnear] at hresult
        by_cases hzero : x.isZero = true
        · rw [if_pos hzero] at hresult
          cases hresult
          exact .inl le_rfl
        · rw [if_neg hzero] at hresult
          by_cases hup : 0 ≤ e
          · rw [if_pos hup] at hresult
            cases hresult
          · -- After one division the exponent is still negative or gone.
            rw [if_neg hup] at hresult
            have hsmaller := magnitude_div_powerOfTen_le hfinite (le_refl 308)
            have hfinite' := Nat.lt_of_le_of_lt hsmaller hfinite
            rcases ih (e + 308).natAbs (by omega) hfinite' hresult rfl with hle | ⟨hup', -⟩
            · exact .inl (le_trans hle hsmaller)
            · omega

/-- The result of scaling a finite number is finite. -/
theorem finite_of_scale {x y : Double} {e : Int} (hfinite : x.magnitude < double.infinity)
    (hresult : scale x e = some y) : y.magnitude < double.infinity := by
  rcases scale_cases hfinite hresult with hle | ⟨-, hreach, rfl, hnotInfinite⟩
  · exact Nat.lt_of_le_of_lt hle hfinite
  · have hother : (x.mul (powerOfTen e.natAbs)).magnitude ≠ double.infinity :=
      beq_eq_false_iff_ne.mp hnotInfinite
    have hproduct := Binary.magnitude_mul hfinite (powerOfTen_bounds hreach).2
    have hle := double.roundMagnitude_le (double.magnitudeValue x.magnitude
      * double.magnitudeValue (powerOfTen e.natAbs).magnitude)
    omega

/-! ### The significand -/

/-- Digits are taken up to the first that does not fit. -/
theorem accumulate_eq {limit n m : Nat} {ds rest : List Char}
    (hsplit : accumulate limit n ds = (m, rest)) :
    ∃ taken, ds = taken ++ rest ∧ m = Nat.ofDigitChars 10 taken n
      ∧ ∀ d ∈ rest.head?, limit < 10 * m + (d.toNat - '0'.toNat) := by
  induction ds generalizing n with
  | nil =>
      cases hsplit
      exact ⟨[], rfl, rfl, nofun⟩
  | cons d ds ih =>
      rw [accumulate] at hsplit
      split at hsplit
      · obtain ⟨taken, rfl, hvalue, hstop⟩ := ih hsplit
        exact ⟨d :: taken, rfl, hvalue, hstop⟩
      · next htooLarge =>
          cases hsplit
          refine ⟨[], rfl, rfl, ?_⟩
          rintro _ ⟨⟩
          exact Nat.lt_of_not_le htooLarge

/-- Each digit makes a number at least ten times larger. -/
theorem mul_pow_le_ofDigitChars (ds : List Char) (n : Nat) :
    n * 10 ^ ds.length ≤ Nat.ofDigitChars 10 ds n := by
  rw [Nat.ofDigitChars_eq_ofDigitChars_zero, Nat.mul_comm]
  exact Nat.le_add_right _ _

/-- The decimal that is scaled: the digits that are counted, at the place of the
last of them. -/
def counted (l : Literal) : Decimal :=
  ⟨l.significand.1, l.significand.2 + exponentValue l.exponent⟩

/-- The digits that are counted fit 64 bits, and without the others the literal
is no larger: `skipped` digits of its whole part are not counted and `taken` of
its fraction are. -/
theorem significand_le (l : Literal) :
    l.significand.1 ≤ digitLimit
      ∧ ∃ skipped taken : Nat, l.significand.2 = (skipped : Int) - taken
        ∧ l.significand.1 * 10 ^ (skipped + l.fraction.length)
          ≤ l.decimal.digits * 10 ^ taken := by
  rcases hwholeSplit : accumulate digitLimit 0 l.whole with ⟨n, skipped⟩
  rcases hfractionSplit : accumulate digitLimit n l.fraction with ⟨m, unread⟩
  have hsignificand : l.significand
      = (m, (skipped.length : Int) - ((l.fraction.length - unread.length : Nat) : Int)) := by
    unfold significand
    rw [hwholeSplit]
    dsimp only
    rw [hfractionSplit]
  have hfits : m ≤ digitLimit := by
    have hwhole := accumulate_le l.whole (Nat.zero_le digitLimit)
    rw [hwholeSplit] at hwhole
    have hfraction := accumulate_le l.fraction hwhole
    rwa [hfractionSplit] at hfraction
  obtain ⟨first, hwhole, hvalue, hstop⟩ := accumulate_eq hwholeSplit
  obtain ⟨taken, hfraction, hvalue', -⟩ := accumulate_eq hfractionSplit
  have hdigits : l.decimal.digits
      = Nat.ofDigitChars 10 l.fraction (Nat.ofDigitChars 10 skipped n) := by
    show Nat.ofDigitChars 10 (l.whole ++ l.fraction) 0 = _
    rw [hwhole, Nat.ofDigitChars_append, Nat.ofDigitChars_append, ← hvalue]
  have hlength : l.fraction.length = taken.length + unread.length := by
    rw [hfraction, List.length_append]
  rw [hsignificand]
  refine ⟨hfits, skipped.length, taken.length, by dsimp only; omega, ?_⟩
  dsimp only
  -- Either the whole part fits, or digits of it are left out already.
  rcases skipped with _ | ⟨d, skipped⟩
  · -- The whole part is counted, and of the fraction the digits at its front.
    have hdigits : l.decimal.digits = Nat.ofDigitChars 10 unread m := by
      rw [hdigits, hfraction, Nat.ofDigitChars_nil, Nat.ofDigitChars_append, ← hvalue']
    rw [hdigits, hlength, List.length_nil, Nat.zero_add, Nat.pow_add, Nat.mul_comm (10 ^ _),
      ← Nat.mul_assoc]
    exact Nat.mul_le_mul_right _ (mul_pow_le_ofDigitChars unread m)
  · have hlower := mul_pow_le_ofDigitChars l.fraction (Nat.ofDigitChars 10 (d :: skipped) n)
    rw [← hdigits] at hlower
    rcases taken with _ | ⟨c, taken⟩
    · rw [Nat.ofDigitChars_nil] at hvalue'
      rw [hvalue', List.length_nil, Nat.pow_zero, Nat.mul_one, Nat.pow_add, ← Nat.mul_assoc]
      exact le_trans (Nat.mul_le_mul_right _ (mul_pow_le_ofDigitChars _ n)) hlower
    · -- A digit of the fraction is taken after one that did not fit; the number
      -- still fits, so it is smaller than with that one.
      have hsmaller : m ≤ 10 * n + (d.toNat - '0'.toNat) := le_trans hfits (hstop d rfl).le
      have hpart : m * 10 ^ skipped.length ≤ Nat.ofDigitChars 10 (d :: skipped) n := by
        rw [Nat.ofDigitChars_cons]
        exact le_trans (Nat.mul_le_mul_right _ hsmaller) (mul_pow_le_ofDigitChars skipped _)
      calc m * 10 ^ ((d :: skipped).length + l.fraction.length)
          = m * 10 ^ skipped.length * 10 ^ l.fraction.length * 10 := by
            rw [List.length_cons, Nat.pow_add, Nat.pow_succ]
            ring
        _ ≤ Nat.ofDigitChars 10 (d :: skipped) n * 10 ^ l.fraction.length * 10 :=
            Nat.mul_le_mul_right _ (Nat.mul_le_mul_right _ hpart)
        _ ≤ l.decimal.digits * 10 := Nat.mul_le_mul_right _ hlower
        _ ≤ l.decimal.digits * 10 ^ (c :: taken).length :=
            Nat.mul_le_mul_left _ (Nat.le_self_pow (Nat.succ_ne_zero _) 10)

/-- Digits that are left out make a literal no larger. -/
theorem value_counted_le (l : Literal) : l.counted.value ≤ l.decimal.value := by
  obtain ⟨-, skipped, taken, hscaling, hle⟩ := l.significand_le
  -- Both exponents, on the finest grid that is in question.
  generalize hgrid : l.decimal.exponent - taken = e
  have hunit : (0 : Rat) < (10 : Rat) ^ e := zpow_pos (by norm_num) _
  have hcounted : l.counted.exponent = ((skipped + l.fraction.length : Nat) : Int) + e := by
    rw [← hgrid, Literal.counted, decimal, hscaling]
    push_cast
    ring
  have hspelled : l.decimal.exponent = (taken : Int) + e := by
    rw [← hgrid]
    ring
  rw [Decimal.value_eq, Decimal.value_eq, hcounted, hspelled, zpow_add₀ (by norm_num),
    zpow_add₀ (by norm_num), ← mul_assoc, ← mul_assoc, zpow_natCast, zpow_natCast]
  refine mul_le_mul_of_nonneg_right ?_ hunit.le
  exact_mod_cast hle

/-! ### Values -/

/-- A literal that is worth a number of 64 bits is worth a zero, or its counted
digits, scaled. -/
theorem magnitude_of_number {l : Literal} {x : Double} (hvalue : l.number = .ok (.real x)) :
    x.magnitude = 0
      ∨ ∃ y, scale (Binary.ofInt l.counted.digits) l.counted.exponent = some y
          ∧ x.magnitude = y.magnitude := by
  -- Wherever the significand is scaled, the result has the sign of the literal.
  have hreal : ∀ {e : Int} {result : Except Nat Number}, e = exponentValue l.exponent →
      (scale (Binary.ofInt l.significand.1) (l.significand.2 + e) = none → result = .error 0) →
      (∀ y, scale (Binary.ofInt l.significand.1) (l.significand.2 + e) = some y →
        result = .ok (.real { y with negative := l.negative })) →
      result = .ok (.real x) →
      ∃ y, scale (Binary.ofInt l.counted.digits) l.counted.exponent = some y
        ∧ x.magnitude = y.magnitude := by
    rintro _ result rfl htooLarge hfits hsame
    cases hscaled : scale (Binary.ofInt l.significand.1)
        (l.significand.2 + exponentValue l.exponent) with
    | none =>
        rw [htooLarge hscaled] at hsame
        cases hsame
    | some y =>
        rw [hfits y hscaled] at hsame
        cases hsame
        exact ⟨y, hscaled, rfl⟩
  unfold number at hvalue
  dsimp only at hvalue
  split at hvalue
  · next hnone =>
      have hexponent : (0 : Int) = exponentValue l.exponent := by rw [hnone]; rfl
      split at hvalue
      · split at hvalue
        · cases hvalue
        · split at hvalue
          · exact .inr (hreal hexponent (fun hnone => by rw [hnone])
              (fun y hsome => by rw [hsome]) hvalue)
          · cases hvalue
      · exact .inr (hreal hexponent (fun hnone => by rw [hnone])
          (fun y hsome => by rw [hsome]) hvalue)
  · next down ds hsome =>
      split at hvalue
      · next e hall =>
          have hfits := ofDigitChars_le_of_accumulate (Nat.zero_le exponentLimit) (by rw [hall])
          rw [accumulate_of_le hfits] at hall
          cases hall
          refine .inr (hreal ?_ (fun hnone => by rw [hnone]) (fun y hsome => by rw [hsome]) hvalue)
          rw [hsome]
          rfl
      · split at hvalue
        · cases hvalue
          exact .inl rfl
        · cases hvalue

/-- A literal has a finite value, if any. -/
theorem finite_of_number {l : Literal} {n : Number} (hvalue : l.number = .ok n) : n.Finite := by
  cases n with
  | natural n => trivial
  | negative n => trivial
  | real x =>
      show x.magnitude < double.infinity
      rcases magnitude_of_number hvalue with hzero | ⟨y, hscaled, hsame⟩
      · rw [hzero]
        decide
      · rw [hsame]
        exact finite_of_scale (Nat.lt_of_le_of_lt (magnitude_ofInt_le l.significand_le.1)
          (powerMagnitude_lt (by decide))) hscaled

/-! ### How much a literal grows -/

/-- One rounding of a number that is not less than one. -/
theorem magnitudeValue_roundMagnitude_bounds {x : Rat} (hone : 1 ≤ x) (hhigh : x ≤ 2 ^ 1000) :
    1 ≤ double.magnitudeValue (double.roundMagnitude x)
      ∧ double.magnitudeValue (double.roundMagnitude x) ≤ x * (1 + 1 / 2 ^ 53) := by
  have hsmall : (2 : Rat) ^ (-1000 : Int) ≤ 1 := zpow_le_one_of_nonpos₀ one_le_two (by decide)
  obtain ⟨hfinite, hclose⟩ := roundMagnitude_close (le_trans hsmall hone) hhigh
  refine ⟨one_le_magnitudeValue_roundMagnitude hone hfinite, ?_⟩
  have hsize := le_abs_self (double.magnitudeValue (double.roundMagnitude x) - x)
  linarith

/-- The product of two numbers that are rounded, and then rounded itself. -/
theorem magnitudeValue_roundMagnitude_mul_le {x y a b : Rat} (hleastA : 1 ≤ a)
    (hmostA : a ≤ x * (1 + 1 / 2 ^ 53)) (hleastB : 1 ≤ b) (hmostB : b ≤ y * (1 + 1 / 2 ^ 53))
    (hrange : x * y ≤ 2 ^ 128) :
    double.magnitudeValue (double.roundMagnitude (a * b)) ≤ x * y * (1 + 4 / 2 ^ 53) := by
  have hone : 1 ≤ a * b := one_le_mul_of_one_le_of_one_le hleastA hleastB
  have hfactors : a * b ≤ x * y * (1 + 1 / 2 ^ 53) ^ 2 :=
    calc a * b ≤ x * (1 + 1 / 2 ^ 53) * (y * (1 + 1 / 2 ^ 53)) :=
          mul_le_mul hmostA hmostB (by linarith) (by linarith)
      _ = x * y * (1 + 1 / 2 ^ 53) ^ 2 := by ring
  have hhigh : a * b ≤ 2 ^ 1000 :=
    calc a * b ≤ 2 ^ 128 * (1 + 1 / 2 ^ 53) ^ 2 :=
          le_trans hfactors (mul_le_mul_of_nonneg_right hrange (by norm_num))
      _ ≤ 2 ^ 129 := by norm_num
      _ ≤ 2 ^ 1000 := pow_le_pow_right₀ one_le_two (by decide)
  have hpositive : 0 ≤ x * y := by
    refine nonneg_of_mul_nonneg_left (le_trans ?_ hfactors) (by norm_num)
    linarith
  calc double.magnitudeValue (double.roundMagnitude (a * b))
      ≤ a * b * (1 + 1 / 2 ^ 53) := (magnitudeValue_roundMagnitude_bounds hone hhigh).2
    _ ≤ x * y * (1 + 1 / 2 ^ 53) ^ 2 * (1 + 1 / 2 ^ 53) :=
        mul_le_mul_of_nonneg_right hfactors (by norm_num)
    _ ≤ x * y * (1 + 4 / 2 ^ 53) := by
        rw [mul_assoc]
        exact mul_le_mul_of_nonneg_left (by norm_num) hpositive

/-- Counted digits times a power of ten, with a rounding for each factor and one
for the product. -/
theorem magnitudeValue_mul_powerOfTen_le {m k : Nat} (hdigits : m ≤ digitLimit) (hreach : k ≤ 308)
    (hrange : (m : Rat) * 10 ^ k ≤ 2 ^ 128) :
    double.magnitudeValue ((Binary.ofInt m : Double).mul (powerOfTen k)).magnitude
      ≤ m * 10 ^ k * (1 + 4 / 2 ^ 53) := by
  have hfinite := Nat.lt_of_le_of_lt (magnitude_ofInt_le hdigits) (powerMagnitude_lt (by decide))
  rw [Binary.magnitude_mul hfinite (powerOfTen_bounds hreach).2]
  rcases Nat.eq_zero_or_pos m with rfl | hpos
  · have hzero : (Binary.ofInt (0 : Nat) : Double).magnitude = 0 :=
      double.roundMagnitude_of_nonpos (le_of_eq Nat.cast_zero)
    rw [hzero, double.magnitudeValue_zero, zero_mul, double.roundMagnitude_of_nonpos le_rfl,
      double.magnitudeValue_zero, Nat.cast_zero, zero_mul, zero_mul]
  · have hone : (1 : Rat) ≤ m := by exact_mod_cast hpos
    have hten : (1 : Rat) ≤ 10 ^ k := one_le_pow₀ (by norm_num)
    have hhigh : (2 : Rat) ^ 128 ≤ 2 ^ 1000 := pow_le_pow_right₀ one_le_two (by decide)
    obtain ⟨hleast, hmost⟩ := magnitudeValue_roundMagnitude_bounds hone
      (le_trans (le_trans (le_mul_of_one_le_right (by linarith) hten) hrange) hhigh)
    obtain ⟨hleast', hmost'⟩ := magnitudeValue_roundMagnitude_bounds hten
      (le_trans (le_trans (le_mul_of_one_le_left (by linarith) hone) hrange) hhigh)
    have hproduct := magnitudeValue_roundMagnitude_mul_le hleast hmost hleast' hmost' hrange
    rw [← scaled_ten] at hproduct
    rwa [← scaled_ten]

/-- An integer spells itself. -/
theorem value_decimal_of_integer {l : Literal} (hfraction : l.fraction = [])
    (hexponent : l.exponent = none) : l.decimal.value = l.wholeValue := by
  rw [Decimal.value_eq, decimal, hfraction, hexponent, List.append_nil]
  exact mul_one _

/-- The value of a literal within the range is at most three roundings above what
the literal spells, or small. -/
theorem size_le {l : Literal} {n : Number} (hvalue : l.number = .ok n)
    (hrange : l.decimal.value ≤ 2 ^ 128) :
    n.size ≤ max (2 ^ 64) (l.decimal.value * (1 + 4 / 2 ^ 53)) := by
  have hpositive : 0 ≤ l.decimal.value := by
    rw [Decimal.value_eq]
    exact mul_nonneg (Nat.cast_nonneg _) (zpow_pos (by norm_num) _).le
  have hinteger : ∀ {m : Nat}, l.fraction = [] → l.exponent = none → l.wholeValue = m →
      (m : Rat) ≤ max (2 ^ 64) (l.decimal.value * (1 + 4 / 2 ^ 53)) := by
    rintro m hfraction hexponent rfl
    rw [← value_decimal_of_integer hfraction hexponent]
    exact le_max_of_le_right (le_mul_of_one_le_right hpositive (by norm_num))
  cases n with
  | natural m =>
      obtain ⟨hfraction, hexponent, -, hwhole, -⟩ := number_eq_natural_iff.mp hvalue
      exact hinteger hfraction hexponent hwhole
  | negative m =>
      obtain ⟨hfraction, hexponent, -, hwhole, -⟩ := number_eq_negative_iff.mp hvalue
      exact hinteger hfraction hexponent hwhole
  | real x =>
      have hdigits := magnitude_ofInt_le l.significand_le.1
      have hdigitsFinite := Nat.lt_of_le_of_lt hdigits (powerMagnitude_lt (by decide : 64 < 1024))
      -- What is not scaled up stays at or below the counted digits, which fit 64 bits.
      have hsmall : ∀ {m : Nat}, m ≤ (Binary.ofInt l.significand.1 : Double).magnitude →
          double.magnitudeValue m ≤ 2 ^ 64 := by
        intro m hle
        rw [← magnitudeValue_powerMagnitude]
        exact double.magnitudeValue_le (le_trans hle hdigits) (powerMagnitude_lt (by decide)).le
      show double.magnitudeValue x.magnitude ≤ _
      rcases magnitude_of_number hvalue with hzero | ⟨y, hscaled, hsame⟩
      · rw [hzero]
        exact le_max_of_le_left (hsmall (Nat.zero_le _))
      rw [hsame]
      rcases scale_cases hdigitsFinite hscaled with hle | ⟨hup, hreach, rfl, -⟩
      · exact le_max_of_le_left (hsmall hle)
      · have hcounted : l.counted.value
            = l.counted.digits * (10 : Rat) ^ l.counted.exponent.natAbs := value_of_nonneg hup
        have hle := l.value_counted_le
        have hfits : l.counted.digits ≤ digitLimit := l.significand_le.1
        have hproduct :=
          magnitudeValue_mul_powerOfTen_le hfits hreach (hcounted ▸ le_trans hle hrange)
        refine le_max_of_le_right (le_trans hproduct ?_)
        rw [← hcounted]
        exact mul_le_mul_of_nonneg_right hle (by norm_num)

/-- A literal that spells no more than the largest finite number of 32 bits is
worth a finite one. -/
theorem isFinite_toSingle_of_le {l : Literal} {n : Number} (hvalue : l.number = .ok n)
    (hrange : l.decimal.value ≤ 2 ^ 128 - 2 ^ 104) : n.toSingle.isFinite = true := by
  have hbound := size_le hvalue (le_trans hrange (by norm_num))
  refine (n.isFinite_toSingle_iff (finite_of_number hvalue)).mpr (lt_of_le_of_lt hbound ?_)
  -- What three roundings add is less than the distance to the midpoint.
  refine max_lt (by norm_num) ?_
  calc l.decimal.value * (1 + 4 / 2 ^ 53)
      ≤ (2 ^ 128 - 2 ^ 104) * (1 + 4 / 2 ^ 53) := mul_le_mul_of_nonneg_right hrange (by norm_num)
    _ < 2 ^ 128 - 2 ^ 103 := by norm_num

end Literal

end Json

end ClassifierBridge
