import ClassifierBridge.Proofs.Binary.Rounding
import Mathlib.Algebra.Order.Field.Basic

/-!
# `ClassifierBridge.Proofs.Binary.Midpoint`: where rounding changes over

Between two neighbouring numbers of a format, rounding changes over at the point
halfway between them, and nowhere else. So two rationals are rounded alike
unless a midpoint separates them, and the error of rounding is at most half of
the distance between neighbours.

* `magnitudeValue_succ`, `midpoint_eq`: the next number, and the point halfway.
* `roundMagnitude_le_of_lt_midpoint`, `lt_roundMagnitude_of_midpoint_lt`: what a
  midpoint decides.
* `roundMagnitude_midpoint_of_odd`: what a midpoint itself is rounded to.
* `roundMagnitude_eq_of_near`: what lies near a number is rounded to it.
* `abs_magnitudeValue_roundMagnitude_sub_le`: the relative error of rounding.
* `magnitudeValue_roundMagnitude_of_exact`: a significand that fits is kept.
-/

set_option autoImplicit false

namespace ClassifierBridge.BinaryFormat

variable (fmt : BinaryFormat)

/-! ### Places and significands -/

/-- No place is below the least one. -/
theorem leastExponent_le_lastPlace (m : Nat) : fmt.leastExponent ≤ fmt.lastPlace m := by
  unfold lastPlace
  omega

/-- A significand has one bit more than the fraction, the hidden one. -/
theorem significand_lt (m : Nat) : fmt.significand m < 2 ^ (fmt.fractionBits + 1) := by
  -- With or without the hidden one, what is left of the pattern fits the fraction.
  have hdouble : 2 ^ (fmt.fractionBits + 1) = 2 ^ fmt.fractionBits + 2 ^ fmt.fractionBits := by
    rw [Nat.pow_succ, Nat.mul_two]
  unfold significand
  rw [twoPow_eq, hdouble]
  split
  · next hsubnormal =>
      have hsmall := (Nat.div_eq_zero_iff_lt (Nat.two_pow_pos fmt.fractionBits)).mp hsubnormal
      omega
  · have hrest := Nat.mod_lt m (Nat.two_pow_pos fmt.fractionBits)
    omega

/-- Only the numbers on the least place have a significand of less than full
width. -/
theorem le_significand {m : Nat} (hnormal : fmt.leastExponent < fmt.lastPlace m) :
    2 ^ fmt.fractionBits ≤ fmt.significand m := by
  unfold significand
  rw [twoPow_eq]
  split
  · next hsubnormal =>
      unfold lastPlace at hnormal
      rw [twoPow_eq, hsubnormal] at hnormal
      omega
  · exact Nat.le_add_right _ _

/-- The value of a magnitude that is put together from a place and a significand.
A significand that is the next power of two already belongs to the next place,
where it stands for the same value. -/
theorem magnitudeValue_add {k s : Nat} (hfull : k = 0 ∨ 2 ^ fmt.fractionBits ≤ s)
    (hle : s ≤ 2 ^ (fmt.fractionBits + 1)) :
    fmt.magnitudeValue (k * 2 ^ fmt.fractionBits + s)
      = (s : Rat) * (2 : Rat) ^ (fmt.leastExponent + k) := by
  have hpos : 0 < 2 ^ fmt.fractionBits := Nat.two_pow_pos _
  rw [Nat.pow_succ, Nat.mul_two] at hle
  rw [magnitudeValue_eq, significand, lastPlace, twoPow_eq]
  -- The quotient is the exponent field that the significand carries into.
  have hquotient : ∀ c rest, s = c * 2 ^ fmt.fractionBits + rest → rest < 2 ^ fmt.fractionBits →
      (k * 2 ^ fmt.fractionBits + s) / 2 ^ fmt.fractionBits = k + c
        ∧ (k * 2 ^ fmt.fractionBits + s) % 2 ^ fmt.fractionBits = rest := by
    intro c rest hsame hsmall
    have hsum : k * 2 ^ fmt.fractionBits + s = rest + 2 ^ fmt.fractionBits * (k + c) := by
      rw [hsame, Nat.mul_add, Nat.mul_comm k, Nat.mul_comm c]
      omega
    rw [hsum, Nat.add_mul_div_left _ _ hpos, Nat.div_eq_of_lt hsmall, Nat.zero_add,
      Nat.add_mul_mod_self_left, Nat.mod_eq_of_lt hsmall]
    exact ⟨rfl, rfl⟩
  rcases Nat.lt_or_ge s (2 ^ fmt.fractionBits) with hsmall | hwide
  · -- Without the hidden one there is only the least place.
    obtain rfl : k = 0 := hfull.resolve_right (Nat.not_le_of_lt hsmall)
    obtain ⟨hdiv, -⟩ := hquotient 0 s (by omega) hsmall
    rw [hdiv, if_pos rfl, Nat.zero_mul, Nat.zero_add]
  · rcases Nat.eq_or_lt_of_le hle with hcarried | hwithin
    · -- The next power of two: the carry goes to the exponent, and nothing is left.
      obtain ⟨hdiv, hmod⟩ := hquotient 2 0 (by omega) hpos
      rw [hdiv, hmod, if_neg (by omega), hcarried, Nat.add_zero]
      have hplace : fmt.leastExponent + ((k + 2 - 1 : Nat) : Int)
          = 1 + (fmt.leastExponent + (k : Int)) := by omega
      rw [hplace, zpow_add₀ two_ne_zero, zpow_one]
      push_cast
      ring
    · -- A full significand: the hidden one is the carry.
      obtain ⟨hdiv, hmod⟩ := hquotient 1 (s - 2 ^ fmt.fractionBits) (by omega) (by omega)
      rw [hdiv, hmod, if_neg (by omega), Nat.add_sub_cancel' hwide, Nat.add_sub_cancel]

/-- The next number is one unit of the last place further. -/
theorem magnitudeValue_succ (m : Nat) :
    fmt.magnitudeValue (m + 1)
      = ((fmt.significand m + 1 : Nat) : Rat) * (2 : Rat) ^ fmt.lastPlace m := by
  have hleast := fmt.leastExponent_le_lastPlace m
  have hparts := fmt.magnitude_eq m
  -- One more on the same place may be the next power of two, which `magnitudeValue_add` allows.
  have hfull : (fmt.lastPlace m - fmt.leastExponent).toNat = 0
      ∨ 2 ^ fmt.fractionBits ≤ fmt.significand m + 1 := by
    rcases eq_or_lt_of_le hleast with hsame | habove
    · left
      omega
    · right
      exact Nat.le_succ_of_le (fmt.le_significand habove)
  have hvalue := fmt.magnitudeValue_add hfull (fmt.significand_lt m)
  rw [← Nat.add_assoc, hparts] at hvalue
  have hplace : fmt.leastExponent + ((fmt.lastPlace m - fmt.leastExponent).toNat : Int)
      = fmt.lastPlace m := by omega
  rw [hvalue, hplace]

/-- So neighbours are one unit of the lower last place apart. -/
theorem magnitudeValue_succ_sub (m : Nat) :
    fmt.magnitudeValue (m + 1) - fmt.magnitudeValue m = (2 : Rat) ^ fmt.lastPlace m := by
  rw [magnitudeValue_succ, magnitudeValue_eq]
  push_cast
  ring

/-- The next number has at most one bit more than fits the field. -/
theorem magnitudeValue_succ_le (m : Nat) :
    fmt.magnitudeValue (m + 1) ≤ 2 ^ (fmt.fractionBits + 1) * (2 : Rat) ^ fmt.lastPlace m := by
  rw [magnitudeValue_succ]
  refine mul_le_mul_of_nonneg_right ?_ (zpow_pos two_pos _).le
  exact_mod_cast fmt.significand_lt m

/-- A number that is less than a full significand at some place is rounded to this
place or to a lower one. -/
theorem roundingPlace_le {x : Rat} {e : Int} (hpos : 0 < x) (hleast : fmt.leastExponent ≤ e)
    (hlt : x < 2 ^ (fmt.fractionBits + 1) * (2 : Rat) ^ e) : fmt.roundingPlace x ≤ e := by
  rw [← zpow_natCast, ← zpow_add₀ two_ne_zero] at hlt
  have hexponent := (zpow_lt_zpow_iff_right₀ (one_lt_two : (1 : Rat) < 2)).mp
    (lt_of_le_of_lt (floorLog2_spec hpos).1 hlt)
  unfold roundingPlace
  omega

/-! ### Midpoints -/

/-- The point halfway between a number and the next one. -/
def midpoint (m : Nat) : Rat := (fmt.magnitudeValue m + fmt.magnitudeValue (m + 1)) / 2

/-- A midpoint is an odd multiple of half of the last place. -/
theorem midpoint_eq (m : Nat) :
    fmt.midpoint m
      = ((2 * fmt.significand m + 1 : Nat) : Rat) * (2 : Rat) ^ (fmt.lastPlace m - 1) := by
  have hhalf : (2 : Rat) ^ fmt.lastPlace m = 2 * (2 : Rat) ^ (fmt.lastPlace m - 1) := by
    rw [← zpow_one_add₀ two_ne_zero, add_sub_cancel]
  rw [midpoint, magnitudeValue_eq, magnitudeValue_succ, hhalf]
  push_cast
  ring

/-- Even the midpoint above zero is positive. -/
theorem midpoint_pos (m : Nat) : 0 < fmt.midpoint m := by
  rw [midpoint_eq]
  exact mul_pos (by exact_mod_cast Nat.succ_pos _) (zpow_pos two_pos _)

/-- Between two neighbours the last place is that of the lower one. -/
theorem roundingPlace_of_between {x : Rat} {m : Nat} (hlow : fmt.magnitudeValue m < x)
    (hhigh : x < fmt.magnitudeValue (m + 1)) : fmt.roundingPlace x = fmt.lastPlace m := by
  have hpos : 0 < x := lt_of_le_of_lt (fmt.magnitudeValue_nonneg m) hlow
  refine le_antisymm ?_ ?_
  · exact fmt.roundingPlace_le hpos (fmt.leastExponent_le_lastPlace m)
      (lt_of_lt_of_le hhigh (fmt.magnitudeValue_succ_le m))
  · -- Above zero there is no number of the format to compare with.
    rcases Nat.eq_zero_or_pos m with rfl | hpositive
    · have hzero : fmt.lastPlace 0 = fmt.leastExponent := by
        unfold lastPlace
        rw [Nat.zero_div]
        omega
      rw [hzero]
      exact le_max_left _ _
    · rw [← fmt.roundingPlace_magnitudeValue hpositive]
      exact fmt.roundingPlace_mono (fmt.magnitudeValue_pos hpositive) hlow.le

/-- Between two neighbours the nearest significand decides. -/
theorem roundMagnitude_of_between {x : Rat} {m : Nat} (hlow : fmt.magnitudeValue m < x)
    (hhigh : x < fmt.magnitudeValue (m + 1)) :
    fmt.roundMagnitude x = min fmt.infinity
      ((fmt.lastPlace m - fmt.leastExponent).toNat * 2 ^ fmt.fractionBits
        + nearestEven (x * (2 : Rat) ^ (-fmt.lastPlace m))) := by
  have hpos : 0 < x := lt_of_le_of_lt (fmt.magnitudeValue_nonneg m) hlow
  rw [fmt.roundMagnitude_of_pos hpos, roundedSignificand,
    fmt.roundingPlace_of_between hlow hhigh]

/-- Twice a multiple of the last place, on the grid of that place. -/
theorem two_mul_mul_zpow_neg (n : Nat) (p : Int) :
    2 * (((n : Rat) * (2 : Rat) ^ (p - 1)) * (2 : Rat) ^ (-p)) = n := by
  have hunit : (2 : Rat) * ((2 : Rat) ^ (p - 1) * (2 : Rat) ^ (-p)) = 1 := by
    rw [← zpow_add₀ two_ne_zero, ← zpow_one_add₀ two_ne_zero]
    have hexponent : 1 + (p - 1 + -p) = 0 := by omega
    rw [hexponent, zpow_zero]
  linear_combination (n : Rat) * hunit

/-- What lies below a midpoint is rounded to the lower neighbour or below. -/
theorem roundMagnitude_le_of_lt_midpoint {x : Rat} {m : Nat} (hfinite : m ≤ fmt.infinity)
    (hlt : x < fmt.midpoint m) : fmt.roundMagnitude x ≤ m := by
  rcases le_or_gt x (fmt.magnitudeValue m) with hbelow | habove
  · exact fmt.roundMagnitude_le_of_le hfinite hbelow
  · have hunit : (0 : Rat) < (2 : Rat) ^ (-fmt.lastPlace m) := zpow_pos two_pos _
    have hhigh : x < fmt.magnitudeValue (m + 1) := by
      unfold midpoint at hlt
      linarith
    have hpositive : 0 ≤ x * (2 : Rat) ^ (-fmt.lastPlace m) :=
      mul_nonneg (le_trans (fmt.magnitudeValue_nonneg m) habove.le) hunit.le
    -- In units of the last place, twice a midpoint is an odd number.
    have hscaled := mul_lt_mul_of_pos_right hlt hunit
    have htwice := two_mul_mul_zpow_neg (2 * fmt.significand m + 1) (fmt.lastPlace m)
    rw [← midpoint_eq] at htwice
    obtain ⟨-, hnear, -⟩ := nearestEven_spec hpositive
    have hstrict : 2 * (nearestEven (x * (2 : Rat) ^ (-fmt.lastPlace m)) : Rat)
        < ((2 * fmt.significand m + 2 : Nat) : Rat) := by
      push_cast at htwice ⊢
      linarith
    have hnearest : 2 * nearestEven (x * (2 : Rat) ^ (-fmt.lastPlace m))
        < 2 * fmt.significand m + 2 := by exact_mod_cast hstrict
    have hparts := fmt.magnitude_eq m
    rw [fmt.roundMagnitude_of_between habove hhigh]
    refine le_trans (min_le_right _ _) ?_
    omega

/-- What lies above a midpoint is rounded to the upper neighbour or above. -/
theorem lt_roundMagnitude_of_midpoint_lt {x : Rat} {m : Nat} (hfinite : m < fmt.infinity)
    (hlt : fmt.midpoint m < x) : m < fmt.roundMagnitude x := by
  -- It is enough to look at a point below the upper neighbour.
  obtain ⟨y, hlower, hupper⟩ := exists_between
    (lt_min hlt (show fmt.midpoint m < fmt.magnitudeValue (m + 1) by
      have hstep := fmt.magnitudeValue_lt (Nat.lt_succ_self m) hfinite
      unfold midpoint
      linarith))
  have hbetween := lt_min_iff.mp hupper
  refine lt_of_lt_of_le ?_ (fmt.roundMagnitude_mono hbetween.1.le)
  have habove : fmt.magnitudeValue m < y := by
    have hstep := fmt.magnitudeValue_lt (Nat.lt_succ_self m) hfinite
    unfold midpoint at hlower
    linarith
  have hunit : (0 : Rat) < (2 : Rat) ^ (-fmt.lastPlace m) := zpow_pos two_pos _
  have hpositive : 0 ≤ y * (2 : Rat) ^ (-fmt.lastPlace m) :=
    mul_nonneg (lt_trans (fmt.midpoint_pos m) hlower).le hunit.le
  -- In units of the last place, as for what lies below.
  have hscaled := mul_lt_mul_of_pos_right hlower hunit
  have htwice := two_mul_mul_zpow_neg (2 * fmt.significand m + 1) (fmt.lastPlace m)
  rw [← midpoint_eq] at htwice
  obtain ⟨hnear, -, -⟩ := nearestEven_spec hpositive
  have hstrict : ((2 * fmt.significand m : Nat) : Rat)
      < 2 * (nearestEven (y * (2 : Rat) ^ (-fmt.lastPlace m)) : Rat) := by
    push_cast at htwice ⊢
    linarith
  have hnearest : 2 * fmt.significand m < 2 * nearestEven (y * (2 : Rat) ^ (-fmt.lastPlace m)) := by
    exact_mod_cast hstrict
  have hparts := fmt.magnitude_eq m
  rw [fmt.roundMagnitude_of_between habove hbetween.2]
  refine lt_min hfinite ?_
  omega

/-- A midpoint itself is rounded up from an odd number. -/
theorem roundMagnitude_midpoint_of_odd {m : Nat} (hfinite : m < fmt.infinity)
    (hodd : fmt.significand m % 2 = 1) : fmt.roundMagnitude (fmt.midpoint m) = m + 1 := by
  have hstep := fmt.magnitudeValue_lt (Nat.lt_succ_self m) hfinite
  have hlow : fmt.magnitudeValue m < fmt.midpoint m := by
    unfold midpoint
    linarith
  have hhigh : fmt.midpoint m < fmt.magnitudeValue (m + 1) := by
    unfold midpoint
    linarith
  have hpositive : 0 ≤ fmt.midpoint m * (2 : Rat) ^ (-fmt.lastPlace m) :=
    mul_nonneg (fmt.midpoint_pos m).le (zpow_pos two_pos _).le
  have htwice := two_mul_mul_zpow_neg (2 * fmt.significand m + 1) (fmt.lastPlace m)
  rw [← midpoint_eq] at htwice
  obtain ⟨habove, hbelow, heven⟩ := nearestEven_spec hpositive
  rw [htwice] at habove hbelow heven
  have hnearest : nearestEven (fmt.midpoint m * (2 : Rat) ^ (-fmt.lastPlace m))
      = fmt.significand m + 1 := by
    generalize nearestEven (fmt.midpoint m * (2 : Rat) ^ (-fmt.lastPlace m)) = n at *
    have habove : 2 * fmt.significand m + 1 ≤ 2 * n + 1 := by exact_mod_cast habove
    have hbelow : 2 * n ≤ 2 * fmt.significand m + 1 + 1 := by exact_mod_cast hbelow
    rcases Nat.eq_or_lt_of_le (Nat.le_of_succ_le_succ habove) with hsame | hless
    · -- Of two at the same distance, the lower one is odd.
      have htie := heven (.inl (by exact_mod_cast congrArg (· + 1) hsame))
      omega
    · omega
  have hparts := fmt.magnitude_eq m
  rw [fmt.roundMagnitude_of_between hlow hhigh, hnearest, ← Nat.add_assoc, hparts]
  exact Nat.min_eq_right hfinite

/-- Half of the distance to a neighbour, as a part of the number itself. -/
theorem midpoint_bounds {m : Nat} (hpos : 0 < m) :
    fmt.magnitudeValue m ≤ 2 ^ (fmt.fractionBits + 2) * (fmt.midpoint m - fmt.magnitudeValue m)
      ∧ fmt.magnitudeValue m
        ≤ 2 ^ (fmt.fractionBits + 2) * (fmt.magnitudeValue m - fmt.midpoint (m - 1)) := by
  obtain ⟨n, rfl⟩ := Nat.exists_eq_succ_of_ne_zero hpos.ne'
  rw [Nat.succ_eq_add_one, Nat.add_sub_cancel]
  constructor
  · have hbound := fmt.magnitudeValue_succ_le (n + 1)
    have hstep := fmt.magnitudeValue_succ_sub (n + 1)
    have hunit : (0 : Rat) < (2 : Rat) ^ fmt.lastPlace (n + 1) := zpow_pos two_pos _
    have hhalf : fmt.midpoint (n + 1) - fmt.magnitudeValue (n + 1)
        = (2 : Rat) ^ fmt.lastPlace (n + 1) / 2 := by
      rw [midpoint]
      linarith
    rw [hhalf, pow_succ]
    linarith
  · -- Below a power of two the distance is that of the lower place.
    have hbound := fmt.magnitudeValue_succ_le n
    have hstep := fmt.magnitudeValue_succ_sub n
    have hhalf : fmt.magnitudeValue (n + 1) - fmt.midpoint n
        = (2 : Rat) ^ fmt.lastPlace n / 2 := by
      rw [midpoint]
      linarith
    rw [hhalf, pow_succ]
    linarith

/-- What lies near a number is rounded to it. -/
theorem roundMagnitude_eq_of_near {x : Rat} {m : Nat} (hpos : 0 < m) (hfinite : m < fmt.infinity)
    (hnear : 2 ^ (fmt.fractionBits + 2) * |x - fmt.magnitudeValue m| < fmt.magnitudeValue m) :
    fmt.roundMagnitude x = m := by
  obtain ⟨hhigh, hlow⟩ := fmt.midpoint_bounds hpos
  have hscale : (0 : Rat) < 2 ^ (fmt.fractionBits + 2) := by positivity
  have habove := lt_of_mul_lt_mul_left (lt_of_lt_of_le hnear hhigh) hscale.le
  have hbelow := lt_of_mul_lt_mul_left (lt_of_lt_of_le hnear hlow) hscale.le
  have hdistance := abs_lt.mp (lt_min habove hbelow)
  -- The number lies between the midpoints on its two sides.
  refine le_antisymm (fmt.roundMagnitude_le_of_lt_midpoint hfinite.le ?_) ?_
  · have := lt_of_le_of_lt (le_abs_self (x - fmt.magnitudeValue m)) habove
    linarith
  · have hunder := lt_of_le_of_lt (neg_le_abs (x - fmt.magnitudeValue m)) hbelow
    have hrounded := fmt.lt_roundMagnitude_of_midpoint_lt (m := m - 1) (by omega)
      (show fmt.midpoint (m - 1) < x by linarith)
    omega

/-! ### The error of rounding -/

/-- A number of the format stands for the significand that was chosen for it. -/
theorem magnitudeValue_roundMagnitude {x : Rat} (hpos : 0 < x)
    (hfinite : fmt.roundMagnitude x < fmt.infinity) :
    fmt.magnitudeValue (fmt.roundMagnitude x)
      = (fmt.roundedSignificand x : Rat) * (2 : Rat) ^ fmt.roundingPlace x := by
  have hleast : fmt.leastExponent ≤ fmt.roundingPlace x := le_max_left _ _
  have hfull : (fmt.roundingPlace x - fmt.leastExponent).toNat = 0
      ∨ 2 ^ fmt.fractionBits ≤ fmt.roundedSignificand x := by
    rcases eq_or_lt_of_le hleast with hsame | habove
    · left
      omega
    · right
      exact fmt.le_roundedSignificand hpos habove
  have hplace : fmt.leastExponent + ((fmt.roundingPlace x - fmt.leastExponent).toNat : Int)
      = fmt.roundingPlace x := by omega
  have hvalue := fmt.magnitudeValue_add hfull (fmt.roundedSignificand_le hpos)
  rw [hplace] at hvalue
  rw [fmt.roundMagnitude_of_pos hpos] at hfinite ⊢
  rw [min_eq_right (by omega), hvalue]

/-- The error is at most half a unit of the last place. -/
theorem abs_magnitudeValue_roundMagnitude_sub {x : Rat} (hpos : 0 < x)
    (hfinite : fmt.roundMagnitude x < fmt.infinity) :
    2 * |fmt.magnitudeValue (fmt.roundMagnitude x) - x| ≤ (2 : Rat) ^ fmt.roundingPlace x := by
  have hunit : (0 : Rat) < (2 : Rat) ^ fmt.roundingPlace x := zpow_pos two_pos _
  have hcancel : (2 : Rat) ^ (-fmt.roundingPlace x) * (2 : Rat) ^ fmt.roundingPlace x = 1 := by
    rw [← zpow_add₀ two_ne_zero, neg_add_cancel, zpow_zero]
  have hpositive : 0 ≤ x * (2 : Rat) ^ (-fmt.roundingPlace x) :=
    mul_nonneg hpos.le (zpow_pos two_pos _).le
  obtain ⟨hhigh, hlow, -⟩ := nearestEven_spec hpositive
  -- The nearest significand is half a unit away, and a unit is one of the last place.
  have hhigh' := mul_le_mul_of_nonneg_right hhigh hunit.le
  have hlow' := mul_le_mul_of_nonneg_right hlow hunit.le
  have hsame : x * (2 : Rat) ^ (-fmt.roundingPlace x) * (2 : Rat) ^ fmt.roundingPlace x = x := by
    rw [mul_assoc, hcancel, mul_one]
  rw [fmt.magnitudeValue_roundMagnitude hpos hfinite, roundedSignificand]
  have hbound : |(nearestEven (x * (2 : Rat) ^ (-fmt.roundingPlace x)) : Rat)
      * (2 : Rat) ^ fmt.roundingPlace x - x| ≤ (2 : Rat) ^ fmt.roundingPlace x / 2 := by
    refine abs_le.mpr ⟨?_, ?_⟩
    · linarith
    · linarith
  linarith

/-- The relative error of a number with a full significand. -/
theorem abs_magnitudeValue_roundMagnitude_sub_le {x : Rat}
    (hnormal : (2 : Rat) ^ (fmt.leastExponent + fmt.fractionBits) ≤ x)
    (hfinite : fmt.roundMagnitude x < fmt.infinity) :
    2 ^ (fmt.fractionBits + 1) * |fmt.magnitudeValue (fmt.roundMagnitude x) - x| ≤ x := by
  have hpos : 0 < x := lt_of_lt_of_le (zpow_pos two_pos _) hnormal
  obtain ⟨hlow, hhigh⟩ := floorLog2_spec hpos
  have hexponent := (zpow_lt_zpow_iff_right₀ (one_lt_two : (1 : Rat) < 2)).mp
    (lt_of_le_of_lt hnormal hhigh)
  -- With a full significand the last place is that many bits below the first.
  have hplace : fmt.roundingPlace x + (fmt.fractionBits : Int) = floorLog2 x := by
    unfold roundingPlace
    omega
  rw [← hplace, zpow_add₀ two_ne_zero, zpow_natCast] at hlow
  have herror := fmt.abs_magnitudeValue_roundMagnitude_sub hpos hfinite
  have hbits : (0 : Rat) < 2 ^ fmt.fractionBits := by positivity
  calc 2 ^ (fmt.fractionBits + 1) * |fmt.magnitudeValue (fmt.roundMagnitude x) - x|
      = 2 ^ fmt.fractionBits * (2 * |fmt.magnitudeValue (fmt.roundMagnitude x) - x|) := by
        rw [pow_succ]
        ring
    _ ≤ 2 ^ fmt.fractionBits * (2 : Rat) ^ fmt.roundingPlace x :=
        mul_le_mul_of_nonneg_left herror hbits.le
    _ ≤ x := by linarith

/-- A significand that fits the format is kept. -/
theorem magnitudeValue_roundMagnitude_of_exact {s : Nat} {e : Int} (hpos : 0 < s)
    (hfits : s < 2 ^ (fmt.fractionBits + 1)) (hleast : fmt.leastExponent ≤ e)
    (hfinite : fmt.roundMagnitude ((s : Rat) * (2 : Rat) ^ e) < fmt.infinity) :
    fmt.magnitudeValue (fmt.roundMagnitude ((s : Rat) * (2 : Rat) ^ e))
      = (s : Rat) * (2 : Rat) ^ e := by
  have hunit : (0 : Rat) < (2 : Rat) ^ e := zpow_pos two_pos _
  have hpositive : 0 < (s : Rat) * (2 : Rat) ^ e := mul_pos (by exact_mod_cast hpos) hunit
  -- The last place of the result is not above that of the number.
  have hplace : fmt.roundingPlace ((s : Rat) * (2 : Rat) ^ e) ≤ e :=
    fmt.roundingPlace_le hpositive hleast
      (mul_lt_mul_of_pos_right (by exact_mod_cast hfits) hunit)
  obtain ⟨k, hshift⟩ := Int.eq_ofNat_of_zero_le (sub_nonneg.mpr hplace)
  -- So the number is a whole number of units there, and rounding leaves it.
  have hwhole : (s : Rat) * (2 : Rat) ^ e
        * (2 : Rat) ^ (-fmt.roundingPlace ((s : Rat) * (2 : Rat) ^ e))
      = ((s * 2 ^ k : Nat) : Rat) := by
    rw [mul_assoc, ← zpow_add₀ two_ne_zero, ← sub_eq_add_neg, hshift, zpow_natCast]
    push_cast
    rfl
  have hsignificand : (fmt.roundedSignificand ((s : Rat) * (2 : Rat) ^ e) : Rat)
      = (s : Rat) * (2 : Rat) ^ e
        * (2 : Rat) ^ (-fmt.roundingPlace ((s : Rat) * (2 : Rat) ^ e)) := by
    rw [roundedSignificand, hwhole, nearestEven_natCast]
  rw [fmt.magnitudeValue_roundMagnitude hpositive hfinite, hsignificand, mul_assoc,
    ← zpow_add₀ two_ne_zero, neg_add_cancel, zpow_zero, mul_one]

end ClassifierBridge.BinaryFormat
