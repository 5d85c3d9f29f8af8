import ClassifierBridge.Proofs.Decimal.CloseCalls
import ClassifierBridge.Proofs.Json.Written

/-!
# `ClassifierBridge.Proofs.Json.ReadBack`: a written number is read as itself

A number of 32 bits is written with the fewest digits that single it out among
the numbers of 32 bits, and read through 64 bits, with an error of up to three
units. Two things keep it from becoming a neighbour. Either the digits were
needed to come very near the number itself; then the error is small beside the
distance to the midpoints. Or there are at most eight of them; then the decimal
is not near a midpoint, unless it is the midpoint, which is read without an
error, or one of the few close calls, which are tried out.

* `readBack_of_near`, `readBack_of_few`: the two ways.
* `readBack_eq`: every finite magnitude is read back.
* `toSingle_writtenLiteral`: and every finite number, with its sign.
-/

set_option autoImplicit false

namespace ClassifierBridge.Json

open BinaryFormat Decimal Literal NumberLayout

/-! ### The decimals on either side -/

/-- The decimal that is written for a magnitude. -/
def writtenDecimal (m : Nat) : Decimal := shortest .single json.tie m

/-- The value that is read, in 64 bits, where a decimal was written. -/
def valueRead (d : Decimal) : Rat :=
  double.magnitudeValue (scaleOnce (decimalLiteral false d).decimal).magnitude

/-- The magnitude that is read where a magnitude was written. -/
def readBack (m : Nat) : Nat := single.roundMagnitude (valueRead (writtenDecimal m))

/-- The close calls, tried out. -/
theorem readBack_of_mem_closeCalls : ∀ d ∈ closeCalls,
    readBack (single.roundMagnitude d.value) = single.roundMagnitude d.value := by
  decide +kernel

/-- Zero is read as zero. -/
theorem magnitude_scaleOnce_zero :
    (scaleOnce (decimalLiteral false (writtenDecimal 0)).decimal).magnitude = 0 := by
  decide +kernel

/-- Zero is read back. -/
theorem readBack_zero : readBack 0 = 0 := by
  rw [readBack, valueRead, magnitude_scaleOnce_zero, double.magnitudeValue_zero]
  exact single.roundMagnitude_of_nonpos le_rfl

section Finite

variable {m : Nat} (hpos : 0 < m) (hfinite : m < single.infinity)
include hpos hfinite

/-- A decimal that is written for a number other than zero has a digit other than
zero. -/
theorem writtenDecimal_pos : 0 < (writtenDecimal m).digits :=
  digits_shortest_pos .single json.tie hpos hfinite

/-- The decimal that is written singles the number out among those of 32 bits. -/
theorem roundMagnitude_writtenDecimal : single.roundMagnitude (writtenDecimal m).value = m :=
  roundMagnitude_shortest .single json.tie hpos hfinite

/-- The digits of a written number spell at most ten to the ninth. -/
theorem digits_writtenDecimal_le : (writtenDecimal m).digits ≤ 10 ^ 9 := by
  -- The last digit is at most eight places behind the first.
  have hleast := floorLog10_sub_le_exponent .single json.tie (k := 8) (by decide) hpos hfinite
  refine digits_shortest_le_pow .single json.tie hpos ?_
  push_cast at hleast ⊢
  omega

/-- The first digit of a written number stands where the range of 32 bits lets it. -/
theorem leadingExponent_writtenDecimal_bounds :
    -149 ≤ leadingExponent (writtenDecimal m) ∧ leadingExponent (writtenDecimal m) < 39 :=
  leadingExponent_shortest_bounds json.tie hpos hfinite (writtenDecimal_pos hpos hfinite)

/-- The exponent of the literal is in the range of the powers of ten. -/
theorem natAbs_exponent_written_le :
    (decimalLiteral false (writtenDecimal m)).decimal.exponent.natAbs ≤ 200 := by
  obtain ⟨hlow, hhigh⟩ := exponent_decimalLiteral_bounds false (writtenDecimal_pos hpos hfinite)
    (digits_writtenDecimal_le hpos hfinite)
  obtain ⟨hleast, hmost⟩ := leadingExponent_writtenDecimal_bounds hpos hfinite
  omega

/-- The value read is within three units of the decimal that was written. -/
theorem valueRead_close :
    2 ^ 53 * |valueRead (writtenDecimal m) - (writtenDecimal m).value|
      ≤ 3 * (writtenDecimal m).value := by
  -- The digits fit 53 bits, so only the power of ten and the last operation are rounded.
  obtain ⟨hdigits, hfits⟩ := digits_decimalLiteral_bounds false (writtenDecimal_pos hpos hfinite)
    (digits_writtenDecimal_le hpos hfinite)
  have hclose := (scaleOnce_close hdigits hfits (natAbs_exponent_written_le hpos hfinite)).2
  rw [value_decimalLiteral false (writtenDecimal_pos hpos hfinite)] at hclose
  exact hclose

/-- The decimal lies between the midpoints next to the number. -/
theorem midpoint_le_writtenDecimal :
    single.midpoint (m - 1) ≤ (writtenDecimal m).value
      ∧ (writtenDecimal m).value ≤ single.midpoint m := by
  have hrounded := roundMagnitude_writtenDecimal hpos hfinite
  constructor
  · -- Beyond either midpoint the decimal would be rounded to a neighbour.
    by_contra hbelow
    have hlower := single.roundMagnitude_le_of_lt_midpoint (by omega) (not_le.mp hbelow)
    omega
  · by_contra habove
    have hhigher := single.lt_roundMagnitude_of_midpoint_lt hfinite (not_le.mp habove)
    omega

/-! ### Near the number -/

/-- A decimal very near the number is read as the number. -/
theorem readBack_of_near
    (hnear : 2 * 10 ^ 8 * |(writtenDecimal m).value - single.magnitudeValue m|
      ≤ single.magnitudeValue m) : readBack m = m := by
  have hclose := valueRead_close hpos hfinite
  have htriangle := abs_sub_le (valueRead (writtenDecimal m)) (writtenDecimal m).value
    (single.magnitudeValue m)
  have hsize := le_abs_self ((writtenDecimal m).value - single.magnitudeValue m)
  have hnumber := single.magnitudeValue_pos hpos
  refine single.roundMagnitude_eq_of_near hpos hfinite ?_
  show (2 : Rat) ^ 25 * _ < _
  linarith

/-! ### At most eight digits -/

/-- A midpoint is a number of 64 bits, so it is read without an error where the
power of ten is exact. -/
theorem valueRead_of_midpoint {k : Nat} (hwithin : k < single.infinity)
    (hsame : (writtenDecimal m).value = single.midpoint k)
    (hleast : -4 ≤ leadingExponent (writtenDecimal m))
    (hmost : leadingExponent (writtenDecimal m) ≤ 18) :
    valueRead (writtenDecimal m) = (writtenDecimal m).value := by
  obtain ⟨hdigits, hfits⟩ := digits_decimalLiteral_bounds false (writtenDecimal_pos hpos hfinite)
    (digits_writtenDecimal_le hpos hfinite)
  obtain ⟨hlow, hhigh⟩ := exponent_decimalLiteral_bounds false (writtenDecimal_pos hpos hfinite)
    (digits_writtenDecimal_le hpos hfinite)
  have hrange := (scaleOnce_close hdigits hfits (natAbs_exponent_written_le hpos hfinite)).1
  have hnearest := magnitude_scaleOnce_of_small hdigits hfits (by omega)
  rw [value_decimalLiteral false (writtenDecimal_pos hpos hfinite)] at hnearest
  -- A midpoint has one bit more than a number of 32 bits, which 64 bits have room for.
  obtain ⟨j, n, hbinary, hodd, hmidpoint⟩ := exists_oddMultiple hwithin
  have hleast : double.leastExponent = -1074 := by decide
  rw [hsame, hmidpoint] at hnearest ⊢
  rw [hnearest] at hrange
  unfold valueRead
  rw [hnearest]
  exact double.magnitudeValue_roundMagnitude_of_exact hodd.pos
    (Nat.lt_of_lt_of_le hodd.2.1 (by decide)) (by omega) hrange

/-- A decimal of eight digits near a midpoint is read as the number. -/
theorem readBack_of_near_midpoint {n k : Nat} {e : Int} (hdigits : EightDigits n)
    (hvalue : Decimal.value ⟨n, e⟩ = (writtenDecimal m).value) (hwithin : k < single.infinity)
    (hnear : 2 ^ 53 * |single.midpoint k - (writtenDecimal m).value|
      ≤ 3 * (writtenDecimal m).value) : readBack m = m := by
  have hrounded := roundMagnitude_writtenDecimal hpos hfinite
  obtain ⟨hlower, hupper⟩ := midpoint_le_writtenDecimal hpos hfinite
  rw [← hvalue] at hnear hlower hupper
  obtain ⟨hleast, hmost⟩ := exponent_bounds_of_eightDigits hdigits
    (le_trans (midpoint_range (by omega)).1 hlower)
    (lt_of_le_of_lt hupper (midpoint_range hfinite).2)
  rcases midpoint_cases hdigits hleast hmost hwithin hnear with ⟨hfirst, hlast, hsame⟩ | hcall
  · -- A decimal can only be a midpoint where the power of ten is exact.
    obtain ⟨hlow, hhigh⟩ := value_bounds_of_eightDigits hdigits e
    rw [hvalue] at hsame hlow hhigh
    have hdown := (zpow_lt_zpow_iff_right₀ (by norm_num : (1 : Rat) < 10)).mp
      (lt_of_le_of_lt hlow (lt_pow_leadingExponent (writtenDecimal m)))
    have hup := (zpow_le_zpow_iff_right₀ (by norm_num : (1 : Rat) < 10)).mp
      (le_trans (pow_leadingExponent_le (writtenDecimal_pos hpos hfinite)) hhigh)
    have hexact := valueRead_of_midpoint hpos hfinite hwithin hsame (by omega) (by omega)
    rw [readBack, hexact, hrounded]
  · have htried := readBack_of_mem_closeCalls _ hcall
    rwa [hvalue, hrounded] at htried

/-- A decimal of few digits is read as the number. -/
theorem readBack_of_few (hfew : (writtenDecimal m).digits ≤ 10 ^ 8) : readBack m = m := by
  obtain ⟨n, e, hdigits, hvalue⟩ := exists_eightDigits (writtenDecimal_pos hpos hfinite) hfew
  obtain ⟨hlower, hupper⟩ := midpoint_le_writtenDecimal hpos hfinite
  by_cases hnearLower : 2 ^ 53 * |single.midpoint (m - 1) - (writtenDecimal m).value|
      ≤ 3 * (writtenDecimal m).value
  · exact readBack_of_near_midpoint hpos hfinite hdigits hvalue (by omega) hnearLower
  by_cases hnearUpper : 2 ^ 53 * |single.midpoint m - (writtenDecimal m).value|
      ≤ 3 * (writtenDecimal m).value
  · exact readBack_of_near_midpoint hpos hfinite hdigits hvalue hfinite hnearUpper
  -- Away from both midpoints, the error does not reach them.
  have hclose := valueRead_close hpos hfinite
  obtain ⟨hbelow, habove⟩ := abs_le.mp
    (show |valueRead (writtenDecimal m) - (writtenDecimal m).value|
      ≤ 3 * (writtenDecimal m).value / 2 ^ 53 by linarith)
  rw [abs_of_nonpos (by linarith), not_le] at hnearLower
  rw [abs_of_nonneg (by linarith), not_le] at hnearUpper
  have hleast := single.lt_roundMagnitude_of_midpoint_lt (m := m - 1) (by omega)
    (show single.midpoint (m - 1) < valueRead (writtenDecimal m) by linarith)
  have hmost := single.roundMagnitude_le_of_lt_midpoint hfinite.le
    (show valueRead (writtenDecimal m) < single.midpoint m by linarith)
  show single.roundMagnitude (valueRead (writtenDecimal m)) = m
  omega

/-- Every finite magnitude but zero is read back. -/
theorem readBack_of_pos : readBack m = m := by
  -- The shortest decimal has few digits, or its digits were needed to come near.
  rcases digits_le_or_near .single json.tie (k := 8) (by decide) hpos hfinite with hfew | hnear
  · exact readBack_of_few hpos hfinite hfew
  · exact readBack_of_near hpos hfinite hnear

end Finite

/-! ### Numbers with their sign -/

/-- Every finite magnitude is read back. -/
theorem readBack_eq {m : Nat} (hfinite : m < single.infinity) : readBack m = m := by
  rcases Nat.eq_zero_or_pos m with rfl | hpos
  · exact readBack_zero
  · exact readBack_of_pos hpos hfinite

/-- The value read is that of a finite number. -/
theorem magnitude_scaleOnce_lt {m : Nat} (hfinite : m < single.infinity) :
    (scaleOnce (decimalLiteral false (writtenDecimal m)).decimal).magnitude < double.infinity := by
  rcases Nat.eq_zero_or_pos m with rfl | hpos
  · rw [magnitude_scaleOnce_zero]
    decide
  · obtain ⟨hdigits, hfits⟩ := digits_decimalLiteral_bounds false (writtenDecimal_pos hpos hfinite)
      (digits_writtenDecimal_le hpos hfinite)
    exact (scaleOnce_close hdigits hfits (natAbs_exponent_written_le hpos hfinite)).1

/-- The literal of a finite number is worth the decimal that it spells, scaled
once. -/
theorem number_writtenLiteral {x : Single} (hfinite : x.magnitude < single.infinity) :
    (writtenLiteral x).number = .ok (.real
      { scaleOnce (decimalLiteral false (writtenDecimal x.magnitude)).decimal with
        negative := x.negative }) := by
  rw [← decimal_decimalLiteral_sign x.negative]
  rcases Nat.eq_zero_or_pos x.magnitude with hzero | hpos
  · -- Zero is written with its one digit on either side of the point.
    have hliteral : writtenLiteral x = ⟨x.negative, ['0'], ['0'], none⟩ := by
      unfold writtenLiteral
      rw [hzero]
      rfl
    have hsame : decimalLiteral x.negative (writtenDecimal x.magnitude) = writtenLiteral x := rfl
    have hdecimal : (writtenLiteral x).decimal = ⟨0, -1⟩ := by
      rw [hliteral]
      rfl
    have hscaled := magnitude_scaleOnce_lt hfinite
    rw [← decimal_decimalLiteral_sign x.negative, hsame] at hscaled
    have hnumber := number_eq_real (l := writtenLiteral x)
      (by rw [hliteral]; rfl) (by rw [hdecimal]; exact Nat.zero_le _)
      (fun down ds hwritten => by rw [hliteral] at hwritten; cases hwritten)
      (by rw [hdecimal]; decide) (Binary.isInfinite_of_finite hscaled)
    rw [hsame, hnumber, hliteral]
  · obtain ⟨hleast, hmost⟩ := leadingExponent_writtenDecimal_bounds hpos hfinite
    exact number_decimalLiteral x.negative (writtenDecimal_pos hpos hfinite)
      (digits_writtenDecimal_le hpos hfinite) hleast hmost

/-- A finite number is read where it was written, bit for bit. -/
theorem toSingle_writtenLiteral {x : Single} (hfinite : x.isFinite = true) :
    ∃ n, (writtenLiteral x).number = .ok n ∧ n.toSingle = x := by
  have hrange : x.magnitude < single.infinity := of_decide_eq_true hfinite
  have hback : single.roundMagnitude (valueRead (writtenDecimal x.magnitude)) = x.magnitude :=
    readBack_eq hrange
  refine ⟨_, number_writtenLiteral hrange, ?_⟩
  -- Narrowing rounds what was read, and that is where the magnitude comes back.
  refine (toSingle_real x.negative (magnitude_scaleOnce_lt hrange)).trans ?_
  obtain ⟨negative, magnitude, hlt⟩ := x
  show Binary.mk negative (single.roundMagnitude (valueRead (writtenDecimal magnitude))) _ = _
  simp only [hback]

end ClassifierBridge.Json
