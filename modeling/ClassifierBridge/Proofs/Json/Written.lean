import ClassifierBridge.Proofs.Decimal.ReadBack
import ClassifierBridge.Proofs.Json.Document
import ClassifierBridge.Proofs.Json.Reading

/-!
# `ClassifierBridge.Proofs.Json.Written`: the literal that is written for a number

Whatever notation a layout chooses, the literal spells the decimal that was to be
written. Its digits are those of the decimal without the zeros at the end, save
that positional notation fills a number up with zeros to its point, and its
exponent is small.

* `NumberLayout.value_significant`: zeros at the end do not count.
* `decimal_decimalLiteral`: what the literal of a decimal spells.
* `number_decimalLiteral`: what the literal of a decimal is worth.
-/

set_option autoImplicit false

namespace ClassifierBridge

open Decimal

namespace NumberLayout

/-- A decimal without the zeros at its end. -/
def significant (d : Decimal) : Decimal :=
  ⟨Nat.ofDigitChars 10 (significantDigits d) 0,
    leadingExponent d + 1 - ((significantDigits d).length : Int)⟩

/-- The digits that are written, and the zeros that are not. -/
theorem digitsOf_eq_significantDigits (d : Decimal) :
    ∃ zeros, digitsOf d.digits = significantDigits d ++ List.replicate zeros '0' := by
  have hsplit :=
    List.takeWhile_append_dropWhile (p := (· == '0')) (l := (digitsOf d.digits).reverse)
  have hzeros : (digitsOf d.digits).reverse.takeWhile (· == '0')
      = List.replicate ((digitsOf d.digits).reverse.takeWhile (· == '0')).length '0' :=
    List.eq_replicate_iff.mpr ⟨rfl, fun c hmem =>
      beq_iff_eq.mp (List.mem_takeWhile_imp (p := (· == '0')) hmem)⟩
  refine ⟨((digitsOf d.digits).reverse.takeWhile (· == '0')).length, ?_⟩
  have hreversed := congrArg List.reverse hsplit
  rw [List.reverse_append, List.reverse_reverse, hzeros, List.reverse_replicate] at hreversed
  exact hreversed.symm

/-- Zeros at the end do not count. -/
theorem value_significant (d : Decimal) : (significant d).value = d.value := by
  obtain ⟨zeros, hdigits⟩ := digitsOf_eq_significantDigits d
  -- The zeros at the end are a power of ten in the digits.
  have hnumber : d.digits = 10 ^ zeros * (significant d).digits := by
    have hspelled : Nat.ofDigitChars 10 (digitsOf d.digits) 0 = d.digits :=
      Nat.ofDigitChars_ten_toDigits
    rw [hdigits, Nat.ofDigitChars_append, Nat.ofDigitChars_replicate_zero] at hspelled
    exact hspelled.symm
  -- The exponent grows by as many places.
  have hexponent : (significant d).exponent = d.exponent + zeros := by
    have hlength := congrArg List.length hdigits
    rw [List.length_append, List.length_replicate] at hlength
    show leadingExponent d + 1 - ((significantDigits d).length : Int) = _
    rw [leadingExponent, hlength]
    push_cast
    ring
  have hdigits' : (d.digits : Rat) = (10 : Rat) ^ (zeros : Int) * (significant d).digits := by
    rw [zpow_natCast]
    exact_mod_cast hnumber
  rw [value_eq, value_eq, hexponent, hdigits', zpow_add₀ (by norm_num)]
  ring

/-- A number other than zero does not consist of zeros at the end. -/
theorem significant_digits_pos {d : Decimal} (hpos : 0 < d.digits) :
    0 < (significant d).digits := by
  have hvalue := value_significant d
  rw [value_eq, value_eq] at hvalue
  refine Nat.pos_of_ne_zero fun hzero => ?_
  rw [hzero, Nat.cast_zero, zero_mul] at hvalue
  have hnonzero : (0 : Rat) < d.digits * (10 : Rat) ^ d.exponent :=
    mul_pos (by exact_mod_cast hpos) (zpow_pos (by norm_num) _)
  exact hnonzero.ne hvalue

/-- As many digits as are written bound the number that they spell. -/
theorem significant_digits_lt {d : Decimal} (hpos : 0 < d.digits) :
    (significant d).digits < 10 ^ (significantDigits d).length :=
  Json.Literal.ofDigitChars_lt (digits_significantDigits hpos).1.2

end NumberLayout

namespace Json

open NumberLayout Literal

variable (negative : Bool) {d : Decimal}

/-! ### What a written literal spells -/

/-- Positional notation spells the digits as they are, or filled up with zeros to
the point and one behind it. -/
theorem decimal_positionalLiteral (digits : List Char) {leading : Int} (hmost : leading ≤ 12) :
    (positionalLiteral negative digits leading).decimal
        = ⟨Nat.ofDigitChars 10 digits 0, leading + 1 - (digits.length : Int)⟩
      ∨ ∃ zeros, digits.length + zeros ≤ 14 ∧ leading + 2 - (digits.length : Int) = zeros
        ∧ (positionalLiteral negative digits leading).decimal
          = ⟨10 ^ zeros * Nat.ofDigitChars 10 digits 0, -1⟩ := by
  unfold positionalLiteral
  split
  · next hdown =>
      left
      have hvalue : Nat.ofDigitChars 10
          (['0'] ++ (List.replicate (-leading - 1).toNat '0' ++ digits)) 0
          = Nat.ofDigitChars 10 digits 0 := by
        rw [Nat.ofDigitChars_append, Nat.ofDigitChars_append]
        show Nat.ofDigitChars 10 digits (Nat.ofDigitChars 10 (List.replicate _ '0') 0) = _
        rw [Nat.ofDigitChars_replicate_zero, Nat.mul_zero]
      unfold decimal exponentValue
      dsimp only
      rw [hvalue, List.length_append, List.length_replicate]
      congr 1
      omega
  · next hup =>
      dsimp only
      -- The point stands behind `w` places, within the digits or beyond them.
      generalize hplaces : leading.toNat + 1 = w
      rcases Nat.lt_or_ge w digits.length with hmore | hfewer
      · left
        have hfraction : (digits.drop w).isEmpty = false := by
          rw [List.isEmpty_eq_false_iff, Ne, List.drop_eq_nil_iff]
          omega
        have hnoZeros : w - digits.length = 0 := by omega
        unfold decimal exponentValue
        dsimp only
        rw [hfraction, hnoZeros, List.replicate_zero, List.append_nil, if_neg Bool.false_ne_true,
          List.take_append_drop, List.length_drop]
        congr 1
        omega
      · right
        have hnoFraction : (digits.drop w).isEmpty = true := by
          rw [List.isEmpty_iff, List.drop_eq_nil_iff]
          exact hfewer
        refine ⟨w - digits.length + 1, by omega, by omega, ?_⟩
        unfold decimal exponentValue
        dsimp only
        rw [hnoFraction, if_pos rfl, List.take_of_length_le hfewer, List.append_assoc,
          show (['0'] : List Char) = List.replicate 1 '0' from rfl, List.replicate_append_replicate,
          Nat.ofDigitChars_append, Nat.ofDigitChars_replicate_zero]
        rfl

/-- An exponent is read as it was written. -/
theorem exponentValue_written (leading : Int) :
    exponentValue (some (decide (leading < 0), digitsOf leading.natAbs)) = leading := by
  have hvalue : Nat.ofDigitChars 10 (digitsOf leading.natAbs) 0 = leading.natAbs :=
    Nat.ofDigitChars_ten_toDigits
  unfold exponentValue
  dsimp only
  rw [hvalue]
  by_cases hdown : leading < 0
  · rw [decide_eq_true hdown, if_pos rfl]
    omega
  · rw [decide_eq_false hdown, if_neg Bool.false_ne_true]
    omega

/-- The literal of a decimal spells it. -/
theorem decimal_decimalLiteral (hpos : 0 < d.digits) :
    (decimalLiteral negative d).decimal = significant d
      ∨ ∃ zeros, (significantDigits d).length + zeros ≤ 14 ∧ (significant d).exponent + 1 = zeros
        ∧ (decimalLiteral negative d).decimal = ⟨10 ^ zeros * (significant d).digits, -1⟩ := by
  unfold decimalLiteral
  rw [if_neg hpos.ne']
  dsimp only
  split
  · next hrange =>
      have hmost : leadingExponent d ≤ 12 := hrange.2
      -- In positional notation the digits may end before the point or behind it.
      rcases decimal_positionalLiteral negative (significantDigits d) hmost with
        hsame | ⟨zeros, hfew, hexponent, hfilled⟩
      · exact .inl hsame
      · refine .inr ⟨zeros, hfew, ?_, hfilled⟩
        show leadingExponent d + 1 - ((significantDigits d).length : Int) + 1 = zeros
        omega
  · left
    have hnonempty : 0 < (significantDigits d).length :=
      List.length_pos_iff.mpr (significantDigits_ne_nil hpos)
    unfold scientificLiteral decimal significant
    dsimp only
    rw [exponentValue_written, List.take_append_drop, List.length_drop]
    congr 1
    omega

/-- In either notation the literal has the value of the decimal. -/
theorem value_decimalLiteral (hpos : 0 < d.digits) :
    (decimalLiteral negative d).decimal.value = d.value := by
  rcases decimal_decimalLiteral negative hpos with hsame | ⟨zeros, -, hexponent, hfilled⟩
  · rw [hsame, value_significant]
  · have hlast : (significant d).exponent = (zeros : Int) + -1 := by omega
    rw [hfilled, ← value_significant d, value_eq, value_eq, hlast, zpow_add₀ (by norm_num),
      zpow_natCast]
    push_cast
    ring

/-- A written number is no integer: it has a point or an exponent. -/
theorem isInteger_decimalLiteral (d : Decimal) :
    (decimalLiteral negative d).isInteger = false := by
  refine Bool.eq_false_iff.mpr fun hinteger => ?_
  -- Positional notation always has a point, scientific notation an exponent.
  obtain ⟨hfraction, hexponent, -⟩ := (isInteger_iff _).mp hinteger
  unfold decimalLiteral at hfraction hexponent
  split at hfraction
  · cases hfraction
  · next hnonzero =>
      rw [if_neg hnonzero] at hexponent
      dsimp only at hfraction hexponent
      split at hfraction
      · unfold positionalLiteral at hfraction
        split at hfraction
        · have hall := (List.append_eq_nil_iff.mp hfraction).2
          exact significantDigits_ne_nil (Nat.pos_of_ne_zero hnonzero) hall
        · dsimp only at hfraction
          split at hfraction
          · cases hfraction
          · next hnonempty => exact hnonempty (List.isEmpty_iff.mpr hfraction)
      · next hnotPositional =>
          rw [if_neg hnotPositional] at hexponent
          cases hexponent

/-- The sign is nothing but a sign. -/
theorem decimalLiteral_sign (d : Decimal) :
    decimalLiteral negative d = { decimalLiteral false d with negative := negative } := by
  unfold decimalLiteral positionalLiteral scientificLiteral
  dsimp only
  split
  · rfl
  · split
    · split
      · rfl
      · rfl
    · rfl

/-- The literal has the sign that it was given. -/
theorem negative_decimalLiteral (d : Decimal) :
    (decimalLiteral negative d).negative = negative := by
  rw [decimalLiteral_sign]

/-- The sign does not matter to the decimal that a literal spells. -/
theorem decimal_decimalLiteral_sign (d : Decimal) :
    (decimalLiteral negative d).decimal = (decimalLiteral false d).decimal := by
  rw [decimalLiteral_sign]
  rfl

/-- An exponent that is written is that of the first digit. -/
theorem exponent_decimalLiteral {down : Bool} {ds : List Char}
    (hwritten : (decimalLiteral negative d).exponent = some (down, ds)) :
    Nat.ofDigitChars 10 ds 0 = (leadingExponent d).natAbs := by
  unfold decimalLiteral positionalLiteral scientificLiteral at hwritten
  dsimp only at hwritten
  split at hwritten
  · cases hwritten
  · split at hwritten
    · split at hwritten
      · cases hwritten
      · cases hwritten
    · cases hwritten
      exact Nat.ofDigitChars_ten_toDigits

/-! ### What a written literal is worth -/

section Bounds

variable (hpos : 0 < d.digits) (hfew : d.digits ≤ 10 ^ 9)
include hpos hfew

/-- A decimal of at most nine digits, or the power of ten behind them, is written
with ten digits at most. -/
theorem length_significantDigits_le : (significantDigits d).length ≤ 10 := by
  have hfront := significantDigits_prefix d
  have hlength := hfront.length_le
  have hpower := Nat.le_trans (pow_length_digitsOf_le hpos) hfew
  have hdigits := (Nat.pow_le_pow_iff_right (by decide : 1 < 10)).mp hpower
  omega

/-- The digits of a written number fit 53 bits. -/
theorem digits_decimalLiteral_bounds :
    0 < (decimalLiteral negative d).decimal.digits
      ∧ (decimalLiteral negative d).decimal.digits < 2 ^ 53 := by
  have hdigits := significant_digits_pos hpos
  have hbound := significant_digits_lt hpos
  have hlength := length_significantDigits_le hpos hfew
  have hfits : 10 ^ 14 < 2 ^ 53 := by decide
  rcases decimal_decimalLiteral negative hpos with hsame | ⟨zeros, hshort, -, hfilled⟩
  · rw [hsame]
    have hpower := Nat.pow_le_pow_right (by decide : 0 < 10)
      (show (significantDigits d).length ≤ 14 by omega)
    exact ⟨hdigits, by omega⟩
  · rw [hfilled]
    -- With the zeros that fill it up, the number has at most fourteen digits.
    have hshifted := Nat.mul_lt_mul_of_pos_left hbound
      (Nat.pow_pos (n := zeros) (by decide : 0 < 10))
    rw [← Nat.pow_add] at hshifted
    have hpower := Nat.pow_le_pow_right (by decide : 0 < 10)
      (show zeros + (significantDigits d).length ≤ 14 by omega)
    exact ⟨Nat.mul_pos (Nat.pow_pos (by decide)) hdigits,
      Nat.lt_of_lt_of_le hshifted (Nat.le_trans hpower hfits.le)⟩

/-- The exponent of a written number is next to that of its first digit. -/
theorem exponent_decimalLiteral_bounds :
    min (leadingExponent d - 9) (-1) ≤ (decimalLiteral negative d).decimal.exponent
      ∧ (decimalLiteral negative d).decimal.exponent ≤ max (leadingExponent d) (-1) := by
  have hlength := length_significantDigits_le hpos hfew
  have hnonempty : 0 < (significantDigits d).length :=
    List.length_pos_iff.mpr (significantDigits_ne_nil hpos)
  rcases decimal_decimalLiteral negative hpos with hsame | ⟨zeros, -, -, hfilled⟩
  · rw [hsame]
    show _ ≤ leadingExponent d + 1 - ((significantDigits d).length : Int)
      ∧ leadingExponent d + 1 - ((significantDigits d).length : Int) ≤ _
    omega
  · rw [hfilled]
    exact ⟨min_le_right _ _, le_max_right _ _⟩

/-- A decimal of few digits is worth its literal's decimal, scaled once. -/
theorem number_decimalLiteral (hleast : -149 ≤ leadingExponent d) (hmost : leadingExponent d < 39) :
    (decimalLiteral negative d).number = .ok (.real
      { scaleOnce (decimalLiteral negative d).decimal with negative := negative }) := by
  obtain ⟨hdigits, hfits⟩ := digits_decimalLiteral_bounds negative hpos hfew
  obtain ⟨hlow, hhigh⟩ := exponent_decimalLiteral_bounds negative hpos hfew
  have hsmall : (decimalLiteral negative d).decimal.exponent.natAbs ≤ 200 := by omega
  have hlimit : digitLimit = 18446744073709551615 := rfl
  have hexponentMost : exponentLimit = 2147483647 := rfl
  have hfinite := Binary.isInfinite_of_finite (scaleOnce_close hdigits hfits hsmall).1
  have hvalue := number_eq_real (isInteger_decimalLiteral negative d) (by omega)
    (fun down ds hwritten => by
      rw [exponent_decimalLiteral negative hwritten]
      omega) (le_trans hsmall (by decide)) hfinite
  rwa [negative_decimalLiteral] at hvalue

end Bounds

end Json

end ClassifierBridge
