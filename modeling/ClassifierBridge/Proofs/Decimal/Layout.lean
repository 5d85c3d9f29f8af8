import ClassifierBridge.Decimal.Layout
import ClassifierBridge.Proofs.Decimal.Shortest
import Mathlib.Data.List.TakeWhile

/-!
# `ClassifierBridge.Proofs.Decimal.Layout`: the digits that are laid out

What a layout gets to write for a number that is not zero: digits of which the
first is no zero, and the exponent of that first digit, which is bounded by the
range of the format.

* `NumberLayout.digits_significantDigits`: the digits that are written.
* `NumberLayout.pow_leadingExponent_le`, `NumberLayout.lt_pow_leadingExponent`:
  the power of ten of the first digit.
* `NumberLayout.leadingExponent_shortest_bounds`: its range for the format of
  thresholds.
-/

set_option autoImplicit false

namespace ClassifierBridge

open Decimal

namespace Decimal

/-- A number is written in digits only. -/
theorem isDigit_of_mem_digitsOf {n : Nat} {c : Char} (hmem : c ∈ digitsOf n) : c.isDigit = true :=
  Nat.isDigit_of_mem_toDigits (by decide) (by decide) hmem

/-- The digits of a number other than zero do not start with a zero. -/
theorem head?_digitsOf_ne_zero {n : Nat} (hpos : 0 < n) : (digitsOf n).head? ≠ some '0' := by
  -- The first digit stays when the last one is taken off.
  induction n using Nat.strong_induction_on with
  | _ n ih =>
      unfold digitsOf
      by_cases hsmall : n < 10
      · rw [Nat.toDigits_of_lt_base hsmall, List.head?_cons]
        intro hzero
        have := Nat.digitChar_eq_zero.mp (Option.some.inj hzero)
        omega
      · have hfront := ih (n / 10) (by omega) (by omega)
        obtain ⟨c, rest, hdigits⟩ := List.exists_cons_of_ne_nil
          (Nat.toDigits_ne_nil : Nat.toDigits 10 (n / 10) ≠ [])
        rw [digitsOf, hdigits, List.head?_cons] at hfront
        rw [Nat.toDigits_of_base_le (by decide) (not_lt.mp hsmall), hdigits, List.cons_append,
          List.head?_cons]
        exact hfront

end Decimal

namespace NumberLayout

/-- Taking zeros off the end leaves a front part. -/
theorem significantDigits_prefix (d : Decimal) : significantDigits d <+: digitsOf d.digits := by
  unfold significantDigits
  have hsuffix := List.dropWhile_suffix (l := (digitsOf d.digits).reverse) (· == '0')
  exact List.reverse_suffix.mp (by rwa [List.reverse_reverse])

/-- Some digit is left, since not all are zeros. -/
theorem significantDigits_ne_nil {d : Decimal} (hpos : 0 < d.digits) :
    significantDigits d ≠ [] := by
  intro hnone
  have hdropped := List.reverse_eq_nil_iff.mp hnone
  obtain ⟨c, rest, hdigits⟩ := List.exists_cons_of_ne_nil
    (Nat.toDigits_ne_nil : Nat.toDigits 10 d.digits ≠ [])
  have hmem : c ∈ (digitsOf d.digits).reverse := by
    rw [List.mem_reverse, digitsOf, hdigits]
    exact List.mem_cons_self
  have hzero : c = '0' := by
    have hall := List.dropWhile_eq_nil_iff.mp hdropped c hmem
    exact beq_iff_eq.mp hall
  refine head?_digitsOf_ne_zero hpos ?_
  rw [digitsOf, hdigits, hzero, List.head?_cons]

/-- The digits that are written are digits, and the first is no zero. -/
theorem digits_significantDigits {d : Decimal} (hpos : 0 < d.digits) :
    (significantDigits d ≠ [] ∧ ∀ c ∈ significantDigits d, c.isDigit = true)
      ∧ (significantDigits d).head? ≠ some '0' := by
  have hfront := significantDigits_prefix d
  have hnonempty := significantDigits_ne_nil hpos
  refine ⟨⟨hnonempty, fun c hmem => isDigit_of_mem_digitsOf (hfront.subset hmem)⟩, fun hzero => ?_⟩
  obtain ⟨rest, hwhole⟩ := hfront
  refine head?_digitsOf_ne_zero hpos ?_
  rw [← hwhole, List.head?_append, hzero, Option.some_or]

/-- The power of ten of the first digit is within the number. -/
theorem pow_leadingExponent_le {d : Decimal} (hpos : 0 < d.digits) :
    (10 : Rat) ^ leadingExponent d ≤ d.value := by
  have hdigits : (10 : Rat) ^ ((digitsOf d.digits).length - 1) ≤ d.digits := by
    exact_mod_cast pow_length_digitsOf_le hpos
  have hlength : 0 < (digitsOf d.digits).length := Nat.length_toDigits_pos
  have hexponent : leadingExponent d
      = (((digitsOf d.digits).length - 1 : Nat) : Int) + d.exponent := by
    unfold leadingExponent
    omega
  rw [value_eq, hexponent, zpow_add₀ (by norm_num), zpow_natCast]
  exact mul_le_mul_of_nonneg_right hdigits (zpow_pos (by norm_num) _).le

/-- The next power of ten is above the number. -/
theorem lt_pow_leadingExponent (d : Decimal) : d.value < (10 : Rat) ^ (leadingExponent d + 1) := by
  have hdigits : (d.digits : Rat) < (10 : Rat) ^ (digitsOf d.digits).length := by
    exact_mod_cast lt_pow_length_digitsOf d.digits
  have hexponent : leadingExponent d + 1 = ((digitsOf d.digits).length : Int) + d.exponent := by
    unfold leadingExponent
    omega
  rw [value_eq, hexponent, zpow_add₀ (by norm_num), zpow_natCast]
  exact mul_lt_mul_of_pos_right hdigits (zpow_pos (by norm_num) _)

/-- The first digit does not stand behind the last one. -/
theorem exponent_le_leadingExponent (d : Decimal) : d.exponent ≤ leadingExponent d := by
  have hlength : 0 < (digitsOf d.digits).length := Nat.length_toDigits_pos
  unfold leadingExponent
  omega

/-- The exponents of the first digits that a finite number of the format of
thresholds can have. -/
theorem leadingExponent_shortest_bounds (tie : TieRule) {m : Nat} (hpos : 0 < m)
    (hfinite : m < BinaryFormat.single.infinity)
    (hdigits : 0 < (shortest .single tie m).digits) :
    -149 ≤ leadingExponent (shortest .single tie m)
      ∧ leadingExponent (shortest .single tie m) < 39 := by
  constructor
  · -- No grid is finer than the one of the least place.
    obtain ⟨hlast, -, -⟩ := shortest_cases .single tie hpos
    have hleast : -149 ≤ BinaryFormat.single.lastPlace m := by
      have hexponent : BinaryFormat.single.leastExponent = -149 := by decide
      unfold BinaryFormat.lastPlace
      omega
    have hfirst := exponent_le_leadingExponent (shortest .single tie m)
    omega
  · -- A finite number is below infinity, and its shortest decimal at most twice as large.
    have hinfinity : BinaryFormat.single.magnitudeValue BinaryFormat.single.infinity
        = (2 : Rat) ^ 128 := by
      rw [BinaryFormat.magnitudeValue_eq]
      have hsignificand :
          BinaryFormat.single.significand BinaryFormat.single.infinity = 2 ^ 23 := by
        decide
      have hplace : BinaryFormat.single.lastPlace BinaryFormat.single.infinity = 105 := by decide
      rw [hsignificand, hplace]
      norm_num
    have hnumber := BinaryFormat.single.magnitudeValue_lt hfinite (le_refl _)
    have htwice := value_shortest_le .single tie hpos
    have hfirst := pow_leadingExponent_le hdigits
    have hpower : (2 : Rat) * 2 ^ 128 < (10 : Rat) ^ (39 : Int) := by norm_num
    have hbound : (10 : Rat) ^ leadingExponent (shortest .single tie m)
        < (10 : Rat) ^ (39 : Int) := by linarith
    exact (zpow_lt_zpow_iff_right₀ (by norm_num)).mp hbound

end NumberLayout

end ClassifierBridge
