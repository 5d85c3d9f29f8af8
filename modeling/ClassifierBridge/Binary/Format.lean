/-!
# `ClassifierBridge.Binary.Format`: binary interchange numbers

A `BinaryFormat` is a sign bit, a biased exponent and a fraction; `Binary fmt`
is a number of that format. Below the sign bit, the exponent and the fraction
read as one natural number, the *magnitude*: magnitudes are in the order of the
values they stand for, the next number up is one more, and infinity is the
first magnitude that stands for no finite value. Both formats of this library,
`single` and `double`, are instances, so widening, narrowing and arithmetic
share one rounding rule.

* `BinaryFormat.magnitudeValue`: the rational a finite magnitude stands for.
* `BinaryFormat.roundMagnitude`: the magnitude nearest to a rational, the even
  one on a tie, infinity past the largest finite number.
* `Binary.round`, `Binary.convert`: rounding with a sign.
-/

set_option autoImplicit false

namespace ClassifierBridge

/-- A power of two. -/
def twoPow (n : Nat) : Nat := Nat.pow 2 n

/-- A power of two is positive. -/
theorem twoPow_pos (n : Nat) : 0 < twoPow n := Nat.two_pow_pos n

/-- Powers of two are multiplied by adding their exponents. -/
theorem twoPow_add (m n : Nat) : twoPow (m + n) = twoPow m * twoPow n := Nat.pow_add 2 m n

/-- The rational `m * base ^ e`. -/
def scaled (m : Int) (base : Nat) (e : Int) : Rat :=
  if 0 ≤ e then ((m * (Nat.pow base e.toNat : Int) : Int) : Rat)
  else mkRat m (Nat.pow base (-e).toNat)

/-- The exponent of the power of two just at or below a positive `x`. The bit
lengths of numerator and denominator leave two candidates. -/
def floorLog2 (x : Rat) : Int :=
  let e : Int := (x.num.toNat.log2 : Int) - (x.den.log2 : Int)
  if scaled 1 2 e ≤ x then e else e - 1

/-- The natural number nearest to a quotient; of two at the same distance, the
even one. -/
def nearestQuotient (num den : Nat) : Nat :=
  let low := num / den
  let rest := num % den
  if 2 * rest < den then low
  else if den < 2 * rest then low + 1
  else low + low % 2

/-- The natural number nearest to a nonnegative `x`. -/
def nearestEven (x : Rat) : Nat := nearestQuotient x.num.toNat x.den

/-- A binary interchange format, by the widths of its two fields. -/
structure BinaryFormat where
  exponentBits : Nat
  fractionBits : Nat
deriving DecidableEq, Repr

namespace BinaryFormat

/-- 32 bits: the format of scores and thresholds. -/
def single : BinaryFormat := ⟨8, 23⟩

/-- 64 bits: the format in which number literals are first read. -/
def double : BinaryFormat := ⟨11, 52⟩

/-- All bits but the sign. -/
def magnitudeBits (fmt : BinaryFormat) : Nat := fmt.exponentBits + fmt.fractionBits

/-- The exponent of the last place of the smallest numbers. -/
def leastExponent (fmt : BinaryFormat) : Int :=
  2 - (twoPow (fmt.exponentBits - 1) : Int) - (fmt.fractionBits : Int)

/-- The magnitude of infinity: an exponent field of ones and a fraction of
zeros. Larger magnitudes are not numbers. -/
def infinity (fmt : BinaryFormat) : Nat := (twoPow fmt.exponentBits - 1) * twoPow fmt.fractionBits

/-- An infinity is one of the bit patterns of the format. -/
theorem infinity_lt (fmt : BinaryFormat) : fmt.infinity < twoPow fmt.magnitudeBits := by
  unfold infinity magnitudeBits
  rw [twoPow_add]
  exact Nat.mul_lt_mul_of_pos_right
    (Nat.sub_lt (twoPow_pos _) Nat.one_pos) (twoPow_pos _)

/-- The magnitude of the number that is none: infinity with the top bit of the
fraction set. -/
def notANumber (fmt : BinaryFormat) : Nat :=
  min (fmt.infinity + twoPow (fmt.fractionBits - 1)) (twoPow fmt.magnitudeBits - 1)

/-- The integer part of a decoded magnitude: the fraction, below a hidden one
unless the exponent field is zero. -/
def significand (fmt : BinaryFormat) (magnitude : Nat) : Nat :=
  if magnitude / twoPow fmt.fractionBits = 0 then magnitude
  else twoPow fmt.fractionBits + magnitude % twoPow fmt.fractionBits

/-- The power of two that scales the significand. The exponent fields zero and
one share the least exponent. -/
def lastPlace (fmt : BinaryFormat) (magnitude : Nat) : Int :=
  fmt.leastExponent + ((magnitude / twoPow fmt.fractionBits - 1 : Nat) : Int)

/-- The value of a finite magnitude. -/
def magnitudeValue (fmt : BinaryFormat) (magnitude : Nat) : Rat :=
  scaled (fmt.significand magnitude) 2 (fmt.lastPlace magnitude)

/-- The magnitude nearest to a nonnegative `x`. The last place is chosen so that
the significand fits its field; a significand rounded up to the next power of
two carries into the exponent field, which is the right magnitude again. -/
def roundMagnitude (fmt : BinaryFormat) (x : Rat) : Nat :=
  if x.num ≤ 0 then 0
  else
    -- A significand of full width, unless that needs a place below the least one.
    let place := max fmt.leastExponent (floorLog2 x - (fmt.fractionBits : Int))
    let significand := nearestEven (x * scaled 1 2 (-place))
    -- The hidden one of a normal significand is the lowest bit of its exponent field.
    min fmt.infinity
      ((place - fmt.leastExponent).toNat * twoPow fmt.fractionBits + significand)

/-- Nothing is rounded to a pattern behind infinity, so no rounding gives what is not a
number. -/
theorem roundMagnitude_le (fmt : BinaryFormat) (x : Rat) :
    fmt.roundMagnitude x ≤ fmt.infinity := by
  unfold roundMagnitude
  split
  · exact Nat.zero_le _
  · exact Nat.min_le_left _ _

end BinaryFormat

/-- A number of a binary format: its sign bit and its magnitude. Two are equal
exactly when their bits are, so the zeros of both signs are distinct here. -/
structure Binary (fmt : BinaryFormat) where
  negative : Bool
  magnitude : Nat
  magnitude_lt : magnitude < twoPow fmt.magnitudeBits

/-- A 32-bit number. -/
abbrev Single := Binary .single

/-- A 64-bit number. -/
abbrev Double := Binary .double

namespace Binary

variable {fmt : BinaryFormat}

/-- The bits, sign first. -/
def toBits (x : Binary fmt) : Nat :=
  (if x.negative then twoPow fmt.magnitudeBits else 0) + x.magnitude

/-- The number with the given bits; bits above the sign are dropped. -/
def ofBits (bits : Nat) : Binary fmt where
  negative := bits / twoPow fmt.magnitudeBits % 2 == 1
  magnitude := bits % twoPow fmt.magnitudeBits
  magnitude_lt := Nat.mod_lt _ (twoPow_pos _)

/-- A number is read back from its bits. -/
theorem ofBits_toBits (x : Binary fmt) : ofBits x.toBits = x := by
  obtain ⟨s, m, h⟩ := x
  have hp : 0 < twoPow fmt.magnitudeBits := twoPow_pos _
  cases s with
  | false =>
      simp [ofBits, toBits, Nat.div_eq_of_lt h, Nat.mod_eq_of_lt h]
  | true =>
      simp [ofBits, toBits, Nat.add_div_left _ hp, Nat.div_eq_of_lt h, Nat.mod_eq_of_lt h]

/-- The patterns behind infinity are no numbers. -/
def isNaN (x : Binary fmt) : Bool := decide (fmt.infinity < x.magnitude)

/-- Infinity has one pattern of either sign. -/
def isInfinite (x : Binary fmt) : Bool := x.magnitude == fmt.infinity

/-- The patterns before infinity are the finite numbers. -/
def isFinite (x : Binary fmt) : Bool := decide (x.magnitude < fmt.infinity)

/-- Zero of either sign. -/
def isZero (x : Binary fmt) : Bool := x.magnitude == 0

/-- The value of a finite number. -/
def value (x : Binary fmt) : Rat :=
  if x.negative then -fmt.magnitudeValue x.magnitude else fmt.magnitudeValue x.magnitude

/-- Zero of the given sign. -/
def zero (negative : Bool) : Binary fmt := ⟨negative, 0, twoPow_pos _⟩

/-- Infinity of the sign. -/
def infinite (negative : Bool) : Binary fmt :=
  ⟨negative, fmt.infinity, fmt.infinity_lt⟩

/-- The one pattern that stands here for what is not a number. -/
def nan : Binary fmt :=
  ⟨false, fmt.notANumber,
    Nat.lt_of_le_of_lt (Nat.min_le_right _ _) (Nat.sub_lt (twoPow_pos _) Nat.one_pos)⟩

/-- The number of the given sign whose magnitude is nearest to `x`. -/
def round (negative : Bool) (x : Rat) : Binary fmt :=
  ⟨negative, fmt.roundMagnitude x, Nat.lt_of_le_of_lt (fmt.roundMagnitude_le x) fmt.infinity_lt⟩

/-- The nearest number to an integer. -/
def ofInt (n : Int) : Binary fmt := round (decide (n < 0)) (n.natAbs : Rat)

/-- The nearest number in another format. -/
def convert {target : BinaryFormat} (x : Binary fmt) : Binary target :=
  if x.isNaN then nan
  else if x.isInfinite then infinite x.negative
  else round x.negative (fmt.magnitudeValue x.magnitude)

end Binary

end ClassifierBridge
