import ClassifierBridge.Binary.Format

/-!
# `ClassifierBridge.Binary.Arithmetic`: arithmetic and order

Each operation on finite numbers is the exact rational result, rounded once.
Infinities and values that are not numbers follow the usual table.

Three comparisons are kept apart. `=` compares bits. `==` is numeric equality:
the zeros are equal and nothing equals a value that is not a number.
`totalKey` orders all bit patterns, the negative zero just below the positive.
-/

set_option autoImplicit false

namespace ClassifierBridge.Binary

variable {fmt : BinaryFormat}

/-- The same number with the other sign. -/
def neg (x : Binary fmt) : Binary fmt := { x with negative := !x.negative }

/-- An exact finite result rounded to the format; `zeroSign` is the sign of an
exact zero. -/
def ofExact (zeroSign : Bool) (x : Rat) : Binary fmt :=
  if x.num < 0 then round true (-x)
  else if x.num = 0 then zero zeroSign
  else round false x

/-- The sum, rounded once. A sum of zero is negative only if both parts are. -/
def add (x y : Binary fmt) : Binary fmt :=
  if x.isNaN || y.isNaN then nan
  else if x.isInfinite then
    -- Infinities of opposite signs have no sum.
    if y.isInfinite && x.negative != y.negative then nan else x
  else if y.isInfinite then y
  else ofExact (x.negative && y.negative) (x.value + y.value)

/-- The difference, as the sum with the number of the other sign. -/
def sub (x y : Binary fmt) : Binary fmt := x.add y.neg

/-- The product, rounded once. Zero times an infinity is not a number. -/
def mul (x y : Binary fmt) : Binary fmt :=
  let sign := x.negative != y.negative
  if x.isNaN || y.isNaN then nan
  else if x.isInfinite || y.isInfinite then
    if x.isZero || y.isZero then nan else infinite sign
  else round sign (fmt.magnitudeValue x.magnitude * fmt.magnitudeValue y.magnitude)

/-- The quotient, rounded once. Zero by zero and an infinity by an infinity are not numbers. -/
def div (x y : Binary fmt) : Binary fmt :=
  let sign := x.negative != y.negative
  if x.isNaN || y.isNaN then nan
  else if x.isInfinite then
    if y.isInfinite then nan else infinite sign
  else if y.isInfinite then zero sign
  else if y.isZero then
    if x.isZero then nan else infinite sign
  else round sign (fmt.magnitudeValue x.magnitude / fmt.magnitudeValue y.magnitude)

/-- The magnitude with its sign: the order of the numbers, infinities included. -/
def key (x : Binary fmt) : Int := if x.negative then -(x.magnitude : Int) else x.magnitude

/-- Numeric equality. -/
instance : BEq (Binary fmt) := ⟨fun x y => !x.isNaN && !y.isNaN && x.key == y.key⟩

/-- Numeric order; false as soon as one side is not a number. -/
def le (x y : Binary fmt) : Bool := !x.isNaN && !y.isNaN && decide (x.key ≤ y.key)

/-- The order of all bit patterns, read as sign and magnitude. -/
def totalKey (x : Binary fmt) : Int :=
  if x.negative then -(x.magnitude : Int) - 1 else x.magnitude

end ClassifierBridge.Binary
