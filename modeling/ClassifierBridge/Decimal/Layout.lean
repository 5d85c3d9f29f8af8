import ClassifierBridge.Binary.Arithmetic
import ClassifierBridge.Decimal.Shortest

/-!
# `ClassifierBridge.Decimal.Layout`: the text of a binary number

A number is written with its shortest digits, in positional notation while the
exponent of its first digit lies in a range and in scientific notation beyond.
`NumberLayout` holds what differs between the places that write numbers; the
layouts in use are values of it: `NumberLayout.json` in JSON documents,
`NumberLayout.message` in error messages and `NumberLayout.log` in log lines.
-/

set_option autoImplicit false

namespace ClassifierBridge

/-- How a number is laid out as text. -/
structure NumberLayout where
  /-- the smallest exponent of the first digit that is written positionally -/
  leastPositional : Int
  /-- the largest exponent of the first digit that is written positionally -/
  mostPositional : Int
  /-- what stands between `e` and a positive exponent -/
  positiveMark : List Char
  tie : TieRule
deriving Repr

namespace NumberLayout

/-- Thresholds in JSON documents. -/
def json : NumberLayout := ⟨-6, 12, ['+'], .even⟩

/-- Number literals quoted in error messages. -/
def message : NumberLayout := ⟨-5, 15, ['+'], .even⟩

/-- Thresholds in log lines. -/
def log : NumberLayout := ⟨-4, 15, [], .up⟩

/-- The digits of a decimal without the zeros at its end. -/
def significantDigits (d : Decimal) : List Char :=
  ((Decimal.digitsOf d.digits).reverse.dropWhile (· == '0')).reverse

/-- The exponent of the first digit. -/
def leadingExponent (d : Decimal) : Int :=
  d.exponent + ((Decimal.digitsOf d.digits).length : Int) - 1

/-- Positional notation with at least one digit on either side of the point. -/
def positional (digits : List Char) (leading : Int) : List Char :=
  if leading < 0 then
    '0' :: '.' :: (List.replicate (-leading - 1).toNat '0' ++ digits)
  else
    -- A number with fewer digits than places before the point is filled up with zeros.
    let whole := leading.toNat + 1
    let fraction := digits.drop whole
    (digits.take whole ++ List.replicate (whole - digits.length) '0')
      ++ '.' :: (if fraction.isEmpty then ['0'] else fraction)

/-- Scientific notation: one digit, the rest after a point, the exponent. -/
def scientific (mark : List Char) (digits : List Char) (leading : Int) : List Char :=
  let fraction := digits.drop 1
  digits.take 1 ++ (if fraction.isEmpty then [] else '.' :: fraction)
    ++ 'e' :: ((if leading < 0 then ['-'] else mark) ++ Decimal.digitsOf leading.natAbs)

/-- A decimal in the layout. -/
def writeDecimal (l : NumberLayout) (d : Decimal) : List Char :=
  if d.digits = 0 then "0.0".toList
  else
    let leading := leadingExponent d
    if l.leastPositional ≤ leading ∧ leading ≤ l.mostPositional then
      positional (significantDigits d) leading
    else
      scientific l.positiveMark (significantDigits d) leading

/-- A finite number in the layout: its sign, then its shortest decimal. -/
def writeFinite (l : NumberLayout) {fmt : BinaryFormat} (x : Binary fmt) : List Char :=
  (if x.negative then ['-'] else []) ++ l.writeDecimal (Decimal.shortest fmt l.tie x.magnitude)

/-- Any number in the layout. Infinity keeps its sign; a value that is not a
number has none. -/
def write (l : NumberLayout) {fmt : BinaryFormat} (x : Binary fmt) : List Char :=
  if x.isNaN then "NaN".toList
  else if x.isInfinite then (if x.negative then "-inf" else "inf").toList
  else l.writeFinite x

end NumberLayout

end ClassifierBridge
