import ClassifierBridge.Binary.Arithmetic
import ClassifierBridge.Json.Fault

/-!
# `ClassifierBridge.Json.Number`: number literals

`Literal.scan` splits a literal into its parts, the digits of each part kept as
they are written; `Literal.number` gives the parts their value.

The digits of a literal accumulate in 64 bits. Once the next digit would not
fit, the rest of the integer part only counts as powers of ten and the rest of
the fraction is skipped. A literal without fraction and exponent that fits is
an integer; any other is scaled by one multiplication or division by a power of
ten in 64-bit binary arithmetic, so it is rounded up to three times: the digits,
the power of ten and the result. A result too large for the format is a fault.
-/

set_option autoImplicit false

namespace ClassifierBridge.Json

/-- A number literal, by its parts. -/
structure Literal where
  negative : Bool
  /-- the digits before the point; a leading zero stands alone -/
  whole : List Char
  /-- the digits after the point, none if there is no point -/
  fraction : List Char
  /-- the digits of the exponent and whether it is negative -/
  exponent : Option (Bool × List Char)

namespace Literal

/-- Splits off the digits at the front. -/
def digits (s : List Char) : List Char × List Char :=
  (s.takeWhile Char.isDigit, s.dropWhile Char.isDigit)

/-- Whether a digit comes next. -/
def startsWithDigit (s : List Char) : Bool := s.head?.any Char.isDigit

/-- The digits before the point. A zero is followed by no other digit. -/
def scanWhole (s : List Char) : Except Fault (List Char × List Char) :=
  match s with
  | [] => .error (Cause.endInValue.here s)
  | c :: rest =>
    if c = '0' then
      if startsWithDigit rest then .error (Cause.invalidNumber.past rest) else .ok ([c], rest)
    else if c.isDigit then .ok (digits s)
    else .error (Cause.invalidNumber.past s)

/-- The digits that have to come next, at least one. -/
def scanDigits (s : List Char) : Except Fault (List Char × List Char) :=
  if s.isEmpty then .error (Cause.endInValue.here s)
  else if startsWithDigit s then .ok (digits s)
  else .error (Cause.invalidNumber.past s)

/-- The point and the digits after it. -/
def scanFraction (s : List Char) : Except Fault (List Char × List Char) :=
  match s with
  | [] => .ok ([], s)
  | c :: rest => if c = '.' then scanDigits rest else .ok ([], s)

/-- The sign of an exponent. -/
def scanSign (s : List Char) : Bool × List Char :=
  match s with
  | [] => (false, s)
  | c :: rest =>
    if c = '-' then (true, rest) else if c = '+' then (false, rest) else (false, s)

/-- The exponent, if there is one. -/
def scanExponent (s : List Char) : Except Fault (Option (Bool × List Char) × List Char) :=
  match s with
  | [] => .ok (none, s)
  | c :: rest =>
    if c = 'e' ∨ c = 'E' then
      let (negative, rest) := scanSign rest
      (scanDigits rest).map fun (ds, rest) => (some (negative, ds), rest)
    else .ok (none, s)

/-- Reads a literal after its sign. -/
def scan (negative : Bool) (s : List Char) : Except Fault (Literal × List Char) := do
  let (whole, rest) ← scanWhole s
  let (fraction, rest) ← scanFraction rest
  let (exponent, rest) ← scanExponent rest
  return (⟨negative, whole, fraction, exponent⟩, rest)

/-- The largest number that digits accumulate to, the largest of 64 bits. -/
def digitLimit : Nat := 18446744073709551615

/-- Appends digits to a number while the result stays within the limit; the
first digit that does not fit and all after it are left over. -/
def accumulate (limit n : Nat) : List Char → Nat × List Char
  | [] => (n, [])
  | c :: rest =>
    let next := 10 * n + (c.toNat - '0'.toNat)
    if next ≤ limit then accumulate limit next rest else (n, c :: rest)

/-- The significand of the literal and the power of ten that scales it, the
exponent of the literal aside. -/
def significand (l : Literal) : Nat × Int :=
  let (n, uncounted) := accumulate digitLimit 0 l.whole
  let (n, skipped) := accumulate digitLimit n l.fraction
  (n, (uncounted.length : Int) - ((l.fraction.length - skipped.length : Nat) : Int))

/-- The literal is an integer that fits 64 bits: the sign is not counted. -/
def isInteger (l : Literal) : Bool :=
  l.fraction.isEmpty && l.exponent.isNone && (accumulate digitLimit 0 l.whole).2.isEmpty

/-- The power of ten nearest in 64-bit arithmetic. -/
def powerOfTen (n : Nat) : Double := Binary.round false (scaled 1 10 n)

/-- `x` scaled by `10 ^ e`, or `none` if the result is too large. Powers of ten
reach to `308`; a number that has to shrink by more is divided in several
steps. -/
def scale (x : Double) (e : Int) : Option Double :=
  -- The power of ten is finite, so one operation is enough.
  if e.natAbs ≤ 308 then
    if 0 ≤ e then
      let y := x.mul (powerOfTen e.natAbs)
      if y.isInfinite then none else some y
    else some (x.div (powerOfTen e.natAbs))
  -- A zero stays zero whatever scales it.
  else if x.isZero then some x
  else if 0 ≤ e then none
  else scale (x.div (powerOfTen 308)) (e + 308)
termination_by e.natAbs

/-- The largest exponent that can be written, the largest of 31 bits. -/
def exponentLimit : Nat := 2147483647

/-- The largest number whose negation fits 64 bits with a sign. -/
def negativeLimit : Nat := 9223372036854775808

/-- The value of a literal. A literal that is out of range is answered by the
number of its last characters that stay unread. -/
def number (l : Literal) : Except Nat Number :=
  let (n, scaling) := l.significand
  let real (e : Int) : Except Nat Number :=
    match scale (Binary.ofInt n) (scaling + e) with
    | some x => .ok (.real { x with negative := l.negative })
    | none => .error 0
  match l.exponent with
  | none =>
    if l.isInteger then
      -- The negative zero is no integer, since an integer would lose its sign.
      if !l.negative then .ok (.natural n)
      else if n = 0 ∨ negativeLimit < n then real 0
      else .ok (.negative n)
    else real 0
  | some (down, ds) =>
    match accumulate exponentLimit 0 ds with
    | (e, []) => real (if down then -(e : Int) else e)
    -- The exponent itself is too large: reading stops at the digit that does not fit.
    | (_, _ :: unread) =>
      if n = 0 ∨ down then .ok (.real (Binary.zero l.negative)) else .error unread.length

/-- Reads a number after its sign. -/
def read (negative : Bool) (s : List Char) : Except Fault (Number × List Char) := do
  let (literal, rest) ← scan negative s
  match literal.number with
  | .ok n => return (n, rest)
  | .error unread => throw ⟨.numberOutOfRange, Utf8.byteLength rest + unread⟩

end Literal

end ClassifierBridge.Json
