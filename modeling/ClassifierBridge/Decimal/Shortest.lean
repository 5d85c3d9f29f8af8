import ClassifierBridge.Binary.Format

/-!
# `ClassifierBridge.Decimal.Shortest`: the fewest digits that read back

A finite binary number is written with as few digits as identify it: the grids
of step `10 ^ e` are tried from coarse to fine, and the first grid with a point
that rounds to the number decides. A grid with such a point has one next to the
number itself, so only the two neighbours are looked at; where both read back,
the nearer one is taken, and `TieRule` chooses between two at the same distance.

The search ends at the grid on which the number itself lies, so it needs no
bound on the number of digits.
-/

set_option autoImplicit false

namespace ClassifierBridge

/-- A decimal `digits * 10 ^ exponent`. -/
structure Decimal where
  digits : Nat
  exponent : Int
deriving DecidableEq, Repr

/-- Which of two neighbours at the same distance is written. -/
inductive TieRule where
  /-- the one with the even last digit -/
  | even
  /-- the larger one -/
  | up
deriving DecidableEq, Repr

namespace Decimal

/-- The value of the decimal. -/
def value (d : Decimal) : Rat := scaled d.digits 10 d.exponent

/-- The decimal digits of a natural number, most significant first. -/
def digitsOf (n : Nat) : List Char := Nat.toDigits 10 n

/-- The exponent of the power of ten just at or below a positive `x`. The digit
counts of numerator and denominator leave two candidates. -/
def floorLog10 (x : Rat) : Int :=
  let e : Int := ((digitsOf x.num.toNat).length : Int) - ((digitsOf x.den).length : Int)
  if scaled 1 10 e ≤ x then e else e - 1

/-- Of the neighbours `low` and `low + 1` of `x`, the nearer one. -/
def nearer (tie : TieRule) (low : Nat) (x : Rat) : Nat :=
  let twice := 2 * x
  let middle : Rat := ((2 * low + 1 : Nat) : Rat)
  if twice < middle then low
  else if middle < twice then low + 1
  else match tie with
    | .even => low + low % 2
    | .up => low + 1

/-- The multiple of `10 ^ e` that is written for `x` if one reads back. -/
def onGrid (reads : Rat → Bool) (tie : TieRule) (x : Rat) (e : Int) : Option Nat :=
  let steps := x * scaled 1 10 (-e)
  let low := steps.floor.toNat
  -- Numbers that round alike form an interval, so the points next to `x` speak for the grid.
  match reads (value ⟨low, e⟩), reads (value ⟨low + 1, e⟩) with
  | true, true => some (nearer tie low steps)
  | true, false => some low
  | false, true => some (low + 1)
  | false, false => none

/-- The search from the grid of step `10 ^ e` through `finer` finer ones. On the
last of them `x` itself lies. -/
def search (reads : Rat → Bool) (tie : TieRule) (x : Rat) : (finer : Nat) → (e : Int) → Decimal
  | 0, e => ⟨(x * scaled 1 10 (-e)).floor.toNat, e⟩
  | finer + 1, e =>
    match onGrid reads tie x e with
    | some digits => ⟨digits, e⟩
    | none => search reads tie x finer (e - 1)

/-- The decimal with the fewest digits that rounds to the magnitude. -/
def shortest (fmt : BinaryFormat) (tie : TieRule) (magnitude : Nat) : Decimal :=
  if fmt.significand magnitude = 0 then ⟨0, 0⟩
  else
    let x := fmt.magnitudeValue magnitude
    -- Next to `x`, a coarser grid has zero and a point that the first grid has, too; on the last
    -- grid `x` itself lies.
    let first := floorLog10 x
    search (fun y => fmt.roundMagnitude y == magnitude) tie x
      (first - min (fmt.lastPlace magnitude) 0).toNat first

end Decimal

end ClassifierBridge
