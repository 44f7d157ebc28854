import BuildRegistry.Decimal.Digits
import BuildRegistry.Decimal.Double

/-
  The shortest decimal that reads back as a given double: of the decimals with the fewest digits
  inside the interval that rounds to it, the one nearest to its exact value, and of two equally
  near the one with an even last digit.
-/

namespace BuildRegistry.Decimal.Shortest

open Double (twoTo tenTo)

/-- A positive fraction. -/
structure Fraction where
  num : Nat
  den : Nat

def le (x y : Fraction) : Bool := x.num * y.den ≤ y.num * x.den

def lt (x y : Fraction) : Bool := x.num * y.den < y.num * x.den

def ofBinary (m : Nat) (q : Int) : Fraction :=
  let (num, den) := Double.fraction m q
  ⟨num, den⟩

def ofDecimal (n : Nat) (k : Int) : Fraction := ⟨n * tenTo k.toNat, tenTo (-k).toNat⟩

/-- The exponent of the leading decimal digit. -/
def leadingExponent (x : Fraction) : Int :=
  if x.den ≤ x.num then (natText (x.num / x.den)).length - 1
  else
    let n := (natText (x.den / x.num)).length
    if x.num * tenTo (n - 1) = x.den then -(n - 1 : Int) else -(n : Int)

/-- The numbers that round to a magnitude, and whether the ends belong to them. -/
structure Interval where
  low : Fraction
  high : Fraction
  closed : Bool

def intervalOf (magnitude : Nat) : Interval :=
  let (m, q) := Double.decode magnitude
  let high := ofBinary (2 * m + 1) (q - 1)
  let closed := m % 2 = 0
  if m = twoTo 52 ∧ q > -1074 then ⟨ofBinary (4 * m - 1) (q - 2), high, closed⟩
  else ⟨ofBinary (2 * m - 1) (q - 1), high, closed⟩

def Interval.contains (i : Interval) (x : Fraction) : Bool :=
  if i.closed then le i.low x && le x i.high else lt i.low x && lt x i.high

/-- The better of the two neighbours of `x` on the grid `10 ^ k`, if one is in the interval. -/
def onGrid (i : Interval) (x : Fraction) (k : Int) : Option Nat :=
  let num := x.num * tenTo (-k).toNat
  let den := x.den * tenTo k.toNat
  let n := num / den
  match i.contains (ofDecimal n k), i.contains (ofDecimal (n + 1) k) with
  | true, true => some (Double.roundedQuotient num den)
  | true, false => some n
  | false, true => some (n + 1)
  | false, false => none

/-- Tries finer grids until one has a point in the interval. -/
def search (i : Interval) (x : Fraction) : Nat → Int → Nat × Int
  | 0, k => (x.num * tenTo (-k).toNat / (x.den * tenTo k.toNat), k)
  | n + 1, k =>
    match onGrid i x k with
    | some d => (d, k)
    | none => search i x n (k - 1)

/-- Digits and exponent of the shortest decimal for a positive magnitude. Seventeen digits
always suffice. -/
def digits (magnitude : Nat) : Nat × Int :=
  let (m, q) := Double.decode magnitude
  let x := ofBinary m q
  search (intervalOf magnitude) x 17 (leadingExponent x)

/-- Digits without zeros at the end, and the exponent that goes with them. -/
def trimmed : Nat → Nat × Int → Nat × Int
  | 0, d => d
  | n + 1, (d, k) => if d ≠ 0 ∧ d % 10 = 0 then trimmed n (d / 10, k + 1) else (d, k)

/-- The digits as text, without zeros at the end, and the exponent of the last of them. -/
def digitText (magnitude : Nat) : List Char × Int :=
  let (d, k) := trimmed 20 (digits magnitude)
  (natText d, k)

end BuildRegistry.Decimal.Shortest
