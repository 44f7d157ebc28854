/-
  Finite binary floating-point numbers of 64 bits, kept as a sign and the other 63 bits, so that
  equality is decidable and every operation is exact arithmetic on natural numbers followed by
  one rounding to the nearest, ties to even.
-/

namespace BuildRegistry.Decimal

structure Double where
  negative : Bool
  magnitude : Nat
deriving DecidableEq, Repr

namespace Double

/-- The first magnitude that is not finite. -/
def infinity : Nat := 0x7FF0000000000000

def twoTo (k : Nat) : Nat := Nat.pow 2 k

def tenTo (k : Nat) : Nat := Nat.pow 10 k

/-- The number `m · 2 ^ q` that a magnitude stands for. -/
def decode (magnitude : Nat) : Nat × Int :=
  let e : Nat := magnitude / twoTo 52
  let f : Nat := magnitude % twoTo 52
  if e = 0 then (f, -1074) else (twoTo 52 + f, Int.ofNat e - 1075)

/-- A power of two as a fraction. -/
def fraction (m : Nat) (q : Int) : Nat × Nat := (m * twoTo q.toNat, twoTo (-q).toNat)

/-- The quotient to the nearest integer, ties to even. -/
def roundedQuotient (num den : Nat) : Nat :=
  let n := num / den
  let twice := 2 * (num % den)
  if twice > den || (twice = den && n % 2 = 1) then n + 1 else n

/-- The largest power of two at or below the positive fraction `num / den`. -/
def exponentOf (num den : Nat) : Int :=
  let e : Int := (num.log2 : Int) - den.log2
  let (a, b) := fraction den e
  if num * b < a then e - 1 else e

/-- The magnitude nearest to `num / den`; at or above `infinity` if there is no finite one. -/
def nearest (num den : Nat) : Nat :=
  if num = 0 then 0
  else
    let q := max (exponentOf num den - 52) (-1074)
    let n := roundedQuotient (num * twoTo (-q).toNat) (den * twoTo q.toNat)
    (q + 1074).toNat * twoTo 52 + n

def ofNat (n : Nat) : Nat := nearest n 1

def mul (x y : Nat) : Nat :=
  let (m, q) := decode x
  let (n, p) := decode y
  let (num, den) := fraction (m * n) (q + p)
  nearest num den

/-- The quotient by a positive number. -/
def div (x y : Nat) : Nat :=
  let (m, q) := decode x
  let (n, p) := decode y
  let (num, den) := fraction m (q - p)
  nearest num (den * n)

def powerOfTen (k : Nat) : Nat := ofNat (tenTo k)

/-- Scales a magnitude by a power of ten in steps that have a finite power each. Below the last
step nothing is left of a 64-bit significand. -/
def scale : Nat → Nat → Int → Option Nat
  | 0, _, _ => some 0
  | steps + 1, x, e =>
    if e.natAbs ≤ 308 then
      if 0 ≤ e then
        let y := mul x (powerOfTen e.natAbs)
        if y < infinity then some y else none
      else some (div x (powerOfTen e.natAbs))
    else if x = 0 then some 0
    else if 0 ≤ e then none
    else scale steps (div x (powerOfTen 308)) (e + 308)

/-- The magnitude read from `significand · 10 ^ exponent`, where the significand and the power
are each rounded before they are combined. There is none beyond the finite range. -/
def ofDecimal (significand : Nat) (exponent : Int) : Option Nat :=
  scale 4 (ofNat significand) exponent

end Double

end BuildRegistry.Decimal
