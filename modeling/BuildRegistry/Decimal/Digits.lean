/-
  Decimal digits and the integers they write: natural numbers without a sign, and the signed and
  unsigned readings of settings, cursors and query fields, which stay inside a given range.
-/

namespace BuildRegistry.Decimal

def isDigit (c : Char) : Bool := '0' ≤ c && c ≤ '9'

def digitValue (c : Char) : Nat := c.toNat - 48

/-- The number a list of digits writes, after the digits of `acc`. -/
def valueFrom (acc : Nat) (ds : List Char) : Nat :=
  ds.foldl (fun n c => 10 * n + digitValue c) acc

/-- The number that a non-empty list of digits writes. -/
def natural? (s : List Char) : Option Nat :=
  if s.isEmpty || !s.all isDigit then none else some (valueFrom 0 s)

/-- A natural number up to `max`, after at most one plus sign. -/
def unsigned? (max : Nat) (s : List Char) : Option Nat :=
  let digits := match s with
    | '+' :: rest => rest
    | _ => s
  (natural? digits).filter (· ≤ max)

/-- The least and greatest integers of 64 bits. -/
def minInt64 : Int := -9223372036854775808

def maxInt64 : Int := 9223372036854775807

def maxNat64 : Nat := 18446744073709551615

def maxNat32 : Nat := 4294967295

def isInt64 (n : Int) : Bool := minInt64 ≤ n && n ≤ maxInt64

/-- An integer of 64 bits, after at most one sign. -/
def int64? (s : List Char) : Option Int :=
  let n : Option Int := match s with
    | '+' :: rest => (natural? rest).map Int.ofNat
    | '-' :: rest => (natural? rest).map fun n => -Int.ofNat n
    | _ => (natural? s).map Int.ofNat
  n.filter isInt64

def natText (n : Nat) : List Char := Nat.toDigits 10 n

def intText (n : Int) : List Char :=
  if n < 0 then '-' :: natText n.natAbs else natText n.natAbs

/-- The digits of `n`, with zeros in front up to `width`. -/
def padded (width n : Nat) : List Char :=
  let ds := natText n
  List.replicate (width - ds.length) '0' ++ ds

end BuildRegistry.Decimal
