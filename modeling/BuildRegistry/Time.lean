import BuildRegistry.Decimal.Digits

/-
  Points in time, in microseconds since the start of 1970, on the proleptic Gregorian calendar.
  `stored` is the text kept in tables, which also orders them; `rfc3339` is the text shown to
  clients. Both have as few fraction digits as are exact: none, three or six.
-/

namespace BuildRegistry

structure Time where
  micros : Int
deriving DecidableEq, Repr

namespace Time

open Decimal

/-- The first and last moments the calendar reaches: the years -262143 to 262142. -/
def first : Int := -8334601228800000000

def last : Int := 8210266876799999999

/-- The moment a count of microseconds stands for, if the calendar reaches it. -/
def ofMicros? (n : Int) : Option Time := if first ≤ n ∧ n ≤ last then some ⟨n⟩ else none

def seconds (t : Time) : Int := t.micros / 1000000

structure Date where
  year : Int
  month : Nat
  day : Nat

/-- The date of a day counted from the start of 1970. Years are taken to begin in March and are
grouped into eras of 400, which all have the same length. -/
def Date.ofDays (days : Int) : Date :=
  let z := days + 719468
  let era := z / 146097
  let dayOfEra := (z % 146097).toNat
  let yearOfEra := (dayOfEra - dayOfEra / 1460 + dayOfEra / 36524 - dayOfEra / 146096) / 365
  let dayOfYear := dayOfEra - (365 * yearOfEra + yearOfEra / 4 - yearOfEra / 100)
  let m := (5 * dayOfYear + 2) / 153
  let month := if m < 10 then m + 3 else m - 9
  let year := era * 400 + yearOfEra
  ⟨if month ≤ 2 then year + 1 else year, month, dayOfYear - (153 * m + 2) / 5 + 1⟩

/-- Four digits, with a sign for years outside 0 to 9999. -/
def yearText (y : Int) : List Char :=
  if 0 ≤ y ∧ y ≤ 9999 then padded 4 y.natAbs
  else (if y < 0 then '-' else '+') :: padded 4 y.natAbs

def Date.text (d : Date) : List Char :=
  yearText d.year ++ '-' :: padded 2 d.month ++ '-' :: padded 2 d.day

def clockText (secondOfDay : Nat) : List Char :=
  padded 2 (secondOfDay / 3600) ++ ':' :: padded 2 (secondOfDay / 60 % 60)
    ++ ':' :: padded 2 (secondOfDay % 60)

def fractionText (micros : Nat) : List Char :=
  if micros = 0 then []
  else if micros % 1000 = 0 then '.' :: padded 3 (micros / 1000)
  else '.' :: padded 6 micros

/-- Date and time of day with a separator between them. -/
def text (separator : Char) (t : Time) : List Char :=
  let s := t.seconds
  (Date.ofDays (s / 86400)).text ++ separator :: clockText (s % 86400).toNat
    ++ fractionText (t.micros % 1000000).toNat

def stored (t : Time) : String := String.ofList (t.text ' ')

def rfc3339 (t : Time) : String := String.ofList (t.text 'T' ++ ['Z'])

end Time

end BuildRegistry
