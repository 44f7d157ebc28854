import BuildRegistry.Decimal.Shortest

/-
  The text of doubles in documents: as few digits as read back; positional from 0.00001 up to
  sixteen places before the point, with at least one digit after it; otherwise one digit before
  the point and an exponent with its sign.
-/

namespace BuildRegistry.Json

open Decimal

/-- Which powers of ten are written positionally: how many zeros may follow the point before the
first digit, and how many places may stand before it. -/
structure Layout where
  zerosAfterPoint : Int
  placesBeforePoint : Int

def layout : Layout := ⟨4, 16⟩

def zeros (n : Int) : List Char := List.replicate n.toNat '0'

/-- Lays out digits whose last one has the weight `10 ^ k`. -/
def layOut (l : Layout) (ds : List Char) (k : Int) : List Char :=
  let point := (ds.length : Int) + k
  if 0 ≤ k ∧ point ≤ l.placesBeforePoint then ds ++ zeros k ++ ['.', '0']
  else if 0 < point ∧ point ≤ l.placesBeforePoint then
    ds.take point.toNat ++ '.' :: ds.drop point.toNat
  else if -l.zerosAfterPoint ≤ point ∧ point ≤ 0 then '0' :: '.' :: zeros (-point) ++ ds
  else
    let e := point - 1
    let more := if ds.length = 1 then [] else '.' :: ds.drop 1
    ds.take 1 ++ more ++ 'e' :: (if e < 0 then '-' else '+') :: natText e.natAbs

def doubleText (x : Double) : List Char :=
  let sign := if x.negative then ['-'] else []
  if x.magnitude = 0 then sign ++ ['0', '.', '0']
  else
    let (ds, k) := Shortest.digitText x.magnitude
    sign ++ layOut layout ds k

end BuildRegistry.Json
