/-
  Sets of code points as ascending lists of the points where membership changes: a code point
  belongs to the set when an odd number of entries lie at or below it.
-/

namespace BuildRegistry.Text

structure CodeSet where
  changes : List Nat

namespace CodeSet

/-- Whether membership has changed an odd number of times up to `n`. -/
def holds (n : Nat) : Bool → List Nat → Bool
  | inside, [] => inside
  | inside, x :: xs => if n < x then inside else holds n (!inside) xs

def contains (s : CodeSet) (c : Char) : Bool := holds c.toNat false s.changes

end CodeSet

end BuildRegistry.Text
