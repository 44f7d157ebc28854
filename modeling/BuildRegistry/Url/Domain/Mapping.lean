import BuildRegistry.Text.Fields
import BuildRegistry.Text.Lowercase
import BuildRegistry.Text.UnseenTable
import BuildRegistry.Url.Domain.MappingTable

/-
  Characters of domain names. Most are written in lower case; some have other spellings that
  stand for the same name, some leave no trace, and some may not stand in a name at all.
-/

namespace BuildRegistry.Domain

open MappingTable (Row)

/-- How a row says that a code point is written. -/
def wordAt? (r : Row) (n : Nat) : Option (List Char) :=
  (Text.splitAt ' ' r.words.toList)[n - r.first]?

/-- The spelling of a character whose spelling the rows say. -/
def respelled? (c : Char) : Option (List Char) := do
  let row ← (MappingTable.rows.takeWhile (·.first ≤ c.toNat)).getLast?
  wordAt? row c.toNat

/-- The characters that keep letters apart and join them. -/
def nonJoiner : Char := '\u200C'

def joiner : Char := '\u200D'

def isJoiner (c : Char) : Bool := c = nonJoiner || c = joiner

/-- Whether a character beyond ASCII may not stand in a name. -/
def isRefused (c : Char) : Bool :=
  MappingTable.refused.contains c || (Text.UnseenTable.unseen.contains c && !isJoiner c)

/-- A character as it is written in a name; none if it may not stand there. -/
def mapped? (c : Char) : Option (List Char) :=
  if c.toNat < 0x80 then some [c.toLower]
  else if MappingTable.ignored.contains c then some []
  else match respelled? c with
    | some s => some s
    | none =>
      if isRefused c then none
      else if MappingTable.kept.contains c then some [c]
      else some (Text.lowerChar c)

/-- Whether an ASCII character has a meaning of its own in URLs or cannot be seen. -/
def isReserved (c : Char) : Bool :=
  c.toNat ≤ 0x20 || c.toNat = 0x7F
    || ['%', '#', '/', ':', '<', '>', '?', '@', '[', '\\', ']', '^', '|'].contains c

end BuildRegistry.Domain
