import BuildRegistry.Decimal.Digits
import BuildRegistry.Text.Fields
import BuildRegistry.Text.Percent

/-
  Query strings: fields `name=value` between ampersands. A name ends at a dot or an opening
  bracket. A plus sign is a space, and bytes may be percent-encoded. A field that occurs twice, or
  whose value cannot be read, counts as absent.
-/

namespace BuildRegistry.Query

/-- Decodes text that was percent-encoded byte by byte. -/
def unescaped (s : List Char) : String :=
  Bytes.toStringLossy (Text.Percent.decode (Bytes.ofString (String.ofList s)))

def fieldText (s : List Char) : String := unescaped (s.map fun c => if c = '+' then ' ' else c)

def opensPart (c : Char) : Bool := c = '.' || c = '['

/-- The first part of a name. -/
def firstPart : List Char → List Char
  | '.' :: s => s.takeWhile (!opensPart ·)
  | '[' :: s => s.takeWhile (· ≠ ']')
  | s => s.takeWhile (!opensPart ·)

/-- The ways to write a name that is one part. -/
def spellings (part : String) : List String :=
  [part, "." ++ part, "[" ++ part, "[" ++ part ++ "]"]

/-- The name of a field and its value, empty if there is no equals sign. -/
def field (s : List Char) : String × String :=
  match Text.cutAt '=' s with
  | some (name, value) => (fieldText name, fieldText value)
  | none => (fieldText s, "")

/-- The fields of a query string. -/
def parse (s : List Char) : List (String × String) :=
  ((Text.splitAt '&' s).filter (!·.isEmpty)).map fun f =>
    let (name, value) := field f
    (String.ofList (firstPart name.toList), value)

abbrev Fields := List (String × String)

/-- The value of a field that occurs once. -/
def text? (q : Fields) (name : String) : Option String :=
  match q.filter (·.1 = name) with
  | [(_, value)] => some value
  | _ => none

def int? (q : Fields) (name : String) : Option Int :=
  (text? q name).bind fun v => Decimal.int64? v.toList

/-- Whether a text says yes or no. -/
def flagOf (s : String) : Option Bool :=
  let lower := s.toList.map Char.toLower
  if [['o', 'n'], ['y', 'e', 's'], ['t', 'r', 'u', 'e'], []].contains lower then some true
  else if [['o', 'f', 'f'], ['n', 'o'], ['f', 'a', 'l', 's', 'e']].contains lower then some false
  else none

def flag? (q : Fields) (name : String) : Option Bool := (text? q name).bind flagOf

end BuildRegistry.Query
