import BuildRegistry.Text.Blank
import BuildRegistry.Text.Fields
import BuildRegistry.Text.Percent
import BuildRegistry.Url.Domain.Direction
import BuildRegistry.Url.Domain.Label

/-
  Domain names in URLs. A name is percent-decoded, its characters are mapped and composed, and
  its labels are written in ASCII. Names that could be taken for others are refused.
-/

namespace BuildRegistry.Domain

/-- The characters of a name as they are written, composed. -/
def spelled? (s : List Char) : Option (List Char) := do
  return Text.Compose.normal (← s.mapM mapped?).flatten

/-- Whether labels may stand side by side. -/
def agree (labels : List Label) : Bool :=
  !labels.any (·.text.any fun c => (Direction.ofChar c).turns)
    || labels.all fun l => Direction.isOrderly l.text

def ofText? (s : List Char) : Option (List Char) := do
  let name ← spelled? s
  if name.any isReserved then none
  else
    let labels ← (Text.splitAt '.' name).mapM Label.ofText?
    if agree labels then some (Text.joinWith '.' (labels.map Label.written)) else none

/-- The name that is written in a URL, if it is one. -/
def parse? (s : List Char) : Option (List Char) := do
  let decoded ← (Text.Percent.decode (Bytes.ofString (String.ofList s))).toString?
  ofText? decoded.toList

end BuildRegistry.Domain
