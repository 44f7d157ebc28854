import BuildRegistry.Decimal.Digits
import BuildRegistry.Text.Fields

/-
  Semantic versions: three numbers of 64 bits without superfluous zeros, then optionally a
  hyphen and prerelease identifiers, then optionally a plus sign and build identifiers.
  Identifiers are not empty and consist of ASCII letters, digits and hyphens; numeric prerelease
  identifiers have no superfluous zeros either. Printing undoes parsing.
-/

namespace BuildRegistry

open Decimal

abbrev Identifier := List Char

structure Version where
  major : Nat
  minor : Nat
  patch : Nat
  pre : List Identifier
  build : List Identifier
deriving DecidableEq, Repr

namespace Version

def isAsciiLetter (c : Char) : Bool := ('a' ≤ c && c ≤ 'z') || ('A' ≤ c && c ≤ 'Z')

def isIdentifierChar (c : Char) : Bool := isAsciiLetter c || isDigit c || c = '-'

def isNumeric (i : Identifier) : Bool := i.all isDigit

/-- More than one digit, the first of them zero. -/
def hasLeadingZero (ds : List Char) : Bool := ds.length > 1 && ds.head? = some '0'

/-- A number at the front of a text, and the rest. -/
def number? (s : List Char) : Option (Nat × List Char) :=
  let ds := s.takeWhile isDigit
  if ds.isEmpty || hasLeadingZero ds || maxNat64 < valueFrom 0 ds then none
  else some (valueFrom 0 ds, s.dropWhile isDigit)

def dot? : List Char → Option (List Char)
  | '.' :: s => some s
  | _ => none

/-- Dotted identifiers at the front of a text, each accepted by `valid`, and the rest. -/
def identifiers? (valid : Identifier → Bool) (s : List Char) :
    Option (List Identifier × List Char) :=
  let inside (c : Char) := isIdentifierChar c || c = '.'
  let ids := Text.splitAt '.' (s.takeWhile inside)
  if ids.all fun i => !i.isEmpty && valid i then some (ids, s.dropWhile inside) else none

def isPreIdentifier (i : Identifier) : Bool := !(isNumeric i && hasLeadingZero i)

/-- The prerelease at the front of a text, if a hyphen announces one. -/
def prerelease? : List Char → Option (List Identifier × List Char)
  | '-' :: s => identifiers? isPreIdentifier s
  | s => some ([], s)

/-- The build metadata at the front of a text, if a plus sign announces it. -/
def metadata? : List Char → Option (List Identifier × List Char)
  | '+' :: s => identifiers? (fun _ => true) s
  | s => some ([], s)

/-- Reads a whole text as a version. -/
def parse? (s : List Char) : Option Version := do
  let (major, s) ← number? s
  let s ← dot? s
  let (minor, s) ← number? s
  let s ← dot? s
  let (patch, s) ← number? s
  let (pre, s) ← prerelease? s
  let (build, s) ← metadata? s
  if s.isEmpty then some ⟨major, minor, patch, pre, build⟩ else none

def ofString? (s : String) : Option Version := parse? s.toList

def part (mark : Char) (ids : List Identifier) : List Char :=
  if ids.isEmpty then [] else mark :: Text.joinWith '.' ids

def print (v : Version) : List Char :=
  natText v.major ++ '.' :: natText v.minor ++ '.' :: natText v.patch ++ part '-' v.pre
    ++ part '+' v.build

def text (v : Version) : String := String.ofList v.print

def isPrerelease (v : Version) : Bool := !v.pre.isEmpty

end Version

end BuildRegistry
