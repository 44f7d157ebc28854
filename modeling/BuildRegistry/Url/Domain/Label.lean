import BuildRegistry.Text.Compose
import BuildRegistry.Text.MarkTable
import BuildRegistry.Url.Domain.JoiningTable
import BuildRegistry.Url.Domain.Mapping
import BuildRegistry.Url.Punycode

/-
  Labels of domain names. A label with characters beyond ASCII is written as the prefix `xn--` and
  its Punycode, and a label that has the prefix already stands for what its Punycode says. Such a
  label does not begin with a mark, and joiners stand in it only where they show.
-/

namespace BuildRegistry.Domain

structure Label where
  text : List Char
  written : List Char
deriving DecidableEq, Repr

namespace Label

def isMark (c : Char) : Bool :=
  Text.MarkTable.nonspacing.contains c || Text.MarkTable.spacing.contains c

/-! Joiners -/

/-- The class of the marks that take a vowel away. -/
def viramas : Nat := 9

/-- Whether letters join through a character. -/
def isThrough (c : Char) : Bool :=
  Text.MarkTable.nonspacing.contains c || JoiningTable.through.contains c

/-- Whether letters before and after a place would join there. -/
def joinAt (before after : List Char) : Bool :=
  (before.dropWhile isThrough).head?.any JoiningTable.forward.contains
    && (after.dropWhile isThrough).head?.any JoiningTable.backward.contains

/-- Whether a joiner shows at a place; `before` has the nearest character first. -/
def joinerShows (c : Char) (before after : List Char) : Bool :=
  before.head?.any (Text.Compose.order · = viramas) || (c = nonJoiner && joinAt before after)

def joinersShow (before : List Char) : List Char → Bool
  | [] => true
  | c :: s => (!isJoiner c || joinerShows c before s) && joinersShow (c :: before) s

/-! Labels beyond ASCII -/

/-- The most characters of a label beyond ASCII, and of its Punycode. -/
def maxLength : Nat := 1000

def maxCodeLength : Nat := 2000

def isValid (s : List Char) : Bool :=
  !s.head?.any isMark && joinersShow [] s && s.length ≤ maxLength

/-- Whether a character of a label is written as it is. -/
def isSettled (c : Char) : Bool := mapped? c = some [c] && !isReserved c && c ≠ '.'

def acePrefix : List Char := ['x', 'n', '-', '-']

/-- What Punycode stands for, if it is what the label would be brought to. -/
def decoded? (code : List Char) : Option (List Char) := do
  if code.isEmpty || code.getLast? = some '-' || maxCodeLength < code.length then none
  else
    let s ← Punycode.decode? code
    if s.all isSettled && Text.Compose.normal s = s then some s else none

/-- The label of a text whose characters have been mapped. -/
def ofText? (s : List Char) : Option Label := do
  if acePrefix.isPrefixOf s then
    let text ← decoded? (s.drop acePrefix.length)
    if isValid text then some ⟨text, s⟩ else none
  else if s.all Punycode.isBasic then some ⟨s, s⟩
  else if isValid s then some ⟨s, acePrefix ++ Punycode.encode s⟩
  else none

end Label

end BuildRegistry.Domain
