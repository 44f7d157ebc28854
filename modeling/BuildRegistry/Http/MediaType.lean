import BuildRegistry.Decimal.Digits
import BuildRegistry.Text.Lowercase

/-
  Media types as headers write them: two tokens with a slash between, then parameters behind
  semicolons, whose values are tokens or quoted. Types are told apart by their two tokens, whatever
  the case of the letters.
-/

namespace BuildRegistry.Http

structure MediaType where
  kind : String
  sub : String
  params : List (String × String)
deriving DecidableEq, Repr

namespace MediaType

def isTokenChar (c : Char) : Bool :=
  c.isAlphanum || ['!', '#', '$', '%', '&', '\'', '*', '+', '-', '.', '^', '_', '`', '\x7b', '|',
    '\x7d', '~'].contains c

/-- The white space that may stand between the parts of a header. -/
def isGap (c : Char) : Bool := c = ' ' || c = '\t'

def afterGap (s : List Char) : List Char := s.dropWhile isGap

/-- A token at the front of a text, and the rest. -/
def token? (s : List Char) : Option (String × List Char) :=
  let t := s.takeWhile isTokenChar
  if t.isEmpty then none else some (String.ofList t, s.dropWhile isTokenChar)

/-- The text up to the closing quote, and the rest. A backslash takes the character after it along
and stays itself. -/
def quoted? : List Char → Option (List Char × List Char)
  | [] => none
  | '"' :: s => some ([], s)
  | '\\' :: c :: s => (quoted? s).map fun r => ('\\' :: c :: r.1, r.2)
  | c :: s => (quoted? s).map fun r => (c :: r.1, r.2)

def value? : List Char → Option (String × List Char)
  | '"' :: s => (quoted? s).map fun r => (String.ofList r.1, r.2)
  | s => token? s

def param? (s : List Char) : Option ((String × String) × List Char) := do
  match ← token? s with
  | (name, '=' :: s) =>
    let (value, s) ← value? s
    return ((name, value), s)
  | _ => none

/-- Parameters at the front of a text, each of which takes some of `fuel`, and the rest. -/
def params? : (fuel : Nat) → List Char → Option (List (String × String) × List Char)
  | fuel + 1, ';' :: s => do
    let (p, s) ← param? (afterGap s)
    let (ps, s) ← params? fuel (afterGap s)
    return (p :: ps, s)
  | _, s => some ([], s)

/-- A media type at the front of a text, and the rest. -/
def front? (s : List Char) : Option (MediaType × List Char) := do
  match ← token? s with
  | (kind, '/' :: s) =>
    let (sub, s) ← token? s
    let (ps, s) ← params? s.length s
    return (⟨kind, sub, ps⟩, s)
  | _ => none

/-- The media type that is all of a text. -/
def ofText? (s : String) : Option MediaType :=
  match front? s.toList with
  | some (m, []) => some m
  | _ => none

/-- Whether these are the two tokens of a type. -/
def isOf (kind sub : String) (m : MediaType) : Bool :=
  Text.asciiLowercase m.kind = kind && Text.asciiLowercase m.sub = sub

def isJson (m : MediaType) : Bool := m.isOf "application" "json"

def isForm (m : MediaType) : Bool := m.isOf "application" "x-www-form-urlencoded"

/-- How many of the two tokens are no star, which stands for any. -/
def specificity (m : MediaType) : Nat := ([m.kind, m.sub].filter (· ≠ "*")).length

end MediaType

end BuildRegistry.Http
