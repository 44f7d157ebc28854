import BuildRegistry.Version.Order

/-
  Version requirements: up to 32 comparators with commas between them, all of which have to
  hold. A comparator has an operator (a caret if none is written) and a version whose minor and
  patch numbers may be absent or wildcards. A prerelease matches only if some comparator names a
  prerelease of the same three numbers. A wildcard alone accepts every release.
-/

namespace BuildRegistry

open Version

inductive Operator where
  | exact
  | greater
  | greaterEq
  | less
  | lessEq
  | tilde
  | caret
  | wildcard
deriving DecidableEq, Repr

structure Comparator where
  op : Operator
  major : Nat
  minor : Option Nat
  patch : Option Nat
  pre : List Identifier
deriving DecidableEq, Repr

abbrev Requirement := List Comparator

namespace Comparator

/-- Major, minor and patch numbers agree as far as the comparator has them. -/
def sameNumbers (c : Comparator) (v : Version) : Bool :=
  v.major = c.major && c.minor.all (v.minor = ·) && c.patch.all (v.patch = ·)

def isExact (c : Comparator) (v : Version) : Bool := c.sameNumbers v && v.pre = c.pre

/-- The version lies beyond everything the comparator names, in the direction of `side`. -/
def isBeyond (side : Ordering) (c : Comparator) (v : Version) : Bool :=
  if v.major ≠ c.major then compare v.major c.major = side
  else match c.minor with
    | none => false
    | some minor =>
      if v.minor ≠ minor then compare v.minor minor = side
      else match c.patch with
        | none => false
        | some patch =>
          if v.patch ≠ patch then compare v.patch patch = side
          else comparePre v.pre c.pre = side

def preAtLeast (c : Comparator) (v : Version) : Bool := comparePre v.pre c.pre ≠ .lt

def isTilde (c : Comparator) (v : Version) : Bool :=
  v.major = c.major && c.minor.all (v.minor = ·) &&
    match c.patch with
    | none => c.preAtLeast v
    | some patch => if v.patch ≠ patch then v.patch > patch else c.preAtLeast v

/-- The leftmost number that is not zero stays, and what follows it does not decrease. -/
def isCaret (c : Comparator) (v : Version) : Bool :=
  v.major = c.major &&
    match c.minor with
    | none => true
    | some minor =>
      match c.patch with
      | none => if c.major > 0 then v.minor ≥ minor else v.minor = minor
      | some patch =>
        if c.major > 0 then
          if v.minor ≠ minor then v.minor > minor
          else if v.patch ≠ patch then v.patch > patch
          else c.preAtLeast v
        else if minor > 0 then
          if v.minor ≠ minor then false
          else if v.patch ≠ patch then v.patch > patch
          else c.preAtLeast v
        else v.minor = minor && v.patch = patch && c.preAtLeast v

def holds (c : Comparator) (v : Version) : Bool :=
  match c.op with
  | .exact | .wildcard => c.isExact v
  | .greater => c.isBeyond .gt v
  | .greaterEq => c.isExact v || c.isBeyond .gt v
  | .less => c.isBeyond .lt v
  | .lessEq => c.isExact v || c.isBeyond .lt v
  | .tilde => c.isTilde v
  | .caret => c.isCaret v

/-- The comparator names a prerelease of the same three numbers. -/
def admitsPre (c : Comparator) (v : Version) : Bool :=
  c.major = v.major && c.minor = some v.minor && c.patch = some v.patch && !c.pre.isEmpty

end Comparator

namespace Requirement

def matchesVersion (r : Requirement) (v : Version) : Bool :=
  r.all (·.holds v) && (v.pre.isEmpty || r.any (·.admitsPre v))

def skipSpaces (s : List Char) : List Char := s.dropWhile (· = ' ')

/-- The operator at the front of a text, if one is written, and the rest. -/
def operator : List Char → Option Operator × List Char
  | '=' :: s => (some .exact, s)
  | '>' :: '=' :: s => (some .greaterEq, s)
  | '>' :: s => (some .greater, s)
  | '<' :: '=' :: s => (some .lessEq, s)
  | '<' :: s => (some .less, s)
  | '~' :: s => (some .tilde, s)
  | '^' :: s => (some .caret, s)
  | s => (none, s)

def isWildcard (c : Char) : Bool := c = '*' || c = 'x' || c = 'X'

/-- What stands for a minor or patch number. -/
inductive Place where
  | absent
  | any
  | number (n : Nat)

def Place.number? : Place → Option Nat
  | .number n => some n
  | _ => none

def Place.isAny : Place → Bool
  | .any => true
  | _ => false

def place : List Char → Option (Place × List Char)
  | '.' :: c :: s =>
    if isWildcard c then some (.any, s)
    else (Version.number? (c :: s)).map fun r => (.number r.1, r.2)
  | ['.'] => none
  | s => some (.absent, s)

/-- A comparator at the front of a text and the rest, without spaces before it. -/
def comparator? (s : List Char) : Option (Comparator × List Char) := do
  let (op, s) := operator s
  let (major, s) ← Version.number? (skipSpaces s)
  let (minor, s) ← place s
  let (patch, s) ← place s
  if minor.isAny && patch.number?.isSome then none
  else
    let full := patch.number?.isSome
    let (pre, s) ← if full then prerelease? s else some ([], s)
    let (_, s) ← if full then metadata? s else some ([], s)
    let unwritten := if minor.isAny || patch.isAny then Operator.wildcard else .caret
    return (⟨op.getD unwritten, major, minor.number?, patch.number?, pre⟩, skipSpaces s)

/-- At most `n` comparators with commas between them, up to the end of the text. -/
def comparators? : Nat → List Char → Option (List Comparator)
  | 0, _ => none
  | n + 1, s => do
    let (c, s) ← comparator? s
    match s with
    | [] => some [c]
    | ',' :: s => do return c :: (← comparators? n (skipSpaces s))
    | _ => none

def parse? (s : List Char) : Option Requirement :=
  match skipSpaces s with
  | [] => none
  | c :: rest =>
    if isWildcard c then if (skipSpaces rest).isEmpty then some [] else none
    else comparators? 32 (c :: rest)

def ofString? (s : String) : Option Requirement := parse? s.toList

end Requirement

end BuildRegistry
