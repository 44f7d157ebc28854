import BuildRegistry.Bytes
import BuildRegistry.Decimal.Double
import BuildRegistry.Http.MediaType

/-
  What a client would rather have: media types between commas, each with a weight from 0 to 1 if
  its first parameter is named `q`. The one that is preferred has no weight, or the greater one,
  or says more.
-/

namespace BuildRegistry.Http

/-- A share of one, in steps of the precision that weights are kept in; or the value that is
neither above nor below any share. -/
inductive Weight where
  | share (steps : Nat)
  | undefined
deriving DecidableEq, Repr

namespace Weight

/-- One has two to the power of this many steps. -/
def precision : Nat := 149

def zero : Weight := .share 0

def one : Weight := .share (Decimal.Double.twoTo precision)

def above : Weight → Weight → Bool
  | .share m, .share n => n < m
  | _, _ => false

/-- The number `m · 10 ^ e` that a text writes without a sign. There are digits before the point or
after it. -/
def decimal? (s : List Char) : Option (Nat × Int) := do
  let whole := s.takeWhile Decimal.isDigit
  let (part, s) := match s.dropWhile Decimal.isDigit with
    | '.' :: t => (t.takeWhile Decimal.isDigit, t.dropWhile Decimal.isDigit)
    | t => ([], t)
  let m ← Decimal.natural? (whole ++ part)
  match s with
  | [] => some (m, -Int.ofNat part.length)
  | c :: t =>
    if c.toLower = 'e' then some (m, (← Decimal.int64? t) - Int.ofNat part.length) else none

/-- The steps of `m · 10 ^ e`, to the nearest. -/
def steps (m : Nat) (e : Int) : Nat :=
  let num := m * Decimal.Double.tenTo e.toNat * Decimal.Double.twoTo precision
  Decimal.Double.roundedQuotient num (Decimal.Double.tenTo (-e).toNat)

/-- The weight that a text writes, none if that is below zero or above one. -/
def ofText? (s : List Char) : Option Weight := do
  let (negative, s) := match s with
    | '-' :: t => (true, t)
    | '+' :: t => (false, t)
    | t => (false, t)
  if s.map Char.toLower = ['n', 'a', 'n'] then some .undefined
  else
    let (m, e) ← decimal? s
    let w := Weight.share (steps m e)
    if w.above .one || (negative && w ≠ .zero) then none else some w

end Weight

/-- A media type and its weight. -/
structure Choice where
  type : MediaType
  weight : Option Weight
deriving DecidableEq, Repr

namespace Choice

/-- The most bytes that a weight has; longer values are none. -/
def maxWeightLength : Nat := 5

/-- A media type with the weight that its parameters say; none if that is no weight. -/
def ofType? (m : MediaType) : Option Choice :=
  match m.params with
  | ("q", value) :: _ =>
    if maxWeightLength < Bytes.lengthOf value.toList then some ⟨m, none⟩
    else (Weight.ofText? value.toList).map fun w => ⟨m, some w⟩
  | _ => some ⟨m, none⟩

/-- The choices of a text, each of which takes some of `fuel`. -/
def listFrom? : (fuel : Nat) → List Char → Option (List Choice)
  | 0, _ => none
  | fuel + 1, s => do
    let (m, s) ← MediaType.front? (MediaType.afterGap s)
    let c ← ofType? m
    match MediaType.afterGap s with
    | [] => some [c]
    | ',' :: s => return c :: (← listFrom? fuel s)
    | _ => none

def list? (s : String) : Option (List Choice) := listFrom? (s.length + 1) s.toList

/-- Whether a choice is preferred to one before it. -/
def isOver (c best : Choice) : Bool :=
  (c.weight.isNone && best.weight.isSome)
    || (c.weight.getD .zero).above (best.weight.getD .one)
    || best.type.specificity < c.type.specificity

def preferred? : List Choice → Option Choice
  | [] => none
  | c :: cs => some (cs.foldl (fun best c => if c.isOver best then c else best) c)

end Choice

end BuildRegistry.Http
