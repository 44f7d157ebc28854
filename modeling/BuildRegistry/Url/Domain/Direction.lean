import BuildRegistry.Text.MarkTable
import BuildRegistry.Url.Domain.DirectionTable

/-
  The direction of writing in domain names. A name with text from right to left has to read alike
  in both directions: each of its labels begins with a letter, keeps to the direction of that
  letter, and ends in a letter or a digit.
-/

namespace BuildRegistry.Domain

/-- How a character runs. Neutral characters and marks go with their neighbours. -/
inductive Direction where
  | leftToRight
  | rightToLeft
  | europeanDigit
  | arabicDigit
  | neutral
  | mark
deriving DecidableEq, Repr

namespace Direction

open DirectionTable

def ofChar (c : Char) : Direction :=
  if DirectionTable.rightToLeft.contains c then .rightToLeft
  else if arabicDigits.contains c then .arabicDigit
  else if europeanDigits.contains c then .europeanDigit
  else if Text.MarkTable.nonspacing.contains c && !leftToRightMarks.contains c then .mark
  else if DirectionTable.neutral.contains c then .neutral
  else .leftToRight

/-- Whether text of this direction makes a name one that runs from right to left in part. -/
def turns (d : Direction) : Bool := d = .rightToLeft || d = .arabicDigit

def isDigit (d : Direction) : Bool := d = .europeanDigit || d = .arabicDigit

/-- Whether directions after a letter from left to right keep to it. -/
def keepLeft (ds : List Direction) : Bool :=
  ds.getLast?.all (fun d => d = .leftToRight || d = .europeanDigit) && !ds.any turns

/-- Whether directions after a letter from right to left keep to it. Digits are of one kind. -/
def keepRight (ds : List Direction) : Bool :=
  ds.getLast?.all (fun d => d = .rightToLeft || d.isDigit) && !ds.contains .leftToRight
    && !(ds.contains .europeanDigit && ds.contains .arabicDigit)

/-- Whether a label may stand in a name with text from right to left. -/
def isOrderly (label : List Char) : Bool :=
  match label.map ofChar with
  | [] => true
  | first :: ds =>
    let ds := (ds.reverse.dropWhile (· = .mark)).reverse
    match first with
    | .leftToRight => keepLeft ds
    | .rightToLeft => keepRight ds
    | _ => false

end Direction

end BuildRegistry.Domain
