import BuildRegistry.Text.CaseTable

/-
  Lower case. `lowercase` follows the full Unicode mapping, in which a capital sigma that ends a
  word becomes `ς` and dotted capital I becomes two characters; `asciiLowercase` moves the 26
  capitals only.
-/

namespace BuildRegistry.Text

def capitalSigma : Char := 'Σ'

/-- Whether the nearest character that is not passed over is a letter with case. -/
def nextIsCased (s : List Char) : Bool :=
  match s.dropWhile CaseTable.ignorable.contains with
  | [] => false
  | c :: _ => CaseTable.cased.contains c

/-- A sigma ends a word when a cased letter comes before it and none after it. -/
def endsWord (before after : List Char) : Bool := nextIsCased before && !nextIsCased after

/-- The mapping of a character that does not depend on its neighbours. -/
def lowerChar (c : Char) : List Char :=
  if c.toNat < 0x80 then [c.toLower]
  else if c = 'İ' then ['i', '\u0307']
  else match CaseTable.runs.find? (·.contains c.toNat) with
    | some r => [Char.ofNat (c.toNat + r.shift).toNat]
    | none => [c]

/-- Lower-cases `s`; `before` is what precedes it, nearest character first. -/
def lowerFrom (before : List Char) : List Char → List Char
  | [] => []
  | c :: rest =>
    (if c = capitalSigma then [if endsWord before rest then 'ς' else 'σ'] else lowerChar c)
      ++ lowerFrom (c :: before) rest

def lowercase (s : String) : String := String.ofList (lowerFrom [] s.toList)

def asciiLowercase (s : String) : String := String.ofList (s.toList.map Char.toLower)

end BuildRegistry.Text
