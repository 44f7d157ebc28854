import BuildRegistry.Bytes.Hex
import BuildRegistry.Decimal.Digits
import BuildRegistry.Text.Blank
import BuildRegistry.Text.Fields

/-
  What may name a package, a contract, an address and a chain.
-/

namespace BuildRegistry.Naming

def isSmallLetter (c : Char) : Bool := 'a' ≤ c && c ≤ 'z'

def isSmallAlphanumeric (c : Char) : Bool := isSmallLetter c || Decimal.isDigit c

def isNameChar (c : Char) : Bool := isSmallAlphanumeric c || c = '-'

/-- Two to 64 small letters, digits and hyphens, the first a letter, the last no hyphen, and no
two hyphens next to each other. -/
def isPackageNameChars (s : List Char) : Bool :=
  2 ≤ s.length && s.length ≤ 64 && s.all isNameChar && s.head?.any isSmallLetter
    && s.getLast?.any isSmallAlphanumeric && !Text.occursIn ['-', '-'] s

def isPackageName (s : String) : Bool := isPackageNameChars s.toList

/-- Forty hexadecimal digits after `0x`. -/
def isAddress (s : String) : Bool :=
  match s.toList with
  | '0' :: 'x' :: ds => ds.length = 40 && ds.all Hex.isDigit
  | _ => false

def isChainId (n : Int) : Bool := 0 < n

/-- A contract's name is also a directory of an archive: it is not empty and has no slash,
backslash or two dots in a row. -/
def isContractName (s : String) : Bool :=
  !s.toList.isEmpty && !s.toList.contains '/' && !s.toList.contains '\\'
    && !Text.occursIn ['.', '.'] s.toList

end BuildRegistry.Naming
