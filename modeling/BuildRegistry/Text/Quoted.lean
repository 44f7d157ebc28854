import BuildRegistry.Text.MarkTable
import BuildRegistry.Text.UnseenTable

/-
  Quoted texts for messages: between double quotes, with quotes and backslashes escaped, the
  usual controls by letter, and every other character that would not show, or not by itself, by
  its number.
-/

namespace BuildRegistry.Text

/-- The number of a code point in lower-case hexadecimal, between braces. -/
def codeText (c : Char) : List Char :=
  ['\\', 'u', '\x7b'] ++ Nat.toDigits 16 c.toNat ++ ['\x7d']

/-- Whether a character shows, and does so by itself. -/
def isPlain (c : Char) : Bool :=
  !UnseenTable.unseen.contains c && !MarkTable.nonspacing.contains c
    && !MarkTable.inseparable.contains c

def quotedChar (c : Char) : List Char :=
  if c = '\x00' then ['\\', '0']
  else if c = '\t' then ['\\', 't']
  else if c = '\r' then ['\\', 'r']
  else if c = '\n' then ['\\', 'n']
  else if c = '"' then ['\\', '"']
  else if c = '\\' then ['\\', '\\']
  else if isPlain c then [c]
  else codeText c

def quoted (s : String) : String :=
  String.ofList ('"' :: s.toList.flatMap quotedChar ++ ['"'])

end BuildRegistry.Text
