import BuildRegistry.Bytes.Hex
import BuildRegistry.Json
import BuildRegistry.Json.Number

/-
  Documents as text. `text` is compact; `prettyText` puts every item on a line of its own,
  indented by two spaces for each level, and leaves empty arrays and objects closed. In strings
  the quote, the backslash and the controls below U+0020 are escaped and nothing else.
-/

namespace BuildRegistry.Json

open Decimal

/-- The two lower-case hexadecimal digits of a control character. -/
def controlDigits (c : Char) : List Char := [Hex.digit (c.toNat / 16), Hex.digit (c.toNat % 16)]

def charText (c : Char) : List Char :=
  if c = '"' then ['\\', '"']
  else if c = '\\' then ['\\', '\\']
  else if c = '\x08' then ['\\', 'b']
  else if c = '\x0c' then ['\\', 'f']
  else if c = '\n' then ['\\', 'n']
  else if c = '\r' then ['\\', 'r']
  else if c = '\t' then ['\\', 't']
  else if c.toNat < 0x20 then ['\\', 'u', '0', '0'] ++ controlDigits c
  else [c]

def stringText (s : String) : List Char := '"' :: s.toList.flatMap charText ++ ['"']

/-- The texts with commas between them. -/
def commaJoined : List (List Char) → List Char
  | [] => []
  | [t] => t
  | t :: ts => t ++ ',' :: commaJoined ts

mutual

def text : Json → List Char
  | null => ['n', 'u', 'l', 'l']
  | bool b => if b then ['t', 'r', 'u', 'e'] else ['f', 'a', 'l', 's', 'e']
  | int n => intText n
  | double x => doubleText x
  | str s => stringText s
  | arr items => '[' :: commaJoined (itemTexts items) ++ [']']
  | obj fields => '\x7b' :: commaJoined (fieldTexts fields) ++ ['\x7d']

def itemTexts : List Json → List (List Char)
  | [] => []
  | v :: vs => text v :: itemTexts vs

def fieldTexts : List (String × Json) → List (List Char)
  | [] => []
  | (k, v) :: rest => (stringText k ++ ':' :: text v) :: fieldTexts rest

end

def toText (j : Json) : String := String.ofList (text j)

def newLine (level : Nat) : List Char := '\n' :: List.replicate (2 * level) ' '

/-- Items on lines of their own, one level deeper than the brackets around them. -/
def block (level : Nat) (opening closing : Char) (items : List (List Char)) : List Char :=
  if items.isEmpty then [opening, closing]
  else
    opening :: commaJoined (items.map (newLine (level + 1) ++ ·)) ++ newLine level ++ [closing]

mutual

def prettyAt (level : Nat) : Json → List Char
  | null => text null
  | bool b => text (bool b)
  | int n => text (int n)
  | double x => text (double x)
  | str s => text (str s)
  | arr items => block level '[' ']' (prettyItems (level + 1) items)
  | obj fields => block level '\x7b' '\x7d' (prettyFields (level + 1) fields)

def prettyItems (level : Nat) : List Json → List (List Char)
  | [] => []
  | v :: vs => prettyAt level v :: prettyItems level vs

def prettyFields (level : Nat) : List (String × Json) → List (List Char)
  | [] => []
  | (k, v) :: rest => (stringText k ++ ':' :: ' ' :: prettyAt level v) :: prettyFields level rest

end

def prettyText (j : Json) : String := String.ofList (prettyAt 0 j)

end BuildRegistry.Json
