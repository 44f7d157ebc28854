/-
  Bytes as lists, and their passage to and from text: the UTF-8 form of a string, the strict
  reading of bytes as text, and the lenient one that puts U+FFFD where a sequence breaks off.
-/

namespace BuildRegistry

abbrev Bytes := List UInt8

namespace Bytes

/-- The UTF-8 form of a text. -/
def ofString (s : String) : Bytes := s.toUTF8.data.toList

/-- The text whose UTF-8 form these bytes are, if there is one. -/
def toString? (b : Bytes) : Option String := String.fromUTF8? ⟨b.toArray⟩

/-- The number of bytes in the UTF-8 form of characters. -/
def lengthOf (s : List Char) : Nat := s.foldl (fun n c => n + c.utf8Size) 0

/-- The replacement character, written for bytes that belong to no character. -/
def replacement : Char := '\uFFFD'

/-- A character begun but not complete: its bits so far, the number of bytes owed, and the
range of the next one. -/
structure Partial where
  bits : Nat
  owed : Nat
  low : UInt8
  high : UInt8

/-- What a byte that starts a character leads to: text already settled, and what it begins. -/
def start (b : UInt8) : List Char × Option Partial :=
  let n := b.toNat
  if n < 0x80 then ([Char.ofNat n], none)
  else if 0xC2 ≤ n ∧ n ≤ 0xDF then ([], some ⟨n % 0x20, 1, 0x80, 0xBF⟩)
  else if n = 0xE0 then ([], some ⟨0, 2, 0xA0, 0xBF⟩)
  else if n = 0xED then ([], some ⟨0xD, 2, 0x80, 0x9F⟩)
  else if 0xE1 ≤ n ∧ n ≤ 0xEF then ([], some ⟨n % 0x10, 2, 0x80, 0xBF⟩)
  else if n = 0xF0 then ([], some ⟨0, 3, 0x90, 0xBF⟩)
  else if n = 0xF4 then ([], some ⟨4, 3, 0x80, 0x8F⟩)
  else if 0xF1 ≤ n ∧ n ≤ 0xF3 then ([], some ⟨n % 8, 3, 0x80, 0xBF⟩)
  else ([replacement], none)

/-- The lenient reading, from inside a character or between two. -/
def charsFrom : Option Partial → Bytes → List Char
  | none, [] => []
  | some _, [] => [replacement]
  | none, b :: rest =>
    let (done, next) := start b
    done ++ charsFrom next rest
  | some p, b :: rest =>
    if p.low ≤ b ∧ b ≤ p.high then
      let bits := p.bits * 0x40 + b.toNat % 0x40
      if p.owed = 1 then Char.ofNat bits :: charsFrom none rest
      else charsFrom (some ⟨bits, p.owed - 1, 0x80, 0xBF⟩) rest
    else
      let (done, next) := start b
      replacement :: done ++ charsFrom next rest

/-- Reads bytes as text, with one U+FFFD for each longest run that begins a character and
breaks off, and for each byte that begins none. -/
def toStringLossy (b : Bytes) : String := String.ofList (charsFrom none b)

end Bytes

end BuildRegistry
