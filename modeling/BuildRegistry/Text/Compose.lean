import BuildRegistry.Text.ComposeTable

/-
  Composed text. A character with marks on it can be written as one character or with its marks
  after it, and marks of different classes in any order. Here every spelling is taken apart, the
  marks are put in order, and whatever has a character of its own is joined again, so that equal
  texts become the same text.
-/

namespace BuildRegistry.Text.Compose

/-- The class of a mark, and zero for a character that marks can follow. -/
def order (c : Char) : Nat :=
  if c.toNat < 0x300 then 0
  else match ComposeTable.classes.find? (·.marks.contains c) with
    | some k => k.order
    | none => 0

/-! Pairs -/

/-- The first characters for consonants, vowels, closing consonants and syllables of Hangul, whose
syllables are in the order of their letters. The first closing consonant is none. -/
def consonants : Nat := 0x1100

def vowels : Nat := 0x1161

def closings : Nat := 0x11A7

def syllables : Nat := 0xAC00

def consonantCount : Nat := 19

def vowelCount : Nat := 21

def closingCount : Nat := 28

def syllableCount : Nat := consonantCount * vowelCount * closingCount

/-- The syllable of two letters, or that of an open syllable and a closing consonant. -/
def syllable? (a b : Nat) : Option Nat :=
  if consonants ≤ a ∧ a < consonants + consonantCount ∧ vowels ≤ b ∧ b < vowels + vowelCount then
    some (syllables + ((a - consonants) * vowelCount + (b - vowels)) * closingCount)
  else if syllables ≤ a ∧ a < syllables + syllableCount ∧ (a - syllables) % closingCount = 0 ∧
      closings < b ∧ b < closings + closingCount then
    some (a + (b - closings))
  else none

/-- The open syllable and the closing consonant of a syllable, or its two letters. -/
def letters? (n : Nat) : Option (Nat × Nat) :=
  if syllables ≤ n ∧ n < syllables + syllableCount then
    let i := n - syllables
    if i % closingCount = 0 then
      some (consonants + i / closingCount / vowelCount, vowels + i / closingCount % vowelCount)
    else some (n - i % closingCount, closings + i % closingCount)
  else none

/-- What a character and the one after it are together. -/
def join? (a b : Char) : Option Char :=
  if b.toNat < 0x300 then none
  else match syllable? a.toNat b.toNat with
    | some n => some (Char.ofNat n)
    | none => do
      let j ← ComposeTable.joins.find? (·.mark = b.toNat)
      return Char.ofNat (← j.pairs.lookup a.toNat)

/-- The pair of characters that a character is together. -/
def pair? (c : Char) : Option (Char × Char) :=
  if c.toNat < 0xC0 then none
  else match letters? c.toNat with
    | some (a, b) => some (Char.ofNat a, Char.ofNat b)
    | none => ComposeTable.joins.findSome? fun j =>
      (j.pairs.find? (·.2 = c.toNat)).map fun p => (Char.ofNat p.1, Char.ofNat j.mark)

/-! Texts -/

/-- The most marks that one character is together with its letter. -/
def depth : Nat := 3

/-- A character taken apart as far as it goes. -/
def parts : (fuel : Nat) → Char → List Char
  | 0, c => [c]
  | fuel + 1, c =>
    match pair? c with
    | some (a, b) => parts fuel a ++ [b]
    | none => [c]

/-- Puts a mark in front of marks that are in order, behind those of lower classes. -/
def place (c : Char) : List Char → List Char
  | [] => [c]
  | d :: s => if 0 < order d && order d < order c then d :: place c s else c :: d :: s

/-- The marks between any two other characters in the order of their classes. -/
def ordered (s : List Char) : List Char := s.foldr place []

/-- Joins a character with what follows. The marks that it was not joined with are `passed`, the
last one first; they keep marks of their own or lower classes from it. -/
def joinFrom (a : Char) (passed : List Char) : List Char → List Char
  | [] => a :: passed.reverse
  | b :: s =>
    let barred := passed.head?.any (order b ≤ order ·)
    match if barred then none else join? a b with
    | some c => joinFrom c passed s
    | none =>
      if order b = 0 then a :: passed.reverse ++ joinFrom b [] s
      else joinFrom a (b :: passed) s

/-- Joins all that can be joined. Marks at the front stand alone. -/
def joined : List Char → List Char
  | [] => []
  | c :: s => if order c = 0 then joinFrom c [] s else c :: joined s

/-- The composed spelling of a text. -/
def normal (s : List Char) : List Char := joined (ordered (s.flatMap (parts depth)))

end BuildRegistry.Text.Compose
