import BuildRegistry.Bytes

/-
  Hexadecimal digits. `encode` writes two lower-case digits for each byte; `decode?` reads
  digits of either case and refuses an odd number of them.
-/

namespace BuildRegistry.Hex

/-- The lower-case digit of a value below sixteen. -/
def digit (n : Nat) : Char := if n < 10 then Char.ofNat (48 + n) else Char.ofNat (87 + n)

/-- The value of a digit of either case. -/
def value? (c : Char) : Option Nat :=
  let n := c.toNat
  if 48 ≤ n ∧ n ≤ 57 then some (n - 48)
  else if 97 ≤ n ∧ n ≤ 102 then some (n - 87)
  else if 65 ≤ n ∧ n ≤ 70 then some (n - 55)
  else none

def isDigit (c : Char) : Bool := (value? c).isSome

def pair (b : UInt8) : List Char := [digit (b.toNat / 16), digit (b.toNat % 16)]

def encodeChars (b : Bytes) : List Char := b.flatMap pair

def encode (b : Bytes) : String := String.ofList (encodeChars b)

def decode? : List Char → Option Bytes
  | [] => some []
  | [_] => none
  | a :: b :: rest => do
    let high ← value? a
    let low ← value? b
    let bytes ← decode? rest
    return UInt8.ofNat (16 * high + low) :: bytes

theorem value?_digit {n : Nat} (h : n < 16) : value? (digit n) = some n := by
  have : ∀ m : Fin 16, value? (digit m.val) = some m.val := by decide
  exact this ⟨n, h⟩

theorem decode?_pair (x : UInt8) (rest : List Char) :
    decode? (pair x ++ rest) = (decode? rest).map (x :: ·) := by
  have hx := x.toNat_lt
  have e : 16 * (x.toNat / 16) + x.toNat % 16 = x.toNat := by omega
  have h1 : x.toNat / 16 < 16 := by omega
  have h2 : x.toNat % 16 < 16 := by omega
  simp only [pair, List.cons_append, List.nil_append, decode?, value?_digit h1, value?_digit h2,
    Option.bind_eq_bind, Option.bind_some, e, UInt8.ofNat_toNat]
  cases decode? rest <;> rfl

theorem decode?_encodeChars (b : Bytes) : decode? (encodeChars b) = some b := by
  induction b with
  | nil => rfl
  | cons x xs ih =>
    have ih' : decode? (List.flatMap pair xs) = some xs := ih
    rw [encodeChars, List.flatMap_cons, decode?_pair, ih']
    rfl

end BuildRegistry.Hex
