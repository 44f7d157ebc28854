/-
  Punycode: text with any characters written in ASCII letters, digits and hyphens. The ASCII
  characters come first, then the others in ascending order, each as the distance from the place
  of the one before. Distances are written in base 36 with thresholds that follow their sizes.
-/

namespace BuildRegistry.Punycode

def digitChar (d : Nat) : Char := if d < 26 then Char.ofNat (0x61 + d) else Char.ofNat (0x16 + d)

def digitValue? (c : Char) : Option Nat :=
  let n := c.toNat
  if 0x61 ≤ n ∧ n ≤ 0x7A then some (n - 0x61)
  else if 0x41 ≤ n ∧ n ≤ 0x5A then some (n - 0x41)
  else if 0x30 ≤ n ∧ n ≤ 0x39 then some (n - 0x16)
  else none

/-- The threshold of the digit at place `k`, which counts in steps of 36. -/
def threshold (k bias : Nat) : Nat :=
  if k ≤ bias + 1 then 1 else if bias + 26 ≤ k then 26 else k - bias

theorem threshold_pos (k bias : Nat) : 1 ≤ threshold k bias := by
  unfold threshold
  split
  · omega
  · split <;> omega

def scaled (delta k : Nat) : Nat × Nat :=
  if 455 < delta then scaled (delta / 35) (k + 36) else (delta, k)
termination_by delta
decreasing_by exact Nat.div_lt_self (by omega) (by omega)

/-- The bias after a distance, of which `count` have been written. -/
def adapted (delta count : Nat) (first : Bool) : Nat :=
  let d := if first then delta / 700 else delta / 2
  let (d, k) := scaled (d + d / count) 0
  k + 36 * d / (d + 38)

/-- The digits of a distance, from place `k` on. -/
def digits (bias k q : Nat) : List Char :=
  let t := threshold k bias
  if q < t then [digitChar q]
  else digitChar (t + (q - t) % (36 - t)) :: digits bias (k + 36) ((q - t) / (36 - t))
termination_by q
decreasing_by
  have h := threshold_pos k bias
  calc (q - threshold k bias) / (36 - threshold k bias)
      ≤ q - threshold k bias := Nat.div_le_self _ _
    _ < q := by omega

structure Encoder where
  written : List Char
  delta : Nat
  bias : Nat
  count : Nat

/-- Passes a character while those with the number `m` are written. -/
def Encoder.pass (basic m : Nat) (e : Encoder) (c : Char) : Encoder :=
  if c.toNat < m then { e with delta := e.delta + 1 }
  else if c.toNat = m then
    { written := e.written ++ digits e.bias 36 e.delta
      delta := 0
      bias := adapted e.delta (e.count + 1) (e.count = basic)
      count := e.count + 1 }
  else e

def isBasic (c : Char) : Bool := c.toNat < 0x80

/-- Writes the characters with the numbers `ms`, the least first; `n` is the least number that
has not been looked at. -/
def encodeFrom (s : List Char) (basic : Nat) : (ms : List Nat) → (n : Nat) → Encoder → Encoder
  | [], _, e => e
  | m :: ms, n, e =>
    let e := s.foldl (Encoder.pass basic m) { e with delta := e.delta + (m - n) * (e.count + 1) }
    encodeFrom s basic ms (m + 1) { e with delta := e.delta + 1 }

def encode (s : List Char) : List Char :=
  let basic := s.filter isBasic
  let others := ((s.filter (!isBasic ·)).map Char.toNat).mergeSort.eraseDups
  let e := encodeFrom s basic.length others 0x80 ⟨[], 0, 72, basic.length⟩
  basic ++ (if basic.isEmpty then [] else ['-']) ++ e.written

/-- The first number that a word of 32 bits cannot hold. -/
def wordLimit : Nat := 4294967296

/-- A distance at the front of a text, added to `i`, and the rest. Places and weights are words. -/
def distance? (bias : Nat) : List Char → (k weight i : Nat) → Option (Nat × List Char)
  | [], _, _, _ => none
  | c :: s, k, weight, i => do
    let d ← digitValue? c
    let t := threshold k bias
    if wordLimit ≤ i + d * weight then none
    else if d < t then some (i + d * weight, s)
    else if wordLimit ≤ weight * (36 - t) then none
    else distance? bias s (k + 36) (weight * (36 - t)) (i + d * weight)

/-- Puts the characters of the remaining distances in their places. Each distance takes at least
one character of `fuel`. -/
def decodeFrom : (fuel bias n i : Nat) → List Char → List Char → Option (List Char)
  | _, _, _, _, out, [] => some out
  | 0, _, _, _, _, _ => none
  | fuel + 1, bias, n, i, out, s => do
    let (j, rest) ← distance? bias s 36 1 i
    let size := out.length + 1
    let code := n + j / size
    let place := j % size
    if code < 0x110000 ∧ (code < 0xD800 ∨ 0xDFFF < code) then
      decodeFrom fuel (adapted (j - i) size (i = 0)) code (place + 1)
        (out.insertIdx place (Char.ofNat code)) rest
    else none

/-- The text before the last hyphen, and what follows it. A hyphen at the front parts nothing. -/
def parts (s : List Char) : List Char × List Char :=
  match s.reverse.dropWhile (· ≠ '-') with
  | _ :: c :: front => ((c :: front).reverse, (s.reverse.takeWhile (· ≠ '-')).reverse)
  | _ => ([], s)

def decode? (s : List Char) : Option (List Char) :=
  let (basic, rest) := parts s
  if basic.all isBasic then decodeFrom s.length 72 0x80 0 basic rest else none

end BuildRegistry.Punycode
