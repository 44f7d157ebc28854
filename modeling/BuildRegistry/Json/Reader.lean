import BuildRegistry.Bytes.Hex
import BuildRegistry.Json
import BuildRegistry.Decimal.Digits

/-
  Reading documents from text, one value at a time from the front. A reader returns what it read
  and the rest of the text, or the first fault: `malformed` text, text `cutShort`, or a value of
  another shape than the one asked for (`misshapen`). Values nest at most as deep as the reader
  allows; values that are skipped may nest without limit.
-/

namespace BuildRegistry.Json

open Decimal

inductive Fault where
  | malformed
  | misshapen
  | cutShort
deriving DecidableEq, Repr

abbrev Reader (α : Type) := List Char → Except Fault (α × List Char)

def isSpace (c : Char) : Bool := c = ' ' || c = '\n' || c = '\t' || c = '\r'

def skipSpace (s : List Char) : List Char := s.dropWhile isSpace

/-- The rest of a literal whose first letter has been read. -/
def word : List Char → List Char → Except Fault (List Char)
  | [], s => .ok s
  | _ :: _, [] => .error .cutShort
  | c :: cs, d :: s => if c = d then word cs s else .error .malformed

/-! Strings -/

/-- Where a string reader stands: between characters, after a backslash, inside the four digits
of an escape, or after a high surrogate whose partner is still to come. -/
inductive Mode where
  | plain
  | escape
  | digits (read : Nat) (code : Nat) (high : Option Nat)
  | partner (high : Nat)
  | partnerMark (high : Nat)

/-- Fewer than four bytes of text are left. -/
def fewerThanFourBytes (s : List Char) : Bool := Bytes.lengthOf (s.take 4) < 4

/-- The character that a letter stands for after a backslash. -/
def escapeOf (c : Char) : Option Char :=
  if c = '"' ∨ c = '\\' ∨ c = '/' then some c
  else if c = 'b' then some '\x08'
  else if c = 'f' then some '\x0c'
  else if c = 'n' then some '\n'
  else if c = 'r' then some '\r'
  else if c = 't' then some '\t'
  else none

/-- What four digits lead to: a character, or the wait for the second half of a pair. -/
def codeUnit (code : Nat) : Option Nat → Except Fault (Option Char × Mode)
  | none =>
    if 0xDC00 ≤ code ∧ code ≤ 0xDFFF then .error .malformed
    else if 0xD800 ≤ code ∧ code ≤ 0xDBFF then .ok (none, .partner code)
    else .ok (some (Char.ofNat code), .plain)
  | some high =>
    if 0xDC00 ≤ code ∧ code ≤ 0xDFFF then
      .ok (some (Char.ofNat (0x10000 + (high - 0xD800) * 0x400 + (code - 0xDC00))), .plain)
    else .error .malformed

def consOption (c : Option Char) (r : List Char × List Char) : List Char × List Char :=
  match c with
  | some c => (c :: r.1, r.2)
  | none => r

/-- The characters of a string up to its closing quote. -/
def stringFrom : Mode → Reader (List Char)
  | _, [] => .error .cutShort
  | .plain, c :: s =>
    if c = '"' then .ok ([], s)
    else if c = '\\' then stringFrom .escape s
    else if c.toNat < 0x20 then .error .malformed
    else (stringFrom .plain s).map (consOption (some c))
  | .escape, c :: s =>
    if c = 'u' then
      if fewerThanFourBytes s then .error .cutShort else stringFrom (.digits 0 0 none) s
    else match escapeOf c with
      | some d => (stringFrom .plain s).map (consOption (some d))
      | none => .error .malformed
  | .digits n code high, c :: s =>
    match Hex.value? c with
    | none => .error .malformed
    | some d =>
      if n < 3 then stringFrom (.digits (n + 1) (16 * code + d) high) s
      else match codeUnit (16 * code + d) high with
        | .error e => .error e
        | .ok (c, mode) => (stringFrom mode s).map (consOption c)
  | .partner high, c :: s =>
    if c = '\\' then stringFrom (.partnerMark high) s else .error .malformed
  | .partnerMark high, c :: s =>
    if c = 'u' then
      if fewerThanFourBytes s then .error .cutShort else stringFrom (.digits 0 0 (some high)) s
    else .error .malformed

/-- A string whose opening quote has been read. -/
def string : Reader String := fun s =>
  (stringFrom .plain s).map fun r => (String.ofList r.1, r.2)

/-! Numbers -/

/-- A significand of 64 bits and the power of ten it is taken with. -/
structure Scaled where
  significand : Nat
  exponent : Int
  full : Bool

/-- Takes in a digit before the point. The first one that no longer fits, and all after it, only
raise the exponent. -/
def takeWhole (n : Scaled) (c : Char) : Scaled :=
  let m := 10 * n.significand + digitValue c
  if n.full || maxNat64 < m then ⟨n.significand, n.exponent + 1, true⟩ else ⟨m, n.exponent, false⟩

/-- Takes in a digit after the point. The first one that no longer fits, and all after it, are
dropped. -/
def takeFraction (n : Scaled) (c : Char) : Scaled :=
  let m := 10 * n.significand + digitValue c
  if n.full || maxNat64 < m then { n with full := true } else ⟨m, n.exponent - 1, false⟩

def doubleOf (negative : Bool) (significand : Nat) (exponent : Int) : Except Fault Json :=
  match Double.ofDecimal significand exponent with
  | some m => .ok (.double ⟨negative, m⟩)
  | none => .error .malformed

/-- An exponent of more than 31 bits leaves nothing of a number, or has no finite value. -/
def maxExponent : Nat := 2147483647

/-- The digits of an exponent, after its letter. -/
def exponentPart (negative : Bool) (n : Scaled) (s : List Char) :
    Except Fault (Json × List Char) := do
  let (down, s) := match s with
    | '+' :: r => (false, r)
    | '-' :: r => (true, r)
    | _ => (false, s)
  let ds := s.takeWhile isDigit
  let rest := s.dropWhile isDigit
  if ds.isEmpty then .error (if s.isEmpty then .cutShort else .malformed)
  else
    let e := valueFrom 0 ds
    if maxExponent < e then
      if n.significand ≠ 0 && !down then .error .malformed
      else return (.double ⟨negative, 0⟩, rest)
    else
      let v ← doubleOf negative n.significand (if down then n.exponent - e else n.exponent + e)
      return (v, rest)

def isExponentMark (c : Char) : Bool := c = 'e' || c = 'E'

/-- What may follow the digits of a number with a point or too many digits. -/
def afterFraction (negative : Bool) (n : Scaled) : Reader Json
  | [] => do return (← doubleOf negative n.significand n.exponent, [])
  | c :: s =>
    if isExponentMark c then exponentPart negative n s
    else do return (← doubleOf negative n.significand n.exponent, c :: s)

/-- An integer; a negative one that does not fit 64 bits, and negative zero, are doubles. -/
def integer (negative : Bool) (n : Nat) : Except Fault Json :=
  if !negative then .ok (.int n)
  else if n = 0 then .ok (.double ⟨true, 0⟩)
  else if n ≤ 9223372036854775808 then .ok (.int (-n))
  else .ok (.double ⟨true, Double.ofNat n⟩)

/-- The whole digits of a number, without a superfluous zero in front. -/
def wholeDigits (s : List Char) : Except Fault (List Char × List Char) :=
  let ds := s.takeWhile isDigit
  if ds.isEmpty then .error (if s.isEmpty then .cutShort else .malformed)
  else if ds.length > 1 ∧ ds.head? = some '0' then .error .malformed
  else .ok (ds, s.dropWhile isDigit)

/-- The number that whole digits make when neither a point nor an exponent follows. -/
def wholeNumber (negative : Bool) (n : Scaled) : Except Fault Json :=
  if n.full then doubleOf negative n.significand n.exponent else integer negative n.significand

/-- The digits after a point. -/
def fractionPart (negative : Bool) (n : Scaled) : Reader Json := fun s =>
  let ds := s.takeWhile isDigit
  if ds.isEmpty then .error (if s.isEmpty then .cutShort else .malformed)
  else afterFraction negative (ds.foldl takeFraction { n with full := false }) (s.dropWhile isDigit)

/-- A number whose sign has been read. -/
def number (negative : Bool) : Reader Json := fun s => do
  let (ds, s) ← wholeDigits s
  let n := ds.foldl takeWhole ⟨0, 0, false⟩
  match s with
  | '.' :: r => fractionPart negative n r
  | c :: r =>
    if isExponentMark c then exponentPart negative n r
    else do return (← wholeNumber negative n, c :: r)
  | [] => do return (← wholeNumber negative n, [])

/-! Arrays and objects -/

/-- The items of an array up to its closing bracket; `first` before any item was read. Each round
takes at least one character, so that the length of the text is fuel enough. -/
def items {α : Type} (item : Reader α) : Nat → Bool → Reader (List α)
  | 0, _, _ => .error .malformed
  | n + 1, first, s =>
    match skipSpace s with
    | [] => .error .cutShort
    | c :: r =>
      if c = ']' then .ok ([], r)
      else
        let next : Except Fault (List Char) :=
          if first then .ok (c :: r)
          else if c = ',' then
            match skipSpace r with
            | [] => .error .cutShort
            | d :: t => if d = ']' then .error .malformed else .ok (d :: t)
          else .error .malformed
        match next with
        | .error e => .error e
        | .ok s => do
          let (v, s) ← item s
          let (vs, s) ← items item n false s
          return (v :: vs, s)

def array {α : Type} (item : Reader α) : Reader (List α) := fun s =>
  items item (s.length + 1) true s

/-- The fields of an object up to its closing brace. `field` is given each name with what was
gathered before, at the text after the name. -/
def fields {σ : Type} (field : String → σ → Reader σ) : Nat → Bool → σ → Reader σ
  | 0, _, _, _ => .error .malformed
  | n + 1, first, acc, s =>
    match skipSpace s with
    | [] => .error .cutShort
    | c :: r =>
      if c = '\x7d' then .ok (acc, r)
      else
        let next : Except Fault (List Char) :=
          if first then if c = '"' then .ok r else .error .malformed
          else if c = ',' then
            match skipSpace r with
            | [] => .error .cutShort
            | d :: t => if d = '"' then .ok t else .error .malformed
          else .error .malformed
        match next with
        | .error e => .error e
        | .ok s => do
          let (key, s) ← string s
          let (acc, s) ← field key acc s
          fields field n false acc s

def objectFold {σ : Type} (field : String → σ → Reader σ) (acc : σ) : Reader σ := fun s =>
  fields field (s.length + 1) true acc s

def colon (s : List Char) : Except Fault (List Char) :=
  match skipSpace s with
  | [] => .error .cutShort
  | c :: r => if c = ':' then .ok r else .error .malformed

/-- A value that is neither an array nor an object. -/
def scalar (c : Char) (r : List Char) : Except Fault (Json × List Char) :=
  if c = 'n' then do return (.null, ← word ['u', 'l', 'l'] r)
  else if c = 't' then do return (.bool true, ← word ['r', 'u', 'e'] r)
  else if c = 'f' then do return (.bool false, ← word ['a', 'l', 's', 'e'] r)
  else if c = '"' then do
    let (s, r) ← string r
    return (.str s, r)
  else if c = '-' then number true r
  else if isDigit c then number false (c :: r)
  else .error .malformed

/-- A value that nests at most `depth` levels. -/
def value : (depth : Nat) → Reader Json
  | 0, s =>
    match skipSpace s with
    | [] => .error .cutShort
    | c :: r => if c = '[' ∨ c = '\x7b' then .error .malformed else scalar c r
  | depth + 1, s =>
    match skipSpace s with
    | [] => .error .cutShort
    | c :: r =>
      if c = '[' then do
        let (vs, r) ← array (value depth) r
        return (.arr vs, r)
      else if c = '\x7b' then do
        let (fs, r) ← objectFold (fun key acc s => do
          let s ← colon s
          let (v, s) ← value depth s
          return (put key v acc, s)) [] r
        return (.obj fs, r)
      else scalar c r

/-! Values that are skipped -/

/-- Passes over a string whose opening quote has been read. Escapes are checked for their form,
surrogates are not paired. -/
def skipString : Mode → List Char → Except Fault (List Char)
  | _, [] => .error .cutShort
  | .plain, c :: s =>
    if c = '"' then .ok s
    else if c = '\\' then skipString .escape s
    else if c.toNat < 0x20 then .error .malformed
    else skipString .plain s
  | .digits n _ _, c :: s =>
    if Hex.isDigit c then skipString (if n < 3 then .digits (n + 1) 0 none else .plain) s
    else .error .malformed
  | _, c :: s =>
    if c = 'u' then
      if fewerThanFourBytes s then .error .cutShort else skipString (.digits 0 0 none) s
    else if (escapeOf c).isSome then skipString .plain s
    else .error .malformed

def skipExponent (s : List Char) : Except Fault (List Char) :=
  let s := match s with
    | '+' :: r => r
    | '-' :: r => r
    | _ => s
  if (s.takeWhile isDigit).isEmpty then .error .malformed else .ok (s.dropWhile isDigit)

/-- Passes over a number whose sign has been read. Here text that ends too soon is malformed. -/
def skipNumber (s : List Char) : Except Fault (List Char) :=
  match wholeDigits s with
  | .error _ => .error .malformed
  | .ok (_, '.' :: r) =>
    if (r.takeWhile isDigit).isEmpty then .error .malformed
    else match r.dropWhile isDigit with
      | c :: t => if isExponentMark c then skipExponent t else .ok (c :: t)
      | [] => .ok []
  | .ok (_, c :: r) => if isExponentMark c then skipExponent r else .ok (c :: r)
  | .ok (_, []) => .ok []

def skipScalar (c : Char) (r : List Char) : Except Fault (List Char) :=
  if c = 'n' then word ['u', 'l', 'l'] r
  else if c = 't' then word ['r', 'u', 'e'] r
  else if c = 'f' then word ['a', 'l', 's', 'e'] r
  else if c = '"' then skipString .plain r
  else if c = '-' then skipNumber r
  else if isDigit c then skipNumber (c :: r)
  else .error .malformed

/-- Passes over a field's name and its colon. -/
def skipName (s : List Char) : Except Fault (List Char) :=
  match skipSpace s with
  | [] => .error .cutShort
  | c :: r =>
    if c = '"' then do
      let s ← skipString .plain r
      colon s
    else .error .malformed

/-- Closes brackets, innermost first, as far as the text does. It returns the brackets still open
when another item follows, and none at the end of the whole value. `filled` tells whether the
innermost bracket already holds an item. -/
def closeBrackets : Bool → List Char → List Char → Except Fault (List Char × List Char)
  | _, [], s => .ok ([], s)
  | filled, b :: enclosing, s =>
    match skipSpace s with
    | [] => .error .cutShort
    | c :: r =>
      if filled && c = ',' then .ok (b :: enclosing, r)
      else if (c = ']' ∧ b = '[') ∨ (c = '\x7d' ∧ b = '\x7b') then closeBrackets true enclosing r
      else if filled then .error .malformed
      else .ok (b :: enclosing, c :: r)

/-- Passes over a value of any depth. The second argument holds the open brackets, innermost
first. -/
def skipFrom : Nat → List Char → List Char → Except Fault (List Char)
  | 0, _, _ => .error .malformed
  | n + 1, open_, s =>
    match skipSpace s with
    | [] => .error .cutShort
    | c :: r => do
      let (left, r) ←
        if c = '[' ∨ c = '\x7b' then closeBrackets false (c :: open_) r
        else do closeBrackets true open_ (← skipScalar c r)
      match left with
      | [] => return r
      | b :: _ => skipFrom n left (← if b = '\x7b' then skipName r else .ok r)

def skip (s : List Char) : Except Fault (List Char) := skipFrom (s.length + 1) [] s

/-! Whole texts -/

/-- Depth to which values may nest. -/
def maxDepth : Nat := 127

/-- A text that holds one value and nothing else. -/
def whole {α : Type} (read : Reader α) (s : List Char) : Except Fault α := do
  let (v, s) ← read s
  if (skipSpace s).isEmpty then return v else .error .malformed

def parse (s : String) : Except Fault Json := whole (value maxDepth) s.toList

def parse? (s : String) : Option Json := (parse s).toOption

end BuildRegistry.Json
