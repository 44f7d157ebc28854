import BuildRegistry.Decimal.Digits
import BuildRegistry.Url.Domain

/-
  Hosts of URLs: domain names, and addresses of IP versions 4 and 6. A name whose last label is a
  number has to be an address of version 4, of one to four numbers in base 8, 10 or 16.
-/

namespace BuildRegistry

inductive Host where
  | domain (name : String)
  | v4 (address : Nat)
  | v6 (pieces : List Nat)
deriving DecidableEq, Repr

/-- Why a text is no URL. -/
inductive UrlFault where
  | relative
  | emptyHost
  | domainName
  | domainCharacter
  | v4Address
  | v6Address
  | portNumber
deriving DecidableEq, Repr

def UrlFault.message : UrlFault → String
  | .relative => "relative URL without a base"
  | .emptyHost => "empty host"
  | .domainName => "invalid international domain name"
  | .domainCharacter => "invalid domain character"
  | .v4Address => "invalid IPv4 address"
  | .v6Address => "invalid IPv6 address"
  | .portNumber => "invalid port number"

namespace Host

/-! Version 4 -/

/-- The number that digits of a base write; nothing at all is zero. -/
def numberIn (base : Nat) (ds : List Char) : Option Nat := do
  let vs ← ds.mapM Hex.value?
  if vs.all (· < base) then some (vs.foldl (fun n d => base * n + d) 0) else none

/-- A part of an address of version 4. -/
def v4Part? : List Char → Option Nat
  | [] => none
  | '0' :: 'x' :: ds => numberIn 16 ds
  | '0' :: 'X' :: ds => numberIn 16 ds
  | '0' :: d :: ds => numberIn 8 (d :: ds)
  | ds => numberIn 10 ds

/-- The labels of a name, without an empty one at its end. -/
def labels (name : List Char) : List (List Char) :=
  let ls := Text.splitAt '.' name
  if ls.getLast? = some [] then ls.dropLast else ls

def endsInNumber (name : List Char) : Bool :=
  match (labels name).getLast? with
  | none => false
  | some l => (!l.isEmpty && l.all Decimal.isDigit) || (v4Part? l).isSome

/-- The address whose last part fills the bytes that the others leave. -/
def v4? (name : List Char) : Option Nat := do
  let parts := labels name
  let ns ← parts.mapM v4Part?
  let last ← ns.getLast?
  let front := ns.dropLast
  if 4 < ns.length || front.any (255 < ·) || Nat.pow 256 (4 - front.length) ≤ last then none
  else some (front.foldl (fun n p => 256 * n + p) 0 * Nat.pow 256 (4 - front.length) + last)

def v4Text (n : Nat) : List Char :=
  Text.joinWith '.' ([n / 16777216 % 256, n / 65536 % 256, n / 256 % 256, n % 256].map
    Decimal.natText)

/-! Version 6 -/

/-- A byte in decimal, without superfluous zeros. -/
def byte? (ds : List Char) : Option Nat := do
  let n ← Decimal.natural? ds
  if 255 < n || (1 < ds.length && ds.head? = some '0') then none else some n

/-- An address of version 4 as two pieces of one of version 6. -/
def v4Pieces? (s : List Char) : Option (List Nat) := do
  match ← (Text.splitAt '.' s).mapM byte? with
  | [a, b, c, d] => some [256 * a + b, 256 * c + d]
  | _ => none

/-- Pieces of an address; none for the gap that stands for zeros. -/
abbrev Pieces := List (Option Nat)

/-- Reads pieces when `count` have been read, the gap counted as one. -/
def piecesFrom : (fuel count : Nat) → (gap : Bool) → List Char → Option Pieces
  | _, _, _, [] => some []
  | 0, _, _, _ => none
  | fuel + 1, count, gap, c :: s =>
    if count = 8 then none
    else if c = ':' then
      if gap then none else (piecesFrom fuel (count + 1) true s).map (none :: ·)
    else
      let ds := ((c :: s).take 4).takeWhile Hex.isDigit
      let rest := (c :: s).drop ds.length
      let piece := (numberIn 16 ds).getD 0
      match rest with
      | [] => some [some piece]
      | '.' :: _ =>
        if ds.isEmpty || 6 < count then none else (v4Pieces? (c :: s)).map (·.map some)
      | ':' :: t =>
        if t.isEmpty then none else (piecesFrom fuel (count + 1) gap t).map (some piece :: ·)
      | _ => none

/-- The pieces with zeros for the gap. -/
def filled? (ps : Pieces) : Option (List Nat) :=
  if ps.contains none then
    let zeros := List.replicate (9 - ps.length) 0
    some (ps.flatMap fun p => match p with
      | some n => [n]
      | none => zeros)
  else if ps.length = 8 then ps.mapM id
  else none

def v6? (s : List Char) : Option (List Nat) := do
  let ps ← match s with
    | ':' :: ':' :: t => (piecesFrom t.length 1 true t).map (none :: ·)
    | ':' :: _ => none
    | _ => if s.length < 2 then none else piecesFrom s.length 0 false s
  filled? ps

/-- The first of the longest runs of zeros in pieces that start at place `i`: its place and its
length. -/
def zeroRun (i : Nat) : List Nat → Nat × Nat
  | [] => (i, 0)
  | p :: ps =>
    let here := ((p :: ps).takeWhile (· = 0)).length
    let (j, n) := zeroRun (i + 1) ps
    if n ≤ here then (i, here) else (j, n)

def v6Text (ps : List Nat) : List Char :=
  let join (qs : List Nat) := Text.joinWith ':' (qs.map (Nat.toDigits 16))
  let (i, n) := zeroRun 0 ps
  if 1 < n then join (ps.take i) ++ ':' :: ':' :: join (ps.drop (i + n)) else join ps

/-! Hosts -/

def text : Host → String
  | .domain name => name
  | .v4 n => String.ofList (v4Text n)
  | .v6 ps => String.ofList ('[' :: v6Text ps ++ [']'])

/-- The address between brackets, the first of which has been read. -/
def bracketed (s : List Char) : Except UrlFault Host :=
  if s.getLast? ≠ some ']' then .error .v6Address
  else match v6? s.dropLast with
    | some ps => .ok (.v6 ps)
    | none => .error .v6Address

/-- The host of a URL of one of the well-known schemes. -/
def parse : List Char → Except UrlFault Host
  | '[' :: s => bracketed s
  | s =>
    match Domain.parse? s with
    | none => .error .domainName
    | some name =>
      if name.isEmpty then .error .emptyHost
      else if endsInNumber name then
        match v4? name with
        | some n => .ok (.v4 n)
        | none => .error .v4Address
      else .ok (.domain (String.ofList name))

def isOpaqueForbidden (c : Char) : Bool :=
  ['\x00', '\t', '\n', '\r', ' ', '#', '/', ':', '<', '>', '?', '@', '[', '\\', ']', '^',
    '|'].contains c

/-- A byte as a percent sign and two upper-case digits. -/
def escaped (b : UInt8) : List Char := '%' :: (Hex.pair b).map Char.toUpper

/-- Controls and characters beyond ASCII by their bytes. -/
def opaqueChar (c : Char) : List Char :=
  if c.toNat < 0x20 ∨ 0x7F ≤ c.toNat then (Bytes.ofString (String.ofList [c])).flatMap escaped
  else [c]

/-- The host of a URL of any other scheme, taken as it is written. -/
def parseOpaque : List Char → Except UrlFault Host
  | '[' :: s => bracketed s
  | s =>
    if s.any isOpaqueForbidden then .error .domainCharacter
    else .ok (.domain (String.ofList (s.flatMap opaqueChar)))

end Host

end BuildRegistry
