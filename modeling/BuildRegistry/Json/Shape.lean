import BuildRegistry.Json.Reader

/-
  Readers for values of a known shape. A record is written as an object, whose unknown fields are
  passed over and whose known ones may occur once, or as an array of its members in order, which
  may end early only before members with a default.
-/

namespace BuildRegistry.Json

open Decimal

/-- The fault of a value of the wrong shape that starts with `c`. A scalar is read to its end, so
that its own fault comes first. -/
def wrongShape (c : Char) (r : List Char) : Fault :=
  if c = '[' ∨ c = '\x7b' then .misshapen
  else match scalar c r with
    | .ok _ => .misshapen
    | .error e => e

/-- Reads on from the first character that is not white space. -/
def atValue {α : Type} (read : Char → Reader α) : Reader α := fun s =>
  match skipSpace s with
  | [] => .error .cutShort
  | c :: r => read c r

def asText : Reader String := atValue fun c r =>
  if c = '"' then string r else .error (wrongShape c r)

def asFlag : Reader Bool := atValue fun c r => do
  match ← (if c = 't' ∨ c = 'f' then scalar c r else .error (wrongShape c r)) with
  | (.bool b, r) => return (b, r)
  | _ => .error .misshapen

def asInt64 : Reader Int := atValue fun c r =>
  match scalar c r with
  | .ok (.int n, r) => if isInt64 n then .ok (n, r) else .error .misshapen
  | _ => .error (wrongShape c r)

/-- A value, or `null` for none. -/
def optional {α : Type} (read : Reader α) : Reader (Option α) := atValue fun c r =>
  if c = 'n' then do return (none, ← word ['u', 'l', 'l'] r)
  else do
    let (v, r) ← read (c :: r)
    return (some v, r)

/-- An object of texts, as entries in ascending order. -/
def asTextMap : Reader (List (String × String)) := atValue fun c r =>
  if c = '\x7b' then
    objectFold (fun key acc s => do
      let s ← colon s
      let (v, s) ← asText s
      return (put key v acc, s)) [] r
  else .error (wrongShape c r)

def asList {α : Type} (item : Reader α) : Reader (List α) := atValue fun c r =>
  if c = '[' then array item r else .error (wrongShape c r)

/-- One member of a record of type `σ`: how it is read, whether an object may lack it, and
whether an array may end before it. -/
structure Member (σ : Type) where
  name : String
  read : Reader (σ → σ)
  mayLack : Bool
  mayEnd : Bool

def Member.of {σ α : Type} (name : String) (read : Reader α) (set : α → σ → σ)
    (mayLack mayEnd : Bool) : Member σ where
  name := name
  read := fun s => do
    let (v, s) ← read s
    return (set v, s)
  mayLack := mayLack
  mayEnd := mayEnd

/-- A member that has to be there. -/
def Member.required {σ α : Type} (name : String) (read : Reader α) (set : α → σ → σ) : Member σ :=
  .of name read set false false

/-- A member that keeps its initial value when an object lacks it or has `null` for it. -/
def Member.nullable {σ α : Type} (name : String) (read : Reader α) (set : Option α → σ → σ) :
    Member σ :=
  .of name (optional read) set true false

/-- A member that keeps its initial value when it is left out. -/
def Member.defaulted {σ α : Type} (name : String) (read : Reader α) (set : α → σ → σ) :
    Member σ :=
  .of name read set true true

/-- The names read so far, and the record they have been put into. -/
abbrev Draft (σ : Type) := List String × σ

def memberField {σ : Type} (members : List (Member σ)) (key : String) (d : Draft σ) :
    Reader (Draft σ) := fun s =>
  match members.find? (·.name = key) with
  | none => do
    let s ← colon s
    return (d, ← skip s)
  | some m =>
    if d.1.contains key then .error .misshapen
    else do
      let s ← colon s
      let (f, s) ← m.read s
      return ((key :: d.1, f d.2), s)

/-- The end of an array whose members have all been read. -/
def closeArray (s : List Char) : Except Fault (List Char) :=
  match skipSpace s with
  | [] => .error .cutShort
  | c :: r => if c = ']' then .ok r else .error .malformed

def memberItems {σ : Type} : List (Member σ) → Bool → σ → Reader σ
  | [], _, v, s => do return (v, ← closeArray s)
  | m :: ms, first, v, s =>
    match skipSpace s with
    | [] => .error .cutShort
    | c :: r =>
      if c = ']' then if (m :: ms).all (·.mayEnd) then .ok (v, r) else .error .misshapen
      else
        let next : Except Fault (List Char) :=
          if first then .ok (c :: r)
          else if c = ',' then
            match skipSpace r with
            | [] => .error .cutShort
            | d :: t => if d = ']' then .error .malformed else .ok (d :: t)
          else .error .malformed
        match next with
        | .error e => .error e
        | .ok s => do
          let (f, s) ← m.read s
          memberItems ms false (f v) s

/-- A record whose members start from those of `initial`. -/
def record {σ : Type} (members : List (Member σ)) (initial : σ) : Reader σ := atValue fun c r =>
  if c = '\x7b' then do
    let ((seen, v), r) ← objectFold (memberField members) ([], initial) r
    if members.all fun m => m.mayLack || seen.contains m.name then return (v, r)
    else .error .misshapen
  else if c = '[' then memberItems members true initial r
  else .error (wrongShape c r)

end BuildRegistry.Json
