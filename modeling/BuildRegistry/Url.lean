import BuildRegistry.Url.Drive
import BuildRegistry.Url.Host

/-
  URLs: their scheme, host and port. Tabs and line breaks are passed over, and so is white space
  around a URL. After a well-known scheme any number of slashes and backslashes leads to the host;
  after any other scheme two slashes do, and without them there is no host.
-/

namespace BuildRegistry

structure Url where
  text : String
  scheme : String
  host : Option Host
  port : Option Nat
deriving DecidableEq, Repr

namespace Url

def isSchemeChar (c : Char) : Bool :=
  c.isAlphanum || c = '+' || c = '-' || c = '.'

/-- The scheme in lower case, and the text after its colon. -/
def scheme? (s : List Char) : Option (List Char × List Char) :=
  if s.head?.any Char.isAlpha then
    match s.dropWhile isSchemeChar with
    | ':' :: rest => some ((s.takeWhile isSchemeChar).map Char.toLower, rest)
    | _ => none
  else none

/-- Schemes whose URLs always have a host. -/
def isSpecial (scheme : String) : Bool := ["http", "https", "ws", "wss", "ftp"].contains scheme

def isSlash (c : Char) : Bool := c = '/' || c = '\\'

/-- The end of the part of a URL that names its host. -/
def endsAuthority (special : Bool) (c : Char) : Bool :=
  c = '/' || c = '?' || c = '#' || (special && c = '\\')

/-- The text after the last at-sign in front of the host, and what stands before that sign. -/
def userInfo (special : Bool) (s : List Char) : List Char × Option (List Char) :=
  let front := s.takeWhile (!endsAuthority special ·)
  let host := (front.reverse.takeWhile (· ≠ '@')).length
  if host = front.length then (s, none)
  else (s.drop (front.length - host), some (front.take (front.length - host - 1)))

/-- The text of a host and the rest. A colon ends it outside brackets only. -/
def hostText (special : Bool) : (bracket : Bool) → List Char → List Char × List Char
  | _, [] => ([], [])
  | bracket, c :: s =>
    if (c = ':' && !bracket) || endsAuthority special c then ([], c :: s)
    else
      let inside := if c = '[' then true else if c = ']' then false else bracket
      let (h, rest) := hostText special inside s
      (c :: h, rest)

def maxPort : Nat := 65535

/-- The port after a colon; no digits are no port. -/
def portNumber (s : List Char) : Except UrlFault (Option Nat) :=
  let ds := s.takeWhile Decimal.isDigit
  let n := Decimal.valueFrom 0 ds
  let rest := s.dropWhile Decimal.isDigit
  if maxPort < n then .error .portNumber
  else if rest.head?.all (endsAuthority true) then .ok (if ds.isEmpty then none else some n)
  else .error .portNumber

/-- The host and the port after two slashes. -/
def authority (special : Bool) (s : List Char) : Except UrlFault (Option Host × Option Nat) := do
  let (s, user) := userInfo special s
  if user = some [] && s.head?.any (endsAuthority special) then .error .emptyHost
  let named := user.any fun u => u ≠ [] && u ≠ [':']
  let (h, rest) := hostText special false s
  if special && h.isEmpty then .error .emptyHost
  let host ← if special then Host.parse h else Host.parseOpaque h
  let missing : Bool := host = .domain ""
  match rest with
  | ':' :: t => if missing then .error .emptyHost else return (some host, ← portNumber t)
  | _ =>
    if missing && named then .error .emptyHost
    else return (if missing then none else some host, none)

/-- The path between a host and what follows the path, without the slash in front. -/
def pathAfter (s : List Char) : List Char :=
  let path := s.takeWhile fun c => c ≠ '?' && c ≠ '#'
  if path.head?.any isSlash then path.drop 1 else path

/-- The host of a file. This machine is none, and a drive leaves none. -/
def fileHost (s : List Char) : Except UrlFault (Option Host) :=
  match s with
  | a :: b :: t =>
    if isSlash a && isSlash b then
      let h := t.takeWhile (!endsAuthority true ·)
      if Drive.isDrive h || h.isEmpty then .ok none
      else do
        let host ← Host.parse h
        if host = .domain "localhost"
            || Drive.leadsToDrive (pathAfter (t.dropWhile (!endsAuthority true ·))) then
          return none
        else return some host
    else .ok none
  | _ => .ok none

def isOuter (c : Char) : Bool := c.toNat ≤ 0x20

def isPassedOver (c : Char) : Bool := c = '\t' || c = '\n' || c = '\r'

/-- The text of a URL without what surrounds it and what is passed over. -/
def cleaned (s : List Char) : List Char :=
  ((s.dropWhile isOuter).reverse.dropWhile isOuter).reverse.filter (!isPassedOver ·)

def parse (text : String) : Except UrlFault Url := do
  match scheme? (cleaned text.toList) with
  | none => .error .relative
  | some (scheme, s) =>
    let scheme := String.ofList scheme
    if scheme = "file" then return ⟨text, scheme, ← fileHost s, none⟩
    else if isSpecial scheme then
      let (host, port) ← authority true (s.dropWhile isSlash)
      return ⟨text, scheme, host, port⟩
    else match s with
      | '/' :: '/' :: t =>
        let (host, port) ← authority false t
        return ⟨text, scheme, host, port⟩
      | _ => return ⟨text, scheme, none, none⟩

end Url

end BuildRegistry
