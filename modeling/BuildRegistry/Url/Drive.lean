import BuildRegistry.Text.Fields

/-
  Drives in the paths of file URLs. A drive at the root of a path is on this machine, whatever
  host the URL names. Dots are followed while the path is read, but they do not lead out of a
  drive.
-/

namespace BuildRegistry.Drive

/-- A letter and a colon or a bar name a drive. -/
def isDrive : List Char → Bool
  | [c, d] => c.isAlpha && (d = ':' || d = '|')
  | _ => false

/-- What follows a dot, which may be percent-encoded. -/
def afterDot? : List Char → Option (List Char)
  | '.' :: s => some s
  | '%' :: '2' :: 'e' :: s => some s
  | '%' :: '2' :: 'E' :: s => some s
  | _ => none

def isHere (segment : List Char) : Bool := afterDot? segment = some []

def isParent (segment : List Char) : Bool := (afterDot? segment).bind afterDot? = some []

/-- The way above a place, the last segment first. -/
def above : List (List Char) → List (List Char)
  | [] => []
  | d :: way => if isDrive d then d :: way else way

/-- Whether a drive comes up at the root while segments are followed from a place. -/
def meetsDrive (way : List (List Char)) : List (List Char) → Bool
  | [] => false
  | s :: rest =>
    if isHere s then meetsDrive way rest
    else if isParent s then meetsDrive (above way) rest
    else (way.isEmpty && isDrive s) || meetsDrive (s :: way) rest

/-- The segments of a path, between slashes of either kind. -/
def segments (path : List Char) : List (List Char) :=
  Text.splitAt '/' (path.map fun c => if c = '\\' then '/' else c)

/-- Whether a path, without the slash in front, leads to a drive of this machine. -/
def leadsToDrive (path : List Char) : Bool := meetsDrive [] (segments path)

end BuildRegistry.Drive
