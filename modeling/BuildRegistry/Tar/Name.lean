import BuildRegistry.Bytes

/-
  The name field of an archive header: a hundred bytes, into which a path is copied component by
  component. Empty components and single dots are dropped. A path is refused when it starts at the
  root, goes up, holds a zero byte, or does not fit; the field then keeps what was copied so far.
-/

namespace BuildRegistry.Tar

inductive NameFault where
  | absolute
  | ascending
  | tooLong
  | zeroByte
deriving DecidableEq, Repr

def NameFault.message : NameFault → String
  | .absolute => "paths in archives must be relative"
  | .ascending => "paths in archives must not have `..`"
  | .tooLong => "provided value is too long"
  | .zeroByte => "provided value contains a nul byte"

def slash : UInt8 := 0x2F

def dot : UInt8 := 0x2E

inductive Component where
  | root
  | here
  | parent
  | named (name : Bytes)
deriving DecidableEq, Repr

/-- The stretches between slashes. -/
def segments : Bytes → List Bytes
  | [] => [[]]
  | b :: s =>
    if b = slash then [] :: segments s
    else match segments s with
      | [] => [[b]]
      | t :: ts => (b :: t) :: ts

def Component.ofSegment (s : Bytes) : Component := if s = [dot, dot] then .parent else .named s

/-- The components of a path. A single dot counts only in front. -/
def components (path : Bytes) : List Component :=
  match segments path with
  | [] => []
  | first :: rest =>
    let lead : List Component :=
      if first = [] then if rest = [] then [] else [.root]
      else if first = [dot] then [.here]
      else [.ofSegment first]
    lead ++ (rest.filter fun s => s ≠ [] && s ≠ [dot]).map .ofSegment

def nameSize : Nat := 100

/-- The bytes of the field, and how many of them belong to the path being copied. -/
structure NameField where
  bytes : Bytes
  used : Nat
deriving DecidableEq, Repr

namespace NameField

def blank : NameField := ⟨List.replicate nameSize 0, 0⟩

/-- The name that the field holds: the bytes before the first zero. -/
def name (f : NameField) : Bytes := f.bytes.takeWhile (· ≠ 0)

/-- The field with more bytes of the path, and a zero after them if there is room. -/
def extended (f : NameField) (b : Bytes) : NameField :=
  let kept := f.bytes.take f.used ++ b
  let closed := if kept.length < nameSize then kept ++ [0] else kept
  ⟨closed ++ f.bytes.drop closed.length, f.used + b.length⟩

end NameField

abbrev NameWriter := EStateM NameFault NameField

def copyBytes (b : Bytes) : NameWriter Unit := do
  let f ← get
  if nameSize < f.used + b.length then throw .tooLong
  else if b.contains 0 then throw .zeroByte
  else set (f.extended b)

def copyPart (afterOther : Bool) (b : Bytes) : NameWriter Unit := do
  if afterOther then copyBytes [slash]
  copyBytes b

/-- Copies components, with slashes between them. In a path that was `cut` short, two dots at the
end may be the start of a longer name. -/
def copyComponents (cut alone : Bool) : Bool → List Component → NameWriter Unit
  | _, [] => pure ()
  | _, .root :: _ => throw .absolute
  | afterOther, .here :: rest =>
    if alone then do
      copyPart afterOther [dot]
      copyComponents cut alone true rest
    else copyComponents cut alone afterOther rest
  | afterOther, .parent :: rest =>
    if cut && rest.isEmpty then copyPart afterOther [dot, dot] else throw .ascending
  | afterOther, .named name :: rest => do
    copyPart afterOther name
    copyComponents cut alone true rest

def copyPath (cut : Bool) (path : Bytes) : NameWriter Unit := do
  let parts := components path
  modify fun f => { f with used := 0 }
  copyComponents cut (parts.length = 1) false parts
  if path.getLast? = some slash then copyBytes [slash]

end BuildRegistry.Tar
