import BuildRegistry.Bytes.Hex
import BuildRegistry.Text.Blank

/-
  Bytecode: the bytes that an artifact spells, the metadata that compilers append to it, and the
  comparison of two codes.
-/

namespace BuildRegistry

inductive MatchKind where
  | full
  | partly
  | none
deriving DecidableEq, Repr

def MatchKind.text : MatchKind → String
  | .full => "full"
  | .partly => "partial"
  | .none => "none"

/-- Outcome of comparing expected bytecode with what is deployed. -/
structure MatchReport where
  kind : MatchKind
  message : String
deriving DecidableEq, Repr

namespace MatchReport

def isMatch (r : MatchReport) : Bool := r.kind ≠ .none

def full : MatchReport := ⟨.full, "Deployed bytecode matches exactly"⟩

def partly (message : String) : MatchReport := ⟨.partly, message⟩

def none (message : String) : MatchReport := ⟨.none, message⟩

end MatchReport

namespace Bytecode

/-- Hexadecimal text without its `0x` or `0X`. -/
def withoutMark : List Char → List Char
  | '0' :: 'x' :: ds => ds
  | '0' :: 'X' :: ds => ds
  | ds => ds

/-- A zero in front of digits that take an odd number of bytes. -/
def evened (ds : List Char) : List Char :=
  if Bytes.lengthOf ds % 2 = 1 then '0' :: ds else ds

/-- The bytes that hexadecimal text stands for, with white space around it and a mark in front
allowed; any other content stands for itself. -/
def decode (content : Bytes) : Bytes :=
  match content.toString? with
  | none => content
  | some s => (Hex.decode? (evened (withoutMark (Text.trimChars s.toList)))).getD content

/-- A metadata section starts with the header of a map of one to five entries. -/
def isMetadataHeader (b : UInt8) : Bool := 0xa1 ≤ b && b ≤ 0xa5

/-- The length written in the last two bytes, high byte first. -/
def trailerLength (code : Bytes) : Nat :=
  match code.drop (code.length - 2) with
  | [a, b] => 256 * a.toNat + b.toNat
  | _ => 0

/-- The code without the metadata section at its end, if it has one. -/
def stripMetadata (code : Bytes) : Bytes :=
  let m := trailerLength code
  if m = 0 ∨ code.length < m + 2 then code
  else
    let start := code.length - 2 - m
    if (code.drop start).head?.any isMetadataHeader then code.take start else code

/-- Compares codes exactly, and then without their metadata. -/
def compare (expected onChain : Bytes) : MatchReport :=
  if expected = onChain then .full
  else if stripMetadata expected ≠ [] ∧ stripMetadata expected = stripMetadata onChain then
    .partly "Bytecode matches except for compiler metadata"
  else .none "Deployed bytecode does not match"

end Bytecode

end BuildRegistry
