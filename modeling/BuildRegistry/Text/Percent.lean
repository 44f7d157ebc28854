import BuildRegistry.Bytes.Hex

/-
  Percent decoding: a percent sign and two hexadecimal digits stand for a byte; every other byte,
  a percent sign without digits after it included, stands for itself.
-/

namespace BuildRegistry.Text.Percent

def hexValue? (b : UInt8) : Option Nat := Hex.value? (Char.ofNat b.toNat)

def sign : UInt8 := 0x25

/-- The byte that two digits stand for after a percent sign. -/
def pair? (a h l : UInt8) : Option UInt8 :=
  if a = sign then do return UInt8.ofNat (16 * (← hexValue? h) + (← hexValue? l)) else none

def decode : Bytes → Bytes
  | a :: h :: l :: rest =>
    match pair? a h l with
    | some b => b :: decode rest
    | none => a :: decode (h :: l :: rest)
  | rest => rest

end BuildRegistry.Text.Percent
