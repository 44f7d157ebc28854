import BuildRegistry.Tar.Name

/-
  Headers of an archive: blocks of 512 bytes in which every field has a fixed place. Numbers are
  octal digits with a zero byte at the end, and large ones bytes after a mark. The checksum is the
  sum of all bytes of the block, its own taken as spaces.
-/

namespace BuildRegistry.Tar

def blockSize : Nat := 512

def zeros (n : Nat) : Bytes := List.replicate n 0

def octalDigit (n : Nat) : UInt8 := UInt8.ofNat (48 + n % 8)

/-- The last `width` octal digits of `n`. -/
def octalDigits : (width : Nat) → Nat → Bytes
  | 0, _ => []
  | width + 1, n => octalDigits width (n / 8) ++ [octalDigit n]

/-- Octal digits and a zero byte in a field of `width` bytes. -/
def octal (width n : Nat) : Bytes := octalDigits (width - 1) n ++ [0]

/-- The last `width` bytes of `n`, high byte first. -/
def bigEndian : (width : Nat) → Nat → Bytes
  | 0, _ => []
  | width + 1, n => bigEndian width (n / 256) ++ [UInt8.ofNat (n % 256)]

/-- The first number too large for eleven octal digits. -/
def octalBound : Nat := 8589934592

/-- A number in a field of twelve bytes. -/
def number (n : Nat) : Bytes :=
  if n < octalBound then octal 12 n else [0x80, 0, 0, 0] ++ bigEndian 8 n

structure Header where
  name : Bytes
  mode : Nat
  owner : Bytes
  size : Nat
  mtime : Nat
  flag : UInt8
deriving DecidableEq, Repr

namespace Header

/-- The fields in front of the checksum. -/
def front (h : Header) : Bytes :=
  h.name ++ octal 8 h.mode ++ h.owner ++ number h.size ++ number h.mtime

/-- The fields after the checksum: the kind of entry, no link, the mark of the format. -/
def back (h : Header) : Bytes :=
  h.flag :: zeros 100 ++ Bytes.ofString "ustar  " ++ zeros 248

def sumOf (b : Bytes) : Nat := b.foldl (fun n x => n + x.toNat) 0

def checksum (h : Header) : Nat := sumOf h.front + 8 * 32 + sumOf h.back

def block (h : Header) : Bytes := h.front ++ octal 8 h.checksum ++ h.back

end Header

/-- The bytes that fill the last block of `size` bytes of content. -/
def padding (size : Nat) : Bytes := zeros ((blockSize - size % blockSize) % blockSize)

/-- A header followed by its content. -/
def record (h : Header) (content : Bytes) : Bytes := h.block ++ content ++ padding content.length

end BuildRegistry.Tar
