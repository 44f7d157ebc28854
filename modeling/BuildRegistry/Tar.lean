import BuildRegistry.Tar.Header

/-
  Archives of files, written and read. A path that does not fit into a header is first written in
  full as the content of a record of its own. Two blocks of zeros end an archive.
-/

namespace BuildRegistry.Tar

structure Entry where
  path : Bytes
  mode : Nat
  mtime : Nat
  content : Bytes
deriving DecidableEq, Repr

/-! Writing -/

/-- Why an entry could not be written, and the part of its name that was copied. -/
structure Fault where
  reason : NameFault
  copied : Bytes
deriving DecidableEq, Repr

def Fault.message (f : Fault) : String :=
  f.reason.message ++ " when setting path for " ++ Bytes.toStringLossy f.copied

def longPathFlag : UInt8 := 0x4C

def longPathName : Bytes := Bytes.ofString "././@LongLink"

/-- The record that holds a path in full, with a zero byte after it. -/
def longPathRecord (path : Bytes) : Bytes :=
  let content := path ++ [0]
  record
    { name := longPathName ++ zeros (nameSize - longPathName.length)
      mode := 0o644
      owner := octal 8 0 ++ octal 8 0
      size := content.length
      mtime := 0
      flag := longPathFlag }
    content

def fileRecord (name : NameField) (e : Entry) : Bytes :=
  record
    { name := name.bytes
      mode := e.mode
      owner := zeros 16
      size := e.content.length
      mtime := e.mtime
      flag := 0 }
    e.content

def continues (b : UInt8) : Bool := 0x80 ≤ b && b < 0xC0

/-- The last place up to `n` where a character of UTF-8 text starts. -/
def boundary (b : Bytes) : (n : Nat) → Nat
  | 0 => 0
  | n + 1 => if b[n + 1]?.any continues then boundary b n else n + 1

/-- As much of a path as a name field can hold. -/
def abridged (path : Bytes) : Bytes := path.take (boundary path nameSize)

/-- The records of one entry. -/
def entryRecords (e : Entry) : Except Fault Bytes :=
  match copyPath false e.path .blank with
  | .ok _ name => .ok (fileRecord name e)
  | .error reason name =>
    if e.path.length < nameSize then .error ⟨reason, name.name⟩
    else match copyPath true (abridged e.path) name with
      | .ok _ name => .ok (longPathRecord e.path ++ fileRecord name e)
      | .error reason name => .error ⟨reason, name.name⟩

def ending : Bytes := zeros (2 * blockSize)

def write (es : List Entry) : Except Fault Bytes := do
  return (← es.mapM entryRecords).flatten ++ ending

/-! Reading -/

def field (block : Bytes) (start width : Nat) : Bytes := (block.drop start).take width

def isOctalDigit (b : UInt8) : Bool := 48 ≤ b && b < 56

def octalValue (b : Bytes) : Nat :=
  (b.takeWhile isOctalDigit).foldl (fun n d => 8 * n + (d.toNat - 48)) 0

def bigEndianValue (b : Bytes) : Nat := b.foldl (fun n d => 256 * n + d.toNat) 0

def numberValue (b : Bytes) : Nat :=
  if b.head?.any (0x80 ≤ ·) then bigEndianValue (b.drop 4) else octalValue b

/-- The size of content with its padding. -/
def paddedSize (size : Nat) : Nat := size + (padding size).length

def withoutFinalZero (b : Bytes) : Bytes := if b.getLast? = some 0 then b.dropLast else b

/-- The entries of an archive of at most `fuel` records. `full` is the path of the next one if it
was written in full. -/
def entriesFrom : (fuel : Nat) → (full : Option Bytes) → Bytes → List Entry
  | 0, _, _ => []
  | n + 1, full, s =>
    let block := s.take blockSize
    if block.length < blockSize || block.all (· = 0) then []
    else
      let size := numberValue (field block 124 12)
      let content := (s.drop blockSize).take size
      let rest := s.drop (blockSize + paddedSize size)
      if field block 156 1 = [longPathFlag] then
        entriesFrom n (some (withoutFinalZero content)) rest
      else
        { path := full.getD ((field block 0 nameSize).takeWhile (· ≠ 0))
          mode := octalValue (field block 100 8)
          mtime := numberValue (field block 136 12)
          content := content } :: entriesFrom n none rest

def entries (archive : Bytes) : List Entry :=
  entriesFrom (archive.length / blockSize) none archive

end BuildRegistry.Tar
