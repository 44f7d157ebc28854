import BuildRegistry.Records
import BuildRegistry.Json.Printer
import BuildRegistry.Tar

/-
  The archive of a package version: a manifest, then a directory for each contract with a file for
  each of its outputs of a known kind, all under one root.
-/

namespace BuildRegistry.Archive

/-- A contract and its outputs, in the order in which they are archived. -/
abbrev Contents := List (Contract × List Artifact)

def root (p : Package) : String := p.name ++ "-" ++ p.version

def manifest (p : Package) (cs : Contents) : Json :=
  .obj [("name", .str p.name), ("version", .str p.version), ("chain", .str p.chain),
    ("builder", .str p.builder), ("contracts", .texts (cs.map (·.1.name))),
    ("createdAt", .str p.createdAt.rfc3339)]

def mtime (p : Package) : Nat := p.createdAt.seconds.toNat

def entry (p : Package) (path : String) (content : Bytes) : Tar.Entry :=
  ⟨Bytes.ofString (root p ++ "/" ++ path), 0o644, mtime p, content⟩

def artifactFile? (p : Package) (c : Contract) (a : Artifact) : Option Tar.Entry :=
  a.kind?.map fun k => entry p (c.name ++ "/" ++ k.fileName) a.content

def manifestEntry (p : Package) (cs : Contents) : Tar.Entry :=
  entry p "manifest.json" (Bytes.ofString (manifest p cs).prettyText)

def entries (p : Package) (cs : Contents) : List Tar.Entry :=
  manifestEntry p cs :: cs.flatMap fun (c, as) => as.filterMap (artifactFile? p c)

def build (p : Package) (cs : Contents) : Except Tar.Fault Bytes := Tar.write (entries p cs)

end BuildRegistry.Archive
