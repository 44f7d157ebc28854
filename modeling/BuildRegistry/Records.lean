import BuildRegistry.Bytes
import BuildRegistry.Json.Shape
import BuildRegistry.Time
import BuildRegistry.Version.Selection

/-
  What the registry keeps: package versions, the owners of package names, the contracts of a
  version, the build outputs of a contract, deployments, and API keys. Times are creation times
  unless their names say otherwise.
-/

namespace BuildRegistry

structure Package where
  id : String
  name : String
  version : String
  chain : String
  builder : String
  compilerVersion : Option String
  compilerSettings : Option String
  metadata : String
  ownerId : String
  createdAt : Time
deriving DecidableEq, Repr

structure Owner where
  name : String
  ownerId : String
  createdAt : Time
deriving DecidableEq, Repr

structure Contract where
  id : String
  packageId : String
  name : String
  sourcePath : String
  contentHash : String
  createdAt : Time
deriving DecidableEq, Repr

/-- One build output of a contract. `kind` is stored as text and may be none of the known ones. -/
structure Artifact where
  id : String
  contractId : String
  kind : String
  content : Bytes
  contentHash : String
  createdAt : Time
deriving DecidableEq, Repr

structure Deployment where
  id : String
  packageId : String
  contractName : String
  chain : String
  chainId : Int
  address : String
  deployer : Option String
  txHash : Option String
  blockNumber : Option Int
  deploymentData : Option String
  verified : Bool
  verifiedAt : Option Time
  verifiedOn : Option String
  createdAt : Time
deriving DecidableEq, Repr

/-- A key is known by the hash of its secret. -/
structure ApiKey where
  id : String
  label : String
  hash : Bytes
  createdAt : Time
  lastUsedAt : Option Time
  revokedAt : Option Time
deriving DecidableEq, Repr

def ApiKey.isRevoked (k : ApiKey) : Bool := k.revokedAt.isSome

/-- The kinds of build output. -/
inductive ArtifactKind where
  | abi
  | bytecode
  | deployedBytecode
  | standardJsonInput
  | storageLayout
deriving DecidableEq, Repr

namespace ArtifactKind

def all : List ArtifactKind := [abi, bytecode, deployedBytecode, standardJsonInput, storageLayout]

def name : ArtifactKind → String
  | abi => "abi"
  | bytecode => "bytecode"
  | deployedBytecode => "deployed-bytecode"
  | standardJsonInput => "standard-json-input"
  | storageLayout => "storage-layout"

/-- Bytecode is kept as text of digits, everything else as a document. -/
def isJson : ArtifactKind → Bool
  | bytecode | deployedBytecode => false
  | _ => true

/-- The name of the file that holds an output in an archive. -/
def fileName (k : ArtifactKind) : String := k.name ++ if k.isJson then ".json" else ".hex"

def ofName? (s : String) : Option ArtifactKind := all.find? (·.name = s)

theorem ofName?_name (k : ArtifactKind) : ofName? k.name = some k := by
  cases k <;> decide

end ArtifactKind

def Artifact.kind? (a : Artifact) : Option ArtifactKind := ArtifactKind.ofName? a.kind

namespace Package

/-- The compiler settings as a document, if they are stored and are one. -/
def settings? (p : Package) : Option Json := p.compilerSettings.bind Json.parse?

/-- The metadata as entries in ascending order; none if the stored text is no object of texts. -/
def metadataEntries (p : Package) : List (String × String) :=
  ((Json.whole Json.asTextMap p.metadata.toList).toOption).getD []

end Package

def Deployment.data? (d : Deployment) : Option Json := d.deploymentData.bind Json.parse?

/-- One entry of a package listing: the versions of a name that a filter lets through. -/
structure PackageSummary where
  name : String
  chains : List String
  builders : List String
  versions : List String
  latestVersion : Option String
  updatedAt : Time
deriving DecidableEq, Repr

/-- The columns of a package listing as they come from the grouped rows, lists joined by
commas. -/
structure PackageGroup where
  name : String
  chains : String
  builders : String
  versions : String
  updatedAt : Time

namespace PackageGroup

/-- The items between commas, without empty ones. -/
def items (joined : String) : List String :=
  ((Text.splitAt ',' joined.toList).filter (!·.isEmpty)).map String.ofList

def ascending (ss : List String) : List String := ss.mergeSort fun a b => (compare a b).isLE

def summary (g : PackageGroup) : PackageSummary :=
  let versions := Version.sortTexts (items g.versions)
  { name := g.name
    chains := ascending (items g.chains)
    builders := ascending (items g.builders)
    versions := versions
    latestVersion := Version.latest? false versions
    updatedAt := g.updatedAt }

end PackageGroup

end BuildRegistry
