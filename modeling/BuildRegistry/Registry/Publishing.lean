import BuildRegistry.Registry
import BuildRegistry.Registry.Request
import BuildRegistry.Naming
import BuildRegistry.Text.Lowercase
import BuildRegistry.Text.Quoted

/-
  Publishing and deleting package versions. The first publisher of a name owns it, and only the
  owner publishes or deletes versions of it; a stored version never changes.
-/

namespace BuildRegistry

/-! What is stored of a request -/

namespace ContractSubmission

/-- Outputs as they are stored, with identifiers from number `n` on. -/
def artifacts (s : Supply) (contractId : String) : (n : Nat) → List (ArtifactKind × Bytes) →
    List Artifact
  | _, [] => []
  | n, (kind, content) :: rest =>
    { id := s.id n
      contractId := contractId
      kind := kind.name
      content := content
      contentHash := Sha256.hex content
      createdAt := s.now } :: artifacts s contractId (n + 1) rest

/-- The hash of a contract's bytecode, or of nothing if it has none. -/
def bytecodeHash (as : List Artifact) : String :=
  match as.find? (·.kind? = some .bytecode) with
  | some a => a.contentHash
  | none => Sha256.hex []

/-- A contract as it is stored, with identifiers from number `n` on. -/
def bundle (s : Supply) (packageId : String) (n : Nat) (c : ContractSubmission) :
    ContractBundle :=
  let as := artifacts s (s.id n) (n + 1) c.outputs
  { contract :=
      { id := s.id n
        packageId := packageId
        name := c.contractName
        sourcePath := c.sourcePath
        contentHash := bytecodeHash as
        createdAt := s.now }
    artifacts := as }

def bundles (s : Supply) (packageId : String) : (n : Nat) → List ContractSubmission →
    List ContractBundle
  | _, [] => []
  | n, c :: rest =>
    bundle s packageId n c :: bundles s packageId (n + 1 + c.outputs.length) rest

end ContractSubmission

namespace PublishRequest

def package (r : PublishRequest) (s : Supply) (name version ownerId : String) : Package :=
  { id := s.id 0
    name := name
    version := version
    chain := Text.lowercase (Text.trim r.chain)
    builder := Text.trim r.builder
    compilerVersion := r.compilerVersion
    compilerSettings := r.compilerSettings.map Json.toText
    metadata := (Json.textMap r.metadata).toText
    ownerId := ownerId
    createdAt := s.now }

def bundle (r : PublishRequest) (s : Supply) (name version ownerId : String) : Bundle :=
  ⟨r.package s name version ownerId, ContractSubmission.bundles s (s.id 0) 1 r.contracts⟩

end PublishRequest

namespace Registry

/-! Checks -/

/-- What is wrong with contracts that come after those already `seen`, known by their names and
source paths. -/
def contractsFault? (seen : List (String × String)) : List ContractSubmission →
    Option RegistryError
  | [] => none
  | c :: rest =>
    if !Naming.isContractName c.contractName then
      some (.invalidRequest ("invalid contract name: " ++ Text.quoted c.name))
    else if seen.contains (c.contractName, c.sourcePath) then
      some (.invalidRequest
        ("contract " ++ c.contractName ++ " (" ++ c.sourcePath ++ ") is listed more than once"))
    else contractsFault? ((c.contractName, c.sourcePath) :: seen) rest

def checkContracts (cs : List ContractSubmission) : Service Unit :=
  if cs.isEmpty then throw (.invalidRequest "a package must contain at least one contract")
  else match contractsFault? [] cs with
    | some e => throw e
    | none => pure ()

def checkOwner (name ownerId : String) : Service Unit := do
  match ← use .getPackageOwner (Store.packageOwner name) with
  | some owner => if owner ≠ ownerId then throw (.forbidden name) else pure ()
  | none => pure ()

/-! Services -/

/-- How a failed publication is reported: another one of the same version came first. -/
def publishFailure (name version : String) : StoreError → RegistryError
  | .alreadyExists _ => .versionExists name version
  | e => .ofStore e

def publish (s : Supply) (name version ownerId : String) (r : PublishRequest) :
    Service Package := do
  if !Naming.isPackageName name then throw (.invalidName name)
  let v ← orElse (.invalidVersion version) (Version.normalize? version)
  checkContracts r.contracts
  checkOwner name ownerId
  if ← use .packageExists (Store.packageExists name v) then throw (.versionExists name v)
  let b := r.bundle s name v ownerId
  failingAs (publishFailure name v) (call .publish (Store.publish b))
  let _ ← attempt .setPackageOwner (Store.claimName name ownerId s.now)
  return b.package

def delete (name version ownerId : String) : Service Unit := do
  let v ← orElse (.invalidVersion version) (Version.normalize? version)
  checkOwner name ownerId
  let what := Store.versionEntry name v
  let p ← need what .getPackage (Store.getPackage name v)
  need what .deletePackage (Store.deletePackage p.id)

end Registry

end BuildRegistry
