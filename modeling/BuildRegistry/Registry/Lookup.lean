import BuildRegistry.Archive
import BuildRegistry.Registry

/-
  Looking up packages, their contracts, their build outputs and their archives. A version is
  selected exactly, by a requirement, or as the latest one.
-/

namespace BuildRegistry

/-- A contract and the known kinds among its outputs. -/
structure ContractDetails where
  contract : Contract
  artifacts : List ArtifactKind
deriving DecidableEq, Repr

namespace Registry

/-- The selector of the highest version. -/
def latest : String := "latest"

/-- The version that a selector stands for. -/
def resolve (name selector : String) (prereleases : Bool) : Service String := do
  if selector = latest then
    let vs ← use .getPackageVersions (Store.packageVersions name prereleases)
    orElse (.notFound ("package " ++ name)) (Version.latest? prereleases vs)
  else match Version.normalize? selector with
    | some exact => pure exact
    | none =>
      let vs ← use .getPackageVersions (Store.packageVersions name prereleases)
      orElse (.notFound (Store.versionEntry name selector)) (Version.satisfying? selector vs)

def package (name selector : String) (prereleases : Bool) : Service Package := do
  let v ← resolve name selector prereleases
  need (Store.versionEntry name v) .getPackage (Store.getPackage name v)

/-- The versions of a name, highest first. A name is found when it has any version at all. -/
def versions (name : String) (prereleases : Bool) : Service (List String) := do
  let vs ← use .getPackageVersions (Store.packageVersions name true)
  if vs.isEmpty then throw (.notFound ("package " ++ name))
  else return vs.filter fun v => prereleases || !Version.isPrereleaseText v

def list (f : PackageFilter) (p : PageRequest) : Service (Page PackageSummary) :=
  use .listPackages (Store.listPackages f p)

def details (c : Contract) : Service ContractDetails := do
  let as ← use .listArtifacts (Store.listArtifacts c.id)
  return ⟨c, as.filterMap (·.kind?)⟩

def inPackage (what : String) (p : Package) : String := what ++ " in " ++ p.name ++ "@" ++ p.version

def contractNamed (p : Package) (name : String) : Service Contract :=
  need (inPackage ("contract " ++ name) p) .getContract (Store.getContract p.id name)

def contracts (name selector : String) : Service (List ContractDetails) := do
  let p ← package name selector false
  (← use .listContracts (Store.listContracts p.id)).mapM details

def contract (name selector contractName : String) : Service ContractDetails := do
  let p ← package name selector false
  details (← contractNamed p contractName)

def artifact (name selector contractName : String) (k : ArtifactKind) : Service Artifact := do
  let p ← package name selector false
  let c ← contractNamed p contractName
  need (inPackage (k.name ++ " artifact of contract " ++ c.name) p) .getArtifact
    (Store.getArtifact c.id k.name)

def contents (p : Package) : Service Archive.Contents := do
  (← use .listContracts (Store.listContracts p.id)).mapM fun c => do
    return (c, ← use .listArtifacts (Store.listArtifacts c.id))

/-- A package and its archive. -/
def archive (name selector : String) : Service (Package × Bytes) := do
  let p ← package name selector false
  match Archive.build p (← contents p) with
  | .ok data => return (p, data)
  | .error fault => throw (.archiveFailed fault.message)

end Registry

end BuildRegistry
