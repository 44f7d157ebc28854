import BuildRegistry.Naming
import BuildRegistry.Registry
import BuildRegistry.Registry.Request
import BuildRegistry.Text.Lowercase

/-
  Recording where contracts are deployed, and finding deployments again. Addresses are kept and
  looked up in lower case, and a deployment takes its chain from its package.
-/

namespace BuildRegistry

/-- What a listing of deployments is asked for. -/
structure DeploymentQuery where
  chain : Option String
  chainId : Option Int
  package : Option String
  version : Option String
  verified : Option Bool
deriving DecidableEq, Repr

def DeploymentQuery.all : DeploymentQuery := ⟨none, none, none, none, none⟩

/-- Constructor arguments and libraries as one document, if there are any of them. -/
def RecordRequest.data (r : RecordRequest) : Option String :=
  let args := r.constructorArgs.toList.map fun v => ("constructorArgs", v)
  let libraries := r.libraries.toList.map fun ls => ("libraries", Json.textMap ls)
  let fields := args ++ libraries
  if fields.isEmpty then none else some (Json.object fields).toText

/-- The deployment that a request records. -/
def RecordRequest.deployment (r : RecordRequest) (s : Supply) (p : Package) : Deployment :=
  { id := s.id 0
    packageId := p.id
    contractName := r.contractName
    chain := p.chain
    chainId := r.chainId
    address := Text.lowercase r.address
    deployer := r.deployer
    txHash := r.txHash
    blockNumber := r.blockNumber
    deploymentData := r.data
    verified := false
    verifiedAt := none
    verifiedOn := none
    createdAt := s.now }

namespace Registry

def checkTarget (chainId : Int) (address : String) : Service Unit :=
  if !Naming.isAddress address then throw (.invalidAddress address)
  else if !Naming.isChainId chainId then throw (.invalidChainId chainId)
  else pure ()

/-- A version by its canonical text, or any other text as it stands. -/
def exactVersion (version : String) : String := (Version.normalize? version).getD version

/-- The package of exactly that version. -/
def exactPackage (name version : String) : Service Package :=
  let v := exactVersion version
  need (Store.versionEntry name v) .getPackage (Store.getPackage name v)

def record (s : Supply) (r : RecordRequest) : Service Deployment := do
  checkTarget r.chainId r.address
  let p ← exactPackage r.packageName r.version
  let d := r.deployment s p
  use .recordDeployment (Store.recordDeployment d)
  return d

def deployment (chain : String) (chainId : Int) (address : String) : Service Deployment := do
  checkTarget chainId address
  let address := Text.lowercase address
  need (Store.siteEntry chain chainId address) .getDeployment
    (Store.getDeployment chain chainId address)

def filterOf (q : DeploymentQuery) : Service DeploymentFilter := do
  let f : DeploymentFilter := ⟨q.chain, q.chainId, none, none, q.verified⟩
  match q.package, q.version with
  | some name, some version => return { f with packageId := some (← exactPackage name version).id }
  | some name, none => return { f with packageName := some name }
  | none, some _ => throw (.invalidRequest "version filter requires a package")
  | none, none => return f

def deployments (q : DeploymentQuery) (p : PageRequest) : Service (Page Deployment) := do
  let f ← filterOf q
  use .listDeployments (Store.listDeployments f p)

/-- The deployments of one package version. -/
def deploymentsOf (name version : String) (p : PageRequest) : Service (Page Deployment) := do
  let pkg ← exactPackage name version
  use .listDeployments (Store.listDeployments { DeploymentFilter.all with packageId := some pkg.id } p)

def setVerification (s : Supply) (chain : String) (chainId : Int) (address : String)
    (r : StatusRequest) : Service Deployment := do
  let d ← deployment chain chainId address
  need ("deployment " ++ d.id) .updateVerificationStatus
    (Store.setVerification d.id r.verified r.verifiedOn s.now)

end Registry

end BuildRegistry
