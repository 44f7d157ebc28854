import BuildRegistry.Paging
import BuildRegistry.Store.Contracts
import BuildRegistry.Text.Fields

/-
  Deployments, known by their ids, and by chain, chain id and address together. They are listed by
  age; the position of one in the listing is its creation time in microseconds and its id, and
  stays valid when the deployment is gone.
-/

namespace BuildRegistry

/-- A place in the listing of deployments. -/
structure Position where
  createdAt : Time
  id : String
deriving DecidableEq, Repr

namespace Position

def ofDeployment (d : Deployment) : Position := ⟨d.createdAt, d.id⟩

/-- The place as a cursor: microseconds, an underscore, the id. -/
def cursor (p : Position) : String :=
  String.ofList (Decimal.intText p.createdAt.micros ++ '_' :: p.id.toList)

def ofCursor? (s : String) : Option Position := do
  let (micros, id) ← Text.cutAt '_' s.toList
  if id.isEmpty then none
  else
    let n ← Decimal.int64? micros
    let t ← Time.ofMicros? n
    return ⟨t, String.ofList id⟩

def compare (p q : Position) : Ordering := Store.compareByAge p.createdAt q.createdAt p.id q.id

end Position

namespace Deployment

def position (d : Deployment) : Position := Position.ofDeployment d

def cursor (d : Deployment) : String := d.position.cursor

def isAt (d : Deployment) (chain : String) (chainId : Int) (address : String) : Bool :=
  d.chain = chain && d.chainId = chainId && d.address = address

/-- Whether two deployments may not be stored together. -/
def clashes (d e : Deployment) : Bool := d.id = e.id || e.isAt d.chain d.chainId d.address

/-- The deployment with another verification status. The time is kept only while it is
verified. -/
def marked (d : Deployment) (verified : Bool) (verifiedOn : Option String) (now : Time) :
    Deployment :=
  { d with
    verified := verified
    verifiedAt := if verified then some now else none
    verifiedOn := verifiedOn }

end Deployment

/-- What the deployments of a listing have in common; a field left out lets every one through. -/
structure DeploymentFilter where
  chain : Option String
  chainId : Option Int
  packageId : Option String
  packageName : Option String
  verified : Option Bool
deriving DecidableEq, Repr

def DeploymentFilter.all : DeploymentFilter := ⟨none, none, none, none, none⟩

namespace Store

def siteEntry (chain : String) (chainId : Int) (address : String) : String :=
  "deployment " ++ chain ++ ":" ++ toString chainId ++ ":" ++ address

def deployment? (s : Store) (chain : String) (chainId : Int) (address : String) :
    Option Deployment :=
  s.deployments.find? fun d => d.isAt chain chainId address

def deploymentById? (s : Store) (id : String) : Option Deployment :=
  s.deployments.find? (·.id = id)

def recordDeployment (d : Deployment) : StoreM Unit := do
  let s ← get
  let entry := siteEntry d.chain d.chainId d.address
  if s.deployments.any d.clashes then fail entry .duplicateKey
  else if (s.packageById? d.packageId).isNone then fail entry .danglingReference
  else set { s with deployments := s.deployments ++ [d] }

def getDeployment (chain : String) (chainId : Int) (address : String) : StoreM Deployment := do
  found (siteEntry chain chainId address) ((← get).deployment? chain chainId address)

/-- Whether a field that may be left out has a value. -/
def agrees {α : Type} [DecidableEq α] (wanted : Option α) (value : α) : Bool :=
  wanted.all (· = value)

/-- Whether a filter lets a deployment through. -/
def admits (s : Store) (f : DeploymentFilter) (d : Deployment) : Bool :=
  agrees f.chain d.chain && agrees f.chainId d.chainId && agrees f.packageId d.packageId
    && f.packageName.all (fun name => s.packages.any fun p => p.name = name && p.id = d.packageId)
    && agrees f.verified d.verified

/-- The deployments that a filter lets through, oldest first. -/
def deploymentsOf (s : Store) (f : DeploymentFilter) : List Deployment :=
  inOrder (fun d e => d.position.compare e.position) (s.deployments.filter (s.admits f))

/-- Where a page of deployments starts. -/
def startOf (p : PageRequest) : StoreM (Option Position) :=
  match p.after with
  | none => pure none
  | some cursor =>
    match Position.ofCursor? cursor with
    | some q => pure (some q)
    | none => throw (.invalidCursor cursor)

def listDeployments (f : DeploymentFilter) (p : PageRequest) : StoreM (Page Deployment) := do
  let start ← startOf p
  let rows := ((← get).deploymentsOf f).filter fun d =>
    start.all fun q => q.compare d.position = .lt
  return Page.ofRows p.pageSize Deployment.cursor rows

def updateDeployment (s : Store) (id : String) (change : Deployment → Deployment) : Store :=
  { s with deployments := s.deployments.map fun d => if d.id = id then change d else d }

def setVerification (id : String) (verified : Bool) (verifiedOn : Option String) (now : Time) :
    StoreM Deployment := do
  let s ← get
  let d ← found ("deployment " ++ id) (s.deploymentById? id)
  set (s.updateDeployment id (·.marked verified verifiedOn now))
  return d.marked verified verifiedOn now

end Store

end BuildRegistry
