import BuildRegistry.Store.Packages

/-
  Contracts and their build outputs, and the publication of a whole version at once. A contract is
  known by its id, and within its package by name and source path; an output is known by its id,
  and within its contract by its kind, which a later one of the same kind overwrites.
-/

namespace BuildRegistry

namespace Contract

/-- Whether two contracts may not be stored together. -/
def clashes (c d : Contract) : Bool :=
  c.id = d.id || (c.packageId = d.packageId && c.name = d.name && c.sourcePath = d.sourcePath)

def compare (c d : Contract) : Ordering :=
  (Ord.compare c.name d.name).then (Ord.compare c.sourcePath d.sourcePath)

end Contract

namespace Artifact

/-- The output with the content of another one. -/
def overwrittenBy (old new : Artifact) : Artifact :=
  { old with content := new.content, contentHash := new.contentHash }

/-- Whether two outputs stand in the same place of the same contract. -/
def sameSlot (a b : Artifact) : Bool := a.contractId = b.contractId && a.kind = b.kind

end Artifact

/-- A contract with its outputs. -/
structure ContractBundle where
  contract : Contract
  artifacts : List Artifact
deriving DecidableEq, Repr

/-- A package version with everything in it. -/
structure Bundle where
  package : Package
  contracts : List ContractBundle
deriving DecidableEq, Repr

namespace Store

def contractEntry (name sourcePath : String) : String :=
  "contract " ++ name ++ " (" ++ sourcePath ++ ")"

def insertContract (c : Contract) : StoreM Unit := do
  let s ← get
  if s.contracts.any c.clashes then fail (contractEntry c.name c.sourcePath) .duplicateKey
  else if (s.packageById? c.packageId).isNone then
    fail (contractEntry c.name c.sourcePath) .danglingReference
  else set { s with contracts := s.contracts ++ [c] }

/-- The contracts of a package by name and source path. -/
def contractsOf (s : Store) (packageId : String) : List Contract :=
  inOrder Contract.compare (s.contracts.filter (·.packageId = packageId))

/-- The contract of that name with the least source path. -/
def contract? (s : Store) (packageId name : String) : Option Contract :=
  (s.contractsOf packageId).find? (·.name = name)

def getContract (packageId name : String) : StoreM Contract := do
  found ("contract " ++ name) ((← get).contract? packageId name)

def listContracts (packageId : String) : StoreM (List Contract) := do
  return (← get).contractsOf packageId

def artifact? (s : Store) (contractId kind : String) : Option Artifact :=
  s.artifacts.find? fun a => a.contractId = contractId && a.kind = kind

def contractById? (s : Store) (id : String) : Option Contract := s.contracts.find? (·.id = id)

def artifactEntry (a : Artifact) : String := "artifact " ++ a.kind ++ " of contract " ++ a.contractId

/-- The state in which the output in the slot of `a` has its content. -/
def overwriting (s : Store) (a : Artifact) : Store :=
  { s with
    artifacts := s.artifacts.map fun b => if b.sameSlot a then b.overwrittenBy a else b }

/-- Adds an output, or overwrites the content of the one with its contract and kind. -/
def putArtifact (a : Artifact) : StoreM Unit := do
  let s ← get
  if (s.artifact? a.contractId a.kind).isSome then
    set (s.overwriting a)
  else if s.artifacts.any (·.id = a.id) then fail (artifactEntry a) .duplicateKey
  else if (s.contractById? a.contractId).isNone then fail (artifactEntry a) .danglingReference
  else set { s with artifacts := s.artifacts ++ [a] }

def getArtifact (contractId kind : String) : StoreM Artifact := do
  found ("artifact " ++ kind) ((← get).artifact? contractId kind)

/-- Adds or overwrites an output and answers it as it is then stored. -/
def storeArtifact (a : Artifact) : StoreM Artifact := do
  putArtifact a
  getArtifact a.contractId a.kind

/-- Rows by creation time, as it is written, and then by id. -/
def compareByAge (t u : Time) (id id' : String) : Ordering :=
  (Ord.compare t.stored u.stored).then (Ord.compare id id')

/-- The oldest output with that content hash. -/
def artifactByHash? (s : Store) (hash : String) : Option Artifact :=
  least? (fun a b => compareByAge a.createdAt b.createdAt a.id b.id)
    (s.artifacts.filter (·.contentHash = hash))

def getArtifactByHash (hash : String) : StoreM Artifact := do
  found ("artifact " ++ hash) ((← get).artifactByHash? hash)

/-- The outputs of a contract by the names of their kinds. -/
def artifactsOf (s : Store) (contractId : String) : List Artifact :=
  inOrder (fun a b => Ord.compare a.kind b.kind) (s.artifacts.filter (·.contractId = contractId))

def listArtifacts (contractId : String) : StoreM (List Artifact) := do
  return (← get).artifactsOf contractId

def insertContractBundle (c : ContractBundle) : StoreM Unit := do
  insertContract c.contract
  c.artifacts.forM putArtifact

def insertBundle (b : Bundle) : StoreM Unit := do
  insertPackage b.package
  b.contracts.forM insertContractBundle

/-- Writes a whole version or nothing of it. -/
def publish (b : Bundle) : StoreM Unit := transaction (insertBundle b)

end Store

end BuildRegistry
