import BuildRegistry.Store

/-
  Package versions and the owners of package names. A package is known by its id, and by its name
  and version together; a name keeps the first owner it was given.
-/

namespace BuildRegistry

/-- Whether two packages may not be stored together. -/
def Package.clashes (p q : Package) : Bool :=
  p.id = q.id || (p.name = q.name && p.version = q.version)

namespace Store

def versionEntry (name version : String) : String := "package " ++ name ++ "@" ++ version

def package? (s : Store) (name version : String) : Option Package :=
  s.packages.find? fun p => p.name = name && p.version = version

def packageById? (s : Store) (id : String) : Option Package := s.packages.find? (·.id = id)

def owner? (s : Store) (name : String) : Option String :=
  (s.owners.find? (·.name = name)).map (·.ownerId)

/-- The versions of a name as they were written. -/
def versionsOf (s : Store) (name : String) : List String :=
  (s.packages.filter (·.name = name)).map (·.version)

def insertPackage (p : Package) : StoreM Unit := do
  let s ← get
  if s.packages.any p.clashes then fail (versionEntry p.name p.version) .duplicateKey
  else set { s with packages := s.packages ++ [p] }

def getPackage (name version : String) : StoreM Package := do
  found (versionEntry name version) ((← get).package? name version)

def getPackageById (id : String) : StoreM Package := do
  found ("package " ++ id) ((← get).packageById? id)

def packageExists (name version : String) : StoreM Bool := do
  return ((← get).package? name version).isSome

/-- The versions of a name, highest first, prereleases only if they are asked for. -/
def packageVersions (name : String) (prereleases : Bool) : StoreM (List String) := do
  let versions := (← get).versionsOf name
  return Version.sortTexts (versions.filter fun v => prereleases || !Version.isPrereleaseText v)

def packageOwner (name : String) : StoreM (Option String) := do
  return (← get).owner? name

/-- Gives a name its owner unless it has one, and tells whether it did. -/
def claimName (name ownerId : String) (now : Time) : StoreM Bool := do
  let s ← get
  let owner : Owner := ⟨name, ownerId, now⟩
  if (s.owner? name).isSome then return false
  else
    set { s with owners := s.owners ++ [owner] }
    return true

/-- The state without a package version and all that belongs to it. -/
def withoutPackage (s : Store) (id : String) : Store :=
  let gone := (s.contracts.filter (·.packageId = id)).map (·.id)
  { s with
    packages := s.packages.filter (·.id ≠ id)
    contracts := s.contracts.filter (·.packageId ≠ id)
    artifacts := s.artifacts.filter fun a => !gone.contains a.contractId
    deployments := s.deployments.filter (·.packageId ≠ id) }

def deletePackage (id : String) : StoreM Unit := do
  let s ← get
  if (s.packageById? id).isSome then set (s.withoutPackage id)
  else fail ("package " ++ id) .noRow

end Store

end BuildRegistry
