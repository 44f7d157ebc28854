import BuildRegistry.Paging
import BuildRegistry.Store.Contracts
import BuildRegistry.Text.Lowercase

/-
  The listing of packages: one entry for each name that has a version which the filter lets
  through, by name, made of those versions only.
-/

namespace BuildRegistry

/-- What a listed version has to satisfy; a field left out lets every one through. `search` is
part of the name, and `contract` the name of a contract but for the case of ASCII letters. -/
structure PackageFilter where
  search : Option String
  chain : Option String
  builder : Option String
  version : Option String
  contract : Option String
deriving DecidableEq, Repr

def PackageFilter.all : PackageFilter := ⟨none, none, none, none, none⟩

namespace Store

def hasContract (s : Store) (packageId name : String) : Bool :=
  s.contracts.any fun c =>
    c.packageId = packageId && Text.asciiLowercase c.name = Text.asciiLowercase name

def nameContains (search name : String) : Bool :=
  Text.occursIn (Text.lowercase search).toList (Text.asciiLowercase name).toList

def lists (s : Store) (f : PackageFilter) (p : Package) : Bool :=
  f.search.all (nameContains · p.name) && f.chain.all (· = p.chain)
    && f.builder.all (· = p.builder) && f.version.all (· = p.version)
    && f.contract.all (s.hasContract p.id ·)

/-- The texts in ascending order, each once. -/
def distinct (ss : List String) : List String :=
  (PackageGroup.ascending ss).eraseDups

def commaJoined (ss : List String) : String :=
  String.ofList (Text.joinWith ',' (ss.map String.toList))

/-- The later of two times as they are written. -/
def laterStored (t u : Time) : Time := if compare t.stored u.stored = .lt then u else t

/-- The group of a name over its listed versions. -/
def group (name : String) (ps : List Package) : PackageGroup :=
  { name := name
    chains := commaJoined (distinct (ps.map (·.chain)))
    builders := commaJoined (distinct (ps.map (·.builder)))
    versions := commaJoined (ps.map (·.version))
    updatedAt := match ps with
      | [] => ⟨0⟩
      | p :: rest => rest.foldl (fun t q => laterStored t q.createdAt) p.createdAt }

/-- The groups that a filter lets through, after a name, in the order of their names. -/
def groupsOf (s : Store) (f : PackageFilter) (after : Option String) : List PackageGroup :=
  let rows := s.packages.filter fun p => after.all (· < p.name) && s.lists f p
  (distinct (rows.map (·.name))).map fun name => group name (rows.filter (·.name = name))

def listPackages (f : PackageFilter) (p : PageRequest) : StoreM (Page PackageSummary) := do
  let groups := (← get).groupsOf f p.after
  return Page.ofRows p.pageSize (·.name) (groups.map PackageGroup.summary)

end Store

end BuildRegistry
