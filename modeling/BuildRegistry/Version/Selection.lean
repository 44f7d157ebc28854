import BuildRegistry.Version.Requirement

/-
  Versions as texts. A spelling may have one leading `v`; `normalize?` gives the canonical text.
  Texts that are no versions come before all that are, by their characters. Selections pick the
  highest version of a list among those allowed.
-/

namespace BuildRegistry.Version

/-- The text without one leading `v`. -/
def withoutMark (s : String) : List Char :=
  match s.toList with
  | 'v' :: rest => rest
  | cs => cs

def normalize? (s : String) : Option String := (parse? (withoutMark s)).map text

def isPrereleaseText (s : String) : Bool := (ofString? s).any isPrerelease

def compareTexts (a b : String) : Ordering :=
  match ofString? a, ofString? b with
  | some v, some w => order v w
  | some _, none => .gt
  | none, some _ => .lt
  | none, none => compare a b

/-- Highest first. -/
def sortTexts (ss : List String) : List String :=
  ss.mergeSort fun a b => (compareTexts b a).isLE

/-- The higher of two versions, the second of equal ones. -/
def later (a b : Version) : Version := if order a b = .gt then a else b

def highest? : List Version → Option Version
  | [] => none
  | v :: vs => some (vs.foldl later v)

def select? (allowed : Version → Bool) (ss : List String) : Option String :=
  (highest? ((ss.filterMap ofString?).filter allowed)).map text

/-- The highest version, prereleases only if they are asked for. -/
def latest? (prereleases : Bool) (ss : List String) : Option String :=
  select? (fun v => prereleases || !v.isPrerelease) ss

/-- The highest version that satisfies a requirement, if the text is one. -/
def satisfying? (requirement : String) (ss : List String) : Option String := do
  let r ← Requirement.ofString? requirement
  select? (r.matchesVersion ·) ss

end BuildRegistry.Version
