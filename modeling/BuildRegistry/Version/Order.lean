import BuildRegistry.Version

/-
  The order of versions: by the three numbers, then a release above its prereleases, then
  prerelease identifiers, then build identifiers. Numeric identifiers come before others; a
  shorter list comes before its extensions. Numeric prerelease identifiers have no leading zeros,
  so that fewer digits mean a smaller number; in build identifiers equal numbers are ordered by
  the count of leading zeros.
-/

namespace BuildRegistry.Version

/-- Orders numeric identifiers by `numeric`, other ones by their characters, and the former
before the latter. -/
def compareIdentifier (numeric : Identifier → Identifier → Ordering) (a b : Identifier) :
    Ordering :=
  match isNumeric a, isNumeric b with
  | true, true => numeric a b
  | true, false => .lt
  | false, true => .gt
  | false, false => compare a b

def comparePreNumber (a b : Identifier) : Ordering :=
  (compare a.length b.length).then (compare a b)

def withoutZeros (i : Identifier) : Identifier := i.dropWhile (· = '0')

def compareBuildNumber (a b : Identifier) : Ordering :=
  (compare (withoutZeros a).length (withoutZeros b).length).then
    ((compare (withoutZeros a) (withoutZeros b)).then (compare a.length b.length))

/-- No prerelease at all comes last. -/
def comparePre : List Identifier → List Identifier → Ordering
  | [], [] => .eq
  | [], _ :: _ => .gt
  | _ :: _, [] => .lt
  | a, b => List.compareLex (compareIdentifier comparePreNumber) a b

def compareBuild : List Identifier → List Identifier → Ordering :=
  List.compareLex (compareIdentifier compareBuildNumber)

def order (a b : Version) : Ordering :=
  (compare a.major b.major).then <| (compare a.minor b.minor).then <|
    (compare a.patch b.patch).then <| (comparePre a.pre b.pre).then (compareBuild a.build b.build)

instance : Ord Version := ⟨order⟩

end BuildRegistry.Version
