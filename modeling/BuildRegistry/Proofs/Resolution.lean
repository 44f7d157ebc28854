import BuildRegistry.Proofs.Lookup
import BuildRegistry.Proofs.Store.Integrity
import BuildRegistry.Proofs.Version.Selection

/-
  What selectors stand for. A store may hold any texts as versions; `publishedVersions` are those
  among the texts of a name that are versions. The latest version and the one that a requirement
  selects are the highest of those that are wanted (`AnswersHighest`); the text of a selected
  version is the stored one, so that the lookup after the selection finds its package.
-/

namespace BuildRegistry

namespace Store

/-- The stored versions of a name. A text that is no version stands for none. -/
def publishedVersions (s : Store) (name : String) : Set Version :=
  {v | ∃ p ∈ s.packages, p.name = name ∧ Version.ofString? p.version = some v}

/-- The texts of the versions of a name, highest first. -/
def rankedVersions (s : Store) (name : String) (prereleases : Bool) : List String :=
  Version.sortTexts ((s.versionsOf name).filter fun v => prereleases || !Version.isPrereleaseText v)

variable {s : Store} {name t : String} {v : Version} {prereleases : Bool}

theorem packageVersions_run (name : String) (prereleases : Bool) (s : Store) :
    packageVersions name prereleases s = .ok (s.rankedVersions name prereleases) s := rfl

theorem mem_versionsOf :
    t ∈ s.versionsOf name ↔ ∃ p ∈ s.packages, p.name = name ∧ p.version = t := by
  simp only [versionsOf, List.mem_map, List.mem_filter, decide_eq_true_eq, and_assoc]

/-- No name has a version twice. -/
theorem nodup_versionsOf (hi : Integrity s) (name : String) : (s.versionsOf name).Nodup := by
  have hkeys := nodup_key_filter (fun p => p.name = name) hi.packageVersions
  have hpairs : (s.packages.filter (·.name = name)).map (fun p => (p.name, p.version)) =
      (s.versionsOf name).map fun t => (name, t) := by
    rw [versionsOf, List.map_map]
    exact List.map_congr_left fun p hp =>
      congrArg (·, p.version) (of_decide_eq_true (List.mem_filter.1 hp).2)
  rw [hpairs] at hkeys
  exact hkeys.of_map

theorem mem_among_versionsOf : v ∈ Version.among (s.versionsOf name) ↔
    v ∈ s.publishedVersions name := by
  constructor
  · rintro ⟨t, ht, hv⟩
    obtain ⟨p, hp, hname, rfl⟩ := mem_versionsOf.1 ht
    exact ⟨p, hp, hname, hv⟩
  · rintro ⟨p, hp, hname, hv⟩
    exact ⟨p.version, mem_versionsOf.2 ⟨p, hp, hname, rfl⟩, hv⟩

theorem mem_among_rankedVersions : v ∈ Version.among (s.rankedVersions name prereleases) ↔
    v ∈ s.publishedVersions name ∧ Version.Allowed prereleases v := by
  rw [← mem_among_versionsOf, ← Version.mem_among_filter, rankedVersions,
    Version.among_congr fun _ => Version.mem_sortTexts]

theorem package?_isSome {p : Package} (hp : p ∈ s.packages) :
    ∃ q, s.package? p.name p.version = some q := by
  rw [← Option.isSome_iff_exists, package?, List.find?_isSome]
  exact ⟨p, hp, by simp⟩

/-- A published version is found by its text. -/
theorem package?_of_published (h : v ∈ s.publishedVersions name) :
    ∃ p, s.package? name v.text = some p ∧ Version.ofString? p.version = some v := by
  obtain ⟨p, hp, rfl, hv⟩ := h
  rw [Version.text_of_ofString? hv]
  obtain ⟨q, hq⟩ := package?_isSome hp
  exact ⟨q, hq, (package?_mem hq).2.2 ▸ hv⟩

end Store

namespace Registry

open Store

/-- An answer with the package of the highest published version that is wanted, or that nothing is
found where no published version is wanted. -/
def AnswersHighest (s : Store) (name : String) (wanted : Version → Prop) (what : String) :
    Except RegistryError Package → Prop
  | .ok p => p ∈ s.packages ∧ p.name = name ∧ ∃ v, Version.ofString? p.version = some v ∧
    IsGreatest {w | w ∈ s.publishedVersions name ∧ wanted w} v
  | .error e => e = .notFound what ∧ ∀ w ∈ s.publishedVersions name, ¬ wanted w

/-- An answer with the package of exactly this version, or that nothing is found where it is not
stored. -/
def AnswersExactly (s : Store) (name version : String) : Except RegistryError Package → Prop
  | .ok p => p ∈ s.packages ∧ p.name = name ∧ p.version = version
  | .error e => e = .notFound (versionEntry name version) ∧
    ∀ p ∈ s.packages, ¬ (p.name = name ∧ p.version = version)

variable {s : Store} {name selector what : String} {prereleases : Bool}

/-! ## Resolving -/

theorem use_packageVersions (name : String) (prereleases : Bool) (s : Store) :
    use .getPackageVersions (packageVersions name prereleases) ⟨s, []⟩ =
      .ok (s.rankedVersions name prereleases) ⟨s, []⟩ := by
  rw [use_calm, packageVersions_run]

theorem resolve_latest (name : String) (prereleases : Bool) (s : Store) :
    resolve name latest prereleases ⟨s, []⟩ = orElse (.notFound ("package " ++ name))
      (Version.latest? prereleases (s.rankedVersions name prereleases)) ⟨s, []⟩ := by
  unfold resolve
  rw [if_pos rfl, bind_of_ok (use_packageVersions name prereleases s)]

theorem resolve_inexact (hne : selector ≠ latest) (hv : Version.normalize? selector = none)
    (name : String) (prereleases : Bool) (s : Store) :
    resolve name selector prereleases ⟨s, []⟩ = orElse (.notFound (versionEntry name selector))
      (Version.satisfying? selector (s.rankedVersions name prereleases)) ⟨s, []⟩ := by
  unfold resolve
  rw [if_neg hne, hv]
  exact bind_of_ok (use_packageVersions name prereleases s)

theorem isHighestText_rankedVersions (s : Store) (name : String) (prereleases : Bool) :
    Version.IsHighestText {v | v ∈ s.publishedVersions name ∧ Version.Allowed prereleases v}
      (Version.latest? prereleases (s.rankedVersions name prereleases)) := by
  have h := Version.isHighestText_latest? prereleases (s.rankedVersions name prereleases)
  simpa only [mem_among_rankedVersions, and_assoc, and_self] using h

theorem isHighestText_satisfying? {r : Requirement} (hr : Requirement.ofString? selector = some r)
    (s : Store) (name : String) (prereleases : Bool) : Version.IsHighestText
      {v | v ∈ s.publishedVersions name ∧ r.matchesVersion v ∧ Version.Allowed prereleases v}
      (Version.satisfying? selector (s.rankedVersions name prereleases)) := by
  have h := Version.isHighestText_select? (r.matchesVersion ·) (s.rankedVersions name prereleases)
  have hselect : Version.satisfying? selector (s.rankedVersions name prereleases) =
      Version.select? (r.matchesVersion ·) (s.rankedVersions name prereleases) := by
    rw [Version.satisfying?, hr]
    rfl
  have hwanted : ∀ v, v ∈ Version.among (s.rankedVersions name prereleases) ∧
      r.matchesVersion v = true ↔ v ∈ s.publishedVersions name ∧ r.matchesVersion v = true ∧
        Version.Allowed prereleases v := fun v => by
    rw [mem_among_rankedVersions, and_right_comm, and_assoc]
  rw [hselect]
  simpa only [hwanted] using h

/-- A text that was picked is found. -/
theorem answersHighest_of_picked {wanted : Version → Prop} {x : Option String}
    (hx : Version.IsHighestText {v | v ∈ s.publishedVersions name ∧ wanted v} x)
    (h : resolve name selector prereleases ⟨s, []⟩ = orElse (.notFound what) x ⟨s, []⟩) :
    AnswersHighest s name wanted what (answer (package name selector prereleases) s) := by
  unfold answer package
  cases x with
  | none =>
    rw [bind_of_error h]
    exact ⟨rfl, fun v hv hwanted => Set.eq_empty_iff_forall_notMem.1 hx v ⟨hv, hwanted⟩⟩
  | some t =>
    obtain ⟨v, hv, rfl⟩ := hx
    obtain ⟨p, hp, hversion⟩ := package?_of_published hv.1.1
    rw [bind_of_ok h, need_calm, getPackage_run, hp]
    exact ⟨(package?_mem hp).1, (package?_mem hp).2.1, v, hversion, hv⟩

/-- What was picked is stored, so that the lookup of it succeeds. -/
theorem package?_isSome_of_picked {wanted : Version → Prop} {x : Option String} {t : String}
    {r : Registry} (hx : Version.IsHighestText {v | v ∈ s.publishedVersions name ∧ wanted v} x)
    (h : orElse (.notFound what) x ⟨s, []⟩ = .ok t r) : (s.package? name t).isSome := by
  rw [(orElse_ok h).1] at hx
  obtain ⟨v, hv, rfl⟩ := hx
  obtain ⟨p, hp, -⟩ := package?_of_published hv.1.1
  exact Option.isSome_of_eq_some hp

theorem answersExactly_of_normalize? {v : String} (hv : Version.normalize? selector = some v)
    (name : String) (prereleases : Bool) (s : Store) :
    AnswersExactly s name v (answer (package name selector prereleases) s) := by
  unfold answer
  rw [package_run hv]
  cases h : s.package? name v with
  | some p => exact package?_mem h
  | none =>
    refine ⟨rfl, ?_⟩
    rintro p hp ⟨rfl, rfl⟩
    obtain ⟨q, hq⟩ := package?_isSome hp
    rw [hq] at h
    cases h

/-- Whatever texts a store holds as versions, a selector stands for the highest version of a name
that it allows, or for an exact one, which may be a prerelease; any other text stands for nothing.
What a selection picks is there when it is looked up. -/
theorem resolution_sound_and_complete (s : Store) (name selector : String) (prereleases : Bool) :
    (selector = latest → AnswersHighest s name (Version.Allowed prereleases) ("package " ++ name)
      (answer (package name selector prereleases) s)) ∧
    (∀ v, Version.normalize? selector = some v →
      AnswersExactly s name v (answer (package name selector prereleases) s)) ∧
    (selector ≠ latest → Version.normalize? selector = none →
      (∀ r, Requirement.ofString? selector = some r → AnswersHighest s name
        (fun v => r.matchesVersion v ∧ Version.Allowed prereleases v) (versionEntry name selector)
        (answer (package name selector prereleases) s)) ∧
      (Requirement.ofString? selector = none → answer (package name selector prereleases) s =
        .error (.notFound (versionEntry name selector)))) ∧
    (Version.normalize? selector = none → ∀ v,
      answer (resolve name selector prereleases) s = .ok v → (s.package? name v).isSome) := by
  have hunreadable : selector ≠ latest → Version.normalize? selector = none →
      Requirement.ofString? selector = none → resolve name selector prereleases ⟨s, []⟩ =
        .error (.notFound (versionEntry name selector)) ⟨s, []⟩ := by
    intro hne hv hr
    rw [resolve_inexact hne hv, Version.satisfying?, hr]
    rfl
  refine ⟨?_, fun v hv => answersExactly_of_normalize? hv name prereleases s, fun hne hv =>
    ⟨fun r hr => ?_, fun hr => ?_⟩, fun hv v h => ?_⟩
  · rintro rfl
    exact answersHighest_of_picked (isHighestText_rankedVersions s name prereleases)
      (resolve_latest name prereleases s)
  · exact answersHighest_of_picked (isHighestText_satisfying? hr s name prereleases)
      (resolve_inexact hne hv name prereleases s)
  · unfold answer package
    rw [bind_of_error (hunreadable hne hv hr), outcome_error]
  · obtain ⟨t, hresolve⟩ := exists_of_outcome h
    by_cases hlatest : selector = latest
    · rw [hlatest, resolve_latest] at hresolve
      exact package?_isSome_of_picked (isHighestText_rankedVersions s name prereleases) hresolve
    · cases hr : Requirement.ofString? selector with
      | some r =>
        rw [resolve_inexact hlatest hv] at hresolve
        exact package?_isSome_of_picked (isHighestText_satisfying? hr s name prereleases) hresolve
      | none =>
        rw [hunreadable hlatest hv hr] at hresolve
        cases hresolve

end Registry

end BuildRegistry
