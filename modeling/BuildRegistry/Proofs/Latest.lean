import Mathlib.Data.List.MinMax
import BuildRegistry.Proofs.PackageListing.Entries

/-
  The latest version of a name, told in four ways. The versions that a client asks for are sorted
  and then filtered, those that the store gives are filtered and then sorted, the selector `latest`
  stands for a maximum, and an entry of the listing is cut from a joined text. All of them tell of
  one ranking of the published versions (`Ranking`).
-/

namespace BuildRegistry

namespace Store

variable {s : Store} {f : PackageFilter} {x : PackageSummary} {name t : String} {prereleases : Bool}

/-! ## The ranking of the versions of a name -/

/-- The published versions of a name, highest first, without prereleases unless they are asked
for. -/
structure Ranking (s : Store) (name : String) (prereleases : Bool) (vs : List String) : Prop where
  descending : Version.Descending vs
  mem_iff : ∀ t, t ∈ vs ↔ ∃ p ∈ s.packages, p.name = name ∧ p.version = t ∧
    ∃ v, Version.ofString? t = some v ∧ Version.Allowed prereleases v

theorem mem_rankedVersions : t ∈ s.rankedVersions name prereleases ↔
    t ∈ s.versionsOf name ∧ (prereleases || !Version.isPrereleaseText t) := by
  rw [rankedVersions, Version.mem_sortTexts, List.mem_filter]

theorem ranking_rankedVersions (hi : Integrity s) (hs : WellFormed s) (name : String)
    (prereleases : Bool) : s.Ranking name prereleases (s.rankedVersions name prereleases) where
  descending := by
    refine Version.descending_sortTexts ((nodup_versionsOf hi name).filter _) fun t ht => ?_
    obtain ⟨p, hp, -, rfl⟩ := mem_versionsOf.1 (List.mem_filter.1 ht).1
    exact ofString?_of_wellFormed hs hp
  mem_iff t := by
    rw [mem_rankedVersions, mem_versionsOf]
    constructor
    · rintro ⟨⟨p, hp, hname, rfl⟩, hallowed⟩
      obtain ⟨v, hv⟩ := ofString?_of_wellFormed hs hp
      exact ⟨p, hp, hname, rfl, v, hv, (Version.allowed_text_iff hv).1 hallowed⟩
    · rintro ⟨p, hp, hname, rfl, v, hv, hallowed⟩
      exact ⟨⟨p, hp, hname, rfl⟩, (Version.allowed_text_iff hv).2 hallowed⟩

/-- Sorting first and then leaving out the prereleases gives the same. -/
theorem rankedVersions_filter (s : Store) (name : String) (prereleases : Bool) :
    (s.rankedVersions name true).filter (fun v => prereleases || !Version.isPrereleaseText v) =
      s.rankedVersions name prereleases := by
  rw [rankedVersions, rankedVersions, ← Version.sortTexts_filter, List.filter_filter]
  simp only [Bool.true_or, Bool.and_true]

/-- The maximum is the first of the ranking. -/
theorem latest?_eq_head? (hi : Integrity s) (hs : WellFormed s) (name : String)
    (prereleases : Bool) : Version.latest? prereleases (s.rankedVersions name prereleases) =
      (s.rankedVersions name prereleases).head? :=
  (ranking_rankedVersions hi hs name prereleases).descending.latest?_eq_head? fun _ hv =>
    (mem_among_rankedVersions.1 hv).2

/-! ## The entry of a name -/

theorem versions_of_unfiltered (hs : WellFormed s) (hx : x ∈ s.listing .all) :
    x.versions = s.rankedVersions x.name true := by
  have hmatching : (s.matching .all x.name).map (·.version) = s.versionsOf x.name := rfl
  rw [versions_eq_sortTexts hs hx, hmatching, rankedVersions]
  simp only [Bool.true_or, List.filter_true]

theorem latestVersion_of_unfiltered (hi : Integrity s) (hs : WellFormed s)
    (hx : x ∈ s.listing .all) : x.latestVersion = (s.rankedVersions x.name false).head? := by
  rw [latestVersion_eq hx, versions_of_unfiltered hs hx, ← latest?_eq_head? hi hs,
    ← rankedVersions_filter s x.name false]
  exact (Version.latest?_filter false _).symm

end Store

namespace Registry

open Store

variable {s : Store} {f : PackageFilter} {name : String}

/-- An answer with the package of the first version of a list, or that nothing is found where the
list is empty. -/
def AnswersFirst (s : Store) (name : String) (x : Except RegistryError Package) :
    List String → Prop
  | t :: _ => ∃ p ∈ s.packages, p.name = name ∧ p.version = t ∧ x = .ok p
  | [] => x = .error (.notFound ("package " ++ name))

theorem answersFirst_latest (hi : Integrity s) (hs : WellFormed s) (name : String)
    (prereleases : Bool) : AnswersFirst s name (answer (package name latest prereleases) s)
      (s.rankedVersions name prereleases) := by
  have hresolve := resolve_latest name prereleases s
  rw [latest?_eq_head? hi hs] at hresolve
  cases h : s.rankedVersions name prereleases with
  | nil =>
    rw [h] at hresolve
    rw [AnswersFirst, answer, package, bind_of_error hresolve, outcome_error]
  | cons t ts =>
    rw [h] at hresolve
    have ht : t ∈ s.rankedVersions name prereleases := h ▸ List.mem_cons_self
    obtain ⟨p, hp, rfl, rfl⟩ := mem_versionsOf.1 (mem_rankedVersions.1 ht).1
    obtain ⟨q, hq⟩ := package?_isSome hp
    obtain ⟨hmem, hname, hversion⟩ := package?_mem hq
    refine ⟨q, hmem, hname, hversion, ?_⟩
    rw [answer, package, bind_of_ok hresolve, need_calm, getPackage_run, hq]
    rfl

theorem answer_versions (hname : ∃ p ∈ s.packages, p.name = name) (prereleases : Bool) :
    answer (versions name prereleases) s = .ok (s.rankedVersions name prereleases) := by
  have hne : (s.rankedVersions name true).isEmpty = false := by
    obtain ⟨p, hp, hname⟩ := hname
    refine List.isEmpty_eq_false_iff.2 (List.ne_nil_of_mem (a := p.version) ?_)
    exact mem_rankedVersions.2 ⟨mem_versionsOf.2 ⟨p, hp, hname, rfl⟩, rfl⟩
  rw [answer, versions, bind_of_ok (use_packageVersions name true s), hne,
    ← rankedVersions_filter s name prereleases]
  rfl

/-- A listed name is the first after the one before it, hence on some page. -/
theorem exists_entry (hs : NamesValid s) (h : (s.selection f name).Nonempty) :
    ∃ page listed, answer (list f page) s = .ok listed ∧ ∃ x ∈ listed.data, x.name = name := by
  -- the cursor is the last name before the one that is looked for
  obtain ⟨cursor, hbefore, hbetween⟩ : ∃ cursor : Option String, (∀ c ∈ cursor, c < name) ∧
      ∀ p ∈ s.packages, p.name < name → ∃ c ∈ cursor, p.name ≤ c := by
    have hearlier : ∀ p ∈ s.packages, p.name < name →
        p.name ∈ (s.packages.map (·.name)).filter (· < name) := fun p hp hlt =>
      List.mem_filter.2 ⟨List.mem_map_of_mem hp, decide_eq_true hlt⟩
    cases hmax : ((s.packages.map (·.name)).filter (· < name)).maximum with
    | bot =>
      refine ⟨none, nofun, fun p hp hlt => ?_⟩
      have hmem := hearlier p hp hlt
      rw [List.maximum_eq_bot.1 hmax] at hmem
      cases hmem
    | coe c =>
      refine ⟨some c, fun d hd => ?_, fun p hp hlt =>
        ⟨c, rfl, List.le_maximum_of_mem (hearlier p hp hlt) hmax⟩⟩
      cases hd
      exact of_decide_eq_true (List.mem_filter.1 (List.maximum_mem hmax)).2
  have hfirst := firstNames_of_page hs f ⟨cursor, some 1⟩
  refine ⟨⟨cursor, some 1⟩, _, by rw [answer, list_run, outcome_ok], ?_⟩
  rw [← List.mem_map]
  by_contra hnot
  obtain ⟨hlength, hlater⟩ := hfirst.complete name
    ⟨h, fun c hc => Bytes.ofString_lt_iff.2 (hbefore c hc)⟩ hnot
  have hone : (_ : Int) = 1 := hlength
  obtain ⟨m, hm⟩ := List.exists_mem_of_length_pos (Int.natCast_pos.1 (hone ▸ Int.one_pos))
  obtain ⟨⟨p, hp, -, rfl⟩, hafter⟩ := hfirst.sound m hm
  obtain ⟨c, hc, hle⟩ := hbetween p hp (Bytes.ofString_lt_iff.1 (hlater _ hm))
  exact absurd (Bytes.ofString_lt_iff.1 (hafter c hc)) (not_lt.2 hle)

/-- Whatever happened before, everything that tells of the versions of a stored name tells of one
ranking: its versions as the service and as the store give them, the version that `latest` stands
for, and the entry of the name in the listing of everything. -/
theorem latest_agrees {r : Registry} (hrun : Run Anything .empty r)
    (hname : ∃ p ∈ r.store.packages, p.name = name) : ∃ vs : Bool → List String,
    (∀ prereleases, r.store.Ranking name prereleases (vs prereleases) ∧
      answer (versions name prereleases) r.store = .ok (vs prereleases) ∧
      outcome (packageVersions name prereleases r.store) = .ok (vs prereleases) ∧
      AnswersFirst r.store name (answer (package name latest prereleases) r.store)
        (vs prereleases)) ∧
    (∃ page listed, answer (list .all page) r.store = .ok listed ∧
      ∃ x ∈ listed.data, x.name = name) ∧
    ∀ page listed, answer (list .all page) r.store = .ok listed → ∀ x ∈ listed.data,
      x.name = name → x.versions = vs true ∧ x.latestVersion = (vs false).head? := by
  have hi := hrun.integrity integrity_empty
  have hs := hrun.wellFormed
  refine ⟨r.store.rankedVersions name, fun prereleases => ⟨ranking_rankedVersions hi hs _ _,
    answer_versions hname _, rfl, answersFirst_latest hi hs _ _⟩, ?_, ?_⟩
  · obtain ⟨p, hp, rfl⟩ := hname
    exact exists_entry hrun.namesValid ⟨p, hp, (lists_iff (hrun.namesValid p hp)).1 rfl, rfl⟩
  · intro page listed hlisted x hx hxname
    obtain ⟨t, hrows⟩ := exists_of_outcome hlisted
    have hmem := mem_listing_of_list hrows hx
    rw [← hxname]
    exact ⟨versions_of_unfiltered hs hmem, latestVersion_of_unfiltered hi hs hmem⟩

/-- Two versions that differ in build metadata only, and a prerelease above them. -/
theorem latest_agrees_tokens : ∃ r, Run Anything .empty r ∧
    (∃ p ∈ r.store.packages, p.name = "tokens") ∧
    ∃ vs : Bool → List String, (∀ prereleases,
        answer (versions "tokens" prereleases) r.store = .ok (vs prereleases)) ∧
      "1.0.0+a" ∈ vs false ∧ "1.0.0+b" ∈ vs false ∧ "2.0.0-rc.1" ∈ vs true ∧
      "2.0.0-rc.1" ∉ vs false := by
  let supply (n : Nat) : Supply := ⟨⟨n⟩, fun k => toString (k + n), "secret"⟩
  let token : ContractSubmission := ⟨"Token", "src/Token.sol", none, none, none, none, none⟩
  let published (n : Nat) (version : String) : Event := .request (supply n)
    (.publish "tokens" version "k1" ⟨"evm", "", none, none, [], [token]⟩)
  let r := (published 20 "1.0.0+b").apply ((published 10 "2.0.0-rc.1").apply
    ((published 0 "1.0.0+a").apply .empty))
  have hrun : Run Anything .empty r := ((Run.nil.snoc trivial).snoc trivial).snoc trivial
  have hstored : ∀ t ∈ ["1.0.0+a", "1.0.0+b", "2.0.0-rc.1"],
      ∃ p ∈ r.store.packages, p.name = "tokens" ∧ p.version = t := by decide +kernel
  have hname : ∃ p ∈ r.store.packages, p.name = "tokens" := by decide +kernel
  obtain ⟨vs, hvs, -, -⟩ := latest_agrees hrun hname
  have hmem : ∀ prereleases v, v.text ∈ ["1.0.0+a", "1.0.0+b", "2.0.0-rc.1"] →
      Version.ofString? v.text = some v →
      (v.text ∈ vs prereleases ↔ Version.Allowed prereleases v) := by
    intro prereleases v hv hread
    obtain ⟨p, hp, hname, hversion⟩ := hstored v.text hv
    rw [(hvs prereleases).1.mem_iff]
    constructor
    · rintro ⟨-, -, -, -, w, hw, hallowed⟩
      rwa [Option.some.inj (hread.symm.trans hw)]
    · exact fun hallowed => ⟨p, hp, hname, hversion, v, hread, hallowed⟩
  refine ⟨r, hrun, hname, vs, fun prereleases => (hvs prereleases).2.1, ?_, ?_, ?_, ?_⟩
  · exact (hmem false ⟨1, 0, 0, [], [['a']]⟩ (by decide +kernel) (by decide +kernel)).2 (.inr rfl)
  · exact (hmem false ⟨1, 0, 0, [], [['b']]⟩ (by decide +kernel) (by decide +kernel)).2 (.inr rfl)
  · exact (hmem true ⟨2, 0, 0, [['r', 'c'], ['1']], []⟩ (by decide +kernel)
      (by decide +kernel)).2 (.inl rfl)
  · exact fun h => absurd ((hmem false ⟨2, 0, 0, [['r', 'c'], ['1']], []⟩ (by decide +kernel)
      (by decide +kernel)).1 h) (by simp [Version.Allowed])

end Registry

end BuildRegistry
