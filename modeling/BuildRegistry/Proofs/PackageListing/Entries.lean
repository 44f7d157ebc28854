import BuildRegistry.Proofs.Bytes.Order
import BuildRegistry.Proofs.Calendar
import BuildRegistry.Proofs.PackageListing.Tags
import BuildRegistry.Proofs.Resolution
import BuildRegistry.Proofs.Validity

/-
  What a page of the package listing holds, said without the grouping and joining that make it. A
  page has as many as its limit says of the names after its cursor that have a version which the
  filter asks for, the first of them (`FirstNames`), and the entry of a name tells of exactly these
  versions of it (`Describes`). Canonical versions have no commas, so that they are cut where they were joined;
  the order of the moments is that of the texts that are compared in the years 0 to 9999.
-/

namespace BuildRegistry

theorem PackageGroup.items_commaJoined_of_plain {ss : List String}
    (h : ∀ s ∈ ss, ',' ∉ s.toList ∧ s ≠ "") : items (Store.commaJoined ss) = ss := by
  have hitem : ∀ s ∈ ss, items s = [s] := fun s hs => by
    rw [items_of_not_mem (h s hs).1, List.filter_cons_of_pos (by simpa using (h s hs).2),
      List.filter_nil]
  rw [items_commaJoined, List.flatMap_congr hitem, List.flatMap_singleton']

namespace Store

variable {s : Store} {f : PackageFilter} {page : PageRequest} {p : Package} {x : PackageSummary}
  {n name : String}

theorem mem_matching (hs : NamesValid s) : p ∈ s.matching f name ↔ p ∈ s.selection f name := by
  rw [matching, List.mem_filter, Bool.and_eq_true, decide_eq_true_eq]
  exact and_congr_right fun hp => and_congr_left fun _ => lists_iff (hs p hp)

/-! ## Which names are on a page -/

/-- The first of some names in the order of their bytes, at most `size` of them. -/
structure FirstNames (size : Int) (wanted : String → Prop) (names : List String) : Prop where
  ascending : names.Pairwise fun m n => Bytes.ofString m < Bytes.ofString n
  sound : ∀ n ∈ names, wanted n
  bounded : (names.length : Int) ≤ size
  complete : ∀ n, wanted n → n ∉ names →
    (names.length : Int) = size ∧ ∀ m ∈ names, Bytes.ofString m < Bytes.ofString n

theorem firstNames_take {names : List String} {wanted : String → Prop} (hasc : Ascending id names)
    (hmem : ∀ n, n ∈ names ↔ wanted n) (size : Nat) : FirstNames size wanted (names.take size) := by
  have hlater : ∀ n ∈ names.drop size, ∀ m ∈ names.take size,
      Bytes.ofString m < Bytes.ofString n := by
    intro n hn m hm
    rw [Ascending, ← List.take_append_drop size names, List.pairwise_append] at hasc
    exact Bytes.ofString_lt_iff.2 (hasc.2.2 m hm n hn)
  constructor
  · exact (hasc.sublist (List.take_sublist _ _)).imp Bytes.ofString_lt_iff.2
  · exact fun n hn => (hmem n).1 (List.mem_of_mem_take hn)
  · exact Int.ofNat_le.2 (List.length_take_le _ _)
  · intro n hn hnot
    have hdrop : n ∈ names.drop size := by
      rw [← hmem, ← List.take_append_drop size names, List.mem_append] at hn
      exact hn.resolve_left hnot
    have hlength := List.length_pos_of_mem hdrop
    rw [List.length_drop] at hlength
    refine ⟨?_, hlater n hdrop⟩
    rw [List.length_take]
    omega

/-- A name comes after the cursor of a request if its bytes do; nothing comes before the start. -/
theorem after_all_iff (hne : n ≠ "") : page.after.all (· < n) ↔
    ∀ c ∈ page.cursor, Bytes.ofString c < Bytes.ofString n := by
  have hempty : "" < n := by
    rw [String.lt_iff_toList_lt]
    obtain ⟨c, cs, hcs⟩ := List.exists_cons_of_ne_nil fun h => hne (String.toList_eq_nil_iff.1 h)
    rw [hcs]
    exact List.nil_lt_cons c cs
  simp only [PageRequest.after, Option.all_eq_true, Option.filter_eq_some_iff, decide_eq_true_eq,
    Option.mem_def, Bytes.ofString_lt_iff, and_imp]
  refine forall₂_congr fun c _ => ⟨fun h => ?_, fun h _ => h⟩
  by_cases hc : c = ""
  · rwa [hc]
  · exact h hc

theorem firstNames_of_page (hs : NamesValid s) (f : PackageFilter) (page : PageRequest) :
    FirstNames (max 1 (min 100 (page.limit.getD 20))) (fun n => (s.selection f n).Nonempty ∧
        ∀ c ∈ page.cursor, Bytes.ofString c < Bytes.ofString n)
      ((((s.groupsOf f page.after).map PackageGroup.summary).take page.pageSize).map (·.name)) := by
  rw [← page.coe_pageSize]
  have hnames : ((s.groupsOf f page.after).map PackageGroup.summary).map (·.name) =
      (s.groupsOf f page.after).map (·.name) := List.map_map
  rw [List.map_take, hnames]
  refine firstNames_take (List.pairwise_map.2 ascending_groupsOf) (fun n => ?_) page.pageSize
  rw [mem_names, listed_iff_nonempty hs]
  refine and_congr_right fun ⟨p, hp, _, hname⟩ => ?_
  exact after_all_iff (Naming.ne_empty_of_isPackageName (hname ▸ hs p hp))

/-! ## What an entry tells -/

/-- An entry tells of exactly the versions of its name that the filter asks for: which they are,
highest first, which of them is the highest that is no prerelease, and when the last was
published. -/
structure Describes (s : Store) (f : PackageFilter) (x : PackageSummary) : Prop where
  descending : Version.Descending x.versions
  versions : ∀ t, t ∈ x.versions ↔ ∃ p ∈ s.selection f x.name, p.version = t
  latest : Version.IsHighestText {v | v ∈ Version.among x.versions ∧ v.pre = []} x.latestVersion
  updated : ∃ p ∈ s.selection f x.name, p.createdAt = x.updatedAt
  lastUpdated : (∀ p ∈ s.selection f x.name, p.createdAt.HasPlainYear) →
    ∀ p ∈ s.selection f x.name, p.createdAt.micros ≤ x.updatedAt.micros

theorem ofString?_of_wellFormed (hs : WellFormed s) (hp : p ∈ s.packages) :
    ∃ v, Version.ofString? p.version = some v := by
  obtain ⟨spelling, hv⟩ := hs.versions p hp
  exact Version.ofString?_of_normalize? hv

theorem plain_of_wellFormed (hs : WellFormed s) (hp : p ∈ s.packages) :
    ',' ∉ p.version.toList ∧ p.version ≠ "" := by
  obtain ⟨spelling, hv⟩ := hs.versions p hp
  refine ⟨fun hcomma => absurd (Version.isVersionChar_of_normalize? hv hcomma) (by decide), ?_⟩
  intro hempty
  obtain ⟨v, hread⟩ := ofString?_of_wellFormed hs hp
  rw [hempty] at hread
  cases hread

theorem mem_packages_of_matching (hp : p ∈ s.matching f name) : p ∈ s.packages :=
  (List.mem_filter.1 hp).1

theorem versions_eq_sortTexts (hs : WellFormed s) (hx : x ∈ s.listing f) :
    x.versions = Version.sortTexts ((s.matching f x.name).map (·.version)) := by
  have hplain : ∀ t ∈ (s.matching f x.name).map (·.version), ',' ∉ t.toList ∧ t ≠ "" := by
    intro t ht
    obtain ⟨p, hp, rfl⟩ := List.mem_map.1 ht
    exact plain_of_wellFormed hs (mem_packages_of_matching hp)
  calc x.versions
      = Version.sortTexts (PackageGroup.items (commaJoined ((s.matching f x.name).map
          (·.version)))) := congrArg PackageSummary.versions (eq_summary_of_listing hx)
    _ = _ := by rw [PackageGroup.items_commaJoined_of_plain hplain]

theorem latestVersion_eq (hx : x ∈ s.listing f) :
    x.latestVersion = Version.latest? false x.versions := by
  obtain ⟨g, -, rfl⟩ := List.mem_map.1 hx
  rfl

theorem nodup_matching (hi : Integrity s) (f : PackageFilter) (name : String) :
    ((s.matching f name).map (·.version)).Nodup := by
  have hsublist : (s.matching f name).Sublist (s.packages.filter (·.name = name)) := by
    rw [matching, ← List.filter_filter]
    exact List.filter_sublist
  exact (nodup_versionsOf hi name).sublist (hsublist.map _)

theorem descending_versions (hi : Integrity s) (hs : WellFormed s) (hx : x ∈ s.listing f) :
    Version.Descending x.versions := by
  rw [versions_eq_sortTexts hs hx]
  refine Version.descending_sortTexts (nodup_matching hi f x.name) fun t ht => ?_
  obtain ⟨p, hp, rfl⟩ := List.mem_map.1 ht
  exact ofString?_of_wellFormed hs (mem_packages_of_matching hp)

/-! ## The last update -/

/-- Going through the versions keeps the creation time whose text is the last. -/
theorem foldl_laterStored (ps : List Package) (t : Time) :
    let u := ps.foldl (fun t p => laterStored t p.createdAt) t
    (u = t ∨ ∃ p ∈ ps, p.createdAt = u) ∧ t.stored ≤ u.stored ∧
      ∀ p ∈ ps, p.createdAt.stored ≤ u.stored := by
  induction ps generalizing t with
  | nil => exact ⟨.inl rfl, le_refl _, nofun⟩
  | cons q ps ih =>
    obtain ⟨hfrom, hstart, hrest⟩ := ih (laterStored t q.createdAt)
    have hlater : (laterStored t q.createdAt = t ∨ laterStored t q.createdAt = q.createdAt) ∧
        t.stored ≤ (laterStored t q.createdAt).stored ∧
        q.createdAt.stored ≤ (laterStored t q.createdAt).stored := by
      unfold laterStored
      split
      · rename_i h
        exact ⟨.inr rfl, (compare_lt_iff_lt.1 h).le, le_refl _⟩
      · rename_i h
        exact ⟨.inl rfl, le_refl _, not_lt.1 fun hlt => h (compare_lt_iff_lt.2 hlt)⟩
    obtain ⟨hone, hleft, hright⟩ := hlater
    rw [List.foldl_cons]
    refine ⟨?_, hleft.trans hstart, fun p hp => ?_⟩
    · rcases hfrom with h | ⟨p, hp, h⟩
      · rcases hone with hone | hone
        · exact .inl (h.trans hone)
        · exact .inr ⟨q, List.mem_cons_self, (h.trans hone).symm⟩
      · exact .inr ⟨p, List.mem_cons_of_mem q hp, h⟩
    · rcases List.mem_cons.1 hp with rfl | hp
      · exact hright.trans hstart
      · exact hrest p hp

/-- A group was updated when one of its versions was created, and none has a later text. -/
theorem group_updatedAt {ps : List Package} (hne : ps ≠ []) (name : String) :
    (∃ p ∈ ps, p.createdAt = (group name ps).updatedAt) ∧
      ∀ p ∈ ps, p.createdAt.stored ≤ (group name ps).updatedAt.stored := by
  obtain ⟨q, qs, rfl⟩ := List.exists_cons_of_ne_nil hne
  obtain ⟨hfrom, hstart, hrest⟩ := foldl_laterStored qs q.createdAt
  refine ⟨?_, List.forall_mem_cons.2 ⟨hstart, hrest⟩⟩
  rcases hfrom with h | ⟨p, hp, h⟩
  · exact ⟨q, List.mem_cons_self, h.symm⟩
  · exact ⟨p, List.mem_cons_of_mem q hp, h⟩

theorem describes_of_listing (hi : Integrity s) (hs : WellFormed s) (hnames : NamesValid s)
    (hx : x ∈ s.listing f) : s.Describes f x := by
  have hne : s.matching f x.name ≠ [] := by
    obtain ⟨p, hp⟩ := (listed_iff_nonempty hnames).1 (listed_iff.2 ⟨x, hx, rfl⟩)
    exact List.ne_nil_of_mem ((mem_matching hnames).2 hp)
  have hupdated : x.updatedAt = (group x.name (s.matching f x.name)).updatedAt :=
    congrArg PackageSummary.updatedAt (eq_summary_of_listing hx)
  obtain ⟨⟨p, hp, hcreated⟩, hlast⟩ := group_updatedAt hne x.name
  constructor
  case descending => exact descending_versions hi hs hx
  case versions =>
    intro t
    simp only [versions_eq_sortTexts hs hx, Version.mem_sortTexts, List.mem_map,
      mem_matching hnames]
  case latest =>
    rw [latestVersion_eq hx]
    simpa [Version.Allowed] using Version.isHighestText_latest? false x.versions
  case updated => exact ⟨p, (mem_matching hnames).1 hp, hcreated.trans hupdated.symm⟩
  case lastUpdated =>
    intro hyears q hq
    have hyear : x.updatedAt.HasPlainYear := by
      rw [hupdated, ← hcreated]
      exact hyears p ((mem_matching hnames).1 hp)
    refine Int.not_lt.1 fun hlt => not_lt.2 (hlast q ((mem_matching hnames).2 hq)) ?_
    rw [← hupdated]
    exact Time.stored_lt_stored hyear (hyears q hq) hlt

end Store

namespace Registry

open Store

/-- Whatever happened before, a page of the listing has the first names after the cursor that have
a version which the filter asks for, and the entry of a name tells of exactly these versions. There
are as many names as the limit says, brought between 1 and 100, or 20 without one; fewer only if
there are no more. -/
theorem package_listing_exact {r : Registry} (hrun : Run Anything .empty r) (f : PackageFilter)
    (page : PageRequest) : ∃ listed, answer (list f page) r.store = .ok listed ∧
      FirstNames (max 1 (min 100 (page.limit.getD 20))) (fun n => (r.store.selection f n).Nonempty ∧
        ∀ c ∈ page.cursor, Bytes.ofString c < Bytes.ofString n) (listed.data.map (·.name)) ∧
      ∀ x ∈ listed.data, r.store.Describes f x := by
  have hanswer := list_run f page r.store
  refine ⟨_, by rw [answer, hanswer, outcome_ok], firstNames_of_page hrun.namesValid f page, ?_⟩
  intro x hx
  exact describes_of_listing (hrun.integrity integrity_empty) hrun.wellFormed hrun.namesValid
    (mem_listing_of_list (r := ⟨r.store, []⟩) hanswer hx)

/-- Two names have a version that a search in capitals for one builder asks for; a page of one entry
has the first, and tells of one of its two versions. -/
theorem package_listing_exact_search : ∃ (f : PackageFilter) (r : Registry),
    f = ⟨some "TOK", none, some "foundry", none, some "token"⟩ ∧ Run Anything .empty r ∧
    r.store.packages.length = 3 ∧ (r.store.selection f "tokenset").Nonempty ∧
    ∃ listed, answer (list f ⟨some "a", some 1⟩) r.store = .ok listed ∧
      listed.data.map (·.name) = ["tokens"] ∧
      ∀ x ∈ listed.data, r.store.Describes f x ∧ ∀ t, t ∈ x.versions ↔ t = "2.0.0-rc.1" := by
  let supply (n : Nat) : Supply := ⟨⟨n⟩, fun k => toString (k + n), "secret"⟩
  let token : ContractSubmission := ⟨"Token", "src/Token.sol", none, none, none, none, none⟩
  let published (n : Nat) (name version builder : String) : Event := .request (supply n)
    (.publish name version "k1" ⟨"evm", builder, none, none, [], [token]⟩)
  let r := (published 20 "tokenset" "0.1.0" "foundry").apply
    ((published 10 "tokens" "2.0.0-rc.1" "foundry").apply
      ((published 0 "tokens" "1.0.0" "hardhat").apply .empty))
  let f : PackageFilter := ⟨some "TOK", none, some "foundry", none, some "token"⟩
  have hrun : Run Anything .empty r := ((Run.nil.snoc trivial).snoc trivial).snoc trivial
  have hnames : r.store.packages.map (·.name) = ["tokens", "tokens", "tokenset"] := by
    decide +kernel
  have hmatching : (r.store.matching f "tokens").map (·.version) = ["2.0.0-rc.1"] ∧
      (r.store.matching f "tokenset").map (·.version) = ["0.1.0"] := by decide +kernel
  have hselection : ∀ n t, (∃ p ∈ r.store.selection f n, p.version = t) ↔
      t ∈ (r.store.matching f n).map (·.version) := by
    intro n t
    simp only [← mem_matching hrun.namesValid, List.mem_map]
  obtain ⟨tokens, htokens, -⟩ := (hselection "tokens" "2.0.0-rc.1").2 (by rw [hmatching.1]; decide)
  obtain ⟨other, hother, -⟩ := (hselection "tokenset" "0.1.0").2 (by rw [hmatching.2]; decide)
  obtain ⟨listed, hlisted, hfirst, hentries⟩ := package_listing_exact hrun f ⟨some "a", some 1⟩
  have hmem : "tokens" ∈ listed.data.map (·.name) := by
    by_contra hnot
    obtain ⟨hlength, hbefore⟩ := hfirst.complete "tokens" ⟨⟨tokens, htokens⟩, by decide⟩ hnot
    have hone : ((listed.data.map (·.name)).length : Int) = 1 := hlength
    obtain ⟨m, hm⟩ := List.exists_mem_of_length_pos (Int.natCast_pos.1 (hone ▸ Int.one_pos))
    -- no name that is asked for comes before
    obtain ⟨⟨p, hp, -, rfl⟩, -⟩ := hfirst.sound m hm
    have hname : p.name ∈ ["tokens", "tokens", "tokenset"] := hnames ▸ List.mem_map_of_mem hp
    have hnone : ∀ n ∈ ["tokens", "tokens", "tokenset"],
        ¬ Bytes.ofString n < Bytes.ofString "tokens" := by decide
    exact hnone _ hname (hbefore _ hm)
  have hone : listed.data.map (·.name) = ["tokens"] := by
    have hbounded : ((listed.data.map (·.name)).length : Int) ≤ 1 := hfirst.bounded
    obtain ⟨n, hn⟩ := List.length_eq_one_iff.1
      (Nat.le_antisymm (Int.ofNat_le.1 hbounded) (List.length_pos_of_mem hmem))
    rw [hn] at hmem ⊢
    rw [List.mem_singleton.1 hmem]
  refine ⟨f, r, rfl, hrun, by rw [← List.length_map, hnames]; rfl, ⟨other, hother⟩, listed, hlisted,
    hone, fun x hx => ⟨hentries x hx, fun t => ?_⟩⟩
  have hname : x.name = "tokens" := List.mem_singleton.1 (hone ▸ List.mem_map_of_mem hx)
  rw [(hentries x hx).versions t, hname, hselection, hmatching.1, List.mem_singleton]

end Registry

end BuildRegistry
