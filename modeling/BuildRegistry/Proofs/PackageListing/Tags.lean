import BuildRegistry.Proofs.PackageListing
import BuildRegistry.Proofs.Text

/-
  The chains and builders of a package listing. The tags of the versions of a name are joined by
  commas and cut again, so a listing shows the parts between the commas in them (`ShowsTags`).
  These are the tags themselves exactly when no tag has a comma (`listed_tags_exact_iff`); a
  publisher may give one that has.
-/

namespace BuildRegistry

/-! ## Tags joined and cut again -/

/-- The tags that are not empty, in ascending order, each once. -/
structure TagsOf (tags shown : List String) : Prop where
  ascending : Ascending id shown
  mem_iff : ∀ t, t ∈ shown ↔ t ∈ tags ∧ t ≠ ""

namespace PackageGroup

theorem items_commaJoined (ss : List String) : items (Store.commaJoined ss) = ss.flatMap items := by
  unfold items Store.commaJoined
  rw [String.toList_ofList]
  cases ss with
  | nil => rfl
  | cons s ss =>
    have hne : (s :: ss).map String.toList ≠ [] := List.cons_ne_nil _ _
    rw [Text.splitAt_joinWith ',' hne, List.flatMap_map, List.filter_flatMap, List.map_flatMap]

theorem mem_items {t tag : String} (h : t ∈ items tag) : t ≠ "" ∧ ',' ∉ t.toList := by
  obtain ⟨cs, hcs, rfl⟩ := List.mem_map.1 h
  obtain ⟨hcs, hne⟩ := List.mem_filter.1 hcs
  refine ⟨fun hempty => ?_, ?_⟩
  · have hnil : cs = [] := String.ofList_eq_empty_iff.1 hempty
    rw [hnil] at hne
    cases hne
  · rw [String.toList_ofList]
    exact Text.not_mem_of_mem_splitAt hcs

theorem items_of_not_mem {tag : String} (h : ',' ∉ tag.toList) :
    items tag = [tag].filter (· ≠ "") := by
  rw [items, Text.splitAt_of_not_mem h]
  by_cases hempty : tag = ""
  · rw [hempty]
    decide
  · have hne : tag.toList ≠ [] := fun hnil => hempty (String.toList_eq_nil_iff.1 hnil)
    rw [List.filter_cons_of_pos (by simpa using hne), List.filter_cons_of_pos (by simpa using hempty)]
    exact congrArg (· :: []) String.ofList_toList

theorem mem_ascending {t : String} {l : List String} : t ∈ ascending l ↔ t ∈ l := List.mem_mergeSort

theorem ascending_of_nodup {l : List String} (h : l.Nodup) : Ascending id (ascending l) := by
  have hnodup : (ascending l).Nodup := (List.mergeSort_perm l _).nodup_iff.2 h
  exact ((Store.sorted_ascending l).and hnodup).imp fun ⟨hle, hne⟩ => lt_of_le_of_ne hle hne

/-- What is shown of some tags: in order, the parts between commas in them, hence all of them once
and nothing else exactly when no tag has a comma. -/
structure ShowsTags (tags shown : List String) : Prop where
  sorted : shown.Pairwise (· ≤ ·)
  parts : ∀ t, t ∈ shown ↔ ∃ tag ∈ tags, t ∈ items tag
  exact_iff : TagsOf tags shown ↔ ∀ tag ∈ tags, ',' ∉ tag.toList

theorem showsTags (tags : List String) :
    ShowsTags tags (ascending (items (Store.commaJoined (Store.distinct tags)))) := by
  have hparts : ∀ t, t ∈ ascending (items (Store.commaJoined (Store.distinct tags))) ↔
      ∃ tag ∈ tags, t ∈ items tag := by
    intro t
    rw [mem_ascending, items_commaJoined, List.mem_flatMap]
    constructor
    · rintro ⟨tag, htag, ht⟩
      exact ⟨tag, Store.mem_distinct.1 htag, ht⟩
    · rintro ⟨tag, htag, ht⟩
      exact ⟨tag, Store.mem_distinct.2 htag, ht⟩
  refine ⟨Store.sorted_ascending _, hparts, fun h tag htag hcomma => ?_, fun h => ?_⟩
  · -- a tag with a comma would be shown as it is, but no part of a tag has one
    have hne : tag ≠ "" := by
      rintro rfl
      exact absurd hcomma (by decide)
    obtain ⟨tag', -, hpart⟩ := (hparts tag).1 ((h.mem_iff tag).2 ⟨htag, hne⟩)
    exact (mem_items hpart).2 hcomma
  · have hitems : items (Store.commaJoined (Store.distinct tags)) =
        (Store.distinct tags).filter (· ≠ "") := by
      rw [items_commaJoined, List.flatMap_congr fun tag htag =>
        items_of_not_mem (h tag (Store.mem_distinct.1 htag)), ← List.filter_flatMap,
        List.flatMap_singleton']
    constructor
    · have hnodup := (Store.ascending_distinct tags).nodup_keys
      rw [List.map_id] at hnodup
      rw [hitems]
      exact ascending_of_nodup (hnodup.sublist List.filter_sublist)
    · intro t
      rw [mem_ascending, hitems, List.mem_filter, Store.mem_distinct, decide_eq_true_eq]

end PackageGroup

/-! ## The entries of a page -/

/-- The versions of a name that a filter lets through. -/
def Store.matching (s : Store) (f : PackageFilter) (name : String) : List Package :=
  s.packages.filter fun p => s.lists f p && p.name = name

theorem Store.eq_summary_of_listing {s : Store} {f : PackageFilter} {x : PackageSummary}
    (hx : x ∈ s.listing f) : x = (group x.name (s.matching f x.name)).summary := by
  obtain ⟨g, hg, rfl⟩ := List.mem_map.1 hx
  obtain ⟨name, -, rfl⟩ := List.mem_map.1 hg
  have hversions : (s.packages.filter (s.lists f)).filter (·.name = name) = s.matching f name := by
    rw [List.filter_filter, matching]
    exact List.filter_congr fun p _ => Bool.and_comm _ _
  change (group name ((s.packages.filter (s.lists f)).filter (·.name = name))).summary = _
  rw [hversions]
  rfl

namespace Registry

open Store PackageGroup

variable {f : PackageFilter} {page : PageRequest} {answer : Page PackageSummary} {r t : Registry}
  {x : PackageSummary}

theorem mem_listing_of_list (h : list f page r = .ok answer t) (hx : x ∈ answer.data) :
    x ∈ r.store.listing f := by
  obtain ⟨hact, -⟩ := use_ok h
  rw [listPackages_run] at hact
  rw [← (EStateM.Result.ok.inj hact).1] at hx
  have hrow := Page.data_sublist.subset hx
  rw [summaries_after] at hrow
  exact (mem_rowsAfter.1 hrow).1

/-- One version of a package with some tag for its builder. -/
def taggedTokens (builder : String) : Store :=
  { packages := [⟨"0", "tokens", "1.0.0", "evm", builder, none, none, "\x7b\x7d", "k1", ⟨0⟩⟩]
    owners := [⟨"tokens", "k1", ⟨0⟩⟩]
    contracts := [⟨"1", "0", "Token", "src/Token.sol", Sha256.hex [], ⟨0⟩⟩]
    artifacts := []
    deployments := []
    keys := [] }

theorem taggedTokens_reached {builder : String} (h : builder ∈ ["foundry", "foundry,hardhat"]) :
    Run Undisturbed .empty ⟨taggedTokens builder, []⟩ := by
  let published (builder : String) : Event :=
    .request ⟨⟨0⟩, fun k => toString k, "secret"⟩ (.publish "tokens" "1.0.0" "k1" ⟨"evm", builder,
      none, none, [], [⟨"Token", "src/Token.sol", none, none, none, none, none⟩]⟩)
  have hend : ∀ builder ∈ ["foundry", "foundry,hardhat"],
      (published builder).apply .empty = ⟨taggedTokens builder, []⟩ := by decide +kernel
  have hrun : Run Undisturbed .empty ((published builder).apply .empty) := .snoc .nil trivial
  rwa [hend builder h] at hrun

/-- The listing has one entry, and it fits the first page. -/
theorem taggedTokens_listed (builder : String) : ∃ answer x,
    list .all .first ⟨taggedTokens builder, []⟩ = .ok answer ⟨taggedTokens builder, []⟩ ∧
      x ∈ answer.data ∧
      ((taggedTokens builder).matching .all x.name).map (·.builder) = [builder] := by
  obtain ⟨x, hx, hname⟩ := listed_iff.1
    (show (taggedTokens builder).Listed .all "tokens" from ⟨_, List.mem_cons_self, rfl, rfl⟩)
  refine ⟨_, x, list_run .all .first _, ?_, ?_⟩
  · have hlength : ((taggedTokens builder).listing .all).length ≤ PageRequest.first.pageSize :=
      Nat.le_trans length_listing_le (show 1 ≤ PageRequest.first.pageSize by decide)
    change x ∈ ((taggedTokens builder).listing .all).take PageRequest.first.pageSize
    rwa [List.take_of_length_le hlength]
  · rw [hname]
    rfl

/-- What a page shows of the builders and the chains of the versions that its filter lets through.
It is exactly their tags where none of them has a comma, and else the parts of them. -/
theorem listed_tags_exact_iff (h : list f page r = .ok answer t) (hx : x ∈ answer.data) :
    ShowsTags ((r.store.matching f x.name).map (·.builder)) x.builders ∧
      ShowsTags ((r.store.matching f x.name).map (·.chain)) x.chains := by
  have hsummary := eq_summary_of_listing (mem_listing_of_list h hx)
  have hbuilders : x.builders = ascending (items (commaJoined (distinct
      ((r.store.matching f x.name).map (·.builder))))) := congrArg PackageSummary.builders hsummary
  have hchains : x.chains = ascending (items (commaJoined (distinct
      ((r.store.matching f x.name).map (·.chain))))) := congrArg PackageSummary.chains hsummary
  rw [hbuilders, hchains]
  exact ⟨showsTags _, showsTags _⟩

theorem listed_tags_exact_iff_foundry : Run Undisturbed .empty ⟨taggedTokens "foundry", []⟩ ∧
    ∃ answer t x, list .all .first ⟨taggedTokens "foundry", []⟩ = .ok answer t ∧ x ∈ answer.data ∧
      TagsOf (((taggedTokens "foundry").matching .all x.name).map (·.builder)) x.builders := by
  obtain ⟨answer, x, h, hx, htags⟩ := taggedTokens_listed "foundry"
  refine ⟨taggedTokens_reached (by decide), answer, _, x, h, hx, ?_⟩
  refine (listed_tags_exact_iff h hx).1.exact_iff.2 ?_
  rw [htags]
  decide

/-- A builder with a comma in its tag is listed as two. -/
theorem listed_tags_of_builder_with_comma :
    Run Undisturbed .empty ⟨taggedTokens "foundry,hardhat", []⟩ ∧
    ∃ answer t x, list .all .first ⟨taggedTokens "foundry,hardhat", []⟩ = .ok answer t ∧
      x ∈ answer.data ∧
      ((taggedTokens "foundry,hardhat").matching .all x.name).map (·.builder) =
        ["foundry,hardhat"] ∧
      "foundry" ∈ x.builders ∧ ¬ TagsOf ["foundry,hardhat"] x.builders := by
  obtain ⟨answer, x, h, hx, htags⟩ := taggedTokens_listed "foundry,hardhat"
  have hbuilders := congrArg PackageSummary.builders
    (eq_summary_of_listing (mem_listing_of_list h hx))
  have hshown : ShowsTags ["foundry,hardhat"] x.builders := by
    rw [hbuilders, ← htags]
    exact showsTags _
  refine ⟨taggedTokens_reached (by decide), answer, _, x, h, hx, htags, ?_, ?_⟩
  · exact (hshown.parts "foundry").2 ⟨_, List.mem_cons_self, by decide⟩
  · rw [hshown.exact_iff]
    decide

end Registry

end BuildRegistry
