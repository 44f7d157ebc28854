import Mathlib.Data.List.Perm.Subperm
import Mathlib.Data.Set.Basic
import Mathlib.Data.String.Basic
import BuildRegistry.Proofs.Naming.Rules
import BuildRegistry.Proofs.Runs
import BuildRegistry.Proofs.Traversal

/-
  The pages of the package listing. A filter asks for versions (`Satisfies`), and a name is listed
  if one of its versions is asked for (`selection`). The rows of a page are the groups of the names
  after the cursor, in the order of these names; grouping the versions that come after a name is the
  same as leaving out the groups that do not (`groupsOf_after`), so that the listing serves one
  ascending list of summaries. Names are never empty, hence every name is a cursor.

  Main statement: `package_listing_traversal`.
-/

namespace BuildRegistry

namespace Store

/-! ## Distinct texts in order -/

theorem mem_distinct {x : String} {l : List String} : x ∈ distinct l ↔ x ∈ l := by
  rw [distinct, List.mem_eraseDups, PackageGroup.ascending, List.mem_mergeSort]

theorem ascending_eraseDups : ∀ {l : List String}, l.Pairwise (· ≤ ·) → Ascending id l.eraseDups
  | [], _ => List.Pairwise.nil
  | a :: l, h => by
    obtain ⟨ha, hl⟩ := List.pairwise_cons.1 h
    rw [List.eraseDups_cons]
    refine List.pairwise_cons.2 ⟨fun b hb => ?_, ascending_eraseDups (hl.sublist List.filter_sublist)⟩
    rw [List.mem_eraseDups, List.mem_filter] at hb
    exact lt_of_le_of_ne (ha b hb.1) fun hab => by simp [show a = b from hab] at hb
termination_by l => l.length
decreasing_by exact Nat.lt_succ_of_le (List.length_filter_le _ _)

theorem sorted_ascending (l : List String) : (PackageGroup.ascending l).Pairwise (· ≤ ·) :=
  sorted_inOrder (fun _ _ => compare_isLE_iff) l

theorem ascending_distinct (l : List String) : Ascending id (distinct l) :=
  ascending_eraseDups (sorted_ascending l)

variable {s : Store} {f : PackageFilter} {p : Package} {after : Option String} {n name : String}

/-! ## What a filter asks for -/

/-- A version has all that the filter asks for. -/
structure Satisfies (s : Store) (f : PackageFilter) (p : Package) : Prop where
  search : ∀ q ∈ f.search, (Text.lowercase q).toList <:+: p.name.toList
  chain : ∀ chain ∈ f.chain, p.chain = chain
  builder : ∀ builder ∈ f.builder, p.builder = builder
  version : ∀ version ∈ f.version, p.version = version
  contract : ∀ n ∈ f.contract, ∃ c ∈ s.contracts,
    c.packageId = p.id ∧ Text.asciiLowercase c.name = Text.asciiLowercase n

/-- The versions of a name that have all that the filter asks for. -/
def selection (s : Store) (f : PackageFilter) (name : String) : Set Package :=
  {p | p ∈ s.packages ∧ s.Satisfies f p ∧ p.name = name}

theorem hasContract_iff : s.hasContract p.id n ↔
    ∃ c ∈ s.contracts, c.packageId = p.id ∧ Text.asciiLowercase c.name = Text.asciiLowercase n := by
  simp only [hasContract, List.any_eq_true, Bool.and_eq_true, decide_eq_true_eq]

theorem nameContains_iff {search : String} (h : Naming.isPackageName name) :
    nameContains search name ↔ (Text.lowercase search).toList <:+: name.toList := by
  rw [nameContains, Naming.asciiLowercase_of_isPackageName h, Text.occursIn_iff]

theorem lists_iff (h : Naming.isPackageName p.name) : s.lists f p ↔ s.Satisfies f p := by
  simp only [lists, Bool.and_eq_true, Option.all_eq_true, nameContains_iff h, hasContract_iff,
    decide_eq_true_eq]
  constructor
  · rintro ⟨⟨⟨⟨hsearch, hchain⟩, hbuilder⟩, hversion⟩, hcontract⟩
    exact ⟨hsearch, fun c hc => (hchain c hc).symm, fun b hb => (hbuilder b hb).symm,
      fun v hv => (hversion v hv).symm, hcontract⟩
  · rintro ⟨hsearch, hchain, hbuilder, hversion, hcontract⟩
    exact ⟨⟨⟨⟨hsearch, fun c hc => (hchain c hc).symm⟩, fun b hb => (hbuilder b hb).symm⟩,
      fun v hv => (hversion v hv).symm⟩, hcontract⟩

/-! ## The rows of the listing -/

/-- A name has a version that the filter lets through. -/
def Listed (s : Store) (f : PackageFilter) (n : String) : Prop :=
  ∃ p ∈ s.packages, s.lists f p ∧ p.name = n

/-- The names of a page's rows. -/
theorem mem_names : n ∈ (s.groupsOf f after).map (·.name) ↔
    s.Listed f n ∧ after.all (· < n) := by
  have hid : ((fun g : PackageGroup => g.name) ∘ fun m => group m ((s.packages.filter fun p =>
      after.all (· < p.name) && s.lists f p).filter (·.name = m))) = id := rfl
  rw [groupsOf, List.map_map, hid, List.map_id, mem_distinct, List.mem_map]
  constructor
  · rintro ⟨p, hp, rfl⟩
    obtain ⟨hp, hl⟩ := List.mem_filter.1 hp
    rw [Bool.and_eq_true] at hl
    exact ⟨⟨p, hp, hl.2, rfl⟩, hl.1⟩
  · rintro ⟨⟨p, hp, hl, rfl⟩, hafter⟩
    exact ⟨p, List.mem_filter.2 ⟨hp, by rw [hl, hafter]; rfl⟩, rfl⟩

theorem ascending_groupsOf : Ascending (·.name) (s.groupsOf f after) :=
  List.pairwise_map.2 (ascending_distinct _)

/-- Grouping what comes after a name leaves out the groups that do not. -/
theorem groupsOf_after : s.groupsOf f after =
    (s.groupsOf f none).filter fun g => after.all (· < g.name) := by
  have hnames : distinct ((s.packages.filter fun p =>
      after.all (· < p.name) && s.lists f p).map (·.name)) =
      (distinct ((s.packages.filter (s.lists f)).map (·.name))).filter fun n =>
        after.all (· < n) := by
    refine (ascending_distinct _).eq_of_mem_iff
      ((ascending_distinct _).sublist List.filter_sublist) fun n => ?_
    simp only [List.mem_filter, mem_distinct, List.mem_map, Bool.and_eq_true]
    constructor
    · rintro ⟨p, ⟨hp, hafter, hl⟩, rfl⟩
      exact ⟨⟨p, ⟨hp, hl⟩, rfl⟩, hafter⟩
    · rintro ⟨⟨p, ⟨hp, hl⟩, rfl⟩, hafter⟩
      exact ⟨p, ⟨hp, hafter, hl⟩, rfl⟩
  change (distinct _).map _ = ((distinct ((s.packages.filter (s.lists f)).map (·.name))).map
    fun n => group n ((s.packages.filter (s.lists f)).filter (·.name = n))).filter _
  rw [hnames, List.filter_map]
  refine List.map_congr_left fun n hn => ?_
  -- the versions of a name after the cursor are all listed versions of it
  have hafter : after.all (· < n) := (List.mem_filter.1 hn).2
  rw [List.filter_filter, List.filter_filter]
  refine congrArg (group n) (List.filter_congr fun p _ => ?_)
  by_cases hp : p.name = n
  · simp only [hp, hafter, decide_true, Bool.true_and]
  · simp only [hp, decide_false, Bool.false_and]

/-- The whole listing. -/
def listing (s : Store) (f : PackageFilter) : List PackageSummary :=
  (s.groupsOf f none).map PackageGroup.summary

theorem listed_iff : s.Listed f n ↔ ∃ x ∈ s.listing f, x.name = n := by
  have hmem : n ∈ (s.groupsOf f none).map (·.name) ↔ s.Listed f n := by simp [mem_names]
  rw [← hmem, listing]
  simp only [List.mem_map, exists_exists_and_eq_and]
  rfl

theorem ascending_listing : Ascending (·.name) (s.listing f) :=
  List.pairwise_map.2 ascending_groupsOf

theorem summaries_after : (s.groupsOf f after).map PackageGroup.summary =
    rowsAfter (·.name) after (s.listing f) := by
  rw [groupsOf_after, rowsAfter, listing, List.filter_map]
  rfl

theorem length_listing_le : (s.listing f).length ≤ s.packages.length := by
  rw [listing, groupsOf, List.length_map, List.length_map]
  have hnodup := (ascending_distinct ((s.packages.filter (s.lists f)).map (·.name))).nodup_keys
  rw [List.map_id] at hnodup
  calc (distinct ((s.packages.filter (s.lists f)).map (·.name))).length
      ≤ ((s.packages.filter (s.lists f)).map (·.name)).length :=
        (hnodup.subperm fun n hn => mem_distinct.1 hn).length_le
    _ = (s.packages.filter (s.lists f)).length := List.length_map _
    _ ≤ s.packages.length := List.length_filter_le _ _

/-! ## Names are valid -/

/-- The names of all stored packages have passed the check of a publication. -/
def NamesValid (s : Store) : Prop := ∀ p ∈ s.packages, Naming.isPackageName p.name

theorem namesValid_of_change {calm : Prop} {sup : Supply} {a : Registry.Action} {t : Store}
    (h : Registry.Change calm sup a s t) (hs : NamesValid s) : NamesValid t := by
  cases h with
  | @published _ _ _ _ _ _ u _ _ hpub hclaim =>
    have hu : NamesValid u := by
      intro p hp
      rw [hpub.packages] at hp
      rcases List.mem_append.1 hp with hp | hp
      · exact hs p hp
      · rw [List.mem_singleton.1 hp]
        exact hpub.nameValid
    rcases hclaim with rfl | ⟨-, rfl⟩
    · rwa [NamesValid, claiming_packages]
    · exact hu
  | deleted => exact fun p hp => hs p (List.mem_filter.1 hp).1
  | nothing | recorded | marked | keysChanged => exact hs

theorem listed_iff_nonempty (hs : NamesValid s) :
    s.Listed f name ↔ (s.selection f name).Nonempty :=
  exists_congr fun p => and_congr_right fun hp => and_congr_left fun _ => lists_iff (hs p hp)

theorem Listed.isPackageName (h : s.Listed f n) (hs : NamesValid s) : Naming.isPackageName n := by
  obtain ⟨p, hp, -, rfl⟩ := h
  exact hs p hp

end Store

namespace Registry

open Store

/-! ## Following the pages -/

theorem list_run (f : PackageFilter) (p : PageRequest) (s : Store) :
    list f p ⟨s, []⟩ = .ok (Page.ofRows p.pageSize (·.name)
      ((s.groupsOf f p.after).map PackageGroup.summary)) ⟨s, []⟩ := by
  rw [list, use_calm, listPackages_run]

theorem Run.namesValid {P : Registry → Event → Prop} {r : Registry} (hrun : Run P .empty r) :
    NamesValid r.store :=
  hrun.keeps_of_change NamesValid namesValid_of_change fun p hp => by cases hp

/-- The service answers with the summaries after the name in the cursor. -/
theorem serves_list (f : PackageFilter) :
    Serves (fun r p => outcome (list f p r)) (Run Undisturbed .empty)
      (fun r => r.store.listing f) PackageSummary.name PackageSummary.name where
  ascending _ _ := ascending_listing
  answers := by
    rintro ⟨s, outages⟩ ⟨cursor, limit⟩ after hrun hmarks
    obtain rfl : outages = [] := hrun.calm rfl
    have hafter : PageRequest.after ⟨cursor, limit⟩ = after := by
      cases hmarks with
      | start => rfl
      | @row r x hr hx =>
        have hlisted : r.store.Listed f x.name := listed_iff.2 ⟨x, hx, rfl⟩
        have hne := Naming.ne_empty_of_isPackageName (hlisted.isPackageName hr.namesValid)
        exact Option.filter_eq_some_iff.2 ⟨rfl, by simpa using hne⟩
    rw [list_run, outcome_ok, hafter, summaries_after]

/-- A client that follows the pages of the package listing, whatever happens in between: every
page is answered, names ascend by their bytes, and `Traversal` says what it can rely on. If nothing
happens in between, the pages end and hold each name that has a version which the filter asks for. -/
theorem package_listing_traversal (f : PackageFilter) {visits : List (Visit Registry)}
    (hreach : ∀ v ∈ visits, Run Undisturbed .empty v.state) :
    ∃ answers, follow (fun r p => outcome (list f p r)) none visits = .ok answers ∧
      Traversal (fun r n => (r.store.selection f n).Nonempty) PackageSummary.name visits answers ∧
      ((entries answers).map (·.name)).Pairwise
        (fun m n => Bytes.ofString m < Bytes.ofString n) ∧
      ∀ r, (∀ v ∈ visits, v.state = r) → r.store.packages.length < visits.length →
        Finished answers ∧
          ∀ n, n ∈ (entries answers).map (·.name) ↔ (r.store.selection f n).Nonempty := by
  have hlisted : ∀ r, Run Undisturbed .empty r → ∀ n,
      (r.store.selection f n).Nonempty ↔ ∃ x ∈ r.store.listing f, x.name = n := fun r hrun n =>
    (listed_iff_nonempty hrun.namesValid).symm.trans listed_iff
  obtain ⟨answers, hfollow, htrav, -, hconst⟩ := (serves_list f).traversal hlisted hreach
  have hascii : ∀ x ∈ entries answers, Bytes.IsAscii x.name.toList := by
    intro x hx
    obtain ⟨a, ha, hx⟩ := List.mem_flatMap.1 hx
    have hnames := (hreach a.1 (htrav.visited.1.subset (List.mem_map_of_mem ha))).namesValid
    have hname := (listed_iff_nonempty hnames).2 (htrav.sound a ha x hx)
    exact Naming.isAscii_of_isPackageName (hname.isPackageName hnames)
  refine ⟨answers, hfollow, htrav, ?_, fun r hr henough => ?_⟩
  · refine List.pairwise_map.2 (htrav.ascending.imp_of_mem fun hx hy hlt => ?_)
    exact Bytes.ofString_lt_of_lt (hascii _ hx) (hascii _ hy) hlt
  · obtain ⟨hfin, hall⟩ := hconst r hr (lt_of_le_of_lt length_listing_le henough)
    obtain ⟨v, hv⟩ := List.exists_mem_of_length_pos (Nat.zero_lt_of_lt henough)
    refine ⟨hfin, fun n => ?_⟩
    rw [hall, hlisted r (hr v hv ▸ hreach v hv), List.mem_map]

/-- Three of four names have a version of the builder. The first page is asked for two of them and
is cut after these. -/
theorem package_listing_traversal_tokens : ∃ (f : PackageFilter) (r : Registry)
    (page : Page PackageSummary) (rest : List (Visit Registry × Page PackageSummary)),
      f.builder = some "foundry" ∧ Run Undisturbed .empty r ∧
      follow (fun r p => outcome (list f p r)) none
        [⟨r, some 2⟩, ⟨r, none⟩, ⟨r, none⟩, ⟨r, none⟩, ⟨r, none⟩] =
          .ok ((⟨r, some 2⟩, page) :: rest) ∧
      (page.data.map (·.name) = ["tokens", "vaults"] ∧ page.hasMore = true) ∧
      Finished ((⟨r, some 2⟩, page) :: rest) ∧
      (entries ((⟨r, some 2⟩, page) :: rest)).map (·.name) = ["tokens", "vaults", "wallets"] := by
  let supply (n : Nat) : Supply := ⟨⟨0⟩, fun k => toString (k + n), "secret"⟩
  let token : ContractSubmission := ⟨"Token", "src/Token.sol", none, none, none, none, none⟩
  let published (n : Nat) (name builder : String) : Event := .request (supply n)
    (.publish name "1.0.0" "k1" ⟨"evm", builder, none, none, [], [token]⟩)
  let r := (published 30 "wallets" "foundry").apply ((published 20 "tokens" "foundry").apply
    ((published 10 "bridges" "hardhat").apply ((published 0 "vaults" "foundry").apply .empty)))
  let f : PackageFilter := ⟨none, none, some "foundry", none, none⟩
  have hrun : Run Undisturbed .empty r :=
    (((Run.nil.snoc trivial).snoc trivial).snoc trivial).snoc trivial
  have hpackages : r.store.packages.length = 4 := by decide +kernel
  have hlisted : ∀ n, (r.store.selection f n).Nonempty ↔ n ∈ ["tokens", "vaults", "wallets"] := by
    have hrows : ((r.store.packages.filter (r.store.lists f)).map (·.name)).Perm
        ["tokens", "vaults", "wallets"] := by decide +kernel
    intro n
    rw [← listed_iff_nonempty hrun.namesValid, ← hrows.mem_iff, List.mem_map]
    simp only [List.mem_filter, Listed, and_assoc]
  have hreach : ∀ v ∈ [⟨r, some 2⟩, ⟨r, none⟩, ⟨r, none⟩, ⟨r, none⟩, ⟨r, none⟩],
      Run Undisturbed .empty (Visit.state v) := by simpa using hrun
  obtain ⟨answers, hfollow, htrav, -, hconst⟩ := package_listing_traversal f hreach
  obtain ⟨hfin, hall⟩ := hconst r (by simp) (by
    rw [hpackages]
    decide)
  have hnames : (entries answers).map (·.name) = ["tokens", "vaults", "wallets"] := by
    have hascending : Ascending id ((entries answers).map (·.name)) :=
      List.pairwise_map.2 htrav.ascending
    exact hascending.eq_of_mem_iff (by unfold Ascending; decide) fun n => (hall n).trans (hlisted n)
  cases answers with
  | nil => cases hnames
  | cons a rest =>
    obtain ⟨v, page⟩ := a
    obtain ⟨rfl, -⟩ := List.cons_prefix_cons.1 htrav.visited.1
    obtain ⟨hmore, hdata⟩ := htrav.cut rfl
      (fun x hx => (hall x.name).1 (List.mem_map_of_mem hx)) (by
        rw [← List.length_map, hnames]
        change max 1 (min 100 2) < (3 : Int)
        decide)
    refine ⟨f, r, page, rest, rfl, hrun, hfollow, ⟨?_, hmore⟩, hfin, hnames⟩
    rw [hdata, List.map_take, hnames]
    rfl

end Registry

end BuildRegistry
