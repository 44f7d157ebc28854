import Mathlib.Data.List.Sort
import BuildRegistry.Proofs.DeploymentListing
import BuildRegistry.Proofs.Resolution
import BuildRegistry.Proofs.Validity

/-
  Listings of the deployments of one package. A query may name a package, with all its versions, or
  one version of it; the listing of a version names the version too. They reach the store by way of
  different filters: by the name of the package, or by the id that the name and the version lead to.

  `Enumerates` says what following the pages of each yields (`enumerates_deployments`). The rows of
  all versions are those of each version merged by age (`eq_mergeByKey_versions`), and what else a
  query wants picks rows out of those without it (`deploymentsOf_wanted`). Main statement:
  `listings_by_package_agree`.
-/

namespace BuildRegistry

/-! ## Merging ascending rows -/

section Merging

variable {α κ : Type} [LinearOrder κ] {key : α → κ}

/-- Lists of rows merged into one by their keys. -/
def mergeByKey (key : α → κ) (lists : List (List α)) : List α :=
  lists.foldr (fun l merged => l.merge merged fun x y => decide (key x ≤ key y)) []

theorem perm_mergeByKey (lists : List (List α)) : (mergeByKey key lists).Perm lists.flatten := by
  induction lists with
  | nil => exact .nil
  | cons l lists ih => exact (List.merge_perm_append _).trans (ih.append_left l)

theorem sorted_mergeByKey {lists : List (List α)} (h : ∀ l ∈ lists, Ascending key l) :
    (mergeByKey key lists).Pairwise fun x y => key x ≤ key y := by
  induction lists with
  | nil => exact .nil
  | cons l lists ih =>
    obtain ⟨hl, hlists⟩ := List.forall_mem_cons.1 h
    have hle : ∀ {m : List α}, (m.Pairwise fun x y => key x ≤ key y) →
        m.Pairwise fun x y => decide (key x ≤ key y) = true := fun hm => hm.imp decide_eq_true
    have htrans : ∀ x y z : α, decide (key x ≤ key y) = true → decide (key y ≤ key z) = true →
        decide (key x ≤ key z) = true := fun x y z hxy hyz =>
      decide_eq_true (le_trans (of_decide_eq_true hxy) (of_decide_eq_true hyz))
    have htotal : ∀ x y : α, (decide (key x ≤ key y) || decide (key y ≤ key x)) = true := by
      intro x y
      simpa using le_total (key x) (key y)
    have hmerge := List.pairwise_merge htrans htotal l (mergeByKey key lists)
      (hle (hl.imp le_of_lt)) (hle (ih hlists))
    exact hmerge.imp of_decide_eq_true

/-- Ascending rows that are spread over ascending lists are the merge of these. -/
theorem Ascending.eq_mergeByKey {rows : List α} {lists : List (List α)} (hrows : Ascending key rows)
    (hlists : ∀ l ∈ lists, Ascending key l) (hperm : rows.Perm lists.flatten) :
    rows = mergeByKey key lists := by
  have hmerged : rows.Perm (mergeByKey key lists) := hperm.trans (perm_mergeByKey lists).symm
  refine hmerged.eq_of_pairwise (fun x y hx hy hxy hyx => ?_) (hrows.imp le_of_lt)
    (sorted_mergeByKey hlists)
  exact List.inj_on_of_nodup_map hrows.nodup_keys hx (hmerged.mem_iff.2 hy) (le_antisymm hxy hyx)

end Merging

/-! ## Filters of the store -/

/-- A deployment is of the chain, the chain id and the status that a query names. -/
structure DeploymentQuery.Wants (q : DeploymentQuery) (d : Deployment) : Prop where
  chain : ∀ chain ∈ q.chain, d.chain = chain
  chainId : ∀ chainId ∈ q.chainId, d.chainId = chainId
  verified : ∀ verified ∈ q.verified, d.verified = verified

theorem DeploymentQuery.wants_iff {q : DeploymentQuery} {d : Deployment} : q.Wants d ↔
    (∀ chain ∈ q.chain, d.chain = chain) ∧ (∀ chainId ∈ q.chainId, d.chainId = chainId) ∧
      ∀ verified ∈ q.verified, d.verified = verified :=
  ⟨fun h => ⟨h.chain, h.chainId, h.verified⟩, fun ⟨hc, hi, hv⟩ => ⟨hc, hi, hv⟩⟩

instance (q : DeploymentQuery) (d : Deployment) : Decidable (q.Wants d) :=
  decidable_of_iff' _ DeploymentQuery.wants_iff

theorem DeploymentQuery.wants_all (d : Deployment) : DeploymentQuery.all.Wants d :=
  ⟨nofun, nofun, nofun⟩

/-- The same query, for a package or for one version of it. -/
def DeploymentQuery.within (q : DeploymentQuery) (name : String) (version : Option String) :
    DeploymentQuery :=
  { q with package := some name, version := version }

namespace DeploymentFilter

/-- The filter of a query, for the packages of a name. -/
def ofName (q : DeploymentQuery) (name : String) : DeploymentFilter :=
  ⟨q.chain, q.chainId, none, some name, q.verified⟩

/-- The filter of a query, for one package version. -/
def ofVersion (q : DeploymentQuery) (packageId : String) : DeploymentFilter :=
  ⟨q.chain, q.chainId, some packageId, none, q.verified⟩

end DeploymentFilter

namespace Store

open DeploymentFilter

variable {s : Store} {name : String} {d : Deployment} {p : Package}

theorem meets_ofName (q : DeploymentQuery) : s.Meets (ofName q name) d ↔
    (∃ p ∈ s.packages, p.name = name ∧ p.id = d.packageId) ∧ q.Wants d := by
  constructor
  · rintro ⟨hchain, hchainId, -, hname, hverified⟩
    exact ⟨hname name rfl, hchain, hchainId, hverified⟩
  · rintro ⟨hname, hchain, hchainId, hverified⟩
    exact ⟨hchain, hchainId, nofun, fun n hn => Option.some.inj hn ▸ hname, hverified⟩

theorem meets_ofVersion (q : DeploymentQuery) {packageId : String} :
    s.Meets (ofVersion q packageId) d ↔ d.packageId = packageId ∧ q.Wants d := by
  constructor
  · rintro ⟨hchain, hchainId, hid, -, hverified⟩
    exact ⟨hid packageId rfl, hchain, hchainId, hverified⟩
  · rintro ⟨hid, hchain, hchainId, hverified⟩
    exact ⟨hchain, hchainId, fun i hi => Option.some.inj hi ▸ hid, nofun, hverified⟩

/-- A query that wants more picks its rows out of those of one that wants less. -/
theorem deploymentsOf_wanted (hi : Integrity s) (hs : Dated s) {f g : DeploymentFilter}
    {wanted : Deployment → Bool} (h : ∀ d, s.Meets f d ↔ s.Meets g d ∧ wanted d) :
    s.deploymentsOf f = (s.deploymentsOf g).filter wanted := by
  refine (ascending_deploymentsOf hi hs).eq_of_mem_iff
    ((ascending_deploymentsOf hi hs).sublist List.filter_sublist) fun d => ?_
  rw [mem_deploymentsOf, List.mem_filter, mem_deploymentsOf, h, and_assoc]

/-- The deployments of a version of a name, oldest first. -/
def rowsOf (s : Store) (name version : String) : List Deployment :=
  match s.package? name version with
  | some p => s.deploymentsOf (ofVersion .all p.id)
  | none => []

theorem rowsOf_of_stored {version : String} (h : s.package? name version = some p) :
    s.rowsOf name version = s.deploymentsOf (ofVersion .all p.id) := by
  rw [rowsOf, h]

theorem ascending_rowsOf (hi : Integrity s) (hs : Dated s) (name version : String) :
    Ascending Deployment.age (s.rowsOf name version) := by
  rw [rowsOf]
  split
  · exact ascending_deploymentsOf hi hs
  · exact List.Pairwise.nil

theorem mem_rowsOf {version : String} : d ∈ s.rowsOf name version ↔
    d ∈ s.deployments ∧ ∃ p, s.package? name version = some p ∧ p.id = d.packageId := by
  rw [rowsOf]
  cases h : s.package? name version with
  | none => simp
  | some p =>
    dsimp only
    rw [mem_deploymentsOf, meets_ofVersion, and_iff_left (DeploymentQuery.wants_all d)]
    simp [eq_comm]

theorem mem_deploymentsOf_name : d ∈ s.deploymentsOf (ofName .all name) ↔
    d ∈ s.deployments ∧ ∃ p ∈ s.packages, p.name = name ∧ p.id = d.packageId := by
  rw [mem_deploymentsOf, meets_ofName, and_iff_left (DeploymentQuery.wants_all d)]

/-- A deployment is one of a name if it is one of some version of it. -/
theorem mem_name_iff_mem_version (hi : Integrity s) : d ∈ s.deploymentsOf (ofName .all name) ↔
    ∃ v ∈ s.versionsOf name, d ∈ s.rowsOf name v := by
  rw [mem_deploymentsOf_name]
  constructor
  · rintro ⟨hd, p, hp, rfl, hpd⟩
    exact ⟨p.version, mem_versionsOf.2 ⟨p, hp, rfl, rfl⟩,
      mem_rowsOf.2 ⟨hd, p, hi.package?_eq_some.2 ⟨hp, rfl, rfl⟩, hpd⟩⟩
  · rintro ⟨v, -, hd⟩
    obtain ⟨hd, p, hfound, hpd⟩ := mem_rowsOf.1 hd
    obtain ⟨hp, hname, -⟩ := hi.package?_eq_some.1 hfound
    exact ⟨hd, p, hp, hname, hpd⟩

/-- No deployment is one of two versions. -/
theorem nodup_rowsOf_versions (hi : Integrity s) (hs : Dated s) (name : String) :
    ((s.versionsOf name).flatMap (s.rowsOf name)).Nodup := by
  refine List.nodup_flatMap.2 ⟨fun v _ => (ascending_rowsOf hi hs name v).nodup_keys.of_map, ?_⟩
  refine (nodup_versionsOf hi name).imp fun {v w} hvw d hv hw => hvw ?_
  obtain ⟨-, p, hfound, hpd⟩ := mem_rowsOf.1 hv
  obtain ⟨-, p', hfound', hpd'⟩ := mem_rowsOf.1 hw
  obtain ⟨hp, -, rfl⟩ := hi.package?_eq_some.1 hfound
  obtain ⟨hp', -, rfl⟩ := hi.package?_eq_some.1 hfound'
  rw [eq_of_key hi.packageIds hp hp' (hpd.trans hpd'.symm)]

/-- The deployments of a name are those of its versions, merged. -/
theorem eq_mergeByKey_versions (hi : Integrity s) (hs : Dated s) (name : String) :
    s.deploymentsOf (ofName .all name) =
      mergeByKey Deployment.age ((s.versionsOf name).map (s.rowsOf name)) := by
  have hasc := ascending_deploymentsOf (f := ofName .all name) hi hs
  refine hasc.eq_mergeByKey (fun l hl => ?_) ?_
  · obtain ⟨v, -, rfl⟩ := List.mem_map.1 hl
    exact ascending_rowsOf hi hs name v
  · rw [← List.flatMap_def, List.perm_ext_iff_of_nodup hasc.nodup_keys.of_map
      (nodup_rowsOf_versions hi hs name)]
    exact fun d => (mem_name_iff_mem_version hi).trans List.mem_flatMap.symm

end Store

namespace Registry

open Store DeploymentFilter

variable {s : Store} {name version : String} {p : Package}

/-! ## Listings of the services -/

/-- What the listing answers when it is asked for a page of a query. -/
def listing (q : DeploymentQuery) (s : Store) (page : PageRequest) :
    Except RegistryError (Page Deployment) := answer (deployments q page) s

/-- What the listing of one version answers when it is asked for a page. -/
def listingOf (name version : String) (s : Store) (page : PageRequest) :
    Except RegistryError (Page Deployment) := answer (deploymentsOf name version page) s

/-- The listing of a version is the query for it and nothing else, in every registry: it fails
where the query fails, with the same error, and leaves the same registry. -/
theorem deployments_within_version (name version : String) (page : PageRequest) (r : Registry) :
    deployments (DeploymentQuery.all.within name (some version)) page r =
      deploymentsOf name version page r := by
  have hfilter : filterOf (DeploymentQuery.all.within name (some version)) = (do
      let p ← exactPackage name version
      return ofVersion .all p.id) := rfl
  rw [deployments, hfilter, bind_assoc]
  simp only [pure_bind]
  rfl

/-- Following the pages of a query whose filter is known yields the rows that it lets through. -/
theorem enumerates_listing (hi : Integrity s) (hs : Dated s) {q : DeploymentQuery}
    {f : DeploymentFilter} (hfilter : filterOf q ⟨s, []⟩ = .ok f ⟨s, []⟩) :
    Enumerates (listing q) s (s.deploymentsOf f) := by
  have hserves : Serves (listing q) (· = s) (fun s => s.deploymentsOf f)
      Deployment.age Deployment.cursor := by
    refine (serves_listDeployments f).of_ok (fun _ h => h ▸ ⟨hi, hs⟩) fun u page rows hu hrows => ?_
    subst hu
    obtain ⟨t, ht⟩ := exists_of_outcome hrows
    rw [listing, answer, deployments, bind_of_ok hfilter, use_calm, ht]
    rfl
  exact hserves.enumerates rfl

theorem enumerates_within_name (hi : Integrity s) (hs : Dated s) (q : DeploymentQuery)
    (name : String) : Enumerates (listing (q.within name none)) s
      ((s.deploymentsOf (ofName .all name)).filter (q.Wants ·)) := by
  have hwanted : ∀ d, s.Meets (ofName q name) d ↔ s.Meets (ofName .all name) d ∧ decide (q.Wants d) := by
    intro d
    rw [decide_eq_true_eq, meets_ofName, meets_ofName, and_iff_left (DeploymentQuery.wants_all d)]
  rw [← deploymentsOf_wanted hi hs hwanted]
  exact enumerates_listing hi hs rfl

theorem enumerates_within_version (hi : Integrity s) (hs : Dated s) (q : DeploymentQuery)
    (hversion : exactVersion version ∈ s.versionsOf name) :
    Enumerates (listing (q.within name (some version))) s
      ((s.rowsOf name (exactVersion version)).filter (q.Wants ·)) := by
  obtain ⟨p, hp, hname, hv⟩ := mem_versionsOf.1 hversion
  have hfound : s.package? name (exactVersion version) = some p :=
    hi.package?_eq_some.2 ⟨hp, hname, hv⟩
  have hpackage : exactPackage name version ⟨s, []⟩ = .ok p ⟨s, []⟩ := by
    rw [exactPackage_run, hfound]
  have hwanted : ∀ d, s.Meets (ofVersion q p.id) d ↔
      s.Meets (ofVersion .all p.id) d ∧ decide (q.Wants d) := by
    intro d
    rw [decide_eq_true_eq, meets_ofVersion, meets_ofVersion, and_iff_left (DeploymentQuery.wants_all d)]
  rw [rowsOf_of_stored hfound, ← deploymentsOf_wanted hi hs hwanted]
  exact enumerates_listing hi hs (bind_of_ok hpackage)

/-- In every registry that a run leaves behind, the listings by package agree. The pages for a name
hold each deployment of it once, by age, and are those of its versions merged; the query for one
version and its listing answer alike, errors included; and the pages of a query that wants a chain,
a chain id or a status besides hold what it wants of those without. -/
theorem listings_by_package_agree {r : Registry} (hrun : Run Regular .empty r) (name : String) :
    ∃ (all : List Deployment) (rowsOf : String → List Deployment),
      (Ascending Deployment.age all ∧ (all.map (·.id)).Nodup ∧
        ∀ d, d ∈ all ↔ d ∈ r.store.deployments ∧
          ∃ p ∈ r.store.packages, p.name = name ∧ p.id = d.packageId) ∧
      Enumerates (listing (DeploymentQuery.all.within name none)) r.store all ∧
      (∀ v ∈ r.store.versionsOf name, Enumerates (listingOf name v) r.store (rowsOf v)) ∧
      all = mergeByKey Deployment.age ((r.store.versionsOf name).map rowsOf) ∧
      (∀ version page, deployments (DeploymentQuery.all.within name (some version)) page r =
        deploymentsOf name version page r) ∧
      ∀ q : DeploymentQuery,
        Enumerates (listing (q.within name none)) r.store (all.filter (q.Wants ·)) ∧
        ∀ version, exactVersion version ∈ r.store.versionsOf name →
          Enumerates (listing (q.within name (some version))) r.store
            ((rowsOf (exactVersion version)).filter (q.Wants ·)) := by
  have hi := hrun.integrity integrity_empty
  have hs := hrun.dated
  have hwants : ∀ rows : List Deployment, rows.filter (DeploymentQuery.all.Wants ·) = rows :=
    fun _ => List.filter_eq_self.2 fun d _ => decide_eq_true (DeploymentQuery.wants_all d)
  have hexact : ∀ v ∈ r.store.versionsOf name, exactVersion v = v := by
    intro v hv
    obtain ⟨p, hp, -, rfl⟩ := mem_versionsOf.1 hv
    rw [exactVersion, hrun.valid.versions p hp]
    rfl
  have hlisting : ∀ v, listing (DeploymentQuery.all.within name (some v)) = listingOf name v :=
    fun v => funext fun s => funext fun page =>
      congrArg outcome (deployments_within_version name v page ⟨s, []⟩)
  refine ⟨r.store.deploymentsOf (ofName .all name), r.store.rowsOf name,
    ⟨ascending_deploymentsOf hi hs, nodup_deploymentsOf hi, fun d => mem_deploymentsOf_name⟩, ?_,
    fun v hv => ?_, eq_mergeByKey_versions hi hs name,
    fun version page => deployments_within_version name version page r,
    fun q => ⟨enumerates_within_name hi hs q name, fun _ => enumerates_within_version hi hs q⟩⟩
  · have hall := enumerates_within_name hi hs .all name
    rwa [hwants] at hall
  · have hone := enumerates_within_version hi hs .all ((hexact v hv).symm ▸ hv)
    rwa [hwants, hexact v hv, hlisting] at hone

/-- Two versions, the first of them deployed before and after the other. -/
theorem listings_by_package_agree_two_versions :
    ∃ (r : Registry) (all : List Deployment) (rowsOf : String → List Deployment),
      Run Regular .empty r ∧ r.store.versionsOf "tokens" = ["1.0.0", "1.1.0"] ∧
      r.store.deployments.map (·.chainId) = [1, 2, 3] ∧
      Enumerates (listing (DeploymentQuery.all.within "tokens" none)) r.store all ∧
      (∀ v ∈ ["1.0.0", "1.1.0"], Enumerates (listingOf "tokens" v) r.store (rowsOf v)) ∧
      all = mergeByKey Deployment.age [rowsOf "1.0.0", rowsOf "1.1.0"] := by
  let supply (n : Nat) : Supply := ⟨⟨n⟩, fun k => toString (k + n), "secret"⟩
  have hyears : ∀ n ∈ [0, 5, 10, 20, 30], (supply n).now.HasPlainYear := by
    unfold Time.HasPlainYear
    decide
  have hregular : ∀ n ∈ [0, 5, 10, 20, 30],
      (supply n).now.HasPlainYear ∧ ∀ k, (supply n).id k ≠ "" := fun n hn =>
    ⟨hyears n hn, fun k => Nat.repr_ne_empty⟩
  let token : ContractSubmission := ⟨"Token", "src/Token.sol", none, none, none, none, none⟩
  let published (n : Nat) (version : String) : Event := .request (supply n)
    (.publish "tokens" version "k1" ⟨"evm", "", none, none, [], [token]⟩)
  let recorded (n : Nat) (version : String) (chainId : Int) : Event := .request (supply n)
    (.record ⟨"tokens", version, "Token", chainId, "0x00000000000000000000000000000000000000aa",
      none, none, none, none, none⟩)
  let r₁ := (published 5 "1.1.0").apply ((published 0 "1.0.0").apply .empty)
  let r₂ := (recorded 20 "v1.1.0" 2).apply ((recorded 10 "1.0.0" 1).apply r₁)
  let r := (recorded 30 "1.0.0" 3).apply r₂
  have hrun₁ : Run Regular .empty r₁ :=
    .snoc (.snoc .nil (hregular 0 (by decide))) (hregular 5 (by decide))
  have hrun₂ : Run Regular .empty r₂ :=
    .snoc (.snoc hrun₁ (hregular 10 (by decide))) (hregular 20 (by decide))
  have hrun : Run Regular .empty r := .snoc hrun₂ (hregular 30 (by decide))
  have hversions : r.store.versionsOf "tokens" = ["1.0.0", "1.1.0"] := by decide +kernel
  obtain ⟨all, rowsOf, -, hall, hrows, hmerge, -⟩ := listings_by_package_agree hrun "tokens"
  rw [hversions] at hrows hmerge
  exact ⟨r, all, rowsOf, hrun, hversions, by decide +kernel, hall, hrows, hmerge⟩

end Registry

end BuildRegistry
