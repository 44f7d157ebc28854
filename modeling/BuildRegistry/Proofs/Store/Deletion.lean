import Mathlib.Logic.Relation
import BuildRegistry.Proofs.Store.Integrity

/-
  What a deletion takes from the store. `rows` are the rows of all six tables; a row refers to
  another one by its id (`Row.RefersTo`). `Belongs` says which rows go: the package with that id,
  its contracts and deployments, and the outputs of its contracts. They are exactly the rows from
  which references lead to the package, in any number of steps (`belongs_iff_dependsOn`), and so no
  row that stays refers to one that is gone (`Belongs.of_refersTo`).

  All of this holds of any six tables. That one package is gone, and that its keys are free again,
  needs keys to be unique (`Integrity`): another package of the same version would still hold them.

  Main statement (`deletePackage_takes`): a deletion that succeeds takes these rows and no others, a
  second one finds nothing, and the version and the sites of its deployments can be taken again.
-/

namespace BuildRegistry.Store

/-- A row of one of the tables. -/
inductive Row where
  | package (p : Package)
  | owner (o : Owner)
  | contract (c : Contract)
  | artifact (a : Artifact)
  | deployment (d : Deployment)
  | key (k : ApiKey)

/-- A row holds the id of another one. -/
inductive Row.RefersTo : Row → Row → Prop where
  | contract {c : Contract} {p : Package} (h : c.packageId = p.id) :
      RefersTo (.contract c) (.package p)
  | artifact {a : Artifact} {c : Contract} (h : a.contractId = c.id) :
      RefersTo (.artifact a) (.contract c)
  | deployment {d : Deployment} {p : Package} (h : d.packageId = p.id) :
      RefersTo (.deployment d) (.package p)

/-- The rows of all tables, table by table. -/
def rows (s : Store) : List Row :=
  s.packages.map .package ++ s.owners.map .owner ++ s.contracts.map .contract ++
    s.artifacts.map .artifact ++ s.deployments.map .deployment ++ s.keys.map .key

/-- References lead from the first row to the second. -/
def DependsOn (s : Store) : Row → Row → Prop :=
  Relation.ReflTransGen fun x y => y ∈ s.rows ∧ x.RefersTo y

/-- The row is the package with that id, or a part of it. -/
def Belongs (s : Store) (id : String) : Row → Prop
  | .package p => p.id = id
  | .contract c => c.packageId = id
  | .artifact a => ∃ c ∈ s.contracts, c.packageId = id ∧ c.id = a.contractId
  | .deployment d => d.packageId = id
  | .owner _ | .key _ => False

instance (s : Store) (id : String) : DecidablePred (s.Belongs id)
  | .package p => inferInstanceAs (Decidable (p.id = id))
  | .contract c => inferInstanceAs (Decidable (c.packageId = id))
  | .artifact a =>
    inferInstanceAs (Decidable (∃ c ∈ s.contracts, c.packageId = id ∧ c.id = a.contractId))
  | .deployment d => inferInstanceAs (Decidable (d.packageId = id))
  | .owner _ | .key _ => inferInstanceAs (Decidable False)

variable {s t : Store} {id : String} {x y : Row}

/-! ## The rows that go -/

@[simp] theorem package_mem_rows {p : Package} : .package p ∈ s.rows ↔ p ∈ s.packages := by
  simp [rows]

@[simp] theorem contract_mem_rows {c : Contract} : .contract c ∈ s.rows ↔ c ∈ s.contracts := by
  simp [rows]

/-- What refers to a row of the package is a row of the package. -/
theorem Belongs.of_refersTo (h : s.Belongs id y) (hy : y ∈ s.rows) (hxy : x.RefersTo y) :
    s.Belongs id x := by
  cases hxy with
  | contract hp => exact hp.trans h
  | artifact hc => exact ⟨_, contract_mem_rows.1 hy, h, hc.symm⟩
  | deployment hp => exact hp.trans h

theorem Belongs.of_dependsOn (h : s.Belongs id y) (hxy : s.DependsOn x y) : s.Belongs id x := by
  induction hxy using Relation.ReflTransGen.head_induction_on with
  | refl => exact h
  | head hstep _ ih => exact ih.of_refersTo hstep.1 hstep.2

/-- The rows of a package that is stored are those from which references lead to it. -/
theorem belongs_iff_dependsOn (hthere : (s.packageById? id).isSome) (hx : x ∈ s.rows) :
    s.Belongs id x ↔ ∃ p ∈ s.packages, p.id = id ∧ s.DependsOn x (.package p) := by
  constructor
  · intro h
    obtain ⟨p, hp, hid⟩ := List.mem_map.1 (mem_key_of_find? hthere)
    have hhome : .package p ∈ s.rows := package_mem_rows.2 hp
    cases x with
    | package q => exact ⟨q, package_mem_rows.1 hx, h, .refl⟩
    | contract c => exact ⟨p, hp, hid, .single ⟨hhome, .contract (h.trans hid.symm)⟩⟩
    | deployment d => exact ⟨p, hp, hid, .single ⟨hhome, .deployment (h.trans hid.symm)⟩⟩
    | artifact a =>
      obtain ⟨c, hc, hcp, hac⟩ := h
      exact ⟨p, hp, hid, .head ⟨contract_mem_rows.2 hc, .artifact hac.symm⟩
        (.single ⟨hhome, .contract (hcp.trans hid.symm)⟩)⟩
    | owner o => exact h.elim
    | key k => exact h.elim
  · rintro ⟨p, -, hid, hpath⟩
    exact .of_dependsOn (show s.Belongs id (.package p) from hid) hpath

/-- Of one table, the rows that stay are those that its own condition lets through. -/
theorem filter_table {α : Type} {f : α → Row} {keep : α → Bool} {l l' : List α}
    (hl : l' = l.filter keep) (h : ∀ a, keep a = true ↔ ¬ s.Belongs id (f a)) :
    (l.map f).filter (fun row => ¬ s.Belongs id row) = l'.map f := by
  rw [hl, List.filter_map]
  refine congrArg (List.map f) (List.filter_congr fun a _ => ?_)
  rw [Bool.eq_iff_iff, h a]
  exact decide_eq_true_iff

theorem rows_withoutPackage (s : Store) (id : String) :
    (s.withoutPackage id).rows = s.rows.filter fun row => ¬ s.Belongs id row := by
  let t := s.withoutPackage id
  let stays : Row → Bool := fun row => ¬ s.Belongs id row
  have hpackages : (s.packages.map .package).filter stays = t.packages.map .package :=
    filter_table rfl fun p => decide_eq_true_iff
  have howners : (s.owners.map .owner).filter stays = t.owners.map .owner :=
    filter_table (List.filter_true s.owners).symm fun o => iff_of_true rfl not_false
  have hcontracts : (s.contracts.map .contract).filter stays = t.contracts.map .contract :=
    filter_table rfl fun c => decide_eq_true_iff
  have hartifacts : (s.artifacts.map .artifact).filter stays = t.artifacts.map .artifact :=
    filter_table rfl fun a => by simp [Belongs]
  have hdeployments :
      (s.deployments.map .deployment).filter stays = t.deployments.map .deployment :=
    filter_table rfl fun d => decide_eq_true_iff
  have hkeys : (s.keys.map .key).filter stays = t.keys.map .key :=
    filter_table (List.filter_true s.keys).symm fun k => iff_of_true rfl not_false
  change t.rows = s.rows.filter stays
  rw [rows, rows, List.filter_append, List.filter_append, List.filter_append, List.filter_append,
    List.filter_append, hpackages, howners, hcontracts, hartifacts, hdeployments, hkeys]

/-! ## What is left -/

/-- What a deletion does to the six tables. -/
structure Deletion (id : String) (s t : Store) : Prop where
  /-- The rows that belong to the package go, and all others stay, in their order. -/
  rows : t.rows = s.rows.filter fun row => ¬ s.Belongs id row
  /-- Those that go are the package and what depends on it, through however many references. -/
  dependent : ∀ row ∈ s.rows,
    s.Belongs id row ↔ ∃ p ∈ s.packages, p.id = id ∧ s.DependsOn row (.package p)
  unreferenced : ∀ row ∈ t.rows, ∀ gone ∈ s.rows, s.Belongs id gone → ¬ row.RefersTo gone
  again : deletePackage id t = .error (.notFound ("package " ++ id)) t

/-- One version is gone, and what it occupied can be taken again: no key but the id of the row that
takes it stands in the way. -/
structure Freed (p : Package) (s t : Store) : Prop where
  one : s.packages.Perm (p :: t.packages)
  version : ∀ q : Package, q.name = p.name → q.version = p.version →
    ((∃ u, insertPackage q t = .ok () u) ↔ q.id ∉ t.packages.map (·.id))
  sites : ∀ d ∈ s.deployments, d.packageId = p.id →
    ∀ e : Deployment, d.isAt e.chain e.chainId e.address →
      ((∃ u, recordDeployment e t = .ok () u) ↔
        e.id ∉ t.deployments.map (·.id) ∧ e.packageId ∈ t.packages.map (·.id))

theorem deletion_withoutPackage (hthere : (s.packageById? id).isSome) :
    Deletion id s (s.withoutPackage id) where
  rows := rows_withoutPackage s id
  dependent row hrow := belongs_iff_dependsOn hthere hrow
  unreferenced row hrow gone hgone hbelongs href := by
    rw [rows_withoutPackage, List.mem_filter, decide_eq_true_eq] at hrow
    exact hrow.2 (hbelongs.of_refersTo hgone href)
  again := by
    have hnone : (s.withoutPackage id).packageById? id = none := by
      simp [packageById?, withoutPackage, List.find?_eq_none]
    rw [deletePackage_run, hnone]
    rfl

/-- A package goes in exactly when no other one has its id or its version. -/
theorem insertPackage_succeeds {p : Package} :
    (∃ t, insertPackage p s = .ok () t) ↔ ∀ q ∈ s.packages, p.clashes q = false := by
  rw [insertPackage_run]
  split
  · rename_i hany
    obtain ⟨q, hq, hclash⟩ := List.any_eq_true.1 hany
    constructor
    · rintro ⟨t, ⟨⟩⟩
    · intro hnone
      rw [hnone q hq] at hclash
      cases hclash
  · rename_i hany
    exact iff_of_true ⟨_, rfl⟩ (by simpa using hany)

/-- A deployment is recorded exactly when no other one has its id or its site, and its package is
there. -/
theorem recordDeployment_succeeds {d : Deployment} :
    (∃ t, recordDeployment d s = .ok () t) ↔
      (∀ e ∈ s.deployments, d.clashes e = false) ∧ d.packageId ∈ s.packages.map (·.id) := by
  rw [recordDeployment_run]
  split
  · rename_i hany
    obtain ⟨e, he, hclash⟩ := List.any_eq_true.1 hany
    constructor
    · rintro ⟨t, ⟨⟩⟩
    · rintro ⟨hnone, -⟩
      rw [hnone e he] at hclash
      cases hclash
  · rename_i hany
    have hfree : ∀ e ∈ s.deployments, d.clashes e = false := by simpa using hany
    split
    · rename_i hgone
      constructor
      · rintro ⟨t, ⟨⟩⟩
      · rintro ⟨-, hhome⟩
        exact absurd hgone (not_isNone_of_mem_key hhome)
    · rename_i hthere
      exact iff_of_true ⟨_, rfl⟩ ⟨hfree, mem_key_of_find? (by simpa [packageById?] using hthere)⟩

/-- Where rows clash by their ids alone, an id that is not there clashes with none. -/
theorem no_clash_iff {α : Type} {l : List α} {clashes : α → Bool} {key : α → String} {k : String}
    (h : ∀ a ∈ l, clashes a = true ↔ key a = k) :
    (∀ a ∈ l, clashes a = false) ↔ k ∉ l.map key := by
  rw [List.mem_map, not_exists]
  refine forall_congr' fun a => ?_
  rw [not_and]
  refine forall_congr' fun ha => ?_
  rw [← Bool.not_eq_true, h a ha]

theorem freed_withoutPackage (hi : Integrity s) {p : Package} (hp : p ∈ s.packages) :
    Freed p s (s.withoutPackage p.id) where
  one := by
    have hnodup : s.packages.Nodup := hi.packageIds.of_map _
    have hrest : s.packages.erase p = s.packages.filter (·.id ≠ p.id) := by
      rw [hnodup.erase_eq_filter]
      refine List.filter_congr fun q hq => ?_
      rw [Bool.eq_iff_iff, bne_iff_ne, decide_eq_true_eq, not_iff_not]
      exact ⟨congrArg _, eq_of_key hi.packageIds hq hp⟩
    rw [withoutPackage, ← hrest]
    exact List.perm_cons_erase hp
  version := by
    intro q hname hversion
    rw [insertPackage_succeeds]
    refine no_clash_iff fun q' hq' => ?_
    obtain ⟨hq', hne⟩ := List.mem_filter.1 hq'
    have hother : ¬ (q.name = q'.name ∧ q.version = q'.version) := by
      rintro ⟨hn, hv⟩
      have hsame : (q'.name, q'.version) = (p.name, p.version) := by
        rw [← hn, ← hv, hname, hversion]
      exact of_decide_eq_true hne (congrArg _ (eq_of_key hi.packageVersions hq' hp hsame))
    rw [Package.clashes, Bool.or_eq_true, Bool.and_eq_true, decide_eq_true_eq, decide_eq_true_eq,
      decide_eq_true_eq, or_iff_left hother, eq_comm]
  sites := by
    intro d hd hid e hsite
    rw [recordDeployment_succeeds]
    refine and_congr_left' (no_clash_iff fun d' hd' => ?_)
    obtain ⟨hd', hne⟩ := List.mem_filter.1 hd'
    have hother : ¬ d'.isAt e.chain e.chainId e.address := by
      intro hsite'
      simp only [Deployment.isAt, Bool.and_eq_true, decide_eq_true_eq] at hsite hsite'
      have hsame : (d'.chain, d'.chainId, d'.address) = (d.chain, d.chainId, d.address) := by
        rw [hsite.1.1, hsite.1.2, hsite.2, hsite'.1.1, hsite'.1.2, hsite'.2]
      obtain rfl := eq_of_key hi.deploymentSites hd' hd hsame
      exact of_decide_eq_true hne hid
    rw [Deployment.clashes, Bool.or_eq_true, decide_eq_true_eq, or_iff_left hother, eq_comm]

/-- A deletion that succeeds takes the package, its contracts and deployments and the outputs of
its contracts, and no other row. Nothing that is left refers to what is gone, and a second deletion
finds no such package. Where keys are unique, as they are after every history of a store, one
version is gone; it can be stored again, and so can deployments at the sites of those that went
with it. -/
theorem deletePackage_takes {u : Unit} (h : deletePackage id s = .ok u t) :
    Deletion id s t ∧ (Integrity s → ∃ p, p.id = id ∧ Freed p s t) := by
  rw [deletePackage_run] at h
  split at h
  · rename_i hthere
    cases h
    refine ⟨deletion_withoutPackage hthere, fun hi => ?_⟩
    obtain ⟨p, hp, rfl⟩ := List.mem_map.1 (mem_key_of_find? hthere)
    exact ⟨p, rfl, freed_withoutPackage hi hp⟩
  · cases h

/-- Of two versions with the same contract, output and chain, one goes with its three rows. -/
theorem deletePackage_takes_one_of_two : ∃ (s t : Store) (p : Package),
    deletePackage "p" s = .ok () t ∧ Integrity s ∧ Deletion "p" s t ∧ p.id = "p" ∧ Freed p s t ∧
      s.rows.length = 10 ∧ t.rows.length = 6 ∧ t.owners = s.owners ∧ t.keys = s.keys := by
  let package (id version : String) : Package :=
    ⟨id, "tokens", version, "evm", "", none, none, "", "k1", ⟨0⟩⟩
  let contract (id packageId : String) : Contract := ⟨id, packageId, "Token", "", "", ⟨0⟩⟩
  let output (id contractId : String) : Artifact := ⟨id, contractId, "abi", [1], "", ⟨0⟩⟩
  let deployment (id packageId address : String) : Deployment :=
    ⟨id, packageId, "Token", "evm", 1, address, none, none, none, none, false, none, none, ⟨0⟩⟩
  let s : Store :=
    { packages := [package "p" "1.0.0", package "p'" "1.1.0"]
      owners := [⟨"tokens", "k1", ⟨0⟩⟩]
      contracts := [contract "c" "p", contract "c'" "p'"]
      artifacts := [output "a" "c", output "a'" "c'"]
      deployments := [deployment "d" "p" "0xaa", deployment "d'" "p'" "0xbb"]
      keys := [⟨"k1", "ci", [1], ⟨0⟩, none, none⟩] }
  have hi : Integrity s := by constructor <;> decide +kernel
  have hdeleted : deletePackage "p" s = .ok () (s.withoutPackage "p") := by
    rw [deletePackage_run, if_pos (by decide +kernel)]
  obtain ⟨hdeletion, hfreed⟩ := deletePackage_takes hdeleted
  obtain ⟨p, hp, hfreed⟩ := hfreed hi
  exact ⟨s, s.withoutPackage "p", p, hdeleted, hi, hdeletion, hp, hfreed, by decide +kernel,
    by decide +kernel, rfl, rfl⟩

end BuildRegistry.Store
