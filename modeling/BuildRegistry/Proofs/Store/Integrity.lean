import Mathlib.Data.List.Nodup
import Mathlib.Order.Compare
import Mathlib.Order.Lattice
import BuildRegistry.Proofs.Store.Operations

/-
  Keys and references of the store. `Integrity` says that the keys of each table are unique and
  that every row that refers to another table refers to a row that is there. Each write checks
  what it needs for it, so every operation keeps it (`keeps_…`), also one that fails half-way.
-/

namespace BuildRegistry.Store

/-- Keys are unique, and no reference dangles. -/
structure Integrity (s : Store) : Prop where
  packageIds : (s.packages.map (·.id)).Nodup
  packageVersions : (s.packages.map fun p => (p.name, p.version)).Nodup
  ownerNames : (s.owners.map (·.name)).Nodup
  contractIds : (s.contracts.map (·.id)).Nodup
  contractPaths : (s.contracts.map fun c => (c.packageId, c.name, c.sourcePath)).Nodup
  artifactIds : (s.artifacts.map (·.id)).Nodup
  artifactSlots : (s.artifacts.map fun a => (a.contractId, a.kind)).Nodup
  deploymentIds : (s.deployments.map (·.id)).Nodup
  deploymentSites : (s.deployments.map fun d => (d.chain, d.chainId, d.address)).Nodup
  keyIds : (s.keys.map (·.id)).Nodup
  keyHashes : (s.keys.map (·.hash)).Nodup
  contractHomes : ∀ c ∈ s.contracts, c.packageId ∈ s.packages.map (·.id)
  artifactHomes : ∀ a ∈ s.artifacts, a.contractId ∈ s.contracts.map (·.id)
  deploymentHomes : ∀ d ∈ s.deployments, d.packageId ∈ s.packages.map (·.id)

theorem integrity_empty : Integrity empty := by
  constructor <;> simp [empty]

/-! ## Rows by their keys -/

section Rows

variable {α κ : Type}

/-- A row whose key is new leaves the keys unique. -/
theorem nodup_key_concat {key : α → κ} {l : List α} {x : α} (hl : (l.map key).Nodup)
    (hx : ∀ y ∈ l, key y ≠ key x) : ((l ++ [x]).map key).Nodup := by
  rw [List.map_append, List.map_singleton, List.nodup_append]
  refine ⟨hl, List.nodup_singleton _, ?_⟩
  intro a ha b hb
  obtain ⟨y, hy, rfl⟩ := List.mem_map.1 ha
  rw [List.mem_singleton.1 hb]
  exact hx y hy

theorem nodup_key_filter {key : α → κ} {l : List α} (p : α → Bool) (hl : (l.map key).Nodup) :
    ((l.filter p).map key).Nodup := hl.sublist (List.filter_sublist.map key)

/-- A change that leaves a key alone leaves the list of keys as it was. -/
theorem map_key_map {key : α → κ} {f : α → α} (hf : ∀ x, key (f x) = key x) (l : List α) :
    (l.map f).map key = l.map key := by
  rw [List.map_map]
  exact List.map_congr_left fun x _ => hf x

theorem eq_of_key {key : α → κ} {l : List α} (hl : (l.map key).Nodup) {x y : α} (hx : x ∈ l)
    (hy : y ∈ l) (h : key x = key y) : x = y := List.inj_on_of_nodup_map hl hx hy h

/-- Rows of one home are told apart by the rest of their key. -/
theorem nodup_key_of_home {η : Type} [DecidableEq η] {home : α → η} {key : α → κ} {l : List α}
    (hl : (l.map fun x => (home x, key x)).Nodup) (h : η) :
    ((l.filter (home · = h)).map key).Nodup := by
  have hkeys := nodup_key_filter (fun x => decide (home x = h)) hl
  refine List.Nodup.map_on (fun x hx y hy hkey => ?_) hkeys.of_map
  have hhome : home x = home y :=
    (of_decide_eq_true (List.mem_filter.1 hx).2).trans
      (of_decide_eq_true (List.mem_filter.1 hy).2).symm
  exact eq_of_key hkeys hx hy (Prod.ext hhome hkey)

/-- A change that leaves rows with other keys alone is a change of one row. -/
theorem map_at_key {key : α → κ} {l : List α} (hl : (l.map key).Nodup) {x : α} (hx : x ∈ l)
    {f : α → α} (hf : ∀ y, key y ≠ key x → f y = y) :
    ∃ before after, l = before ++ x :: after ∧ l.map f = before ++ f x :: after := by
  obtain ⟨before, after, rfl⟩ := List.append_of_mem hx
  rw [List.map_append, List.map_cons, List.nodup_middle, List.nodup_cons, List.mem_append,
    not_or] at hl
  obtain ⟨⟨hbefore, hafter⟩, -⟩ := hl
  have hothers : ∀ rows : List α, key x ∉ rows.map key → rows.map f = rows := by
    intro rows hrows
    have hne : ∀ y ∈ rows, key y ≠ key x := fun y hy heq => hrows (heq ▸ List.mem_map_of_mem hy)
    calc rows.map f = rows.map id := List.map_congr_left fun y hy => hf y (hne y hy)
      _ = rows := List.map_id rows
  refine ⟨before, after, rfl, ?_⟩
  rw [List.map_append, List.map_cons, hothers before hbefore, hothers after hafter]

/-- The row found by its key. -/
theorem find?_eq_some_of_key [DecidableEq κ] {key : α → κ} {l : List α} (hl : (l.map key).Nodup)
    {x : α} (hx : x ∈ l) : l.find? (fun y => key y = key x) = some x := by
  cases h : l.find? (fun y => decide (key y = key x)) with
  | none => simpa using List.find?_eq_none.1 h x hx
  | some y =>
    have hk : key y = key x := by simpa using List.find?_some h
    rw [eq_of_key hl (List.mem_of_find?_eq_some h) hx hk]

theorem mem_key_of_find? {key : α → κ} [DecidableEq κ] {l : List α} {k : κ}
    (h : (l.find? fun x => key x = k).isSome) : k ∈ l.map key := by
  obtain ⟨x, hx⟩ := Option.isSome_iff_exists.1 h
  have hk : key x = k := by simpa using List.find?_some hx
  exact hk ▸ List.mem_map_of_mem (List.mem_of_find?_eq_some hx)

theorem not_isNone_of_mem_key {key : α → κ} [DecidableEq κ] {l : List α} {k : κ}
    (h : k ∈ l.map key) : ¬ (l.find? fun x => key x = k).isNone := by
  obtain ⟨x, hx, hk⟩ := List.mem_map.1 h
  rw [Option.isNone_iff_eq_none, List.find?_eq_none]
  exact fun hnone => hnone x hx (decide_eq_true hk)

end Rows

section Order

variable {α κ : Type} [LinearOrder κ] {key : α → κ} {compareRows : α → α → Ordering}

theorem compare_isLE_iff {a b : κ} : (compare a b).isLE ↔ a ≤ b :=
  Ordering.ne_gt_iff_isLE.symm.trans compare_le_iff_le

/-- Rows that are compared by a key are put in its order. -/
theorem sorted_inOrder (hle : ∀ a b, (compareRows a b).isLE ↔ key a ≤ key b) (rows : List α) :
    (inOrder compareRows rows).Pairwise fun a b => key a ≤ key b := by
  have hsorted : (inOrder compareRows rows).Pairwise fun a b => (compareRows a b).isLE :=
    List.pairwise_mergeSort
      (fun a b c hab hbc => (hle a c).2 (le_trans ((hle a b).1 hab) ((hle b c).1 hbc)))
      (fun a b => Bool.or_eq_true_iff.2 ((le_total _ _).imp (hle a b).2 (hle b a).2)) rows
  exact hsorted.imp fun h => (hle _ _).1 h

/-- Rows with distinct keys are put in strict order. -/
theorem ascending_inOrder (hle : ∀ a b, (compareRows a b).isLE ↔ key a ≤ key b) {rows : List α}
    (hrows : (rows.map key).Nodup) :
    (inOrder compareRows rows).Pairwise fun a b => key a < key b := by
  have hkeys : (inOrder compareRows rows).Pairwise fun a b => key a ≠ key b :=
    List.pairwise_map.1 (((List.mergeSort_perm rows _).map key).nodup_iff.2 hrows)
  exact ((sorted_inOrder hle rows).and hkeys).imp fun h => lt_of_le_of_ne h.1 h.2

end Order

/-- A contract has one output of a kind. -/
theorem Integrity.outputKinds {s : Store} (hi : Integrity s) (contractId : String) :
    ((s.outputsOf contractId).map (·.kind)).Nodup := nodup_key_of_home hi.artifactSlots contractId

/-- A package version is found exactly where it is stored. -/
theorem Integrity.package?_eq_some {s : Store} (hi : Integrity s) {name version : String}
    {p : Package} : s.package? name version = some p ↔
      p ∈ s.packages ∧ p.name = name ∧ p.version = version := by
  constructor
  · intro h
    exact ⟨List.mem_of_find?_eq_some h, by simpa using List.find?_some h⟩
  · rintro ⟨hp, rfl, rfl⟩
    have := find?_eq_some_of_key hi.packageVersions hp
    simpa [package?, Bool.decide_and] using this

/-- A deployment is found exactly where it is recorded. -/
theorem Integrity.deployment?_eq_some {s : Store} (hi : Integrity s) {chain address : String}
    {chainId : Int} {d : Deployment} : s.deployment? chain chainId address = some d ↔
      d ∈ s.deployments ∧ d.chain = chain ∧ d.chainId = chainId ∧ d.address = address := by
  constructor
  · intro h
    have hat := List.find?_some h
    simp only [Deployment.isAt, Bool.and_eq_true, decide_eq_true_eq, and_assoc] at hat
    exact ⟨List.mem_of_find?_eq_some h, hat⟩
  · rintro ⟨hd, rfl, rfl, rfl⟩
    have := find?_eq_some_of_key hi.deploymentSites hd
    simpa [deployment?, Deployment.isAt, Bool.decide_and, Bool.and_assoc] using this

/-! ## Every write keeps it -/

/-- A step after which the store is whole again if it was before. -/
abbrev KeepsIntegrity {α : Type} (act : StoreM α) : Prop :=
  Steps (fun s t => Integrity s → Integrity t) act

theorem keeps_insertPackage (p : Package) : KeepsIntegrity (insertPackage p) := by
  intro s hi
  rw [insertPackage_run]
  split
  · exact hi
  · rename_i hclash
    have hnew : ∀ q ∈ s.packages, q.id ≠ p.id ∧ (q.name, q.version) ≠ (p.name, p.version) := by
      intro q hq
      have : ¬ p.clashes q := fun h => hclash (List.any_eq_true.2 ⟨q, hq, h⟩)
      simp only [Package.clashes, Bool.or_eq_true, Bool.and_eq_true, decide_eq_true_eq,
        not_or] at this
      exact ⟨Ne.symm this.1, fun h => this.2 (by simpa [eq_comm] using h)⟩
    exact
      { hi with
        packageIds := nodup_key_concat hi.packageIds fun q hq => (hnew q hq).1
        packageVersions := nodup_key_concat hi.packageVersions fun q hq => (hnew q hq).2
        contractHomes := fun c hc => by
          simpa using .inl (by simpa using hi.contractHomes c hc)
        deploymentHomes := fun d hd => by
          simpa using .inl (by simpa using hi.deploymentHomes d hd) }

theorem keeps_claimName (name ownerId : String) (now : Time) :
    KeepsIntegrity (claimName name ownerId now) := by
  intro s hi
  rw [claimName_run]
  unfold claiming
  split
  · exact hi
  · rename_i hnone
    refine { hi with ownerNames := nodup_key_concat hi.ownerNames fun o ho h => hnone ?_ }
    rw [owner?, Option.isSome_map, List.find?_isSome]
    exact ⟨o, ho, by simpa using h⟩

theorem keeps_insertContract (c : Contract) : KeepsIntegrity (insertContract c) := by
  intro s hi
  rw [insertContract_run]
  split
  · exact hi
  · rename_i hclash
    split
    · exact hi
    · rename_i hhome
      have hnew : ∀ d ∈ s.contracts, d.id ≠ c.id ∧
          (d.packageId, d.name, d.sourcePath) ≠ (c.packageId, c.name, c.sourcePath) := by
        intro d hd
        have : ¬ c.clashes d := fun h => hclash (List.any_eq_true.2 ⟨d, hd, h⟩)
        simp only [Contract.clashes, Bool.or_eq_true, Bool.and_eq_true, decide_eq_true_eq,
          not_or] at this
        exact ⟨Ne.symm this.1, fun h => this.2 (by simpa [eq_comm, and_assoc] using h)⟩
      have hp : c.packageId ∈ s.packages.map (·.id) :=
        mem_key_of_find? (by simpa [packageById?] using hhome)
      exact
        { hi with
          contractIds := nodup_key_concat hi.contractIds fun d hd => (hnew d hd).1
          contractPaths := nodup_key_concat hi.contractPaths fun d hd => (hnew d hd).2
          contractHomes := fun d hd => by
            rcases List.mem_append.1 hd with hd | hd
            · exact hi.contractHomes d hd
            · exact List.mem_singleton.1 hd ▸ hp
          artifactHomes := fun a ha => by
            simpa using .inl (by simpa using hi.artifactHomes a ha) }

/-- An output that is overwritten keeps its identifier. -/
theorem id_overwritten (a b : Artifact) :
    (if b.sameSlot a then b.overwrittenBy a else b).id = b.id := by
  split <;> rfl

theorem keeps_putArtifact (a : Artifact) : KeepsIntegrity (putArtifact a) := by
  intro s hi
  rw [putArtifact_run]
  split
  · -- it keeps its slot, too
    have hslot : ∀ b : Artifact, ((if b.sameSlot a then b.overwrittenBy a else b).contractId,
        (if b.sameSlot a then b.overwrittenBy a else b).kind) = (b.contractId, b.kind) := by
      intro b
      split <;> rfl
    refine { hi with artifactIds := ?_, artifactSlots := ?_, artifactHomes := ?_ }
    · change ((s.artifacts.map _).map _).Nodup
      rw [map_key_map (id_overwritten a)]
      exact hi.artifactIds
    · change ((s.artifacts.map _).map _).Nodup
      rw [map_key_map hslot]
      exact hi.artifactSlots
    · intro b hb
      obtain ⟨b', hb', rfl⟩ := List.mem_map.1 hb
      rw [(Prod.mk.inj (hslot b')).1]
      exact hi.artifactHomes b' hb'
  · rename_i hslot
    split
    · exact hi
    · rename_i hid
      split
      · exact hi
      · rename_i hhome
        have hc : a.contractId ∈ s.contracts.map (·.id) :=
          mem_key_of_find? (by simpa [contractById?] using hhome)
        refine
          { hi with
            artifactIds := nodup_key_concat hi.artifactIds fun b hb h => hid ?_
            artifactSlots := nodup_key_concat hi.artifactSlots fun b hb h => hslot ?_
            artifactHomes := fun b hb => ?_ }
        · exact List.any_eq_true.2 ⟨b, hb, by simpa using h⟩
        · rw [artifact?, List.find?_isSome]
          exact ⟨b, hb, by simpa using h⟩
        · rcases List.mem_append.1 hb with hb | hb
          · exact hi.artifactHomes b hb
          · exact List.mem_singleton.1 hb ▸ hc

theorem keeps_publish (b : Bundle) : KeepsIntegrity (publish b) := by
  have hcontract : ∀ d, KeepsIntegrity (insertContractBundle d) := fun d =>
    steps_bind (keeps_insertContract d.contract) fun _ => steps_forM fun a _ => keeps_putArtifact a
  have hbundle : KeepsIntegrity (insertBundle b) :=
    steps_bind (keeps_insertPackage b.package) fun _ => steps_forM fun d _ => hcontract d
  intro s hi
  have := hbundle s hi
  unfold publish transaction
  cases h : insertBundle b s with
  | ok u t => rwa [h] at this
  | error e t => exact hi

/-- What is left after a package version is gone refers to nothing of it. -/
theorem integrity_withoutPackage {s : Store} (hi : Integrity s) (id : String) :
    Integrity (s.withoutPackage id) where
  packageIds := nodup_key_filter _ hi.packageIds
  packageVersions := nodup_key_filter _ hi.packageVersions
  ownerNames := hi.ownerNames
  contractIds := nodup_key_filter _ hi.contractIds
  contractPaths := nodup_key_filter _ hi.contractPaths
  artifactIds := nodup_key_filter _ hi.artifactIds
  artifactSlots := nodup_key_filter _ hi.artifactSlots
  deploymentIds := nodup_key_filter _ hi.deploymentIds
  deploymentSites := nodup_key_filter _ hi.deploymentSites
  keyIds := hi.keyIds
  keyHashes := hi.keyHashes
  contractHomes := by
    intro c hc
    obtain ⟨hc, hne⟩ := List.mem_filter.1 hc
    obtain ⟨p, hp, hid⟩ := List.mem_map.1 (hi.contractHomes c hc)
    refine List.mem_map.2 ⟨p, List.mem_filter.2 ⟨hp, ?_⟩, hid⟩
    simpa [hid] using hne
  artifactHomes := by
    intro a ha
    obtain ⟨ha, hkept⟩ := List.mem_filter.1 ha
    obtain ⟨c, hc, hid⟩ := List.mem_map.1 (hi.artifactHomes a ha)
    refine List.mem_map.2 ⟨c, List.mem_filter.2 ⟨hc, ?_⟩, hid⟩
    simp only [Bool.not_eq_true', List.contains_eq_mem, decide_eq_false_iff_not, List.mem_map,
      List.mem_filter, decide_eq_true_eq, not_exists, not_and] at hkept
    simpa using fun h => hkept c ⟨hc, h⟩ hid
  deploymentHomes := by
    intro d hd
    obtain ⟨hd, hne⟩ := List.mem_filter.1 hd
    obtain ⟨p, hp, hid⟩ := List.mem_map.1 (hi.deploymentHomes d hd)
    refine List.mem_map.2 ⟨p, List.mem_filter.2 ⟨hp, ?_⟩, hid⟩
    simpa [hid] using hne

theorem keeps_deletePackage (id : String) : KeepsIntegrity (deletePackage id) := by
  intro s hi
  rw [deletePackage_run]
  split
  · exact integrity_withoutPackage hi id
  · exact hi

theorem keeps_recordDeployment (d : Deployment) : KeepsIntegrity (recordDeployment d) := by
  intro s hi
  rw [recordDeployment_run]
  split
  · exact hi
  · rename_i hclash
    split
    · exact hi
    · rename_i hhome
      have hnew : ∀ e ∈ s.deployments, e.id ≠ d.id ∧
          (e.chain, e.chainId, e.address) ≠ (d.chain, d.chainId, d.address) := by
        intro e he
        have : ¬ d.clashes e := fun h => hclash (List.any_eq_true.2 ⟨e, he, h⟩)
        simp only [Deployment.clashes, Deployment.isAt, Bool.or_eq_true, Bool.and_eq_true,
          decide_eq_true_eq, not_or] at this
        exact ⟨Ne.symm this.1, fun h => this.2 (by simpa [and_assoc] using h)⟩
      have hp : d.packageId ∈ s.packages.map (·.id) :=
        mem_key_of_find? (by simpa [packageById?] using hhome)
      exact
        { hi with
          deploymentIds := nodup_key_concat hi.deploymentIds fun e he => (hnew e he).1
          deploymentSites := nodup_key_concat hi.deploymentSites fun e he => (hnew e he).2
          deploymentHomes := fun e he => by
            rcases List.mem_append.1 he with he | he
            · exact hi.deploymentHomes e he
            · exact List.mem_singleton.1 he ▸ hp }

/-- A change of a deployment that leaves its keys and its package alone. -/
theorem integrity_updateDeployment {s : Store} (hi : Integrity s) (id : String)
    {f : Deployment → Deployment} (hid : ∀ d, (f d).id = d.id)
    (hsite : ∀ d, ((f d).chain, (f d).chainId, (f d).address) = (d.chain, d.chainId, d.address))
    (hhome : ∀ d, (f d).packageId = d.packageId) : Integrity (s.updateDeployment id f) where
  __ := hi
  deploymentIds := by
    change ((s.deployments.map _).map _).Nodup
    rw [map_key_map fun d => by split <;> simp [hid]]
    exact hi.deploymentIds
  deploymentSites := by
    change ((s.deployments.map _).map _).Nodup
    rw [map_key_map fun d => by split <;> simp only [hsite]]
    exact hi.deploymentSites
  deploymentHomes := by
    intro d hd
    obtain ⟨d', hd', rfl⟩ := List.mem_map.1 hd
    have : (if d'.id = id then f d' else d').packageId = d'.packageId := by
      split <;> simp [hhome]
    rw [this]
    exact hi.deploymentHomes d' hd'

theorem keeps_setVerification (id : String) (verified : Bool) (verifiedOn : Option String)
    (now : Time) : KeepsIntegrity (setVerification id verified verifiedOn now) := by
  intro s hi
  rw [setVerification_run]
  split
  · exact integrity_updateDeployment hi id (fun _ => rfl) (fun _ => rfl) fun _ => rfl
  · exact hi

theorem keeps_createKey (label id secret : String) (now : Time) :
    KeepsIntegrity (createKey label id secret now) := by
  intro s hi
  rw [createKey_run]
  split
  · exact hi
  · rename_i hclash
    have hnew : ∀ k ∈ s.keys, k.id ≠ id ∧ k.hash ≠ hashSecret secret := by
      intro k hk
      have : ¬ (k.id = id || k.hash = hashSecret secret) :=
        fun h => hclash (List.any_eq_true.2 ⟨k, hk, h⟩)
      simpa [not_or] using this
    exact
      { hi with
        keyIds := nodup_key_concat hi.keyIds fun k hk => (hnew k hk).1
        keyHashes := nodup_key_concat hi.keyHashes fun k hk => (hnew k hk).2 }

/-- A change of a key's times. -/
theorem integrity_updateKey {s : Store} (hi : Integrity s) (id : String) {f : ApiKey → ApiKey}
    (hid : ∀ k, (f k).id = k.id) (hhash : ∀ k, (f k).hash = k.hash) :
    Integrity (s.updateKey id f) where
  __ := hi
  keyIds := by
    change ((s.keys.map _).map _).Nodup
    rw [map_key_map fun k => by split <;> simp [hid]]
    exact hi.keyIds
  keyHashes := by
    change ((s.keys.map _).map _).Nodup
    rw [map_key_map fun k => by split <;> simp [hhash]]
    exact hi.keyHashes

theorem keeps_useKey (secret : String) (now : Time) : KeepsIntegrity (useKey secret now) := by
  intro s hi
  rw [useKey_run]
  split
  · exact integrity_updateKey hi _ (fun _ => rfl) fun _ => rfl
  · exact hi

theorem keeps_revokeKey (id : String) (now : Time) : KeepsIntegrity (revokeKey id now) := by
  intro s hi
  rw [revokeKey_run]
  split
  · split
    · exact hi
    · exact integrity_updateKey hi _ (fun _ => rfl) fun _ => rfl
  · exact hi

end BuildRegistry.Store
