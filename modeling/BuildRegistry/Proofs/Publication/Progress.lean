import BuildRegistry.Proofs.Publication
import BuildRegistry.Proofs.Publication.Checks

/-
  A publication that has passed its checks is written. The rows of a bundle go in one after the
  other, and any of them may be refused: for a key that is taken, or for a reference to a row that
  is not there. `HasRoomFor s ds` says that neither can happen to the contracts `ds` and their
  outputs; it passes on to the contracts that are left when the first has gone in
  (`room_after_first`), so all of them go in.

  Main statement (`publish_of_fresh`): with identifiers that are new (`Supply.Fresh`), the store
  takes every bundle of a version that is not there and of contracts that the checks let through.
-/

namespace BuildRegistry

/-- The identifiers are different from each other and from all that stand in the store. -/
structure Supply.Fresh (sup : Supply) (s : Store) : Prop where
  injective : Function.Injective sup.id
  packages : ∀ n, sup.id n ∉ s.packages.map (·.id)
  contracts : ∀ n, sup.id n ∉ s.contracts.map (·.id)
  artifacts : ∀ n, sup.id n ∉ s.artifacts.map (·.id)
  deployments : ∀ n, sup.id n ∉ s.deployments.map (·.id)

/-- Texts that are longer than all identifiers of a store are new to it. -/
theorem Supply.exists_fresh (s : Store) : ∃ sup : Supply, sup.Fresh s := by
  have hbound : ∀ ids : List String, ∃ m, ∀ id ∈ ids, id.toList.length < m := by
    intro ids
    induction ids with
    | nil => exact ⟨0, nofun⟩
    | cons id ids ih =>
      obtain ⟨m, hm⟩ := ih
      refine ⟨max m (id.toList.length + 1), List.forall_mem_cons.2 ⟨by omega, fun i hi => ?_⟩⟩
      have := hm i hi
      omega
  obtain ⟨m, hm⟩ := hbound (s.packages.map (·.id) ++ s.contracts.map (·.id) ++
    s.artifacts.map (·.id) ++ s.deployments.map (·.id))
  have hnew : ∀ ids : List String, (∀ id ∈ ids, id.toList.length < m) →
      ∀ n, String.ofList (List.replicate (m + n) 'x') ∉ ids := by
    intro ids hids n hmem
    have := hids _ hmem
    rw [String.toList_ofList, List.length_replicate] at this
    omega
  simp only [List.forall_mem_append] at hm
  obtain ⟨⟨⟨hpackages, hcontracts⟩, hartifacts⟩, hdeployments⟩ := hm
  refine ⟨⟨⟨0⟩, fun n => String.ofList (List.replicate (m + n) 'x'), ""⟩,
    fun n k h => ?_, hnew _ hpackages, hnew _ hcontracts, hnew _ hartifacts, hnew _ hdeployments⟩
  have := congrArg (·.toList.length) h
  simpa using this

namespace ContractBundle

/-- What a contract is known by within its package. -/
def path (d : ContractBundle) : String × String := (d.contract.name, d.contract.sourcePath)

/-- The identifiers of a contract and its outputs. -/
def ids (d : ContractBundle) : List String := d.contract.id :: d.artifacts.map (·.id)

end ContractBundle

/-! ## The bundle of a request -/

namespace ContractSubmission

variable {sup : Supply} {packageId contractId : String} {n : Nat}

theorem path_of_bundles (cs : List ContractSubmission) :
    (bundles sup packageId n cs).map (·.path) = cs.map path := by
  induction cs generalizing n with
  | nil => rfl
  | cons c rest ih =>
    rw [bundles, List.map_cons, List.map_cons, ih]
    rfl

theorem id_of_artifacts (outputs : List (ArtifactKind × Bytes)) :
    (artifacts sup contractId n outputs).map (·.id) =
      (List.range' n outputs.length).map sup.id := by
  induction outputs generalizing n with
  | nil => rfl
  | cons o rest ih =>
    rw [artifacts, List.map_cons, ih, List.length_cons, List.range'_succ, List.map_cons]

/-- Contracts and outputs are numbered one by one. -/
theorem ids_of_bundles (cs : List ContractSubmission) : ∃ k,
    (bundles sup packageId n cs).flatMap (·.ids) = (List.range' n k).map sup.id := by
  induction cs generalizing n with
  | nil => exact ⟨0, rfl⟩
  | cons c rest ih =>
    obtain ⟨k, hk⟩ := ih (n := n + 1 + c.outputs.length)
    have hfirst : (bundle sup packageId n c).ids =
        (List.range' n (1 + c.outputs.length)).map sup.id := by
      rw [Nat.add_comm 1, List.range'_succ, List.map_cons, ← id_of_artifacts]
      rfl
    refine ⟨1 + c.outputs.length + k, ?_⟩
    rw [bundles, List.flatMap_cons, hk, hfirst, ← List.map_append, Nat.add_assoc n,
      List.range'_append_1]

end ContractSubmission

namespace Store

variable {s : Store}

/-! ## Rows that go in -/

/-- An output goes in, or over another one, if its identifier is new and its contract there. -/
theorem putArtifact_of_new {a : Artifact} (hid : a.id ∉ s.artifacts.map (·.id))
    (hhome : a.contractId ∈ s.contracts.map (·.id)) : ∃ t, putArtifact a s = .ok () t ∧
      t.contracts = s.contracts ∧
      ∀ id : String, id ∉ s.artifacts.map (·.id) → id ≠ a.id → id ∉ t.artifacts.map (·.id) := by
  rw [putArtifact_run]
  split
  · refine ⟨_, rfl, rfl, fun id hnew _ => ?_⟩
    change id ∉ (s.artifacts.map _).map Artifact.id
    rwa [map_key_map (id_overwritten a)]
  · have htaken : ¬ (s.artifacts.any fun b => decide (b.id = a.id)) = true := by
      rw [List.any_eq_true]
      rintro ⟨b, hb, hba⟩
      exact hid (List.mem_map.2 ⟨b, hb, of_decide_eq_true hba⟩)
    have hthere : ¬ (s.contractById? a.contractId).isNone := not_isNone_of_mem_key hhome
    rw [if_neg htaken, if_neg hthere]
    refine ⟨_, rfl, rfl, fun id hnew hne => ?_⟩
    rw [List.map_append, List.map_singleton, List.mem_append, List.mem_singleton]
    exact not_or.2 ⟨hnew, hne⟩

theorem putArtifacts_of_new {as : List Artifact} (hids : (as.map (·.id)).Nodup)
    (hnew : ∀ a ∈ as, a.id ∉ s.artifacts.map (·.id))
    (hhome : ∀ a ∈ as, a.contractId ∈ s.contracts.map (·.id)) :
    ∃ t, as.forM putArtifact s = .ok PUnit.unit t := by
  induction as generalizing s with
  | nil => exact ⟨s, rfl⟩
  | cons a as ih =>
    rw [List.forall_mem_cons] at hnew hhome
    rw [List.map_cons, List.nodup_cons] at hids
    obtain ⟨s', ha, hcontracts, hstill⟩ := putArtifact_of_new hnew.1 hhome.1
    obtain ⟨t, ht⟩ := ih hids.2
      (fun b hb => hstill b.id (hnew.2 b hb) fun h => hids.1 (h ▸ List.mem_map_of_mem hb))
      (hcontracts ▸ hhome.2)
    exact ⟨t, (bind_of_ok ha).trans ht⟩

theorem insertContract_of_new {c : Contract} (hclash : ∀ e ∈ s.contracts, c.clashes e = false)
    (hhome : c.packageId ∈ s.packages.map (·.id)) :
    insertContract c s = .ok () { s with contracts := s.contracts ++ [c] } := by
  have htaken : ¬ s.contracts.any c.clashes = true := by
    simpa using hclash
  have hthere : ¬ (s.packageById? c.packageId).isNone := not_isNone_of_mem_key hhome
  rw [insertContract_run, if_neg htaken, if_neg hthere]

/-! ## Contracts that go in -/

/-- Nothing stands in the way of contracts and their outputs, neither in the store nor among
themselves. -/
structure HasRoomFor (s : Store) (ds : List ContractBundle) : Prop where
  homes : ∀ d ∈ ds, d.contract.packageId ∈ s.packages.map (·.id)
  coherent : ∀ d ∈ ds, d.Coherent
  paths : (ds.map (·.path)).Nodup
  ids : (ds.flatMap (·.ids)).Nodup
  contractsNew : ∀ d ∈ ds, ∀ c ∈ s.contracts, d.contract.clashes c = false
  outputsNew : ∀ d ∈ ds, ∀ a ∈ d.artifacts, a.id ∉ s.artifacts.map (·.id)

theorem clashes_of_ne {c d : Contract} (hid : c.id ≠ d.id)
    (hplace : c.packageId ≠ d.packageId ∨ (c.name, c.sourcePath) ≠ (d.name, d.sourcePath)) :
    c.clashes d = false := by
  simp only [ne_eq, Prod.mk.injEq] at hplace
  simp only [Contract.clashes, Bool.or_eq_false_iff, decide_eq_false_iff_not, Bool.and_eq_false_iff]
  tauto

/-- The first contract goes in, and there is still room for the others. -/
theorem room_after_first {d : ContractBundle} {ds : List ContractBundle}
    (h : s.HasRoomFor (d :: ds)) (hs : OutputsHomed s) :
    ∃ t, insertContractBundle d s = .ok () t ∧ t.HasRoomFor ds ∧ OutputsHomed t := by
  obtain ⟨hhome, hhomes⟩ := List.forall_mem_cons.1 h.homes
  obtain ⟨hcoherent, hcoherents⟩ := List.forall_mem_cons.1 h.coherent
  obtain ⟨hcontract, hcontracts⟩ := List.forall_mem_cons.1 h.contractsNew
  obtain ⟨houtputs, houtputss⟩ := List.forall_mem_cons.1 h.outputsNew
  have hpaths := h.paths
  have hids := h.ids
  rw [List.map_cons, List.nodup_cons] at hpaths
  rw [List.flatMap_cons, List.nodup_append] at hids
  obtain ⟨hmine, htheirs, hapart⟩ := hids
  have hput : ∃ t, d.artifacts.forM putArtifact
      { s with contracts := s.contracts ++ [d.contract] } = .ok PUnit.unit t := by
    refine putArtifacts_of_new (List.nodup_cons.1 hmine).2 houtputs fun a ha => ?_
    rw [hcoherent.home a ha, List.map_append]
    exact List.mem_append_right _ (List.mem_singleton_self _)
  obtain ⟨t, ht⟩ := hput
  have hdone : insertContractBundle d s = .ok () t :=
    (bind_of_ok (insertContract_of_new hcontract hhome)).trans ht
  obtain ⟨-, heq, -⟩ := insertContractBundle_ok hdone
  obtain ⟨hartifacts, hhomed⟩ := artifacts_of_insertContractBundle hs hcoherent hdone
  refine ⟨t, hdone, ?_, hhomed⟩
  constructor
  case homes =>
    rw [heq]
    exact hhomes
  case coherent => exact hcoherents
  case paths => exact hpaths.2
  case ids => exact htheirs
  case contractsNew =>
    intro e he c hc
    rw [heq] at hc
    rcases List.mem_append.1 hc with hc | hc
    · exact hcontracts e he c hc
    · rw [List.mem_singleton.1 hc]
      refine clashes_of_ne (fun hid => ?_)
        (.inr fun hpath => hpaths.1 (List.mem_map.2 ⟨e, he, hpath⟩))
      exact hapart _ List.mem_cons_self _ (List.mem_flatMap.2 ⟨e, he, List.mem_cons_self⟩) hid.symm
  case outputsNew =>
    intro e he a ha
    rw [hartifacts, List.map_append, List.mem_append, not_or]
    refine ⟨houtputss e he a ha, fun hmem => ?_⟩
    have htheir : a.id ∈ ds.flatMap (·.ids) :=
      List.mem_flatMap.2 ⟨e, he, List.mem_cons_of_mem _ (List.mem_map_of_mem ha)⟩
    exact hapart _ (List.mem_cons_of_mem _ hmem) _ htheir rfl

theorem insertContractBundles_of_room {ds : List ContractBundle} (h : s.HasRoomFor ds)
    (hs : OutputsHomed s) : ∃ t, ds.forM insertContractBundle s = .ok PUnit.unit t := by
  induction ds generalizing s with
  | nil => exact ⟨s, rfl⟩
  | cons d ds ih =>
    obtain ⟨s', hd, hroom, hs'⟩ := room_after_first h hs
    obtain ⟨t, ht⟩ := ih hroom hs'
    exact ⟨t, (bind_of_ok hd).trans ht⟩

/-! ## Publications that go in -/

variable {sup : Supply} {name v ownerId : String} {q : PublishRequest}

theorem insertPackage_of_fresh (hfresh : sup.Fresh s) (habsent : s.package? name v = none) :
    insertPackage (q.package sup name v ownerId) s =
      .ok () { s with packages := s.packages ++ [q.package sup name v ownerId] } := by
  rw [insertPackage_run, if_neg]
  rw [List.any_eq_true]
  rintro ⟨p, hp, hclash⟩
  rw [Package.clashes, Bool.or_eq_true] at hclash
  rcases hclash with hid | hversion
  · exact hfresh.packages 0 (List.mem_map.2 ⟨p, hp, (of_decide_eq_true hid).symm⟩)
  · have := List.find?_eq_none.1 habsent p hp
    rw [Bool.and_eq_true, decide_eq_true_eq, decide_eq_true_eq] at hversion this
    exact this ⟨hversion.1.symm, hversion.2.symm⟩

theorem room_of_fresh (hi : Integrity s) (hfresh : sup.Fresh s)
    (hcs : Registry.Publishable q.contracts) :
    HasRoomFor { s with packages := s.packages ++ [q.package sup name v ownerId] }
      (q.bundle sup name v ownerId).contracts := by
  have hbundle : (q.bundle sup name v ownerId).contracts =
      ContractSubmission.bundles sup (sup.id 0) 1 q.contracts := rfl
  obtain ⟨k, hids⟩ : ∃ k, (ContractSubmission.bundles sup (sup.id 0) 1 q.contracts).flatMap (·.ids) =
      (List.range' 1 k).map sup.id := ContractSubmission.ids_of_bundles q.contracts
  have hnumbered : ∀ d ∈ (q.bundle sup name v ownerId).contracts, ∀ id ∈ d.ids,
      ∃ m, id = sup.id m := by
    intro d hd id hid
    have hmem : id ∈ (List.range' 1 k).map sup.id := hids ▸ List.mem_flatMap.2 ⟨d, hd, hid⟩
    obtain ⟨m, -, hm⟩ := List.mem_map.1 hmem
    exact ⟨m, hm.symm⟩
  constructor
  case homes =>
    intro d hd
    rw [(ContractSubmission.of_mem_bundles hd).1, List.map_append]
    exact List.mem_append_right _ (List.mem_singleton_self _)
  case coherent => exact fun d hd => Registry.Published.coherent hd
  case paths =>
    rw [hbundle, ContractSubmission.path_of_bundles]
    exact (Registry.publishable_iff.1 hcs).2.paths
  case ids =>
    rw [hbundle, hids]
    exact (List.nodup_range' 1).map hfresh.injective
  case contractsNew =>
    intro d hd c hc
    obtain ⟨m, hm⟩ := hnumbered d hd d.contract.id List.mem_cons_self
    refine clashes_of_ne (fun hid => ?_) (.inl fun hpackage => ?_)
    · exact hfresh.contracts m (List.mem_map.2 ⟨c, hc, hid.symm.trans hm⟩)
    · rw [(ContractSubmission.of_mem_bundles hd).1] at hpackage
      exact hfresh.packages 0 (hpackage ▸ hi.contractHomes c hc)
  case outputsNew =>
    intro d hd a ha
    obtain ⟨m, hm⟩ := hnumbered d hd a.id (List.mem_cons_of_mem _ (List.mem_map_of_mem ha))
    rw [hm]
    exact hfresh.artifacts m

theorem publish_of_fresh (hi : Integrity s) (hfresh : sup.Fresh s)
    (hcs : Registry.Publishable q.contracts) (habsent : s.package? name v = none) :
    ∃ t, publish (q.bundle sup name v ownerId) s = .ok () t := by
  obtain ⟨t, ht⟩ := insertContractBundles_of_room (room_of_fresh hi hfresh hcs) hi.artifactHomes
  exact ⟨t, publish_ok.2 ((bind_of_ok (insertPackage_of_fresh hfresh habsent)).trans ht)⟩

end Store

end BuildRegistry
