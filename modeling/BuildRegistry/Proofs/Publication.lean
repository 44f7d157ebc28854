import BuildRegistry.Proofs.Immutability

/-
  What a publication adds to the store: its package, its contracts and their outputs, each once and
  as they are in the bundle, after the rows that are there (`Published.artifacts`). An output is
  overwritten by none that comes later, for the contracts of a bundle are new and have at most one
  output of a kind (`ContractBundle.Coherent`).
-/

namespace BuildRegistry

/-- The outputs of a contract in a bundle refer to it, and there is at most one of a kind. -/
structure ContractBundle.Coherent (d : ContractBundle) : Prop where
  home : ∀ a ∈ d.artifacts, a.contractId = d.contract.id
  kinds : (d.artifacts.map (·.kind)).Nodup

/-! ## The bundle of a request -/

namespace ContractSubmission

variable {s : Supply} {packageId contractId : String} {n : Nat} {c : ContractSubmission}

theorem kind_of_artifacts (outputs : List (ArtifactKind × Bytes)) :
    (artifacts s contractId n outputs).map (·.kind) = outputs.map (·.1.name) := by
  induction outputs generalizing n with
  | nil => rfl
  | cons o rest ih => rw [artifacts, List.map_cons, List.map_cons, ih]

/-- The kinds of what was submitted, in the order of all kinds. -/
theorem kinds_of_outputs (c : ContractSubmission) :
    c.outputs.map (·.1) = ArtifactKind.all.filter fun k => (c.content? k).isSome := by
  unfold outputs
  induction ArtifactKind.all with
  | nil => rfl
  | cons k ks ih =>
    cases hk : c.content? k with
    | none =>
      rw [List.filterMap_cons_none (by rw [hk]; rfl), List.filter_cons_of_neg (by simp [hk]), ih]
    | some b =>
      rw [List.filterMap_cons_some (by rw [hk]; rfl), List.filter_cons_of_pos (by simp [hk]),
        List.map_cons, ih]

theorem nodup_kinds (c : ContractSubmission) : (c.outputs.map (·.1.name)).Nodup := by
  have hnames : (ArtifactKind.all.map ArtifactKind.name).Nodup := by decide
  have hmap : c.outputs.map (·.1.name) = (c.outputs.map (·.1)).map ArtifactKind.name := by
    rw [List.map_map]
    rfl
  rw [hmap, kinds_of_outputs]
  exact hnames.sublist (List.filter_sublist.map _)

theorem coherent_bundle (s : Supply) (packageId : String) (n : Nat) (c : ContractSubmission) :
    (bundle s packageId n c).Coherent where
  home := fun a ha => contractId_of_mem_artifacts ha
  kinds := by
    change ((artifacts s (s.id n) (n + 1) c.outputs).map (·.kind)).Nodup
    rw [kind_of_artifacts]
    exact nodup_kinds c

theorem exists_of_mem_bundles {cs : List ContractSubmission} {d : ContractBundle}
    (h : d ∈ bundles s packageId n cs) : ∃ c ∈ cs, ∃ m, d = bundle s packageId m c := by
  induction cs generalizing n with
  | nil => cases h
  | cons c rest ih =>
    rcases List.mem_cons.1 h with rfl | h
    · exact ⟨c, List.mem_cons_self, n, rfl⟩
    · obtain ⟨c', hc', hd⟩ := ih h
      exact ⟨c', List.mem_cons_of_mem c hc', hd⟩

theorem bundles_ne_nil (s : Supply) (packageId : String) (n : Nat) {cs : List ContractSubmission}
    (h : cs ≠ []) : bundles s packageId n cs ≠ [] := by
  cases cs with
  | nil => exact absurd rfl h
  | cons c rest => exact List.cons_ne_nil _ _

end ContractSubmission

namespace Store

/-! ## Outputs that are new -/

variable {s t : Store}

theorem artifacts_of_putArtifact {a : Artifact} {u : Unit}
    (hnew : s.artifact? a.contractId a.kind = none) (h : putArtifact a s = .ok u t) :
    t.artifacts = s.artifacts ++ [a] := by
  rw [putArtifact_run, hnew, if_neg (by simp)] at h
  split at h
  · cases h
  · split at h <;> cases h
    rfl

theorem artifacts_of_putArtifacts {as : List Artifact} {u : PUnit}
    (hkinds : (as.map (·.kind)).Nodup) (hnew : ∀ a ∈ as, s.artifact? a.contractId a.kind = none)
    (h : as.forM putArtifact s = .ok u t) : t.artifacts = s.artifacts ++ as := by
  induction as generalizing s with
  | nil =>
    obtain ⟨-, rfl⟩ := pure_ok.1 h
    rw [List.append_nil]
  | cons a as ih =>
    obtain ⟨_, s', ha, has⟩ := bind_ok.1 h
    obtain ⟨hanew, hasnew⟩ := List.forall_mem_cons.1 hnew
    rw [List.map_cons, List.nodup_cons] at hkinds
    have hs' := artifacts_of_putArtifact hanew ha
    have hstill : ∀ b ∈ as, s'.artifact? b.contractId b.kind = none := by
      intro b hb
      have hkind : a.kind ≠ b.kind := fun hk =>
        hkinds.1 (hk ▸ List.mem_map_of_mem hb)
      rw [artifact?, hs', List.find?_append, show s.artifacts.find? _ = none from hasnew b hb]
      simp [hkind]
    rw [ih hkinds.2 hstill has, hs', List.append_assoc]
    rfl

/-- Every output belongs to a contract that is there. -/
def OutputsHomed (s : Store) : Prop := ∀ a ∈ s.artifacts, a.contractId ∈ s.contracts.map (·.id)

theorem artifact?_of_newContract (hs : OutputsHomed s) {c : Contract}
    (hclash : ∀ e ∈ s.contracts, c.clashes e = false) (kind : String) :
    s.artifact? c.id kind = none := by
  refine List.find?_eq_none.2 fun a ha => ?_
  obtain ⟨e, he, hid⟩ := List.mem_map.1 (hs a ha)
  have := hclash e he
  simp only [Contract.clashes, Bool.or_eq_false_iff, decide_eq_false_iff_not] at this
  rw [← hid]
  simp [Ne.symm this.1]

theorem artifacts_of_insertContractBundle {d : ContractBundle} {u : Unit} (hs : OutputsHomed s)
    (hd : d.Coherent) (h : insertContractBundle d s = .ok u t) :
    t.artifacts = s.artifacts ++ d.artifacts ∧ OutputsHomed t := by
  obtain ⟨hclash, ht, -⟩ := insertContractBundle_ok h
  obtain ⟨_, s', hc, has⟩ := bind_ok.1 h
  have hs' : s'.artifacts = s.artifacts := by
    rw [insertContract_run] at hc
    split at hc
    · cases hc
    · split at hc <;> cases hc
      rfl
  have hadded : t.artifacts = s.artifacts ++ d.artifacts := by
    rw [← hs']
    refine artifacts_of_putArtifacts hd.kinds (fun a ha => ?_) has
    rw [hd.home a ha, artifact?, hs']
    exact artifact?_of_newContract hs hclash a.kind
  have hcontracts : t.contracts = s.contracts ++ [d.contract] := by rw [ht]
  refine ⟨hadded, fun a ha => ?_⟩
  rw [hcontracts, List.map_append, List.mem_append]
  rw [hadded] at ha
  rcases List.mem_append.1 ha with ha | ha
  · exact .inl (hs a ha)
  · exact .inr (List.mem_singleton.2 (hd.home a ha))

theorem artifacts_of_insertContractBundles {ds : List ContractBundle} {u : PUnit}
    (hs : OutputsHomed s) (hds : ∀ d ∈ ds, d.Coherent)
    (h : ds.forM insertContractBundle s = .ok u t) :
    t.artifacts = s.artifacts ++ ds.flatMap (·.artifacts) := by
  induction ds generalizing s with
  | nil =>
    obtain ⟨-, rfl⟩ := pure_ok.1 h
    rw [List.flatMap_nil, List.append_nil]
  | cons d ds ih =>
    obtain ⟨_, s', hd, hrest⟩ := bind_ok.1 h
    obtain ⟨hdc, hdsc⟩ := List.forall_mem_cons.1 hds
    obtain ⟨hs', hhomed⟩ := artifacts_of_insertContractBundle hs hdc hd
    rw [ih hhomed hdsc hrest, hs', List.flatMap_cons, List.append_assoc]

theorem artifacts_of_insertBundle {b : Bundle} {u : Unit} (hs : OutputsHomed s)
    (hb : ∀ d ∈ b.contracts, d.Coherent) (h : insertBundle b s = .ok u t) :
    t.artifacts = s.artifacts ++ b.contracts.flatMap (·.artifacts) := by
  obtain ⟨_, s', hp, hcs⟩ := bind_ok.1 h
  rw [insertPackage_run] at hp
  split at hp <;> cases hp
  have hs' : OutputsHomed { s with packages := s.packages ++ [b.package] } := hs
  have hadded := artifacts_of_insertContractBundles hs' hb hcs
  exact hadded

/-- Among outputs of contracts with different ids, those of one contract. -/
theorem filter_flatMap_artifacts {ds : List ContractBundle} (hds : ∀ d ∈ ds, d.Coherent)
    (hids : (ds.map (·.contract.id)).Nodup) {d : ContractBundle} (hd : d ∈ ds) :
    (ds.flatMap (·.artifacts)).filter (·.contractId = d.contract.id) = d.artifacts := by
  induction ds with
  | nil => cases hd
  | cons e ds ih =>
    obtain ⟨hec, hdsc⟩ := List.forall_mem_cons.1 hds
    rw [List.map_cons, List.nodup_cons] at hids
    rw [List.flatMap_cons, List.filter_append]
    rcases List.mem_cons.1 hd with rfl | hd
    · have hmine : d.artifacts.filter (·.contractId = d.contract.id) = d.artifacts :=
        List.filter_eq_self.2 fun a ha => decide_eq_true (hec.home a ha)
      have hothers : (ds.flatMap (·.artifacts)).filter (·.contractId = d.contract.id) = [] := by
        refine List.filter_eq_nil_iff.2 fun a ha => ?_
        obtain ⟨f, hf, haf⟩ := List.mem_flatMap.1 ha
        rw [(hdsc f hf).home a haf, decide_eq_true_eq]
        exact fun hid => hids.1 (hid ▸ List.mem_map_of_mem hf)
      rw [hmine, hothers, List.append_nil]
    · have hnone : e.artifacts.filter (·.contractId = d.contract.id) = [] := by
        refine List.filter_eq_nil_iff.2 fun a ha => ?_
        rw [hec.home a ha, decide_eq_true_eq]
        exact fun hid => hids.1 (hid ▸ List.mem_map_of_mem hd)
      rw [hnone, List.nil_append, ih hdsc hids.2 hd]

end Store

/-! ## What is stored after a publication -/

namespace Registry.Published

open Store

variable {s : Supply} {name v ownerId : String} {q : PublishRequest} {before after : Store}

theorem contracts (h : Published s name v ownerId q before after) :
    after.contracts = before.contracts ++ (q.bundle s name v ownerId).contracts.map (·.contract) := by
  rw [(insertBundle_ok h.written).2.2.1]

/-- The contracts of the new package are those of the bundle. -/
theorem contracts_new (h : Published s name v ownerId q before after) (hi : Integrity before) :
    after.contracts.filter (·.packageId = s.id 0) =
      (q.bundle s name v ownerId).contracts.map (·.contract) := by
  have hold : before.contracts.filter (·.packageId = s.id 0) = [] := by
    refine List.filter_eq_nil_iff.2 fun c hc => ?_
    obtain ⟨p, hp, hpc⟩ := List.mem_map.1 (hi.contractHomes c hc)
    have hclash := (insertBundle_ok h.written).1 p hp
    simp only [Package.clashes, Bool.or_eq_false_iff, decide_eq_false_iff_not] at hclash
    rw [decide_eq_true_eq, ← hpc]
    exact Ne.symm hclash.1
  have hnew : ∀ c ∈ (q.bundle s name v ownerId).contracts.map (·.contract),
      decide (c.packageId = s.id 0) = true := by
    intro c hc
    obtain ⟨d, hd, rfl⟩ := List.mem_map.1 hc
    exact decide_eq_true (ContractSubmission.of_mem_bundles hd).1
  rw [h.contracts, List.filter_append, hold, List.nil_append, List.filter_eq_self.2 hnew]

theorem coherent {d : ContractBundle} (hd : d ∈ (q.bundle s name v ownerId).contracts) :
    d.Coherent := by
  obtain ⟨c, -, n, rfl⟩ := ContractSubmission.exists_of_mem_bundles hd
  exact ContractSubmission.coherent_bundle s _ n c

theorem artifacts (h : Published s name v ownerId q before after) (hi : Integrity before) :
    after.artifacts =
      before.artifacts ++ (q.bundle s name v ownerId).contracts.flatMap (·.artifacts) :=
  artifacts_of_insertBundle hi.artifactHomes (fun _ => coherent) h.written

theorem integrity (h : Published s name v ownerId q before after) (hi : Integrity before) :
    Integrity after := by
  have hkept := keeps_publish (q.bundle s name v ownerId) before hi
  rwa [Store.publish_ok.2 h.written] at hkept

/-- The contracts that were there keep their outputs. -/
theorem outputsOf_old (h : Published s name v ownerId q before after) {c : Contract}
    (hc : c ∈ before.contracts) : after.outputsOf c.id = before.outputsOf c.id := by
  obtain ⟨-, hclash, -, hframe⟩ := insertBundle_ok h.written
  refine hframe c.id fun d hd a ha => ?_
  have := hclash d hd c hc
  simp only [Contract.clashes, Bool.or_eq_false_iff, decide_eq_false_iff_not] at this
  rw [(coherent hd).home a ha]
  exact this.1

/-- The new contracts have the outputs of the bundle and no others. -/
theorem outputsOf_new (h : Published s name v ownerId q before after) (hi : Integrity before)
    {d : ContractBundle} (hd : d ∈ (q.bundle s name v ownerId).contracts) :
    after.outputsOf d.contract.id = d.artifacts := by
  have hids := (h.integrity hi).contractIds
  rw [h.contracts, List.map_append, List.map_map, List.nodup_append] at hids
  have hold : before.outputsOf d.contract.id = [] := by
    refine List.filter_eq_nil_iff.2 fun a ha => ?_
    rw [decide_eq_true_eq]
    exact fun hid => hids.2.2 _ (hi.artifactHomes a ha) _ (List.mem_map_of_mem hd) hid
  have hnew := filter_flatMap_artifacts (fun _ => coherent) hids.2.1 hd
  rw [outputsOf, h.artifacts hi, List.filter_append, hnew]
  rw [outputsOf] at hold
  rw [hold, List.nil_append]

end Registry.Published

namespace Registry

open Store

/-- A publication that goes through stores its bundle, and until the version is deleted the package
that is found for it is that of the bundle, with its contracts and their outputs. -/
theorem rows_of_publication {s : Supply} {name version v ownerId : String} {q : PublishRequest}
    {p : Package} {r₀ r₁ r₂ : Registry} (hreach : Run Anything .empty r₀)
    (hv : Version.normalize? version = some v)
    (hpub : publish s name version ownerId q r₀ = .ok p r₁)
    (hrun : Run (fun r e => ¬ Deletes name v r e) r₁ r₂) :
    p = q.package s name v ownerId ∧ r₂.store.package? name v = some p ∧ Integrity r₂.store ∧
      r₂.store.contracts.filter (·.packageId = s.id 0) =
        (q.bundle s name v ownerId).contracts.map (·.contract) ∧
      ∀ d ∈ (q.bundle s name v ownerId).contracts,
        r₂.store.outputsOf d.contract.id = d.artifacts := by
  obtain ⟨-, -, hp⟩ := stored_of_publish hv hpub
  have hi₀ : Integrity r₀.store := hreach.integrity integrity_empty
  have hi₁ : Integrity r₁.store := by
    have hkept := (steps_publish writes_integrity s name version ownerId q r₀).1
    rw [hpub] at hkept
    exact hkept hi₀
  obtain ⟨w, u, hw, rfl, hpublished, hu⟩ := publish_ok hpub
  obtain rfl : w = v := Option.some.inj (hw.symm.trans hv)
  obtain ⟨hp', hsame⟩ := Run.keeps_version (p := q.package s name w ownerId) hrun hi₁ hp
  -- the owner's claim leaves contracts and outputs alone
  have hrows : r₁.store.contracts = u.contracts ∧ r₁.store.artifacts = u.artifacts := by
    rcases hu with hu | ⟨-, hu⟩ <;> rw [hu] <;> simp
  refine ⟨rfl, hp', hrun.integrity hi₁, ?_, fun d hd => ?_⟩
  · have hfilter := hsame.contracts
    rw [hrows.1] at hfilter
    exact hfilter.trans (hpublished.contracts_new hi₀)
  · have hmem : d.contract ∈ r₁.store.contracts := by
      rw [hrows.1, hpublished.contracts]
      exact List.mem_append_right _ (List.mem_map_of_mem hd)
    have hhome : d.contract.packageId = s.id 0 := (ContractSubmission.of_mem_bundles hd).1
    rw [hsame.outputs d.contract hmem hhome, outputsOf, hrows.2]
    exact hpublished.outputsOf_new hi₀ hd

end Registry

end BuildRegistry
