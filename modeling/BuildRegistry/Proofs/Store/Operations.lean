import BuildRegistry.Proofs.Calls

/-
  What each operation of the store answers and leaves behind, as one equation each (`…_run`). A
  lookup leaves the store as it is; a write that fails leaves it as it was (`Atomic`).

  A bundle is written in several steps, so that no single equation describes it:
  `insertBundle_ok` says what a bundle that is written adds to the packages and contracts, and that
  among the outputs it touches only those of the contracts it names.
-/

namespace BuildRegistry.Store

/-! ## Lookups -/

theorem getPackage_run (name version : String) (s : Store) :
    getPackage name version s = match s.package? name version with
      | some p => .ok p s
      | none => .error (.notFound (versionEntry name version)) s := by
  change found _ (s.package? name version) s = _
  cases s.package? name version <;> rfl

theorem packageExists_run (name version : String) (s : Store) :
    packageExists name version s = .ok (s.package? name version).isSome s := rfl

theorem packageOwner_run (name : String) (s : Store) :
    packageOwner name s = .ok (s.owner? name) s := rfl

theorem getContract_run (packageId name : String) (s : Store) :
    getContract packageId name s = match s.contract? packageId name with
      | some c => .ok c s
      | none => .error (.notFound ("contract " ++ name)) s := by
  change found _ (s.contract? packageId name) s = _
  cases s.contract? packageId name <;> rfl

theorem listContracts_run (packageId : String) (s : Store) :
    listContracts packageId s = .ok (s.contractsOf packageId) s := rfl

theorem getArtifact_run (contractId kind : String) (s : Store) :
    getArtifact contractId kind s = match s.artifact? contractId kind with
      | some a => .ok a s
      | none => .error (.notFound ("artifact " ++ kind)) s := by
  change found _ (s.artifact? contractId kind) s = _
  cases s.artifact? contractId kind <;> rfl

theorem listArtifacts_run (contractId : String) (s : Store) :
    listArtifacts contractId s = .ok (s.artifactsOf contractId) s := rfl

theorem getDeployment_run (chain : String) (chainId : Int) (address : String) (s : Store) :
    getDeployment chain chainId address s = match s.deployment? chain chainId address with
      | some d => .ok d s
      | none => .error (.notFound (siteEntry chain chainId address)) s := by
  change found _ (s.deployment? chain chainId address) s = _
  cases s.deployment? chain chainId address <;> rfl

theorem listPackages_run (f : PackageFilter) (p : PageRequest) (s : Store) :
    listPackages f p s =
      .ok (.ofRows p.pageSize (·.name) ((s.groupsOf f p.after).map PackageGroup.summary)) s := rfl

theorem steps_found {α : Type} (entry : String) (view : Store → Option α) :
    Steps Eq (do found entry (view (← get))) := by
  intro s
  change s = endState (found entry (view s) s)
  cases view s <;> rfl

theorem steps_packageVersions (name : String) (prereleases : Bool) :
    Steps Eq (packageVersions name prereleases) := fun _ => rfl

theorem steps_startOf (p : PageRequest) : Steps Eq (startOf p) := by
  unfold startOf
  split
  · exact steps_pure none
  · split
    · exact steps_pure _
    · exact steps_throw _

theorem steps_listDeployments (f : DeploymentFilter) (p : PageRequest) :
    Steps Eq (listDeployments f p) :=
  steps_bind (steps_startOf p) fun _ _ => rfl

/-! ## Writes of one row -/

theorem insertPackage_run (p : Package) (s : Store) :
    insertPackage p s = if s.packages.any p.clashes then
        .error (.alreadyExists (versionEntry p.name p.version)) s
      else .ok () { s with packages := s.packages ++ [p] } := by
  change (if _ then fail _ _ else set _ : StoreM Unit) s = _
  split <;> rfl

/-- The store in which a name has its owner, the first one it was given. -/
def claiming (s : Store) (name ownerId : String) (now : Time) : Store :=
  if (s.owner? name).isSome then s else { s with owners := s.owners ++ [⟨name, ownerId, now⟩] }

theorem claimName_run (name ownerId : String) (now : Time) (s : Store) :
    claimName name ownerId now s =
      .ok (!(s.owner? name).isSome) (s.claiming name ownerId now) := by
  change (if _ then pure _ else (set _ >>= fun _ => pure _) : StoreM Bool) s = _
  unfold claiming
  split <;> simp_all <;> rfl

@[simp] theorem claiming_packages (s : Store) (name ownerId : String) (now : Time) :
    (s.claiming name ownerId now).packages = s.packages := by
  unfold claiming
  split <;> rfl

@[simp] theorem claiming_contracts (s : Store) (name ownerId : String) (now : Time) :
    (s.claiming name ownerId now).contracts = s.contracts := by
  unfold claiming
  split <;> rfl

@[simp] theorem claiming_artifacts (s : Store) (name ownerId : String) (now : Time) :
    (s.claiming name ownerId now).artifacts = s.artifacts := by
  unfold claiming
  split <;> rfl

@[simp] theorem claiming_deployments (s : Store) (name ownerId : String) (now : Time) :
    (s.claiming name ownerId now).deployments = s.deployments := by
  unfold claiming
  split <;> rfl

theorem prefix_claiming (s : Store) (name ownerId : String) (now : Time) :
    s.owners <+: (s.claiming name ownerId now).owners := by
  unfold claiming
  split
  · exact List.prefix_rfl
  · exact List.prefix_append _ _

theorem owner?_claiming (s : Store) (name ownerId n : String) (now : Time) :
    (s.claiming name ownerId now).owner? n =
      (s.owner? n).or (if name = n then some ownerId else none) := by
  unfold claiming
  split
  · rename_i h
    split
    · rename_i hn
      subst hn
      obtain ⟨o, ho⟩ := Option.isSome_iff_exists.1 h
      rw [ho]
      rfl
    · rw [Option.or_none]
  · rw [owner?, owner?, List.find?_append, Option.map_or]
    by_cases hn : name = n <;> simp [hn]

theorem deletePackage_run (id : String) (s : Store) :
    deletePackage id s = if (s.packageById? id).isSome then .ok () (s.withoutPackage id)
      else .error (.notFound ("package " ++ id)) s := by
  change (if _ then set _ else fail _ _ : StoreM Unit) s = _
  split <;> rfl

theorem insertContract_run (c : Contract) (s : Store) :
    insertContract c s = if s.contracts.any c.clashes then
        .error (.alreadyExists (contractEntry c.name c.sourcePath)) s
      else if (s.packageById? c.packageId).isNone then
        .error (.queryFailed (contractEntry c.name c.sourcePath) .danglingReference) s
      else .ok () { s with contracts := s.contracts ++ [c] } := by
  change (if _ then fail _ _ else if _ then fail _ _ else set _ : StoreM Unit) s = _
  split
  · rfl
  · split <;> rfl

theorem putArtifact_run (a : Artifact) (s : Store) :
    putArtifact a s = if (s.artifact? a.contractId a.kind).isSome then .ok () (s.overwriting a)
      else if s.artifacts.any (·.id = a.id) then .error (.alreadyExists (artifactEntry a)) s
      else if (s.contractById? a.contractId).isNone then
        .error (.queryFailed (artifactEntry a) .danglingReference) s
      else .ok () { s with artifacts := s.artifacts ++ [a] } := by
  change (if _ then set _ else if _ then fail _ _ else if _ then fail _ _ else set _ :
    StoreM Unit) s = _
  split
  · rfl
  · split
    · rfl
    · split <;> rfl

theorem recordDeployment_run (d : Deployment) (s : Store) :
    recordDeployment d s = if s.deployments.any d.clashes then
        .error (.alreadyExists (siteEntry d.chain d.chainId d.address)) s
      else if (s.packageById? d.packageId).isNone then
        .error (.queryFailed (siteEntry d.chain d.chainId d.address) .danglingReference) s
      else .ok () { s with deployments := s.deployments ++ [d] } := by
  change (if _ then fail _ _ else if _ then fail _ _ else set _ : StoreM Unit) s = _
  split
  · rfl
  · split <;> rfl

theorem setVerification_run (id : String) (verified : Bool) (verifiedOn : Option String)
    (now : Time) (s : Store) :
    setVerification id verified verifiedOn now s = match s.deploymentById? id with
      | some d => .ok (d.marked verified verifiedOn now)
          (s.updateDeployment id (·.marked verified verifiedOn now))
      | none => .error (.notFound ("deployment " ++ id)) s := by
  change (found ("deployment " ++ id) (s.deploymentById? id) >>= fun d => _) s = _
  cases s.deploymentById? id <;> rfl

theorem createKey_run (label id secret : String) (now : Time) (s : Store) :
    createKey label id secret now s =
      if s.keys.any fun k => k.id = id || k.hash = hashSecret secret then
        .error (.alreadyExists ("api key " ++ label)) s
      else .ok ⟨id, label, hashSecret secret, now, none, none⟩
        { s with keys := s.keys ++ [⟨id, label, hashSecret secret, now, none, none⟩] } := by
  change (if _ then fail _ _ else (set _ >>= fun _ => pure _) : StoreM ApiKey) s = _
  split <;> rfl

theorem useKey_run (secret : String) (now : Time) (s : Store) :
    useKey secret now s = match s.keyByHash? (hashSecret secret) with
      | some k => .ok { k with lastUsedAt := some now }
          (s.updateKey k.id fun k => { k with lastUsedAt := some now })
      | none => .error (.notFound "api key") s := by
  change (found "api key" (s.keyByHash? (hashSecret secret)) >>= fun k => _) s = _
  cases s.keyByHash? (hashSecret secret) <;> rfl

theorem revokeKey_run (id : String) (now : Time) (s : Store) :
    revokeKey id now s = match s.keyById? id with
      | some k => .ok () (if k.isRevoked then s
          else s.updateKey id fun k => { k with revokedAt := some now })
      | none => .error (.notFound ("api key " ++ id)) s := by
  change (found ("api key " ++ id) (s.keyById? id) >>= fun k => _) s = _
  cases s.keyById? id with
  | none => rfl
  | some k =>
    change (if _ then _ else _ : StoreM Unit) s = _
    cases h : k.isRevoked <;> simp only [h, if_true, Bool.false_eq_true, if_false] <;> rfl

/-! ## Failures leave the store as it was -/

theorem atomic_transaction {α : Type} (act : StoreM α) : Atomic (transaction act) := by
  intro s e t h
  unfold transaction at h
  split at h <;> cases h
  rfl

theorem atomic_deletePackage (id : String) : Atomic (deletePackage id) := by
  intro s e t h
  rw [deletePackage_run] at h
  split at h <;> cases h
  rfl

theorem atomic_recordDeployment (d : Deployment) : Atomic (recordDeployment d) := by
  intro s e t h
  rw [recordDeployment_run] at h
  split at h
  · cases h
    rfl
  · split at h <;> cases h
    rfl

theorem atomic_setVerification (id : String) (verified : Bool) (verifiedOn : Option String)
    (now : Time) : Atomic (setVerification id verified verifiedOn now) := by
  intro s e t h
  rw [setVerification_run] at h
  split at h <;> cases h
  rfl

theorem atomic_createKey (label id secret : String) (now : Time) :
    Atomic (createKey label id secret now) := by
  intro s e t h
  rw [createKey_run] at h
  split at h <;> cases h
  rfl

theorem atomic_useKey (secret : String) (now : Time) : Atomic (useKey secret now) := by
  intro s e t h
  rw [useKey_run] at h
  split at h <;> cases h
  rfl

theorem atomic_revokeKey (id : String) (now : Time) : Atomic (revokeKey id now) := by
  intro s e t h
  rw [revokeKey_run] at h
  split at h <;> cases h
  rfl

/-! ## Bundles -/

/-- The outputs of a contract as they were written. -/
def outputsOf (s : Store) (contractId : String) : List Artifact :=
  s.artifacts.filter (·.contractId = contractId)

theorem outputsOf_overwriting (s : Store) {a : Artifact} {contractId : String}
    (h : a.contractId ≠ contractId) : (s.overwriting a).outputsOf contractId =
      s.outputsOf contractId := by
  unfold outputsOf overwriting
  induction s.artifacts with
  | nil => rfl
  | cons b bs ih =>
    rw [List.map_cons, List.filter_cons, List.filter_cons, ih]
    -- the row that is overwritten stands in the slot of `a`, hence with another contract
    by_cases hb : b.sameSlot a
    · have hbc : b.contractId ≠ contractId := by
        simp only [Artifact.sameSlot, Bool.and_eq_true, decide_eq_true_eq] at hb
        rw [hb.1]
        exact h
      simp [hb, hbc, Artifact.overwrittenBy]
    · simp [hb]

theorem putArtifact_ok {a : Artifact} {s t : Store} {u : Unit} (h : putArtifact a s = .ok u t) :
    t = { s with artifacts := t.artifacts } ∧
      ∀ id, a.contractId ≠ id → t.outputsOf id = s.outputsOf id := by
  rw [putArtifact_run] at h
  split at h
  · cases h
    exact ⟨rfl, fun id hid => outputsOf_overwriting s hid⟩
  · split at h
    · cases h
    · split at h <;> cases h
      exact ⟨rfl, fun id hid => by simp [outputsOf, List.filter_append, hid]⟩

theorem putArtifacts_ok {as : List Artifact} {s t : Store} {u : PUnit}
    (h : as.forM putArtifact s = .ok u t) : t = { s with artifacts := t.artifacts } ∧
      ∀ id, (∀ a ∈ as, a.contractId ≠ id) → t.outputsOf id = s.outputsOf id := by
  induction as generalizing s with
  | nil =>
    obtain ⟨-, rfl⟩ := pure_ok.1 h
    exact ⟨rfl, fun _ _ => rfl⟩
  | cons a as ih =>
    obtain ⟨_, s', ha, has⟩ := bind_ok.1 h
    obtain ⟨hs', hframe⟩ := putArtifact_ok ha
    obtain ⟨ht, hrest⟩ := ih has
    refine ⟨ht.trans (by rw [hs']), fun id hid => ?_⟩
    rw [hrest id fun b hb => hid b (List.mem_cons_of_mem a hb),
      hframe id (hid a List.mem_cons_self)]

theorem insertContractBundle_ok {b : ContractBundle} {s t : Store} {u : Unit}
    (h : insertContractBundle b s = .ok u t) :
    (∀ c ∈ s.contracts, b.contract.clashes c = false) ∧
      t = { s with contracts := s.contracts ++ [b.contract], artifacts := t.artifacts } ∧
      ∀ id, (∀ a ∈ b.artifacts, a.contractId ≠ id) → t.outputsOf id = s.outputsOf id := by
  obtain ⟨_, s', hc, has⟩ := bind_ok.1 h
  rw [insertContract_run] at hc
  split at hc
  · cases hc
  · rename_i hclash
    split at hc <;> cases hc
    obtain ⟨ht, hframe⟩ := putArtifacts_ok has
    refine ⟨fun c hmem => ?_, ht, hframe⟩
    simpa using fun hcl => hclash (List.any_eq_true.2 ⟨c, hmem, hcl⟩)

theorem insertContractBundles_ok {bs : List ContractBundle} {s t : Store} {u : PUnit}
    (h : bs.forM insertContractBundle s = .ok u t) :
    (∀ b ∈ bs, ∀ c ∈ s.contracts, b.contract.clashes c = false) ∧
      t = { s with
        contracts := s.contracts ++ bs.map (·.contract), artifacts := t.artifacts } ∧
      ∀ id, (∀ b ∈ bs, ∀ a ∈ b.artifacts, a.contractId ≠ id) →
        t.outputsOf id = s.outputsOf id := by
  induction bs generalizing s with
  | nil =>
    obtain ⟨-, rfl⟩ := pure_ok.1 h
    exact ⟨by simp, by simp, fun _ _ => rfl⟩
  | cons b bs ih =>
    obtain ⟨_, s', hb, hbs⟩ := bind_ok.1 h
    obtain ⟨hclash, hs', hframe⟩ := insertContractBundle_ok hb
    obtain ⟨hclashes, ht, hrest⟩ := ih hbs
    have hcs : s'.contracts = s.contracts ++ [b.contract] := by rw [hs']
    refine ⟨?_, ?_, fun id hid => ?_⟩
    · rw [List.forall_mem_cons]
      refine ⟨hclash, fun d hd c hc => hclashes d hd c ?_⟩
      rw [hcs]
      exact List.mem_append_left _ hc
    · rw [ht, hs']
      simp
    · rw [hrest id fun d hd => hid d (List.mem_cons_of_mem b hd),
        hframe id (hid b List.mem_cons_self)]

theorem insertBundle_ok {b : Bundle} {s t : Store} {u : Unit} (h : insertBundle b s = .ok u t) :
    (∀ p ∈ s.packages, b.package.clashes p = false) ∧
      (∀ d ∈ b.contracts, ∀ c ∈ s.contracts, d.contract.clashes c = false) ∧
      t = { s with
        packages := s.packages ++ [b.package]
        contracts := s.contracts ++ b.contracts.map (·.contract)
        artifacts := t.artifacts } ∧
      ∀ id, (∀ d ∈ b.contracts, ∀ a ∈ d.artifacts, a.contractId ≠ id) →
        t.outputsOf id = s.outputsOf id := by
  obtain ⟨_, s', hp, hcs⟩ := bind_ok.1 h
  rw [insertPackage_run] at hp
  split at hp
  · cases hp
  · rename_i hclash
    cases hp
    obtain ⟨hclashes, ht, hframe⟩ := insertContractBundles_ok hcs
    refine ⟨fun p hmem => ?_, hclashes, ht, hframe⟩
    simpa using fun hcl => hclash (List.any_eq_true.2 ⟨p, hmem, hcl⟩)

theorem publish_ok {b : Bundle} {s t : Store} {u : Unit} :
    publish b s = .ok u t ↔ insertBundle b s = .ok u t := by
  unfold publish transaction
  cases insertBundle b s <;> simp

end BuildRegistry.Store
