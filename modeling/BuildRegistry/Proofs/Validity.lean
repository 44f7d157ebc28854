import BuildRegistry.Proofs.Naming.Rules
import BuildRegistry.Proofs.PackageListing
import BuildRegistry.Proofs.Publication
import BuildRegistry.Proofs.WellFormed

/-
  Everything that the services store is valid (`Valid`): names, versions and addresses follow their
  rules, and rows of different tables fit together (`Linked`). Publications and records establish
  this from what they check, and a deletion takes contracts and deployments along with their
  package, so that what is left still fits.

  Main statement: every run from an empty registry leaves a valid store, in which the lookup of an
  output by a hash finds one exactly when one with that hash of its content is stored
  (`valid_of_run`).
-/

namespace BuildRegistry

theorem Artifact.kind?_eq_some {a : Artifact} {k : ArtifactKind} :
    a.kind? = some k ↔ a.kind = k.name := by
  constructor
  · exact fun h => (ArtifactKind.name_of_ofName? h).symm
  · intro h
    rw [Artifact.kind?, h, ArtifactKind.ofName?_name]

namespace Store

/-- The content hash that belongs to a contract: that of its bytecode, or of nothing. -/
def bytecodeHash (s : Store) (contractId : String) : String :=
  match s.artifact? contractId ArtifactKind.bytecode.name with
  | some a => a.contentHash
  | none => Sha256.hex []

/-- Contracts and deployments follow their rules, and fit their packages and outputs. -/
structure Linked (s : Store) : Prop where
  populated : ∀ p ∈ s.packages, ∃ c ∈ s.contracts, c.packageId = p.id
  contractNames : ∀ c ∈ s.contracts, Naming.ContractName c.name
  contractHashes : ∀ c ∈ s.contracts, c.contentHash = s.bytecodeHash c.id
  chainIds : ∀ d ∈ s.deployments, 0 < d.chainId
  addresses : ∀ d ∈ s.deployments, Naming.LowerAddress d.address
  chains : ∀ d ∈ s.deployments, ∃ p ∈ s.packages, p.id = d.packageId ∧ p.chain = d.chain
  verifiedTimes : ∀ d ∈ s.deployments, d.verified = true ↔ d.verifiedAt.isSome

/-- Everything in the store follows its rules. -/
structure Valid (s : Store) : Prop extends Linked s where
  packageNames : ∀ p ∈ s.packages, Naming.PackageName p.name
  versions : ∀ p ∈ s.packages, Version.normalize? p.version = some p.version
  kinds : ∀ a ∈ s.artifacts, ∃ k : ArtifactKind, a.kind = k.name
  artifactHashes : ∀ a ∈ s.artifacts, a.contentHash = Sha256.hex a.content

theorem linked_empty : Linked empty := by
  constructor <;> simp [empty]

/-! ## Content hashes of contracts -/

theorem bytecodeHash_of_outputsOf {s t : Store} {contractId : String}
    (h : t.outputsOf contractId = s.outputsOf contractId) :
    t.bytecodeHash contractId = s.bytecodeHash contractId := by
  rw [bytecodeHash, bytecodeHash, artifact?_eq, artifact?_eq, h]

/-- A contract is stored with the hash that its outputs in the bundle give. -/
theorem bytecodeHash_of_bundle {t : Store} {sup : Supply} {packageId : String} {n : Nat}
    {c : ContractSubmission} {d : ContractBundle}
    (hd : d = ContractSubmission.bundle sup packageId n c)
    (h : t.outputsOf d.contract.id = d.artifacts) :
    d.contract.contentHash = t.bytecodeHash d.contract.id := by
  have hkinds : (fun a : Artifact => decide (a.kind? = some .bytecode)) =
      fun a => decide (a.kind = ArtifactKind.bytecode.name) :=
    funext fun a => decide_eq_decide.2 Artifact.kind?_eq_some
  rw [bytecodeHash, artifact?_eq, h, hd]
  change ContractSubmission.bytecodeHash _ = _
  rw [ContractSubmission.bytecodeHash, hkinds]
  rfl

/-! ## Rows that fit together -/

variable {s t : Store}

/-- Nothing else counts than packages, contracts, outputs and deployments. -/
theorem Linked.of_eq (hs : Linked s) (hp : t.packages = s.packages)
    (hc : t.contracts = s.contracts) (ha : t.artifacts = s.artifacts)
    (hd : t.deployments = s.deployments) : Linked t := by
  cases s
  cases t
  subst hp hc ha hd
  exact { hs with }

/-- A new contract follows its rules and has the hash of its new outputs. -/
theorem linked_contract_of_published {sup : Supply} {name v ownerId : String} {q : PublishRequest}
    (h : Registry.Published sup name v ownerId q s t) (hi : Integrity s) {d : ContractBundle}
    (hd : d ∈ (q.bundle sup name v ownerId).contracts) :
    Naming.ContractName d.contract.name ∧
      d.contract.contentHash = t.bytecodeHash d.contract.id := by
  obtain ⟨c, hc, n, hdc⟩ := ContractSubmission.exists_of_mem_bundles hd
  refine ⟨?_, bytecodeHash_of_bundle hdc (h.outputsOf_new hi hd)⟩
  rw [hdc]
  exact (Registry.publishable_iff.1 h.publishable).2.names c hc

theorem linked_of_published {sup : Supply} {name v ownerId : String} {q : PublishRequest}
    (h : Registry.Published sup name v ownerId q s t) (hi : Integrity s) (hs : Linked s) :
    Linked t := by
  constructor
  case populated =>
    intro p hp
    rw [h.packages] at hp
    rw [h.contracts]
    rcases List.mem_append.1 hp with hp | hp
    · obtain ⟨c, hc, hcp⟩ := hs.populated p hp
      exact ⟨c, List.mem_append_left _ hc, hcp⟩
    · -- the list of contracts in a request that is let through is not empty
      obtain ⟨d, hd⟩ := List.exists_mem_of_ne_nil _
        (ContractSubmission.bundles_ne_nil sup (sup.id 0) 1 h.publishable.1)
      refine ⟨d.contract, List.mem_append_right _ (List.mem_map_of_mem hd), ?_⟩
      rw [List.mem_singleton.1 hp]
      exact (ContractSubmission.of_mem_bundles hd).1
  case contractNames =>
    intro c hc
    rw [h.contracts] at hc
    rcases List.mem_append.1 hc with hc | hc
    · exact hs.contractNames c hc
    · obtain ⟨d, hd, rfl⟩ := List.mem_map.1 hc
      exact (linked_contract_of_published h hi hd).1
  case contractHashes =>
    intro c hc
    rw [h.contracts] at hc
    rcases List.mem_append.1 hc with hc | hc
    · rw [bytecodeHash_of_outputsOf (h.outputsOf_old hc)]
      exact hs.contractHashes c hc
    · obtain ⟨d, hd, rfl⟩ := List.mem_map.1 hc
      exact (linked_contract_of_published h hi hd).2
  case chainIds =>
    rw [h.deployments]
    exact hs.chainIds
  case addresses =>
    rw [h.deployments]
    exact hs.addresses
  case chains =>
    intro d hd
    rw [h.deployments] at hd
    obtain ⟨p, hp, hpd⟩ := hs.chains d hd
    rw [h.packages]
    exact ⟨p, List.mem_append_left _ hp, hpd⟩
  case verifiedTimes =>
    rw [h.deployments]
    exact hs.verifiedTimes

theorem linked_withoutPackage (hi : Integrity s) (hs : Linked s) (id : String) :
    Linked (s.withoutPackage id) := by
  have hpackage : ∀ p ∈ s.packages, p.id ≠ id → p ∈ (s.withoutPackage id).packages :=
    fun p hp hne => List.mem_filter.2 ⟨hp, decide_eq_true hne⟩
  have hcontract : ∀ c ∈ (s.withoutPackage id).contracts, c ∈ s.contracts ∧ c.packageId ≠ id := by
    intro c hc
    obtain ⟨hc, hne⟩ := List.mem_filter.1 hc
    exact ⟨hc, of_decide_eq_true hne⟩
  have hdeployment : ∀ d ∈ (s.withoutPackage id).deployments,
      d ∈ s.deployments ∧ d.packageId ≠ id := by
    intro d hd
    obtain ⟨hd, hne⟩ := List.mem_filter.1 hd
    exact ⟨hd, of_decide_eq_true hne⟩
  constructor
  case populated =>
    intro p hp
    obtain ⟨hp, hne⟩ := List.mem_filter.1 hp
    obtain ⟨c, hc, hcp⟩ := hs.populated p hp
    refine ⟨c, List.mem_filter.2 ⟨hc, ?_⟩, hcp⟩
    rwa [hcp]
  case contractNames => exact fun c hc => hs.contractNames c (hcontract c hc).1
  case contractHashes =>
    intro c hc
    obtain ⟨hc, hne⟩ := hcontract c hc
    obtain ⟨p, -, hpc⟩ := List.mem_map.1 (hi.contractHomes c hc)
    have hsame : SameContents p.id s (s.withoutPackage id) :=
      sameContents_withoutPackage hi (by rw [hpc]; exact Ne.symm hne)
    rw [bytecodeHash_of_outputsOf (hsame.outputs c hc hpc.symm)]
    exact hs.contractHashes c hc
  case chainIds => exact fun d hd => hs.chainIds d (hdeployment d hd).1
  case addresses => exact fun d hd => hs.addresses d (hdeployment d hd).1
  case chains =>
    intro d hd
    obtain ⟨hd, hne⟩ := hdeployment d hd
    obtain ⟨p, hp, hpd, hchain⟩ := hs.chains d hd
    exact ⟨p, hpackage p hp (by rw [hpd]; exact hne), hpd, hchain⟩
  case verifiedTimes => exact fun d hd => hs.verifiedTimes d (hdeployment d hd).1

theorem linked_of_recorded (hs : Linked s) {sup : Supply} {q : RecordRequest} {p : Package}
    (haddress : Naming.isAddress q.address) (hchain : Naming.isChainId q.chainId)
    (hp : p ∈ s.packages) :
    Linked { s with deployments := s.deployments ++ [q.deployment sup p] } where
  populated := hs.populated
  contractNames := hs.contractNames
  contractHashes := hs.contractHashes
  chainIds := List.forall_mem_append.2
    ⟨hs.chainIds, List.forall_mem_singleton.2 (of_decide_eq_true hchain)⟩
  addresses := List.forall_mem_append.2
    ⟨hs.addresses, List.forall_mem_singleton.2 (Naming.lowerAddress_lowercase haddress)⟩
  chains := List.forall_mem_append.2
    ⟨hs.chains, List.forall_mem_singleton.2 ⟨p, hp, rfl, rfl⟩⟩
  verifiedTimes := List.forall_mem_append.2
    ⟨hs.verifiedTimes, List.forall_mem_singleton.2 (by simp [RecordRequest.deployment])⟩

theorem linked_of_marked (hs : Linked s) (id : String) (verified : Bool) (on : Option String)
    (now : Time) : Linked (s.updateDeployment id (·.marked verified on now)) := by
  have hrow : ∀ d ∈ (s.updateDeployment id (·.marked verified on now)).deployments,
      ∃ e ∈ s.deployments, e = d ∨ e.marked verified on now = d := by
    intro d hd
    obtain ⟨e, he, rfl⟩ := List.mem_map.1 hd
    refine ⟨e, he, ?_⟩
    split
    · exact .inr rfl
    · exact .inl rfl
  constructor
  case populated => exact hs.populated
  case contractNames => exact hs.contractNames
  case contractHashes => exact hs.contractHashes
  case chainIds =>
    intro d hd
    obtain ⟨e, he, rfl | rfl⟩ := hrow d hd <;> exact hs.chainIds e he
  case addresses =>
    intro d hd
    obtain ⟨e, he, rfl | rfl⟩ := hrow d hd <;> exact hs.addresses e he
  case chains =>
    intro d hd
    obtain ⟨e, he, rfl | rfl⟩ := hrow d hd <;> exact hs.chains e he
  case verifiedTimes =>
    intro d hd
    obtain ⟨e, he, rfl | rfl⟩ := hrow d hd
    · exact hs.verifiedTimes e he
    · -- the time goes with the mark
      cases verified <;> simp [Deployment.marked]

theorem linked_of_change {calm : Prop} {sup : Supply} {a : Registry.Action}
    (h : Registry.Change calm sup a s t) (hi : Integrity s) (hs : Linked s) : Linked t := by
  cases h with
  | nothing => exact hs
  | published _ hpub hclaim =>
    have hu := linked_of_published hpub hi hs
    rcases hclaim with rfl | ⟨-, rfl⟩
    · exact hu.of_eq (by simp) (by simp) (by simp) (by simp)
    · exact hu
  | deleted => exact linked_withoutPackage hi hs _
  | recorded haddress hchain hfound =>
    exact linked_of_recorded hs haddress hchain (List.mem_of_find?_eq_some hfound)
  | marked id verified on => exact linked_of_marked hs id verified on _
  | keysChanged => exact hs.of_eq rfl rfl rfl rfl

/-! ## Outputs by their hashes -/

theorem mem_of_least? {α : Type} {compareRows : α → α → Ordering} {rows : List α} {a : α}
    (h : least? compareRows rows = some a) : a ∈ rows := by
  have hfold : ∀ (rs : List α) (r : α),
      rs.foldl (fun best x => if compareRows x best = .lt then x else best) r ∈ r :: rs := by
    intro rs
    induction rs with
    | nil => exact fun r => List.mem_singleton_self r
    | cons x rs ih =>
      intro r
      rw [List.foldl_cons]
      split
      · exact List.mem_cons_of_mem r (ih x)
      · rcases List.mem_cons.1 (ih r) with hr | hr
        · rw [hr]
          exact List.mem_cons_self
        · exact List.mem_cons_of_mem r (List.mem_cons_of_mem x hr)
  cases rows with
  | nil => cases h
  | cons r rs =>
    rw [← Option.some.inj h]
    exact hfold rs r

theorem getArtifactByHash_run (hash : String) (s : Store) :
    getArtifactByHash hash s = match s.artifactByHash? hash with
      | some a => .ok a s
      | none => .error (.notFound ("artifact " ++ hash)) s := by
  change found _ (s.artifactByHash? hash) s = _
  cases s.artifactByHash? hash <;> rfl

/-- The lookup by a content hash finds an output with that hash, if there is one. -/
theorem artifactByHash?_cases (s : Store) (hash : String) :
    (∃ a ∈ s.artifacts, a.contentHash = hash ∧ s.artifactByHash? hash = some a) ∨
      (∀ a ∈ s.artifacts, a.contentHash ≠ hash) ∧ s.artifactByHash? hash = none := by
  cases h : s.artifactByHash? hash with
  | some a =>
    obtain ⟨ha, hhash⟩ := List.mem_filter.1 (mem_of_least? h)
    exact .inl ⟨a, ha, of_decide_eq_true hhash, rfl⟩
  | none =>
    refine .inr ⟨fun a ha hhash => ?_, rfl⟩
    have hmem : a ∈ s.artifacts.filter (·.contentHash = hash) :=
      List.mem_filter.2 ⟨ha, decide_eq_true hhash⟩
    obtain ⟨r, rs, hrows⟩ := List.exists_cons_of_ne_nil (List.ne_nil_of_mem hmem)
    rw [artifactByHash?, hrows] at h
    cases h

/-- In a valid store the lookup by a hash answers an output whose content has that hash exactly
when one is stored. -/
theorem Valid.getArtifactByHash_iff (hs : Valid s) (hash : String) :
    (∃ a ∈ s.artifacts, Sha256.hex a.content = hash ∧ getArtifactByHash hash s = .ok a s) ∨
      (∀ a ∈ s.artifacts, Sha256.hex a.content ≠ hash) ∧
        getArtifactByHash hash s = .error (.notFound ("artifact " ++ hash)) s := by
  rw [getArtifactByHash_run]
  rcases s.artifactByHash?_cases hash with ⟨a, ha, hhash, hfound⟩ | ⟨hnone, hfound⟩
  · rw [hfound]
    exact .inl ⟨a, ha, (hs.artifactHashes a ha).symm.trans hhash, rfl⟩
  · rw [hfound]
    refine .inr ⟨fun a ha => ?_, rfl⟩
    rw [← hs.artifactHashes a ha]
    exact hnone a ha

end Store

namespace Registry

open Store

theorem Run.valid {P : Registry → Event → Prop} {r : Registry} (hrun : Run P .empty r) :
    Valid r.store where
  toLinked := hrun.keeps_of_change_whole Linked linked_of_change integrity_empty linked_empty
  packageNames p hp := Naming.packageName_of_isPackageName (hrun.namesValid p hp)
  versions p hp := by
    obtain ⟨spelling, hv⟩ := hrun.wellFormed.versions p hp
    exact Version.normalize?_of_normalize? hv
  kinds a ha := by
    obtain ⟨k, hk⟩ := Option.isSome_iff_exists.1 (hrun.wellFormed.outputs a ha).1
    exact ⟨k, Artifact.kind?_eq_some.1 hk⟩
  artifactHashes a ha := (hrun.wellFormed.outputs a ha).2

/-- Whatever happens, the services leave a valid store, in which the lookup of an output by a hash
answers one whose content has that hash exactly when there is one. -/
theorem valid_of_run {r : Registry} (hrun : Run Anything .empty r) :
    Valid r.store ∧ ∀ hash,
      (∃ a ∈ r.store.artifacts, Sha256.hex a.content = hash ∧
        getArtifactByHash hash r.store = .ok a r.store) ∨
      (∀ a ∈ r.store.artifacts, Sha256.hex a.content ≠ hash) ∧
        getArtifactByHash hash r.store = .error (.notFound ("artifact " ++ hash)) r.store :=
  ⟨hrun.valid, hrun.valid.getArtifactByHash_iff⟩

/-- A contract that is published with its code and then recorded as deployed. -/
theorem valid_of_run_deployed_token : ∃ r, Run Anything .empty r ∧ r.store.packages ≠ [] ∧
    r.store.deployments ≠ [] ∧ Valid r.store ∧ ∃ a ∈ r.store.artifacts,
      getArtifactByHash (Sha256.hex (Bytes.ofString "0x6001")) r.store = .ok a r.store := by
  let supply (n : Nat) : Supply := ⟨⟨0⟩, fun k => toString (k + n), "secret"⟩
  let token : ContractSubmission := ⟨" Token", "src/Token.sol", none, some "0x6001\n", none, none, none⟩
  let published : Event := .request (supply 0) (.publish "tokens" "v1.0.0" "k1"
    ⟨"evm", "", none, none, [], [token]⟩)
  let recorded : Event := .request (supply 9) (.record ⟨"tokens", "1.0.0", "Token", 1,
    "0xABCDEFABCDEFABCDEFABCDEFABCDEFABCDEFABCD", none, none, none, none, none⟩)
  have hrun : Run Anything .empty (recorded.apply (published.apply .empty)) :=
    .snoc (.snoc .nil trivial) trivial
  have hstored : ∃ a ∈ (recorded.apply (published.apply .empty)).store.artifacts,
      Sha256.hex a.content = Sha256.hex (Bytes.ofString "0x6001") := by decide +kernel
  obtain ⟨hvalid, hlookup⟩ := valid_of_run hrun
  refine ⟨_, hrun, by decide +kernel, by decide +kernel, hvalid, ?_⟩
  rcases hlookup (Sha256.hex (Bytes.ofString "0x6001")) with ⟨a, ha, -, hget⟩ | ⟨hnone, -⟩
  · exact ⟨a, ha, hget⟩
  · obtain ⟨a, ha, hhash⟩ := hstored
    exact absurd hhash (hnone a ha)

end Registry

end BuildRegistry
