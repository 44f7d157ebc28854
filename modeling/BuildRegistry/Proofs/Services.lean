import BuildRegistry.Proofs.Store.Operations
import BuildRegistry.Registry.Lookup
import BuildRegistry.Registry.Publishing
import BuildRegistry.Registry.Verification

/-
  Which services write, and when. A lookup writes nothing (`reads_…`); a service that writes does
  so only when it succeeds (`spares_…`). For those that write, `…_ok` says what has been checked
  and what is then in the store; a publication is the only one with two writes, of which the second
  may meet an outage.
-/

namespace BuildRegistry.Registry

open Store

/-! ## Lookups write nothing -/

theorem Reads.along {α : Type} {act : Service α} (h : Reads act) (R : Store → Store → Prop)
    [IsPreorder Store R] : Steps (Along R) act :=
  fun r => ⟨(h r).1 ▸ refl_of R r.store, (h r).2⟩

theorem reads_resolve (name selector : String) (prereleases : Bool) :
    Reads (resolve name selector prereleases) := by
  unfold resolve
  split
  · exact steps_bind (steps_use (steps_packageVersions _ _)) fun _ => steps_orElse
  · split
    · exact steps_pure _
    · exact steps_bind (steps_use (steps_packageVersions _ _)) fun _ => steps_orElse

theorem reads_package (name selector : String) (prereleases : Bool) :
    Reads (package name selector prereleases) :=
  steps_bind (reads_resolve name selector prereleases) fun _ => steps_need (steps_found _ _)

theorem reads_versions (name : String) (prereleases : Bool) :
    Reads (versions name prereleases) := by
  refine steps_bind (steps_use (steps_packageVersions _ _)) fun vs => ?_
  split
  · exact steps_throw _
  · exact steps_pure _

theorem reads_list (f : PackageFilter) (p : PageRequest) : Reads (list f p) :=
  steps_use fun _ => rfl

theorem reads_details (c : Contract) : Reads (details c) :=
  steps_bind (steps_use fun _ => rfl) fun _ => steps_pure _

theorem reads_contractNamed (p : Package) (name : String) : Reads (contractNamed p name) :=
  steps_need (steps_found _ _)

theorem reads_contracts (name selector : String) : Reads (contracts name selector) :=
  steps_bind (reads_package _ _ _) fun _ => steps_bind (steps_use fun _ => rfl) fun cs =>
    steps_mapM reads_details cs

theorem reads_contract (name selector contractName : String) :
    Reads (contract name selector contractName) :=
  steps_bind (reads_package _ _ _) fun p => steps_bind (reads_contractNamed p _) reads_details

theorem reads_artifact (name selector contractName : String) (k : ArtifactKind) :
    Reads (artifact name selector contractName k) :=
  steps_bind (reads_package _ _ _) fun p => steps_bind (reads_contractNamed p _) fun _ =>
    steps_need (steps_found _ _)

theorem reads_contents (p : Package) : Reads (contents p) := by
  refine steps_bind (steps_use fun _ => rfl) fun cs => steps_mapM (fun c => ?_) cs
  exact steps_bind (steps_use fun _ => rfl) fun _ => steps_pure _

theorem reads_archive (name selector : String) : Reads (archive name selector) := by
  refine steps_bind (reads_package _ _ _) fun p => steps_bind (reads_contents p) fun cs => ?_
  split
  · exact steps_pure _
  · exact steps_throw _

theorem reads_checkTarget (chainId : Int) (address : String) :
    Reads (checkTarget chainId address) := by
  unfold checkTarget
  split
  · exact steps_throw _
  · split
    · exact steps_throw _
    · exact steps_pure _

theorem reads_exactPackage (name version : String) : Reads (exactPackage name version) :=
  steps_need (steps_found _ _)

theorem reads_deployment (chain : String) (chainId : Int) (address : String) :
    Reads (deployment chain chainId address) :=
  steps_bind (reads_checkTarget _ _) fun _ => steps_need (steps_found _ _)

theorem reads_filterOf (q : DeploymentQuery) : Reads (filterOf q) := by
  unfold filterOf
  split
  · exact steps_bind (reads_exactPackage _ _) fun _ => steps_pure _
  · exact steps_pure _
  · exact steps_throw _
  · exact steps_pure _

theorem reads_deployments (q : DeploymentQuery) (p : PageRequest) : Reads (deployments q p) :=
  steps_bind (reads_filterOf q) fun _ => steps_use (steps_listDeployments _ _)

theorem reads_deploymentsOf (name version : String) (p : PageRequest) :
    Reads (deploymentsOf name version p) :=
  steps_bind (reads_exactPackage _ _) fun _ => steps_use (steps_listDeployments _ _)

theorem reads_checkContracts (cs : List ContractSubmission) : Reads (checkContracts cs) := by
  unfold checkContracts
  split
  · exact steps_throw _
  · split
    · exact steps_throw _
    · exact steps_pure _

theorem reads_checkOwner (name ownerId : String) : Reads (checkOwner name ownerId) := by
  refine steps_bind (steps_use fun _ => rfl) fun o => ?_
  split
  · split
    · exact steps_throw _
    · exact steps_pure _
  · exact steps_pure _

theorem reads_target (r : VerifyRequest) : Reads (target r) :=
  steps_bind (reads_exactPackage _ _) fun _ => steps_bind (steps_need (steps_found _ _)) fun _ =>
    steps_bind (steps_need (steps_found _ _)) fun _ => steps_pure _

theorem reads_endpointOf (text : String) : Reads (endpointOf text) := by
  unfold endpointOf
  split
  · exact steps_pure _
  · exact steps_throw _

/-! ## Writing services write nothing when they fail -/

theorem spares_publish (s : Supply) (name version ownerId : String) (q : PublishRequest) :
    Spares (publish s name version ownerId q) := by
  have hwrite : ∀ v, Spares (do
      failingAs (publishFailure name v) (call .publish (Store.publish (q.bundle s name v ownerId)))
      let _ ← attempt .setPackageOwner (Store.claimName name ownerId s.now)
      return (q.bundle s name v ownerId).package) := fun v =>
    (spares_failingAs (atomic_transaction _)).before_total fun _ =>
      (total_attempt _ _).bind fun _ => total_pure _
  have hthrow : ∀ {β : Type} (e : RegistryError) (f : PUnit → Service β), Spares (throw e >>= f) :=
    fun e f r e' t h => by
      rcases bind_error.1 h with h | ⟨a, u, h, -⟩
      · rw [(throw_error.1 h).2]
      · exact absurd h throw_not_ok
  unfold publish
  dsimp only
  split
  · exact hthrow _ _
  · refine .after_reads steps_orElse fun v => .after_reads (reads_checkContracts _) fun _ =>
      .after_reads (reads_checkOwner _ _) fun _ => .after_reads (steps_use fun _ => rfl) fun b => ?_
    split
    · exact hthrow _ _
    · exact hwrite v

theorem spares_delete (name version ownerId : String) : Spares (delete name version ownerId) :=
  .after_reads steps_orElse fun _ => .after_reads (reads_checkOwner _ _) fun _ =>
    .after_reads (steps_need (steps_found _ _)) fun _ => spares_failingAs (atomic_deletePackage _)

theorem spares_record (s : Supply) (q : RecordRequest) : Spares (record s q) :=
  .after_reads (reads_checkTarget _ _) fun _ => .after_reads (reads_exactPackage _ _) fun _ =>
    (spares_failingAs (atomic_recordDeployment _)).before_total fun _ => total_pure _

theorem spares_setVerification (s : Supply) (chain : String) (chainId : Int) (address : String)
    (q : StatusRequest) : Spares (setVerification s chain chainId address q) :=
  .after_reads (reads_deployment _ _ _) fun _ => spares_failingAs (atomic_setVerification _ _ _ _)

theorem total_markVerified (s : Supply) (p : Package) (chainId : Int) (address : String)
    (endpoint : Url) : Total (markVerified s p chainId address endpoint) := by
  refine (total_attempt _ _).bind fun o => ?_
  split
  · split
    · exact (total_attempt _ _).bind fun _ => total_pure _
    · exact total_pure _
  · exact total_pure _

theorem spares_verify (s : Supply) (chains : Chains) (q : VerifyRequest) :
    Spares (verify s chains q) := by
  refine .after_reads (reads_checkTarget _ _) fun _ => .after_reads (reads_target q) fun pa =>
    .after_reads steps_orElse fun v => ?_
  split
  · exact (total_pure _).spares
  · refine .after_reads (reads_endpointOf _) fun endpoint => ?_
    dsimp only
    split
    · exact ((total_markVerified _ _ _ _ _).bind fun _ => total_pure _).spares
    · exact (total_pure _).spares

/-! ## What a writing service has done -/

/-- A list of contracts that the checks of a publication let through. -/
def Publishable (cs : List ContractSubmission) : Prop := cs ≠ [] ∧ contractsFault? [] cs = none

theorem checkContracts_run (cs : List ContractSubmission) (r : Registry) :
    Publishable cs ∧ checkContracts cs r = .ok () r ∨
      ¬ Publishable cs ∧ ∃ e, checkContracts cs r = .error e r := by
  unfold checkContracts
  by_cases hne : cs.isEmpty
  · rw [if_pos hne]
    exact .inr ⟨fun h => h.1 (by simpa using hne), _, rfl⟩
  · rw [if_neg hne]
    cases hfault : contractsFault? [] cs with
    | none => exact .inl ⟨⟨by simpa using hne, hfault⟩, rfl⟩
    | some e =>
      refine .inr ⟨fun h => ?_, e, rfl⟩
      rw [h.2] at hfault
      cases hfault

theorem checkContracts_ok {cs : List ContractSubmission} {r t : Registry} {u : Unit}
    (h : checkContracts cs r = .ok u t) : Publishable cs ∧ r = t := by
  rcases checkContracts_run cs r with ⟨hcs, h'⟩ | ⟨-, e, h'⟩ <;> rw [h'] at h <;> cases h
  exact ⟨hcs, rfl⟩

/-- A call that leaves the store and the outages alone leaves the registry alone. -/
theorem eq_of_store_outages {r t : Registry} (hs : r.store = t.store)
    (ho : t.outages = r.outages) : r = t := by
  cases r
  cases t
  cases hs
  cases ho
  rfl

theorem orElse_ok {α : Type} {e : RegistryError} {x : Option α} {a : α} {r t : Registry}
    (h : orElse e x r = .ok a t) : x = some a ∧ r = t := by
  cases x with
  | none => exact absurd h throw_not_ok
  | some b =>
    obtain ⟨rfl, hr⟩ := pure_ok.1 h
    exact ⟨rfl, hr⟩

theorem checkOwner_ok {name ownerId : String} {r t : Registry} {u : Unit}
    (h : checkOwner name ownerId r = .ok u t) :
    (∀ o, r.store.owner? name = some o → o = ownerId) ∧ r = t := by
  obtain ⟨o, r', hx, h⟩ := bind_ok.1 h
  obtain ⟨hact, hout⟩ := use_ok hx
  rw [packageOwner_run] at hact
  obtain ⟨ho, hs⟩ := EStateM.Result.ok.inj hact
  obtain rfl := eq_of_store_outages hs hout
  cases o with
  | none =>
    refine ⟨fun o' ho' => ?_, (pure_ok.1 h).2⟩
    rw [ho] at ho'
    cases ho'
  | some o =>
    dsimp only at h
    split at h
    · exact absurd h throw_not_ok
    · rename_i heq
      refine ⟨fun o' ho' => ?_, (pure_ok.1 h).2⟩
      rw [ho] at ho'
      cases ho'
      simpa using heq

/-- A publication that went through: what has been checked in the store before, and that its
bundle makes the store after it. -/
structure Published (s : Supply) (name v ownerId : String) (q : PublishRequest)
    (before after : Store) : Prop where
  nameValid : Naming.isPackageName name
  publishable : Publishable q.contracts
  owner : ∀ o, before.owner? name = some o → o = ownerId
  absent : before.package? name v = none
  written : insertBundle (q.bundle s name v ownerId) before = .ok () after

namespace Published

variable {s : Supply} {name v ownerId : String} {q : PublishRequest} {before after : Store}

theorem packages (h : Published s name v ownerId q before after) :
    after.packages = before.packages ++ [q.package s name v ownerId] := by
  rw [(insertBundle_ok h.written).2.2.1]
  rfl

theorem owners (h : Published s name v ownerId q before after) : after.owners = before.owners := by
  rw [(insertBundle_ok h.written).2.2.1]

theorem deployments (h : Published s name v ownerId q before after) :
    after.deployments = before.deployments := by
  rw [(insertBundle_ok h.written).2.2.1]

end Published

theorem publish_ok {s : Supply} {name version ownerId : String} {q : PublishRequest}
    {r t : Registry} {p : Package} (h : publish s name version ownerId q r = .ok p t) :
    ∃ v u, Version.normalize? version = some v ∧ p = q.package s name v ownerId ∧
      Published s name v ownerId q r.store u ∧
      (t.store = u.claiming name ownerId s.now ∨ r.outages ≠ [] ∧ t.store = u) := by
  unfold publish at h
  dsimp only at h
  split at h
  · obtain ⟨_, _, h, -⟩ := bind_ok.1 h
    exact absurd h throw_not_ok
  · rename_i hname
    obtain ⟨v, r₁, h₁, h⟩ := bind_ok.1 h
    obtain ⟨hv, rfl⟩ := orElse_ok h₁
    obtain ⟨_, r₂, h₂, h⟩ := bind_ok.1 h
    obtain ⟨hcs, rfl⟩ := checkContracts_ok h₂
    obtain ⟨_, r₃, h₃, h⟩ := bind_ok.1 h
    obtain ⟨ho, rfl⟩ := checkOwner_ok h₃
    obtain ⟨_, r₄, h₄, h⟩ := bind_ok.1 h
    obtain ⟨hact, hout⟩ := use_ok h₄
    rw [packageExists_run] at hact
    obtain ⟨rfl, hs⟩ := EStateM.Result.ok.inj hact
    obtain rfl := eq_of_store_outages hs hout
    split at h
    · obtain ⟨_, _, h, -⟩ := bind_ok.1 h
      exact absurd h throw_not_ok
    · rename_i habsent
      obtain ⟨_, r₅, hpub, h⟩ := bind_ok.1 h
      obtain ⟨hpub, hout₅⟩ := call_ok (failingAs_ok.1 hpub)
      obtain ⟨claimed, r₆, hclaim, h⟩ := bind_ok.1 h
      obtain ⟨rfl, rfl⟩ := pure_ok.1 h
      refine ⟨v, r₅.store, hv, rfl, ⟨by simpa using hname, hcs, ho, by simpa using habsent,
        Store.publish_ok.1 hpub⟩, ?_⟩
      rcases attempt_ok hclaim with ⟨_, -, hact, -⟩ | ⟨e, -, hcall⟩
      · rw [claimName_run] at hact
        exact .inl (EStateM.Result.ok.inj hact).2.symm
      · -- only an outage keeps the name from being claimed
        refine .inr ⟨fun hnil => ?_, ?_⟩
        · rw [← hout₅] at hnil
          unfold call at hcall
          rw [hnil, List.find?_nil, claimName_run] at hcall
          cases hcall
        · rcases (call_error hcall).2 with hs | hact
          · exact hs
          · rw [claimName_run] at hact
            cases hact

theorem exactPackage_run (name version : String) (s : Store) :
    exactPackage name version ⟨s, []⟩ = match s.package? name (exactVersion version) with
      | some p => .ok p ⟨s, []⟩
      | none => .error (.notFound (versionEntry name (exactVersion version))) ⟨s, []⟩ := by
  change need _ .getPackage (getPackage _ _) _ = _
  rw [need_calm, getPackage_run]
  cases s.package? name (exactVersion version) <;> rfl

theorem exactPackage_ok {name version : String} {r t : Registry} {p : Package}
    (h : exactPackage name version r = .ok p t) :
    r.store.package? name (exactVersion version) = some p ∧ r = t := by
  obtain ⟨hact, hout⟩ := need_ok h
  rw [getPackage_run] at hact
  split at hact
  · rename_i hp
    obtain ⟨rfl, hs⟩ := EStateM.Result.ok.inj hact
    exact ⟨hp, eq_of_store_outages hs hout⟩
  · cases hact

theorem delete_ok {name version ownerId : String} {r t : Registry} {u : Unit}
    (h : delete name version ownerId r = .ok u t) :
    ∃ v p, Version.normalize? version = some v ∧
      (∀ o, r.store.owner? name = some o → o = ownerId) ∧ r.store.package? name v = some p ∧
      t.store = r.store.withoutPackage p.id := by
  obtain ⟨v, r₁, h₁, h⟩ := bind_ok.1 h
  obtain ⟨hv, rfl⟩ := orElse_ok h₁
  obtain ⟨_, r₂, h₂, h⟩ := bind_ok.1 h
  obtain ⟨ho, rfl⟩ := checkOwner_ok h₂
  obtain ⟨p, r₃, h₃, h⟩ := bind_ok.1 h
  obtain ⟨hact, hout⟩ := need_ok h₃
  rw [getPackage_run] at hact
  split at hact
  · rename_i hfound
    obtain ⟨rfl, hs⟩ := EStateM.Result.ok.inj hact
    obtain rfl := eq_of_store_outages hs hout
    obtain ⟨hact, -⟩ := need_ok h
    rw [deletePackage_run] at hact
    split at hact
    · exact ⟨v, _, hv, ho, hfound, (EStateM.Result.ok.inj hact).2.symm⟩
    · cases hact
  · cases hact

theorem checkTarget_ok {chainId : Int} {address : String} {r t : Registry} {u : Unit}
    (h : checkTarget chainId address r = .ok u t) :
    Naming.isAddress address ∧ Naming.isChainId chainId ∧ r = t := by
  unfold checkTarget at h
  split at h
  · exact absurd h throw_not_ok
  · rename_i haddress
    split at h
    · exact absurd h throw_not_ok
    · rename_i hchain
      exact ⟨by simpa using haddress, by simpa using hchain, (pure_ok.1 h).2⟩

theorem checkTarget_of_valid {chainId : Int} {address : String} (ha : Naming.isAddress address)
    (hc : Naming.isChainId chainId) (r : Registry) : checkTarget chainId address r = .ok () r := by
  unfold checkTarget
  rw [if_neg (by simpa using ha), if_neg (by simpa using hc)]
  rfl

theorem record_ok {s : Supply} {q : RecordRequest} {r t : Registry} {d : Deployment}
    (h : record s q r = .ok d t) :
    ∃ p, Naming.isAddress q.address ∧ Naming.isChainId q.chainId ∧
      r.store.package? q.packageName (exactVersion q.version) = some p ∧
      d = q.deployment s p ∧ (∀ e ∈ r.store.deployments, d.clashes e = false) ∧
      t.store = { r.store with deployments := r.store.deployments ++ [d] } := by
  obtain ⟨_, r₁, h₁, h⟩ := bind_ok.1 h
  obtain ⟨haddress, hchain, rfl⟩ := checkTarget_ok h₁
  obtain ⟨p, r₂, h₂, h⟩ := bind_ok.1 h
  obtain ⟨hp, rfl⟩ := exactPackage_ok h₂
  obtain ⟨_, r₃, hrec, h⟩ := bind_ok.1 h
  obtain ⟨rfl, rfl⟩ := pure_ok.1 h
  obtain ⟨hact, -⟩ := use_ok hrec
  rw [recordDeployment_run] at hact
  split at hact
  · cases hact
  · rename_i hclash
    split at hact
    · cases hact
    · refine ⟨p, haddress, hchain, hp, rfl, fun e he => ?_, (EStateM.Result.ok.inj hact).2.symm⟩
      simpa using fun hcl => hclash (List.any_eq_true.2 ⟨e, he, hcl⟩)

theorem deployment_ok {chain : String} {chainId : Int} {address : String} {r t : Registry}
    {d : Deployment} (h : deployment chain chainId address r = .ok d t) :
    r.store.deployment? chain chainId (Text.lowercase address) = some d ∧ r = t := by
  obtain ⟨_, r₁, htarget, h⟩ := bind_ok.1 h
  obtain ⟨-, -, rfl⟩ := checkTarget_ok htarget
  obtain ⟨hact, hout⟩ := need_ok h
  rw [getDeployment_run] at hact
  split at hact
  · rename_i hd
    obtain ⟨rfl, hs⟩ := EStateM.Result.ok.inj hact
    exact ⟨hd, eq_of_store_outages hs hout⟩
  · cases hact

theorem setVerification_ok {s : Supply} {chain : String} {chainId : Int} {address : String}
    {q : StatusRequest} {r t : Registry} {d : Deployment}
    (h : setVerification s chain chainId address q r = .ok d t) :
    ∃ e, r.store.deployment? chain chainId (Text.lowercase address) = some e ∧
      t.store = r.store.updateDeployment e.id (·.marked q.verified q.verifiedOn s.now) := by
  obtain ⟨e, r₁, h₁, h⟩ := bind_ok.1 h
  obtain ⟨he, rfl⟩ := deployment_ok h₁
  obtain ⟨hact, -⟩ := need_ok h
  rw [Store.setVerification_run] at hact
  split at hact
  · exact ⟨e, he, (EStateM.Result.ok.inj hact).2.symm⟩
  · cases hact

theorem attempt_getDeployment_ok {chain : String} {chainId : Int} {address : String}
    {r t : Registry} {x : Option Deployment}
    (h : attempt .getDeployment (Store.getDeployment chain chainId address) r = .ok x t) :
    t.store = r.store ∧ ∀ d, x = some d → r.store.deployment? chain chainId address = some d := by
  rcases attempt_ok h with ⟨d, rfl, hact, -⟩ | ⟨e, rfl, hcall⟩
  · rw [getDeployment_run] at hact
    split at hact
    · rename_i hd
      obtain ⟨rfl, hs⟩ := EStateM.Result.ok.inj hact
      exact ⟨hs.symm, fun d' hd' => Option.some.inj hd' ▸ hd⟩
    · cases hact
  · refine ⟨?_, fun d hd => by cases hd⟩
    rcases (call_error hcall).2 with hs | hact
    · exact hs
    · rw [getDeployment_run] at hact
      split at hact
      · cases hact
      · exact (EStateM.Result.error.inj hact).2.symm

theorem markVerified_ok {s : Supply} {p : Package} {chainId : Int} {address : String}
    {endpoint : Url} {r t : Registry} {u : Unit}
    (h : markVerified s p chainId address endpoint r = .ok u t) :
    t.store = r.store ∨ ∃ d, r.store.deployment? p.chain chainId address = some d ∧
      d.packageId = p.id ∧
      t.store = r.store.updateDeployment d.id (·.marked true (endpoint.host.map Host.text) s.now) := by
  obtain ⟨x, r₁, hx, h⟩ := bind_ok.1 h
  obtain ⟨hs, hfound⟩ := attempt_getDeployment_ok hx
  rw [← hs] at hfound ⊢
  cases x with
  | none => exact .inl (congrArg Registry.store (pure_ok.1 h).2.symm)
  | some d =>
    dsimp only at h
    split at h
    · rename_i hhome
      obtain ⟨_, r₂, hset, h⟩ := bind_ok.1 h
      obtain ⟨-, rfl⟩ := pure_ok.1 h
      rcases attempt_ok hset with ⟨_, -, hact, -⟩ | ⟨e, -, hcall⟩
      · rw [Store.setVerification_run] at hact
        split at hact
        · exact .inr ⟨d, hfound d rfl, hhome, (EStateM.Result.ok.inj hact).2.symm⟩
        · cases hact
      · rcases (call_error hcall).2 with hs | hact
        · exact .inl hs
        · exact .inl (atomic_setVerification _ _ _ _ _ _ _ hact)
    · exact .inl (congrArg Registry.store (pure_ok.1 h).2.symm)

theorem target_ok {q : VerifyRequest} {r t : Registry} {p : Package} {a : Artifact}
    (h : target q r = .ok (p, a) t) :
    r.store.package? q.packageName (exactVersion q.version) = some p ∧
      (∃ c, r.store.contract? p.id q.contractName = some c ∧
        r.store.artifact? c.id ArtifactKind.deployedBytecode.name = some a) ∧ r = t := by
  obtain ⟨p', r₁, h₁, h⟩ := bind_ok.1 h
  obtain ⟨hp, rfl⟩ := exactPackage_ok h₁
  obtain ⟨c, r₂, h₂, h⟩ := bind_ok.1 h
  obtain ⟨hact, hout⟩ := need_ok h₂
  rw [getContract_run] at hact
  split at hact
  · rename_i hc
    obtain ⟨rfl, hs⟩ := EStateM.Result.ok.inj hact
    obtain rfl := eq_of_store_outages hs hout
    obtain ⟨a', r₃, h₃, h⟩ := bind_ok.1 h
    obtain ⟨hact, hout⟩ := need_ok h₃
    rw [getArtifact_run] at hact
    split at hact
    · rename_i ha
      obtain ⟨rfl, hs⟩ := EStateM.Result.ok.inj hact
      obtain rfl := eq_of_store_outages hs hout
      obtain ⟨hpa, rfl⟩ := pure_ok.1 h
      cases hpa
      exact ⟨hp, ⟨_, hc, ha⟩, rfl⟩
    · cases hact
  · cases hact

theorem endpointOf_ok {text : String} {r t : Registry} {endpoint : Url}
    (h : endpointOf text r = .ok endpoint t) : Url.parse text = .ok endpoint ∧ r = t := by
  unfold endpointOf at h
  cases hu : Url.parse text with
  | ok u =>
    rw [hu] at h
    obtain ⟨rfl, hr⟩ := pure_ok.1 h
    exact ⟨rfl, hr⟩
  | error e =>
    rw [hu] at h
    exact absurd h throw_not_ok

/-- A verification that has marked a deployment: what the request stood for, what was compared,
and the deployment that was found at the address. -/
structure Marking (s : Supply) (chains : Chains) (q : VerifyRequest) (x : Verification)
    (before after : Store) where
  package : Package
  contract : Contract
  artifact : Artifact
  verifier : Verifier
  url : String
  endpoint : Url
  deployment : Deployment
  package_eq : before.package? q.packageName (exactVersion q.version) = some package
  contract_eq : before.contract? package.id q.contractName = some contract
  artifact_eq : before.artifact? contract.id ArtifactKind.deployedBytecode.name = some artifact
  verifier_eq : chains.get? package.chain = some verifier
  url_eq : q.rpcUrl.filter (· ≠ "") = some url
  endpoint_eq : Url.parse url = .ok endpoint
  answer_eq : x = .ofReport
    (verifier.report endpoint (Text.lowercase q.address) (Bytecode.decode artifact.content))
    artifact.contentHash
  verified : x.verified = true
  deployment_eq : before.deployment? package.chain q.chainId (Text.lowercase q.address) =
    some deployment
  home : deployment.packageId = package.id
  after_eq : after = before.updateDeployment deployment.id
    (·.marked true (endpoint.host.map Host.text) s.now)

theorem verify_ok {s : Supply} {chains : Chains} {q : VerifyRequest} {r t : Registry}
    {x : Verification} (h : verify s chains q r = .ok x t) :
    t.store = r.store ∨ Nonempty (Marking s chains q x r.store t.store) := by
  obtain ⟨_, r₁, h₁, h⟩ := bind_ok.1 h
  obtain ⟨-, -, rfl⟩ := checkTarget_ok h₁
  obtain ⟨⟨p, a⟩, r₂, h₂, h⟩ := bind_ok.1 h
  obtain ⟨hp, ⟨c, hc, ha⟩, rfl⟩ := target_ok h₂
  obtain ⟨v, r₃, h₃, h⟩ := bind_ok.1 h
  obtain ⟨hv, rfl⟩ := orElse_ok h₃
  cases hurl : q.rpcUrl.filter (· ≠ "") with
  | none =>
    rw [hurl] at h
    exact .inl (congrArg Registry.store (pure_ok.1 h).2.symm)
  | some url =>
    rw [hurl] at h
    obtain ⟨endpoint, r₄, h₄, h⟩ := bind_ok.1 h
    obtain ⟨hparse, rfl⟩ := endpointOf_ok h₄
    dsimp only at h
    split at h
    · rename_i hverified
      obtain ⟨_, r₅, hmark, h⟩ := bind_ok.1 h
      obtain ⟨rfl, rfl⟩ := pure_ok.1 h
      rcases markVerified_ok hmark with hs | ⟨d, hd, hhome, ht⟩
      · exact .inl hs
      · exact .inr ⟨p, c, a, v, url, endpoint, d, hp, hc, ha, hv, hurl, hparse, rfl, hverified,
          hd, hhome, ht⟩
    · exact .inl (congrArg Registry.store (pure_ok.1 h).2.symm)

end BuildRegistry.Registry
