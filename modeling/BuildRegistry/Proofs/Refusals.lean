import BuildRegistry.Proofs.Lookup
import BuildRegistry.Proofs.Publication.Progress
import BuildRegistry.Proofs.Runs

/-
  How services refuse. Where no outage waits, all that the store can say against a call is that a
  row is not there, that a key is taken, that a reference dangles or that a cursor is none. A
  service reports a missing row and a bad cursor in its own terms, and it asks for nothing that
  would dangle: it writes next to rows that it has looked up. That leaves keys that are taken. For
  identifiers that are new these are the keys that callers choose, those of versions and of sites.

  `FailsOnly E act s` says that a service can fail in the calm registry of `s` with errors of `E`
  only; it passes from the steps of a service to the whole (`FailsOnly.bind`). `Justified a s` are
  the errors that a request `a` may get. Main statement (`refusal_justified`): no service answers
  with an error of the store, only a failed archive has the status 500, and a version or a site
  that is said to be taken is.
-/

namespace BuildRegistry.Registry

open Store

/-- The requests to the services; the others are about keys. -/
def Action.IsService : Action → Prop
  | .createKey _ | .useKey _ | .listKeys | .revokeKey _ => False
  | _ => True

/-- The errors that a request may get in a store. -/
def Justified (a : Action) (s : Store) : RegistryError → Prop
  | .storage _ => False
  | .archiveFailed _ => ∃ name selector, a = .archive name selector
  | .versionExists name v => (s.package? name v).isSome
  | .alreadyExists entry => ∃ d ∈ s.deployments, entry = siteEntry d.chain d.chainId d.address
  | _ => True

/-! ## Services that fail in certain ways only -/

/-- In the calm registry of a store, the service fails with errors of `E` only. -/
def FailsOnly {α : Type} (E : RegistryError → Prop) (act : Service α) (s : Store) : Prop :=
  ∀ e t, act ⟨s, []⟩ = .error e t → E e

section FailsOnly

variable {α β : Type} {E : RegistryError → Prop} {s : Store}

theorem failsOnly_of_ok {act : Service α} {a : α} {t : Registry} (h : act ⟨s, []⟩ = .ok a t) :
    FailsOnly E act s := by
  intro e t h'
  rw [h] at h'
  cases h'

theorem failsOnly_pure (a : α) : FailsOnly E (pure a) s := failsOnly_of_ok rfl

theorem failsOnly_throw {e : RegistryError} (h : E e) : FailsOnly E (throw e : Service α) s := by
  intro e' t h'
  rw [← (throw_error.1 h').1]
  exact h

theorem failsOnly_orElse {e : RegistryError} (h : E e) (x : Option α) :
    FailsOnly E (orElse e x) s := by
  cases x with
  | none => exact failsOnly_throw h
  | some a => exact failsOnly_pure a

theorem Total.failsOnly {act : Service α} (h : Total act) : FailsOnly E act s :=
  fun e t h' => absurd h' (h _ e t)

/-- After a step that writes nothing, the service goes on in the same registry. -/
theorem FailsOnly.bind {x : Service α} {f : α → Service β} (hreads : Reads x)
    (hx : FailsOnly E x s) (hf : ∀ a, x ⟨s, []⟩ = .ok a ⟨s, []⟩ → FailsOnly E (f a) s) :
    FailsOnly E (x >>= f) s := by
  intro e t h
  rcases bind_error.1 h with h | ⟨a, u, hok, herr⟩
  · exact hx e t h
  · obtain ⟨hs, hout⟩ := hreads.ok hok
    obtain rfl : u = ⟨s, []⟩ := by
      cases u
      rw [Registry.mk.injEq]
      exact ⟨hs, List.sublist_nil.1 hout⟩
    exact hf a hok e t herr

/-- A step that writes comes last, but for what cannot fail. -/
theorem FailsOnly.before_total {x : Service α} {f : α → Service β} (hx : FailsOnly E x s)
    (hf : ∀ a, Total (f a)) : FailsOnly E (x >>= f) s := by
  intro e t h
  rcases bind_error.1 h with h | ⟨a, u, -, herr⟩
  · exact hx e t h
  · exact absurd herr (hf a u e t)

theorem failsOnly_silently {act : Service α} (h : FailsOnly E act s) :
    FailsOnly E (silently act) s := fun e t h' => h e t (silently_error.1 h')

/-- A step fails as its call of the store does. -/
theorem failsOnly_failingAs {report : StoreError → RegistryError} {op : Operation}
    {act : StoreM α} (h : ∀ e t, act s = .error e t → E (report e)) :
    FailsOnly E (failingAs report (call op act)) s := by
  intro e t h'
  obtain ⟨e', hcall, rfl⟩ := failingAs_error.1 h'
  rw [call_calm] at hcall
  cases hact : act s with
  | ok a u =>
    rw [hact] at hcall
    cases hcall
  | error e'' u =>
    rw [hact] at hcall
    cases hcall
    exact h _ _ hact

end FailsOnly

/-! ## What the store says -/

section Calls

variable {α : Type} {a : Action} {s : Store}

/-- A lookup that goes wrong is a missing row. -/
theorem failsOnly_need_found {op : Operation} (what entry : String) (view : Store → Option α) :
    FailsOnly (Justified a s) (need what op (do found entry (view (← get)))) s := by
  refine failsOnly_failingAs fun e t h => ?_
  change found entry (view s) s = _ at h
  cases hx : view s with
  | some x =>
    rw [hx] at h
    cases h
  | none =>
    rw [hx] at h
    cases h
    trivial

theorem failsOnly_use_of_ok {op : Operation} {act : StoreM α} {x : α} {t : Store}
    (h : act s = .ok x t) : FailsOnly (Justified a s) (use op act) s := by
  refine failsOnly_failingAs fun e t h' => ?_
  rw [h] at h'
  cases h'

theorem failsOnly_listDeployments (f : DeploymentFilter) (p : PageRequest) :
    FailsOnly (Justified a s) (use .listDeployments (listDeployments f p)) s := by
  refine failsOnly_failingAs fun e t h => ?_
  rcases bind_error.1 h with h | ⟨start, u, -, h⟩
  · -- the cursor is the only thing to be wrong with a page
    unfold startOf at h
    cases hafter : p.after with
    | none =>
      rw [hafter] at h
      cases h
    | some cursor =>
      rw [hafter] at h
      dsimp only at h
      cases hcursor : Position.ofCursor? cursor with
      | none =>
        rw [hcursor] at h
        cases h
        trivial
      | some start =>
        rw [hcursor] at h
        cases h
  · cases h

/-- A deployment with a new identifier is refused only for one at its site. -/
theorem failsOnly_recordDeployment {sup : Supply} (hfresh : sup.Fresh s) (q : RecordRequest)
    {p : Package} (hp : p ∈ s.packages) :
    FailsOnly (Justified a s) (use .recordDeployment (recordDeployment (q.deployment sup p))) s := by
  refine failsOnly_failingAs fun e t h => ?_
  rw [recordDeployment_run] at h
  have hthere : ¬ (s.packageById? p.id).isNone :=
    not_isNone_of_mem_key (List.mem_map_of_mem hp)
  split at h
  · rename_i hclash
    cases h
    obtain ⟨d, hd, hclash⟩ := List.any_eq_true.1 hclash
    rw [Deployment.clashes, Bool.or_eq_true] at hclash
    rcases hclash with hid | hsite
    · exact absurd (List.mem_map.2 ⟨d, hd, (of_decide_eq_true hid).symm⟩) (hfresh.deployments 0)
    · simp only [Deployment.isAt, Bool.and_eq_true, decide_eq_true_eq] at hsite
      obtain ⟨⟨hchain, hchainId⟩, haddress⟩ := hsite
      exact ⟨d, hd, by rw [hchain, hchainId, haddress]⟩
  · split at h
    · rename_i hnone
      exact absurd hnone hthere
    · cases h

end Calls

/-! ## Steps of services -/

section Steps

variable {a : Action} {s : Store}

theorem failsOnly_resolve (name selector : String) (prereleases : Bool) :
    FailsOnly (Justified a s) (resolve name selector prereleases) s := by
  have hversions : FailsOnly (Justified a s)
      (use .getPackageVersions (packageVersions name prereleases)) s := failsOnly_use_of_ok rfl
  unfold resolve
  split
  · exact .bind (steps_use (steps_packageVersions _ _)) hversions fun _ _ =>
      failsOnly_orElse trivial _
  · split
    · exact failsOnly_pure _
    · exact .bind (steps_use (steps_packageVersions _ _)) hversions fun _ _ =>
        failsOnly_orElse trivial _

theorem failsOnly_package (name selector : String) (prereleases : Bool) :
    FailsOnly (Justified a s) (package name selector prereleases) s :=
  .bind (reads_resolve _ _ _) (failsOnly_resolve _ _ _) fun _ _ => failsOnly_need_found _ _ _

theorem failsOnly_checkTarget (chainId : Int) (address : String) :
    FailsOnly (Justified a s) (checkTarget chainId address) s := by
  unfold checkTarget
  split
  · exact failsOnly_throw trivial
  · split
    · exact failsOnly_throw trivial
    · exact failsOnly_pure _

theorem failsOnly_exactPackage (name version : String) :
    FailsOnly (Justified a s) (exactPackage name version) s := failsOnly_need_found _ _ _

theorem failsOnly_checkContracts (cs : List ContractSubmission) :
    FailsOnly (Justified a s) (checkContracts cs) s := by
  rcases publishable_or_faulty cs with hcs | ⟨reason, hcs⟩
  · exact failsOnly_of_ok (checkContracts_publishable hcs _)
  · intro e t h
    rw [checkContracts_faulty hcs] at h
    cases h
    trivial

theorem failsOnly_checkOwner (name ownerId : String) :
    FailsOnly (Justified a s) (checkOwner name ownerId) s := by
  refine .bind (steps_use fun _ => rfl) (failsOnly_use_of_ok rfl) fun o _ => ?_
  split
  · split
    · exact failsOnly_throw trivial
    · exact failsOnly_pure _
  · exact failsOnly_pure _

theorem failsOnly_filterOf (q : DeploymentQuery) : FailsOnly (Justified a s) (filterOf q) s := by
  unfold filterOf
  split
  · exact .bind (reads_exactPackage _ _) (failsOnly_exactPackage _ _) fun _ _ => failsOnly_pure _
  · exact failsOnly_pure _
  · exact failsOnly_throw trivial
  · exact failsOnly_pure _

theorem failsOnly_target (q : VerifyRequest) : FailsOnly (Justified a s) (target q) s :=
  .bind (reads_exactPackage _ _) (failsOnly_exactPackage _ _) fun _ _ =>
    .bind (steps_need (steps_found _ _)) (failsOnly_need_found _ _ _) fun _ _ =>
      .bind (steps_need (steps_found _ _)) (failsOnly_need_found _ _ _) fun _ _ =>
        failsOnly_pure _

theorem failsOnly_endpointOf (text : String) : FailsOnly (Justified a s) (endpointOf text) s := by
  unfold endpointOf
  split
  · exact failsOnly_pure _
  · exact failsOnly_throw trivial

theorem failsOnly_deployment (chain : String) (chainId : Int) (address : String) :
    FailsOnly (Justified a s) (deployment chain chainId address) s :=
  .bind (reads_checkTarget _ _) (failsOnly_checkTarget _ _) fun _ _ => failsOnly_need_found _ _ _

end Steps

/-! ## Services -/

section Services

variable {s : Store}

theorem failsOnly_archive (name selector : String) :
    FailsOnly (Justified (.archive name selector) s) (archive name selector) s := by
  refine .bind (reads_package _ _ _) (failsOnly_package _ _ _) fun p _ =>
    .bind (reads_contents p) (failsOnly_of_ok (contents_run p s)) fun cs _ => ?_
  split
  · exact failsOnly_pure _
  · exact failsOnly_throw ⟨name, selector, rfl⟩

variable {a : Action} {sup : Supply}

theorem failsOnly_versions (name : String) (prereleases : Bool) :
    FailsOnly (Justified a s) (versions name prereleases) s := by
  refine .bind (steps_use (steps_packageVersions _ _)) (failsOnly_use_of_ok rfl) fun vs _ => ?_
  split
  · exact failsOnly_throw trivial
  · exact failsOnly_pure _

theorem failsOnly_details (c : Contract) : FailsOnly (Justified a s) (details c) s :=
  failsOnly_of_ok (details_run c s)

theorem failsOnly_contracts (name selector : String) :
    FailsOnly (Justified a s) (contracts name selector) s :=
  .bind (reads_package _ _ _) (failsOnly_package _ _ _) fun p _ =>
    .bind (steps_use fun _ => rfl) (failsOnly_use_of_ok (listContracts_run p.id s)) fun cs _ =>
      failsOnly_of_ok (mapM_of_ok cs fun c _ => details_run c s)

theorem failsOnly_contract (name selector contractName : String) :
    FailsOnly (Justified a s) (contract name selector contractName) s :=
  .bind (reads_package _ _ _) (failsOnly_package _ _ _) fun p _ =>
    .bind (reads_contractNamed p _) (failsOnly_need_found _ _ _) fun c _ => failsOnly_details c

theorem failsOnly_artifact (name selector contractName : String) (k : ArtifactKind) :
    FailsOnly (Justified a s) (artifact name selector contractName k) s :=
  .bind (reads_package _ _ _) (failsOnly_package _ _ _) fun p _ =>
    .bind (reads_contractNamed p _) (failsOnly_need_found _ _ _) fun _ _ =>
      failsOnly_need_found _ _ _

theorem failsOnly_deployments (q : DeploymentQuery) (p : PageRequest) :
    FailsOnly (Justified a s) (deployments q p) s :=
  .bind (reads_filterOf q) (failsOnly_filterOf q) fun _ _ => failsOnly_listDeployments _ _

theorem failsOnly_deploymentsOf (name version : String) (p : PageRequest) :
    FailsOnly (Justified a s) (deploymentsOf name version p) s :=
  .bind (reads_exactPackage _ _) (failsOnly_exactPackage _ _) fun _ _ =>
    failsOnly_listDeployments _ _

theorem failsOnly_record (hfresh : sup.Fresh s) (q : RecordRequest) :
    FailsOnly (Justified a s) (record sup q) s :=
  .bind (reads_checkTarget _ _) (failsOnly_checkTarget _ _) fun _ _ =>
    .bind (reads_exactPackage _ _) (failsOnly_exactPackage _ _) fun _ hp =>
      (failsOnly_recordDeployment hfresh q
        (package?_mem (exactPackage_ok hp).1).1).before_total fun _ => total_pure _

theorem failsOnly_setVerification (chain : String) (chainId : Int) (address : String)
    (q : StatusRequest) :
    FailsOnly (Justified a s) (setVerification sup chain chainId address q) s := by
  refine .bind (reads_deployment _ _ _) (failsOnly_deployment _ _ _) fun d _ =>
    failsOnly_failingAs fun e t h => ?_
  rw [Store.setVerification_run] at h
  split at h <;> cases h
  trivial

theorem failsOnly_verify (chains : Chains) (q : VerifyRequest) :
    FailsOnly (Justified a s) (verify sup chains q) s := by
  refine .bind (reads_checkTarget _ _) (failsOnly_checkTarget _ _) fun _ _ =>
    .bind (reads_target q) (failsOnly_target q) fun pa _ =>
      .bind steps_orElse (failsOnly_orElse trivial _) fun v _ => ?_
  split
  · exact failsOnly_pure _
  · refine .bind (reads_endpointOf _) (failsOnly_endpointOf _) fun endpoint _ => ?_
    dsimp only
    split
    · exact ((total_markVerified _ _ _ _ _).bind fun _ => total_pure _).failsOnly
    · exact failsOnly_pure _

theorem failsOnly_delete (name version ownerId : String) :
    FailsOnly (Justified a s) (delete name version ownerId) s := by
  refine .bind steps_orElse (failsOnly_orElse trivial _) fun v _ =>
    .bind (reads_checkOwner _ _) (failsOnly_checkOwner _ _) fun _ _ =>
      .bind (steps_need (steps_found _ _)) (failsOnly_need_found _ _ _) fun p _ =>
        failsOnly_failingAs fun e t h => ?_
  rw [deletePackage_run] at h
  split at h <;> cases h
  trivial

/-- With new identifiers a publication is refused by its checks or not at all. -/
theorem failsOnly_publish (hi : Integrity s) (hfresh : sup.Fresh s) (name version ownerId : String)
    (q : PublishRequest) :
    FailsOnly (Justified a s) (publish sup name version ownerId q) s := by
  have hthrow : ∀ {β : Type} {e : RegistryError} (f : PUnit → Service β), Justified a s e →
      FailsOnly (Justified a s) (throw e >>= f) s := fun f he =>
    .bind (steps_throw _) (failsOnly_throw he) fun _ h => absurd h throw_not_ok
  unfold publish
  dsimp only
  split
  · exact hthrow _ trivial
  · refine .bind steps_orElse (failsOnly_orElse trivial _) fun v _ =>
      .bind (reads_checkContracts _) (failsOnly_checkContracts _) fun _ hcs =>
      .bind (reads_checkOwner _ _) (failsOnly_checkOwner _ _) fun _ _ =>
      .bind (steps_use fun _ => rfl) (failsOnly_use_of_ok (packageExists_run name v s))
        fun found hfound => ?_
    have hact := (use_ok hfound).1
    rw [packageExists_run] at hact
    obtain ⟨rfl, -⟩ := EStateM.Result.ok.inj hact
    split
    · rename_i hthere
      exact hthrow _ hthere
    · rename_i habsent
      -- what has been checked leaves the store nothing to object to
      obtain ⟨t, ht⟩ : ∃ t, Store.publish (q.bundle sup name v ownerId) s = .ok () t :=
        publish_of_fresh hi hfresh (checkContracts_ok hcs).1 (by simpa using habsent)
      refine FailsOnly.before_total (failsOnly_failingAs fun e t' h => ?_) fun _ =>
        (total_attempt _ _).bind fun _ => total_pure _
      rw [ht] at h
      cases h

theorem failsOnly_perform (hi : Integrity s) (hfresh : sup.Fresh s) (ha : a.IsService) :
    FailsOnly (Justified a s) (perform sup a) s := by
  cases a with
  | publish name version ownerId q =>
    exact failsOnly_silently (failsOnly_publish hi hfresh name version ownerId q)
  | delete => exact failsOnly_silently (failsOnly_delete _ _ _)
  | package => exact failsOnly_silently (failsOnly_package _ _ _)
  | versions => exact failsOnly_silently (failsOnly_versions _ _)
  | list f p => exact failsOnly_silently (failsOnly_use_of_ok (listPackages_run f p s))
  | contracts => exact failsOnly_silently (failsOnly_contracts _ _)
  | contract => exact failsOnly_silently (failsOnly_contract _ _ _)
  | artifact => exact failsOnly_silently (failsOnly_artifact _ _ _ _)
  | archive => exact failsOnly_silently (failsOnly_archive _ _)
  | record q => exact failsOnly_silently (failsOnly_record hfresh q)
  | deployment => exact failsOnly_silently (failsOnly_deployment _ _ _)
  | deployments => exact failsOnly_silently (failsOnly_deployments _ _)
  | deploymentsOf => exact failsOnly_silently (failsOnly_deploymentsOf _ _ _)
  | setVerification => exact failsOnly_silently (failsOnly_setVerification _ _ _ _)
  | verify chains q => exact failsOnly_silently (failsOnly_verify chains q)
  | createKey | useKey | listKeys | revokeKey => exact ha.elim

end Services

/-- Of the errors that a request may get, a failed archive alone has the status 500. -/
theorem Justified.of_status {a : Action} {s : Store} {e : RegistryError} (h : Justified a s e)
    (hstatus : (ApiError.service e).status = 500) :
    ∃ name selector detail, a = .archive name selector ∧ e = .archiveFailed detail := by
  cases e with
  | archiveFailed detail =>
    obtain ⟨name, selector, ha⟩ := h
    exact ⟨name, selector, detail, ha, rfl⟩
  | storage => exact h.elim
  | _ => simp [ApiError.status, RegistryError.status] at hstatus

/-- In every registry that the services lead to, if no outage waits and identifiers are new, no
request to the services is answered with an error of the store: only an archive that cannot be built
has the status 500. A version that is said to exist does, and so does a deployment at a site that
is said to be taken. -/
theorem refusal_justified {r t : Registry} (hrun : Run Anything .empty r) (hcalm : r.outages = [])
    {sup : Supply} (hfresh : sup.Fresh r.store) {a : Action} (ha : a.IsService)
    {e : RegistryError} (h : perform sup a r = .error e t) :
    (∀ cause, e ≠ .storage cause) ∧
      ((ApiError.service e).status = 500 →
        ∃ name selector detail, a = .archive name selector ∧ e = .archiveFailed detail) ∧
      (∀ name v, e = .versionExists name v → (r.store.package? name v).isSome) ∧
      ∀ entry, e = .alreadyExists entry →
        ∃ d ∈ r.store.deployments, entry = siteEntry d.chain d.chainId d.address := by
  obtain ⟨s, outages⟩ := r
  obtain rfl : outages = [] := hcalm
  have hjust : Justified a s e :=
    failsOnly_perform (hrun.integrity integrity_empty) hfresh ha e t h
  refine ⟨?_, hjust.of_status, ?_, ?_⟩
  · rintro cause rfl
    exact hjust
  · rintro name v rfl
    exact hjust
  · rintro entry rfl
    exact hjust

/-- A version that is published for a second time, with identifiers that begin with a letter where
those in the store are numbers. -/
theorem refusal_justified_version_twice : ∃ r sup a e t, Run Anything .empty r ∧ r.outages = [] ∧
    sup.Fresh r.store ∧ a.IsService ∧ perform sup a r = .error e t ∧
    e = .versionExists "tokens" "1.0.0" ∧ (∀ cause, e ≠ .storage cause) ∧
    (r.store.package? "tokens" "1.0.0").isSome := by
  let token : ContractSubmission := ⟨"Token", "src/Token.sol", some .null, none, none, none, none⟩
  let publication : Action := .publish "tokens" "1.0.0" "k1" ⟨"evm", "", none, none, [], [token]⟩
  let numbers : Supply := ⟨⟨0⟩, fun n => toString n, "secret"⟩
  let letters : Supply := ⟨⟨1⟩, fun n => String.ofList ('f' :: List.replicate n 'x'), "secret"⟩
  let r := (Event.request numbers publication).apply .empty
  have hrun : Run Anything .empty r := .snoc .nil trivial
  have hother : ∀ ids : List String, (∀ id ∈ ids, id.toList.head? ≠ some 'f') →
      ∀ n, letters.id n ∉ ids := by
    intro ids hids n hn
    exact hids _ hn (by rw [String.toList_ofList]; rfl)
  -- one computation of the registry, whose identifiers are numbers
  have hcomputed : ((∀ id ∈ r.store.packages.map (·.id), id.toList.head? ≠ some 'f') ∧
      (∀ id ∈ r.store.contracts.map (·.id), id.toList.head? ≠ some 'f') ∧
      (∀ id ∈ r.store.artifacts.map (·.id), id.toList.head? ≠ some 'f') ∧
      ∀ id ∈ r.store.deployments.map (·.id), id.toList.head? ≠ some 'f') ∧
      outcome (perform letters publication r) = .error (.versionExists "tokens" "1.0.0") ∧
      r.outages = [] := by decide +kernel
  obtain ⟨⟨hpackages, hcontracts, hartifacts, hdeployments⟩, hrefused, hcalm⟩ := hcomputed
  have hfresh : letters.Fresh r.store :=
    { injective := fun m n h => by
        have := congrArg (·.toList.length) h
        simpa [letters] using this
      packages := hother _ hpackages
      contracts := hother _ hcontracts
      artifacts := hother _ hartifacts
      deployments := hother _ hdeployments }
  have hservice : publication.IsService := trivial
  cases h : perform letters publication r with
  | ok u t =>
    rw [h] at hrefused
    cases hrefused
  | error e t =>
    rw [h] at hrefused
    obtain rfl := Except.error.inj hrefused
    obtain ⟨hdomain, -, hexists, -⟩ := refusal_justified hrun hcalm hfresh hservice h
    exact ⟨r, letters, publication, _, t, hrun, hcalm, hfresh, hservice, h, rfl, hdomain,
      hexists _ _ rfl⟩

end BuildRegistry.Registry
