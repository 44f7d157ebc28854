import BuildRegistry.Proofs.Services
import BuildRegistry.Proofs.Store.Integrity

/-
  Runs of the registry. An event is a request to one of the services or to the keys, with all its
  arguments and what it takes from outside, or an outage that will hit a later call of the store.
  `Run P r t` is a finite sequence of events that takes `r` to `t`, each of them one that `P` lets
  happen in the registry it meets; a theorem about every `Run` is one about every order of events.

  `perform_ok` says what a request that succeeds may do to the store, guards included (`Change`);
  one that fails does nothing (`perform_error`). Invariants of runs are shown from these two.
-/

namespace BuildRegistry.Registry

open Store

/-- A request to the services or to the keys. -/
inductive Action where
  | publish (name version ownerId : String) (request : PublishRequest)
  | delete (name version ownerId : String)
  | package (name selector : String) (prereleases : Bool)
  | versions (name : String) (prereleases : Bool)
  | list (filter : PackageFilter) (page : PageRequest)
  | contracts (name selector : String)
  | contract (name selector contractName : String)
  | artifact (name selector contractName : String) (kind : ArtifactKind)
  | archive (name selector : String)
  | record (request : RecordRequest)
  | deployment (chain : String) (chainId : Int) (address : String)
  | deployments (query : DeploymentQuery) (page : PageRequest)
  | deploymentsOf (name version : String) (page : PageRequest)
  | setVerification (chain : String) (chainId : Int) (address : String) (request : StatusRequest)
  | verify (chains : Chains) (request : VerifyRequest)
  | createKey (label : String)
  | useKey (secret : String)
  | listKeys
  | revokeKey (id : String)

/-- A service without its answer. -/
def silently {α : Type} (act : Service α) : Service Unit := do
  let _ ← act

def perform (s : Supply) : Action → Service Unit
  | .publish name version ownerId q => silently (publish s name version ownerId q)
  | .delete name version ownerId => silently (delete name version ownerId)
  | .package name selector prereleases => silently (package name selector prereleases)
  | .versions name prereleases => silently (versions name prereleases)
  | .list f p => silently (list f p)
  | .contracts name selector => silently (contracts name selector)
  | .contract name selector contractName => silently (contract name selector contractName)
  | .artifact name selector contractName k => silently (artifact name selector contractName k)
  | .archive name selector => silently (archive name selector)
  | .record q => silently (record s q)
  | .deployment chain chainId address => silently (deployment chain chainId address)
  | .deployments q p => silently (deployments q p)
  | .deploymentsOf name version p => silently (deploymentsOf name version p)
  | .setVerification chain chainId address q =>
    silently (setVerification s chain chainId address q)
  | .verify chains q => silently (verify s chains q)
  | .createKey label => silently (use .createApiKey (Store.createKey label (s.id 0) s.secret s.now))
  | .useKey secret => silently (use .validateApiKey (Store.useKey secret s.now))
  | .listKeys => silently (use .listApiKeys Store.listKeys)
  | .revokeKey id => silently (use .revokeApiKey (Store.revokeKey id s.now))

inductive Event where
  | request (supply : Supply) (action : Action)
  | outage (o : Outage)

/-- The registry after an event. -/
def Event.apply : Event → Registry → Registry
  | .request s a, r => endState (perform s a r)
  | .outage o, r => r.await o

/-- Finite runs. -/
inductive Run (P : Registry → Event → Prop) (r : Registry) : Registry → Prop where
  | nil : Run P r r
  | snoc {t : Registry} {e : Event} : Run P r t → P t e → Run P r (e.apply t)

/-- Any event may happen at any time. -/
def Anything (_ : Registry) (_ : Event) : Prop := True

/-- No outage comes up. -/
def Undisturbed (_ : Registry) : Event → Prop
  | .request _ _ => True
  | .outage _ => False

theorem Run.mono {P Q : Registry → Event → Prop} {r t : Registry} (h : ∀ r e, P r e → Q r e)
    (hrun : Run P r t) : Run Q r t := by
  induction hrun with
  | nil => exact .nil
  | snoc _ he ih => exact ih.snoc (h _ _ he)

/-- What every event keeps, a run keeps. -/
theorem Run.keeps {P : Registry → Event → Prop} (I : Registry → Prop) {r t : Registry}
    (hrun : Run P r t) (hstep : ∀ r e, P r e → I r → I (e.apply r)) (hr : I r) : I t := by
  induction hrun with
  | nil => exact hr
  | snoc _ he ih => exact hstep _ _ he ih

/-! ## Requests along a relation of stores -/

section Along

variable {R : Store → Store → Prop} [IsPreorder Store R]

theorem steps_silently {α : Type} {act : Service α} (h : Steps (Along R) act) :
    Steps (Along R) (silently act) := steps_bind h fun _ => steps_pure ()

/-- Every write of the services moves the store along `R`. -/
structure Writes (R : Store → Store → Prop) : Prop where
  publish : ∀ b, Steps R (Store.publish b)
  claimName : ∀ name ownerId now, Steps R (Store.claimName name ownerId now)
  deletePackage : ∀ id, Steps R (Store.deletePackage id)
  recordDeployment : ∀ d, Steps R (Store.recordDeployment d)
  setVerification : ∀ id verified on now, Steps R (Store.setVerification id verified on now)
  createKey : ∀ label id secret now, Steps R (Store.createKey label id secret now)
  useKey : ∀ secret now, Steps R (Store.useKey secret now)
  revokeKey : ∀ id now, Steps R (Store.revokeKey id now)

theorem steps_publish (h : Writes R) (s : Supply) (name version ownerId : String)
    (q : PublishRequest) : Steps (Along R) (publish s name version ownerId q) := by
  have hthrow : ∀ {β : Type} (e : RegistryError) (f : PUnit → Service β),
      Steps (Along R) (throw e >>= f) := fun e f r => refl_of (Along R) r
  unfold publish
  dsimp only
  split
  · exact hthrow _ _
  · refine steps_bind steps_orElse fun v =>
      steps_bind ((reads_checkContracts _).along R) fun _ =>
      steps_bind ((reads_checkOwner _ _).along R) fun _ =>
      steps_bind (Reads.along (steps_use fun _ => rfl) R) fun _ => ?_
    split
    · exact hthrow _ _
    · exact steps_bind (steps_failingAs (steps_call (h.publish _))) fun _ =>
        steps_bind (steps_attempt (h.claimName _ _ _)) fun _ => steps_pure _

theorem steps_verify (h : Writes R) (s : Supply) (chains : Chains) (q : VerifyRequest) :
    Steps (Along R) (verify s chains q) := by
  have hmark : ∀ p chainId address endpoint,
      Steps (Along R) (markVerified s p chainId address endpoint) := by
    intro p chainId address endpoint
    refine steps_bind (Reads.along (steps_attempt (steps_found _ _)) R) fun x => ?_
    split
    · split
      · exact steps_bind (steps_attempt (h.setVerification _ _ _ _)) fun _ => steps_pure _
      · exact steps_pure _
    · exact steps_pure _
  refine steps_bind ((reads_checkTarget _ _).along R) fun _ =>
    steps_bind ((reads_target q).along R) fun pa => steps_bind steps_orElse fun v => ?_
  split
  · exact steps_pure _
  · refine steps_bind ((reads_endpointOf _).along R) fun endpoint => ?_
    dsimp only
    split
    · exact steps_bind (hmark _ _ _ _) fun _ => steps_pure _
    · exact steps_pure _

theorem steps_perform (h : Writes R) (s : Supply) (a : Action) :
    Steps (Along R) (perform s a) := by
  cases a with
  | publish name version ownerId q => exact steps_silently (steps_publish h s name version ownerId q)
  | delete name version ownerId =>
    exact steps_silently (steps_bind steps_orElse fun _ =>
      steps_bind ((reads_checkOwner _ _).along R) fun _ =>
      steps_bind (Reads.along (steps_need (steps_found _ _)) R) fun _ =>
      steps_need (h.deletePackage _))
  | package => exact steps_silently ((reads_package _ _ _).along R)
  | versions => exact steps_silently ((reads_versions _ _).along R)
  | list => exact steps_silently ((reads_list _ _).along R)
  | contracts => exact steps_silently ((reads_contracts _ _).along R)
  | contract => exact steps_silently ((reads_contract _ _ _).along R)
  | artifact => exact steps_silently ((reads_artifact _ _ _ _).along R)
  | archive => exact steps_silently ((reads_archive _ _).along R)
  | record q =>
    exact steps_silently (steps_bind ((reads_checkTarget _ _).along R) fun _ =>
      steps_bind ((reads_exactPackage _ _).along R) fun _ =>
      steps_bind (steps_use (h.recordDeployment _)) fun _ => steps_pure _)
  | deployment => exact steps_silently ((reads_deployment _ _ _).along R)
  | deployments => exact steps_silently ((reads_deployments _ _).along R)
  | deploymentsOf => exact steps_silently ((reads_deploymentsOf _ _ _).along R)
  | setVerification chain chainId address q =>
    exact steps_silently (steps_bind ((reads_deployment _ _ _).along R) fun _ =>
      steps_need (h.setVerification _ _ _ _))
  | verify chains q => exact steps_silently (steps_verify h s chains q)
  | createKey => exact steps_silently (steps_use (h.createKey _ _ _ _))
  | useKey => exact steps_silently (steps_use (h.useKey _ _))
  | listKeys => exact steps_silently (Reads.along (steps_use fun _ => rfl) R)
  | revokeKey => exact steps_silently (steps_use (h.revokeKey _ _))

end Along

theorem writes_integrity : Writes fun s t => Integrity s → Integrity t where
  publish := keeps_publish
  claimName := keeps_claimName
  deletePackage := keeps_deletePackage
  recordDeployment := keeps_recordDeployment
  setVerification := keeps_setVerification
  createKey := keeps_createKey
  useKey := keeps_useKey
  revokeKey := keeps_revokeKey

/-- Keys stay unique and references stay good, whatever happens. -/
theorem Run.integrity {P : Registry → Event → Prop} {r t : Registry} (hrun : Run P r t)
    (hr : Integrity r.store) : Integrity t.store := by
  refine hrun.keeps (Integrity ·.store) (fun r e _ hi => ?_) hr
  cases e with
  | request s a => exact (steps_perform writes_integrity s a r).1 hi
  | outage o => exact hi

/-- Where no outage waits, none waits after an undisturbed run. -/
theorem Run.calm {r t : Registry} (hrun : Run Undisturbed r t) (hr : r.outages = []) :
    t.outages = [] := by
  refine hrun.keeps (·.outages = []) (fun r e he hr => ?_) hr
  cases e with
  | request s a =>
    have h := (steps_perform writes_integrity s a r).2
    rw [hr] at h
    exact List.sublist_nil.1 h
  | outage o => exact he.elim

/-! ## What a request does -/

/-- The requests that may put a mark on a deployment: one that says which, and a verification. -/
def Action.Marks : Action → Bool → Option String → Prop
  | .setVerification _ _ _ q, verified, on => q.verified = verified ∧ q.verifiedOn = on
  | .verify _ _, verified, _ => verified = true
  | _, _, _ => False

/-- What a request that succeeds may do to a store. In a `calm` registry no outage waits. -/
inductive Change (calm : Prop) (s : Supply) : Action → Store → Store → Prop where
  | nothing {a : Action} (st : Store) : Change calm s a st st
  | published {name version v ownerId : String} {q : PublishRequest} {st u t : Store}
      (version_eq : Version.normalize? version = some v)
      (written : Published s name v ownerId q st u)
      (claimed : t = u.claiming name ownerId s.now ∨ ¬ calm ∧ t = u) :
      Change calm s (.publish name version ownerId q) st t
  | deleted {name version v ownerId : String} {st : Store} {p : Package}
      (version_eq : Version.normalize? version = some v)
      (owner : ∀ o, st.owner? name = some o → o = ownerId)
      (found : st.package? name v = some p) :
      Change calm s (.delete name version ownerId) st (st.withoutPackage p.id)
  | recorded {q : RecordRequest} {st : Store} {p : Package}
      (address : Naming.isAddress q.address) (chainId : Naming.isChainId q.chainId)
      (found : st.package? q.packageName (exactVersion q.version) = some p)
      (free : ∀ e ∈ st.deployments, (q.deployment s p).clashes e = false) :
      Change calm s (.record q) st { st with deployments := st.deployments ++ [q.deployment s p] }
  | marked {a : Action} {st : Store} (id : String) (verified : Bool) (on : Option String)
      (asked : a.Marks verified on) :
      Change calm s a st (st.updateDeployment id (·.marked verified on s.now))
  | keysChanged {a : Action} {st : Store} (keys : List ApiKey) :
      Change calm s a st { st with keys := keys }

theorem silently_ok {α : Type} {act : Service α} {r t : Registry} {u : Unit}
    (h : silently act r = .ok u t) : ∃ a, act r = .ok a t := by
  obtain ⟨a, t', ha, h⟩ := bind_ok.1 h
  obtain ⟨-, rfl⟩ := pure_ok.1 h
  exact ⟨a, ha⟩

theorem silently_error {α : Type} {act : Service α} {r t : Registry} {e : RegistryError} :
    silently act r = .error e t ↔ act r = .error e t := by
  constructor
  · intro h
    rcases bind_error.1 h with h | ⟨a, t', -, h⟩
    · exact h
    · exact absurd h pure_not_error
  · intro h
    exact bind_error.2 (.inl h)

theorem Reads.change {α : Type} {act : Service α} (hreads : Reads act) {calm : Prop} {s : Supply}
    {a : Action} {r t : Registry} {u : Unit} (h : silently act r = .ok u t) :
    Change calm s a r.store t.store := by
  obtain ⟨x, hx⟩ := silently_ok h
  rw [(hreads.ok hx).1]
  exact .nothing _

theorem perform_ok {s : Supply} {a : Action} {r t : Registry} {u : Unit}
    (h : perform s a r = .ok u t) : Change (r.outages = []) s a r.store t.store := by
  cases a with
  | publish name version ownerId q =>
    obtain ⟨p, hp⟩ := silently_ok h
    obtain ⟨v, st, hv, -, hpub, ht⟩ := publish_ok hp
    exact .published hv hpub ht
  | delete name version ownerId =>
    obtain ⟨_, hd⟩ := silently_ok h
    obtain ⟨v, p, hv, ho, hp, ht⟩ := delete_ok hd
    rw [ht]
    exact .deleted hv ho hp
  | record q =>
    obtain ⟨d, hd⟩ := silently_ok h
    obtain ⟨p, haddress, hchain, hp, rfl, hfree, ht⟩ := record_ok hd
    rw [ht]
    exact .recorded haddress hchain hp hfree
  | setVerification chain chainId address q =>
    obtain ⟨d, hd⟩ := silently_ok h
    obtain ⟨e, -, ht⟩ := setVerification_ok hd
    rw [ht]
    exact .marked _ _ _ ⟨rfl, rfl⟩
  | verify chains q =>
    obtain ⟨x, hx⟩ := silently_ok h
    rcases verify_ok hx with ht | ⟨⟨m⟩⟩
    · rw [ht]
      exact .nothing _
    · rw [m.after_eq]
      exact .marked _ _ _ rfl
  | createKey label =>
    obtain ⟨k, hk⟩ := silently_ok h
    have hact := (use_ok hk).1
    rw [createKey_run] at hact
    split at hact
    · cases hact
    · rw [← (EStateM.Result.ok.inj hact).2]
      exact .keysChanged _
  | useKey secret =>
    obtain ⟨k, hk⟩ := silently_ok h
    have hact := (use_ok hk).1
    rw [useKey_run] at hact
    split at hact
    · rw [← (EStateM.Result.ok.inj hact).2]
      exact .keysChanged _
    · cases hact
  | revokeKey id =>
    obtain ⟨k, hk⟩ := silently_ok h
    have hact := (use_ok hk).1
    rw [revokeKey_run] at hact
    split at hact
    · rw [← (EStateM.Result.ok.inj hact).2]
      split
      · exact .nothing _
      · exact .keysChanged _
    · cases hact
  | package => exact (reads_package _ _ _).change h
  | versions => exact (reads_versions _ _).change h
  | list => exact (reads_list _ _).change h
  | contracts => exact (reads_contracts _ _).change h
  | contract => exact (reads_contract _ _ _).change h
  | artifact => exact (reads_artifact _ _ _ _).change h
  | archive => exact (reads_archive _ _).change h
  | deployment => exact (reads_deployment _ _ _).change h
  | deployments => exact (reads_deployments _ _).change h
  | deploymentsOf => exact (reads_deploymentsOf _ _ _).change h
  | listKeys => exact Reads.change (steps_use fun _ => rfl) h

/-- A request that fails leaves the store as it was. -/
theorem perform_error {s : Supply} {a : Action} {r t : Registry} {e : RegistryError}
    (h : perform s a r = .error e t) : t.store = r.store := by
  have key : ∀ {α : Type} {act : Service α}, Spares act → silently act r = .error e t →
      t.store = r.store := fun hact h => hact r e t (silently_error.1 h)
  cases a with
  | publish => exact key (spares_publish _ _ _ _ _) h
  | delete => exact key (spares_delete _ _ _) h
  | record => exact key (spares_record _ _) h
  | setVerification => exact key (spares_setVerification _ _ _ _ _) h
  | verify => exact key (spares_verify _ _ _) h
  | createKey => exact key (spares_failingAs (atomic_createKey _ _ _ _)) h
  | useKey => exact key (spares_failingAs (atomic_useKey _ _)) h
  | revokeKey => exact key (spares_failingAs (atomic_revokeKey _ _)) h
  | package => exact key (reads_package _ _ _).spares h
  | versions => exact key (reads_versions _ _).spares h
  | list => exact key (reads_list _ _).spares h
  | contracts => exact key (reads_contracts _ _).spares h
  | contract => exact key (reads_contract _ _ _).spares h
  | artifact => exact key (reads_artifact _ _ _ _).spares h
  | archive => exact key (reads_archive _ _).spares h
  | deployment => exact key (reads_deployment _ _ _).spares h
  | deployments => exact key (reads_deployments _ _).spares h
  | deploymentsOf => exact key (reads_deploymentsOf _ _ _).spares h
  | listKeys => exact key (Reads.spares (steps_use fun _ => rfl)) h

/-- An event leaves the store as it is, or it is a request that succeeds. -/
theorem Event.cases_store (e : Event) (r : Registry) : (e.apply r).store = r.store ∨
    ∃ s a t, e = .request s a ∧ perform s a r = .ok () t ∧ e.apply r = t := by
  cases e with
  | outage o => exact .inl rfl
  | request s a =>
    rw [Event.apply]
    cases h : perform s a r with
    | ok u t => exact .inr ⟨s, a, t, rfl, h, rfl⟩
    | error e t => exact .inl (perform_error h)

/-- What every change of a store with unique keys and good references keeps, a run keeps. -/
theorem Run.keeps_of_change_whole {P : Registry → Event → Prop} (I : Store → Prop)
    (hstep : ∀ {calm s a st t}, Change calm s a st t → Integrity st → I st → I t) {r t : Registry}
    (hrun : Run P r t) (hi : Integrity r.store) (hr : I r.store) : I t.store := by
  induction hrun with
  | nil => exact hr
  | @snoc u e hrun _ ih =>
    rcases e.cases_store u with hsame | ⟨s, a, t, -, h, happly⟩
    · rwa [hsame]
    · rw [happly]
      exact hstep (perform_ok h) (hrun.integrity hi) ih

/-- What every change keeps, a run keeps. -/
theorem Run.keeps_of_change {P : Registry → Event → Prop} (I : Store → Prop)
    (hstep : ∀ {calm s a st t}, Change calm s a st t → I st → I t) {r t : Registry}
    (hrun : Run P r t) (hr : I r.store) : I t.store := by
  refine hrun.keeps (I ·.store) (fun r e _ hi => ?_) hr
  rcases e.cases_store r with hsame | ⟨s, a, t, -, h, happly⟩
  · rwa [hsame]
  · rw [happly]
    exact hstep (perform_ok h) hi

end BuildRegistry.Registry
