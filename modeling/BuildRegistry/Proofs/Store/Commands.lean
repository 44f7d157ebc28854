import BuildRegistry.Proofs.Runs
import BuildRegistry.Store.Keys
import BuildRegistry.Store.Listing

/-
  Commands to the store, and what is left of those that fail. A command is one operation of the
  store with its arguments. Most make their checks before their one write. A publication makes
  many writes and may fail at any of them, after outputs of other contracts have been overwritten;
  its transaction takes all of them back. An output that is stored is looked up again by a second
  statement, which cannot fail once the first has succeeded (`putArtifact_found`).

  Main statement: no command that fails, and no request to a service that fails, leaves a trace in
  any of the six tables (`failures_leave_no_trace`).
-/

namespace BuildRegistry

namespace Store

/-- An operation of the store with its arguments. -/
inductive Command where
  | migrate
  | createPackage (p : Package)
  | getPackage (name version : String)
  | getPackageById (id : String)
  | packageVersions (name : String) (prereleases : Bool)
  | listPackages (f : PackageFilter) (p : PageRequest)
  | deletePackage (id : String)
  | packageExists (name version : String)
  | packageOwner (name : String)
  | claimName (name ownerId : String)
  | publish (b : Bundle)
  | createContract (c : Contract)
  | getContract (packageId name : String)
  | listContracts (packageId : String)
  | storeArtifact (a : Artifact)
  | getArtifact (contractId : String) (kind : ArtifactKind)
  | getArtifactByHash (hash : String)
  | listArtifacts (contractId : String)
  | recordDeployment (d : Deployment)
  | getDeployment (chain : String) (chainId : Int) (address : String)
  | listDeployments (f : DeploymentFilter) (p : PageRequest)
  | setVerification (id : String) (verified : Bool) (verifiedOn : Option String)
  | createKey (label : String)
  | useKey (secret : String)
  | listKeys
  | revokeKey (id : String)

/-- An operation without its answer. -/
def quietly {α : Type} (act : StoreM α) : StoreM Unit := do
  let _ ← act

/-- Carries out a command at a time, with an identifier and a secret at hand for a new key. -/
def Command.run (sup : Supply) : Command → StoreM Unit
  | .migrate => pure ()
  | .createPackage p => insertPackage p
  | .getPackage name version => quietly (Store.getPackage name version)
  | .getPackageById id => quietly (Store.getPackageById id)
  | .packageVersions name prereleases => quietly (Store.packageVersions name prereleases)
  | .listPackages f p => quietly (Store.listPackages f p)
  | .deletePackage id => Store.deletePackage id
  | .packageExists name version => quietly (Store.packageExists name version)
  | .packageOwner name => quietly (Store.packageOwner name)
  | .claimName name ownerId => quietly (Store.claimName name ownerId sup.now)
  | .publish b => Store.publish b
  | .createContract c => insertContract c
  | .getContract packageId name => quietly (Store.getContract packageId name)
  | .listContracts packageId => quietly (Store.listContracts packageId)
  | .storeArtifact a => quietly (Store.storeArtifact a)
  | .getArtifact contractId kind => quietly (Store.getArtifact contractId kind.name)
  | .getArtifactByHash hash => quietly (Store.getArtifactByHash hash)
  | .listArtifacts contractId => quietly (Store.listArtifacts contractId)
  | .recordDeployment d => Store.recordDeployment d
  | .getDeployment chain chainId address => quietly (Store.getDeployment chain chainId address)
  | .listDeployments f p => quietly (Store.listDeployments f p)
  | .setVerification id verified verifiedOn =>
    quietly (Store.setVerification id verified verifiedOn sup.now)
  | .createKey label => quietly (Store.createKey label (sup.id 0) sup.secret sup.now)
  | .useKey secret => quietly (Store.useKey secret sup.now)
  | .listKeys => quietly Store.listKeys
  | .revokeKey id => Store.revokeKey id sup.now

/-! ## Operations that fail do nothing -/

theorem atomic_of_looks {α : Type} {act : StoreM α} (h : Steps Eq act) : Atomic act := by
  intro s e t ht
  have hs := h s
  rw [ht] at hs
  exact hs.symm

theorem atomic_quietly {α : Type} {act : StoreM α} (h : Atomic act) : Atomic (quietly act) := by
  intro s e t ht
  rcases bind_error.1 ht with ht | ⟨a, u, -, ht⟩
  · exact h s e t ht
  · exact absurd ht pure_not_error

theorem atomic_insertPackage (p : Package) : Atomic (insertPackage p) := by
  intro s e t h
  rw [insertPackage_run] at h
  split at h <;> cases h
  rfl

theorem atomic_claimName (name ownerId : String) (now : Time) :
    Atomic (claimName name ownerId now) := by
  intro s e t h
  rw [claimName_run] at h
  cases h

theorem atomic_insertContract (c : Contract) : Atomic (insertContract c) := by
  intro s e t h
  rw [insertContract_run] at h
  split at h
  · cases h
    rfl
  · split at h <;> cases h
    rfl

theorem atomic_putArtifact (a : Artifact) : Atomic (putArtifact a) := by
  intro s e t h
  rw [putArtifact_run] at h
  split at h
  · cases h
  · split at h
    · cases h
      rfl
    · split at h <;> cases h
      rfl

theorem artifact?_isSome {s : Store} {contractId kind : String} :
    (s.artifact? contractId kind).isSome ↔
      ∃ a ∈ s.artifacts, a.contractId = contractId ∧ a.kind = kind := by
  rw [artifact?, List.find?_isSome]
  simp

/-- An output that has been put into the store is found there. -/
theorem putArtifact_found {a : Artifact} {s t : Store} {u : Unit} (h : putArtifact a s = .ok u t) :
    (t.artifact? a.contractId a.kind).isSome := by
  rw [putArtifact_run] at h
  rw [artifact?_isSome]
  split at h
  · rename_i hslot
    cases h
    obtain ⟨b, hb, hc, hk⟩ := artifact?_isSome.1 hslot
    refine ⟨_, List.mem_map_of_mem hb, ?_⟩
    split
    · exact ⟨hc, hk⟩
    · exact ⟨hc, hk⟩
  · split at h
    · cases h
    · split at h <;> cases h
      exact ⟨a, List.mem_append_right _ List.mem_cons_self, rfl, rfl⟩

theorem atomic_storeArtifact (a : Artifact) : Atomic (storeArtifact a) := by
  intro s e t h
  rcases bind_error.1 h with h | ⟨u, s', hput, hget⟩
  · exact atomic_putArtifact a s e t h
  · obtain ⟨b, hb⟩ := Option.isSome_iff_exists.1 (putArtifact_found hput)
    rw [getArtifact_run, hb] at hget
    cases hget

theorem atomic_command (sup : Supply) (c : Command) : Atomic (c.run sup) := by
  have looks : ∀ {α : Type} {act : StoreM α}, Steps Eq act → Atomic (quietly act) :=
    fun h => atomic_quietly (atomic_of_looks h)
  cases c with
  | migrate => exact fun _ _ _ h => absurd h pure_not_error
  | createPackage p => exact atomic_insertPackage p
  | deletePackage id => exact atomic_deletePackage id
  | claimName => exact atomic_quietly (atomic_claimName _ _ _)
  | publish b => exact atomic_transaction _
  | createContract c => exact atomic_insertContract c
  | storeArtifact a => exact atomic_quietly (atomic_storeArtifact a)
  | recordDeployment d => exact atomic_recordDeployment d
  | setVerification => exact atomic_quietly (atomic_setVerification _ _ _ _)
  | createKey => exact atomic_quietly (atomic_createKey _ _ _ _)
  | useKey => exact atomic_quietly (atomic_useKey _ _)
  | revokeKey id => exact atomic_revokeKey id sup.now
  | getPackage => exact looks (steps_found _ _)
  | getPackageById => exact looks (steps_found _ _)
  | getContract => exact looks (steps_found _ _)
  | getArtifact => exact looks (steps_found _ _)
  | getArtifactByHash => exact looks (steps_found _ _)
  | getDeployment => exact looks (steps_found _ _)
  | listDeployments f p => exact looks (steps_listDeployments f p)
  | packageVersions | listPackages | packageExists | packageOwner | listContracts | listArtifacts
  | listKeys => exact looks fun _ => rfl

end Store

/-- A command to the store that fails leaves all tables as they were, and so does a request to a
service that fails, whatever outages it meets. -/
theorem failures_leave_no_trace :
    (∀ (sup : Supply) (c : Store.Command) (s t : Store) (e : StoreError),
      c.run sup s = .error e t → t = s) ∧
    ∀ (sup : Supply) (a : Registry.Action) (r t : Registry) (e : RegistryError),
      Registry.perform sup a r = .error e t → t.store = r.store :=
  ⟨fun sup c s t e h => Store.atomic_command sup c s e t h, fun _ _ _ _ _ h =>
    Registry.perform_error h⟩

/-- A bundle that overwrites an output of another contract, adds a contract of its own, and fails
at its second contract, which is there already; and a deletion of a version that is not there. -/
theorem failures_leave_no_trace_half_way : ∃ (s : Store) (b : Bundle) (sup : Supply)
    (e : StoreError) (e' : RegistryError) (t : Registry),
    (endState (Store.insertBundle b s)).artifacts ≠ s.artifacts ∧
      (Store.Command.publish b).run sup s = .error e s ∧
      Registry.perform sup (.delete "tokens" "2.0.0" "k1") ⟨s, []⟩ = .error e' t ∧ t.store = s := by
  let package (id version : String) : Package :=
    ⟨id, "tokens", version, "evm", "", none, none, "", "k1", ⟨0⟩⟩
  let contract (id packageId : String) : Contract := ⟨id, packageId, "Token", "", "", ⟨0⟩⟩
  let output (id contractId : String) (content : Bytes) : Artifact :=
    ⟨id, contractId, "abi", content, "", ⟨0⟩⟩
  let s : Store :=
    ⟨[package "p" "1.0.0"], [], [contract "c" "p"], [output "a" "c" [1]], [], []⟩
  let b : Bundle :=
    ⟨package "p'" "1.1.0", [⟨contract "c'" "p'", [output "a'" "c" [2]]⟩, ⟨contract "c" "p'", []⟩]⟩
  let sup : Supply := ⟨⟨0⟩, fun n => toString n, "secret"⟩
  obtain ⟨e, u, hpublish⟩ := exists_of_not_succeeds
    (show succeeds ((Store.Command.publish b).run sup s) = false by decide +kernel)
  obtain ⟨e', t, hdelete⟩ := exists_of_not_succeeds
    (show succeeds (Registry.perform sup (.delete "tokens" "2.0.0" "k1") ⟨s, []⟩) = false by
      decide +kernel)
  obtain rfl := failures_leave_no_trace.1 sup (.publish b) s u e hpublish
  exact ⟨s, b, sup, e, e', t, by decide +kernel, hpublish, hdelete,
    failures_leave_no_trace.2 sup _ _ t e' hdelete⟩

end BuildRegistry
