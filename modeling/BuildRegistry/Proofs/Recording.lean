import BuildRegistry.Proofs.DeployedContracts
import BuildRegistry.Proofs.Naming.Rules

/-
  Which deployments are recorded, and how long they are found. `Recordable` puts the rules
  together: for the address, the chain id, the package and the site, which is a chain, a chain id
  and an address in lower case. `RecordRefused` says with which error a request is refused that
  breaks one of them, the first one in the order of the checks (`record_succeeds_iff`).

  A site is taken for all spellings of its address at once, because what is stored and what is
  looked up go through the same lower case. It stays taken, by the deployment that was recorded,
  until the version of its package is deleted (`KeepsSite`).

  Asked of the identifier that a deployment gets is only that no stored deployment has it.
-/

namespace BuildRegistry

open Naming (HexAddress Respells)

namespace Store

/-- A deployment of some package is recorded at the address, however it is spelled. -/
def Taken (s : Store) (chain : String) (chainId : Int) (address : String) : Prop :=
  ∃ d ∈ s.deployments, d.chain = chain ∧ d.chainId = chainId ∧ d.address = Text.lowercase address

end Store

namespace Registry

open Store

variable {sup : Supply} {s t : Store} {q : RecordRequest} {p : Package} {d : Deployment}

/-! ## Acceptance and refusal -/

/-- The package that a request names: its version in canonical form if it has one, and as it
stands otherwise. -/
def Names (s : Store) (q : RecordRequest) (p : Package) : Prop :=
  p ∈ s.packages ∧ p.name = q.packageName ∧
    p.version = (Version.normalize? q.version).getD q.version

/-- The rules for recording a deployment of the package `p`. -/
structure Recordable (s : Store) (q : RecordRequest) (p : Package) : Prop where
  address : HexAddress q.address
  chainId : 0 < q.chainId
  package : Names s q p
  free : ¬ s.Taken p.chain q.chainId q.address

/-- The error with which a request is refused: that of the first rule that it breaks. -/
inductive RecordRefused (s : Store) (q : RecordRequest) : RegistryError → Prop where
  | address (h : ¬ HexAddress q.address) : RecordRefused s q (.invalidAddress q.address)
  | chainId (haddress : HexAddress q.address) (h : ¬ 0 < q.chainId) :
      RecordRefused s q (.invalidChainId q.chainId)
  | package (haddress : HexAddress q.address) (hchainId : 0 < q.chainId)
      (h : ∀ p, ¬ Names s q p) :
      RecordRefused s q (.notFound (versionEntry q.packageName (exactVersion q.version)))
  | site {p : Package} (haddress : HexAddress q.address) (hchainId : 0 < q.chainId)
      (hp : Names s q p) (h : s.Taken p.chain q.chainId q.address) :
      RecordRefused s q (.alreadyExists (siteEntry p.chain q.chainId (Text.lowercase q.address)))

theorem recordable_or_refused (s : Store) (q : RecordRequest) :
    (∃ p, Recordable s q p) ∨ ∃ e, RecordRefused s q e := by
  by_cases haddress : HexAddress q.address
  swap
  · exact .inr ⟨_, .address haddress⟩
  by_cases hchainId : 0 < q.chainId
  swap
  · exact .inr ⟨_, .chainId haddress hchainId⟩
  by_cases hp : ∃ p, Names s q p
  swap
  · exact .inr ⟨_, .package haddress hchainId (not_exists.1 hp)⟩
  obtain ⟨p, hp⟩ := hp
  by_cases hsite : s.Taken p.chain q.chainId q.address
  · exact .inr ⟨_, .site haddress hchainId hp hsite⟩
  · exact .inl ⟨p, haddress, hchainId, hp, hsite⟩

theorem names_iff (hi : Integrity s) :
    Names s q p ↔ s.package? q.packageName (exactVersion q.version) = some p :=
  hi.package?_eq_some.symm

/-- Where the target of a request is valid, it is carried out like this. -/
theorem record_of_target (haddress : HexAddress q.address) (hchainId : 0 < q.chainId)
    (r : Registry) : record sup q r = (do
      let p ← exactPackage q.packageName q.version
      use .recordDeployment (Store.recordDeployment (q.deployment sup p))
      return q.deployment sup p : Service Deployment) r :=
  bind_of_ok (checkTarget_of_valid (Naming.isAddress_iff.2 haddress) (decide_eq_true hchainId) r)

/-- A new deployment clashes with those that have its identifier or stand at its site. -/
theorem clashes_iff {e : Deployment} : (q.deployment sup p).clashes e = true ↔
    sup.id 0 = e.id ∨ e.chain = p.chain ∧ e.chainId = q.chainId ∧
      e.address = Text.lowercase q.address := by
  simp only [Deployment.clashes, Deployment.isAt, Bool.or_eq_true, Bool.and_eq_true,
    decide_eq_true_eq, and_assoc]
  exact Iff.rfl

theorem record_of_recordable (hi : Integrity s) (hfresh : sup.id 0 ∉ s.deployments.map (·.id))
    (h : Recordable s q p) : record sup q ⟨s, []⟩ = .ok (q.deployment sup p)
      ⟨{ s with deployments := s.deployments ++ [q.deployment sup p] }, []⟩ := by
  have hpackage : exactPackage q.packageName q.version ⟨s, []⟩ = .ok p ⟨s, []⟩ := by
    rw [exactPackage_run, (names_iff hi).1 h.package]
  have hnew : s.deployments.any (q.deployment sup p).clashes = false := by
    rw [List.any_eq_false]
    intro e he hclash
    rcases clashes_iff.1 hclash with hid | hsite
    · exact hfresh (List.mem_map.2 ⟨e, he, hid.symm⟩)
    · exact h.free ⟨e, he, hsite⟩
  have hthere : ¬ (s.packageById? (q.deployment sup p).packageId).isNone :=
    not_isNone_of_mem_key (List.mem_map_of_mem h.package.1)
  have hput : use .recordDeployment (Store.recordDeployment (q.deployment sup p)) ⟨s, []⟩ =
      .ok () ⟨{ s with deployments := s.deployments ++ [q.deployment sup p] }, []⟩ := by
    rw [use_calm, recordDeployment_run, hnew, if_neg Bool.false_ne_true, if_neg hthere]
  rw [record_of_target h.address h.chainId, bind_of_ok hpackage, bind_of_ok hput]
  rfl

theorem record_of_refused (hi : Integrity s) {e : RegistryError} (h : RecordRefused s q e) :
    record sup q ⟨s, []⟩ = .error e ⟨s, []⟩ := by
  cases h with
  | address h =>
    rw [← Naming.isAddress_iff] at h
    refine bind_of_error ?_
    unfold checkTarget
    rw [if_pos (by simpa using h)]
    rfl
  | chainId haddress h =>
    rw [← Naming.isAddress_iff] at haddress
    refine bind_of_error ?_
    unfold checkTarget
    rw [if_neg (by simpa using haddress), if_pos (by simpa [Naming.isChainId] using h)]
    rfl
  | package haddress hchainId h =>
    have hnone : s.package? q.packageName (exactVersion q.version) = none :=
      Option.eq_none_iff_forall_ne_some.2 fun p hp => h p ((names_iff hi).2 hp)
    rw [record_of_target haddress hchainId]
    refine bind_of_error ?_
    rw [exactPackage_run, hnone]
  | @site p haddress hchainId hp h =>
    have hpackage : exactPackage q.packageName q.version ⟨s, []⟩ = .ok p ⟨s, []⟩ := by
      rw [exactPackage_run, (names_iff hi).1 hp]
    obtain ⟨e, he, hsite⟩ := h
    have hclash : s.deployments.any (q.deployment sup p).clashes = true :=
      List.any_eq_true.2 ⟨e, he, clashes_iff.2 (.inr hsite)⟩
    rw [record_of_target haddress hchainId, bind_of_ok hpackage]
    refine bind_of_error ?_
    rw [use_calm, recordDeployment_run, if_pos hclash]
    rfl

theorem recordable_of_ok (hi : Integrity s) {r : Registry} (h : record sup q ⟨s, []⟩ = .ok d r) :
    ∃ p, Recordable s q p := by
  rcases recordable_or_refused s q with hp | ⟨e, he⟩
  · exact hp
  · rw [record_of_refused hi he] at h
    cases h

theorem refused_of_error (hi : Integrity s) (hfresh : sup.id 0 ∉ s.deployments.map (·.id))
    {e : RegistryError} {r : Registry} (h : record sup q ⟨s, []⟩ = .error e r) :
    RecordRefused s q e := by
  rcases recordable_or_refused s q with ⟨p, hp⟩ | ⟨e', he⟩
  · rw [record_of_recordable hi hfresh hp] at h
    cases h
  · rw [record_of_refused hi he] at h
    cases h
    exact he

theorem Run.record {r u : Registry} (hrun : Run Anything .empty r)
    (h : record sup q r = .ok d u) : Run Anything .empty u := by
  have happly : (Event.request sup (.record q)).apply r = u := by
    rw [Event.apply, perform, silently, bind_of_ok h]
    rfl
  exact happly ▸ hrun.snoc trivial

/-! ## Finding a deployment again -/

theorem deployment_of_stored (hi : Integrity s) (hd : d ∈ s.deployments)
    (hchainId : 0 < d.chainId) {a : String} (ha : Naming.isAddress a)
    (haddress : d.address = Text.lowercase a) :
    deployment d.chain d.chainId a ⟨s, []⟩ = .ok d ⟨s, []⟩ := by
  have hfound : s.deployment? d.chain d.chainId (Text.lowercase a) = some d :=
    hi.deployment?_eq_some.2 ⟨hd, rfl, rfl, haddress⟩
  refine (bind_of_ok (checkTarget_of_valid ha (decide_eq_true hchainId) _)).trans ?_
  rw [need_calm, getDeployment_run, hfound]

/-- A request that does not delete the package of a deployment keeps it, up to its mark. -/
theorem keeps_deployment {calm : Prop} {a : Action} (hi : Integrity s) (h : Change calm sup a s t)
    (hp : s.package? p.name p.version = some p)
    (hkeep : ∀ version ownerId, a = .delete p.name version ownerId →
      Version.normalize? version ≠ some p.version)
    (hd : d ∈ s.deployments) (hhome : d.packageId = p.id) :
    ∃ d' ∈ t.deployments, d'.unmarked = d.unmarked := by
  cases h with
  | nothing => exact ⟨d, hd, rfl⟩
  | published _ hpub hclaim =>
    refine ⟨d, ?_, rfl⟩
    rcases hclaim with rfl | ⟨-, rfl⟩
    · rwa [claiming_deployments, hpub.deployments]
    · rwa [hpub.deployments]
  | @deleted _ version _ ownerId _ p' hv _ hfound =>
    obtain ⟨hmem', rfl, rfl⟩ := hi.package?_eq_some.1 hfound
    have hother : p.id ≠ p'.id := by
      intro hid
      obtain rfl := eq_of_key hi.packageIds (List.mem_of_find?_eq_some hp) hmem' hid
      exact hkeep version ownerId rfl hv
    exact ⟨d, List.mem_filter.2 ⟨hd, decide_eq_true (hhome ▸ hother)⟩, rfl⟩
  | recorded => exact ⟨d, List.mem_append_left _ hd, rfl⟩
  | marked id =>
    refine ⟨_, List.mem_map_of_mem hd, ?_⟩
    split <;> rfl
  | keysChanged => exact ⟨d, hd, rfl⟩

/-- A deployment stays, up to its mark, through a run that does not delete its package. -/
theorem Run.keeps_deployment {r u : Registry}
    (hrun : Run (fun r e => ¬ Deletes p.name p.version r e) r u) (hi : Integrity r.store)
    (hp : r.store.package? p.name p.version = some p) (hd : d ∈ r.store.deployments)
    (hhome : d.packageId = p.id) : ∃ d' ∈ u.store.deployments, d'.unmarked = d.unmarked := by
  induction hrun with
  | nil => exact ⟨d, hd, rfl⟩
  | @snoc u e hrun he ih =>
    obtain ⟨d', hd', hsame⟩ := ih
    have hkept : d'.packageId = d.packageId := congrArg (·.packageId) hsame
    have hhome' : d'.packageId = p.id := hkept.trans hhome
    rcases e.cases_store u with hstore | ⟨s, a, w, rfl, h, happly⟩
    · exact ⟨d', hstore ▸ hd', hsame⟩
    · have hp' := (hrun.keeps_version hi hp).1
      have hkeep : ∀ version ownerId, a = .delete p.name version ownerId →
          Version.normalize? version ≠ some p.version := by
        rintro version ownerId rfl hv
        obtain ⟨_, hdel⟩ := silently_ok h
        exact he ⟨s, version, ownerId, _, w, rfl, hv, hdel⟩
      obtain ⟨d'', hd'', hsame'⟩ :=
        Registry.keeps_deployment (hrun.integrity hi) (perform_ok h) hp' hkeep hd' hhome'
      exact ⟨d'', happly ▸ hd'', hsame'.trans hsame⟩

/-- With its package version a deployment goes, and its site is free again. -/
theorem free_of_deleted {u w : Registry} (hi : Integrity u.store)
    (hp : u.store.package? p.name p.version = some p) (hd : d ∈ u.store.deployments)
    (hhome : d.packageId = p.id) {version ownerId : String} {x : Unit}
    (hv : Version.normalize? version = some p.version)
    (h : delete p.name version ownerId u = .ok x w) {a : String}
    (ha : d.address = Text.lowercase a) : ¬ w.store.Taken d.chain d.chainId a := by
  obtain ⟨v, p', hv', -, hp', hw⟩ := delete_ok h
  obtain rfl : v = p.version := Option.some.inj (hv'.symm.trans hv)
  obtain rfl : p = p' := Option.some.inj (hp.symm.trans hp')
  rintro ⟨e, he, hchain, hchainId, haddress⟩
  rw [hw] at he
  obtain ⟨he, hkept⟩ := List.mem_filter.1 he
  have hsite : (e.chain, e.chainId, e.address) = (d.chain, d.chainId, d.address) := by
    rw [hchain, hchainId, haddress, ha]
  obtain rfl := eq_of_key hi.deploymentSites he hd hsite
  exact of_decide_eq_true hkept hhome

/-! ## A site for as long as it is taken -/

/-- A registry in which the deployment recorded by a request for the package `p` stands at its site,
for every spelling of the address. -/
structure KeepsSite (q : RecordRequest) (p : Package) (d : Deployment) (u : Registry) : Prop where
  found : u.outages = [] → ∃ d', d'.unmarked = d ∧
    ∀ a, Respells q.address a → deployment p.chain q.chainId a u = .ok d' u
  refused : ∀ sup' q' p', q'.chainId = q.chainId → Respells q.address q'.address →
    Names u.store q' p' → p'.chain = p.chain →
      (∃ e t, record sup' q' u = .error e t) ∧
      (u.outages = [] → record sup' q' u =
        .error (.alreadyExists (siteEntry p.chain q.chainId (Text.lowercase q.address))) u)
  freed : ∀ version ownerId x w, Version.normalize? version = some p.version →
    delete p.name version ownerId u = .ok x w →
      ∀ a, Respells q.address a → ¬ w.store.Taken p.chain q.chainId a

theorem keepsSite_of_stored {u : Registry} (hi : Integrity u.store)
    (haddress : HexAddress q.address) (hchainId : 0 < q.chainId)
    (hp : u.store.package? p.name p.version = some p) {d' : Deployment}
    (hd' : d' ∈ u.store.deployments) (hsame : d'.unmarked = q.deployment sup p) :
    KeepsSite q p (q.deployment sup p) u := by
  have hvalid : Naming.isAddress q.address := Naming.isAddress_iff.2 haddress
  have hhome : d'.packageId = p.id := congrArg (·.packageId) hsame
  have hsite : d'.chain = p.chain ∧ d'.chainId = q.chainId ∧
      d'.address = Text.lowercase q.address :=
    ⟨congrArg (·.chain) hsame, congrArg (·.chainId) hsame, congrArg (·.address) hsame⟩
  have hrespelled : ∀ {a}, Respells q.address a → d'.address = Text.lowercase a := fun ha =>
    hsite.2.2.trans (Naming.lowercase_of_respells hvalid ha).symm
  refine ⟨fun hcalm => ⟨d', hsame, fun a ha => ?_⟩, fun sup' q' p' hc ha hp' hchain => ?_,
    fun version ownerId x w hv h a ha => ?_⟩
  · obtain ⟨s, outages⟩ := u
    obtain rfl : outages = [] := hcalm
    rw [← hsite.1, ← hsite.2.1]
    exact deployment_of_stored hi hd' (hsite.2.1 ▸ hchainId)
      (Naming.isAddress_of_respells hvalid ha) (hrespelled ha)
  · have htaken : d'.chain = p'.chain ∧ d'.chainId = q'.chainId ∧
        d'.address = Text.lowercase q'.address :=
      ⟨hsite.1.trans hchain.symm, hsite.2.1.trans hc.symm, hrespelled ha⟩
    constructor
    · cases h : record sup' q' u with
      | error e t => exact ⟨e, t, rfl⟩
      | ok d₂ t =>
        -- the site would have to be free
        obtain ⟨p₂, -, -, hp₂, rfl, hfree, -⟩ := record_ok h
        obtain rfl : p' = p₂ := Option.some.inj (((names_iff hi).1 hp').symm.trans hp₂)
        have hclash := clashes_iff.2 (.inr htaken : sup'.id 0 = d'.id ∨ _)
        rw [hfree d' hd'] at hclash
        cases hclash
    · intro hcalm
      obtain ⟨s, outages⟩ := u
      obtain rfl : outages = [] := hcalm
      have hrefused : RecordRefused s q' _ := .site
        (Naming.isAddress_iff.1 (Naming.isAddress_of_respells hvalid ha)) (hc ▸ hchainId) hp'
        ⟨d', hd', htaken⟩
      rw [record_of_refused hi hrefused, hchain, hc, Naming.lowercase_of_respells hvalid ha]
  · rw [← hsite.1, ← hsite.2.1]
    exact free_of_deleted hi hp hd' hhome hv h (hrespelled ha)

/-- In every registry that the services lead to, if no outage waits and the identifier is new, a
deployment is recorded exactly when the rules allow it, and otherwise refused with the error of the
first rule that is broken: invalid address, invalid chain id, no such package, already exists. One
row is added then, and it is found under every spelling of the address. For as long as the version
of its package is not deleted, whatever else happens, it is found so, up to its mark, and no
request for a package of the same chain takes the site again; the deletion frees it. -/
theorem record_succeeds_iff {r : Registry} (hrun : Run Anything .empty r) (hcalm : r.outages = [])
    {sup : Supply} (hfresh : sup.id 0 ∉ r.store.deployments.map (·.id)) (q : RecordRequest) :
    ((∃ d t, record sup q r = .ok d t) ↔ ∃ p, Recordable r.store q p) ∧
    (∀ e, (∃ t, record sup q r = .error e t) ↔ RecordRefused r.store q e) ∧
    ∀ d t, record sup q r = .ok d t →
      t = { r with store := { r.store with deployments := r.store.deployments ++ [d] } } ∧
      ∃ p, Names r.store q p ∧ d = q.deployment sup p ∧
        (∀ a, Respells q.address a → deployment p.chain q.chainId a t = .ok d t) ∧
        ∀ u, Run (fun r e => ¬ Deletes p.name p.version r e) t u → KeepsSite q p d u := by
  have hi : Integrity r.store := hrun.integrity integrity_empty
  obtain ⟨s, outages⟩ := r
  obtain rfl : outages = [] := hcalm
  refine ⟨⟨fun ⟨_, _, hok⟩ => recordable_of_ok hi hok,
    fun ⟨_, h⟩ => ⟨_, _, record_of_recordable hi hfresh h⟩⟩,
    fun e => ⟨fun ⟨_, herr⟩ => refused_of_error hi hfresh herr,
      fun h => ⟨_, record_of_refused hi h⟩⟩, fun d t hok => ?_⟩
  obtain ⟨p, h⟩ := recordable_of_ok hi hok
  have hit : Integrity t.store := (hrun.record hok).integrity integrity_empty
  rw [record_of_recordable hi hfresh h] at hok
  cases hok
  have hmem : q.deployment sup p ∈ s.deployments ++ [q.deployment sup p] :=
    List.mem_append_right _ (List.mem_singleton_self _)
  have hpackage : s.package? p.name p.version = some p :=
    hi.package?_eq_some.2 ⟨h.package.1, rfl, rfl⟩
  refine ⟨rfl, p, h.package, rfl, fun a ha => ?_, fun u hu => ?_⟩
  · have hvalid : Naming.isAddress q.address := Naming.isAddress_iff.2 h.address
    exact deployment_of_stored hit hmem h.chainId (Naming.isAddress_of_respells hvalid ha)
      (Naming.lowercase_of_respells hvalid ha).symm
  · obtain ⟨d', hd', hsame⟩ := hu.keeps_deployment hit hpackage hmem rfl
    exact keepsSite_of_stored (hu.integrity hit) h.address h.chainId
      (hu.keeps_version hit hpackage).1 hd' (hsame.trans (q.unmarked_deployment sup p))

/-- A deployment that is recorded in mixed case, looked up in small letters, and refused in small
letters; and a request whose chain id is not positive. -/
theorem record_succeeds_iff_mixed_case : ∃ (r t : Registry) (sup : Supply) (d : Deployment)
    (q small : RecordRequest), Run Anything .empty r ∧ r.outages = [] ∧
      sup.id 0 ∉ r.store.deployments.map (·.id) ∧ q.address ≠ small.address ∧
      record sup q r = .ok d t ∧ deployment "evm" 1 small.address t = .ok d t ∧
      (∃ entry, ∀ sup', record sup' small t = .error (.alreadyExists entry) t) ∧
      ∃ u, record sup { q with chainId := 0 } r = .error (.invalidChainId 0) u := by
  let sup : Supply := ⟨⟨0⟩, fun n => toString n, "secret"⟩
  obtain ⟨r, p, hrun, hcalm, hnone, hp, hname, hversion, hchain⟩ : ∃ (r : Registry) (p : Package),
      Run Anything .empty r ∧ r.outages = [] ∧ r.store.deployments = [] ∧ p ∈ r.store.packages ∧
        p.name = "tokens" ∧ p.version = (Version.normalize? "v1.0.0").getD "v1.0.0" ∧
        p.chain = "evm" := by
    let token : ContractSubmission := ⟨"Token", "", none, none, none, none, none⟩
    let published : Event := .request sup (.publish "tokens" "1.0.0" "k1"
      ⟨"evm", "", none, none, [], [token]⟩)
    have hrun : Run Anything .empty (published.apply .empty) := .snoc .nil trivial
    obtain ⟨p, hp⟩ : ∃ p ∈ (published.apply .empty).store.packages, p.name = "tokens" ∧
        p.version = (Version.normalize? "v1.0.0").getD "v1.0.0" ∧ p.chain = "evm" := by
      decide +kernel
    exact ⟨_, p, hrun, by decide +kernel, by decide +kernel, hp⟩
  let request (digits : String) : RecordRequest :=
    ⟨"tokens", "v1.0.0", "Token", 1, "0x" ++ digits, none, none, none, none, none⟩
  let q := request "AbCdEf0123AbCdEf0123AbCdEf0123AbCdEf0123"
  let small := request "abcdef0123abcdef0123abcdef0123abcdef0123"
  have haddress : HexAddress q.address := Naming.isAddress_iff.1 (by decide +kernel)
  have hrespells : Respells q.address small.address :=
    ⟨"AbCdEf0123AbCdEf0123AbCdEf0123AbCdEf0123".toList,
      "abcdef0123abcdef0123abcdef0123abcdef0123".toList, by decide +kernel, by decide +kernel,
      by decide +kernel⟩
  have hfresh : sup.id 0 ∉ r.store.deployments.map (·.id) := by simp [hnone]
  have hfree : ¬ r.store.Taken p.chain q.chainId q.address := by simp [Taken, hnone]
  have hnames : ∀ digits, Names r.store (request digits) p := fun _ => ⟨hp, hname, hversion⟩
  obtain ⟨hok, -, hafter⟩ := record_succeeds_iff hrun hcalm hfresh q
  obtain ⟨-, hzero, -⟩ := record_succeeds_iff hrun hcalm hfresh { q with chainId := 0 }
  obtain ⟨d, t, h⟩ := hok.2 ⟨p, haddress, by decide, hnames _, hfree⟩
  obtain ⟨rfl, p', hp', -, hfound, hkeeps⟩ := hafter d t h
  obtain rfl : p' = p := eq_of_key (hrun.integrity integrity_empty).packageVersions hp'.1 hp
    (by rw [hp'.2.1, hp'.2.2, hname, hversion])
  exact ⟨r, _, sup, d, q, small, hrun, hcalm, hfresh, by decide +kernel, h,
    hchain ▸ hfound _ hrespells,
    ⟨_, fun sup' => ((hkeeps _ .nil).refused sup' small p' rfl hrespells (hnames _) rfl).2 hcalm⟩,
    (hzero _).2 (.chainId haddress (by decide))⟩

end Registry

end BuildRegistry
