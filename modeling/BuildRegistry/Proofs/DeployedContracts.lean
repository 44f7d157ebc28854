import BuildRegistry.Proofs.Immutability

/-
  What deployments name. A deployment says by name of which contract of its package it is one.
  `NamesContract s d` says that there is such a contract in the store.

  Recording looks up the package of a request and not the contract, so nothing makes a deployment
  name a contract (`recorded_without_contract`). What a deployment names is settled for good when
  it is recorded: only its mark changes later, and the contracts of its package stay as they are
  for as long as the deployment does (`deployment_cases`). Main statement
  (`names_contract_iff_recorded_so`): every stored deployment was recorded by a request, and it
  names a contract of its package exactly if the contract that the request named was found then.
-/

namespace BuildRegistry

/-- The deployment as it was before any verification. -/
def Deployment.unmarked (d : Deployment) : Deployment :=
  { d with verified := false, verifiedAt := none, verifiedOn := none }

theorem RecordRequest.unmarked_deployment (q : RecordRequest) (sup : Supply) (p : Package) :
    (q.deployment sup p).unmarked = q.deployment sup p := rfl

namespace Store

/-- The deployment is one of a contract of its package. -/
def NamesContract (s : Store) (d : Deployment) : Prop :=
  ∃ c ∈ s.contracts, c.packageId = d.packageId ∧ c.name = d.contractName

instance (s : Store) (d : Deployment) : Decidable (s.NamesContract d) :=
  inferInstanceAs (Decidable (∃ c ∈ s.contracts, _))

variable {s t : Store} {d e : Deployment}

/-- A deployment names a contract exactly if the lookup of contracts finds one. -/
theorem namesContract_iff : s.NamesContract d ↔ (s.contract? d.packageId d.contractName).isSome := by
  rw [contract?, List.find?_isSome]
  constructor
  · rintro ⟨c, hc, hp, hn⟩
    exact ⟨c, mem_contractsOf.2 ⟨hc, hp⟩, decide_eq_true hn⟩
  · rintro ⟨c, hc, hn⟩
    obtain ⟨hc, hp⟩ := mem_contractsOf.1 hc
    exact ⟨c, hc, hp, of_decide_eq_true hn⟩

/-- It depends on the contracts of its package only. -/
theorem SameContents.namesContract_iff (h : SameContents d.packageId s t) :
    t.NamesContract d ↔ s.NamesContract d := by
  rw [Store.namesContract_iff, Store.namesContract_iff, h.contract?_eq]

/-- A mark changes neither the package nor the name. -/
theorem namesContract_congr (h : e.unmarked = d.unmarked) :
    s.NamesContract e ↔ s.NamesContract d := by
  have hp : e.packageId = d.packageId := congrArg (·.packageId) h
  have hn : e.contractName = d.contractName := congrArg (·.contractName) h
  rw [NamesContract, NamesContract, hp, hn]

/-- Where a deployment comes from when the store has changed: it was there, perhaps with another
mark, and its package still holds what it held; or the change was its recording. -/
theorem deployment_cases {calm : Prop} {sup : Supply} {a : Registry.Action}
    (h : Registry.Change calm sup a s t) (hi : Integrity s) (hd : d ∈ t.deployments) :
    (∃ e ∈ s.deployments, e.unmarked = d.unmarked ∧ SameContents d.packageId s t) ∨
      ∃ q p, a = .record q ∧
        s.package? q.packageName (Registry.exactVersion q.version) = some p ∧
        d = q.deployment sup p ∧ t.contracts = s.contracts := by
  cases h with
  | nothing => exact .inl ⟨d, hd, rfl, .refl _ _⟩
  | @published _ _ _ _ _ _ u _ _ hpub hclaim =>
    have hsame : t.deployments = u.deployments ∧ SameContents d.packageId u t := by
      rcases hclaim with rfl | ⟨-, rfl⟩
      · exact ⟨by simp, .of_eq (by simp) (by simp) _⟩
      · exact ⟨rfl, .refl _ _⟩
    rw [hsame.1, hpub.deployments] at hd
    obtain ⟨p, hp, hpd⟩ := List.mem_map.1 (hi.deploymentHomes d hd)
    have hcontents := sameContents_insertBundle hp hpub.written
    rw [hpd] at hcontents
    exact .inl ⟨d, hd, rfl, hcontents.trans hsame.2⟩
  | @deleted _ _ _ _ _ p _ _ hfound =>
    obtain ⟨hd, hkept⟩ := List.mem_filter.1 hd
    obtain ⟨p', hp', hpd⟩ := List.mem_map.1 (hi.deploymentHomes d hd)
    have hother : p.id ≠ p'.id := by
      rw [hpd]
      exact Ne.symm (of_decide_eq_true hkept)
    have hcontents := sameContents_withoutPackage hi hother
    rw [hpd] at hcontents
    exact .inl ⟨d, hd, rfl, hcontents⟩
  | @recorded q _ p _ _ hfound =>
    rcases List.mem_append.1 hd with hd | hd
    · exact .inl ⟨d, hd, rfl, .of_eq (by rfl) (by rfl) _⟩
    · exact .inr ⟨q, p, rfl, hfound, List.mem_singleton.1 hd, rfl⟩
  | marked id verified on =>
    obtain ⟨e, he, hed⟩ := List.mem_map.1 hd
    refine .inl ⟨e, he, ?_, .of_eq (by rfl) (by rfl) _⟩
    rw [← hed]
    split <;> rfl
  | keysChanged => exact .inl ⟨d, hd, rfl, .of_eq (by rfl) (by rfl) _⟩

end Store

namespace Registry

open Store

/-- A deployment as a run has it: the request that recorded it, of which package, and in which
registry `u`; the run went on from there to `r`. -/
structure Recording (sup : Supply) (q : RecordRequest) (p : Package) (u r : Registry)
    (d : Deployment) : Prop where
  reachable : Run Anything .empty u
  package_eq : u.store.package? q.packageName (exactVersion q.version) = some p
  deployment_eq : d.unmarked = q.deployment sup p
  recorded : ∃ t, record sup q u = .ok d.unmarked t ∧ Run Anything t r

/-- The lookup of contracts answers for a recording as it does for its request. -/
theorem Recording.namesContract_iff {sup : Supply} {q : RecordRequest} {p : Package}
    {u r : Registry} {d : Deployment} (h : Recording sup q p u r d) (s : Store) :
    s.NamesContract d ↔ (s.contract? p.id q.contractName).isSome := by
  have hd : (q.deployment sup p).unmarked = d.unmarked := h.deployment_eq.symm
  rw [← namesContract_congr hd, Store.namesContract_iff]
  rfl

theorem recording_of_perform {s : Supply} {q : RecordRequest} {p : Package} {r t : Registry}
    (hrun : Run Anything .empty r) (h : perform s (.record q) r = .ok () t)
    (hp : r.store.package? q.packageName (exactVersion q.version) = some p) :
    Recording s q p r t (q.deployment s p) := by
  obtain ⟨d, hd⟩ := silently_ok h
  obtain ⟨p', -, -, hp', rfl, -⟩ := record_ok hd
  obtain rfl : p' = p := Option.some.inj (hp'.symm.trans hp)
  exact ⟨hrun, hp, q.unmarked_deployment s p', t, hd, .nil⟩

/-- A stored deployment has been recorded, and the contracts it may name are those that its package
had then. -/
theorem exists_recording {r : Registry} (hrun : Run Anything .empty r) {d : Deployment}
    (hd : d ∈ r.store.deployments) :
    ∃ sup q p u, Recording sup q p u r d ∧ (r.store.NamesContract d ↔ u.store.NamesContract d) := by
  -- along the run: an event keeps the deployment and what it names, or is its recording
  induction hrun generalizing d with
  | nil => cases hd
  | @snoc r e hrun _ ih =>
    have hi := hrun.integrity integrity_empty
    rcases e.cases_store r with hsame | ⟨s, a, t, rfl, h, happly⟩
    · rw [hsame] at hd ⊢
      obtain ⟨sup, q, p, u, hrec, hnames⟩ := ih hd
      obtain ⟨t, ht, hlater⟩ := hrec.recorded
      exact ⟨sup, q, p, u, { hrec with recorded := ⟨t, ht, hlater.snoc trivial⟩ }, hnames⟩
    · rw [happly] at hd
      rcases deployment_cases (perform_ok h) hi hd with
        ⟨e, he, heq, hcontents⟩ | ⟨q, p, rfl, hp, rfl, hcontracts⟩
      · obtain ⟨sup, q, p, u, hrec, hnames⟩ := ih he
        obtain ⟨u', hu', hlater⟩ := hrec.recorded
        refine ⟨sup, q, p, u, ⟨hrec.reachable, hrec.package_eq, heq ▸ hrec.deployment_eq, u',
          heq ▸ hu', hlater.snoc trivial⟩, ?_⟩
        rw [happly, hcontents.namesContract_iff, ← namesContract_congr heq, hnames,
          namesContract_congr heq]
      · rw [happly]
        refine ⟨s, q, p, r, recording_of_perform hrun h hp, ?_⟩
        rw [NamesContract, NamesContract, hcontracts]

/-- Whatever happens, a stored deployment was once recorded by a request, and it names a contract
of its package exactly if the contract that the request named was found when it was recorded. -/
theorem names_contract_iff_recorded_so {r : Registry} (hrun : Run Anything .empty r)
    {d : Deployment} (hd : d ∈ r.store.deployments) :
    ∃ sup q p u, Recording sup q p u r d ∧
      (r.store.NamesContract d ↔ (u.store.contract? p.id q.contractName).isSome) := by
  obtain ⟨sup, q, p, u, hrec, hnames⟩ := exists_recording hrun hd
  exact ⟨sup, q, p, u, hrec, hnames.trans (hrec.namesContract_iff u.store)⟩

/-! ## One deployment -/

/-- The registry once a package with one contract is published, and a deployment of it is recorded
under the name of a contract. -/
def afterRecording (contractName : String) : Registry :=
  let supply (n : Nat) : Supply := ⟨⟨0⟩, fun k => toString (k + n), "secret"⟩
  let token : ContractSubmission := ⟨"Token", "src/Token.sol", none, none, none, none, none⟩
  let published : Event := .request (supply 0) (.publish "tokens" "1.0.0" "k1"
    ⟨"evm", "", none, none, [], [token]⟩)
  let recorded : Event := .request (supply 9) (.record ⟨"tokens", "1.0.0", contractName, 1,
    "0x1111111111111111111111111111111111111111", none, none, none, none, none⟩)
  recorded.apply (published.apply .empty)

theorem run_afterRecording (contractName : String) :
    Run Anything .empty (afterRecording contractName) := by
  unfold afterRecording
  exact .snoc (.snoc .nil trivial) trivial

/-- A deployment of the contract that the package has. -/
theorem names_contract_iff_recorded_so_token : ∃ r d, Run Anything .empty r ∧
    d ∈ r.store.deployments ∧ r.store.NamesContract d ∧ ∃ sup q p u, Recording sup q p u r d ∧
      (r.store.NamesContract d ↔ (u.store.contract? p.id q.contractName).isSome) := by
  obtain ⟨d, hd, hnames⟩ : ∃ d ∈ (afterRecording "Token").store.deployments,
      (afterRecording "Token").store.NamesContract d := by decide +kernel
  exact ⟨_, d, run_afterRecording "Token", hd, hnames,
    names_contract_iff_recorded_so (run_afterRecording "Token") hd⟩

/-- A deployment of a contract that its package does not have is recorded like any other. -/
theorem recorded_without_contract : ∃ r, Run Anything .empty r ∧
    ∃ d ∈ r.store.deployments, ¬ r.store.NamesContract d :=
  ⟨_, run_afterRecording "Ghost", by decide +kernel⟩

end Registry

end BuildRegistry
