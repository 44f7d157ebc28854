import BuildRegistry.Proofs.Lookup
import BuildRegistry.Proofs.Runs

/-
  A published version does not change. Publications of other versions add rows that belong to
  other packages and contracts, since ids are unique; a deletion of another version takes rows that
  belong to it; everything else leaves packages, contracts and outputs alone. Hence a version once
  stored stays, with the same contents, through every run that does not delete it
  (`Run.keeps_version`), and as long as it is stored its slot is taken for every spelling of the
  version.
-/

namespace BuildRegistry

/-! ## What a bundle refers to -/

namespace ContractSubmission

theorem contractId_of_mem_artifacts {s : Supply} {contractId : String} {n : Nat}
    {outputs : List (ArtifactKind × Bytes)} {a : Artifact}
    (h : a ∈ artifacts s contractId n outputs) : a.contractId = contractId := by
  induction outputs generalizing n with
  | nil => cases h
  | cons o rest ih =>
    rcases List.mem_cons.1 h with rfl | h
    · rfl
    · exact ih h

theorem of_mem_bundles {s : Supply} {packageId : String} {n : Nat} {cs : List ContractSubmission}
    {d : ContractBundle} (h : d ∈ bundles s packageId n cs) :
    d.contract.packageId = packageId ∧ ∀ a ∈ d.artifacts, a.contractId = d.contract.id := by
  induction cs generalizing n with
  | nil => cases h
  | cons c rest ih =>
    rcases List.mem_cons.1 h with rfl | h
    · exact ⟨rfl, fun a ha => contractId_of_mem_artifacts ha⟩
    · exact ih h

end ContractSubmission

namespace Store

/-! ## A stored version and writes of others -/

variable {s t : Store} {p : Package}

/-- The contents of a package are its rows of contracts and outputs. -/
theorem SameContents.of_eq (hc : t.contracts = s.contracts) (ha : t.artifacts = s.artifacts)
    (packageId : String) : SameContents packageId s t := by
  refine ⟨by rw [hc], fun c _ _ => ?_⟩
  rw [outputsOf, outputsOf, ha]

/-- A bundle that goes in next to a package leaves its contents alone. -/
theorem sameContents_insertBundle {sup : Supply}
    {name v ownerId : String} {req : PublishRequest} {u : Unit} (hp : p ∈ s.packages)
    (h : insertBundle (req.bundle sup name v ownerId) s = .ok u t) : SameContents p.id s t := by
  obtain ⟨hnew, hclash, ht, hframe⟩ := insertBundle_ok h
  have hid : sup.id 0 ≠ p.id := by
    have := hnew p hp
    simp only [Package.clashes, Bool.or_eq_false_iff, decide_eq_false_iff_not] at this
    exact this.1
  constructor
  · rw [ht]
    change (s.contracts ++ _).filter _ = _
    rw [List.filter_append, List.append_right_eq_self, List.filter_eq_nil_iff]
    intro c hc
    obtain ⟨d, hd, rfl⟩ := List.mem_map.1 hc
    rw [(ContractSubmission.of_mem_bundles hd).1]
    simpa using hid
  · intro c hc _
    refine hframe c.id fun d hd a ha => ?_
    have := hclash d hd c hc
    simp only [Contract.clashes, Bool.or_eq_false_iff, decide_eq_false_iff_not] at this
    rw [(ContractSubmission.of_mem_bundles hd).2 a ha]
    exact this.1

/-- The deletion of another package leaves the contents of this one alone. -/
theorem sameContents_withoutPackage (hi : Integrity s) {id : String} (hid : id ≠ p.id) :
    SameContents p.id s (s.withoutPackage id) := by
  constructor
  · change (s.contracts.filter _).filter _ = _
    rw [List.filter_filter]
    refine List.filter_congr fun c _ => ?_
    by_cases hc : c.packageId = p.id <;> simp [hc, Ne.symm hid]
  · intro c hc hcp
    change (s.artifacts.filter _).filter _ = s.artifacts.filter _
    rw [List.filter_filter]
    refine List.filter_congr fun a _ => ?_
    by_cases ha : a.contractId = c.id
    · -- a contract of the deleted package with this id would be `c`
      have hkept : c.id ∉ (s.contracts.filter (·.packageId = id)).map (·.id) := by
        intro hmem
        obtain ⟨d, hd, hdc⟩ := List.mem_map.1 hmem
        obtain ⟨hd, hdp⟩ := List.mem_filter.1 hd
        obtain rfl := eq_of_key hi.contractIds hd hc hdc
        exact hid ((by simpa using hdp : d.packageId = id).symm.trans hcp)
      simp [ha, hkept]
    · simp [ha]

/-! ## A stored version and requests -/

/-- A request that is no deletion of a stored version keeps it and its contents. -/
theorem keeps_version {calm : Prop} {sup : Supply} {a : Registry.Action} (hi : Integrity s)
    (hp : s.package? p.name p.version = some p) (h : Registry.Change calm sup a s t)
    (hkeep : ∀ version ownerId, a = .delete p.name version ownerId →
      Version.normalize? version ≠ some p.version) :
    t.package? p.name p.version = some p ∧ SameContents p.id s t := by
  have hmem : p ∈ s.packages := List.mem_of_find?_eq_some hp
  cases h with
  | nothing => exact ⟨hp, .refl _ _⟩
  | published hv hpub hclaim =>
    rename_i u
    have hu : u.package? p.name p.version = some p := by
      rw [package?, hpub.packages, List.find?_append, show s.packages.find? _ = some p from hp]
      rfl
    have hc := sameContents_insertBundle hmem hpub.written
    rcases hclaim with rfl | ⟨-, rfl⟩
    · refine ⟨?_, hc.trans (.of_eq (by simp) (by simp) _)⟩
      rwa [package?, claiming_packages]
    · exact ⟨hu, hc⟩
  | @deleted name version v ownerId _ p' hv _ hfound =>
    obtain ⟨hmem', rfl, rfl⟩ := hi.package?_eq_some.1 hfound
    have hid : p'.id ≠ p.id := by
      intro hid
      obtain rfl := eq_of_key hi.packageIds hmem' hmem hid
      exact hkeep version ownerId rfl hv
    refine ⟨?_, sameContents_withoutPackage hi hid⟩
    rw [(integrity_withoutPackage hi p'.id).package?_eq_some]
    exact ⟨List.mem_filter.2 ⟨hmem, by simpa using Ne.symm hid⟩, rfl, rfl⟩
  | recorded => exact ⟨hp, .of_eq (by rfl) (by rfl) _⟩
  | marked => exact ⟨hp, .of_eq (by rfl) (by rfl) _⟩
  | keysChanged => exact ⟨hp, .of_eq (by rfl) (by rfl) _⟩

end Store

namespace Registry

open Store

/-- The event is a deletion of that version, under any spelling, and it succeeds. -/
def Deletes (name v : String) (r : Registry) (e : Event) : Prop :=
  ∃ s version ownerId u t, e = .request s (.delete name version ownerId) ∧
    Version.normalize? version = some v ∧ delete name version ownerId r = .ok u t

variable {r t : Registry} {p : Package}

theorem Event.keeps_version {e : Event} (hi : Integrity r.store)
    (hp : r.store.package? p.name p.version = some p) (he : ¬ Deletes p.name p.version r e) :
    (e.apply r).store.package? p.name p.version = some p ∧
      SameContents p.id r.store (e.apply r).store := by
  rcases e.cases_store r with hsame | ⟨s, a, t, rfl, h, happly⟩
  · rw [hsame]
    exact ⟨hp, .refl _ _⟩
  · rw [happly]
    refine Store.keeps_version hi hp (perform_ok h) fun version ownerId ha hv => ?_
    subst ha
    obtain ⟨_, hdel⟩ := silently_ok h
    exact he ⟨s, version, ownerId, _, t, rfl, hv, hdel⟩

/-- A stored version stays, with its contents, through a run that does not delete it. -/
theorem Run.keeps_version (hrun : Run (fun r e => ¬ Deletes p.name p.version r e) r t)
    (hi : Integrity r.store) (hp : r.store.package? p.name p.version = some p) :
    t.store.package? p.name p.version = some p ∧ SameContents p.id r.store t.store := by
  induction hrun with
  | nil => exact ⟨hp, .refl _ _⟩
  | snoc hrun he ih =>
    obtain ⟨hp', hc⟩ := ih
    obtain ⟨hp'', hc'⟩ := Event.keeps_version (hrun.integrity hi) hp' he
    exact ⟨hp'', hc.trans hc'⟩

/-- A version that was just published is stored. -/
theorem stored_of_publish {s : Supply} {name version v ownerId : String} {q : PublishRequest}
    (hv : Version.normalize? version = some v)
    (h : publish s name version ownerId q r = .ok p t) :
    p.name = name ∧ p.version = v ∧ t.store.package? name v = some p := by
  obtain ⟨v', u, hv', rfl, hpub, ht⟩ := publish_ok h
  obtain rfl : v' = v := Option.some.inj (hv'.symm.trans hv)
  have hu : u.package? name v' = some (q.package s name v' ownerId) := by
    rw [package?, hpub.packages, List.find?_append, show r.store.packages.find? _ = none from hpub.absent]
    simp [PublishRequest.package]
  refine ⟨rfl, rfl, ?_⟩
  rcases ht with ht | ⟨-, ht⟩ <;> rw [ht]
  · rwa [package?, claiming_packages]
  · exact hu

/-- Once a version is published, and until it is deleted, nobody publishes it again under any of
its spellings, and all that is answered about it stays as it was. -/
theorem published_version_immutable {s : Supply} {name version v ownerId : String}
    {q : PublishRequest} {r₀ r₁ r₂ : Registry} (hreach : Run Anything .empty r₀)
    (hv : Version.normalize? version = some v)
    (hpub : publish s name version ownerId q r₀ = .ok p r₁)
    (hrun : Run (fun r e => ¬ Deletes name v r e) r₁ r₂) :
    (∀ s' version' ownerId' q', Version.normalize? version' = some v →
      ∃ e t, publish s' name version' ownerId' q' r₂ = .error e t) ∧
    ∀ selector, Version.normalize? selector = some v →
      (∀ prereleases, answer (package name selector prereleases) r₂.store = .ok p) ∧
      SameAnswers name selector r₁.store r₂.store := by
  obtain ⟨rfl, rfl, hp⟩ := stored_of_publish hv hpub
  have hi : Integrity r₁.store := by
    have := (steps_publish writes_integrity s p.name version ownerId q r₀).1
    rw [hpub] at this
    exact this (hreach.integrity integrity_empty)
  obtain ⟨hp', hc⟩ := hrun.keeps_version hi hp
  refine ⟨fun s' version' ownerId' q' hv' => ?_, fun selector hsel =>
    ⟨fun prereleases => ?_, sameAnswers_of_sameContents hsel hp hp' hc⟩⟩
  · cases h : publish s' p.name version' ownerId' q' r₂ with
    | error e t => exact ⟨e, t, rfl⟩
    | ok p' t =>
      -- the slot would have to be free
      obtain ⟨v', u, hv'', -, hpub', -⟩ := publish_ok h
      obtain rfl : v' = p.version := Option.some.inj (hv''.symm.trans hv')
      have := hpub'.absent
      rw [hp'] at this
      cases this
  · rw [answer, package_of_stored hsel hp', outcome_ok]

/-- A first version of a package, with the publication of a second one after it. -/
theorem published_version_immutable_two_versions :
    Version.normalize? "v1.0.0" = some "1.0.0" ∧
    ∃ s q p r r', publish s "tokens" "v1.0.0" "k1" q .empty = .ok p r ∧
      r' = (Event.request s (.publish "tokens" "1.1.0" "k1" q)).apply r ∧
      (∀ s' version' ownerId' q', Version.normalize? version' = some "1.0.0" →
        ∃ e t, publish s' "tokens" version' ownerId' q' r' = .error e t) ∧
      ∀ selector, Version.normalize? selector = some "1.0.0" →
        (∀ prereleases, answer (package "tokens" selector prereleases) r'.store = .ok p) ∧
        SameAnswers "tokens" selector r.store r'.store := by
  have hv : Version.normalize? "v1.0.0" = some "1.0.0" := by decide
  let s : Supply := ⟨⟨0⟩, fun n => toString n, "secret"⟩
  let token : ContractSubmission := ⟨"Token", "src/Token.sol", none, none, none, none, none⟩
  let q : PublishRequest := ⟨"evm", "", none, none, [], [token]⟩
  obtain ⟨p, r, h⟩ := exists_of_succeeds
    (show succeeds (publish s "tokens" "v1.0.0" "k1" q .empty) = true by decide +kernel)
  have hnext : ¬ Deletes "tokens" "1.0.0" r (.request s (.publish "tokens" "1.1.0" "k1" q)) := by
    rintro ⟨_, _, _, _, _, he, -⟩
    cases he
  exact ⟨hv, s, q, p, r, _, h, rfl, published_version_immutable .nil hv h (.snoc .nil hnext)⟩

end Registry

end BuildRegistry
