import BuildRegistry.Proofs.Services

/-
  What lookups find. `answer` is what a service tells about a store when no outage waits. Once a
  selector stands for a package version (`package_run` for an exact one), the answers about it are
  functions of its row, its contracts and their outputs; two stores that hold the same of a package
  (`SameContents`) therefore answer alike.
-/

namespace BuildRegistry

namespace Store

/-- A contract with the known kinds of its outputs. -/
def detailsOf (s : Store) (c : Contract) : ContractDetails :=
  ⟨c, (s.artifactsOf c.id).filterMap (·.kind?)⟩

/-- What an archive of a package holds. -/
def contentsOf (s : Store) (packageId : String) : Archive.Contents :=
  (s.contractsOf packageId).map fun c => (c, s.artifactsOf c.id)

theorem mem_inOrder {α : Type} {compareRows : α → α → Ordering} {rows : List α} {a : α} :
    a ∈ inOrder compareRows rows ↔ a ∈ rows := List.mem_mergeSort

theorem mem_contractsOf {s : Store} {packageId : String} {c : Contract} :
    c ∈ s.contractsOf packageId ↔ c ∈ s.contracts ∧ c.packageId = packageId := by
  rw [contractsOf, mem_inOrder, List.mem_filter, decide_eq_true_eq]

theorem package?_mem {s : Store} {name version : String} {p : Package}
    (h : s.package? name version = some p) :
    p ∈ s.packages ∧ p.name = name ∧ p.version = version := by
  have hfound := List.find?_some h
  simp only [decide_eq_true_eq, Bool.and_eq_true] at hfound
  exact ⟨List.mem_of_find?_eq_some h, hfound⟩

theorem contract?_mem {s : Store} {packageId name : String} {c : Contract}
    (h : s.contract? packageId name = some c) : c ∈ s.contracts ∧ c.packageId = packageId :=
  mem_contractsOf.1 (List.mem_of_find?_eq_some h)

theorem artifact?_eq (s : Store) (contractId kind : String) :
    s.artifact? contractId kind = (s.outputsOf contractId).find? (·.kind = kind) := by
  rw [artifact?, outputsOf, List.find?_filter]
  simp

/-! ## Stores that hold the same of a package -/

/-- The contracts of a package and their outputs are the same in two stores. -/
structure SameContents (packageId : String) (s t : Store) : Prop where
  contracts : t.contracts.filter (·.packageId = packageId) =
    s.contracts.filter (·.packageId = packageId)
  outputs : ∀ c ∈ s.contracts, c.packageId = packageId → t.outputsOf c.id = s.outputsOf c.id

namespace SameContents

variable {packageId : String} {s t u : Store}

theorem refl (packageId : String) (s : Store) : SameContents packageId s s :=
  ⟨rfl, fun _ _ _ => rfl⟩

theorem trans (h : SameContents packageId s t) (h' : SameContents packageId t u) :
    SameContents packageId s u := by
  refine ⟨h'.contracts.trans h.contracts, fun c hc hp => ?_⟩
  have hct : c ∈ t.contracts.filter (·.packageId = packageId) := by
    rw [h.contracts]
    exact List.mem_filter.2 ⟨hc, by simpa using hp⟩
  rw [h'.outputs c (List.mem_filter.1 hct).1 hp, h.outputs c hc hp]

theorem contractsOf_eq (h : SameContents packageId s t) :
    t.contractsOf packageId = s.contractsOf packageId := by
  rw [contractsOf, contractsOf, h.contracts]

theorem contract?_eq (h : SameContents packageId s t) (name : String) :
    t.contract? packageId name = s.contract? packageId name := by
  rw [contract?, contract?, h.contractsOf_eq]

theorem artifactsOf_eq (h : SameContents packageId s t) {c : Contract} (hc : c ∈ s.contracts)
    (hp : c.packageId = packageId) : t.artifactsOf c.id = s.artifactsOf c.id :=
  congrArg (inOrder fun a b : Artifact => compare a.kind b.kind) (h.outputs c hc hp)

theorem detailsOf_eq (h : SameContents packageId s t) {c : Contract} (hc : c ∈ s.contracts)
    (hp : c.packageId = packageId) : t.detailsOf c = s.detailsOf c := by
  rw [detailsOf, detailsOf, h.artifactsOf_eq hc hp]

theorem contentsOf_eq (h : SameContents packageId s t) :
    t.contentsOf packageId = s.contentsOf packageId := by
  rw [contentsOf, contentsOf, h.contractsOf_eq]
  refine List.map_congr_left fun c hc => ?_
  rw [mem_contractsOf] at hc
  rw [h.artifactsOf_eq hc.1 hc.2]

end SameContents

end Store

namespace Registry

open Store

/-! ## Answers -/

/-- What a service tells about a store when no outage waits. -/
def answer {α : Type} (act : Service α) (s : Store) : Except RegistryError α := outcome (act ⟨s, []⟩)

variable {name selector : String} {s : Store} {p : Package}

theorem normalize?_latest : Version.normalize? latest = none := by decide

theorem resolve_exact {v : String} (hv : Version.normalize? selector = some v) (name : String)
    (prereleases : Bool) (r : Registry) : resolve name selector prereleases r = .ok v r := by
  have hne : selector ≠ latest := by
    rintro rfl
    rw [normalize?_latest] at hv
    cases hv
  unfold resolve
  rw [if_neg hne, hv]
  rfl

theorem package_run {v : String} (hv : Version.normalize? selector = some v) (name : String)
    (prereleases : Bool) (s : Store) :
    package name selector prereleases ⟨s, []⟩ = match s.package? name v with
      | some p => .ok p ⟨s, []⟩
      | none => .error (.notFound (versionEntry name v)) ⟨s, []⟩ := by
  unfold package
  rw [bind_of_ok (resolve_exact hv name prereleases _), need_calm, getPackage_run]
  cases s.package? name v <;> rfl

theorem package_of_stored {v : String} (hv : Version.normalize? selector = some v)
    (h : s.package? name v = some p) (prereleases : Bool) :
    package name selector prereleases ⟨s, []⟩ = .ok p ⟨s, []⟩ := by
  rw [package_run hv, h]

theorem use_listContracts (packageId : String) (s : Store) :
    use .listContracts (listContracts packageId) ⟨s, []⟩ =
      .ok (s.contractsOf packageId) ⟨s, []⟩ := by
  rw [use_calm, listContracts_run]

theorem use_listArtifacts (contractId : String) (s : Store) :
    use .listArtifacts (listArtifacts contractId) ⟨s, []⟩ =
      .ok (s.artifactsOf contractId) ⟨s, []⟩ := by
  rw [use_calm, listArtifacts_run]

theorem details_run (c : Contract) (s : Store) :
    details c ⟨s, []⟩ = .ok (s.detailsOf c) ⟨s, []⟩ := by
  unfold details
  rw [bind_of_ok (use_listArtifacts c.id s)]
  rfl

theorem contractNamed_run (p : Package) (name : String) (s : Store) :
    contractNamed p name ⟨s, []⟩ = match s.contract? p.id name with
      | some c => .ok c ⟨s, []⟩
      | none => .error (.notFound (inPackage ("contract " ++ name) p)) ⟨s, []⟩ := by
  unfold contractNamed
  rw [need_calm, getContract_run]
  cases s.contract? p.id name <;> rfl

theorem contents_run (p : Package) (s : Store) :
    contents p ⟨s, []⟩ = .ok (s.contentsOf p.id) ⟨s, []⟩ := by
  unfold contents
  rw [bind_of_ok (use_listContracts p.id s)]
  refine mapM_of_ok _ fun c _ => ?_
  rw [bind_of_ok (use_listArtifacts c.id s)]
  rfl

theorem contracts_run (hp : package name selector false ⟨s, []⟩ = .ok p ⟨s, []⟩) :
    contracts name selector ⟨s, []⟩ = .ok ((s.contractsOf p.id).map s.detailsOf) ⟨s, []⟩ := by
  unfold contracts
  rw [bind_of_ok hp, bind_of_ok (use_listContracts p.id s)]
  exact mapM_of_ok _ fun c _ => details_run c s

theorem contract_run (hp : package name selector false ⟨s, []⟩ = .ok p ⟨s, []⟩)
    (contractName : String) :
    contract name selector contractName ⟨s, []⟩ = match s.contract? p.id contractName with
      | some c => .ok (s.detailsOf c) ⟨s, []⟩
      | none => .error (.notFound (inPackage ("contract " ++ contractName) p)) ⟨s, []⟩ := by
  unfold contract
  rw [bind_of_ok hp]
  have hc := contractNamed_run p contractName s
  cases h : s.contract? p.id contractName with
  | some c =>
    rw [h] at hc
    rw [bind_of_ok hc, details_run]
  | none =>
    rw [h] at hc
    rw [bind_of_error hc]

theorem artifact_run (hp : package name selector false ⟨s, []⟩ = .ok p ⟨s, []⟩)
    (contractName : String) (k : ArtifactKind) :
    artifact name selector contractName k ⟨s, []⟩ = match s.contract? p.id contractName with
      | some c => match s.artifact? c.id k.name with
        | some a => .ok a ⟨s, []⟩
        | none => .error
          (.notFound (inPackage (k.name ++ " artifact of contract " ++ c.name) p)) ⟨s, []⟩
      | none => .error (.notFound (inPackage ("contract " ++ contractName) p)) ⟨s, []⟩ := by
  unfold artifact
  rw [bind_of_ok hp]
  have hc := contractNamed_run p contractName s
  cases h : s.contract? p.id contractName with
  | some c =>
    rw [h] at hc
    rw [bind_of_ok hc, need_calm, getArtifact_run]
    cases ha : s.artifact? c.id k.name with
    | some a => simp only [ha]
    | none =>
      simp only [ha]
      rfl
  | none =>
    rw [h] at hc
    rw [bind_of_error hc]

theorem archive_run (hp : package name selector false ⟨s, []⟩ = .ok p ⟨s, []⟩) :
    archive name selector ⟨s, []⟩ = match Archive.build p (s.contentsOf p.id) with
      | .ok data => .ok (p, data) ⟨s, []⟩
      | .error fault => .error (.archiveFailed fault.message) ⟨s, []⟩ := by
  unfold archive
  rw [bind_of_ok hp, bind_of_ok (contents_run p s)]
  cases Archive.build p (s.contentsOf p.id) <;> rfl

/-! ## Stores that answer alike -/

/-- All answers about one selector of a name are the same in two stores. -/
structure SameAnswers (name selector : String) (s t : Store) : Prop where
  package : ∀ prereleases,
    answer (package name selector prereleases) t = answer (package name selector prereleases) s
  contracts : answer (contracts name selector) t = answer (contracts name selector) s
  contract : ∀ c, answer (contract name selector c) t = answer (contract name selector c) s
  artifact : ∀ c k, answer (artifact name selector c k) t = answer (artifact name selector c k) s
  archive : answer (archive name selector) t = answer (archive name selector) s

theorem sameAnswers_of_sameContents {v : String} {t : Store}
    (hv : Version.normalize? selector = some v) (hs : s.package? name v = some p)
    (ht : t.package? name v = some p) (h : SameContents p.id s t) :
    SameAnswers name selector s t := by
  have hps := package_of_stored hv hs false
  have hpt := package_of_stored hv ht false
  refine ⟨fun prereleases => ?_, ?_, fun c => ?_, fun c k => ?_, ?_⟩
  · simp only [answer, package_of_stored hv hs, package_of_stored hv ht, outcome_ok]
  · have hmap : (s.contractsOf p.id).map t.detailsOf = (s.contractsOf p.id).map s.detailsOf :=
      List.map_congr_left fun c hc =>
        h.detailsOf_eq (mem_contractsOf.1 hc).1 (mem_contractsOf.1 hc).2
    simp only [answer, contracts_run hps, contracts_run hpt, h.contractsOf_eq, hmap, outcome_ok]
  · simp only [answer, contract_run hps, contract_run hpt, h.contract?_eq]
    cases hc : s.contract? p.id c with
    | none => rfl
    | some d => simp only [h.detailsOf_eq (contract?_mem hc).1 (contract?_mem hc).2, outcome_ok]
  · simp only [answer, artifact_run hps, artifact_run hpt, h.contract?_eq]
    cases hc : s.contract? p.id c with
    | none => rfl
    | some d =>
      simp only [artifact?_eq, h.outputs d (contract?_mem hc).1 (contract?_mem hc).2]
      cases (s.outputsOf d.id).find? (·.kind = k.name) <;> rfl
  · simp only [answer, archive_run hps, archive_run hpt, h.contentsOf_eq]
    cases Archive.build p (s.contentsOf p.id) <;> rfl

end Registry

end BuildRegistry
