import Mathlib.Data.List.Perm.Basic
import Mathlib.Data.Prod.Lex
import BuildRegistry.Proofs.Bytes.Order
import BuildRegistry.Proofs.Publication.Acceptance
import BuildRegistry.Proofs.Publication.RoundTrip

/-
  The contracts of a version and their outputs, as they are looked up. A lookup takes three steps,
  from the version to its package, to a contract and to an output; the rows on the way are those of
  the bundle (`rows_of_publication`), each `HeldBy` the store as it was submitted. Contracts are
  listed by name and source path (`ascending_contractsOf`), and the one that a name stands for is
  the first in the list, so every lookup chooses the same among namesakes (`Selects`). The bytes of
  an output are those of its text: of bytecode the text itself, of a document one that is read as
  the document again (`Submitted.WrittenAs`).

  Main statement: until it is deleted, a version shows the contracts of its request, and under each
  name one contract with its own outputs (`lookups_read_back`).
-/

namespace BuildRegistry

section Lists

variable {α β : Type} {R : α → α → Prop} {S : α → β → Prop} {l : List α} {u : List β}

/-- What is found first in a sorted list comes before all else that might be found. -/
theorem before_of_find? (hl : l.Pairwise R) {p : α → Bool} {a b : α} (h : l.find? p = some a)
    (hb : b ∈ l) (hp : p b) : b = a ∨ R a b := by
  obtain ⟨-, before, after, rfl, hbefore⟩ := List.find?_eq_some_iff_append.1 h
  rcases List.mem_append.1 hb with hb | hb
  · have := hbefore b hb
    rw [hp] at this
    cases this
  · rcases List.mem_cons.1 hb with rfl | hb
    · exact .inl rfl
    · exact .inr ((List.pairwise_cons.1 (List.pairwise_append.1 hl).2.1).1 b hb)

theorem exists_left_of_forall₂ (h : List.Forall₂ S l u) {b : β} (hb : b ∈ u) : ∃ a ∈ l, S a b := by
  induction h with
  | nil => cases hb
  | @cons a b' l u hab _ ih =>
    rcases List.mem_cons.1 hb with rfl | hb
    · exact ⟨a, List.mem_cons_self, hab⟩
    · obtain ⟨a', ha', h⟩ := ih hb
      exact ⟨a', List.mem_cons_of_mem a ha', h⟩

theorem exists_right_of_forall₂ (h : List.Forall₂ S l u) {a : α} (ha : a ∈ l) : ∃ b ∈ u, S a b :=
  exists_left_of_forall₂ h.flip ha

end Lists

/-! ## The order of contracts -/

namespace Contract

/-- The place of a contract among those of its package. -/
def place (c : Contract) : String ×ₗ String := toLex (c.name, c.sourcePath)

theorem compare_isLE_iff {c d : Contract} : (c.compare d).isLE ↔ c.place ≤ d.place := by
  rw [Ordering.isLE_iff_eq_lt_or_eq_eq, compare, Ordering.then_eq_lt, Ordering.then_eq_eq,
    compare_lt_iff_lt, compare_eq_iff_eq, compare_lt_iff_lt, compare_eq_iff_eq, place, place,
    Prod.Lex.toLex_le_toLex, le_iff_lt_or_eq, and_or_left, or_assoc]

end Contract

namespace Store

variable {s : Store} {packageId : String}

/-- The contracts of a package are listed in strict order. -/
theorem ascending_contractsOf (hi : Integrity s) (packageId : String) :
    (s.contractsOf packageId).Pairwise fun c d => c.place < d.place := by
  have hle : ∀ c d : Contract, (c.compare d).isLE ↔ c.place ≤ d.place :=
    fun c d => Contract.compare_isLE_iff
  have hplaces : (s.contracts.map fun c => (c.packageId, c.place)).Nodup := hi.contractPaths
  exact ascending_inOrder hle (nodup_key_of_home hplaces packageId)

/-- A name stands for the contract with the least source path of those that have it. -/
theorem contract?_least (hi : Integrity s) {name : String} {c : Contract}
    (h : s.contract? packageId name = some c) : c ∈ s.contractsOf packageId ∧ c.name = name ∧
      ∀ d ∈ s.contractsOf packageId, d.name = name → c.sourcePath ≤ d.sourcePath := by
  rw [contract?] at h
  have hname : c.name = name := by simpa using List.find?_some h
  have hsorted := ascending_contractsOf hi packageId
  refine ⟨List.mem_of_find?_eq_some h, hname, fun d hd hdn => ?_⟩
  rcases before_of_find? hsorted h hd (decide_eq_true hdn) with rfl | hlt
  · exact le_rfl
  · rcases Prod.Lex.toLex_lt_toLex.1 hlt with hlt | ⟨-, hlt⟩
    · exact absurd (hname.trans hdn.symm) hlt.ne
    · exact hlt.le

theorem contract?_eq_none {name : String} :
    s.contract? packageId name = none ↔ ∀ c ∈ s.contractsOf packageId, c.name ≠ name := by
  rw [contract?, List.find?_eq_none]
  simp

end Store

/-! ## Rows as they were submitted -/

/-- The bytes are those of the output: of bytecode its text without white space around it, of a
document its compact text. This is read as the document again if the document nests no deeper than
is read and its numbers are integers. -/
def Submitted.WrittenAs : Submitted → Bytes → Prop
  | code text, b => b = Bytes.ofString (Text.trim text)
  | document j, b => b = Bytes.ofString j.toText ∧
      (Json.Nested Json.maxDepth j → j.hasIntegers → Json.parse? j.toText = some j)

theorem Submitted.writtenAs_content (x : Submitted) : x.WrittenAs x.content := by
  cases x with
  | code text => rfl
  | document j => exact ⟨rfl, fun hnested hints => Json.parse?_toText le_rfl hnested hints⟩

namespace ContractSubmission

open Store

variable {s : Supply} {t : Store} {c : ContractSubmission} {row : Contract} {k : ArtifactKind}
  {contractId packageId : String} {n : Nat}

/-- The kinds of the outputs that were submitted, in the order of their names. -/
def kinds (c : ContractSubmission) : List ArtifactKind :=
  [.abi, .bytecode, .deployedBytecode, .standardJsonInput, .storageLayout].filter fun k =>
    (c.submitted? k).isSome

theorem kinds_eq (c : ContractSubmission) :
    c.kinds = ArtifactKind.all.filter fun k => (c.content? k).isSome := by
  refine List.filter_congr fun k _ => ?_
  rw [content?_eq, Option.isSome_map]

/-- A row is that of a contract, and the outputs that are found for it are those that were
submitted. -/
structure HeldBy (t : Store) (c : ContractSubmission) (row : Contract) : Prop where
  name : row.name = Text.trim c.name
  sourcePath : row.sourcePath = c.sourcePath
  kinds : (t.detailsOf row).artifacts = c.kinds
  output : ∀ k x, c.submitted? k = some x → ∃ a, t.artifact? row.id k.name = some a ∧
    a.kind = k.name ∧ x.WrittenAs a.content ∧ a.contentHash = Sha256.hex a.content
  absent : ∀ k, c.submitted? k = none → t.artifact? row.id k.name = none

theorem mem_outputs {b : Bytes} : (k, b) ∈ c.outputs ↔ c.content? k = some b := by
  have hall : k ∈ ArtifactKind.all := by cases k <;> decide
  simp only [outputs, List.mem_filterMap, Option.map_eq_some_iff, Prod.mk.injEq]
  constructor
  · rintro ⟨k', -, b', hb, rfl, rfl⟩
    exact hb
  · exact fun hb => ⟨k, hall, b, hb, rfl, rfl⟩

theorem exists_artifact {outputs : List (ArtifactKind × Bytes)} {o : ArtifactKind × Bytes}
    (h : o ∈ outputs) : ∃ a ∈ artifacts s contractId n outputs,
      a.kind = o.1.name ∧ a.content = o.2 ∧ a.contentHash = Sha256.hex o.2 := by
  induction outputs generalizing n with
  | nil => cases h
  | cons o' rest ih =>
    rcases List.mem_cons.1 h with rfl | h
    · exact ⟨_, List.mem_cons_self, rfl, rfl, rfl⟩
    · obtain ⟨a, ha, hkind⟩ := ih h
      exact ⟨a, List.mem_cons_of_mem _ ha, hkind⟩

theorem kindNames_of_artifacts (s : Supply) (contractId : String) (n : Nat)
    (c : ContractSubmission) :
    (artifacts s contractId n c.outputs).map (·.kind) = c.kinds.map ArtifactKind.name := by
  rw [kind_of_artifacts, kinds_eq, ← kinds_of_outputs, List.map_map]
  rfl

/-- Outputs are stored in the order of the names of their kinds. -/
theorem sorted_artifacts (s : Supply) (contractId : String) (n : Nat) (c : ContractSubmission) :
    (artifacts s contractId n c.outputs).Pairwise fun a b => (compare a.kind b.kind).isLE := by
  have hall : (ArtifactKind.all.map ArtifactKind.name).Pairwise fun x y => (compare x y).isLE := by
    decide
  have hsorted : ((artifacts s contractId n c.outputs).map (·.kind)).Pairwise fun x y =>
      (compare x y).isLE := by
    rw [kindNames_of_artifacts, kinds_eq]
    exact hall.sublist (List.filter_sublist.map _)
  exact List.pairwise_map.1 hsorted

theorem mem_kinds_of_artifact {a : Artifact} (h : a ∈ artifacts s contractId n c.outputs)
    (hk : a.kind = k.name) : k ∈ c.kinds := by
  have hmem : k.name ∈ c.kinds.map ArtifactKind.name := by
    rw [← kindNames_of_artifacts s contractId n, ← hk]
    exact List.mem_map_of_mem h
  obtain ⟨k', hk', hname⟩ := List.mem_map.1 hmem
  have hsame : some k' = some k := by
    rw [← ArtifactKind.ofName?_name, ← ArtifactKind.ofName?_name, hname]
  exact Option.some.inj hsame ▸ hk'

/-- The kinds that are shown of the outputs of a bundle. -/
theorem kinds_of_artifacts (s : Supply) (contractId : String) (n : Nat) (c : ContractSubmission) :
    (artifacts s contractId n c.outputs).filterMap (·.kind?) = c.kinds := by
  have hread : (artifacts s contractId n c.outputs).filterMap (·.kind?) =
      ((artifacts s contractId n c.outputs).map (·.kind)).filterMap ArtifactKind.ofName? := by
    rw [List.filterMap_map]
    rfl
  rw [hread, kindNames_of_artifacts, List.filterMap_map]
  refine (List.filterMap_congr fun k _ => ?_).trans (List.filterMap_some)
  exact ArtifactKind.ofName?_name k

theorem heldBy_bundle
    (h : t.outputsOf (bundle s packageId n c).contract.id = (bundle s packageId n c).artifacts) :
    c.HeldBy t (bundle s packageId n c).contract where
  name := rfl
  sourcePath := rfl
  kinds := by
    have hstored : t.artifactsOf (bundle s packageId n c).contract.id =
        artifacts s (s.id n) (n + 1) c.outputs := by
      refine (congrArg (inOrder fun a b : Artifact => compare a.kind b.kind) h).trans ?_
      exact List.mergeSort_of_pairwise (sorted_artifacts s (s.id n) (n + 1) c)
    rw [detailsOf, hstored, kinds_of_artifacts]
  output := by
    intro k x hx
    have hb : c.content? k = some x.content := by rw [content?_eq, hx, Option.map_some]
    obtain ⟨a, ha, hkind, hcontent, hhash⟩ := exists_artifact (mem_outputs.2 hb)
    refine ⟨a, ?_, hkind, hcontent.symm ▸ x.writtenAs_content, by rw [hhash, hcontent]⟩
    rw [artifact?_eq, h, ← hkind]
    exact find?_eq_some_of_key (coherent_bundle s packageId n c).kinds ha
  absent := by
    intro k hk
    rw [artifact?_eq, h, List.find?_eq_none]
    intro a ha hkind
    have hsome := (List.mem_filter.1 (mem_kinds_of_artifact ha (of_decide_eq_true hkind))).2
    rw [hk] at hsome
    cases hsome

/-- The contracts of a bundle are held as they were submitted, one after the other. -/
theorem heldBy_bundles {cs : List ContractSubmission}
    (h : ∀ d ∈ bundles s packageId n cs, t.outputsOf d.contract.id = d.artifacts) :
    List.Forall₂ (fun c row => c.HeldBy t row) cs
      ((bundles s packageId n cs).map (·.contract)) := by
  induction cs generalizing n with
  | nil => exact .nil
  | cons c rest ih =>
    obtain ⟨hfirst, hrest⟩ := List.forall_mem_cons.1 h
    exact .cons (heldBy_bundle hfirst) (ih hrest)

/-! ## The contract that a name stands for -/

/-- Of the contracts with a name, the one with the least source path, byte for byte. -/
structure Selects (cs : List ContractSubmission) (name : String) (c : ContractSubmission) :
    Prop where
  mem : c ∈ cs
  named : Text.trim c.name = name
  least : ∀ d ∈ cs, Text.trim d.name = name →
    ¬ Bytes.ofString d.sourcePath < Bytes.ofString c.sourcePath

theorem Selects.unique {cs : List ContractSubmission} (hcs : Compatible cs) {name : String}
    {c d : ContractSubmission} (hc : Selects cs name c) (hd : Selects cs name d) : c = d := by
  have hpath : c.sourcePath = d.sourcePath := by
    have hcd := hd.least c hc.mem hc.named
    have hdc := hc.least d hd.mem hd.named
    rw [Bytes.ofString_lt_iff, not_lt] at hcd hdc
    exact le_antisymm hdc hcd
  refine eq_of_key hcs.paths hc.mem hd.mem (Prod.ext ?_ hpath)
  exact hc.named.trans hd.named.symm

/-- The store finds the row of the contract that a name stands for, or the name stands for none. -/
theorem contract?_cases (hi : Integrity t) {cs listed : List ContractSubmission}
    (hheld : List.Forall₂ (fun c row => c.HeldBy t row) listed (t.contractsOf packageId))
    (hperm : listed.Perm cs) (name : String) :
    (∃ c row, Selects cs name c ∧ c.HeldBy t row ∧ t.contract? packageId name = some row) ∨
      (∀ c ∈ cs, Text.trim c.name ≠ name) ∧ t.contract? packageId name = none := by
  -- the row of each contract that might be meant
  have hrow : ∀ c ∈ cs, ∃ row ∈ t.contractsOf packageId, c.HeldBy t row := fun c hc =>
    exists_right_of_forall₂ hheld (hperm.mem_iff.2 hc)
  cases hfound : t.contract? packageId name with
  | none =>
    refine .inr ⟨fun c hc hname => ?_, rfl⟩
    obtain ⟨row, hmem, hcrow⟩ := hrow c hc
    exact contract?_eq_none.1 hfound row hmem (hcrow.name.trans hname)
  | some row =>
    obtain ⟨hmem, hname, hleast⟩ := contract?_least hi hfound
    obtain ⟨c, hc, hcrow⟩ := exists_left_of_forall₂ hheld hmem
    refine .inl ⟨c, row, ⟨hperm.mem_iff.1 hc, hcrow.name.symm.trans hname, fun d hd hdname => ?_⟩,
      hcrow, rfl⟩
    obtain ⟨row', hmem', hdrow⟩ := hrow d hd
    rw [Bytes.ofString_lt_iff, not_lt, ← hcrow.sourcePath, ← hdrow.sourcePath]
    exact hleast row' hmem' (hdrow.name.trans hdname)

/-- A contract is shown as it was submitted. -/
structure ShownAs (c : ContractSubmission) (d : ContractDetails) : Prop where
  name : d.contract.name = Text.trim c.name
  sourcePath : d.contract.sourcePath = c.sourcePath
  kinds : d.artifacts = c.kinds

theorem HeldBy.shownAs (h : c.HeldBy t row) : c.ShownAs (t.detailsOf row) :=
  ⟨h.name, h.sourcePath, h.kinds⟩

end ContractSubmission

/-! ## Lookups -/

/-- Byte for byte in the order of names, and of source paths among namesakes. -/
def ContractDetails.Before (d e : ContractDetails) : Prop :=
  Bytes.ofString d.contract.name < Bytes.ofString e.contract.name ∨
    d.contract.name = e.contract.name ∧
      Bytes.ofString d.contract.sourcePath < Bytes.ofString e.contract.sourcePath

theorem ContractDetails.before_iff {s : Store} {c d : Contract} :
    (s.detailsOf c).Before (s.detailsOf d) ↔ c.place < d.place := by
  rw [Before, Bytes.ofString_lt_iff, Bytes.ofString_lt_iff, Contract.place, Contract.place,
    Prod.Lex.toLex_lt_toLex]
  exact Iff.rfl

namespace Registry

open Store
open ContractSubmission (Compatible Selects ShownAs HeldBy)

/-- What is told of the contracts of a package is what its request holds. -/
structure TellsOf (q : PublishRequest) (p : Package) (name selector : String) (s : Store) :
    Prop where
  listed : ∃ cs ds, cs.Perm q.contracts ∧ answer (contracts name selector) s = .ok ds ∧
    List.Forall₂ ShownAs cs ds ∧ ds.Pairwise ContractDetails.Before
  selected : ∀ n, (∃ c, Selects q.contracts n c) ∨ ∀ c ∈ q.contracts, Text.trim c.name ≠ n
  named : ∀ n c, Selects q.contracts n c →
    ∃ d, answer (contract name selector n) s = .ok d ∧ c.ShownAs d
  output : ∀ n c k x, Selects q.contracts n c → c.submitted? k = some x →
    ∃ a, answer (artifact name selector n k) s = .ok a ∧
      a.kind = k.name ∧ x.WrittenAs a.content ∧ a.contentHash = Sha256.hex a.content
  noOutput : ∀ n c k, Selects q.contracts n c → c.submitted? k = none →
    answer (artifact name selector n k) s =
      .error (.notFound (inPackage (k.name ++ " artifact of contract " ++ n) p))
  noContract : ∀ n, (∀ c ∈ q.contracts, Text.trim c.name ≠ n) →
    answer (contract name selector n) s = .error (.notFound (inPackage ("contract " ++ n) p)) ∧
      ∀ k, answer (artifact name selector n k) s =
        .error (.notFound (inPackage ("contract " ++ n) p))

variable {q : PublishRequest} {p : Package} {name selector : String} {s : Store}

theorem tellsOf_of_held (hi : Integrity s) (hcs : Compatible q.contracts)
    {cs : List ContractSubmission} (hperm : cs.Perm q.contracts)
    (hheld : List.Forall₂ (fun c row => c.HeldBy s row) cs (s.contractsOf p.id))
    (hp : package name selector false ⟨s, []⟩ = .ok p ⟨s, []⟩) : TellsOf q p name selector s := by
  have hcases := ContractSubmission.contract?_cases hi hheld hperm
  have hrow : ∀ n c, Selects q.contracts n c →
      ∃ row, c.HeldBy s row ∧ s.contract? p.id n = some row := by
    intro n c hc
    rcases hcases n with ⟨c', row, hc', hcrow, hfound⟩ | ⟨hnone, -⟩
    · obtain rfl := hc.unique hcs hc'
      exact ⟨row, hcrow, hfound⟩
    · exact absurd hc.named (hnone c hc.mem)
  constructor
  case listed =>
    refine ⟨cs, (s.contractsOf p.id).map s.detailsOf, hperm, ?_, ?_, ?_⟩
    · rw [answer, contracts_run hp, outcome_ok]
    · rw [List.forall₂_map_right_iff]
      exact hheld.imp fun _ _ h => h.shownAs
    · rw [List.pairwise_map]
      exact (ascending_contractsOf hi p.id).imp fun h => ContractDetails.before_iff.2 h
  case selected =>
    intro n
    rcases hcases n with ⟨c, -, hc, -⟩ | ⟨hnone, -⟩
    · exact .inl ⟨c, hc⟩
    · exact .inr hnone
  case named =>
    intro n c hc
    obtain ⟨row, hcrow, hfound⟩ := hrow n c hc
    refine ⟨s.detailsOf row, ?_, hcrow.shownAs⟩
    rw [answer, contract_run hp, hfound, outcome_ok]
  case output =>
    intro n c k x hc hx
    obtain ⟨row, hcrow, hfound⟩ := hrow n c hc
    obtain ⟨a, ha, hkind, hcontent, hhash⟩ := hcrow.output k x hx
    refine ⟨a, ?_, hkind, hcontent, hhash⟩
    simp only [answer, artifact_run hp, hfound, ha, outcome_ok]
  case noOutput =>
    intro n c k hc hk
    obtain ⟨row, hcrow, hfound⟩ := hrow n c hc
    have hname : row.name = n := hcrow.name.trans hc.named
    simp only [answer, artifact_run hp, hfound, hcrow.absent k hk, hname, outcome_error]
  case noContract =>
    intro n hn
    have hnone : s.contract? p.id n = none := by
      rcases hcases n with ⟨c, row, hc, -⟩ | ⟨-, hnone⟩
      · exact absurd hc.named (hn c hc.mem)
      · exact hnone
    simp only [answer, contract_run hp, artifact_run hp, hnone, outcome_error, implies_true,
      and_self]

/-- From its publication on, and until it is deleted, the lookups of a version tell what was
submitted: the list has each contract once with the kinds of its outputs, in the order of names and
source paths; a name stands for the contract with the least source path; and an output is found
under a name exactly when that contract was submitted with it. -/
theorem lookups_read_back {sup : Supply} {name version v ownerId : String} {q : PublishRequest}
    {p : Package} {r₀ r₁ r₂ : Registry} (hreach : Run Anything .empty r₀)
    (hv : Version.normalize? version = some v)
    (hpub : publish sup name version ownerId q r₀ = .ok p r₁)
    (hrun : Run (fun r e => ¬ Deletes name v r e) r₁ r₂) {selector : String}
    (hsel : Version.normalize? selector = some v) : TellsOf q p name selector r₂.store := by
  obtain ⟨w, u, -, -, hpublished, -⟩ := publish_ok hpub
  obtain ⟨rfl, hfound, hi, hcontracts, houtputs⟩ := rows_of_publication hreach hv hpub hrun
  have hperm : (r₂.store.contractsOf (sup.id 0)).Perm
      ((q.bundle sup name v ownerId).contracts.map (·.contract)) := by
    rw [← hcontracts]
    exact List.mergeSort_perm _ _
  have hrows : List.Forall₂ (fun c row => c.HeldBy r₂.store row) q.contracts
      ((q.bundle sup name v ownerId).contracts.map (·.contract)) :=
    ContractSubmission.heldBy_bundles houtputs
  -- submissions in the order in which their rows are listed
  obtain ⟨cs, hheld, hcs⟩ := List.perm_comp_forall₂ hperm hrows.flip
  exact tellsOf_of_held hi (publishable_iff.1 hpublished.publishable).2 hcs hheld.flip
    (package_of_stored hsel hfound false)

/-- Two contracts of one name. The first by its source path has an interface and bytecode as it is
deployed, which are found under the name with their bytes; it has no bytecode for deployment, and
there is none under the name, although the other one has it. -/
theorem lookups_read_back_namesakes :
    Version.normalize? "v1.0.0" = some "1.0.0" ∧ Version.normalize? "1.0.0" = some "1.0.0" ∧
    ∃ (sup : Supply) (q : PublishRequest) (first second : ContractSubmission) (p : Package)
      (r₁ r₂ : Registry), publish sup "tokens" "v1.0.0" "k1" q .empty = .ok p r₁ ∧
        r₂ = (Event.request sup (.publish "tokens" "1.1.0" "k1" q)).apply r₁ ∧
        TellsOf q p "tokens" "1.0.0" r₂.store ∧
        Selects q.contracts "Token" first ∧ second ∈ q.contracts ∧
        Text.trim second.name = "Token" ∧ second.bytecode = some "0x6002" ∧
        (∃ d, answer (contract "tokens" "1.0.0" "Token") r₂.store = .ok d ∧
          d.contract.sourcePath = "a.sol" ∧ d.artifacts = [.abi, .deployedBytecode]) ∧
        (∃ a, answer (artifact "tokens" "1.0.0" "Token" .abi) r₂.store = .ok a ∧
          a.kind = "abi" ∧ a.content = [0x5B, 0x5D]) ∧
        (∃ a, answer (artifact "tokens" "1.0.0" "Token" .deployedBytecode) r₂.store = .ok a ∧
          a.kind = "deployed-bytecode" ∧ a.content = [0x30, 0x78, 0x36, 0x30, 0x30, 0x31]) ∧
        answer (artifact "tokens" "1.0.0" "Token" .bytecode) r₂.store =
          .error (.notFound (inPackage "bytecode artifact of contract Token" p)) := by
  have hv : Version.normalize? "v1.0.0" = some "1.0.0" := by decide
  have hsel : Version.normalize? "1.0.0" = some "1.0.0" := by decide
  let sup : Supply := ⟨⟨0⟩, fun n => toString n, "secret"⟩
  let first : ContractSubmission :=
    ⟨" Token", "a.sol", some (.arr []), none, some " 0x6001 ", none, none⟩
  let second : ContractSubmission := ⟨"Token", "b.sol", none, some "0x6002", none, none, none⟩
  let q : PublishRequest := ⟨"evm", "", none, none, [], [second, first]⟩
  obtain ⟨p, r₁, h⟩ := exists_of_succeeds
    (show succeeds (publish sup "tokens" "v1.0.0" "k1" q .empty) = true by decide +kernel)
  have hnext : ¬ Deletes "tokens" "1.0.0" r₁ (.request sup (.publish "tokens" "1.1.0" "k1" q)) := by
    rintro ⟨_, _, _, _, _, he, -⟩
    cases he
  have htells := lookups_read_back .nil hv h (.snoc .nil hnext) hsel
  have hselects : Selects q.contracts "Token" first :=
    ⟨List.mem_cons_of_mem _ List.mem_cons_self, by decide +kernel, by decide +kernel⟩
  obtain ⟨d, hd, hshown⟩ := htells.named _ _ hselects
  obtain ⟨a, ha, hkind, ⟨hcontent, -⟩, -⟩ :=
    htells.output "Token" first .abi (.document (.arr [])) hselects rfl
  obtain ⟨b, hb, hkind', hcontent', -⟩ :=
    htells.output "Token" first .deployedBytecode (.code " 0x6001 ") hselects rfl
  have habi : Bytes.ofString (Json.arr []).toText = [0x5B, 0x5D] := by decide +kernel
  have hcode : Bytes.ofString (Text.trim " 0x6001 ") = [0x30, 0x78, 0x36, 0x30, 0x30, 0x31] := by
    decide +kernel
  exact ⟨hv, hsel, sup, q, first, second, p, r₁, _, h, rfl, htells, hselects, List.mem_cons_self,
    by decide +kernel, rfl, ⟨d, hd, hshown.sourcePath, hshown.kinds⟩,
    ⟨a, ha, hkind, hcontent.trans habi⟩, ⟨b, hb, hkind', Eq.trans hcontent' hcode⟩,
    htells.noOutput "Token" first .bytecode hselects rfl⟩

end Registry

end BuildRegistry
