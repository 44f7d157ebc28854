import Mathlib.Data.List.Induction
import Mathlib.Data.List.Nodup
import BuildRegistry.Proofs.Naming.Rules
import BuildRegistry.Proofs.Services

/-
  What the check of the contracts in a request lets through, and how it names what it does not.
  Contracts that go together (`Compatible`) have names that follow the rules, and different paths;
  otherwise there is a first one at fault, after contracts that go together (`Faulty`). The check
  keeps what it has seen in a list, so the loop is taken apart at its end
  (`contractsFault?_append`), where all that comes before the last contract has been seen.

  Main statement (`publishable_iff`): the check lets through exactly the contracts that go together,
  if there are any.
-/

namespace BuildRegistry

/-! ## Contracts that go together -/

namespace ContractSubmission

/-- What a contract is known by within its package. -/
def path (c : ContractSubmission) : String × String := (Text.trim c.name, c.sourcePath)

/-- Contracts that may be published together. -/
structure Compatible (cs : List ContractSubmission) : Prop where
  names : ∀ c ∈ cs, Naming.ContractName (Text.trim c.name)
  paths : (cs.map path).Nodup

/-- What is wrong with a contract that comes after others. -/
inductive Fault (before : List ContractSubmission) (c : ContractSubmission) : String → Prop where
  | name (h : ¬ Naming.ContractName (Text.trim c.name)) :
      Fault before c ("invalid contract name: " ++ Text.quoted c.name)
  | again (hname : Naming.ContractName (Text.trim c.name)) (h : c.path ∈ before.map path) :
      Fault before c
        ("contract " ++ Text.trim c.name ++ " (" ++ c.sourcePath ++ ") is listed more than once")

/-- Why contracts cannot be published: there are none, or one of them is the first at fault. -/
inductive Faulty : List ContractSubmission → String → Prop where
  | none : Faulty [] "a package must contain at least one contract"
  | first {before rest : List ContractSubmission} {c : ContractSubmission} {reason : String}
      (compatible : Compatible before) (fault : Fault before c reason) :
      Faulty (before ++ c :: rest) reason

variable {before cs : List ContractSubmission} {c : ContractSubmission} {reason : String}

theorem compatible_nil : Compatible [] := ⟨nofun, List.nodup_nil⟩

theorem compatible_concat : Compatible (cs ++ [c]) ↔
    Compatible cs ∧ Naming.ContractName (Text.trim c.name) ∧ c.path ∉ cs.map path := by
  constructor
  · rintro ⟨hnames, hpaths⟩
    rw [List.forall_mem_append, List.forall_mem_singleton] at hnames
    rw [List.map_append, List.nodup_append] at hpaths
    refine ⟨⟨hnames.1, hpaths.1⟩, hnames.2, fun hmem => ?_⟩
    exact hpaths.2.2 _ hmem _ List.mem_cons_self rfl
  · rintro ⟨⟨hnames, hpaths⟩, hname, hnew⟩
    refine ⟨List.forall_mem_append.2 ⟨hnames, List.forall_mem_singleton.2 hname⟩, ?_⟩
    rw [List.map_append, List.map_singleton, ← List.concat_eq_append]
    exact hpaths.concat hnew

/-- A contract has a fault, or it goes with those before it. -/
theorem fault_or_compatible (h : Compatible before) :
    (∃ reason, Fault before c reason) ∨ Compatible (before ++ [c]) := by
  by_cases hname : Naming.ContractName (Text.trim c.name)
  · by_cases hseen : c.path ∈ before.map path
    · exact .inl ⟨_, .again hname hseen⟩
    · exact .inr (compatible_concat.2 ⟨h, hname, hseen⟩)
  · exact .inl ⟨_, .name hname⟩

/-- Contracts go together, or there is a first one at fault. -/
theorem compatible_or_faulty (cs : List ContractSubmission) :
    Compatible cs ∨ ∃ reason, cs ≠ [] ∧ Faulty cs reason := by
  induction cs using List.reverseRecOn with
  | nil => exact .inl compatible_nil
  | append_singleton cs c ih =>
    have hne : cs ++ [c] ≠ [] := List.append_ne_nil_of_right_ne_nil _ (List.cons_ne_nil c [])
    rcases ih with h | ⟨reason, hcs, ⟨⟩ | @⟨before, rest, d, _, hbefore, hfault⟩⟩
    · rcases fault_or_compatible (c := c) h with ⟨reason, hfault⟩ | h
      · exact .inr ⟨reason, hne, .first h hfault⟩
      · exact .inl h
    · exact absurd rfl hcs
    · refine .inr ⟨reason, hne, ?_⟩
      rw [List.append_assoc, List.cons_append]
      exact .first hbefore hfault

end ContractSubmission

/-! ## The check of contracts -/

namespace Registry

open ContractSubmission (Compatible Fault Faulty)

variable {seen : List (String × String)} {before cs rest : List ContractSubmission}
  {c : ContractSubmission} {e : RegistryError} {reason : String}

/-- Contracts are checked one after the other, each against those before it. -/
theorem contractsFault?_append : contractsFault? seen (cs ++ rest) =
    (contractsFault? seen cs).or (contractsFault? ((cs.map (·.path)).reverse ++ seen) rest) := by
  induction cs generalizing seen with
  | nil => rfl
  | cons c cs ih =>
    rw [List.cons_append, contractsFault?, contractsFault?, ih, List.map_cons, List.reverse_cons,
      List.append_assoc]
    split
    · rfl
    · split
      · rfl
      · rfl

theorem not_isContractName_iff : (!Naming.isContractName c.contractName) = true ↔
    ¬ Naming.ContractName (Text.trim c.name) := by
  rw [Bool.not_eq_true', ← Bool.not_eq_true, ContractSubmission.contractName,
    Naming.isContractName_trim_iff]

theorem contains_path_iff :
    (before.map (·.path)).reverse.contains (c.contractName, c.sourcePath) = true ↔
      c.path ∈ before.map (·.path) := by
  rw [List.contains_iff_mem, List.mem_reverse]
  exact Iff.rfl

theorem contractsFault?_of_fault (h : Fault before c reason) :
    contractsFault? (before.map (·.path)).reverse (c :: rest) = some (.invalidRequest reason) := by
  rw [contractsFault?]
  cases h with
  | name h => rw [if_pos (not_isContractName_iff.2 h)]
  | again hname h =>
    rw [if_neg fun hbad => not_isContractName_iff.1 hbad hname, if_pos (contains_path_iff.2 h)]
    rfl

theorem contractsFault?_of_compatible (h : Compatible cs) : contractsFault? [] cs = none := by
  induction cs using List.reverseRecOn with
  | nil => rfl
  | append_singleton cs c ih =>
    obtain ⟨hcs, hname, hnew⟩ := ContractSubmission.compatible_concat.1 h
    rw [contractsFault?_append, ih hcs, Option.none_or, List.append_nil, contractsFault?,
      if_neg fun hbad => not_isContractName_iff.1 hbad hname,
      if_neg fun hseen => hnew (contains_path_iff.1 hseen)]
    rfl

theorem contractsFault?_of_faulty (h : Faulty cs reason) (hne : cs ≠ []) :
    contractsFault? [] cs = some (.invalidRequest reason) := by
  cases h with
  | none => exact absurd rfl hne
  | first hbefore hfault =>
    rw [contractsFault?_append, contractsFault?_of_compatible hbefore, Option.none_or,
      List.append_nil, contractsFault?_of_fault hfault]

/-- Contracts are let through exactly when there are some and they go together. -/
theorem publishable_iff : Publishable cs ↔ cs ≠ [] ∧ Compatible cs := by
  refine and_congr_right fun hne => ⟨fun h => ?_, contractsFault?_of_compatible⟩
  rcases ContractSubmission.compatible_or_faulty cs with hcs | ⟨reason, -, hcs⟩
  · exact hcs
  · rw [contractsFault?_of_faulty hcs hne] at h
    cases h

/-- Contracts are let through, or there is a reason why not. -/
theorem publishable_or_faulty (cs : List ContractSubmission) :
    Publishable cs ∨ ∃ reason, Faulty cs reason := by
  rcases eq_or_ne cs [] with rfl | hne
  · exact .inr ⟨_, .none⟩
  · rcases ContractSubmission.compatible_or_faulty cs with hcs | ⟨reason, -, hcs⟩
    · exact .inl (publishable_iff.2 ⟨hne, hcs⟩)
    · exact .inr ⟨reason, hcs⟩

theorem checkContracts_faulty (h : Faulty cs reason) (r : Registry) :
    checkContracts cs r = .error (.invalidRequest reason) r := by
  unfold checkContracts
  by_cases hne : cs = []
  · cases h with
    | none => rfl
    | first => exact absurd hne (List.append_ne_nil_of_right_ne_nil _ (List.cons_ne_nil _ _))
  · rw [if_neg (by simpa using hne), contractsFault?_of_faulty h hne]
    rfl

theorem checkContracts_publishable (h : Publishable cs) (r : Registry) :
    checkContracts cs r = .ok () r := by
  rcases checkContracts_run cs r with ⟨-, hrun⟩ | ⟨hnot, -⟩
  · exact hrun
  · exact absurd h hnot

end Registry

end BuildRegistry
