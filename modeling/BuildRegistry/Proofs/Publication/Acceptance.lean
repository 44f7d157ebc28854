import BuildRegistry.Proofs.Ownership
import BuildRegistry.Proofs.Publication.Progress
import BuildRegistry.Proofs.Store.Bundles

/-
  Which publications are accepted. `Acceptable` puts the rules together: for the name, the
  contracts, the owner and the version. `Refused` says with which error a publication is refused
  that breaks one of them, the first one in the order of the checks; of contracts it is the first
  one at fault that is named.

  What the checks let through, the store takes (`publish_of_fresh`), if no outage waits and
  identifiers are new; the one key that a publication may find taken is that of its version.

  Main statement (`publish_accepts_iff`): a publication is accepted exactly when it is acceptable,
  and otherwise refused with the error of the first rule that it breaks.
-/

namespace BuildRegistry

namespace Registry

open Store
open ContractSubmission (Compatible Fault Faulty)

/-! ## The steps of a publication -/

variable {sup : Supply} {s : Store} {name version v ownerId : String} {q : PublishRequest}

theorem checkOwner_of_own (h : ∀ o, s.owner? name = some o → o = ownerId) :
    checkOwner name ownerId ⟨s, []⟩ = .ok () ⟨s, []⟩ := by
  have hfound : use .getPackageOwner (packageOwner name) ⟨s, []⟩ =
      .ok (s.owner? name) ⟨s, []⟩ := by
    rw [use_calm, packageOwner_run]
  unfold checkOwner
  rw [bind_of_ok hfound]
  cases ho : s.owner? name with
  | none => rfl
  | some o =>
    dsimp only
    rw [if_neg (not_not.2 (h o ho))]
    rfl

/-- What a publication does when its arguments have been checked. -/
def writeVersion (sup : Supply) (name v ownerId : String) (q : PublishRequest) :
    Service Package := do
  if ← use .packageExists (Store.packageExists name v) then throw (.versionExists name v)
  let b := q.bundle sup name v ownerId
  failingAs (publishFailure name v) (call .publish (Store.publish b))
  let _ ← attempt .setPackageOwner (Store.claimName name ownerId sup.now)
  return b.package

theorem publish_eq (hname : Naming.PackageName name) (hv : Version.normalize? version = some v) :
    publish sup name version ownerId q = (do
      checkContracts q.contracts
      checkOwner name ownerId
      writeVersion sup name v ownerId q) := by
  rw [← Naming.isPackageName_iff] at hname
  unfold publish
  dsimp only
  rw [if_neg (by simpa using hname), hv]
  rfl

theorem writeVersion_stored (h : (s.package? name v).isSome) :
    writeVersion sup name v ownerId q ⟨s, []⟩ = .error (.versionExists name v) ⟨s, []⟩ := by
  have hfound : use .packageExists (packageExists name v) ⟨s, []⟩ = .ok true ⟨s, []⟩ := by
    rw [use_calm, packageExists_run, h]
  unfold writeVersion
  rw [bind_of_ok hfound]
  rfl

/-- The store takes what the checks let through, and nothing else can go wrong. -/
theorem writeVersion_absent (hi : Integrity s) (hfresh : sup.Fresh s)
    (hcs : Publishable q.contracts) (habsent : s.package? name v = none) :
    ∃ t, writeVersion sup name v ownerId q ⟨s, []⟩ = .ok (q.package sup name v ownerId) t := by
  have hfound : use .packageExists (packageExists name v) ⟨s, []⟩ = .ok false ⟨s, []⟩ := by
    rw [use_calm, packageExists_run, habsent]
    rfl
  obtain ⟨t, ht⟩ : ∃ t, Store.publish (q.bundle sup name v ownerId) s = .ok () t :=
    publish_of_fresh hi hfresh hcs habsent
  have hput : failingAs (publishFailure name v)
      (call .publish (Store.publish (q.bundle sup name v ownerId))) ⟨s, []⟩ = .ok () ⟨t, []⟩ := by
    rw [failingAs_ok, call_calm, ht]
  have hclaim : attempt .setPackageOwner (Store.claimName name ownerId sup.now) ⟨t, []⟩ =
      .ok (some (!(t.owner? name).isSome)) ⟨t.claiming name ownerId sup.now, []⟩ := by
    rw [attempt_calm, claimName_run]
  unfold writeVersion
  rw [bind_of_ok hfound]
  dsimp only
  rw [if_neg Bool.false_ne_true]
  exact ⟨_, (bind_of_ok hput).trans (bind_of_ok hclaim)⟩

/-! ## Acceptance and refusal -/

/-- The rules for a publication of the version `v`. -/
structure Acceptable (s : Store) (name v ownerId : String) (q : PublishRequest) : Prop where
  nameValid : Naming.PackageName name
  nonempty : q.contracts ≠ []
  compatible : Compatible q.contracts
  owner : ∀ o, s.owner? name = some o → o = ownerId
  absent : s.package? name v = none

/-- The error with which a publication is refused: that of the first rule that it breaks. -/
inductive Refused (s : Store) (name version ownerId : String) (q : PublishRequest) :
    RegistryError → Prop where
  | name (h : ¬ Naming.PackageName name) : Refused s name version ownerId q (.invalidName name)
  | version (hname : Naming.PackageName name) (h : Version.normalize? version = none) :
      Refused s name version ownerId q (.invalidVersion version)
  | contracts {v reason : String} (hname : Naming.PackageName name)
      (hv : Version.normalize? version = some v) (h : Faulty q.contracts reason) :
      Refused s name version ownerId q (.invalidRequest reason)
  | owner {v o : String} (hname : Naming.PackageName name)
      (hv : Version.normalize? version = some v) (hne : q.contracts ≠ [])
      (hcs : Compatible q.contracts) (ho : s.owner? name = some o) (h : ownerId ≠ o) :
      Refused s name version ownerId q (.forbidden name)
  | stored {v : String} (hname : Naming.PackageName name)
      (hv : Version.normalize? version = some v) (hne : q.contracts ≠ [])
      (hcs : Compatible q.contracts) (ho : ∀ o, s.owner? name = some o → o = ownerId)
      (h : (s.package? name v).isSome) :
      Refused s name version ownerId q (.versionExists name v)

/-- A publication is acceptable or breaks a rule. -/
theorem acceptable_or_refused (s : Store) (name version ownerId : String) (q : PublishRequest) :
    (∃ v, Version.normalize? version = some v ∧ Acceptable s name v ownerId q) ∨
      ∃ e, Refused s name version ownerId q e := by
  by_cases hname : Naming.PackageName name
  swap
  · exact .inr ⟨_, .name hname⟩
  cases hv : Version.normalize? version with
  | none => exact .inr ⟨_, .version hname hv⟩
  | some v =>
    rcases publishable_or_faulty q.contracts with hcs | ⟨reason, hfaulty⟩
    swap
    · exact .inr ⟨_, .contracts hname hv hfaulty⟩
    obtain ⟨hne, hcs⟩ := publishable_iff.1 hcs
    by_cases ho : ∀ o, s.owner? name = some o → o = ownerId
    swap
    · push Not at ho
      obtain ⟨o, ho, hother⟩ := ho
      exact .inr ⟨_, .owner hname hv hne hcs ho hother.symm⟩
    cases hp : s.package? name v with
    | none => exact .inl ⟨v, rfl, hname, hne, hcs, ho, hp⟩
    | some p => exact .inr ⟨_, .stored hname hv hne hcs ho (by rw [hp]; rfl)⟩

theorem publish_of_acceptable (hi : Integrity s) (hfresh : sup.Fresh s)
    (hv : Version.normalize? version = some v) (h : Acceptable s name v ownerId q) :
    ∃ p t, publish sup name version ownerId q ⟨s, []⟩ = .ok p t := by
  have hcs : Publishable q.contracts := publishable_iff.2 ⟨h.nonempty, h.compatible⟩
  obtain ⟨t, ht⟩ : ∃ t, writeVersion sup name v ownerId q ⟨s, []⟩ = .ok _ t :=
    writeVersion_absent hi hfresh hcs h.absent
  rw [publish_eq h.nameValid hv, bind_of_ok (checkContracts_publishable hcs _),
    bind_of_ok (checkOwner_of_own h.owner)]
  exact ⟨_, t, ht⟩

theorem publish_of_refused (h : Refused s name version ownerId q e) :
    publish sup name version ownerId q ⟨s, []⟩ = .error e ⟨s, []⟩ := by
  cases h with
  | name h =>
    rw [← Naming.isPackageName_iff] at h
    unfold publish
    dsimp only
    rw [if_pos (by simpa using h)]
    rfl
  | version hname h =>
    rw [← Naming.isPackageName_iff] at hname
    unfold publish
    dsimp only
    rw [if_neg (by simpa using hname), h]
    rfl
  | contracts hname hv h =>
    rw [publish_eq hname hv]
    exact bind_of_error (checkContracts_faulty h _)
  | owner hname hv hne hcs ho h =>
    have hcs : Publishable q.contracts := publishable_iff.2 ⟨hne, hcs⟩
    rw [publish_eq hname hv, bind_of_ok (checkContracts_publishable hcs _)]
    exact bind_of_error (checkOwner_of_other rfl ho h)
  | stored hname hv hne hcs ho h =>
    have hcs : Publishable q.contracts := publishable_iff.2 ⟨hne, hcs⟩
    rw [publish_eq hname hv, bind_of_ok (checkContracts_publishable hcs _),
      bind_of_ok (checkOwner_of_own ho)]
    exact writeVersion_stored h

/-- The key of its version is the only one that a bundle of checked contracts can find taken. -/
theorem publish_clash (hi : Integrity s) (hfresh : sup.Fresh s) (hcs : Publishable q.contracts)
    {e : StoreError} {t : Store} (h : Store.publish (q.bundle sup name v ownerId) s = .error e t) :
    (s.package? name v).isSome ∧ e = .alreadyExists (versionEntry name v) := by
  cases hp : s.package? name v with
  | none =>
    obtain ⟨u, hu⟩ : ∃ u, Store.publish (q.bundle sup name v ownerId) s = .ok () u :=
      publish_of_fresh hi hfresh hcs hp
    rw [hu] at h
    cases h
  | some p =>
    have htaken : insertPackage (q.package sup name v ownerId) s =
        .error (.alreadyExists (versionEntry name v)) s := by
      obtain ⟨hmem, hname, hversion⟩ := hi.package?_eq_some.1 hp
      rw [insertPackage_run, if_pos]
      · rfl
      · refine List.any_eq_true.2 ⟨p, hmem, ?_⟩
        simp [Package.clashes, PublishRequest.package, hname, hversion]
    obtain ⟨-, u, hu⟩ := publish_error.1 h
    rw [show insertBundle (q.bundle sup name v ownerId) s = _ from bind_of_error htaken] at hu
    cases hu
    exact ⟨rfl, rfl⟩

/-- In every registry that the services lead to, if no outage waits and identifiers are new, a
publication is accepted exactly when it is acceptable, and otherwise refused with the error of the
first rule that it breaks: invalid name, invalid version, invalid request, forbidden, version
exists. Contracts that pass their checks find no key of a contract or an output taken; the store
can only object to the version. -/
theorem publish_accepts_iff {r : Registry} (hrun : Run Anything .empty r) (hcalm : r.outages = [])
    {sup : Supply} (hfresh : sup.Fresh r.store) (name version ownerId : String)
    (q : PublishRequest) :
    ((∃ p t, publish sup name version ownerId q r = .ok p t) ↔
      ∃ v, Version.normalize? version = some v ∧ Acceptable r.store name v ownerId q) ∧
    (∀ e, (∃ t, publish sup name version ownerId q r = .error e t) ↔
      Refused r.store name version ownerId q e) ∧
    (Publishable q.contracts → ∀ v e t,
      Store.publish (q.bundle sup name v ownerId) r.store = .error e t →
        (r.store.package? name v).isSome ∧ e = .alreadyExists (versionEntry name v)) := by
  have hi : Integrity r.store := hrun.integrity integrity_empty
  obtain ⟨s, outages⟩ := r
  obtain rfl : outages = [] := hcalm
  refine ⟨⟨?_, fun ⟨v, hv, h⟩ => publish_of_acceptable hi hfresh hv h⟩,
    fun e => ⟨?_, fun h => ⟨_, publish_of_refused h⟩⟩,
    fun hcs v e t h => publish_clash hi hfresh hcs h⟩
  · rintro ⟨p, t, hok⟩
    rcases acceptable_or_refused s name version ownerId q with h | ⟨e, h⟩
    · exact h
    · rw [publish_of_refused h] at hok
      cases hok
  · rintro ⟨t, herr⟩
    rcases acceptable_or_refused s name version ownerId q with ⟨v, hv, h⟩ | ⟨e', h⟩
    · obtain ⟨p, u, hok⟩ := publish_of_acceptable hi hfresh hv h
      rw [hok] at herr
      cases herr
    · rw [publish_of_refused h] at herr
      cases herr
      exact h

/-- After `tokens` 1.0.0, its owner publishes two contracts of one name from two sources as 1.1.0;
with one source instead of two they are refused, and so is 1.0.0 once more. -/
theorem publish_accepts_iff_namesakes : ∃ (r : Registry) (sup : Supply) (q again : PublishRequest),
    Run Anything .empty r ∧ r.outages = [] ∧ sup.Fresh r.store ∧
      (∃ p t, publish sup "tokens" "1.1.0" "k1" q r = .ok p t) ∧
      (∃ t, publish sup "tokens" "1.1.0" "k1" again r =
        .error (.invalidRequest "contract Token (a.sol) is listed more than once") t) ∧
      (∃ t, publish sup "tokens" "1.0.0" "k1" q r = .error (.versionExists "tokens" "1.0.0") t) ∧
      ∀ v e t, Store.publish (q.bundle sup "tokens" v "k1") r.store = .error e t →
        (r.store.package? "tokens" v).isSome := by
  let token (name sourcePath : String) : ContractSubmission :=
    ⟨name, sourcePath, some .null, none, none, none, none⟩
  let q : PublishRequest :=
    ⟨"evm", "", none, none, [], [token " Token" "a.sol", token "Token" "b.sol"]⟩
  let again : PublishRequest :=
    ⟨"evm", "", none, none, [], [token " Token" "a.sol", token "Token" "a.sol"]⟩
  let numbers : Supply := ⟨⟨0⟩, fun n => toString n, "secret"⟩
  let r := (Event.request numbers (.publish "tokens" "1.0.0" "k1" q)).apply .empty
  have hrun : Run Anything .empty r := .snoc .nil trivial
  have hstored : r.outages = [] ∧ r.store.owner? "tokens" = some "k1" ∧
      (r.store.package? "tokens" "1.0.0").isSome ∧ r.store.package? "tokens" "1.1.0" = none ∧
      Version.normalize? "1.0.0" = some "1.0.0" ∧ Version.normalize? "1.1.0" = some "1.1.0" := by
    decide +kernel
  obtain ⟨hcalm, howner, hthere, habsent, hold, hnew⟩ := hstored
  have hname : Naming.PackageName "tokens" :=
    Naming.packageName_of_isPackageName (by decide +kernel)
  have hnamed : ∀ c ∈ q.contracts, Naming.ContractName (Text.trim c.name) := fun c hc =>
    Naming.contractName_of_isContractName
      ((by decide +kernel : ∀ c ∈ q.contracts, Naming.isContractName (Text.trim c.name)) c hc)
  have hcompatible : Compatible q.contracts := ⟨hnamed, by decide +kernel⟩
  have hown : ∀ o, r.store.owner? "tokens" = some o → o = "k1" := by
    rw [howner]
    rintro o ⟨⟩
    rfl
  have hfaulty : Faulty again.contracts "contract Token (a.sol) is listed more than once" := by
    have hreason :
        "contract " ++ Text.trim "Token" ++ " (" ++ "a.sol" ++ ") is listed more than once" =
          "contract Token (a.sol) is listed more than once" := by decide +kernel
    have hfirst : Compatible [token " Token" "a.sol"] :=
      ⟨fun c hc => hnamed c (List.mem_cons.2 (.inl (List.mem_singleton.1 hc))), by decide +kernel⟩
    have hagain : Fault [token " Token" "a.sol"] (token "Token" "a.sol") _ :=
      .again (Naming.contractName_of_isContractName (by decide +kernel)) (by decide +kernel)
    exact hreason ▸ Faulty.first hfirst hagain
  have hne : q.contracts ≠ [] := List.cons_ne_nil _ _
  obtain ⟨sup, hfresh⟩ := Supply.exists_fresh r.store
  obtain ⟨hok, -, hclash⟩ := publish_accepts_iff hrun hcalm hfresh "tokens" "1.1.0" "k1" q
  obtain ⟨-, hagain, -⟩ := publish_accepts_iff hrun hcalm hfresh "tokens" "1.1.0" "k1" again
  obtain ⟨-, htwice, -⟩ := publish_accepts_iff hrun hcalm hfresh "tokens" "1.0.0" "k1" q
  refine ⟨r, sup, q, again, hrun, hcalm, hfresh,
    hok.2 ⟨"1.1.0", hnew, hname, hne, hcompatible, hown, habsent⟩,
    (hagain _).2 (.contracts hname hnew hfaulty),
    (htwice _).2 (.stored hname hold hne hcompatible hown hthere), fun v e t h => ?_⟩
  exact (hclash (publishable_iff.2 ⟨hne, hcompatible⟩) v e t h).1

end Registry

end BuildRegistry
