import BuildRegistry.Proofs.Publication.Checks
import BuildRegistry.Proofs.Runs
import BuildRegistry.Proofs.Version

/-
  What publications leave in the store. Versions are canonical, contracts have names that may name
  directories, and every output is of a known kind and stored with the hash of its content
  (`WellFormed`). A bundle made of a request that passed the checks has all this, and nothing else
  adds versions, contracts or outputs.
-/

namespace BuildRegistry

theorem ArtifactKind.name_of_ofName? {n : String} {k : ArtifactKind} (h : ofName? n = some k) :
    k.name = n := by
  simpa using List.find?_some h

/-- An output of a known kind, with the hash of its content. -/
def Artifact.Sound (a : Artifact) : Prop := a.kind?.isSome ∧ a.contentHash = Sha256.hex a.content

structure ContractBundle.Sound (d : ContractBundle) : Prop where
  name : Naming.isContractName d.contract.name
  outputs : ∀ a ∈ d.artifacts, a.Sound

/-! ## What a request is stored as -/

namespace ContractSubmission

theorem sound_of_mem_artifacts {s : Supply} {contractId : String} {n : Nat}
    {outputs : List (ArtifactKind × Bytes)} {a : Artifact}
    (h : a ∈ artifacts s contractId n outputs) : a.Sound := by
  induction outputs generalizing n with
  | nil => cases h
  | cons o rest ih =>
    rcases List.mem_cons.1 h with rfl | h
    · refine ⟨?_, rfl⟩
      rw [Artifact.kind?, ArtifactKind.ofName?_name]
      rfl
    · exact ih h

theorem sound_of_mem_bundles {s : Supply} {packageId : String} {n : Nat}
    {cs : List ContractSubmission} (hcs : ∀ c ∈ cs, Naming.ContractName (Text.trim c.name))
    {d : ContractBundle} (h : d ∈ bundles s packageId n cs) : d.Sound := by
  induction cs generalizing n with
  | nil => cases h
  | cons c rest ih =>
    rw [List.forall_mem_cons] at hcs
    rcases List.mem_cons.1 h with rfl | h
    · exact ⟨Naming.isContractName_trim_iff.2 hcs.1, fun a ha => sound_of_mem_artifacts ha⟩
    · exact ih hcs.2 h

end ContractSubmission

namespace Store

/-! ## The invariant -/

structure WellFormed (s : Store) : Prop where
  versions : ∀ p ∈ s.packages, ∃ spelling, Version.normalize? spelling = some p.version
  contractNames : ∀ c ∈ s.contracts, Naming.isContractName c.name
  outputs : ∀ a ∈ s.artifacts, a.Sound

theorem wellFormed_empty : WellFormed empty := ⟨nofun, nofun, nofun⟩

abbrev KeepsForm {α : Type} (act : StoreM α) : Prop :=
  Steps (fun s t => WellFormed s → WellFormed t) act

theorem wellFormed_insertPackage {p : Package}
    (hp : ∃ spelling, Version.normalize? spelling = some p.version) :
    KeepsForm (insertPackage p) := by
  intro s hs
  rw [insertPackage_run]
  split
  · exact hs
  · refine { hs with versions := ?_ }
    exact List.forall_mem_append.2 ⟨hs.versions, List.forall_mem_singleton.2 hp⟩

theorem wellFormed_insertContract {c : Contract} (hc : Naming.isContractName c.name) :
    KeepsForm (insertContract c) := by
  intro s hs
  rw [insertContract_run]
  split
  · exact hs
  · split
    · exact hs
    · refine { hs with contractNames := ?_ }
      exact List.forall_mem_append.2 ⟨hs.contractNames, List.forall_mem_singleton.2 hc⟩

theorem wellFormed_putArtifact {a : Artifact} (ha : a.Sound) : KeepsForm (putArtifact a) := by
  intro s hs
  rw [putArtifact_run]
  split
  · refine { hs with outputs := fun b hb => ?_ }
    obtain ⟨old, hold, rfl⟩ := List.mem_map.1 hb
    split
    · -- what is overwritten keeps its kind
      exact ⟨(hs.outputs old hold).1, ha.2⟩
    · exact hs.outputs old hold
  · split
    · exact hs
    · split
      · exact hs
      · refine { hs with outputs := ?_ }
        exact List.forall_mem_append.2 ⟨hs.outputs, List.forall_mem_singleton.2 ha⟩

theorem wellFormed_insertBundle {b : Bundle}
    (hp : ∃ spelling, Version.normalize? spelling = some b.package.version)
    (hcs : ∀ d ∈ b.contracts, d.Sound) : KeepsForm (insertBundle b) :=
  steps_bind (wellFormed_insertPackage hp) fun _ => steps_forM fun d hd =>
    steps_bind (wellFormed_insertContract (hcs d hd).name) fun _ => steps_forM fun a ha =>
      wellFormed_putArtifact ((hcs d hd).outputs a ha)

theorem wellFormed_of_change {calm : Prop} {sup : Supply} {a : Registry.Action} {s t : Store}
    (h : Registry.Change calm sup a s t) (hs : WellFormed s) : WellFormed t := by
  cases h with
  | @published name _ v ownerId q _ u _ hv hpub hclaim =>
    have hu : WellFormed u := by
      have hkept := wellFormed_insertBundle (b := q.bundle sup name v ownerId) ⟨_, hv⟩
        (fun d hd => ContractSubmission.sound_of_mem_bundles
          (Registry.publishable_iff.1 hpub.publishable).2.names hd) s hs
      rwa [hpub.written, endState_ok] at hkept
    rcases hclaim with rfl | ⟨-, rfl⟩
    · unfold claiming
      split
      · exact hu
      · exact { hu with }
    · exact hu
  | deleted =>
    exact ⟨fun p hp => hs.versions p (List.mem_filter.1 hp).1,
      fun c hc => hs.contractNames c (List.mem_filter.1 hc).1,
      fun a ha => hs.outputs a (List.mem_filter.1 ha).1⟩
  | nothing => exact hs
  | recorded | marked | keysChanged => exact { hs with }

end Store

theorem Registry.Run.wellFormed {P : Registry → Registry.Event → Prop} {r : Registry}
    (hrun : Run P .empty r) : r.store.WellFormed :=
  hrun.keeps_of_change Store.WellFormed Store.wellFormed_of_change Store.wellFormed_empty

end BuildRegistry
