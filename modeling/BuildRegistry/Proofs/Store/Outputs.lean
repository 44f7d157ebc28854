import BuildRegistry.Proofs.Store.Commands
import BuildRegistry.Proofs.Store.Integrity

/-
  Build outputs in their slots. A slot is a contract and a kind. To store an output is one of three
  things, told apart by the state before (`storeArtifact_run`): where its slot is taken, the row
  there gets the new content and keeps everything else, its id and creation time included, whatever
  id the new output has; where the slot is free, the output is added as it is; and it is refused if
  its id is taken, or its contract is not there.

  Keys have to be unique and references good, as they are after every history of a store
  (`Integrity`): only then is one row all that is overwritten, and the contract of a slot that is
  taken sure to be there.

  Main statement: `storeArtifact_upserts`.
-/

namespace BuildRegistry.Store

variable {s t : Store} {a r old : Artifact}

/-! ## Slots -/

theorem sameSlot_iff : old.sameSlot a = true ↔
    old.contractId = a.contractId ∧ old.kind = a.kind := by
  simp [Artifact.sameSlot]

/-- What stands in the slot of an output. -/
theorem artifact?_slot (s : Store) (a : Artifact) :
    s.artifact? a.contractId a.kind = s.artifacts.find? fun b => b.sameSlot a := rfl

theorem artifact?_eq_none_iff :
    s.artifact? a.contractId a.kind = none ↔ ∀ b ∈ s.artifacts, b.sameSlot a = false := by
  simp [artifact?_slot]

theorem mem_of_artifact? (h : s.artifact? a.contractId a.kind = some old) :
    old ∈ s.artifacts ∧ old.contractId = a.contractId ∧ old.kind = a.kind := by
  rw [artifact?_slot] at h
  obtain ⟨hslot, -⟩ := List.find?_eq_some_iff_append.1 h
  exact ⟨List.mem_of_find?_eq_some h, sameSlot_iff.1 hslot⟩

theorem artifact?_of_sameSlot (hi : Integrity s) (hold : old ∈ s.artifacts)
    (hslot : old.sameSlot a = true) : s.artifact? a.contractId a.kind = some old := by
  obtain ⟨hcontract, hkind⟩ := sameSlot_iff.1 hslot
  have hfound := find?_eq_some_of_key hi.artifactSlots hold
  rw [artifact?, ← hcontract, ← hkind]
  simpa [Bool.decide_and] using hfound

theorem artifact?_overwriting (s : Store) (a : Artifact) :
    (s.overwriting a).artifact? a.contractId a.kind =
      (s.artifact? a.contractId a.kind).map (·.overwrittenBy a) := by
  have hslot : ∀ b : Artifact,
      (if b.sameSlot a then b.overwrittenBy a else b).sameSlot a = b.sameSlot a := by
    intro b
    split <;> rfl
  rw [artifact?_slot, artifact?_slot, overwriting]
  induction s.artifacts with
  | nil => rfl
  | cons b bs ih =>
    rw [List.map_cons, List.find?_cons, List.find?_cons, hslot, ih]
    cases hb : b.sameSlot a <;> simp

theorem overwriting_eq_self (h : ∀ b ∈ s.artifacts, b.sameSlot a = true → b.overwrittenBy a = b) :
    s.overwriting a = s := by
  have hrows : (s.artifacts.map fun b => if b.sameSlot a then b.overwrittenBy a else b) =
      s.artifacts.map id := by
    refine List.map_congr_left fun b hb => ?_
    split
    · rename_i hslot
      exact h b hb hslot
    · rfl
  rw [overwriting, hrows, List.map_id]

theorem overwriting_overwriting (s : Store) (a : Artifact) :
    (s.overwriting a).overwriting a = s.overwriting a := by
  refine overwriting_eq_self fun b hb hslot => ?_
  obtain ⟨b, -, rfl⟩ := List.mem_map.1 hb
  split
  · rfl
  · rename_i hother
    rw [if_neg hother] at hslot
    exact absurd hslot hother

/-! ## Storing -/

theorem storeArtifact_run (a : Artifact) (s : Store) :
    storeArtifact a s = match s.artifact? a.contractId a.kind with
      | some old => .ok (old.overwrittenBy a) (s.overwriting a)
      | none =>
        if s.artifacts.any (·.id = a.id) then .error (.alreadyExists (artifactEntry a)) s
        else if (s.contractById? a.contractId).isNone then
          .error (.queryFailed (artifactEntry a) .danglingReference) s
        else .ok a { s with artifacts := s.artifacts ++ [a] } := by
  cases hslot : s.artifact? a.contractId a.kind with
  | some old =>
    have hput : putArtifact a s = .ok () (s.overwriting a) := by
      rw [putArtifact_run, hslot]
      rfl
    exact (bind_of_ok hput).trans (by rw [getArtifact_run, artifact?_overwriting, hslot]; rfl)
  | none =>
    have hput := putArtifact_run a s
    rw [if_neg (by simp [hslot])] at hput
    dsimp only
    split
    · rename_i hid
      rw [if_pos hid] at hput
      exact bind_of_error hput
    · rename_i hid
      rw [if_neg hid] at hput
      split
      · rename_i hhome
        rw [if_pos hhome] at hput
        exact bind_of_error hput
      · rename_i hhome
        rw [if_neg hhome] at hput
        have hfound : (s.artifacts ++ [a]).find? (fun b => b.sameSlot a) = some a := by
          rw [List.find?_append, ← artifact?_slot, hslot]
          simp [Artifact.sameSlot]
        exact (bind_of_ok hput).trans (by rw [getArtifact_run, artifact?_slot, hfound])

/-- All that storing an output may do if it succeeds. -/
theorem storeArtifact_ok_iff : storeArtifact a s = .ok r t ↔
    (∃ old, s.artifact? a.contractId a.kind = some old ∧ r = old.overwrittenBy a ∧
      t = s.overwriting a) ∨
    s.artifact? a.contractId a.kind = none ∧ a.id ∉ s.artifacts.map (·.id) ∧
      a.contractId ∈ s.contracts.map (·.id) ∧ r = a ∧
      t = { s with artifacts := s.artifacts ++ [a] } := by
  have hid : s.artifacts.any (·.id = a.id) = true ↔ a.id ∈ s.artifacts.map (·.id) := by simp
  have hhome : (s.contractById? a.contractId).isNone = true ↔
      a.contractId ∉ s.contracts.map (·.id) := by
    refine ⟨fun hnone hmem => not_isNone_of_mem_key hmem hnone, fun hmem => ?_⟩
    by_contra hsome
    exact hmem (mem_key_of_find? (by simpa [contractById?] using hsome))
  rw [storeArtifact_run]
  cases s.artifact? a.contractId a.kind with
  | some old => simp [eq_comm]
  | none =>
    dsimp only
    split
    · simp [hid.1 ‹_›]
    · split
      · simp [hhome.1 ‹_›]
      · simp [mt hid.2 ‹_›, not_not.1 (mt hhome.2 ‹_›), eq_comm]

/-- What was stored is there, and storing it again changes nothing. -/
theorem storeArtifact_again (h : storeArtifact a s = .ok r t) :
    t.artifact? a.contractId a.kind = some r ∧ storeArtifact a t = .ok r t := by
  have hsettled : t.artifact? a.contractId a.kind = some r ∧ r.overwrittenBy a = r ∧
      t.overwriting a = t := by
    rcases storeArtifact_ok_iff.1 h with ⟨old, hold, rfl, rfl⟩ | ⟨hfree, -, -, rfl, rfl⟩
    · exact ⟨by rw [artifact?_overwriting, hold]; rfl, rfl, overwriting_overwriting s a⟩
    · rw [artifact?_slot] at hfree ⊢
      refine ⟨by rw [List.find?_append, hfree]; simp [Artifact.sameSlot], rfl,
        overwriting_eq_self fun b hb hslot => ?_⟩
      rcases List.mem_append.1 hb with hb | hb
      · exact absurd hslot (List.find?_eq_none.1 hfree b hb)
      · rw [List.mem_singleton.1 hb]
        rfl
  obtain ⟨hfound, hrow, hstore⟩ := hsettled
  exact ⟨hfound, storeArtifact_ok_iff.2 (.inl ⟨r, hfound, hrow.symm, hstore.symm⟩)⟩

/-- One output in the place of another, and nothing else changed. -/
def Replaces (old new : Artifact) (s t : Store) : Prop :=
  ∃ before after, s.artifacts = before ++ old :: after ∧
    t = { s with artifacts := before ++ new :: after }

theorem replaces_overwriting (hi : Integrity s) (hold : old ∈ s.artifacts)
    (hslot : old.sameSlot a = true) :
    Replaces old (old.overwrittenBy a) s (s.overwriting a) := by
  obtain ⟨before, after, hrows, hmap⟩ := map_at_key hi.artifactSlots hold
    (f := fun b => if b.sameSlot a then b.overwrittenBy a else b) fun b hne => if_neg fun hb => by
      obtain ⟨hcontract, hkind⟩ := sameSlot_iff.1 hb
      obtain ⟨hcontract', hkind'⟩ := sameSlot_iff.1 hslot
      exact hne (Prod.ext (hcontract.trans hcontract'.symm) (hkind.trans hkind'.symm))
  rw [if_pos hslot] at hmap
  exact ⟨before, after, hrows, by rw [overwriting, hmap]⟩

/-- Where the slot is taken, the contract is there. -/
theorem contract_of_slot (hi : Integrity s) (hold : old ∈ s.artifacts)
    (hslot : old.contractId = a.contractId) : a.contractId ∈ s.contracts.map (·.id) :=
  hslot ▸ hi.artifactHomes old hold

theorem storeArtifact_succeeds (hi : Integrity s) : (∃ r t, storeArtifact a s = .ok r t) ↔
    a.contractId ∈ s.contracts.map (·.id) ∧
      ((∃ old ∈ s.artifacts, old.contractId = a.contractId ∧ old.kind = a.kind) ∨
        a.id ∉ s.artifacts.map (·.id)) := by
  simp only [storeArtifact_ok_iff]
  constructor
  · rintro ⟨r, t, ⟨old, hfound, -⟩ | ⟨-, hid, hhome, -⟩⟩
    · obtain ⟨hold, hcontract, hkind⟩ := mem_of_artifact? hfound
      exact ⟨contract_of_slot hi hold hcontract, .inl ⟨old, hold, hcontract, hkind⟩⟩
    · exact ⟨hhome, .inr hid⟩
  · rintro ⟨hhome, h⟩
    cases hfound : s.artifact? a.contractId a.kind with
    | some old => exact ⟨_, _, .inl ⟨old, rfl, rfl, rfl⟩⟩
    | none =>
      refine ⟨_, _, .inr ⟨rfl, h.resolve_left ?_, hhome, rfl, rfl⟩⟩
      rintro ⟨old, hold, hslot⟩
      exact absurd (sameSlot_iff.2 hslot) (by simp [artifact?_eq_none_iff.1 hfound old hold])

/-- An output of one of the kinds that is stored is found with its content and hash. The row that
stood in its slot keeps everything but these two, its id and creation time among it; if none did,
the output is added as it is. All other rows of all tables stay, and storing it again changes
nothing. It is stored exactly when its contract is there and its slot is taken or its id free. -/
theorem storeArtifact_upserts {s : Store} (hi : Integrity s) {a : Artifact} {kind : ArtifactKind}
    (hkind : a.kind = kind.name) :
    (∀ r t, storeArtifact a s = .ok r t →
      (getArtifact a.contractId kind.name t = .ok r t ∧
        r.content = a.content ∧ r.contentHash = a.contentHash) ∧
      (∀ old ∈ s.artifacts, old.contractId = a.contractId → old.kind = a.kind →
        r = { old with content := a.content, contentHash := a.contentHash } ∧
          Replaces old r s t) ∧
      ((∀ old ∈ s.artifacts, ¬ (old.contractId = a.contractId ∧ old.kind = a.kind)) →
        r = a ∧ t = { s with artifacts := s.artifacts ++ [a] }) ∧
      storeArtifact a t = .ok r t) ∧
    ((∃ r t, storeArtifact a s = .ok r t) ↔ a.contractId ∈ s.contracts.map (·.id) ∧
      ((∃ old ∈ s.artifacts, old.contractId = a.contractId ∧ old.kind = a.kind) ∨
        a.id ∉ s.artifacts.map (·.id))) := by
  refine ⟨fun r t h => ?_, storeArtifact_succeeds hi⟩
  obtain ⟨hfound, hagain⟩ := storeArtifact_again h
  rw [← hkind, getArtifact_run, hfound]
  rcases storeArtifact_ok_iff.1 h with ⟨b, hb, rfl, rfl⟩ | ⟨hfree, -, -, rfl, rfl⟩
  · refine ⟨⟨rfl, rfl, rfl⟩, fun old hold hcontract hkind => ?_, fun hnone => ?_, hagain⟩
    · have hslot := sameSlot_iff.2 ⟨hcontract, hkind⟩
      obtain rfl : b = old := Option.some.inj (hb.symm.trans (artifact?_of_sameSlot hi hold hslot))
      exact ⟨rfl, replaces_overwriting hi hold hslot⟩
    · obtain ⟨hold, hslot⟩ := mem_of_artifact? hb
      exact absurd hslot (hnone b hold)
  · refine ⟨⟨rfl, rfl, rfl⟩, fun old hold hcontract hkind => ?_, fun _ => ⟨rfl, rfl⟩, hagain⟩
    exact absurd (sameSlot_iff.2 ⟨hcontract, hkind⟩)
      (by simp [artifact?_eq_none_iff.1 hfree old hold])

/-- A slot that is taken gets the content of an output with the id of another one, and a free slot
refuses that id. -/
theorem storeArtifact_upserts_taken_id : ∃ s a b old r t, Integrity s ∧ old ∈ s.artifacts ∧
    a.id ≠ old.id ∧ a.id ∈ s.artifacts.map (·.id) ∧ storeArtifact a s = .ok r t ∧
    getArtifact a.contractId a.kind t = .ok r t ∧ r.id = old.id ∧ r.content = a.content ∧
    Replaces old r s t ∧ storeArtifact a t = .ok r t ∧ b.id = a.id ∧
    ¬ ∃ r t, storeArtifact b s = .ok r t := by
  let output (id kind : String) (content : Bytes) : Artifact :=
    ⟨id, "c", kind, content, "", ⟨0⟩⟩
  let s : Store :=
    { packages := [⟨"p", "tokens", "1.0.0", "evm", "", none, none, "", "k1", ⟨0⟩⟩]
      owners := []
      contracts := [⟨"c", "p", "Token", "", "", ⟨0⟩⟩]
      artifacts := [output "x" "abi" [1], output "y" "bytecode" [2]]
      deployments := []
      keys := [] }
  have hi : Integrity s := by constructor <;> decide +kernel
  have hold : output "x" "abi" [1] ∈ s.artifacts := List.mem_cons_self
  have habi : (output "y" "abi" [3]).kind = ArtifactKind.abi.name := rfl
  have hlayout : (output "y" "storage-layout" [4]).kind = ArtifactKind.storageLayout.name := rfl
  obtain ⟨hdone, hiff⟩ := storeArtifact_upserts hi habi
  obtain ⟨r, t, h⟩ := hiff.2 ⟨by decide +kernel, .inl ⟨_, hold, rfl, rfl⟩⟩
  obtain ⟨⟨hget, hcontent, -⟩, htaken, -, hagain⟩ := hdone r t h
  obtain ⟨hrow, hreplaces⟩ := htaken _ hold rfl rfl
  refine ⟨s, _, output "y" "storage-layout" [4], _, r, t, hi, hold, by decide, by decide +kernel, h,
    hget, by rw [hrow], hcontent, hreplaces, hagain, rfl, ?_⟩
  rw [(storeArtifact_upserts hi hlayout).2]
  decide +kernel

end BuildRegistry.Store
