import Mathlib.Data.List.Basic
import BuildRegistry.Bytecode

/-
  Compiler metadata at the end of code. `Trailed code body metadata` says that the code is a body,
  then metadata with the header of a map of one to five entries, then the length of the metadata in
  two bytes. Code falls into such parts in at most one way (`Trailed.unique`). Stripping takes off
  exactly the metadata and its length, and leaves code that has none alone, however short it is and
  whatever length its last two bytes spell.

  Codes match when they are equal or equal without their metadata, where something has to be left of
  them. Since empty remains match nothing but the same code, matching is an equivalence.

  Main statement: `compare_ignores_metadata`.
-/

namespace BuildRegistry.Bytecode

/-- A length in two bytes, high byte first. -/
def lengthBytes (n : Nat) : Bytes := [UInt8.ofNat (n / 256), UInt8.ofNat (n % 256)]

/-- The code is a body, metadata, and the length of the metadata. -/
structure Trailed (code body metadata : Bytes) : Prop where
  parts : code = body ++ metadata ++ lengthBytes metadata.length
  short : metadata.length < 0x10000
  header : ∃ b ∈ metadata.head?, 0xa1 ≤ b ∧ b ≤ 0xa5

/-! ## The length at the end -/

theorem lengthBytes_value {n : Nat} (h : n < 0x10000) :
    256 * (UInt8.ofNat (n / 256)).toNat + (UInt8.ofNat (n % 256)).toNat = n := by
  simp only [UInt8.toNat_ofNat']
  omega

theorem lengthBytes_of_value (a b : UInt8) : lengthBytes (256 * a.toNat + b.toNat) = [a, b] := by
  have ha := a.toNat_lt
  have hb := b.toNat_lt
  have hhigh : (256 * a.toNat + b.toNat) / 256 = a.toNat := by omega
  have hlow : (256 * a.toNat + b.toNat) % 256 = b.toNat := by omega
  rw [lengthBytes, hhigh, hlow, UInt8.ofNat_toNat, UInt8.ofNat_toNat]

theorem trailerLength_append (front : Bytes) (a b : UInt8) :
    trailerLength (front ++ [a, b]) = 256 * a.toNat + b.toNat := by
  simp [trailerLength]

theorem trailerLength_of_short {code : Bytes} (h : code.length < 2) : trailerLength code = 0 := by
  match code with
  | [] => rfl
  | [_] => rfl

/-! ## Stripping -/

section Stripping

variable {code body metadata body' metadata' : Bytes}

/-- What is stripped, by the last two bytes and what stands in front of them. -/
theorem stripMetadata_append (front : Bytes) (a b : UInt8) {n : Nat}
    (hn : 256 * a.toNat + b.toNat = n) : stripMetadata (front ++ [a, b]) =
      if n ≠ 0 ∧ n ≤ front.length ∧ (front.drop (front.length - n)).head?.any isMetadataHeader then
        front.take (front.length - n)
      else front ++ [a, b] := by
  unfold stripMetadata
  dsimp only
  rw [trailerLength_append, hn]
  by_cases hfits : n ≠ 0 ∧ n ≤ front.length
  · obtain ⟨hzero, hle⟩ := hfits
    have hstart : (front ++ [a, b]).length - 2 - n = front.length - n := by simp
    -- the metadata is not empty, so that its first byte stands in front of the length
    have hne : front.drop (front.length - n) ≠ [] := by
      rw [Ne, List.drop_eq_nil_iff]
      omega
    rw [if_neg (by simp; omega), hstart, List.drop_append_of_le_length (Nat.sub_le _ _),
      List.take_append_of_le_length (Nat.sub_le _ _), List.head?_append_of_ne_nil _ hne]
    simp only [hzero, hle, ne_eq, not_false_eq_true, true_and]
  · rw [if_pos (by simp; omega), if_neg fun h => hfits ⟨h.1, h.2.1⟩]

theorem Trailed.stripMetadata_eq (h : Trailed code body metadata) : stripMetadata code = body := by
  obtain ⟨b, hb, hlow, hhigh⟩ := h.header
  have hne : metadata ≠ [] := by
    rintro rfl
    cases hb
  have hlength : (body ++ metadata).length - metadata.length = body.length := by simp
  rw [h.parts, lengthBytes, stripMetadata_append _ _ _ (lengthBytes_value h.short), hlength,
    List.drop_left, List.take_left, if_pos]
  refine ⟨by simpa using hne, by simp, ?_⟩
  rw [Option.mem_def.1 hb]
  simp [isMetadataHeader, hlow, hhigh]

/-- Code is as it was, or it has lost its metadata. -/
theorem stripMetadata_cases (code : Bytes) :
    stripMetadata code = code ∨ ∃ metadata, Trailed code (stripMetadata code) metadata := by
  by_cases hlength : code.length < 2
  · refine .inl ?_
    unfold stripMetadata
    rw [trailerLength_of_short hlength]
    exact if_pos (.inl rfl)
  · -- two bytes at the end, and what stands in front of them
    obtain ⟨a, b, hlast⟩ : ∃ a b, code.drop (code.length - 2) = [a, b] :=
      List.length_eq_two.1 (by rw [List.length_drop]; omega)
    rw [← List.take_append_drop (code.length - 2) code, hlast]
    generalize code.take (code.length - 2) = front
    rw [stripMetadata_append front a b rfl]
    split
    · rename_i hstrip
      obtain ⟨hzero, hle, hheader⟩ := hstrip
      obtain ⟨c, hc, hmap⟩ := (Option.any_eq_true _ _).1 hheader
      have hsize : (front.drop (front.length - (256 * a.toNat + b.toNat))).length =
          256 * a.toNat + b.toNat := by
        rw [List.length_drop]
        omega
      refine .inr ⟨_, ?_, ?_, c, hc, by simpa [isMetadataHeader] using hmap⟩
      · rw [hsize, lengthBytes_of_value, List.take_append_drop]
      · have ha := a.toNat_lt
        have hb := b.toNat_lt
        omega
    · exact .inl rfl

theorem stripMetadata_of_untrailed (h : ∀ body metadata, ¬ Trailed code body metadata) :
    stripMetadata code = code :=
  (stripMetadata_cases code).resolve_right fun ⟨metadata, htrailed⟩ => h _ metadata htrailed

theorem Trailed.trailerLength_eq (h : Trailed code body metadata) :
    trailerLength code = metadata.length := by
  rw [h.parts, lengthBytes, trailerLength_append, lengthBytes_value h.short]

/-- Code has one body and one piece of metadata at most. -/
theorem Trailed.unique (h : Trailed code body metadata) (h' : Trailed code body' metadata') :
    body = body' ∧ metadata = metadata' := by
  have hbody : body = body' := h.stripMetadata_eq.symm.trans h'.stripMetadata_eq
  have hlength : metadata.length = metadata'.length :=
    h.trailerLength_eq.symm.trans h'.trailerLength_eq
  have hparts := h.parts.symm.trans h'.parts
  rw [hbody, hlength, List.append_assoc, List.append_assoc, List.append_cancel_left_eq,
    List.append_cancel_right_eq] at hparts
  exact ⟨hbody, hparts⟩

end Stripping

/-! ## Comparison -/

section Comparison

variable {expected onChain a b c : Bytes}

/-- Something is left of both codes without their metadata, and it is the same. -/
def SameRemains (a b : Bytes) : Prop := stripMetadata a = stripMetadata b ∧ stripMetadata a ≠ []

theorem SameRemains.symm (h : SameRemains a b) : SameRemains b a := ⟨h.1.symm, h.1 ▸ h.2⟩

theorem SameRemains.trans (h : SameRemains a b) (h' : SameRemains b c) : SameRemains a c :=
  ⟨h.1.trans h'.1, h.2⟩

theorem compare_of_eq : compare a a = .full := if_pos rfl

theorem compare_of_sameRemains (hne : expected ≠ onChain) (h : SameRemains expected onChain) :
    compare expected onChain = .partly "Bytecode matches except for compiler metadata" := by
  rw [compare, if_neg hne, if_pos ⟨h.2, h.1⟩]

theorem compare_of_different (hne : expected ≠ onChain) (h : ¬ SameRemains expected onChain) :
    compare expected onChain = .none "Deployed bytecode does not match" := by
  rw [compare, if_neg hne, if_neg fun hremains => h ⟨hremains.2, hremains.1⟩]

theorem compare_cases (expected onChain : Bytes) :
    expected = onChain ∨ expected ≠ onChain ∧ SameRemains expected onChain ∨
      expected ≠ onChain ∧ ¬ SameRemains expected onChain := by
  by_cases heq : expected = onChain
  · exact .inl heq
  · exact .inr ((Classical.em (SameRemains expected onChain)).imp (⟨heq, ·⟩) (⟨heq, ·⟩))

theorem kind_eq_full_iff : (compare expected onChain).kind = .full ↔ expected = onChain := by
  rcases compare_cases expected onChain with rfl | ⟨hne, h⟩ | ⟨hne, h⟩
  · simp [compare_of_eq, MatchReport.full]
  · simp [compare_of_sameRemains hne h, MatchReport.partly, hne]
  · simp [compare_of_different hne h, MatchReport.none, hne]

theorem kind_eq_partly_iff : (compare expected onChain).kind = .partly ↔
    expected ≠ onChain ∧ SameRemains expected onChain := by
  rcases compare_cases expected onChain with rfl | ⟨hne, h⟩ | ⟨hne, h⟩
  · simp [compare_of_eq, MatchReport.full]
  · simp [compare_of_sameRemains hne h, MatchReport.partly, hne, h]
  · simp [compare_of_different hne h, MatchReport.none, h]

theorem kind_eq_none_iff : (compare expected onChain).kind = .none ↔
    expected ≠ onChain ∧ ¬ SameRemains expected onChain := by
  rcases compare_cases expected onChain with rfl | ⟨hne, h⟩ | ⟨hne, h⟩
  · simp [compare_of_eq, MatchReport.full]
  · simp [compare_of_sameRemains hne h, MatchReport.partly, h]
  · simp [compare_of_different hne h, MatchReport.none, hne, h]

theorem isMatch_iff : (compare expected onChain).isMatch = true ↔
    expected = onChain ∨ SameRemains expected onChain := by
  rcases compare_cases expected onChain with rfl | ⟨hne, h⟩ | ⟨hne, h⟩
  · simp [compare_of_eq, MatchReport.isMatch, MatchReport.full]
  · simp [compare_of_sameRemains hne h, MatchReport.isMatch, MatchReport.partly, h]
  · simp [compare_of_different hne h, MatchReport.isMatch, MatchReport.none, hne, h]

theorem equivalence_isMatch : Equivalence fun a b => (compare a b).isMatch = true where
  refl a := isMatch_iff.2 (.inl rfl)
  symm h := isMatch_iff.2 ((isMatch_iff.1 h).imp Eq.symm SameRemains.symm)
  trans h h' := by
    rcases isMatch_iff.1 h with rfl | hremains
    · exact h'
    · rcases isMatch_iff.1 h' with rfl | hremains'
      · exact h
      · exact isMatch_iff.2 (.inr (hremains.trans hremains'))

theorem compare_comm (a b : Bytes) : compare a b = compare b a := by
  rcases compare_cases a b with rfl | ⟨hne, h⟩ | ⟨hne, h⟩
  · rfl
  · rw [compare_of_sameRemains hne h, compare_of_sameRemains hne.symm h.symm]
  · rw [compare_of_different hne h, compare_of_different hne.symm fun h' => h h'.symm]

end Comparison

/-- Stripping code gives the body of code that has metadata at its end, and any other code as it is;
there is never more than one body. Codes match in full exactly when they are equal, and in part
when they differ and the same is left of them, if anything is. To match is an equivalence, and a
comparison tells the same in either order. -/
theorem compare_ignores_metadata :
    (∀ code body metadata, Trailed code body metadata → stripMetadata code = body) ∧
    (∀ code, (∀ body metadata, ¬ Trailed code body metadata) → stripMetadata code = code) ∧
    (∀ code body metadata body' metadata', Trailed code body metadata →
      Trailed code body' metadata' → body = body' ∧ metadata = metadata') ∧
    (∀ expected onChain,
      ((compare expected onChain).kind = .full ↔ expected = onChain) ∧
      ((compare expected onChain).kind = .partly ↔ expected ≠ onChain ∧
        stripMetadata expected = stripMetadata onChain ∧ stripMetadata expected ≠ []) ∧
      ((compare expected onChain).kind = .none ↔ expected ≠ onChain ∧
        ¬ (stripMetadata expected = stripMetadata onChain ∧ stripMetadata expected ≠ []))) ∧
    Equivalence (fun expected onChain => (compare expected onChain).isMatch = true) ∧
    ∀ expected onChain, compare expected onChain = compare onChain expected :=
  ⟨fun _ _ _ h => h.stripMetadata_eq, fun _ => stripMetadata_of_untrailed,
    fun _ _ _ _ _ h h' => h.unique h',
    fun _ _ => ⟨kind_eq_full_iff, kind_eq_partly_iff, kind_eq_none_iff⟩, equivalence_isMatch,
    compare_comm⟩

/-- Two builds of one body, and code that is too short for the length that it ends with. -/
theorem compare_ignores_metadata_two_builds : ∃ code other short body metadata metadata',
    Trailed code body metadata ∧ Trailed other body metadata' ∧ stripMetadata code = body ∧
      stripMetadata short = short ∧ (compare code other).kind = .partly := by
  let body : Bytes := [0x60, 0x80]
  have hcode : Trailed [0x60, 0x80, 0xa2, 1, 0, 2] body [0xa2, 1] :=
    ⟨by decide, by decide, 0xa2, by decide⟩
  have hother : Trailed [0x60, 0x80, 0xa1, 0, 1] body [0xa1] :=
    ⟨by decide, by decide, 0xa1, by decide⟩
  have hshort : ∀ body metadata, ¬ Trailed [0x60, 0xff, 0xff] body metadata := by
    intro body metadata h
    have hlength := congrArg List.length h.parts
    have hsize := h.trailerLength_eq
    simp [trailerLength, lengthBytes] at hlength hsize
    omega
  obtain ⟨hbody, hsame, -, hkind, -, -⟩ := compare_ignores_metadata
  have hstrip := hbody _ _ _ hcode
  exact ⟨_, _, _, body, _, _, hcode, hother, hstrip, hsame _ hshort,
    (hkind _ _).2.1.2 ⟨by decide, hstrip.trans (hbody _ _ _ hother).symm, by rw [hstrip]; decide⟩⟩

end BuildRegistry.Bytecode
