import BuildRegistry.Proofs.Decimal
import BuildRegistry.Version.Selection

/-
  Canonical versions. Their characters are digits and letters, hyphens, dots and plus signs. What
  is read as a version is its print again (`print_of_parse?`), so that a canonical version is the
  canonical text of itself.
-/

namespace BuildRegistry.Version

open Decimal

def isVersionChar (c : Char) : Bool := isIdentifierChar c || c = '.' || c = '+'

/-- Identifiers put together again are the text that they were read from. -/
theorem isVersionChar_of_identifiers? {valid : Identifier → Bool} {s rest : List Char}
    {ids : List Identifier} (h : identifiers? valid s = some (ids, rest)) {c : Char}
    (hc : c ∈ Text.joinWith '.' ids) : isVersionChar c := by
  unfold identifiers? at h
  dsimp only at h
  split at h
  · cases h
    rw [Text.joinWith_splitAt] at hc
    have hinside := List.all_eq_true.1 List.all_takeWhile c hc
    rw [isVersionChar, hinside, Bool.true_or]
  · cases h

theorem isVersionChar_of_mem_part {mark : Char} {ids : List Identifier} (hmark : isVersionChar mark)
    (hids : ∀ c ∈ Text.joinWith '.' ids, isVersionChar c) :
    ∀ c ∈ part mark ids, isVersionChar c := by
  unfold part
  split
  · nofun
  · exact List.forall_mem_cons.2 ⟨hmark, hids⟩

theorem isVersionChar_of_mem_natText {n : Nat} {c : Char} (h : c ∈ natText n) :
    isVersionChar c := by
  simp [isVersionChar, isIdentifierChar, areDigits_natText n c h]

theorem isVersionChar_of_prerelease? {s rest : List Char} {ids : List Identifier}
    (h : prerelease? s = some (ids, rest)) : ∀ c ∈ Text.joinWith '.' ids, isVersionChar c := by
  unfold prerelease? at h
  split at h
  · exact fun c => isVersionChar_of_identifiers? h
  · cases h
    nofun

theorem isVersionChar_of_metadata? {s rest : List Char} {ids : List Identifier}
    (h : metadata? s = some (ids, rest)) : ∀ c ∈ Text.joinWith '.' ids, isVersionChar c := by
  unfold metadata? at h
  split at h
  · exact fun c => isVersionChar_of_identifiers? h
  · cases h
    nofun

theorem isVersionChar_of_parse? {s : List Char} {v : Version} (h : parse? s = some v) :
    ∀ c ∈ v.print, isVersionChar c := by
  simp only [parse?, Option.bind_eq_bind, Option.bind_eq_some_iff] at h
  obtain ⟨⟨major, s₁⟩, -, s₂, -, ⟨minor, s₃⟩, -, s₄, -, ⟨patch, s₅⟩, -, ⟨pre, s₆⟩, hpre,
    ⟨build, s₇⟩, hbuild, h⟩ := h
  split at h
  · cases h
    have hdot : isVersionChar '.' := by decide
    have hparts := isVersionChar_of_mem_part (by decide : isVersionChar '-')
      (isVersionChar_of_prerelease? hpre)
    have hparts' := isVersionChar_of_mem_part (by decide : isVersionChar '+')
      (isVersionChar_of_metadata? hbuild)
    intro c hc
    simp only [print, List.mem_append, List.mem_cons] at hc
    rcases hc with (((hc | rfl | hc) | rfl | hc) | hc) | hc
    · exact isVersionChar_of_mem_natText hc
    · exact hdot
    · exact isVersionChar_of_mem_natText hc
    · exact hdot
    · exact isVersionChar_of_mem_natText hc
    · exact hparts c hc
    · exact hparts' c hc
  · cases h

/-- A canonical version has no characters but these. -/
theorem isVersionChar_of_normalize? {s v : String} (h : normalize? s = some v) {c : Char}
    (hc : c ∈ v.toList) : isVersionChar c := by
  obtain ⟨w, hw, rfl⟩ := Option.map_eq_some_iff.1 h
  rw [text, String.toList_ofList] at hc
  exact isVersionChar_of_parse? hw c hc

/-! ## Versions are what they are read from -/

theorem natText_of_number? {s rest : List Char} {n : Nat} (h : number? s = some (n, rest)) :
    natText n ++ rest = s := by
  unfold number? at h
  dsimp only at h
  split at h
  · cases h
  · rename_i hds
    cases h
    simp only [Bool.or_eq_true, decide_eq_true_eq, not_or, List.isEmpty_iff] at hds
    obtain ⟨⟨hne, hzero⟩, -⟩ := hds
    have hdigits : AreDigits (s.takeWhile isDigit) := fun c hc =>
      List.all_eq_true.1 List.all_takeWhile c hc
    have hlead : ∀ rest, s.takeWhile isDigit = '0' :: rest → rest = [] := by
      intro rest hrest
      rw [hrest] at hzero
      simpa [hasLeadingZero] using hzero
    rw [natText_valueFrom hdigits hne hlead, List.takeWhile_append_dropWhile]

theorem cons_of_dot? {s rest : List Char} (h : dot? s = some rest) : s = '.' :: rest := by
  unfold dot? at h
  split at h <;> cases h
  rfl

theorem joinWith_of_identifiers? {valid : Identifier → Bool} {s rest : List Char}
    {ids : List Identifier} (h : identifiers? valid s = some (ids, rest)) :
    ids ≠ [] ∧ Text.joinWith '.' ids ++ rest = s := by
  unfold identifiers? at h
  dsimp only at h
  split at h
  · cases h
    rw [Text.joinWith_splitAt, List.takeWhile_append_dropWhile]
    exact ⟨Text.splitAt_ne_nil _ _, rfl⟩
  · cases h

theorem part_of_ne_nil {mark : Char} {ids : List Identifier} (h : ids ≠ []) :
    part mark ids = mark :: Text.joinWith '.' ids := by
  rw [part, if_neg (by simpa using h)]

theorem part_of_prerelease? {s rest : List Char} {ids : List Identifier}
    (h : prerelease? s = some (ids, rest)) : part '-' ids ++ rest = s := by
  unfold prerelease? at h
  split at h
  · obtain ⟨hne, hs⟩ := joinWith_of_identifiers? h
    rw [part_of_ne_nil hne, List.cons_append, hs]
  · cases h
    rfl

theorem part_of_metadata? {s rest : List Char} {ids : List Identifier}
    (h : metadata? s = some (ids, rest)) : part '+' ids ++ rest = s := by
  unfold metadata? at h
  split at h
  · obtain ⟨hne, hs⟩ := joinWith_of_identifiers? h
    rw [part_of_ne_nil hne, List.cons_append, hs]
  · cases h
    rfl

theorem print_of_parse? {s : List Char} {v : Version} (h : parse? s = some v) : v.print = s := by
  simp only [parse?, Option.bind_eq_bind, Option.bind_eq_some_iff] at h
  obtain ⟨⟨major, s₁⟩, hmajor, s₂, hdot, ⟨minor, s₃⟩, hminor, s₄, hdot', ⟨patch, s₅⟩, hpatch,
    ⟨pre, s₆⟩, hpre, ⟨build, s₇⟩, hbuild, h⟩ := h
  split at h
  · rename_i hend
    obtain rfl : s₇ = [] := List.isEmpty_iff.1 hend
    cases h
    have hs : natText major ++ s₁ = s := natText_of_number? hmajor
    have hs₁ : s₁ = '.' :: s₂ := cons_of_dot? hdot
    have hs₂ : natText minor ++ s₃ = s₂ := natText_of_number? hminor
    have hs₃ : s₃ = '.' :: s₄ := cons_of_dot? hdot'
    have hs₄ : natText patch ++ s₅ = s₄ := natText_of_number? hpatch
    have hs₅ : part '-' pre ++ s₆ = s₅ := part_of_prerelease? hpre
    have hs₆ : part '+' build ++ [] = s₆ := part_of_metadata? hbuild
    rw [← hs, hs₁, ← hs₂, hs₃, ← hs₄, ← hs₅, ← hs₆]
    simp only [print, List.append_assoc, List.cons_append, List.append_nil]
  · cases h

/-- A canonical version is the canonical text of itself. -/
theorem normalize?_of_normalize? {s v : String} (h : normalize? s = some v) :
    normalize? v = some v := by
  obtain ⟨w, hw, rfl⟩ := Option.map_eq_some_iff.1 h
  have hprint : w.text.toList = w.print := String.toList_ofList
  obtain ⟨c, cs, hc⟩ : ∃ c cs, natText w.major = c :: cs :=
    List.exists_cons_of_ne_nil Nat.toDigits_ne_nil
  -- a version starts with a digit, so there is no mark to take off
  have hmark : withoutMark w.text = w.print := by
    have hdigit : isDigit c := areDigits_natText w.major c (hc ▸ List.mem_cons_self)
    have hcons : ∃ rest, w.print = c :: rest := ⟨_, by rw [print, hc]; rfl⟩
    obtain ⟨rest, hrest⟩ := hcons
    unfold withoutMark
    rw [hprint, hrest]
    split
    · rename_i heq
      obtain rfl := (List.cons.inj heq).1
      exact absurd hdigit (by decide)
    · rfl
  rw [normalize?, hmark, print_of_parse? hw, hw]
  rfl

end BuildRegistry.Version
