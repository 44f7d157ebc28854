import Mathlib.Data.List.Infix
import BuildRegistry.Text.Blank
import BuildRegistry.Text.Fields
import BuildRegistry.Text.Lowercase

/-
  Texts without blanks around them, patterns inside texts, fields that are joined and cut again,
  stretches of characters of one class, and the lower case of ASCII texts.
-/

namespace BuildRegistry.Text

/-! ## Blanks around a text -/

/-- Neither the first nor the last character is a blank. -/
structure Unpadded (s : List Char) : Prop where
  first : ∀ c ∈ s.head?, isBlank c = false
  last : ∀ c ∈ s.getLast?, isBlank c = false

theorem not_blank_head?_trimStart {s : List Char} {c : Char} (h : c ∈ (trimStart s).head?) :
    isBlank c = false := by
  have hfirst := List.head?_dropWhile_not isBlank s
  unfold trimStart at h
  rw [Option.mem_def] at h
  rwa [h] at hfirst

theorem trimEnd_prefix (s : List Char) : trimEnd s <+: s := by
  have h : (s.reverse.dropWhile isBlank).reverse <+: s.reverse.reverse :=
    List.reverse_prefix.2 (List.dropWhile_suffix isBlank)
  rwa [List.reverse_reverse] at h

theorem unpadded_trimChars (s : List Char) : Unpadded (trimChars s) := by
  constructor
  · intro c hc
    obtain ⟨rest, hrest⟩ := trimEnd_prefix (trimStart s)
    have hhead : c ∈ (trimStart s).head? := by
      rw [← hrest, List.head?_append]
      exact Option.or_eq_some_iff.2 (.inl hc)
    exact not_blank_head?_trimStart hhead
  · intro c hc
    unfold trimChars trimEnd at hc
    rw [List.getLast?_reverse] at hc
    exact not_blank_head?_trimStart hc

/-- Trimming takes off nothing but blanks. -/
theorem trimChars_cases (s : List Char) : ∃ before after, s = before ++ trimChars s ++ after ∧
    (∀ c ∈ before, isBlank c) ∧ ∀ c ∈ after, isBlank c := by
  have hend : ∀ cs, cs = trimEnd cs ++ (cs.reverse.takeWhile isBlank).reverse := by
    intro cs
    rw [trimEnd, ← List.reverse_append, List.takeWhile_append_dropWhile, List.reverse_reverse]
  refine ⟨s.takeWhile isBlank, ((trimStart s).reverse.takeWhile isBlank).reverse, ?_, ?_, ?_⟩
  · rw [trimChars, List.append_assoc, ← hend (trimStart s), trimStart,
      List.takeWhile_append_dropWhile]
  · exact List.all_eq_true.1 List.all_takeWhile
  · exact fun c hc => List.all_eq_true.1 List.all_takeWhile c (List.mem_reverse.1 hc)

/-! ## Patterns -/

theorem occursIn_iff {pattern s : List Char} : occursIn pattern s ↔ pattern <:+: s := by
  induction s with
  | nil => simp [occursIn]
  | cons c s ih => rw [occursIn, Bool.or_eq_true, ih, List.isPrefixOf_iff_prefix, List.infix_cons_iff]

/-! ## Fields -/

theorem splitAt_of_not_mem {sep : Char} {f : List Char} (h : sep ∉ f) : splitAt sep f = [f] := by
  induction f with
  | nil => rfl
  | cons c f ih =>
    have hc : c ≠ sep := Ne.symm (List.ne_of_not_mem_cons h)
    rw [splitAt, if_neg hc, ih (List.not_mem_of_not_mem_cons h)]

/-- A text is cut at every separator in it. -/
theorem splitAt_append (sep : Char) (f s : List Char) :
    splitAt sep (f ++ sep :: s) = splitAt sep f ++ splitAt sep s := by
  induction f with
  | nil => exact if_pos rfl
  | cons c f ih =>
    rw [List.cons_append, splitAt, splitAt, ih]
    by_cases hc : c = sep
    · rw [if_pos hc, if_pos hc, List.cons_append]
    · obtain ⟨g, gs, hg⟩ := List.exists_cons_of_ne_nil (splitAt_ne_nil sep f)
      rw [if_neg hc, if_neg hc, hg]
      rfl

/-- Fields that were joined are cut where they were joined, and at the separators in them. -/
theorem splitAt_joinWith (sep : Char) {fs : List (List Char)} (hne : fs ≠ []) :
    splitAt sep (joinWith sep fs) = fs.flatMap (splitAt sep) := by
  induction fs with
  | nil => exact absurd rfl hne
  | cons f fs ih =>
    cases fs with
    | nil => rw [List.flatMap_singleton, joinWith]
    | cons g gs =>
      rw [joinWith_cons_cons, splitAt_append, ih (List.cons_ne_nil g gs)]
      exact List.flatMap_cons.symm

/-- No field holds the separator that the text was cut at. -/
theorem not_mem_of_mem_splitAt {sep : Char} {s f : List Char} (h : f ∈ splitAt sep s) :
    sep ∉ f := by
  induction s generalizing f with
  | nil =>
    rw [splitAt, List.mem_singleton] at h
    rw [h]
    exact List.not_mem_nil
  | cons c s ih =>
    rw [splitAt] at h
    split at h
    · rcases List.mem_cons.1 h with rfl | h
      · exact List.not_mem_nil
      · exact ih h
    · rename_i hc
      split at h
      · rw [List.mem_singleton.1 h]
        simpa using Ne.symm hc
      · rename_i g gs hgs
        rw [hgs] at ih
        rcases List.mem_cons.1 h with rfl | h
        · exact List.not_mem_cons_of_ne_of_not_mem (Ne.symm hc) (ih List.mem_cons_self)
        · exact ih (List.mem_cons_of_mem g h)

theorem mem_joinWith_of_mem {sep c : Char} {f : List Char} {fs : List (List Char)} (hc : c ∈ f)
    (hf : f ∈ fs) : c ∈ joinWith sep fs := by
  induction fs with
  | nil => cases hf
  | cons g fs ih =>
    cases fs with
    | nil => rwa [joinWith, ← List.mem_singleton.1 hf]
    | cons g' fs =>
      rw [joinWith_cons_cons, List.mem_append]
      rcases List.mem_cons.1 hf with rfl | hf
      · exact .inl hc
      · exact .inr (List.mem_cons_of_mem sep (ih hf))

theorem eq_or_mem_of_mem_joinWith {sep c : Char} {fs : List (List Char)} (h : c ∈ joinWith sep fs) :
    c = sep ∨ ∃ f ∈ fs, c ∈ f := by
  induction fs with
  | nil => cases h
  | cons g fs ih =>
    cases fs with
    | nil => exact .inr ⟨g, List.mem_singleton_self g, h⟩
    | cons g' fs =>
      rw [joinWith_cons_cons, List.mem_append, List.mem_cons] at h
      rcases h with h | h | h
      · exact .inr ⟨g, List.mem_cons_self, h⟩
      · exact .inl h
      · exact (ih h).imp_right fun ⟨f, hf, hc⟩ => ⟨f, List.mem_cons_of_mem g hf, hc⟩

/-- A text is cut at the first separator in it. -/
theorem cutAt_append {sep : Char} {as : List Char} (h : sep ∉ as) (bs : List Char) :
    cutAt sep (as ++ sep :: bs) = some (as, bs) := by
  induction as with
  | nil => rw [List.nil_append, cutAt, if_pos rfl]
  | cons a as ih =>
    obtain ⟨ha, has⟩ := not_or.1 fun hm => h (List.mem_cons.2 hm)
    rw [List.cons_append, cutAt, if_neg (Ne.symm ha), ih has]
    rfl

theorem cutAt_eq_some_iff {sep : Char} {s as bs : List Char} :
    cutAt sep s = some (as, bs) ↔ s = as ++ sep :: bs ∧ sep ∉ as := by
  constructor
  · intro h
    induction s generalizing as with
    | nil => cases h
    | cons c s ih =>
      rw [cutAt] at h
      split at h
      · rename_i hc
        cases h
        exact ⟨by rw [hc]; rfl, List.not_mem_nil⟩
      · rename_i hc
        obtain ⟨⟨as', bs'⟩, hcut, heq⟩ := Option.map_eq_some_iff.1 h
        cases heq
        obtain ⟨rfl, hsep⟩ := ih hcut
        exact ⟨rfl, fun hmem => (List.mem_cons.1 hmem).elim (Ne.symm hc) hsep⟩
  · rintro ⟨rfl, hsep⟩
    exact cutAt_append hsep bs

/-! ## Stretches -/

section Stretches

variable {p : Char → Bool} {stretch rest : List Char}

/-- A stretch of characters of one class ends before the first character that is not of it. -/
theorem takeWhile_stretch (hstretch : ∀ c ∈ stretch, p c)
    (hrest : ∀ c ∈ rest.head?, p c = false) : (stretch ++ rest).takeWhile p = stretch := by
  rw [List.takeWhile_append_of_pos hstretch]
  cases rest with
  | nil => simp
  | cons c rest => simp [hrest c rfl]

theorem dropWhile_stretch (hstretch : ∀ c ∈ stretch, p c)
    (hrest : ∀ c ∈ rest.head?, p c = false) : (stretch ++ rest).dropWhile p = rest := by
  rw [List.dropWhile_append_of_pos hstretch]
  cases rest with
  | nil => rfl
  | cons c rest => simp [hrest c rfl]

end Stretches

/-! ## Lower case -/

theorem lowerFrom_of_ascii {before s : List Char} (h : ∀ c ∈ s, c.toNat < 0x80) :
    lowerFrom before s = s.map Char.toLower := by
  induction s generalizing before with
  | nil => rfl
  | cons c s ih =>
    obtain ⟨hc, hs⟩ := List.forall_mem_cons.1 h
    have hsigma : c ≠ capitalSigma := by
      rintro rfl
      exact absurd hc (by decide)
    rw [lowerFrom, if_neg hsigma, lowerChar, if_pos hc, ih hs]
    rfl

end BuildRegistry.Text
