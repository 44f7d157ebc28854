import Mathlib.Data.List.Chain
import BuildRegistry.Proofs.Text
import BuildRegistry.Proofs.Version

/-
  The grammar of versions, told by the parts of a text and without the reader: three numbers with
  dots between them, then at most one prerelease and at most one list of build identifiers, each
  behind its mark (`Grammatical`). Nothing is empty, no number has superfluous zeros, and the three
  numbers fit into 64 bits; a numeric identifier may be of any length.

  The reader accepts exactly these texts (`parse?_isSome_iff`). Since a version prints as the text
  that it was read from, normalizing a text takes off the one `v` it may start with and changes
  nothing else. In a version no dot is followed by another, for its parts neither start nor end
  with one (`Framed`), which is what keeps a version from being a step upwards in a path.

  Main statement: `normalize?_canonical`.
-/

namespace BuildRegistry.Version

open Decimal

/-! ## Grammar -/

/-- Digits of a number of 64 bits, with a zero in front only if it is the only digit. -/
structure Numeral (ds : List Char) : Prop where
  digits : AreDigits ds
  nonempty : ds ≠ []
  zero : ∀ rest, ds = '0' :: rest → rest = []
  bound : valueFrom 0 ds ≤ maxNat64

/-- Letters, digits and hyphens. -/
structure BuildIdentifier (i : Identifier) : Prop where
  nonempty : i ≠ []
  chars : ∀ c ∈ i, isIdentifierChar c

/-- If there are only digits, a zero stands in front only if it is the only one. -/
structure PreIdentifier (i : Identifier) : Prop extends BuildIdentifier i where
  zero : AreDigits i → ∀ rest, i = '0' :: rest → rest = []

/-- Nothing, or a mark and identifiers with dots between them. -/
inductive OptionalPart (mark : Char) (valid : Identifier → Prop) : List Char → Prop where
  | absent : OptionalPart mark valid []
  | present {ids : List Identifier} (nonempty : ids ≠ []) (each : ∀ i ∈ ids, valid i) :
      OptionalPart mark valid (mark :: Text.joinWith '.' ids)

/-- A full version. -/
inductive Grammatical : List Char → Prop where
  | parts {major minor patch pre build : List Char} (major_numeral : Numeral major)
      (minor_numeral : Numeral minor) (patch_numeral : Numeral patch)
      (prerelease : OptionalPart '-' PreIdentifier pre)
      (metadata : OptionalPart '+' BuildIdentifier build) :
      Grammatical (major ++ '.' :: minor ++ '.' :: patch ++ pre ++ build)

/-! ## Numbers -/

section Numbers

variable {ds s rest : List Char} {n : Nat}

theorem hasLeadingZero_eq_false_iff :
    hasLeadingZero ds = false ↔ ∀ rest, ds = '0' :: rest → rest = [] := by
  cases ds with
  | nil => simp [hasLeadingZero]
  | cons c ds => cases ds <;> simp [hasLeadingZero]

theorem numeral_natText (h : n ≤ maxNat64) : Numeral (natText n) where
  digits := areDigits_natText n
  nonempty := Nat.toDigits_ne_nil
  zero _ := eq_nil_of_natText_eq
  bound := by rwa [valueFrom_natText]

theorem numeral_of_number? (h : number? s = some (n, rest)) : Numeral (natText n) := by
  refine numeral_natText ?_
  unfold number? at h
  dsimp only at h
  split at h
  · cases h
  · rename_i haccepted
    cases h
    simp only [Bool.or_eq_true, decide_eq_true_eq, not_or] at haccepted
    omega

/-- A number is read up to the first character that is no digit. -/
theorem number?_numeral (h : Numeral ds) (hrest : ∀ c ∈ rest.head?, isDigit c = false) :
    number? (ds ++ rest) = some (valueFrom 0 ds, rest) := by
  have hzero : hasLeadingZero ds = false := hasLeadingZero_eq_false_iff.2 h.zero
  have hbound : ¬ maxNat64 < valueFrom 0 ds := Nat.not_lt.2 h.bound
  unfold number?
  rw [Text.takeWhile_stretch h.digits hrest, Text.dropWhile_stretch h.digits hrest]
  simp [h.nonempty, hzero, hbound]

end Numbers

/-! ## Identifiers -/

section Identifiers

variable {s rest pre build : List Char} {i : Identifier} {ids : List Identifier}
  {valid : Identifier → Bool}

theorem preIdentifier_iff : PreIdentifier i ↔ BuildIdentifier i ∧ isPreIdentifier i := by
  have hvalid : isPreIdentifier i ↔ (AreDigits i → ∀ rest, i = '0' :: rest → rest = []) := by
    rw [← hasLeadingZero_eq_false_iff, isPreIdentifier, isNumeric]
    simp [AreDigits, imp_iff_not_or, or_comm]
  rw [hvalid]
  exact ⟨fun h => ⟨h.toBuildIdentifier, h.zero⟩, fun h => ⟨h.1, h.2⟩⟩

theorem dot_not_mem (h : BuildIdentifier i) : '.' ∉ i := fun hdot =>
  absurd (h.chars '.' hdot) (by decide)

theorem each_of_identifiers? (h : identifiers? valid s = some (ids, rest)) :
    ∀ i ∈ ids, BuildIdentifier i ∧ valid i := by
  unfold identifiers? at h
  dsimp only at h
  split at h
  · rename_i hall
    cases h
    intro i hi
    have hi' := List.all_eq_true.1 hall i hi
    simp only [Bool.and_eq_true, Bool.not_eq_true', List.isEmpty_eq_false_iff] at hi'
    refine ⟨⟨hi'.1, fun c hc => ?_⟩, hi'.2⟩
    -- the identifiers together are the stretch, and the dots in it stand between them
    have hstretch : c ∈ Text.joinWith '.' (Text.splitAt '.' _) := Text.mem_joinWith_of_mem hc hi
    rw [Text.joinWith_splitAt] at hstretch
    have hinside := List.all_eq_true.1 List.all_takeWhile c hstretch
    have hdot : c ≠ '.' := fun heq => Text.not_mem_of_mem_splitAt hi (heq ▸ hc)
    simpa [hdot] using hinside
  · cases h

/-- Identifiers are read up to what may follow them, which is a plus sign. -/
theorem identifiers?_joinWith (hne : ids ≠ []) (hids : ∀ i ∈ ids, BuildIdentifier i ∧ valid i)
    (hrest : ∀ c ∈ rest.head?, c = '+') :
    identifiers? valid (Text.joinWith '.' ids ++ rest) = some (ids, rest) := by
  have hinside : ∀ c ∈ Text.joinWith '.' ids, (isIdentifierChar c || decide (c = '.')) = true := by
    intro c hc
    rcases Text.eq_or_mem_of_mem_joinWith hc with rfl | ⟨i, hi, hci⟩
    · decide
    · rw [(hids i hi).1.chars c hci, Bool.true_or]
  have hstop : ∀ c ∈ rest.head?, (isIdentifierChar c || decide (c = '.')) = false := by
    intro c hc
    rw [hrest c hc]
    decide
  have hsplit : Text.splitAt '.' (Text.joinWith '.' ids) = ids := by
    rw [Text.splitAt_joinWith '.' hne]
    have hsingle : ids.flatMap (Text.splitAt '.') = ids.flatMap fun i => [i] :=
      List.flatMap_congr fun i hi => Text.splitAt_of_not_mem (dot_not_mem (hids i hi).1)
    rw [hsingle, List.flatMap_singleton']
  have hall : (ids.all fun i => !i.isEmpty && valid i) = true := by
    refine List.all_eq_true.2 fun i hi => ?_
    simp [(hids i hi).1.nonempty, (hids i hi).2]
  unfold identifiers?
  dsimp only
  rw [Text.takeWhile_stretch hinside hstop, Text.dropWhile_stretch hinside hstop, hsplit,
    if_pos hall]

theorem optionalPart_of_prerelease? (h : prerelease? s = some (ids, rest)) :
    OptionalPart '-' PreIdentifier (part '-' ids) := by
  unfold prerelease? at h
  split at h
  · have hne := (joinWith_of_identifiers? h).1
    rw [part_of_ne_nil hne]
    exact .present hne fun i hi => preIdentifier_iff.2 (each_of_identifiers? h i hi)
  · cases h
    exact .absent

theorem optionalPart_of_metadata? (h : metadata? s = some (ids, rest)) :
    OptionalPart '+' BuildIdentifier (part '+' ids) := by
  unfold metadata? at h
  split at h
  · have hne := (joinWith_of_identifiers? h).1
    rw [part_of_ne_nil hne]
    exact .present hne fun i hi => (each_of_identifiers? h i hi).1
  · cases h
    exact .absent

theorem prerelease?_optionalPart (h : OptionalPart '-' PreIdentifier pre)
    (hrest : ∀ c ∈ rest.head?, c = '+') : ∃ ids, prerelease? (pre ++ rest) = some (ids, rest) := by
  cases h with
  | absent =>
    cases rest with
    | nil => exact ⟨[], rfl⟩
    | cons c rest =>
      obtain rfl : c = '+' := hrest c rfl
      exact ⟨[], rfl⟩
  | @present ids hne hids =>
    exact ⟨ids, identifiers?_joinWith hne (fun i hi => preIdentifier_iff.1 (hids i hi)) hrest⟩

theorem metadata?_optionalPart (h : OptionalPart '+' BuildIdentifier build) :
    ∃ ids, metadata? build = some (ids, []) := by
  cases h with
  | absent => exact ⟨[], rfl⟩
  | @present ids hne hids =>
    have hread : identifiers? (fun _ => true) (Text.joinWith '.' ids ++ []) = some (ids, []) :=
      identifiers?_joinWith hne (fun i hi => ⟨hids i hi, rfl⟩) nofun
    rw [List.append_nil] at hread
    exact ⟨ids, hread⟩

end Identifiers

/-! ## Versions -/

section Versions

variable {s : List Char}

theorem grammatical_of_parse? {v : Version} (h : parse? s = some v) : Grammatical s := by
  rw [← print_of_parse? h]
  simp only [parse?, Option.bind_eq_bind, Option.bind_eq_some_iff] at h
  obtain ⟨⟨major, s₁⟩, hmajor, s₂, -, ⟨minor, s₃⟩, hminor, s₄, -, ⟨patch, s₅⟩, hpatch,
    ⟨pre, s₆⟩, hpre, ⟨build, s₇⟩, hbuild, h⟩ := h
  split at h
  · cases h
    exact .parts (numeral_of_number? hmajor) (numeral_of_number? hminor)
      (numeral_of_number? hpatch) (optionalPart_of_prerelease? hpre)
      (optionalPart_of_metadata? hbuild)
  · cases h

theorem parse?_isSome_of_grammatical (h : Grammatical s) : (parse? s).isSome := by
  obtain @⟨major, minor, patch, pre, build, hmajor, hminor, hpatch, hpre, hbuild⟩ := h
  have hdot : ∀ rest, ∀ c ∈ ('.' :: rest : List Char).head?, isDigit c = false := by
    rintro rest _ ⟨⟩
    decide
  have hplus : ∀ c ∈ build.head?, c = '+' := by
    cases hbuild with
    | absent => nofun
    | present => simp
  -- what follows the last number starts with the mark of a part
  have hmark : ∀ c ∈ (pre ++ build).head?, isDigit c = false := by
    cases hpre with
    | absent =>
      intro c hc
      rw [hplus c hc]
      decide
    | present =>
      rintro _ ⟨⟩
      decide
  obtain ⟨ids, hids⟩ := prerelease?_optionalPart hpre hplus
  obtain ⟨ids', hids'⟩ := metadata?_optionalPart hbuild
  simp only [parse?, List.append_assoc, List.cons_append, number?_numeral hmajor (hdot _),
    number?_numeral hminor (hdot _), number?_numeral hpatch hmark, hids, hids', dot?,
    Option.bind_eq_bind, Option.bind_some, List.isEmpty_nil, if_true, Option.isSome_some]

/-- The reader accepts exactly the texts of the grammar. -/
theorem parse?_isSome_iff : (parse? s).isSome ↔ Grammatical s := by
  refine ⟨fun h => ?_, parse?_isSome_of_grammatical⟩
  obtain ⟨v, hv⟩ := Option.isSome_iff_exists.1 h
  exact grammatical_of_parse? hv

end Versions

/-! ## Dots -/

/-- There is no dot at either end, and no dot is followed by another. -/
structure Framed (s : List Char) : Prop where
  nonempty : s ≠ []
  first : ∀ c ∈ s.head?, c ≠ '.'
  last : ∀ c ∈ s.getLast?, c ≠ '.'
  inside : s.IsChain fun c d => c = '.' → d ≠ '.'

section Dots

variable {s t : List Char} {i : Identifier}

theorem framed_of_dot_not_mem (hne : s ≠ []) (hdot : '.' ∉ s) : Framed s where
  nonempty := hne
  first _ hc heq := hdot (heq ▸ List.mem_of_mem_head? hc)
  last _ hc heq := hdot (heq ▸ List.mem_of_mem_getLast? hc)
  inside := by
    refine List.isChain_iff_forall_rel_of_append_cons_cons.2 fun c d before after heq hc => ?_
    exact absurd (by simp [heq, hc]) hdot

/-- Framed texts with a character between them, which may be a dot, are a framed text. -/
theorem Framed.append (hs : Framed s) (ht : Framed t) (c : Char) : Framed (s ++ c :: t) where
  nonempty := by simp
  first := by
    rw [List.head?_append_of_ne_nil s hs.nonempty]
    exact hs.first
  last := by
    have hlast : (s ++ c :: t).getLast? = t.getLast? := by
      rw [List.getLast?_append_of_ne_nil s (List.cons_ne_nil c t),
        List.getLast?_cons_of_ne_nil ht.nonempty]
    rw [hlast]
    exact ht.last
  inside := by
    have htail : (c :: t).IsChain fun c d => c = '.' → d ≠ '.' :=
      List.isChain_cons.2 ⟨fun d hd _ => ht.first d hd, ht.inside⟩
    exact List.isChain_append.2 ⟨hs.inside, htail, fun d hd _ _ heq => absurd heq (hs.last d hd)⟩

theorem Framed.no_double_dot (h : Framed s) : ¬ ['.', '.'] <:+: s := by
  intro hinfix
  have hchain := h.inside.infix hinfix
  simp at hchain

theorem framed_numeral (h : Numeral s) : Framed s :=
  framed_of_dot_not_mem h.nonempty fun hdot => absurd (h.digits '.' hdot) (by decide)

theorem framed_identifier (h : BuildIdentifier i) : Framed i :=
  framed_of_dot_not_mem h.nonempty (dot_not_mem h)

theorem framed_joinWith {ids : List Identifier} (hne : ids ≠ [])
    (hids : ∀ i ∈ ids, BuildIdentifier i) : Framed (Text.joinWith '.' ids) := by
  induction ids with
  | nil => exact absurd rfl hne
  | cons i ids ih =>
    obtain ⟨hi, hids⟩ := List.forall_mem_cons.1 hids
    cases ids with
    | nil => exact framed_identifier hi
    | cons j ids =>
      rw [Text.joinWith_cons_cons]
      exact (framed_identifier hi).append (ih (List.cons_ne_nil j ids) hids) '.'

theorem Framed.append_optionalPart (hs : Framed s) {mark : Char} {valid : Identifier → Prop}
    (hvalid : ∀ i, valid i → BuildIdentifier i) (ht : OptionalPart mark valid t) :
    Framed (s ++ t) := by
  cases ht with
  | absent => rwa [List.append_nil]
  | present hne hids =>
    exact hs.append (framed_joinWith hne fun i hi => hvalid i (hids i hi)) mark

theorem framed_grammatical (h : Grammatical s) : Framed s := by
  obtain ⟨hmajor, hminor, hpatch, hpre, hbuild⟩ := h
  have hnumbers :=
    ((framed_numeral hmajor).append (framed_numeral hminor) '.').append (framed_numeral hpatch) '.'
  have hrelease := hnumbers.append_optionalPart (fun _ h => h.toBuildIdentifier) hpre
  exact hrelease.append_optionalPart (fun _ h => h) hbuild

end Dots

/-! ## Normalization -/

section Normalization

variable {s s' t : String}

theorem withoutMark_cases (s : String) :
    s.toList = withoutMark s ∨ s.toList = 'v' :: withoutMark s := by
  unfold withoutMark
  split
  · rename_i heq
    exact .inr heq
  · exact .inl rfl

theorem withoutMark_of_cons {cs : List Char} (h : s.toList = 'v' :: cs) : withoutMark s = cs := by
  simp [withoutMark, h]

/-- A version starts with a digit. -/
theorem withoutMark_of_grammatical (h : Grammatical s.toList) : withoutMark s = s.toList := by
  refine (withoutMark_cases s).elim Eq.symm fun hmark => ?_
  generalize s.toList = cs at h hmark
  obtain @⟨major, minor, patch, pre, build, hmajor, -, -, -, -⟩ := h
  obtain ⟨d, ds, rfl⟩ := List.exists_cons_of_ne_nil hmajor.nonempty
  have hdigit : isDigit d := hmajor.digits d List.mem_cons_self
  obtain rfl : d = 'v' := by simpa using congrArg List.head? hmark
  exact absurd hdigit (by decide)

theorem normalize?_eq_some_iff :
    normalize? s = some t ↔ Grammatical (withoutMark s) ∧ t.toList = withoutMark s := by
  rw [normalize?, Option.map_eq_some_iff]
  constructor
  · rintro ⟨v, hv, rfl⟩
    exact ⟨grammatical_of_parse? hv, by rw [text, String.toList_ofList, print_of_parse? hv]⟩
  · rintro ⟨hs, ht⟩
    obtain ⟨v, hv⟩ := Option.isSome_iff_exists.1 (parse?_isSome_iff.2 hs)
    exact ⟨v, hv, by rw [text, print_of_parse? hv, ← ht, String.ofList_toList]⟩

/-- Texts of one version differ by a `v` in front, if at all. -/
theorem same_or_marked (h : withoutMark s = withoutMark s') :
    s = s' ∨ s.toList = 'v' :: s'.toList ∨ s'.toList = 'v' :: s.toList := by
  rcases withoutMark_cases s with hs | hs <;> rcases withoutMark_cases s' with hs' | hs'
  · exact .inl (String.toList_inj.1 (by rw [hs, hs', h]))
  · exact .inr (.inr (by rw [hs', ← h, ← hs]))
  · exact .inr (.inl (by rw [hs, h, ← hs']))
  · exact .inl (String.toList_inj.1 (by rw [hs, hs', h]))

/-- A `v` in front of a version makes no other version of it. -/
theorem withoutMark_eq_of_marked (h : Grammatical (withoutMark s))
    (hs : s.toList = 'v' :: s'.toList) : withoutMark s = withoutMark s' := by
  rw [withoutMark_of_cons hs] at h ⊢
  exact (withoutMark_of_grammatical h).symm

theorem withoutMark_eq_iff (h : Grammatical (withoutMark s)) (h' : Grammatical (withoutMark s')) :
    withoutMark s = withoutMark s' ↔
      s = s' ∨ s.toList = 'v' :: s'.toList ∨ s'.toList = 'v' :: s.toList := by
  refine ⟨same_or_marked, ?_⟩
  rintro (rfl | hs | hs')
  · rfl
  · exact withoutMark_eq_of_marked h hs
  · exact (withoutMark_eq_of_marked h' hs').symm

end Normalization

/-- A text is normalized exactly when it is a full version behind at most one `v`, and then to that
version as it is written there. What comes out is its own normal form and holds no comma, no slash
and no two dots in a row. Of texts that can be normalized, two have the same normal form exactly
when they are the same or differ by one `v` in front. -/
theorem normalize?_canonical (s : String) :
    (∀ t, normalize? s = some t ↔ Grammatical (withoutMark s) ∧ t.toList = withoutMark s) ∧
    (∀ t, normalize? s = some t →
      normalize? t = some t ∧ ',' ∉ t.toList ∧ '/' ∉ t.toList ∧ ¬ ['.', '.'] <:+: t.toList) ∧
    ∀ t s' t', normalize? s = some t → normalize? s' = some t' →
      (t = t' ↔ s = s' ∨ s.toList = 'v' :: s'.toList ∨ s'.toList = 'v' :: s.toList) := by
  refine ⟨fun t => normalize?_eq_some_iff, fun t h => ?_, fun t s' t' h h' => ?_⟩
  · have hother : ∀ {c}, isVersionChar c = false → c ∉ t.toList := fun hc hmem => by
      rw [isVersionChar_of_normalize? h hmem] at hc
      cases hc
    obtain ⟨hs, ht⟩ := normalize?_eq_some_iff.1 h
    exact ⟨normalize?_of_normalize? h, hother (by decide), hother (by decide),
      ht ▸ (framed_grammatical hs).no_double_dot⟩
  · obtain ⟨hs, ht⟩ := normalize?_eq_some_iff.1 h
    obtain ⟨hs', ht'⟩ := normalize?_eq_some_iff.1 h'
    rw [← withoutMark_eq_iff hs hs', ← ht, ← ht', String.toList_inj]

/-- A version with a prerelease and build metadata, spelled in two ways. -/
theorem normalize?_canonical_two_spellings : ∃ s s' t, s ≠ s' ∧ normalize? s = some t ∧
    normalize? s' = some t ∧ normalize? t = some t ∧
    (s.toList = 'v' :: s'.toList ∨ s'.toList = 'v' :: s.toList) ∧ ',' ∉ t.toList ∧
    '/' ∉ t.toList ∧ ¬ ['.', '.'] <:+: t.toList := by
  have hs : normalize? "v1.0.0-rc.1+05" = some "1.0.0-rc.1+05" := by decide +kernel
  have hs' : normalize? "1.0.0-rc.1+05" = some "1.0.0-rc.1+05" := by decide +kernel
  obtain ⟨-, hnormal, hsame⟩ := normalize?_canonical "v1.0.0-rc.1+05"
  obtain ⟨hself, hcomma, hslash, hdots⟩ := hnormal _ hs
  have hne : "v1.0.0-rc.1+05" ≠ "1.0.0-rc.1+05" := by decide
  exact ⟨_, _, _, hne, hs, hs', hself, ((hsame _ _ _ hs hs').1 rfl).resolve_left hne, hcomma,
    hslash, hdots⟩

end BuildRegistry.Version
