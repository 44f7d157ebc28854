import BuildRegistry.Proofs.Version.Grammar
import BuildRegistry.Proofs.Version.Selection

/-
  The order of version texts, against the precedence that semantic versioning defines. `Precedes`
  is that precedence, said without any comparison of texts: numbers by their values, a release
  above its prereleases, identifiers one by one. `BuildBelow` orders what precedence leaves open.
  The program compares numeric identifiers by their lengths and then by their characters, which
  is by their values as long as no zeros stand in front (`shortlex_eq_compare`): a version that
  was read has none in its prerelease, and of build identifiers they are taken off first.

  Not claimed: that equal precedence means equal versions. Build metadata tells apart versions of
  one precedence, and texts that are no versions are ordered by their characters alone.
-/

namespace BuildRegistry.Version

open Decimal
open Std (OrientedCmp TransCmp LawfulEqCmp)

/-! ## Precedence -/

/-- Numeric identifiers come first, among themselves by `numbers`, and the others by their
characters. -/
inductive IdentifierBelow (numbers : Identifier → Identifier → Prop) :
    Identifier → Identifier → Prop where
  | ofNumbers {i j : Identifier} (hi : isNumeric i) (hj : isNumeric j) (h : numbers i j) :
      IdentifierBelow numbers i j
  | numberFirst {i j : Identifier} (hi : isNumeric i) (hj : ¬ isNumeric j) :
      IdentifierBelow numbers i j
  | ofTexts {i j : Identifier} (hi : ¬ isNumeric i) (hj : ¬ isNumeric j) (h : i < j) :
      IdentifierBelow numbers i j

def SmallerNumber (i j : Identifier) : Prop := valueFrom 0 i < valueFrom 0 j

/-- A release is above its prereleases, and a prerelease below its extensions. -/
inductive PreBelow : List Identifier → List Identifier → Prop where
  | release (i : Identifier) (is : List Identifier) : PreBelow (i :: is) []
  | identifiers {i j : Identifier} {is js : List Identifier}
      (h : List.Lex (IdentifierBelow SmallerNumber) (i :: is) (j :: js)) :
      PreBelow (i :: is) (j :: js)

inductive Precedes (v w : Version) : Prop where
  | major (h : v.major < w.major)
  | minor (hmajor : v.major = w.major) (h : v.minor < w.minor)
  | patch (hmajor : v.major = w.major) (hminor : v.minor = w.minor) (h : v.patch < w.patch)
  | pre (hmajor : v.major = w.major) (hminor : v.minor = w.minor) (hpatch : v.patch = w.patch)
      (h : PreBelow v.pre w.pre)

structure SamePrecedence (v w : Version) : Prop where
  major : v.major = w.major
  minor : v.minor = w.minor
  patch : v.patch = w.patch
  pre : v.pre = w.pre

/-- Of build numbers with one value, that with fewer zeros in front comes first. -/
def SmallerBuildNumber (i j : Identifier) : Prop :=
  valueFrom 0 i < valueFrom 0 j ∨ valueFrom 0 i = valueFrom 0 j ∧ i.length < j.length

def BuildBelow : List Identifier → List Identifier → Prop :=
  List.Lex (IdentifierBelow SmallerBuildNumber)

/-! ## Lists -/

/-- Lists compared member by member, where `below` is what the comparison of two members says. -/
theorem compareLex_eq_lt_iff {α : Type} {compareMembers : α → α → Ordering}
    [LawfulEqCmp compareMembers] {below : α → α → Prop} {as bs : List α}
    (h : ∀ a ∈ as, ∀ b ∈ bs, compareMembers a b = .lt ↔ below a b) :
    List.compareLex compareMembers as bs = .lt ↔ List.Lex below as bs := by
  induction as generalizing bs with
  | nil =>
    cases bs with
    | nil => exact ⟨nofun, nofun⟩
    | cons b bs => exact ⟨fun _ => .nil, fun _ => rfl⟩
  | cons a as ih =>
    cases bs with
    | nil => exact ⟨nofun, nofun⟩
    | cons b bs =>
      have hhead := h a List.mem_cons_self b List.mem_cons_self
      have htail := ih fun a ha b hb =>
        h a (List.mem_cons_of_mem _ ha) b (List.mem_cons_of_mem _ hb)
      rw [List.compareLex_cons_cons, Ordering.then_eq_lt, hhead, LawfulEqCmp.compare_eq_iff_eq,
        htail]
      constructor
      · rintro (hab | ⟨rfl, hlex⟩)
        · exact .rel hab
        · exact .cons hlex
      · intro hlex
        cases hlex with
        | rel hab => exact .inl hab
        | cons hlex => exact .inr ⟨rfl, hlex⟩

theorem compare_chars_eq_lt {i j : Identifier} : compare i j = .lt ↔ i < j :=
  compareLex_eq_lt_iff fun _ _ _ _ => compareOfLessAndEq_eq_lt

/-! ## Identifiers -/

theorem areDigits_of_isNumeric {i : Identifier} (h : isNumeric i) : AreDigits i :=
  fun c hc => List.all_eq_true.1 h c hc

/-- Shorter texts first and then by the characters is by the values, if the longer text has no
zero in front. -/
theorem shortlex_eq_compare {i j : Identifier} (hi : AreDigits i) (hj : AreDigits j)
    (hizero : j.length < i.length → i.head? ≠ some '0')
    (hjzero : i.length < j.length → j.head? ≠ some '0') :
    (compare i.length j.length).then (compare i j) = compare (valueFrom 0 i) (valueFrom 0 j) := by
  rcases Nat.lt_trichotomy i.length j.length with hlt | heq | hgt
  · have hvalue := valueFrom_lt_of_length_lt hi hj (hjzero hlt) hlt
    rw [compare_lt_iff_lt.2 hlt, compare_lt_iff_lt.2 hvalue]
    rfl
  · rw [compare_eq_iff_eq.2 heq, Ordering.then]
    rcases Nat.lt_trichotomy (valueFrom 0 i) (valueFrom 0 j) with hvalue | hvalue | hvalue
    · rw [compare_lt_iff_lt.2 hvalue]
      exact compare_chars_eq_lt.2 (lt_of_valueFrom_lt hi hj heq hvalue)
    · rw [compare_eq_iff_eq.2 hvalue]
      exact Std.compare_eq_iff_eq.2 (eq_of_valueFrom_eq hi hj heq hvalue)
    · rw [compare_gt_iff_gt.2 hvalue]
      exact Std.OrientedCmp.gt_iff_lt.2
        (compare_chars_eq_lt.2 (lt_of_valueFrom_lt hj hi heq.symm hvalue))
  · have hvalue := valueFrom_lt_of_length_lt hj hi (hizero hgt) hgt
    rw [compare_gt_iff_gt.2 hgt, compare_gt_iff_gt.2 hvalue]
    rfl

theorem head?_ne_zero_of_isPreIdentifier {i : Identifier} (h : isPreIdentifier i)
    (hi : isNumeric i) (hlength : 1 < i.length) : i.head? ≠ some '0' := by
  simpa [isPreIdentifier, hi, hasLeadingZero, hlength] using h

theorem comparePreNumber_eq {i j : Identifier} (hi : isPreIdentifier i) (hj : isPreIdentifier j)
    (hi' : isNumeric i) (hj' : isNumeric j) (hine : i ≠ []) (hjne : j ≠ []) :
    comparePreNumber i j = compare (valueFrom 0 i) (valueFrom 0 j) := by
  have hipos := List.length_pos_iff.2 hine
  have hjpos := List.length_pos_iff.2 hjne
  exact shortlex_eq_compare (areDigits_of_isNumeric hi') (areDigits_of_isNumeric hj')
    (fun h => head?_ne_zero_of_isPreIdentifier hi hi' (by omega))
    (fun h => head?_ne_zero_of_isPreIdentifier hj hj' (by omega))

theorem valueFrom_withoutZeros (i : Identifier) :
    valueFrom 0 (withoutZeros i) = valueFrom 0 i := by
  have hzeros : ∀ k, valueFrom 0 (List.replicate k '0') = 0 := fun k =>
    Nat.ofDigitChars_replicate_zero
  have hi := List.takeWhile_append_dropWhile (p := (· = '0')) (l := i)
  rw [takeWhile_zeros] at hi
  conv_rhs => rw [← hi, valueFrom_append, hzeros, Nat.mul_zero, Nat.zero_add]
  rfl

theorem head?_withoutZeros (i : Identifier) : (withoutZeros i).head? ≠ some '0' := by
  intro h
  have hfirst := List.head?_dropWhile_not (· = '0') i
  unfold withoutZeros at h
  rw [h] at hfirst
  exact absurd hfirst (by decide)

theorem compareBuildNumber_eq {i j : Identifier} (hi : isNumeric i) (hj : isNumeric j) :
    compareBuildNumber i j =
      (compare (valueFrom 0 i) (valueFrom 0 j)).then (compare i.length j.length) := by
  have hdigits : ∀ {i}, isNumeric i → AreDigits (withoutZeros i) := fun hi c hc =>
    areDigits_of_isNumeric hi c (List.dropWhile_subset _ hc)
  rw [compareBuildNumber, ← Ordering.then_assoc,
    shortlex_eq_compare (hdigits hi) (hdigits hj) (fun _ => head?_withoutZeros i)
      (fun _ => head?_withoutZeros j),
    valueFrom_withoutZeros, valueFrom_withoutZeros]

theorem compareIdentifier_eq_lt_iff {numeric : Identifier → Identifier → Ordering}
    {numbers : Identifier → Identifier → Prop} {i j : Identifier}
    (h : isNumeric i → isNumeric j → (numeric i j = .lt ↔ numbers i j)) :
    compareIdentifier numeric i j = .lt ↔ IdentifierBelow numbers i j := by
  unfold compareIdentifier
  cases hi : isNumeric i with
  | true =>
    cases hj : isNumeric j with
    | true =>
      refine (h hi hj).trans ⟨.ofNumbers hi hj, fun hbelow => ?_⟩
      cases hbelow with
      | ofNumbers _ _ h => exact h
      | numberFirst _ hj' => exact absurd hj hj'
      | ofTexts hi' _ _ => exact absurd hi hi'
    | false => exact ⟨fun _ => .numberFirst hi (by simp [hj]), fun _ => rfl⟩
  | false =>
    have hi' : ¬ isNumeric i := by simp [hi]
    cases hj : isNumeric j with
    | true =>
      refine ⟨nofun, fun hbelow => ?_⟩
      cases hbelow with
      | ofNumbers hi _ _ => exact absurd hi hi'
      | numberFirst hi _ => exact absurd hi hi'
      | ofTexts _ hj' _ => exact absurd hj hj'
    | false =>
      refine compare_chars_eq_lt.trans ⟨.ofTexts hi' (by simp [hj]), fun hbelow => ?_⟩
      cases hbelow with
      | ofNumbers hi _ _ => exact absurd hi hi'
      | numberFirst hi _ => exact absurd hi hi'
      | ofTexts _ _ h => exact h

theorem compareBuild_eq_lt_iff {is js : List Identifier} :
    compareBuild is js = .lt ↔ BuildBelow is js :=
  compareLex_eq_lt_iff fun i _ j _ => compareIdentifier_eq_lt_iff fun hi hj => by
    rw [compareBuildNumber_eq hi hj, Ordering.then_eq_lt, compare_lt_iff_lt, compare_eq_iff_eq,
      compare_lt_iff_lt]
    rfl

/-! ## Versions that were read -/

/-- What is read as a prerelease identifier: it is not empty, and a number has no zeros in
front. -/
structure ReadsAsPre (i : Identifier) : Prop where
  nonempty : i ≠ []
  valid : isPreIdentifier i

theorem comparePre_eq_lt_iff {is js : List Identifier} (his : ∀ i ∈ is, ReadsAsPre i)
    (hjs : ∀ j ∈ js, ReadsAsPre j) : comparePre is js = .lt ↔ PreBelow is js := by
  cases is with
  | nil =>
    cases js with
    | nil => exact ⟨nofun, nofun⟩
    | cons j js => exact ⟨nofun, nofun⟩
  | cons i is =>
    cases js with
    | nil => exact ⟨fun _ => .release i is, fun _ => rfl⟩
    | cons j js =>
      have hlex : comparePre (i :: is) (j :: js) = .lt ↔
          List.Lex (IdentifierBelow SmallerNumber) (i :: is) (j :: js) := by
        refine compareLex_eq_lt_iff fun i hi j hj => compareIdentifier_eq_lt_iff fun hi' hj' => ?_
        have hi := his i hi
        have hj := hjs j hj
        rw [comparePreNumber_eq hi.valid hj.valid hi' hj' hi.nonempty hj.nonempty,
          compare_lt_iff_lt]
        rfl
      refine hlex.trans ⟨.identifiers, fun h => ?_⟩
      cases h with
      | identifiers h => exact h

theorem readsAsPre_of_prerelease? {s rest : List Char} {ids : List Identifier}
    (h : prerelease? s = some (ids, rest)) : ∀ i ∈ ids, ReadsAsPre i := by
  unfold prerelease? at h
  split at h
  · intro i hi
    obtain ⟨hidentifier, hvalid⟩ := each_of_identifiers? h i hi
    exact ⟨hidentifier.nonempty, hvalid⟩
  · cases h
    nofun

theorem readsAsPre_of_ofString? {s : String} {v : Version} (h : ofString? s = some v) :
    ∀ i ∈ v.pre, ReadsAsPre i := by
  simp only [ofString?, parse?, Option.bind_eq_bind, Option.bind_eq_some_iff] at h
  obtain ⟨_, -, _, -, _, -, _, -, _, -, ⟨pre, _⟩, hpre, _, -, h⟩ := h
  split at h
  · cases h
    exact readsAsPre_of_prerelease? hpre
  · cases h

variable {s t : String} {v w : Version}

/-- Versions that were read are ordered by precedence, and those of one precedence by their build
metadata. -/
theorem compareTexts_eq_lt_iff (hs : ofString? s = some v) (ht : ofString? t = some w) :
    compareTexts s t = .lt ↔ Precedes v w ∨ SamePrecedence v w ∧ BuildBelow v.build w.build := by
  rw [compareTexts_of_ofString? hs ht]
  simp only [order, Ordering.then_eq_lt, compare_lt_iff_lt,
    comparePre_eq_lt_iff (readsAsPre_of_ofString? hs) (readsAsPre_of_ofString? ht),
    compareBuild_eq_lt_iff, LawfulEqCmp.compare_eq_iff_eq]
  constructor
  · rintro (h | ⟨hmajor, h | ⟨hminor, h | ⟨hpatch, h | ⟨hpre, h⟩⟩⟩⟩)
    · exact .inl (.major h)
    · exact .inl (.minor hmajor h)
    · exact .inl (.patch hmajor hminor h)
    · exact .inl (.pre hmajor hminor hpatch h)
    · exact .inr ⟨⟨hmajor, hminor, hpatch, hpre⟩, h⟩
  · rintro ((h | ⟨hmajor, h⟩ | ⟨hmajor, hminor, h⟩ | ⟨hmajor, hminor, hpatch, h⟩) |
      ⟨⟨hmajor, hminor, hpatch, hpre⟩, h⟩)
    · exact .inl h
    · exact .inr ⟨hmajor, .inl h⟩
    · exact .inr ⟨hmajor, .inr ⟨hminor, .inl h⟩⟩
    · exact .inr ⟨hmajor, .inr ⟨hminor, .inr ⟨hpatch, .inl h⟩⟩⟩
    · exact .inr ⟨hmajor, .inr ⟨hminor, .inr ⟨hpatch, .inr ⟨hpre, h⟩⟩⟩⟩

/-! ## A linear order of all texts -/

/-- What is no version comes before all versions. -/
theorem compareTexts_of_unreadable (hs : ofString? s = none) (ht : ofString? t = some w) :
    compareTexts s t = .lt := by
  rw [compareTexts, hs, ht]

theorem sortTexts_eq_of_perm {ss ts : List String} (h : ss.Perm ts) :
    sortTexts ss = sortTexts ts :=
  eq_of_sorted (sorted_sortTexts ss) (sorted_sortTexts ts)
    ((List.mergeSort_perm ss _).trans (h.trans (List.mergeSort_perm ts _).symm))

/-- The comparison of texts is a linear order with what is no version at its lower end, and the
order of precedence refined by build metadata on versions; and sorting by it gives one descending
list for all arrangements of the same texts. -/
theorem compareTexts_linear :
    (∀ a b : String, compareTexts a b = (compareTexts b a).swap) ∧
    (∀ a b c : String, compareTexts a b ≠ .gt → compareTexts b c ≠ .gt → compareTexts a c ≠ .gt) ∧
    (∀ a b c : String, compareTexts a b = .lt → compareTexts b c = .lt → compareTexts a c = .lt) ∧
    (∀ a b : String, compareTexts a b = .eq ↔ a = b) ∧
    (∀ a b : String, ofString? a = none → (ofString? b).isSome → compareTexts a b = .lt) ∧
    (∀ (a b : String) (v w : Version), ofString? a = some v → ofString? b = some w →
      (compareTexts a b = .lt ↔
        Precedes v w ∨ SamePrecedence v w ∧ BuildBelow v.build w.build)) ∧
    ∀ ss : List String, (sortTexts ss).Perm ss ∧
      (sortTexts ss).Pairwise (fun a b => compareTexts a b ≠ .lt) ∧
      ∀ ts : List String, ss.Perm ts → sortTexts ts = sortTexts ss := by
  refine ⟨fun a b => OrientedCmp.eq_swap, fun a b c hab hbc => ?_,
    fun a b c => TransCmp.lt_trans, fun a b => LawfulEqCmp.compare_eq_iff_eq, fun a b ha hb => ?_,
    fun a b v w => compareTexts_eq_lt_iff, fun ss => ⟨List.mergeSort_perm ss _, ?_, ?_⟩⟩
  · exact Ordering.ne_gt_iff_isLE.2 (TransCmp.isLE_trans (Ordering.ne_gt_iff_isLE.1 hab)
      (Ordering.ne_gt_iff_isLE.1 hbc))
  · obtain ⟨w, hw⟩ := Option.isSome_iff_exists.1 hb
    exact compareTexts_of_unreadable ha hw
  · refine (sorted_sortTexts ss).imp fun {a b} hle hlt => ?_
    have hgt : compareTexts b a = .gt := OrientedCmp.gt_iff_lt.2 hlt
    rw [hgt] at hle
    contradiction
  · exact fun ts h => sortTexts_eq_of_perm h.symm

example : sortTexts ["1.2.0-rc.1", "garbage", "1.2.0-rc.10", "1.10.0", "1.2.0-9", "1.2.0"] =
    ["1.10.0", "1.2.0", "1.2.0-rc.10", "1.2.0-rc.1", "1.2.0-9", "garbage"] :=
  eq_of_sorted (sorted_sortTexts _) (by decide) ((List.mergeSort_perm _ _).trans (by decide))

end BuildRegistry.Version
