import Mathlib.Order.Lattice
import Mathlib.Order.Std
import BuildRegistry.Proofs.Version

/-
  The order of versions is linear: each of its levels compares one part of a version, and together
  the parts are the version (`order_lawful`). The order of texts puts what is no version first and
  is linear too, since a version is read from one text only.
-/

namespace BuildRegistry.Version

open Std (OrientedCmp ReflCmp TransCmp LawfulEqCmp TransOrd LawfulEqOrd)

/-- Comparing what a function makes of two things. -/
theorem transCmp_on {α β : Type} (compareValues : β → β → Ordering) [TransCmp compareValues]
    (f : α → β) : TransCmp fun a b => compareValues (f a) (f b) where
  eq_swap {a b} := @OrientedCmp.eq_swap _ compareValues _ (f a) (f b)
  isLE_trans {a b c} := @TransCmp.isLE_trans _ compareValues _ (f a) (f b) (f c)

/-! ## Identifiers -/

instance : TransCmp comparePreNumber :=
  inferInstanceAs (TransCmp (compareLex (compareOn List.length) compare))

instance : LawfulEqCmp comparePreNumber where
  eq_of_compare h := LawfulEqOrd.eq_of_compare (Ordering.then_eq_eq.1 h).2

theorem takeWhile_zeros (i : Identifier) :
    i.takeWhile (· = '0') = List.replicate (i.length - (withoutZeros i).length) '0' := by
  refine List.eq_replicate_iff.2 ⟨?_, fun c hc => ?_⟩
  · have := congrArg List.length (List.takeWhile_append_dropWhile (p := (· = '0')) (l := i))
    rw [List.length_append] at this
    unfold withoutZeros
    omega
  · simpa using List.all_eq_true.1 List.all_takeWhile c hc

/-- An identifier is known by what follows its leading zeros and by its length. -/
theorem eq_of_withoutZeros {i j : Identifier} (h : withoutZeros i = withoutZeros j)
    (hlength : i.length = j.length) : i = j := by
  rw [← List.takeWhile_append_dropWhile (p := (· = '0')) (l := i),
    ← List.takeWhile_append_dropWhile (p := (· = '0')) (l := j), takeWhile_zeros, takeWhile_zeros,
    hlength, h]
  exact congrArg (_ ++ ·) h

instance : TransCmp compareBuildNumber :=
  inferInstanceAs (TransCmp (compareLex (compareOn fun i => (withoutZeros i).length)
    (compareLex (compareOn withoutZeros) (compareOn List.length))))

instance : LawfulEqCmp compareBuildNumber where
  eq_of_compare h := by
    have h' := (Ordering.then_eq_eq.1 (Ordering.then_eq_eq.1 h).2)
    exact eq_of_withoutZeros (LawfulEqOrd.eq_of_compare h'.1) (LawfulEqOrd.eq_of_compare h'.2)

section Identifiers

variable (numeric : Identifier → Identifier → Ordering)

instance [TransCmp numeric] : TransCmp (compareIdentifier numeric) where
  eq_swap {a b} := by
    cases ha : isNumeric a <;> cases hb : isNumeric b <;> simp only [compareIdentifier, ha, hb]
    · exact OrientedCmp.eq_swap
    · rfl
    · rfl
    · exact OrientedCmp.eq_swap
  isLE_trans {a b c} hab hbc := by
    cases ha : isNumeric a <;> cases hb : isNumeric b <;> cases hc : isNumeric c <;>
      simp only [compareIdentifier, ha, hb, hc] at hab hbc ⊢
    case false.false.false => exact TransCmp.isLE_trans hab hbc
    case true.true.true => exact TransCmp.isLE_trans hab hbc
    all_goals first | rfl | contradiction

instance [OrientedCmp numeric] [LawfulEqCmp numeric] :
    LawfulEqCmp (compareIdentifier numeric) where
  compare_self {a} := by
    cases ha : isNumeric a <;> simp only [compareIdentifier, ha] <;> exact ReflCmp.compare_self
  eq_of_compare {a b} h := by
    cases ha : isNumeric a <;> cases hb : isNumeric b <;>
      simp only [compareIdentifier, ha, hb] at h
    case false.false => exact LawfulEqCmp.eq_of_compare h
    case true.true => exact LawfulEqCmp.eq_of_compare h
    all_goals contradiction

end Identifiers

/-! ## Prereleases and versions -/

/-- That there is no prerelease counts first, and then the identifiers. -/
theorem comparePre_eq : comparePre = compareLex (compareOn List.isEmpty)
    (List.compareLex (compareIdentifier comparePreNumber)) := by
  funext a b
  cases a <;> cases b <;> rfl

instance : TransCmp comparePre := comparePre_eq ▸ inferInstance

instance : LawfulEqCmp comparePre where
  eq_of_compare {a b} h := by
    rw [comparePre_eq] at h
    exact LawfulEqCmp.eq_of_compare (Ordering.then_eq_eq.1 h).2

instance : TransCmp compareBuild :=
  inferInstanceAs (TransCmp (List.compareLex (compareIdentifier compareBuildNumber)))

instance : LawfulEqCmp compareBuild :=
  inferInstanceAs (LawfulEqCmp (List.compareLex (compareIdentifier compareBuildNumber)))

instance : TransCmp order :=
  have := transCmp_on comparePre Version.pre
  have := transCmp_on compareBuild Version.build
  inferInstanceAs (TransCmp (compareLex (compareOn major) (compareLex (compareOn minor)
    (compareLex (compareOn patch) (compareLex (fun a b : Version => comparePre a.pre b.pre)
      fun a b => compareBuild a.build b.build)))))

instance order_lawful : LawfulEqCmp order where
  eq_of_compare {a b} h := by
    simp only [order, Ordering.then_eq_eq, LawfulEqCmp.compare_eq_iff_eq] at h
    obtain ⟨hmajor, hminor, hpatch, hpre, hbuild⟩ := h
    cases a
    cases b
    cases hmajor
    cases hminor
    cases hpatch
    cases hpre
    cases hbuild
    rfl

instance : TransOrd Version := inferInstanceAs (TransCmp order)

instance : LawfulEqOrd Version := inferInstanceAs (LawfulEqCmp order)

instance : LinearOrder Version := .ofStd Version

theorem order_eq_lt {v w : Version} : order v w = .lt ↔ v < w :=
  show compare v w = .lt ↔ v < w from compare_lt_iff_lt

theorem order_eq_gt {v w : Version} : order v w = .gt ↔ w < v :=
  show compare v w = .gt ↔ w < v from compare_gt_iff_gt

/-! ## Texts -/

theorem text_of_ofString? {s : String} {v : Version} (h : ofString? s = some v) : v.text = s := by
  rw [text, print_of_parse? h, String.ofList_toList]

theorem ofString?_of_normalize? {s t : String} (h : normalize? s = some t) :
    ∃ v, ofString? t = some v := by
  obtain ⟨v, hv, rfl⟩ := Option.map_eq_some_iff.1 h
  exact ⟨v, by rw [ofString?, text, String.toList_ofList, print_of_parse? hv, hv]⟩

/-- A version is read from one text only. -/
theorem eq_of_ofString? {s t : String} {v : Version} (hs : ofString? s = some v)
    (ht : ofString? t = some v) : s = t := (text_of_ofString? hs).symm.trans (text_of_ofString? ht)

/-- Texts that are versions come last, by their versions. -/
theorem compareTexts_eq : compareTexts = compareLex (compareOn ofString?) compare := by
  funext s t
  unfold compareTexts compareLex compareOn
  cases hs : ofString? s with
  | none => cases ht : ofString? t <;> rfl
  | some v =>
    cases ht : ofString? t with
    | none => rfl
    | some w =>
      change order v w = (order v w).then (compare s t)
      cases hvw : order v w with
      | lt => rfl
      | gt => rfl
      | eq =>
        obtain rfl := LawfulEqCmp.eq_of_compare hvw
        rw [eq_of_ofString? hs ht]
        exact (@ReflCmp.compare_self _ compare _ t).symm

instance : TransCmp compareTexts := compareTexts_eq ▸ inferInstance

instance : LawfulEqCmp compareTexts where
  eq_of_compare h := by
    rw [compareTexts_eq] at h
    exact LawfulEqOrd.eq_of_compare (Ordering.then_eq_eq.1 h).2

end BuildRegistry.Version
