import Mathlib.Order.Bounds.Basic
import Mathlib.Order.MinMax
import BuildRegistry.Proofs.Version.Order

/-
  Versions selected among texts. `among` is the set of the versions that some texts are; a
  selection gives the text of the highest one of those that are allowed, if there is any
  (`isHighestText_select?`). Sorted texts of versions descend, and the first of them is what the
  selection of the latest gives.
-/

namespace BuildRegistry.Version

open Std (OrientedCmp TransCmp LawfulEqCmp)

/-- The versions that some texts are. -/
def among (ss : List String) : Set Version := {v | ∃ s ∈ ss, ofString? s = some v}

/-- What may be selected: prereleases only if they are asked for. -/
def Allowed (prereleases : Bool) (v : Version) : Prop := prereleases = true ∨ v.pre = []

/-- Texts of versions, each of them higher than those after it. -/
def Descending (ss : List String) : Prop :=
  ∃ vs : List Version, ss.map ofString? = vs.map some ∧ vs.Pairwise (· > ·)

variable {ss ts : List String} {s t : String} {v w : Version} {prereleases : Bool}

theorem mem_among : v ∈ among ss ↔ ∃ s ∈ ss, ofString? s = some v := Iff.rfl

theorem among_congr (h : ∀ s, s ∈ ss ↔ s ∈ ts) : among ss = among ts :=
  Set.ext fun _ => exists_congr fun _ => and_congr_left fun _ => h _

/-! ## Prereleases -/

theorem isPrereleaseText_of_ofString? (h : ofString? s = some v) :
    isPrereleaseText s = v.isPrerelease := by
  rw [isPrereleaseText, h, Option.any_some]

theorem allowed_iff : Allowed prereleases v ↔ (prereleases || !v.isPrerelease) = true := by
  simp [Allowed, isPrerelease]

theorem allowed_text_iff (h : ofString? s = some v) :
    (prereleases || !isPrereleaseText s) = true ↔ Allowed prereleases v := by
  rw [isPrereleaseText_of_ofString? h, allowed_iff]

/-- What is left of some texts without prereleases that are not asked for. -/
theorem mem_among_filter : v ∈ among (ss.filter fun s => prereleases || !isPrereleaseText s) ↔
    v ∈ among ss ∧ Allowed prereleases v := by
  constructor
  · rintro ⟨s, hs, hv⟩
    obtain ⟨hs, hallowed⟩ := List.mem_filter.1 hs
    exact ⟨⟨s, hs, hv⟩, (allowed_text_iff hv).1 hallowed⟩
  · rintro ⟨⟨s, hs, hv⟩, hallowed⟩
    exact ⟨s, List.mem_filter.2 ⟨hs, (allowed_text_iff hv).2 hallowed⟩, hv⟩

/-! ## The highest version -/

/-- The text of the highest one of some versions, or nothing if there are none. -/
def IsHighestText (vs : Set Version) : Option String → Prop
  | some t => ∃ v, IsGreatest vs v ∧ v.text = t
  | none => vs = ∅

theorem IsHighestText.unique {vs : Set Version} {x y : Option String} (hx : IsHighestText vs x)
    (hy : IsHighestText vs y) : x = y := by
  cases x with
  | none =>
    cases y with
    | none => rfl
    | some t =>
      obtain ⟨v, hv, -⟩ := hy
      exact absurd (hx ▸ hv.1 : v ∈ (∅ : Set Version)) (Set.notMem_empty v)
  | some s =>
    obtain ⟨v, hv, rfl⟩ := hx
    cases y with
    | none => exact absurd (hy ▸ hv.1 : v ∈ (∅ : Set Version)) (Set.notMem_empty v)
    | some t =>
      obtain ⟨w, hw, rfl⟩ := hy
      rw [hv.unique hw]

theorem later_eq_max (v w : Version) : later v w = max v w := by
  unfold later
  split
  · rename_i h
    exact (max_eq_left (order_eq_gt.1 h).le).symm
  · rename_i h
    exact (max_eq_right (not_lt.1 fun hlt => h (order_eq_gt.2 hlt))).symm

theorem isGreatest_foldl_later (v : Version) (vs : List Version) :
    IsGreatest {w | w ∈ v :: vs} (vs.foldl later v) := by
  induction vs generalizing v with
  | nil => exact ⟨List.mem_singleton_self v, fun w hw => (List.mem_singleton.1 hw).le⟩
  | cons w vs ih =>
    obtain ⟨hmem, hle⟩ := ih (later v w)
    rw [List.foldl_cons]
    have hmax := later_eq_max v w
    constructor
    · rcases List.mem_cons.1 hmem with h | h
      · rcases max_choice v w with hv | hw
        · exact List.mem_cons.2 (.inl (h.trans (hmax.trans hv)))
        · exact List.mem_cons_of_mem v (List.mem_cons.2 (.inl (h.trans (hmax.trans hw))))
      · exact List.mem_cons_of_mem v (List.mem_cons_of_mem w h)
    · have hlater : later v w ≤ vs.foldl later (later v w) := hle List.mem_cons_self
      rw [hmax] at hlater ⊢
      intro u hu
      rcases List.mem_cons.1 hu with rfl | hu
      · exact (le_max_left u w).trans hlater
      · rcases List.mem_cons.1 hu with rfl | hu
        · exact (le_max_right v u).trans hlater
        · exact hmax ▸ hle (List.mem_cons_of_mem _ hu)

theorem isHighestText_highest? (vs : List Version) :
    IsHighestText {v | v ∈ vs} ((highest? vs).map text) := by
  cases vs with
  | nil => exact Set.eq_empty_iff_forall_notMem.2 fun _ => List.not_mem_nil
  | cons v vs => exact ⟨_, isGreatest_foldl_later v vs, rfl⟩

/-! ## Selections -/

theorem isHighestText_select? (allowed : Version → Bool) (ss : List String) :
    IsHighestText {v | v ∈ among ss ∧ allowed v = true} (select? allowed ss) := by
  have hset : {v | v ∈ among ss ∧ allowed v = true} =
      {v | v ∈ (ss.filterMap ofString?).filter allowed} := Set.ext fun v => by
    simp only [Set.mem_ofPred_eq, List.mem_filter, List.mem_filterMap, mem_among]
  rw [hset]
  exact isHighestText_highest? _

theorem isHighestText_latest? (prereleases : Bool) (ss : List String) :
    IsHighestText {v | v ∈ among ss ∧ Allowed prereleases v} (latest? prereleases ss) := by
  simp only [allowed_iff]
  exact isHighestText_select? _ ss

/-- Leaving out what is not allowed does not change the selection. -/
theorem latest?_filter (prereleases : Bool) (ss : List String) :
    latest? prereleases (ss.filter fun s => prereleases || !isPrereleaseText s) =
      latest? prereleases ss := by
  have h := isHighestText_latest? prereleases
    (ss.filter fun s => prereleases || !isPrereleaseText s)
  simp only [mem_among_filter, and_assoc, and_self] at h
  exact h.unique (isHighestText_latest? prereleases ss)

/-! ## Sorted texts -/

theorem mem_sortTexts : s ∈ sortTexts ss ↔ s ∈ ss := List.mem_mergeSort

theorem sorted_sortTexts (ss : List String) :
    (sortTexts ss).Pairwise fun s t => (compareTexts t s).isLE := by
  have htrans : ∀ s t u : String, (compareTexts t s).isLE → (compareTexts u t).isLE →
      (compareTexts u s).isLE := fun s t u hst htu => TransCmp.isLE_trans htu hst
  have htotal : ∀ s t : String, ((compareTexts t s).isLE || (compareTexts s t).isLE) = true := by
    intro s t
    rw [@OrientedCmp.eq_swap _ compareTexts _ t s]
    cases compareTexts s t <;> rfl
  exact List.pairwise_mergeSort htrans htotal ss

/-- Sorted texts are known by what was sorted. -/
theorem eq_of_sorted (hss : ss.Pairwise fun s t => (compareTexts t s).isLE)
    (hts : ts.Pairwise fun s t => (compareTexts t s).isLE) (h : ss.Perm ts) : ss = ts :=
  List.Perm.eq_of_pairwise (fun s t _ _ hst hts => LawfulEqCmp.eq_of_compare
    (show compareTexts s t = .eq from OrientedCmp.isLE_antisymm hts hst)) hss hts h

/-- Leaving out some of the sorted texts is sorting what is left. -/
theorem sortTexts_filter (keep : String → Bool) (ss : List String) :
    sortTexts (ss.filter keep) = (sortTexts ss).filter keep :=
  eq_of_sorted (sorted_sortTexts _) ((sorted_sortTexts ss).sublist List.filter_sublist)
    ((List.mergeSort_perm _ _).trans ((List.mergeSort_perm ss _).filter keep).symm)

theorem compareTexts_of_ofString? (hs : ofString? s = some v) (ht : ofString? t = some w) :
    compareTexts s t = order v w := by
  rw [compareTexts, hs, ht]

theorem descending_of_pairwise (hread : ∀ s ∈ ss, ∃ v, ofString? s = some v)
    (h : ss.Pairwise fun s t => compareTexts t s = .lt) : Descending ss := by
  induction h with
  | nil => exact ⟨[], rfl, .nil⟩
  | @cons s ss hs _ ih =>
    obtain ⟨⟨v, hv⟩, hread⟩ := List.forall_mem_cons.1 hread
    obtain ⟨vs, hmap, hvs⟩ := ih hread
    refine ⟨v :: vs, by rw [List.map_cons, List.map_cons, hv, hmap],
      List.pairwise_cons.2 ⟨fun w hw => ?_, hvs⟩⟩
    obtain ⟨t, ht, hw⟩ := List.mem_map.1 (hmap ▸ List.mem_map_of_mem hw : some w ∈ ss.map ofString?)
    have hlt : order w v = .lt := compareTexts_of_ofString? hw hv ▸ hs t ht
    exact order_eq_lt.1 hlt

/-- Different texts of versions descend once they are sorted. -/
theorem descending_sortTexts (hnodup : ss.Nodup) (hread : ∀ s ∈ ss, ∃ v, ofString? s = some v) :
    Descending (sortTexts ss) := by
  have hnodup' : (sortTexts ss).Nodup := (List.mergeSort_perm ss _).nodup_iff.2 hnodup
  refine descending_of_pairwise (fun s hs => hread s (mem_sortTexts.1 hs))
    (((sorted_sortTexts ss).and hnodup').imp fun {s t} h => ?_)
  refine (Ordering.isLE_iff_eq_lt_or_eq_eq.1 h.1).resolve_right fun heq => h.2 ?_
  exact (LawfulEqCmp.eq_of_compare heq).symm

/-- The first of descending texts is that of the highest version among them. -/
theorem Descending.isHighestText_head? (h : Descending ss) : IsHighestText (among ss) ss.head? := by
  obtain ⟨vs, hmap, hvs⟩ := h
  cases ss with
  | nil => exact Set.eq_empty_iff_forall_notMem.2 fun v ⟨s, hs, _⟩ => List.not_mem_nil hs
  | cons s ss =>
    obtain ⟨v, vs, rfl⟩ := List.exists_cons_of_ne_nil (l := vs) (by rintro rfl; cases hmap)
    rw [List.map_cons, List.map_cons, List.cons.injEq] at hmap
    refine ⟨v, ⟨⟨s, List.mem_cons_self, hmap.1⟩, ?_⟩, text_of_ofString? hmap.1⟩
    rintro w ⟨t, ht, hw⟩
    rcases List.mem_cons.1 ht with rfl | ht
    · rw [hmap.1] at hw
      exact (Option.some.inj hw).ge
    · have hmem : some w ∈ vs.map some := hmap.2 ▸ hw ▸ List.mem_map_of_mem ht
      obtain ⟨u, hu, huw⟩ := List.mem_map.1 hmem
      obtain rfl := Option.some.inj huw
      exact ((List.pairwise_cons.1 hvs).1 u hu).le

/-- The latest of descending texts is the first of those that are allowed. -/
theorem Descending.latest?_eq_head? (h : Descending ss)
    (hallowed : ∀ v ∈ among ss, Allowed prereleases v) : latest? prereleases ss = ss.head? := by
  have hset : {v | v ∈ among ss ∧ Allowed prereleases v} = among ss :=
    Set.ext fun v => and_iff_left_of_imp (hallowed v)
  exact (hset ▸ isHighestText_latest? prereleases ss).unique h.isHighestText_head?

end BuildRegistry.Version
