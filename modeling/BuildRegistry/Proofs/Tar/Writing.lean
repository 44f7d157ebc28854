import BuildRegistry.Proofs.Tar.Name

/-
  When an archive can be written. A path that starts with a name and never goes up (`Plain`) is
  refused for nothing but a zero byte, and for that only where it is copied: a path that does not
  fit into a header is copied as far as the header's field has room for it, and written in full
  elsewhere, zeros and all.

  Dropping components never makes a path longer (`length_normalized_le`) and drops no zero
  (`zero_mem_normalized`), so that the copy of a plain path of up to a hundred bytes succeeds
  exactly if the path has no zero byte. A path that is cut short stays plain (`Plain.take`).
  Main statements (`entryRecords_ok_iff`, `write_ok_iff`): an archive of files with plain paths is
  written exactly if none of them has a zero byte in the part that goes into its header.
-/

namespace BuildRegistry.Tar

/-- A path that starts with a name, and of which no component starts like the one that goes up. -/
structure Plain (path : Bytes) : Prop where
  first : ∀ b ∈ path.head?, b ≠ slash ∧ b ≠ dot
  descending : ∀ s ∈ segments path, ¬ [dot, dot] <+: s

/-! ## Segments and components -/

theorem segments_cons {b : UInt8} (hb : b ≠ slash) (s : Bytes) :
    ∃ t ts, segments s = t :: ts ∧ segments (b :: s) = (b :: t) :: ts := by
  cases h : segments s with
  | nil => exact absurd h (segments_ne_nil s)
  | cons t ts => exact ⟨t, ts, rfl, by rw [segments, if_neg hb, h]⟩

/-- The segments of the start of a path are starts of its segments, the first of the first. -/
theorem segments_take (path : Bytes) (n : Nat) : ∃ t ts u us,
    segments (path.take n) = t :: ts ∧ segments path = u :: us ∧ t <+: u ∧
      ∀ x ∈ ts, ∃ y ∈ us, x <+: y := by
  induction path generalizing n with
  | nil => exact ⟨[], [], [], [], by rw [List.take_nil, segments], rfl, List.prefix_rfl, nofun⟩
  | cons b path ih =>
    cases n with
    | zero =>
      obtain ⟨u, us, hu⟩ := List.exists_cons_of_ne_nil (segments_ne_nil (b :: path))
      exact ⟨[], [], u, us, rfl, hu, List.nil_prefix, nofun⟩
    | succ n =>
      obtain ⟨t, ts, u, us, ht, hu, hfirst, hothers⟩ := ih n
      rw [List.take_succ_cons, segments, segments]
      by_cases hb : b = slash
      · rw [if_pos hb, if_pos hb]
        refine ⟨[], _, [], _, rfl, rfl, List.prefix_rfl, ?_⟩
        rw [ht, hu, List.forall_mem_cons]
        refine ⟨⟨u, List.mem_cons_self, hfirst⟩, fun x hx => ?_⟩
        obtain ⟨y, hy, hxy⟩ := hothers x hx
        exact ⟨y, List.mem_cons_of_mem u hy, hxy⟩
      · rw [if_neg hb, if_neg hb, ht, hu]
        exact ⟨b :: t, ts, b :: u, us, rfl, rfl, List.cons_prefix_cons.2 ⟨rfl, hfirst⟩, hothers⟩

/-- A path is its first segment and the others behind it. -/
theorem eq_of_segments {path a : Bytes} {rest : List Bytes} (h : segments path = a :: rest) :
    path = a ++ joined rest := by
  have := joined_segments path
  rw [h, joined_cons] at this
  exact (List.cons.inj this).2.symm

theorem ofSegment_of_descending {s : Bytes} (h : ¬ [dot, dot] <+: s) :
    Component.ofSegment s = .named s := by
  refine if_neg ?_
  rintro rfl
  exact h List.prefix_rfl

/-- The components of a plain path are names. -/
theorem Plain.components {path : Bytes} (h : Plain path) (hne : path ≠ []) :
    ∃ a rest, segments path = a :: rest ∧
      components path = (a :: rest.filter isKept).map .named := by
  obtain ⟨b, s, rfl⟩ := List.exists_cons_of_ne_nil hne
  obtain ⟨hslash, hdot⟩ := h.first b rfl
  obtain ⟨t, ts, -, hsegments⟩ := segments_cons hslash s
  have hdescending := h.descending
  rw [hsegments, List.forall_mem_cons] at hdescending
  refine ⟨b :: t, ts, hsegments, ?_⟩
  unfold Tar.components
  rw [hsegments]
  dsimp only
  rw [if_neg (List.cons_ne_nil b t), if_neg fun heq => hdot (List.cons.inj heq).1,
    ofSegment_of_descending hdescending.1, List.map_cons, List.singleton_append]
  refine congrArg _ (List.map_congr_left fun s hs => ?_)
  exact ofSegment_of_descending (hdescending.2 s (List.mem_filter.1 hs).1)

theorem spelled_named (alone : Bool) (a : Bytes) (rest : List Bytes) :
    spelled alone false ((a :: rest).map .named) = a ++ joined rest := by
  have htail : ∀ l : List Bytes, spelled alone true (l.map .named) = joined l := by
    intro l
    induction l with
    | nil => rfl
    | cons s l ih =>
      rw [List.map_cons, spelled, if_neg (by rintro ⟨⟨⟩, -⟩), ih]
      rfl
  rw [List.map_cons, spelled, if_neg (by rintro ⟨⟨⟩, -⟩), htail]
  rfl

theorem Plain.normalized_eq {path : Bytes} (h : Plain path) (hne : path ≠ []) :
    ∃ a rest, segments path = a :: rest ∧ normalized path =
      a ++ joined (rest.filter isKept) ++ if path.getLast? = some slash then [slash] else [] := by
  obtain ⟨a, rest, hsegments, hcomponents⟩ := h.components hne
  refine ⟨a, rest, hsegments, ?_⟩
  unfold normalized
  dsimp only
  rw [hcomponents, spelled_named]

/-! ## What is dropped -/

/-- Dropping a segment drops the slash in front of it. -/
theorem length_joined_filter (l : List Bytes) :
    (joined (l.filter isKept)).length + (if [] ∈ l then 1 else 0) ≤ (joined l).length := by
  induction l with
  | nil => exact Nat.le_refl 0
  | cons s l ih =>
    rw [joined_cons, List.length_cons, List.length_append]
    by_cases hs : isKept s = true
    · have hne : ¬ [] = s := by
        rintro rfl
        cases hs
      have hmem : [] ∈ s :: l ↔ [] ∈ l := by rw [List.mem_cons, or_iff_right hne]
      rw [List.filter_cons_of_pos hs, joined_cons, List.length_cons, List.length_append]
      simp only [hmem]
      omega
    · rw [List.filter_cons_of_neg hs]
      split at ih <;> split <;> omega

theorem nil_mem_of_getLast? {path a : Bytes} {rest : List Bytes} (h : segments path = a :: rest)
    (hlast : path.getLast? = some slash) : [] ∈ rest := by
  obtain ⟨s, rfl⟩ := List.getLast?_eq_some_iff.1 hlast
  obtain ⟨t, ts, ht⟩ := List.exists_cons_of_ne_nil (segments_ne_nil s)
  rw [segments_append, ht] at h
  rw [← (List.cons.inj h).2]
  exact List.mem_append_right ts (List.mem_singleton_self [])

theorem length_normalized_le {path : Bytes} (h : Plain path) :
    (normalized path).length ≤ path.length := by
  by_cases hne : path = []
  · rw [hne]
    exact Nat.le_refl 0
  · obtain ⟨a, rest, hsegments, hnormalized⟩ := h.normalized_eq hne
    have hjoined := length_joined_filter rest
    have hpath := congrArg List.length (eq_of_segments hsegments)
    rw [List.length_append] at hpath
    rw [hnormalized, List.length_append, List.length_append]
    split
    · rename_i hlast
      rw [if_pos (nil_mem_of_getLast? hsegments hlast)] at hjoined
      rw [List.length_singleton]
      omega
    · rw [List.length_nil]
      omega

theorem zero_mem_normalized {path : Bytes} (h : Plain path) :
    (0 : UInt8) ∈ normalized path ↔ (0 : UInt8) ∈ path := by
  by_cases hne : path = []
  · rw [hne]
    exact iff_of_false List.not_mem_nil List.not_mem_nil
  · obtain ⟨a, rest, hsegments, hnormalized⟩ := h.normalized_eq hne
    have hlast : (0 : UInt8) ∉ if path.getLast? = some slash then [slash] else [] := by
      split <;> decide
    have hrest : (0 : UInt8) ∈ joined (rest.filter isKept) ↔ (0 : UInt8) ∈ joined rest := by
      simp only [joined, List.mem_flatMap, List.mem_filter]
      constructor
      · rintro ⟨s, ⟨hs, -⟩, hmem⟩
        exact ⟨s, hs, hmem⟩
      · rintro ⟨s, hs, hmem⟩
        -- neither an empty segment nor a dot has a zero
        have hkept : isKept s := by
          rw [isKept, Bool.and_eq_true, decide_eq_true_eq, decide_eq_true_eq]
          constructor <;> rintro rfl <;> revert hmem <;> decide
        exact ⟨s, ⟨hs, hkept⟩, hmem⟩
    rw [hnormalized, List.mem_append, or_iff_left hlast, List.mem_append, hrest, ← List.mem_append,
      ← eq_of_segments hsegments]

/-! ## Copies of plain paths -/

section Copies

variable {f g : NameField} {cut alone afterOther : Bool} {path : Bytes}

theorem copyBytes_of_fits {b : Bytes} (hroom : f.used + b.length ≤ nameSize)
    (hzero : (0 : UInt8) ∉ b) : copyBytes b f = .ok () (f.extended b) := by
  rw [copyBytes_run, if_neg (Nat.not_lt.2 hroom), if_neg (by simpa using hzero)]

theorem copyPart_of_fits {b : Bytes}
    (hroom : f.used + (spelled.part afterOther b).length ≤ nameSize) (hzero : (0 : UInt8) ∉ b) :
    ∃ g, copyPart afterOther b f = .ok () g ∧
      g.used = f.used + (spelled.part afterOther b).length := by
  cases afterOther with
  | false => exact ⟨_, copyBytes_of_fits hroom hzero, rfl⟩
  | true =>
    have hlength : (spelled.part true b).length = 1 + b.length := Nat.add_comm b.length 1
    rw [hlength, ← Nat.add_assoc] at hroom ⊢
    have hslash : copyBytes [slash] f = .ok () (f.extended [slash]) :=
      copyBytes_of_fits (Nat.le_trans (Nat.le_add_right _ _) hroom) (by decide)
    exact ⟨_, (bind_of_ok hslash).trans (copyBytes_of_fits hroom hzero), rfl⟩

theorem zero_not_mem_of_copyBytes {b : Bytes} (h : copyBytes b f = .ok () g) : (0 : UInt8) ∉ b := by
  rw [copyBytes_run] at h
  split at h
  · cases h
  · split at h
    · cases h
    · rename_i hzero
      simpa using hzero

theorem zero_not_mem_of_copyPart {b : Bytes} (h : copyPart afterOther b f = .ok () g) :
    (0 : UInt8) ∉ spelled.part afterOther b := by
  cases afterOther with
  | false => exact zero_not_mem_of_copyBytes h
  | true =>
    obtain ⟨_, _, -, h⟩ := bind_ok.1 h
    exact List.not_mem_cons_of_ne_of_not_mem (by decide) (zero_not_mem_of_copyBytes h)

theorem spelled_cons_named (s : Bytes) (parts : List Component) :
    spelled alone afterOther (.named s :: parts) =
      spelled.part afterOther s ++ spelled alone true parts := if_neg fun h => nomatch h.1

theorem copyNames_of_fits {names : List Bytes}
    (hroom : f.used + (spelled alone afterOther (names.map .named)).length ≤ nameSize)
    (hzero : (0 : UInt8) ∉ spelled alone afterOther (names.map .named)) :
    ∃ g, copyComponents cut alone afterOther (names.map .named) f = .ok () g ∧
      g.used = f.used + (spelled alone afterOther (names.map .named)).length := by
  induction names generalizing afterOther f with
  | nil => exact ⟨f, rfl, rfl⟩
  | cons s names ih =>
    rw [List.map_cons, spelled_cons_named] at hroom hzero ⊢
    rw [List.length_append] at hroom ⊢
    rw [List.mem_append, not_or] at hzero
    have hs : (0 : UInt8) ∉ s := fun hmem => hzero.1 (by
      cases afterOther with
      | false => exact hmem
      | true => exact List.mem_cons_of_mem _ hmem)
    have hfirst : f.used + (spelled.part afterOther s).length ≤ nameSize := by omega
    obtain ⟨f', hf', hused⟩ := copyPart_of_fits hfirst hs
    obtain ⟨g, hg, hused'⟩ := ih (f := f') (by omega) hzero.2
    exact ⟨g, (bind_of_ok hf').trans hg, by omega⟩

theorem zero_not_mem_of_copyNames {names : List Bytes}
    (h : copyComponents cut alone afterOther (names.map .named) f = .ok () g) :
    (0 : UInt8) ∉ spelled alone afterOther (names.map .named) := by
  induction names generalizing afterOther f with
  | nil => exact List.not_mem_nil
  | cons s names ih =>
    obtain ⟨_, f', hpart, h⟩ := bind_ok.1 h
    rw [List.map_cons, spelled_cons_named, List.mem_append, not_or]
    exact ⟨zero_not_mem_of_copyPart hpart, ih h⟩

/-- After its components a path has at most a slash left to copy. -/
theorem copyPath_of_components
    (h : copyComponents cut ((components path).length = 1) false (components path)
      { f with used := 0 } = .ok () g) :
    copyPath cut path f = if path.getLast? = some slash then copyBytes [slash] g else .ok () g := by
  change (copyComponents cut _ false (components path) >>= fun _ =>
    if path.getLast? = some slash then copyBytes [slash] else pure ()) { f with used := 0 } = _
  rw [bind_of_ok h]
  split <;> rfl

/-- A plain path with no zero byte is copied if the field is wide enough for it. -/
theorem copyPath_of_plain (h : Plain path) (hlength : path.length ≤ nameSize)
    (hzero : (0 : UInt8) ∉ path) : ∃ g, copyPath cut path f = .ok () g := by
  by_cases hne : path = []
  · rw [hne]
    exact ⟨_, rfl⟩
  · have hfits := Nat.le_trans (length_normalized_le h) hlength
    have hclean := mt (zero_mem_normalized h).1 hzero
    obtain ⟨a, rest, -, hcomponents⟩ := h.components hne
    unfold normalized at hfits hclean
    dsimp only at hfits hclean
    rw [List.length_append] at hfits
    rw [List.mem_append, not_or] at hclean
    obtain ⟨g, hg, hused⟩ : ∃ g, copyComponents cut ((components path).length = 1) false
        (components path) { f with used := 0 } = .ok () g ∧
        g.used = 0 + (spelled ((components path).length = 1) false (components path)).length := by
      rw [hcomponents] at hfits hclean ⊢
      refine copyNames_of_fits ?_ hclean.1
      rw [Nat.zero_add]
      exact Nat.le_trans (Nat.le_add_right _ _) hfits
    rw [copyPath_of_components hg]
    split
    · rename_i hlast
      rw [if_pos hlast, List.length_singleton] at hfits
      have hroom : g.used + 1 ≤ nameSize := by omega
      exact ⟨_, copyBytes_of_fits hroom (by decide)⟩
    · exact ⟨g, rfl⟩

theorem zero_not_mem_of_copyPath (h : Plain path) (hcopy : copyPath cut path f = .ok () g) :
    (0 : UInt8) ∉ path := by
  intro hzero
  obtain ⟨a, rest, -, hcomponents⟩ := h.components (List.ne_nil_of_mem hzero)
  have hmem := (zero_mem_normalized h).2 hzero
  unfold normalized at hmem
  dsimp only at hmem
  obtain ⟨_, f₁, -, hcopy⟩ := bind_ok.1 hcopy
  obtain ⟨_, f₂, hparts, -⟩ := bind_ok.1 hcopy
  rw [hcomponents] at hmem hparts
  rcases List.mem_append.1 hmem with hmem | hmem
  · exact zero_not_mem_of_copyNames hparts hmem
  · revert hmem
    split <;> decide

end Copies

/-! ## Paths cut short -/

theorem Plain.take {path : Bytes} (h : Plain path) (n : Nat) : Plain (path.take n) where
  first b hb := by
    cases path with
    | nil =>
      rw [List.take_nil] at hb
      cases hb
    | cons a path =>
      cases n with
      | zero => cases hb
      | succ n => exact h.first b hb
  descending t ht := by
    obtain ⟨u, us, v, vs, hu, hv, hfirst, hothers⟩ := segments_take path n
    have hdescending := h.descending
    rw [hu] at ht
    rw [hv] at hdescending
    intro hdots
    rcases List.mem_cons.1 ht with rfl | ht
    · exact hdescending v List.mem_cons_self (hdots.trans hfirst)
    · obtain ⟨s, hs, hts⟩ := hothers t ht
      exact hdescending s (List.mem_cons_of_mem v hs) (hdots.trans hts)

theorem boundary_le (b : Bytes) (n : Nat) : boundary b n ≤ n := by
  induction n with
  | zero => exact Nat.le_refl 0
  | succ n ih =>
    rw [boundary]
    split
    · exact Nat.le_succ_of_le ih
    · exact Nat.le_refl _

theorem length_abridged_le (path : Bytes) : (abridged path).length ≤ nameSize :=
  Nat.le_trans (List.length_take_le _ _) (boundary_le path nameSize)

/-- A path that is shorter than the field is not cut. -/
theorem abridged_of_short {path : Bytes} (h : path.length < nameSize) : abridged path = path := by
  have hboundary : boundary path nameSize = nameSize := by
    have hnone : path[99 + 1]? = none := List.getElem?_eq_none (Nat.le_of_lt h)
    rw [nameSize, boundary, hnone]
    rfl
  rw [abridged, hboundary, List.take_of_length_le (Nat.le_of_lt h)]

/-! ## Archives that are written -/

/-- A record is made of a file with a plain path exactly if the header's part of the path has no
zero byte. -/
theorem entryRecords_ok_iff {e : Entry} (h : Plain e.path) :
    (∃ data, entryRecords e = .ok data) ↔ (0 : UInt8) ∉ abridged e.path := by
  have hplain : Plain (abridged e.path) := h.take _
  unfold entryRecords
  cases hwhole : copyPath false e.path .blank with
  | ok u name =>
    dsimp only
    exact iff_of_true ⟨_, rfl⟩ fun hzero =>
      zero_not_mem_of_copyPath h hwhole (List.mem_of_mem_take hzero)
  | error reason name =>
    dsimp only
    by_cases hshort : e.path.length < nameSize
    · rw [if_pos hshort, abridged_of_short hshort]
      refine iff_of_false nofun fun hzero => ?_
      obtain ⟨g, hg⟩ : ∃ g, copyPath false e.path .blank = .ok () g :=
        copyPath_of_plain h (Nat.le_of_lt hshort) hzero
      rw [hwhole] at hg
      cases hg
    · rw [if_neg hshort]
      cases hcut : copyPath true (abridged e.path) name with
      | ok u name' => exact iff_of_true ⟨_, rfl⟩ (zero_not_mem_of_copyPath hplain hcut)
      | error reason' name' =>
        refine iff_of_false nofun fun hzero => ?_
        obtain ⟨g, hg⟩ : ∃ g, copyPath true (abridged e.path) name = .ok () g :=
          copyPath_of_plain hplain (length_abridged_le _) hzero
        rw [hcut] at hg
        cases hg

theorem mapM_ok_iff {ε α β : Type} {f : α → Except ε β} {l : List α} :
    (∃ bs, l.mapM f = .ok bs) ↔ ∀ a ∈ l, ∃ b, f a = .ok b := by
  induction l with
  | nil => exact iff_of_true ⟨[], rfl⟩ nofun
  | cons a l ih =>
    rw [List.forall_mem_cons, ← ih, List.mapM_cons]
    cases f a with
    | error e => exact iff_of_false nofun nofun
    | ok b =>
      cases l.mapM f with
      | error e => exact iff_of_false nofun nofun
      | ok bs => exact iff_of_true ⟨_, rfl⟩ ⟨⟨b, rfl⟩, bs, rfl⟩

/-- Files with plain paths are archived exactly if no header's part of a path has a zero byte. -/
theorem write_ok_iff {es : List Entry} (h : ∀ e ∈ es, Plain e.path) :
    (∃ data, write es = .ok data) ↔ ∀ e ∈ es, (0 : UInt8) ∉ abridged e.path := by
  have hrecords : (∃ data, write es = .ok data) ↔ ∃ bs, es.mapM entryRecords = .ok bs := by
    unfold write
    cases es.mapM entryRecords with
    | error fault => exact iff_of_false nofun nofun
    | ok bs => exact iff_of_true ⟨_, rfl⟩ ⟨bs, rfl⟩
  rw [hrecords, mapM_ok_iff]
  exact forall₂_congr fun e he => entryRecords_ok_iff (h e he)

end BuildRegistry.Tar
