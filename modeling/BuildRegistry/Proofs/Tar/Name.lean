import BuildRegistry.Proofs.Calls
import BuildRegistry.Tar

/-
  Paths in the name field of a header. A field that starts blank holds what was copied into it and
  zeros after that (`NameField.holding`), so a path that is copied whole is read back without the
  single dots among its components (`copyPath_ok`). Whatever becomes of a copy, the field keeps its
  width (`sized_copyPath`).
-/

namespace BuildRegistry.Tar

/-! ## Segments -/

theorem segments_ne_nil (a : Bytes) : segments a ≠ [] := by
  cases a with
  | nil => nofun
  | cons c a =>
    rw [segments]
    split
    · nofun
    · split <;> nofun

theorem segments_append (a b : Bytes) : segments (a ++ slash :: b) = segments a ++ segments b := by
  induction a with
  | nil => exact if_pos rfl
  | cons c a ih =>
    rw [List.cons_append, segments, segments]
    split
    · rw [ih, List.cons_append]
    · rw [ih]
      cases h : segments a with
      | nil => exact absurd h (segments_ne_nil a)
      | cons t ts => rfl

theorem segments_of_no_slash {a : Bytes} (h : slash ∉ a) : segments a = [a] := by
  induction a with
  | nil => rfl
  | cons c a ih =>
    rw [List.mem_cons, not_or] at h
    rw [segments, if_neg (Ne.symm h.1), ih h.2]

/-- The path that segments make after something else. -/
def joined (segs : List Bytes) : Bytes := segs.flatMap (slash :: ·)

theorem joined_cons (s : Bytes) (l : List Bytes) : joined (s :: l) = slash :: (s ++ joined l) := rfl

theorem joined_segments (s : Bytes) : joined (segments s) = slash :: s := by
  induction s with
  | nil => rfl
  | cons b s ih =>
    rw [segments]
    split
    · rename_i hb
      rw [joined_cons, ih, hb]
      rfl
    · cases h : segments s with
      | nil => exact absurd h (segments_ne_nil s)
      | cons t ts =>
        rw [h, joined_cons] at ih
        rw [joined_cons, List.cons_append, (List.cons.inj ih).2]

theorem segments_joined {a : Bytes} (ha : slash ∉ a) {segs : List Bytes}
    (hsegs : ∀ s ∈ segs, slash ∉ s) : segments (a ++ joined segs) = a :: segs := by
  induction segs generalizing a with
  | nil => rw [joined, List.flatMap_nil, List.append_nil, segments_of_no_slash ha]
  | cons s segs ih =>
    rw [List.forall_mem_cons] at hsegs
    rw [joined_cons, segments_append, segments_of_no_slash ha, ih hsegs.1 hsegs.2]
    rfl

/-! ## What a field holds -/

namespace NameField

/-- The field that started blank and into which a path was copied so far. -/
def holding (w : Bytes) : NameField := ⟨w ++ zeros (nameSize - w.length), w.length⟩

/-- What fits into a field and is read back from it. -/
def Clean (w : Bytes) : Prop := w.length ≤ nameSize ∧ (0 : UInt8) ∉ w

theorem name_holding {w : Bytes} (hw : Clean w) : (holding w).name = w := by
  have hzeros : ∀ n, (zeros n).takeWhile (fun b : UInt8 => decide (b ≠ 0)) = [] := fun n => by
    cases n <;> rfl
  rw [name, holding, List.takeWhile_append_of_pos, hzeros, List.append_nil]
  intro b hb
  rw [decide_eq_true_eq]
  rintro rfl
  exact hw.2 hb

theorem length_holding {w : Bytes} (hw : w.length ≤ nameSize) :
    (holding w).bytes.length = nameSize := by
  rw [holding, List.length_append, zeros, List.length_replicate]
  omega

theorem extended_holding (w b : Bytes) : (holding w).extended b = holding (w ++ b) := by
  have hkept : (w ++ zeros (nameSize - w.length)).take w.length ++ b = w ++ b := by
    rw [List.take_left]
  have hdrop : ∀ n, (w ++ zeros (nameSize - w.length)).drop (w.length + n) =
      zeros (nameSize - w.length - n) := by
    intro n
    rw [List.drop_length_add_append, zeros, List.drop_replicate, zeros]
  unfold extended holding
  dsimp only
  rw [hkept, List.length_append]
  split
  · rename_i hroom
    have hzeros : nameSize - (w.length + b.length) = nameSize - w.length - (b.length + 1) + 1 := by
      omega
    rw [List.length_append, List.length_append, List.length_singleton, Nat.add_assoc, hdrop, hzeros,
      List.append_assoc]
    rfl
  · rw [List.length_append, hdrop, Nat.sub_sub]

end NameField

open NameField

/-- A component as it stands in a path. -/
def Component.text : Component → Bytes
  | .root => []
  | .here => [dot]
  | .parent => [dot, dot]
  | .named name => name

/-- Components as they are copied, with a slash in front of those that come after others. -/
def spelled (alone : Bool) : Bool → List Component → Bytes
  | _, [] => []
  | afterOther, c :: rest =>
    if c = .here ∧ alone = false then spelled alone afterOther rest
    else part afterOther c.text ++ spelled alone true rest
where
  part (afterOther : Bool) (b : Bytes) : Bytes := if afterOther then slash :: b else b

/-- A path as a name field holds it. -/
def normalized (path : Bytes) : Bytes :=
  let parts := components path
  spelled (parts.length = 1) false parts ++ if path.getLast? = some slash then [slash] else []

theorem copyBytes_run (b : Bytes) (f : NameField) : copyBytes b f =
    if nameSize < f.used + b.length then .error .tooLong f
    else if b.contains 0 then .error .zeroByte f
    else .ok () (f.extended b) := by
  change (if nameSize < f.used + b.length then throw .tooLong
    else if b.contains 0 then throw .zeroByte else set (f.extended b) : NameWriter Unit) f = _
  split
  · rfl
  · split <;> rfl

section Copies

variable {w : Bytes} {f : NameField}

theorem copyBytes_ok {b : Bytes} (hw : Clean w) (h : copyBytes b (holding w) = .ok () f) :
    f = holding (w ++ b) ∧ Clean (w ++ b) := by
  rw [copyBytes_run] at h
  split at h
  · cases h
  · rename_i hroom
    split at h
    · cases h
    · rename_i hzero
      refine ⟨?_, by rw [List.length_append]; exact Nat.le_of_not_lt hroom, ?_⟩
      · rw [← extended_holding]
        exact (EStateM.Result.ok.inj h).2.symm
      · rw [List.mem_append, not_or]
        exact ⟨hw.2, by simpa using hzero⟩

theorem copyPart_ok {afterOther : Bool} {b : Bytes} (hw : Clean w)
    (h : copyPart afterOther b (holding w) = .ok () f) :
    f = holding (w ++ spelled.part afterOther b) ∧ Clean (w ++ spelled.part afterOther b) := by
  cases afterOther with
  | false => exact copyBytes_ok hw h
  | true =>
    obtain ⟨_, g, hslash, h⟩ := bind_ok.1 h
    obtain ⟨rfl, hclean⟩ := copyBytes_ok hw hslash
    have hcopied := copyBytes_ok hclean h
    rwa [List.append_assoc] at hcopied

theorem copyComponents_ok {alone afterOther : Bool} {parts : List Component} (hw : Clean w)
    (h : copyComponents false alone afterOther parts (holding w) = .ok () f) :
    f = holding (w ++ spelled alone afterOther parts) ∧
      Clean (w ++ spelled alone afterOther parts) := by
  induction parts generalizing afterOther w with
  | nil =>
    obtain ⟨-, rfl⟩ := pure_ok.1 h
    rw [spelled, List.append_nil]
    exact ⟨rfl, hw⟩
  | cons c rest ih =>
    have step : ∀ {b : Bytes}, (do copyPart afterOther b; copyComponents false alone true rest)
        (holding w) = .ok () f →
        f = holding (w ++ (spelled.part afterOther b ++ spelled alone true rest)) ∧
          Clean (w ++ (spelled.part afterOther b ++ spelled alone true rest)) := by
      intro b h
      obtain ⟨_, g, hpart, h⟩ := bind_ok.1 h
      obtain ⟨rfl, hclean⟩ := copyPart_ok hw hpart
      have hcopied := ih hclean h
      rwa [List.append_assoc] at hcopied
    cases c with
    | root => exact absurd h throw_not_ok
    | parent => exact absurd h throw_not_ok
    | here =>
      rw [copyComponents] at h
      rw [spelled]
      cases alone with
      | false => exact ih hw h
      | true => exact step h
    | named name => exact step h

/-- A path that is copied whole. -/
theorem copyPath_ok {path : Bytes} (h : copyPath false path .blank = .ok () f) :
    f = holding (normalized path) ∧ Clean (normalized path) := by
  obtain ⟨_, g, hstart, h⟩ := bind_ok.1 h
  obtain rfl : holding [] = g := (EStateM.Result.ok.inj hstart).2
  obtain ⟨_, g, hparts, h⟩ := bind_ok.1 h
  obtain ⟨rfl, hclean⟩ := copyComponents_ok ⟨Nat.zero_le _, List.not_mem_nil⟩ hparts
  rw [List.nil_append] at h hclean
  unfold normalized
  dsimp only
  split at h
  · rename_i hslash
    rw [if_pos hslash]
    exact copyBytes_ok hclean h
  · rename_i hslash
    rw [if_neg hslash, List.append_nil]
    exact ⟨(pure_ok.1 h).2.symm, hclean⟩

end Copies

/-! ## Paths under a root -/

theorem spelled_ofSegment (alone afterOther : Bool) (s : Bytes) (rest : List Component) :
    spelled alone afterOther (.ofSegment s :: rest) =
      spelled.part afterOther s ++ spelled alone true rest := by
  have htext : (Component.ofSegment s).text = s ∧ Component.ofSegment s ≠ .here := by
    unfold Component.ofSegment
    split
    · rename_i h
      exact ⟨h.symm, nofun⟩
    · exact ⟨rfl, nofun⟩
  rw [spelled, if_neg fun h => htext.2 h.1, htext.1]

theorem spelled_map_ofSegment (alone : Bool) (segs : List Bytes) :
    spelled alone true (segs.map .ofSegment) = joined segs := by
  induction segs with
  | nil => rfl
  | cons s segs ih =>
    rw [List.map_cons, spelled_ofSegment, ih]
    rfl

/-- Whether a segment that is not the first counts as a component. -/
def isKept (s : Bytes) : Bool := s ≠ [] && s ≠ [dot]

theorem normalized_under {root s : Bytes} (hslash : slash ∉ root) (hne : root ≠ [])
    (hdot : root ≠ [dot]) (hend : (slash :: s).getLast? ≠ some slash) :
    normalized (root ++ slash :: s) = root ++ joined ((segments s).filter isKept) := by
  have hparts : components (root ++ slash :: s) =
      .ofSegment root :: ((segments s).filter isKept).map .ofSegment := by
    unfold components
    rw [segments_append, segments_of_no_slash hslash, List.singleton_append]
    dsimp only
    rw [if_neg hne, if_neg hdot]
    rfl
  have hlast : (root ++ slash :: s).getLast? ≠ some slash := by
    rwa [List.getLast?_append, List.getLast?_cons, Option.some_or, ← List.getLast?_cons]
  unfold normalized
  dsimp only
  rw [hparts, if_neg hlast, List.append_nil, spelled_ofSegment, spelled_map_ofSegment]
  rfl

/-! ## Fields of the right width -/

/-- A field as wide as a header has room for. -/
def NameField.Sized (f : NameField) : Prop := f.bytes.length = nameSize ∧ f.used ≤ nameSize

abbrev KeepsSize (copy : NameWriter Unit) : Prop := Steps (fun f g => Sized f → Sized g) copy

theorem sized_copyBytes (b : Bytes) : KeepsSize (copyBytes b) := by
  intro f hf
  rw [copyBytes_run]
  split
  · exact hf
  · rename_i hroom
    split
    · exact hf
    · rw [endState_ok]
      refine ⟨?_, Nat.le_of_not_lt hroom⟩
      have hkept : (f.bytes.take f.used ++ b).length ≤ nameSize := by
        rw [List.length_append, List.length_take]
        omega
      unfold extended
      dsimp only
      rw [List.length_append, List.length_drop, hf.1]
      split
      · rename_i hshort
        rw [List.length_append, List.length_singleton]
        omega
      · omega

theorem sized_copyPart (afterOther : Bool) (b : Bytes) : KeepsSize (copyPart afterOther b) := by
  cases afterOther with
  | false => exact sized_copyBytes b
  | true => exact steps_bind (sized_copyBytes _) fun _ => sized_copyBytes b

theorem sized_copyComponents (cut alone afterOther : Bool) (parts : List Component) :
    KeepsSize (copyComponents cut alone afterOther parts) := by
  induction parts generalizing afterOther with
  | nil => exact steps_pure ()
  | cons c rest ih =>
    cases c with
    | root => exact steps_throw _
    | parent =>
      rw [copyComponents]
      split
      · exact sized_copyPart _ _
      · exact steps_throw _
    | here =>
      rw [copyComponents]
      split
      · exact steps_bind (sized_copyPart _ _) fun _ => ih true
      · exact ih afterOther
    | named name => exact steps_bind (sized_copyPart _ _) fun _ => ih true

theorem sized_copyPath (cut : Bool) (path : Bytes) : KeepsSize (copyPath cut path) := by
  refine steps_bind (fun f hf => ⟨hf.1, Nat.zero_le _⟩) fun _ =>
    steps_bind (sized_copyComponents _ _ _ _) fun _ => ?_
  split
  · exact sized_copyBytes _
  · exact steps_pure ()

end BuildRegistry.Tar
