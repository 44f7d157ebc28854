import Mathlib.Data.List.DropRight
import Mathlib.Data.String.Basic
import BuildRegistry.Json.Shape
import BuildRegistry.Proofs.Traversal

/-
  What readers give out. `Yields read P` says that whatever a reader returns has the property `P`;
  it passes from the readers of the parts to lists, optional values and records. A value that was
  read within a depth nests no deeper, and the fields of its objects are in ascending order, each
  name once (`Nested`).
-/

namespace BuildRegistry.Json

/-! ## Fields of objects -/

section Put

variable {α : Type} {key : String} {value : α} {fields : List (String × α)}

theorem mem_put {f : String × α} (h : f ∈ put key value fields) : f = (key, value) ∨ f ∈ fields := by
  induction fields with
  | nil => exact .inl (List.mem_singleton.1 h)
  | cons g rest ih =>
    obtain ⟨k, v⟩ := g
    rw [put] at h
    split at h
    · exact List.mem_cons.1 h
    · rcases List.mem_cons.1 h with h | h
      · exact .inl h
      · exact .inr (List.mem_cons_of_mem _ h)
    · rcases List.mem_cons.1 h with h | h
      · exact .inr (h ▸ List.mem_cons_self)
      · exact (ih h).imp_right (List.mem_cons_of_mem _)

theorem ascending_put (h : Ascending Prod.fst fields) :
    Ascending Prod.fst (put key value fields) := by
  induction fields with
  | nil => exact List.pairwise_singleton _ _
  | cons g rest ih =>
    obtain ⟨k, v⟩ := g
    obtain ⟨hfirst, hrest⟩ := List.pairwise_cons.1 h
    rw [put]
    split
    · rename_i hlt
      refine List.pairwise_cons.2 ⟨?_, h⟩
      exact List.forall_mem_cons.2 ⟨compare_lt_iff_lt.1 hlt,
        fun f hf => lt_trans (compare_lt_iff_lt.1 hlt) (hfirst f hf)⟩
    · rename_i heq
      rw [compare_eq_iff_eq.1 heq]
      exact List.pairwise_cons.2 ⟨hfirst, hrest⟩
    · rename_i hgt
      refine List.pairwise_cons.2 ⟨fun f hf => ?_, ih hrest⟩
      rcases mem_put hf with rfl | hf
      · exact compare_gt_iff_gt.1 hgt
      · exact hfirst f hf

theorem put_of_greater (h : ∀ f ∈ fields, f.1 < key) :
    put key value fields = fields ++ [(key, value)] := by
  induction fields with
  | nil => rfl
  | cons g rest ih =>
    obtain ⟨k, v⟩ := g
    obtain ⟨hk, hrest⟩ := List.forall_mem_cons.1 h
    have hgt : compare key k = .gt := compare_gt_iff_gt.2 hk
    rw [put, hgt]
    dsimp only
    rw [ih hrest, List.cons_append]

/-- Fields in ascending order are put in their places one after the other. -/
theorem foldl_put (acc : List (String × α)) (h : Ascending Prod.fst (acc ++ fields)) :
    fields.foldl (fun acc f => put f.1 f.2 acc) acc = acc ++ fields := by
  induction fields generalizing acc with
  | nil => rw [List.foldl_nil, List.append_nil]
  | cons f rest ih =>
    have hbefore : ∀ g ∈ acc, g.1 < f.1 := fun g hg =>
      (List.pairwise_append.1 h).2.2 g hg f List.mem_cons_self
    rw [List.append_cons] at h
    rw [List.foldl_cons, put_of_greater hbefore, ih _ h, List.append_assoc, List.singleton_append]

theorem sorted_of_ascending (h : Ascending Prod.fst fields) : sorted fields = fields := by
  have hfold := foldl_put [] h
  rwa [List.nil_append] at hfold

theorem lookup_cons_if (name key : String) (value : α) (fields : List (String × α)) :
    ((key, value) :: fields).lookup name =
      if name = key then some value else fields.lookup name := by
  rw [List.lookup_cons]
  by_cases h : name = key
  · rw [if_pos h, h, beq_self_eq_true]
  · rw [if_neg h, beq_eq_false_iff_ne.2 h]

theorem lookup_put (name key : String) (value : α) (fields : List (String × α)) :
    (put key value fields).lookup name =
      if name = key then some value else fields.lookup name := by
  induction fields with
  | nil => rw [put, lookup_cons_if]
  | cons f rest ih =>
    obtain ⟨k, v⟩ := f
    rw [put]
    split
    · rw [lookup_cons_if]
    · rename_i heq
      obtain rfl : key = k := compare_eq_iff_eq.1 heq
      rw [lookup_cons_if, lookup_cons_if]
      split <;> rfl
    · rename_i hgt
      have hne : k ≠ key := ne_of_lt (compare_gt_iff_gt.1 hgt)
      rw [lookup_cons_if, lookup_cons_if, ih]
      by_cases h : name = k
      · rw [if_pos h, if_pos h, if_neg (by rw [h]; exact hne)]
      · rw [if_neg h, if_neg h]

/-- Of the fields of one name the last counts. -/
theorem field?_object (name : String) (fields : List (String × Json)) :
    (object fields).field? name = fields.reverse.lookup name := by
  have hfold : ∀ (fields acc : List (String × Json)),
      (fields.foldl (fun acc f => put f.1 f.2 acc) acc).lookup name =
        (fields.reverse ++ acc).lookup name := by
    intro fields
    induction fields with
    | nil => exact fun acc => rfl
    | cons f rest ih =>
      intro acc
      obtain ⟨k, v⟩ := f
      rw [List.foldl_cons, ih, List.reverse_cons, List.append_assoc, List.lookup_append,
        List.lookup_append, lookup_put, List.singleton_append, lookup_cons_if]
  have hall := hfold fields []
  rwa [List.append_nil] at hall

end Put

/-! ## Readers of parts and of wholes -/

/-- Whatever the reader returns has the property. -/
def Yields {α : Type} (read : Reader α) (P : α → Prop) : Prop :=
  ∀ s a r, read s = .ok (a, r) → P a

section Yields

variable {α σ : Type} {read : Reader α} {P : α → Prop}

theorem bind_ok {ε β γ : Type} {x : Except ε β} {f : β → Except ε γ} {c : γ}
    (h : (x >>= f) = .ok c) : ∃ b, x = .ok b ∧ f b = .ok c := by
  cases x with
  | ok b => exact ⟨b, rfl, h⟩
  | error e => cases h

theorem yields_atValue {read : Char → Reader α} (h : ∀ c, Yields (read c) P) :
    Yields (atValue read) P := by
  intro s a r hs
  unfold atValue at hs
  split at hs
  · cases hs
  · exact h _ _ a r hs

theorem yields_optional (h : Yields read P) : Yields (optional read) (fun o => ∀ a ∈ o, P a) := by
  refine yields_atValue fun c s o r hs => ?_
  dsimp only at hs
  split at hs
  · obtain ⟨_, -, hs⟩ := bind_ok hs
    cases hs
    nofun
  · obtain ⟨⟨a, t⟩, ha, hs⟩ := bind_ok hs
    cases hs
    rintro _ ⟨⟩
    exact h _ a t ha

theorem forall_mem_of_items (h : Yields read P) {n : Nat} {first : Bool} {s r : List Char}
    {vs : List α} (hs : items read n first s = .ok (vs, r)) : ∀ v ∈ vs, P v := by
  induction n generalizing first s vs r with
  | zero => cases hs
  | succ n ih =>
    rw [items] at hs
    split at hs
    · cases hs
    · split at hs
      · cases hs
        nofun
      · dsimp only at hs
        split at hs
        · cases hs
        · obtain ⟨⟨v, t⟩, hv, hs⟩ := bind_ok hs
          obtain ⟨⟨ws, t'⟩, hws, hs⟩ := bind_ok hs
          cases hs
          exact List.forall_mem_cons.2 ⟨h _ v t hv, ih hws⟩

theorem yields_asList (h : Yields read P) : Yields (asList read) (fun vs => ∀ v ∈ vs, P v) := by
  refine yields_atValue fun c s vs r hs => ?_
  split at hs
  · exact forall_mem_of_items h hs
  · cases hs

/-- What the field of an object keeps, the whole object keeps. -/
theorem keeps_of_objectFold {field : String → σ → Reader σ} {I : σ → Prop}
    (h : ∀ key acc, I acc → Yields (field key acc) I) (acc : σ) (hacc : I acc) :
    Yields (objectFold field acc) I := by
  have hfields : ∀ {n : Nat} {first : Bool} {acc : σ} {s r : List Char} {v : σ}, I acc →
      fields field n first acc s = .ok (v, r) → I v := by
    intro n
    induction n with
    | zero => exact fun _ hs => by cases hs
    | succ n ih =>
      intro first acc s r v hacc hs
      rw [fields] at hs
      split at hs
      · cases hs
      · split at hs
        · cases hs
          exact hacc
        · dsimp only at hs
          split at hs
          · cases hs
          · obtain ⟨⟨key, t⟩, -, hs⟩ := bind_ok hs
            obtain ⟨⟨acc', _⟩, hfield, hs⟩ := bind_ok hs
            exact ih (h key acc hacc _ acc' _ hfield) hs
  exact fun s v r hs => hfields hacc hs

/-- Reading a member keeps a property of the record. -/
def Member.Keeps (I : σ → Prop) (m : Member σ) : Prop :=
  Yields m.read fun set => ∀ v, I v → I (set v)

theorem Member.keeps_of {I : σ → Prop} (name : String) {set : α → σ → σ} (mayLack mayEnd : Bool)
    (h : Yields read P) (hset : ∀ a v, P a → I v → I (set a v)) :
    (Member.of name read set mayLack mayEnd).Keeps I := by
  intro s f r hs
  obtain ⟨⟨a, _⟩, ha, hs⟩ := bind_ok hs
  cases hs
  exact fun v hv => hset a v (h _ a _ ha) hv

/-- A record has what its initial value has and all members keep. -/
theorem yields_record {members : List (Member σ)} {I : σ → Prop}
    (h : ∀ m ∈ members, m.Keeps I) {initial : σ} (hinitial : I initial) :
    Yields (record members initial) I := by
  have hfield : ∀ key (d : Draft σ), I d.2 → Yields (memberField members key d) (fun d => I d.2) := by
    intro key d hd s d' r hs
    unfold memberField at hs
    split at hs
    · obtain ⟨_, -, hs⟩ := bind_ok hs
      obtain ⟨_, -, hs⟩ := bind_ok hs
      cases hs
      exact hd
    · rename_i m hm
      split at hs
      · cases hs
      · obtain ⟨_, -, hs⟩ := bind_ok hs
        obtain ⟨⟨f, _⟩, hf, hs⟩ := bind_ok hs
        cases hs
        exact h m (List.mem_of_find?_eq_some hm) _ f _ hf d.2 hd
  have hitems : ∀ {ms : List (Member σ)} {first : Bool} {v : σ}, (∀ m ∈ ms, m.Keeps I) → I v →
      Yields (memberItems ms first v) I := by
    intro ms
    induction ms with
    | nil =>
      intro first v _ hv s w r hs
      obtain ⟨_, -, hs⟩ := bind_ok hs
      cases hs
      exact hv
    | cons m ms ih =>
      intro first v hms hv s w r hs
      obtain ⟨hm, hms⟩ := List.forall_mem_cons.1 hms
      unfold memberItems at hs
      split at hs
      · cases hs
      · split at hs
        · split at hs
          · cases hs
            exact hv
          · cases hs
        · dsimp only at hs
          split at hs
          · cases hs
          · obtain ⟨⟨f, t⟩, hf, hs⟩ := bind_ok hs
            exact ih hms (hm _ f t hf v hv) _ w r hs
  refine yields_atValue fun c s v r hs => ?_
  dsimp only at hs
  split at hs
  · obtain ⟨⟨⟨seen, w⟩, t⟩, hw, hs⟩ := bind_ok hs
    dsimp only at hs
    split at hs
    · cases hs
      exact keeps_of_objectFold hfield ([], initial) hinitial _ _ _ hw
    · cases hs
  · split at hs
    · exact hitems h hinitial _ v r hs
    · cases hs

theorem Yields.whole (h : Yields read P) {s : List Char} {a : α} (hs : Json.whole read s = .ok a) :
    P a := by
  obtain ⟨⟨b, t⟩, hb, hs⟩ := bind_ok hs
  dsimp only at hs
  split at hs <;> cases hs
  exact h _ _ t hb

end Yields

theorem yields_any {α : Type} (read : Reader α) : Yields read fun _ => True :=
  fun _ _ _ _ => trivial

/-- Reads a field behind its name and puts it in its place. -/
def putField {α : Type} (read : Reader α) (key : String) (acc : List (String × α)) :
    Reader (List (String × α)) := fun s => do
  let s ← colon s
  let (v, s) ← read s
  return (put key v acc, s)

/-- Fields are gathered in ascending order. -/
theorem yields_fields {α : Type} {read : Reader α} {P : α → Prop} (h : Yields read P) :
    Yields (objectFold (putField read) [])
      (fun fs => Ascending Prod.fst fs ∧ ∀ f ∈ fs, P f.2) := by
  refine keeps_of_objectFold (fun key acc hacc s acc' r hs => ?_) [] ⟨List.Pairwise.nil, nofun⟩
  obtain ⟨_, -, hs⟩ := bind_ok hs
  obtain ⟨⟨v, _⟩, hv, hs⟩ := bind_ok hs
  cases hs
  refine ⟨ascending_put hacc.1, fun f hf => ?_⟩
  rcases mem_put hf with rfl | hf
  · exact h _ v _ hv
  · exact hacc.2 f hf

theorem yields_asTextMap : Yields asTextMap (Ascending Prod.fst) := by
  refine yields_atValue fun c s entries r hs => ?_
  split at hs
  · exact (yields_fields (yields_any asText) _ _ _ hs).1
  · cases hs

/-! ## Documents within a depth -/

/-- The document is neither an array nor an object. -/
def IsScalar : Json → Prop
  | arr _ | obj _ => False
  | _ => True

/-- Arrays and objects nest at most so deep, and the fields of objects ascend. -/
inductive Nested : Nat → Json → Prop
  | scalar {depth : Nat} {j : Json} (h : IsScalar j) : Nested depth j
  | arr {depth : Nat} {items : List Json} (h : ∀ v ∈ items, Nested depth v) :
    Nested (depth + 1) (.arr items)
  | obj {depth : Nat} {fields : List (String × Json)} (ordered : Ascending Prod.fst fields)
    (h : ∀ f ∈ fields, Nested depth f.2) : Nested (depth + 1) (.obj fields)

theorem Nested.mono {depth depth' : Nat} {j : Json} (h : Nested depth j) (hle : depth ≤ depth') :
    Nested depth' j := by
  induction h generalizing depth' with
  | scalar h => exact .scalar h
  | arr _ ih =>
    cases depth' with
    | zero => exact absurd hle (Nat.not_succ_le_zero _)
    | succ d => exact .arr fun v hv => ih v hv (Nat.le_of_succ_le_succ hle)
  | obj hordered _ ih =>
    cases depth' with
    | zero => exact absurd hle (Nat.not_succ_le_zero _)
    | succ d => exact .obj hordered fun f hf => ih f hf (Nat.le_of_succ_le_succ hle)

/-- The document is a number. -/
def IsNumber : Json → Prop
  | int _ | double _ => True
  | _ => False

theorem IsNumber.isScalar {j : Json} (h : IsNumber j) : IsScalar j := by
  cases j with
  | int | double => trivial
  | _ => exact h.elim

theorem isNumber_of_doubleOf {negative : Bool} {m : Nat} {e : Int} {j : Json}
    (h : doubleOf negative m e = .ok j) : IsNumber j := by
  unfold doubleOf at h
  split at h <;> cases h
  trivial

theorem isNumber_of_wholeNumber {negative : Bool} {n : Scaled} {j : Json}
    (h : wholeNumber negative n = .ok j) : IsNumber j := by
  unfold wholeNumber integer at h
  split at h
  · exact isNumber_of_doubleOf h
  · split at h
    · cases h
      trivial
    · split at h
      · cases h
        trivial
      · split at h <;> cases h <;> trivial

theorem yields_exponentPart (negative : Bool) (n : Scaled) :
    Yields (exponentPart negative n) IsNumber := by
  intro s j r h
  unfold exponentPart at h
  dsimp only at h
  -- the sign in front of the exponent makes no difference here
  split at h
  all_goals
    split at h
    · cases h
    · split at h
      · split at h <;> cases h
        trivial
      · obtain ⟨v, hv, h⟩ := bind_ok h
        cases h
        exact isNumber_of_doubleOf hv

theorem yields_fractionPart (negative : Bool) (n : Scaled) :
    Yields (fractionPart negative n) IsNumber := by
  intro s j r h
  unfold fractionPart at h
  dsimp only at h
  split at h
  · cases h
  · unfold afterFraction at h
    split at h
    · obtain ⟨v, hv, h⟩ := bind_ok h
      cases h
      exact isNumber_of_doubleOf hv
    · split at h
      · exact yields_exponentPart _ _ _ j r h
      · obtain ⟨v, hv, h⟩ := bind_ok h
        cases h
        exact isNumber_of_doubleOf hv

theorem yields_number (negative : Bool) : Yields (number negative) IsNumber := by
  intro s j r h
  obtain ⟨⟨ds, t⟩, -, h⟩ := bind_ok h
  dsimp only at h
  split at h
  · exact yields_fractionPart _ _ _ j r h
  · split at h
    · exact yields_exponentPart _ _ _ j r h
    · obtain ⟨v, hv, h⟩ := bind_ok h
      cases h
      exact isNumber_of_wholeNumber hv
  · obtain ⟨v, hv, h⟩ := bind_ok h
    cases h
    exact isNumber_of_wholeNumber hv

/-- Only a text that starts with its first letter is read as `null`. -/
theorem yields_scalar (c : Char) : Yields (scalar c) fun j => IsScalar j ∧ (j = .null → c = 'n') := by
  have hnumber : ∀ {j : Json}, IsNumber j → IsScalar j ∧ (j = .null → c = 'n') := fun h =>
    ⟨h.isScalar, fun hnull => (hnull ▸ h : IsNumber .null).elim⟩
  intro s j r h
  unfold scalar at h
  split at h
  · rename_i hc
    obtain ⟨_, -, h⟩ := bind_ok h
    cases h
    exact ⟨trivial, fun _ => hc⟩
  · split at h
    · obtain ⟨_, -, h⟩ := bind_ok h
      cases h
      exact ⟨trivial, nofun⟩
    · split at h
      · obtain ⟨_, -, h⟩ := bind_ok h
        cases h
        exact ⟨trivial, nofun⟩
      · split at h
        · obtain ⟨_, -, h⟩ := bind_ok h
          cases h
          exact ⟨trivial, nofun⟩
        · split at h
          · exact hnumber (yields_number _ _ j r h)
          · split at h
            · exact hnumber (yields_number _ _ j r h)
            · cases h

/-- A reader of values lets nothing through that nests deeper than it allows. -/
theorem yields_value (depth : Nat) : Yields (value depth) (Nested depth) := by
  induction depth with
  | zero =>
    intro s j r h
    rw [value] at h
    split at h
    · cases h
    · split at h
      · cases h
      · exact .scalar (yields_scalar _ _ j r h).1
  | succ depth ih =>
    intro s j r h
    rw [value] at h
    split at h
    · cases h
    · split at h
      · obtain ⟨⟨vs, t⟩, hvs, h⟩ := bind_ok h
        cases h
        exact .arr (forall_mem_of_items ih hvs)
      · split at h
        · obtain ⟨⟨fs, t⟩, hfs, h⟩ := bind_ok h
          cases h
          have hkept := yields_fields ih _ fs _ hfs
          exact .obj hkept.1 hkept.2
        · exact .scalar (yields_scalar _ _ j r h).1

theorem ne_null_of_value {depth : Nat} {c : Char} {s t r : List Char} {j : Json}
    (hs : skipSpace s = c :: t) (hc : c ≠ 'n') (h : value depth s = .ok (j, r)) : j ≠ .null := by
  have hscalar : scalar c t = .ok (j, r) → j ≠ .null := fun h hnull =>
    hc ((yields_scalar c t j r h).2 hnull)
  cases depth with
  | zero =>
    rw [value, hs] at h
    dsimp only at h
    split at h
    · cases h
    · exact hscalar h
  | succ depth =>
    rw [value, hs] at h
    dsimp only at h
    split at h
    · obtain ⟨_, -, h⟩ := bind_ok h
      cases h
      nofun
    · split at h
      · obtain ⟨_, -, h⟩ := bind_ok h
        cases h
        nofun
      · exact hscalar h

/-- A value that may be left out is left out if it is `null`. -/
theorem yields_optional_value (depth : Nat) :
    Yields (optional (value depth)) fun o => ∀ j ∈ o, Nested depth j ∧ j ≠ .null := by
  intro s o r h
  unfold optional atValue at h
  cases hs : skipSpace s with
  | nil =>
    rw [hs] at h
    cases h
  | cons c t =>
    rw [hs] at h
    dsimp only at h
    split at h
    · obtain ⟨_, -, h⟩ := bind_ok h
      cases h
      nofun
    · rename_i hc
      obtain ⟨⟨j, _⟩, hj, h⟩ := bind_ok h
      cases h
      have hstart : skipSpace (c :: t) = c :: t := by
        rw [← hs]
        exact List.dropWhile_idempotent _ s
      rintro _ ⟨⟩
      exact ⟨yields_value depth _ j _ hj, ne_null_of_value hstart hc hj⟩

end BuildRegistry.Json
