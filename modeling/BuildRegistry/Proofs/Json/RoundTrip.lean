import BuildRegistry.Json.Printer
import BuildRegistry.Proofs.Decimal
import BuildRegistry.Proofs.Json.Reader
import BuildRegistry.Proofs.Text

/-
  Reading undoes printing. `ReadsBack read t a` says that a reader takes the text `t` for `a` and
  stops where it ends, in front of anything that may follow a value in a document (`Ends`). Arrays
  and objects read back when their parts do, whatever reads the parts and whatever spaces stand
  around them (`Blank`), so that documents, maps of texts and indented documents share one argument.

  Main statements: a document that was read before and whose numbers are integers reads back from
  its text (`parse?_toText`), and so does a map of texts (`asTextMap_readsBack`).

  Doubles are left out: the text has the fewest digits that determine a double, and the reader
  rounds twice. The one double among the integers is what `-0` is read as.
-/

namespace BuildRegistry.Json

open Decimal

/-! ## Documents whose numbers are integers -/

mutual

/-- Every number is an integer of 64 bits, signed or unsigned; `-0` is read as a double. -/
def hasIntegers : Json → Bool
  | int n => minInt64 ≤ n && n ≤ maxNat64
  | double x => x = ⟨true, 0⟩
  | arr items => itemsHaveIntegers items
  | obj fields => fieldsHaveIntegers fields
  | null | bool _ | str _ => true

def itemsHaveIntegers : List Json → Bool
  | [] => true
  | v :: vs => hasIntegers v && itemsHaveIntegers vs

def fieldsHaveIntegers : List (String × Json) → Bool
  | [] => true
  | (_, v) :: rest => hasIntegers v && fieldsHaveIntegers rest

end

theorem hasIntegers_arr {items : List Json} (h : (arr items).hasIntegers) :
    ∀ v ∈ items, v.hasIntegers := by
  change itemsHaveIntegers items = true at h
  induction items with
  | nil => nofun
  | cons v vs ih =>
    rw [itemsHaveIntegers, Bool.and_eq_true] at h
    exact List.forall_mem_cons.2 ⟨h.1, ih h.2⟩

theorem hasIntegers_obj {fields : List (String × Json)} (h : (obj fields).hasIntegers) :
    ∀ f ∈ fields, f.2.hasIntegers := by
  change fieldsHaveIntegers fields = true at h
  induction fields with
  | nil => nofun
  | cons f rest ih =>
    obtain ⟨k, v⟩ := f
    rw [fieldsHaveIntegers, Bool.and_eq_true] at h
    exact List.forall_mem_cons.2 ⟨h.1, ih h.2⟩

theorem hasIntegers_of_fields {fields : List (String × Json)}
    (h : ∀ f ∈ fields, f.2.hasIntegers) : (obj fields).hasIntegers := by
  change fieldsHaveIntegers fields = true
  induction fields with
  | nil => rfl
  | cons f rest ih =>
    obtain ⟨k, v⟩ := f
    obtain ⟨hf, hrest⟩ := List.forall_mem_cons.1 h
    rw [fieldsHaveIntegers, Bool.and_eq_true]
    exact ⟨hf, ih hrest⟩

/-- What may follow a value in a document. -/
def Ends (rest : List Char) : Prop :=
  ∀ c ∈ rest.head?, c = ',' ∨ c = ']' ∨ c = '\x7d' ∨ isSpace c

theorem ends_nil : Ends [] := nofun

theorem ends_cons {c : Char} (h : c = ',' ∨ c = ']' ∨ c = '\x7d' ∨ isSpace c) (rest : List Char) :
    Ends (c :: rest) := by
  rintro _ ⟨⟩
  exact h

/-- The reader takes a text for `a`, whatever follows. -/
def ReadsBack {α : Type} (read : Reader α) (t : List Char) (a : α) : Prop :=
  ∀ rest, Ends rest → read (t ++ rest) = .ok (a, rest)

/-- The text starts a value: with no space, and with no bracket that closes an array. -/
def Starts (t : List Char) : Prop := ∃ c cs, t = c :: cs ∧ isSpace c = false ∧ c ≠ ']'

theorem skipSpace_cons {c : Char} (h : isSpace c = false) (s : List Char) :
    skipSpace (c :: s) = c :: s := List.dropWhile_cons_of_neg (by simp [h])

/-- Nothing but spaces. -/
def Blank (s : List Char) : Prop := ∀ c ∈ s, isSpace c

theorem blank_nil : Blank [] := nofun

theorem skipSpace_append {pad : List Char} (h : Blank pad) (s : List Char) :
    skipSpace (pad ++ s) = skipSpace s := List.dropWhile_append_of_pos h

/-! ## Strings -/

theorem length_le_lengthOf (s : List Char) : s.length ≤ Bytes.lengthOf s := by
  have hfold : ∀ (s : List Char) (n : Nat),
      n + s.length ≤ s.foldl (fun n c => n + c.utf8Size) n := by
    intro s
    induction s with
    | nil => exact fun n => Nat.le_refl n
    | cons c s ih =>
      intro n
      have hrest := ih (n + c.utf8Size)
      have hpos := c.utf8Size_pos
      rw [List.foldl_cons, List.length_cons]
      omega
  have hall := hfold s 0
  rwa [Nat.zero_add] at hall

/-- One of the first three digits of an escape. -/
theorem stringFrom_digit {c : Char} {d : Nat} (hd : Hex.value? c = some d) {n : Nat} (hn : n < 3)
    (code : Nat) (high : Option Nat) (s : List Char) :
    stringFrom (.digits n code high) (c :: s) =
      stringFrom (.digits (n + 1) (16 * code + d) high) s := by
  rw [stringFrom, hd]
  exact if_pos hn

/-- A control character is written by its code. -/
theorem stringFrom_control {c : Char} (h : c.toNat < 0x20) (s : List Char) :
    stringFrom .plain (['\\', 'u', '0', '0'] ++ controlDigits c ++ s) =
      (stringFrom .plain s).map (consOption (some c)) := by
  have hzero : Hex.value? '0' = some 0 := by decide
  have hhigh : Hex.value? (Hex.digit (c.toNat / 16)) = some (c.toNat / 16) :=
    Hex.value?_digit (by omega)
  have hlow : Hex.value? (Hex.digit (c.toNat % 16)) = some (c.toNat % 16) :=
    Hex.value?_digit (by omega)
  have hcode : 16 * (16 * (16 * (16 * 0 + 0) + 0) + c.toNat / 16) + c.toNat % 16 = c.toNat := by
    omega
  have hunit : codeUnit c.toNat none = .ok (some c, .plain) := by
    rw [codeUnit, if_neg (by omega), if_neg (by omega), Char.ofNat_toNat]
  have hlong : fewerThanFourBytes (['0', '0'] ++ controlDigits c ++ s) = false :=
    decide_eq_false (Nat.not_lt.2 (length_le_lengthOf (['0', '0'] ++ controlDigits c)))
  have hdigits : stringFrom .plain (['\\', 'u', '0', '0'] ++ controlDigits c ++ s) =
      stringFrom (.digits 0 0 none) (['0', '0'] ++ controlDigits c ++ s) := by
    change stringFrom .plain ('\\' :: 'u' :: (['0', '0'] ++ controlDigits c ++ s)) = _
    rw [stringFrom, if_neg (by decide), if_pos rfl, stringFrom, if_pos rfl, hlong]
    rfl
  rw [hdigits]
  change stringFrom _ ('0' :: '0' :: Hex.digit (c.toNat / 16) :: Hex.digit (c.toNat % 16) :: s) = _
  rw [stringFrom_digit hzero (by decide), stringFrom_digit hzero (by decide),
    stringFrom_digit hhigh (by decide), stringFrom, hlow]
  dsimp only
  rw [if_neg (by decide), hcode, hunit]

/-- A character that has an escape of two characters. -/
theorem stringFrom_escape {c d : Char} (hd : escapeOf d = some c) (hu : d ≠ 'u') (s : List Char) :
    stringFrom .plain (['\\', d] ++ s) = (stringFrom .plain s).map (consOption (some c)) := by
  change stringFrom .plain ('\\' :: d :: s) = _
  rw [stringFrom, if_neg (by decide), if_pos rfl, stringFrom, if_neg hu, hd]

theorem stringFrom_charText (c : Char) (s : List Char) :
    stringFrom .plain (charText c ++ s) = (stringFrom .plain s).map (consOption (some c)) := by
  unfold charText
  split_ifs with hquote hbackslash hb hf hn hr ht hcontrol
  · exact stringFrom_escape (by rw [hquote]; rfl) (by decide) s
  · exact stringFrom_escape (by rw [hbackslash]; rfl) (by decide) s
  · exact stringFrom_escape (by rw [hb]; rfl) (by decide) s
  · exact stringFrom_escape (by rw [hf]; rfl) (by decide) s
  · exact stringFrom_escape (by rw [hn]; rfl) (by decide) s
  · exact stringFrom_escape (by rw [hr]; rfl) (by decide) s
  · exact stringFrom_escape (by rw [ht]; rfl) (by decide) s
  · exact stringFrom_control hcontrol s
  · rw [List.singleton_append, stringFrom, if_neg hquote, if_neg hbackslash, if_neg hcontrol]

theorem stringFrom_flatMap (cs s : List Char) :
    stringFrom .plain (cs.flatMap charText ++ '"' :: s) = .ok (cs, s) := by
  induction cs with
  | nil => rw [List.flatMap_nil, List.nil_append, stringFrom, if_pos rfl]
  | cons c cs ih =>
    rw [List.flatMap_cons, List.append_assoc, stringFrom_charText, ih]
    rfl

theorem string_flatMap (k : String) (s : List Char) :
    string (k.toList.flatMap charText ++ '"' :: s) = .ok (k, s) := by
  rw [string, stringFrom_flatMap]
  exact congrArg (fun k => Except.ok (k, s)) String.ofList_toList

theorem stringText_append (k : String) (s : List Char) :
    stringText k ++ s = '"' :: (k.toList.flatMap charText ++ '"' :: s) := by
  rw [stringText, List.cons_append, List.cons_append, List.append_assoc, List.singleton_append]

theorem starts_stringText (k : String) : Starts (stringText k) :=
  ⟨'"', _, rfl, by decide, by decide⟩

/-- A digit is no character that means something else in a document. -/
theorem ne_of_isDigit {c d : Char} (hc : isDigit c) (hd : isDigit d = false) : c ≠ d := by
  rintro rfl
  rw [hd] at hc
  cases hc

theorem isSpace_of_isDigit {c : Char} (h : isDigit c) : isSpace c = false := by
  simp [isSpace, ne_of_isDigit h (show isDigit ' ' = false by decide),
    ne_of_isDigit h (show isDigit '\n' = false by decide),
    ne_of_isDigit h (show isDigit '\t' = false by decide),
    ne_of_isDigit h (show isDigit '\r' = false by decide)]

theorem Ends.cases {rest : List Char} (h : Ends rest) : rest = [] ∨ ∃ c s, rest = c :: s ∧
    isDigit c = false ∧ isExponentMark c = false ∧ c ≠ '.' := by
  cases rest with
  | nil => exact .inl rfl
  | cons c s =>
    refine .inr ⟨c, s, rfl, ?_⟩
    rcases h c rfl with rfl | rfl | rfl | hspace
    · decide
    · decide
    · decide
    · simp only [isSpace, Bool.or_eq_true, decide_eq_true_eq, or_assoc] at hspace
      rcases hspace with rfl | rfl | rfl | rfl <;> decide

theorem span_digits {ds rest : List Char} (hds : AreDigits ds) (h : Ends rest) :
    (ds ++ rest).takeWhile isDigit = ds ∧ (ds ++ rest).dropWhile isDigit = rest := by
  have hstop : ∀ c ∈ rest.head?, isDigit c = false := by
    intro c hc
    rcases h.cases with rfl | ⟨d, s, rfl, hd, -, -⟩
    · cases hc
    · cases hc
      exact hd
  exact ⟨Text.takeWhile_stretch hds hstop, Text.dropWhile_stretch hds hstop⟩

theorem wholeDigits_natText (n : Nat) {rest : List Char} (h : Ends rest) :
    wholeDigits (natText n ++ rest) = .ok (natText n, rest) := by
  obtain ⟨htake, hdrop⟩ := span_digits (areDigits_natText n) h
  have hne : (natText n).isEmpty = false := List.isEmpty_eq_false_iff.2 Nat.toDigits_ne_nil
  have hzero : ¬ ((natText n).length > 1 ∧ (natText n).head? = some '0') := by
    rintro ⟨hlength, hhead⟩
    obtain ⟨ds, hds⟩ := List.head?_eq_some_iff.1 hhead
    rw [hds, eq_nil_of_natText_eq hds] at hlength
    exact absurd hlength (by decide)
  unfold wholeDigits
  dsimp only
  rw [htake, hdrop, hne, if_neg (by decide), if_neg hzero]

/-- Digits are taken in one by one as long as their value fits. -/
theorem foldl_takeWhole {ds : List Char} {m : Nat} (h : valueFrom m ds ≤ maxNat64) :
    ds.foldl takeWhole ⟨m, 0, false⟩ = ⟨valueFrom m ds, 0, false⟩ := by
  induction ds generalizing m with
  | nil => rfl
  | cons c ds ih =>
    change valueFrom (10 * m + digitValue c) ds ≤ maxNat64 at h
    have hfits : ¬ maxNat64 < 10 * m + digitValue c :=
      Nat.not_lt.2 (Nat.le_trans (le_valueFrom ds _) h)
    have hstep : takeWhole ⟨m, 0, false⟩ c = ⟨10 * m + digitValue c, 0, false⟩ := by
      simp [takeWhole, hfits]
    rw [List.foldl_cons, hstep, ih h]
    rfl

theorem number_natText (negative : Bool) {n : Nat} (hn : n ≤ maxNat64) {j : Json}
    (hj : integer negative n = .ok j) : ReadsBack (number negative) (natText n) j := by
  intro rest h
  have hvalue := valueFrom_natText n
  have hfold : (natText n).foldl takeWhole ⟨0, 0, false⟩ = ⟨n, 0, false⟩ := by
    rw [foldl_takeWhole (by rw [hvalue]; exact hn), hvalue]
  have hwhole : wholeNumber negative ⟨n, 0, false⟩ = .ok j := hj
  unfold number
  rw [wholeDigits_natText n h]
  dsimp only [bind, Except.bind]
  rw [hfold]
  rcases h.cases with rfl | ⟨c, s, rfl, -, hmark, hpoint⟩
  · rw [hwhole]
    rfl
  · split
    · rename_i heq
      exact absurd (List.cons.inj heq).1 hpoint
    · rename_i heq
      cases heq
      rw [hmark, hwhole]
      rfl
    · rename_i heq
      cases heq

/-- The text of the double that `-0` is read as. -/
theorem number_negativeZero : ReadsBack (number true) ['0', '.', '0'] (.double ⟨true, 0⟩) := by
  intro rest h
  have hdigits : AreDigits ['0'] := by
    intro c hc
    rw [List.mem_singleton.1 hc]
    decide
  obtain ⟨htake, hdrop⟩ := span_digits hdigits h
  have hzero : Double.ofDecimal 0 (-1) = some 0 := by decide +kernel
  have hdouble : doubleOf true 0 (-1) = .ok (.double ⟨true, 0⟩) := by
    rw [doubleOf, hzero]
  change fractionPart true ⟨0, 0, false⟩ (['0'] ++ rest) = _
  unfold fractionPart
  dsimp only
  rw [htake, hdrop, if_neg (by decide)]
  change afterFraction true ⟨0, -1, false⟩ rest = _
  rcases h.cases with rfl | ⟨c, s, rfl, -, hmark, -⟩
  · rw [afterFraction, hdouble]
    rfl
  · rw [afterFraction, hmark, hdouble]
    rfl

/-! ## Scalars -/

theorem value_of_scalar (depth : Nat) {c : Char} (hspace : isSpace c = false) (hopen : c ≠ '[')
    (hopen' : c ≠ '\x7b') (s : List Char) : value depth (c :: s) = scalar c s := by
  cases depth with
  | zero =>
    rw [value, skipSpace_cons hspace]
    exact if_neg (not_or.2 ⟨hopen, hopen'⟩)
  | succ depth =>
    rw [value, skipSpace_cons hspace]
    exact (if_neg hopen).trans (if_neg hopen')

theorem scalar_of_digit {c : Char} (h : isDigit c) (s : List Char) :
    scalar c s = number false (c :: s) := by
  rw [scalar, if_neg (ne_of_isDigit h (by decide)), if_neg (ne_of_isDigit h (by decide)),
    if_neg (ne_of_isDigit h (by decide)), if_neg (ne_of_isDigit h (by decide)),
    if_neg (ne_of_isDigit h (by decide)), if_pos h]

theorem int_readsBack (depth : Nat) {n : Int} (hmin : minInt64 ≤ n) (hmax : n ≤ maxNat64) :
    ReadsBack (value depth) (intText n) (.int n) := by
  intro rest h
  unfold minInt64 at hmin
  unfold maxNat64 at hmax
  unfold intText
  by_cases hneg : n < 0
  · have hinteger : integer true n.natAbs = .ok (.int n) := by
      have hn : -(n.natAbs : Int) = n := by omega
      rw [integer, if_neg (by decide), if_neg (by omega), if_pos (by omega), hn]
    have hfits : n.natAbs ≤ maxNat64 := by
      unfold maxNat64
      omega
    rw [if_pos hneg, List.cons_append, value_of_scalar depth (by decide) (by decide) (by decide)]
    exact number_natText true hfits hinteger rest h
  · have hinteger : integer false n.natAbs = .ok (.int n) := by
      have hn : (n.natAbs : Int) = n := by omega
      rw [integer, if_pos (by decide), hn]
    have hfits : n.natAbs ≤ maxNat64 := by
      unfold maxNat64
      omega
    obtain ⟨c, cs, hc⟩ : ∃ c cs, natText n.natAbs = c :: cs :=
      List.exists_cons_of_ne_nil Nat.toDigits_ne_nil
    have hdigit : isDigit c := areDigits_natText n.natAbs c (hc ▸ List.mem_cons_self)
    have hread := number_natText false hfits hinteger rest h
    rw [hc, List.cons_append] at hread
    rw [if_neg hneg, hc, List.cons_append, value_of_scalar depth (isSpace_of_isDigit hdigit)
      (ne_of_isDigit hdigit (by decide)) (ne_of_isDigit hdigit (by decide)),
      scalar_of_digit hdigit]
    exact hread

theorem scalar_readsBack (depth : Nat) {j : Json} (hj : IsScalar j) (hints : j.hasIntegers) :
    ReadsBack (value depth) (text j) j := by
  cases j with
  | null =>
    intro rest _
    exact value_of_scalar depth (by decide) (by decide) (by decide) _
  | bool b =>
    intro rest _
    cases b with
    | true => exact value_of_scalar depth (by decide) (by decide) (by decide) _
    | false => exact value_of_scalar depth (by decide) (by decide) (by decide) _
  | int n =>
    change (minInt64 ≤ n && n ≤ maxNat64) = true at hints
    rw [Bool.and_eq_true, decide_eq_true_eq, decide_eq_true_eq] at hints
    exact int_readsBack depth hints.1 hints.2
  | double x =>
    obtain rfl : x = ⟨true, 0⟩ := of_decide_eq_true hints
    intro rest h
    change value depth ('-' :: (['0', '.', '0'] ++ rest)) = _
    rw [value_of_scalar depth (by decide) (by decide) (by decide)]
    exact number_negativeZero rest h
  | str k =>
    intro rest h
    change value depth (stringText k ++ rest) = _
    rw [stringText_append, value_of_scalar depth (by decide) (by decide) (by decide)]
    change (string _ >>= fun p => Except.ok (Json.str p.1, p.2)) = _
    rw [string_flatMap]
    rfl
  | arr items => exact hj.elim
  | obj fields => exact hj.elim

theorem starts_text {j : Json} (hints : j.hasIntegers) : Starts (text j) := by
  cases j with
  | null => exact ⟨'n', _, rfl, by decide, by decide⟩
  | bool b =>
    cases b with
    | true => exact ⟨'t', _, rfl, by decide, by decide⟩
    | false => exact ⟨'f', _, rfl, by decide, by decide⟩
  | int n =>
    change Starts (intText n)
    unfold intText
    split
    · exact ⟨'-', _, rfl, by decide, by decide⟩
    · obtain ⟨c, cs, hc⟩ : ∃ c cs, natText n.natAbs = c :: cs :=
        List.exists_cons_of_ne_nil Nat.toDigits_ne_nil
      have hdigit : isDigit c := areDigits_natText n.natAbs c (hc ▸ List.mem_cons_self)
      exact ⟨c, cs, hc, isSpace_of_isDigit hdigit, ne_of_isDigit hdigit (by decide)⟩
  | double x =>
    obtain rfl : x = ⟨true, 0⟩ := of_decide_eq_true hints
    exact ⟨'-', _, rfl, by decide, by decide⟩
  | str k => exact starts_stringText k
  | arr items => exact ⟨'[', _, rfl, by decide, by decide⟩
  | obj fields => exact ⟨'\x7b', _, rfl, by decide, by decide⟩

/-! ## Arrays and objects -/

/-- What follows the first of some texts with commas between them. -/
def commaTail (ts : List (List Char)) : List Char := ts.flatMap (',' :: ·)

theorem commaJoined_cons (t : List Char) (ts : List (List Char)) :
    commaJoined (t :: ts) = t ++ commaTail ts := by
  induction ts generalizing t with
  | nil => exact (List.append_nil t).symm
  | cons u us ih =>
    rw [commaJoined, ih u]
    · rfl
    · exact List.cons_ne_nil u us

theorem commaTail_cons (t : List Char) (ts : List (List Char)) :
    commaTail (t :: ts) = ',' :: commaJoined (t :: ts) := by
  rw [commaJoined_cons]
  rfl

theorem ends_commaTail (ts : List (List Char)) {close : List Char} (hclose : Blank close)
    {c : Char} (hc : c = ']' ∨ c = '\x7d') (rest : List Char) :
    Ends (commaTail ts ++ (close ++ c :: rest)) := by
  cases ts with
  | nil =>
    cases close with
    | nil => exact ends_cons (.inr (hc.imp_right .inl)) rest
    | cons d close => exact ends_cons (.inr (.inr (.inr (hclose d List.mem_cons_self)))) _
  | cons t ts => exact ends_cons (.inl rfl) _

theorem length_le_commaTail (ts : List (List Char)) : ts.length ≤ (commaTail ts).length := by
  induction ts with
  | nil => exact Nat.le_refl _
  | cons t ts ih =>
    change ts.length + 1 ≤ ((',' :: t) ++ commaTail ts).length
    rw [List.length_append, List.length_cons]
    omega

theorem length_le_commaJoined (ts : List (List Char)) (close : List Char) (c : Char)
    (rest : List Char) : ts.length < (commaJoined ts ++ (close ++ c :: rest)).length + 1 := by
  cases ts with
  | nil => exact Nat.succ_pos _
  | cons t ts =>
    have htail := length_le_commaTail ts
    rw [commaJoined_cons, List.length_append, List.length_append, List.length_append,
      List.length_cons, List.length_cons]
    omega

section Items

variable {α : Type} {read : Reader α} {print : α → List Char} {pad close : List Char}

/-- The first item of an array is read like one behind a comma. -/
theorem items_first (hpad : Blank pad) {c : Char} (hspace : isSpace c = false) (hclose : c ≠ ']')
    (n : Nat) (s : List Char) :
    items read n true (pad ++ c :: s) = items read n false (',' :: (pad ++ c :: s)) := by
  cases n with
  | zero => rfl
  | succ n =>
    rw [items, items, skipSpace_append hpad, skipSpace_cons hspace, skipSpace_cons (by decide)]
    dsimp only
    rw [if_neg hclose, if_pos rfl, if_neg (by decide), if_neg (by decide), if_pos rfl,
      skipSpace_append hpad, skipSpace_cons hspace]
    dsimp only
    rw [if_neg hclose]

theorem items_commaTail (hpad : Blank pad) (hblank : Blank close) {vs : List α}
    (hread : ∀ v ∈ vs, ReadsBack read (print v) v) (hstart : ∀ v ∈ vs, Starts (print v)) {n : Nat}
    (hn : vs.length < n) (rest : List Char) :
    items read n false (commaTail (vs.map fun v => pad ++ print v) ++ (close ++ ']' :: rest)) =
      .ok (vs, rest) := by
  induction vs generalizing n with
  | nil =>
    obtain ⟨m, rfl⟩ := Nat.exists_eq_add_one_of_ne_zero (Nat.ne_of_gt hn)
    change items read (m + 1) false (close ++ ']' :: rest) = _
    rw [items, skipSpace_append hblank, skipSpace_cons (by decide)]
    rfl
  | cons v vs ih =>
    obtain ⟨m, rfl⟩ := Nat.exists_eq_add_one_of_ne_zero (Nat.ne_of_gt (Nat.zero_lt_of_lt hn))
    obtain ⟨hv, hvs⟩ := List.forall_mem_cons.1 hread
    obtain ⟨⟨c, cs, hprint, hspace, hclose⟩, hvsstart⟩ := List.forall_mem_cons.1 hstart
    have hitem := hv _ (ends_commaTail (vs.map fun v => pad ++ print v) hblank (.inl rfl) rest)
    have hrest := ih hvs hvsstart (Nat.lt_of_succ_lt_succ hn)
    rw [hprint, List.cons_append] at hitem
    rw [List.map_cons, commaTail_cons, commaJoined_cons, List.cons_append, List.append_assoc,
      List.append_assoc, hprint, List.cons_append, items, skipSpace_cons (by decide)]
    dsimp only
    rw [if_neg (by decide), if_neg (by decide), if_pos rfl, skipSpace_append hpad,
      skipSpace_cons hspace]
    dsimp only
    rw [if_neg hclose]
    dsimp only
    rw [hitem]
    dsimp only [bind, Except.bind]
    rw [hrest]
    rfl

theorem array_commaJoined (hpad : Blank pad) (hblank : Blank close) {vs : List α}
    (hread : ∀ v ∈ vs, ReadsBack read (print v) v) (hstart : ∀ v ∈ vs, Starts (print v))
    (rest : List Char) :
    array read (commaJoined (vs.map fun v => pad ++ print v) ++ (close ++ ']' :: rest)) =
      .ok (vs, rest) := by
  have hfuel := length_le_commaJoined (vs.map fun v => pad ++ print v) close ']' rest
  rw [List.length_map] at hfuel
  have hitems := items_commaTail hpad hblank hread hstart hfuel rest
  unfold array
  cases vs with
  | nil =>
    change items read _ true (close ++ ']' :: rest) = _
    rw [items, skipSpace_append hblank, skipSpace_cons (by decide)]
    rfl
  | cons v vs =>
    obtain ⟨c, cs, hprint, hspace, hclose⟩ := hstart v List.mem_cons_self
    rw [List.map_cons] at hitems ⊢
    rw [commaTail_cons, List.cons_append] at hitems
    obtain ⟨t, ht⟩ : ∃ t, commaJoined ((pad ++ print v) :: vs.map fun v => pad ++ print v) ++
        (close ++ ']' :: rest) = pad ++ c :: t :=
      ⟨_, by rw [commaJoined_cons, hprint, List.append_assoc, List.append_assoc, List.cons_append]⟩
    rw [ht] at hitems ⊢
    rwa [items_first hpad hspace hclose]

end Items

section Fields

variable {α : Type} {read : Reader α} {print : α → List Char} {pad close : List Char}

/-- A field of an object as it is printed. -/
def fieldText (print : α → List Char) (f : String × α) : List Char :=
  stringText f.1 ++ ':' :: print f.2

theorem fieldText_append (print : α → List Char) (f : String × α) (s : List Char) :
    fieldText print f ++ s =
      '"' :: (f.1.toList.flatMap charText ++ '"' :: (':' :: print f.2 ++ s)) := by
  rw [fieldText, List.append_assoc, stringText_append]

theorem putField_readsBack {f : String × α} (h : ReadsBack read (print f.2) f.2)
    (acc : List (String × α)) :
    ReadsBack (putField read f.1 acc) (':' :: print f.2) (put f.1 f.2 acc) := by
  intro rest hrest
  have hvalue := h rest hrest
  change (read (print f.2 ++ rest) >>= fun p => Except.ok (put f.1 p.1 acc, p.2)) = _
  rw [hvalue]
  rfl

/-- The first field of an object is read like one behind a comma. -/
theorem fields_first (hpad : Blank pad) {σ : Type} (field : String → σ → Reader σ) (n : Nat)
    (acc : σ) (s : List Char) :
    fields field n true acc (pad ++ '"' :: s) =
      fields field n false acc (',' :: (pad ++ '"' :: s)) := by
  cases n with
  | zero => rfl
  | succ n =>
    rw [fields, fields, skipSpace_append hpad, skipSpace_cons (by decide),
      skipSpace_cons (by decide)]
    dsimp only
    rw [if_neg (by decide), if_pos rfl, if_pos rfl, if_neg (by decide), if_neg (by decide),
      if_pos rfl, skipSpace_append hpad, skipSpace_cons (by decide)]
    rfl

theorem fields_commaTail (hpad : Blank pad) (hblank : Blank close) {fs : List (String × α)}
    (hread : ∀ f ∈ fs, ReadsBack read (print f.2) f.2) {n : Nat} (hn : fs.length < n)
    (acc : List (String × α)) (rest : List Char) :
    fields (putField read) n false acc
        (commaTail (fs.map fun f => pad ++ fieldText print f) ++ (close ++ '\x7d' :: rest)) =
      .ok (fs.foldl (fun acc f => put f.1 f.2 acc) acc, rest) := by
  induction fs generalizing n acc with
  | nil =>
    obtain ⟨m, rfl⟩ := Nat.exists_eq_add_one_of_ne_zero (Nat.ne_of_gt hn)
    change fields (putField read) (m + 1) false acc (close ++ '\x7d' :: rest) = _
    rw [fields, skipSpace_append hblank, skipSpace_cons (by decide)]
    rfl
  | cons f fs ih =>
    obtain ⟨m, rfl⟩ := Nat.exists_eq_add_one_of_ne_zero (Nat.ne_of_gt (Nat.zero_lt_of_lt hn))
    obtain ⟨hf, hfs⟩ := List.forall_mem_cons.1 hread
    have hfield := putField_readsBack hf acc _
      (ends_commaTail (fs.map fun f => pad ++ fieldText print f) hblank (.inr rfl) rest)
    have hrest := ih hfs (Nat.lt_of_succ_lt_succ hn) (put f.1 f.2 acc)
    rw [List.map_cons, commaTail_cons, commaJoined_cons, List.cons_append, List.append_assoc,
      List.append_assoc, fieldText_append, fields, skipSpace_cons (by decide)]
    dsimp only
    rw [if_neg (by decide), if_neg (by decide), if_pos rfl, skipSpace_append hpad,
      skipSpace_cons (by decide)]
    dsimp only
    rw [if_pos rfl]
    dsimp only
    rw [string_flatMap]
    dsimp only [bind, Except.bind]
    rw [hfield]
    exact hrest

/-- Fields that are read back are put in ascending order. -/
theorem objectFold_commaJoined (hpad : Blank pad) (hblank : Blank close) {fs : List (String × α)}
    (hread : ∀ f ∈ fs, ReadsBack read (print f.2) f.2) (rest : List Char) :
    objectFold (putField read) []
        (commaJoined (fs.map fun f => pad ++ fieldText print f) ++ (close ++ '\x7d' :: rest)) =
      .ok (sorted fs, rest) := by
  have hfuel := length_le_commaJoined (fs.map fun f => pad ++ fieldText print f) close '\x7d' rest
  rw [List.length_map] at hfuel
  have hfields := fields_commaTail hpad hblank hread hfuel [] rest
  unfold objectFold
  cases fs with
  | nil =>
    change fields (putField read) _ true [] (close ++ '\x7d' :: rest) = _
    rw [fields, skipSpace_append hblank, skipSpace_cons (by decide)]
    rfl
  | cons f fs =>
    rw [List.map_cons] at hfields ⊢
    rw [commaTail_cons, List.cons_append] at hfields
    rw [commaJoined_cons, List.append_assoc, List.append_assoc, fieldText_append] at hfields ⊢
    rwa [fields_first hpad]

end Fields

/-! ## Documents -/

theorem itemTexts_eq (items : List Json) : itemTexts items = items.map text := by
  induction items with
  | nil => rfl
  | cons v vs ih => rw [itemTexts, ih, List.map_cons]

theorem fieldTexts_eq (fields : List (String × Json)) :
    fieldTexts fields = fields.map (fieldText text) := by
  induction fields with
  | nil => rfl
  | cons f rest ih =>
    obtain ⟨k, v⟩ := f
    rw [fieldTexts, ih, List.map_cons, fieldText]

theorem text_obj (fields : List (String × Json)) (rest : List Char) :
    text (obj fields) ++ rest =
      '\x7b' :: (commaJoined (fields.map (fieldText text)) ++ '\x7d' :: rest) := by
  rw [text, fieldTexts_eq, List.cons_append, List.cons_append, List.append_assoc,
    List.singleton_append]

theorem text_arr (items : List Json) (rest : List Char) :
    text (arr items) ++ rest = '[' :: (commaJoined (items.map text) ++ ']' :: rest) := by
  rw [text, itemTexts_eq, List.cons_append, List.cons_append, List.append_assoc,
    List.singleton_append]

/-- A document within a depth reads back from its text. -/
theorem value_readsBack {depth : Nat} {j : Json} (hj : Nested depth j) (hints : j.hasIntegers) :
    ReadsBack (value depth) (text j) j := by
  induction hj with
  | scalar h => exact scalar_readsBack _ h hints
  | @arr depth items _ ih =>
    intro rest _
    have hitems : array (value depth) (commaJoined (items.map text) ++ ']' :: rest) =
        .ok (items, rest) :=
      array_commaJoined blank_nil blank_nil (fun v hv => ih v hv (hasIntegers_arr hints v hv))
        (fun v hv => starts_text (hasIntegers_arr hints v hv)) rest
    rw [text_arr, value, skipSpace_cons (by decide)]
    dsimp only
    rw [if_pos rfl, hitems]
    rfl
  | @obj depth fields hordered _ ih =>
    intro rest _
    have hfields : objectFold (putField (value depth)) []
        (commaJoined (fields.map (fieldText text)) ++ '\x7d' :: rest) = .ok (sorted fields, rest) :=
      objectFold_commaJoined blank_nil blank_nil
        (fun f hf => ih f hf (hasIntegers_obj hints f hf)) rest
    rw [sorted_of_ascending hordered] at hfields
    rw [text_obj, value, skipSpace_cons (by decide)]
    dsimp only
    rw [if_neg (by decide), if_pos rfl]
    change (objectFold (putField (value depth)) [] _ >>= fun r => pure (obj r.1, r.2)) = _
    rw [hfields]
    rfl

/-- A text that reads back is read as a whole. -/
theorem whole_of_readsBack {α : Type} {read : Reader α} {t : List Char} {a : α}
    (h : ReadsBack read t a) : whole read t = .ok a := by
  have hread := h [] ends_nil
  rw [List.append_nil] at hread
  rw [whole, hread]
  rfl

theorem parse?_toText {depth : Nat} (hdepth : depth ≤ maxDepth) {j : Json} (hj : Nested depth j)
    (hints : j.hasIntegers) : parse? j.toText = some j := by
  have hread := whole_of_readsBack (value_readsBack (hj.mono hdepth) hints)
  rw [parse?, parse, toText, String.toList_ofList, hread]
  rfl

/-- A map of texts is the object of its entries. -/
theorem textMap_of_ascending {entries : List (String × String)}
    (h : Ascending Prod.fst entries) :
    textMap entries = obj (entries.map fun (k, v) => (k, str v)) := by
  have hmap : Ascending Prod.fst (entries.map fun (k, v) => (k, str v)) :=
    List.pairwise_map.2 h
  rw [textMap, object, sorted_of_ascending hmap]

end BuildRegistry.Json
