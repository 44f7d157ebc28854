import Mathlib.Algebra.Group.Nat.Defs
import BuildRegistry.Decimal.Digits

/-
  Numbers and their digits. Lists of digits of one length are ordered as texts in the way their
  values are (`lt_of_valueFrom_lt`), hence so are numbers padded to one width (`padded_lt_padded`).
  Reading a number undoes writing it (`int64?_intText`).
-/

namespace BuildRegistry.Decimal

/-! ## Lists of digits and their values -/

def AreDigits (ds : List Char) : Prop := ∀ c ∈ ds, isDigit c

theorem toNat_of_isDigit {c : Char} (h : isDigit c) :
    c.toNat = 48 + digitValue c ∧ digitValue c ≤ 9 := by
  simp only [isDigit, Bool.and_eq_true, decide_eq_true_eq, Char.le_def,
    UInt32.le_iff_toNat_le] at h
  change 48 ≤ c.toNat ∧ c.toNat ≤ 57 at h
  unfold digitValue
  omega

theorem valueFrom_cons (c : Char) (ds : List Char) :
    valueFrom 0 (c :: ds) = 10 ^ ds.length * digitValue c + valueFrom 0 ds := by
  change Nat.ofDigitChars 10 ds (10 * 0 + digitValue c) = _
  rw [Nat.ofDigitChars_eq_ofDigitChars_zero, Nat.mul_zero, Nat.zero_add]
  rfl

theorem valueFrom_append (as bs : List Char) :
    valueFrom 0 (as ++ bs) = 10 ^ bs.length * valueFrom 0 as + valueFrom 0 bs := by
  change Nat.ofDigitChars 10 (as ++ bs) 0 = _
  rw [Nat.ofDigitChars_append, Nat.ofDigitChars_eq_ofDigitChars_zero]
  rfl

/-- More digits never write less. -/
theorem le_valueFrom (ds : List Char) (n : Nat) : n ≤ valueFrom n ds := by
  induction ds generalizing n with
  | nil => exact Nat.le_refl n
  | cons c ds ih =>
    have hrest := ih (10 * n + digitValue c)
    change n ≤ valueFrom (10 * n + digitValue c) ds
    omega

theorem valueFrom_lt {ds : List Char} (h : AreDigits ds) : valueFrom 0 ds < 10 ^ ds.length := by
  induction ds with
  | nil => decide
  | cons c ds ih =>
    obtain ⟨hc, hds⟩ := List.forall_mem_cons.1 h
    have hv := (toNat_of_isDigit hc).2
    have hle : 10 ^ ds.length * digitValue c ≤ 10 ^ ds.length * 9 := Nat.mul_le_mul_left _ hv
    rw [valueFrom_cons, List.length_cons, Nat.pow_succ]
    have := ih hds
    omega

/-- Digits with no zero in front write at least the power of ten that their count gives. -/
theorem pow_le_valueFrom {c : Char} {ds : List Char} (hc : isDigit c) (hzero : c ≠ '0') :
    10 ^ ds.length ≤ valueFrom 0 (c :: ds) := by
  have hvalue : digitValue c ≠ 0 := by
    intro hvalue
    have hnat := (toNat_of_isDigit hc).1
    exact hzero (Char.toNat_inj.1 (by rw [hnat, hvalue]; rfl))
  have hle : 10 ^ ds.length * 1 ≤ 10 ^ ds.length * digitValue c :=
    Nat.mul_le_mul_left _ (Nat.pos_of_ne_zero hvalue)
  rw [valueFrom_cons]
  omega

/-- Fewer digits write a smaller number, if the longer text has no zero in front. -/
theorem valueFrom_lt_of_length_lt {as bs : List Char} (ha : AreDigits as) (hb : AreDigits bs)
    (hzero : bs.head? ≠ some '0') (h : as.length < bs.length) :
    valueFrom 0 as < valueFrom 0 bs := by
  obtain ⟨c, cs, rfl⟩ := List.exists_cons_of_ne_nil (List.ne_nil_of_length_pos (Nat.zero_lt_of_lt h))
  calc valueFrom 0 as < 10 ^ as.length := valueFrom_lt ha
    _ ≤ 10 ^ cs.length := Nat.pow_le_pow_right (by decide) (Nat.le_of_lt_succ h)
    _ ≤ valueFrom 0 (c :: cs) :=
      pow_le_valueFrom (hb c List.mem_cons_self) fun hc => hzero (congrArg some hc)

/-- Of two lists of digits of one length, that with the lower value comes first as a text. -/
theorem lt_of_valueFrom_lt {as bs : List Char} (ha : AreDigits as) (hb : AreDigits bs)
    (hlen : as.length = bs.length) (h : valueFrom 0 as < valueFrom 0 bs) : as < bs := by
  induction as generalizing bs with
  | nil =>
    cases bs with
    | nil => exact absurd h (Nat.lt_irrefl _)
    | cons b bs => cases hlen
  | cons a as ih =>
    cases bs with
    | nil => cases hlen
    | cons b bs =>
      obtain ⟨ha, has⟩ := List.forall_mem_cons.1 ha
      obtain ⟨hb, hbs⟩ := List.forall_mem_cons.1 hb
      have hlen : as.length = bs.length := Nat.succ.inj hlen
      rw [valueFrom_cons, valueFrom_cons, hlen] at h
      have hna := (toNat_of_isDigit ha).1
      have hnb := (toNat_of_isDigit hb).1
      rw [List.cons_lt_cons_iff]
      rcases Nat.lt_trichotomy (digitValue a) (digitValue b) with hlt | heq | hgt
      · refine .inl (Char.lt_def.2 (UInt32.lt_iff_toNat_lt.2 ?_))
        change a.toNat < b.toNat
        omega
      · refine .inr ⟨Char.toNat_inj.1 (by omega), ih has hbs hlen ?_⟩
        rw [heq] at h
        omega
      · -- the first digit would outweigh all that follow
        have hbound := valueFrom_lt hbs
        have hle : 10 ^ bs.length * (digitValue b + 1) ≤ 10 ^ bs.length * digitValue a :=
          Nat.mul_le_mul_left _ hgt
        rw [Nat.mul_succ] at hle
        omega

/-- A list of digits is known by its length and its value. -/
theorem eq_of_valueFrom_eq {as bs : List Char} (ha : AreDigits as) (hb : AreDigits bs)
    (hlen : as.length = bs.length) (h : valueFrom 0 as = valueFrom 0 bs) : as = bs := by
  induction as generalizing bs with
  | nil => exact (List.length_eq_zero_iff.1 hlen.symm).symm
  | cons a as ih =>
    cases bs with
    | nil => cases hlen
    | cons b bs =>
      obtain ⟨ha, has⟩ := List.forall_mem_cons.1 ha
      obtain ⟨hb, hbs⟩ := List.forall_mem_cons.1 hb
      have hlen : as.length = bs.length := Nat.succ.inj hlen
      rw [valueFrom_cons, valueFrom_cons, hlen] at h
      have hla := valueFrom_lt has
      have hlb := valueFrom_lt hbs
      rw [hlen] at hla
      have hdiv := congrArg (· / 10 ^ bs.length) h
      simp only [Nat.mul_add_div (Nat.pow_pos (by decide : 0 < 10)), Nat.div_eq_of_lt hla,
        Nat.div_eq_of_lt hlb, Nat.add_zero] at hdiv
      have hna := (toNat_of_isDigit ha).1
      have hnb := (toNat_of_isDigit hb).1
      rw [hdiv] at h
      rw [ih has hbs hlen (by omega), Char.toNat_inj.1 (show a.toNat = b.toNat by omega)]

/-! ## Written numbers -/

theorem isDigit_of_isDigit {c : Char} (h : c.isDigit) : isDigit c := by
  simpa [isDigit, Char.isDigit, Char.le_def] using h

theorem areDigits_natText (n : Nat) : AreDigits (natText n) := fun _ hc =>
  isDigit_of_isDigit (Nat.isDigit_of_mem_toDigits (by decide) (by decide) hc)

theorem valueFrom_natText (n : Nat) : valueFrom 0 (natText n) = n :=
  Nat.ofDigitChars_toDigits (by decide) (by decide)

theorem length_natText_le_iff {n w : Nat} (hw : 0 < w) : (natText n).length ≤ w ↔ n < 10 ^ w :=
  Nat.length_toDigits_le_iff (by decide) hw

/-- Writing a number undoes reading it, if its digits have no superfluous zero in front. -/
theorem natText_valueFrom {ds : List Char} (h : AreDigits ds) (hne : ds ≠ [])
    (hzero : ∀ rest, ds = '0' :: rest → rest = []) : natText (valueFrom 0 ds) = ds := by
  refine eq_of_valueFrom_eq (areDigits_natText _) h (Nat.le_antisymm ?_ ?_) (valueFrom_natText _)
  · exact (length_natText_le_iff (List.length_pos_iff.2 hne)).2 (valueFrom_lt h)
  · obtain ⟨c, rest, rfl⟩ := List.exists_cons_of_ne_nil hne
    refine Nat.le_of_not_lt fun hshort => ?_
    have hlength : (natText (valueFrom 0 (c :: rest))).length ≤ rest.length :=
      Nat.le_of_lt_succ hshort
    have hpos : 0 < (natText (valueFrom 0 (c :: rest))).length :=
      List.length_pos_iff.2 Nat.toDigits_ne_nil
    have hlt := (length_natText_le_iff (Nat.lt_of_lt_of_le hpos hlength)).1 hlength
    have hc : c ≠ '0' := by
      rintro rfl
      have hrest : rest.length = 0 := List.length_eq_zero_iff.2 (hzero rest rfl)
      omega
    exact absurd (pow_le_valueFrom (h c List.mem_cons_self) hc) (Nat.not_le_of_lt hlt)

theorem eq_nil_of_natText_eq {n : Nat} {ds : List Char} (h : natText n = '0' :: ds) : ds = [] := by
  have hdigits := areDigits_natText n
  have hvalue := valueFrom_natText n
  rw [h] at hdigits
  rw [h, valueFrom_cons, show digitValue '0' = 0 by decide, Nat.mul_zero, Nat.zero_add] at hvalue
  have hlt := valueFrom_lt (List.forall_mem_cons.1 hdigits).2
  rw [hvalue] at hlt
  rcases Nat.eq_zero_or_pos ds.length with hzero | hpos
  · exact List.length_eq_zero_iff.1 hzero
  · -- the digits after the zero would already write the number
    have hle := (length_natText_le_iff hpos).2 hlt
    rw [h, List.length_cons] at hle
    exact absurd hle (Nat.not_succ_le_self _)

theorem natural?_natText (n : Nat) : natural? (natText n) = some n := by
  have hne : (natText n).isEmpty = false := List.isEmpty_eq_false_iff.2 Nat.toDigits_ne_nil
  have hall : (natText n).all isDigit = true := List.all_eq_true.2 (areDigits_natText n)
  rw [natural?, hne, hall, valueFrom_natText]
  rfl

theorem int64?_natText (n : Nat) : int64? (natText n) = (some (Int.ofNat n)).filter isInt64 := by
  obtain ⟨c, cs, hc⟩ : ∃ c cs, natText n = c :: cs :=
    List.exists_cons_of_ne_nil Nat.toDigits_ne_nil
  have hdigit : isDigit c := areDigits_natText n c (hc ▸ List.mem_cons_self)
  have hread := natural?_natText n
  rw [hc] at hread ⊢
  unfold int64?
  split
  · rename_i heq
    exact absurd (List.cons.inj heq).1 (by rintro rfl; exact absurd hdigit (by decide))
  · rename_i heq
    exact absurd (List.cons.inj heq).1 (by rintro rfl; exact absurd hdigit (by decide))
  · rw [hread]
    rfl

/-- Reading an integer undoes writing it. -/
theorem int64?_intText {n : Int} (h : isInt64 n) : int64? (intText n) = some n := by
  unfold intText
  split
  · rename_i hneg
    have hn : -Int.ofNat n.natAbs = n := by
      change -(n.natAbs : Int) = n
      omega
    change ((natural? (natText n.natAbs)).map fun m => -Int.ofNat m).filter isInt64 = _
    rw [natural?_natText, Option.map_some, hn]
    exact Option.filter_eq_some_iff.2 ⟨rfl, h⟩
  · rename_i hneg
    have hn : Int.ofNat n.natAbs = n := by
      change (n.natAbs : Int) = n
      omega
    rw [int64?_natText, hn]
    exact Option.filter_eq_some_iff.2 ⟨rfl, h⟩

/-- An integer is known by its text. -/
theorem intText_inj {n m : Int} : intText n = intText m ↔ n = m := by
  have hdigits : ∀ {n m : Nat}, natText n = natText m → n = m := fun {n m} h => by
    rw [← valueFrom_natText n, h, valueFrom_natText]
  have hsign : ∀ {n m : Nat}, '-' :: natText n ≠ natText m := fun {n m} h =>
    absurd (areDigits_natText m '-' (h ▸ List.mem_cons_self)) (by decide)
  refine ⟨fun h => ?_, congrArg intText⟩
  unfold intText at h
  split at h <;> split at h
  · have := hdigits (List.cons.inj h).2
    omega
  · exact absurd h hsign
  · exact absurd h.symm hsign
  · have := hdigits h
    omega

theorem underscore_not_mem_intText (n : Int) : '_' ∉ intText n := by
  have hnat : '_' ∉ natText n.natAbs := Nat.underscore_not_in_toDigits
  unfold intText
  split
  · exact fun h => (List.mem_cons.1 h).elim (by decide) hnat
  · exact hnat

/-! ## Numbers of one width -/

variable {w n m : Nat}

theorem areDigits_padded (w n : Nat) : AreDigits (padded w n) := by
  intro c hc
  rcases List.mem_append.1 hc with hc | hc
  · rw [List.eq_of_mem_replicate hc]
    decide
  · exact areDigits_natText n c hc

theorem valueFrom_padded (w n : Nat) : valueFrom 0 (padded w n) = n := by
  have hzeros : ∀ k, valueFrom 0 (List.replicate k '0') = 0 := fun k =>
    Nat.ofDigitChars_replicate_zero
  rw [padded, valueFrom_append, hzeros, valueFrom_natText, Nat.mul_zero, Nat.zero_add]

theorem length_padded (hw : 0 < w) (hn : n < 10 ^ w) : (padded w n).length = w := by
  have := (length_natText_le_iff hw).2 hn
  rw [padded, List.length_append, List.length_replicate]
  omega

theorem padded_lt_padded (hw : 0 < w) (hm : m < 10 ^ w) (h : n < m) : padded w n < padded w m := by
  refine lt_of_valueFrom_lt (areDigits_padded w n) (areDigits_padded w m) ?_ ?_
  · rw [length_padded hw (Nat.lt_trans h hm), length_padded hw hm]
  · rwa [valueFrom_padded, valueFrom_padded]

/-- A padded number is its upper and its lower digits, each padded. -/
theorem padded_add {v : Nat} (hv : 0 < v) (hw : 0 < w) (hn : n < 10 ^ (v + w)) :
    padded (v + w) n = padded v (n / 10 ^ w) ++ padded w (n % 10 ^ w) := by
  have hhigh : n / 10 ^ w < 10 ^ v := by
    rw [Nat.div_lt_iff_lt_mul (Nat.pow_pos (by decide)), ← Nat.pow_add]
    exact hn
  have hlow : n % 10 ^ w < 10 ^ w := Nat.mod_lt _ (Nat.pow_pos (by decide))
  refine eq_of_valueFrom_eq (areDigits_padded _ n) ?_ ?_ ?_
  · exact fun c hc =>
      (List.mem_append.1 hc).elim (areDigits_padded v _ c) (areDigits_padded w _ c)
  · rw [List.length_append, length_padded (by omega) hn, length_padded hv hhigh,
      length_padded hw hlow]
  · rw [valueFrom_append, valueFrom_padded, valueFrom_padded, valueFrom_padded,
      length_padded hw hlow, Nat.div_add_mod]

end BuildRegistry.Decimal
