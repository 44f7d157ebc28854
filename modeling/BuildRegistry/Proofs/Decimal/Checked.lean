import BuildRegistry.Proofs.Decimal

/-
  Integers in words of 64 bits. `checked64` is the outcome of an operation, none if it overflows;
  a reader that takes in digit after digit in this arithmetic (`checkedInt64?`) accepts the same
  texts as one that reads the whole number first and then asks whether it fits
  (`checkedInt64?_eq`), however many digits there are. Which texts these are is said by `IsInteger`
  (`int64?_eq_some_iff`).
-/

namespace BuildRegistry.Decimal

/-- The outcome of an operation on signed integers of 64 bits; none is an overflow. -/
def checked64 (n : Int) : Option Int := if isInt64 n then some n else none

/-- The same number as an unsigned integer of 32 bits, if it is one. -/
def checked32 (n : Int) : Option Nat := if 0 ≤ n ∧ n ≤ maxNat32 then some n.toNat else none

theorem isInt64_iff {n : Int} : isInt64 n ↔ minInt64 ≤ n ∧ n ≤ maxInt64 := by
  rw [isInt64, Bool.and_eq_true, decide_eq_true_eq, decide_eq_true_eq]

theorem checked64_of_fits {n : Int} (h : isInt64 n) : checked64 n = some n := if_pos h

theorem checked64_eq_filter (n : Int) : checked64 n = (some n).filter isInt64 :=
  (Option.filter_some).symm

/-! ## Texts of integers -/

/-- A number with a sign. -/
def signed (negative : Bool) (n : Nat) : Int := if negative then -(n : Int) else n

/-- Digits after at most one sign, and the integer that they write. -/
inductive IsInteger : List Char → Int → Prop where
  | plain {ds : List Char} (digits : AreDigits ds) (some_digit : ds ≠ []) :
    IsInteger ds (valueFrom 0 ds)
  | plus {ds : List Char} (digits : AreDigits ds) (some_digit : ds ≠ []) :
    IsInteger ('+' :: ds) (valueFrom 0 ds)
  | minus {ds : List Char} (digits : AreDigits ds) (some_digit : ds ≠ []) :
    IsInteger ('-' :: ds) (-(valueFrom 0 ds : Int))

variable {s ds : List Char} {n : Int}

theorem natural?_eq_some_iff {n : Nat} :
    natural? ds = some n ↔ AreDigits ds ∧ ds ≠ [] ∧ valueFrom 0 ds = n := by
  rw [natural?]
  split
  · rename_i hbad
    refine ⟨fun h => (Option.some_ne_none n h.symm).elim, ?_⟩
    rintro ⟨hdigits, hne, -⟩
    rcases Bool.or_eq_true_iff.1 hbad with hnil | hall
    · exact absurd (List.isEmpty_iff.1 hnil) hne
    · rw [List.all_eq_true.2 hdigits] at hall
      cases hall
  · rename_i hgood
    simp only [Bool.or_eq_true, List.isEmpty_iff, Bool.not_eq_true', not_or,
      Bool.not_eq_false, List.all_eq_true] at hgood
    exact ⟨fun h => ⟨hgood.2, hgood.1, Option.some.inj h⟩, fun h => congrArg some h.2.2⟩

/-- A text that starts with a digit has no sign. -/
theorem int64?_of_digits (h : AreDigits ds) :
    int64? ds = ((natural? ds).map Int.ofNat).filter isInt64 := by
  unfold int64?
  split
  · exact absurd (h '+' List.mem_cons_self) (by decide)
  · exact absurd (h '-' List.mem_cons_self) (by decide)
  · rfl

/-- Read are the texts of integers that fit. -/
theorem int64?_eq_some_iff : int64? s = some n ↔ IsInteger s n ∧ isInt64 n := by
  constructor
  · intro h
    unfold int64? at h
    obtain ⟨hread, hfits⟩ := Option.filter_eq_some_iff.1 h
    refine ⟨?_, hfits⟩
    split at hread
    all_goals
      obtain ⟨m, hm, rfl⟩ := Option.map_eq_some_iff.1 hread
      obtain ⟨hdigits, hne, rfl⟩ := natural?_eq_some_iff.1 hm
    · exact .plus hdigits hne
    · exact .minus hdigits hne
    · exact .plain hdigits hne
  · rintro ⟨hinteger, hfits⟩
    cases hinteger with
    | plain hdigits hne =>
      rw [int64?_of_digits hdigits, natural?_eq_some_iff.2 ⟨hdigits, hne, rfl⟩]
      exact Option.filter_eq_some_iff.2 ⟨rfl, hfits⟩
    | @plus ds hdigits hne =>
      change ((natural? ds).map Int.ofNat).filter isInt64 = _
      rw [natural?_eq_some_iff.2 ⟨hdigits, hne, rfl⟩]
      exact Option.filter_eq_some_iff.2 ⟨rfl, hfits⟩
    | @minus ds hdigits hne =>
      change ((natural? ds).map fun n => -Int.ofNat n).filter isInt64 = _
      rw [natural?_eq_some_iff.2 ⟨hdigits, hne, rfl⟩]
      exact Option.filter_eq_some_iff.2 ⟨rfl, hfits⟩

theorem IsInteger.underscore_not_mem (h : IsInteger s n) : '_' ∉ s := by
  have hdigits : ∀ {ds}, AreDigits ds → '_' ∉ ds := fun hds hmem =>
    absurd (hds _ hmem) (by decide)
  cases h with
  | plain hds => exact hdigits hds
  | plus hds => exact fun hmem => (List.mem_cons.1 hmem).elim (by decide) (hdigits hds)
  | minus hds => exact fun hmem => (List.mem_cons.1 hmem).elim (by decide) (hdigits hds)

/-! ## Digit by digit -/

/-- Takes in a digit on the side of the sign. There is no outcome if the character is no digit, or
if the product or the sum overflows. -/
def takeDigit (negative : Bool) (n : Int) (c : Char) : Option Int :=
  if isDigit c then do
    let product ← checked64 (10 * n)
    checked64 (if negative then product - digitValue c else product + digitValue c)
  else none

def checkedDigits (negative : Bool) (ds : List Char) : Option Int :=
  if ds.isEmpty then none else ds.foldlM (takeDigit negative) 0

/-- An integer after at most one sign, digit by digit. -/
def checkedInt64? (s : List Char) : Option Int :=
  match s with
  | '+' :: rest => checkedDigits false rest
  | '-' :: rest => checkedDigits true rest
  | _ => checkedDigits false s

theorem isInt64_signed_of_le {negative : Bool} {m n : Nat} (h : isInt64 (signed negative n))
    (hle : m ≤ n) : isInt64 (signed negative m) := by
  rw [isInt64_iff] at h ⊢
  unfold signed minInt64 maxInt64 at *
  split at h <;> split <;> omega

/-- If the product overflows, so does the number with the next digit. -/
theorem takeDigit_signed (negative : Bool) {c : Char} (hc : isDigit c) (m : Nat) :
    takeDigit negative (signed negative m) c =
      checked64 (signed negative (10 * m + digitValue c)) := by
  have hproduct : 10 * signed negative m = signed negative (10 * m) := by
    unfold signed
    split <;> omega
  have hsum : (if negative then signed negative (10 * m) - digitValue c
      else signed negative (10 * m) + digitValue c) =
      signed negative (10 * m + digitValue c) := by
    unfold signed
    split <;> omega
  rw [takeDigit, if_pos hc, hproduct]
  by_cases hfits : isInt64 (signed negative (10 * m))
  · rw [checked64_of_fits hfits, ← hsum]
    rfl
  · have hnext : ¬ isInt64 (signed negative (10 * m + digitValue c)) := fun h =>
      hfits (isInt64_signed_of_le h (Nat.le_add_right _ _))
    rw [checked64, if_neg hfits, checked64, if_neg hnext]
    rfl

/-- Once a number does not fit, none of those with more digits does. -/
theorem foldlM_takeDigit (negative : Bool) (hds : AreDigits ds) {m : Nat}
    (hm : isInt64 (signed negative m)) : ds.foldlM (takeDigit negative) (signed negative m) =
      checked64 (signed negative (valueFrom m ds)) := by
  induction ds generalizing m with
  | nil => exact (checked64_of_fits hm).symm
  | cons c ds ih =>
    obtain ⟨hc, hds⟩ := List.forall_mem_cons.1 hds
    rw [List.foldlM_cons, takeDigit_signed negative hc]
    by_cases hfits : isInt64 (signed negative (10 * m + digitValue c))
    · rw [checked64_of_fits hfits]
      exact ih hds hfits
    · have hall : ¬ isInt64 (signed negative (valueFrom m (c :: ds))) := fun h =>
        hfits (isInt64_signed_of_le h (le_valueFrom ds _))
      rw [checked64, if_neg hfits, checked64, if_neg hall]
      rfl

theorem foldlM_takeDigit_of_not_digit (negative : Bool) (hds : ¬ AreDigits ds) (n : Int) :
    ds.foldlM (takeDigit negative) n = none := by
  induction ds generalizing n with
  | nil => exact absurd (fun c hc => by cases hc) hds
  | cons c ds ih =>
    rw [List.foldlM_cons]
    by_cases hc : isDigit c
    · have hrest : ¬ AreDigits ds := fun h => hds (List.forall_mem_cons.2 ⟨hc, h⟩)
      cases takeDigit negative n c with
      | none => rfl
      | some m => exact ih hrest m
    · rw [takeDigit, if_neg hc]
      rfl

theorem checkedDigits_eq (negative : Bool) (ds : List Char) :
    checkedDigits negative ds = ((natural? ds).map (signed negative)).filter isInt64 := by
  have hzero : signed negative 0 = 0 := by cases negative <;> rfl
  rw [checkedDigits, natural?]
  by_cases hnil : ds.isEmpty
  · rw [if_pos hnil, if_pos (Bool.or_eq_true_iff.2 (.inl hnil))]
    rfl
  · rw [if_neg hnil]
    by_cases hds : AreDigits ds
    · rw [if_neg (by simpa [hnil, AreDigits] using hds), ← hzero,
        foldlM_takeDigit negative hds (by rw [hzero]; decide), checked64_eq_filter]
      rfl
    · rw [foldlM_takeDigit_of_not_digit negative hds, if_pos (by simpa [hnil, AreDigits] using hds)]
      rfl

/-- Reading in 64 bits gives what reading without bounds gives, where that fits. -/
theorem checkedInt64?_eq (s : List Char) : checkedInt64? s = int64? s := by
  unfold checkedInt64?
  split
  · exact checkedDigits_eq false _
  · exact checkedDigits_eq true _
  · rename_i hplus hminus
    unfold int64?
    split
    · exact absurd rfl (hplus _)
    · exact absurd rfl (hminus _)
    · exact checkedDigits_eq false s

end BuildRegistry.Decimal
