import BuildRegistry.Proofs.Decimal
import BuildRegistry.Time

/-
  Dates and times in the order of their texts. Years begin in March: `yearStart y` is the number of
  days before year `y`, and a day is its year and the day inside it (`ofDays_spec`). From there
  later days have later dates (`ofDays_before`), and as every field has its width, later moments of
  the years 0 to 9999 have later texts (`stored_lt_stored`), although the fraction of a second
  takes as many digits as it needs.
-/

namespace BuildRegistry.Time

/-! ## Years -/

/-- The number of days before a year that begins in March, from the start of year 0. -/
def yearStart (y : Int) : Int := 365 * y + y / 4 - y / 100 + y / 400

/-- The year of a day of an era of 400 years. -/
def yearOfEra (e : Nat) : Nat := (e - e / 1460 + e / 36524 - e / 146096) / 365

/-- Centuries, and in them groups of four years, and in them years. -/
theorem yearOfEra_eq {c b s : Nat} (hc : c ≤ 3) (hb : b ≤ 24) (hs : s ≤ 1460)
    (hbs : 1461 * b + s < 36524) :
    yearOfEra (36524 * c + 1461 * b + s) = 100 * c + 4 * b + min 3 (s / 365) := by
  have hfours : (36524 * c + 1461 * b + s) / 1460 = 25 * c + b + (24 * c + b + s) / 1460 := by omega
  have hcenturies : (36524 * c + 1461 * b + s) / 36524 = c := by omega
  have hlast : (36524 * c + 1461 * b + s) / 146096 = 0 := by omega
  have hcarry : (24 * c + b + s) / 1460 ≤ 1 := by omega
  rw [yearOfEra, hfours, hcenturies, hlast]
  generalize hδ : (24 * c + b + s) / 1460 = δ at hcarry
  obtain rfl | rfl : δ = 0 ∨ δ = 1 := by omega
  · omega
  · omega

theorem yearStart_yearOfEra {e : Nat} (he : e < 146097) :
    yearStart (yearOfEra e) ≤ e ∧ (e : Int) < yearStart (yearOfEra e + 1) := by
  by_cases hlast : e = 146096
  · subst hlast
    decide
  · obtain ⟨c, b, s, rfl, hc, hb, hs, hbs⟩ : ∃ c b s, e = 36524 * c + 1461 * b + s ∧ c ≤ 3 ∧
        b ≤ 24 ∧ s ≤ 1460 ∧ 1461 * b + s < 36524 :=
      ⟨e / 36524, e % 36524 / 1461, e % 36524 % 1461, by omega, by omega, by omega, by omega,
        by omega⟩
    rw [yearOfEra_eq hc hb hs hbs, yearStart, yearStart]
    obtain ⟨j, hj⟩ : ∃ j, j = min 3 (s / 365) := ⟨_, rfl⟩
    rw [← hj]
    obtain rfl | rfl | rfl | rfl : j = 0 ∨ j = 1 ∨ j = 2 ∨ j = 3 := by omega
    all_goals constructor <;> omega

theorem yearOfEra_lt {e : Nat} (he : e < 146097) : yearOfEra e < 400 := by
  have h := (yearStart_yearOfEra he).1
  unfold yearStart at h
  omega

theorem yearStart_add_eras (y era : Int) :
    yearStart (era * 400 + y) = 146097 * era + yearStart y := by
  unfold yearStart
  omega

theorem yearStart_le_yearStart {y y' : Int} (h : y ≤ y') : yearStart y ≤ yearStart y' := by
  unfold yearStart
  omega

theorem yearStart_succ_le (y : Int) : yearStart (y + 1) ≤ yearStart y + 366 := by
  unfold yearStart
  omega

/-! ## Dates -/

namespace Date

/-- The date of a day of a year that begins in March. -/
def ofYearDay (y : Int) (dayOfYear : Nat) : Date :=
  let m := (5 * dayOfYear + 2) / 153
  let month := if m < 10 then m + 3 else m - 9
  ⟨if month ≤ 2 then y + 1 else y, month, dayOfYear - (153 * m + 2) / 5 + 1⟩

theorem ofDays_spec (days : Int) : ∃ y dayOfYear, ofDays days = ofYearDay y dayOfYear ∧
    yearStart y + dayOfYear = days + 719468 ∧ days + 719468 < yearStart (y + 1) := by
  obtain ⟨e, he⟩ : ∃ e : Nat, e = ((days + 719468) % 146097).toNat := ⟨_, rfl⟩
  have hlt : e < 146097 := by omega
  obtain ⟨hle, hgt⟩ := yearStart_yearOfEra hlt
  have hy := yearOfEra_lt hlt
  -- the day of the year is taken in natural numbers
  have hnat : yearStart (yearOfEra e) =
      (365 * yearOfEra e + yearOfEra e / 4 - yearOfEra e / 100 : Nat) := by
    unfold yearStart
    omega
  refine ⟨(days + 719468) / 146097 * 400 + yearOfEra e,
    e - (365 * yearOfEra e + yearOfEra e / 4 - yearOfEra e / 100), ?_, ?_, ?_⟩
  · rw [he]
    rfl
  · rw [yearStart_add_eras]
    omega
  · rw [Int.add_assoc, yearStart_add_eras]
    omega

/-- The first date comes before the second one. -/
def Before (d d' : Date) : Prop :=
  d.year < d'.year ∨ d.year = d'.year ∧ (d.month < d'.month ∨ d.month = d'.month ∧ d.day < d'.day)

theorem ofYearDay_before_of_year {y y' : Int} (h : y < y') {n : Nat} (hn : n ≤ 365) (n' : Nat) :
    Before (ofYearDay y n) (ofYearDay y' n') := by
  unfold Before ofYearDay
  dsimp only
  split <;> split <;> split <;> split <;> omega

theorem ofYearDay_before_of_day (y : Int) {n n' : Nat} (h : n < n') (hn' : n' ≤ 365) :
    Before (ofYearDay y n) (ofYearDay y n') := by
  unfold Before ofYearDay
  dsimp only
  split <;> split <;> split <;> split <;> omega

theorem ofDays_before {days days' : Int} (h : days < days') :
    Before (ofDays days) (ofDays days') := by
  obtain ⟨y, n, heq, hstart, hend⟩ := ofDays_spec days
  obtain ⟨y', n', heq', hstart', hend'⟩ := ofDays_spec days'
  have hn : n ≤ 365 := by have := yearStart_succ_le y; omega
  have hn' : n' ≤ 365 := by have := yearStart_succ_le y'; omega
  rw [heq, heq']
  rcases Int.lt_trichotomy y y' with hlt | rfl | hgt
  · exact ofYearDay_before_of_year hlt hn n'
  · exact ofYearDay_before_of_day y (by omega) hn'
  · have := yearStart_le_yearStart (show y' + 1 ≤ y by omega)
    omega

theorem ofDays_fields (days : Int) : (ofDays days).month < 100 ∧ (ofDays days).day < 100 := by
  obtain ⟨y, n, heq, hstart, hend⟩ := ofDays_spec days
  have hn : n ≤ 365 := by have := yearStart_succ_le y; omega
  rw [heq]
  unfold ofYearDay
  dsimp only
  split <;> omega

theorem year_le_year {days days' : Int} (h : days ≤ days') :
    (ofDays days).year ≤ (ofDays days').year := by
  rcases Int.lt_or_eq_of_le h with hlt | rfl
  · rcases ofDays_before hlt with hyear | ⟨hyear, -⟩ <;> omega
  · exact Int.le_refl _

end Date

/-! ## Texts field by field -/

section Fields

open Decimal

theorem append_lt_append {as bs : List Char} (hlen : as.length = bs.length) (h : as < bs)
    (cs ds : List Char) : as ++ cs < bs ++ ds := by
  induction as generalizing bs with
  | nil =>
    obtain rfl := List.length_eq_zero_iff.1 hlen.symm
    exact absurd h (List.lt_irrefl _)
  | cons a as ih =>
    cases bs with
    | nil => cases hlen
    | cons b bs =>
      rw [List.cons_append, List.cons_append, List.cons_lt_cons_iff]
      exact (List.cons_lt_cons_iff.1 h).imp_right fun ⟨heq, hlt⟩ =>
        ⟨heq, ih (Nat.succ.inj hlen) hlt⟩

theorem cons_lt_cons_of_lt (c : Char) {as bs : List Char} (h : as < bs) : c :: as < c :: bs :=
  List.cons_lt_cons_iff.2 (.inr ⟨rfl, h⟩)

/-- Texts of three fields, of which the first two have their widths. -/
theorem fields_lt {a a' b b' c c' : List Char} (sep : Char) (ha : a.length = a'.length)
    (hb : b.length = b'.length) (h : a < a' ∨ a = a' ∧ (b < b' ∨ b = b' ∧ c < c')) :
    a ++ sep :: b ++ c < a' ++ sep :: b' ++ c' := by
  rcases h with h | ⟨rfl, h | ⟨rfl, h⟩⟩
  · rw [List.append_assoc, List.append_assoc]
    exact append_lt_append ha h _ _
  · refine append_lt_append ?_ (List.append_left_lt (cons_lt_cons_of_lt sep h)) _ _
    rw [List.length_append, List.length_append, List.length_cons, List.length_cons, hb]
  · exact List.append_left_lt h

theorem length_padded_two {n : Nat} (h : n < 100) : (padded 2 n).length = 2 :=
  length_padded (by decide) h

theorem yearText_eq {y : Int} (hy : 0 ≤ y ∧ y ≤ 9999) : yearText y = padded 4 y.natAbs :=
  if_pos hy

theorem length_yearText {y : Int} (hy : 0 ≤ y ∧ y ≤ 9999) : (yearText y).length = 4 := by
  rw [yearText_eq hy]
  exact length_padded (by decide) (by omega)

theorem Date.text_lt_text {d d' : Date} (hy : 0 ≤ d.year ∧ d.year ≤ 9999)
    (hy' : 0 ≤ d'.year ∧ d'.year ≤ 9999) (hd : d.month < 100 ∧ d.day < 100)
    (hd' : d'.month < 100 ∧ d'.day < 100) (h : Before d d') : d.text < d'.text := by
  refine fields_lt '-' ?_ ?_ ?_
  · rw [length_yearText hy, length_yearText hy']
  · rw [length_padded_two hd.1, length_padded_two hd'.1]
  · rcases h with h | ⟨hyear, h | ⟨hmonth, h⟩⟩
    · rw [yearText_eq hy, yearText_eq hy']
      exact .inl (padded_lt_padded (by decide) (by omega) (by omega))
    · rw [hyear]
      exact .inr ⟨rfl, .inl (padded_lt_padded (by decide) (by omega) h)⟩
    · rw [hyear, hmonth]
      exact .inr ⟨rfl, .inr ⟨rfl,
        cons_lt_cons_of_lt '-' (padded_lt_padded (by decide) (by omega) h)⟩⟩

theorem Date.length_text {d : Date} (hy : 0 ≤ d.year ∧ d.year ≤ 9999)
    (hd : d.month < 100 ∧ d.day < 100) : d.text.length = 10 := by
  simp only [Date.text, List.length_append, List.length_cons, length_yearText hy,
    length_padded_two hd.1, length_padded_two hd.2]

theorem clockText_lt_clockText {n n' : Nat} (h : n < n') (hn' : n' < 86400) :
    clockText n < clockText n' := by
  refine fields_lt ':' ?_ ?_ ?_
  · rw [length_padded_two (by omega), length_padded_two (by omega)]
  · rw [length_padded_two (by omega), length_padded_two (by omega)]
  · obtain hhour | ⟨hhour, hminute | ⟨hminute, hsecond⟩⟩ : n / 3600 < n' / 3600 ∨
        n / 3600 = n' / 3600 ∧ (n / 60 % 60 < n' / 60 % 60 ∨
          n / 60 % 60 = n' / 60 % 60 ∧ n % 60 < n' % 60) := by omega
    · exact .inl (padded_lt_padded (by decide) (by omega) hhour)
    · rw [hhour]
      exact .inr ⟨rfl, .inl (padded_lt_padded (by decide) (by omega) hminute)⟩
    · rw [hhour, hminute]
      exact .inr ⟨rfl, .inr ⟨rfl,
        cons_lt_cons_of_lt ':' (padded_lt_padded (by decide) (by omega) hsecond)⟩⟩

theorem length_clockText {n : Nat} (h : n < 86400) : (clockText n).length = 8 := by
  simp only [clockText, List.length_append, List.length_cons,
    length_padded_two (show n / 3600 < 100 by omega),
    length_padded_two (show n / 60 % 60 < 100 by omega),
    length_padded_two (show n % 60 < 100 by omega)]

/-- The digits below the milliseconds. -/
def lowDigits (n : Nat) : List Char := if n % 1000 = 0 then [] else padded 3 (n % 1000)

theorem fractionText_eq {n : Nat} (hzero : n ≠ 0) (hn : n < 1000000) :
    fractionText n = '.' :: (padded 3 (n / 1000) ++ lowDigits n) := by
  rw [fractionText, if_neg hzero, lowDigits]
  split
  · rw [List.append_nil]
  · rw [show padded 6 n = padded 3 (n / 1000) ++ padded 3 (n % 1000) from
      padded_add (by decide : 0 < 3) (by decide : 0 < 3) hn]

theorem lowDigits_lt_lowDigits {n n' : Nat} (h : n % 1000 < n' % 1000) :
    lowDigits n < lowDigits n' := by
  rw [lowDigits, lowDigits, if_neg (show n' % 1000 ≠ 0 by omega)]
  split
  · obtain ⟨c, cs, hc⟩ : ∃ c cs, padded 3 (n' % 1000) = c :: cs :=
      List.exists_cons_of_ne_nil fun hnil => by
        have := length_padded (by decide : 0 < 3) (show n' % 1000 < 10 ^ 3 by omega)
        rw [hnil] at this
        cases this
    rw [hc]
    exact List.nil_lt_cons _ _
  · exact padded_lt_padded (by decide) (by omega) h

/-- Leaving out the digits of whole milliseconds or seconds keeps the order. -/
theorem fractionText_lt_fractionText {n n' : Nat} (h : n < n') (hn' : n' < 1000000) :
    fractionText n < fractionText n' := by
  rw [fractionText_eq (show n' ≠ 0 by omega) hn']
  by_cases hzero : n = 0
  · rw [fractionText, if_pos hzero]
    exact List.nil_lt_cons _ _
  · rw [fractionText_eq hzero (by omega)]
    refine cons_lt_cons_of_lt '.' ?_
    obtain hlt | ⟨heq, hlt⟩ : n / 1000 < n' / 1000 ∨ n / 1000 = n' / 1000 ∧ n % 1000 < n' % 1000 := by
      omega
    · refine append_lt_append ?_ (padded_lt_padded (by decide) (by omega) hlt) _ _
      rw [length_padded (by decide) (by omega), length_padded (by decide) (by omega)]
    · rw [heq]
      exact List.append_left_lt (lowDigits_lt_lowDigits hlt)

end Fields

/-! ## Moments -/

/-- The day of a moment, counted from the start of 1970. -/
def day (t : Time) : Int := t.seconds / 86400

/-- The moment lies in the years 0 to 9999, which are written without a sign. -/
def HasPlainYear (t : Time) : Prop := 0 ≤ (Date.ofDays t.day).year ∧ (Date.ofDays t.day).year ≤ 9999

/-- Later moments have later texts. -/
theorem stored_lt_stored {t u : Time} (ht : t.HasPlainYear) (hu : u.HasPlainYear)
    (h : t.micros < u.micros) : t.stored < u.stored := by
  have htd := Date.ofDays_fields t.day
  have hud := Date.ofDays_fields u.day
  change (String.ofList _).toList < (String.ofList _).toList
  rw [String.toList_ofList, String.toList_ofList]
  refine fields_lt ' ' ?_ ?_ ?_
  · exact (Date.length_text ht htd).trans (Date.length_text hu hud).symm
  · rw [length_clockText (by omega), length_clockText (by omega)]
  · obtain hday | ⟨hday, hclock | ⟨hclock, hfraction⟩⟩ : t.day < u.day ∨ t.day = u.day ∧
        ((t.seconds % 86400).toNat < (u.seconds % 86400).toNat ∨
          (t.seconds % 86400).toNat = (u.seconds % 86400).toNat ∧
            (t.micros % 1000000).toNat < (u.micros % 1000000).toNat) := by
      unfold day seconds
      omega
    · exact .inl (Date.text_lt_text ht hu htd hud (Date.ofDays_before hday))
    · exact .inr ⟨congrArg (fun d => (Date.ofDays d).text) hday,
        .inl (clockText_lt_clockText hclock (by omega))⟩
    · exact .inr ⟨congrArg (fun d => (Date.ofDays d).text) hday,
        .inr ⟨congrArg clockText hclock, fractionText_lt_fractionText hfraction (by omega)⟩⟩

/-- The order of stored texts is that of the moments. -/
theorem stored_lt_iff {t u : Time} (ht : t.HasPlainYear) (hu : u.HasPlainYear) :
    t.stored < u.stored ↔ t.micros < u.micros := by
  refine ⟨fun h => ?_, stored_lt_stored ht hu⟩
  rcases Int.lt_trichotomy t.micros u.micros with hlt | heq | hgt
  · exact hlt
  · obtain rfl : t = u := congrArg Time.mk heq
    exact absurd h (String.lt_irrefl _)
  · exact absurd h (String.lt_asymm (stored_lt_stored hu ht hgt))

theorem stored_inj {t u : Time} (ht : t.HasPlainYear) (hu : u.HasPlainYear) :
    t.stored = u.stored ↔ t = u := by
  refine ⟨fun h => congrArg Time.mk ?_, fun h => h ▸ rfl⟩
  rcases Int.lt_trichotomy t.micros u.micros with hlt | heq | hgt
  · exact absurd (h ▸ stored_lt_stored ht hu hlt) (String.lt_irrefl _)
  · exact heq
  · exact absurd (h ▸ stored_lt_stored hu ht hgt) (String.lt_irrefl _)

/-- The calendar has the year of the moment. -/
def InCalendar (t : Time) : Prop :=
  -262143 ≤ (Date.ofDays t.day).year ∧ (Date.ofDays t.day).year ≤ 262142

theorem HasPlainYear.inCalendar {t : Time} (h : t.HasPlainYear) : t.InCalendar := by
  unfold HasPlainYear at h
  unfold InCalendar
  omega

/-- The moments of the calendar are those between its first and its last. -/
theorem inCalendar_iff {t : Time} : t.InCalendar ↔ first ≤ t.micros ∧ t.micros ≤ last := by
  have hfirst : -262143 ≤ (Date.ofDays t.day).year ↔ -96465292 ≤ t.day := by
    constructor
    · intro hyear
      refine Int.not_lt.1 fun hlt => ?_
      have hbefore := Date.year_le_year (show t.day ≤ -96465293 by omega)
      rw [show (Date.ofDays (-96465293)).year = -262144 by decide] at hbefore
      omega
    · intro hday
      have hafter := Date.year_le_year hday
      rwa [show (Date.ofDays (-96465292)).year = -262143 by decide] at hafter
  have hlast : (Date.ofDays t.day).year ≤ 262142 ↔ t.day ≤ 95026236 := by
    constructor
    · intro hyear
      refine Int.not_lt.1 fun hgt => ?_
      have hafter := Date.year_le_year (show 95026237 ≤ t.day by omega)
      rw [show (Date.ofDays 95026237).year = 262143 by decide] at hafter
      omega
    · intro hday
      have hbefore := Date.year_le_year hday
      rwa [show (Date.ofDays 95026236).year = 262142 by decide] at hbefore
  rw [InCalendar, hfirst, hlast]
  unfold day seconds first last
  omega

theorem ofMicros?_eq_some_iff {n : Int} {t : Time} :
    ofMicros? n = some t ↔ t.micros = n ∧ t.InCalendar := by
  rw [inCalendar_iff, ofMicros?]
  constructor
  · intro h
    split at h
    · rename_i hbounds
      rw [← Option.some.inj h]
      exact ⟨rfl, hbounds⟩
    · cases h
  · rintro ⟨rfl, hbounds⟩
    exact if_pos hbounds

/-- They are integers of 64 bits. -/
theorem InCalendar.isInt64 {t : Time} (h : t.InCalendar) : Decimal.isInt64 t.micros := by
  obtain ⟨hlow, hhigh⟩ := inCalendar_iff.1 h
  unfold first at hlow
  unfold last at hhigh
  refine Bool.and_eq_true_iff.2 ⟨decide_eq_true ?_, decide_eq_true ?_⟩
  · unfold Decimal.minInt64
    omega
  · unfold Decimal.maxInt64
    omega

end BuildRegistry.Time
