import BuildRegistry.Proofs.Decimal.Checked
import BuildRegistry.Proofs.DeploymentListing

/-
  Cursors of the deployment listing. `IsWritten` says which texts are cursors of a place: an integer
  that counts microseconds, the first underscore, and the identifier, in which there may be more of
  them. Places have distinct cursors (`cursor_inj`), and read are exactly the texts of places that
  the calendar has (`ofCursor?_eq_some_iff`).

  A moment is handed to the calendar as seconds and nanoseconds, in words of 64 and of 32 bits.
  `checkedCursor?` and `readChecked` write and read cursors in that arithmetic, with an outcome of
  its own for an overflow. There is none: the digits of a number that does not fit are refused
  before, and what fits leaves room for the rest (`readChecked_eq`).

  Main statement: `deployment_cursor_round_trip`.
-/

namespace BuildRegistry

/-! ## Moments in seconds and nanoseconds -/

namespace Time

open Decimal (checked64 checked32)

/-- The moment of a count of seconds and of nanoseconds after it, if the calendar has it. The outer
`none` stands for nanoseconds that are not inside one second. -/
def ofClock? (seconds : Int) (nanos : Nat) : Option (Option Time) :=
  if nanos < 1000000000 then some (ofMicros? (seconds * 1000000 + nanos / 1000)) else none

/-- The moment of a count of microseconds by way of the clock. The outer `none` is an overflow. -/
def ofMicrosChecked? (n : Int) : Option (Option Time) := do
  let seconds ← checked64 (n / 1000000)
  let rest ← checked64 (n % 1000000)
  let product ← checked64 (rest * 1000)
  let nanos ← checked32 product
  ofClock? seconds nanos

/-- The microseconds of a moment from its seconds and what is left over. `none` is an overflow. -/
def microsChecked? (t : Time) : Option Int := do
  let whole ← checked64 (t.seconds * 1000000)
  checked64 (whole + t.micros % 1000000)

theorem ofMicrosChecked?_eq {n : Int} (h : Decimal.isInt64 n) :
    ofMicrosChecked? n = some (ofMicros? n) := by
  obtain ⟨hlow, hhigh⟩ := Decimal.isInt64_iff.1 h
  unfold Decimal.minInt64 at hlow
  unfold Decimal.maxInt64 at hhigh
  have hword : ∀ m : Int, -9223372036854775808 ≤ m → m ≤ 9223372036854775807 →
      checked64 m = some m := fun m hlow hhigh =>
    Decimal.checked64_of_fits (Decimal.isInt64_iff.2 ⟨hlow, hhigh⟩)
  have hseconds : checked64 (n / 1000000) = some (n / 1000000) := hword _ (by omega) (by omega)
  have hrest : checked64 (n % 1000000) = some (n % 1000000) := hword _ (by omega) (by omega)
  have hproduct : checked64 (n % 1000000 * 1000) = some (n % 1000000 * 1000) :=
    hword _ (by omega) (by omega)
  have hnanos : checked32 (n % 1000000 * 1000) = some (n % 1000000 * 1000).toNat := by
    refine if_pos ⟨by omega, ?_⟩
    unfold Decimal.maxNat32
    omega
  have hclock : ofClock? (n / 1000000) (n % 1000000 * 1000).toNat = some (ofMicros? n) := by
    have hmicros : n / 1000000 * 1000000 + ((n % 1000000 * 1000).toNat : Int) / 1000 = n := by
      omega
    rw [ofClock?, if_pos (by omega), hmicros]
  unfold ofMicrosChecked?
  simp only [hseconds, hrest, hproduct, hnanos, hclock, Option.bind_eq_bind, Option.bind_some]

theorem microsChecked?_eq {t : Time} (h : t.InCalendar) : t.microsChecked? = some t.micros := by
  obtain ⟨hlow, hhigh⟩ := inCalendar_iff.1 h
  unfold first at hlow
  unfold last at hhigh
  have hwhole : checked64 (t.seconds * 1000000) = some (t.seconds * 1000000) := by
    refine Decimal.checked64_of_fits (Decimal.isInt64_iff.2 ?_)
    unfold seconds Decimal.minInt64 Decimal.maxInt64
    omega
  have hsum : t.seconds * 1000000 + t.micros % 1000000 = t.micros := by
    unfold seconds
    omega
  unfold microsChecked?
  simp only [hwhole, hsum, Decimal.checked64_of_fits h.isInt64, Option.bind_eq_bind,
    Option.bind_some]

end Time

/-! ## Texts of places -/

namespace Position

variable {p q : Position} {s : String}

/-- The text is a cursor of the place. The count of microseconds may have a sign of either kind and
zeros in front. -/
structure IsWritten (s : String) (p : Position) : Prop where
  parts : ∃ count, s.toList = count ++ '_' :: p.id.toList ∧
    Decimal.IsInteger count p.createdAt.micros
  calendar : p.createdAt.InCalendar
  id : p.id ≠ ""

/-- Places are known by their cursors. -/
theorem cursor_inj : p.cursor = q.cursor ↔ p = q := by
  refine ⟨fun h => ?_, congrArg cursor⟩
  have hlist := congrArg (fun s => Text.cutAt '_' s.toList) h
  simp only [cursor, String.toList_ofList,
    Text.cutAt_append (Decimal.underscore_not_mem_intText _)] at hlist
  obtain ⟨hmicros, hid⟩ := Prod.mk.inj (Option.some.inj hlist)
  have hcount : p.createdAt.micros = q.createdAt.micros := Decimal.intText_inj.1 hmicros
  cases p
  cases q
  exact congr (congrArg mk (congrArg Time.mk hcount)) (String.toList_inj.1 hid)

/-- Read are the texts that are written for some place, and each for that place alone. -/
theorem ofCursor?_eq_some_iff : ofCursor? s = some p ↔ IsWritten s p := by
  constructor
  · intro h
    obtain ⟨⟨count, id⟩, hcut, h⟩ := Option.bind_eq_some_iff.1 h
    dsimp only at h
    split at h
    · cases h
    · rename_i hid
      obtain ⟨n, hn, h⟩ := Option.bind_eq_some_iff.1 h
      obtain ⟨t, ht, h⟩ := Option.bind_eq_some_iff.1 h
      cases h
      obtain ⟨rfl, hcalendar⟩ := Time.ofMicros?_eq_some_iff.1 ht
      obtain ⟨hs, -⟩ := Text.cutAt_eq_some_iff.1 hcut
      refine ⟨⟨count, ?_, (Decimal.int64?_eq_some_iff.1 hn).1⟩, hcalendar, ?_⟩
      · rwa [String.toList_ofList]
      · simpa [String.ofList_eq_empty_iff] using hid
  · rintro ⟨⟨count, hs, hcount⟩, hcalendar, hid⟩
    exact ofCursor?_of_parts hs hcount.underscore_not_mem
      (Decimal.int64?_eq_some_iff.2 ⟨hcount, hcalendar.isInt64⟩) hcalendar hid

/-! ## Cursors in machine words -/

/-- The cursor of a place, its moment counted in words of 64 bits. `none` is an overflow. -/
def checkedCursor? (p : Position) : Option String := do
  let n ← p.createdAt.microsChecked?
  return String.ofList (Decimal.intText n ++ '_' :: p.id.toList)

/-- Reads a cursor in machine words. The outer `none` is an overflow. -/
def readChecked (cursor : String) : Option (Except StoreError Position) :=
  match Text.cutAt '_' cursor.toList with
  | none => some (.error (.invalidCursor cursor))
  | some (count, id) =>
    if id.isEmpty then some (.error (.invalidCursor cursor))
    else match Decimal.checkedInt64? count with
      | none => some (.error (.invalidCursor cursor))
      | some n => (Time.ofMicrosChecked? n).map fun
        | none => .error (.invalidCursor cursor)
        | some t => .ok ⟨t, String.ofList id⟩

theorem checkedCursor?_eq (h : p.createdAt.InCalendar) : p.checkedCursor? = some p.cursor := by
  rw [checkedCursor?, Time.microsChecked?_eq h]
  rfl

/-- Nothing overflows on the way, whatever the text is. -/
theorem readChecked_eq (s : String) : readChecked s = some (match ofCursor? s with
    | some p => .ok p
    | none => .error (.invalidCursor s)) := by
  rw [readChecked, ofCursor?]
  cases hcut : Text.cutAt '_' s.toList with
  | none => rfl
  | some parts =>
    obtain ⟨count, id⟩ := parts
    simp only [Option.bind_eq_bind, Option.bind_some]
    by_cases hid : id.isEmpty = true
    · rw [if_pos hid, if_pos hid]
    · rw [if_neg hid, if_neg hid, Decimal.checkedInt64?_eq]
      cases hcount : Decimal.int64? count with
      | none => rfl
      | some n =>
        simp only [Option.bind_some]
        rw [Time.ofMicrosChecked?_eq (Decimal.int64?_eq_some_iff.1 hcount).2]
        cases Time.ofMicros? n <;> rfl

end Position

namespace Store

open Position

/-- A listing refuses a cursor that cannot be read. -/
theorem listDeployments_of_unreadable {cursor : String} (h : ofCursor? cursor = none)
    (hne : cursor ≠ "") (f : DeploymentFilter) (limit : Option Int) (s : Store) :
    listDeployments f ⟨some cursor, limit⟩ s = .error (.invalidCursor cursor) s := by
  have hafter : PageRequest.after ⟨some cursor, limit⟩ = some cursor :=
    Option.filter_eq_some_iff.2 ⟨rfl, decide_eq_true hne⟩
  refine bind_of_error ?_
  unfold startOf
  rw [hafter]
  dsimp only
  rw [h]
  rfl

/-- The cursor of a deployment with an identifier, recorded at any moment that the calendar has,
is written without overflow and reads back as the place of the deployment; deployments of different
places have different cursors. Every text is read without overflow: as a place, if it is written for
one, and else it is refused, also by the listing. -/
theorem deployment_cursor_round_trip :
    (∀ d : Deployment, d.createdAt.InCalendar → d.id ≠ "" →
      d.position.checkedCursor? = some d.cursor ∧
      readChecked d.cursor = some (.ok ⟨d.createdAt, d.id⟩)) ∧
    (∀ d e : Deployment, d.cursor = e.cursor ↔ (d.createdAt, d.id) = (e.createdAt, e.id)) ∧
    ∀ cursor : String,
      (∃ p, IsWritten cursor p ∧ ofCursor? cursor = some p ∧
        readChecked cursor = some (.ok p)) ∨
      ((∀ p, ¬ IsWritten cursor p) ∧ ofCursor? cursor = none ∧
        readChecked cursor = some (.error (.invalidCursor cursor)) ∧
        ∀ f limit s, cursor ≠ "" →
          listDeployments f ⟨some cursor, limit⟩ s = .error (.invalidCursor cursor) s) := by
  refine ⟨fun d hcalendar hid => ⟨checkedCursor?_eq hcalendar, ?_⟩, fun d e => ?_, fun cursor => ?_⟩
  · rw [readChecked_eq, show ofCursor? d.cursor = some d.position from
      ofCursor?_cursor hcalendar hid]
    rfl
  · refine cursor_inj.trans ⟨fun h => ?_, fun h => ?_⟩
    · exact congrArg (fun p : Position => (p.createdAt, p.id)) h
    · exact congrArg (fun p : Time × String => Position.mk p.1 p.2) h
  · rw [readChecked_eq]
    cases h : ofCursor? cursor with
    | some p => exact .inl ⟨p, ofCursor?_eq_some_iff.1 h, rfl, rfl⟩
    | none =>
      refine .inr ⟨fun p hp => ?_, rfl, rfl,
        fun f limit s hne => listDeployments_of_unreadable h hne f limit s⟩
      rw [ofCursor?_eq_some_iff.2 hp] at h
      cases h

/-- One microsecond before 1970, under an identifier with underscores, next to a count that fits in
64 bits and is beyond the calendar. -/
theorem deployment_cursor_round_trip_before_1970 : ∃ d : Deployment,
    d.createdAt.InCalendar ∧ d.id ≠ "" ∧ d.position.checkedCursor? = some "-1_a_b" ∧
    readChecked "-1_a_b" = some (.ok ⟨⟨-1⟩, "a_b"⟩) ∧
    readChecked "9223372036854775807_a_b" =
      some (.error (.invalidCursor "9223372036854775807_a_b")) := by
  let d : Deployment := ⟨"a_b", "p", "Token", "evm", 1,
    "0x1111111111111111111111111111111111111111", none, none, none, none, false, none, none, ⟨-1⟩⟩
  have hcalendar : d.createdAt.InCalendar := Time.inCalendar_iff.2 (by decide)
  have hcursor : d.cursor = "-1_a_b" := by decide +kernel
  obtain ⟨hround, -, hread⟩ := deployment_cursor_round_trip
  obtain ⟨hwritten, hback⟩ := hround d hcalendar (by decide)
  rw [hcursor] at hwritten hback
  refine ⟨d, hcalendar, by decide, hwritten, hback, ?_⟩
  have houtside : ofCursor? "9223372036854775807_a_b" = none := by decide +kernel
  rcases hread "9223372036854775807_a_b" with ⟨p, -, hp, -⟩ | ⟨-, -, hrefused, -⟩
  · rw [houtside] at hp
    cases hp
  · exact hrefused

end Store

end BuildRegistry
