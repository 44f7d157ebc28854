import BuildRegistry.Proofs.Bytecode
import BuildRegistry.Proofs.Text

/-
  Contents that are text of hexadecimal digits, and those that are not. `HoldsDigits content ds`
  says that the content is the UTF-8 form of the digits `ds` behind a mark or none, with white space
  around them; there may be no digits at all. They write bytes by their values, two digits a byte,
  with a zero in front if their number is odd (`Hex.Writes`).

  Decoding gives the bytes that the digits write. Any other content is left alone, whether it is no
  text, or a text that has characters besides digits, or marks twice: a character that is no digit
  never has a value, and so fails the digit reader wherever it stands.

  Main statement: `decode_reads_digits`.
-/

namespace BuildRegistry

namespace Hex

variable {ds : List Char} {b : Bytes}

/-- The upper and the lower half of each byte. -/
def nibbles (b : Bytes) : List Nat := b.flatMap fun x => [x.toNat / 16, x.toNat % 16]

/-- The digits have the values of the halves of the bytes, after a zero if their number is odd. -/
def Writes (ds : List Char) (b : Bytes) : Prop :=
  (if ds.length % 2 = 1 then '0' :: ds else ds).map value? = (nibbles b).map some

instance (ds : List Char) (b : Bytes) : Decidable (Writes ds b) :=
  inferInstanceAs (Decidable (_ = _))

theorem nibbles_cons (x : UInt8) (b : Bytes) :
    nibbles (x :: b) = x.toNat / 16 :: x.toNat % 16 :: nibbles b := rfl

theorem value?_lt {c : Char} {n : Nat} (h : value? c = some n) : n < 16 := by
  unfold value? at h
  dsimp only at h
  split at h
  · cases h
    omega
  · split at h
    · cases h
      omega
    · split at h
      · cases h
        omega
      · cases h

/-- The digits of bytes are those that have the values of their halves. -/
theorem decode?_eq_some_iff : decode? ds = some b ↔ ds.map value? = (nibbles b).map some := by
  induction ds using decode?.induct generalizing b with
  | case1 =>
    cases b with
    | nil => exact iff_of_true rfl rfl
    | cons x b => simp [decode?, nibbles_cons]
  | case2 c =>
    cases b with
    | nil => simp [decode?, nibbles]
    | cons x b => simp [decode?, nibbles_cons]
  | case3 high low rest ih =>
    simp only [decode?, Option.bind_eq_bind, Option.bind_eq_some_iff, Option.pure_def,
      Option.some.injEq, List.map_cons]
    constructor
    · rintro ⟨h, hh, l, hl, bytes, hrest, rfl⟩
      have hh16 := value?_lt hh
      have hl16 := value?_lt hl
      have hhigh : (UInt8.ofNat (16 * h + l)).toNat / 16 = h := by
        rw [UInt8.toNat_ofNat']
        omega
      have hlow : (UInt8.ofNat (16 * h + l)).toNat % 16 = l := by
        rw [UInt8.toNat_ofNat']
        omega
      rw [nibbles_cons, hhigh, hlow, hh, hl, ih.1 hrest]
      rfl
    · intro h
      cases b with
      | nil => cases h
      | cons x b =>
        rw [nibbles_cons, List.map_cons, List.map_cons, List.cons.injEq, List.cons.injEq] at h
        obtain ⟨hh, hl, hrest⟩ := h
        refine ⟨_, hh, _, hl, b, ih.2 hrest, ?_⟩
        rw [Nat.div_add_mod, UInt8.ofNat_toNat]

theorem isDigit_of_decode? (h : decode? ds = some b) : ∀ c ∈ ds, isDigit c := by
  intro c hc
  have hmem := List.mem_map_of_mem (f := value?) hc
  rw [decode?_eq_some_iff.1 h] at hmem
  obtain ⟨n, -, hn⟩ := List.mem_map.1 hmem
  rw [isDigit, ← hn]
  rfl

/-- Digits in pairs are those of some bytes. -/
theorem exists_decode? (hd : ∀ c ∈ ds, isDigit c) (heven : ds.length % 2 = 0) :
    ∃ b, decode? ds = some b := by
  induction ds using decode?.induct with
  | case1 => exact ⟨[], rfl⟩
  | case2 c => cases heven
  | case3 high low rest ih =>
    obtain ⟨hhigh, hd⟩ := List.forall_mem_cons.1 hd
    obtain ⟨hlow, hd⟩ := List.forall_mem_cons.1 hd
    obtain ⟨h, hh⟩ := Option.isSome_iff_exists.1 hhigh
    obtain ⟨l, hl⟩ := Option.isSome_iff_exists.1 hlow
    rw [List.length_cons, List.length_cons] at heven
    obtain ⟨b, hb⟩ := ih hd (by omega)
    exact ⟨UInt8.ofNat (16 * h + l) :: b, by simp [decode?, hh, hl, hb]⟩

end Hex

namespace Bytecode

variable {content b : Bytes} {ds : List Char}

/-- The content is text: digits behind a mark or none, with white space around. -/
def HoldsDigits (content : Bytes) (ds : List Char) : Prop :=
  ∃ before mark after,
    content = Bytes.ofString (String.ofList (before ++ (mark ++ ds) ++ after)) ∧
    (∀ c ∈ before, Text.isBlank c) ∧ mark ∈ marks ∧ (∀ c ∈ after, Text.isBlank c) ∧
    ∀ c ∈ ds, Hex.isDigit c

theorem HoldsDigits.digits (h : HoldsDigits content ds) : ∀ c ∈ ds, Hex.isDigit c := by
  obtain ⟨-, -, -, -, -, -, -, hd⟩ := h
  exact hd

theorem HoldsDigits.decode_eq (h : HoldsDigits content ds) :
    decode content = (Hex.decode? (evened ds)).getD content := by
  obtain ⟨before, mark, after, hcontent, hbefore, hmark, hafter, hd⟩ := h
  exact decode_surrounded hcontent hbefore hmark hafter hd

theorem writes_iff (hd : ∀ c ∈ ds, Hex.isDigit c) :
    Hex.Writes ds b ↔ Hex.decode? (evened ds) = some b := by
  rw [Hex.decode?_eq_some_iff, evened, lengthOf_digits hd]
  rfl

theorem exists_decode?_evened (hd : ∀ c ∈ ds, Hex.isDigit c) :
    ∃ b, Hex.decode? (evened ds) = some b := by
  unfold evened
  rw [lengthOf_digits hd]
  split
  · exact Hex.exists_decode? (List.forall_mem_cons.2 ⟨by decide, hd⟩)
      (by rw [List.length_cons]; omega)
  · exact Hex.exists_decode? hd (by omega)

theorem HoldsDigits.decode_eq_iff (h : HoldsDigits content ds) :
    decode content = b ↔ Hex.Writes ds b := by
  obtain ⟨b', hb'⟩ := exists_decode?_evened h.digits
  rw [h.decode_eq, writes_iff h.digits, hb', Option.getD_some, Option.some.injEq]

theorem exists_mark (cs : List Char) : ∃ mark ∈ marks, cs = mark ++ withoutMark cs := by
  unfold withoutMark
  split
  · exact ⟨['0', 'x'], by decide, rfl⟩
  · exact ⟨['0', 'X'], by decide, rfl⟩
  · exact ⟨[], by decide, rfl⟩

/-- What the digit reader accepts are digits. -/
theorem holdsDigits_of_decode? {s : String}
    (h : Hex.decode? (evened (withoutMark (Text.trimChars s.toList))) = some b) :
    HoldsDigits (Bytes.ofString s) (withoutMark (Text.trimChars s.toList)) := by
  obtain ⟨before, after, hs, hbefore, hafter⟩ := Text.trimChars_cases s.toList
  obtain ⟨mark, hmark, hcore⟩ := exists_mark (Text.trimChars s.toList)
  refine ⟨before, mark, after, ?_, hbefore, hmark, hafter, fun c hc => ?_⟩
  · rw [← hcore, ← hs, String.ofList_toList]
  · refine Hex.isDigit_of_decode? h c ?_
    unfold evened
    split
    · exact List.mem_cons_of_mem _ hc
    · exact hc

theorem decode_of_no_digits (h : ∀ ds, ¬ HoldsDigits content ds) : decode content = content := by
  unfold decode
  cases htext : content.toString? with
  | none => rfl
  | some s =>
    obtain rfl := Bytes.toString?_eq_some_iff.1 htext
    dsimp only
    cases hread : Hex.decode? (evened (withoutMark (Text.trimChars s.toList))) with
    | none => rfl
    | some b => exact absurd (holdsDigits_of_decode? hread) (h _)

/-- Content that is text of digits decodes to the bytes that the digits write, and to no others, and
any other content to itself. In particular every spelling of bytes decodes to these bytes. -/
theorem decode_reads_digits (content : Bytes) :
    (∀ ds, HoldsDigits content ds → ∀ b, decode content = b ↔ Hex.Writes ds b) ∧
    ((∀ ds, ¬ HoldsDigits content ds) → decode content = content) ∧
    ∀ b, Spells content b → decode content = b :=
  ⟨fun _ h _ => h.decode_eq_iff, decode_of_no_digits, fun _ => decode_of_spells⟩

/-- An odd number of digits in both cases, a spelling of bytes, and bytes that are no text. -/
theorem decode_reads_digits_odd : ∃ odd digits spelled b raw, HoldsDigits odd digits ∧
    decode odd = [0x0a, 0xbc] ∧ Spells spelled b ∧ decode spelled = b ∧
    (∀ ds, ¬ HoldsDigits raw ds) ∧ decode raw = raw := by
  have hodd : HoldsDigits (Bytes.ofString " 0xAbC\n") ['A', 'b', 'C'] :=
    ⟨[' '], ['0', 'x'], ['\n'], by decide +kernel, List.all_eq_true.1 (by decide), by decide,
      List.all_eq_true.1 (by decide), List.all_eq_true.1 (by decide)⟩
  have hspells : Spells (Bytes.ofString "0XABcd") [0xab, 0xcd] :=
    ⟨[], ['0', 'X'], "ABcd".toList, [], by decide +kernel, nofun, by decide, nofun,
      .inl (by decide +kernel)⟩
  have hraw : ∀ ds, ¬ HoldsDigits [0xff, 0] ds := by
    rintro ds ⟨before, mark, after, htext, -⟩
    have hnone : Bytes.toString? [0xff, 0] = none := by decide +kernel
    rw [Bytes.toString?_eq_some_iff.2 htext] at hnone
    cases hnone
  exact ⟨_, _, _, _, _, hodd, ((decode_reads_digits _).1 _ hodd _).2 (by decide +kernel), hspells,
    (decode_reads_digits _).2.2 _ hspells, hraw, (decode_reads_digits _).2.1 hraw⟩

end Bytecode

end BuildRegistry
