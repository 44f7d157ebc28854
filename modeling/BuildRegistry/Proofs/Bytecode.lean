import BuildRegistry.Bytecode
import BuildRegistry.Proofs.Bytes

/-
  Spellings of bytecode. Bytes are spelled by their hexadecimal digits in either case, after a mark
  or none, with white space around them, and a zero in front of the digits may be left out
  (`Spells`). Every spelling is decoded to the bytes it spells (`decode_of_spells`).
-/

namespace BuildRegistry

namespace Text

/-- Trimming takes off blanks at both ends and stops at what is none. -/
theorem trimChars_surrounded {before core after : List Char} (hb : ∀ c ∈ before, isBlank c)
    (hc : ∀ c ∈ core, isBlank c = false) (ha : ∀ c ∈ after, isBlank c) :
    trimChars (before ++ core ++ after) = core := by
  have hstop : ∀ {cs : List Char} (rest : List Char), cs ≠ [] → (∀ c ∈ cs, isBlank c = false) →
      (cs ++ rest).dropWhile isBlank = cs ++ rest := by
    intro cs rest hne hcs
    cases cs with
    | nil => exact absurd rfl hne
    | cons c cs =>
      rw [List.cons_append, List.dropWhile_cons_of_neg (by simp [hcs c List.mem_cons_self])]
  rw [trimChars, trimStart, List.append_assoc, List.dropWhile_append_of_pos hb, trimEnd]
  by_cases hne : core = []
  · subst hne
    have hnil : after.dropWhile isBlank = [] := by
      rw [← List.append_nil after, List.dropWhile_append_of_pos ha, List.dropWhile_nil]
    rw [List.nil_append, hnil]
    rfl
  · have hrev := hstop [] (mt List.reverse_eq_nil_iff.1 hne)
      fun c hcr => hc c (List.mem_reverse.1 hcr)
    rw [List.append_nil] at hrev
    rw [hstop _ hne hc, List.reverse_append,
      List.dropWhile_append_of_pos fun c h => ha c (List.mem_reverse.1 h), hrev,
      List.reverse_reverse]

/-- What the ASCII characters have, checked one by one. -/
theorem forall_ascii {P : Char → Prop} (h : ∀ n : Fin 128, P (Char.ofNat n)) {c : Char}
    (hc : c.toNat < 128) : P c := by
  have hn := h ⟨c.toNat, hc⟩
  rwa [Char.ofNat_toNat] at hn

end Text

namespace Hex

theorem toNat_lt_of_isDigit {c : Char} (h : isDigit c) : c.toNat < 128 := by
  unfold isDigit value? at h
  dsimp only at h
  split at h
  · omega
  · split at h
    · omega
    · split at h
      · omega
      · cases h

theorem not_blank_of_isDigit {c : Char} (h : isDigit c) : Text.isBlank c = false :=
  Text.forall_ascii (P := fun c => isDigit c → Text.isBlank c = false) (by decide)
    (toNat_lt_of_isDigit h) h

theorem utf8Size_of_isDigit {c : Char} (h : isDigit c) : c.utf8Size = 1 := by
  rw [Char.utf8Size_eq_one_iff, UInt32.le_iff_toNat_le]
  exact Nat.le_of_lt_succ (toNat_lt_of_isDigit h)

/-- A digit keeps its value in lower case. -/
theorem value?_toLower (c : Char) : value? c.toLower = value? c := by
  by_cases h : c.toNat < 128
  · exact Text.forall_ascii (P := fun c => value? c.toLower = value? c) (by decide) h
  · have hlow : ¬ (c.val ≥ 'A'.val ∧ c.val ≤ 'Z'.val) := by
      rintro ⟨-, hz⟩
      have hz' : c.toNat ≤ 90 := UInt32.le_iff_toNat_le.1 hz
      omega
    have hsame : c.toLower = c := dif_neg hlow
    rw [hsame]

theorem isDigit_digit {n : Nat} (h : n < 16) : isDigit (digit n) := by
  rw [isDigit, value?_digit h]
  rfl

theorem isDigit_of_mem_encodeChars {b : Bytes} {c : Char} (h : c ∈ encodeChars b) : isDigit c := by
  obtain ⟨x, -, hx⟩ := List.mem_flatMap.1 h
  have := x.toNat_lt
  rcases List.mem_cons.1 hx with rfl | hx
  · exact isDigit_digit (by omega)
  · rw [List.mem_singleton.1 hx]
    exact isDigit_digit (by omega)

theorem length_encodeChars (b : Bytes) : (encodeChars b).length = 2 * b.length := by
  induction b with
  | nil => rfl
  | cons x b ih =>
    rw [encodeChars, List.flatMap_cons, List.length_append, List.length_cons]
    change 2 + (encodeChars b).length = _
    omega

theorem decode?_map_toLower (ds : List Char) : decode? (ds.map Char.toLower) = decode? ds := by
  induction ds using decode?.induct with
  | case1 => rfl
  | case2 c => rfl
  | case3 a b rest ih =>
    simp only [List.map_cons, decode?, value?_toLower, ih]

end Hex

namespace Bytecode

/-- What may stand in front of digits. -/
def marks : List (List Char) := [[], ['0', 'x'], ['0', 'X']]

/-- A content spells bytes: it is text with the hexadecimal digits of the bytes in either case,
a mark in front or none, and white space around. The first digit may be left out if it is zero. -/
def Spells (content b : Bytes) : Prop :=
  ∃ before mark digits after,
    content = Bytes.ofString (String.ofList (before ++ (mark ++ digits) ++ after)) ∧
    (∀ c ∈ before, Text.isBlank c) ∧ mark ∈ marks ∧ (∀ c ∈ after, Text.isBlank c) ∧
    (digits.map Char.toLower = Hex.encodeChars b ∨
      '0' :: digits.map Char.toLower = Hex.encodeChars b)

variable {mark digits : List Char}

theorem withoutMark_mark (hm : mark ∈ marks) (hd : ∀ c ∈ digits, Hex.isDigit c) :
    withoutMark (mark ++ digits) = digits := by
  rcases List.mem_cons.1 hm with rfl | hm
  · rw [List.nil_append]
    unfold withoutMark
    split
    · exact absurd (hd 'x' (by simp)) (by decide)
    · exact absurd (hd 'X' (by simp)) (by decide)
    · rfl
  · rcases List.mem_cons.1 hm with rfl | hm
    · rfl
    · rw [List.mem_singleton.1 hm]
      rfl

theorem not_blank_of_mark (hm : mark ∈ marks) : ∀ c ∈ mark, Text.isBlank c = false := by
  have hall : marks.all fun mark => mark.all fun c => !Text.isBlank c := by decide
  intro c hc
  simpa using List.all_eq_true.1 (List.all_eq_true.1 hall mark hm) c hc

theorem lengthOf_digits (hd : ∀ c ∈ digits, Hex.isDigit c) :
    Bytes.lengthOf digits = digits.length := by
  have hfold : ∀ n, digits.foldl (fun n c => n + c.utf8Size) n = n + digits.length := by
    induction digits with
    | nil => exact fun n => rfl
    | cons c cs ih =>
      intro n
      rw [List.foldl_cons, Hex.utf8Size_of_isDigit (hd c List.mem_cons_self),
        ih fun d h => hd d (List.mem_cons_of_mem c h), List.length_cons]
      omega
  rw [Bytes.lengthOf, hfold, Nat.zero_add]

/-- Digits of either case, with a zero put in front if one is missing, are the digits of bytes. -/
theorem decode?_evened {b : Bytes} (hd : ∀ c ∈ digits, Hex.isDigit c)
    (h : digits.map Char.toLower = Hex.encodeChars b ∨
      '0' :: digits.map Char.toLower = Hex.encodeChars b) :
    Hex.decode? (evened digits) = some b := by
  have hlength := Hex.length_encodeChars b
  unfold evened
  rw [lengthOf_digits hd]
  rcases h with h | h
  · rw [← h, List.length_map] at hlength
    rw [if_neg (by omega), ← Hex.decode?_map_toLower, h, Hex.decode?_encodeChars]
  · have hzero : ('0' :: digits).map Char.toLower = Hex.encodeChars b := h
    rw [← h, List.length_cons, List.length_map] at hlength
    rw [if_pos (by omega), ← Hex.decode?_map_toLower, hzero, Hex.decode?_encodeChars]

/-- Digits are found behind a mark and inside white space. -/
theorem decode_surrounded {content : Bytes} {before after : List Char}
    (hcontent : content = Bytes.ofString (String.ofList (before ++ (mark ++ digits) ++ after)))
    (hbefore : ∀ c ∈ before, Text.isBlank c) (hmark : mark ∈ marks)
    (hafter : ∀ c ∈ after, Text.isBlank c) (hd : ∀ c ∈ digits, Hex.isDigit c) :
    decode content = (Hex.decode? (evened digits)).getD content := by
  have hcore : ∀ c ∈ mark ++ digits, Text.isBlank c = false := by
    intro c hc
    rcases List.mem_append.1 hc with hc | hc
    · exact not_blank_of_mark hmark c hc
    · exact Hex.not_blank_of_isDigit (hd c hc)
  unfold decode
  rw [hcontent, Bytes.toString?_ofString]
  dsimp only
  rw [String.toList_ofList, Text.trimChars_surrounded hbefore hcore hafter,
    withoutMark_mark hmark hd]

/-- Every spelling is decoded to what it spells. -/
theorem decode_of_spells {content b : Bytes} (h : Spells content b) : decode content = b := by
  obtain ⟨before, mark, digits, after, hcontent, hbefore, hmark, hafter, hdigits⟩ := h
  have hlower : ∀ c ∈ digits, c.toLower ∈ Hex.encodeChars b := by
    intro c hc
    have hmap := List.mem_map_of_mem (f := Char.toLower) hc
    rcases hdigits with h | h
    · exact h ▸ hmap
    · exact h ▸ List.mem_cons_of_mem _ hmap
  have hd : ∀ c ∈ digits, Hex.isDigit c := by
    intro c hc
    have := Hex.isDigit_of_mem_encodeChars (hlower c hc)
    rwa [Hex.isDigit, Hex.value?_toLower] at this
  rw [decode_surrounded hcontent hbefore hmark hafter hd, decode?_evened hd hdigits]
  rfl

end Bytecode

end BuildRegistry
