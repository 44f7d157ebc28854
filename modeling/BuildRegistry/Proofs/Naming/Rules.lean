import BuildRegistry.Naming
import BuildRegistry.Proofs.Bytecode
import BuildRegistry.Proofs.Naming
import BuildRegistry.Proofs.Text

/-
  The rules for names and addresses, said of their characters: `PackageName`, `ContractName`,
  `HexAddress` and `LowerAddress`. The checks let nothing else through; a contract's name is checked
  after blanks around it are cut off, and an address is checked before it is written in lower case.
  Addresses that differ in the case of letters only are written alike (`lowercase_of_respells`).
-/

namespace BuildRegistry

namespace Hex

/-- The lower case of a digit is a decimal digit or one of the six small letters. -/
theorem toLower_of_isDigit {c : Char} (h : isDigit c) :
    '0' ≤ c.toLower ∧ c.toLower ≤ '9' ∨ 'a' ≤ c.toLower ∧ c.toLower ≤ 'f' :=
  Text.forall_ascii (P := fun c => isDigit c →
      '0' ≤ c.toLower ∧ c.toLower ≤ '9' ∨ 'a' ≤ c.toLower ∧ c.toLower ≤ 'f')
    (by decide) (toNat_lt_of_isDigit h) h

/-- The digits by their ranges. -/
theorem isDigit_iff {c : Char} :
    isDigit c ↔ '0' ≤ c ∧ c ≤ '9' ∨ 'a' ≤ c ∧ c ≤ 'f' ∨ 'A' ≤ c ∧ c ≤ 'F' := by
  by_cases hc : c.toNat < 128
  · exact Text.forall_ascii (P := fun c =>
      isDigit c ↔ '0' ≤ c ∧ c ≤ '9' ∨ 'a' ≤ c ∧ c ≤ 'f' ∨ 'A' ≤ c ∧ c ≤ 'F') (by decide) hc
  · refine iff_of_false (fun h => hc (toNat_lt_of_isDigit h)) fun h => hc ?_
    have hle : ∀ {d : Char}, c ≤ d → c.toNat ≤ d.toNat := UInt32.le_iff_toNat_le.1
    rcases h with ⟨-, h⟩ | ⟨-, h⟩ | ⟨-, h⟩ <;> exact Nat.lt_of_le_of_lt (hle h) (by decide)

end Hex

namespace Naming

/-- The rules for the name of a package. -/
structure PackageName (s : String) : Prop where
  length : 2 ≤ s.toList.length ∧ s.toList.length ≤ 64
  characters : ∀ c ∈ s.toList, 'a' ≤ c ∧ c ≤ 'z' ∨ '0' ≤ c ∧ c ≤ '9' ∨ c = '-'
  first : ∃ c ∈ s.toList.head?, 'a' ≤ c ∧ c ≤ 'z'
  last : s.toList.getLast? ≠ some '-'
  hyphens : ¬ ['-', '-'] <:+: s.toList

/-- The rules for the name of a contract. -/
structure ContractName (s : String) : Prop where
  nonempty : s ≠ ""
  unpadded : Text.Unpadded s.toList
  slash : '/' ∉ s.toList
  backslash : '\\' ∉ s.toList
  dots : ¬ ['.', '.'] <:+: s.toList

/-- The mark `0x` and forty hexadecimal digits of either case. -/
def HexAddress (s : String) : Prop :=
  ∃ ds, s.toList = '0' :: 'x' :: ds ∧ ds.length = 40 ∧
    ∀ c ∈ ds, '0' ≤ c ∧ c ≤ '9' ∨ 'a' ≤ c ∧ c ≤ 'f' ∨ 'A' ≤ c ∧ c ≤ 'F'

/-- The mark `0x` and forty digits, none of them a capital. -/
def LowerAddress (s : String) : Prop :=
  ∃ ds, s.toList = '0' :: 'x' :: ds ∧ ds.length = 40 ∧
    ∀ c ∈ ds, '0' ≤ c ∧ c ≤ '9' ∨ 'a' ≤ c ∧ c ≤ 'f'

theorem packageName_of_isPackageName {s : String} (h : isPackageName s) : PackageName s := by
  simp only [isPackageName, isPackageNameChars, Bool.and_eq_true, decide_eq_true_eq,
    Bool.not_eq_true', List.all_eq_true, Option.any_eq_true] at h
  obtain ⟨⟨⟨⟨⟨hmin, hmax⟩, hchars⟩, hfirst⟩, c, hc, hlast⟩, hhyphens⟩ := h
  constructor
  · exact ⟨hmin, hmax⟩
  · intro d hd
    have := hchars d hd
    simpa [isNameChar, isSmallAlphanumeric, isSmallLetter, Decimal.isDigit, or_assoc] using this
  · obtain ⟨d, hd, hletter⟩ := hfirst
    exact ⟨d, hd, by simpa [isSmallLetter] using hletter⟩
  · rw [hc]
    rintro ⟨⟩
    exact absurd hlast (by decide)
  · rw [← Text.occursIn_iff, hhyphens]
    decide

/-- The check lets through what the rules do. -/
theorem isPackageName_iff {s : String} : isPackageName s ↔ PackageName s := by
  refine ⟨packageName_of_isPackageName, fun h => ?_⟩
  obtain ⟨first, hfirst, hletter⟩ := h.first
  have hchars : ∀ c ∈ s.toList, isNameChar c := by
    intro c hc
    simpa [isNameChar, isSmallAlphanumeric, isSmallLetter, Decimal.isDigit, or_assoc] using
      h.characters c hc
  have hlast : s.toList.getLast?.any isSmallAlphanumeric := by
    obtain ⟨c, hc⟩ : ∃ c, s.toList.getLast? = some c :=
      Option.ne_none_iff_exists'.1 fun hnone => by
        rw [List.getLast?_eq_none_iff.1 hnone] at hfirst
        cases hfirst
    have hname := hchars c (List.mem_of_getLast? hc)
    have hhyphen : ¬ c = '-' := fun heq => h.last (heq ▸ hc)
    rw [isNameChar, decide_eq_false hhyphen, Bool.or_false] at hname
    rw [hc]
    exact hname
  have hhyphens : ¬ Text.occursIn ['-', '-'] s.toList := by
    rw [Text.occursIn_iff]
    exact h.hyphens
  simp only [isPackageName, isPackageNameChars, Bool.and_eq_true, decide_eq_true_eq,
    Bool.not_eq_true', List.all_eq_true, Option.any_eq_true]
  exact ⟨⟨⟨⟨h.length, hchars⟩, first, hfirst, by simpa [isSmallLetter] using hletter⟩,
    (Option.any_eq_true _ _).1 hlast⟩, eq_false_of_ne_true hhyphens⟩

/-- A package name is in lower case. -/
theorem asciiLowercase_of_isPackageName {s : String} (h : isPackageName s) :
    Text.asciiLowercase s = s := by
  have hlower : s.toList.map Char.toLower = s.toList := by
    refine (List.map_congr_left fun c hc => ?_).trans (List.map_id' _)
    have hascii := UInt32.le_iff_toNat_le.1 (isAscii_of_isPackageName h c hc)
    have hchar := (packageName_of_isPackageName h).characters c hc
    exact Text.forall_ascii (P := fun c => 'a' ≤ c ∧ c ≤ 'z' ∨ '0' ≤ c ∧ c ≤ '9' ∨ c = '-' →
      c.toLower = c) (by decide) (Nat.lt_succ_of_le hascii) hchar
  rw [Text.asciiLowercase, hlower, String.ofList_toList]

theorem dots_of_isContractName {s : String} (h : isContractName s) :
    ¬ ['.', '.'] <:+: s.toList := by
  simp only [isContractName, Bool.and_eq_true, Bool.not_eq_true'] at h
  rw [← Text.occursIn_iff, h.2]
  decide

theorem contractName_of_isContractName {s : String} (h : isContractName (Text.trim s)) :
    ContractName (Text.trim s) := by
  have hdots := dots_of_isContractName h
  simp only [isContractName, Bool.and_eq_true, Bool.not_eq_true', List.isEmpty_eq_false_iff,
    List.contains_eq_mem, decide_eq_false_iff_not] at h
  obtain ⟨⟨⟨hne, hslash⟩, hback⟩, -⟩ := h
  constructor
  · rintro hempty
    exact hne (by rw [hempty]; rfl)
  · rw [Text.trim, String.toList_ofList]
    exact Text.unpadded_trimChars _
  · exact hslash
  · exact hback
  · exact hdots

/-- Of what is left after blanks around it are cut off, the check lets through what the rules do. -/
theorem isContractName_trim_iff {s : String} :
    isContractName (Text.trim s) ↔ ContractName (Text.trim s) := by
  refine ⟨contractName_of_isContractName, fun h => ?_⟩
  have hne : (Text.trim s).toList ≠ [] := fun hnil => h.nonempty (String.toList_eq_nil_iff.1 hnil)
  have hdots : ¬ Text.occursIn ['.', '.'] (Text.trim s).toList := by
    rw [Text.occursIn_iff]
    exact h.dots
  simp only [isContractName, Bool.and_eq_true, Bool.not_eq_true', List.isEmpty_eq_false_iff,
    List.contains_eq_mem, decide_eq_false_iff_not]
  exact ⟨⟨⟨hne, h.slash⟩, h.backslash⟩, eq_false_of_ne_true hdots⟩

theorem isAddress_iff {s : String} : isAddress s ↔ HexAddress s := by
  have hdigits : ∀ ds : List Char, ds.all Hex.isDigit = true ↔
      ∀ c ∈ ds, '0' ≤ c ∧ c ≤ '9' ∨ 'a' ≤ c ∧ c ≤ 'f' ∨ 'A' ≤ c ∧ c ≤ 'F' := fun ds =>
    List.all_eq_true.trans (forall₂_congr fun c _ => Hex.isDigit_iff)
  unfold isAddress
  split
  · rename_i ds hs
    rw [Bool.and_eq_true, decide_eq_true_eq, hdigits]
    constructor
    · rintro ⟨hlength, hds⟩
      exact ⟨ds, hs, hlength, hds⟩
    · rintro ⟨es, hs', hlength, hes⟩
      obtain rfl : ds = es := by simpa using hs.symm.trans hs'
      exact ⟨hlength, hes⟩
  · rename_i hmark
    refine iff_of_false Bool.false_ne_true ?_
    rintro ⟨ds, hs, -⟩
    exact hmark ds hs

theorem digits_of_isAddress {s : String} {ds : List Char} (h : isAddress s)
    (hs : s.toList = '0' :: 'x' :: ds) : ds.length = 40 ∧ ∀ c ∈ ds, Hex.isDigit c := by
  simpa [isAddress, hs] using h

/-- An address keeps its mark in lower case, and its digits become small ones. -/
theorem toList_lowercase {s : String} {ds : List Char} (hs : s.toList = '0' :: 'x' :: ds)
    (hds : ∀ c ∈ ds, Hex.isDigit c) :
    (Text.lowercase s).toList = '0' :: 'x' :: ds.map Char.toLower := by
  have hascii : ∀ c ∈ s.toList, c.toNat < 0x80 := by
    rw [hs]
    intro c hc
    rcases List.mem_cons.1 hc with rfl | hc
    · decide
    · rcases List.mem_cons.1 hc with rfl | hc
      · decide
      · exact Hex.toNat_lt_of_isDigit (hds c hc)
  rw [Text.lowercase, String.toList_ofList, Text.lowerFrom_of_ascii hascii, hs]
  rfl

theorem lowerAddress_lowercase {s : String} (h : isAddress s) :
    LowerAddress (Text.lowercase s) := by
  obtain ⟨ds, hs, hlength, hds⟩ := isAddress_iff.1 h
  have hdigits : ∀ c ∈ ds, Hex.isDigit c := fun c hc => Hex.isDigit_iff.2 (hds c hc)
  refine ⟨ds.map Char.toLower, toList_lowercase hs hdigits, by rw [List.length_map, hlength], ?_⟩
  intro c hc
  obtain ⟨d, hd, rfl⟩ := List.mem_map.1 hc
  exact Hex.toLower_of_isDigit (hdigits d hd)

/-! ## Spellings of an address -/

/-- Two texts with the mark `0x` that differ after it in the case of letters only. -/
def Respells (a b : String) : Prop :=
  ∃ ds es, a.toList = '0' :: 'x' :: ds ∧ b.toList = '0' :: 'x' :: es ∧
    ds.map Char.toLower = es.map Char.toLower

variable {a b : String}

theorem isAddress_of_respells (ha : isAddress a) (h : Respells a b) : isAddress b := by
  obtain ⟨ds, es, has, hbs, hlower⟩ := h
  obtain ⟨hlength, hdigits⟩ := digits_of_isAddress ha has
  refine isAddress_iff.2 ⟨es, hbs, ?_, fun c hc => Hex.isDigit_iff.1 ?_⟩
  · rw [← List.length_map Char.toLower, ← hlower, List.length_map, hlength]
  · obtain ⟨d, hd, hdc⟩ := List.mem_map.1 (hlower ▸ List.mem_map_of_mem hc : c.toLower ∈ _)
    have hdigit : (Hex.value? d).isSome := hdigits d hd
    rwa [← Hex.value?_toLower d, hdc, Hex.value?_toLower c] at hdigit

/-- All spellings of an address are one in lower case. -/
theorem lowercase_of_respells (ha : isAddress a) (h : Respells a b) :
    Text.lowercase b = Text.lowercase a := by
  have hb := isAddress_of_respells ha h
  obtain ⟨ds, es, has, hbs, hlower⟩ := h
  rw [← String.toList_inj, toList_lowercase hbs (digits_of_isAddress hb hbs).2,
    toList_lowercase has (digits_of_isAddress ha has).2, hlower]

end Naming

end BuildRegistry
