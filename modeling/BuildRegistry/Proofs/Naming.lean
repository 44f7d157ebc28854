import BuildRegistry.Naming
import BuildRegistry.Proofs.Bytes

/-
  Package names as bytes. A name consists of ASCII characters, each of them one byte, so that names
  are ordered as texts in the way their bytes are.
-/

namespace BuildRegistry

namespace Bytes

def IsAscii (cs : List Char) : Prop := ∀ c ∈ cs, c.val ≤ 127

/-- The byte of an ASCII character. -/
def ofAscii (c : Char) : UInt8 := c.val.toUInt8

theorem ofAscii_lt {c d : Char} (hd : d.val ≤ 127) (h : c < d) : ofAscii c < ofAscii d := by
  rw [Char.lt_def, UInt32.lt_iff_toNat_lt] at h
  rw [UInt32.le_iff_toNat_le] at hd
  rw [UInt8.lt_iff_toNat_lt, ofAscii, ofAscii, UInt32.toNat_toUInt8, UInt32.toNat_toUInt8]
  change d.val.toNat ≤ 127 at hd
  omega

theorem ofString_of_ascii {s : String} (h : IsAscii s.toList) :
    ofString s = s.toList.map ofAscii := by
  have hflat : ∀ {cs : List Char}, IsAscii cs →
      cs.flatMap String.utf8EncodeChar = cs.map ofAscii := by
    intro cs hcs
    induction cs with
    | nil => rfl
    | cons c cs ih =>
      obtain ⟨hc, hcs⟩ := List.forall_mem_cons.1 hcs
      rw [List.flatMap_cons, ih hcs,
        String.utf8EncodeChar_eq_singleton (Char.utf8Size_eq_one_iff.2 hc)]
      rfl
  rw [ofString_eq_flatMap, hflat h]

/-- ASCII texts are ordered as their bytes are. -/
theorem ofString_lt_of_lt {s t : String} (hs : IsAscii s.toList) (ht : IsAscii t.toList)
    (h : s < t) : ofString s < ofString t := by
  have hmap : ∀ {cs ds : List Char}, IsAscii ds → cs < ds → cs.map ofAscii < ds.map ofAscii := by
    intro cs ds hds hlt
    induction cs generalizing ds with
    | nil =>
      cases ds with
      | nil => exact absurd hlt (List.lt_irrefl _)
      | cons d ds => exact List.nil_lt_cons _ _
    | cons c cs ih =>
      cases ds with
      | nil => exact absurd hlt (List.not_lt_nil _)
      | cons d ds =>
        obtain ⟨hd, hrest⟩ := List.forall_mem_cons.1 hds
        rw [List.map_cons, List.map_cons, List.cons_lt_cons_iff]
        rcases List.cons_lt_cons_iff.1 hlt with hcd | ⟨rfl, htail⟩
        · exact .inl (ofAscii_lt hd hcd)
        · exact .inr ⟨rfl, ih hrest htail⟩
  rw [ofString_of_ascii hs, ofString_of_ascii ht]
  exact hmap ht h

end Bytes

namespace Naming

theorem isNameChar_of_isPackageName {s : String} (h : isPackageName s) :
    ∀ c ∈ s.toList, isNameChar c := by
  simp only [isPackageName, isPackageNameChars, Bool.and_eq_true] at h
  exact List.all_eq_true.1 h.1.1.1.2

theorem isAscii_of_isPackageName {s : String} (h : isPackageName s) : Bytes.IsAscii s.toList := by
  intro c hc
  have := isNameChar_of_isPackageName h c hc
  simp only [isNameChar, isSmallAlphanumeric, isSmallLetter, Decimal.isDigit, Bool.or_eq_true,
    Bool.and_eq_true, decide_eq_true_eq, Char.le_def] at this
  rcases this with (⟨-, hz⟩ | ⟨-, hz⟩) | rfl
  · exact UInt32.le_trans hz (by decide)
  · exact UInt32.le_trans hz (by decide)
  · decide

theorem ne_empty_of_isPackageName {s : String} (h : isPackageName s) : s ≠ "" := by
  rintro rfl
  exact absurd h (by decide)

end Naming

end BuildRegistry
