import BuildRegistry.Bytes

/-
  Text as bytes. The UTF-8 form of a text is that of its characters one after the other, the text
  is read back from it, and a byte below 128 stands in it only where its character does.
-/

namespace BuildRegistry.Bytes

theorem ofString_eq_flatMap (s : String) : ofString s = s.toList.flatMap String.utf8EncodeChar := by
  have hs : s.toByteArray = s.toList.utf8Encode := by
    rw [← String.toByteArray_ofList, String.ofList_toList]
  rw [ofString, String.toUTF8_eq_toByteArray, hs, List.utf8Encode, List.toList_data_toByteArray]

theorem ofString_append (s t : String) : ofString (s ++ t) = ofString s ++ ofString t := by
  rw [ofString_eq_flatMap, ofString_eq_flatMap, ofString_eq_flatMap, String.toList_append,
    List.flatMap_append]

theorem toString?_ofString (s : String) : (ofString s).toString? = some s := by
  unfold toString? ofString
  rw [Array.toArray_toList, String.toUTF8_eq_toByteArray]
  exact dif_pos s.isValidUTF8

theorem toString?_eq_some_iff {b : Bytes} {s : String} :
    b.toString? = some s ↔ b = ofString s := by
  constructor
  · intro h
    unfold toString? String.fromUTF8? at h
    split at h
    · obtain rfl := Option.some.inj h
      rfl
    · cases h
  · rintro rfl
    exact toString?_ofString s

theorem ofString_inj {s t : String} (h : ofString s = ofString t) : s = t := by
  have := toString?_ofString s
  rw [h, toString?_ofString] at this
  exact (Option.some.inj this).symm

/-- A byte below 128 is the whole of its character. -/
theorem toNat_of_mem_utf8EncodeChar {c : Char} {b : UInt8} (hb : b.toNat < 128)
    (h : b ∈ String.utf8EncodeChar c) : c.toNat = b.toNat := by
  have hlate : ∀ n, 128 ≤ n → n < 256 → b ≠ UInt8.ofNat n := by
    rintro n hlow hhigh rfl
    rw [UInt8.toNat_ofNat'] at hb
    omega
  unfold String.utf8EncodeChar at h
  dsimp only at h
  split at h
  · rename_i hsmall
    rw [List.mem_singleton.1 h, UInt8.toNat_ofNat']
    exact (Nat.mod_eq_of_lt (Nat.lt_of_le_of_lt hsmall (by decide))).symm
  · have hnone : ∀ l : List Nat, (∀ n ∈ l, 128 ≤ n ∧ n < 256) → b ∉ l.map UInt8.ofNat := by
      intro l hl hmem
      obtain ⟨n, hn, hbn⟩ := List.mem_map.1 hmem
      exact hlate n (hl n hn).1 (hl n hn).2 hbn.symm
    split at h
    · exact absurd h (hnone [_, _] (by simp; omega))
    · split at h
      · exact absurd h (hnone [_, _, _] (by simp; omega))
      · exact absurd h (hnone [_, _, _, _] (by simp; omega))

theorem mem_ofString {s : String} {b : UInt8} (hb : b.toNat < 128) (h : b ∈ ofString s) :
    Char.ofNat b.toNat ∈ s.toList := by
  rw [ofString_eq_flatMap] at h
  obtain ⟨c, hc, hbc⟩ := List.mem_flatMap.1 h
  rwa [← toNat_of_mem_utf8EncodeChar hb hbc, Char.ofNat_toNat]

/-- A text whose bytes start with one below 128 starts with the character of that byte. -/
theorem cons_prefix_flatMap {b : UInt8} (hb : b.toNat < 128) {bs : Bytes} {cs : List Char}
    (h : b :: bs <+: cs.flatMap String.utf8EncodeChar) :
    ∃ cs', cs = Char.ofNat b.toNat :: cs' ∧ bs <+: cs'.flatMap String.utf8EncodeChar := by
  cases cs with
  | nil => exact absurd (List.prefix_nil.1 h) (List.cons_ne_nil b bs)
  | cons c cs =>
    rw [List.flatMap_cons] at h
    have hlength : 0 < (String.utf8EncodeChar c).length := by
      rw [String.length_utf8EncodeChar]
      exact Char.utf8Size_pos c
    obtain ⟨x, xs, hx⟩ := List.exists_cons_of_length_pos hlength
    rw [hx, List.cons_append] at h
    obtain ⟨rfl, hrest⟩ := List.cons_prefix_cons.1 h
    have hc : c.toNat = b.toNat := toNat_of_mem_utf8EncodeChar hb (hx ▸ List.mem_cons_self)
    have hascii : c.val ≤ 127 := by
      rw [UInt32.le_iff_toNat_le]
      change c.toNat ≤ 127
      omega
    rw [String.utf8EncodeChar_eq_singleton (Char.utf8Size_eq_one_iff.2 hascii)] at hx
    rw [← (List.cons.inj hx).2] at hrest
    exact ⟨cs, by rw [← hc, Char.ofNat_toNat], hrest⟩

theorem ofString_eq_nil {s : String} (h : ofString s = []) : s = "" :=
  ofString_inj (h.trans (by decide +kernel))

end BuildRegistry.Bytes
