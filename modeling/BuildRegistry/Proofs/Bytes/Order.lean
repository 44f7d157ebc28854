import Mathlib.Data.String.Basic
import BuildRegistry.Proofs.Bytes

/-
  The order of texts and that of their bytes. A higher code point has a longer UTF-8 form with a
  higher first byte, or one of the same length whose digits to the base 64 say that it is higher;
  so texts are in the order of their bytes (`ofString_lt_iff`).
-/

namespace BuildRegistry.Bytes

/-! ## One character -/

/-- The UTF-8 form of a code point, as numbers. -/
def utf8Units (v : Nat) : List Nat :=
  if v ≤ 0x7f then [v]
  else if v ≤ 0x7ff then [v / 64 % 32 + 0xc0, v % 64 + 0x80]
  else if v ≤ 0xffff then [v / 4096 % 16 + 0xe0, v / 64 % 64 + 0x80, v % 64 + 0x80]
  else [v / 262144 % 8 + 0xf0, v / 4096 % 64 + 0x80, v / 64 % 64 + 0x80, v % 64 + 0x80]

theorem utf8Units_of_large {v : Nat} (h : 0xffff < v) : utf8Units v =
    [v / 262144 % 8 + 0xf0, v / 4096 % 64 + 0x80, v / 64 % 64 + 0x80, v % 64 + 0x80] := by
  unfold utf8Units
  rw [if_neg (by omega), if_neg (by omega), if_neg (by omega)]

theorem toNat_utf8EncodeChar (c : Char) :
    (String.utf8EncodeChar c).map UInt8.toNat = utf8Units c.toNat := by
  have hunits : String.utf8EncodeChar c = (utf8Units c.toNat).map UInt8.ofNat := by
    unfold String.utf8EncodeChar utf8Units Char.toNat
    dsimp only
    split
    · rfl
    · split
      · rfl
      · split <;> rfl
  have hsmall : ∀ n ∈ utf8Units c.toNat, n < 256 := by
    unfold utf8Units
    split_ifs <;> simp only [List.forall_mem_cons, List.not_mem_nil, false_implies, implies_true,
      and_true] <;> omega
  rw [hunits, List.map_map]
  exact (List.map_congr_left fun n hn => Nat.mod_eq_of_lt (hsmall n hn)).trans (List.map_id' _)

variable {v w : Nat}

/-- Code points beyond the first plane: the first digits to the base 64 that differ decide. -/
theorem utf8Units_append_lt_of_large (hv : 0xffff < v) (h : v < w) (hw : w < 0x110000)
    (x y : List Nat) : utf8Units v ++ x < utf8Units w ++ y := by
  have hdigits : ∀ u : Nat, u / 64 = 64 * (u / 4096) + u / 64 % 64 ∧
      u / 4096 = 64 * (u / 262144) + u / 4096 % 64 := by omega
  obtain ⟨hv₁, hv₂⟩ := hdigits v
  obtain ⟨hw₁, hw₂⟩ := hdigits w
  have hlow : v / 64 < w / 64 ∨ v / 64 = w / 64 ∧ v % 64 < w % 64 := by omega
  have hmiddle : v / 64 < w / 64 →
      v / 4096 < w / 4096 ∨ v / 4096 = w / 4096 ∧ v / 64 % 64 < w / 64 % 64 := by omega
  have hhigh : v / 4096 < w / 4096 →
      v / 262144 < w / 262144 ∨ v / 262144 = w / 262144 ∧ v / 4096 % 64 < w / 4096 % 64 := by omega
  have hfirst : v / 262144 < 8 ∧ w / 262144 < 8 := by omega
  rw [utf8Units_of_large hv, utf8Units_of_large (by omega)]
  simp only [List.cons_append, List.nil_append, List.cons_lt_cons_iff,
    Nat.mod_eq_of_lt hfirst.1, Nat.mod_eq_of_lt hfirst.2]
  omega

/-- Whatever follows, a higher code point comes later. -/
theorem utf8Units_append_lt (h : v < w) (hw : w < 0x110000) (x y : List Nat) :
    utf8Units v ++ x < utf8Units w ++ y := by
  by_cases hv : 0xffff < v
  · exact utf8Units_append_lt_of_large hv h hw x y
  · unfold utf8Units
    split_ifs <;> simp only [List.cons_append, List.nil_append, List.cons_lt_cons_iff] <;> omega

/-! ## Texts -/

theorem toNat_ofString (s : String) :
    (ofString s).map UInt8.toNat = s.toList.flatMap fun c => utf8Units c.toNat := by
  rw [ofString_eq_flatMap, List.map_flatMap]
  exact List.flatMap_congr fun c _ => toNat_utf8EncodeChar c

theorem map_toNat_lt_iff {x y : Bytes} : x.map UInt8.toNat < y.map UInt8.toNat ↔ x < y := by
  induction x generalizing y with
  | nil => cases y <;> simp
  | cons a x ih =>
    cases y with
    | nil => simp
    | cons b y =>
      rw [List.map_cons, List.map_cons, List.cons_lt_cons_iff, List.cons_lt_cons_iff, ih,
        UInt8.lt_iff_toNat_lt, UInt8.toNat_inj]

theorem flatMap_utf8Units_lt {cs ds : List Char} (h : cs < ds) :
    cs.flatMap (fun c => utf8Units c.toNat) < ds.flatMap (fun c => utf8Units c.toNat) := by
  induction cs generalizing ds with
  | nil =>
    cases ds with
    | nil => exact absurd h (List.lt_irrefl _)
    | cons d ds =>
      rw [List.flatMap_nil, List.flatMap_cons]
      unfold utf8Units
      split_ifs <;> exact List.nil_lt_cons _ _
  | cons c cs ih =>
    cases ds with
    | nil => exact absurd h (List.not_lt_nil _)
    | cons d ds =>
      rw [List.flatMap_cons, List.flatMap_cons]
      rcases List.cons_lt_cons_iff.1 h with hlt | ⟨rfl, hlt⟩
      · refine utf8Units_append_lt hlt ?_ _ _
        exact d.valid.elim (fun h => by change d.val.toNat < _; omega) fun h => h.2
      · exact List.Lex.append_left _ (ih hlt) _

/-- Texts are in the order of their bytes. -/
theorem ofString_lt_iff {s t : String} : ofString s < ofString t ↔ s < t := by
  have hmono : ∀ {s t : String}, s < t → ofString s < ofString t := by
    intro s t h
    rw [← map_toNat_lt_iff, toNat_ofString, toNat_ofString]
    exact flatMap_utf8Units_lt (String.lt_iff_toList_lt.1 h)
  refine ⟨fun h => ?_, hmono⟩
  rcases lt_trichotomy s t with hlt | rfl | hgt
  · exact hlt
  · exact absurd h (List.lt_irrefl _)
  · exact absurd (hmono hgt) (List.lt_asymm h)

end BuildRegistry.Bytes
