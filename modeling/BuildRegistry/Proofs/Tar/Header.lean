import Mathlib.Algebra.Group.Nat.Defs
import BuildRegistry.Tar

/-
  Fields of a header read back. Numbers are digits to some base, of which the field keeps as many
  as it has room for (`foldl_digits`); every field is found at its place in the block
  (`field_of_eq`), which has the same length for all headers with fields of the right widths.
-/

namespace BuildRegistry.Tar

/-! ## Numbers -/

/-- The value of the last digits of a number. -/
theorem foldl_digits {base : Nat} (value : UInt8 → Nat) {digits : Nat → Nat → Bytes}
    (hzero : ∀ n, digits 0 n = [])
    (hsucc : ∀ width n, ∃ d, digits (width + 1) n = digits width (n / base) ++ [d] ∧
      value d = n % base) (width n : Nat) :
    (digits width n).foldl (fun n d => base * n + value d) 0 = n % base ^ width := by
  induction width generalizing n with
  | zero => rw [hzero, List.foldl_nil, Nat.pow_zero, Nat.mod_one]
  | succ width ih =>
    obtain ⟨d, hdigits, hd⟩ := hsucc width n
    rw [hdigits, List.foldl_append, ih, List.foldl_cons, List.foldl_nil, hd, Nat.pow_succ',
      Nat.mod_mul, Nat.add_comm]

theorem isOctalDigit_octalDigit (n : Nat) : isOctalDigit (octalDigit n) := by
  have h : n % 8 < 8 := Nat.mod_lt _ (by decide)
  have hall : ∀ d : Fin 8, isOctalDigit (UInt8.ofNat (48 + d)) := by decide
  exact hall ⟨n % 8, h⟩

theorem isOctalDigit_of_mem {width n : Nat} {b : UInt8} (h : b ∈ octalDigits width n) :
    isOctalDigit b := by
  induction width generalizing n with
  | zero => cases h
  | succ width ih =>
    rcases List.mem_append.1 h with h | h
    · exact ih h
    · rw [List.mem_singleton.1 h]
      exact isOctalDigit_octalDigit n

theorem length_octalDigits (width n : Nat) : (octalDigits width n).length = width := by
  induction width generalizing n with
  | zero => rfl
  | succ width ih => rw [octalDigits, List.length_append, ih, List.length_singleton]

theorem length_octal {width : Nat} (h : 0 < width) (n : Nat) : (octal width n).length = width := by
  rw [octal, List.length_append, length_octalDigits, List.length_singleton]
  omega

theorem octalValue_octal (width n : Nat) : octalValue (octal width n) = n % 8 ^ (width - 1) := by
  have hdigits : (octal width n).takeWhile isOctalDigit = octalDigits (width - 1) n := by
    rw [octal, List.takeWhile_append_of_pos fun b hb => isOctalDigit_of_mem hb]
    exact List.append_nil _
  rw [octalValue, hdigits]
  refine foldl_digits (fun d => d.toNat - 48) (fun _ => rfl) (fun width n => ?_) _ _
  refine ⟨octalDigit n, rfl, ?_⟩
  have h : n % 8 < 8 := Nat.mod_lt _ (by decide)
  rw [octalDigit, UInt8.toNat_ofNat']
  omega

theorem length_bigEndian (width n : Nat) : (bigEndian width n).length = width := by
  induction width generalizing n with
  | zero => rfl
  | succ width ih => rw [bigEndian, List.length_append, ih, List.length_singleton]

theorem bigEndianValue_bigEndian (width n : Nat) :
    bigEndianValue (bigEndian width n) = n % 256 ^ width := by
  refine foldl_digits UInt8.toNat (fun _ => rfl) (fun width n => ?_) width n
  exact ⟨UInt8.ofNat (n % 256), rfl, by rw [UInt8.toNat_ofNat']; omega⟩

theorem length_number (n : Nat) : (number n).length = 12 := by
  unfold number
  split
  · exact length_octal (by decide) n
  · rw [List.length_append, length_bigEndian]
    rfl

/-- A number field holds what fits into eight bytes. -/
theorem numberValue_number (n : Nat) : numberValue (number n) = n % 2 ^ 64 := by
  unfold number
  split
  · rename_i hsmall
    have hhead : (octal 12 n).head?.any (0x80 ≤ ·) = false := by
      rw [Option.any_eq_false]
      intro b hb
      rcases List.mem_append.1 (List.mem_of_mem_head? hb) with h | h
      · have hdigit := isOctalDigit_of_mem h
        simp only [isOctalDigit, Bool.and_eq_true, decide_eq_true_eq] at hdigit
        simpa using UInt8.lt_trans hdigit.2 (by decide)
      · rw [List.mem_singleton.1 h]
        decide
    rw [numberValue, hhead, if_neg Bool.false_ne_true, octalValue_octal]
    unfold octalBound at hsmall
    omega
  · exact bigEndianValue_bigEndian 8 n

/-! ## Places in a block -/

theorem field_of_eq {block b : Bytes} (before after : Bytes) {start width : Nat}
    (hblock : block = before ++ (b ++ after)) (hstart : start = before.length)
    (hwidth : width = b.length) : field block start width = b := by
  rw [field, hblock, hstart, List.drop_left, hwidth, List.take_left]

namespace Header

variable {h : Header}

/-- The fields whose widths are not fixed by how they are written. -/
def Fits (h : Header) : Prop := h.name.length = nameSize ∧ h.owner.length = 16

theorem length_front (hf : h.Fits) : h.front.length = 148 := by
  simp only [front, List.length_append, hf.1, hf.2, length_octal, length_number, nameSize,
    Nat.reduceLT, Nat.reduceAdd]

theorem length_back (h : Header) : h.back.length = 356 := by
  have hmagic : (Bytes.ofString "ustar  ").length = 7 := by decide +kernel
  simp only [back, zeros, List.length_append, List.length_cons, List.length_replicate, hmagic]

theorem length_block (hf : h.Fits) : h.block.length = blockSize := by
  rw [block, List.length_append, List.length_append, length_front hf, length_octal (by decide),
    length_back]
  rfl

theorem block_name (hf : h.Fits) : field h.block 0 nameSize = h.name := by
  refine field_of_eq [] (octal 8 h.mode ++ (h.owner ++ (number h.size ++
    (number h.mtime ++ (octal 8 h.checksum ++ h.back))))) ?_ rfl hf.1.symm
  simp only [block, front, List.append_assoc, List.nil_append]

theorem block_mode (hf : h.Fits) : octalValue (field h.block 100 8) = h.mode % 8 ^ 7 := by
  have hfield : field h.block 100 8 = octal 8 h.mode := by
    refine field_of_eq h.name (h.owner ++ (number h.size ++
      (number h.mtime ++ (octal 8 h.checksum ++ h.back)))) ?_ hf.1.symm
      (length_octal (by decide) _).symm
    simp only [block, front, List.append_assoc]
  rw [hfield, octalValue_octal]

theorem block_size (hf : h.Fits) : numberValue (field h.block 124 12) = h.size % 2 ^ 64 := by
  have hfield : field h.block 124 12 = number h.size := by
    refine field_of_eq (h.name ++ (octal 8 h.mode ++ h.owner))
      (number h.mtime ++ (octal 8 h.checksum ++ h.back)) ?_ ?_ (length_number _).symm
    · simp only [block, front, List.append_assoc]
    · simp only [List.length_append, hf.1, hf.2, length_octal, nameSize, Nat.reduceLT,
        Nat.reduceAdd]
  rw [hfield, numberValue_number]

theorem block_mtime (hf : h.Fits) : numberValue (field h.block 136 12) = h.mtime % 2 ^ 64 := by
  have hfield : field h.block 136 12 = number h.mtime := by
    refine field_of_eq (h.name ++ (octal 8 h.mode ++ (h.owner ++ number h.size)))
      (octal 8 h.checksum ++ h.back) ?_ ?_ (length_number _).symm
    · simp only [block, front, List.append_assoc]
    · simp only [List.length_append, hf.1, hf.2, length_octal, length_number, nameSize,
        Nat.reduceLT, Nat.reduceAdd]
  rw [hfield, numberValue_number]

theorem block_flag (hf : h.Fits) : field h.block 156 1 = [h.flag] := by
  refine field_of_eq (h.front ++ octal 8 h.checksum)
    (zeros 100 ++ (Bytes.ofString "ustar  " ++ zeros 248)) ?_ ?_ rfl
  · simp only [block, back, List.append_assoc, List.cons_append, List.nil_append]
  · rw [List.length_append, length_front hf, length_octal (by decide)]

/-- No header looks like the end of an archive. -/
theorem block_not_zero (h : Header) : h.block.all (· = 0) = false := by
  have hmagic : (0x75 : UInt8) ∈ Bytes.ofString "ustar  " := by decide +kernel
  have hmem : (0x75 : UInt8) ∈ h.block := by
    simp only [block, back, List.mem_append, List.mem_cons]
    exact .inr (.inl (.inr hmagic))
  rw [List.all_eq_false]
  exact ⟨_, hmem, by decide⟩

end Header

end BuildRegistry.Tar
