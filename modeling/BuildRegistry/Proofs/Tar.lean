import BuildRegistry.Proofs.Tar.Header
import BuildRegistry.Proofs.Tar.Name

/-
  Archives read back. Every record has a header of one block and takes up whole blocks, so that a
  reader finds the next record behind it (`entriesFrom_record`). What has been written is read with
  its content, and with its path: as the name field holds it if it fits there, and as it was
  given if it was written in full (`entries_write`).
-/

namespace BuildRegistry.Tar

/-! ## Records -/

theorem length_record {h : Header} (hf : h.Fits) (content : Bytes) :
    (record h content).length = blockSize + paddedSize content.length := by
  rw [record, List.length_append, List.length_append, Header.length_block hf, paddedSize,
    Nat.add_assoc]

theorem entriesFrom_record {h : Header} {content : Bytes} (hf : h.Fits)
    (hsize : h.size = content.length) (hsmall : content.length < 2 ^ 64) (n : Nat)
    (full : Option Bytes) (rest : Bytes) :
    entriesFrom (n + 1) full (record h content ++ rest) =
      if h.flag = longPathFlag then entriesFrom n (some (withoutFinalZero content)) rest
      else { path := full.getD (h.name.takeWhile (· ≠ 0))
             mode := h.mode % 8 ^ 7
             mtime := h.mtime % 2 ^ 64
             content := content } :: entriesFrom n none rest := by
  have hlength := Header.length_block hf
  have hblock : (record h content ++ rest).take blockSize = h.block := by
    rw [record, List.append_assoc, List.append_assoc, ← hlength, List.take_left]
  have hcontent : ((record h content ++ rest).drop blockSize).take content.length = content := by
    rw [record, List.append_assoc, List.append_assoc, ← hlength, List.drop_left, List.take_left]
  have hrest : (record h content ++ rest).drop (blockSize + paddedSize content.length) = rest := by
    rw [← length_record hf, List.drop_left]
  rw [entriesFrom]
  dsimp only
  rw [hblock, hlength, Header.block_not_zero, Header.block_size hf, hsize, Nat.mod_eq_of_lt hsmall,
    hcontent, hrest, Header.block_flag hf, Header.block_name hf, Header.block_mode hf,
    Header.block_mtime hf]
  simp only [Nat.lt_irrefl, decide_false, Bool.or_false, Bool.false_eq_true, if_false,
    List.cons.injEq, and_true]

/-! ## Entries -/

/-- The path with which an entry is read back. -/
def restoredPath (path : Bytes) : Bytes :=
  match copyPath false path .blank with
  | .ok _ _ => normalized path
  | .error _ _ => path

/-- A path under a root is read back with its segments, or with those that count. -/
theorem restoredPath_under {root s : Bytes} (hslash : slash ∉ root) (hne : root ≠ [])
    (hdot : root ≠ [dot]) (hend : (slash :: s).getLast? ≠ some slash) :
    ∃ segs, restoredPath (root ++ slash :: s) = root ++ joined segs ∧
      (segs = segments s ∨ segs = (segments s).filter isKept) := by
  unfold restoredPath
  cases copyPath false (root ++ slash :: s) .blank with
  | ok _ f => exact ⟨_, normalized_under hslash hne hdot hend, .inr rfl⟩
  | error reason f => exact ⟨_, by rw [joined_segments], .inl rfl⟩

/-- An entry as it is read back. -/
def Entry.restored (e : Entry) : Entry :=
  { path := restoredPath e.path
    mode := e.mode % 8 ^ 7
    mtime := e.mtime % 2 ^ 64
    content := e.content }

theorem entriesFrom_fileRecord {f : NameField} (hf : f.bytes.length = nameSize) {e : Entry}
    (hsmall : (fileRecord f e).length < 2 ^ 64) (n : Nat) (full : Option Bytes) (rest : Bytes) :
    blockSize ≤ (fileRecord f e).length ∧
      entriesFrom (n + 1) full (fileRecord f e ++ rest) =
        { path := full.getD f.name
          mode := e.mode % 8 ^ 7
          mtime := e.mtime % 2 ^ 64
          content := e.content } :: entriesFrom n none rest := by
  have hfits : Header.Fits ⟨f.bytes, e.mode, zeros 16, e.content.length, e.mtime, 0⟩ :=
    ⟨hf, List.length_replicate⟩
  have hlength : (fileRecord f e).length = blockSize + paddedSize e.content.length :=
    length_record hfits e.content
  have hcontent : e.content.length < 2 ^ 64 := by
    rw [paddedSize] at hlength
    omega
  have hread := (entriesFrom_record hfits rfl hcontent n full rest).trans
    (if_neg (show (0 : UInt8) ≠ longPathFlag by decide))
  exact ⟨by omega, hread⟩

theorem entriesFrom_longPathRecord (path : Bytes) (hsmall : (longPathRecord path).length < 2 ^ 64)
    (n : Nat) (full : Option Bytes) (rest : Bytes) :
    blockSize ≤ (longPathRecord path).length ∧
      entriesFrom (n + 1) full (longPathRecord path ++ rest) = entriesFrom n (some path) rest := by
  have hname : longPathName.length ≤ nameSize := by decide +kernel
  have hfits : Header.Fits ⟨longPathName ++ zeros (nameSize - longPathName.length), 0o644,
      octal 8 0 ++ octal 8 0, (path ++ [0]).length, 0, longPathFlag⟩ := by
    refine ⟨?_, rfl⟩
    rw [List.length_append, zeros, List.length_replicate]
    omega
  have hlength : (longPathRecord path).length = blockSize + paddedSize (path ++ [0]).length :=
    length_record hfits (path ++ [0])
  have hcontent : (path ++ [0]).length < 2 ^ 64 := by
    rw [paddedSize] at hlength
    omega
  have hpath : withoutFinalZero (path ++ [0]) = path := by
    rw [withoutFinalZero, List.getLast?_concat, if_pos rfl, List.dropLast_concat]
  have hread := (entriesFrom_record hfits rfl hcontent n full rest).trans (if_pos rfl)
  rw [hpath] at hread
  exact ⟨by omega, hread⟩

/-- What is written of an entry is read back as one, whatever comes after it. -/
theorem entriesFrom_entryRecords {e : Entry} {recs : Bytes} (h : entryRecords e = .ok recs)
    (hsmall : recs.length < 2 ^ 64) : ∃ k, blockSize * (k + 1) ≤ recs.length ∧
      ∀ n rest, entriesFrom (n + (k + 1)) none (recs ++ rest) =
        e.restored :: entriesFrom n none rest := by
  unfold entryRecords at h
  unfold Entry.restored restoredPath
  have hsized := sized_copyPath false e.path .blank ⟨List.length_replicate, Nat.zero_le _⟩
  cases hcopy : copyPath false e.path .blank with
  | ok _ f =>
    rw [hcopy] at h
    obtain rfl := Except.ok.inj h
    obtain ⟨rfl, hclean⟩ := copyPath_ok hcopy
    have hread := entriesFrom_fileRecord (NameField.length_holding hclean.1) hsmall
    refine ⟨0, by have := (hread 0 none []).1; omega, fun n rest => ?_⟩
    rw [(hread n none rest).2, Option.getD_none, NameField.name_holding hclean]
  | error reason f =>
    rw [hcopy] at h hsized
    rw [endState_error] at hsized
    dsimp only at h
    split at h
    · cases h
    · have hsized' := sized_copyPath true (abridged e.path) f hsized
      cases hcut : copyPath true (abridged e.path) f with
      | error reason g =>
        rw [hcut] at h
        cases h
      | ok _ g =>
        rw [hcut] at h hsized'
        rw [endState_ok] at hsized'
        obtain rfl := Except.ok.inj h
        rw [List.length_append] at hsmall
        have hpath := entriesFrom_longPathRecord e.path (by omega)
        have hfile := entriesFrom_fileRecord hsized'.1 (e := e) (by omega)
        refine ⟨1, ?_, fun n rest => ?_⟩
        · have := (hpath 0 none []).1
          have := (hfile 0 none []).1
          rw [List.length_append]
          omega
        · rw [List.append_assoc, (hpath (n + 1) none _).2, (hfile n _ rest).2, Option.getD_some]

/-! ## Archives -/

theorem entriesFrom_ending (n : Nat) (full : Option Bytes) : entriesFrom n full ending = [] := by
  cases n with
  | zero => rfl
  | succ n =>
    have hblock : ending.take blockSize = zeros blockSize := by
      rw [ending, zeros, List.take_replicate]
      rfl
    have hall : (zeros blockSize).all (· = 0) = true :=
      List.all_eq_true.2 fun b hb => decide_eq_true (List.eq_of_mem_replicate hb)
    rw [entriesFrom]
    dsimp only
    rw [hblock, hall, Bool.or_true, if_pos rfl]

theorem entriesFrom_mapM {es : List Entry} {records : List Bytes}
    (h : es.mapM entryRecords = .ok records) (hsmall : records.flatten.length < 2 ^ 64) {n : Nat}
    (hn : records.flatten.length ≤ blockSize * n) :
    entriesFrom n none (records.flatten ++ ending) = es.map Entry.restored := by
  induction es generalizing records n with
  | nil =>
    obtain rfl : [] = records := Except.ok.inj h
    exact entriesFrom_ending n none
  | cons e es ih =>
    rw [List.mapM_cons] at h
    cases he : entryRecords e with
    | error fault =>
      rw [he] at h
      cases h
    | ok recs =>
      cases hes : es.mapM entryRecords with
      | error fault =>
        rw [he, hes] at h
        cases h
      | ok rest =>
        rw [he, hes] at h
        obtain rfl : recs :: rest = records := Except.ok.inj h
        rw [List.flatten_cons, List.length_append] at hsmall hn
        obtain ⟨k, hk, hread⟩ := entriesFrom_entryRecords he (by omega)
        -- the fuel that is left covers the records that are left
        have hfuel : k + 1 ≤ n := Nat.le_of_mul_le_mul_left
          (Nat.le_trans hk (Nat.le_trans (Nat.le_add_right _ _) hn)) (by decide : 0 < blockSize)
        obtain ⟨m, rfl⟩ := Nat.exists_eq_add_of_le' hfuel
        rw [Nat.mul_add] at hn
        rw [List.flatten_cons, List.append_assoc, hread, List.map_cons,
          ih hes (by omega) (by omega)]

/-- An archive is read back as it was written. -/
theorem entries_write {es : List Entry} {data : Bytes} (h : write es = .ok data)
    (hsmall : data.length < 2 ^ 64) : entries data = es.map Entry.restored := by
  unfold write at h
  cases hes : es.mapM entryRecords with
  | error fault =>
    rw [hes] at h
    cases h
  | ok records =>
    rw [hes] at h
    obtain rfl := Except.ok.inj h
    have hlength : (records.flatten ++ ending).length =
        records.flatten.length + 2 * blockSize := by
      rw [List.length_append, ending, zeros, List.length_replicate]
    unfold entries
    refine entriesFrom_mapM hes (by omega) ?_
    have hdiv := Nat.div_add_mod records.flatten.length blockSize
    have hmod := Nat.mod_lt records.flatten.length (by decide : 0 < blockSize)
    rw [hlength, Nat.add_mul_div_right _ _ (by decide), Nat.mul_add]
    omega

end BuildRegistry.Tar
