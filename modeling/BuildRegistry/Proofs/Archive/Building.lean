import BuildRegistry.Proofs.Archive
import BuildRegistry.Proofs.Naming.Rules
import BuildRegistry.Proofs.Tar.Writing

/-
  Which packages can be downloaded. The names of contracts are checked when a version is published,
  for slashes and for two dots in a row among others, but not for zeros; an archive takes a path
  with neither a root nor a way up, and with no zero where it is copied into a header. So the paths
  of a stored package are plain (`plain_file`), and its archive is built exactly if no contract
  with an output has a zero in the part of its path that goes into a header
  (`archive_built_iff`). A package with such a contract is published and never downloaded
  (`archive_refused_of_zero`).
-/

namespace BuildRegistry

open Tar

namespace Archive

/-! ## Plain paths -/

variable {p : Package} {c : Contract} {k : ArtifactKind}

/-- A root starts with a small letter. -/
theorem Rooted.first (hp : Rooted p) :
    ∃ l cs, (root p).toList = l :: cs ∧ 'a' ≤ l ∧ l ≤ 'z' := by
  obtain ⟨l, hl, hletter⟩ := (Naming.packageName_of_isPackageName hp.name).first
  obtain ⟨cs, hname⟩ := List.head?_eq_some_iff.1 hl
  refine ⟨l, cs ++ "-".toList ++ p.version.toList, ?_, hletter⟩
  rw [root, String.toList_append, String.toList_append, hname]
  rfl

/-- The bytes of a root start with none that is no small letter. -/
theorem Rooted.not_prefix (hp : Rooted p) {b : UInt8} (hb : b.toNat < 128)
    (hletter : ¬ ('a' ≤ Char.ofNat b.toNat ∧ Char.ofNat b.toNat ≤ 'z')) (bs : Bytes) :
    ¬ b :: bs <+: Bytes.ofString (root p) := by
  intro h
  rw [Bytes.ofString_eq_flatMap] at h
  obtain ⟨cs, hcs, -⟩ := Bytes.cons_prefix_flatMap hb h
  obtain ⟨l, cs', hl, hl'⟩ := hp.first
  rw [hcs] at hl
  exact hletter ((List.cons.inj hl).1 ▸ hl')

theorem not_dots_prefix_of_isContractName {s : String} (h : Naming.isContractName s) :
    ¬ [dot, dot] <+: Bytes.ofString s := by
  intro hdots
  rw [Bytes.ofString_eq_flatMap] at hdots
  obtain ⟨cs, hs, hdot⟩ := Bytes.cons_prefix_flatMap (by decide) hdots
  obtain ⟨ds, rfl, -⟩ := Bytes.cons_prefix_flatMap (by decide) hdot
  refine Naming.dots_of_isContractName h ?_
  rw [hs]
  exact List.IsPrefix.isInfix ⟨ds, rfl⟩

/-- A path under the root is plain if its segments do not start with two dots. -/
theorem plain_entry (hp : Rooted p) {path : String} (content : Bytes)
    (hsegments : ∀ s ∈ segments (Bytes.ofString path), ¬ [dot, dot] <+: s) :
    Plain (entry p path content).path := by
  rw [path_entry]
  constructor
  case first =>
    intro b hb
    have hprefix : [b] <+: Bytes.ofString (root p) := by
      obtain ⟨x, xs, hx⟩ := List.exists_cons_of_ne_nil (root_ne p "" (by decide))
      rw [hx] at hb ⊢
      obtain rfl : x = b := Option.some.inj hb
      exact ⟨xs, rfl⟩
    constructor <;> rintro rfl <;> exact hp.not_prefix (by decide) (by decide) [] hprefix
  case descending =>
    intro s hs
    rw [segments_append, segments_of_no_slash hp.no_slash, List.singleton_append] at hs
    rcases List.mem_cons.1 hs with rfl | hs
    · exact hp.not_prefix (by decide) (by decide) [dot]
    · exact hsegments s hs

theorem plain_file (hp : Rooted p) (hc : Naming.isContractName c.name) (k : ArtifactKind)
    (content : Bytes) : Plain (entry p (c.name ++ "/" ++ k.fileName) content).path := by
  refine plain_entry hp content ?_
  rw [segments_file hc k, List.forall_mem_cons, List.forall_mem_singleton]
  refine ⟨not_dots_prefix_of_isContractName hc, ?_⟩
  cases k <;> decide

theorem plain_manifest (hp : Rooted p) (cs : Contents) : Plain (manifestEntry p cs).path :=
  plain_entry hp _ (by decide)

/-! ## Archives that are built -/

/-- What a header holds of the path of an output. -/
def headerPart (p : Package) (c : Contract) (k : ArtifactKind) : Bytes :=
  abridged (entry p (c.name ++ "/" ++ k.fileName) []).path

/-- The paths of an archive are that of the manifest and those of the files. -/
theorem forall_entries {Q : Bytes → Prop} {cs : Contents} :
    (∀ e ∈ entries p cs, Q e.path) ↔ Q (manifestEntry p cs).path ∧
      ∀ f ∈ files cs, Q (entry p (f.1.name ++ "/" ++ f.2.fileName) []).path := by
  rw [entries, List.forall_mem_cons]
  refine and_congr_right fun _ => ⟨?_, ?_⟩
  · rintro h ⟨c, k⟩ hf
    obtain ⟨as, hcs, a, ha, hk⟩ := mem_files.1 hf
    refine h (entry p (c.name ++ "/" ++ k.fileName) a.content)
      (List.mem_flatMap.2 ⟨(c, as), hcs, List.mem_filterMap.2 ⟨a, ha, ?_⟩⟩)
    rw [artifactFile?, hk, Option.map_some]
  · intro h e he
    obtain ⟨⟨c, as⟩, hcs, he⟩ := List.mem_flatMap.1 he
    obtain ⟨a, ha, hfile⟩ := List.mem_filterMap.1 he
    obtain ⟨k, hk, rfl⟩ := Option.map_eq_some_iff.1 hfile
    exact h (c, k) (mem_files.2 ⟨as, hcs, a, ha, hk⟩)

theorem Rooted.no_zero (hp : Rooted p) : (0 : UInt8) ∉ Bytes.ofString (root p) := by
  intro hmem
  have hchar : '\x00' ∈ (root p).toList := Bytes.mem_ofString (by decide) hmem
  exact absurd (hp.isVersionChar _ hchar) (by decide)

/-- A path under the root has a zero byte only for a zero in its text. -/
theorem no_zero_entry (hp : Rooted p) {path : String} (hpath : '\x00' ∉ path.toList)
    (content : Bytes) : (0 : UInt8) ∉ (entry p path content).path := by
  rw [path_entry, List.mem_append, List.mem_cons, not_or, not_or]
  exact ⟨hp.no_zero, by decide, fun hmem => hpath (Bytes.mem_ofString (by decide) hmem)⟩

theorem build_ok_iff (hp : Rooted p) {cs : Contents}
    (hcs : ∀ x ∈ cs, Naming.isContractName x.1.name) :
    (∃ data, build p cs = .ok data) ↔ ∀ f ∈ files cs, (0 : UInt8) ∉ headerPart p f.1 f.2 := by
  have hplain : ∀ e ∈ entries p cs, Plain e.path := by
    refine forall_entries.2 ⟨plain_manifest hp cs, fun f hf => ?_⟩
    obtain ⟨as, hmem, -⟩ := mem_files.1 hf
    exact plain_file hp (hcs (f.1, as) hmem) f.2 []
  have hmanifest : (0 : UInt8) ∉ abridged (manifestEntry p cs).path := fun hzero =>
    no_zero_entry hp (by decide) _ (List.mem_of_mem_take hzero)
  rw [build, write_ok_iff hplain, forall_entries (Q := fun path => (0 : UInt8) ∉ abridged path),
    and_iff_right hmanifest]
  rfl

/-- Names without zeros leave no zero in a path. -/
theorem no_zero_headerPart (hp : Rooted p) (hc : '\x00' ∉ c.name.toList) (k : ArtifactKind) :
    (0 : UInt8) ∉ headerPart p c k := by
  intro hzero
  refine no_zero_entry hp ?_ [] (List.mem_of_mem_take hzero)
  have hfile : '\x00' ∉ "/".toList ++ k.fileName.toList := by cases k <;> decide
  rw [String.toList_append, String.toList_append, List.append_assoc, List.mem_append, not_or]
  exact ⟨hc, hfile⟩

end Archive

namespace Registry

open Store

section Downloads

variable {r : Registry} {name selector v : String} {p : Package}

/-- The archive of a stored package is answered as it is built. -/
theorem answer_archive (hv : Version.normalize? selector = some v)
    (hp : r.store.package? name v = some p) : answer (archive name selector) r.store =
      match Archive.build p (r.store.contentsOf p.id) with
      | .ok data => .ok (p, data)
      | .error fault => .error (.archiveFailed fault.message) := by
  rw [answer, archive_run (package_of_stored hv hp false)]
  cases Archive.build p (r.store.contentsOf p.id) <;> rfl

theorem archive_ok_iff (hreach : Run Anything .empty r)
    (hv : Version.normalize? selector = some v) (hp : r.store.package? name v = some p) :
    (∃ data, answer (archive name selector) r.store = .ok (p, data)) ↔
      ∀ c ∈ r.store.contractsOf p.id, ∀ a ∈ r.store.outputsOf c.id, ∀ k, a.kind? = some k →
        (0 : UInt8) ∉ Archive.headerPart p c k := by
  have hbuilt : (∃ data, answer (archive name selector) r.store = .ok (p, data)) ↔
      ∃ data, Archive.build p (r.store.contentsOf p.id) = .ok data := by
    rw [answer_archive hv hp]
    cases Archive.build p (r.store.contentsOf p.id) with
    | ok data => exact iff_of_true ⟨data, rfl⟩ ⟨data, rfl⟩
    | error fault => exact iff_of_false nofun nofun
  rw [hbuilt, Archive.build_ok_iff (hreach.rooted (package?_mem hp).1) hreach.isContractName]
  constructor
  · intro h c hc a ha k hk
    exact h (c, k) (mem_files_contentsOf.2 ⟨hc, a, ha, hk⟩)
  · rintro h ⟨c, k⟩ hf
    obtain ⟨hc, a, ha, hk⟩ := mem_files_contentsOf.1 hf
    exact h c hc a ha k hk

/-- In every registry that the services lead to, the archive of a stored package is built exactly if
no contract with an output has a zero in what a header holds of its path; so it is if no contract
has a zero in its name. All that can go wrong is that it is not built. -/
theorem archive_built_iff (hreach : Run Anything .empty r)
    (hv : Version.normalize? selector = some v) (hp : r.store.package? name v = some p) :
    ((∃ data, answer (archive name selector) r.store = .ok (p, data)) ↔
      ∀ c ∈ r.store.contractsOf p.id, ∀ a ∈ r.store.outputsOf c.id, ∀ k, a.kind? = some k →
        (0 : UInt8) ∉ Archive.headerPart p c k) ∧
    ((∀ c ∈ r.store.contractsOf p.id, '\x00' ∉ c.name.toList) →
      ∃ data, answer (archive name selector) r.store = .ok (p, data)) ∧
    ∀ e, answer (archive name selector) r.store = .error e → ∃ detail, e = .archiveFailed detail := by
  refine ⟨archive_ok_iff hreach hv hp, fun hnames => ?_, fun e h => ?_⟩
  · refine (archive_ok_iff hreach hv hp).2 fun c hc a _ k _ => ?_
    exact Archive.no_zero_headerPart (hreach.rooted (package?_mem hp).1) (hnames c hc) k
  · rw [answer_archive hv hp] at h
    cases hbuild : Archive.build p (r.store.contentsOf p.id) with
    | ok data =>
      rw [hbuild] at h
      cases h
    | error fault =>
      rw [hbuild] at h
      exact ⟨_, (Except.error.inj h).symm⟩

end Downloads

/-- A package with two contracts, neither with a zero in its name. -/
theorem archive_built_iff_two_names : ∃ r p, Run Anything .empty r ∧
    Version.normalize? "1.0.0" = some "1.0.0" ∧ r.store.package? "tokens" "1.0.0" = some p ∧
    ∃ data, answer (archive "tokens" "1.0.0") r.store = .ok (p, data) := by
  have hreach : Run Anything .empty ⟨twoSources "Vault", []⟩ :=
    (twoSources_reached (by decide)).mono fun _ _ _ => trivial
  have hversion : Version.normalize? "1.0.0" = some "1.0.0" := by decide
  obtain ⟨p, hp⟩ := Option.isSome_iff_exists.1
    (show ((twoSources "Vault").package? "tokens" "1.0.0").isSome by decide)
  refine ⟨_, p, hreach, hversion, hp, (archive_built_iff hreach hversion hp).2.1 fun c hc => ?_⟩
  have hnames : ∀ c ∈ (twoSources "Vault").contracts, '\x00' ∉ c.name.toList := by decide
  exact hnames c (mem_contractsOf.1 hc).1

/-- A contract with a zero in its name is published, and the archive of its package is not built. -/
theorem archive_refused_of_zero : ∃ r p, Run Undisturbed .empty r ∧
    r.store.package? "tokens" "1.0.0" = some p ∧
    ¬ ∃ data, answer (archive "tokens" "1.0.0") r.store = .ok (p, data) := by
  let token : ContractSubmission := ⟨"To\x00ken", "", none, none, some "0x6001", none, none⟩
  let published : Event := .request ⟨⟨0⟩, fun k => toString k, "secret"⟩
    (.publish "tokens" "1.0.0" "k1" ⟨"evm", "", none, none, [], [token]⟩)
  let r := published.apply .empty
  have hreach : Run Undisturbed .empty r := .snoc .nil trivial
  obtain ⟨p, hp⟩ := Option.isSome_iff_exists.1
    (show (r.store.package? "tokens" "1.0.0").isSome by decide +kernel)
  have hzero : ∀ p ∈ r.store.packages, ∃ c ∈ r.store.contracts, c.packageId = p.id ∧
      ∃ a ∈ r.store.outputsOf c.id, ∃ k ∈ ArtifactKind.all, a.kind? = some k ∧
        (0 : UInt8) ∈ Archive.headerPart p c k := by decide +kernel
  obtain ⟨c, hc, hhome, a, ha, k, -, hk, hmem⟩ := hzero p (package?_mem hp).1
  refine ⟨r, p, hreach, hp, fun hbuilt => ?_⟩
  have hversion : Version.normalize? "1.0.0" = some "1.0.0" := by decide
  exact (archive_ok_iff (hreach.mono fun _ _ _ => trivial) hversion hp).1 hbuilt c
    (mem_contractsOf.2 ⟨hc, hhome⟩) a ha k hk hmem

end Registry

end BuildRegistry
