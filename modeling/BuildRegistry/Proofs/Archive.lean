import Mathlib.Data.List.Nodup
import BuildRegistry.Proofs.Bytes
import BuildRegistry.Proofs.Lookup
import BuildRegistry.Proofs.PackageListing
import BuildRegistry.Proofs.Tar
import BuildRegistry.Proofs.WellFormed

/-
  What an archive of a package version unpacks to. Its paths are the root, the name of a contract
  and the name of a file, of which only a contract's name that is a single dot may be dropped
  (`restored_file`). So the paths tell outputs apart by the name of their contract and their kind,
  while contracts of one package may share a name when their source paths differ: paths are
  distinct exactly when no two such contracts have an output of one kind
  (`archive_paths_distinct_iff`).
-/

namespace BuildRegistry

open Tar

namespace Archive

/-! ## Names in paths -/

/-- A package whose root is one component of a path. -/
structure Rooted (p : Package) : Prop where
  name : Naming.isPackageName p.name
  version : ∃ spelling, Version.normalize? spelling = some p.version

/-- The characters of a root are those of versions. -/
theorem Rooted.isVersionChar {p : Package} (h : Rooted p) :
    ∀ c ∈ (root p).toList, Version.isVersionChar c := by
  intro c hc
  obtain ⟨spelling, hv⟩ := h.version
  simp only [root, String.toList_append, List.mem_append] at hc
  rcases hc with (hname | hhyphen) | hversion
  · have hchar := Naming.isNameChar_of_isPackageName h.name _ hname
    simp only [Naming.isNameChar, Naming.isSmallAlphanumeric, Naming.isSmallLetter,
      Bool.or_eq_true] at hchar
    simp only [Version.isVersionChar, Version.isIdentifierChar, Version.isAsciiLetter,
      Bool.or_eq_true]
    tauto
  · rw [List.mem_singleton.1 hhyphen]
    decide
  · exact Version.isVersionChar_of_normalize? hv hversion

theorem Rooted.no_slash {p : Package} (h : Rooted p) : slash ∉ Bytes.ofString (root p) := by
  intro hmem
  have hchar : '/' ∈ (root p).toList := Bytes.mem_ofString (by decide) hmem
  exact absurd (h.isVersionChar _ hchar) (by decide)

theorem root_ne (p : Package) (s : String) (hs : '-' ∉ s.toList) :
    Bytes.ofString (root p) ≠ Bytes.ofString s := by
  intro h
  refine hs (Bytes.ofString_inj h ▸ ?_)
  simp [root]

theorem no_slash_of_isContractName {s : String} (h : Naming.isContractName s) :
    slash ∉ Bytes.ofString s ∧ Bytes.ofString s ≠ [] := by
  simp only [Naming.isContractName, Bool.and_eq_true, Bool.not_eq_true'] at h
  obtain ⟨⟨⟨hne, hslash⟩, -⟩, -⟩ := h
  refine ⟨fun hmem => ?_, fun hnil => ?_⟩
  · have hchar : '/' ∈ s.toList := Bytes.mem_ofString (by decide) hmem
    rw [List.contains_iff_mem.2 hchar] at hslash
    cases hslash
  · rw [Bytes.ofString_eq_nil hnil] at hne
    exact absurd hne (by decide)

theorem fileName_bytes (k : ArtifactKind) : slash ∉ Bytes.ofString k.fileName ∧
    isKept (Bytes.ofString k.fileName) ∧
    Bytes.ofString k.fileName ≠ Bytes.ofString "manifest.json" := by
  cases k <;> decide

theorem fileName_inj {k k' : ArtifactKind} (h : k.fileName = k'.fileName) : k = k' := by
  revert h
  cases k <;> cases k' <;> decide

/-! ## Paths -/

def manifestPath (p : Package) : Bytes := restoredPath (entry p "manifest.json" []).path

/-- Where the file of an output is found in an archive. -/
def filePath (p : Package) (c : Contract) (k : ArtifactKind) : Bytes :=
  restoredPath (entry p (c.name ++ "/" ++ k.fileName) []).path

theorem ofString_slashed (s t : String) :
    Bytes.ofString (s ++ "/" ++ t) = Bytes.ofString s ++ slash :: Bytes.ofString t := by
  have hslash : Bytes.ofString "/" = [slash] := by decide
  rw [Bytes.ofString_append, Bytes.ofString_append, hslash, List.append_assoc]
  rfl

theorem path_entry (p : Package) (path : String) (content : Bytes) :
    (entry p path content).path = Bytes.ofString (root p) ++ slash :: Bytes.ofString path :=
  ofString_slashed _ _

/-- A path is read back alike, whatever is stored under it. -/
theorem path_restored (p : Package) (path : String) (content : Bytes) :
    (entry p path content).restored.path = restoredPath (entry p path []).path := by
  rw [Entry.restored, path_entry, path_entry]

theorem getLast?_ne_slash (s : Bytes) {b : Bytes} (hne : b ≠ []) (hb : slash ∉ b) :
    (s ++ b).getLast? ≠ some slash := by
  rw [List.getLast?_append_of_ne_nil _ hne]
  exact fun h => hb (List.mem_of_getLast? h)

variable {p : Package} {c c' : Contract} {k k' : ArtifactKind}

/-- The path of an output under the root: the directory of its contract and its file. -/
theorem segments_file (hc : Naming.isContractName c.name) (k : ArtifactKind) :
    segments (Bytes.ofString (c.name ++ "/" ++ k.fileName)) =
      [Bytes.ofString c.name, Bytes.ofString k.fileName] := by
  rw [ofString_slashed, segments_append, segments_of_no_slash (no_slash_of_isContractName hc).1,
    segments_of_no_slash (fileName_bytes k).1]
  rfl

/-- The file of an output lies under the root, in the directory of its contract unless a single
dot names it. -/
theorem restored_file (hp : Rooted p) (hc : Naming.isContractName c.name) (k : ArtifactKind) :
    ∃ segs, filePath p c k = Bytes.ofString (root p) ++ joined segs ∧ (∀ s ∈ segs, slash ∉ s) ∧
      (segs = [Bytes.ofString c.name, Bytes.ofString k.fileName] ∨
        Bytes.ofString c.name = [dot] ∧ segs = [Bytes.ofString k.fileName]) := by
  obtain ⟨hname, hne⟩ := no_slash_of_isContractName hc
  obtain ⟨hfile, hkept, -⟩ := fileName_bytes k
  have hend : (slash :: Bytes.ofString (c.name ++ "/" ++ k.fileName)).getLast? ≠ some slash := by
    have := getLast?_ne_slash (slash :: (Bytes.ofString c.name ++ [slash]))
      (by simp only [isKept, Bool.and_eq_true, decide_eq_true_eq] at hkept; exact hkept.1) hfile
    rwa [ofString_slashed, List.append_cons, ← List.cons_append]
  obtain ⟨segs, hrestored, hsegs⟩ := restoredPath_under hp.no_slash (root_ne p "" (by decide))
    (root_ne p "." (by decide)) hend
  rw [segments_file hc k] at hsegs
  refine ⟨segs, by rw [filePath, path_entry, hrestored], fun s hs => ?_, ?_⟩
  · have hmem : s ∈ [Bytes.ofString c.name, Bytes.ofString k.fileName] := by
      rcases hsegs with rfl | rfl
      · exact hs
      · exact (List.mem_filter.1 hs).1
    rcases List.mem_cons.1 hmem with rfl | hmem
    · exact hname
    · exact List.mem_singleton.1 hmem ▸ hfile
  · rcases hsegs with rfl | rfl
    · exact .inl rfl
    · rw [List.filter_cons, List.filter_singleton, hkept, cond_true]
      split
      · exact .inl rfl
      · rename_i hdot
        simp only [isKept, Bool.and_eq_true, decide_eq_true_eq, not_and, not_not] at hdot
        exact .inr ⟨hdot hne, rfl⟩

theorem restored_manifest (hp : Rooted p) :
    manifestPath p = Bytes.ofString (root p) ++ joined [Bytes.ofString "manifest.json"] := by
  have hslash : slash ∉ Bytes.ofString "manifest.json" := by decide
  have hkept : isKept (Bytes.ofString "manifest.json") := by decide
  have hend : (slash :: Bytes.ofString "manifest.json").getLast? ≠ some slash := by decide
  obtain ⟨segs, hrestored, hsegs⟩ := restoredPath_under hp.no_slash (root_ne p "" (by decide))
    (root_ne p "." (by decide)) hend
  rw [segments_of_no_slash hslash, List.filter_singleton, hkept, cond_true, or_self] at hsegs
  rw [manifestPath, path_entry, hrestored, hsegs]

/-- The segments of a path under the root are read off the path. -/
theorem eq_of_joined_eq (hp : Rooted p) {segs segs' : List Bytes} (hsegs : ∀ s ∈ segs, slash ∉ s)
    (hsegs' : ∀ s ∈ segs', slash ∉ s)
    (h : Bytes.ofString (root p) ++ joined segs = Bytes.ofString (root p) ++ joined segs') :
    segs = segs' := by
  have := congrArg segments h
  rw [segments_joined hp.no_slash hsegs, segments_joined hp.no_slash hsegs'] at this
  exact (List.cons.inj this).2

/-- Files of outputs with another contract name or another kind have other paths. -/
theorem filePath_inj (hp : Rooted p) (hc : Naming.isContractName c.name)
    (hc' : Naming.isContractName c'.name) (h : filePath p c k = filePath p c' k') :
    c.name = c'.name ∧ k = k' := by
  obtain ⟨segs, hpath, hslash, hsegs⟩ := restored_file hp hc k
  obtain ⟨segs', hpath', hslash', hsegs'⟩ := restored_file hp hc' k'
  rw [hpath, hpath'] at h
  have heq := eq_of_joined_eq hp hslash hslash' h
  have hbytes : Bytes.ofString c.name = Bytes.ofString c'.name ∧
      Bytes.ofString k.fileName = Bytes.ofString k'.fileName := by
    rcases hsegs with rfl | ⟨hdot, rfl⟩ <;> rcases hsegs' with rfl | ⟨hdot', rfl⟩
    · simpa using heq
    · simp at heq
    · simp at heq
    · exact ⟨hdot.trans hdot'.symm, by simpa using heq⟩
  exact ⟨Bytes.ofString_inj hbytes.1, fileName_inj (Bytes.ofString_inj hbytes.2)⟩

theorem filePath_ne_manifestPath (hp : Rooted p) (hc : Naming.isContractName c.name) :
    filePath p c k ≠ manifestPath p := by
  intro h
  obtain ⟨segs, hpath, hslash, hsegs⟩ := restored_file hp hc k
  rw [hpath, restored_manifest hp] at h
  have heq := eq_of_joined_eq hp hslash (List.forall_mem_singleton.2 (by decide)) h
  rcases hsegs with rfl | ⟨-, rfl⟩
  · simp at heq
  · exact (fileName_bytes k).2.2 (List.cons.inj heq).1

/-! ## Contents -/

/-- The files of an archive besides the manifest. -/
def files (cs : Contents) : List (Contract × ArtifactKind) :=
  cs.flatMap fun (c, as) => (as.filterMap (·.kind?)).map fun k => (c, k)

theorem mem_files {cs : Contents} {c : Contract} {k : ArtifactKind} :
    (c, k) ∈ files cs ↔ ∃ as, (c, as) ∈ cs ∧ ∃ a ∈ as, a.kind? = some k := by
  simp only [files, List.mem_flatMap, List.mem_map, List.mem_filterMap, Prod.exists, Prod.mk.injEq]
  constructor
  · rintro ⟨c', as, hcs, k', ⟨a, ha, hk⟩, rfl, rfl⟩
    exact ⟨as, hcs, a, ha, hk⟩
  · rintro ⟨as, hcs, a, ha, hk⟩
    exact ⟨c, as, hcs, k, ⟨a, ha, hk⟩, rfl, rfl⟩

theorem paths_entries (p : Package) (cs : Contents) :
    (entries p cs).map (·.restored.path) =
      manifestPath p :: (files cs).map fun f => filePath p f.1 f.2 := by
  have houtputs : ∀ (c : Contract) (as : List Artifact),
      (as.filterMap (artifactFile? p c)).map (·.restored.path) =
        ((as.filterMap (·.kind?)).map fun k => (c, k)).map fun f => filePath p f.1 f.2 := by
    intro c as
    induction as with
    | nil => rfl
    | cons a as ih =>
      cases hk : a.kind? with
      | none =>
        rw [List.filterMap_cons_none (by rw [artifactFile?, hk]; rfl),
          List.filterMap_cons_none (f := Artifact.kind?) hk, ih]
      | some k =>
        rw [List.filterMap_cons_some (by rw [artifactFile?, hk]; rfl),
          List.filterMap_cons_some (f := Artifact.kind?) hk, List.map_cons, ih]
        rfl
  rw [entries, List.map_cons, manifestEntry, path_restored, ← manifestPath, files,
    List.map_flatMap, List.map_flatMap, List.flatMap_congr fun x _ => houtputs x.1 x.2]

/-- Paths are distinct when no two contracts of one name have outputs of one kind. -/
theorem nodup_paths_iff (hp : Rooted p) {cs : Contents}
    (hcs : ∀ x ∈ cs, Naming.isContractName x.1.name) (hfiles : (files cs).Nodup) :
    ((entries p cs).map (·.restored.path)).Nodup ↔
      ∀ f ∈ files cs, ∀ g ∈ files cs, f.1.name = g.1.name → f.2 = g.2 → f.1 = g.1 := by
  have hname : ∀ f ∈ files cs, Naming.isContractName f.1.name := by
    rintro ⟨c, k⟩ hf
    obtain ⟨as, hmem, -⟩ := mem_files.1 hf
    exact hcs (c, as) hmem
  have hmanifest : manifestPath p ∉ (files cs).map fun f => filePath p f.1 f.2 := by
    intro hmem
    obtain ⟨f, hf, heq⟩ := List.mem_map.1 hmem
    exact filePath_ne_manifestPath hp (hname f hf) heq
  rw [paths_entries, List.nodup_cons, and_iff_right hmanifest, List.nodup_map_iff_inj_on hfiles]
  constructor
  · intro hinj f hf g hg heqname heqkind
    have hpath : filePath p f.1 f.2 = filePath p g.1 g.2 := by
      rw [filePath, heqname, heqkind, ← filePath]
    exact congrArg Prod.fst (hinj f hf g hg hpath)
  · intro hdistinct f hf g hg hpath
    obtain ⟨heqname, heqkind⟩ := filePath_inj hp (hname f hf) (hname g hg) hpath
    exact Prod.ext (hdistinct f hf g hg heqname heqkind) heqkind

end Archive

namespace Store

theorem mem_files_contentsOf {s : Store} {packageId : String} {c : Contract} {k : ArtifactKind} :
    (c, k) ∈ Archive.files (s.contentsOf packageId) ↔
      c ∈ s.contractsOf packageId ∧ ∃ a ∈ s.outputsOf c.id, a.kind? = some k := by
  simp only [Archive.mem_files, contentsOf, List.mem_map, Prod.mk.injEq]
  constructor
  · rintro ⟨_, ⟨c, hc, rfl, rfl⟩, a, ha, hk⟩
    exact ⟨hc, a, mem_inOrder.1 ha, hk⟩
  · rintro ⟨hc, a, ha, hk⟩
    exact ⟨_, ⟨c, hc, rfl, rfl⟩, a, mem_inOrder.2 ha, hk⟩

/-- No output is listed twice. -/
theorem nodup_files_contentsOf {s : Store} (hi : Integrity s) (packageId : String) :
    (Archive.files (s.contentsOf packageId)).Nodup := by
  have hcontracts : (s.contractsOf packageId).Nodup :=
    (List.mergeSort_perm _ _).nodup_iff.2 ((List.Nodup.of_map _ hi.contractIds).filter _)
  have hkinds : ∀ c : Contract, ((s.artifactsOf c.id).filterMap (·.kind?)).Nodup := by
    intro c
    have hnames : ((s.artifactsOf c.id).map (·.kind)).Nodup :=
      ((List.mergeSort_perm _ _).map _).nodup_iff.2 (hi.outputKinds c.id)
    have := hnames.filterMap (f := ArtifactKind.ofName?) fun n n' k hn hn' =>
      (ArtifactKind.name_of_ofName? hn).symm.trans (ArtifactKind.name_of_ofName? hn')
    rwa [List.filterMap_map] at this
  rw [Archive.files, contentsOf, List.flatMap_map, List.nodup_flatMap]
  refine ⟨fun c _ => (hkinds c).map fun k k' h => (Prod.mk.inj h).2, hcontracts.imp ?_⟩
  intro c c' hne f hf hf'
  obtain ⟨k, -, rfl⟩ := List.mem_map.1 hf
  obtain ⟨k', -, heq⟩ := List.mem_map.1 hf'
  exact hne (Prod.mk.inj heq).1.symm

end Store

namespace Registry

open Store

/-! ## Archives of stored packages -/

theorem package_ok {name selector : String} {prereleases : Bool} {r t : Registry} {p : Package}
    (h : package name selector prereleases r = .ok p t) :
    p ∈ r.store.packages ∧ t.store = r.store := by
  have hstore := ((reads_package name selector prereleases).ok h).1
  obtain ⟨v, u, hv, h⟩ := bind_ok.1 h
  obtain ⟨hact, -⟩ := need_ok h
  rw [getPackage_run] at hact
  split at hact
  · rename_i hfound
    obtain ⟨rfl, -⟩ := EStateM.Result.ok.inj hact
    rw [((reads_resolve name selector prereleases).ok hv).1] at hfound
    exact ⟨List.mem_of_find?_eq_some hfound, hstore⟩
  · cases hact

/-- What lookups have answered that were done for each of a list. -/
theorem mapM_ok {α β : Type} {f : α → Service β} {g : Store → α → β}
    (hf : ∀ a r b t, f a r = .ok b t → b = g r.store a ∧ t.store = r.store) {l : List α}
    {r t : Registry} {bs : List β} (h : l.mapM f r = .ok bs t) :
    bs = l.map (g r.store) := by
  induction l generalizing r bs with
  | nil => exact (pure_ok.1 h).1.symm
  | cons a l ih =>
    rw [List.mapM_cons] at h
    obtain ⟨b, u, hb, h⟩ := bind_ok.1 h
    obtain ⟨cs, v, hcs, h⟩ := bind_ok.1 h
    obtain ⟨rfl, rfl⟩ := pure_ok.1 h
    obtain ⟨rfl, hstore⟩ := hf a r b u hb
    rw [ih hcs, hstore, List.map_cons]

theorem contents_ok {p : Package} {r t : Registry} {cs : Archive.Contents}
    (h : contents p r = .ok cs t) : cs = r.store.contentsOf p.id := by
  obtain ⟨contracts, u, hcontracts, h⟩ := bind_ok.1 h
  obtain ⟨rfl, hstore⟩ := EStateM.Result.ok.inj (use_ok hcontracts).1
  have hlook : ∀ (c : Contract) (r : Registry) x (t : Registry), (do
      return (c, ← use .listArtifacts (listArtifacts c.id)) : Service _) r = .ok x t →
      x = (c, r.store.artifactsOf c.id) ∧ t.store = r.store := by
    intro c r x t h
    obtain ⟨as, v, has, h⟩ := bind_ok.1 h
    obtain ⟨rfl, rfl⟩ := pure_ok.1 h
    obtain ⟨rfl, hsame⟩ := EStateM.Result.ok.inj (use_ok has).1
    exact ⟨rfl, hsame.symm⟩
  rw [mapM_ok (g := fun s c => (c, s.artifactsOf c.id)) hlook h, ← hstore]
  rfl

theorem archive_ok {name selector : String} {r t : Registry} {p : Package} {data : Bytes}
    (h : archive name selector r = .ok (p, data) t) :
    p ∈ r.store.packages ∧ Archive.build p (r.store.contentsOf p.id) = .ok data := by
  obtain ⟨p', u, hp, h⟩ := bind_ok.1 h
  obtain ⟨hmem, hstore⟩ := package_ok hp
  obtain ⟨cs, u', hcs, h⟩ := bind_ok.1 h
  obtain rfl := contents_ok hcs
  rw [hstore] at h
  cases hbuild : Archive.build p' (r.store.contentsOf p'.id) with
  | error fault =>
    rw [hbuild] at h
    exact absurd h throw_not_ok
  | ok data' =>
    rw [hbuild] at h
    obtain ⟨heq, -⟩ := pure_ok.1 h
    cases heq
    exact ⟨hmem, hbuild⟩

section Unpacking

variable {name selector : String} {r t : Registry} {p : Package} {data : Bytes}

theorem entries_of_archive (h : archive name selector r = .ok (p, data) t)
    (hsmall : data.length < 2 ^ 64) :
    Tar.entries data = (Archive.entries p (r.store.contentsOf p.id)).map (·.restored) :=
  entries_write (archive_ok h).2 hsmall

theorem Run.kind_of_output (hreach : Run Anything .empty r) {contractId : String} {a : Artifact}
    (ha : a ∈ r.store.outputsOf contractId) : ∃ k, a.kind? = some k :=
  Option.isSome_iff_exists.1 (hreach.wellFormed.outputs a (List.mem_filter.1 ha).1).1

theorem Run.rooted (hreach : Run Anything .empty r) (hp : p ∈ r.store.packages) :
    Archive.Rooted p := ⟨hreach.namesValid p hp, hreach.wellFormed.versions p hp⟩

theorem Run.isContractName (hreach : Run Anything .empty r) {packageId : String} :
    ∀ x ∈ r.store.contentsOf packageId, Naming.isContractName x.1.name := by
  intro x hx
  obtain ⟨c, hc, rfl⟩ := List.mem_map.1 hx
  exact hreach.wellFormed.contractNames c (mem_contractsOf.1 hc).1

theorem nodup_archive_paths_iff (hreach : Run Anything .empty r)
    (h : archive name selector r = .ok (p, data) t) (hsmall : data.length < 2 ^ 64) :
    ((Tar.entries data).map (·.path)).Nodup ↔
      ∀ c ∈ r.store.contractsOf p.id, ∀ c' ∈ r.store.contractsOf p.id, c.name = c'.name →
        ∀ a ∈ r.store.outputsOf c.id, ∀ a' ∈ r.store.outputsOf c'.id, a.kind = a'.kind →
          c = c' := by
  have hmap : (Tar.entries data).map (·.path) =
      (Archive.entries p (r.store.contentsOf p.id)).map (·.restored.path) := by
    rw [entries_of_archive h hsmall, List.map_map]
    rfl
  rw [hmap, Archive.nodup_paths_iff (hreach.rooted (archive_ok h).1) hreach.isContractName
    (nodup_files_contentsOf (hreach.integrity integrity_empty) p.id)]
  constructor
  · intro hdistinct c hc c' hc' hname a ha a' ha' hsame
    obtain ⟨k, hk⟩ := hreach.kind_of_output ha
    have hk' : a'.kind? = some k := by rw [Artifact.kind?, ← hsame, ← Artifact.kind?, hk]
    exact hdistinct (c, k) (mem_files_contentsOf.2 ⟨hc, a, ha, hk⟩) (c', k)
      (mem_files_contentsOf.2 ⟨hc', a', ha', hk'⟩) hname rfl
  · rintro hdistinct ⟨c, k⟩ hf ⟨c', k'⟩ hg hname rfl
    obtain ⟨hc, a, ha, hk⟩ := mem_files_contentsOf.1 hf
    obtain ⟨hc', a', ha', hk'⟩ := mem_files_contentsOf.1 hg
    have hsame : a.kind = a'.kind :=
      (ArtifactKind.name_of_ofName? hk).symm.trans (ArtifactKind.name_of_ofName? hk')
    exact hdistinct c hc c' hc' hname a ha a' ha' hsame

theorem archive_holds (h : archive name selector r = .ok (p, data) t)
    (hsmall : data.length < 2 ^ 64) {c : Contract} (hc : c ∈ r.store.contractsOf p.id)
    {a : Artifact} (ha : a ∈ r.store.outputsOf c.id) {k : ArtifactKind} (hk : a.kind? = some k) :
    ∃ e ∈ Tar.entries data, e.path = Archive.filePath p c k ∧ e.content = a.content := by
  have hfile : Archive.artifactFile? p c a =
      some (Archive.entry p (c.name ++ "/" ++ k.fileName) a.content) := by
    rw [Archive.artifactFile?, hk, Option.map_some]
  have hmem : Archive.entry p (c.name ++ "/" ++ k.fileName) a.content ∈
      Archive.entries p (r.store.contentsOf p.id) :=
    List.mem_cons_of_mem _ (List.mem_flatMap.2 ⟨(c, r.store.artifactsOf c.id),
      List.mem_map_of_mem hc, List.mem_filterMap.2 ⟨a, mem_inOrder.2 ha, hfile⟩⟩)
  rw [entries_of_archive h hsmall]
  exact ⟨_, List.mem_map_of_mem hmem, rfl, rfl⟩

/-- The paths of an archive are distinct exactly when no two contracts of its package that share a
name have outputs of one kind. Every output is there in any case, under the path of its contract's
name and its kind. The bound is that of the eight bytes in which a record gives its size. -/
theorem archive_paths_distinct_iff (hreach : Run Anything .empty r)
    (h : archive name selector r = .ok (p, data) t) (hsmall : data.length < 2 ^ 64) :
    (((Tar.entries data).map (·.path)).Nodup ↔
      ∀ c ∈ r.store.contractsOf p.id, ∀ c' ∈ r.store.contractsOf p.id, c.name = c'.name →
        ∀ a ∈ r.store.outputsOf c.id, ∀ a' ∈ r.store.outputsOf c'.id, a.kind = a'.kind → c = c') ∧
    ∀ c ∈ r.store.contractsOf p.id, ∀ a ∈ r.store.outputsOf c.id, ∃ k, a.kind? = some k ∧
      ∃ e ∈ Tar.entries data, e.path = Archive.filePath p c k ∧ e.content = a.content := by
  refine ⟨nodup_archive_paths_iff hreach h hsmall, fun c hc a ha => ?_⟩
  obtain ⟨k, hk⟩ := hreach.kind_of_output ha
  exact ⟨k, hk, archive_holds h hsmall hc ha hk⟩

end Unpacking

/-- A package with two contracts from different sources, the first of them a token. -/
def twoSources (second : String) : Store :=
  { packages := [⟨"0", "tokens", "1.0.0", "evm", "", none, none, "\x7b\x7d", "k1", ⟨0⟩⟩]
    owners := [⟨"tokens", "k1", ⟨0⟩⟩]
    contracts := [⟨"1", "0", "Token", "a.sol", Sha256.hex [], ⟨0⟩⟩,
      ⟨"3", "0", second, "b.sol", Sha256.hex [], ⟨0⟩⟩]
    artifacts :=
      [⟨"2", "1", "deployed-bytecode", Bytes.ofString "0x6001",
        "6b73db9efe10e005887813096cd35d559cf7739dc68257127e6aaa2603e40d14", ⟨0⟩⟩,
      ⟨"4", "3", "deployed-bytecode", Bytes.ofString "0x6002",
        "73663a9a7925a3545480d1d3f7764638a4da0c64f63074b148550f8c22620e82", ⟨0⟩⟩]
    deployments := []
    keys := [] }

theorem twoSources_reached {second : String} (h : second ∈ ["Token", "Vault"]) :
    Run Undisturbed .empty ⟨twoSources second, []⟩ := by
  let contract (name source code : String) : ContractSubmission :=
    ⟨name, source, none, none, some code, none, none⟩
  let published (second : String) : Event :=
    .request ⟨⟨0⟩, fun k => toString k, "secret"⟩ (.publish "tokens" "1.0.0" "k1" ⟨"evm", "", none,
      none, [], [contract "Token" "a.sol" "0x6001", contract second "b.sol" "0x6002"]⟩)
  have hend : ∀ second ∈ ["Token", "Vault"],
      (published second).apply .empty = ⟨twoSources second, []⟩ := by decide +kernel
  have hrun : Run Undisturbed .empty ((published second).apply .empty) := .snoc .nil trivial
  rwa [hend second h] at hrun

theorem twoSources_archived {second : String} (h : second ∈ ["Token", "Vault"]) :
    ∃ p data, p.id = "0" ∧ data.length < 2 ^ 64 ∧
      archive "tokens" "1.0.0" ⟨twoSources second, []⟩ =
        .ok (p, data) ⟨twoSources second, []⟩ := by
  have hsorted : (twoSources second).contractsOf "0" = (twoSources second).contracts := by
    revert second
    rw [List.forall_mem_cons, List.forall_mem_singleton]
    exact ⟨List.mergeSort_of_pairwise (by decide), List.mergeSort_of_pairwise (by decide)⟩
  have hbuild : ∀ second ∈ ["Token", "Vault"], ∀ p ∈ (twoSources second).packages,
      (Archive.build p ((twoSources second).contracts.map fun c =>
        (c, (twoSources second).artifactsOf c.id))).toOption.any (·.length < 2 ^ 64) := by
    decide +kernel
  obtain ⟨p, hp, hid⟩ : ∃ p, (twoSources second).package? "tokens" "1.0.0" = some p ∧ p.id = "0" :=
    ⟨_, rfl, rfl⟩
  have hversion : Version.normalize? "1.0.0" = some "1.0.0" := by decide
  have harchive := archive_run (package_of_stored hversion hp false)
  have hsmall := hbuild second h p (List.mem_of_find?_eq_some hp)
  rw [← hsorted, ← hid, ← contentsOf] at hsmall
  cases hdata : Archive.build p ((twoSources second).contentsOf p.id) with
  | error fault =>
    rw [hdata] at hsmall
    cases hsmall
  | ok data =>
    rw [hdata] at hsmall harchive
    exact ⟨p, data, hid, of_decide_eq_true hsmall, harchive⟩

theorem archive_paths_distinct_two_names : ∃ p data t,
    archive "tokens" "1.0.0" ⟨twoSources "Vault", []⟩ = .ok (p, data) t ∧
      ((Tar.entries data).map (·.path)).Nodup := by
  have hsecond : "Vault" ∈ ["Token", "Vault"] := by decide
  obtain ⟨p, data, hid, hsmall, h⟩ := twoSources_archived hsecond
  have hreach := (twoSources_reached hsecond).mono fun _ _ _ => trivial
  refine ⟨p, data, _, h, (archive_paths_distinct_iff hreach h hsmall).1.2 ?_⟩
  have hnames : ((twoSources "Vault").contracts.map (·.name)).Nodup := by decide
  intro c hc c' hc' hname _ _ _ _ _
  exact eq_of_key hnames (mem_contractsOf.1 hc).1 (mem_contractsOf.1 hc').1 hname

/-- Two contracts of one name have their outputs under one path. -/
theorem archive_paths_of_namesakes : ∃ r p data t, Run Undisturbed .empty r ∧
    archive "tokens" "1.0.0" r = .ok (p, data) t ∧ ¬ ((Tar.entries data).map (·.path)).Nodup := by
  have hsecond : "Token" ∈ ["Token", "Vault"] := by decide
  obtain ⟨p, data, hid, hsmall, h⟩ := twoSources_archived hsecond
  have hreach := twoSources_reached hsecond
  refine ⟨_, p, data, _, hreach, h, fun hnodup => ?_⟩
  have hdistinct := (nodup_archive_paths_iff (hreach.mono fun _ _ _ => trivial) h hsmall).1 hnodup
  have hcontracts : ∀ c ∈ (twoSources "Token").contracts,
      c ∈ (twoSources "Token").contractsOf p.id := by
    rw [hid]
    exact fun c hc => mem_contractsOf.2 ⟨hc, by revert c; decide⟩
  have hshared : ∃ c ∈ (twoSources "Token").contracts, ∃ c' ∈ (twoSources "Token").contracts,
      c.name = c'.name ∧ (∃ a ∈ (twoSources "Token").outputsOf c.id,
        ∃ a' ∈ (twoSources "Token").outputsOf c'.id, a.kind = a'.kind) ∧ c ≠ c' := by
    decide +kernel
  obtain ⟨c, hc, c', hc', hname, ⟨a, ha, a', ha', hkind⟩, hne⟩ := hshared
  exact hne (hdistinct c (hcontracts c hc) c' (hcontracts c' hc') hname a ha a' ha' hkind)

end Registry

end BuildRegistry
