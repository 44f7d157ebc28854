import BuildRegistry.Proofs.Json.RoundTrip
import BuildRegistry.Proofs.Recording
import BuildRegistry.Views

/-
  What is shown of the data of a deployment. A request may have constructor arguments and a map of
  libraries; they are stored as the text of one object and shown as the document that this text is
  read into, or as `null` if it cannot be read.

  It always can: what the reader of the body lets through nests one level less than a whole document
  may, and its fields are in order (`Readable`), so the object with it in is read back as it is
  (`data?_deployment`). Main statement: from its recording on, and until its package version is
  deleted, a deployment shows what the body of its request said (`recorded_data_read_back`).
-/

namespace BuildRegistry

open Json (Nested Yields Member)

namespace Json

/-- The object of a map of texts. -/
def ofTexts (entries : List (String × String)) : Json :=
  .obj (entries.map fun (k, v) => (k, .str v))

theorem nested_ofTexts {entries : List (String × String)} (h : Ascending Prod.fst entries) :
    Nested 1 (ofTexts entries) := by
  refine .obj (List.pairwise_map.2 h) fun f hf => ?_
  obtain ⟨e, -, rfl⟩ := List.mem_map.1 hf
  exact .scalar trivial

theorem hasIntegers_ofTexts (entries : List (String × String)) : (ofTexts entries).hasIntegers := by
  refine hasIntegers_of_fields fun f hf => ?_
  obtain ⟨e, -, rfl⟩ := List.mem_map.1 hf
  rfl

end Json

namespace RecordRequest

/-- Every number in the constructor arguments is an integer. -/
def hasIntegers (q : RecordRequest) : Bool := q.constructorArgs.all Json.hasIntegers

/-- What was submitted to be shown as the data of the deployment: an object with the constructor
arguments, if there are any, and the libraries, if there is a map of them; nothing if there is
neither. -/
def document (q : RecordRequest) : Json :=
  match q.constructorArgs, q.libraries with
  | none, none => .null
  | some args, none => .obj [("constructorArgs", args)]
  | none, some libraries => .obj [("libraries", .ofTexts libraries)]
  | some args, some libraries =>
    .obj [("constructorArgs", args), ("libraries", .ofTexts libraries)]

theorem document_eq_null_iff (q : RecordRequest) :
    q.document = .null ↔ q.constructorArgs = none ∧ q.libraries = none := by
  unfold document
  cases q.constructorArgs <;> cases q.libraries <;> simp

/-- The constructor arguments nest within the depth that is left for them and are not `null`, and
the libraries are in order. -/
structure Readable (q : RecordRequest) : Prop where
  args : ∀ j ∈ q.constructorArgs, Nested (Json.maxDepth - 1) j ∧ j ≠ .null
  libraries : ∀ entries ∈ q.libraries, Ascending Prod.fst entries

theorem yields_read : Yields read Readable := by
  have hargs := Json.yields_optional_value (Json.maxDepth - 1)
  have hlibraries : Yields (Json.optional Json.asTextMap)
      fun o => ∀ entries ∈ o, Ascending Prod.fst entries :=
    Json.yields_optional Json.yields_asTextMap
  refine Json.yields_record ?_ ⟨nofun, nofun⟩
  simp only [List.forall_mem_cons, List.not_mem_nil, false_imp_iff, implies_true, and_true]
  refine ⟨?_, ?_, ?_, ?_, ?_, ?_, ?_, ?_, ?args, ?libraries⟩
  case args => exact Member.keeps_of _ _ _ hargs fun _ _ ho hq => { hq with args := ho }
  case libraries =>
    exact Member.keeps_of _ _ _ hlibraries fun _ _ ho hq => { hq with libraries := ho }
  -- no other member touches either
  all_goals exact Member.keeps_of _ _ _ (Json.yields_any _) fun _ _ _ hq => { hq with }

theorem readable_of_parse {body : String} {q : RecordRequest} (h : parse body = .ok q) :
    q.Readable := yields_read.whole h

variable {q : RecordRequest}

/-- The fields of the object, if any. -/
def fields (q : RecordRequest) : List (String × Json) :=
  (q.constructorArgs.toList.map fun args => ("constructorArgs", args)) ++
    q.libraries.toList.map fun entries => ("libraries", .ofTexts entries)

theorem document_eq (q : RecordRequest) :
    q.document = if q.fields.isEmpty then .null else .obj q.fields := by
  unfold document fields
  cases q.constructorArgs <;> cases q.libraries <;> rfl

theorem ascending_fields (q : RecordRequest) : Ascending Prod.fst q.fields := by
  have hnames : ("constructorArgs" : String) < "libraries" := by decide
  unfold fields
  cases q.constructorArgs <;> cases q.libraries
  · exact .nil
  · exact List.pairwise_singleton _ _
  · exact List.pairwise_singleton _ _
  · exact List.pairwise_pair.2 hnames

theorem Readable.nested_fields (hq : q.Readable) :
    ∀ f ∈ q.fields, Nested (Json.maxDepth - 1) f.2 := by
  intro f hf
  rcases List.mem_append.1 hf with hf | hf
  · obtain ⟨args, hargs, rfl⟩ := List.mem_map.1 hf
    exact (hq.args args (Option.mem_toList.1 hargs)).1
  · obtain ⟨entries, hentries, rfl⟩ := List.mem_map.1 hf
    have hordered := hq.libraries entries (Option.mem_toList.1 hentries)
    exact (Json.nested_ofTexts hordered).mono (by decide)

theorem hasIntegers_fields (hints : q.hasIntegers) : ∀ f ∈ q.fields, f.2.hasIntegers := by
  intro f hf
  rcases List.mem_append.1 hf with hf | hf
  · obtain ⟨args, hargs, rfl⟩ := List.mem_map.1 hf
    exact (Option.all_eq_true _ _).1 hints args (Option.mem_toList.1 hargs)
  · obtain ⟨entries, -, rfl⟩ := List.mem_map.1 hf
    exact Json.hasIntegers_ofTexts entries

/-- What is stored is the text of the object. -/
theorem Readable.data_eq (hq : q.Readable) :
    q.data = if q.fields.isEmpty then none else some (Json.obj q.fields).toText := by
  have hlibraries : (q.libraries.toList.map fun entries => ("libraries", Json.textMap entries)) =
      q.libraries.toList.map fun entries => ("libraries", .ofTexts entries) := by
    refine List.map_congr_left fun entries hentries => ?_
    rw [Json.textMap_of_ascending (hq.libraries entries (Option.mem_toList.1 hentries))]
    rfl
  have hobject : Json.object q.fields = .obj q.fields :=
    congrArg Json.obj (Json.sorted_of_ascending q.ascending_fields)
  rw [← hobject, data, hlibraries]
  rfl

/-- The text that is stored is read as what was submitted. -/
theorem Readable.data?_deployment (hq : q.Readable) (hints : q.hasIntegers) (sup : Supply)
    (p : Package) : (q.deployment sup p).data?.getD .null = q.document := by
  change (q.data.bind Json.parse?).getD .null = _
  rw [hq.data_eq, document_eq]
  split
  · rfl
  · have hnested : Nested Json.maxDepth (.obj q.fields) := .obj q.ascending_fields hq.nested_fields
    have hread := Json.parse?_toText (Nat.le_refl _) hnested
      (Json.hasIntegers_of_fields (hasIntegers_fields hints))
    rw [Option.bind_some, hread]
    rfl

end RecordRequest

theorem Deployment.field?_deploymentData (d : Deployment) :
    d.json.field? "deploymentData" = some (d.data?.getD .null) := by
  rw [Deployment.json, Json.field?_object]
  rfl

namespace Registry

open Store

/-- A deployment that is recorded shows what the body of its request said about constructor
arguments and libraries, and shows nothing only if there was neither of them. As long as its package
version is not deleted it is found under its address, and shows the same. -/
theorem recorded_data_read_back {sup : Supply} {body : String} {q : RecordRequest}
    {d : Deployment} {r₀ r₁ r₂ : Registry} (hreach : Run Anything .empty r₀)
    (hbody : RecordRequest.parse body = .ok q) (hints : q.hasIntegers)
    (hrecord : record sup q r₀ = .ok d r₁)
    (hrun : Run (fun r e => ¬ Deletes q.packageName (exactVersion q.version) r e) r₁ r₂) :
    (q.document = .null ↔ q.constructorArgs = none ∧ q.libraries = none) ∧
    q.constructorArgs ≠ some .null ∧
    d.json.field? "deploymentData" = some q.document ∧
    ∃ e, answer (deployment d.chain d.chainId q.address) r₂.store = .ok e ∧ e.unmarked = d ∧
      e.json.field? "deploymentData" = some q.document := by
  have hq := RecordRequest.readable_of_parse hbody
  have hi₁ : Integrity r₁.store := (hreach.record hrecord).integrity integrity_empty
  obtain ⟨p, haddress, hchainId, hp, rfl, -, hr₁⟩ := record_ok hrecord
  have hshown : ∀ e : Deployment, e.unmarked = q.deployment sup p →
      e.json.field? "deploymentData" = some q.document := by
    intro e he
    have hdata : e.deploymentData = q.data := congrArg (·.deploymentData) he
    rw [Deployment.field?_deploymentData, ← hq.data?_deployment hints sup p]
    exact congrArg (fun text => some ((Option.bind text Json.parse?).getD .null)) hdata
  obtain ⟨-, hname, hversion⟩ := package?_mem hp
  have hp₁ : r₁.store.package? p.name p.version = some p := by
    rw [hr₁, hname, hversion]
    exact hp
  rw [← hname, ← hversion] at hrun
  obtain ⟨e, he, hsame⟩ := hrun.keeps_deployment (d := q.deployment sup p) hi₁ hp₁
    (by rw [hr₁]; exact List.mem_append_right _ List.mem_cons_self) rfl
  have hsame : e.unmarked = q.deployment sup p := hsame.trans (q.unmarked_deployment sup p)
  refine ⟨q.document_eq_null_iff, fun hnull => (hq.args _ hnull).2 rfl,
    hshown _ (q.unmarked_deployment sup p), e, ?_, hsame, hshown e hsame⟩
  have hsite : e.chain = p.chain ∧ e.chainId = q.chainId ∧ e.address = Text.lowercase q.address :=
    ⟨congrArg (·.chain) hsame, congrArg (·.chainId) hsame, congrArg (·.address) hsame⟩
  have hfound := deployment_of_stored (hrun.integrity hi₁) he
    (hsite.2.1 ▸ of_decide_eq_true hchainId) haddress hsite.2.2
  rw [hsite.1, hsite.2.1] at hfound
  rw [answer]
  exact congrArg outcome hfound

/-- Nested constructor arguments with escaped characters, next to an empty map of libraries. -/
theorem recorded_data_read_back_nested : ∃ body q sup d r₀ r₁,
    RecordRequest.parse body = .ok q ∧ Run Anything .empty r₀ ∧ record sup q r₀ = .ok d r₁ ∧
    (∃ e, answer (deployment d.chain d.chainId q.address) r₁.store = .ok e ∧
      e.json.field? "deploymentData" = some q.document) ∧
    q.document.toText = "\x7b\"constructorArgs\":[[[]],-1,\x7b\"a\":null,\"n\":\"\\u0000😀\"\x7d],"
      ++ "\"libraries\":\x7b\x7d\x7d" := by
  let body := "\x7b\"packageName\": \"tokens\", \"version\": \"v1.0.0\", \"chainId\": 1,
    \"contractName\": \"Token\", \"address\": \"0xABCDEFABCDEFABCDEFABCDEFABCDEFABCDEFABCD\",
    \"constructorArgs\": [[[]], -1, \x7b\"n\": \"\\u0000\\ud83d\\ude00\", \"a\": null\x7d],
    \"libraries\": \x7b\x7d\x7d"
  let supply (n : Nat) : Supply := ⟨⟨0⟩, fun k => toString (k + n), "secret"⟩
  let token : ContractSubmission := ⟨"Token", "", none, none, none, none, none⟩
  let published : Event :=
    .request (supply 0) (.publish "tokens" "1.0.0" "k1" ⟨"evm", "", none, none, [], [token]⟩)
  have hchecks : (RecordRequest.parse body).toOption.any (fun q => q.hasIntegers &&
      q.document.toText = "\x7b\"constructorArgs\":[[[]],-1,\x7b\"a\":null,\"n\":\"\\u0000😀\"\x7d],"
        ++ "\"libraries\":\x7b\x7d\x7d" &&
      succeeds (record (supply 9) q (published.apply .empty))) = true := by decide +kernel
  have hreach : Run Anything .empty (published.apply .empty) := .snoc .nil trivial
  cases hbody : RecordRequest.parse body with
  | error e =>
    rw [hbody] at hchecks
    cases hchecks
  | ok q =>
    rw [hbody] at hchecks
    simp only [Except.toOption, Option.any_some, Bool.and_eq_true, decide_eq_true_eq] at hchecks
    obtain ⟨⟨hints, htext⟩, hsucceeds⟩ := hchecks
    obtain ⟨d, r, hrecord⟩ := exists_of_succeeds hsucceeds
    obtain ⟨-, -, -, e, hfound, -, hshown⟩ :=
      recorded_data_read_back hreach hbody hints hrecord .nil
    exact ⟨body, q, _, d, _, r, hbody, hreach, hrecord, ⟨e, hfound, hshown⟩, htext⟩

end Registry

end BuildRegistry
