import Mathlib.Data.Prod.Lex
import Mathlib.Data.String.Basic
import BuildRegistry.Proofs.Calendar
import BuildRegistry.Proofs.Runs
import BuildRegistry.Proofs.Text
import BuildRegistry.Proofs.Traversal

/-
  The pages of the deployment listing. A deployment is placed by the moment it was recorded and by
  its id (`age`). The listing orders deployments by the stored text of that moment, the cursor holds
  its microseconds; on the years 0 to 9999 these agree, and a cursor reads back as the place it was
  made of (`ofCursor?_cursor`), whether or not a deployment is still there. Which deployments a
  filter asks for is said field by field (`Meets`).

  Main statement: `deployment_listing_traversal`.
-/

namespace BuildRegistry

/-- The moment a deployment was recorded, and its id. -/
def Deployment.age (d : Deployment) : Int ×ₗ String := toLex (d.createdAt.micros, d.id)

namespace Position

/-- The place in chronological order, ids apart. -/
def age (p : Position) : Int ×ₗ String := toLex (p.createdAt.micros, p.id)

/-- The place in the order of the texts that are kept. -/
def textAge (p : Position) : String ×ₗ String := toLex (p.createdAt.stored, p.id)

variable {p q : Position}

theorem compare_eq_lt_iff : p.compare q = .lt ↔ p.textAge < q.textAge := by
  rw [compare, Store.compareByAge, Ordering.then_eq_lt, compare_lt_iff_lt, compare_eq_iff_eq,
    compare_lt_iff_lt, textAge, textAge, Prod.Lex.toLex_lt_toLex]

theorem compare_isLE_iff : (p.compare q).isLE ↔ p.textAge ≤ q.textAge := by
  rw [Ordering.isLE_iff_eq_lt_or_eq_eq, compare_eq_lt_iff, le_iff_lt_or_eq, compare,
    Store.compareByAge, Ordering.then_eq_eq, compare_eq_iff_eq, compare_eq_iff_eq, textAge, textAge,
    toLex_inj, Prod.mk.injEq]

/-- In the years 0 to 9999 the texts are in chronological order. -/
theorem textAge_lt_iff (hp : p.createdAt.HasPlainYear) (hq : q.createdAt.HasPlainYear) :
    p.textAge < q.textAge ↔ p.age < q.age := by
  have hmicros : p.createdAt = q.createdAt ↔ p.createdAt.micros = q.createdAt.micros :=
    ⟨congrArg Time.micros, congrArg Time.mk⟩
  simp only [textAge, age, Prod.Lex.toLex_lt_toLex, Time.stored_lt_iff hp hq,
    Time.stored_inj hp hq, hmicros]

/-! ## Cursors -/

/-- A count of microseconds, an underscore and an identifier are read as their place. -/
theorem ofCursor?_of_parts {s : String} {count : List Char}
    (hs : s.toList = count ++ '_' :: p.id.toList) (hsep : '_' ∉ count)
    (hcount : Decimal.int64? count = some p.createdAt.micros) (hp : p.createdAt.InCalendar)
    (hid : p.id ≠ "") : ofCursor? s = some p := by
  have hcut : Text.cutAt '_' s.toList = some (count, p.id.toList) := by
    rw [hs]
    exact Text.cutAt_append hsep _
  have hne : p.id.toList.isEmpty = false := by simpa using hid
  have htime : Time.ofMicros? p.createdAt.micros = some p.createdAt :=
    Time.ofMicros?_eq_some_iff.2 ⟨rfl, hp⟩
  rw [ofCursor?, hcut]
  change (if p.id.toList.isEmpty = true then none else _) = _
  rw [hne, if_neg Bool.false_ne_true, hcount]
  change (Time.ofMicros? p.createdAt.micros >>= fun t => _) = _
  rw [htime]
  change some (Position.mk p.createdAt (String.ofList p.id.toList)) = some p
  rw [String.ofList_toList]

/-- A cursor reads back as the place it was made of. -/
theorem ofCursor?_cursor (hp : p.createdAt.InCalendar) (hid : p.id ≠ "") :
    ofCursor? p.cursor = some p :=
  ofCursor?_of_parts String.toList_ofList (Decimal.underscore_not_mem_intText _)
    (Decimal.int64?_intText hp.isInt64) hp hid

theorem cursor_ne_empty (p : Position) : p.cursor ≠ "" := by
  intro h
  have hmem : '_' ∈ p.cursor.toList := by
    rw [cursor, String.toList_ofList]
    exact List.mem_append_right _ List.mem_cons_self
  rw [h] at hmem
  cases hmem

end Position

namespace Store

/-! ## The rows of the listing -/

/-- Deployments have ids, and were recorded in the years 0 to 9999. -/
def Dated (s : Store) : Prop :=
  ∀ d ∈ s.deployments, d.createdAt.HasPlainYear ∧ d.id ≠ ""

variable {s : Store} {f : DeploymentFilter} {d : Deployment}

/-- A deployment has all that the filter asks for. -/
structure Meets (s : Store) (f : DeploymentFilter) (d : Deployment) : Prop where
  chain : ∀ chain ∈ f.chain, d.chain = chain
  chainId : ∀ chainId ∈ f.chainId, d.chainId = chainId
  packageId : ∀ id ∈ f.packageId, d.packageId = id
  packageName : ∀ name ∈ f.packageName, ∃ p ∈ s.packages, p.name = name ∧ p.id = d.packageId
  verified : ∀ verified ∈ f.verified, d.verified = verified

theorem agrees_iff {α : Type} [DecidableEq α] {wanted : Option α} {value : α} :
    agrees wanted value ↔ ∀ x ∈ wanted, value = x := by
  simp only [agrees, Option.all_eq_true, decide_eq_true_eq]
  exact forall₂_congr fun _ _ => eq_comm

theorem admits_iff : s.admits f d ↔ s.Meets f d := by
  simp only [admits, Bool.and_eq_true, agrees_iff, Option.all_eq_true, List.any_eq_true,
    decide_eq_true_eq]
  constructor
  · rintro ⟨⟨⟨⟨hchain, hchainId⟩, hpackageId⟩, hpackageName⟩, hverified⟩
    exact ⟨hchain, hchainId, hpackageId, hpackageName, hverified⟩
  · rintro ⟨hchain, hchainId, hpackageId, hpackageName, hverified⟩
    exact ⟨⟨⟨⟨hchain, hchainId⟩, hpackageId⟩, hpackageName⟩, hverified⟩

theorem mem_deploymentsOf : d ∈ s.deploymentsOf f ↔ d ∈ s.deployments ∧ s.Meets f d := by
  rw [deploymentsOf, inOrder, List.mem_mergeSort, List.mem_filter, admits_iff]

theorem sorted_deploymentsOf : (s.deploymentsOf f).Pairwise fun d e =>
    d.position.textAge ≤ e.position.textAge := by
  have hle : ∀ d e : Deployment, (d.position.compare e.position).isLE ↔
      d.position.textAge ≤ e.position.textAge := fun d e => Position.compare_isLE_iff
  exact sorted_inOrder hle _

theorem nodup_deploymentsOf (hi : Integrity s) : ((s.deploymentsOf f).map (·.id)).Nodup := by
  have hperm : (s.deploymentsOf f).Perm (s.deployments.filter (s.admits f)) :=
    List.mergeSort_perm _ _
  exact (hperm.map _).nodup_iff.2 (nodup_key_filter _ hi.deploymentIds)

theorem Dated.position (hs : Dated s) (hd : d ∈ s.deployments) :
    d.position.createdAt.HasPlainYear ∧ d.position.id ≠ "" := hs d hd

theorem ascending_deploymentsOf (hi : Integrity s) (hs : Dated s) :
    Ascending Deployment.age (s.deploymentsOf f) := by
  have hids := List.pairwise_map.1 (nodup_deploymentsOf (f := f) hi)
  refine (sorted_deploymentsOf.and hids).imp_of_mem fun {d e} hd he h => ?_
  have hlt : d.position.textAge < e.position.textAge :=
    lt_of_le_of_ne h.1 fun heq => h.2 (congrArg Prod.snd (toLex_inj.1 heq))
  have hyear := (hs.position (mem_deploymentsOf.1 hd).1).1
  have hyear' := (hs.position (mem_deploymentsOf.1 he).1).1
  exact (Position.textAge_lt_iff hyear hyear').1 hlt

theorem length_deploymentsOf_le : (s.deploymentsOf f).length ≤ s.deployments.length := by
  rw [deploymentsOf, inOrder, List.length_mergeSort]
  exact List.length_filter_le _ _

theorem listDeployments_run {p : PageRequest} {start : Option Position}
    (h : startOf p s = .ok start s) : listDeployments f p s = .ok (Page.ofRows p.pageSize
      Deployment.cursor ((s.deploymentsOf f).filter fun d =>
        start.all fun q => q.compare d.position = .lt)) s := by
  unfold listDeployments
  rw [bind_of_ok h]
  rfl

/-- The listing answers with the deployments after the place in the cursor. -/
theorem serves_listDeployments (f : DeploymentFilter) :
    Serves (fun s p => outcome (listDeployments f p s)) (fun s => Integrity s ∧ Dated s)
      (fun s => s.deploymentsOf f) Deployment.age Deployment.cursor where
  ascending _ hs := ascending_deploymentsOf hs.1 hs.2
  answers := by
    rintro s ⟨cursor, limit⟩ after ⟨hi, hs⟩ hmarks
    cases hmarks with
    | start =>
      have hstart : startOf ⟨none, limit⟩ s = .ok none s := rfl
      rw [listDeployments_run hstart]
      rfl
    | @row s' d hs' hd =>
      have hplace := hs'.2.position (mem_deploymentsOf.1 hd).1
      have hafter : PageRequest.after ⟨some d.cursor, limit⟩ = some d.position.cursor :=
        Option.filter_eq_some_iff.2 ⟨rfl, by simpa using Position.cursor_ne_empty d.position⟩
      have hstart : startOf ⟨some d.cursor, limit⟩ s = .ok (some d.position) s := by
        unfold startOf
        rw [hafter]
        dsimp only
        rw [Position.ofCursor?_cursor hplace.1.inCalendar hplace.2]
        rfl
      have hrows : ((s.deploymentsOf f).filter fun e =>
          (some d.position).all fun q => q.compare e.position = .lt) =
          rowsAfter Deployment.age (some d.age) (s.deploymentsOf f) := by
        refine List.filter_congr fun e he => ?_
        have hyear := (hs.position (mem_deploymentsOf.1 he).1).1
        rw [Option.all_some, Option.all_some, decide_eq_decide, Position.compare_eq_lt_iff,
          Position.textAge_lt_iff hplace.1 hyear]
        exact Iff.rfl
      rw [listDeployments_run hstart, hrows, outcome_ok]

end Store

namespace Registry

open Store

/-! ## Deployments have dates -/

/-- The clock shows a year from 0 to 9999, and identifiers are not empty. -/
def Regular (_ : Registry) : Event → Prop
  | .request s _ => s.now.HasPlainYear ∧ ∀ n, s.id n ≠ ""
  | .outage _ => True

theorem dated_of_change {calm : Prop} {sup : Supply} {a : Action} {s t : Store}
    (hsup : sup.now.HasPlainYear ∧ ∀ n, sup.id n ≠ "") (h : Change calm sup a s t)
    (hs : Dated s) : Dated t := by
  cases h with
  | published _ hpub hclaim =>
    rcases hclaim with rfl | ⟨-, rfl⟩
    · rw [Dated, claiming_deployments, hpub.deployments]
      exact hs
    · rw [Dated, hpub.deployments]
      exact hs
  | deleted => exact fun d hd => hs d (List.mem_filter.1 hd).1
  | recorded =>
    intro d hd
    rcases List.mem_append.1 hd with hd | hd
    · exact hs d hd
    · rw [List.mem_singleton.1 hd]
      exact ⟨hsup.1, hsup.2 0⟩
  | marked id verified on =>
    intro d hd
    obtain ⟨e, he, rfl⟩ := List.mem_map.1 hd
    have := hs e he
    split
    · exact this
    · exact this
  | nothing | keysChanged => exact hs

theorem Run.dated {r : Registry} (hrun : Run Regular .empty r) : Dated r.store := by
  refine hrun.keeps (Dated ·.store) (fun r e he hs => ?_) fun d hd => by cases hd
  rcases e.cases_store r with hsame | ⟨s, a, t, rfl, h, happly⟩
  · rwa [hsame]
  · rw [happly]
    exact dated_of_change he (perform_ok h) hs

/-- A client that follows the pages of the deployment listing, whatever happens in between: every
cursor is accepted, deployments come in chronological order and by id, and `Traversal` says what it
can rely on. If nothing happens in between, the pages end and hold each deployment that the filter
asks for. -/
theorem deployment_listing_traversal (f : DeploymentFilter) {visits : List (Visit Store)}
    (hreach : ∀ v ∈ visits, ∃ r, Run Regular .empty r ∧ r.store = v.state) :
    ∃ answers, follow (fun s p => outcome (listDeployments f p s)) none visits = .ok answers ∧
      Traversal (fun s k => ∃ d ∈ s.deployments, s.Meets f d ∧ d.age = k) Deployment.age visits
        answers ∧
      (∀ a ∈ answers, ∀ d ∈ a.2.data, d ∈ a.1.state.deployments ∧ a.1.state.Meets f d) ∧
      ∀ s, (∀ v ∈ visits, v.state = s) → s.deployments.length < visits.length →
        Finished answers ∧ ∀ d, d ∈ entries answers ↔ d ∈ s.deployments ∧ s.Meets f d := by
  have hgood : ∀ v ∈ visits, Integrity v.state ∧ Dated v.state := by
    intro v hv
    obtain ⟨r, hrun, hr⟩ := hreach v hv
    exact hr ▸ ⟨hrun.integrity integrity_empty, hrun.dated⟩
  have hlisted : ∀ s, Integrity s ∧ Dated s → ∀ k,
      (∃ d ∈ s.deployments, s.Meets f d ∧ d.age = k) ↔ ∃ d ∈ s.deploymentsOf f, d.age = k :=
    fun s _ k => by simp only [mem_deploymentsOf, and_assoc]
  obtain ⟨answers, hfollow, htrav, hrows, hconst⟩ :=
    (serves_listDeployments f).traversal hlisted hgood
  refine ⟨answers, hfollow, htrav, fun a ha d hd => mem_deploymentsOf.1 (hrows a ha d hd),
    fun s hs henough => ?_⟩
  obtain ⟨hfin, hall⟩ := hconst s hs (lt_of_le_of_lt length_deploymentsOf_le henough)
  exact ⟨hfin, fun d => hall ▸ mem_deploymentsOf⟩

/-- Three deployments recorded at one moment, two of them of one package. A page of one entry has
the one with the lesser id, which was recorded last. -/
theorem deployment_listing_traversal_one_moment : ∃ (f : DeploymentFilter) (s : Store)
    (page : Page Deployment) (rest : List (Visit Store × Page Deployment)),
      f.packageName = some "tokens" ∧ (∃ r, Run Regular .empty r ∧ r.store = s) ∧
      s.deployments.map (·.id) = ["7", "6", "5"] ∧
      follow (fun s p => outcome (listDeployments f p s)) none
        [⟨s, some 1⟩, ⟨s, none⟩, ⟨s, none⟩, ⟨s, none⟩] = .ok ((⟨s, some 1⟩, page) :: rest) ∧
      (page.data.map (·.id) = ["5"] ∧ page.hasMore = true) ∧
      Finished ((⟨s, some 1⟩, page) :: rest) ∧
      (entries ((⟨s, some 1⟩, page) :: rest)).map (·.id) = ["5", "7"] := by
  let supply (n : Nat) : Supply := ⟨⟨0⟩, fun k => toString (k + n), "secret"⟩
  have hnow : Time.HasPlainYear ⟨0⟩ := ⟨by decide, by decide⟩
  have hsupply : ∀ n, (supply n).now.HasPlainYear ∧ ∀ k, (supply n).id k ≠ "" := fun n =>
    ⟨hnow, fun k => Nat.repr_ne_empty⟩
  let token : ContractSubmission := ⟨"Token", "src/Token.sol", none, none, none, none, none⟩
  let published (n : Nat) (name : String) : Event :=
    .request (supply n) (.publish name "1.0.0" "k1" ⟨"evm", "", none, none, [], [token]⟩)
  let recorded (n : Nat) (name : String) (chainId : Int) : Event :=
    .request (supply n) (.record ⟨name, "1.0.0", "Token", chainId,
      "0x00000000000000000000000000000000000000aa", none, none, none, none, none⟩)
  let r := (recorded 5 "tokens" 3).apply ((recorded 6 "vaults" 2).apply
    ((recorded 7 "tokens" 1).apply
      ((published 10 "vaults").apply ((published 0 "tokens").apply .empty))))
  let f : DeploymentFilter := ⟨none, none, none, some "tokens", none⟩
  have hrun : Run Regular .empty r := ((((Run.nil.snoc (hsupply 0)).snoc (hsupply 10)).snoc
    (hsupply 7)).snoc (hsupply 6)).snoc (hsupply 5)
  have hids : r.store.deployments.map (·.id) = ["7", "6", "5"] := by decide +kernel
  let found := (r.store.deployments.filter (r.store.admits f)).reverse
  have hplaces : found.map (fun d => (d.createdAt.micros, d.id)) = [(0, "5"), (0, "7")] := by
    decide +kernel
  have hfoundIds : found.map (·.id) = ["5", "7"] := by decide +kernel
  clear_value r
  have hfound : Ascending Deployment.age found := by
    have hplaced : (found.map fun d => (d.createdAt.micros, d.id)).Pairwise fun p q =>
        toLex p < toLex q := by
      rw [hplaces]
      decide
    exact List.pairwise_map.1 hplaced
  have hreach : ∀ v ∈ [⟨r.store, some 1⟩, ⟨r.store, none⟩, ⟨r.store, none⟩, ⟨r.store, none⟩],
      ∃ r', Run Regular .empty r' ∧ r'.store = Visit.state v := by simpa using ⟨r, hrun, rfl⟩
  obtain ⟨answers, hfollow, htrav, -, hconst⟩ := deployment_listing_traversal f hreach
  obtain ⟨hfin, hall⟩ := hconst r.store (by simp) (by
    rw [← List.length_map, hids]
    exact Nat.lt_succ_self 3)
  have hentries : entries answers = found := by
    refine htrav.ascending.eq_of_mem_iff hfound fun d => ?_
    rw [hall, ← admits_iff, List.mem_reverse, List.mem_filter]
  cases answers with
  | nil =>
    rw [← hentries] at hfoundIds
    cases hfoundIds
  | cons a rest =>
    obtain ⟨v, page⟩ := a
    obtain ⟨rfl, -⟩ := List.cons_prefix_cons.1 htrav.visited.1
    obtain ⟨hmore, hdata⟩ := htrav.cut rfl
      (fun d hd => ⟨d, ((hall d).1 hd).1, ((hall d).1 hd).2, rfl⟩) (by
        rw [hentries, ← List.length_map, hfoundIds]
        change max 1 (min 100 1) < (2 : Int)
        decide)
    rw [← hentries] at hfoundIds
    refine ⟨f, r.store, page, rest, rfl, ⟨r, hrun, rfl⟩, hids, hfollow, ⟨?_, hmore⟩, hfin, hfoundIds⟩
    rw [hdata, List.map_take, hfoundIds]
    rfl

end Registry

end BuildRegistry
