import BuildRegistry.Proofs.Http.Handlers

/-
  Credentials. The routes that write ask for the secret of a key or for the token of the
  administrator (`NeedsKey`, `NeedsAdministrator`), and their guards see to it that a request has it
  before anything else happens (`authorize_ok`, `authorize_error`).

  Main statement: nothing is written without the credential that a route asks for, and what fails
  behind the guard leaves only the mark that a key was used (`changes_need_credential`). A request
  for a verification is the one that changes the store without a credential.
-/

namespace BuildRegistry.Http

open Registry

/-! ## What a request carries, and what its route asks for -/

namespace Request

/-- The first `Authorization` header has this token behind the word `Bearer`, apart from blanks
around it. -/
def Carries (r : Request) (token : String) : Prop :=
  ∃ rest, r.header? "Authorization" = some ("Bearer " ++ rest) ∧ Text.trim rest = token ∧ token ≠ ""

/-- The request carries the secret of a stored key that was not revoked. -/
def HoldsKey (r : Request) (s : Store) (k : ApiKey) : Prop :=
  ∃ token, r.Carries token ∧ k ∈ s.keys ∧ k.hash = hashSecret token ∧ k.revokedAt = none

/-- The request carries the token of the administrator. -/
def HoldsAdminToken (r : Request) (srv : Server) : Prop :=
  ∃ token, r.Carries token ∧ srv.adminToken = some token

theorem bearer?_eq_some_iff {r : Request} {token : String} :
    r.bearer? = some token ↔ r.Carries token := by
  have hmark : ∀ {value rest : List Char}, "Bearer ".toList ++ rest = value →
      "Bearer ".toList.isPrefixOf value = true ∧ value.drop "Bearer ".toList.length = rest := by
    rintro value rest rfl
    exact ⟨List.isPrefixOf_iff_prefix.2 (List.prefix_append _ _), List.drop_left⟩
  simp only [bearer?, Option.bind_eq_bind, Option.bind_eq_some_iff, Carries]
  constructor
  · rintro ⟨value, hvalue, h⟩
    split at h
    · rename_i hstart
      obtain ⟨rest, hrest⟩ := List.isPrefixOf_iff_prefix.1 hstart
      rw [(hmark hrest).2] at h
      split at h
      · cases h
      · rename_i hne
        refine ⟨String.ofList rest, ?_, ?_, ?_⟩
        · rw [hvalue, ← String.ofList_toList (s := value), ← hrest, String.ofList_append]
          rfl
        · rw [Text.trim, String.toList_ofList]
          exact Option.some.inj h
        · rw [← Option.some.inj h]
          exact fun hempty => hne (List.isEmpty_iff.2 (String.ofList_eq_empty_iff.1 hempty))
    · cases h
  · rintro ⟨rest, hvalue, rfl, hne⟩
    obtain ⟨hstart, hdrop⟩ := hmark (String.toList_append (s := "Bearer ") (t := rest)).symm
    refine ⟨_, hvalue, ?_⟩
    rw [if_pos hstart, hdrop, if_neg fun hempty => hne ?_, Text.trim]
    rw [Text.trim, List.isEmpty_iff.1 hempty]

end Request

namespace Route

/-- The routes that ask for the secret of a key: to publish and delete versions, to record
deployments, and to set the status of their verification. -/
def NeedsKey : Route → Prop
  | .publish _ _ | .deletePackage _ _ | .record | .setVerification _ _ => True
  | _ => False

/-- The routes that ask for the token of the administrator: those to the keys. -/
def NeedsAdministrator : Route → Prop
  | .createKey | .keys | .revokeKey _ => True
  | _ => False

theorem guard_eq_keyHolder_iff {route : Route} : route.guard = .keyHolder ↔ route.NeedsKey := by
  cases route <;> simp [guard, NeedsKey]

theorem guard_eq_administrator_iff {route : Route} :
    route.guard = .administrator ↔ route.NeedsAdministrator := by
  cases route <;> simp [guard, NeedsAdministrator]

end Route

variable {srv : Server} {s : Supply} {r : Request} {reg t : Registry} {route : Route}
  {identity : String}

/-! ## The guard -/

/-- A refusal of the guard, which wrote nothing. -/
def RefusedUnchanged (reg : Registry) (e : Refusal) (t : Registry) : Prop :=
  t.store = reg.store ∧ ∃ code, e = .status code ∧ 400 ≤ code

variable {e : Refusal}

/-- Whoever gets past the guard for keys holds one, which is marked as used. -/
theorem keyHolder_ok {k : ApiKey} (h : keyHolder s r reg = .ok k t) :
    ∃ l, r.HoldsKey reg.store l ∧
      t.store = reg.store.updateKey l.id fun l => { l with lastUsedAt := some s.now } := by
  unfold keyHolder at h
  split at h
  · cases h
  · rename_i secret hsecret
    split at h
    · rename_i hcall
      cases h
      have hact := (call_ok hcall).1
      rw [Store.useKey_run] at hact
      split at hact
      · rename_i l hfound
        have hl := List.find?_some hfound
        simp only [Bool.and_eq_true, decide_eq_true_eq, ApiKey.isRevoked, Bool.not_eq_true',
          Option.isSome_eq_false_iff, Option.isNone_iff_eq_none] at hl
        exact ⟨l, ⟨secret, Request.bearer?_eq_some_iff.1 hsecret,
          List.mem_of_find?_eq_some hfound, hl⟩, (EStateM.Result.ok.inj hact).2.symm⟩
      · cases hact
    · cases h

theorem keyHolder_error (h : keyHolder s r reg = .error e t) : RefusedUnchanged reg e t := by
  unfold keyHolder at h
  split at h
  · cases h
    exact ⟨rfl, _, rfl, by decide⟩
  · split at h
    · cases h
    · rename_i f u hcall
      cases h
      refine ⟨?_, _, rfl, ?_⟩
      · rcases (call_error hcall).2 with hs | hact
        · exact hs
        · exact Store.atomic_useKey _ _ _ _ _ hact
      · unfold unauthorized
        split <;> decide

theorem administrator_cases (srv : Server) (r : Request) (reg : Registry) :
    r.HoldsAdminToken srv ∧ administrator srv r reg = .ok () reg ∨
      ∃ code, 400 ≤ code ∧ administrator srv r reg = .error (.status code) reg := by
  unfold administrator
  cases htoken : srv.adminToken with
  | none => exact .inr ⟨_, by decide, rfl⟩
  | some token =>
    dsimp only
    split
    · rename_i hbearer
      exact .inl ⟨⟨token, Request.bearer?_eq_some_iff.1 hbearer, htoken⟩, rfl⟩
    · exact .inr ⟨_, by decide, rfl⟩

theorem authorize_error {guard : Guard} (h : authorize srv s r guard reg = .error e t) :
    RefusedUnchanged reg e t := by
  cases guard with
  | anyone => exact absurd h pure_not_error
  | keyHolder =>
    rcases bind_error.1 h with h | ⟨k, u, -, h⟩
    · exact keyHolder_error h
    · exact absurd h pure_not_error
  | administrator =>
    rcases bind_error.1 h with h | ⟨u, v, -, h⟩
    · rcases administrator_cases srv r reg with ⟨-, h'⟩ | ⟨code, hcode, h'⟩
      · rw [h'] at h
        cases h
      · rw [h'] at h
        cases h
        exact ⟨rfl, code, rfl, hcode⟩
    · exact absurd h pure_not_error

/-- What the guard of a route has seen, and written, when it lets a request through. -/
theorem authorize_ok {guard : Guard} (h : authorize srv s r guard reg = .ok identity t) :
    guard = .anyone ∧ t = reg ∨
      (guard = .keyHolder ∧ ∃ k, r.HoldsKey reg.store k ∧
        t.store = reg.store.updateKey k.id fun k => { k with lastUsedAt := some s.now }) ∨
      guard = .administrator ∧ r.HoldsAdminToken srv := by
  cases guard with
  | anyone => exact .inl ⟨rfl, (pure_ok.1 h).2.symm⟩
  | keyHolder =>
    obtain ⟨k, u, hkey, h⟩ := bind_ok.1 h
    obtain ⟨-, rfl⟩ := pure_ok.1 h
    exact .inr (.inl ⟨rfl, keyHolder_ok hkey⟩)
  | administrator =>
    obtain ⟨u, v, hadmin, -⟩ := bind_ok.1 h
    rcases administrator_cases srv r reg with ⟨hholds, -⟩ | ⟨code, -, h'⟩
    · exact .inr (.inr ⟨rfl, hholds⟩)
    · rw [h'] at hadmin
      cases hadmin

/-! ## Whole requests -/

/-- The request carries what its route asks for: a key that was not revoked, or the token of the
administrator. -/
def Request.HasCredential (r : Request) (srv : Server) (s : Store) : Prop :=
  ∃ route, r.Takes route ∧
    (route.NeedsKey ∧ (∃ k, r.HoldsKey s k) ∨ route.NeedsAdministrator ∧ r.HoldsAdminToken srv)

/-- A request along a route is refused by the guard, or answered by what stands behind it. -/
theorem respond_of_takes (srv : Server) (s : Supply) (reg : Registry) (hroute : r.Takes route) :
    ((respond srv s r reg).2.store = reg.store ∧ 400 ≤ (respond srv s r reg).1.status) ∨
      ∃ identity t, authorize srv s r.asMeant route.guard reg = .ok identity t ∧
        (respond srv s r reg).2 = endState (answer srv s r.asMeant identity route t) ∧
        ∀ response u, answer srv s r.asMeant identity route t = .ok response u →
          (respond srv s r reg).1.status = response.status := by
  have hhandle := handle_of_takes srv s reg hroute
  cases hguard : authorize srv s r.asMeant route.guard reg with
  | error e t =>
    obtain ⟨hstore, code, rfl, hcode⟩ := authorize_error hguard
    rw [bind_of_error hguard] at hhandle
    obtain ⟨hend, hstatus⟩ := respond_of_error hhandle
    rw [hend, hstatus, status_refused_status]
    exact .inl ⟨hstore, hcode⟩
  | ok identity t =>
    rw [bind_of_ok hguard] at hhandle
    refine .inr ⟨identity, t, rfl, ?_⟩
    cases hanswer : answer srv s r.asMeant identity route t with
    | ok response u =>
      obtain ⟨hend, hstatus⟩ := respond_of_ok (hhandle.trans hanswer)
      refine ⟨hend, fun response' u' h => ?_⟩
      cases h
      exact hstatus
    | error e u => exact ⟨(respond_of_error (hhandle.trans hanswer)).1, nofun⟩

/-- Without a credential only what is open to anyone is let through. -/
theorem open_of_no_credential (h : ¬ r.HasCredential srv reg.store) (hroute : r.Takes route)
    (hguard : authorize srv s r.asMeant route.guard reg = .ok identity t) :
    route.guard = .anyone ∧ t = reg := by
  rcases authorize_ok hguard with hopen | ⟨hkey, k, hk, -⟩ | ⟨hadmin, hholds⟩
  · exact hopen
  · exact absurd ⟨route, hroute, .inl ⟨Route.guard_eq_keyHolder_iff.1 hkey, k, hk⟩⟩ h
  · exact absurd ⟨route, hroute, .inr ⟨Route.guard_eq_administrator_iff.1 hadmin, hholds⟩⟩ h

theorem respond_store_of_no_credential (hverify : ¬ (r.method = .post ∧ r.segments = ["verify"]))
    (h : ¬ r.HasCredential srv reg.store) : (respond srv s r reg).2.store = reg.store := by
  by_cases htakes : ∃ route, r.Takes route
  · obtain ⟨route, hroute⟩ := htakes
    rcases respond_of_takes srv s reg hroute with ⟨hstore, -⟩ | ⟨identity, t, hguard, hend, -⟩
    · exact hstore
    · obtain ⟨hopen, rfl⟩ := open_of_no_credential h hroute hguard
      rw [hend]
      exact (steps_answer_open srv s r.asMeant identity hopen
        (fun hv => hverify (hv ▸ hroute).sent_verify) t).1.symm
  · obtain ⟨e, hhandle⟩ := handle_of_not_takes srv s reg (not_exists.1 htakes)
    rw [(respond_of_error hhandle).1]

theorem status_of_no_credential (h : ¬ r.HasCredential srv reg.store) (hroute : r.Takes route)
    (hneeds : route.NeedsKey ∨ route.NeedsAdministrator) :
    400 ≤ (respond srv s r reg).1.status := by
  rcases respond_of_takes srv s reg hroute with ⟨-, hstatus⟩ | ⟨identity, t, hguard, -, -⟩
  · exact hstatus
  · have hopen := (open_of_no_credential h hroute hguard).1
    rw [← Route.guard_eq_keyHolder_iff, ← Route.guard_eq_administrator_iff, hopen] at hneeds
    rcases hneeds with hneeds | hneeds <;> cases hneeds

/-- A request of a key's holder that fails leaves at most the mark that the key was used. -/
theorem respond_store_of_failed (hroute : r.Takes route) (hkey : route.NeedsKey)
    (hstatus : 400 ≤ (respond srv s r reg).1.status) :
    (respond srv s r reg).2.store = reg.store ∨ ∃ k, r.HoldsKey reg.store k ∧
      (respond srv s r reg).2.store =
        reg.store.updateKey k.id fun k => { k with lastUsedAt := some s.now } := by
  have hholder := Route.guard_eq_keyHolder_iff.2 hkey
  rcases respond_of_takes srv s reg hroute with ⟨hstore, -⟩ | ⟨identity, t, hguard, hend, hok⟩
  · exact .inl hstore
  · rw [hholder] at hguard
    obtain ⟨hopen, -⟩ | ⟨-, k, hk, hmarked⟩ | ⟨hadmin, -⟩ := authorize_ok hguard
    · cases hopen
    · refine .inr ⟨k, hk, ?_⟩
      cases hanswer : answer srv s r.asMeant identity route t with
      | ok response u =>
        rw [hok response u hanswer, answersDone_answer hholder t response u hanswer] at hstatus
        exact absurd hstatus (by decide)
      | error e u =>
        rw [hend, hanswer, ← hmarked]
        exact sparesStore_answer hholder t e u hanswer
    · cases hadmin

/-- Whatever is stored and however the server is set up, a request other than one for a
verification that does not carry the credential of its route leaves everything as it was, and is
refused on a guarded route. One that carries a key and fails leaves the mark that the key was used
and nothing else. -/
theorem changes_need_credential (srv : Server) (s : Supply) (r : Request) (reg : Registry)
    (hverify : ¬ (r.method = .post ∧ r.segments = ["verify"])) :
    (¬ r.HasCredential srv reg.store → (respond srv s r reg).2.store = reg.store ∧
      ∀ route, r.Takes route → route.NeedsKey ∨ route.NeedsAdministrator →
        400 ≤ (respond srv s r reg).1.status) ∧
    ∀ route, r.Takes route → route.NeedsKey → 400 ≤ (respond srv s r reg).1.status →
      (respond srv s r reg).2.store = reg.store ∨ ∃ k, r.HoldsKey reg.store k ∧
        (respond srv s r reg).2.store =
          reg.store.updateKey k.id fun k => { k with lastUsedAt := some s.now } :=
  ⟨fun h => ⟨respond_store_of_no_credential hverify h, fun _ => status_of_no_credential h⟩,
    fun _ => respond_store_of_failed⟩

/-- A publication with a revoked key. -/
theorem changes_need_credential_revoked_key : ∃ (srv : Server) (s : Supply) (r : Request)
    (reg : Registry), ¬ (r.method = .post ∧ r.segments = ["verify"]) ∧
      r.Takes (.publish "tokens" "1.0.0") ∧ ¬ r.HasCredential srv reg.store ∧
      (respond srv s r reg).2.store = reg.store ∧ 400 ≤ (respond srv s r reg).1.status := by
  let key : ApiKey := ⟨"k1", "ci", hashSecret "creg_00", ⟨0⟩, none, some ⟨5⟩⟩
  let reg : Registry := ⟨{ Store.empty with keys := [key] }, []⟩
  let srv : Server := ⟨some "admin", .none⟩
  let r : Request := ⟨.post, "/packages/tokens/1.0.0", [("authorization", "Bearer creg_00")], ""⟩
  have htakes : r.Takes (.publish "tokens" "1.0.0") := ⟨by decide +kernel, by decide +kernel⟩
  have hnone : ¬ r.HasCredential srv reg.store := by
    rintro ⟨route, hroute, hcredential⟩
    obtain rfl := Option.some.inj (htakes.2.symm.trans hroute.2)
    rcases hcredential with ⟨-, k, token, -, hk, -, hrevoked⟩ | ⟨hadmin, -⟩
    · rw [List.mem_singleton.1 hk] at hrevoked
      cases hrevoked
    · exact hadmin
  have hverify : ¬ (r.method = .post ∧ r.segments = ["verify"]) := by decide +kernel
  obtain ⟨hstore, hstatus⟩ :=
    (changes_need_credential srv ⟨⟨9⟩, fun n => toString n, "secret"⟩ r reg hverify).1 hnone
  exact ⟨srv, _, r, reg, hverify, htakes, hnone, hstore, hstatus _ htakes (.inl trivial)⟩

end BuildRegistry.Http
