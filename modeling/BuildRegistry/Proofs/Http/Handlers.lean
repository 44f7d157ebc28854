import BuildRegistry.Http.Server
import BuildRegistry.Proofs.Services

/-
  How the server handles a request. A well-formed request takes at most one route (`Takes`), and
  the answer is that of the route's guard or of what stands behind it (`handle_of_takes`). What is
  open to anyone writes nothing, verifications apart (`steps_answer_open`); what is open to the
  holders of keys writes nothing when it fails (`sparesStore_answer`), and says that all went well
  when it does not (`answersDone_answer`).
-/

namespace BuildRegistry.Http

open Registry

/-! ## The route of a request -/

/-- The request is well formed, and its method and path ask for this. -/
def Request.Takes (r : Request) (route : Route) : Prop :=
  r.asMeant.isWellFormed = true ∧ Route.of? r.asMeant.method r.asMeant.segments = some route

/-- A form in place of a method is looked for in requests that are sent as `POST` only. -/
theorem Request.method_of_formMethod? {r : Request} {m : Method} (h : r.formMethod? = some m) :
    r.method = .post := by
  unfold formMethod? at h
  dsimp only at h
  split at h
  · cases h
  · rename_i hguard
    simp only [Bool.or_eq_true, Bool.not_eq_true', decide_eq_true_eq, not_or,
      Decidable.not_not] at hguard
    exact hguard.1.2

theorem Route.of?_eq_verify {m : Method} {path : List String} (h : of? m path = some .verify) :
    m = .post ∧ path = ["verify"] := by
  cases m with
  | get | head =>
    change ofGet? path = some .verify at h
    unfold ofGet? at h
    split at h <;> cases h
  | post =>
    change ofPost? path = some .verify at h
    unfold ofPost? at h
    split at h <;> cases h
    exact ⟨rfl, rfl⟩
  | put =>
    change ofPut? path = some .verify at h
    unfold ofPut? at h
    split at h <;> cases h
  | delete =>
    change ofDelete? path = some .verify at h
    unfold ofDelete? at h
    split at h <;> cases h
  | other => cases h

/-- A request that takes the route to verifications is sent to it as `POST`. -/
theorem Request.Takes.sent_verify {r : Request} (h : r.Takes .verify) :
    r.method = .post ∧ r.segments = ["verify"] := by
  obtain ⟨hmethod, hpath⟩ := Route.of?_eq_verify h.2
  refine ⟨?_, hpath⟩
  unfold asMeant at hmethod
  cases hform : r.formMethod? with
  | none => rwa [hform] at hmethod
  | some m => exact method_of_formMethod? hform

/-! ## The steps of a request -/

section Steps

variable {α β : Type} {R : Store → Store → Prop}

theorem steps_service {act : Service α} (h : Steps (Along R) act) :
    Steps (Along R) (service act) := by
  intro r
  have hs := h r
  unfold service
  cases hact : act r <;> rw [hact] at hs <;> exact hs

variable [IsPreorder Store R]

theorem steps_bodyOf (parsed : Except Json.Fault α) : Steps (Along R) (bodyOf parsed) := by
  unfold bodyOf
  split
  · exact steps_pure _
  · exact steps_throw _
  · exact steps_throw _

theorem steps_numberOf (s : String) : Steps (Along R) (numberOf s) := by
  unfold numberOf
  split
  · exact steps_pure _
  · exact steps_throw _

theorem steps_kindOf (name : String) : Steps (Along R) (kindOf name) := by
  unfold kindOf
  split
  · exact steps_pure _
  · exact steps_throw _

/-- A step of a request that writes nothing when it fails. -/
def SparesStore (act : Handler α) : Prop := ∀ r e t, act r = .error e t → t.store = r.store

theorem sparesStore_service {act : Service α} (h : Spares act) : SparesStore (service act) := by
  intro r e t hr
  unfold service at hr
  split at hr
  · cases hr
  · rename_i hact
    cases hr
    exact h r _ _ hact

theorem SparesStore.before_pure {x : Handler α} (hx : SparesStore x) (f : α → β) :
    SparesStore (x >>= fun a => pure (f a)) := by
  intro r e t h
  rcases bind_error.1 h with h | ⟨a, u, -, h⟩
  · exact hx r e t h
  · exact absurd h pure_not_error

theorem SparesStore.after_steps {x : Handler α} {f : α → Handler β} (hx : Steps (Along Eq) x)
    (hf : ∀ a, SparesStore (f a)) : SparesStore (x >>= f) := by
  intro r e u h
  have hstep := hx r
  rcases bind_error.1 h with h | ⟨a, t, hok, herr⟩
  · rw [h] at hstep
    exact hstep.1.symm
  · rw [hok] at hstep
    exact (hf a t e u herr).trans hstep.1.symm

/-- A step of a request whose answer, if it gives one, is that all went well. -/
def AnswersDone (act : Handler Response) : Prop :=
  ∀ r response t, act r = .ok response t → response.status = 200

theorem answersDone_pure {response : Response} (h : response.status = 200) :
    AnswersDone (pure response) := by
  intro r response' t hr
  rw [← (pure_ok.1 hr).1]
  exact h

theorem AnswersDone.after {x : Handler α} {f : α → Handler Response} (hf : ∀ a, AnswersDone (f a)) :
    AnswersDone (x >>= f) := by
  intro r response u h
  obtain ⟨a, t, -, h⟩ := bind_ok.1 h
  exact hf a t response u h

end Steps

variable {srv : Server} {s : Supply} {r : Request} {reg t : Registry} {route : Route}
  {identity : String}

/-! ## Behind the guard -/

/-- What anyone may ask for, verifications apart, writes nothing. -/
theorem steps_answer_open (srv : Server) (s : Supply) (r : Request) (identity : String)
    (hopen : route.guard = .anyone) (hverify : route ≠ .verify) :
    Steps (Along Eq) (answer srv s r identity route) := by
  cases route with
  | packages => exact steps_bind (steps_service (reads_list _ _)) fun _ => steps_pure _
  | versions => exact steps_bind (steps_service (reads_versions _ _)) fun _ => steps_pure _
  | package => exact steps_bind (steps_service (reads_package _ _ _)) fun _ => steps_pure _
  | contracts => exact steps_bind (steps_service (reads_contracts _ _)) fun _ => steps_pure _
  | contract => exact steps_bind (steps_service (reads_contract _ _ _)) fun _ => steps_pure _
  | artifact =>
    exact steps_bind (steps_kindOf _) fun _ =>
      steps_bind (steps_service (reads_artifact _ _ _ _)) fun _ => steps_pure _
  | archive => exact steps_bind (steps_service (reads_archive _ _)) fun _ => steps_pure _
  | packageDeployments =>
    exact steps_bind (steps_service (reads_deploymentsOf _ _ _)) fun _ => steps_pure _
  | deployments => exact steps_bind (steps_service (reads_deployments _ _)) fun _ => steps_pure _
  | deployment =>
    exact steps_bind (steps_numberOf _) fun _ =>
      steps_bind (steps_service (reads_deployment _ _ _)) fun _ => steps_pure _
  | health => exact steps_pure _
  | verify => exact absurd rfl hverify
  | publish | deletePackage | record | setVerification | createKey | keys | revokeKey => cases hopen

/-- What the holder of a key may ask for writes nothing when it fails. -/
theorem sparesStore_answer (hkey : route.guard = .keyHolder) :
    SparesStore (answer srv s r identity route) := by
  cases route with
  | publish =>
    exact .after_steps (steps_bodyOf _) fun _ =>
      (sparesStore_service (spares_publish _ _ _ _ _)).before_pure _
  | deletePackage => exact (sparesStore_service (spares_delete _ _ _)).before_pure _
  | record =>
    exact .after_steps (steps_bodyOf _) fun _ =>
      (sparesStore_service (spares_record _ _)).before_pure _
  | setVerification =>
    exact .after_steps (steps_numberOf _) fun _ => .after_steps (steps_bodyOf _) fun _ =>
      (sparesStore_service (spares_setVerification _ _ _ _ _)).before_pure _
  | packages | versions | package | contracts | contract | artifact | archive
  | packageDeployments | deployments | deployment | verify | createKey | keys | revokeKey
  | health => cases hkey

theorem answersDone_answer (hkey : route.guard = .keyHolder) :
    AnswersDone (answer srv s r identity route) := by
  cases route with
  | publish => exact .after fun _ => .after fun _ => answersDone_pure rfl
  | deletePackage => exact .after fun _ => answersDone_pure rfl
  | record => exact .after fun _ => .after fun _ => answersDone_pure rfl
  | setVerification => exact .after fun _ => .after fun _ => .after fun _ => answersDone_pure rfl
  | packages | versions | package | contracts | contract | artifact | archive
  | packageDeployments | deployments | deployment | verify | createKey | keys | revokeKey
  | health => cases hkey

/-! ## Whole requests -/

variable {e : Refusal}

theorem status_refused_status (r : Request) (code : Nat) :
    (refused r (.status code)).status = code := by
  unfold refused
  dsimp only
  split
  · rfl
  · split
    · rfl
    · split
      · rfl
      · unfold errorPage
        split <;> rfl

theorem respond_of_ok {response : Response} (h : handle srv s r.asMeant reg = .ok response t) :
    (respond srv s r reg).2 = t ∧ (respond srv s r reg).1.status = response.status := by
  unfold respond
  dsimp only
  rw [h]
  refine ⟨rfl, ?_⟩
  dsimp only
  split <;> rfl

theorem respond_of_error (h : handle srv s r.asMeant reg = .error e t) :
    (respond srv s r reg).2 = t ∧
      (respond srv s r reg).1.status = (refused r.asMeant e).status := by
  unfold respond
  dsimp only
  rw [h]
  refine ⟨rfl, ?_⟩
  dsimp only
  split <;> rfl

theorem handle_of_takes (srv : Server) (s : Supply) (reg : Registry) (h : r.Takes route) :
    handle srv s r.asMeant reg = (authorize srv s r.asMeant route.guard >>= fun identity =>
      answer srv s r.asMeant identity route) reg := by
  have hroute : routeOf r.asMeant reg = .ok route reg := by
    rw [routeOf, h.1, h.2]
    rfl
  rw [handle, bind_of_ok hroute]

theorem handle_of_not_takes (srv : Server) (s : Supply) (reg : Registry)
    (h : ∀ route, ¬ r.Takes route) :
    ∃ e, handle srv s r.asMeant reg = .error e reg := by
  have hroute : ∃ e, routeOf r.asMeant reg = .error e reg := by
    unfold routeOf
    split
    · exact ⟨_, rfl⟩
    · rename_i hwell
      cases hroute : Route.of? r.asMeant.method r.asMeant.segments with
      | some route => exact absurd ⟨by simpa using hwell, hroute⟩ (h route)
      | none => exact ⟨_, rfl⟩
  obtain ⟨e, he⟩ := hroute
  exact ⟨e, by rw [handle, bind_of_error he]⟩

end BuildRegistry.Http
