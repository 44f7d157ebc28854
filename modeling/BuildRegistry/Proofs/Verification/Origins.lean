import BuildRegistry.Proofs.DeployedContracts
import BuildRegistry.Proofs.Validity

/-
  Origins of verifications. The time of a verification is kept only with the mark, its origin is
  kept as a request names it: an update that takes the mark away may name one all the same
  (`unverified_with_origin`).

  What such an update answers is then stored, and nothing else leaves an origin without a mark: a
  recording has none, and a verification sets the mark with it (`deployment_after`). Main statement
  (`unverified_origin_iff_updated_so`): a stored deployment that is not verified has no time of
  verification, and it has an origin exactly if an update of this kind was the last one to write
  it. Where no such update is let through, no deployment has an origin without a mark
  (`Run.origins_of_verified`).
-/

namespace BuildRegistry

namespace Store

/-- A row after a change of one row is the changed one or was there before. -/
theorem mem_or_eq_of_updateDeployment {s : Store} (hids : (s.deployments.map (·.id)).Nodup)
    {d e : Deployment} {change : Deployment → Deployment} (hd : d ∈ s.deployments)
    (he : e ∈ (s.updateDeployment d.id change).deployments) :
    e ∈ s.deployments ∨ e = change d := by
  obtain ⟨e', he', rfl⟩ := List.mem_map.1 he
  split
  · rename_i hid
    obtain rfl := eq_of_key hids he' hd hid
    exact .inr rfl
  · exact .inl he'

/-- The status of a deployment when the store has changed: as it was, that of a recording, or a
mark that the request asked for. -/
theorem status_cases {calm : Prop} {sup : Supply} {a : Registry.Action} {s t : Store}
    {d : Deployment} (h : Registry.Change calm sup a s t) (hd : d ∈ t.deployments) :
    d ∈ s.deployments ∨ d.verifiedOn = none ∨ a.Marks d.verified d.verifiedOn := by
  cases h with
  | nothing | keysChanged => exact .inl hd
  | @published _ _ _ _ _ _ u _ _ hpub hclaim =>
    have hsame : t.deployments = u.deployments := by
      rcases hclaim with rfl | ⟨-, rfl⟩
      · exact claiming_deployments _ _ _ _
      · rfl
    rw [hsame, hpub.deployments] at hd
    exact .inl hd
  | deleted => exact .inl (List.mem_filter.1 hd).1
  | recorded =>
    rcases List.mem_append.1 hd with hd | hd
    · exact .inl hd
    · obtain rfl := List.mem_singleton.1 hd
      exact .inr (.inl rfl)
  | marked id verified on hasked =>
    obtain ⟨e, he, rfl⟩ := List.mem_map.1 hd
    split
    · exact .inr (.inr hasked)
    · exact .inl he

end Store

namespace Registry

open Store

variable {sup : Supply} {r t : Registry} {d : Deployment}

/-- An update answers the deployment at the address with the status of the request, and stores
what it answers in its place. -/
theorem setVerification_answer {chain address : String} {chainId : Int} {q : StatusRequest}
    (hi : Integrity r.store) (h : setVerification sup chain chainId address q r = .ok d t) :
    ∃ e ∈ r.store.deployments, e.chain = chain ∧ e.chainId = chainId ∧
      d = e.marked q.verified q.verifiedOn sup.now ∧
      t.store = r.store.updateDeployment e.id (·.marked q.verified q.verifiedOn sup.now) := by
  obtain ⟨e, r₁, h₁, h⟩ := bind_ok.1 h
  obtain ⟨hfound, rfl⟩ := deployment_ok h₁
  obtain ⟨he, hchain, hchainId, -⟩ := hi.deployment?_eq_some.1 hfound
  obtain ⟨hact, -⟩ := need_ok h
  rw [Store.setVerification_run, deploymentById?, find?_eq_some_of_key hi.deploymentIds he] at hact
  obtain ⟨hanswer, hstore⟩ := EStateM.Result.ok.inj hact
  exact ⟨e, he, hchain, hchainId, hanswer.symm, hstore.symm⟩

/-- Where a stored deployment comes from: it was there, with this status; it has no origin, or it
is verified; or it is the answer of an update. -/
theorem deployment_after {a : Action} (hi : Integrity r.store) (h : perform sup a r = .ok () t)
    (hd : d ∈ t.store.deployments) :
    d ∈ r.store.deployments ∨ d.verifiedOn = none ∨ d.verified = true ∨
      ∃ address q, a = .setVerification d.chain d.chainId address q ∧
        setVerification sup d.chain d.chainId address q r = .ok d t := by
  rcases status_cases (perform_ok h) hd with hkept | hnone | hasked
  · exact .inl hkept
  · exact .inr (.inl hnone)
  · cases a with
    | verify => exact .inr (.inr (.inl hasked))
    | setVerification chain chainId address q =>
      obtain ⟨d', hd'⟩ := silently_ok h
      obtain ⟨e, he, hchain, hchainId, hanswer, hstore⟩ := setVerification_answer hi hd'
      rw [hstore] at hd
      rcases mem_or_eq_of_updateDeployment hi.deploymentIds he hd with hkept | hupdated
      · exact .inl hkept
      · obtain rfl : d' = d := hanswer.trans hupdated.symm
        obtain rfl : d'.chain = chain := by rw [hanswer]; exact hchain
        obtain rfl : d'.chainId = chainId := by rw [hanswer]; exact hchainId
        exact .inr (.inr (.inr ⟨address, q, rfl, hd'⟩))
    | _ => exact hasked.elim

/-- An update as a run has it that took the mark of a deployment away and named an origin all the
same: what it answered in the registry `u`, and that the run went on from there to `r`. -/
structure Unmarking (P : Registry → Event → Prop) (sup : Supply) (address origin : String)
    (u r : Registry) (d : Deployment) : Prop where
  reachable : Run P .empty u
  allowed : P u (.request sup (.setVerification d.chain d.chainId address ⟨false, some origin⟩))
  answered : ∃ t, setVerification sup d.chain d.chainId address ⟨false, some origin⟩ u = .ok d t ∧
    Run P t r

variable {P : Registry → Event → Prop} {origin : String}

theorem exists_unmarking (hrun : Run P .empty r) (hd : d ∈ r.store.deployments)
    (hverified : d.verified = false) (horigin : d.verifiedOn = some origin) :
    ∃ sup address u, Unmarking P sup address origin u r d := by
  -- along the run: an event keeps the deployment as it is, or is the update
  induction hrun with
  | nil => cases hd
  | @snoc r e hrun he ih =>
    have hkept : d ∈ r.store.deployments →
        ∃ sup address u, Unmarking P sup address origin u (e.apply r) d := by
      intro hd
      obtain ⟨sup, address, u, hlast⟩ := ih hd
      obtain ⟨t, ht, hlater⟩ := hlast.answered
      exact ⟨sup, address, u, { hlast with answered := ⟨t, ht, hlater.snoc he⟩ }⟩
    rcases e.cases_store r with hsame | ⟨sup, a, t, rfl, h, happly⟩
    · exact hkept (hsame ▸ hd)
    · rw [happly] at hd
      rcases deployment_after (hrun.integrity integrity_empty) h hd with
        hd | hnone | htrue | ⟨address, q, rfl, hanswer⟩
      · exact hkept hd
      · rw [hnone] at horigin
        cases horigin
      · rw [htrue] at hverified
        cases hverified
      · obtain ⟨e, -, -, -, rfl, -⟩ :=
          setVerification_answer (hrun.integrity integrity_empty) hanswer
        obtain ⟨verified, verifiedOn⟩ := q
        obtain rfl : verified = false := hverified
        obtain rfl : verifiedOn = some origin := horigin
        refine ⟨sup, address, r, hrun, he, t, hanswer, ?_⟩
        rw [happly]
        exact .nil

/-- Such an update does leave the origin. -/
theorem Unmarking.status {address : String} {u : Registry}
    (h : Unmarking P sup address origin u r d) :
    d.verified = false ∧ d.verifiedOn = some origin := by
  obtain ⟨t, ht, -⟩ := h.answered
  obtain ⟨e, -, -, -, rfl, -⟩ :=
    setVerification_answer (h.reachable.integrity integrity_empty) ht
  exact ⟨rfl, rfl⟩

/-- In every run, a deployment that is not verified has no time of verification, and it has an
origin exactly if it was left so by an update that took the mark away and named this origin. -/
theorem unverified_origin_iff_updated_so (hrun : Run P .empty r) (hd : d ∈ r.store.deployments)
    (hverified : d.verified = false) :
    d.verifiedAt = none ∧ ∀ origin, d.verifiedOn = some origin ↔
      ∃ sup address u, Unmarking P sup address origin u r d := by
  refine ⟨?_, fun origin => ⟨exists_unmarking hrun hd hverified, ?_⟩⟩
  · have htime := hrun.valid.verifiedTimes d hd
    rw [hverified] at htime
    simpa using htime
  · rintro ⟨sup, address, u, h⟩
    exact h.status.2

/-- An update that takes a mark away names no origin. -/
def NamesNoOriginUnverified (_ : Registry) : Event → Prop
  | .request _ (.setVerification _ _ _ q) => q.verified = false → q.verifiedOn = none
  | _ => True

/-- If no update names an origin when it takes a mark away, no deployment has one without a mark. -/
theorem Run.origins_of_verified (hrun : Run NamesNoOriginUnverified .empty r)
    (hd : d ∈ r.store.deployments) (hverified : d.verified = false) : d.verifiedOn = none := by
  cases horigin : d.verifiedOn with
  | none => rfl
  | some origin =>
    obtain ⟨sup, address, u, h⟩ := exists_unmarking hrun hd hverified horigin
    cases h.allowed rfl

/-! ## One deployment -/

/-- The registry once a deployment is recorded and then told to be not verified at a node. -/
def afterUnmarking : Registry :=
  let supply : Supply := ⟨⟨1⟩, fun k => toString (k + 20), "secret"⟩
  (Event.request supply (.setVerification "evm" 1 "0x1111111111111111111111111111111111111111"
    ⟨false, some "rpc.example.com"⟩)).apply (afterRecording "Token")

theorem run_afterUnmarking : Run Anything .empty afterUnmarking := by
  unfold afterUnmarking
  exact (run_afterRecording "Token").snoc trivial

theorem unverified_origin_iff_updated_so_token : ∃ r d, Run Anything .empty r ∧
    d ∈ r.store.deployments ∧ d.verified = false ∧ d.verifiedAt = none ∧
    ∃ sup address u, Unmarking Anything sup address "rpc.example.com" u r d := by
  obtain ⟨d, hd, hverified, horigin⟩ : ∃ d ∈ afterUnmarking.store.deployments,
      d.verified = false ∧ d.verifiedOn = some "rpc.example.com" := by decide +kernel
  obtain ⟨htime, hlast⟩ := unverified_origin_iff_updated_so run_afterUnmarking hd hverified
  exact ⟨_, d, run_afterUnmarking, hd, hverified, htime, (hlast _).1 horigin⟩

/-- An origin without a mark. -/
theorem unverified_with_origin : ∃ r, Run Anything .empty r ∧
    ∃ d ∈ r.store.deployments, d.verified = false ∧ d.verifiedOn ≠ none :=
  ⟨_, run_afterUnmarking, by decide +kernel⟩

end Registry

end BuildRegistry
