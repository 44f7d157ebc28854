import BuildRegistry.Proofs.Verification

/-
  What a verification writes. `MarkDue` says when a deployment is to be marked: the outcome is a
  match, it was found at an endpoint, and the deployment is recorded at the address of the request
  for the very package version that the request names. Then one row of one table is put in the
  place of another (`Rewrites`); otherwise nothing is written, whatever the node answers and
  wherever the request fails (`verify_writes_one_mark`).

  Not claimed: that a mark that is due is always set. Trouble with the store while it is set is not
  reported, and the verification succeeds without it; in a registry without outages it is set.
-/

namespace BuildRegistry

namespace Store

/-- One deployment in the place of another, and nothing else changed. -/
def Rewrites (d d' : Deployment) (s t : Store) : Prop :=
  ∃ before after, s.deployments = before ++ d :: after ∧
    t = { s with deployments := before ++ d' :: after }

theorem rewrites_updateDeployment {s : Store} (hids : (s.deployments.map (·.id)).Nodup)
    {d : Deployment} (hd : d ∈ s.deployments) (change : Deployment → Deployment) :
    Rewrites d (change d) s (s.updateDeployment d.id change) := by
  obtain ⟨before, after, hrows, hmap⟩ := map_at_key hids hd
    (f := fun e => if e.id = d.id then change e else e) fun _ hne => if_neg hne
  rw [if_pos rfl] at hmap
  exact ⟨before, after, hrows, by rw [updateDeployment, hmap]⟩

theorem Rewrites.mem_or_eq {d d' e : Deployment} {s t : Store} (h : Rewrites d d' s t)
    (he : e ∈ s.deployments) : e ∈ t.deployments ∨ e = d ∧ d' ∈ t.deployments := by
  obtain ⟨before, after, hrows, rfl⟩ := h
  rw [hrows, List.mem_append, List.mem_cons] at he
  rcases he with he | rfl | he
  · exact .inl (List.mem_append_left _ he)
  · exact .inr ⟨rfl, List.mem_append_right _ List.mem_cons_self⟩
  · exact .inl (List.mem_append_right _ (List.mem_cons_of_mem _ he))

end Store

namespace Registry

open Store

/-- A verification with this outcome has a deployment to mark as verified at an endpoint. -/
structure MarkDue (s : Store) (q : VerifyRequest) (x : Verification) (endpoint : Url)
    (d : Deployment) : Prop where
  verified : x.verified = true
  endpoint : ∃ text, q.rpcUrl = some text ∧ text ≠ "" ∧ Url.parse text = .ok endpoint
  recorded : ∃ p, s.package? q.packageName (exactVersion q.version) = some p ∧ d ∈ s.deployments ∧
    d.chain = p.chain ∧ d.chainId = q.chainId ∧ d.address = Text.lowercase q.address ∧
    d.packageId = p.id

section Outcomes

variable {sup : Supply} {chains : Chains} {q : VerifyRequest} {r t : Registry} {x : Verification}

/-- A verification that succeeds with an endpoint stands for a comparison. -/
theorem resolves_of_ok (h : verify sup chains q r = .ok x t) {text : String}
    (htext : q.rpcUrl = some text) (hne : text ≠ "") :
    ∃ p a v endpoint, Resolves r.store chains q p a v endpoint ∧ Url.parse text = .ok endpoint ∧
      x = .ofReport (v.report endpoint (Text.lowercase q.address) (Bytecode.decode a.content))
        a.contentHash := by
  have hurl : q.rpcUrl.filter (· ≠ "") = some text := by
    rw [htext, Option.filter_some, if_pos (by simpa using hne)]
  obtain ⟨_, r₁, h₁, h⟩ := bind_ok.1 h
  obtain ⟨haddress, hchainId, rfl⟩ := checkTarget_ok h₁
  obtain ⟨⟨p, a⟩, r₂, h₂, h⟩ := bind_ok.1 h
  obtain ⟨hp, hartifact, rfl⟩ := target_ok h₂
  obtain ⟨v, r₃, h₃, h⟩ := bind_ok.1 h
  obtain ⟨hv, rfl⟩ := orElse_ok h₃
  rw [hurl] at h
  obtain ⟨endpoint, r₄, h₄, h⟩ := bind_ok.1 h
  obtain ⟨hparse, rfl⟩ := endpointOf_ok h₄
  refine ⟨p, a, v, endpoint, ⟨haddress, hchainId, hp, hartifact, hv, text, htext, hne, hparse⟩,
    hparse, ?_⟩
  dsimp only at h
  split at h
  · obtain ⟨_, r₅, -, h⟩ := bind_ok.1 h
    exact (pure_ok.1 h).1.symm
  · exact (pure_ok.1 h).1.symm

theorem Marking.markDue (hi : Integrity r.store) (m : Marking sup chains q x r.store t.store) :
    MarkDue r.store q x m.endpoint m.deployment where
  verified := m.verified
  endpoint := by
    obtain ⟨htext, hne⟩ := Option.filter_eq_some_iff.1 m.url_eq
    exact ⟨m.url, htext, by simpa using hne, m.endpoint_eq⟩
  recorded := by
    obtain ⟨hd, hchain, hchainId, haddress⟩ := hi.deployment?_eq_some.1 m.deployment_eq
    exact ⟨m.package, m.package_eq, hd, hchain, hchainId, haddress, m.home⟩

/-- What is written, if anything is. -/
theorem verify_ok_writes (hi : Integrity r.store) (h : verify sup chains q r = .ok x t) :
    t.store = r.store ∨ ∃ endpoint d, MarkDue r.store q x endpoint d ∧
      Rewrites d (d.marked true (endpoint.host.map Host.text) sup.now) r.store t.store := by
  rcases verify_ok h with hsame | ⟨⟨m⟩⟩
  · exact .inl hsame
  · have hd := List.mem_of_find?_eq_some m.deployment_eq
    have hwrite := rewrites_updateDeployment hi.deploymentIds hd
      (·.marked true (m.endpoint.host.map Host.text) sup.now)
    rw [← m.after_eq] at hwrite
    exact .inr ⟨m.endpoint, m.deployment, m.markDue hi, hwrite⟩

/-- Without outages a mark that is due is set. -/
theorem MarkDue.rewrites (hi : Integrity r.store) (hcalm : r.outages = [])
    (h : verify sup chains q r = .ok x t) {endpoint : Url} {d : Deployment}
    (hdue : MarkDue r.store q x endpoint d) :
    Rewrites d (d.marked true (endpoint.host.map Host.text) sup.now) r.store t.store := by
  obtain ⟨s, outages⟩ := r
  obtain rfl : outages = [] := hcalm
  obtain ⟨text, htext, hne, hparse⟩ := hdue.endpoint
  obtain ⟨p, hp, hd, hchain, hchainId, haddress, hhome⟩ := hdue.recorded
  obtain ⟨p', a, v, endpoint', hresolves, hparse', hx⟩ := resolves_of_ok h htext hne
  obtain rfl : endpoint = endpoint' := Except.ok.inj (hparse.symm.trans hparse')
  obtain rfl : p = p' := Option.some.inj (hp.symm.trans hresolves.package)
  have hfound : s.deployment? p.chain q.chainId (Text.lowercase q.address) = some d :=
    hi.deployment?_eq_some.2 ⟨hd, hchain, hchainId, haddress⟩
  have hrun := hresolves.verify_run sup hx
  rw [if_pos hdue.verified, matched, hfound] at hrun
  dsimp only at hrun
  rw [if_pos hhome] at hrun
  obtain rfl := (EStateM.Result.ok.inj (h.symm.trans hrun)).2
  exact rewrites_updateDeployment hi.deploymentIds hd _

theorem verify_keeps_verified (hi : Integrity r.store) {d : Deployment}
    (hd : d ∈ r.store.deployments) (hverified : d.verified = true) :
    ∃ d' ∈ (endState (verify sup chains q r)).store.deployments,
      d'.id = d.id ∧ d'.verified = true := by
  cases h : verify sup chains q r with
  | error e t =>
    have hsame := spares_verify sup chains q _ _ _ h
    exact ⟨d, hsame ▸ hd, rfl, hverified⟩
  | ok x t =>
    rcases verify_ok_writes hi h with hsame | ⟨endpoint, e, -, hwrite⟩
    · exact ⟨d, hsame ▸ hd, rfl, hverified⟩
    · rcases hwrite.mem_or_eq hd with hd' | ⟨rfl, hd'⟩
      · exact ⟨d, hd', rfl, hverified⟩
      · exact ⟨_, hd', rfl, rfl⟩

end Outcomes

/-- A verification writes nothing but the mark of one deployment: of the one that is recorded at
the address for the package of the request, when its outcome is a match found at an endpoint. It
then is verified, now and at the host of the endpoint, and every other row of every table is as it
was. In particular no verification takes a mark away. -/
theorem verify_writes_one_mark {r : Registry} (hreach : Run Anything .empty r) (sup : Supply)
    (chains : Chains) (q : VerifyRequest) :
    (∀ e t, verify sup chains q r = .error e t → t.store = r.store) ∧
    (∀ x t, verify sup chains q r = .ok x t →
      (t.store = r.store ∨ ∃ endpoint d, MarkDue r.store q x endpoint d ∧
        Rewrites d { d with
          verified := true, verifiedAt := some sup.now, verifiedOn := endpoint.host.map Host.text }
          r.store t.store) ∧
      (r.outages = [] → ∀ endpoint d, MarkDue r.store q x endpoint d →
        Rewrites d { d with
          verified := true, verifiedAt := some sup.now, verifiedOn := endpoint.host.map Host.text }
          r.store t.store)) ∧
    ∀ d ∈ r.store.deployments, d.verified = true →
      ∃ d' ∈ (endState (verify sup chains q r)).store.deployments,
        d'.id = d.id ∧ d'.verified = true :=
  have hi := hreach.integrity integrity_empty
  ⟨spares_verify sup chains q r,
    fun _ _ h => ⟨verify_ok_writes hi h, fun hcalm _ _ hdue => hdue.rewrites hi hcalm h⟩,
    fun _ hd hverified => verify_keeps_verified hi hd hverified⟩

/-- A deployment that is not verified yet, and a node that gives the code of its contract. -/
theorem verify_writes_one_mark_token : ∃ r sup chains q t x, Run Anything .empty r ∧
    verify sup chains q r = .ok x t ∧ ∃ endpoint d, MarkDue r.store q x endpoint d ∧
      d.verified = false ∧ Rewrites d { d with
        verified := true, verifiedAt := some sup.now, verifiedOn := endpoint.host.map Host.text }
        r.store t.store := by
  obtain ⟨sup, node, q, x, -, -, h⟩ := tokenAndVault_marked "Token" [0x60, 1]
    (by rw [contract?, tokenAndVault_sorted]; rfl) rfl (by decide +kernel) (by decide)
  have hreach : Run Anything .empty ⟨tokenAndVault, []⟩ :=
    tokenAndVault_reached.mono fun _ _ _ => trivial
  have hok := (verify_writes_one_mark hreach sup (.standard node node) q).2.1 _ _ h
  have hchanged : tokenAndVault.updateDeployment "9" (·.marked true (some "node") ⟨0⟩) ≠
      tokenAndVault := by decide +kernel
  obtain ⟨endpoint, d, hdue, hwrite⟩ := hok.1.resolve_left hchanged
  obtain ⟨-, -, hd, -⟩ := hdue.recorded
  obtain rfl := List.mem_singleton.1 hd
  exact ⟨_, sup, _, q, _, x, hreach, h, endpoint, _, hdue, rfl, hwrite⟩

end Registry

end BuildRegistry
