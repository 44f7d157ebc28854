import BuildRegistry.Proofs.Bytecode
import BuildRegistry.Proofs.Lookup
import BuildRegistry.Proofs.Runs

/-
  Verification of deployed code. A node is asked for the code at an address up to twice: the
  service compares what it gets first, and the verifier compares what it gets then. For a node that
  gives the same code both times the outcome is that of one comparison, in which empty code matches
  nothing (`verification_is_comparison`). It depends on the bytes that the published output spells
  and not on how it spells them.

  A match marks the deployment that is recorded at the address, if it belongs to the package of the
  request. The contract that was compared is the one that the request names
  (`marked_by_contract_of_request`); the deployment may record another one of the same package.
-/

namespace BuildRegistry

/-! ## Reports -/

/-- How deployed code matches the code that is expected. -/
structure Compares (deployed expected : Bytes) (k : MatchKind) : Prop where
  full : k = .full ↔ deployed = expected ∧ deployed ≠ []
  partly : k = .partly ↔ deployed ≠ expected ∧ deployed ≠ [] ∧ expected ≠ [] ∧
    Bytecode.stripMetadata deployed = Bytecode.stripMetadata expected ∧
    Bytecode.stripMetadata expected ≠ []

namespace Verifier

variable {first second : Fetch} {endpoint : Url} {address : String} {code expected : Bytes}

theorem compares_compare (hcode : code ≠ []) (hexpected : expected ≠ []) :
    Compares code expected (Bytecode.compare expected code).kind := by
  unfold Bytecode.compare
  split
  · rename_i heq
    exact ⟨by simp [MatchReport.full, ← heq, hexpected], by simp [MatchReport.full, heq]⟩
  · rename_i hne
    split
    · rename_i hstrip
      refine ⟨by simp [MatchReport.partly, Ne.symm hne], ?_⟩
      simp [MatchReport.partly, Ne.symm hne, hcode, hexpected, hstrip.1, hstrip.2.symm]
    · rename_i hstrip
      refine ⟨by simp [MatchReport.none, Ne.symm hne], ?_⟩
      simp only [MatchReport.none, reduceCtorEq, false_iff]
      rintro ⟨-, -, -, heq, hnil⟩
      exact hstrip ⟨hnil, heq.symm⟩

theorem compares_none (h : code = [] ∨ expected = []) : Compares code expected .none := by
  constructor
  · simp only [reduceCtorEq, false_iff]
    rintro ⟨rfl, hcode⟩
    exact h.elim hcode hcode
  · simp only [reduceCtorEq, false_iff]
    rintro ⟨-, hcode, hexpected, -⟩
    exact h.elim hcode hexpected

/-- A node that gives the same code both times. -/
theorem compares_report (expected : Bytes) (h₁ : first endpoint address = .ok code)
    (h₂ : second endpoint address = .ok code) :
    Compares code expected ((evm first second).report endpoint address expected).kind := by
  have hfirst : (evm first second).deployedCode endpoint address = .ok code := h₁
  unfold report
  rw [hfirst]
  dsimp only
  by_cases hcode : code = []
  · rw [if_pos hcode]
    exact compares_none (.inl hcode)
  · rw [if_neg hcode]
    by_cases hexpected : expected = []
    · rw [if_pos hexpected]
      exact compares_none (.inr hexpected)
    · rw [if_neg hexpected]
      by_cases heq : code = expected
      · rw [if_pos heq]
        exact ⟨by simp [MatchReport.full, heq, hexpected], by simp [MatchReport.full, heq]⟩
      · have hsecond : (evm first second).compareAt endpoint address expected =
            .ok (Bytecode.compare expected code) := by
          unfold evm
          dsimp only
          rw [h₂]
          simp [bind, Except.bind, pure, Except.pure, hcode]
        rw [if_neg heq, hsecond]
        exact compares_compare hcode hexpected

/-- A node that fails at once. -/
theorem report_of_first_failed {e : ChainError} (h : first endpoint address = .error e) :
    ((evm first second).report endpoint address expected).kind = .none := by
  have hfirst : (evm first second).deployedCode endpoint address = .error e := h
  unfold report
  rw [hfirst]
  rfl

/-- A node that fails when it is asked again. -/
theorem report_of_second_failed {e : ChainError} (h₁ : first endpoint address = .ok code)
    (h₂ : second endpoint address = .error e) :
    ((evm first second).report endpoint address expected).kind =
      if code = expected ∧ code ≠ [] then .full else .none := by
  have hfirst : (evm first second).deployedCode endpoint address = .ok code := h₁
  have hsecond : (evm first second).compareAt endpoint address expected = .error e := by
    unfold evm
    dsimp only
    rw [h₂]
    rfl
  unfold report
  rw [hfirst, hsecond]
  dsimp only
  by_cases hcode : code = []
  · rw [if_pos hcode, if_neg fun h => h.2 hcode]
    rfl
  · rw [if_neg hcode]
    by_cases hexpected : expected = []
    · rw [if_pos hexpected, if_neg fun h => hcode (h.1.trans hexpected)]
      rfl
    · rw [if_neg hexpected]
      by_cases heq : code = expected
      · rw [if_pos heq, if_pos ⟨heq, hcode⟩]
        rfl
      · rw [if_neg heq, if_neg fun h => heq h.1]
        rfl

end Verifier

/-- A verification whose comparison has come out as a kind of match. -/
structure Verification.Concludes (x : Verification) (k : MatchKind) : Prop where
  kind : x.matchKind = some k
  verified : x.verified = true ↔ k = .full ∨ k = .partly
  statusVerified : x.status = .verified ↔ k = .full ∨ k = .partly
  statusUnverified : x.status = .unverified ↔ k = .none

theorem Verification.concludes_ofReport (r : MatchReport) (expectedHash : String) :
    (Verification.ofReport r expectedHash).Concludes r.kind := by
  obtain ⟨kind, message⟩ := r
  refine ⟨rfl, ?_, ?_, ?_⟩ <;> cases kind <;> simp [Verification.ofReport, MatchReport.isMatch]

/-- The store once code has matched at an address: the deployment there is marked if it belongs to
the package. -/
def Store.matched (s : Store) (p : Package) (chainId : Int) (address : String)
    (verifiedOn : Option String) (now : Time) : Store :=
  match s.deployment? p.chain chainId address with
  | some d =>
    if d.packageId = p.id then s.updateDeployment d.id (·.marked true verifiedOn now) else s
  | none => s

namespace Registry

open Store

/-! ## Outcomes -/

/-- What a request for a comparison stands for in a store. -/
structure Resolves (s : Store) (chains : Chains) (q : VerifyRequest) (p : Package) (a : Artifact)
    (v : Verifier) (endpoint : Url) : Prop where
  address : Naming.isAddress q.address
  chainId : Naming.isChainId q.chainId
  package : s.package? q.packageName (exactVersion q.version) = some p
  artifact : ∃ c, s.contract? p.id q.contractName = some c ∧
    s.artifact? c.id ArtifactKind.deployedBytecode.name = some a
  verifier : chains.get? p.chain = some v
  endpoint : ∃ text, q.rpcUrl = some text ∧ text ≠ "" ∧ Url.parse text = .ok endpoint

section Resolved

variable {s : Store} {chains : Chains} {q : VerifyRequest} {p : Package} {a : Artifact}
  {v : Verifier} {endpoint : Url}

theorem Resolves.target_run (h : Resolves s chains q p a v endpoint) :
    target q ⟨s, []⟩ = .ok (p, a) ⟨s, []⟩ := by
  obtain ⟨c, hc, ha⟩ := h.artifact
  have hpackage : exactPackage q.packageName q.version ⟨s, []⟩ = .ok p ⟨s, []⟩ := by
    rw [exactPackage_run, h.package]
  unfold target
  rw [bind_of_ok hpackage]
  have hcontract : ∀ what, need what .getContract (getContract p.id q.contractName) ⟨s, []⟩ =
      .ok c ⟨s, []⟩ := fun what => by rw [need_calm, getContract_run, hc]
  have hartifact : ∀ what, need what .getArtifact
      (getArtifact c.id ArtifactKind.deployedBytecode.name) ⟨s, []⟩ = .ok a ⟨s, []⟩ :=
    fun what => by rw [need_calm, getArtifact_run, ha]
  rw [bind_of_ok (hcontract _), bind_of_ok (hartifact _)]
  rfl

theorem markVerified_run (sup : Supply) (p : Package) (chainId : Int) (address : String)
    (endpoint : Url) (s : Store) : markVerified sup p chainId address endpoint ⟨s, []⟩ =
      .ok () ⟨s.matched p chainId address (endpoint.host.map Host.text) sup.now, []⟩ := by
  have hget : attempt .getDeployment (getDeployment p.chain chainId address) ⟨s, []⟩ =
      .ok (s.deployment? p.chain chainId address) ⟨s, []⟩ := by
    rw [attempt_calm, getDeployment_run]
    cases s.deployment? p.chain chainId address <;> rfl
  unfold markVerified
  rw [bind_of_ok hget, matched]
  cases hd : s.deployment? p.chain chainId address with
  | none => rfl
  | some d =>
    dsimp only
    split
    · obtain ⟨e, he⟩ := Option.isSome_iff_exists.1 (show (s.deploymentById? d.id).isSome from
        List.find?_isSome.2 ⟨d, List.mem_of_find?_eq_some hd, by simp⟩)
      have hset := attempt_calm .updateVerificationStatus
        (Store.setVerification d.id true (endpoint.host.map Host.text) sup.now) s
      rw [setVerification_run, he] at hset
      rw [bind_of_ok hset]
      rfl
    · rfl

/-- A request that stands for a comparison is answered by what its verifier reports, and a match
marks the deployment at the address. -/
theorem Resolves.verify_run (h : Resolves s chains q p a v endpoint) (sup : Supply)
    {x : Verification} (hx : x = .ofReport (v.report endpoint (Text.lowercase q.address)
      (Bytecode.decode a.content)) a.contentHash) :
    verify sup chains q ⟨s, []⟩ = .ok x ⟨if x.verified then
      s.matched p q.chainId (Text.lowercase q.address) (endpoint.host.map Host.text) sup.now
      else s, []⟩ := by
  obtain ⟨text, htext, hne, hparse⟩ := h.endpoint
  have hurl : q.rpcUrl.filter (· ≠ "") = some text := by
    rw [htext, Option.filter_some, if_pos (by simpa using hne)]
  have hendpoint : endpointOf text ⟨s, []⟩ = .ok endpoint ⟨s, []⟩ := by
    unfold endpointOf
    rw [hparse]
    rfl
  have hverifier : orElse (.chainNotFound p.chain) (chains.get? p.chain) ⟨s, []⟩ =
      .ok v ⟨s, []⟩ := by
    rw [h.verifier]
    rfl
  unfold verify
  rw [bind_of_ok (checkTarget_of_valid h.address h.chainId _)]
  dsimp only
  rw [bind_of_ok h.target_run]
  dsimp only
  rw [bind_of_ok hverifier, hurl]
  dsimp only
  rw [bind_of_ok hendpoint, ← hx]
  split
  · rw [bind_of_ok (markVerified_run sup p q.chainId (Text.lowercase q.address) endpoint s)]
    rfl
  · rfl

theorem Resolves.answer_eq (h : Resolves s chains q p a v endpoint) (sup : Supply) :
    answer (verify sup chains q) s = .ok (.ofReport (v.report endpoint (Text.lowercase q.address)
      (Bytecode.decode a.content)) a.contentHash) := by
  rw [answer, h.verify_run sup rfl, outcome_ok]

end Resolved

/-- A verification that stands for a comparison succeeds. Its outcome is that of one comparison
when the node gives the same code both times, and no match when the node fails before a full match
was found. Stored outputs that spell the same bytes give the same outcome, which besides tells the
hash of the stored text. -/
theorem verification_is_comparison {s : Store} {chains : Chains} {q : VerifyRequest} {p : Package}
    {a : Artifact} {first second : Fetch} {endpoint : Url}
    (h : Resolves s chains q p a (.evm first second) endpoint) (sup : Supply) :
    ∃ x k, answer (verify sup chains q) s = .ok x ∧ x.Concludes k ∧
      (∀ c, first endpoint (Text.lowercase q.address) = .ok c →
        second endpoint (Text.lowercase q.address) = .ok c →
        Compares c (Bytecode.decode a.content) k) ∧
      (∀ e, first endpoint (Text.lowercase q.address) = .error e → k = .none) ∧
      (∀ c e, first endpoint (Text.lowercase q.address) = .ok c →
        second endpoint (Text.lowercase q.address) = .error e →
        k = if c = Bytecode.decode a.content ∧ c ≠ [] then .full else .none) ∧
      ∀ (t : Store) (p' : Package) (a' : Artifact) (sup' : Supply) (b : Bytes),
        Resolves t chains q p' a' (.evm first second) endpoint →
        Bytecode.Spells a.content b → Bytecode.Spells a'.content b →
        answer (verify sup' chains q) t = .ok { x with expectedHash := a'.contentHash } := by
  refine ⟨_, _, h.answer_eq sup, Verification.concludes_ofReport _ _,
    fun c h₁ h₂ => Verifier.compares_report _ h₁ h₂, fun e h₁ => Verifier.report_of_first_failed h₁,
    fun c e h₁ h₂ => Verifier.report_of_second_failed h₁ h₂, ?_⟩
  intro t p' a' sup' b h' hb hb'
  rw [h'.answer_eq sup', Bytecode.decode_of_spells hb, Bytecode.decode_of_spells hb']
  rfl

/-- A contract published twice, with its code spelled in two ways, and deployed with other
metadata. -/
theorem verification_is_comparison_metadata : ∃ s t chains q a a' x,
    (∃ r, Run Undisturbed .empty r ∧ r.store = s) ∧ (∃ r, Run Undisturbed .empty r ∧ r.store = t) ∧
      a ∈ s.artifacts ∧ a' ∈ t.artifacts ∧ a.content ≠ a'.content ∧ ∀ sup,
        answer (verify sup chains q) s = .ok x ∧ x.matchKind = some .partly ∧ x.verified = true ∧
        answer (verify sup chains q) t = .ok { x with expectedHash := a'.contentHash } := by
  let sup : Supply := ⟨⟨0⟩, fun n => toString n, "secret"⟩
  let request (code : String) : PublishRequest :=
    ⟨"evm", "", none, none, [], [⟨"Token", "", none, none, some code, none, none⟩]⟩
  let published (code : String) : Registry :=
    Event.apply (.request sup (.publish "tokens" "1.0.0" "k1" (request code))) .empty
  let package : Package := (request "").package sup "tokens" "1.0.0" "k1"
  let contract : Contract := ⟨sup.id 1, sup.id 0, "Token", "", Sha256.hex [], ⟨0⟩⟩
  let output? (code : String) : Option Artifact := (published code).store.artifact? contract.id
    ArtifactKind.deployedBytecode.name
  let node : Fetch := fun _ _ => .ok [0x60, 0x0a, 0xa2, 0, 1]
  let q : VerifyRequest :=
    ⟨"tokens", "v1.0.0", "Token", 1, "0x1111111111111111111111111111111111111111",
      some "http://node/"⟩
  have hchain : package.chain = "evm" := by decide +kernel
  have hresolves : ∀ code a,
      (published code).store.package? q.packageName (exactVersion q.version) = some package →
      (published code).store.contract? package.id q.contractName = some contract →
      output? code = some a →
      Resolves (published code).store (.standard node node) q package a (.evm node node)
        ⟨"http://node/", "http", some (.domain "node"), none⟩ :=
    fun code a hp hc ha => ⟨by decide +kernel, by decide, hp, ⟨contract, hc, ha⟩,
      hchain ▸ rfl, "http://node/", rfl, by decide, by decide +kernel⟩
  obtain ⟨a, ha, hcontent⟩ := Option.map_eq_some_iff.1 (show (output? "0x600AA10001").map
    (·.content) = some (Bytes.ofString "0x600AA10001") by decide +kernel)
  obtain ⟨a', ha', hcontent'⟩ := Option.map_eq_some_iff.1 (show (output? "600aa10001").map
    (·.content) = some (Bytes.ofString "600aa10001") by decide +kernel)
  have hmarked := hresolves _ a (by decide +kernel) (by decide +kernel) ha
  have hbare := hresolves _ a' (by decide +kernel) (by decide +kernel) ha'
  have hspells : Bytecode.Spells a.content [0x60, 0x0a, 0xa1, 0, 1] :=
    ⟨[], ['0', 'x'], "600AA10001".toList, [], by rw [hcontent]; decide +kernel, nofun, by decide,
      nofun, .inl (by decide +kernel)⟩
  have hspells' : Bytecode.Spells a'.content [0x60, 0x0a, 0xa1, 0, 1] :=
    ⟨[], [], "600aa10001".toList, [], by rw [hcontent']; decide +kernel, nofun, by decide, nofun,
      .inl (by decide +kernel)⟩
  obtain ⟨x, k, hx, hk, hcompares, -, -, hspelled⟩ := verification_is_comparison hmarked sup
  obtain rfl : k = .partly :=
    (hcompares _ rfl rfl).partly.2 (by rw [Bytecode.decode_of_spells hspells]; decide)
  have hreached : ∀ code, ∃ r, Run Undisturbed .empty r ∧ r.store = (published code).store :=
    fun code => ⟨published code, .snoc .nil trivial, rfl⟩
  have hmem := List.mem_of_find?_eq_some ha
  have hmem' := List.mem_of_find?_eq_some ha'
  refine ⟨(published "0x600AA10001").store, (published "600aa10001").store, .standard node node, q,
    a, a', x, hreached "0x600AA10001", hreached "600aa10001", hmem, hmem', ?_,
    fun sup' => ⟨?_, hk.kind, hk.verified.2 (.inr rfl), ?_⟩⟩
  · rw [hcontent, hcontent']
    decide +kernel
  · rw [hmarked.answer_eq sup', ← hx, hmarked.answer_eq sup]
  · exact hspelled _ _ _ sup' _ hbare hspells hspells'

/-! ## Marks -/

/-- What has become of a deployment when the deployments with some identifier are changed. -/
theorem mem_updateDeployment {s : Store} {id : String} {change : Deployment → Deployment}
    (hkeeps : ∀ d, (change d).id = d.id) (hi : (s.deployments.map (·.id)).Nodup)
    {d d' : Deployment} (hd : d ∈ s.deployments)
    (hd' : d' ∈ (s.updateDeployment id change).deployments) (hid : d'.id = d.id) :
    d' = if d.id = id then change d else d := by
  obtain ⟨e, he, rfl⟩ := List.mem_map.1 hd'
  have heq : e.id = d.id := by
    rw [← hid]
    split
    · exact (hkeeps e).symm
    · rfl
  rw [eq_of_key hi he hd heq]

/-- A deployment that a verification turns into a verified one is the one recorded at the address
of the request. The code there matched the deployed bytecode of a contract of its package, namely
of the one that the request names; the deployment is marked whichever contract it records. -/
theorem marked_by_contract_of_request {sup : Supply} {chains : Chains} {q : VerifyRequest}
    {r t : Registry} {x : Verification} {d d' : Deployment} (hreach : Run Anything .empty r)
    (h : verify sup chains q r = .ok x t) (hd : d ∈ r.store.deployments)
    (hd' : d' ∈ t.store.deployments) (hid : d'.id = d.id) (hbefore : d.verified = false)
    (hafter : d'.verified = true) :
    (d.chainId = q.chainId ∧ d.address = Text.lowercase q.address) ∧
    ∃ c a v endpoint, c ∈ r.store.contracts ∧ c.packageId = d.packageId ∧
      c.name = q.contractName ∧ a ∈ r.store.artifacts ∧ a.contractId = c.id ∧
      a.kind? = some .deployedBytecode ∧ a.contentHash = x.expectedHash ∧
      chains.get? d.chain = some v ∧
      (v.report endpoint d.address (Bytecode.decode a.content)).isMatch = true ∧
      d' = d.marked true (endpoint.host.map Host.text) sup.now := by
  have hi := hreach.integrity integrity_empty
  rcases verify_ok h with hsame | ⟨⟨m⟩⟩
  · rw [hsame] at hd'
    rw [eq_of_key hi.deploymentIds hd' hd hid, hbefore] at hafter
    cases hafter
  · rw [m.after_eq] at hd'
    have hrow := mem_updateDeployment (fun d => rfl : ∀ d : Deployment,
      (d.marked true (m.endpoint.host.map Host.text) sup.now).id = d.id)
      hi.deploymentIds hd hd' hid
    have hfound := m.deployment_eq
    split at hrow
    · rename_i hmarked
      obtain rfl := eq_of_key hi.deploymentIds hd (List.mem_of_find?_eq_some hfound) hmarked
      have hat := List.find?_some hfound
      simp only [Deployment.isAt, Bool.and_eq_true, decide_eq_true_eq] at hat
      obtain ⟨⟨hchain, hchainId⟩, haddress⟩ := hat
      obtain ⟨hc, hhome⟩ := contract?_mem m.contract_eq
      have hname := List.find?_some m.contract_eq
      have hslot := List.find?_some m.artifact_eq
      simp only [Bool.and_eq_true, decide_eq_true_eq] at hname hslot
      have hverified := m.verified
      rw [m.answer_eq] at hverified
      refine ⟨⟨hchainId, haddress⟩, m.contract, m.artifact, m.verifier, m.endpoint, hc,
        hhome.trans m.home.symm, hname, List.mem_of_find?_eq_some m.artifact_eq, hslot.1, ?_, ?_,
        hchain ▸ m.verifier_eq, ?_, hrow⟩
      · rw [Artifact.kind?, hslot.2]
        rfl
      · exact (congrArg Verification.expectedHash m.answer_eq).symm
      · rw [haddress]
        exact hverified
    · rw [hrow, hbefore] at hafter
      cases hafter

/-- A package with two contracts, the first of which is recorded as deployed. -/
def tokenAndVault : Store :=
  let noCode := Sha256.hex []
  { packages := [⟨"0", "tokens", "1.0.0", "evm", "", none, none, "\x7b\x7d", "k1", ⟨0⟩⟩]
    owners := [⟨"tokens", "k1", ⟨0⟩⟩]
    contracts := [⟨"1", "0", "Token", "", noCode, ⟨0⟩⟩, ⟨"3", "0", "Vault", "", noCode, ⟨0⟩⟩]
    artifacts :=
      [⟨"2", "1", "deployed-bytecode", Bytes.ofString "0x6001",
        "6b73db9efe10e005887813096cd35d559cf7739dc68257127e6aaa2603e40d14", ⟨0⟩⟩,
      ⟨"4", "3", "deployed-bytecode", Bytes.ofString "0x6002",
        "73663a9a7925a3545480d1d3f7764638a4da0c64f63074b148550f8c22620e82", ⟨0⟩⟩]
    deployments := [⟨"9", "0", "Token", "evm", 1, "0x1111111111111111111111111111111111111111",
      none, none, none, none, false, none, none, ⟨0⟩⟩]
    keys := [] }

theorem tokenAndVault_reached : Run Undisturbed .empty ⟨tokenAndVault, []⟩ := by
  let supply (n : Nat) : Supply := ⟨⟨0⟩, fun k => toString (k + n), "secret"⟩
  let contract (name code : String) : ContractSubmission :=
    ⟨name, "", none, none, some code, none, none⟩
  let published : Event := .request (supply 0) (.publish "tokens" "1.0.0" "k1"
    ⟨"evm", "", none, none, [], [contract "Token" "0x6001", contract "Vault" "0x6002"]⟩)
  let recorded : Event := .request (supply 9) (.record ⟨"tokens", "1.0.0", "Token", 1,
    "0x1111111111111111111111111111111111111111", none, none, none, none, none⟩)
  have hrun : Run Undisturbed .empty (recorded.apply (published.apply .empty)) :=
    .snoc (.snoc .nil trivial) trivial
  have hend : recorded.apply (published.apply .empty) = ⟨tokenAndVault, []⟩ := by decide +kernel
  rwa [hend] at hrun

/-- A request that names either contract and finds its code marks the deployment. -/
theorem tokenAndVault_marked (named : String) (code : Bytes) {c : Contract} {a : Artifact}
    (hc : tokenAndVault.contract? "0" named = some c)
    (ha : tokenAndVault.artifact? c.id ArtifactKind.deployedBytecode.name = some a)
    (hcode : Bytecode.decode a.content = code) (hne : code ≠ []) : ∃ sup node q x,
    q.contractName = named ∧ x.expectedHash = a.contentHash ∧
      verify sup (.standard node node) q ⟨tokenAndVault, []⟩ = .ok x
        ⟨tokenAndVault.updateDeployment "9" (·.marked true (some "node") ⟨0⟩), []⟩ := by
  let sup : Supply := ⟨⟨0⟩, fun k => toString k, "secret"⟩
  let address := "0x1111111111111111111111111111111111111111"
  let node : Fetch := fun _ _ => .ok code
  let q : VerifyRequest := ⟨"tokens", "1.0.0", named, 1, address, some "http://node/"⟩
  let endpoint : Url := ⟨"http://node/", "http", some (.domain "node"), none⟩
  have haddress : Naming.isAddress address := by decide +kernel
  have hpackage : tokenAndVault.package? "tokens" (exactVersion "1.0.0") =
      tokenAndVault.packages.head? := by decide +kernel
  have hendpoint : Url.parse "http://node/" = .ok endpoint := by decide +kernel
  have hresolves : Resolves tokenAndVault (.standard node node) q _ a (.evm node node) endpoint :=
    ⟨haddress, rfl, hpackage, ⟨c, hc, ha⟩, rfl, "http://node/", rfl, by decide, hendpoint⟩
  have hfetch : node endpoint (Text.lowercase address) = .ok code := rfl
  have hfull := Verifier.compares_report (Bytecode.decode a.content) hfetch hfetch
  let x : Verification := .ofReport ((Verifier.evm node node).report endpoint
    (Text.lowercase address) (Bytecode.decode a.content)) a.contentHash
  have hverified : x.verified = true :=
    (Verification.concludes_ofReport _ _).verified.2 (.inl (hfull.full.2 ⟨hcode.symm, hne⟩))
  refine ⟨sup, node, q, x, rfl, rfl, (hresolves.verify_run sup rfl).trans ?_⟩
  rw [if_pos hverified]
  have hmatched : ∀ p ∈ tokenAndVault.packages,
      tokenAndVault.matched p 1 (Text.lowercase address) (some "node") ⟨0⟩ =
        tokenAndVault.updateDeployment "9" (·.marked true (some "node") ⟨0⟩) := by decide +kernel
  exact congrArg (fun s => EStateM.Result.ok x (⟨s, []⟩ : Registry))
    (hmatched _ (List.mem_singleton_self _))

theorem tokenAndVault_sorted : tokenAndVault.contractsOf "0" = tokenAndVault.contracts :=
  List.mergeSort_of_pairwise (by decide)

/-- Code of the contract that is recorded. -/
theorem marked_by_contract_of_request_token : ∃ r sup chains q t x, Run Anything .empty r ∧
    verify sup chains q r = .ok x t ∧ ∃ d ∈ r.store.deployments, ∃ d' ∈ t.store.deployments,
      d.verified = false ∧ d'.verified = true ∧ ∃ c a, c ∈ r.store.contracts ∧
        c.name = d.contractName ∧ a ∈ r.store.artifacts ∧ a.contractId = c.id ∧
        a.contentHash = x.expectedHash := by
  obtain ⟨sup, node, q, x, hname, -, h⟩ := tokenAndVault_marked "Token" [0x60, 1]
    (by rw [contract?, tokenAndVault_sorted]; rfl) rfl (by decide +kernel) (by decide)
  have hreach : Run Anything .empty ⟨tokenAndVault, []⟩ :=
    tokenAndVault_reached.mono fun _ _ _ => trivial
  obtain ⟨-, c, a, -, -, hc, -, hcname, ha, hac, -, hhash, -⟩ :=
    marked_by_contract_of_request hreach h (List.mem_singleton_self _) (List.mem_singleton_self _)
      rfl rfl rfl
  exact ⟨_, sup, _, q, _, x, hreach, h, _, List.mem_singleton_self _, _, List.mem_singleton_self _,
    rfl, rfl, c, a, hc, hcname.trans hname, ha, hac, hhash⟩

/-- Code of the other contract marks the deployment as well, though nothing that was published of
the recorded contract was compared with it. -/
theorem marked_by_other_contract : ∃ r sup chains q t x, Run Undisturbed .empty r ∧
    verify sup chains q r = .ok x t ∧ ∃ d ∈ r.store.deployments, ∃ d' ∈ t.store.deployments,
      d'.id = d.id ∧ d.verified = false ∧ d'.verified = true ∧
      ∀ c ∈ r.store.contracts, c.packageId = d.packageId → c.name = d.contractName →
        ∀ a ∈ r.store.artifacts, a.contractId = c.id → a.contentHash ≠ x.expectedHash := by
  obtain ⟨sup, node, q, x, -, hhash, h⟩ := tokenAndVault_marked "Vault" [0x60, 2]
    (by rw [contract?, tokenAndVault_sorted]; rfl) rfl (by decide +kernel)
    (by decide)
  refine ⟨_, sup, _, q, _, x, tokenAndVault_reached, h, _, List.mem_singleton_self _, _,
    List.mem_singleton_self _, rfl, rfl, rfl, ?_⟩
  rw [hhash]
  decide +kernel

end Registry

end BuildRegistry
