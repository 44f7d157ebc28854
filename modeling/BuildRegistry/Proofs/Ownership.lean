import BuildRegistry.Proofs.Runs

/-
  Who owns a name. In runs without outages a publication always claims its name, so every stored
  version belongs to the owner of its name (`Owned`). Owner records are only ever appended, a name
  gets one exactly when it is published for the first time, and whoever is not the owner is turned
  away from publishing and deleting before anything is written.
-/

namespace BuildRegistry

namespace Store

/-- Every stored version belongs to the owner of its name. -/
def Owned (s : Store) : Prop := ∀ p ∈ s.packages, s.owner? p.name = some p.ownerId

variable {s t : Store} {sup : Supply} {a : Registry.Action}

/-- Owner records are appended, never changed or taken away. -/
theorem owners_grow {calm : Prop} (h : Registry.Change calm sup a s t) :
    s.owners <+: t.owners := by
  cases h with
  | @published _ _ _ _ _ _ u _ _ hpub hclaim =>
    rcases hclaim with rfl | ⟨-, rfl⟩
    · exact hpub.owners ▸ prefix_claiming _ _ _ _
    · exact hpub.owners ▸ List.prefix_rfl
  | nothing | deleted | recorded | marked | keysChanged => exact List.prefix_rfl

theorem owner?_of_prefix (h : s.owners <+: t.owners) {name o : String}
    (ho : s.owner? name = some o) : t.owner? name = some o := by
  obtain ⟨rest, hrest⟩ := h
  rw [owner?] at ho ⊢
  rw [← hrest, List.find?_append, Option.map_or, ho]
  rfl

/-- The owners after a publication. -/
theorem owner?_published {name v ownerId : String} {q : PublishRequest}
    (h : Registry.Published sup name v ownerId q s t) (n : String) :
    (t.claiming name ownerId sup.now).owner? n =
      (s.owner? n).or (if name = n then some ownerId else none) := by
  rw [owner?_claiming, owner?, owner?, h.owners]

theorem owned_of_change (h : Registry.Change True sup a s t) (ho : Owned s) : Owned t := by
  have hgrow := owners_grow h
  cases h with
  | @published name _ v ownerId q _ u _ _ hpub hclaim =>
    obtain rfl := hclaim.resolve_right fun h => h.1 trivial
    intro p hp
    rw [claiming_packages, hpub.packages] at hp
    rcases List.mem_append.1 hp with hp | hp
    · exact owner?_of_prefix hgrow (ho p hp)
    · -- the new version belongs to the owner, an earlier one or this publisher
      obtain rfl := List.mem_singleton.1 hp
      change (u.claiming name ownerId sup.now).owner? name = some ownerId
      rw [owner?_published hpub, if_pos rfl]
      cases hname : s.owner? name with
      | none => rfl
      | some o => rw [hpub.owner o hname]; rfl
  | deleted => exact fun p hp => ho p (List.mem_filter.1 hp).1
  | nothing | recorded | marked | keysChanged => exact ho

end Store

namespace Registry

open Store

/-- The event is a publication of a version of that name, and it succeeds. -/
def Publishes (name ownerId : String) (r : Registry) (e : Event) : Prop :=
  ∃ s version q p t, e = .request s (.publish name version ownerId q) ∧
    publish s name version ownerId q r = .ok p t

variable {r t : Registry}

theorem Event.owners_grow (e : Event) (r : Registry) :
    r.store.owners <+: (e.apply r).store.owners := by
  rcases e.cases_store r with hsame | ⟨s, a, t, -, h, happly⟩
  · exact hsame ▸ List.prefix_rfl
  · exact happly ▸ Store.owners_grow (perform_ok h)

theorem Run.owners_grow {P : Registry → Event → Prop} (hrun : Run P r t) :
    r.store.owners <+: t.store.owners := by
  induction hrun with
  | nil => exact List.prefix_rfl
  | snoc _ _ ih => exact ih.trans (Event.owners_grow _ _)

/-- In a registry in which no outage waits. -/
theorem perform_ok_calm {s : Supply} {a : Action} {u : Unit} (hcalm : r.outages = [])
    (h : perform s a r = .ok u t) : Change True s a r.store t.store := by
  have hchange := perform_ok h
  rwa [eq_true hcalm] at hchange

theorem Run.owned (hrun : Run Undisturbed r t) (hcalm : r.outages = []) (hr : Owned r.store) :
    Owned t.store := by
  induction hrun with
  | nil => exact hr
  | @snoc u e hrun he ih =>
    rcases e.cases_store u with hsame | ⟨s, a, t, -, h, happly⟩
    · rwa [hsame]
    · rw [happly]
      exact owned_of_change (perform_ok_calm (hrun.calm hcalm) h) ih

/-! ## How a name gets its owner -/

theorem owner?_of_publish {s : Supply} {name version ownerId : String} {q : PublishRequest}
    {p : Package} (h : publish s name version ownerId q r = .ok p t) (hcalm : r.outages = [])
    (n : String) : t.store.owner? n =
      (r.store.owner? n).or (if name = n then some ownerId else none) := by
  obtain ⟨v, u, -, -, hpub, ht⟩ := publish_ok h
  rw [ht.resolve_right fun h => h.1 hcalm, owner?_published hpub]

/-- Only a publication changes who owns what. -/
theorem owner?_of_change {s : Supply} {a : Action} {st st' : Store}
    (h : Change True s a st st') : (∀ n, st'.owner? n = st.owner? n) ∨
      ∃ name version ownerId q, a = .publish name version ownerId q ∧
        ∀ n, st'.owner? n = (st.owner? n).or (if name = n then some ownerId else none) := by
  cases h with
  | @published name version _ ownerId q _ u _ _ hpub hclaim =>
    obtain rfl := hclaim.resolve_right fun h => h.1 trivial
    exact .inr ⟨name, version, ownerId, q, rfl, owner?_published hpub⟩
  | nothing | deleted | recorded | marked | keysChanged => exact .inl fun _ => rfl

/-- A name without an owner gets one exactly from its publication. -/
theorem Event.owner?_eq_some_iff {e : Event} {name o : String}
    (hcalm : r.outages = []) (hnone : r.store.owner? name = none) :
    (e.apply r).store.owner? name = some o ↔ Publishes name o r e := by
  constructor
  · intro ho
    rcases e.cases_store r with hsame | ⟨s, a, t, rfl, h, happly⟩
    · rw [hsame, hnone] at ho
      cases ho
    · rw [happly] at ho
      rcases owner?_of_change (perform_ok_calm hcalm h) with
        hsame | ⟨name', version, ownerId, q, rfl, heq⟩
      · rw [hsame, hnone] at ho
        cases ho
      · rw [heq, hnone, Option.none_or] at ho
        split at ho
        · rename_i hname
          obtain rfl := hname
          obtain rfl := Option.some.inj ho
          obtain ⟨p, hp⟩ := silently_ok h
          exact ⟨s, version, q, p, t, rfl, hp⟩
        · cases ho
  · rintro ⟨s, version, q, p, t, rfl, hp⟩
    have hperf : perform s (.publish name version o q) r = .ok () t := bind_of_ok hp
    rw [Event.apply, hperf, endState_ok, owner?_of_publish hp hcalm, hnone, if_pos rfl]
    rfl

/-- No outage comes up, and the name is not published. -/
def Unpublished (name : String) (r : Registry) (e : Event) : Prop :=
  Undisturbed r e ∧ ∀ o, ¬ Publishes name o r e

/-- The first publication of the name on the way to this registry was made by `o`. -/
def FirstPublisher (name o : String) (r : Registry) : Prop :=
  ∃ r₁ e, Run (Unpublished name) .empty r₁ ∧ Undisturbed r₁ e ∧ Publishes name o r₁ e ∧
    Run Undisturbed (e.apply r₁) r

theorem Run.undisturbed {name : String} (hrun : Run (Unpublished name) r t) :
    Run Undisturbed r t := hrun.mono fun _ _ h => h.1

theorem Run.unowned {name : String} (hrun : Run (Unpublished name) .empty r) :
    r.store.owner? name = none := by
  induction hrun with
  | nil => rfl
  | @snoc r e hrun he ih =>
    cases ho : (e.apply r).store.owner? name with
    | none => rfl
    | some o =>
      exact absurd ((Event.owner?_eq_some_iff (hrun.undisturbed.calm rfl) ih).1 ho) (he.2 o)

/-- Either nobody has published the name yet, or its owner is the first who did. -/
theorem Run.owner_cases (hrun : Run Undisturbed .empty r) (name : String) :
    r.store.owner? name = none ∧ Run (Unpublished name) .empty r ∨
      ∃ o, r.store.owner? name = some o ∧ FirstPublisher name o r := by
  induction hrun with
  | nil => exact .inl ⟨rfl, .nil⟩
  | @snoc r e hrun he ih =>
    rcases ih with ⟨hnone, hfree⟩ | ⟨o, ho, r₁, e₁, hfree, he₁, hpub, hrest⟩
    · have hiff : ∀ o, (e.apply r).store.owner? name = some o ↔ Publishes name o r e :=
        fun o => Event.owner?_eq_some_iff (hrun.calm rfl) hnone
      cases ho : (e.apply r).store.owner? name with
      | none =>
        refine .inl ⟨rfl, hfree.snoc ⟨he, fun o hpub => ?_⟩⟩
        rw [(hiff o).2 hpub] at ho
        cases ho
      | some o => exact .inr ⟨o, rfl, r, e, hfree, he, (hiff o).1 ho, .nil⟩
    · exact .inr ⟨o, owner?_of_prefix (Event.owners_grow e r) ho, r₁, e₁, hfree, he₁, hpub,
        hrest.snoc he⟩

theorem FirstPublisher.owner? {name o : String} (h : FirstPublisher name o r) :
    r.store.owner? name = some o := by
  obtain ⟨r₁, e, hfree, he, hpub, hrest⟩ := h
  have ho := (Event.owner?_eq_some_iff (hfree.undisturbed.calm rfl) hfree.unowned).2 hpub
  exact owner?_of_prefix hrest.owners_grow ho

/-! ## Others are turned away -/

theorem checkOwner_of_other {name o other : String} (hcalm : r.outages = [])
    (ho : r.store.owner? name = some o) (hne : other ≠ o) :
    checkOwner name other r = .error (.forbidden name) r := by
  obtain ⟨s, outages⟩ := r
  obtain rfl : outages = [] := hcalm
  have hfound : use .getPackageOwner (packageOwner name) ⟨s, []⟩ = .ok (some o) ⟨s, []⟩ := by
    rw [use_calm, packageOwner_run]
    exact congrArg (EStateM.Result.ok · (⟨s, []⟩ : Registry)) ho
  unfold checkOwner
  rw [bind_of_ok hfound]
  dsimp only
  rw [if_pos (Ne.symm hne)]
  rfl

/-- Who does not own a name publishes nothing under it. -/
theorem publish_of_other {name o other : String} (hcalm : r.outages = [])
    (ho : r.store.owner? name = some o) (hne : other ≠ o) (s : Supply) (version : String)
    (q : PublishRequest) : ∃ e, publish s name version other q r = .error e r ∧
      (Naming.isPackageName name → (Version.normalize? version).isSome →
        Publishable q.contracts → e = .forbidden name) := by
  unfold publish
  dsimp only
  by_cases hname : Naming.isPackageName name
  · rw [if_neg (by simpa using hname)]
    cases hv : Version.normalize? version with
    | none => exact ⟨_, bind_of_error rfl, fun _ h => by cases h⟩
    | some v =>
      rw [bind_of_ok (show orElse _ (some v) r = .ok v r from rfl)]
      rcases checkContracts_run q.contracts r with ⟨hcs, h⟩ | ⟨hcs, e, h⟩
      · rw [bind_of_ok h]
        exact ⟨_, bind_of_error (checkOwner_of_other hcalm ho hne), fun _ _ _ => rfl⟩
      · exact ⟨e, bind_of_error h, fun _ _ h => absurd h hcs⟩
  · rw [if_pos (by simpa using hname)]
    exact ⟨_, bind_of_error rfl, fun h => absurd h hname⟩

/-- Who does not own a name deletes nothing under it. -/
theorem delete_of_other {name o other : String} (hcalm : r.outages = [])
    (ho : r.store.owner? name = some o) (hne : other ≠ o) (version : String) :
    ∃ e, delete name version other r = .error e r ∧
      ((Version.normalize? version).isSome → e = .forbidden name) := by
  unfold delete
  cases hv : Version.normalize? version with
  | none => exact ⟨_, bind_of_error rfl, fun h => by cases h⟩
  | some v =>
    rw [bind_of_ok (show orElse _ (some v) r = .ok v r from rfl)]
    exact ⟨_, bind_of_error (checkOwner_of_other hcalm ho hne), fun _ => rfl⟩

/-- A name belongs to its first publisher for good, and so do all its versions: nobody else
publishes or deletes any of them. -/
theorem first_publisher_owns (hreach : Run Undisturbed .empty r) :
    (∀ p ∈ r.store.packages, r.store.owner? p.name = some p.ownerId) ∧
    (∀ name o, r.store.owner? name = some o ↔ FirstPublisher name o r) ∧
    (r.store.owners.map (·.name)).Nodup ∧
    (∀ t, Run Undisturbed r t → r.store.owners <+: t.store.owners ∧
      ∀ name o, r.store.owner? name = some o → t.store.owner? name = some o) ∧
    ∀ name o other, r.store.owner? name = some o → other ≠ o →
      (∀ s version q, ∃ e, publish s name version other q r = .error e r ∧
        (Naming.isPackageName name → (Version.normalize? version).isSome →
          Publishable q.contracts → e = .forbidden name)) ∧
      ∀ version, ∃ e, delete name version other r = .error e r ∧
        ((Version.normalize? version).isSome → e = .forbidden name) := by
  have hcalm := hreach.calm rfl
  refine ⟨hreach.owned rfl (by simp [Owned, Registry.empty, Store.empty]), fun name o => ⟨?_, ?_⟩,
    (hreach.integrity integrity_empty).ownerNames, fun t hrun => ⟨hrun.owners_grow, ?_⟩, ?_⟩
  · intro ho
    rcases hreach.owner_cases name with ⟨hnone, -⟩ | ⟨o', ho', hfirst⟩
    · rw [hnone] at ho
      cases ho
    · rw [ho'] at ho
      cases ho
      exact hfirst
  · exact fun hfirst => hfirst.owner?
  · exact fun name o ho => owner?_of_prefix hrun.owners_grow ho
  · exact fun name o other ho hne => ⟨publish_of_other hcalm ho hne, delete_of_other hcalm ho hne⟩

/-- A name that was published once. -/
theorem first_publisher_owns_tokens : ∃ r, Run Undisturbed .empty r ∧
    FirstPublisher "tokens" "k1" r ∧
    delete "tokens" "v1.0.0" "k2" r = .error (.forbidden "tokens") r := by
  let s : Supply := ⟨⟨0⟩, fun n => toString n, "secret"⟩
  let token : ContractSubmission := ⟨"Token", "src/Token.sol", none, none, none, none, none⟩
  let first : Event :=
    .request s (.publish "tokens" "1.0.0" "k1" ⟨"evm", "", none, none, [], [token]⟩)
  have hrun : Run Undisturbed .empty (first.apply .empty) := .snoc .nil trivial
  have ho : (first.apply .empty).store.owner? "tokens" = some "k1" := by decide +kernel
  obtain ⟨-, hfirst, -, -, hothers⟩ := first_publisher_owns hrun
  obtain ⟨e, hdel, he⟩ := (hothers "tokens" "k1" "k2" ho (by decide)).2 "v1.0.0"
  rw [he (by decide)] at hdel
  exact ⟨_, hrun, (hfirst "tokens" "k1").1 ho, hdel⟩

end Registry

end BuildRegistry
